import DealForm.CommandLine.Footprint
import DealForm.Proofs.File.Frame

/-!
# Trees that agree along a path

Following a path looks at the places on its way and nowhere else. Where two trees agree on these,
reading and writing go the same way in both, and the same entries are put into them.
-/

namespace DealForm.FileTree

variable {t t' u u' v v' : FileTree} {place next q : Location} {name : Name}
  {names front : List Name} {p : Path} {content : Bytes}

/-! ## Walking -/

/-- The trees agree on the places that names lead through, and on whether they start in a
directory. -/
structure AgreeAlong (t t' : FileTree) (place : Location) (names : List Name) : Prop where
  start : t'.isDirectoryAt place = t.isDirectoryAt place
  along : ∀ q ∈ Location.along place names, t'.node? q = t.node? q

theorem isDirectoryAt_congr (h : t'.node? q = t.node? q) :
    t'.isDirectoryAt q = t.isDirectoryAt q := by
  rw [isDirectoryAt, h, isDirectoryAt]

theorem along_cons_of_step (h : t.step place name = .ok next) (names : List Name) :
    Location.along place (name :: names) = next :: Location.along next names := by
  unfold step at h
  rw [Location.along]
  split_ifs at h ⊢ <;> cases h <;> rfl

theorem along_shorten (place : Location) (h : front <+: names) :
    Location.along place front <+: Location.along place names := by
  induction front generalizing place names with
  | nil => exact List.nil_prefix
  | cons name front ih =>
      obtain ⟨rest, rfl⟩ := h
      exact List.cons_prefix_cons.mpr ⟨rfl, ih _ (List.prefix_append front rest)⟩

theorem AgreeAlong.shorten (h : t.AgreeAlong t' place names) (hfront : front <+: names) :
    t.AgreeAlong t' place front where
  start := h.start
  along q hq := h.along q ((along_shorten place hfront).subset hq)

theorem mem_along_of_walk (h : t.walk place names = .ok q) :
    q = place ∨ q ∈ Location.along place names := by
  induction names generalizing place with
  | nil =>
      cases h
      exact Or.inl rfl
  | cons name names ih =>
      obtain ⟨next, hstep, hrest⟩ := bind_eq_ok.mp h
      rw [along_cons_of_step hstep]
      rcases ih hrest with rfl | hmem
      · exact Or.inr List.mem_cons_self
      · exact Or.inr (List.mem_cons_of_mem next hmem)

theorem AgreeAlong.isDirectoryAt_eq (h : t.AgreeAlong t' place names)
    (hwalk : t.walk place names = .ok q) : t'.isDirectoryAt q = t.isDirectoryAt q := by
  rcases mem_along_of_walk hwalk with rfl | hmem
  · exact h.start
  · exact isDirectoryAt_congr (h.along q hmem)

/-! ## The same changes -/

/-- From `t` to `u` and from `t'` to `u'` the same entries were put. -/
inductive SameChanges (t t' : FileTree) : FileTree → FileTree → Prop where
  | refl : SameChanges t t' t t'
  | put {u u' : FileTree} {place : Location} (node : FileNode) (hplace : place ≠ [])
    (h : SameChanges t t' u u') : SameChanges t t' (u.put place node) (u'.put place node)

theorem SameChanges.trans (h : SameChanges t t' u u') (h' : SameChanges u u' v v') :
    SameChanges t t' v v' := by
  induction h' with
  | refl => exact h
  | put node hplace _ ih => exact ih.put node hplace

theorem SameChanges.workingDirectory (h : SameChanges t t' u u') :
    u.workingDirectory = t.workingDirectory ∧ u'.workingDirectory = t'.workingDirectory := by
  induction h with
  | refl => exact ⟨rfl, rfl⟩
  | put node hplace _ ih => exact ih

/-- What differs afterwards differed before, and has not been changed. -/
theorem SameChanges.node?_eq_or (h : SameChanges t t' u u') (q : Location) :
    u'.node? q = u.node? q ∨ (u.node? q = t.node? q ∧ u'.node? q = t'.node? q) := by
  induction h with
  | refl => exact Or.inr ⟨rfl, rfl⟩
  | @put u u' place node hplace _ ih =>
      rw [node?_put hplace, node?_put hplace]
      split
      · exact Or.inl rfl
      · exact ih

theorem SameChanges.node?_eq (h : SameChanges t t' u u') (hq : t'.node? q = t.node? q) :
    u'.node? q = u.node? q := by
  rcases h.node?_eq_or q with heq | ⟨hu, hu'⟩
  · exact heq
  · rw [hu, hu', hq]

theorem SameChanges.isDirectoryAt_eq (h : SameChanges t t' u u')
    (hq : t'.isDirectoryAt q = t.isDirectoryAt q) :
    u'.isDirectoryAt q = u.isDirectoryAt q := by
  rcases h.node?_eq_or q with heq | ⟨hu, hu'⟩
  · exact isDirectoryAt_congr heq
  · rw [isDirectoryAt, hu', isDirectoryAt, hu]
    exact hq

theorem AgreeAlong.of_sameChanges (h : t.AgreeAlong t' place names)
    (hchanges : SameChanges t t' u u') : u.AgreeAlong u' place names where
  start := hchanges.isDirectoryAt_eq h.start
  along q hq := hchanges.node?_eq (h.along q hq)

/-! ## Paths -/

/-- The trees have one working directory and agree along a path. -/
structure AgreeOn (t t' : FileTree) (p : Path) (names : List Name) : Prop where
  workingDirectory : t'.workingDirectory = t.workingDirectory
  along : t.AgreeAlong t' (t.start p) names

theorem start_congr (h : t'.workingDirectory = t.workingDirectory) (p : Path) :
    t'.start p = t.start p := by
  rw [start, h, start]

theorem AgreeOn.shorten (h : t.AgreeOn t' p names) (hfront : front <+: names) :
    t.AgreeOn t' p front where
  workingDirectory := h.workingDirectory
  along := h.along.shorten hfront

theorem AgreeOn.of_sameChanges (h : t.AgreeOn t' p names) (hchanges : SameChanges t t' u u') :
    u.AgreeOn u' p names where
  workingDirectory := by
    rw [hchanges.workingDirectory.1, hchanges.workingDirectory.2, h.workingDirectory]
  along := by
    rw [start_congr hchanges.workingDirectory.1]
    exact h.along.of_sameChanges hchanges

theorem AgreeOn.parent {parent : Path} (h : t.AgreeOn t' p p.names.dropLast)
    (hparent : p.parent? = some parent) : t.AgreeOn t' parent parent.names := by
  obtain ⟨hnames, habsolute⟩ := Path.names_parent? hparent
  have hstart : t.start parent = t.start p := start_eq_of_isAbsolute habsolute
  exact ⟨h.workingDirectory, hstart ▸ h.along.shorten hnames⟩

section Within

variable {turns : Nat} {fault : FileFault}

theorem makeDirectoriesWithin_of_fault (hbytes : ¬ p.bytes.isEmpty = true)
    (h : t.makeDirectory p = .error fault) (hfault : fault ≠ .notFound) :
    makeDirectoriesWithin (turns + 1) t p =
      if t.isDirectory p then (t, .ok ()) else (t, .error fault) := by
  rw [makeDirectoriesWithin, if_neg hbytes, h]
  cases fault with
  | notFound => exact absurd rfl hfault
  | _ => rfl

end Within

/-- The trees agree on the way to a file, and on whether a directory stands in its place. -/
structure AgreeOnFile (t t' : FileTree) (p : Path) : Prop where
  above : t.AgreeOn t' p p.names.dropLast
  isDirectoryAt : ∀ q ∈ Location.along (t.start p) p.names,
    t'.isDirectoryAt q = t.isDirectoryAt q

theorem AgreeOnFile.of_sameChanges (h : t.AgreeOnFile t' p) (hchanges : SameChanges t t' u u') :
    u.AgreeOnFile u' p where
  above := h.above.of_sameChanges hchanges
  isDirectoryAt q hq := by
    rw [start_congr hchanges.workingDirectory.1] at hq
    exact hchanges.isDirectoryAt_eq (h.isDirectoryAt q hq)

end DealForm.FileTree
