import DealForm.File.Tree
import DealForm.Proofs.Outcome
import DealForm.Proofs.Text.Utf8

/-!
# What was written can be read

A file that is put at a place where no directory is leaves every path passable that was passable
before. So the path that a file was written to leads to it, and reading gives back the content.
-/

namespace DealForm.FileTree

variable {t t' : FileTree} {place next q : Location} {node : FileNode}
  {names front : List Name} {p : Path} {content : Bytes}

/-! ## Putting an entry -/

theorem find?_putEntry (place : Location) (node : FileNode) (es : List (Location × FileNode))
    (q : Location) : (putEntry place node es).find? (·.1 == q) =
      if place = q then some (place, node) else es.find? (·.1 == q) := by
  induction es with
  | nil => by_cases h : place = q <;> simp [putEntry, h]
  | cons e es ih =>
      obtain ⟨r, n⟩ := e
      by_cases hr : r = place
      · subst hr
        by_cases h : r = q <;> simp [putEntry, h]
      · by_cases hq : r = q
        · subst hq
          simp [putEntry, hr, Ne.symm hr]
        · simp [putEntry, hr, hq, ih]

theorem node?_put (hplace : place ≠ []) (t : FileTree) (node : FileNode) (q : Location) :
    (t.put place node).node? q = if place = q then some node else t.node? q := by
  unfold node? put
  rw [find?_putEntry]
  by_cases hq : q = []
  · simp [hq, hplace]
  · by_cases h : place = q <;> simp [hq, h]

/-! ## Names one after the other -/

theorem start_eq_of_isAbsolute {p' : Path} (h : p'.isAbsolute = p.isAbsolute) :
    t.start p' = t.start p := by
  rw [start, h, start]

theorem walk_append (t : FileTree) (place : Location) (front names : List Name) :
    t.walk place (front ++ names) = t.walk place front >>= fun mid ↦ t.walk mid names :=
  List.foldlM_append

theorem walk_append_eq_ok : t.walk place (front ++ names) = .ok q ↔
    ∃ mid, t.walk place front = .ok mid ∧ t.walk mid names = .ok q := by
  rw [walk_append]
  exact bind_eq_ok

theorem walk_singleton (t : FileTree) (place : Location) (name : Name) :
    t.walk place [name] = t.step place name := by
  rw [walk, List.foldlM_cons]
  cases t.step place name <;> rfl

theorem walk_concat_eq_ok {last : Name} : t.walk place (front ++ [last]) = .ok q ↔
    ∃ directory, t.walk place front = .ok directory ∧ t.step directory last = .ok q := by
  simp only [walk_append_eq_ok, walk_singleton]

/-! ## Paths that stay passable -/

/-- Directories stay directories and entries stay entries. -/
structure Keeps (t t' : FileTree) : Prop where
  workingDirectory : t'.workingDirectory = t.workingDirectory
  isDirectoryAt : ∀ q, t.isDirectoryAt q = true → t'.isDirectoryAt q = true
  isSome_node? : ∀ q, (t.node? q).isSome = true → (t'.node? q).isSome = true

theorem keeps_put (hplace : place ≠ []) (hfile : t.isDirectoryAt place = false)
    (node : FileNode) : t.Keeps (t.put place node) where
  workingDirectory := rfl
  isDirectoryAt q hq := by
    have hne : place ≠ q := by
      rintro rfl
      rw [hfile] at hq
      cases hq
    rw [isDirectoryAt, node?_put hplace, if_neg hne]
    exact hq
  isSome_node? q hq := by
    rw [node?_put hplace]
    split
    · rfl
    · exact hq

theorem Keeps.step (h : t.Keeps t') {name : Name} (hstep : t.step place name = .ok next) :
    t'.step place name = .ok next := by
  have hdirectory := h.isDirectoryAt place
  have hentry := h.isSome_node? (place ++ [name])
  unfold FileTree.step at hstep ⊢
  grind

theorem Keeps.walk (h : t.Keeps t') (hwalk : t.walk place names = .ok next) :
    t'.walk place names = .ok next := by
  induction names generalizing place with
  | nil => exact hwalk
  | cons name names ih =>
      obtain ⟨mid, hstep, hrest⟩ := bind_eq_ok.mp hwalk
      exact bind_eq_ok.mpr ⟨mid, h.step hstep, ih hrest⟩

theorem Keeps.refl (t : FileTree) : t.Keeps t := ⟨rfl, fun _ h ↦ h, fun _ h ↦ h⟩

theorem Keeps.trans {u : FileTree} (h : t.Keeps t') (h' : t'.Keeps u) : t.Keeps u where
  workingDirectory := h'.workingDirectory.trans h.workingDirectory
  isDirectoryAt q hq := h'.isDirectoryAt q (h.isDirectoryAt q hq)
  isSome_node? q hq := h'.isSome_node? q (h.isSome_node? q hq)

theorem locate_eq_ok : t.locate p = .ok place ↔ checkUsable p = .ok () ∧
    t.walk (t.start p) p.names = .ok place ∧
      (p.endsInSlash = true → t.isDirectoryAt place = true) := by
  constructor
  · intro h
    obtain ⟨⟨⟩, husable, h⟩ := bind_eq_ok.mp h
    obtain ⟨place', hwalk, hends⟩ := bind_eq_ok.mp h
    grind
  · rintro ⟨husable, hwalk, hends⟩
    refine bind_eq_ok.mpr ⟨(), husable, bind_eq_ok.mpr ⟨place, hwalk, ?_⟩⟩
    grind

theorem Keeps.start_eq (h : t.Keeps t') (p : Path) : t'.start p = t.start p := by
  rw [start, h.workingDirectory, start]

theorem Keeps.locate (h : t.Keeps t') (hlocate : t.locate p = .ok place) :
    t'.locate p = .ok place := by
  obtain ⟨husable, hwalk, hends⟩ := locate_eq_ok.mp hlocate
  exact locate_eq_ok.mpr ⟨husable, h.start_eq p ▸ h.walk hwalk,
    fun hslash ↦ h.isDirectoryAt place (hends hslash)⟩

theorem holds_of_locate (h : t.locate p = .ok place) : t.holds p = true := by
  rw [holds, h]

theorem Keeps.holds (h : t.Keeps t') (hp : t.holds p = true) : t'.holds p = true := by
  unfold FileTree.holds at hp
  split at hp
  · next place hlocate => exact holds_of_locate (h.locate hlocate)
  · cases hp

/-! ## Writing -/

theorem target_eq_name {directory : Location} {name : Name}
    (h : t.target p = .ok (.name directory name)) :
    checkUsable p = .ok () ∧ p.names = p.names.dropLast ++ [name] ∧
      t.walk (t.start p) p.names.dropLast = .ok directory ∧ t.isDirectoryAt directory = true ∧
      name ≠ Path.dot ∧ name ≠ Path.dotDot := by
  obtain ⟨⟨⟩, husable, h⟩ := bind_eq_ok.mp h
  split at h
  · cases h
  · next last hlast =>
    obtain ⟨directory', hwalk, h⟩ := bind_eq_ok.mp h
    split at h
    · cases h
    · next hdirectory =>
      split at h
      · cases h
      · next hdots =>
        cases h
        simp only [Bool.or_eq_true, decide_eq_true_eq, not_or] at hdots
        refine ⟨husable, ?_, hwalk, by simpa using hdirectory, hdots.1, hdots.2⟩
        exact (List.dropLast_append_getLast? name hlast).symm

theorem overwrite_eq_ok (h : t.overwrite p content = .ok t') :
    ∃ directory name, t.target p = .ok (.name directory name) ∧ p.endsInSlash = false ∧
      name.length ≤ maxName ∧ t.isDirectoryAt (directory ++ [name]) = false ∧
      t' = t.put (directory ++ [name]) (.file content) := by
  obtain ⟨target, htarget, h⟩ := bind_eq_ok.mp h
  cases target with
  | standing => cases h
  | name directory name =>
      refine ⟨directory, name, htarget, ?_⟩
      grind

/-- The path of an entry that was put leads to it. -/
theorem locate_put {directory : Location} {name : Name}
    (htarget : t.target p = .ok (.name directory name)) (hlength : name.length ≤ maxName)
    (hfile : t.isDirectoryAt (directory ++ [name]) = false)
    (hends : p.endsInSlash = true → node = .directory) :
    (t.put (directory ++ [name]) node).locate p = .ok (directory ++ [name]) := by
  obtain ⟨husable, hnames, hwalk, hdirectory, hdot, hdotDot⟩ := target_eq_name htarget
  have hplace : directory ++ [name] ≠ [] := by simp
  have hkeeps := keeps_put hplace hfile node
  have hnode : (t.put (directory ++ [name]) node).node? (directory ++ [name]) = some node := by
    rw [node?_put hplace, if_pos rfl]
  have hstep : (t.put (directory ++ [name]) node).step directory name =
      .ok (directory ++ [name]) := by
    simp [step, hkeeps.isDirectoryAt directory hdirectory, hdot, hdotDot, hnode,
      Nat.not_lt.mpr hlength]
  refine locate_eq_ok.mpr ⟨husable, ?_, fun hslash ↦ ?_⟩
  · rw [hnames]
    exact walk_concat_eq_ok.mpr ⟨directory, hkeeps.walk hwalk, hstep⟩
  · rw [isDirectoryAt, hnode, hends hslash]
    rfl

/-- A file is written at one place, which its path then leads to. -/
theorem locate_overwrite (h : t.overwrite p content = .ok t') :
    ∃ place, place ≠ [] ∧ t.isDirectoryAt place = false ∧ t' = t.put place (.file content) ∧
      t'.locate p = .ok place := by
  obtain ⟨directory, name, htarget, hslash, hlength, hfile, rfl⟩ := overwrite_eq_ok h
  exact ⟨directory ++ [name], by simp, hfile, rfl,
    locate_put htarget hlength hfile fun hends ↦ by simp [hslash] at hends⟩

theorem readBytes_overwrite (h : t.overwrite p content = .ok t') :
    t'.readBytes p = .ok content := by
  obtain ⟨place, hplace, -, hput, hlocate⟩ := locate_overwrite h
  refine bind_eq_ok.mpr ⟨place, hlocate, ?_⟩
  rw [hput, node?_put hplace, if_pos rfl]

theorem exists_overwrite_of_writeText {text : String} (h : t.writeText p text = (t', .ok ())) :
    ∃ t₀, overwrite t₀ p (Utf8.encode text) = .ok t' := by
  unfold writeText writeBytes at h
  grind

/-- Where a text was written, it is read. -/
theorem readText_writeText {text : String} (h : t.writeText p text = (t', .ok ())) :
    t'.holds p = true ∧ t'.readText p = .ok text := by
  obtain ⟨t₀, hoverwrite⟩ := exists_overwrite_of_writeText h
  obtain ⟨place, -, -, -, hlocate⟩ := locate_overwrite hoverwrite
  refine ⟨holds_of_locate hlocate, bind_eq_ok.mpr ⟨_, readBytes_overwrite hoverwrite, ?_⟩⟩
  rw [Utf8.decode_encode]
  rfl

end DealForm.FileTree
