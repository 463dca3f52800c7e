import DealForm.Proofs.File.Directory
import DealForm.Proofs.File.Parent

/-!
# What a write leaves alone

Directories are made only where nothing stood, so no file changes by that. A write that succeeds
changes the file at one place, to which its path leads; one that fails changes no file.
-/

namespace DealForm.FileTree

variable {t t' u : FileTree} {place q : Location} {node : FileNode} {p directory : Path}
  {name : Name} {content : Bytes} {fault : FileFault} {turns : Nat} {text : String}
  {result : Except FileFault Unit}

/-- What the file at a place holds, if a file is there. -/
def content? (t : FileTree) (place : Location) : Option Bytes :=
  match t.node? place with
  | some (.file content) => some content
  | _ => none

/-- Both trees have the same files, though not always the same directories. -/
def SameFiles (t t' : FileTree) : Prop :=
  ∀ place, t'.content? place = t.content? place

theorem SameFiles.refl (t : FileTree) : t.SameFiles t := fun _ ↦ rfl

theorem SameFiles.trans (h : t.SameFiles t') (h' : t'.SameFiles u) : t.SameFiles u :=
  fun place ↦ (h' place).trans (h place)

theorem content?_put_file (hplace : place ≠ []) :
    (t.put place (.file content)).content? place = some content := by
  rw [content?, node?_put hplace, if_pos rfl]

theorem content?_put_of_ne (hplace : place ≠ []) (hq : q ≠ place) :
    (t.put place node).content? q = t.content? q := by
  rw [content?, node?_put hplace, if_neg hq.symm, content?]

theorem readBytes_eq_of_content? (hlocate : t.locate p = .ok place)
    (h : t.content? place = some content) : t.readBytes p = .ok content := by
  refine bind_eq_ok.mpr ⟨place, hlocate, ?_⟩
  unfold content? at h
  split at h
  · next content' hnode =>
    cases h
    rw [hnode]
  · cases h

/-! ## Making directories -/

/-- From one tree to the other only directories were added, each where one of the paths leads. -/
structure AddsDirectories (paths : Path → Prop) (t t' : FileTree) : Prop where
  keeps : t.Keeps t'
  node?_eq_or : ∀ q, t'.node? q = t.node? q ∨
    (t.node? q = none ∧ t'.node? q = some .directory ∧ ∃ p, paths p ∧ t'.locate p = .ok q)

namespace AddsDirectories

variable {paths paths' : Path → Prop}

theorem refl (paths : Path → Prop) (t : FileTree) : AddsDirectories paths t t :=
  ⟨.refl t, fun _ ↦ Or.inl rfl⟩

theorem trans (h : AddsDirectories paths t t') (h' : AddsDirectories paths t' u) :
    AddsDirectories paths t u where
  keeps := h.keeps.trans h'.keeps
  node?_eq_or q := by
    rcases h.node?_eq_or q with hq | ⟨hnone, hmade, p, hp, hlocate⟩
    · rw [← hq]
      exact h'.node?_eq_or q
    · rcases h'.node?_eq_or q with hq | ⟨hnone', -⟩
      · exact Or.inr ⟨hnone, hq.trans hmade, p, hp, h'.keeps.locate hlocate⟩
      · rw [hmade] at hnone'
        cases hnone'

theorem mono (h : AddsDirectories paths t t') (hpaths : ∀ p, paths p → paths' p) :
    AddsDirectories paths' t t' where
  keeps := h.keeps
  node?_eq_or q := (h.node?_eq_or q).imp_right fun ⟨hnone, hmade, p, hp, hlocate⟩ ↦
    ⟨hnone, hmade, p, hpaths p hp, hlocate⟩

theorem sameFiles (h : AddsDirectories paths t t') : t.SameFiles t' := by
  intro q
  rcases h.node?_eq_or q with hq | ⟨hnone, hmade, -⟩
  · rw [content?, hq, content?]
  · rw [content?, hmade, content?, hnone]

end AddsDirectories

theorem makeDirectory_eq_ok (h : t.makeDirectory p = .ok t') :
    ∃ directory name, t.target p = .ok (.name directory name) ∧ name.length ≤ maxName ∧
      t.node? (directory ++ [name]) = none ∧ t' = t.put (directory ++ [name]) .directory := by
  obtain ⟨target, htarget, h⟩ := bind_eq_ok.mp h
  cases target with
  | standing => cases h
  | name directory name =>
      refine ⟨directory, name, htarget, ?_⟩
      dsimp only at h
      split_ifs at h with hlong hthere
      cases h
      exact ⟨Nat.not_lt.mp hlong, by simpa using hthere, rfl⟩

theorem addsDirectories_makeDirectory (h : t.makeDirectory p = .ok t') :
    AddsDirectories (· = p) t t' := by
  obtain ⟨directory, name, htarget, hlength, hnone, rfl⟩ := makeDirectory_eq_ok h
  have hplace : directory ++ [name] ≠ [] := by simp
  have hfile : t.isDirectoryAt (directory ++ [name]) = false := by simp [isDirectoryAt, hnone]
  refine ⟨keeps_put hplace hfile .directory, fun q ↦ ?_⟩
  rw [node?_put hplace]
  split
  · next hq =>
    exact Or.inr ⟨hq ▸ hnone, rfl, p, rfl, hq ▸ locate_put htarget hlength hfile fun _ ↦ rfl⟩
  · exact Or.inl rfl

theorem addsDirectories_ensureDirectory (t : FileTree) (p : Path) :
    AddsDirectories (· = p) t (t.ensureDirectory p).1 := by
  unfold ensureDirectory
  split
  · next hmade => exact addsDirectories_makeDirectory hmade
  · split <;> exact .refl _ t

theorem addsDirectories_makeDirectoriesWithin (turns : Nat) (t : FileTree) (p : Path) :
    AddsDirectories (fun q ↦ q = p ∨ q.IsAbove p) t (makeDirectoriesWithin turns t p).1 := by
  have hself {u v : FileTree} (h : AddsDirectories (· = p) u v) :
      AddsDirectories (fun q ↦ q = p ∨ q.IsAbove p) u v := h.mono fun _ ↦ Or.inl
  induction turns generalizing p with
  | zero => exact hself (addsDirectories_ensureDirectory t p)
  | succ turns ih =>
      unfold makeDirectoriesWithin
      split
      · exact .refl _ t
      · split
        · next hmade => exact hself (addsDirectories_makeDirectory hmade)
        · split
          · exact .refl _ t
          · next parent hparent =>
            have habove : AddsDirectories (fun q ↦ q = p ∨ q.IsAbove p) t
                (makeDirectoriesWithin turns t parent).1 := by
              refine (ih parent fun h ↦ h.mono fun _ ↦ Or.inl).mono fun q hq ↦ Or.inr ?_
              rcases hq with rfl | hq
              · exact .parent hparent
              · exact .step hparent hq
            split
            · next t' heq =>
              rw [heq] at habove
              exact habove.trans (hself (addsDirectories_ensureDirectory t' p))
            · next heq =>
              rw [heq] at habove
              exact habove
        · split <;> exact .refl _ t

/-! ## Writing -/

/-- A write makes directories above its path first; then it puts the file in its place, or
fails. -/
theorem exists_overwrite_of_writeBytes (h : t.writeBytes p content = (t', result)) :
    ∃ t₀, AddsDirectories (·.IsAbove p) t t₀ ∧
      ((result = .ok () ∧ t₀.overwrite p content = .ok t') ∨
        ∃ fault, result = .error fault ∧ t' = t₀) := by
  have hmade : AddsDirectories (·.IsAbove p) t
      ((p.parent?.map t.makeDirectories).getD (t, .ok ())).1 := by
    cases hparent : p.parent? with
    | none => exact .refl _ t
    | some parent =>
        refine (addsDirectories_makeDirectoriesWithin _ t parent).mono fun q hq ↦ ?_
        rcases hq with rfl | hq
        · exact .parent hparent
        · exact .step hparent hq
  unfold writeBytes at h
  split at h
  · next t₀ fault heq =>
    rw [heq] at hmade
    cases h
    exact ⟨t', hmade, Or.inr ⟨fault, rfl, rfl⟩⟩
  · next t₀ heq =>
    rw [heq] at hmade
    refine ⟨t₀, hmade, ?_⟩
    split at h
    · next hoverwrite =>
      cases h
      exact Or.inl ⟨rfl, hoverwrite⟩
    · next fault _ =>
      cases h
      exact Or.inr ⟨fault, rfl, rfl⟩

/-- A write that fails changes no file. -/
theorem sameFiles_of_writeBytes (h : t.writeBytes p content = (t', .error fault)) :
    t.SameFiles t' := by
  obtain ⟨t₀, hmade, ⟨hok, -⟩ | ⟨-, -, rfl⟩⟩ := exists_overwrite_of_writeBytes h
  · cases hok
  · exact hmade.sameFiles

/-- A write that succeeds changes the file at the place that its path leads to and no other. -/
theorem locate_writeBytes (h : t.writeBytes p content = (t', .ok ())) :
    ∃ place, t'.locate p = .ok place ∧ t'.content? place = some content ∧
      ∀ q, q ≠ place → t'.content? q = t.content? q := by
  obtain ⟨t₀, hmade, ⟨-, hoverwrite⟩ | ⟨_, hfault, -⟩⟩ := exists_overwrite_of_writeBytes h
  · obtain ⟨place, hplace, -, rfl, hlocate⟩ := locate_overwrite hoverwrite
    refine ⟨place, hlocate, content?_put_file hplace, fun q hq ↦ ?_⟩
    exact (content?_put_of_ne hplace hq).trans (hmade.sameFiles q)
  · cases hfault

/-! ## Places in a directory -/

theorem step_eq_append (hdot : name ≠ Path.dot) (hdotDot : name ≠ Path.dotDot)
    (h : t.step place name = .ok q) : q = place ++ [name] := by
  unfold step at h
  split_ifs at h
  cases h
  rfl

/-- The path of a name in a directory leads to the entry of that name in the place of the
directory. -/
theorem locate_join (hname : name ≠ []) (hslash : Path.slash ∉ name) (hdot : name ≠ Path.dot)
    (hdotDot : name ≠ Path.dotDot) (h : t.locate (directory.join ⟨name⟩) = .ok place) :
    ∃ above, t.walk (t.start directory) directory.names = .ok above ∧ place = above ++ [name] := by
  obtain ⟨-, hwalk, -⟩ := locate_eq_ok.mp h
  rw [Path.names_join hname hslash,
    start_eq_of_isAbsolute (Path.isAbsolute_join hslash)] at hwalk
  obtain ⟨above, habove, hstep⟩ := walk_concat_eq_ok.mp hwalk
  exact ⟨above, habove, step_eq_append hdot hdotDot hstep⟩

end DealForm.FileTree
