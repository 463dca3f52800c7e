import DealForm.Proofs.File.Frame

/-!
# Why a write fails

A path that can not be followed meets a file, or the next entry is missing. What is missing above a
file is made before the file is written. So a write fails for the path alone, or because a
directory stands in the place of the file, or a file in the place of a directory.
-/

namespace DealForm.FileTree

variable {t t' : FileTree} {place next directory q : Location} {name last : Name}
  {names front : List Name} {p above : Path} {content : Bytes} {fault : FileFault} {turns : Nat}

/-! ## Sound trees -/

/-- Entries stand in directories, and so does the working directory, which is one itself. -/
structure IsSound (t : FileTree) : Prop where
  within : ∀ place, (t.node? place).isSome = true → t.IsWithinDirectories place
  start : t.HasWorkingDirectory

theorem isSome_of_isDirectoryAt (h : t.isDirectoryAt place = true) :
    (t.node? place).isSome = true := by
  rw [beq_iff_eq.mp h]
  rfl

theorem IsSound.isDirectoryAt_dropLast (h : t.IsSound) (hplace : t.isDirectoryAt place = true) :
    t.isDirectoryAt place.dropLast = true :=
  FileTree.isDirectoryAt_dropLast (h.within place (isSome_of_isDirectoryAt hplace)) hplace

theorem IsSound.isDirectoryAt_start (h : t.IsSound) (p : Path) :
    t.isDirectoryAt (t.start p) = true := by
  unfold FileTree.start
  split
  · rfl
  · exact h.start t.workingDirectory List.prefix_rfl

theorem AddsDirectories.isSound {paths : Path → Prop} (hmade : AddsDirectories paths t t')
    (h : t.IsSound) : t'.IsSound := by
  have hstart : t'.HasWorkingDirectory := by
    intro place hplace
    rw [hmade.keeps.workingDirectory] at hplace
    exact hmade.keeps.isDirectoryAt place (h.start place hplace)
  refine ⟨fun place hplace above habove hne ↦ ?_, hstart⟩
  rcases hmade.node?_eq_or place with hsame | ⟨-, -, p, -, hlocate⟩
  · rw [hsame] at hplace
    exact hmade.keeps.isDirectoryAt above (h.within place hplace above habove hne)
  · exact (isWithinDirectories_start hstart p).walk (locate_eq_ok.mp hlocate).2.1 above habove hne

/-! ## Following names -/

theorem length_le_of_step (h : t.step place name = .ok next) : name.length ≤ maxName := by
  unfold step at h
  split_ifs at h with _ hdot hdotDot hlong
  · rw [hdot]
    decide
  · rw [hdotDot]
    decide
  · exact Nat.not_lt.mp hlong

theorem length_le_of_walk (h : t.walk place names = .ok next) :
    ∀ name ∈ names, name.length ≤ maxName := by
  induction names generalizing place with
  | nil => exact fun _ hname ↦ absurd hname List.not_mem_nil
  | cons first names ih =>
      obtain ⟨mid, hstep, hrest⟩ := bind_eq_ok.mp h
      exact List.forall_mem_cons.mpr ⟨length_le_of_step hstep, ih hrest⟩

/-- The names can be followed to a directory. -/
def LeadsToDirectory (t : FileTree) (place : Location) (names : List Name) : Prop :=
  ∃ q, t.walk place names = .ok q ∧ t.isDirectoryAt q = true

def MeetsFile (t : FileTree) (place : Location) (names : List Name) : Prop :=
  ∃ front q content, front <+: names ∧ t.walk place front = .ok q ∧ t.content? q = some content

/-- Names that lead to a directory lead through directories. -/
theorem LeadsToDirectory.of_isPrefix (h : t.LeadsToDirectory place names)
    (hfront : front <+: names) : t.LeadsToDirectory place front := by
  obtain ⟨directory, hwalk, hdirectory⟩ := h
  obtain ⟨rest, rfl⟩ := hfront
  obtain ⟨mid, hmid, hrest⟩ := walk_append_eq_ok.mp hwalk
  refine ⟨mid, hmid, ?_⟩
  cases rest with
  | nil =>
      cases hrest
      exact hdirectory
  | cons name rest =>
      obtain ⟨next, hstep, -⟩ := bind_eq_ok.mp hrest
      exact (step_eq_ok hstep).1

theorem isDirectoryAt_of_content? (h : t.content? place = some content) :
    t.isDirectoryAt place = false := by
  unfold content? at h
  split at h
  · next content' hnode => simp [isDirectoryAt, hnode]
  · cases h

theorem exists_content?_of_isSome (hnode : (t.node? place).isSome = true)
    (h : t.isDirectoryAt place = false) : ∃ content, t.content? place = some content := by
  unfold content?
  split
  · next content _ => exact ⟨content, rfl⟩
  · next hfile =>
    cases hkind : t.node? place with
    | none => simp [hkind] at hnode
    | some node =>
        cases node with
        | directory => simp [isDirectoryAt, hkind] at h
        | file content => exact absurd hkind (hfile content)

theorem LeadsToDirectory.not_meetsFile (h : t.LeadsToDirectory place names) :
    ¬ t.MeetsFile place names := by
  rintro ⟨front, q, content, hfront, hwalk, hcontent⟩
  obtain ⟨q', hwalk', hdirectory⟩ := h.of_isPrefix hfront
  rw [hwalk] at hwalk'
  cases hwalk'
  rw [isDirectoryAt_of_content? hcontent] at hdirectory
  cases hdirectory

theorem MeetsFile.of_isPrefix (h : t.MeetsFile place front) (hfront : front <+: names) :
    t.MeetsFile place names := by
  obtain ⟨before, q, content, hbefore, hwalk, hcontent⟩ := h
  exact ⟨before, q, content, hbefore.trans hfront, hwalk, hcontent⟩

theorem MeetsFile.cons (hstep : t.step place name = .ok next) (h : t.MeetsFile next names) :
    t.MeetsFile place (name :: names) := by
  obtain ⟨front, q, content, hfront, hwalk, hcontent⟩ := h
  exact ⟨name :: front, q, content, List.cons_prefix_cons.mpr ⟨rfl, hfront⟩,
    bind_eq_ok.mpr ⟨next, hstep, hwalk⟩, hcontent⟩

theorem step_eq_notFound (h : t.step place name = .error .notFound) :
    t.isDirectoryAt place = true ∧ name ≠ Path.dot ∧ name ≠ Path.dotDot ∧
      name.length ≤ maxName ∧ (t.node? (place ++ [name])).isSome = false := by
  unfold step at h
  split_ifs at h with hplace hdot hdotDot hlong hentry <;> cases h
  exact ⟨by simpa using hplace, hdot, hdotDot, Nat.not_lt.mp hlong, by simpa using hentry⟩

theorem IsSound.isSome_of_step (h : t.IsSound) (hstep : t.step place name = .ok next) :
    (t.node? next).isSome = true := by
  unfold FileTree.step at hstep
  split_ifs at hstep with hplace hdot hdotDot hlong hentry
  · cases hstep
    exact isSome_of_isDirectoryAt (by simpa using hplace)
  · cases hstep
    exact isSome_of_isDirectoryAt (h.isDirectoryAt_dropLast (by simpa using hplace))
  · cases hstep
    exact hentry

theorem IsSound.isSome_of_walk (h : t.IsSound) (hplace : (t.node? place).isSome = true)
    (hwalk : t.walk place names = .ok q) : (t.node? q).isSome = true := by
  induction names generalizing place with
  | nil =>
      cases hwalk
      exact hplace
  | cons name names ih =>
      obtain ⟨next, hstep, hrest⟩ := bind_eq_ok.mp hwalk
      exact ih (h.isSome_of_step hstep) hrest

theorem walk_dots (h : t.isDirectoryAt place = true) (n : Nat) :
    t.walk place (List.replicate n Path.dot) = .ok place := by
  induction n with
  | zero => rfl
  | succ n ih =>
      rw [List.replicate_succ]
      exact bind_eq_ok.mpr ⟨place, by simp [step, h], ih⟩

theorem LeadsToDirectory.append_dots (h : t.LeadsToDirectory place names) (n : Nat) :
    t.LeadsToDirectory place (names ++ List.replicate n Path.dot) := by
  obtain ⟨directory, hwalk, hdirectory⟩ := h
  exact ⟨directory, walk_append_eq_ok.mpr ⟨directory, hwalk, walk_dots hdirectory n⟩, hdirectory⟩

theorem step_of_isSome (hdirectory : t.isDirectoryAt directory = true) (hdot : last ≠ Path.dot)
    (hdotDot : last ≠ Path.dotDot) (hlength : last.length ≤ maxName)
    (hnode : (t.node? (directory ++ [last])).isSome = true) :
    t.step directory last = .ok (directory ++ [last]) := by
  simp [step, hdirectory, hdot, hdotDot, Nat.not_lt.mpr hlength, hnode]

/-- Names of the right length can not be followed where an entry is missing, or a file stands in
the way. -/
theorem IsSound.walk_eq_error (h : t.IsSound) (hplace : (t.node? place).isSome = true)
    (hshort : ∀ name ∈ names, name.length ≤ maxName) (hwalk : t.walk place names = .error fault) :
    fault = .notFound ∨ t.MeetsFile place names := by
  induction names generalizing place with
  | nil => cases hwalk
  | cons name names ih =>
      obtain ⟨hname, hnames⟩ := List.forall_mem_cons.mp hshort
      cases hstep : t.step place name with
      | ok next =>
          rw [walk, List.foldlM_cons, hstep] at hwalk
          exact (ih (h.isSome_of_step hstep) hnames hwalk).imp_right (.cons hstep)
      | error fault' =>
          rw [walk, List.foldlM_cons, hstep] at hwalk
          cases hwalk
          unfold FileTree.step at hstep
          split_ifs at hstep with hfile hdot hdotDot hlong hentry
          · obtain ⟨content, hcontent⟩ := exists_content?_of_isSome hplace (by simpa using hfile)
            exact Or.inr ⟨[], place, content, List.nil_prefix, rfl, hcontent⟩
          · exact absurd hname (Nat.not_le.mpr hlong)
          · cases hstep
            exact Or.inl rfl

/-- Names of the right length lead to a directory, or meet a file, or an entry is missing. -/
theorem IsSound.follow (h : t.IsSound) (hplace : (t.node? place).isSome = true)
    (hshort : ∀ name ∈ names, name.length ≤ maxName) : t.LeadsToDirectory place names ∨
      t.MeetsFile place names ∨ t.walk place names = .error .notFound := by
  cases hwalk : t.walk place names with
  | error fault =>
      rcases h.walk_eq_error hplace hshort hwalk with rfl | hmeets
      · exact Or.inr (Or.inr rfl)
      · exact Or.inr (Or.inl hmeets)
  | ok q =>
      cases hdirectory : t.isDirectoryAt q with
      | true => exact Or.inl ⟨q, hwalk, hdirectory⟩
      | false =>
          obtain ⟨content, hcontent⟩ :=
            exists_content?_of_isSome (h.isSome_of_walk hplace hwalk) hdirectory
          exact Or.inr (Or.inl ⟨names, q, content, List.prefix_rfl, hwalk, hcontent⟩)

/-! ## Making directories -/

theorem checkUsable_eq_ok : checkUsable p = .ok () ↔
    0 ∉ p.bytes ∧ p.bytes ≠ [] ∧ p.bytes.length ≤ maxPath := by
  unfold checkUsable
  split_ifs with hnul hempty hlong <;> simp_all

theorem checkUsable_of_isPrefix (hbegins : above.bytes <+: p.bytes) (habove : above.bytes ≠ [])
    (h : checkUsable p = .ok ()) : checkUsable above = .ok () := by
  obtain ⟨hnul, -, hlength⟩ := checkUsable_eq_ok.mp h
  exact checkUsable_eq_ok.mpr ⟨fun hmem ↦ hnul (hbegins.subset hmem), habove,
    Nat.le_trans hbegins.length_le hlength⟩

theorem isDirectory_eq_true : t.isDirectory p = true ↔
    checkUsable p = .ok () ∧ t.LeadsToDirectory (t.start p) p.names := by
  have hlocate : t.isDirectory p = true ↔
      ∃ place, t.locate p = .ok place ∧ t.isDirectoryAt place = true := by
    unfold isDirectory
    cases t.locate p with
    | error fault => simp
    | ok place => simp
  simp only [hlocate, locate_eq_ok, LeadsToDirectory]
  grind

theorem Keeps.leadsToDirectory (h : t.Keeps t') (hp : t.LeadsToDirectory (t.start p) names) :
    t'.LeadsToDirectory (t'.start p) names := by
  obtain ⟨q, hwalk, hdirectory⟩ := hp
  exact ⟨q, h.start_eq p ▸ h.walk hwalk, h.isDirectoryAt q hdirectory⟩

theorem Keeps.isDirectory (h : t.Keeps t') (hp : t.isDirectory p = true) :
    t'.isDirectory p = true := by
  obtain ⟨husable, hleads⟩ := isDirectory_eq_true.mp hp
  exact isDirectory_eq_true.mpr ⟨husable, h.leadsToDirectory hleads⟩

theorem target_of_walk (husable : checkUsable p = .ok ()) (hnames : p.names = front ++ [last])
    (hwalk : t.walk (t.start p) front = .ok directory)
    (hdirectory : t.isDirectoryAt directory = true) (hdot : last ≠ Path.dot)
    (hdotDot : last ≠ Path.dotDot) : t.target p = .ok (.name directory last) := by
  refine bind_eq_ok.mpr ⟨(), husable, ?_⟩
  simp [hnames, hwalk, hdirectory, hdot, hdotDot, bind, Except.bind]

theorem makeDirectory_of_walk_eq_error (husable : checkUsable p = .ok ())
    (hlast : p.names.getLast? = some last)
    (hwalk : t.walk (t.start p) p.names.dropLast = .error fault) :
    t.makeDirectory p = .error fault := by
  simp [makeDirectory, target, husable, hlast, hwalk, bind, Except.bind]

/-- Where the last entry is the missing one, a directory is made. -/
theorem makeDirectory_of_step (husable : checkUsable p = .ok ())
    (hnames : p.names = front ++ [last]) (hwalk : t.walk (t.start p) front = .ok directory)
    (hstep : t.step directory last = .error .notFound) :
    t.makeDirectory p = .ok (t.put (directory ++ [last]) .directory) := by
  obtain ⟨hdirectory, hdot, hdotDot, hlength, hnone⟩ := step_eq_notFound hstep
  refine bind_eq_ok.mpr ⟨_, target_of_walk husable hnames hwalk hdirectory hdot hdotDot, ?_⟩
  simp [Nat.not_lt.mpr hlength, hnone]

/-- A directory that can not be made is there, or a file stands in the way, or an entry above it is
missing. -/
theorem IsSound.makeDirectory_eq_error (h : t.IsSound) (husable : checkUsable p = .ok ())
    (hshort : ∀ name ∈ p.names, name.length ≤ maxName) (herror : t.makeDirectory p = .error fault) :
    t.isDirectory p = true ∨ t.MeetsFile (t.start p) p.names ∨
      (fault = .notFound ∧ ¬ t.LeadsToDirectory (t.start p) p.names.dropLast) := by
  have hstart := isSome_of_isDirectoryAt (h.isDirectoryAt_start p)
  rcases h.follow hstart hshort with hleads | hmeets | hmissing
  · exact Or.inl (isDirectory_eq_true.mpr ⟨husable, hleads⟩)
  · exact Or.inr (Or.inl hmeets)
  · refine Or.inr (Or.inr ?_)
    cases hlast : p.names.getLast? with
    | none =>
        rw [List.getLast?_eq_none_iff.mp hlast] at hmissing
        cases hmissing
    | some last =>
        have hnames : p.names = p.names.dropLast ++ [last] :=
          (List.dropLast_append_getLast? last hlast).symm
        rw [hnames, walk_append] at hmissing
        cases hwalk : t.walk (t.start p) p.names.dropLast with
        | error fault' =>
            rw [hwalk] at hmissing
            cases hmissing
            rw [makeDirectory_of_walk_eq_error husable hlast hwalk] at herror
            cases herror
            refine ⟨rfl, ?_⟩
            rintro ⟨q, hq, -⟩
            rw [hwalk] at hq
            cases hq
        | ok directory =>
            rw [hwalk] at hmissing
            have hstep : t.step directory last = .error .notFound :=
              (t.walk_singleton directory last).symm.trans hmissing
            rw [makeDirectory_of_step husable hnames hwalk hstep] at herror
            cases herror

/-- What a result says of a path: it leads to a directory, or meets a file. -/
def Explains (t : FileTree) (p : Path) : Except FileFault Unit → Prop
  | .ok () => t.LeadsToDirectory (t.start p) p.names
  | .error _ => t.MeetsFile (t.start p) p.names

theorem leadsToDirectory_of_makeDirectory (h : t.makeDirectory p = .ok t') :
    t'.LeadsToDirectory (t'.start p) p.names := by
  obtain ⟨directory, name, htarget, hlength, hnone, rfl⟩ := makeDirectory_eq_ok h
  have hfile : t.isDirectoryAt (directory ++ [name]) = false := by simp [isDirectoryAt, hnone]
  have hlocate : (t.put (directory ++ [name]) .directory).locate p = .ok (directory ++ [name]) :=
    locate_put htarget hlength hfile fun _ ↦ rfl
  refine ⟨directory ++ [name], (locate_eq_ok.mp hlocate).2.1, ?_⟩
  rw [isDirectoryAt, node?_put (by simp), if_pos rfl]
  rfl

theorem LeadsToDirectory.of_parent? (hparent : p.parent? = some above) (htrimmed : p.IsTrimmed)
    (h : t.LeadsToDirectory (t.start above) above.names) :
    t.LeadsToDirectory (t.start p) p.names.dropLast := by
  obtain ⟨k, last, hnames⟩ := htrimmed.exists_names hparent
  rw [hnames, List.dropLast_concat, ← start_eq_of_isAbsolute (Path.names_parent? hparent).2]
  exact h.append_dots k

theorem MeetsFile.of_parent? (hparent : p.parent? = some above)
    (h : t.MeetsFile (t.start above) above.names) : t.MeetsFile (t.start p) p.names.dropLast := by
  obtain ⟨hfront, habsolute⟩ := Path.names_parent? hparent
  rw [← start_eq_of_isAbsolute habsolute]
  exact h.of_isPrefix hfront

theorem IsSound.explains_ensureDirectory (h : t.IsSound) (husable : checkUsable p = .ok ())
    (hshort : ∀ name ∈ p.names, name.length ≤ maxName)
    (habove : t.LeadsToDirectory (t.start p) p.names.dropLast) :
    (t.ensureDirectory p).1.Explains p (t.ensureDirectory p).2 := by
  unfold ensureDirectory
  split
  · next hmade => exact leadsToDirectory_of_makeDirectory hmade
  · next fault hfault =>
    split
    · next hdirectory => exact (isDirectory_eq_true.mp hdirectory).2
    · next hdirectory =>
      rcases h.makeDirectory_eq_error husable hshort hfault with hthere | hmeets | ⟨-, hmissing⟩
      · exact absurd hthere hdirectory
      · exact hmeets
      · exact absurd habove hmissing

theorem IsSound.explains_makeDirectoriesWithin (h : t.IsSound)
    (husable : p.bytes ≠ [] → checkUsable p = .ok ())
    (hshort : ∀ name ∈ p.names, name.length ≤ maxName) (htrimmed : p.IsTrimmed)
    (hturns : p.bytes.length < turns) :
    (makeDirectoriesWithin turns t p).1.Explains p (makeDirectoriesWithin turns t p).2 := by
  induction turns generalizing p with
  | zero => exact absurd hturns (Nat.not_lt_zero _)
  | succ turns ih =>
      unfold makeDirectoriesWithin
      split
      · next hempty =>
        have hnames : p.names = [] := by
          rw [Path.names, List.isEmpty_iff.mp hempty]
          rfl
        rw [Explains, hnames]
        exact ⟨t.start p, rfl, h.isDirectoryAt_start p⟩
      · next hbytes =>
        have husable := husable (by simpa using hbytes)
        split
        · next hmade => exact leadsToDirectory_of_makeDirectory hmade
        · next hmissing =>
          split
          · next hparent =>
            have hnames := htrimmed.names_eq_nil hparent
            simp [makeDirectory, target, husable, hnames, bind, Except.bind] at hmissing
          · next parent hparent =>
            have hfront : parent.names <+: p.names :=
              (Path.names_parent? hparent).1.trans (List.dropLast_prefix p.names)
            have hmade := ih (checkUsable_of_isPrefix (Path.IsAbove.parent hparent).bytes · husable)
              (fun name hname ↦ hshort name (hfront.subset hname))
              (Path.isTrimmed_of_parent? hparent)
              (Nat.lt_of_lt_of_le (Path.length_parent? hparent) (Nat.le_of_lt_succ hturns))
            have hsound : (makeDirectoriesWithin turns t parent).1.IsSound :=
              (addsDirectories_makeDirectoriesWithin turns t parent).isSound h
            split
            · next t₁ heq =>
              rw [heq] at hmade hsound
              exact hsound.explains_ensureDirectory husable hshort
                (.of_parent? hparent htrimmed hmade)
            · next t₁ fault heq =>
              rw [heq] at hmade
              exact (MeetsFile.of_parent? hparent hmade).of_isPrefix (List.dropLast_prefix p.names)
        · next fault hne hfault =>
          split
          · next hdirectory => exact (isDirectory_eq_true.mp hdirectory).2
          · next hdirectory =>
            rcases h.makeDirectory_eq_error husable hshort hfault with
              hthere | hmeets | ⟨hmissing, -⟩
            · exact absurd hthere hdirectory
            · exact hmeets
            · exact absurd hmissing hne

/-! ## Writing -/

/-- A reason for which no file can be written at a path: no file can have this path, or a directory
stands in its place, or a file on its way. -/
inductive Forbids (t : FileTree) (p : Path) : Prop where
  | empty (h : p.bytes = [])
  | nulByte (h : 0 ∈ p.bytes)
  | longPath (h : maxPath < p.bytes.length)
  | longName {name : Name} (hname : name ∈ p.names) (h : maxName < name.length)
  | slash (h : p.endsInSlash = true)
  | dots (h : p.names.getLast? = some Path.dot ∨ p.names.getLast? = some Path.dotDot)
  | directory (h : t.isDirectory p = true)
  | fileAbove (h : t.MeetsFile (t.start p) p.names.dropLast)

theorem overwrite_of_forbids (h : t.Forbids p) : t.overwrite p content ≠ .ok t' := by
  intro hoverwrite
  obtain ⟨directory, name, htarget, hslash, hlength, hfile, -⟩ := overwrite_eq_ok hoverwrite
  obtain ⟨husable, hnames, hwalk, hdirectory, hdot, hdotDot⟩ := target_eq_name htarget
  obtain ⟨hnul, hbytes, hmax⟩ := checkUsable_eq_ok.mp husable
  cases h with
  | empty h => exact hbytes h
  | nulByte h => exact hnul h
  | longPath h => exact Nat.not_le.mpr h hmax
  | longName hname h =>
      rw [hnames] at hname
      rcases List.mem_append.mp hname with hfront | hlast
      · exact Nat.not_le.mpr h (length_le_of_walk hwalk _ hfront)
      · obtain rfl := List.mem_singleton.mp hlast
        exact Nat.not_le.mpr h hlength
  | slash h =>
      rw [hslash] at h
      cases h
  | dots h =>
      rw [hnames, List.getLast?_concat] at h
      rcases h with h | h
      · exact hdot (Option.some.inj h)
      · exact hdotDot (Option.some.inj h)
  | directory h =>
      obtain ⟨-, q, hq, hqDirectory⟩ := isDirectory_eq_true.mp h
      rw [hnames] at hq
      obtain ⟨directory', hwalk', hstep⟩ := walk_concat_eq_ok.mp hq
      rw [hwalk] at hwalk'
      cases hwalk'
      rw [step_eq_append hdot hdotDot hstep, hfile] at hqDirectory
      cases hqDirectory
  | fileAbove h => exact LeadsToDirectory.not_meetsFile ⟨directory, hwalk, hdirectory⟩ h

/-- Without a reason the path is usable and ends in a name. -/
theorem exists_last_of_not_forbids (hfree : ¬ t.Forbids p) : checkUsable p = .ok () ∧
    p.endsInSlash = false ∧ ∃ last, p.names = p.names.dropLast ++ [last] ∧
      last.length ≤ maxName ∧ last ≠ Path.dot ∧ last ≠ Path.dotDot := by
  have hbytes : p.bytes ≠ [] := fun h ↦ hfree (.empty h)
  have hslash : p.endsInSlash = false := Bool.eq_false_iff.mpr fun h ↦ hfree (.slash h)
  obtain ⟨-, last, -, hlast⟩ := Path.exists_last_name hbytes hslash
  refine ⟨checkUsable_eq_ok.mpr ⟨fun h ↦ hfree (.nulByte h), hbytes,
    Nat.not_lt.mp fun h ↦ hfree (.longPath h)⟩, hslash, last,
    (List.dropLast_append_getLast? last hlast).symm, ?_, ?_, ?_⟩
  · exact Nat.not_lt.mp fun h ↦ hfree (.longName (List.mem_of_getLast? hlast) h)
  · rintro rfl
    exact hfree (.dots (Or.inl hlast))
  · rintro rfl
    exact hfree (.dots (Or.inr hlast))

theorem exists_overwrite (hfree : ¬ t.Forbids p)
    (habove : t.LeadsToDirectory (t.start p) p.names.dropLast) (content : Bytes) :
    ∃ t', t.overwrite p content = .ok t' := by
  obtain ⟨husable, hslash, last, hnames, hlength, hdot, hdotDot⟩ :=
    exists_last_of_not_forbids hfree
  obtain ⟨directory, hwalk, hdirectory⟩ := habove
  have hfile : t.isDirectoryAt (directory ++ [last]) = false := by
    refine Bool.eq_false_iff.mpr fun hplace ↦ hfree (.directory ?_)
    have hstep := step_of_isSome hdirectory hdot hdotDot hlength (isSome_of_isDirectoryAt hplace)
    have hlocated := walk_concat_eq_ok.mpr ⟨directory, hwalk, hstep⟩
    exact isDirectory_eq_true.mpr ⟨husable, _, hnames ▸ hlocated, hplace⟩
  have htarget := target_of_walk husable hnames hwalk hdirectory hdot hdotDot
  refine ⟨t.put (directory ++ [last]) (.file content), bind_eq_ok.mpr ⟨_, htarget, ?_⟩⟩
  simp [hslash, Nat.not_lt.mpr hlength, hfile]

/-- The reason stands when directories were made. -/
theorem Forbids.of_addsDirectories {paths : Path → Prop} (h : t.Forbids p)
    (hmade : AddsDirectories paths t t') : t'.Forbids p := by
  cases h with
  | empty h => exact .empty h
  | nulByte h => exact .nulByte h
  | longPath h => exact .longPath h
  | longName hname h => exact .longName hname h
  | slash h => exact .slash h
  | dots h => exact .dots h
  | directory h => exact .directory (hmade.keeps.isDirectory h)
  | fileAbove h =>
      obtain ⟨front, q, content, hfront, hwalk, hcontent⟩ := h
      exact .fileAbove ⟨front, q, content, hfront,
        hmade.keeps.start_eq p ▸ hmade.keeps.walk hwalk, (hmade.sameFiles q).trans hcontent⟩

/-- A write fails where there is a reason. -/
theorem writeBytes_of_forbids (h : t.Forbids p) (content : Bytes) :
    ∃ t' fault, t.writeBytes p content = (t', .error fault) := by
  cases hwrite : t.writeBytes p content with
  | mk t' result =>
      obtain ⟨t₀, hmade, ⟨-, hoverwrite⟩ | ⟨fault, rfl, -⟩⟩ :=
        exists_overwrite_of_writeBytes hwrite
      · exact absurd hoverwrite (overwrite_of_forbids (h.of_addsDirectories hmade))
      · exact ⟨t', fault, rfl⟩

/-- A write does not fail without a reason in the tree that it leaves. -/
theorem IsSound.forbids_of_writeBytes (h : t.IsSound)
    (hwrite : t.writeBytes p content = (t', .error fault)) : t'.Forbids p := by
  by_contra hfree
  obtain ⟨husable, -, last, hnames, -, hdot, -⟩ := exists_last_of_not_forbids hfree
  have htrimmed : p.IsTrimmed := by
    intro hlast
    rw [hnames, List.getLast?_concat] at hlast
    exact absurd (Option.some.inj hlast) hdot
  cases hparent : p.parent? with
  | none => simp [htrimmed.names_eq_nil hparent] at hnames
  | some parent =>
      have hfront : parent.names <+: p.names :=
        (Path.names_parent? hparent).1.trans (List.dropLast_prefix p.names)
      have hmade : (t.makeDirectories parent).1.Explains parent (t.makeDirectories parent).2 :=
        h.explains_makeDirectoriesWithin
          (checkUsable_of_isPrefix (Path.IsAbove.parent hparent).bytes · husable)
          (fun name hname ↦ Nat.not_lt.mp fun hlong ↦ hfree (.longName (hfront.subset hname) hlong))
          (Path.isTrimmed_of_parent? hparent) (Nat.lt_succ_self _)
      rw [writeBytes, hparent, Option.map_some, Option.getD_some] at hwrite
      split at hwrite
      · next t₁ fault' heq =>
        rw [heq] at hmade
        cases hwrite
        exact hfree (.fileAbove (.of_parent? hparent hmade))
      · next t₁ heq =>
        rw [heq] at hmade
        split at hwrite
        · cases hwrite
        · next fault' hfault =>
          cases hwrite
          obtain ⟨t₂, hoverwrite⟩ :=
            exists_overwrite hfree (.of_parent? hparent htrimmed hmade) content
          rw [hfault] at hoverwrite
          cases hoverwrite

end DealForm.FileTree
