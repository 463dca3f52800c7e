import DealForm.Proofs.File.Path
import DealForm.Proofs.File.Writing

/-!
# Files stand in directories

A file that was written to a directory joined with a name is an entry of that directory. The other
way around, a path that a file was read from ends in the name of an entry.
-/

namespace DealForm.FileTree

variable {t t' : FileTree} {directory p : Path} {name last : Name} {place next : Location}
  {content : Bytes}

/-! ## Writing into a directory -/

/-- The place that the path of a directory leads to has a file of this name below it. -/
def HoldsIn (t : FileTree) (directory : Path) (name : Name) (content : Bytes) : Prop :=
  ∃ place, t.walk (t.start directory) directory.names = .ok place ∧
    t.node? (place ++ [name]) = some (.file content)

theorem holdsIn_overwrite (hname : name ≠ []) (hslash : Path.slash ∉ name)
    (h : t.overwrite (directory.join ⟨name⟩) content = .ok t') :
    t'.HoldsIn directory name content := by
  obtain ⟨place, name', htarget, -, -, hfile, rfl⟩ := overwrite_eq_ok h
  obtain ⟨-, hnames, hwalk, -, -, -⟩ := target_eq_name htarget
  have hplace : place ++ [name'] ≠ [] := by simp
  rw [Path.names_join hname hslash, List.dropLast_concat] at hnames hwalk
  obtain rfl : name = name' := by simpa using hnames
  rw [start_eq_of_isAbsolute (Path.isAbsolute_join hslash)] at hwalk
  refine ⟨place, (keeps_put hplace hfile (.file content)).walk hwalk, ?_⟩
  rw [node?_put hplace, if_pos rfl]

theorem holdsIn_writeText (hname : name ≠ []) (hslash : Path.slash ∉ name) {text : String}
    (h : t.writeText (directory.join ⟨name⟩) text = (t', .ok ())) :
    t'.HoldsIn directory name (Utf8.encode text) := by
  obtain ⟨t₀, hoverwrite⟩ := exists_overwrite_of_writeText h
  exact holdsIn_overwrite hname hslash hoverwrite

/-! ## Reading from a directory -/

/-- The working directory is there, and so are the directories above it. -/
def HasWorkingDirectory (t : FileTree) : Prop :=
  ∀ place, place <+: t.workingDirectory → t.isDirectoryAt place = true

/-- Above this place there are directories only. -/
def IsWithinDirectories (t : FileTree) (place : Location) : Prop :=
  ∀ above, above <+: place → above ≠ place → t.isDirectoryAt above = true

theorem step_eq_ok (h : t.step place name = .ok next) :
    t.isDirectoryAt place = true ∧ (next = place ∨ next = place.dropLast ∨
      (name ≠ Path.dot ∧ name ≠ Path.dotDot ∧ next = place ++ [name])) := by
  unfold step at h
  split_ifs at h with hplace hdot hdotDot hlong hentry
  all_goals
    cases h
    refine ⟨by simpa using hplace, ?_⟩
  · exact Or.inl rfl
  · exact Or.inr (Or.inl rfl)
  · exact Or.inr (Or.inr ⟨hdot, hdotDot, rfl⟩)

theorem isDirectoryAt_dropLast (h : t.IsWithinDirectories place)
    (hplace : t.isDirectoryAt place = true) : t.isDirectoryAt place.dropLast = true := by
  by_cases hsame : place.dropLast = place
  · rw [hsame]
    exact hplace
  · exact h place.dropLast (List.dropLast_prefix place) hsame

theorem IsWithinDirectories.step (h : t.IsWithinDirectories place)
    (hstep : t.step place name = .ok next) : t.IsWithinDirectories next := by
  obtain ⟨hplace, rfl | rfl | ⟨-, -, rfl⟩⟩ := step_eq_ok hstep
  · exact h
  · intro above habove _
    by_cases hsame : above = place
    · rw [hsame]
      exact hplace
    · exact h above (habove.trans (List.dropLast_prefix place)) hsame
  · intro above habove hne
    rcases List.prefix_concat_iff.mp habove with hall | hbefore
    · exact absurd hall hne
    · by_cases hsame : above = place
      · rw [hsame]
        exact hplace
      · exact h above hbefore hsame

theorem IsWithinDirectories.walk {names : List Name} (h : t.IsWithinDirectories place)
    (hwalk : t.walk place names = .ok next) : t.IsWithinDirectories next := by
  induction names generalizing place with
  | nil =>
      cases hwalk
      exact h
  | cons name names ih =>
      obtain ⟨mid, hstep, hrest⟩ := bind_eq_ok.mp hwalk
      exact ih (h.step hstep) hrest

theorem isWithinDirectories_start (h : t.HasWorkingDirectory) (p : Path) :
    t.IsWithinDirectories (t.start p) := by
  intro above habove hne
  unfold start at habove hne
  split at habove
  · rw [List.prefix_nil.mp habove]
    rfl
  · exact h above habove

theorem readBytes_eq_ok : t.readBytes p = .ok content ↔
    ∃ place, t.locate p = .ok place ∧ t.node? place = some (.file content) := by
  constructor
  · intro h
    obtain ⟨place, hlocate, hnode⟩ := bind_eq_ok.mp h
    split at hnode
    · next content' hfile =>
      cases hnode
      exact ⟨place, hlocate, hfile⟩
    · cases hnode
    · cases hnode
  · rintro ⟨place, hlocate, hnode⟩
    exact bind_eq_ok.mpr ⟨place, hlocate, by rw [hnode]⟩

/-- The path of an entry that is no directory ends in the name that the entry has in its
directory. -/
theorem exists_name_of_locate (h : t.HasWorkingDirectory) (hlocate : t.locate p = .ok place)
    (hfile : t.isDirectoryAt place = false) : ∃ directory name, place = directory ++ [name] ∧
      p.names.getLast? = some name ∧ name ≠ Path.dot ∧ name ≠ Path.dotDot := by
  obtain ⟨husable, hwalk, hends⟩ := locate_eq_ok.mp hlocate
  have hslash : p.endsInSlash = false := by simpa [hfile] using hends
  have hbytes : p.bytes ≠ [] := by
    intro hnil
    simp [checkUsable, hnil] at husable
  obtain ⟨front, name, -, hname⟩ := Path.exists_last_name hbytes hslash
  have hnames : p.names = p.names.dropLast ++ [name] :=
    (List.dropLast_append_getLast? name hname).symm
  rw [hnames] at hwalk
  obtain ⟨directory, hfront, hstep⟩ := walk_concat_eq_ok.mp hwalk
  have hwithin := (isWithinDirectories_start h p).walk hfront
  -- A last step by dots would lead to a directory.
  obtain ⟨hdirectory, rfl | rfl | ⟨hdot, hdotDot, rfl⟩⟩ := step_eq_ok hstep
  · rw [hdirectory] at hfile
    cases hfile
  · rw [isDirectoryAt_dropLast hwithin hdirectory] at hfile
    cases hfile
  · exact ⟨directory, name, rfl, hname, hdot, hdotDot⟩

/-- The path of a file that was read ends in the name of the file. -/
theorem fileName?_of_readBytes (h : t.HasWorkingDirectory) (hread : t.readBytes p = .ok content) :
    ∃ name, p.names.getLast? = some name ∧ p.fileName? = some name := by
  obtain ⟨place, hlocate, hnode⟩ := readBytes_eq_ok.mp hread
  have hfile : t.isDirectoryAt place = false := by simp [isDirectoryAt, hnode]
  obtain ⟨-, name, -, hname, hdot, hdotDot⟩ := exists_name_of_locate h hlocate hfile
  exact ⟨name, hname, Path.fileName?_eq hname hdot hdotDot⟩

end DealForm.FileTree
