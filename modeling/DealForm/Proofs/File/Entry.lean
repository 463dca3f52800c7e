import DealForm.Proofs.File.Agreement
import DealForm.Proofs.File.Failure

/-!
# Writing an entry of a directory

In a directory that is there a file can be written under any name that no directory has there, as
long as neither the name nor the whole path is too long. If one of them is, nothing at all changes:
no directory is made for the file, and none was missing.
-/

namespace DealForm

variable {name : Name}

/-! ## Paths of entries -/

/-- Bytes that can name an entry of a directory, unless there are too many of them. -/
structure IsEntryName (name : Name) : Prop where
  ne_nil : name ≠ []
  slash_notMem : Path.slash ∉ name
  nul_notMem : 0 ∉ name
  ne_dot : name ≠ Path.dot
  ne_dotDot : name ≠ Path.dotDot

namespace Path

variable {base p above : Path}

theorem exists_bytes_join (h : slash ∉ name) (base : Path) :
    ∃ gap, (gap = [] ∨ gap = [slash]) ∧ (base.join ⟨name⟩).bytes = base.bytes ++ gap ++ name := by
  simp only [join, isAbsolute_of_notMem h, Bool.false_eq_true, ↓reduceIte]
  split
  · exact ⟨[], Or.inl rfl, by simp⟩
  · exact ⟨[slash], Or.inr rfl, by simp⟩

theorem endsInSlash_join (hname : name ≠ []) (hslash : slash ∉ name) (base : Path) :
    (base.join ⟨name⟩).endsInSlash = false := by
  obtain ⟨gap, -, hbytes⟩ := exists_bytes_join hslash base
  obtain ⟨front, last, rfl⟩ := name.eq_nil_or_concat.resolve_left hname
  have hlast : last ≠ slash := by
    rintro rfl
    simp at hslash
  rw [endsInSlash, hbytes, List.concat_eq_append, ← List.append_assoc, List.getLast?_concat]
  simpa using hlast

theorem nul_notMem_join (hslash : slash ∉ name) (hname : 0 ∉ name) (hbase : 0 ∉ base.bytes) :
    0 ∉ (base.join ⟨name⟩).bytes := by
  obtain ⟨gap, hgap, hbytes⟩ := exists_bytes_join hslash base
  rw [hbytes, List.mem_append, List.mem_append]
  rintro ((h | h) | h)
  · exact hbase h
  · rcases hgap with rfl | rfl
    · cases h
    · exact absurd (List.mem_singleton.mp h) (by decide)
  · exact hname h

end Path

namespace FileTree

variable {t : FileTree} {directory p above : Path} {content : Bytes} {place : Location}

/-! ## Directories that are there -/

theorem checkUsable_of_long (hnul : 0 ∉ p.bytes) (h : maxPath < p.bytes.length) :
    checkUsable p = .error .nameTooLong := by
  have hbytes : p.bytes ≠ [] := by
    intro hnil
    rw [hnil] at h
    cases h
  simp [checkUsable, hnul, hbytes, h]

theorem makeDirectory_of_isDirectory (h : t.isDirectory p = true) :
    t.makeDirectory p = .error .alreadyExists := by
  obtain ⟨husable, q, hwalk, hdirectory⟩ := isDirectory_eq_true.mp h
  cases hlast : p.names.getLast? with
  | none => simp [makeDirectory, target, husable, hlast, bind, Except.bind]
  | some last =>
      have hnames : p.names = p.names.dropLast ++ [last] :=
        (List.dropLast_append_getLast? last hlast).symm
      rw [hnames] at hwalk
      obtain ⟨parent, hfront, hstep⟩ := walk_concat_eq_ok.mp hwalk
      have hparent := (step_eq_ok hstep).1
      by_cases hdots : last = Path.dot ∨ last = Path.dotDot
      · simp [makeDirectory, target, husable, hlast, hfront, hparent, hdots, bind, Except.bind]
      · obtain ⟨hdot, hdotDot⟩ := not_or.mp hdots
        have htarget := target_of_walk husable hnames hfront hparent hdot hdotDot
        have hlength := Nat.not_lt.mpr (length_le_of_step hstep)
        have hentry := isSome_of_isDirectoryAt (step_eq_append hdot hdotDot hstep ▸ hdirectory)
        simp [makeDirectory, htarget, hlength, hentry, bind, Except.bind]

/-- A directory that is there is not made again. -/
theorem makeDirectories_of_isDirectory (h : t.isDirectory p = true) :
    t.makeDirectories p = (t, .ok ()) := by
  obtain ⟨-, hbytes, -⟩ := checkUsable_eq_ok.mp (isDirectory_eq_true.mp h).1
  have hfault : FileFault.alreadyExists ≠ .notFound := by decide
  rw [makeDirectories, makeDirectoriesWithin_of_fault (by simpa using hbytes)
    (makeDirectory_of_isDirectory h) hfault, if_pos h]

theorem makeDirectories_of_long (hnul : 0 ∉ p.bytes) (h : maxPath < p.bytes.length) :
    t.makeDirectories p = (t, .error .nameTooLong) := by
  have husable := checkUsable_of_long hnul h
  have hmake : t.makeDirectory p = .error .nameTooLong := by
    simp [makeDirectory, target, husable, bind, Except.bind]
  have hmissing : ¬ t.isDirectory p = true := by
    intro hp
    rw [(isDirectory_eq_true.mp hp).1] at husable
    cases husable
  have hbytes : p.bytes ≠ [] := by
    intro hnil
    rw [hnil] at h
    cases h
  have hfault : FileFault.nameTooLong ≠ .notFound := by decide
  rw [makeDirectories, makeDirectoriesWithin_of_fault (by simpa using hbytes) hmake hfault,
    if_neg hmissing]

/-! ## Files in a directory -/

theorem checkUsable_join (hdirectory : t.isDirectory directory = true) (hname : IsEntryName name)
    (hpath : (directory.join ⟨name⟩).bytes.length ≤ maxPath) :
    checkUsable (directory.join ⟨name⟩) = .ok () := by
  have hnul := (checkUsable_eq_ok.mp (isDirectory_eq_true.mp hdirectory).1).1
  refine checkUsable_eq_ok.mpr
    ⟨Path.nul_notMem_join hname.slash_notMem hname.nul_notMem hnul, fun hnil ↦ ?_, hpath⟩
  obtain ⟨gap, -, hbytes⟩ := Path.exists_bytes_join hname.slash_notMem directory
  rw [hnil, eq_comm, List.append_eq_nil_iff] at hbytes
  exact hname.ne_nil hbytes.2

/-- The path ends in the name, in the place of the directory. -/
theorem exists_target_join (hdirectory : t.isDirectory directory = true) (hname : IsEntryName name)
    (hpath : (directory.join ⟨name⟩).bytes.length ≤ maxPath) :
    ∃ place, t.target (directory.join ⟨name⟩) = .ok (.name place name) := by
  obtain ⟨-, place, hwalk, hplace⟩ := isDirectory_eq_true.mp hdirectory
  rw [← start_eq_of_isAbsolute (Path.isAbsolute_join hname.slash_notMem)] at hwalk
  exact ⟨place, target_of_walk (checkUsable_join hdirectory hname hpath)
    (Path.names_join hname.ne_nil hname.slash_notMem) hwalk hplace hname.ne_dot hname.ne_dotDot⟩

theorem length_le_of_isDirectory_join (hname : IsEntryName name)
    (h : t.isDirectory (directory.join ⟨name⟩) = true) : name.length ≤ maxName := by
  obtain ⟨-, q, hwalk, -⟩ := isDirectory_eq_true.mp h
  rw [Path.names_join hname.ne_nil hname.slash_notMem] at hwalk
  exact length_le_of_walk hwalk name (by simp)

theorem overwrite_of_long (hdirectory : t.isDirectory directory = true) (hname : IsEntryName name)
    (content : Bytes)
    (hlong : maxName < name.length ∨ maxPath < (directory.join ⟨name⟩).bytes.length) :
    t.overwrite (directory.join ⟨name⟩) content = .error .nameTooLong := by
  rcases Nat.lt_or_ge maxPath (directory.join ⟨name⟩).bytes.length with hpath | hpath
  · have hnul := (checkUsable_eq_ok.mp (isDirectory_eq_true.mp hdirectory).1).1
    have husable := checkUsable_of_long
      (Path.nul_notMem_join hname.slash_notMem hname.nul_notMem hnul) hpath
    simp [overwrite, target, husable, bind, Except.bind]
  · obtain ⟨place, htarget⟩ := exists_target_join hdirectory hname hpath
    have hends := Path.endsInSlash_join hname.ne_nil hname.slash_notMem directory
    have hlength := hlong.resolve_right (Nat.not_lt.mpr hpath)
    simp [overwrite, htarget, hends, hlength, bind, Except.bind]

theorem exists_overwrite_join (hdirectory : t.isDirectory directory = true)
    (hname : IsEntryName name) (hfree : t.isDirectory (directory.join ⟨name⟩) = false)
    (hlength : name.length ≤ maxName) (hpath : (directory.join ⟨name⟩).bytes.length ≤ maxPath)
    (content : Bytes) :
    ∃ t', t.overwrite (directory.join ⟨name⟩) content = .ok t' := by
  obtain ⟨place, htarget⟩ := exists_target_join hdirectory hname hpath
  obtain ⟨husable, hnames, hwalk, hplace, hdot, hdotDot⟩ := target_eq_name htarget
  have hends := Path.endsInSlash_join hname.ne_nil hname.slash_notMem directory
  -- a directory in the place of the file would be the one that the path leads to
  have hfile : t.isDirectoryAt (place ++ [name]) = false := by
    refine Bool.eq_false_iff.mpr fun hthere ↦ ?_
    have hstep := step_of_isSome hplace hdot hdotDot hlength (isSome_of_isDirectoryAt hthere)
    have hlocated := walk_concat_eq_ok.mpr ⟨place, hwalk, hstep⟩
    rw [← hnames] at hlocated
    rw [isDirectory_eq_true.mpr ⟨husable, _, hlocated, hthere⟩] at hfree
    cases hfree
  refine ⟨t.put (place ++ [name]) (.file content), bind_eq_ok.mpr ⟨_, htarget, ?_⟩⟩
  simp [hends, Nat.not_lt.mpr hlength, hfile]

/-- Above a file in a directory that is there nothing is made. -/
theorem makeDirectories_above (hdirectory : t.isDirectory directory = true)
    (hname : IsEntryName name) (hparent : (directory.join ⟨name⟩).parent? = some above) :
    t.makeDirectories above = (t, .ok ()) ∨
      (maxPath < (directory.join ⟨name⟩).bytes.length ∧
        t.makeDirectories above = (t, .error .nameTooLong)) := by
  obtain ⟨husable, hleads⟩ := isDirectory_eq_true.mp hdirectory
  have hbegins : above.bytes <+: (directory.join ⟨name⟩).bytes :=
    (Path.IsAbove.parent hparent).bytes
  have hnul : 0 ∉ above.bytes := fun hmem ↦
    Path.nul_notMem_join hname.slash_notMem hname.nul_notMem (checkUsable_eq_ok.mp husable).1
      (hbegins.subset hmem)
  by_cases hbytes : above.bytes = []
  · exact Or.inl (by simp [makeDirectories, makeDirectoriesWithin, hbytes])
  rcases Nat.lt_or_ge maxPath above.bytes.length with hlong | hshort
  · exact Or.inr ⟨Nat.lt_of_lt_of_le hlong hbegins.length_le, makeDirectories_of_long hnul hlong⟩
  · refine Or.inl (makeDirectories_of_isDirectory (isDirectory_eq_true.mpr
      ⟨checkUsable_eq_ok.mpr ⟨hnul, hbytes, hshort⟩, ?_⟩))
    obtain ⟨hnames, habsolute⟩ := Path.names_parent? hparent
    rw [Path.names_join hname.ne_nil hname.slash_notMem, List.dropLast_concat] at hnames
    rw [start_eq_of_isAbsolute (habsolute.trans (Path.isAbsolute_join hname.slash_notMem))]
    exact hleads.of_isPrefix hnames

/-- The file itself is all that is written in a directory that is there. -/
theorem writeBytes_join (hdirectory : t.isDirectory directory = true) (hname : IsEntryName name)
    (content : Bytes) :
    t.writeBytes (directory.join ⟨name⟩) content =
      match t.overwrite (directory.join ⟨name⟩) content with
      | .ok t' => (t', .ok ())
      | .error fault => (t, .error fault) := by
  rw [writeBytes]
  cases hparent : (directory.join ⟨name⟩).parent? with
  | none => rfl
  | some above =>
      rw [Option.map_some, Option.getD_some]
      rcases makeDirectories_above hdirectory hname hparent with hmade | ⟨hlong, hfault⟩
      · generalize t.makeDirectories above = made at hmade ⊢
        subst hmade
        rfl
      · rw [hfault, overwrite_of_long hdirectory hname content (Or.inr hlong)]

theorem exists_writeBytes_join (hdirectory : t.isDirectory directory = true)
    (hname : IsEntryName name) (hfree : t.isDirectory (directory.join ⟨name⟩) = false)
    (hlength : name.length ≤ maxName) (hpath : (directory.join ⟨name⟩).bytes.length ≤ maxPath)
    (content : Bytes) :
    ∃ t', t.writeBytes (directory.join ⟨name⟩) content = (t', .ok ()) := by
  obtain ⟨t', hoverwrite⟩ := exists_overwrite_join hdirectory hname hfree hlength hpath content
  exact ⟨t', by rw [writeBytes_join hdirectory hname, hoverwrite]⟩

theorem writeBytes_join_of_long (hdirectory : t.isDirectory directory = true)
    (hname : IsEntryName name) (content : Bytes)
    (hlong : maxName < name.length ∨ maxPath < (directory.join ⟨name⟩).bytes.length) :
    t.writeBytes (directory.join ⟨name⟩) content = (t, .error .nameTooLong) := by
  rw [writeBytes_join hdirectory hname, overwrite_of_long hdirectory hname content hlong]

end FileTree

end DealForm
