import DealForm.Deal.File
import DealForm.Proofs.File.Directory

/-!
# A file is picked under its own name

What can be read is a file, and a path to a file ends in the name that the file has in its
directory. So the name of a picked file is that of the file, and the fixed one stands in only where
that name is no text.
-/

namespace DealForm

variable {t : FileTree} {p : Path} {name : Name} {text : String} {blob : FileBlob}
  {directory place : Location} {content : Bytes}

theorem Path.of_mem_components (h : name ∈ p.components) :
    name ≠ [] ∧ Path.slash ∉ name ∧ name ≠ Path.dot := by
  have hidle := Path.not_isIdle_of_mem_components h
  refine ⟨?_, Path.slash_notMem_of_mem (List.mem_of_mem_filter h), ?_⟩
  all_goals
    rintro rfl
    simp [Path.isIdle] at hidle

namespace FileBlob

/-! ## Names as texts -/

/-- The text is that of the name, or the fixed one if the name is no text. -/
def Shows (text : String) (name : Name) : Prop :=
  Utf8.encode text = name ∨ ((∀ s, Utf8.encode s ≠ name) ∧ text = "data")

theorem shows_iff : Shows text name ↔ text = (Utf8.decode name).toOption.getD "data" := by
  cases hdecode : Utf8.decode name with
  | ok s =>
      obtain rfl := Utf8.decode_eq_ok_iff.mp hdecode
      constructor
      · rintro (hown | ⟨hnone, -⟩)
        · exact Utf8.encode_inj.mp hown
        · exact absurd rfl (hnone s)
      · rintro rfl
        exact Or.inl rfl
  | error fault =>
      have hnone : ∀ s, Utf8.encode s ≠ name := by
        intro s hs
        rw [Utf8.decode_eq_ok_iff.mpr hs.symm] at hdecode
        cases hdecode
      constructor
      · rintro (hown | ⟨-, rfl⟩)
        · exact absurd hown (hnone text)
        · rfl
      · rintro rfl
        exact Or.inr ⟨hnone, rfl⟩

theorem Shows.eq_data_iff (h : Shows text name) :
    text = "data" ↔ (∀ s, Utf8.encode s ≠ name) ∨ name = Utf8.encode "data" := by
  rcases h with rfl | ⟨hnone, rfl⟩
  · rw [Utf8.encode_inj]
    refine ⟨Or.inr, ?_⟩
    rintro (hnone | hdata)
    · exact absurd rfl (hnone text)
    · exact hdata
  · exact iff_of_true rfl (Or.inl hnone)

def IsPlain (text : String) : Prop :=
  text ≠ "" ∧ '/' ∉ text.toList ∧ text ≠ "." ∧ text ≠ ".."

theorem Shows.isPlain (h : Shows text name) (hname : name ∈ p.components)
    (hdotDot : name ≠ Path.dotDot) : IsPlain text := by
  obtain ⟨hne, hslash, hdot⟩ := Path.of_mem_components hname
  rcases h with rfl | ⟨-, rfl⟩
  · refine ⟨?_, fun hmem ↦ hslash (Utf8.mem_encode hmem (by decide)), ?_, ?_⟩
    · rintro rfl
      exact hne rfl
    · rintro rfl
      exact hdot (by decide)
    · rintro rfl
      exact hdotDot (by decide)
  · exact ⟨by decide, by decide, by decide, by decide⟩

/-! ## Picking -/

theorem read_eq_ok :
    read t p = .ok blob ↔ t.readBytes p = .ok blob.bytes ∧ blob.fileName = nameOf p := by
  cases hread : t.readBytes p with
  | error fault => simp [read, hread, bind, Except.bind]
  | ok bytes =>
      obtain ⟨fileName, content⟩ := blob
      simp [read, hread, bind, Except.bind, pure, Except.pure, and_comm, eq_comm]

theorem nameOf_eq_iff (hname : p.fileName? = some name) : text = nameOf p ↔ Shows text name := by
  rw [nameOf, hname, shows_iff]
  rfl

/-- A file is read under a text just if its path leads to it, and the text is that of its name. -/
theorem read_eq_ok_iff (h : t.HasWorkingDirectory) : read t p = .ok blob ↔
    ∃ directory name, t.locate p = .ok (directory ++ [name]) ∧
      t.node? (directory ++ [name]) = some (.file blob.bytes) ∧
      p.components.getLast? = some name ∧ name ≠ Path.dotDot ∧ Shows blob.fileName name := by
  rw [read_eq_ok, FileTree.readBytes_eq_ok]
  constructor
  · rintro ⟨⟨place, hlocate, hnode⟩, htext⟩
    have hfile : t.isDirectoryAt place = false := by simp [FileTree.isDirectoryAt, hnode]
    obtain ⟨directory, name, rfl, hlast, hdot, hdotDot⟩ :=
      FileTree.exists_name_of_locate h hlocate hfile
    have hname := Path.fileName?_eq hlast hdot hdotDot
    exact ⟨directory, name, hlocate, hnode, Path.getLast?_components hlast hdot, hdotDot,
      (nameOf_eq_iff hname).mp htext⟩
  · rintro ⟨directory, name, hlocate, hnode, hlast, hdotDot, hshows⟩
    have hname := Path.fileName?_eq_some_iff.mpr ⟨hlast, hdotDot⟩
    exact ⟨⟨_, hlocate, hnode⟩, (nameOf_eq_iff hname).mpr hshows⟩

/-- A path that ends in no name leads to directories only. -/
theorem isDirectoryAt_of_no_name (h : t.HasWorkingDirectory)
    (hnone : ∀ name, p.components.getLast? = some name → name = Path.dotDot)
    (hlocate : t.locate p = .ok place) : t.isDirectoryAt place = true := by
  by_contra hfile
  obtain ⟨-, name, -, hlast, hdot, hdotDot⟩ :=
    FileTree.exists_name_of_locate h hlocate (Bool.eq_false_iff.mpr hfile)
  exact hdotDot (hnone name (Path.getLast?_components hlast hdot))

theorem exists_read_eq_error (h : ∀ place, t.locate p = .ok place → t.isDirectoryAt place = true) :
    ∃ fault, read t p = .error fault := by
  cases hread : read t p with
  | error fault => exact ⟨fault, rfl⟩
  | ok blob =>
      obtain ⟨place, hlocate, hnode⟩ := FileTree.readBytes_eq_ok.mp (read_eq_ok.mp hread).1
      have hdirectory := h place hlocate
      simp [FileTree.isDirectoryAt, hnode] at hdirectory

/-- A file is picked just if the path leads to it, with its content and under the name that it has
in its directory, which is the last component of the path. The fixed name stands for names that are
no text. A path that does not end in a name leads to directories only and can not be picked. -/
theorem picked_file_keeps_name (h : t.HasWorkingDirectory) (p : Path) :
    (∀ blob, read t p = .ok blob ↔ ∃ directory name,
      t.locate p = .ok (directory ++ [name]) ∧
        t.node? (directory ++ [name]) = some (.file blob.bytes) ∧
        p.components.getLast? = some name ∧ name ≠ Path.dotDot ∧ Shows blob.fileName name) ∧
    (∀ blob name, read t p = .ok blob → p.components.getLast? = some name →
      name ≠ [] ∧ Path.slash ∉ name ∧ name ≠ Path.dot ∧ name ≠ Path.dotDot ∧
        IsPlain blob.fileName ∧
        (blob.fileName = "data" ↔ (∀ s, Utf8.encode s ≠ name) ∨ name = Utf8.encode "data")) ∧
    ((∀ name, p.components.getLast? = some name → name = Path.dotDot) →
      (∀ place, t.locate p = .ok place → t.isDirectoryAt place = true) ∧
        ∃ fault, read t p = .error fault) := by
  refine ⟨fun blob ↦ read_eq_ok_iff h, ?_, fun hnone ↦ ?_⟩
  · intro blob name hread hlast
    obtain ⟨-, name', -, -, hlast', hdotDot, hshows⟩ := (read_eq_ok_iff h).mp hread
    obtain rfl : name = name' := Option.some.inj (hlast.symm.trans hlast')
    have hmem := List.mem_of_getLast? hlast
    obtain ⟨hne, hslash, hdot⟩ := Path.of_mem_components hmem
    exact ⟨hne, hslash, hdot, hdotDot, hshows.isPlain hmem hdotDot, hshows.eq_data_iff⟩
  · have hdirectory : ∀ place, t.locate p = .ok place → t.isDirectoryAt place = true :=
      fun _ ↦ isDirectoryAt_of_no_name h hnone
    exact ⟨hdirectory, exists_read_eq_error hdirectory⟩

/-- Dots and slashes in front of a name do not matter; a name that is no text is not kept. -/
theorem picked_files_of_directory :
    let t : FileTree :=
      { entries := [([[100]], .directory), ([[100], Utf8.encode "a.txt"], .file [1]),
          ([[100], [255]], .file [2])] }
    read t (Path.ofString "d/..//./d/a.txt") = .ok ⟨"a.txt", [1]⟩ ∧
      read t ⟨[100, 47, 255]⟩ = .ok ⟨"data", [2]⟩ ∧
      IsPlain "a.txt" ∧
      ∃ fault, read t (Path.ofString "d/..") = .error fault := by
  intro t
  have hthere : t.HasWorkingDirectory := by
    intro place hplace
    rw [List.prefix_nil.mp hplace]
    rfl
  have hbytes : ∀ s, Utf8.encode s ≠ [255] := by
    intro s hs
    have hfault : Utf8.decode [255] = .error (.invalid 1 0) := by decide
    rw [Utf8.decode_eq_ok_iff.mpr hs.symm] at hfault
    cases hfault
  obtain ⟨hread, hplain, -⟩ := picked_file_keeps_name hthere (Path.ofString "d/..//./d/a.txt")
  have htext := (hread ⟨"a.txt", [1]⟩).mpr
    ⟨[[100]], Utf8.encode "a.txt", by decide, by decide, by decide, by decide, Or.inl rfl⟩
  obtain ⟨-, -, -, -, hname, -⟩ := hplain _ (Utf8.encode "a.txt") htext (by decide)
  refine ⟨htext, ?_, hname, ?_⟩
  · apply ((picked_file_keeps_name hthere ⟨[100, 47, 255]⟩).1 ⟨"data", [2]⟩).mpr
    exact ⟨[[100]], [255], by decide, by decide, by decide, by decide, Or.inr ⟨hbytes, rfl⟩⟩
  · apply ((picked_file_keeps_name hthere (Path.ofString "d/..")).2.2 ?_).2
    intro name hlast
    have hup : (Path.ofString "d/..").components.getLast? = some Path.dotDot := by decide
    exact Option.some.inj (hlast.symm.trans hup)

end FileBlob

end DealForm
