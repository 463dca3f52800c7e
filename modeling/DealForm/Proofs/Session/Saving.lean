import DealForm.Proofs.File.Entry
import DealForm.Proofs.Session.Confinement

/-!
# Which replies can be saved

A reply that is shown is saved under a name made from its identifier. Every identifier makes a name
that an entry can have, but for its length: no character is left out, so a long identifier makes a
name that is too long for a file.
-/

namespace DealForm.Session

variable {s : Session} {directory : Path}

theorem isEntryName_downloadName (contentId : Option String) :
    IsEntryName (Utf8.encode (downloadName contentId)) where
  ne_nil := encode_downloadName_ne_nil _
  slash_notMem := slash_notMem_encode_downloadName _
  nul_notMem := nul_notMem_encode_downloadName _
  ne_dot := encode_downloadName_ne_dot _
  ne_dotDot := encode_downloadName_ne_dotDot _

theorem download_eq_ok (hnumbered : s.IsNumbered)
    (hdirectory : s.files.isDirectory directory = true)
    (hfree : s.files.isDirectory (directory.join (Path.ofString s.form.downloadName)) = false)
    (hlength : (Utf8.encode s.form.downloadName).length ≤ FileTree.maxName)
    (hpath : (directory.join (Path.ofString s.form.downloadName)).bytes.length ≤
      FileTree.maxPath) :
    (s.download directory).1 = .ok (directory.join (Path.ofString s.form.downloadName)) ∧
      WrittenIn s.files (s.download directory).2.files directory s.form.downloadName
        s.form.display.responseArea := by
  obtain ⟨hresult, hleaves⟩ := leaves_download hnumbered directory
  obtain ⟨files', hwrite⟩ := FileTree.exists_writeBytes_join hdirectory
    (isEntryName_downloadName s.form.display.responseContentId) hfree hlength hpath
    (Utf8.encode s.form.display.responseArea)
  have hwritten : s.files.writeText (directory.join (Path.ofString s.form.downloadName))
      s.form.display.responseArea = (files', .ok ()) := hwrite
  rw [hresult, hleaves.files, hwritten]
  exact ⟨rfl, writtenIn_of_writeText s.form hwritten⟩

theorem download_eq_error (hnumbered : s.IsNumbered)
    (hdirectory : s.files.isDirectory directory = true)
    (hlong : FileTree.maxName < (Utf8.encode s.form.downloadName).length ∨
      FileTree.maxPath < (directory.join (Path.ofString s.form.downloadName)).bytes.length) :
    (s.download directory).1 = .error (.io .nameTooLong) ∧
      (s.download directory).2.files = s.files := by
  obtain ⟨hresult, hleaves⟩ := leaves_download hnumbered directory
  have hwritten : s.files.writeText (directory.join (Path.ofString s.form.downloadName))
      s.form.display.responseArea = (s.files, .error .nameTooLong) :=
    FileTree.writeBytes_join_of_long hdirectory
      (isEntryName_downloadName s.form.display.responseContentId) _ hlong
  rw [hresult, hleaves.files, hwritten]
  exact ⟨rfl, rfl⟩

/-- Whatever happened before, the reply that is shown for an identifier is saved in a directory
that is there, unless that has a directory of the same name, as long as the identifier has at most
235 characters and the whole path at most 4095 bytes. With a longer identifier or path the name is
refused as too long, and every entry stays as it was. -/
theorem saves_shown_reply_iff_short (form : Form) (files : FileTree) (steps : List Step)
    (directory : Path) (id : String) :
    let s := (ofForm form files).run steps
    let after := (s.download directory).2
    let name := downloadName (some id)
    let file := directory.join (Path.ofString name)
    s.form.display.responseContentId = some id → s.files.isDirectory directory = true →
      s.files.isDirectory file = false →
      IsEntryName (Utf8.encode name) ∧
      (id ≠ "" → (Utf8.encode name).length = 20 + id.length) ∧
      (id.length ≤ 235 → file.bytes.length ≤ FileTree.maxPath →
        (s.download directory).1 = .ok file ∧
          WrittenIn s.files after.files directory name s.form.display.responseArea) ∧
      (235 < id.length ∨ FileTree.maxPath < file.bytes.length →
        (s.download directory).1 = .error (.io .nameTooLong) ∧ after.files = s.files) := by
  intro s after name file hshown hdirectory hfree
  have hnumbered : s.IsNumbered := (isNumbered_ofForm form files).run steps
  have hname : s.form.downloadName = name := by rw [Form.downloadName, hshown]
  have hlength := length_encode_downloadName_le_iff id
  refine ⟨isEntryName_downloadName _, length_encode_downloadName, fun hshort hpath ↦ ?_,
    fun hlong ↦ ?_⟩
  · have hsaved := download_eq_ok hnumbered hdirectory (hname ▸ hfree)
      (hname ▸ hlength.mpr hshort) (hname ▸ hpath)
    rwa [hname] at hsaved
  · have htooLong := hlong.imp_left fun hid ↦
      Nat.lt_of_not_le fun hshort ↦ Nat.not_le.mpr hid (hlength.mp hshort)
    exact download_eq_error hnumbered hdirectory (hname ▸ htooLong)

def lookupSteps (id : String) (reply : Reply) : List Step :=
  [.start 0 (.status id), .advance 0, .advance 0, .answer 0 reply, .advance 0]

theorem shows_lookupSteps (form : Form) (files : FileTree) (id : String) (reply : Reply) :
    let s := (ofForm form files).run (lookupSteps id reply)
    s.form.display.responseContentId = some id ∧ s.files = files := ⟨rfl, rfl⟩

def loneDirectory : FileTree where
  entries := [([[100]], .directory)]

theorem saves_shown_reply_of_slashes :
    let s := (ofForm (.ofBaseUrl "u") loneDirectory).run (lookupSteps "/é" (.ok .null))
    let after := (s.download ⟨[100]⟩).2
    (s.download ⟨[100]⟩).1 = .ok (Path.ofString "d/status-check-for__.txt") ∧
      WrittenIn s.files after.files ⟨[100]⟩ "status-check-for__.txt" "null" := by
  obtain ⟨hshown, hfiles⟩ := shows_lookupSteps (.ofBaseUrl "u") loneDirectory "/é" (.ok .null)
  have h := saves_shown_reply_iff_short (.ofBaseUrl "u") loneDirectory
    (lookupSteps "/é" (.ok .null)) ⟨[100]⟩ "/é" hshown (by rw [hfiles]; decide)
    (by rw [hfiles]; decide +kernel)
  exact h.2.2.1 (by decide) (by decide +kernel)

/-- With 236 characters the name has 256 bytes, one more than a name may have. -/
theorem shown_reply_not_saved :
    let id := String.ofList (List.replicate 236 'x')
    let s := (ofForm (.ofBaseUrl "u") loneDirectory).run (lookupSteps id (.ok .null))
    s.form.display.responseContentId = some id ∧ s.files.isDirectory ⟨[100]⟩ = true ∧
      s.files.isDirectory (Path.join ⟨[100]⟩ (Path.ofString (downloadName (some id)))) = false ∧
      (Utf8.encode (downloadName (some id))).length = 256 ∧
      (s.download ⟨[100]⟩).1 = .error (.io .nameTooLong) := by
  intro id s
  obtain ⟨hshown, hfiles⟩ := shows_lookupSteps (.ofBaseUrl "u") loneDirectory id (.ok .null)
  have hid : id.length = 236 := by rw [String.length_ofList, List.length_replicate]
  have hne : id ≠ "" := by
    intro hempty
    rw [hempty] at hid
    cases hid
  have hlength : (Utf8.encode (downloadName (some id))).length = 256 := by
    rw [length_encode_downloadName hne, hid]
  have hdirectory : s.files.isDirectory ⟨[100]⟩ = true := by
    rw [hfiles]
    decide
  have hname : s.form.downloadName = downloadName (some id) := by rw [Form.downloadName, hshown]
  have hlong : FileTree.maxName < (Utf8.encode s.form.downloadName).length := by
    rw [hname, hlength]
    decide
  have hfree : s.files.isDirectory
      (Path.join ⟨[100]⟩ (Path.ofString (downloadName (some id)))) = false := by
    refine Bool.eq_false_iff.mpr fun hthere ↦ ?_
    have hshort := FileTree.length_le_of_isDirectory_join (isEntryName_downloadName _) hthere
    rw [hlength] at hshort
    exact absurd hshort (by decide)
  have hnumbered : s.IsNumbered := (isNumbered_ofForm _ _).run _
  exact ⟨hshown, hdirectory, hfree, hlength,
    (download_eq_error hnumbered hdirectory (Or.inl hlong)).1⟩

end DealForm.Session
