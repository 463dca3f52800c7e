import DealForm.Proofs.File.Frame
import DealForm.Proofs.Form.DownloadName
import DealForm.Proofs.Session.Alone

/-!
# A download stays in its directory

The identifier that names a download is any text. Its file is still one entry of the directory that
was asked for: no identifier leads out of it or further down. That file is all that a download
writes, and a download that fails writes no file.
-/

namespace DealForm.Session

variable {s : Session} {directory p : Path} {files : FileTree} {error : Error}

/-- The name of a download for an identifier, and what can be said of it for all of them. -/
structure IsDownloadName (name : String) : Prop where
  plain : ∀ c ∈ name.toList, c.isAlphanum = true ∨ c = '.' ∨ c = '_' ∨ c = '-'
  shape : ∃ middle, name = "status-check" ++ middle ++ ".txt"
  ne_dot : Utf8.encode name ≠ Path.dot
  ne_dotDot : Utf8.encode name ≠ Path.dotDot

theorem isDownloadName (form : Form) : IsDownloadName form.downloadName where
  plain c hc := by
    have hplain := isPlainNameChar_of_mem_downloadName hc
    simpa [isPlainNameChar, or_assoc] using hplain
  shape := exists_downloadName_eq _
  ne_dot := encode_downloadName_ne_dot _
  ne_dotDot := encode_downloadName_ne_dotDot _

/-- From one tree to the other this text was written to the entry of this name in a directory, and
no other file was made, changed or removed. -/
structure WrittenIn (files files' : FileTree) (directory : Path) (name text : String) : Prop where
  reads : files'.readBytes (directory.join (Path.ofString name)) = .ok (Utf8.encode text)
  /-- The directory is there, and the path leads to its entry of this name, where the file is. -/
  place : ∃ above, files'.walk (files'.start directory) directory.names = .ok above ∧
    files'.locate (directory.join (Path.ofString name)) = .ok (above ++ [Utf8.encode name]) ∧
    files'.content? (above ++ [Utf8.encode name]) = some (Utf8.encode text) ∧
    ∀ other, other ≠ above ++ [Utf8.encode name] → files'.content? other = files.content? other

theorem writtenIn_of_writeText (form : Form) {text : String} {files' : FileTree}
    (h : files.writeText (directory.join (Path.ofString form.downloadName)) text =
      (files', .ok ())) :
    WrittenIn files files' directory form.downloadName text := by
  have hslash := slash_notMem_encode_downloadName form.display.responseContentId
  have hne := encode_downloadName_ne_nil form.display.responseContentId
  have hname := isDownloadName form
  obtain ⟨place, hlocate, hcontent, hother⟩ := FileTree.locate_writeBytes h
  obtain ⟨above, hwalk, rfl⟩ :=
    FileTree.locate_join hne hslash hname.ne_dot hname.ne_dotDot hlocate
  have hreads := FileTree.readBytes_eq_of_content? hlocate hcontent
  exact ⟨hreads, above, hwalk, hlocate, hcontent, hother⟩

/-- Whatever happened before, a download that succeeds gives its directory joined with one plain
name, the file there holds the text that was shown and every other file is as before. One that
fails leaves every file as it was. The form stays as it is, and no call is made. This is said of
trees without links and permissions, in which no write fails once its file is open. -/
theorem download_stays_in_directory (form : Form) (files : FileTree) (steps : List Step)
    (directory : Path) :
    let s := (ofForm form files).run steps
    let after := (s.download directory).2
    (∀ p, (s.download directory).1 = .ok p → ∃ name, IsDownloadName name ∧
      p = directory.join (Path.ofString name) ∧
      p.names = directory.names ++ [Utf8.encode name] ∧
      WrittenIn s.files after.files directory name s.form.display.responseArea) ∧
    (∀ error, (s.download directory).1 = .error error → s.files.SameFiles after.files) ∧
    after.form = s.form ∧ after.calls = s.calls := by
  intro s after
  have hnumbered : s.IsNumbered := (isNumbered_ofForm form files).run steps
  obtain ⟨hresult, hleaves⟩ := leaves_download hnumbered directory
  have hcalls : after.calls = s.calls := by rw [hleaves.calls, List.append_nil]
  cases hwritten : s.files.writeText (directory.join (Path.ofString s.form.downloadName))
      s.form.display.responseArea with
  | mk files' result =>
    rw [hwritten] at hresult hleaves
    refine ⟨fun p hp ↦ ?_, fun error herror ↦ ?_, hleaves.form, hcalls⟩
    · rw [hresult] at hp
      cases result with
      | error fault => cases hp
      | ok _ =>
        cases hp
        refine ⟨s.form.downloadName, isDownloadName s.form, rfl, ?_, ?_⟩
        · exact Path.names_join (encode_downloadName_ne_nil _) (slash_notMem_encode_downloadName _)
        · rw [hleaves.files]
          exact writtenIn_of_writeText s.form hwritten
    · rw [hresult] at herror
      cases result with
      | ok _ => cases herror
      | error fault =>
        rw [hleaves.files]
        exact FileTree.sameFiles_of_writeBytes hwritten

/-- An identifier of dots and slashes names a file like any other. -/
example : (((ofForm (.ofBaseUrl "u" []) ⟨[], []⟩).run [.start 0 (.status "../.."), .advance 0,
    .advance 0, .answer 0 (.ok .null), .advance 0]).download ⟨[]⟩).1 =
      .ok (Path.ofString "status-check-for.._...txt") := by
  decide +kernel

end DealForm.Session
