import DealForm.Proofs.File.Failure

/-!
# What a write leaves behind

A file is written at a path below directories that were there or are made for it. Then the path
leads to the file and those above it to directories, and all other entries stand as before. A write
that fails has made directories at most.
-/

namespace DealForm.FileTree

variable {t t' : FileTree} {directory : Location} {name : Name} {p above : Path}
  {content : Bytes} {text : String}

/-- Where an entry can be made, the paths above it lead to directories. -/
theorem isDirectory_of_target (h : t.target p = .ok (.name directory name))
    (habove : above.IsAbove p) (hbytes : above.bytes ≠ []) : t.isDirectory above = true := by
  obtain ⟨husable, -, hwalk, hdirectory, -, -⟩ := target_eq_name h
  obtain ⟨hnames, habsolute⟩ := habove.names
  have hstart : t.start above = t.start p := start_eq_of_isAbsolute habsolute
  have hleads : t.LeadsToDirectory (t.start p) p.names.dropLast := ⟨directory, hwalk, hdirectory⟩
  exact isDirectory_eq_true.mpr ⟨checkUsable_of_isPrefix habove.bytes hbytes husable,
    hstart ▸ hleads.of_isPrefix hnames⟩

/-- From one tree to the other a file was written at the path, below directories. -/
structure Writes (p : Path) (content : Bytes) (t t' : FileTree) : Prop where
  keeps : t.Keeps t'
  isDirectory : ∀ above, above.IsAbove p → above.bytes ≠ [] → t'.isDirectory above = true
  exists_place : ∃ place, t'.locate p = .ok place ∧ t'.content? place = some content ∧
    ∀ q, q ≠ place → t'.content? q = t.content? q ∧ (t'.node? q = t.node? q ∨
      (t.node? q = none ∧ t'.node? q = some .directory ∧
        ∃ above, above.IsAbove p ∧ t'.locate above = .ok q))

theorem AddsDirectories.writes {t₀ : FileTree} (hmade : AddsDirectories (·.IsAbove p) t t₀)
    (h : t₀.overwrite p content = .ok t') : t.Writes p content t' := by
  obtain ⟨directory, name, htarget, -⟩ := overwrite_eq_ok h
  obtain ⟨place, hplace, hfile, rfl, hlocate⟩ := locate_overwrite h
  have hput : t₀.Keeps (t₀.put place (.file content)) := keeps_put hplace hfile (.file content)
  refine ⟨hmade.keeps.trans hput, fun above habove hbytes ↦ ?_, place, hlocate,
    content?_put_file hplace, fun q hq ↦ ⟨?_, ?_⟩⟩
  · exact hput.isDirectory (isDirectory_of_target htarget habove hbytes)
  · exact (content?_put_of_ne hplace hq).trans (hmade.sameFiles q)
  · rw [node?_put hplace, if_neg hq.symm]
    refine (hmade.node?_eq_or q).imp_right ?_
    rintro ⟨hnone, hdirectory, above, habove, hlocate'⟩
    exact ⟨hnone, hdirectory, above, habove, hput.locate hlocate'⟩

theorem readText_eq_ok_iff (h : t.readBytes p = .ok content) (s : String) :
    t.readText p = .ok s ↔ content = Utf8.encode s := by
  rw [readText, h, ← Utf8.decode_eq_ok_iff]
  exact mapError_eq_ok

/-- A text that was written is read, below directories, and nothing else has changed. A write that
fails has changed no file; it fails where there is a reason, and in a sound tree there always is
one. A file is read as the text whose UTF-8 it holds. -/
theorem writeText_outcome (t : FileTree) (p : Path) (text : String) :
    (∀ t', t.writeText p text = (t', .ok ()) →
      t'.readText p = .ok text ∧ t'.readBytes p = .ok (Utf8.encode text) ∧
        t.Writes p (Utf8.encode text) t') ∧
    (∀ t' fault, t.writeText p text = (t', .error fault) →
      t.SameFiles t' ∧ AddsDirectories (·.IsAbove p) t t') ∧
    (t.Forbids p → ∃ t' fault, t.writeText p text = (t', .error fault)) ∧
    (t.IsSound → ∀ t' fault, t.writeText p text = (t', .error fault) → t'.Forbids p) ∧
    ∀ content, t.readBytes p = .ok content →
      ∀ s, t.readText p = .ok s ↔ content = Utf8.encode s := by
  refine ⟨fun t' h ↦ ?_, fun t' fault h ↦ ?_, fun h ↦ writeBytes_of_forbids h _,
    fun hsound t' fault h ↦ hsound.forbids_of_writeBytes h, fun content h ↦ readText_eq_ok_iff h⟩
  · obtain ⟨t₀, hmade, ⟨-, hoverwrite⟩ | ⟨fault, hfault, -⟩⟩ := exists_overwrite_of_writeBytes h
    · exact ⟨(readText_writeText h).2, readBytes_overwrite hoverwrite, hmade.writes hoverwrite⟩
    · cases hfault
  · obtain ⟨t₀, hmade, ⟨hok, -⟩ | ⟨-, -, rfl⟩⟩ := exists_overwrite_of_writeBytes h
    · cases hok
    · exact ⟨hmade.sameFiles, hmade⟩

/-- A tree with one file `a`, which holds an `x`. -/
def loneFile : FileTree where
  entries := [([[97]], .file [120])]

theorem isSound_loneFile : loneFile.IsSound := by
  refine ⟨fun place hplace above habove hne ↦ ?_, fun place hplace ↦ ?_⟩
  · have hlength : place.length ≤ 1 := by
      by_cases hroot : place = []
      · simp [hroot]
      · have hentry : [[97]] = place := by simpa [node?, hroot, loneFile] using hplace
        simp [← hentry]
    have hshorter : above.length < place.length :=
      Nat.lt_of_le_of_ne habove.length_le fun h ↦ hne (habove.eq_of_length h)
    rw [List.eq_nil_of_length_eq_zero (by omega : above.length = 0)]
    rfl
  · rw [List.prefix_nil.mp hplace]
    rfl

/-- Below the file `a` nothing can be written, but at `a` and at `b/c` texts can. -/
theorem writeText_outcome_beside_file :
    (∃ t', loneFile.writeText ⟨[97]⟩ "" = (t', .ok ()) ∧ t'.readText ⟨[97]⟩ = .ok "") ∧
    (∃ t', loneFile.writeText ⟨[98, 47, 99]⟩ "yz" = (t', .ok ()) ∧
      t'.readText ⟨[98, 47, 99]⟩ = .ok "yz" ∧ t'.isDirectory ⟨[98]⟩ = true) ∧
    (∃ t' fault, loneFile.writeText ⟨[97, 47, 99]⟩ "yz" = (t', .error fault) ∧
      loneFile.SameFiles t' ∧ loneFile.IsSound ∧ t'.Forbids ⟨[97, 47, 99]⟩) ∧
    loneFile.readText ⟨[97]⟩ = .ok "x" := by
  refine ⟨⟨_, rfl, ?_⟩, ⟨_, rfl, ?_⟩, ?_, ?_⟩
  · exact ((writeText_outcome loneFile ⟨[97]⟩ "").1 _ rfl).1
  · obtain ⟨hread, -, hwrites⟩ := (writeText_outcome loneFile ⟨[98, 47, 99]⟩ "yz").1 _ rfl
    exact ⟨hread, hwrites.isDirectory ⟨[98]⟩ (.parent rfl) (by decide)⟩
  · obtain ⟨-, hfails, hforbids, hreason, -⟩ := writeText_outcome loneFile ⟨[97, 47, 99]⟩ "yz"
    have hmeets : loneFile.MeetsFile [] [[97]] :=
      ⟨[[97]], [[97]], [120], List.prefix_rfl, rfl, rfl⟩
    obtain ⟨t', fault, h⟩ := hforbids (.fileAbove hmeets)
    exact ⟨t', fault, h, (hfails t' fault h).1, isSound_loneFile,
      hreason isSound_loneFile t' fault h⟩
  · exact ((writeText_outcome loneFile ⟨[97]⟩ "x").2.2.2.2 [120] rfl "x").mpr rfl

end DealForm.FileTree
