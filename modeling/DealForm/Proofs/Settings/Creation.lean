import DealForm.Proofs.File.Replacement
import DealForm.Proofs.Settings.Load

/-!
# Making settings files

Settings are made at paths that lead nowhere. A path that leads somewhere is refused, and so is one
at which settings were made, whatever else is made in between. What was a file before is still
written over in one case: the path goes up from a directory that is made for it. Without that a file
is written once.
-/

namespace DealForm.Settings

open FileTree

variable {files files' : FileTree} {file p q : Path} {paths before between : List Path}
  {place : Location} {error : Error}

/-! ## One call -/

theorem init_of_holds (h : files.holds file = true) :
    init files file = (files, .error (.config (.present file))) := by
  rw [init, h]
  rfl

theorem init_eq_ok (h : init files file = (files', .ok p)) :
    files.holds file = false ∧ p = file ∧ write files file standard = (files', .ok ()) := by
  unfold init at h
  split at h
  · cases h
  · next hmissing =>
    refine ⟨by simpa using hmissing, ?_⟩
    split at h
    · next hwrite =>
      cases h
      exact ⟨rfl, hwrite⟩
    · cases h

theorem init_eq_error (h : init files file = (files', .error error)) :
    (files.holds file = true ∧ error = .config (.present file) ∧ files' = files) ∨
      ∃ fault, files.holds file = false ∧ error = .io fault ∧
        write files file standard = (files', .error fault) := by
  unfold init at h
  split at h
  · next hthere =>
    cases h
    exact Or.inl ⟨hthere, rfl, rfl⟩
  · next hmissing =>
    split at h
    · cases h
    · next fault hwrite =>
      cases h
      exact Or.inr ⟨fault, by simpa using hmissing, rfl, hwrite⟩

theorem init_eq_of_ok (h : (init files file).2 = .ok p) :
    init files file = ((init files file).1, .ok p) :=
  Prod.ext rfl h

theorem init_files (files : FileTree) (file : Path) : (init files file).1 = files ∨
    ∃ result, write files file standard = ((init files file).1, result) := by
  cases h : init files file with
  | mk files' result =>
      cases result with
      | ok p => exact Or.inr ⟨_, (init_eq_ok h).2.2⟩
      | error error =>
          rcases init_eq_error h with ⟨-, -, hsame⟩ | ⟨fault, -, -, hwrite⟩
          · exact Or.inl hsame
          · exact Or.inr ⟨_, hwrite⟩

theorem keeps_init (files : FileTree) (file : Path) : files.Keeps (init files file).1 := by
  rcases init_files files file with hsame | ⟨result, hwrite⟩
  · rw [hsame]
    exact .refl files
  · exact keeps_writeBytes hwrite

theorem isSound_init (h : files.IsSound) (file : Path) : (init files file).1.IsSound := by
  rcases init_files files file with hsame | ⟨result, hwrite⟩
  · rw [hsame]
    exact h
  · exact h.writeBytes hwrite

theorem isWellFormed_standard : standard.IsWellFormed := by
  rw [← Draft.complete_empty]
  exact Draft.isSound_empty.complete

theorem parse_text_standard : parse standard.text = .ok standard :=
  isWellFormed_standard.parse_text trivial

/-! ## One call after the other -/

def initAll (files : FileTree) (paths : List Path) : FileTree :=
  paths.foldl (fun files file ↦ (init files file).1) files

theorem initAll_append (files : FileTree) (paths more : List Path) :
    initAll files (paths ++ more) = initAll (initAll files paths) more :=
  List.foldl_append

theorem keeps_initAll (files : FileTree) (paths : List Path) :
    files.Keeps (initAll files paths) := by
  induction paths generalizing files with
  | nil => exact .refl files
  | cons file paths ih => exact (keeps_init files file).trans (ih _)

theorem isSound_initAll (h : files.IsSound) (paths : List Path) :
    (initAll files paths).IsSound := by
  induction paths generalizing files with
  | nil => exact h
  | cons file paths ih => exact ih (isSound_init h file)

/-- Settings are made at this path, and the file is at this place then. -/
def MakesAt (files : FileTree) (file : Path) (place : Location) : Prop :=
  (init files file).2 = .ok file ∧ (init files file).1.locate file = .ok place

/-- The path goes up from a directory that is made when settings are made at it. -/
def GoesUp (files : FileTree) (file : Path) : Prop :=
  GoesUpFromNew files (init files file).1 file

theorem MakesAt.writes (h : MakesAt files file place) :
    files.Writes file (Utf8.encode standard.text) (init files file).1 :=
  writes_of_writeBytes (init_eq_ok (init_eq_of_ok h.1)).2.2

theorem MakesAt.holds_later (h : MakesAt files file place) (paths : List Path) :
    (initAll files (file :: paths)).holds file = true :=
  (keeps_initAll _ paths).holds (holds_of_locate h.2)

theorem MakesAt.content? (h : MakesAt files file place) :
    (init files file).1.content? place = some (Utf8.encode standard.text) := by
  obtain ⟨place', hlocate, hcontent, -⟩ := h.writes.exists_place
  obtain rfl : place' = place := Except.ok.inj (hlocate.symm.trans h.2)
  exact hcontent

/-- Where settings are made an entry stands from then on. -/
theorem MakesAt.isSome_later (h : MakesAt files file place) (paths : List Path) :
    ((initAll files (file :: paths)).node? place).isSome = true := by
  have hcontent := h.content?
  refine (keeps_initAll _ paths).isSome_node? place (Option.isSome_iff_ne_none.mpr fun hnone ↦ ?_)
  rw [FileTree.content?, hnone] at hcontent
  cases hcontent

/-- Settings are made where nothing stood, or the path goes up. -/
theorem MakesAt.node?_eq_none_or (hmakes : MakesAt files file place) (h : files.IsSound) :
    files.node? place = none ∨ GoesUp files file :=
  hmakes.writes.node?_eq_none_or h (init_eq_ok (init_eq_of_ok hmakes.1)).1 hmakes.2

/-- A call that does not go up leaves every file that is there as it is. -/
theorem content?_init (h : files.IsSound) (hup : Path.dotDot ∉ file.names) {content : Bytes}
    (hcontent : files.content? place = some content) :
    (init files file).1.content? place = some content := by
  cases hinit : init files file with
  | mk files' result =>
      cases result with
      | error error =>
          rcases init_eq_error hinit with ⟨-, -, rfl⟩ | ⟨fault, -, -, hwrite⟩
          · exact hcontent
          · exact (sameFiles_of_writeBytes hwrite place).trans hcontent
      | ok p =>
          obtain ⟨-, rfl, hwrite⟩ := init_eq_ok hinit
          obtain ⟨place', hlocate, -, hothers⟩ := (writes_of_writeBytes hwrite).exists_place
          refine (hothers place ?_).1.trans hcontent
          rintro rfl
          have hmakes : MakesAt files p place := by rw [MakesAt, hinit]; exact ⟨rfl, hlocate⟩
          rcases hmakes.node?_eq_none_or h with hnone | hgoesUp
          · rw [content?, hnone] at hcontent
            cases hcontent
          · exact hup hgoesUp.dotDot_mem_names

theorem content?_initAll (h : files.IsSound) (hup : ∀ file ∈ paths, Path.dotDot ∉ file.names)
    {content : Bytes} (hcontent : files.content? place = some content) :
    (initAll files paths).content? place = some content := by
  induction paths generalizing files with
  | nil => exact hcontent
  | cons file paths ih =>
      obtain ⟨hfile, hpaths⟩ := List.forall_mem_cons.mp hup
      exact ih (isSound_init h file) hpaths (content?_init h hfile hcontent)

/-- Where the path leads somewhere, making settings is refused and nothing changes. Otherwise it
fails and changes no file, or else the path leads to a file from which the standard settings are
loaded, all other files are as before and the path is refused from then on, whatever is made
later. In a sound tree no call writes where an entry stands already, be it from before or made by an
earlier call, except by a path that goes up from a directory which the call makes; so paths without
two dots never change a file that is there. As all trees here, these have no links and no
permissions, and no write fails once its file is open. -/
theorem init_outcome (files : FileTree) (file : Path) :
    (files.holds file = true →
      init files file = (files, .error (.config (.present file)))) ∧
    (∀ files' p, init files file = (files', .ok p) →
      p = file ∧ files.holds file = false ∧ files'.readText file = .ok standard.text ∧
        parse standard.text = .ok standard ∧ load files' file = .ok standard ∧
        files.Writes file (Utf8.encode standard.text) files' ∧
        ∀ paths, init (initAll files' paths) file =
          (initAll files' paths, .error (.config (.present file)))) ∧
    (∀ files' error, init files file = (files', .error error) → files.SameFiles files' ∧
      (files.holds file = false → ∃ fault, error = .io fault)) ∧
    (files.IsSound →
      (∀ paths p place, MakesAt (initAll files paths) p place →
        (initAll files paths).node? place = none ∨ GoesUp (initAll files paths) p) ∧
      (∀ before between p q place, MakesAt (initAll files before) p place →
        MakesAt (initAll files (before ++ p :: between)) q place →
          q ≠ p ∧ GoesUp (initAll files (before ++ p :: between)) q) ∧
      ∀ paths, (∀ p ∈ paths, Path.dotDot ∉ p.names) →
        ∀ place content, files.content? place = some content →
          (initAll files paths).content? place = some content) := by
  refine ⟨init_of_holds, fun files' p hinit ↦ ?_, fun files' error hinit ↦ ?_, fun hsound ↦
    ⟨fun paths p place hmakes ↦ ?_, fun before between p q place hp hq ↦ ?_, fun paths hup place
      content hcontent ↦ content?_initAll hsound hup hcontent⟩⟩
  · obtain ⟨hmissing, rfl, hwrite⟩ := init_eq_ok hinit
    obtain ⟨hthere, hread⟩ := readText_writeText hwrite
    refine ⟨rfl, hmissing, hread, parse_text_standard, ?_, writes_of_writeBytes hwrite,
      fun paths ↦ init_of_holds ((keeps_initAll files' paths).holds hthere)⟩
    rw [load_of_readable hthere hread, parse_text_standard]
    rfl
  · rcases init_eq_error hinit with ⟨hthere, -, rfl⟩ | ⟨fault, -, rfl, hwrite⟩
    · exact ⟨.refl files', fun hmissing ↦ by simp [hthere] at hmissing⟩
    · exact ⟨sameFiles_of_writeBytes hwrite, fun _ ↦ ⟨fault, rfl⟩⟩
  · exact hmakes.node?_eq_none_or (isSound_initAll hsound paths)
  · rw [initAll_append] at hq ⊢
    have hthere := hp.isSome_later between
    have hlater := isSound_initAll (isSound_initAll hsound before) (p :: between)
    constructor
    · rintro rfl
      have hlost := (init_eq_ok (init_eq_of_ok hq.1)).1
      rw [hp.holds_later between] at hlost
      cases hlost
    · refine (hq.node?_eq_none_or hlater).resolve_left fun hnone ↦ ?_
      rw [hnone] at hthere
      cases hthere

/-- Beside a file `a`, settings are made at `s` and refused there from then on. -/
theorem init_outcome_beside_file :
    let s : Path := ⟨[115]⟩
    let made := (init loneFile s).1
    let later := initAll made [⟨[98, 47, 115]⟩, ⟨[97]⟩]
    (init loneFile s).2 = .ok s ∧ load made s = .ok standard ∧
      init later s = (later, .error (.config (.present s))) ∧
      init loneFile ⟨[97]⟩ = (loneFile, .error (.config (.present ⟨[97]⟩))) ∧
      (initAll loneFile [s, ⟨[98, 47, 115]⟩, ⟨[97]⟩]).content? [[97]] = some [120] := by
  intro s made later
  have hok : (init loneFile s).2 = .ok s := by decide +kernel
  obtain ⟨-, hmakes, -, hsound⟩ := init_outcome loneFile s
  obtain ⟨-, -, -, -, hload, -, hrefused⟩ := hmakes made s (init_eq_of_ok hok)
  obtain ⟨-, -, hkept⟩ := hsound isSound_loneFile
  refine ⟨hok, hload, hrefused _, ?_, hkept _ (by decide +kernel) _ _ rfl⟩
  exact (init_outcome loneFile ⟨[97]⟩).1 (by decide +kernel)

/-- The path `b/../a` leads nowhere while there is no `b`, and so settings are made at it; then it
leads to the file `a`, whose content is gone. In the same way settings that were made at `s` are
made once more at `b/../s`. -/
theorem settings_can_be_made_over_a_file :
    (∃ files file place content, files.IsSound ∧ files.content? place = some content ∧
      MakesAt files file place ∧ (init files file).1.content? place ≠ some content) ∧
    ¬ ∀ (files : FileTree) (before between : List Path) (p q : Path) (place : Location),
      files.IsSound → MakesAt (initAll files before) p place →
        ¬ MakesAt (initAll files (before ++ p :: between)) q place := by
  constructor
  · let q : Path := ⟨[98, 47, 46, 46, 47, 97]⟩
    have hmakes : MakesAt loneFile q [[97]] := ⟨by decide +kernel, by decide +kernel⟩
    refine ⟨loneFile, q, [[97]], Utf8.encode "x", isSound_loneFile, rfl, hmakes, fun hkept ↦ ?_⟩
    -- what was written can be read as settings, and the old content can not
    have htext := congrArg Utf8.decode (Option.some.inj (hmakes.content?.symm.trans hkept))
    rw [Utf8.decode_encode, Utf8.decode_encode] at htext
    have hparse := parse_text_standard
    rw [Except.ok.inj htext] at hparse
    cases hparse
  · intro h
    let s : Path := ⟨[115]⟩
    let q : Path := ⟨[98, 47, 46, 46, 47, 115]⟩
    have hfirst : MakesAt (initAll loneFile []) s [[115]] :=
      ⟨by decide +kernel, by decide +kernel⟩
    have hagain : MakesAt (initAll loneFile ([] ++ s :: [])) q [[115]] :=
      ⟨by decide +kernel, by decide +kernel⟩
    exact absurd hagain (h loneFile [] [] s q [[115]] isSound_loneFile hfirst)

end DealForm.Settings
