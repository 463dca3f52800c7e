import DealForm.Form.Basic
import DealForm.Proofs.File.Path
import DealForm.Proofs.Form.DownloadName
import Mathlib.Data.List.Forall2

/-!
# Which identifiers share a download

A name of a download keeps the length of its identifier, and each character that may stand in a
name. So two identifiers have one name just if they differ only in characters that a name shows as
underscores, and then the later download takes the file of the earlier one.
-/

namespace DealForm

variable {c d : Char} {a b text : String} {contentId contentId' : Option String}

/-! ## Characters in names -/

/-- The letters, digits and marks that names of downloads are made of. -/
def StandsInNames (c : Char) : Prop :=
  ('A' ≤ c ∧ c ≤ 'Z') ∨ ('a' ≤ c ∧ c ≤ 'z') ∨ ('0' ≤ c ∧ c ≤ '9') ∨ c = '.' ∨ c = '_' ∨ c = '-'

theorem isPlainNameChar_iff : isPlainNameChar c = true ↔ StandsInNames c := by
  simp only [isPlainNameChar, StandsInNames, Bool.or_eq_true, beq_iff_eq, Utf8.isAlphanum_iff,
    or_assoc]

/-- The character that a name shows in the place of this one. -/
def shownInName (c : Char) : Char :=
  if isPlainNameChar c then c else '_'

theorem sanitize_eq (text : String) :
    sanitize text = String.ofList (text.toList.map shownInName) := rfl

def ShownAsUnderscore (c : Char) : Prop :=
  c = '_' ∨ ¬ StandsInNames c

theorem shownInName_eq_self_iff : shownInName c = c ↔ StandsInNames c := by
  rw [← isPlainNameChar_iff, shownInName]
  split
  · next hplain => exact iff_of_true rfl hplain
  · next hother =>
    refine iff_of_false ?_ hother
    rintro rfl
    exact hother rfl

theorem shownInName_eq_underscore_iff : shownInName c = '_' ↔ ShownAsUnderscore c := by
  rw [ShownAsUnderscore, ← isPlainNameChar_iff, shownInName]
  split
  · next hplain => simp [hplain]
  · next hother => simp [hother]

theorem shownInName_eq_self (h : ¬ ShownAsUnderscore c) : shownInName c = c :=
  shownInName_eq_self_iff.mpr (not_not.mp (not_or.mp h).2)

theorem shownInName_eq_iff : shownInName c = shownInName d ↔
    c = d ∨ (ShownAsUnderscore c ∧ ShownAsUnderscore d) := by
  constructor
  · intro h
    by_cases hc : ShownAsUnderscore c
    · rw [shownInName_eq_underscore_iff.mpr hc] at h
      exact Or.inr ⟨hc, shownInName_eq_underscore_iff.mp h.symm⟩
    · have hd : ¬ ShownAsUnderscore d := by
        intro hd
        rw [shownInName_eq_underscore_iff.mpr hd] at h
        exact hc (shownInName_eq_underscore_iff.mp h)
      rw [shownInName_eq_self hc, shownInName_eq_self hd] at h
      exact Or.inl h
  · rintro (rfl | ⟨hc, hd⟩)
    · rfl
    · rw [shownInName_eq_underscore_iff.mpr hc, shownInName_eq_underscore_iff.mpr hd]

/-! ## Texts in names -/

/-- The texts have as many characters, and at each position the same one or two that names show as
an underscore. -/
def LooksAlike (a b : String) : Prop :=
  a.length = b.length ∧ ∀ (i : Nat) (c d : Char), a.toList[i]? = some c → b.toList[i]? = some d →
    c = d ∨ (ShownAsUnderscore c ∧ ShownAsUnderscore d)

theorem sanitize_eq_iff : sanitize a = sanitize b ↔ LooksAlike a b := by
  rw [sanitize_eq, sanitize_eq, String.ofList_inj, ← List.forall₂_eq_eq_eq,
    List.forall₂_map_left_iff, List.forall₂_map_right_iff, List.forall₂_iff_get, LooksAlike,
    ← String.length_toList, ← String.length_toList]
  refine and_congr_right fun _ ↦ ?_
  constructor
  · intro h i c d hc hd
    obtain ⟨hi, rfl⟩ := List.getElem?_eq_some_iff.mp hc
    obtain ⟨hi', rfl⟩ := List.getElem?_eq_some_iff.mp hd
    exact shownInName_eq_iff.mp (h i hi hi')
  · intro h i hi hi'
    apply shownInName_eq_iff.mpr
    exact h i _ _ (List.getElem?_eq_getElem hi) (List.getElem?_eq_getElem hi')

theorem sanitize_eq_self_iff : sanitize text = text ↔ ∀ c ∈ text.toList, StandsInNames c := by
  constructor
  · intro h c hc
    rw [← h] at hc
    exact isPlainNameChar_iff.mp (isPlainNameChar_of_mem_sanitize hc)
  · intro h
    have hsame := List.map_congr_left fun c hc ↦ shownInName_eq_self_iff.mpr (h c hc)
    rw [sanitize_eq, hsame, List.map_id', String.ofList_toList]

theorem sanitize_sanitize (text : String) : sanitize (sanitize text) = sanitize text := by
  apply sanitize_eq_self_iff.mpr
  intro c hc
  exact isPlainNameChar_iff.mp (isPlainNameChar_of_mem_sanitize hc)

/-! ## Names and files -/

/-- No identifier is shown, or an empty one. -/
def IsBlank (contentId : Option String) : Prop :=
  contentId.getD "" = ""

instance (contentId : Option String) : Decidable (IsBlank contentId) :=
  inferInstanceAs (Decidable (contentId.getD "" = ""))

theorem isBlank_or (contentId : Option String) :
    IsBlank contentId ∨ ∃ a, contentId = some a ∧ a ≠ "" := by
  cases contentId with
  | none => exact Or.inl rfl
  | some a =>
      by_cases ha : a = ""
      · exact Or.inl ha
      · exact Or.inr ⟨a, rfl, ha⟩

theorem downloadName_of_isBlank (h : IsBlank contentId) :
    downloadName contentId = "status-check.txt" := by
  cases contentId with
  | none => rfl
  | some a =>
      obtain rfl : a = "" := h
      rfl

theorem downloadName_of_ne (h : a ≠ "") :
    downloadName (some a) = "status-check-for" ++ sanitize a ++ ".txt" := by
  have ha : a.isEmpty = false := by simpa using h
  simp only [downloadName, ha, Bool.false_eq_true, ↓reduceIte]

theorem downloadName_eq_plain_iff :
    downloadName contentId = "status-check.txt" ↔ IsBlank contentId := by
  refine ⟨fun h ↦ ?_, downloadName_of_isBlank⟩
  rcases isBlank_or contentId with hblank | ⟨a, rfl, ha⟩
  · exact hblank
  -- The other names are longer than this one.
  · have hlength := length_encode_downloadName ha
    have hplain : (Utf8.encode "status-check.txt").length = 16 := by decide
    rw [h, hplain] at hlength
    omega

theorem downloadName_some_eq_iff (ha : a ≠ "") (hb : b ≠ "") :
    downloadName (some a) = downloadName (some b) ↔ LooksAlike a b := by
  rw [downloadName_of_ne ha, downloadName_of_ne hb, String.append_left_inj,
    String.append_right_inj, sanitize_eq_iff]

theorem downloadName_eq_iff : downloadName contentId = downloadName contentId' ↔
    (IsBlank contentId ∧ IsBlank contentId') ∨
      ∃ a b, contentId = some a ∧ contentId' = some b ∧ a ≠ "" ∧ b ≠ "" ∧ LooksAlike a b := by
  constructor
  · intro h
    rcases isBlank_or contentId with hblank | ⟨a, rfl, ha⟩
    · rw [downloadName_of_isBlank hblank] at h
      exact Or.inl ⟨hblank, downloadName_eq_plain_iff.mp h.symm⟩
    · rcases isBlank_or contentId' with hblank | ⟨b, rfl, hb⟩
      · rw [downloadName_of_isBlank hblank] at h
        exact absurd (downloadName_eq_plain_iff.mp h) ha
      · exact Or.inr ⟨a, b, rfl, rfl, ha, hb, (downloadName_some_eq_iff ha hb).mp h⟩
  · rintro (⟨hblank, hblank'⟩ | ⟨a, b, rfl, rfl, ha, hb, halike⟩)
    · rw [downloadName_of_isBlank hblank, downloadName_of_isBlank hblank']
    · exact (downloadName_some_eq_iff ha hb).mpr halike

theorem LooksAlike.eq (h : LooksAlike a b) (ha : ∀ c ∈ a.toList, StandsInNames c)
    (hb : ∀ c ∈ b.toList, StandsInNames c) : a = b := by
  rw [← sanitize_eq_iff, sanitize_eq_self_iff.mpr ha, sanitize_eq_self_iff.mpr hb] at h
  exact h

theorem join_downloadName_eq_iff (directory : Path) :
    directory.join (Path.ofString (downloadName contentId)) =
      directory.join (Path.ofString (downloadName contentId')) ↔
        downloadName contentId = downloadName contentId' := by
  refine ⟨fun h ↦ ?_, congrArg fun name ↦ directory.join (Path.ofString name)⟩
  have hnames := congrArg Path.names h
  rw [Path.ofString, Path.ofString,
    Path.names_join (encode_downloadName_ne_nil _) (slash_notMem_encode_downloadName _),
    Path.names_join (encode_downloadName_ne_nil _) (slash_notMem_encode_downloadName _),
    List.append_cancel_left_eq, List.singleton_inj] at hnames
  exact Utf8.encode_inj.mp hnames

/-- Two forms name their downloads alike just if both show no identifier, or identifiers that differ
only in characters shown as underscores. In any directory the downloads are one file then, and only
then. The plain name stands for no identifier alone, and identifiers of characters that names are
made of have files of their own. -/
theorem downloads_share_file_iff :
    (∀ f g : Form, f.downloadName = g.downloadName ↔
      (IsBlank f.display.responseContentId ∧ IsBlank g.display.responseContentId) ∨
        ∃ a b, f.display.responseContentId = some a ∧ g.display.responseContentId = some b ∧
          a ≠ "" ∧ b ≠ "" ∧ LooksAlike a b) ∧
    (∀ (f g : Form) (directory : Path), directory.join (Path.ofString f.downloadName) =
      directory.join (Path.ofString g.downloadName) ↔ f.downloadName = g.downloadName) ∧
    (∀ f : Form, f.downloadName = "status-check.txt" ↔ IsBlank f.display.responseContentId) ∧
    (∀ (f g : Form) (a b : String), f.display.responseContentId = some a →
      g.display.responseContentId = some b → (∀ c ∈ a.toList, StandsInNames c) →
        (∀ c ∈ b.toList, StandsInNames c) → f.downloadName = g.downloadName → a = b) ∧
    (∀ text, sanitize (sanitize text) = sanitize text) ∧
    ∀ text, sanitize text = text ↔ ∀ c ∈ text.toList, StandsInNames c := by
  refine ⟨fun f g ↦ downloadName_eq_iff, fun f g directory ↦ join_downloadName_eq_iff directory,
    fun f ↦ downloadName_eq_plain_iff, ?_, sanitize_sanitize, fun text ↦ sanitize_eq_self_iff⟩
  intro f g a b hf hg ha hb hname
  rw [Form.downloadName, Form.downloadName, hf, hg, downloadName_eq_iff] at hname
  rcases hname with ⟨hblank, hblank'⟩ | ⟨a', b', hsome, hsome', -, -, halike⟩
  · obtain rfl : a = "" := hblank
    obtain rfl : b = "" := hblank'
    rfl
  · cases hsome
    cases hsome'
    exact halike.eq ha hb

/-- A slash and a letter with an accent are both shown as underscores; a dot is not. -/
theorem downloads_share_file_of_slash :
    let showing (id : String) : Form :=
      (Form.ofBaseUrl "http://h").showResponse id ""
    let directory := Path.ofString "out"
    directory.join (Path.ofString (showing "a/b").downloadName) =
        directory.join (Path.ofString (showing "aéb").downloadName) ∧
      (showing "a.b").downloadName ≠ (showing "a_b").downloadName ∧
      (showing "_").downloadName ≠ "status-check.txt" := by
  intro showing directory
  obtain ⟨hnames, hfiles, hplain, hown, -, hself⟩ := downloads_share_file_iff
  have halike : LooksAlike "a/b" "aéb" := sanitize_eq_iff.mp (by decide)
  refine ⟨?_, fun hsame ↦ ?_, fun hname ↦ ?_⟩
  · apply (hfiles _ _ directory).mpr
    apply (hnames _ _).mpr
    exact Or.inr ⟨"a/b", "aéb", rfl, rfl, by decide, by decide, halike⟩
  · have hid := hown (showing "a.b") (showing "a_b") "a.b" "a_b" rfl rfl
      ((hself "a.b").mp (by decide)) ((hself "a_b").mp (by decide)) hsame
    exact absurd hid (by decide)
  · exact absurd ((hplain _).mp hname) (by decide)

end DealForm
