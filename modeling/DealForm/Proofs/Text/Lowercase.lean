import DealForm.Proofs.Text.Utf8
import DealForm.Text.Lowercase
import Mathlib.Data.List.Forall2

/-!
# Texts whose small form is a keyword

Of the characters outside ASCII, two alone have a letter of ASCII in their small form: the dotted
capital I, whose i has a mark after it, and the Kelvin sign, which becomes a k. Keywords have
neither a mark nor a k. So the small form of a text is a keyword exactly if the text is the keyword
up to the case of letters of ASCII.
-/

namespace DealForm.Text

variable {c d : Char} {r : CaseRun} {code : Nat} {before cs ds : List Char} {text word : String}

/-! ## Texts up to case -/

def IsCapital (c : Char) : Prop :=
  'A' ≤ c ∧ c ≤ 'Z'

instance (c : Char) : Decidable (IsCapital c) :=
  inferInstanceAs (Decidable (_ ∧ _))

/-- A capital from A to Z and its small letter. -/
def IsCapitalOf (c d : Char) : Prop :=
  IsCapital c ∧ d.toNat = c.toNat + 32

instance (c d : Char) : Decidable (IsCapitalOf c d) :=
  inferInstanceAs (Decidable (_ ∧ _))

def SameLetter (c d : Char) : Prop :=
  c = d ∨ IsCapitalOf c d ∨ IsCapitalOf d c

instance (c d : Char) : Decidable (SameLetter c d) :=
  inferInstanceAs (Decidable (_ ∨ _))

/-- The texts are equal up to the case of letters of ASCII. -/
def SameUpToAsciiCase (text word : String) : Prop :=
  List.Forall₂ SameLetter text.toList word.toList

instance (text word : String) : Decidable (SameUpToAsciiCase text word) :=
  inferInstanceAs (Decidable (List.Forall₂ _ _ _))

theorem SameUpToAsciiCase.refl (text : String) : SameUpToAsciiCase text text :=
  List.forall₂_same.mpr fun _ _ ↦ Or.inl rfl

/-! ## Keywords -/

/-- The characters of keywords: the small letters of ASCII without the k, and the hyphen. -/
def IsKeywordChar (d : Char) : Prop :=
  (('a' ≤ d ∧ d ≤ 'z') ∧ d ≠ 'k') ∨ d = '-'

instance (d : Char) : Decidable (IsKeywordChar d) :=
  inferInstanceAs (Decidable (_ ∨ _))

def IsKeyword (word : String) : Prop :=
  ∀ d ∈ word.toList, IsKeywordChar d

instance (word : String) : Decidable (IsKeyword word) :=
  List.decidableBAll IsKeywordChar word.toList

theorem IsKeywordChar.toNat_lt (h : IsKeywordChar d) : d.toNat < 0x80 := by
  rcases h with ⟨⟨-, hz⟩, -⟩ | rfl
  · exact Nat.lt_of_le_of_lt hz (by decide)
  · decide

theorem IsKeywordChar.not_isCapital (h : IsKeywordChar d) : ¬ IsCapital d := by
  rintro ⟨hA, hZ⟩
  rcases h with ⟨⟨ha, -⟩, -⟩ | rfl
  · exact absurd (Char.le_trans ha hZ) (by decide)
  · exact absurd hA (by decide)

/-- A letter that is the same as one of a keyword is in ASCII. -/
theorem SameLetter.toNat_lt (h : SameLetter c d) (hd : IsKeywordChar d) : c.toNat < 0x80 := by
  rcases h with rfl | ⟨⟨-, hZ⟩, -⟩ | ⟨hcapital, -⟩
  · exact hd.toNat_lt
  · exact Nat.lt_of_le_of_lt hZ (by decide)
  · exact absurd hcapital hd.not_isCapital

theorem toNat_lt_of_forall₂ (h : List.Forall₂ SameLetter cs ds) (hds : ∀ d ∈ ds, IsKeywordChar d) :
    ∀ c ∈ cs, c.toNat < 0x80 := by
  induction h with
  | nil => nofun
  | cons hsame _ ih =>
      obtain ⟨hd, hds⟩ := List.forall_mem_cons.mp hds
      exact List.forall_mem_cons.mpr ⟨hsame.toNat_lt hd, ih hds⟩

theorem SameUpToAsciiCase.toNat_lt (h : SameUpToAsciiCase text word) (hword : IsKeyword word) :
    ∀ c ∈ text.toList, c.toNat < 0x80 :=
  toNat_lt_of_forall₂ h hword

/-! ## Small forms of characters -/

theorem toNat_toLower (h : IsCapital c) : c.toLower.toNat = c.toNat + 32 := by
  have hZ : c.toNat ≤ 0x5A := h.2
  have hlower : c.toLower.val = c.val + 32 := congrArg Char.val (dif_pos h)
  calc
    c.toLower.toNat = (c.val + 32).toNat := congrArg UInt32.toNat hlower
    _ = (c.toNat + 32) % 2 ^ 32 := UInt32.toNat_add c.val 32
    _ = c.toNat + 32 := Nat.mod_eq_of_lt (by omega)

theorem toLower_eq_self (h : ¬ IsCapital c) : c.toLower = c :=
  dif_neg h

theorem toLower_eq_iff (hd : IsKeywordChar d) : c.toLower = d ↔ SameLetter c d := by
  have hother : ¬ IsCapital d := hd.not_isCapital
  by_cases hc : IsCapital c
  · have hne : c ≠ d := by
      rintro rfl
      exact hother hc
    rw [← Char.toNat_inj, toNat_toLower hc]
    simp only [SameLetter, IsCapitalOf, hne, hc, hother, true_and, false_and, false_or, or_false,
      eq_comm]
  · rw [toLower_eq_self hc]
    simp only [SameLetter, IsCapitalOf, hc, hother, false_and, or_false]

theorem lowerChar_of_lt (h : c.toNat < 0x80) : lowerChar c = [c.toLower] :=
  if_pos h

namespace CaseRun

/-- The small letters of a run are characters, none of which is in ASCII. -/
def LeavesAscii (r : CaseRun) : Prop :=
  0x80 ≤ r.small ∧
    (r.image r.last < 0xD800 ∨ 0xDFFF < r.small ∧ r.image r.last < 0x110000)

instance (r : CaseRun) : Decidable r.LeavesAscii :=
  inferInstanceAs (Decidable (_ ∧ _))

theorem bounds_of_holds (h : r.holds code = true) : r.first ≤ code ∧ code ≤ r.last := by
  simp only [holds, Bool.and_eq_true, decide_eq_true_eq] at h
  exact h.1

theorem LeavesAscii.le_toNat_image (h : r.LeavesAscii) (hcode : r.holds code = true) :
    0x80 ≤ (Char.ofNat (r.image code)).toNat := by
  obtain ⟨hsmall, hvalid⟩ := h
  obtain ⟨hfirst, hlast⟩ := bounds_of_holds hcode
  simp only [image] at hvalid ⊢
  have hscalar : (r.small + (code - r.first)).isValidChar := by
    unfold Nat.isValidChar
    omega
  rw [Utf8.toNat_ofNat_of_isValidChar hscalar]
  omega

end CaseRun

theorem leavesAscii_or_kelvin : ∀ r ∈ caseRuns,
    r.LeavesAscii ∨ r.first = 0x212A ∧ r.last = 0x212A ∧ r.small = 0x6B := by
  decide +kernel

/-- The letters of ASCII in small forms of characters outside of it. -/
theorem eq_of_mem_lowerChar (hc : 0x80 ≤ c.toNat) (hmem : d ∈ lowerChar c) (hd : d.toNat < 0x80) :
    c.toNat = 0x130 ∧ d = 'i' ∨ c.toNat = 0x212A ∧ d = 'k' := by
  rw [lowerChar, if_neg (Nat.not_lt.mpr hc)] at hmem
  split at hmem
  · next hdotted =>
    rcases List.mem_pair.mp hmem with rfl | rfl
    · exact Or.inl ⟨hdotted, rfl⟩
    · exact absurd hd (by decide)
  · split at hmem
    · next r hfind =>
      obtain rfl := List.mem_singleton.mp hmem
      have hholds := List.find?_some hfind
      rcases leavesAscii_or_kelvin r (List.mem_of_find?_eq_some hfind) with hleaves | hkelvin
      · exact absurd hd (Nat.not_lt.mpr (hleaves.le_toNat_image hholds))
      · obtain ⟨hfirst, hlast, hsmall⟩ := hkelvin
        obtain ⟨hle, hle'⟩ := CaseRun.bounds_of_holds hholds
        have hcode : c.toNat = 0x212A := by omega
        rw [CaseRun.image, hfirst, hsmall, hcode]
        exact Or.inr ⟨rfl, rfl⟩
    · obtain rfl := List.mem_singleton.mp hmem
      exact absurd hd (Nat.not_lt.mpr hc)

theorem lowerChar_ne_nil (c : Char) : lowerChar c ≠ [] := by
  unfold lowerChar
  split_ifs
  · nofun
  · nofun
  · split <;> nofun

/-- What comes of a character outside ASCII does not fit into a keyword. -/
theorem exists_mem_lowerChar (hc : 0x80 ≤ c.toNat) : ∃ d ∈ lowerChar c, ¬ IsKeywordChar d := by
  obtain ⟨d, hd⟩ := List.exists_mem_of_ne_nil _ (lowerChar_ne_nil c)
  by_cases hascii : d.toNat < 0x80
  · rcases eq_of_mem_lowerChar hc hd hascii with ⟨hdotted, -⟩ | ⟨-, rfl⟩
    -- After the i of the dotted capital stands the dot as a mark of its own.
    · refine ⟨Char.ofNat 0x307, ?_, by decide⟩
      rw [lowerChar, if_neg (Nat.not_lt.mpr hc), if_pos hdotted]
      exact List.mem_cons_of_mem _ List.mem_cons_self
    · exact ⟨'k', hd, by decide⟩
  · exact ⟨d, hd, fun h ↦ hascii h.toNat_lt⟩

/-! ## Small forms of texts -/

theorem lowerBetween_of_lt (h : c.toNat < 0x80) : lowerBetween before c cs = [c.toLower] := by
  have hsigma : c ≠ 'Σ' := by
    rintro rfl
    exact absurd h (by decide)
  simp [lowerBetween, hsigma, lowerChar_of_lt h]

theorem exists_mem_lowerBetween (hc : 0x80 ≤ c.toNat) :
    ∃ d ∈ lowerBetween before c cs, ¬ IsKeywordChar d := by
  unfold lowerBetween
  split
  · exact ⟨'ς', List.mem_singleton_self _, by decide⟩
  · exact exists_mem_lowerChar hc

theorem lowerAfter_eq_iff (hds : ∀ d ∈ ds, IsKeywordChar d) :
    lowerAfter before cs = ds ↔ List.Forall₂ SameLetter cs ds := by
  induction cs generalizing before ds with
  | nil => rw [lowerAfter, List.forall₂_nil_left_iff, eq_comm]
  | cons c cs ih =>
      by_cases hc : c.toNat < 0x80
      · rw [lowerAfter, lowerBetween_of_lt hc, List.singleton_append]
        cases ds with
        | nil => simp
        | cons d ds =>
            obtain ⟨hd, hds⟩ := List.forall_mem_cons.mp hds
            rw [List.cons.injEq, toLower_eq_iff hd, ih hds, List.forall₂_cons]
      -- Outside ASCII neither side can hold: what comes of the character is in no keyword.
      · constructor
        · rintro rfl
          obtain ⟨d, hd, hforeign⟩ := exists_mem_lowerBetween (Nat.not_lt.mp hc)
          exact absurd (hds d (List.mem_append_left _ hd)) hforeign
        · intro h
          obtain ⟨d, ds', hsame, -, rfl⟩ := List.forall₂_cons_left_iff.mp h
          exact absurd (hsame.toNat_lt (hds d List.mem_cons_self)) hc

theorem lowercase_eq_iff (hword : IsKeyword word) :
    lowercase text = word ↔ SameUpToAsciiCase text word := by
  rw [← String.toList_inj, lowercase, String.toList_ofList]
  exact lowerAfter_eq_iff hword

end DealForm.Text
