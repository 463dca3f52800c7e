import DealForm.Proofs.Json.Strings
import DealForm.Proofs.Json.Tokens

/-!
# What scalars denote

A well-formed scalar is read in one way whatever follows it: either it denotes something and all
of it is taken, or it denotes nothing. Passing over it succeeds in both cases.
-/

namespace DealForm.Json

variable {α : Type} {cs ds rest : List Char}

/-! ## Digits -/

theorem startsWithDigit_append (hds : ∀ c ∈ ds, c.isDigit = true) {t : List Char}
    (ht : startsWithDigit t = false) : startsWithDigit (ds ++ t) = !ds.isEmpty := by
  cases ds with
  | nil => exact ht
  | cons c ds => exact hds c List.mem_cons_self

theorem dropWhile_isDigit (hds : ∀ c ∈ ds, c.isDigit = true) {t : List Char}
    (ht : startsWithDigit t = false) : (ds ++ t).dropWhile Char.isDigit = t := by
  rw [List.dropWhile_append_of_pos hds]
  cases t with
  | nil => rfl
  | cons c t => exact List.dropWhile_cons_of_neg (ne_true_of_eq_false ht)

theorem takeWhile_isDigit (hds : ∀ c ∈ ds, c.isDigit = true) {t : List Char}
    (ht : startsWithDigit t = false) : (ds ++ t).takeWhile Char.isDigit = ds := by
  rw [List.takeWhile_append_of_pos hds]
  cases t with
  | nil => simp
  | cons c t =>
      have hc : ¬c.isDigit = true := ne_true_of_eq_false ht
      rw [List.takeWhile_cons_of_neg hc, List.append_nil]

/-- Which digits a number still takes depends on the digits only. -/
theorem exists_absorbDigits (limit : Nat) (hds : ∀ c ∈ ds, c.isDigit = true)
    (value count : Nat) : ∃ v k r, (∀ c ∈ r, c.isDigit = true) ∧ ∀ t, startsWithDigit t = false →
      absorbDigits limit value count (ds ++ t) = (v, k, r ++ t) := by
  induction ds generalizing value count with
  | nil =>
      refine ⟨value, count, [], by simp, fun t ht ↦ ?_⟩
      cases t with
      | nil => rfl
      | cons c t =>
          have hc : digit? c = none := by simpa [digit?, startsWithDigit] using ht
          simp [absorbDigits, hc]
  | cons c ds ih =>
      obtain ⟨hc, hds'⟩ := List.forall_mem_cons.mp hds
      have hdigit : digit? c = some (c.toNat - '0'.toNat) := if_pos hc
      simp only [List.cons_append, absorbDigits, hdigit]
      split
      · exact ⟨value, count, c :: ds, hds, fun t _ ↦ rfl⟩
      · exact ih hds' _ _

/-! ## Numbers -/

/-- The reader takes the whole text, or none of it denotes anything, whatever follows. -/
def Takes (read : Reader α) (cs : List Char) : Prop :=
  ∃ d, ∀ rest, continuesNumber rest = false → Gives (read (cs ++ rest)) d rest

theorem takes_floatOf (negative : Bool) (significand : Nat) (exponent : Int) :
    Takes (floatOf negative significand exponent) [] := by
  refine ⟨(Decimal.Magnitude.ofDecimal? significand exponent).map
    fun a ↦ .float ⟨negative, a⟩, fun rest _ ↦ ?_⟩
  rw [List.nil_append, floatOf]
  cases Decimal.Magnitude.ofDecimal? significand exponent with
  | none => exact .error _ rest
  | some a => exact .ok _ rest

theorem exists_exponentSign {sign : List Char} (hsign : sign = [] ∨ sign = ['+'] ∨ sign = ['-'])
    (hds : IsDigits ds) :
    ∃ downward, ∀ t, exponentSign (sign ++ (ds ++ t)) = (downward, ds ++ t) := by
  rcases hsign with rfl | rfl | rfl
  · obtain ⟨hne, hdigits⟩ := hds
    cases ds with
    | nil => exact absurd rfl hne
    | cons c ds =>
        refine ⟨false, fun t ↦ ?_⟩
        have hc := hdigits c List.mem_cons_self
        rw [List.nil_append, List.cons_append, exponentSign.eq_def]
        split
        · next heq => cases heq; cases hc
        · next heq => cases heq; cases hc
        · rfl
  · exact ⟨false, fun t ↦ rfl⟩
  · exact ⟨true, fun t ↦ rfl⟩

theorem takes_exponentPart (negative : Bool) (significand : Nat) (start : Int)
    {sign : List Char} (hsign : sign = [] ∨ sign = ['+'] ∨ sign = ['-']) (hds : IsDigits ds) :
    Takes (exponentPart negative significand start) (sign ++ ds) := by
  obtain ⟨downward, hdown⟩ := exists_exponentSign hsign hds
  obtain ⟨hne, hdigits⟩ := hds
  cases ds with
  | nil => exact absurd rfl hne
  | cons c ds =>
      obtain ⟨hc, hds⟩ := List.forall_mem_cons.mp hdigits
      have hdigit : digit? c = some (c.toNat - '0'.toNat) := if_pos hc
      obtain ⟨v, k, r, hr, habsorb⟩ := exists_absorbDigits maxExponent hds (c.toNat - '0'.toNat) 1
      obtain ⟨d, hd⟩ := takes_floatOf negative significand
        (clampExponent (if downward then start - v else start + v))
      refine ⟨if r.isEmpty then d
        else if significand ≠ 0 && !downward then none else some (.float ⟨negative, .zero⟩), ?_⟩
      intro rest hrest
      have hstop := startsWithDigit_of_not_continuesNumber hrest
      rw [List.append_assoc, exponentPart, hdown]
      simp only [List.cons_append, hdigit, habsorb rest hstop,
        startsWithDigit_append hr hstop, dropWhile_isDigit hr hstop]
      cases r with
      | nil => exact hd rest hrest
      | cons e r =>
          simp only [List.isEmpty_cons, Bool.not_false, if_true, Bool.false_eq_true, if_false]
          split
          · exact .error _ rest
          · exact .ok _ rest

theorem takes_floatEnd (negative : Bool) (significand : Nat) (exponent : Int)
    (hes : ExponentText ds) : Takes (floatEnd negative significand exponent) ds := by
  cases hes with
  | none =>
      obtain ⟨d, hd⟩ := takes_floatOf negative significand exponent
      refine ⟨d, fun rest hrest ↦ ?_⟩
      rw [floatEnd.eq_def]
      split
      · simp_all [continuesNumber]
      · simp_all [continuesNumber]
      · exact hd rest hrest
  | some he hsign hds =>
      rcases he with rfl | rfl
      · exact takes_exponentPart negative significand exponent hsign hds
      · exact takes_exponentPart negative significand exponent hsign hds

theorem ExponentText.startsWithDigit (hes : ExponentText ds)
    (hrest : continuesNumber rest = false) : startsWithDigit (ds ++ rest) = false := by
  cases hes with
  | none => exact startsWithDigit_of_not_continuesNumber hrest
  | some he hsign hds =>
      rcases he with rfl | rfl <;> rfl

theorem ExponentText.ne_point (hes : ExponentText ds) (hrest : continuesNumber rest = false)
    (t : List Char) : ds ++ rest ≠ '.' :: t := by
  cases hes with
  | none =>
      rintro rfl
      simp [continuesNumber] at hrest
  | some he hsign hds =>
      rcases he with rfl | rfl <;> simp

theorem FractionText.startsWithDigit (hfs : FractionText ds)
    (hrest : continuesNumber rest = false) : startsWithDigit (ds ++ rest) = false := by
  cases hfs with
  | none he => exact he.startsWithDigit hrest
  | some hds he => rfl

theorem takes_fractionPart (negative : Bool) (significand : Nat) (exponent : Int)
    {es : List Char} (hds : IsDigits ds) (hes : ExponentText es) :
    Takes (fractionPart negative significand exponent) (ds ++ es) := by
  obtain ⟨v, k, r, hr, habsorb⟩ := exists_absorbDigits maxSignificand hds.2 significand 0
  obtain ⟨d, hd⟩ := takes_floatEnd negative v (exponent - k) hes
  refine ⟨if r.isEmpty && k = 0 then none else d, fun rest hrest ↦ ?_⟩
  have hstop := hes.startsWithDigit hrest
  rw [List.append_assoc, fractionPart, habsorb _ hstop]
  simp only [startsWithDigit_append hr hstop, dropWhile_isDigit hr hstop]
  cases r with
  | nil =>
      simp only [List.isEmpty_nil, Bool.not_true, Bool.false_eq_true, if_false, Bool.true_and,
        List.nil_append, decide_eq_true_eq]
      split
      · split <;> exact .error _ rest
      · exact hd rest hrest
  | cons c r => exact hd rest hrest

theorem takes_integerEnd (negative : Bool) (significand : Nat) (hfs : FractionText ds) :
    Takes (integerEnd negative significand) ds := by
  cases hfs with
  | none hes =>
      cases hes with
      | none =>
          obtain ⟨d, hd⟩ := takes_floatOf true significand 0
          refine ⟨if !negative then some (.int significand)
            else if significand ≠ 0 && significand ≤ 0x8000000000000000 then
              some (.int (-significand)) else d, fun rest hrest ↦ ?_⟩
          rw [List.nil_append, integerEnd_of_not_continuesNumber negative significand hrest]
          split
          · exact .ok _ rest
          split
          · exact .ok _ rest
          · exact hd rest hrest
      | some he hsign hds =>
          rcases he with rfl | rfl
          · exact takes_exponentPart negative significand 0 hsign hds
          · exact takes_exponentPart negative significand 0 hsign hds
  | some hds hes => exact takes_fractionPart negative significand 0 hds hes

theorem takes_longIntegerEnd (negative : Bool) (significand : Nat) {fs : List Char}
    (hds : ∀ c ∈ ds, c.isDigit = true) (hfs : FractionText fs) :
    Takes (longIntegerEnd negative significand) (ds ++ fs) := by
  have hstop {rest : List Char} (hrest : continuesNumber rest = false) :
      startsWithDigit (fs ++ rest) = false := hfs.startsWithDigit hrest
  cases hfs with
  | none hes =>
      obtain ⟨d, hd⟩ := takes_floatEnd negative significand ds.length hes
      refine ⟨d, fun rest hrest ↦ ?_⟩
      rw [List.append_assoc, longIntegerEnd, takeWhile_isDigit hds (hstop hrest),
        dropWhile_isDigit hds (hstop hrest)]
      split
      · next heq => exact absurd heq (hes.ne_point hrest _)
      · exact hd rest hrest
  | some hds' hes =>
      obtain ⟨d, hd⟩ := takes_fractionPart negative significand ds.length hds' hes
      refine ⟨d, fun rest hrest ↦ ?_⟩
      rw [List.append_assoc, longIntegerEnd, takeWhile_isDigit hds (hstop hrest),
        dropWhile_isDigit hds (hstop hrest)]
      exact hd rest hrest

theorem takes_numberLiteral (negative : Bool) (h : NumberText cs) :
    Takes (numberLiteral negative) cs := by
  cases h with
  | zero hf =>
      obtain ⟨d, hd⟩ := takes_integerEnd negative 0 hf
      refine ⟨d, fun rest hrest ↦ ?_⟩
      rw [List.cons_append, numberLiteral, hf.startsWithDigit hrest]
      exact hd rest hrest
  | @digits ds fs hds hzero hf =>
      obtain ⟨hne, hdigits⟩ := hds
      cases ds with
      | nil => exact absurd rfl hne
      | cons c ds =>
          obtain ⟨hc, hds⟩ := List.forall_mem_cons.mp hdigits
          have hdigit : digit? c = some (c.toNat - '0'.toNat) := if_pos hc
          obtain ⟨v, k, r, hr, habsorb⟩ :=
            exists_absorbDigits maxSignificand hds (c.toNat - '0'.toNat) 1
          obtain ⟨d, hd⟩ := takes_integerEnd negative v hf
          obtain ⟨d', hd'⟩ := takes_longIntegerEnd negative v hr hf
          refine ⟨if r.isEmpty then d else d', fun rest hrest ↦ ?_⟩
          have hstop := hf.startsWithDigit hrest
          have hread : numberLiteral negative (c :: (ds ++ (fs ++ rest))) =
              if !r.isEmpty then longIntegerEnd negative v (r ++ (fs ++ rest))
              else integerEnd negative v (r ++ (fs ++ rest)) := by
            rw [numberLiteral.eq_def]
            split
            · next heq => cases heq
            · next heq => exact absurd (congrArg some (List.cons.inj heq).1) hzero
            · next heq =>
              cases heq
              simp only [hdigit, habsorb _ hstop, startsWithDigit_append hr hstop]
          rw [List.append_assoc, List.cons_append, hread]
          cases r with
          | nil => exact hd rest hrest
          | cons e r =>
              have hlong := hd' rest hrest
              rw [List.append_assoc] at hlong
              exact hlong

/-! ## Passing over numbers -/

theorem skipExponent_append {sign : List Char} (hsign : sign = [] ∨ sign = ['+'] ∨ sign = ['-'])
    (hds : IsDigits ds) (hrest : startsWithDigit rest = false) :
    skipExponent (sign ++ (ds ++ rest)) = .ok rest := by
  obtain ⟨downward, hdown⟩ := exists_exponentSign hsign hds
  obtain ⟨hne, hdigits⟩ := hds
  rw [skipExponent, hdown]
  simp [startsWithDigit_append hdigits hrest, dropWhile_isDigit hdigits hrest, hne]

theorem ExponentText.skipFloatEnd (hes : ExponentText ds) (hrest : continuesNumber rest = false) :
    skipFloatEnd (ds ++ rest) = .ok rest := by
  cases hes with
  | none =>
      rw [List.nil_append, skipFloatEnd.eq_def]
      split
      · simp [continuesNumber] at hrest
      · simp [continuesNumber] at hrest
      · rfl
  | some he hsign hds =>
      have hskip := skipExponent_append hsign hds (startsWithDigit_of_not_continuesNumber hrest)
      rcases he with rfl | rfl
      · simpa [Json.skipFloatEnd] using hskip
      · simpa [Json.skipFloatEnd] using hskip

theorem FractionText.skipIntegerEnd (hfs : FractionText ds)
    (hrest : continuesNumber rest = false) : skipIntegerEnd (ds ++ rest) = .ok rest := by
  cases hfs with
  | none hes =>
      rw [skipIntegerEnd.eq_def]
      split
      · next heq => exact absurd heq (hes.ne_point hrest _)
      · exact hes.skipFloatEnd hrest
  | some hds hes =>
      have hstop := hes.startsWithDigit hrest
      rw [List.cons_append, List.append_assoc, Json.skipIntegerEnd,
        startsWithDigit_append hds.2 hstop, dropWhile_isDigit hds.2 hstop,
        hes.skipFloatEnd hrest]
      simp [hds.1]

theorem NumberText.skipNumber (h : NumberText cs) (hrest : continuesNumber rest = false) :
    skipNumber (cs ++ rest) = .ok rest := by
  cases h with
  | zero hf =>
      rw [List.cons_append, Json.skipNumber, hf.startsWithDigit hrest, hf.skipIntegerEnd hrest]
      rfl
  | @digits ds fs hds hzero hf =>
      have hstop := hf.startsWithDigit hrest
      have hstart := startsWithDigit_append hds.2 hstop
      have hdrop := dropWhile_isDigit hds.2 hstop
      rw [List.append_assoc, skipNumber.eq_def]
      split
      · next heq =>
        have hhead := congrArg List.head? heq
        rw [List.head?_append_of_ne_nil _ hds.1] at hhead
        exact absurd hhead hzero
      · rw [hstart, hdrop, hf.skipIntegerEnd hrest]
        simp [hds.1]

theorem NumberText.startsWithDigit (h : NumberText cs) (rest : List Char) :
    startsWithDigit (cs ++ rest) = true := by
  cases h with
  | zero hf => rfl
  | @digits ds fs hds hzero hf =>
      cases ds with
      | nil => exact absurd rfl hds.1
      | cons c ds => exact hds.2 c List.mem_cons_self

/-! ## Scalars and keys -/

theorem StringText.skipLiteral (h : StringText cs) (rest : List Char) :
    skipLiteral (cs ++ '"' :: rest) = .ok rest :=
  h.skipString (by simp only [List.length_append]; omega)

theorem StringText.exists_stringLiteral (h : StringText cs) :
    ∃ d, ∀ rest, Gives (stringLiteral (cs ++ '"' :: rest)) d rest := by
  obtain ⟨⟨d, hd⟩, -⟩ := h.takesString
  refine ⟨d.map String.ofList, fun rest ↦ (hd _ rest ?_).map String.ofList⟩
  simp only [List.length_append]
  omega

theorem StringText.stringLiteral (h : StringText cs) (rest : List Char) :
    Gives (stringLiteral (cs ++ '"' :: rest)) (keyOf cs) rest := by
  obtain ⟨d, hd⟩ := h.exists_stringLiteral
  rw [keyOf, (hd []).denoted]
  exact hd rest

theorem takes_scalar (h : ScalarText cs) : Takes scalar cs := by
  cases h with
  | nullWord => exact ⟨some .null, fun rest _ ↦ .ok _ rest⟩
  | trueWord => exact ⟨some (.bool true), fun rest _ ↦ .ok _ rest⟩
  | falseWord => exact ⟨some (.bool false), fun rest _ ↦ .ok _ rest⟩
  | string h =>
      obtain ⟨d, hd⟩ := h.exists_stringLiteral
      refine ⟨d.map Json.string, fun rest _ ↦ ?_⟩
      rw [List.cons_append, List.append_assoc]
      exact (hd rest).map Json.string
  | negative h =>
      obtain ⟨d, hd⟩ := takes_numberLiteral true h
      exact ⟨d.map Json.number, fun rest hrest ↦ (hd rest hrest).map Json.number⟩
  | positive h =>
      obtain ⟨d, hd⟩ := takes_numberLiteral false h
      refine ⟨d.map Json.number, fun rest hrest ↦ ?_⟩
      have hstart := h.startsWithDigit rest
      have hread := (hd rest hrest).map Json.number
      generalize cs ++ rest = s at hstart hread ⊢
      rw [scalar.eq_def]
      split
      case h_1 => cases hstart
      case h_7 c t _ _ _ _ _ =>
        have hc : c.isDigit = true := hstart
        rw [if_pos hc]
        exact hread
      all_goals cases hstart

/-- A scalar gives what its text denotes by itself. -/
theorem ScalarText.scalar (h : ScalarText cs) (hrest : continuesNumber rest = false) :
    Gives (Json.scalar (cs ++ rest)) (scalarOf cs) rest := by
  obtain ⟨d, hd⟩ := takes_scalar h
  have halone := hd [] rfl
  rw [List.append_nil] at halone
  rw [scalarOf, halone.denoted]
  exact hd rest hrest

theorem ScalarText.skipScalar (h : ScalarText cs) (hrest : continuesNumber rest = false) :
    skipScalar (cs ++ rest) = .ok rest := by
  cases h with
  | nullWord => rfl
  | trueWord => rfl
  | falseWord => rfl
  | string h =>
      rw [List.cons_append, List.append_assoc]
      exact h.skipLiteral rest
  | negative h => exact h.skipNumber hrest
  | positive h =>
      have hstart := h.startsWithDigit rest
      have hskip := h.skipNumber hrest
      generalize cs ++ rest = s at hstart hskip ⊢
      rw [skipScalar.eq_def]
      split
      · cases hstart
      · cases hstart
      · cases hstart
      · cases hstart
      · cases hstart
      · cases hstart
      · rw [hstart, hskip]
        rfl

end DealForm.Json
