import DealForm.Json.Reader
import DealForm.Proofs.Json.Opening
import Mathlib.Data.List.DropRight

/-!
# Printed strings and integers read back

Each token is read off the front of a text that goes on. A string ends at its own quote. An integer
ends at the first character that is no digit, unless a point or an exponent makes it a double; so
what follows it must not begin with one of these.
-/

namespace DealForm.Json

/-! ## Blanks and words -/

theorem skipBlanks_cons {c : Char} (s : List Char) (h : isBlank c = false) :
    skipBlanks (c :: s) = c :: s := by
  simp [skipBlanks, h]

theorem skipBlanks_append {bs : List Char} (s : List Char) (h : ∀ c ∈ bs, isBlank c = true) :
    skipBlanks (bs ++ s) = skipBlanks s :=
  List.dropWhile_append_of_pos h

theorem isBlank_of_opensValue {c : Char} (h : opensValue c = true) : isBlank c = false := by
  cases hc : isBlank c with
  | false => rfl
  | true =>
      simp only [isBlank, Bool.or_eq_true, beq_iff_eq] at hc
      rcases hc with ((rfl | rfl) | rfl) | rfl <;> cases h

theorem skipBlanks_of_isOpened {text : List Char} (s : List Char) (h : IsOpened text) :
    skipBlanks (text ++ s) = text ++ s := by
  obtain ⟨c, cs, rfl, hc⟩ := h
  exact skipBlanks_cons (cs ++ s) (isBlank_of_opensValue hc)

theorem word_append (es s : List Char) : word es (es ++ s) = .ok s := by
  induction es with
  | nil => rfl
  | cons e es ih => simpa [word] using ih

/-! ## Strings -/

theorem hexQuad?_of_lt : ∀ n < 0x20,
    hexQuad? '0' '0' (Text.hexDigit (n / 16)) (Text.hexDigit (n % 16)) = some n := by
  decide

theorem unicodeEscape_of_lt {c : Char} (s : List Char) (h : c.toNat < 0x20) :
    unicodeEscape
      ('0' :: '0' :: Text.hexDigit (c.toNat / 16) :: Text.hexDigit (c.toNat % 16) :: s) =
        .ok (c, s) := by
  have hsmall : isTrailingSurrogate c.toNat = false ∧ isLeadingSurrogate c.toNat = false := by
    constructor
    · simp [isTrailingSurrogate]
      omega
    · simp [isLeadingSurrogate]
      omega
  simp [unicodeEscape, hexEscape, hexQuad?_of_lt c.toNat h, hsmall, bind, Except.bind]

/-- One turn reads what stands for one character. -/
theorem stringBody_escapeChar (turns : Nat) (c : Char) (s : List Char) :
    stringBody (turns + 1) (escapeChar c ++ s) =
      (stringBody turns s).map fun p ↦ (c :: p.1, p.2) := by
  have hescape : ∀ e t, escape (e :: t) = .ok (c, s) →
      stringBody (turns + 1) ('\\' :: e :: t) =
        (stringBody turns s).map fun p ↦ (c :: p.1, p.2) := by
    intro e t h
    rw [stringBody, if_neg (by decide), if_pos rfl, h]
    simp only [bind, Except.bind]
    cases stringBody turns s <;> rfl
  unfold escapeChar
  -- Seven characters have a letter of their own.
  iterate 7
    split
    · next h =>
      subst h
      exact hescape _ _ rfl
  split
  · next h => exact hescape 'u' _ (unicodeEscape_of_lt s h)
  · next hquote hslash _ _ _ _ _ hcontrol =>
    rw [List.singleton_append, stringBody, if_neg hquote, if_neg hslash, if_neg hcontrol]
    cases stringBody turns s <;> rfl

theorem stringBody_flatMap (cs s : List Char) {turns : Nat} (h : cs.length < turns) :
    stringBody turns (cs.flatMap escapeChar ++ '"' :: s) = .ok (cs, s) := by
  induction cs generalizing turns with
  | nil =>
      obtain ⟨n, rfl⟩ := Nat.exists_eq_add_one_of_ne_zero (Nat.ne_of_gt h)
      rfl
  | cons c cs ih =>
      obtain ⟨n, rfl⟩ := Nat.exists_eq_add_one_of_ne_zero (Nat.ne_of_gt (Nat.zero_lt_of_lt h))
      have hcs : cs.length < n := by simpa using h
      rw [List.flatMap_cons, List.append_assoc, stringBody_escapeChar, ih hcs]
      rfl

theorem length_le_flatMap_escapeChar (cs : List Char) :
    cs.length ≤ (cs.flatMap escapeChar).length := by
  induction cs with
  | nil => exact Nat.le_refl 0
  | cons c cs ih =>
      have hc : 0 < (escapeChar c).length := by
        unfold escapeChar
        repeat' split
        all_goals exact Nat.succ_pos _
      rw [List.flatMap_cons, List.length_append, List.length_cons]
      omega

theorem stringLiteral_stringChars (t : String) (s : List Char) :
    stringLiteral (t.toList.flatMap escapeChar ++ '"' :: s) = .ok (t, s) := by
  have hlength := length_le_flatMap_escapeChar t.toList
  have hturns : t.toList.length < (t.toList.flatMap escapeChar ++ '"' :: s).length + 1 := by
    rw [List.length_append]
    omega
  rw [stringLiteral, stringBody_flatMap t.toList s hturns]
  simp [bind, Except.bind]

/-! ## Integers -/

/-- What a number literal could go on with. -/
def continuesNumber : List Char → Bool
  | c :: _ => c.isDigit || c == '.' || c == 'e' || c == 'E'
  | [] => false

theorem startsWithDigit_of_not_continuesNumber {s : List Char} (h : continuesNumber s = false) :
    startsWithDigit s = false := by
  cases s with
  | nil => rfl
  | cons c s =>
      simp only [continuesNumber, Bool.or_eq_false_iff] at h
      exact h.1.1.1

theorem le_ofDigitChars (ds : List Char) (n : Nat) : n ≤ Nat.ofDigitChars 10 ds n := by
  induction ds generalizing n with
  | nil => exact Nat.le_refl n
  | cons d ds ih =>
      rw [Nat.ofDigitChars_cons]
      exact Nat.le_trans (by omega) (ih _)

theorem absorbDigits_append (limit : Nat) {ds s : List Char} (hds : ∀ d ∈ ds, d.isDigit = true)
    (hs : startsWithDigit s = false) (value count : Nat)
    (hlimit : Nat.ofDigitChars 10 ds value ≤ limit) :
    absorbDigits limit value count (ds ++ s) =
      (Nat.ofDigitChars 10 ds value, count + ds.length, s) := by
  induction ds generalizing value count with
  | nil =>
      cases s with
      | nil => rfl
      | cons c s =>
          have hc : digit? c = none := by simpa [digit?, startsWithDigit] using hs
          simp [absorbDigits, hc]
  | cons d ds ih =>
      have hd : digit? d = some (d.toNat - '0'.toNat) := if_pos (hds d List.mem_cons_self)
      rw [Nat.ofDigitChars_cons, Nat.mul_comm] at hlimit ⊢
      have hvalue := Nat.le_trans (le_ofDigitChars ds _) hlimit
      rw [List.cons_append, absorbDigits, hd]
      simp only [if_neg (Nat.not_lt.mpr hvalue)]
      rw [ih (fun c hc ↦ hds c (List.mem_cons_of_mem d hc)) _ _ hlimit, List.length_cons]
      simp only [Nat.add_assoc, Nat.add_comm 1]

theorem isDigit_of_mem_natChars {n : Nat} {c : Char} (h : c ∈ natChars n) : c.isDigit = true :=
  Nat.isDigit_of_mem_toDigits (by decide) (by decide) h

theorem head?_natChars_ne {n : Nat} (hn : 0 < n) : (natChars n).head? ≠ some '0' := by
  induction n using Nat.strong_induction_on with
  | _ n ih =>
      rw [natChars, Nat.toDigits_eq_if (by decide)]
      split
      · next hlt =>
        intro h
        have := Nat.digitChar_eq_zero.mp (Option.some.inj h)
        omega
      · next hge =>
        rw [List.head?_append_of_ne_nil _ Nat.toDigits_ne_nil]
        exact ih (n / 10) (by omega) (by omega)

theorem numberLiteral_natChars (negative : Bool) {n : Nat} (hn : n ≤ maxSignificand)
    {s : List Char} (hs : startsWithDigit s = false) :
    numberLiteral negative (natChars n ++ s) = integerEnd negative n s := by
  rcases Nat.eq_zero_or_pos n with rfl | hpos
  · change numberLiteral negative ('0' :: s) = _
    simp [numberLiteral, hs]
  · cases hcs : natChars n with
    | nil => exact absurd hcs Nat.toDigits_ne_nil
    | cons c cs =>
        have hdigits : ∀ d ∈ c :: cs, d.isDigit = true :=
          fun d hd ↦ isDigit_of_mem_natChars (hcs ▸ hd)
        have hzero : c ≠ '0' := by
          rintro rfl
          exact head?_natChars_ne hpos (by rw [hcs]; rfl)
        have hvalue : Nat.ofDigitChars 10 cs (c.toNat - '0'.toNat) = n := by
          have hread : Nat.ofDigitChars 10 (c :: cs) 0 = n := by
            rw [← hcs]
            exact Nat.ofDigitChars_ten_toDigits
          simpa [Nat.ofDigitChars_cons] using hread
        have hc : digit? c = some (c.toNat - '0'.toNat) := if_pos (hdigits c List.mem_cons_self)
        have habsorb := absorbDigits_append maxSignificand
          (fun d hd ↦ hdigits d (List.mem_cons_of_mem c hd)) hs (c.toNat - '0'.toNat) 1
          (hvalue.le.trans hn)
        rw [List.cons_append, numberLiteral.eq_def]
        split
        · next heq => cases heq
        · next heq =>
          cases heq
          exact absurd rfl hzero
        · next heq =>
          cases heq
          simp only [hc, habsorb, hvalue, hs, Bool.false_eq_true, if_false]

theorem integerEnd_of_not_continuesNumber (negative : Bool) (n : Nat) {s : List Char}
    (hs : continuesNumber s = false) :
    integerEnd negative n s =
      if !negative then .ok (.int n, s)
      else if n ≠ 0 && n ≤ 0x8000000000000000 then .ok (.int (-n), s)
      else floatOf true n 0 s := by
  rw [integerEnd.eq_def]
  split
  · simp [continuesNumber] at hs
  · simp [continuesNumber] at hs
  · simp [continuesNumber] at hs
  · rfl

/-! ## Scalars -/

theorem scalar_of_isDigit {c : Char} (s : List Char) (h : c.isDigit = true) :
    scalar (c :: s) = (numberLiteral false (c :: s)).map fun p ↦ (.number p.1, p.2) := by
  rw [scalar.eq_def]
  split
  case h_7 heq =>
    cases heq
    rw [if_pos h]
    cases numberLiteral false (c :: s) <;> rfl
  case h_1 heq => cases heq
  all_goals
    next heq =>
    cases heq
    cases h

/-- An integer of 64 bits, signed or unsigned, reads back. -/
theorem scalar_intChars {n : Int} (hleast : -0x8000000000000000 ≤ n)
    (hgreatest : n ≤ 0xFFFFFFFFFFFFFFFF) {s : List Char} (hs : continuesNumber s = false) :
    scalar (intChars n ++ s) = .ok (.number (.int n), s) := by
  have hdigit := startsWithDigit_of_not_continuesNumber hs
  cases n with
  | ofNat m =>
      have hm : m ≤ maxSignificand := Int.ofNat_le.mp hgreatest
      have hread := numberLiteral_natChars false hm hdigit
      rw [integerEnd_of_not_continuesNumber false m hs] at hread
      rw [intChars]
      cases hcs : natChars m with
      | nil => exact absurd hcs Nat.toDigits_ne_nil
      | cons c cs =>
          have hc : c.isDigit = true := isDigit_of_mem_natChars (hcs ▸ List.mem_cons_self)
          rw [hcs, List.cons_append] at hread
          rw [List.cons_append, scalar_of_isDigit _ hc, hread]
          rfl
  | negSucc m =>
      have hm : m + 1 ≤ 0x8000000000000000 := by omega
      have hread := numberLiteral_natChars true (Nat.le_trans hm (by decide)) hdigit
      have hrange : (decide (m + 1 ≠ 0) && decide (m + 1 ≤ 0x8000000000000000)) = true := by
        simp [hm]
      rw [integerEnd_of_not_continuesNumber true (m + 1) hs, if_neg (by decide),
        if_pos hrange] at hread
      rw [intChars, List.cons_append, scalar, hread]
      rfl

theorem scalar_stringChars (t : String) (s : List Char) :
    scalar (stringChars t ++ s) = .ok (.string t, s) := by
  rw [stringChars, List.cons_append, List.cons_append, List.append_assoc, List.singleton_append,
    scalar, stringLiteral_stringChars]
  rfl

end DealForm.Json
