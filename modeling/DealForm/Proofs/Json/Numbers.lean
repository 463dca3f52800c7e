import DealForm.Proofs.Json.Reading

/-!
# The numbers of a value

A number that is read is a double, or an integer that fits 64 bits with or without a sign. So a
value that was read holds integers only as soon as none of its numbers is a double.
-/

namespace DealForm.Json

mutual
def numbers : Json → List Number
  | .number n => [n]
  | .array vs => itemsNumbers vs
  | .object es => entriesNumbers es
  | .null => []
  | .bool _ => []
  | .string _ => []
termination_by structural v => v

def itemsNumbers : List Json → List Number
  | [] => []
  | v :: vs => v.numbers ++ itemsNumbers vs
termination_by structural vs => vs

def entriesNumbers : Entries → List Number
  | [] => []
  | e :: es => entryNumbers e ++ entriesNumbers es
termination_by structural es => es

def entryNumbers : String × Json → List Number
  | (_, v) => v.numbers
termination_by structural e => e
end

variable {v : Json} {vs : List Json} {es : Entries} {budget n : Nat} {k : Int} {negative : Bool}
  {s rest : List Char}

@[simp] theorem numbers_number (n : Number) : (Json.number n).numbers = [n] := rfl

@[simp] theorem numbers_string (t : String) : (Json.string t).numbers = [] := rfl

@[simp] theorem numbers_array : (Json.array vs).numbers = vs.flatMap numbers := by
  change itemsNumbers vs = _
  induction vs with
  | nil => rfl
  | cons v vs ih => simp [itemsNumbers, ih]

@[simp] theorem numbers_object : (Json.object es).numbers = es.flatMap fun e ↦ e.2.numbers := by
  change entriesNumbers es = _
  induction es with
  | nil => rfl
  | cons e es ih =>
      obtain ⟨key, v⟩ := e
      simp [entriesNumbers, entryNumbers, ih]

/-- The integer fits 64 bits, with or without a sign. -/
def FitsWord (k : Int) : Prop :=
  -0x8000000000000000 ≤ k ∧ k ≤ 0xFFFFFFFFFFFFFFFF

theorem hasIntegersOnly_iff :
    v.HasIntegersOnly ↔ ∀ n ∈ v.numbers, ∃ k, n = .int k ∧ FitsWord k := by
  induction v using Json.induction with
  | number n => cases n <;> simp [HasIntegersOnly, numbers, FitsWord]
  | array vs ih =>
      simp only [hasIntegersOnly_array, numbers_array, List.mem_flatMap]
      constructor
      · rintro h n ⟨v, hv, hn⟩
        exact (ih v hv).mp (h v hv) n hn
      · intro h v hv
        exact (ih v hv).mpr fun n hn ↦ h n ⟨v, hv, hn⟩
  | object es ih =>
      simp only [hasIntegersOnly_object, numbers_object, List.mem_flatMap]
      constructor
      · rintro h n ⟨e, he, hn⟩
        exact (ih e he).mp (h e he) n hn
      · intro h e he
        exact (ih e he).mpr fun n hn ↦ h n ⟨e, he, hn⟩
  | _ => simp [HasIntegersOnly, numbers]

/-! ## Literals -/

theorem absorbDigits_le {limit value : Nat} (hvalue : value ≤ limit) (count : Nat)
    (s : List Char) : (absorbDigits limit value count s).1 ≤ limit := by
  induction s generalizing value count with
  | nil => exact hvalue
  | cons c cs ih =>
      rw [absorbDigits]
      split
      · next d _ =>
        split
        · exact hvalue
        · next hle => exact ih (Nat.le_of_not_lt hle) (count + 1)
      · exact hvalue

theorem digit?_le {c : Char} {d : Nat} (h : digit? c = some d) : d ≤ 9 := by
  unfold digit? at h
  split at h
  · next hc =>
    cases h
    simp only [Char.isDigit, Bool.and_eq_true, decide_eq_true_eq] at hc
    have hchar : c.toNat ≤ 57 := UInt32.le_iff_toNat_le.mp hc.2
    change c.toNat - 48 ≤ 9
    omega
  · cases h

theorem floatOf_ne_int {significand : Nat} {exponent : Int} :
    floatOf negative significand exponent s ≠ .ok (.int k, rest) := by
  intro h
  unfold floatOf at h
  split at h <;> cases h

theorem exponentPart_ne_int {significand : Nat} {start : Int} :
    exponentPart negative significand start s ≠ .ok (.int k, rest) := by
  intro h
  unfold exponentPart at h
  dsimp only at h
  split at h
  · cases h
  · split at h
    · cases h
    · split at h
      · split at h <;> cases h
      · exact floatOf_ne_int h

theorem floatEnd_ne_int {significand : Nat} {exponent : Int} :
    floatEnd negative significand exponent s ≠ .ok (.int k, rest) := by
  intro h
  unfold floatEnd at h
  split at h
  · exact exponentPart_ne_int h
  · exact exponentPart_ne_int h
  · exact floatOf_ne_int h

theorem fractionPart_ne_int {significand : Nat} {exponent : Int} :
    fractionPart negative significand exponent s ≠ .ok (.int k, rest) := by
  intro h
  unfold fractionPart at h
  dsimp only at h
  split at h
  · exact floatEnd_ne_int h
  · split at h
    · split at h <;> cases h
    · exact floatEnd_ne_int h

theorem longIntegerEnd_ne_int {significand : Nat} :
    longIntegerEnd negative significand s ≠ .ok (.int k, rest) := by
  intro h
  unfold longIntegerEnd at h
  dsimp only at h
  split at h
  · exact fractionPart_ne_int h
  · exact floatEnd_ne_int h

theorem fitsWord_of_integerEnd (hn : n ≤ maxSignificand)
    (h : integerEnd negative n s = .ok (.int k, rest)) : FitsWord k := by
  have hmax : n ≤ 0xFFFFFFFFFFFFFFFF := hn
  unfold integerEnd at h
  split at h
  · exact absurd h fractionPart_ne_int
  · exact absurd h exponentPart_ne_int
  · exact absurd h exponentPart_ne_int
  · split at h
    · cases h
      constructor <;> omega
    · split at h
      · next hsmall =>
        cases h
        simp only [Bool.and_eq_true, decide_eq_true_eq] at hsmall
        constructor <;> omega
      · exact absurd h floatOf_ne_int

theorem fitsWord_of_numberLiteral (h : numberLiteral negative s = .ok (.int k, rest)) :
    FitsWord k := by
  unfold numberLiteral at h
  split at h
  · cases h
  · split at h
    · cases h
    · exact fitsWord_of_integerEnd (Nat.zero_le _) h
  · split at h
    · cases h
    · next d hd =>
      have hdigit : d ≤ maxSignificand := Nat.le_trans (digit?_le hd) (by decide)
      dsimp only at h
      split at h
      · exact absurd h longIntegerEnd_ne_int
      · exact fitsWord_of_integerEnd (absorbDigits_le hdigit 1 _) h

theorem fitsWord_of_scalar (h : scalar s = .ok (.number (.int k), rest)) : FitsWord k := by
  rw [scalar.eq_def] at h
  split at h
  case h_6 =>
    obtain ⟨⟨n, rest'⟩, hread, heq⟩ := bind_eq_ok.mp h
    cases heq
    exact fitsWord_of_numberLiteral hread
  case h_7 =>
    split at h
    · obtain ⟨⟨n, rest'⟩, hread, heq⟩ := bind_eq_ok.mp h
      cases heq
      exact fitsWord_of_numberLiteral hread
    · cases h
  case h_1 => cases h
  all_goals
    obtain ⟨p, -, heq⟩ := bind_eq_ok.mp h
    cases heq

/-! ## Values -/

theorem numbers_of_isScalar (hv : v.IsScalar) (h : .int k ∈ v.numbers) :
    v = .number (.int k) := by
  cases v with
  | number n =>
      have hn := List.mem_singleton.mp h
      rw [← hn]
  | array vs => cases hv
  | object es => cases hv
  | null => cases h
  | bool b => cases h
  | string t => cases h

/-- The integers of a value that was read fit 64 bits. -/
theorem fitsWord_of_value (h : value budget s = .ok (v, rest)) :
    ∀ k, .int k ∈ v.numbers → FitsWord k := by
  have hof_scalar : ∀ {s : List Char} {v : Json} {rest : List Char},
      scalar s = .ok (v, rest) → ∀ k, .int k ∈ v.numbers → FitsWord k := by
    intro s v rest hscalar k hk
    have hv := numbers_of_isScalar (isScalar_of_scalar hscalar) hk
    rw [hv] at hscalar
    exact fitsWord_of_scalar hscalar
  induction budget generalizing s v rest with
  | zero =>
      rcases value_eq_ok.mp h with ⟨_, _, _, -, hzero, -⟩ | ⟨_, _, _, -, hzero, -⟩ | hscalar
      · cases hzero
      · cases hzero
      · exact hof_scalar hscalar
  | succ budget ih =>
      rcases value_eq_ok.mp h with
        ⟨t, b, vs, -, hb, hitems, rfl⟩ | ⟨t, b, es, -, hb, hmembers, rfl⟩ | hscalar
      · cases hb
        have hvs := items_forall (fun _ _ _ ↦ ih) hitems
        intro k hk
        rw [numbers_array] at hk
        obtain ⟨v, hv, hk⟩ := List.mem_flatMap.mp hk
        exact hvs v hv k hk
      · cases hb
        have hes := members_invariant
          (P := fun es : Entries ↦ ∀ e ∈ es, ∀ k, .int k ∈ e.2.numbers → FitsWord k) ?_ hmembers
          (by simp)
        · intro k hk
          rw [numbers_object] at hk
          obtain ⟨e, he, hk⟩ := List.mem_flatMap.mp hk
          exact hes e he k hk
        · intro es key s es' rest hvalues hmember
          obtain ⟨u, v, -, hv, hinsert⟩ := (addsMembers_anyMember _ es key s es' rest).mp hmember
          cases hinsert
          intro e he
          rcases Entries.mem_insert he with he | rfl
          · exact hvalues e he
          · exact ih hv
      · exact hof_scalar hscalar

/-- A value that was read and has no double among its numbers holds integers only. -/
theorem hasIntegersOnly_of_parse {text : String} (h : parse text = .ok v)
    (hints : ∀ n ∈ v.numbers, ∃ k, n = .int k) : v.HasIntegersOnly := by
  obtain ⟨rest, hread, -⟩ := decode_eq_ok.mp h
  apply hasIntegersOnly_iff.mpr
  intro n hn
  obtain ⟨k, rfl⟩ := hints n hn
  exact ⟨k, rfl, fitsWord_of_value hread k hn⟩

end DealForm.Json
