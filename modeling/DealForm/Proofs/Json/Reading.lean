import DealForm.Json.Reader
import DealForm.Proofs.Json.Members
import DealForm.Proofs.Json.Value

/-!
# What the readers of values accept

A value that is read keeps to its budget of open containers and has no key twice. A typed reader
reads the same values as the generic one and accepts those of its type. The members of an object
as they are written determine the object.
-/

namespace DealForm.Json

variable {α : Type} {a : α} {t : ScalarType α} {budget : Nat} {v : Json} {es : Entries}
  {s rest : List Char}

def IsScalar : Json → Prop
  | .array _ => False
  | .object _ => False
  | _ => True

theorem isScalar_of_scalar (h : scalar s = .ok (v, rest)) : v.IsScalar := by
  rw [scalar.eq_def] at h
  split at h
  case h_1 => cases h
  case h_7 =>
    split at h
    · obtain ⟨p, -, heq⟩ := bind_eq_ok.mp h
      cases heq
      trivial
    · cases h
  all_goals
    obtain ⟨p, -, heq⟩ := bind_eq_ok.mp h
    cases heq
    trivial

/-- A value is an array or an object, which take one of the budget, or a scalar. -/
theorem value_eq_ok : value budget s = .ok (v, rest) ↔
    (∃ t b vs, skipBlanks s = '[' :: t ∧ budget = b + 1 ∧ items (value b) t = .ok (vs, rest) ∧
      v = .array vs) ∨
    (∃ t b es, skipBlanks s = '{' :: t ∧ budget = b + 1 ∧
      members (anyMember (value b)) [] t = .ok (es, rest) ∧ v = .object es) ∨
    scalar (skipBlanks s) = .ok (v, rest) := by
  have hbracket (t : List Char) : scalar ('[' :: t) ≠ .ok (v, rest) := nofun
  have hbrace (t : List Char) : scalar ('{' :: t) ≠ .ok (v, rest) := nofun
  cases budget with
  | zero =>
      rw [value.eq_def]
      dsimp only
      split <;> grind
  | succ budget =>
      rw [value.eq_def]
      dsimp only
      split
      · simp only [bind_eq_ok]
        grind
      · simp only [bind_eq_ok]
        grind
      · grind

theorem IsScalar.depth_le (h : v.IsScalar) (n : Nat) : v.depth ≤ n := by
  cases v with
  | array vs => cases h
  | object es => cases h
  | _ => exact Nat.zero_le n

theorem IsScalar.hasDistinctKeys (h : v.IsScalar) : v.HasDistinctKeys := by
  cases v with
  | array vs => cases h
  | object es => cases h
  | _ => trivial

/-- A value that is read keeps to the budget, and no object in it has a key twice. -/
theorem depth_le_and_hasDistinctKeys (h : value budget s = .ok (v, rest)) :
    v.depth ≤ budget ∧ v.HasDistinctKeys := by
  induction budget generalizing s v rest with
  | zero =>
      rcases value_eq_ok.mp h with ⟨_, _, _, -, hzero, -⟩ | ⟨_, _, _, -, hzero, -⟩ | hscalar
      · cases hzero
      · cases hzero
      · have hv := isScalar_of_scalar hscalar
        exact ⟨hv.depth_le 0, hv.hasDistinctKeys⟩
  | succ budget ih =>
      rcases value_eq_ok.mp h with
        ⟨t, b, vs, -, hb, hitems, rfl⟩ | ⟨t, b, es, -, hb, hmembers, rfl⟩ | hscalar
      · cases hb
        have hvs := items_forall (fun _ _ _ ↦ ih) hitems
        exact ⟨depth_array_le.mpr fun v hv ↦ (hvs v hv).1,
          hasDistinctKeys_array.mpr fun v hv ↦ (hvs v hv).2⟩
      · cases hb
        have hes := members_invariant (P := fun es : Entries ↦ es.DistinctKeys ∧
          ∀ e ∈ es, e.2.depth ≤ budget ∧ e.2.HasDistinctKeys) ?_ hmembers
          ⟨List.nodup_nil, by simp⟩
        · exact ⟨depth_object_le.mpr fun e he ↦ (hes.2 e he).1,
            hasDistinctKeys_object.mpr ⟨hes.1, fun e he ↦ (hes.2 e he).2⟩⟩
        · rintro es key s es' rest ⟨hkeys, hvalues⟩ hmember
          obtain ⟨u, v, -, hv, hinsert⟩ := (addsMembers_anyMember _ es key s es' rest).mp hmember
          cases hinsert
          refine ⟨hkeys.insert key v, fun e he ↦ ?_⟩
          rcases Entries.mem_insert he with he | rfl
          · exact hvalues e he
          · exact ih hv
      · have hv := isScalar_of_scalar hscalar
        exact ⟨hv.depth_le _, hv.hasDistinctKeys⟩

/-! ## Typed values -/

theorem refuse_ne_ok (expected : String) (s : List Char) (p : α × List Char) :
    refuse expected s ≠ .ok p := by
  unfold refuse
  split
  · nofun
  · nofun
  · split <;> nofun

theorem typed_eq_ok : typed t s = .ok (a, rest) ↔
    ∃ v, scalar (skipBlanks s) = .ok (v, rest) ∧ t.view v = .ok a := by
  have hbracket (v : Json) (u : List Char) : scalar ('[' :: u) ≠ .ok (v, rest) := nofun
  have hbrace (v : Json) (u : List Char) : scalar ('{' :: u) ≠ .ok (v, rest) := nofun
  unfold typed
  split
  · simp_all [refuse]
  · simp_all [refuse]
  · simp only [bind_eq_ok]
    grind

/-- Only scalars belong to the type. -/
def ScalarType.HasScalarsOnly (t : ScalarType α) : Prop :=
  ∀ v a, t.view v = .ok a → v.IsScalar

theorem ScalarType.HasScalarsOnly.typed_eq_ok (h : t.HasScalarsOnly) (budget : Nat) :
    typed t s = .ok (a, rest) ↔ ∃ v, value budget s = .ok (v, rest) ∧ t.view v = .ok a := by
  rw [Json.typed_eq_ok]
  constructor
  · rintro ⟨v, hscalar, hview⟩
    exact ⟨v, value_eq_ok.mpr (Or.inr (Or.inr hscalar)), hview⟩
  · rintro ⟨v, hvalue, hview⟩
    rcases value_eq_ok.mp hvalue with ⟨_, _, vs, -, -, -, rfl⟩ | ⟨_, _, es, -, -, -, rfl⟩ | hscalar
    · cases h _ a hview
    · cases h _ a hview
    · exact ⟨v, hscalar, hview⟩

/-! ## Objects by their members -/

/-- The members of an object as they are written, repetitions included. -/
def writtenMembers (budget : Nat) : Reader Entries := fun s ↦
  match skipBlanks s with
  | '{' :: rest => members (keptMember (value budget)) [] rest
  | rest => refuse "a map" rest

def membersOf (text : String) : Except Report Entries :=
  decode (writtenMembers (maxDepth - 1)) text

theorem writtenMembers_eq_ok : writtenMembers budget s = .ok (es, rest) ↔
    ∃ u, skipBlanks s = '{' :: u ∧ members (keptMember (value budget)) [] u = .ok (es, rest) := by
  unfold writtenMembers
  split
  · grind
  · have := refuse_ne_ok (α := Entries) "a map"
    grind

theorem value_eq_ok_object : value (budget + 1) s = .ok (.object es, rest) ↔
    ∃ ms, writtenMembers budget s = .ok (ms, rest) ∧ Entries.ofMembers ms = es := by
  constructor
  · intro h
    rcases value_eq_ok.mp h with
      ⟨_, _, _, -, -, -, hobject⟩ | ⟨u, b, es', hs, hb, hmembers, hobject⟩ | hscalar
    · cases hobject
    · cases hobject
      cases hb
      obtain ⟨ms, hkept, hms⟩ := members_anyMember_eq_ok.mp hmembers
      exact ⟨ms, writtenMembers_eq_ok.mpr ⟨u, hs, hkept⟩, hms⟩
    · cases isScalar_of_scalar hscalar
  · rintro ⟨ms, hwritten, rfl⟩
    obtain ⟨u, hs, hkept⟩ := writtenMembers_eq_ok.mp hwritten
    have hmembers := members_anyMember_eq_ok.mpr ⟨ms, hkept, rfl⟩
    exact value_eq_ok.mpr (Or.inr (Or.inl ⟨u, budget, _, hs, rfl, hmembers, rfl⟩))

/-! ## Whole texts -/

theorem decode_eq_ok {read : Reader α} {text : String} : decode read text = .ok a ↔
    ∃ rest, read text.toList = .ok (a, rest) ∧ skipBlanks rest = [] := by
  simp only [decode, mapError_eq_ok, document, bind_eq_ok]
  grind

/-- A text is one of an object exactly if it writes members, and these make up the object. -/
theorem parse_eq_ok_object {text : String} : parse text = .ok (.object es) ↔
    ∃ ms, membersOf text = .ok ms ∧ Entries.ofMembers ms = es := by
  simp only [parse, membersOf, decode_eq_ok]
  constructor
  · rintro ⟨rest, hvalue, hend⟩
    obtain ⟨ms, hwritten, hms⟩ := value_eq_ok_object.mp hvalue
    exact ⟨ms, ⟨rest, hwritten, hend⟩, hms⟩
  · rintro ⟨ms, ⟨rest, hwritten, hend⟩, hms⟩
    exact ⟨rest, value_eq_ok_object.mpr ⟨ms, hwritten, hms⟩, hend⟩

end DealForm.Json
