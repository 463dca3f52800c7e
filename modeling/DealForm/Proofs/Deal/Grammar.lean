import DealForm.Command
import DealForm.Proofs.Deal.Metadata

/-!
# The texts that are metadata
-/

namespace DealForm.Metadata

/-- A text is accepted as metadata exactly if it is an object that gives no named field twice and
each of them, if at all, with a value of its type. The named fields are then the given values or
their defaults, and the further fields are the rest of the object: each key where it first came,
with the value that came last. Any other text is refused as invalid metadata. -/
theorem parse_accepts_exactly (raw : String) :
    (∀ m, parse raw = .ok m ↔ ∃ ms, Json.membersOf raw = .ok ms ∧
      Json.parse raw = .ok (.object (Entries.ofMembers ms)) ∧ IsReadFrom ms m) ∧
    (∀ es, Json.parse raw = .ok (.object es) ↔
      ∃ ms, Json.membersOf raw = .ok ms ∧ Entries.ofMembers ms = es) ∧
    (∀ ms : Entries, (Entries.ofMembers ms).map Prod.fst = (ms.map Prod.fst).eraseDups ∧
      ∀ key, (Entries.ofMembers ms).get? key = (ms.valuesOf key).getLast?) ∧
    ((∀ ms m, Json.membersOf raw = .ok ms → ¬IsReadFrom ms m) →
      ∃ report, parse raw = .error report ∧ ∀ s : Session,
        s.override (some raw) = (.error (.invalidMetadata (.malformed report)), s)) := by
  refine ⟨fun m ↦ ?_, fun es ↦ Json.parse_eq_ok_object, fun ms ↦
    ⟨Entries.keys_ofMembers ms, Entries.get?_ofMembers ms⟩, fun hnone ↦ ?_⟩
  · rw [parse_eq_ok]
    constructor
    · rintro ⟨ms, hms, hm⟩
      exact ⟨ms, hms, Json.parse_eq_ok_object.mpr ⟨ms, hms, rfl⟩, hm⟩
    · rintro ⟨ms, hms, -, hm⟩
      exact ⟨ms, hms, hm⟩
  · cases hparse : parse raw with
    | ok m =>
        obtain ⟨ms, hms, hm⟩ := parse_eq_ok.mp hparse
        exact absurd hm (hnone ms m hms)
    | error report =>
        refine ⟨report, rfl, fun s ↦ ?_⟩
        simp only [Session.override, hparse]

theorem parse_refuses_array : ∃ report, parse "[]" = .error report ∧ ∀ s : Session,
    s.override (some "[]") = (.error (.invalidMetadata (.malformed report)), s) :=
  (parse_accepts_exactly "[]").2.2.2 fun _ _ hmembers _ ↦ by cases hmembers

example : (parse "\x7b\"b\":1,\"auto_retry\":false,\"a\":2,\"b\":3\x7d").map extra =
    .ok [("b", .number (.int 3)), ("a", .number (.int 2))] := rfl

end DealForm.Metadata
