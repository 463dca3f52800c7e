import DealForm.Proofs.Deal.FormValue
import DealForm.Proofs.Json.Reorder

/-!
# When metadata are equal

Metadata are compared field by field, the further fields as an object. For metadata that were read
from texts this is equality of their form values up to the order of entries, at every depth.
-/

namespace DealForm.Metadata

variable {l m n : Metadata} {key : String}

theorem get?_members_of_notMem (h : key ∉ namedKeys) (m : Metadata) :
    m.members.get? key = m.extra.get? key := by
  simp only [namedKeys, List.mem_cons, List.not_mem_nil, or_false, not_or] at h
  obtain ⟨hstate, hduration, hepoch, hretry⟩ := h
  simp [members, Entries.get?, Ne.symm hstate, Ne.symm hduration, Ne.symm hepoch, Ne.symm hretry]

/-- Metadata are equal exactly if their values as objects are. -/
theorem IsWellFormed.same_iff_toJson (h : m.IsWellFormed) :
    m.same n = true ↔ m.toJson.same n.toJson = true := by
  have hextra : (∀ e ∈ m.extra, ∃ w, n.members.get? e.1 = some w ∧ e.2.same w = true) ↔
      ∀ e ∈ m.extra, ∃ w, n.extra.get? e.1 = some w ∧ e.2.same w = true := by
    refine forall₂_congr fun e he ↦ ?_
    rw [get?_members_of_notMem (h.notNamed e.1 (List.mem_map_of_mem he))]
  have hnamed : n.members.get? "deal_verify_state" = some (.string n.dealVerifyState) ∧
      n.members.get? "duration_in_days" = some (.number (.int n.durationInDays)) ∧
      n.members.get? "start_epoch_in_days" = some (.number (.int n.startEpochInDays)) ∧
      n.members.get? "auto_retry" = some (.bool n.autoRetry) := ⟨rfl, rfl, rfl, rfl⟩
  have hlength : m.members.length = n.members.length ↔ m.extra.length = n.extra.length := by
    simp [members]
  rw [toJson_eq_object, toJson_eq_object, Json.same_objects_iff, hlength, same,
    Bool.and_eq_true, Json.same_objects_iff, members, List.forall_mem_append, hextra]
  simp only [List.forall_mem_cons, hnamed, Option.some.injEq, exists_eq_left', Json.same,
    Number.same, Bool.and_eq_true, beq_iff_eq]
  grind

/-- Metadata that a text gave, with integers as the only numbers of the further fields. -/
structure IsReadInIntegers (m : Metadata) : Prop where
  isRead : ∃ raw, parse raw = .ok m
  integers : Json.EntriesHaveIntegersOnly m.extra

namespace IsReadInIntegers

theorem isWellFormed (h : m.IsReadInIntegers) :
    m.IsWellFormed ∧ m.toJson.depth ≤ Json.maxDepth := by
  obtain ⟨raw, hraw⟩ := h.isRead
  exact isWellFormed_of_parse hraw

theorem parse_formValue (h : m.IsReadInIntegers) : Json.parse m.formValue = .ok m.toJson := by
  obtain ⟨hwf, hdepth⟩ := h.isWellFormed
  exact Json.parse_print (hwf.hasIntegersOnly_toJson h.integers) hwf.hasDistinctKeys_toJson hdepth
    .compact

theorem same_iff (h : m.IsReadInIntegers) :
    m.same n = true ↔ m.toJson.IsReordered n.toJson := by
  obtain ⟨hwf, -⟩ := h.isWellFormed
  exact hwf.same_iff_toJson.trans
    (Json.same_iff_isReordered hwf.hasDistinctKeys_toJson (hwf.hasIntegersOnly_toJson h.integers))

end IsReadInIntegers

/-- Equality of metadata that texts gave is an equivalence. Two of them are equal exactly if the
values that their form values denote can be turned into each other by putting the entries of
objects in another order; and each is equal to what is read from its own form value. -/
theorem equal_up_to_order (hl : l.IsReadInIntegers) (hm : m.IsReadInIntegers)
    (hn : n.IsReadInIntegers) :
    m.same m = true ∧ (m.same n = true → n.same m = true) ∧
      (l.same m = true → m.same n = true → l.same n = true) ∧
      (m.same n = true ↔ ∃ v w, Json.parse m.formValue = .ok v ∧
        Json.parse n.formValue = .ok w ∧ v.IsReordered w) ∧
      ∃ m', parse m.formValue = .ok m' ∧ m.same m' = true := by
  have hrefl : m.same m = true := hm.same_iff.mpr .refl
  refine ⟨hrefl, fun h ↦ ?_, fun h h' ↦ ?_, ?_, ?_⟩
  · exact hn.same_iff.mpr (hm.same_iff.mp h).symm
  · exact hl.same_iff.mpr ((hl.same_iff.mp h).trans (hm.same_iff.mp h'))
  · rw [hm.same_iff, hm.parse_formValue, hn.parse_formValue]
    simp
  · obtain ⟨hwf, hdepth⟩ := hm.isWellFormed
    exact ⟨m, hwf.parse_formValue hm.integers hdepth, hrefl⟩

/-- Entries in another order, at two depths, make no difference. -/
theorem equal_up_to_order_nested :
    let m : Metadata :=
      { extra := [("a", .object [("x", .number (.int 1)), ("y", .null)]), ("b", .array [])] }
    let n : Metadata :=
      { extra := [("b", .array []), ("a", .object [("y", .null), ("x", .number (.int 1))])] }
    m.same n = true ∧ n.same m = true ∧ ∃ v w, Json.parse m.formValue = .ok v ∧
      Json.parse n.formValue = .ok w ∧ v.IsReordered w := by
  intro m n
  have hm : m.IsReadInIntegers :=
    ⟨⟨"\x7b\"a\":\x7b\"x\":1,\"y\":null\x7d,\"b\":[]\x7d", rfl⟩,
      ⟨⟨by decide, by decide⟩, trivial, trivial⟩, trivial, trivial⟩
  have hn : n.IsReadInIntegers :=
    ⟨⟨"\x7b\"b\":[],\"a\":\x7b\"y\":null,\"x\":1\x7d\x7d", rfl⟩,
      trivial, ⟨trivial, ⟨by decide, by decide⟩, trivial⟩, trivial⟩
  have hsame : m.same n = true := by decide
  obtain ⟨-, hsymm, -, hiff, -⟩ := equal_up_to_order hm hm hn
  exact ⟨hsame, hsymm hsame, hiff.mp hsame⟩

end DealForm.Metadata
