import DealForm.Json.Printer
import Mathlib.Data.List.Basic

/-!
# Values by their items and entries

What is said of a value by recursion through its arrays and objects, said of all items and all
entries at once; and the induction that goes with it.
-/

namespace DealForm

namespace Json

@[elab_as_elim]
theorem induction {motive : Json → Prop} (null : motive .null) (bool : ∀ b, motive (.bool b))
    (number : ∀ n, motive (.number n)) (string : ∀ s, motive (.string s))
    (array : ∀ vs, (∀ v ∈ vs, motive v) → motive (.array vs))
    (object : ∀ es : Entries, (∀ e ∈ es, motive e.2) → motive (.object es)) (v : Json) :
    motive v := by
  apply @Json.rec motive (fun vs ↦ ∀ v ∈ vs, motive v) (fun es ↦ ∀ e ∈ es, motive e.2)
    (fun e ↦ motive e.2) null bool number string array object
  · rintro v ⟨⟩
  · intro v vs hv hvs w hw
    rcases List.mem_cons.mp hw with rfl | hw
    · exact hv
    · exact hvs w hw
  · rintro e ⟨⟩
  · intro e es he hes f hf
    rcases List.mem_cons.mp hf with rfl | hf
    · exact he
    · exact hes f hf
  · intro k v hv
    exact hv

variable {vs : List Json} {es : Entries} {n : Nat}

@[simp] theorem hasIntegersOnly_array :
    (Json.array vs).HasIntegersOnly ↔ ∀ v ∈ vs, v.HasIntegersOnly := by
  change ItemsHaveIntegersOnly vs ↔ _
  induction vs with
  | nil => simp [ItemsHaveIntegersOnly]
  | cons v vs ih => simp [ItemsHaveIntegersOnly, ih]

theorem entriesHaveIntegersOnly_iff :
    EntriesHaveIntegersOnly es ↔ ∀ e ∈ es, e.2.HasIntegersOnly := by
  induction es with
  | nil => simp [EntriesHaveIntegersOnly]
  | cons e es ih =>
      obtain ⟨k, v⟩ := e
      simp [EntriesHaveIntegersOnly, EntryHasIntegersOnly, ih]

@[simp] theorem hasIntegersOnly_object :
    (Json.object es).HasIntegersOnly ↔ ∀ e ∈ es, e.2.HasIntegersOnly :=
  entriesHaveIntegersOnly_iff

@[simp] theorem hasDistinctKeys_array :
    (Json.array vs).HasDistinctKeys ↔ ∀ v ∈ vs, v.HasDistinctKeys := by
  change ItemsHaveDistinctKeys vs ↔ _
  induction vs with
  | nil => simp [ItemsHaveDistinctKeys]
  | cons v vs ih => simp [ItemsHaveDistinctKeys, ih]

theorem entriesHaveDistinctKeys_iff :
    EntriesHaveDistinctKeys es ↔ ∀ e ∈ es, e.2.HasDistinctKeys := by
  induction es with
  | nil => simp [EntriesHaveDistinctKeys]
  | cons e es ih =>
      obtain ⟨k, v⟩ := e
      simp [EntriesHaveDistinctKeys, EntryHasDistinctKeys, ih]

@[simp] theorem hasDistinctKeys_object :
    (Json.object es).HasDistinctKeys ↔ es.DistinctKeys ∧ ∀ e ∈ es, e.2.HasDistinctKeys := by
  rw [← entriesHaveDistinctKeys_iff]
  rfl

theorem itemsDepth_le_iff : itemsDepth vs ≤ n ↔ ∀ v ∈ vs, v.depth ≤ n := by
  induction vs with
  | nil => simp [itemsDepth]
  | cons v vs ih => rw [itemsDepth, Nat.max_le, ih, List.forall_mem_cons]

theorem entriesDepth_le_iff : entriesDepth es ≤ n ↔ ∀ e ∈ es, e.2.depth ≤ n := by
  induction es with
  | nil => simp [entriesDepth]
  | cons e es ih =>
      obtain ⟨k, v⟩ := e
      rw [entriesDepth, entryDepth, Nat.max_le, ih, List.forall_mem_cons]

@[simp] theorem depth_array_le : (Json.array vs).depth ≤ n + 1 ↔ ∀ v ∈ vs, v.depth ≤ n := by
  rw [← itemsDepth_le_iff, depth, Nat.add_le_add_iff_right]

@[simp] theorem depth_object_le : (Json.object es).depth ≤ n + 1 ↔ ∀ e ∈ es, e.2.depth ≤ n := by
  rw [← entriesDepth_le_iff, depth, Nat.add_le_add_iff_right]

/-! ## Printing -/

theorem itemsChars_eq_map (layout : Layout) (vs : List Json) (level : Nat) :
    itemsChars layout vs level = vs.map fun v ↦ v.chars layout level := by
  induction vs with
  | nil => rfl
  | cons v vs ih => simp [itemsChars, ih]

theorem entriesChars_eq_map (layout : Layout) (es : Entries) (level : Nat) :
    entriesChars layout es level =
      es.map fun e ↦ stringChars e.1 ++ layout.colon ++ e.2.chars layout level := by
  induction es with
  | nil => rfl
  | cons e es ih =>
      obtain ⟨k, v⟩ := e
      simp [entriesChars, entryChars, ih]

end Json

end DealForm
