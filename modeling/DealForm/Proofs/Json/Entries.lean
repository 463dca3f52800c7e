import DealForm.Json.Value
import Mathlib.Data.List.Induction
import Mathlib.Data.List.Nodup

/-!
# Entries from members

The entries of an object hold each key of its members once, where it first came, and the value that
came with it last.
-/

namespace DealForm.Entries

variable {es ms : Entries} {e : String × Json} {k key : String} {v : Json}

theorem mem_insert (h : e ∈ insert key v es) : e ∈ es ∨ e = (key, v) := by
  induction es with
  | nil => exact Or.inr (List.mem_singleton.mp h)
  | cons f es ih =>
      rw [insert] at h
      split at h
      · next hkey =>
        rcases List.mem_cons.mp h with rfl | h
        · exact Or.inr (by rw [hkey])
        · exact Or.inl (List.mem_cons_of_mem f h)
      · rcases List.mem_cons.mp h with rfl | h
        · exact Or.inl List.mem_cons_self
        · exact (ih h).imp_left (List.mem_cons_of_mem f)

theorem keys_insert (key : String) (v : Json) (es : Entries) :
    (insert key v es).map Prod.fst =
      if key ∈ es.map Prod.fst then es.map Prod.fst else es.map Prod.fst ++ [key] := by
  induction es with
  | nil => rfl
  | cons f es ih =>
      obtain ⟨k, w⟩ := f
      by_cases hk : k = key
      · simp [insert, hk]
      · simp only [insert, if_neg hk, List.map_cons, ih, List.mem_cons, Ne.symm hk, false_or]
        split <;> rfl

theorem DistinctKeys.insert (h : es.DistinctKeys) (key : String) (v : Json) :
    (insert key v es).DistinctKeys := by
  rw [DistinctKeys, keys_insert]
  split
  · exact h
  · next hnew =>
    refine List.nodup_append.mpr ⟨h, List.nodup_singleton key, ?_⟩
    rintro k hk _ hkey rfl
    exact hnew (List.mem_singleton.mp hkey ▸ hk)

theorem insert_of_notMem (h : key ∉ es.map Prod.fst) : insert key v es = es ++ [(key, v)] := by
  induction es with
  | nil => rfl
  | cons f es ih =>
      obtain ⟨k, w⟩ := f
      simp only [List.map_cons, List.mem_cons, not_or] at h
      rw [insert, if_neg (Ne.symm h.1), ih h.2, List.cons_append]

theorem get?_insert (key : String) (v : Json) (es : Entries) (k : String) :
    get? k (insert key v es) = if key = k then some v else get? k es := by
  induction es with
  | nil => rfl
  | cons f es ih =>
      obtain ⟨k', w⟩ := f
      by_cases hk' : k' = key
      · subst hk'
        rw [insert, if_pos rfl, get?, get?]
        split <;> rfl
      · rw [insert, if_neg hk', get?, get?, ih]
        split
        · next h => rw [if_neg (fun hkey ↦ hk' (h.trans hkey.symm))]
        · rfl

theorem filter_insert (p : String → Bool) (key : String) (v : Json) (es : Entries) :
    (insert key v es).filter (fun e ↦ p e.1) =
      if p key then insert key v (es.filter fun e ↦ p e.1) else es.filter fun e ↦ p e.1 := by
  induction es with
  | nil => cases h : p key <;> simp [insert, h]
  | cons f es ih =>
      obtain ⟨k, w⟩ := f
      by_cases hk : k = key
      · subst hk
        cases h : p k <;> simp [insert, h]
      · cases h : p k <;> cases h' : p key <;> simp_all [insert]

/-! ## All members -/

theorem ofMembers_concat (ms : Entries) (e : String × Json) :
    ofMembers (ms ++ [e]) = insert e.1 e.2 (ofMembers ms) := by
  simp [ofMembers]

theorem keys_ofMembers (ms : Entries) :
    (ofMembers ms).map Prod.fst = (ms.map Prod.fst).eraseDups := by
  induction ms using List.reverseRecOn with
  | nil => rfl
  | append_singleton ms e ih =>
      rw [ofMembers_concat, keys_insert, ih, List.map_append, List.eraseDups_append]
      simp only [List.mem_eraseDups, List.map_cons, List.map_nil]
      split
      · next h => simp [List.removeAll, h]
      · next h => simp [List.removeAll, h, List.eraseDups_cons]

def valuesOf (key : String) (ms : Entries) : List Json :=
  (ms.filter fun m ↦ m.1 = key).map Prod.snd

@[simp] theorem valuesOf_nil (key : String) : valuesOf key [] = [] := rfl

theorem valuesOf_cons (key : String) (m : String × Json) (ms : Entries) :
    valuesOf key (m :: ms) = if m.1 = key then m.2 :: valuesOf key ms else valuesOf key ms := by
  unfold valuesOf
  by_cases h : m.1 = key <;> simp [h]

theorem length_valuesOf (key : String) (ms : Entries) :
    (valuesOf key ms).length = (ms.map Prod.fst).count key := by
  induction ms with
  | nil => rfl
  | cons m ms ih =>
      rw [valuesOf_cons, List.map_cons, List.count_cons]
      split
      · next h => simp [ih, h]
      · next h => simp [ih, h]

theorem get?_ofMembers (ms : Entries) (key : String) :
    get? key (ofMembers ms) = (valuesOf key ms).getLast? := by
  induction ms using List.reverseRecOn with
  | nil => rfl
  | append_singleton ms m ih =>
      rw [ofMembers_concat, get?_insert, ih]
      unfold valuesOf
      by_cases h : m.1 = key <;> simp [h]

theorem ofMembers_filter (p : String → Bool) (ms : Entries) :
    ofMembers (ms.filter fun e ↦ p e.1) = (ofMembers ms).filter fun e ↦ p e.1 := by
  induction ms using List.reverseRecOn with
  | nil => rfl
  | append_singleton ms e ih =>
      rw [ofMembers_concat, filter_insert, ← ih, List.filter_append]
      cases h : p e.1 with
      | false => simp [h]
      | true => simp [h, ofMembers_concat]

theorem ofMembers_of_distinctKeys (h : es.DistinctKeys) : ofMembers es = es := by
  induction es using List.reverseRecOn with
  | nil => rfl
  | append_singleton es e ih =>
      rw [DistinctKeys, List.map_append, List.nodup_append] at h
      have hnew : e.1 ∉ es.map Prod.fst := fun hmem ↦ h.2.2 _ hmem e.1 List.mem_cons_self rfl
      rw [ofMembers_concat, ih h.1, insert_of_notMem hnew]

end DealForm.Entries
