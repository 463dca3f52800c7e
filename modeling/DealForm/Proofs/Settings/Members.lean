import DealForm.Proofs.Settings.Codec
import DealForm.Proofs.Settings.Views

/-!
# Settings from the members of an object

An object gives settings field by field. Each known key may come once, its value is read by its
field alone, and a key that does not come leaves the default; so the settings are determined by
the values that come with each key, whatever stands between them.
-/

namespace DealForm.Settings

open Json (Tree)

variable {d d₀ mid : Draft} {s : Settings} {field other : Field} {t : Tree} {ts ts' : List Tree}
  {ms : List (String × Tree)} {key : String}

def valuesOf (ms : List (String × Tree)) (key : String) : List Tree :=
  (ms.filter fun m ↦ m.1 = key).map Prod.snd

theorem valuesOf_cons (key : String) (t : Tree) (ms : List (String × Tree)) (key' : String) :
    valuesOf ((key, t) :: ms) key' =
      if key = key' then t :: valuesOf ms key' else valuesOf ms key' := by
  by_cases h : key = key' <;> simp [valuesOf, h]

theorem valuesOf_of_absent (h : key ∉ ms.map Prod.fst) : valuesOf ms key = [] := by
  unfold valuesOf
  rw [List.map_eq_nil_iff, List.filter_eq_nil_iff]
  intro m hm heq
  exact h (List.mem_map.mpr ⟨m, hm, by simpa using heq⟩)

/-! ## Known keys -/

theorem Field.key_of_ofKey? (h : ofKey? key = some field) : field.key = key := by
  have := List.find?_some h
  simpa using this

theorem Field.key_injective : Function.Injective Field.key := by
  intro field other h
  have hfield := ofKey?_key field
  rw [h, ofKey?_key other] at hfield
  exact (Option.some.inj hfield).symm

theorem valuesOf_key (field : Field) (t : Tree) (ms : List (String × Tree)) (other : Field) :
    valuesOf ((field.key, t) :: ms) other.key =
      if other = field then t :: valuesOf ms other.key else valuesOf ms other.key := by
  rw [valuesOf_cons]
  by_cases h : other = field
  · rw [if_pos h, if_pos (congrArg Field.key h.symm)]
  · rw [if_neg h, if_neg fun heq ↦ h (Field.key_injective heq).symm]

theorem valuesOf_unknown (h : Field.ofKey? key = none) (t : Tree) (ms : List (String × Tree))
    (field : Field) : valuesOf ((key, t) :: ms) field.key = valuesOf ms field.key := by
  rw [valuesOf_cons, if_neg]
  rintro rfl
  rw [Field.ofKey?_key] at h
  cases h

/-! ## The fields of a draft -/

def Field.store? (field : Field) (held : Option field.Value) (t : Tree) :
    Option (Option field.Value) :=
  if held.isSome then none else (field.value? t).map some

theorem Draft.add_unknown (h : Field.ofKey? key = none) (d : Draft) (t : Tree) :
    d.add key t = some d := by
  simp only [Draft.add, h]

theorem Draft.add_key_eq_some : d.add field.key t = some mid ↔
    field.store? (d.get field) t = some (mid.get field) ∧
      ∀ other, other ≠ field → mid.get other = d.get other := by
  simp only [Draft.add, Field.ofKey?_key, has_eq_isSome, Field.store?]
  split
  · simp
  rw [take]
  constructor
  · intro h
    obtain ⟨v, hv, rfl⟩ := Option.map_eq_some_iff.mp h
    rw [hv, get_set]
    exact ⟨rfl, fun other hne ↦ get_set_of_ne d v hne⟩
  · rintro ⟨hfield, hothers⟩
    obtain ⟨v, hv, hget⟩ := Option.map_eq_some_iff.mp hfield
    refine Option.map_eq_some_iff.mpr ⟨v, hv, eq_of_get fun other ↦ ?_⟩
    by_cases hne : other = field
    · subst hne
      rw [get_set, hget]
    · rw [get_set_of_ne d v hne, hothers other hne]

theorem Draft.exists_add_key {held : Option field.Value}
    (h : field.store? (d.get field) t = some held) :
    ∃ mid, d.add field.key t = some mid ∧ mid.get field = held ∧
      ∀ other, other ≠ field → mid.get other = d.get other := by
  have hmid := get_of (Function.update d.get field held)
  have hfield : (of (Function.update d.get field held)).get field = held := by
    rw [hmid, Function.update_self]
  have hothers (other : Field) (hne : other ≠ field) :
      (of (Function.update d.get field held)).get other = d.get other := by
    rw [hmid, Function.update_of_ne hne]
  have hstore := h.trans (congrArg some hfield.symm)
  exact ⟨_, add_key_eq_some.mpr ⟨hstore, hothers⟩, hfield, hothers⟩

/-- Members are added up field by field. -/
theorem foldlM_add_eq_some : ms.foldlM (fun d m ↦ d.add m.1 m.2) d₀ = some d ↔
    ∀ field : Field, (valuesOf ms field.key).foldlM field.store? (d₀.get field) =
      some (d.get field) := by
  induction ms generalizing d₀ with
  | nil =>
      constructor
      · rintro ⟨⟩ field
        rfl
      · exact fun h ↦ congrArg some (Draft.eq_of_get fun field ↦ Option.some.inj (h field))
  | cons m ms ih =>
      obtain ⟨key, t⟩ := m
      simp only [List.foldlM_cons, Option.bind_eq_bind, Option.bind_eq_some_iff, ih]
      cases hkey : Field.ofKey? key with
      | none => simp [Draft.add_unknown hkey, valuesOf_unknown hkey]
      | some field =>
          obtain rfl := Field.key_of_ofKey? hkey
          constructor
          · rintro ⟨mid, hmid, h⟩ other
            obtain ⟨hfield, hothers⟩ := Draft.add_key_eq_some.mp hmid
            rw [valuesOf_key]
            split
            · next heq =>
              subst heq
              rw [List.foldlM_cons, hfield]
              exact h other
            · next hne =>
              rw [← hothers other hne]
              exact h other
          · intro h
            have hfield := h field
            rw [valuesOf_key, if_pos rfl, List.foldlM_cons] at hfield
            obtain ⟨held, hheld, hrest⟩ := Option.bind_eq_some_iff.mp hfield
            obtain ⟨mid, hmid, rfl, hothers⟩ := Draft.exists_add_key hheld
            refine ⟨mid, hmid, fun other ↦ ?_⟩
            by_cases hne : other = field
            · subst hne
              exact hrest
            · have hother := h other
              rwa [valuesOf_key, if_neg hne, ← hothers other hne] at hother

/-! ## The fields of settings -/

/-- What the values of its key give a field: the default if there are none, and nothing if there
is more than one. -/
def Field.from? (field : Field) : List Tree → Option field.Value
  | [] => some (standard.get field)
  | [t] => field.value? t
  | _ => none

theorem Field.from?_eq_of_perm (field : Field) (h : ts.Perm ts') :
    field.from? ts = field.from? ts' := by
  rcases ts with _ | ⟨t, _ | ⟨t', ts⟩⟩
  · rw [h.nil_eq]
  · rw [List.singleton_perm.mp h]
  · rcases ts' with _ | ⟨u, _ | ⟨u', us⟩⟩
    · cases h.length_eq
    · cases h.length_eq
    · rfl

theorem Field.foldlM_store? (field : Field) (ts : List Tree) :
    (ts.foldlM field.store? none).map (·.getD (standard.get field)) = field.from? ts := by
  rcases ts with _ | ⟨t, _ | ⟨t', ts⟩⟩
  · rfl
  · rw [from?, List.foldlM_cons, store?]
    cases field.value? t <;> rfl
  · rw [List.foldlM_cons, store?]
    cases field.value? t <;> rfl

theorem foldlM_addKeyed (ms : List (String × Tree)) (d : Draft) :
    (ms.map fun m ↦ (some m.1, m.2)).foldlM (Json.addKeyed Draft.add) d =
      ms.foldlM (fun d m ↦ d.add m.1 m.2) d := by
  rw [List.foldlM_map]
  rfl

theorem ofTree?_object : ofTree? (.object (ms.map fun m ↦ (some m.1, m.2))) = some s ↔
    ∀ field : Field, field.from? (valuesOf ms field.key) = some (s.get field) := by
  rw [ofTree?, foldlM_addKeyed, Option.map_eq_some_iff]
  simp only [foldlM_add_eq_some, Draft.get_empty, ← Field.foldlM_store?]
  constructor
  · rintro ⟨d, hd, rfl⟩ field
    rw [hd field, Draft.get_complete]
    rfl
  · intro h
    choose held hheld hget using fun field ↦ Option.map_eq_some_iff.mp (h field)
    refine ⟨.of held, fun field ↦ ?_, eq_of_get fun field ↦ ?_⟩
    · rw [Draft.get_of, hheld]
    · rw [Draft.get_complete, Draft.get_of, hget]

end DealForm.Settings
