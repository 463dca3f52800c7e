import DealForm.Proofs.Json.Entries
import DealForm.Proofs.Json.Value
import Mathlib.Data.List.Forall2
import Mathlib.Logic.Relation
import Mathlib.Data.List.Perm.Subperm

/-!
# Values up to the order of their entries

Comparing two objects looks up each key of the one in the other and counts the entries. Where no
key occurs twice this comes to the same as turning one value into the other by putting the entries
of objects in another order, as often as needed and at any depth.
-/

namespace DealForm

namespace Json

variable {u v w : Json} {vs ws : List Json} {es fs : Entries} {key : String}

/-! ## Reordering -/

/-- The entries of one object, somewhere in the value, are put in another order. -/
inductive Reorders : Json → Json → Prop
  | entries {es fs : Entries} (h : es.Perm fs) : Reorders (.object es) (.object fs)
  | item {v w : Json} (before after : List Json) (h : Reorders v w) :
      Reorders (.array (before ++ v :: after)) (.array (before ++ w :: after))
  | value {v w : Json} (before : Entries) (key : String) (after : Entries) (h : Reorders v w) :
      Reorders (.object (before ++ (key, v) :: after)) (.object (before ++ (key, w) :: after))

/-- Reordering entries as often as needed turns one value into the other. -/
def IsReordered : Json → Json → Prop :=
  Relation.ReflTransGen Reorders

theorem Reorders.symm (h : Reorders v w) : Reorders w v := by
  induction h with
  | entries h => exact .entries h.symm
  | item before after _ ih => exact .item before after ih
  | value before key after _ ih => exact .value before key after ih

instance : Std.Symm Reorders := ⟨fun _ _ ↦ Reorders.symm⟩

theorem IsReordered.symm (h : IsReordered v w) : IsReordered w v :=
  Relation.ReflTransGen.stdSymm.symm v w h

theorem IsReordered.trans (h : IsReordered u v) (h' : IsReordered v w) : IsReordered u w :=
  Relation.ReflTransGen.trans h h'

theorem Reorders.hasDistinctKeys (h : Reorders v w) (hv : v.HasDistinctKeys) :
    w.HasDistinctKeys := by
  induction h with
  | entries h =>
      rw [hasDistinctKeys_object] at hv ⊢
      exact ⟨(h.map Prod.fst).nodup_iff.mp hv.1, fun e he ↦ hv.2 e (h.mem_iff.mpr he)⟩
  | item before after _ ih =>
      simp only [hasDistinctKeys_array, List.forall_mem_append, List.forall_mem_cons] at hv ⊢
      exact ⟨hv.1, ih hv.2.1, hv.2.2⟩
  | value before key after _ ih =>
      simp only [hasDistinctKeys_object, Entries.DistinctKeys, List.map_append, List.map_cons,
        List.forall_mem_append, List.forall_mem_cons] at hv ⊢
      exact ⟨hv.1, hv.2.1, ih hv.2.2.1, hv.2.2.2⟩

/-! ## Comparing -/

theorem sameItems_iff :
    sameItems vs ws = true ↔ List.Forall₂ (fun v w ↦ v.same w = true) vs ws := by
  induction vs generalizing ws with
  | nil => cases ws <;> simp [sameItems]
  | cons v vs ih => cases ws <;> simp [sameItems, ih]

theorem sameEntries_iff :
    sameEntries es fs = true ↔ ∀ e ∈ es, ∃ w, fs.get? e.1 = some w ∧ e.2.same w = true := by
  induction es with
  | nil => simp [sameEntries]
  | cons e es ih =>
      obtain ⟨key, v⟩ := e
      rw [sameEntries, Bool.and_eq_true, ih, List.forall_mem_cons, sameEntry]
      cases fs.get? key <;> simp

theorem same_array_iff : v.same (.array ws) = true ↔
    ∃ vs, v = .array vs ∧ List.Forall₂ (fun v w ↦ v.same w = true) vs ws := by
  cases v <;> simp [same, sameItems_iff]

theorem same_objects_iff : (Json.object es).same (.object fs) = true ↔
    es.length = fs.length ∧ ∀ e ∈ es, ∃ w, fs.get? e.1 = some w ∧ e.2.same w = true := by
  simp [same, sameEntries_iff]

theorem same_object_iff : v.same (.object fs) = true ↔
    ∃ es : Entries, v = .object es ∧ es.length = fs.length ∧
      ∀ e ∈ es, ∃ w, fs.get? e.1 = some w ∧ e.2.same w = true := by
  cases v with
  | object es => simp [same_objects_iff]
  | _ => simp [same]

end Json

namespace Entries

variable {es fs : Entries} {key : String} {v : Json}

theorem mem_of_get? (h : es.get? key = some v) : (key, v) ∈ es := by
  induction es with
  | nil => cases h
  | cons e es ih =>
      obtain ⟨k, w⟩ := e
      rw [get?] at h
      split at h
      · next hkey =>
        cases h
        rw [hkey]
        exact List.mem_cons_self
      · exact List.mem_cons_of_mem _ (ih h)

theorem DistinctKeys.get?_eq_some_iff (h : es.DistinctKeys) :
    es.get? key = some v ↔ (key, v) ∈ es := by
  refine ⟨mem_of_get?, fun hmem ↦ ?_⟩
  induction es with
  | nil => cases hmem
  | cons e es ih =>
      obtain ⟨k, w⟩ := e
      obtain ⟨hfirst, hrest⟩ := List.nodup_cons.mp h
      rw [get?]
      rcases List.mem_cons.mp hmem with heq | hmem
      · cases heq
        exact if_pos rfl
      · have hne : k ≠ key := by
          rintro rfl
          exact hfirst (List.mem_map.mpr ⟨_, hmem, rfl⟩)
        rw [if_neg hne]
        exact ih hrest hmem

/-- Where no key occurs twice, a look-up does not depend on the order. -/
theorem DistinctKeys.get?_of_perm (h : es.DistinctKeys) (hperm : es.Perm fs) (key : String) :
    fs.get? key = es.get? key := by
  have hfs : fs.DistinctKeys := (hperm.map Prod.fst).nodup_iff.mp h
  refine Option.ext fun v ↦ ?_
  rw [hfs.get?_eq_some_iff, h.get?_eq_some_iff, hperm.mem_iff]

end Entries

namespace Json

variable {u v w : Json} {vs ws : List Json} {es fs : Entries} {key : String}

/-! ## Reordered values are the same -/

theorem same_refl (hv : v.HasDistinctKeys) : v.same v = true := by
  induction v using Json.induction with
  | null => rfl
  | bool b => simp [same]
  | number n => cases n <;> simp [same, Number.same, Decimal.Binary64.sameValue]
  | string s => simp [same]
  | array vs ih =>
      rw [hasDistinctKeys_array] at hv
      exact same_array_iff.mpr ⟨vs, rfl, List.forall₂_same.mpr fun v h ↦ ih v h (hv v h)⟩
  | object es ih =>
      rw [hasDistinctKeys_object] at hv
      exact same_object_iff.mpr ⟨es, rfl, rfl, fun e he ↦
        ⟨e.2, hv.1.get?_eq_some_iff.mpr he, ih e he (hv.2 e he)⟩⟩

theorem forall₂_of_replace {α β : Type} {R : α → β → Prop} {as : List α} {b b' : β}
    {before after : List β} (h : List.Forall₂ R as (before ++ b :: after))
    (hb : ∀ a, R a b → R a b') : List.Forall₂ R as (before ++ b' :: after) := by
  induction before generalizing as with
  | nil =>
      cases h with
      | cons hfirst hrest => exact .cons (hb _ hfirst) hrest
  | cons c before ih =>
      cases h with
      | cons hfirst hrest => exact .cons hfirst (ih hrest)

theorem Reorders.same_trans (h : Reorders v w) (hv : v.HasDistinctKeys) (hu : u.same v = true) :
    u.same w = true := by
  induction h generalizing u with
  | entries hperm =>
      obtain ⟨us, rfl, hlength, hus⟩ := same_object_iff.mp hu
      have hkeys := (hasDistinctKeys_object.mp hv).1
      refine same_object_iff.mpr ⟨us, rfl, hlength.trans hperm.length_eq, ?_⟩
      simpa only [hkeys.get?_of_perm hperm] using hus
  | @item v w before after _ ih =>
      obtain ⟨us, rfl, hus⟩ := same_array_iff.mp hu
      have hv := hasDistinctKeys_array.mp hv v (by simp)
      exact same_array_iff.mpr ⟨us, rfl, forall₂_of_replace hus fun u hu ↦ ih hv hu⟩
  | @value v w before key after h ih =>
      obtain ⟨us, rfl, hlength, hus⟩ := same_object_iff.mp hu
      have hw := (Reorders.value before key after h).hasDistinctKeys hv
      obtain ⟨hkeys, hvalues⟩ := hasDistinctKeys_object.mp hv
      have hkeys' := (hasDistinctKeys_object.mp hw).1
      refine same_object_iff.mpr ⟨us, rfl, by simpa using hlength, fun e he ↦ ?_⟩
      obtain ⟨x, hx, hsame⟩ := hus e he
      simp only [hkeys.get?_eq_some_iff, List.mem_append, List.mem_cons] at hx
      simp only [hkeys'.get?_eq_some_iff, List.mem_append, List.mem_cons]
      rcases hx with hx | hx | hx
      · exact ⟨x, Or.inl hx, hsame⟩
      · obtain ⟨rfl, rfl⟩ := Prod.mk.inj hx
        exact ⟨w, Or.inr (Or.inl rfl), ih (hvalues (e.1, x) (by simp)) hsame⟩
      · exact ⟨x, Or.inr (Or.inr hx), hsame⟩

theorem IsReordered.same (h : IsReordered v w) (hv : v.HasDistinctKeys) : v.same w = true := by
  have hboth : v.same w = true ∧ w.HasDistinctKeys := by
    induction h with
    | refl => exact ⟨same_refl hv, hv⟩
    | tail _ hstep ih => exact ⟨hstep.same_trans ih.2 ih.1, hstep.hasDistinctKeys ih.2⟩
  exact hboth.1

/-! ## Values that are the same can be reordered -/

/-- Steps that can be made at any one place of a list are made at all places, one by one. -/
theorem reflTransGen_of_forall₂ {α β : Type} {r : α → α → Prop} {R : β → β → Prop}
    {f : List α → β} (hf : ∀ before after a b, r a b →
      R (f (before ++ a :: after)) (f (before ++ b :: after)))
    {as bs : List α} (h : List.Forall₂ (Relation.ReflTransGen r) as bs) (before : List α) :
    Relation.ReflTransGen R (f (before ++ as)) (f (before ++ bs)) := by
  induction h generalizing before with
  | nil => exact .refl
  | @cons a b as bs hab _ ih =>
      have hfirst : Relation.ReflTransGen R (f (before ++ a :: as))
          (f (before ++ b :: as)) :=
        Relation.ReflTransGen.lift (fun c ↦ f (before ++ c :: as))
          (fun c d hcd ↦ hf before as c d hcd) a b hab
      have hrest := ih (before ++ [b])
      simp only [List.append_assoc, List.singleton_append] at hrest
      exact hfirst.trans hrest

theorem isReordered_array (h : List.Forall₂ IsReordered vs ws) :
    IsReordered (.array vs) (.array ws) :=
  reflTransGen_of_forall₂ (f := Json.array) (fun before after _ _ h ↦ .item before after h)
    h []

theorem isReordered_object (h : List.Forall₂ (fun e f ↦ e.1 = f.1 ∧ IsReordered e.2 f.2) es fs) :
    IsReordered (.object es) (.object fs) := by
  refine reflTransGen_of_forall₂ (r := fun e f : String × Json ↦ e.1 = f.1 ∧ Reorders e.2 f.2)
    (f := Json.object) ?_ (h.imp ?_) []
  · rintro before after ⟨key, v⟩ ⟨_, w⟩ ⟨rfl, hstep⟩
    exact .value before key after hstep
  · rintro ⟨key, v⟩ ⟨_, w⟩ ⟨rfl, hreordered⟩
    exact Relation.ReflTransGen.lift (Prod.mk key) (fun _ _ hstep ↦ ⟨rfl, hstep⟩) v w hreordered

theorem exists_perm_of_lookups {P : Json → Json → Prop} (hes : es.DistinctKeys)
    (hlength : es.length = fs.length) (h : ∀ e ∈ es, ∃ w, fs.get? e.1 = some w ∧ P e.2 w) :
    ∃ gs : Entries, List.Forall₂ (fun e g ↦ e.1 = g.1 ∧ P e.2 g.2) es gs ∧ gs.Perm fs := by
  have hgs : ∃ gs : Entries, List.Forall₂ (fun e g ↦ e.1 = g.1 ∧ P e.2 g.2) es gs ∧
      gs.map Prod.fst = es.map Prod.fst ∧ gs ⊆ fs := by
    clear hes hlength
    induction es with
    | nil => exact ⟨[], .nil, rfl, List.nil_subset fs⟩
    | cons e es ih =>
        obtain ⟨hfirst, hrest⟩ := List.forall_mem_cons.mp h
        obtain ⟨w, hw, hP⟩ := hfirst
        obtain ⟨gs, hgs, hkeys, hsub⟩ := ih hrest
        exact ⟨(e.1, w) :: gs, .cons ⟨rfl, hP⟩ hgs, by simp [hkeys],
          List.cons_subset.mpr ⟨Entries.mem_of_get? hw, hsub⟩⟩
  obtain ⟨gs, hgs, hkeys, hsub⟩ := hgs
  have hnodup : gs.Nodup := List.Nodup.of_map Prod.fst (hkeys ▸ hes)
  have hcount : fs.length ≤ gs.length := Nat.le_of_eq (hlength.symm.trans hgs.length_eq)
  exact ⟨gs, hgs, (List.subperm_of_subset hnodup hsub).perm_of_length_le hcount⟩

theorem isReordered_of_same (hv : v.HasDistinctKeys) (hints : v.HasIntegersOnly)
    (h : v.same w = true) : IsReordered v w := by
  induction v using Json.induction generalizing w with
  | array vs ih =>
      rw [hasDistinctKeys_array] at hv
      rw [hasIntegersOnly_array] at hints
      cases w with
      | array ws =>
          obtain ⟨_, ⟨⟩, hsame⟩ := same_array_iff.mp h
          have hitems (v) (hmem : v ∈ vs) (w) (hw : v.same w = true) : IsReordered v w :=
            ih v hmem (hv v hmem) (hints v hmem) hw
          have hboth := (List.forall₂_and_left vs ws).mpr ⟨hitems, hsame⟩
          exact isReordered_array (hboth.imp fun v w h ↦ h.1 w h.2)
      | _ => cases h
  | object es ih =>
      rw [hasDistinctKeys_object] at hv
      rw [hasIntegersOnly_object] at hints
      cases w with
      | object fs =>
          obtain ⟨_, ⟨⟩, hlength, hsame⟩ := same_object_iff.mp h
          have hreordered (e) (he : e ∈ es) : ∃ w, Entries.get? e.1 fs = some w ∧
              IsReordered e.2 w := by
            obtain ⟨w, hw, hsame⟩ := hsame e he
            exact ⟨w, hw, ih e he (hv.2 e he) (hints e he) hsame⟩
          obtain ⟨gs, hgs, hperm⟩ := exists_perm_of_lookups hv.1 hlength hreordered
          exact (isReordered_object hgs).trans (.single (.entries hperm))
      | _ => cases h
  | number n =>
      cases n with
      | float x => cases hints
      | int k =>
          cases w with
          | number m =>
              cases m <;> simp_all [same, Number.same, IsReordered, Relation.ReflTransGen.refl]
          | _ => cases h
  | _ => cases w <;> simp_all [same, IsReordered, Relation.ReflTransGen.refl]

/-- With integers as their only numbers, two values are the same exactly if one can be turned into
the other by reordering entries. -/
theorem same_iff_isReordered (hv : v.HasDistinctKeys) (hints : v.HasIntegersOnly) :
    v.same w = true ↔ IsReordered v w :=
  ⟨isReordered_of_same hv hints, fun h ↦ h.same hv⟩

end Json

end DealForm
