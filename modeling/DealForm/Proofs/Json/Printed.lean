import DealForm.Proofs.Json.Reading
import DealForm.Proofs.Json.RoundTrip

/-!
# Values read back

A value whose numbers are integers, and in which no object has a key twice, is read back from its
text in every layout, as long as the budget suffices for its depth.
-/

namespace DealForm.Json

variable {α σ : Type} {a : α} {t : ScalarType α} {read : Reader Json} {budget : Nat} {v w : Json}
  {es : Entries} {s rest : List Char}

theorem scalar_chars (hv : v.IsScalar) (hints : v.HasIntegersOnly) (layout : Layout) (level : Nat)
    (hrest : continuesNumber rest = false) :
    scalar (v.chars layout level ++ rest) = .ok (v, rest) := by
  cases v with
  | null =>
      change scalar ('n' :: (['u', 'l', 'l'] ++ rest)) = _
      rw [scalar, word_append]
      rfl
  | bool b =>
      cases b with
      | true =>
          change scalar ('t' :: (['r', 'u', 'e'] ++ rest)) = _
          rw [scalar, word_append]
          rfl
      | false =>
          change scalar ('f' :: (['a', 'l', 's', 'e'] ++ rest)) = _
          rw [scalar, word_append]
          rfl
  | number n =>
      cases n with
      | int n => exact scalar_intChars hints.1 hints.2 hrest
      | float x => cases hints
  | string text => exact scalar_stringChars text rest
  | array vs => cases hv
  | object es => cases hv

theorem typed_readsBack (hv : v.IsScalar) (hints : v.HasIntegersOnly) (hview : t.view v = .ok a) :
    ReadsBack (typed t) v a := by
  intro layout level s rest hs hrest
  rw [typed_eq_ok, hs]
  exact ⟨v, scalar_chars hv hints layout level hrest, hview⟩

theorem membersReadBack_keptMember (h : ∀ e ∈ es, ReadsBack read e.2 e.2) (pre : Entries) :
    MembersReadBack (keptMember read) pre es (pre ++ es) := by
  induction es generalizing pre with
  | nil =>
      rw [List.append_nil]
      exact .nil pre
  | cons e es ih =>
      obtain ⟨key, v⟩ := e
      have htail := ih (fun e he ↦ h e (List.mem_cons_of_mem _ he)) (pre ++ [(key, v)])
      rw [List.append_assoc] at htail
      refine .cons ?_ htail
      intro layout level s rest hs hrest
      exact (addsMembers_keptMember read pre key _ _ rest).mpr
        ⟨s, v, rfl, h _ List.mem_cons_self hs hrest, rfl⟩

/-- The members of a printed object are its entries. -/
theorem members_keptMember_chars {layout : Layout} {level : Nat}
    (h : ∀ e ∈ es, ReadsBack read e.2 e.2)
    (hs : skipBlanks s = (Json.object es).chars layout level ++ rest) :
    ∃ u, skipBlanks s = '{' :: u ∧ members (keptMember read) [] u = .ok (es, rest) :=
  members_chars (membersReadBack_keptMember h []) hs

theorem value_readsBack (hints : v.HasIntegersOnly) (hkeys : v.HasDistinctKeys)
    (hdepth : v.depth ≤ budget) : ReadsBack (value budget) v v := by
  induction v using Json.induction generalizing budget with
  | array vs ih =>
      obtain ⟨budget, rfl⟩ := Nat.exists_eq_add_one_of_ne_zero (Nat.ne_zero_of_lt hdepth)
      rw [hasIntegersOnly_array] at hints
      rw [hasDistinctKeys_array] at hkeys
      rw [depth_array_le] at hdepth
      have hvs : List.Forall₂ (ReadsBack (value budget)) vs vs :=
        List.forall₂_same.mpr fun v hv ↦ ih v hv (hints v hv) (hkeys v hv) (hdepth v hv)
      intro layout level s rest hs hrest
      obtain ⟨u, hu, hitems⟩ := items_chars hvs hs
      exact value_eq_ok.mpr (Or.inl ⟨u, budget, vs, hu, rfl, hitems, rfl⟩)
  | object es ih =>
      obtain ⟨budget, rfl⟩ := Nat.exists_eq_add_one_of_ne_zero (Nat.ne_zero_of_lt hdepth)
      rw [hasIntegersOnly_object] at hints
      rw [hasDistinctKeys_object] at hkeys
      rw [depth_object_le] at hdepth
      have hes (e) (he : e ∈ es) : ReadsBack (value budget) e.2 e.2 :=
        ih e he (hints e he) (hkeys.2 e he) (hdepth e he)
      intro layout level s rest hs hrest
      obtain ⟨u, hu, hkept⟩ := members_keptMember_chars hes hs
      have hentries := Entries.ofMembers_of_distinctKeys hkeys.1
      exact value_eq_ok.mpr (Or.inr (Or.inl
        ⟨u, budget, es, hu, rfl, members_anyMember_eq_ok.mpr ⟨es, hkept, hentries⟩, rfl⟩))
  | _ =>
      intro layout level s rest hs hrest
      refine value_eq_ok.mpr (Or.inr (Or.inr ?_))
      rw [hs]
      exact scalar_chars (by trivial) hints layout level hrest

theorem writtenMembers_readsBack (hints : (Json.object es).HasIntegersOnly)
    (hkeys : EntriesHaveDistinctKeys es) (hdepth : (Json.object es).depth ≤ budget + 1) :
    ReadsBack (writtenMembers budget) (.object es) es := by
  rw [entriesHaveDistinctKeys_iff] at hkeys
  simp only [hasIntegersOnly_object, depth_object_le] at hints hdepth
  intro layout level s rest hs hrest
  exact writtenMembers_eq_ok.mpr (members_keptMember_chars
    (fun e he ↦ value_readsBack (hints e he) (hkeys e he) (hdepth e he)) hs)

/-- What reads a value back reads the text of the value. -/
theorem decode_print {read : Reader α} (h : ReadsBack read v a) (layout : Layout) :
    decode read (v.print layout) = .ok a := by
  have hskip := skipBlanks_of_isOpened [] (isOpened_chars layout v 0)
  rw [List.append_nil] at hskip
  refine decode_eq_ok.mpr ⟨[], ?_, rfl⟩
  rw [print, String.toList_ofList]
  exact h (by rw [hskip, List.append_nil]) rfl

/-- A value is the one that its text denotes. -/
theorem parse_print (hints : v.HasIntegersOnly) (hkeys : v.HasDistinctKeys)
    (hdepth : v.depth ≤ maxDepth) (layout : Layout) : parse (v.print layout) = .ok v :=
  decode_print (value_readsBack hints hkeys hdepth) layout

/-- Values with one text are the same, however deep they are. -/
theorem eq_of_print_eq (hv : v.HasIntegersOnly) (hvkeys : v.HasDistinctKeys)
    (hw : w.HasIntegersOnly) (hwkeys : w.HasDistinctKeys) {layout : Layout}
    (h : v.print layout = w.print layout) : v = w := by
  have hreadv : decode (value (max v.depth w.depth)) (v.print layout) = .ok v :=
    decode_print (value_readsBack hv hvkeys (Nat.le_max_left ..)) layout
  have hreadw : decode (value (max v.depth w.depth)) (w.print layout) = .ok w :=
    decode_print (value_readsBack hw hwkeys (Nat.le_max_right ..)) layout
  rw [h, hreadw] at hreadv
  cases hreadv
  rfl

end DealForm.Json
