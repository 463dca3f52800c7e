import DealForm.Proofs.Json.Loops
import DealForm.Proofs.Json.Tokens
import DealForm.Proofs.Json.Value
import Mathlib.Data.List.Forall2

/-!
# Printed values read back

In every layout and at every depth of indentation a reader finds again what was printed. This is
shown once for arrays and once for objects, whatever reads their items or the values of their
keys, so that the readers of typed structures are covered by the same two arguments as the reader
of values.
-/

namespace DealForm

namespace Json

variable {α σ : Type} {layout : Layout} {level : Nat} {s rest : List Char} {c : Char}

/-- However a value is printed and whatever follows, a reader takes it for `a`. -/
def ReadsBack (read : Reader α) (v : Json) (a : α) : Prop :=
  ∀ ⦃layout level s rest⦄, skipBlanks s = v.chars layout level ++ rest →
    continuesNumber rest = false → read s = .ok (a, rest)

/-! ## Between the brackets -/

namespace Layout

def tail (layout : Layout) (level : Nat) (closing : Char) (texts : List (List Char)) :
    List Char :=
  texts.flatMap (fun text ↦ ',' :: (layout.lineBreak (level + 1) ++ text)) ++
    layout.lineBreak level ++ [closing]

theorem isBlank_of_mem_lineBreak (h : c ∈ layout.lineBreak level) : isBlank c = true := by
  cases layout with
  | compact => cases h
  | indented width =>
      rcases List.mem_cons.mp h with rfl | h
      · rfl
      · rw [List.eq_of_mem_replicate h]
        rfl

theorem skipBlanks_lineBreak (layout : Layout) (level : Nat) (s : List Char) :
    skipBlanks (layout.lineBreak level ++ s) = skipBlanks s :=
  skipBlanks_append s fun _ ↦ isBlank_of_mem_lineBreak

theorem intercalate_cons (text : List Char) (texts : List (List Char)) :
    List.intercalate [','] (text :: texts) = text ++ texts.flatMap (',' :: ·) := by
  induction texts generalizing text with
  | nil => simp
  | cons next texts ih => simp [List.intercalate_cons_cons, ih]

theorem enclose_cons (layout : Layout) (level : Nat) (opening closing : Char) (text : List Char)
    (texts : List (List Char)) : layout.enclose level opening closing (text :: texts) =
      opening :: (layout.lineBreak (level + 1) ++ text ++ layout.tail level closing texts) := by
  simp [enclose, tail, intercalate_cons, List.flatMap_map]

theorem exists_enclose_eq_cons (layout : Layout) (level : Nat) (opening closing : Char)
    (texts : List (List Char)) : ∃ text, layout.enclose level opening closing texts =
      opening :: text := by
  unfold enclose
  split
  · exact ⟨[closing], rfl⟩
  · exact ⟨_, rfl⟩

theorem tail_cons (layout : Layout) (level : Nat) (closing : Char) (text : List Char)
    (texts : List (List Char)) : layout.tail level closing (text :: texts) =
      ',' :: (layout.lineBreak (level + 1) ++ text ++ layout.tail level closing texts) := by
  simp [tail]

theorem length_lt_tail (layout : Layout) (level : Nat) (closing : Char)
    (texts : List (List Char)) : texts.length < (layout.tail level closing texts).length := by
  induction texts with
  | nil => simp [tail]
  | cons text texts ih =>
      rw [tail_cons]
      simp only [List.length_cons, List.length_append]
      omega

theorem continuesNumber_tail (layout : Layout) (level : Nat) {closing : Char}
    (hclosing : closing = ']' ∨ closing = '}') (texts : List (List Char)) (s : List Char) :
    continuesNumber (layout.tail level closing texts ++ s) = false := by
  cases texts with
  | cons text texts =>
      rw [tail_cons]
      rfl
  | nil => cases layout <;> rcases hclosing with rfl | rfl <;> rfl

end Layout

/-! ## Arrays -/

theorem readsItem_of_readsBack {item : Reader α} {v : Json} {a : α} (h : ReadsBack item v a)
    (layout : Layout) (level : Nat) {tail : List Char} (htail : continuesNumber tail = false) :
    ReadsItem item (layout.lineBreak level ++ v.chars layout level ++ tail) a tail := by
  have hopened := isOpened_chars layout v level
  have hskip := skipBlanks_of_isOpened tail hopened
  unfold ReadsItem
  rw [List.append_assoc, Layout.skipBlanks_lineBreak, hskip]
  have hread := h hskip htail
  obtain ⟨c, cs, hcs, hc⟩ := hopened
  rw [hcs] at hread ⊢
  refine ⟨List.cons_ne_nil c _, ?_, hread⟩
  rintro t heq
  cases heq
  cases hc

theorem itemsAfter_tail {item : Reader α} {vs : List Json} {as : List α}
    (h : List.Forall₂ (ReadsBack item) vs as) {turns : Nat} (hturns : vs.length ≤ turns) :
    itemsAfter item (turns + 1)
      (layout.tail level ']' (vs.map fun v ↦ v.chars layout (level + 1)) ++ rest) =
        .ok (as, rest) := by
  -- Each item left takes one turn, and one more turn closes the array.
  rw [itemsAfter_eq_ok]
  induction h generalizing turns with
  | nil =>
      refine Or.inl ⟨rfl, ?_⟩
      simp only [List.map_nil, Layout.tail, List.flatMap_nil, List.nil_append, List.append_assoc,
        Layout.skipBlanks_lineBreak]
      rfl
  | @cons v a vs as hv _ ih =>
      obtain ⟨turns, rfl⟩ := Nat.exists_eq_add_one_of_ne_zero (Nat.ne_zero_of_lt hturns)
      have hread := readsItem_of_readsBack hv layout (level + 1)
        (layout.continuesNumber_tail level (Or.inl rfl)
          (vs.map fun v ↦ v.chars layout (level + 1)) rest)
      rw [List.map_cons, Layout.tail_cons, List.cons_append, List.append_assoc _ _ rest]
      exact Or.inr ⟨_, _, a, as, rfl, hread,
        itemsAfter_eq_ok.mpr (ih (Nat.le_of_succ_le_succ hturns)), rfl⟩

/-- A printed array opens, and its items are read. -/
theorem items_chars {item : Reader α} {vs : List Json} {as : List α}
    (h : List.Forall₂ (ReadsBack item) vs as)
    (hs : skipBlanks s = (Json.array vs).chars layout level ++ rest) :
    ∃ t, skipBlanks s = '[' :: t ∧ items item t = .ok (as, rest) := by
  rw [chars, itemsChars_eq_map] at hs
  obtain ⟨text, htext⟩ := Layout.exists_enclose_eq_cons layout level '[' ']'
    (vs.map fun v ↦ v.chars layout (level + 1))
  refine ⟨text ++ rest, by rw [hs, htext, List.cons_append], items_eq_ok.mpr ?_⟩
  cases h with
  | nil =>
      cases htext
      exact Or.inl ⟨rfl, rfl⟩
  | @cons v a vs as hv hvs =>
      have hread := readsItem_of_readsBack hv layout (level + 1)
        (layout.continuesNumber_tail level (Or.inl rfl)
          (vs.map fun v ↦ v.chars layout (level + 1)) rest)
      have hlength := Layout.length_lt_tail layout level ']'
        (vs.map fun v ↦ v.chars layout (level + 1))
      rw [List.map_cons, Layout.enclose_cons] at htext
      cases htext
      rw [List.append_assoc _ _ rest]
      refine Or.inr ⟨_, a, as, hread, itemsAfter_tail hvs ?_, rfl⟩
      rw [List.length_map] at hlength
      rw [List.length_append]
      omega

/-! ## Objects -/

/-- However the entries are printed, their members take a reader from one state to another, one by
one. -/
inductive MembersReadBack (member : σ → String → Reader σ) : σ → Entries → σ → Prop
  | nil (st : σ) : MembersReadBack member st [] st
  | cons {st mid st' : σ} {key : String} {v : Json} {es : Entries}
      (hv : ReadsBack (fun s ↦ member st key (':' :: s)) v mid)
      (hes : MembersReadBack member mid es st') : MembersReadBack member st ((key, v) :: es) st'

variable {member : σ → String → Reader σ} {st mid st' : σ} {es : Entries}

def entryText (layout : Layout) (level : Nat) (e : String × Json) : List Char :=
  stringChars e.1 ++ layout.colon ++ e.2.chars layout level

theorem readsMember_of_readsBack {key : String} {v : Json}
    (h : ReadsBack (fun s ↦ member st key (':' :: s)) v mid) (layout : Layout) (level : Nat)
    {tail : List Char} (htail : continuesNumber tail = false) :
    ReadsMember member st (layout.lineBreak level ++ entryText layout level (key, v) ++ tail) mid
      tail := by
  refine ⟨key.toList.flatMap escapeChar ++ '"' :: (layout.colon ++ v.chars layout level ++ tail),
    key, layout.colon ++ v.chars layout level ++ tail, ?_, stringLiteral_stringChars key _, ?_⟩
  · rw [List.append_assoc, Layout.skipBlanks_lineBreak]
    simp only [entryText, stringChars, List.append_assoc, List.cons_append, List.nil_append]
    rfl
  · have hskip := skipBlanks_of_isOpened tail (isOpened_chars layout v level)
    cases layout with
    | compact => exact h hskip htail
    | indented width =>
        have hspace : skipBlanks (' ' :: (v.chars (.indented width) level ++ tail)) =
            v.chars (.indented width) level ++ tail := hskip
        exact h hspace htail

theorem membersAfter_tail (h : MembersReadBack member st es st') {turns : Nat}
    (hturns : es.length ≤ turns) :
    membersAfter member (turns + 1) st
      (layout.tail level '}' (es.map (entryText layout (level + 1))) ++ rest) =
        .ok (st', rest) := by
  rw [membersAfter_eq_ok]
  induction h generalizing turns with
  | nil st =>
      refine Or.inl ⟨rfl, ?_⟩
      simp only [List.map_nil, Layout.tail, List.flatMap_nil, List.nil_append, List.append_assoc,
        Layout.skipBlanks_lineBreak]
      rfl
  | @cons st mid st' key v es hv _ ih =>
      obtain ⟨turns, rfl⟩ := Nat.exists_eq_add_one_of_ne_zero (Nat.ne_zero_of_lt hturns)
      have hread := readsMember_of_readsBack hv layout (level + 1)
        (layout.continuesNumber_tail level (Or.inr rfl)
          (es.map (entryText layout (level + 1))) rest)
      rw [List.map_cons, Layout.tail_cons, List.cons_append, List.append_assoc _ _ rest]
      exact Or.inr ⟨_, mid, _, rfl, hread,
        membersAfter_eq_ok.mpr (ih (Nat.le_of_succ_le_succ hturns))⟩

/-- A printed object opens, and its members are read. -/
theorem members_chars (h : MembersReadBack member st es st')
    (hs : skipBlanks s = (Json.object es).chars layout level ++ rest) :
    ∃ t, skipBlanks s = '{' :: t ∧ members member st t = .ok (st', rest) := by
  rw [chars, entriesChars_eq_map] at hs
  change _ = layout.enclose level '{' '}' (es.map (entryText layout (level + 1))) ++ rest at hs
  obtain ⟨text, htext⟩ := Layout.exists_enclose_eq_cons layout level '{' '}'
    (es.map (entryText layout (level + 1)))
  refine ⟨text ++ rest, by rw [hs, htext, List.cons_append], members_eq_ok.mpr ?_⟩
  cases h with
  | nil =>
      cases htext
      exact Or.inl ⟨rfl, rfl⟩
  | @cons _ mid _ key v es hv hes =>
      have hread := readsMember_of_readsBack hv layout (level + 1)
        (layout.continuesNumber_tail level (Or.inr rfl)
          (es.map (entryText layout (level + 1))) rest)
      have hlength := Layout.length_lt_tail layout level '}'
        (es.map (entryText layout (level + 1)))
      rw [List.map_cons, Layout.enclose_cons] at htext
      cases htext
      rw [List.append_assoc _ _ rest]
      refine Or.inr ⟨mid, _, hread, membersAfter_tail hes ?_⟩
      rw [List.length_map] at hlength
      rw [List.length_append]
      omega

end Json

end DealForm
