import DealForm.Proofs.Json.Layout
import DealForm.Proofs.Json.RoundTrip

/-!
# Printed texts set out values

The texts of a value, indented by some width, set out its text on one line. So they differ from it
in spaces and newlines outside of strings only, and from one another in the width of their
indentation.
-/

namespace DealForm.Json

variable {c : Char} {s s' t before after line : List Char} {width width' n level : Nat}

/-! ## Tokens -/

def isPlain (c : Char) : Bool :=
  c.isAlphanum || ['-', '+', '.'].contains c

def AllPlain (s : List Char) : Prop :=
  ∀ c ∈ s, isPlain c = true

theorem ne_of_class {p : Char → Bool} {d : Char} (hc : p c = true) (hd : p d = false) : c ≠ d := by
  rintro rfl
  rw [hd] at hc
  cases hc

theorem AllPlain.append (hs : AllPlain s) (ht : AllPlain t) : AllPlain (s ++ t) :=
  List.forall_mem_append.mpr ⟨hs, ht⟩

theorem AllPlain.cons (hc : isPlain c = true) (hs : AllPlain s) : AllPlain (c :: s) :=
  List.forall_mem_cons.mpr ⟨hc, hs⟩

theorem allPlain_natChars (n : Nat) : AllPlain (natChars n) := by
  intro c hc
  simp [isPlain, Char.isAlphanum, isDigit_of_mem_natChars hc]

theorem allPlain_zeros (n : Nat) : AllPlain (List.replicate n '0') := by
  intro c hc
  rw [List.eq_of_mem_replicate hc]
  rfl

theorem allPlain_intChars (n : Int) : AllPlain (intChars n) := by
  cases n with
  | ofNat n => exact allPlain_natChars n
  | negSucc n => exact .cons rfl (allPlain_natChars (n + 1))

theorem allPlain_digitsChars (x : Decimal.Digits) : AllPlain (digitsChars x) := by
  have hds := allPlain_natChars x.digits
  have htake (n : Nat) : AllPlain ((natChars x.digits).take n) :=
    fun c hc ↦ hds c (List.mem_of_mem_take hc)
  have hdrop (n : Nat) : AllPlain ((natChars x.digits).drop n) :=
    fun c hc ↦ hds c (List.mem_of_mem_drop hc)
  unfold digitsChars
  dsimp only
  split
  · exact (hds.append (allPlain_zeros _)).append (.cons rfl (.cons rfl nofun))
  split
  · exact (htake _).append (.cons rfl (hdrop _))
  split
  · exact .append (.cons rfl (.cons rfl (allPlain_zeros _))) hds
  · refine .append ?_ (.cons rfl (.cons ?_ (allPlain_natChars _)))
    · split
      · exact hds
      · exact (htake 1).append (.cons rfl (hdrop 1))
    · split <;> rfl

theorem allPlain_numberChars (n : Number) : AllPlain (numberChars n) := by
  have hmagnitude (a : Decimal.Magnitude) : AllPlain (magnitudeChars a) := by
    unfold magnitudeChars
    split
    · exact .cons rfl (.cons rfl (.cons rfl nofun))
    · exact allPlain_digitsChars a.shortest
  cases n with
  | int n => exact allPlain_intChars n
  | float x =>
      rw [numberChars, floatChars]
      split
      · exact .cons rfl (hmagnitude x.magnitude)
      · exact hmagnitude x.magnitude

/-! ## Steps -/

namespace Cursor

theorem step_plain {cur : Cursor} (hcur : cur.scope = .between) (hc : isPlain c = true) :
    cur.step c = cur := by
  have hquote : c ≠ '"' := ne_of_class hc rfl
  have hopening : isOpening c = false := by
    simp [isOpening, ne_of_class (d := '[') hc rfl, ne_of_class (d := '{') hc rfl]
  have hclosing : isClosing c = false := by
    simp [isClosing, ne_of_class (d := ']') hc rfl, ne_of_class (d := '}') hc rfl]
  simp [step, hcur, hquote, hopening, hclosing]

theorem step_opening (hc : isOpening c = true) (n : Nat) :
    step ⟨.between, n⟩ c = ⟨.between, n + 1⟩ := by
  simp only [isOpening, Bool.or_eq_true, beq_iff_eq] at hc
  rcases hc with rfl | rfl <;> rfl

theorem step_closing (hc : isClosing c = true) (n : Nat) :
    step ⟨.between, n + 1⟩ c = ⟨.between, n⟩ := by
  simp only [isClosing, Bool.or_eq_true, beq_iff_eq] at hc
  rcases hc with rfl | rfl <;> rfl

theorem step_kept (hquote : c ≠ '"') (hslash : c ≠ '\\') (n : Nat) :
    step ⟨.string, n⟩ c = ⟨.string, n⟩ := by
  simp [step, hquote, hslash]

end Cursor

namespace SetsOut

variable {cur : Cursor}

theorem plain {text : List Char} (htext : AllPlain text) (hcur : cur.scope = .between)
    (h : SetsOut width width' cur s s' t) :
    SetsOut width width' cur (text ++ s) (text ++ s') (text ++ t) := by
  induction text with
  | nil => exact h
  | cons c text ih =>
      obtain ⟨hc, htext⟩ := List.forall_mem_cons.mp htext
      refine .char (ne_of_class hc rfl) (fun hspace ↦ absurd hspace (ne_of_class hc rfl)) ?_
      rw [Cursor.step_plain hcur hc]
      exact ih htext

/-- A character of a string that stands for itself. -/
theorem kept (hquote : c ≠ '"') (hslash : c ≠ '\\') (hbreak : c ≠ '\n')
    (h : SetsOut width width' ⟨.string, n⟩ s s' t) :
    SetsOut width width' ⟨.string, n⟩ (c :: s) (c :: s') (c :: t) := by
  refine .char hbreak (fun _ ↦ nofun) ?_
  rw [Cursor.step_kept hquote hslash]
  exact h

/-- A character of a string behind a backslash. -/
theorem escaped (hbreak : c ≠ '\n') (h : SetsOut width width' ⟨.string, n⟩ s s' t) :
    SetsOut width width' ⟨.string, n⟩ ('\\' :: c :: s) ('\\' :: c :: s') ('\\' :: c :: t) :=
  .char (by decide) (fun _ ↦ nofun) (.char hbreak (fun _ ↦ nofun) h)

theorem hexDigit_spec : ∀ n < 0x10, Text.hexDigit n ≠ '"' ∧ Text.hexDigit n ≠ '\\' ∧
    Text.hexDigit n ≠ '\n' := by
  decide

theorem escapeChar (c : Char) (h : SetsOut width width' ⟨.string, n⟩ s s' t) :
    SetsOut width width' ⟨.string, n⟩ (escapeChar c ++ s) (Json.escapeChar c ++ s')
      (Json.escapeChar c ++ t) := by
  unfold Json.escapeChar
  -- Seven characters have a letter of their own.
  iterate 7
    split
    · exact escaped (by decide) h
  split
  · next hcontrol =>
    obtain ⟨hq, hs, hb⟩ := hexDigit_spec (c.toNat / 16) (by omega)
    obtain ⟨hq', hs', hb'⟩ := hexDigit_spec (c.toNat % 16) (by omega)
    refine escaped (by decide) (kept (by decide) (by decide) (by decide) ?_)
    exact kept (by decide) (by decide) (by decide) (kept hq hs hb (kept hq' hs' hb' h))
  · next hquote hslash _ _ hbreak _ _ _ => exact kept hquote hslash hbreak h

theorem string (text : String) (h : SetsOut width width' ⟨.between, n⟩ s s' t) :
    SetsOut width width' ⟨.between, n⟩ (stringChars text ++ s) (stringChars text ++ s')
      (stringChars text ++ t) := by
  have hbody (cs : List Char) : SetsOut width width' ⟨.string, n⟩
      (cs.flatMap Json.escapeChar ++ '"' :: s) (cs.flatMap Json.escapeChar ++ '"' :: s')
        (cs.flatMap Json.escapeChar ++ '"' :: t) := by
    induction cs with
    | nil => exact .char (by decide) (fun _ ↦ nofun) h
    | cons c cs ih =>
        simp only [List.flatMap_cons, List.append_assoc]
        exact escapeChar c ih
  simp only [stringChars, List.cons_append, List.append_assoc, List.nil_append]
  exact .char (by decide) (absurd · (by decide)) (hbody text.toList)

end SetsOut

/-! ## Values -/

/-- What is printed between tokens, in the two widths and on one line, is set out. -/
def IsSetOut (width width' level : Nat) (text : Layout → List Char) : Prop :=
  ∀ ⦃s s' t⦄, SetsOut width width' ⟨.between, level⟩ s s' t →
    SetsOut width width' ⟨.between, level⟩ (text (.indented width) ++ s)
      (text (.indented width') ++ s') (text .compact ++ t)

section

variable {α : Type} {as : List α} {text : Layout → α → List Char} {opening closing : Char}

theorem SetsOut.newline_opened (h : SetsOut width width' ⟨.between, level⟩ s s' t)
    (hopened : IsOpened s) : SetsOut width width' ⟨.between, level⟩
      ((Layout.indented width).lineBreak level ++ s)
      ((Layout.indented width').lineBreak level ++ s') t := by
  obtain ⟨c, rest, rfl, hc⟩ := hopened
  have hclosings : closings c = 0 := by
    simp [closings, isClosing, ne_of_class (d := ']') hc rfl, ne_of_class (d := '}') hc rfl]
  exact .newline rfl rfl (ne_of_class hc rfl) (ne_of_class hc rfl) (by rw [hclosings]; rfl) h

theorem SetsOut.gap_opened (h : SetsOut width width' ⟨.between, level⟩ s s' t)
    (hopened : IsOpened s) : SetsOut width width' ⟨.between, level⟩ (' ' :: s) (' ' :: s') t := by
  obtain ⟨c, rest, rfl, hc⟩ := hopened
  exact .gap rfl rfl (ne_of_class hc rfl) (ne_of_class hc rfl) h

theorem SetsOut.close (hclosing : isClosing closing = true)
    (h : SetsOut width width' ⟨.between, level⟩ s s' t) :
    SetsOut width width' ⟨.between, level + 1⟩ (closing :: s) (closing :: s') (closing :: t) := by
  refine .char (ne_of_class hclosing rfl)
    (fun hspace ↦ absurd hspace (ne_of_class hclosing rfl)) ?_
  rw [Cursor.step_closing hclosing]
  exact h

/-- After an item come the other items, each on a line of its own, and the bracket on a line
outside of them. -/
theorem isSetOut_tail (hclosing : isClosing closing = true)
    (h : ∀ a ∈ as, IsSetOut width width' (level + 1) fun layout ↦ text layout a)
    (hopened : ∀ a ∈ as, IsOpened (text (.indented width) a))
    (hrest : SetsOut width width' ⟨.between, level⟩ s s' t) :
    SetsOut width width' ⟨.between, level + 1⟩
      ((Layout.indented width).tail level closing (as.map (text (.indented width))) ++ s)
      ((Layout.indented width').tail level closing (as.map (text (.indented width'))) ++ s')
      (Layout.compact.tail level closing (as.map (text .compact)) ++ t) := by
  induction as with
  | nil =>
      have hclosings : level + closings closing = level + 1 := by simp [closings, hclosing]
      simp only [List.map_nil, Layout.tail, List.flatMap_nil, List.nil_append, List.append_assoc,
        Layout.lineBreak, List.cons_append]
      exact .newline rfl rfl (ne_of_class hclosing rfl) (ne_of_class hclosing rfl) hclosings
        (.close hclosing hrest)
  | cons a as ih =>
      obtain ⟨ha, has⟩ := List.forall_mem_cons.mp h
      obtain ⟨haopened, hasopened⟩ := List.forall_mem_cons.mp hopened
      simp only [List.map_cons, Layout.tail_cons, List.cons_append, List.append_assoc]
      refine .char (by decide) (absurd · (by decide)) ?_
      exact .newline_opened (ha (ih has hasopened)) (haopened.append _)

theorem isSetOut_enclose (hopening : isOpening opening = true) (hclosing : isClosing closing = true)
    (h : ∀ a ∈ as, IsSetOut width width' (level + 1) fun layout ↦ text layout a)
    (hopened : ∀ a ∈ as, IsOpened (text (.indented width) a)) :
    IsSetOut width width' level fun layout ↦
      layout.enclose level opening closing (as.map (text layout)) := by
  intro s s' t hrest
  have hopen {s s' t : List Char} (hs : SetsOut width width' ⟨.between, level + 1⟩ s s' t) :
      SetsOut width width' ⟨.between, level⟩ (opening :: s) (opening :: s') (opening :: t) := by
    refine .char (ne_of_class hopening rfl)
      (fun hspace ↦ absurd hspace (ne_of_class hopening rfl)) ?_
    rw [Cursor.step_opening hopening]
    exact hs
  cases as with
  | nil => exact hopen (.close hclosing hrest)
  | cons a as =>
      obtain ⟨ha, has⟩ := List.forall_mem_cons.mp h
      obtain ⟨haopened, hasopened⟩ := List.forall_mem_cons.mp hopened
      simp only [List.map_cons, Layout.enclose_cons, List.cons_append, List.append_assoc]
      exact hopen (.newline_opened (ha (isSetOut_tail hclosing has hasopened hrest))
        (haopened.append _))

end

theorem isSetOut_chars (width width' : Nat) (v : Json) (level : Nat) :
    IsSetOut width width' level fun layout ↦ v.chars layout level := by
  induction v using Json.induction generalizing level with
  | null =>
      have hword : AllPlain ['n', 'u', 'l', 'l'] := List.all_eq_true.mp rfl
      exact fun _ _ _ h ↦ .plain hword rfl h
  | bool b =>
      have hword : AllPlain (if b then ['t', 'r', 'u', 'e'] else ['f', 'a', 'l', 's', 'e']) := by
        cases b <;> exact List.all_eq_true.mp rfl
      cases b <;> exact fun _ _ _ h ↦ .plain hword rfl h
  | number n => exact fun _ _ _ h ↦ .plain (allPlain_numberChars n) rfl h
  | string text => exact fun _ _ _ h ↦ .string text h
  | array vs ih =>
      have hitems : IsSetOut width width' level fun layout ↦ layout.enclose level '[' ']'
          (vs.map fun v ↦ v.chars layout (level + 1)) :=
        isSetOut_enclose rfl rfl (fun v hv ↦ ih v hv (level + 1)) fun v _ ↦ isOpened_chars _ v _
      simpa only [chars, itemsChars_eq_map] using hitems
  | object es ih =>
      have hentry : ∀ e ∈ es, IsSetOut width width' (level + 1) fun layout ↦
          entryText layout (level + 1) e := by
        intro e he s s' t h
        simp only [entryText, Layout.colon, List.append_assoc, List.cons_append, List.nil_append]
        refine .string e.1 (.char (by decide) (absurd · (by decide)) ?_)
        exact .gap_opened (ih e he (level + 1) h) ((isOpened_chars _ e.2 _).append _)
      have hentries : IsSetOut width width' level fun layout ↦ layout.enclose level '{' '}'
          (es.map (entryText layout (level + 1))) :=
        isSetOut_enclose rfl rfl hentry fun e _ ↦ isOpened_cons _ rfl
      simp only [chars, entriesChars_eq_map]
      exact hentries

/-- The whole texts of a value. -/
theorem setsOut_print (width width' : Nat) (v : Json) :
    SetsOut width width' .start (v.print (.indented width)).toList
      (v.print (.indented width')).toList v.compact.toList := by
  have h : SetsOut width width' .start _ _ _ := isSetOut_chars width width' v 0 (.done rfl)
  simpa only [List.append_nil, compact, print, String.toList_ofList] using h

/-! ## Printed texts -/

variable {v : Json}

theorem isLineOf_append {text : List Char} (h : IsLineOf text before line) :
    ∃ after, text = before ++ (line ++ after) ∧ ∀ c ∈ after.head?, c = '\n' := by
  obtain ⟨after, htext, -, -, hafter⟩ := h
  refine ⟨after, htext, ?_⟩
  rcases hafter with rfl | hafter
  · nofun
  · simp [hafter]

/-- No line of a printed text ends in a space. -/
theorem getLast?_ne_of_isLineOf (h : IsLineOf (v.print (.indented width)).toList before line) :
    line.getLast? ≠ some ' ' := by
  intro hspace
  obtain ⟨after, htext, hafter⟩ := isLineOf_append h
  obtain ⟨front, rfl⟩ := List.getLast?_eq_some_iff.mp hspace
  have hsplit : (v.print (.indented width)).toList = before ++ front ++ ' ' :: after := by
    simp [htext]
  obtain ⟨c, rest, rfl, hc⟩ := (setsOut_print width width v).after_space hsplit
  exact hc (hafter c rfl)

/-- A line begins with what the text goes on with up to the first character that is no space. -/
theorem exists_line_of_append (hafter : ∀ d ∈ after.head?, d = '\n') (hc : c ≠ '\n')
    (h : line ++ after = List.replicate n ' ' ++ c :: s) :
    ∃ rest, line = List.replicate n ' ' ++ c :: rest := by
  have hnone : '\n' ∉ List.replicate n ' ' ++ [c] := by
    simp [List.mem_replicate, hc.symm]
  rw [← List.singleton_append, ← List.append_assoc] at h
  rcases List.append_eq_append_iff.mp h with ⟨back, hspaces, hback⟩ | ⟨rest, hline, -⟩
  · cases back with
    | nil => exact ⟨[], by simpa using hspaces.symm⟩
    | cons d back =>
        have hd : d = '\n' := hafter d (by rw [hback]; rfl)
        exact absurd (hspaces ▸ List.mem_append_right line (hd ▸ List.mem_cons_self)) hnone
  · exact ⟨rest, by simpa using hline⟩

theorem isIndented_of_isLineOf (h : IsLineOf (v.print (.indented width)).toList before line) :
    IsIndented width before line := by
  have hend := getLast?_ne_of_isLineOf h
  obtain ⟨after, htext, hafter⟩ := isLineOf_append h
  obtain ⟨-, -, hbefore, -, -⟩ := h
  rcases hbefore with rfl | hbefore
  · obtain ⟨c, rest, hopened, hc⟩ := isOpened_chars (.indented width) v 0
    rw [print, String.toList_ofList, hopened, List.nil_append] at htext
    obtain ⟨rest', rfl⟩ := exists_line_of_append (n := 0) hafter (ne_of_class hc rfl) htext.symm
    refine ⟨0, c, rest', by simp, ne_of_class hc rfl, ?_, by simpa using hend⟩
    simp [closings, isClosing, ne_of_class (d := ']') hc rfl, ne_of_class (d := '}') hc rfl,
      Cursor.run, Cursor.start]
  · obtain ⟨front, rfl⟩ := List.getLast?_eq_some_iff.mp hbefore
    have hsplit : (v.print (.indented width)).toList = front ++ '\n' :: (line ++ after) := by
      simp [htext]
    obtain ⟨hscope, k, c, rest, hrest, hspace, hbreak, hlevel⟩ :=
      (setsOut_print width width v).after_newline hsplit
    obtain ⟨rest', rfl⟩ := exists_line_of_append hafter hbreak hrest
    refine ⟨k, c, rest', rfl, hspace, ?_, ?_⟩
    · rw [Cursor.run_append, Cursor.run_cons, Cursor.step_blank hscope (Or.inr rfl)]
      exact hlevel
    · rwa [List.getLast?_append_of_ne_nil _ (List.cons_ne_nil c rest')] at hend

/-- The text that is shown and the one that is stored are the text on one line, but for spaces and
newlines outside of strings. Both have the same lines, which are indented by four and by two spaces
for each open container, and no line breaks within strings. -/
theorem printed_texts_agree (v : Json) :
    unspaced .start v.pretty.toList = v.compact.toList ∧
    unspaced .start v.stored.toList = v.compact.toList ∧
    (lines v.pretty.toList).length = (lines v.stored.toList).length ∧
    (lines v.pretty.toList).map unindented = (lines v.stored.toList).map unindented ∧
    (∀ before line, IsLineOf v.pretty.toList before line → IsIndented 4 before line) ∧
    (∀ before line, IsLineOf v.stored.toList before line → IsIndented 2 before line) ∧
    ∀ before after, v.pretty.toList = before ++ '\n' :: after ∨
      v.stored.toList = before ++ '\n' :: after → (Cursor.start.run before).scope = .between := by
  have hpretty := setsOut_print 4 2 v
  have hstored := setsOut_print 2 4 v
  obtain ⟨first, rest, rest', hlines, hlines', hrest⟩ := hpretty.exists_lines
  have hsame : (lines v.pretty.toList).map unindented = (lines v.stored.toList).map unindented := by
    rw [pretty, stored, hlines, hlines', List.map_cons, List.map_cons, hrest]
  have hlength := congrArg List.length hsame
  rw [List.length_map, List.length_map] at hlength
  refine ⟨hpretty.unspaced_eq, hstored.unspaced_eq, hlength, hsame,
    fun _ _ ↦ isIndented_of_isLineOf, fun _ _ ↦ isIndented_of_isLineOf, ?_⟩
  rintro before after (h | h)
  · exact (hpretty.after_newline h).1
  · exact (hstored.after_newline h).1

/-- The line that closes an array in an object is indented once, whatever brackets stand in the
strings before it. -/
theorem printed_texts_agree_nested :
    let v : Json := .object [("[\n", .array [.string "\x7d ", .object []])]
    ∃ before, IsLineOf v.pretty.toList before "    ]".toList ∧
      IsIndented 4 before "    ]".toList := by
  intro v
  have htext : v.pretty.toList = v.chars (.indented 4) 0 := String.toList_ofList
  have hline : IsLineOf v.pretty.toList
      "\x7b\n    \"[\\n\": [\n        \"\x7d \",\n        \x7b\x7d\n".toList "    ]".toList :=
    ⟨"\n\x7d".toList, htext.trans (by rfl), Or.inr (by rfl), by decide, Or.inr (by rfl)⟩
  exact ⟨_, hline, (printed_texts_agree v).2.2.2.2.1 _ _ hline⟩

end DealForm.Json
