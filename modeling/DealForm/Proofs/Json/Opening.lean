import DealForm.Form.Rendering

/-!
# How printed values begin

The first character of a printed value is a digit, a sign, a quote, a bracket or the first letter
of a word. So neither the placeholder of an upload nor an error fragment is the text of a value.
-/

namespace DealForm

namespace Json

def opensValue (c : Char) : Bool :=
  c.isDigit || ['-', '"', '[', '{', 'n', 't', 'f'].contains c

def IsOpened (cs : List Char) : Prop :=
  ∃ c rest, cs = c :: rest ∧ opensValue c = true

theorem IsOpened.append {cs : List Char} (h : IsOpened cs) (ds : List Char) :
    IsOpened (cs ++ ds) := by
  obtain ⟨c, rest, rfl, hc⟩ := h
  exact ⟨c, rest ++ ds, rfl, hc⟩

theorem IsOpened.take {cs : List Char} (h : IsOpened cs) (n : Nat) :
    IsOpened (cs.take (n + 1)) := by
  obtain ⟨c, rest, rfl, hc⟩ := h
  exact ⟨c, rest.take n, rfl, hc⟩

theorem isOpened_cons {c : Char} (rest : List Char) (h : opensValue c = true) :
    IsOpened (c :: rest) := ⟨c, rest, rfl, h⟩

theorem isOpened_natChars (n : Nat) : IsOpened (natChars n) := by
  cases hcs : natChars n with
  | nil => exact absurd hcs Nat.toDigits_ne_nil
  | cons c rest =>
      have hc : c ∈ Nat.toDigits 10 n := by
        change c ∈ natChars n
        rw [hcs]
        exact List.mem_cons_self
      have hdigit : c.isDigit = true := Nat.isDigit_of_mem_toDigits (by decide) (by decide) hc
      exact isOpened_cons rest (by simp [opensValue, hdigit])

theorem isOpened_intChars (n : Int) : IsOpened (intChars n) := by
  cases n with
  | ofNat n => exact isOpened_natChars n
  | negSucc n => exact isOpened_cons _ rfl

theorem isOpened_digitsChars (x : Decimal.Digits) : IsOpened (digitsChars x) := by
  have hds := isOpened_natChars x.digits
  unfold digitsChars
  dsimp only
  split
  · exact (hds.append _).append _
  split
  · exact (hds.take _).append _
  split
  · exact isOpened_cons _ rfl
  · split
    · exact hds.append _
    · exact ((hds.take 0).append _).append _

theorem isOpened_magnitudeChars (a : Decimal.Magnitude) : IsOpened (magnitudeChars a) := by
  unfold magnitudeChars
  split
  · exact isOpened_cons _ rfl
  · exact isOpened_digitsChars a.shortest

theorem isOpened_floatChars (x : Decimal.Binary64) : IsOpened (floatChars x) := by
  unfold floatChars
  split
  · exact isOpened_cons _ rfl
  · exact isOpened_magnitudeChars x.magnitude

theorem isOpened_enclose (layout : Layout) (level : Nat) {opening : Char} (closing : Char)
    (items : List (List Char)) (h : opensValue opening = true) :
    IsOpened (layout.enclose level opening closing items) := by
  unfold Layout.enclose
  split
  · exact isOpened_cons _ h
  · exact isOpened_cons _ h

theorem isOpened_chars (layout : Layout) (v : Json) (level : Nat) :
    IsOpened (v.chars layout level) := by
  cases v with
  | null => exact isOpened_cons _ rfl
  | bool b => cases b <;> exact isOpened_cons _ rfl
  | number n =>
      cases n with
      | int n => exact isOpened_intChars n
      | float x => exact isOpened_floatChars x
  | string s => exact isOpened_cons _ rfl
  | array vs => exact isOpened_enclose layout level ']' _ rfl
  | object es => exact isOpened_enclose layout level '}' _ rfl

theorem print_ne {text : String} {c : Char} {rest : List Char} (layout : Layout) (v : Json)
    (htext : text.toList = c :: rest) (hc : opensValue c = false) : v.print layout ≠ text := by
  rintro rfl
  obtain ⟨d, ds, hds, hd⟩ := isOpened_chars layout v 0
  rw [print, String.toList_ofList, hds] at htext
  cases htext
  rw [hd] at hc
  cases hc

end Json

/-! ## The message area -/

theorem head?_toList_append {s : String} {c : Char} (h : s.toList.head? = some c) (t : String) :
    (s ++ t).toList.head? = some c := by
  rw [String.toList_append, List.head?_append, h, Option.some_or]

theorem head?_errorFragment (e : Error) : (errorFragment e).toList.head? = some '<' := by
  have hfirst : "<div class=\"message error\">".toList.head? = some '<' := by decide
  exact head?_toList_append (head?_toList_append hfirst e.message) "</div>"

/-! ## What the areas show -/

theorem foldlM_keep (cs written : List Char) :
    cs.foldlM (fun written c ↦ (.ok (c :: written) : Except Error (List Char))) written =
      .ok (cs.reverse ++ written) := by
  induction cs generalizing written with
  | nil => rfl
  | cons c cs ih =>
      rw [List.foldlM_cons, List.reverse_cons, List.append_assoc]
      exact ih (c :: written)

/-- Printing into memory does not fail, so the text of a value is shown and no error in its place. -/
theorem prettyText_eq (v : Json) : prettyText v = .ok v.pretty := by
  simp only [prettyText, Json.printTo, foldlM_keep, List.append_nil]
  exact congrArg (fun cs ↦ Except.ok (String.ofList cs)) (List.reverse_reverse _)

@[simp] theorem renderUpload_ok (body : Json) : renderUpload (.ok body) = body.pretty := by
  rw [renderUpload, prettyText_eq]

@[simp] theorem renderStatus_ok (body : Json) : renderStatus (.ok body) = body.pretty := by
  rw [renderStatus, prettyText_eq]

theorem quotedMessage_eq (e : Error) : quotedMessage e = (Json.string e.message).pretty := by
  rw [quotedMessage, prettyText_eq]

/-- No outcome of an upload looks like an upload under way. -/
theorem renderUpload_ne_uploadingMessage (reply : Reply) :
    renderUpload reply ≠ uploadingMessage := by
  cases reply with
  | ok body =>
      rw [renderUpload_ok]
      exact Json.print_ne _ body (c := 'U') rfl rfl
  | error e =>
      intro h
      have hhead := head?_errorFragment e
      rw [show errorFragment e = uploadingMessage from h] at hhead
      cases hhead

end DealForm
