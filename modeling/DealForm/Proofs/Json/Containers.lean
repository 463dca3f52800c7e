import DealForm.Proofs.Json.Scalars

/-!
# Reading written arrays and objects

Where the items of an array are read by what their trees say, so is the array; and where members
are added to a state by what their keys and trees say, so are the members of an object. Neither
depends on the blanks in between or on what comes next.
-/

namespace DealForm.Json

variable {α σ : Type} {item : Reader α} {view : Tree → Option α} {t : Tree} {ts : List Tree}
  {cs ds rest s u : List Char} {d : Option α}

/-! ## How values begin and end -/

theorem NumberText.exists_digit (h : NumberText cs) :
    ∃ c ds, cs = c :: ds ∧ c.isDigit = true := by
  have hstart := h.startsWithDigit []
  rw [List.append_nil] at hstart
  cases cs with
  | nil => cases hstart
  | cons c cs => exact ⟨c, cs, rfl, hstart⟩

theorem Writes.isOpened (h : Writes t cs) : IsOpened cs := by
  cases h with
  | scalar h =>
      cases h with
      | positive h =>
          obtain ⟨c, ds, rfl, hc⟩ := h.exists_digit
          exact isOpened_cons ds (by simp [opensValue, hc])
      | _ => exact isOpened_cons _ rfl
  | array h => exact isOpened_cons _ rfl
  | object h => exact isOpened_cons _ rfl

/-- A scalar does not begin like a container. -/
theorem ScalarText.ne_opening (h : ScalarText cs) {c : Char} (hc : c ∈ ['[', '{'])
    (s : List Char) : cs ++ rest ≠ c :: s := by
  simp only [List.mem_cons, List.not_mem_nil, or_false] at hc
  cases h with
  | positive h =>
      obtain ⟨d, ds, rfl, hd⟩ := h.exists_digit
      rintro ⟨⟩
      rcases hc with rfl | rfl <;> cases hd
  | _ =>
      rintro ⟨⟩
      simp at hc

theorem WritesMember.exists_quote {writes : Tree → List Char → Prop}
    {m : Option String × Tree} (h : WritesMember writes m cs) (rest : List Char) :
    ∃ v, cs ++ rest = '"' :: v := by
  cases h
  exact ⟨_, rfl⟩

theorem continuesNumber_of_isBlank {c : Char} (h : isBlank c = true) (s : List Char) :
    continuesNumber (c :: s) = false := by
  simp only [isBlank, Bool.or_eq_true, beq_iff_eq] at h
  rcases h with ((rfl | rfl) | rfl) | rfl <;> rfl

theorem continuesNumber_blanks_append (hbs : IsBlanks ds) (hrest : continuesNumber rest = false) :
    continuesNumber (ds ++ rest) = false := by
  cases ds with
  | nil => exact hrest
  | cons c ds => exact continuesNumber_of_isBlank (hbs c List.mem_cons_self) _

theorem AfterItem.ends {closing : Char} {writes : α → List Char → Prop} {as : List α}
    (h : AfterItem closing writes as ds) (hclosing : continuesNumber [closing] = false)
    (rest : List Char) : continuesNumber (ds ++ rest) = false := by
  cases h with
  | nil hbs =>
      rw [List.append_assoc]
      exact continuesNumber_blanks_append hbs hclosing
  | cons hbs _ _ _ =>
      rw [List.append_assoc]
      exact continuesNumber_blanks_append hbs rfl

theorem AfterItem.length_lt {closing : Char} {writes : α → List Char → Prop} {as : List α}
    (h : AfterItem closing writes as ds) : as.length < ds.length := by
  induction h with
  | nil => simp
  | cons hbs hbs' ha has ih =>
      simp only [List.length_cons, List.length_append]
      omega

theorem AfterItem.length_lt_append {closing : Char} {writes : α → List Char → Prop} {as : List α}
    (h : AfterItem closing writes as ds) (rest : List Char) :
    as.length < (ds ++ rest).length + 1 := by
  have hlength := h.length_lt
  rw [List.length_append]
  omega

/-- What is left of a text when the blanks before a character are passed over. -/
theorem skipBlanks_blanks_append {bs : List Char} (hbs : IsBlanks bs) {c : Char}
    (hc : isBlank c = false) (s : List Char) : skipBlanks (bs ++ c :: s) = c :: s := by
  rw [skipBlanks_append _ hbs, skipBlanks_cons s hc]

theorem skipBlanks_closing {bs : List Char} (hbs : IsBlanks bs) {closing : Char}
    (hclosing : isBlank closing = false) (s : List Char) :
    skipBlanks (bs ++ [closing] ++ s) = closing :: s := by
  rw [List.append_assoc]
  exact skipBlanks_blanks_append hbs hclosing s

theorem skipBlanks_blanks_append_value {bs : List Char} (hbs : IsBlanks bs) (h : Writes t cs)
    (s : List Char) : skipBlanks (bs ++ (cs ++ s)) = cs ++ s := by
  rw [skipBlanks_append _ hbs, skipBlanks_of_isOpened s h.isOpened]

theorem IsOpened.ne_nil (h : IsOpened cs) : cs ++ rest ≠ [] := by
  obtain ⟨c, cs, rfl, -⟩ := h
  simp

theorem IsOpened.ne_cons (h : IsOpened cs) {c : Char} (hc : opensValue c = false)
    (s : List Char) : cs ++ rest ≠ c :: s := by
  obtain ⟨d, cs, rfl, hd⟩ := h
  rintro ⟨⟩
  rw [hc] at hd
  cases hd

/-! ## Readers and their views -/

/-- The reader takes the text of one value and makes of it what the view makes of its tree. -/
def ReadsBy (read : Reader α) (view : Tree → Option α) : Prop :=
  ∀ ⦃t cs s rest⦄, Writes t cs → skipBlanks s = cs ++ rest → continuesNumber rest = false →
    Gives (read s) (view t) rest

/-! ### Arrays -/

theorem itemsAfter_of_isOpened {turns : Nat} (hs : skipBlanks s = ',' :: u)
    (hu : skipBlanks u = cs ++ rest) (hcs : IsOpened cs) :
    itemsAfter item (turns + 1) s = (do
      let (a, rest) ← item (cs ++ rest)
      let (as, rest) ← itemsAfter item turns rest
      .ok (a :: as, rest)) := by
  simp only [itemsAfter, hs, hu]
  split
  · next heq => exact absurd heq (hcs.ne_cons rfl _)
  · next heq => exact absurd heq hcs.ne_nil
  · rfl

theorem items_of_isOpened (hs : skipBlanks s = cs ++ rest) (hcs : IsOpened cs) :
    items item s = (do
      let (a, rest) ← item (cs ++ rest)
      let (as, rest) ← itemsAfter item (rest.length + 1) rest
      .ok (a :: as, rest)) := by
  simp only [items, hs]
  split
  · next heq => exact absurd heq (hcs.ne_cons rfl _)
  · next heq => exact absurd heq hcs.ne_nil
  · rfl

theorem ReadsBy.itemsAfter (hitem : ReadsBy item view) {turns : Nat} (rest : List Char)
    (h : AfterItem ']' Writes ts ds) (hturns : ts.length < turns) :
    Gives (itemsAfter item turns (ds ++ rest)) (ts.mapM view) rest := by
  induction ts generalizing ds turns with
  | nil =>
      obtain ⟨n, rfl⟩ := Nat.exists_eq_add_one_of_ne_zero (Nat.ne_of_gt hturns)
      cases h with
      | nil hbs =>
          rw [Json.itemsAfter, skipBlanks_closing hbs rfl]
          exact .ok [] rest
  | cons t ts ih =>
      obtain ⟨n, rfl, hn⟩ := exists_turn_of_length_lt hturns
      cases h with
      | @cons _ _ bs bs' cs ds hbs hbs' ha has =>
          have hafter := ih has hn
          have hread := hitem ha (skipBlanks_of_isOpened (ds ++ rest) ha.isOpened)
            (has.ends rfl rest)
          simp only [List.append_assoc, List.cons_append]
          rw [itemsAfter_of_isOpened (skipBlanks_blanks_append hbs rfl _)
            (skipBlanks_blanks_append_value hbs' ha _) ha.isOpened, List.mapM_cons]
          exact hread.bind fun a ↦ hafter.bind fun as ↦ .ok (a :: as) rest

theorem ReadsBy.items (hitem : ReadsBy item view) (rest : List Char)
    (h : AfterBracket ']' Writes ts ds) : Gives (items item (ds ++ rest)) (ts.mapM view) rest := by
  cases h with
  | nil hbs =>
      rw [Json.items, skipBlanks_closing hbs rfl]
      exact .ok [] rest
  | @cons t ts bs cs ds hbs ha has =>
      have hread := hitem ha (skipBlanks_of_isOpened (ds ++ rest) ha.isOpened)
        (has.ends rfl rest)
      simp only [List.append_assoc]
      rw [items_of_isOpened (skipBlanks_blanks_append_value hbs ha _) ha.isOpened, List.mapM_cons]
      exact hread.bind fun a ↦ (hitem.itemsAfter rest has (has.length_lt_append rest)).bind fun as ↦
        .ok (a :: as) rest

/-! ### Objects -/

/-- What follows a key is a value, and the member adds to the state what its key and its value
make of it. -/
def ReadsMembersBy (member : σ → String → Reader σ) (add : σ → String → Tree → Option σ) :
    Prop :=
  ∀ ⦃st key t cs s u rest⦄, Writes t cs → colon s = .ok u → skipBlanks u = cs ++ rest →
    continuesNumber rest = false → Gives (member st key s) (add st key t) rest

/-- Adds a member, whose key must denote a text. -/
def addKeyed (add : σ → String → Tree → Option σ) (st : σ) (m : Option String × Tree) :
    Option σ :=
  m.1.bind fun key ↦ add st key m.2

variable {member : σ → String → Reader σ} {add : σ → String → Tree → Option σ} {st : σ}
  {ms : List (Option String × Tree)}

theorem colon_blanks_append {bs : List Char} (hbs : IsBlanks bs) (s : List Char) :
    colon (bs ++ ':' :: s) = .ok s := by
  have hcolon : skipBlanks (bs ++ ':' :: s) = ':' :: s := skipBlanks_blanks_append hbs rfl s
  simp only [colon, hcolon]

theorem ReadsMembersBy.keyed (hmember : ReadsMembersBy member add) (st : σ)
    {m : Option String × Tree} (h : WritesMember Writes m cs)
    (hrest : continuesNumber rest = false) : ∃ v, cs ++ rest = '"' :: v ∧
      Gives (do let (key, rest) ← stringLiteral v; member st key rest)
        (addKeyed add st m) rest := by
  cases h with
  | @mk t ks bs bs' cs hkey hbs hbs' ht =>
      refine ⟨_, List.cons_append, ?_⟩
      simp only [List.append_assoc, List.cons_append]
      exact (hkey.stringLiteral _).bind fun key ↦ hmember ht (colon_blanks_append hbs _)
        (skipBlanks_blanks_append_value hbs' ht rest) hrest

theorem ReadsMembersBy.membersAfter (hmember : ReadsMembersBy member add) {turns : Nat}
    (rest : List Char) (h : AfterItem '}' (WritesMember Writes) ms ds)
    (hturns : ms.length < turns) :
    Gives (membersAfter member turns st (ds ++ rest)) (ms.foldlM (addKeyed add) st) rest := by
  induction ms generalizing ds turns st with
  | nil =>
      obtain ⟨n, rfl⟩ := Nat.exists_eq_add_one_of_ne_zero (Nat.ne_of_gt hturns)
      cases h with
      | nil hbs =>
          rw [Json.membersAfter, skipBlanks_closing hbs rfl]
          exact .ok st rest
  | cons m ms ih =>
      obtain ⟨n, rfl, hn⟩ := exists_turn_of_length_lt hturns
      cases h with
      | @cons _ _ bs bs' cs ds hbs hbs' ha has =>
          obtain ⟨v, hv, hread⟩ := hmember.keyed st ha (has.ends rfl rest)
          have hu : skipBlanks (bs' ++ (cs ++ (ds ++ rest))) = '"' :: v := by
            rw [hv, skipBlanks_blanks_append hbs' rfl]
          simp only [List.append_assoc, List.cons_append]
          rw [Json.membersAfter, skipBlanks_blanks_append hbs rfl]
          simp only [hu, List.foldlM_cons]
          have hmembers : Gives
              ((do let (key, rest) ← stringLiteral v; member st key rest) >>=
                fun p ↦ Json.membersAfter member n p.1 p.2) _ rest :=
            hread.bind fun st ↦ ih has hn
          rw [bind_assoc] at hmembers
          exact hmembers

theorem ReadsMembersBy.members (hmember : ReadsMembersBy member add) (rest : List Char)
    (h : AfterBracket '}' (WritesMember Writes) ms ds) :
    Gives (members member st (ds ++ rest)) (ms.foldlM (addKeyed add) st) rest := by
  cases h with
  | nil hbs =>
      rw [Json.members, skipBlanks_closing hbs rfl]
      exact .ok st rest
  | @cons m ms bs cs ds hbs ha has =>
      obtain ⟨v, hv, hread⟩ := hmember.keyed st ha (has.ends rfl rest)
      have hs : skipBlanks (bs ++ (cs ++ (ds ++ rest))) = '"' :: v := by
        rw [hv, skipBlanks_blanks_append hbs rfl]
      simp only [List.append_assoc, Json.members, hs, List.foldlM_cons]
      have hmembers : Gives
          ((do let (key, rest) ← stringLiteral v; member st key rest) >>=
            fun p ↦ Json.membersAfter member (p.2.length + 1) p.1 p.2) _ rest :=
        hread.bind fun st ↦ hmember.membersAfter rest has (has.length_lt_append rest)
      rw [bind_assoc] at hmembers
      exact hmembers

/-! ### Every key has a text -/

theorem isBlanks_nil : IsBlanks [] := nofun

theorem StringText.append (h : StringText cs) (h' : StringText ds) : StringText (cs ++ ds) := by
  induction h with
  | nil => exact h'
  | plain hquote hslash hcontrol _ ih => exact .plain hquote hslash hcontrol ih
  | escape hc _ ih => exact .escape hc ih
  | unicode hdigits _ ih => exact .unicode hdigits ih

theorem stringText_escapeChar (c : Char) : StringText (escapeChar c) := by
  unfold escapeChar
  iterate 7
    split
    · exact .escape (by simp) .nil
  split
  · next hcontrol =>
    apply StringText.unicode _ .nil
    rw [hexQuad?_of_lt c.toNat hcontrol]
    rfl
  · next hquote hslash _ _ _ _ _ hcontrol =>
    exact .plain hquote hslash (Nat.not_lt.mp hcontrol) .nil

theorem stringText_flatMap (cs : List Char) : StringText (cs.flatMap escapeChar) := by
  induction cs with
  | nil => exact .nil
  | cons c cs ih =>
      rw [List.flatMap_cons]
      exact (stringText_escapeChar c).append ih

theorem keyOf_flatMap (key : String) : keyOf (key.toList.flatMap escapeChar) = some key := by
  rw [keyOf, stringLiteral_stringChars]
  rfl

theorem writesMember_key (key : String) (ht : Writes t cs) : WritesMember Writes (some key, t)
    ('"' :: (key.toList.flatMap escapeChar ++ '"' :: ':' :: cs)) := by
  rw [← keyOf_flatMap key]
  exact .mk (stringText_flatMap key.toList) isBlanks_nil isBlanks_nil ht

end DealForm.Json
