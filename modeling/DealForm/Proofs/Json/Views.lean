import DealForm.Proofs.Json.Containers
import DealForm.Proofs.Json.Reading

/-!
# What readers make of a written value

Each reader takes exactly the text of one value, and what it makes of the value depends on the
tree only: not on blanks, not on the spelling of scalars, and not on what comes next.
-/

namespace DealForm.Json

variable {α σ : Type} {item : Reader α} {view : Tree → Option α} {t : Tree} {ts : List Tree}
  {cs rest s : List Char}

/-! ## The views of the readers -/

namespace Tree

def typed (type : ScalarType α) : Tree → Option α
  | scalar v => v.bind fun v ↦ (type.view v).toOption
  | _ => none

def listOf (item : Tree → Option α) : Tree → Option (List α)
  | array ts => ts.mapM item
  | _ => none

/-- The value that keeps the last of repeated entries, if at most so many containers are open at
once and all scalars and keys denote something. -/
def json? : Nat → Tree → Option Json
  | _, scalar v => v
  | 0, _ => none
  | budget + 1, array ts => (ts.mapM (json? budget)).map .array
  | budget + 1, object ms =>
    (ms.foldlM (addKeyed fun es key t ↦ do return Entries.insert key (← json? budget t) es)
      []).map .object

end Tree

theorem readsBy_typed (type : ScalarType α) : ReadsBy (typed type) (Tree.typed type) := by
  intro t cs s rest h hs hrest
  apply gives_of_eq_ok_iff
  intro a r
  rw [typed_eq_ok, hs]
  cases h with
  | scalar h =>
      simp only [(h.scalar hrest).eq_ok_iff, Tree.typed, Option.bind_eq_some_iff]
      have hview (v : Json) : (type.view v).toOption = some a ↔ type.view v = .ok a := by
        cases type.view v <;> simp [Except.toOption]
      simp only [hview]
      grind
  | array h =>
      constructor
      · rintro ⟨v, hv, -⟩
        cases hv
      · rintro ⟨⟨⟩, -⟩
  | object h =>
      constructor
      · rintro ⟨v, hv, -⟩
        cases hv
      · rintro ⟨⟨⟩, -⟩

theorem gives_refuse (expected : String) (s rest : List Char) :
    Gives (refuse expected s : Except Fault (α × List Char)) none rest := by
  cases h : (refuse expected s : Except Fault (α × List Char)) with
  | ok p => exact absurd h (refuse_ne_ok expected s p)
  | error f => exact .error f rest

theorem ReadsBy.listOf (hitem : ReadsBy item view) : ReadsBy (listOf item) (Tree.listOf view) := by
  intro t cs s rest h hs hrest
  cases h with
  | array h =>
      simp only [Json.listOf, hs, List.cons_append]
      exact hitem.items rest h
  | object h =>
      simp only [Json.listOf, hs, List.cons_append]
      exact gives_refuse _ _ rest
  | scalar h =>
      simp only [Json.listOf, hs]
      split
      · next heq => exact absurd heq (h.ne_opening (by simp) _)
      · exact .error _ rest
      · exact gives_refuse _ _ rest

/-- What follows a key is read as a value and then added. -/
theorem AddsMembers.readsMembersBy {read : Reader Json} {member : σ → String → Reader σ}
    {add : σ → String × Json → Option σ} {view : Tree → Option Json}
    (h : AddsMembers read member add) (hread : ReadsBy read view) :
    ReadsMembersBy member fun st key t ↦ (view t).bind fun v ↦ add st (key, v) := by
  intro st key t cs s u rest ht hcolon hu hrest
  apply gives_of_eq_ok_iff
  intro st' r
  simp only [h st key s st' r, hcolon, Option.bind_eq_some_iff]
  have hvalue (v : Json) : read u = .ok (v, r) ↔ view t = some v ∧ r = rest :=
    (hread ht hu hrest).eq_ok_iff
  grind

theorem ScalarText.value (h : ScalarText cs) (hs : skipBlanks s = cs ++ rest)
    (hrest : continuesNumber rest = false) (budget : Nat) :
    Gives (value budget s) (scalarOf cs) rest := by
  have hvalue : Json.value budget s = Json.scalar (cs ++ rest) := by
    cases budget with
    | zero =>
        rw [Json.value, hs]
        split
        · next heq => exact absurd heq (h.ne_opening (by simp) _)
        · next heq => exact absurd heq (h.ne_opening (by simp) _)
        · rfl
    | succ budget =>
        rw [Json.value, hs]
        split
        · next heq => exact absurd heq (h.ne_opening (by simp) _)
        · next heq => exact absurd heq (h.ne_opening (by simp) _)
        · rfl
  rw [hvalue]
  exact h.scalar hrest

theorem readsBy_value (budget : Nat) : ReadsBy (value budget) (Tree.json? budget) := by
  induction budget with
  | zero =>
      intro t cs s rest h hs hrest
      cases h with
      | scalar h => exact h.value hs hrest _
      | array h =>
          simp only [value, hs, List.cons_append]
          exact .error _ rest
      | object h =>
          simp only [value, hs, List.cons_append]
          exact .error _ rest
  | succ budget ih =>
      intro t cs s rest h hs hrest
      cases h with
      | scalar h => exact h.value hs hrest _
      | array h =>
          simp only [value, hs, List.cons_append]
          exact (ih.items rest h).map Json.array
      | object h =>
          have hmember := (addsMembers_anyMember (value budget)).readsMembersBy ih
          simp only [value, hs, List.cons_append]
          exact (hmember.members rest h).map Json.object

/-! ## Arrays of which only so many items are wanted -/

/-- The items of an array that are still to be read. -/
def Remains (isFirst : Bool) (ts : List Tree) (cs : List Char) : Prop :=
  if isFirst then AfterBracket ']' Writes ts cs else AfterItem ']' Writes ts cs

theorem Remains.closes {isFirst : Bool} (h : Remains isFirst [] cs) (rest : List Char) :
    skipBlanks (cs ++ rest) = ']' :: rest := by
  cases isFirst with
  | true =>
      cases h with
      | nil hbs => exact skipBlanks_closing hbs rfl rest
  | false =>
      cases h with
      | nil hbs => exact skipBlanks_closing hbs rfl rest

variable {isFirst : Bool}

theorem nextItem_nil (h : Remains isFirst [] cs) (rest : List Char) :
    nextItem item isFirst (cs ++ rest) = .ok (none, ']' :: rest) := by
  have hs : skipBlanks (cs ++ rest) = ']' :: rest := h.closes rest
  simp only [nextItem, hs]

theorem ReadsBy.nextItem (hitem : ReadsBy item view) (h : Remains isFirst (t :: ts) cs)
    (rest : List Char) : ∃ ds, Remains false ts ds ∧
      Gives (nextItem item isFirst (cs ++ rest)) ((view t).map some) (ds ++ rest) := by
  cases isFirst with
  | true =>
      cases h with
      | @cons _ _ bs cs ds hbs ha has =>
          refine ⟨ds, has, ?_⟩
          have hread := hitem ha (skipBlanks_of_isOpened (ds ++ rest) ha.isOpened)
            (has.ends rfl rest)
          have hs := skipBlanks_blanks_append_value hbs ha (ds ++ rest)
          simp only [List.append_assoc, Json.nextItem, hs, if_true]
          split
          · next heq => exact absurd heq (ha.isOpened.ne_cons rfl _)
          · next heq => exact absurd heq ha.isOpened.ne_nil
          · next heq =>
            rw [← heq]
            exact hread.map some
  | false =>
      cases h with
      | @cons _ _ bs bs' cs ds hbs hbs' ha has =>
          refine ⟨ds, has, ?_⟩
          have hread := hitem ha (skipBlanks_of_isOpened (ds ++ rest) ha.isOpened)
            (has.ends rfl rest)
          have hs : skipBlanks (bs ++ ',' :: (bs' ++ (cs ++ (ds ++ rest)))) = _ :=
            skipBlanks_blanks_append hbs rfl _
          have hu := skipBlanks_blanks_append_value hbs' ha (ds ++ rest)
          simp only [List.append_assoc, List.cons_append, Json.nextItem, hs, Bool.false_eq_true,
            if_false]
          split
          · next heq => cases heq
          · next heq => cases heq
          · next heq =>
            cases heq
            rw [if_pos rfl, hu]
            split
            · next heq => exact absurd heq (ha.isOpened.ne_cons rfl _)
            · next heq => exact absurd heq ha.isOpened.ne_nil
            · exact hread.map some

theorem endOfArray_nil (h : Remains isFirst [] cs) (rest : List Char) :
    endOfArray (cs ++ rest) = .ok rest := by
  have hs : skipBlanks (cs ++ rest) = ']' :: rest := h.closes rest
  simp only [endOfArray, hs]

theorem endOfArray_cons (h : Remains isFirst (t :: ts) cs) (rest r : List Char) :
    endOfArray (cs ++ rest) ≠ .ok r := by
  cases isFirst with
  | true =>
      cases h with
      | @cons _ _ bs cs ds hbs ha has =>
          have hs := skipBlanks_blanks_append_value hbs ha (ds ++ rest)
          simp only [List.append_assoc, endOfArray, hs]
          split
          · next heq => exact absurd heq (ha.isOpened.ne_cons rfl _)
          · next heq => exact absurd heq (ha.isOpened.ne_cons rfl _)
          · nofun
          · nofun
  | false =>
      cases h with
      | @cons _ _ bs bs' cs ds hbs hbs' ha has =>
          have hs : skipBlanks (bs ++ ',' :: (bs' ++ (cs ++ (ds ++ rest)))) = _ :=
            skipBlanks_blanks_append hbs rfl _
          have hu := skipBlanks_blanks_append_value hbs' ha (ds ++ rest)
          simp only [List.append_assoc, List.cons_append, endOfArray, hs, hu]
          split <;> nofun

end DealForm.Json
