import DealForm.Json.Decoder
import DealForm.Proofs.Outcome
import Mathlib.Data.List.Basic

/-!
# What the loops over items and members read

One turn of each loop, said once: what the text must hold for it to succeed, and what comes out.
-/

namespace DealForm.Json

variable {α σ : Type} {item : Reader α} {member : σ → String → Reader σ} {turns : Nat}
  {st st' : σ} {as : List α} {s rest : List Char}

/-! ## Items -/

def ReadsItem (item : Reader α) (s : List Char) (a : α) (rest : List Char) : Prop :=
  skipBlanks s ≠ [] ∧ (∀ t, skipBlanks s ≠ ']' :: t) ∧ item (skipBlanks s) = .ok (a, rest)

theorem itemsAfter_eq_ok : itemsAfter item (turns + 1) s = .ok (as, rest) ↔
    (as = [] ∧ skipBlanks s = ']' :: rest) ∨
      ∃ t u a as', skipBlanks s = ',' :: t ∧ ReadsItem item t a u ∧
        itemsAfter item turns u = .ok (as', rest) ∧ as = a :: as' := by
  rw [itemsAfter.eq_def]
  dsimp only
  split
  · grind
  · unfold ReadsItem
    split
    · grind
    · grind
    · simp only [bind_eq_ok]
      grind
  · grind
  · grind

theorem items_eq_ok : items item s = .ok (as, rest) ↔
    (as = [] ∧ skipBlanks s = ']' :: rest) ∨
      ∃ u a as', ReadsItem item s a u ∧
        itemsAfter item (u.length + 1) u = .ok (as', rest) ∧ as = a :: as' := by
  unfold items ReadsItem
  split
  · grind
  · grind
  · simp only [bind_eq_ok]
    grind

theorem itemsAfter_forall {P : α → Prop} (hitem : ∀ s a rest, item s = .ok (a, rest) → P a)
    (h : itemsAfter item turns s = .ok (as, rest)) : ∀ a ∈ as, P a := by
  induction turns generalizing s as with
  | zero => cases h
  | succ turns ih =>
      rcases itemsAfter_eq_ok.mp h with ⟨rfl, -⟩ | ⟨t, u, a, as', -, hread, hafter, rfl⟩
      · rintro a ⟨⟩
      · exact List.forall_mem_cons.mpr ⟨hitem _ a u hread.2.2, ih hafter⟩

/-- What holds of every item that can be read holds of all items of an array. -/
theorem items_forall {P : α → Prop} (hitem : ∀ s a rest, item s = .ok (a, rest) → P a)
    (h : items item s = .ok (as, rest)) : ∀ a ∈ as, P a := by
  rcases items_eq_ok.mp h with ⟨rfl, -⟩ | ⟨u, a, as', hread, hafter, rfl⟩
  · rintro a ⟨⟩
  · exact List.forall_mem_cons.mpr ⟨hitem _ a u hread.2.2, itemsAfter_forall hitem hafter⟩

/-! ## Members -/

def ReadsMember (member : σ → String → Reader σ) (st : σ) (s : List Char) (st' : σ)
    (rest : List Char) : Prop :=
  ∃ t key u, skipBlanks s = '"' :: t ∧ stringLiteral t = .ok (key, u) ∧
    member st key u = .ok (st', rest)

theorem membersAfter_eq_ok : membersAfter member (turns + 1) st s = .ok (st', rest) ↔
    (st' = st ∧ skipBlanks s = '}' :: rest) ∨
      ∃ t mid u, skipBlanks s = ',' :: t ∧ ReadsMember member st t mid u ∧
        membersAfter member turns mid u = .ok (st', rest) := by
  rw [membersAfter.eq_def]
  dsimp only
  split
  · grind
  · unfold ReadsMember
    split
    · simp only [bind_eq_ok]
      grind
    · grind
    · grind
    · grind
  · grind
  · grind

theorem members_eq_ok : members member st s = .ok (st', rest) ↔
    (st' = st ∧ skipBlanks s = '}' :: rest) ∨
      ∃ mid u, ReadsMember member st s mid u ∧
        membersAfter member (u.length + 1) mid u = .ok (st', rest) := by
  unfold members ReadsMember
  split
  · grind
  · simp only [bind_eq_ok]
    grind
  · grind
  · grind

theorem membersAfter_invariant {P : σ → Prop}
    (hmember : ∀ st key s st' rest, P st → member st key s = .ok (st', rest) → P st')
    (h : membersAfter member turns st s = .ok (st', rest)) (hst : P st) : P st' := by
  induction turns generalizing st s with
  | zero => cases h
  | succ turns ih =>
      rcases membersAfter_eq_ok.mp h with ⟨rfl, -⟩ | ⟨t, mid, u, -, hread, hafter⟩
      · exact hst
      · obtain ⟨_, key, w, -, -, hmid⟩ := hread
        exact ih hafter (hmember st key w mid u hst hmid)

/-- What every member keeps, all members keep. -/
theorem members_invariant {P : σ → Prop}
    (hmember : ∀ st key s st' rest, P st → member st key s = .ok (st', rest) → P st')
    (h : members member st s = .ok (st', rest)) (hst : P st) : P st' := by
  rcases members_eq_ok.mp h with ⟨rfl, -⟩ | ⟨mid, u, hread, hafter⟩
  · exact hst
  · obtain ⟨_, key, w, -, -, hmid⟩ := hread
    exact membersAfter_invariant hmember hafter (hmember st key w mid u hst hmid)

end DealForm.Json
