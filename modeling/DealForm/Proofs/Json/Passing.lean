import DealForm.Proofs.Json.Containers
import DealForm.Proofs.Outcome

/-!
# Values that are passed over

A value that nobody asked for need only be well formed: it is passed over however deep it is and
whatever its scalars denote.
-/

namespace DealForm.Json

variable {t : Tree} {ts : List Tree} {ms : List (Option String × Tree)} {cs ds rest s : List Char}

/-- Values of at most so many characters are passed over. -/
def Skips (skip : List Char → Except Fault (List Char)) (n : Nat) : Prop :=
  ∀ ⦃t cs s rest⦄, Writes t cs → cs.length ≤ n → skipBlanks s = cs ++ rest →
    continuesNumber rest = false → skip s = .ok rest

variable {skip : List Char → Except Fault (List Char)} {n : Nat}

theorem Skips.itemsAfter (hskip : Skips skip n) {turns : Nat} (rest : List Char)
    (h : AfterItem ']' Writes ts ds) (hlength : ds.length ≤ n) (hturns : ts.length < turns) :
    skipItemsAfter skip turns (ds ++ rest) = .ok rest := by
  induction ts generalizing ds turns with
  | nil =>
      obtain ⟨k, rfl⟩ := Nat.exists_eq_add_one_of_ne_zero (Nat.ne_of_gt hturns)
      cases h with
      | @nil bs hbs =>
          have hs : skipBlanks (bs ++ [']'] ++ rest) = _ := skipBlanks_closing hbs rfl rest
          simp only [skipItemsAfter, hs]
  | cons t ts ih =>
      obtain ⟨k, rfl, hk⟩ := exists_turn_of_length_lt hturns
      cases h with
      | @cons _ _ bs bs' cs ds hbs hbs' ha has =>
          simp only [List.length_append, List.length_cons] at hlength
          have hitem := hskip ha (by omega) (skipBlanks_blanks_append_value hbs' ha (ds ++ rest))
            (has.ends rfl rest)
          have hafter := ih has (by omega) hk
          simp only [List.append_assoc, List.cons_append]
          rw [skipItemsAfter, skipBlanks_blanks_append hbs rfl]
          exact bind_eq_ok.mpr ⟨_, hitem, hafter⟩

theorem Skips.items (hskip : Skips skip n) (rest : List Char)
    (h : AfterBracket ']' Writes ts ds) (hlength : ds.length ≤ n) :
    skipItems skip (ds ++ rest) = .ok rest := by
  cases h with
  | @nil bs hbs =>
      have hs : skipBlanks (bs ++ [']'] ++ rest) = _ := skipBlanks_closing hbs rfl rest
      simp only [skipItems, hs]
  | @cons t ts bs cs ds hbs ha has =>
      simp only [List.length_append] at hlength
      have hread := hskip ha (by omega) (skipBlanks_of_isOpened (ds ++ rest) ha.isOpened)
        (has.ends rfl rest)
      have hafter := hskip.itemsAfter rest has (by omega) (has.length_lt_append rest)
      simp only [List.append_assoc, skipItems]
      rw [skipBlanks_blanks_append_value hbs ha]
      split
      · next heq => exact absurd heq (ha.isOpened.ne_cons rfl _)
      · next heq => exact absurd heq ha.isOpened.ne_nil
      · exact bind_eq_ok.mpr ⟨_, hread, hafter⟩

theorem Skips.keyed (hskip : Skips skip n) {m : Option String × Tree} {bs : List Char}
    (hbs : IsBlanks bs) (h : WritesMember Writes m cs) (hlength : cs.length ≤ n)
    (hrest : continuesNumber rest = false) : skipMember skip (bs ++ (cs ++ rest)) = .ok rest := by
  cases h with
  | @mk t ks bs' bs'' cs hkey hbs' hbs'' ht =>
      simp only [List.length_append, List.length_cons] at hlength
      have hread := hskip ht (by omega) (skipBlanks_blanks_append_value hbs'' ht rest) hrest
      simp only [List.append_assoc, List.cons_append, skipMember]
      rw [skipBlanks_blanks_append hbs rfl]
      exact bind_eq_ok.mpr ⟨_, hkey.skipLiteral _,
        bind_eq_ok.mpr ⟨_, colon_blanks_append hbs' _, hread⟩⟩

theorem Skips.membersAfter (hskip : Skips skip n) {turns : Nat} (rest : List Char)
    (h : AfterItem '}' (WritesMember Writes) ms ds) (hlength : ds.length ≤ n)
    (hturns : ms.length < turns) : skipMembersAfter skip turns (ds ++ rest) = .ok rest := by
  induction ms generalizing ds turns with
  | nil =>
      obtain ⟨k, rfl⟩ := Nat.exists_eq_add_one_of_ne_zero (Nat.ne_of_gt hturns)
      cases h with
      | @nil bs hbs =>
          have hs : skipBlanks (bs ++ ['}'] ++ rest) = _ := skipBlanks_closing hbs rfl rest
          simp only [skipMembersAfter, hs]
  | cons m ms ih =>
      obtain ⟨k, rfl, hk⟩ := exists_turn_of_length_lt hturns
      cases h with
      | @cons _ _ bs bs' cs ds hbs hbs' ha has =>
          simp only [List.length_append, List.length_cons] at hlength
          have hmember := hskip.keyed hbs' ha (by omega) (has.ends rfl rest)
          have hafter := ih has (by omega) hk
          simp only [List.append_assoc, List.cons_append]
          rw [skipMembersAfter, skipBlanks_blanks_append hbs rfl]
          exact bind_eq_ok.mpr ⟨_, hmember, hafter⟩

theorem Skips.members (hskip : Skips skip n) (rest : List Char)
    (h : AfterBracket '}' (WritesMember Writes) ms ds) (hlength : ds.length ≤ n) :
    skipMembers skip (ds ++ rest) = .ok rest := by
  cases h with
  | @nil bs hbs =>
      have hs : skipBlanks (bs ++ ['}'] ++ rest) = _ := skipBlanks_closing hbs rfl rest
      simp only [skipMembers, hs]
  | @cons m ms bs cs ds hbs ha has =>
      simp only [List.length_append] at hlength
      have hread := hskip.keyed isBlanks_nil ha (by omega) (has.ends rfl rest)
      have hafter := hskip.membersAfter rest has (by omega) (has.length_lt_append rest)
      obtain ⟨v, hv⟩ := ha.exists_quote (ds ++ rest)
      have hs : skipBlanks (bs ++ (cs ++ (ds ++ rest))) = '"' :: v := by
        rw [hv, skipBlanks_blanks_append hbs rfl]
      rw [List.nil_append, hv] at hread
      simp only [List.append_assoc, skipMembers, hs]
      exact bind_eq_ok.mpr ⟨_, hread, hafter⟩

theorem skips_skipWithin (n : Nat) : Skips (skipWithin n) n := by
  induction n with
  | zero =>
      intro t cs s rest h hlength
      obtain ⟨c, cs, rfl, -⟩ := h.isOpened
      cases hlength
  | succ n ih =>
      intro t cs s rest h hlength hs hrest
      cases h with
      | scalar h =>
          rw [skipWithin, hs]
          split
          · next heq => exact absurd heq (h.ne_opening (by simp) _)
          · next heq => exact absurd heq (h.ne_opening (by simp) _)
          · exact h.skipScalar hrest
      | array h =>
          have hitems := ih.items rest h (Nat.le_of_succ_le_succ hlength)
          simpa only [skipWithin, hs, List.cons_append] using hitems
      | object h =>
          have hmembers := ih.members rest h (Nat.le_of_succ_le_succ hlength)
          simpa only [skipWithin, hs, List.cons_append] using hmembers

/-- A value is passed over if it is well formed, however deep it is and whatever it denotes. -/
theorem Writes.skipValue (h : Writes t cs) (hs : skipBlanks s = cs ++ rest)
    (hrest : continuesNumber rest = false) : skipValue s = .ok rest := by
  refine skips_skipWithin s.length h ?_ hs hrest
  have hlength : (skipBlanks s).length ≤ s.length := (List.dropWhile_suffix _).length_le
  rw [hs, List.length_append] at hlength
  omega

end DealForm.Json
