import DealForm.Json.Skip
import DealForm.Proofs.Json.Grammar

/-!
# What strings denote

A well-formed string is read in one way whatever follows it: either it denotes a text and all of it
is taken, or it denotes none. Passing over it succeeds in both cases.
-/

namespace DealForm.Json

variable {α β : Type} {cs rest : List Char} {a : α} {d : Option α}

/-! ## Outcomes -/

/-- The computation gives what is denoted and leaves the rest, or fails if nothing is denoted. -/
def Gives (x : Except Fault (α × List Char)) (d : Option α) (rest : List Char) : Prop :=
  x.toOption = d.map (·, rest)

theorem Gives.ok (a : α) (rest : List Char) : Gives (.ok (a, rest)) (some a) rest := rfl

theorem Gives.error (f : Fault) (rest : List Char) :
    Gives (.error f : Except Fault (α × List Char)) none rest := rfl

theorem Gives.ok_or_error {x : Except Fault (α × List Char)} (h : Gives x d rest) :
    (∃ a, d = some a ∧ x = .ok (a, rest)) ∨ d = none ∧ ∃ f, x = .error f := by
  unfold Gives at h
  cases x with
  | error f =>
      cases d with
      | none => exact Or.inr ⟨rfl, f, rfl⟩
      | some a => cases h
  | ok p =>
      cases d with
      | none => cases h
      | some a =>
          cases h
          exact Or.inl ⟨a, rfl, rfl⟩

theorem Gives.eq_ok_iff {x : Except Fault (α × List Char)} {r : List Char} (h : Gives x d rest) :
    x = .ok (a, r) ↔ d = some a ∧ r = rest := by
  rcases h.ok_or_error with ⟨b, rfl, rfl⟩ | ⟨rfl, f, rfl⟩
  · grind
  · exact ⟨nofun, nofun⟩

theorem Gives.bind {x : Except Fault (α × List Char)}
    {f : α × List Char → Except Fault (β × List Char)} {g : α → Option β} {u : List Char}
    (hx : Gives x d u) (hf : ∀ a, Gives (f (a, u)) (g a) rest) :
    Gives (x >>= f) (d.bind g) rest := by
  rcases hx.ok_or_error with ⟨a, rfl, rfl⟩ | ⟨rfl, e, rfl⟩
  · exact hf a
  · rfl

theorem Gives.map {x : Except Fault (α × List Char)} (h : Gives x d rest) (f : α → β) :
    Gives (do let (a, rest) ← x; .ok (f a, rest)) (d.map f) rest := by
  rw [Option.map_eq_bind]
  exact h.bind fun a ↦ .ok (f a) rest

theorem Gives.denoted {x : Except Fault (α × List Char)} (h : Gives x d rest) :
    x.toOption.map Prod.fst = d := by
  rw [h, Option.map_map]
  cases d <;> rfl

theorem gives_of_eq_ok_iff {x : Except Fault (α × List Char)}
    (h : ∀ a r, x = .ok (a, r) ↔ d = some a ∧ r = rest) : Gives x d rest := by
  unfold Gives
  cases x with
  | ok p =>
      obtain ⟨rfl, rfl⟩ := (h p.1 p.2).mp rfl
      rfl
  | error f =>
      cases d with
      | none => rfl
      | some a => cases (h a rest).mpr ⟨rfl, rfl⟩

theorem Gives.mapError {x : Except Fault (α × List Char)} (h : Gives x d rest)
    (f : Fault → Fault) : Gives (x.mapError f) d rest := by
  cases x <;> exact h

/-! ## Strings -/

theorem exists_turn_of_length_lt {as : List α} {turns : Nat}
    (h : (a :: as).length < turns) : ∃ n, turns = n + 1 ∧ as.length < n := by
  obtain ⟨n, rfl⟩ := Nat.exists_eq_add_one_of_ne_zero (Nat.ne_of_gt (Nat.zero_lt_of_lt h))
  exact ⟨n, rfl, by simpa using h⟩

theorem hexEscape_of_isSome {a b c d : Char} (h : (hexQuad? a b c d).isSome) :
    ∃ n, ∀ s, hexEscape (a :: b :: c :: d :: s) = .ok (n, s) := by
  obtain ⟨n, hn⟩ := Option.isSome_iff_exists.mp h
  exact ⟨n, fun s ↦ by simp [hexEscape, hn]⟩

theorem skipEscape_of_mem {c : Char} (hc : c ∈ ['"', '\\', '/', 'b', 'f', 'n', 'r', 't']) :
    ∃ d, ∀ s, escape (c :: s) = .ok (d, s) ∧ skipEscape (c :: s) = .ok s := by
  simp only [List.mem_cons, List.not_mem_nil, or_false] at hc
  rcases hc with rfl | rfl | rfl | rfl | rfl | rfl | rfl | rfl <;>
    exact ⟨_, fun _ ↦ ⟨rfl, rfl⟩⟩

theorem StringText.skipString (h : StringText cs) {turns : Nat} (hturns : cs.length < turns) :
    skipString turns (cs ++ '"' :: rest) = .ok rest := by
  induction h generalizing turns with
  | nil =>
      obtain ⟨n, rfl⟩ := Nat.exists_eq_add_one_of_ne_zero (Nat.ne_of_gt hturns)
      rfl
  | plain hquote hslash hcontrol h ih =>
      obtain ⟨n, rfl, hn⟩ := exists_turn_of_length_lt hturns
      simp [Json.skipString, hquote, hslash, Nat.not_lt.mpr hcontrol, ih hn]
  | escape hc h ih =>
      obtain ⟨n, rfl, hn⟩ := exists_turn_of_length_lt hturns
      obtain ⟨d, hd⟩ := skipEscape_of_mem hc
      simp [Json.skipString, hd, bind, Except.bind, ih (Nat.lt_of_succ_lt hn)]
  | unicode hdigits h ih =>
      obtain ⟨n, rfl, hn⟩ := exists_turn_of_length_lt hturns
      obtain ⟨k, hk⟩ := hexEscape_of_isSome hdigits
      have hcs : _ < n := Nat.lt_of_le_of_lt (Nat.le_add_right _ 5) hn
      simp [Json.skipString, skipEscape, hk, bind, Except.bind, ih hcs]

def withChar (turns : Nat) (p : Char × List Char) : Except Fault (List Char × List Char) := do
  let (cs, rest) ← stringBody turns p.2
  .ok (p.1 :: cs, rest)

theorem stringBody_backslash (turns : Nat) (s : List Char) :
    stringBody (turns + 1) ('\\' :: s) = escape s >>= withChar turns := rfl

theorem stringBody_plain {c : Char} (hquote : c ≠ '"') (hslash : c ≠ '\\')
    (hcontrol : 0x20 ≤ c.toNat) (turns : Nat) (s : List Char) :
    stringBody (turns + 1) (c :: s) = withChar turns (c, s) := by
  rw [stringBody, if_neg hquote, if_neg hslash, if_neg (Nat.not_lt.mpr hcontrol)]
  rfl

theorem Gives.withChar {turns : Nat} {s : List Char} {d : Option (List Char)}
    (h : Gives (stringBody turns s) d rest) (c : Char) :
    Gives (withChar turns (c, s)) (d.map (c :: ·)) rest := by
  rw [Option.map_eq_bind]
  exact h.bind fun cs ↦ .ok (c :: cs) rest

def afterLeading (leading turns : Nat) (s : List Char) : Except Fault (List Char × List Char) :=
  trailingEscape leading s >>= withChar turns

/-- The reader takes the text up to the closing quote and what it makes of it depends on nothing
else, given enough turns. -/
def TakesString (read : Nat → List Char → Except Fault (List Char × List Char))
    (cs : List Char) : Prop :=
  ∃ d, ∀ turns rest, cs.length < turns → Gives (read turns (cs ++ '"' :: rest)) d rest

theorem takesString_nil : TakesString stringBody [] := by
  refine ⟨some [], fun turns rest hturns ↦ ?_⟩
  obtain ⟨n, rfl⟩ := Nat.exists_eq_add_one_of_ne_zero (Nat.ne_of_gt hturns)
  exact .ok [] rest

theorem TakesString.plain {c : Char} (hquote : c ≠ '"') (hslash : c ≠ '\\')
    (hcontrol : 0x20 ≤ c.toNat) (h : TakesString stringBody cs) :
    TakesString stringBody (c :: cs) := by
  obtain ⟨d, hd⟩ := h
  refine ⟨d.map (c :: ·), fun turns rest hturns ↦ ?_⟩
  obtain ⟨n, rfl, hn⟩ := exists_turn_of_length_lt hturns
  rw [List.cons_append, stringBody_plain hquote hslash hcontrol]
  exact (hd n rest hn).withChar c

theorem TakesString.escape {c : Char} (hc : c ∈ ['"', '\\', '/', 'b', 'f', 'n', 'r', 't'])
    (h : TakesString stringBody cs) : TakesString stringBody ('\\' :: c :: cs) := by
  obtain ⟨d, hd⟩ := h
  obtain ⟨e, he⟩ := skipEscape_of_mem hc
  refine ⟨d.map (e :: ·), fun turns rest hturns ↦ ?_⟩
  obtain ⟨n, rfl, hn⟩ := exists_turn_of_length_lt hturns
  rw [List.cons_append, List.cons_append, stringBody_backslash, (he _).1]
  exact (hd n rest (Nat.lt_of_succ_lt hn)).withChar e

theorem takesString_afterLeading_nil (leading : Nat) : TakesString (afterLeading leading) [] :=
  ⟨none, fun _ _ _ ↦ rfl⟩

theorem takesString_afterLeading_plain (leading : Nat) {c : Char} (hslash : c ≠ '\\')
    (cs : List Char) : TakesString (afterLeading leading) (c :: cs) := by
  refine ⟨none, fun _ rest _ ↦ ?_⟩
  rw [afterLeading, List.cons_append, trailingEscape.eq_def]
  split
  · exact .error _ rest
  · next heq => exact absurd (List.cons.inj heq).1 hslash
  · exact .error _ rest

theorem takesString_afterLeading_escape (leading : Nat) {c : Char} (hc : c ≠ 'u')
    (cs : List Char) : TakesString (afterLeading leading) ('\\' :: c :: cs) := by
  refine ⟨none, fun _ rest _ ↦ ?_⟩
  rw [afterLeading, List.cons_append, List.cons_append, trailingEscape]
  · exact .error _ rest
  · exact List.cons_ne_nil _ _
  · exact fun _ heq ↦ hc (List.cons.inj heq).1

section

variable {a b c d : Char} {n : Nat}

theorem escape_unicode (hn : ∀ s, hexEscape (a :: b :: c :: d :: s) = .ok (n, s))
    (s : List Char) : escape ('u' :: a :: b :: c :: d :: s) =
      if isTrailingSurrogate n then .error (.stop .loneSurrogate s)
      else if isLeadingSurrogate n then trailingEscape n s
      else .ok (Char.ofNat n, s) := by
  simp only [escape, unicodeEscape, hn, bind, Except.bind]

theorem trailingEscape_unicode (hn : ∀ s, hexEscape (a :: b :: c :: d :: s) = .ok (n, s))
    (leading : Nat) (s : List Char) :
    trailingEscape leading ('\\' :: 'u' :: a :: b :: c :: d :: s) =
      if isTrailingSurrogate n then .ok (pairedChar leading n, s)
      else .error (.stop .loneSurrogate s) := by
  simp only [trailingEscape, hn, bind, Except.bind]

theorem TakesString.unicode (hn : ∀ s, hexEscape (a :: b :: c :: d :: s) = .ok (n, s))
    (h : TakesString stringBody cs) (hpair : TakesString (afterLeading n) cs) :
    TakesString stringBody ('\\' :: 'u' :: a :: b :: c :: d :: cs) := by
  obtain ⟨e, he⟩ := h
  obtain ⟨p, hp⟩ := hpair
  refine ⟨if isTrailingSurrogate n then none
    else if isLeadingSurrogate n then p else e.map (Char.ofNat n :: ·), ?_⟩
  intro turns rest hturns
  obtain ⟨k, rfl, hk⟩ := exists_turn_of_length_lt hturns
  have hcs : cs.length < k := by
    simp only [List.length_cons] at hk
    omega
  simp only [List.cons_append, stringBody_backslash, escape_unicode hn]
  split
  · exact .error _ rest
  split
  · exact hp k rest hcs
  · exact (he k rest hcs).withChar _

theorem takesString_afterLeading_unicode
    (hn : ∀ s, hexEscape (a :: b :: c :: d :: s) = .ok (n, s)) (leading : Nat)
    (h : TakesString stringBody cs) :
    TakesString (afterLeading leading) ('\\' :: 'u' :: a :: b :: c :: d :: cs) := by
  obtain ⟨e, he⟩ := h
  refine ⟨if isTrailingSurrogate n then e.map (pairedChar leading n :: ·) else none, ?_⟩
  intro turns rest hturns
  have hcs : cs.length < turns := by
    simp only [List.length_cons] at hturns
    omega
  simp only [afterLeading, List.cons_append, trailingEscape_unicode hn]
  split
  · exact (he turns rest hcs).withChar _
  · exact .error _ rest

end

/-- What the text between two quotes denotes. The first half of a surrogate pair looks at what
comes after it, so the same is said of the text after one. -/
theorem StringText.takesString (h : StringText cs) :
    TakesString stringBody cs ∧ ∀ leading, TakesString (afterLeading leading) cs := by
  induction h with
  | nil => exact ⟨takesString_nil, takesString_afterLeading_nil⟩
  | @plain c cs hquote hslash hcontrol h ih =>
      exact ⟨ih.1.plain hquote hslash hcontrol,
        fun leading ↦ takesString_afterLeading_plain leading hslash cs⟩
  | @escape c cs hc h ih =>
      have hu : c ≠ 'u' := by
        rintro rfl
        exact absurd hc (by decide)
      exact ⟨ih.1.escape hc, fun leading ↦ takesString_afterLeading_escape leading hu cs⟩
  | unicode hdigits h ih =>
      obtain ⟨n, hn⟩ := hexEscape_of_isSome hdigits
      exact ⟨ih.1.unicode hn (ih.2 n),
        fun leading ↦ takesString_afterLeading_unicode hn leading ih.1⟩

end DealForm.Json
