import DealForm.Proofs.File.Path

/-!
# Parents of paths

A parent is written as its path begins, and so its names are the first ones of the path. Dots may
stand between them and the last name, and behind it; behind a parent no dots are left.
-/

namespace DealForm.Path

variable {xs : Bytes} {part last : Bytes} {base p : Path}

/-! ## Parts put together -/

theorem joinSlashes_singleton (part : Bytes) : joinSlashes [part] = part := by
  simp [joinSlashes, List.intercalate]

theorem joinSlashes_cons_cons (part next : Bytes) (parts : List Bytes) :
    joinSlashes (part :: next :: parts) = part ++ slash :: joinSlashes (next :: parts) := by
  simp [joinSlashes, List.intercalate]

theorem splitSlashes_joinSlashes {parts : List Bytes} (hne : parts ≠ [])
    (h : ∀ part ∈ parts, slash ∉ part) : splitSlashes (joinSlashes parts) = parts := by
  match parts with
  | [part] =>
      rw [joinSlashes_singleton, splitSlashes_of_notMem (h part List.mem_cons_self)]
  | part :: next :: parts =>
      have hrest := splitSlashes_joinSlashes (List.cons_ne_nil next parts) fun q hq ↦
        h q (List.mem_cons_of_mem part hq)
      rw [joinSlashes_cons_cons, splitSlashes_append_slash, hrest,
        splitSlashes_of_notMem (h part List.mem_cons_self), List.singleton_append]

theorem filter_splitSlashes_joinSlashes {parts : List Bytes} (h : ∀ part ∈ parts, slash ∉ part) :
    (splitSlashes (joinSlashes parts)).filter (!·.isEmpty) = parts.filter (!·.isEmpty) := by
  by_cases hne : parts = []
  · rw [hne]
    rfl
  · rw [splitSlashes_joinSlashes hne h]

theorem joinSlashes_cons_byte (b : UInt8) (part : Bytes) (parts : List Bytes) :
    joinSlashes ((b :: part) :: parts) = b :: joinSlashes (part :: parts) := by
  cases parts with
  | nil => simp [joinSlashes, List.intercalate]
  | cons next parts => simp [joinSlashes_cons_cons]

theorem joinSlashes_splitSlashes (xs : Bytes) : joinSlashes (splitSlashes xs) = xs := by
  induction xs with
  | nil => rfl
  | cons b xs ih =>
      obtain ⟨part, parts, hparts⟩ := List.exists_cons_of_ne_nil (splitSlashes_ne_nil xs)
      by_cases hb : b = slash
      · rw [hb, splitSlashes_slash, hparts, joinSlashes_cons_cons, ← hparts, ih, List.nil_append]
      · rw [splitSlashes_cons hb hparts, joinSlashes_cons_byte, ← hparts, ih]

theorem joinSlashes_isPrefix {parts front : List Bytes} (h : parts <+: front) :
    joinSlashes parts <+: joinSlashes front := by
  obtain ⟨rest, rfl⟩ := h
  induction parts with
  | nil => exact List.nil_prefix
  | cons part parts ih =>
      cases parts with
      | nil =>
          rw [joinSlashes_singleton]
          cases rest with
          | nil => exact (joinSlashes_singleton part).symm ▸ List.prefix_rfl
          | cons next rest =>
              rw [List.singleton_append, joinSlashes_cons_cons]
              exact List.prefix_append part _
      | cons next parts =>
          rw [List.cons_append, List.cons_append, joinSlashes_cons_cons, joinSlashes_cons_cons]
          exact (List.prefix_append_right_inj part).mpr (List.cons_prefix_cons.mpr ⟨rfl, ih⟩)

/-! ## Idle parts -/

/-- The idle parts at the end are split off. -/
theorem exists_idle (parts : List Bytes) :
    ∃ idle, parts = (parts.reverse.dropWhile isIdle).reverse ++ idle ∧
      ∀ part ∈ idle, isIdle part = true := by
  refine ⟨(parts.reverse.takeWhile isIdle).reverse, ?_, fun part hpart ↦ ?_⟩
  · rw [← List.reverse_append, List.takeWhile_append_dropWhile, List.reverse_reverse]
  · exact List.all_eq_true.mp List.all_takeWhile part (List.mem_reverse.mp hpart)

theorem isIdle_of_head?_dropWhile {parts : List Bytes}
    (h : part ∈ (parts.dropWhile isIdle).head?) : isIdle part = false := by
  have hhead := List.head?_dropWhile_not isIdle parts
  rw [Option.mem_def.mp h] at hhead
  simpa using hhead

/-- In front of the last part that is not idle more idle parts are split off. -/
theorem exists_idle_of_dropWhile {parts before : List Bytes}
    (h : parts.reverse.dropWhile isIdle = last :: before) :
    ∃ gap idle, parts = (before.dropWhile isIdle).reverse ++ gap ++ last :: idle ∧ last ≠ [] ∧
      (∀ part ∈ gap, isIdle part = true) ∧ ∀ part ∈ idle, isIdle part = true := by
  obtain ⟨idle, hparts, hidle⟩ := exists_idle parts
  obtain ⟨gap, hbefore, hgap⟩ := exists_idle before.reverse
  rw [List.reverse_reverse] at hbefore
  rw [h, List.reverse_cons, List.append_assoc, List.singleton_append, hbefore] at hparts
  have hlast : isIdle last = false := isIdle_of_head?_dropWhile (by rw [h]; rfl)
  refine ⟨gap, idle, hparts, ?_, hgap, hidle⟩
  rintro rfl
  cases hlast

/-- Idle parts name nothing but dots. -/
theorem exists_filter_idle {idle : List Bytes} (h : ∀ part ∈ idle, isIdle part = true) :
    ∃ n, idle.filter (!·.isEmpty) = List.replicate n dot := by
  refine ⟨_, List.eq_replicate_of_mem fun part hpart ↦ ?_⟩
  obtain ⟨hmem, hne⟩ := List.mem_filter.mp hpart
  have hidle := h part hmem
  simp_all [isIdle]

/-! ## The parent of a path -/

/-- A path is cut into its parent and what follows: a part, with idle ones before and behind it.
The parent does not end in an idle part, unless it has no other. -/
structure Cut (p base : Path) where
  lead : Bytes
  rest : Bytes
  parts : List Bytes
  gap : List Bytes
  last : Bytes
  idle : List Bytes
  lead_eq : lead = [slash] ∨ (lead = [] ∧ p.isAbsolute = false)
  bytes_eq : p.bytes = lead ++ rest
  splitSlashes_eq : splitSlashes rest = parts ++ gap ++ last :: idle
  base_eq : base.bytes = lead ++ joinSlashes parts
  last_ne : last ≠ []
  gap_idle : ∀ part ∈ gap, isIdle part = true
  idle_idle : ∀ part ∈ idle, isIdle part = true
  trimmed : ∀ part ∈ parts.getLast?, isIdle part = false ∨ (lead = [] ∧ parts = [part])

theorem nonempty_cut (h : p.parent? = some base) : Nonempty (Cut p base) := by
  cases habsolute : p.isAbsolute with
  | true =>
      obtain ⟨rest, hrest⟩ := List.head?_eq_some_iff.mp (beq_iff_eq.mp habsolute)
      have hreversed : p.reversedParts = (splitSlashes rest).reverse.dropWhile isIdle := by
        rw [reversedParts, if_pos habsolute, hrest, List.drop_one, List.tail_cons]
      rw [parent?, hreversed, habsolute] at h
      split at h
      · cases h
      · next last before hparts =>
        cases h
        obtain ⟨gap, idle, hsplit, hlast, hgap, hidle⟩ := exists_idle_of_dropWhile hparts
        refine ⟨⟨[slash], rest, (before.dropWhile isIdle).reverse, gap, last, idle, Or.inl rfl,
          hrest, hsplit, rfl, hlast, hgap, hidle, fun part hpart ↦ Or.inl ?_⟩⟩
        rw [List.getLast?_reverse] at hpart
        exact isIdle_of_head?_dropWhile hpart
  | false =>
      obtain ⟨first, rest, hsplit⟩ := List.exists_cons_of_ne_nil (splitSlashes_ne_nil p.bytes)
      rw [parent?, reversedParts, habsolute, if_neg Bool.false_ne_true, hsplit] at h
      cases htail : rest.reverse.dropWhile isIdle with
      | nil =>
          simp only [htail, List.isEmpty_nil, Bool.true_and, List.nil_append, Bool.false_eq_true,
            ↓reduceIte] at h
          split_ifs at h with hfirst
          cases h
          obtain ⟨idle, hrest, hidle⟩ := exists_idle rest
          rw [htail] at hrest
          exact ⟨⟨[], p.bytes, [], [], first, idle, Or.inr ⟨rfl, habsolute⟩, rfl,
            by rw [hsplit, hrest]; rfl, rfl, by simpa using hfirst, List.forall_mem_nil _, hidle,
            by simp⟩⟩
      | cons last tail =>
          simp only [htail, List.isEmpty_cons, Bool.false_and, Bool.false_eq_true, ↓reduceIte,
            List.cons_append] at h
          cases h
          obtain ⟨gap, idle, hrest, hlast, hgap, hidle⟩ := exists_idle_of_dropWhile htail
          refine ⟨⟨[], p.bytes, first :: (tail.dropWhile isIdle).reverse, gap, last, idle,
            Or.inr ⟨rfl, habsolute⟩, rfl, by rw [hsplit, hrest]; rfl, by simp [dropIdle], hlast,
            hgap, hidle, fun part hpart ↦ ?_⟩⟩
          cases hdrop : tail.dropWhile isIdle with
          | nil =>
              rw [hdrop] at hpart
              exact Or.inr ⟨rfl, by simpa using hpart⟩
          | cons back front =>
              rw [List.getLast?_cons_of_ne_nil, List.getLast?_reverse] at hpart
              · exact Or.inl (isIdle_of_head?_dropWhile hpart)
              · simp [hdrop]

theorem filter_splitSlashes_lead {lead : Bytes} (h : lead = [slash] ∨ lead = []) (xs : Bytes) :
    (splitSlashes (lead ++ xs)).filter (!·.isEmpty) = (splitSlashes xs).filter (!·.isEmpty) := by
  rcases h with rfl | rfl
  · rw [List.singleton_append, splitSlashes_slash, List.filter_cons_of_neg (by simp)]
  · rfl

namespace Cut

variable (c : Cut p base)

include c

/-- A parent is written as its path begins. -/
theorem bytes_isPrefix : base.bytes <+: p.bytes := by
  have hparts : c.parts <+: splitSlashes c.rest := by
    rw [c.splitSlashes_eq, List.append_assoc]
    exact List.prefix_append _ _
  have hjoined := joinSlashes_isPrefix hparts
  rw [joinSlashes_splitSlashes] at hjoined
  rw [c.bytes_eq, c.base_eq]
  exact (List.prefix_append_right_inj c.lead).mpr hjoined

theorem isAbsolute_eq : base.isAbsolute = p.isAbsolute := by
  rcases c.lead_eq with hlead | ⟨-, hrelative⟩
  · simp [isAbsolute, c.base_eq, c.bytes_eq, hlead]
  · rw [hrelative]
    cases hbytes : base.bytes with
    | nil => simp [isAbsolute, hbytes]
    | cons b bytes =>
        obtain ⟨more, hmore⟩ := c.bytes_isPrefix
        rw [hbytes] at hmore
        simpa [isAbsolute, ← hmore, hbytes] using hrelative

theorem names_base : base.names = c.parts.filter (!·.isEmpty) := by
  have hslash : ∀ part ∈ c.parts, slash ∉ part := by
    intro part hpart
    have hmem : part ∈ splitSlashes c.rest := by simp [c.splitSlashes_eq, hpart]
    exact slash_notMem_of_mem hmem
  rw [names, c.base_eq, filter_splitSlashes_lead (c.lead_eq.imp_right And.left),
    filter_splitSlashes_joinSlashes hslash]

/-- The names of a path are those of its parent and one more, and maybe dots before and behind
that. -/
theorem exists_names : ∃ k n,
    p.names = base.names ++ (List.replicate k dot ++ c.last :: List.replicate n dot) := by
  obtain ⟨k, hgap⟩ := exists_filter_idle c.gap_idle
  obtain ⟨n, hidle⟩ := exists_filter_idle c.idle_idle
  refine ⟨k, n, ?_⟩
  rw [c.names_base, names, c.bytes_eq, filter_splitSlashes_lead (c.lead_eq.imp_right And.left),
    c.splitSlashes_eq, List.filter_append, List.filter_append,
    List.filter_cons_of_pos (by simpa using c.last_ne), hgap, hidle, List.append_assoc]

end Cut

/-- The names of a parent are among those in front of the last one. -/
theorem names_parent? (h : p.parent? = some base) :
    base.names <+: p.names.dropLast ∧ base.isAbsolute = p.isAbsolute := by
  obtain ⟨c⟩ := nonempty_cut h
  obtain ⟨k, n, hnames⟩ := c.exists_names
  refine ⟨?_, c.isAbsolute_eq⟩
  rw [hnames, List.dropLast_append_of_ne_nil (by simp)]
  exact List.prefix_append _ _

/-! ## Paths without dots behind them -/

/-- No dot stands at the end of the path, unless it is the whole path. -/
def IsTrimmed (p : Path) : Prop :=
  p.names.getLast? = some dot → p.bytes = dot

theorem isTrimmed_of_parent? (h : p.parent? = some base) : base.IsTrimmed := by
  obtain ⟨c⟩ := nonempty_cut h
  intro hdot
  rw [c.names_base] at hdot
  cases hlast : c.parts.getLast? with
  | none =>
      rw [List.getLast?_eq_none_iff.mp hlast] at hdot
      cases hdot
  | some part =>
      rcases c.trimmed part hlast with hname | ⟨hlead, hparts⟩
      -- a part that is not idle is the last name
      · obtain ⟨front, hfront⟩ := List.getLast?_eq_some_iff.mp hlast
        have hne : (!part.isEmpty) = true := by simp_all [isIdle]
        rw [hfront, List.filter_append, List.filter_singleton, hne] at hdot
        simp_all [isIdle]
      · rw [c.base_eq, hlead, hparts, joinSlashes_singleton, List.nil_append]
        rw [hparts, List.filter_singleton] at hdot
        cases hempty : part.isEmpty <;> simp_all

/-- A trimmed path ends in the name that follows its parent. -/
theorem IsTrimmed.exists_names (htrimmed : p.IsTrimmed) (h : p.parent? = some base) :
    ∃ k last, p.names = base.names ++ List.replicate k dot ++ [last] := by
  obtain ⟨c⟩ := nonempty_cut h
  obtain ⟨k, n, hnames⟩ := c.exists_names
  cases n with
  | zero => exact ⟨k, c.last, by rw [hnames, List.replicate_zero, List.append_assoc]⟩
  | succ n =>
      have hlast : p.names.getLast? = some dot := by
        rw [hnames, List.replicate_succ', ← List.cons_append, ← List.append_assoc,
          ← List.append_assoc]
        exact List.getLast?_concat
      have hdot : p = ⟨dot⟩ := congrArg Path.mk (htrimmed hlast)
      rw [hdot] at h ⊢
      cases h
      exact ⟨0, dot, rfl⟩

/-- A path without a parent has no names but dots. -/
theorem exists_names_of_parent?_eq_none (h : p.parent? = none) :
    ∃ k, p.names = List.replicate k dot := by
  have hreversed : p.reversedParts = [] := by
    unfold parent? at h
    split at h
    · assumption
    · cases h
  unfold reversedParts at hreversed
  split at hreversed
  · next habsolute =>
    obtain ⟨rest, hrest⟩ := List.head?_eq_some_iff.mp (beq_iff_eq.mp habsolute)
    rw [hrest, List.drop_one, List.tail_cons] at hreversed
    obtain ⟨idle, hparts, hidle⟩ := exists_idle (splitSlashes rest)
    obtain ⟨k, hk⟩ := exists_filter_idle hidle
    rw [hreversed, List.reverse_nil, List.nil_append] at hparts
    exact ⟨k, by simpa [names, hrest, splitSlashes_slash, hparts] using hk⟩
  · obtain ⟨first, rest, hsplit⟩ := List.exists_cons_of_ne_nil (splitSlashes_ne_nil p.bytes)
    obtain ⟨idle, hparts, hidle⟩ := exists_idle rest
    obtain ⟨k, hk⟩ := exists_filter_idle hidle
    rw [hsplit] at hreversed
    dsimp only at hreversed
    split_ifs at hreversed with hempty
    · simp only [Bool.and_eq_true, List.isEmpty_iff] at hempty
      rw [hempty.1, List.reverse_nil, List.nil_append] at hparts
      exact ⟨k, by simpa [names, hsplit, hparts, hempty.2] using hk⟩
    · simp at hreversed

theorem IsTrimmed.names_eq_nil (htrimmed : p.IsTrimmed) (h : p.parent? = none) :
    p.names = [] := by
  obtain ⟨k, hnames⟩ := exists_names_of_parent?_eq_none h
  cases k with
  | zero => exact hnames
  | succ k =>
      have hdot : p = ⟨dot⟩ := congrArg Path.mk (htrimmed (by simp [hnames, List.replicate_succ']))
      rw [hdot] at h
      cases h

/-! ## Paths above a path -/

theorem length_parent? (h : p.parent? = some base) : base.bytes.length < p.bytes.length := by
  obtain ⟨c⟩ := nonempty_cut h
  obtain ⟨k, n, hnames⟩ := c.exists_names
  refine Nat.lt_of_le_of_ne c.bytes_isPrefix.length_le fun hlength ↦ ?_
  have hsame : base.names = p.names :=
    congrArg (fun bytes ↦ names ⟨bytes⟩) (c.bytes_isPrefix.eq_of_length hlength)
  rw [hsame] at hnames
  simpa using congrArg List.length hnames

/-- The path leads to a directory on the way of another one: its parent, or one above that. -/
inductive IsAbove (above : Path) : Path → Prop where
  | parent {p : Path} (h : p.parent? = some above) : above.IsAbove p
  | step {p parent : Path} (h : p.parent? = some parent) (habove : above.IsAbove parent) :
      above.IsAbove p

theorem IsAbove.bytes {above : Path} (h : above.IsAbove p) : above.bytes <+: p.bytes := by
  induction h with
  | parent h => exact (nonempty_cut h).elim Cut.bytes_isPrefix
  | step h _ ih => exact ih.trans ((nonempty_cut h).elim Cut.bytes_isPrefix)

theorem IsAbove.names {above : Path} (h : above.IsAbove p) :
    above.names <+: p.names.dropLast ∧ above.isAbsolute = p.isAbsolute := by
  induction h with
  | parent h => exact names_parent? h
  | step h _ ih =>
      obtain ⟨hnames, habsolute⟩ := names_parent? h
      exact ⟨ih.1.trans ((List.dropLast_prefix _).trans hnames), ih.2.trans habsolute⟩

end DealForm.Path
