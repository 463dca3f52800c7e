import Mathlib.Data.List.Basic

/-!
# Texts that differ in layout

What is layout in a JSON text is said by a cursor, which knows of strings and brackets and nothing
of values. Three texts are compared side by side: two that are set out on lines, indented by two
widths, and one without layout. Line breaks come at the same places in the first two, outside of
strings, and after each the line is indented for the containers that are open there.
-/

namespace DealForm.Json

/-! ## Reading layout -/

/-- What a reader of JSON text is in. -/
inductive Scope where
  | between
  | string
  | escape
  deriving DecidableEq, Repr

/-- Where a reader of JSON text stands: what it is in, and how many containers are open. -/
structure Cursor where
  scope : Scope
  opened : Nat
  deriving DecidableEq, Repr

def isOpening (c : Char) : Bool :=
  c == '[' || c == '{'

def isClosing (c : Char) : Bool :=
  c == ']' || c == '}'

namespace Cursor

def start : Cursor := ⟨.between, 0⟩

def step (cur : Cursor) (c : Char) : Cursor :=
  match cur.scope with
  | .between =>
    if c = '"' then { cur with scope := .string }
    else if isOpening c then { cur with opened := cur.opened + 1 }
    else if isClosing c then { cur with opened := cur.opened - 1 }
    else cur
  | .string =>
    if c = '"' then { cur with scope := .between }
    else if c = '\\' then { cur with scope := .escape }
    else cur
  | .escape => { cur with scope := .string }

def run (cur : Cursor) (s : List Char) : Cursor :=
  s.foldl step cur

theorem run_cons (cur : Cursor) (c : Char) (s : List Char) :
    cur.run (c :: s) = (cur.step c).run s := rfl

theorem run_append (cur : Cursor) (s t : List Char) : cur.run (s ++ t) = (cur.run s).run t :=
  List.foldl_append

end Cursor

/-- The text without the spaces and newlines that stand in no string. -/
def unspaced (cur : Cursor) : List Char → List Char
  | [] => []
  | c :: s =>
    if cur.scope = .between ∧ (c = ' ' ∨ c = '\n') then unspaced (cur.step c) s
    else c :: unspaced (cur.step c) s

/-- The line stands in the text, after what comes before it. -/
def IsLineOf (text before line : List Char) : Prop :=
  ∃ after, text = before ++ (line ++ after) ∧ (before = [] ∨ before.getLast? = some '\n') ∧
    '\n' ∉ line ∧ (after = [] ∨ after.head? = some '\n')

/-- How many containers a character closes. -/
def closings (c : Char) : Nat :=
  if isClosing c then 1 else 0

/-- A line begins with as many spaces as the width times the number of containers that are open
before it, without one that it begins to close; something follows them, and the line does not end
in a space. -/
def IsIndented (width : Nat) (before line : List Char) : Prop :=
  ∃ k c rest, line = List.replicate (width * k) ' ' ++ c :: rest ∧ c ≠ ' ' ∧
    k + closings c = (Cursor.start.run before).opened ∧ (c :: rest).getLast? ≠ some ' '

/-! ## Texts side by side -/

variable {c : Char} {s s' t before after : List Char} {width width' n : Nat} {cur : Cursor}

/-- From a cursor on, the first two texts set out the third one, in lines that are indented by two
widths. -/
inductive SetsOut (width width' : Nat) : Cursor → List Char → List Char → List Char → Prop
  | done {cur : Cursor} (hcur : cur.scope = .between) : SetsOut width width' cur [] [] []
  | char {cur : Cursor} {c : Char} {s s' t : List Char} (hbreak : c ≠ '\n')
      (hspace : c = ' ' → cur.scope ≠ .between) (h : SetsOut width width' (cur.step c) s s' t) :
      SetsOut width width' cur (c :: s) (c :: s') (c :: t)
  | gap {cur : Cursor} {c : Char} {s s' t : List Char} (hcur : cur.scope = .between)
      (hhead : s.head? = some c) (hspace : c ≠ ' ') (hbreak : c ≠ '\n')
      (h : SetsOut width width' cur s s' t) :
      SetsOut width width' cur (' ' :: s) (' ' :: s') t
  | newline {cur : Cursor} {c : Char} {k : Nat} {s s' t : List Char}
      (hcur : cur.scope = .between) (hhead : s.head? = some c) (hspace : c ≠ ' ')
      (hbreak : c ≠ '\n') (hlevel : k + closings c = cur.opened)
      (h : SetsOut width width' cur s s' t) :
      SetsOut width width' cur ('\n' :: (List.replicate (width * k) ' ' ++ s))
        ('\n' :: (List.replicate (width' * k) ' ' ++ s')) t

/-! ## What is set out -/

theorem Cursor.step_blank (hcur : cur.scope = .between) (hc : c = ' ' ∨ c = '\n') :
    cur.step c = cur := by
  rcases hc with rfl | rfl <;> simp [step, hcur, isOpening, isClosing]

theorem Cursor.scope_step_space (hcur : cur.scope ≠ .between) :
    (cur.step ' ').scope ≠ .between := by
  obtain ⟨scope, opened⟩ := cur
  cases scope with
  | between => exact absurd rfl hcur
  | string => exact nofun
  | escape => exact nofun

theorem Cursor.run_spaces (hcur : cur.scope = .between) (n : Nat) :
    cur.run (List.replicate n ' ') = cur := by
  induction n with
  | zero => rfl
  | succ n ih =>
      rw [List.replicate_succ, run_cons, step_blank hcur (Or.inl rfl)]
      exact ih

theorem unspaced_blank (hcur : cur.scope = .between) (hc : c = ' ' ∨ c = '\n')
    (s : List Char) : unspaced cur (c :: s) = unspaced cur s := by
  rw [unspaced, if_pos ⟨hcur, hc⟩, Cursor.step_blank hcur hc]

theorem unspaced_spaces (hcur : cur.scope = .between) (n : Nat) (s : List Char) :
    unspaced cur (List.replicate n ' ' ++ s) = unspaced cur s := by
  induction n with
  | zero => rfl
  | succ n ih => rw [List.replicate_succ, List.cons_append, unspaced_blank hcur (Or.inl rfl), ih]

theorem SetsOut.unspaced_eq (h : SetsOut width width' cur s s' t) :
    unspaced cur s = t := by
  induction h with
  | done => rfl
  | char hbreak hspace _ ih =>
      rw [unspaced, if_neg, ih]
      rintro ⟨hcur, rfl | rfl⟩
      · exact hspace rfl hcur
      · exact hbreak rfl
  | gap hcur _ _ _ _ ih => rw [unspaced_blank hcur (Or.inl rfl), ih]
  | newline hcur _ _ _ _ _ ih => rw [unspaced_blank hcur (Or.inr rfl), unspaced_spaces hcur, ih]

/-- What stands behind some spaces is one of the spaces or stands in the text that follows them. -/
theorem mem_spaces_or (h : List.replicate n ' ' ++ s = before ++ c :: after) :
    (c = ' ' ∧ ∃ m, after = List.replicate m ' ' ++ s) ∨
      ∃ front, before = List.replicate n ' ' ++ front ∧ s = front ++ c :: after := by
  rcases List.append_eq_append_iff.mp h with ⟨front, hbefore, hs⟩ | ⟨back, hspaces, hback⟩
  · exact Or.inr ⟨front, hbefore, hs⟩
  · cases back with
    | nil => exact Or.inr ⟨[], by simpa using hspaces.symm, by simpa using hback.symm⟩
    | cons d back =>
        obtain ⟨rfl, rfl⟩ := List.cons_eq_cons.mp hback
        obtain ⟨-, -, hspace⟩ := List.replicate_eq_append_iff.mp hspaces
        obtain ⟨hc, hback⟩ := List.cons_eq_cons.mp hspace
        refine Or.inl ⟨hc, back.length, ?_⟩
        rw [← hback]
        rfl

/-- A line break stands in no string, and the line after it is indented for the containers that
are open there. -/
theorem SetsOut.after_newline (h : SetsOut width width' cur s s' t)
    (hs : s = before ++ '\n' :: after) :
    (cur.run before).scope = .between ∧ ∃ k c rest, after =
      List.replicate (width * k) ' ' ++ c :: rest ∧ c ≠ ' ' ∧ c ≠ '\n' ∧
        k + closings c = (cur.run before).opened := by
  induction h generalizing before with
  | done => simp at hs
  | char hbreak _ _ ih =>
      cases before with
      | nil => exact absurd (List.cons_eq_cons.mp hs).1 hbreak
      | cons d front =>
          obtain ⟨rfl, htail⟩ := List.cons_eq_cons.mp hs
          exact ih htail
  | gap hcur _ _ _ _ ih =>
      cases before with
      | nil => cases hs
      | cons d front =>
          obtain ⟨rfl, htail⟩ := List.cons_eq_cons.mp hs
          rw [Cursor.run_cons, Cursor.step_blank hcur (Or.inl rfl)]
          exact ih htail
  | @newline cur c k s s' t hcur hhead hspace hbreak hlevel _ ih =>
      cases before with
      | nil =>
          cases hs
          obtain ⟨rest, rfl⟩ := List.head?_eq_some_iff.mp hhead
          exact ⟨hcur, k, c, rest, rfl, hspace, hbreak, hlevel⟩
      | cons d front =>
          obtain ⟨rfl, htail⟩ := List.cons_eq_cons.mp hs
          rcases mem_spaces_or htail with ⟨hne, -⟩ | ⟨front, rfl, hfront⟩
          · cases hne
          · rw [Cursor.run_cons, Cursor.step_blank hcur (Or.inr rfl), Cursor.run_append,
              Cursor.run_spaces hcur]
            exact ih hfront

/-- A space is followed by something on its line. -/
theorem SetsOut.after_space (h : SetsOut width width' cur s s' t)
    (hs : s = before ++ ' ' :: after) : ∃ c rest, after = c :: rest ∧ c ≠ '\n' := by
  induction h generalizing before with
  | done => simp at hs
  | @char cur c s s' t hbreak hspace h ih =>
      cases before with
      | nil =>
          obtain ⟨rfl, rfl⟩ := List.cons_eq_cons.mp hs
          -- A space among characters stands in a string, which has not ended yet.
          have hscope := Cursor.scope_step_space (hspace rfl)
          cases h with
          | done hcur => exact absurd hcur hscope
          | char hbreak _ _ => exact ⟨_, _, rfl, hbreak⟩
          | gap hcur _ _ _ _ => exact absurd hcur hscope
          | newline hcur _ _ _ _ _ => exact absurd hcur hscope
      | cons d front => exact ih (List.cons_eq_cons.mp hs).2
  | gap _ hhead _ hbreak _ ih =>
      cases before with
      | nil =>
          obtain ⟨-, rfl⟩ := List.cons_eq_cons.mp hs
          obtain ⟨rest, rfl⟩ := List.head?_eq_some_iff.mp hhead
          exact ⟨_, rest, rfl, hbreak⟩
      | cons d front => exact ih (List.cons_eq_cons.mp hs).2
  | newline _ hhead _ hbreak _ _ ih =>
      cases before with
      | nil => cases hs
      | cons d front =>
          rcases mem_spaces_or (List.cons_eq_cons.mp hs).2 with ⟨-, m, rfl⟩ | ⟨front, -, hs⟩
          · obtain ⟨rest, rfl⟩ := List.head?_eq_some_iff.mp hhead
            cases m with
            | zero => exact ⟨_, rest, rfl, hbreak⟩
            | succ m => exact ⟨' ', _, rfl, by decide⟩
          · exact ih hs

/-! ## Lines -/

def lines (s : List Char) : List (List Char) :=
  s.splitOn '\n'

def unindented (line : List Char) : List Char :=
  line.dropWhile (· == ' ')

theorem lines_newline (s : List Char) : lines ('\n' :: s) = [] :: lines s := by
  simp [lines, List.splitOn_cons_eq_if_modifyHead]

theorem lines_cons_of_ne (hc : c ≠ '\n') (s : List Char) :
    lines (c :: s) = (lines s).modifyHead (c :: ·) := by
  simp [lines, List.splitOn_cons_eq_if_modifyHead, hc]

theorem lines_spaces (n : Nat) (s : List Char) :
    lines (List.replicate n ' ' ++ s) = (lines s).modifyHead (List.replicate n ' ' ++ ·) := by
  induction n with
  | zero => cases h : lines s <;> simp [h]
  | succ n ih =>
      rw [List.replicate_succ, List.cons_append, lines_cons_of_ne (by decide), ih]
      cases lines s <;> rfl

theorem unindented_spaces (n : Nat) (line : List Char) :
    unindented (List.replicate n ' ' ++ line) = unindented line :=
  List.dropWhile_append_of_pos fun c hc ↦ by simp [List.eq_of_mem_replicate hc]

/-- Both texts have the same lines but for indentation, and the same first line. -/
theorem SetsOut.exists_lines (h : SetsOut width width' cur s s' t) :
    ∃ first rest rest', lines s = first :: rest ∧ lines s' = first :: rest' ∧
      rest.map unindented = rest'.map unindented := by
  induction h with
  | done => exact ⟨[], [], [], rfl, rfl, rfl⟩
  | char hbreak _ _ ih =>
      obtain ⟨first, rest, rest', hs, hs', hrest⟩ := ih
      exact ⟨_, rest, rest', by rw [lines_cons_of_ne hbreak, hs]; rfl,
        by rw [lines_cons_of_ne hbreak, hs']; rfl, hrest⟩
  | gap _ _ _ _ _ ih =>
      obtain ⟨first, rest, rest', hs, hs', hrest⟩ := ih
      exact ⟨_, rest, rest', by rw [lines_cons_of_ne (by decide), hs]; rfl,
        by rw [lines_cons_of_ne (by decide), hs']; rfl, hrest⟩
  | @newline _ _ k _ _ _ _ _ _ _ _ _ ih =>
      obtain ⟨first, rest, rest', hs, hs', hrest⟩ := ih
      refine ⟨[], (List.replicate (width * k) ' ' ++ first) :: rest,
        (List.replicate (width' * k) ' ' ++ first) :: rest', ?_, ?_, ?_⟩
      · rw [lines_newline, lines_spaces, hs]
        rfl
      · rw [lines_newline, lines_spaces, hs']
        rfl
      · simp only [List.map_cons, unindented_spaces, hrest]

end DealForm.Json
