import DealForm.File.Path
import Mathlib.Data.List.Basic
import Mathlib.Data.List.TakeWhile

/-!
# The names along a path

A path is cut at its slashes, so a file joined to a directory adds one name to those of the
directory. What stands after the last slash names the path.
-/

namespace DealForm.Path

variable {xs ys : Bytes} {part : Bytes} {base p : Path} {name last : Name}

/-! ## Parts -/

theorem splitSlashes_ne_nil (xs : Bytes) : splitSlashes xs ≠ [] := by
  cases xs with
  | nil => simp [splitSlashes]
  | cons b xs =>
      simp only [splitSlashes]
      split
      · simp
      · split <;> simp

theorem splitSlashes_slash (xs : Bytes) : splitSlashes (slash :: xs) = [] :: splitSlashes xs := by
  simp [splitSlashes]

theorem splitSlashes_cons {b : UInt8} (hb : b ≠ slash) {parts : List Bytes}
    (hxs : splitSlashes xs = part :: parts) : splitSlashes (b :: xs) = (b :: part) :: parts := by
  simp [splitSlashes, hb, hxs]

theorem splitSlashes_append_slash (xs ys : Bytes) :
    splitSlashes (xs ++ slash :: ys) = splitSlashes xs ++ splitSlashes ys := by
  induction xs with
  | nil => exact splitSlashes_slash ys
  | cons b xs ih =>
      by_cases hb : b = slash
      · rw [hb, List.cons_append, splitSlashes_slash, splitSlashes_slash, ih, List.cons_append]
      · obtain ⟨part, parts, hparts⟩ := List.exists_cons_of_ne_nil (splitSlashes_ne_nil xs)
        rw [hparts, List.cons_append] at ih
        rw [List.cons_append, splitSlashes_cons hb ih, splitSlashes_cons hb hparts,
          List.cons_append]

theorem splitSlashes_of_notMem (h : slash ∉ xs) : splitSlashes xs = [xs] := by
  induction xs with
  | nil => rfl
  | cons b xs ih =>
      obtain ⟨hb, hxs⟩ := List.ne_and_not_mem_of_not_mem_cons h
      exact splitSlashes_cons hb.symm (ih hxs)

theorem slash_notMem_of_mem (h : part ∈ splitSlashes xs) : slash ∉ part := by
  induction xs generalizing part with
  | nil =>
      obtain rfl := List.mem_singleton.mp h
      exact List.not_mem_nil
  | cons b xs ih =>
      by_cases hb : b = slash
      · rw [hb, splitSlashes_slash] at h
        rcases List.mem_cons.mp h with rfl | h
        · exact List.not_mem_nil
        · exact ih h
      · obtain ⟨first, parts, hparts⟩ := List.exists_cons_of_ne_nil (splitSlashes_ne_nil xs)
        rw [splitSlashes_cons hb hparts] at h
        rw [hparts] at ih
        rcases List.mem_cons.mp h with rfl | h
        · exact List.not_mem_cons_of_ne_of_not_mem (Ne.symm hb) (ih List.mem_cons_self)
        · exact ih (List.mem_cons_of_mem first h)

/-- The last part is what stands after the last slash. -/
theorem exists_last_part (xs : Bytes) :
    ∃ front part, splitSlashes xs = front ++ [part] ∧
      (xs = part ∨ ∃ init, xs = init ++ slash :: part) := by
  by_cases h : slash ∈ xs
  -- the last slash of the bytes is the first one from behind
  · obtain ⟨after, before, hxs, hafter⟩ := List.eq_append_cons_of_mem (List.mem_reverse.mpr h)
    have hsplit : xs = before.reverse ++ slash :: after.reverse := by
      rw [← List.reverse_reverse xs, hxs]
      simp
    refine ⟨splitSlashes before.reverse, after.reverse, ?_, Or.inr ⟨before.reverse, hsplit⟩⟩
    have hback : slash ∉ after.reverse := by simpa using hafter
    rw [hsplit, splitSlashes_append_slash, splitSlashes_of_notMem hback]
  · exact ⟨[], xs, splitSlashes_of_notMem h, Or.inl rfl⟩

/-! ## Joining a name -/

theorem isAbsolute_of_notMem (hslash : slash ∉ name) : (⟨name⟩ : Path).isAbsolute = false := by
  cases name with
  | nil => rfl
  | cons b name =>
      have hb : b ≠ slash := (List.ne_and_not_mem_of_not_mem_cons hslash).1.symm
      simpa [isAbsolute] using hb

theorem filter_splitSlashes_of_notMem (hname : name ≠ []) (hslash : slash ∉ name) :
    (splitSlashes name).filter (!·.isEmpty) = [name] := by
  rw [splitSlashes_of_notMem hslash]
  simpa using hname

theorem names_join (hname : name ≠ []) (hslash : slash ∉ name) :
    (base.join ⟨name⟩).names = base.names ++ [name] := by
  simp only [join, isAbsolute_of_notMem hslash, Bool.false_eq_true, ↓reduceIte]
  split
  · next hbase =>
    rcases Bool.or_eq_true_iff.mp hbase with hempty | hends
    · have hbytes : base.bytes = [] := List.isEmpty_iff.mp hempty
      simp [names, hbytes, filter_splitSlashes_of_notMem hname hslash, splitSlashes]
    · obtain ⟨init, hinit⟩ := List.getLast?_eq_some_iff.mp (beq_iff_eq.mp hends)
      simp [names, hinit, splitSlashes_append_slash,
        filter_splitSlashes_of_notMem hname hslash, splitSlashes]
  · simp [names, splitSlashes_append_slash, filter_splitSlashes_of_notMem hname hslash]

theorem isAbsolute_join (hslash : slash ∉ name) :
    (base.join ⟨name⟩).isAbsolute = base.isAbsolute := by
  have hname := isAbsolute_of_notMem hslash
  simp only [join, hname, Bool.false_eq_true, ↓reduceIte]
  cases hbytes : base.bytes with
  | nil => simpa [isAbsolute, hbytes] using hname
  | cons b bytes => split <;> simp [isAbsolute, hbytes]

/-! ## The last name -/

/-- A path that does not end in a slash ends in its last name. -/
theorem exists_last_name (hbytes : p.bytes ≠ []) (hslash : p.endsInSlash = false) :
    ∃ front last, splitSlashes p.bytes = front ++ [last] ∧ p.names.getLast? = some last := by
  obtain ⟨front, last, hsplit, hlast⟩ := exists_last_part p.bytes
  have hne : last ≠ [] := by
    rintro rfl
    rcases hlast with hnil | ⟨init, hinit⟩
    · exact hbytes hnil
    · simp [endsInSlash, hinit] at hslash
  refine ⟨front, last, hsplit, ?_⟩
  simp [names, hsplit, hne]

/-! ## Components -/

def components (p : Path) : List Name :=
  (splitSlashes p.bytes).filter (!isIdle ·)

theorem components_eq (p : Path) : p.components = p.names.filter (· != dot) := by
  rw [components, names, List.filter_filter]
  apply List.filter_congr
  intro part _
  rw [isIdle, Bool.not_or, Bool.and_comm, bne]

theorem getLast?_components (hlast : p.names.getLast? = some last) (hdot : last ≠ dot) :
    p.components.getLast? = some last := by
  obtain ⟨front, hfront⟩ := List.getLast?_eq_some_iff.mp hlast
  rw [components_eq, hfront]
  simp [hdot]

theorem not_isIdle_of_mem_components (h : last ∈ p.components) : isIdle last = false := by
  simpa using (List.mem_filter.mp h).2

theorem head?_dropWhile_isIdle (parts : List Bytes) :
    (parts.reverse.dropWhile isIdle).head? = (parts.filter (!isIdle ·)).getLast? := by
  rw [List.getLast?_filter, List.find?_not_eq_head?_dropWhile]

/-- The reversed parts start with the last component. Without one, a relative path may have a dot
in front that is no component. -/
theorem head?_reversedParts (p : Path) : p.reversedParts.head? = p.components.getLast? ∨
    (p.components = [] ∧ p.reversedParts.head? = some dot) := by
  obtain ⟨first, rest, hparts⟩ := List.exists_cons_of_ne_nil (splitSlashes_ne_nil p.bytes)
  by_cases habsolute : p.isAbsolute = true
  · left
    obtain ⟨bytes, hbytes⟩ := List.head?_eq_some_iff.mp (beq_iff_eq.mp habsolute)
    simp only [reversedParts, habsolute, ↓reduceIte, components, hbytes, splitSlashes_slash,
      List.drop_one, List.tail_cons, head?_dropWhile_isIdle]
    simp [isIdle]
  · have hlast := head?_dropWhile_isIdle rest
    simp only [reversedParts, habsolute, Bool.false_eq_true, ↓reduceIte, components, hparts]
    cases htail : rest.reverse.dropWhile isIdle with
    | cons last before =>
        left
        rw [htail, List.head?_cons, eq_comm, List.getLast?_eq_some_iff] at hlast
        obtain ⟨front, hfront⟩ := hlast
        have hall : ((first :: rest).filter (!isIdle ·)).getLast? = some last := by
          rw [List.filter_cons, hfront]
          split
          · rw [← List.cons_append, List.getLast?_concat]
          · rw [List.getLast?_concat]
        rw [hall]
        rfl
    | nil =>
        rw [htail, List.head?_nil, eq_comm, List.getLast?_eq_none_iff] at hlast
        rw [List.filter_cons, hlast]
        by_cases hdot : first = dot
        · right
          subst hdot
          exact ⟨rfl, rfl⟩
        · left
          cases first with
          | nil => rfl
          | cons b bytes => simp [isIdle, hdot]

/-- The file name of a path is its last component, unless that leads up. -/
theorem fileName?_eq_some_iff :
    p.fileName? = some name ↔ p.components.getLast? = some name ∧ name ≠ dotDot := by
  have hname : p.fileName? = some name ↔
      p.reversedParts.head? = some name ∧ name ≠ dot ∧ name ≠ dotDot := by
    rw [fileName?]
    cases p.reversedParts with
    | nil => simp
    | cons last before => grind
  rw [hname]
  rcases head?_reversedParts p with hhead | ⟨hnil, hhead⟩
  · rw [hhead]
    refine and_congr_right fun hlast ↦ and_iff_right_of_imp fun _ ↦ ?_
    have hidle := not_isIdle_of_mem_components (List.mem_of_getLast? hlast)
    rintro rfl
    simp [isIdle] at hidle
  · rw [hhead, hnil]
    refine iff_of_false ?_ (by simp)
    rintro ⟨hdot, hne, -⟩
    exact hne (Option.some.inj hdot).symm

/-- A path that ends in a name is called by that name. -/
theorem fileName?_eq (hlast : p.names.getLast? = some last) (hdot : last ≠ dot)
    (hdotDot : last ≠ dotDot) : p.fileName? = some last :=
  fileName?_eq_some_iff.mpr ⟨getLast?_components hlast hdot, hdotDot⟩

end DealForm.Path
