import DealForm.CommandLine.Arguments
import DealForm.Proofs.Outcome

/-!
# What stands on a command line

A command line that is read without an error has the values and the flags whose words stand on it,
in whatever order, before two hyphens alone. What is read up to the name of a subcommand and what is
read after it come to the words of the whole line.
-/

namespace DealForm.Arguments

variable {g : Grammar} {a b : Arguments} {words rest : List String} {word name value : String}
  {given : Option String}

/-! ## Words with two hyphens -/

/-- A name that an option or a flag can have. -/
structure IsOptionName (name : String) : Prop where
  ne_empty : name ≠ ""
  equals_notMem : '=' ∉ name.toList

def longWord (name : String) : Option String → String
  | none => "--" ++ name
  | some value => "--" ++ name ++ "=" ++ value

theorem toList_longWord (name : String) (given : Option String) :
    (longWord name given).toList = '-' :: '-' ::
      (name.toList ++ (given.elim [] fun value ↦ '=' :: value.toList)) := by
  cases given <;> simp [longWord, String.toList_append]

theorem bne_equals {cs : List Char} (h : '=' ∉ cs) : ∀ c ∈ cs, (c != '=') = true := by
  intro c hc
  rw [bne_iff_ne]
  rintro rfl
  exact h hc

/-- The name ends at the first equals sign. -/
theorem cut_at_equals (h : '=' ∉ name.toList) (given : Option String) :
    let cs := name.toList ++ given.elim [] fun value ↦ '=' :: value.toList
    cs.takeWhile (· != '=') = name.toList ∧
      cs.dropWhile (· != '=') = given.elim [] fun value ↦ '=' :: value.toList := by
  intro cs
  rw [List.takeWhile_append_of_pos (bne_equals h), List.dropWhile_append_of_pos (bne_equals h)]
  cases given <;> simp

theorem shapeOf_longWord (hname : IsOptionName name) (given : Option String) :
    shapeOf (longWord name given) = .long name given := by
  obtain ⟨htake, hdrop⟩ := cut_at_equals hname.equals_notMem given
  unfold shapeOf
  split
  · next h => simp [toList_longWord, hname.ne_empty] at h
  · next cs _ h =>
      rw [toList_longWord] at h
      cases h
      rw [htake, hdrop, String.ofList_toList]
      cases given with
      | none => rfl
      | some value => simp
  · next hdash h =>
      rw [toList_longWord] at h
      cases h
      exact absurd rfl hdash
  · next h =>
      rw [toList_longWord] at h
      exact absurd rfl (h _ _)

theorem eq_longWord_of_shapeOf (h : shapeOf word = .long name given) :
    word = longWord name given := by
  rw [← String.toList_inj, toList_longWord]
  unfold shapeOf at h
  split at h
  · cases h
  · next cs _ htext =>
      rw [htext]
      have hcut : cs.takeWhile (· != '=') ++ cs.dropWhile (· != '=') = cs :=
        List.takeWhile_append_dropWhile
      split at h
      · next hdrop =>
          cases h
          rw [hdrop] at hcut
          simpa using hcut.symm
      · next c value hdrop =>
          have hc : c = '=' := by
            have hne : cs.dropWhile (· != '=') ≠ [] := by simp [hdrop]
            simpa [hdrop] using List.head_dropWhile_not (· != '=') hne
          cases h
          rw [hdrop, hc] at hcut
          simpa using hcut.symm
  · cases h
  · cases h

theorem shapeOf_eq_long_iff (hname : IsOptionName name) :
    shapeOf word = .long name given ↔ word = longWord name given := by
  constructor
  · exact eq_longWord_of_shapeOf
  · rintro rfl
    exact shapeOf_longWord hname given

theorem shapeOf_eq_separator_iff : shapeOf word = .separator ↔ word = "--" := by
  constructor
  · intro h
    unfold shapeOf at h
    split at h
    · next htext => exact String.toList_inj.mp htext
    · split at h <;> cases h
    · cases h
    · cases h
  · rintro rfl
    rfl

/-! ## Readings -/

/-- The ways in which words are taken one after the other. -/
inductive Scans (g : Grammar) : Arguments → List String → Arguments → Prop where
  | done {a : Arguments} : Scans g a [] a
  | separator {a b : Arguments} {word : String} {rest : List String}
      (hshape : shapeOf word = .separator) (hvalues : b.values = a.values)
      (hflags : b.flags = a.flags) (hsubcommand : b.subcommand = a.subcommand) :
      Scans g a (word :: rest) b
  | joined {a b : Arguments} {word name value : String} {rest : List String}
      (hshape : shapeOf word = .long name (some value)) (htakes : takesValue g name = true)
      (hnew : a.value? name = none)
      (h : Scans g { a with values := a.values ++ [(name, value)] } rest b) :
      Scans g a (word :: rest) b
  | apart {a b : Arguments} {word name value : String} {rest : List String}
      (hshape : shapeOf word = .long name none) (hplain : shapeOf value = .plain)
      (htakes : takesValue g name = true) (hnew : a.value? name = none)
      (h : Scans g { a with values := a.values ++ [(name, value)] } rest b) :
      Scans g a (word :: value :: rest) b
  | flag {a b : Arguments} {word name : String} {rest : List String}
      (hshape : shapeOf word = .long name none) (htakes : takesValue g name = false)
      (hflag : name ∈ g.flags) (h : Scans g { a with flags := a.flags ++ [name] } rest b) :
      Scans g a (word :: rest) b
  | subcommand {a : Arguments} {word : String} {rest : List String}
      (hshape : shapeOf word = .plain) (hin : word ∈ g.subcommands) :
      Scans g a (word :: rest) { a with subcommand := some (word, rest) }
  | plain {a b : Arguments} {word : String} {rest : List String} (hshape : shapeOf word = .plain)
      (h : Scans g { a with words := a.words ++ [word] } rest b) : Scans g a (word :: rest) b

theorem addValue_eq_ok (h : a.addValue g name value = .ok b) :
    takesValue g name = true ∧ a.value? name = none ∧
      b = { a with values := a.values ++ [(name, value)] } := by
  unfold addValue at h
  split at h
  · cases h
  · next option hfind =>
      split at h
      · cases h
      · next hfree =>
          cases h
          rw [Bool.not_eq_true, Bool.or_eq_false_iff] at hfree
          refine ⟨List.any_eq_true.mpr ⟨option, List.mem_of_find?_eq_some hfind, ?_⟩, ?_, rfl⟩
          · exact List.find?_some (p := fun option : ValueOption ↦ option.name == name) hfind
          · exact Option.isNone_iff_eq_none.mp (Option.isSome_eq_false_iff.mp hfree.1)

theorem addLong_eq_ok (h : a.addLong g name = .ok b) :
    name ∈ g.flags ∧ b = { a with flags := a.flags ++ [name] } := by
  unfold addLong at h
  split at h
  · cases h
  · split at h
    · cases h
    · unfold addFlag at h
      split at h
      · cases h
      · next hfree =>
          cases h
          simp only [Bool.not_eq_true, Bool.or_eq_false_iff, Bool.not_eq_false'] at hfree
          exact ⟨List.contains_iff_mem.mp hfree.1, rfl⟩

theorem addWord_eq_ok (h : a.addWord g word = .ok b) :
    b = { a with words := a.words ++ [word] } := by
  unfold addWord at h
  split at h
  · cases h
    rfl
  · cases h

theorem addWords_eq_ok (h : words.foldlM (addWord g) a = .ok b) :
    b.values = a.values ∧ b.flags = a.flags ∧ b.subcommand = a.subcommand := by
  induction words generalizing a with
  | nil =>
      cases h
      exact ⟨rfl, rfl, rfl⟩
  | cons word rest ih =>
      rw [List.foldlM_cons] at h
      obtain ⟨a', hword, hrest⟩ := bind_eq_ok.mp h
      cases addWord_eq_ok hword
      have hkept := ih hrest
      exact hkept

theorem isPlain_iff : isPlain word = true ↔ shapeOf word = .plain := by
  unfold isPlain
  cases shapeOf word <;> simp

theorem scans_of_scan (h : scan g a words = .ok b) : Scans g a words b := by
  fun_induction scan g a words with
  | case1 a =>
      cases h
      exact .done
  | case2 a word rest hshape =>
      obtain ⟨hvalues, hflags, hsubcommand⟩ := addWords_eq_ok h
      exact .separator hshape hvalues hflags hsubcommand
  | case3 => cases h
  | case4 a word rest name value hshape ih =>
      obtain ⟨a', hadd, hrest⟩ := bind_eq_ok.mp h
      obtain ⟨htakes, hnew, rfl⟩ := addValue_eq_ok hadd
      exact .joined hshape htakes hnew (ih _ hrest)
  | case5 => cases h
  | case6 a word name hshape htakes value rest hplain ih =>
      obtain ⟨a', hadd, hrest⟩ := bind_eq_ok.mp h
      obtain ⟨-, hnew, rfl⟩ := addValue_eq_ok hadd
      exact .apart hshape (isPlain_iff.mp hplain) htakes hnew (ih _ hrest)
  | case7 => cases h
  | case8 a word rest name hshape htakes ih =>
      obtain ⟨a', hadd, hrest⟩ := bind_eq_ok.mp h
      obtain ⟨hflag, rfl⟩ := addLong_eq_ok hadd
      exact .flag hshape (Bool.not_eq_true _ ▸ htakes) hflag (ih _ hrest)
  | case9 a word rest hshape hsubcommand =>
      cases h
      exact .subcommand hshape (List.contains_iff_mem.mp hsubcommand)
  | case10 a word rest hshape hsubcommand ih =>
      obtain ⟨a', hadd, hrest⟩ := bind_eq_ok.mp h
      cases addWord_eq_ok hadd
      exact .plain hshape (ih _ hrest)

/-! ## What is given -/

inductive Gives (name value : String) : List String → Prop where
  | joined (rest : List String) : Gives name value (("--" ++ name ++ "=" ++ value) :: rest)
  | apart (rest : List String) : Gives name value (("--" ++ name) :: value :: rest)
  | later {word : String} {rest : List String} (hword : word ≠ "--") (h : Gives name value rest) :
      Gives name value (word :: rest)

def GivesFlag (name : String) (words : List String) : Prop :=
  "--" ++ name ∈ words.takeWhile (· != "--")

instance (name : String) (words : List String) : Decidable (GivesFlag name words) :=
  inferInstanceAs (Decidable ("--" ++ name ∈ words.takeWhile (· != "--")))

def remaining (a : Arguments) : List String :=
  (a.subcommand.map Prod.snd).getD []

theorem not_gives_nil : ¬ Gives name value [] := nofun

theorem gives_cons_iff (hname : IsOptionName name) : Gives name value (word :: rest) ↔
    shapeOf word = .long name (some value) ∨
      (shapeOf word = .long name none ∧ rest.head? = some value) ∨
      (shapeOf word ≠ .separator ∧ Gives name value rest) := by
  rw [shapeOf_eq_long_iff hname, shapeOf_eq_long_iff hname, Ne, shapeOf_eq_separator_iff]
  constructor
  · rintro (_ | _ | ⟨hword, h⟩)
    · exact Or.inl rfl
    · exact Or.inr (Or.inl ⟨rfl, rfl⟩)
    · exact Or.inr (Or.inr ⟨hword, h⟩)
  · rintro (rfl | ⟨rfl, hhead⟩ | ⟨hword, h⟩)
    · exact .joined rest
    · obtain ⟨after, rfl⟩ := List.head?_eq_some_iff.mp hhead
      exact .apart after
    · exact .later hword h

theorem not_givesFlag_nil : ¬ GivesFlag name [] := nofun

theorem givesFlag_cons_iff (hname : IsOptionName name) : GivesFlag name (word :: rest) ↔
    shapeOf word = .long name none ∨ (shapeOf word ≠ .separator ∧ GivesFlag name rest) := by
  rw [shapeOf_eq_long_iff hname, Ne, shapeOf_eq_separator_iff, GivesFlag, GivesFlag]
  by_cases hword : word = "--"
  · have hne : "--" ≠ longWord name none := by
      intro h
      have hshape := shapeOf_longWord hname none
      rw [← h] at hshape
      cases hshape
    simp [hword, hne]
  · rw [List.takeWhile_cons_of_pos (by simpa using hword), List.mem_cons]
    simp only [hword, not_false_eq_true, true_and, longWord, eq_comm]

theorem value?_append {v : String} {other : String} (h : a.value? other = none) :
    ({ a with values := a.values ++ [(other, v)] } : Arguments).value? name = some value ↔
      a.value? name = some value ∨ (other = name ∧ v = value) := by
  unfold value? at h ⊢
  rw [List.lookup_append, List.lookup_cons, List.lookup_nil]
  by_cases hname : name = other
  · subst hname
    simp [h]
  · have hbeq : (name == other) = false := by simpa using hname
    simp [hbeq, Ne.symm hname]

namespace Scans

/-- Reading moves a value from the words to what is read, but loses none and makes none up. -/
theorem gives_iff (h : Scans g a words b) (hname : IsOptionName name) (hflag : name ∉ g.flags)
    (hsubcommand : a.subcommand = none) (value : String) :
    a.value? name = some value ∨ Gives name value words ↔
      b.value? name = some value ∨ Gives name value b.remaining := by
  induction h with
  | done => simp [remaining, hsubcommand, not_gives_nil]
  | separator hshape hvalues hflags hkept =>
      simp [gives_cons_iff hname, hshape, remaining, hkept, hsubcommand, not_gives_nil, value?,
        hvalues]
  | joined hshape htakes hnew h ih =>
      rw [← ih hsubcommand, gives_cons_iff hname, value?_append hnew]
      simp [hshape, or_assoc]
  | apart hshape hplain htakes hnew h ih =>
      rw [← ih hsubcommand, gives_cons_iff hname, gives_cons_iff hname, value?_append hnew]
      simp [hshape, hplain, or_assoc]
  | flag hshape htakes hin h ih =>
      rw [← ih hsubcommand, gives_cons_iff hname]
      have hne : ∀ {other : String}, other ∈ g.flags → other ≠ name := by
        rintro other hother rfl
        exact hflag hother
      simp [hshape, hne hin, value?]
  | subcommand hshape _ =>
      rw [gives_cons_iff hname]
      simp [hshape, remaining, value?]
  | plain hshape h ih =>
      rw [← ih hsubcommand, gives_cons_iff hname]
      simp [hshape, value?]

/-- The same of a flag, whose word could be mistaken for an option that takes a value. -/
theorem givesFlag_iff (h : Scans g a words b) (hname : IsOptionName name)
    (htakes : takesValue g name = false) (hsubcommand : a.subcommand = none) :
    a.hasFlag name = true ∨ GivesFlag name words ↔
      b.hasFlag name = true ∨ GivesFlag name b.remaining := by
  induction h with
  | done => simp [remaining, hsubcommand, not_givesFlag_nil]
  | separator hshape hvalues hflags hkept =>
      simp [givesFlag_cons_iff hname, hshape, remaining, hkept, hsubcommand, not_givesFlag_nil,
        hasFlag, hflags]
  | joined hshape hother hnew h ih =>
      rw [← ih hsubcommand, givesFlag_cons_iff hname]
      simp [hshape, hasFlag]
  | @apart _ _ _ other _ _ hshape hplain hother hnew h ih =>
      rw [← ih hsubcommand, givesFlag_cons_iff hname, givesFlag_cons_iff hname]
      have hne : other ≠ name := by
        rintro rfl
        rw [hother] at htakes
        cases htakes
      simp [hshape, hplain, hasFlag, hne]
  | @flag _ _ _ other _ hshape hother hin h ih =>
      rw [← ih hsubcommand, givesFlag_cons_iff hname]
      simp [hshape, hasFlag, or_assoc, @eq_comm _ other name]
  | subcommand hshape _ =>
      rw [givesFlag_cons_iff hname]
      simp [hshape, remaining, hasFlag]
  | plain hshape h ih =>
      rw [← ih hsubcommand, givesFlag_cons_iff hname]
      simp [hshape, hasFlag]

/-- What is not among the options gets no value. -/
theorem value?_eq_none (h : Scans g a words b) (htakes : takesValue g name = false)
    (hnone : a.value? name = none) : b.value? name = none := by
  have hadded : ∀ {a : Arguments} {other value : String}, takesValue g other = true →
      a.value? other = none → a.value? name = none →
        ({ a with values := a.values ++ [(other, value)] } : Arguments).value? name = none := by
    intro a other value hother hnew hnone
    rw [Option.eq_none_iff_forall_ne_some]
    intro v hv
    rcases (value?_append hnew).mp hv with hv | ⟨rfl, -⟩
    · rw [hnone] at hv
      cases hv
    · rw [htakes] at hother
      cases hother
  induction h with
  | done => exact hnone
  | separator _ hvalues => rwa [value?, hvalues]
  | joined _ hother hnew _ ih | apart _ _ hother hnew _ ih => exact ih (hadded hother hnew hnone)
  | flag _ _ _ _ ih | plain _ _ ih => exact ih hnone
  | subcommand => exact hnone

/-- What is not among the flags is not raised. -/
theorem hasFlag_eq_false (h : Scans g a words b) (hflag : name ∉ g.flags)
    (hnone : a.hasFlag name = false) : b.hasFlag name = false := by
  induction h with
  | done => exact hnone
  | separator _ _ hflags => rwa [hasFlag, hflags]
  | joined _ _ _ _ ih | apart _ _ _ _ _ ih | plain _ _ ih => exact ih hnone
  | @flag a _ _ other _ _ _ hin _ ih =>
      refine ih ?_
      have hne : name ≠ other := by
        rintro rfl
        exact hflag hin
      simpa [hasFlag, hne] using hnone
  | subcommand => exact hnone

theorem subcommand_eq_none (h : Scans g a words b) (hsubcommands : g.subcommands = [])
    (hnone : a.subcommand = none) : b.subcommand = none := by
  induction h with
  | done => exact hnone
  | separator _ _ _ hkept => rw [hkept, hnone]
  | joined _ _ _ _ ih | apart _ _ _ _ _ ih | flag _ _ _ _ ih | plain _ _ ih => exact ih hnone
  | subcommand _ hin =>
      rw [hsubcommands] at hin
      cases hin

theorem remaining_eq_nil (h : Scans g {} words b) (hsubcommands : g.subcommands = []) :
    b.remaining = [] := by
  rw [remaining, h.subcommand_eq_none hsubcommands rfl]
  rfl

end Scans

section Scan

variable (h : scan g {} words = .ok b) (hname : IsOptionName name)

include h hname

/-- Where there are no subcommands the values are those that stand on the line. -/
theorem value?_eq_some_iff_of_scan (hflag : name ∉ g.flags) (hsubcommands : g.subcommands = []) :
    b.value? name = some value ↔ Gives name value words := by
  have hscans := scans_of_scan h
  have hgives := hscans.gives_iff hname hflag rfl value
  rw [hscans.remaining_eq_nil hsubcommands] at hgives
  simpa [value?, not_gives_nil] using hgives.symm

theorem hasFlag_iff_of_scan (htakes : takesValue g name = false)
    (hsubcommands : g.subcommands = []) : b.hasFlag name = true ↔ GivesFlag name words := by
  have hscans := scans_of_scan h
  have hgives := hscans.givesFlag_iff hname htakes rfl
  rw [hscans.remaining_eq_nil hsubcommands] at hgives
  simpa [hasFlag, not_givesFlag_nil] using hgives.symm

/-- What belongs to a subcommand alone stands after its name. -/
theorem gives_remaining_iff (hflag : name ∉ g.flags) (htakes : takesValue g name = false) :
    Gives name value b.remaining ↔ Gives name value words := by
  have hscans := scans_of_scan h
  have hgives := hscans.gives_iff hname hflag rfl value
  rw [hscans.value?_eq_none htakes rfl] at hgives
  simpa [value?] using hgives.symm

theorem givesFlag_remaining_iff (hflag : name ∉ g.flags) (htakes : takesValue g name = false) :
    GivesFlag name b.remaining ↔ GivesFlag name words := by
  have hscans := scans_of_scan h
  have hgives := hscans.givesFlag_iff hname htakes rfl
  rw [hscans.hasFlag_eq_false hflag rfl] at hgives
  simpa [hasFlag] using hgives.symm

end Scan

end DealForm.Arguments
