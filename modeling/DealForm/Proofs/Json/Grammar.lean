import DealForm.Json.Reader
import Mathlib.Data.List.Basic

/-!
# The grammar of JSON texts

Which texts write values, in whatever layout. What a text writes is kept as a tree: an array has
its items, and an object has its members in their order, repetitions included. Which scalars and
keys are well-formed is said without any reader; what one denotes is what is read of it alone, and
that may be nothing, as of a number out of range or of half a surrogate pair.
-/

namespace DealForm.Json

/-! ## Strings and numbers -/

/-- What may stand between the quotes of a string. -/
inductive StringText : List Char → Prop
  | nil : StringText []
  | plain {c : Char} {cs : List Char} (hquote : c ≠ '"') (hslash : c ≠ '\\')
      (hcontrol : 0x20 ≤ c.toNat) (h : StringText cs) : StringText (c :: cs)
  | escape {c : Char} {cs : List Char} (hc : c ∈ ['"', '\\', '/', 'b', 'f', 'n', 'r', 't'])
      (h : StringText cs) : StringText ('\\' :: c :: cs)
  | unicode {a b c d : Char} {cs : List Char} (hdigits : (hexQuad? a b c d).isSome)
      (h : StringText cs) : StringText ('\\' :: 'u' :: a :: b :: c :: d :: cs)

def IsDigits (cs : List Char) : Prop :=
  cs ≠ [] ∧ ∀ c ∈ cs, c.isDigit = true

inductive ExponentText : List Char → Prop
  | none : ExponentText []
  | some {e : Char} {sign ds : List Char} (he : e = 'e' ∨ e = 'E')
      (hsign : sign = [] ∨ sign = ['+'] ∨ sign = ['-']) (hds : IsDigits ds) :
      ExponentText (e :: (sign ++ ds))

/-- What may follow the integer part of a number. -/
inductive FractionText : List Char → Prop
  | none {es : List Char} (he : ExponentText es) : FractionText es
  | some {ds es : List Char} (hds : IsDigits ds) (he : ExponentText es) :
      FractionText ('.' :: (ds ++ es))

/-- A number without its sign. -/
inductive NumberText : List Char → Prop
  | zero {fs : List Char} (hf : FractionText fs) : NumberText ('0' :: fs)
  | digits {ds fs : List Char} (hds : IsDigits ds) (hzero : ds.head? ≠ some '0')
      (hf : FractionText fs) : NumberText (ds ++ fs)

inductive ScalarText : List Char → Prop
  | nullWord : ScalarText ['n', 'u', 'l', 'l']
  | trueWord : ScalarText ['t', 'r', 'u', 'e']
  | falseWord : ScalarText ['f', 'a', 'l', 's', 'e']
  | string {cs : List Char} (h : StringText cs) : ScalarText ('"' :: (cs ++ ['"']))
  | positive {cs : List Char} (h : NumberText cs) : ScalarText cs
  | negative {cs : List Char} (h : NumberText cs) : ScalarText ('-' :: cs)

/-! ## Lists between brackets -/

def IsBlanks (cs : List Char) : Prop :=
  ∀ c ∈ cs, isBlank c = true

section

variable {α : Type}

/-- What follows an item of a list, up to the closing bracket. -/
inductive AfterItem (closing : Char) (item : α → List Char → Prop) :
    List α → List Char → Prop
  | nil {bs : List Char} (hbs : IsBlanks bs) : AfterItem closing item [] (bs ++ [closing])
  | cons {a : α} {as : List α} {bs bs' cs ds : List Char} (hbs : IsBlanks bs)
      (hbs' : IsBlanks bs') (ha : item a cs) (has : AfterItem closing item as ds) :
      AfterItem closing item (a :: as) (bs ++ ',' :: (bs' ++ (cs ++ ds)))

/-- What follows the opening bracket of a list. -/
inductive AfterBracket (closing : Char) (item : α → List Char → Prop) :
    List α → List Char → Prop
  | nil {bs : List Char} (hbs : IsBlanks bs) : AfterBracket closing item [] (bs ++ [closing])
  | cons {a : α} {as : List α} {bs cs ds : List Char} (hbs : IsBlanks bs) (ha : item a cs)
      (has : AfterItem closing item as ds) :
      AfterBracket closing item (a :: as) (bs ++ (cs ++ ds))

theorem AfterItem.exists_text {closing : Char} {item : α → List Char → Prop} {as : List α}
    {ds : List Char} (h : AfterItem closing item as ds) : ∀ a ∈ as, ∃ cs, item a cs := by
  induction h with
  | nil => nofun
  | @cons a as bs bs' cs ds hbs hbs' ha has ih => exact List.forall_mem_cons.mpr ⟨⟨cs, ha⟩, ih⟩

theorem AfterBracket.exists_text {closing : Char} {item : α → List Char → Prop} {as : List α}
    {ds : List Char} (h : AfterBracket closing item as ds) : ∀ a ∈ as, ∃ cs, item a cs := by
  cases h with
  | nil => nofun
  | @cons a as bs cs ds hbs ha has => exact List.forall_mem_cons.mpr ⟨⟨cs, ha⟩, has.exists_text⟩

end

/-! ## Values -/

inductive Tree where
  | scalar (v : Option Json)
  | array (items : List Tree)
  | object (members : List (Option String × Tree))

def scalarOf (cs : List Char) : Option Json :=
  (scalar cs).toOption.map Prod.fst

def keyOf (cs : List Char) : Option String :=
  (stringLiteral (cs ++ ['"'])).toOption.map Prod.fst

inductive WritesMember (writes : Tree → List Char → Prop) :
    Option String × Tree → List Char → Prop
  | mk {t : Tree} {ks bs bs' cs : List Char} (hkey : StringText ks) (hbs : IsBlanks bs)
      (hbs' : IsBlanks bs') (ht : writes t cs) :
      WritesMember writes (keyOf ks, t) ('"' :: (ks ++ '"' :: (bs ++ ':' :: (bs' ++ cs))))

theorem WritesMember.exists_value {writes : Tree → List Char → Prop} {m : Option String × Tree}
    {cs : List Char} (h : WritesMember writes m cs) : ∃ ds, writes m.2 ds := by
  cases h with
  | mk _ _ _ ht => exact ⟨_, ht⟩

/-- The text, without blanks around it, writes the tree. -/
inductive Writes : Tree → List Char → Prop
  | scalar {cs : List Char} (h : ScalarText cs) : Writes (.scalar (scalarOf cs)) cs
  | array {ts : List Tree} {cs : List Char} (h : AfterBracket ']' Writes ts cs) :
      Writes (.array ts) ('[' :: cs)
  | object {ms : List (Option String × Tree)} {cs : List Char}
      (h : AfterBracket '}' (WritesMember Writes) ms cs) : Writes (.object ms) ('{' :: cs)

/-- The whole text writes the tree. -/
def IsTextOf (t : Tree) (text : String) : Prop :=
  ∃ bs cs bs', text.toList = bs ++ (cs ++ bs') ∧ IsBlanks bs ∧ Writes t cs ∧ IsBlanks bs'

end DealForm.Json
