import DealForm.Decimal.Binary64

/-!
# JSON values

A value is a scalar, an array, or an object. An object keeps its entries in the order in which
their keys first came; a repeated key keeps its place and takes the last value. Two values may be
compared up to the order of object entries at every depth.
-/

namespace DealForm

/-- A number is an integer or a finite double, and the two never compare equal. -/
inductive Number where
  | int (n : Int)
  | float (x : Decimal.Binary64)
  deriving DecidableEq, Repr

namespace Number

def same : Number → Number → Bool
  | .int m, .int n => m == n
  | .float x, .float y => x.sameValue y
  | _, _ => false

end Number

inductive Json where
  | null
  | bool (b : Bool)
  | number (n : Number)
  | string (s : String)
  | array (items : List Json)
  | object (entries : List (String × Json))
  deriving Repr, Inhabited

abbrev Entries := List (String × Json)

namespace Entries

def get? (key : String) : Entries → Option Json
  | [] => none
  | (k, v) :: es => if k = key then some v else get? key es

/-- Gives a key a value: in its place if it is there, else at the end. -/
def insert (key : String) (value : Json) : Entries → Entries
  | [] => [(key, value)]
  | (k, v) :: es => if k = key then (k, value) :: es else (k, v) :: insert key value es

def ofMembers (members : List (String × Json)) : Entries :=
  members.foldl (fun es m ↦ insert m.1 m.2 es) []

def DistinctKeys (es : Entries) : Prop :=
  (es.map Prod.fst).Nodup

end Entries

namespace Json

mutual
/-- The value is the same up to the order of object entries, at every depth. -/
def same : Json → Json → Bool
  | .null, w => match w with
    | .null => true
    | _ => false
  | .bool a, w => match w with
    | .bool b => a == b
    | _ => false
  | .number m, w => match w with
    | .number n => m.same n
    | _ => false
  | .string s, w => match w with
    | .string t => s == t
    | _ => false
  | .array vs, w => match w with
    | .array ws => sameItems vs ws
    | _ => false
  | .object es, w => match w with
    | .object fs => es.length == fs.length && sameEntries es fs
    | _ => false
termination_by structural v => v

def sameItems : List Json → List Json → Bool
  | [], ws => ws.isEmpty
  | v :: vs, ws => match ws with
    | w :: ws => v.same w && sameItems vs ws
    | [] => false
termination_by structural vs => vs

def sameEntries : Entries → Entries → Bool
  | [], _ => true
  | e :: es, fs => sameEntry e fs && sameEntries es fs
termination_by structural es => es

def sameEntry : String × Json → Entries → Bool
  | (k, v), fs => match Entries.get? k fs with
    | some w => v.same w
    | none => false
termination_by structural e => e
end

mutual
/-- Every number in the value is an integer that fits 64 bits, signed or unsigned. -/
def HasIntegersOnly : Json → Prop
  | .number (.int n) => -0x8000000000000000 ≤ n ∧ n ≤ 0xFFFFFFFFFFFFFFFF
  | .number (.float _) => False
  | .array vs => ItemsHaveIntegersOnly vs
  | .object es => EntriesHaveIntegersOnly es
  | .null => True
  | .bool _ => True
  | .string _ => True
termination_by structural v => v

def ItemsHaveIntegersOnly : List Json → Prop
  | [] => True
  | v :: vs => v.HasIntegersOnly ∧ ItemsHaveIntegersOnly vs
termination_by structural vs => vs

def EntriesHaveIntegersOnly : Entries → Prop
  | [] => True
  | e :: es => EntryHasIntegersOnly e ∧ EntriesHaveIntegersOnly es
termination_by structural es => es

def EntryHasIntegersOnly : String × Json → Prop
  | (_, v) => v.HasIntegersOnly
termination_by structural e => e
end

mutual
def depth : Json → Nat
  | .array vs => itemsDepth vs + 1
  | .object es => entriesDepth es + 1
  | .null => 0
  | .bool _ => 0
  | .number _ => 0
  | .string _ => 0
termination_by structural v => v

def itemsDepth : List Json → Nat
  | [] => 0
  | v :: vs => max v.depth (itemsDepth vs)
termination_by structural vs => vs

def entriesDepth : Entries → Nat
  | [] => 0
  | e :: es => max (entryDepth e) (entriesDepth es)
termination_by structural es => es

def entryDepth : String × Json → Nat
  | (_, v) => v.depth
termination_by structural e => e
end

mutual
def HasDistinctKeys : Json → Prop
  | .array vs => ItemsHaveDistinctKeys vs
  | .object es => Entries.DistinctKeys es ∧ EntriesHaveDistinctKeys es
  | .null => True
  | .bool _ => True
  | .number _ => True
  | .string _ => True
termination_by structural v => v

def ItemsHaveDistinctKeys : List Json → Prop
  | [] => True
  | v :: vs => v.HasDistinctKeys ∧ ItemsHaveDistinctKeys vs
termination_by structural vs => vs

def EntriesHaveDistinctKeys : Entries → Prop
  | [] => True
  | e :: es => EntryHasDistinctKeys e ∧ EntriesHaveDistinctKeys es
termination_by structural es => es

def EntryHasDistinctKeys : String × Json → Prop
  | (_, v) => v.HasDistinctKeys
termination_by structural e => e
end

end Json

end DealForm
