import DealForm.Json.Printer
import DealForm.Text.Utf8

/-!
# Faults in JSON text

Why a text is no JSON document, or not one of the wanted shape, and where that shows. A reader
that fails names the cause and the rest of the text it stood at; the line and the column are
counted afterwards, in bytes, from the whole text.
-/

namespace DealForm.Json

inductive Found where
  | null
  | bool (b : Bool)
  | int (n : Int)
  | float (x : Decimal.Binary64)
  | string (s : String)
  | sequence
  | map
  deriving DecidableEq, Repr

namespace Found

def of : Json → Found
  | .null => .null
  | .bool b => .bool b
  | .number (.int n) => .int n
  | .number (.float x) => .float x
  | .string s => .string s
  | .array _ => .sequence
  | .object _ => .map

def message : Found → String
  | .null => "null"
  | .bool b => "boolean `" ++ (if b then "true" else "false") ++ "`"
  | .int n => "integer `" ++ String.ofList (intChars n) ++ "`"
  | .float x => "floating point `" ++ String.ofList (floatChars x) ++ "`"
  | .string s => "string " ++ Text.shown s
  | .sequence => "sequence"
  | .map => "map"

end Found

inductive Mismatch where
  | wrongType (found : Found) (expected : String)
  | wrongValue (found : Found) (expected : String)
  | wrongLength (length : Nat) (expected : String)
  | missingField (field : String)
  | duplicateField (field : String)
  /-- The reader of a field refuses its text, in words of its own. -/
  | refused (message : String)
  deriving DecidableEq, Repr

namespace Mismatch

def message : Mismatch → String
  | .wrongType found expected => "invalid type: " ++ found.message ++ ", expected " ++ expected
  | .wrongValue found expected => "invalid value: " ++ found.message ++ ", expected " ++ expected
  | .wrongLength length expected =>
    "invalid length " ++ toString length ++ ", expected " ++ expected
  | .missingField field => "missing field `" ++ field ++ "`"
  | .duplicateField field => "duplicate field `" ++ field ++ "`"
  | .refused message => message

end Mismatch

inductive Cause where
  | endOfList
  | endOfObject
  | endOfString
  | endOfValue
  | expectedColon
  | expectedListEnd
  | expectedObjectEnd
  | expectedWord
  | expectedValue
  | invalidEscape
  | invalidNumber
  | outOfRange
  | controlCharacter
  | keyNotString
  | loneSurrogate
  | unpairedSurrogate
  | trailingComma
  | trailingText
  | tooDeep
  | mismatch (m : Mismatch)
  deriving DecidableEq, Repr

namespace Cause

def message : Cause → String
  | .endOfList => "EOF while parsing a list"
  | .endOfObject => "EOF while parsing an object"
  | .endOfString => "EOF while parsing a string"
  | .endOfValue => "EOF while parsing a value"
  | .expectedColon => "expected `:`"
  | .expectedListEnd => "expected `,` or `]`"
  | .expectedObjectEnd => "expected `,` or `\x7d`"
  | .expectedWord => "expected ident"
  | .expectedValue => "expected value"
  | .invalidEscape => "invalid escape"
  | .invalidNumber => "invalid number"
  | .outOfRange => "number out of range"
  | .controlCharacter => "control character (\\u0000-\\u001F) found while parsing a string"
  | .keyNotString => "key must be a string"
  | .loneSurrogate => "lone leading surrogate in hex escape"
  | .unpairedSurrogate => "unexpected end of hex escape"
  | .trailingComma => "trailing comma"
  | .trailingText => "trailing characters"
  | .tooDeep => "recursion limit exceeded"
  | .mismatch m => m.message

end Cause

/-- A place in a text: lines from one, columns as the bytes of the line before the place. -/
structure Position where
  line : Nat
  column : Nat
  deriving DecidableEq, Repr

namespace Position

def advance : List Char → Nat → Position → Position
  | [], _, p => p
  | c :: cs, n, p =>
    if n = 0 then p
    else if c = '\n' then advance cs (n - 1) ⟨p.line + 1, 0⟩
    else advance cs (n - Utf8.charSize c) ⟨p.line, p.column + min n (Utf8.charSize c)⟩

def ofOffset (source : List Char) (offset : Nat) : Position :=
  advance source offset ⟨1, 0⟩

end Position

inductive Place where
  /-- So many bytes into the rest of the text. -/
  | here (rest : List Char) (ahead : Nat)
  /-- Nowhere yet: an enclosing reader places the fault where it stops itself. -/
  | pending (rest : List Char)
  /-- At a position that the fault's own words name. -/
  | stated (position : Position)
  deriving DecidableEq, Repr

structure Fault where
  cause : Cause
  place : Place
  deriving DecidableEq, Repr

namespace Fault

/-- The reader has taken the text before `rest`. -/
def stop (cause : Cause) (rest : List Char) : Fault :=
  ⟨cause, .here rest 0⟩

/-- The reader has looked at the next byte of `rest` without taking it. -/
def peek (cause : Cause) (rest : List Char) : Fault :=
  ⟨cause, .here rest 1⟩

/-- Places a fault that has no place yet, where the enclosing reader stops. -/
def settle (close : List Char → List Char) (f : Fault) : Fault :=
  match f.place with
  | .pending rest => ⟨f.cause, .here (close rest) 0⟩
  | _ => f

end Fault

structure Report where
  cause : Cause
  position : Option Position
  deriving DecidableEq, Repr

namespace Report

def message (r : Report) : String :=
  match r.position with
  | none => r.cause.message
  | some p =>
    r.cause.message ++ " at line " ++ toString p.line ++ " column " ++ toString p.column

end Report

def Fault.locate (source : List Char) (f : Fault) : Report :=
  match f.place with
  | .here rest ahead =>
    ⟨f.cause, some (Position.ofOffset source (Utf8.size source - Utf8.size rest + ahead))⟩
  | .pending _ => ⟨f.cause, none⟩
  | .stated position => ⟨f.cause, some position⟩

abbrev Reader (α : Type) := List Char → Except Fault (α × List Char)

end DealForm.Json
