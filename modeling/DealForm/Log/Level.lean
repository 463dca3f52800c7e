import DealForm.Json.Stated
import DealForm.Text.Lowercase

/-!
# Log levels

Five levels, from the finest to the gravest. A user may write their names in letters of either case
and call a warning by its full name.
-/

namespace DealForm

inductive LogLevel where
  | trace
  | debug
  | info
  | warn
  | error
  deriving DecidableEq, Repr, Inhabited

namespace LogLevel

/-- The level of settings that name none. -/
def standard : LogLevel := warn

def name : LogLevel → String
  | trace => "trace"
  | debug => "debug"
  | info => "info"
  | warn => "warn"
  | error => "error"

def label : LogLevel → String
  | trace => "TRACE"
  | debug => "DEBUG"
  | info => "INFO"
  | warn => "WARN"
  | error => "ERROR"

def severity : LogLevel → Nat
  | trace => 0
  | debug => 1
  | info => 2
  | warn => 3
  | error => 4

def names : List (String × LogLevel) :=
  [("trace", trace), ("debug", debug), ("info", info), ("warn", warn), ("warning", warn),
    ("error", error)]

structure Unknown where
  text : String
  deriving DecidableEq, Repr

def Unknown.message (u : Unknown) : String :=
  "Invalid log level: " ++ u.text

def parse (text : String) : Except Unknown LogLevel :=
  match names.find? fun entry ↦ entry.1 == Text.lowercase text with
  | some entry => .ok entry.2
  | none => .error ⟨text⟩

def toJson (level : LogLevel) : Json :=
  .string level.name

/-- Reads a level from a JSON string. A name that is unknown has no place of its own. -/
def reader : Json.Reader LogLevel := fun s ↦ do
  let (text, rest) ← Json.typed (.text "a string") s
  match parse text with
  | .ok level => .ok (level, rest)
  | .error u => .error (Json.refusal u.message rest)

end LogLevel

end DealForm
