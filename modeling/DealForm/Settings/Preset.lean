import DealForm.Json.Decoder

/-!
# Presets

Named base URLs to pick from. A preset is found by its name, or else by its exact URL, and of
several the first one is taken.
-/

namespace DealForm

structure Preset where
  name : String
  url : String
  deriving DecidableEq, Repr, Inhabited

namespace Preset

def find? (presets : List Preset) (key : String) : Option Preset :=
  (presets.find? (·.name == key)).or (presets.find? (·.url == key))

def toJson (p : Preset) : Json :=
  .object [("name", .string p.name), ("url", .string p.url)]

structure Draft where
  name : Option String := none
  url : Option String := none

namespace Draft

def complete (d : Draft) : Except Json.Mismatch Preset :=
  match d.name, d.url with
  | some name, some url => .ok ⟨name, url⟩
  | none, _ => .error (.missingField "name")
  | _, none => .error (.missingField "url")

end Draft

def textReader : Json.Reader String :=
  Json.typed (.text "a string")

/-- Reads what follows a key. The values of unknown keys are passed over. -/
def member (d : Draft) (key : String) : Json.Reader Draft := fun s ↦
  if key = "name" then
    match d.name with
    | some _ => .error (Json.duplicate key s)
    | none => do
      let (v, rest) ← textReader (← Json.colon s)
      .ok ({ d with name := some v }, rest)
  else if key = "url" then
    match d.url with
    | some _ => .error (Json.duplicate key s)
    | none => do
      let (v, rest) ← textReader (← Json.colon s)
      .ok ({ d with url := some v }, rest)
  else do
    let rest ← Json.skipValue (← Json.colon s)
    .ok (d, rest)

def itemsReader : Json.Reader Preset := fun s ↦ do
  let tooShort (n : Nat) (rest : List Char) : Json.Fault :=
    ⟨.mismatch (.wrongLength n "struct UrlPreset with 2 elements"), .pending rest⟩
  let (name, rest) ← Json.nextItem textReader true s
  match name with
  | none => .error (tooShort 0 rest)
  | some name => do
    let (url, rest) ← Json.nextItem textReader false rest
    match url with
    | none => .error (tooShort 1 rest)
    | some url => do
      let rest ← Json.endOfArray rest
      .ok (⟨name, url⟩, rest)

def reader : Json.Reader Preset := fun s ↦
  match Json.skipBlanks s with
  | '{' :: rest => do
    let (d, rest) ← Json.objectMembers member {} rest
    Json.concluded d.complete rest
  | '[' :: rest => (itemsReader rest).mapError (Json.Fault.settle Json.afterArray)
  | [] => .error (.peek .endOfValue [])
  | rest => Json.refuse "struct UrlPreset" rest

end Preset

end DealForm
