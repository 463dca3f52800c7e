import DealForm.Settings.Basic

/-!
# Reading settings

Settings are written as an object, in which keys may stand in any order and unknown ones are
passed over, or as an array of the first fields in their fixed order. Both forms read each field
in the same way and give a missing one its default.
-/

namespace DealForm.Settings

inductive Field where
  | logLevel
  | jsonLogs
  | logToFile
  | baseUrl
  | presets
  | metadata
  | downloadDir
  | requestTimeoutSecs
  deriving DecidableEq, Repr

namespace Field

/-- The fields in the order of the array form. -/
def all : List Field :=
  [logLevel, jsonLogs, logToFile, baseUrl, presets, metadata, downloadDir, requestTimeoutSecs]

def key : Field → String
  | logLevel => "log_level"
  | jsonLogs => "json_logs"
  | logToFile => "log_to_file"
  | baseUrl => "base_url"
  | presets => "presets"
  | metadata => "metadata"
  | downloadDir => "download_dir"
  | requestTimeoutSecs => "request_timeout_secs"

def ofKey? (key : String) : Option Field :=
  all.find? (·.key == key)

end Field

structure Draft where
  logLevel : Option LogLevel := none
  jsonLogs : Option Bool := none
  logToFile : Option Bool := none
  baseUrl : Option String := none
  presets : Option (List Preset) := none
  metadata : Option Metadata := none
  downloadDir : Option (Option String) := none
  requestTimeoutSecs : Option (Option Nat) := none

namespace Draft

def has (d : Draft) : Field → Bool
  | .logLevel => d.logLevel.isSome
  | .jsonLogs => d.jsonLogs.isSome
  | .logToFile => d.logToFile.isSome
  | .baseUrl => d.baseUrl.isSome
  | .presets => d.presets.isSome
  | .metadata => d.metadata.isSome
  | .downloadDir => d.downloadDir.isSome
  | .requestTimeoutSecs => d.requestTimeoutSecs.isSome

/-- The fields read. A field that was not read has a default of its own, which is told here and not
taken from the standard settings. -/
def complete (d : Draft) : Settings where
  logLevel := d.logLevel.getD .standard
  jsonLogs := d.jsonLogs.getD false
  logToFile := d.logToFile.getD false
  baseUrl := d.baseUrl.getD defaultBaseUrl
  presets := d.presets.getD defaultPresets
  metadata := d.metadata.getD .standard
  downloadDir := d.downloadDir.getD none
  requestTimeoutSecs := d.requestTimeoutSecs.getD none

end Draft

def store {α : Type} (read : Json.Reader α) (put : α → Draft) : Json.Reader Draft := fun s ↦ do
  let (v, rest) ← read s
  .ok (put v, rest)

/-- Reads the value of a field. Metadata stand inside the settings, one container deeper. -/
def Field.read (d : Draft) : Field → Json.Reader Draft
  | .logLevel => store LogLevel.reader fun v ↦ { d with logLevel := some v }
  | .jsonLogs => store (Json.typed .truth) fun v ↦ { d with jsonLogs := some v }
  | .logToFile => store (Json.typed .truth) fun v ↦ { d with logToFile := some v }
  | .baseUrl => store (Json.typed (.text "a string")) fun v ↦ { d with baseUrl := some v }
  | .presets => store (Json.listOf Preset.reader) fun v ↦ { d with presets := some v }
  | .metadata =>
    store (Metadata.reader (Json.maxDepth - 2)) fun v ↦ { d with metadata := some v }
  | .downloadDir =>
    store (Json.typed (.orNull (.text "path string"))) fun v ↦ { d with downloadDir := some v }
  | .requestTimeoutSecs =>
    store (Json.typed (.orNull .nat64)) fun v ↦
      { d with requestTimeoutSecs := some (v.map Int.toNat) }

def member (d : Draft) (key : String) : Json.Reader Draft := fun s ↦
  match Field.ofKey? key with
  | none => do
    let rest ← Json.skipValue (← Json.colon s)
    .ok (d, rest)
  | some field =>
    if d.has field then .error (Json.duplicate key s)
    else do
      let rest ← Json.colon s
      field.read d rest

def itemsReader : List Field → Bool → Draft → Json.Reader Draft
  | [], _, d, s => .ok (d, s)
  | field :: fields, isFirst, d, s => do
    let (d', rest) ← Json.nextItem (field.read d) isFirst s
    match d' with
    | none => .ok (d, rest)
    | some d => itemsReader fields false d rest

def reader : Json.Reader Settings := fun s ↦
  match Json.skipBlanks s with
  | '{' :: rest => do
    let (d, rest) ← Json.objectMembers member {} rest
    .ok (d.complete, rest)
  | '[' :: rest => do
    let (d, rest) ← (itemsReader Field.all true {} rest).mapError
      (Json.Fault.settle Json.afterArray)
    let rest ← Json.endOfArray rest
    .ok (d.complete, rest)
  | [] => .error (.peek .endOfValue [])
  | rest => Json.refuse "struct Settings" rest

def parse (text : String) : Except Json.Report Settings :=
  Json.decode reader text

end DealForm.Settings
