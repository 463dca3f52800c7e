import DealForm.Deal.Metadata
import DealForm.Log.Level
import DealForm.Settings.Preset

/-!
# Settings

What is configured once and kept in a file: logging, the base URL and the presets, the metadata of
uploads, where responses are saved, and how long a request may take. Every field has a default.
-/

namespace DealForm

def defaultBaseUrl : String := "http://localhost:1414"

def defaultPresets : List Preset := [⟨"local", defaultBaseUrl⟩]

structure Settings where
  logLevel : LogLevel := .standard
  jsonLogs : Bool := false
  logToFile : Bool := false
  baseUrl : String := defaultBaseUrl
  presets : List Preset := defaultPresets
  metadata : Metadata := {}
  /-- Where responses are saved when no directory is given. -/
  downloadDir : Option String := none
  requestTimeoutSecs : Option Nat := none
  deriving Repr

namespace Settings

def standard : Settings := {}

/-- The limit on a request in seconds; zero is none. -/
def timeout? (s : Settings) : Option Nat :=
  s.requestTimeoutSecs.filter (0 < ·)

def findPreset? (s : Settings) (key : String) : Option Preset :=
  Preset.find? s.presets key

def toJson (s : Settings) : Json :=
  .object [
    ("log_level", s.logLevel.toJson),
    ("json_logs", .bool s.jsonLogs),
    ("log_to_file", .bool s.logToFile),
    ("base_url", .string s.baseUrl),
    ("presets", .array (s.presets.map Preset.toJson)),
    ("metadata", s.metadata.toJson),
    ("download_dir", (s.downloadDir.map Json.string).getD .null),
    ("request_timeout_secs",
      (s.requestTimeoutSecs.map fun n ↦ Json.number (.int n)).getD .null)]

def text (s : Settings) : String :=
  s.toJson.stored

end Settings

end DealForm
