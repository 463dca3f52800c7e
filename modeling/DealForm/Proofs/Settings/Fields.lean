import Mathlib.Logic.Function.Basic
import DealForm.Settings.Reader

/-!
# Settings as a record of fields

Settings and drafts of them seen as functions of the field, each field with a type of its own. Both
are determined by their fields, and setting one leaves the others.
-/

namespace DealForm.Settings

variable {d d' : Draft} {s s' : Settings} {field other : Field}

def Field.Value : Field → Type
  | .logLevel => LogLevel
  | .jsonLogs => Bool
  | .logToFile => Bool
  | .baseUrl => String
  | .presets => List Preset
  | .metadata => Metadata
  | .downloadDir => Option String
  | .requestTimeoutSecs => Option Nat

def get (s : Settings) : (field : Field) → field.Value
  | .logLevel => s.logLevel
  | .jsonLogs => s.jsonLogs
  | .logToFile => s.logToFile
  | .baseUrl => s.baseUrl
  | .presets => s.presets
  | .metadata => s.metadata
  | .downloadDir => s.downloadDir
  | .requestTimeoutSecs => s.requestTimeoutSecs

def of (value : (field : Field) → field.Value) : Settings where
  logLevel := value .logLevel
  jsonLogs := value .jsonLogs
  logToFile := value .logToFile
  baseUrl := value .baseUrl
  presets := value .presets
  metadata := value .metadata
  downloadDir := value .downloadDir
  requestTimeoutSecs := value .requestTimeoutSecs

theorem of_get (s : Settings) : of s.get = s := rfl

theorem get_of (value : (field : Field) → field.Value) (field : Field) :
    (of value).get field = value field := by
  cases field <;> rfl

theorem eq_of_get (h : ∀ field, s.get field = s'.get field) : s = s' := by
  rw [← of_get s, ← of_get s', funext h]

namespace Draft

def get (d : Draft) : (field : Field) → Option field.Value
  | .logLevel => d.logLevel
  | .jsonLogs => d.jsonLogs
  | .logToFile => d.logToFile
  | .baseUrl => d.baseUrl
  | .presets => d.presets
  | .metadata => d.metadata
  | .downloadDir => d.downloadDir
  | .requestTimeoutSecs => d.requestTimeoutSecs

def of (value : (field : Field) → Option field.Value) : Draft where
  logLevel := value .logLevel
  jsonLogs := value .jsonLogs
  logToFile := value .logToFile
  baseUrl := value .baseUrl
  presets := value .presets
  metadata := value .metadata
  downloadDir := value .downloadDir
  requestTimeoutSecs := value .requestTimeoutSecs

theorem of_get (d : Draft) : of d.get = d := rfl

theorem get_of (value : (field : Field) → Option field.Value) (field : Field) :
    (of value).get field = value field := by
  cases field <;> rfl

theorem eq_of_get (h : ∀ field, d.get field = d'.get field) : d = d' := by
  rw [← of_get d, ← of_get d', funext h]

def set (d : Draft) (field : Field) (v : field.Value) : Draft :=
  of (Function.update d.get field (some v))

theorem get_set (d : Draft) (field : Field) (v : field.Value) :
    (d.set field v).get field = some v := by
  rw [set, get_of, Function.update_self]

theorem get_set_of_ne (d : Draft) (v : field.Value) (h : other ≠ field) :
    (d.set field v).get other = d.get other := by
  rw [set, get_of, Function.update_of_ne h]

theorem get_empty (field : Field) : ({} : Draft).get field = none := by
  cases field <;> rfl

theorem has_eq_isSome (d : Draft) (field : Field) : d.has field = (d.get field).isSome := by
  cases field <;> rfl

theorem get_complete (d : Draft) (field : Field) :
    d.complete.get field = (d.get field).getD (standard.get field) := by
  cases field <;> rfl

end Draft

end DealForm.Settings
