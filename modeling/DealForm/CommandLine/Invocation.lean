import DealForm.Command
import DealForm.CommandLine.Arguments

/-!
# Invocations

What a command line asks for. Two options may stand before or after the subcommand, where the later
one counts; the others belong to one subcommand. The key of an upload may also come from the
environment.
-/

namespace DealForm

inductive Subcommand where
  | upload (options : UploadOptions)
  /-- A lookup; `save` asks for a saved response, `saveDirectory` says where. -/
  | status (options : StatusOptions) (save : Bool)
  | presets
  | init
  | version
  deriving DecidableEq, Repr

structure Invocation where
  config : Option Path := none
  logLevel : Option LogLevel := none
  subcommand : Subcommand
  deriving DecidableEq, Repr

namespace Invocation

def isPath (text : String) : Bool :=
  !text.isEmpty

def isLevel (text : String) : Bool :=
  (LogLevel.parse text).toOption.isSome

def isKind (text : String) : Bool :=
  (StatusKind.parse text).toOption.isSome

def sharedOptions : List ValueOption :=
  [{ name := "config", accepts := isPath }, { name := "log-level", accepts := isLevel }]

def targetOptions : List ValueOption :=
  [{ name := "url" }, { name := "preset" }]

def grammar : Grammar where
  options := sharedOptions
  subcommands := ["upload", "status", "presets", "init", "version", "help"]
  tellsVersion := true

def uploadGrammar : Grammar where
  options := sharedOptions ++ targetOptions ++
    [{ name := "file", accepts := isPath }, { name := "miner" }, { name := "api-key" },
      { name := "metadata" }]

def statusGrammar : Grammar where
  options := sharedOptions ++ targetOptions ++
    [{ name := "kind", accepts := isKind }, { name := "content-url" },
      { name := "save-dir", accepts := isPath }]
  flags := ["save"]
  words := 1

def plainGrammar : Grammar where
  options := sharedOptions

/-- The choice of a base URL; a URL and a preset exclude each other. -/
def targetOf (a : Arguments) : Except Halt TargetOptions :=
  match a.value? "url", a.value? "preset" with
  | some _, some _ => .error .invalid
  | url, preset => .ok { url, preset }

def required {α : Type} : Option α → Except Halt α
  | some value => .ok value
  | none => .error .invalid

def uploadOf (env : Environment) (a : Arguments) : Except Halt Subcommand := do
  let target ← targetOf a
  let file ← required (a.value? "file")
  let minerId ← required (a.value? "miner")
  let apiKey ← required ((a.value? "api-key").or (env "DELTA_API_KEY"))
  return .upload
    { target, file := Path.ofString file, minerId, apiKey, metadata := a.value? "metadata" }

def kindOf (a : Arguments) : StatusKind :=
  ((a.value? "kind").bind fun text ↦ (StatusKind.parse text).toOption).getD .standard

def statusOf (a : Arguments) : Except Halt Subcommand := do
  let target ← targetOf a
  let contentId ← required a.words.head?
  return .status
    { target, contentId, kind := kindOf a, contentUrl := a.value? "content-url"
      saveDirectory := (a.value? "save-dir").map Path.ofString }
    (a.hasFlag "save")

def helpOf (topics : List String) : Halt :=
  match topics with
  | [] => .help
  | [topic] => if grammar.subcommands.contains topic then .help else .invalid
  | _ => .invalid

def subcommandOf (env : Environment) (name : String) (words : List String) :
    Except Halt (Arguments × Subcommand) :=
  if name = "upload" then do
    let a ← Arguments.scan uploadGrammar {} words
    return (a, ← uploadOf env a)
  else if name = "status" then do
    let a ← Arguments.scan statusGrammar {} words
    return (a, ← statusOf a)
  else if name = "help" then .error (helpOf words)
  else do
    let a ← Arguments.scan plainGrammar {} words
    if name = "presets" then return (a, .presets)
    else if name = "init" then return (a, .init)
    else return (a, .version)

def parse (env : Environment) (words : List String) : Except Halt Invocation := do
  let outer ← Arguments.scan grammar {} words
  let (name, rest) ← required outer.subcommand
  let (inner, subcommand) ← subcommandOf env name rest
  let shared (option : String) : Option String := (inner.value? option).or (outer.value? option)
  return {
    config := (shared "config").map Path.ofString
    logLevel := (shared "log-level").bind fun text ↦ (LogLevel.parse text).toOption
    subcommand }

end Invocation

end DealForm
