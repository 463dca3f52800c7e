import DealForm.Api.Client
import DealForm.CommandLine.Footprint
import DealForm.Http.Replay
import DealForm.Http.Wire
import Std.Async.DNS
import Std.Async.TCP
import Std.Async.Timer
import Std.Time

/-!
# The program

Gathers what a run looks at: the arguments, the variables, the files of its footprint and the
answers to its requests. The run itself is then computed, and its files and texts are put where they
belong.
-/

namespace DealForm.Program

open Std.Async

/-! ## The file system -/

def systemText (place : Location) : String :=
  (Path.mk (Path.slash :: Path.joinSlashes place)).display

def readNode? (place : Location) : IO (Option FileNode) := do
  try
    return some (.file (← IO.FS.readBinFile (systemText place)).toList)
  catch
    | .noFileOrDirectory .. => return none
    | .inappropriateType _ code _ => return if code = 21 then some .directory else none
    | fault => throw fault

def gather (files : FileTree) (p : Path) : IO FileTree :=
  (p.waypoints files.workingDirectory).foldlM (fun files place ↦ do
    return match ← readNode? place with
      | some node => files.put place node
      | none => files) files

/-- The tree that holds nothing but the working directory and those above it. -/
def standing : IO FileTree := do
  let here := (Path.ofString (toString (← IO.currentDir))).names
  let above := (Location.along [] here).map fun place ↦ (place, FileNode.directory)
  return { entries := above, workingDirectory := here }

/-- Makes the directories and writes the files that are not as they were. -/
def store (old new : FileTree) : IO Unit := do
  for (place, node) in new.entries do
    if node = .directory && !old.isDirectoryAt place then
      IO.FS.createDirAll (systemText place)
  for (path, content) in new.filesBelow [] do
    if (old.filesBelow []).lookup path != some content then
      IO.FS.writeBinFile (Path.mk (Path.slash :: path)).display ⟨content.toArray⟩

/-! ## The network -/

/-- The head of a request as it is sent. The headers that every message needs are added here. -/
def headOf (request : Request) : List Bytes :=
  let length := request.body.map fun body ↦ ⟨"content-length", toString body.length⟩
  let place : Header := ⟨"host", String.ofList request.address.authorityChars⟩
  Utf8.encode (request.method.label ++ " " ++ request.address.target ++ " HTTP/1.1") ::
    (request.headers ++ length.toList ++ [place]).map Header.line

/-- Sends a message and collects what comes back until it is a whole response. True if the
connection ended first. -/
def exchange (address : Std.Net.SocketAddress) (message : Bytes) (received : IO.Ref ByteArray) :
    Async Bool := do
  let socket ← TCP.Socket.Client.mk
  socket.connect address
  socket.send ⟨message.toArray⟩
  repeat
    match ← socket.recv? 65536 with
    | none => return true
    | some more =>
      received.modify (· ++ more)
      if Wire.isWhole (← received.get).toList then return false
  return false

def addresses (host : Host) (port : UInt16) : Async (Array Std.Net.SocketAddress) := do
  let name := String.ofList (host.toChars.filter fun c ↦ c != '[' && c != ']')
  let found ← DNS.getAddrInfo name (toString port)
  return found.map fun
    | .v4 addr => .v4 ⟨addr, port⟩
    | .v6 addr => .v6 ⟨addr, port⟩

/-- Gives up after a time in milliseconds, if there is a limit. -/
def within (limit? : Option Nat) (work : Async Bool) : Async Bool :=
  match limit? with
  | none => work
  | some limit => Async.race work (do
      sleep (.ofNat limit)
      return false)

/-- Sends a request. Only plain connections can be made. A request that takes too long ends like
one whose connection breaks off. -/
def send (limit? : Option Nat) (request : Request) : IO Answer := do
  let u := request.address
  let some host := u.host | return .refused
  if u.scheme != "http".toList then return .refused
  let port := (u.effectivePort?.getD 80).toUInt16
  try
    let places ← (addresses host port).block
    let some address := places[0]? | return .refused
    let received ← IO.mkRef ByteArray.empty
    let message := Wire.message (headOf request) (request.body.getD [])
    let isEnded ← (within limit? (exchange address message received)).block
    return .ofWire isEnded (← received.get).toList
  catch _ => return .closed

/-! ## The run -/

/-- The longest wait that is timed, in milliseconds. -/
def maxWait : Nat := 0xFFFFFFFFFFFF

/-- Computes a run again and again, with one answer more each time, until each of its requests has
one; a run has at most one transfer, and the limit in seconds is one for all its requests. -/
def runWith (boundary : String) (start : Start) (words : List String) (files : FileTree)
    (timeout? : Option Nat) : IO (Finish × FileTree) := do
  let begun ← IO.monoMsNow
  let mut answers : List Answer := []
  for _ in [0:Transfer.maxRedirects + 1] do
    let (_, _, replay) :=
      runProgram (.http boundary Replay.network) start words files ⟨answers, none⟩
    match replay.unanswered with
    | some request =>
      let spent := (← IO.monoMsNow) - begun
      let limit? := timeout?.map fun seconds ↦ min (1000 * seconds) maxWait - spent
      answers := answers ++ [← send limit? request]
    | none => break
  let (finish, files, _) :=
    runProgram (.http boundary Replay.network) start words files ⟨answers, none⟩
  return (finish, files)

/-- The files that a command line makes the program look at, and how many seconds its requests may
take. -/
def prepare (env : Environment) (words : List String) : IO (FileTree × Option Nat) := do
  let files ← standing
  match Invocation.parse env words with
  | .error _ => return (files, none)
  | .ok i =>
    let file := i.settingsFile env
    let files ← gather files file
    match Settings.load files file with
    | .error _ => return (files, none)
    | .ok settings =>
      return (← (i.footprint settings env).foldlM gather files, settings.timeout?)

def variableNames : List String :=
  ["DELTA_UPLOADER_HOME", "HOME", "USERPROFILE", "DELTA_API_KEY", "RUST_LOG"]

def environment : IO Environment := do
  let found ← variableNames.filterMapM fun name ↦ do
    return (← IO.getEnv name).map fun value ↦ (name, value)
  return fun name ↦ found.lookup name

def now : IO String := do
  return (← Std.Time.PlainDateTime.now).format "uuuu-MM-dd'T'HH:mm:ss.SSSSSS'Z'"

/-- A boundary between the parts of a form, made by chance. -/
def freshBoundary : IO String := do
  let parts ← (List.range 4).mapM fun _ ↦ do
    let digits := Nat.toDigits 16 (← IO.rand 0 0xFFFFFFFFFFFFFFFF)
    return String.ofList (List.replicate (16 - digits.length) '0' ++ digits)
  return "-".intercalate parts

end DealForm.Program

open DealForm.Program in
def main (args : List String) : IO UInt32 := do
  let env ← environment
  let start : DealForm.Start := { env, time := ← now }
  try
    let (files, timeout?) ← prepare env args
    let (finish, after) ← runWith (← freshBoundary) start args files timeout?
    store files after
    IO.print finish.stdout
    if let some error := finish.error then IO.eprintln error
    if let some file := finish.saved then IO.eprintln ("Saved " ++ file.display)
    return finish.code.toUInt32
  catch fault =>
    IO.eprintln ("error: IO error: " ++ toString fault)
    return 1
