import DealForm.Json.Decoder

/-!
# Deal metadata

The parameters of a deal that travel with an upload: four named fields and any further ones, which
are forwarded untouched. A text of metadata is a JSON object; a field that is missing keeps its
default, and a named field may be given only once.
-/

namespace DealForm

structure Metadata where
  dealVerifyState : String := "verified"
  durationInDays : Int := 521
  startEpochInDays : Int := 1
  autoRetry : Bool := true
  /-- Further fields, in the order in which they were given. -/
  extra : Entries := []
  deriving Repr

namespace Metadata

def standard : Metadata := {}

def toJson (m : Metadata) : Json :=
  .object <|
    ("deal_verify_state", .string m.dealVerifyState) ::
    ("duration_in_days", .number (.int m.durationInDays)) ::
    ("start_epoch_in_days", .number (.int m.startEpochInDays)) ::
    ("auto_retry", .bool m.autoRetry) :: m.extra

def formValue (m : Metadata) : String :=
  m.toJson.compact

/-- Equal up to the order of object entries in the further fields, at every depth. -/
def same (m n : Metadata) : Bool :=
  m.dealVerifyState == n.dealVerifyState && m.durationInDays == n.durationInDays &&
    m.startEpochInDays == n.startEpochInDays && m.autoRetry == n.autoRetry &&
    (Json.object m.extra).same (.object n.extra)

structure Draft where
  dealVerifyState : Option String := none
  durationInDays : Option Int := none
  startEpochInDays : Option Int := none
  autoRetry : Option Bool := none
  extra : Entries := []

namespace Draft

def complete (d : Draft) : Metadata where
  dealVerifyState := d.dealVerifyState.getD standard.dealVerifyState
  durationInDays := d.durationInDays.getD standard.durationInDays
  startEpochInDays := d.startEpochInDays.getD standard.startEpochInDays
  autoRetry := d.autoRetry.getD standard.autoRetry
  extra := d.extra

end Draft

def readOnce {α : Type} (field : String) (old : Option α) (t : Json.ScalarType α) :
    Json.Reader α := fun s ↦
  match old with
  | some _ => .error (Json.duplicate field s)
  | none => do
    let rest ← Json.colon s
    Json.typed t rest

/-- Reads what follows a key; `budget` containers may be open in the value of a further field. -/
def member (budget : Nat) (d : Draft) (key : String) : Json.Reader Draft := fun s ↦
  if key = "deal_verify_state" then do
    let (v, rest) ← readOnce key d.dealVerifyState (.text "a string") s
    .ok ({ d with dealVerifyState := some v }, rest)
  else if key = "duration_in_days" then do
    let (v, rest) ← readOnce key d.durationInDays .int64 s
    .ok ({ d with durationInDays := some v }, rest)
  else if key = "start_epoch_in_days" then do
    let (v, rest) ← readOnce key d.startEpochInDays .int64 s
    .ok ({ d with startEpochInDays := some v }, rest)
  else if key = "auto_retry" then do
    let (v, rest) ← readOnce key d.autoRetry .truth s
    .ok ({ d with autoRetry := some v }, rest)
  else do
    let (es, rest) ← Json.anyMember (Json.value budget) d.extra key s
    .ok ({ d with extra := es }, rest)

/-- Reads metadata inside which at most `budget + 1` containers are open at once. -/
def reader (budget : Nat) : Json.Reader Metadata := fun s ↦
  match Json.skipBlanks s with
  | '{' :: rest => do
    let (d, rest) ← Json.objectMembers (member budget) {} rest
    .ok (d.complete, rest)
  | [] => .error (.peek .endOfValue [])
  | rest => Json.refuse "struct DealMetadata" rest

def parse (text : String) : Except Json.Report Metadata :=
  Json.decode (reader (Json.maxDepth - 1)) text

end Metadata

end DealForm
