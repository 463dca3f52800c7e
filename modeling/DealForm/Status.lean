import DealForm.Text.Lowercase

/-!
# Status lookups

An identifier is looked up in one of six collections. Each has a name, by which a user asks for it
without regard to case, and a path that follows the base URL; the identifier follows as typed.
-/

namespace DealForm

inductive StatusKind where
  | content
  | dealByCid
  | dealByUuid
  | dealByDealId
  | miner
  | batchImport
  deriving DecidableEq, Repr, Inhabited

namespace StatusKind

def all : List StatusKind :=
  [content, dealByCid, dealByUuid, dealByDealId, miner, batchImport]

/-- The kind that is meant when none is named. -/
def standard : StatusKind := content

def name : StatusKind → String
  | content => "content"
  | dealByCid => "deal-by-cid"
  | dealByUuid => "deal-by-uuid"
  | dealByDealId => "deal-by-deal-id"
  | miner => "miner"
  | batchImport => "batch-import"

def path : StatusKind → String
  | content => "/open/stats/content/"
  | dealByCid => "/open/stats/deal/by-cid/"
  | dealByUuid => "/open/stats/deal/by-uuid/"
  | dealByDealId => "/open/stats/deal/by-deal-id/"
  | miner => "/open/stats/miner/"
  | batchImport => "/open/stats/batch/imports/"

def urlPrefix (kind : StatusKind) (baseUrl : String) : String :=
  baseUrl ++ kind.path

structure Unknown where
  text : String
  deriving DecidableEq, Repr

def Unknown.message (u : Unknown) : String :=
  "Invalid status kind: " ++ u.text ++ " (expected one of " ++
    ", ".intercalate (all.map name) ++ ")"

def parse (text : String) : Except Unknown StatusKind :=
  match all.find? fun kind ↦ kind.name == Text.lowercase text with
  | some kind => .ok kind
  | none => .error ⟨text⟩

end StatusKind

/-- What a content identifier is appended to when only the base URL is known. -/
def contentStatusUrl (baseUrl : String) : String :=
  StatusKind.content.urlPrefix baseUrl

structure StatusRequest where
  urlPrefix : String
  contentId : String
  deriving DecidableEq, Repr

def StatusRequest.url (r : StatusRequest) : String :=
  r.urlPrefix ++ r.contentId

end DealForm
