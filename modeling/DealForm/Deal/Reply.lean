import DealForm.Json.Value

/-!
# Replies to deal uploads

A typed view of what the deal service answers to an upload. It is taken where the answer has the
shape of one, as an object or as an array of its fields, and is absent for every other answer.
-/

namespace DealForm

structure DealReply where
  status : String := ""
  message : String := ""
  contentId : Option Int := none
  deriving DecidableEq, Repr

namespace DealReply

def text? : Json → Option String
  | .string s => some s
  | _ => none

/-- Null, or an integer of 64 bits with a sign. -/
def contentId? : Json → Option (Option Int)
  | .null => some none
  | .number (.int n) =>
    if -0x8000000000000000 ≤ n && n ≤ 0x7FFFFFFFFFFFFFFF then some (some n) else none
  | _ => none

def fieldOr {α : Type} (read : Json → Option α) (default : α) : Option Json → Option α
  | none => some default
  | some v => read v

def ofFields (status message contentId : Option Json) : Option DealReply := do
  let status ← fieldOr text? "" status
  let message ← fieldOr text? "" message
  let contentId ← fieldOr contentId? none contentId
  return { status, message, contentId }

/-- The view of an answer, if it has the shape of one. Keys of other names are ignored. -/
def ofJson? : Json → Option DealReply
  | .object es => ofFields (Entries.get? "status" es) (Entries.get? "message" es)
      (Entries.get? "content_id" es)
  | .array vs => if vs.length ≤ 3 then ofFields vs[0]? vs[1]? vs[2]? else none
  | _ => none

end DealReply

end DealForm
