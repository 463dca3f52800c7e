import DealForm.Http.Message

/-!
# Replayed answers

A network that gives answers which were gathered before, and notes the first request that has none
yet. A run over it can be repeated with one answer more until every request has its own.
-/

namespace DealForm

structure Replay where
  answers : List Answer
  /-- The first request that has no answer. -/
  unanswered : Option Request := none

namespace Replay

def network : Network Replay := fun request r ↦
  match r.answers with
  | answer :: answers => (answer, { r with answers })
  | [] => (.closed, { r with unanswered := r.unanswered.or (some request) })

end Replay

end DealForm
