import DealForm.Http.Message

/-!
# A scripted server

A network with a single server on the own machine, which gives the answers of a list in their order
and keeps the requests that reach it. When the list is used up, it closes the connection; every
other address refuses it.
-/

namespace DealForm

structure ScriptedServer where
  /-- The host by its four bytes, and the port. -/
  host : Nat
  port : Nat
  answers : List Answer := []
  received : List Request := []

namespace ScriptedServer

def loopback : Nat := 0x7F000001

/-- The host leads to the server: by its address in either length, or, if the machine reaches itself
by that, by the name of the own machine and by the address that is none. -/
def isHost (s : ScriptedServer) (h : Host) : Bool :=
  h == .ipv4 s.host || h == .ipv6 [0, 0, 0, 0, 0, 0xFFFF, s.host / 65536, s.host % 65536] ||
    (s.host == loopback && (h == .name "localhost" || h == .ipv4 0))

def isAt (s : ScriptedServer) (address : Url) : Bool :=
  address.scheme == "http".toList && address.host.any s.isHost &&
    address.effectivePort? == some s.port

def network : Network ScriptedServer := fun request s ↦
  if s.isAt request.address then
    let s := { s with received := s.received ++ [request] }
    match s.answers with
    | [] => (.closed, s)
    | answer :: answers => (answer, { s with answers })
  else (.refused, s)

end ScriptedServer

end DealForm
