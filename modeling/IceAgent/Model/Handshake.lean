import IceAgent.Model.Inbound
import IceAgent.Model.BindingCache

/-!
# The answer to a connectivity check

A connectivity check is one Binding transaction between two agents. The requester's
selector builds the request and sends it with `sendBindingRequest`, which records it in
the pending cache. The responder's `handleInbound` checks USERNAME and MESSAGE-INTEGRITY
and hands the request to its selector, whose `HandleBindingRequest` answers with
`sendBindingSuccess` (agent.go:1016-1042). The requester's `handleInbound` checks the
answer's MESSAGE-INTEGRITY and hands it to its selector. That selector's
`HandleSuccessResponse` then takes the request back out of the cache with
`handleInboundBindingSuccess`.

`stun.Build` is not among the sources. pion/stun applies its setters in order. The
message `m`, used as a setter, gives the response only its transaction id. The other
setters add XOR-MAPPED-ADDRESS, MESSAGE-INTEGRITY keyed with `localPwd`, and
FINGERPRINT. So a response carries no USERNAME, no ICE-CONTROLLING or ICE-CONTROLLED,
and no USE-CANDIDATE. `Build` fails only on an IP of neither 4 nor 16 bytes, and every
`IPAddr` here is a parsed IP.
-/

set_option autoImplicit false

namespace IceAgent

/-- A Binding success response as the agent writes it: the message, and the transport
address its XOR-MAPPED-ADDRESS attribute carries. -/
structure BindingSuccess where
  message : StunMessage
  xorMappedAddress : IPAddr × Nat
deriving DecidableEq, Repr

namespace Agent

variable (a : Agent)

/-- `sendBindingSuccess` (agent.go:1016-1042): the success response to `m`, mapping the
address of `Remote`, written on `Local`. None when that address does not parse. -/
def sendBindingSuccess (now : Int) (m : StunMessage) (Local Remote : Candidate) :
    Agent × Option BindingSuccess :=
  let base := Remote
  match parseAddr base.addr with
  | none => (a, none)
  | some (ip, port, _) =>
    let out : StunMessage :=
      { method := methodBinding, messageClass := .successResponse,
        transactionID := m.transactionID, iceControlling := none, iceControlled := none,
        useCandidate := false, username := none, messageIntegrity := some a.localPwd }
    (a.sendSTUN now Local, some ⟨out, (ip, port)⟩)

end Agent

end IceAgent
