import IceAgent.Model.Agent
import IceAgent.Model.Integrity

/-!
# Inbound STUN dispatch

`handleInbound` (agent.go:1075-1161) filters an inbound STUN message, learns a
peer-reflexive remote candidate from an authenticated request whose source is
unknown, and hands the message to the selector. The selectors are not among the
sources, so the call is returned as data: `InboundResult.call` is the handler
`handleInbound` invoked, and `InboundResult.seen` the remote candidate it marked
as heard from once the handler returned.
-/

set_option autoImplicit false

namespace IceAgent

/-- A call into the selector. -/
inductive SelectorCall
  | handleSuccessResponse (m : StunMessage) (Local Remote : Candidate) (remoteAddr : NetAddr)
  | handleBindingRequest (m : StunMessage) (Local Remote : Candidate)
deriving DecidableEq, Repr

/-- What `handleInbound` leaves behind. -/
structure InboundResult where
  agent : Agent
  call : Option SelectorCall
  seen : Option Candidate

namespace Agent

variable (a : Agent)

/-- The first filter of `handleInbound`: a Binding request, success response or indication. -/
def isHandledType (m : StunMessage) : Bool :=
  m.method == methodBinding &&
    (m.messageClass == .successResponse || m.messageClass == .request ||
      m.messageClass == .indication)

/-- The role-conflict filter (RFC 8445 §7.3.1.1, without the tie-breaker): a
controlling agent drops ICE-CONTROLLING and USE-CANDIDATE, a controlled agent drops
ICE-CONTROLLED. -/
def roleConflict (m : StunMessage) : Bool :=
  if a.isControlling then m.iceControlling.isSome || m.useCandidate else m.iceControlled.isSome

/-- `handleInbound` (agent.go:1075-1161). -/
def handleInbound (env : Env) (m : StunMessage) (Local : Candidate) (remote : NetAddr) :
    InboundResult :=
  if !isHandledType m then ⟨a, none, none⟩
  else if a.roleConflict m then ⟨a, none, none⟩
  else
    let remoteCandidate := a.findRemoteCandidate Local.networkType remote
    match m.messageClass with
    | .successResponse =>
      if !m.integrityOk a.remotePwd then ⟨a, none, none⟩
      else match remoteCandidate with
        | none => ⟨a, none, none⟩
        | some rc => ⟨a, some (.handleSuccessResponse m Local rc remote), some rc⟩
    | .request =>
      if !m.usernameOk (a.localUfrag ++ ":" ++ a.remoteUfrag) then ⟨a, none, none⟩
      else if !m.integrityOk a.localPwd then ⟨a, none, none⟩
      else match remoteCandidate with
        | some rc => ⟨a, some (.handleBindingRequest m Local rc), some rc⟩
        | none =>
          match parseAddr remote with
          | none => ⟨a, none, none⟩
          | some (ip, port, networkType) =>
            let prflx := newCandidatePeerReflexive ip port networkType Local.component
            ⟨a.addRemoteCandidate env prflx, some (.handleBindingRequest m Local prflx), some prflx⟩
    | _ => ⟨a, none, remoteCandidate⟩

/-- The loop task that delivers a message: `handleInbound`, then the remote candidate
is marked as heard from at `now`. The selector call is a task of its own. -/
def handleInboundTask (env : Env) (m : StunMessage) (Local : Candidate) (remote : NetAddr)
    (now : Int) : Agent :=
  let r := a.handleInbound env m Local remote
  match r.seen with
  | none => r.agent
  | some c => r.agent.seen c now

end Agent

end IceAgent
