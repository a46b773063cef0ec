import IceAgent.Model.BindingCache

/-!
# Consent on the selected pair

Two methods keep the selected pair alive between connectivity checks (RFC 7675):

* `validateNonSTUNTraffic` (agent.go:1165-1178) runs a task for every packet that is
  not STUN. The task marks the remote it came from as heard from, so that
  `validateSelectedPair` keeps counting from it.
* `checkKeepalive` (agent.go:641-655) asks the selector to ping the selected pair when
  nothing was sent on it, or nothing heard from its remote, for longer than
  `keepaliveInterval`. The selector's `PingCandidate` sends a Binding request on the
  pair with `sendBindingRequest`.

Both read the candidates' `LastSent` and `LastReceived` times through `time.Since`
(`Agent.since`), which saturates for a time never set.
-/

set_option autoImplicit false

namespace IceAgent

namespace Agent

variable (a : Agent)

/-- The task `validateNonSTUNTraffic` (agent.go:1165-1178) runs: the first known remote of
the local candidate's network type with the packet's address, marked as heard from at
`now`. -/
def validateNonSTUNTraffic (Local : Candidate) (remote : NetAddr) (now : Int) :
    Agent × Option Candidate :=
  match a.findRemoteCandidate Local.networkType remote with
  | none => (a, none)
  | some remoteCandidate => (a.seen remoteCandidate now, some remoteCandidate)

/-- `checkKeepalive` (agent.go:641-655): the local and remote candidate of the selected
pair when the selector is to ping it. -/
def checkKeepalive (now : Int) : Option (Candidate × Candidate) :=
  match a.getSelectedPair with
  | none => none
  | some selectedPair =>
    if a.keepaliveInterval.ns ≠ 0 ∧
        (a.keepaliveInterval < since now (a.lastSent selectedPair.Local) ∨
          a.keepaliveInterval < since now (a.lastReceived selectedPair.Remote)) then
      some (selectedPair.Local, selectedPair.Remote)
    else none

end Agent

end IceAgent
