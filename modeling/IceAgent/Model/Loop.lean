import IceAgent.Model.BindingCache
import IceAgent.Model.Inbound
import IceAgent.Model.CheckLoop

/-!
# The task loop's reachable states

Every mutation of the agent happens inside a task the loop runs (agent.go:212-251).
`LoopTask a a'` says that one task, started in state `a`, leaves state `a'`. The tasks
are those of agent.go: adding local and remote candidates, delivering an inbound
message, the credential and start tasks, `Restart`, the check loop's `contact`
closure, and the calls the selector makes from its handlers
(selecting a pair from the checklist, sending a Binding request, taking an answer
from the cache, changing a pair's check state). The selector is not among the
sources, so what it does inside one task is split into these calls, each a task of
its own: every interleaving of them is a run here.

`startConnectivityChecks` runs once (its `startedCh` guard), and the selector exists,
and so calls back into the agent, only after it has run.

`Reachable` is every state a run of tasks leaves, from the state `NewAgent` builds;
`shutdown` is the taskLoop's deferred step when the agent is closed.
-/

set_option autoImplicit false

namespace IceAgent

/-- What `NewAgent` takes from its configuration, once defaults are applied. -/
structure AgentConfig where
  tieBreaker : UInt64
  lite : Bool
  maxBindingRequests : UInt16
  disableActiveTCP : Bool
  disconnectedTimeout : Duration
  failedTimeout : Duration
  keepaliveInterval : Duration
  checkInterval : Duration
  networkTypes : List NetworkType

/-- The agent `NewAgent` starts the task loop on (agent.go:289-350). -/
def newAgent (cfg : AgentConfig) : Agent where
  tieBreaker := cfg.tieBreaker
  lite := cfg.lite
  connectionState := .new
  gatheringState := .new
  started := false
  isControlling := false
  maxBindingRequests := cfg.maxBindingRequests
  disableActiveTCP := cfg.disableActiveTCP
  disconnectedTimeout := cfg.disconnectedTimeout
  failedTimeout := cfg.failedTimeout
  keepaliveInterval := cfg.keepaliveInterval
  checkInterval := cfg.checkInterval
  localUfrag := ""
  localPwd := ""
  localCandidates := fun _ => []
  remoteUfrag := ""
  remotePwd := ""
  remoteCandidates := fun _ => []
  checklist := []
  selector := none
  selectedPair := none
  networkTypes := cfg.networkTypes
  pendingBindingRequests := []
  forceCandidateContact := false
  onConnected := false
  gatherCandidateCancelled := false
  connectionStateNotifier := []
  candidateNotifier := []
  selectedCandidatePairNotifier := []
  closedCandidates := []
  lastReceived := fun _ => none
  lastSent := fun _ => none

/-- The task `SetRemoteCredentials` runs. -/
def Agent.setRemoteCredentials (a : Agent) (remoteUfrag remotePwd : String) : Agent :=
  { a with remoteUfrag := remoteUfrag, remotePwd := remotePwd }

/-- A selector handler sets the check state of the pair at position `i`. -/
def Agent.setPairState (a : Agent) (i : Nat) (state : CandidatePairState) : Agent :=
  { a with checklist := a.checklist.modify (fun p => { p with state := state }) i }

/-- The deferred shutdown of `taskLoop` (agent.go:224-237): every candidate deleted,
`startedCh` released, and the state set to Closed. -/
def Agent.shutdown (a : Agent) : Agent :=
  ({ a.deleteAllCandidates with started := true } : Agent).updateConnectionState .closed

/-- One task of the loop, from the state it starts in to the state it leaves. -/
inductive LoopTask (maxBindingRequestTimeout : Duration) : Agent → Agent → Prop
  | addCandidate (a : Agent) (c : Candidate) : LoopTask maxBindingRequestTimeout a (a.addCandidate c)
  | addRemoteCandidate (a : Agent) (env : Env) (c : Candidate) :
      LoopTask maxBindingRequestTimeout a (a.addRemoteCandidate env c)
  | handleInbound (a : Agent) (env : Env) (m : StunMessage) (Local : Candidate) (remote : NetAddr)
      (now : Int) : LoopTask maxBindingRequestTimeout a (a.handleInboundTask env m Local remote now)
  | setRemoteCredentials (a : Agent) (remoteUfrag remotePwd : String) :
      LoopTask maxBindingRequestTimeout a (a.setRemoteCredentials remoteUfrag remotePwd)
  | startConnectivityChecks (a : Agent) (isControlling : Bool) (remoteUfrag remotePwd : String)
      (h : a.started = false) :
      LoopTask maxBindingRequestTimeout a (a.startConnectivityChecks isControlling remoteUfrag remotePwd)
  | restart (a : Agent) (ufrag pwd : String) : LoopTask maxBindingRequestTimeout a (a.restart ufrag pwd)
  | contact (a : Agent) (cl : CheckLoop) (now₁ now₂ : Int) :
      LoopTask maxBindingRequestTimeout a (contact id a cl now₁ now₂).1
  | validateSelectedPair (a : Agent) (now : Int) :
      LoopTask maxBindingRequestTimeout a (a.validateSelectedPair now).1
  | setSelectedPair (a : Agent) (i : Nat) (h : a.started = true) (hi : i < a.checklist.length) :
      LoopTask maxBindingRequestTimeout a (a.setSelectedPair (some i))
  | setPairState (a : Agent) (i : Nat) (state : CandidatePairState) (h : a.started = true) :
      LoopTask maxBindingRequestTimeout a (a.setPairState i state)
  | sendBindingRequest (a : Agent) (now : Int) (m : StunMessage) (Local Remote : Candidate)
      (h : a.started = true) :
      LoopTask maxBindingRequestTimeout a (a.sendBindingRequest maxBindingRequestTimeout now m Local Remote)
  | handleInboundBindingSuccess (a : Agent) (now : Int) (id : TransactionID) (h : a.started = true) :
      LoopTask maxBindingRequestTimeout a (a.handleInboundBindingSuccess maxBindingRequestTimeout now id).1

/-- The states a run of tasks leaves, from the state `NewAgent` builds. -/
inductive Reachable (maxBindingRequestTimeout : Duration) : Agent → Prop
  | init (cfg : AgentConfig) : Reachable maxBindingRequestTimeout (newAgent cfg)
  | step {a a' : Agent} : Reachable maxBindingRequestTimeout a →
      LoopTask maxBindingRequestTimeout a a' → Reachable maxBindingRequestTimeout a'

/-- An invariant that holds of `NewAgent`'s state and that every task keeps holds in
every reachable state. -/
theorem Reachable.invariant {T : Duration} {P : Agent → Prop} (h₀ : ∀ cfg, P (newAgent cfg))
    (hstep : ∀ a a', P a → LoopTask T a a' → P a') {a : Agent} (h : Reachable T a) : P a := by
  induction h with
  | init cfg => exact h₀ cfg
  | step _ ht ih => exact hstep _ _ ih ht

end IceAgent
