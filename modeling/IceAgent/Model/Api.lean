import IceAgent.Model.NewAgent

/-!
# The exported methods that submit tasks

`SetRemoteCredentials` (agent.go:1216-1235), `startConnectivityChecks` (agent.go:387-425)
and `AddRemoteCandidate` (agent.go:657-695) check their arguments before they submit a
task to the loop, and `Restart` checks the credentials it is given or generates
(`Agent.Restart`). A run driven through them starts from what `NewAgent` returns, and in
it those tasks come only with arguments the checks let through (`ApiTask`). The
gatherer, the connections' read loops, the check loop and the selectors submit the
other tasks as the loop model has them.

`AddRemoteCandidate` hands a host candidate whose address ends in `.local` to
`resolveAndAddMulticastCandidate`, which resolves it over mDNS, sets its IP with
`CandidateHost.setIP` and then runs the same `addRemoteCandidate` task with it. The
mDNS connection and `setIP` are not among the sources: the run takes their outcome as
given, as the network type `setIP` gives the candidate, or none when the resolution
fails.

`setGatheringState` (agent.go:1292-1307) is the gatherer's task; the gatherer is not
among the sources, and the loop model has no task that gathers.
-/

set_option autoImplicit false

namespace IceAgent

/-- `MulticastDNSMode`. -/
inductive MulticastDNSMode
  | queryOnly
  | queryAndGather
  | disabled
deriving DecidableEq, Repr

/-- The errors the exported methods return before they submit a task. -/
inductive ApiError
  | remoteUfragEmpty
  | remotePwdEmpty
  | addressParseFailed
deriving DecidableEq, Repr

/-- The check of `SetRemoteCredentials` (agent.go:1217-1222), which
`startConnectivityChecks` also runs before its own task. -/
def checkRemoteCredentials (remoteUfrag remotePwd : String) : Option ApiError :=
  if remoteUfrag = "" then some .remoteUfragEmpty
  else if remotePwd = "" then some .remotePwdEmpty
  else none

/-- What `AddRemoteCandidate` leaves running once it returns nil. -/
inductive AddRemoteCandidateAction
  /-- Nothing: the candidate is ignored. -/
  | ignore
  /-- `resolveAndAddMulticastCandidate` in a goroutine. -/
  | resolveAndAddMulticastCandidate
  /-- A goroutine that runs the `addRemoteCandidate` task. -/
  | addRemoteCandidate
deriving DecidableEq, Repr

/-- `AddRemoteCandidate` (agent.go:657-695). `c` is none for a nil candidate, and
`isCandidateHost` is whether the candidate is a `*CandidateHost`. -/
def AddRemoteCandidate (mDNSMode : MulticastDNSMode) (c : Option Candidate) (isCandidateHost : Bool) :
    Except ApiError AddRemoteCandidateAction :=
  match c with
  | none => .ok .ignore
  | some c =>
    if c.tcpType = .active then .ok .ignore
    else if c.candidateType = .host ∧ hasSuffix c.address ".local" then
      if mDNSMode = .disabled then .ok .ignore
      else if !isCandidateHost then .error .addressParseFailed
      else .ok .resolveAndAddMulticastCandidate
    else .ok .addRemoteCandidate

/-- `resolveAndAddMulticastCandidate` (agent.go:697-725): the candidate it hands to the
`addRemoteCandidate` task, or none when it gives up. `answer` is the network type
`CandidateHost.setIP` gives the candidate for the IP the mDNS query resolves, none when
there is no mDNS connection or the query, `parseMulticastAnswerAddr` or `setIP` fails.
`setIP` also sets the candidate's resolved address, which the model's candidate does
not hold; its `Address()` stays the `.local` name. -/
def resolveAndAddMulticastCandidate (answer : Option NetworkType) (c : Candidate) : Option Candidate :=
  answer.map fun n => { c with networkType := n }

namespace Agent

variable (a : Agent)

/-- `SetRemoteCredentials` (agent.go:1216-1235) on an agent whose `run` executes the
task. -/
def SetRemoteCredentials (remoteUfrag remotePwd : String) : Except ApiError Agent :=
  match checkRemoteCredentials remoteUfrag remotePwd with
  | some e => .error e
  | none => .ok (a.setRemoteCredentials remoteUfrag remotePwd)

/-- The task `setGatheringState` (agent.go:1292-1307) runs: the end-of-candidates marker
is enqueued for the candidate handler when the state changes to Complete. -/
def setGatheringState (newState : GatheringState) : Agent :=
  let a := if a.gatheringState ≠ newState ∧ newState = .complete then
    { a with candidateNotifier := a.candidateNotifier ++ [none] } else a
  { a with gatheringState := newState }

end Agent

open Agent in
/-- One task of a run driven through the exported methods. The tasks of
`AddRemoteCandidate` (directly, or once `resolveAndAddMulticastCandidate` has resolved
the candidate), `SetRemoteCredentials`, `startConnectivityChecks` and `Restart` come
only with arguments their methods accept; the others are the loop's tasks. -/
inductive ApiTask (maxBindingRequestTimeout : Duration) : Agent → Agent → Prop
  | addCandidate (a : Agent) (c : Candidate) : ApiTask maxBindingRequestTimeout a (a.addCandidate c)
  | addRemoteCandidate (a : Agent) (env : Env) (c : Candidate) (mDNSMode : MulticastDNSMode)
      (isCandidateHost : Bool)
      (h : AddRemoteCandidate mDNSMode (some c) isCandidateHost = .ok .addRemoteCandidate) :
      ApiTask maxBindingRequestTimeout a (a.addRemoteCandidate env c)
  | resolveAndAddMulticastCandidate (a : Agent) (env : Env) (c c' : Candidate)
      (mDNSMode : MulticastDNSMode) (isCandidateHost : Bool) (answer : Option NetworkType)
      (h : AddRemoteCandidate mDNSMode (some c) isCandidateHost = .ok .resolveAndAddMulticastCandidate)
      (hc : resolveAndAddMulticastCandidate answer c = some c') :
      ApiTask maxBindingRequestTimeout a (a.addRemoteCandidate env c')
  | handleInbound (a : Agent) (env : Env) (m : StunMessage) (Local : Candidate) (remote : NetAddr)
      (now : Int) : ApiTask maxBindingRequestTimeout a (a.handleInboundTask env m Local remote now)
  | setRemoteCredentials (a a' : Agent) (remoteUfrag remotePwd : String)
      (h : a.SetRemoteCredentials remoteUfrag remotePwd = .ok a') : ApiTask maxBindingRequestTimeout a a'
  | startConnectivityChecks (a : Agent) (isControlling : Bool) (remoteUfrag remotePwd : String)
      (h : a.started = false) (hc : checkRemoteCredentials remoteUfrag remotePwd = none) :
      ApiTask maxBindingRequestTimeout a (a.startConnectivityChecks isControlling remoteUfrag remotePwd)
  | restart (a a' : Agent) (generateUFrag generatePwd : Option String) (ufrag pwd : String)
      (h : a.Restart generateUFrag generatePwd ufrag pwd = (a', none)) : ApiTask maxBindingRequestTimeout a a'
  | contact (a : Agent) (cl : CheckLoop) (now₁ now₂ : Int) :
      ApiTask maxBindingRequestTimeout a (contact id a cl now₁ now₂).1
  | validateSelectedPair (a : Agent) (now : Int) :
      ApiTask maxBindingRequestTimeout a (a.validateSelectedPair now).1
  | setSelectedPair (a : Agent) (i : Nat) (h : a.started = true) (hi : i < a.checklist.length) :
      ApiTask maxBindingRequestTimeout a (a.setSelectedPair (some i))
  | setPairState (a : Agent) (i : Nat) (state : CandidatePairState) (h : a.started = true) :
      ApiTask maxBindingRequestTimeout a (a.setPairState i state)
  | sendBindingRequest (a : Agent) (now : Int) (m : StunMessage) (Local Remote : Candidate)
      (h : a.started = true) :
      ApiTask maxBindingRequestTimeout a (a.sendBindingRequest maxBindingRequestTimeout now m Local Remote)
  | handleInboundBindingSuccess (a : Agent) (now : Int) (id : TransactionID) (h : a.started = true) :
      ApiTask maxBindingRequestTimeout a (a.handleInboundBindingSuccess maxBindingRequestTimeout now id).1

/-- The states a run driven through the exported methods leaves, from an agent
`NewAgent` returns. -/
inductive ApiReachable (maxBindingRequestTimeout : Duration) : Agent → Prop
  | init {a : Agent} (config : NewAgentConfig) (os : Startup) (h : NewAgent config os = .ok a) :
      ApiReachable maxBindingRequestTimeout a
  | step {a a' : Agent} : ApiReachable maxBindingRequestTimeout a →
      ApiTask maxBindingRequestTimeout a a' → ApiReachable maxBindingRequestTimeout a'

end IceAgent
