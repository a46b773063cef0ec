import IceAgent.Model.Basic
import Mathlib.Logic.Function.Basic

/-!
# The agent's loop-owned state and the operations on it

`Agent` is the part of the Go `Agent` struct that the task loop owns (agent.go:40-164),
and each definition below is one method of agent.go run inside a task: it takes the
state and returns the state the method leaves. Side effects on collaborators that
are not among the sources (muxes, sockets, loggers) are not modelled; the effects
the agent records are kept as fields: the notifier queues, the candidates whose
`close()` was called, the one-slot `forceCandidateContact` channel and the candidate
timestamps that `seen` updates.

A `*CandidatePair` that `agent.go` holds is a pointer into `checklist`. The checklist
only grows by `append` and is replaced whole by `Restart` and the Failed transition,
so a pointer is given here by its position in the list: `selectedPair = some i`
points at `checklist[i]`.
-/

set_option autoImplicit false

namespace IceAgent

/-- The pair-nomination policy `startConnectivityChecks` installs. -/
inductive Selector
  | controlling
  | controlled
  | lite (inner : Selector)
deriving DecidableEq, Repr

/-- The loop-owned state of an `Agent`. -/
structure Agent where
  tieBreaker : UInt64
  lite : Bool
  connectionState : ConnectionState
  gatheringState : GatheringState
  started : Bool
  isControlling : Bool
  maxBindingRequests : UInt16
  disableActiveTCP : Bool
  disconnectedTimeout : Duration
  failedTimeout : Duration
  keepaliveInterval : Duration
  checkInterval : Duration
  localUfrag : String
  localPwd : String
  localCandidates : NetworkType → List Candidate
  remoteUfrag : String
  remotePwd : String
  remoteCandidates : NetworkType → List Candidate
  checklist : List CandidatePair
  selector : Option Selector
  selectedPair : Option Nat
  networkTypes : List NetworkType
  pendingBindingRequests : List BindingRequest
  forceCandidateContact : Bool
  onConnected : Bool
  gatherCandidateCancelled : Bool
  connectionStateNotifier : List ConnectionState
  candidateNotifier : List (Option Candidate)
  selectedCandidatePairNotifier : List CandidatePair
  closedCandidates : List Candidate
  lastReceived : Candidate → Option Int
  lastSent : Candidate → Option Int

/-- The network types, in the order `deleteAllCandidates` is taken to visit them. -/
def NetworkType.all : List NetworkType := [.udp4, .udp6, .tcp4, .tcp6]

/-- Every network type is in `NetworkType.all`. -/
theorem NetworkType.mem_all (n : NetworkType) : n ∈ NetworkType.all := by
  cases n <;> decide

/-- The operating-system answers `addRemotePassiveTCPCandidate` depends on:
`localInterfaces` (none when it fails) and the local port of the active TCP
connection dialled from an interface IP to a remote (none when `LocalAddr()` is
not a `*net.TCPAddr`). -/
structure Env where
  localInterfaces : NetworkType → Option (List IPAddr)
  activeTCPPort : IPAddr → Candidate → Option Nat

namespace Agent

variable (a : Agent)

/-- `getSelectedPair`. -/
def getSelectedPair : Option CandidatePair :=
  a.selectedPair.bind fun i => a.checklist[i]?

/-- `requestConnectivityCheck`: fill the one-slot channel if it is empty. -/
def requestConnectivityCheck : Agent := { a with forceCandidateContact := true }

/-- `deleteAllCandidates`: close every candidate and empty both maps. -/
def deleteAllCandidates : Agent :=
  { a with
    closedCandidates := a.closedCandidates ++ NetworkType.all.flatMap a.localCandidates ++
      NetworkType.all.flatMap a.remoteCandidates
    localCandidates := fun _ => []
    remoteCandidates := fun _ => [] }

/-- `updateConnectionState` (agent.go:501-516). -/
def updateConnectionState (newState : ConnectionState) : Agent :=
  if a.connectionState ≠ newState then
    let a := if newState = .failed then
      -- removeUfragFromMux; checklist and pending requests cleared; setSelectedPair(nil)
      ({ a with checklist := [], pendingBindingRequests := [], selectedPair := none } :
        Agent).deleteAllCandidates
    else a
    { a with connectionState := newState,
             connectionStateNotifier := a.connectionStateNotifier ++ [newState] }
  else a

/-- `setSelectedPair` (agent.go:518-537), the pair given by its position. -/
def setSelectedPair : Option Nat → Agent
  | none => { a with selectedPair := none }
  | some i =>
    let a := { a with checklist := a.checklist.modify (fun p => { p with nominated := true }) i,
                      selectedPair := some i }
    let a := a.updateConnectionState .connected
    { a with selectedCandidatePairNotifier := a.selectedCandidatePairNotifier ++ a.checklist[i]?.toList,
             onConnected := true }

/-- `addPair`. -/
def addPair (Local Remote : Candidate) : Agent :=
  { a with checklist := a.checklist ++ [newCandidatePair Local Remote a.isControlling] }

/-- `findPair`: the position of the first pair with an `Equal` local and remote. -/
def findPair (Local Remote : Candidate) : Option Nat :=
  a.checklist.findIdx? fun p => p.Local.Equal Local && p.Remote.Equal Remote

/-- `findRemoteCandidate` (agent.go:986-1000). -/
def findRemoteCandidate (networkType : NetworkType) (addr : NetAddr) : Option Candidate :=
  match parseAddr addr with
  | none => none
  | some (ip, port, _) =>
    (a.remoteCandidates networkType).find? fun c => c.address == ip.text && c.port == port

/-- One iteration of the loop of `addRemotePassiveTCPCandidate` (agent.go:741-772): an
active ICE-TCP host candidate on the interface IP that dials the passive remote,
registered and paired with it. -/
def addActiveTCPCandidate (env : Env) (remoteCandidate : Candidate) (ip : IPAddr) : Agent :=
  match env.activeTCPPort ip remoteCandidate with
  | none => a
  | some port =>
    let localCandidate := newActiveTCPCandidateHost remoteCandidate.networkType ip port
    let a := { a with
      localCandidates := Function.update a.localCandidates localCandidate.networkType
        (a.localCandidates localCandidate.networkType ++ [localCandidate])
      candidateNotifier := a.candidateNotifier ++ [some localCandidate] }
    a.addPair localCandidate remoteCandidate

/-- `addRemotePassiveTCPCandidate` (agent.go:734-773): one active candidate for every
local interface IP of the remote's network type. -/
def addRemotePassiveTCPCandidate (env : Env) (remoteCandidate : Candidate) : Agent :=
  match env.localInterfaces remoteCandidate.networkType with
  | none => a
  | some localIPs => localIPs.foldl (fun a ip => a.addActiveTCPCandidate env remoteCandidate ip) a

/-- `addRemoteCandidate` (agent.go:776-808). -/
def addRemoteCandidate (env : Env) (c : Candidate) : Agent :=
  let set := a.remoteCandidates c.networkType
  if set.any (·.Equal c) then a
  else
    let tcpNetworkTypeFound := a.networkTypes.any NetworkType.isTCP
    let a := if !a.disableActiveTCP && tcpNetworkTypeFound && c.tcpType == .passive then
      a.addRemotePassiveTCPCandidate env c else a
    let a := { a with remoteCandidates := Function.update a.remoteCandidates c.networkType (set ++ [c]) }
    let a := if c.tcpType != .passive then
      (a.localCandidates c.networkType).foldl (fun a l => a.addPair l c) a else a
    a.requestConnectivityCheck

/-- The task `addCandidate` (agent.go:810-841) runs: drop (and close) a duplicate,
otherwise register the candidate and pair it with every remote of its network type. -/
def addCandidate (c : Candidate) : Agent :=
  let set := a.localCandidates c.networkType
  if set.any (·.Equal c) then { a with closedCandidates := a.closedCandidates ++ [c] }
  else
    let a := { a with localCandidates := Function.update a.localCandidates c.networkType (set ++ [c]) }
    let a := (a.remoteCandidates c.networkType).foldl (fun a r => a.addPair c r) a
    let a := a.requestConnectivityCheck
    { a with candidateNotifier := a.candidateNotifier ++ [some c] }

/-- The task `Restart` (agent.go:1261-1286) runs once the credentials are accepted. -/
def restart (ufrag pwd : String) : Agent :=
  let a := if a.gatheringState = .gathering then { a with gatherCandidateCancelled := true } else a
  let a := { a with localUfrag := ufrag, localPwd := pwd, remoteUfrag := "", remotePwd := "",
                    gatheringState := .new, checklist := [], pendingBindingRequests := [] }
  let a := (a.setSelectedPair none).deleteAllCandidates
  if a.connectionState ≠ .new then a.updateConnectionState .checking else a

/-- The errors `Restart` returns before it queues its task. -/
inductive RestartError
  /-- `generateUFrag` or `generatePwd` failed. -/
  | generate
  | localUfragInsufficientBits
  | localPwdInsufficientBits
deriving DecidableEq, Repr

/-- `Restart` (agent.go:1237-1290) on a running agent, whose `run` executes the task.
The random generators `generateUFrag` and `generatePwd` are given by what they return,
none when they fail; a rune of a Go string is a `Char` here. -/
def Restart (generateUFrag generatePwd : Option String) (ufrag pwd : String) :
    Agent × Option RestartError :=
  match (if ufrag = "" then generateUFrag else some ufrag),
      (if pwd = "" then generatePwd else some pwd) with
  | none, _ | some _, none => (a, some .generate)
  | some ufrag, some pwd =>
    if ufrag.length * 8 < 24 then (a, some .localUfragInsufficientBits)
    else if pwd.length * 8 < 128 then (a, some .localPwdInsufficientBits)
    else (a.restart ufrag pwd, none)

/-- The task `startConnectivityChecks` (agent.go:382-409) runs. -/
def startConnectivityChecks (isControlling : Bool) (remoteUfrag remotePwd : String) : Agent :=
  let sel := if isControlling then Selector.controlling else .controlled
  let a := { a with isControlling := isControlling, remoteUfrag := remoteUfrag,
                    remotePwd := remotePwd, selector := some (if a.lite then .lite sel else sel),
                    started := true }
  (a.updateConnectionState .checking).requestConnectivityCheck

/-- `time.Since(t)` for a candidate timestamp; the zero `time.Time` an unset
timestamp reads as lies centuries back, so the difference saturates. -/
def since (now : Int) : Option Int → Duration
  | none => Duration.ofInt (2 ^ 63)
  | some t => Time.sub now t

/-- The state `validateSelectedPair` moves to once `disconnectedTime` is known
(agent.go:619-633). -/
def validatedState (disconnectedTime : Duration) : ConnectionState :=
  let totalTimeToFailure :=
    if a.failedTimeout.ns ≠ 0 then a.failedTimeout.add a.disconnectedTimeout else a.failedTimeout
  if totalTimeToFailure.ns ≠ 0 ∧ totalTimeToFailure < disconnectedTime then .failed
  else if a.disconnectedTimeout.ns ≠ 0 ∧ a.disconnectedTimeout < disconnectedTime then .disconnected
  else .connected

/-- `validateSelectedPair` (agent.go:612-636). -/
def validateSelectedPair (now : Int) : Agent × Bool :=
  match a.getSelectedPair with
  | none => (a, false)
  | some p => (a.updateConnectionState (a.validatedState (since now (a.lastReceived p.Remote))), true)

/-- `c.seen(false)`: the candidate was heard from at `now`. -/
def seen (c : Candidate) (now : Int) : Agent :=
  { a with lastReceived := Function.update a.lastReceived c (some now) }

/-! ## What each operation does -/

/-- Pairing in a loop appends one pair per element, in order. -/
theorem foldl_addPair {α : Type} (l : List α) (Lo Re : α → Candidate) :
    l.foldl (fun a x => a.addPair (Lo x) (Re x)) a =
      { a with checklist := a.checklist ++ l.map fun x => newCandidatePair (Lo x) (Re x) a.isControlling } := by
  induction l generalizing a with
  | nil => simp
  | cons x l ih =>
    rw [List.foldl_cons, ih]
    simp [addPair]

/-- The active ICE-TCP candidates `addRemotePassiveTCPCandidate` builds for a passive remote. -/
def synthesizedCandidates (env : Env) (remoteCandidate : Candidate) : List Candidate :=
  match env.localInterfaces remoteCandidate.networkType with
  | none => []
  | some localIPs => localIPs.filterMap fun ip =>
      (env.activeTCPPort ip remoteCandidate).map (newActiveTCPCandidateHost remoteCandidate.networkType ip)

/-- The active candidates synthesized for a passive remote are on the remote's network type. -/
theorem networkType_of_mem_synthesized {env : Env} {remoteCandidate c : Candidate}
    (h : c ∈ synthesizedCandidates env remoteCandidate) : c.networkType = remoteCandidate.networkType := by
  simp only [synthesizedCandidates] at h
  split at h
  · simp at h
  · obtain ⟨ip, -, hc⟩ := List.mem_filterMap.mp h
    obtain ⟨port, -, rfl⟩ := Option.map_eq_some'.mp hc
    rfl

/-- The loop of `addRemotePassiveTCPCandidate` registers one candidate per IP with a
port, under the remote's network type, and pairs each with the remote. -/
theorem foldl_addActiveTCPCandidate (env : Env) (remoteCandidate : Candidate) (ips : List IPAddr) :
    ips.foldl (fun a ip => a.addActiveTCPCandidate env remoteCandidate ip) a =
      let S := ips.filterMap fun ip =>
        (env.activeTCPPort ip remoteCandidate).map (newActiveTCPCandidateHost remoteCandidate.networkType ip)
      { a with
        localCandidates := Function.update a.localCandidates remoteCandidate.networkType
          (a.localCandidates remoteCandidate.networkType ++ S)
        candidateNotifier := a.candidateNotifier ++ S.map some
        checklist := a.checklist ++ S.map fun l => newCandidatePair l remoteCandidate a.isControlling } := by
  induction ips generalizing a with
  | nil => simp [Function.update_eq_self]
  | cons ip ips ih =>
    rw [List.foldl_cons, ih]
    simp only [addActiveTCPCandidate, List.filterMap_cons]
    cases env.activeTCPPort ip remoteCandidate with
    | none => rfl
    | some port => simp [addPair, newActiveTCPCandidateHost, Function.update_idem]

/-- `addRemotePassiveTCPCandidate` registers the synthesized candidates under the
remote's network type and pairs each with the remote. -/
theorem addRemotePassiveTCPCandidate_eq (env : Env) (remoteCandidate : Candidate) :
    a.addRemotePassiveTCPCandidate env remoteCandidate =
      let S := synthesizedCandidates env remoteCandidate
      { a with
        localCandidates := Function.update a.localCandidates remoteCandidate.networkType
          (a.localCandidates remoteCandidate.networkType ++ S)
        candidateNotifier := a.candidateNotifier ++ S.map some
        checklist := a.checklist ++ S.map fun l => newCandidatePair l remoteCandidate a.isControlling } := by
  simp only [addRemotePassiveTCPCandidate, synthesizedCandidates]
  split
  · simp [Function.update_eq_self]
  · exact foldl_addActiveTCPCandidate a env remoteCandidate _

/-- `addRemoteCandidate` on a candidate `Equal` to a known remote changes nothing. -/
theorem addRemoteCandidate_of_dup (env : Env) {c : Candidate}
    (h : (a.remoteCandidates c.networkType).any (·.Equal c) = true) : a.addRemoteCandidate env c = a := by
  simp [addRemoteCandidate, h]

/-- Whether `addRemoteCandidate` synthesizes active ICE-TCP candidates for `c`. -/
def synthesizes (c : Candidate) : Bool :=
  !a.disableActiveTCP && a.networkTypes.any NetworkType.isTCP && c.tcpType == .passive

/-- `addRemoteCandidate` on a new candidate: the synthesized locals, the remote
appended to its list, and a pair with every local of its type unless it is passive. -/
theorem addRemoteCandidate_of_new (env : Env) {c : Candidate}
    (h : (a.remoteCandidates c.networkType).any (·.Equal c) = false) :
    a.addRemoteCandidate env c =
      let a₁ := if a.synthesizes c then a.addRemotePassiveTCPCandidate env c else a
      { a₁ with
        remoteCandidates := Function.update a.remoteCandidates c.networkType
          (a.remoteCandidates c.networkType ++ [c])
        checklist := a₁.checklist ++ (if c.tcpType != .passive then
          (a₁.localCandidates c.networkType).map fun l => newCandidatePair l c a.isControlling
          else [])
        forceCandidateContact := true } := by
  unfold addRemoteCandidate
  rw [if_neg (by simp [h])]
  simp only [synthesizes]
  split <;> split <;>
    simp_all [foldl_addPair, requestConnectivityCheck, addRemotePassiveTCPCandidate_eq]

/-- `addCandidate` on a candidate `Equal` to a known local closes it and changes nothing else. -/
theorem addCandidate_of_dup {c : Candidate}
    (h : (a.localCandidates c.networkType).any (·.Equal c) = true) :
    a.addCandidate c = { a with closedCandidates := a.closedCandidates ++ [c] } := by
  simp [addCandidate, h]

/-- `addCandidate` on a new candidate: appended to its list and paired with every remote
of its type. -/
theorem addCandidate_of_new {c : Candidate}
    (h : (a.localCandidates c.networkType).any (·.Equal c) = false) :
    a.addCandidate c =
      { a with
        localCandidates := Function.update a.localCandidates c.networkType
          (a.localCandidates c.networkType ++ [c])
        checklist := a.checklist ++ (a.remoteCandidates c.networkType).map fun r =>
          newCandidatePair c r a.isControlling
        forceCandidateContact := true
        candidateNotifier := a.candidateNotifier ++ [some c] } := by
  simp [addCandidate, h, foldl_addPair, requestConnectivityCheck]

/-- `updateConnectionState` to a state other than Failed changes only the state and
the notifier queue. -/
theorem updateConnectionState_of_ne_failed {s : ConnectionState} (hs : s ≠ .failed) :
    a.updateConnectionState s = if a.connectionState ≠ s then
      { a with connectionState := s, connectionStateNotifier := a.connectionStateNotifier ++ [s] }
      else a := by
  simp [updateConnectionState, hs]

/-- The transition to Failed empties the checklist, the cache and both maps, and
unsets the selected pair. -/
theorem updateConnectionState_failed (h : a.connectionState ≠ .failed) :
    a.updateConnectionState .failed =
      { a with
        checklist := [], pendingBindingRequests := [], selectedPair := none,
        closedCandidates := a.closedCandidates ++ NetworkType.all.flatMap a.localCandidates ++
          NetworkType.all.flatMap a.remoteCandidates
        localCandidates := fun _ => [], remoteCandidates := fun _ => [],
        connectionState := .failed,
        connectionStateNotifier := a.connectionStateNotifier ++ [.failed] } := by
  simp [updateConnectionState, h, deleteAllCandidates]

/-- `restart` as one record: fresh credentials, everything the session held cleared and
closed, a running gatherer cancelled, and Checking unless the agent was New. -/
theorem restart_eq (ufrag pwd : String) :
    a.restart ufrag pwd =
      { a with
        localUfrag := ufrag, localPwd := pwd, remoteUfrag := "", remotePwd := "",
        gatheringState := .new, checklist := [], pendingBindingRequests := [],
        selectedPair := none,
        gatherCandidateCancelled := a.gatherCandidateCancelled || a.gatheringState == .gathering,
        closedCandidates := a.closedCandidates ++ NetworkType.all.flatMap a.localCandidates ++
          NetworkType.all.flatMap a.remoteCandidates
        localCandidates := fun _ => [], remoteCandidates := fun _ => [],
        connectionState := if a.connectionState = .new then .new else .checking,
        connectionStateNotifier := a.connectionStateNotifier ++
          if a.connectionState = .new ∨ a.connectionState = .checking then [] else [.checking] } := by
  have hc : ∀ a : Agent, a.updateConnectionState .checking = if a.connectionState ≠ .checking then
      { a with connectionState := .checking,
               connectionStateNotifier := a.connectionStateNotifier ++ [.checking] }
      else a := fun a => a.updateConnectionState_of_ne_failed nofun
  by_cases hg : a.gatheringState = .gathering <;>
    cases hs : a.connectionState <;> simp [restart, hc, hs, hg, setSelectedPair, deleteAllCandidates]

end Agent

end IceAgent
