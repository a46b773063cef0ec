import IceAgent.Analysis.SelectedPair
import Mathlib.Data.List.Chain

/-!
# What the connection-state handler is told

`updateConnectionState` (agent.go:501-516) is the only method that changes
`connectionState` or enqueues on `connectionStateNotifier`. It enqueues the new state
exactly when it differs from the current one. No task moves the agent to New. So the
handler's queue is the log of the agent's state changes (`StateLogOk`): it ends with
the current state, it is empty exactly while the agent is New, it never lists New, and
it never lists one state twice in a row. Every task keeps this, and so does the
taskLoop's shutdown step.

The candidate handler's queue is told of each new local candidate: `addCandidate`
enqueues it, and so does the synthesis of active ICE-TCP candidates for a passive
remote. Nothing empties the queue, and the local candidates leave the maps only all at
once. So every local candidate the agent holds, and the local candidate of every pair
it checks, has been announced (`Announced`).

The selected-pair handler is told by `setSelectedPair` of the pair it has just
nominated; the Failed transition and `Restart` unset the selection and tell it
nothing. So it is told only of nominated pairs, and while a pair is selected the last
pair it was told of has that pair's local and remote (`SelectionAnnounced`).
-/

set_option autoImplicit false

namespace IceAgent.Analysis

open Agent

/-- `b` has the connection state and the handler's queue of `a`. -/
structure SameLog (a b : Agent) : Prop where
  state : b.connectionState = a.connectionState
  notifier : b.connectionStateNotifier = a.connectionStateNotifier

/-- An agent has its own log. -/
theorem SameLog.refl (a : Agent) : SameLog a a := ⟨rfl, rfl⟩

/-- Having the same log is transitive. -/
theorem SameLog.trans {a b c : Agent} (h₁ : SameLog a b) (h₂ : SameLog b c) : SameLog a c :=
  ⟨h₂.1.trans h₁.1, h₂.2.trans h₁.2⟩

/-- The connection-state handler's queue is the log of the agent's state changes. -/
structure StateLogOk (a : Agent) : Prop where
  last : a.connectionStateNotifier.getLastD .new = a.connectionState
  noNew : ConnectionState.new ∉ a.connectionStateNotifier
  changes : a.connectionStateNotifier.Chain' (· ≠ ·)

/-- The invariant reads only the state and the handler's queue. -/
theorem StateLogOk.of_sameLog {a b : Agent} (h : StateLogOk a) (hs : SameLog a b) : StateLogOk b := by
  obtain ⟨h₁, h₂, h₃⟩ := h
  exact ⟨hs.2 ▸ hs.1 ▸ h₁, hs.2 ▸ h₂, hs.2 ▸ h₃⟩

section agent

variable (a : Agent)

/-- `updateConnectionState` enqueues the new state exactly when it is a change. -/
theorem updateConnectionState_notifier (s : ConnectionState) :
    (a.updateConnectionState s).connectionStateNotifier =
      a.connectionStateNotifier ++ if a.connectionState = s then [] else [s] := by
  unfold updateConnectionState
  by_cases h : a.connectionState = s
  · simp [h]
  · simp only [ne_eq, h, not_false_eq_true, if_true, if_false]
    split <;> rfl

/-- A move to any state but New keeps the queue a log of the changes. -/
theorem StateLogOk.updateConnectionState {a : Agent} (h : StateLogOk a) {s : ConnectionState}
    (hs : s ≠ .new) : StateLogOk (a.updateConnectionState s) := by
  have hn := updateConnectionState_notifier a s
  have hst := updateConnectionState_connectionState a s
  by_cases hc : a.connectionState = s
  · rw [if_pos hc, List.append_nil] at hn
    exact h.of_sameLog ⟨hst.trans hc.symm, hn⟩
  · rw [if_neg hc] at hn
    refine ⟨by rw [hn, hst, List.getLastD_concat], by simp [hn, h.noNew, Ne.symm hs],
      hn ▸ h.changes.append (List.chain'_singleton s) fun x hx y hy => ?_⟩
    obtain rfl : s = y := by simpa using hy
    have hlast := h.last
    rw [List.getLastD_eq_getLast?, hx, Option.getD_some] at hlast
    exact hlast ▸ hc

/-- `addRemoteCandidate` keeps the state and the queue. -/
theorem addRemoteCandidate_sameLog (env : Env) (c : Candidate) :
    SameLog a (a.addRemoteCandidate env c) := by
  cases h : (a.remoteCandidates c.networkType).any (·.Equal c)
  · rw [addRemoteCandidate_of_new a env h]
    dsimp only
    split
    · rw [addRemotePassiveTCPCandidate_eq]
      exact ⟨rfl, rfl⟩
    · exact ⟨rfl, rfl⟩
  · rw [addRemoteCandidate_of_dup a env h]
    exact SameLog.refl a

/-- `addCandidate` keeps the state and the handler's queue. -/
theorem addCandidate_sameLog (c : Candidate) : SameLog a (a.addCandidate c) := by
  cases h : (a.localCandidates c.networkType).any (·.Equal c)
  · rw [addCandidate_of_new a h]
    exact ⟨rfl, rfl⟩
  · rw [addCandidate_of_dup a h]
    exact ⟨rfl, rfl⟩

/-- An inbound message keeps the state and the handler's queue. -/
theorem handleInboundTask_sameLog (env : Env) (m : StunMessage) (Local : Candidate)
    (remote : NetAddr) (now : Int) : SameLog a (a.handleInboundTask env m Local remote now) := by
  have hin : SameLog a (a.handleInbound env m Local remote).agent := by
    rcases handleInbound_agent a env m Local remote with he | ⟨c, he⟩ <;> rw [he]
    · exact SameLog.refl a
    · exact addRemoteCandidate_sameLog a env c
  rcases handleInboundTask_eq a env m Local remote now with he | ⟨c, he⟩ <;> rw [he]
  · exact hin
  · exact hin.trans ⟨rfl, rfl⟩

end agent

/-- What a task does to the connection state and the handler's queue: nothing, or one
`updateConnectionState` to a state other than New, on a state with the same log. -/
theorem LoopTask.stateLog {T : Duration} {a a' : Agent} (ht : LoopTask T a a') :
    SameLog a a' ∨
      ∃ b s, SameLog a b ∧ s ≠ .new ∧ SameLog (b.updateConnectionState s) a' := by
  have upd : ∀ s, s ≠ .new → ∃ b s', SameLog a b ∧ s' ≠ .new ∧
      SameLog (b.updateConnectionState s') (a.updateConnectionState s) :=
    fun s hs => ⟨a, s, SameLog.refl a, hs, SameLog.refl _⟩
  cases ht with
  | addCandidate c => exact .inl (addCandidate_sameLog a c)
  | addRemoteCandidate env c => exact .inl (addRemoteCandidate_sameLog a env c)
  | handleInbound env m Local remote now => exact .inl (handleInboundTask_sameLog a env m Local remote now)
  | setRemoteCredentials u p => exact .inl ⟨rfl, rfl⟩
  | startConnectivityChecks isControlling u p _ =>
    refine .inr ⟨_, .checking, ?_, nofun, ⟨rfl, rfl⟩⟩
    exact ⟨rfl, rfl⟩
  | restart u p =>
    rw [restart_eq]
    by_cases hn : a.connectionState = .new
    · exact .inl ⟨by simp [hn], by simp [hn]⟩
    · refine .inr ⟨a, .checking, SameLog.refl a, nofun, ⟨by simp [hn], ?_⟩⟩
      rw [updateConnectionState_notifier]
      by_cases hc : a.connectionState = .checking <;> simp [hn, hc]
  | contact cl now₁ now₂ =>
    rcases contact_agent id a cl now₁ now₂ with he | he | he <;> rw [he]
    · exact .inl (SameLog.refl a)
    · exact .inl (SameLog.refl a)
    · exact .inr (upd .failed nofun)
  | validateSelectedPair now =>
    rcases validateSelectedPair_agent a now with he | ⟨s, hs, he⟩ <;> rw [he]
    · exact .inl (SameLog.refl a)
    · exact .inr (upd s (by rcases hs with rfl | rfl | rfl <;> exact nofun))
  | setSelectedPair i _ _ =>
    refine .inr ⟨_, .connected, ?_, nofun, ⟨rfl, rfl⟩⟩
    exact ⟨rfl, rfl⟩
  | setPairState i st _ => exact .inl ⟨rfl, rfl⟩
  | sendBindingRequest now m Local Remote _ => exact .inl ⟨rfl, rfl⟩
  | handleInboundBindingSuccess now id _ => exact .inl ⟨rfl, rfl⟩

/-- Every task keeps the handler's queue the log of the state changes. -/
theorem stateLogOk_step {T : Duration} {a a' : Agent} (h : StateLogOk a) (ht : LoopTask T a a') :
    StateLogOk a' := by
  rcases LoopTask.stateLog ht with hs | ⟨b, s, hb, hs, hb'⟩
  · exact h.of_sameLog hs
  · exact ((h.of_sameLog hb).updateConnectionState hs).of_sameLog hb'

/-- In every reachable agent the handler's queue is the log of the state changes. -/
theorem stateLogOk_reachable {T : Duration} {a : Agent} (h : Reachable T a) : StateLogOk a :=
  h.invariant (fun _ => ⟨rfl, nofun, List.chain'_nil⟩) fun _ _ => stateLogOk_step

/-- The queue is empty exactly while the agent is New. -/
theorem StateLogOk.notifier_eq_nil_iff {a : Agent} (h : StateLogOk a) :
    a.connectionStateNotifier = [] ↔ a.connectionState = .new := by
  refine ⟨fun he => by simpa [he] using h.last.symm, fun hn => ?_⟩
  cases hl : a.connectionStateNotifier.getLast? with
  | none => exact List.getLast?_eq_none_iff.mp hl
  | some x =>
    have hx : x = a.connectionState := by simpa [hl] using h.last
    exact absurd (hn ▸ hx ▸ List.mem_of_getLast?_eq_some hl) h.noNew

/-- For every reachable state, and the state the taskLoop's shutdown step leaves from
it, the connection-state handler's queue is the log of the agent's state changes: it
ends with the current state (Closed after the shutdown), it is empty exactly while the
agent is New, it never lists New, and no state appears twice in a row, so the handler
is never told of a change that did not happen or told twice of one that did. -/
theorem connectionStateNotifier_logs_changes {T : Duration} {a : Agent} (h : Reachable T a) :
    (a.connectionStateNotifier.getLastD .new = a.connectionState ∧
      (a.connectionStateNotifier = [] ↔ a.connectionState = .new) ∧
      ConnectionState.new ∉ a.connectionStateNotifier ∧
      a.connectionStateNotifier.Chain' (· ≠ ·)) ∧
    (a.shutdown.connectionStateNotifier.getLastD .new = .closed ∧
      ConnectionState.new ∉ a.shutdown.connectionStateNotifier ∧
      a.shutdown.connectionStateNotifier.Chain' (· ≠ ·)) := by
  have hok := stateLogOk_reachable h
  have hshut : StateLogOk a.shutdown :=
    (hok.of_sameLog (b := ({ a.deleteAllCandidates with started := true } : Agent)) ⟨rfl, rfl⟩).updateConnectionState
      nofun
  exact ⟨⟨hok.last, hok.notifier_eq_nil_iff, hok.noNew, hok.changes⟩,
    ⟨hshut.last.trans (shutdown_frame a).2.2, hshut.noNew, hshut.changes⟩⟩

/-- The run that starts the checks and selects a pair has told the handler Checking,
then Connected. -/
theorem connectionStateNotifier_logs_changes_selectedRun :
    Reachable (Duration.ofNat 4000000000) selectedRun ∧
    selectedRun.connectionStateNotifier = [.checking, .connected] ∧
    ((selectedRun.connectionStateNotifier.getLastD .new = selectedRun.connectionState ∧
      (selectedRun.connectionStateNotifier = [] ↔ selectedRun.connectionState = .new) ∧
      ConnectionState.new ∉ selectedRun.connectionStateNotifier ∧
      selectedRun.connectionStateNotifier.Chain' (· ≠ ·)) ∧
    (selectedRun.shutdown.connectionStateNotifier.getLastD .new = .closed ∧
      ConnectionState.new ∉ selectedRun.shutdown.connectionStateNotifier ∧
      selectedRun.shutdown.connectionStateNotifier.Chain' (· ≠ ·))) :=
  ⟨selectedRun_reachable _, by decide,
    connectionStateNotifier_logs_changes (selectedRun_reachable (Duration.ofNat 4000000000))⟩

/-! ## The candidate handler -/

/-- Every local candidate the agent holds has been enqueued for the candidate handler. -/
def Announced (a : Agent) : Prop :=
  ∀ n, ∀ c ∈ a.localCandidates n, some c ∈ a.candidateNotifier

/-- `updateConnectionState` enqueues nothing for the candidate handler. -/
@[simp] theorem updateConnectionState_candidateNotifier (a : Agent) (s : ConnectionState) :
    (a.updateConnectionState s).candidateNotifier = a.candidateNotifier := by
  unfold updateConnectionState
  split_ifs <;> rfl

namespace Announced

variable {a b : Agent}

/-- An agent with no local candidates has announced them all. -/
theorem of_empty (h : ∀ n, b.localCandidates n = []) : Announced b := fun n c hc => by
  simp [h n] at hc

/-- A task that keeps the local candidates and the candidate handler's queue keeps them
announced. -/
theorem of_frame (h : Announced a) (hl : b.localCandidates = a.localCandidates)
    (hn : b.candidateNotifier = a.candidateNotifier) : Announced b :=
  fun n c hc => hn ▸ h n c (hl ▸ hc)

/-- Marking a remote seen keeps the local candidates announced. -/
theorem seen (h : Announced a) (c : Candidate) (now : Int) : Announced (a.seen c now) :=
  h.of_frame rfl rfl

/-- A state change keeps the local candidates announced. -/
theorem updateConnectionState (h : Announced a) (s : ConnectionState) :
    Announced (a.updateConnectionState s) :=
  (updateConnectionState_candidates a s).elim
    (fun hs => h.of_frame hs.localCandidates (updateConnectionState_candidateNotifier a s))
    fun hc => of_empty hc.localCandidates

/-- A new local candidate is enqueued as it is filed. -/
theorem addCandidate (h : Announced a) (c : Candidate) : Announced (a.addCandidate c) := by
  cases hdup : (a.localCandidates c.networkType).any (·.Equal c)
  case true =>
    rw [addCandidate_of_dup a hdup]
    exact h
  case false =>
    rw [addCandidate_of_new a hdup]
    intro n l hl
    rcases mem_update_append.mp hl with hl | ⟨-, hc⟩
    · exact List.mem_append_left _ (h n l hl)
    · simp [List.mem_singleton.mp hc]

/-- The synthesized active candidates are enqueued as they are filed. -/
theorem addRemotePassiveTCPCandidate (h : Announced a) (env : Env) (c : Candidate) :
    Announced (a.addRemotePassiveTCPCandidate env c) := by
  rw [addRemotePassiveTCPCandidate_eq]
  intro n l hl
  rcases mem_update_append.mp hl with hl | ⟨-, hs⟩
  · exact List.mem_append_left _ (h n l hl)
  · exact List.mem_append_right _ (List.mem_map_of_mem some hs)

/-- `addRemoteCandidate` keeps the local candidates announced, the synthesized active ones
included. -/
theorem addRemoteCandidate (h : Announced a) (env : Env) (c : Candidate) :
    Announced (a.addRemoteCandidate env c) := by
  cases hdup : (a.remoteCandidates c.networkType).any (·.Equal c)
  case true => rwa [addRemoteCandidate_of_dup a env hdup]
  case false =>
    rw [addRemoteCandidate_of_new a env hdup]
    have h₁ : Announced (if a.synthesizes c then a.addRemotePassiveTCPCandidate env c else a) := by
      split
      · exact h.addRemotePassiveTCPCandidate env c
      · exact h
    exact h₁.of_frame rfl rfl

end Announced

/-- Every task keeps every local candidate announced. -/
theorem announced_step {T : Duration} {a a' : Agent} (h : Announced a) (ht : LoopTask T a a') :
    Announced a' := by
  cases ht with
  | addCandidate c => exact h.addCandidate c
  | addRemoteCandidate env c => exact h.addRemoteCandidate env c
  | handleInbound env m Local remote now =>
    have hin : Announced (a.handleInbound env m Local remote).agent := by
      rcases handleInbound_agent a env m Local remote with he | ⟨c, he⟩ <;> rw [he]
      · exact h
      · exact h.addRemoteCandidate env c
    rcases handleInboundTask_eq a env m Local remote now with he | ⟨c, he⟩ <;> rw [he]
    · exact hin
    · exact hin.seen c now
  | setRemoteCredentials u p => exact h.of_frame rfl rfl
  | startConnectivityChecks isControlling u p _ =>
    simp only [Agent.startConnectivityChecks,
      updateConnectionState_of_ne_failed _ (show ConnectionState.checking ≠ .failed by decide)]
    split <;> exact h.of_frame rfl rfl
  | restart u p => exact .of_empty (restart_cleared a u p).localCandidates
  | contact cl now₁ now₂ =>
    rcases contact_agent id a cl now₁ now₂ with he | he | he <;> rw [he]
    · exact h
    · exact h
    · exact h.updateConnectionState .failed
  | validateSelectedPair now =>
    rcases validateSelectedPair_agent a now with he | ⟨s, -, he⟩ <;> rw [he]
    · exact h
    · exact h.updateConnectionState s
  | setSelectedPair i _ _ =>
    refine h.of_frame (setSelectedPair_candidates a (some i)).localCandidates ?_
    simp only [setSelectedPair, updateConnectionState_candidateNotifier]
  | setPairState i st _ => exact h.of_frame rfl rfl
  | sendBindingRequest now m Local Remote _ => exact h.of_frame rfl rfl
  | handleInboundBindingSuccess now id _ => exact h.of_frame rfl rfl

/-- In every reachable state, the candidate handler has been told of every local
candidate the agent holds, and so of the local candidate of every pair on the
checklist: the agent never checks a pair from a candidate the application was not
given to signal. -/
theorem localCandidates_announced {T : Duration} {a : Agent} (h : Reachable T a) :
    (∀ n, ∀ c ∈ a.localCandidates n, some c ∈ a.candidateNotifier) ∧
      ∀ p ∈ a.checklist, some p.Local ∈ a.candidateNotifier := by
  have hann : Announced a :=
    h.invariant (fun _ => .of_empty fun _ => rfl) fun _ _ => announced_step
  exact ⟨hann, fun p hp => hann _ _ ((pairsBacked_reachable h).backed p hp).1⟩

/-- The run that selects a pair has announced its local candidate. -/
theorem localCandidates_announced_selectedRun :
    Reachable (Duration.ofNat 4000000000) selectedRun ∧
    selectedRun.candidateNotifier = [some (hostCandidate .udp4 .unspecified "10.0.0.1" 5000)] ∧
    ((∀ n, ∀ c ∈ selectedRun.localCandidates n, some c ∈ selectedRun.candidateNotifier) ∧
      ∀ p ∈ selectedRun.checklist, some p.Local ∈ selectedRun.candidateNotifier) :=
  ⟨selectedRun_reachable _, by decide,
    localCandidates_announced (selectedRun_reachable (Duration.ofNat 4000000000))⟩

/-! ## The selected-pair handler -/

/-- The selected-pair handler is told only of nominated pairs, and while a pair is
selected it was last told of one with the selected pair's local and remote. -/
structure SelectionAnnounced (a : Agent) : Prop where
  nominated : ∀ q ∈ a.selectedCandidatePairNotifier, q.nominated = true
  last : ∀ i, a.selectedPair = some i → ∃ p, a.checklist[i]? = some p ∧
    a.selectedCandidatePairNotifier.getLast?.map CandidatePair.endpoints = some p.endpoints

section agent

variable (a : Agent)

/-- `addCandidate` enqueues nothing for the pair handler. -/
theorem addCandidate_pairNotifier (c : Candidate) :
    (a.addCandidate c).selectedCandidatePairNotifier = a.selectedCandidatePairNotifier := by
  cases h : (a.localCandidates c.networkType).any (·.Equal c)
  · rw [addCandidate_of_new a h]
  · rw [addCandidate_of_dup a h]

/-- `addRemoteCandidate` enqueues nothing for the pair handler. -/
theorem addRemoteCandidate_pairNotifier (env : Env) (c : Candidate) :
    (a.addRemoteCandidate env c).selectedCandidatePairNotifier = a.selectedCandidatePairNotifier := by
  cases h : (a.remoteCandidates c.networkType).any (·.Equal c)
  · rw [addRemoteCandidate_of_new a env h]
    dsimp only
    split
    · rw [addRemotePassiveTCPCandidate_eq]
    · rfl
  · rw [addRemoteCandidate_of_dup a env h]

/-- `updateConnectionState` enqueues nothing for the pair handler. -/
@[simp] theorem updateConnectionState_pairNotifier (s : ConnectionState) :
    (a.updateConnectionState s).selectedCandidatePairNotifier = a.selectedCandidatePairNotifier := by
  unfold updateConnectionState
  split_ifs <;> rfl

/-- `setSelectedPair` tells the handler of the pair it nominates. -/
theorem setSelectedPair_pairNotifier (i : Nat) :
    (a.setSelectedPair (some i)).selectedCandidatePairNotifier =
      a.selectedCandidatePairNotifier ++ (a.setSelectedPair (some i)).checklist[i]?.toList := by
  simp only [setSelectedPair,
    updateConnectionState_of_ne_failed _ (show ConnectionState.connected ≠ .failed by decide)]
  split <;> rfl

end agent

namespace SelectionAnnounced

variable {a b : Agent}

/-- A task that keeps the selection and the handler's queue and changes the checklist only
by keeping the endpoints of its pairs and appending keeps the invariant. -/
theorem of_frame (h : SelectionAnnounced a) (hsel : b.selectedPair = a.selectedPair)
    (hn : b.selectedCandidatePairNotifier = a.selectedCandidatePairNotifier)
    (hlist : ∃ new, b.checklist.map CandidatePair.endpoints = a.checklist.map CandidatePair.endpoints ++ new) :
    SelectionAnnounced b := by
  obtain ⟨new, hnew⟩ := hlist
  refine ⟨hn ▸ h.nominated, fun i hi => ?_⟩
  obtain ⟨p, hp, hlast⟩ := h.last i (hsel ▸ hi)
  have hlt : i < (a.checklist.map CandidatePair.endpoints).length := by
    simpa using (List.getElem?_eq_some_iff.mp hp).1
  have hq : (b.checklist.map CandidatePair.endpoints)[i]? = some p.endpoints := by
    rw [hnew, List.getElem?_append_left hlt, List.getElem?_map, hp]
    rfl
  rw [List.getElem?_map] at hq
  obtain ⟨q, hq, hqe⟩ := Option.map_eq_some'.mp hq
  exact ⟨q, hq, by rw [hn, hlast, hqe]⟩

/-- A task that keeps the selection and the pair handler's queue and only appends to the
checklist keeps the selection announced. -/
theorem grow (h : SelectionAnnounced a) (hsel : b.selectedPair = a.selectedPair)
    (hn : b.selectedCandidatePairNotifier = a.selectedCandidatePairNotifier)
    (hlist : ∃ new, b.checklist = a.checklist ++ new) : SelectionAnnounced b := by
  obtain ⟨new, hnew⟩ := hlist
  exact h.of_frame hsel hn ⟨new.map CandidatePair.endpoints, by rw [hnew, List.map_append]⟩

/-- A task that clears the selection and keeps the pair handler's queue keeps the invariant. -/
theorem unselect (h : SelectionAnnounced a)
    (hn : b.selectedCandidatePairNotifier = a.selectedCandidatePairNotifier) (hsel : b.selectedPair = none) :
    SelectionAnnounced b :=
  ⟨hn ▸ h.nominated, fun i hi => by simp [hsel] at hi⟩

/-- A state change keeps the selection announced: the move to Failed clears it. -/
theorem updateConnectionState (h : SelectionAnnounced a) (s : ConnectionState) :
    SelectionAnnounced (a.updateConnectionState s) := by
  by_cases hs : s = .failed
  · subst hs
    by_cases hf : a.connectionState = .failed
    · simpa [Agent.updateConnectionState, hf] using h
    · exact h.unselect (updateConnectionState_pairNotifier a _) (by simp [Agent.updateConnectionState_failed a hf])
  · rw [updateConnectionState_of_ne_failed a hs]
    split
    · exact h.of_frame rfl rfl ⟨[], (List.append_nil _).symm⟩
    · exact h

/-- `addRemoteCandidate` keeps the selection announced: it only appends to the checklist. -/
theorem addRemoteCandidate (h : SelectionAnnounced a) (env : Env) (c : Candidate) :
    SelectionAnnounced (a.addRemoteCandidate env c) := by
  obtain ⟨h₁, -, -, h₄⟩ := addRemoteCandidate_frame a env c
  exact h.grow h₁ (addRemoteCandidate_pairNotifier a env c) h₄

/-- Selecting the pair at `i` tells the handler of it, nominated. -/
theorem setSelectedPair (h : SelectionAnnounced a) {i : Nat} (hi : i < a.checklist.length) :
    SelectionAnnounced (a.setSelectedPair (some i)) := by
  obtain ⟨hsel, -, -, hlist⟩ := setSelectedPair_some a i
  have hq : (a.setSelectedPair (some i)).checklist[i]? = some { a.checklist[i] with nominated := true } := by
    simp [hlist, List.getElem?_modify, List.getElem?_eq_getElem hi]
  refine ⟨fun q hq' => ?_, fun j hj => ?_⟩
  · rw [setSelectedPair_pairNotifier, hq, Option.toList_some] at hq'
    rcases List.mem_append.mp hq' with hq' | hq'
    · exact h.nominated q hq'
    · rw [List.mem_singleton.mp hq']
  · obtain rfl := Option.some.inj (hsel.symm.trans hj)
    refine ⟨_, hq, ?_⟩
    rw [setSelectedPair_pairNotifier, hq, Option.toList_some, List.getLast?_concat]
    rfl

end SelectionAnnounced

/-- Every task keeps `SelectionAnnounced`. -/
theorem selectionAnnounced_step {T : Duration} {a a' : Agent} (h : SelectionAnnounced a)
    (ht : LoopTask T a a') : SelectionAnnounced a' := by
  have same : ∃ new, a.checklist = a.checklist ++ new := ⟨[], (List.append_nil _).symm⟩
  cases ht with
  | addCandidate c =>
    obtain ⟨h₁, -, -, h₄⟩ := addCandidate_frame a c
    exact h.grow h₁ (addCandidate_pairNotifier a c) h₄
  | addRemoteCandidate env c => exact h.addRemoteCandidate env c
  | handleInbound env m Local remote now =>
    have hin : SelectionAnnounced (a.handleInbound env m Local remote).agent := by
      rcases handleInbound_agent a env m Local remote with he | ⟨c, he⟩ <;> rw [he]
      · exact h
      · exact h.addRemoteCandidate env c
    rcases handleInboundTask_eq a env m Local remote now with he | ⟨c, he⟩ <;> rw [he]
    · exact hin
    · exact hin.grow rfl rfl ⟨[], (List.append_nil _).symm⟩
  | setRemoteCredentials u p => exact h.grow rfl rfl same
  | startConnectivityChecks isControlling u p _ =>
    simp only [Agent.startConnectivityChecks,
      updateConnectionState_of_ne_failed _ (show ConnectionState.checking ≠ .failed by decide)]
    split <;> exact h.grow rfl rfl same
  | restart u p =>
    exact h.unselect (by rw [restart_eq]) (restart_selectedPair a u p)
  | contact cl now₁ now₂ =>
    rcases contact_agent id a cl now₁ now₂ with he | he | he <;> rw [he]
    · exact h
    · exact h
    · exact h.updateConnectionState .failed
  | validateSelectedPair now =>
    rcases validateSelectedPair_agent a now with he | ⟨s, -, he⟩ <;> rw [he]
    · exact h
    · exact h.updateConnectionState s
  | setSelectedPair i _ hi => exact h.setSelectedPair hi
  | setPairState i st _ =>
    exact h.of_frame rfl rfl ⟨[], by
      rw [List.append_nil]
      exact CandidatePair.map_endpoints_modify (fun p => { p with state := st }) (fun _ => rfl) a.checklist i⟩
  | sendBindingRequest now m Local Remote _ => exact h.grow rfl rfl same
  | handleInboundBindingSuccess now id _ => exact h.grow rfl rfl same

/-- In every reachable state, the selected-pair handler has been told only of nominated
pairs, and while a pair is selected the last pair it was told of has the selected
pair's local and remote candidates: the application's view of the selected pair is
never stale. -/
theorem selectedPairNotifier_names_selected_pair {T : Duration} {a : Agent} (h : Reachable T a) :
    (∀ q ∈ a.selectedCandidatePairNotifier, q.nominated = true) ∧
      ∀ p, a.getSelectedPair = some p →
        a.selectedCandidatePairNotifier.getLast?.map CandidatePair.endpoints = some p.endpoints := by
  have h₀ : ∀ cfg, SelectionAnnounced (newAgent cfg) := fun _ =>
    ⟨fun _ hq => absurd hq (List.not_mem_nil _), fun _ hi => Option.noConfusion hi⟩
  have hok : SelectionAnnounced a := h.invariant h₀ fun _ _ => selectionAnnounced_step
  refine ⟨hok.nominated, fun p hp => ?_⟩
  obtain ⟨i, hi, hp⟩ := Option.bind_eq_some.mp hp
  obtain ⟨q, hq, hlast⟩ := hok.last i hi
  rw [hlast, Option.some.inj (hq.symm.trans hp)]

/-- The run that selects a pair has told the handler of it once. -/
theorem selectedPairNotifier_names_selected_pair_selectedRun :
    Reachable (Duration.ofNat 4000000000) selectedRun ∧ selectedRun.selectedCandidatePairNotifier.length = 1 ∧
    ((∀ q ∈ selectedRun.selectedCandidatePairNotifier, q.nominated = true) ∧
      ∀ p, selectedRun.getSelectedPair = some p →
        selectedRun.selectedCandidatePairNotifier.getLast?.map CandidatePair.endpoints = some p.endpoints) :=
  ⟨selectedRun_reachable _, by decide,
    selectedPairNotifier_names_selected_pair (selectedRun_reachable (Duration.ofNat 4000000000))⟩

end IceAgent.Analysis
