import IceAgent.Analysis.Notifiers

/-!
# The connection-state diagram

`updateConnectionState` is called with Checking by `startConnectivityChecks`
(agent.go:419) and `Restart` (agent.go:1284), with Connected by `setSelectedPair`
(agent.go:530) and `validateSelectedPair` (agent.go:632), with Disconnected by
`validateSelectedPair` alone (agent.go:630), with Failed by the check loop
(agent.go:449), by `validateSelectedPair` (agent.go:628) and by the Failed transition,
and with Closed by the taskLoop's shutdown alone (agent.go:234). Which of them can fire
depends on the state: `validateSelectedPair` acts only on a selected pair, so only in
Connected or Disconnected (`SelectedPairOk`), and the selector selects a pair only once
the checks have started, when the agent has left New for good (`InDiagram`).

So every task moves the agent along one edge of `ConnectionState.canChangeTo` or leaves
it where it is (`LoopTask.follows`), and the connection-state handler's queue is a walk
of that diagram from New, to which closing the agent appends Closed. What the diagram
leaves out is what the agent never does: it never returns to New, never goes from New
to Connected or Disconnected, enters Disconnected only from Connected, and is never
Unknown, nor Closed while its loop runs.
-/

set_option autoImplicit false

namespace IceAgent

/-- The moves of the connection state while the task loop runs: to Checking when the
checks start or restart, to Connected when a pair is selected or the selected pair's
remote is heard from again, to Disconnected when it falls silent, and to Failed from any
state of the diagram. -/
def ConnectionState.canChangeTo : ConnectionState → ConnectionState → Bool
  | .new, .checking | .connected, .checking | .disconnected, .checking | .failed, .checking => true
  | .checking, .connected | .disconnected, .connected | .failed, .connected => true
  | .connected, .disconnected => true
  | .new, .failed | .checking, .failed | .connected, .failed | .disconnected, .failed => true
  | _, _ => false

example : ConnectionState.checking.canChangeTo .disconnected = false := rfl

/-- Every move leads to Checking, Connected, Disconnected or Failed. -/
theorem ConnectionState.canChangeTo_target {s s' : ConnectionState} (h : s.canChangeTo s' = true) :
    s' ≠ .new ∧ s' ≠ .unknown ∧ s' ≠ .closed := by
  revert h
  cases s <;> cases s' <;> decide

end IceAgent

namespace IceAgent.Analysis

open Agent

/-- `a'` is in the state of `a`, or one move of the diagram away from it. -/
def Follows (a a' : Agent) : Prop :=
  a'.connectionState = a.connectionState ∨ a.connectionState.canChangeTo a'.connectionState = true

/-- A task that leaves the agent in `s` follows the diagram when `s` is the current state
or one move away from it. -/
theorem Follows.of_eq {a a' : Agent} {s : ConnectionState}
    (hs : a.connectionState ≠ s → a.connectionState.canChangeTo s = true) (h : a'.connectionState = s) :
    Follows a a' := by
  rw [Follows, h]
  by_cases hc : a.connectionState = s
  · exact .inl hc.symm
  · exact .inr (hs hc)

/-- `updateConnectionState` does not change whether the checks have started. -/
@[simp] theorem updateConnectionState_started (a : Agent) (s : ConnectionState) :
    (a.updateConnectionState s).started = a.started := by
  unfold updateConnectionState
  split_ifs <;> rfl

/-- `validateSelectedPair` acts only on an agent with a selected pair. -/
theorem validateSelectedPair_of_selected (a : Agent) (now : Int) :
    (a.validateSelectedPair now).1 = a ∨
      ∃ i s, a.selectedPair = some i ∧ (s = .failed ∨ s = .disconnected ∨ s = .connected) ∧
        (a.validateSelectedPair now).1 = a.updateConnectionState s := by
  unfold validateSelectedPair getSelectedPair
  split
  · exact .inl rfl
  · rename_i p hp
    obtain ⟨i, hi, -⟩ := Option.bind_eq_some.mp hp
    exact .inr ⟨i, _, hi, validatedState_cases a _, rfl⟩

/-- The agent is a node of the diagram, and not New once the checks have started; the
handler's queue is a walk of the diagram from New. -/
structure InDiagram (a : Agent) : Prop where
  unknown : a.connectionState ≠ .unknown
  closed : a.connectionState ≠ .closed
  started : a.started = true → a.connectionState ≠ .new
  walk : (ConnectionState.new :: a.connectionStateNotifier).Chain' (·.canChangeTo · = true)

namespace InDiagram

variable {a : Agent} (hd : InDiagram a)
include hd

/-- Every state of the diagram but Checking moves to Checking. -/
theorem toChecking : a.connectionState ≠ .checking → a.connectionState.canChangeTo .checking = true := by
  have hu := hd.unknown
  have hc := hd.closed
  revert hu hc
  cases a.connectionState <;> decide

/-- Every state of the diagram but Failed moves to Failed. -/
theorem toFailed : a.connectionState ≠ .failed → a.connectionState.canChangeTo .failed = true := by
  have hu := hd.unknown
  have hc := hd.closed
  revert hu hc
  cases a.connectionState <;> decide

/-- Once the checks have started, every state of the diagram but Connected moves to
Connected. -/
theorem toConnected (hs : a.started = true) :
    a.connectionState ≠ .connected → a.connectionState.canChangeTo .connected = true := by
  have hu := hd.unknown
  have hc := hd.closed
  have hn := hd.started hs
  revert hu hc hn
  cases a.connectionState <;> decide

end InDiagram

/-- From a selected pair's state, each state `validateSelectedPair` moves to is one
move away. -/
theorem canChangeTo_of_selected {s s' : ConnectionState} (hs : s = .connected ∨ s = .disconnected)
    (hs' : s' = .failed ∨ s' = .disconnected ∨ s' = .connected) : s ≠ s' → s.canChangeTo s' = true := by
  rcases hs with rfl | rfl <;> rcases hs' with rfl | rfl | rfl <;> decide

/-- Every task from a state of the diagram moves along the diagram or stays, and only
`startConnectivityChecks`, which moves to Checking, changes the start flag. -/
theorem LoopTask.follows {T : Duration} {a a' : Agent} (hd : InDiagram a) (hsel : SelectedPairOk a)
    (ht : LoopTask T a a') : Follows a a' ∧ (a'.started = a.started ∨ a'.connectionState = .checking) := by
  have frame : ∀ b : Agent, b.connectionState = a.connectionState → b.started = a.started →
      Follows a b ∧ (b.started = a.started ∨ b.connectionState = .checking) :=
    fun _ hs hst => ⟨.inl hs, .inl hst⟩
  cases ht with
  | addCandidate c =>
    obtain ⟨-, h₂, h₃, -⟩ := addCandidate_frame a c
    exact frame _ h₂ h₃
  | addRemoteCandidate env c =>
    obtain ⟨-, h₂, h₃, -⟩ := addRemoteCandidate_frame a env c
    exact frame _ h₂ h₃
  | handleInbound env m Local remote now =>
    have hin : (a.handleInbound env m Local remote).agent.connectionState = a.connectionState ∧
        (a.handleInbound env m Local remote).agent.started = a.started := by
      rcases handleInbound_agent a env m Local remote with he | ⟨c, he⟩ <;> rw [he]
      · exact ⟨rfl, rfl⟩
      · exact ⟨(addRemoteCandidate_frame a env c).2.1, (addRemoteCandidate_frame a env c).2.2.1⟩
    rcases handleInboundTask_eq a env m Local remote now with he | ⟨c, he⟩ <;> rw [he]
    · exact frame _ hin.1 hin.2
    · exact frame _ hin.1 hin.2
  | setRemoteCredentials u p => exact frame _ rfl rfl
  | startConnectivityChecks isControlling u p _ =>
    have hs : (a.startConnectivityChecks isControlling u p).connectionState = .checking :=
      updateConnectionState_connectionState _ _
    exact ⟨.of_eq hd.toChecking hs, .inr hs⟩
  | restart u p =>
    have hs : (a.restart u p).connectionState = if a.connectionState = .new then .new else .checking := by
      rw [restart_eq]
    have hst : (a.restart u p).started = a.started := by rw [restart_eq]
    split_ifs at hs with hn
    · exact frame _ (hs.trans hn.symm) hst
    · exact ⟨.of_eq hd.toChecking hs, .inl hst⟩
  | contact cl now₁ now₂ =>
    rcases contact_agent id a cl now₁ now₂ with he | he | he <;> rw [he]
    · exact frame _ rfl rfl
    · exact frame _ rfl rfl
    · exact ⟨.of_eq hd.toFailed (updateConnectionState_connectionState a _),
        .inl (updateConnectionState_started a _)⟩
  | validateSelectedPair now =>
    rcases validateSelectedPair_of_selected a now with he | ⟨i, s, hi, hs, he⟩ <;> rw [he]
    · exact frame _ rfl rfl
    · exact ⟨.of_eq (canChangeTo_of_selected (hsel.connected i hi) hs)
        (updateConnectionState_connectionState a s), .inl (updateConnectionState_started a s)⟩
  | setSelectedPair i hs _ =>
    obtain ⟨-, hstate, hstarted, -⟩ := setSelectedPair_some a i
    exact ⟨.of_eq (hd.toConnected hs) hstate, .inl hstarted⟩
  | setPairState i st _ => exact frame _ rfl rfl
  | sendBindingRequest now m Local Remote _ => exact frame _ rfl rfl
  | handleInboundBindingSuccess now id _ => exact frame _ rfl rfl

/-- A task leaves the handler's queue as it is, or appends the state it moves to. -/
theorem LoopTask.notifier {T : Duration} {a a' : Agent} (ht : LoopTask T a a') :
    a'.connectionStateNotifier = a.connectionStateNotifier ∨
      (a'.connectionStateNotifier = a.connectionStateNotifier ++ [a'.connectionState] ∧
        a'.connectionState ≠ a.connectionState) := by
  rcases LoopTask.stateLog ht with hs | ⟨b, s, hb, -, hb'⟩
  · exact .inl hs.notifier
  · rw [hb'.notifier, hb'.state, updateConnectionState_notifier, updateConnectionState_connectionState,
      hb.notifier, hb.state]
    by_cases h : a.connectionState = s
    · exact .inl (by rw [if_pos h, List.append_nil])
    · exact .inr ⟨by rw [if_neg h], Ne.symm h⟩

/-- Every task keeps `InDiagram`: the state it moves to is a node of the diagram, a move
to New never happens, and a change of state extends the walk by one edge. -/
theorem InDiagram.step {T : Duration} {a a' : Agent} (hd : InDiagram a) (hlog : StateLogOk a)
    (hsel : SelectedPairOk a) (ht : LoopTask T a a') : InDiagram a' := by
  obtain ⟨hf, hst⟩ := LoopTask.follows hd hsel ht
  have hnode : a'.connectionState ≠ .unknown ∧ a'.connectionState ≠ .closed := by
    rcases hf with hf | hf
    · exact hf ▸ ⟨hd.unknown, hd.closed⟩
    · exact (ConnectionState.canChangeTo_target hf).2
  refine ⟨hnode.1, hnode.2, fun hs => ?_, ?_⟩
  · rcases hst with hst | hst
    · rcases hf with hf | hf
      · exact hf ▸ hd.started (hst ▸ hs)
      · exact (ConnectionState.canChangeTo_target hf).1
    · rw [hst]
      exact nofun
  · rcases LoopTask.notifier ht with hn | ⟨hn, hne⟩ <;> rw [hn]
    · exact hd.walk
    · refine hd.walk.append (List.chain'_singleton _) fun x hx y hy => ?_
      rw [List.getLast?_cons, Option.mem_some_iff, ← List.getLastD_eq_getLast?, hlog.last] at hx
      rw [List.head?_cons, Option.mem_some_iff] at hy
      subst hx hy
      exact hf.resolve_left hne

/-- Every reachable agent's state log follows the diagram. -/
theorem inDiagram_reachable {T : Duration} {a : Agent} (h : Reachable T a) : InDiagram a := by
  induction h with
  | init cfg => exact ⟨nofun, nofun, nofun, List.chain'_singleton _⟩
  | step hr ht ih => exact ih.step (stateLogOk_reachable hr) (selectedPairOk_reachable hr) ht

/-- For every reachable state: every task moves the connection state along one edge of
the diagram `ConnectionState.canChangeTo` or leaves it; the connection-state handler's
queue is a walk of the diagram from New; and the taskLoop's shutdown appends Closed to
it. So the handler is never told of a return to New, of Connected or Disconnected
straight from New, or of Disconnected from any state but Connected. -/
theorem connectionState_follows_diagram {T : Duration} {a : Agent} (h : Reachable T a) :
    (∀ a', LoopTask T a a' → a'.connectionState = a.connectionState ∨
      a.connectionState.canChangeTo a'.connectionState = true) ∧
    (ConnectionState.new :: a.connectionStateNotifier).Chain' (·.canChangeTo · = true) ∧
    a.shutdown.connectionStateNotifier = a.connectionStateNotifier ++ [.closed] := by
  have hd := inDiagram_reachable h
  refine ⟨fun a' ht => (LoopTask.follows hd (selectedPairOk_reachable h) ht).1, hd.walk, ?_⟩
  simp [shutdown, updateConnectionState_notifier, deleteAllCandidates, hd.closed]

/-- The run that starts the checks and selects a pair walks New, Checking, Connected. -/
theorem connectionState_follows_diagram_selectedRun :
    Reachable (Duration.ofNat 4000000000) selectedRun ∧
    selectedRun.connectionStateNotifier = [.checking, .connected] ∧
    ((∀ a', LoopTask (Duration.ofNat 4000000000) selectedRun a' →
      a'.connectionState = selectedRun.connectionState ∨
        selectedRun.connectionState.canChangeTo a'.connectionState = true) ∧
    (ConnectionState.new :: selectedRun.connectionStateNotifier).Chain' (·.canChangeTo · = true) ∧
    selectedRun.shutdown.connectionStateNotifier = selectedRun.connectionStateNotifier ++ [.closed]) :=
  ⟨selectedRun_reachable _, by decide,
    connectionState_follows_diagram (selectedRun_reachable (Duration.ofNat 4000000000))⟩

end IceAgent.Analysis
