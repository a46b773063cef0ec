import IceAgent.Analysis.Candidates

/-!
# The selected pair

`setSelectedPair` marks the pair nominated and moves the agent to Connected; the
Failed transition and `Restart` unset it together with the checklist. So while the
loop runs, a selected pair is a nominated pair of the checklist and the agent is
Connected or Disconnected (`SelectedPairOk`, kept by every task).

The taskLoop's shutdown step (agent.go:224-237) sets Closed and deletes the candidates
but keeps the checklist and the selected pair: after it, a selected pair is still a
nominated pair of the checklist, and the agent is Closed
(`selectedPair_shutdown_closed` shows such a state).
-/

set_option autoImplicit false

namespace IceAgent.Analysis

open Agent

/-- The selected pair, when there is one, is a nominated pair of the checklist and the
agent is Connected or Disconnected; before the start nothing is selected. -/
structure SelectedPairOk (a : Agent) : Prop where
  nominated : ∀ i, a.selectedPair = some i → ∃ p, a.checklist[i]? = some p ∧ p.nominated = true
  connected : ∀ i, a.selectedPair = some i →
    a.connectionState = .connected ∨ a.connectionState = .disconnected
  unstarted : a.started = false → a.selectedPair = none

namespace SelectedPairOk

variable {a a' : Agent}

/-- An agent with nothing selected has its selected pair in order. -/
theorem of_selectedPair_none (h : a'.selectedPair = none) : SelectedPairOk a' :=
  ⟨by simp [h], by simp [h], fun _ => h⟩

/-- A task that keeps the selected pair, the state and the start flag and only appends
to the checklist keeps the invariant. -/
theorem grow (h : SelectedPairOk a) (hsel : a'.selectedPair = a.selectedPair)
    (hstate : a'.connectionState = a.connectionState) (hstarted : a'.started = a.started)
    (hlist : ∃ new, a'.checklist = a.checklist ++ new) : SelectedPairOk a' := by
  obtain ⟨new, hnew⟩ := hlist
  refine ⟨fun i hi => ?_, fun i hi => hstate ▸ h.connected i (hsel ▸ hi),
    fun hs => hsel ▸ h.unstarted (hstarted ▸ hs)⟩
  obtain ⟨p, hp, hnom⟩ := h.nominated i (hsel ▸ hi)
  have hlt : i < a.checklist.length := (List.getElem?_eq_some_iff.mp hp).1
  exact ⟨p, by rw [hnew, List.getElem?_append_left hlt, hp], hnom⟩

/-- Moving to a state other than Failed keeps the invariant when nothing is selected or
the new state is Connected or Disconnected. -/
theorem updateConnectionState (h : SelectedPairOk a) {s : ConnectionState} (hs : s ≠ .failed)
    (hok : a.selectedPair = none ∨ s = .connected ∨ s = .disconnected) :
    SelectedPairOk (a.updateConnectionState s) := by
  rw [updateConnectionState_of_ne_failed a hs]
  split
  · refine ⟨h.nominated, fun i hi => ?_, h.unstarted⟩
    rcases hok with hn | hc
    · simp [hn] at hi
    · exact hc
  · exact h

/-- The move to Failed keeps the invariant: it clears the selected pair. -/
theorem updateConnectionState_failed (h : SelectedPairOk a) :
    SelectedPairOk (a.updateConnectionState .failed) := by
  by_cases hf : a.connectionState = .failed
  · simpa [Agent.updateConnectionState, hf] using h
  · exact of_selectedPair_none (by simp [Agent.updateConnectionState_failed a hf])

end SelectedPairOk

/-- `Restart`'s task clears the selected pair. -/
theorem restart_selectedPair (a : Agent) (ufrag pwd : String) :
    (a.restart ufrag pwd).selectedPair = none := by
  simp only [restart,
    updateConnectionState_of_ne_failed _ (show ConnectionState.checking ≠ .failed by decide)]
  split_ifs <;> rfl

/-- Every task keeps `SelectedPairOk`. -/
theorem selectedPairOk_step {T : Duration} {a a' : Agent} (h : SelectedPairOk a)
    (ht : LoopTask T a a') : SelectedPairOk a' := by
  cases ht with
  | addCandidate c =>
    obtain ⟨h₁, h₂, h₃, h₄⟩ := addCandidate_frame a c
    exact h.grow h₁ h₂ h₃ h₄
  | addRemoteCandidate env c =>
    obtain ⟨h₁, h₂, h₃, h₄⟩ := addRemoteCandidate_frame a env c
    exact h.grow h₁ h₂ h₃ h₄
  | handleInbound env m Local remote now =>
    have hin : SelectedPairOk (a.handleInbound env m Local remote).agent := by
      rcases handleInbound_agent a env m Local remote with he | ⟨c, he⟩ <;> rw [he]
      · exact h
      · obtain ⟨h₁, h₂, h₃, h₄⟩ := addRemoteCandidate_frame a env c
        exact h.grow h₁ h₂ h₃ h₄
    rcases handleInboundTask_eq a env m Local remote now with he | ⟨c, he⟩ <;> rw [he]
    · exact hin
    · exact hin.grow rfl rfl rfl ⟨[], (List.append_nil _).symm⟩
  | setRemoteCredentials u p => exact h.grow rfl rfl rfl ⟨[], (List.append_nil _).symm⟩
  | startConnectivityChecks isControlling u p hs =>
    exact SelectedPairOk.of_selectedPair_none (by
      simp [startConnectivityChecks, Agent.updateConnectionState, requestConnectivityCheck,
        h.unstarted hs]
      split <;> rfl)
  | restart u p => exact SelectedPairOk.of_selectedPair_none (restart_selectedPair a u p)
  | contact cl now₁ now₂ =>
    rcases contact_agent id a cl now₁ now₂ with he | he | he <;> rw [he]
    · exact h
    · exact h
    · exact h.updateConnectionState_failed
  | validateSelectedPair now =>
    rcases validateSelectedPair_agent a now with he | ⟨s, hs | hs | hs, he⟩ <;> rw [he]
    · exact h
    · exact hs ▸ h.updateConnectionState_failed
    · exact h.updateConnectionState (by simp [hs]) (.inr (.inr hs))
    · exact h.updateConnectionState (by simp [hs]) (.inr (.inl hs))
  | setSelectedPair i hs hi =>
    obtain ⟨hsel, hstate, hstarted, hlist⟩ := setSelectedPair_some a i
    refine ⟨fun j hj => ?_, fun j _ => .inl hstate, fun h' => absurd (hstarted ▸ h') (by simp [hs])⟩
    obtain rfl : i = j := Option.some.inj (hsel ▸ hj)
    exact ⟨{ a.checklist[i] with nominated := true },
      by simp [hlist, List.getElem?_modify, List.getElem?_eq_getElem hi], rfl⟩
  | setPairState i st hs =>
    refine ⟨fun j hj => ?_, h.connected, h.unstarted⟩
    obtain ⟨p, hp, hnom⟩ := h.nominated j hj
    refine ⟨if i = j then { p with state := st } else p, ?_, by split <;> exact hnom⟩
    simp [setPairState, List.getElem?_modify, hp]
  | sendBindingRequest now m Local Remote hs => exact h.grow rfl rfl rfl ⟨[], (List.append_nil _).symm⟩
  | handleInboundBindingSuccess now id hs =>
    exact h.grow rfl rfl rfl ⟨[], (List.append_nil _).symm⟩

/-- Every reachable agent has its selected pair in order. -/
theorem selectedPairOk_reachable {T : Duration} {a : Agent} (h : Reachable T a) :
    SelectedPairOk a :=
  h.invariant (fun _ => SelectedPairOk.of_selectedPair_none rfl) fun _ _ => selectedPairOk_step

/-- While the loop runs, a selected pair is a nominated pair of the checklist and the
agent is Connected or Disconnected; in the state the shutdown step leaves, a selected
pair is still a nominated pair of the checklist and the agent is Closed. -/
theorem selectedPair_nominated_connected_or_closed {T : Duration} {a : Agent}
    (h : Reachable T a) :
    (∀ i, a.selectedPair = some i →
      (∃ p, a.checklist[i]? = some p ∧ p.nominated = true) ∧
        (a.connectionState = .connected ∨ a.connectionState = .disconnected)) ∧
    (∀ i, a.shutdown.selectedPair = some i →
      (∃ p, a.shutdown.checklist[i]? = some p ∧ p.nominated = true) ∧
        a.shutdown.connectionState = .closed) := by
  have hok := selectedPairOk_reachable h
  obtain ⟨hsel, hlist, hclosed⟩ := shutdown_frame a
  refine ⟨fun i hi => ⟨hok.nominated i hi, hok.connected i hi⟩, fun i hi => ?_⟩
  rw [hlist]
  exact ⟨hok.nominated i (hsel ▸ hi), hclosed⟩

/-! ## A run that selects a pair -/

/-- Start the checks as the controlling side, learn one local and one remote host
candidate, and select their pair. -/
def selectedRun : Agent :=
  ((((newAgent udpConfig).startConnectivityChecks true "ru" "rp").addCandidate
    (hostCandidate .udp4 .unspecified "10.0.0.1" 5000)).addRemoteCandidate noEnv
    (hostCandidate .udp4 .unspecified "10.0.0.2" 5000)).setSelectedPair (some 0)

/-- `selectedRun` is reached by the start, two candidates and the selection. -/
theorem selectedRun_reachable (T : Duration) : Reachable T selectedRun :=
  .step (.step (.step (.step (.init udpConfig) (.startConnectivityChecks _ true "ru" "rp" rfl))
    (.addCandidate _ _)) (.addRemoteCandidate _ _ _)) (.setSelectedPair _ 0 rfl (by decide))

/-- In `selectedRun` the selected pair is nominated and the agent Connected, and after
`Close` the agent is Closed with the pair still nominated. -/
theorem selectedPair_nominated_connected_or_closed_selectedRun :
    Reachable (Duration.ofNat 4000000000) selectedRun ∧
      ((∀ i, selectedRun.selectedPair = some i →
        (∃ p, selectedRun.checklist[i]? = some p ∧ p.nominated = true) ∧
          (selectedRun.connectionState = .connected ∨ selectedRun.connectionState = .disconnected)) ∧
      (∀ i, selectedRun.shutdown.selectedPair = some i →
        (∃ p, selectedRun.shutdown.checklist[i]? = some p ∧ p.nominated = true) ∧
          selectedRun.shutdown.connectionState = .closed)) :=
  ⟨selectedRun_reachable _,
    selectedPair_nominated_connected_or_closed (selectedRun_reachable (Duration.ofNat 4000000000))⟩

/-- The shutdown step leaves a reachable state with a selected pair and the state
Closed. -/
theorem selectedPair_shutdown_closed :
    ¬ ∀ a, Reachable (Duration.ofNat 4000000000) a → ∀ i, a.shutdown.selectedPair = some i →
      a.shutdown.connectionState = .connected ∨ a.shutdown.connectionState = .disconnected := by
  intro h
  have := h _ (selectedRun_reachable _) 0 (by decide)
  rw [(shutdown_frame selectedRun).2.2] at this
  simp at this

end IceAgent.Analysis
