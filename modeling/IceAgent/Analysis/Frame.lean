import IceAgent.Model.Loop

/-!
# What the tasks leave alone

Most tasks touch a few fields of the agent. This file says, once per task, which
fields it keeps and how it grows the checklist, so that each invariant of the
reachable states is a short case analysis over `LoopTask`.

The candidate tasks (`addCandidate`, `addRemoteCandidate`, and `handleInbound`, which
may add a peer-reflexive remote) only append to the checklist and never touch the
connection state or the selected pair.
-/

set_option autoImplicit false

namespace IceAgent

/-- The local and the remote candidate of a pair. -/
def CandidatePair.endpoints (p : CandidatePair) : Candidate × Candidate := (p.Local, p.Remote)

/-- Changing a pair's flags at one position keeps the endpoints of every pair. -/
theorem CandidatePair.map_endpoints_modify (f : CandidatePair → CandidatePair)
    (hf : ∀ p, (f p).endpoints = p.endpoints) (l : List CandidatePair) (i : Nat) :
    (l.modify f i).map endpoints = l.map endpoints := by
  refine List.ext_getElem? fun n => ?_
  simp only [List.getElem?_map, List.getElem?_modify]
  cases l[n]? with
  | none => rfl
  | some p => by_cases h : i = n <;> simp [h, hf]

/-- An element of a map entry extended by `l` was there before or is in `l`. -/
theorem mem_update_append {α β : Type} [DecidableEq α] {f : α → List β} {k n : α} {l : List β}
    {x : β} : x ∈ Function.update f k (f k ++ l) n ↔ x ∈ f n ∨ (n = k ∧ x ∈ l) := by
  by_cases h : n = k
  · subst h; simp
  · simp [Function.update_noteq h, h]

/-- `b` has the candidate maps of `a`, and pairs with the same endpoints. -/
structure SameCandidates (a b : Agent) : Prop where
  localCandidates : b.localCandidates = a.localCandidates
  remoteCandidates : b.remoteCandidates = a.remoteCandidates
  endpoints : b.checklist.map CandidatePair.endpoints = a.checklist.map CandidatePair.endpoints

/-- An agent has its own candidates. -/
theorem SameCandidates.refl (a : Agent) : SameCandidates a a := ⟨rfl, rfl, rfl⟩

/-- Having the same candidates is transitive. -/
theorem SameCandidates.trans {a b c : Agent} (h₁ : SameCandidates a b) (h₂ : SameCandidates b c) :
    SameCandidates a c :=
  ⟨h₂.1.trans h₁.1, h₂.2.trans h₁.2, h₂.3.trans h₁.3⟩

/-- Every candidate and every pair deleted. -/
structure Cleared (a : Agent) : Prop where
  localCandidates : ∀ n, a.localCandidates n = []
  remoteCandidates : ∀ n, a.remoteCandidates n = []
  checklist : a.checklist = []

end IceAgent

namespace IceAgent.Agent

variable (a : Agent)

/-! ## The candidate tasks -/

/-- `addPair` keeps the selected pair. -/
@[simp] theorem addPair_selectedPair (l r : Candidate) : (a.addPair l r).selectedPair = a.selectedPair := rfl

/-- `addCandidate` keeps the selected pair, the state and the start flag, and only appends
to the checklist. -/
theorem addCandidate_frame (c : Candidate) :
    (a.addCandidate c).selectedPair = a.selectedPair ∧
    (a.addCandidate c).connectionState = a.connectionState ∧
    (a.addCandidate c).started = a.started ∧
    ∃ new, (a.addCandidate c).checklist = a.checklist ++ new := by
  cases h : (a.localCandidates c.networkType).any (·.Equal c)
  · rw [addCandidate_of_new a h]
    exact ⟨rfl, rfl, rfl, _, rfl⟩
  · rw [addCandidate_of_dup a h]
    exact ⟨rfl, rfl, rfl, [], (List.append_nil _).symm⟩

/-- `addRemotePassiveTCPCandidate` keeps the selected pair, the state and the start flag,
and only appends to the checklist. -/
theorem addRemotePassiveTCPCandidate_frame (env : Env) (c : Candidate) :
    (a.addRemotePassiveTCPCandidate env c).selectedPair = a.selectedPair ∧
    (a.addRemotePassiveTCPCandidate env c).connectionState = a.connectionState ∧
    (a.addRemotePassiveTCPCandidate env c).started = a.started ∧
    ∃ new, (a.addRemotePassiveTCPCandidate env c).checklist = a.checklist ++ new := by
  rw [addRemotePassiveTCPCandidate_eq]
  exact ⟨rfl, rfl, rfl, _, rfl⟩

/-- `addRemoteCandidate` keeps the selected pair, the state and the start flag, and only
appends to the checklist. -/
theorem addRemoteCandidate_frame (env : Env) (c : Candidate) :
    (a.addRemoteCandidate env c).selectedPair = a.selectedPair ∧
    (a.addRemoteCandidate env c).connectionState = a.connectionState ∧
    (a.addRemoteCandidate env c).started = a.started ∧
    ∃ new, (a.addRemoteCandidate env c).checklist = a.checklist ++ new := by
  cases h : (a.remoteCandidates c.networkType).any (·.Equal c)
  · rw [addRemoteCandidate_of_new a env h]
    obtain ⟨h₁, h₂, h₃, new, h₄⟩ := addRemotePassiveTCPCandidate_frame a env c
    split
    · dsimp only
      exact ⟨h₁, h₂, h₃, _, by rw [h₄, List.append_assoc]⟩
    · exact ⟨rfl, rfl, rfl, _, rfl⟩
  · rw [addRemoteCandidate_of_dup a env h]
    exact ⟨rfl, rfl, rfl, [], (List.append_nil _).symm⟩

/-- `handleInbound` changes the state only by adding a peer-reflexive remote candidate. -/
theorem handleInbound_agent (env : Env) (m : StunMessage) (Local : Candidate) (remote : NetAddr) :
    (a.handleInbound env m Local remote).agent = a ∨
      ∃ c, (a.handleInbound env m Local remote).agent = a.addRemoteCandidate env c := by
  unfold handleInbound
  dsimp only
  repeat' split
  all_goals first | exact .inl rfl | exact .inr ⟨_, rfl⟩

/-- The inbound task is `handleInbound` followed by a timestamp update. -/
theorem handleInboundTask_eq (env : Env) (m : StunMessage) (Local : Candidate) (remote : NetAddr)
    (now : Int) :
    a.handleInboundTask env m Local remote now = (a.handleInbound env m Local remote).agent ∨
      ∃ c, a.handleInboundTask env m Local remote now =
        (a.handleInbound env m Local remote).agent.seen c now := by
  unfold handleInboundTask
  dsimp only
  split
  · exact .inl rfl
  · exact .inr ⟨_, rfl⟩

/-! ## The state transitions -/

/-- `updateConnectionState` sets the state it is given. -/
@[simp] theorem updateConnectionState_connectionState (s : ConnectionState) :
    (a.updateConnectionState s).connectionState = s := by
  unfold updateConnectionState
  split
  · rfl
  · simp_all

/-- Selecting the pair at position `i` nominates it, selects it and moves to Connected. -/
theorem setSelectedPair_some (i : Nat) :
    (a.setSelectedPair (some i)).selectedPair = some i ∧
    (a.setSelectedPair (some i)).connectionState = .connected ∧
    (a.setSelectedPair (some i)).started = a.started ∧
    (a.setSelectedPair (some i)).checklist =
      a.checklist.modify (fun p => { p with nominated := true }) i := by
  simp only [setSelectedPair,
    updateConnectionState_of_ne_failed _ (show ConnectionState.connected ≠ .failed by decide)]
  split <;> exact ⟨rfl, by simp_all, rfl, rfl⟩

/-- `validateSelectedPair` moves to Failed, Disconnected or Connected. -/
theorem validatedState_cases (d : Duration) :
    a.validatedState d = .failed ∨ a.validatedState d = .disconnected ∨
      a.validatedState d = .connected := by
  unfold validatedState
  dsimp only
  split_ifs <;> simp

/-- `validateSelectedPair` leaves the state alone when no pair is selected, and moves
to Failed, Disconnected or Connected otherwise. -/
theorem validateSelectedPair_agent (now : Int) :
    (a.validateSelectedPair now).1 = a ∨
      ∃ s, (s = .failed ∨ s = .disconnected ∨ s = .connected) ∧
        (a.validateSelectedPair now).1 = a.updateConnectionState s := by
  unfold validateSelectedPair
  split
  · exact .inl rfl
  · exact .inr ⟨_, validatedState_cases a _, rfl⟩

/-- The shutdown step keeps the checklist and the selected pair and sets Closed. -/
theorem shutdown_frame :
    a.shutdown.selectedPair = a.selectedPair ∧ a.shutdown.checklist = a.checklist ∧
      a.shutdown.connectionState = .closed := by
  simp only [shutdown,
    updateConnectionState_of_ne_failed _ (show ConnectionState.closed ≠ .failed by decide)]
  split <;> exact ⟨rfl, rfl, by simp_all⟩

/-! ## The candidate maps and the checklist -/

/-- A move to any state keeps the candidates and the pairs, or (the move to Failed)
deletes them all. -/
theorem updateConnectionState_candidates (s : ConnectionState) :
    SameCandidates a (a.updateConnectionState s) ∨ Cleared (a.updateConnectionState s) := by
  by_cases hs : s = .failed
  · subst hs
    by_cases hf : a.connectionState = .failed
    · exact .inl (by simp only [updateConnectionState, hf]; exact SameCandidates.refl a)
    · exact .inr (by rw [updateConnectionState_failed a hf]; exact ⟨fun _ => rfl, fun _ => rfl, rfl⟩)
  · rw [updateConnectionState_of_ne_failed a hs]
    split
    · exact .inl ⟨rfl, rfl, rfl⟩
    · exact .inl (SameCandidates.refl a)

/-- Selecting a pair keeps the candidates and the endpoints of every pair. -/
theorem setSelectedPair_candidates (i : Option Nat) :
    SameCandidates a (a.setSelectedPair i) := by
  cases i with
  | none => exact ⟨rfl, rfl, rfl⟩
  | some i =>
    simp only [setSelectedPair,
      updateConnectionState_of_ne_failed _ (show ConnectionState.connected ≠ .failed by decide)]
    have h := CandidatePair.map_endpoints_modify (fun p => { p with nominated := true }) (fun _ => rfl)
      a.checklist i
    split <;> exact ⟨rfl, rfl, h⟩

end IceAgent.Agent

namespace IceAgent

/-- The check loop's closure leaves the state alone, runs the selector's contact, or
moves to Failed. -/
theorem contact_agent (f : Agent → Agent) (a : Agent) (cl : CheckLoop) (now₁ now₂ : Int) :
    (contact f a cl now₁ now₂).1 = a ∨ (contact f a cl now₁ now₂).1 = f a ∨
      (contact f a cl now₁ now₂).1 = a.updateConnectionState .failed := by
  unfold contact
  dsimp only
  split
  · exact .inl rfl
  · split_ifs <;> simp
  · exact .inr (.inl rfl)

/-- A state change keeps an agent with nothing filed so. -/
theorem Cleared.updateConnectionState {a : Agent} (h : Cleared a) (s : ConnectionState) :
    Cleared (a.updateConnectionState s) := by
  rcases Agent.updateConnectionState_candidates a s with hs | hs
  · exact ⟨fun n => hs.1 ▸ h.1 n, fun n => hs.2 ▸ h.2 n,
      List.map_eq_nil_iff.mp (hs.3.trans (by rw [h.3]; rfl))⟩
  · exact hs

/-- `Restart`'s task deletes every candidate and every pair. -/
theorem restart_cleared (a : Agent) (ufrag pwd : String) : Cleared (a.restart ufrag pwd) := by
  have h : ∀ b : Agent, b.checklist = [] → Cleared b.deleteAllCandidates :=
    fun _ hb => ⟨fun _ => rfl, fun _ => rfl, hb⟩
  have key : ∀ b : Agent, b.checklist = [] →
      Cleared (if b.deleteAllCandidates.connectionState ≠ .new then
        b.deleteAllCandidates.updateConnectionState .checking else b.deleteAllCandidates) := by
    intro b hb
    split
    · exact (h b hb).updateConnectionState _
    · exact h b hb
  exact key _ (by rfl)

open Agent in
/-- What a task does to the candidate maps and the checklist: it adds a local
candidate, adds a remote candidate, or deletes everything, and otherwise keeps the
candidates and the endpoints of every pair. -/
theorem LoopTask.candidates {T : Duration} {a a' : Agent} (ht : LoopTask T a a') :
    ∃ b, (b = a ∨ (∃ c, b = a.addCandidate c) ∨ (∃ env c, b = a.addRemoteCandidate env c) ∨
      Cleared b) ∧ SameCandidates b a' := by
  have upd : ∀ s, ∃ b, (b = a ∨ (∃ c, b = a.addCandidate c) ∨
      (∃ env c, b = a.addRemoteCandidate env c) ∨ Cleared b) ∧
        SameCandidates b (a.updateConnectionState s) := fun s =>
    (updateConnectionState_candidates a s).elim (fun h => ⟨a, .inl rfl, h⟩)
      fun h => ⟨_, .inr (.inr (.inr h)), SameCandidates.refl _⟩
  cases ht with
  | addCandidate c => exact ⟨_, .inr (.inl ⟨c, rfl⟩), SameCandidates.refl _⟩
  | addRemoteCandidate env c => exact ⟨_, .inr (.inr (.inl ⟨env, c, rfl⟩)), SameCandidates.refl _⟩
  | handleInbound env m Local remote now =>
    have hseen : SameCandidates (a.handleInbound env m Local remote).agent
        (a.handleInboundTask env m Local remote now) := by
      rcases handleInboundTask_eq a env m Local remote now with he | ⟨c, he⟩ <;> rw [he]
      · exact SameCandidates.refl _
      · exact ⟨rfl, rfl, rfl⟩
    rcases handleInbound_agent a env m Local remote with he | ⟨c, he⟩ <;> rw [he] at hseen
    · exact ⟨a, .inl rfl, hseen⟩
    · exact ⟨_, .inr (.inr (.inl ⟨env, c, rfl⟩)), hseen⟩
  | setRemoteCredentials u p => exact ⟨a, .inl rfl, ⟨rfl, rfl, rfl⟩⟩
  | startConnectivityChecks isControlling u p _ =>
    refine ⟨a, .inl rfl, ?_⟩
    simp only [Agent.startConnectivityChecks,
      updateConnectionState_of_ne_failed _ (show ConnectionState.checking ≠ .failed by decide)]
    split <;> exact ⟨rfl, rfl, rfl⟩
  | restart u p => exact ⟨_, .inr (.inr (.inr (restart_cleared a u p))), SameCandidates.refl _⟩
  | contact cl now₁ now₂ =>
    rcases contact_agent id a cl now₁ now₂ with he | he | he <;> rw [he]
    · exact ⟨a, .inl rfl, SameCandidates.refl _⟩
    · exact ⟨a, .inl rfl, SameCandidates.refl _⟩
    · exact upd .failed
  | validateSelectedPair now =>
    rcases validateSelectedPair_agent a now with he | ⟨s, -, he⟩ <;> rw [he]
    · exact ⟨a, .inl rfl, SameCandidates.refl _⟩
    · exact upd s
  | setSelectedPair i _ _ => exact ⟨a, .inl rfl, setSelectedPair_candidates a (some i)⟩
  | setPairState i st _ =>
    exact ⟨a, .inl rfl, ⟨rfl, rfl,
      CandidatePair.map_endpoints_modify (fun p => { p with state := st }) (fun _ => rfl) _ i⟩⟩
  | sendBindingRequest now m Local Remote _ => exact ⟨a, .inl rfl, ⟨rfl, rfl, rfl⟩⟩
  | handleInboundBindingSuccess now id _ => exact ⟨a, .inl rfl, ⟨rfl, rfl, rfl⟩⟩

end IceAgent
