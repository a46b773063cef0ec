import IceAgent.Analysis.SelectedPair

/-!
# Restart

`Restart` (agent.go:1237-1290) checks its credentials before it queues its task: a
failed generator or credentials too short are refused, and the agent is left as it was
(`Restart_cases`). Accepted credentials run `restart`, which takes the agent to a fresh
session in one record update (`restart_eq`): the checklist, the binding-request cache
and both candidate maps emptied, every candidate they held closed, no selected pair, the
new credentials, and Checking unless the agent was New. Each accepted `Restart` is a
task of the loop, so it keeps an agent reachable (`Restart_reachable`).
-/

set_option autoImplicit false

namespace IceAgent.Analysis

open Agent

/-- What `Restart` promises for the credentials `u` and `p` it ends up with, once empty
ones are generated: an error exactly when `u` has fewer than 3 runes or `p` fewer than
16, with the agent unchanged; otherwise a fresh session, with one connection-state event
queued exactly when the state changed. -/
def RestartSpec (a : Agent) (u p : String) (r : Agent × Option RestartError) : Prop :=
  ((u.length < 3 ∨ p.length < 16) ↔ r.2.isSome) ∧ (r.2.isSome → r.1 = a) ∧
  (r.2 = none →
    r.1.checklist = [] ∧ r.1.pendingBindingRequests = [] ∧
    (∀ n, r.1.localCandidates n = [] ∧ r.1.remoteCandidates n = []) ∧
    r.1.closedCandidates = a.closedCandidates ++ NetworkType.all.flatMap a.localCandidates ++
      NetworkType.all.flatMap a.remoteCandidates ∧
    r.1.selectedPair = none ∧ r.1.getSelectedPair = none ∧
    r.1.localUfrag = u ∧ r.1.localPwd = p ∧ r.1.remoteUfrag = "" ∧ r.1.remotePwd = "" ∧
    r.1.gatheringState = .new ∧
    r.1.connectionState = (if a.connectionState = .new then .new else .checking) ∧
    r.1.connectionStateNotifier = a.connectionStateNotifier ++
      if r.1.connectionState = a.connectionState then [] else [r.1.connectionState])

section

variable (a : Agent) (generateUFrag generatePwd : Option String) (ufrag pwd : String)

/-- `Restart` either refuses, leaving the agent as it was, or runs `restart`. -/
theorem Restart_cases :
    (∃ e, a.Restart generateUFrag generatePwd ufrag pwd = (a, some e)) ∨
      ∃ u p, a.Restart generateUFrag generatePwd ufrag pwd = (a.restart u p, none) := by
  unfold Restart
  split
  · exact .inl ⟨_, rfl⟩
  · exact .inl ⟨_, rfl⟩
  · split_ifs
    exacts [.inl ⟨_, rfl⟩, .inl ⟨_, rfl⟩, .inr ⟨_, _, rfl⟩]

/-- Once the credentials are known, `Restart` checks their lengths in runes. -/
theorem Restart_of_some {u p : String}
    (hu : (if ufrag = "" then generateUFrag else some ufrag) = some u)
    (hp : (if pwd = "" then generatePwd else some pwd) = some p) :
    a.Restart generateUFrag generatePwd ufrag pwd =
      if u.length < 3 then (a, some .localUfragInsufficientBits)
      else if p.length < 16 then (a, some .localPwdInsufficientBits)
      else (a.restart u p, none) := by
  have h₁ : u.length * 8 < 24 ↔ u.length < 3 := by omega
  have h₂ : p.length * 8 < 128 ↔ p.length < 16 := by omega
  simp only [Restart, hu, hp, h₁, h₂]

/-- `Restart` keeps an agent reachable, whether it fails or runs its task. -/
theorem Restart_reachable {T : Duration} (h : Reachable T a) :
    Reachable T (a.Restart generateUFrag generatePwd ufrag pwd).1 := by
  rcases Restart_cases a generateUFrag generatePwd ufrag pwd with ⟨_, he⟩ | ⟨u, p, he⟩
  · rwa [he]
  · rw [he]
    exact .step h (.restart _ _ _)

/-- `Restart` keeps its promise, for every agent. -/
theorem Restart_spec {u p : String}
    (hu : (if ufrag = "" then generateUFrag else some ufrag) = some u)
    (hp : (if pwd = "" then generatePwd else some pwd) = some p) :
    RestartSpec a u p (a.Restart generateUFrag generatePwd ufrag pwd) := by
  rw [Restart_of_some a _ _ _ _ hu hp]
  by_cases h₁ : u.length < 3
  · simp [RestartSpec, h₁]
  by_cases h₂ : p.length < 16
  · simp [RestartSpec, h₁, h₂]
  rw [if_neg h₁, if_neg h₂, restart_eq]
  cases hs : a.connectionState <;> simp [RestartSpec, h₁, h₂, hs, getSelectedPair]

end

/-- For every agent, and so every reachable state of a running agent, and all
credentials: once empty ones are generated, `Restart` refuses credentials of fewer than
3 and 16 runes and leaves the agent unchanged, and otherwise empties the checklist, the
cache and both candidate maps, closing every candidate they held, unsets the selected
pair, installs the credentials, clears the remote ones, resets gathering to New, and
moves to Checking unless the agent was New, queueing one event exactly when the state
changed; and the agent it leaves is reachable when the one it started from is. -/
theorem Restart_rejects_or_resets (T : Duration) (a : Agent)
    (generateUFrag generatePwd : Option String) (ufrag pwd u p : String)
    (hu : (if ufrag = "" then generateUFrag else some ufrag) = some u)
    (hp : (if pwd = "" then generatePwd else some pwd) = some p) :
    RestartSpec a u p (a.Restart generateUFrag generatePwd ufrag pwd) ∧
      (Reachable T a → Reachable T (a.Restart generateUFrag generatePwd ufrag pwd).1) :=
  ⟨Restart_spec a _ _ _ _ hu hp, Restart_reachable a _ _ _ _⟩

/-- A generated ufrag and a given password, on the Connected agent with a selected pair. -/
theorem Restart_rejects_or_resets_selectedRun :
    (if "" = "" then some "Kp3w" else some "") = some "Kp3w" ∧
    (if "0123456789abcdef" = "" then none else some "0123456789abcdef") = some "0123456789abcdef" ∧
    RestartSpec selectedRun "Kp3w" "0123456789abcdef"
      (selectedRun.Restart (some "Kp3w") none "" "0123456789abcdef") ∧
    (Reachable (Duration.ofNat 4000000000) selectedRun →
      Reachable (Duration.ofNat 4000000000)
        (selectedRun.Restart (some "Kp3w") none "" "0123456789abcdef").1) :=
  ⟨rfl, rfl, Restart_rejects_or_resets (Duration.ofNat 4000000000) selectedRun (some "Kp3w") none ""
    "0123456789abcdef" "Kp3w" "0123456789abcdef" rfl rfl⟩

end IceAgent.Analysis
