import IceAgent.Analysis.Candidates

/-!
# What an inbound message can change

`handleInbound` (agent.go:1075-1161) returns early at each failed check, and only
two of its paths act: an authenticated request may learn a peer-reflexive remote
candidate and reaches the selector's `HandleBindingRequest`, and an authenticated
success response from a known remote reaches `HandleSuccessResponse`. Every other
message (another method or class, a role conflict, a failed USERNAME or
MESSAGE-INTEGRITY check, an indication, an unknown responder) leaves the agent as it
was and calls nothing. The loop task adds only the last-received time of the remote
it heard from.
-/

set_option autoImplicit false

namespace IceAgent.Analysis

open Agent

variable (a : Agent)

/-- A remote `findRemoteCandidate` returns is filed under the network type it searched. -/
theorem findRemoteCandidate_mem {n : NetworkType} {addr : NetAddr} {rc : Candidate}
    (h : a.findRemoteCandidate n addr = some rc) : rc ∈ a.remoteCandidates n := by
  unfold findRemoteCandidate at h
  split at h
  · cases h
  · exact List.mem_of_find?_eq_some h

/-- No remote of type `n` has the address and port `findRemoteCandidate` looked for. -/
theorem findRemoteCandidate_eq_none {n : NetworkType} {addr : NetAddr} {ip : IPAddr} {port : Nat}
    {n' : NetworkType} (hp : parseAddr addr = some (ip, port, n'))
    (h : a.findRemoteCandidate n addr = none) :
    ∀ rc ∈ a.remoteCandidates n, ¬ (rc.address = ip.text ∧ rc.port = port) := by
  unfold findRemoteCandidate at h
  rw [hp] at h
  intro rc hrc ⟨haddr, hport⟩
  have := List.find?_eq_none.mp h rc hrc
  simp [haddr, hport] at this

/-- The loop task changes neither candidate map, nor the checklist, nor the cache
beyond what `handleInbound` does. -/
theorem handleInboundTask_keeps (env : Env) (m : StunMessage) (Local : Candidate) (remote : NetAddr)
    (now : Int) :
    let a' := a.handleInboundTask env m Local remote now
    let r := a.handleInbound env m Local remote
    a'.localCandidates = r.agent.localCandidates ∧ a'.remoteCandidates = r.agent.remoteCandidates ∧
      a'.checklist = r.agent.checklist ∧ a'.pendingBindingRequests = r.agent.pendingBindingRequests := by
  rcases handleInboundTask_eq a env m Local remote now with he | ⟨c, he⟩ <;> rw [he] <;>
    exact ⟨rfl, rfl, rfl, rfl⟩

/-- An inbound message changes the agent or reaches the selector only when it is a
Binding message without a role conflict and either an authenticated request (which
may add one peer-reflexive remote with the source's IP and port, when no remote of
the local candidate's type has them) or an authenticated success response from a
known remote; the loop task adds nothing to the candidates, the checklist or the
cache beyond that. -/
theorem handleInbound_acts_only_on_authenticated (env : Env) (m : StunMessage) (Local : Candidate)
    (remote : NetAddr) :
    let r := a.handleInbound env m Local remote
    (∀ now, let a' := a.handleInboundTask env m Local remote now
      a'.localCandidates = r.agent.localCandidates ∧ a'.remoteCandidates = r.agent.remoteCandidates ∧
        a'.checklist = r.agent.checklist ∧
        a'.pendingBindingRequests = r.agent.pendingBindingRequests) ∧
    ((r.agent = a ∧ r.call = none) ∨
      (m.method = methodBinding ∧ a.roleConflict m = false ∧
        ((m.messageClass = .request ∧ m.usernameOk (a.localUfrag ++ ":" ++ a.remoteUfrag) = true ∧
            m.integrityOk a.localPwd = true ∧
            (r.agent = a ∨ ∃ ip port n, parseAddr remote = some (ip, port, n) ∧
              (∀ rc ∈ a.remoteCandidates Local.networkType, ¬ (rc.address = ip.text ∧ rc.port = port)) ∧
              r.agent = a.addRemoteCandidate env (newCandidatePeerReflexive ip port n Local.component))) ∨
          (m.messageClass = .successResponse ∧ m.integrityOk a.remotePwd = true ∧
            (∃ rc ∈ a.remoteCandidates Local.networkType,
              a.findRemoteCandidate Local.networkType remote = some rc) ∧
            r.agent = a)))) := by
  refine ⟨handleInboundTask_keeps a env m Local remote, ?_⟩
  unfold handleInbound
  dsimp only
  split
  · exact .inl ⟨rfl, rfl⟩
  rename_i hhandled
  have hm : m.method = methodBinding := by simp_all [isHandledType]
  split
  · exact .inl ⟨rfl, rfl⟩
  rename_i hrole
  replace hrole : a.roleConflict m = false := by simpa using hrole
  split
  case h_1 hclass =>
    split
    · exact .inl ⟨rfl, rfl⟩
    rename_i hint
    split
    · exact .inl ⟨rfl, rfl⟩
    case h_2 rc hrc =>
      exact .inr ⟨hm, hrole, .inr ⟨hclass, by simpa using hint, ⟨rc, findRemoteCandidate_mem a hrc, hrc⟩, rfl⟩⟩
  case h_2 hclass =>
    split
    · exact .inl ⟨rfl, rfl⟩
    rename_i huser
    split
    · exact .inl ⟨rfl, rfl⟩
    rename_i hint
    refine .inr ⟨hm, hrole, .inl ⟨hclass, by simpa using huser, by simpa using hint, ?_⟩⟩
    split
    · exact .inl rfl
    case h_2 hfind =>
      split
      · exact .inl rfl
      case h_2 ip port n hp =>
        exact .inr ⟨ip, port, n, hp, findRemoteCandidate_eq_none a hp hfind, rfl⟩
  case h_3 => exact .inl ⟨rfl, rfl⟩

end IceAgent.Analysis
