import IceAgent.Model.Api
import IceAgent.Analysis.NewAgent

/-!
# Runs driven through the exported methods

Every task of such a run is a task of the loop (`ApiTask.loopTask`), and `NewAgent`
returns a state the loop's runs reach. So a run through the exported methods reaches
only states the loop's runs reach (`ApiReachable.reachable`), and every invariant of
those holds of it.

The checks of the methods add invariants of their own. What one task can do to the
credentials and the remote candidates is said once (`apiTask_effect`), and both follow
from it. The remote side (`RemoteSideOk`):
`SetRemoteCredentials` and `startConnectivityChecks` refuse an empty ufrag or password,
and `Restart` clears both, so the remote credentials are both set or both unset.
`AddRemoteCandidate` ignores an active ICE-TCP candidate (`resolveAndAddMulticastCandidate`
keeps the TCP type of the `.local` host candidate it resolves), the peer-reflexive candidates
`handleInbound` learns have no TCP type, and the active candidates the agent synthesizes
for a passive remote are local. So no remote candidate, and no remote of a pair on the
checklist, is an active one: the agent never checks a pair towards a remote that does
not listen. The local side (`LocalCredentialsOk`): `NewAgent` and `Restart` install only
a ufrag of at least 3 runes and a password of at least 16, and no other task touches
them.

Adding a candidate that is filed already, or reporting the gathering state the agent is
in, changes nothing but closing the duplicate (`repeated_calls_change_nothing`).
-/

set_option autoImplicit false

namespace IceAgent.Analysis

open Agent

/-! ## The checks -/

/-- `SetRemoteCredentials` succeeds exactly on two non-empty strings, and then sets them. -/
theorem SetRemoteCredentials_eq_ok (a a' : Agent) (remoteUfrag remotePwd : String) :
    a.SetRemoteCredentials remoteUfrag remotePwd = .ok a' ↔
      remoteUfrag ≠ "" ∧ remotePwd ≠ "" ∧ a.setRemoteCredentials remoteUfrag remotePwd = a' := by
  unfold SetRemoteCredentials checkRemoteCredentials
  by_cases hu : remoteUfrag = "" <;> by_cases hp : remotePwd = "" <;> simp [hu, hp]

/-- The credential check passes exactly on two non-empty strings. -/
theorem checkRemoteCredentials_eq_none {remoteUfrag remotePwd : String} :
    checkRemoteCredentials remoteUfrag remotePwd = none ↔ remoteUfrag ≠ "" ∧ remotePwd ≠ "" := by
  unfold checkRemoteCredentials
  split_ifs <;> simp_all

/-- `AddRemoteCandidate` starts the `addRemoteCandidate` task for a candidate that is not
an active ICE-TCP candidate nor a host candidate named in `.local`. -/
theorem AddRemoteCandidate_eq_addRemoteCandidate {mDNSMode : MulticastDNSMode} {c : Candidate}
    {isCandidateHost : Bool}
    (h : AddRemoteCandidate mDNSMode (some c) isCandidateHost = .ok .addRemoteCandidate) :
    c.tcpType ≠ .active ∧ ¬ (c.candidateType = .host ∧ hasSuffix c.address ".local" = true) := by
  unfold AddRemoteCandidate at h
  dsimp only at h
  by_cases h₁ : c.tcpType = .active
  · simp [h₁] at h
  by_cases h₂ : c.candidateType = .host ∧ hasSuffix c.address ".local" = true
  · rw [if_neg h₁, if_pos h₂] at h
    split_ifs at h <;> simp at h
  · exact ⟨h₁, h₂⟩

/-- `AddRemoteCandidate` hands to `resolveAndAddMulticastCandidate` only a host candidate
named in `.local` that is not an active ICE-TCP candidate, with mDNS enabled. -/
theorem AddRemoteCandidate_eq_resolve {mDNSMode : MulticastDNSMode} {c : Candidate}
    {isCandidateHost : Bool}
    (h : AddRemoteCandidate mDNSMode (some c) isCandidateHost = .ok .resolveAndAddMulticastCandidate) :
    c.tcpType ≠ .active ∧ c.candidateType = .host ∧ hasSuffix c.address ".local" = true ∧
      mDNSMode ≠ .disabled ∧ isCandidateHost = true := by
  unfold AddRemoteCandidate at h
  dsimp only at h
  split_ifs at h with h₁ h₂ h₃ h₄ <;> try cases h
  exact ⟨h₁, h₂.1, h₂.2, h₃, by simpa using h₄⟩

/-- The resolved candidate keeps the TCP type of the one `AddRemoteCandidate` was given. -/
theorem resolveAndAddMulticastCandidate_tcpType {answer : Option NetworkType} {c c' : Candidate}
    (h : resolveAndAddMulticastCandidate answer c = some c') : c'.tcpType = c.tcpType := by
  obtain ⟨n, -, rfl⟩ := Option.map_eq_some'.mp h
  rfl

/-! ## Every step is a loop task -/

/-- Every task of a run through the exported methods is a task of the loop. -/
theorem ApiTask.loopTask {T : Duration} {a a' : Agent} (h : ApiTask T a a') : LoopTask T a a' := by
  cases h with
  | addCandidate c => exact .addCandidate a c
  | addRemoteCandidate env c _ _ _ => exact .addRemoteCandidate a env c
  | resolveAndAddMulticastCandidate env c c' _ _ _ _ _ => exact .addRemoteCandidate a env c'
  | handleInbound env m Local remote now => exact .handleInbound a env m Local remote now
  | setRemoteCredentials a' u p h =>
    obtain ⟨-, -, rfl⟩ := (SetRemoteCredentials_eq_ok a a' u p).mp h
    exact .setRemoteCredentials a u p
  | startConnectivityChecks isControlling u p h _ => exact .startConnectivityChecks a isControlling u p h
  | restart a' gu gp u p h =>
    rcases Restart_cases a gu gp u p with ⟨e, he⟩ | ⟨u', p', he⟩ <;> rw [he] at h
    · cases h
    · obtain ⟨rfl, -⟩ := Prod.mk.inj h
      exact .restart a u' p'
  | contact cl now₁ now₂ => exact .contact a cl now₁ now₂
  | validateSelectedPair now => exact .validateSelectedPair a now
  | setSelectedPair i h hi => exact .setSelectedPair a i h hi
  | setPairState i st h => exact .setPairState a i st h
  | sendBindingRequest now m Local Remote h => exact .sendBindingRequest a now m Local Remote h
  | handleInboundBindingSuccess now id h => exact .handleInboundBindingSuccess a now id h

/-- An agent `NewAgent` returns is reachable. -/
theorem NewAgent_reachable {T : Duration} {config : NewAgentConfig} {os : Startup} {a : Agent}
    (h : NewAgent config os = .ok a) : Reachable T a := by
  obtain ⟨-, -, -, -, -, -, hr⟩ := (NewAgent_eq_ok config os a).mp h
  have hreach := Restart_reachable (newAgent config.agent) os.generateUFrag os.generatePwd
    config.localUfrag config.localPwd (Reachable.init config.agent : Reachable T _)
  rwa [hr] at hreach

/-- Every agent reachable through the exported methods is reachable by the task loop. -/
theorem ApiReachable.reachable {T : Duration} {a : Agent} (h : ApiReachable T a) : Reachable T a := by
  induction h with
  | init config os h => exact NewAgent_reachable h
  | step _ ht ih => exact .step ih (ApiTask.loopTask ht)

/-! ## What one task does to the credentials and the remote candidates -/

/-- `b` has the local and the remote credentials of `a`. -/
structure SameCredentials (a b : Agent) : Prop where
  localUfrag : b.localUfrag = a.localUfrag
  localPwd : b.localPwd = a.localPwd
  remoteUfrag : b.remoteUfrag = a.remoteUfrag
  remotePwd : b.remotePwd = a.remotePwd

section agent

variable (a : Agent)

/-- `handleInbound` changes the state only by adding a peer-reflexive remote candidate. -/
theorem handleInbound_agent_prflx (env : Env) (m : StunMessage) (Local : Candidate)
    (remote : NetAddr) :
    (a.handleInbound env m Local remote).agent = a ∨
      ∃ ip port n, (a.handleInbound env m Local remote).agent =
        a.addRemoteCandidate env (newCandidatePeerReflexive ip port n Local.component) := by
  unfold handleInbound
  by_cases h₁ : (!isHandledType m) = true
  · rw [if_pos h₁]; exact .inl rfl
  by_cases h₂ : a.roleConflict m = true
  · rw [if_neg h₁, if_pos h₂]; exact .inl rfl
  rw [if_neg h₁, if_neg h₂]
  dsimp only
  repeat' split
  all_goals first | exact .inl rfl | exact .inr ⟨_, _, _, rfl⟩

/-- `addRemoteCandidate` keeps the credentials and files `c`, unless an `Equal` remote is
filed already. -/
theorem addRemoteCandidate_credentials (env : Env) (c : Candidate) :
    SameCredentials a (a.addRemoteCandidate env c) ∧
      ((a.addRemoteCandidate env c).remoteCandidates = a.remoteCandidates ∨
        (a.addRemoteCandidate env c).remoteCandidates =
          Function.update a.remoteCandidates c.networkType (a.remoteCandidates c.networkType ++ [c])) := by
  cases h : (a.remoteCandidates c.networkType).any (·.Equal c)
  · rw [addRemoteCandidate_of_new a env h]
    dsimp only
    split
    · rw [addRemotePassiveTCPCandidate_eq]
      exact ⟨⟨rfl, rfl, rfl, rfl⟩, .inr rfl⟩
    · exact ⟨⟨rfl, rfl, rfl, rfl⟩, .inr rfl⟩
  · rw [addRemoteCandidate_of_dup a env h]
    exact ⟨⟨rfl, rfl, rfl, rfl⟩, .inl rfl⟩

/-- `addCandidate` keeps the credentials and the remote candidates. -/
theorem addCandidate_credentials (c : Candidate) :
    SameCredentials a (a.addCandidate c) ∧ (a.addCandidate c).remoteCandidates = a.remoteCandidates := by
  cases h : (a.localCandidates c.networkType).any (·.Equal c)
  · rw [addCandidate_of_new a h]
    exact ⟨⟨rfl, rfl, rfl, rfl⟩, rfl⟩
  · rw [addCandidate_of_dup a h]
    exact ⟨⟨rfl, rfl, rfl, rfl⟩, rfl⟩

/-- `updateConnectionState` keeps the credentials. -/
theorem updateConnectionState_credentials (s : ConnectionState) :
    SameCredentials a (a.updateConnectionState s) := by
  unfold updateConnectionState
  split_ifs <;> exact ⟨rfl, rfl, rfl, rfl⟩

end agent

/-- What one task of a run through the exported methods can do to the credentials and
the remote candidates. It files no active ICE-TCP remote. It keeps the local
credentials and either keeps the remote ones or sets both to non-empty strings, unless
it installs local credentials of at least 3 and 16 runes and clears the remote ones. -/
structure ApiEffect (a a' : Agent) : Prop where
  remotes : ∀ n, ∀ c ∈ a'.remoteCandidates n, c ∈ a.remoteCandidates n ∨ c.tcpType ≠ .active
  credentials :
    (a'.localUfrag = a.localUfrag ∧ a'.localPwd = a.localPwd ∧
      ((a'.remoteUfrag = a.remoteUfrag ∧ a'.remotePwd = a.remotePwd) ∨
        (a'.remoteUfrag ≠ "" ∧ a'.remotePwd ≠ ""))) ∨
    (3 ≤ a'.localUfrag.length ∧ 16 ≤ a'.localPwd.length ∧ a'.remoteUfrag = "" ∧ a'.remotePwd = "")

namespace ApiEffect

variable {a b : Agent}

/-- A task that keeps the credentials and files no new remote has an `ApiEffect`. -/
theorem of_same (hs : SameCredentials a b)
    (hr : ∀ n, ∀ c ∈ b.remoteCandidates n, c ∈ a.remoteCandidates n) : ApiEffect a b :=
  ⟨fun n c hc => .inl (hr n c hc), .inl ⟨hs.localUfrag, hs.localPwd, .inl ⟨hs.remoteUfrag, hs.remotePwd⟩⟩⟩

/-- A task that keeps the credentials and the remote candidates has an `ApiEffect`. -/
theorem of_frame (hs : SameCredentials a b) (hr : b.remoteCandidates = a.remoteCandidates) :
    ApiEffect a b :=
  of_same hs fun _ _ hc => hr ▸ hc

/-- Doing nothing has an `ApiEffect`. -/
theorem refl (a : Agent) : ApiEffect a a := of_frame ⟨rfl, rfl, rfl, rfl⟩ rfl

/-- Marking a remote seen adds nothing to an `ApiEffect`. -/
theorem seen (h : ApiEffect a b) (c : Candidate) (now : Int) : ApiEffect a (b.seen c now) :=
  ⟨h.remotes, h.credentials⟩

/-- A state change has an `ApiEffect`. -/
theorem updateConnectionState (a : Agent) (s : ConnectionState) :
    ApiEffect a (a.updateConnectionState s) := by
  have hs := updateConnectionState_credentials a s
  rcases updateConnectionState_candidates a s with hc | hc
  · exact of_frame hs hc.remoteCandidates
  · exact of_same hs fun n _ hr => by simp [hc.remoteCandidates n] at hr

/-- Filing a remote that is not an active ICE-TCP candidate has an `ApiEffect`. -/
theorem addRemoteCandidate (a : Agent) (env : Env) {c : Candidate} (hc : c.tcpType ≠ .active) :
    ApiEffect a (a.addRemoteCandidate env c) := by
  obtain ⟨hs, hr | hr⟩ := addRemoteCandidate_credentials a env c
  · exact of_frame hs hr
  · refine ⟨fun n r hrn => ?_, .inl ⟨hs.localUfrag, hs.localPwd, .inl ⟨hs.remoteUfrag, hs.remotePwd⟩⟩⟩
    rw [hr] at hrn
    rcases mem_update_append.mp hrn with hrn | ⟨-, hrc⟩
    · exact .inl hrn
    · exact .inr (List.mem_singleton.mp hrc ▸ hc)

/-- A restart with credentials of at least 3 and 16 runes has an `ApiEffect`. -/
theorem restart (a : Agent) {u p : String} (hu : 3 ≤ u.length) (hp : 16 ≤ p.length) :
    ApiEffect a (a.restart u p) := by
  rw [restart_eq]
  exact ⟨fun _ _ => nofun, .inr ⟨hu, hp, rfl, rfl⟩⟩

end ApiEffect

/-- `Restart` succeeds exactly by running its task with credentials of at least 3 and 16
runes. -/
theorem Restart_eq_restart {a a' : Agent} {generateUFrag generatePwd : Option String}
    {ufrag pwd : String} (h : a.Restart generateUFrag generatePwd ufrag pwd = (a', none)) :
    ∃ u p, 3 ≤ u.length ∧ 16 ≤ p.length ∧ a' = a.restart u p := by
  obtain ⟨u, p, -, -, hu, hp, rfl⟩ := (Restart_eq_none_iff _ _ _ _ _ _).mp h
  exact ⟨u, p, hu, hp, rfl⟩

/-- What each task of a run through the exported methods does. -/
theorem apiTask_effect {T : Duration} {a a' : Agent} (ht : ApiTask T a a') : ApiEffect a a' := by
  cases ht with
  | addCandidate c =>
    obtain ⟨hs, hr⟩ := addCandidate_credentials a c
    exact .of_frame hs hr
  | addRemoteCandidate env c _ _ hc =>
    exact .addRemoteCandidate a env (AddRemoteCandidate_eq_addRemoteCandidate hc).1
  | resolveAndAddMulticastCandidate env c c' _ _ _ h hc =>
    exact .addRemoteCandidate a env
      (resolveAndAddMulticastCandidate_tcpType hc ▸ (AddRemoteCandidate_eq_resolve h).1)
  | handleInbound env m Local remote now =>
    have hin : ApiEffect a (a.handleInbound env m Local remote).agent := by
      rcases handleInbound_agent_prflx a env m Local remote with he | ⟨ip, port, n, he⟩ <;> rw [he]
      · exact .refl a
      · exact .addRemoteCandidate a env nofun
    rcases handleInboundTask_eq a env m Local remote now with he | ⟨c, he⟩ <;> rw [he]
    · exact hin
    · exact hin.seen c now
  | setRemoteCredentials a' u p hc =>
    obtain ⟨hu, hp, rfl⟩ := (SetRemoteCredentials_eq_ok a a' u p).mp hc
    exact ⟨fun _ _ => .inl, .inl ⟨rfl, rfl, .inr ⟨hu, hp⟩⟩⟩
  | startConnectivityChecks isControlling u p _ hc =>
    obtain ⟨hu, hp⟩ := checkRemoteCredentials_eq_none.mp hc
    simp only [startConnectivityChecks,
      updateConnectionState_of_ne_failed _ (show ConnectionState.checking ≠ .failed by decide)]
    split <;> exact ⟨fun _ _ => .inl, .inl ⟨rfl, rfl, .inr ⟨hu, hp⟩⟩⟩
  | restart a' gu gp u p hr =>
    obtain ⟨u', p', hu, hp, rfl⟩ := Restart_eq_restart hr
    exact .restart a hu hp
  | contact cl now₁ now₂ =>
    rcases contact_agent id a cl now₁ now₂ with he | he | he <;> rw [he]
    · exact .refl a
    · exact .refl a
    · exact .updateConnectionState a .failed
  | validateSelectedPair now =>
    rcases validateSelectedPair_agent a now with he | ⟨s, -, he⟩ <;> rw [he]
    · exact .refl a
    · exact .updateConnectionState a s
  | setSelectedPair i _ _ =>
    have hs : SameCredentials a (a.setSelectedPair (some i)) := by
      simp only [setSelectedPair,
        updateConnectionState_of_ne_failed _ (show ConnectionState.connected ≠ .failed by decide)]
      split <;> exact ⟨rfl, rfl, rfl, rfl⟩
    exact .of_frame hs (setSelectedPair_candidates a (some i)).remoteCandidates
  | setPairState i st _ => exact .of_frame ⟨rfl, rfl, rfl, rfl⟩ rfl
  | sendBindingRequest now m Local Remote _ => exact .of_frame ⟨rfl, rfl, rfl, rfl⟩ rfl
  | handleInboundBindingSuccess now id _ => exact .of_frame ⟨rfl, rfl, rfl, rfl⟩ rfl

/-- `NewAgent` returns what `restart` leaves on the initial state, with credentials of at
least 3 and 16 runes. -/
theorem NewAgent_restart {config : NewAgentConfig} {os : Startup} {a : Agent}
    (h : NewAgent config os = .ok a) :
    ∃ u p, 3 ≤ u.length ∧ 16 ≤ p.length ∧ a = (newAgent config.agent).restart u p := by
  obtain ⟨-, -, -, -, -, -, hr⟩ := (NewAgent_eq_ok config os a).mp h
  exact Restart_eq_restart hr

/-! ## The invariants of the exported methods -/

/-- The remote side as the exported methods let it be: both remote credentials set or
both unset, and no remote candidate an active ICE-TCP candidate. -/
structure RemoteSideOk (a : Agent) : Prop where
  credentials : a.remoteUfrag = "" ↔ a.remotePwd = ""
  noActive : ∀ n, ∀ c ∈ a.remoteCandidates n, c.tcpType ≠ .active

/-- The local credentials as `Restart` lets them be: a ufrag of at least 3 runes and a
password of at least 16, the 24 and 128 bits it asks for. -/
structure LocalCredentialsOk (a : Agent) : Prop where
  ufrag : 3 ≤ a.localUfrag.length
  pwd : 16 ≤ a.localPwd.length

/-- A task with the effect `ApiEffect` keeps `RemoteSideOk`. -/
theorem RemoteSideOk.step {a a' : Agent} (h : RemoteSideOk a) (he : ApiEffect a a') : RemoteSideOk a' := by
  refine ⟨?_, fun n c hc => (he.remotes n c hc).elim (h.noActive n c) id⟩
  rcases he.credentials with ⟨-, -, ⟨hu, hp⟩ | ⟨hu, hp⟩⟩ | ⟨-, -, hu, hp⟩
  · rw [hu, hp]
    exact h.credentials
  · exact iff_of_false hu hp
  · exact iff_of_true hu hp

/-- A task with the effect `ApiEffect` keeps `LocalCredentialsOk`. -/
theorem LocalCredentialsOk.step {a a' : Agent} (h : LocalCredentialsOk a) (he : ApiEffect a a') :
    LocalCredentialsOk a' := by
  rcases he.credentials with ⟨hu, hp, -⟩ | ⟨hu, hp, -⟩
  · exact ⟨hu ▸ h.ufrag, hp ▸ h.pwd⟩
  · exact ⟨hu, hp⟩

/-- Both invariants hold of what `NewAgent` returns, and every task keeps them. -/
theorem apiInvariants {T : Duration} {a : Agent} (h : ApiReachable T a) :
    RemoteSideOk a ∧ LocalCredentialsOk a := by
  induction h with
  | init config os ha =>
    obtain ⟨u, p, hu, hp, rfl⟩ := NewAgent_restart ha
    rw [restart_eq]
    exact ⟨⟨Iff.rfl, fun _ _ => nofun⟩, ⟨hu, hp⟩⟩
  | step _ ht ih => exact ⟨ih.1.step (apiTask_effect ht), ih.2.step (apiTask_effect ht)⟩

/-- For every state a run through the exported methods reaches, under any interleaving
of the methods' tasks with the agent's own: the state is one the loop's runs reach, so
every invariant of those holds of it; the remote ufrag and password are both set or
both unset; and no remote candidate, and no remote of a pair on the checklist, is an
active ICE-TCP candidate, so no check is ever sent towards a remote that does not
listen. -/
theorem exported_methods_keep_remote_side {T : Duration} {a : Agent} (h : ApiReachable T a) :
    Reachable T a ∧ (a.remoteUfrag = "" ↔ a.remotePwd = "") ∧
      (∀ n, ∀ c ∈ a.remoteCandidates n, c.tcpType ≠ .active) ∧
      ∀ p ∈ a.checklist, p.Remote.tcpType ≠ .active := by
  have hok := (apiInvariants h).1
  have hreach := ApiReachable.reachable h
  exact ⟨hreach, hok.credentials, hok.noActive,
    fun p hp => hok.noActive _ _ ((pairsBacked_reachable hreach).backed p hp).2⟩

/-- A configuration `NewAgent` accepts, with given credentials. -/
def apiConfig : NewAgentConfig where
  portMin := 0
  portMax := 0
  multicastDNSHostName := "pion.local"
  candidateTypes := [.host]
  urls := []
  localUfrag := "ufA"
  localPwd := "0123456789abcdef"
  agent := udpConfig

/-- Collaborators that succeed and generate nothing. -/
def apiStartup : Startup := ⟨none, true, true, none, none⟩

/-- `NewAgent`'s agent, told the remote credentials and given a remote host candidate
through the exported methods. -/
def apiRun : Agent :=
  (((newAgent udpConfig).restart "ufA" "0123456789abcdef").setRemoteCredentials "ufB"
    "pwB0123456789abc").addRemoteCandidate noEnv (hostCandidate .udp4 .unspecified "10.0.0.2" 5000)

/-- `apiRun` is reached through the exported methods, for every binding timeout. -/
theorem apiRun_apiReachable (T : Duration) : ApiReachable T apiRun := by
  have hnew : NewAgent apiConfig apiStartup = .ok ((newAgent udpConfig).restart "ufA" "0123456789abcdef") :=
    (NewAgent_eq_ok _ _ _).mpr ⟨by decide, ⟨"pion.local", rfl,
      by simp only [validMulticastDNSHostName, hasSuffix, split_length]; decide⟩,
      rfl, by decide, by decide, rfl, rfl⟩
  exact .step (.step (.init _ _ hnew) (.setRemoteCredentials _ _ "ufB" "pwB0123456789abc" rfl))
    (.addRemoteCandidate _ noEnv _ .queryOnly true rfl)

/-- The run through the exported methods holds both remote credentials and a remote
host candidate. -/
theorem exported_methods_keep_remote_side_apiRun :
    ApiReachable (Duration.ofNat 4000000000) apiRun ∧
    apiRun.remoteUfrag = "ufB" ∧ apiRun.remoteCandidates .udp4 = [hostCandidate .udp4 .unspecified "10.0.0.2" 5000] ∧
    (Reachable (Duration.ofNat 4000000000) apiRun ∧ (apiRun.remoteUfrag = "" ↔ apiRun.remotePwd = "") ∧
      (∀ n, ∀ c ∈ apiRun.remoteCandidates n, c.tcpType ≠ .active) ∧
      ∀ p ∈ apiRun.checklist, p.Remote.tcpType ≠ .active) :=
  ⟨apiRun_apiReachable _, rfl, by decide,
    exported_methods_keep_remote_side (apiRun_apiReachable (Duration.ofNat 4000000000))⟩

/-- For every state a run through the exported methods reaches, under any interleaving
of the methods' tasks with the agent's own, the local ufrag has at least 3 runes and the
local password at least 16, the 24 and 128 bits `Restart` asks for, whether they were
configured, generated, or given to a later `Restart`: no task installs weaker local
credentials, so every check the agent answers or sends is signed with such a password. -/
theorem exported_methods_keep_local_credentials {T : Duration} {a : Agent} (h : ApiReachable T a) :
    3 ≤ a.localUfrag.length ∧ 16 ≤ a.localPwd.length :=
  ⟨(apiInvariants h).2.ufrag, (apiInvariants h).2.pwd⟩

/-- The run through the exported methods keeps the credentials `NewAgent` was given. -/
theorem exported_methods_keep_local_credentials_apiRun :
    ApiReachable (Duration.ofNat 4000000000) apiRun ∧
    apiRun.localUfrag = "ufA" ∧ apiRun.localPwd = "0123456789abcdef" ∧
    (3 ≤ apiRun.localUfrag.length ∧ 16 ≤ apiRun.localPwd.length) :=
  ⟨apiRun_apiReachable _, rfl, rfl,
    exported_methods_keep_local_credentials (apiRun_apiReachable (Duration.ofNat 4000000000))⟩

/-! ## Repeated calls -/

/-- For every agent: adding a remote candidate a second time changes nothing, in any
environment, so `AddRemoteCandidate(c)` twice leaves the state one call leaves; adding a
local candidate a second time only closes the duplicate; and reporting a gathering state
a second time changes nothing, so the candidate handler is told once that gathering is
complete. -/
theorem repeated_calls_change_nothing (a : Agent) (env env' : Env) (c : Candidate)
    (s : GatheringState) :
    (a.addRemoteCandidate env c).addRemoteCandidate env' c = a.addRemoteCandidate env c ∧
    (a.addCandidate c).addCandidate c =
      { a.addCandidate c with closedCandidates := (a.addCandidate c).closedCandidates ++ [c] } ∧
    (a.setGatheringState s).setGatheringState s = a.setGatheringState s := by
  have hremote : ((a.addRemoteCandidate env c).remoteCandidates c.networkType).any (·.Equal c) := by
    cases h : (a.remoteCandidates c.networkType).any (·.Equal c)
    · rw [addRemoteCandidate_of_new a env h]
      simp
    · rwa [addRemoteCandidate_of_dup a env h]
  have hlocal : ((a.addCandidate c).localCandidates c.networkType).any (·.Equal c) := by
    cases h : (a.localCandidates c.networkType).any (·.Equal c)
    · rw [addCandidate_of_new a h]
      simp
    · rwa [addCandidate_of_dup a h]
  refine ⟨addRemoteCandidate_of_dup _ env' hremote, addCandidate_of_dup _ hlocal, ?_⟩
  simp only [setGatheringState, ne_eq, not_true_eq_false, false_and, if_false]

end IceAgent.Analysis
