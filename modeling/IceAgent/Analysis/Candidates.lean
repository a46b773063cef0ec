import Mathlib.Logic.Relation
import IceAgent.Analysis.Frame

/-!
# The candidate maps back the checklist

A pair is made only from candidates the agent holds: `addCandidate` pairs the new
local with the remotes already filed under its network type, `addRemoteCandidate`
pairs the new remote with the locals of its type, and the synthesis of active
ICE-TCP candidates for a passive remote (agent.go:734-773) files each new local under
the remote's type before pairing it with the remote, which is filed once the
synthesis is done. The Failed transition and `Restart` delete the pairs with the
candidates.

So in every state the loop reaches, every candidate is filed under its own network
type (`CandidatesKeyed`) and every pair of the checklist has its local and its remote
candidate filed (`PairsBacked`). Conversely, every local that is not an active ICE-TCP
candidate is paired with every remote of its type that is not passive
(`PairsComplete`). `LoopTask.candidates` reduces the step to the two
candidate tasks; the rest of this file is those two cases.

The shutdown step deletes the candidates and keeps the checklist, so the invariant
is one of the running loop.

A candidate leaves the maps only through `deleteAllCandidates`, which closes it, and a
duplicate local is closed as it is turned away: over every run, a candidate the agent
holds or has closed stays held or closed, and the shutdown closes it
(`candidates_closed_never_dropped`).
-/

set_option autoImplicit false

namespace IceAgent.Analysis

open Agent

/-- Every candidate is filed under its own network type. -/
structure CandidatesKeyed (a : Agent) : Prop where
  localCandidates : ∀ n, ∀ c ∈ a.localCandidates n, c.networkType = n
  remoteCandidates : ∀ n, ∀ c ∈ a.remoteCandidates n, c.networkType = n

/-- Every pair of the checklist has its local and its remote candidate filed under
their network types. -/
structure PairsBacked (a : Agent) extends CandidatesKeyed a : Prop where
  backed : ∀ p ∈ a.checklist, p.Local ∈ a.localCandidates p.Local.networkType ∧
    p.Remote ∈ a.remoteCandidates p.Remote.networkType

namespace PairsBacked

variable {a b : Agent}

/-- An agent with no candidates and an empty checklist has every pair backed. -/
theorem of_cleared (h : Cleared a) : PairsBacked a :=
  ⟨⟨fun n c hc => by simp [h.localCandidates n] at hc,
      fun n c hc => by simp [h.remoteCandidates n] at hc⟩,
    fun p hp => by simp [h.checklist] at hp⟩

/-- The invariant reads only the candidate maps and the endpoints of the pairs. -/
theorem of_same (h : PairsBacked a) (hs : SameCandidates a b) : PairsBacked b := by
  refine ⟨⟨fun n c hc => h.localCandidates n c (hs.localCandidates ▸ hc),
    fun n c hc => h.remoteCandidates n c (hs.remoteCandidates ▸ hc)⟩, fun p hp => ?_⟩
  have hmem : p.endpoints ∈ a.checklist.map CandidatePair.endpoints :=
    hs.endpoints ▸ List.mem_map_of_mem _ hp
  obtain ⟨q, hq, hqp⟩ := List.mem_map.mp hmem
  obtain ⟨hl, hr⟩ := Prod.mk.inj hqp
  rw [hs.localCandidates, hs.remoteCandidates, ← hl, ← hr]
  exact h.backed q hq

/-- A new local candidate is filed under its type and paired with the remotes of
that type, which are filed under it. -/
theorem addCandidate (h : PairsBacked a) (c : Candidate) : PairsBacked (a.addCandidate c) := by
  cases hdup : (a.localCandidates c.networkType).any (·.Equal c)
  case true =>
    rw [addCandidate_of_dup a hdup]
    exact ⟨⟨h.localCandidates, h.remoteCandidates⟩, h.backed⟩
  case false =>
  rw [addCandidate_of_new a hdup]
  refine ⟨⟨fun n l hl => ?_, h.remoteCandidates⟩, fun p hp => ?_⟩
  · rcases mem_update_append.mp hl with hl | ⟨rfl, hc⟩
    · exact h.localCandidates n l hl
    · rw [List.mem_singleton.mp hc]
  · dsimp only at hp ⊢
    rcases List.mem_append.mp hp with hp | hp
    · obtain ⟨hl, hr⟩ := h.backed p hp
      exact ⟨mem_update_append.mpr (.inl hl), hr⟩
    · obtain ⟨r, hr, rfl⟩ := List.mem_map.mp hp
      refine ⟨mem_update_append.mpr (.inr ⟨rfl, List.mem_singleton_self c⟩), ?_⟩
      show r ∈ a.remoteCandidates r.networkType
      rwa [h.remoteCandidates _ r hr]

/-- The synthesis for a passive remote `c` files every new local under its type
and backs every pair by its local and by a filed remote or by `c`. -/
theorem addRemotePassiveTCPCandidate (h : PairsBacked a) (env : Env) (c : Candidate) :
    let b := a.addRemotePassiveTCPCandidate env c
    b.remoteCandidates = a.remoteCandidates ∧ (∀ n, ∀ l ∈ b.localCandidates n, l.networkType = n) ∧
      ∀ p ∈ b.checklist, p.Local ∈ b.localCandidates p.Local.networkType ∧
        (p.Remote ∈ a.remoteCandidates p.Remote.networkType ∨ p.Remote = c) := by
  rw [addRemotePassiveTCPCandidate_eq]
  refine ⟨rfl, fun n l hl => ?_, fun p hp => ?_⟩
  · rcases mem_update_append.mp hl with hl | ⟨rfl, hs⟩
    · exact h.localCandidates n l hl
    · exact networkType_of_mem_synthesized hs
  · rcases List.mem_append.mp hp with hp | hp
    · obtain ⟨hl, hr⟩ := h.backed p hp
      exact ⟨mem_update_append.mpr (.inl hl), .inl hr⟩
    · obtain ⟨l, hl, rfl⟩ := List.mem_map.mp hp
      refine ⟨mem_update_append.mpr (.inr ⟨?_, hl⟩), .inr rfl⟩
      exact networkType_of_mem_synthesized hl

/-- A new remote candidate is filed under its type, after the synthesized locals,
and paired with the locals of that type. -/
theorem addRemoteCandidate (h : PairsBacked a) (env : Env) (c : Candidate) :
    PairsBacked (a.addRemoteCandidate env c) := by
  cases hdup : (a.remoteCandidates c.networkType).any (·.Equal c)
  case true => rwa [addRemoteCandidate_of_dup a env hdup]
  case false =>
  rw [addRemoteCandidate_of_new a env hdup]
  generalize hb : (if a.synthesizes c then a.addRemotePassiveTCPCandidate env c else a) = b
  obtain ⟨hrem, hkey, hback⟩ : b.remoteCandidates = a.remoteCandidates ∧
      (∀ n, ∀ l ∈ b.localCandidates n, l.networkType = n) ∧
      ∀ p ∈ b.checklist, p.Local ∈ b.localCandidates p.Local.networkType ∧
        (p.Remote ∈ a.remoteCandidates p.Remote.networkType ∨ p.Remote = c) := by
    subst hb
    split
    · exact h.addRemotePassiveTCPCandidate env c
    · exact ⟨rfl, h.localCandidates, fun p hp => ⟨(h.backed p hp).1, .inl (h.backed p hp).2⟩⟩
  have hc : c ∈ Function.update a.remoteCandidates c.networkType
      (a.remoteCandidates c.networkType ++ [c]) c.networkType :=
    mem_update_append.mpr (.inr ⟨rfl, List.mem_singleton_self c⟩)
  refine ⟨⟨hkey, fun n r hr => ?_⟩, fun p hp => ?_⟩
  · rcases mem_update_append.mp hr with hr | ⟨rfl, hc'⟩
    · exact h.remoteCandidates n r hr
    · rw [List.mem_singleton.mp hc']
  · rcases List.mem_append.mp hp with hp | hp
    · obtain ⟨hl, hr | hr⟩ := hback p hp
      · exact ⟨hl, mem_update_append.mpr (.inl hr)⟩
      · exact ⟨hl, hr ▸ hc⟩
    · split at hp
      · obtain ⟨l, hl, rfl⟩ := List.mem_map.mp hp
        exact ⟨show l ∈ b.localCandidates l.networkType by rwa [hkey _ l hl], hc⟩
      · simp at hp

end PairsBacked

/-- Every task keeps `PairsBacked`. -/
theorem pairsBacked_step {T : Duration} {a a' : Agent} (h : PairsBacked a) (ht : LoopTask T a a') :
    PairsBacked a' := by
  obtain ⟨b, hb, hs⟩ := ht.candidates
  refine PairsBacked.of_same ?_ hs
  rcases hb with rfl | ⟨c, rfl⟩ | ⟨env, c, rfl⟩ | hb
  · exact h
  · exact h.addCandidate c
  · exact h.addRemoteCandidate env c
  · exact .of_cleared hb

/-- Every reachable agent has every pair backed by its candidate maps. -/
theorem pairsBacked_reachable {T : Duration} {a : Agent} (h : Reachable T a) : PairsBacked a :=
  h.invariant (fun _ => .of_cleared ⟨fun _ => rfl, fun _ => rfl, rfl⟩) fun _ _ => pairsBacked_step

/-- In every state the running loop reaches, every pair of the checklist has its
local candidate in `localCandidates[local.NetworkType()]` and its remote candidate in
`remoteCandidates[remote.NetworkType()]`. -/
theorem checklist_pairs_in_candidate_maps {T : Duration} {a : Agent} (h : Reachable T a) :
    ∀ p ∈ a.checklist, p.Local ∈ a.localCandidates p.Local.networkType ∧
      p.Remote ∈ a.remoteCandidates p.Remote.networkType :=
  (pairsBacked_reachable h).backed

/-! ## Duplicate active candidates

`addRemotePassiveTCPCandidate` appends each synthesized local without the `Equal`
check `addCandidate` makes. Its port is the one the system hands out for the
connection, and a port handed out once can be handed out again. -/

/-- A host candidate. -/
def hostCandidate (n : NetworkType) (tcpType : TCPType) (address : String) (port : Nat) :
    Candidate where
  networkType := n
  candidateType := .host
  address := address
  port := port
  component := componentRTP
  tcpType := tcpType
  foundation := ""
  priority := 0

/-- The configuration the runs below start from: no timeouts, UDP only. -/
def udpConfig : AgentConfig where
  tieBreaker := 0
  lite := false
  maxBindingRequests := 7
  disableActiveTCP := true
  disconnectedTimeout := Duration.ofNat 0
  failedTimeout := Duration.ofNat 0
  keepaliveInterval := Duration.ofNat 0
  checkInterval := Duration.ofNat 0
  networkTypes := [.udp4]

/-- No interfaces and no active-TCP ports. -/
def noEnv : Env := ⟨fun _ => none, fun _ _ => none⟩

/-- One TCP interface, on which the system hands out port 50000 for every active
connection. -/
def samePortEnv : Env := ⟨fun _ => some [⟨"10.0.0.1", true⟩], fun _ _ => some 50000⟩

/-- ICE-TCP with active candidates. -/
def tcpConfig : AgentConfig where
  tieBreaker := 0
  lite := false
  maxBindingRequests := 7
  disableActiveTCP := false
  disconnectedTimeout := Duration.ofNat 5000000000
  failedTimeout := Duration.ofNat 25000000000
  keepaliveInterval := Duration.ofNat 2000000000
  checkInterval := Duration.ofNat 200000000
  networkTypes := [.tcp4]

/-- Two passive remotes, then an active one. -/
def samePortRun : Agent :=
  (((newAgent tcpConfig).addRemoteCandidate samePortEnv
    (hostCandidate .tcp4 .passive "10.0.0.2" 443)).addRemoteCandidate samePortEnv
    (hostCandidate .tcp4 .passive "10.0.0.3" 443)).addRemoteCandidate samePortEnv
    (hostCandidate .tcp4 .active "10.0.0.4" 9)

/-- `samePortRun` is reached by three `addRemoteCandidate` tasks. -/
theorem samePortRun_reachable (T : Duration) : Reachable T samePortRun :=
  .step (.step (.step (.init tcpConfig) (.addRemoteCandidate _ _ _)) (.addRemoteCandidate _ _ _))
    (.addRemoteCandidate _ _ _)

/-- In `samePortRun`, whose passive remotes share a port, every pair is backed by the
candidate maps. -/
theorem checklist_pairs_in_candidate_maps_samePortRun :
    Reachable (Duration.ofNat 4000000000) samePortRun ∧
      ∀ p ∈ samePortRun.checklist, p.Local ∈ samePortRun.localCandidates p.Local.networkType ∧
        p.Remote ∈ samePortRun.remoteCandidates p.Remote.networkType :=
  ⟨samePortRun_reachable _,
    checklist_pairs_in_candidate_maps (samePortRun_reachable (Duration.ofNat 4000000000))⟩

/-- No candidate list holds two `Equal` candidates, and the checklist holds no two
pairs with `Equal` locals and `Equal` remotes. -/
def NoDuplicates (a : Agent) : Prop :=
  (∀ n, (a.localCandidates n).Pairwise fun c d => c.Equal d = false) ∧
    (∀ n, (a.remoteCandidates n).Pairwise fun c d => c.Equal d = false) ∧
    a.checklist.Pairwise fun p q => ¬ (p.Local.Equal q.Local = true ∧ p.Remote.Equal q.Remote = true)

/-- The run files the two synthesized locals, which are `Equal`, under tcp4 and
pairs the active remote with both. -/
theorem samePortRun_duplicates :
    Reachable (Duration.ofNat 4000000000) samePortRun ∧
      ¬ (samePortRun.localCandidates .tcp4).Pairwise (fun c d => c.Equal d = false) ∧
      ¬ samePortRun.checklist.Pairwise
        (fun p q => ¬ (p.Local.Equal q.Local = true ∧ p.Remote.Equal q.Remote = true)) ∧
      ¬ NoDuplicates samePortRun :=
  ⟨samePortRun_reachable _, by decide, by decide, fun h => absurd (h.1 .tcp4) (by decide)⟩

/-! ## Every pair the checks need is on the checklist

`addCandidate` pairs the new local with every remote of its type, and
`addRemoteCandidate` pairs a new remote that is not passive with every local of its
type, so a local and a remote meet on the checklist whichever came first. Two kinds of
candidate fall outside this. `addRemoteCandidate` pairs a new passive remote only with
the active locals it synthesizes for it, not with the locals filed before it; a local
filed later is paired with it by `addCandidate`. And a synthesized active local is not
paired with the remotes filed before it; a non-passive remote filed later is paired with
it. The invariant says nothing of active locals and passive remotes. -/

/-- Every local candidate that is not an active ICE-TCP candidate is paired with every
remote of its type that is not a passive one. -/
def PairsComplete (a : Agent) : Prop :=
  ∀ n, ∀ l ∈ a.localCandidates n, ∀ r ∈ a.remoteCandidates n, l.tcpType ≠ .active →
    r.tcpType ≠ .passive → (l, r) ∈ a.checklist.map CandidatePair.endpoints

/-- The locals synthesized for a passive remote are active. -/
theorem tcpType_of_mem_synthesized {env : Env} {remoteCandidate c : Candidate}
    (h : c ∈ synthesizedCandidates env remoteCandidate) : c.tcpType = .active := by
  simp only [synthesizedCandidates] at h
  split at h
  · simp at h
  · obtain ⟨ip, -, hc⟩ := List.mem_filterMap.mp h
    obtain ⟨port, -, rfl⟩ := Option.map_eq_some'.mp hc
    rfl

namespace PairsComplete

variable {a b : Agent}

/-- An agent with no candidates has every pair it needs. -/
theorem of_cleared (h : Cleared a) : PairsComplete a := fun n l hl => by
  simp [h.localCandidates n] at hl

/-- The invariant reads only the candidate maps and the endpoints of the pairs. -/
theorem of_same (h : PairsComplete a) (hs : SameCandidates a b) : PairsComplete b := by
  intro n l hl r hr
  rw [hs.endpoints]
  exact h n l (hs.localCandidates ▸ hl) r (hs.remoteCandidates ▸ hr)

/-- A new local is paired with every remote of its type. -/
theorem addCandidate (h : PairsComplete a) (c : Candidate) : PairsComplete (a.addCandidate c) := by
  cases hdup : (a.localCandidates c.networkType).any (·.Equal c)
  case true => rwa [addCandidate_of_dup a hdup]
  case false =>
  rw [addCandidate_of_new a hdup]
  intro n l hl r hr hla hrp
  rw [List.map_append, List.mem_append]
  rcases mem_update_append.mp hl with hl | ⟨rfl, hc⟩
  · exact .inl (h n l hl r hr hla hrp)
  · rw [List.mem_singleton.mp hc]
    exact .inr (List.mem_map.mpr ⟨_, List.mem_map_of_mem _ hr, rfl⟩)

/-- A new remote that is not passive is paired with every local of its type; the
locals synthesized for a passive one are active. -/
theorem addRemoteCandidate (h : PairsComplete a) (env : Env) (c : Candidate) :
    PairsComplete (a.addRemoteCandidate env c) := by
  cases hdup : (a.remoteCandidates c.networkType).any (·.Equal c)
  case true => rwa [addRemoteCandidate_of_dup a env hdup]
  case false =>
  rw [addRemoteCandidate_of_new a env hdup]
  generalize hb : (if a.synthesizes c then a.addRemotePassiveTCPCandidate env c else a) = b
  obtain ⟨hloc, hlist⟩ : (∀ n, ∀ l ∈ b.localCandidates n, l ∈ a.localCandidates n ∨ l.tcpType = .active) ∧
      a.checklist.map CandidatePair.endpoints <+: b.checklist.map CandidatePair.endpoints := by
    subst hb
    split
    · rw [addRemotePassiveTCPCandidate_eq]
      refine ⟨fun n l hl => ?_, ⟨_, (List.map_append _ _ _).symm⟩⟩
      rcases mem_update_append.mp hl with hl | ⟨-, hs⟩
      · exact .inl hl
      · exact .inr (tcpType_of_mem_synthesized hs)
    · exact ⟨fun _ _ => .inl, List.prefix_refl _⟩
  intro n l hl r hr hla hrp
  rw [List.map_append, List.mem_append]
  rcases mem_update_append.mp hr with hr | ⟨rfl, hc⟩
  · exact .inl (hlist.subset (h n l ((hloc n l hl).resolve_right hla) r hr hla hrp))
  · obtain rfl := List.mem_singleton.mp hc
    rw [if_pos (bne_iff_ne.mpr hrp)]
    exact .inr (List.mem_map.mpr ⟨_, List.mem_map_of_mem _ hl, rfl⟩)

end PairsComplete

/-- Every task keeps `PairsComplete`. -/
theorem pairsComplete_step {T : Duration} {a a' : Agent} (h : PairsComplete a) (ht : LoopTask T a a') :
    PairsComplete a' := by
  obtain ⟨b, hb, hs⟩ := ht.candidates
  refine PairsComplete.of_same ?_ hs
  rcases hb with rfl | ⟨c, rfl⟩ | ⟨env, c, rfl⟩ | hb
  · exact h
  · exact h.addCandidate c
  · exact h.addRemoteCandidate env c
  · exact .of_cleared hb

/-- In every state the running loop reaches, every local candidate that is not an
active ICE-TCP candidate is paired on the checklist with every remote candidate of its
network type that is not a passive one, whichever of the two the agent learnt first. -/
theorem checklist_pairs_every_local_with_every_remote {T : Duration} {a : Agent} (h : Reachable T a) :
    ∀ n, ∀ l ∈ a.localCandidates n, ∀ r ∈ a.remoteCandidates n, l.tcpType ≠ .active →
      r.tcpType ≠ .passive → ∃ p ∈ a.checklist, p.Local = l ∧ p.Remote = r := by
  have hok : PairsComplete a :=
    h.invariant (fun _ => .of_cleared ⟨fun _ => rfl, fun _ => rfl, rfl⟩) fun _ _ => pairsComplete_step
  intro n l hl r hr hla hrp
  obtain ⟨p, hp, hpe⟩ := List.mem_map.mp (hok n l hl r hr hla hrp)
  exact ⟨p, hp, (Prod.mk.inj hpe).1, (Prod.mk.inj hpe).2⟩

/-- A remote host candidate, then a local one. -/
def pairingRun : Agent :=
  ((newAgent udpConfig).addRemoteCandidate noEnv (hostCandidate .udp4 .unspecified "10.0.0.2" 5000)).addCandidate
    (hostCandidate .udp4 .unspecified "10.0.0.1" 5000)

/-- The local that came second is paired with the remote that came first. -/
theorem checklist_pairs_every_local_with_every_remote_pairingRun :
    Reachable (Duration.ofNat 4000000000) pairingRun ∧
    pairingRun.checklist.map CandidatePair.endpoints =
      [(hostCandidate .udp4 .unspecified "10.0.0.1" 5000, hostCandidate .udp4 .unspecified "10.0.0.2" 5000)] ∧
    ∀ n, ∀ l ∈ pairingRun.localCandidates n, ∀ r ∈ pairingRun.remoteCandidates n, l.tcpType ≠ .active →
      r.tcpType ≠ .passive → ∃ p ∈ pairingRun.checklist, p.Local = l ∧ p.Remote = r :=
  have hr : Reachable (Duration.ofNat 4000000000) pairingRun :=
    .step (.step (.init udpConfig) (.addRemoteCandidate _ _ _)) (.addCandidate _ _)
  ⟨hr, by decide, checklist_pairs_every_local_with_every_remote hr⟩

/-! ## No candidate is dropped unclosed -/

/-- The agent holds `c` in one of its candidate maps, or has closed it. -/
def Tracked (a : Agent) (c : Candidate) : Prop :=
  (∃ n, c ∈ a.localCandidates n ∨ c ∈ a.remoteCandidates n) ∨ c ∈ a.closedCandidates

namespace Tracked

variable {a b : Agent} {c : Candidate}

/-- Maps and a close log that only grow keep what is tracked. -/
theorem of_frame (h : Tracked a c) (hl : ∀ n, a.localCandidates n ⊆ b.localCandidates n)
    (hr : ∀ n, a.remoteCandidates n ⊆ b.remoteCandidates n)
    (hc : a.closedCandidates ⊆ b.closedCandidates) : Tracked b c := by
  rcases h with ⟨n, hn | hn⟩ | hn
  · exact Or.inl ⟨n, .inl (hl n hn)⟩
  · exact Or.inl ⟨n, .inr (hr n hn)⟩
  · exact Or.inr (hc hn)

/-- `deleteAllCandidates` closes every candidate it deletes. -/
theorem closed_deleteAllCandidates (h : Tracked a c) : c ∈ a.deleteAllCandidates.closedCandidates := by
  simp only [deleteAllCandidates, List.mem_append, List.mem_flatMap]
  rcases h with ⟨n, hn | hn⟩ | hn
  · exact .inl (.inr ⟨n, NetworkType.mem_all n, hn⟩)
  · exact .inr ⟨n, NetworkType.mem_all n, hn⟩
  · exact .inl (.inl hn)

/-- A state change keeps a candidate tracked: the move to Failed closes what it deletes. -/
theorem updateConnectionState (h : Tracked a c) (s : ConnectionState) :
    Tracked (a.updateConnectionState s) c := by
  unfold Agent.updateConnectionState
  split_ifs
  · exact Or.inr h.closed_deleteAllCandidates
  · exact h
  · exact h

/-- `addCandidate` keeps every candidate tracked. -/
theorem addCandidate (h : Tracked a c) (c' : Candidate) : Tracked (a.addCandidate c') c := by
  cases hdup : (a.localCandidates c'.networkType).any (·.Equal c')
  case true =>
    rw [addCandidate_of_dup a hdup]
    exact h.of_frame (fun _ => List.Subset.refl _) (fun _ => List.Subset.refl _) (List.subset_append_left _ _)
  case false =>
    rw [addCandidate_of_new a hdup]
    exact h.of_frame (fun _ _ hx => mem_update_append.mpr (.inl hx)) (fun _ => List.Subset.refl _)
      (List.Subset.refl _)

/-- `addRemoteCandidate` keeps every candidate tracked. -/
theorem addRemoteCandidate (h : Tracked a c) (env : Env) (c' : Candidate) :
    Tracked (a.addRemoteCandidate env c') c := by
  cases hdup : (a.remoteCandidates c'.networkType).any (·.Equal c')
  case true => rwa [addRemoteCandidate_of_dup a env hdup]
  case false =>
  rw [addRemoteCandidate_of_new a env hdup]
  have hremote : ∀ n, a.remoteCandidates n ⊆ Function.update a.remoteCandidates c'.networkType
      (a.remoteCandidates c'.networkType ++ [c']) n := fun _ _ hx => mem_update_append.mpr (.inl hx)
  split
  · rw [addRemotePassiveTCPCandidate_eq]
    exact h.of_frame (fun _ _ hx => mem_update_append.mpr (.inl hx)) hremote (List.Subset.refl _)
  · exact h.of_frame (fun _ => List.Subset.refl _) hremote (List.Subset.refl _)

/-- The shutdown closes every candidate the agent holds. -/
theorem closed_shutdown (h : Tracked a c) : c ∈ a.shutdown.closedCandidates := by
  have hclosed : a.shutdown.closedCandidates = a.deleteAllCandidates.closedCandidates := by
    simp only [Agent.shutdown,
      updateConnectionState_of_ne_failed _ (show ConnectionState.closed ≠ .failed by decide)]
    split <;> rfl
  rw [hclosed]
  exact h.closed_deleteAllCandidates

end Tracked

/-- A local candidate handed to `addCandidate` is held, or closed as a duplicate. -/
theorem tracked_addCandidate (a : Agent) (c : Candidate) : Tracked (a.addCandidate c) c := by
  cases hdup : (a.localCandidates c.networkType).any (·.Equal c)
  case true =>
    rw [addCandidate_of_dup a hdup]
    exact Or.inr (List.mem_append_right _ (List.mem_singleton_self c))
  case false =>
    rw [addCandidate_of_new a hdup]
    exact Or.inl ⟨c.networkType, .inl (mem_update_append.mpr (.inr ⟨rfl, List.mem_singleton_self c⟩))⟩

/-- No task drops a candidate without closing it. -/
theorem LoopTask.tracked {T : Duration} {a a' : Agent} (ht : LoopTask T a a') {c : Candidate}
    (h : Tracked a c) : Tracked a' c := by
  cases ht with
  | addCandidate c' => exact h.addCandidate c'
  | addRemoteCandidate env c' => exact h.addRemoteCandidate env c'
  | handleInbound env m Local remote now =>
    have hin : Tracked (a.handleInbound env m Local remote).agent c := by
      rcases handleInbound_agent a env m Local remote with he | ⟨c', he⟩ <;> rw [he]
      · exact h
      · exact h.addRemoteCandidate env c'
    rcases handleInboundTask_eq a env m Local remote now with he | ⟨c', he⟩ <;> rw [he] <;> exact hin
  | setRemoteCredentials u p => exact h
  | startConnectivityChecks isControlling u p _ =>
    simp only [Agent.startConnectivityChecks,
      updateConnectionState_of_ne_failed _ (show ConnectionState.checking ≠ .failed by decide)]
    split <;> exact h
  | restart u p =>
    rw [restart_eq]
    exact Or.inr h.closed_deleteAllCandidates
  | contact cl now₁ now₂ =>
    rcases contact_agent id a cl now₁ now₂ with he | he | he <;> rw [he]
    · exact h
    · exact h
    · exact h.updateConnectionState .failed
  | validateSelectedPair now =>
    rcases validateSelectedPair_agent a now with he | ⟨s, -, he⟩ <;> rw [he]
    · exact h
    · exact h.updateConnectionState s
  | setSelectedPair i _ _ =>
    simp only [setSelectedPair,
      updateConnectionState_of_ne_failed _ (show ConnectionState.connected ≠ .failed by decide)]
    split <;> exact h
  | setPairState i st _ => exact h
  | sendBindingRequest now m Local Remote _ => exact h
  | handleInboundBindingSuccess now id _ => exact h

/-- For every run of tasks from any state: a candidate the agent holds in one of its
maps, or has closed, is after the run still held or closed, since no task drops a
candidate without closing it, and the taskLoop's shutdown then closes it. A local
candidate handed to `addCandidate` is held or, as a duplicate, closed. -/
theorem candidates_closed_never_dropped {T : Duration} {a a' : Agent}
    (h : Relation.ReflTransGen (LoopTask T) a a') :
    (∀ c, Tracked a c → Tracked a' c ∧ c ∈ a'.shutdown.closedCandidates) ∧
      ∀ c, Tracked (a.addCandidate c) c := by
  refine ⟨fun c hc => ?_, tracked_addCandidate a⟩
  have hrun : Tracked a' c := by
    induction h with
    | refl => exact hc
    | tail _ ht ih => exact LoopTask.tracked ht ih
  exact ⟨hrun, hrun.closed_shutdown⟩

/-- A local host candidate, handed in again as a duplicate; then, with both timeouts
zero, the checks start and the check loop's first tick moves to Failed. -/
def closingRun : Agent :=
  (contact id ((((newAgent udpConfig).addCandidate (hostCandidate .udp4 .unspecified "10.0.0.1" 5000)).addCandidate
    (hostCandidate .udp4 .unspecified "10.0.0.1" 5000)).startConnectivityChecks true "ru" "rp")
    CheckLoop.init 0 1).1

/-- The duplicate is closed as it is turned away, and the held one when Failed deletes
it. -/
theorem candidates_closed_never_dropped_closingRun :
    Relation.ReflTransGen (LoopTask (Duration.ofNat 4000000000))
      ((newAgent udpConfig).addCandidate (hostCandidate .udp4 .unspecified "10.0.0.1" 5000)) closingRun ∧
    closingRun.closedCandidates =
      [hostCandidate .udp4 .unspecified "10.0.0.1" 5000, hostCandidate .udp4 .unspecified "10.0.0.1" 5000] ∧
    (∀ n, closingRun.localCandidates n = []) ∧
    ((∀ c, Tracked ((newAgent udpConfig).addCandidate (hostCandidate .udp4 .unspecified "10.0.0.1" 5000)) c →
        Tracked closingRun c ∧ c ∈ closingRun.shutdown.closedCandidates) ∧
      ∀ c, Tracked (((newAgent udpConfig).addCandidate (hostCandidate .udp4 .unspecified "10.0.0.1" 5000)).addCandidate c) c) := by
  have hr : Relation.ReflTransGen (LoopTask (Duration.ofNat 4000000000))
      ((newAgent udpConfig).addCandidate (hostCandidate .udp4 .unspecified "10.0.0.1" 5000)) closingRun :=
    .tail (.tail (.tail .refl (.addCandidate _ _)) (.startConnectivityChecks _ true "ru" "rp" (by rfl)))
      (.contact _ CheckLoop.init 0 1)
  exact ⟨hr, by decide, fun _ => rfl, candidates_closed_never_dropped hr⟩

end IceAgent.Analysis
