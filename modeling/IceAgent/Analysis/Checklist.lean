import Mathlib.Logic.Relation
import IceAgent.Model.Checklist
import IceAgent.Analysis.Candidates

/-!
# Repeated pinging, and the best pair

Each call of `pingAllCandidates` acts on every pair by `CandidatePair.ping`, so `n`
calls act on a pair by `pingRun`, `n` pings in a row
(`pingAllCandidates_iterate`). A pair that starts Waiting or In-Progress with no
requests is pinged on each of the first `M + 1` calls and marked Failed by the next
(`pingRun_active`); a Succeeded, Failed or Frozen pair is left as it is
(`pingRun_inert`). The comparison `bindingRequestCount > maxBindingRequests` is made
in `uint16`, so with `maxBindingRequests` at its largest value, 65535, no count ever
exceeds it: the count wraps to 0 and the pair is pinged on every call for ever
(`pingRun_wraps`).

`bestCandidatePair` keeps, among the pairs it considers, the first of highest
priority: a later pair of equal priority does not replace it (`bestCandidatePair_spec`).

The priority of a pair depends on the role it was made with, which is the agent's role
at that time and is never updated: the pairs made before the checks start stay
controlled (`pairs_keep_role_at_pairing`).
-/

set_option autoImplicit false

namespace IceAgent.Analysis

/-- `uint16` values compare by their numbers. -/
theorem uint16_lt_iff (a b : UInt16) : a < b ↔ a.toNat < b.toNat := Iff.rfl

/-- A `uint16` increment, as Go computes it: modulo `2^16`. -/
theorem uint16_toNat_add_one (c : UInt16) : (c + 1).toNat = (c.toNat + 1) % 65536 := rfl

/-- A `uint16` is below `2^16`. -/
theorem uint16_toNat_lt (c : UInt16) : c.toNat < 65536 := c.toNat_lt_size

/-- `uint64` values compare by their numbers. -/
theorem uint64_le_iff (a b : UInt64) : a ≤ b ↔ a.toNat ≤ b.toNat := Iff.rfl

/-- `uint64` values compare strictly by their numbers. -/
theorem uint64_lt_iff (a b : UInt64) : a < b ↔ a.toNat < b.toNat := Iff.rfl

/-! ## `pingAllCandidates` -/

/-- `n` calls of `pingAllCandidates` seen from one pair: the pair they leave, and how
many of them asked the selector to ping it. -/
def pingRun (M : UInt16) : Nat → CandidatePair → CandidatePair × Nat
  | 0, p => (p, 0)
  | n + 1, p =>
    let r := pingRun M n (p.ping M).1
    (r.1, r.2 + if (p.ping M).2 then 1 else 0)

section ping

variable (M : UInt16) {p : CandidatePair}

/-- A pair neither Waiting nor In-Progress is skipped. -/
theorem ping_of_inert (h : p.state ≠ .waiting ∧ p.state ≠ .inProgress) : p.ping M = (p, false) := by
  unfold CandidatePair.ping
  split <;> simp_all

/-- An active pair whose count has not passed `M` is pinged, and its count goes up. -/
theorem ping_of_le (h : p.state = .waiting ∨ p.state = .inProgress)
    (hc : p.bindingRequestCount.toNat ≤ M.toNat) :
    p.ping M =
      ({ p with state := .inProgress, bindingRequestCount := p.bindingRequestCount + 1 }, true) := by
  have hle : ¬ M < p.bindingRequestCount := by rw [uint16_lt_iff]; omega
  unfold CandidatePair.ping
  rcases h with h | h <;> simp [h, hle]

/-- An active pair whose count has passed `M` is marked Failed and not pinged. -/
theorem ping_of_gt (h : p.state = .waiting ∨ p.state = .inProgress)
    (hc : M.toNat < p.bindingRequestCount.toNat) :
    p.ping M = ({ p with state := .failed }, false) := by
  have hgt : M < p.bindingRequestCount := (uint16_lt_iff _ _).mpr hc
  unfold CandidatePair.ping
  rcases h with h | h <;> simp [h, hgt]

/-- A pair that is neither Waiting nor In Progress is never pinged and never changes. -/
theorem pingRun_inert (h : p.state ≠ .waiting ∧ p.state ≠ .inProgress) (n : Nat) :
    pingRun M n p = (p, 0) := by
  induction n with
  | zero => rfl
  | succ n ih => simp [pingRun, ping_of_inert M h, ih]

/-- With `M` below 65535, an active pair with count `c ≤ M + 1` is pinged on each of
the next `M + 1 - c` calls, counting each, and is Failed from the call after on. -/
theorem pingRun_active (hM : M.toNat < 65535) (n : Nat) (p : CandidatePair)
    (h : p.state = .waiting ∨ p.state = .inProgress)
    (hc : p.bindingRequestCount.toNat ≤ M.toNat + 1) :
    (pingRun M n p).2 = min n (M.toNat + 1 - p.bindingRequestCount.toNat) ∧
      (pingRun M n p).1.bindingRequestCount.toNat =
        p.bindingRequestCount.toNat + (pingRun M n p).2 ∧
      ((pingRun M n p).1.state = .failed ↔ M.toNat + 1 - p.bindingRequestCount.toNat < n) := by
  induction n generalizing p with
  | zero => rcases h with h | h <;> simp [pingRun, h]
  | succ n ih =>
    by_cases hle : p.bindingRequestCount.toNat ≤ M.toNat
    · have hcount : (p.bindingRequestCount + 1).toNat = p.bindingRequestCount.toNat + 1 := by
        rw [uint16_toNat_add_one]; omega
      obtain ⟨h₁, h₂, h₃⟩ :=
        ih { p with state := .inProgress, bindingRequestCount := p.bindingRequestCount + 1 }
          (.inr rfl) (by simp only [hcount]; omega)
      simp only [hcount] at h₁ h₂ h₃
      simp only [pingRun, ping_of_le M h hle, if_true, h₁, h₂, h₃]
      omega
    · rw [pingRun, ping_of_gt M h (by omega),
        pingRun_inert M (p := { p with state := .failed }) ⟨nofun, nofun⟩ n]
      simp only [Bool.false_eq_true, if_false, true_iff]
      omega

/-- With `M` at 65535 no count exceeds it: an active pair is pinged on every call and
never Failed, and its count wraps modulo `2^16`. -/
theorem pingRun_wraps (n : Nat) (p : CandidatePair)
    (h : p.state = .waiting ∨ p.state = .inProgress) :
    (pingRun 65535 n p).2 = n ∧
      ((pingRun 65535 n p).1.state = .waiting ∨ (pingRun 65535 n p).1.state = .inProgress) ∧
      (pingRun 65535 n p).1.bindingRequestCount.toNat = (p.bindingRequestCount.toNat + n) % 65536 := by
  induction n generalizing p with
  | zero =>
    refine ⟨rfl, h, ?_⟩
    simp only [pingRun, Nat.add_zero]
    exact (Nat.mod_eq_of_lt (uint16_toNat_lt _)).symm
  | succ n ih =>
    have hle : p.bindingRequestCount.toNat ≤ (65535 : UInt16).toNat :=
      Nat.le_of_lt_succ (uint16_toNat_lt _)
    obtain ⟨h₁, h₂, h₃⟩ :=
      ih { p with state := .inProgress, bindingRequestCount := p.bindingRequestCount + 1 } (.inr rfl)
    simp only [pingRun, ping_of_le 65535 h hle, if_true]
    refine ⟨by omega, h₂, ?_⟩
    rw [h₃, uint16_toNat_add_one]
    omega

end ping

/-- Calls of `pingAllCandidates` keep `maxBindingRequests`. -/
theorem pingAllCandidates_iterate_maxBindingRequests (n : Nat) (a : Agent) :
    ((fun a : Agent => a.pingAllCandidates.1)^[n] a).maxBindingRequests = a.maxBindingRequests := by
  induction n generalizing a with
  | zero => rfl
  | succ n ih => rw [Function.iterate_succ_apply, ih]; rfl

/-- A call of `pingAllCandidates` asks for one ping per pair that `ping` pings. -/
theorem pingAllCandidates_pings_length (a : Agent) :
    a.pingAllCandidates.2.length =
      (a.checklist.filter fun p => (p.ping a.maxBindingRequests).2).length := by
  simp [Agent.pingAllCandidates, List.filter_map]
  rfl

/-- `n` calls of `pingAllCandidates` leave each pair as `n` pings in a row leave it. -/
theorem pingAllCandidates_iterate (n : Nat) (a : Agent) :
    ((fun a : Agent => a.pingAllCandidates.1)^[n] a).checklist =
      a.checklist.map fun p => (pingRun a.maxBindingRequests n p).1 := by
  induction n generalizing a with
  | zero => simp [pingRun]
  | succ n ih =>
    rw [Function.iterate_succ_apply, ih]
    simp [Agent.pingAllCandidates, pingRun]

/-- `maxBindingRequests` at 65535, its largest value. -/
def wrapConfig : AgentConfig := { udpConfig with maxBindingRequests := 65535 }

/-- One pair, Waiting with no request sent, on an agent with that configuration. -/
def wrapAgent : Agent :=
  ((newAgent wrapConfig).addCandidate (hostCandidate .udp4 .unspecified "10.0.0.1" 5000)).addRemoteCandidate
    noEnv (hostCandidate .udp4 .unspecified "10.0.0.2" 5000)

/-- `wrapAgent` is reached by adding a local and a remote candidate. -/
theorem wrapAgent_reachable (T : Duration) : Reachable T wrapAgent :=
  .step (.step (.init wrapConfig) (.addCandidate _ _)) (.addRemoteCandidate _ _ _)

/-- `wrapAgent` allows 65535 requests and has one Waiting pair that has sent none. -/
theorem wrapAgent_checklist : wrapAgent.maxBindingRequests = 65535 ∧
    ∃ p, wrapAgent.checklist = [p] ∧ p.state = .waiting ∧ p.bindingRequestCount = 0 :=
  ⟨rfl, _, rfl, rfl, rfl⟩

/-- From `wrapAgent`, every call of `pingAllCandidates` pings the pair: its count runs
modulo `2^16` and it is never Failed. -/
theorem wrapAgent_pinged_forever (n : Nat) :
    ((fun a : Agent => a.pingAllCandidates.1)^[n] wrapAgent).pingAllCandidates.2.length = 1 ∧
      ∀ p ∈ ((fun a : Agent => a.pingAllCandidates.1)^[n] wrapAgent).checklist,
        p.state ≠ .failed ∧ p.bindingRequestCount.toNat = n % 65536 := by
  obtain ⟨hM, p, hl, hs, hc⟩ := wrapAgent_checklist
  obtain ⟨-, hst, hcount⟩ := pingRun_wraps n p (.inl hs)
  have hle : (pingRun 65535 n p).1.bindingRequestCount.toNat ≤ (65535 : UInt16).toNat :=
    Nat.le_of_lt_succ (uint16_toNat_lt _)
  rw [pingAllCandidates_pings_length, pingAllCandidates_iterate, pingAllCandidates_iterate_maxBindingRequests,
    hl, hM]
  simp only [List.map_cons, List.map_nil, List.filter_cons, ping_of_le 65535 hst hle, if_true,
    List.filter_nil, List.length_singleton, List.mem_singleton, forall_eq, true_and]
  rw [hcount, hc]
  exact ⟨by rcases hst with h | h <;> simp [h], by simp⟩

/-- Each pair evolves on its own under repeated `pingAllCandidates`. With
`maxBindingRequests` `M` below 65535, a pair that starts Waiting or In-Progress with no
requests is pinged on the first `min n (M + 1)` of `n` calls, its count never passes
`M + 1`, and it is Failed exactly from the `(M + 2)`-th call on; Succeeded, Failed and
Frozen pairs are never pinged or modified. With `M` at 65535 the `uint16` count cannot
exceed `M`: an active pair is pinged on every call and never Failed, its count wrapping
modulo `2^16`, and a reachable agent shows it for any number of calls. -/
theorem pingAllCandidates_bounded_unless_count_wraps :
    (∀ (a : Agent) (n : Nat), ((fun a : Agent => a.pingAllCandidates.1)^[n] a).checklist =
      a.checklist.map fun p => (pingRun a.maxBindingRequests n p).1) ∧
    (∀ (M : UInt16) (n : Nat) (p : CandidatePair), M.toNat < 65535 →
      (p.state = .waiting ∨ p.state = .inProgress) → p.bindingRequestCount = 0 →
      (pingRun M n p).2 = min n (M.toNat + 1) ∧
        (pingRun M n p).1.bindingRequestCount.toNat = min n (M.toNat + 1) ∧
        ((pingRun M n p).1.state = .failed ↔ M.toNat + 2 ≤ n)) ∧
    (∀ (M : UInt16) (n : Nat) (p : CandidatePair), p.state ≠ .waiting → p.state ≠ .inProgress →
      pingRun M n p = (p, 0)) ∧
    (∀ (n : Nat) (p : CandidatePair), (p.state = .waiting ∨ p.state = .inProgress) →
      (pingRun 65535 n p).2 = n ∧
        ((pingRun 65535 n p).1.state = .waiting ∨ (pingRun 65535 n p).1.state = .inProgress) ∧
        (pingRun 65535 n p).1.bindingRequestCount.toNat = (p.bindingRequestCount.toNat + n) % 65536) ∧
    (∀ T, Reachable T wrapAgent) ∧ wrapAgent.maxBindingRequests = 65535 ∧
    ∀ n, ((fun a : Agent => a.pingAllCandidates.1)^[n] wrapAgent).pingAllCandidates.2.length = 1 ∧
      ∀ p ∈ ((fun a : Agent => a.pingAllCandidates.1)^[n] wrapAgent).checklist,
        p.state ≠ .failed ∧ p.bindingRequestCount.toNat = n % 65536 := by
  refine ⟨fun a n => pingAllCandidates_iterate n a, fun M n p hM h h0 => ?_,
    fun M n p h h' => pingRun_inert M ⟨h, h'⟩ n, fun n p h => pingRun_wraps n p h,
    wrapAgent_reachable, wrapAgent_checklist.1, wrapAgent_pinged_forever⟩
  have hc : p.bindingRequestCount.toNat = 0 := by simp [h0]
  obtain ⟨h₁, h₂, h₃⟩ := pingRun_active M hM n p h (by omega)
  rw [hc] at h₁ h₂ h₃
  exact ⟨by omega, by omega, by rw [h₃]; omega⟩

/-! ## The best pair -/

/-- `q` is, among the pairs of `l` that `consider` keeps, the first of highest priority:
every kept pair before it has a lower priority, and no kept pair after it a higher one. -/
def FirstHighest (consider : CandidatePair → Bool) (l : List CandidatePair) (q : CandidatePair) :
    Prop :=
  consider q = true ∧ ∃ before after, l = before ++ q :: after ∧
    (∀ p ∈ before, consider p = true → p.priority < q.priority) ∧
    ∀ p ∈ after, consider p = true → p.priority ≤ q.priority

namespace FirstHighest

variable {consider : CandidatePair → Bool} {l : List CandidatePair} {p q : CandidatePair}

/-- The first highest pair has a priority at least that of every considered pair. -/
theorem le (h : FirstHighest consider l q) (hp : p ∈ l)
    (hcp : consider p = true) : p.priority ≤ q.priority := by
  obtain ⟨-, before, after, rfl, hb, ha⟩ := h
  rcases List.mem_append.mp hp with hp | hp | ⟨_, hp⟩
  · exact (uint64_le_iff _ _).mpr (Nat.le_of_lt (hb p hp hcp))
  · exact UInt64.le_refl _
  · exact ha p hp hcp

/-- A pair the loop does not consider, appended, changes nothing. -/
theorem append_skipped (h : FirstHighest consider l q)
    (hp : consider p = false ∨ p.priority ≤ q.priority) : FirstHighest consider (l ++ [p]) q := by
  obtain ⟨hq, before, after, rfl, hb, ha⟩ := h
  refine ⟨hq, before, after ++ [p], by simp, hb, fun x hx hcx => ?_⟩
  rcases List.mem_append.mp hx with hx | hx
  · exact ha x hx hcx
  · obtain rfl := List.mem_singleton.mp hx
    exact hp.resolve_left (by simp [hcx])

/-- A kept pair of higher priority than every kept pair before it, appended, wins. -/
theorem of_append (hp : consider p = true)
    (hl : ∀ x ∈ l, consider x = true → x.priority < p.priority) : FirstHighest consider (l ++ [p]) p :=
  ⟨hp, l, [], rfl, hl, by simp⟩

/-- The first of two decompositions cannot have its pivot before the other's. -/
private theorem eq_of_append {before after before' after' c : List CandidatePair}
    {q' : CandidatePair} (hq : consider q = true) (hq' : consider q' = true)
    (ha : ∀ p ∈ after, consider p = true → p.priority ≤ q.priority)
    (hb' : ∀ p ∈ before', consider p = true → p.priority < q'.priority)
    (hbefore : before' = before ++ c) (hc : q :: after = c ++ q' :: after') : q = q' := by
  cases c with
  | nil => exact (List.cons.inj hc).1
  | cons x c =>
    obtain ⟨rfl, rfl⟩ := List.cons.inj hc
    exact absurd (ha q' (by simp) hq') (UInt64.not_le.mpr (hb' q (by simp [hbefore]) hq))

/-- At most one pair is the first highest. -/
theorem unique (h : FirstHighest consider l q) {q' : CandidatePair} (h' : FirstHighest consider l q') :
    q = q' := by
  obtain ⟨hq, before, after, rfl, hb, ha⟩ := h
  obtain ⟨hq', before', after', he, hb', ha'⟩ := h'
  rcases List.append_eq_append_iff.mp he with ⟨c, hc, he'⟩ | ⟨c, hc, he'⟩
  · exact eq_of_append hq hq' ha hb' hc he'
  · exact (eq_of_append hq' hq ha' hb hc he').symm

end FirstHighest

/-- Of the pairs `consider` keeps, `bestCandidatePair` returns none exactly when there
is none, and otherwise the first of highest priority. -/
theorem bestCandidatePair_spec (consider : CandidatePair → Bool) (l : List CandidatePair) :
    (bestCandidatePair consider l = none ↔ ∀ p ∈ l, consider p = false) ∧
    ∀ q, bestCandidatePair consider l = some q → FirstHighest consider l q := by
  induction l using List.reverseRecOn with
  | nil => simp [bestCandidatePair]
  | append_singleton l p ih =>
    obtain ⟨hnone, hsome⟩ := ih
    have hstep : bestCandidatePair consider (l ++ [p]) =
        if !consider p then bestCandidatePair consider l
        else match bestCandidatePair consider l with
          | none => some p
          | some b => if b.priority < p.priority then some p else bestCandidatePair consider l :=
      (List.foldl_append _ _ _ _).trans rfl
    rw [hstep]
    simp only [List.mem_append, List.mem_singleton, or_imp, forall_and, forall_eq]
    cases hp : consider p
    · -- `p` is skipped
      simp only [Bool.not_false, if_true, and_true]
      exact ⟨hnone, fun q hq => (hsome q hq).append_skipped (.inl hp)⟩
    · -- `p` is considered
      simp only [Bool.not_true, Bool.false_eq_true, if_false, Bool.true_eq_false, and_false,
        iff_false]
      cases hb : bestCandidatePair consider l with
      | none =>
        have hl := hnone.mp hb
        dsimp only
        refine ⟨nofun, fun q hq => ?_⟩
        obtain rfl := Option.some.inj hq
        exact .of_append hp fun x hx hcx => by simp [hl x hx] at hcx
      | some b =>
        have hb' := hsome b hb
        dsimp only
        refine ⟨fun h => (by split at h <;> cases h), fun q hq => ?_⟩
        split at hq
        · obtain rfl := Option.some.inj hq
          rename_i hlt
          exact .of_append hp fun x hx hcx => (uint64_lt_iff _ _).mpr
            (Nat.lt_of_le_of_lt (hb'.le hx hcx) hlt)
        · obtain rfl := Option.some.inj hq
          exact hb'.append_skipped (.inr (UInt64.not_lt.mp ‹_›))

/-- `bestCandidatePair` returns exactly the first kept pair of highest priority. -/
theorem bestCandidatePair_eq_some_iff (consider : CandidatePair → Bool) (l : List CandidatePair)
    (q : CandidatePair) : bestCandidatePair consider l = some q ↔ FirstHighest consider l q := by
  refine ⟨(bestCandidatePair_spec consider l).2 q, fun h => ?_⟩
  obtain ⟨hq, before, after, rfl, -⟩ := id h
  cases hb : bestCandidatePair consider (before ++ q :: after) with
  | none => simp [(bestCandidatePair_spec _ _).1.mp hb q (by simp)] at hq
  | some q' => rw [h.unique ((bestCandidatePair_spec _ _).2 q' hb)]

/-- For every checklist, `getBestValidCandidatePair` returns none exactly when no pair
is Succeeded, and otherwise the first Succeeded pair of highest priority;
`getBestAvailableCandidatePair` likewise with the pairs that are not Failed. -/
theorem getBestCandidatePair_first_of_highest (a : Agent) (q : CandidatePair) :
    (a.getBestValidCandidatePair = none ↔ ∀ p ∈ a.checklist, p.state ≠ .succeeded) ∧
    (a.getBestValidCandidatePair = some q ↔
      FirstHighest (fun p => p.state == .succeeded) a.checklist q) ∧
    (a.getBestAvailableCandidatePair = none ↔ ∀ p ∈ a.checklist, p.state = .failed) ∧
    (a.getBestAvailableCandidatePair = some q ↔
      FirstHighest (fun p => p.state != .failed) a.checklist q) :=
  ⟨(bestCandidatePair_spec _ _).1.trans (by simp), bestCandidatePair_eq_some_iff _ _ q,
    (bestCandidatePair_spec _ _).1.trans (by simp), bestCandidatePair_eq_some_iff _ _ q⟩

/-! ## The role each pair is ranked with

`addPair` (agent.go:595-599) gives a new pair the role the agent has when it makes the
pair, and only the task of `startConnectivityChecks` sets the role, once, from the
controlled role `NewAgent` starts in. No task updates the role of a pair already on
the checklist, so a controlling agent ranks the pairs it made before the checks
started as a controlled agent would. Every task other than the start keeps the role
and either appends pairs of that role or empties the checklist (`KeepsRoles`); the
roles on the checklist are therefore some controlled pairs followed by pairs of the
agent's role. -/

/-- The role each pair of the checklist is ranked with, in order. -/
def pairRoles (a : Agent) : List Bool := a.checklist.map CandidatePair.iceRoleControlling

/-- What a task other than the start does to the roles: the agent's role and its start
flag stay, and the checklist gains pairs of the agent's role or is emptied. -/
structure KeepsRoles (a b : Agent) : Prop where
  started : b.started = a.started
  isControlling : b.isControlling = a.isControlling
  roles : (∃ k, pairRoles b = pairRoles a ++ List.replicate k a.isControlling) ∨ pairRoles b = []

namespace KeepsRoles

variable {a b : Agent}

/-- A task that keeps the start flag and the role, and appends pairs of the agent's role,
keeps the roles. -/
theorem of_append (hs : b.started = a.started) (hc : b.isControlling = a.isControlling)
    {new : List CandidatePair} (hnew : ∀ p ∈ new, p.iceRoleControlling = a.isControlling)
    (hl : b.checklist = a.checklist ++ new) : KeepsRoles a b :=
  have hm : new.map CandidatePair.iceRoleControlling = List.replicate new.length a.isControlling :=
    List.eq_replicate_iff.mpr ⟨List.length_map _ _, by simpa using hnew⟩
  ⟨hs, hc, .inl ⟨new.length, by rw [pairRoles, pairRoles, hl, List.map_append, hm]⟩⟩

/-- A task that keeps the start flag, the role and the roles on the checklist keeps the
roles. -/
theorem of_checklist (hs : b.started = a.started) (hc : b.isControlling = a.isControlling)
    (hl : pairRoles b = pairRoles a) : KeepsRoles a b :=
  ⟨hs, hc, .inl ⟨0, by rw [hl, List.replicate_zero, List.append_nil]⟩⟩

/-- Doing nothing keeps the roles. -/
theorem refl (a : Agent) : KeepsRoles a a := of_checklist rfl rfl rfl

/-- Flags changed at one position keep every pair's role. -/
theorem modify (hs : b.started = a.started) (hc : b.isControlling = a.isControlling)
    (f : CandidatePair → CandidatePair) (hf : ∀ p, (f p).iceRoleControlling = p.iceRoleControlling)
    (i : Nat) (hl : b.checklist = a.checklist.modify f i) : KeepsRoles a b := by
  refine of_checklist hs hc (List.ext_getElem? fun n => ?_)
  simp only [pairRoles, hl, List.getElem?_map, List.getElem?_modify]
  cases a.checklist[n]? with
  | none => rfl
  | some p => by_cases h : i = n <;> simp [h, hf]

end KeepsRoles

open Agent

/-- Pairs made in a loop, all with one role, have that role. -/
theorem role_of_mem_map {α : Type} {l : List α} {f : α → CandidatePair} {p : CandidatePair}
    (h : p ∈ l.map f) {r : Bool} (hf : ∀ x, (f x).iceRoleControlling = r) :
    p.iceRoleControlling = r := by
  obtain ⟨x, -, rfl⟩ := List.mem_map.mp h
  exact hf x

/-- `addCandidate` keeps the roles: its new pairs have the agent's role. -/
theorem addCandidate_keepsRoles (a : Agent) (c : Candidate) : KeepsRoles a (a.addCandidate c) := by
  cases hdup : (a.localCandidates c.networkType).any (·.Equal c)
  case true => rw [addCandidate_of_dup a hdup]; exact .of_checklist rfl rfl rfl
  case false =>
    rw [addCandidate_of_new a hdup]
    exact .of_append rfl rfl (fun _ hp => role_of_mem_map hp fun _ => rfl) rfl

/-- `addRemoteCandidate` keeps the roles: its new pairs, synthesized ones included, have the
agent's role. -/
theorem addRemoteCandidate_keepsRoles (a : Agent) (env : Env) (c : Candidate) :
    KeepsRoles a (a.addRemoteCandidate env c) := by
  cases hdup : (a.remoteCandidates c.networkType).any (·.Equal c)
  case true => rw [addRemoteCandidate_of_dup a env hdup]; exact .refl a
  case false =>
  rw [addRemoteCandidate_of_new a env hdup]
  have hpaired : ∀ l : List Candidate, ∀ p ∈ (if c.tcpType != .passive then
      l.map fun l => newCandidatePair l c a.isControlling else []),
        p.iceRoleControlling = a.isControlling := fun l p hp => by
    split at hp
    · exact role_of_mem_map hp fun _ => rfl
    · cases hp
  split
  · rw [addRemotePassiveTCPCandidate_eq]
    refine .of_append rfl rfl (fun p hp => ?_) (List.append_assoc _ _ _)
    rcases List.mem_append.mp hp with hp | hp
    · exact role_of_mem_map hp fun _ => rfl
    · exact hpaired _ p hp
  · exact .of_append rfl rfl (hpaired _) rfl

/-- `updateConnectionState` keeps the roles, or empties the checklist on the move to Failed. -/
theorem updateConnectionState_keepsRoles (a : Agent) (s : ConnectionState) :
    KeepsRoles a (a.updateConnectionState s) := by
  unfold updateConnectionState
  split
  · split
    · exact ⟨rfl, rfl, .inr rfl⟩
    · exact .of_checklist rfl rfl rfl
  · exact .refl a

/-- Every task but the start keeps the roles; the start, which runs only once, keeps
the checklist. -/
theorem LoopTask.roles {T : Duration} {a a' : Agent} (ht : LoopTask T a a') :
    KeepsRoles a a' ∨ (a.started = false ∧ a'.started = true ∧ pairRoles a' = pairRoles a) := by
  cases ht with
  | addCandidate c => exact .inl (addCandidate_keepsRoles a c)
  | addRemoteCandidate env c => exact .inl (addRemoteCandidate_keepsRoles a env c)
  | handleInbound env m Local remote now =>
    refine .inl ?_
    have hagent : KeepsRoles a (a.handleInbound env m Local remote).agent := by
      rcases handleInbound_agent a env m Local remote with he | ⟨c, he⟩ <;> rw [he]
      · exact .refl a
      · exact addRemoteCandidate_keepsRoles a env c
    rcases handleInboundTask_eq a env m Local remote now with he | ⟨c, he⟩ <;> rw [he]
    · exact hagent
    · exact ⟨hagent.started, hagent.isControlling, hagent.roles⟩
  | setRemoteCredentials u p => exact .inl (.of_checklist rfl rfl rfl)
  | startConnectivityChecks isControlling u p hs =>
    refine .inr ⟨hs, ?_⟩
    simp only [Agent.startConnectivityChecks,
      updateConnectionState_of_ne_failed _ (show ConnectionState.checking ≠ .failed by decide)]
    split <;> exact ⟨rfl, rfl⟩
  | restart u p => exact .inl ⟨by rw [restart_eq], by rw [restart_eq], .inr (by rw [pairRoles, restart_eq]; rfl)⟩
  | contact cl now₁ now₂ =>
    refine .inl ?_
    rcases contact_agent id a cl now₁ now₂ with he | he | he <;> rw [he]
    · exact .refl a
    · exact .refl a
    · exact updateConnectionState_keepsRoles a .failed
  | validateSelectedPair now =>
    refine .inl ?_
    rcases validateSelectedPair_agent a now with he | ⟨s, -, he⟩ <;> rw [he]
    · exact .refl a
    · exact updateConnectionState_keepsRoles a s
  | setSelectedPair i _ _ =>
    obtain ⟨-, -, hs, hl⟩ := setSelectedPair_some a i
    have hc : (a.setSelectedPair (some i)).isControlling = a.isControlling := by
      simp only [setSelectedPair,
        updateConnectionState_of_ne_failed _ (show ConnectionState.connected ≠ .failed by decide)]
      split <;> rfl
    exact .inl (.modify hs hc (fun p => { p with nominated := true }) (fun _ => rfl) i hl)
  | setPairState i st _ => exact .inl (.modify rfl rfl (fun p => { p with state := st }) (fun _ => rfl) i rfl)
  | sendBindingRequest now m Local Remote _ => exact .inl (.of_checklist rfl rfl rfl)
  | handleInboundBindingSuccess now id _ => exact .inl (.of_checklist rfl rfl rfl)

/-- The roles on the checklist: some controlled pairs, then pairs of the agent's role;
an agent that has not started is controlled. -/
structure RolesOk (a : Agent) : Prop where
  unstarted : a.started = false → a.isControlling = false
  roles : ∃ i j, pairRoles a = List.replicate i false ++ List.replicate j a.isControlling

/-- Every task keeps the roles on the checklist in shape. -/
theorem RolesOk.step {T : Duration} {a a' : Agent} (h : RolesOk a) (ht : LoopTask T a a') :
    RolesOk a' := by
  obtain ⟨i, j, hr⟩ := h.roles
  rcases LoopTask.roles ht with ⟨hs, hc, ⟨k, hk⟩ | hk⟩ | ⟨hs, hs', hk⟩
  · refine ⟨fun h' => hc ▸ h.unstarted (hs ▸ h'), i, j + k, ?_⟩
    rw [hk, hr, hc, List.replicate_add, List.append_assoc]
  · exact ⟨fun h' => hc ▸ h.unstarted (hs ▸ h'), 0, 0, hk⟩
  · refine ⟨fun h' => Bool.noConfusion (hs'.symm.trans h'), i + j, 0, ?_⟩
    rw [hk, hr, h.unstarted hs, List.replicate_add, List.replicate_zero, List.append_nil]

/-- In every state the running loop reaches, the checklist's pairs are ranked, in
order, first as a controlled agent's pairs and then with the agent's role: a pair keeps
the role the agent had when it made the pair, so the pairs made before
`startConnectivityChecks` keep the controlled role `NewAgent` starts in, whatever role
the checks then start with. An agent that has not started is controlled. -/
theorem pairs_keep_role_at_pairing {T : Duration} {a : Agent} (h : Reachable T a) :
    (a.started = false → a.isControlling = false) ∧
    ∃ i j, a.checklist.map CandidatePair.iceRoleControlling =
      List.replicate i false ++ List.replicate j a.isControlling := by
  have hok : RolesOk a := h.invariant (fun _ => ⟨fun _ => rfl, 0, 0, rfl⟩) fun _ _ => RolesOk.step
  exact ⟨hok.unstarted, hok.roles⟩

/-- For every run of tasks from a state whose checks have started: the agent stays
started and keeps its role, whatever the run does (Failed, `Restart`, new candidates),
since `startConnectivityChecks` runs once and no other task sets the role. -/
theorem role_fixed_once_started {T : Duration} {a a' : Agent}
    (h : Relation.ReflTransGen (LoopTask T) a a') (hs : a.started = true) :
    a'.started = true ∧ a'.isControlling = a.isControlling := by
  induction h with
  | refl => exact ⟨hs, rfl⟩
  | tail _ ht ih =>
    rcases LoopTask.roles ht with hk | ⟨hb, -⟩
    · exact ⟨hk.started.trans ih.1, hk.isControlling.trans ih.2⟩
    · exact absurd (ih.1.symm.trans hb) Bool.noConfusion

/-- A local host candidate of priority 2, a remote one of priority 1, the checks
started as the controlling agent, then a second local of priority 3. -/
def roleRun : Agent :=
  (((((newAgent udpConfig).addCandidate
    { hostCandidate .udp4 .unspecified "10.0.0.1" 5000 with priority := 2 }).addRemoteCandidate noEnv
    { hostCandidate .udp4 .unspecified "10.0.0.2" 5000 with priority := 1 }).startConnectivityChecks
      true "ru" "rp").addCandidate
    { hostCandidate .udp4 .unspecified "10.0.0.3" 5000 with priority := 3 })

/-- The controlling `roleRun` ranks its first pair, made before the start, as the
controlled agent: the local candidate's higher priority counts as `D`, so the pair's
priority lacks the `G>D` bit it has with the agent's role. -/
theorem pairs_keep_role_at_pairing_roleRun :
    Reachable (Duration.ofNat 4000000000) roleRun ∧ roleRun.isControlling = true ∧
    roleRun.checklist.map CandidatePair.iceRoleControlling = [false, true] ∧
    (roleRun.checklist.map CandidatePair.priority).head? = some (((1 : UInt64) <<< 32) * 1 + 2 * 2) ∧
    (roleRun.checklist.map fun p => ({ p with iceRoleControlling := true } : CandidatePair).priority).head? =
      some (((1 : UInt64) <<< 32) * 1 + 2 * 2 + 1) ∧
    ((roleRun.started = false → roleRun.isControlling = false) ∧
      ∃ i j, roleRun.checklist.map CandidatePair.iceRoleControlling =
        List.replicate i false ++ List.replicate j roleRun.isControlling) := by
  have hr : Reachable (Duration.ofNat 4000000000) roleRun :=
    .step (.step (.step (.step (.init _) (.addCandidate _ _)) (.addRemoteCandidate _ _ _))
      (.startConnectivityChecks _ _ _ _ (by rfl))) (.addCandidate _ _)
  exact ⟨hr, by decide, by decide, by decide, by decide, pairs_keep_role_at_pairing hr⟩

/-- `roleRun`, then the check loop's first tick, which moves to Failed since both
timeouts are zero, and a `Restart`: still started and controlling. -/
theorem role_fixed_once_started_roleRun :
    roleRun.started = true ∧
    Relation.ReflTransGen (LoopTask (Duration.ofNat 4000000000)) roleRun
      ((contact id roleRun CheckLoop.init 0 1).1.restart "ufB" "0123456789abcdef") ∧
    (contact id roleRun CheckLoop.init 0 1).1.connectionState = .failed ∧
    (((contact id roleRun CheckLoop.init 0 1).1.restart "ufB" "0123456789abcdef").started = true ∧
      ((contact id roleRun CheckLoop.init 0 1).1.restart "ufB" "0123456789abcdef").isControlling =
        roleRun.isControlling) := by
  have hr : Relation.ReflTransGen (LoopTask (Duration.ofNat 4000000000)) roleRun
      ((contact id roleRun CheckLoop.init 0 1).1.restart "ufB" "0123456789abcdef") :=
    .tail (.tail .refl (.contact _ CheckLoop.init 0 1)) (.restart _ _ _)
  exact ⟨rfl, hr, by decide, role_fixed_once_started hr rfl⟩

end IceAgent.Analysis
