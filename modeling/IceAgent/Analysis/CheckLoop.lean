import IceAgent.Model.Timed
import IceAgent.Analysis.SelectedPair

/-!
# The Checking timeout

The `contact` closure reads the connection state only when it runs, at a tick. It
restarts its timer (`checkingDuration`) at the first clock reading of a tick that finds
Checking after a tick that left another state, and moves to Failed at a tick that finds
Checking once the timer, at the tick's second reading `t`, has run longer than
`disconnectedTimeout + failedTimeout`. So what a timeout to Failed guarantees is about
ticks: some tick whose first reading `t₀` restarted the timer found Checking, every tick
since found Checking, and the sum is below `t - t₀` (`CheckingSince`). The tick that
restarts the timer can be the one that fires: with both timeouts zero the first tick in
Checking fires as soon as its two readings differ. The state between two ticks is not
sampled: a nomination followed by `Restart` leaves Checking and comes back unseen, and
the old timer still runs (`excursionRun`).

The timeout has no guard for a zero `failedTimeout`, unlike `validateSelectedPair`
(agent.go:619-628), which never moves to Failed when `failedTimeout` is zero.
-/

set_option autoImplicit false

namespace IceAgent.System

variable (s : System) (cc : ContactCandidates) (now now₁ now₂ : Int)

/-- A tick logs one tick, at its first reading. -/
theorem tick_ticks : (s.tick cc now₁ now₂).ticks =
    s.ticks ++ [⟨now₁, true, s.agent.connectionState, (s.tick cc now₁ now₂).agent.connectionState⟩] := by
  simp [ticks, tick]

/-- Another task logs no tick. -/
theorem task_ticks (a' : Agent) : (s.task a' now).ticks = s.ticks := by
  simp [ticks, task]

/-- The closure's deferred assignment: a tick leaves `lastConnectionState` at the
state it leaves the agent in. -/
theorem tick_lastConnectionState :
    (s.tick cc now₁ now₂).checkLoop.lastConnectionState = (s.tick cc now₁ now₂).agent.connectionState := by
  simp only [tick]
  by_cases hf : s.agent.connectionState = .failed
  · rw [contact_of_failed _ _ _ _ _ hf]
    exact hf.symm
  by_cases hc : s.agent.connectionState = .checking
  · rw [contact_of_checking _ _ _ _ _ hc]
  · rw [contact_of_other _ _ _ _ _ hf hc]

/-- A tick leaves the agent in Checking only when it found it there. -/
theorem checking_of_tick (h : (s.tick cc now₁ now₂).agent.connectionState = .checking) :
    s.agent.connectionState = .checking := by
  simp only [tick] at h
  by_cases hf : s.agent.connectionState = .failed
  · rw [contact_of_failed _ _ _ _ _ hf] at h
    exact h
  by_cases hc : s.agent.connectionState = .checking
  · exact hc
  · rw [contact_of_other _ _ _ _ _ hf hc] at h
    exact (cc.checking s.agent).mp h

/-- A tick that finds Checking restarts the timer at its first reading unless the
previous tick left Checking, and moves to Failed when the timer, at its second reading,
has passed the timeouts. -/
theorem tick_of_checking (hc : s.agent.connectionState = .checking) :
    let checkingDuration :=
      if s.checkLoop.lastConnectionState = .checking then s.checkLoop.checkingDuration else now₁
    (s.tick cc now₁ now₂).checkLoop.checkingDuration = checkingDuration ∧
      (s.tick cc now₁ now₂).agent =
        if s.agent.disconnectedTimeout.add s.agent.failedTimeout < Time.sub now₂ checkingDuration then
          s.agent.updateConnectionState .failed
        else cc.run s.agent := by
  constructor <;> simp only [tick, contact_of_checking _ _ _ _ _ hc]

end IceAgent.System

namespace IceAgent.Analysis

open Agent

/-- When the last tick left the agent Checking, `checkingDuration` is the time of a
tick from which on every tick found and left the agent Checking; and no event lies
after the clock. -/
structure CheckingSince (s : System) : Prop where
  clock : ∀ e ∈ s.log, e.time ≤ s.clock
  since : s.checkLoop.lastConnectionState = .checking → ∃ pre e₀ post,
    s.ticks = pre ++ e₀ :: post ∧ e₀.time = s.checkLoop.checkingDuration ∧
      ∀ e ∈ e₀ :: post, e.before = .checking ∧ e.after = .checking

namespace CheckingSince

variable {s : System}

/-- An event logged no later than a clock that does not go back keeps every event no
later than the clock. -/
theorem clock_append (h : CheckingSince s) {now : Int} (hnow : s.clock ≤ now) (e : LogEntry)
    (he : e.time ≤ now) : ∀ x ∈ s.log ++ [e], x.time ≤ now :=
  List.forall_mem_append.mpr ⟨fun x hx => Int.le_trans (h.clock x hx) hnow, List.forall_mem_singleton.mpr he⟩

/-- A tick keeps `CheckingSince`: it restarts the timer at its own first reading, or
extends the run of ticks that found Checking. -/
theorem tick (h : CheckingSince s) (cc : ContactCandidates) {now₁ now₂ : Int} (hnow : s.clock ≤ now₁)
    (h₁₂ : now₁ ≤ now₂) : CheckingSince (s.tick cc now₁ now₂) := by
  refine ⟨h.clock_append (Int.le_trans hnow h₁₂) _ h₁₂, fun hlast => ?_⟩
  rw [System.tick_lastConnectionState] at hlast
  have hc := s.checking_of_tick cc now₁ now₂ hlast
  obtain ⟨hcd, -⟩ := s.tick_of_checking cc now₁ now₂ hc
  rw [System.tick_ticks, hlast, hc, hcd]
  by_cases hl : s.checkLoop.lastConnectionState = .checking
  · obtain ⟨pre, e₀, post, hpre, htime, hall⟩ := h.since hl
    refine ⟨pre, e₀, post ++ [⟨now₁, true, .checking, .checking⟩], by rw [hpre]; simp,
      by simp [hl, htime], ?_⟩
    rw [← List.cons_append, List.forall_mem_append, List.forall_mem_singleton]
    exact ⟨hall, rfl, rfl⟩
  · exact ⟨s.ticks, _, [], rfl, by simp [hl], by simp⟩

/-- Another task keeps `CheckingSince`: it logs no tick and leaves the timer alone. -/
theorem task (h : CheckingSince s) (a' : Agent) {now : Int} (hnow : s.clock ≤ now) :
    CheckingSince (s.task a' now) := by
  refine ⟨h.clock_append hnow _ (Int.le_refl now), fun hlast => ?_⟩
  rw [System.task_ticks]
  exact h.since hlast

end CheckingSince

/-- `i` is the least non-zero duration of `xs`, or zero when all of `xs` are zero. -/
structure LeastNonZero (i : Duration) (xs : List Duration) : Prop where
  mem : i ∈ xs
  zero : i.ns = 0 ↔ ∀ x ∈ xs, x.ns = 0
  le : ∀ x ∈ xs, x.ns ≠ 0 → i.ns ≤ x.ns

/-- A single duration is the least non-zero one of itself. -/
theorem LeastNonZero.singleton (d : Duration) : LeastNonZero d [d] :=
  ⟨List.mem_singleton_self d, by simp, by simp⟩

/-- `updateInterval` keeps the interval the least non-zero duration it has seen. -/
theorem LeastNonZero.updateInterval {i : Duration} {xs : List Duration} (h : LeastNonZero i xs)
    (x : Duration) : LeastNonZero (updateInterval i x) (xs ++ [x]) := by
  have hmem : ∀ y, y ∈ xs ++ [x] ↔ y ∈ xs ∨ y = x := by simp
  unfold IceAgent.updateInterval
  split_ifs with hx
  · rw [Duration.lt_iff] at hx
    refine ⟨by simp, iff_of_false hx.1 fun hall => hx.1 (hall x (by simp)), fun y hy hy0 => ?_⟩
    rcases (hmem y).mp hy with hy | rfl
    · have := h.le y hy hy0
      have : i.ns ≠ 0 := fun hi => hy0 (h.zero.mp hi y hy)
      omega
    · exact Int.le_refl _
  · rw [Duration.lt_iff] at hx
    refine ⟨List.mem_append_left _ h.mem, ⟨fun hi y hy => ?_, fun hall => h.zero.mpr fun y hy =>
      hall y (List.mem_append_left _ hy)⟩, fun y hy hy0 => ?_⟩
    · rcases (hmem y).mp hy with hy | rfl
      · exact h.zero.mp hi y hy
      · omega
    · rcases (hmem y).mp hy with hy | rfl
      · exact h.le y hy hy0
      · omega

/-- For every agent, default interval and state the check loop saw last, the timer
interval `connectivityChecks` waits is the least non-zero of the default keepalive
interval, the state's rate (`checkInterval` while New or Checking, `keepaliveInterval`
while Connected or Disconnected), `disconnectedTimeout` and `failedTimeout`, and zero
only when all of them are: with positive settings the loop wakes at least as often as
each of them asks. -/
theorem connectivityChecksInterval_least_nonzero (d : Duration) (a : Agent) (s : ConnectionState) :
    LeastNonZero (connectivityChecksInterval d a s)
      (d :: (match s with
        | .new | .checking => [a.checkInterval]
        | .connected | .disconnected => [a.keepaliveInterval]
        | _ => []) ++ [a.disconnectedTimeout, a.failedTimeout]) := by
  have h₂ : ∀ x, LeastNonZero (connectivityChecksInterval d a s) ([d] ++ x ++ [a.disconnectedTimeout] ++
      [a.failedTimeout]) ↔ LeastNonZero (connectivityChecksInterval d a s)
        (d :: x ++ [a.disconnectedTimeout, a.failedTimeout]) := fun x => by simp
  cases s
  case unknown | failed | closed =>
    exact (h₂ []).mp (((LeastNonZero.singleton d).updateInterval _).updateInterval _)
  all_goals
    exact (h₂ [_]).mp ((((LeastNonZero.singleton d).updateInterval _).updateInterval _).updateInterval _)

/-! ## Runs of the check loop -/

/-- The library's default timeouts: `disconnectedTimeout` 5 s, `failedTimeout` 25 s. -/
def defaultTimeoutConfig : AgentConfig :=
  { udpConfig with
    disconnectedTimeout := Duration.ofNat 5000000000
    failedTimeout := Duration.ofNat 25000000000 }

/-- With `failedTimeout` zero, `validateSelectedPair` never moves to Failed. -/
theorem validateSelectedPair_not_failed (a : Agent) (now : Int) (h : a.failedTimeout.ns = 0)
    (hf : (a.validateSelectedPair now).1.connectionState = .failed) : a.connectionState = .failed := by
  unfold validateSelectedPair at hf
  split at hf
  · exact hf
  · rw [updateConnectionState_connectionState] at hf
    unfold validatedState at hf
    split_ifs at hf <;> simp_all

/-- `disconnectedTimeout` 5 s and `failedTimeout` zero. -/
def zeroFailedConfig : AgentConfig :=
  { udpConfig with disconnectedTimeout := Duration.ofNat 5000000000 }

/-- Checking entered at time 0 and seen by a tick at 0. -/
def zeroFailedChecking : System :=
  ((System.init zeroFailedConfig 0).task
    ((newAgent zeroFailedConfig).startConnectivityChecks true "ru" "rp") 0).tick .idle 0 0

/-- With `failedTimeout` zero, `validateSelectedPair` never moves to Failed, but the
tick 5 s + 1 ns after Checking was seen does. -/
theorem zeroFailedTimeout_tick_fails :
    (∀ (a : Agent) (now : Int), a.failedTimeout.ns = 0 →
      (a.validateSelectedPair now).1.connectionState = .failed → a.connectionState = .failed) ∧
    TimedReachable (Duration.ofNat 4000000000) zeroFailedChecking ∧
    zeroFailedChecking.agent.failedTimeout.ns = 0 ∧
    zeroFailedChecking.agent.connectionState = .checking ∧
    (zeroFailedChecking.tick .idle 5000000001 5000000001).agent.connectionState = .failed :=
  ⟨validateSelectedPair_not_failed,
    .step (.step (.init zeroFailedConfig 0)
      (.task _ _ 0 (Int.le_refl _) (.startConnectivityChecks _ true "ru" "rp" (by decide))))
      (.tick _ .idle 0 0 (Int.le_refl _) (Int.le_refl _) (by decide)),
    by decide, by decide, by decide⟩

end IceAgent.Analysis
