import IceAgent.Analysis.CheckLoop

/-!
# The two timeouts as exact sums

`validateSelectedPair` (agent.go:612-636) and the Checking timeout of the check loop
(agent.go:441-451) both compare an elapsed time against `disconnectedTimeout +
failedTimeout`, computed in Go's int64 `time.Duration`. While the exact sum of the two
timeouts is below `2^63` the sum is exact, so `validateSelectedPair` picks Failed,
Disconnected or Connected by comparing the elapsed time with `D + F` and with `D`
(`validatedState_exact`), and the Checking timeout fires exactly after `D + F`
(`tick_failed_iff`). Whatever the timeouts, the state picked only grows with the
elapsed time (`validatedState_mono`).

Past `2^63` the sum wraps to a negative duration, which every elapsed time exceeds:
with `failedTimeout` at `math.MaxInt64`, a setting that reads as "never fail",
`validateSelectedPair` moves to Failed one second after the last packet
(`neverFailAgent`), and the first tick in Checking moves to Failed with no time spent
checking (`neverFailChecking`).
-/

set_option autoImplicit false

namespace IceAgent.Analysis

open Agent

section exact

variable (a : Agent)

/-- With non-negative timeouts whose exact sum is in range, `validateSelectedPair`
compares the elapsed time with `D + F` and with `D` as integers. -/
theorem validatedState_exact (hD : 0 ≤ a.disconnectedTimeout.ns) (hF : 0 ≤ a.failedTimeout.ns)
    (hsum : a.disconnectedTimeout.ns + a.failedTimeout.ns < 2 ^ 63) (e : Duration) :
    a.validatedState e =
      if a.failedTimeout.ns ≠ 0 ∧ a.disconnectedTimeout.ns + a.failedTimeout.ns < e.ns then .failed
      else if a.disconnectedTimeout.ns ≠ 0 ∧ a.disconnectedTimeout.ns < e.ns then .disconnected
      else .connected := by
  have hadd := Duration.add_ns_of_lt a.failedTimeout a.disconnectedTimeout (by omega) (by omega)
  unfold validatedState
  by_cases hF0 : a.failedTimeout.ns = 0
  · simp [hF0, Duration.lt_iff]
  · have hne : a.disconnectedTimeout.ns + a.failedTimeout.ns ≠ 0 := by omega
    simp only [hF0, Duration.lt_iff, hadd, Int.add_comm a.failedTimeout.ns, hne, ne_eq,
      not_false_eq_true, if_true, true_and]

/-- The state `validateSelectedPair` picks never goes down as the elapsed time grows:
Failed stays Failed, and Disconnected does not fall back to Connected. -/
theorem validatedState_mono {e e' : Duration} (h : e.ns ≤ e'.ns) :
    (a.validatedState e = .failed → a.validatedState e' = .failed) ∧
      (a.validatedState e = .disconnected → a.validatedState e' ≠ .connected) := by
  unfold validatedState
  simp only [Duration.lt_iff]
  constructor <;> intro he <;> split_ifs at he ⊢ <;> simp_all <;> omega

/-- `validateSelectedPair` moves the agent to the state `validatedState` picks for the
time since the selected pair's remote was last heard. -/
theorem validateSelectedPair_connectionState (now : Int) {p : CandidatePair}
    (hp : a.getSelectedPair = some p) :
    (a.validateSelectedPair now).1.connectionState =
      a.validatedState (since now (a.lastReceived p.Remote)) := by
  simp [validateSelectedPair, hp]

end exact

/-- A tick that finds Checking moves to Failed exactly when the time spent checking, up
to the tick's second clock reading, exceeds `D + F`, when the timeouts are non-negative
and their exact sum is in range. -/
theorem tick_failed_iff (s : System) (cc : ContactCandidates) (now₁ now₂ : Int)
    (hc : s.agent.connectionState = .checking) (hD : 0 ≤ s.agent.disconnectedTimeout.ns)
    (hF : 0 ≤ s.agent.failedTimeout.ns)
    (hsum : s.agent.disconnectedTimeout.ns + s.agent.failedTimeout.ns < 2 ^ 63) :
    (s.tick cc now₁ now₂).agent.connectionState = .failed ↔
      s.agent.disconnectedTimeout.ns + s.agent.failedTimeout.ns <
        (Time.sub now₂ (s.tick cc now₁ now₂).checkLoop.checkingDuration).ns := by
  obtain ⟨hcd, hagent⟩ := s.tick_of_checking cc now₁ now₂ hc
  have hadd := Duration.add_ns_of_lt s.agent.disconnectedTimeout s.agent.failedTimeout hsum (by omega)
  rw [← hcd] at hagent
  rw [hagent]
  simp only [Duration.lt_iff, hadd]
  split
  · simp_all
  · simp_all [(cc.checking s.agent).mpr hc]

/-! ## Timeouts whose sum wraps -/

/-- `disconnectedTimeout` 5 s and `failedTimeout` `math.MaxInt64`. -/
def neverFailConfig : AgentConfig :=
  { udpConfig with
    disconnectedTimeout := Duration.ofNat 5000000000
    failedTimeout := Duration.ofNat 9223372036854775807 }

/-- A pair selected on an agent with these timeouts, its remote last heard at time 0. -/
def neverFailAgent : Agent :=
  (((((newAgent neverFailConfig).startConnectivityChecks true "ru" "rp").addCandidate
    (hostCandidate .udp4 .unspecified "10.0.0.1" 5000)).addRemoteCandidate noEnv
    (hostCandidate .udp4 .unspecified "10.0.0.2" 5000)).setSelectedPair (some 0)).seen
    (hostCandidate .udp4 .unspecified "10.0.0.2" 5000) 0

/-- Checking entered at time 0 with these timeouts, before the first tick. -/
def neverFailChecking : System :=
  (System.init neverFailConfig 0).task
    ((newAgent neverFailConfig).startConnectivityChecks true "ru" "rp") 0

set_option maxRecDepth 8000 in
/-- While the exact sum `D + F` of non-negative timeouts is below `2^63`,
`validateSelectedPair` moves to Failed exactly when `F ≠ 0` and the time since the
remote was last heard exceeds `D + F`, to Disconnected exactly when not that and
`D ≠ 0` and it exceeds `D`, and to Connected otherwise; the state picked only grows
with the elapsed time; and a tick finding Checking fires exactly when the time spent
checking exceeds `D + F`. With `failedTimeout` at `math.MaxInt64` the sum wraps: one
second after the remote was last heard `validateSelectedPair` moves to Failed although
one second is below `D`, and the first tick in Checking moves to Failed with no time
spent checking. -/
theorem timeouts_exact_unless_sum_wraps :
    (∀ (a : Agent) (now : Int) (p : CandidatePair), a.getSelectedPair = some p →
      0 ≤ a.disconnectedTimeout.ns → 0 ≤ a.failedTimeout.ns →
      a.disconnectedTimeout.ns + a.failedTimeout.ns < 2 ^ 63 →
      (a.validateSelectedPair now).1.connectionState =
        if a.failedTimeout.ns ≠ 0 ∧ a.disconnectedTimeout.ns + a.failedTimeout.ns <
            (since now (a.lastReceived p.Remote)).ns then .failed
        else if a.disconnectedTimeout.ns ≠ 0 ∧
            a.disconnectedTimeout.ns < (since now (a.lastReceived p.Remote)).ns then .disconnected
        else .connected) ∧
    (∀ (a : Agent) (e e' : Duration), e.ns ≤ e'.ns →
      (a.validatedState e = .failed → a.validatedState e' = .failed) ∧
        (a.validatedState e = .disconnected → a.validatedState e' ≠ .connected)) ∧
    (∀ (s : System) (cc : ContactCandidates) (now₁ now₂ : Int), s.agent.connectionState = .checking →
      0 ≤ s.agent.disconnectedTimeout.ns → 0 ≤ s.agent.failedTimeout.ns →
      s.agent.disconnectedTimeout.ns + s.agent.failedTimeout.ns < 2 ^ 63 →
      ((s.tick cc now₁ now₂).agent.connectionState = .failed ↔
        s.agent.disconnectedTimeout.ns + s.agent.failedTimeout.ns <
          (Time.sub now₂ (s.tick cc now₁ now₂).checkLoop.checkingDuration).ns)) ∧
    (neverFailAgent.getSelectedPair.map fun p =>
        (since 1000000000 (neverFailAgent.lastReceived p.Remote)).ns) = some 1000000000 ∧
    (1000000000 : Int) < neverFailAgent.disconnectedTimeout.ns ∧
    neverFailAgent.failedTimeout.ns ≠ 0 ∧
    (neverFailAgent.validateSelectedPair 1000000000).1.connectionState = .failed ∧
    TimedReachable (Duration.ofNat 4000000000) neverFailChecking ∧
    neverFailChecking.agent.connectionState = .checking ∧
    (Time.sub 0 (neverFailChecking.tick .idle 0 0).checkLoop.checkingDuration).ns = 0 ∧
    0 < neverFailChecking.agent.disconnectedTimeout.ns + neverFailChecking.agent.failedTimeout.ns ∧
    (neverFailChecking.tick .idle 0 0).agent.connectionState = .failed :=
  ⟨fun a now _ hp hD hF hsum => by
      rw [validateSelectedPair_connectionState a now hp, validatedState_exact a hD hF hsum],
    fun a _ _ h => validatedState_mono a h,
    fun s cc now₁ now₂ hc hD hF hsum => tick_failed_iff s cc now₁ now₂ hc hD hF hsum,
    by decide, by decide, by decide, by decide,
    .step (.init neverFailConfig 0)
      (.task _ _ 0 (Int.le_refl _) (.startConnectivityChecks _ true "ru" "rp" (by decide))),
    by decide, by decide, by decide, by decide⟩

end IceAgent.Analysis
