import IceAgent.Model.Agent

/-!
# The connectivity-check loop

`connectivityChecks` (agent.go:426-499) runs beside the task loop. At each timer tick,
or when `forceCandidateContact` fires, it submits the `contact` closure as a task.
The closure keeps two variables across ticks: the connection state it saw at the end
of the previous closure (`lastConnectionState`), and the time it last saw Checking
entered (`checkingDuration`). In Checking the closure reads the clock twice: once with
`time.Now()` when it restarts the timer, and once more with `time.Since` when it
compares; the two readings are `now₁ ≤ now₂`. The selector's `ContactCandidates` is
not among the sources; it is a parameter, a function of the agent state.
-/

set_option autoImplicit false

namespace IceAgent

/-- The variables the `contact` closure keeps across ticks. -/
structure CheckLoop where
  lastConnectionState : ConnectionState
  checkingDuration : Int
deriving DecidableEq, Repr

/-- The variables as `connectivityChecks` starts them: `ConnectionState(0)` and the
zero time, which is overwritten before it is read. -/
def CheckLoop.init : CheckLoop := ⟨.unknown, 0⟩

/-- The `contact` closure (agent.go:430-459) run as a task, with the selector's
`ContactCandidates` as `contactCandidates`: `now₁` is the reading of `time.Now()` that
restarts the timer (agent.go:444), and `now₂` the reading `time.Since` compares with
(agent.go:448). The deferred assignment of `lastConnectionState` reads the state the
closure leaves. -/
def contact (contactCandidates : Agent → Agent) (a : Agent) (cl : CheckLoop) (now₁ now₂ : Int) :
    Agent × CheckLoop :=
  let (a, cl) : Agent × CheckLoop := match a.connectionState with
    | .failed => (a, cl)
    | .checking =>
      let cl := if cl.lastConnectionState ≠ a.connectionState then
        { cl with checkingDuration := now₁ } else cl
      if a.disconnectedTimeout.add a.failedTimeout < Time.sub now₂ cl.checkingDuration then
        (a.updateConnectionState .failed, cl)
      else (contactCandidates a, cl)
    | _ => (contactCandidates a, cl)
  (a, { cl with lastConnectionState := a.connectionState })

section
variable (contactCandidates : Agent → Agent) (a : Agent) (cl : CheckLoop) (now₁ now₂ : Int)

/-- In Failed the closure does nothing but record the state. -/
theorem contact_of_failed (h : a.connectionState = .failed) :
    contact contactCandidates a cl now₁ now₂ = (a, { cl with lastConnectionState := .failed }) := by
  simp [contact, h]

/-- In Checking the closure restarts the timer at `now₁` when it last saw another state,
and moves to Failed once the timer, read at `now₂`, passes `disconnectedTimeout +
failedTimeout`. -/
theorem contact_of_checking (h : a.connectionState = .checking) :
    contact contactCandidates a cl now₁ now₂ =
      let checkingDuration := if cl.lastConnectionState = .checking then cl.checkingDuration else now₁
      let a' := if a.disconnectedTimeout.add a.failedTimeout < Time.sub now₂ checkingDuration then
        a.updateConnectionState .failed else contactCandidates a
      (a', ⟨a'.connectionState, checkingDuration⟩) := by
  simp only [contact, h]
  by_cases hl : cl.lastConnectionState = .checking <;> simp [hl] <;> split <;> simp

/-- In every other state the closure runs the selector's `ContactCandidates`. -/
theorem contact_of_other (h₁ : a.connectionState ≠ .failed) (h₂ : a.connectionState ≠ .checking) :
    contact contactCandidates a cl now₁ now₂ =
      (contactCandidates a, { cl with lastConnectionState := (contactCandidates a).connectionState }) := by
  unfold contact
  split
  simp_all

end

/-- The `updateInterval` closure of `connectivityChecks` (agent.go:467-471): `x` replaces
the interval when it is non-zero and the interval is zero or longer. -/
def updateInterval (interval x : Duration) : Duration :=
  if x.ns ≠ 0 ∧ (interval.ns = 0 ∨ x < interval) then x else interval

/-- The timer interval `connectivityChecks` computes before each wait
(agent.go:465-482): the smallest non-zero of the state's rate, `disconnectedTimeout`
and `failedTimeout`, starting from `defaultKeepaliveInterval` (not among the sources,
so a parameter). -/
def connectivityChecksInterval (defaultKeepaliveInterval : Duration) (a : Agent)
    (lastConnectionState : ConnectionState) : Duration :=
  let interval := match lastConnectionState with
    | .new | .checking => updateInterval defaultKeepaliveInterval a.checkInterval
    | .connected | .disconnected => updateInterval defaultKeepaliveInterval a.keepaliveInterval
    | _ => defaultKeepaliveInterval
  updateInterval (updateInterval interval a.disconnectedTimeout) a.failedTimeout

end IceAgent
