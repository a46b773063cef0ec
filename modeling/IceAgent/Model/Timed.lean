import IceAgent.Model.Loop

/-!
# The check loop beside the task loop

`connectivityChecks` (agent.go:426-499) is a goroutine started by
`startConnectivityChecks`. At each tick of its timer it submits the `contact`
closure as a task, and the closure's two variables live across ticks. Between two
ticks the task loop runs any other tasks. A timed run interleaves the two: every
event has a time, the times do not decrease, a tick threads the closure's
variables, and a task leaves them alone. A tick reads the clock twice, as the closure
does in Checking: first `time.Now()`, then `time.Since`.

The system keeps a ghost log of its events: the time (for a tick, its first reading),
whether it was a tick, and the connection state before and after. It is what the
timing statements are about.

The selector's `ContactCandidates` runs inside a tick. It is not among the sources;
a tick takes it as a function of the agent that leaves the agent in Checking exactly
when it found it there: only `startConnectivityChecks` and `Restart` move to
Checking, and the selector calls neither; the selector changes the state only through
`validateSelectedPair`, which returns at once when no pair is selected, as in
Checking (`SelectedPairOk`).
-/

set_option autoImplicit false

namespace IceAgent

/-- The selector's `ContactCandidates`, as what it does to the agent. -/
structure ContactCandidates where
  run : Agent → Agent
  checking : ∀ a, (run a).connectionState = .checking ↔ a.connectionState = .checking

/-- A `ContactCandidates` that changes nothing. -/
def ContactCandidates.idle : ContactCandidates := ⟨id, fun _ => Iff.rfl⟩

/-- What the ghost log keeps of one event. -/
structure LogEntry where
  time : Int
  tick : Bool
  before : ConnectionState
  after : ConnectionState
deriving DecidableEq, Repr

/-- The agent, the variables of its check loop, the time of the last event, and the
ghost log of the events. -/
structure System where
  agent : Agent
  checkLoop : CheckLoop
  clock : Int
  log : List LogEntry

namespace System

/-- The system `NewAgent` starts, at time `start`. -/
def init (cfg : AgentConfig) (start : Int) : System := ⟨newAgent cfg, CheckLoop.init, start, []⟩

/-- A tick: the `contact` closure runs as a task, reading the clock at `now₁` and then at
`now₂`. Its log entry carries `now₁`, and the clock moves on to `now₂`. -/
def tick (s : System) (cc : ContactCandidates) (now₁ now₂ : Int) : System :=
  let r := contact cc.run s.agent s.checkLoop now₁ now₂
  ⟨r.1, r.2, now₂, s.log ++ [⟨now₁, true, s.agent.connectionState, r.1.connectionState⟩]⟩

/-- Another task at `now`, leaving the agent `a'`. -/
def task (s : System) (a' : Agent) (now : Int) : System :=
  ⟨a', s.checkLoop, now, s.log ++ [⟨now, false, s.agent.connectionState, a'.connectionState⟩]⟩

/-- The ticks of the log. -/
def ticks (s : System) : List LogEntry := s.log.filter (·.tick)

end System

/-- One event of a timed run. A tick needs the check loop, which
`startConnectivityChecks` starts. -/
inductive TimedStep (maxBindingRequestTimeout : Duration) : System → System → Prop
  | tick (s : System) (cc : ContactCandidates) (now₁ now₂ : Int) (hnow : s.clock ≤ now₁)
      (h₁₂ : now₁ ≤ now₂) (h : s.agent.started = true) :
      TimedStep maxBindingRequestTimeout s (s.tick cc now₁ now₂)
  | task (s : System) (a' : Agent) (now : Int) (hnow : s.clock ≤ now)
      (ht : LoopTask maxBindingRequestTimeout s.agent a') :
      TimedStep maxBindingRequestTimeout s (s.task a' now)

/-- The systems a timed run reaches. -/
inductive TimedReachable (maxBindingRequestTimeout : Duration) : System → Prop
  | init (cfg : AgentConfig) (start : Int) : TimedReachable maxBindingRequestTimeout (System.init cfg start)
  | step {s s' : System} : TimedReachable maxBindingRequestTimeout s →
      TimedStep maxBindingRequestTimeout s s' → TimedReachable maxBindingRequestTimeout s'

/-- A property of every initial system that every timed step preserves holds in every
reachable system. -/
theorem TimedReachable.invariant {T : Duration} {P : System → Prop}
    (h₀ : ∀ cfg start, P (System.init cfg start))
    (hstep : ∀ s s', P s → TimedStep T s s' → P s') {s : System} (h : TimedReachable T s) : P s := by
  induction h with
  | init cfg start => exact h₀ cfg start
  | step _ ht ih => exact hstep _ _ ih ht

end IceAgent
