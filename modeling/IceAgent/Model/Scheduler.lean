import IceAgent.Model.Loop

/-!
# Callers of `run`, the task loop and `Close`

`run(ctx, t)` (agent.go:197-209) checks `ok()`, then selects between `ctx.Done()`
and handing `{t, done}` to the task loop, and after the hand-over waits on `done`.
The task loop (agent.go:212-251) selects between `a.done` and receiving a task; it runs
a task it received to completion and closes its `done`. `close` (agent.go:933-961)
checks `ok()`, stores `ErrClosed`, closes `a.done` and waits on `taskLoopDone`, which
the loop closes after its deferred shutdown.

Each of these is a sequence of atomic steps, and a run is any interleaving of the
steps of any number of callers, closers, the loop and the owners of the callers'
contexts. Go's `select` takes any case that is ready, so a caller whose context is
done can still hand its task to a loop that is waiting for one, and the loop can
still take a task after `a.done` is closed.

Caller `i` runs `calls.task i` under the context `calls.ctx i`: the gathering
context, which `Restart` cancels (`gatherCandidateCancelled`), or a context of its
own, which its owner may cancel at any time. Ghost fields record, for each caller,
how many times its task ran and whether its context was done and the agent closed
when it called `run`.
-/

set_option autoImplicit false

namespace IceAgent

/-- What `run` returns: nil, `ctx.Err()`, or the error `ok()` reports once closed. -/
inductive RunResult
  | nil
  | ctxErr
  | closed
deriving DecidableEq, Repr

/-- Where a call of `run` is: not called, `ok()` next, in the select between
`ctx.Done()` and the hand-over, handed over and waiting on `done`, or returned. -/
inductive RunPhase
  | idle
  | calling
  | selecting
  | waiting
  | returned (result : RunResult)
deriving DecidableEq, Repr

/-- A call of `run` with its ghost record. -/
structure RunCall where
  phase : RunPhase
  taskDone : Bool
  executed : Nat
  ctxDoneAtCall : Bool
  closedAtCall : Bool
deriving DecidableEq, Repr

/-- A caller that has not called `run` yet. -/
def RunCall.idle : RunCall := ⟨.idle, false, 0, false, false⟩

/-- Where a call of `close` is: not called, `ok()` next, `close(a.done)` next,
waiting on `taskLoopDone`, returned, or panicked because `close(a.done)` found the
channel closed. -/
inductive ClosePhase
  | idle
  | calling
  | closing
  | waiting
  | returned
  | panicked
deriving DecidableEq, Repr

/-- Where the task loop is: in its select between `a.done` and a task, running caller
`i`'s task, or exited after its deferred shutdown (`taskLoopDone` closed). -/
inductive LoopPhase
  | receiving
  | running (i : Nat)
  | exited
deriving DecidableEq, Repr

/-- The context a caller runs under: the gathering context `Restart` cancels, or one
of the caller's own. -/
inductive Ctx
  | gathering
  | own
deriving DecidableEq, Repr

/-- The callers: the task each hands to `run`, and its context. -/
structure Calls where
  task : Nat → Agent → Agent
  ctx : Nat → Ctx

/-- The agent, the loop, `a.done`, the callers' own contexts, the calls of `run` and
the calls of `close`. -/
structure Sched where
  agent : Agent
  loop : LoopPhase
  done : Bool
  cancelled : Nat → Bool
  runs : Nat → RunCall
  closes : Nat → ClosePhase

namespace Sched

/-- The agent `NewAgent` returns, with its task loop started. -/
def init (a : Agent) : Sched :=
  ⟨a, .receiving, false, fun _ => false, fun _ => RunCall.idle, fun _ => .idle⟩

/-- Whether caller `i`'s context is done. -/
def ctxDone (calls : Calls) (s : Sched) (i : Nat) : Bool :=
  match calls.ctx i with
  | .gathering => s.agent.gatherCandidateCancelled
  | .own => s.cancelled i

/-- `s` with caller `i`'s call replaced by `r`. -/
def setRun (s : Sched) (i : Nat) (r : RunCall) : Sched :=
  { s with runs := Function.update s.runs i r }

/-- `s` with closer `j` in phase `p`. -/
def setClose (s : Sched) (j : Nat) (p : ClosePhase) : Sched :=
  { s with closes := Function.update s.closes j p }

variable (calls : Calls) (s : Sched) (i j : Nat)

/-- Caller `i` calls `run`. -/
def call : Sched :=
  s.setRun i { s.runs i with
    phase := .calling, ctxDoneAtCall := s.ctxDone calls i, closedAtCall := s.done }

/-- `ok()`: a closed agent returns the close error. -/
def ok : Sched :=
  s.setRun i { s.runs i with phase := if s.done then .returned .closed else .selecting }

/-- The select takes `ctx.Done()`. -/
def ctxReturn : Sched := s.setRun i { s.runs i with phase := .returned .ctxErr }

/-- The select hands the task to the loop. -/
def send : Sched := { s.setRun i { s.runs i with phase := .waiting } with loop := .running i }

/-- The loop runs caller `i`'s task to completion and closes its `done`. -/
def exec : Sched :=
  { s.setRun i { s.runs i with taskDone := true, executed := (s.runs i).executed + 1 } with
    agent := calls.task i s.agent, loop := .receiving }

/-- `<-done` returns and `run` returns nil. -/
def finish : Sched := s.setRun i { s.runs i with phase := .returned .nil }

/-- The owner of caller `i`'s own context cancels it. -/
def cancel : Sched := { s with cancelled := Function.update s.cancelled i true }

/-- The loop's select takes `a.done`: the deferred shutdown runs. -/
def exit : Sched := { s with agent := s.agent.shutdown, loop := .exited }

/-- Closer `j` calls `close`. -/
def closeCall : Sched := s.setClose j .calling

/-- `ok()` in `close`: on a closed agent the error is `ErrClosed`, and `close` returns nil. -/
def closeOk : Sched := s.setClose j (if s.done then .returned else .closing)

/-- `close(a.done)`, which panics on a closed channel. -/
def closeDone : Sched :=
  if s.done then s.setClose j .panicked else { s.setClose j .waiting with done := true }

/-- `<-a.taskLoopDone` returns; the notifiers are closed and `close` returns nil. -/
def closeReturn : Sched := s.setClose j .returned

end Sched

/-- One atomic step of a caller, the loop, a closer or a context's owner, when its
guard holds: the phase it starts from, and for the loop's steps what its select
waits on. -/
inductive SchedStep (calls : Calls) : Sched → Sched → Prop
  | call (s : Sched) (i : Nat) (h : (s.runs i).phase = .idle) : SchedStep calls s (s.call calls i)
  | ok (s : Sched) (i : Nat) (h : (s.runs i).phase = .calling) : SchedStep calls s (s.ok i)
  | ctxReturn (s : Sched) (i : Nat) (h : (s.runs i).phase = .selecting)
      (hc : s.ctxDone calls i = true) : SchedStep calls s (s.ctxReturn i)
  | send (s : Sched) (i : Nat) (h : (s.runs i).phase = .selecting) (hl : s.loop = .receiving) :
      SchedStep calls s (s.send i)
  | exec (s : Sched) (i : Nat) (hl : s.loop = .running i) : SchedStep calls s (s.exec calls i)
  | finish (s : Sched) (i : Nat) (h : (s.runs i).phase = .waiting) (hd : (s.runs i).taskDone = true) :
      SchedStep calls s (s.finish i)
  | cancel (s : Sched) (i : Nat) : SchedStep calls s (s.cancel i)
  | exit (s : Sched) (hl : s.loop = .receiving) (hd : s.done = true) : SchedStep calls s s.exit
  | closeCall (s : Sched) (j : Nat) (h : s.closes j = .idle) : SchedStep calls s (s.closeCall j)
  | closeOk (s : Sched) (j : Nat) (h : s.closes j = .calling) : SchedStep calls s (s.closeOk j)
  | closeDone (s : Sched) (j : Nat) (h : s.closes j = .closing) : SchedStep calls s (s.closeDone j)
  | closeReturn (s : Sched) (j : Nat) (h : s.closes j = .waiting) (hl : s.loop = .exited) :
      SchedStep calls s (s.closeReturn j)

/-- The states an interleaving reaches from `NewAgent`'s agent `a`. -/
inductive SchedReachable (calls : Calls) (a : Agent) : Sched → Prop
  | init : SchedReachable calls a (Sched.init a)
  | step {s s' : Sched} : SchedReachable calls a s → SchedStep calls s s' → SchedReachable calls a s'

/-- A property of the initial state that every scheduler step preserves holds in every
reachable state. -/
theorem SchedReachable.invariant {calls : Calls} {a : Agent} {P : Sched → Prop} (h₀ : P (Sched.init a))
    (hstep : ∀ s s', P s → SchedStep calls s s' → P s') {s : Sched} (h : SchedReachable calls a s) :
    P s := by
  induction h with
  | init => exact h₀
  | step _ ht ih => exact hstep _ _ ih ht

end IceAgent
