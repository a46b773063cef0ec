import IceAgent.Model.Scheduler
import IceAgent.Analysis.Candidates
import Mathlib.Logic.Relation

/-!
# What `run` and `Close` guarantee

A call of `run` hands its task over at most once and returns nil exactly when the
loop ran it: the loop takes one task at a time, runs it to completion and closes its
`done`, and `run` waits on that `done` before returning nil. A call made after the
agent closed never hands its task over, since `ok()` sees `a.done`. Each of these is a
field of `CallOk`, kept by every step of every interleaving.

A context that is already done does not stop the hand-over: `run`'s select may take
the send when the loop is waiting for a task (`restartRun`). So an `addCandidate` made
under the gathering context after `Restart`'s task cancelled it can still install its
candidate in the restarted session.

`close` checks `ok()` and closes `a.done` in two steps with nothing between them, so two
calls can both pass the check, and the second `close(a.done)` panics
(`doubleClose`).

The call of `close` that closes `a.done` then waits on `taskLoopDone`, so while the loop
still runs, some call of `close` is waiting for it (`CloseOk`); it returns only once the
loop has exited, and from then on the agent is Closed and no step of any caller changes
it or runs a task. A call of `close` whose `ok()` finds `a.done` closed returns nil at
once, without waiting: it can return while the loop still runs a task
(`earlyClose`).

Whatever the interleaving, the loop runs the callers' tasks one at a time, each to
completion: with callers whose tasks are loop tasks, the agent is always a state the
loop's runs reach, or the shutdown of one (`interleavings_run_loop_tasks`), so the
invariants of the loop's runs hold of it.
-/

set_option autoImplicit false

namespace IceAgent.Sched

variable (s : Sched) (i k : Nat) (r : RunCall)

/-- `setRun` sets the call's record. -/
@[simp] theorem setRun_runs_self : (s.setRun i r).runs i = r := Function.update_same _ _ _

/-- `setRun` leaves the other calls' records as they are. -/
theorem setRun_runs_of_ne {k i : Nat} (h : k ≠ i) : (s.setRun i r).runs k = s.runs k :=
  Function.update_noteq h _ _

/-- `setRun` leaves the loop as it is. -/
@[simp] theorem setRun_loop : (s.setRun i r).loop = s.loop := rfl

/-- `setRun` leaves the done channel as it is. -/
@[simp] theorem setRun_done : (s.setRun i r).done = s.done := rfl

/-- `setClose` leaves the `run` calls as they are. -/
@[simp] theorem setClose_runs (j : Nat) (p : ClosePhase) : (s.setClose j p).runs = s.runs := rfl

/-- `setClose` leaves the loop as it is. -/
@[simp] theorem setClose_loop (j : Nat) (p : ClosePhase) : (s.setClose j p).loop = s.loop := rfl

/-- `setClose` sets the call's phase. -/
@[simp] theorem setClose_closes_self (j : Nat) (p : ClosePhase) : (s.setClose j p).closes j = p :=
  Function.update_same _ _ _

/-- `setClose` leaves the other calls' phases as they are. -/
theorem setClose_closes_of_ne {j k : Nat} (p : ClosePhase) (h : k ≠ j) : (s.setClose j p).closes k = s.closes k :=
  Function.update_noteq h _ _

/-- A step of a call of `run` changes no call's count of runs of its task. -/
theorem setRun_executed {r : RunCall} (h : r.executed = (s.runs i).executed) (k : Nat) :
    ((s.setRun i r).runs k).executed = (s.runs k).executed := by
  by_cases hk : k = i
  · subst hk
    rw [setRun_runs_self, h]
  · rw [setRun_runs_of_ne _ _ hk]

end IceAgent.Sched

namespace IceAgent.Analysis

open Sched

/-- What a call of `run` has done, by its phase, given whether the loop is running its
task (`held`) and whether `a.done` is closed. -/
def CallOk (r : RunCall) (held done : Bool) : Prop :=
  match r.phase with
  | .idle | .calling =>
    r.executed = 0 ∧ held = false ∧ r.taskDone = false ∧ (r.closedAtCall = true → done = true)
  | .selecting => r.executed = 0 ∧ held = false ∧ r.taskDone = false ∧ r.closedAtCall = false
  | .waiting => r.closedAtCall = false ∧
    (held = true ∧ r.executed = 0 ∧ r.taskDone = false ∨ held = false ∧ r.executed = 1 ∧ r.taskDone = true)
  | .returned .nil => r.executed = 1 ∧ held = false ∧ r.closedAtCall = false
  | .returned _ => r.executed = 0 ∧ held = false

/-- Every call of `run` is `Ok`. -/
def RunsOk (s : Sched) : Prop := ∀ i, CallOk (s.runs i) (s.loop == .running i) s.done

namespace CallOk

variable {r : RunCall} {held done : Bool}

/-- Closing `a.done` keeps every call `Ok`. -/
theorem mono (h : CallOk r held done) {done' : Bool} (hd : done = true → done' = true) :
    CallOk r held done' := by
  unfold CallOk at h ⊢
  split at h
  all_goals first
    | exact ⟨h.1, h.2.1, h.2.2.1, fun hc => hd (h.2.2.2 hc)⟩
    | exact h

/-- A call whose task the loop is running is waiting for it, and its task has not run. -/
theorem of_held (h : CallOk r true done) :
    r.phase = .waiting ∧ r.closedAtCall = false ∧ r.executed = 0 := by
  unfold CallOk at h
  split at h <;> simp_all

end CallOk

/-- A step of another caller, of a closer or of a context's owner leaves caller `i`
`Ok`: it keeps `i`'s call, whether the loop runs `i`'s task, and closes no channel
it opened. -/
theorem callOk_frame {s s' : Sched} {i : Nat} (h : CallOk (s.runs i) (s.loop == .running i) s.done)
    (hr : s'.runs i = s.runs i) (hl : (s'.loop == .running i) = (s.loop == .running i))
    (hd : s.done = true → s'.done = true) : CallOk (s'.runs i) (s'.loop == .running i) s'.done := by
  rw [hr, hl]
  exact h.mono hd

/-- Every step keeps every call of `run` `Ok`. -/
theorem runsOk_step {calls : Calls} {s s' : Sched} (h : RunsOk s) (ht : SchedStep calls s s') :
    RunsOk s' := by
  intro i
  have hi := h i
  cases ht with
  | call j hj =>
    by_cases hij : i = j
    · subst hij
      simp only [CallOk, hj] at hi
      simp [call, CallOk, hi.1, hi.2.1, hi.2.2.1]
    · exact callOk_frame hi (setRun_runs_of_ne _ _ hij) rfl id
  | ok j hj =>
    by_cases hij : i = j
    · subst hij
      simp only [CallOk, hj] at hi
      obtain ⟨he, hl, ht, hc⟩ := hi
      by_cases hd : s.done = true
      · simp [ok, CallOk, hd, he, hl]
      · have hcl : (s.runs i).closedAtCall = false := Bool.eq_false_iff.mpr (mt hc hd)
        simp [ok, CallOk, hd, he, hl, ht, hcl]
    · exact callOk_frame hi (setRun_runs_of_ne _ _ hij) rfl id
  | ctxReturn j hj _ =>
    by_cases hij : i = j
    · subst hij
      simp only [CallOk, hj] at hi
      simp [ctxReturn, CallOk, hi.1, hi.2.1]
    · exact callOk_frame hi (setRun_runs_of_ne _ _ hij) rfl id
  | send j hj hl =>
    by_cases hij : i = j
    · subst hij
      simp only [CallOk, hj] at hi
      simp [send, CallOk, hi.1, hi.2.2.1, hi.2.2.2]
    · exact callOk_frame hi (setRun_runs_of_ne _ _ hij) (by simp [send, hl, Ne.symm hij]) id
  | exec j hl =>
    by_cases hij : i = j
    · subst hij
      rw [hl, beq_self_eq_true] at hi
      obtain ⟨hw, hc, he⟩ := hi.of_held
      simp [exec, CallOk, hw, hc, he]
    · exact callOk_frame hi (setRun_runs_of_ne _ _ hij) (by simp [exec, hl, Ne.symm hij]) id
  | finish j hj hd =>
    by_cases hij : i = j
    · subst hij
      simp only [CallOk, hj, hd] at hi
      simp_all [finish, CallOk]
    · exact callOk_frame hi (setRun_runs_of_ne _ _ hij) rfl id
  | cancel j => exact callOk_frame hi rfl rfl id
  | exit hl _ => exact callOk_frame hi rfl (by simp [exit, hl]) id
  | closeCall j _ => exact callOk_frame hi rfl rfl id
  | closeOk j _ => exact callOk_frame hi rfl rfl id
  | closeDone j _ =>
    unfold closeDone
    split
    · exact callOk_frame hi rfl rfl id
    · exact callOk_frame hi rfl rfl fun _ => rfl
  | closeReturn j _ _ => exact callOk_frame hi rfl rfl id

/-- In every interleaving every call of `run` is in a consistent phase. -/
theorem runsOk_reachable {calls : Calls} {a : Agent} {s : Sched} (h : SchedReachable calls a s) :
    RunsOk s :=
  h.invariant (fun _ => by simp [Sched.init, CallOk, RunCall.idle]) fun _ _ => runsOk_step

/-- In every interleaving, a call of `run` runs its task at most once; it returns nil
exactly when the task ran to completion; and a call made when the agent was already
closed never runs its task. -/
theorem run_at_most_once_nil_iff_executed {calls : Calls} {a : Agent} {s : Sched}
    (h : SchedReachable calls a s) (i : Nat) :
    (s.runs i).executed ≤ 1 ∧
      (∀ res, (s.runs i).phase = .returned res → (res = .nil ↔ (s.runs i).executed = 1)) ∧
      ((s.runs i).closedAtCall = true → (s.runs i).executed = 0) := by
  have hi := runsOk_reachable h i
  unfold CallOk at hi
  split at hi
  -- handed over: the loop still holds the task, or has run it
  case h_4 => rcases hi.2 with ⟨-, he, -⟩ | ⟨-, he, -⟩ <;> exact ⟨by omega, by simp_all, by simp_all⟩
  all_goals exact ⟨by omega, by simp_all, by simp_all⟩

/-! ## `Restart` and a cancelled gathering context -/

/-- Caller 0 runs `Restart`'s task under a context of its own; caller 1 runs
`addCandidate` for `c` under the gathering context. -/
def restartCalls (c : Candidate) : Calls :=
  ⟨fun i a => if i = 0 then a.restart "ufrag-restarted" "password-restarted" else a.addCandidate c,
    fun i => if i = 0 then .own else .gathering⟩

/-- An agent that is gathering. -/
def gatheringAgent : Agent := { newAgent udpConfig with gatheringState := .gathering }

/-- The local candidate the gatherer delivers late. -/
def lateCandidate : Candidate := hostCandidate .udp4 .unspecified "10.0.0.1" 5000

/-- `Restart`'s task runs and cancels the gathering context; then the gatherer calls
`addCandidate` under it, and the select hands the task to the waiting loop. -/
def restartRun : Sched :=
  let calls := restartCalls lateCandidate
  ((((((((((Sched.init gatheringAgent).call calls 0).ok 0).send 0).exec calls 0).finish 0).call calls 1).ok 1).send
    1).exec calls 1).finish 1

/-- `restartRun` is an interleaving of the two callers. -/
theorem restartRun_reachable : SchedReachable (restartCalls lateCandidate) gatheringAgent restartRun := by
  refine .step (.step (.step (.step (.step (.step (.step (.step (.step (.step .init
    (.call _ 0 rfl)) (.ok _ 0 rfl)) (.send _ 0 rfl rfl)) (.exec _ 0 rfl)) (.finish _ 0 rfl rfl))
    (.call _ 1 rfl)) (.ok _ 1 rfl)) (.send _ 1 rfl rfl)) (.exec _ 1 rfl)) (.finish _ 1 rfl rfl)

/-- In `restartRun`, an interleaving of the two callers, the gatherer's call runs its task
at most once and returns nil exactly when it ran it. -/
theorem run_at_most_once_nil_iff_executed_restartRun :
    SchedReachable (restartCalls lateCandidate) gatheringAgent restartRun ∧
      (restartRun.runs 1).executed ≤ 1 ∧
      (∀ res, (restartRun.runs 1).phase = .returned res → (res = .nil ↔ (restartRun.runs 1).executed = 1)) ∧
      ((restartRun.runs 1).closedAtCall = true → (restartRun.runs 1).executed = 0) :=
  ⟨restartRun_reachable, run_at_most_once_nil_iff_executed restartRun_reachable 1⟩

/-- The gathering context was done when the gatherer called `run`, yet its task ran,
`run` returned nil and the candidate is among the restarted session's locals. -/
theorem restartRun_installs_after_cancel :
    (restartRun.runs 1).ctxDoneAtCall = true ∧ (restartRun.runs 1).executed = 1 ∧
      (restartRun.runs 1).phase = .returned .nil ∧
      lateCandidate ∈ restartRun.agent.localCandidates .udp4 ∧
      ¬ ∀ (calls : Calls) (a : Agent) (s : Sched), SchedReachable calls a s →
        ∀ i, (s.runs i).ctxDoneAtCall = true → (s.runs i).executed = 0 := by
  refine ⟨by decide, by decide, by decide, by decide, fun h => ?_⟩
  have := h _ _ _ restartRun_reachable 1 (by decide)
  revert this
  decide

/-! ## Two calls of `Close` -/

/-- Callers that run nothing. -/
def idleCalls : Calls := ⟨fun _ => id, fun _ => .own⟩

/-- Two closers both pass `ok()` before either closes `a.done`. -/
def doubleClose : Sched :=
  (((((((Sched.init (newAgent udpConfig)).closeCall 0).closeCall 1).closeOk 0).closeOk 1).closeDone 0).closeDone 1)

/-- The second `close(a.done)` finds the channel closed: that call panics and never
returns. -/
theorem doubleClose_panics :
    SchedReachable idleCalls (newAgent udpConfig) doubleClose ∧ doubleClose.closes 0 = .waiting ∧
      doubleClose.closes 1 = .panicked :=
  ⟨.step (.step (.step (.step (.step (.step .init (.closeCall _ 0 rfl)) (.closeCall _ 1 rfl))
    (.closeOk _ 0 rfl)) (.closeOk _ 1 rfl)) (.closeDone _ 0 rfl)) (.closeDone _ 1 rfl),
    by decide, by decide⟩

/-! ## What `close` waits for -/

/-- What the calls of `close` have done: one that waits on `taskLoopDone` has closed
`a.done`; while `a.done` is closed and the loop has not exited, some call is waiting for
it; and once the loop has exited, `a.done` is closed and the agent is Closed. -/
structure CloseOk (s : Sched) : Prop where
  waiting : ∀ j, s.closes j = .waiting → s.done = true
  owed : s.done = true → s.loop ≠ .exited → ∃ j, s.closes j = .waiting
  exited : s.loop = .exited → s.done = true ∧ s.agent.connectionState = .closed

/-- After a step of closer `j` to a phase other than `waiting`, a waiting closer is
another one, and was waiting before. -/
theorem waiting_of_setClose {s : Sched} {j k : Nat} {p : ClosePhase} (hp : p ≠ .waiting)
    (hk : (s.setClose j p).closes k = .waiting) : k ≠ j ∧ s.closes k = .waiting := by
  by_cases hkj : k = j
  · subst hkj
    exact absurd ((setClose_closes_self s k p).symm.trans hk) hp
  · exact ⟨hkj, (setClose_closes_of_ne s p hkj).symm.trans hk⟩

namespace CloseOk

variable {s : Sched}

/-- A step that keeps the `close` calls, the done channel, the loop and the agent keeps the
invariant. -/
theorem of_frame {s' : Sched} (h : CloseOk s) (hc : s'.closes = s.closes) (hd : s'.done = s.done)
    (hl : s'.loop = s.loop) (ha : s'.agent = s.agent) : CloseOk s' := by
  obtain ⟨h₁, h₂, h₃⟩ := h
  exact ⟨hc ▸ hd ▸ h₁, hc ▸ hd ▸ hl ▸ h₂, hl ▸ hd ▸ ha ▸ h₃⟩

/-- A step of a call of `close` that neither starts nor ends a wait keeps the
invariant. -/
theorem setClose (h : CloseOk s) {j : Nat} {p : ClosePhase} (hp : p ≠ .waiting)
    (hj : s.closes j ≠ .waiting) : CloseOk (s.setClose j p) := by
  refine ⟨fun k hk => h.waiting k (waiting_of_setClose hp hk).2, fun hd hl => ?_, h.exited⟩
  obtain ⟨k, hk⟩ := h.owed hd hl
  have hkj : k ≠ j := fun e => hj (e ▸ hk)
  exact ⟨k, (setClose_closes_of_ne s p hkj).trans hk⟩

/-- The loop's steps from a select or a task keep the invariant. -/
theorem of_loop {s' : Sched} (h : CloseOk s) (hl : s.loop ≠ .exited) (hl' : s'.loop ≠ .exited)
    (hc : s'.closes = s.closes) (hd : s'.done = s.done) : CloseOk s' :=
  ⟨hc ▸ hd ▸ h.waiting, fun hd' _ => hc ▸ h.owed (hd ▸ hd') hl, fun he => absurd he hl'⟩

end CloseOk

/-- Every step keeps `CloseOk`. -/
theorem closeOk_step {calls : Calls} {s s' : Sched} (h : CloseOk s) (ht : SchedStep calls s s') :
    CloseOk s' := by
  cases ht with
  | call i _ => exact h.of_frame rfl rfl rfl rfl
  | ok i _ => exact h.of_frame rfl rfl rfl rfl
  | ctxReturn i _ _ => exact h.of_frame rfl rfl rfl rfl
  | send i _ hl => exact h.of_loop (by rw [hl]; exact nofun) nofun rfl rfl
  | exec i hl => exact h.of_loop (by rw [hl]; exact nofun) nofun rfl rfl
  | finish i _ _ => exact h.of_frame rfl rfl rfl rfl
  | cancel i => exact h.of_frame rfl rfl rfl rfl
  | exit _ hd => exact ⟨h.waiting, fun _ hl => absurd rfl hl, fun _ => ⟨hd, (Agent.shutdown_frame _).2.2⟩⟩
  | closeCall j hj => exact h.setClose nofun (by rw [hj]; exact nofun)
  | closeOk j hj =>
    refine h.setClose ?_ (by rw [hj]; exact nofun)
    split <;> exact nofun
  | closeDone j hj =>
    unfold closeDone
    split
    · exact h.setClose nofun (by rw [hj]; exact nofun)
    · refine ⟨fun _ _ => rfl, fun _ _ => ⟨j, Function.update_same _ _ _⟩, fun he => ?_⟩
      exact ⟨rfl, (h.exited he).2⟩
  | closeReturn j _ hl =>
    exact ⟨fun k hk => h.waiting k (waiting_of_setClose (p := .returned) nofun hk).2, fun _ hl' => absurd hl hl',
      h.exited⟩

/-- In every interleaving every call of `close` is in a consistent phase. -/
theorem closeOk_reachable {calls : Calls} {a : Agent} {s : Sched} (h : SchedReachable calls a s) :
    CloseOk s :=
  h.invariant ⟨fun _ => nofun, nofun, nofun⟩ fun _ _ => closeOk_step

/-- Once the loop has exited, no step changes the agent or runs a task. -/
theorem step_of_exited {calls : Calls} {s s' : Sched} (hl : s.loop = .exited) (ht : SchedStep calls s s') :
    s'.loop = .exited ∧ s'.agent = s.agent ∧ ∀ k, (s'.runs k).executed = (s.runs k).executed := by
  cases ht with
  | call i _ => exact ⟨hl, rfl, setRun_executed s i rfl⟩
  | ok i _ => exact ⟨hl, rfl, setRun_executed s i rfl⟩
  | ctxReturn i _ _ => exact ⟨hl, rfl, setRun_executed s i rfl⟩
  | send i _ hl' => exact absurd (hl.symm.trans hl') nofun
  | exec i hl' => exact absurd (hl.symm.trans hl') nofun
  | finish i _ _ => exact ⟨hl, rfl, setRun_executed s i rfl⟩
  | cancel i => exact ⟨hl, rfl, fun _ => rfl⟩
  | exit hl' _ => exact absurd (hl.symm.trans hl') nofun
  | closeCall j _ => exact ⟨hl, rfl, fun _ => rfl⟩
  | closeOk j _ => exact ⟨hl, rfl, fun _ => rfl⟩
  | closeDone j _ =>
    unfold closeDone
    split <;> exact ⟨hl, rfl, fun _ => rfl⟩
  | closeReturn j _ _ => exact ⟨hl, rfl, fun _ => rfl⟩

/-- Once the loop has exited, no run of later steps changes the agent or runs a task. -/
theorem run_of_exited {calls : Calls} {s s' : Sched} (hl : s.loop = .exited)
    (h : Relation.ReflTransGen (SchedStep calls) s s') :
    s'.loop = .exited ∧ s'.agent = s.agent ∧ ∀ k, (s'.runs k).executed = (s.runs k).executed := by
  induction h with
  | refl => exact ⟨hl, rfl, fun _ => rfl⟩
  | tail _ ht ih =>
    obtain ⟨h₁, h₂, h₃⟩ := step_of_exited ih.1 ht
    exact ⟨h₁, h₂.trans ih.2.1, fun k => (h₃ k).trans (ih.2.2 k)⟩

/-- A waiting call of `close` that a step of closer `k` leaves returned is closer `k`'s,
moved to `returned`. -/
theorem returned_of_setClose {s : Sched} {j k : Nat} {p : ClosePhase} (hj : s.closes j = .waiting)
    (hr : (s.setClose k p).closes j = .returned) : j = k ∧ p = .returned := by
  by_cases hjk : j = k
  · subst hjk
    exact ⟨rfl, (setClose_closes_self s j p).symm.trans hr⟩
  · rw [setClose_closes_of_ne s p hjk, hj] at hr
    cases hr

/-- In every interleaving: a call of `close` waiting on `taskLoopDone` has closed
`a.done`; while `a.done` is closed and the loop still runs, some call of `close` is
waiting for it; such a call returns only once the loop has exited and the agent is
Closed; and from then on no step of any caller, closer or context changes the agent or
runs a task. -/
theorem close_returns_after_shutdown {calls : Calls} {a : Agent} {s : Sched}
    (h : SchedReachable calls a s) :
    (∀ j, s.closes j = .waiting → s.done = true) ∧
    (s.done = true → s.loop ≠ .exited → ∃ j, s.closes j = .waiting) ∧
    (∀ s' j, SchedStep calls s s' → s.closes j = .waiting → s'.closes j = .returned →
      s'.loop = .exited ∧ s'.agent.connectionState = .closed) ∧
    (s.loop = .exited → s.agent.connectionState = .closed ∧
      ∀ s', Relation.ReflTransGen (SchedStep calls) s s' →
        s'.loop = .exited ∧ s'.agent = s.agent ∧ ∀ i, (s'.runs i).executed = (s.runs i).executed) := by
  have hok := closeOk_reachable h
  refine ⟨hok.waiting, hok.owed, fun s' j ht hj hr => ?_, fun hl => ⟨(hok.exited hl).2, fun _ => run_of_exited hl⟩⟩
  have hok' := closeOk_step hok ht
  cases ht
  case closeReturn k _ hl => exact ⟨hl, (hok'.exited hl).2⟩
  case closeCall k hk | closeOk k hk =>
    obtain ⟨rfl, -⟩ := returned_of_setClose hj hr
    exact absurd (hj.symm.trans hk) nofun
  case closeDone k hk =>
    unfold closeDone at hr
    split at hr <;> obtain ⟨rfl, -⟩ := returned_of_setClose hj hr <;> exact absurd (hj.symm.trans hk) nofun
  all_goals exact absurd (hj.symm.trans hr) nofun

/-- Caller 0 hands its task to the loop and closer 0 closes `a.done`; closer 1 then
finds `a.done` closed. -/
def earlyClose : Sched :=
  ((((((((Sched.init (newAgent udpConfig)).call idleCalls 0).ok 0).send 0).closeCall 0).closeOk 0).closeDone
    0).closeCall 1).closeOk 1

/-- The second call of `close` has returned nil while the loop still runs caller 0's
task and the agent is not Closed: it has not waited for the shutdown. -/
theorem close_returns_after_shutdown_earlyClose :
    SchedReachable idleCalls (newAgent udpConfig) earlyClose ∧ earlyClose.closes 0 = .waiting ∧
    earlyClose.closes 1 = .returned ∧ earlyClose.loop = .running 0 ∧
    earlyClose.agent.connectionState = .new ∧
    ((∀ j, earlyClose.closes j = .waiting → earlyClose.done = true) ∧
      (earlyClose.done = true → earlyClose.loop ≠ .exited → ∃ j, earlyClose.closes j = .waiting) ∧
      (∀ s' j, SchedStep idleCalls earlyClose s' → earlyClose.closes j = .waiting → s'.closes j = .returned →
        s'.loop = .exited ∧ s'.agent.connectionState = .closed) ∧
      (earlyClose.loop = .exited → earlyClose.agent.connectionState = .closed ∧
        ∀ s', Relation.ReflTransGen (SchedStep idleCalls) earlyClose s' →
          s'.loop = .exited ∧ s'.agent = earlyClose.agent ∧
            ∀ i, (s'.runs i).executed = (earlyClose.runs i).executed)) := by
  have hr : SchedReachable idleCalls (newAgent udpConfig) earlyClose :=
    .step (.step (.step (.step (.step (.step (.step (.step .init (.call _ 0 rfl)) (.ok _ 0 rfl))
      (.send _ 0 rfl rfl)) (.closeCall _ 0 rfl)) (.closeOk _ 0 rfl)) (.closeDone _ 0 rfl))
      (.closeCall _ 1 rfl)) (.closeOk _ 1 rfl)
  exact ⟨hr, by decide, by decide, by decide, by decide, close_returns_after_shutdown hr⟩

/-! ## Interleavings run the callers' tasks one at a time -/

/-- With callers whose tasks are loop tasks, from a state the loop's runs reach, the
agent of every interleaving is a state the loop's runs reach while the loop runs, and
the shutdown of one once it has exited: the loop runs the tasks one at a time, each to
completion, whatever the callers, closers and contexts do meanwhile. So every invariant
of the loop's runs holds of the agent in every interleaving. -/
theorem interleavings_run_loop_tasks {T : Duration} {calls : Calls} {a : Agent} {s : Sched}
    (hcalls : ∀ i b, Reachable T b → LoopTask T b (calls.task i b)) (ha : Reachable T a)
    (h : SchedReachable calls a s) :
    (s.loop ≠ .exited → Reachable T s.agent) ∧
      (s.loop = .exited → ∃ b, Reachable T b ∧ s.agent = b.shutdown) := by
  induction h with
  | init => exact ⟨fun _ => ha, nofun⟩
  | step _ ht ih =>
    cases ht
    case exec i hl =>
      have hr := ih.1 (by rw [hl]; exact nofun)
      exact ⟨fun _ => .step hr (hcalls i _ hr), nofun⟩
    case exit hl _ => exact ⟨fun he => absurd rfl he, fun _ => ⟨_, ih.1 (by rw [hl]; exact nofun), rfl⟩⟩
    case send i _ hl => exact ⟨fun _ => ih.1 (by rw [hl]; exact nofun), nofun⟩
    case closeDone j _ =>
      unfold closeDone
      split <;> exact ih
    all_goals exact ih

/-- `Restart`'s task and then the gatherer's `addCandidate`, from `NewAgent`'s agent. -/
def restartThenAdd : Sched :=
  let calls := restartCalls lateCandidate
  (((((((((Sched.init (newAgent udpConfig)).call calls 0).ok 0).send 0).exec calls 0).finish 0).call calls
    1).ok 1).send 1).exec calls 1

/-- Both tasks are loop tasks, and the interleaving's agent holds the late candidate in
the restarted session. -/
theorem interleavings_run_loop_tasks_restartThenAdd :
    (∀ i b, Reachable (Duration.ofNat 4000000000) b →
      LoopTask (Duration.ofNat 4000000000) b ((restartCalls lateCandidate).task i b)) ∧
    SchedReachable (restartCalls lateCandidate) (newAgent udpConfig) restartThenAdd ∧
    restartThenAdd.agent.localCandidates .udp4 = [lateCandidate] ∧
    ((restartThenAdd.loop ≠ .exited → Reachable (Duration.ofNat 4000000000) restartThenAdd.agent) ∧
      (restartThenAdd.loop = .exited →
        ∃ b, Reachable (Duration.ofNat 4000000000) b ∧ restartThenAdd.agent = b.shutdown)) := by
  have hcalls : ∀ i b, Reachable (Duration.ofNat 4000000000) b →
      LoopTask (Duration.ofNat 4000000000) b ((restartCalls lateCandidate).task i b) := by
    intro i b _
    by_cases hi : i = 0
    · simp only [restartCalls, hi, if_true]
      exact .restart b _ _
    · simp only [restartCalls, hi, if_false]
      exact .addCandidate b _
  have hr : SchedReachable (restartCalls lateCandidate) (newAgent udpConfig) restartThenAdd :=
    .step (.step (.step (.step (.step (.step (.step (.step (.step .init
      (.call _ 0 rfl)) (.ok _ 0 rfl)) (.send _ 0 rfl rfl)) (.exec _ 0 rfl)) (.finish _ 0 rfl rfl))
      (.call _ 1 rfl)) (.ok _ 1 rfl)) (.send _ 1 rfl rfl)) (.exec _ 1 rfl)
  exact ⟨hcalls, hr, by decide, interleavings_run_loop_tasks hcalls (.init udpConfig) hr⟩

end IceAgent.Analysis
