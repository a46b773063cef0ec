import IceAgent.Model.BindingCache
import Mathlib.Data.List.Nodup

/-!
# Every Binding request is answered at most once, and only while fresh

What the pending cache is for is a ledger: every Binding request sent since the last
clear and not yet answered, tagged with its position in the run. A send appends to
the ledger, a clear empties it, and an answer for a transaction id takes the
earliest entry with that id that is younger than `maxBindingRequestTimeout`. The
ledger never expires anything; the cache drops what is stale.

The ladder:

* `step_simulates`: one call on the cache answers what one step of the ledger
  answers, and the cache stays the fresh part of the ledger (`Simulates`);
* `run_simulates`: the same over any run whose clock readings never go back;
* `ledgerWF_run`: ledger tags increase, and no tag is answered twice;
* `mem_ledger_iff`: the ledger holds exactly the sends neither cleared nor answered
  since (`Outstanding`);
* `pendingBindingRequests_answer_earliest_outstanding` puts them together.
-/

set_option autoImplicit false

namespace IceAgent.Analysis

open BindingCache

variable (T : Duration)

/-- The outstanding Binding requests, each tagged with the position of its send. -/
abbrev Ledger := List (Nat × BindingRequest)

/-- One call on the ledger at position `k` of a run. -/
def ledgerStep (k : Nat) (L : Ledger) : CacheOp → Ledger × Option (Nat × BindingRequest)
  | .send r => (L ++ [(k, r)], none)
  | .success now id =>
    match takeFirst (fun e => fresh T now e.2 && e.2.transactionID == id) L with
    | some (e, rest) => (rest, some e)
    | none => (L, none)
  | .clear => ([], none)

/-- A run of calls on the ledger from empty: the final ledger and each call's answer. -/
def ledgerRun (ops : List CacheOp) : Ledger × List (Option (Nat × BindingRequest)) :=
  ops.foldl (fun (L, outs) op => ((ledgerStep T outs.length L op).1,
    outs ++ [(ledgerStep T outs.length L op).2])) ([], [])

/-- What `handleInboundBindingSuccess` returns for a ledger answer. -/
def answer : CacheOp → Option (Nat × BindingRequest) → Option SuccessResult
  | .success now _, some (_, r) => some (true, some r, Time.sub now r.timestamp)
  | .success _ _, none => some (false, none, Duration.ofNat 0)
  | _, _ => none

/-! ## Runs -/

/-- The cache run over one more call is one more step of the cache. -/
theorem run_append_single (ops : List CacheOp) (op : CacheOp) :
    run T (ops ++ [op]) = ((step T (run T ops).1 op).1, (run T ops).2 ++ [(step T (run T ops).1 op).2]) := by
  simp [run, List.foldl_append]

/-- The ledger run over one more call is one more step of the ledger, tagged with the call's
position. -/
theorem ledgerRun_append_single (ops : List CacheOp) (op : CacheOp) :
    ledgerRun T (ops ++ [op]) =
      ((ledgerStep T (ledgerRun T ops).2.length (ledgerRun T ops).1 op).1,
        (ledgerRun T ops).2 ++ [(ledgerStep T (ledgerRun T ops).2.length (ledgerRun T ops).1 op).2]) := by
  simp [ledgerRun, List.foldl_append]

/-- The ledger run answers every call once. -/
@[simp] theorem ledgerRun_length (ops : List CacheOp) : (ledgerRun T ops).2.length = ops.length := by
  induction ops using List.reverseRecOn with
  | nil => rfl
  | append_singleton ops op ih => simp [ledgerRun_append_single, ih]

/-- An answer given at position `i` stays the answer at `i` when the run goes on. -/
theorem ledgerRun_getElem?_append (ops : List CacheOp) (op : CacheOp) {i : Nat} (hi : i < ops.length) :
    (ledgerRun T (ops ++ [op])).2[i]? = (ledgerRun T ops).2[i]? := by
  rw [ledgerRun_append_single, List.getElem?_append_left (by simpa using hi)]

/-! ## The cache simulates the ledger -/

/-- The cache is, at every time from the last clock reading on, the fresh part of the
ledger, and it keeps the ledger's order. -/
structure Simulates (times : List Int) (rs : List BindingRequest) (L : Ledger) : Prop where
  fresh_eq : ∀ t, (∀ s ∈ times, s ≤ t) →
    rs.filter (fresh T t) = (L.map Prod.snd).filter (fresh T t)
  sublist : rs.Sublist (L.map Prod.snd)

/-- One call on the cache answers what the ledger answers, and keeps `Simulates`. -/
theorem step_simulates {times : List Int} {rs : List BindingRequest} {L : Ledger}
    (h : Simulates T times rs L) (k : Nat) (op : CacheOp)
    (hop : ∀ t ∈ op.time, ∀ s ∈ times, s ≤ t) :
    (step T rs op).2 = answer op (ledgerStep T k L op).2 ∧
      Simulates T (times ++ op.time.toList) (step T rs op).1 (ledgerStep T k L op).1 := by
  cases op with
  | send r =>
    refine ⟨rfl, fun t ht => ?_, ?_⟩
    · have hle : r.timestamp ≤ t := ht _ (by simp [CacheOp.time])
      simp only [step, send, ledgerStep, invalidate_eq_filter, List.filter_append,
        filter_fresh_filter T hle, List.map_append, List.map_cons, List.map_nil]
      rw [h.fresh_eq t fun s hs => ht s (by simp [hs])]
    · simp only [step, send, ledgerStep, invalidate_eq_filter, List.map_append, List.map_cons,
        List.map_nil]
      exact ((List.filter_sublist _).trans h.sublist).append (List.Sublist.refl _)
  | success t id =>
    have hfilter : invalidate T t rs = (L.map Prod.snd).filter (fresh T t) := by
      rw [invalidate_eq_filter, h.fresh_eq t (hop t rfl)]
    have htake := takeFirst_map (fun x => fresh T t x && x.transactionID == id) Prod.snd L
    simp only [step, handleSuccess, ledgerStep, hfilter, takeFirst_filter, htake,
      Function.comp_def]
    cases takeFirst (fun e => fresh T t e.2 && e.2.transactionID == id) L <;>
      exact ⟨rfl, fun t' ht' => filter_fresh_filter T (ht' t (by simp [CacheOp.time])) _,
        List.filter_sublist _⟩
  | clear => exact ⟨rfl, fun _ _ => rfl, List.Sublist.refl _⟩

/-- Clock readings that never go back. -/
def Monotone (ops : List CacheOp) : Prop := (ops.filterMap CacheOp.time).Pairwise (· ≤ ·)

/-- A run with monotone clock readings is monotone without its last call, whose reading is
not before any earlier one. -/
theorem Monotone.of_append {ops : List CacheOp} {op : CacheOp} (h : Monotone (ops ++ [op])) :
    Monotone ops ∧ ∀ t ∈ op.time, ∀ s ∈ ops.filterMap CacheOp.time, s ≤ t := by
  simp only [Monotone, List.filterMap_append, List.pairwise_append] at h
  refine ⟨h.1, fun t ht s hs => h.2.2 s hs t ?_⟩
  cases hop : op.time <;> simp_all

/-- Over a run, the cache answers what the ledger answers, call by call. -/
theorem run_simulates (ops : List CacheOp) (h : Monotone ops) :
    Simulates T (ops.filterMap CacheOp.time) (run T ops).1 (ledgerRun T ops).1 ∧
      (run T ops).2 = List.zipWith answer ops (ledgerRun T ops).2 := by
  induction ops using List.reverseRecOn with
  | nil => exact ⟨⟨fun _ _ => rfl, List.Sublist.refl _⟩, rfl⟩
  | append_singleton ops op ih =>
    obtain ⟨hmono, hop⟩ := h.of_append
    obtain ⟨hsim, hout⟩ := ih hmono
    obtain ⟨hans, hsim'⟩ := step_simulates T hsim (ledgerRun T ops).2.length op hop
    rw [run_append_single, ledgerRun_append_single, hout, hans, List.zipWith_append _ _ _ _ _
      (by simp)]
    refine ⟨?_, rfl⟩
    have htimes : (ops ++ [op]).filterMap CacheOp.time = ops.filterMap CacheOp.time ++ op.time.toList := by
      cases hop : op.time <;> simp [hop]
    rw [htimes]
    exact hsim'

/-! ## The ledger -/

/-- The tags the ledger has answered. -/
def answered (outs : List (Option (Nat × BindingRequest))) : List Nat :=
  (outs.filterMap id).map Prod.fst

/-- A call the ledger answers with nothing adds no answered tag. -/
@[simp] theorem answered_append_none (outs : List (Option (Nat × BindingRequest))) :
    answered (outs ++ [none]) = answered outs := by
  simp [answered]

/-- A call the ledger answers adds the answered entry's tag. -/
@[simp] theorem answered_append_some (outs : List (Option (Nat × BindingRequest))) (e : Nat × BindingRequest) :
    answered (outs ++ [some e]) = answered outs ++ [e.1] := by
  simp [answered]

/-- The ledger after `n` calls: tags increase and are below `n`, no tag is answered
twice, and no answered tag is still in the ledger. -/
structure LedgerWF (n : Nat) (L : Ledger) (outs : List (Option (Nat × BindingRequest))) : Prop where
  sorted : (L.map Prod.fst).Pairwise (· < ·)
  lt : ∀ e ∈ L, e.1 < n
  answered_lt : ∀ j ∈ answered outs, j < n
  nodup : (answered outs).Nodup
  not_answered : ∀ e ∈ L, e.1 ∉ answered outs

/-- A well-formed ledger has no entry twice. -/
theorem LedgerWF.nodup_ledger {n : Nat} {L : Ledger} {outs : List (Option (Nat × BindingRequest))}
    (h : LedgerWF n L outs) : L.Nodup :=
  (List.Nodup.of_map Prod.fst (h.sorted.imp Nat.ne_of_lt))

/-- A call that answers nothing keeps `LedgerWF` as the run grows. -/
theorem LedgerWF.append_none {n : Nat} {L : Ledger} {outs : List (Option (Nat × BindingRequest))}
    (h : LedgerWF n L outs) : LedgerWF (n + 1) L (outs ++ [none]) := by
  refine ⟨h.sorted, fun e he => Nat.lt_succ_of_lt (h.lt e he), ?_, ?_, ?_⟩ <;>
    simp only [answered_append_none]
  · exact fun j hj => Nat.lt_succ_of_lt (h.answered_lt j hj)
  · exact h.nodup
  · exact h.not_answered

/-- Removing the entry `e` from a ledger with distinct entries removes exactly `e`. -/
theorem mem_remove_iff {l₁ l₂ : Ledger} {e x : Nat × BindingRequest} (h : (l₁ ++ e :: l₂).Nodup) :
    x ∈ l₁ ++ l₂ ↔ x ∈ l₁ ++ e :: l₂ ∧ x ≠ e := by
  have he : e ∉ l₁ ++ l₂ := (List.nodup_middle.mp h |>.not_mem)
  constructor
  · intro hx
    exact ⟨by simp only [List.mem_append, List.mem_cons] at hx ⊢; tauto, fun hxe => he (hxe ▸ hx)⟩
  · rintro ⟨hx, hxe⟩
    simp only [List.mem_append, List.mem_cons] at hx ⊢
    tauto

/-- One ledger step keeps `LedgerWF`. -/
theorem ledgerStep_WF {n : Nat} {L : Ledger} {outs : List (Option (Nat × BindingRequest))}
    (h : LedgerWF n L outs) (op : CacheOp) :
    LedgerWF (n + 1) (ledgerStep T n L op).1 (outs ++ [(ledgerStep T n L op).2]) := by
  cases op with
  | send r =>
    refine ⟨?_, ?_, ?_, ?_, ?_⟩
    · simp only [ledgerStep, List.map_append, List.map_cons, List.map_nil, List.pairwise_append,
        List.pairwise_singleton, List.mem_singleton, forall_eq, true_and]
      exact ⟨h.sorted, fun a ha => by obtain ⟨e, he, rfl⟩ := List.mem_map.mp ha; exact h.lt e he⟩
    · simp only [ledgerStep, List.mem_append, List.mem_singleton]
      rintro e (he | rfl)
      · exact Nat.lt_succ_of_lt (h.lt e he)
      · exact Nat.lt_succ_self n
    · exact h.append_none.answered_lt
    · exact h.append_none.nodup
    · simp only [ledgerStep, answered_append_none, List.mem_append, List.mem_singleton]
      rintro e (he | rfl)
      · exact h.not_answered e he
      · exact fun hn => Nat.lt_irrefl n (h.answered_lt n hn)
  | success t id =>
    rcases htake : takeFirst (fun e => fresh T t e.2 && e.2.transactionID == id) L with
      _ | ⟨e, rest⟩
    · simp only [ledgerStep, htake]
      exact h.append_none
    · obtain ⟨l₁, l₂, rfl, -, -, rfl⟩ := (takeFirst_eq_some_iff _).mp htake
      simp only [ledgerStep, htake]
      have hnd := h.nodup_ledger
      have hsub : (l₁ ++ l₂).Sublist (l₁ ++ e :: l₂) :=
        (List.Sublist.refl l₁).append (List.sublist_cons_self e l₂)
      have heL : e ∈ l₁ ++ e :: l₂ := by simp
      refine ⟨h.sorted.sublist (hsub.map _), fun x hx => Nat.lt_succ_of_lt (h.lt x (hsub.subset hx)),
        ?_, ?_, ?_⟩
      · simp only [answered_append_some, List.mem_append, List.mem_singleton]
        rintro j (hj | rfl)
        · exact Nat.lt_succ_of_lt (h.answered_lt j hj)
        · exact Nat.lt_succ_of_lt (h.lt e heL)
      · simpa [answered_append_some, List.nodup_append] using ⟨h.nodup, h.not_answered e heL⟩
      · intro x hx
        simp only [answered_append_some, List.mem_append, List.mem_singleton, not_or]
        -- distinct entries of the ledger carry distinct tags
        exact ⟨h.not_answered x (hsub.subset hx), fun hxe => ((mem_remove_iff hnd).mp hx).2
          (List.inj_on_of_nodup_map (h.sorted.imp Nat.ne_of_lt) (hsub.subset hx) heL hxe)⟩
  | clear =>
    simp only [ledgerStep]
    exact ⟨List.Pairwise.nil, by simp, h.append_none.answered_lt, h.append_none.nodup, by simp⟩

/-- Over every run the ledger is well formed. -/
theorem ledgerWF_run (ops : List CacheOp) :
    LedgerWF ops.length (ledgerRun T ops).1 (ledgerRun T ops).2 := by
  induction ops using List.reverseRecOn with
  | nil => exact ⟨List.Pairwise.nil, by simp [ledgerRun], by simp [ledgerRun, answered],
    by simp [ledgerRun, answered], by simp [ledgerRun]⟩
  | append_singleton ops op ih =>
    rw [ledgerRun_append_single, ledgerRun_length, List.length_append, List.length_singleton]
    exact ledgerStep_WF T ih op

/-- Two ledger entries with one tag are one entry. -/
theorem LedgerWF.eq_of_tag {n : Nat} {L : Ledger} {outs : List (Option (Nat × BindingRequest))}
    (h : LedgerWF n L outs) {j : Nat} {r r' : BindingRequest} (hr : (j, r) ∈ L) (hr' : (j, r') ∈ L) :
    r = r' :=
  congrArg Prod.snd (List.inj_on_of_nodup_map (h.sorted.imp Nat.ne_of_lt) hr hr' rfl)

/-- The entry a ledger answer takes has the least tag among the entries that match. -/
theorem LedgerWF.least_of_takeFirst {n : Nat} {L : Ledger} {outs : List (Option (Nat × BindingRequest))}
    (h : LedgerWF n L outs) {P : Nat × BindingRequest → Bool} {e : Nat × BindingRequest}
    {rest : Ledger} (htake : takeFirst P L = some (e, rest)) {x : Nat × BindingRequest} (hx : x ∈ L)
    (hP : P x = true) : e.1 ≤ x.1 := by
  obtain ⟨l₁, l₂, rfl, hl₁, -, -⟩ := (takeFirst_eq_some_iff P).mp htake
  have hsorted := h.sorted
  simp only [List.map_append, List.map_cons, List.pairwise_append, List.pairwise_cons,
    List.mem_map] at hsorted
  simp only [List.mem_append, List.mem_cons] at hx
  rcases hx with hx | rfl | hx
  · simp [hl₁ x hx] at hP
  · exact Nat.le_refl _
  · exact Nat.le_of_lt (hsorted.2.1.1 x.1 ⟨x, hx, rfl⟩)

/-! ## The ledger holds the outstanding sends -/

/-- Position `j` of the run sent `r`, and no later call has cleared the cache or been
answered with that send. -/
def Outstanding (ops : List CacheOp) (j : Nat) (r : BindingRequest) : Prop :=
  ops[j]? = some (.send r) ∧
    ∀ i, j < i → i < ops.length →
      ops[i]? ≠ some .clear ∧ (ledgerRun T ops).2[i]? ≠ some (some (j, r))

/-- A send is outstanding after one more call exactly when it was before and the call
neither cleared the cache nor answered it, or the call is that send. -/
theorem outstanding_append_iff (ops : List CacheOp) (op : CacheOp) (j : Nat) (r : BindingRequest) :
    Outstanding T (ops ++ [op]) j r ↔
      (Outstanding T ops j r ∧ op ≠ .clear ∧
        (ledgerStep T ops.length (ledgerRun T ops).1 op).2 ≠ some (j, r)) ∨
      (j = ops.length ∧ op = .send r) := by
  have hout : ∀ i, i < ops.length →
      (ledgerRun T (ops ++ [op])).2[i]? = (ledgerRun T ops).2[i]? :=
    fun i hi => ledgerRun_getElem?_append T ops op hi
  have hlast : (ledgerRun T (ops ++ [op])).2[ops.length]? =
      some (ledgerStep T ops.length (ledgerRun T ops).1 op).2 := by
    rw [ledgerRun_append_single, ledgerRun_length]
    exact List.getElem?_append_right (by simp) |>.trans (by simp)
  have hop : (ops ++ [op])[ops.length]? = some op := List.getElem?_concat_length ops op
  simp only [Outstanding, List.length_append, List.length_singleton]
  rcases Nat.lt_trichotomy j ops.length with hj | rfl | hj
  · rw [List.getElem?_append_left hj]
    simp only [Nat.ne_of_lt hj, false_and, or_false]
    constructor
    · rintro ⟨hs, hi⟩
      refine ⟨⟨hs, fun i hji hin => ?_⟩, ?_⟩
      · have := hi i hji (by omega)
        rwa [List.getElem?_append_left hin, hout i hin] at this
      · have := hi ops.length hj (by omega)
        simpa [hop, hlast] using this
    · rintro ⟨⟨hs, hi⟩, hclear, hans⟩
      refine ⟨hs, fun i hji hin => ?_⟩
      rcases Nat.lt_or_ge i ops.length with h | h
      · rw [List.getElem?_append_left h, hout i h]
        exact hi i hji h
      · obtain rfl : i = ops.length := by omega
        simp [hop, hlast, hclear, hans]
  · have hnone : ops[ops.length]? = none := List.getElem?_eq_none (Nat.le_refl _)
    simp only [hop, hnone, Option.some.injEq, true_and, reduceCtorEq, false_and, false_or]
    exact ⟨fun ⟨h, _⟩ => h, fun h => ⟨h, fun i h₁ h₂ => absurd h₂ (by omega)⟩⟩
  · have h₁ : (ops ++ [op])[j]? = none := List.getElem?_eq_none (by simp; omega)
    have h₂ : ops[j]? = none := List.getElem?_eq_none (by omega)
    simp [h₁, h₂, Nat.ne_of_gt hj]

/-- The ledger holds exactly the outstanding sends. -/
theorem mem_ledger_iff (ops : List CacheOp) (j : Nat) (r : BindingRequest) :
    (j, r) ∈ (ledgerRun T ops).1 ↔ Outstanding T ops j r := by
  induction ops using List.reverseRecOn with
  | nil => simp [ledgerRun, Outstanding]
  | append_singleton ops op ih =>
    have hwf := ledgerWF_run T ops
    rw [outstanding_append_iff, ← ih, ledgerRun_append_single, ledgerRun_length]
    cases op with
    | send r' =>
      simp only [ledgerStep, List.mem_append, List.mem_singleton, Prod.mk.injEq, ne_eq,
        reduceCtorEq, not_false_eq_true, true_and, and_true, CacheOp.send.injEq]
      exact or_congr_right (and_congr_right fun _ => eq_comm)
    | success t id =>
      rcases htake : takeFirst (fun e => fresh T t e.2 && e.2.transactionID == id)
        (ledgerRun T ops).1 with _ | ⟨e, rest⟩
      · simp [ledgerStep, htake]
      · have hnd := hwf.nodup_ledger
        obtain ⟨l₁, l₂, hL, -, -, rfl⟩ := (takeFirst_eq_some_iff _).mp htake
        simp only [ledgerStep, htake, ne_eq, reduceCtorEq, not_false_eq_true, true_and,
          and_false, or_false, Option.some.injEq]
        rw [hL] at hnd ⊢
        rw [mem_remove_iff hnd]
        exact and_congr_right fun _ => ⟨fun h h' => h h'.symm, fun h h' => h h'.symm⟩
    | clear => simp [ledgerStep]

/-- An outstanding send was made at one of the run's clock readings. -/
theorem timestamp_mem_of_outstanding {ops : List CacheOp} {j : Nat} {r : BindingRequest}
    (h : Outstanding T ops j r) : r.timestamp ∈ ops.filterMap CacheOp.time :=
  List.mem_filterMap.mpr ⟨.send r, List.getElem?_mem h.1, rfl⟩

/-! ## The cache over whole runs -/

/-- For a record sent no later than `t`, fresh at `t` is `t - timestamp < timeout`. -/
theorem fresh_iff_sub_lt {t : Int} {r : BindingRequest} (h : r.timestamp ≤ t) :
    fresh T t r = true ↔ t - r.timestamp < T.ns := by
  simp only [fresh, decide_eq_true_eq, Time.sub]
  exact Duration.ofInt_lt_iff T (by omega)

/-- Every record in the cache was sent at one of the run's clock readings. -/
theorem timestamp_mem_of_mem_run {ops : List CacheOp} (h : Monotone ops) {r : BindingRequest}
    (hr : r ∈ (run T ops).1) : r.timestamp ∈ ops.filterMap CacheOp.time := by
  obtain ⟨⟨j, r'⟩, hmem, rfl⟩ := List.mem_map.mp ((run_simulates T ops h).1.sublist.subset hr)
  exact timestamp_mem_of_outstanding T ((mem_ledger_iff T ops j r').mp hmem)

/-- An answer is found exactly when an outstanding send with the id is fresh, and then
it is the earliest such send, with the time elapsed since it. -/
theorem answer_iff_earliest_outstanding (pre : List CacheOp) (t : Int) (id : TransactionID)
    (r : BindingRequest) (rtt : Duration) (hmono : Monotone (pre ++ [.success t id])) :
    (step T (run T pre).1 (.success t id)).2 = some (true, some r, rtt) ↔
      ∃ j, Outstanding T pre j r ∧ r.transactionID = id ∧ t - r.timestamp < T.ns ∧
        rtt.ns = t - r.timestamp ∧
        ∀ j' r', Outstanding T pre j' r' → r'.transactionID = id → t - r'.timestamp < T.ns → j ≤ j' := by
  obtain ⟨hpre, hop⟩ := hmono.of_append
  have hfresh : ∀ {j r}, Outstanding T pre j r → (fresh T t r = true ↔ t - r.timestamp < T.ns) :=
    fun h => fresh_iff_sub_lt T (hop t rfl _ (timestamp_mem_of_outstanding T h))
  have hwf := ledgerWF_run T pre
  rw [(step_simulates T (run_simulates T pre hpre).1 pre.length _ hop).1]
  simp only [ledgerStep]
  rcases htake : takeFirst (fun e => fresh T t e.2 && e.2.transactionID == id)
    (ledgerRun T pre).1 with _ | ⟨⟨j₀, r₀⟩, rest⟩ <;> simp only [htake]
  · simp only [answer, Option.some.injEq, Prod.mk.injEq, Bool.false_eq_true, false_and,
      false_iff, not_exists, not_and]
    intro j hj hid hlt _ _
    have := (takeFirst_eq_none_iff _).mp htake (j, r) ((mem_ledger_iff T pre j r).mpr hj)
    simp [hid, (hfresh hj).mpr hlt] at this
  · obtain ⟨l₁, l₂, hL, -, hP₀, -⟩ := (takeFirst_eq_some_iff _).mp htake
    have hmem₀ : (j₀, r₀) ∈ (ledgerRun T pre).1 := by simp [hL]
    have hout₀ := (mem_ledger_iff T pre j₀ r₀).mp hmem₀
    simp only [Bool.and_eq_true, beq_iff_eq] at hP₀
    have hlt₀ := (hfresh hout₀).mp hP₀.1
    have hle₀ : r₀.timestamp ≤ t := hop t rfl _ (timestamp_mem_of_outstanding T hout₀)
    simp only [answer, Option.some.injEq, Prod.mk.injEq, true_and]
    constructor
    · rintro ⟨rfl, rfl⟩
      refine ⟨j₀, hout₀, hP₀.2, hlt₀, ?_, fun j' r' hj' hid' hlt' => ?_⟩
      · exact Duration.ofInt_ns_of_mem (by omega) (by have := T.lt_max; omega)
      · exact hwf.least_of_takeFirst htake ((mem_ledger_iff T pre j' r').mpr hj')
          (by simp [hid', (hfresh hj').mpr hlt'])
    · rintro ⟨j, hj, hid, hlt, hrtt, hmin⟩
      have hmemj := (mem_ledger_iff T pre j r).mpr hj
      have h₁ : j₀ ≤ j := hwf.least_of_takeFirst htake hmemj (by simp [hid, (hfresh hj).mpr hlt])
      obtain rfl : j₀ = j := Nat.le_antisymm h₁ (hmin j₀ r₀ hout₀ hP₀.2 hlt₀)
      obtain rfl := hwf.eq_of_tag hmem₀ hmemj
      refine ⟨rfl, Duration.ext ?_⟩
      rw [hrtt]
      exact Duration.ofInt_ns_of_mem (by omega) (by have := T.lt_max; omega)

/-- An answer that finds nothing leaves the cache with exactly its fresh records. -/
theorem handleSuccess_not_found (rs : List BindingRequest) (t : Int) (id : TransactionID)
    (h : (handleSuccess T t id rs).2.1 = false) :
    (handleSuccess T t id rs).1 = rs.filter (fresh T t) := by
  simp only [handleSuccess] at h ⊢
  rcases htake : takeFirst (fun r => r.transactionID == id) (invalidate T t rs) with _ | ⟨r, rest⟩ <;>
    simp only [htake] at h ⊢
  · exact invalidate_eq_filter T t rs
  · simp at h

/-- After a call with a clock reading `t`, every record left is younger than the timeout at `t`. -/
theorem step_younger (hT : 0 < T.ns) (pre : List CacheOp) (op : CacheOp) (hmono : Monotone (pre ++ [op])) :
    ∀ t ∈ op.time, ∀ r ∈ (step T (run T pre).1 op).1, t - r.timestamp < T.ns := by
  obtain ⟨hpre, hop⟩ := hmono.of_append
  have hold : ∀ t ∈ op.time, ∀ r ∈ (run T pre).1.filter (fresh T t), t - r.timestamp < T.ns := by
    intro t ht r hr
    rw [List.mem_filter] at hr
    exact (fresh_iff_sub_lt T (hop t ht _ (timestamp_mem_of_mem_run T hpre hr.1))).mp hr.2
  cases op with
  | send r₀ =>
    intro t ht r hr
    obtain rfl : r₀.timestamp = t := Option.some.inj ht
    simp only [step, send, invalidate_eq_filter, List.mem_append, List.mem_singleton] at hr
    rcases hr with hr | rfl
    · exact hold _ rfl r hr
    · simpa using hT
  | success now id =>
    intro t ht r hr
    obtain rfl : now = t := Option.some.inj ht
    simp only [step, handleSuccess, invalidate_eq_filter] at hr
    rcases htake : takeFirst (fun r => r.transactionID == id) ((run T pre).1.filter (fresh T now))
      with _ | ⟨r', rest⟩ <;> rw [htake] at hr
    · exact hold _ rfl r hr
    · obtain ⟨l₁, l₂, hl, -, -, rfl⟩ := (takeFirst_eq_some_iff _).mp htake
      exact hold _ rfl r (by rw [hl]; simp only [List.mem_append, List.mem_cons] at hr ⊢; tauto)
  | clear => simp [CacheOp.time]

/-- The Binding-request cache over whole runs with clock readings that never go back:
each `handleInboundBindingSuccess` answers what the ledger of outstanding sends answers;
it finds a record exactly when an outstanding send with the id is younger than the
timeout, and returns the earliest such with the time elapsed since it; no send is
answered twice; a call that finds nothing only expires records; and after each call the
records left are younger than the timeout at that call and in send order. -/
theorem pendingBindingRequests_answer_earliest_outstanding (hT : 0 < T.ns) :
    (∀ ops, Monotone ops → (run T ops).2 = List.zipWith answer ops (ledgerRun T ops).2) ∧
    (∀ pre t id r rtt, Monotone (pre ++ [.success t id]) →
      ((step T (run T pre).1 (.success t id)).2 = some (true, some r, rtt) ↔
        ∃ j, Outstanding T pre j r ∧ r.transactionID = id ∧ t - r.timestamp < T.ns ∧
          rtt.ns = t - r.timestamp ∧
          ∀ j' r', Outstanding T pre j' r' → r'.transactionID = id →
            t - r'.timestamp < T.ns → j ≤ j')) ∧
    (∀ ops, (answered (ledgerRun T ops).2).Nodup) ∧
    (∀ rs t id, (handleSuccess T t id rs).2.1 = false →
      (handleSuccess T t id rs).1 = rs.filter (fresh T t)) ∧
    (∀ pre op, Monotone (pre ++ [op]) →
      ∀ t ∈ op.time, ∀ r ∈ (step T (run T pre).1 op).1, t - r.timestamp < T.ns) ∧
    (∀ ops, Monotone ops → (run T ops).1.Sublist ((ledgerRun T ops).1.map Prod.snd) ∧
      ((ledgerRun T ops).1.map Prod.fst).Pairwise (· < ·)) :=
  ⟨fun ops h => (run_simulates T ops h).2,
   fun pre t id r rtt h => answer_iff_earliest_outstanding T pre t id r rtt h,
   fun ops => (ledgerWF_run T ops).nodup,
   fun rs t id h => handleSuccess_not_found T rs t id h,
   fun pre op h => step_younger T hT pre op h,
   fun ops h => ⟨(run_simulates T ops h).1.sublist, (ledgerWF_run T ops).sorted⟩⟩

/-- The law with `maxBindingRequestTimeout` set to four seconds. -/
theorem pendingBindingRequests_answer_earliest_outstanding_four_seconds :
    0 < (Duration.ofNat 4000000000).ns ∧
    (∀ ops, Monotone ops → (run (.ofNat 4000000000) ops).2 =
      List.zipWith answer ops (ledgerRun (.ofNat 4000000000) ops).2) ∧
    (∀ pre t id r rtt, Monotone (pre ++ [.success t id]) →
      ((step (.ofNat 4000000000) (run (.ofNat 4000000000) pre).1 (.success t id)).2 =
          some (true, some r, rtt) ↔
        ∃ j, Outstanding (.ofNat 4000000000) pre j r ∧ r.transactionID = id ∧
          t - r.timestamp < (Duration.ofNat 4000000000).ns ∧ rtt.ns = t - r.timestamp ∧
          ∀ j' r', Outstanding (.ofNat 4000000000) pre j' r' → r'.transactionID = id →
            t - r'.timestamp < (Duration.ofNat 4000000000).ns → j ≤ j')) ∧
    (∀ ops, (answered (ledgerRun (.ofNat 4000000000) ops).2).Nodup) ∧
    (∀ rs t id, (handleSuccess (.ofNat 4000000000) t id rs).2.1 = false →
      (handleSuccess (.ofNat 4000000000) t id rs).1 = rs.filter (fresh (.ofNat 4000000000) t)) ∧
    (∀ pre op, Monotone (pre ++ [op]) → ∀ t ∈ op.time,
      ∀ r ∈ (step (.ofNat 4000000000) (run (.ofNat 4000000000) pre).1 op).1,
        t - r.timestamp < (Duration.ofNat 4000000000).ns) ∧
    (∀ ops, Monotone ops →
      (run (.ofNat 4000000000) ops).1.Sublist ((ledgerRun (.ofNat 4000000000) ops).1.map Prod.snd) ∧
      ((ledgerRun (.ofNat 4000000000) ops).1.map Prod.fst).Pairwise (· < ·)) :=
  ⟨by decide, pendingBindingRequests_answer_earliest_outstanding _ (by decide)⟩

/-! ## The agent's calls are cache operations -/

section agent

variable (a : Agent)

/-- `sendBindingRequest` is the cache's `send` on the agent's field. -/
theorem sendBindingRequest_pending (now : Int) (m : StunMessage) (Local Remote : Candidate) :
    (a.sendBindingRequest T now m Local Remote).pendingBindingRequests =
      (step T a.pendingBindingRequests (.send ⟨now, m.transactionID, Remote.addr, m.useCandidate⟩)).1 :=
  rfl

/-- `handleInboundBindingSuccess` is the cache's `success` on the agent's field, with the
cache's answer. -/
theorem handleInboundBindingSuccess_pending (now : Int) (id : TransactionID) :
    (a.handleInboundBindingSuccess T now id).1.pendingBindingRequests =
        (step T a.pendingBindingRequests (.success now id)).1 ∧
      some (a.handleInboundBindingSuccess T now id).2 =
        (step T a.pendingBindingRequests (.success now id)).2 :=
  ⟨rfl, rfl⟩

/-- `deleteAllCandidates` leaves the cache as it is. -/
theorem deleteAllCandidates_pending :
    a.deleteAllCandidates.pendingBindingRequests = a.pendingBindingRequests := rfl

/-- `Restart` clears the cache. -/
theorem restart_pending (ufrag pwd : String) : (a.restart ufrag pwd).pendingBindingRequests = [] := by
  rw [Agent.restart_eq]

/-- The move to Failed clears the cache. -/
theorem updateConnectionState_failed_pending (h : a.connectionState ≠ .failed) :
    (a.updateConnectionState .failed).pendingBindingRequests = [] := by
  rw [Agent.updateConnectionState_failed a h]

end agent

end IceAgent.Analysis
