import IceAgent.Analysis.Candidates

/-!
# Pairing and arrival order

`addCandidate` and `addRemoteCandidate` see the candidates in whatever order the
gatherer and the `AddRemoteCandidate` goroutines deliver them. Up to `Equal`, what
they leave is a set of locals and of remotes per network type and a set of
(local, remote) pairs (`PairingView`), and each call acts on that view through a
function of the view alone (`pairingView_addCandidate`,
`pairingView_addRemoteCandidate`): a candidate already present changes nothing, a
new local is paired with the remotes of its type, a new remote with the locals of
its type. These actions commute, so any two orders of the same calls give the same
view (`pairingView_perm`).

A passive ICE-TCP remote is the exception: `addRemoteCandidate` does not pair it
with the locals already present (agent.go:801-807), while `addCandidate` pairs a
later local with it, so the order decides whether the pair exists
(`passiveRemote_order_matters`).
-/

set_option autoImplicit false

namespace IceAgent.Analysis

open Agent

/-- An `addCandidate` or `addRemoteCandidate` task. -/
inductive CandidateOp
  | addCandidate (c : Candidate)
  | addRemoteCandidate (c : Candidate)
deriving DecidableEq, Repr

namespace CandidateOp

/-- The task run on the agent. -/
def apply (env : Env) (a : Agent) : CandidateOp → Agent
  | .addCandidate c => a.addCandidate c
  | .addRemoteCandidate c => a.addRemoteCandidate env c

/-- The task does not add a passive ICE-TCP remote. -/
def notPassiveRemote : CandidateOp → Bool
  | .addCandidate _ => true
  | .addRemoteCandidate c => c.tcpType != .passive

end CandidateOp

/-- What the candidate maps and the checklist hold, up to `Equal`. -/
@[ext] structure PairingView where
  locals : NetworkType → Candidate → Bool
  remotes : NetworkType → Candidate → Bool
  pairs : Candidate → Candidate → Bool

/-- The view of an agent. -/
def pairingView (a : Agent) : PairingView where
  locals n x := (a.localCandidates n).any (·.Equal x)
  remotes n x := (a.remoteCandidates n).any (·.Equal x)
  pairs l r := a.checklist.any fun p => p.Local.Equal l && p.Remote.Equal r

namespace PairingView

variable (S : PairingView)

/-- The local `c` filed under its type and paired with the remotes of that type. -/
def withLocal (c : Candidate) : PairingView :=
  ⟨fun n x => S.locals n x || (n == c.networkType && c.Equal x), S.remotes,
    fun l r => S.pairs l r || (c.Equal l && S.remotes c.networkType r)⟩

/-- The remote `c` filed under its type and paired with the locals of that type. -/
def withRemote (c : Candidate) : PairingView :=
  ⟨S.locals, fun n x => S.remotes n x || (n == c.networkType && c.Equal x),
    fun l r => S.pairs l r || (S.locals c.networkType l && c.Equal r)⟩

/-- `addCandidate` on the view: nothing when a local `Equal` to `c` is filed under its type. -/
def addLocal (c : Candidate) : PairingView :=
  if S.locals c.networkType c then S else S.withLocal c

/-- `addRemoteCandidate` on the view: nothing when a remote `Equal` to `c` is filed under its type. -/
def addRemote (c : Candidate) : PairingView :=
  if S.remotes c.networkType c then S else S.withRemote c

/-- A task acting on the view. -/
def apply : CandidateOp → PairingView
  | .addCandidate c => S.addLocal c
  | .addRemoteCandidate c => S.addRemote c

/-- `addLocal` of a candidate already filed changes nothing. -/
theorem addLocal_of_mem {c : Candidate} (h : S.locals c.networkType c = true) : S.addLocal c = S :=
  if_pos h

/-- `addLocal` of a new candidate files and pairs it. -/
theorem addLocal_of_not_mem {c : Candidate} (h : S.locals c.networkType c = false) :
    S.addLocal c = S.withLocal c :=
  if_neg (by simp [h])

/-- `addRemote` of a candidate already filed changes nothing. -/
theorem addRemote_of_mem {c : Candidate} (h : S.remotes c.networkType c = true) : S.addRemote c = S :=
  if_pos h

/-- `addRemote` of a new candidate files and pairs it. -/
theorem addRemote_of_not_mem {c : Candidate} (h : S.remotes c.networkType c = false) :
    S.addRemote c = S.withRemote c :=
  if_neg (by simp [h])

/-- Adding either of two `Equal` candidates of one type adds the same thing. -/
theorem equal_iff {c d : Candidate} (he : c.Equal d = true) (x : Candidate) :
    c.Equal x = d.Equal x :=
  Bool.eq_iff_iff.mpr
    ⟨Candidate.Equal_trans ((Candidate.Equal_comm d c).trans he), Candidate.Equal_trans he⟩

/-- Filing either of two `Equal` locals of one type gives the same view. -/
theorem withLocal_eq {c d : Candidate} (hn : d.networkType = c.networkType) (he : c.Equal d = true) :
    S.withLocal c = S.withLocal d := by
  ext <;> simp [withLocal, hn, equal_iff he]

/-- Filing either of two `Equal` remotes of one type gives the same view. -/
theorem withRemote_eq {c d : Candidate} (hn : d.networkType = c.networkType) (he : c.Equal d = true) :
    S.withRemote c = S.withRemote d := by
  ext <;> simp [withRemote, hn, equal_iff he]

/-- Two locals filed in either order give the same view. -/
theorem withLocal_comm (c d : Candidate) : (S.withLocal c).withLocal d = (S.withLocal d).withLocal c := by
  ext <;> simp only [withLocal, Bool.or_assoc, Bool.or_comm, Bool.or_left_comm]

/-- Two remotes filed in either order give the same view. -/
theorem withRemote_comm (c d : Candidate) :
    (S.withRemote c).withRemote d = (S.withRemote d).withRemote c := by
  ext <;> simp only [withRemote, Bool.or_assoc, Bool.or_comm, Bool.or_left_comm]

/-- A local and a remote filed in either order give the same view: each is paired with the
other. -/
theorem withLocal_withRemote_comm (c d : Candidate) :
    (S.withLocal c).withRemote d = (S.withRemote d).withLocal c := by
  ext l r
  · rfl
  · rfl
  · simp only [withLocal, withRemote, @Bool.beq_comm _ _ _ c.networkType d.networkType,
      Bool.and_or_distrib_left, Bool.and_or_distrib_right, Bool.or_assoc, Bool.or_comm,
      Bool.or_left_comm, Bool.and_assoc, Bool.and_comm, Bool.and_left_comm]

/-- Of two candidates of one type, the second is dropped when the first was
`Equal` to it, whichever order they come in. -/
theorem second_present {c d : Candidate} (he : ¬ (d.networkType = c.networkType ∧ c.Equal d = true))
    {L : NetworkType → Candidate → Bool} (hd : L d.networkType d = false) :
    (L d.networkType d || (d.networkType == c.networkType && c.Equal d)) = false := by
  rw [hd, Bool.false_or]
  by_contra h
  exact he (by simpa using h)

/-- Two candidates that are not `Equal` under one type are not so in the other order either. -/
theorem not_equal_symm {c d : Candidate} (he : ¬ (d.networkType = c.networkType ∧ c.Equal d = true)) :
    ¬ (c.networkType = d.networkType ∧ d.Equal c = true) :=
  fun h => he ⟨h.1.symm, (Candidate.Equal_comm c d).trans h.2⟩

/-- Two guarded additions to one side of the view commute: `add` files a candidate with
`put` unless `sel` already holds an `Equal` candidate of its type, and filing is
insensitive to which of two `Equal` candidates is filed. -/
theorem guarded_add_comm {sel : PairingView → NetworkType → Candidate → Bool}
    {put add : PairingView → Candidate → PairingView}
    (hadd : ∀ T c, add T c = if sel T c.networkType c then T else put T c)
    (hsel : ∀ T c n x, sel (put T c) n x = (sel T n x || (n == c.networkType && c.Equal x)))
    (heq : ∀ T c d, d.networkType = c.networkType → c.Equal d = true → put T c = put T d)
    (hcomm : ∀ T c d, put (put T c) d = put (put T d) c) (c d : Candidate) :
    add (add S c) d = add (add S d) c := by
  have hold : ∀ T c, sel T c.networkType c = true → add T c = T := fun T c h => by simp [hadd, h]
  have hnew : ∀ T c, sel T c.networkType c = false → add T c = put T c := fun T c h => by
    simp [hadd, h]
  cases hc : sel S c.networkType c <;> cases hd : sel S d.networkType d
  · rw [hnew S c hc, hnew S d hd]
    by_cases he : d.networkType = c.networkType ∧ c.Equal d = true
    · have he' : d.Equal c = true := (Candidate.Equal_comm d c).trans he.2
      rw [hold _ d (by simp [hsel, he.1, he.2]), hold _ c (by simp [hsel, he.1, he'])]
      exact heq S c d he.1 he.2
    · rw [hnew _ d (by rw [hsel]; exact second_present he hd),
        hnew _ c (by rw [hsel]; exact second_present (not_equal_symm he) hc)]
      exact hcomm S c d
  · rw [hold S d hd, hnew S c hc, hold _ d (by simp [hsel, hd])]
  · rw [hold S c hc, hnew S d hd, hold _ c (by simp [hsel, hc])]
  · rw [hold S c hc, hold S d hd, hold S c hc]

/-- Two `addCandidate` tasks commute on the view. -/
theorem addLocal_comm (c d : Candidate) : (S.addLocal c).addLocal d = (S.addLocal d).addLocal c :=
  guarded_add_comm S (fun _ _ => rfl) (fun _ _ _ _ => rfl) (fun T _ _ => withLocal_eq T)
    withLocal_comm c d

/-- Two `addRemoteCandidate` tasks commute on the view. -/
theorem addRemote_comm (c d : Candidate) :
    (S.addRemote c).addRemote d = (S.addRemote d).addRemote c :=
  guarded_add_comm S (fun _ _ => rfl) (fun _ _ _ _ => rfl) (fun T _ _ => withRemote_eq T)
    withRemote_comm c d

/-- A local and a remote do not see each other's check. -/
theorem addLocal_addRemote_comm (c d : Candidate) :
    (S.addLocal c).addRemote d = (S.addRemote d).addLocal c := by
  cases hc : S.locals c.networkType c <;> cases hd : S.remotes d.networkType d
  · rw [addLocal_of_not_mem S hc, addRemote_of_not_mem S hd,
      addRemote_of_not_mem (S.withLocal c) hd, addLocal_of_not_mem (S.withRemote d) hc]
    exact withLocal_withRemote_comm S c d
  · rw [addRemote_of_mem S hd, addLocal_of_not_mem S hc, addRemote_of_mem (S.withLocal c) hd]
  · rw [addLocal_of_mem S hc, addRemote_of_not_mem S hd, addLocal_of_mem (S.withRemote d) hc]
  · rw [addLocal_of_mem S hc, addRemote_of_mem S hd, addLocal_of_mem S hc]

/-- Any two tasks commute on the view. -/
theorem apply_comm (o₁ o₂ : CandidateOp) : (S.apply o₁).apply o₂ = (S.apply o₂).apply o₁ := by
  cases o₁ <;> cases o₂ <;> simp only [apply]
  · exact addLocal_comm S _ _
  · exact addLocal_addRemote_comm S _ _
  · exact (addLocal_addRemote_comm S _ _).symm
  · exact addRemote_comm S _ _

/-- Runs of the same tasks in two orders give the same view. -/
theorem foldl_perm {l₁ l₂ : List CandidateOp} (h : l₁.Perm l₂) :
    l₁.foldl apply S = l₂.foldl apply S := by
  induction h generalizing S with
  | nil => rfl
  | cons o _ ih => exact ih _
  | swap o₁ o₂ l => simp only [List.foldl_cons, apply_comm]
  | trans _ _ ih₁ ih₂ => exact (ih₁ S).trans (ih₂ S)

end PairingView

/-- `any` over a mapped list is `any` of the composed test. -/
theorem any_map_apply {α β : Type} (f : α → β) (p : β → Bool) (l : List α) :
    (l.map f).any p = l.any fun x => p (f x) := by
  induction l <;> simp [*]

/-- A constant conjunct comes out of `any` on the left. -/
theorem any_const_and {α : Type} (b : Bool) (f : α → Bool) (l : List α) :
    l.any (fun x => b && f x) = (b && l.any f) := by
  induction l with
  | nil => simp
  | cons x l ih => simp [ih, Bool.and_or_distrib_left]

/-- A constant conjunct comes out of `any` on the right. -/
theorem any_and_const {α : Type} (b : Bool) (f : α → Bool) (l : List α) :
    l.any (fun x => f x && b) = (l.any f && b) := by
  induction l with
  | nil => simp
  | cons x l ih => simp [ih, Bool.and_or_distrib_right]

/-- An `Equal` candidate in a map entry extended by `c` was there before or is `c` under its
key. -/
theorem any_update_append {f : NetworkType → List Candidate} {k n : NetworkType} {c x : Candidate} :
    (Function.update f k (f k ++ [c]) n).any (·.Equal x) =
      ((f n).any (·.Equal x) || (n == k && c.Equal x)) := by
  by_cases h : n = k
  · subst h; simp
  · simp [Function.update_noteq h, h]

/-- `addCandidate` acts on the view as `addLocal`. -/
theorem pairingView_addCandidate (a : Agent) (c : Candidate) :
    pairingView (a.addCandidate c) = (pairingView a).addLocal c := by
  cases hdup : (a.localCandidates c.networkType).any (·.Equal c)
  · rw [addCandidate_of_new a hdup]
    simp only [PairingView.addLocal, PairingView.withLocal, pairingView, hdup, if_false,
      Bool.false_eq_true]
    ext <;> simp [any_update_append, any_map_apply, newCandidatePair, any_const_and]
  · rw [addCandidate_of_dup a hdup]
    simp only [PairingView.addLocal, pairingView, hdup, if_true]

/-- `addRemoteCandidate` acts on the view as `addRemote` when the remote is not a
passive ICE-TCP candidate. -/
theorem pairingView_addRemoteCandidate (a : Agent) (env : Env) {c : Candidate}
    (hc : (c.tcpType != .passive) = true) :
    pairingView (a.addRemoteCandidate env c) = (pairingView a).addRemote c := by
  cases hdup : (a.remoteCandidates c.networkType).any (·.Equal c)
  · rw [addRemoteCandidate_of_new a env hdup]
    have hs : a.synthesizes c = false := by simp_all [synthesizes]
    simp only [PairingView.addRemote, PairingView.withRemote, pairingView, hdup, hs, hc,
      if_false, if_true, Bool.false_eq_true]
    ext <;> simp [any_update_append, any_map_apply, newCandidatePair, any_and_const]
  · rw [addRemoteCandidate_of_dup a env hdup]
    simp only [PairingView.addRemote, pairingView, hdup, if_true]

/-- A run of candidate tasks, none adding a passive remote, acts on the view as the view's
run. -/
theorem pairingView_foldl (env : Env) (a : Agent) (ops : List CandidateOp)
    (h : ∀ o ∈ ops, o.notPassiveRemote = true) :
    pairingView (ops.foldl (CandidateOp.apply env) a) = ops.foldl PairingView.apply (pairingView a) := by
  induction ops generalizing a with
  | nil => rfl
  | cons o ops ih =>
    rw [List.foldl_cons, List.foldl_cons, ih _ fun o ho => h o (List.mem_cons_of_mem _ ho)]
    congr 1
    cases o with
    | addCandidate c => exact pairingView_addCandidate a c
    | addRemoteCandidate c => exact pairingView_addRemoteCandidate a env (h _ (List.mem_cons_self _ _))

/-- Two orders of the same `addCandidate` and `addRemoteCandidate` tasks, none adding
a passive ICE-TCP remote, leave the same locals and remotes per network type and the
same (local, remote) pairs, up to `Equal`. -/
theorem pairingView_perm (env : Env) (a : Agent) {ops₁ ops₂ : List CandidateOp}
    (hperm : ops₁.Perm ops₂) (hops : ∀ o ∈ ops₁, o.notPassiveRemote = true) :
    let a₁ := ops₁.foldl (CandidateOp.apply env) a
    let a₂ := ops₂.foldl (CandidateOp.apply env) a
    (∀ n x, (a₁.localCandidates n).any (·.Equal x) = (a₂.localCandidates n).any (·.Equal x)) ∧
    (∀ n x, (a₁.remoteCandidates n).any (·.Equal x) = (a₂.remoteCandidates n).any (·.Equal x)) ∧
    ∀ l r, (a₁.checklist.any fun p => p.Local.Equal l && p.Remote.Equal r) =
      (a₂.checklist.any fun p => p.Local.Equal l && p.Remote.Equal r) := by
  have h := (pairingView_foldl env a ops₁ hops).trans
    ((PairingView.foldl_perm _ hperm).trans
      (pairingView_foldl env a ops₂ fun o ho => hops o (hperm.mem_iff.mpr ho)).symm)
  exact ⟨fun n x => congrFun (congrFun (congrArg PairingView.locals h) n) x,
    fun n x => congrFun (congrFun (congrArg PairingView.remotes h) n) x,
    fun l r => congrFun (congrFun (congrArg PairingView.pairs h) l) r⟩

/-- A local and a passive remote of the same type. -/
def passiveOps : List CandidateOp :=
  [.addCandidate (hostCandidate .tcp4 .passive "10.0.0.1" 443),
    .addRemoteCandidate (hostCandidate .tcp4 .passive "10.0.0.2" 443)]

/-- A local and a remote host candidate added in either order leave the same view. -/
theorem pairingView_perm_swapped :
    let ops := [CandidateOp.addCandidate (hostCandidate .udp4 .unspecified "10.0.0.1" 5000),
      .addRemoteCandidate (hostCandidate .udp4 .unspecified "10.0.0.2" 5000)]
    ops.Perm ops.reverse ∧ (∀ o ∈ ops, o.notPassiveRemote = true) ∧
    let a₁ := ops.foldl (CandidateOp.apply noEnv) (newAgent udpConfig)
    let a₂ := ops.reverse.foldl (CandidateOp.apply noEnv) (newAgent udpConfig)
    (∀ n x, (a₁.localCandidates n).any (·.Equal x) = (a₂.localCandidates n).any (·.Equal x)) ∧
    (∀ n x, (a₁.remoteCandidates n).any (·.Equal x) = (a₂.remoteCandidates n).any (·.Equal x)) ∧
    ∀ l r, (a₁.checklist.any fun p => p.Local.Equal l && p.Remote.Equal r) =
      (a₂.checklist.any fun p => p.Local.Equal l && p.Remote.Equal r) :=
  ⟨List.reverse_perm _ |>.symm, by decide,
    pairingView_perm noEnv (newAgent udpConfig) (List.reverse_perm _).symm (by decide)⟩

/-- Added after the local, the passive remote is not paired with it; added before, it
is. -/
theorem passiveRemote_order_matters :
    ¬ ∀ (env : Env) (a : Agent) (ops₁ ops₂ : List CandidateOp), ops₁.Perm ops₂ →
      ∀ l r, ((ops₁.foldl (CandidateOp.apply env) a).checklist.any
          fun p => p.Local.Equal l && p.Remote.Equal r) =
        ((ops₂.foldl (CandidateOp.apply env) a).checklist.any
          fun p => p.Local.Equal l && p.Remote.Equal r) := by
  intro h
  have := h noEnv (newAgent udpConfig) passiveOps passiveOps.reverse (List.reverse_perm _).symm
    (hostCandidate .tcp4 .passive "10.0.0.1" 443) (hostCandidate .tcp4 .passive "10.0.0.2" 443)
  revert this
  decide

end IceAgent.Analysis
