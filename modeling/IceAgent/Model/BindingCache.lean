import IceAgent.Model.Agent

/-!
# The pending Binding-request cache

`pendingBindingRequests` (agent.go:124) is the list of Binding requests the agent
has sent and not yet seen answered. Three methods touch it:

* `sendBindingRequest` (agent.go:1002-1014) expires stale records, then appends one;
* `handleInboundBindingSuccess` (agent.go:1062-1072) expires stale records, then
  removes and returns the first record with the answered transaction id;
* `Restart` and the transition to Failed replace it by an empty list.

The cache functions are given on the list itself, and the agent methods apply them
to the field. `maxBindingRequestTimeout` is a package constant that is not among
the sources, so it is a parameter here.

A `CacheOp` is one of these calls, and `cacheRun` runs a sequence of them from the
empty cache, collecting what each `handleInboundBindingSuccess` returned.
-/

set_option autoImplicit false

namespace IceAgent

/-- The answer of `handleInboundBindingSuccess`: found, the record, and the round-trip time. -/
abbrev SuccessResult := Bool × Option BindingRequest × Duration

/-- The first element satisfying `p`, and the list without it (`append(s[:i], s[i+1:]...)`). -/
def takeFirst {α : Type} (p : α → Bool) : List α → Option (α × List α)
  | [] => none
  | x :: xs => if p x then some (x, xs) else (takeFirst p xs).map fun (y, rest) => (y, x :: rest)

namespace BindingCache

variable (maxBindingRequestTimeout : Duration)

/-- A record is kept at `filterTime` when it is younger than the timeout. -/
def fresh (filterTime : Int) (r : BindingRequest) : Bool :=
  decide (Time.sub filterTime r.timestamp < maxBindingRequestTimeout)

/-- The loop of `invalidatePendingBindingRequests` (agent.go:1044-1058): every record
younger than the timeout at `filterTime` is appended to the kept prefix, in order. -/
def invalidate (filterTime : Int) (rs : List BindingRequest) : List BindingRequest :=
  rs.foldl (fun temp r => if fresh maxBindingRequestTimeout filterTime r then temp ++ [r] else temp) []

/-- `sendBindingRequest` on the cache: expire, then append the new record. -/
def send (now : Int) (r : BindingRequest) (rs : List BindingRequest) : List BindingRequest :=
  invalidate maxBindingRequestTimeout now rs ++ [r]

/-- `handleInboundBindingSuccess` on the cache: expire, then take the first record
with the transaction id. -/
def handleSuccess (now : Int) (id : TransactionID) (rs : List BindingRequest) :
    List BindingRequest × SuccessResult :=
  let rs := invalidate maxBindingRequestTimeout now rs
  match takeFirst (fun r => r.transactionID == id) rs with
  | some (r, rest) => (rest, (true, some r, Time.sub now r.timestamp))
  | none => (rs, (false, none, Duration.ofNat 0))

end BindingCache

namespace Agent

variable (maxBindingRequestTimeout : Duration) (a : Agent)

/-- `invalidatePendingBindingRequests`. -/
def invalidatePendingBindingRequests (filterTime : Int) : Agent :=
  { a with pendingBindingRequests :=
      BindingCache.invalidate maxBindingRequestTimeout filterTime a.pendingBindingRequests }

/-- Modelled from the spec: `sendSTUN` (not among the sources) writes the message on
the local candidate, which records the time as its last-sent time. -/
def sendSTUN (now : Int) (Local : Candidate) : Agent :=
  { a with lastSent := Function.update a.lastSent Local (some now) }

/-- `sendBindingRequest` (agent.go:1002-1014). Both clock readings of the method are
taken as the one instant `now`. -/
def sendBindingRequest (now : Int) (m : StunMessage) (Local Remote : Candidate) : Agent :=
  let r : BindingRequest :=
    { timestamp := now, transactionID := m.transactionID, destination := Remote.addr,
      isUseCandidate := m.useCandidate }
  let a := { a with pendingBindingRequests :=
    BindingCache.send maxBindingRequestTimeout now r a.pendingBindingRequests }
  a.sendSTUN now Local

/-- `handleInboundBindingSuccess` (agent.go:1062-1072). -/
def handleInboundBindingSuccess (now : Int) (id : TransactionID) : Agent × SuccessResult :=
  let (rs, res) := BindingCache.handleSuccess maxBindingRequestTimeout now id a.pendingBindingRequests
  ({ a with pendingBindingRequests := rs }, res)

end Agent

/-- One call on the cache in a run: a `sendBindingRequest` appending `r` at
`r.timestamp`, a `handleInboundBindingSuccess`, or a clear by `Restart` or the
Failed transition. -/
inductive CacheOp
  | send (r : BindingRequest)
  | success (now : Int) (id : TransactionID)
  | clear
deriving DecidableEq, Repr

/-- The clock reading of a call; a clear reads no clock. -/
def CacheOp.time : CacheOp → Option Int
  | .send r => some r.timestamp
  | .success now _ => some now
  | .clear => none

namespace BindingCache

variable (maxBindingRequestTimeout : Duration)

/-- One call on the cache, with what `handleInboundBindingSuccess` returned. -/
def step (rs : List BindingRequest) : CacheOp → List BindingRequest × Option SuccessResult
  | .send r => (send maxBindingRequestTimeout r.timestamp r rs, none)
  | .success now id =>
    let (rs', res) := handleSuccess maxBindingRequestTimeout now id rs
    (rs', some res)
  | .clear => ([], none)

/-- A run of calls from the empty cache: the final cache and each call's answer. -/
def run (ops : List CacheOp) : List BindingRequest × List (Option SuccessResult) :=
  ops.foldl (fun (rs, outs) op => ((step maxBindingRequestTimeout rs op).1,
    outs ++ [(step maxBindingRequestTimeout rs op).2])) ([], [])

end BindingCache

end IceAgent

namespace IceAgent

/-! ## What the cache functions compute -/

section takeFirst

variable {α β : Type} (p : α → Bool)

/-- Past a prefix that fails `p`, `takeFirst` takes the first element and leaves the rest. -/
theorem takeFirst_append_cons {l₁ l₂ : List α} {x : α} (hl₁ : ∀ y ∈ l₁, p y = false)
    (hx : p x = true) : takeFirst p (l₁ ++ x :: l₂) = some (x, l₁ ++ l₂) := by
  induction l₁ with
  | nil => simp [takeFirst, hx]
  | cons y l₁ ih =>
    simp [takeFirst, hl₁ y (List.mem_cons_self _ _),
      ih fun z hz => hl₁ z (List.mem_cons_of_mem _ hz)]

/-- `takeFirst` stops at the first element satisfying `p`: everything before it fails
`p`, and the rest is the list with that one element removed. -/
theorem takeFirst_eq_some_iff {l : List α} {x : α} {rest : List α} :
    takeFirst p l = some (x, rest) ↔
      ∃ l₁ l₂, l = l₁ ++ x :: l₂ ∧ (∀ y ∈ l₁, p y = false) ∧ p x = true ∧ rest = l₁ ++ l₂ := by
  refine ⟨fun h => ?_, fun ⟨l₁, l₂, hl, hl₁, hx, hrest⟩ => hl ▸ hrest ▸ takeFirst_append_cons p hl₁ hx⟩
  induction l generalizing rest with
  | nil => simp [takeFirst] at h
  | cons y ys ih =>
    by_cases hy : p y = true
    · simp only [takeFirst, hy, if_true, Option.some.injEq, Prod.mk.injEq] at h
      obtain ⟨rfl, rfl⟩ := h
      exact ⟨[], ys, rfl, by simp, hy, rfl⟩
    · simp only [takeFirst, hy, Bool.false_eq_true, if_false, Option.map_eq_some'] at h
      obtain ⟨⟨x', rest'⟩, h, heq⟩ := h
      obtain ⟨rfl, rfl⟩ := Prod.mk.inj heq
      obtain ⟨l₁, l₂, rfl, hl₁, hx, rfl⟩ := ih h
      refine ⟨y :: l₁, l₂, rfl, ?_, hx, rfl⟩
      simp only [List.mem_cons, forall_eq_or_imp]
      exact ⟨by simpa using hy, hl₁⟩

/-- `takeFirst` finds nothing exactly when no element satisfies `p`. -/
theorem takeFirst_eq_none_iff {l : List α} : takeFirst p l = none ↔ ∀ y ∈ l, p y = false := by
  induction l with
  | nil => simp [takeFirst]
  | cons y ys ih => by_cases hy : p y = true <;> simp_all [takeFirst]

/-- Looking for `p` after filtering by `q` is looking for `q && p` and filtering what is left. -/
theorem takeFirst_filter (q : α → Bool) (l : List α) :
    takeFirst p (l.filter q) =
      (takeFirst (fun x => q x && p x) l).map fun (x, rest) => (x, rest.filter q) := by
  induction l with
  | nil => rfl
  | cons y ys ih =>
    by_cases hq : q y = true
    · by_cases hp : p y = true
      · simp [takeFirst, List.filter_cons, hq, hp]
      · simp [takeFirst, List.filter_cons, hq, hp, ih, Option.map_map, Function.comp_def]
    · simp [takeFirst, List.filter_cons, hq, ih, Option.map_map, Function.comp_def]

/-- Looking for `p` in a mapped list is looking for `p ∘ f` and mapping what is found. -/
theorem takeFirst_map (f : β → α) (l : List β) :
    takeFirst p (l.map f) = (takeFirst (p ∘ f) l).map fun (x, rest) => (f x, rest.map f) := by
  induction l with
  | nil => rfl
  | cons y ys ih =>
    by_cases hp : p (f y) = true
    · simp [takeFirst, hp]
    · simp [takeFirst, hp, ih, Option.map_map, Function.comp_def]

end takeFirst

namespace BindingCache

variable (maxBindingRequestTimeout : Duration)

/-- The expiry loop keeps exactly the fresh records, in order. -/
theorem invalidate_eq_filter (filterTime : Int) (rs : List BindingRequest) :
    invalidate maxBindingRequestTimeout filterTime rs =
      rs.filter (fresh maxBindingRequestTimeout filterTime) := by
  suffices ∀ acc, rs.foldl (fun temp r => if fresh maxBindingRequestTimeout filterTime r then
      temp ++ [r] else temp) acc = acc ++ rs.filter (fresh maxBindingRequestTimeout filterTime) from
    (this []).trans (List.nil_append _)
  induction rs with
  | nil => simp
  | cons r rs ih =>
    intro acc
    by_cases h : fresh maxBindingRequestTimeout filterTime r = true <;> simp [h, ih]

/-- A record still fresh at a later time was fresh at every earlier one. -/
theorem fresh_of_le {t t' : Int} (h : t ≤ t') {r : BindingRequest}
    (hr : fresh maxBindingRequestTimeout t' r = true) : fresh maxBindingRequestTimeout t r = true := by
  simp only [fresh, decide_eq_true_eq, Duration.lt_iff, Time.sub] at hr ⊢
  have := Duration.ofInt_ns_mono (x := t - r.timestamp) (y := t' - r.timestamp) (by omega)
  omega

/-- Expiring at `t` and then at a later `t'` is expiring at `t'`. -/
theorem filter_fresh_filter {t t' : Int} (h : t ≤ t') (rs : List BindingRequest) :
    (rs.filter (fresh maxBindingRequestTimeout t)).filter (fresh maxBindingRequestTimeout t') =
      rs.filter (fresh maxBindingRequestTimeout t') := by
  rw [List.filter_filter]
  congr 1
  funext r
  by_cases hr : fresh maxBindingRequestTimeout t' r = true
  · simp [hr, fresh_of_le maxBindingRequestTimeout h hr]
  · simp [hr]

/-- A record is fresh at its own send time exactly when the timeout is positive. -/
theorem fresh_self (r : BindingRequest) :
    fresh maxBindingRequestTimeout r.timestamp r = decide (0 < maxBindingRequestTimeout.ns) := by
  simp only [fresh, Duration.lt_iff, Time.sub, Int.sub_self]
  rfl

end BindingCache

end IceAgent
