import IceAgent.Model.Agent

/-!
# Pinging the checklist and picking the best pair

`pingAllCandidates` (agent.go:539-561) moves every Waiting pair to In-Progress and,
for every In-Progress pair, either marks it Failed once its binding-request count
exceeds `maxBindingRequests` or asks the selector to ping it and counts the request in
the pair's `uint16` counter. The selectors are not among the sources, so the pings are
returned as data, in checklist order.

`getBestAvailableCandidatePair` and `getBestValidCandidatePair` (agent.go:563-593) run
one loop over the checklist, with different pairs skipped: a later pair replaces the
best so far only when its priority is strictly higher. The loop is `bestCandidatePair`,
and each method is it applied to its own filter.
-/

set_option autoImplicit false

namespace IceAgent

/-- Modelled from the spec: `CandidatePair.priority` (candidatepair.go) is not among
the sources. The spec gives RFC 8445 §6.1.2.3: with `G` the priority of the
controlling agent's candidate and `D` that of the controlled agent's,
`2^32·MIN(G,D) + 2·MAX(G,D) + (G>D?1:0)`, here in uint64 arithmetic. -/
def CandidatePair.priority (p : CandidatePair) : UInt64 :=
  let g := if p.iceRoleControlling then p.Local.priority else p.Remote.priority
  let d := if p.iceRoleControlling then p.Remote.priority else p.Local.priority
  ((1 : UInt64) <<< 32) * (if g < d then g else d).toUInt64 +
    2 * (if g < d then d else g).toUInt64 + if d < g then 1 else 0

/-- One pair's turn in the loop of `pingAllCandidates` (agent.go:546-560): the pair it
leaves, and whether the selector was asked to ping it. Pairs neither Waiting nor
In-Progress are skipped. -/
def CandidatePair.ping (maxBindingRequests : UInt16) (p : CandidatePair) :
    CandidatePair × Bool :=
  match p.state with
  | .waiting | .inProgress =>
    let p := { p with state := .inProgress }
    if p.bindingRequestCount > maxBindingRequests then ({ p with state := .failed }, false)
    else ({ p with bindingRequestCount := p.bindingRequestCount + 1 }, true)
  | _ => (p, false)

/-- The loop shared by `getBestAvailableCandidatePair` and `getBestValidCandidatePair`:
among the pairs `consider` keeps, a pair replaces the best so far only when its
priority is strictly higher. -/
def bestCandidatePair (consider : CandidatePair → Bool) (checklist : List CandidatePair) :
    Option CandidatePair :=
  checklist.foldl (fun best p =>
    if !consider p then best
    else match best with
      | none => some p
      | some b => if b.priority < p.priority then some p else best) none

namespace Agent

variable (a : Agent)

/-- `pingAllCandidates` (agent.go:539-561): the agent with its checklist updated, and
the (local, remote) pairs the selector was asked to ping, in order. -/
def pingAllCandidates : Agent × List (Candidate × Candidate) :=
  let r := a.checklist.map (CandidatePair.ping a.maxBindingRequests)
  ({ a with checklist := r.map Prod.fst }, (r.filter Prod.snd).map fun x => (x.1.Local, x.1.Remote))

/-- `getBestAvailableCandidatePair` (agent.go:563-577): Failed pairs are skipped. -/
def getBestAvailableCandidatePair : Option CandidatePair :=
  bestCandidatePair (fun p => p.state != .failed) a.checklist

/-- `getBestValidCandidatePair` (agent.go:579-593): only Succeeded pairs count. -/
def getBestValidCandidatePair : Option CandidatePair :=
  bestCandidatePair (fun p => p.state == .succeeded) a.checklist

end Agent

end IceAgent
