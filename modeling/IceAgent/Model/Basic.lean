import Mathlib.Algebra.Group.Int
import Mathlib.Data.List.Basic
import Mathlib.Tactic.Basic

/-!
# The values the ICE agent works with

`agent.go` manipulates candidates, candidate pairs, binding-request records and
STUN messages, and measures time with `time.Time` and `time.Duration`. This file
gives each of them as a Lean value. Only what `agent.go` reads or writes is kept:
a candidate is the fields its methods return (`NetworkType()`, `Type()`,
`Address()`, `Port()`, `Component()`, `TCPType()`, `Foundation()`), a STUN message
is the parts `handleInbound` and `sendBindingRequest` look at.

`candidate.go`, `candidatepair.go`, `addr.go` and the STUN codec are not part of the
sources; where `agent.go` calls into them (`Candidate.Equal`, `parseAddr`, the
peer-reflexive constructor) the definition below is modelled from the spec and
says so.
-/

set_option autoImplicit false

namespace IceAgent

/-! ## Int -/

/-- Go's `time.Duration`: a signed 64-bit count of nanoseconds. -/
@[ext] structure Duration where
  ns : Int
  min_le : -2 ^ 63 ≤ ns
  lt_max : ns < 2 ^ 63
deriving DecidableEq, Repr

namespace Duration

/-- `x` nanoseconds as Go's `time.Time.Sub` returns them: saturated to the
`Duration` range. -/
def ofInt (x : Int) : Duration :=
  ⟨max (-2 ^ 63) (min x (2 ^ 63 - 1)), by omega, by omega⟩

/-- Go's `+` on `time.Duration`: two's-complement addition that wraps. -/
def add (a b : Duration) : Duration :=
  ⟨(a.ns + b.ns + 2 ^ 63) % 2 ^ 64 - 2 ^ 63, by omega, by omega⟩

/-- A duration from a literal in range. -/
def ofNat (n : Nat) (h : n < 2 ^ 63 := by decide) : Duration :=
  ⟨n, by omega, by omega⟩

instance : LT Duration := ⟨fun a b => a.ns < b.ns⟩

instance (a b : Duration) : Decidable (a < b) := inferInstanceAs (Decidable (a.ns < b.ns))

/-- Durations compare by their nanoseconds. -/
theorem lt_iff (a b : Duration) : a < b ↔ a.ns < b.ns := Iff.rfl

/-- A literal duration is its literal in nanoseconds. -/
@[simp] theorem ofNat_ns (n : Nat) (h : n < 2 ^ 63) : (ofNat n h).ns = n := rfl

/-- Saturation never changes a comparison against a duration when the difference
is not below the `Duration` range. -/
theorem ofInt_lt_iff {x : Int} (d : Duration) (hx : -2 ^ 63 ≤ x) :
    ofInt x < d ↔ x < d.ns := by
  have := d.lt_max
  simp only [lt_iff, ofInt]
  omega

/-- Saturating a number into the `Duration` range is monotone. -/
theorem ofInt_ns_mono {x y : Int} (h : x ≤ y) : (ofInt x).ns ≤ (ofInt y).ns := by
  simp only [ofInt]
  omega

/-- Saturation leaves a number in the `Duration` range as it is. -/
theorem ofInt_ns_of_mem {x : Int} (h₁ : -2 ^ 63 ≤ x) (h₂ : x < 2 ^ 63) : (ofInt x).ns = x := by
  simp only [ofInt]
  omega

/-- The sum of two durations whose exact sum is in range is that sum. -/
theorem add_ns_of_lt (a b : Duration) (h : a.ns + b.ns < 2 ^ 63) (h' : -2 ^ 63 ≤ a.ns + b.ns) :
    (add a b).ns = a.ns + b.ns := by
  simp only [add]
  omega

end Duration

/-- `t.Sub(s)` on two readings of the monotonic clock, in nanoseconds (a `time.Time`
is an `Int` here); `time.Since(s)` when `t` is the current time. -/
def Time.sub (t s : Int) : Duration := Duration.ofInt (t - s)

/-! ## Enumerations -/

/-- `NetworkType`: the transport and IP family of a candidate. -/
inductive NetworkType
  | udp4
  | udp6
  | tcp4
  | tcp6
deriving DecidableEq, Repr

/-- `NetworkType.IsTCP`. -/
def NetworkType.isTCP : NetworkType → Bool
  | .tcp4 | .tcp6 => true
  | .udp4 | .udp6 => false

/-- `CandidateType`. -/
inductive CandidateType
  | unspecified
  | host
  | serverReflexive
  | peerReflexive
  | relay
deriving DecidableEq, Repr

/-- `TCPType`: the ICE-TCP role of a candidate. -/
inductive TCPType
  | unspecified
  | active
  | passive
  | simultaneousOpen
deriving DecidableEq, Repr

/-- `ConnectionState`. `unknown` is `ConnectionState(0)`, the value
`connectivityChecks` starts `lastConnectionState` at. -/
inductive ConnectionState
  | unknown
  | new
  | checking
  | connected
  | disconnected
  | failed
  | closed
deriving DecidableEq, Repr

/-- `GatheringState`. -/
inductive GatheringState
  | unknown
  | new
  | gathering
  | complete
deriving DecidableEq, Repr

/-- `CandidatePairState`. -/
inductive CandidatePairState
  | waiting
  | inProgress
  | failed
  | succeeded
  | frozen
deriving DecidableEq, Repr

/-! ## Addresses -/

/-- The two things the agent reads from a `net.IP`: its text (`ip.String()`) and
whether it has a 4-byte form (`ip.To4() != nil`). -/
structure IPAddr where
  text : String
  isIPv4 : Bool
deriving DecidableEq, Repr

/-- A `net.Addr` as a packet arrives from it: a `*net.UDPAddr`, a `*net.TCPAddr`,
or some other implementation that `parseAddr` does not accept. -/
inductive NetAddr
  | udp (ip : IPAddr) (port : Nat)
  | tcp (ip : IPAddr) (port : Nat)
  | other (network : String)
deriving DecidableEq, Repr

/-- The transport-and-family network type of an address, as the peer-reflexive
candidate built from it gets it. -/
def networkTypeOf (tcp : Bool) (ip : IPAddr) : NetworkType :=
  match tcp, ip.isIPv4 with
  | false, true => .udp4
  | false, false => .udp6
  | true, true => .tcp4
  | true, false => .tcp6

/-- Modelled from the spec: `parseAddr` (addr.go) is not among the sources. It
returns the IP, the port and the network type of a UDP or TCP address and fails
on any other `net.Addr`. -/
def parseAddr : NetAddr → Option (IPAddr × Nat × NetworkType)
  | .udp ip port => some (ip, port, networkTypeOf false ip)
  | .tcp ip port => some (ip, port, networkTypeOf true ip)
  | .other _ => none

/-! ## Candidates and pairs -/

/-- The RTP component id. -/
def componentRTP : Nat := 1

/-- A candidate as `agent.go` sees it through the `Candidate` interface. -/
structure Candidate where
  networkType : NetworkType
  candidateType : CandidateType
  address : String
  port : Nat
  component : Nat
  tcpType : TCPType
  foundation : String
  priority : UInt32
deriving DecidableEq, Repr

namespace Candidate

/-- Modelled from the spec: `Candidate.Equal` is not among the sources. The spec
says candidates are equality-compared by foundation, address, port and component. -/
def Equal (c d : Candidate) : Bool :=
  c.foundation == d.foundation && c.address == d.address && c.port == d.port &&
    c.component == d.component

/-- `Equal` holds exactly when the four compared fields agree. -/
theorem Equal_iff (c d : Candidate) : c.Equal d = true ↔
    c.foundation = d.foundation ∧ c.address = d.address ∧ c.port = d.port ∧
      c.component = d.component := by
  simp [Equal, and_assoc]

/-- `Equal` is an equivalence: reflexive. -/
@[simp] theorem Equal_refl (c : Candidate) : c.Equal c = true := by simp [Equal_iff]

/-- `Equal` does not depend on the order of its candidates. -/
theorem Equal_comm (c d : Candidate) : c.Equal d = d.Equal c := by
  rw [Bool.eq_iff_iff, Equal_iff, Equal_iff]
  constructor <;> exact fun ⟨a, b, c, d⟩ => ⟨a.symm, b.symm, c.symm, d.symm⟩

/-- `Equal` is an equivalence: transitive. -/
theorem Equal_trans {c d e : Candidate} (h₁ : c.Equal d = true) (h₂ : d.Equal e = true) :
    c.Equal e = true := by
  rw [Equal_iff] at *
  exact ⟨h₁.1.trans h₂.1, h₁.2.1.trans h₂.2.1, h₁.2.2.1.trans h₂.2.2.1,
    h₁.2.2.2.trans h₂.2.2.2⟩

/-- `c.addr()`: the transport address of the candidate. -/
def addr (c : Candidate) : NetAddr :=
  let ip : IPAddr := ⟨c.address, c.networkType = .udp4 || c.networkType = .tcp4⟩
  if c.networkType.isTCP then .tcp ip c.port else .udp ip c.port

end Candidate

/-- Modelled from the spec: the name of a network type, as the ICE library prints it. -/
def NetworkType.name : NetworkType → String
  | .udp4 => "udp4"
  | .udp6 => "udp6"
  | .tcp4 => "tcp4"
  | .tcp6 => "tcp6"

/-- Modelled from the spec: the name of a candidate type, as the ICE library prints it. -/
def CandidateType.name : CandidateType → String
  | .unspecified => "Unknown candidate type"
  | .host => "host"
  | .serverReflexive => "srflx"
  | .peerReflexive => "prflx"
  | .relay => "relay"

/-- Modelled from the spec: the candidate constructors are not among the sources.
A foundation (RFC 8445 §5.1.1.3) is formed from the candidate type, the base
address and the network. -/
def foundationOf (t : CandidateType) (address : String) (n : NetworkType) : String :=
  t.name ++ "/" ++ address ++ "/" ++ n.name

/-- Modelled from the spec: `NewCandidatePeerReflexive` with the configuration
`handleInbound` builds from the source address of a request. -/
def newCandidatePeerReflexive (ip : IPAddr) (port : Nat) (n : NetworkType) (component : Nat) :
    Candidate :=
  { networkType := n, candidateType := .peerReflexive, address := ip.text, port := port,
    component := component, tcpType := .unspecified,
    foundation := foundationOf .peerReflexive ip.text n, priority := 0 }

/-- Modelled from the spec: `NewCandidateHost` with the configuration
`addRemotePassiveTCPCandidate` builds for an active ICE-TCP candidate. -/
def newActiveTCPCandidateHost (n : NetworkType) (ip : IPAddr) (port : Nat) : Candidate :=
  { networkType := n, candidateType := .host, address := ip.text, port := port,
    component := componentRTP, tcpType := .active,
    foundation := foundationOf .host ip.text n, priority := 0 }

/-- `CandidatePair`: a local and a remote candidate with their check state. -/
structure CandidatePair where
  iceRoleControlling : Bool
  Remote : Candidate
  Local : Candidate
  bindingRequestCount : UInt16
  state : CandidatePairState
  nominated : Bool
  nominateOnBindingSuccess : Bool
deriving DecidableEq, Repr

/-- `newCandidatePair`: a fresh pair starts Waiting, unnominated, with no requests. -/
def newCandidatePair (Local Remote : Candidate) (controlling : Bool) : CandidatePair :=
  { iceRoleControlling := controlling, Remote := Remote, Local := Local,
    bindingRequestCount := 0, state := .waiting, nominated := false,
    nominateOnBindingSuccess := false }

/-! ## STUN -/

/-- A 96-bit STUN transaction id. -/
abbrev TransactionID := BitVec 96

/-- The STUN Binding method number. -/
def methodBinding : Nat := 0x001

/-- The four STUN message classes. -/
inductive MessageClass
  | request
  | indication
  | successResponse
  | errorResponse
deriving DecidableEq, Repr

/-- The parts of a STUN message the agent reads. `messageIntegrity` is the key the
sender computed MESSAGE-INTEGRITY under, none when the message carries none;
`StunMessage.integrityOk` checks it. -/
structure StunMessage where
  method : Nat
  messageClass : MessageClass
  transactionID : TransactionID
  iceControlling : Option UInt64
  iceControlled : Option UInt64
  useCandidate : Bool
  username : Option String
  messageIntegrity : Option String
deriving DecidableEq, Repr

/-- `stunx.AssertUsername(m, expected) == nil`. -/
def StunMessage.usernameOk (m : StunMessage) (expected : String) : Bool :=
  m.username == some expected

/-- `bindingRequest`: one outstanding Binding request. -/
structure BindingRequest where
  timestamp : Int
  transactionID : TransactionID
  destination : NetAddr
  isUseCandidate : Bool
deriving DecidableEq, Repr

end IceAgent
