import IceAgent.Model.Consent
import IceAgent.Analysis.Timeouts
import IceAgent.Analysis.Handshake

/-!
# Consent freshness on the selected pair

`validateSelectedPair` counts from the last time the selected pair's remote was heard
from. A packet that is not STUN, from the remote's address, resets that count
(`validateNonSTUNTraffic_of_find`): from then on, for as long as `disconnectedTimeout`,
`validateSelectedPair` finds the agent Connected, whatever state it was in before, so
media alone keeps the pair alive and brings a Disconnected pair back.

A keepalive is the selector's ping on the selected pair, a Binding request sent with
`sendBindingRequest`. It resets the count of `LastSent`, so for one `keepaliveInterval`
after it `checkKeepalive` asks for another only when the remote has been silent for
longer than the interval: pings are spaced by at least the interval while the remote
answers.
-/

set_option autoImplicit false

namespace IceAgent.Analysis

open Agent

section agent

variable (a : Agent)

/-- A packet that is not STUN, from the address of a known remote, marks that remote as
heard from and changes nothing else. -/
theorem validateNonSTUNTraffic_of_find {Local : Candidate} {remote : NetAddr} {c : Candidate}
    (now : Int) (h : a.findRemoteCandidate Local.networkType remote = some c) :
    a.validateNonSTUNTraffic Local remote now = (a.seen c now, some c) := by
  simp only [validateNonSTUNTraffic, h]

/-- A packet from an address no remote of the network type has changes nothing. -/
theorem validateNonSTUNTraffic_of_unknown {Local : Candidate} {remote : NetAddr} (now : Int)
    (h : a.findRemoteCandidate Local.networkType remote = none) :
    a.validateNonSTUNTraffic Local remote now = (a, none) := by
  simp only [validateNonSTUNTraffic, h]

/-- `checkKeepalive` on an agent with a selected pair. -/
theorem checkKeepalive_of_selected {p : CandidatePair} (now : Int) (h : a.getSelectedPair = some p) :
    a.checkKeepalive now =
      if a.keepaliveInterval.ns ≠ 0 ∧
          (a.keepaliveInterval < since now (a.lastSent p.Local) ∨
            a.keepaliveInterval < since now (a.lastReceived p.Remote)) then
        some (p.Local, p.Remote)
      else none := by
  simp only [checkKeepalive, h]

/-- A remote heard from no longer than `disconnectedTimeout` ago keeps the agent
Connected, when the timeouts are non-negative and their exact sum is in range. -/
theorem validatedState_of_le (hD : 0 ≤ a.disconnectedTimeout.ns) (hF : 0 ≤ a.failedTimeout.ns)
    (hsum : a.disconnectedTimeout.ns + a.failedTimeout.ns < 2 ^ 63) {e : Duration}
    (he : e.ns ≤ a.disconnectedTimeout.ns) : a.validatedState e = .connected := by
  rw [validatedState_exact a hD hF hsum, if_neg (by omega), if_neg (by omega)]

end agent

/-- The time since an instant `t`, read at `t' ≥ t`, is `t' - t` while in range. -/
theorem since_some_ns {t t' : Int} (h : t ≤ t') (h' : t' - t < 2 ^ 63) :
    (since t' (some t)).ns = t' - t :=
  Duration.ofInt_ns_of_mem (by omega) h'

/-- For every agent with a selected pair `p`, and every packet that is not STUN arriving
at `t` on a local candidate from an address that leads to `p`'s remote (the first known
remote of the local candidate's network type with that IP and port): the task marks that
remote, and nothing else, as heard from at `t`, and `validateSelectedPair` then finds
the agent Connected at every `t'` from `t` to `t + disconnectedTimeout`, whatever its
state before. The timeouts are non-negative with an exact sum below `2^63`. -/
theorem nonSTUNTraffic_keeps_selected_pair_connected (a : Agent) (Local : Candidate)
    (remote : NetAddr) (p : CandidatePair) (t t' : Int) (hsel : a.getSelectedPair = some p)
    (hfind : a.findRemoteCandidate Local.networkType remote = some p.Remote)
    (hD : 0 ≤ a.disconnectedTimeout.ns) (hF : 0 ≤ a.failedTimeout.ns)
    (hsum : a.disconnectedTimeout.ns + a.failedTimeout.ns < 2 ^ 63) (ht : t ≤ t')
    (hdt : t' - t ≤ a.disconnectedTimeout.ns) :
    a.validateNonSTUNTraffic Local remote t = (a.seen p.Remote t, some p.Remote) ∧
      ((a.validateNonSTUNTraffic Local remote t).1.validateSelectedPair t').1.connectionState =
        .connected := by
  have htask := validateNonSTUNTraffic_of_find a t hfind
  have hrecv : (a.seen p.Remote t).lastReceived p.Remote = some t := Function.update_same _ _ _
  refine ⟨htask, ?_⟩
  rw [htask]
  dsimp only
  rw [validateSelectedPair_connectionState (a.seen p.Remote t) t' hsel, hrecv]
  exact validatedState_of_le a hD hF hsum (by rw [since_some_ns ht (by omega)]; exact hdt)

/-- For every agent with a selected pair `p`: once the selector's keepalive, a Binding
request on `p`, is sent at `t`, `checkKeepalive` at every `t'` from `t` to
`t + keepaliveInterval` asks for another exactly when the interval is set and `p`'s
remote has not been heard from for longer than it, never because of what was sent. -/
theorem keepalive_resets_send_interval (T : Duration) (a : Agent) (p : CandidatePair)
    (m : StunMessage) (t t' : Int) (hsel : a.getSelectedPair = some p) (ht : t ≤ t')
    (hdt : t' - t ≤ a.keepaliveInterval.ns) :
    (a.sendBindingRequest T t m p.Local p.Remote).checkKeepalive t' =
      if a.keepaliveInterval.ns ≠ 0 ∧ a.keepaliveInterval < since t' (a.lastReceived p.Remote) then
        some (p.Local, p.Remote)
      else none := by
  have hsent : (a.sendBindingRequest T t m p.Local p.Remote).lastSent p.Local = some t :=
    Function.update_same _ _ _
  have hframe : (a.sendBindingRequest T t m p.Local p.Remote).keepaliveInterval = a.keepaliveInterval ∧
      (a.sendBindingRequest T t m p.Local p.Remote).lastReceived = a.lastReceived := ⟨rfl, rfl⟩
  have hquiet : ¬ a.keepaliveInterval < since t' (some t) := by
    rw [Duration.lt_iff, since_some_ns ht (by have := a.keepaliveInterval.lt_max; omega)]
    omega
  rw [checkKeepalive_of_selected (a.sendBindingRequest T t m p.Local p.Remote) t' hsel, hsent, hframe.1, hframe.2]
  simp only [hquiet, false_or]

/-- The library's default timeouts and its default keepalive interval, 2 s. -/
def keepaliveConfig : AgentConfig :=
  { defaultTimeoutConfig with keepaliveInterval := Duration.ofNat 2000000000 }

/-- `selectedRun`'s tasks on an agent with the library's default timeouts and keepalive
interval. -/
def consentRun : Agent :=
  ((((newAgent keepaliveConfig).startConnectivityChecks true "ru" "rp").addCandidate
    (hostCandidate .udp4 .unspecified "10.0.0.1" 5000)).addRemoteCandidate noEnv
    (hostCandidate .udp4 .unspecified "10.0.0.2" 5000)).setSelectedPair (some 0)

/-- The pair `consentRun` selects. -/
def consentPair : CandidatePair :=
  { newCandidatePair (hostCandidate .udp4 .unspecified "10.0.0.1" 5000)
      (hostCandidate .udp4 .unspecified "10.0.0.2" 5000) true with nominated := true }

/-- Media at 0 from the selected remote keeps `consentRun` Connected at 5 s, the end of
the disconnected timeout. -/
theorem nonSTUNTraffic_keeps_selected_pair_connected_consentRun :
    consentRun.getSelectedPair = some consentPair ∧
    consentRun.findRemoteCandidate NetworkType.udp4
      (hostCandidate .udp4 .unspecified "10.0.0.2" 5000).addr = some consentPair.Remote ∧
    (consentRun.validateNonSTUNTraffic (hostCandidate .udp4 .unspecified "10.0.0.1" 5000)
        (hostCandidate .udp4 .unspecified "10.0.0.2" 5000).addr 0 =
      (consentRun.seen consentPair.Remote 0, some consentPair.Remote) ∧
    ((consentRun.validateNonSTUNTraffic (hostCandidate .udp4 .unspecified "10.0.0.1" 5000)
        (hostCandidate .udp4 .unspecified "10.0.0.2" 5000).addr 0).1.validateSelectedPair
          5000000000).1.connectionState = .connected) :=
  ⟨by decide, by decide, nonSTUNTraffic_keeps_selected_pair_connected consentRun
    (hostCandidate .udp4 .unspecified "10.0.0.1" 5000) _ consentPair 0 5000000000 (by decide)
    (by decide) (by decide) (by decide) (by decide) (by decide) (by decide)⟩

/-- A keepalive at 0 on `consentRun`'s pair, whose remote was never heard from, leaves a
ping due at 2 s for the silent remote. -/
theorem keepalive_resets_send_interval_consentRun :
    consentRun.getSelectedPair = some consentPair ∧
    (consentRun.sendBindingRequest (Duration.ofNat 4000000000) 0 checkRequest consentPair.Local consentPair.Remote).checkKeepalive
        2000000000 =
      if consentRun.keepaliveInterval.ns ≠ 0 ∧
          consentRun.keepaliveInterval < since 2000000000 (consentRun.lastReceived consentPair.Remote) then
        some (consentPair.Local, consentPair.Remote)
      else none :=
  ⟨by decide, keepalive_resets_send_interval (Duration.ofNat 4000000000) consentRun consentPair checkRequest 0 2000000000
    (by decide) (by decide) (by decide)⟩

end IceAgent.Analysis
