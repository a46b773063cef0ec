import IceAgent.Model.Handshake
import IceAgent.Analysis.Inbound
import IceAgent.Analysis.BindingCache

/-!
# A connectivity check between two agents

The requester's selector signs its request with the requester's `remotePwd`. The
responder hands a request to its selector only when the request passes the integrity
check under the responder's own `localPwd` (`handleInbound_request_checks`). So the
responder accepts the request only when the requester's `remotePwd` keys HMAC-SHA1 as
the responder's password does (`sameHmacKey`): the password itself, or one that differs
from it only by trailing NUL bytes. The responder answers with `sendBindingSuccess`,
signed with its `localPwd`. The answer carries no role attribute, so no agent drops it
for a role conflict. An agent hands the answer to its selector exactly when the answer
passes the check under the agent's `remotePwd` and comes from a known remote, and its
inbound task then marks that remote as heard from (`handleInbound_response`).

The answer repeats the request's transaction id. So when the requester gets it back
within the timeout, `handleInboundBindingSuccess` finds the request it recorded
(`handleInboundBindingSuccess_after_send`), and the check completes with the round-trip
time (`connectivityCheck_completes`).

Before any of this, a request must pass the role filter. A request carries the role
attribute of its sender's role, and the filter drops exactly the requests whose
attribute names the receiver's own role. The tie-breakers are never compared (RFC 8445
§7.3.1.1 has the agent with the larger one keep its role and answer 487): two agents
in the same role drop each other's requests whatever their credentials, so no check
between them ever reaches a selector (`request_reaches_selector_iff_roles_differ`).

`restart` empties the binding cache, clears the remote password and installs a new local
one, so no check of the session before a restart completes after it, unless the new
password keys HMAC-SHA1 as the old one did (`restart_discards_old_session`).

A request that passes every check from an address no remote has teaches the agent a
peer-reflexive remote: it is filed, paired with every local of its type, and recognised
as the remote of that address from then on, so the address is learnt once
(`peerReflexive_remote_learnt_once`).
-/

set_option autoImplicit false

namespace IceAgent.Analysis

open Agent

/-- `parseAddr` reads a candidate's own address back, with its network type. -/
theorem parseAddr_addr (c : Candidate) :
    parseAddr c.addr =
      some (⟨c.address, c.networkType = .udp4 || c.networkType = .tcp4⟩, c.port, c.networkType) := by
  cases h : c.networkType <;> simp [Candidate.addr, parseAddr, networkTypeOf, NetworkType.isTCP, h]

section agent

variable (a : Agent)

/-- `sendBindingSuccess` always answers: the response carries the request's transaction
id, MESSAGE-INTEGRITY under `localPwd` and the remote's address, and the agent records
only that it sent on `Local`. -/
theorem sendBindingSuccess_eq (now : Int) (m : StunMessage) (Local Remote : Candidate) :
    a.sendBindingSuccess now m Local Remote =
      (a.sendSTUN now Local,
        some ⟨{ method := methodBinding, messageClass := .successResponse,
                transactionID := m.transactionID, iceControlling := none, iceControlled := none,
                useCandidate := false, username := none, messageIntegrity := some a.localPwd },
          (⟨Remote.address, Remote.networkType = .udp4 || Remote.networkType = .tcp4⟩, Remote.port)⟩) := by
  simp only [sendBindingSuccess, parseAddr_addr]

/-- `handleInbound` hands a request to the selector only when it carries the agent's
USERNAME and is signed with its `localPwd`. -/
theorem handleInbound_request_checks {env : Env} {m m' : StunMessage} {Local Local' rc : Candidate}
    {remote : NetAddr}
    (h : (a.handleInbound env m Local remote).call = some (.handleBindingRequest m' Local' rc)) :
    m.messageClass = .request ∧ m.usernameOk (a.localUfrag ++ ":" ++ a.remoteUfrag) = true ∧
      m.integrityOk a.localPwd = true := by
  unfold handleInbound at h
  by_cases h₁ : (!isHandledType m) = true
  · rw [if_pos h₁] at h; cases h
  by_cases h₂ : a.roleConflict m = true
  · rw [if_neg h₁, if_pos h₂] at h; cases h
  rw [if_neg h₁, if_neg h₂] at h
  dsimp only at h
  split at h
  · split at h
    · cases h
    · split at h <;> cases h
  · rename_i hclass
    split at h
    · cases h
    rename_i huser
    split at h
    · cases h
    rename_i hint
    exact ⟨hclass, by simpa using huser, by simpa using hint⟩
  · cases h

/-- `handleInbound` hands a success response to the selector only when it is signed with
the agent's `remotePwd`. -/
theorem handleInbound_response_checks {env : Env} {m m' : StunMessage} {Local Local' rc : Candidate}
    {remote remoteAddr : NetAddr}
    (h : (a.handleInbound env m Local remote).call = some (.handleSuccessResponse m' Local' rc remoteAddr)) :
    m.messageClass = .successResponse ∧ m.integrityOk a.remotePwd = true := by
  unfold handleInbound at h
  by_cases h₁ : (!isHandledType m) = true
  · rw [if_pos h₁] at h; cases h
  by_cases h₂ : a.roleConflict m = true
  · rw [if_neg h₁, if_pos h₂] at h; cases h
  rw [if_neg h₁, if_neg h₂] at h
  dsimp only at h
  split at h
  · rename_i hclass
    split at h
    · cases h
    rename_i hint
    exact ⟨hclass, by simpa using hint⟩
  all_goals repeat' split at h
  all_goals cases h

/-- A Binding success response without role attributes is never dropped for a role
conflict. The agent keeps its state, and hands the response to its selector exactly
when it passes the check under `remotePwd` and comes from a known remote, which the
inbound task then marks as heard from. -/
theorem handleInbound_response (env : Env) (m : StunMessage) (Local : Candidate) (src : NetAddr)
    (hmethod : m.method = methodBinding) (hclass : m.messageClass = .successResponse)
    (hc : m.iceControlling = none) (hd : m.iceControlled = none) (hu : m.useCandidate = false) :
    (a.handleInbound env m Local src).agent = a ∧
      (a.handleInbound env m Local src).call =
        (if m.integrityOk a.remotePwd then
          (a.findRemoteCandidate Local.networkType src).map fun rc =>
            .handleSuccessResponse m Local rc src
        else none) ∧
      (a.handleInbound env m Local src).seen =
        if m.integrityOk a.remotePwd then a.findRemoteCandidate Local.networkType src else none := by
  have hhandled : isHandledType m = true := by simp [isHandledType, hmethod, hclass]
  have hrole : a.roleConflict m = false := by simp [roleConflict, hc, hd, hu]
  simp only [handleInbound, hhandled, hrole, hclass, Bool.not_true, Bool.false_eq_true, if_false]
  by_cases hi : m.integrityOk a.remotePwd = true
  · cases a.findRemoteCandidate Local.networkType src <;> simp [hi]
  · simp [hi]

/-- `addRemoteCandidate` keeps the local password. -/
theorem addRemoteCandidate_localPwd (env : Env) (c : Candidate) :
    (a.addRemoteCandidate env c).localPwd = a.localPwd := by
  cases h : (a.remoteCandidates c.networkType).any (·.Equal c)
  · rw [addRemoteCandidate_of_new a env h]
    dsimp only
    split
    · rw [addRemotePassiveTCPCandidate_eq]
    · rfl
  · rw [addRemoteCandidate_of_dup a env h]

/-- Accepting a message never changes the agent's password. -/
theorem handleInbound_localPwd (env : Env) (m : StunMessage) (Local : Candidate) (remote : NetAddr) :
    (a.handleInbound env m Local remote).agent.localPwd = a.localPwd := by
  rcases handleInbound_agent a env m Local remote with h | ⟨c, h⟩ <;> rw [h]
  exact addRemoteCandidate_localPwd a env c

/-- A request sent at `t₀` with an id no pending request has is taken back out of the
cache by its answer at any `t₁` within the timeout, with the round-trip time. -/
theorem handleInboundBindingSuccess_after_send (T : Duration) {t₀ t₁ : Int} (m : StunMessage)
    (Local Remote : Candidate)
    (hnew : ∀ r ∈ a.pendingBindingRequests, r.transactionID ≠ m.transactionID)
    (ht : t₀ ≤ t₁) (hT : t₁ - t₀ < T.ns) :
    ((a.sendBindingRequest T t₀ m Local Remote).handleInboundBindingSuccess T t₁ m.transactionID).2 =
      (true, some ⟨t₀, m.transactionID, Remote.addr, m.useCandidate⟩, Time.sub t₁ t₀) := by
  have hfresh : BindingCache.fresh T t₁ ⟨t₀, m.transactionID, Remote.addr, m.useCandidate⟩ = true :=
    (fresh_iff_sub_lt T ht).mpr hT
  have hold : ∀ y ∈ (a.pendingBindingRequests.filter (BindingCache.fresh T t₀)).filter
      (BindingCache.fresh T t₁), (y.transactionID == m.transactionID) = false := fun y hy => by
    simpa using hnew y (List.mem_of_mem_filter (List.mem_of_mem_filter hy))
  simp only [handleInboundBindingSuccess, sendBindingRequest, sendSTUN, BindingCache.handleSuccess,
    BindingCache.send, BindingCache.invalidate_eq_filter, List.filter_append, List.filter_singleton,
    hfresh, cond_true]
  rw [takeFirst_append_cons _ hold (by simp)]

end agent

/-- For every responder, request and pair of candidates, `sendBindingSuccess` answers:
the answer carries the request's transaction id and, as XOR-MAPPED-ADDRESS, the IP and
port of the remote it answers, and the responder changes only the last-sent time of its
local candidate. Every agent that receives the answer, from any address and on any
local candidate, hands it to its selector exactly when its `remotePwd` keys HMAC-SHA1 as
the responder's `localPwd` does and the address is that of a known remote of the local
candidate's network type; its inbound task then marks that remote as heard from at the
time it runs, and otherwise leaves the agent as it was. -/
theorem bindingSuccess_accepted_iff_passwords_agree (A B : Agent) (env : Env) (now now' : Int)
    (m : StunMessage) (LocalB RemoteB LocalA : Candidate) (src : NetAddr) :
    ∃ resp, B.sendBindingSuccess now m LocalB RemoteB = (B.sendSTUN now LocalB, some resp) ∧
      resp.message.transactionID = m.transactionID ∧
      parseAddr RemoteB.addr =
        some (resp.xorMappedAddress.1, resp.xorMappedAddress.2, RemoteB.networkType) ∧
      (A.handleInbound env resp.message LocalA src).call =
        (if sameHmacKey A.remotePwd B.localPwd then
          (A.findRemoteCandidate LocalA.networkType src).map fun rc =>
            .handleSuccessResponse resp.message LocalA rc src
        else none) ∧
      A.handleInboundTask env resp.message LocalA src now' =
        if sameHmacKey A.remotePwd B.localPwd then
          ((A.findRemoteCandidate LocalA.networkType src).map fun rc => A.seen rc now').getD A
        else A := by
  refine ⟨_, sendBindingSuccess_eq B now m LocalB RemoteB, rfl, parseAddr_addr RemoteB, ?_⟩
  obtain ⟨h₁, h₂, h₃⟩ := handleInbound_response A env
    ⟨methodBinding, .successResponse, m.transactionID, none, none, false, none, some B.localPwd⟩
    LocalA src rfl rfl rfl rfl rfl
  have hkey : StunMessage.integrityOk
      ⟨methodBinding, .successResponse, m.transactionID, none, none, false, none, some B.localPwd⟩
      A.remotePwd = sameHmacKey A.remotePwd B.localPwd := sameHmacKey_comm _ _
  rw [hkey] at h₂ h₃
  refine ⟨h₂, ?_⟩
  simp only [handleInboundTask, h₁, h₃]
  cases sameHmacKey A.remotePwd B.localPwd <;> cases A.findRemoteCandidate LocalA.networkType src <;> rfl

/-- A connectivity check between any two agents. The requester `A` sends a request `m`,
signed with its `remotePwd`, at `t₀`, under an id none of its pending requests has. If
the responder `B` hands `m` to its selector, then `A`'s `remotePwd` is `B`'s
`localPwd`, up to the keys HMAC-SHA1 cannot tell apart. `B` answers `m` with
`sendBindingSuccess`, and `A`, receiving the answer from
a known remote, hands it to its selector. At any `t₁` within the timeout,
`handleInboundBindingSuccess` then returns the recorded request, with its destination
and USE-CANDIDATE flag, and the round-trip time `t₁ - t₀`. -/
theorem connectivityCheck_completes (T : Duration) (A B : Agent) (envA envB : Env)
    (t₀ t₁ tB : Int) (m : StunMessage) (LocalA RemoteA LocalB rcA rcB : Candidate)
    (srcA srcB : NetAddr) (hsigned : m.integrityOk A.remotePwd = true)
    (hnew : ∀ r ∈ A.pendingBindingRequests, r.transactionID ≠ m.transactionID)
    (haccepted : (B.handleInbound envB m LocalB srcB).call = some (.handleBindingRequest m LocalB rcB))
    (hknown : A.findRemoteCandidate LocalA.networkType srcA = some rcA)
    (ht : t₀ ≤ t₁) (hT : t₁ - t₀ < T.ns) :
    sameHmacKey A.remotePwd B.localPwd = true ∧
      ∃ resp, ((B.handleInbound envB m LocalB srcB).agent.sendBindingSuccess tB m LocalB rcB).2 =
          some resp ∧
        ((A.sendBindingRequest T t₀ m LocalA RemoteA).handleInbound envA resp.message LocalA srcA).call =
          some (.handleSuccessResponse resp.message LocalA rcA srcA) ∧
        ((A.sendBindingRequest T t₀ m LocalA RemoteA).handleInboundBindingSuccess T t₁
            resp.message.transactionID).2 =
          (true, some ⟨t₀, m.transactionID, RemoteA.addr, m.useCandidate⟩, Time.sub t₁ t₀) := by
  have hpwd : sameHmacKey A.remotePwd B.localPwd = true :=
    StunMessage.sameHmacKey_of_integrityOk hsigned (handleInbound_request_checks B haccepted).2.2
  refine ⟨hpwd, _, congrArg Prod.snd (sendBindingSuccess_eq _ tB m LocalB rcB), ?_,
    handleInboundBindingSuccess_after_send A T m LocalA RemoteA hnew ht hT⟩
  have hknown₁ : (A.sendBindingRequest T t₀ m LocalA RemoteA).findRemoteCandidate
      LocalA.networkType srcA = some rcA := hknown
  rw [(handleInbound_response _ envA
    ⟨methodBinding, .successResponse, m.transactionID, none, none, false, none,
      some (B.handleInbound envB m LocalB srcB).agent.localPwd⟩ LocalA srcA rfl rfl rfl rfl rfl).2.1, hknown₁]
  simp [StunMessage.integrityOk, handleInbound_localPwd, sendBindingRequest, sendSTUN,
    sameHmacKey_symm hpwd]

/-! ## Two agents that have exchanged credentials -/

/-- A controlling agent that knows the responder's host candidate. -/
def requester : Agent :=
  (((newAgent udpConfig).restart "ufA" "pwA").startConnectivityChecks true "ufB" "pwB").addRemoteCandidate
    noEnv (hostCandidate .udp4 .unspecified "10.0.0.2" 5000)

/-- A controlled agent that knows no remote yet. -/
def responder : Agent :=
  ((newAgent udpConfig).restart "ufB" "pwB").startConnectivityChecks false "ufA" "pwA"

/-- The requester's check, as its selector signs it. -/
def checkRequest : StunMessage :=
  { method := methodBinding, messageClass := .request, transactionID := 1,
    iceControlling := some 0, iceControlled := none, useCandidate := true,
    username := some "ufB:ufA", messageIntegrity := some "pwB" }

/-- The requester's check, signed with the responder's password, is accepted and answered,
and the requester takes the answer as the success of its pending request. -/
theorem connectivityCheck_completes_requester :
    checkRequest.integrityOk requester.remotePwd = true ∧
    (∀ r ∈ requester.pendingBindingRequests, r.transactionID ≠ checkRequest.transactionID) ∧
    (responder.handleInbound noEnv checkRequest (hostCandidate .udp4 .unspecified "10.0.0.2" 5000)
        (.udp ⟨"10.0.0.1", true⟩ 5000)).call =
      some (.handleBindingRequest checkRequest (hostCandidate .udp4 .unspecified "10.0.0.2" 5000)
        (newCandidatePeerReflexive ⟨"10.0.0.1", true⟩ 5000 .udp4 componentRTP)) ∧
    requester.findRemoteCandidate .udp4 (.udp ⟨"10.0.0.2", true⟩ 5000) =
      some (hostCandidate .udp4 .unspecified "10.0.0.2" 5000) ∧
    (0 : Int) ≤ 1 ∧ (1 : Int) - 0 < (Duration.ofNat 4000000000).ns ∧
    (sameHmacKey requester.remotePwd responder.localPwd = true ∧
      ∃ resp, ((responder.handleInbound noEnv checkRequest
            (hostCandidate .udp4 .unspecified "10.0.0.2" 5000) (.udp ⟨"10.0.0.1", true⟩ 5000)).agent.sendBindingSuccess
            0 checkRequest (hostCandidate .udp4 .unspecified "10.0.0.2" 5000)
            (newCandidatePeerReflexive ⟨"10.0.0.1", true⟩ 5000 .udp4 componentRTP)).2 = some resp ∧
        ((requester.sendBindingRequest (Duration.ofNat 4000000000) 0 checkRequest
            (hostCandidate .udp4 .unspecified "10.0.0.1" 5000)
            (hostCandidate .udp4 .unspecified "10.0.0.2" 5000)).handleInbound noEnv resp.message
            (hostCandidate .udp4 .unspecified "10.0.0.1" 5000) (.udp ⟨"10.0.0.2", true⟩ 5000)).call =
          some (.handleSuccessResponse resp.message (hostCandidate .udp4 .unspecified "10.0.0.1" 5000)
            (hostCandidate .udp4 .unspecified "10.0.0.2" 5000) (.udp ⟨"10.0.0.2", true⟩ 5000)) ∧
        ((requester.sendBindingRequest (Duration.ofNat 4000000000) 0 checkRequest
            (hostCandidate .udp4 .unspecified "10.0.0.1" 5000)
            (hostCandidate .udp4 .unspecified "10.0.0.2" 5000)).handleInboundBindingSuccess
            (Duration.ofNat 4000000000) 1 resp.message.transactionID).2 =
          (true, some ⟨0, checkRequest.transactionID,
            (hostCandidate .udp4 .unspecified "10.0.0.2" 5000).addr, checkRequest.useCandidate⟩,
            Time.sub 1 0)) :=
  have hsigned : checkRequest.integrityOk requester.remotePwd = true := by decide
  have hnew : ∀ r ∈ requester.pendingBindingRequests, r.transactionID ≠ checkRequest.transactionID :=
    by decide
  have haccepted : (responder.handleInbound noEnv checkRequest
      (hostCandidate .udp4 .unspecified "10.0.0.2" 5000) (.udp ⟨"10.0.0.1", true⟩ 5000)).call =
      some (.handleBindingRequest checkRequest (hostCandidate .udp4 .unspecified "10.0.0.2" 5000)
        (newCandidatePeerReflexive ⟨"10.0.0.1", true⟩ 5000 .udp4 componentRTP)) := by decide
  have hknown : requester.findRemoteCandidate .udp4 (.udp ⟨"10.0.0.2", true⟩ 5000) =
      some (hostCandidate .udp4 .unspecified "10.0.0.2" 5000) := by decide
  ⟨hsigned, hnew, haccepted, hknown, by decide, by decide,
    connectivityCheck_completes _ _ _ noEnv noEnv 0 1 0 checkRequest _ _ _ _ _ _ _ hsigned hnew
      haccepted hknown (by decide) (by decide)⟩

/-- For every two agents `A` and `B` and every Binding request `m` that `A` sends with
the role attributes of its role (ICE-CONTROLLING, and USE-CANDIDATE when it nominates,
from a controlling agent; ICE-CONTROLLED alone from a controlled one), signed for `B`,
from an address that parses: `B` hands `m` to its selector exactly when the two agents
are in different roles, whatever their tie-breakers. In the same role `B` drops `m`,
and its inbound task leaves it exactly as it was. -/
theorem request_reaches_selector_iff_roles_differ (A B : Agent) (env : Env) (m : StunMessage)
    (Local : Candidate) (remote : NetAddr) (now : Int) (hmethod : m.method = methodBinding)
    (hclass : m.messageClass = .request)
    (hrole : if A.isControlling then m.iceControlling.isSome = true ∧ m.iceControlled = none
      else m.iceControlled.isSome = true ∧ m.iceControlling = none ∧ m.useCandidate = false)
    (huser : m.usernameOk (B.localUfrag ++ ":" ++ B.remoteUfrag) = true)
    (hint : m.integrityOk B.localPwd = true) (haddr : (parseAddr remote).isSome = true) :
    ((B.handleInbound env m Local remote).call.isSome = true ↔ A.isControlling ≠ B.isControlling) ∧
      (A.isControlling = B.isControlling → B.handleInboundTask env m Local remote now = B) := by
  have hhandled : isHandledType m = true := by simp [isHandledType, hmethod, hclass]
  have hconf : B.roleConflict m = decide (A.isControlling = B.isControlling) := by
    unfold roleConflict
    cases hA : A.isControlling <;> cases hB : B.isControlling <;> simp_all
  by_cases hsame : A.isControlling = B.isControlling
  · have hdrop : B.handleInbound env m Local remote = ⟨B, none, none⟩ := by
      simp [handleInbound, hhandled, hconf, hsame]
    exact ⟨by simp [hdrop, hsame], fun _ => by simp [handleInboundTask, hdrop]⟩
  · refine ⟨iff_of_true ?_ hsame, fun h => absurd h hsame⟩
    obtain ⟨⟨ip, port, n⟩, hp⟩ := Option.isSome_iff_exists.mp haddr
    simp only [handleInbound, hhandled, hconf, hsame, hclass, huser, hint, decide_False,
      Bool.not_true, Bool.false_eq_true, if_false]
    cases B.findRemoteCandidate Local.networkType remote <;> simp [hp]

/-- The requester's check reaches the responder's selector: the two are in different
roles. -/
theorem request_reaches_selector_iff_roles_differ_requester :
    (if requester.isControlling then checkRequest.iceControlling.isSome = true ∧
        checkRequest.iceControlled = none
      else checkRequest.iceControlled.isSome = true ∧ checkRequest.iceControlling = none ∧
        checkRequest.useCandidate = false) ∧
    checkRequest.usernameOk (responder.localUfrag ++ ":" ++ responder.remoteUfrag) = true ∧
    checkRequest.integrityOk responder.localPwd = true ∧
    (((responder.handleInbound noEnv checkRequest (hostCandidate .udp4 .unspecified "10.0.0.2" 5000)
        (.udp ⟨"10.0.0.1", true⟩ 5000)).call.isSome = true ↔
        requester.isControlling ≠ responder.isControlling) ∧
      (requester.isControlling = responder.isControlling →
        responder.handleInboundTask noEnv checkRequest (hostCandidate .udp4 .unspecified "10.0.0.2" 5000)
          (.udp ⟨"10.0.0.1", true⟩ 5000) 0 = responder)) :=
  have hrole : if requester.isControlling then checkRequest.iceControlling.isSome = true ∧
        checkRequest.iceControlled = none
      else checkRequest.iceControlled.isSome = true ∧ checkRequest.iceControlling = none ∧
        checkRequest.useCandidate = false := by decide
  have huser : checkRequest.usernameOk (responder.localUfrag ++ ":" ++ responder.remoteUfrag) = true := by
    decide
  have hint : checkRequest.integrityOk responder.localPwd = true := by decide
  ⟨hrole, huser, hint, request_reaches_selector_iff_roles_differ requester responder noEnv checkRequest _ _ 0
    rfl rfl hrole huser hint rfl⟩

/-! ## Restart -/

/-- For every agent and every pair of credentials `restart` runs with, the agent it leaves
matches no transaction id against its binding cache; hands its selector no success
response that fails the integrity check under the empty password, the remote password
`restart` leaves; and drops every request that passes the check under its old password
when the new one keys HMAC-SHA1 differently. So no check of the session before the
restart completes after it. -/
theorem restart_discards_old_session (T : Duration) (a : Agent) (ufrag pwd : String) (env : Env)
    (m : StunMessage) (Local : Candidate) (remote : NetAddr) (now : Int) (id : TransactionID) :
    ((a.restart ufrag pwd).handleInboundBindingSuccess T now id).2.1 = false ∧
    (m.messageClass = .successResponse → m.integrityOk "" = false →
      ((a.restart ufrag pwd).handleInbound env m Local remote).call = none) ∧
    (m.messageClass = .request → m.integrityOk a.localPwd = true → sameHmacKey a.localPwd pwd = false →
      ((a.restart ufrag pwd).handleInbound env m Local remote).call = none) := by
  have hcred : (a.restart ufrag pwd).remotePwd = "" ∧ (a.restart ufrag pwd).localPwd = pwd := by
    rw [restart_eq]
    exact ⟨rfl, rfl⟩
  refine ⟨?_, fun hclass hkey => ?_, fun hclass hold hne => ?_⟩
  · simp [handleInboundBindingSuccess, BindingCache.handleSuccess, restart_pending,
      BindingCache.invalidate_eq_filter, takeFirst]
  all_goals
    rcases hc : ((a.restart ufrag pwd).handleInbound env m Local remote).call with _ | (c | c)
    · rfl
  · obtain ⟨-, hint⟩ := handleInbound_response_checks _ hc
    rw [hcred.1] at hint
    exact absurd hint (by rw [hkey]; nofun)
  · exact absurd (handleInbound_request_checks _ hc).1 (by rw [hclass]; nofun)
  · exact absurd (handleInbound_response_checks _ hc).1 (by rw [hclass]; nofun)
  · have hint := (handleInbound_request_checks _ hc).2.2
    rw [hcred.2] at hint
    exact absurd (StunMessage.sameHmacKey_of_integrityOk hold hint) (by rw [hne]; nofun)

/-- The responder's answer to the requester's check, as `sendBindingSuccess` builds it. -/
def checkAnswer : StunMessage :=
  { method := methodBinding, messageClass := .successResponse, transactionID := 1,
    iceControlling := none, iceControlled := none, useCandidate := false, username := none,
    messageIntegrity := some "pwB" }

/-- The responder, restarted with new credentials, drops the check it accepted before and
an answer signed as its own was, and matches no transaction. -/
theorem restart_discards_old_session_responder :
    checkAnswer.messageClass = .successResponse ∧ checkAnswer.integrityOk "" = false ∧
    checkRequest.messageClass = .request ∧ checkRequest.integrityOk responder.localPwd = true ∧
    sameHmacKey responder.localPwd "pwC0123456789abc" = false ∧
    (((responder.restart "ufC" "pwC0123456789abc").handleInboundBindingSuccess (Duration.ofNat 4000000000) 0
        1).2.1 = false ∧
      (checkAnswer.messageClass = .successResponse → checkAnswer.integrityOk "" = false →
        ((responder.restart "ufC" "pwC0123456789abc").handleInbound noEnv checkAnswer
          (hostCandidate .udp4 .unspecified "10.0.0.2" 5000) (.udp ⟨"10.0.0.1", true⟩ 5000)).call = none) ∧
      (checkAnswer.messageClass = .request → checkAnswer.integrityOk responder.localPwd = true →
        sameHmacKey responder.localPwd "pwC0123456789abc" = false →
        ((responder.restart "ufC" "pwC0123456789abc").handleInbound noEnv checkAnswer
          (hostCandidate .udp4 .unspecified "10.0.0.2" 5000) (.udp ⟨"10.0.0.1", true⟩ 5000)).call = none)) ∧
    (((responder.restart "ufC" "pwC0123456789abc").handleInboundBindingSuccess (Duration.ofNat 4000000000) 0
        1).2.1 = false ∧
      (checkRequest.messageClass = .successResponse → checkRequest.integrityOk "" = false →
        ((responder.restart "ufC" "pwC0123456789abc").handleInbound noEnv checkRequest
          (hostCandidate .udp4 .unspecified "10.0.0.2" 5000) (.udp ⟨"10.0.0.1", true⟩ 5000)).call = none) ∧
      (checkRequest.messageClass = .request → checkRequest.integrityOk responder.localPwd = true →
        sameHmacKey responder.localPwd "pwC0123456789abc" = false →
        ((responder.restart "ufC" "pwC0123456789abc").handleInbound noEnv checkRequest
          (hostCandidate .udp4 .unspecified "10.0.0.2" 5000) (.udp ⟨"10.0.0.1", true⟩ 5000)).call = none)) :=
  ⟨rfl, by decide, rfl, by decide, by decide,
    restart_discards_old_session (Duration.ofNat 4000000000) responder "ufC" "pwC0123456789abc" noEnv
      checkAnswer _ _ 0 1,
    restart_discards_old_session (Duration.ofNat 4000000000) responder "ufC" "pwC0123456789abc" noEnv
      checkRequest _ _ 0 1⟩

/-! ## Learning the requester's address -/

section agent

variable (a : Agent)

/-- A Binding request that passes the role filter and both credential checks, from an
address no remote has, files a peer-reflexive remote built from the address and hands
the request to the selector with it. -/
theorem handleInbound_of_unknown_request (env : Env) {m : StunMessage} {Local : Candidate} {remote : NetAddr}
    {ip : IPAddr} {port : Nat} {n : NetworkType}
    (hm : m.method = methodBinding) (hclass : m.messageClass = .request) (hrole : a.roleConflict m = false)
    (huser : m.usernameOk (a.localUfrag ++ ":" ++ a.remoteUfrag) = true) (hint : m.integrityOk a.localPwd = true)
    (hfind : a.findRemoteCandidate Local.networkType remote = none) (haddr : parseAddr remote = some (ip, port, n)) :
    a.handleInbound env m Local remote =
      ⟨a.addRemoteCandidate env (newCandidatePeerReflexive ip port n Local.component),
        some (.handleBindingRequest m Local (newCandidatePeerReflexive ip port n Local.component)),
        some (newCandidatePeerReflexive ip port n Local.component)⟩ := by
  have hhandled : isHandledType m = true := by simp [isHandledType, hm, hclass]
  simp [handleInbound, hhandled, hrole, hclass, huser, hint, hfind, haddr]

/-- A Binding request that passes the role filter and both credential checks, from a
known remote's address, reaches the selector with that remote and changes nothing. -/
theorem handleInbound_of_known_request (env : Env) {m : StunMessage} {Local rc : Candidate} {remote : NetAddr}
    (hm : m.method = methodBinding) (hclass : m.messageClass = .request) (hrole : a.roleConflict m = false)
    (huser : m.usernameOk (a.localUfrag ++ ":" ++ a.remoteUfrag) = true) (hint : m.integrityOk a.localPwd = true)
    (hfind : a.findRemoteCandidate Local.networkType remote = some rc) :
    a.handleInbound env m Local remote = ⟨a, some (.handleBindingRequest m Local rc), some rc⟩ := by
  have hhandled : isHandledType m = true := by simp [isHandledType, hm, hclass]
  simp [handleInbound, hhandled, hrole, hclass, huser, hint, hfind]

end agent

/-- For every agent and every Binding request that passes the role filter and both
credential checks, arriving on `Local` from an address of `Local`'s network type that no
remote has (a peer behind a NAT, say): the agent files a peer-reflexive remote with that
address and `Local`'s component after the remotes it had, pairs it with every local of
that type, and hands the request to its selector with it. From then on it finds that
remote as the one of the address, so the same request again reaches the selector with
the same remote and files nothing more. -/
theorem peerReflexive_remote_learnt_once (a : Agent) (env env' : Env) (m : StunMessage) (Local : Candidate)
    (remote : NetAddr) (ip : IPAddr) (port : Nat) (now now' : Int)
    (hm : m.method = methodBinding) (hclass : m.messageClass = .request) (hrole : a.roleConflict m = false)
    (huser : m.usernameOk (a.localUfrag ++ ":" ++ a.remoteUfrag) = true) (hint : m.integrityOk a.localPwd = true)
    (hunknown : a.findRemoteCandidate Local.networkType remote = none)
    (haddr : parseAddr remote = some (ip, port, Local.networkType)) :
    let prflx := newCandidatePeerReflexive ip port Local.networkType Local.component
    let a' := a.handleInboundTask env m Local remote now
    (a.handleInbound env m Local remote).call = some (.handleBindingRequest m Local prflx) ∧
    a'.remoteCandidates Local.networkType = a.remoteCandidates Local.networkType ++ [prflx] ∧
    (∀ l ∈ a.localCandidates Local.networkType, (l, prflx) ∈ a'.checklist.map CandidatePair.endpoints) ∧
    a'.findRemoteCandidate Local.networkType remote = some prflx ∧
    (a'.handleInbound env' m Local remote).call = some (.handleBindingRequest m Local prflx) ∧
    (a'.handleInboundTask env' m Local remote now').remoteCandidates = a'.remoteCandidates := by
  intro prflx a'
  have hnew : (a.remoteCandidates prflx.networkType).any (·.Equal prflx) = false := by
    refine List.any_eq_false.mpr fun c hc heq => ?_
    obtain ⟨-, hadd, hport, -⟩ := (Candidate.Equal_iff c prflx).mp heq
    exact findRemoteCandidate_eq_none a haddr hunknown c hc ⟨hadd, hport⟩
  have hsynth : a.synthesizes prflx = false := by simp [synthesizes, prflx, newCandidatePeerReflexive]
  have hin := handleInbound_of_unknown_request a env hm hclass hrole huser hint hunknown haddr
  have ha' : a' = ({ a with
      remoteCandidates := Function.update a.remoteCandidates Local.networkType
        (a.remoteCandidates Local.networkType ++ [prflx]),
      checklist := a.checklist ++ (a.localCandidates Local.networkType).map fun l =>
        newCandidatePair l prflx a.isControlling,
      forceCandidateContact := true } : Agent).seen prflx now := by
    simp only [a', handleInboundTask, hin, addRemoteCandidate_of_new a env hnew, hsynth]
    rfl
  have hremotes : a'.remoteCandidates Local.networkType = a.remoteCandidates Local.networkType ++ [prflx] := by
    rw [ha']
    exact Function.update_same _ _ _
  have hfind : a'.findRemoteCandidate Local.networkType remote = some prflx := by
    unfold findRemoteCandidate at hunknown ⊢
    rw [haddr] at hunknown ⊢
    dsimp only at hunknown ⊢
    rw [hremotes, List.find?_append, hunknown]
    simp [prflx, newCandidatePeerReflexive]
  have hin' := handleInbound_of_known_request a' env' hm hclass
    (by rw [ha']; exact hrole) (by rw [ha']; exact huser) (by rw [ha']; exact hint) hfind
  refine ⟨by rw [hin], hremotes, fun l hl => ?_, hfind, by rw [hin'], by simp only [handleInboundTask, hin']; rfl⟩
  rw [ha']
  exact List.mem_map.mpr ⟨_, List.mem_append_right _ (List.mem_map_of_mem _ hl), rfl⟩

/-- The responder, which knows no remote, learns the requester's address from its check
and recognises it the second time. -/
theorem peerReflexive_remote_learnt_once_responder :
    responder.findRemoteCandidate NetworkType.udp4 (.udp ⟨"10.0.0.1", true⟩ 5000) = none ∧
    let prflx := newCandidatePeerReflexive ⟨"10.0.0.1", true⟩ 5000
      (hostCandidate .udp4 .unspecified "10.0.0.2" 5000).networkType
      (hostCandidate .udp4 .unspecified "10.0.0.2" 5000).component
    let a' := responder.handleInboundTask noEnv checkRequest (hostCandidate .udp4 .unspecified "10.0.0.2" 5000)
      (.udp ⟨"10.0.0.1", true⟩ 5000) 0
    (responder.handleInbound noEnv checkRequest (hostCandidate .udp4 .unspecified "10.0.0.2" 5000)
        (.udp ⟨"10.0.0.1", true⟩ 5000)).call =
      some (.handleBindingRequest checkRequest (hostCandidate .udp4 .unspecified "10.0.0.2" 5000) prflx) ∧
    a'.remoteCandidates (hostCandidate .udp4 .unspecified "10.0.0.2" 5000).networkType =
      responder.remoteCandidates (hostCandidate .udp4 .unspecified "10.0.0.2" 5000).networkType ++ [prflx] ∧
    (∀ l ∈ responder.localCandidates (hostCandidate .udp4 .unspecified "10.0.0.2" 5000).networkType,
      (l, prflx) ∈ a'.checklist.map CandidatePair.endpoints) ∧
    a'.findRemoteCandidate (hostCandidate .udp4 .unspecified "10.0.0.2" 5000).networkType
      (.udp ⟨"10.0.0.1", true⟩ 5000) = some prflx ∧
    (a'.handleInbound noEnv checkRequest (hostCandidate .udp4 .unspecified "10.0.0.2" 5000)
        (.udp ⟨"10.0.0.1", true⟩ 5000)).call =
      some (.handleBindingRequest checkRequest (hostCandidate .udp4 .unspecified "10.0.0.2" 5000) prflx) ∧
    (a'.handleInboundTask noEnv checkRequest (hostCandidate .udp4 .unspecified "10.0.0.2" 5000)
        (.udp ⟨"10.0.0.1", true⟩ 5000) 1).remoteCandidates = a'.remoteCandidates :=
  ⟨by decide, peerReflexive_remote_learnt_once responder noEnv noEnv checkRequest _ _ _ _ 0 1 rfl rfl
    (by decide) (by decide) (by decide) (by decide) rfl⟩

end IceAgent.Analysis
