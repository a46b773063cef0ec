import IceAgent.Model.NewAgent
import IceAgent.Analysis.ExternalIP
import IceAgent.Analysis.Restart

/-!
# What `NewAgent` accepts and what it returns

`strings.Split` returns one more part than the name has dots, and `.local` has one. So
the host-name check accepts exactly a label without a dot followed by `.local`
(`validMulticastDNSHostName_iff`). The label may be empty: `.local` itself passes.

Each check of `NewAgent` is an early return (`ite_error_eq_ok`), so `NewAgent` builds
an agent exactly when every check passes (`NewAgent_eq_ok`). What it builds is the
state `Restart`'s task leaves on the agent the task loop starts with, which is one
task away from the model's initial state. So every agent `NewAgent` returns is a
reachable state, and every invariant proved of the reachable states holds of it.
-/

set_option autoImplicit false

namespace IceAgent.Analysis

open Agent

/-- The host-name check of `NewAgent` accepts exactly a label without a dot followed by
`.local`; the label may be empty. -/
theorem validMulticastDNSHostName_iff (name : String) :
    validMulticastDNSHostName name = true ↔
      ∃ label : String, '.' ∉ label.data ∧ name = label ++ ".local" := by
  have hlocal : ".local".data.count '.' = 1 := by decide
  simp only [validMulticastDNSHostName, hasSuffix, Bool.and_eq_true, List.isSuffixOf_iff_suffix,
    beq_iff_eq, split_length]
  constructor
  · rintro ⟨⟨p, hp⟩, hc⟩
    have hcount : name.toList.count '.' = p.count '.' + 1 := by
      rw [String.toList, ← hp, List.count_append, hlocal]
    refine ⟨⟨p⟩, fun h => ?_, String.ext (by simpa using hp.symm)⟩
    have := List.count_pos_iff.mpr (show '.' ∈ p from h)
    omega
  · rintro ⟨label, hl, rfl⟩
    refine ⟨⟨label.data, (String.data_append _ _).symm⟩, ?_⟩
    simp [String.toList, List.count_append, List.count_eq_zero_of_not_mem hl, hlocal]

example : validMulticastDNSHostName "x.local" = true := by
  simp only [validMulticastDNSHostName, hasSuffix, split_length]; decide

example : validMulticastDNSHostName "a.b.local" = false := by
  simp only [validMulticastDNSHostName, hasSuffix, split_length]; decide

example : validMulticastDNSHostName ".local" = true := by
  simp only [validMulticastDNSHostName, hasSuffix, split_length]; decide

/-- One early return: the rest runs exactly when the check passes. -/
theorem ite_error_eq_ok {ε α : Type} {c P R : Prop} [Decidable c] {e : ε} {rest : Except ε α}
    {a : α} (hc : c ↔ ¬ P) (hrest : rest = .ok a ↔ R) :
    (if c then .error e else rest) = .ok a ↔ P ∧ R := by
  by_cases h : c
  · simp [h, hc.mp h]
  · simp [h, not_not.mp (hc.not.mp h), hrest]

/-- `NewAgent` builds an agent exactly when every check passes, and then builds what
`Restart` leaves. -/
theorem NewAgent_eq_ok (config : NewAgentConfig) (os : Startup) (a : Agent) :
    NewAgent config os = .ok a ↔
      config.portMin.toNat ≤ config.portMax.toNat ∧
      (∃ name, (if config.multicastDNSHostName = "" then os.generateMulticastDNSName
          else some config.multicastDNSHostName) = some name ∧
        validMulticastDNSHostName name = true) ∧
      os.newNet = true ∧
      (config.agent.lite = true → config.candidateTypes = [.host]) ∧
      (config.urls ≠ [] → .serverReflexive ∈ config.candidateTypes ∨ .relay ∈ config.candidateTypes) ∧
      os.initExtIPMapping = true ∧
      (newAgent config.agent).Restart os.generateUFrag os.generatePwd config.localUfrag
        config.localPwd = (a, none) := by
  have honlyHost : ∀ l : List CandidateType,
      (l.length != 1 || l[0]? != some .host) = true ↔ l ≠ [.host] := by
    intro l
    rcases l with _ | ⟨x, _ | ⟨y, l⟩⟩ <;> simp
  unfold NewAgent
  refine ite_error_eq_ok Nat.not_le.symm ?_
  split
  · rename_i hname
    simp [hname]
  rename_i name hname
  simp only [hname, Option.some.injEq, exists_eq_left']
  refine ite_error_eq_ok (by simp) (ite_error_eq_ok (by simp) (ite_error_eq_ok ?_
    (ite_error_eq_ok ?_ (ite_error_eq_ok (by simp) ?_))))
  · rw [Bool.and_eq_true, honlyHost]
    tauto
  · simp [List.length_pos, and_assoc]
  · rcases (newAgent config.agent).Restart os.generateUFrag os.generatePwd config.localUfrag
      config.localPwd with ⟨b, _ | e⟩ <;> simp

/-- `Restart` succeeds exactly when the credentials it ends up with are long enough, and
then runs its task with them. -/
theorem Restart_eq_none_iff (a b : Agent) (generateUFrag generatePwd : Option String)
    (ufrag pwd : String) :
    a.Restart generateUFrag generatePwd ufrag pwd = (b, none) ↔
      ∃ u p, (if ufrag = "" then generateUFrag else some ufrag) = some u ∧
        (if pwd = "" then generatePwd else some pwd) = some p ∧ 3 ≤ u.length ∧ 16 ≤ p.length ∧
        b = a.restart u p := by
  constructor
  · intro h
    cases hu : (if ufrag = "" then generateUFrag else some ufrag) with
    | none => simp [Restart, hu] at h
    | some u =>
      cases hp : (if pwd = "" then generatePwd else some pwd) with
      | none => simp [Restart, hu, hp] at h
      | some p =>
        rw [Restart_of_some a _ _ _ _ hu hp] at h
        split_ifs at h with h₁ h₂
        · simp at h
        · simp at h
        · exact ⟨u, p, rfl, rfl, by omega, by omega, (Prod.mk.inj h).1.symm⟩
  · rintro ⟨u, p, hu, hp, h₁, h₂, rfl⟩
    rw [Restart_of_some a _ _ _ _ hu hp, if_neg (by omega), if_neg (by omega)]

/-- For every configuration and every outcome of the collaborators that are not among
the sources, `NewAgent` returns an agent exactly when: the port range is ordered; the
multicast DNS host name (the configured one, or the generated one when it is empty) is
a label without a dot followed by `.local`, the empty label included; the agent has a
network; lite mode comes with the host candidate type alone; URLs come with the
server-reflexive or the relay candidate type; `initExtIPMapping` succeeds; and the
local credentials (the configured ones, or the generated ones when empty) have at least
3 and 16 runes. Every agent it returns is a reachable state. It is New with no event
queued, holds no candidate, pair, pending request or selected pair and no remote
credentials, and holds those local credentials. -/
theorem NewAgent_ok_iff_checks_pass (T : Duration) (config : NewAgentConfig) (os : Startup) :
    ((∃ a, NewAgent config os = .ok a) ↔
      config.portMin.toNat ≤ config.portMax.toNat ∧
      (∃ label, '.' ∉ label.data ∧ (if config.multicastDNSHostName = "" then
          os.generateMulticastDNSName else some config.multicastDNSHostName) = some (label ++ ".local")) ∧
      os.newNet = true ∧
      (config.agent.lite = true → config.candidateTypes = [.host]) ∧
      (config.urls ≠ [] → .serverReflexive ∈ config.candidateTypes ∨ .relay ∈ config.candidateTypes) ∧
      os.initExtIPMapping = true ∧
      ∃ u p, (if config.localUfrag = "" then os.generateUFrag else some config.localUfrag) = some u ∧
        (if config.localPwd = "" then os.generatePwd else some config.localPwd) = some p ∧
        3 ≤ u.length ∧ 16 ≤ p.length) ∧
    ∀ a, NewAgent config os = .ok a →
      Reachable T a ∧ a.connectionState = .new ∧ a.connectionStateNotifier = [] ∧
      (∀ n, a.localCandidates n = [] ∧ a.remoteCandidates n = []) ∧ a.checklist = [] ∧
      a.pendingBindingRequests = [] ∧ a.selectedPair = none ∧ a.remoteUfrag = "" ∧
      a.remotePwd = "" ∧
      (if config.localUfrag = "" then os.generateUFrag else some config.localUfrag) = some a.localUfrag ∧
      (if config.localPwd = "" then os.generatePwd else some config.localPwd) = some a.localPwd := by
  have hname : (∃ name, (if config.multicastDNSHostName = "" then os.generateMulticastDNSName
        else some config.multicastDNSHostName) = some name ∧ validMulticastDNSHostName name = true) ↔
      ∃ label, '.' ∉ label.data ∧ (if config.multicastDNSHostName = "" then
        os.generateMulticastDNSName else some config.multicastDNSHostName) = some (label ++ ".local") := by
    simp only [validMulticastDNSHostName_iff]
    constructor
    · rintro ⟨_, hn, label, hl, rfl⟩
      exact ⟨label, hl, hn⟩
    · rintro ⟨label, hl, hn⟩
      exact ⟨_, hn, label, hl, rfl⟩
  constructor
  · simp only [NewAgent_eq_ok, Restart_eq_none_iff, hname]
    constructor
    · rintro ⟨a, h₁, h₂, h₃, h₄, h₅, h₆, u, p, hu, hp, hu', hp', -⟩
      exact ⟨h₁, h₂, h₃, h₄, h₅, h₆, u, p, hu, hp, hu', hp'⟩
    · rintro ⟨h₁, h₂, h₃, h₄, h₅, h₆, u, p, hu, hp, hu', hp'⟩
      exact ⟨_, h₁, h₂, h₃, h₄, h₅, h₆, u, p, hu, hp, hu', hp', rfl⟩
  · intro a h
    obtain ⟨-, -, -, -, -, -, hr⟩ := (NewAgent_eq_ok config os a).mp h
    obtain ⟨u, p, hu, hp, -, -, -⟩ := (Restart_eq_none_iff _ _ _ _ _ _).mp hr
    have hreach := Restart_reachable (newAgent config.agent) os.generateUFrag os.generatePwd
      config.localUfrag config.localPwd (Reachable.init config.agent : Reachable T _)
    obtain ⟨-, -, hspec⟩ := Restart_spec (newAgent config.agent) _ _ _ _ hu hp
    rw [hr] at hreach hspec
    obtain ⟨h₁, h₂, h₃, -, h₄, -, hlu, hlp, h₅, h₆, -, h₇, h₈⟩ := hspec rfl
    simp only [newAgent, if_true] at h₇ h₈
    exact ⟨hreach, h₇, by simpa [h₇] using h₈, h₃, h₁, h₂, h₄, h₅, h₆, hlu ▸ hu, hlp ▸ hp⟩

end IceAgent.Analysis
