import IceAgent.Model.Loop
import Mathlib.Data.String.Basic

/-!
# Building an agent

`NewAgent` (agent.go:254-386) checks its configuration, builds the agent, starts the
task loop and runs `Restart` with the configured credentials, which generates the
empty ones. It returns the first error among its checks, in the order below:

* the port range (`PortMax < PortMin`);
* the multicast DNS host name, generated when empty, which must end in `.local` and
  split on `.` into exactly two parts;
* the network: `stdnet.NewNet` when no `Net` is configured;
* lite mode, which allows exactly the host candidate type;
* URLs, which need the server-reflexive or the relay candidate type;
* `initExtIPMapping`;
* `Restart`.

The candidate types are those `initWithDefaults` leaves. `initWithDefaults`,
`initExtIPMapping`, `generateMulticastDNSName` and `stdnet.NewNet` are not among the
sources, so what they return is given (`Startup`), as for `Restart`'s generators. The
multicast DNS connection is opportunistic (its failure is only logged), and the agent
keeps nothing of it that a modelled function reads.
-/

set_option autoImplicit false

namespace IceAgent

/-- What `NewAgent` reads of its `AgentConfig`: the fields it checks, the candidate
types once `initWithDefaults` has run, the credentials it restarts with, and the
loop-owned fields once defaults are applied. -/
structure NewAgentConfig where
  portMin : UInt16
  portMax : UInt16
  multicastDNSHostName : String
  candidateTypes : List CandidateType
  urls : List String
  localUfrag : String
  localPwd : String
  agent : AgentConfig

/-- What the collaborators of `NewAgent` that are not among the sources return. -/
structure Startup where
  /-- `generateMulticastDNSName`, none when it fails. -/
  generateMulticastDNSName : Option String
  /-- Whether the agent has a network: `Net` is configured or `stdnet.NewNet` succeeds. -/
  newNet : Bool
  /-- Whether `initExtIPMapping` succeeds. -/
  initExtIPMapping : Bool
  /-- `generateUFrag` and `generatePwd`, as `Restart` calls them. -/
  generateUFrag : Option String
  generatePwd : Option String

/-- The errors `NewAgent` returns. -/
inductive NewAgentError
  | port
  | generateMulticastDNSName
  | invalidMulticastDNSHostName
  | newNet
  | liteUsingNonHostCandidates
  | uselessUrlsProvided
  | initExtIPMapping
  | restart (e : Agent.RestartError)
deriving DecidableEq, Repr

/-- `strings.HasSuffix`. A suffix that is itself valid UTF-8 starts on a character
boundary, so on the characters of a Go string it is `List.isSuffixOf`. -/
def hasSuffix (s suffix : String) : Bool := suffix.data.isSuffixOf s.data

/-- The host-name check of `NewAgent` (agent.go:268). -/
def validMulticastDNSHostName (mDNSName : String) : Bool :=
  hasSuffix mDNSName ".local" && (mDNSName.split (· == '.')).length == 2

/-- `NewAgent` (agent.go:254-386): the agent `Restart` leaves on the agent the task loop
starts with, or the first error. -/
def NewAgent (config : NewAgentConfig) (os : Startup) : Except NewAgentError Agent :=
  if config.portMax < config.portMin then .error .port
  else match (if config.multicastDNSHostName = "" then os.generateMulticastDNSName
      else some config.multicastDNSHostName) with
  | none => .error .generateMulticastDNSName
  | some mDNSName =>
    if !validMulticastDNSHostName mDNSName then .error .invalidMulticastDNSHostName
    else if !os.newNet then .error .newNet
    else if config.agent.lite &&
        (config.candidateTypes.length != 1 || config.candidateTypes[0]? != some .host) then
      .error .liteUsingNonHostCandidates
    else if config.urls.length > 0 && !config.candidateTypes.contains .serverReflexive &&
        !config.candidateTypes.contains .relay then
      .error .uselessUrlsProvided
    else if !os.initExtIPMapping then .error .initExtIPMapping
    else match (newAgent config.agent).Restart os.generateUFrag os.generatePwd config.localUfrag
        config.localPwd with
    | (_, some e) => .error (.restart e)
    | (a, none) => .ok a

end IceAgent
