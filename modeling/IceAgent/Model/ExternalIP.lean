import IceAgent.Model.Basic
import Mathlib.Data.String.Basic

/-!
# The NAT 1:1 external IP mapper

`newExternalIPMapper` (part_000:82-147) reads the agent's `NAT1To1IPs` entries, each
either a sole external IP `"ext"` or a pair `"ext/loc"`, into one mapping per IP
family; `findExternalIP` (part_000:149-160) then maps a local IP to the external IP to
advertise for it. `net.ParseIP` is not among the sources: it is given as `parseIP`,
with the two things the mapper reads of its result, `ip.String()` and
`ip.To4() != nil`, as the fields of `IPAddr`.

A Go `map[string]net.IP` is a list of (key, value) entries in insertion order, read
with `List.lookup`; `addIPMapping` only inserts a key that is absent.
-/

set_option autoImplicit false

namespace IceAgent

/-- The errors the mapper returns. -/
inductive IPMapperError
  | invalidNAT1To1IPMapping
  | unsupportedNAT1To1IPCandidateType
  | externalMappedIPNotFound
deriving DecidableEq, Repr

/-- `validateIPString` (part_000:11-18): the IP and whether it is IPv4. -/
def validateIPString (parseIP : String → Option IPAddr) (ipStr : String) :
    Except IPMapperError (IPAddr × Bool) :=
  match parseIP ipStr with
  | none => .error .invalidNAT1To1IPMapping
  | some ip => .ok (ip, ip.isIPv4)

/-- `ipMapping` (part_000:22-27): the mapping of local to external IPs of one family. -/
structure IPMapping where
  ipSole : Option IPAddr := none
  ipMap : List (String × IPAddr) := []
  valid : Bool := false
deriving DecidableEq, Repr

namespace IPMapping

variable (m : IPMapping)

/-- `setSoleIP` (part_000:29-38). -/
def setSoleIP (ip : IPAddr) : Except IPMapperError IPMapping :=
  if m.ipSole.isSome || m.ipMap.length > 0 then .error .invalidNAT1To1IPMapping
  else .ok { m with ipSole := some ip, valid := true }

/-- `addIPMapping` (part_000:40-56). -/
def addIPMapping (locIP extIP : IPAddr) : Except IPMapperError IPMapping :=
  if m.ipSole.isSome then .error .invalidNAT1To1IPMapping
  else
    let locIPStr := locIP.text
    if (m.ipMap.lookup locIPStr).isSome then .error .invalidNAT1To1IPMapping
    else .ok { m with ipMap := m.ipMap ++ [(locIPStr, extIP)], valid := true }

/-- `findExternalIP` of one mapping (part_000:58-73). -/
def findExternalIP (locIP : IPAddr) : Except IPMapperError IPAddr :=
  if !m.valid then .ok locIP
  else match m.ipSole with
    | some ip => .ok ip
    | none =>
      match m.ipMap.lookup locIP.text with
      | none => .error .externalMappedIPNotFound
      | some extIP => .ok extIP

end IPMapping

/-- `externalIPMapper` (part_000:75-79). -/
structure ExternalIPMapper where
  ipv4Mapping : IPMapping
  ipv6Mapping : IPMapping
  candidateType : CandidateType
deriving DecidableEq, Repr

namespace ExternalIPMapper

variable (mapper : ExternalIPMapper)

/-- The mapping of the family `isIPv4` names: `ipv4Mapping` or `ipv6Mapping`. -/
def mapping : Bool → IPMapping
  | true => mapper.ipv4Mapping
  | false => mapper.ipv6Mapping

/-- The mapper with the mapping of the family `isIPv4` names replaced. -/
def setMapping : Bool → IPMapping → ExternalIPMapper
  | true, m => { mapper with ipv4Mapping := m }
  | false, m => { mapper with ipv6Mapping := m }

/-- One iteration of the loop of `newExternalIPMapper` (part_000:100-144). Its IPv4 and
IPv6 branches differ only in the mapping they update, which `mapping` selects; a pair
whose two IPs are not of one family is refused in either branch. -/
def addEntry (parseIP : String → Option IPAddr) (extIPStr : String) :
    Except IPMapperError ExternalIPMapper := do
  let ipPair := extIPStr.split (· == '/')
  if ipPair.length == 0 || ipPair.length > 2 then throw .invalidNAT1To1IPMapping
  let (extIP, isExtIPv4) ← validateIPString parseIP (ipPair.getD 0 "")
  if ipPair.length == 1 then
    let m ← (mapper.mapping isExtIPv4).setSoleIP extIP
    return mapper.setMapping isExtIPv4 m
  else
    let (locIP, isLocIPv4) ← validateIPString parseIP (ipPair.getD 1 "")
    if isExtIPv4 != isLocIPv4 then throw .invalidNAT1To1IPMapping
    let m ← (mapper.mapping isExtIPv4).addIPMapping locIP extIP
    return mapper.setMapping isExtIPv4 m

/-- `findExternalIP` (part_000:149-160). -/
def findExternalIP (parseIP : String → Option IPAddr) (localIPStr : String) :
    Except IPMapperError IPAddr := do
  let (locIP, isLocIPv4) ← validateIPString parseIP localIPStr
  (mapper.mapping isLocIPv4).findExternalIP locIP

end ExternalIPMapper

/-- `newExternalIPMapper` (part_000:82-147): none, and no error, for an empty list. -/
def newExternalIPMapper (parseIP : String → Option IPAddr) (candidateType : CandidateType)
    (ips : List String) : Except IPMapperError (Option ExternalIPMapper) := do
  if ips.length == 0 then return none
  let candidateType ← if candidateType = .unspecified then pure .host
    else if candidateType ≠ .host ∧ candidateType ≠ .serverReflexive then
      throw .unsupportedNAT1To1IPCandidateType
    else pure candidateType
  let mapper : ExternalIPMapper := { ipv4Mapping := {}, ipv6Mapping := {}, candidateType }
  let mapper ← ips.foldlM (fun mapper extIPStr => mapper.addEntry parseIP extIPStr) mapper
  return some mapper

end IceAgent
