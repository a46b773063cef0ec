import IceAgent.Model.ExternalIP
import Mathlib.Data.List.Pairwise

/-!
# What the NAT 1:1 mapper accepts, and what it looks up

Each entry of the list reads as a sole external IP or as an external IP with the local
IP it stands for (`readEntry`); an entry that does not read is refused by itself. The
loop of `newExternalIPMapper` keeps, per family, exactly what the entries read so far
describe (`mappingOf`), and refuses an entry that conflicts with an earlier one: of the
same family with either of them sole, or two pairs of the same family for the same local
address (`foldlM_addEntry`). So the list is accepted exactly when every entry reads and
no two conflict, which does not depend on the order of the entries, and the lookup
returns what the entries say.
-/

set_option autoImplicit false

namespace IceAgent.Analysis

open ExternalIPMapper

/-- An entry of the list, read: a sole external IP, or an external IP and the local IP
it stands for. -/
inductive NATEntry
  | sole (ext : IPAddr)
  | pair (ext loc : IPAddr)
deriving DecidableEq, Repr

namespace NATEntry

/-- The entry's family, its external IP's. -/
def isIPv4 : NATEntry → Bool
  | sole ext | pair ext _ => ext.isIPv4

/-- Two entries the mapper cannot both hold: of one family, and either one of them sole
or both for the same local address. -/
def conflicts : NATEntry → NATEntry → Bool
  | pair ext loc, pair ext' loc' => ext.isIPv4 == ext'.isIPv4 && loc.text == loc'.text
  | x, y => x.isIPv4 == y.isIPv4

/-- Conflict does not depend on the order of the entries. -/
theorem conflicts_comm (x y : NATEntry) : x.conflicts y = y.conflicts x := by
  cases x <;> cases y <;> simp [conflicts, isIPv4, Bool.beq_comm, Bool.and_comm, eq_comm]

/-- The external IP of a sole entry of family `f`. -/
def soleOf (f : Bool) : NATEntry → Option IPAddr
  | sole ext => if ext.isIPv4 = f then some ext else none
  | pair _ _ => none

/-- A pair entry of family `f` as its mapping keys it. -/
def pairOf (f : Bool) : NATEntry → Option (String × IPAddr)
  | sole _ => none
  | pair ext loc => if ext.isIPv4 = f then some (loc.text, ext) else none

/-- A pair conflicts with a sole entry of its family, or with a pair of its family for
the same local address. -/
theorem conflicts_pair (x : NATEntry) (ext loc : IPAddr) :
    x.conflicts (.pair ext loc) = true ↔
      (x.soleOf ext.isIPv4).isSome ∨ ∃ p, x.pairOf ext.isIPv4 = some p ∧ loc.text = p.1 := by
  cases x with
  | sole e => by_cases h : e.isIPv4 = ext.isIPv4 <;> simp [conflicts, soleOf, pairOf, isIPv4, h]
  | pair e l =>
    by_cases h : e.isIPv4 = ext.isIPv4 <;>
      simp [conflicts, soleOf, pairOf, isIPv4, h, @eq_comm _ loc.text]

/-- An entry conflicts with a sole entry exactly when they are of one family. -/
theorem conflicts_sole (x : NATEntry) (ext : IPAddr) :
    x.conflicts (.sole ext) = (x.isIPv4 == ext.isIPv4) := by
  cases x <;> rfl

/-- An entry is sole or a pair of family `f` exactly when it is of family `f`. -/
theorem soleOf_or_pairOf_isSome (x : NATEntry) (f : Bool) :
    ((x.soleOf f).isSome ∨ (x.pairOf f).isSome) ↔ x.isIPv4 = f := by
  cases x <;> simp [soleOf, pairOf, isIPv4, Option.isSome_iff_exists]

end NATEntry

/-- The mapping of family `f` that a list of read entries describes: its first sole IP,
its pairs keyed by local address in order, and whether it has any entry at all. -/
def mappingOf (es : List NATEntry) (f : Bool) : IPMapping where
  ipSole := es.findSome? (·.soleOf f)
  ipMap := es.filterMap (·.pairOf f)
  valid := es.any (·.isIPv4 == f)

/-- The mapper a list of read entries describes. -/
def mapperOf (es : List NATEntry) (candidateType : CandidateType) : ExternalIPMapper :=
  ⟨mappingOf es true, mappingOf es false, candidateType⟩

/-- The mapping of a family in a described mapper is the one the entries describe. -/
theorem mapperOf_mapping (es : List NATEntry) (ct : CandidateType) (f : Bool) :
    (mapperOf es ct).mapping f = mappingOf es f := by
  cases f <;> rfl

/-- An entry of another family leaves a mapping as it was. -/
theorem mappingOf_append_of_ne (es : List NATEntry) {x : NATEntry} {f : Bool}
    (h : x.isIPv4 ≠ f) : mappingOf (es ++ [x]) f = mappingOf es f := by
  have hs : x.soleOf f = none := by
    cases hx : x.soleOf f
    · rfl
    · exact absurd ((x.soleOf_or_pairOf_isSome f).mp (.inl (by simp [hx]))) h
  have hp : x.pairOf f = none := by
    cases hx : x.pairOf f
    · rfl
    · exact absurd ((x.soleOf_or_pairOf_isSome f).mp (.inr (by simp [hx]))) h
  simp [mappingOf, List.findSome?_append, hs, hp, Option.or_none, h]

/-- Installing the mapping of an entry's family, as the list with the entry describes it,
gives the mapper that list describes. -/
theorem setMapping_mapperOf (es : List NATEntry) (ct : CandidateType) (x : NATEntry) :
    (mapperOf es ct).setMapping x.isIPv4 (mappingOf (es ++ [x]) x.isIPv4) =
      mapperOf (es ++ [x]) ct := by
  cases hx : x.isIPv4 <;>
    simp [setMapping, mapperOf, mappingOf_append_of_ne es (x := x), hx]

/-- A mapping holds a sole IP or a pair exactly when an entry of its family was read. -/
theorem mappingOf_occupied (es : List NATEntry) (f : Bool) :
    ((mappingOf es f).ipSole.isSome || (mappingOf es f).ipMap.length > 0) =
      es.any (·.isIPv4 == f) := by
  rw [Bool.eq_iff_iff]
  simp only [mappingOf, Bool.or_eq_true, List.findSome?_isSome_iff, decide_eq_true_eq,
    List.length_pos, ne_eq, List.filterMap_eq_nil_iff, not_forall, List.any_eq_true, beq_iff_eq,
    ← NATEntry.soleOf_or_pairOf_isSome]
  constructor
  · rintro (⟨x, hx, h⟩ | ⟨x, hx, h⟩)
    · exact ⟨x, hx, .inl h⟩
    · exact ⟨x, hx, .inr (Option.ne_none_iff_isSome.mp h)⟩
  · rintro ⟨x, hx, h | h⟩
    · exact .inl ⟨x, hx, h⟩
    · exact .inr ⟨x, hx, Option.ne_none_iff_isSome.mpr h⟩

section

variable (parseIP : String → Option IPAddr)

/-- `strings.Split` on a separator returns one more part than the text has separators. -/
theorem split_length (c : Char) (s : String) :
    (s.split (· == c)).length = s.toList.count c + 1 := by
  rw [String.split_of_valid, List.length_map]
  show (List.splitOnP (· == c) s.toList).length = _
  induction s.toList with
  | nil => simp
  | cons c l ih =>
    rw [List.splitOnP_cons]
    split <;> simp_all [List.count_cons]

/-- An entry as the loop reads it, none when it is refused by itself: more than one
`/`, a part that is not an IP, or a pair of two families. -/
def readEntry (s : String) : Option NATEntry :=
  match s.split (· == '/') with
  | [e] => (parseIP e).map .sole
  | [e, l] =>
    match parseIP e, parseIP l with
    | some ext, some loc => if ext.isIPv4 = loc.isIPv4 then some (.pair ext loc) else none
    | _, _ => none
  | _ => none

/-- An entry is refused by itself exactly when it has more than one `/`, a part that is
not an IP, or two IPs of different families. -/
theorem readEntry_eq_none_iff (s : String) :
    readEntry parseIP s = none ↔
      1 < s.toList.count '/' ∨ (∃ part ∈ s.split (· == '/'), parseIP part = none) ∨
      ∃ e l ext loc, s.split (· == '/') = [e, l] ∧ parseIP e = some ext ∧
        parseIP l = some loc ∧ ext.isIPv4 ≠ loc.isIPv4 := by
  have hlen := split_length '/' s
  unfold readEntry
  generalize s.split (· == '/') = parts at hlen ⊢
  generalize s.toList.count '/' = n at hlen ⊢
  rcases parts with _ | ⟨e, _ | ⟨l, _ | ⟨t, ts⟩⟩⟩
  · simp at hlen
  · obtain rfl : n = 0 := by simpa using hlen.symm
    cases he : parseIP e <;> simp [he]
  · obtain rfl : n = 1 := by simpa using hlen.symm
    cases he : parseIP e <;> cases hl : parseIP l <;> simp [he, hl, and_assoc]
  · simp only [List.length_cons] at hlen
    simp only [true_iff]
    exact .inl (by omega)

/-- The entries of the list that read. -/
def readEntries (ips : List String) : List NATEntry := ips.filterMap (readEntry parseIP)

/-- One iteration of the loop, by the entry it reads. -/
theorem addEntry_eq (mapper : ExternalIPMapper) (s : String) :
    mapper.addEntry parseIP s =
      match readEntry parseIP s with
      | none => .error .invalidNAT1To1IPMapping
      | some (.sole ext) =>
        (mapper.mapping ext.isIPv4).setSoleIP ext >>= fun m => pure (mapper.setMapping ext.isIPv4 m)
      | some (.pair ext loc) =>
        (mapper.mapping ext.isIPv4).addIPMapping loc ext >>= fun m =>
          pure (mapper.setMapping ext.isIPv4 m) := by
  unfold addEntry readEntry
  rcases s.split (· == '/') with _ | ⟨e, _ | ⟨l, _ | ⟨_, _⟩⟩⟩
  · rfl
  · cases he : parseIP e <;> simp [validateIPString, he] <;> rfl
  · cases he : parseIP e <;> cases hl : parseIP l
    · simp [validateIPString, he]; rfl
    · simp [validateIPString, he]; rfl
    · simp [validateIPString, he, hl]; rfl
    · rename_i ext loc
      by_cases hf : ext.isIPv4 = loc.isIPv4 <;>
        simp [validateIPString, he, hl, hf, bind, Except.bind] <;> rfl
  · simp; rfl

end

/-- `setSoleIP` on the described mapping refuses exactly a sole entry that conflicts
with an earlier one, and otherwise records it. -/
theorem setSoleIP_mappingOf (es : List NATEntry) (ext : IPAddr) :
    (mappingOf es ext.isIPv4).setSoleIP ext =
      if es.any (·.conflicts (.sole ext)) then .error .invalidNAT1To1IPMapping
      else .ok (mappingOf (es ++ [.sole ext]) ext.isIPv4) := by
  have hocc := mappingOf_occupied es ext.isIPv4
  simp only [NATEntry.conflicts_sole]
  rw [IPMapping.setSoleIP, hocc]
  split_ifs with h
  · rfl
  · rw [Bool.not_eq_true] at h
    simp only [h, Bool.or_eq_false_iff, Option.not_isSome, Option.isNone_iff_eq_none, mappingOf]
      at hocc
    simp only [mappingOf, List.findSome?_append, hocc.1]
    simp [NATEntry.soleOf, NATEntry.pairOf, NATEntry.isIPv4]

/-- `addIPMapping` on the described mapping refuses exactly a pair that conflicts with
an earlier entry, and otherwise records it. -/
theorem addIPMapping_mappingOf (es : List NATEntry) (ext loc : IPAddr) :
    (mappingOf es ext.isIPv4).addIPMapping loc ext =
      if es.any (·.conflicts (.pair ext loc)) then .error .invalidNAT1To1IPMapping
      else .ok (mappingOf (es ++ [.pair ext loc]) ext.isIPv4) := by
  have hany : es.any (·.conflicts (.pair ext loc)) =
      ((mappingOf es ext.isIPv4).ipSole.isSome ||
        ((mappingOf es ext.isIPv4).ipMap.lookup loc.text).isSome) := by
    rw [Bool.eq_iff_iff]
    simp only [List.any_eq_true, NATEntry.conflicts_pair, mappingOf, Bool.or_eq_true,
      List.findSome?_isSome_iff, List.lookup_isSome_iff, List.mem_filterMap, beq_iff_eq]
    constructor
    · rintro ⟨x, hx, h | ⟨p, hp, h⟩⟩
      · exact .inl ⟨x, hx, h⟩
      · exact .inr ⟨p, ⟨x, hx, hp⟩, h⟩
    · rintro (⟨x, hx, h⟩ | ⟨p, ⟨x, hx, hp⟩, h⟩)
      · exact ⟨x, hx, .inl h⟩
      · exact ⟨x, hx, .inr ⟨p, hp, h⟩⟩
  rw [hany, IPMapping.addIPMapping]
  cases hs : (mappingOf es ext.isIPv4).ipSole with
  | some _ => rfl
  | none =>
    simp only [Option.isSome_none, Bool.false_or, Bool.false_eq_true, if_false]
    split_ifs
    · rfl
    · simp only [mappingOf] at hs
      simp only [mappingOf, List.findSome?_append, hs]
      simp [NATEntry.soleOf, NATEntry.pairOf, NATEntry.isIPv4]

/-- No two entries of a list conflict. -/
def NoConflicts (es : List NATEntry) : Prop := es.Pairwise fun x y => x.conflicts y = false

instance (es : List NATEntry) : Decidable (NoConflicts es) :=
  inferInstanceAs (Decidable (List.Pairwise _ _))

/-- Without conflicts, two entries of the list that conflict are the same entry. -/
theorem NoConflicts.eq_of_conflicts {es : List NATEntry} (h : NoConflicts es) {x y : NATEntry}
    (hx : x ∈ es) (hy : y ∈ es) (hxy : x.conflicts y = true) : x = y := by
  have hsymm : Symmetric fun a b : NATEntry => a.conflicts b = false := by
    intro a b hab
    rwa [NATEntry.conflicts_comm]
  by_contra hne
  simp [h.forall hsymm hx hy hne] at hxy

/-! ## What a described mapping answers -/

section lookup

variable {es : List NATEntry} {f : Bool}

/-- A described mapping is valid exactly when an entry of its family was read. -/
theorem mappingOf_valid : (mappingOf es f).valid = true ↔ ∃ x ∈ es, x.isIPv4 = f := by
  simp [mappingOf]

/-- Without conflicts, a sole entry is the mapping's sole IP. -/
theorem mappingOf_ipSole_of_mem (hes : NoConflicts es) {ext : IPAddr} (h : .sole ext ∈ es) :
    (mappingOf es ext.isIPv4).ipSole = some ext := by
  have hsome : (mappingOf es ext.isIPv4).ipSole.isSome :=
    List.findSome?_isSome_iff.mpr ⟨_, h, by simp [NATEntry.soleOf]⟩
  obtain ⟨e, he⟩ := Option.isSome_iff_exists.mp hsome
  obtain ⟨y, hy, hye⟩ := List.exists_of_findSome?_eq_some he
  cases y with
  | pair => simp [NATEntry.soleOf] at hye
  | sole e' =>
    by_cases hf : e'.isIPv4 = ext.isIPv4
    · simp only [NATEntry.soleOf, hf, if_true, Option.some.injEq] at hye
      subst hye
      have heq : NATEntry.sole e' = .sole ext :=
        hes.eq_of_conflicts hy h (by simp [NATEntry.conflicts, NATEntry.isIPv4, hf])
      rw [he, NATEntry.sole.inj heq]
    · simp [NATEntry.soleOf, hf] at hye

/-- A mapping with no sole entry of its family has no sole IP. -/
theorem mappingOf_ipSole_eq_none (h : ∀ ext, .sole ext ∈ es → ext.isIPv4 ≠ f) :
    (mappingOf es f).ipSole = none :=
  List.findSome?_eq_none_iff.mpr fun x hx => by
    cases x with
    | sole ext => simp [NATEntry.soleOf, h ext hx]
    | pair => rfl

/-- Without conflicts, a pair entry is what the mapping looks its local address up to. -/
theorem mappingOf_lookup_of_mem (hes : NoConflicts es) {ext loc : IPAddr} (h : .pair ext loc ∈ es) :
    (mappingOf es ext.isIPv4).ipMap.lookup loc.text = some ext := by
  have hmem : (loc.text, ext) ∈ (mappingOf es ext.isIPv4).ipMap :=
    List.mem_filterMap.mpr ⟨_, h, by simp [NATEntry.pairOf]⟩
  have hsome : ((mappingOf es ext.isIPv4).ipMap.lookup loc.text).isSome :=
    List.lookup_isSome_iff.mpr ⟨_, hmem, beq_self_eq_true _⟩
  obtain ⟨v, hv⟩ := Option.isSome_iff_exists.mp hsome
  rw [List.lookup_eq_findSome?] at hv
  obtain ⟨⟨k, v'⟩, hp, hpv⟩ := List.exists_of_findSome?_eq_some hv
  obtain ⟨y, hy, hyp⟩ := List.mem_filterMap.mp hp
  simp only [beq_iff_eq, Option.ite_none_right_eq_some, Option.some.injEq] at hpv
  obtain ⟨rfl, rfl⟩ := hpv
  cases y with
  | sole => simp [NATEntry.pairOf] at hyp
  | pair e l =>
    by_cases hf : e.isIPv4 = ext.isIPv4
    · simp only [NATEntry.pairOf, hf, if_true, Option.some.injEq, Prod.mk.injEq] at hyp
      obtain ⟨hl, rfl⟩ := hyp
      have := hes.eq_of_conflicts hy h (by simp [NATEntry.conflicts, hf, hl])
      rw [List.lookup_eq_findSome?, hv]
      simp_all
    · simp [NATEntry.pairOf, hf] at hyp

/-- A mapping with no pair of its family for a local address looks that address up to
nothing. -/
theorem mappingOf_lookup_eq_none {t : String}
    (h : ∀ ext loc, .pair ext loc ∈ es → ext.isIPv4 = f → loc.text ≠ t) :
    (mappingOf es f).ipMap.lookup t = none := by
  simp only [List.lookup_eq_none_iff, mappingOf, List.mem_filterMap]
  rintro p ⟨x, hx, hxp⟩
  cases x with
  | sole => simp [NATEntry.pairOf] at hxp
  | pair ext loc =>
    by_cases hf : ext.isIPv4 = f
    · simp only [NATEntry.pairOf, hf, if_true, Option.some.injEq] at hxp
      subst hxp
      simp only [bne_iff_ne, ne_eq]
      exact fun ht => h ext loc hx hf ht.symm
    · simp [NATEntry.pairOf, hf] at hxp

/-- Without conflicts, what a described mapping answers for an address of its family:
its sole IP; else the external IP of its pair for the address, or
`ErrExternalMappedIPNotFound` when it has pairs but none for the address; else the
address itself. -/
theorem findExternalIP_mappingOf (hes : NoConflicts es) (ip : IPAddr) :
    (∀ ext, .sole ext ∈ es → ext.isIPv4 = ip.isIPv4 →
      (mappingOf es ip.isIPv4).findExternalIP ip = .ok ext) ∧
    ((∀ ext, .sole ext ∈ es → ext.isIPv4 ≠ ip.isIPv4) →
      (∀ ext loc, .pair ext loc ∈ es → ext.isIPv4 = ip.isIPv4 → loc.text = ip.text →
        (mappingOf es ip.isIPv4).findExternalIP ip = .ok ext) ∧
      ((∃ ext loc, .pair ext loc ∈ es ∧ ext.isIPv4 = ip.isIPv4) →
        (∀ ext loc, .pair ext loc ∈ es → ext.isIPv4 = ip.isIPv4 → loc.text ≠ ip.text) →
        (mappingOf es ip.isIPv4).findExternalIP ip = .error .externalMappedIPNotFound)) ∧
    ((∀ x ∈ es, x.isIPv4 ≠ ip.isIPv4) → (mappingOf es ip.isIPv4).findExternalIP ip = .ok ip) := by
  refine ⟨fun ext hext hf => ?_, fun hsole => ⟨fun ext loc hp hf ht => ?_,
    fun ⟨ext, loc, hp, hf⟩ hnone => ?_⟩, fun hno => ?_⟩
  · -- the sole IP
    have hv : (mappingOf es ip.isIPv4).valid = true := mappingOf_valid.mpr ⟨_, hext, hf⟩
    rw [← hf] at hv ⊢
    simp [IPMapping.findExternalIP, hv, mappingOf_ipSole_of_mem hes hext]
  · -- the pair for the address
    have hv : (mappingOf es ip.isIPv4).valid = true := mappingOf_valid.mpr ⟨_, hp, hf⟩
    have hl := mappingOf_lookup_of_mem hes hp
    rw [hf, ht] at hl
    simp [IPMapping.findExternalIP, hv, mappingOf_ipSole_eq_none hsole, hl]
  · -- pairs, none for the address
    have hv : (mappingOf es ip.isIPv4).valid = true := mappingOf_valid.mpr ⟨_, hp, hf⟩
    simp [IPMapping.findExternalIP, hv, mappingOf_ipSole_eq_none hsole,
      mappingOf_lookup_eq_none hnone]
  · -- no entry of the family
    have hv : (mappingOf es ip.isIPv4).valid = false :=
      Bool.eq_false_iff.mpr fun hv => by
        obtain ⟨x, hx, hxf⟩ := mappingOf_valid.mp hv
        exact hno x hx hxf
    simp [IPMapping.findExternalIP, hv]

/-- Whatever the entries, a mapping of family `f` answers with the address itself or
with an IP of family `f`. -/
theorem mappingOf_findExternalIP_family {ip ext : IPAddr}
    (h : (mappingOf es f).findExternalIP ip = .ok ext) : ext = ip ∨ ext.isIPv4 = f := by
  unfold IPMapping.findExternalIP at h
  split at h
  · exact .inl (Except.ok.inj h).symm
  split at h
  · rename_i e he
    obtain rfl := Except.ok.inj h
    obtain ⟨x, -, hx⟩ := List.exists_of_findSome?_eq_some he
    refine .inr ?_
    cases x with
    | sole e' => by_cases hf : e'.isIPv4 = f <;> simp_all [NATEntry.soleOf]
    | pair => simp [NATEntry.soleOf] at hx
  · split at h
    · cases h
    · rename_i e he
      obtain rfl := Except.ok.inj h
      obtain ⟨l₁, l₂, hl, -⟩ := List.lookup_eq_some_iff.mp he
      have hmem : (ip.text, e) ∈ (mappingOf es f).ipMap :=
        hl ▸ List.mem_append_right _ (List.mem_cons_self _ _)
      obtain ⟨x, -, hx⟩ := List.mem_filterMap.mp hmem
      refine .inr ?_
      cases x with
      | sole => simp [NATEntry.pairOf] at hx
      | pair e' l => by_cases hf : e'.isIPv4 = f <;> simp_all [NATEntry.pairOf]

/-- Without conflicts, a mapping answers every address alike whatever the order of its
entries. -/
theorem mappingOf_findExternalIP_perm {es' : List NATEntry} (p : es.Perm es') (hes : NoConflicts es)
    (ip : IPAddr) :
    (mappingOf es' ip.isIPv4).findExternalIP ip = (mappingOf es ip.isIPv4).findExternalIP ip := by
  have hes' : NoConflicts es' :=
    (p.pairwise_iff fun h => by rwa [NATEntry.conflicts_comm]).mp hes
  obtain ⟨hsole, hpair, hnone⟩ := findExternalIP_mappingOf hes ip
  obtain ⟨hsole', hpair', hnone'⟩ := findExternalIP_mappingOf hes' ip
  by_cases h₁ : ∃ ext, .sole ext ∈ es ∧ ext.isIPv4 = ip.isIPv4
  · obtain ⟨ext, hm, hf⟩ := h₁
    rw [hsole ext hm hf, hsole' ext (p.subset hm) hf]
  push_neg at h₁
  have h₁' : ∀ ext, .sole ext ∈ es' → ext.isIPv4 ≠ ip.isIPv4 := fun ext hm => h₁ ext (p.symm.subset hm)
  by_cases h₂ : ∃ ext loc, .pair ext loc ∈ es ∧ ext.isIPv4 = ip.isIPv4 ∧ loc.text = ip.text
  · obtain ⟨ext, loc, hm, hf, ht⟩ := h₂
    rw [(hpair h₁).1 ext loc hm hf ht, (hpair' h₁').1 ext loc (p.subset hm) hf ht]
  push_neg at h₂
  by_cases h₃ : ∃ ext loc, .pair ext loc ∈ es ∧ ext.isIPv4 = ip.isIPv4
  · obtain ⟨ext, loc, hm, hf⟩ := h₃
    rw [(hpair h₁).2 ⟨ext, loc, hm, hf⟩ h₂,
      (hpair' h₁').2 ⟨ext, loc, p.subset hm, hf⟩ fun e l hm' => h₂ e l (p.symm.subset hm')]
  push_neg at h₃
  have hno : ∀ x ∈ es, x.isIPv4 ≠ ip.isIPv4 := fun x hx => by
    cases x with
    | sole ext => exact h₁ ext hx
    | pair ext loc => exact h₃ ext loc hx
  rw [hnone hno, hnone' fun x hx => hno x (p.symm.subset hx)]

end lookup

section

variable (parseIP : String → Option IPAddr)

/-- The lists the loop accepts: every entry reads, and no two read entries conflict. -/
def Accepted (ips : List String) : Prop :=
  (∀ s ∈ ips, readEntry parseIP s ≠ none) ∧ NoConflicts (readEntries parseIP ips)

instance (ips : List String) : Decidable (Accepted parseIP ips) :=
  inferInstanceAs (Decidable (_ ∧ _))

/-- A list with one more entry is accepted exactly when the list is, the entry reads, and it
conflicts with no entry read before. -/
theorem accepted_append_singleton (ips : List String) (s : String) :
    Accepted parseIP (ips ++ [s]) ↔ Accepted parseIP ips ∧
      ∃ x, readEntry parseIP s = some x ∧ ∀ y ∈ readEntries parseIP ips, y.conflicts x = false := by
  cases hx : readEntry parseIP s with
  | none =>
    simp only [hx, reduceCtorEq, false_and, exists_false, and_false, iff_false]
    exact fun h => h.1 s (by simp) hx
  | some x =>
    have hfm : readEntries parseIP (ips ++ [s]) = readEntries parseIP ips ++ [x] := by
      simp [readEntries, hx]
    simp only [Accepted, NoConflicts, hfm, List.pairwise_append, List.pairwise_singleton,
      List.mem_singleton, forall_eq, List.mem_append, or_imp, forall_and, hx, ne_eq,
      reduceCtorEq, not_false_eq_true, Option.some.injEq, exists_eq_left', true_and, and_true]
    tauto

/-- The mapper's state before the loop describes no entries. -/
theorem mapperOf_nil (ct : CandidateType) :
    mapperOf [] ct = { ipv4Mapping := {}, ipv6Mapping := {}, candidateType := ct } := rfl

/-- One iteration of the loop on the described mapper: it refuses an entry that does not
read or conflicts with an earlier one, and otherwise describes one more entry. -/
theorem addEntry_mapperOf (es : List NATEntry) (ct : CandidateType) (s : String) :
    (mapperOf es ct).addEntry parseIP s =
      match readEntry parseIP s with
      | none => .error .invalidNAT1To1IPMapping
      | some x =>
        if es.any (·.conflicts x) then .error .invalidNAT1To1IPMapping
        else .ok (mapperOf (es ++ [x]) ct) := by
  rw [addEntry_eq]
  rcases readEntry parseIP s with _ | ext | ⟨ext, loc⟩
  · rfl
  · dsimp only
    rw [mapperOf_mapping, setSoleIP_mappingOf]
    split_ifs
    · rfl
    · exact congrArg Except.ok (setMapping_mapperOf es ct (.sole ext))
  · dsimp only
    rw [mapperOf_mapping, addIPMapping_mappingOf]
    split_ifs
    · rfl
    · exact congrArg Except.ok (setMapping_mapperOf es ct (.pair ext loc))

/-- The loop of `newExternalIPMapper` ends with the mapper its entries describe when it
accepts them, and with `ErrInvalidNAT1To1IPMapping` otherwise. -/
theorem foldlM_addEntry (ct : CandidateType) (ips : List String) :
    ips.foldlM (fun mapper s => mapper.addEntry parseIP s) (mapperOf [] ct) =
      if Accepted parseIP ips then .ok (mapperOf (readEntries parseIP ips) ct)
      else .error .invalidNAT1To1IPMapping := by
  induction ips using List.reverseRecOn with
  | nil => simp [Accepted, NoConflicts, readEntries]; rfl
  | append_singleton ips s ih =>
    have hacc := accepted_append_singleton parseIP ips s
    rw [List.foldlM_append, ih]
    by_cases h : Accepted parseIP ips
    · simp only [if_pos h, List.foldlM_cons, List.foldlM_nil, bind_pure]
      show (mapperOf (readEntries parseIP ips) ct).addEntry parseIP s = _
      rw [addEntry_mapperOf]
      cases hx : readEntry parseIP s with
      | none => rw [if_neg (by simp [hacc, hx])]
      | some x =>
        dsimp only
        by_cases hc : (readEntries parseIP ips).any (·.conflicts x) = true
        · obtain ⟨y, hy, hyx⟩ := List.any_eq_true.mp hc
          refine (if_pos hc).trans (if_neg fun h' => ?_).symm
          obtain ⟨-, x', hx', hall⟩ := hacc.mp h'
          obtain rfl : x = x' := Option.some.inj (hx.symm.trans hx')
          simp [hall y hy] at hyx
        · have hc' : ∀ y ∈ readEntries parseIP ips, y.conflicts x = false := by simpa using hc
          rw [if_neg hc, if_pos (hacc.mpr ⟨h, x, hx, hc'⟩)]
          simp [readEntries, hx]
    · rw [if_neg h, if_neg (fun h' => h (hacc.mp h').1)]
      rfl

/-- `newExternalIPMapper` on a non-empty list. -/
theorem newExternalIPMapper_eq (ct : CandidateType) {ips : List String} (hne : ips ≠ []) :
    newExternalIPMapper parseIP ct ips =
      if ct = .unspecified ∨ ct = .host ∨ ct = .serverReflexive then
        if Accepted parseIP ips then
          .ok (some (mapperOf (readEntries parseIP ips) (if ct = .unspecified then .host else ct)))
        else .error .invalidNAT1To1IPMapping
      else .error .unsupportedNAT1To1IPCandidateType := by
  have hlen : (ips.length == 0) = false := by simpa using hne
  by_cases hacc : Accepted parseIP ips <;> cases ct <;>
    simp [newExternalIPMapper, hlen, ← mapperOf_nil, foldlM_addEntry, hacc] <;> rfl

/-- The reasons a list of entries is refused: an entry with more than one `/`, an entry
with a part that is not an IP, a pair of two families, or two entries that conflict (of
one family with one of them sole, or two pairs of one family for the same local
address). -/
def Refused (ips : List String) : Prop :=
  (∃ s ∈ ips, 1 < s.toList.count '/') ∨
  (∃ s ∈ ips, ∃ part ∈ s.split (· == '/'), parseIP part = none) ∨
  (∃ s ∈ ips, ∃ e l ext loc, s.split (· == '/') = [e, l] ∧ parseIP e = some ext ∧
    parseIP l = some loc ∧ ext.isIPv4 ≠ loc.isIPv4) ∨
  ∃ s t, [s, t].Sublist ips ∧ ∃ x, readEntry parseIP s = some x ∧
    ∃ y, readEntry parseIP t = some y ∧ x.conflicts y = true

/-- The loop refuses a list exactly when it does not accept it. -/
theorem refused_iff_not_accepted (ips : List String) :
    Refused parseIP ips ↔ ¬ Accepted parseIP ips := by
  have hread : ((∃ s ∈ ips, 1 < s.toList.count '/') ∨
      (∃ s ∈ ips, ∃ part ∈ s.split (· == '/'), parseIP part = none) ∨
      (∃ s ∈ ips, ∃ e l ext loc, s.split (· == '/') = [e, l] ∧ parseIP e = some ext ∧
        parseIP l = some loc ∧ ext.isIPv4 ≠ loc.isIPv4)) ↔
      ∃ s ∈ ips, readEntry parseIP s = none := by
    simp only [readEntry_eq_none_iff, and_or_left, exists_or]
  have hconf : (∃ s t, [s, t].Sublist ips ∧ ∃ x, readEntry parseIP s = some x ∧
      ∃ y, readEntry parseIP t = some y ∧ x.conflicts y = true) ↔
      ¬ NoConflicts (readEntries parseIP ips) := by
    rw [NoConflicts, readEntries, List.pairwise_filterMap, List.pairwise_iff_forall_sublist]
    simp only [Option.mem_def, not_forall, Bool.not_eq_false, exists_prop]
  rw [Refused, ← or_assoc, ← or_assoc, or_assoc (a := ∃ s ∈ ips, _), hread, hconf, Accepted,
    not_and_or]
  simp

/-- Acceptance does not depend on the order of the entries. -/
theorem accepted_perm {ips ips' : List String} (p : ips.Perm ips') :
    Accepted parseIP ips ↔ Accepted parseIP ips' := by
  have hsymm : ∀ {x y : NATEntry}, x.conflicts y = false → y.conflicts x = false := fun h => by
    rwa [NATEntry.conflicts_comm]
  simp only [Accepted, NoConflicts, readEntries, p.mem_iff, (p.filterMap _).pairwise_iff hsymm]

/-- With a supported candidate type, a non-empty list is refused exactly when it is not
accepted, and always with `ErrInvalidNAT1To1IPMapping`. -/
theorem newExternalIPMapper_error_iff {ct : CandidateType}
    (hct : ct = .unspecified ∨ ct = .host ∨ ct = .serverReflexive) {ips : List String}
    (hne : ips ≠ []) :
    (∃ e, newExternalIPMapper parseIP ct ips = .error e) ↔ ¬ Accepted parseIP ips := by
  rw [newExternalIPMapper_eq parseIP ct hne, if_pos hct]
  split_ifs with h <;> simp [h]

/-- The lookup of the described mapper, by the family of the address. -/
theorem findExternalIP_mapperOf (es : List NATEntry) (ct : CandidateType) (s : String) :
    (mapperOf es ct).findExternalIP parseIP s =
      match parseIP s with
      | none => .error .invalidNAT1To1IPMapping
      | some ip => (mappingOf es ip.isIPv4).findExternalIP ip := by
  unfold ExternalIPMapper.findExternalIP validateIPString
  cases parseIP s with
  | none => rfl
  | some ip => exact congrArg (IPMapping.findExternalIP · ip) (mapperOf_mapping es ct _)

/-- A mapper `newExternalIPMapper` returns is the one its accepted entries describe. -/
theorem eq_mapperOf_of_newExternalIPMapper {ct : CandidateType} {ips : List String}
    {m : ExternalIPMapper} (hm : newExternalIPMapper parseIP ct ips = .ok (some m)) :
    Accepted parseIP ips ∧ ∃ ct', m = mapperOf (readEntries parseIP ips) ct' := by
  have hne : ips ≠ [] := by
    rintro rfl
    cases hm
  rw [newExternalIPMapper_eq parseIP ct hne] at hm
  split_ifs at hm with hct hacc <;> exact ⟨hacc, _, (Option.some.inj (Except.ok.inj hm)).symm⟩

/-- A stand-in for `net.ParseIP` on a few literals: `::ffff:10.0.0.1` is the
IPv4-mapped spelling of `10.0.0.1`, and `String()` gives both as `10.0.0.1`. -/
def sampleParseIP : String → Option IPAddr
  | "1.2.3.4" => some ⟨"1.2.3.4", true⟩
  | "10.0.0.1" | "::ffff:10.0.0.1" => some ⟨"10.0.0.1", true⟩
  | "2001:db8::1" => some ⟨"2001:db8::1", false⟩
  | _ => none

/-- An IPv4 pair and a sole IPv6 entry. -/
def sampleIPs : List String := ["1.2.3.4/10.0.0.1", "2001:db8::1"]

/-- `sampleIPs` reads as an IPv4 pair and a sole IPv6 entry. -/
theorem readEntries_sampleIPs : readEntries sampleParseIP sampleIPs =
    [.pair ⟨"1.2.3.4", true⟩ ⟨"10.0.0.1", true⟩, .sole ⟨"2001:db8::1", false⟩] := by
  simp only [readEntries, sampleIPs, List.filterMap, readEntry, String.split_of_valid]
  decide

/-- `NewExternalIPMapper` accepts `sampleIPs` and builds the mapper its entries describe. -/
theorem newExternalIPMapper_sampleIPs :
    newExternalIPMapper sampleParseIP .host sampleIPs =
      .ok (some (mapperOf (readEntries sampleParseIP sampleIPs) .host)) := by
  have hacc : Accepted sampleParseIP sampleIPs := by
    refine ⟨?_, by rw [readEntries_sampleIPs]; decide⟩
    simp only [sampleIPs, readEntry, String.split_of_valid]
    decide
  rw [newExternalIPMapper_eq _ _ (by decide), if_pos (by decide), if_pos hacc, if_neg (by decide)]

/-- For every list `newExternalIPMapper` accepts and every string `s`: the lookup fails on
a string that is not an IP; for an IP of family `f` it returns the sole entry of family
`f` when the list has one; else the external IP of the pair of family `f` whose local IP
is the IP, or `ErrExternalMappedIPNotFound` when the list has pairs of family `f` but
none for it; else the IP itself. -/
theorem findExternalIP_follows_entries (ct : CandidateType) (ips : List String)
    (m : ExternalIPMapper) (hm : newExternalIPMapper parseIP ct ips = .ok (some m)) (s : String) :
    (parseIP s = none → m.findExternalIP parseIP s = .error .invalidNAT1To1IPMapping) ∧
    ∀ ip, parseIP s = some ip →
      (∀ ext, .sole ext ∈ readEntries parseIP ips → ext.isIPv4 = ip.isIPv4 →
        m.findExternalIP parseIP s = .ok ext) ∧
      ((∀ ext, .sole ext ∈ readEntries parseIP ips → ext.isIPv4 ≠ ip.isIPv4) →
        (∀ ext loc, .pair ext loc ∈ readEntries parseIP ips → ext.isIPv4 = ip.isIPv4 →
          loc.text = ip.text → m.findExternalIP parseIP s = .ok ext) ∧
        ((∃ ext loc, .pair ext loc ∈ readEntries parseIP ips ∧ ext.isIPv4 = ip.isIPv4) →
          (∀ ext loc, .pair ext loc ∈ readEntries parseIP ips → ext.isIPv4 = ip.isIPv4 →
            loc.text ≠ ip.text) →
          m.findExternalIP parseIP s = .error .externalMappedIPNotFound)) ∧
      ((∀ x ∈ readEntries parseIP ips, x.isIPv4 ≠ ip.isIPv4) →
        m.findExternalIP parseIP s = .ok ip) := by
  obtain ⟨hacc, ct', rfl⟩ := eq_mapperOf_of_newExternalIPMapper parseIP hm
  refine ⟨fun hs => by rw [findExternalIP_mapperOf, hs], fun ip hs => ?_⟩
  rw [findExternalIP_mapperOf, hs]
  exact findExternalIP_mappingOf hacc.2 ip

/-- The IPv4-mapped spelling of the pair's local IP finds the pair's external IP. -/
theorem findExternalIP_follows_entries_sampleIPs :
    newExternalIPMapper sampleParseIP .host sampleIPs =
      .ok (some (mapperOf (readEntries sampleParseIP sampleIPs) .host)) ∧
    (mapperOf (readEntries sampleParseIP sampleIPs) .host).findExternalIP sampleParseIP
      "::ffff:10.0.0.1" = .ok ⟨"1.2.3.4", true⟩ :=
  ⟨newExternalIPMapper_sampleIPs,
    (((findExternalIP_follows_entries sampleParseIP .host sampleIPs _ newExternalIPMapper_sampleIPs
      "::ffff:10.0.0.1").2 ⟨"10.0.0.1", true⟩ rfl).2.1
      (by rw [readEntries_sampleIPs]; simp)).1 ⟨"1.2.3.4", true⟩ ⟨"10.0.0.1", true⟩
      (by rw [readEntries_sampleIPs]; decide) rfl rfl⟩

/-- For the candidate types Unspecified, Host and ServerReflexive and every non-empty list
of entries, `newExternalIPMapper` returns an error exactly when the list has an entry with
more than one `/`, an entry with a part that is not an IP, a pair of two families, or two
entries of one family with one of them sole or both pairs for the same local address; so
whether it returns an error does not depend on the order of the entries. -/
theorem newExternalIPMapper_refuses_iff (ct : CandidateType)
    (hct : ct = .unspecified ∨ ct = .host ∨ ct = .serverReflexive) (ips : List String)
    (hne : ips ≠ []) :
    ((∃ e, newExternalIPMapper parseIP ct ips = .error e) ↔ Refused parseIP ips) ∧
    ∀ ips', ips.Perm ips' →
      ((∃ e, newExternalIPMapper parseIP ct ips = .error e) ↔
        ∃ e, newExternalIPMapper parseIP ct ips' = .error e) := by
  refine ⟨(newExternalIPMapper_error_iff parseIP hct hne).trans
    (refused_iff_not_accepted parseIP ips).symm, fun ips' p => ?_⟩
  have hne' : ips' ≠ [] := fun h => hne (List.length_eq_zero.mp (p.length_eq.trans (by simp [h])))
  rw [newExternalIPMapper_error_iff parseIP hct hne, newExternalIPMapper_error_iff parseIP hct hne',
    accepted_perm parseIP p]

/-- A sole IPv4 entry and an IPv4 pair, with candidate type Host. -/
theorem newExternalIPMapper_refuses_iff_soleAndPair :
    (CandidateType.host = .unspecified ∨ CandidateType.host = .host ∨
      CandidateType.host = .serverReflexive) ∧ ["1.2.3.4", "1.2.3.4/10.0.0.1"] ≠ [] ∧
    ((∃ e, newExternalIPMapper sampleParseIP .host ["1.2.3.4", "1.2.3.4/10.0.0.1"] = .error e) ↔
      Refused sampleParseIP ["1.2.3.4", "1.2.3.4/10.0.0.1"]) :=
  ⟨by decide, by decide,
    (newExternalIPMapper_refuses_iff sampleParseIP .host (by decide) _ (by decide)).1⟩

/-- For every list `newExternalIPMapper` accepts, every lookup that succeeds returns an IP
of the family of the address looked up (the address itself, or an external IP of its
family): the mapper never answers an IPv4 address with an IPv6 IP, or the reverse. -/
theorem findExternalIP_keeps_family (ct : CandidateType) (ips : List String)
    (m : ExternalIPMapper) (hm : newExternalIPMapper parseIP ct ips = .ok (some m)) (s : String)
    (ext : IPAddr) (h : m.findExternalIP parseIP s = .ok ext) :
    ∃ ip, parseIP s = some ip ∧ ext.isIPv4 = ip.isIPv4 := by
  obtain ⟨-, ct', rfl⟩ := eq_mapperOf_of_newExternalIPMapper parseIP hm
  rw [findExternalIP_mapperOf] at h
  cases hs : parseIP s with
  | none =>
    rw [hs] at h
    cases h
  | some ip =>
    rw [hs] at h
    refine ⟨ip, rfl, ?_⟩
    rcases mappingOf_findExternalIP_family h with rfl | hf
    · rfl
    · exact hf

/-- The IPv4-mapped spelling of a mapped IPv4 address is mapped to an IPv4 address. -/
theorem findExternalIP_keeps_family_sampleIPs :
    newExternalIPMapper sampleParseIP .host sampleIPs =
      .ok (some (mapperOf (readEntries sampleParseIP sampleIPs) .host)) ∧
    (mapperOf (readEntries sampleParseIP sampleIPs) .host).findExternalIP sampleParseIP
      "::ffff:10.0.0.1" = .ok ⟨"1.2.3.4", true⟩ ∧
    ∃ ip, sampleParseIP "::ffff:10.0.0.1" = some ip ∧ (⟨"1.2.3.4", true⟩ : IPAddr).isIPv4 = ip.isIPv4 :=
  have hfind : (mapperOf (readEntries sampleParseIP sampleIPs) .host).findExternalIP sampleParseIP
      "::ffff:10.0.0.1" = .ok ⟨"1.2.3.4", true⟩ := by
    rw [readEntries_sampleIPs]
    rfl
  ⟨newExternalIPMapper_sampleIPs, hfind,
    findExternalIP_keeps_family sampleParseIP .host sampleIPs _ newExternalIPMapper_sampleIPs _ _ hfind⟩

/-- For every list `newExternalIPMapper` accepts and every reordering of it, the reordered
list is accepted too, and the two mappers answer every lookup alike. -/
theorem findExternalIP_independent_of_order (ct : CandidateType) (ips ips' : List String)
    (p : ips.Perm ips') (m : ExternalIPMapper)
    (hm : newExternalIPMapper parseIP ct ips = .ok (some m)) :
    ∃ m', newExternalIPMapper parseIP ct ips' = .ok (some m') ∧
      ∀ s, m'.findExternalIP parseIP s = m.findExternalIP parseIP s := by
  have hne : ips ≠ [] := by
    rintro rfl
    cases hm
  have hne' : ips' ≠ [] := fun h => hne (List.length_eq_zero.mp (p.length_eq.trans (by simp [h])))
  rw [newExternalIPMapper_eq parseIP ct hne] at hm
  have hct : ct = .unspecified ∨ ct = .host ∨ ct = .serverReflexive := by
    by_contra h
    rw [if_neg h] at hm
    cases hm
  have hacc : Accepted parseIP ips := by
    by_contra h
    rw [if_pos hct, if_neg h] at hm
    cases hm
  rw [if_pos hct, if_pos hacc] at hm
  obtain rfl := Option.some.inj (Except.ok.inj hm)
  refine ⟨_, by rw [newExternalIPMapper_eq parseIP ct hne', if_pos hct,
    if_pos ((accepted_perm parseIP p).mp hacc)], fun s => ?_⟩
  rw [findExternalIP_mapperOf, findExternalIP_mapperOf]
  cases parseIP s with
  | none => rfl
  | some ip => exact mappingOf_findExternalIP_perm (p.filterMap _) hacc.2 ip

/-- `sampleIPs` in reverse order builds a mapper that answers every lookup alike. -/
theorem findExternalIP_independent_of_order_sampleIPs :
    sampleIPs.Perm sampleIPs.reverse ∧
    newExternalIPMapper sampleParseIP .host sampleIPs =
      .ok (some (mapperOf (readEntries sampleParseIP sampleIPs) .host)) ∧
    ∃ m', newExternalIPMapper sampleParseIP .host sampleIPs.reverse = .ok (some m') ∧
      ∀ s, m'.findExternalIP sampleParseIP s =
        (mapperOf (readEntries sampleParseIP sampleIPs) .host).findExternalIP sampleParseIP s :=
  ⟨(List.reverse_perm _).symm, newExternalIPMapper_sampleIPs,
    findExternalIP_independent_of_order sampleParseIP .host _ _ (List.reverse_perm _).symm _
      newExternalIPMapper_sampleIPs⟩

end

end IceAgent.Analysis

