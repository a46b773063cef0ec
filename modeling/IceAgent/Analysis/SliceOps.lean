import IceAgent.Model.SliceOps

/-!
# The in-place slice operations are the list operations

Both loops of `SliceOps` write cells of the array they read, and both stay behind their
reads. The compaction writes cell `k`, the number of records kept so far, while reading
cell `j ≥ k`, so every cell it reads still holds the original record
(`compact_foldl_range`), and it leaves exactly the records it keeps, in order
(`compactInPlace_eq_filter`). The removal writes cell `i + t` after reading cell
`i + 1 + t`, which no earlier step wrote (`remove_foldl_range`), so it leaves the slice
with its `i`-th record deleted (`removeAt_eq_eraseIdx`). So the list model of the cache
in `BindingCache` is what the methods compute.
-/

set_option autoImplicit false

namespace IceAgent.Analysis

open SliceOps

section compact

variable (keep : BindingRequest → Bool) (s : List BindingRequest)

/-- After `j` iterations the first `k` cells hold the kept records among the first `j`,
`k` being their number, and every later cell holds its original record. -/
theorem compact_foldl_range {j : Nat} (hj : j ≤ s.length) :
    (List.range j).foldl (compactStep keep) (s, 0) =
      ((s.take j).filter keep ++ s.drop ((s.take j).filter keep).length,
        ((s.take j).filter keep).length) := by
  induction j with
  | zero => simp
  | succ j ih =>
    rw [List.range_succ, List.foldl_append, ih (by omega)]
    have hjs : j < s.length := by omega
    have hk : ((s.take j).filter keep).length ≤ j :=
      (List.length_filter_le _ _).trans (List.length_take_le _ _)
    have hread : ((s.take j).filter keep ++ s.drop ((s.take j).filter keep).length)[j]? =
        some s[j] := by
      rw [List.getElem?_append_right hk, List.getElem?_drop, Nat.add_sub_cancel' hk,
        List.getElem?_eq_getElem hjs]
    have htake : s.take (j + 1) = s.take j ++ [s[j]] := by
      rw [List.take_succ, List.getElem?_eq_getElem hjs]
      rfl
    simp only [List.foldl_cons, List.foldl_nil, compactStep, hread, htake, List.filter_append,
      List.filter_singleton]
    cases hkeep : keep s[j]
    · simp
    · rw [List.set_append_right _ _ (le_refl _), Nat.sub_self,
        List.drop_eq_getElem_cons (by omega), List.set_cons_zero]
      simp

/-- The compaction leaves exactly the records it keeps, in their order. -/
theorem compactInPlace_eq_filter : compactInPlace keep s = s.filter keep := by
  simp [compactInPlace, compact_foldl_range keep s (le_refl _)]

end compact

section remove

variable (s : List BindingRequest) {i : Nat}

/-- After `t` elements of the copy, cells `i` to `i + t - 1` hold the records that
followed them, and every other cell holds its original record. -/
theorem remove_foldl_range (hi : i < s.length) {t : Nat} (ht : t ≤ s.length - (i + 1)) :
    (List.range t).foldl (removeStep i) s =
      s.take i ++ (s.drop (i + 1)).take t ++ s.drop (i + t) := by
  induction t with
  | zero => simp
  | succ t ih =>
    rw [List.range_succ, List.foldl_append, ih (by omega)]
    have hread : (s.take i ++ (s.drop (i + 1)).take t ++ s.drop (i + t))[i + 1 + t]? =
        some s[i + 1 + t] := by
      have hlen : (s.take i ++ (s.drop (i + 1)).take t).length = i + t := by
        simp only [List.length_append, List.length_take, List.length_drop]
        omega
      rw [List.getElem?_append_right (by omega), hlen, List.getElem?_drop,
        List.getElem?_eq_getElem (by omega)]
      congr 2
      omega
    have htake : (s.drop (i + 1)).take (t + 1) = (s.drop (i + 1)).take t ++ [s[i + 1 + t]] := by
      rw [List.take_succ, List.getElem?_drop, List.getElem?_eq_getElem (by omega)]
      rfl
    have hpre : (s.take i ++ (s.drop (i + 1)).take t).length = i + t := by
      simp only [List.length_append, List.length_take, List.length_drop]
      omega
    simp only [List.foldl_cons, List.foldl_nil, removeStep, hread]
    rw [List.set_append_right _ _ (by omega), hpre, Nat.sub_self,
      List.drop_eq_getElem_cons (n := i + t) (by omega), List.set_cons_zero, htake]
    simp only [List.append_assoc, List.singleton_append]
    congr 4

/-- `append(s[:i], s[i+1:]...)` leaves `s` with its `i`-th record deleted. -/
theorem removeAt_eq_eraseIdx (hi : i < s.length) : removeAt s i = s.eraseIdx i := by
  rw [removeAt, remove_foldl_range s hi (le_refl _),
    List.take_of_length_le (l := s.drop (i + 1)) (by simp),
    List.take_left' (by simp; omega), List.eraseIdx_eq_take_drop_succ]

/-- The search of `handleInboundBindingSuccess` returns the record at the first index with
the id, copied before the removal, and the slice without it: what `takeFirst` returns. -/
theorem findAndRemove_eq_takeFirst (id : TransactionID) :
    findAndRemove id s = takeFirst (fun r => r.transactionID == id) s := by
  unfold findAndRemove
  cases hi : s.findIdx? (fun r => r.transactionID == id) with
  | none =>
    exact ((takeFirst_eq_none_iff _).mpr fun y hy => by
      simpa using List.findIdx?_eq_none_iff.mp hi y hy).symm
  | some i =>
    obtain ⟨hlt, hp, hbefore⟩ := List.findIdx?_eq_some_iff_getElem.mp hi
    simp only [List.getElem?_eq_getElem hlt, removeAt_eq_eraseIdx s hlt]
    refine ((takeFirst_eq_some_iff _).mpr ⟨s.take i, s.drop (i + 1), ?_, fun y hy => ?_, hp,
      List.eraseIdx_eq_take_drop_succ _ _⟩).symm
    · rw [← List.drop_eq_getElem_cons hlt, List.take_append_drop]
    · obtain ⟨j, hj, rfl⟩ := List.getElem_of_mem hy
      simp only [List.length_take] at hj
      simpa using hbefore j (by omega)

end remove

/-- For every slice of binding-request records, every timeout and every filter time, the
in-place compaction of `invalidatePendingBindingRequests` leaves exactly the records with
`filterTime - timestamp < maxBindingRequestTimeout`, in their order, which is the list
model's `invalidate`; and `append(s[:i], s[i+1:]...)` leaves `s` with its `i`-th record
deleted, so that the search of `handleInboundBindingSuccess` returns the record that was
at the first index with the id before the removal, with the slice without it, as the
list model's `takeFirst` does. -/
theorem inPlace_slice_ops_exact :
    (∀ (maxBindingRequestTimeout : Duration) (filterTime : Int) (s : List BindingRequest),
      compactInPlace (BindingCache.fresh maxBindingRequestTimeout filterTime) s =
          s.filter (fun r => decide (Time.sub filterTime r.timestamp < maxBindingRequestTimeout)) ∧
        compactInPlace (BindingCache.fresh maxBindingRequestTimeout filterTime) s =
          BindingCache.invalidate maxBindingRequestTimeout filterTime s) ∧
    (∀ (s : List BindingRequest) (i : Nat), i < s.length → removeAt s i = s.eraseIdx i) ∧
    (∀ (id : TransactionID) (s : List BindingRequest) (i : Nat) (h : i < s.length),
      s.findIdx? (fun r => r.transactionID == id) = some i →
        findAndRemove id s = some (s[i], s.eraseIdx i)) ∧
    ∀ (id : TransactionID) (s : List BindingRequest),
      findAndRemove id s = takeFirst (fun r => r.transactionID == id) s := by
  refine ⟨fun T filterTime s => ⟨compactInPlace_eq_filter _ s, ?_⟩,
    fun s i hi => removeAt_eq_eraseIdx s hi, fun id s i h hi => ?_,
    fun id s => findAndRemove_eq_takeFirst s id⟩
  · rw [compactInPlace_eq_filter, BindingCache.invalidate_eq_filter]
  · simp [findAndRemove, hi, removeAt_eq_eraseIdx s h, List.getElem?_eq_getElem h]

end IceAgent.Analysis
