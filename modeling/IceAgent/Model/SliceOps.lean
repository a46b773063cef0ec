import IceAgent.Model.BindingCache

/-!
# The binding-request slice, on its backing array

`BindingCache` models `pendingBindingRequests` as a list. The two methods that shrink
it work in place on the slice's backing array, reading it while they write it:

* `invalidatePendingBindingRequests` (agent.go:1044-1058) starts `temp` as
  `a.pendingBindingRequests[:0]`, which shares the backing array, and ranges over the
  slice: each iteration reads the array at the current index, and `append(temp, r)`
  writes `r` at `len(temp)` of the same array, whose capacity it never exceeds.
* `handleInboundBindingSuccess` (agent.go:1062-1072) copies the record at the index it
  found, then removes it with `append(s[:i], s[i+1:]...)`, which copies `s[i+1:]` down
  by one cell within the array; a copy to a lower address goes front to back.

Here the backing array is a list of the slice's length, and each step reads the cell
of the current array.
-/

set_option autoImplicit false

namespace IceAgent

namespace SliceOps

/-- One iteration of the range loop of `invalidatePendingBindingRequests`: read the
array at `j`, and append it to `temp`, of length `k`, when it is kept. -/
def compactStep (keep : BindingRequest → Bool) (st : List BindingRequest × Nat) (j : Nat) :
    List BindingRequest × Nat :=
  match st.1[j]? with
  | none => st
  | some r => if keep r then (st.1.set st.2 r, st.2 + 1) else st

/-- The loop of `invalidatePendingBindingRequests` on the backing array: the slice
`temp` it leaves. -/
def compactInPlace (keep : BindingRequest → Bool) (s : List BindingRequest) :
    List BindingRequest :=
  let st := (List.range s.length).foldl (compactStep keep) (s, 0)
  st.1.take st.2

/-- One element of the copy `append(s[:i], s[i+1:]...)` makes: cell `i + 1 + t` of the
array to cell `i + t`. -/
def removeStep (i : Nat) (buf : List BindingRequest) (t : Nat) : List BindingRequest :=
  match buf[i + 1 + t]? with
  | none => buf
  | some r => buf.set (i + t) r

/-- `append(s[:i], s[i+1:]...)` on the backing array of `s`. -/
def removeAt (s : List BindingRequest) (i : Nat) : List BindingRequest :=
  ((List.range (s.length - (i + 1))).foldl (removeStep i) s).take (s.length - 1)

/-- The search of `handleInboundBindingSuccess` (agent.go:1064-1071) over the slice: the
record copied from the first index with the transaction id, and the slice its removal
leaves. -/
def findAndRemove (id : TransactionID) (s : List BindingRequest) :
    Option (BindingRequest × List BindingRequest) :=
  match s.findIdx? (fun r => r.transactionID == id) with
  | none => none
  | some i =>
    match s[i]? with
    | none => none
    | some validBindingRequest => some (validBindingRequest, removeAt s i)

end SliceOps

end IceAgent
