import IceAgent.Model.Basic

/-!
# MESSAGE-INTEGRITY

`handleInbound` checks a message with `stun.MessageIntegrity([]byte(pwd)).Check(m)`
(agent.go:1106, 1123): the check recomputes the message's HMAC-SHA1 under the UTF-8
bytes of the password and compares it with the attribute the sender computed under its
own key. The STUN library and Go's `crypto/hmac` and `crypto/sha1` are not among the
sources; this file models them from what they compute.

HMAC-SHA1 reads its key only through one 64-byte block: a key longer than 64 bytes is
replaced by its SHA-1 digest, and the key is then padded with zero bytes to 64
(`hmacKey`). So the check passes for a message signed under any key with the same block
as the password. Such a key need not be the password: the password followed by a NUL
byte has the same block (`sameHmacKey_push_nul`). The model takes two different blocks
never to give the same HMAC.
-/

set_option autoImplicit false

namespace IceAgent

/-- `[]byte(s)`: the UTF-8 bytes of a Go string. -/
def utf8 (s : String) : List UInt8 := s.data.flatMap String.utf8EncodeChar

/-! ## SHA-1, as `crypto/sha1` computes it -/

namespace Sha1

/-- A working state: the five 32-bit words `a` to `e`, or `H0` to `H4`. -/
abbrev State := UInt32 × UInt32 × UInt32 × UInt32 × UInt32

/-- Rotation of a word left by `n` bits. -/
def rotl (n : UInt32) (x : UInt32) : UInt32 := (x <<< n) ||| (x >>> (32 - n))

/-- The function of round `t`: Ch, Parity, Maj, Parity, twenty rounds each. -/
def f (t : Nat) (x y z : UInt32) : UInt32 :=
  if t < 20 then (x &&& y) ^^^ (~~~x &&& z)
  else if t < 40 then x ^^^ y ^^^ z
  else if t < 60 then (x &&& y) ^^^ (x &&& z) ^^^ (y &&& z)
  else x ^^^ y ^^^ z

/-- The constant of round `t`. -/
def K (t : Nat) : UInt32 :=
  if t < 20 then 0x5a827999 else if t < 40 then 0x6ed9eba1 else if t < 60 then 0x8f1bbcdc
  else 0xca62c1d6

/-- Four bytes read as a big-endian word. -/
def word (b : List UInt8) : UInt32 := b.foldl (fun w x => (w <<< 8) ||| x.toUInt32) 0

/-- A word written as four big-endian bytes. -/
def bytes (w : UInt32) : List UInt8 :=
  [(w >>> 24).toUInt8, (w >>> 16).toUInt8, (w >>> 8).toUInt8, w.toUInt8]

/-- The message schedule: a block's sixteen words extended to eighty, each new word the
one-bit rotation of the exclusive or of the words 3, 8, 14 and 16 places before it. -/
def schedule (w : List UInt32) : List UInt32 :=
  (List.range 64).foldl (fun w t =>
    w ++ [rotl 1 (w.getD (t + 13) 0 ^^^ w.getD (t + 8) 0 ^^^ w.getD (t + 2) 0 ^^^ w.getD t 0)]) w

/-- The compression of one 64-byte block into the state: eighty rounds over the block's
schedule, added word by word to the state. -/
def compress (H : State) (block : List UInt8) : State :=
  let W := schedule ((List.range 16).map fun i => word ((block.drop (4 * i)).take 4))
  let (a, b, c, d, e) := (List.range 80).foldl (fun (s : State) t =>
    let (a, b, c, d, e) := s
    (rotl 5 a + f t b c d + e + K t + W.getD t 0, a, rotl 30 b, c, d)) H
  let (h0, h1, h2, h3, h4) := H
  (h0 + a, h1 + b, h2 + c, h3 + d, h4 + e)

/-- The padded message: the byte `0x80`, zero bytes up to 56 modulo 64, and the
message's length in bits as a big-endian 64-bit number. -/
def pad (m : List UInt8) : List UInt8 :=
  m ++ [(0x80 : UInt8)] ++ List.replicate ((119 - m.length % 64) % 64) (0 : UInt8) ++
    (List.range 8).reverse.map fun i => ((m.length * 8) >>> (8 * i)).toUInt8

end Sha1

open Sha1 in
/-- The SHA-1 digest of a byte string, 20 bytes. -/
def sha1 (m : List UInt8) : List UInt8 :=
  let p := pad m
  let (h0, h1, h2, h3, h4) := (List.range (p.length / 64)).foldl
    (fun H i => compress H ((p.drop (64 * i)).take 64))
    ((0x67452301, 0xefcdab89, 0x98badcfe, 0x10325476, 0xc3d2e1f0) : State)
  bytes h0 ++ bytes h1 ++ bytes h2 ++ bytes h3 ++ bytes h4

set_option maxRecDepth 20000 in
example : sha1 (utf8 "abc") = [0xa9, 0x99, 0x3e, 0x36, 0x47, 0x06, 0x81, 0x6a, 0xba, 0x3e,
    0x25, 0x71, 0x78, 0x50, 0xc2, 0x6c, 0x9c, 0xd0, 0xd8, 0x9d] := by
  rfl

/-! ## The key block and the check -/

/-- The 64-byte block HMAC-SHA1 keys with (`crypto/hmac`): a key longer than the block is
replaced by its SHA-1 digest, and the key is padded with zero bytes to the block. -/
def hmacKey (k : List UInt8) : List UInt8 :=
  let k := if 64 < k.length then sha1 k else k
  k ++ List.replicate (64 - k.length) 0

/-- Whether two passwords key HMAC-SHA1 alike. -/
def sameHmacKey (k k' : String) : Bool := hmacKey (utf8 k) == hmacKey (utf8 k')

/-- `stun.MessageIntegrity([]byte(key)).Check(m) == nil`: the message carries
MESSAGE-INTEGRITY, computed under a key that keys HMAC-SHA1 as `key` does. -/
def StunMessage.integrityOk (m : StunMessage) (key : String) : Bool :=
  match m.messageIntegrity with
  | none => false
  | some k => sameHmacKey k key

/-- A key of at most 64 bytes is its own block, padded with zero bytes. -/
theorem hmacKey_of_le {k : List UInt8} (h : k.length ≤ 64) :
    hmacKey k = k ++ List.replicate (64 - k.length) 0 := by
  simp [hmacKey, Nat.not_lt.mpr h]

/-- `sameHmacKey` is an equivalence: reflexive. -/
@[simp] theorem sameHmacKey_refl (k : String) : sameHmacKey k k = true := by
  simp [sameHmacKey]

/-- `sameHmacKey` does not depend on the order of its keys. -/
theorem sameHmacKey_comm (k k' : String) : sameHmacKey k k' = sameHmacKey k' k := by
  simp [sameHmacKey, eq_comm]

/-- `sameHmacKey` is an equivalence: symmetric. -/
theorem sameHmacKey_symm {k k' : String} (h : sameHmacKey k k' = true) : sameHmacKey k' k = true :=
  (sameHmacKey_comm k k').symm.trans h

/-- `sameHmacKey` is an equivalence: transitive. -/
theorem sameHmacKey_trans {k k' k'' : String} (h : sameHmacKey k k' = true)
    (h' : sameHmacKey k' k'' = true) : sameHmacKey k k'' = true := by
  simp only [sameHmacKey, beq_iff_eq] at h h' ⊢
  exact h.trans h'

/-- A message passes the check under `key` exactly when it carries MESSAGE-INTEGRITY under
a key that keys HMAC-SHA1 as `key` does. -/
theorem StunMessage.integrityOk_iff (m : StunMessage) (key : String) :
    m.integrityOk key = true ↔ ∃ k, m.messageIntegrity = some k ∧ sameHmacKey k key = true := by
  unfold StunMessage.integrityOk
  cases m.messageIntegrity <;> simp

/-- A message that passes the check under one key passes it under every key that keys
HMAC-SHA1 alike. -/
theorem StunMessage.integrityOk_of_same {m : StunMessage} {key key' : String}
    (h : m.integrityOk key = true) (hk : sameHmacKey key key' = true) : m.integrityOk key' = true := by
  obtain ⟨k, hm, hkk⟩ := (m.integrityOk_iff key).mp h
  exact (m.integrityOk_iff key').mpr ⟨k, hm, sameHmacKey_trans hkk hk⟩

/-- Two keys a message passes the check under key HMAC-SHA1 alike. -/
theorem StunMessage.sameHmacKey_of_integrityOk {m : StunMessage} {key key' : String}
    (h : m.integrityOk key = true) (h' : m.integrityOk key' = true) : sameHmacKey key key' = true := by
  obtain ⟨k, hm, hk⟩ := (m.integrityOk_iff key).mp h
  obtain ⟨k', hm', hk'⟩ := (m.integrityOk_iff key').mp h'
  obtain rfl := Option.some.inj (hm.symm.trans hm')
  exact sameHmacKey_trans (sameHmacKey_symm hk) hk'

/-- Appending a character appends its UTF-8 bytes. -/
theorem utf8_push (s : String) (c : Char) : utf8 (s.push c) = utf8 s ++ String.utf8EncodeChar c := by
  simp [utf8, String.push]

/-- A password of fewer than 64 bytes and the same password followed by a NUL byte key
HMAC-SHA1 alike: the check cannot tell them apart. -/
theorem sameHmacKey_push_nul {p : String} (h : (utf8 p).length < 64) :
    sameHmacKey p (p.push (Char.ofNat 0)) = true := by
  have hnul : String.utf8EncodeChar (Char.ofNat 0) = [0] := by decide
  have hrep : List.replicate (64 - (utf8 p).length) (0 : UInt8) =
      [0] ++ List.replicate (64 - ((utf8 p).length + 1)) 0 := by
    rw [← List.replicate_one, ← List.replicate_add]
    congr 1
    omega
  simp only [sameHmacKey, utf8_push, hnul, beq_iff_eq]
  rw [hmacKey_of_le (by omega), hmacKey_of_le (by simp; omega), List.length_append, List.length_singleton,
    hrep, List.append_assoc]

end IceAgent
