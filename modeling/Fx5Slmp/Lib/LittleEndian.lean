import Mathlib.Tactic.Ring

/-!
# Little-endian numerals over bytes

`encode k n` are the `k` low bytes of `n`, least significant first; `decode` reads a byte
string of any length back.

* `decode_encode` — decoding returns `n` modulo `256 ^ k`;
* `encode_decode` — every byte string is the encoding of its value;
* `readLE_append` — the sequential reader returns what was encoded in front and the rest;
* `readLE_extend` — it does not look behind what it reads.
-/

set_option autoImplicit false

namespace LittleEndian

def encode : Nat → Nat → List (BitVec 8)
  | 0, _ => []
  | k + 1, n => BitVec.ofNat 8 n :: encode k (n / 256)

def decode : List (BitVec 8) → Nat
  | [] => 0
  | b :: bs => b.toNat + 256 * decode bs

@[simp] theorem encode_length : ∀ k n, (encode k n).length = k
  | 0, _ => rfl
  | k + 1, n => by rw [encode, List.length_cons, encode_length k]

theorem decode_encode : ∀ k n, decode (encode k n) = n % 256 ^ k
  | 0, n => by simp [encode, decode, Nat.mod_one]
  | k + 1, n => by
    have hsplit : n % 256 ^ (k + 1) = n % 256 + 256 * (n / 256 % 256 ^ k) := by
      rw [pow_succ', Nat.mod_mul]
    rw [encode, decode, decode_encode k, BitVec.toNat_ofNat, hsplit]

theorem decode_encode_of_lt {k n : Nat} (h : n < 256 ^ k) : decode (encode k n) = n := by
  rw [decode_encode, Nat.mod_eq_of_lt h]

theorem decode_lt : ∀ bs, decode bs < 256 ^ bs.length
  | [] => by simp [decode]
  | b :: bs => by
    have hb := b.isLt
    have ih := decode_lt bs
    rw [decode, List.length_cons, pow_succ']
    omega

theorem encode_decode : ∀ bs, encode bs.length (decode bs) = bs
  | [] => rfl
  | b :: bs => by
    have hb := b.isLt
    have hlow : BitVec.ofNat 8 (b.toNat + 256 * decode bs) = b := by
      apply BitVec.eq_of_toNat_eq
      rw [BitVec.toNat_ofNat]
      omega
    have hhigh : (b.toNat + 256 * decode bs) / 256 = decode bs := by omega
    rw [List.length_cons, decode, encode, hlow, hhigh, encode_decode bs]

/-- Read a numeral of `k` bytes from the front. -/
def readLE (k : Nat) (bs : List (BitVec 8)) : Option (Nat × List (BitVec 8)) :=
  if k ≤ bs.length then some (decode (bs.take k), bs.drop k) else none

theorem readLE_append {k n : Nat} (h : n < 256 ^ k) (rest : List (BitVec 8)) :
    readLE k (encode k n ++ rest) = some (n, rest) := by
  have hlen := encode_length k n
  rw [readLE, if_pos (by rw [List.length_append, hlen]; omega), List.take_left' hlen,
    List.drop_left' hlen, decode_encode_of_lt h]

section Read

variable {k v : Nat} {bs rest : List (BitVec 8)}

/-- What is read in front does not depend on what comes behind. -/
theorem readLE_extend (h : readLE k bs = some (v, rest)) (t : List (BitVec 8)) :
    readLE k (bs ++ t) = some (v, rest ++ t) := by
  unfold readLE at h
  split at h
  · rename_i hle
    cases h
    rw [readLE, if_pos (by rw [List.length_append]; omega), List.take_append_of_le_length hle,
      List.drop_append_of_le_length hle]
  · cases h

theorem readLE_rest_length (h : readLE k bs = some (v, rest)) : rest.length + k = bs.length := by
  unfold readLE at h
  split at h
  · cases h
    rw [List.length_drop]
    omega
  · cases h

end Read

end LittleEndian
