import Mathlib.Data.List.Basic
import Mathlib.Tactic.Ring

/-! Fixed-width little-endian integers and the reading of records from a byte
list. A reader returns nothing when the bytes run out. -/
namespace ByteCodec

abbrev Byte := UInt8

/-- The `width` low bytes of `n`, least significant first. -/
def encode : Nat → Nat → List Byte
  | 0, _ => []
  | width + 1, n => UInt8.ofNat n :: encode width (n / 256)

def decode : List Byte → Nat
  | [] => 0
  | b :: bs => b.toNat + 256 * decode bs

/-- Splits off `count` bytes. -/
def take (count : Nat) (bytes : List Byte) : Option (List Byte × List Byte) :=
  if count ≤ bytes.length then some (bytes.take count, bytes.drop count) else none

def readNat (width : Nat) (bytes : List Byte) : Option (Nat × List Byte) :=
  (take width bytes).map fun (field, rest) => (decode field, rest)

/-- The two's complement reading of a `width`-byte integer. -/
def toSigned (width n : Nat) : Int :=
  if n < 2 ^ (8 * width - 1) then n else (n : Int) - 2 ^ (8 * width)

@[simp] theorem length_encode (width n : Nat) : (encode width n).length = width := by
  induction width generalizing n with
  | zero => rfl
  | succ width ih => simp [encode, ih]

theorem decode_encode {width n : Nat} (h : n < 256 ^ width) : decode (encode width n) = n := by
  induction width generalizing n with
  | zero =>
      simp only [pow_zero] at h
      have hn : n = 0 := by omega
      subst hn
      rfl
  | succ width ih =>
      have hdiv : n / 256 < 256 ^ width := by
        rw [Nat.div_lt_iff_lt_mul (by omega), ← pow_succ]
        exact h
      simp only [encode, decode, ih hdiv, UInt8.toNat_ofNat']
      omega

theorem encode_inj {width n m : Nat} (hn : n < 256 ^ width) (hm : m < 256 ^ width)
    (heq : encode width n = encode width m) : n = m := by
  rw [← decode_encode hn, heq, decode_encode hm]

theorem decode_lt (bytes : List Byte) : decode bytes < 256 ^ bytes.length := by
  induction bytes with
  | nil => simp [decode]
  | cons b bytes ih =>
      have hb := b.toNat_lt
      simp only [decode, List.length_cons, pow_succ]
      omega

theorem encode_decode (bytes : List Byte) : encode bytes.length (decode bytes) = bytes := by
  induction bytes with
  | nil => rfl
  | cons b bytes ih =>
      have hb := b.toNat_lt
      have hdiv : (b.toNat + 256 * decode bytes) / 256 = decode bytes := by omega
      have hlow : UInt8.ofNat (b.toNat + 256 * decode bytes) = b := by
        apply UInt8.toNat_inj.mp
        rw [UInt8.toNat_ofNat']
        omega
      simp only [List.length_cons, encode, decode, hdiv, ih, hlow]

theorem take_append {count : Nat} {field rest : List Byte} (h : field.length = count) :
    take count (field ++ rest) = some (field, rest) := by
  subst h
  simp [take]

theorem readNat_encode {width n : Nat} (rest : List Byte) (h : n < 256 ^ width) :
    readNat width (encode width n ++ rest) = some (n, rest) := by
  simp only [readNat, take_append (length_encode width n), Option.map_some, decode_encode h]

theorem take_eq_some {count : Nat} {bytes field rest : List Byte}
    (h : take count bytes = some (field, rest)) : bytes = field ++ rest ∧ field.length = count := by
  unfold take at h
  split at h
  · rename_i hle
    cases h
    exact ⟨(List.take_append_drop count bytes).symm, List.length_take_of_le hle⟩
  · cases h

theorem readNat_eq_some {width n : Nat} {bytes rest : List Byte}
    (h : readNat width bytes = some (n, rest)) :
    bytes = encode width n ++ rest ∧ n < 256 ^ width := by
  unfold readNat at h
  cases ht : take width bytes with
  | none => rw [ht] at h; cases h
  | some split =>
      obtain ⟨field, rest'⟩ := split
      rw [ht] at h
      cases h
      obtain ⟨hsplit, hlen⟩ := take_eq_some ht
      refine ⟨?_, by rw [← hlen]; exact decode_lt field⟩
      rw [← hlen, encode_decode, hsplit]

/-- A signed reading that is not negative is the unsigned one. -/
theorem toSigned_eq_natCast {width n m : Nat} (hn : n < 2 ^ (8 * width))
    (h : toSigned width n = m) :
    n = m := by
  unfold toSigned at h
  have hpow : ((2 ^ (8 * width) : Nat) : Int) = 2 ^ (8 * width) := by push_cast; rfl
  split at h <;> omega

theorem toSigned_of_lt {width n : Nat} (h : n < 2 ^ (8 * width - 1)) : toSigned width n = n :=
  if_pos h

end ByteCodec
