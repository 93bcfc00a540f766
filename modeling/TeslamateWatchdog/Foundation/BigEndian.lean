/-
Numbers as a fixed number of bytes, the most significant byte first, and the
fold that reads them back.
-/
import Mathlib.Algebra.Order.Group.Nat

namespace Foundation

namespace BigEndian

/-- The `width` low bytes of a number, most significant first. -/
def encode : Nat → Nat → List UInt8
  | 0, _ => []
  | width + 1, n => encode width (n / 256) ++ [UInt8.ofNat n]

/-- `int.from_bytes(data, "big")`. -/
def decode (bytes : List UInt8) : Nat :=
  bytes.foldl (fun n byte => n * 256 + byte.toNat) 0

@[simp]
theorem length_encode (width n : Nat) : (encode width n).length = width := by
  induction width generalizing n with
  | zero => rfl
  | succ width ih => simp [encode, ih]

theorem decode_concat (bytes : List UInt8) (byte : UInt8) :
    decode (bytes ++ [byte]) = decode bytes * 256 + byte.toNat := by
  simp [decode]

/-- Reading back a number that fits. -/
theorem decode_encode (width n : Nat) (hfits : n < 256 ^ width) :
    decode (encode width n) = n := by
  induction width generalizing n with
  | zero =>
      have hzero : n = 0 := by simpa using hfits
      subst hzero
      rfl
  | succ width ih =>
      have hquotient : n / 256 < 256 ^ width := by
        apply Nat.div_lt_of_lt_mul
        rw [Nat.mul_comm]
        simpa [Nat.pow_succ] using hfits
      rw [encode, decode_concat, ih _ hquotient, UInt8.toNat_ofNat']
      omega

end BigEndian

end Foundation
