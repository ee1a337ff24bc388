import Mathlib.Algebra.Order.Ring.Nat

/-! Unsigned integers as byte strings of fixed width, most significant byte first. -/

namespace BigEndian

/-- The last `width` digits of a number in base 256. -/
def encode : ℕ → ℕ → List UInt8
  | 0, _ => []
  | width + 1, value => encode width (value / 256) ++ [UInt8.ofNat value]

def decode (bytes : List UInt8) : ℕ := bytes.foldl (fun value byte => value * 256 + byte.toNat) 0

@[simp] theorem length_encode (width value : ℕ) : (encode width value).length = width := by
  induction width generalizing value with
  | zero => rfl
  | succ width ih => simp [encode, ih]

theorem decode_concat (bytes : List UInt8) (byte : UInt8) :
    decode (bytes ++ [byte]) = decode bytes * 256 + byte.toNat := by
  simp [decode]

theorem decode_encode (width value : ℕ) : decode (encode width value) = value % 256 ^ width := by
  induction width generalizing value with
  | zero => simp [encode, decode, Nat.mod_one]
  | succ width ih =>
    have hbyte : (UInt8.ofNat value).toNat = value % 256 := UInt8.toNat_ofNat'
    have hdigits : value % 256 ^ (width + 1) = value % 256 + 256 * (value / 256 % 256 ^ width) := by
      rw [pow_succ', Nat.mod_mul]
    rw [encode, decode_concat, ih, hbyte, hdigits]
    omega

theorem decode_encode_of_lt {width value : ℕ} (h : value < 256 ^ width) :
    decode (encode width value) = value := by
  rw [decode_encode, Nat.mod_eq_of_lt h]

theorem encode_inj {width a b : ℕ} (ha : a < 256 ^ width) (hb : b < 256 ^ width) :
    encode width a = encode width b ↔ a = b := by
  constructor
  · intro h
    rw [← decode_encode_of_lt ha, h, decode_encode_of_lt hb]
  · intro h
    rw [h]

end BigEndian
