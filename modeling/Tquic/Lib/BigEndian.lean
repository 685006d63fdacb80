import Mathlib.Algebra.Order.Ring.Nat
import Mathlib.Data.List.Induction
import Mathlib.Tactic.Ring

/-! Unsigned integers in network byte order. -/

set_option autoImplicit false

namespace Tquic.Lib.BigEndian

/-- The last `count` bytes of `value`, most significant first. -/
def encode : Nat → Nat → List UInt8
  | 0, _ => []
  | count + 1, value => encode count (value / 256) ++ [UInt8.ofNat value]

def decode (bytes : List UInt8) : Nat :=
  bytes.foldl (fun value byte => value * 256 + byte.toNat) 0

@[simp] theorem length_encode (count value : Nat) : (encode count value).length = count := by
  induction count generalizing value with
  | zero => rfl
  | succ count ih => simp [encode, ih]

theorem decode_append (bytes : List UInt8) (last : UInt8) :
    decode (bytes ++ [last]) = decode bytes * 256 + last.toNat := by
  simp [decode]

theorem decode_singleton (byte : UInt8) : decode [byte] = byte.toNat := by
  simp [decode]

/-- The bytes that are left out are lost. -/
theorem decode_encode_mod (count value : Nat) :
    decode (encode count value) = value % 256 ^ count := by
  induction count generalizing value with
  | zero => simp [encode, decode, Nat.mod_one]
  | succ count ih =>
      have byte : (UInt8.ofNat value).toNat = value % 256 := by simp
      rw [encode, decode_append, ih, byte, pow_succ, Nat.mul_comm (256 ^ count), Nat.mod_mul]
      omega

theorem decode_encode {count value : Nat} (small : value < 256 ^ count) :
    decode (encode count value) = value := by
  rw [decode_encode_mod, Nat.mod_eq_of_lt small]

theorem decode_lt (bytes : List UInt8) : decode bytes < 256 ^ bytes.length := by
  induction bytes using List.reverseRecOn with
  | nil => simp [decode]
  | append_singleton bytes last ih =>
      have byte := last.toNat_lt
      rw [decode_append, List.length_append, List.length_singleton, pow_succ]
      omega

theorem decode_cons (first : UInt8) (bytes : List UInt8) :
    decode (first :: bytes) = first.toNat * 256 ^ bytes.length + decode bytes := by
  induction bytes using List.reverseRecOn with
  | nil => simp [decode]
  | append_singleton bytes last ih =>
      rw [← List.cons_append, decode_append, ih, decode_append, List.length_append,
        List.length_singleton, pow_succ]
      ring

theorem encode_decode (bytes : List UInt8) : encode bytes.length (decode bytes) = bytes := by
  induction bytes using List.reverseRecOn with
  | nil => rfl
  | append_singleton bytes last ih =>
      have byte := last.toNat_lt
      have quotient : (decode bytes * 256 + last.toNat) / 256 = decode bytes := by omega
      have digit : UInt8.ofNat (decode bytes * 256 + last.toNat) = last := by
        rw [← UInt8.toNat_inj, UInt8.toNat_ofNat']
        omega
      rw [List.length_append, List.length_singleton, decode_append, encode, quotient, ih, digit]

/-- The first byte holds the most significant digit. -/
theorem head?_encode (count value : Nat) :
    (encode (count + 1) value).head? = some (UInt8.ofNat (value / 256 ^ count)) := by
  induction count generalizing value with
  | zero => simp [encode]
  | succ count ih =>
      rw [encode, List.head?_append, ih (value / 256), Nat.div_div_eq_div_mul, pow_succ,
        Nat.mul_comm]
      rfl

end Tquic.Lib.BigEndian
