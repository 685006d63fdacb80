import Mathlib.Data.List.Basic
import Mathlib.Algebra.Order.Ring.Nat
import Mathlib.Data.Nat.Bitwise
import Mathlib.Tactic.Ring

/-! Numbers of a fixed width as lists of bits, the most significant bit first. -/

set_option autoImplicit false

namespace Tquic.Lib.BitString

/-- The last `width` bits of `value`. -/
def bits : Nat → Nat → List Bool
  | 0, _ => []
  | width + 1, value => value.testBit width :: bits width value

@[simp] theorem length_bits (width value : Nat) : (bits width value).length = width := by
  induction width with
  | zero => rfl
  | succ width ih => simp [bits, ih]

variable {width left right : Nat}

theorem bits_congr (same : ∀ place, place < width → left.testBit place = right.testBit place) :
    bits width left = bits width right := by
  induction width with
  | zero => rfl
  | succ width ih =>
      simp only [bits, same width (Nat.lt_succ_self width)]
      rw [ih fun place below => same place (Nat.lt_succ_of_lt below)]

theorem testBit_of_bits (same : bits width left = bits width right) :
    ∀ place, place < width → left.testBit place = right.testBit place := by
  induction width with
  | zero =>
      intro place below
      exact absurd below (Nat.not_lt_zero place)
  | succ width ih =>
      intro place below
      obtain ⟨first, rest⟩ := List.cons.inj same
      rcases Nat.lt_succ_iff_lt_or_eq.mp below with less | rfl
      · exact ih rest place less
      · exact first

theorem bits_inj (less : left < 2 ^ width) (other : right < 2 ^ width)
    (same : bits width left = bits width right) : left = right := by
  refine Nat.eq_of_testBit_eq fun place => ?_
  rcases Nat.lt_or_ge place width with below | above
  · exact testBit_of_bits same place below
  · have wide := Nat.pow_le_pow_right (Nat.zero_lt_two) above
    rw [Nat.testBit_lt_two_pow (less.trans_le wide), Nat.testBit_lt_two_pow (other.trans_le wide)]

theorem bits_append {high low : Nat} (upper : Nat) {lower : Nat} (less : lower < 2 ^ low) :
    bits (high + low) (upper * 2 ^ low + lower) = bits high upper ++ bits low lower := by
  induction high with
  | zero =>
      rw [Nat.zero_add]
      refine bits_congr fun place below => ?_
      rw [Nat.mul_comm, Nat.testBit_two_pow_mul_add upper less, if_pos below]
  | succ high ih =>
      have first : (upper * 2 ^ low + lower).testBit (high + low) = upper.testBit high := by
        rw [Nat.mul_comm, Nat.testBit_two_pow_mul_add upper less,
          if_neg (Nat.not_lt.mpr (Nat.le_add_left low high)), Nat.add_sub_cancel]
      rw [Nat.add_right_comm]
      simp only [bits, first, ih, List.cons_append]

theorem bits_split (high low value : Nat) :
    bits (high + low) value = bits high (value / 2 ^ low) ++ bits low (value % 2 ^ low) := by
  have parts := @bits_append high low (value / 2 ^ low) _ (Nat.mod_lt value (Nat.two_pow_pos low))
  rwa [Nat.mul_comm, Nat.div_add_mod] at parts

theorem bits_ones (width : Nat) : bits width (2 ^ width - 1) = List.replicate width true := by
  have ones : ∀ count, count ≤ width → bits count (2 ^ width - 1) = List.replicate count true := by
    intro count
    induction count with
    | zero => exact fun _ => rfl
    | succ count ih =>
        intro fits
        have first : (2 ^ width - 1).testBit count = true := by
          rw [Nat.testBit_two_pow_sub_one]
          exact decide_eq_true fits
        simp only [bits, first, ih (Nat.le_of_succ_le fits), List.replicate_succ]
  exact ones width (Nat.le_refl width)

theorem div_of_bits_prefix {short long value other : Nat} (less : value < 2 ^ short)
    (more : other < 2 ^ long) (first : bits short value <+: bits long other) :
    short ≤ long ∧ value = other / 2 ^ (long - short) := by
  have le : short ≤ long := by simpa using first.length_le
  refine ⟨le, ?_⟩
  obtain ⟨gap, rfl⟩ := Nat.exists_eq_add_of_le le
  rw [Nat.add_sub_cancel_left]
  rw [bits_split short gap other] at first
  obtain ⟨rest, same⟩ := first
  have heads := (List.append_inj same (by simp)).1
  refine bits_inj less ?_ heads
  rw [pow_add] at more
  exact Nat.div_lt_of_lt_mul (by rwa [Nat.mul_comm])

end Tquic.Lib.BitString
