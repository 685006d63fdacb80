import Tquic.H3.Basic

/-! Integers whose first bits share a byte with other bits, after `h3/qpack/prefix_int.rs`. What
is left of the input stands for the number of bytes that the source returns with an integer. -/

set_option autoImplicit false

namespace Tquic.H3.Qpack

open Lib Http3Encoder Http3Decoder

/-- The bytes after the first one. Every turn takes away seven bits, so that as many turns as the
value are enough. -/
def encodeOctets : Nat → Nat → Http3Encoder Unit
  | 0, i => writeU8 i
  | turns + 1, i =>
      if i ≥ 128 then do
        writeU8 (i % 128 + 128)
        encodeOctets turns (i >>> 7)
      else writeU8 i

/-- Encode the integer `i`, with `n` bits in the byte that `first` begins. -/
def encodeInt (i first n : Nat) : Http3Encoder Nat := Writer.measured do
  let mask := 2 ^ n - 1
  if i < mask then writeU8 (first ||| i % 256)
  else
    writeU8 (first ||| mask % 256)
    encodeOctets (i - mask) (i - mask)

/-- The loop of `decode_int`, with the checked operations on 64 bits. -/
def decodeOctets (shift val : Nat) : Bytes → Except Http3Error (Nat × Bytes)
  | [] => .error .qpackDecompressionFailed
  | byte :: buf =>
      if 64 ≤ shift then .error .qpackDecompressionFailed
      else
        let inc := ((byte.toNat &&& 0x7f) <<< shift) % 2 ^ 64
        if 2 ^ 64 ≤ val + inc then .error .qpackDecompressionFailed
        else if byte.toNat &&& 0x80 = 0 then .ok (val + inc, buf)
        else decodeOctets (shift + 7) (val + inc) buf

def decodeInt (n : Nat) : Http3Decoder Nat := do
  let mask := 2 ^ n - 1
  let first ← readU8
  let val := first &&& mask
  if val < mask then return val
  else decodeOctets 0 val

/-! ## What is written can be read -/

def octets : Nat → Nat → Bytes
  | 0, i => [UInt8.ofNat i]
  | turns + 1, i =>
      if i ≥ 128 then UInt8.ofNat (i % 128 + 128) :: octets turns (i >>> 7) else [UInt8.ofNat i]

def intImage (i first n : Nat) : Bytes :=
  if i < 2 ^ n - 1 then [UInt8.ofNat (first + i)]
  else UInt8.ofNat (first + (2 ^ n - 1)) :: octets (i - (2 ^ n - 1)) (i - (2 ^ n - 1))

theorem writes_octets (turns i : Nat) : Writes (encodeOctets turns i) (octets turns i) () := by
  induction turns generalizing i with
  | zero => exact writes_u8 i
  | succ turns ih =>
      unfold encodeOctets octets
      split_ifs with long
      · exact (writes_u8 _).bind (ih _)
      · exact writes_u8 i

/-- The bits of `first` that the integer uses are clear. -/
def Clear (first n : Nat) : Prop := ∃ count, first = 2 ^ n * count ∧ first + 2 ^ n ≤ 256

theorem Clear.or_eq {first n value : Nat} (clear : Clear first n) (less : value < 2 ^ n) :
    first ||| value % 256 = first + value := by
  obtain ⟨count, rfl, room⟩ := clear
  rw [Nat.mod_eq_of_lt (by omega), Nat.two_pow_add_eq_or_of_lt less]

theorem writes_int {i first n : Nat} (clear : Clear first n) :
    Writes (encodeInt i first n) (intImage i first n) (intImage i first n).length := by
  have positive := Nat.two_pow_pos n
  refine Writes.measured ?_
  unfold intImage
  dsimp only
  split_ifs with short
  · rw [clear.or_eq (by omega)]
    exact writes_u8 _
  · rw [clear.or_eq (by omega)]
    exact (writes_u8 _).bind (writes_octets _ _)

/-- One byte of the loop: its last seven bits are added, its first bit tells whether to go on. -/
theorem decodeOctets_cons {low flag shift val : Nat} (narrow : shift < 64) (digit : low < 128)
    (flagged : flag = 0 ∨ flag = 128) (fits : val + low * 2 ^ shift < 2 ^ 64) (buf : Bytes) :
    decodeOctets shift val (UInt8.ofNat (low + flag) :: buf) =
      if flag = 0 then .ok (val + low * 2 ^ shift, buf)
      else decodeOctets (shift + 7) (val + low * 2 ^ shift) buf := by
  have byte : (UInt8.ofNat (low + flag)).toNat = low + flag := by
    rw [UInt8.toNat_ofNat', Nat.mod_eq_of_lt (by omega)]
  have marks : ∀ low < 128, low &&& 0x80 = 0 ∧ (low + 128) &&& 0x80 = 128 := by decide
  have seven : (low + flag) &&& 0x7f = low := by
    rw [show (0x7f : Nat) = 2 ^ 7 - 1 from rfl, Nat.and_two_pow_sub_one_eq_mod]
    omega
  rw [decodeOctets, if_neg (Nat.not_le.mpr narrow), byte, seven, Nat.shiftLeft_eq]
  dsimp only
  rw [Nat.mod_eq_of_lt (by omega), if_neg (by omega)]
  rcases flagged with rfl | rfl
  · rw [Nat.add_zero, (marks low digit).1]
  · rw [(marks low digit).2]

/-- Octets that were written are read back. -/
theorem decodeOctets_octets {turns i shift val : Nat} (enough : i ≤ turns) (narrow : shift < 64)
    (fits : val + i * 2 ^ shift < 2 ^ 64) (rest : Bytes) :
    decodeOctets shift val (octets turns i ++ rest) = .ok (val + i * 2 ^ shift, rest) := by
  induction turns generalizing i shift val with
  | zero =>
      obtain rfl : i = 0 := Nat.le_zero.mp enough
      exact decodeOctets_cons narrow (by decide) (Or.inl rfl) fits rest
  | succ turns ih =>
      unfold octets
      split_ifs with long
      · have parts : i * 2 ^ shift = i % 128 * 2 ^ shift + i / 128 * 2 ^ (shift + 7) := by
          have whole := Nat.mod_add_div i 128
          calc i * 2 ^ shift = (i % 128 + 128 * (i / 128)) * 2 ^ shift := by rw [whole]
            _ = _ := by
              rw [Nat.add_mul, pow_add, Nat.mul_comm 128, Nat.mul_assoc, Nat.mul_comm 128]
              rfl
        have quotient : i >>> 7 = i / 128 := Nat.shiftRight_eq_div_pow i 7
        have wider : shift + 7 < 64 := by
          have factor : 2 ^ 7 * 2 ^ shift ≤ i * 2 ^ shift := Nat.mul_le_mul_right _ long
          rw [← pow_add] at factor
          have below : 2 ^ (7 + shift) < 2 ^ 64 := by omega
          have exponents := (Nat.pow_lt_pow_iff_right (by decide : 1 < 2)).mp below
          omega
        rw [List.cons_append, decodeOctets_cons narrow (Nat.mod_lt i (by decide)) (Or.inr rfl) (by omega),
          if_neg (by decide), quotient, ih (by omega) wider (by omega), parts, Nat.add_assoc]
      · have last := decodeOctets_cons narrow (Nat.not_le.mp long) (Or.inl rfl) fits rest
        exact last

theorem reads_int {i first n : Nat} (clear : Clear first n) (small : i < 2 ^ 64) :
    Reads (decodeInt n) (intImage i first n) i := by
  obtain ⟨count, rfl, room⟩ := clear
  have positive := Nat.two_pow_pos n
  have masked : ∀ value, value < 2 ^ n → (2 ^ n * count + value) &&& (2 ^ n - 1) = value := by
    intro value less
    rw [Nat.and_two_pow_sub_one_eq_mod, Nat.mul_add_mod, Nat.mod_eq_of_lt less]
  unfold intImage decodeInt
  split_ifs with short
  · refine (reads_u8 (by omega)).last ?_
    rw [masked i (by omega), if_pos short]
  · have first := @reads_u8 (2 ^ n * count + (2 ^ n - 1)) (by omega)
    intro rest
    refine first.run_bind ?_
    rw [masked _ (by omega), if_neg (Nat.lt_irrefl _)]
    have later := @decodeOctets_octets (i - (2 ^ n - 1)) _ 0 (2 ^ n - 1) (Nat.le_refl _) (by decide)
      (by omega) rest
    rw [pow_zero, Nat.mul_one, Nat.add_sub_of_le (Nat.not_lt.mp short)] at later
    exact later

/-- The first byte of an integer still has the bits of `first`. -/
theorem head?_intImage (i first n : Nat) (rest : Bytes) :
    (intImage i first n ++ rest).head? = some (UInt8.ofNat (first + min i (2 ^ n - 1))) := by
  unfold intImage
  split_ifs with short
  · rw [Nat.min_eq_left (Nat.le_of_lt short)]
    rfl
  · rw [Nat.min_eq_right (Nat.not_lt.mp short)]
    rfl

end Tquic.H3.Qpack
