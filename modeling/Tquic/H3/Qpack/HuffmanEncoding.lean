import Tquic.H3.Qpack.Huffman
import Tquic.Lib.BitString

/-! The Huffman encoder writes the codes of the bytes one after the other, and fills the last
byte with ones. -/

set_option autoImplicit false

namespace Tquic.H3.Huffman

open Lib BitString

def bitsOf (bytes : Bytes) : List Bool := bytes.flatMap fun byte => bits 8 byte.toNat

def codeBits (byte : UInt8) : List Bool := bits (codeOf byte).1 (codeOf byte).2

def lowered (lower : Bool) (src : Bytes) : Bytes := if lower then src.map toAsciiLowercase else src

@[simp] theorem bitsOf_append (left right : Bytes) : bitsOf (left ++ right) = bitsOf left ++ bitsOf right :=
  List.flatMap_append

theorem bitsOf_byte {value : Nat} (small : value < 256) :
    bitsOf [UInt8.ofNat value] = bits 8 value := by
  unfold bitsOf
  rw [List.flatMap_singleton, UInt8.toNat_ofNat', Nat.mod_eq_of_lt small]

theorem length_bitsOf (bytes : Bytes) : (bitsOf bytes).length = 8 * bytes.length := by
  induction bytes with
  | nil => rfl
  | cons byte bytes ih =>
      unfold bitsOf at ih ⊢
      rw [List.flatMap_cons, List.length_append, ih, length_bits, List.length_cons]
      omega

/-- Every code fits into its length, and no code is longer than 30 bits. -/
theorem encodeTable_fits : ∀ entry ∈ encodeTable, entry.1 ≤ 30 ∧ entry.2 < 2 ^ entry.1 := by
  decide +kernel

theorem length_encodeTable : encodeTable.length = 257 := by decide +kernel

private theorem codeOf_mem (byte : UInt8) : codeOf byte ∈ encodeTable := by
  have inside : byte.toNat < encodeTable.length := by
    have small := byte.toNat_lt
    rw [length_encodeTable]
    omega
  unfold codeOf
  rw [List.getD_eq_getElem _ _ inside]
  exact List.getElem_mem inside

theorem codeOf_fits (byte : UInt8) : (codeOf byte).1 ≤ 30 ∧ (codeOf byte).2 < 2 ^ (codeOf byte).1 :=
  encodeTable_fits _ (codeOf_mem byte)

/-! ## The window -/

def Window.Pending (window : Window) (word : List Bool) : Prop :=
  ∃ value, value < 2 ^ window.bitsUsed ∧ window.bitsUsed ≤ 64 ∧
    window.bitsWin = value * 2 ^ (64 - window.bitsUsed) ∧ word = bits window.bitsUsed value

private theorem pending_start : Window.Pending { bitsWin := 0, bitsUsed := 0 } [] :=
  ⟨0, by decide, by decide, rfl, rfl⟩

variable {word : List Bool} {window : Window}

/-- The code of a byte goes behind the bits that wait. -/
theorem Window.Pending.appendCode (byte : UInt8)
    (pending : window.Pending word) (few : window.bitsUsed < 8) :
    (appendCode window byte).Pending (word ++ codeBits byte) := by
  obtain ⟨value, small, _, same, rfl⟩ := pending
  obtain ⟨short, fits⟩ := codeOf_fits byte
  obtain ⟨gap, room⟩ : ∃ gap, 64 - window.bitsUsed = (codeOf byte).1 + gap :=
    ⟨64 - window.bitsUsed - (codeOf byte).1, by omega⟩
  have under : (codeOf byte).2 * 2 ^ gap < 2 ^ (64 - window.bitsUsed) := by
    rw [room, pow_add]
    exact Nat.mul_lt_mul_of_pos_right fits (Nat.two_pow_pos gap)
  have whole : 2 ^ (64 - window.bitsUsed) ≤ 2 ^ 64 := Nat.pow_le_pow_right (by decide) (by omega)
  refine ⟨value * 2 ^ (codeOf byte).1 + (codeOf byte).2, ?_, ?_, ?_, ?_⟩
  · change _ < 2 ^ (window.bitsUsed + (codeOf byte).1)
    rw [pow_add]
    calc value * 2 ^ (codeOf byte).1 + (codeOf byte).2
        < value * 2 ^ (codeOf byte).1 + 2 ^ (codeOf byte).1 := Nat.add_lt_add_left fits _
      _ = (value + 1) * 2 ^ (codeOf byte).1 := (Nat.succ_mul _ _).symm
      _ ≤ 2 ^ window.bitsUsed * 2 ^ (codeOf byte).1 := Nat.mul_le_mul_right _ small
  · change window.bitsUsed + (codeOf byte).1 ≤ 64
    omega
  · change window.bitsWin ||| ((codeOf byte).2 <<< (64 - window.bitsUsed - (codeOf byte).1)) % 2 ^ 64 =
      (value * 2 ^ (codeOf byte).1 + (codeOf byte).2) *
        2 ^ (64 - (window.bitsUsed + (codeOf byte).1))
    have shift : 64 - window.bitsUsed - (codeOf byte).1 = gap := by omega
    have left : 64 - (window.bitsUsed + (codeOf byte).1) = gap := by omega
    rw [shift, left, Nat.shiftLeft_eq, Nat.mod_eq_of_lt (under.trans_le whole), same, Nat.mul_comm value,
      ← Nat.two_pow_add_eq_or_of_lt under, room, pow_add]
    ring
  · exact (bits_append value fits).symm

/-- A whole byte is put out, and the rest waits. -/
theorem Window.Pending.output (pending : window.Pending word) (many : 8 ≤ window.bitsUsed) :
    ∃ rest, word = bitsOf [UInt8.ofNat (window.bitsWin >>> 56)] ++ rest ∧
      Window.Pending { bitsWin := (window.bitsWin <<< 8) % 2 ^ 64,
                       bitsUsed := window.bitsUsed - 8 } rest := by
  obtain ⟨value, small, short, same, rfl⟩ := pending
  obtain ⟨rest, used⟩ : ∃ rest, window.bitsUsed = 8 + rest := ⟨window.bitsUsed - 8, by omega⟩
  rw [used] at small short same ⊢
  have byte : value / 2 ^ rest < 256 := by
    rw [pow_add] at small
    exact Nat.div_lt_of_lt_mul (by rwa [Nat.mul_comm])
  have top : window.bitsWin >>> 56 = value / 2 ^ rest := by
    have split : 2 ^ 56 = 2 ^ rest * 2 ^ (64 - (8 + rest)) := by
      rw [← pow_add]
      congr 1
      omega
    rw [Nat.shiftRight_eq_div_pow, same, split,
      Nat.mul_div_mul_right _ _ (Nat.two_pow_pos (64 - (8 + rest)))]
  refine ⟨bits rest (value % 2 ^ rest), ?_, value % 2 ^ rest, ?_, ?_, ?_, ?_⟩
  · rw [top, bitsOf_byte byte]
    exact bits_split 8 rest value
  · change _ < 2 ^ (8 + rest - 8)
    rw [Nat.add_sub_cancel_left]
    exact Nat.mod_lt _ (Nat.two_pow_pos rest)
  · change 8 + rest - 8 ≤ 64
    omega
  · change (window.bitsWin <<< 8) % 2 ^ 64 = value % 2 ^ rest * 2 ^ (64 - (8 + rest - 8))
    have gap : 64 - (8 + rest) + 8 = 64 - rest := by omega
    have whole : 2 ^ 64 = 2 ^ rest * 2 ^ (64 - rest) := by
      rw [← pow_add]
      congr 1
      omega
    rw [Nat.shiftLeft_eq, same, Nat.mul_assoc, ← pow_add, gap, whole, Nat.mul_mod_mul_right,
      Nat.add_sub_cancel_left]
  · change _ = bits (8 + rest - 8) _
    rw [Nat.add_sub_cancel_left]

private theorem writes_outputBytes {turns : Nat}
    (enough : window.bitsUsed ≤ turns) (pending : window.Pending word) :
    ∃ bytes left rest, Writes (outputBytes turns window) bytes left ∧ left.Pending rest ∧
      left.bitsUsed < 8 ∧ word = bitsOf bytes ++ rest := by
  induction turns generalizing window word with
  | zero => exact ⟨[], window, word, Writes.pure window, pending, by omega, rfl⟩
  | succ turns ih =>
      unfold outputBytes
      by_cases few : window.bitsUsed < 8
      · rw [if_pos few]
        exact ⟨[], window, word, Writes.pure window, pending, few, rfl⟩
      · rw [if_neg few]
        obtain ⟨rest, rfl, after⟩ := pending.output (by omega)
        obtain ⟨bytes, left, last, written, holds, less, rfl⟩ := ih (by dsimp only; omega) after
        refine ⟨_, left, last, (writes_u8 _).bind written, holds, less, ?_⟩
        rw [bitsOf_append, List.append_assoc]

private theorem writes_encodeBytes {lower : Bool} {src : Bytes} {window : Window} {word : List Bool}
    (pending : window.Pending word) (few : window.bitsUsed < 8) :
    ∃ bytes left rest, Writes (encodeBytes lower src window) bytes left ∧ left.Pending rest ∧
      left.bitsUsed < 8 ∧ word ++ (lowered lower src).flatMap codeBits = bitsOf bytes ++ rest := by
  induction src generalizing window word with
  | nil =>
      have empty : lowered lower [] = [] := by cases lower <;> rfl
      rw [empty, List.flatMap_nil, List.append_nil]
      exact ⟨[], window, word, Writes.pure window, pending, few, rfl⟩
  | cons byte src ih =>
      have first : lowered lower (byte :: src) =
          (if lower then toAsciiLowercase byte else byte) :: lowered lower src := by
        cases lower <;> rfl
      rw [first, List.flatMap_cons, ← List.append_assoc]
      generalize hbyte : (if lower then toAsciiLowercase byte else byte) = sent
      obtain ⟨bytes, left, rest, written, holds, less, cut⟩ :=
        writes_outputBytes (Nat.le_refl _) (pending.appendCode sent few)
      obtain ⟨more, final, last, wrote, ends, small, same⟩ := ih holds less
      refine ⟨bytes ++ more, final, last, ?_, ends, small, ?_⟩
      · unfold encodeBytes
        rw [hbyte]
        exact written.bind wrote
      · rw [cut, List.append_assoc, same, bitsOf_append, List.append_assoc]

/-- Ones fill the last byte. -/
theorem Window.Pending.fill (pending : window.Pending word) (few : window.bitsUsed < 8) :
    bitsOf [UInt8.ofNat ((window.bitsWin ||| (1 <<< (64 - window.bitsUsed) - 1)) >>> 56)] =
      word ++ List.replicate (8 - window.bitsUsed) true := by
  obtain ⟨value, small, _, same, rfl⟩ := pending
  have room : 64 - window.bitsUsed = 8 - window.bitsUsed + 56 := by omega
  have ones : 1 <<< (64 - window.bitsUsed) - 1 < 2 ^ (64 - window.bitsUsed) := by
    rw [Nat.shiftLeft_eq, Nat.one_mul]
    exact Nat.sub_lt (Nat.two_pow_pos _) Nat.one_pos
  have byte : (window.bitsWin ||| (1 <<< (64 - window.bitsUsed) - 1)) >>> 56 =
      value * 2 ^ (8 - window.bitsUsed) + (2 ^ (8 - window.bitsUsed) - 1) := by
    rw [same, Nat.mul_comm value, ← Nat.two_pow_add_eq_or_of_lt ones, Nat.shiftLeft_eq, Nat.one_mul,
      Nat.shiftRight_eq_div_pow, room, pow_add]
    obtain ⟨less, power⟩ : ∃ less, 2 ^ (8 - window.bitsUsed) = less + 1 :=
      ⟨2 ^ (8 - window.bitsUsed) - 1, (Nat.sub_add_cancel (Nat.two_pow_pos _)).symm⟩
    have parts : (less + 1) * 2 ^ 56 * value + ((less + 1) * 2 ^ 56 - 1) =
        2 ^ 56 - 1 + 2 ^ 56 * (value * (less + 1) + less) := by
      have factor : (less + 1) * 2 ^ 56 * value = 2 ^ 56 * (value * (less + 1)) := by ring
      omega
    rw [power, parts, Nat.add_mul_div_left _ _ (by decide), Nat.div_eq_of_lt (by decide), Nat.zero_add,
      Nat.add_sub_cancel]
  have filled : 2 ^ (8 - window.bitsUsed) - 1 < 2 ^ (8 - window.bitsUsed) :=
    Nat.sub_lt (Nat.two_pow_pos _) Nat.one_pos
  have width : 8 = window.bitsUsed + (8 - window.bitsUsed) := by omega
  have fits : value * 2 ^ (8 - window.bitsUsed) + (2 ^ (8 - window.bitsUsed) - 1) < 256 := by
    have whole : 256 = 2 ^ window.bitsUsed * 2 ^ (8 - window.bitsUsed) := by
      rw [← pow_add, ← width]
      rfl
    calc value * 2 ^ (8 - window.bitsUsed) + (2 ^ (8 - window.bitsUsed) - 1)
        < value * 2 ^ (8 - window.bitsUsed) + 2 ^ (8 - window.bitsUsed) := Nat.add_lt_add_left filled _
      _ = (value + 1) * 2 ^ (8 - window.bitsUsed) := (Nat.succ_mul _ _).symm
      _ ≤ 2 ^ window.bitsUsed * 2 ^ (8 - window.bitsUsed) := Nat.mul_le_mul_right _ small
      _ = 256 := whole.symm
  rw [byte, bitsOf_byte fits]
  calc bits 8 (value * 2 ^ (8 - window.bitsUsed) + (2 ^ (8 - window.bitsUsed) - 1))
      = bits (window.bitsUsed + (8 - window.bitsUsed))
          (value * 2 ^ (8 - window.bitsUsed) + (2 ^ (8 - window.bitsUsed) - 1)) := by rw [← width]
    _ = bits window.bitsUsed value ++ bits (8 - window.bitsUsed) (2 ^ (8 - window.bitsUsed) - 1) :=
        bits_append value filled
    _ = _ := by rw [bits_ones]

/-- A string is written as its codes and fewer than eight ones. -/
theorem writes_encode (src : Bytes) (lower : Bool) :
    ∃ bytes padding, Writes (encode src lower) bytes () ∧ padding < 8 ∧
      bitsOf bytes = (lowered lower src).flatMap codeBits ++ List.replicate padding true := by
  obtain ⟨bytes, left, rest, written, pending, few, same⟩ :=
    @writes_encodeBytes lower src _ _ pending_start (by decide)
  rw [List.nil_append] at same
  by_cases empty : left.bitsUsed = 0
  · have last : rest = [] := by
      obtain ⟨value, _, _, _, rfl⟩ := pending
      rw [empty]
      rfl
    refine ⟨bytes ++ [], 0, ?_, by decide, ?_⟩
    · unfold encode
      refine written.bind ?_
      rw [if_neg (fun some => some empty)]
      exact Writes.pure ()
    · rw [List.append_nil, same, last]
      simp
  · have last : Writes (encode src lower)
        (bytes ++ [UInt8.ofNat ((left.bitsWin ||| (1 <<< (64 - left.bitsUsed) - 1)) >>> 56)]) () := by
      unfold encode
      refine written.bind ?_
      rw [if_pos empty]
      exact writes_u8 _
    refine ⟨_, 8 - left.bitsUsed, last, by omega, ?_⟩
    rw [bitsOf_append, pending.fill few, same, List.append_assoc]

private theorem length_codes (src : Bytes) (lower : Bool) :
    ((lowered lower src).flatMap codeBits).length =
      (src.map fun byte => (codeOf (if lower then toAsciiLowercase byte else byte)).1).sum := by
  have each : lowered lower src =
      src.map fun byte => if lower then toAsciiLowercase byte else byte := by
    cases lower with
    | true => rfl
    | false => exact (List.map_id src).symm
  have width : ∀ byte, (codeBits byte).length = (codeOf byte).1 := fun byte => length_bits _ _
  rw [each, List.length_flatMap, List.map_map]
  simp only [Function.comp_def, width]

theorem encodeOutputLength_eq {src bytes : Bytes} {lower : Bool} {padding : Nat} (few : padding < 8)
    (same : bitsOf bytes = (lowered lower src).flatMap codeBits ++ List.replicate padding true) :
    encodeOutputLength src lower = bytes.length := by
  have lengths := congrArg List.length same
  rw [length_bitsOf, List.length_append, length_codes, List.length_replicate] at lengths
  unfold encodeOutputLength
  dsimp only
  generalize (src.map fun byte => (codeOf (if lower then toAsciiLowercase byte else byte)).1).sum = count
    at lengths ⊢
  rw [show (7 : Nat) = 2 ^ 3 - 1 from rfl, Nat.and_two_pow_sub_one_eq_mod]
  split_ifs <;> omega

end Tquic.H3.Huffman
