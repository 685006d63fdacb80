import Tquic.H3.Qpack.HuffmanStates
import Tquic.Lib.PrefixCode
import Mathlib.Data.List.Pairwise
import Mathlib.Data.List.Perm.Subperm

/-! A string that was encoded with the Huffman code is decoded to itself. -/

set_option autoImplicit false

namespace Tquic.H3.Huffman

open Lib BitString PrefixCode

/-! ## The code -/

def entryOf (symbol : Nat) : Nat × Nat := encodeTable.getD symbol (0, 0)

theorem precedes_iff {left right : Nat × Nat} : precedes left right = true ↔
    (left.2 + 1) * 2 ^ (30 - left.1) ≤ right.2 * 2 ^ (30 - right.1) := by
  unfold precedes
  exact ⟨Nat.le_of_ble_eq_true, Nat.ble_eq_true_of_le⟩

theorem precedes_trans {first second third : Nat × Nat} (left : precedes first second = true)
    (right : precedes second third = true) : precedes first third = true := by
  rw [precedes_iff] at left right ⊢
  have grows := Nat.mul_le_mul_right (2 ^ (30 - second.1)) (Nat.le_succ second.2)
  exact left.trans (grows.trans right)

variable {entry : Nat × Nat} {order : List Nat}

theorem ascends_cons {next : Nat} (ascending : ascends entry (next :: order) = true) :
    precedes entry (entryOf next) = true ∧ ascends (entryOf next) order = true := by
  unfold ascends at ascending
  cases found : encodeTable[next]? with
  | none =>
      rw [found] at ascending
      cases ascending
  | some held =>
      have same : entryOf next = held := by
        unfold entryOf
        rw [List.getD_eq_getElem?_getD, found]
        rfl
      rw [found] at ascending
      rw [same]
      exact Bool.and_eq_true_iff.mp ascending

section

variable (ascending : ascends entry order = true)

include ascending

theorem ascends_below : ∀ symbol ∈ order, precedes entry (entryOf symbol) = true := by
  induction order generalizing entry with
  | nil =>
      intro symbol member
      cases member
  | cons next order ih =>
      intro symbol member
      obtain ⟨step, later⟩ := ascends_cons ascending
      rcases List.mem_cons.mp member with rfl | deeper
      · exact step
      · exact precedes_trans step (ih later symbol deeper)

private theorem ascends_pairwise :
    order.Pairwise fun left right => precedes (entryOf left) (entryOf right) = true := by
  induction order generalizing entry with
  | nil => exact List.Pairwise.nil
  | cons next order ih =>
      obtain ⟨_, later⟩ := ascends_cons ascending
      exact List.Pairwise.cons (ascends_below later) (ih later)

private theorem ascends_known : ∀ symbol ∈ order, symbol < encodeTable.length := by
  induction order generalizing entry with
  | nil =>
      intro symbol member
      cases member
  | cons next order ih =>
      intro symbol member
      rcases List.mem_cons.mp member with rfl | deeper
      · unfold ascends at ascending
        by_contra outside
        rw [List.getElem?_eq_none (Nat.le_of_not_lt outside)] at ascending
        cases ascending
      · exact ih (ascends_cons ascending).2 symbol deeper

end

theorem canonicalOrder_pairwise :
    canonicalOrder.Pairwise fun left right => precedes (entryOf left) (entryOf right) = true := by
  have first : (5, 0) = entryOf 48 := rfl
  have shape : canonicalOrder = 48 :: canonicalOrder.tail := rfl
  rw [shape]
  refine List.Pairwise.cons ?_ (ascends_pairwise canonicalOrder_ascends)
  rw [← first]
  exact ascends_below canonicalOrder_ascends

set_option maxRecDepth 1200 in
private theorem length_canonicalOrder : canonicalOrder.length = 257 := rfl

theorem mem_canonicalOrder {symbol : Nat} (small : symbol < 257) : symbol ∈ canonicalOrder := by
  have unique : canonicalOrder.Nodup := by
    refine canonicalOrder_pairwise.imp ?_
    rintro left _ before rfl
    rw [precedes_iff, Nat.succ_mul] at before
    have positive := Nat.two_pow_pos (30 - (entryOf left).1)
    omega
  have inside : canonicalOrder ⊆ List.range 257 := by
    intro symbol member
    rw [List.mem_range]
    rcases List.mem_cons.mp member with rfl | later
    · decide
    · exact length_encodeTable ▸ ascends_known canonicalOrder_ascends symbol later
  have length : (List.range 257).length ≤ canonicalOrder.length := by
    rw [List.length_range, length_canonicalOrder]
  have same := (List.subperm_of_subset unique inside).perm_of_length_le length
  exact same.mem_iff.mpr (List.mem_range.mpr small)

theorem entryOf_fits {symbol : Nat} (small : symbol < 257) :
    (entryOf symbol).1 ≤ 30 ∧ (entryOf symbol).2 < 2 ^ (entryOf symbol).1 := by
  have inside : symbol < encodeTable.length := by
    rw [length_encodeTable]
    exact small
  unfold entryOf
  rw [List.getD_eq_getElem _ _ inside]
  exact encodeTable_fits _ (List.getElem_mem inside)

/-- Two symbols, one of which comes before the other with all continuations of its code. -/
def Apart (left right : Nat) : Prop :=
  precedes (entryOf left) (entryOf right) = true ∨ precedes (entryOf right) (entryOf left) = true

/-- A code and its continuations fill an interval of the words of 30 bits, and these intervals
are disjoint. -/
theorem codeword_prefixFree : PrefixFree codeword := by
  intro left right begins
  obtain ⟨shortLeft, fitsLeft⟩ := entryOf_fits left.isLt
  obtain ⟨shortRight, fitsRight⟩ := entryOf_fits right.isLt
  obtain ⟨le, quotient⟩ := div_of_bits_prefix fitsLeft fitsRight begins
  have continued : (entryOf left).2 * 2 ^ (30 - (entryOf left).1) ≤
      (entryOf right).2 * 2 ^ (30 - (entryOf right).1) ∧
      (entryOf right).2 * 2 ^ (30 - (entryOf right).1) <
        ((entryOf left).2 + 1) * 2 ^ (30 - (entryOf left).1) := by
    have room : 30 - (entryOf left).1 =
        (entryOf right).1 - (entryOf left).1 + (30 - (entryOf right).1) := by omega
    have inside := Nat.div_mul_le_self (entryOf right).2 (2 ^ ((entryOf right).1 - (entryOf left).1))
    have under := @Nat.lt_div_mul_add (entryOf right).2 _ (Nat.two_pow_pos ((entryOf right).1 - (entryOf left).1))
    rw [← quotient] at inside under
    rw [← Nat.succ_mul] at under
    rw [room, pow_add, ← Nat.mul_assoc, ← Nat.mul_assoc]
    exact ⟨Nat.mul_le_mul_right _ inside, Nat.mul_lt_mul_of_pos_right under (Nat.two_pow_pos _)⟩
  by_contra differ
  have symmetric : Std.Symm Apart := ⟨fun _ _ => Or.symm⟩
  have apart : canonicalOrder.Pairwise Apart := canonicalOrder_pairwise.imp Or.inl
  have values : left.val ≠ right.val := fun same => differ (Fin.ext same)
  rcases apart.forall (mem_canonicalOrder left.isLt) (mem_canonicalOrder right.isLt) values with
    before | before
  · exact absurd (precedes_iff.mp before) (Nat.not_le.mpr continued.2)
  · have grows := Nat.mul_le_mul_right (2 ^ (30 - (entryOf right).1)) (Nat.le_succ (entryOf right).2)
    rw [precedes_iff] at before
    have positive := Nat.two_pow_pos (30 - (entryOf right).1)
    rw [Nat.succ_mul] at before
    omega

/-! ## The decoder -/

/-- The bits that a decoder has read since the last byte. Where they may end a string, the
decoder knows it. -/
def Held (decoder : HuffmanDecoder) (word : List Bool) : Prop :=
  ∃ held, heldTable[decoder.state]? = some held ∧ word = bits held.1 held.2.1 ∧
    (held.1 < 8 → held.2.1 + 1 = 2 ^ held.1 → decoder.isFinal = true)

def step (decoder : HuffmanDecoder) (input : Fin 16) : Option (HuffmanDecoder × Option Symbol) :=
  match decoder.decode4 input.val with
  | .error _ => none
  | .ok (ret, next) => some (next, ret.map symbolOf)

def inputBits (input : Fin 16) : List Bool := bits 4 input.val

private theorem rowFits_entry {width value first input : Nat} {row : List (Nat × Nat × Nat)}
    {entry : Nat × Nat × Nat} (fits : rowFits width value first row = true)
    (found : row[input]? = some entry) : entryFits width value (first + input) entry = true := by
  induction row generalizing first input with
  | nil => cases found
  | cons head row ih =>
      obtain ⟨here, later⟩ := Bool.and_eq_true_iff.mp fits
      cases input with
      | zero =>
          cases found
          exact here
      | succ input =>
          have there := ih later found
          rwa [Nat.add_right_comm] at there

theorem entry_found {state : Nat} {held : Nat × Nat × Nat} (known : heldTable[state]? = some held)
    (input : Fin 16) :
    ∃ entry, decodeTable[state]? >>= (·[input.val]?) = some entry ∧
      entryFits held.1 held.2.1 input.val entry = true := by
  obtain ⟨rows, states, columns⟩ := decodeTable_shape
  have inside : state < decodeTable.length := by
    obtain ⟨small, _⟩ := List.getElem?_eq_some_iff.mp known
    omega
  have row := List.getElem?_eq_getElem inside
  have column : input.val < decodeTable[state].length := by
    rw [columns _ (List.getElem_mem inside)]
    exact input.isLt
  have paired : (decodeTable[state], held) ∈ decodeTable.zip heldTable := by
    refine @List.mem_of_getElem? _ _ state _ ?_
    rw [List.getElem?_zip_eq_some]
    exact ⟨row, known⟩
  have fits := List.all_eq_true.mp decodeTable_fits _ paired
  have entry := rowFits_entry fits (List.getElem?_eq_getElem column)
  rw [Nat.zero_add] at entry
  refine ⟨_, ?_, entry⟩
  rw [row]
  exact List.getElem?_eq_getElem column

theorem bits_input {width value : Nat} (input : Fin 16) :
    bits (width + 4) (value * 16 + input.val) = bits width value ++ inputBits input :=
  bits_append value input.isLt

private theorem entryFits_next {width value input next byte flags : Nat}
    (fits : entryFits width value input (next, byte, flags) = true)
    (sound : HuffmanDecoder.contains flags flagError = false) :
    ∃ held, heldTable[next]? = some held ∧
      (held.1 < 8 → held.2.1 + 1 = 2 ^ held.1 →
        next = 0 ∨ HuffmanDecoder.contains flags flagMaybeEos = true) ∧
      if HuffmanDecoder.contains flags flagDecoded then
        byte < 256 ∧ width + 4 = (entryOf byte).1 + held.1 ∧
          value * 16 + input = (entryOf byte).2 * 2 ^ held.1 + held.2.1
      else width + 4 = held.1 ∧ value * 16 + input = held.2.1 := by
  unfold entryFits at fits
  simp only [sound, Bool.false_eq_true, if_false] at fits
  cases known : heldTable[next]? with
  | none =>
      rw [known] at fits
      cases fits
  | some held =>
      rw [known] at fits
      obtain ⟨ends, moved⟩ := Bool.and_eq_true_iff.mp fits
      refine ⟨held, rfl, ?_, ?_⟩
      · intro short ones
        simp only [Bool.or_eq_true, Bool.not_eq_true', Nat.ble_eq] at ends
        rcases ends with ((long | other) | zero) | flag
        · omega
        · exact absurd ones (Nat.ne_of_beq_eq_false other)
        · exact Or.inl (Nat.eq_of_beq_eq_true zero)
        · exact Or.inr flag
      · split_ifs at moved ⊢ with decoded
        · cases found : encodeTable[byte]? with
          | none =>
              rw [found] at moved
              cases moved
          | some entry =>
              have same : entryOf byte = entry := by
                unfold entryOf
                rw [List.getD_eq_getElem?_getD, found]
                rfl
              rw [found] at moved
              simp only [Bool.and_eq_true] at moved
              rw [same]
              exact ⟨Nat.le_of_ble_eq_true moved.1.1, Nat.eq_of_beq_eq_true moved.1.2,
                Nat.eq_of_beq_eq_true moved.2⟩
        · simp only [Bool.and_eq_true] at moved
          exact ⟨Nat.eq_of_beq_eq_true moved.1, Nat.eq_of_beq_eq_true moved.2⟩

private theorem entryFits_error {width value input next byte flags : Nat}
    (fits : entryFits width value input (next, byte, flags) = true)
    (refused : HuffmanDecoder.contains flags flagError = true) :
    30 ≤ width + 4 ∧ (value * 16 + input) / 2 ^ (width + 4 - 30) = 2 ^ 30 - 1 := by
  unfold entryFits at fits
  simp only [refused, if_true, Bool.and_eq_true, Nat.ble_eq, beq_iff_eq, Nat.shiftRight_eq_div_pow] at fits
  exact fits

private theorem codeword_byte {byte : Nat} (small : byte < 256) :
    codeword (symbolOf (UInt8.ofNat byte)) = bits (entryOf byte).1 (entryOf byte).2 := by
  have same : (symbolOf (UInt8.ofNat byte)).val = byte := by
    change (UInt8.ofNat byte).toNat = byte
    rw [UInt8.toNat_ofNat', Nat.mod_eq_of_lt small]
  unfold codeword
  rw [same]
  rfl

theorem codeword_eos : codeword eos = bits 30 (2 ^ 30 - 1) := by
  have last : encodeTable.getD 256 (0, 0) = (30, 2 ^ 30 - 1) := rfl
  change bits (encodeTable.getD 256 (0, 0)).1 (encodeTable.getD 256 (0, 0)).2 = _
  rw [last]

theorem heldTable_small {state : Nat} {held : Nat × Nat × Nat} (known : heldTable[state]? = some held) :
    held.2.1 < 2 ^ held.1 :=
  (heldTable_begins held (List.mem_of_getElem? known)).1

variable {word : List Bool}

private theorem held_moves {decoder next : HuffmanDecoder} {input : Fin 16}
    {symbol : Option Symbol} (holds : Held decoder word)
    (taken : step decoder input = some (next, symbol)) :
    ∃ rest, Held next rest ∧ word ++ inputBits input = symbol.toList.flatMap codeword ++ rest := by
  obtain ⟨held, known, rfl, _⟩ := holds
  obtain ⟨⟨state, byte, flags⟩, found, fits⟩ := entry_found known input
  unfold step HuffmanDecoder.decode4 at taken
  rw [found] at taken
  cases sound : HuffmanDecoder.contains flags flagError with
  | true =>
      simp only [sound, if_true] at taken
      cases taken
  | false =>
      simp only [sound, Bool.false_eq_true, if_false] at taken
      cases taken
      obtain ⟨after, reached, ends, moved⟩ := entryFits_next fits sound
      refine ⟨bits after.1 after.2.1, ⟨after, reached, rfl, ?_⟩, ?_⟩
      · intro short ones
        rcases ends short ones with zero | flag
        · simp [HuffmanDecoder.isFinal, zero]
        · simp [HuffmanDecoder.isFinal, flag]
      · rw [← bits_input input]
        split_ifs at moved ⊢ with decoded
        · obtain ⟨small, width, value⟩ := moved
          simp only [Option.map_some, Option.toList_some, List.flatMap_singleton, codeword_byte small]
          rw [width, value]
          exact bits_append _ (heldTable_small reached)
        · obtain ⟨width, value⟩ := moved
          rw [width, value]
          rfl

variable {decoder : HuffmanDecoder}

private theorem held_refuses {input : Fin 16}
    (holds : Held decoder word) (taken : step decoder input = none) :
    codeword eos <+: word ++ inputBits input := by
  obtain ⟨held, known, rfl, _⟩ := holds
  obtain ⟨⟨state, byte, flags⟩, found, fits⟩ := entry_found known input
  unfold step HuffmanDecoder.decode4 at taken
  rw [found] at taken
  cases sound : HuffmanDecoder.contains flags flagError with
  | false =>
      simp only [sound, Bool.false_eq_true, if_false] at taken
      cases taken
  | true =>
      obtain ⟨long, ones⟩ := entryFits_error fits sound
      obtain ⟨gap, width⟩ := Nat.exists_eq_add_of_le long
      rw [← bits_input input, width, bits_split 30 gap, codeword_eos, ← ones, width,
        Nat.add_sub_cancel_left]
      exact List.prefix_append _ _

private theorem held_partly (holds : Held decoder word) :
    ∃ symbol, word <+: codeword symbol ∧ word ≠ codeword symbol := by
  obtain ⟨held, known, rfl, _⟩ := holds
  obtain ⟨_, symbol, shorter, begins⟩ := heldTable_begins held (List.mem_of_getElem? known)
  refine ⟨⟨held.2.2, symbol⟩, ?_, ?_⟩
  · change bits held.1 held.2.1 <+: bits (entryOf held.2.2).1 (entryOf held.2.2).2
    obtain ⟨gap, width⟩ := Nat.exists_eq_add_of_le (Nat.le_of_lt shorter)
    rw [width, Nat.add_sub_cancel_left] at begins
    unfold entryOf
    rw [width, bits_split held.1 gap, begins]
    exact List.prefix_append _ _
  · intro same
    have lengths := congrArg List.length same
    change (bits held.1 held.2.1).length = (bits (entryOf held.2.2).1 (entryOf held.2.2).2).length
      at lengths
    rw [length_bits, length_bits] at lengths
    exact absurd lengths (Nat.ne_of_lt shorter)

theorem symbolOf_ne_eos (byte : UInt8) : symbolOf byte ≠ eos := by
  intro same
  have small := byte.toNat_lt
  have values : byte.toNat = 256 := congrArg Fin.val same
  omega

private theorem symbolOf_injective {left right : UInt8} (same : symbolOf left = symbolOf right) :
    left = right := by
  have values : left.toNat = right.toNat := congrArg (fun symbol : Symbol => symbol.val) same
  exact UInt8.toNat_inj.mp values

theorem step_ok {decoder next : HuffmanDecoder} {input : Fin 16} {symbol : Option Symbol}
    (taken : step decoder input = some (next, symbol)) :
    ∃ ret, decoder.decode4 input.val = .ok (ret, next) ∧ symbol = ret.map symbolOf := by
  unfold step at taken
  cases decoded : decoder.decode4 input.val with
  | error error =>
      rw [decoded] at taken
      cases taken
  | ok result =>
      rw [decoded] at taken
      cases taken
      exact ⟨result.1, rfl, rfl⟩

theorem describes : Describes codeword eos step inputBits Held where
  moves := held_moves
  completes := by
    intro decoder next input symbol taken
    obtain ⟨ret, _, same⟩ := step_ok taken
    obtain ⟨byte, _, rfl⟩ := Option.map_eq_some_iff.mp same.symm
    exact symbolOf_ne_eos byte
  refuses := held_refuses
  partly := held_partly

theorem held_new : Held HuffmanDecoder.new [] := by
  have first : heldTable[0]? = some (0, 0, 0) := rfl
  exact ⟨(0, 0, 0), first, rfl, fun _ _ => rfl⟩

theorem Held.isFinal {padding : Nat} (few : padding < 8)
    (holds : Held decoder (List.replicate padding true)) : decoder.isFinal = true := by
  obtain ⟨held, known, same, ends⟩ := holds
  have width : padding = held.1 := by simpa using congrArg List.length same
  rw [width, ← bits_ones] at same
  have value := bits_inj (Nat.sub_lt (Nat.two_pow_pos held.1) Nat.one_pos) (heldTable_small known) same
  exact ends (width ▸ few) (by rw [← value]; exact Nat.sub_add_cancel (Nat.two_pow_pos held.1))

/-! ## Bytes as four bits and four bits -/

def inputsOf (byte : UInt8) : List (Fin 16) :=
  [⟨byte.toNat >>> 4, by rw [Nat.shiftRight_eq_div_pow]; have := byte.toNat_lt; omega⟩,
    ⟨byte.toNat &&& 0xf, Nat.lt_of_le_of_lt Nat.and_le_right (by decide)⟩]

theorem bits_inputsOf (bytes : Bytes) : (bytes.flatMap inputsOf).flatMap inputBits = bitsOf bytes := by
  induction bytes with
  | nil => rfl
  | cons byte bytes ih =>
      have first : (inputsOf byte).flatMap inputBits = bits 8 byte.toNat := by
        change bits 4 (byte.toNat >>> 4) ++ (bits 4 (byte.toNat &&& 0xf) ++ []) = bits (4 + 4) byte.toNat
        rw [bits_split 4 4, List.append_nil, Nat.shiftRight_eq_div_pow,
          show (0xf : Nat) = 2 ^ 4 - 1 from rfl, Nat.and_two_pow_sub_one_eq_mod]
      rw [List.flatMap_cons, List.flatMap_append, ih, first]
      rfl

/-- The loop over the bytes follows the run of the states. -/
theorem decodeBytes_run {decoder final : HuffmanDecoder} {bytes : Bytes} {text : List Symbol}
    (ran : run step decoder (bytes.flatMap inputsOf) = some (final, text)) (out : Bytes) :
    ∃ produced, text = produced.map symbolOf ∧
      decodeBytes decoder out bytes = .ok (final, out ++ produced) := by
  induction bytes generalizing decoder out text with
  | nil =>
      cases ran
      exact ⟨[], rfl, by rw [List.append_nil]; rfl⟩
  | cons byte bytes ih =>
      obtain ⟨middle, high, first, tail, rfl, after⟩ := run_cons ran
      obtain ⟨next, low, second, rest, rfl, left⟩ := run_cons after
      obtain ⟨upper, decoded, rfl⟩ := step_ok first
      obtain ⟨lower, again, rfl⟩ := step_ok second
      obtain ⟨produced, rfl, finished⟩ := ih left (out ++ upper.toList ++ lower.toList)
      refine ⟨upper.toList ++ (lower.toList ++ produced), ?_, ?_⟩
      · cases upper <;> cases lower <;> simp
      · change decoder.decode4 (byte.toNat >>> 4) = _ at decoded
        change middle.decode4 (byte.toNat &&& 0xf) = _ at again
        simp only [decodeBytes, bind, Except.bind, decoded, again]
        refine finished.trans ?_
        simp only [List.append_assoc]

private theorem decode_bitsOf {bytes text : Bytes} {padding : Nat} (few : padding < 8)
    (same : bitsOf bytes = text.flatMap codeBits ++ List.replicate padding true) :
    decode bytes = .ok text := by
  have begins : List.replicate padding true <+: codeword eos ∧
      List.replicate padding true ≠ codeword eos := by
    rw [codeword_eos, bits_ones]
    refine ⟨⟨List.replicate (30 - padding) true, ?_⟩, ?_⟩
    · rw [List.replicate_append_replicate]
      congr 1
      omega
    · intro equal
      have lengths : padding = 30 := by simpa using congrArg List.length equal
      omega
  have plain : eos ∉ text.map symbolOf := by
    intro member
    obtain ⟨byte, _, same⟩ := List.mem_map.mp member
    exact symbolOf_ne_eos byte same
  have codes : text.flatMap codeBits = (text.map symbolOf).flatMap codeword := by
    rw [List.flatMap_map]
    rfl
  obtain ⟨final, ran, holds⟩ := @Describes.run_text _ _ _ _ _ _ _ _ _ describes codeword_prefixFree
    _ (bytes.flatMap inputsOf) _ _ (text.map symbolOf) held_new begins.1 begins.2 plain
    (by rw [List.nil_append, bits_inputsOf, same, codes])
  obtain ⟨produced, texts, decoded⟩ := decodeBytes_run ran []
  have equal : text = produced := List.map_injective_iff.mpr (fun _ _ => symbolOf_injective) texts
  have ended := holds.isFinal few
  unfold decode
  rw [decoded, List.nil_append, ← equal]
  simp only [bind, Except.bind, ended]
  rfl

theorem encode_decodes (src : Bytes) (lower : Bool) :
    ∃ bytes, Writes (encode src lower) bytes () ∧ bytes.length = encodeOutputLength src lower ∧
      decode bytes = .ok (lowered lower src) := by
  obtain ⟨bytes, padding, written, few, same⟩ := writes_encode src lower
  exact ⟨bytes, written, (encodeOutputLength_eq few same).symm, decode_bitsOf few same⟩

end Tquic.H3.Huffman
