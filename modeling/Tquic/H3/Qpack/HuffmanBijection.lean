import Tquic.H3.Qpack.HuffmanRoundTrip

/-! What the Huffman decoder accepts is what the encoder writes: the codes of the bytes, and fewer
than eight ones behind them. -/

set_option autoImplicit false
set_option maxRecDepth 4096

namespace Tquic.H3.Huffman

open Lib BitString PrefixCode

/-! ## The end of the string -/

/-- An entry of the decoding table after which a string may end leads to a state that holds fewer
than eight bits, all of them ones. -/
def entryEnds (entry : Nat × Nat × Nat) : Bool :=
  let (next, _, flags) := entry
  !HuffmanDecoder.contains flags flagMaybeEos ||
    match heldTable[next]? with
    | none => false
    | some (width, value, _) => Nat.blt width 8 && Nat.beq (value + 1) (2 ^ width)

private theorem decodeTable_ends : ∀ row ∈ decodeTable, ∀ entry ∈ row, entryEnds entry = true := by
  decide +kernel

private theorem entryEnds_held {next byte flags : Nat} {held : Nat × Nat × Nat}
    (ends : entryEnds (next, byte, flags) = true)
    (flagged : HuffmanDecoder.contains flags flagMaybeEos = true)
    (known : heldTable[next]? = some held) : held.1 < 8 ∧ held.2.1 + 1 = 2 ^ held.1 := by
  unfold entryEnds at ends
  simp only [flagged, known, Bool.not_true, Bool.false_or, Bool.and_eq_true] at ends
  exact ⟨Nat.lt_of_lt_of_le (Nat.lt_succ_self _) (Nat.le_of_ble_eq_true ends.1),
    Nat.eq_of_beq_eq_true ends.2⟩

/-- A decoder that takes the string for ended holds padding. -/
def Stops (decoder : HuffmanDecoder) : Prop :=
  decoder.isFinal = true → ∀ held, heldTable[decoder.state]? = some held →
    held.1 < 8 ∧ held.2.1 + 1 = 2 ^ held.1

theorem zero_held {held : Nat × Nat × Nat} (known : heldTable[0]? = some held) :
    held.1 < 8 ∧ held.2.1 + 1 = 2 ^ held.1 := by
  have first : heldTable[0]? = some (0, 0, 0) := rfl
  rw [first] at known
  cases known
  decide

private theorem stops_new : Stops HuffmanDecoder.new := fun _ _ known => zero_held known

private theorem stops_step {decoder next : HuffmanDecoder} {input : Fin 16} {symbol : Option Symbol}
    (taken : step decoder input = some (next, symbol)) : Stops next := by
  intro final held known
  obtain ⟨ret, decoded, _⟩ := step_ok taken
  unfold HuffmanDecoder.decode4 at decoded
  cases found : decodeTable[decoder.state]? >>= (·[input.val]?) with
  | none =>
      rw [found] at decoded
      cases decoded
  | some entry =>
      obtain ⟨state, byte, flags⟩ := entry
      obtain ⟨row, inTable, inRow⟩ := Option.bind_eq_some_iff.mp found
      have ends := decodeTable_ends row (List.mem_of_getElem? inTable) _ (List.mem_of_getElem? inRow)
      rw [found] at decoded
      cases sound : HuffmanDecoder.contains flags flagError with
      | true =>
          simp only [sound, if_true] at decoded
          cases decoded
      | false =>
          simp only [sound, Bool.false_eq_true, if_false] at decoded
          cases decoded
          rcases Bool.or_eq_true_iff.mp final with zero | flagged
          · rw [beq_iff_eq.mp zero] at known
            exact zero_held known
          · exact entryEnds_held ends flagged known

theorem stops_run {decoder final : HuffmanDecoder} {inputs : List (Fin 16)} {text : List Symbol}
    (stops : Stops decoder) (ran : run step decoder inputs = some (final, text)) : Stops final := by
  induction inputs generalizing decoder text with
  | nil =>
      cases ran
      exact stops
  | cons input inputs ih =>
      obtain ⟨next, _, taken, _, _, later⟩ := run_cons ran
      exact ih (stops_step taken) later

/-- The bits that are left over at the end of an accepted string. -/
theorem Held.padding {decoder : HuffmanDecoder} {word : List Bool} (holds : Held decoder word)
    (stops : Stops decoder) (final : decoder.isFinal = true) :
    ∃ padding, padding < 8 ∧ word = List.replicate padding true := by
  obtain ⟨held, known, rfl, _⟩ := holds
  obtain ⟨few, ones⟩ := stops final held known
  refine ⟨held.1, few, ?_⟩
  rw [← bits_ones, ← ones, Nat.add_sub_cancel]

/-! ## What is accepted -/

theorem step_of_decode4 {decoder next : HuffmanDecoder} {input : Nat} {ret : Option UInt8}
    (small : input < 16) (decoded : decoder.decode4 input = .ok (ret, next)) :
    step decoder ⟨input, small⟩ = some (next, ret.map symbolOf) := by
  unfold step
  rw [decoded]

private theorem run_of_decodeBytes {decoder final : HuffmanDecoder} {bytes before text : Bytes}
    (decoded : decodeBytes decoder before bytes = .ok (final, text)) :
    ∃ produced, text = before ++ produced ∧
      run step decoder (bytes.flatMap inputsOf) = some (final, produced.map symbolOf) := by
  induction bytes generalizing decoder before with
  | nil =>
      cases decoded
      exact ⟨[], (List.append_nil _).symm, rfl⟩
  | cons byte bytes ih =>
      unfold decodeBytes at decoded
      obtain ⟨⟨high, middle⟩, first, decoded⟩ := bind_ok.mp decoded
      obtain ⟨⟨low, next⟩, second, decoded⟩ := bind_ok.mp decoded
      obtain ⟨produced, rfl, ran⟩ := ih decoded
      refine ⟨high.toList ++ (low.toList ++ produced), by simp only [List.append_assoc], ?_⟩
      have texts : (high.toList ++ (low.toList ++ produced)).map symbolOf =
          (high.map symbolOf).toList ++ ((low.map symbolOf).toList ++ produced.map symbolOf) := by
        cases high <;> cases low <;> rfl
      rw [texts]
      exact run_step (step_of_decode4 _ first) (run_step (step_of_decode4 _ second) ran)

private theorem bitsOf_decode {bytes text : Bytes} (accepted : decode bytes = .ok text) :
    ∃ padding, padding < 8 ∧
      bitsOf bytes = text.flatMap codeBits ++ List.replicate padding true := by
  unfold decode at accepted
  obtain ⟨⟨final, out⟩, decoded, accepted⟩ := bind_ok.mp accepted
  obtain ⟨produced, rfl, ran⟩ := run_of_decodeBytes decoded
  cases ended : final.isFinal with
  | false =>
      simp only [ended] at accepted
      cases accepted
  | true =>
      simp only [ended] at accepted
      cases accepted
      obtain ⟨rest, holds, same⟩ := describes.word_of_run held_new ran
      obtain ⟨padding, few, rfl⟩ := holds.padding (stops_run stops_new ran) ended
      refine ⟨padding, few, ?_⟩
      rw [List.nil_append, bits_inputsOf, List.flatMap_map] at same
      exact same

private theorem bitsOf_injective {left right : Bytes} (same : bitsOf left = bitsOf right) :
    left = right := by
  induction left generalizing right with
  | nil =>
      have lengths := congrArg List.length same
      rw [length_bitsOf, length_bitsOf] at lengths
      cases right with
      | nil => rfl
      | cons byte right => cases lengths
  | cons byte left ih =>
      cases right with
      | nil => cases same
      | cons other right =>
          obtain ⟨first, rest⟩ := List.append_inj same (by simp only [length_bits])
          have values := bits_inj byte.toNat_lt other.toNat_lt first
          rw [UInt8.toNat_inj.mp values, ih rest]

theorem padding_unique {left right : Bytes} {word : List Bool} {few less : Nat} (small : few < 8)
    (short : less < 8) (first : bitsOf left = word ++ List.replicate few true)
    (second : bitsOf right = word ++ List.replicate less true) : left = right := by
  have long := congrArg List.length first
  have other := congrArg List.length second
  rw [length_bitsOf, List.length_append, List.length_replicate] at long other
  obtain rfl : few = less := by omega
  exact bitsOf_injective (first.trans second.symm)

/-- Every string is encoded in the announced length, and the decoder takes for a string what the
encoder writes for it, and nothing else. -/
theorem decode_iff_encode :
    (∀ src : Bytes, ∃ bytes, Writes (encode src false) bytes () ∧
      bytes.length = encodeOutputLength src false ∧ decode bytes = .ok src) ∧
    ∀ bytes src : Bytes, decode bytes = .ok src ↔ Writes (encode src false) bytes () := by
  refine ⟨fun src => encode_decodes src false, fun bytes src => ⟨fun accepted => ?_, fun writes => ?_⟩⟩
  · obtain ⟨padding, few, same⟩ := bitsOf_decode accepted
    obtain ⟨written, filled, writes, less, output⟩ := writes_encode src false
    obtain rfl : bytes = written := padding_unique few less same output
    exact writes
  · obtain ⟨written, writes', _, decoded⟩ := encode_decodes src false
    exact writes.output_eq writes' ▸ decoded

end Tquic.H3.Huffman
