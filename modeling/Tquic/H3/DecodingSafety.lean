import Tquic.H3.Frame
import Tquic.H3.Qpack.HuffmanStates
import Tquic.H3.Qpack.Qpack
import Tquic.Lib.ReaderBounds

/-! Decoding a payload of the length that was announced, or a field section, never panics. -/

set_option autoImplicit false

namespace Tquic.H3

open Lib

theorem Http3Error.ofError_eq_panic {error : Error} (same : Http3Error.ofError error = .panic) :
    error = .panic := by
  cases error <;> first | rfl | cases same

theorem read_avoids (len : Nat) : Avoids .panic (Http3Decoder.read len) :=
  (Avoids.take (by decide) len).mapError fun _ => Http3Error.ofError_eq_panic

theorem readUint_avoids (len : Nat) : Avoids .panic (Decoder.readUint len) :=
  (Avoids.take (by decide) len).map _

theorem readVarint_avoids : Avoids .panic Http3Decoder.readVarint := by
  refine Avoids.mapError (.bind .get fun input => ?_) fun _ => Http3Error.ofError_eq_panic
  cases input.head? with
  | none => exact .throw (by decide)
  | some first =>
      refine .ite (fun _ => .throw (by decide)) fun _ => ?_
      unfold Decoder.readMarked
      split
      · exact readUint_avoids 1
      all_goals exact (readUint_avoids _).map _

theorem readVarint_span {value : Nat} {input rest : Bytes}
    (read : Http3Decoder.readVarint.run input = .ok (value, rest)) :
    rest.length + encodeVarintLen value ≤ input.length :=
  (Tquic.readVarint_span (run_of_mapError_ok read)).2

theorem readVarint_consumes : Consumes 1 Http3Decoder.readVarint := by
  intro input value rest read
  have span := readVarint_span read
  have positive := encodeVarintLen_pos value
  omega

namespace Http3Frame

private theorem Settings.set_avoids (found : Settings) (identifier value : Nat) :
    found.set identifier value ≠ .error .panic := by
  intro failed
  unfold Settings.set at failed
  dsimp only at failed
  split_ifs at failed
  all_goals cases failed

private theorem decodeSettings_avoids {turns : Nat} {found : Settings} {b : Bytes}
    (enough : b.length ≤ turns) : decodeSettings turns found b ≠ .error .panic := by
  induction turns generalizing found b with
  | zero =>
      obtain rfl := List.eq_nil_of_length_eq_zero (Nat.le_zero.mp enough)
      exact fun failed => nomatch failed
  | succ turns ih =>
      cases b with
      | nil => exact fun failed => nomatch failed
      | cons first b =>
          intro failed
          unfold decodeSettings at failed
          cases identifier : Http3Decoder.readVarint.run (first :: b) with
          | error error =>
              simp only [identifier, bind, Except.bind] at failed
              cases Except.error.inj failed
              exact readVarint_avoids _ identifier
          | ok read =>
              have shorter := readVarint_consumes _ _ _ identifier
              simp only [identifier, bind, Except.bind] at failed
              cases value : Http3Decoder.readVarint.run read.2 with
              | error error =>
                  simp only [value] at failed
                  cases Except.error.inj failed
                  exact readVarint_avoids _ value
              | ok other =>
                  have fewer := readVarint_consumes _ _ _ value
                  simp only [value] at failed
                  cases set : found.set read.1 other.1 with
                  | error error =>
                      simp only [set] at failed
                      cases Except.error.inj failed
                      exact Settings.set_avoids _ _ _ set
                  | ok found =>
                      simp only [set] at failed
                      exact ih (by omega) failed

/-- The shortest encoding of the identifier is not longer than what was read of it. -/
theorem readIdBytes_avoids (b : Bytes) : (readIdBytes b.length).run b ≠ .error .panic := by
  intro failed
  unfold readIdBytes at failed
  rw [StateT.run_bind] at failed
  cases identifier : Http3Decoder.readVarint.run b with
  | error error =>
      simp only [identifier, bind, Except.bind] at failed
      cases Except.error.inj failed
      exact readVarint_avoids _ identifier
  | ok read =>
      have span := readVarint_span identifier
      simp only [identifier, bind, Except.bind] at failed
      rw [if_neg (by omega)] at failed
      exact (Avoids.bind (read_avoids _) fun _ => Avoids.pure _) _ failed

private theorem decodeSettingsFrame_avoids (payloadLength : Nat) (b : Bytes) :
    decodeSettingsFrame payloadLength b ≠ .error .panic := by
  intro failed
  unfold decodeSettingsFrame at failed
  split_ifs at failed
  · cases failed
  · cases decoded : decodeSettings b.length {} b with
    | error error =>
        rw [decoded] at failed
        cases Except.error.inj failed
        exact decodeSettings_avoids (le_refl _) decoded
    | ok found =>
        rw [decoded] at failed
        cases failed

private theorem decodePriorityUpdate_avoids {frameType : Nat} (b : Bytes)
    (priority : frameType = priorityUpdateFrameRequestType ∨
      frameType = priorityUpdateFramePushType) :
    decodePriorityUpdate frameType b.length b ≠ .error .panic := by
  intro failed
  unfold decodePriorityUpdate at failed
  cases ran : (readIdBytes b.length).run b with
  | error error =>
      simp only [ran, bind, Except.bind] at failed
      cases Except.error.inj failed
      exact readIdBytes_avoids b ran
  | ok read =>
      simp only [ran, bind, Except.bind] at failed
      split_ifs at failed with request push
      · cases failed
      · cases failed
      · exact priority.elim request push

/-- No payload makes the decoder panic. -/
theorem decodePayload_avoids (frameType : Nat) (buf : Bytes) :
    decodePayload frameType buf.length buf ≠ .error .panic := by
  have fromReader : ∀ {α : Type} {reader : Http3Decoder α} {f : α → Http3Frame},
      reader.run buf ≠ .error .panic →
        (do let read ← reader.run buf; return f read.1) ≠ Except.error Http3Error.panic := by
    intro α reader f avoids failed
    cases ran : reader.run buf with
    | error error =>
        simp only [ran, bind, Except.bind] at failed
        cases Except.error.inj failed
        exact avoids ran
    | ok read =>
        rw [ran] at failed
        cases failed
  unfold decodePayload
  split_ifs with _ _ _ _ _ _ _ priority
  · exact @fromReader _ _ .data (read_avoids _ _)
  · exact @fromReader _ _ .headers (read_avoids _ _)
  · exact @fromReader _ _ .cancelPush (readVarint_avoids _)
  · exact decodeSettingsFrame_avoids _ _
  · exact @fromReader _ _ (fun pair => .pushPromise pair.1 pair.2) (readIdBytes_avoids buf)
  · exact @fromReader _ _ .goAway (readVarint_avoids _)
  · exact @fromReader _ _ .maxPushId (readVarint_avoids _)
  · exact decodePriorityUpdate_avoids buf priority
  · exact fun failed => nomatch failed

end Http3Frame

/-! ## Field sections -/

namespace Huffman

private theorem decodeTable_closed : ∀ row ∈ decodeTable, ∀ entry ∈ row, entry.1 < 256 := by
  decide +kernel

/-- Four bits lead from a known state to a known state. -/
theorem decode4_avoids {decoder : HuffmanDecoder} {input : Nat} (known : decoder.state < 256)
    (nibble : input < 16) : decoder.decode4 input ≠ .error .panic ∧
      ∀ ret next, decoder.decode4 input = .ok (ret, next) → next.state < 256 := by
  obtain ⟨rows, _, columns⟩ := decodeTable_shape
  have row : decoder.state < decodeTable.length := rows ▸ known
  have member : decodeTable[decoder.state] ∈ decodeTable := List.getElem_mem row
  have column : input < decodeTable[decoder.state].length := (columns _ member).symm ▸ nibble
  have closed := decodeTable_closed _ member _ (List.getElem_mem column)
  have found : (decodeTable[decoder.state]? >>= (·[input]?)) =
      some decodeTable[decoder.state][input] := by
    rw [List.getElem?_eq_getElem row]
    exact List.getElem?_eq_getElem column
  unfold HuffmanDecoder.decode4
  simp only [found]
  constructor
  · split_ifs
    all_goals exact fun failed => nomatch failed
  · intro ret next decoded
    split_ifs at decoded
    all_goals cases decoded
    all_goals exact closed

private theorem decodeBytes_avoids {decoder : HuffmanDecoder} {out buf : Bytes}
    (known : decoder.state < 256) : decodeBytes decoder out buf ≠ .error .panic := by
  induction buf generalizing decoder out with
  | nil => exact fun failed => nomatch failed
  | cons byte buf ih =>
      intro failed
      have byteSmall := byte.toNat_lt
      have upper : byte.toNat >>> 4 < 16 := by
        rw [Nat.shiftRight_eq_div_pow]
        omega
      have lower : byte.toNat &&& 0xf < 16 := Nat.lt_succ_of_le Nat.and_le_right
      unfold decodeBytes at failed
      cases high : decoder.decode4 (byte.toNat >>> 4) with
      | error error =>
          simp only [high, bind, Except.bind] at failed
          cases Except.error.inj failed
          exact (decode4_avoids known upper).1 high
      | ok first =>
          have middle := (decode4_avoids known upper).2 _ _ high
          simp only [high, bind, Except.bind] at failed
          cases low : first.2.decode4 (byte.toNat &&& 0xf) with
          | error error =>
              simp only [low] at failed
              cases Except.error.inj failed
              exact (decode4_avoids middle lower).1 low
          | ok second =>
              simp only [low] at failed
              exact ih ((decode4_avoids middle lower).2 _ _ low) failed

theorem decode_avoids (buf : Bytes) : Huffman.decode buf ≠ .error .panic := by
  intro failed
  unfold Huffman.decode at failed
  cases decoded : decodeBytes HuffmanDecoder.new [] buf with
  | error error =>
      simp only [decoded, bind, Except.bind] at failed
      cases Except.error.inj failed
      exact decodeBytes_avoids (by decide) decoded
  | ok read =>
      simp only [decoded, bind, Except.bind] at failed
      split_ifs at failed
      all_goals cases failed

end Huffman

namespace Qpack

private theorem decodeOctets_avoids {shift val : Nat} {buf : Bytes} :
    decodeOctets shift val buf ≠ .error .panic := by
  induction buf generalizing shift val with
  | nil =>
      intro failed
      cases failed
  | cons byte buf ih =>
      unfold decodeOctets
      dsimp only
      split_ifs
      · intro failed
        cases failed
      · intro failed
        cases failed
      · intro failed
        cases failed
      · exact ih

private theorem decodeOctets_consumes {shift val value : Nat} {buf rest : Bytes}
    (read : decodeOctets shift val buf = .ok (value, rest)) : rest.length ≤ buf.length := by
  induction buf generalizing shift val with
  | nil => cases read
  | cons byte buf ih =>
      unfold decodeOctets at read
      dsimp only at read
      split_ifs at read
      · cases read
        exact Nat.le_succ _
      · exact (ih read).trans (Nat.le_succ _)

private theorem readU8_avoids : Avoids .panic Http3Decoder.readU8 :=
  (readUint_avoids 1).mapError fun _ => Http3Error.ofError_eq_panic

theorem decodeInt_avoids (n : Nat) : Avoids .panic (decodeInt n) :=
  .bind readU8_avoids fun _ => .ite (fun _ => .pure _) fun _ _ => decodeOctets_avoids

private theorem readU8_consumes : Consumes 1 Http3Decoder.readU8 := by
  refine Consumes.mapError fun input value rest read => ?_
  have taken := (readUint_ok read).2
  omega

theorem decodeInt_consumes (n : Nat) : Consumes 1 (decodeInt n) :=
  readU8_consumes.bind fun _ => .ite (.pure _) fun _ _ _ read => decodeOctets_consumes read

theorem read_consumes (len : Nat) : Consumes 0 (Http3Decoder.read len) :=
  (Consumes.take _ len).mapError.weaken (Nat.zero_le len)

theorem decodeLiteral_avoids (huff : Bool) (str : Bytes) :
    decodeLiteral huff str ≠ .error .panic := by
  unfold decodeLiteral
  split_ifs
  · exact Huffman.decode_avoids str
  · exact fun failed => nomatch failed

theorem decodeStatic_avoids (idx : Nat) : decodeStatic idx ≠ .error .panic := by
  intro failed
  unfold decodeStatic at failed
  cases found : staticDecodeTable[idx]? with
  | none =>
      rw [found] at failed
      cases failed
  | some entry =>
      rw [found] at failed
      cases failed

theorem lift_avoids {α : Type} {result : Except Http3Error α} (avoids : result ≠ .error .panic) :
    Avoids .panic (liftM result : Http3Decoder α) := by
  intro input failed
  cases result with
  | error error =>
      cases Except.error.inj failed
      exact avoids rfl
  | ok value => cases failed

theorem lift_consumes {α : Type} (result : Except Http3Error α) :
    Consumes 0 (liftM result : Http3Decoder α) := by
  intro input value rest read
  cases result with
  | error error => cases read
  | ok found =>
      cases read
      exact le_refl _

theorem decodeStr_avoids : Avoids .panic decodeStr := by
  refine .bind .get fun buf => ?_
  cases buf.head? with
  | none => exact .throw (by decide)
  | some first =>
      exact .bind (decodeInt_avoids 7) fun _ => .bind (read_avoids _) fun _ =>
        lift_avoids (decodeLiteral_avoids _ _)

theorem decodeStr_consumes : Consumes 0 decodeStr := by
  refine Consumes.bind (fun input value rest read => ?_) fun buf => ?_
  · cases read
    exact le_refl _
  · cases buf.head? with
    | none => exact .throw _
    | some first =>
        exact .bind ((decodeInt_consumes 7).weaken (Nat.zero_le 1)) fun _ =>
          .bind (read_consumes _) fun _ => lift_consumes _

private theorem decodeHeader_avoids (first : Nat) : Avoids .panic (decodeHeader first) := by
  unfold decodeHeader
  cases Representation.ofByte first with
  | indexed =>
      exact .bind (decodeInt_avoids 6) fun _ => .ite (fun _ => .throw (by decide)) fun _ =>
        .bind (lift_avoids (decodeStatic_avoids _)) fun _ => .pure _
  | indexedWithPostBase => exact .bind (decodeInt_avoids 4) fun _ => .throw (by decide)
  | literalWithNameRef =>
      exact .bind (decodeInt_avoids 4) fun _ => .bind decodeStr_avoids fun _ =>
        .ite (fun _ => .throw (by decide)) fun _ =>
          .bind (lift_avoids (decodeStatic_avoids _)) fun _ => .pure _
  | literalWithPostBase => exact .throw (by decide)
  | literal =>
      exact .bind (decodeInt_avoids 3) fun _ => .bind (read_avoids _) fun _ =>
        .bind (lift_avoids (decodeLiteral_avoids _ _)) fun _ => .bind decodeStr_avoids fun _ => .pure _

private theorem decodeHeader_consumes (first : Nat) : Consumes 1 (decodeHeader first) := by
  unfold decodeHeader
  cases Representation.ofByte first with
  | indexed =>
      exact .bind (decodeInt_consumes 6) fun _ => .ite (.throw _)
        (.bind (lift_consumes _) fun _ => .pure _)
  | indexedWithPostBase => exact .bind (decodeInt_consumes 4) fun _ => .throw _
  | literalWithNameRef =>
      exact .bind (decodeInt_consumes 4) fun _ => .bind decodeStr_consumes fun _ =>
        .ite (.throw _) (.bind (lift_consumes _) fun _ => .pure _)
  | literalWithPostBase => exact .throw _
  | literal =>
      exact .bind (decodeInt_consumes 3) fun _ => .bind (read_consumes _) fun _ =>
        .bind (lift_consumes _) fun _ => .bind decodeStr_consumes fun _ => .pure _

private theorem decodeHeaders_avoids {turns left : Nat} {out : List Header} {buf : Bytes}
    (enough : buf.length ≤ turns) : decodeHeaders turns left out buf ≠ .error .panic := by
  induction turns generalizing left out buf with
  | zero =>
      obtain rfl := List.eq_nil_of_length_eq_zero (Nat.le_zero.mp enough)
      exact fun failed => nomatch failed
  | succ turns ih =>
      cases buf with
      | nil => exact fun failed => nomatch failed
      | cons first buf =>
          intro failed
          unfold decodeHeaders at failed
          cases header : (decodeHeader first.toNat).run (first :: buf) with
          | error error =>
              simp only [header, bind, Except.bind] at failed
              cases Except.error.inj failed
              exact decodeHeader_avoids _ _ header
          | ok read =>
              have shorter := decodeHeader_consumes _ _ _ _ header
              simp only [header, bind, Except.bind] at failed
              split_ifs at failed
              · cases failed
              · exact ih (by omega) failed

theorem decode_avoids (buf : Bytes) (maxSize : UInt64) : Qpack.decode buf maxSize ≠ .error .panic := by
  intro failed
  unfold Qpack.decode at failed
  cases first : (decodeInt 8).run buf with
  | error error =>
      simp only [first, bind, Except.bind] at failed
      cases Except.error.inj failed
      exact decodeInt_avoids 8 _ first
  | ok read =>
      simp only [first, bind, Except.bind] at failed
      cases second : (decodeInt 7).run read.2 with
      | error error =>
          simp only [second] at failed
          cases Except.error.inj failed
          exact decodeInt_avoids 7 _ second
      | ok other =>
          simp only [second] at failed
          cases headers : decodeHeaders other.2.length maxSize.toNat [] other.2 with
          | error error =>
              simp only [headers] at failed
              cases Except.error.inj failed
              exact decodeHeaders_avoids (le_refl _) headers
          | ok found =>
              simp only [headers] at failed
              cases failed

end Qpack

end Tquic.H3
