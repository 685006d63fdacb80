import Tquic.Frame

/-! How many bytes an encoder writes when it succeeds. A frame takes as many as its length says. -/

set_option autoImplicit false

namespace Tquic

open Lib

/-- The encoder writes `len` bytes. It may fail, but never with `Done`. -/
abbrev Spends {α : Type} (encoder : Encoder α) (len : Nat) : Prop := Costs (· ≠ Error.done) encoder len

theorem spends_bytes (bytes : Bytes) : Spends (Encoder.write bytes) bytes.length :=
  Costs.put (by decide) bytes

theorem spends_uint (len value : Nat) : Spends (Encoder.writeUint len value) len := by
  have put := spends_bytes (BigEndian.encode len value)
  rwa [BigEndian.length_encode] at put

theorem spends_varintWithLen (value len : Nat) : Spends (Encoder.writeVarintWithLen value len) len := by
  unfold Encoder.writeVarintWithLen
  split
  · exact spends_uint 1 _
  · exact spends_uint 2 _
  · exact spends_uint 4 _
  · exact spends_uint 8 _
  · exact Costs.throw (by decide) _

theorem spends_varint (value : Nat) : Spends (Encoder.writeVarint value) (encodeVarintLen value) := by
  unfold Encoder.writeVarint
  split_ifs
  · exact spends_varintWithLen _ _
  · exact Costs.throw (by decide) _

theorem spends_kind {kind : Nat} (small : kind ≤ 63) : Spends (Encoder.writeVarint kind) 1 := by
  have spends := spends_varint kind
  rwa [encodeVarintLen, if_pos small] at spends

namespace Frame

private theorem spends_paddings (len : Nat) : Spends (writePaddings len) len := by
  induction len with
  | zero => exact Costs.pure ()
  | succ len ih =>
      have more := (spends_kind (Nat.zero_le 63)).bind fun _ => ih
      rwa [Nat.add_comm] at more

private theorem spends_ackRanges (smallestAck : Nat) (ranges : List Range) :
    Spends (writeAckRanges smallestAck ranges) (ackRangesWireLen smallestAck ranges) := by
  induction ranges generalizing smallestAck with
  | nil => exact Costs.pure ()
  | cons range rest ih =>
      have fields := (spends_varint (smallestAck - range.stop - 1)).bind fun _ =>
        (spends_varint (range.stop - 1 - range.start)).bind fun _ => ih range.start
      rwa [← Nat.add_assoc] at fields

private theorem spends_ecn (counts : EcnCounts) :
    Spends (writeEcnCounts (some counts)) (encodeVarintLen counts.ect0Count +
      (encodeVarintLen counts.ect1Count + encodeVarintLen counts.ecnCeCount)) :=
  (spends_varint counts.ect0Count).bind fun _ =>
    (spends_varint counts.ect1Count).bind fun _ => spends_varint counts.ecnCeCount

private theorem spends_ack (ackDelay : Nat) (ackRanges : RangeSet) (ecnCounts : Option EcnCounts) :
    Spends (writeAckFrame ackDelay ackRanges ecnCounts) (ackWireLen ackDelay ackRanges ecnCounts) := by
  have kind : (if ecnCounts.isNone then 0x02 else 0x03) ≤ 63 := by split_ifs <;> decide
  unfold writeAckFrame ackWireLen
  cases ackRanges.iter.reverse with
  | nil =>
      -- Nothing is written of an empty set of ranges.
      have panics : Spends (throw .panic : Encoder Unit) 0 := Costs.throw (by decide) 0
      refine ⟨fun sink value after ran => ?_, ((spends_kind kind).bind fun _ => panics).fails⟩
      obtain ⟨_, _, _, impossible⟩ := run_bind_ok.mp ran
      cases impossible
  | cons first rest =>
      have fields : ∀ {len : Nat}, Spends (writeEcnCounts ecnCounts) len → _ := fun ecn =>
        (spends_kind kind).bind fun _ => (spends_varint (first.stop - 1)).bind fun _ =>
          (spends_varint ackDelay).bind fun _ => (spends_varint rest.length).bind fun _ =>
            (spends_varint (first.stop - 1 - first.start)).bind fun _ =>
              (spends_ackRanges first.start rest).bind fun _ => ecn
      cases ecnCounts with
      | none =>
          have total := fields (Costs.pure ())
          simp only [← Nat.add_assoc, Nat.add_zero] at total
          exact total
      | some counts =>
          have total := fields (spends_ecn counts)
          simp only [← Nat.add_assoc] at total ⊢
          exact total

theorem spends_cryptoHeader (offset length : Nat) :
    Spends (encodeCryptoHeader offset length) (1 + (encodeVarintLen offset + 2)) :=
  (spends_kind (by decide)).bind fun _ => (spends_varint offset).bind fun _ =>
    spends_varintWithLen length 2

theorem spends_streamHeader (streamId offset length : Nat) (fin : Bool) :
    Spends (encodeStreamHeader streamId offset length fin)
      (1 + (encodeVarintLen streamId + (encodeVarintLen offset + 2))) := by
  have kind : (if fin then 0x0f else 0x0e) ≤ 63 := by cases fin <;> decide
  exact (spends_kind kind).bind fun _ => (spends_varint streamId).bind fun _ =>
    (spends_varint offset).bind fun _ => spends_varintWithLen length 2

/-- A frame takes as many bytes as its length says. -/
theorem spends_frame (frame : Frame) : Spends frame.writeFrame frame.wireLen := by
  have counted : ∀ {encoder : Encoder Unit} {len total : Nat}, Spends encoder len → len = total →
      Spends encoder total := fun spends same => same ▸ spends
  cases frame with
  | paddings len => exact spends_paddings len
  | ping => exact spends_kind (by decide)
  | ack ackDelay ackRanges ecnCounts => exact spends_ack ackDelay ackRanges ecnCounts
  | resetStream streamId errorCode finalSize =>
      refine counted ((spends_kind (by decide)).bind fun _ => (spends_varint streamId).bind fun _ =>
        (spends_varint errorCode).bind fun _ => spends_varint finalSize) ?_
      simp only [wireLen, Nat.add_assoc]
  | stopSending streamId errorCode =>
      refine counted ((spends_kind (by decide)).bind fun _ => (spends_varint streamId).bind fun _ =>
        spends_varint errorCode) ?_
      simp only [wireLen, Nat.add_assoc]
  | crypto offset length data =>
      refine counted ((spends_cryptoHeader offset length).bind fun _ => spends_bytes data) ?_
      simp only [wireLen, Nat.add_assoc]
  | newToken token =>
      refine counted ((spends_kind (by decide)).bind fun _ => (spends_varint token.length).bind fun _ =>
        spends_bytes token) ?_
      simp only [wireLen, Nat.add_assoc]
  | stream streamId offset length fin data =>
      refine counted ((spends_streamHeader streamId offset length fin).bind fun _ =>
        spends_bytes data) ?_
      simp only [wireLen, Nat.add_assoc]
  | maxData max => exact (spends_kind (by decide)).bind fun _ => spends_varint max
  | maxStreamData streamId max =>
      refine counted ((spends_kind (by decide)).bind fun _ => (spends_varint streamId).bind fun _ =>
        spends_varint max) ?_
      simp only [wireLen, Nat.add_assoc]
  | maxStreams bidi max =>
      have kind : (if bidi then 0x12 else 0x13) ≤ 63 := by cases bidi <;> decide
      exact (spends_kind kind).bind fun _ => spends_varint max
  | dataBlocked max => exact (spends_kind (by decide)).bind fun _ => spends_varint max
  | streamDataBlocked streamId max =>
      refine counted ((spends_kind (by decide)).bind fun _ => (spends_varint streamId).bind fun _ =>
        spends_varint max) ?_
      simp only [wireLen, Nat.add_assoc]
  | streamsBlocked bidi max =>
      have kind : (if bidi then 0x16 else 0x17) ≤ 63 := by cases bidi <;> decide
      exact (spends_kind kind).bind fun _ => spends_varint max
  | newConnectionId seqNum retirePriorTo connId resetToken =>
      refine counted ((spends_kind (by decide)).bind fun _ => (spends_varint seqNum).bind fun _ =>
        (spends_varint retirePriorTo).bind fun _ => (spends_uint 1 _).bind fun _ =>
          (spends_bytes connId.bytes).bind fun _ => spends_bytes resetToken.toList) ?_
      simp only [wireLen, Nat.add_assoc]
  | retireConnectionId seqNum => exact (spends_kind (by decide)).bind fun _ => spends_varint seqNum
  | pathChallenge data =>
      refine counted ((spends_kind (by decide)).bind fun _ => spends_bytes data.toList) ?_
      simp only [wireLen, Vector.length_toList]
  | pathResponse data =>
      refine counted ((spends_kind (by decide)).bind fun _ => spends_bytes data.toList) ?_
      simp only [wireLen, Vector.length_toList]
  | connectionClose errorCode frameType reason =>
      refine counted ((spends_kind (by decide)).bind fun _ => (spends_varint errorCode).bind fun _ =>
        (spends_varint frameType).bind fun _ => (spends_varint reason.length).bind fun _ =>
          spends_bytes reason) ?_
      simp only [wireLen, Nat.add_assoc]
  | applicationClose errorCode reason =>
      refine counted ((spends_kind (by decide)).bind fun _ => (spends_varint errorCode).bind fun _ =>
        (spends_varint reason.length).bind fun _ => spends_bytes reason) ?_
      simp only [wireLen, Nat.add_assoc]
  | handshakeDone => exact spends_kind (by decide)
  | pathAbandon dcidSeqNum errorCode reason =>
      refine counted ((spends_varint 0x15228c05).bind fun _ => (spends_varint dcidSeqNum).bind fun _ =>
        (spends_varint errorCode).bind fun _ => (spends_varint reason.length).bind fun _ =>
          spends_bytes reason) ?_
      simp only [wireLen, Nat.add_assoc]
      rfl
  | pathStatus dcidSeqNum seqNum status =>
      refine counted ((spends_varint 0x15228c06).bind fun _ => (spends_varint dcidSeqNum).bind fun _ =>
        (spends_varint seqNum).bind fun _ => spends_varint status) ?_
      simp only [wireLen, Nat.add_assoc]
      rfl

end Frame

end Tquic
