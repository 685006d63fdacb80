import Tquic.Frame
import Tquic.RangesProperties

/-! A frame that was encoded is decoded to itself, from exactly the bytes it takes. The
wire image of a frame stands between the encoder, the decoder and the length. -/

set_option autoImplicit false

namespace Tquic

open Lib

namespace Frame

/-! ## Wire images -/

def ackRangesImage : Nat → List Range → Bytes
  | _, [] => []
  | smallestAck, range :: rest =>
      varint (smallestAck - range.stop - 1) ++
        (varint (range.stop - 1 - range.start) ++ ackRangesImage range.start rest)

def ecnImage : Option EcnCounts → Bytes
  | none => []
  | some counts =>
      varint counts.ect0Count ++ (varint counts.ect1Count ++ varint counts.ecnCeCount)

def ackImage (ackDelay : Nat) (ackRanges : RangeSet) (ecnCounts : Option EcnCounts) : Bytes :=
  match ackRanges.iter.reverse with
  | [] => []
  | first :: rest =>
      varint (if ecnCounts.isNone then 0x02 else 0x03) ++
        (varint (first.stop - 1) ++
          (varint ackDelay ++
            (varint rest.length ++
              (varint (first.stop - 1 - first.start) ++
                (ackRangesImage first.start rest ++ ecnImage ecnCounts)))))

def image : Frame → Bytes
  | .paddings len => List.replicate len 0
  | .ping _ => varint 0x01
  | .ack ackDelay ackRanges ecnCounts => ackImage ackDelay ackRanges ecnCounts
  | .resetStream streamId errorCode finalSize =>
      varint 0x04 ++ (varint streamId ++ (varint errorCode ++ varint finalSize))
  | .stopSending streamId errorCode => varint 0x05 ++ (varint streamId ++ varint errorCode)
  | .crypto offset length data =>
      varint 0x06 ++ (varint offset ++ (varintBytes 2 length ++ data))
  | .newToken token => varint 0x07 ++ (varint token.length ++ token)
  | .stream streamId offset length fin data =>
      varint (if fin then 0x0f else 0x0e) ++
        (varint streamId ++ (varint offset ++ (varintBytes 2 length ++ data)))
  | .maxData max => varint 0x10 ++ varint max
  | .maxStreamData streamId max => varint 0x11 ++ (varint streamId ++ varint max)
  | .maxStreams bidi max => varint (if bidi then 0x12 else 0x13) ++ varint max
  | .dataBlocked max => varint 0x14 ++ varint max
  | .streamDataBlocked streamId max => varint 0x15 ++ (varint streamId ++ varint max)
  | .streamsBlocked bidi max => varint (if bidi then 0x16 else 0x17) ++ varint max
  | .newConnectionId seqNum retirePriorTo connId resetToken =>
      varint 0x18 ++ (varint seqNum ++ (varint retirePriorTo ++
        ((BigEndian.encode 1 connId.bytes.length ++ connId.bytes) ++ resetToken.toList)))
  | .retireConnectionId seqNum => varint 0x19 ++ varint seqNum
  | .pathChallenge data => varint 0x1a ++ data.toList
  | .pathResponse data => varint 0x1b ++ data.toList
  | .connectionClose errorCode frameType reason =>
      varint 0x1c ++ (varint errorCode ++ (varint frameType ++ (varint reason.length ++ reason)))
  | .applicationClose errorCode reason =>
      varint 0x1d ++ (varint errorCode ++ (varint reason.length ++ reason))
  | .handshakeDone => varint 0x1e
  | .pathAbandon dcidSeqNum errorCode reason =>
      varint 0x15228c05 ++ (varint dcidSeqNum ++ (varint errorCode ++
        (varint reason.length ++ reason)))
  | .pathStatus dcidSeqNum seqNum status =>
      varint 0x15228c06 ++ (varint dcidSeqNum ++ (varint seqNum ++ varint status))

/-! ## Frames that can be encoded -/

def EcnCounts.Small (counts : EcnCounts) : Prop :=
  counts.ect0Count ≤ vintMax ∧ counts.ect1Count ≤ vintMax ∧ counts.ecnCeCount ≤ vintMax

/-- Integers and lengths fit into variable-length integers, payloads into two bytes of
length, and there is at least one padding and one acknowledged range. -/
def WellFormed : Frame → Prop
  | .paddings len => 0 < len
  | .ping _ => True
  | .ack ackDelay ackRanges ecnCounts =>
      ackDelay ≤ vintMax ∧ ackRanges.isEmpty = false ∧
        (∀ range ∈ ackRanges.iter, range.stop ≤ vintMax + 1) ∧
        ∀ counts, ecnCounts = some counts → EcnCounts.Small counts
  | .resetStream streamId errorCode finalSize =>
      streamId ≤ vintMax ∧ errorCode ≤ vintMax ∧ finalSize ≤ vintMax
  | .stopSending streamId errorCode => streamId ≤ vintMax ∧ errorCode ≤ vintMax
  | .crypto offset length data =>
      length = data.length ∧ length ≤ 16383 ∧ offset + length ≤ vintMax
  | .newToken token => token.length ≤ vintMax
  | .stream streamId offset length _ data =>
      streamId ≤ vintMax ∧ length = data.length ∧ length ≤ 16383 ∧ offset + length ≤ vintMax
  | .maxData max => max ≤ vintMax
  | .maxStreamData streamId max => streamId ≤ vintMax ∧ max ≤ vintMax
  | .maxStreams _ max => max ≤ vintMax
  | .dataBlocked max => max ≤ vintMax
  | .streamDataBlocked streamId max => streamId ≤ vintMax ∧ max ≤ vintMax
  | .streamsBlocked _ max => max ≤ vintMax
  | .newConnectionId seqNum retirePriorTo _ _ => seqNum ≤ vintMax ∧ retirePriorTo ≤ vintMax
  | .retireConnectionId seqNum => seqNum ≤ vintMax
  | .pathChallenge _ => True
  | .pathResponse _ => True
  | .connectionClose errorCode frameType reason =>
      errorCode ≤ vintMax ∧ frameType ≤ vintMax ∧ reason.length ≤ vintMax
  | .applicationClose errorCode reason => errorCode ≤ vintMax ∧ reason.length ≤ vintMax
  | .handshakeDone => True
  | .pathAbandon dcidSeqNum errorCode reason =>
      dcidSeqNum ≤ vintMax ∧ errorCode ≤ vintMax ∧ reason.length ≤ vintMax
  | .pathStatus dcidSeqNum seqNum status =>
      dcidSeqNum ≤ vintMax ∧ seqNum ≤ vintMax ∧ status ≤ vintMax

/-- The frame without what is not transmitted: the metadata of a probe and the capacity of
the set of ranges. -/
def onWire : Frame → Frame
  | .ping _ => .ping none
  | .ack ackDelay ackRanges ecnCounts => .ack ackDelay { ackRanges with capacity := none } ecnCounts
  | frame => frame

/-! ## Acknowledged ranges -/

/-- Ranges in descending order, each at least one value below the one before. -/
def Descends : Nat → List Range → Prop
  | _, [] => True
  | bound, range :: rest =>
      range.start < range.stop ∧ range.stop < bound ∧ Descends range.start rest

variable {ranges : List Range} {bound : Nat}

private theorem descends_of_pairwise (nonempty : ∀ range ∈ ranges, range.start < range.stop)
    (below : ∀ range ∈ ranges, range.stop < bound)
    (apart : ranges.Pairwise (fun left right => right.stop < left.start)) :
    Descends bound ranges := by
  induction ranges generalizing bound with
  | nil => trivial
  | cons range rest ih =>
      obtain ⟨first, later⟩ := List.pairwise_cons.mp apart
      refine ⟨nonempty range List.mem_cons_self, below range List.mem_cons_self, ?_⟩
      exact ih (fun other member => nonempty other (List.mem_cons_of_mem _ member)) first later

theorem Descends.length_le (descends : Descends bound ranges) : ranges.length ≤ bound := by
  induction ranges generalizing bound with
  | nil => exact Nat.zero_le _
  | cons range rest ih =>
      obtain ⟨nonempty, below, later⟩ := descends
      have := ih later
      simp only [List.length_cons]
      omega

theorem iter_reverse_descends {ranges : RangeSet} {first : Range} {rest : List Range}
    (shape : ranges.iter.reverse = first :: rest) :
    first.start < first.stop ∧ Descends first.start rest ∧
      ∀ range, range ∈ ranges.iter ↔ range = first ∨ range ∈ rest := by
  have members : ∀ range, range ∈ ranges.iter ↔ range = first ∨ range ∈ rest := by
    intro range
    rw [← List.mem_reverse, shape, List.mem_cons]
  have apart : (first :: rest).Pairwise (fun left right => right.stop < left.start) := by
    rw [← shape, List.pairwise_reverse]
    exact ranges.iter_pairwise
  obtain ⟨below, later⟩ := List.pairwise_cons.mp apart
  have nonempty : ∀ range ∈ ranges.iter, range.start < range.stop :=
    fun range member => RangeSet.iter_nonempty member
  refine ⟨nonempty first ((members first).mpr (.inl rfl)), ?_, members⟩
  exact descends_of_pairwise (fun range member => nonempty range ((members range).mpr (.inr member)))
    below later

private theorem writes_ackRanges (descends : Descends bound ranges) (small : bound ≤ vintMax + 1) :
    Writes (writeAckRanges bound ranges) (ackRangesImage bound ranges) () := by
  induction ranges generalizing bound with
  | nil => exact Writes.pure ()
  | cons range rest ih =>
      obtain ⟨nonempty, below, later⟩ := descends
      refine (writes_varint (by omega)).bind ((writes_varint (by omega)).bind ?_)
      exact ih later (by omega)

private theorem reads_ackRanges (descends : Descends bound ranges)
    (small : bound ≤ vintMax + 1) (ackRanges : RangeSet) :
    Reads (parseAckRanges ranges.length bound ackRanges) (ackRangesImage bound ranges)
      (ranges.foldl RangeSet.insert ackRanges) := by
  induction ranges generalizing bound ackRanges with
  | nil => exact Reads.pure ackRanges
  | cons range rest ih =>
      obtain ⟨nonempty, below, later⟩ := descends
      refine (reads_varint (by omega)).bind ?_
      rw [if_neg (by omega)]
      refine (reads_varint (by omega)).bind ?_
      rw [if_neg (by omega)]
      have start : bound - (bound - range.stop - 1) - 2 - (range.stop - 1 - range.start) =
          range.start := by omega
      have stop : bound - (bound - range.stop - 1) - 2 + 1 = range.stop := by omega
      dsimp only
      rw [start, stop]
      exact ih later (by omega) (ackRanges.insert range)

theorem length_ackRangesImage (bound : Nat) (ranges : List Range) :
    (ackRangesImage bound ranges).length = ackRangesWireLen bound ranges := by
  induction ranges generalizing bound with
  | nil => rfl
  | cons range rest ih =>
      simp only [ackRangesImage, ackRangesWireLen, List.length_append, length_varint, ih]
      omega

theorem mem_foldl_insert {ranges : List Range} {set : RangeSet} (unlimited : set.capacity = none)
    {value : Nat} :
    (ranges.foldl RangeSet.insert set).capacity = none ∧ (value ∈ ranges.foldl RangeSet.insert set ↔
        value ∈ set ∨ ∃ range ∈ ranges, range.start ≤ value ∧ value < range.stop) := by
  induction ranges generalizing set with
  | nil => exact ⟨unlimited, by simp⟩
  | cons range rest ih =>
      obtain ⟨capacity, members⟩ := @ih (set.insert range) unlimited
      refine ⟨capacity, ?_⟩
      rw [List.foldl_cons, members, RangeSet.mem_insert unlimited]
      simp only [List.mem_cons, exists_eq_or_imp]
      tauto

private theorem foldl_insert_eq {ranges : RangeSet} {first : Range} {rest : List Range}
    (members : ∀ range, range ∈ ranges.iter ↔ range = first ∨ range ∈ rest) :
    rest.foldl RangeSet.insert (RangeSet.default.insert first) =
      { ranges with capacity := none } := by
  have unlimited : (RangeSet.default.insert first).capacity = none := rfl
  refine RangeSet.ext_mem (@mem_foldl_insert rest _ unlimited 0).1 fun value => ?_
  rw [(mem_foldl_insert unlimited).2, RangeSet.mem_insert rfl]
  have stored : value ∈ ({ ranges with capacity := none } : RangeSet) ↔
      ∃ range ∈ ranges.iter, range.start ≤ value ∧ value < range.stop := RangeSet.mem_iff_range
  rw [stored]
  simp only [members, RangeSet.not_mem_default, false_or]
  constructor
  · rintro (inside | ⟨range, member, inside⟩)
    · exact ⟨first, .inl rfl, inside⟩
    · exact ⟨range, .inr member, inside⟩
  · rintro ⟨range, rfl | member, inside⟩
    · exact .inl inside
    · exact .inr ⟨range, member, inside⟩

theorem ack_shape {ranges : RangeSet} (filled : ranges.isEmpty = false) :
    ∃ first rest, ranges.iter.reverse = first :: rest := by
  cases shape : ranges.iter.reverse with
  | nil =>
      have vacant : ranges.set.entries = [] := by
        simpa [RangeSet.iter] using shape
      simp [RangeSet.isEmpty, OrdMap.isEmpty, vacant] at filled
  | cons first rest => exact ⟨first, rest, rfl⟩

private theorem writes_ecn {counts : Option EcnCounts}
    (small : ∀ present, counts = some present → EcnCounts.Small present) :
    Writes (writeEcnCounts counts) (ecnImage counts) () := by
  cases counts with
  | none => exact Writes.pure ()
  | some present =>
      obtain ⟨ect0, ect1, ce⟩ := small present rfl
      exact (writes_varint ect0).bind ((writes_varint ect1).bind (writes_varint ce))

private theorem reads_ecn {counts : EcnCounts} (small : EcnCounts.Small counts) :
    Reads readEcnCounts (ecnImage (some counts)) counts := by
  obtain ⟨ect0, ect1, ce⟩ := small
  exact (reads_varint ect0).bind ((reads_varint ect1).bind ((reads_varint ce).last rfl))

section Ack

variable {ackDelay : Nat} {ackRanges : RangeSet} {ecnCounts : Option EcnCounts}

section

variable (wellFormed : WellFormed (.ack ackDelay ackRanges ecnCounts))

include wellFormed

private theorem writes_ack :
    Writes (writeAckFrame ackDelay ackRanges ecnCounts) (ackImage ackDelay ackRanges ecnCounts)
      () := by
  obtain ⟨delay, filled, small, ecn⟩ := wellFormed
  obtain ⟨first, rest, shape⟩ := ack_shape filled
  obtain ⟨nonempty, descends, members⟩ := iter_reverse_descends shape
  have bound := small first ((members first).mpr (.inl rfl))
  have count := descends.length_le
  unfold writeAckFrame ackImage
  rw [shape]
  refine (writes_varint (by split <;> decide)).bind ?_
  refine (writes_varint (by omega)).bind ((writes_varint delay).bind ?_)
  refine (writes_varint (by omega)).bind ((writes_varint (by omega)).bind ?_)
  exact (writes_ackRanges descends (by omega)).bind (writes_ecn ecn)

private theorem reads_ack :
    Reads readFrame (ackImage ackDelay ackRanges ecnCounts)
      (.ack ackDelay { ackRanges with capacity := none } ecnCounts) := by
  obtain ⟨delay, filled, small, ecn⟩ := wellFormed
  obtain ⟨first, rest, shape⟩ := ack_shape filled
  obtain ⟨nonempty, descends, members⟩ := iter_reverse_descends shape
  have bound := small first ((members first).mpr (.inl rfl))
  have count := descends.length_le
  have start : first.stop - 1 - (first.stop - 1 - first.start) = first.start := by omega
  have stop : first.stop - 1 + 1 = first.stop := by omega
  have ranges := reads_ackRanges descends (by omega) (RangeSet.default.insert first)
  rw [foldl_insert_eq members] at ranges
  unfold ackImage
  rw [shape]
  dsimp only
  refine (reads_varint (by split <;> decide)).bind ?_
  cases ecnCounts with
  | none =>
      refine (reads_varint (by omega)).bind ((reads_varint delay).bind ?_)
      refine (reads_varint (by omega)).bind ((reads_varint (by omega)).bind ?_)
      rw [if_neg (by omega)]
      dsimp only
      rw [start, stop]
      exact ranges.bind (Reads.pure _)
  | some counts =>
      refine (reads_varint (by omega)).bind ((reads_varint delay).bind ?_)
      refine (reads_varint (by omega)).bind ((reads_varint (by omega)).bind ?_)
      rw [if_neg (by omega)]
      dsimp only
      rw [start, stop]
      exact ranges.bind ((reads_ecn (ecn counts rfl)).last rfl)

private theorem length_ack :
    (ackImage ackDelay ackRanges ecnCounts).length = ackWireLen ackDelay ackRanges ecnCounts := by
  obtain ⟨first, rest, shape⟩ := ack_shape wellFormed.2.1
  unfold ackImage ackWireLen
  rw [shape]
  cases ecnCounts with
  | none =>
      simp only [List.length_append, length_varint, length_ackRangesImage, ecnImage]
      simp [encodeVarintLen]
      omega
  | some counts =>
      simp only [List.length_append, length_varint, length_ackRangesImage, ecnImage]
      simp [encodeVarintLen]
      omega

end

end Ack

/-! ## Arrays, connection ids and paddings -/

theorem reads_array {len : Nat} (array : Vector UInt8 len) :
    Reads (readArray len) array.toList array := by
  have taken := reads_bytes array.toList
  rw [Vector.length_toList] at taken
  refine taken.last ?_
  rw [dif_pos array.length_toList]
  rfl

theorem reads_data (data : Bytes) : Reads (readData data.length) data data := by
  intro rest
  have long : ¬ data.length > (data ++ rest).length := by simp
  unfold readData
  rw [StateT.run_bind, StateT.run_get]
  simp only [bind, Except.bind, pure, Except.pure, if_neg long]
  exact reads_bytes data rest

private theorem varint_zero : varint 0 = [0] := rfl

theorem writes_paddings (len : Nat) : Writes (writePaddings len) (List.replicate len 0) () := by
  induction len with
  | zero => exact Writes.pure ()
  | succ len ih =>
      have first : Writes (Encoder.writeVarint 0x00) [0] () := writes_varint (Nat.zero_le _)
      exact first.bind ih

theorem skipPaddings_replicate {suffix : Bytes} (follows : suffix.head? ≠ some 0) (len : Nat) :
    skipPaddings (List.replicate len 0 ++ suffix) = (len, suffix) := by
  induction len with
  | zero =>
      cases suffix with
      | nil => rfl
      | cons byte rest =>
          have nonzero : byte ≠ 0 := by simpa using follows
          simp [skipPaddings, nonzero]
  | succ len ih => simp [List.replicate_succ, skipPaddings, ih]

private theorem run_paddings {suffix : Bytes} (follows : suffix.head? ≠ some 0) {len : Nat}
    (positive : 0 < len) :
    readFrame.run (List.replicate len 0 ++ suffix) = .ok (.paddings len, suffix) := by
  cases len with
  | zero => omega
  | succ len =>
      have kind := reads_varint (Nat.zero_le vintMax) (List.replicate len 0 ++ suffix)
      unfold readFrame
      rw [List.replicate_succ, List.cons_append, StateT.run_bind]
      rw [varint_zero, List.singleton_append] at kind
      rw [kind]
      show readPaddings (List.replicate len 0 ++ suffix) = _
      simp [readPaddings, skipPaddings_replicate follows]

/-! ## All frames -/

/-- Frame types below `2^30` are written without trouble. -/
theorem writes_type {kind : Nat} (small : kind ≤ 1073741823) :
    Writes (Encoder.writeVarint kind) (varint kind) () :=
  writes_varint (small.trans (by decide))

theorem reads_type {kind : Nat} (small : kind ≤ 1073741823) :
    Reads Decoder.readVarint (varint kind) kind :=
  reads_varint (small.trans (by decide))

/-- A frame is written as its image. -/
theorem writes_image {frame : Frame} (wellFormed : frame.WellFormed) :
    Writes frame.writeFrame frame.image () := by
  cases frame with
  | paddings len => exact writes_paddings len
  | ping pmtuProbe => exact writes_type (by decide)
  | ack ackDelay ackRanges ecnCounts => exact writes_ack wellFormed
  | resetStream streamId errorCode finalSize =>
      obtain ⟨id, code, size⟩ := wellFormed
      exact (writes_type (by decide)).bind
        ((writes_varint id).bind ((writes_varint code).bind (writes_varint size)))
  | stopSending streamId errorCode =>
      obtain ⟨id, code⟩ := wellFormed
      exact (writes_type (by decide)).bind ((writes_varint id).bind (writes_varint code))
  | crypto offset length data =>
      obtain ⟨_, short, place⟩ := wellFormed
      have header : Writes (encodeCryptoHeader offset length)
          (varint 0x06 ++ (varint offset ++ varintBytes 2 length)) () :=
        (writes_type (by decide)).bind
          ((writes_varint (by omega)).bind (writes_varintWithLen .two (by omega)))
      have whole : Writes (writeFrame (.crypto offset length data)) _ () :=
        header.bind (writes_bytes data)
      simp only [List.append_assoc] at whole
      exact whole
  | newToken token =>
      exact (writes_type (by decide)).bind ((writes_varint wellFormed).bind (writes_bytes token))
  | stream streamId offset length fin data =>
      obtain ⟨id, _, short, place⟩ := wellFormed
      have header : Writes (encodeStreamHeader streamId offset length fin)
          (varint (if fin then 0x0f else 0x0e) ++
            (varint streamId ++ (varint offset ++ varintBytes 2 length))) () :=
        (writes_type (by split <;> decide)).bind ((writes_varint id).bind
          ((writes_varint (by omega)).bind (writes_varintWithLen .two (by omega))))
      have whole : Writes (writeFrame (.stream streamId offset length fin data)) _ () :=
        header.bind (writes_bytes data)
      simp only [List.append_assoc] at whole
      exact whole
  | maxData max => exact (writes_type (by decide)).bind (writes_varint wellFormed)
  | maxStreamData streamId max =>
      obtain ⟨id, limit⟩ := wellFormed
      exact (writes_type (by decide)).bind ((writes_varint id).bind (writes_varint limit))
  | maxStreams bidi max =>
      exact (writes_type (by split <;> decide)).bind (writes_varint wellFormed)
  | dataBlocked max => exact (writes_type (by decide)).bind (writes_varint wellFormed)
  | streamDataBlocked streamId max =>
      obtain ⟨id, limit⟩ := wellFormed
      exact (writes_type (by decide)).bind ((writes_varint id).bind (writes_varint limit))
  | streamsBlocked bidi max =>
      exact (writes_type (by split <;> decide)).bind (writes_varint wellFormed)
  | newConnectionId seqNum retirePriorTo connId resetToken =>
      obtain ⟨seq, prior⟩ := wellFormed
      refine (writes_type (by decide)).bind ((writes_varint seq).bind ((writes_varint prior).bind ?_))
      rw [List.append_assoc]
      exact (writes_bytes _).bind ((writes_bytes connId.bytes).bind (writes_bytes resetToken.toList))
  | retireConnectionId seqNum => exact (writes_type (by decide)).bind (writes_varint wellFormed)
  | pathChallenge data => exact (writes_type (by decide)).bind (writes_bytes data.toList)
  | pathResponse data => exact (writes_type (by decide)).bind (writes_bytes data.toList)
  | connectionClose errorCode frameType reason =>
      obtain ⟨code, kind, length⟩ := wellFormed
      exact (writes_type (by decide)).bind ((writes_varint code).bind ((writes_varint kind).bind
        ((writes_varint length).bind (writes_bytes reason))))
  | applicationClose errorCode reason =>
      obtain ⟨code, length⟩ := wellFormed
      exact (writes_type (by decide)).bind
        ((writes_varint code).bind ((writes_varint length).bind (writes_bytes reason)))
  | handshakeDone => exact writes_type (by decide)
  | pathAbandon dcidSeqNum errorCode reason =>
      obtain ⟨seq, code, length⟩ := wellFormed
      exact (writes_type (by decide)).bind ((writes_varint seq).bind ((writes_varint code).bind
        ((writes_varint length).bind (writes_bytes reason))))
  | pathStatus dcidSeqNum seqNum status =>
      obtain ⟨dcid, seq, value⟩ := wellFormed
      exact (writes_type (by decide)).bind
        ((writes_varint dcid).bind ((writes_varint seq).bind (writes_varint value)))

/-- The image is read back, as far as the frame is on the wire. -/
theorem reads_image {frame : Frame} (wellFormed : frame.WellFormed)
    (unpadded : ∀ len, frame ≠ .paddings len) : Reads readFrame frame.image frame.onWire := by
  cases frame with
  | paddings len => exact absurd rfl (unpadded len)
  | ping pmtuProbe => exact (reads_type (by decide)).last rfl
  | ack ackDelay ackRanges ecnCounts => exact reads_ack wellFormed
  | resetStream streamId errorCode finalSize =>
      obtain ⟨id, code, size⟩ := wellFormed
      exact (reads_type (by decide)).bind
        ((reads_varint id).bind ((reads_varint code).bind ((reads_varint size).last rfl)))
  | stopSending streamId errorCode =>
      obtain ⟨id, code⟩ := wellFormed
      exact (reads_type (by decide)).bind ((reads_varint id).bind ((reads_varint code).last rfl))
  | crypto offset length data =>
      obtain ⟨rfl, short, place⟩ := wellFormed
      exact (reads_type (by decide)).bind ((reads_varint (by omega)).bind
        ((reads_varintBytes .two (by omega)).bind ((reads_data data).last rfl)))
  | newToken token =>
      exact (reads_type (by decide)).bind ((reads_withVarintLength wellFormed).last rfl)
  | stream streamId offset length fin data =>
      obtain ⟨id, rfl, short, place⟩ := wellFormed
      have fits : ¬ offset + data.length ≥ maxStreamSize := by
        unfold vintMax at place
        unfold maxStreamSize
        omega
      have fields : Reads (parseStreamFrame true true fin)
          (varint streamId ++ (varint offset ++ (varintBytes 2 data.length ++ data)))
          (.stream streamId offset data.length fin data) := by
        refine (reads_varint id).bind ((reads_varint (by omega)).bind
          ((reads_varintBytes .two (by omega)).bind ?_))
        dsimp only
        rw [if_neg fits]
        exact (reads_data data).last rfl
      cases fin with
      | false => exact (reads_type (by decide)).bind fields
      | true => exact (reads_type (by decide)).bind fields
  | maxData max => exact (reads_type (by decide)).bind ((reads_varint wellFormed).last rfl)
  | maxStreamData streamId max =>
      obtain ⟨id, limit⟩ := wellFormed
      exact (reads_type (by decide)).bind ((reads_varint id).bind ((reads_varint limit).last rfl))
  | maxStreams bidi max =>
      cases bidi with
      | false => exact (reads_type (by decide)).bind ((reads_varint wellFormed).last rfl)
      | true => exact (reads_type (by decide)).bind ((reads_varint wellFormed).last rfl)
  | dataBlocked max => exact (reads_type (by decide)).bind ((reads_varint wellFormed).last rfl)
  | streamDataBlocked streamId max =>
      obtain ⟨id, limit⟩ := wellFormed
      exact (reads_type (by decide)).bind ((reads_varint id).bind ((reads_varint limit).last rfl))
  | streamsBlocked bidi max =>
      cases bidi with
      | false => exact (reads_type (by decide)).bind ((reads_varint wellFormed).last rfl)
      | true => exact (reads_type (by decide)).bind ((reads_varint wellFormed).last rfl)
  | newConnectionId seqNum retirePriorTo connId resetToken =>
      obtain ⟨seq, prior⟩ := wellFormed
      have short : connId.bytes.length < 256 := by
        have := connId.short
        unfold maxCidLen at this
        omega
      refine (reads_type (by decide)).bind ((reads_varint seq).bind ((reads_varint prior).bind
        ((reads_withU8Length short).bind ((reads_array resetToken).last ?_))))
      rw [ConnectionId.new_bytes]
      rfl
  | retireConnectionId seqNum =>
      exact (reads_type (by decide)).bind ((reads_varint wellFormed).last rfl)
  | pathChallenge data => exact (reads_type (by decide)).bind ((reads_array data).last rfl)
  | pathResponse data => exact (reads_type (by decide)).bind ((reads_array data).last rfl)
  | connectionClose errorCode frameType reason =>
      obtain ⟨code, kind, length⟩ := wellFormed
      exact (reads_type (by decide)).bind ((reads_varint code).bind
        ((reads_varint kind).bind ((reads_withVarintLength length).last rfl)))
  | applicationClose errorCode reason =>
      obtain ⟨code, length⟩ := wellFormed
      exact (reads_type (by decide)).bind
        ((reads_varint code).bind ((reads_withVarintLength length).last rfl))
  | handshakeDone => exact (reads_type (by decide)).last rfl
  | pathAbandon dcidSeqNum errorCode reason =>
      obtain ⟨seq, code, length⟩ := wellFormed
      exact (reads_type (by decide)).bind ((reads_varint seq).bind
        ((reads_varint code).bind ((reads_withVarintLength length).last rfl)))
  | pathStatus dcidSeqNum seqNum status =>
      obtain ⟨dcid, seq, value⟩ := wellFormed
      exact (reads_type (by decide)).bind
        ((reads_varint dcid).bind ((reads_varint seq).bind ((reads_varint value).last rfl)))

/-- The length that is asked for is that of the image. -/
theorem length_image {frame : Frame} (wellFormed : frame.WellFormed) :
    frame.image.length = frame.wireLen := by
  have short : ∀ kind, kind ≤ 63 → encodeVarintLen kind = 1 := by
    intro kind small
    unfold encodeVarintLen
    rw [if_pos small]
  cases frame with
  | ack ackDelay ackRanges ecnCounts => exact length_ack wellFormed
  | paddings len => simp [image, wireLen]
  | stream streamId offset length fin data =>
      have kind : encodeVarintLen (if fin then 0x0f else 0x0e) = 1 := short _ (by split <;> decide)
      simp only [image, wireLen, List.length_append, length_varint, length_varintBytes, kind]
      omega
  | maxStreams bidi max =>
      have kind : encodeVarintLen (if bidi then 0x12 else 0x13) = 1 := short _ (by split <;> decide)
      simp only [image, wireLen, List.length_append, length_varint, kind]
  | streamsBlocked bidi max =>
      have kind : encodeVarintLen (if bidi then 0x16 else 0x17) = 1 := short _ (by split <;> decide)
      simp only [image, wireLen, List.length_append, length_varint, kind]
  | pathAbandon dcidSeqNum errorCode reason =>
      have kind : encodeVarintLen 0x15228c05 = 4 := rfl
      simp only [image, wireLen, List.length_append, length_varint, kind]
      omega
  | pathStatus dcidSeqNum seqNum status =>
      have kind : encodeVarintLen 0x15228c06 = 4 := rfl
      simp only [image, wireLen, List.length_append, length_varint, kind]
      omega
  | _ =>
      simp (disch := decide) only [image, wireLen, List.length_append, length_varint,
        length_varintBytes, BigEndian.length_encode, Vector.length_toList, short] <;> omega

private theorem validateFrame_onWire (pkt : PacketType) (frame : Frame) :
    validateFrame pkt frame.onWire = validateFrame pkt frame := by
  cases frame <;> cases pkt <;> rfl

theorem run_image {frame : Frame} (wellFormed : frame.WellFormed) {suffix : Bytes}
    (follows : ∀ len, frame = .paddings len → suffix.head? ≠ some 0) :
    readFrame.run (frame.image ++ suffix) = .ok (frame.onWire, suffix) := by
  by_cases padded : ∃ len, frame = .paddings len
  · obtain ⟨len, rfl⟩ := padded
    exact run_paddings (follows len rfl) wellFormed
  · exact reads_image wellFormed (fun len same => padded ⟨len, same⟩) suffix

/-- A frame is written in exactly `wire_len` bytes, and these bytes, whatever follows
them, are read as the frame without what is not transmitted. -/
theorem fromBytes_toBytes {frame : Frame} {pkt : PacketType} {room : Nat} {suffix : Bytes}
    (wellFormed : frame.WellFormed) (allowed : validateFrame pkt frame = true)
    (enough : frame.wireLen ≤ room)
    (follows : ∀ len, frame = .paddings len → suffix.head? ≠ some 0) :
    ∃ bytes, frame.toBytes room = .ok (bytes, frame.wireLen) ∧ bytes.length = frame.wireLen ∧
      fromBytes (bytes ++ suffix) pkt = .ok (frame.onWire, frame.wireLen) := by
  have length := length_image wellFormed
  refine ⟨frame.image, ?_, length, ?_⟩
  · have written := writes_image wellFormed { written := [], room } (by rw [length]; exact enough)
    simp only [toBytes, written, List.nil_append, length]
    rw [Nat.sub_sub_self enough]
  · simp only [fromBytes, run_image wellFormed follows, validateFrame_onWire, allowed, if_true,
      List.length_append, Nat.add_sub_cancel, length]

theorem stream_round_trip :
    ∃ bytes, (Frame.stream 4 0 2 true [1, 2]).toBytes 1200 = .ok (bytes, 7) ∧ bytes.length = 7 ∧
      fromBytes (bytes ++ [0x01]) .oneRtt = .ok (.stream 4 0 2 true [1, 2], 7) :=
  @fromBytes_toBytes (.stream 4 0 2 true [1, 2]) .oneRtt 1200 [0x01]
    ⟨by decide, rfl, by decide, by decide⟩ rfl (by decide) (fun _ same => by cases same)

/-- A PING frame that carries the metadata of a probe comes back without it. -/
theorem probe_metadata_not_transmitted :
    ¬ ∀ (frame : Frame) (pkt : PacketType) (room : Nat) (suffix : Bytes),
      frame.WellFormed → validateFrame pkt frame = true → frame.wireLen ≤ room →
      (∀ len, frame = .paddings len → suffix.head? ≠ some 0) →
      ∃ bytes, frame.toBytes room = .ok (bytes, frame.wireLen) ∧
        fromBytes (bytes ++ suffix) pkt = .ok (frame, frame.wireLen) := by
  intro always
  obtain ⟨bytes, written, decoded⟩ := always (.ping (some (0, 1200))) .oneRtt 1200 [] trivial rfl
    (by decide) (fun _ same => by cases same)
  have image : bytes = [1] := by
    have fixed : (Frame.ping (some (0, 1200))).toBytes 1200 = .ok ([1], 1) := rfl
    rw [fixed] at written
    cases written
    rfl
  have plain : fromBytes [1] .oneRtt = .ok (.ping none, 1) := rfl
  rw [image, List.append_nil, plain] at decoded
  cases decoded

end Frame

end Tquic
