import Tquic.Connection.BufferedFrames

/-! What becomes of the STREAM frames that wait to be sent again: which of their bytes are in the
packet, which go back to the queue, and when a FIN is lost. -/

set_option autoImplicit false

namespace Tquic.Connection

open Lib StreamMap

/-! ## On the wire -/

private theorem lengthField_eq {length : Nat} (short : length ≤ 16383) :
    BigEndian.encode 2 (length % 65536 ||| 0x4000) = varintBytes 2 length := by
  have bits : length ||| 2 ^ 14 * 1 = 2 ^ 14 * 1 + length := by
    rw [Nat.two_pow_add_eq_or_of_lt (by omega), Nat.or_comm]
  rw [Nat.mod_eq_of_lt (by omega)]
  exact congrArg (BigEndian.encode 2) bits

section Wire

variable {streamId offset : Nat} {fin : Bool} {data : Bytes}

theorem streamBytes_decode (id : streamId ≤ vintMax) (place : offset + data.length ≤ vintMax)
    (short : data.length ≤ 16383) (suffix : Bytes) :
    Frame.fromBytes (headerImage streamId offset data.length fin ++ data ++ suffix) .oneRtt =
      .ok (.stream streamId offset data.length fin data,
        (headerImage streamId offset data.length fin ++ data).length) := by
  have image : headerImage streamId offset data.length fin ++ data =
      (Frame.stream streamId offset data.length fin data).image := by
    simp only [headerImage, lengthField_eq short, Frame.image, List.append_assoc]
  have wellFormed : (Frame.stream streamId offset data.length fin data).WellFormed :=
    ⟨id, rfl, short, place⟩
  have read := @Frame.run_image _ wellFormed suffix (fun _ same => by cases same)
  rw [image]
  unfold Frame.fromBytes
  rw [read]
  simp only [Frame.onWire, Frame.validateFrame, if_true, List.length_append, Nat.add_sub_cancel]

theorem run_reads {α β : Type} {reader : Decoder α} {next : α → Decoder β} {image left rest : Bytes}
    {value : α} {result : β} (reads : Reads reader image value)
    (ran : (reader >>= next).run (image ++ left) = .ok (result, rest)) :
    (next value).run left = .ok (result, rest) := by
  obtain ⟨found, after, first, second⟩ := run_bind_ok.mp ran
  rw [reads left] at first
  cases first
  exact second

private theorem readStream {more rest : Bytes} {frame : Frame}
    (read : Frame.readFrame.run (varint (if fin then 0x0f else 0x0e) ++ more) = .ok (frame, rest)) :
    (Frame.parseStreamFrame true true fin).run more = .ok (frame, rest) := by
  have kind : (if fin then 0x0f else 0x0e) ≤ vintMax := by cases fin <;> decide
  have fields := run_reads (reads_varint kind) read
  cases fin <;> exact fields

private theorem streamBytes_short (id : streamId ≤ vintMax) (off : offset ≤ vintMax)
    (decoded : Frame.fromBytes (headerImage streamId offset data.length fin ++ data) .oneRtt =
      .ok (.stream streamId offset data.length fin data,
        (headerImage streamId offset data.length fin ++ data).length)) :
    data.length ≤ 16383 := by
  have width := BigEndian.length_encode 2 (data.length % 65536 ||| 0x4000)
  unfold Frame.fromBytes at decoded
  cases read : Frame.readFrame.run (headerImage streamId offset data.length fin ++ data) with
  | error error =>
    rw [read] at decoded
    cases decoded
  | ok result =>
    obtain ⟨frame, rest⟩ := result
    rw [read] at decoded
    dsimp only at decoded
    split_ifs at decoded
    obtain ⟨rfl, whole⟩ := Prod.mk.inj (Except.ok.inj decoded)
    have nothing : rest.length = 0 := by
      rw [List.length_append, length_headerImage] at whole
      unfold streamHeaderWireLen at whole
      omega
    unfold headerImage at read
    rw [List.append_assoc] at read
    have fields := readStream read
    rw [List.append_assoc, List.append_assoc] at fields
    simp only [Frame.parseStreamFrame, if_true] at fields
    have offsets := run_reads (reads_varint id) fields
    have lengths := run_reads (reads_varint off) offsets
    obtain ⟨len, after, first, last⟩ := run_bind_ok.mp lengths
    have span := (readVarint_span first).2
    rw [List.length_append, width] at span
    split_ifs at last
    · cases last
    · obtain ⟨taken, left, body, returned⟩ := run_bind_ok.mp last
      obtain ⟨same, rfl⟩ := Reader.run_pure_ok.mp returned
      injection same with _ _ len_eq _ data_eq
      obtain ⟨_, _, got, checked⟩ := run_bind_ok.mp body
      cases got
      split_ifs at checked
      · cases checked
      · obtain ⟨size, rfl⟩ := Reader.run_take_ok checked
        rw [List.length_append, size, len_eq] at span
        unfold encodeVarintLen at span
        split_ifs at span <;> omega

end Wire

/-! ## Turns -/

def Queued (content : Nat → Bytes) : Frame → Prop
  | .stream streamId offset length _ data =>
    streamId ≤ vintMax ∧ length = data.length ∧ offset + length ≤ vintMax ∧
      data <+: (content streamId).drop offset
  | _ => True

def Packing.Queued (content : Nat → Bytes) (packing : Packing) : Prop :=
  ∀ frame ∈ packing.buffered.frames, Connection.Queued content frame

def popTurn (packing : Packing) (frame : Frame) (rest : BufferQueue) : Turn :=
  { before := packing
    popped := frame
    back := none
    after := { packing with buffered := rest }
    last := false }

def partTaken (packing : Packing) (rest : BufferQueue) (kind : BufferType) (streamId offset : Nat)
    (fin : Bool) (data : Bytes) (part : Range) (outLen : Nat) : Turn :=
  partTurn streamId offset fin data part outLen kind
    (popTurn packing (.stream streamId offset data.length fin data) rest)

inductive Takes (streams : StreamMap) (outLen : Nat) (packing : Packing) : Turn → Prop where
  /-- Not a STREAM frame, or its stream is gone, or all was acknowledged. -/
  | drop {frame kind rest} (front : packing.buffered.popFront = some (frame, kind, rest))
      (nothing : ∀ streamId offset length fin data stream,
        frame = .stream streamId offset length fin data → streams.get streamId = some stream →
        stream.send.filterAcked ⟨offset, offset + length⟩ = none) :
      Takes streams outLen packing (popTurn packing frame rest)
  | part {streamId offset fin data kind rest stream part}
      (front : packing.buffered.popFront =
        some (.stream streamId offset data.length fin data, kind, rest))
      (opened : streams.get streamId = some stream)
      (unacked : stream.send.filterAcked ⟨offset, offset + data.length⟩ = some part) :
      Takes streams outLen packing
        (partTaken packing rest kind streamId offset fin data part outLen)

/-- Where the part that was not acknowledged lies. -/
structure Unacked (send : SendBuf) (range part : Range) : Prop where
  begins : range.start ≤ part.start
  ordered : part.start ≤ part.stop
  ends : part.stop ≤ range.stop
  filled : range.start < range.stop → part.start < part.stop
  acked : ∀ value, range.start ≤ value → value < part.start → value ∈ send.acked
  missing : ∀ value, part.start ≤ value → value < part.stop → value ∉ send.acked

theorem unacked_of_filter {send : SendBuf} {offset length : Nat} {part : Range}
    (found : send.filterAcked ⟨offset, offset + length⟩ = some part) :
    Unacked send ⟨offset, offset + length⟩ part := by
  by_cases empty : length = 0
  · subst empty
    cases RangeSet.filter_empty found
    refine ⟨?_, ?_, ?_, ?_, ?_, ?_⟩ <;> dsimp only <;> intros <;> omega
  · have nonempty : offset < offset + length := by omega
    have lowest := @RangeSet.filter_lowest send.acked ⟨offset, offset + length⟩ part nonempty found
    have free := lowest.1.1
    obtain ⟨rfl, _⟩ := RangeSet.filter_some found
    exact ⟨free.within.1, free.nonempty.le, free.within.2, fun _ => free.nonempty,
      fun value => RangeSet.newStart_front, free.missing⟩

section Turns

variable {streams : StreamMap} {outLen : Nat} {packing : Packing} {content : Nat → Bytes}

private theorem nextTurn_takes (queued : packing.Queued content) :
    (nextTurn streams outLen packing = none ∧ packing.buffered.frames = []) ∨
      ∃ turn, nextTurn streams outLen packing = some (.ok turn) ∧ Takes streams outLen packing turn := by
  unfold nextTurn
  cases front : packing.buffered.popFront with
  | none => exact .inl ⟨rfl, BufferQueue.popFront_none front⟩
  | some popped =>
    obtain ⟨frame, kind, rest⟩ := popped
    right
    have dropped : (∀ streamId offset length fin data stream,
        frame = .stream streamId offset length fin data → streams.get streamId = some stream →
        stream.send.filterAcked ⟨offset, offset + length⟩ = none) →
          Takes streams outLen packing (popTurn packing frame rest) := .drop front
    cases frame with
    | stream streamId offset length fin data =>
      have member := queued (.stream streamId offset length fin data) (by
        rw [BufferQueue.popFront_frames front]
        exact List.mem_cons_self)
      obtain ⟨id, rfl, place, _⟩ := member
      dsimp only
      cases opened : streams.get streamId with
      | none =>
        refine ⟨_, rfl, dropped ?_⟩
        rintro _ _ _ _ _ stream ⟨⟩ found
        rw [opened] at found
        cases found
      | some stream =>
        dsimp only
        cases filtered : stream.send.filterAcked ⟨offset, offset + data.length⟩ with
        | none =>
          refine ⟨_, rfl, dropped ?_⟩
          rintro _ _ _ _ _ other ⟨⟩ found
          rw [opened] at found
          cases found
          exact filtered
        | some part =>
          have held := unacked_of_filter filtered
          refine ⟨_, congrArg some ?_, .part front opened filtered⟩
          exact writePart_eq id place held.begins held.ordered held.ends _
    | _ => exact ⟨_, rfl, dropped (by rintro _ _ _ _ _ _ ⟨⟩)⟩

theorem Takes.before {turn : Turn} (takes : Takes streams outLen packing turn) :
    turn.before = packing := by
  cases takes with
  | drop => rfl
  | part => rfl

theorem mem_requeue {queue : BufferQueue} {kind : BufferType} {back : Option Frame} {other : Frame} :
    other ∈ (requeue queue kind back).frames ↔ back = some other ∨ other ∈ queue.frames := by
  cases back with
  | none => simp [requeue]
  | some tail => rw [requeue, BufferQueue.mem_pushFront, Option.some.injEq, eq_comm]

theorem Takes.lighter {turn : Turn} (takes : Takes streams outLen packing turn)
    (goesOn : turn.last = false) : turn.after.buffered.weight < packing.buffered.weight := by
  cases takes with
  | @drop frame kind rest front _ =>
    have positive := frameWeight_pos frame
    rw [weight_popFront front]
    exact Nat.lt_add_of_pos_left positive
  | @part streamId offset fin data kind rest stream part front opened unacked =>
    have begins := (unacked_of_filter unacked).begins
    have sent := of_decide_eq_false goesOn
    rw [weight_popFront front]
    change (requeue rest kind (tailFrame streamId offset fin data _)).weight < _
    unfold tailFrame
    dsimp only at begins sent ⊢
    split_ifs with shorter
    · rw [requeue, weight_pushFront]
      simp only [frameWeight]
      omega
    · exact Nat.lt_add_of_pos_left (frameWeight_pos _)

theorem Takes.unique {turn other : Turn} (takes : Takes streams outLen packing turn)
    (again : Takes streams outLen packing other) : turn = other := by
  cases takes with
  | drop front nothing =>
    cases again with
    | drop same _ =>
      cases front.symm.trans same
      rfl
    | part same opened unacked =>
      cases front.symm.trans same
      cases (nothing _ _ _ _ _ _ rfl opened).symm.trans unacked
  | part front opened unacked =>
    cases again with
    | drop same nothing =>
      cases front.symm.trans same
      cases (nothing _ _ _ _ _ _ rfl opened).symm.trans unacked
    | part same open_ left =>
      have eq := Option.some.inj (front.symm.trans same)
      simp only [Prod.mk.injEq, Frame.stream.injEq] at eq
      obtain ⟨⟨rfl, rfl, _, rfl, rfl⟩, rfl, rfl⟩ := eq
      cases opened.symm.trans open_
      cases unacked.symm.trans left
      rfl

/-- What the tail of a frame keeps of the frame, the queue keeps in a turn. -/
theorem Takes.keeps {turn : Turn} {good : Frame → Prop} (takes : Takes streams outLen packing turn)
    (tails : ∀ streamId offset fin data next, offset ≤ next → next < offset + data.length →
      good (.stream streamId offset data.length fin data) →
      good (.stream streamId next (offset + data.length - next) fin (data.drop (next - offset))))
    (waiting : ∀ frame ∈ packing.buffered.frames, good frame) :
    ∀ frame ∈ turn.after.buffered.frames, good frame := by
  cases takes with
  | @drop frame kind rest front _ =>
    intro other member
    exact waiting other (BufferQueue.popFront_frames front ▸ List.mem_cons_of_mem _ member)
  | @part streamId offset fin data kind rest stream part front opened unacked =>
    have begins : offset ≤ part.start := (unacked_of_filter unacked).begins
    have whole := BufferQueue.popFront_frames front
    intro other member
    rcases mem_requeue.mp member with tail | later
    · change tailFrame streamId offset fin data (part.start +
        partLen (outLen - packing.st.written) streamId part) = some other at tail
      unfold tailFrame at tail
      split_ifs at tail with shorter
      cases tail
      exact tails _ _ _ _ _ (begins.trans (Nat.le_add_right _ _)) shorter
        (waiting _ (whole ▸ List.mem_cons_self))
    · exact waiting other (whole ▸ List.mem_cons_of_mem _ later)

theorem Takes.queued {turn : Turn} (takes : Takes streams outLen packing turn)
    (queued : packing.Queued content) : turn.after.Queued content := by
  refine takes.keeps ?_ queued
  rintro streamId offset fin data next begins shorter ⟨id, _, place, bytes⟩
  have later := List.IsPrefix.drop bytes (next - offset)
  rw [List.drop_drop, Nat.add_sub_cancel' begins] at later
  exact ⟨id, List.length_drop.symm ▸ by omega, by omega, later⟩

section Taken

variable {rest : BufferQueue} {kind : BufferType} {streamId offset : Nat} {fin : Bool} {data : Bytes}
  {part : Range}

theorem partTaken_full (full : outLen - packing.st.written ≤ maxStreamOverhead) :
    (partTaken packing rest kind streamId offset fin data part outLen).after.st = packing.st ∧
      (partTaken packing rest kind streamId offset fin data part outLen).wrote = none ∧
      (partTaken packing rest kind streamId offset fin data part outLen).back =
        tailFrame streamId offset fin data part.start := by
  have same : (partTaken packing rest kind streamId offset fin data part outLen).after.st =
      packing.st := if_pos full
  have nothing : partLen (outLen - packing.st.written) streamId part = 0 := if_pos full
  refine ⟨same, ?_, ?_⟩
  · rw [Turn.wrote, same]
    exact List.getElem?_eq_none (le_refl _)
  · change tailFrame streamId offset fin data (part.start +
      partLen (outLen - packing.st.written) streamId part) = _
    rw [nothing, Nat.add_zero]

/-- With room for the header, the part is written as far as it fits. -/
theorem partTaken_sends (roomy : ¬ outLen - packing.st.written ≤ maxStreamOverhead) {dataLen : Nat}
    (length : partLen (outLen - packing.st.written) streamId part = dataLen) :
    (partTaken packing rest kind streamId offset fin data part outLen).after.st =
        withStream packing.st kind (partFrame streamId offset fin data part dataLen)
          (partBytes streamId offset fin data part dataLen) ∧
      (partTaken packing rest kind streamId offset fin data part outLen).wrote =
        some (partFrame streamId offset fin data part dataLen) ∧
      (partTaken packing rest kind streamId offset fin data part outLen).bytes =
        partBytes streamId offset fin data part dataLen ∧
      (partTaken packing rest kind streamId offset fin data part outLen).back =
        tailFrame streamId offset fin data (part.start + dataLen) := by
  subst length
  have added : (partTaken packing rest kind streamId offset fin data part outLen).after.st =
      withStream packing.st kind
        (partFrame streamId offset fin data part (partLen (outLen - packing.st.written) streamId part))
        (partBytes streamId offset fin data part
          (partLen (outLen - packing.st.written) streamId part)) := if_neg roomy
  refine ⟨added, ?_, ?_, rfl⟩
  · rw [Turn.wrote, added]
    exact List.getElem?_concat_length
  · rw [Turn.bytes, added]
    exact List.drop_left

end Taken

theorem Takes.frames {turn : Turn} (takes : Takes streams outLen packing turn) :
    turn.after.st.frames = packing.st.frames ++ turn.wrote.toList := by
  cases takes with
  | drop => simp [popTurn, Turn.wrote]
  | @part streamId offset fin data kind rest stream part front opened unacked =>
    by_cases full : outLen - packing.st.written ≤ maxStreamOverhead
    · obtain ⟨same, nothing, _⟩ := @partTaken_full outLen packing rest kind streamId offset fin data
        part full
      rw [same, nothing]
      exact (List.append_nil _).symm
    · obtain ⟨added, sent, _⟩ := @partTaken_sends outLen packing rest kind streamId offset fin data
        part full _ rfl
      rw [added, sent]
      rfl

end Turns

/-! ## What becomes of a frame -/

def Acked (streams : StreamMap) (streamId position : Nat) : Prop :=
  ∃ stream, streams.get streamId = some stream ∧ position ∈ stream.send.acked

/-- The frame carries the byte. -/
def Covers (frame : Option Frame) (streamId position : Nat) : Prop :=
  ∃ offset length fin data, frame = some (.stream streamId offset length fin data) ∧
    offset ≤ position ∧ position < offset + length

/-- The frame carries the FIN that ends the stream there. -/
def Finishes (frame : Option Frame) (streamId stop : Nat) : Prop :=
  ∃ offset length data, frame = some (.stream streamId offset length true data) ∧
    offset + length = stop

/-- All data and the FIN behind it were acknowledged. What acknowledged the FIN is not stored. -/
def Settled (streams : StreamMap) (finAcked : Nat → Prop) (streamId stop : Nat) : Prop :=
  (∀ position < stop, Acked streams streamId position) ∧ finAcked streamId

/-- What is written are bytes of the stream that were not acknowledged, and the peer reads the
frame from them. -/
def Turn.Exact (streams : StreamMap) (content : Nat → Bytes) (turn : Turn) : Prop :=
  ∀ frame, turn.wrote = some frame → ∃ streamId offset fin data,
    frame = .stream streamId offset data.length fin data ∧
      data <+: (content streamId).drop offset ∧
      (∀ position, offset ≤ position → position < offset + data.length →
        ¬ Acked streams streamId position) ∧
      ∀ suffix, Frame.fromBytes (turn.bytes ++ suffix) .oneRtt = .ok (frame, turn.bytes.length)

/-- Nothing of the frame that was taken out is lost while its stream is open. -/
structure Turn.Complete (streams : StreamMap) (finAcked : Nat → Prop) (turn : Turn) : Prop where
  kept : ∀ frame, turn.back = some frame → frame ∈ turn.after.buffered.frames
  data : ∀ streamId offset length fin data stream,
    turn.popped = .stream streamId offset length fin data → streams.get streamId = some stream →
    ∀ position, offset ≤ position → position < offset + length →
      Acked streams streamId position ∨ Covers turn.wrote streamId position ∨
        Covers turn.back streamId position
  fin : ∀ streamId offset length data stream,
    turn.popped = .stream streamId offset length true data → streams.get streamId = some stream →
    Finishes turn.wrote streamId (offset + length) ∨
      Finishes turn.back streamId (offset + length) ∨
      Settled streams finAcked streamId (offset + length)

/-- Nothing is lost of the frame in front: if it carries a FIN, then some of its bytes were not
acknowledged or it is empty and there is room for it; and the data that goes into the packet is
not too long for two bytes of length. -/
structure Clear (streams : StreamMap) (finAcked : Nat → Prop) (outLen : Nat) (packing : Packing) :
    Prop where
  fin : ∀ streamId offset length data kind rest stream,
    packing.buffered.popFront = some (.stream streamId offset length true data, kind, rest) →
    streams.get streamId = some stream →
    stream.send.filterAcked ⟨offset, offset + length⟩ = none ∨
      length = 0 ∧ outLen - packing.st.written ≤ maxStreamOverhead →
    Settled streams finAcked streamId (offset + length)
  short : ∀ streamId offset length fin data kind rest stream part,
    packing.buffered.popFront = some (.stream streamId offset length fin data, kind, rest) →
    streams.get streamId = some stream →
    stream.send.filterAcked ⟨offset, offset + length⟩ = some part →
    partLen (outLen - packing.st.written) streamId part ≤ 16383

section Fate

variable {streams : StreamMap} {outLen : Nat} {packing : Packing} {content : Nat → Bytes}
  {finAcked : Nat → Prop}

theorem acked_iff {streamId position : Nat} {stream : Stream}
    (opened : streams.get streamId = some stream) :
    Acked streams streamId position ↔ position ∈ stream.send.acked := by
  constructor
  · rintro ⟨other, found, member⟩
    rw [opened] at found
    cases found
    exact member
  · intro member
    exact ⟨stream, opened, member⟩

theorem not_finishes_none {streamId stop : Nat} : ¬ Finishes none streamId stop := by
  rintro ⟨_, _, _, ⟨⟩, _⟩

private theorem drop_iff {frame : Frame} {kind : BufferType} {rest : BufferQueue}
    (front : packing.buffered.popFront = some (frame, kind, rest))
    (nothing : ∀ streamId offset length fin data stream,
      frame = .stream streamId offset length fin data → streams.get streamId = some stream →
      stream.send.filterAcked ⟨offset, offset + length⟩ = none) :
    ((popTurn packing frame rest).Exact streams content ∧
        (popTurn packing frame rest).Complete streams finAcked) ↔
      Clear streams finAcked outLen packing := by
  have silent : (popTurn packing frame rest).wrote = none := List.getElem?_eq_none (le_refl _)
  constructor
  · rintro ⟨_, complete⟩
    constructor
    · intro streamId offset length data _ _ stream popped opened _
      rw [front] at popped
      cases popped
      rcases complete.fin streamId offset length data stream rfl opened with wrote | back | settled
      · rw [silent] at wrote
        exact absurd wrote not_finishes_none
      · exact absurd back not_finishes_none
      · exact settled
    · intro streamId offset length fin data _ _ stream part popped opened found
      rw [front] at popped
      cases popped
      rw [nothing streamId offset length fin data stream rfl opened] at found
      cases found
  · intro clear
    refine ⟨fun written wrote => ?_, ?_, ?_, ?_⟩
    · rw [silent] at wrote
      cases wrote
    · rintro _ ⟨⟩
    · intro streamId offset length fin data stream popped opened position lower upper
      have all := nothing streamId offset length fin data stream popped opened
      exact .inl ((acked_iff opened).mpr (RangeSet.filter_none all lower upper))
    · intro streamId offset length data stream popped opened
      have all := nothing streamId offset length true data stream popped opened
      cases popped
      exact .inr (.inr (clear.fin streamId offset length data kind rest stream front opened (.inl all)))

section Part

variable {rest : BufferQueue} {kind : BufferType} {streamId offset : Nat} {fin : Bool} {data : Bytes}
  {part : Range} {stream : Stream}

theorem tail_covers {next position : Nat} (lower : next ≤ position)
    (upper : position < offset + data.length) :
    Covers (tailFrame streamId offset fin data next) streamId position := by
  unfold tailFrame
  rw [if_pos (lower.trans_lt upper)]
  exact ⟨_, _, _, _, rfl, lower, by omega⟩

theorem tail_finishes {next : Nat} (shorter : next < offset + data.length) :
    Finishes (tailFrame streamId offset true data next) streamId (offset + data.length) := by
  unfold tailFrame
  rw [if_pos shorter]
  exact ⟨_, _, _, rfl, by omega⟩

theorem partTaken_kept (frame : Frame)
    (back : (partTaken packing rest kind streamId offset fin data part outLen).back = some frame) :
    frame ∈ (partTaken packing rest kind streamId offset fin data part outLen).after.buffered.frames :=
  mem_requeue.mpr (.inl back)

/-- What is asked of a frame in front that was not acknowledged as a whole. -/
theorem clear_part_iff (front : packing.buffered.popFront =
      some (.stream streamId offset data.length fin data, kind, rest))
    (opened : streams.get streamId = some stream)
    (unacked : stream.send.filterAcked ⟨offset, offset + data.length⟩ = some part) :
    Clear streams finAcked outLen packing ↔
      partLen (outLen - packing.st.written) streamId part ≤ 16383 ∧
        (fin = true → data.length = 0 → outLen - packing.st.written ≤ maxStreamOverhead →
          Settled streams finAcked streamId (offset + data.length)) := by
  constructor
  · intro clear
    refine ⟨clear.short _ _ _ _ _ _ _ _ _ front opened unacked, ?_⟩
    rintro rfl empty full
    exact clear.fin _ _ _ _ _ _ _ front opened (.inr ⟨empty, full⟩)
  · rintro ⟨short, settled⟩
    constructor
    · intro _ _ _ _ _ _ other popped found lost
      rw [front] at popped
      cases popped
      rw [opened] at found
      cases found
      rcases lost with none | ⟨empty, full⟩
      · rw [unacked] at none
        cases none
      · exact settled rfl empty full
    · intro _ _ _ _ _ _ _ other found popped again filtered
      rw [front] at popped
      cases popped
      rw [opened] at again
      cases again
      rw [unacked] at filtered
      cases filtered
      exact short

private theorem full_iff (full : outLen - packing.st.written ≤ maxStreamOverhead)
    (front : packing.buffered.popFront =
      some (.stream streamId offset data.length fin data, kind, rest))
    (opened : streams.get streamId = some stream)
    (unacked : stream.send.filterAcked ⟨offset, offset + data.length⟩ = some part) :
    ((partTaken packing rest kind streamId offset fin data part outLen).Exact streams content ∧
        (partTaken packing rest kind streamId offset fin data part outLen).Complete streams
          finAcked) ↔
      Clear streams finAcked outLen packing := by
  have held := unacked_of_filter unacked
  obtain ⟨_, silent, back⟩ := @partTaken_full outLen packing rest kind streamId offset fin data part
    full
  have nothing : partLen (outLen - packing.st.written) streamId part = 0 := if_pos full
  rw [clear_part_iff front opened unacked, nothing]
  constructor
  · rintro ⟨_, complete⟩
    refine ⟨Nat.zero_le _, ?_⟩
    rintro rfl empty _
    rcases complete.fin _ _ _ _ _ rfl opened with wrote | again | settled
    · rw [silent] at wrote
      exact absurd wrote not_finishes_none
    · have begins := held.begins
      dsimp only at begins
      rw [back, tailFrame, if_neg (by omega)] at again
      exact absurd again not_finishes_none
    · exact settled
  · rintro ⟨_, settled⟩
    refine ⟨fun written wrote => ?_, partTaken_kept, ?_, ?_⟩
    · rw [silent] at wrote
      cases wrote
    · rintro _ _ _ _ _ other ⟨⟩ _ position lower upper
      rcases Nat.lt_or_ge position part.start with early | late
      · exact .inl ((acked_iff opened).mpr (held.acked position lower early))
      · rw [back]
        exact .inr (.inr (tail_covers late upper))
    · rintro _ _ _ _ other ⟨⟩ _
      by_cases empty : data.length = 0
      · exact .inr (.inr (settled rfl empty full))
      · have filled := held.filled (by dsimp only; omega)
        have ends := held.ends
        dsimp only at ends
        rw [back]
        exact .inr (.inl (tail_finishes (by omega)))

theorem partTaken_exact_iff (id : streamId ≤ vintMax) (place : offset + data.length ≤ vintMax)
    (bytes : data <+: (content streamId).drop offset)
    (roomy : ¬ outLen - packing.st.written ≤ maxStreamOverhead)
    (opened : streams.get streamId = some stream)
    (held : Unacked stream.send ⟨offset, offset + data.length⟩ part) :
    (partTaken packing rest kind streamId offset fin data part outLen).Exact streams content ↔
      partLen (outLen - packing.st.written) streamId part ≤ 16383 := by
  have inside := partLen_le (outLen - packing.st.written) streamId part
  obtain ⟨_, wrote, written, _⟩ := @partTaken_sends outLen packing rest kind streamId offset fin data
    part roomy _ rfl
  obtain ⟨begins, ordered, ends, _, _, missing⟩ := held
  dsimp only at begins ends
  generalize partLen (outLen - packing.st.written) streamId part = dataLen at *
  have length : ((data.drop (part.start - offset)).take dataLen).length = dataLen := by
    rw [List.length_take, List.length_drop]
    omega
  unfold partBytes at written
  unfold partFrame at wrote
  generalize (fin && decide (part.stop = offset + data.length) &&
    decide (dataLen = part.stop - part.start)) = last at wrote written
  constructor
  · intro exact
    obtain ⟨_, _, _, _, same, _, _, decoded⟩ := exact _ wrote
    have whole := decoded []
    rw [written, List.append_nil] at whole
    have short := @streamBytes_short streamId part.start last
      ((data.drop (part.start - offset)).take dataLen) id (by omega)
    rw [length] at short
    exact short whole
  · intro short frame sent
    rw [wrote] at sent
    cases sent
    refine ⟨streamId, part.start, last, (data.drop (part.start - offset)).take dataLen, ?_, ?_, ?_, ?_⟩
    · rw [length]
    · have later := List.IsPrefix.drop bytes (part.start - offset)
      rw [List.drop_drop] at later
      have front := (List.take_prefix dataLen (data.drop (part.start - offset))).trans later
      convert front using 2
      omega
    · intro position lower upper acked
      rw [length] at upper
      exact missing position lower (by omega) ((acked_iff opened).mp acked)
    · intro suffix
      have decoded := @streamBytes_decode streamId part.start last
        ((data.drop (part.start - offset)).take dataLen) id (by omega) (by omega) suffix
      rw [length] at decoded
      rw [written]
      exact decoded

theorem sends_iff (queued : packing.Queued content)
    (roomy : ¬ outLen - packing.st.written ≤ maxStreamOverhead) (front : packing.buffered.popFront =
      some (.stream streamId offset data.length fin data, kind, rest))
    (opened : streams.get streamId = some stream)
    (unacked : stream.send.filterAcked ⟨offset, offset + data.length⟩ = some part) :
    ((partTaken packing rest kind streamId offset fin data part outLen).Exact streams content ∧
        (partTaken packing rest kind streamId offset fin data part outLen).Complete streams
          finAcked) ↔
      Clear streams finAcked outLen packing := by
  have held := unacked_of_filter unacked
  obtain ⟨id, _, place, bytes⟩ := queued _ (BufferQueue.popFront_frames front ▸ List.mem_cons_self)
  have exact := @partTaken_exact_iff streams outLen packing content rest kind streamId offset fin data
    part stream id place bytes roomy opened held
  have inside := partLen_le (outLen - packing.st.written) streamId part
  obtain ⟨_, wrote, _, back⟩ := @partTaken_sends outLen packing rest kind streamId offset fin data
    part roomy _ rfl
  obtain ⟨begins, ordered, ends, _, acked, _⟩ := held
  dsimp only at begins ends acked
  rw [exact, clear_part_iff front opened unacked]
  constructor
  · rintro ⟨short, _⟩
    exact ⟨short, fun _ _ full => absurd full roomy⟩
  · rintro ⟨short, _⟩
    refine ⟨short, partTaken_kept, ?_, ?_⟩
    · rintro _ _ _ _ _ other ⟨⟩ _ position lower upper
      rw [wrote, back]
      rcases Nat.lt_or_ge position part.start with early | late
      · exact .inl ((acked_iff opened).mpr (acked position lower early))
      · rcases Nat.lt_or_ge position
          (part.start + partLen (outLen - packing.st.written) streamId part) with sent | left
        · exact .inr (.inl ⟨_, _, _, _, rfl, late, sent⟩)
        · exact .inr (.inr (tail_covers left upper))
    · rintro _ _ _ _ other ⟨⟩ _
      rw [wrote, back]
      by_cases shorter : part.start + partLen (outLen - packing.st.written) streamId part <
          offset + data.length
      · exact .inr (.inl (tail_finishes shorter))
      · have last : (true && decide (part.stop = offset + data.length) &&
            decide (partLen (outLen - packing.st.written) streamId part = part.stop - part.start)) =
              true := by
          rw [decide_eq_true (by omega), decide_eq_true (by omega)]
          rfl
        rw [partFrame, last]
        exact .inl ⟨_, _, _, rfl, by omega⟩

end Part

private theorem Takes.right_iff {turn : Turn} (takes : Takes streams outLen packing turn)
    (queued : packing.Queued content) :
    (turn.Exact streams content ∧ turn.Complete streams finAcked) ↔
      Clear streams finAcked outLen packing := by
  cases takes with
  | drop front nothing => exact drop_iff front nothing
  | part front opened unacked =>
    by_cases full : outLen - packing.st.written ≤ maxStreamOverhead
    · exact full_iff full front opened unacked
    · exact sends_iff queued full front opened unacked

end Fate

/-! ## Where the frames come from -/

def PathBuffer.Queued (content : Nat → Bytes) (path : PathBuffer) : Prop :=
  ∀ queue, path.buffered = some queue → ∀ frame ∈ queue.frames, Connection.Queued content frame

section Injection

variable {content : Nat → Bytes} {frames : List Frame}

theorem injected_queued {queue : BufferQueue} (carried : ∀ frame ∈ frames, Queued content frame)
    (queued : ∀ frame ∈ queue.frames, Queued content frame) :
    ∀ frame ∈ (frames.foldl injectFrame queue).frames, Queued content frame := by
  induction frames generalizing queue with
  | nil => exact queued
  | cons first frames ih =>
    refine ih (fun frame member => carried frame (List.mem_cons_of_mem _ member)) ?_
    have here := carried first List.mem_cons_self
    intro frame member
    unfold injectFrame at member
    split at member
    · rcases (BufferQueue.mem_pushBack .high).mp member with rfl | before
      · exact here
      · exact queued frame before
    · exact queued frame member

private theorem onSent_queued {bufferFlags : BufferFlags} {pathId : Nat} {paths : List PathBuffer}
    (carried : ∀ frame ∈ frames, Queued content frame)
    (queued : ∀ path ∈ paths, path.Queued content) :
    ∀ path ∈ onSent frames bufferFlags pathId paths, path.Queued content := by
  have injected : ∀ path ∈ injectFrames frames pathId paths, path.Queued content := by
    induction paths with
    | nil => exact queued
    | cons first rest ih =>
      have later := ih fun path member => queued path (List.mem_cons_of_mem _ member)
      have here := queued first List.mem_cons_self
      unfold injectFrames
      split_ifs
      · exact List.forall_mem_cons.mpr ⟨here, later⟩
      · cases buffered : first.buffered with
        | none => exact queued
        | some queue =>
          refine List.forall_mem_cons.mpr ⟨?_, later⟩
          rintro _ ⟨⟩
          exact injected_queued carried (here queue buffered)
  unfold onSent
  split_ifs
  · exact queued
  · exact injected

/-- What a path waits to send once another one has sent these two frames. -/
def queueOf (first second : Frame) : Packing :=
  { buffered := [first, second].foldl injectFrame .default, st := {} }

theorem queueOf_queued {first second : Frame} (former : Queued content first)
    (latter : Queued content second) : (queueOf first second).Queued content := by
  have carried : ∀ frame ∈ [first, second], Queued content frame :=
    List.forall_mem_cons.mpr ⟨former, List.forall_mem_singleton.mpr latter⟩
  have idle : ∀ path ∈ [PathBuffer.mk 1 true (some .default)], path.Queued content := by
    rintro path listed queue filled frame member
    cases List.mem_singleton.mp listed
    cases filled
    exact absurd member List.not_mem_nil
  exact @onSent_queued _ _ {} 0 _ carried idle _ (List.mem_singleton_self _) _ rfl

end Injection

/-! ## A call -/

section Call

variable (streams : StreamMap) (content : Nat → Bytes) (finAcked : Nat → Prop)
  (enableMultipath isClosing active : Bool) (pktType : PacketType) (outLen : Nat) (packing : Packing)

/-- The call returns, and all its turns are right. -/
def Reinjects : Prop :=
  ∃ turns after, tryWriteBufferedFrames enableMultipath isClosing active pktType streams outLen
      packing = some (.ok (turns, after)) ∧
    after.st.frames = packing.st.frames ++ turns.flatMap (·.wrote.toList) ∧
    ∀ turn ∈ turns, turn.Exact streams content ∧ turn.Complete streams finAcked

/-- Nothing is lost of the frame in front, nor, if the loop goes on, of what it leaves in the queue
with the room that is left then, for a number of turns. -/
def Lossless (streams : StreamMap) (finAcked : Nat → Prop) (outLen : Nat) : Nat → Packing → Prop
  | 0, _ => True
  | turns + 1, packing =>
    Clear streams finAcked outLen packing ∧
      ∀ turn, Takes streams outLen packing turn → turn.last = false →
        Lossless streams finAcked outLen turns turn.after

/-- If the loop is entered at all. Every turn but the last makes the queue lighter. -/
def LosesNothing : Prop :=
  enableMultipath = true → pktType = .oneRtt → isClosing = false → active = true →
    maxStreamOverhead < outLen - packing.st.written →
      Lossless streams finAcked outLen (packing.buffered.weight + 1) packing

end Call

section Calls

variable {streams : StreamMap} {content : Nat → Bytes} {finAcked : Nat → Prop}
  {enableMultipath isClosing active : Bool} {pktType : PacketType} {outLen : Nat} {packing : Packing}

/-- The turns of a call, each with the queue before it. -/
structure Turned (streams : StreamMap) (content : Nat → Bytes) (outLen : Nat) (packing : Packing)
    (turns : List Turn) (after : Packing) : Prop where
  takes : ∀ turn ∈ turns, Takes streams outLen turn.before turn ∧ turn.before.Queued content
  frames : after.st.frames = packing.st.frames ++ turns.flatMap (·.wrote.toList)

theorem Turned.none : Turned streams content outLen packing [] packing :=
  ⟨fun _ member => absurd member List.not_mem_nil, (List.append_nil _).symm⟩

theorem Takes.nonempty {turn : Turn} (takes : Takes streams outLen packing turn) :
    packing.buffered.frames ≠ [] := by
  cases takes with
  | drop front | part front =>
    rw [BufferQueue.popFront_frames front]
    exact List.cons_ne_nil _ _

theorem lossless_of_empty {fuel : Nat} (empty : packing.buffered.frames = []) :
    Lossless streams finAcked outLen fuel packing := by
  have no_front : ∀ front, packing.buffered.popFront ≠ some front := by
    rintro ⟨frame, kind, rest⟩ front
    exact List.cons_ne_nil _ _ ((BufferQueue.popFront_frames front).symm.trans empty)
  cases fuel with
  | zero => trivial
  | succ fuel =>
    exact ⟨⟨fun _ _ _ _ _ _ _ front => absurd front (no_front _),
      fun _ _ _ _ _ _ _ _ _ front => absurd front (no_front _)⟩,
      fun _ takes => absurd empty takes.nonempty⟩

private theorem writeTurns_ends {fuel : Nat} (queued : packing.Queued content)
    (enough : packing.buffered.weight < fuel) :
    ∃ turns after, writeTurns streams outLen fuel packing = some (.ok (turns, after)) ∧
      Turned streams content outLen packing turns after ∧
      ((∀ turn ∈ turns, Clear streams finAcked outLen turn.before) ↔
        Lossless streams finAcked outLen fuel packing) := by
  induction fuel generalizing packing with
  | zero => exact absurd enough (Nat.not_lt_zero _)
  | succ fuel ih =>
    unfold writeTurns
    rcases @nextTurn_takes streams outLen packing content queued with
      ⟨stops, empty⟩ | ⟨turn, moves, takes⟩
    · rw [stops]
      exact ⟨[], packing, rfl, .none, fun _ => lossless_of_empty empty,
        fun _ _ member => absurd member List.not_mem_nil⟩
    · have here : Takes streams outLen turn.before turn ∧ turn.before.Queued content := by
        rw [takes.before]
        exact ⟨takes, queued⟩
      rw [moves]
      dsimp only
      cases last : turn.last with
      | true =>
        refine ⟨[turn], turn.after, rfl, ⟨?_, ?_⟩, ?_⟩
        · exact List.forall_mem_singleton.mpr here
        · rw [takes.frames, List.flatMap_singleton]
        · rw [List.forall_mem_singleton, takes.before, Lossless]
          refine (and_iff_left fun other again more => ?_).symm
          rw [takes.unique again, more] at last
          cases last
      | false =>
        have lighter := takes.lighter last
        obtain ⟨turns, after, ended, turned, rest⟩ := ih (takes.queued queued) (by omega)
        refine ⟨turn :: turns, after, ?_, ⟨?_, ?_⟩, ?_⟩
        · rw [ended]
          rfl
        · exact List.forall_mem_cons.mpr ⟨here, turned.takes⟩
        · rw [turned.frames, takes.frames, List.append_assoc, List.flatMap_cons]
        · rw [List.forall_mem_cons, takes.before, rest, Lossless]
          refine and_congr_right fun _ => ⟨fun later other again _ => ?_, fun later => ?_⟩
          · rw [← takes.unique again]
            exact later
          · exact later turn takes last

private theorem tryWriteBufferedFrames_ends (queued : packing.Queued content) :
    ∃ turns after, tryWriteBufferedFrames enableMultipath isClosing active pktType streams outLen
        packing = some (.ok (turns, after)) ∧
      Turned streams content outLen packing turns after ∧
      ((∀ turn ∈ turns, Clear streams finAcked outLen turn.before) ↔
        LosesNothing streams finAcked enableMultipath isClosing active pktType outLen packing) := by
  obtain ⟨turns, after, ran, turned, clear⟩ := @writeTurns_ends streams content finAcked outLen
    packing (packing.buffered.weight + 1) queued (Nat.lt_succ_self _)
  have idle (holds : LosesNothing streams finAcked enableMultipath isClosing active pktType outLen
      packing) : (∀ turn ∈ ([] : List Turn), Clear streams finAcked outLen turn.before) ↔
        LosesNothing streams finAcked enableMultipath isClosing active pktType outLen packing :=
    iff_of_true (fun _ member => absurd member List.not_mem_nil) holds
  unfold tryWriteBufferedFrames
  split_ifs with single barred empty
  · exact ⟨[], packing, rfl, .none, idle fun multipath => by simp [multipath] at single⟩
  · refine ⟨[], packing, rfl, .none, idle fun _ kind stays works room => ?_⟩
    simp [kind, stays, works, Nat.not_le.mpr room] at barred
  · exact ⟨[], packing, rfl, .none,
      idle fun _ _ _ _ _ => lossless_of_empty (BufferQueue.frames_of_isEmpty empty)⟩
  · simp only [Bool.or_eq_true, decide_eq_true_eq, Bool.not_eq_true', not_or, ne_eq, not_not,
      Bool.not_eq_true, Bool.not_eq_false, not_le] at single barred
    obtain ⟨⟨⟨kind, stays⟩, room⟩, works⟩ := barred
    refine ⟨turns, after, ran, turned, clear.trans ⟨fun held _ _ _ _ _ => held, fun held => ?_⟩⟩
    exact held single kind stays works room

/-- A STREAM frame without FIN whose length fits into two bytes. -/
def Plain : Frame → Prop
  | .stream _ _ length fin _ => length ≤ 16383 ∧ fin = false
  | _ => True

theorem Takes.plain {turn : Turn} (takes : Takes streams outLen packing turn)
    (plain : ∀ frame ∈ packing.buffered.frames, Plain frame) :
    ∀ frame ∈ turn.after.buffered.frames, Plain frame := by
  refine takes.keeps ?_ plain
  rintro streamId offset fin data next begins _ ⟨short, noFin⟩
  exact ⟨by omega, noFin⟩

private theorem clear_of_plain (plain : ∀ frame ∈ packing.buffered.frames, Plain frame) :
    Clear streams finAcked outLen packing := by
  constructor
  · intro streamId offset length data kind rest stream front
    have found : length ≤ 16383 ∧ true = false :=
      plain (.stream streamId offset length true data)
        (BufferQueue.popFront_frames front ▸ List.mem_cons_self)
    cases found.2
  · intro streamId offset length fin data kind rest stream part front opened unacked
    have found : length ≤ 16383 ∧ fin = false :=
      plain (.stream streamId offset length fin data)
        (BufferQueue.popFront_frames front ▸ List.mem_cons_self)
    have sent := partLen_le (outLen - packing.st.written) streamId part
    obtain ⟨begins, _, ends, _, _, _⟩ := unacked_of_filter unacked
    dsimp only at begins ends
    omega

private theorem losesNothing_of_plain (plain : ∀ frame ∈ packing.buffered.frames, Plain frame) :
    LosesNothing streams finAcked enableMultipath isClosing active pktType outLen packing := by
  rintro _ _ _ _ -
  generalize packing.buffered.weight + 1 = turns
  induction turns generalizing packing with
  | zero => trivial
  | succ turns ih => exact ⟨clear_of_plain plain, fun turn takes _ => ih (takes.plain plain)⟩

/-- A call puts back or writes all that it takes out of the queue and that was not acknowledged,
and writes nothing else, if and only if before none of its turns the frame in front is one of
which something is lost: one with a FIN whose bytes were all acknowledged while the FIN or other
bytes of the stream were not, an empty one with a FIN for which there is no room, or one of which
more than 16383 bytes would be written. -/
theorem reinjection_complete_iff (streams : StreamMap) (content : Nat → Bytes)
    (finAcked : Nat → Prop) (enableMultipath isClosing active : Bool) (pktType : PacketType)
    (outLen : Nat) (packing : Packing) (queued : packing.Queued content) :
    Reinjects streams content finAcked enableMultipath isClosing active pktType outLen packing ↔
      LosesNothing streams finAcked enableMultipath isClosing active pktType outLen packing := by
  obtain ⟨turns, after, returned, turned, clear⟩ := @tryWriteBufferedFrames_ends streams content
    finAcked enableMultipath isClosing active pktType outLen packing queued
  have each : (∀ turn ∈ turns, turn.Exact streams content ∧ turn.Complete streams finAcked) ↔
      ∀ turn ∈ turns, Clear streams finAcked outLen turn.before :=
    forall₂_congr fun turn member =>
      (turned.takes turn member).1.right_iff (turned.takes turn member).2
  rw [← clear, ← each]
  constructor
  · rintro ⟨_, _, again, _, right⟩
    rw [returned] at again
    cases again
    exact right
  · intro right
    exact ⟨turns, after, returned, turned.frames, right⟩

def openStreams : StreamMap :=
  ((StreamMap.new false 1000 1000 {} none).setStream 0 (.new true true 100 100 100)).setStream 4
    (.new true true 100 100 100)

theorem reinjection_complete_plain :
    Reinjects openStreams (fun _ => [7, 8, 9]) (fun _ => False) true false true .oneRtt 24
      (queueOf (.stream 0 0 1 false [7]) (.stream 4 0 3 false [7, 8, 9])) := by
  have frames : ∀ frame ∈ (queueOf (.stream 0 0 1 false [7])
      (.stream 4 0 3 false [7, 8, 9])).buffered.frames,
      frame = .stream 0 0 1 false [7] ∨ frame = .stream 4 0 3 false [7, 8, 9] := by
    intro frame member
    simpa [queueOf, injectFrame, BufferQueue.pushBack, BufferQueue.default, BufferQueue.frames]
      using member
  have queued : (queueOf (.stream 0 0 1 false [7]) (.stream 4 0 3 false [7, 8, 9])).Queued
      (fun _ => [7, 8, 9]) :=
    queueOf_queued ⟨by decide, rfl, by decide, [8, 9], rfl⟩ ⟨by decide, rfl, by decide, [], rfl⟩
  refine (reinjection_complete_iff _ _ _ _ _ _ _ _ _ queued).mpr (losesNothing_of_plain ?_)
  intro frame member
  rcases frames frame member with rfl | rfl
  · exact ⟨by decide, rfl⟩
  · exact ⟨by decide, rfl⟩

/-- The empty frame with the FIN of the second stream is taken out when 18 bytes are left. -/
theorem reinjection_not_complete :
    ¬ ∀ (streams : StreamMap) (content : Nat → Bytes) (finAcked : Nat → Prop)
      (enableMultipath isClosing active : Bool) (pktType : PacketType) (outLen : Nat)
      (packing : Packing), packing.Queued content →
      Reinjects streams content finAcked enableMultipath isClosing active pktType outLen packing := by
  intro always
  have queued : (queueOf (.stream 0 0 1 false [7]) (.stream 4 0 0 true [])).Queued (fun _ => [7]) :=
    queueOf_queued ⟨by decide, rfl, by decide, [], rfl⟩ ⟨by decide, rfl, by decide, [7], rfl⟩
  obtain ⟨turns, after, returned, _, right⟩ := always openStreams (fun _ => [7]) (fun _ => False) true
    false true .oneRtt 24 _ queued
  have fates : (tryWriteBufferedFrames true false true .oneRtt openStreams 24
      (queueOf (.stream 0 0 1 false [7]) (.stream 4 0 0 true []))).map
        (·.map fun result => result.1.map fun turn => (turn.popped, turn.wrote, turn.back)) =
      some (.ok [(.stream 0 0 1 false [7], some (.stream 0 0 1 false [7]), none),
        (.stream 4 0 0 true [], none, none)]) := rfl
  rw [returned] at fates
  have member : ((.stream 4 0 0 true [], none, none) : Frame × Option Frame × Option Frame) ∈
      turns.map fun turn => (turn.popped, turn.wrote, turn.back) := by
    have listed : turns.map (fun turn => (turn.popped, turn.wrote, turn.back)) =
        [(.stream 0 0 1 false [7], some (.stream 0 0 1 false [7]), none),
          (.stream 4 0 0 true [], none, none)] := Except.ok.inj (Option.some.inj fates)
    rw [listed]
    exact List.mem_cons_of_mem _ List.mem_cons_self
  obtain ⟨turn, found, fate⟩ := List.mem_map.mp member
  obtain ⟨popped, rest⟩ := Prod.mk.inj fate
  obtain ⟨wrote, back⟩ := Prod.mk.inj rest
  rcases (right turn found).2.fin 4 0 0 [] _ popped rfl with sent | kept | ⟨_, never⟩
  · rw [wrote] at sent
    exact not_finishes_none sent
  · rw [back] at kept
    exact not_finishes_none kept
  · exact never

end Calls

end Tquic.Connection
