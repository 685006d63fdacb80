import Tquic.Connection.SendBuf

/-! Structure of the send buffer: the blocks are consecutive slices of the bytes
written, everything before them is acknowledged, and the block index never runs
past the next offset to send. -/

set_option autoImplicit false

namespace Tquic.Connection

open Lib

namespace SendBuf

/-! ## Offsets -/

theorem sendOff_cases (send : SendBuf) :
    send.sendOff ∈ send.retransmits ∨
      send.sendOff = send.unsentOff ∧ ∀ value, value ∉ send.retransmits := by
  rw [sendOff]
  cases least : send.retransmits.min with
  | some value => exact .inl (RangeSet.min_spec least).1
  | none => exact .inr ⟨rfl, RangeSet.isEmpty_iff.mp (RangeSet.min_eq_none_iff.mp least)⟩

theorem sendOff_le {send : SendBuf} {value : Nat} (member : value ∈ send.retransmits) :
    send.sendOff ≤ value := by
  rw [sendOff]
  cases least : send.retransmits.min with
  | some value => exact (RangeSet.min_spec least).2 _ member
  | none =>
    have vacant := RangeSet.isEmpty_iff.mp (RangeSet.min_eq_none_iff.mp least)
    exact absurd member (vacant value)

/-- The first offset that is not acknowledged. -/
theorem ackOff_spec (send : SendBuf) :
    (∀ value < send.ackOff, value ∈ send.acked) ∧ send.ackOff ∉ send.acked := by
  have ascending := send.acked.iter_pairwise
  have nonempty : ∀ range ∈ send.acked.iter, range.start < range.stop :=
    fun _ => RangeSet.iter_nonempty
  simp only [RangeSet.mem_iff_range, ackOff]
  cases ranges : send.acked.iter with
  | nil => simp
  | cons first rest =>
    rw [ranges] at ascending nonempty
    rw [List.pairwise_cons] at ascending
    obtain ⟨start, stop⟩ := first
    have filled := nonempty ⟨start, stop⟩ List.mem_cons_self
    cases start with
    | zero =>
      refine ⟨fun value less => ⟨_, List.mem_cons_self, Nat.zero_le _, less⟩, ?_⟩
      rintro ⟨range, member, lower, upper⟩
      rcases List.mem_cons.mp member with rfl | later
      · exact absurd upper (lt_irrefl _)
      · exact absurd (ascending.1 range later) (by simpa using lower)
    | succ start =>
      refine ⟨by simp, ?_⟩
      rintro ⟨range, member, lower, _⟩
      rcases List.mem_cons.mp member with rfl | later
      · simp at lower
      · have := ascending.1 range later
        simp only [List.head?_cons] at lower filled this
        omega

theorem ackOff_eq {send : SendBuf} {off : Nat} (below : ∀ value < off, value ∈ send.acked)
    (missing : off ∉ send.acked) : send.ackOff = off := by
  obtain ⟨covered, hole⟩ := send.ackOff_spec
  rcases Nat.lt_trichotomy send.ackOff off with less | same | greater
  · exact absurd (below _ less) hole
  · exact same
  · exact absurd (covered _ greater) missing

/-! ## Consecutive blocks -/

/-- Non-empty blocks that hold a byte string from an offset to its end. -/
def Contiguous (stream : Bytes) : Nat → List RangeBuf → Prop
  | off, [] => off = stream.length
  | off, buf :: rest =>
    buf.off = off ∧ 0 < buf.len ∧ buf.SliceOf stream ∧ Contiguous stream buf.maxOff rest

namespace Contiguous

variable {stream : Bytes} {blocks : List RangeBuf}

theorem isEmpty_iff {off : Nat} (contiguous : Contiguous stream off blocks) :
    blocks.isEmpty = true ↔ off = stream.length := by
  cases blocks with
  | nil => simpa [Contiguous] using contiguous
  | cons buf rest =>
    obtain ⟨rfl, filled, slice, _⟩ := contiguous
    have bound := slice.maxOff_le filled
    rw [RangeBuf.maxOff] at bound
    simp only [List.isEmpty_cons, Bool.false_eq_true, false_iff]
    omega

theorem append {off : Nat} (contiguous : Contiguous stream off blocks)
    {data : Bytes} (filled : data ≠ []) (fin : Bool) :
    Contiguous (stream ++ data) off (blocks ++ [⟨data, stream.length, fin⟩]) := by
  induction blocks generalizing off with
  | nil =>
    refine ⟨contiguous.symm, List.length_pos_of_ne_nil filled, ?_, ?_⟩
    · simp [RangeBuf.SliceOf]
    · simp [Contiguous, RangeBuf.maxOff, RangeBuf.len]
  | cons buf rest ih =>
    obtain ⟨start, solid, slice, tail⟩ := contiguous
    refine ⟨start, solid, ?_, ih tail⟩
    have bound := slice.maxOff_le solid
    rw [RangeBuf.maxOff] at bound
    rw [RangeBuf.SliceOf, List.drop_append_of_le_length (by omega)]
    exact List.IsPrefix.trans slice (List.prefix_append _ _)

theorem drop {off : Nat} {blocks : List RangeBuf} (contiguous : Contiguous stream off blocks)
    (count limit : Nat) (low : off ≤ limit)
    (passed : ∀ buf ∈ blocks.take count, buf.maxOff ≤ limit) :
    ∃ start, start ≤ limit ∧ Contiguous stream start (blocks.drop count) := by
  induction blocks generalizing off count with
  | nil => exact ⟨off, low, by simpa using contiguous⟩
  | cons buf rest ih =>
    cases count with
    | zero => exact ⟨off, low, contiguous⟩
    | succ count =>
      obtain ⟨_, _, _, tail⟩ := contiguous
      rw [List.take_succ_cons] at passed
      exact ih tail count (passed buf List.mem_cons_self)
        (fun other member => passed other (List.mem_cons_of_mem _ member))

theorem dropFront {off toAdvance : Nat}
    (contiguous : Contiguous stream off blocks) (within : off + toAdvance ≤ stream.length) :
    Contiguous stream (off + toAdvance) (SendBuf.dropFront blocks toAdvance).1 := by
  induction blocks generalizing off toAdvance with
  | nil =>
    simp only [Contiguous] at contiguous
    simp only [SendBuf.dropFront, Contiguous]
    omega
  | cons front rest ih =>
    have whole := contiguous
    obtain ⟨start, solid, slice, tail⟩ := contiguous
    have frontEnd : front.maxOff = front.off + front.len := rfl
    rw [SendBuf.dropFront]
    split_ifs with zero fits
    · rw [zero]
      exact whole
    · have shifted := @ih _ (toAdvance - front.len) tail (by omega)
      rw [show front.maxOff + (toAdvance - front.len) = off + toAdvance by omega] at shifted
      exact shifted
    · refine ⟨by simp [start], by simp only [RangeBuf.advance_len]; omega, slice.advance _, ?_⟩
      rw [RangeBuf.advance_maxOff (by omega)]
      exact tail

end Contiguous

private theorem dropFront_take {blocks : List RangeBuf} {toAdvance pos : Nat} {limit : Nat}
    (passed : ∀ buf ∈ blocks.take pos, buf.maxOff ≤ limit) :
    ∀ buf ∈ (dropFront blocks toAdvance).1.take (pos - (dropFront blocks toAdvance).2),
      buf.maxOff ≤ limit := by
  induction blocks generalizing toAdvance pos with
  | nil => simp [dropFront]
  | cons front rest ih =>
    rw [dropFront]
    split_ifs with zero fits
    · exact passed
    · cases pos with
      | zero => simp
      | succ pos =>
        rw [List.take_succ_cons] at passed
        rw [Nat.add_sub_add_right]
        exact ih (fun buf member => passed buf (List.mem_cons_of_mem _ member))
    · cases pos with
      | zero => simp
      | succ pos =>
        rw [List.take_succ_cons] at passed
        intro buf member
        simp only [Nat.sub_zero, List.take_succ_cons, List.mem_cons] at member
        rcases member with rfl | later
        · rw [RangeBuf.advance_maxOff (by omega)]
          exact passed front List.mem_cons_self
        · exact passed buf (List.mem_cons_of_mem _ later)

private theorem dropFront_length (blocks : List RangeBuf) (toAdvance : Nat) :
    (dropFront blocks toAdvance).1.length + (dropFront blocks toAdvance).2 = blocks.length := by
  induction blocks generalizing toAdvance with
  | nil => rfl
  | cons front rest ih =>
    rw [dropFront]
    split_ifs with zero fits
    · rfl
    · have recursive := ih (toAdvance - front.len)
      simp only [List.length_cons]
      omega
    · rfl

private theorem dropFront_index {blocks : List RangeBuf} {toAdvance pos : Nat}
    (index : pos ≤ blocks.length) :
    pos - (dropFront blocks toAdvance).2 ≤ (dropFront blocks toAdvance).1.length := by
  have := dropFront_length blocks toAdvance
  omega

/-- The search for an offset in the blocks finds the bytes from there on. -/
theorem Contiguous.seek {stream : Bytes} {off pos : Nat} {blocks : List RangeBuf} {range : Range}
    (contiguous : Contiguous stream off blocks) (low : off ≤ range.start)
    (filled : range.start < range.stop) (high : range.stop ≤ stream.length) :
    ∃ bytes passed, SendBuf.seek blocks range pos = (bytes, pos + passed) ∧
      0 < bytes.length ∧ range.start + bytes.length ≤ range.stop ∧
      bytes <+: stream.drop range.start ∧ passed ≤ blocks.length ∧
      ∀ buf ∈ blocks.take passed, buf.maxOff ≤ range.start + bytes.length := by
  induction blocks generalizing off pos with
  | nil =>
    simp only [Contiguous] at contiguous
    omega
  | cons segment rest ih =>
    obtain ⟨start, solid, slice, tail⟩ := contiguous
    have segmentEnd : segment.maxOff = segment.off + segment.len := rfl
    have segmentLen : segment.data.length = segment.len := rfl
    rw [SendBuf.seek]
    split_ifs with found
    · simp only [ge_iff_le, Bool.and_eq_true, decide_eq_true_eq] at found
      have length : ((segment.data.take (min (range.stop - segment.off) segment.len)).drop
          (range.start - segment.off)).length =
          min (range.stop - segment.off) segment.len - (range.start - segment.off) := by
        rw [List.length_drop, List.length_take]
        omega
      have inside : (segment.data.take (min (range.stop - segment.off) segment.len)).drop
          (range.start - segment.off) <+: stream.drop range.start := by
        have prior := List.IsPrefix.trans
          (List.take_prefix (min (range.stop - segment.off) segment.len) segment.data) slice
        have dropped := List.IsPrefix.drop prior (range.start - segment.off)
        rw [List.drop_drop, show segment.off + (range.start - segment.off) = range.start by omega]
          at dropped
        exact dropped
      refine ⟨_, if min (range.stop - segment.off) segment.len = segment.len then 1 else 0,
        ?_, by omega, by omega, inside, ?_, ?_⟩
      · simp only [Prod.mk.injEq, true_and]
        split_ifs <;> rfl
      · simp only [List.length_cons]
        split_ifs <;> omega
      · intro buf member
        split_ifs at member with whole
        · simp only [List.take_succ_cons, List.take_zero, List.mem_cons, List.not_mem_nil,
            or_false] at member
          subst member
          omega
        · simp at member
    · simp only [ge_iff_le, Bool.and_eq_true, decide_eq_true_eq, not_and, not_lt] at found
      obtain ⟨bytes, passed, walked, nonempty, within, inside, bound, ends⟩ :=
        @ih segment.maxOff (pos + 1) tail (by omega)
      refine ⟨bytes, passed + 1, ?_, nonempty, within, inside, ?_, ?_⟩
      · rw [walked, Nat.add_assoc, Nat.add_comm 1]
      · simpa using bound
      · intro buf member
        rw [List.take_succ_cons] at member
        rcases List.mem_cons.mp member with rfl | later
        · omega
        · exact ends buf later

/-- The blocks hold the bytes from `base` on, and those before the block index end
at or before an offset. -/
structure Seekable (send : SendBuf) (stream : Bytes) (base off : Nat) : Prop where
  blocks : Contiguous stream base send.data
  base : base ≤ off
  index : send.pos ≤ send.data.length
  passed : ∀ buf ∈ send.data.take send.pos, buf.maxOff ≤ off

theorem Seekable.mono {send : SendBuf} {stream : Bytes} {base off later : Nat}
    (seekable : Seekable send stream base off) (le : off ≤ later) :
    Seekable send stream base later :=
  ⟨seekable.blocks, seekable.base.trans le, seekable.index,
    fun buf member => (seekable.passed buf member).trans le⟩

/-- The front of a range, as far as one block goes. -/
theorem Seekable.readRange {send : SendBuf} {stream : Bytes} {base : Nat} {range : Range}
    (seekable : Seekable send stream base range.start) (filled : range.start < range.stop)
    (high : range.stop ≤ stream.length) :
    ∃ bytes pos, send.readRange range = (bytes, { send with pos }) ∧ 0 < bytes.length ∧
      range.start + bytes.length ≤ range.stop ∧ bytes <+: stream.drop range.start ∧
      Seekable { send with pos } stream base (range.start + bytes.length) := by
  obtain ⟨start, low, rest⟩ :=
    seekable.blocks.drop send.pos range.start seekable.base seekable.passed
  obtain ⟨bytes, passed, walked, nonempty, within, inside, bound, ends⟩ :=
    @Contiguous.seek stream start send.pos _ range rest low filled high
  refine ⟨bytes, send.pos + passed, by simp only [SendBuf.readRange, walked], nonempty, within,
    inside, ?_⟩
  refine ⟨seekable.blocks, seekable.base.trans (Nat.le_add_right _ _), ?_, ?_⟩
  · rw [List.length_drop] at bound
    have := seekable.index
    simp only
    omega
  · intro buf member
    simp only [List.take_add, List.mem_append] at member
    rcases member with earlier | later
    · exact (seekable.passed buf earlier).trans (Nat.le_add_right _ _)
    · exact ends buf later

/-- The loop over the blocks copies the whole range. -/
theorem Seekable.copyRange {fuel : Nat} {send : SendBuf} {stream out : Bytes} {base : Nat}
    {range : Range} (seekable : Seekable send stream base range.start)
    (order : range.start ≤ range.stop) (high : range.stop ≤ stream.length)
    (enough : range.stop - range.start ≤ fuel) :
    ∃ bytes pos, SendBuf.copyRange fuel send range out = some ({ send with pos }, out ++ bytes) ∧
      bytes.length = range.stop - range.start ∧ bytes <+: stream.drop range.start ∧
      Seekable { send with pos } stream base range.stop := by
  induction fuel generalizing send range out with
  | zero =>
    have same : range.start = range.stop := by omega
    refine ⟨[], send.pos, ?_, by simp [same], List.nil_prefix, same ▸ seekable⟩
    simp [SendBuf.copyRange, same]
  | succ fuel ih =>
    rw [SendBuf.copyRange]
    split_ifs with unfinished
    · obtain ⟨first, pos, found, nonempty, within, inside, next⟩ :=
        seekable.readRange (by omega) high
      obtain ⟨rest, finalPos, copied, length, later, final⟩ :=
        @ih { send with pos } (out ++ first) ⟨range.start + first.length, range.stop⟩ next
          within high (by simp only; omega)
      refine ⟨first ++ rest, finalPos, ?_, ?_, ?_, final⟩
      · simp only [found, copied, List.append_assoc]
      · simp only at length
        rw [List.length_append]
        omega
      · exact RangeBuf.slice_append inside later
    · have same : range.start = range.stop := not_not.mp unfinished
      exact ⟨[], send.pos, by simp, by simp [same], List.nil_prefix, same ▸ seekable⟩

/-! ## The invariant -/

/-- The first offset that is still buffered. -/
def baseOff (send : SendBuf) : Nat := send.writeOff - send.unackedLen

/-- The structural invariant of a send buffer that was not reset, for the bytes
accepted by `write` so far. -/
structure Coherent (send : SendBuf) (stream : Bytes) : Prop where
  ackedUnlimited : send.acked.capacity = none
  retransmitsUnlimited : send.retransmits.capacity = none
  length : stream.length = send.writeOff
  unacked : send.unackedLen ≤ send.writeOff
  ackOff : send.ackOff = send.baseOff
  acked : ∀ value ∈ send.acked, value < send.unsentOff
  retransmits : ∀ value ∈ send.retransmits, value < send.unsentOff ∧ value ∉ send.acked
  unsent : send.unsentOff ≤ send.writeOff
  credit : send.writeOff ≤ send.maxData
  final : ∀ finOff, send.finOff = some finOff → finOff = send.writeOff
  seekable : Seekable send stream send.baseOff send.sendOff

namespace Coherent

variable {send : SendBuf} {stream : Bytes}

theorem new (maxData : Nat) : Coherent (.new maxData) [] := by
  have vacant : (SendBuf.new maxData).ackOff = 0 :=
    ackOff_eq (by simp) (RangeSet.not_mem_default 0)
  constructor
  case ackOff => exact vacant
  case acked => exact fun value member => absurd member (RangeSet.not_mem_default value)
  case retransmits => exact fun value member => absurd member (RangeSet.not_mem_default value)
  case seekable => exact ⟨rfl, Nat.zero_le _, le_refl _, by simp [SendBuf.new]⟩
  all_goals simp [SendBuf.new]

theorem sendOff_le_unsentOff (coherent : Coherent send stream) : send.sendOff ≤ send.unsentOff := by
  rcases send.sendOff_cases with member | ⟨same, _⟩
  · exact (coherent.retransmits _ member).1.le
  · exact same.le

theorem updateMaxData (coherent : Coherent send stream) (maxData : Nat) :
    Coherent (send.updateMaxData maxData) stream :=
  { coherent with
    credit := coherent.credit.trans (le_max_left _ _)
    seekable := ⟨coherent.seekable.1, coherent.seekable.2, coherent.seekable.3,
      coherent.seekable.4⟩ }

end Coherent

/-! ## Reading -/

structure SameWritten (before after : SendBuf) : Prop where
  data : after.data = before.data
  writeOff : after.writeOff = before.writeOff
  unackedLen : after.unackedLen = before.unackedLen
  maxData : after.maxData = before.maxData
  blockedAt : after.blockedAt = before.blockedAt
  finOff : after.finOff = before.finOff
  shutdownFlag : after.shutdownFlag = before.shutdownFlag
  acked : after.acked = before.acked
  error : after.error = before.error

/-- Bytes were taken for transmission from an offset on. -/
structure Transmitted (before after : SendBuf) (start len : Nat) : Prop where
  same : SameWritten before after
  unsentOff : after.unsentOff = max before.unsentOff (start + len)
  retransmits : ∀ value, value ∈ after.retransmits ↔
    value ∈ before.retransmits ∧ ¬ (start ≤ value ∧ value < start + len)
  -- Only lost or new data is taken.
  fresh : ∀ value, start ≤ value → value < start + len →
    value ∈ before.retransmits ∨ before.unsentOff ≤ value

theorem SameWritten.refl (send : SendBuf) : SameWritten send send :=
  ⟨rfl, rfl, rfl, rfl, rfl, rfl, rfl, rfl, rfl⟩

variable {first second third : SendBuf}

theorem SameWritten.trans (left : SameWritten first second)
    (right : SameWritten second third) : SameWritten first third :=
  ⟨right.1.trans left.1, right.2.trans left.2, right.3.trans left.3, right.4.trans left.4,
    right.5.trans left.5, right.6.trans left.6, right.7.trans left.7, right.8.trans left.8,
    right.9.trans left.9⟩

theorem Transmitted.trans {start len more : Nat} (former : Transmitted first second start len)
    (latter : Transmitted second third (start + len) more) :
    Transmitted first third start (len + more) where
  same := former.same.trans latter.same
  unsentOff := by
    rw [latter.unsentOff, former.unsentOff]
    omega
  retransmits value := by
    rw [latter.retransmits, former.retransmits]
    constructor
    · rintro ⟨⟨member, before⟩, after⟩
      exact ⟨member, by omega⟩
    · rintro ⟨member, outside⟩
      exact ⟨⟨member, by omega⟩, by omega⟩
  fresh value low less := by
    rcases Nat.lt_or_ge value (start + len) with near | far
    · exact former.fresh value low near
    · rcases latter.fresh value far (by omega) with member | unsent
      · exact .inl ((former.retransmits value).mp member).1
      · rw [former.unsentOff] at unsent
        exact .inr (by omega)

variable {before after : SendBuf}

theorem Transmitted.le_sendOff {len : Nat}
    (transmitted : Transmitted before after before.sendOff len) :
    before.sendOff + len ≤ after.sendOff := by
  rcases after.sendOff_cases with member | ⟨same, _⟩
  · obtain ⟨old, outside⟩ := (transmitted.retransmits _).mp member
    have := sendOff_le old
    omega
  · rw [same, transmitted.unsentOff]
    exact le_max_right _ _

private theorem Coherent.pollLost {send : SendBuf} {stream : Bytes}
    (coherent : Coherent send stream) {range : Range} {rest : RangeSet}
    (popped : send.retransmits.popMin = (some range, rest)) {stop : Nat}
    (low : range.start < stop) (high : stop ≤ range.stop) :
    Transmitted send
      { send with
        retransmits := if stop ≠ range.stop then rest.insert ⟨stop, range.stop⟩ else rest }
      range.start (stop - range.start) := by
  obtain ⟨filled, least, others, inside⟩ := RangeSet.popMin_spec popped
  have unlimited : rest.capacity = none := by
    have kept := RangeSet.capacity_popMin send.retransmits
    rw [popped] at kept
    exact kept.trans coherent.retransmitsUnlimited
  have last := (coherent.retransmits _ (inside (range.stop - 1) (by omega) (by omega))).1
  have members : ∀ value, value ∈ (if stop ≠ range.stop then rest.insert ⟨stop, range.stop⟩
      else rest) ↔ value ∈ rest ∨ stop ≤ value ∧ value < range.stop := by
    intro value
    split_ifs with cut
    · exact RangeSet.mem_insert unlimited
    · constructor
      · exact .inl
      · rintro (kept | beyond)
        · exact kept
        · omega
  refine ⟨⟨rfl, rfl, rfl, rfl, rfl, rfl, rfl, rfl, rfl⟩, ?_, ?_, ?_⟩
  · simp only
    omega
  · intro value
    rw [members, others]
    constructor
    · rintro (⟨member, beyond⟩ | beyond)
      · exact ⟨member, by omega⟩
      · exact ⟨inside value (by omega) beyond.2, by omega⟩
    · rintro ⟨member, outside⟩
      have := (RangeSet.min_spec least).2 value member
      rcases Nat.lt_or_ge value range.stop with near | far
      · exact .inr (by omega)
      · exact .inl ⟨member, far⟩
  · intro value low less
    exact .inl (inside value low (by omega))

/-- The next range begins at the lowest offset that is to be sent. -/
theorem Coherent.pollTransmit {send : SendBuf} {stream : Bytes} (coherent : Coherent send stream)
    {cap : Nat} (room : 0 < cap) (pending : send.sendOff < send.writeOff) :
    ∃ stop after, send.pollTransmit cap = (⟨send.sendOff, stop⟩, after) ∧
      send.sendOff < stop ∧ stop ≤ send.sendOff + cap ∧ stop ≤ send.writeOff ∧
      after.pos = send.pos ∧ after.retransmits.capacity = none ∧
      Transmitted send after send.sendOff (stop - send.sendOff) := by
  have unsent := coherent.unsent
  rw [SendBuf.pollTransmit]
  cases popped : send.retransmits.popMin with
  | mk first rest =>
    cases first with
    | some range =>
      obtain ⟨filled, least, others, inside⟩ := RangeSet.popMin_spec popped
      have start : send.sendOff = range.start := by simp [sendOff, least]
      have unlimited : rest.capacity = none := by
        have kept := RangeSet.capacity_popMin send.retransmits
        rw [popped] at kept
        exact kept.trans coherent.retransmitsUnlimited
      have last := (coherent.retransmits _ (inside (range.stop - 1) (by omega) (by omega))).1
      rw [start] at pending ⊢
      refine ⟨_, _, rfl, by omega, by omega, by omega, rfl, ?_, ?_⟩
      · simp only
        split_ifs
        · exact unlimited
        · exact unlimited
      · exact coherent.pollLost popped (by omega) (by omega)
    | none =>
      have vacant : send.retransmits.isEmpty = true := by
        by_contra filled
        obtain ⟨range, rest, found⟩ :=
          RangeSet.popMin_some (Bool.not_eq_true _ ▸ filled : send.retransmits.isEmpty = false)
        rw [popped] at found
        cases found
      have start : send.sendOff = send.unsentOff := by
        simp [sendOff, RangeSet.min_eq_none_iff.mpr vacant]
      have missing := RangeSet.isEmpty_iff.mp vacant
      rw [start] at pending ⊢
      refine ⟨_, _, rfl, by omega, by omega, by omega, rfl, coherent.retransmitsUnlimited, ?_⟩
      refine ⟨⟨rfl, rfl, rfl, rfl, rfl, rfl, rfl, rfl, rfl⟩, ?_, ?_, ?_⟩
      · simp only
        omega
      · exact fun value => ⟨fun member => absurd member (missing value), fun member => member.1⟩
      · exact fun value low less => .inr (by omega)

/-- Transmitting keeps the invariant, wherever the block index ends up before the
next offset to send. -/
theorem Coherent.transmitted {stream : Bytes} {len : Nat}
    (coherent : Coherent before stream) (unlimited : after.retransmits.capacity = none)
    (transmitted : Transmitted before after before.sendOff len)
    (within : before.sendOff + len ≤ before.writeOff)
    (seekable : Seekable after stream before.baseOff (before.sendOff + len)) :
    Coherent after stream := by
  have same := transmitted.same
  have base : after.baseOff = before.baseOff := by
    rw [baseOff, baseOff, same.writeOff, same.unackedLen]
  have unsentOff := transmitted.unsentOff
  have unsent := coherent.unsent
  constructor
  case ackedUnlimited => exact same.acked ▸ coherent.ackedUnlimited
  case retransmitsUnlimited => exact unlimited
  case length => exact same.writeOff ▸ coherent.length
  case unacked => exact same.writeOff ▸ same.unackedLen ▸ coherent.unacked
  case ackOff =>
    rw [base, ← coherent.ackOff, SendBuf.ackOff, SendBuf.ackOff, same.acked]
  case acked =>
    intro value member
    have := coherent.acked value (same.acked ▸ member)
    omega
  case retransmits =>
    intro value member
    have old := coherent.retransmits value ((transmitted.retransmits value).mp member).1
    exact ⟨by omega, same.acked ▸ old.2⟩
  case unsent =>
    rw [same.writeOff]
    omega
  case credit => exact same.writeOff ▸ same.maxData ▸ coherent.credit
  case final =>
    rw [same.finOff, same.writeOff]
    exact coherent.final
  case seekable =>
    rw [base]
    exact seekable.mono transmitted.le_sendOff

theorem Transmitted.refl {send : SendBuf} {start : Nat} (sent : start ≤ send.unsentOff) :
    Transmitted send send start 0 where
  same := .refl send
  unsentOff := (max_eq_left sent).symm
  retransmits value := ⟨fun member => ⟨member, by omega⟩, fun member => member.1⟩
  fresh value low less := absurd low (by omega)

/-- The block index is not part of what transmitting changes. -/
theorem Transmitted.movePos {start len : Nat}
    (transmitted : Transmitted before after start len) (pos : Nat) :
    Transmitted before { after with pos } start len :=
  ⟨{ transmitted.same with }, transmitted.unsentOff, transmitted.retransmits, transmitted.fresh⟩

structure HandedOut (before after : SendBuf) (stream : Bytes) (start : Nat) (bytes : Bytes) :
    Prop where
  slice : bytes <+: stream.drop start
  coherent : Coherent after stream
  transmitted : Transmitted before after start bytes.length

/-- One round of the loop of `read`. -/
theorem Coherent.readRound {send : SendBuf} {stream : Bytes} (coherent : Coherent send stream)
    {cap : Nat} (out : Bytes) (room : 0 < cap) (pending : send.sendOff < send.writeOff) :
    ∃ polled bytes after,
      send.pollTransmit cap = (⟨send.sendOff, send.sendOff + bytes.length⟩, polled) ∧
      copyRange bytes.length polled ⟨send.sendOff, send.sendOff + bytes.length⟩ out =
        some (after, out ++ bytes) ∧
      0 < bytes.length ∧ bytes.length ≤ cap ∧
      HandedOut send after stream send.sendOff bytes := by
  obtain ⟨stop, polled, taken, low, room, high, pos, unlimited, transmitted⟩ :=
    coherent.pollTransmit room pending
  have seekable : Seekable polled stream send.baseOff send.sendOff := by
    obtain ⟨blocks, base, index, passed⟩ := coherent.seekable
    rw [← transmitted.same.data] at blocks index passed
    rw [← pos] at index passed
    exact ⟨blocks, base, index, passed⟩
  obtain ⟨bytes, pos, copied, length, inside, next⟩ :=
    @Seekable.copyRange (stop - send.sendOff) polled stream out send.baseOff ⟨send.sendOff, stop⟩
      seekable low.le (coherent.length ▸ high) (le_refl _)
  obtain rfl : stop = send.sendOff + bytes.length := by
    simp only at length
    omega
  rw [Nat.add_sub_cancel_left] at copied transmitted
  have moved := transmitted.movePos pos
  exact ⟨polled, bytes, _, taken, copied, by omega, by omega, inside,
    coherent.transmitted unlimited moved high next, moved⟩

/-- The loop hands out bytes without a gap. -/
theorem Coherent.readLoop {fuel : Nat} {send : SendBuf} {stream : Bytes}
    (coherent : Coherent send stream) (cap : Nat) {nextOff : Nat} (out : Bytes)
    (behind : nextOff ≤ send.sendOff) (enough : cap ≤ fuel) :
    ∃ bytes after, SendBuf.readLoop fuel send cap nextOff out =
        some (after, out ++ bytes, nextOff + bytes.length, cap - bytes.length) ∧
      bytes.length ≤ cap ∧ HandedOut send after stream nextOff bytes := by
  have idle : HandedOut send send stream nextOff [] :=
    ⟨List.nil_prefix, coherent, .refl (behind.trans coherent.sendOff_le_unsentOff)⟩
  induction fuel generalizing send cap nextOff out with
  | zero =>
    rw [SendBuf.readLoop]
    split_ifs with continues
    · simp only [gt_iff_lt, Bool.and_eq_true, decide_eq_true_eq] at continues
      omega
    · exact ⟨[], send, by simp, Nat.zero_le _, idle⟩
  | succ fuel ih =>
    rw [SendBuf.readLoop]
    split_ifs with continues
    · simp only [gt_iff_lt, Bool.and_eq_true, decide_eq_true_eq, ready] at continues
      obtain ⟨⟨⟨room, _, pending⟩, rfl⟩, _⟩ := continues
      obtain ⟨polled, bytes, after, taken, copied, nonempty, fits, handed⟩ :=
        coherent.readRound out room pending
      have reached := handed.transmitted.le_sendOff
      obtain ⟨rest, final, finished, bounded, later⟩ :=
        ih handed.coherent (cap - bytes.length) (out ++ bytes) reached (by omega)
          ⟨List.nil_prefix, handed.coherent,
            .refl (reached.trans handed.coherent.sendOff_le_unsentOff)⟩
      refine ⟨bytes ++ rest, final, ?_, ?_, ?_, later.coherent, ?_⟩
      · simp only [taken, Nat.add_sub_cancel_left, copied, finished]
        rw [List.append_assoc, List.length_append, Nat.add_assoc, Nat.sub_sub]
      · rw [List.length_append]
        omega
      · exact RangeBuf.slice_append handed.slice later.slice
      · rw [List.length_append]
        exact handed.transmitted.trans later.transmitted
    · exact ⟨[], send, by simp, Nat.zero_le _, idle⟩

theorem Coherent.read {send : SendBuf} {stream : Bytes} (coherent : Coherent send stream)
    (outLen : Nat) :
    ∃ bytes after, send.read outLen =
        some ((bytes, decide (send.finOff = some (send.sendOff + bytes.length))), after) ∧
      bytes.length ≤ outLen ∧ HandedOut send after stream send.sendOff bytes := by
  obtain ⟨bytes, after, finished, bounded, handed⟩ :=
    coherent.readLoop outLen [] (le_refl send.sendOff) (le_refl outLen)
  refine ⟨bytes, after, ?_, bounded, handed⟩
  simp only [SendBuf.read, finished, List.nil_append, handed.transmitted.same.finOff]

/-! ## Writing -/

structure Appended (before after : SendBuf) (bytes : Bytes) : Prop where
  shape : after = { before with writeOff := before.writeOff + bytes.length, data := after.data }
  earlier : before.data <+: after.data
  contiguous : ∀ stream base, stream.length = before.writeOff →
    Contiguous stream base before.data → Contiguous (stream ++ bytes) base after.data

theorem Appended.refl (send : SendBuf) : Appended send send [] :=
  ⟨rfl, List.prefix_rfl, fun stream base _ blocks => by simpa using blocks⟩

theorem Appended.trans {left right : Bytes}
    (former : Appended first second left) (latter : Appended second third right) :
    Appended first third (left ++ right) := by
  have writeOff : second.writeOff = first.writeOff + left.length := by rw [former.shape]
  refine ⟨?_, former.earlier.trans latter.earlier, ?_⟩
  · rw [latter.shape, former.shape]
    simp only [List.length_append, Nat.add_assoc]
  · intro stream base length blocks
    rw [← List.append_assoc]
    refine latter.contiguous _ base ?_ (former.contiguous stream base length blocks)
    rw [List.length_append, length, writeOff]

theorem Appended.push (send : SendBuf) {data : Bytes} (filled : data ≠ []) (fin : Bool) :
    Appended send (send.push data fin) data := by
  refine ⟨rfl, List.prefix_append _ _, ?_⟩
  intro stream base length blocks
  rw [SendBuf.push, ← length]
  exact blocks.append filled fin

private theorem pushBlocks_appended (fuel : Nat) (send : SendBuf) (data : Bytes) (len dataLen : Nat)
    (fin : Bool) :
    ∃ bytes, data = bytes ++ (pushBlocks fuel send data len dataLen fin).2 ∧
      Appended send (pushBlocks fuel send data len dataLen fin).1 bytes := by
  induction fuel generalizing send data len with
  | zero => exact ⟨[], rfl, .refl send⟩
  | succ fuel ih =>
    rw [pushBlocks]
    split_ifs with large
    · have filled : data.take sendBufferSize ≠ [] := by
        intro empty
        have := congrArg List.length empty
        simp only [List.length_take, List.length_nil, sendBufferSize] at this large
        omega
      obtain ⟨bytes, split, appended⟩ := ih
        (send.push (data.take sendBufferSize)
          (len + (data.take sendBufferSize).length = dataLen && fin))
        (data.drop sendBufferSize) (len + (data.take sendBufferSize).length)
      refine ⟨data.take sendBufferSize ++ bytes, ?_, (Appended.push send filled _).trans appended⟩
      rw [List.append_assoc, ← split, List.take_append_drop]
    · exact ⟨[], rfl, .refl send⟩

private theorem append_spec (send : SendBuf) (data : Bytes) (fin : Bool) :
    ∃ pushed, Appended send pushed data ∧
      send.append data fin = { pushed with unackedLen := send.unackedLen + data.length } := by
  rw [append]
  split_ifs with empty
  · obtain rfl := List.isEmpty_iff.mp empty
    exact ⟨send, .refl send, rfl⟩
  · obtain ⟨bytes, split, appended⟩ := pushBlocks_appended data.length send data 0 data.length fin
    have unackedLen : (pushBlocks data.length send data 0 data.length fin).1.unackedLen =
        send.unackedLen := by rw [appended.shape]
    simp only
    split_ifs with complete
    · rw [List.isEmpty_iff.mp complete, List.append_nil] at split
      exact ⟨_, split.symm ▸ appended, by rw [unackedLen]⟩
    · have filled := fun empty => complete (List.isEmpty_iff.mpr empty)
      have whole := appended.trans (.push _ filled fin)
      rw [← split] at whole
      exact ⟨_, whole, by simp only [push, unackedLen]⟩

structure Written (before after : SendBuf) (data : Bytes) (fin : Bool) (written : Nat) :
    Prop where
  noError : before.error = none
  count : written = min data.length (before.maxData - before.writeOff)
  -- Neither bytes nor FIN can be changed behind the final size.
  final : ∀ finOff, before.finOff = some finOff → before.writeOff + data.length ≤ finOff ∧
    (before.writeOff + data.length = finOff →
      fin = true ∧ data.length ≤ before.maxData - before.writeOff)
  shape : after = { before with
    data := after.data
    writeOff := before.writeOff + written
    unackedLen := before.unackedLen + written
    finOff := if fin = true ∧ data.length ≤ before.maxData - before.writeOff then
      some (before.writeOff + data.length) else before.finOff }
  earlier : before.data <+: after.data
  contiguous : ∀ stream base, stream.length = before.writeOff →
    Contiguous stream base before.data → Contiguous (stream ++ data.take written) base after.data

/-- What a write that succeeds does to the buffer. -/
theorem write_spec {send after : SendBuf} {data : Bytes} {fin : Bool} {written : Nat}
    (success : send.write data fin = .ok (written, after)) :
    Written send after data fin written := by
  rw [write] at success
  cases stopped : send.error with
  | some errorCode => simp [capacity, stopped] at success
  | none =>
    have room : send.capacity = .ok (send.maxData - send.writeOff) := by
      simp [capacity, stopped]
    -- The truncated data and the FIN flag that is left.
    have keptEq : (if data.length > send.maxData - send.writeOff then
        data.take (send.maxData - send.writeOff) else data) =
        data.take (min data.length (send.maxData - send.writeOff)) := by
      split_ifs with truncated
      · rw [Nat.min_eq_right (by omega)]
      · rw [Nat.min_eq_left (by omega), List.take_length]
    have finEq : (if data.length > send.maxData - send.writeOff then false else fin) =
        decide (fin = true ∧ data.length ≤ send.maxData - send.writeOff) := by
      split_ifs with truncated
      · simp [Nat.not_le.mpr truncated]
      · simp [Nat.le_of_not_lt truncated]
    have count : (data.take (min data.length (send.maxData - send.writeOff))).length =
        min data.length (send.maxData - send.writeOff) := by
      rw [List.length_take]
      omega
    have recorded : (if decide (fin = true ∧ data.length ≤ send.maxData - send.writeOff) = true
        then { send with finOff := some (send.writeOff + data.length) } else send) =
        { send with
          finOff := if fin = true ∧ data.length ≤ send.maxData - send.writeOff then
            some (send.writeOff + data.length) else send.finOff } := by
      simp only [decide_eq_true_eq]
      split_ifs <;> rfl
    simp only [room, keptEq, finEq, recorded] at success
    generalize next : (if fin = true ∧ data.length ≤ send.maxData - send.writeOff then
      some (send.writeOff + data.length) else send.finOff) = finNext at success
    split_ifs at success with beyond unmarked
    obtain ⟨rfl, rfl⟩ := Prod.mk.inj (Except.ok.inj success)
    obtain ⟨pushed, appended, stored⟩ := append_spec { send with finOff := finNext }
      (data.take (min data.length (send.maxData - send.writeOff)))
      (decide (fin = true ∧ data.length ≤ send.maxData - send.writeOff))
    refine ⟨stopped, count, ?_, ?_, stored ▸ appended.earlier, ?_⟩
    · intro finOff known
      refine ⟨by simpa [known] using beyond, fun same => ?_⟩
      have marked : send.writeOff + data.length = finOff →
          fin = true ∧ data.length ≤ send.maxData - send.writeOff := by
        simpa [known] using unmarked
      exact marked same
    · rw [stored, appended.shape, next]
    · rw [stored, count]
      exact appended.contiguous

/-- A write appends to the stream what it counts. -/
theorem Coherent.write {send after : SendBuf} {stream data : Bytes} {fin : Bool} {written : Nat}
    (coherent : Coherent send stream) (spec : Written send after data fin written) :
    Coherent after (stream ++ data.take written) := by
  have count := spec.count
  have credit := coherent.credit
  have contiguous := spec.contiguous stream send.baseOff coherent.length coherent.seekable.blocks
  have earlier := spec.earlier
  have final := spec.final
  rw [spec.shape]
  generalize after.data = blocks at contiguous earlier
  have base : send.writeOff + written - (send.unackedLen + written) = send.baseOff := by
    rw [baseOff]
    omega
  constructor
  case ackedUnlimited => exact coherent.ackedUnlimited
  case retransmitsUnlimited => exact coherent.retransmitsUnlimited
  case length =>
    simp only [List.length_append, coherent.length, List.length_take]
    omega
  case unacked => exact Nat.add_le_add_right coherent.unacked written
  case ackOff => exact coherent.ackOff.trans base.symm
  case acked => exact coherent.acked
  case retransmits => exact coherent.retransmits
  case unsent => exact coherent.unsent.trans (Nat.le_add_right _ _)
  case credit =>
    simp only
    omega
  case final =>
    intro finOff known
    simp only at known ⊢
    split_ifs at known with marked
    · cases known
      omega
    · have old := coherent.final finOff known
      have := (final finOff known).1
      omega
  case seekable =>
    obtain ⟨_, low, index, passed⟩ := coherent.seekable
    refine ⟨?_, ?_, index.trans earlier.length_le, ?_⟩
    · rw [SendBuf.baseOff]
      exact base.symm ▸ contiguous
    · rw [SendBuf.baseOff]
      exact base.symm ▸ low
    · obtain ⟨suffix, rfl⟩ := earlier
      simp only
      rw [List.take_append_of_le_length index]
      exact passed

/-! ## Acknowledged and lost ranges -/

/-- The fields that acknowledgements and losses leave alone. -/
structure SameOffsets (before after : SendBuf) : Prop where
  writeOff : after.writeOff = before.writeOff
  unsentOff : after.unsentOff = before.unsentOff
  maxData : after.maxData = before.maxData
  blockedAt : after.blockedAt = before.blockedAt
  finOff : after.finOff = before.finOff
  shutdownFlag : after.shutdownFlag = before.shutdownFlag
  error : after.error = before.error

/-- Nothing before the next offset to send is missing an acknowledgement if
everything below `base` is acknowledged. -/
theorem base_le_sendOff {send : SendBuf} {base : Nat} (below : ∀ value < base, value ∈ send.acked)
    (acked : ∀ value ∈ send.acked, value < send.unsentOff)
    (apart : ∀ value ∈ send.retransmits, value ∉ send.acked) : base ≤ send.sendOff := by
  by_contra less
  have settled := below send.sendOff (by omega)
  rcases send.sendOff_cases with member | ⟨same, _⟩
  · exact apart _ member settled
  · have := acked _ settled
    omega

/-- Removing lost ranges does not move the next offset to send back. -/
theorem sendOff_mono (unsentOff : after.unsentOff = before.unsentOff)
    (fewer : ∀ value ∈ after.retransmits, value ∈ before.retransmits)
    (sent : ∀ value ∈ before.retransmits, value < before.unsentOff) :
    before.sendOff ≤ after.sendOff := by
  rcases after.sendOff_cases with member | ⟨same, _⟩
  · exact sendOff_le (fewer _ member)
  · rw [same, unsentOff]
    rcases before.sendOff_cases with old | ⟨equal, _⟩
    · exact (sent _ old).le
    · exact equal.le

theorem Coherent.below {send : SendBuf} {stream : Bytes} (coherent : Coherent send stream)
    {value : Nat} (less : value < send.baseOff) : value ∈ send.acked :=
  send.ackOff_spec.1 value (coherent.ackOff ▸ less)

theorem Coherent.all_acked {send : SendBuf} {stream : Bytes} (coherent : Coherent send stream)
    (empty : send.data.isEmpty = true) {value : Nat} (sent : value < send.unsentOff) :
    value ∈ send.acked := by
  apply coherent.below
  rw [(coherent.seekable.blocks.isEmpty_iff.mp empty), coherent.length]
  exact lt_of_lt_of_le sent coherent.unsent

/-- A range was acknowledged. -/
structure Acknowledged (before after : SendBuf) (off len : Nat) : Prop where
  same : SameOffsets before after
  acked : ∀ value, value ∈ after.acked ↔ value ∈ before.acked ∨ off ≤ value ∧ value < off + len
  retransmits : ∀ value, value ∈ after.retransmits ↔
    value ∈ before.retransmits ∧ ¬ (off ≤ value ∧ value < off + len)

variable {off len : Nat}

private theorem Coherent.acknowledged {stream : Bytes}
    (coherent : Coherent before stream) (acknowledged : Acknowledged before after off len)
    (sent : off + len ≤ before.unsentOff)
    (unlimited : after.acked.capacity = none ∧ after.retransmits.capacity = none)
    (unacked : after.unackedLen ≤ after.writeOff) (settled : after.ackOff = after.baseOff)
    (blocks : Contiguous stream after.baseOff after.data) (index : after.pos ≤ after.data.length)
    (passed : ∀ buf ∈ after.data.take after.pos, buf.maxOff ≤ before.sendOff) :
    Coherent after stream := by
  have same := acknowledged.same
  have acked : ∀ value ∈ after.acked, value < after.unsentOff := by
    intro value member
    rw [same.unsentOff]
    rcases (acknowledged.acked value).mp member with old | inside
    · exact coherent.acked value old
    · omega
  have retransmits : ∀ value ∈ after.retransmits,
      value < after.unsentOff ∧ value ∉ after.acked := by
    intro value member
    obtain ⟨old, outside⟩ := (acknowledged.retransmits value).mp member
    refine ⟨same.unsentOff ▸ (coherent.retransmits value old).1, ?_⟩
    rw [acknowledged.acked]
    rintro (settled | inside)
    · exact (coherent.retransmits value old).2 settled
    · exact outside inside
  constructor
  case ackedUnlimited => exact unlimited.1
  case retransmitsUnlimited => exact unlimited.2
  case length => exact same.writeOff ▸ coherent.length
  case unacked => exact unacked
  case ackOff => exact settled
  case acked => exact acked
  case retransmits => exact retransmits
  case unsent => exact same.unsentOff ▸ same.writeOff ▸ coherent.unsent
  case credit => exact same.writeOff ▸ same.maxData ▸ coherent.credit
  case final =>
    rw [same.finOff, same.writeOff]
    exact coherent.final
  case seekable =>
    refine ⟨blocks, ?_, index, ?_⟩
    · refine base_le_sendOff ?_ acked (fun value member => (retransmits value member).2)
      intro value less
      exact after.ackOff_spec.1 value (settled ▸ less)
    · intro buf member
      refine (passed buf member).trans (sendOff_mono same.unsentOff ?_ ?_)
      · exact fun value member => ((acknowledged.retransmits value).mp member).1
      · exact fun value member => (coherent.retransmits value member).1

private theorem Coherent.recordAck {send : SendBuf} {stream : Bytes}
    (coherent : Coherent send stream) (off len : Nat) :
    Acknowledged send (send.recordAck off len) off len :=
  ⟨⟨rfl, rfl, rfl, rfl, rfl, rfl, rfl⟩, fun _ => RangeSet.mem_insert coherent.ackedUnlimited,
    fun _ => RangeSet.mem_remove⟩

/-- The hole after the acknowledged prefix moves up, and not beyond what was sent. -/
private theorem Coherent.recordAck_ackOff {send : SendBuf} {stream : Bytes}
    (coherent : Coherent send stream) (sent : off + len ≤ send.unsentOff) :
    send.baseOff ≤ (send.recordAck off len).ackOff ∧
      (send.recordAck off len).ackOff ≤ send.unsentOff := by
  have acked := (coherent.recordAck off len).acked
  obtain ⟨covered, hole⟩ := (send.recordAck off len).ackOff_spec
  constructor
  · by_contra less
    exact hole ((acked _).mpr (.inl (coherent.below (by omega))))
  · by_contra greater
    rcases (acked _).mp (covered send.unsentOff (by omega)) with old | inside
    · exact absurd (coherent.acked _ old) (lt_irrefl _)
    · omega

/-- Acknowledging a sent range records it, stops its retransmission and drops the
blocks that have no hole below them. -/
theorem Coherent.ackAndDrop {send : SendBuf} {stream : Bytes} (coherent : Coherent send stream)
    (sent : off + len ≤ send.unsentOff) :
    Acknowledged send (send.ackAndDrop off len) off len ∧
      Coherent (send.ackAndDrop off len) stream := by
  have recorded := coherent.recordAck off len
  obtain ⟨low, high⟩ := coherent.recordAck_ackOff sent
  rw [SendBuf.ackAndDrop]
  split_ifs with empty gap
  · have acknowledged : Acknowledged send
        { send with retransmits := send.retransmits.clear } off len := by
      refine ⟨⟨rfl, rfl, rfl, rfl, rfl, rfl, rfl⟩, ?_, ?_⟩
      · intro value
        refine ⟨.inl, ?_⟩
        rintro (old | inside)
        · exact old
        · exact coherent.all_acked empty (by omega)
      · intro value
        refine ⟨fun member => absurd member (RangeSet.not_mem_clear _ value), ?_⟩
        rintro ⟨member, _⟩
        have old := coherent.retransmits value member
        exact absurd (coherent.all_acked empty old.1) old.2
    exact ⟨acknowledged, coherent.acknowledged acknowledged sent
      ⟨coherent.ackedUnlimited, coherent.retransmitsUnlimited⟩ coherent.unacked coherent.ackOff
      coherent.seekable.blocks coherent.seekable.index coherent.seekable.passed⟩
  · have settled : (send.recordAck off len).ackOff = send.baseOff := by
      apply ackOff_eq
      · exact fun value less => (recorded.acked value).mpr (.inl (coherent.below less))
      · intro member
        rcases (recorded.acked _).mp member with old | inside
        · exact send.ackOff_spec.2 (coherent.ackOff ▸ old)
        · omega
    exact ⟨recorded, coherent.acknowledged recorded sent
      ⟨coherent.ackedUnlimited, coherent.retransmitsUnlimited⟩ coherent.unacked settled
      coherent.seekable.blocks coherent.seekable.index coherent.seekable.passed⟩
  · have unsent := coherent.unsent
    have unacked := coherent.unacked
    have baseEq : send.baseOff = send.writeOff - send.unackedLen := rfl
    have advanced : (send.recordAck off len).dropAcked.baseOff =
        send.baseOff + ((send.recordAck off len).ackOff - send.baseOff) := by
      change send.writeOff -
        (send.unackedLen - ((send.recordAck off len).ackOff - send.baseOff)) = _
      omega
    have acknowledged : Acknowledged send (send.recordAck off len).dropAcked off len :=
      ⟨⟨rfl, rfl, rfl, rfl, rfl, rfl, rfl⟩, recorded.acked, recorded.retransmits⟩
    refine ⟨acknowledged, coherent.acknowledged acknowledged sent
      ⟨coherent.ackedUnlimited, coherent.retransmitsUnlimited⟩ ?_ ?_ ?_ ?_ ?_⟩
    · exact (Nat.sub_le _ _).trans unacked
    · rw [advanced]
      change (send.recordAck off len).ackOff = _
      omega
    · rw [advanced]
      apply coherent.seekable.blocks.dropFront
      rw [coherent.length]
      omega
    · exact dropFront_index coherent.seekable.index
    · exact dropFront_take coherent.seekable.passed

/-- A range was queued for retransmission, less what is acknowledged. -/
structure Requeued (before after : SendBuf) (off len : Nat) : Prop where
  same : SameOffsets before after
  acked : after.acked = before.acked
  retransmits : ∀ value, value ∈ after.retransmits ↔ value ∈ before.retransmits ∨
    (off ≤ value ∧ value < off + len) ∧ value ∉ before.acked

private theorem lostLoop_spec {ranges : List Range} {retransmits : RangeSet} {start stop : Nat}
    (unlimited : retransmits.capacity = none)
    (ascending : ranges.Pairwise (fun left right => left.stop < right.start))
    (nonempty : ∀ range ∈ ranges, range.start < range.stop) :
    (lostLoop ranges retransmits start stop).1.capacity = none ∧
      ∀ value, (value ∈ (lostLoop ranges retransmits start stop).1 ∨
          (lostLoop ranges retransmits start stop).2.start ≤ value ∧
            value < (lostLoop ranges retransmits start stop).2.stop) ↔
        value ∈ retransmits ∨ (start ≤ value ∧ value < stop) ∧
          ∀ range ∈ ranges, ¬ (range.start ≤ value ∧ value < range.stop) := by
  induction ranges generalizing retransmits start with
  | nil => simp [lostLoop, unlimited]
  | cons range rest ih =>
    rw [List.pairwise_cons] at ascending
    have filled := nonempty range List.mem_cons_self
    have later : ∀ other ∈ rest, other.start < other.stop :=
      fun other member => nonempty other (List.mem_cons_of_mem _ member)
    have beyond : ∀ value, value < range.stop →
        ∀ other ∈ rest, ¬ (other.start ≤ value ∧ value < other.stop) := by
      intro value less other member inside
      have := ascending.1 other member
      omega
    have split : ∀ value, (∀ other ∈ range :: rest,
        ¬ (other.start ≤ value ∧ value < other.stop)) ↔
        ¬ (range.start ≤ value ∧ value < range.stop) ∧
          ∀ other ∈ rest, ¬ (other.start ≤ value ∧ value < other.stop) :=
      fun value => List.forall_mem_cons
    simp only [split]
    rw [lostLoop]
    split_ifs with before after front inside covered
    · refine ⟨unlimited, fun value => or_congr_right ?_⟩
      refine ⟨fun lost => ⟨lost, ?_, beyond value (by simp only at lost; omega)⟩,
        fun lost => lost.1⟩
      simp only at lost
      omega
    · obtain ⟨kept, members⟩ := @ih retransmits start unlimited ascending.2 later
      refine ⟨kept, fun value => ?_⟩
      rw [members value]
      refine or_congr_right ⟨fun lost => ⟨lost.1, ?_, lost.2⟩, fun lost => ⟨lost.1, lost.2.2⟩⟩
      omega
    · refine ⟨unlimited, fun value => or_congr_right ?_⟩
      simp only
      refine ⟨fun lost => ⟨?_, ?_, beyond value (by omega)⟩, fun lost => ?_⟩ <;> omega
    · obtain ⟨kept, members⟩ :=
        @ih (retransmits.insert ⟨start, range.start⟩) range.stop unlimited ascending.2 later
      refine ⟨kept, fun value => ?_⟩
      rw [members value, RangeSet.mem_insert unlimited, or_assoc]
      refine or_congr_right ⟨?_, ?_⟩
      · rintro (low | ⟨high, others⟩)
        · simp only at low
          exact ⟨by omega, by omega, beyond value (by omega)⟩
        · exact ⟨by omega, by omega, others⟩
      · rintro ⟨lost, outside, others⟩
        rcases Nat.lt_or_ge value range.start with low | high
        · exact .inl ⟨lost.1, low⟩
        · exact .inr ⟨by omega, others⟩
    · refine ⟨unlimited, fun value => or_congr_right ?_⟩
      simp only
      refine ⟨fun lost => ?_, fun lost => ?_⟩ <;> omega
    · obtain ⟨kept, members⟩ := @ih retransmits range.stop unlimited ascending.2 later
      refine ⟨kept, fun value => ?_⟩
      rw [members value]
      refine or_congr_right ⟨fun lost => ⟨?_, ?_, lost.2⟩, fun lost => ⟨?_, lost.2.2⟩⟩ <;> omega

private theorem Coherent.requeued {stream : Bytes}
    (coherent : Coherent before stream) (requeued : Requeued before after off len)
    (sent : off + len ≤ before.unsentOff) (unlimited : after.retransmits.capacity = none)
    (data : after.data = before.data) (unackedLen : after.unackedLen = before.unackedLen)
    (index : after.pos ≤ before.data.length)
    (passed : ∀ buf ∈ before.data.take after.pos, buf.maxOff ≤ after.sendOff) :
    Coherent after stream := by
  have same := requeued.same
  have base : after.baseOff = before.baseOff := by
    rw [baseOff, baseOff, same.writeOff, unackedLen]
  have retransmits : ∀ value ∈ after.retransmits,
      value < after.unsentOff ∧ value ∉ after.acked := by
    intro value member
    rw [same.unsentOff, requeued.acked]
    rcases (requeued.retransmits value).mp member with old | ⟨inside, missing⟩
    · exact coherent.retransmits value old
    · exact ⟨by omega, missing⟩
  constructor
  case ackedUnlimited => exact requeued.acked ▸ coherent.ackedUnlimited
  case retransmitsUnlimited => exact unlimited
  case length => exact same.writeOff ▸ coherent.length
  case unacked => exact same.writeOff ▸ unackedLen ▸ coherent.unacked
  case ackOff =>
    rw [base, ← coherent.ackOff, SendBuf.ackOff, SendBuf.ackOff, requeued.acked]
  case acked =>
    rw [same.unsentOff, requeued.acked]
    exact coherent.acked
  case retransmits => exact retransmits
  case unsent => exact same.unsentOff ▸ same.writeOff ▸ coherent.unsent
  case credit => exact same.writeOff ▸ same.maxData ▸ coherent.credit
  case final =>
    rw [same.finOff, same.writeOff]
    exact coherent.final
  case seekable =>
    refine ⟨by rw [base, data]; exact coherent.seekable.blocks, ?_, by rw [data]; exact index,
      by rw [data]; exact passed⟩
    rw [base]
    refine base_le_sendOff ?_ ?_ (fun value member => (retransmits value member).2)
    · intro value less
      rw [requeued.acked]
      exact coherent.below less
    · rw [same.unsentOff, requeued.acked]
      exact coherent.acked

/-- What is lost is to be sent again, unless it was acknowledged. -/
theorem Coherent.retransmit {send : SendBuf} {stream : Bytes} (coherent : Coherent send stream)
    (sent : off + len ≤ send.unsentOff) :
    Requeued send (send.retransmit off len) off len ∧
      Coherent (send.retransmit off len) stream := by
  have settled : (∀ value, off ≤ value → value < off + len → value ∈ send.acked) →
      Requeued send send off len := by
    intro all
    refine ⟨⟨rfl, rfl, rfl, rfl, rfl, rfl, rfl⟩, rfl, fun value => ⟨.inl, ?_⟩⟩
    rintro (old | ⟨inside, missing⟩)
    · exact old
    · exact absurd (all value inside.1 inside.2) missing
  obtain ⟨unlimited, members⟩ := @lostLoop_spec send.acked.iter send.retransmits off (off + len)
    coherent.retransmitsUnlimited send.acked.iter_pairwise (fun _ => RangeSet.iter_nonempty)
  have queued : ∀ pos, Requeued send { send with
      pos, retransmits := (lostLoop send.acked.iter send.retransmits off (off + len)).1.insert
        (lostLoop send.acked.iter send.retransmits off (off + len)).2 } off len := by
    intro pos
    refine ⟨⟨rfl, rfl, rfl, rfl, rfl, rfl, rfl⟩, rfl, fun value => ?_⟩
    have missing : value ∉ send.acked ↔ ∀ range ∈ send.acked.iter,
        ¬ (range.start ≤ value ∧ value < range.stop) := by
      rw [RangeSet.mem_iff_range]
      exact ⟨fun none range member inside => none ⟨range, member, inside⟩,
        fun all ⟨range, member, inside⟩ => all range member inside⟩
    rw [RangeSet.mem_insert unlimited, members value, missing]
  rw [SendBuf.retransmit]
  split
  case isTrue empty =>
    refine ⟨settled fun value low less => ?_, coherent⟩
    exact coherent.all_acked empty (by omega)
  case isFalse filled =>
    split
    case isTrue covered =>
      refine ⟨settled fun value low less => ?_, coherent⟩
      exact send.ackOff_spec.1 value (by omega)
    case isFalse open_ =>
      simp only
      split
      case isTrue rewound =>
        exact ⟨queued 0, coherent.requeued (queued 0) sent unlimited rfl rfl (Nat.zero_le _)
          (by simp)⟩
      case isFalse kept =>
        refine ⟨queued send.pos, coherent.requeued (queued send.pos) sent unlimited rfl rfl
          coherent.seekable.index ?_⟩
        intro buf member
        exact (coherent.seekable.passed buf member).trans (Nat.le_of_not_lt kept)

end SendBuf

end Tquic.Connection
