import Tquic.Connection.RecvBuf

/-! Structure of the receive buffer: the stored chunks stay disjoint, keyed by
their end and above the read offset, and `write` and `read` have exact effects on
the set of stored bytes. The facts hold with and without reset and shutdown. -/

set_option autoImplicit false

namespace Tquic.Connection

open Lib

namespace RecvBuf

/-- The structural invariant of the receive buffer. -/
structure Ordered (recv : RecvBuf) : Prop where
  keyed : ∀ entry ∈ recv.data, entry.1 = entry.2.maxOff
  disjoint : ∀ left ∈ recv.data, ∀ right ∈ recv.data, left.1 < right.1 → left.2.maxOff ≤ right.2.off
  unread : ∀ entry ∈ recv.data, recv.readOff ≤ entry.2.off
  received : ∀ entry ∈ recv.data, entry.2.maxOff ≤ recv.recvOff
  -- Only the marker of a zero-length FIN is empty.
  marker : ∀ entry ∈ recv.data, entry.2.len = 0 →
    recv.finOff = some entry.2.maxOff ∧ entry.2.fin = true
  readBound : recv.readOff ≤ recv.recvOff
  finBound : ∀ finOff, recv.finOff = some finOff → recv.recvOff ≤ finOff

def Holds (recv : RecvBuf) (value : Nat) : Prop :=
  ∃ entry ∈ recv.data, entry.2.off ≤ value ∧ value < entry.2.maxOff

/-- Every stored chunk agrees with a byte string. -/
def SlicesOf (recv : RecvBuf) (stream : Bytes) : Prop :=
  ∀ entry ∈ recv.data, entry.2.SliceOf stream

/-! ## The overlap scan -/

/-- What the scan of an incoming buffer against stored chunks guarantees when
something is left to store. -/
structure Scanned (chunks : List RangeBuf) (buf kept : RangeBuf) (pieces : List RangeBuf) :
    Prop where
  lower : buf.off ≤ kept.off
  upper : kept.maxOff ≤ buf.maxOff
  filled : 0 < buf.len → 0 < kept.len
  vacant : buf.len = 0 → kept = buf ∧ ∀ chunk ∈ chunks, buf.off < chunk.off
  apart : ∀ chunk ∈ chunks, chunk.maxOff ≤ kept.off ∨ kept.maxOff ≤ chunk.off
  skipped : ∀ value, buf.off ≤ value → value < kept.off →
    ∃ chunk ∈ chunks, chunk.off ≤ value ∧ value < chunk.maxOff
  pending : pieces = [] ∧ kept.maxOff = buf.maxOff ∨
    ∃ piece, pieces = [piece] ∧ piece.off = kept.maxOff ∧ piece.maxOff = buf.maxOff ∧ 0 < piece.len
  slices : ∀ stream, buf.SliceOf stream →
    kept.SliceOf stream ∧ ∀ piece ∈ pieces, piece.SliceOf stream

variable {chunks : List RangeBuf} {buf : RangeBuf}

theorem Scanned.whole (apart : ∀ chunk ∈ chunks, chunk.maxOff ≤ buf.off ∨ buf.maxOff ≤ chunk.off)
    (vacant : buf.len = 0 → ∀ chunk ∈ chunks, buf.off < chunk.off) :
    Scanned chunks buf buf [] where
  lower := le_refl _
  upper := le_refl _
  filled := id
  vacant empty := ⟨rfl, vacant empty⟩
  apart := apart
  skipped value lower less := absurd lower (by omega)
  pending := .inl ⟨rfl, rfl⟩
  slices _ slice := ⟨slice, by simp⟩

private theorem scanOverlap_beyond (beyond : ∀ chunk ∈ chunks, buf.maxOff < chunk.off) :
    scanOverlap chunks buf = (some buf, []) := by
  cases chunks with
  | nil => rfl
  | cons chunk rest =>
    have first := beyond chunk List.mem_cons_self
    simp [scanOverlap, first]

/-- Stored chunks in ascending order, none ending before the buffer begins; an
empty one lies at or beyond the end of the buffer. -/
structure Ascending (chunks : List RangeBuf) (buf : RangeBuf) : Prop where
  ordered : chunks.Pairwise (fun left right => left.maxOff ≤ right.off)
  reaching : ∀ chunk ∈ chunks, buf.off ≤ chunk.maxOff
  filled : ∀ chunk ∈ chunks, 0 < chunk.len ∨ buf.maxOff ≤ chunk.off

/-- The two outcomes of a scan: every byte is stored already, or a part is kept. -/
def ScanOutcome (chunks : List RangeBuf) (buf : RangeBuf)
    (outcome : Option RangeBuf × List RangeBuf) : Prop :=
  (outcome = (none, []) ∧
    (∀ value, buf.off ≤ value → value < buf.maxOff →
      ∃ chunk ∈ chunks, chunk.off ≤ value ∧ value < chunk.maxOff) ∧
    ∃ chunk ∈ chunks, buf.maxOff ≤ chunk.maxOff) ∨
  ∃ kept pieces, outcome = (some kept, pieces) ∧ Scanned chunks buf kept pieces

variable {rest : List RangeBuf} {chunk : RangeBuf}

private theorem ScanOutcome.front {outcome : Option RangeBuf × List RangeBuf}
    (lower : chunk.off ≤ buf.off) (within : buf.off < chunk.maxOff)
    (ends : chunk.maxOff < buf.maxOff)
    (result : ScanOutcome rest (buf.advance (chunk.maxOff - buf.off)) outcome) :
    ScanOutcome (chunk :: rest) buf outcome := by
  have bufEnd : buf.maxOff = buf.off + buf.len := rfl
  have shifted : (buf.advance (chunk.maxOff - buf.off)).maxOff = buf.maxOff :=
    RangeBuf.advance_maxOff (by omega)
  have start : (buf.advance (chunk.maxOff - buf.off)).off = chunk.maxOff := by
    simp only [RangeBuf.advance_off]
    omega
  rcases result with ⟨scanned, covered, other, member, reaches⟩ | ⟨kept, pieces, scanned, result⟩
  · refine .inl ⟨scanned, ?_, other, List.mem_cons_of_mem _ member, shifted ▸ reaches⟩
    intro value low less
    rcases Nat.lt_or_ge value chunk.maxOff with near | far
    · exact ⟨chunk, List.mem_cons_self, by omega, near⟩
    · obtain ⟨other, member, inside⟩ := covered value (by omega) (by omega)
      exact ⟨other, List.mem_cons_of_mem _ member, inside⟩
  · have keptLower := result.lower
    rw [start] at keptLower
    have remaining : 0 < (buf.advance (chunk.maxOff - buf.off)).len := by
      simp only [RangeBuf.advance_len]
      omega
    refine .inr ⟨kept, pieces, scanned, ?_⟩
    constructor
    case lower => omega
    case upper => exact shifted ▸ result.upper
    case filled => exact fun _ => result.filled remaining
    case vacant => exact fun empty => by omega
    case apart =>
      intro other member
      rcases List.mem_cons.mp member with rfl | member
      · exact .inl keptLower
      · exact result.apart other member
    case skipped =>
      intro value low less
      rcases Nat.lt_or_ge value chunk.maxOff with near | far
      · exact ⟨chunk, List.mem_cons_self, by omega, near⟩
      · obtain ⟨other, member, inside⟩ := result.skipped value (by omega) less
        exact ⟨other, List.mem_cons_of_mem _ member, inside⟩
    case pending => exact shifted ▸ result.pending
    case slices => exact fun stream slice => result.slices stream (slice.advance _)

/-- The first chunk begins inside the buffer: the front part is kept, the rest queued. -/
private theorem Scanned.rear (lower : buf.off < chunk.off) (upper : chunk.off < buf.maxOff)
    (beyond : ∀ other ∈ rest, chunk.off < other.off) :
    (buf.splitOff (chunk.off - buf.off)).1.maxOff = chunk.off ∧
      Scanned (chunk :: rest) buf (buf.splitOff (chunk.off - buf.off)).1
        [(buf.splitOff (chunk.off - buf.off)).2] := by
  have bufEnd : buf.maxOff = buf.off + buf.len := rfl
  have frontOff : (buf.splitOff (chunk.off - buf.off)).1.off = buf.off := rfl
  have frontLen : (buf.splitOff (chunk.off - buf.off)).1.len = chunk.off - buf.off := by
    simp only [RangeBuf.splitOff, RangeBuf.len, List.length_take]
    simp only [RangeBuf.len] at bufEnd
    omega
  have frontEnd : (buf.splitOff (chunk.off - buf.off)).1.maxOff = chunk.off := by
    rw [RangeBuf.maxOff, frontLen, frontOff]
    omega
  have pieceOff : (buf.splitOff (chunk.off - buf.off)).2.off = chunk.off := by
    simp only [RangeBuf.splitOff]
    omega
  have pieceEnd : (buf.splitOff (chunk.off - buf.off)).2.maxOff = buf.maxOff :=
    RangeBuf.advance_maxOff (by omega)
  refine ⟨frontEnd, ?_⟩
  constructor
  case lower => exact frontOff.ge
  case upper => omega
  case filled => exact fun _ => by omega
  case vacant => exact fun empty => by omega
  case apart =>
    intro other member
    rcases List.mem_cons.mp member with rfl | member
    · exact .inr frontEnd.le
    · exact .inr (frontEnd.le.trans (beyond other member).le)
  case skipped => exact fun value low less => absurd low (by omega)
  case pending =>
    refine .inr ⟨_, rfl, by omega, pieceEnd, ?_⟩
    have : (buf.splitOff (chunk.off - buf.off)).2.maxOff =
      (buf.splitOff (chunk.off - buf.off)).2.off + (buf.splitOff (chunk.off - buf.off)).2.len := rfl
    omega
  case slices =>
    intro stream slice
    have split := slice.splitOff (chunk.off - buf.off)
    exact ⟨split.1, by simpa using split.2⟩

/-- The first chunk shares no byte with the buffer. -/
private theorem ScanOutcome.touch {outcome : Option RangeBuf × List RangeBuf} (filled : 0 < buf.len)
    (apart : chunk.maxOff ≤ buf.off ∨ buf.maxOff ≤ chunk.off)
    (result : ScanOutcome rest buf outcome) : ScanOutcome (chunk :: rest) buf outcome := by
  rcases result with ⟨scanned, covered, other, member, reaches⟩ | ⟨kept, pieces, scanned, result⟩
  · refine .inl ⟨scanned, ?_, other, List.mem_cons_of_mem _ member, reaches⟩
    intro value lower less
    obtain ⟨other, member, inside⟩ := covered value lower less
    exact ⟨other, List.mem_cons_of_mem _ member, inside⟩
  · have lower := result.lower
    have upper := result.upper
    refine .inr ⟨kept, pieces, scanned, { result with
      vacant := fun empty => by omega
      apart := ?_
      skipped := ?_ }⟩
    · intro other member
      rcases List.mem_cons.mp member with rfl | member
      · rcases apart with left | right
        · exact .inl (by omega)
        · exact .inr (by omega)
      · exact result.apart other member
    · intro value low less
      obtain ⟨other, member, inside⟩ := result.skipped value low less
      exact ⟨other, List.mem_cons_of_mem _ member, inside⟩

private theorem scanOverlap_spec (ascending : Ascending chunks buf) :
    ScanOutcome chunks buf (scanOverlap chunks buf) := by
  induction chunks generalizing buf with
  | nil => exact .inr ⟨buf, [], rfl, .whole (by simp) (by simp)⟩
  | cons chunk rest ih =>
    obtain ⟨ordered, reaching, filled⟩ := ascending
    rw [List.pairwise_cons] at ordered
    have reach := reaching chunk List.mem_cons_self
    have solid := filled chunk List.mem_cons_self
    have chunkEnd : chunk.maxOff = chunk.off + chunk.len := rfl
    have bufEnd : buf.maxOff = buf.off + buf.len := rfl
    rw [scanOverlap]
    split_ifs with before inside front rear
    · refine .inr ⟨buf, [], rfl, ?_⟩
      have beyond : ∀ other ∈ chunk :: rest, buf.maxOff < other.off := by
        intro other member
        rcases List.mem_cons.mp member with rfl | member
        · exact before
        · have := ordered.1 other member
          omega
      exact .whole (fun other member => .inr (beyond other member).le)
        (fun _ other member => by have := beyond other member; omega)
    · simp only [ge_iff_le, Bool.and_eq_true, decide_eq_true_eq] at inside
      refine .inl ⟨rfl, ?_, chunk, List.mem_cons_self, inside.2⟩
      intro value lower less
      exact ⟨chunk, List.mem_cons_self, by omega, by omega⟩
    · simp only [ge_iff_le, Bool.and_eq_true, decide_eq_true_eq] at inside front
      have start : (buf.advance (chunk.maxOff - buf.off)).off = chunk.maxOff := by
        simp only [RangeBuf.advance_off]
        omega
      have shifted : (buf.advance (chunk.maxOff - buf.off)).maxOff = buf.maxOff :=
        RangeBuf.advance_maxOff (by omega)
      apply ScanOutcome.front front.1 front.2 (by omega)
      apply ih
      refine ⟨ordered.2, ?_, ?_⟩
      · intro other member
        have below := ordered.1 other member
        have : other.maxOff = other.off + other.len := rfl
        omega
      · intro other member
        rw [shifted]
        exact filled other (List.mem_cons_of_mem _ member)
    · simp only [gt_iff_lt, Bool.and_eq_true, decide_eq_true_eq] at rear
      have beyond : ∀ other ∈ rest, chunk.off < other.off := by
        intro other member
        have := ordered.1 other member
        omega
      obtain ⟨frontEnd, result⟩ := Scanned.rear rear.1 rear.2 beyond
      have last := scanOverlap_beyond (frontEnd.symm ▸ beyond)
      simp only [last]
      exact .inr ⟨_, _, rfl, result⟩
    · simp only [ge_iff_le, gt_iff_lt, Bool.and_eq_true, decide_eq_true_eq] at inside front rear
      apply ScanOutcome.touch (by omega) (by omega)
      exact ih ⟨ordered.2,
        fun other member => reaching other (List.mem_cons_of_mem _ member),
        fun other member => filled other (List.mem_cons_of_mem _ member)⟩

/-! ## Storing -/

/-- A piece that may be stored: it has unread bytes, or it is the FIN marker at
or beyond everything received. -/
structure Pending (recv : RecvBuf) (buf : RangeBuf) : Prop where
  unread : 0 < buf.len ∧ recv.readOff < buf.maxOff ∨
    buf.len = 0 ∧ (recv.finOff = some buf.off ∧ buf.fin = true) ∧ recv.recvOff ≤ buf.off
  final : ∀ finOff, recv.finOff = some finOff → buf.maxOff ≤ finOff

/-- The fields that storing a buffer leaves alone. -/
structure SameFrame (before after : RecvBuf) : Prop where
  readOff : after.readOff = before.readOff
  finOff : after.finOff = before.finOff
  error : after.error = before.error
  shutdownFlag : after.shutdownFlag = before.shutdownFlag
  flowControl : after.flowControl = before.flowControl

theorem SameFrame.refl (recv : RecvBuf) : SameFrame recv recv := ⟨rfl, rfl, rfl, rfl, rfl⟩

theorem SameFrame.trans {first second third : RecvBuf} (left : SameFrame first second)
    (right : SameFrame second third) : SameFrame first third :=
  ⟨right.1.trans left.1, right.2.trans left.2, right.3.trans left.3, right.4.trans left.4,
    right.5.trans left.5⟩

/-- The effect of storing a buffer, whole or piece by piece. -/
structure Stored (before after : RecvBuf) (buf : RangeBuf) : Prop where
  ordered : after.Ordered
  frame : SameFrame before after
  recvOff : after.recvOff = max before.recvOff buf.maxOff
  holds : before.shutdownFlag = false → ∀ value, before.readOff ≤ value →
    (after.Holds value ↔ before.Holds value ∨ buf.off ≤ value ∧ value < buf.maxOff)
  slices : ∀ stream, buf.SliceOf stream → before.SlicesOf stream → after.SlicesOf stream

variable {recv : RecvBuf}

private theorem Ordered.ascending (ordered : recv.Ordered)
    (final : ∀ finOff, recv.finOff = some finOff → buf.maxOff ≤ finOff) :
    Ascending ((recv.data.rangeFrom buf.off).map (·.2)) buf := by
  have inside : ∀ chunk ∈ (recv.data.rangeFrom buf.off).map (·.2),
      ∃ key, (key, chunk) ∈ recv.data ∧ buf.off ≤ key := by
    intro chunk member
    obtain ⟨entry, present, rfl⟩ := List.mem_map.mp member
    simp only [OrdMap.rangeFrom, List.mem_filter, decide_eq_true_eq] at present
    exact ⟨entry.1, present.1, present.2⟩
  constructor
  · rw [List.pairwise_map]
    refine (recv.data.sorted.filter _).imp_of_mem ?_
    intro left right leftMember rightMember less
    exact ordered.disjoint left (List.mem_of_mem_filter leftMember) right
      (List.mem_of_mem_filter rightMember) less
  · intro chunk member
    obtain ⟨key, present, above⟩ := inside chunk member
    exact above.trans (ordered.keyed _ present).le
  · intro chunk member
    obtain ⟨key, present, _⟩ := inside chunk member
    rcases Nat.eq_zero_or_pos chunk.len with empty | solid
    · have := final _ (ordered.marker _ present empty).1
      simp only [RangeBuf.maxOff, empty] at this ⊢
      exact .inr this
    · exact .inl solid

private theorem Ordered.insert (ordered : recv.Ordered) {kept : RangeBuf}
    (unread : recv.readOff ≤ kept.off)
    (marker : kept.len = 0 → recv.finOff = some kept.maxOff ∧ kept.fin = true)
    (final : ∀ finOff, recv.finOff = some finOff → kept.maxOff ≤ finOff)
    (apart : ∀ entry ∈ recv.data, entry.2.maxOff ≤ kept.off ∨ kept.maxOff ≤ entry.2.off) :
    Ordered { recv with
      recvOff := max recv.recvOff kept.maxOff
      data := if recv.shutdownFlag then recv.data else recv.data.insert kept.maxOff kept } := by
  have members : ∀ entry ∈ (if recv.shutdownFlag then recv.data
      else recv.data.insert kept.maxOff kept), entry = (kept.maxOff, kept) ∨ entry ∈ recv.data := by
    intro entry member
    split_ifs at member
    · exact .inr member
    · exact (OrdMap.mem_insert.mp member).imp_right (·.1)
  constructor
  case keyed =>
    intro entry member
    rcases members entry member with rfl | old
    · rfl
    · exact ordered.keyed entry old
  case disjoint =>
    intro left leftMember right rightMember less
    rcases members left leftMember with rfl | leftOld <;>
      rcases members right rightMember with rfl | rightOld
    · exact absurd less (lt_irrefl _)
    · have keyed := ordered.keyed right rightOld
      have keptEnd : kept.maxOff = kept.off + kept.len := rfl
      have := apart right rightOld
      simp only at less ⊢
      omega
    · have keyed := ordered.keyed left leftOld
      have leftEnd : left.2.maxOff = left.2.off + left.2.len := rfl
      have := apart left leftOld
      simp only at less ⊢
      omega
    · exact ordered.disjoint left leftOld right rightOld less
  case unread =>
    intro entry member
    rcases members entry member with rfl | old
    · exact unread
    · exact ordered.unread entry old
  case received =>
    intro entry member
    rcases members entry member with rfl | old
    · exact le_max_right _ _
    · exact (ordered.received entry old).trans (le_max_left _ _)
  case marker =>
    intro entry member
    rcases members entry member with rfl | old
    · exact marker
    · exact ordered.marker entry old
  case readBound => exact ordered.readBound.trans (le_max_left _ _)
  case finBound =>
    intro finOff known
    exact max_le (ordered.finBound finOff known) (final finOff known)

/-- The receive buffer after a piece was kept by the scan. -/
private abbrev keep (recv : RecvBuf) (kept : RangeBuf) : RecvBuf :=
  { recv with
    recvOff := max recv.recvOff kept.maxOff
    data := if recv.shutdownFlag then recv.data else recv.data.insert kept.maxOff kept }

private theorem keep_holds (ordered : recv.Ordered) {kept : RangeBuf}
    (open_ : recv.shutdownFlag = false)
    (apart : ∀ entry ∈ recv.data, entry.2.maxOff ≤ kept.off ∨ kept.maxOff ≤ entry.2.off)
    (fresh : kept.len = 0 → ∀ entry ∈ recv.data, entry.1 ≠ kept.maxOff) (value : Nat) :
    (keep recv kept).Holds value ↔ recv.Holds value ∨ kept.off ≤ value ∧ value < kept.maxOff := by
  simp only [Holds, open_, Bool.false_eq_true, ↓reduceIte]
  constructor
  · rintro ⟨entry, member, inside⟩
    rcases OrdMap.mem_insert.mp member with rfl | ⟨old, _⟩
    · exact .inr inside
    · exact .inl ⟨entry, old, inside⟩
  · rintro (⟨entry, old, inside⟩ | inside)
    · refine ⟨entry, OrdMap.mem_insert.mpr (.inr ⟨old, ?_⟩), inside⟩
      -- Only an empty marker shares its key with the kept buffer.
      intro same
      have keyed := ordered.keyed entry old
      have keptEnd : kept.maxOff = kept.off + kept.len := rfl
      have filled : 0 < kept.len := by
        rcases Nat.eq_zero_or_pos kept.len with empty | filled
        · exact absurd same (fresh empty entry old)
        · exact filled
      have := apart entry old
      omega
    · exact ⟨(kept.maxOff, kept), OrdMap.mem_insert.mpr (.inl rfl), inside⟩

/-- A round of the loop stores the whole buffer, or leaves one shorter piece whose
storing completes it. -/
def RoundOutcome (recv : RecvBuf) (buf : RangeBuf) (round : RecvBuf × List RangeBuf) : Prop :=
  round.2 = [] ∧ Stored recv round.1 buf ∨
    ∃ piece, round.2 = [piece] ∧ piece.len < buf.len ∧ round.1.Ordered ∧
      round.1.Pending piece ∧ ∀ after, Stored round.1 after piece → Stored recv after buf

section

variable (ordered : recv.Ordered)

include ordered

private theorem keep_outcome {buf kept : RangeBuf}
    {chunks pieces : List RangeBuf} (pending : recv.Pending buf) (unread : recv.readOff ≤ buf.off)
    (stored : ∀ chunk ∈ chunks, ∃ key, (key, chunk) ∈ recv.data)
    (scanned : Scanned chunks buf kept pieces)
    (apart : ∀ entry ∈ recv.data, entry.2.maxOff ≤ kept.off ∨ kept.maxOff ≤ entry.2.off)
    (fresh : kept.len = 0 → ∀ entry ∈ recv.data, entry.1 ≠ kept.maxOff) :
    RoundOutcome recv buf (keep recv kept, pieces) := by
  have lower := scanned.lower
  have upper := scanned.upper
  have keptFinal : ∀ finOff, recv.finOff = some finOff → kept.maxOff ≤ finOff :=
    fun finOff known => upper.trans (pending.final finOff known)
  have keptMarker : kept.len = 0 → recv.finOff = some kept.maxOff ∧ kept.fin = true := by
    intro empty
    rcases pending.unread with ⟨filled, _⟩ | ⟨vacant, known, _⟩
    · exact absurd (scanned.filled filled) (by omega)
    · rw [(scanned.vacant vacant).1, RangeBuf.maxOff, vacant]
      exact known
  have after := ordered.insert (unread.trans lower) keptMarker keptFinal apart
  have keptSlices : ∀ stream, buf.SliceOf stream → recv.SlicesOf stream →
      (keep recv kept).SlicesOf stream := by
    intro stream slice before entry member
    change entry ∈ (if recv.shutdownFlag then recv.data
      else recv.data.insert kept.maxOff kept) at member
    split_ifs at member
    · exact before entry member
    · rcases OrdMap.mem_insert.mp member with rfl | ⟨old, _⟩
      · exact (scanned.slices stream slice).1
      · exact before entry old
  have keptHolds : recv.shutdownFlag = false → ∀ value,
      ((keep recv kept).Holds value ↔ recv.Holds value ∨ kept.off ≤ value ∧ value < kept.maxOff) :=
    fun open_ => keep_holds ordered open_ apart fresh
  have skippedHeld : ∀ value, buf.off ≤ value → value < kept.off → recv.Holds value := by
    intro value low less
    obtain ⟨chunk, member, inside⟩ := scanned.skipped value low less
    obtain ⟨key, present⟩ := stored chunk member
    exact ⟨(key, chunk), present, inside⟩
  rcases scanned.pending with ⟨rfl, complete⟩ | ⟨piece, rfl, pieceOff, pieceEnd, pieceFilled⟩
  · refine .inl ⟨rfl, after, ⟨rfl, rfl, rfl, rfl, rfl⟩, by rw [← complete], ?_, keptSlices⟩
    intro open_ value _
    rw [keptHolds open_]
    constructor
    · rintro (held | inside)
      · exact .inl held
      · exact .inr (by omega)
    · rintro (held | inside)
      · exact .inl held
      · rcases Nat.lt_or_ge value kept.off with less | greater
        · exact .inl (skippedHeld value inside.1 less)
        · exact .inr (by omega)
  · have keptEnd : kept.maxOff = kept.off + kept.len := rfl
    have pieceLen : piece.maxOff = piece.off + piece.len := rfl
    have bufEnd : buf.maxOff = buf.off + buf.len := rfl
    have keptFilled : 0 < kept.len := scanned.filled (by omega)
    refine .inr ⟨piece, rfl, by omega, after, ⟨.inl ⟨pieceFilled, ?_⟩, ?_⟩, ?_⟩
    · simp only
      omega
    · intro finOff known
      exact pieceEnd ▸ pending.final finOff known
    · intro final result
      have frame : SameFrame recv (keep recv kept) := ⟨rfl, rfl, rfl, rfl, rfl⟩
      refine ⟨result.ordered, frame.trans result.frame, ?_, ?_, ?_⟩
      · rw [result.recvOff]
        simp only
        omega
      · intro open_ value above
        rw [result.holds open_ value above, keptHolds open_]
        constructor
        · rintro ((held | inside) | inside)
          · exact .inl held
          · exact .inr (by omega)
          · exact .inr (by omega)
        · rintro (held | inside)
          · exact .inl (.inl held)
          · rcases Nat.lt_or_ge value kept.off with less | greater
            · exact .inl (.inl (skippedHeld value inside.1 less))
            · rcases Nat.lt_or_ge value kept.maxOff with near | far
              · exact .inl (.inr ⟨greater, near⟩)
              · exact .inr (by omega)
      · intro stream slice before
        exact result.slices stream ((scanned.slices stream slice).2 piece (by simp))
          (keptSlices stream slice before)

private theorem store_outcome_unread
    (pending : recv.Pending buf) (unread : recv.readOff ≤ buf.off) :
    RoundOutcome recv buf (recv.store buf) := by
  have bufEnd : buf.maxOff = buf.off + buf.len := rfl
  have trimmed : recv.dropRead buf = buf := if_neg (by omega)
  rw [store, trimmed]
  by_cases overlapping : buf.off < recv.recvOff ∨ buf.len = 0
  · have scanning : recv.scan buf = scanOverlap ((recv.data.rangeFrom buf.off).map (·.2)) buf :=
      if_pos (by simpa [RangeBuf.isEmpty, RangeBuf.len] using overlapping)
    have stored : ∀ chunk ∈ (recv.data.rangeFrom buf.off).map (·.2),
        ∃ key, (key, chunk) ∈ recv.data := by
      intro chunk member
      obtain ⟨entry, present, rfl⟩ := List.mem_map.mp member
      exact ⟨entry.1, List.mem_of_mem_filter present⟩
    rcases scanOverlap_spec (ordered.ascending pending.final) with
      ⟨scanned, covered, last, member, reaches⟩ | ⟨kept, pieces, scanned, result⟩
    · rw [scanning, scanned]
      obtain ⟨key, present⟩ := stored last member
      have known := ordered.received _ present
      refine .inl ⟨rfl, ordered, .refl recv, ?_, ?_, fun _ _ before => before⟩
      · simp only at known ⊢
        omega
      · intro _ value _
        refine ⟨.inl, ?_⟩
        rintro (held | ⟨low, less⟩)
        · exact held
        · obtain ⟨chunk, inside, within⟩ := covered value low less
          obtain ⟨place, present⟩ := stored chunk inside
          exact ⟨(place, chunk), present, within⟩
    · rw [scanning, scanned]
      have lower := result.lower
      refine keep_outcome ordered pending unread stored result ?_ ?_
      · intro entry present
        have keyed := ordered.keyed entry present
        rcases Nat.lt_or_ge entry.1 buf.off with less | greater
        · exact .inl (by omega)
        · apply result.apart entry.2
          refine List.mem_map.mpr ⟨entry, ?_, rfl⟩
          simpa [OrdMap.rangeFrom] using ⟨present, greater⟩
      · intro empty entry present same
        have vacant : buf.len = 0 := by
          by_contra filled
          have := result.filled (by omega)
          omega
        obtain ⟨rfl, beyond⟩ := result.vacant vacant
        have keyed := ordered.keyed entry present
        have entryEnd : entry.2.maxOff = entry.2.off + entry.2.len := rfl
        have := beyond entry.2 (List.mem_map.mpr ⟨entry, by
          simpa [OrdMap.rangeFrom] using ⟨present, by omega⟩, rfl⟩)
        omega
  · have scanning : recv.scan buf = (some buf, []) :=
      if_neg (by simpa [RangeBuf.isEmpty, RangeBuf.len] using overlapping)
    rw [scanning]
    have apart : ∀ entry ∈ recv.data, entry.2.maxOff ≤ buf.off ∨ buf.maxOff ≤ entry.2.off :=
      fun entry present => .inl (by have := ordered.received entry present; omega)
    have whole : Scanned [] buf buf [] := .whole (by simp) (by simp)
    exact keep_outcome ordered pending unread (by simp) whole apart (fun empty => by omega)

/-- One round of the loop of `write`, with one case for each way to store a piece. -/
theorem store_outcome (pending : recv.Pending buf) : RoundOutcome recv buf (recv.store buf) := by
  rcases Nat.lt_or_ge buf.off recv.readOff with consumed | unread
  · -- The bytes below the read offset are dropped before the scan.
    have bufEnd : buf.maxOff = buf.off + buf.len := rfl
    have bounded : recv.readOff - buf.off ≤ buf.len := by
      rcases pending.unread with ⟨_, above⟩ | ⟨_, _, above⟩
      · omega
      · have := ordered.readBound
        omega
    have shifted := RangeBuf.advance_maxOff bounded
    have start : (buf.advance (recv.readOff - buf.off)).off = recv.readOff := by
      simp only [RangeBuf.advance_off]
      omega
    have remaining : (buf.advance (recv.readOff - buf.off)).len =
        buf.len - (recv.readOff - buf.off) := RangeBuf.advance_len _ _
    have advanced : recv.Pending (buf.advance (recv.readOff - buf.off)) := by
      refine ⟨?_, shifted ▸ pending.final⟩
      rcases pending.unread with ⟨filled, above⟩ | ⟨vacant, _, above⟩
      · exact .inl ⟨by omega, shifted ▸ above⟩
      · have := ordered.readBound
        omega
    have widen : ∀ after, Stored recv after (buf.advance (recv.readOff - buf.off)) →
        Stored recv after buf := by
      intro after result
      refine ⟨result.ordered, result.frame, shifted ▸ result.recvOff, ?_, ?_⟩
      · intro open_ value above
        rw [result.holds open_ value above, shifted, start]
        constructor
        · rintro (held | inside)
          · exact .inl held
          · exact .inr (by omega)
        · rintro (held | inside)
          · exact .inl held
          · exact .inr (by omega)
      · exact fun stream slice => result.slices stream (slice.advance _)
    have same : recv.store buf = recv.store (buf.advance (recv.readOff - buf.off)) := by
      have first : recv.dropRead buf = buf.advance (recv.readOff - buf.off) := if_pos consumed
      have again : recv.dropRead (buf.advance (recv.readOff - buf.off)) =
          buf.advance (recv.readOff - buf.off) := if_neg (by omega)
      rw [store, store, first, again]
    rw [same]
    rcases store_outcome_unread ordered advanced start.ge with
      ⟨finished, result⟩ | ⟨piece, queued, shorter, kept, next, compose⟩
    · exact .inl ⟨finished, widen _ result⟩
    · exact .inr ⟨piece, queued, by omega, kept, next, fun after result => widen _ (compose after result)⟩
  · exact store_outcome_unread ordered pending unread

theorem storeLoop_stored {fuel : Nat} (pending : recv.Pending buf) (enough : buf.len < fuel) :
    Stored recv (recv.storeLoop fuel [buf]) buf := by
  induction fuel generalizing recv buf with
  | zero => omega
  | succ fuel ih =>
    rw [storeLoop]
    rcases store_outcome ordered pending with
      ⟨finished, result⟩ | ⟨piece, queued, shorter, kept, next, compose⟩
    · rw [finished]
      cases fuel with
      | zero => exact result
      | succ fuel => exact result
    · rw [queued]
      exact compose _ (ih kept next (by omega))

end

/-! ## Writing -/

structure Written (before after : RecvBuf) (offset : Nat) (data : Bytes) (fin : Bool) :
    Prop where
  ordered : after.Ordered
  readOff : after.readOff = before.readOff
  error : after.error = before.error
  shutdownFlag : after.shutdownFlag = before.shutdownFlag
  flowControl : after.flowControl = before.flowControl
  finOff : after.finOff = if fin then some (offset + data.length) else before.finOff
  -- An empty frame without FIN is ignored.
  recvOff : after.recvOff = if data = [] ∧ fin = false then before.recvOff
    else max before.recvOff (offset + data.length)
  allowed : offset + data.length ≤ before.maxData
  final : ∀ finOff, before.finOff = some finOff → offset + data.length ≤ finOff
  holds : before.shutdownFlag = false → ∀ value, before.readOff ≤ value →
    (after.Holds value ↔ before.Holds value ∨ offset ≤ value ∧ value < offset + data.length)
  slices : ∀ stream, data <+: stream.drop offset → before.SlicesOf stream → after.SlicesOf stream

/-- What the checks of `write` guarantee once they have passed. -/
structure Accepted (recv : RecvBuf) (buf : RangeBuf) : Prop where
  allowed : buf.maxOff ≤ recv.maxData
  final : ∀ finOff, recv.finOff = some finOff → buf.maxOff ≤ finOff
  same : buf.fin = true → ∀ finOff, recv.finOff = some finOff → finOff = buf.maxOff
  bound : buf.fin = true → recv.recvOff ≤ buf.maxOff

/-- A successful write passed the checks, and either ends early or runs the loop. -/
theorem write_cases {recv after : RecvBuf} {offset : Nat} {data : Bytes} {fin : Bool}
    (written : recv.write offset data fin = .ok after) :
    Accepted recv ⟨data, offset, fin⟩ ∧
      (recv.finOff = some recv.readOff ∧ after = recv ∨
        data = [] ∧ fin = false ∧ after = recv ∨
        data ≠ [] ∧ offset + data.length ≤ recv.readOff ∧
          after = recv.recordFin ⟨data, offset, fin⟩ ∨
        (data = [] ∧ fin = true ∨ data ≠ [] ∧ recv.readOff < offset + data.length) ∧
          after = (recv.recordFin ⟨data, offset, fin⟩).storeLoop (data.length + 1)
            [⟨data, offset, fin⟩]) := by
  have frame : (recv.recordFin ⟨data, offset, fin⟩).readOff = recv.readOff := by
    rw [recordFin]
    split <;> rfl
  simp only [write, frame] at written
  split_ifs at written with credit beyond mismatch early finished ignored stale
  all_goals
    have accepted : Accepted recv ⟨data, offset, fin⟩ := by
      constructor
      · exact Nat.le_of_not_lt credit
      · intro finOff known
        simpa [known] using beyond
      · intro final finOff known
        have unequal : fin = true → finOff = (RangeBuf.mk data offset fin).maxOff := by
          simpa [known] using mismatch
        exact unequal final
      · intro final
        have late : fin = true → recv.recvOff ≤ (RangeBuf.mk data offset fin).maxOff := by
          simpa using early
        exact late final
    refine ⟨accepted, ?_⟩
    obtain rfl := Except.ok.inj written
  · exact .inl ⟨of_decide_eq_true finished, rfl⟩
  · simp only [Bool.and_eq_true, Bool.not_eq_eq_eq_not, Bool.not_true] at ignored
    refine .inr (.inl ⟨List.length_eq_zero_iff.mp (RangeBuf.isEmpty_iff.mp ignored.2), ignored.1, ?_⟩)
    exact if_neg (by simp [ignored.1])
  · simp only [ge_iff_le, Bool.and_eq_true, decide_eq_true_eq, Bool.not_eq_eq_eq_not,
      Bool.not_true] at stale
    refine .inr (.inr (.inl ⟨?_, stale.1, rfl⟩))
    rintro rfl
    cases stale.2
  · refine .inr (.inr (.inr ⟨?_, rfl⟩))
    by_cases empty : data = []
    · subst empty
      refine .inl ⟨rfl, ?_⟩
      simpa [RangeBuf.isEmpty] using ignored
    · refine .inr ⟨empty, ?_⟩
      have unread : (RangeBuf.mk data offset fin).maxOff ≤ recv.readOff → data = [] := by
        simpa [RangeBuf.isEmpty] using stale
      exact Nat.lt_of_not_le fun le => empty (unread le)

private theorem recordFin_eq (recv : RecvBuf) (buf : RangeBuf) :
    recv.recordFin buf =
      { recv with finOff := if buf.fin then some buf.maxOff else recv.finOff } := by
  rw [recordFin]
  split <;> rfl

private theorem Ordered.recordFin (ordered : recv.Ordered)
    (accepted : Accepted recv buf) : (recv.recordFin buf).Ordered := by
  rw [RecvBuf.recordFin]
  split
  case isFalse => exact ordered
  case isTrue final =>
    refine { ordered with marker := ?_, finBound := ?_ }
    · intro entry member empty
      have known := ordered.marker entry member empty
      exact ⟨by rw [accepted.same final _ known.1], known.2⟩
    · intro finOff known
      cases known
      exact accepted.bound final

/-- What a write that succeeds does to the buffer. -/
theorem write_spec {recv after : RecvBuf} {offset : Nat} {data : Bytes} {fin : Bool}
    (ordered : recv.Ordered) (written : recv.write offset data fin = .ok after) :
    Written recv after offset data fin := by
  obtain ⟨accepted, outcome⟩ := write_cases written
  have recorded := ordered.recordFin accepted
  have dataLen : data = [] ↔ data.length = 0 := List.length_eq_zero_iff.symm
  have readBound := ordered.readBound
  have allowed : offset + data.length ≤ recv.maxData := accepted.allowed
  have final : ∀ finOff, recv.finOff = some finOff → offset + data.length ≤ finOff := accepted.final
  have same : fin = true → ∀ finOff, recv.finOff = some finOff → finOff = offset + data.length :=
    accepted.same
  have bound : fin = true → recv.recvOff ≤ offset + data.length := accepted.bound
  rw [recordFin_eq] at outcome recorded
  rcases outcome with ⟨finished, rfl⟩ | ⟨empty, unmarked, rfl⟩ | ⟨filled, stale, rfl⟩ |
    ⟨stores, rfl⟩
  · -- Everything up to the final size was read before.
    have full := ordered.finBound _ finished
    have within := final _ finished
    refine ⟨ordered, rfl, rfl, rfl, rfl, ?_, ?_, allowed, final, ?_, fun _ _ before => before⟩
    · cases fin with
      | false => rfl
      | true => rw [if_pos rfl, finished, same rfl _ finished]
    · split_ifs <;> omega
    · intro _ value above
      exact ⟨.inl, fun held => held.elim id (fun inside => by omega)⟩
  · refine ⟨ordered, rfl, rfl, rfl, rfl, by rw [unmarked]; rfl, ?_, allowed, final, ?_,
      fun _ _ before => before⟩
    · rw [if_pos ⟨empty, unmarked⟩]
    · intro _ value above
      exact ⟨.inl, fun held => held.elim id (fun inside => by have := dataLen.mp empty; omega)⟩
  · refine ⟨recorded, rfl, rfl, rfl, rfl, rfl, ?_, allowed, final, ?_, fun _ _ before => before⟩
    · have kept := max_eq_left (stale.trans readBound)
      exact kept.symm.trans (if_neg (fun ignored => filled ignored.1)).symm
    · intro _ value above
      exact ⟨.inl, fun held => held.elim id (fun inside => by omega)⟩
  · have pending : Pending { recv with
        finOff := if fin then some (offset + data.length) else recv.finOff }
        ⟨data, offset, fin⟩ := by
      constructor
      · rcases stores with ⟨empty, marked⟩ | ⟨filled, unread⟩
        · have len := dataLen.mp empty
          refine .inr ⟨len, ⟨?_, marked⟩, ?_⟩
          · rw [marked, if_pos rfl, len]
            rfl
          · have := bound marked
            rw [len] at this
            exact this
        · exact .inl ⟨List.length_pos_of_ne_nil filled, unread⟩
      · intro finOff known
        cases fin with
        | false => exact final finOff known
        | true =>
          cases known
          exact le_refl _
    have result := storeLoop_stored recorded pending (Nat.lt_succ_self _)
    refine ⟨result.ordered, result.frame.readOff, result.frame.error, result.frame.shutdownFlag,
      result.frame.flowControl, result.frame.finOff, ?_, allowed, final, result.holds,
      result.slices⟩
    refine result.recvOff.trans (if_neg ?_).symm
    rintro ⟨empty, unmarked⟩
    rcases stores with ⟨_, marked⟩ | ⟨filled, _⟩
    · exact absurd (marked.symm.trans unmarked) (by simp)
    · exact filled empty

/-! ## Reading -/

def weight (recv : RecvBuf) : Nat := recv.data.total (fun entry => entry.2.len + 1)

/-- The effect of copying bytes out of the front of the buffer. -/
structure Copied (before after : RecvBuf) (bytes : Bytes) : Prop where
  ordered : after.Ordered
  recvOff : after.recvOff = before.recvOff
  finOff : after.finOff = before.finOff
  error : after.error = before.error
  shutdownFlag : after.shutdownFlag = before.shutdownFlag
  flowControl : after.flowControl = before.flowControl
  readOff : after.readOff = before.readOff + bytes.length
  held : ∀ value, before.readOff ≤ value → value < after.readOff → before.Holds value
  holds : ∀ value, after.readOff ≤ value → (after.Holds value ↔ before.Holds value)
  slices : ∀ stream, before.SlicesOf stream →
    bytes <+: stream.drop before.readOff ∧ after.SlicesOf stream

theorem Copied.refl (ordered : recv.Ordered) : Copied recv recv [] where
  ordered := ordered
  recvOff := rfl
  finOff := rfl
  error := rfl
  shutdownFlag := rfl
  flowControl := rfl
  readOff := rfl
  held value low less := absurd low (by omega)
  holds _ _ := Iff.rfl
  slices _ slices := ⟨List.nil_prefix, slices⟩

theorem Copied.trans {first second third : RecvBuf} {left right : Bytes}
    (former : Copied first second left) (latter : Copied second third right) :
    Copied first third (left ++ right) where
  ordered := latter.ordered
  recvOff := latter.recvOff.trans former.recvOff
  finOff := latter.finOff.trans former.finOff
  error := latter.error.trans former.error
  shutdownFlag := latter.shutdownFlag.trans former.shutdownFlag
  flowControl := latter.flowControl.trans former.flowControl
  readOff := by
    rw [latter.readOff, former.readOff, List.length_append]
    omega
  held value low less := by
    rcases Nat.lt_or_ge value second.readOff with near | far
    · exact former.held value low near
    · exact (former.holds value far).mp (latter.held value far less)
  holds value above := by
    have := latter.readOff
    rw [latter.holds value above, former.holds value (by omega)]
  slices stream slices := by
    obtain ⟨prior, kept⟩ := former.slices stream slices
    obtain ⟨later, rest⟩ := latter.slices stream kept
    exact ⟨RangeBuf.slice_append prior (former.readOff ▸ later), rest⟩

private theorem Ordered.copy (ordered : recv.Ordered) {key : Nat}
    (count : Nat) (rest : OrdMap Nat RangeBuf) (found : recv.data.first? = some (key, buf))
    (start : buf.off = recv.readOff) (bounded : count ≤ buf.len) (members : ∀ entry, entry ∈ rest ↔
      count < buf.len ∧ entry = (key, buf.advance count) ∨ entry ∈ recv.data ∧ entry.1 ≠ key) :
    Copied recv { recv with readOff := recv.readOff + count, data := rest }
      (buf.data.take count) := by
  have member := OrdMap.first?_mem found
  have bufEnd : buf.maxOff = buf.off + buf.len := rfl
  have keyed : key = buf.maxOff := ordered.keyed _ member
  have shifted := RangeBuf.advance_maxOff bounded
  have later : ∀ entry ∈ recv.data, entry.1 ≠ key → key < entry.1 := fun entry present other =>
    lt_of_le_of_ne (OrdMap.first?_le found present) other.symm
  have beyond : ∀ entry ∈ recv.data, entry.1 ≠ key → buf.maxOff ≤ entry.2.off :=
    fun entry present other => ordered.disjoint _ member entry present (later entry present other)
  have taken : (buf.data.take count).length = count := List.length_take_of_le bounded
  constructor
  case ordered =>
    constructor
    case keyed =>
      intro entry present
      rcases (members entry).mp present with ⟨_, rfl⟩ | ⟨old, _⟩
      · exact keyed.trans shifted.symm
      · exact ordered.keyed entry old
    case disjoint =>
      intro left leftMember right rightMember less
      rcases (members left).mp leftMember with ⟨_, rfl⟩ | ⟨leftOld, leftKey⟩ <;>
        rcases (members right).mp rightMember with ⟨_, rfl⟩ | ⟨rightOld, rightKey⟩
      · exact absurd less (lt_irrefl _)
      · exact shifted ▸ beyond right rightOld rightKey
      · exact absurd less (lt_asymm (later left leftOld leftKey))
      · exact ordered.disjoint left leftOld right rightOld less
    case unread =>
      intro entry present
      rcases (members entry).mp present with ⟨_, rfl⟩ | ⟨old, other⟩
      · simp only [RangeBuf.advance_off, start, le_refl]
      · have := beyond entry old other
        simp only
        omega
    case received =>
      intro entry present
      rcases (members entry).mp present with ⟨_, rfl⟩ | ⟨old, _⟩
      · exact shifted ▸ ordered.received _ member
      · exact ordered.received entry old
    case marker =>
      intro entry present empty
      rcases (members entry).mp present with ⟨less, rfl⟩ | ⟨old, _⟩
      · simp only [RangeBuf.advance_len] at empty
        omega
      · exact ordered.marker entry old empty
    case readBound =>
      have := ordered.received _ member
      simp only at this ⊢
      omega
    case finBound => exact ordered.finBound
  case readOff => rw [taken]
  case held =>
    intro value low less
    simp only at less
    exact ⟨_, member, by simp only; omega, by simp only; omega⟩
  case holds =>
    intro value above
    simp only at above
    constructor
    · rintro ⟨entry, present, inside⟩
      rcases (members entry).mp present with ⟨_, rfl⟩ | ⟨old, _⟩
      · refine ⟨_, member, ?_, ?_⟩
        · simp only
          omega
        · exact shifted ▸ inside.2
      · exact ⟨entry, old, inside⟩
    · rintro ⟨entry, old, inside⟩
      by_cases same : entry.1 = key
      · obtain rfl := OrdMap.mem_unique old member same
        simp only at inside
        refine ⟨_, (members _).mpr (.inl ⟨by omega, rfl⟩), ?_, ?_⟩
        · simp only [RangeBuf.advance_off]
          omega
        · simp only [shifted]
          omega
      · exact ⟨entry, (members entry).mpr (.inr ⟨old, same⟩), inside⟩
  case slices =>
    intro stream slices
    have slice := slices _ member
    refine ⟨start ▸ (List.take_prefix count buf.data).trans slice, ?_⟩
    intro entry present
    rcases (members entry).mp present with ⟨_, rfl⟩ | ⟨old, _⟩
    · exact slice.advance count
    · exact slices entry old
  all_goals rfl

theorem ready_iff : recv.ready = true ↔
    ∃ key buf, recv.data.first? = some (key, buf) ∧ buf.off = recv.readOff := by
  rw [ready]
  cases found : recv.data.first? with
  | none => simp
  | some entry => simp [Prod.ext_iff]

/-- What is left after the copying loop: the output is full or nothing is ready,
and a round that copied from a chunk made the buffer lighter. -/
structure Drained (before after : RecvBuf) (cap : Nat) (bytes : Bytes) : Prop where
  copied : Copied before after bytes
  bounded : bytes.length ≤ cap
  exhausted : bytes.length = cap ∨ after.ready = false
  weight : after.weight ≤ before.weight
  lighter : cap = 0 ∨ before.ready = false ∨ after.weight < before.weight

section

variable (ordered : recv.Ordered)

include ordered

theorem Drained.refl {cap : Nat}
    (idle : cap = 0 ∨ recv.ready = false) : Drained recv recv cap [] where
  copied := .refl ordered
  bounded := Nat.zero_le cap
  exhausted := idle.imp_left Eq.symm
  weight := le_refl _
  lighter := idle.imp_right .inl

/-- The loop of `read` drains the front of the buffer. -/
theorem readLoop_spec {fuel : Nat} (cap : Nat) (out : Bytes) (enough : recv.data.size ≤ fuel) :
    ∃ bytes, (recv.readLoop fuel cap out).2 = out ++ bytes ∧
      Drained recv (recv.readLoop fuel cap out).1 cap bytes := by
  induction fuel generalizing recv cap out with
  | zero =>
    have idle : recv.ready = false := by
      rw [← Bool.not_eq_true, ready_iff]
      rintro ⟨key, buf, found, _⟩
      have := OrdMap.size_erase_lt (OrdMap.first?_mem found)
      omega
    exact ⟨[], (List.append_nil out).symm, .refl ordered (.inr idle)⟩
  | succ fuel ih =>
    rw [readLoop]
    split_ifs with idle
    · refine ⟨[], (List.append_nil out).symm, .refl ordered ?_⟩
      simpa using idle
    · simp only [Bool.or_eq_true, decide_eq_true_eq, Bool.not_eq_eq_eq_not, Bool.not_true,
        not_or, Bool.not_eq_false] at idle
      obtain ⟨key, buf, found, start⟩ := ready_iff.mp idle.2
      have present := OrdMap.get?_eq_some_iff.mpr (OrdMap.first?_mem found)
      have taken : (buf.data.take (min buf.len cap)).length = min buf.len cap :=
        List.length_take_of_le (Nat.min_le_left _ _)
      simp only [found]
      split_ifs with some_left
      · have step := ordered.copy (min buf.len cap)
          (recv.data.insert key (buf.advance (min buf.len cap))) found start
          (Nat.min_le_left _ _) (by simp [some_left])
        have replaced := OrdMap.total_insert (fun entry => entry.2.len + 1)
          (buf.advance (min buf.len cap)) present
        simp only [RangeBuf.advance_len] at replaced
        refine ⟨_, rfl, step, by omega, .inl (by omega), ?_, .inr (.inr ?_)⟩ <;>
          simp only [weight] <;> omega
      · have step := ordered.copy (min buf.len cap) (recv.data.erase key) found start
          (Nat.min_le_left _ _) (by simp [some_left])
        have fewer := OrdMap.size_erase_lt (OrdMap.first?_mem found)
        obtain ⟨bytes, output, drained⟩ := ih step.ordered (cap - min buf.len cap)
          (out ++ buf.data.take (min buf.len cap)) (by simp only at fewer ⊢; omega)
        have removed := OrdMap.total_erase (fun entry => entry.2.len + 1) present
        have lighter := drained.weight
        have bounded := drained.bounded
        simp only [weight] at lighter removed
        refine ⟨_, output.trans (List.append_assoc _ _ _), step.trans drained.copied, ?_, ?_, ?_, ?_⟩
        · rw [List.length_append, taken]
          omega
        · rw [List.length_append, taken]
          exact drained.exhausted.imp_left (by omega)
        · simp only [weight]
          omega
        · simp only [weight]
          omega

theorem read_cases (outLen : Nat) :
    recv.ready = false ∧ recv.read outLen = (.error .done, recv) ∨
    (∃ errorCode, recv.ready = true ∧ recv.error = some errorCode ∧
      recv.read outLen = (.error (.streamReset errorCode), { recv with data := ∅ })) ∨
    recv.ready = true ∧ recv.error = none ∧ ∃ bytes after, Drained recv after outLen bytes ∧
      recv.read outLen = (.ok (bytes, after.isFin),
        { after with flowControl := after.flowControl.increaseReadOff bytes.length }) := by
  rw [read]
  cases idle : recv.ready with
  | false => exact .inl ⟨rfl, rfl⟩
  | true =>
    refine .inr ?_
    cases failed : recv.error with
    | some errorCode => exact .inl ⟨errorCode, rfl, rfl, rfl⟩
    | none =>
      obtain ⟨bytes, output, drained⟩ := readLoop_spec ordered outLen [] (le_refl _)
      refine .inr ⟨rfl, rfl, bytes, _, drained, ?_⟩
      rw [List.nil_append] at output
      simp only [Bool.not_true, Bool.false_eq_true, ↓reduceIte, output]
      rfl

theorem Ordered.adjustFlowControl
    (control : FlowControl) : Ordered { recv with flowControl := control } :=
  { ordered with }

theorem Ordered.clear (error : Option Nat) : Ordered { recv with data := ∅, error } :=
  { ordered with
    keyed := by simp
    disjoint := by simp
    unread := by simp
    received := by simp
    marker := by simp }

end

theorem new_ordered (maxData maxWindow : Nat) : (RecvBuf.new maxData maxWindow).Ordered := by
  constructor <;> simp [RecvBuf.new]

end RecvBuf

end Tquic.Connection
