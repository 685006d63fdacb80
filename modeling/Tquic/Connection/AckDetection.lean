import Tquic.Connection.RecoveryRun

/-! Which packets an ACK frame marks. The ranges of the frame and the queue of sent packets are both
in ascending order, and one pass over them finds every packet that the frame covers. -/

set_option autoImplicit false

namespace Tquic.Connection

open Lib

variable {φ : Type}

namespace Recovery

/-- The queue is in the order of the packet numbers. -/
def Ascending (sent : List (SentPacket φ)) : Prop :=
  sent.Pairwise fun left right => left.pktNum ≤ right.pktNum

instance (sent : List (SentPacket φ)) : Decidable (Ascending sent) :=
  inferInstanceAs (Decidable (List.Pairwise _ _))

def newlyCovered (ranges : List Range) (pkt : SentPacket φ) : Bool :=
  pkt.timeAcked.isNone &&
    ranges.any fun range => decide (range.start ≤ pkt.pktNum) && decide (pkt.pktNum < range.stop)

def markCovered (now : Instant) (ranges : List Range) (pkt : SentPacket φ) : SentPacket φ :=
  if newlyCovered ranges pkt then markAcked now pkt else pkt

variable {ranges : List Range} {pkt : SentPacket φ}

theorem newlyCovered_iff :
    newlyCovered ranges pkt = true ↔ Acknowledgeable (Within ranges) pkt := by
  simp only [newlyCovered, Bool.and_eq_true, Option.isNone_iff_eq_none, List.any_eq_true,
    decide_eq_true_eq]
  exact Iff.rfl

theorem newlyCovered_acked
    (acked : pkt.timeAcked.isSome = true) : newlyCovered ranges pkt = false := by
  rw [newlyCovered, Option.isNone_eq_false_iff.mpr acked, Bool.false_and]

theorem newlyCovered_outside {ranges : List Range} {pkt : SentPacket φ}
    (outside : ∀ range ∈ ranges, pkt.pktNum < range.start ∨ range.stop ≤ pkt.pktNum) :
    newlyCovered ranges pkt = false := by
  rw [Bool.eq_false_iff]
  intro covered
  obtain ⟨_, range, member, lower, upper⟩ := newlyCovered_iff.mp covered
  have := outside range member
  omega

theorem newlyCovered_cons (range : Range) (ranges : List Range) (pkt : SentPacket φ) :
    newlyCovered (range :: ranges) pkt = (newlyCovered [range] pkt || newlyCovered ranges pkt) := by
  simp only [newlyCovered, List.any_cons, List.any_nil, Bool.or_false, Bool.and_or_distrib_left]

/-- What the loop for one range does to a queue in ascending order: it marks the covered packets in
the part that it passes, and the packets that are left lie beyond the range. -/
theorem sentPktLoop_exact (now : Instant) {range : Range} (filled : range.start < range.stop)
    (scan : AckScan φ) {sent : List (SentPacket φ)} (ascending : Ascending sent) :
    ∃ passed rest,
      sent = passed ++ rest ∧
      (∀ pkt ∈ passed, pkt.timeAcked = none → pkt.pktNum < range.stop) ∧
      (∀ pkt ∈ rest, range.stop ≤ pkt.pktNum) ∧
      sentPktLoop now range scan sent =
        (passed.map (markCovered now [range]), rest,
          scan.ackAll (passed.filter (newlyCovered [range])) now) := by
  induction sent generalizing scan with
  | nil =>
    refine ⟨[], [], rfl, ?_, ?_, rfl⟩
    · exact List.forall_mem_nil _
    · exact List.forall_mem_nil _
  | cons pkt later ih =>
    obtain ⟨least, sorted⟩ := List.pairwise_cons.mp ascending
    rw [sentPktLoop]
    split
    case isTrue skipped =>
      obtain ⟨passed, rest, parts, below, beyond, result⟩ := ih scan sorted
      have uncovered : newlyCovered [range] pkt = false := by
        rcases (Bool.or_eq_true _ _).mp skipped with early | acked
        · refine newlyCovered_outside fun other member => .inl ?_
          rw [List.mem_singleton.mp member]
          exact of_decide_eq_true early
        · exact newlyCovered_acked acked
      refine ⟨pkt :: passed, rest, congrArg (pkt :: ·) parts, ?_, beyond, ?_⟩
      · intro other member unacked
        rcases List.mem_cons.mp member with rfl | further
        · rcases (Bool.or_eq_true _ _).mp skipped with early | acked
          · exact (of_decide_eq_true early).trans filled
          · rw [unacked] at acked
            cases acked
        · exact below other further unacked
      · rw [result, List.map_cons, markCovered, uncovered, List.filter_cons, uncovered]
        rfl
    case isFalse waiting =>
      simp only [Bool.or_eq_true, decide_eq_true_eq, not_or, Option.not_isSome_iff_eq_none]
        at waiting
      split
      case isTrue above =>
        refine ⟨[], pkt :: later, rfl, List.forall_mem_nil _, ?_, rfl⟩
        intro other member
        rcases List.mem_cons.mp member with rfl | further
        · exact above
        · exact Nat.le_trans above (least other further)
      case isFalse inside =>
        obtain ⟨passed, rest, parts, below, beyond, result⟩ := ih (scan.ack pkt now) sorted
        have covered : newlyCovered [range] pkt = true := by
          refine newlyCovered_iff.mpr ⟨waiting.2, range, List.mem_singleton_self _, ?_⟩
          omega
        refine ⟨pkt :: passed, rest, congrArg (pkt :: ·) parts, ?_, beyond, ?_⟩
        · intro other member unacked
          rcases List.mem_cons.mp member with rfl | further
          · omega
          · exact below other further unacked
        · rw [result, List.map_cons, markCovered, covered, List.filter_cons, covered]
          rfl

private theorem rangesLoop_exact (now : Instant) (scan : AckScan φ)
    (apart : ranges.Pairwise fun left right => left.stop < right.start)
    (filled : ∀ range ∈ ranges, range.start < range.stop) {sent : List (SentPacket φ)}
    (ascending : Ascending sent) :
    rangesLoop now scan ranges sent =
      (sent.map (markCovered now ranges), scan.ackAll (sent.filter (newlyCovered ranges)) now) := by
  induction ranges generalizing scan sent with
  | nil =>
    have none : ∀ pkt : SentPacket φ, newlyCovered [] pkt = false := by
      intro pkt
      rw [newlyCovered, List.any_nil, Bool.and_false]
    have same : ∀ pkt : SentPacket φ, markCovered now [] pkt = pkt := by
      intro pkt
      rw [markCovered, none]
      rfl
    rw [rangesLoop, List.map_congr_left fun pkt _ => same pkt, List.map_id',
      List.filter_congr fun pkt _ => none pkt, List.filter_false]
    rfl
  | cons range ranges ih =>
    obtain ⟨before, apart⟩ := List.pairwise_cons.mp apart
    obtain ⟨passed, rest, rfl, below, beyond, first⟩ :=
      sentPktLoop_exact now (filled range List.mem_cons_self) scan ascending
    have former : ∀ pkt ∈ passed, newlyCovered (range :: ranges) pkt = newlyCovered [range] pkt := by
      intro pkt member
      rw [newlyCovered_cons]
      cases acked : pkt.timeAcked with
      | some time =>
        have seen : pkt.timeAcked.isSome = true := by rw [acked]; rfl
        rw [newlyCovered_acked seen, newlyCovered_acked seen, Bool.or_false]
      | none =>
        have ahead := below pkt member acked
        rw [@newlyCovered_outside _ ranges pkt fun other later =>
          .inl (ahead.trans (before other later)), Bool.or_false]
    have latter : ∀ pkt ∈ rest, newlyCovered (range :: ranges) pkt = newlyCovered ranges pkt := by
      intro pkt member
      rw [newlyCovered_cons, @newlyCovered_outside _ [range] pkt fun other only => ?_, Bool.false_or]
      rw [List.mem_singleton.mp only]
      exact .inr (beyond pkt member)
    have second := ih (scan.ackAll (passed.filter (newlyCovered [range])) now) apart
      (fun other member => filled other (List.mem_cons_of_mem _ member))
      (List.pairwise_append.mp ascending).2.1
    have marked : passed.map (markCovered now [range]) =
        passed.map (markCovered now (range :: ranges)) := by
      refine List.map_congr_left fun pkt member => ?_
      rw [markCovered, markCovered, former pkt member]
    have kept : rest.map (markCovered now ranges) = rest.map (markCovered now (range :: ranges)) := by
      refine List.map_congr_left fun pkt member => ?_
      rw [markCovered, markCovered, latter pkt member]
    have chosen : (passed ++ rest).filter (newlyCovered (range :: ranges)) =
        passed.filter (newlyCovered [range]) ++ rest.filter (newlyCovered ranges) := by
      rw [List.filter_append, List.filter_congr former, List.filter_congr latter]
    rw [rangesLoop, first, second, marked, kept, ← List.map_append, chosen, AckScan.ackAll,
      AckScan.ackAll, AckScan.ackAll, List.foldl_append]

/-! ## The packets that are reported -/

private theorem markCovered_pktNum (now : Instant) (ranges : List Range) (pkt : SentPacket φ) :
    (markCovered now ranges pkt).pktNum = pkt.pktNum := by
  rw [markCovered]
  split <;> rfl

theorem map_markCovered_pktNum (now : Instant) (ranges : List Range) (sent : List (SentPacket φ)) :
    (sent.map (markCovered now ranges)).map (·.pktNum) = sent.map (·.pktNum) := by
  rw [List.map_map]
  exact List.map_congr_left fun pkt _ => markCovered_pktNum now ranges pkt

def report (now : Instant) (pkt : SentPacket φ) : AckedPacket :=
  ⟨pkt.pktNum, pkt.timeSent, saturatingDurationSince now pkt.timeSent⟩

theorem AckScan.ackAll_newlyAcked (scan : AckScan φ) (pkts : List (SentPacket φ)) (now : Instant) :
    (scan.ackAll pkts now).newlyAcked = scan.newlyAcked ++ pkts.map (report now) := by
  induction pkts generalizing scan with
  | nil => exact (List.append_nil _).symm
  | cons pkt rest ih =>
    refine (ih (scan.ack pkt now)).trans ?_
    rw [List.map_cons, List.append_cons]
    rfl

theorem newlyCovered_iter {ranges : RangeSet} :
    newlyCovered ranges.iter pkt = true ↔ pkt.pktNum ∈ ranges ∧ pkt.timeAcked = none := by
  rw [newlyCovered_iff, RangeSet.mem_iff_range, and_comm]
  exact Iff.rfl

private theorem Ascending.of_pktNums {sent marked : List (SentPacket φ)}
    (same : marked.map (·.pktNum) = sent.map (·.pktNum)) (ascending : Ascending sent) :
    Ascending marked := by
  have numbers : (sent.map (·.pktNum)).Pairwise (· ≤ ·) := List.pairwise_map.mpr ascending
  rw [← same] at numbers
  exact List.pairwise_map.mp numbers

theorem detectAckedPackets_eq (recovery : Recovery) (ranges : RangeSet) {space : PacketNumSpace φ}
    (now : Instant) (ascending : Ascending space.sent) :
    (recovery.detectAckedPackets ranges space now).2.2.sent =
        space.sent.map (markCovered now ranges.iter) ∧
      (recovery.detectAckedPackets ranges space now).1.1 =
        (space.sent.filter (newlyCovered ranges.iter)).map (report now) := by
  have loop := rangesLoop_exact now
    ⟨recovery.toInFlight, space.toInFlight, space.acked, [], 0, now, false⟩ ranges.iter_pairwise
    (fun range member => RangeSet.iter_nonempty member) ascending
  rw [detectAckedPackets, loop]
  exact ⟨rfl, AckScan.ackAll_newlyAcked _ _ now⟩

/-- An ACK frame marks exactly the packets whose number it covers and that were not acknowledged
before, lost ones among them. Each of them is reported once, in the order of the queue; all other
packets are left as they are, and the queue stays in order. -/
theorem detectAckedPackets_exact (recovery : Recovery) (ranges : RangeSet) (space : PacketNumSpace φ)
    (now : Instant) (ascending : space.sent.Pairwise fun left right => left.pktNum ≤ right.pktNum) :
    (recovery.detectAckedPackets ranges space now).2.2.sent = space.sent.map (fun pkt =>
        if newlyCovered ranges.iter pkt then { pkt with timeAcked := some now, frames := [] }
        else pkt) ∧
      (∀ pkt ∈ space.sent, newlyCovered ranges.iter pkt = true ↔
        pkt.pktNum ∈ ranges ∧ pkt.timeAcked = none) ∧
      (recovery.detectAckedPackets ranges space now).1.1 =
        (space.sent.filter (newlyCovered ranges.iter)).map (report now) ∧
      ((space.sent.map (·.pktNum)).Nodup →
        ((recovery.detectAckedPackets ranges space now).1.1.map (·.pktNum)).Nodup) ∧
      (recovery.detectAckedPackets ranges space now).2.2.sent.Pairwise
        fun left right => left.pktNum ≤ right.pktNum := by
  obtain ⟨marked, reported⟩ := detectAckedPackets_eq recovery ranges now ascending
  refine ⟨marked, fun _ _ => newlyCovered_iter, reported, ?_, ?_⟩
  · intro distinct
    rw [reported, List.map_map]
    exact distinct.sublist (List.filter_sublist.map _)
  · refine Ascending.of_pktNums ?_ ascending
    rw [marked, map_markCovered_pktNum]

/-- A queue with gaps, an acknowledged packet and a lost one. -/
theorem detectAckedPackets_exact_sample :
    ∃ (recovery : Recovery) (ranges : RangeSet) (space : PacketNumSpace Nat),
      (space.sent.map fun pkt => (pkt.pktNum, pkt.timeAcked, pkt.timeLost)) =
        [(1, none, none), (2, some 5, none), (4, none, some 6), (7, none, none), (9, none, none)] ∧
      ranges.iter = [⟨0, 1⟩, ⟨2, 6⟩, ⟨7, 9⟩] ∧
      (recovery.detectAckedPackets ranges space 9).1.1.map (·.pktNum) = [4, 7] := by
  let pkt : Nat → Option Instant → Option Instant → SentPacket Nat :=
    fun number timeAcked timeLost =>
      ⟨number, [number], 0, timeAcked, timeLost, true, true, true, 100⟩
  let space : PacketNumSpace Nat := { PacketNumSpace.new with
    sent := [pkt 1 none none, pkt 2 (some 5) none, pkt 4 none (some 6), pkt 7 none none,
      pkt 9 none none] }
  let ranges := ((RangeSet.default.insert ⟨7, 9⟩).insert ⟨2, 6⟩).insert ⟨0, 1⟩
  let recovery : Recovery := .new 0 0 0 0 id
  refine ⟨recovery, ranges, space, rfl, by decide, ?_⟩
  rw [(detectAckedPackets_exact recovery ranges space 9 (by decide)).2.2.1]
  decide

end Recovery

end Tquic.Connection
