import Tquic.Connection.StreamLink

/-! Progress of a stream: from every state that losses and limits can lead to, the two ends can go
on until everything is read. -/

set_option autoImplicit false

namespace Tquic.Connection

open Lib

namespace StreamLink

variable {link next : StreamLink}

/-- Nothing is forgotten: a byte that was written is acknowledged, waits to be sent or is in a frame
whose fate is open, and a limit that the sending end does not know is announced or due. -/
structure Live (link : StreamLink) : Prop where
  linked : link.Linked
  window : 0 < link.recv.flowControl.window
  covered : ∀ value < link.send.writeOff, value ∈ link.send.acked ∨ link.send.Pending value ∨
    ∃ frame ∈ link.outstanding, frame.off ≤ value ∧ value < frame.maxOff
  queued : link.send.ready = true → 0 < link.entries
  due : link.recv.shouldSendMaxData = true → link.almostFull = true
  granted : link.recv.maxData ≤ link.send.maxData ∨ link.almostFull = true ∨
    link.recv.maxData ∈ link.announced
  heard : ∀ limit ∈ link.heard, limit ≤ link.send.maxData

theorem noteSendable_eq (link : StreamLink) (wasSendable emptyFin : Bool) :
    ∃ entries, link.noteSendable wasSendable emptyFin = { link with entries } ∧
      link.entries ≤ entries ∧
      ((link.send.ready = true ∨ emptyFin = true) → wasSendable = true ∨ 0 < entries) := by
  rw [noteSendable]
  split_ifs with queues
  · exact ⟨link.entries + 1, rfl, Nat.le_succ _, fun _ => .inr (Nat.succ_pos _)⟩
  · refine ⟨link.entries, rfl, le_refl _, fun sendable => .inl ?_⟩
    simp only [Bool.and_eq_true, Bool.or_eq_true, Bool.not_eq_true', not_and] at queues
    simpa using queues sendable

theorem lose_eq (link : StreamLink) (frame : RangeBuf) :
    ∃ entries, link.lose frame =
        { link with
          entries
          send := link.send.retransmit frame.off frame.len
          outstanding := link.outstanding.erase frame } ∧
      link.entries ≤ entries ∧
      (((link.send.retransmit frame.off frame.len).ready = true ∨
        (frame.len = 0 && frame.fin) = true) → link.send.ready = true ∨ 0 < entries) :=
  noteSendable_eq _ link.send.ready (frame.len = 0 && frame.fin)

namespace Live

theorem initial {window maxWindow : Nat} (positive : 0 < window) (fits : window ≤ maxWindow) :
    (new window maxWindow).Live where
  linked := .initial fits
  window := positive
  covered := by simp [new, SendBuf.new]
  queued := by simp [new, SendBuf.ready, SendBuf.new]
  due := by
    simp [new, RecvBuf.shouldSendMaxData, RecvBuf.new, FlowControl.shouldSendMaxData,
      FlowControl.new]
    omega
  granted := .inl (le_refl _)
  heard := by simp [new]

section

variable (live : link.Live)

include live

theorem write (data : Bytes) (fin : Bool) : (link.write data fin).Live := by
  have linked := live.linked.write data fin
  rw [StreamLink.write] at linked ⊢
  cases outcome : link.send.write data fin with
  | error error => exact live
  | ok result =>
    obtain ⟨written, send⟩ := result
    have spec := SendBuf.write_spec outcome
    have pending := spec.pending live.linked.coherent.unsent
    have maxData : send.maxData = link.send.maxData := by rw [spec.shape]
    have acked : send.acked = link.send.acked := by rw [spec.shape]
    have writeOff : send.writeOff = link.send.writeOff + written := by rw [spec.shape]
    simp only [outcome] at linked ⊢
    obtain ⟨entries, same, more, woken⟩ := noteSendable_eq
      { link with send, stream := link.stream ++ data.take written }
      link.send.ready (data.length = 0 && fin)
    rw [same] at linked ⊢
    refine { live with
      linked, covered := ?_, queued := ?_, granted := maxData ▸ live.granted,
      heard := maxData ▸ live.heard }
    · intro value less
      simp only [pending, acked]
      rcases Nat.lt_or_ge value link.send.writeOff with old | fresh
      · exact (live.covered value old).imp_right (.imp_left .inl)
      · exact .inr (.inl (.inr ⟨fresh, writeOff ▸ less⟩))
    · intro ready
      rcases woken (.inl ready) with before | woken
      · exact (live.queued before).trans_le more
      · exact woken

theorem transmit {outLen : Nat} (transmitted : link.transmit outLen = some next) : next.Live := by
  have linked := live.linked.transmit transmitted
  obtain ⟨data, after, outcome, _, handed⟩ := live.linked.coherent.read outLen
  simp only [StreamLink.transmit, outcome, Option.ite_none_left_eq_some, Option.some.injEq]
    at transmitted
  obtain ⟨standing, rfl⟩ := transmitted
  have sent := handed.transmitted
  have pending := live.linked.coherent.pending_transmitted sent
  refine { live with
    linked, covered := ?_, queued := ?_, granted := sent.same.maxData ▸ live.granted,
    heard := sent.same.maxData ▸ live.heard }
  · intro value less
    simp only [pending, sent.same.acked]
    by_cases inside : link.send.sendOff ≤ value ∧ value < link.send.sendOff + data.length
    · exact .inr (.inr ⟨_, List.mem_cons_self, inside⟩)
    · rcases live.covered value (sent.same.writeOff ▸ less) with acked | waits | ⟨frame, found, range⟩
      · exact .inl acked
      · exact .inr (.inl ⟨waits, inside⟩)
      · exact .inr (.inr ⟨frame, List.mem_cons_of_mem _ found, range⟩)
  · intro ready
    simp only [ready]
    exact Nat.pos_of_ne_zero standing

theorem ack {frame : RangeBuf} (sent : frame ∈ link.sent)
    (processed : frame ∈ link.delivered) : (link.ack frame).Live := by
  have within := (live.linked.sent frame sent).sent
  obtain ⟨acknowledged, coherent⟩ := live.linked.coherent.ackAndDrop within
  have same := acknowledged.same
  have pending := acknowledged.pending within
  refine { live with
    linked := live.linked.ack sent processed, covered := ?_, queued := ?_,
    granted := same.maxData ▸ live.granted, heard := same.maxData ▸ live.heard }
  · intro value less
    simp only [StreamLink.ack, acknowledged.acked, pending]
    by_cases inside : frame.off ≤ value ∧ value < frame.off + frame.len
    · exact .inl (.inr inside)
    · rcases live.covered value (same.writeOff ▸ less) with acked | waits | ⟨other, found, range⟩
      · exact .inl (.inl acked)
      · exact .inr (.inl ⟨waits, inside⟩)
      · have apart : other ≠ frame := fun same => inside (same ▸ range)
        exact .inr (.inr ⟨other, (List.mem_erase_of_ne apart).mpr found, range⟩)
  · intro ready
    obtain ⟨value, waits⟩ := coherent.ready_iff.mp ready
    exact live.queued (live.linked.coherent.ready_iff.mpr ⟨value, ((pending value).mp waits).1⟩)

theorem lose {frame : RangeBuf} (sent : frame ∈ link.sent) : (link.lose frame).Live := by
  have within := (live.linked.sent frame sent).sent
  obtain ⟨requeued, coherent⟩ := live.linked.coherent.retransmit within
  have same := requeued.same
  have pending := requeued.pending
  have linked := live.linked.lose sent
  obtain ⟨entries, note, more, woken⟩ := link.lose_eq frame
  rw [note] at linked ⊢
  refine { live with
    linked, covered := ?_, queued := ?_, granted := same.maxData ▸ live.granted,
    heard := same.maxData ▸ live.heard }
  · intro value less
    simp only [requeued.acked, pending]
    rcases live.covered value (same.writeOff ▸ less) with acked | waits | ⟨other, found, range⟩
    · exact .inl acked
    · exact .inr (.inl (.inl waits))
    · by_cases settled : value ∈ link.send.acked
      · exact .inl settled
      · by_cases other = frame
        case pos same => exact .inr (.inl (.inr ⟨same ▸ range, settled⟩))
        case neg apart => exact .inr (.inr ⟨other, (List.mem_erase_of_ne apart).mpr found, range⟩)
  · intro ready
    rcases woken (.inl ready) with before | woken
    · exact (live.queued before).trans_le more
    · exact woken

theorem deliver {frame : RangeBuf} (carried : frame ∈ link.flight) : (link.deliver frame).Live := by
  have linked := live.linked.deliver carried
  obtain ⟨recv, same, spec, _⟩ := live.linked.delivered_eq carried
  rw [same] at linked ⊢
  refine { live with linked, window := ?_, due := ?_, granted := ?_ }
  · simp only [spec.flowControl]
    exact live.window
  · intro wanted
    refine live.due ?_
    simp only [RecvBuf.shouldSendMaxData, Bool.and_eq_true, spec.flowControl, spec.finOff]
      at wanted ⊢
    refine ⟨?_, wanted.2⟩
    by_contra known
    split_ifs at wanted
    · cases wanted.1
    · exact known wanted.1
  · simp only [RecvBuf.maxData, spec.flowControl]
    exact live.granted

end

theorem read (live : link.Live) (outLen : Nat) : (link.read outLen).Live := by
  have linked := live.linked.read outLen
  rcases live.linked.read_eq outLen with ⟨_, same⟩ | ⟨data, after, _, _, same⟩
  · rw [same]
    exact live
  · rw [same] at linked ⊢
    refine { live with linked, window := live.window, due := ?_, granted := ?_ }
    · intro wanted
      simp only [wanted, Bool.or_true]
    · exact live.granted.imp_right (.imp_left fun full => by simp only [full, Bool.true_or])

theorem announce (live : link.Live) (now : Instant) (srtt : Duration) :
    (link.announce now srtt).Live := by
  have linked := live.linked.announce now srtt
  obtain ⟨window, tuned, grown, _⟩ :=
    link.recv.flowControl.autotuneWindow_tuned now srtt live.linked.window
  rw [StreamLink.announce, RecvBuf.autotuneWindow, tuned] at linked ⊢
  refine { live with linked, window := live.window.trans_le grown, due := ?_, granted := ?_ }
  · simp only [RecvBuf.shouldSendMaxData, RecvBuf.updateMaxData, FlowControl.updateMaxData,
      FlowControl.shouldSendMaxData, FlowControl.maxDataNext, Nat.add_sub_cancel_left,
      Bool.and_eq_true, decide_eq_true_eq, Bool.false_eq_true, imp_false, not_and]
    omega
  · exact .inr (.inr List.mem_cons_self)

theorem tune (live : link.Live) (full : link.almostFull = true) (now : Instant)
    (srtt : Duration) : (link.tune now srtt).Live := by
  have linked := live.linked.tune now srtt
  obtain ⟨window, tuned, grown, _⟩ :=
    link.recv.flowControl.autotuneWindow_tuned now srtt live.linked.window
  rw [StreamLink.tune, RecvBuf.autotuneWindow, tuned] at linked ⊢
  exact { live with linked, window := live.window.trans_le grown, due := fun _ => full }

theorem deliverLimit (live : link.Live) {limit : Nat} (carried : limit ∈ link.limits) :
    ({ link with
      send := link.send.updateMaxData limit, heard := limit :: link.heard } : StreamLink).Live := by
  refine { live with
    linked := live.linked.deliverLimit carried,
    granted := live.granted.imp_left (le_max_of_le_left ·), heard := ?_ }
  intro other member
  rcases List.mem_cons.mp member with rfl | old
  · exact le_max_right _ _
  · exact (live.heard other old).trans (le_max_left _ _)

theorem step (live : link.Live) {op : Op} (stepped : link.step op = some next) : next.Live := by
  have linked := live.linked.step stepped
  cases op with
  | write data fin =>
    cases stepped
    exact live.write data fin
  | transmit outLen => exact live.transmit stepped
  | deliver frame =>
    obtain ⟨carried, moved⟩ := Option.ite_none_right_eq_some.mp stepped
    cases moved
    exact live.deliver carried
  | drop frame =>
    cases stepped
    exact { live with linked }
  | ack frame =>
    obtain ⟨⟨sent, processed⟩, moved⟩ := Option.ite_none_right_eq_some.mp stepped
    cases moved
    exact live.ack sent processed
  | lose frame =>
    obtain ⟨sent, moved⟩ := Option.ite_none_right_eq_some.mp stepped
    cases moved
    exact live.lose sent
  | read outLen =>
    cases stepped
    exact live.read outLen
  | announce now srtt =>
    obtain ⟨_, moved⟩ := Option.ite_none_right_eq_some.mp stepped
    cases moved
    exact live.announce now srtt
  | tune now srtt =>
    obtain ⟨full, moved⟩ := Option.ite_none_right_eq_some.mp stepped
    cases moved
    exact live.tune full now srtt
  | deliverLimit limit =>
    obtain ⟨carried, moved⟩ := Option.ite_none_right_eq_some.mp stepped
    cases moved
    exact live.deliverLimit carried
  | dropLimit limit =>
    cases stepped
    exact { live with linked }
  | ackLimit limit =>
    obtain ⟨⟨_, heard⟩, moved⟩ := Option.ite_none_right_eq_some.mp stepped
    cases moved
    refine { live with linked, granted := ?_ }
    rcases live.granted with known | full | unsettled
    · exact .inl known
    · exact .inr (.inl full)
    · by_cases link.recv.maxData = limit
      case pos same => exact .inl (same ▸ live.heard limit heard)
      case neg other => exact .inr (.inr ((List.mem_erase_of_ne other).mpr unsettled))
  | loseLimit limit =>
    obtain ⟨_, moved⟩ := Option.ite_none_right_eq_some.mp stepped
    cases moved
    exact { live with linked, due := fun _ => rfl, granted := .inr (.inl rfl) }

theorem run {window maxWindow : Nat} (positive : 0 < window) (fits : window ≤ maxWindow)
    (run : Run StreamLink.step anyStep (.new window maxWindow) link) : link.Live :=
  run.invariant (fun _ _ _ live _ stepped => live.step stepped) (initial positive fits)

end Live

/-! ## Going on -/

/-- A state that the two ends reach without anything new being written. -/
structure Resumed (before after : StreamLink) : Prop where
  run : Run step anyStep before after
  live : after.Live
  stream : after.stream = before.stream
  finOff : after.send.finOff = before.send.finOff
  told : before.recv.finOff.isSome = true → after.recv.finOff.isSome = true

/-- Every byte was processed by the receiving end or waits to be sent. -/
def Settled (link : StreamLink) : Prop :=
  ∀ value < link.send.writeOff, link.received.Received value ∨ link.send.Pending value

/-- The receiving application has read everything, and nothing waits to be sent. -/
structure CaughtUp (link : StreamLink) : Prop where
  output : link.output = link.stream
  readOff : link.recv.readOff = link.send.writeOff
  idle : link.send.ready = false

namespace Live

theorem refl (live : link.Live) : Resumed link link :=
  ⟨.refl, live, rfl, rfl, id⟩

end Live

theorem Resumed.trans {first second third : StreamLink} (former : Resumed first second)
    (latter : Resumed second third) : Resumed first third where
  run := former.run.trans latter.run
  live := latter.live
  stream := latter.stream.trans former.stream
  finOff := latter.finOff.trans former.finOff
  told := latter.told ∘ former.told

theorem Resumed.writeOff (resumed : Resumed link next) (live : link.Live) :
    next.send.writeOff = link.send.writeOff := by
  rw [← resumed.live.linked.coherent.length, resumed.stream, live.linked.coherent.length]

namespace Live

section

variable (live : link.Live)

include live

/-- Once every outstanding frame is declared lost, what was not processed waits to be sent. -/
theorem settle :
    ∃ next, Resumed link next ∧ next.Settled ∧ next.send.unsentOff = link.send.unsentOff := by
  induction fate : link.outstanding.length generalizing link with
  | zero =>
    refine ⟨link, live.refl, fun value less => ?_, rfl⟩
    rcases live.covered value less with acked | waits | ⟨frame, found, _⟩
    · exact .inl (live.linked.acked value acked)
    · exact .inr waits
    · rw [List.length_eq_zero_iff.mp fate] at found
      cases found
  | succ count ih =>
    obtain ⟨frame, rest, frames⟩ := List.exists_cons_of_length_eq_add_one fate
    have waiting : frame ∈ link.outstanding := frames ▸ List.mem_cons_self
    have sent := live.linked.outstanding frame waiting
    have lost := live.lose sent
    have requeued := (live.linked.coherent.retransmit (live.linked.sent frame sent).sent).1
    obtain ⟨entries, same, _⟩ := link.lose_eq frame
    obtain ⟨final, resumed, settled, unsentOff⟩ := ih lost (by
      rw [same]
      simp only [List.length_erase_of_mem waiting, fate, Nat.add_sub_cancel])
    refine ⟨final, .trans ⟨.single (.lose frame) (if_pos sent), lost, ?_, ?_, ?_⟩ resumed,
      settled, unsentOff.trans ?_⟩
    all_goals rw [same]
    · exact requeued.same.finOff
    · exact id
    · exact requeued.same.unsentOff

section

variable (settled : link.Settled)

include settled

/-- A frame goes out and is processed. -/
theorem hop (standing : link.entries ≠ 0) :
    ∃ next len, Resumed link next ∧ next.Settled ∧
      SendBuf.Transmitted link.send next.send link.send.sendOff len ∧
      (link.send.ready = true → 0 < len) ∧
      (link.send.finOff = some (link.send.sendOff + len) → next.recv.finOff.isSome = true) ∧
      next.output = link.output ∧ next.recv.readOff = link.recv.readOff := by
  obtain ⟨data, after, outcome, _, handed⟩ := live.linked.coherent.read 1
  have sent := handed.transmitted
  let frame : RangeBuf := ⟨data, link.send.sendOff,
    link.send.finOff = some (link.send.sendOff + data.length)⟩
  let middle : StreamLink := { link with
    send := after
    entries := if after.ready then link.entries else link.entries - 1
    sent := frame :: link.sent
    outstanding := frame :: link.outstanding
    flight := frame :: link.flight }
  have transmitted : link.transmit 1 = some middle := by
    simp only [StreamLink.transmit, outcome, if_neg standing]
    rfl
  have carried : frame ∈ middle.flight := List.mem_cons_self
  have between := live.transmit transmitted
  obtain ⟨recv, same, spec, _⟩ := between.linked.delivered_eq carried
  have later := between.deliver carried
  rw [same] at later
  refine ⟨_, data.length, ⟨.tail (.single (.transmit 1) transmitted) trivial
    (show middle.step (.deliver frame) = some _ from (if_pos carried).trans (congrArg some same)),
    later, rfl, sent.same.finOff, ?_⟩, ?_, sent, ?_, ?_, rfl, spec.readOff⟩
  · intro known
    simp only [spec.finOff]
    split_ifs
    · rfl
    · exact known
  · intro value less
    by_cases inside : link.send.sendOff ≤ value ∧ value < link.send.sendOff + data.length
    · exact .inl ⟨(frame.off, frame.maxOff), List.mem_cons_self, inside⟩
    · rcases settled value (sent.same.writeOff ▸ less) with ⟨range, found, within⟩ | waits
      · exact .inl ⟨range, List.mem_cons_of_mem _ found, within⟩
      · exact .inr ((live.linked.coherent.pending_transmitted sent value).mpr ⟨waits, inside⟩)
  · exact fun ready => live.linked.coherent.read_nonempty ready Nat.one_pos outcome
  · intro ends
    have marked : frame.fin = true := decide_eq_true ends
    simp only [spec.finOff, if_pos marked, Option.isSome_some]

/-- Everything that waits is sent and processed; the last new byte takes the end along. -/
theorem flush :
    ∃ next, Resumed link next ∧ next.Settled ∧ next.send.ready = false ∧
      (link.send.unsentOff < link.send.writeOff → link.send.finOff.isSome = true →
        next.recv.finOff.isSome = true) := by
  induction left : link.send.writeOff - link.send.sendOff using Nat.strong_induction_on
    generalizing link with
  | _ left ih =>
    cases ready : link.send.ready with
    | false =>
      refine ⟨link, live.refl, settled, ready, fun unsent => ?_⟩
      have idle := live.linked.coherent.sendOff_idle ready
      have := live.linked.coherent.sendOff_le_unsentOff
      omega
    | true =>
      obtain ⟨middle, len, resumed, between, sent, filled, ends, _⟩ :=
        live.hop settled (live.queued ready).ne'
      have positive := filled ready
      have advanced := sent.le_sendOff
      have writeOff := resumed.writeOff live
      have pending : link.send.sendOff < link.send.writeOff := by
        rw [SendBuf.ready, Bool.and_eq_true, decide_eq_true_eq] at ready
        exact ready.2
      obtain ⟨final, more, later, idle, told⟩ :=
        ih _ (by omega) resumed.live between rfl
      refine ⟨final, resumed.trans more, later, idle, fun unsent known => ?_⟩
      by_cases rest : middle.send.unsentOff < middle.send.writeOff
      · exact told rest (resumed.finOff ▸ known)
      · obtain ⟨finOff, known⟩ := Option.isSome_iff_exists.mp known
        have settledEnd := live.linked.coherent.final finOff known
        have within := resumed.live.linked.coherent.unsent
        rw [sent.unsentOff] at rest within
        have last : finOff = link.send.sendOff + len := by omega
        exact more.told (ends (last ▸ known))

theorem caughtUp (idle : link.send.ready = false)
    (empty : link.recv.ready = false) : link.CaughtUp := by
  have faithful := live.linked.faithful
  have length := live.linked.coherent.length
  have whole : link.recv.readOff = link.send.writeOff := by
    by_contra different
    have less : link.recv.readOff < link.send.writeOff :=
      Nat.lt_of_le_of_ne (length ▸ faithful.within) different
    rcases settled _ less with received | waits
    · exact faithful.not_received_of_idle empty received
    · rw [live.linked.coherent.ready_iff.mpr ⟨_, waits⟩] at idle
      cases idle
  refine ⟨?_, whole, idle⟩
  have output : link.output = link.stream.take link.recv.readOff := faithful.output
  rw [output, whole, ← length, List.take_length]

theorem drain (idle : link.send.ready = false) : ∃ next, Resumed link next ∧ next.CaughtUp := by
  rcases live.linked.read_eq (link.stream.length + 1) with
    ⟨empty, _⟩ | ⟨data, after, drained, _, same⟩
  · exact ⟨link, live.refl, live.caughtUp settled idle empty⟩
  · have later := live.read (link.stream.length + 1)
    rw [same] at later
    have bounded : after.readOff ≤ link.stream.length := later.linked.faithful.within
    have copied : after.readOff = link.recv.readOff + data.length := drained.copied.readOff
    have known : after.finOff = link.recv.finOff := drained.copied.finOff
    have empty : after.ready = false := drained.exhausted.resolve_left (by omega)
    refine ⟨_, ⟨.single (.read (link.stream.length + 1)) (congrArg some same), later, rfl, rfl,
      fun told => known ▸ told⟩, later.caughtUp settled idle empty⟩

end

/-- Whatever was lost, the receiving application gets everything that was written. -/
theorem catchUp :
    ∃ next, Resumed link next ∧ next.CaughtUp ∧
      (link.send.unsentOff < link.send.writeOff → link.send.finOff.isSome = true →
        next.recv.isFin = true) := by
  obtain ⟨first, toFirst, settled, unsentOff⟩ := live.settle
  obtain ⟨second, toSecond, still, idle, told⟩ := toFirst.live.flush settled
  obtain ⟨third, toThird, caughtUp⟩ := toSecond.live.drain still idle
  refine ⟨third, (toFirst.trans toSecond).trans toThird, caughtUp, fun unsent known => ?_⟩
  have ended := toThird.told (told
    (by rw [unsentOff, toFirst.writeOff live]; exact unsent) (toFirst.finOff ▸ known))
  obtain ⟨finOff, known⟩ := Option.isSome_iff_exists.mp ended
  have linked := toThird.live.linked
  have last := linked.coherent.final finOff (linked.final finOff known)
  exact decide_eq_true (known.trans (congrArg some (last.trans caughtUp.readOff.symm)))

/-- A limit that is due is announced and arrives. -/
theorem grant (caughtUp : link.CaughtUp) (full : link.almostFull = true) :
    ∃ next, Resumed link next ∧ next.CaughtUp ∧ next.send.writeOff < next.send.maxData := by
  obtain ⟨window, tuned, grown, _⟩ :=
    link.recv.flowControl.autotuneWindow_tuned 0 0 live.linked.window
  have announced := live.announce 0 0
  have raised := live.window.trans_le grown
  have consumed := live.linked.consumed.trans caughtUp.readOff
  let limit := link.recv.flowControl.readOff + window
  have carried : limit ∈ (link.announce 0 0).limits := by
    rw [StreamLink.announce, RecvBuf.autotuneWindow, tuned]
    exact List.mem_cons_self
  have granted := announced.deliverLimit carried
  refine ⟨_, ⟨.tail (.single (.announce 0 0) (if_pos full)) trivial
    (show (link.announce 0 0).step (.deliverLimit limit) = some _ from if_pos carried), granted,
    rfl, rfl, id⟩, ⟨caughtUp.output, caughtUp.readOff, caughtUp.idle⟩, ?_⟩
  refine lt_of_lt_of_le ?_ (le_max_right _ _)
  show link.send.writeOff < link.recv.flowControl.readOff + window
  omega

/-- A stream whose limit is used up is granted more. -/
theorem refill (caughtUp : link.CaughtUp) (unfinished : link.send.finOff = none) :
    ∃ next, Resumed link next ∧ next.CaughtUp ∧ next.send.writeOff < next.send.maxData := by
  by_cases room : link.send.writeOff < link.send.maxData
  · exact ⟨link, live.refl, caughtUp, room⟩
  rcases live.granted with known | full | unsettled
  · -- The receiving end has read up to its own limit.
    refine live.grant caughtUp (live.due ?_)
    have none : link.recv.finOff = none := by
      cases found : link.recv.finOff with
      | none => rfl
      | some finOff => cases unfinished.symm.trans (live.linked.final finOff found)
    have window := live.window
    have consumed := live.linked.consumed.trans caughtUp.readOff
    have known : link.recv.flowControl.maxData ≤ link.send.maxData := known
    simp only [RecvBuf.shouldSendMaxData, none, Option.isNone_none, Bool.true_and,
      FlowControl.shouldSendMaxData, decide_eq_true_eq]
    omega
  · exact live.grant caughtUp full
  · have marked : link.step (.loseLimit link.recv.maxData) = some _ := if_pos unsettled
    have lost := live.step marked
    obtain ⟨final, resumed, still, room⟩ :=
      lost.grant ⟨caughtUp.output, caughtUp.readOff, caughtUp.idle⟩ rfl
    exact ⟨final, .trans ⟨.single _ marked, lost, rfl, rfl, id⟩ resumed, still, room⟩

theorem write_eq (unfinished : link.send.finOff = none) (data : Bytes) (fin : Bool) :
    ∃ written send entries, SendBuf.Written link.send send data fin written ∧
      link.write data fin =
        { link with send, entries, stream := link.stream ++ data.take written } ∧
      ((data = [] ∧ fin = true) → link.send.ready = true ∨ 0 < entries) := by
  obtain ⟨written, send, outcome⟩ : ∃ written send, link.send.write data fin = .ok (written, send) := by
    simp only [SendBuf.write, SendBuf.capacity, live.linked.running, unfinished, Option.any_none,
      Bool.false_eq_true, if_false]
    exact ⟨_, _, rfl⟩
  obtain ⟨entries, same, _, woken⟩ := noteSendable_eq
    { link with send, stream := link.stream ++ data.take written }
    link.send.ready (data.length = 0 && fin)
  refine ⟨written, send, entries, SendBuf.write_spec outcome, ?_, ?_⟩
  · simp only [StreamLink.write, outcome]
    exact same
  · rintro ⟨rfl, rfl⟩
    exact woken (.inr rfl)

end

end Live

theorem CaughtUp.settled (caughtUp : link.CaughtUp) (live : link.Live) : link.Settled :=
  fun value less => .inl (live.linked.faithful.consumed value (caughtUp.readOff.symm ▸ less))

/-- A run of both ends that ends with everything read. -/
structure Finished (before after : StreamLink) (rest : Bytes) : Prop where
  run : Run step anyStep before after
  live : after.Live
  stream : after.stream = before.stream ++ rest
  output : after.output = after.stream

namespace Live

/-- A bare end arrives at a receiving application that has read everything. -/
theorem close (live : link.Live) (caughtUp : link.CaughtUp) (unfinished : link.send.finOff = none) :
    ∃ next, Finished link next [] ∧ next.recv.isFin = true := by
  obtain ⟨written, send, entries, spec, same, woken⟩ := live.write_eq unfinished [] true
  have middle := live.write [] true
  have moved : link.step (.write [] true) = some (link.write [] true) := rfl
  obtain rfl : written = 0 := by
    have := spec.count
    simp only [List.length_nil] at this
    omega
  have finOff : send.finOff = some link.send.writeOff := by
    rw [spec.shape]
    simp
  have offsets : send.writeOff = link.send.writeOff ∧ send.sendOff = link.send.sendOff := by
    rw [spec.shape]
    exact ⟨rfl, rfl⟩
  have standing : 0 < entries := (woken ⟨rfl, rfl⟩).resolve_left (by simp [caughtUp.idle])
  rw [same] at middle moved
  have idle := live.linked.coherent.sendOff_idle caughtUp.idle
  have settled : Settled { link with send, entries, stream := link.stream ++ [].take 0 } := by
    intro value less
    exact (caughtUp.settled live value (offsets.1 ▸ less)).imp_right fun waits =>
      (spec.pending live.linked.coherent.unsent value).mpr (.inl waits)
  obtain ⟨final, len, resumed, _, sent, _, ends, output, readOff⟩ := middle.hop settled standing.ne'
  have within := resumed.live.linked.coherent.unsent
  have writeOff := resumed.writeOff middle
  simp only [sent.unsentOff] at within writeOff ends
  have bare : len = 0 := by omega
  obtain ⟨last, known⟩ := Option.isSome_iff_exists.mp (ends (by
    rw [finOff, offsets.2, idle, bare]
    rfl))
  have linked := resumed.live.linked
  have length := linked.coherent.final last (linked.final last known)
  refine ⟨final, ⟨.head trivial moved resumed.run, resumed.live, resumed.stream, ?_⟩, ?_⟩
  · rw [output, resumed.stream]
    simpa using caughtUp.output
  · refine decide_eq_true (known.trans (congrArg some ?_))
    have read := caughtUp.readOff
    have same : final.recv.readOff = link.recv.readOff := readOff
    omega

/-- The rest is written as far as the limits allow, and read, until all of it is there. -/
theorem finish (live : link.Live) (caughtUp : link.CaughtUp) (unfinished : link.send.finOff = none)
    (rest : Bytes) : ∃ next, Finished link next rest ∧ next.recv.isFin = true := by
  induction left : rest.length using Nat.strong_induction_on generalizing link rest with
  | _ left ih =>
    cases rest with
    | nil => exact live.close caughtUp unfinished
    | cons head tail =>
      obtain ⟨first, toFirst, caught, room⟩ := live.refill caughtUp unfinished
      have unfinished := toFirst.finOff.trans unfinished
      obtain ⟨written, send, entries, spec, same, _⟩ :=
        toFirst.live.write_eq unfinished (head :: tail) true
      have middle := toFirst.live.write (head :: tail) true
      have moved : first.step (.write (head :: tail) true) = some _ := rfl
      rw [same] at middle moved
      obtain ⟨final, resumed, still, told⟩ := middle.catchUp
      have stream : final.stream = link.stream ++ (head :: tail).take written :=
        resumed.stream.trans (congrArg (· ++ (head :: tail).take written) toFirst.stream)
      have path := (toFirst.run.trans (.single _ moved)).trans resumed.run
      have count := spec.count
      by_cases fits : (head :: tail).length ≤ first.send.maxData - first.send.writeOff
      · rw [min_eq_left fits] at count
        refine ⟨final, ⟨path, resumed.live, ?_, still.output⟩, told ?_ ?_⟩
        · rw [stream, count, List.take_length]
        · have := toFirst.live.linked.coherent.unsent
          simp only [List.length_cons] at count
          rw [spec.shape]
          dsimp only
          omega
        · rw [spec.shape]
          simp only [true_and, if_pos fits, Option.isSome_some]
      · rw [min_eq_right (by omega)] at count
        have unended : final.send.finOff = none := by
          refine resumed.finOff.trans ?_
          dsimp only
          rw [spec.shape]
          simpa only [true_and, if_neg fits] using unfinished
        obtain ⟨last, finished, ended⟩ := ih _ (by rw [List.length_drop]; omega) resumed.live
          still unended ((head :: tail).drop written) rfl
        refine ⟨last, ⟨path.trans finished.run, finished.live, ?_, finished.output⟩, ended⟩
        rw [finished.stream, stream, List.append_assoc, List.take_append_drop]

end Live

end StreamLink

end Tquic.Connection
