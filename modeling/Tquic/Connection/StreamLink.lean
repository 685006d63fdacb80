import Tquic.Connection.FlowLimits
import Tquic.Connection.QueueEntries
import Tquic.Connection.Reassembly

/-! One direction of a stream between two connections: the send buffer at one end, the receive
buffer at the other, and a network that loses, repeats and reorders what it carries. The stream is
neither reset nor stopped, and the limits of the whole connections are left out. -/

set_option autoImplicit false

namespace Tquic.Connection

open Lib

structure StreamLink where
  send : SendBuf
  -- How often the stream stands in the queue of sendable streams.
  entries : Nat
  -- What the sending application has written.
  stream : Bytes
  sent : List RangeBuf
  -- Frames that were sent and neither acknowledged nor declared lost.
  outstanding : List RangeBuf
  -- Frames on the network.
  flight : List RangeBuf
  recv : RecvBuf
  -- A MAX_STREAM_DATA frame is due.
  almostFull : Bool
  -- Frames that the receiving end has processed.
  delivered : List RangeBuf
  -- What the receiving application has read.
  output : Bytes
  -- Limits that were announced and neither acknowledged nor declared lost.
  announced : List Nat
  -- Limits on the network.
  limits : List Nat
  -- Limits that the sending end has processed.
  heard : List Nat
  -- The error with which the receiving end closes its connection.
  failure : Option Error

namespace RangeBuf

theorem SliceOf.append {buf : RangeBuf} {stream : Bytes} (slice : buf.SliceOf stream)
    (more : Bytes) : buf.SliceOf (stream ++ more) := by
  rw [SliceOf, List.drop_append]
  exact List.IsPrefix.trans slice (List.prefix_append _ _)

end RangeBuf

namespace Reassembly.Session

/-- What was reassembled stays right when the stream grows. -/
theorem Faithful.extend {stream : Bytes} {session : Session} (faithful : Faithful stream session)
    (more : Bytes) : Faithful (stream ++ more) session where
  ordered := faithful.ordered
  noError := faithful.noError
  noShutdown := faithful.noShutdown
  slices entry member := (faithful.slices entry member).append more
  output := by rw [List.take_append_of_le_length faithful.within, faithful.output]
  within := by
    rw [List.length_append]
    exact faithful.within.trans (Nat.le_add_right _ _)
  consumed := faithful.consumed
  stored := faithful.stored
  bounded value received := by
    rw [List.length_append]
    exact (faithful.bounded value received).trans_le (Nat.le_add_right _ _)

end Reassembly.Session

namespace FlowControl

theorem autotuneWindow_tuned {control : FlowControl} (now : Instant) (srtt : Duration)
    (within : control.window ≤ control.maxWindow) :
    ∃ window, control.autotuneWindow now srtt = { control with window } ∧
      control.window ≤ window ∧ window ≤ control.maxWindow := by
  rw [autotuneWindow]
  split
  · exact ⟨control.window, rfl, le_refl _, within⟩
  · split_ifs
    · exact ⟨_, rfl, le_min (Nat.le_mul_of_pos_right _ (by omega)) within, min_le_right _ _⟩
    · exact ⟨control.window, rfl, le_refl _, within⟩

end FlowControl

namespace RecvBuf

/-- The checks of `write` are the only way to an error. -/
theorem write_accepts {recv : RecvBuf} {buf : RangeBuf} (accepted : Accepted recv buf) :
    ∃ after, recv.write buf.off buf.data buf.fin = .ok after := by
  have within : ¬ buf.maxOff > recv.maxData := Nat.not_lt.mpr accepted.allowed
  have final : recv.finOff.any (fun finOff => buf.maxOff > finOff) = false := by
    cases known : recv.finOff with
    | none => rfl
    | some finOff => simpa using accepted.final finOff known
  have same : recv.finOff.any (fun finOff => buf.fin && finOff ≠ buf.maxOff) = false := by
    cases known : recv.finOff with
    | none => rfl
    | some finOff => simpa using fun fin => accepted.same fin finOff known
  have bound : (buf.fin && buf.maxOff < recv.recvOff) = false := by
    simpa using accepted.bound
  simp only [write, if_neg within, final, same, bound, Bool.false_eq_true, if_false]
  split_ifs <;> exact ⟨_, rfl⟩

end RecvBuf

namespace SendBuf

/-- The frame carries bytes of the stream that were handed out, with FIN only at the end. -/
structure Cut (send : SendBuf) (stream : Bytes) (frame : RangeBuf) : Prop where
  slice : frame.SliceOf stream
  sent : frame.maxOff ≤ send.unsentOff
  fin : frame.fin = true → send.finOff = some frame.maxOff

theorem Cut.mono {before after : SendBuf} {stream : Bytes} {frame : RangeBuf}
    (cut : before.Cut stream frame) (more : Bytes) (unsentOff : before.unsentOff ≤ after.unsentOff)
    (kept : ∀ finOff, before.finOff = some finOff → after.finOff = some finOff) :
    after.Cut (stream ++ more) frame where
  slice := cut.slice.append more
  sent := cut.sent.trans unsentOff
  fin marked := kept _ (cut.fin marked)

theorem HandedOut.cut {before after : SendBuf} {stream data : Bytes}
    (handed : HandedOut before after stream before.sendOff data) :
    after.Cut stream ⟨data, before.sendOff,
      decide (before.finOff = some (before.sendOff + data.length))⟩ where
  slice := handed.slice
  sent := by
    rw [handed.transmitted.unsentOff]
    exact le_max_right _ _
  fin marked := handed.transmitted.same.finOff.trans (of_decide_eq_true marked)

theorem Written.kept {before after : SendBuf} {stream data : Bytes} {fin : Bool} {written : Nat}
    (spec : Written before after data fin written) (coherent : Coherent before stream)
    {finOff : Nat} (known : before.finOff = some finOff) : after.finOff = some finOff := by
  have settled := coherent.final finOff known
  obtain ⟨within, _⟩ := spec.final finOff known
  rw [spec.shape]
  dsimp only
  split_ifs
  · rw [Option.some_inj]
    omega
  · exact known

end SendBuf

namespace StreamLink

def new (window maxWindow : Nat) : StreamLink :=
  { send := .new window, entries := 0, stream := [], sent := [], outstanding := [],
    flight := [], recv := .new window maxWindow, almostFull := false, delivered := [], output := [],
    announced := [], limits := [], heard := [], failure := none }

inductive Op where
  | write (data : Bytes) (fin : Bool)
  | transmit (outLen : Nat)
  | deliver (frame : RangeBuf)
  | drop (frame : RangeBuf)
  | ack (frame : RangeBuf)
  | lose (frame : RangeBuf)
  | read (outLen : Nat)
  | announce (now : Instant) (srtt : Duration)
  -- The window is tuned for a limit that finds no room in the packet.
  | tune (now : Instant) (srtt : Duration)
  | deliverLimit (limit : Nat)
  | dropLimit (limit : Nat)
  | ackLimit (limit : Nat)
  | loseLimit (limit : Nat)

def noteSendable (link : StreamLink) (wasSendable emptyFin : Bool) : StreamLink :=
  if (link.send.ready || emptyFin) && !wasSendable then { link with entries := link.entries + 1 }
  else link

def write (link : StreamLink) (data : Bytes) (fin : Bool) : StreamLink :=
  match link.send.write data fin with
  | .error _ => link
  | .ok (written, send) =>
    { link with send, stream := link.stream ++ data.take written }.noteSendable
      link.send.ready (data.length = 0 && fin)

def transmit (link : StreamLink) (outLen : Nat) : Option StreamLink :=
  if link.entries = 0 then none
  else
    match link.send.read outLen with
    | none => none
    | some ((data, fin), send) =>
      let frame : RangeBuf := ⟨data, link.send.sendOff, fin⟩
      some { link with
        send
        entries := if send.ready then link.entries else link.entries - 1
        sent := frame :: link.sent
        outstanding := frame :: link.outstanding
        flight := frame :: link.flight }

def deliver (link : StreamLink) (frame : RangeBuf) : StreamLink :=
  match link.recv.write frame.off frame.data frame.fin with
  | .error error => { link with failure := some error }
  | .ok recv => { link with recv, delivered := frame :: link.delivered }

def ack (link : StreamLink) (frame : RangeBuf) : StreamLink :=
  { link with
    send := link.send.ackAndDrop frame.off frame.len
    outstanding := link.outstanding.erase frame }

def lose (link : StreamLink) (frame : RangeBuf) : StreamLink :=
  { link with
    send := link.send.retransmit frame.off frame.len
    outstanding := link.outstanding.erase frame }.noteSendable
      link.send.ready (frame.len = 0 && frame.fin)

def read (link : StreamLink) (outLen : Nat) : StreamLink :=
  match link.recv.read outLen with
  | (.error _, recv) => { link with recv }
  | (.ok (data, _), recv) =>
    { link with
      recv
      output := link.output ++ data
      almostFull := link.almostFull || recv.shouldSendMaxData }

def announce (link : StreamLink) (now : Instant) (srtt : Duration) : StreamLink :=
  let recv := link.recv.autotuneWindow now srtt
  let limit := recv.flowControl.maxDataNext
  { link with
    recv := recv.updateMaxData now
    almostFull := false
    announced := limit :: link.announced
    limits := limit :: link.limits }

def tune (link : StreamLink) (now : Instant) (srtt : Duration) : StreamLink :=
  { link with recv := link.recv.autotuneWindow now srtt }

/-- Acknowledgements are of frames that the other end has processed; a loss may be declared of any
frame, also of one that arrives later or was acknowledged. -/
def step (link : StreamLink) : Op → Option StreamLink
  | .write data fin => some (link.write data fin)
  | .transmit outLen => link.transmit outLen
  | .deliver frame => if frame ∈ link.flight then some (link.deliver frame) else none
  | .drop frame => some { link with flight := link.flight.erase frame }
  | .ack frame =>
    if frame ∈ link.sent ∧ frame ∈ link.delivered then some (link.ack frame) else none
  | .lose frame => if frame ∈ link.sent then some (link.lose frame) else none
  | .read outLen => some (link.read outLen)
  | .announce now srtt => if link.almostFull then some (link.announce now srtt) else none
  | .tune now srtt => if link.almostFull then some (link.tune now srtt) else none
  | .deliverLimit limit =>
    if limit ∈ link.limits then
      some { link with send := link.send.updateMaxData limit, heard := limit :: link.heard }
    else none
  | .dropLimit limit => some { link with limits := link.limits.erase limit }
  | .ackLimit limit =>
    if limit ∈ link.announced ∧ limit ∈ link.heard then
      some { link with announced := link.announced.erase limit }
    else none
  | .loseLimit limit =>
    if limit ∈ link.announced then
      some { link with announced := link.announced.erase limit, almostFull := true }
    else none

def received (link : StreamLink) : Reassembly.Session :=
  { recv := link.recv, output := link.output,
    accepted := link.delivered.map fun frame => (frame.off, frame.maxOff) }

/-- What both ends agree on. -/
structure Linked (link : StreamLink) : Prop where
  coherent : link.send.Coherent link.stream
  running : link.send.error = none
  sent : ∀ frame ∈ link.sent, link.send.Cut link.stream frame
  outstanding : ∀ frame ∈ link.outstanding, frame ∈ link.sent
  flight : ∀ frame ∈ link.flight, frame ∈ link.sent
  delivered : ∀ frame ∈ link.delivered, frame ∈ link.sent
  faithful : link.received.Faithful link.stream
  told : ∀ frame ∈ link.delivered, frame.fin = true → link.recv.finOff = some frame.maxOff
  final : ∀ finOff, link.recv.finOff = some finOff → link.send.finOff = some finOff
  reached : link.recv.recvOff ≤ link.send.unsentOff
  acked : ∀ value ∈ link.send.acked, link.received.Received value
  credit : link.send.maxData ≤ link.recv.maxData
  limits : ∀ limit ∈ link.limits, limit ≤ link.recv.maxData
  consumed : link.recv.flowControl.readOff = link.recv.readOff
  ahead : link.recv.flowControl.Ahead
  window : link.recv.flowControl.window ≤ link.recv.flowControl.maxWindow
  failure : link.failure = none

variable {link next : StreamLink}

/-- The fields of the receiving end. -/
structure SameReceiver (before after : StreamLink) : Prop where
  recv : after.recv = before.recv
  delivered : after.delivered = before.delivered
  output : after.output = before.output
  failure : after.failure = before.failure

/-- What a step of the sending end does to the send buffer. -/
structure Advanced (before after : StreamLink) (more : Bytes) : Prop where
  stream : after.stream = before.stream ++ more
  coherent : after.send.Coherent after.stream
  running : after.send.error = before.send.error
  unsentOff : before.send.unsentOff ≤ after.send.unsentOff
  kept : ∀ finOff, before.send.finOff = some finOff → after.send.finOff = some finOff
  acked : ∀ value ∈ after.send.acked, value ∈ before.send.acked ∨ before.received.Received value

namespace Linked

theorem initial {window maxWindow : Nat} (fits : window ≤ maxWindow) :
    (new window maxWindow).Linked where
  coherent := .new window
  running := rfl
  sent := by simp [new]
  outstanding := by simp [new]
  flight := by simp [new]
  delivered := by simp [new]
  faithful := .initial window maxWindow
  told := by simp [new]
  final := by simp [new, RecvBuf.new]
  reached := le_refl _
  acked := fun value member => absurd member (RangeSet.not_mem_default value)
  credit := le_refl _
  limits := by simp [new]
  consumed := rfl
  ahead := by simp [new, RecvBuf.new, FlowControl.new, FlowControl.Ahead, FlowControl.maxDataNext]
  window := fits
  failure := rfl

/-- A step of the sending end keeps what both ends agree on. -/
theorem advance (linked : link.Linked) (more : Bytes) (same : SameReceiver link next)
    (advanced : Advanced link next more) (kept : ∀ frame ∈ link.sent, frame ∈ next.sent)
    (sent : ∀ frame ∈ next.sent, frame ∈ link.sent ∨ next.send.Cut next.stream frame)
    (outstanding : ∀ frame ∈ next.outstanding, frame ∈ link.outstanding ∨ frame ∈ next.sent)
    (flight : ∀ frame ∈ next.flight, frame ∈ link.flight ∨ frame ∈ next.sent)
    (credit : next.send.maxData ≤ link.recv.maxData)
    (limits : ∀ limit ∈ next.limits, limit ∈ link.limits) : next.Linked := by
  have received : next.received = link.received := by
    simp only [StreamLink.received, same.recv, same.output, same.delivered]
  constructor
  case coherent => exact advanced.coherent
  case running => exact advanced.running.trans linked.running
  case sent =>
    intro frame member
    rcases sent frame member with old | cut
    · rw [advanced.stream]
      exact (linked.sent frame old).mono more advanced.unsentOff advanced.kept
    · exact cut
  case outstanding =>
    exact fun frame member =>
      (outstanding frame member).elim (fun old => kept frame (linked.outstanding frame old)) id
  case flight =>
    exact fun frame member =>
      (flight frame member).elim (fun old => kept frame (linked.flight frame old)) id
  case delivered =>
    rw [same.delivered]
    exact fun frame member => kept frame (linked.delivered frame member)
  case faithful =>
    rw [received, advanced.stream]
    exact linked.faithful.extend more
  case told =>
    rw [same.delivered, same.recv]
    exact linked.told
  case final =>
    rw [same.recv]
    exact fun finOff known => advanced.kept finOff (linked.final finOff known)
  case reached =>
    rw [same.recv]
    exact linked.reached.trans advanced.unsentOff
  case acked =>
    rw [received]
    exact fun value member => (advanced.acked value member).elim (linked.acked value) id
  case credit => exact same.recv ▸ credit
  case limits =>
    rw [same.recv]
    exact fun limit member => linked.limits limit (limits limit member)
  case consumed => exact same.recv ▸ linked.consumed
  case ahead => exact same.recv ▸ linked.ahead
  case window => exact same.recv ▸ linked.window
  case failure => exact same.failure.trans linked.failure

theorem noteSendable_linked {wasSendable emptyFin : Bool} (linked : link.Linked) :
    (link.noteSendable wasSendable emptyFin).Linked := by
  rw [noteSendable]
  split_ifs
  · exact { linked with }
  · exact linked

theorem write (linked : link.Linked) (data : Bytes) (fin : Bool) : (link.write data fin).Linked := by
  rw [StreamLink.write]
  cases outcome : link.send.write data fin with
  | error error => exact linked
  | ok result =>
    obtain ⟨written, send⟩ := result
    have spec := SendBuf.write_spec outcome
    have advanced : Advanced link { link with send, stream := link.stream ++ data.take written }
        (data.take written) := by
      refine ⟨rfl, linked.coherent.write spec, ?_, ?_,
        fun finOff => spec.kept linked.coherent, ?_⟩
      all_goals
        dsimp only
        rw [spec.shape]
      exact fun value member => .inl member
    have credit : send.maxData ≤ link.recv.maxData := by
      rw [spec.shape]
      exact linked.credit
    exact noteSendable_linked (linked.advance _ ⟨rfl, rfl, rfl, rfl⟩ advanced (fun _ => id)
      (fun _ => .inl) (fun _ => .inl) (fun _ => .inl) credit (fun _ => id))

theorem transmit (linked : link.Linked) {outLen : Nat}
    (transmitted : link.transmit outLen = some next) : next.Linked := by
  obtain ⟨data, after, outcome, _, handed⟩ := linked.coherent.read outLen
  simp only [StreamLink.transmit, outcome, Option.ite_none_left_eq_some, Option.some.injEq]
    at transmitted
  obtain ⟨_, rfl⟩ := transmitted
  have sent := handed.transmitted
  have fresh : ∀ frames : List RangeBuf, ∀ frame ∈ RangeBuf.mk data link.send.sendOff
      (link.send.finOff = some (link.send.sendOff + data.length)) :: frames,
      frame ∈ frames ∨ frame ∈ RangeBuf.mk data link.send.sendOff
        (link.send.finOff = some (link.send.sendOff + data.length)) :: link.sent := by
    intro frames frame member
    exact (List.mem_cons.mp member).symm.imp_right fun new => List.mem_cons.mpr (.inl new)
  refine linked.advance [] ⟨rfl, rfl, rfl, rfl⟩ ?_ (fun _ => List.mem_cons_of_mem _) ?_
    (fresh _) (fresh _) ?_ (fun _ => id)
  · refine ⟨(List.append_nil _).symm, handed.coherent, sent.same.error, ?_,
      fun finOff known => sent.same.finOff.trans known, fun value member => .inl ?_⟩
    · exact sent.unsentOff ▸ le_max_left _ _
    · exact sent.same.acked ▸ member
  · intro frame member
    rcases List.mem_cons.mp member with rfl | old
    · exact .inr handed.cut
    · exact .inl old
  · exact sent.same.maxData ▸ linked.credit

variable {frame : RangeBuf}

section

variable (linked : link.Linked)

include linked

theorem ack (sent : frame ∈ link.sent)
    (processed : frame ∈ link.delivered) : (link.ack frame).Linked := by
  obtain ⟨acknowledged, coherent⟩ := linked.coherent.ackAndDrop (linked.sent frame sent).sent
  have same := acknowledged.same
  refine linked.advance [] ⟨rfl, rfl, rfl, rfl⟩ ?_ (fun _ => id) (fun _ => .inl)
    (fun _ member => .inl (List.mem_of_mem_erase member)) (fun _ => .inl)
    (same.maxData ▸ linked.credit) (fun _ => id)
  refine ⟨(List.append_nil _).symm, coherent, same.error, same.unsentOff.ge,
    fun finOff known => same.finOff.trans known, fun value member => ?_⟩
  rcases (acknowledged.acked value).mp member with before | inside
  · exact .inl before
  · exact .inr ⟨(frame.off, frame.maxOff), List.mem_map.mpr ⟨frame, processed, rfl⟩, inside⟩

theorem lose (sent : frame ∈ link.sent) : (link.lose frame).Linked := by
  obtain ⟨requeued, coherent⟩ := linked.coherent.retransmit (linked.sent frame sent).sent
  have same := requeued.same
  refine noteSendable_linked (linked.advance [] ⟨rfl, rfl, rfl, rfl⟩ ?_ (fun _ => id)
    (fun _ => .inl) (fun _ member => .inl (List.mem_of_mem_erase member)) (fun _ => .inl)
    (same.maxData ▸ linked.credit) (fun _ => id))
  exact ⟨(List.append_nil _).symm, coherent, same.error, same.unsentOff.ge,
    fun finOff known => same.finOff.trans known, fun value member => .inl (requeued.acked ▸ member)⟩

theorem deliverLimit {limit : Nat} (carried : limit ∈ link.limits) :
    ({ link with
      send := link.send.updateMaxData limit, heard := limit :: link.heard } : StreamLink).Linked := by
  refine linked.advance [] ⟨rfl, rfl, rfl, rfl⟩ ?_ (fun _ => id) (fun _ => .inl) (fun _ => .inl)
    (fun _ => .inl) (max_le linked.credit (linked.limits limit carried)) (fun _ => id)
  exact ⟨(List.append_nil _).symm, linked.coherent.updateMaxData limit, rfl, le_refl _,
    fun _ => id, fun _ => .inl⟩

/-- Every frame passes the checks of the receiving end. -/
theorem accepts (carried : frame ∈ link.flight) : RecvBuf.Accepted link.recv frame := by
  have cut := linked.sent frame (linked.flight frame carried)
  have coherent := linked.coherent
  have settled : ∀ finOff, link.recv.finOff = some finOff → finOff = link.send.writeOff :=
    fun finOff known => coherent.final finOff (linked.final finOff known)
  have sent := cut.sent
  have unsent := coherent.unsent
  constructor
  case allowed =>
    have := coherent.credit
    have := linked.credit
    omega
  case final =>
    intro finOff known
    have := settled finOff known
    omega
  case same =>
    intro marked finOff known
    exact Option.some.inj ((linked.final finOff known).symm.trans (cut.fin marked))
  case bound =>
    intro marked
    have := coherent.final _ (cut.fin marked)
    have := linked.reached
    omega

/-- A processed frame is stored, and its end is remembered. -/
theorem delivered_eq (carried : frame ∈ link.flight) :
    ∃ recv, link.deliver frame = { link with recv, delivered := frame :: link.delivered } ∧
      RecvBuf.Written link.recv recv frame.off frame.data frame.fin ∧
      link.received.write link.stream frame.off frame.len frame.fin =
        some ({ link with recv, delivered := frame :: link.delivered } : StreamLink).received := by
  have cut := linked.sent frame (linked.flight frame carried)
  obtain ⟨recv, outcome⟩ := RecvBuf.write_accepts (linked.accepts carried)
  have inside : frame.off + frame.len ≤ link.stream.length ∧
      (frame.fin = true → frame.off + frame.len = link.stream.length) := by
    rw [linked.coherent.length]
    exact ⟨cut.sent.trans linked.coherent.unsent,
      fun marked => linked.coherent.final _ (cut.fin marked)⟩
  have data : (link.stream.drop frame.off).take frame.len = frame.data :=
    (List.prefix_iff_eq_take.mp cut.slice).symm
  refine ⟨recv, ?_, RecvBuf.write_spec linked.faithful.ordered outcome, ?_⟩
  · simp only [StreamLink.deliver, outcome]
  · simp only [Reassembly.Session.write, if_pos inside, data, received, outcome]
    rfl

theorem deliver (carried : frame ∈ link.flight) : (link.deliver frame).Linked := by
  have cut := linked.sent frame (linked.flight frame carried)
  obtain ⟨recv, same, spec, written⟩ := linked.delivered_eq carried
  rw [same]
  have known : ∀ finOff, recv.finOff = some finOff → link.send.finOff = some finOff := by
    intro finOff found
    rw [spec.finOff] at found
    split_ifs at found with marked
    · exact (cut.fin marked).trans found
    · exact linked.final finOff found
  refine { linked with
    final := known, delivered := ?delivered, faithful := linked.faithful.write written,
    told := ?told, reached := ?reached, acked := ?acked, credit := ?_, limits := ?_,
    consumed := ?_, ahead := ?_, window := ?_ }
  case delivered =>
    intro other member
    rcases List.mem_cons.mp member with rfl | old
    · exact linked.flight other carried
    · exact linked.delivered other old
  case told =>
    intro other member marked
    simp only
    rw [spec.finOff]
    rcases List.mem_cons.mp member with rfl | old
    · rw [if_pos marked]
      rfl
    · split_ifs with final
      · exact (cut.fin final).symm.trans ((linked.sent other (linked.delivered other old)).fin marked)
      · exact linked.told other old marked
  case reached =>
    simp only
    rw [spec.recvOff]
    split_ifs
    · exact linked.reached
    · exact max_le linked.reached cut.sent
  case acked =>
    intro value member
    obtain ⟨range, found, inside⟩ := linked.acked value member
    exact ⟨range, List.mem_cons_of_mem _ found, inside⟩
  all_goals simp only [RecvBuf.maxData, spec.flowControl, spec.readOff]
  exacts [linked.credit, linked.limits, linked.consumed, linked.ahead, linked.window]

/-- A read does nothing, or it drains bytes into the output. -/
theorem read_eq (outLen : Nat) :
    link.recv.ready = false ∧ link.read outLen = link ∨
      ∃ data after, RecvBuf.Drained link.recv after outLen data ∧
        link.recv.read outLen = (.ok (data, after.isFin), { after with
          flowControl := link.recv.flowControl.increaseReadOff data.length }) ∧
        link.read outLen = { link with
          recv := { after with
            flowControl := link.recv.flowControl.increaseReadOff data.length }
          output := link.output ++ data
          almostFull := link.almostFull || RecvBuf.shouldSendMaxData { after with
            flowControl := link.recv.flowControl.increaseReadOff data.length } } := by
  rcases RecvBuf.read_cases linked.faithful.ordered outLen with
    ⟨idle, same⟩ | ⟨errorCode, _, failed, _⟩ | ⟨_, _, data, after, drained, same⟩
  · refine .inl ⟨idle, ?_⟩
    simp only [StreamLink.read]
    rw [show link.recv.read outLen = _ from same]
    rfl
  · cases linked.faithful.noError.symm.trans failed
  · have control : after.flowControl = link.recv.flowControl := drained.copied.flowControl
    rw [control] at same
    refine .inr ⟨data, after, drained, same, ?_⟩
    simp only [StreamLink.read]
    rw [show link.recv.read outLen = _ from same]

end

theorem read (linked : link.Linked) (outLen : Nat) : (link.read outLen).Linked := by
  rcases linked.read_eq outLen with ⟨_, same⟩ | ⟨data, after, drained, _, same⟩
  · rw [same]
    exact linked
  · rw [same]
    have copied := drained.copied
    exact
      { linked with
        faithful := (linked.faithful.copied copied).adjustFlowControl _
        told := by
          simp only
          rw [show after.finOff = link.recv.finOff from copied.finOff]
          exact linked.told
        final := by
          simp only
          rw [show after.finOff = link.recv.finOff from copied.finOff]
          exact linked.final
        reached := by
          simp only
          rw [show after.recvOff = link.recv.recvOff from copied.recvOff]
          exact linked.reached
        credit := linked.credit
        limits := linked.limits
        consumed := by
          simp only [FlowControl.increaseReadOff]
          rw [linked.consumed,
            show after.readOff = link.recv.readOff + data.length from copied.readOff]
        ahead := by
          have ahead := linked.ahead
          unfold FlowControl.Ahead FlowControl.maxDataNext at ahead ⊢
          simp only [FlowControl.increaseReadOff]
          omega
        window := linked.window }

theorem announce (linked : link.Linked) (now : Instant) (srtt : Duration) :
    (link.announce now srtt).Linked := by
  obtain ⟨window, tuned, grown, within⟩ :=
    link.recv.flowControl.autotuneWindow_tuned now srtt linked.window
  have raised : link.recv.maxData ≤ link.recv.flowControl.readOff + window :=
    linked.ahead.trans (Nat.add_le_add_left grown _)
  rw [StreamLink.announce, RecvBuf.autotuneWindow, tuned]
  exact
    { linked with
      faithful := linked.faithful.adjustFlowControl _
      credit := linked.credit.trans raised
      limits := by
        intro limit member
        rcases List.mem_cons.mp member with rfl | old
        · exact le_refl _
        · exact (linked.limits limit old).trans raised
      consumed := linked.consumed
      ahead := le_refl _
      window := within }

theorem tune (linked : link.Linked) (now : Instant) (srtt : Duration) :
    (link.tune now srtt).Linked := by
  obtain ⟨window, tuned, grown, within⟩ :=
    link.recv.flowControl.autotuneWindow_tuned now srtt linked.window
  rw [StreamLink.tune, RecvBuf.autotuneWindow, tuned]
  exact
    { linked with
      faithful := linked.faithful.adjustFlowControl _
      ahead := linked.ahead.trans (Nat.add_le_add_left grown _)
      window := within }

theorem step (linked : link.Linked) {op : Op} (stepped : link.step op = some next) :
    next.Linked := by
  cases op with
  | write data fin =>
    cases stepped
    exact linked.write data fin
  | transmit outLen => exact linked.transmit stepped
  | deliver frame =>
    obtain ⟨carried, moved⟩ := Option.ite_none_right_eq_some.mp stepped
    cases moved
    exact linked.deliver carried
  | drop frame =>
    cases stepped
    exact { linked with
      flight := fun other member => linked.flight other (List.mem_of_mem_erase member) }
  | ack frame =>
    obtain ⟨⟨sent, processed⟩, moved⟩ := Option.ite_none_right_eq_some.mp stepped
    cases moved
    exact linked.ack sent processed
  | lose frame =>
    obtain ⟨sent, moved⟩ := Option.ite_none_right_eq_some.mp stepped
    cases moved
    exact linked.lose sent
  | read outLen =>
    cases stepped
    exact linked.read outLen
  | announce now srtt =>
    obtain ⟨_, moved⟩ := Option.ite_none_right_eq_some.mp stepped
    cases moved
    exact linked.announce now srtt
  | tune now srtt =>
    obtain ⟨_, moved⟩ := Option.ite_none_right_eq_some.mp stepped
    cases moved
    exact linked.tune now srtt
  | deliverLimit limit =>
    obtain ⟨carried, moved⟩ := Option.ite_none_right_eq_some.mp stepped
    cases moved
    exact linked.deliverLimit carried
  | dropLimit limit =>
    cases stepped
    exact { linked with
      limits := fun other member => linked.limits other (List.mem_of_mem_erase member) }
  | ackLimit limit =>
    obtain ⟨_, moved⟩ := Option.ite_none_right_eq_some.mp stepped
    cases moved
    exact { linked with }
  | loseLimit limit =>
    obtain ⟨_, moved⟩ := Option.ite_none_right_eq_some.mp stepped
    cases moved
    exact { linked with }

theorem run {window maxWindow : Nat} (fits : window ≤ maxWindow)
    (run : Run StreamLink.step anyStep (.new window maxWindow) link) : link.Linked :=
  run.invariant (fun _ _ _ linked _ stepped => linked.step stepped) (initial fits)

end Linked

/-- Once the sending end counts the stream as complete, the receiving application has the whole
stream, or reads it without any further frame. -/
theorem complete_is_delivered {window maxWindow : Nat} (fits : window ≤ maxWindow)
    (run : Run step anyStep (.new window maxWindow) link) (complete : link.send.isComplete = true) :
    ∃ bound, ∀ fuel, bound ≤ fuel → ∀ sizes, (∀ index, 0 < sizes index) →
      ∃ final, link.received.readUntilDone sizes fuel = some final ∧ final.output = link.stream := by
  have linked := Linked.run fits run
  obtain ⟨finOff, known, covered⟩ := SendBuf.finished_of_isComplete complete
  have whole : finOff = link.stream.length :=
    (linked.coherent.final finOff known).trans linked.coherent.length.symm
  refine ⟨link.recv.weight + 1, fun fuel enough sizes positive => ?_⟩
  obtain ⟨final, reached, faithful, idle, same⟩ :=
    Reassembly.Session.readUntilDone_total linked.faithful sizes positive enough
  refine ⟨final, reached, ?_⟩
  rw [faithful.output]
  refine List.take_of_length_le (Nat.le_of_not_lt fun short => ?_)
  refine faithful.not_received_of_idle idle ?_
  obtain ⟨range, found, inside⟩ := linked.acked _ (covered _ (whole ▸ short))
  exact ⟨range, same ▸ found, inside⟩

theorem complete_is_delivered_unread :
    ∃ link, exec step (new 8 8)
        [.write [1, 2, 3] true, .transmit 2, .transmit 9, .deliver ⟨[3], 2, true⟩,
          .deliver ⟨[1, 2], 0, false⟩, .ack ⟨[1, 2], 0, false⟩, .ack ⟨[3], 2, true⟩] = some link ∧
      link.output = [] ∧
      ∃ bound final, link.received.readUntilDone (fun _ => 1) bound = some final ∧
        final.output = link.stream := by
  obtain ⟨link, executed, output, complete⟩ : ∃ link, exec step (new 8 8)
      [.write [1, 2, 3] true, .transmit 2, .transmit 9, .deliver ⟨[3], 2, true⟩,
        .deliver ⟨[1, 2], 0, false⟩, .ack ⟨[1, 2], 0, false⟩, .ack ⟨[3], 2, true⟩] = some link ∧
      link.output = [] ∧ link.send.isComplete = true := ⟨_, rfl, rfl, rfl⟩
  obtain ⟨bound, reads⟩ :=
    complete_is_delivered (le_refl 8) (.of_exec executed) complete
  obtain ⟨final, reached, whole⟩ := reads bound (le_refl _) (fun _ => 1) (by simp)
  exact ⟨link, executed, output, bound, final, reached, whole⟩

end StreamLink

end Tquic.Connection
