import Tquic.Lib.Transition
import Tquic.Connection.SendBufProperties

/-! Transmission of a stream: any sequence of writes, reads, acknowledgements and
losses, where acknowledgements and losses name ranges that were read before. -/

set_option autoImplicit false

namespace Tquic.Connection

open Lib

namespace Transmission

/-- What happened to ranges of the stream. -/
inductive Event where
  | sent (range : Range)
  | acked (range : Range)
  | lost (range : Range)
  deriving DecidableEq

def Event.range : Event → Range
  | .sent range => range
  | .acked range => range
  | .lost range => range

def Acked (journal : List Event) (value : Nat) : Prop :=
  ∃ range, .acked range ∈ journal ∧ range.start ≤ value ∧ value < range.stop

/-- The byte was reported lost and not read out since. The journal has its newest
event first. -/
def Lost : List Event → Nat → Prop
  | [], _ => False
  | .lost range :: earlier, value =>
    (range.start ≤ value ∧ value < range.stop) ∨ Lost earlier value
  | .sent range :: earlier, value =>
    ¬ (range.start ≤ value ∧ value < range.stop) ∧ Lost earlier value
  | .acked _ :: earlier, value => Lost earlier value

/-- A send buffer with the bytes it accepted and the fate of its ranges. -/
structure Session where
  send : SendBuf
  stream : Bytes
  journal : List Event

inductive Op where
  | write (data : Bytes) (fin : Bool)
  | read (outLen : Nat)
  | ackAndDrop (off len : Nat)
  | retransmit (off len : Nat)
  | updateMaxData (maxData : Nat)

namespace Session

def new (maxData : Nat) : Session := { send := .new maxData, stream := [], journal := [] }

def write (session : Session) (data : Bytes) (fin : Bool) : Session :=
  match session.send.write data fin with
  | .ok (written, send) =>
    { session with send, stream := session.stream ++ data.take written }
  | .error _ => session

def read (session : Session) (outLen : Nat) : Option Session :=
  match session.send.read outLen with
  | none => none
  | some ((bytes, _), send) =>
    let range : Range := ⟨session.send.sendOff, session.send.sendOff + bytes.length⟩
    some { session with send, journal := .sent range :: session.journal }

def step (session : Session) : Op → Option Session
  | .write data fin => some (session.write data fin)
  | .read outLen => session.read outLen
  | .ackAndDrop off len =>
    if .sent ⟨off, off + len⟩ ∈ session.journal then
      some { session with
        send := session.send.ackAndDrop off len
        journal := .acked ⟨off, off + len⟩ :: session.journal }
    else none
  | .retransmit off len =>
    if .sent ⟨off, off + len⟩ ∈ session.journal then
      some { session with
        send := session.send.retransmit off len
        journal := .lost ⟨off, off + len⟩ :: session.journal }
    else none
  | .updateMaxData maxData =>
    some { session with send := session.send.updateMaxData maxData }

/-- The buffer is coherent, and its two range sets are what the journal tells. -/
structure Tracked (session : Session) : Prop where
  coherent : session.send.Coherent session.stream
  sent : ∀ event ∈ session.journal, event.range.stop ≤ session.send.unsentOff
  acked : ∀ value, value ∈ session.send.acked ↔ Acked session.journal value
  retransmits : ∀ value, value ∈ session.send.retransmits ↔
    Lost session.journal value ∧ ¬ Acked session.journal value

namespace Tracked

variable {session : Session}

theorem initial (maxData : Nat) : Tracked (.new maxData) where
  coherent := .new maxData
  sent := by simp [new]
  acked value := by simp [new, SendBuf.new, Acked]
  retransmits value := by simp [new, SendBuf.new, Lost]

theorem write (tracked : Tracked session) (data : Bytes) (fin : Bool) :
    Tracked (session.write data fin) := by
  rw [Session.write]
  cases outcome : session.send.write data fin with
  | error error => exact tracked
  | ok result =>
    obtain ⟨written, send⟩ := result
    have spec := SendBuf.write_spec outcome
    have unsentOff : send.unsentOff = session.send.unsentOff := by rw [spec.shape]
    have acked : send.acked = session.send.acked := by rw [spec.shape]
    have retransmits : send.retransmits = session.send.retransmits := by rw [spec.shape]
    exact ⟨tracked.coherent.write spec, unsentOff ▸ tracked.sent, acked ▸ tracked.acked,
      retransmits ▸ tracked.retransmits⟩

theorem read (tracked : Tracked session) {outLen : Nat} {next : Session}
    (finished : session.read outLen = some next) : Tracked next := by
  obtain ⟨bytes, after, outcome, _, handed⟩ := tracked.coherent.read outLen
  simp only [Session.read, outcome, Option.some.injEq] at finished
  subst finished
  have transmitted := handed.transmitted
  refine ⟨handed.coherent, ?_, ?_, ?_⟩
  · intro event member
    simp only
    rw [transmitted.unsentOff]
    rcases List.mem_cons.mp member with rfl | earlier
    · exact le_max_right _ _
    · exact (tracked.sent event earlier).trans (le_max_left _ _)
  · intro value
    simp only
    rw [transmitted.same.acked, tracked.acked]
    simp [Acked]
  · intro value
    simp only
    rw [transmitted.retransmits, tracked.retransmits]
    simp only [Lost, Acked, List.mem_cons, reduceCtorEq, false_or]
    tauto

theorem ackAndDrop (tracked : Tracked session) {off len : Nat}
    (known : .sent ⟨off, off + len⟩ ∈ session.journal) :
    Tracked { session with
      send := session.send.ackAndDrop off len
      journal := .acked ⟨off, off + len⟩ :: session.journal } := by
  have sent : off + len ≤ session.send.unsentOff := tracked.sent _ known
  obtain ⟨acknowledged, coherent⟩ := tracked.coherent.ackAndDrop sent
  have acked : ∀ value, Acked (.acked ⟨off, off + len⟩ :: session.journal) value ↔
      Acked session.journal value ∨ off ≤ value ∧ value < off + len := by
    intro value
    simp only [Acked, List.mem_cons, Event.acked.injEq, or_and_right, exists_or, exists_eq_left]
    exact or_comm
  refine ⟨coherent, ?_, ?_, ?_⟩
  · intro event member
    simp only
    rw [acknowledged.same.unsentOff]
    rcases List.mem_cons.mp member with rfl | earlier
    · exact sent
    · exact tracked.sent event earlier
  · intro value
    simp only
    rw [acknowledged.acked, tracked.acked, acked]
  · intro value
    simp only [Lost]
    rw [acknowledged.retransmits, tracked.retransmits, acked]
    tauto

theorem retransmit (tracked : Tracked session) {off len : Nat}
    (known : .sent ⟨off, off + len⟩ ∈ session.journal) :
    Tracked { session with
      send := session.send.retransmit off len
      journal := .lost ⟨off, off + len⟩ :: session.journal } := by
  have sent : off + len ≤ session.send.unsentOff := tracked.sent _ known
  obtain ⟨requeued, coherent⟩ := tracked.coherent.retransmit sent
  have acked : ∀ value, Acked (.lost ⟨off, off + len⟩ :: session.journal) value ↔
      Acked session.journal value := by
    intro value
    simp [Acked]
  refine ⟨coherent, ?_, ?_, ?_⟩
  · intro event member
    simp only
    rw [requeued.same.unsentOff]
    rcases List.mem_cons.mp member with rfl | earlier
    · exact sent
    · exact tracked.sent event earlier
  · intro value
    simp only
    rw [requeued.acked, tracked.acked, acked]
  · intro value
    simp only [Lost]
    rw [requeued.retransmits, tracked.retransmits, tracked.acked, acked]
    tauto

theorem step (tracked : Tracked session) {op : Op} {next : Session}
    (stepped : session.step op = some next) : Tracked next := by
  cases op with
  | write data fin =>
    cases stepped
    exact tracked.write data fin
  | read outLen => exact tracked.read stepped
  | ackAndDrop off len =>
    rw [Session.step] at stepped
    split at stepped
    case isTrue known =>
      cases stepped
      exact tracked.ackAndDrop known
    case isFalse => cases stepped
  | retransmit off len =>
    rw [Session.step] at stepped
    split at stepped
    case isTrue known =>
      cases stepped
      exact tracked.retransmit known
    case isFalse => cases stepped
  | updateMaxData maxData =>
    cases stepped
    exact { tracked with coherent := tracked.coherent.updateMaxData maxData }

theorem run {maxData : Nat} (run : Run Session.step anyStep (.new maxData) session) :
    Tracked session :=
  run.invariant (fun _ _ _ tracked _ stepped => tracked.step stepped) (initial maxData)

end Tracked

/-- Every read ends and hands out the bytes of the stream at the offset announced for
them, with FIN exactly at the final size. -/
theorem read_transmits (maxData : Nat) (session : Session)
    (run : Run step anyStep (.new maxData) session) (outLen : Nat) :
    ∃ bytes fin after, session.send.read outLen = some ((bytes, fin), after) ∧
      bytes.length ≤ outLen ∧
      session.send.sendOff + bytes.length ≤ session.stream.length ∧
      bytes = (session.stream.drop session.send.sendOff).take bytes.length ∧
      (fin = true ↔ session.send.finOff = some (session.send.sendOff + bytes.length)) := by
  have coherent := (Tracked.run run).coherent
  obtain ⟨bytes, after, outcome, bounded, handed⟩ := coherent.read outLen
  refine ⟨bytes, _, after, outcome, bounded, ?_, List.prefix_iff_eq_take.mp handed.slice,
    decide_eq_true_iff⟩
  have length := handed.slice.length_le
  have start := coherent.sendOff_le_unsentOff.trans coherent.unsent
  rw [List.length_drop] at length
  rw [coherent.length] at length ⊢
  omega

/-- A lost front part is read out again after the rest was acknowledged. -/
theorem read_transmits_again :
    ∃ session, exec step (.new 16)
        [.write [1, 2, 3, 4, 5] true, .read 3, .read 9, .retransmit 0 3, .ackAndDrop 3 2] =
          some session ∧
      session.send.sendOff = 0 ∧
      ∃ bytes fin after, session.send.read 9 = some ((bytes, fin), after) ∧
        bytes = (session.stream.drop 0).take bytes.length := by
  obtain ⟨session, executed, start⟩ : ∃ session, exec step (.new 16)
      [.write [1, 2, 3, 4, 5] true, .read 3, .read 9, .retransmit 0 3, .ackAndDrop 3 2] =
        some session ∧ session.send.sendOff = 0 := ⟨_, rfl, rfl⟩
  obtain ⟨bytes, fin, after, outcome, _, _, slice, _⟩ :=
    read_transmits 16 session (.of_exec executed) 9
  exact ⟨session, executed, start, bytes, fin, after, outcome, start ▸ slice⟩

/-- Acknowledged data is never lost or sent again, and unacknowledged data that was
reported lost waits for its retransmission. -/
theorem acked_and_lost_tracked (maxData : Nat) (session : Session)
    (run : Run step anyStep (.new maxData) session) :
    (∀ value ∈ session.send.retransmits, value ∉ session.send.acked) ∧
    (∀ value ∈ session.send.retransmits, value < session.send.unsentOff) ∧
    (session.send.unackedLen ≤ session.send.writeOff ∧
      session.stream.length = session.send.writeOff ∧
      SendBuf.Contiguous session.stream (session.send.writeOff - session.send.unackedLen)
        session.send.data) ∧
    (∀ value < session.send.writeOff - session.send.unackedLen,
      value ∈ session.send.acked ∧ Acked session.journal value) ∧
    (∀ value, value ∈ session.send.acked ↔ Acked session.journal value) ∧
    ∀ value, Lost session.journal value → value ∉ session.send.acked →
      value ∈ session.send.retransmits := by
  have tracked := Tracked.run run
  have coherent := tracked.coherent
  refine ⟨fun value member => (coherent.retransmits value member).2,
    fun value member => (coherent.retransmits value member).1,
    ⟨coherent.unacked, coherent.length, coherent.seekable.blocks⟩, ?_, tracked.acked, ?_⟩
  · intro value less
    have member := coherent.below less
    exact ⟨member, (tracked.acked value).mp member⟩
  · intro value lost missing
    rw [tracked.acked] at missing
    exact (tracked.retransmits value).mpr ⟨lost, missing⟩

/-- Losses and acknowledgements that overlap. -/
theorem acked_and_lost_tracked_overlap :
    ∃ session, exec step (.new 16)
        [.write [1, 2, 3, 4, 5] true, .read 3, .read 9, .retransmit 0 3, .read 2,
          .ackAndDrop 0 2, .retransmit 3 2] = some session ∧
      Lost session.journal 2 ∧ 2 ∈ session.send.retransmits := by
  obtain ⟨session, executed, journal, missing⟩ : ∃ session, exec step (.new 16)
      [.write [1, 2, 3, 4, 5] true, .read 3, .read 9, .retransmit 0 3, .read 2,
        .ackAndDrop 0 2, .retransmit 3 2] = some session ∧
      session.journal = [.lost ⟨3, 5⟩, .acked ⟨0, 2⟩, .sent ⟨0, 2⟩, .lost ⟨0, 3⟩, .sent ⟨3, 5⟩,
        .sent ⟨0, 3⟩] ∧ session.send.acked.contains 2 = false := ⟨_, rfl, rfl, rfl⟩
  have lost : Lost session.journal 2 := by simp [journal, Lost]
  have tracked := acked_and_lost_tracked 16 session (.of_exec executed)
  refine ⟨session, executed, lost, tracked.2.2.2.2.2 2 lost ?_⟩
  rw [← RangeSet.contains_iff, missing]
  simp

end Session

end Transmission

end Tquic.Connection
