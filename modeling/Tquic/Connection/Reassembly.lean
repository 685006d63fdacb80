import Tquic.Lib.Transition
import Tquic.Connection.RecvBufProperties
import Mathlib.Order.Bounds.Basic

/-! Reassembly of a stream: any interleaving of writes of parts of one byte string
with reads hands out the contiguous prefix that was received. -/

set_option autoImplicit false

namespace Tquic.Connection

open Lib

namespace Reassembly

/-- A receive buffer with what went in and what came out of it. -/
structure Session where
  recv : RecvBuf
  output : Bytes
  -- The offsets between which `write` accepted data.
  accepted : List (Nat × Nat)

inductive Op where
  | write (offset len : Nat) (fin : Bool)
  | read (outLen : Nat)
  | updateMaxData (now : Instant)
  | autotuneWindow (now : Instant) (srtt : Duration)

namespace Session

def new (maxData maxWindow : Nat) : Session :=
  { recv := .new maxData maxWindow, output := [], accepted := [] }

def read (session : Session) (outLen : Nat) : Session :=
  match session.recv.read outLen with
  | (.ok (bytes, _), recv) => { session with recv, output := session.output ++ bytes }
  | (.error _, recv) => { session with recv }

/-- The sender cuts frames out of `stream`; FIN comes only at its end, and the
write has to succeed. -/
def write (stream : Bytes) (session : Session) (offset len : Nat) (fin : Bool) : Option Session :=
  if offset + len ≤ stream.length ∧ (fin = true → offset + len = stream.length) then
    match session.recv.write offset ((stream.drop offset).take len) fin with
    | .ok recv =>
      some { session with recv, accepted := (offset, offset + len) :: session.accepted }
    | .error _ => none
  else none

def step (stream : Bytes) (session : Session) : Op → Option Session
  | .write offset len fin => session.write stream offset len fin
  | .read outLen => some (session.read outLen)
  | .updateMaxData now => some { session with recv := session.recv.updateMaxData now }
  | .autotuneWindow now srtt =>
    some { session with recv := session.recv.autotuneWindow now srtt }

def Received (session : Session) (value : Nat) : Prop :=
  ∃ range ∈ session.accepted, range.1 ≤ value ∧ value < range.2

def ContiguousPrefix (session : Session) (size : Nat) : Prop :=
  IsGreatest {length | ∀ value < length, session.Received value} size

/-- Read into buffers of the given sizes until `Done`; `none` if that takes more
than `fuel` calls. -/
def readUntilDone (sizes : Nat → Nat) : Nat → Session → Option Session
  | 0, _ => none
  | fuel + 1, session =>
    if (session.recv.read (sizes fuel)).1 = .error .done then some session
    else readUntilDone sizes fuel (session.read (sizes fuel))

/-- What every session keeps. Bytes below the read offset were handed out, bytes
above it are stored exactly if they were received. -/
structure Faithful (stream : Bytes) (session : Session) : Prop where
  ordered : session.recv.Ordered
  noError : session.recv.error = none
  noShutdown : session.recv.shutdownFlag = false
  slices : session.recv.SlicesOf stream
  output : session.output = stream.take session.recv.readOff
  within : session.recv.readOff ≤ stream.length
  consumed : ∀ value < session.recv.readOff, session.Received value
  stored : ∀ value, session.recv.readOff ≤ value →
    (session.recv.Holds value ↔ session.Received value)
  bounded : ∀ value, session.Received value → value < stream.length

namespace Faithful

variable {stream : Bytes} {session : Session}

theorem initial (maxData maxWindow : Nat) : Faithful stream (.new maxData maxWindow) where
  ordered := RecvBuf.new_ordered maxData maxWindow
  noError := rfl
  noShutdown := rfl
  slices := by simp [new, RecvBuf.new, RecvBuf.SlicesOf]
  output := rfl
  within := Nat.zero_le _
  consumed := by simp [new, RecvBuf.new]
  stored := by simp [new, RecvBuf.new, RecvBuf.Holds, Received]
  bounded := by simp [new, Received]

section

variable (faithful : Faithful stream session)

include faithful

theorem adjustFlowControl (control : FlowControl) :
    Faithful stream { session with recv := { session.recv with flowControl := control } } :=
  { faithful with ordered := faithful.ordered.adjustFlowControl control }

/-- A frame may bring any piece of the stream, also bytes that are there. -/
theorem write {offset len : Nat} {fin : Bool}
    {next : Session} (written : session.write stream offset len fin = some next) :
    Faithful stream next := by
  rw [Session.write] at written
  split at written
  case isFalse => cases written
  case isTrue inside =>
    cases outcome : session.recv.write offset ((stream.drop offset).take len) fin with
    | error error => simp [outcome] at written
    | ok recv =>
      simp only [outcome, Option.some.injEq] at written
      subst written
      have spec := RecvBuf.write_spec faithful.ordered outcome
      have length : ((stream.drop offset).take len).length = len := by
        rw [List.length_take, List.length_drop]
        omega
      have received : ∀ value, Received { session with
          recv, accepted := (offset, offset + len) :: session.accepted } value ↔
          session.Received value ∨ offset ≤ value ∧ value < offset + len := by
        intro value
        simp only [Received, List.mem_cons, exists_eq_or_imp]
        exact or_comm
      constructor
      case ordered => exact spec.ordered
      case noError => exact spec.error.trans faithful.noError
      case noShutdown => exact spec.shutdownFlag.trans faithful.noShutdown
      case slices => exact spec.slices stream (List.take_prefix _ _) faithful.slices
      case output => exact spec.readOff ▸ faithful.output
      case within => exact spec.readOff ▸ faithful.within
      case consumed =>
        intro value less
        exact (received value).mpr (.inl (faithful.consumed value (spec.readOff ▸ less)))
      case stored =>
        intro value above
        have above := spec.readOff ▸ above
        rw [spec.holds faithful.noShutdown value above, length, received,
          faithful.stored value above]
      case bounded =>
        intro value held
        rcases (received value).mp held with old | new
        · exact faithful.bounded value old
        · omega

/-- What is read continues the output. -/
theorem copied {recv : RecvBuf} {bytes : Bytes} (copied : RecvBuf.Copied session.recv recv bytes) :
    Faithful stream { session with recv, output := session.output ++ bytes } := by
  obtain ⟨isPrefix, slices⟩ := copied.slices stream faithful.slices
  have length := isPrefix.length_le
  rw [List.length_drop] at length
  have readOff := copied.readOff
  constructor
  case ordered => exact copied.ordered
  case noError => exact copied.error.trans faithful.noError
  case noShutdown => exact copied.shutdownFlag.trans faithful.noShutdown
  case slices => exact slices
  case output =>
    simp only
    rw [faithful.output, readOff, List.take_add, List.prefix_iff_eq_take.mp isPrefix]
    simp
  case within =>
    have := faithful.within
    simp only
    omega
  case consumed =>
    intro value less
    rcases Nat.lt_or_ge value session.recv.readOff with near | far
    · exact faithful.consumed value near
    · exact (faithful.stored value far).mp (copied.held value far less)
  case stored =>
    intro value above
    have low : session.recv.readOff ≤ value := by
      simp only at above
      omega
    exact (copied.holds value above).trans (faithful.stored value low)
  case bounded => exact faithful.bounded

end

theorem read (faithful : Faithful stream session) (outLen : Nat) :
    Faithful stream (session.read outLen) := by
  rw [Session.read]
  rcases RecvBuf.read_cases faithful.ordered outLen with
    ⟨_, same⟩ | ⟨errorCode, _, failed, _⟩ | ⟨_, _, bytes, after, drained, same⟩
  · rw [same]
    exact faithful
  · rw [faithful.noError] at failed
    cases failed
  · rw [same]
    exact (faithful.copied drained.copied).adjustFlowControl _

theorem step (faithful : Faithful stream session) {op : Op} {next : Session}
    (stepped : session.step stream op = some next) : Faithful stream next := by
  cases op with
  | write offset len fin => exact faithful.write stepped
  | read outLen =>
    cases stepped
    exact faithful.read outLen
  | updateMaxData now =>
    cases stepped
    exact faithful.adjustFlowControl _
  | autotuneWindow now srtt =>
    cases stepped
    exact faithful.adjustFlowControl _

theorem run {maxData maxWindow : Nat}
    (run : Run (Session.step stream) anyStep (.new maxData maxWindow) session) :
    Faithful stream session :=
  run.invariant (fun _ _ _ faithful _ stepped => faithful.step stepped) (initial maxData maxWindow)

/-- Without anything to read, the next byte has not arrived. -/
theorem not_received_of_idle (faithful : Faithful stream session)
    (idle : session.recv.ready = false) : ¬ session.Received session.recv.readOff := by
  intro received
  obtain ⟨entry, member, low, less⟩ := (faithful.stored _ (le_refl _)).mpr received
  cases found : session.recv.data.first? with
  | none => exact OrdMap.first?_eq_none_iff.mp found entry member
  | some first =>
    have firstMember := OrdMap.first?_mem found
    have unread := faithful.ordered.unread first firstMember
    have start : first.2.off = session.recv.readOff := by
      rcases Nat.lt_or_ge first.1 entry.1 with before | after
      · have apart := faithful.ordered.disjoint first firstMember entry member before
        have firstEnd : first.2.maxOff = first.2.off + first.2.len := rfl
        omega
      · have same := OrdMap.mem_unique firstMember member
          (Nat.le_antisymm (OrdMap.first?_le found member) after)
        rw [same] at unread ⊢
        omega
    have ready := RecvBuf.ready_iff.mpr ⟨first.1, first.2, found, start⟩
    rw [idle] at ready
    cases ready

theorem contiguous_of_idle (faithful : Faithful stream session)
    (idle : session.recv.ready = false) : session.ContiguousPrefix session.recv.readOff := by
  refine ⟨faithful.consumed, ?_⟩
  intro length all
  by_contra longer
  exact faithful.not_received_of_idle idle (all _ (by omega))

end Faithful

/-! ## Reading until `Done` -/

@[simp] theorem read_accepted (session : Session) (outLen : Nat) :
    (session.read outLen).accepted = session.accepted := by
  rw [read]
  split <;> rfl

theorem read_lighter {stream : Bytes} {session : Session} (faithful : Faithful stream session)
    {outLen : Nat} (positive : 0 < outLen)
    (continues : (session.recv.read outLen).1 ≠ .error .done) :
    (session.read outLen).recv.weight < session.recv.weight := by
  rcases RecvBuf.read_cases faithful.ordered outLen with
    ⟨_, same⟩ | ⟨errorCode, _, failed, _⟩ | ⟨ready, _, bytes, after, drained, same⟩
  · exact absurd (congrArg Prod.fst same) continues
  · rw [faithful.noError] at failed
    cases failed
  · rw [read, same]
    rcases drained.lighter with empty | idle | lighter
    · omega
    · rw [ready] at idle
      cases idle
    · exact lighter

theorem idle_of_done {stream : Bytes} {session : Session} (faithful : Faithful stream session)
    {outLen : Nat} (finished : (session.recv.read outLen).1 = .error .done) :
    session.recv.ready = false := by
  rcases RecvBuf.read_cases faithful.ordered outLen with
    ⟨idle, _⟩ | ⟨errorCode, _, failed, _⟩ | ⟨_, _, bytes, after, _, same⟩
  · exact idle
  · rw [faithful.noError] at failed
    cases failed
  · rw [same] at finished
    cases finished

theorem readUntilDone_total {stream : Bytes} {fuel : Nat} {session : Session}
    (faithful : Faithful stream session) (sizes : Nat → Nat) (positive : ∀ index, 0 < sizes index)
    (enough : session.recv.weight < fuel) :
    ∃ final, session.readUntilDone sizes fuel = some final ∧ Faithful stream final ∧
      final.recv.ready = false ∧ final.accepted = session.accepted := by
  induction fuel generalizing session with
  | zero => omega
  | succ fuel ih =>
    rw [readUntilDone]
    split_ifs with finished
    · exact ⟨session, rfl, faithful, idle_of_done faithful finished, rfl⟩
    · have lighter := read_lighter faithful (positive fuel) finished
      obtain ⟨final, reached, kept, idle, same⟩ :=
        ih (faithful.read (sizes fuel)) (by omega)
      exact ⟨final, reached, kept, idle, same.trans (read_accepted session _)⟩

/-- Stream reassembly is faithful. In every reachable session the output is a part of
the contiguous received prefix, and reading until `Done` hands out all of it. -/
theorem reassembly_faithful (stream : Bytes) (maxData maxWindow : Nat) (session : Session)
    (run : Run (step stream) anyStep (.new maxData maxWindow) session) :
    (∃ size, session.ContiguousPrefix size ∧ size ≤ stream.length ∧
      session.output <+: stream.take size ∧
      (∀ outLen, (session.recv.read outLen).1 = .error .done → session.output = stream.take size) ∧
      ∃ bound, ∀ fuel, bound ≤ fuel → ∀ sizes, (∀ index, 0 < sizes index) →
        ∃ final, session.readUntilDone sizes fuel = some final ∧
          final.output = stream.take size) ∧
    session.output <+: stream ∧
    (∀ left ∈ session.recv.data, ∀ right ∈ session.recv.data, left.1 < right.1 →
      left.2.maxOff ≤ right.2.off) ∧
    (∀ entry ∈ session.recv.data, entry.1 = entry.2.maxOff) ∧
    ∀ entry ∈ session.recv.data, entry.2.maxOff ≤ session.recv.readOff →
      entry.2.len = 0 ∧ entry.2.fin = true ∧ session.recv.finOff = some entry.2.maxOff := by
  have faithful := Faithful.run run
  obtain ⟨last, _, lastFaithful, lastIdle, lastSame⟩ :=
    readUntilDone_total faithful (fun _ => 1) (by simp) (Nat.lt_succ_self _)
  have greatest : session.ContiguousPrefix last.recv.readOff := by
    have found := lastFaithful.contiguous_of_idle lastIdle
    simp only [ContiguousPrefix, Received, lastSame] at found ⊢
    exact found
  refine ⟨⟨last.recv.readOff, greatest, lastFaithful.within, ?_, ?_, ?_⟩, ?_,
    faithful.ordered.disjoint, faithful.ordered.keyed, ?_⟩
  · rw [faithful.output]
    exact List.take_prefix_take_left (greatest.2 faithful.consumed)
  · intro outLen finished
    have found := faithful.contiguous_of_idle (idle_of_done faithful finished)
    rw [faithful.output, IsGreatest.unique found greatest]
  · refine ⟨session.recv.weight + 1, fun fuel enough sizes positive => ?_⟩
    obtain ⟨final, reached, finalFaithful, idle, same⟩ :=
      readUntilDone_total faithful sizes positive enough
    refine ⟨final, reached, ?_⟩
    have found := finalFaithful.contiguous_of_idle idle
    simp only [ContiguousPrefix, Received, same] at found
    rw [finalFaithful.output, IsGreatest.unique found greatest]
  · rw [faithful.output]
    exact List.take_prefix _ _
  · intro entry member ends
    have unread := faithful.ordered.unread entry member
    have entryEnd : entry.2.maxOff = entry.2.off + entry.2.len := rfl
    have empty : entry.2.len = 0 := by omega
    have marker := faithful.ordered.marker entry member empty
    exact ⟨empty, marker.2, marker.1⟩

/-- Frames out of order and overlapping, with a read between them. -/
theorem reassembly_faithful_overlap :
    ∃ session, exec (step [1, 2, 3, 4, 5]) (.new 16 16)
        [.write 3 2 true, .write 0 2 false, .read 1, .write 1 3 false, .read 8] = some session ∧
      session.output = [1, 2, 3, 4, 5] ∧ session.output <+: [1, 2, 3, 4, 5] := by
  obtain ⟨session, executed, full⟩ : ∃ session, exec (step [1, 2, 3, 4, 5]) (.new 16 16)
      [.write 3 2 true, .write 0 2 false, .read 1, .write 1 3 false, .read 8] = some session ∧
      session.output = [1, 2, 3, 4, 5] := ⟨_, rfl, rfl⟩
  exact ⟨session, executed, full, (reassembly_faithful _ 16 16 session (.of_exec executed)).2.1⟩

end Session

end Reassembly

end Tquic.Connection
