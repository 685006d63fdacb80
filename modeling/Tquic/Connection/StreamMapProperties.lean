import Tquic.Connection.StreamMapOperations
import Tquic.Connection.ConcurrencyProperties

/-! What the operations of the stream map can do to its streams. Every operation leaves
all streams alone or touches a single one, which it may create, close or destroy. -/

set_option autoImplicit false

namespace Tquic.Connection

open Lib

namespace StreamMap

/-- The stream identifier was used before. -/
def Spent (map : StreamMap) (id : Nat) : Prop :=
  map.concurrencyControl.Spent map.isServer id

/-- The endpoint is going to destroy the stream. -/
def Closing (map : StreamMap) (id : Nat) : Prop :=
  ∃ events, map.events = some events ∧ .streamClosed id ∈ events

def Queued (map : StreamMap) (id : Nat) : Prop :=
  ∃ entry ∈ map.sendable, id ∈ entry.2.nonIncremental ∨ id ∈ entry.2.incremental

def Fresh (isServer : Bool) (id : Nat) (stream : Stream) : Prop :=
  ∃ maxTxData maxRxData maxWindow,
    stream = .new (isBidi id) (isLocal id isServer) maxTxData maxRxData maxWindow

/-- The stream is in the map, or it is new and its identifier was not used before. -/
def Opened (map : StreamMap) (id : Nat) (stream : Stream) : Prop :=
  map.get id = some stream ∨ map.get id = none ∧ ¬ map.Spent id ∧ Fresh map.isServer id stream

structure Quiet (before after : StreamMap) : Prop where
  isServer : after.isServer = before.isServer
  streams : after.streams = before.streams
  destroyed : after.destroyed = before.destroyed
  control : before.concurrencyControl.Grows after.concurrencyControl
  events : ∀ id, after.Closing id → before.Closing id

/-- A stream was opened and written back, and it is still in the map. -/
structure Held (before after : StreamMap) (id : Nat) (old new : Stream) : Prop where
  opened : before.Opened id old
  isServer : after.isServer = before.isServer
  streams : after.streams = before.streams.insert id new
  destroyed : after.destroyed = before.destroyed
  bidi : new.bidi = old.bidi
  byLocal : new.byLocal = old.byLocal
  closed : new.closed = old.closed
  control : before.concurrencyControl.Grows after.concurrencyControl
  spent : before.get id = none → before.concurrencyControl.Steady → after.Spent id
  events : ∀ other, after.Closing other → before.Closing other

/-- A stream was opened, written back and then closed. Without an event queue it is
destroyed at once. -/
structure Shut (before after : StreamMap) (id : Nat) (old new : Stream) : Prop where
  opened : before.Opened id old
  isServer : after.isServer = before.isServer
  streams : after.streams = before.streams.insert id new ∧ after.destroyed = before.destroyed ∨
    after.streams = before.streams.erase id ∧ after.destroyed = (id, new) :: before.destroyed
  bidi : new.bidi = old.bidi
  byLocal : new.byLocal = old.byLocal
  closed : new.closed = true
  control : before.concurrencyControl.Grows after.concurrencyControl
  spent : before.get id = none → before.concurrencyControl.Steady → after.Spent id
  events : ∀ other, after.Closing other → before.Closing other ∨ other = id

theorem Quiet.refl (map : StreamMap) : Quiet map map :=
  ⟨rfl, rfl, rfl, .refl _, fun _ closing => closing⟩

variable {before after : StreamMap}

theorem Quiet.get (quiet : Quiet before after) (id : Nat) : after.get id = before.get id := by
  rw [StreamMap.get, quiet.streams, StreamMap.get]

variable {old new : Stream}

theorem Held.quiet {before middle after : StreamMap} {id : Nat}
    (held : Held before middle id old new) (quiet : Quiet middle after) :
    Held before after id old new where
  opened := held.opened
  isServer := quiet.isServer.trans held.isServer
  streams := quiet.streams.trans held.streams
  destroyed := quiet.destroyed.trans held.destroyed
  bidi := held.bidi
  byLocal := held.byLocal
  closed := held.closed
  control := held.control.trans quiet.control
  spent missing steady := by
    have spent := held.spent missing steady
    rw [Spent, quiet.isServer]
    exact (quiet.control (held.control steady).1).2 _ _ spent
  events other closing := held.events other (quiet.events other closing)

theorem Shut.quiet {before middle after : StreamMap} {id : Nat}
    (shut : Shut before middle id old new) (quiet : Quiet middle after) :
    Shut before after id old new where
  opened := shut.opened
  isServer := quiet.isServer.trans shut.isServer
  streams := by
    rw [quiet.streams, quiet.destroyed]
    exact shut.streams
  bidi := shut.bidi
  byLocal := shut.byLocal
  closed := shut.closed
  control := shut.control.trans quiet.control
  spent missing steady := by
    have spent := shut.spent missing steady
    rw [Spent, quiet.isServer]
    exact (quiet.control (shut.control steady).1).2 _ _ spent
  events other closing := shut.events other (quiet.events other closing)

theorem Held.get {id : Nat} (held : Held before after id old new) : after.get id = some new := by
  rw [StreamMap.get, held.streams, OrdMap.get?_insert_self]

@[simp] theorem get_setStream (map : StreamMap) (id : Nat) (stream : Stream) :
    (map.setStream id stream).get id = some stream :=
  OrdMap.get?_insert_self _ _ _

theorem Held.set {id : Nat}
    (held : Held before after id old new) {next : Stream} (bidi : next.bidi = new.bidi)
    (byLocal : next.byLocal = new.byLocal) (closed : next.closed = new.closed) :
    Held before (after.setStream id next) id old next where
  opened := held.opened
  isServer := held.isServer
  streams := by
    rw [setStream, held.streams]
    exact OrdMap.insert_insert _ _ _ _
  destroyed := held.destroyed
  bidi := bidi.trans held.bidi
  byLocal := byLocal.trans held.byLocal
  closed := closed.trans held.closed
  control := held.control
  spent := held.spent
  events := held.events

theorem Held.of_get {map : StreamMap} {id : Nat} {stream : Stream}
    (found : map.get id = some stream) : Held map map id stream stream where
  opened := .inl found
  isServer := rfl
  streams := (OrdMap.insert_get? found).symm
  destroyed := rfl
  bidi := rfl
  byLocal := rfl
  closed := rfl
  control := .refl _
  spent missing := by
    rw [found] at missing
    cases missing
  events _ closing := closing

/-- The parts of the map that have nothing to do with opening or closing streams. -/
structure SameRest (before after : StreamMap) : Prop where
  flowControl : after.flowControl = before.flowControl
  sendCapacity : after.sendCapacity = before.sendCapacity
  sendable : after.sendable = before.sendable

theorem SameRest.refl (map : StreamMap) : SameRest map map := ⟨rfl, rfl, rfl⟩

theorem SameRest.trans {first second third : StreamMap} (former : SameRest first second)
    (latter : SameRest second third) : SameRest first third :=
  ⟨latter.1.trans former.1, latter.2.trans former.2, latter.3.trans former.3⟩

theorem setStream_rest (map : StreamMap) (id : Nat) (stream : Stream) :
    SameRest map (map.setStream id stream) :=
  ⟨rfl, rfl, rfl⟩

/-! ## Opening a stream -/

theorem isClosed_of_get_none {map : StreamMap} {id : Nat} (missing : map.get id = none) :
    map.isClosed id = true ↔ map.Spent id := by
  rw [isClosed, missing, Spent, ConcurrencyControl.Spent]
  simp only [Bool.not_eq_eq_eq_not, Bool.not_true, Bool.or_eq_false_iff]

theorem create_spec (map : StreamMap) (id : Nat) (byLocal : Bool) :
    (map.create id byLocal).2.isServer = map.isServer ∧
    (map.create id byLocal).2.streams = map.streams.insert id (map.create id byLocal).1 ∧
    (map.create id byLocal).2.destroyed = map.destroyed ∧
    (map.create id byLocal).2.concurrencyControl =
      map.concurrencyControl.removeAvailId id map.isServer ∧
    (map.create id byLocal).2.events = map.events.map (· ++ [.streamCreated id]) ∧
    SameRest map (map.create id byLocal).2 := by
  simp only [create]
  split <;> split <;> exact ⟨rfl, rfl, rfl, rfl, rfl, rfl, rfl, rfl⟩

private theorem create_closing {map : StreamMap} {id other : Nat} {byLocal : Bool}
    (closing : (map.create id byLocal).2.Closing other) : map.Closing other := by
  obtain ⟨events, found, member⟩ := closing
  rw [(create_spec map id byLocal).2.2.2.2.1] at found
  obtain ⟨earlier, present, rfl⟩ := Option.map_eq_some_iff.mp found
  refine ⟨earlier, present, ?_⟩
  simpa using member

/-- A stream is created under an unused identifier within the limit. -/
theorem create_held {map : StreamMap} {id : Nat} {byLocal : Bool} {control : ConcurrencyControl}
    (missing : map.get id = none) (unused : ¬ map.Spent id)
    (role : byLocal = isLocal id map.isServer) (grows : map.concurrencyControl.Grows control)
    (within : id / 4 < (control.limit (isLocal id map.isServer) (isBidi id)).maxStreams) :
    Held map (({ map with concurrencyControl := control }).create id byLocal).2 id
      (({ map with concurrencyControl := control }).create id byLocal).1
      (({ map with concurrencyControl := control }).create id byLocal).1 := by
  obtain ⟨isServer, streams, destroyed, removed, events, rest⟩ :=
    create_spec { map with concurrencyControl := control } id byLocal
  constructor
  case opened =>
    subst role
    exact .inr ⟨missing, unused, _, _, _, rfl⟩
  case isServer => exact isServer
  case streams => exact streams
  case destroyed => exact destroyed
  case control =>
    rw [removed]
    exact grows.trans (ConcurrencyControl.removeAvailId_grows _ _ _)
  case spent =>
    intro _ _
    rw [Spent, removed, isServer]
    exact ConcurrencyControl.removeAvailId_spent within
  case events =>
    intro other closing
    have earlier := create_closing closing
    exact earlier
  all_goals rfl

/-- A stream is found or created, or refused without a change to the others. -/
theorem getOrCreate_cases (map : StreamMap) (id : Nat) (byLocal : Bool) :
    (∃ error after, map.getOrCreate id byLocal = (.error error, after) ∧ Quiet map after ∧
      SameRest map after ∧ (error = .done → map.get id = none ∧ map.Spent id)) ∨
    ∃ stream after, map.getOrCreate id byLocal = (.ok stream, after) ∧
      Held map after id stream stream ∧ SameRest map after := by
  rw [getOrCreate]
  split
  case isTrue => exact .inl ⟨_, map, rfl, .refl map, .refl map, by simp⟩
  case isFalse =>
    cases found : map.get id with
    | some stream => exact .inr ⟨stream, map, rfl, .of_get found, .refl map⟩
    | none =>
      simp only
      split
      case isTrue closed =>
        exact .inl ⟨_, map, rfl, .refl map, .refl map,
          fun _ => ⟨trivial, (isClosed_of_get_none found).mp closed⟩⟩
      case isFalse available =>
        split
        case isTrue => exact .inl ⟨_, map, rfl, .refl map, .refl map, by simp⟩
        case isFalse role =>
          have grows := ConcurrencyControl.checkConcurrencyLimits_grows map.concurrencyControl id
            map.isServer
          cases checked : (map.concurrencyControl.checkConcurrencyLimits id map.isServer).1 with
          | error error =>
            refine .inl ⟨error, _, rfl, ⟨rfl, rfl, rfl, grows, fun _ closing => closing⟩,
              ⟨rfl, rfl, rfl⟩, ?_⟩
            rintro rfl
            rw [ConcurrencyControl.checkConcurrencyLimits] at checked
            split at checked <;> cases checked
          | ok _ =>
            have within := (ConcurrencyControl.checkConcurrencyLimits_ok checked).1
            have rest := (create_spec { map with
              concurrencyControl :=
                (map.concurrencyControl.checkConcurrencyLimits id map.isServer).2 }
              id byLocal).2.2.2.2.2
            refine .inr ⟨_, _, rfl, create_held found ?_ (not_not.mp role) grows within,
              ⟨rest.1, rest.2, rest.3⟩⟩
            exact fun spent => available ((isClosed_of_get_none found).mpr spent)

/-! ## Closing a stream -/

theorem streamDestroy_spec {map : StreamMap} {id : Nat} {stream : Stream}
    (found : map.get id = some stream) :
    map.streamDestroy id =
      { map with
        streams := map.streams.erase id
        destroyed := (id, stream) :: map.destroyed } := by
  simp only [streamDestroy, found]

theorem giveBackCredit_quiet (map : StreamMap) (id : Nat) (byLocal : Bool) :
    Quiet map (map.giveBackCredit id byLocal) ∧ SameRest map (map.giveBackCredit id byLocal) ∧
      (map.giveBackCredit id byLocal).events = map.events := by
  rw [giveBackCredit]
  split
  · exact ⟨.refl map, .refl map, rfl⟩
  · exact ⟨⟨rfl, rfl, rfl, ConcurrencyControl.increaseMaxStreamsCredits_grows _ _ _,
      fun _ closing => closing⟩, ⟨rfl, rfl, rfl⟩, rfl⟩

private theorem markClosed_shut {before map : StreamMap} {id : Nat}
    (held : Held before map id old new) (byLocal : Bool) :
    Shut before (map.markClosed id byLocal) id old new.markClosed ∧
      SameRest map (map.markClosed id byLocal) := by
  have found := held.get
  rw [markClosed]
  cases already : new.closed with
  | true =>
    have same : new.markClosed = new := by rw [Stream.markClosed, ← already]
    rw [if_pos (by rw [isClosed, found]; exact already), same]
    exact ⟨⟨held.opened, held.isServer, .inl ⟨held.streams, held.destroyed⟩, held.bidi,
      held.byLocal, already, held.control, held.spent,
      fun other closing => .inl (held.events other closing)⟩, .refl map⟩
  | false =>
    rw [if_neg (by rw [isClosed, found]; simp [Stream.isClosed, already])]
    obtain ⟨quiet, rest, sameEvents⟩ := giveBackCredit_quiet map id byLocal
    have marked : Held before
        (((map.giveBackCredit id byLocal).markReadable id false).markWritable id false) id old
        new :=
      (held.quiet quiet).quiet ⟨rfl, rfl, rfl, .refl _, fun _ closing => closing⟩
    simp only [marked.get]
    split
    case isTrue enabled =>
      refine ⟨⟨held.opened, marked.isServer, .inl ⟨?_, marked.destroyed⟩, held.bidi,
        held.byLocal, rfl, marked.control, marked.spent, ?_⟩, ⟨rest.1, rest.2, rest.3⟩⟩
      · simp only [addEvent, setStream, marked.streams, OrdMap.insert_insert]
      · rintro other ⟨events, present, member⟩
        obtain ⟨earlier, old, rfl⟩ := Option.map_eq_some_iff.mp present
        rcases List.mem_append.mp member with before | added
        · exact .inl (held.events other ⟨earlier, sameEvents.symm.trans old, before⟩)
        · simp only [List.mem_singleton, Event.streamClosed.injEq] at added
          exact .inr added
    case isFalse disabled =>
      rw [streamDestroy_spec (get_setStream _ _ _)]
      refine ⟨⟨held.opened, marked.isServer, .inr ⟨?_, ?_⟩, held.bidi,
        held.byLocal, rfl, marked.control, marked.spent, ?_⟩, ⟨rest.1, rest.2, rest.3⟩⟩
      · simp only [setStream, marked.streams, OrdMap.erase_insert]
      · simp only [setStream, marked.destroyed]
      · intro other closing
        exact .inl (marked.events other closing)

/-- A stream was opened and written back. It is closed only if it is complete. -/
inductive Touched (before after : StreamMap) (id : Nat) (old new : Stream) : Prop where
  | held (held : Held before after id old new)
  | shut (shut : Shut before after id old new) (complete : new.isComplete = true)

theorem Touched.quiet {before middle after : StreamMap} {id : Nat}
    (touched : Touched before middle id old new) (quiet : Quiet middle after) :
    Touched before after id old new := by
  cases touched with
  | held held => exact .held (held.quiet quiet)
  | shut shut complete => exact .shut (shut.quiet quiet) complete

theorem Held.close {before map : StreamMap} {id : Nat}
    (held : Held before map id old new) {condition : Bool}
    (complete : condition = true → new.isComplete = true) (byLocal : Bool) :
    ∃ closed : Bool,
      Touched before (if condition then map.markClosed id byLocal else map) id old
        { new with closed } ∧
      SameRest map (if condition then map.markClosed id byLocal else map) ∧
      (closed = true → old.closed = true ∨ condition = true) := by
  cases condition with
  | false =>
    exact ⟨new.closed, .held held, .refl map, fun closed => .inl (held.closed ▸ closed)⟩
  | true =>
    obtain ⟨shut, rest⟩ := markClosed_shut held byLocal
    exact ⟨true, .shut shut (complete rfl), rest, fun _ => .inr rfl⟩

/-! ## Changes outside the streams -/

theorem Quiet.trans {first second third : StreamMap} (former : Quiet first second)
    (latter : Quiet second third) : Quiet first third where
  isServer := latter.isServer.trans former.isServer
  streams := latter.streams.trans former.streams
  destroyed := latter.destroyed.trans former.destroyed
  control := former.control.trans latter.control
  events id closing := former.events id (latter.events id closing)

/-- Only marks that ask for frames or tell the application were set. -/
structure Aside (before after : StreamMap) : Prop where
  quiet : Quiet before after
  rest : SameRest before after

theorem Aside.refl (map : StreamMap) : Aside map map := ⟨.refl map, .refl map⟩

theorem Aside.ite {before left right : StreamMap} {condition : Prop} [Decidable condition]
    (yes : Aside before left) (no : Aside before right) :
    Aside before (if condition then left else right) := by
  split
  · exact yes
  · exact no

/-- A change that no result about streams depends on. -/
theorem Aside.of_eq (isServer : after.isServer = before.isServer)
    (streams : after.streams = before.streams) (destroyed : after.destroyed = before.destroyed)
    (control : after.concurrencyControl = before.concurrencyControl)
    (events : after.events = before.events) (rest : SameRest before after) : Aside before after :=
  ⟨⟨isServer, streams, destroyed, control ▸ .refl _, fun _ ⟨list, found, member⟩ =>
    ⟨list, events ▸ found, member⟩⟩, rest⟩

section Marks

variable (map : StreamMap) (id : Nat)

section

variable (flag : Bool)

theorem markReadable_aside : Aside map (map.markReadable id flag) :=
  .of_eq rfl rfl rfl rfl rfl ⟨rfl, rfl, rfl⟩

theorem markWritable_aside : Aside map (map.markWritable id flag) :=
  .of_eq rfl rfl rfl rfl rfl ⟨rfl, rfl, rfl⟩

theorem markAlmostFull_aside : Aside map (map.markAlmostFull id flag) :=
  .of_eq rfl rfl rfl rfl rfl ⟨rfl, rfl, rfl⟩

theorem markBlocked_aside (off : Nat) : Aside map (map.markBlocked id flag off) :=
  .of_eq rfl rfl rfl rfl rfl ⟨rfl, rfl, rfl⟩

theorem markReset_aside (errorCode finalSize : Nat) :
    Aside map (map.markReset id flag errorCode finalSize) :=
  .of_eq rfl rfl rfl rfl rfl ⟨rfl, rfl, rfl⟩

theorem markStopped_aside (errorCode : Nat) : Aside map (map.markStopped id flag errorCode) :=
  .of_eq rfl rfl rfl rfl rfl ⟨rfl, rfl, rfl⟩

end

end Marks

/-- One round of the loop that writes STREAM frames: the queue is empty, the stream in front is
skipped, or a frame of it is written, after which the loop ends if little room is left. -/
theorem writeStreamFrames_cases {fuel cap : Nat} {map after : StreamMap} {frames : List StreamFrame}
    (written : writeStreamFrames (fuel + 1) map cap = some (frames, after)) :
    map.peekSendable = (none, after) ∧ frames = [] ∨
      ∃ id middle, map.peekSendable = (some id, middle) ∧
        ((middle.get id).filter (fun stream => !stream.send.isStopped) = none ∧
            writeStreamFrames fuel middle.removeSendable cap = some (frames, after) ∨
          ∃ stream bytes fin send next later, middle.get id = some stream ∧
            stream.send.isStopped = false ∧
            stream.send.read (cap - streamHeaderWireLen id stream.send.sendOff) =
              some ((bytes, fin), send) ∧
            (if !Stream.isSendable { stream with send } then
              (middle.setStream id { stream with send }).removeSendable
              else middle.setStream id { stream with send }) = next ∧
            frames = ⟨id, stream.send.sendOff, bytes.length, fin⟩ :: later ∧
            (later = [] ∧ after = next ∨
              maxStreamOverhead <
                  cap - (streamHeaderWireLen id stream.send.sendOff + bytes.length) ∧
                writeStreamFrames fuel next
                    (cap - (streamHeaderWireLen id stream.send.sendOff + bytes.length)) =
                  some (later, after))) := by
  rw [writeStreamFrames] at written
  split at written
  case h_1 middle found =>
    cases written
    exact .inl ⟨found, rfl⟩
  case h_2 id middle found =>
    refine .inr ⟨id, middle, found, ?_⟩
    split at written
    case h_1 skipped => exact .inl ⟨skipped, written⟩
    case h_2 stream selected =>
      obtain ⟨present, running⟩ := Option.filter_eq_some_iff.mp selected
      simp only at written
      cases handed : stream.send.read (cap - streamHeaderWireLen id stream.send.sendOff) with
      | none => simp [handed] at written
      | some result =>
        obtain ⟨⟨bytes, fin⟩, send⟩ := result
        simp only [handed] at written
        split at written
        · cases written
          exact .inr ⟨stream, bytes, fin, send, _, [], present, by simpa using running, handed, rfl,
            rfl, .inl ⟨rfl, rfl⟩⟩
        · rename_i left
          obtain ⟨⟨later, final⟩, rest, same⟩ := Option.map_eq_some_iff.mp written
          cases same
          exact .inr ⟨stream, bytes, fin, send, _, later, present, by simpa using running, handed,
            rfl, rfl, .inr ⟨Nat.lt_of_not_le left, rest⟩⟩

end StreamMap

end Tquic.Connection
