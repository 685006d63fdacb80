import Tquic.H3.Connection
import Tquic.H3.StreamSafety

/-! What the receive path leaves alone. The parsers of a stream read it from the transport, they may
close the connection, and they change the state machine; a property that all of this keeps holds
through every parser. What the receive path does with the transport is to read, to stop reading and
to close. -/

set_option autoImplicit false

namespace Tquic.H3

open Lib Connection Stateful

namespace Http3Stream

/-- A property that reading, closing and the state machine leave alone. -/
structure Robust (inv : Http3Stream × QuicConn → Prop) : Prop where
  read : ∀ stream conn outLen, inv (stream, conn) →
    inv (stream, ((QuicConn.streamRead stream.streamId outLen).run conn).2)
  close : ∀ stream conn err reason, inv (stream, conn) →
    inv (stream, ((QuicConn.close true err reason).run conn).2)
  machine : ∀ stream conn machine, inv (stream, conn) → inv ({ stream with machine }, conn)
  event : ∀ stream conn flag, inv (stream, conn) →
    inv ({ stream with dataEventTriggered := flag }, conn)

variable {α : Type} {inv : Http3Stream × QuicConn → Prop}

theorem preserves_getStream {next : Http3Stream → Http3M Http3Stream α}
    (rest : ∀ stream conn, inv (stream, conn) → inv ((next stream).run (stream, conn)).2) :
    Preserves inv (getStream >>= next) :=
  fun state kept => rest state.1 state.2 kept

namespace Robust

variable (robust : Robust inv)

include robust

theorem ownMachine (steps : Stateful Http3StateMachine Http3Error α) :
    Preserves inv (ownMachine steps) :=
  fun state kept => robust.machine state.1 state.2 _ kept

theorem transitionState (newState : Http3StreamState) (newLen : Nat) (resized : Bool) :
    Preserves inv (own (transitionState newState newLen resized)) :=
  fun state kept => robust.machine state.1 state.2 _ kept

theorem resetDataEventState : Preserves inv (own resetDataEventState) :=
  fun state kept => robust.event state.1 state.2 _ kept

theorem closeWith (error : Http3Error) (reason : String) :
    Preserves inv (closeWith error reason : Http3M Http3Stream α) := by
  unfold H3.closeWith
  split_ifs
  · exact preserves_throw _
  · exact Preserves.bind (fun state kept => robust.close state.1 state.2 _ _ kept) fun _ =>
      preserves_throw _

theorem orClose (reason : Http3Error → String) {steps : Http3M Http3Stream α}
    (first : Preserves inv steps) : Preserves inv (orClose reason steps) := by
  refine first.attempt.bind fun result => ?_
  cases result with
  | ok value => exact preserves_pure value
  | error error => exact robust.closeWith error (reason error)

theorem failRead (error : Http3Error) : Preserves inv (failRead error : Http3M Http3Stream α) := by
  refine Preserves.bind ?_ fun _ => preserves_throw error
  split_ifs
  · exact robust.resetDataEventState
  · exact fun _ kept => kept

theorem readAndFillBuffer : Preserves inv readAndFillBuffer := by
  refine preserves_getStream fun stream conn kept => ?_
  dsimp only
  split_ifs
  · exact kept
  · exact kept
  · refine invariant_bind (robust.read stream conn _ kept) fun result => ?_
    cases result with
    | error error => exact robust.failRead error
    | ok read =>
        refine (robust.ownMachine _).bind fun _ => preserves_getStream fun stream conn kept => ?_
        split_ifs
        · exact kept
        · exact robust.failRead _ _ kept

theorem readAndParseVarint : Preserves inv readAndParseVarint := by
  refine robust.readAndFillBuffer.bind fun _ => (robust.ownMachine _).attempt.bind fun result => ?_
  split
  · exact preserves_pure _
  · exact robust.readAndFillBuffer.bind fun _ => robust.ownMachine _
  · exact preserves_throw _

theorem setFramePayloadLen (len : Nat) : Preserves inv (own (setFramePayloadLen len)) := by
  intro state kept
  refine (ends_own.mpr ?_).invariant
  unfold Http3Stream.setFramePayloadLen
  refine ends_bind.mpr (ends_get.mpr ?_)
  split_ifs
  · exact ends_own.mp ((robust.transitionState _ _ _).ends kept)
  · exact kept
  · exact ends_own.mp ((robust.transitionState _ _ _).ends kept)

theorem parseFramePayloadLength : Preserves inv parseFramePayloadLength :=
  robust.readAndParseVarint.bind fun len => robust.orClose _ (robust.setFramePayloadLen len)

theorem parseFramePayloadInner : Preserves inv parseFramePayloadInner := by
  refine robust.readAndFillBuffer.bind fun _ => robust.resetDataEventState.bind fun _ =>
    preserves_getStream fun stream conn kept => ?_
  cases stream.frameType with
  | none => exact kept
  | some frameType =>
      exact ((preserves_ofExcept _).bind fun frame => (robust.transitionState _ _ _).bind fun _ =>
        preserves_pure _) _ kept

theorem parseFramePayload : Preserves inv parseFramePayload := by
  refine robust.parseFramePayloadInner.attempt.bind fun result => ?_
  split
  · exact preserves_pure _
  · exact preserves_throw _
  · exact robust.closeWith _ _

theorem readDataFromQuic (outLen : Nat) : Preserves inv (readDataFromQuic outLen) := by
  refine preserves_getStream fun stream conn kept => ?_
  dsimp only
  cases stream.machine.remainingLen with
  | error error => exact kept
  | ok remaining =>
      rw [bind_run (ofExcept_succeeds.mpr ⟨rfl, rfl⟩)]
      refine invariant_bind (robust.read stream conn _ kept) fun result => ?_
      cases result with
      | error error => exact robust.failRead error
      | ok read =>
          refine (robust.ownMachine _).bind fun _ => .of_get fun state kept => ?_
          refine invariant_bind ?_ fun _ => preserves_getStream fun stream conn kept =>
            invariant_bind ?_ fun _ => preserves_pure read
          · split_ifs
            · exact robust.resetDataEventState state kept
            · exact kept
          · split_ifs
            · exact robust.transitionState _ _ _ _ kept
            · exact kept

end Robust

end Http3Stream

/-- The streams that give no event keep what the next one relies on. -/
theorem firstEvent_ends {post : Nat × Http3Event → Http3Connection × QuicConn → Prop}
    {inv : Http3Connection × QuicConn → Prop} {process : Nat → ConnM (Nat × Http3Event)}
    (each : ∀ id state, inv state → Ends post (fun _ => inv) ((process id).run state))
    {ids : List Nat} {state : Http3Connection × QuicConn} (kept : inv state) :
    Ends post (fun _ => inv) ((Http3Connection.firstEvent process ids).run state) := by
  induction ids generalizing state with
  | nil => exact kept
  | cons id rest ih =>
      refine ends_bind.mpr (ends_attempt.mpr ((each id state kept).mono ?_ ?_))
      · exact fun _ _ told => told
      · intro error after kept
        split
        case h_1 same => cases same
        case h_2 => exact ih kept
        case h_3 => exact kept

/-- The property holds of the transport. -/
def OnConn {σ : Type} (p : QuicConn → Prop) (state : σ × QuicConn) : Prop := p state.2

/-- A property of the transport that the receive path keeps. -/
structure Undisturbed (p : QuicConn → Prop) : Prop where
  read : ∀ conn id outLen, p conn → p ((QuicConn.streamRead id outLen).run conn).2
  shutdown : ∀ conn id err, p conn → p ((QuicConn.streamShutdown id .read err).run conn).2
  close : ∀ conn err reason, p conn → p ((QuicConn.close true err reason).run conn).2

namespace Undisturbed

open Http3Connection

variable {α : Type} {p : QuicConn → Prop}

theorem own {steps : Stateful Http3Stream Http3Error α} :
    Preserves (OnConn p) (Http3Stream.own steps) := fun _ kept => kept

theorem onStream {id : Nat} {steps : Http3M Http3Stream α} (kept : Preserves (OnConn p) steps) :
    Preserves (OnConn p) (Http3Connection.onStream id steps) := by
  intro state holds
  change p (Http3Connection.onStream id steps state).2.2
  unfold Http3Connection.onStream
  split
  · exact holds
  · exact kept (_, state.2) holds

theorem update (change : Http3Connection → Http3Connection) :
    Preserves (OnConn p) (Http3Connection.update change) := fun _ kept => kept

theorem getOrCreate (id : Nat) (byLocal : Bool) :
    Preserves (OnConn p) (getOrCreate id byLocal) := by
  refine .of_get fun state kept => ?_
  dsimp only
  split
  · exact kept
  · split_ifs
    · exact kept
    · exact kept

theorem again {id : Nat} {steps : Http3M Http3Stream Unit} (kept : Preserves (OnConn p) steps) :
    Preserves (OnConn p) (do Http3Connection.onStream id steps; return Turn.again : ConnM Turn) :=
  (onStream kept).bind fun _ => preserves_pure _

theorem loop {id : Nat} {turn : Http3Stream → ConnM Turn}
    (kept : ∀ stream, Preserves (OnConn p) (turn stream)) :
    Preserves (OnConn p) (processReadableStreamLoop id turn) := by
  refine .of_get fun state holds => ?_
  dsimp only
  generalize turnsFor id state.2 = turns
  induction turns generalizing state with
  | zero => exact holds
  | succ turns ih =>
      refine Preserves.of_get (fun state holds => ?_) state holds
      dsimp only
      split
      · exact holds
      case h_2 stream _ =>
        refine invariant_bind (kept stream state holds) fun result => ?_
        cases result with
        | again => exact ih
        | leave => exact preserves_throw _
        | event event => exact preserves_pure _

variable (keeps : Undisturbed p)

include keeps

theorem robust : Http3Stream.Robust (OnConn p) where
  read stream conn outLen := keeps.read conn stream.streamId outLen
  close _ conn := keeps.close conn
  machine _ _ _ kept := kept
  event _ _ _ kept := kept

theorem parseUniStreamType : Preserves (OnConn p) Http3Stream.parseUniStreamType :=
  keeps.robust.readAndParseVarint.bind fun _ =>
    (keeps.robust.orClose _ own).bind fun _ => preserves_pure _

theorem parsePushId : Preserves (OnConn p) Http3Stream.parsePushId :=
  keeps.robust.readAndParseVarint.bind fun _ => keeps.robust.orClose _ own

theorem parseFrameType : Preserves (OnConn p) Http3Stream.parseFrameType :=
  keeps.robust.readAndParseVarint.bind fun _ => keeps.robust.orClose _ own

theorem closeWith (error : Http3Error) (reason : String) :
    Preserves (OnConn p) (H3.closeWith error reason : Http3M Http3Connection α) := by
  unfold H3.closeWith
  split_ifs
  · exact preserves_throw _
  · exact Preserves.bind (fun state kept => keeps.close state.2 _ _ kept) fun _ => preserves_throw _

theorem handleFrame (id : Nat) (frame : Http3Frame) :
    Preserves (OnConn p) (handleFrame id frame) := by
  cases frame with
  | data _ => exact preserves_throw _
  | cancelPush _ => exact preserves_throw _
  | unknown _ _ => exact preserves_throw _
  | settings _ _ _ _ _ => exact (update _).bind fun _ => preserves_throw _
  | headers fieldSection =>
      refine .of_get fun state kept => ?_
      dsimp only
      split
      · exact keeps.closeWith _ _ state kept
      · exact kept
  | goAway id =>
      refine .of_get fun state kept => ?_
      dsimp only
      split_ifs
      · exact invariant_bind (keeps.close state.2 _ _ kept) fun _ => preserves_throw _
      · exact keeps.closeWith _ _ state kept
      · exact kept
  | maxPushId pushId =>
      refine .of_get fun state kept => ?_
      dsimp only
      split_ifs
      · exact keeps.closeWith _ _ state kept
      · exact keeps.closeWith _ _ state kept
      · exact kept
  | pushPromise pushId _ =>
      refine .of_get fun state kept => ?_
      dsimp only
      split_ifs
      · exact keeps.closeWith _ _ state kept
      · exact keeps.closeWith _ _ state kept
      · exact keeps.closeWith _ _ state kept
      · exact kept
  | priorityUpdateRequest prioritizedElementId priorityFieldValue =>
      refine .of_get fun state kept => ?_
      dsimp only
      split_ifs
      · exact keeps.closeWith _ _ state kept
      · exact keeps.closeWith _ _ state kept
      · exact keeps.closeWith _ _ state kept
      · exact kept
      · refine invariant_bind (getOrCreate _ _ state kept) fun result => ?_
        cases result with
        | error error => exact keeps.closeWith _ _
        | ok stream =>
            refine (update _).bind fun _ => ?_
            split_ifs
            · exact preserves_throw _
            · exact preserves_pure _
  | priorityUpdatePush _ _ =>
      refine .of_get fun state kept => ?_
      dsimp only
      split_ifs
      · exact keeps.closeWith _ _ state kept
      · exact kept

theorem processFrame (id : Nat) (frame : Http3Frame) (payloadLen : Nat) :
    Preserves (OnConn p) (processFrame id frame payloadLen) :=
  (update _).bind fun _ => keeps.handleFrame id frame

theorem requestTurn (id : Nat) (polling : Bool) (stream : Http3Stream) :
    Preserves (OnConn p) (requestTurn id polling stream) := by
  unfold Http3Connection.requestTurn
  split
  · exact again keeps.parseFrameType
  · exact again keeps.robust.parseFramePayloadLength
  · split_ifs
    · exact preserves_pure _
    · refine (onStream keeps.robust.parseFramePayload).bind fun parsed =>
        (keeps.processFrame _ _ _).attempt.bind fun result => ?_
      split
      · exact preserves_pure _
      · exact .of_get fun state kept => kept
      · exact preserves_throw _
  · split_ifs
    · exact preserves_pure _
    · exact (onStream own).bind fun _ => preserves_pure _
  · exact preserves_pure _
  · exact preserves_throw _

theorem pushTurn (id : Nat) (polling : Bool) (stream : Http3Stream) :
    Preserves (OnConn p) (pushTurn id polling stream) := by
  unfold Http3Connection.pushTurn
  split
  · exact again keeps.parsePushId
  · exact keeps.requestTurn _ _ _

theorem controlTurn (id : Nat) (stream : Http3Stream) :
    Preserves (OnConn p) (controlTurn id stream) := by
  unfold Http3Connection.controlTurn
  split
  · exact again keeps.parseFrameType
  · exact again keeps.robust.parseFramePayloadLength
  · refine (onStream keeps.robust.parseFramePayload).bind fun parsed =>
      (keeps.processFrame _ _ _).attempt.bind fun result => ?_
    split
    · exact preserves_pure _
    · exact preserves_pure _
    · exact preserves_throw _
  · exact preserves_throw _

/-! ## Streams -/

omit keeps in
theorem readAll {id : Nat} (kept : ∀ conn, p conn → p ((QuicConn.streamRead id 4096).run conn).2)
    (turns : Nat) : Preserves (OnConn p) (discardAll id turns) := by
  induction turns with
  | zero => exact preserves_throw _
  | succ turns ih => exact Preserves.bind (fun state holds => kept state.2 holds) fun _ => ih

theorem processNewUniStream (id : Nat) (streamType : Http3StreamType) :
    Preserves (OnConn p) (processNewUniStream id streamType) := by
  have registered : ∀ (taken : Bool) (reason : String) (change : Http3Connection → Http3Connection),
      Preserves (OnConn p) (if taken = true then H3.closeWith .streamCreationError reason
        else Http3Connection.update change : ConnM Unit) := by
    intro taken reason change
    split_ifs
    · exact keeps.closeWith _ _
    · exact update _
  cases streamType with
  | unknown _ => exact preserves_pure _
  | request => exact preserves_throw _
  | push =>
      refine .of_get fun state kept => ?_
      dsimp only
      split_ifs
      · exact keeps.closeWith _ _ state kept
      · exact kept
  | control => exact .of_get fun state => registered _ _ _ state
  | qpackEncoder => exact .of_get fun state => registered _ _ _ state
  | qpackDecoder => exact .of_get fun state => registered _ _ _ state

theorem learnUniStreamType (id : Nat) (stream : Http3Stream) :
    Preserves (OnConn p) (learnUniStreamType id stream) := by
  unfold Http3Connection.learnUniStreamType
  split_ifs
  · exact (onStream keeps.parseUniStreamType).bind fun _ => keeps.processNewUniStream id _
  · exact preserves_pure _

theorem processReadableUniStream (id : Nat) (polling : Bool) :
    Preserves (OnConn p) (processReadableUniStream id polling) := by
  refine .of_get fun state kept => ?_
  dsimp only
  split
  · exact kept
  · refine invariant_bind (keeps.learnUniStreamType id _ state kept) fun _ => .of_get fun state kept => ?_
    split
    · exact loop (keeps.controlTurn id) state kept
    · exact loop (keeps.pushTurn id polling) state kept
    · exact Preserves.of_get (readAll (fun conn => keeps.read conn id 4096) _) state kept
    · exact Preserves.of_get (readAll (fun conn => keeps.read conn id 4096) _) state kept
    · exact invariant_bind (keeps.shutdown state.2 id _ kept) fun _ => preserves_throw _
    · exact kept
    · exact kept

theorem checkCriticalStreamState (id : Nat) : Preserves (OnConn p) (checkCriticalStreamState id) := by
  refine .of_get fun state kept => ?_
  dsimp only
  split_ifs
  · exact keeps.closeWith _ _ state kept
  · exact kept

theorem processCriticalStream (id : Nat) : Preserves (OnConn p) (processCriticalStream id) := by
  refine (keeps.checkCriticalStreamState id).bind fun _ => .of_get fun state kept => ?_
  dsimp only
  split_ifs
  · exact kept
  · refine invariant_bind (keeps.processReadableUniStream id true state kept) fun result => ?_
    split
    · exact preserves_pure _
    · exact (keeps.checkCriticalStreamState id).bind fun _ => preserves_throw _
    · exact preserves_throw _

theorem processCriticalStreams : Preserves (OnConn p) processCriticalStreams :=
  .of_get fun _ kept =>
    (firstEvent_ends (fun id _ kept => (keeps.processCriticalStream id).ends kept) kept).invariant

end Undisturbed

end Tquic.H3
