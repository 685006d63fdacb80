import Tquic.H3.ReceiveRun
import Tquic.H3.StreamInvariants

/-! What keeps a stream that was marked as read whole from being marked again, call by call, and what
a call does to the streams whose end is to be reported. -/

set_option autoImplicit false

namespace Tquic.H3

open Lib Connection Stateful

variable {α : Type}

namespace Http3Connection

/-- The stream is there and marked as read whole. -/
def Settled (http3 : Http3Connection) (id : Nat) : Prop :=
  ∃ own, http3.streams.get? id = some own ∧ own.state = .readFinished

/-- The ends to be reported, and marks that are there. -/
structure Steady (queue : List Nat) (marked : Nat → Prop) (state : Http3Connection × QuicConn) :
    Prop where
  queue : state.1.finishedStreams = queue
  marked : ∀ id, marked id → state.1.Settled id

/-- An event that does not tell of an end. -/
def Plain (event : Nat × Http3Event) : Prop :=
  event.2 ≠ .finished ∧ ∀ errorCode, event.2 ≠ .reset errorCode

/-- Steps that mark nothing and unmark nothing, and that end with a plain event if with any. -/
def Calmly (queue : List Nat) (marked : Nat → Prop) :
    Except Http3Error (Nat × Http3Event) × Http3Connection × QuicConn → Prop :=
  Ends (fun event after => Plain event ∧ Steady queue marked after) (fun _ => Steady queue marked)

variable {queue : List Nat} {marked : Nat → Prop} {state : Http3Connection × QuicConn} {id : Nat}

theorem steady_of_none (state : Http3Connection × QuicConn) :
    Steady state.1.finishedStreams (fun _ => False) state := ⟨rfl, fun _ impossible => impossible.elim⟩

variable {http3 : Http3Connection} {stream : Http3Stream}

theorem Settled.setStream {other : Nat} (settled : http3.Settled id)
    (kept : other = id → stream.state = .readFinished) :
    (http3.setStream other stream).Settled id := by
  obtain ⟨own, found, state⟩ := settled
  by_cases same : other = id
  · subst same
    exact ⟨stream, OrdMap.get?_insert_self _ _ _, kept rfl⟩
  · refine ⟨own, ?_, state⟩
    rw [get?_setStream, if_neg (Ne.symm same)]
    exact found

theorem Steady.setStream (steady : Steady queue marked state)
    (kept : marked id → stream.state = .readFinished) {conn : QuicConn} :
    Steady queue marked (state.1.setStream id stream, conn) where
  queue := steady.queue
  marked other member := (steady.marked other member).setStream fun same => kept (same ▸ member)

private theorem steady_call (steps : Stateful QuicConn Error α) :
    Preserves (Steady queue marked) (call steps : ConnM α) :=
  fun _ steady => ⟨steady.queue, steady.marked⟩

theorem steady_closeWith (error : Http3Error) (reason : String) :
    Preserves (Steady queue marked) (closeWith error reason : ConnM α) := by
  unfold closeWith
  split_ifs
  · exact preserves_throw _
  · exact (steady_call _).bind fun _ => preserves_throw _

section

variable (steady : Steady queue marked state)

include steady

theorem Steady.unmarked
    (found : state.1.streams.get? id = some stream) (going : stream.state ≠ .readFinished) :
    ¬ marked id := by
  intro member
  obtain ⟨own, present, finished⟩ := steady.marked id member
  cases found.symm.trans present
  exact going finished

theorem Steady.onStream
    (found : state.1.streams.get? id = some stream) (going : stream.state ≠ .readFinished)
    (steps : Http3M Http3Stream α) :
    Ends (fun _ => Steady queue marked) (fun _ => Steady queue marked)
      ((onStream id steps).run state) := by
  rw [onStream_run found]
  have kept : ∀ (next : Http3Stream) (conn : QuicConn),
      Steady queue marked (state.1.setStream id next, conn) := fun _ _ =>
    steady.setStream fun member => absurd member (steady.unmarked found going)
  cases (steps.run (stream, state.2)).1 with
  | ok value => exact kept _ _
  | error error => exact kept _ _

theorem Steady.of_streams {after : Http3Connection × QuicConn}
    (queued : after.1.finishedStreams = state.1.finishedStreams)
    (same : after.1.streams = state.1.streams) : Steady queue marked after where
  queue := queued.trans steady.queue
  marked other member := by
    obtain ⟨own, found, finished⟩ := steady.marked other member
    exact ⟨own, same ▸ found, finished⟩

theorem closeWith_calmly (error : Http3Error) (reason : String) :
    Calmly queue marked ((closeWith error reason : ConnM (Nat × Http3Event)).run state) := by
  refine (closeWith_ends error reason state).mono (fun _ _ impossible => impossible.elim) ?_
  rintro _ after ⟨_, same, _⟩
  exact steady.of_streams (same ▸ rfl) (same ▸ rfl)

end

/-! ## Frames -/

section

variable (steady : Steady queue marked state)

include steady

theorem getOrCreate_steady (byLocal : Bool) :
    Ends (fun stream after => Steady queue marked after ∧ after.1.streams.get? id = some stream)
      (fun _ => Steady queue marked) ((getOrCreate id byLocal).run state) := by
  unfold getOrCreate
  refine ends_bind.mpr (ends_get.mpr ?_)
  dsimp only
  split
  case h_1 stream found => exact ⟨steady, found⟩
  case h_2 missing =>
    split_ifs
    · exact steady
    · refine ends_bind.mpr (ends_update.mpr ⟨steady.setStream fun member => ?_,
        OrdMap.get?_insert_self _ _ _⟩)
      obtain ⟨own, found, _⟩ := steady.marked id member
      cases missing.symm.trans found

private theorem onPriorityUpdateRequestFrameReceived_calmly
    (prioritizedElementId : Nat) (priorityFieldValue : Bytes) :
    Calmly queue marked
      ((onPriorityUpdateRequestFrameReceived prioritizedElementId priorityFieldValue).run state) := by
  unfold onPriorityUpdateRequestFrameReceived
  refine ends_bind.mpr (ends_get.mpr ?_)
  dsimp only
  split_ifs
  · exact closeWith_calmly steady _ _
  · exact closeWith_calmly steady _ _
  · exact closeWith_calmly steady _ _
  · exact steady
  · refine ends_bind.mpr (ends_attempt.mpr ((getOrCreate_steady steady false).mono ?_ ?_))
    · rintro stream after ⟨steady, found⟩
      have prioritized : Steady queue marked
          (after.1.setStream prioritizedElementId
            { stream with priorityUpdate := some priorityFieldValue }, after.2) :=
        steady.setStream fun member => by
          obtain ⟨own, present, finished⟩ := steady.marked _ member
          cases found.symm.trans present
          exact finished
      refine ends_bind.mpr (ends_update.mpr ?_)
      split_ifs
      · exact prioritized
      · exact ⟨⟨fun other => (nomatch other), fun _ other => (nomatch other)⟩, prioritized⟩
    · exact fun _ _ steady => closeWith_calmly steady _ _

private theorem handleFrame_calmly (frame : Http3Frame) :
    Calmly queue marked ((handleFrame id frame).run state) := by
  cases frame with
  | data _ => exact steady
  | cancelPush _ => exact steady
  | unknown _ _ => exact steady
  | settings _ _ _ _ _ => exact ends_bind.mpr (ends_update.mpr (steady.of_streams rfl rfl))
  | headers fieldSection =>
      refine ends_bind.mpr (ends_get.mpr ?_)
      dsimp only
      split
      case h_1 => exact closeWith_calmly steady _ _
      case h_2 => exact ⟨⟨fun other => (nomatch other), fun _ other => (nomatch other)⟩, steady⟩
  | goAway id =>
      refine ends_bind.mpr (ends_get.mpr ?_)
      dsimp only
      split_ifs
      · refine ends_bind.mpr (ends_call.mpr ((close_ends _ _ _ state.2).mono ?_ ?_))
        · exact fun _ _ _ => steady.of_streams rfl rfl
        · exact fun _ _ _ => steady.of_streams rfl rfl
      · exact closeWith_calmly steady _ _
      · refine ends_bind.mpr (ends_update.mpr ⟨?_, steady.of_streams rfl rfl⟩)
        exact ⟨fun other => (nomatch other), fun _ other => (nomatch other)⟩
  | maxPushId pushId =>
      refine ends_bind.mpr (ends_get.mpr ?_)
      dsimp only
      split_ifs
      · exact closeWith_calmly steady _ _
      · exact closeWith_calmly steady _ _
      · exact ends_bind.mpr (ends_update.mpr (steady.of_streams rfl rfl))
  | pushPromise pushId _ =>
      refine ends_bind.mpr (ends_get.mpr ?_)
      dsimp only
      split_ifs
      · exact closeWith_calmly steady _ _
      · exact closeWith_calmly steady _ _
      · exact closeWith_calmly steady _ _
      · exact steady
  | priorityUpdateRequest prioritizedElementId priorityFieldValue =>
      exact onPriorityUpdateRequestFrameReceived_calmly steady _ _
  | priorityUpdatePush _ _ =>
      refine ends_bind.mpr (ends_get.mpr ?_)
      dsimp only
      split_ifs
      · exact closeWith_calmly steady _ _
      · exact steady

theorem processFrame_calmly (frame : Http3Frame)
    (payloadLen : Nat) : Calmly queue marked ((processFrame id frame payloadLen).run state) := by
  have recorded : Steady queue marked
      ({ state.1 with processed := state.1.processed ++ [(id, frame)] }, state.2) :=
    steady.of_streams rfl rfl
  exact ends_bind.mpr (ends_update.mpr (handleFrame_calmly recorded frame))

end

/-! ## Turns -/

def CalmTurn (queue : List Nat) (marked : Nat → Prop) :
    Except Http3Error Turn × Http3Connection × QuicConn → Prop :=
  Ends (fun turn after => (∀ event, turn = .event event → Plain event) ∧ Steady queue marked after)
    (fun _ => Steady queue marked)

section

variable (steady : Steady queue marked state)

include steady

section

variable (found : state.1.streams.get? id = some stream)

include found

theorem calm_again {steps : Http3M Http3Stream Unit} (going : stream.state ≠ .readFinished) :
    CalmTurn queue marked ((do onStream id steps; return Turn.again : ConnM Turn).run state) :=
  ends_bind.mpr ((steady.onStream found going steps).mono
    (fun _ _ steady => ⟨fun _ other => (nomatch other), steady⟩) fun _ _ steady => steady)

theorem requestTurn_calm (polling : Bool) :
    CalmTurn queue marked ((requestTurn id polling stream).run state) := by
  have leave : CalmTurn queue marked ((return Turn.leave : ConnM Turn).run state) :=
    ⟨fun _ other => (nomatch other), steady⟩
  unfold requestTurn
  split
  case h_1 place => exact calm_again steady found (by rw [place]; decide)
  case h_2 place => exact calm_again steady found (by rw [place]; decide)
  case h_3 place =>
    split_ifs
    · exact leave
    · refine ends_bind.mpr ((steady.onStream found (by rw [place]; decide) _).mono ?_
        fun _ _ steady => steady)
      intro parsed after steady
      refine ends_bind.mpr (ends_attempt.mpr ((processFrame_calmly steady _ _).mono ?_ ?_))
      · rintro event _ ⟨plain, steady⟩
        refine ⟨fun other same => ?_, steady⟩
        cases same
        exact plain
      · intro error after steady
        split
        case h_1 same => cases same
        case h_2 =>
          refine ends_bind.mpr (ends_get.mpr ⟨fun other same => ?_, steady⟩)
          split_ifs at same
        case h_3 => exact steady
  case h_4 place =>
    split_ifs
    · exact leave
    · refine ends_bind.mpr ((steady.onStream found (by rw [place]; decide) _).mono ?_
        fun _ _ steady => steady)
      intro triggered after steady
      refine ⟨fun other same => ?_, steady⟩
      split_ifs at same
      cases same
      exact ⟨fun other => (nomatch other), fun _ other => (nomatch other)⟩
  case h_5 => exact leave
  case h_6 => exact steady

private theorem pushTurn_calm (polling : Bool) :
    CalmTurn queue marked ((pushTurn id polling stream).run state) := by
  unfold pushTurn
  split
  case h_1 place => exact calm_again steady found (by rw [place]; decide)
  case h_2 => exact requestTurn_calm steady found polling

private theorem controlTurn_calm : CalmTurn queue marked ((controlTurn id stream).run state) := by
  unfold controlTurn
  split
  case h_1 place => exact calm_again steady found (by rw [place]; decide)
  case h_2 place => exact calm_again steady found (by rw [place]; decide)
  case h_3 place =>
    refine ends_bind.mpr ((steady.onStream found (by rw [place]; decide) _).mono ?_
      fun _ _ steady => steady)
    intro parsed after steady
    refine ends_bind.mpr (ends_attempt.mpr ((processFrame_calmly steady _ _).mono ?_ ?_))
    · rintro event _ ⟨plain, steady⟩
      refine ⟨fun other same => ?_, steady⟩
      cases same
      exact plain
    · intro error after steady
      split
      case h_1 same => cases same
      case h_2 => exact ⟨fun _ other => (nomatch other), steady⟩
      case h_3 => exact steady
  case h_4 => exact steady

end

end

theorem loop_calmly {turn : Http3Stream → ConnM Turn}
    (calm : ∀ state stream, Steady queue marked state → state.1.streams.get? id = some stream →
      CalmTurn queue marked ((turn stream).run state))
    (steady : Steady queue marked state) :
    Calmly queue marked ((processReadableStreamLoop id turn).run state) := by
  refine ends_bind.mpr (ends_get.mpr ?_)
  dsimp only
  generalize turnsFor id state.2 = turns
  induction turns generalizing state with
  | zero => exact steady
  | succ turns ih =>
      refine ends_bind.mpr (ends_get.mpr ?_)
      dsimp only
      split
      case h_1 => exact steady
      case h_2 stream found =>
        refine ends_bind.mpr ((calm state stream steady found).mono ?_ fun _ _ steady => steady)
        rintro result after ⟨plain, steady⟩
        cases result with
        | again => exact ih steady
        | leave => exact steady
        | event event => exact ⟨plain event rfl, steady⟩

/-! ## Streams -/

theorem discardAll_calmly {turns : Nat} (steady : Steady queue marked state) :
    Calmly queue marked ((discardAll id turns).run state) := by
  induction turns generalizing state with
  | zero => exact steady
  | succ turns ih =>
      refine ends_bind.mpr (ends_call.mpr (Ends.of_forall ?_ ?_))
      · exact fun _ _ => ih (steady.of_streams rfl rfl)
      · exact fun _ _ => steady.of_streams rfl rfl

private theorem steady_processNewUniStream (streamType : Http3StreamType) :
    Preserves (Steady queue marked) (processNewUniStream id streamType) := by
  have registered : ∀ (taken : Bool) (reason : String) (change : Http3Connection → Http3Connection),
      (∀ http3, (change http3).finishedStreams = http3.finishedStreams ∧
        (change http3).streams = http3.streams) →
      Preserves (Steady queue marked)
        (if taken = true then closeWith .streamCreationError reason else update change :
          ConnM Unit) := by
    intro taken reason change same
    split_ifs
    · exact steady_closeWith _ _
    · exact fun state steady => steady.of_streams (same state.1).1 (same state.1).2
  cases streamType with
  | unknown _ => exact preserves_pure _
  | request => exact preserves_throw _
  | push =>
      refine .of_get fun state steady => ?_
      dsimp only
      split_ifs
      · exact steady_closeWith _ _ state steady
      · exact steady
  | control =>
      refine .of_get fun state => registered _ _ _ ?_ state
      exact fun _ => ⟨rfl, rfl⟩
  | qpackEncoder =>
      refine .of_get fun state => registered _ _ _ ?_ state
      exact fun _ => ⟨rfl, rfl⟩
  | qpackDecoder =>
      refine .of_get fun state => registered _ _ _ ?_ state
      exact fun _ => ⟨rfl, rfl⟩

section

variable (steady : Steady queue marked state)

include steady

private theorem learnUniStreamType_steady (found : state.1.streams.get? id = some stream) :
    Ends (fun _ => Steady queue marked) (fun _ => Steady queue marked)
      ((learnUniStreamType id stream).run state) := by
  unfold learnUniStreamType
  split
  case isTrue place =>
    refine ends_bind.mpr ((steady.onStream found (by rw [place]; decide) _).mono ?_
      fun _ _ steady => steady)
    exact fun streamType _ steady => (steady_processNewUniStream streamType).ends steady
  case isFalse => exact steady

theorem processReadableUniStream_calmly (polling : Bool) :
    Calmly queue marked ((processReadableUniStream id polling).run state) := by
  refine ends_bind.mpr (ends_get.mpr ?_)
  dsimp only
  split
  case h_1 => exact steady
  case h_2 stream found =>
    refine ends_bind.mpr ((learnUniStreamType_steady steady found).mono ?_ fun _ _ steady => steady)
    intro _ after steady
    refine ends_bind.mpr (ends_get.mpr ?_)
    split
    · exact loop_calmly (fun _ _ steady found => controlTurn_calm steady found) steady
    · exact loop_calmly (fun _ _ steady found => pushTurn_calm steady found polling) steady
    · exact ends_bind.mpr (ends_get.mpr (discardAll_calmly steady))
    · exact ends_bind.mpr (ends_get.mpr (discardAll_calmly steady))
    · refine ends_bind.mpr (ends_call.mpr (Ends.of_forall ?_ ?_))
      · exact fun _ _ => steady.of_streams rfl rfl
      · exact fun _ _ => steady.of_streams rfl rfl
    · exact steady
    · exact steady

theorem processReadableStream_calmly (id : Nat) (polling : Bool) :
    Calmly queue marked ((processReadableStream id polling).run state) := by
  refine ends_bind.mpr (ends_attempt.mpr ((getOrCreate_steady steady false).mono ?_ ?_))
  · rintro _ after ⟨steady, _⟩
    split_ifs
    · exact loop_calmly (fun _ _ steady found => requestTurn_calm steady found polling) steady
    · exact processReadableUniStream_calmly steady polling
  · exact fun _ _ steady => closeWith_calmly steady _ _

theorem checkCriticalStreamState_steady :
    Ends (fun _ => Steady queue marked) (fun _ => Steady queue marked)
      ((checkCriticalStreamState id).run state) := by
  refine ends_bind.mpr (ends_get.mpr ?_)
  dsimp only
  split_ifs
  · refine (closeWith_ends _ _ state).mono (fun _ _ impossible => impossible.elim) ?_
    rintro _ after ⟨_, same, _⟩
    exact steady.of_streams (same ▸ rfl) (same ▸ rfl)
  · exact steady

private theorem processCriticalStream_calmly (id : Nat) :
    Calmly queue marked ((processCriticalStream id).run state) := by
  unfold processCriticalStream
  refine ends_bind.mpr ((checkCriticalStreamState_steady steady).mono ?_ fun _ _ steady => steady)
  intro _ after steady
  refine ends_bind.mpr (ends_get.mpr ?_)
  dsimp only
  split_ifs
  · exact steady
  · refine ends_bind.mpr (ends_attempt.mpr ((processReadableUniStream_calmly steady true).mono ?_ ?_))
    · exact fun _ _ both => both
    · intro error after steady
      split
      case h_1 same => cases same
      case h_2 =>
        refine ends_bind.mpr ((checkCriticalStreamState_steady steady).mono ?_
          fun _ _ steady => steady)
        exact fun _ _ steady => steady
      case h_3 => exact steady

theorem processCriticalStreams_calmly : Calmly queue marked (processCriticalStreams.run state) :=
  ends_bind.mpr (ends_get.mpr
    (firstEvent_ends (fun id _ steady => processCriticalStream_calmly steady id) steady))

end

/-! ## Marks -/

/-- A settled stream has nothing more to tell. -/
theorem Settled.processReadableStream (settled : state.1.Settled id) (bidi : isBidi id = true)
    (polling : Bool) : (processReadableStream id polling).run state = (.error .done, state) := by
  obtain ⟨own, found, finished⟩ := settled
  have got : (getOrCreate id false).run state = (.ok own, state) := by
    have present : (get : ConnM _).run state = (.ok state, state) := rfl
    unfold getOrCreate
    rw [bind_run present]
    dsimp only
    rw [found]
    rfl
  have leaves : (requestTurn id polling own).run state = (.ok .leave, state) := by
    unfold requestTurn
    rw [finished]
    rfl
  have turn : (processReadableRequestStream id polling).run state = (.error .done, state) := by
    change (whileStream id (requestTurn id polling) (turnsFor id state.2)).run state = _
    have present : (get : ConnM _).run state = (.ok state, state) := rfl
    rw [turnsFor, whileStream, bind_run present]
    dsimp only
    rw [found]
    exact (bind_run leaves).trans rfl
  have tried : (attempt (getOrCreate id false)).run state = (.ok (.ok own), state) := by
    change (Except.ok ((getOrCreate id false).run state).1, ((getOrCreate id false).run state).2) = _
    rw [got]
  unfold Http3Connection.processReadableStream
  rw [bind_run tried]
  dsimp only
  rw [if_pos bidi, turn]

theorem Settled.processFinishedStream (settled : http3.Settled id) :
    http3.processFinishedStream id = http3 := by
  obtain ⟨own, found, finished⟩ := settled
  unfold Http3Connection.processFinishedStream
  rw [found]
  exact if_pos finished

/-- Only the given stream is marked, and it comes last. -/
theorem processFinishedStream_cases (http3 : Http3Connection) (id : Nat) :
    http3.processFinishedStream id = http3 ∨
      ¬ http3.Settled id ∧ ∃ stream, http3.processFinishedStream id =
        { http3.setStream id stream with finishedStreams := http3.finishedStreams ++ [id] } := by
  unfold Http3Connection.processFinishedStream
  split
  · exact .inl rfl
  case h_2 own found =>
    split_ifs with finished
    · exact .inl rfl
    · have open' : ¬ http3.Settled id := by
        rintro ⟨other, present, marked⟩
        cases found.symm.trans present
        exact finished marked
      split
      · exact .inr ⟨open', _, rfl⟩
      · exact .inr ⟨open', _, rfl⟩
      · exact .inl rfl

theorem Settled.elsewhere {http3 after : Http3Connection} (settled : http3.Settled id)
    (same : after.streams.get? id = http3.streams.get? id) : after.Settled id := by
  obtain ⟨own, found, finished⟩ := settled
  exact ⟨own, same.trans found, finished⟩

structure Noting (ended : Nat → Prop) (rest : List Nat) (state : Http3Connection × QuicConn) : Prop where
  once : state.1.finishedStreams.Nodup
  visited : ∀ id ∈ state.1.finishedStreams, id ∉ rest ∧ ¬ ended id
  marked : ∀ id ∈ rest, ended id → state.1.Settled id

variable {ended : Nat → Prop} {rest : List Nat}

theorem Noting.streamDestroy
    {conn : QuicConn} (noting : Noting ended rest (http3, conn)) (apart : id ∉ rest) :
    Noting ended rest (http3.streamDestroy id, conn) where
  once := noting.once
  visited := noting.visited
  marked other member before := by
    have distinct : other ≠ id := fun same => apart (same ▸ member)
    refine (noting.marked other member before).elsewhere ?_
    change (http3.streams.erase id).get? other = _
    rw [OrdMap.get?_erase, if_neg distinct]

theorem noteFinished_noting (apart : id ∉ rest)
    (visited : id ∉ state.1.finishedStreams) (noting : Noting ended rest state)
    (open' : ended id → state.1.Settled id) :
    Ends (fun _ after => Noting ended rest after) (fun _ _ => False)
      ((noteFinished id).run state) := by
  refine ends_bind.mpr (ends_get.mpr ?_)
  dsimp only
  split_ifs
  case neg => exact noting
  have processed : Noting ended rest (state.1.processFinishedStream id, state.2) := by
    rcases processFinishedStream_cases state.1 id with same | ⟨unmarked, stream, same⟩
    · rw [same]
      exact noting
    · rw [same]
      refine ⟨?_, fun other member => ?_, fun other member before => ?_⟩
      · exact List.nodup_append.mpr ⟨noting.once, List.nodup_singleton id, fun first member last only =>
          fun equal => visited (List.mem_singleton.mp only ▸ equal ▸ member)⟩
      · rcases List.mem_append.mp member with earlier | now
        · exact noting.visited other earlier
        · cases List.mem_singleton.mp now
          exact ⟨apart, fun before => unmarked (open' before)⟩
      · have distinct : id ≠ other := fun same => apart (same ▸ member)
        exact (noting.marked other member before).setStream fun same => absurd same distinct
  refine ends_update.mpr ?_
  split
  case h_1 stream _ =>
    split_ifs
    · exact processed.streamDestroy apart
    · exact processed
  case h_2 => exact processed

private theorem pollReadableStream_noting (apart : id ∉ rest)
    (bidi : ended id → isBidi id = true) (noting : Noting ended (id :: rest) state) :
    Ends (fun event after => Noting ended rest after ∧ (Plain event ∨
        ∃ errorCode, event = (id, .reset errorCode) ∧ ¬ ended id ∧ id ∉ after.1.finishedStreams))
      (fun _ => Noting ended rest) ((pollReadableStream id).run state) := by
  have unvisited : id ∉ state.1.finishedStreams := fun member =>
    (noting.visited id member).1 List.mem_cons_self
  have later : Noting ended rest state :=
    { once := noting.once
      visited := fun other member =>
        ⟨fun rested => (noting.visited other member).1 (List.mem_cons_of_mem _ rested),
          (noting.visited other member).2⟩
      marked := fun other member => noting.marked other (List.mem_cons_of_mem _ member) }
  by_cases before : ended id
  case pos =>
    have settled := noting.marked id List.mem_cons_self before
    have idle : Ends (fun _ _ => False) (fun error after => error = .done ∧ after = state)
        ((processReadableStream id true).run state) := by
      rw [settled.processReadableStream (bidi before)]
      exact ⟨rfl, rfl⟩
    refine ends_bind.mpr (ends_attempt.mpr (idle.mono (fun _ _ impossible => impossible.elim) ?_))
    rintro _ _ ⟨rfl, rfl⟩
    refine ends_bind.mpr ((noteFinished_noting apart unvisited later fun _ => settled).mono ?_
      fun _ _ impossible => impossible.elim)
    exact fun _ _ noting => noting
  case neg =>
    have steady : Steady state.1.finishedStreams (fun other => other ∈ rest ∧ ended other) state :=
      ⟨rfl, fun other both => later.marked other both.1 both.2⟩
    have still : ∀ {after : Http3Connection × QuicConn},
        Steady state.1.finishedStreams (fun other => other ∈ rest ∧ ended other) after →
          Noting ended rest after ∧ id ∉ after.1.finishedStreams := by
      intro after steady
      refine ⟨⟨steady.queue ▸ later.once, fun other member => ?_, fun other member both => ?_⟩,
        steady.queue ▸ unvisited⟩
      · exact later.visited other (steady.queue ▸ member)
      · exact steady.marked other ⟨member, both⟩
    refine ends_bind.mpr (ends_attempt.mpr ((processReadableStream_calmly steady id true).mono ?_ ?_))
    · rintro event after ⟨plain, steady⟩
      obtain ⟨noting, unvisited⟩ := still steady
      refine ends_bind.mpr ((noteFinished_noting apart unvisited noting
        fun ended => absurd ended before).mono ?_ fun _ _ impossible => impossible.elim)
      exact fun _ _ noting => ⟨noting, .inl plain⟩
    · intro error after steady
      obtain ⟨noting, unvisited⟩ := still steady
      split
      case h_1 same => cases same
      case h_2 =>
        refine ends_bind.mpr ((noteFinished_noting apart unvisited noting
          fun ended => absurd ended before).mono ?_ fun _ _ impossible => impossible.elim)
        exact fun _ _ noting => noting
      case h_3 errorCode _ => exact ⟨noting, .inr ⟨errorCode, rfl, before, unvisited⟩⟩
      case h_4 => exact noting

/-- All ends that were known before a poll or that it noted. -/
structure Grown (ended : Nat → Prop) (queue all : List Nat) : Prop where
  cases : all = queue ∨ queue = [] ∧ all.Nodup ∧ ∀ id ∈ all, ¬ ended id

/-- What a poll ends with: the oldest end, or an event of another kind. -/
structure PollEvent (ended : Nat → Prop) (all : List Nat) (event : Nat × Http3Event)
    (after : Http3Connection × QuicConn) : Prop where
  cases : (∃ id, event = (id, .finished) ∧ all = id :: after.1.finishedStreams) ∨
    after.1.finishedStreams = all ∧ (Plain event ∨
      ∃ id errorCode, event = (id, .reset errorCode) ∧ ¬ ended id ∧ id ∉ all)

def Polled (ended : Nat → Prop) (queue : List Nat) :
    Except Http3Error (Nat × Http3Event) × Http3Connection × QuicConn → Prop :=
  Ends (fun event after => ∃ all, Grown ended queue all ∧ PollEvent ended all event after)
    (fun _ after => Grown ended queue after.1.finishedStreams)

private theorem visits_noting {ids : List Nat} (distinct : ids.Nodup)
    (bidi : ∀ id, ended id → isBidi id = true) (noting : Noting ended ids state) :
    Ends (fun event after => Noting ended [] after ∧ (Plain event ∨
        ∃ id errorCode, event = (id, .reset errorCode) ∧ ¬ ended id ∧
          id ∉ after.1.finishedStreams))
      (fun _ after => Noting ended [] after) ((firstEvent pollReadableStream ids).run state) := by
  induction ids generalizing state with
  | nil => exact noting
  | cons id rest ih =>
      obtain ⟨apart, distinct⟩ := List.nodup_cons.mp distinct
      have over' : ∀ {after}, Noting ended rest after → Noting ended [] after := fun noting =>
        ⟨noting.once, fun other member => ⟨List.not_mem_nil, (noting.visited other member).2⟩,
          fun other member => absurd member List.not_mem_nil⟩
      refine ends_bind.mpr (ends_attempt.mpr
        ((pollReadableStream_noting apart (bidi id) noting).mono ?_ ?_))
      · rintro event after ⟨noting, told⟩
        exact ⟨over' noting, told.imp_right fun ⟨errorCode, reset⟩ => ⟨id, errorCode, reset⟩⟩
      · intro error after noting
        split
        case h_1 same => cases same
        case h_2 => exact ih distinct noting
        case h_3 => exact over' noting

theorem popFinished_ends (queue : List Nat) (same : state.1.finishedStreams = queue) :
    Ends (fun event after => ∃ id, event = (id, .finished) ∧
        queue = id :: after.1.finishedStreams ∧ after.2 = state.2)
      (fun error after => error = .done ∧ queue = [] ∧ after = state) (popFinished.run state) := by
  refine ends_bind.mpr (ends_get.mpr ?_)
  dsimp only
  split
  case h_1 empty => exact ⟨rfl, same.symm.trans empty, rfl⟩
  case h_2 id rest full => exact ends_bind.mpr (ends_update.mpr ⟨id, rfl, same.symm.trans full, rfl⟩)

theorem orElse_ends {post : Nat × Http3Event → Http3Connection × QuicConn → Prop}
    {failed : Http3Error → Http3Connection × QuicConn → Prop} {first second : ConnM (Nat × Http3Event)}
    (ends : Ends post (fun error after =>
      failed error after ∧ (error = .done → Ends post failed (second.run after))) (first.run state)) :
    Ends post failed ((orElse first second).run state) := by
  refine ends_bind.mpr (ends_attempt.mpr (ends.mono ?_ ?_))
  · exact fun _ _ holds => holds
  · rintro error after ⟨fails, next⟩
    split
    case h_1 same => cases same
    case h_2 same => exact next (Except.error.inj same)
    case h_3 same => exact (Except.error.inj same) ▸ fails

private theorem undisturbed_readable (readable : Finset Nat) :
    Undisturbed fun conn => conn.streams.readable ⊆ readable where
  read conn id outLen kept := (StreamMap.streamRead_readable conn.streams id outLen).trans kept
  shutdown conn id err kept := (StreamMap.streamShutdown_readable conn.streams id err).trans kept
  close conn err reason kept :=
    ((close_ends true err reason conn).mono
      (fun _ (after : QuicConn) same => (same ▸ kept : after.streams.readable ⊆ readable))
      fun _ _ both => both.2 ▸ kept).invariant

/-- The streams that ended before are marked where `poll` visits them. -/
theorem poll_polled (order : SetOrder) (distinct : ∀ ids, (order.iter ids).Nodup)
    (bidi : ∀ id, ended id → isBidi id = true)
    (marked : state.2.localError = none → state.1.finishedStreams = [] →
      ∀ id ∈ state.2.streams.readable, ended id → state.1.Settled id) :
    Polled ended state.1.finishedStreams ((poll order).run state) := by
  refine ends_bind.mpr (ends_get.mpr ?_)
  dsimp only
  split_ifs with failed
  · exact ⟨.inl rfl⟩
  refine orElse_ends ((popFinished_ends _ rfl).mono ?_ ?_)
  · exact fun event after ⟨id, finished, whole, _⟩ => ⟨_, ⟨.inl rfl⟩, ⟨.inl ⟨id, finished, whole⟩⟩⟩
  rintro _ before ⟨-, empty, rfl⟩
  refine ⟨⟨.inl rfl⟩, fun _ => ?_⟩
  -- Reading takes marks of readable streams away, so that the streams visited are among those now.
  have steady : Steady [] (fun id => id ∈ before.2.streams.readable ∧ ended id) before :=
    ⟨empty, fun id both => marked (Option.not_isSome_iff_eq_none.mp failed) empty id both.1 both.2⟩
  have all : OnConn (fun conn => conn.streams.readable ⊆ before.2.streams.readable) before :=
    Finset.Subset.refl before.2.streams.readable
  have fewer := (undisturbed_readable before.2.streams.readable).processCriticalStreams.ends all
  refine orElse_ends (((processCriticalStreams_calmly steady).and fewer).mono ?_ ?_)
  · rintro event after ⟨⟨plain, steady⟩, _⟩
    exact ⟨[], ⟨.inl empty.symm⟩, ⟨.inr ⟨steady.queue, .inl plain⟩⟩⟩
  rintro _ after ⟨steady, fewer⟩
  refine ⟨⟨.inl (steady.queue.trans empty.symm)⟩, fun _ => ?_⟩
  have noting : Noting ended (order.iter after.2.streams.readable) after := by
    refine ⟨steady.queue ▸ List.nodup_nil, fun id member => ?_, fun id member before => ?_⟩
    · exact absurd (steady.queue ▸ member) List.not_mem_nil
    · exact steady.marked id ⟨fewer ((order.complete _ id).mp member), before⟩
  have grown : ∀ {after : Http3Connection × QuicConn}, Noting ended [] after →
      Grown ended before.1.finishedStreams after.1.finishedStreams := fun noting =>
    ⟨.inr ⟨empty, noting.once, fun id member => (noting.visited id member).2⟩⟩
  have visits := visits_noting (distinct after.2.streams.readable) bidi noting
  refine orElse_ends (ends_bind.mpr (ends_get.mpr (visits.mono ?_ ?_)))
  · exact fun event after ⟨noting, told⟩ => ⟨_, grown noting, ⟨.inr ⟨rfl, told⟩⟩⟩
  · intro _ after noting
    refine ⟨grown noting, fun _ => (popFinished_ends _ rfl).mono ?_ ?_⟩
    · exact fun event after ⟨id, finished, whole, _⟩ =>
        ⟨_, grown noting, ⟨.inl ⟨id, finished, whole⟩⟩⟩
    · rintro _ _ ⟨-, -, rfl⟩
      exact grown noting

/-! ## Bodies -/

theorem recvBodyLoop_steady (steady : Steady queue marked state) {outLen turns : Nat} {total : Bytes} :
    Ends (fun _ => Steady queue marked) (fun _ => Steady queue marked)
      ((recvBodyLoop id outLen turns total).run state) := by
  induction turns generalizing state total with
  | zero => exact steady
  | succ turns ih =>
      unfold recvBodyLoop
      split_ifs
      · exact steady
      refine ends_bind.mpr (ends_get.mpr ?_)
      dsimp only
      split
      case h_1 => exact steady
      case h_2 stream found =>
        split_ifs with place
        · exact steady
        have going : stream.state ≠ .readFinished := by
          rw [not_not.mp place]
          decide
        refine ends_bind.mpr (ends_attempt.mpr ((steady.onStream found going _).mono ?_ ?_))
        · rintro ⟨bytes, fin⟩ after steady
          dsimp only
          split_ifs
          · exact steady
          · refine ends_bind.mpr (ends_attempt.mpr ((loop_calmly
              (fun _ _ steady found => requestTurn_calm steady found false) steady).mono ?_ ?_))
            · exact fun _ _ both => both.2
            · intro error after steady
              split
              case h_1 same => cases same
              case h_2 =>
                refine ends_bind.mpr (ends_get.mpr ?_)
                split_ifs
                · exact steady
                · exact ih steady
              case h_3 => exact steady
        · intro error after steady
          split
          · exact steady
          · exact steady
          case h_3 same => cases same

private theorem recvBodyLoop_absent (missing : state.1.streams.get? id = none) {outLen turns : Nat}
    {total : Bytes} :
    Ends (fun _ after => after = state) (fun _ after => after = state)
      ((recvBodyLoop id outLen turns total).run state) := by
  cases turns with
  | zero => exact rfl
  | succ turns =>
      unfold recvBodyLoop
      split_ifs
      · exact rfl
      refine ends_bind.mpr (ends_get.mpr ?_)
      dsimp only
      rw [missing]
      exact rfl

/-- The stream is there, and not marked as read whole. -/
def Open (http3 : Http3Connection) (id : Nat) : Prop :=
  ∃ stream, http3.streams.get? id = some stream ∧ stream.state ≠ .readFinished

/-- `recv_body` notes the end of the stream it reads, once. -/
def Noted (id : Nat) (before : Http3Connection) (after : Http3Connection × QuicConn) : Prop :=
  after.1.finishedStreams = before.finishedStreams ∨
    after.1.finishedStreams = before.finishedStreams ++ [id] ∧ before.Open id

/-- What `recv_body` keeps. -/
theorem recvBody_keeps {inv : Http3Connection × QuicConn → Prop} {outLen : Nat}
    (read : Ends (fun _ after => inv after ∧
        (after.2.streamFinished id = true → inv (after.1.processFinishedStream id, after.2)))
      (fun _ => inv) ((recvBodyLoop id outLen outLen []).run state)) :
    inv ((recvBody id outLen).run state).2 := by
  refine Ends.invariant (ends_bind.mpr (read.mono ?_ fun _ _ kept => kept))
  rintro total after ⟨unmarked, marked⟩
  refine ends_bind.mpr (ends_get.mpr (ends_bind.mpr (ends_update.mpr ?_)))
  split_ifs with _ finished finished
  · exact marked finished
  · exact unmarked
  · exact marked finished
  · exact unmarked

theorem recvBody_noted (id outLen : Nat) : Noted id state.1 ((recvBody id outLen).run state).2 := by
  by_cases opened : state.1.Open id
  case pos =>
    refine recvBody_keeps ((recvBodyLoop_steady (steady_of_none state)).mono ?_
      fun _ _ steady => .inl steady.queue)
    refine fun _ after steady => ⟨.inl steady.queue, fun _ => ?_⟩
    rcases processFinishedStream_cases after.1 id with same | ⟨_, stream, same⟩
    · rw [same]
      exact .inl steady.queue
    · rw [same]
      exact .inr ⟨congrArg (· ++ [id]) steady.queue, opened⟩
  case neg =>
    cases found : state.1.streams.get? id with
    | none =>
        refine recvBody_keeps ((recvBodyLoop_absent found).mono ?_ fun _ _ same => .inl (same ▸ rfl))
        rintro _ _ rfl
        refine ⟨.inl rfl, fun _ => ?_⟩
        unfold Http3Connection.processFinishedStream
        rw [found]
        exact .inl rfl
    | some stream =>
        have finished : stream.state = .readFinished :=
          not_not.mp fun going => opened ⟨stream, found, going⟩
        have steady : Steady state.1.finishedStreams (· = id) state :=
          ⟨rfl, fun _ same => same ▸ ⟨stream, found, finished⟩⟩
        refine recvBody_keeps ((recvBodyLoop_steady steady).mono ?_ fun _ _ steady => .inl steady.queue)
        refine fun _ after steady => ⟨.inl steady.queue, fun _ => ?_⟩
        rw [(steady.marked id rfl).processFinishedStream]
        exact .inl steady.queue

end Http3Connection

end Tquic.H3
