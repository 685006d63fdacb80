import Tquic.H3.Sending
import Tquic.H3.StreamSafety

/-! The receive path of HTTP/3 keeps every stream well formed and never panics. -/

set_option autoImplicit false

namespace Tquic.H3

open Lib Connection Stateful

variable {α : Type}

namespace Http3Connection

theorem isBidi_of_request {id : Nat} (request : id % 4 = 0) : isBidi id = true := by
  unfold isBidi
  rw [decide_eq_true_eq]
  omega

def criticalIds (http3 : Http3Connection) : List Nat :=
  [http3.peerControlStreamId, http3.peerQpackStreams.encoderStreamId,
    http3.peerQpackStreams.decoderStreamId].filterMap id

structure Sound (http3 : Http3Connection) : Prop where
  streams : ∀ id stream, http3.streams.get? id = some stream → stream.Sound ∧ stream.streamId = id
  critical : ∀ id ∈ http3.criticalIds, isBidi id = false

theorem Sound.of_streams {before after : Http3Connection} (sound : before.Sound)
    (same : after.streams = before.streams) (critical : after.criticalIds = before.criticalIds) :
    after.Sound where
  streams id stream found := sound.streams id stream (same ▸ found)
  critical id member := sound.critical id (critical ▸ member)

theorem get?_setStream (http3 : Http3Connection) (id other : Nat) (stream : Http3Stream) :
    (http3.setStream id stream).streams.get? other =
      if other = id then some stream else http3.streams.get? other :=
  OrdMap.get?_insert _ _ _ _

theorem Sound.setStream {http3 : Http3Connection} (sound : http3.Sound) {id : Nat}
    {stream : Http3Stream} (fits : stream.Sound) (named : stream.streamId = id) :
    (http3.setStream id stream).Sound := by
  refine ⟨fun other found present => ?_, sound.critical⟩
  rw [get?_setStream] at present
  split_ifs at present with same
  · cases present
    exact ⟨fits, named.trans same.symm⟩
  · exact sound.streams other found present

theorem Sound.streamDestroy {http3 : Http3Connection} (sound : http3.Sound) (id : Nat) :
    (http3.streamDestroy id).Sound := by
  refine ⟨fun other stream present => ?_, sound.critical⟩
  change (http3.streams.erase id).get? other = some stream at present
  rw [OrdMap.get?_erase] at present
  split_ifs at present
  exact sound.streams other stream present

theorem newStream_sound (id : Nat) (byLocal : Bool) : (Http3Stream.new id byLocal).Sound where
  machine := by
    refine ⟨Nat.zero_le 1, fun _ _ => ?_, fun payload => ?_⟩
    · simp [Http3Stream.new, Http3StateMachine.new, initStateBufSize]
    · cases bidi : isBidi id <;> simp [Http3Stream.new, Http3StateMachine.new, bidi] at payload
  place := by
    cases bidi : isBidi id <;>
      simp [Http3Stream.new, Http3Stream.state, Http3StateMachine.new, bidi, Http3Stream.statesOf]
  bidi := by
    cases bidi : isBidi id <;> simp [Http3Stream.new, bidi]
  framed frame := by
    cases bidi : isBidi id <;>
      simp [Http3Stream.new, Http3Stream.state, Http3StateMachine.new, bidi] at frame
  control _ := by simp [Http3Stream.new]
  fields payload := by
    cases bidi : isBidi id <;>
      simp [Http3Stream.new, Http3Stream.state, Http3StateMachine.new, bidi] at payload

/-! ## Steps on the connection -/

def turnsOf (id : Nat) (state : Http3Connection × QuicConn) : Nat :=
  match state.1.streams.get? id with
  | none => 0
  | some stream => Http3Stream.turnsLeft (stream, state.2)

theorem turnsOf_some {id : Nat} {state : Http3Connection × QuicConn} {stream : Http3Stream}
    (found : state.1.streams.get? id = some stream) :
    turnsOf id state = Http3Stream.turnsLeft (stream, state.2) := by
  rw [turnsOf, found]

/-- The streams that were there go on. Nothing of theirs was read. -/
structure Kept (before after : Http3Connection × QuicConn) : Prop where
  sound : after.1.Sound
  stays : ∀ id stream, before.1.streams.get? id = some stream →
    ∃ next, after.1.streams.get? id = some next ∧ stream.Continues next
  turns : ∀ id, (before.1.streams.get? id).isSome = true → turnsOf id after ≤ turnsOf id before

variable {before after : Http3Connection × QuicConn}

theorem Kept.of_streams (sound : before.1.Sound) (same : after.1.streams = before.1.streams)
    (critical : after.1.criticalIds = before.1.criticalIds)
    (conn : after.2.streams = before.2.streams) : Kept before after where
  sound := sound.of_streams same critical
  stays id stream found := ⟨stream, same ▸ found, .refl (sound.streams id stream found).1⟩
  turns id there := by
    obtain ⟨stream, found⟩ := Option.isSome_iff_exists.mp there
    have still : after.1.streams.get? id = some stream := same ▸ found
    rw [turnsOf_some found, turnsOf_some still, Http3Stream.turnsLeft, Http3Stream.turnsLeft,
      Http3Stream.unread_of_streams conn]

theorem ends_update {post : Unit → Http3Connection × QuicConn → Prop}
    {failed : Http3Error → Http3Connection × QuicConn → Prop} {change : Http3Connection → Http3Connection}
    {state : Http3Connection × QuicConn} :
    Ends post failed ((update change).run state) ↔ post () (change state.1, state.2) := Iff.rfl

theorem closeWith_kept {state : Http3Connection × QuicConn} (sound : state.1.Sound)
    {error : Http3Error} (calm : error ≠ .panic) (reason : String) :
    Ends (fun _ => Kept state) (fun raised after => raised ≠ .panic ∧ Kept state after)
      ((closeWith error reason : ConnM α).run state) := by
  refine (closeWith_ends error reason state).mono (fun _ _ impossible => impossible.elim) ?_
  rintro raised after ⟨which, same, conn⟩
  refine ⟨?_, .of_streams sound (congrArg _ same) (congrArg _ same) conn⟩
  rcases which with rfl | rfl
  · exact calm
  · decide

/-! ## Frames -/

/-- A stream that is there, or a new one. -/
structure Found (before after : Http3Connection × QuicConn) (id : Nat) (stream : Http3Stream) :
    Prop where
  sound : after.1.Sound
  found : after.1.streams.get? id = some stream
  conn : after.2 = before.2
  others : ∀ other, (before.1.streams.get? other).isSome = true →
    after.1.streams.get? other = before.1.streams.get? other

theorem getOrCreate_ends {state : Http3Connection × QuicConn} (sound : state.1.Sound)
    (streamId : Nat) (byLocal : Bool) :
    Ends (fun stream after => Found state after streamId stream)
      (fun error after => error = .streamCreationError ∧ after = state)
      ((getOrCreate streamId byLocal).run state) := by
  unfold getOrCreate
  refine ends_bind.mpr (ends_get.mpr ?_)
  dsimp only
  split
  case h_1 stream found => exact ⟨sound, found, rfl, fun _ _ => rfl⟩
  case h_2 missing =>
    split_ifs
    · exact ⟨rfl, rfl⟩
    · refine ends_bind.mpr (ends_update.mpr ⟨?_, ?_, rfl, fun other there => ?_⟩)
      · exact sound.setStream (newStream_sound streamId byLocal) rfl
      · exact OrdMap.get?_insert_self _ _ _
      · have apart : other ≠ streamId := by
          rintro rfl
          rw [missing] at there
          cases there
        exact (get?_setStream _ _ _ _).trans (if_neg apart)

theorem Found.prioritize {id : Nat} {stream : Http3Stream}
    (found : Found before after id stream) (priorityUpdate : Option Bytes) :
    Kept before (after.1.setStream id { stream with priorityUpdate }, after.2) := by
  obtain ⟨fits, named⟩ := found.sound.streams id stream found.found
  have prioritized : stream.Continues { stream with priorityUpdate } :=
    ⟨⟨fits.machine, fits.place, fits.bidi, fits.framed, fits.control, fits.fields⟩, rfl, fun _ => rfl,
      fun _ begun => begun⟩
  have still : ∀ other, (before.1.streams.get? other).isSome = true →
      ∃ old next, before.1.streams.get? other = some old ∧
        (after.1.setStream id { stream with priorityUpdate }).streams.get? other = some next ∧
          old.Continues next ∧ next.machine = old.machine := by
    intro other there
    obtain ⟨old, present⟩ := Option.isSome_iff_exists.mp there
    have kept := (found.others other there).trans present
    by_cases same : other = id
    · subst same
      cases found.found.symm.trans kept
      exact ⟨stream, _, present, (get?_setStream _ _ _ _).trans (if_pos rfl), prioritized, rfl⟩
    · exact ⟨old, old, present, (get?_setStream _ _ _ _).trans ((if_neg same).trans kept),
        .refl (found.sound.streams other old kept).1, rfl⟩
  refine ⟨?_, fun other old present => ?_, fun other there => ?_⟩
  · exact found.sound.setStream prioritized.sound named
  · obtain ⟨_, next, first, second, goes, _⟩ := still other (by rw [present]; rfl)
    cases first.symm.trans present
    exact ⟨next, second, goes⟩
  · obtain ⟨old, next, first, second, goes, machine⟩ := still other there
    rw [turnsOf_some first, turnsOf_some second]
    unfold Http3Stream.turnsLeft Http3Stream.rank Http3Stream.state
    dsimp only
    rw [machine, goes.streamId, found.conn]

private theorem onPriorityUpdateRequestFrameReceived_kept {state : Http3Connection × QuicConn}
    (sound : state.1.Sound) (prioritizedElementId : Nat) (priorityFieldValue : Bytes) :
    Ends (fun _ => Kept state) (fun error after => error ≠ .panic ∧ Kept state after)
      ((onPriorityUpdateRequestFrameReceived prioritizedElementId priorityFieldValue).run state) := by
  unfold onPriorityUpdateRequestFrameReceived
  refine ends_bind.mpr (ends_get.mpr ?_)
  dsimp only
  split_ifs
  · exact closeWith_kept sound (by decide) _
  · exact closeWith_kept sound (by decide) _
  · exact closeWith_kept sound (by decide) _
  · exact ⟨by decide, .of_streams sound rfl rfl rfl⟩
  · refine ends_bind.mpr (ends_attempt.mpr ((getOrCreate_ends sound _ false).mono ?_ ?_))
    · intro stream after found
      refine ends_bind.mpr (ends_update.mpr ?_)
      split_ifs
      · exact ⟨by decide, found.prioritize _⟩
      · exact found.prioritize _
    · rintro _ _ ⟨rfl, rfl⟩
      exact closeWith_kept sound (by decide) _

private theorem handleFrame_kept {state : Http3Connection × QuicConn} (sound : state.1.Sound)
    (streamId : Nat) (frame : Http3Frame) :
    Ends (fun _ => Kept state) (fun error after => error ≠ .panic ∧ Kept state after)
      ((handleFrame streamId frame).run state) := by
  have refl : Kept state state := .of_streams sound rfl rfl rfl
  cases frame with
  | data _ => exact ⟨by decide, refl⟩
  | cancelPush _ => exact ⟨by decide, refl⟩
  | unknown _ _ => exact ⟨by decide, refl⟩
  | settings _ _ _ _ _ =>
      exact ends_bind.mpr (ends_update.mpr ⟨by decide, .of_streams sound rfl rfl rfl⟩)
  | headers fieldSection =>
      refine ends_bind.mpr (ends_get.mpr ?_)
      dsimp only
      split
      case h_1 error failed =>
        refine closeWith_kept sound ?_ _
        rintro rfl
        exact Qpack.decode_avoids _ _ failed
      case h_2 => exact refl
  | goAway id =>
      refine ends_bind.mpr (ends_get.mpr ?_)
      dsimp only
      split_ifs
      · refine ends_bind.mpr (ends_call.mpr ((close_ends _ _ _ state.2).mono ?_ ?_))
        · exact fun _ _ same => ⟨by decide, .of_streams sound rfl rfl same⟩
        · rintro _ _ ⟨rfl, rfl⟩
          exact ⟨by decide, refl⟩
      · exact closeWith_kept sound (by decide) _
      · exact ends_bind.mpr (ends_update.mpr (.of_streams sound rfl rfl rfl))
  | maxPushId pushId =>
      refine ends_bind.mpr (ends_get.mpr ?_)
      dsimp only
      split_ifs
      · exact closeWith_kept sound (by decide) _
      · exact closeWith_kept sound (by decide) _
      · exact ends_bind.mpr (ends_update.mpr ⟨by decide, .of_streams sound rfl rfl rfl⟩)
  | pushPromise pushId _ =>
      refine ends_bind.mpr (ends_get.mpr ?_)
      dsimp only
      split_ifs
      · exact closeWith_kept sound (by decide) _
      · exact closeWith_kept sound (by decide) _
      · exact closeWith_kept sound (by decide) _
      · exact ⟨by decide, refl⟩
  | priorityUpdateRequest prioritizedElementId priorityFieldValue =>
      exact onPriorityUpdateRequestFrameReceived_kept sound prioritizedElementId priorityFieldValue
  | priorityUpdatePush _ _ =>
      refine ends_bind.mpr (ends_get.mpr ?_)
      dsimp only
      split_ifs
      · exact closeWith_kept sound (by decide) _
      · exact ⟨by decide, refl⟩

private theorem processFrame_kept {state : Http3Connection × QuicConn} (sound : state.1.Sound)
    (streamId : Nat) (frame : Http3Frame) (payloadLen : Nat) :
    Ends (fun _ => Kept state) (fun error after => error ≠ .panic ∧ Kept state after)
      ((processFrame streamId frame payloadLen).run state) := by
  refine ends_bind.mpr (ends_update.mpr ?_)
  have recorded : Kept state
      ({ state.1 with processed := state.1.processed ++ [(streamId, frame)] }, state.2) :=
    .of_streams sound rfl rfl rfl
  refine (handleFrame_kept recorded.sound streamId frame).mono ?_ ?_
  · exact fun _ _ kept => ⟨kept.sound, kept.stays, kept.turns⟩
  · exact fun _ _ failed => ⟨failed.1, failed.2.sound, failed.2.stays, failed.2.turns⟩

/-! ## Streams -/

structure Kind where
  holds : Http3Stream → Prop
  lasts : ∀ before after, before.Continues after → holds before → holds after

def Kind.typed (streamType : Http3StreamType) : Kind where
  holds stream := stream.streamType = some streamType
  lasts _ _ continues typed := (continues.typed (typed ▸ Option.some_ne_none _)).trans typed

def Kind.message : Kind where
  holds stream :=
    (stream.streamType = some .request ∨ stream.streamType = some .push) ∧ stream.state ≠ .pushId
  lasts before after continues := by
    rintro ⟨carrier, begun⟩
    have typed : before.streamType ≠ none := by
      rcases carrier with same | same <;> exact same ▸ Option.some_ne_none _
    exact ⟨continues.typed typed ▸ carrier, continues.begun typed begun⟩

/-- All streams are well formed, and the given one is of the given kind. -/
structure Carries (id : Nat) (kind : Kind) (state : Http3Connection × QuicConn) : Prop where
  sound : state.1.Sound
  fits : ∀ stream, state.1.streams.get? id = some stream → kind.holds stream

theorem Kept.carries (kept : Kept before after) {id : Nat}
    {kind : Kind} {stream : Http3Stream} (found : before.1.streams.get? id = some stream)
    (fits : kind.holds stream) : Carries id kind after := by
  refine ⟨kept.sound, fun other present => ?_⟩
  obtain ⟨next, still, continues⟩ := kept.stays id stream found
  cases still.symm.trans present
  exact kind.lasts _ _ continues fits

theorem onStream_run {state : Http3Connection × QuicConn} {id : Nat} {stream : Http3Stream}
    (found : state.1.streams.get? id = some stream) (steps : Http3M Http3Stream α) :
    (onStream id steps).run state = ((steps.run (stream, state.2)).1,
        (state.1.setStream id (steps.run (stream, state.2)).2.1, (steps.run (stream, state.2)).2.2)) := by
  change onStream id steps state = _
  rw [onStream, found]

theorem onStream_ends {state : Http3Connection × QuicConn} {id : Nat} {stream : Http3Stream}
    (found : state.1.streams.get? id = some stream) {steps : Http3M Http3Stream α}
    {post : α → Http3Connection × QuicConn → Prop}
    {failed : Http3Error → Http3Connection × QuicConn → Prop} :
    Ends post failed ((onStream id steps).run state) ↔
      Ends (fun value after => post value (state.1.setStream id after.1, after.2))
        (fun error after => failed error (state.1.setStream id after.1, after.2))
        (steps.run (stream, state.2)) := by
  rw [onStream_run found]
  cases steps.run (stream, state.2) with
  | mk result after =>
      cases result with
      | ok value => exact Iff.rfl
      | error error => exact Iff.rfl

theorem Sound.goesOn {state : Http3Connection × QuicConn} (sound : state.1.Sound) {id : Nat}
    {stream next : Http3Stream} (found : state.1.streams.get? id = some stream)
    (continues : stream.Continues next) : (state.1.setStream id next).Sound :=
  sound.setStream continues.sound (continues.streamId.trans (sound.streams id stream found).2)

theorem Carries.goesOn {state : Http3Connection × QuicConn} {id : Nat} {kind : Kind}
    (carries : Carries id kind state) {stream next : Http3Stream}
    (found : state.1.streams.get? id = some stream) (continues : stream.Continues next)
    (conn : QuicConn) : Carries id kind (state.1.setStream id next, conn) := by
  refine ⟨carries.sound.goesOn found continues, fun other present => ?_⟩
  cases (OrdMap.get?_insert_self _ _ _).symm.trans present
  exact kind.lasts _ _ continues (carries.fits stream found)

/-! ## Processing loops -/

/-- What a turn of a loop over a stream does: it uses up turns if the loop goes on, and reports
events only if it may. -/
structure TurnDone (id : Nat) (kind : Kind) (polling : Prop)
    (before : Http3Connection × QuicConn) (result : Turn) (after : Http3Connection × QuicConn) :
    Prop where
  carries : Carries id kind after
  again : result = .again → turnsOf id after < turnsOf id before
  event : ∀ event, result = .event event → polling

variable {id : Nat} {kind : Kind} {polling : Prop}
  {state : Http3Connection × QuicConn} {stream : Http3Stream}

/-- The fate of a step in a loop: `post`, or a failure that is no panic. -/
def Passes (id : Nat) (kind : Kind) (post : α → Http3Connection × QuicConn → Prop) :
    Except Http3Error α × Http3Connection × QuicConn → Prop :=
  Ends post fun error after => error ≠ .panic ∧ Carries id kind after

theorem turnsOf_setStream {id : Nat} {stream next : Http3Stream}
    (found : state.1.streams.get? id = some stream) {conn : QuicConn}
    (fewer : Http3Stream.turnsLeft (next, conn) < Http3Stream.turnsLeft (stream, state.2)) :
    turnsOf id (state.1.setStream id next, conn) < turnsOf id state := by
  rw [turnsOf_some found, turnsOf_some (OrdMap.get?_insert_self _ _ _)]
  exact fewer

section

variable (carries : Carries id kind state)

include carries

theorem again_passes
    (found : state.1.streams.get? id = some stream) {parse : Http3M Http3Stream Unit}
    (ends : Ends (fun _ after => stream.Continues after.1 ∧
        Http3Stream.turnsLeft after < Http3Stream.turnsLeft (stream, state.2))
      (fun error after => error ≠ .panic ∧ stream.Continues after.1)
      (parse.run (stream, state.2))) :
    Passes id kind (TurnDone id kind polling state)
      ((do onStream id parse; return .again : ConnM Turn).run state) := by
  refine ends_bind.mpr ((onStream_ends found).mpr (ends.mono ?_ ?_))
  · rintro _ ⟨next, conn⟩ ⟨continues, fewer⟩
    exact ⟨carries.goesOn found continues conn, fun _ => turnsOf_setStream found fewer,
      fun _ same => nomatch same⟩
  · rintro error ⟨next, conn⟩ ⟨calm, continues⟩
    exact ⟨calm, carries.goesOn found continues conn⟩

theorem frame_passes (may : polling)
    (found : state.1.streams.get? id = some stream) (place : stream.state = .framePayload)
    {next : Except Http3Error (Nat × Http3Event) → ConnM Turn}
    (reports : ∀ event, next (.ok event) = return .event event)
    (raises : ∀ error, error ≠ .done → next (.error error) = throw error)
    (done : ∀ after, Carries id kind after → turnsOf id after < turnsOf id state →
      Passes id kind (TurnDone id kind polling state) ((next (.error .done)).run after)) :
    Passes id kind (TurnDone id kind polling state)
      ((do
        let parsed ← onStream id Http3Stream.parseFramePayload
        let result ← attempt (processFrame id parsed.1 parsed.2)
        next result : ConnM Turn).run state) := by
  obtain ⟨sound, _⟩ := carries.sound.streams id stream found
  have parsed := @Http3Stream.parseFramePayload_ends (stream, state.2) sound place
  refine ends_bind.mpr ((onStream_ends found).mpr (parsed.mono ?_ ?_))
  · rintro read ⟨later, conn⟩ ⟨continues, fewer⟩
    have carried := carries.goesOn found continues conn
    have present : (state.1.setStream id later, conn).1.streams.get? id = some later :=
      OrdMap.get?_insert_self _ _ _
    have less := turnsOf_setStream found fewer
    have processed := processFrame_kept carried.sound id read.1 read.2
    refine ends_bind.mpr (ends_attempt.mpr (processed.mono ?_ ?_))
    · intro event after kept
      rw [reports]
      exact ⟨kept.carries present (carried.fits later present), fun same => (nomatch same),
        fun _ _ => may⟩
    · rintro error after ⟨calm, kept⟩
      have holds := kept.carries present (carried.fits later present)
      by_cases finished : error = .done
      · subst finished
        exact done after holds ((kept.turns id (by rw [present]; rfl)).trans_lt less)
      · rw [raises error finished]
        exact ⟨calm, holds⟩
  · rintro error ⟨later, conn⟩ ⟨calm, continues⟩
    exact ⟨calm, carries.goesOn found continues conn⟩

theorem leave_passes :
    Passes id kind (TurnDone id kind polling state) ((return .leave : ConnM Turn).run state) :=
  ⟨carries, fun same => (nomatch same), fun _ same => (nomatch same)⟩

theorem requestTurn_passes {polling : Bool}
    (found : state.1.streams.get? id = some stream) (message : Kind.message.holds stream) :
    Passes id kind (TurnDone id kind (polling = true) state)
      ((requestTurn id polling stream).run state) := by
  obtain ⟨sound, _⟩ := carries.sound.streams id stream found
  have place : stream.state ∈ Http3Stream.statesOf (some .push) := by
    have place := sound.place
    rcases message.1 with request | push
    · rw [request] at place
      exact List.mem_cons_of_mem _ place
    · rw [push] at place
      exact place
  unfold requestTurn
  cases current : stream.state with
  | frameType =>
      exact again_passes carries found
        (@Http3Stream.parseFrameType_ends (stream, state.2) sound current)
  | framePayloadLen =>
      exact again_passes carries found
        (@Http3Stream.parseFramePayloadLength_ends (stream, state.2) sound current)
  | framePayload =>
      split_ifs with quiet
      · exact leave_passes carries
      · refine frame_passes carries (by simpa using quiet) found current (fun _ => rfl) ?_ ?_
        · intro error other
          cases error <;> first | rfl | exact absurd rfl other
        · intro after carried less
          refine ends_bind.mpr (ends_get.mpr ?_)
          dsimp only
          split_ifs
          · exact ⟨carried, fun same => (nomatch same), fun _ same => (nomatch same)⟩
          · exact ⟨carried, fun _ => less, fun _ same => (nomatch same)⟩
  | data =>
      split_ifs with quiet
      · exact leave_passes carries
      · have flagged : stream.Continues { stream with dataEventTriggered := true } :=
          ⟨⟨sound.machine, sound.place, sound.bidi, sound.framed, sound.control, sound.fields⟩, rfl,
            fun _ => rfl, fun _ begun => begun⟩
        have carried := carries.goesOn found flagged state.2
        refine ends_bind.mpr ((onStream_ends found).mpr (Http3Stream.ends_own.mpr ?_))
        refine ends_bind.mpr (ends_get.mpr (ends_bind.mpr (ends_modify.mpr ?_)))
        refine ⟨carried, fun same => ?_, fun _ _ => by simpa using quiet⟩
        split_ifs at same
  | readFinished => exact leave_passes carries
  | _ =>
      have begun := message.2
      rw [current] at place begun
      first
        | exact absurd rfl begun
        | exact absurd place (by decide)

end

theorem pushTurn_passes {polling : Bool} (carries : Carries id (.typed .push) state)
    (found : state.1.streams.get? id = some stream) :
    Passes id (.typed .push) (TurnDone id (.typed .push) (polling = true) state)
      ((pushTurn id polling stream).run state) := by
  obtain ⟨sound, _⟩ := carries.sound.streams id stream found
  unfold pushTurn
  split
  case h_1 begun =>
    exact again_passes carries found (@Http3Stream.parsePushId_ends (stream, state.2) sound begun)
  case h_2 other => exact requestTurn_passes carries found ⟨.inr (carries.fits stream found), other⟩

theorem controlTurn_passes (carries : Carries id (.typed .control) state)
    (found : state.1.streams.get? id = some stream) :
    Passes id (.typed .control) (TurnDone id (.typed .control) True state) ((controlTurn id stream).run state) := by
  obtain ⟨sound, _⟩ := carries.sound.streams id stream found
  have place := sound.place
  rw [carries.fits stream found] at place
  unfold controlTurn
  cases current : stream.state with
  | frameType =>
      exact again_passes carries found
        (@Http3Stream.parseFrameType_ends (stream, state.2) sound current)
  | framePayloadLen =>
      exact again_passes carries found
        (@Http3Stream.parseFramePayloadLength_ends (stream, state.2) sound current)
  | framePayload =>
      refine frame_passes carries trivial found current (fun _ => rfl) ?_ ?_
      · intro error other
        cases error <;> first | rfl | exact absurd rfl other
      · intro after carried less
        exact ⟨carried, fun _ => less, fun _ same => (nomatch same)⟩
  | _ =>
      rw [current] at place
      exact absurd place (by decide)

private theorem whileStream_passes {turn : Http3Stream → ConnM Turn}
    (passes : ∀ state stream, Carries id kind state →
      state.1.streams.get? id = some stream →
        Passes id kind (TurnDone id kind polling state) ((turn stream).run state))
    {turns : Nat} {state : Http3Connection × QuicConn} (carries : Carries id kind state)
    (enough : turnsOf id state < turns) :
    Passes id kind (fun _ after => Carries id kind after ∧ polling)
      ((whileStream id turn turns).run state) := by
  induction turns generalizing state with
  | zero => exact absurd enough (Nat.not_lt_zero _)
  | succ turns ih =>
      refine ends_bind.mpr (ends_get.mpr ?_)
      dsimp only
      split
      case h_1 => exact ⟨by decide, carries⟩
      case h_2 stream found =>
        refine ends_bind.mpr ((passes state stream carries found).mono ?_ fun _ _ failed => failed)
        intro result after done
        cases result with
        | again =>
            have less := done.again rfl
            exact ih done.carries (by omega)
        | leave => exact ⟨by decide, done.carries⟩
        | event event => exact ⟨done.carries, done.event event rfl⟩

private theorem turnsOf_lt_turnsFor {id : Nat} {state : Http3Connection × QuicConn}
    (sound : state.1.Sound) : turnsOf id state < turnsFor id state.2 := by
  unfold turnsOf turnsFor
  split
  case h_1 => omega
  case h_2 stream found =>
    have named := (sound.streams id stream found).2
    unfold Http3Stream.turnsLeft Http3Stream.rank
    rw [named]
    dsimp only
    split_ifs <;> omega

theorem loop_passes {turn : Http3Stream → ConnM Turn}
    (passes : ∀ state stream, Carries id kind state →
      state.1.streams.get? id = some stream →
        Passes id kind (TurnDone id kind polling state) ((turn stream).run state))
    {state : Http3Connection × QuicConn} (carries : Carries id kind state) :
    Passes id kind (fun _ after => Carries id kind after ∧ polling)
      ((processReadableStreamLoop id turn).run state) :=
  ends_bind.mpr (ends_get.mpr (whileStream_passes passes carries (turnsOf_lt_turnsFor carries.sound)))

end Http3Connection

end Tquic.H3
