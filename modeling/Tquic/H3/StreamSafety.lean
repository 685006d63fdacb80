import Tquic.Connection.StreamReads
import Tquic.H3.DecodingSafety
import Tquic.H3.Stream

/-! The streams of HTTP/3 stay well formed and their parser never panics, whatever the transport
delivers. -/

set_option autoImplicit false

namespace Tquic.H3

open Lib Connection Stateful

variable {σ α : Type}

/-! ## Calls of the transport -/

namespace QuicConn

private theorem unread_none {conn : QuicConn} {streamId : Nat}
    (missing : conn.streams.get streamId = none) : conn.unread streamId = 0 := by
  rw [unread, missing]

theorem unread_some {conn : QuicConn} {streamId : Nat} {stream : Stream}
    (found : conn.streams.get streamId = some stream) :
    conn.unread streamId = stream.recv.weight := by
  rw [unread, found]
  rfl

/-- What is left to be read after a read. -/
structure Lighter (before after : QuicConn) (streamId outLen : Nat) (bytes : Bytes) : Prop where
  bounded : bytes.length ≤ outLen
  unread : after.unread streamId + bytes.length ≤ before.unread streamId
  less : 0 < outLen → after.unread streamId < before.unread streamId

/-- A read of the transport does not panic, and leaves no more to read than before. -/
theorem streamRead_ends (conn : QuicConn) (streamId outLen : Nat) :
    Ends (fun read after => Lighter conn after streamId outLen read.1)
      (fun error after => error ≠ .panic ∧ after.unread streamId ≤ conn.unread streamId)
      ((streamRead streamId outLen).run conn) := by
  unfold streamRead onStreams
  refine ends_zoom.mpr ?_
  change Ends _ _ (conn.streams.streamRead streamId outLen)
  have effect := conn.streams.streamRead_cases streamId outLen
  generalize conn.streams.streamRead streamId outLen = outcome at effect ⊢
  cases effect with
  | refused reason =>
      refine ⟨?_, le_refl _⟩
      rcases reason with rfl | rfl <;> decide
  | @read old new result after found ready returned touched =>
      have before := unread_some found
      have left : ∀ conn' : QuicConn, conn'.streams = after →
          conn'.unread streamId ≤ new.recv.weight := by
        rintro conn' rfl
        rcases touched.get_cases with kept | gone
        · exact (unread_some kept).le
        · exact (unread_none gone).le.trans (Nat.zero_le _)
      have outcome := old.recv.read_result outLen
      rw [returned] at outcome
      cases outcome with
      | failed reason weight =>
          refine ⟨?_, before ▸ (left _ rfl).trans weight⟩
          rcases reason with rfl | ⟨_, rfl⟩ <;> exact fun same => nomatch same
      | read bounded weight lighter =>
          have remains := left { conn with streams := after } rfl
          rw [← before] at weight lighter
          exact ⟨bounded, (Nat.add_le_add_right remains _).trans weight,
            fun room => remains.trans_lt (lighter room)⟩

end QuicConn

theorem ends_call {post : α → σ × QuicConn → Prop} {failed : Http3Error → σ × QuicConn → Prop}
    {steps : Stateful QuicConn Error α} {state : σ × QuicConn} :
    Ends post failed ((call steps).run state) ↔
      Ends (fun value conn => post value (state.1, conn))
        (fun error conn => failed (Http3Error.ofError error) (state.1, conn)) (steps.run state.2) :=
  ends_zoom.trans ends_withErrors

theorem close_ends (app : Bool) (err : Nat) (reason : String) (conn : QuicConn) :
    Ends (fun _ after => after.streams = conn.streams)
      (fun error after => error = .done ∧ after = conn) ((QuicConn.close app err reason).run conn) := by
  unfold QuicConn.close
  refine ends_bind.mpr (ends_get.mpr ?_)
  split_ifs
  · exact ⟨rfl, rfl⟩
  · exact ⟨rfl, rfl⟩
  · exact rfl

/-- Closing the connection leaves the streams alone, and fails with what it was told or `Done`. -/
theorem closeWith_ends (error : Http3Error) (reason : String) (state : σ × QuicConn) :
    Ends (fun _ _ => False)
      (fun raised after => (raised = error ∨ raised = .done) ∧ after.1 = state.1 ∧
        after.2.streams = state.2.streams) ((closeWith error reason : Http3M σ α).run state) := by
  unfold closeWith
  split_ifs with panics
  · exact ⟨.inl panics.symm, rfl, rfl⟩
  · refine ends_bind.mpr (ends_call.mpr ?_)
    refine (close_ends true error.toWire reason state.2).mono ?_ ?_
    · exact fun _ _ same => ⟨.inl rfl, rfl, same⟩
    · rintro _ _ ⟨rfl, rfl⟩
      exact ⟨.inr rfl, rfl, rfl⟩

/-! ## Well-formed streams -/

namespace Http3StateMachine

/-- The buffer holds what is expected, save in the states that do not use it. -/
structure Sound (machine : Http3StateMachine) : Prop where
  offset : machine.writeOff ≤ machine.expectedLen
  room : machine.state ≠ .data → machine.state ≠ .readFinished →
    machine.expectedLen ≤ machine.buf.length
  payload : machine.state = .framePayload → machine.buf.length = machine.expectedLen

theorem length_resize (buf : Bytes) (newLen : Nat) (value : UInt8) :
    (resize buf newLen value).length = newLen := by
  rw [resize, List.length_append, List.length_take, List.length_replicate]
  omega

/-- What `transition` leaves. -/
def moved (machine : Http3StateMachine) (newState : Http3StreamState) (newLen : Nat)
    (resized : Bool) : Http3StateMachine :=
  { state := newState
    buf := if resized then resize machine.buf newLen 0 else machine.buf
    expectedLen := newLen
    writeOff := 0 }

private theorem transition_ends (newState : Http3StreamState) (newLen : Nat) (resized : Bool)
    (machine : Http3StateMachine) :
    Ends (fun _ after => after = machine.moved newState newLen resized)
      (fun error after => error = .excessiveLoad ∧ resized = true ∧ maxStateBufSize < newLen ∧
        after = machine)
      ((transition newState newLen resized).run machine) := by
  unfold transition
  by_cases large : (resized && decide (maxStateBufSize < newLen)) = true
  · rw [if_pos large]
    simp only [Bool.and_eq_true, decide_eq_true_eq] at large
    exact ⟨rfl, large.1, large.2, rfl⟩
  · rw [if_neg large]
    exact rfl

variable {machine : Http3StateMachine}

theorem Sound.moved {newState : Http3StreamState} {newLen : Nat} {resized : Bool}
    (used : resized = true ∨ newState = .data ∨ newState = .readFinished) :
    (machine.moved newState newLen resized).Sound where
  offset := Nat.zero_le _
  room := by
    rcases used with rfl | rfl | rfl
    · exact fun _ _ => (length_resize _ _ _).ge
    · exact fun reading => absurd rfl reading
    · exact fun _ reading => absurd rfl reading
  payload := by
    rcases used with rfl | rfl | rfl
    · exact fun _ => length_resize _ _ _
    · exact fun other => nomatch other
    · exact fun other => nomatch other

theorem ready_iff : machine.ready = true ↔ machine.writeOff = machine.expectedLen := beq_iff_eq

theorem Sound.fill (sound : machine.Sound)
    (reading : machine.state ≠ .data) (open' : machine.state ≠ .readFinished) {bytes : Bytes}
    (fits : bytes.length ≤ machine.expectedLen - machine.writeOff) :
    ((machine.fill bytes).increaseOff bytes.length).Sound := by
  have offset := sound.offset
  have room := sound.room reading open'
  have kept : (machine.fill bytes).buf.length = machine.buf.length := by
    simp only [Http3StateMachine.fill, List.length_append, List.length_take, List.length_drop]
    omega
  refine ⟨?_, fun _ _ => ?_, fun payload => ?_⟩
  · change machine.writeOff + bytes.length ≤ machine.expectedLen
    omega
  · exact room.trans kept.ge
  · exact kept.trans (sound.payload payload)

/-- The states in which a variable-length integer is read. -/
abbrev Measured (state : Http3StreamState) : Prop :=
  state ≠ .framePayload ∧ state ≠ .data ∧ state ≠ .readFinished

private theorem measureVarint_sound (sound : machine.Sound) (measured : Measured machine.state) :
    ∃ after, machine.measureVarint = .ok after ∧ after.Sound ∧ after.state = machine.state := by
  unfold measureVarint
  split_ifs with first
  · have room := sound.room measured.2.1 measured.2.2
    have offset := sound.offset
    cases content : machine.buf with
    | nil =>
        rw [content, List.length_nil] at room
        omega
    | cons byte rest =>
        refine ⟨_, rfl, ⟨?_, fun _ _ => ?_, fun payload => ?_⟩, rfl⟩
        · have positive := decodeVarintLen_pos byte
          change machine.writeOff ≤ decodeVarintLen byte
          omega
        · exact (length_resize _ _ _).ge
        · exact absurd payload measured.1
  · exact ⟨machine, rfl, sound, rfl⟩

theorem parseVarint_ends (sound : machine.Sound) (measured : Measured machine.state) :
    Ends (fun _ after => after.Sound ∧ after.state = machine.state)
      (fun error after => error ≠ .panic ∧ after.Sound ∧ after.state = machine.state)
      (parseVarint.run machine) := by
  obtain ⟨after, found, kept, same⟩ := measureVarint_sound sound measured
  unfold parseVarint
  refine ends_bind.mpr (ends_get.mpr (ends_bind.mpr (ends_ofExcept.mpr ?_)))
  rw [found]
  refine ⟨fun _ equal => ?_, fun _ failed => nomatch failed⟩
  cases equal
  refine ends_bind.mpr ?_
  change Ends _ _ (run _ after)
  split_ifs
  · exact ⟨by decide, kept, same⟩
  · refine ends_bind.mpr (ends_ofExcept.mpr ⟨fun _ _ => ⟨kept, same⟩, fun error failed => ?_⟩)
    refine ⟨?_, kept, same⟩
    rintro rfl
    exact readVarint_avoids _ failed

end Http3StateMachine

namespace Http3Stream

variable {failed : Http3Error → Http3Stream × QuicConn → Prop} {state : Http3Stream × QuicConn}

theorem ends_own {post : α → Http3Stream × QuicConn → Prop}
    {steps : Stateful Http3Stream Http3Error α} :
    Ends post failed ((own steps).run state) ↔
      Ends (fun value stream => post value (stream, state.2))
        (fun error stream => failed error (stream, state.2)) (steps.run state.1) :=
  ends_zoom

theorem ends_getStream {post : Http3Stream → Http3Stream × QuicConn → Prop} :
    Ends post failed (getStream.run state) ↔ post state.1 state := Iff.rfl

theorem ends_ownMachine {post : α → Http3Stream × QuicConn → Prop}
    {steps : Stateful Http3StateMachine Http3Error α} :
    Ends post failed ((ownMachine steps).run state) ↔
      Ends (fun value machine => post value ({ state.1 with machine }, state.2))
        (fun error machine => failed error ({ state.1 with machine }, state.2))
        (steps.run state.1.machine) :=
  ends_own.trans ends_zoom

/-! ## Reading into the buffer -/

structure ReadStep (before after : Http3Stream × QuicConn) : Prop where
  rest : after.1 = { before.1 with
    machine := after.1.machine, dataEventTriggered := after.1.dataEventTriggered }
  state : after.1.state = before.1.state
  sound : after.1.machine.Sound
  payload : before.1.state = .framePayload →
    after.1.machine.expectedLen = before.1.machine.expectedLen
  unread : after.2.unread before.1.streamId ≤ before.2.unread before.1.streamId

/-- What is in the state was there before, or something was read. -/
def Paid (before after : Http3Stream × QuicConn) : Prop :=
  before.1.machine.ready = true ∨
    after.2.unread before.1.streamId < before.2.unread before.1.streamId

theorem ReadStep.refl (sound : state.1.machine.Sound) :
    ReadStep state state := ⟨rfl, rfl, sound, fun _ => rfl, le_refl _⟩

variable {before after : Http3Stream × QuicConn}

theorem ReadStep.streamId (step : ReadStep before after) :
    after.1.streamId = before.1.streamId := by
  rw [step.rest]

theorem ReadStep.trans {first second third : Http3Stream × QuicConn} (former : ReadStep first second)
    (latter : ReadStep second third) : ReadStep first third where
  rest := by
    have rest := latter.rest
    rw [former.rest] at rest
    exact rest
  state := latter.state.trans former.state
  sound := latter.sound
  payload place := (latter.payload (former.state.trans place)).trans (former.payload place)
  unread := by
    have fewer := latter.unread
    rw [former.streamId] at fewer
    exact fewer.trans former.unread

theorem failRead_ends (error : Http3Error) (state : Http3Stream × QuicConn) :
    Ends (fun _ _ => False)
      (fun raised after => raised = error ∧ after.2 = state.2 ∧
        after.1 = { state.1 with dataEventTriggered := after.1.dataEventTriggered })
      ((failRead error : Http3M Http3Stream α).run state) := by
  unfold failRead
  refine ends_bind.mpr (ends_own.mpr ?_)
  split_ifs
  · exact ⟨rfl, rfl, rfl⟩
  · exact ⟨rfl, rfl, rfl⟩

theorem readAndFillBuffer_ends {state : Http3Stream × QuicConn} (sound : state.1.machine.Sound)
    (reading : state.1.state ≠ .data) (unfinished : state.1.state ≠ .readFinished) :
    Ends (fun _ after => ReadStep state after ∧ Paid state after ∧ after.1.machine.ready = true ∧
        after.1.machine.expectedLen = state.1.machine.expectedLen)
      (fun error after => error ≠ .panic ∧ ReadStep state after) (readAndFillBuffer.run state) := by
  obtain ⟨stream, conn⟩ := state
  have room := sound.room reading unfinished
  have offset := sound.offset
  unfold readAndFillBuffer
  refine ends_bind.mpr (ends_getStream.mpr ?_)
  dsimp only
  by_cases ready : stream.machine.ready = true
  · rw [if_pos ready]
    exact ⟨.refl sound, .inl ready, ready, rfl⟩
  rw [if_neg ready, if_neg (by dsimp only at room offset; omega)]
  have missing : stream.machine.writeOff ≠ stream.machine.expectedLen :=
    fun same => ready (Http3StateMachine.ready_iff.mpr same)
  refine ends_bind.mpr (ends_attempt.mpr (ends_call.mpr ?_))
  refine (QuicConn.streamRead_ends conn stream.streamId _).mono ?_ ?_
  case refine_1 =>
    rintro ⟨bytes, fin⟩ after lighter
    have less := lighter.less (by dsimp only at offset; omega)
    have filled := sound.fill reading unfinished lighter.bounded
    refine ends_bind.mpr (ends_ownMachine.mpr (ends_modify.mpr (ends_bind.mpr
      (ends_getStream.mpr ?_))))
    split_ifs with full
    · exact ⟨⟨rfl, rfl, filled, fun _ => rfl, less.le⟩, .inr less, full, rfl⟩
    · refine (failRead_ends .done _).mono (fun _ _ impossible => impossible.elim) ?_
      rintro _ ⟨next, conn'⟩ ⟨rfl, rfl, same⟩
      refine ⟨by decide, ?_, ?_, ?_, fun _ => ?_, less.le⟩
      · rw [same]
      · rw [same]
        rfl
      · rw [same]
        exact filled
      · rw [same]
        rfl
  case refine_2 =>
    rintro error after ⟨calm, fewer⟩
    refine (failRead_ends _ _).mono (fun _ _ impossible => impossible.elim) ?_
    rintro _ ⟨next, conn'⟩ ⟨rfl, rfl, same⟩
    refine ⟨fun panics => calm (Http3Error.ofError_eq_panic panics), ?_, ?_, ?_, fun _ => ?_, fewer⟩
    · rw [same]
    · rw [same]
      rfl
    · rw [same]
      exact sound
    · rw [same]

theorem readAndParseVarint_ends (sound : state.1.machine.Sound)
    (measured : Http3StateMachine.Measured state.1.state) :
    Ends (fun _ after => ReadStep state after ∧ Paid state after)
      (fun error after => error ≠ .panic ∧ ReadStep state after)
      (readAndParseVarint.run state) := by
  unfold readAndParseVarint
  refine ends_bind.mpr ((readAndFillBuffer_ends sound measured.2.1 measured.2.2).mono ?_
    fun _ _ failed => failed)
  rintro _ first ⟨step, paid, _, _⟩
  have still : Http3StateMachine.Measured first.1.state := step.state ▸ measured
  have parsed : ∀ {machine : Http3StateMachine}, machine.Sound → machine.state = first.1.state →
      ReadStep first ({ first.1 with machine }, first.2) :=
    fun sound same => ⟨rfl, same, sound, fun payload => absurd payload still.1, le_refl _⟩
  refine ends_bind.mpr (ends_attempt.mpr (ends_ownMachine.mpr ?_))
  refine (Http3StateMachine.parseVarint_ends step.sound still).mono ?_ ?_
  · rintro _ machine ⟨kept, same⟩
    exact ⟨step.trans (parsed kept same), paid⟩
  · rintro error machine ⟨calm, kept, same⟩
    have resized := step.trans (parsed kept same)
    split
    case h_1 impossible => cases impossible
    case h_2 =>
      have again : Http3StateMachine.Measured machine.state := same ▸ still
      have filled := @readAndFillBuffer_ends ({ first.1 with machine }, first.2) kept again.2.1 again.2.2
      refine ends_bind.mpr (filled.mono ?_ fun _ _ failed => ⟨failed.1, resized.trans failed.2⟩)
      rintro _ second ⟨refilled, _, _, _⟩
      have grown := resized.trans refilled
      have later : Http3StateMachine.Measured second.1.state := grown.state ▸ measured
      refine ends_ownMachine.mpr ((Http3StateMachine.parseVarint_ends grown.sound later).mono ?_ ?_)
      · rintro _ last ⟨sound, state⟩
        refine ⟨grown.trans ⟨rfl, state, sound, fun payload => absurd payload later.1, le_refl _⟩,
          paid.imp_right fun less => ?_⟩
        exact (step.streamId ▸ refilled.unread).trans_lt less
      · rintro _ last ⟨calm, sound, state⟩
        exact ⟨calm, grown.trans ⟨rfl, state, sound, fun payload => absurd payload later.1, le_refl _⟩⟩
    case h_3 other _ same =>
      cases same
      exact ⟨calm, resized⟩

/-! ## What follows a value that was read -/

def statesOf : Option Http3StreamType → List Http3StreamState
  | none => [.streamType]
  | some .control => [.frameType, .framePayloadLen, .framePayload]
  | some .request => [.frameType, .framePayloadLen, .framePayload, .data, .readFinished]
  | some .push => [.pushId, .frameType, .framePayloadLen, .framePayload, .data, .readFinished]
  | some .qpackEncoder => [.qpackEncoderInstruction]
  | some .qpackDecoder => [.qpackDecoderInstruction]
  | some (.unknown _) => [.skip]

structure Sound (stream : Http3Stream) : Prop where
  machine : stream.machine.Sound
  place : stream.state ∈ statesOf stream.streamType
  bidi : stream.streamType = some .request ↔ isBidi stream.streamId = true
  framed : stream.state = .framePayloadLen ∨ stream.state = .framePayload →
    stream.frameType.isSome = true
  control : stream.streamType = none ∨ stream.streamType = some .control →
    stream.frameType ≠ some dataFrameType
  fields : stream.state = .framePayload → stream.frameType.any (· ∈ fieldFrameTypes) = true →
    0 < stream.machine.expectedLen

/-- The types of streams that carry frames. -/
def Framed (streamType : Option Http3StreamType) : Prop :=
  streamType = some .control ∨ streamType = some .request ∨ streamType = some .push

variable {streamType : Option Http3StreamType}

theorem framed_of_place {state : Http3StreamState} (place : state ∈ statesOf streamType)
    (frame : state ∈ [.pushId, .frameType, .framePayloadLen, .framePayload, .data]) :
    Framed streamType := by
  unfold statesOf at place
  split at place
  case h_2 => exact .inl rfl
  case h_3 => exact .inr (.inl rfl)
  case h_4 => exact .inr (.inr rfl)
  all_goals
    rw [List.mem_singleton.mp place] at frame
    exact absurd frame (by decide)

theorem Framed.typed (framed : Framed streamType) : streamType ≠ none := by
  rcases framed with rfl | rfl | rfl <;> decide

theorem Framed.place (framed : Framed streamType) {state : Http3StreamState}
    (frame : state = .frameType ∨ state = .framePayloadLen ∨ state = .framePayload) :
    state ∈ statesOf streamType := by
  rcases framed with rfl | rfl | rfl <;> rcases frame with rfl | rfl | rfl <;> decide

theorem Framed.data (framed : Framed streamType)
    (other : streamType ≠ some .control) : .data ∈ statesOf streamType := by
  rcases framed with rfl | rfl | rfl
  · exact absurd rfl other
  · decide
  · decide

theorem transitionState_ends (newState : Http3StreamState) (newLen : Nat) (resized : Bool)
    (stream : Http3Stream) :
    Ends (fun _ after => after = { stream with machine := stream.machine.moved newState newLen resized })
      (fun error after => error = .excessiveLoad ∧ resized = true ∧ maxStateBufSize < newLen ∧
        after = stream)
      ((transitionState newState newLen resized).run stream) := by
  refine ends_zoom.mpr ((Http3StateMachine.transition_ends newState newLen resized _).mono ?_ ?_)
  · rintro _ _ rfl
    rfl
  · rintro _ _ ⟨rfl, resized, large, rfl⟩
    exact ⟨rfl, resized, large, rfl⟩

private theorem checkFrame_ends (frameType : Nat) (stream : Http3Stream) :
    Ends (fun _ after => (∃ flag, after = { stream with peerInitialized := flag }) ∧
        (stream.streamType = some .control → frameType ≠ dataFrameType))
      (fun error after => error ≠ .panic ∧ after = stream) ((checkFrame frameType).run stream) := by
  unfold checkFrame
  refine ends_bind.mpr (ends_get.mpr ?_)
  split
  case h_1 control =>
    unfold checkFrameOnControlStream
    refine ends_bind.mpr (ends_get.mpr ?_)
    split_ifs with fresh settings banned
    · exact ⟨⟨_, rfl⟩, fun _ => settings ▸ by decide⟩
    · exact ⟨by decide, rfl⟩
    · exact ⟨by decide, rfl⟩
    · refine ⟨⟨_, rfl⟩, ?_⟩
      rintro _ rfl
      exact banned (by decide)
  case h_2 request =>
    have other : stream.streamType ≠ some .control := by
      rw [request]
      decide
    unfold checkFrameOnRequestStream
    refine ends_bind.mpr (ends_get.mpr ?_)
    split_ifs
    · exact ⟨⟨_, rfl⟩, fun control => absurd control other⟩
    · exact ⟨by decide, rfl⟩
    · exact ⟨by decide, rfl⟩
    · exact ⟨⟨_, rfl⟩, fun control => absurd control other⟩
  case h_3 push =>
    have other : stream.streamType ≠ some .control := by
      rw [push]
      decide
    unfold checkFrameOnPushStream
    split_ifs
    · exact ⟨by decide, rfl⟩
    · exact ⟨⟨_, rfl⟩, fun control => absurd control other⟩
  case h_4 => exact ⟨by decide, rfl⟩

/-- A later state of the stream, whose type does not change once it is known. -/
structure Continues (before after : Http3Stream) : Prop where
  sound : after.Sound
  streamId : after.streamId = before.streamId
  typed : before.streamType ≠ none → after.streamType = before.streamType
  begun : before.streamType ≠ none → before.state ≠ .pushId → after.state ≠ .pushId

variable {stream : Http3Stream}

theorem Continues.refl (sound : stream.Sound) : Continues stream stream :=
  ⟨sound, rfl, fun _ => rfl, fun _ begun => begun⟩

private theorem setFrameType_ends (sound : stream.Sound)
    (state : stream.state = .frameType) (frameType : Nat) :
    Ends (fun _ after => Continues stream after ∧ after.state = .framePayloadLen ∧
        after.machine.ready = false)
      (fun error after => error ≠ .panic ∧ Continues stream after)
      ((setFrameType frameType).run stream) := by
  have framed := framed_of_place sound.place (by rw [state]; decide)
  unfold setFrameType
  refine ends_bind.mpr ((checkFrame_ends frameType stream).mono ?_ ?_)
  · rintro _ _ ⟨⟨flag, rfl⟩, allowed⟩
    refine ends_bind.mpr (ends_modify.mpr ((transitionState_ends _ _ _ _).mono ?_ ?_))
    · rintro _ _ rfl
      refine ⟨⟨⟨.moved (.inl rfl), framed.place (.inr (.inl rfl)), sound.bidi, fun _ => rfl, ?_,
        fun other => nomatch other⟩, rfl, fun _ => rfl, fun _ _ same => nomatch same⟩, rfl, rfl⟩
      rintro (untyped | control) same
      · exact absurd untyped framed.typed
      · exact allowed control (Option.some.inj same)
    · rintro _ _ ⟨_, _, large, _⟩
      exact absurd large (by decide)
  · rintro error _ ⟨calm, rfl⟩
    exact ⟨calm, .refl sound⟩

private theorem setFramePayloadLen_ends (sound : stream.Sound)
    (state : stream.state = .framePayloadLen) (framePayloadLen : Nat) :
    Ends (fun _ after => Continues stream after ∧ after.state ≠ .framePayloadLen)
      (fun error after => error ≠ .panic ∧ Continues stream after)
      ((setFramePayloadLen framePayloadLen).run stream) := by
  have framed := framed_of_place sound.place (by rw [state]; decide)
  unfold setFramePayloadLen
  refine ends_bind.mpr (ends_get.mpr ?_)
  split_ifs with data empty
  · refine (transitionState_ends _ _ _ _).mono ?_ ?_
    · rintro _ _ rfl
      have other : stream.streamType ≠ some .control := fun control => sound.control (.inr control) data
      exact ⟨⟨⟨.moved (.inr (.inl rfl)), framed.data other, sound.bidi,
        by simp [Http3Stream.state, Http3StateMachine.moved], sound.control,
        fun other => nomatch other⟩, rfl, fun _ => rfl, fun _ _ same => nomatch same⟩,
        by simp [Http3Stream.state, Http3StateMachine.moved]⟩
    · rintro _ _ ⟨_, resized, _⟩
      cases resized
  · exact ⟨by decide, .refl sound⟩
  · have nonempty : stream.frameType.any (· ∈ fieldFrameTypes) = true → 0 < framePayloadLen := by
      intro fielded
      rw [fielded, Bool.true_and, decide_eq_true_eq] at empty
      exact Nat.pos_of_ne_zero empty
    refine (transitionState_ends _ _ _ _).mono ?_ ?_
    · rintro _ _ rfl
      exact ⟨⟨⟨.moved (.inl rfl), framed.place (.inr (.inr rfl)), sound.bidi,
        fun _ => sound.framed (.inl state), sound.control, fun _ => nonempty⟩, rfl, fun _ => rfl,
        fun _ _ same => nomatch same⟩, by simp [Http3Stream.state, Http3StateMachine.moved]⟩
    · rintro _ _ ⟨rfl, _, _, rfl⟩
      exact ⟨by decide, .refl sound⟩

theorem Framed.restart (framed : Framed stream.streamType) (sound : stream.Sound) :
    Continues stream { stream with machine := stream.machine.moved .frameType 1 true } :=
  ⟨⟨.moved (.inl rfl), framed.place (.inl rfl), sound.bidi,
    by simp [Http3Stream.state, Http3StateMachine.moved], sound.control,
      fun other => nomatch other⟩, rfl, fun _ => rfl, fun _ _ same => nomatch same⟩

theorem restart_ends (sound : stream.Sound) (framed : Framed stream.streamType) :
    Ends (fun _ after => Continues stream after ∧ after.state = .frameType ∧
        after.machine.ready = false)
      (fun error after => error ≠ .panic ∧ Continues stream after)
      ((transitionState .frameType 1 true).run stream) := by
  refine (transitionState_ends _ _ _ _).mono ?_ ?_
  · rintro _ _ rfl
    exact ⟨framed.restart sound, rfl, rfl⟩
  · rintro _ _ ⟨_, _, large, _⟩
    exact absurd large (by decide)

private theorem setStreamType_ends (sound : stream.Sound)
    (state : stream.state = .streamType) {streamType : Http3StreamType}
    (other : streamType ≠ .request) :
    Ends (fun _ after => Continues stream after ∧ after.streamType = some streamType)
      (fun error after => error ≠ .panic ∧ Continues stream after)
      ((setStreamType streamType).run stream) := by
  have untyped : stream.streamType = none := by
    have place := sound.place
    rw [state] at place
    unfold statesOf at place
    split at place <;> first | assumption | simp at place
  have uni : isBidi stream.streamId ≠ true := by
    intro bidi
    rw [← sound.bidi, untyped] at bidi
    cases bidi
  have moved : ∀ (flag : Bool) (newState : Http3StreamState), newState ∈ statesOf (some streamType) →
      newState ≠ .framePayloadLen ∧ newState ≠ .framePayload →
      Ends (fun _ after => Continues stream after ∧ after.streamType = some streamType)
        (fun error after => error ≠ .panic ∧ Continues stream after)
        ((transitionState newState 1 true).run
          { stream with streamType := some streamType, peerInitialized := flag }) := by
    intro flag newState place outside
    refine (transitionState_ends _ _ _ _).mono ?_ ?_
    · rintro _ _ rfl
      refine ⟨⟨⟨.moved (.inl rfl), place, ?_, fun frame => ?_, ?_, fun frame => ?_⟩, rfl,
        fun typed => absurd untyped typed, fun typed => absurd untyped typed⟩, rfl⟩
      · constructor
        · exact fun same => absurd (Option.some.inj same) other
        · exact fun bidi => absurd bidi uni
      · exact absurd frame (not_or.mpr outside)
      · exact fun _ => sound.control (.inl untyped)
      · exact absurd frame outside.2
    · rintro _ _ ⟨_, _, large, _⟩
      exact absurd large (by decide)
  unfold setStreamType
  refine ends_bind.mpr (ends_modify.mpr ?_)
  cases streamType with
  | control => exact moved _ _ (by decide) (by decide)
  | request => exact absurd rfl other
  | push => exact moved _ _ (by decide) (by decide)
  | qpackEncoder => exact ends_bind.mpr (ends_modify.mpr (moved _ _ (by decide) (by decide)))
  | qpackDecoder => exact ends_bind.mpr (ends_modify.mpr (moved _ _ (by decide) (by decide)))
  | unknown typeId => exact moved _ _ (List.mem_singleton_self _) (by decide)

/-! ## Parsing -/

/-- Turns that a loop over the stream can take: what is ready is processed without reading, and a
frame without payload is ready at once. -/
def rank (stream : Http3Stream) : Nat :=
  if !stream.machine.ready then 0 else if stream.state = .framePayloadLen then 2 else 1

def turnsLeft (state : Http3Stream × QuicConn) : Nat :=
  2 * state.2.unread state.1.streamId + rank state.1

theorem unread_of_streams {before after : QuicConn} (same : after.streams = before.streams)
    (streamId : Nat) : after.unread streamId = before.unread streamId := by
  rw [QuicConn.unread, QuicConn.unread, same]

theorem ReadStep.continues (step : ReadStep before after)
    (sound : before.1.Sound) : Continues before.1 after.1 := by
  obtain ⟨next, conn⟩ := after
  have rest := step.rest
  have state := step.state
  have machine := step.sound
  have payload := step.payload
  dsimp only at rest state machine payload ⊢
  rw [rest] at state ⊢
  refine ⟨⟨machine, ?_, sound.bidi, ?_, sound.control, ?_⟩, rfl, fun _ => rfl, fun _ begun => ?_⟩
  · rw [state]
    exact sound.place
  · rw [state]
    exact sound.framed
  · intro place fielded
    have before := state.symm.trans place
    exact (payload before).symm ▸ sound.fields before fielded
  · exact fun same => begun (state.symm.trans same)

theorem Continues.trans {first second third : Http3Stream} (former : Continues first second)
    (latter : Continues second third) : Continues first third :=
  ⟨latter.sound, latter.streamId.trans former.streamId, fun typed =>
    (latter.typed (former.typed typed ▸ typed)).trans (former.typed typed), fun typed begun =>
    latter.begun (former.typed typed ▸ typed) (former.begun typed begun)⟩

theorem orClose_ends {reason : Http3Error → String}
    {steps : Stateful Http3Stream Http3Error α} {post : α → Http3Stream → Prop}
    {kept : Http3Stream → Prop}
    (ends : Ends post (fun error after => error ≠ .panic ∧ kept after) (steps.run state.1)) :
    Ends (fun value after => post value after.1 ∧ after.2 = state.2)
      (fun error after => error ≠ .panic ∧ kept after.1)
      ((orClose reason (own steps)).run state) := by
  unfold orClose
  refine ends_bind.mpr (ends_attempt.mpr (ends_own.mpr (ends.mono ?_ ?_)))
  · exact fun value after holds => ⟨holds, rfl⟩
  · rintro error after ⟨calm, holds⟩
    refine (closeWith_ends error _ _).mono (fun _ _ impossible => impossible.elim) ?_
    rintro raised ⟨next, conn⟩ ⟨which, same, _⟩
    refine ⟨?_, same ▸ holds⟩
    rcases which with rfl | rfl
    · exact calm
    · decide

/-- A variable-length integer is read, and the stream goes on as the integer says. -/
theorem parse_ends (sound : state.1.Sound) (measured : Http3StateMachine.Measured state.1.state)
    {follow : Nat → Stateful Http3Stream Http3Error α} {reason : Nat → Http3Error → String}
    (post : α → Http3Stream → Prop)
    (spec : ∀ value stream, stream.Sound → stream.state = state.1.state →
      Ends (fun result after => Continues stream after ∧ post result after)
        (fun error after => error ≠ .panic ∧ Continues stream after) ((follow value).run stream)) :
    Ends (fun result after => Continues state.1 after.1 ∧ post result after.1 ∧
        after.2.unread state.1.streamId ≤ state.2.unread state.1.streamId ∧ Paid state after)
      (fun error after => error ≠ .panic ∧ Continues state.1 after.1)
      ((readAndParseVarint >>= fun value => orClose (reason value) (own (follow value))).run state) := by
  refine ends_bind.mpr ((readAndParseVarint_ends sound.machine measured).mono ?_ ?_)
  · rintro value next ⟨step, paid⟩
    have continues := step.continues sound
    refine (orClose_ends (spec value next.1 continues.sound step.state)).mono ?_ ?_
    · rintro result ⟨after, conn⟩ ⟨⟨goes, holds⟩, same⟩
      dsimp only at same
      subst same
      exact ⟨continues.trans goes, holds, step.unread, paid⟩
    · rintro error after ⟨calm, goes⟩
      exact ⟨calm, continues.trans goes⟩
  · rintro error after ⟨calm, step⟩
    exact ⟨calm, step.continues sound⟩

private theorem rank_pos (ready : stream.machine.ready = true) : 1 ≤ rank stream := by
  unfold rank
  rw [ready]
  split_ifs <;> simp_all

private theorem rank_le (other : stream.state ≠ .framePayloadLen) : rank stream ≤ 1 := by
  unfold rank
  split_ifs
  · exact Nat.zero_le 1
  · exact le_refl 1

theorem turnsLeft_less (rest : Continues before.1 after.1)
    (fewer : after.2.unread before.1.streamId ≤ before.2.unread before.1.streamId)
    (paid : Paid before after) (small : rank after.1 ≤ 1)
    (smaller : before.1.machine.ready = true → rank after.1 < rank before.1) :
    turnsLeft after < turnsLeft before := by
  unfold turnsLeft
  rw [rest.streamId]
  rcases paid with ready | less
  · have ranks := smaller ready
    omega
  · omega

private theorem rank_idle (idle : stream.machine.ready = false) : rank stream = 0 := by
  unfold rank
  rw [idle]
  rfl

theorem turnsLeft_idle (rest : Continues before.1 after.1)
    (fewer : after.2.unread before.1.streamId ≤ before.2.unread before.1.streamId)
    (paid : Paid before after) (idle : after.1.machine.ready = false) :
    turnsLeft after < turnsLeft before := by
  have nothing := rank_idle idle
  refine turnsLeft_less rest fewer paid (nothing ▸ Nat.zero_le 1) fun ready => ?_
  have some_left := rank_pos ready
  omega

theorem parsePushId_ends {state : Http3Stream × QuicConn} (sound : state.1.Sound)
    (place : state.1.state = .pushId) :
    Ends (fun _ after => Continues state.1 after.1 ∧ turnsLeft after < turnsLeft state)
      (fun error after => error ≠ .panic ∧ Continues state.1 after.1) (parsePushId.run state) := by
  refine (parse_ends sound (by rw [place]; decide) (fun _ after => after.machine.ready = false)
    fun value stream sound same => ?_).mono ?_ fun _ _ failed => failed
  · refine (restart_ends sound (framed_of_place sound.place ?_)).mono
      (fun _ _ holds => ⟨holds.1, holds.2.2⟩) fun _ _ failed => failed
    rw [same, place]
    decide
  · rintro _ after ⟨continues, idle, fewer, paid⟩
    exact ⟨continues, turnsLeft_idle continues fewer paid idle⟩

theorem parseFrameType_ends {state : Http3Stream × QuicConn} (sound : state.1.Sound)
    (place : state.1.state = .frameType) :
    Ends (fun _ after => Continues state.1 after.1 ∧ turnsLeft after < turnsLeft state)
      (fun error after => error ≠ .panic ∧ Continues state.1 after.1) (parseFrameType.run state) := by
  refine (parse_ends sound (by rw [place]; decide) (fun _ after => after.machine.ready = false)
    fun value stream sound same => ?_).mono ?_ fun _ _ failed => failed
  · exact (setFrameType_ends sound (same.trans place) value).mono
      (fun _ _ holds => ⟨holds.1, holds.2.2⟩) fun _ _ failed => failed
  · rintro _ after ⟨continues, idle, fewer, paid⟩
    exact ⟨continues, turnsLeft_idle continues fewer paid idle⟩

theorem parseFramePayloadLength_ends {state : Http3Stream × QuicConn} (sound : state.1.Sound)
    (place : state.1.state = .framePayloadLen) :
    Ends (fun _ after => Continues state.1 after.1 ∧ turnsLeft after < turnsLeft state)
      (fun error after => error ≠ .panic ∧ Continues state.1 after.1)
      (parseFramePayloadLength.run state) := by
  refine (parse_ends sound (by rw [place]; decide) (fun _ after => after.state ≠ .framePayloadLen)
    fun value stream sound same => setFramePayloadLen_ends sound (same.trans place) value).mono ?_
    fun _ _ failed => failed
  rintro _ after ⟨continues, other, fewer, paid⟩
  have small := rank_le other
  refine ⟨continues, turnsLeft_less continues fewer paid small fun ready => ?_⟩
  have large : rank state.1 = 2 := by
    unfold rank
    rw [ready, place]
    rfl
  omega

/-- The type of a unidirectional stream is never that of a request. -/
theorem parseUniStreamType_ends {state : Http3Stream × QuicConn} (sound : state.1.Sound)
    (place : state.1.state = .streamType) :
    Ends (fun streamType after => Continues state.1 after.1 ∧ after.1.streamType = some streamType ∧
        streamType ≠ .request)
      (fun error after => error ≠ .panic ∧ Continues state.1 after.1)
      (parseUniStreamType.run state) := by
  have other : ∀ typeId, Http3StreamType.fromId typeId ≠ .request := by
    intro typeId
    unfold Http3StreamType.fromId
    split_ifs <;> exact fun same => nomatch same
  unfold parseUniStreamType
  refine ends_bind.mpr ((readAndParseVarint_ends sound.machine (by rw [place]; decide)).mono ?_ ?_)
  · rintro typeId next ⟨step, _⟩
    have continues := step.continues sound
    refine ends_bind.mpr ((orClose_ends (setStreamType_ends continues.sound
      (step.state.trans place) (other typeId))).mono ?_ ?_)
    · rintro _ after ⟨⟨goes, typed⟩, _⟩
      exact ⟨continues.trans goes, typed, other typeId⟩
    · rintro error after ⟨calm, goes⟩
      exact ⟨calm, continues.trans goes⟩
  · rintro error after ⟨calm, step⟩
    exact ⟨calm, step.continues sound⟩

private theorem parseFramePayloadInner_ends (sound : state.1.Sound)
    (place : state.1.state = .framePayload) :
    Ends (fun _ after => Continues state.1 after.1 ∧ turnsLeft after < turnsLeft state)
      (fun error after => error ≠ .panic ∧ Continues state.1 after.1)
      (parseFramePayloadInner.run state) := by
  unfold parseFramePayloadInner
  refine ends_bind.mpr ((readAndFillBuffer_ends sound.machine (by rw [place]; decide)
    (by rw [place]; decide)).mono ?_ ?_)
  · rintro _ next ⟨step, paid, _, _⟩
    have continues := step.continues sound
    have filled := continues.sound
    have still := step.state.trans place
    have quiet : Continues next.1 { next.1 with dataEventTriggered := false } :=
      ⟨⟨filled.machine, filled.place, filled.bidi, filled.framed, filled.control,
        filled.fields⟩, rfl,
        fun _ => rfl, fun _ begun => begun⟩
    refine ends_bind.mpr (ends_own.mpr (ends_modify.mpr (ends_bind.mpr (ends_getStream.mpr ?_))))
    have framed := filled.framed (.inr still)
    split
    case h_1 missing => exact absurd (missing ▸ framed) (by decide)
    case h_2 frameType found =>
      refine ends_bind.mpr (ends_ofExcept.mpr ⟨fun frame _ => ?_, fun error failed => ?_⟩)
      · refine ends_bind.mpr (ends_own.mpr ((restart_ends quiet.sound (framed_of_place
          filled.place (by rw [still]; decide))).mono ?_ ?_))
        · rintro _ after ⟨goes, _, idle⟩
          have whole := continues.trans (quiet.trans goes)
          exact ⟨whole, turnsLeft_idle whole step.unread paid idle⟩
        · rintro error after ⟨calm, goes⟩
          exact ⟨calm, continues.trans (quiet.trans goes)⟩
      · refine ⟨?_, continues.trans quiet⟩
        rintro rfl
        have whole := filled.machine.payload still
        rw [← whole] at failed
        exact Http3Frame.decodePayload_avoids _ _ failed
  · rintro error after ⟨calm, step⟩
    exact ⟨calm, step.continues sound⟩

theorem parseFramePayload_ends {state : Http3Stream × QuicConn} (sound : state.1.Sound)
    (place : state.1.state = .framePayload) :
    Ends (fun _ after => Continues state.1 after.1 ∧ turnsLeft after < turnsLeft state)
      (fun error after => error ≠ .panic ∧ Continues state.1 after.1)
      (parseFramePayload.run state) := by
  unfold parseFramePayload
  refine ends_bind.mpr (ends_attempt.mpr ((parseFramePayloadInner_ends sound place).mono ?_ ?_))
  · exact fun _ _ holds => holds
  · rintro error after ⟨calm, continues⟩
    split
    case h_1 impossible => cases impossible
    case h_2 => exact ⟨by decide, continues⟩
    case h_3 other _ same =>
      cases same
      refine (closeWith_ends _ _ _).mono (fun _ _ impossible => impossible.elim) ?_
      rintro raised ⟨last, conn⟩ ⟨which, kept, _⟩
      refine ⟨?_, kept ▸ continues⟩
      rcases which with rfl | rfl
      · exact calm
      · decide

/-- The payload of a DATA frame goes to the application, never more of it than is expected. -/
theorem readDataFromQuic_ends {state : Http3Stream × QuicConn} (sound : state.1.Sound)
    (place : state.1.state = .data) (outLen : Nat) :
    Ends (fun read after => Continues state.1 after.1 ∧ read.1.length ≤ outLen)
      (fun error after => error ≠ .panic ∧ Continues state.1 after.1)
      ((readDataFromQuic outLen).run state) := by
  obtain ⟨stream, conn⟩ := state
  have framed := framed_of_place sound.place (by rw [place]; decide)
  have offset := sound.machine.offset
  have flagged : ∀ flag, Continues stream { stream with dataEventTriggered := flag } :=
    fun flag => ⟨⟨sound.machine, sound.place, sound.bidi, sound.framed, sound.control, sound.fields⟩, rfl,
      fun _ => rfl, fun _ begun => begun⟩
  unfold readDataFromQuic
  refine ends_bind.mpr (ends_getStream.mpr (ends_bind.mpr (ends_ofExcept.mpr ?_)))
  unfold Http3StateMachine.remainingLen
  rw [if_neg (not_lt.mpr offset)]
  refine ⟨fun _ same => ?_, fun _ failed => nomatch failed⟩
  cases same
  refine ends_bind.mpr (ends_attempt.mpr (ends_call.mpr ?_))
  refine (QuicConn.streamRead_ends conn stream.streamId _).mono ?_ ?_
  case refine_1 =>
    rintro ⟨bytes, fin⟩ after lighter
    have bounded := lighter.bounded
    dsimp only at bounded place offset
    have read : Continues stream
        { stream with machine := stream.machine.increaseOff bytes.length } := by
      refine ⟨⟨⟨?_, fun reading => absurd place reading, fun payload => ?_⟩, sound.place, sound.bidi,
        sound.framed, sound.control, sound.fields⟩, rfl, fun _ => rfl, fun _ begun => begun⟩
      · change stream.machine.writeOff + bytes.length ≤ stream.machine.expectedLen
        omega
      · exact absurd (place.symm.trans payload) (by decide)
    refine ends_bind.mpr (ends_ownMachine.mpr (ends_modify.mpr (ends_bind.mpr (ends_get.mpr
      (ends_bind.mpr (ends_own.mpr ?_))))))
    refine Ends.mono (show Ends (fun _ next => Continues stream next) (fun _ _ => False) _ from ?_)
      ?_ fun _ _ impossible => impossible.elim
    · split_ifs
      · exact read.trans ⟨⟨read.sound.machine, sound.place, sound.bidi, sound.framed,
          sound.control, sound.fields⟩, rfl, fun _ => rfl, fun _ begun => begun⟩
      · exact read
    · rintro _ next goes
      have typed := goes.typed framed.typed
      refine ends_bind.mpr (ends_getStream.mpr (ends_bind.mpr (ends_own.mpr ?_)))
      split_ifs
      · refine (restart_ends goes.sound (typed.symm ▸ framed)).mono ?_ ?_
        · rintro _ after ⟨restarts, _⟩
          exact ⟨goes.trans restarts, by dsimp only; omega⟩
        · rintro error after ⟨calm, restarts⟩
          exact ⟨calm, goes.trans restarts⟩
      · exact ⟨goes, by dsimp only; omega⟩
  case refine_2 =>
    rintro error after ⟨calm, _⟩
    refine (failRead_ends _ _).mono (fun _ _ impossible => impossible.elim) ?_
    rintro _ ⟨next, conn'⟩ ⟨rfl, rfl, same⟩
    dsimp only at same ⊢
    rw [same]
    exact ⟨fun panics => calm (Http3Error.ofError_eq_panic panics), flagged _⟩

end Http3Stream

end Tquic.H3
