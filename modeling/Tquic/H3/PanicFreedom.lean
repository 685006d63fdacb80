import Tquic.H3.ReceiveSafety
import Tquic.Lib.Transition

/-! Neither polling nor receiving a body panics, in any state that the calls of an application and
the bytes of a peer lead to. -/

set_option autoImplicit false

namespace Tquic.H3

open Lib Connection Stateful

variable {α : Type}

namespace Http3Connection

/-- Steps that leave all streams well formed and do not panic. -/
def Calm : Except Http3Error α × Http3Connection × QuicConn → Prop :=
  Ends (fun _ after => after.1.Sound) fun error after => error ≠ .panic ∧ after.1.Sound

variable {outcome : Except Http3Error α × Http3Connection × QuicConn}

theorem Calm.sound (calm : Calm outcome) : outcome.2.1.Sound := by
  refine @Ends.invariant _ _ _ (fun state => state.1.Sound) _ (calm.mono ?_ ?_)
  · exact fun _ _ sound => sound
  · exact fun _ _ failed => failed.2

theorem Calm.ne_panic (calm : Calm outcome) : outcome.1 ≠ .error .panic := by
  obtain ⟨result, after⟩ := outcome
  rintro same
  dsimp only at same
  subst same
  exact calm.1 rfl

variable {id : Nat} {kind : Kind} {polling : Prop} {state : Http3Connection × QuicConn}

theorem Passes.calm
    (passes : Passes id kind (fun _ after => Carries id kind after ∧ polling) outcome) :
    Calm outcome :=
  passes.mono (fun _ _ holds => holds.1.sound) fun _ _ failed => ⟨failed.1, failed.2.sound⟩

theorem closeWith_calm (sound : state.1.Sound) {error : Http3Error} (calm : error ≠ .panic)
    (reason : String) : Calm ((closeWith error reason : ConnM α).run state) :=
  (closeWith_kept sound calm reason).mono (fun _ _ kept => kept.sound)
    fun _ _ failed => ⟨failed.1, failed.2.sound⟩

/-! ## Unidirectional streams -/

theorem request_passes {polling : Bool} (carries : Carries id .message state) :
    Passes id .message (fun _ after => Carries id .message after ∧ polling = true)
      ((processReadableRequestStream id polling).run state) :=
  loop_passes (fun _ stream carries found => requestTurn_passes carries found (carries.fits stream found))
    carries

private theorem push_passes {polling : Bool} (carries : Carries id (.typed .push) state) :
    Passes id (.typed .push) (fun _ after => Carries id (.typed .push) after ∧ polling = true)
      ((processReadablePushStream id polling).run state) :=
  loop_passes (fun _ _ carries found => pushTurn_passes carries found) carries

private theorem control_passes (carries : Carries id (.typed .control) state) :
    Passes id (.typed .control) (fun _ after => Carries id (.typed .control) after ∧ True)
      ((processReadableControlStream id).run state) :=
  loop_passes (fun _ _ carries found => controlTurn_passes carries found) carries

/-- Every read of the loop but the last finds something. -/
theorem discardAll_calm {turns : Nat} {state : Http3Connection × QuicConn} (sound : state.1.Sound)
    (enough : state.2.unread id < turns) : Calm ((discardAll id turns).run state) := by
  induction turns generalizing state with
  | zero => exact absurd enough (Nat.not_lt_zero _)
  | succ turns ih =>
      refine ends_bind.mpr (ends_call.mpr ((QuicConn.streamRead_ends state.2 id 4096).mono ?_ ?_))
      · intro read after lighter
        have less := lighter.less (by decide)
        exact @ih (state.1, after) sound (by dsimp only; omega)
      · rintro error after ⟨calm, _⟩
        exact ⟨fun panics => calm (Http3Error.ofError_eq_panic panics), sound⟩

theorem Sound.register {before after : Http3Connection} (sound : before.Sound)
    (same : after.streams = before.streams) (uni : isBidi id = false)
    (critical : ∀ other ∈ after.criticalIds, other = id ∨ other ∈ before.criticalIds) :
    after.Sound where
  streams other stream found := sound.streams other stream (same ▸ found)
  critical other member := by
    rcases critical other member with rfl | known
    · exact uni
    · exact sound.critical other known

/-- The streams are not touched. -/
def Untouched (before : Http3Connection × QuicConn) (after : Http3Connection × QuicConn) : Prop :=
  after.1.Sound ∧ after.1.streams = before.1.streams

private theorem processNewUniStream_ends (sound : state.1.Sound) (uni : isBidi id = false)
    {streamType : Http3StreamType} (other : streamType ≠ .request) :
    Ends (fun _ => Untouched state) (fun error after => error ≠ .panic ∧ after.1.Sound)
      ((processNewUniStream id streamType).run state) := by
  have refused : ∀ error reason, error ≠ .panic →
      Ends (fun _ => Untouched state) (fun error after => error ≠ .panic ∧ after.1.Sound)
        ((closeWith error reason : ConnM Unit).run state) := by
    intro error reason calm
    refine (closeWith_ends error reason state).mono (fun _ _ impossible => impossible.elim) ?_
    rintro raised after ⟨which, same, _⟩
    refine ⟨?_, same ▸ sound⟩
    rcases which with rfl | rfl
    · exact calm
    · decide
  have registered : ∀ (taken : Bool) (reason : String) (change : Http3Connection → Http3Connection),
      (change state.1).streams = state.1.streams →
      (∀ other ∈ (change state.1).criticalIds, other = id ∨ other ∈ state.1.criticalIds) →
      Ends (fun _ => Untouched state) (fun error after => error ≠ .panic ∧ after.1.Sound)
        ((if taken = true then closeWith .streamCreationError reason else update change :
          ConnM Unit).run state) := by
    intro taken reason change same critical
    cases taken with
    | true => exact refused .streamCreationError reason (by decide)
    | false => exact ends_update.mpr ⟨sound.register same uni critical, same⟩
  cases streamType with
  | unknown _ => exact ⟨sound, rfl⟩
  | request => exact absurd rfl other
  | push =>
      refine ends_bind.mpr (ends_get.mpr ?_)
      dsimp only
      split_ifs
      · exact refused _ _ (by decide)
      · exact ⟨sound, rfl⟩
  | control =>
      refine ends_bind.mpr (ends_get.mpr (registered _ _ _ rfl ?_))
      simp only [criticalIds, List.mem_filterMap]
      grind
  | qpackEncoder =>
      refine ends_bind.mpr (ends_get.mpr (registered _ _ _ rfl ?_))
      simp only [criticalIds, List.mem_filterMap]
      grind
  | qpackDecoder =>
      refine ends_bind.mpr (ends_get.mpr (registered _ _ _ rfl ?_))
      simp only [criticalIds, List.mem_filterMap]
      grind

private theorem learnUniStreamType_ends (sound : state.1.Sound) (uni : isBidi id = false)
    {stream : Http3Stream} (found : state.1.streams.get? id = some stream) :
    Ends (fun _ after => after.1.Sound ∧
        ∃ next, after.1.streams.get? id = some next ∧ next.streamType ≠ none)
      (fun error after => error ≠ .panic ∧ after.1.Sound)
      ((learnUniStreamType id stream).run state) := by
  obtain ⟨fits, _⟩ := sound.streams id stream found
  unfold learnUniStreamType
  split_ifs with place
  · have parsed := @Http3Stream.parseUniStreamType_ends (stream, state.2) fits place
    refine ends_bind.mpr ((onStream_ends found).mpr (parsed.mono ?_ ?_))
    · rintro streamType ⟨next, conn⟩ ⟨continues, typed, other⟩
      have later := sound.goesOn found continues
      refine (@processNewUniStream_ends id (state.1.setStream id next, conn) later uni _ other).mono ?_
        fun _ _ failed => failed
      rintro _ after ⟨kept, same⟩
      refine ⟨kept, next, ?_, typed ▸ Option.some_ne_none _⟩
      rw [same]
      exact OrdMap.get?_insert_self _ _ _
    · rintro error ⟨next, conn⟩ ⟨calm, continues⟩
      exact ⟨calm, sound.goesOn found continues⟩
  · refine ⟨sound, stream, found, fun untyped => place ?_⟩
    have known := fits.place
    rw [untyped] at known
    exact List.mem_singleton.mp known

private theorem streamShutdown_calm (streamId : Nat) (direction : Shutdown) (errorCode : Nat)
    (conn : QuicConn) :
    ((QuicConn.streamShutdown streamId direction errorCode).run conn).1 ≠ .error .panic := by
  change (conn.streams.streamShutdown streamId direction errorCode).1 ≠ .error .panic
  unfold StreamMap.streamShutdown
  split
  · exact fun same => nomatch same
  · cases direction with
    | read =>
        dsimp only
        unfold StreamMap.shutdownRead RecvBuf.shutdown
        split_ifs <;> exact fun same => nomatch same
    | write =>
        dsimp only
        unfold StreamMap.shutdownWrite SendBuf.shutdown
        split_ifs <;> exact fun same => nomatch same

theorem processReadableUniStream_calm (sound : state.1.Sound) (uni : isBidi id = false)
    (polling : Bool) : Calm ((processReadableUniStream id polling).run state) := by
  unfold processReadableUniStream
  refine ends_bind.mpr (ends_get.mpr ?_)
  dsimp only
  split
  case h_1 => exact ⟨by decide, sound⟩
  case h_2 stream found =>
    refine ends_bind.mpr ((learnUniStreamType_ends sound uni found).mono ?_ fun _ _ failed => failed)
    rintro _ after ⟨kept, next, present, known⟩
    obtain ⟨fits, named⟩ := kept.streams id next present
    have carries : ∀ streamType, next.streamType = some streamType →
        Carries id (.typed streamType) after := by
      refine fun streamType typed => ⟨kept, fun other same => ?_⟩
      cases present.symm.trans same
      exact typed
    refine ends_bind.mpr (ends_get.mpr ?_)
    rw [present, Option.bind_some]
    change Calm _
    cases typed : next.streamType with
    | none => exact absurd typed known
    | some streamType =>
        cases streamType with
        | control => exact (control_passes (carries _ typed)).calm
        | push => exact (push_passes (carries _ typed)).calm
        | qpackEncoder =>
            exact ends_bind.mpr (ends_get.mpr (discardAll_calm kept (Nat.lt_succ_self _)))
        | qpackDecoder =>
            exact ends_bind.mpr (ends_get.mpr (discardAll_calm kept (Nat.lt_succ_self _)))
        | request =>
            have bidi := fits.bidi.mp typed
            rw [named, uni] at bidi
            cases bidi
        | unknown _ =>
            refine ends_bind.mpr (ends_call.mpr ?_)
            have calm := streamShutdown_calm id .read 0x100 after.2
            generalize (QuicConn.streamShutdown id .read 0x100).run after.2 = outcome at calm
            obtain ⟨result, conn⟩ := outcome
            cases result with
            | ok _ => exact ⟨by decide, kept⟩
            | error error =>
                exact ⟨fun panics => calm (congrArg _ (Http3Error.ofError_eq_panic panics)), kept⟩

/-! ## Polling -/

private theorem processReadableStream_calm (sound : state.1.Sound) (id : Nat) (polling : Bool) :
    Calm ((processReadableStream id polling).run state) := by
  unfold processReadableStream
  refine ends_bind.mpr (ends_attempt.mpr ((getOrCreate_ends sound id false).mono ?_ ?_))
  · intro stream after found
    obtain ⟨fits, named⟩ := found.sound.streams id stream found.found
    cases bidi : isBidi id with
    | true =>
        have typed : stream.streamType = some .request := by
          rw [fits.bidi, named]
          exact bidi
        have carries : Carries id .message after := by
          refine ⟨found.sound, fun other present => ?_⟩
          cases found.found.symm.trans present
          refine ⟨.inl typed, fun pushing => ?_⟩
          have place := fits.place
          rw [typed, pushing] at place
          exact absurd place (by decide)
        exact (request_passes carries).calm
    | false => exact processReadableUniStream_calm found.sound bidi polling
  · rintro _ _ ⟨rfl, rfl⟩
    exact closeWith_calm sound (by decide) _

theorem Sound.markReadFinished {http3 : Http3Connection} (sound : http3.Sound) {stream : Http3Stream}
    (found : http3.streams.get? id = some stream)
    (carrier : stream.streamType = some .request ∨ stream.streamType = some .push) :
    (http3.setStream id stream.markReadFinished).Sound := by
  obtain ⟨fits, named⟩ := sound.streams id stream found
  refine sound.setStream ⟨?_, ?_, fits.bidi, ?_, fits.control, ?_⟩ named
  · exact .moved (.inr (.inr rfl))
  · change Http3StreamState.readFinished ∈ Http3Stream.statesOf stream.streamType
    rcases carrier with same | same <;> rw [same] <;> decide
  · rintro (place | place) <;> exact nomatch place
  · exact fun place => nomatch place

theorem Sound.processFinishedStream {http3 : Http3Connection} (sound : http3.Sound) (id : Nat) :
    (http3.processFinishedStream id).Sound := by
  unfold Http3Connection.processFinishedStream
  split
  case h_1 => exact sound
  case h_2 stream found =>
    split_ifs
    · exact sound
    · split
      case h_1 typed => exact (sound.markReadFinished found (.inl typed)).of_streams rfl rfl
      case h_2 typed => exact (sound.markReadFinished found (.inr typed)).of_streams rfl rfl
      case h_3 => exact sound

theorem checkCriticalStreamState_calm (sound : state.1.Sound) (id : Nat) :
    Calm ((checkCriticalStreamState id).run state) := by
  refine ends_bind.mpr (ends_get.mpr ?_)
  dsimp only
  split_ifs
  · exact closeWith_calm sound (by decide) _
  · exact sound

theorem Calm.handle {steps : ConnM α} {β : Type} {next : Except Http3Error α → ConnM β}
    (first : Calm (steps.run state))
    (rest : ∀ result after, after.1.Sound → result ≠ .error .panic →
      Calm ((next result).run after)) :
    Calm ((attempt steps >>= next).run state) := by
  refine ends_bind.mpr (ends_attempt.mpr (first.mono ?_ ?_))
  · exact fun value after sound => rest (.ok value) after sound fun same => nomatch same
  · rintro error after ⟨calm, sound⟩
    exact rest (.error error) after sound fun same => calm (Except.error.inj same)

private theorem processCriticalStream_calm (sound : state.1.Sound) (uni : isBidi id = false) :
    Calm ((processCriticalStream id).run state) := by
  unfold processCriticalStream
  refine ends_bind.mpr ((checkCriticalStreamState_calm sound id).mono ?_ fun _ _ failed => failed)
  intro _ after sound
  refine ends_bind.mpr (ends_get.mpr ?_)
  dsimp only
  split_ifs
  · exact ⟨by decide, sound⟩
  · refine (processReadableUniStream_calm sound uni true).handle fun result after sound calm => ?_
    split
    case h_1 => exact sound
    case h_2 =>
      refine ends_bind.mpr ((checkCriticalStreamState_calm sound id).mono ?_ fun _ _ failed => failed)
      exact fun _ _ sound => ⟨by decide, sound⟩
    case h_3 error _ => exact ⟨fun same => calm (congrArg _ same), sound⟩

theorem firstEvent_calm {process : Nat → ConnM (Nat × Http3Event)} {ids : List Nat}
    (each : ∀ id ∈ ids, ∀ state : Http3Connection × QuicConn, state.1.Sound →
      Calm ((process id).run state))
    {state : Http3Connection × QuicConn} (sound : state.1.Sound) :
    Calm ((firstEvent process ids).run state) := by
  induction ids generalizing state with
  | nil => exact ⟨by decide, sound⟩
  | cons id rest ih =>
      refine (each id List.mem_cons_self state sound).handle fun result after sound calm => ?_
      split
      case h_1 => exact sound
      case h_2 => exact ih (fun other member => each other (List.mem_cons_of_mem _ member)) sound
      case h_3 error _ => exact ⟨fun same => calm (congrArg _ same), sound⟩

section

variable (sound : state.1.Sound)

include sound

private theorem processCriticalStreams_calm : Calm (processCriticalStreams.run state) :=
  ends_bind.mpr (ends_get.mpr (firstEvent_calm
    (fun id member _ after => processCriticalStream_calm after (sound.critical id member)) sound))

theorem noteFinished_calm (id : Nat) :
    Ends (fun _ after => after.1.Sound) (fun _ _ => False) ((noteFinished id).run state) := by
  refine ends_bind.mpr (ends_get.mpr ?_)
  dsimp only
  split_ifs
  · refine ends_update.mpr ?_
    have marked := sound.processFinishedStream id
    dsimp only
    split
    case h_1 =>
      split_ifs
      · exact marked.streamDestroy id
      · exact marked
    case h_2 => exact marked
  · exact sound

private theorem pollReadableStream_calm (id : Nat) : Calm ((pollReadableStream id).run state) := by
  refine (processReadableStream_calm sound id true).handle fun result after sound calm => ?_
  split
  case h_1 =>
    refine ends_bind.mpr ((noteFinished_calm sound id).mono ?_ fun _ _ impossible => impossible.elim)
    exact fun _ _ sound => sound
  case h_2 =>
    refine ends_bind.mpr ((noteFinished_calm sound id).mono ?_ fun _ _ impossible => impossible.elim)
    exact fun _ _ sound => ⟨by decide, sound⟩
  case h_3 => exact sound
  case h_4 error _ _ => exact ⟨fun same => calm (congrArg _ same), sound⟩

theorem popFinished_calm : Calm (popFinished.run state) := by
  refine ends_bind.mpr (ends_get.mpr ?_)
  dsimp only
  split
  case h_1 => exact ⟨by decide, sound⟩
  case h_2 => exact ends_bind.mpr (ends_update.mpr (sound.of_streams rfl rfl))

end

theorem orElse_calm {first second : ConnM (Nat × Http3Event)} (one : Calm (first.run state))
    (other : ∀ after : Http3Connection × QuicConn, after.1.Sound → Calm (second.run after)) :
    Calm ((orElse first second).run state) := by
  refine one.handle fun result after sound calm => ?_
  split
  case h_1 => exact sound
  case h_2 => exact other after sound
  case h_3 error _ => exact ⟨fun same => calm (congrArg _ same), sound⟩

theorem poll_calm (sound : state.1.Sound) (order : SetOrder) : Calm ((poll order).run state) := by
  refine ends_bind.mpr (ends_get.mpr ?_)
  dsimp only
  split_ifs
  · exact ⟨by decide, sound⟩
  · refine orElse_calm (popFinished_calm sound) fun _ sound =>
      orElse_calm (processCriticalStreams_calm sound) fun _ sound =>
        orElse_calm ?_ fun _ sound => popFinished_calm sound
    exact ends_bind.mpr (ends_get.mpr
      (firstEvent_calm (fun id _ _ sound => pollReadableStream_calm sound id) sound))

/-! ## Receiving a body -/

private theorem recvBodyLoop_calm (outLen : Nat) {turns : Nat} {total : Bytes}
    {state : Http3Connection × QuicConn} (sound : state.1.Sound) :
    Calm ((recvBodyLoop id outLen turns total).run state) := by
  induction turns generalizing total state with
  | zero => exact sound
  | succ turns ih =>
      unfold recvBodyLoop
      split_ifs
      · exact sound
      · refine ends_bind.mpr (ends_get.mpr ?_)
        dsimp only
        split
        case h_1 => exact ⟨by decide, sound⟩
        case h_2 stream found =>
          obtain ⟨fits, named⟩ := sound.streams id stream found
          split_ifs with place
          · exact sound
          · have place := not_not.mp place
            have read := @Http3Stream.readDataFromQuic_ends (stream, state.2) fits place
              (outLen - total.length)
            have message : Kind.message.holds stream := by
              have typed := fits.place
              rw [place] at typed
              refine ⟨?_, place ▸ by decide⟩
              unfold Http3Stream.statesOf at typed
              split at typed
              case h_3 same => exact .inl same
              case h_4 same => exact .inr same
              all_goals exact absurd typed (by decide)
            have carries : Carries id .message state :=
              ⟨sound, fun other present => Option.some.inj (found.symm.trans present) ▸ message⟩
            refine ends_bind.mpr (ends_attempt.mpr ((onStream_ends found).mpr (read.mono ?_ ?_)))
            · rintro ⟨bytes, fin⟩ ⟨next, conn⟩ ⟨continues, _⟩
              have later := carries.goesOn found continues conn
              dsimp only
              split_ifs
              · exact later.sound
              · refine ends_bind.mpr (ends_attempt.mpr ((request_passes later).mono ?_ ?_))
                · rintro event after ⟨_, impossible⟩
                  cases impossible
                · rintro error after ⟨calm, carried⟩
                  split
                  case h_1 impossible => cases impossible
                  case h_2 =>
                    refine ends_bind.mpr (ends_get.mpr ?_)
                    split_ifs
                    · exact carried.sound
                    · exact ih carried.sound
                  case h_3 error' _ same =>
                    cases same
                    exact ⟨calm, carried.sound⟩
            · rintro error ⟨next, conn⟩ ⟨calm, continues⟩
              have later := sound.goesOn found continues
              split
              case h_1 => exact later
              case h_2 error' _ same =>
                cases same
                exact ⟨calm, later⟩
              case h_3 impossible => cases impossible

theorem recvBody_calm (sound : state.1.Sound) (id outLen : Nat) :
    Calm ((recvBody id outLen).run state) := by
  refine ends_bind.mpr ((recvBodyLoop_calm outLen sound).mono ?_ fun _ _ failed => failed)
  intro total after sound
  refine ends_bind.mpr (ends_get.mpr (ends_bind.mpr (ends_update.mpr ?_)))
  have kept : (if after.2.streamFinished id = true then after.1.processFinishedStream id
      else after.1).Sound := by
    split_ifs
    · exact sound.processFinishedStream id
    · exact sound
  by_cases empty : total.isEmpty = true
  · rw [if_pos empty]
    exact ⟨by decide, kept⟩
  · rw [if_neg empty]
    exact kept

end Http3Connection

end Tquic.H3
