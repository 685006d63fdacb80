import Tquic.H3.EndReports

/-! Where the events come from that tell of the end of a stream: a call that reads has asked the
transport for it, and the stream was read to its end. -/

set_option autoImplicit false

namespace Tquic.H3

open Lib Connection Stateful

namespace QuicConn

variable {conn : QuicConn} {id : Nat}

/-- The final size of the stream is known and everything before it was read, unless the transport does
not know the stream. -/
def ReadOut (conn : QuicConn) (id : Nat) : Prop :=
  ∀ stream, conn.streams.get id = some stream → stream.recv.finOff = some stream.recv.readOff

theorem streamFinished_iff : conn.streamFinished id = true ↔ conn.ReadOut id := by
  unfold streamFinished ReadOut
  cases conn.streams.get id with
  | none => exact iff_of_true rfl fun _ absent => nomatch absent
  | some stream =>
      refine decide_eq_true_iff.trans ⟨fun finished _ found => ?_, fun finished => finished _ rfl⟩
      cases found
      exact finished

end QuicConn

namespace Http3Connection

/-- The streams whose end the loop over the readable ones asks for, with the transport it asks. -/
def visitsAsk : List Nat → Http3Connection × QuicConn → List (Nat × QuicConn)
  | [], _ => []
  | id :: rest, state =>
      match (processReadableStream id true).run state with
      | (.ok _, after) => [(id, after.2)]
      | (.error .done, after) => (id, after.2) :: visitsAsk rest ((noteFinished id).run after).2
      | (.error _, _) => []

/-- The streams whose end a call asks for, each with the transport as it is when it is asked. -/
def asked (state : Http3Connection × QuicConn) : Http3Op → List (Nat × QuicConn)
  | .poll order =>
      if state.2.localError.isSome || !state.1.finishedStreams.isEmpty then []
      else
        match processCriticalStreams.run state with
        | (.error .done, after) => visitsAsk (order.iter after.2.streams.readable) after
        | _ => []
  | .recvBody id outLen =>
      match (recvBodyLoop id outLen outLen []).run state with
      | (.ok _, after) => [(id, after.2)]
      | _ => []
  | _ => []

/-- The stream was noted before, or it was read to its end when the call asked. -/
def Seen (asked : List (Nat × QuicConn)) (queue : List Nat) (id : Nat) : Prop :=
  id ∈ queue ∨ ∃ conn, (id, conn) ∈ asked ∧ conn.ReadOut id

/-- Only streams whose end was seen are noted. -/
def Backed (asked : List (Nat × QuicConn)) (queue : List Nat)
    (state : Http3Connection × QuicConn) : Prop :=
  ∀ id ∈ state.1.finishedStreams, Seen asked queue id

/-- The end of a stream is told only if it was seen. -/
def Tells (asked : List (Nat × QuicConn)) (queue : List Nat) :
    Except Http3Error (Nat × Http3Event) × Http3Connection × QuicConn → Prop :=
  Ends (fun event after => (event.2 = .finished → Seen asked queue event.1) ∧ Backed asked queue after)
    (fun _ => Backed asked queue)

variable {moments : List (Nat × QuicConn)} {queue : List Nat}
  {state after : Http3Connection × QuicConn} {id : Nat}

theorem Seen.ask {all : List (Nat × QuicConn)} {noted : List Nat} (seen : Seen moments noted id)
    (more : moments ⊆ all) (before : ∀ other ∈ noted, Seen all queue other) : Seen all queue id := by
  rcases seen with earlier | ⟨conn, listed, readOut⟩
  · exact before id earlier
  · exact .inr ⟨conn, more listed, readOut⟩

theorem noteFinished_ends (same : state.1.finishedStreams = queue) (now : (id, state.2) ∈ moments) :
    Ends (fun _ => Backed moments queue) (fun _ _ => False) ((noteFinished id).run state) := by
  have unchanged : Backed moments queue state := fun _ member => .inl (same ▸ member)
  refine ends_bind.mpr (ends_get.mpr ?_)
  dsimp only
  split_ifs with finished
  · have noted : Backed moments queue (state.1.processFinishedStream id, state.2) := by
      rcases processFinishedStream_cases state.1 id with same | ⟨_, stream, same⟩
      · rw [same]
        exact unchanged
      · rw [same]
        intro other member
        rcases List.mem_append.mp member with earlier | last
        · exact unchanged other earlier
        · cases List.mem_singleton.mp last
          exact .inr ⟨state.2, now, QuicConn.streamFinished_iff.mp finished⟩
    refine ends_update.mpr ?_
    split
    · split_ifs
      · exact noted
      · exact noted
    · exact noted
  · exact unchanged

theorem noteFinished_backed (same : state.1.finishedStreams = queue)
    (now : (id, state.2) ∈ moments) : Backed moments queue ((noteFinished id).run state).2 :=
  ((noteFinished_ends same now).mono (fun _ _ backed => backed) fun _ _ no => no.elim).invariant

theorem noteFinished_run (id : Nat) (state : Http3Connection × QuicConn) :
    (noteFinished id).run state = (.ok (), ((noteFinished id).run state).2) := by
  obtain ⟨_, noted⟩ := (@noteFinished_ends _ _ state id rfl (List.mem_singleton_self _)).succeeds
  exact Prod.ext noted rfl

theorem attempt_run {α : Type} {steps : ConnM α} {result : Except Http3Error α}
    (ran : steps.run state = (result, after)) : (attempt steps).run state = (.ok result, after) :=
  congrArg (fun outcome => (Except.ok outcome.1, outcome.2)) ran

private theorem pollReadableStream_event {event : Nat × Http3Event}
    (told : (processReadableStream id true).run state = (.ok event, after)) :
    (pollReadableStream id).run state = (.ok event, ((noteFinished id).run after).2) := by
  unfold pollReadableStream
  rw [bind_run (attempt_run told)]
  exact bind_run (noteFinished_run id after)

/-- A stream without an event is noted before the loop goes on. -/
theorem pollReadableStream_done
    (idle : (processReadableStream id true).run state = (.error .done, after)) :
    (pollReadableStream id).run state = (.error .done, ((noteFinished id).run after).2) := by
  unfold pollReadableStream
  rw [bind_run (attempt_run idle)]
  exact bind_run (noteFinished_run id after)

/-- After other errors the loop ends without asking. -/
theorem visits_fail {error : Http3Error} {rest : List Nat} (severe : error ≠ .done)
    (failed : (processReadableStream id true).run state = (.error error, after)) :
    Ends (fun event next => event.2 ≠ .finished ∧ next = after) (fun _ next => next = after)
      ((firstEvent pollReadableStream (id :: rest)).run state) := by
  have ends : Ends (fun event next => event.2 ≠ .finished ∧ next = after)
      (fun error next => error ≠ .done ∧ next = after) ((pollReadableStream id).run state) := by
    unfold pollReadableStream
    rw [bind_run (attempt_run failed)]
    split
    case h_1 same => cases same
    case h_2 same => exact absurd (Except.error.inj same) severe
    case h_3 => exact ⟨nofun, rfl⟩
    case h_4 same => exact ⟨fun done => severe ((Except.error.inj same).trans done), rfl⟩
  refine ends_bind.mpr (ends_attempt.mpr (ends.mono (fun _ _ told => told) ?_))
  rintro error _ ⟨severe, rfl⟩
  split
  case h_1 same => cases same
  case h_2 same => exact absurd (Except.error.inj same) severe
  case h_3 => exact rfl

private theorem visits_tell (ids : List Nat) (state : Http3Connection × QuicConn) :
    Ends (fun event after => event.2 ≠ .finished ∧
        Backed (visitsAsk ids state) state.1.finishedStreams after)
      (fun _ => Backed (visitsAsk ids state) state.1.finishedStreams)
      ((firstEvent pollReadableStream ids).run state) := by
  induction ids generalizing state with
  | nil => exact fun _ member => .inl member
  | cons id rest ih =>
      have calmly := processReadableStream_calmly (steady_of_none state) id true
      cases outcome : (processReadableStream id true).run state with
      | mk result after =>
          rw [outcome] at calmly
          cases result with
          | ok event =>
              obtain ⟨plain, steady⟩ := calmly
              refine ends_bind.mpr (ends_attempt.mpr ?_)
              rw [pollReadableStream_event outcome, visitsAsk, outcome]
              exact ⟨plain.1, noteFinished_backed steady.queue (List.mem_singleton_self _)⟩
          | error error =>
              have steady : Steady state.1.finishedStreams (fun _ => False) after := calmly
              by_cases done : error = .done
              case neg =>
                have kept {asked : List (Nat × QuicConn)} :
                    Backed asked state.1.finishedStreams after :=
                  fun _ member => .inl (steady.queue ▸ member)
                exact (visits_fail done outcome).mono (fun _ _ told => ⟨told.1, told.2 ▸ kept⟩)
                  fun _ _ same => same ▸ kept
              case pos =>
                subst done
                refine ends_bind.mpr (ends_attempt.mpr ?_)
                rw [pollReadableStream_done outcome, visitsAsk, outcome]
                have before : Backed ((id, after.2) :: visitsAsk rest ((noteFinished id).run after).2)
                    state.1.finishedStreams ((noteFinished id).run after).2 :=
                  noteFinished_backed steady.queue List.mem_cons_self
                have later {next : Http3Connection × QuicConn}
                    (backed : Backed (visitsAsk rest ((noteFinished id).run after).2)
                      ((noteFinished id).run after).2.1.finishedStreams next) :
                    Backed ((id, after.2) :: visitsAsk rest ((noteFinished id).run after).2)
                      state.1.finishedStreams next := fun other member =>
                  (backed other member).ask (List.subset_cons_self _ _) before
                exact (ih ((noteFinished id).run after).2).mono
                  (fun _ _ told => ⟨told.1, later told.2⟩) fun _ _ => later

theorem popFinished_tells (backed : Backed moments queue state) :
    Tells moments queue (popFinished.run state) := by
  refine (popFinished_ends _ rfl).mono ?_ ?_
  · rintro _ after ⟨id, rfl, whole, _⟩
    exact ⟨fun _ => backed id (whole ▸ List.mem_cons_self),
      fun other member => backed other (whole ▸ List.mem_cons_of_mem id member)⟩
  · rintro _ _ ⟨-, -, rfl⟩
    exact backed

private theorem poll_tells (order : SetOrder) :
    Tells (asked state (.poll order)) state.1.finishedStreams ((poll order).run state) := by
  have unchanged : ∀ {asked after}, after.1.finishedStreams = state.1.finishedStreams →
      Backed asked state.1.finishedStreams after := fun same _ member => .inl (same ▸ member)
  refine ends_bind.mpr (ends_get.mpr ?_)
  dsimp only
  split_ifs with failed
  · exact unchanged rfl
  refine orElse_ends ((popFinished_tells (unchanged rfl)).and (popFinished_ends _ rfl) |>.mono
    (fun _ _ both => both.1) ?_)
  rintro _ before ⟨backed, _, empty, rfl⟩
  refine ⟨backed, fun _ => ?_⟩
  have critical := processCriticalStreams_calmly (steady_of_none before)
  refine orElse_ends ?_
  cases outcome : processCriticalStreams.run before with
  | mk result after =>
      rw [outcome] at critical
      cases result with
      | ok event => exact ⟨fun finished => absurd finished critical.1.1, unchanged critical.2.queue⟩
      | error error =>
          have steady : Steady before.1.finishedStreams (fun _ => False) after := critical
          refine ⟨unchanged steady.queue, fun done => ?_⟩
          subst done
          have going : ¬ (before.2.localError.isSome || !before.1.finishedStreams.isEmpty) = true := by
            simp [failed, empty]
          have moments : asked before (.poll order) =
              visitsAsk (order.iter after.2.streams.readable) after := by
            unfold asked
            dsimp only
            rw [if_neg going, outcome]
          have visits := visits_tell (order.iter after.2.streams.readable) after
          rw [steady.queue, ← moments] at visits
          refine orElse_ends (ends_bind.mpr (ends_get.mpr (visits.mono ?_ ?_)))
          · exact fun event _ ⟨plain, backed⟩ => ⟨fun finished => absurd finished plain, backed⟩
          · exact fun _ _ backed => ⟨backed, fun _ => popFinished_tells backed⟩

private theorem recvBody_backed (id outLen : Nat) :
    Backed (asked state (.recvBody id outLen)) state.1.finishedStreams
      ((recvBody id outLen).run state).2 := by
  have steady := @recvBodyLoop_steady _ _ _ id (steady_of_none state) outLen outLen []
  refine recvBody_keeps ?_
  unfold asked
  dsimp only
  cases outcome : (recvBodyLoop id outLen outLen []).run state with
  | mk result after =>
      rw [outcome] at steady
      cases result with
      | error error => exact fun _ member => .inl (Steady.queue steady ▸ member)
      | ok total =>
          have kept : Backed [(id, after.2)] state.1.finishedStreams after :=
            fun _ member => .inl (Steady.queue steady ▸ member)
          refine ⟨kept, fun finished => ?_⟩
          rcases processFinishedStream_cases after.1 id with same | ⟨_, stream, same⟩
          · rw [same]
            exact kept
          · rw [same]
            intro other member
            rcases List.mem_append.mp member with earlier | now
            · exact kept other earlier
            · cases List.mem_singleton.mp now
              exact .inr ⟨after.2, List.mem_singleton_self _, QuicConn.streamFinished_iff.mp finished⟩

end Http3Connection

/-! ## Runs -/

namespace Poller

open Http3Connection

/-- A call of the run has asked for the end of the stream, and the stream was read out. -/
def SawEnd (start finish : Poller) (id : Nat) : Prop :=
  ∃ before op, Run step anyStep start before ∧ Run step anyStep (before.perform op) finish ∧
    ∃ conn, (id, conn) ∈ Http3Connection.asked before.state op ∧ conn.ReadOut id

structure Honest (start poller : Poller) : Prop where
  run : Run step anyStep start poller
  reported : ∀ id, (id, .finished) ∈ poller.reported → SawEnd start poller id
  noted : ∀ id ∈ poller.state.1.finishedStreams, SawEnd start poller id

variable {start poller : Poller} {id : Nat}

theorem SawEnd.later (saw : SawEnd start poller id) (op : Http3Op) :
    SawEnd start (poller.perform op) id := by
  obtain ⟨before, asks, run, rest, seen⟩ := saw
  exact ⟨before, asks, run, rest.tail trivial rfl, seen⟩

section

variable (honest : Honest start poller)

include honest

theorem SawEnd.of_seen {op : Http3Op}
    (seen : Seen (Http3Connection.asked poller.state op) poller.state.1.finishedStreams id) :
    SawEnd start (poller.perform op) id := by
  rcases seen with earlier | now
  · exact (honest.noted id earlier).later op
  · exact ⟨poller, op, honest.run, .refl, now⟩

/-- A poll tells of ends that it or an earlier call has seen. -/
theorem Honest.poll (order : SetOrder) : Honest start (poller.perform (.poll order)) := by
  have later := honest.run.tail trivial (rfl : step poller (.poll order) = _)
  have tells := @poll_tells poller.state order
  have before : ∀ id, (id, .finished) ∈ poller.reported →
      SawEnd start (poller.perform (.poll order)) id :=
    fun id told => (honest.reported id told).later _
  cases outcome : (Http3Connection.poll order).run poller.state with
  | mk result after =>
      rw [outcome] at tells
      cases result with
      | error error =>
          have noted : ∀ id ∈ after.1.finishedStreams, SawEnd start (poller.perform (.poll order)) id :=
            fun id member => .of_seen honest (tells id member)
          rw [perform_error outcome] at later before noted ⊢
          exact ⟨later, before, noted⟩
      | ok event =>
          obtain ⟨finished, backed⟩ := tells
          have noted : ∀ id ∈ after.1.finishedStreams, SawEnd start (poller.perform (.poll order)) id :=
            fun id member => .of_seen honest (backed id member)
          have now : event.2 = .finished → SawEnd start (poller.perform (.poll order)) event.1 :=
            fun same => .of_seen honest (finished same)
          rw [perform_event outcome] at later before noted now ⊢
          refine ⟨later, fun id told => ?_, noted⟩
          rcases List.mem_append.mp told with earlier | last
          · exact before id earlier
          · cases List.mem_singleton.mp last
            exact now rfl

theorem Honest.recvBody (id outLen : Nat) : Honest start (poller.perform (.recvBody id outLen)) :=
  ⟨honest.run.tail trivial rfl, fun other told => (honest.reported other told).later _,
    fun other member => .of_seen honest (recvBody_backed id outLen other member)⟩

theorem Honest.perform (op : Http3Op) : Honest start (poller.perform op) := by
  cases op with
  | poll order => exact honest.poll order
  | recvBody id outLen => exact honest.recvBody id outLen
  | _ =>
      refine ⟨honest.run.tail trivial rfl, fun id told => (honest.reported id told).later _, ?_⟩
      intro id (member : id ∈ (Http3Connection.perform poller.state _).1.finishedStreams)
      rw [perform_queue] at member
      · exact (honest.noted id member).later _
      · exact fun _ same => nomatch same
      · exact fun _ _ same => nomatch same

end

def frameTypes : Nat → Bytes → Option (List Nat)
  | _, [] => some []
  | 0, _ :: _ => none
  | frames + 1, bytes =>
      match Decoder.readVarint.run bytes with
      | .error _ => none
      | .ok (frameType, bytes) =>
          match Decoder.readVarint.run bytes with
          | .error _ => none
          | .ok (payloadLen, bytes) =>
              if bytes.length < payloadLen then none
              else (frameTypes frames (bytes.drop payloadLen)).map (frameType :: ·)

def isMessage (sent : Bytes) : Bool :=
  (frameTypes sent.length sent).any (headersFrameType ∈ ·)

example : isMessage (noFields ++ [0, 2, 7, 7]) = true := by decide

/-- A stream of these bytes and FIN is reported as finished though they are no message. -/
def FinishesEarly (sent : Bytes) : Prop :=
  isMessage sent = false ∧ ∃ finish, Run step anyStep (sampleServer sent true) finish ∧
    (0, .finished) ∈ finish.reported

theorem finishesEarly {sent : Bytes} (cut : isMessage sent = false)
    (told : (0, .finished) ∈ ([.poll ascending, .poll ascending, .recvBody 0 10, .poll ascending].foldl
      Poller.perform (sampleServer sent true)).reported) : FinishesEarly sent :=
  ⟨cut, _, .of_exec (exec_step _ _), told⟩

def prioritized (poller : Poller) : Http3Op :=
  .transport
    { poller.state.2 with
      streams := (poller.state.2.streams.onStreamFrameReceived 2 0 9 false
        [0, 4, 0, 0x80, 0x0f, 7, 0, 1, 4]).2 }

end Poller

end Tquic.H3
