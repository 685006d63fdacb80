import Tquic.H3.EndMarks

/-! How often the end of a stream is reported, over all calls of a connection. -/

set_option autoImplicit false

namespace Tquic.H3

open Lib Connection Stateful

/-- A connection with the events that its polls returned, the newest last. -/
structure Poller where
  state : Http3Connection × QuicConn
  reported : List (Nat × Http3Event)

namespace Poller

open Http3Connection

def perform (poller : Poller) (op : Http3Op) : Poller where
  state := Http3Connection.perform poller.state op
  reported :=
    match op with
    | .poll order =>
        match ((poll order).run poller.state).1 with
        | .ok event => poller.reported ++ [event]
        | .error _ => poller.reported
    | _ => poller.reported

def step (poller : Poller) (op : Http3Op) : Option Poller := some (poller.perform op)

variable {poller : Poller} {event : Nat × Http3Event} {order : SetOrder}
  {after : Http3Connection × QuicConn}

theorem perform_event (told : (poll order).run poller.state = (.ok event, after)) :
    poller.perform (.poll order) = { state := after, reported := poller.reported ++ [event] } := by
  unfold perform Http3Connection.perform
  dsimp only
  rw [told]

theorem perform_error {error : Http3Error}
    (failed : (poll order).run poller.state = (.error error, after)) :
    poller.perform (.poll order) = { poller with state := after } := by
  unfold perform Http3Connection.perform
  dsimp only
  rw [failed]

/-- The end of a request stream is reported, or noted so that it will be. -/
structure Ended (reported : List (Nat × Http3Event)) (queue : List Nat) (id : Nat) : Prop where
  request : id % 4 = 0
  known : (id, .finished) ∈ reported ∨ (∃ errorCode, (id, .reset errorCode) ∈ reported) ∨ id ∈ queue

/-- A call looks at no stream whose end is known, apart from those that are still marked as read
whole. The set of readable streams is visited without repetition. -/
def MarksEnds (poller : Poller) : Http3Op → Prop
  | .poll order => (∀ ids, (order.iter ids).Nodup) ∧
      (poller.state.2.localError = none → poller.state.1.finishedStreams = [] →
        ∀ id ∈ poller.state.2.streams.readable,
          Ended poller.reported poller.state.1.finishedStreams id → poller.state.1.Settled id)
  | .recvBody id _ =>
      Ended poller.reported poller.state.1.finishedStreams id → ¬ poller.state.1.Open id
  | _ => True

/-- What was reported and what will be, of every request stream. -/
structure Single (reported : List (Nat × Http3Event)) (queue : List Nat) : Prop where
  once : ∀ id, id % 4 = 0 → reported.count (id, .finished) + queue.count id ≤ 1
  apart : ∀ id errorCode, id % 4 = 0 → (id, .reset errorCode) ∈ reported →
    (id, .finished) ∉ reported ∧ id ∉ queue

variable {reported : List (Nat × Http3Event)} {queue all : List Nat}

/-- A stream that has not ended before may be noted. -/
theorem Single.note (single : Single reported queue) {id : Nat}
    (fresh : ¬ Ended reported queue id) : Single reported (queue ++ [id]) := by
  refine ⟨fun other request => ?_, fun other errorCode request reset => ?_⟩
  · rw [List.count_append]
    by_cases same : id = other
    · subst same
      have unreported : reported.count (id, .finished) = 0 :=
        List.count_eq_zero.mpr fun member => fresh ⟨request, .inl member⟩
      have unqueued : queue.count id = 0 :=
        List.count_eq_zero.mpr fun member => fresh ⟨request, .inr (.inr member)⟩
      rw [unreported, unqueued, List.count_singleton_self]
    · rw [List.count_singleton, beq_false_of_ne same]
      exact single.once other request
  · obtain ⟨unreported, unqueued⟩ := single.apart other errorCode request reset
    refine ⟨unreported, fun member => ?_⟩
    rcases List.mem_append.mp member with earlier | now
    · exact unqueued earlier
    · cases List.mem_singleton.mp now
      exact fresh ⟨request, .inr (.inl ⟨errorCode, reset⟩)⟩

theorem Single.grown (single : Single reported queue)
    (grown : Grown (Ended reported queue) queue all) : Single reported all := by
  rcases grown.cases with rfl | ⟨rfl, distinct, fresh⟩
  · exact single
  refine ⟨fun id request => ?_, fun id errorCode request reset => ?_⟩
  · by_cases member : id ∈ all
    · have unreported : reported.count (id, .finished) = 0 :=
        List.count_eq_zero.mpr fun before => fresh id member ⟨request, .inl before⟩
      rw [unreported, Nat.zero_add]
      exact List.nodup_iff_count_le_one.mp distinct id
    · rw [List.count_eq_zero.mpr member]
      exact single.once id request
  · exact ⟨(single.apart id errorCode request reset).1, fun member =>
      fresh id member ⟨request, .inr (.inl ⟨errorCode, reset⟩)⟩⟩

theorem count_report (event : Nat × Http3Event) (id : Nat) :
    (reported ++ [event]).count (id, .finished) =
      reported.count (id, .finished) + if event = (id, .finished) then 1 else 0 := by
  rw [List.count_append, List.count_singleton]
  simp only [beq_iff_eq]

theorem mem_report {old new : Nat × Http3Event} (differs : new ≠ old) :
    old ∈ reported ++ [new] ↔ old ∈ reported := by
  rw [List.mem_append, List.mem_singleton]
  exact or_iff_left (Ne.symm differs)

theorem Single.aside (single : Single reported all)
    (finished : ∀ id, event ≠ (id, .finished)) (reset : ∀ id errorCode, event ≠ (id, .reset errorCode)) :
    Single (reported ++ [event]) all := by
  refine ⟨fun id request => ?_, fun id errorCode request => ?_⟩
  · rw [count_report, if_neg (finished id)]
    exact single.once id request
  · rw [mem_report (reset id errorCode), mem_report (finished id)]
    exact single.apart id errorCode request

/-- The end that is told leaves the queue. -/
theorem Single.finish {id : Nat} {rest : List Nat} (single : Single reported (id :: rest)) :
    Single (reported ++ [(id, .finished)]) rest := by
  refine ⟨fun other request => ?_, fun other errorCode request => ?_⟩
  · have before := single.once other request
    rw [count_report]
    by_cases same : id = other
    · subst same
      rw [List.count_cons_self] at before
      rw [if_pos rfl]
      omega
    · rw [List.count_cons_of_ne same] at before
      rw [if_neg (fun equal => same (Prod.mk.inj equal).1)]
      exact before
  · have finished : (id, Http3Event.finished) ≠ (other, .reset errorCode) :=
      fun equal => nomatch (Prod.mk.inj equal).2
    rw [mem_report finished]
    intro reset
    obtain ⟨unreported, unqueued⟩ := single.apart other errorCode request reset
    have distinct : id ≠ other := fun same => unqueued (same ▸ List.mem_cons_self)
    rw [mem_report fun equal => distinct (Prod.mk.inj equal).1]
    exact ⟨unreported, fun member => unqueued (List.mem_cons_of_mem _ member)⟩

theorem Single.reset {id errorCode : Nat} (single : Single reported all)
    (unreported : id % 4 = 0 → (id, .finished) ∉ reported) (unqueued : id ∉ all) :
    Single (reported ++ [(id, .reset errorCode)]) all := by
  have finished : ∀ other, (id, Http3Event.reset errorCode) ≠ (other, .finished) :=
    fun _ equal => nomatch (Prod.mk.inj equal).2
  refine ⟨fun other request => ?_, fun other otherCode request member => ?_⟩
  · rw [count_report, if_neg (finished other)]
    exact single.once other request
  · rw [mem_report (finished other)]
    rcases List.mem_append.mp member with earlier | now
    · exact single.apart other otherCode request earlier
    · cases List.mem_singleton.mp now
      exact ⟨unreported request, unqueued⟩

theorem Single.report {before : List Nat}
    (single : Single reported all) (told : PollEvent (Ended reported before) all event after) :
    Single (reported ++ [event]) after.1.finishedStreams := by
  rcases told.cases with ⟨id, rfl, whole⟩ | ⟨same, told⟩
  · rw [whole] at single
    exact single.finish
  rw [same]
  rcases told with plain | ⟨id, errorCode, rfl, fresh, unqueued⟩
  · exact single.aside (fun _ equal => plain.1 (equal ▸ rfl))
      fun _ errorCode equal => plain.2 errorCode (equal ▸ rfl)
  · exact single.reset (fun request member => fresh ⟨request, .inl member⟩) unqueued

/-! ## The queue -/

theorem unaffected_queue (queue : List Nat) :
    Unaffected fun state => state.1.finishedStreams = queue where
  transport _ _ same := same
  inserted _ _ _ _ _ _ same := same
  created _ _ same := same
  destroyed _ _ same := same
  aside _ _ _ _ queued same := queued.trans same

/-- Calls other than `poll` and `recv_body` leave the queue alone. -/
theorem perform_queue (state : Http3Connection × QuicConn) (op : Http3Op)
    (sends : ∀ order, op ≠ .poll order) (writes : ∀ id outLen, op ≠ .recvBody id outLen) :
    (Http3Connection.perform state op).1.finishedStreams = state.1.finishedStreams := by
  have keeps := unaffected_queue state.1.finishedStreams
  cases op with
  | transport conn => rfl
  | poll order => exact absurd rfl (sends order)
  | recvBody id outLen => exact absurd rfl (writes id outLen)
  | streamNew priority => exact keeps.streamNewWithPriority priority state rfl
  | streamClose id => exact keeps.streamClose id state rfl
  | streamSetPriority id priority => exact keeps.streamSetPriority id priority state rfl
  | sendHeaders id headers fin => exact keeps.sendHeaders id headers fin state rfl
  | sendBody id body fin => exact keeps.sendBody id body fin state rfl
  | sendPriorityUpdate id priority => exact keeps.sendPriorityUpdate id priority state rfl
  | takePriorityUpdate id => exact keeps.takePriorityUpdate id state rfl
  | sendGoaway id => exact keeps.sendGoaway id state rfl

def Sound (poller : Poller) : Prop := Single poller.reported poller.state.1.finishedStreams

theorem Sound.poll (sound : poller.Sound)
    (allowed : poller.MarksEnds (.poll order)) : (poller.perform (.poll order)).Sound := by
  have polled := poll_polled order allowed.1
    (fun id ended => isBidi_of_request ended.request) allowed.2
  cases outcome : (Http3Connection.poll order).run poller.state with
  | mk result after =>
      rw [outcome] at polled
      cases result with
      | ok event =>
          rw [perform_event outcome]
          obtain ⟨all, grown, told⟩ := polled
          exact (Single.grown sound grown).report told
      | error error =>
          rw [perform_error outcome]
          exact Single.grown sound polled

theorem Sound.recvBody (sound : poller.Sound) {id outLen : Nat}
    (allowed : poller.MarksEnds (.recvBody id outLen)) :
    (poller.perform (.recvBody id outLen)).Sound := by
  change Single poller.reported
    ((Http3Connection.recvBody id outLen).run poller.state).2.1.finishedStreams
  rcases recvBody_noted id outLen with same | ⟨same, opened⟩
  · rw [same]
    exact sound
  · rw [same]
    exact Single.note sound fun ended => allowed ended opened

theorem Sound.perform (sound : poller.Sound) {op : Http3Op}
    (allowed : poller.MarksEnds op) : (poller.perform op).Sound := by
  cases op with
  | poll order => exact sound.poll allowed
  | recvBody id outLen => exact sound.recvBody allowed
  | _ =>
      change Single poller.reported (Http3Connection.perform poller.state _).1.finishedStreams
      rw [perform_queue]
      · exact sound
      · exact fun _ same => nomatch same
      · exact fun _ _ same => nomatch same

theorem opened_queue {state : Http3Connection × QuicConn} (opened : Opened state) :
    state.1.finishedStreams = [] := by
  obtain ⟨conn, usable, fieldSection, table, blocked, rfl⟩ := opened
  exact (unaffected_queue []).newWithQuicConn rfl

/-- The calls of a new connection, up to now. -/
theorem stream_end_reported_once {start finish : Poller} (opened : Opened start.state)
    (unreported : start.reported = []) (run : Run step MarksEnds start finish) {id : Nat}
    (request : id % 4 = 0) :
    finish.reported.count (id, .finished) ≤ 1 ∧
      ¬ ((id, .finished) ∈ finish.reported ∧ ∃ errorCode, (id, .reset errorCode) ∈ finish.reported) := by
  have fresh : start.Sound := by
    unfold Sound
    rw [unreported, opened_queue opened]
    exact ⟨fun _ _ => Nat.zero_le 1, fun _ _ _ reset => absurd reset List.not_mem_nil⟩
  have sound : finish.Sound := by
    refine run.invariant ?_ fresh
    rintro poller op next sound allowed stepped
    cases stepped
    exact sound.perform allowed
  refine ⟨(Nat.le_add_right _ _).trans (sound.once id request), ?_⟩
  rintro ⟨finished, errorCode, reset⟩
  exact (sound.apart id errorCode request reset).1 finished

/-! ## Samples -/

theorem exec_step (poller : Poller) (ops : List Http3Op) :
    exec step poller ops = some (ops.foldl perform poller) := by
  induction ops generalizing poller with
  | nil => rfl
  | cons op rest ih => exact ih (poller.perform op)

/-- HEADERS without any field. -/
def noFields : Bytes := [1, 2, 0, 0]

def sampleServer (sent : Bytes) (fin : Bool) : Poller :=
  let limits : StreamTransportParams :=
    { initialMaxData := 1000, initialMaxStreamDataBidiLocal := 1000,
      initialMaxStreamDataBidiRemote := 1000, initialMaxStreamDataUni := 1000,
      initialMaxStreamsBidi := 9, initialMaxStreamsUni := 9 }
  let streams := (StreamMap.new true 1000 1000 limits none).updatePeerStreamTransportParams limits
  let conn : QuicConn :=
    { streams := (streams.onStreamFrameReceived 0 0 sent.length fin sent).2
      localError := none
      isClosed := false
      isDraining := false
      accepted := [] }
  { state := (newWithQuicConn conn true none none none).2, reported := [] }

theorem sampleServer_opened (sent : Bytes) (fin : Bool) : Opened (sampleServer sent fin).state :=
  ⟨_, true, none, none, none, rfl⟩

theorem stream_end_reported_once_sample :
    ∃ finish, Run step MarksEnds (sampleServer noFields true) finish ∧
      (0, .finished) ∈ finish.reported ∧ finish.reported.count (0, .finished) ≤ 1 := by
  have ordered : ∀ ids, (ascending.iter ids).Nodup := fun ids => List.nodup_range.filter _
  let noted := (sampleServer noFields true).perform (.poll ascending)
  have first : (sampleServer noFields true).MarksEnds (.poll ascending) := by
    refine ⟨ordered, fun _ _ id _ ended => ?_⟩
    have queue := opened_queue (sampleServer_opened noFields true)
    rcases ended.known with finished | ⟨errorCode, reset⟩ | noted
    · exact absurd finished List.not_mem_nil
    · exact absurd reset List.not_mem_nil
    · exact absurd (queue ▸ noted) List.not_mem_nil
  have second : noted.MarksEnds (.poll ascending) := by
    refine ⟨ordered, fun _ _ id readable => ?_⟩
    have none : noted.state.2.streams.readable = ∅ := by decide +kernel
    exact absurd (none ▸ readable) (Finset.notMem_empty id)
  have run : Run step MarksEnds (sampleServer noFields true) (noted.perform (.poll ascending)) :=
    .tail (.tail .refl first rfl) second rfl
  refine ⟨_, run, by decide +kernel, ?_⟩
  exact (stream_end_reported_once (sampleServer_opened _ true) rfl run rfl).1

/-- The last empty frame of a request arrives when all before it was read. -/
def emptyEnd (poller : Poller) : Http3Op :=
  .transport
    { poller.state.2 with
      streams := (poller.state.2.streams.onStreamFrameReceived 0 4 0 true []).2 }

def streamReset (poller : Poller) : Http3Op :=
  .transport
    { poller.state.2 with
      streams := (poller.state.2.streams.onResetStreamFrameReceived 0 7 4).2 }

/-- An end that `recv_body` notes is noted again after the response has forgotten the stream, and it
is noted after a reset. -/
theorem stream_end_reported_again :
    ∃ start twice both, Opened start.state ∧ start.reported = [] ∧
      Run step anyStep start twice ∧ twice.reported.count (0, .finished) = 2 ∧
      Run step anyStep start both ∧ (0, .reset 7) ∈ both.reported ∧
      (0, .finished) ∈ both.reported := by
  let begun := (sampleServer noFields false).perform (.poll ascending)
  -- The status 200.
  let response : List Qpack.Header := [⟨[58, 115, 116, 97, 116, 117, 115], [50, 48, 48]⟩]
  refine ⟨sampleServer noFields false, _, _, sampleServer_opened _ false, rfl,
    .of_exec (exec_step _ [.poll ascending, emptyEnd begun, .recvBody 0 10,
      .sendHeaders 0 response true, .poll ascending, .poll ascending]), ?_,
    .of_exec (exec_step _ [.poll ascending, streamReset begun, .poll ascending, .recvBody 0 10,
      .poll ascending]), ?_, ?_⟩
  · decide +kernel
  · decide +kernel
  · decide +kernel

end Poller

end Tquic.H3
