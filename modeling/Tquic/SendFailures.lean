import Tquic.Connection.PacketSampling
import Tquic.Connection.SendPath
import Tquic.EndpointLoops

/-! A connection whose `send` fails. The loop over the sendable connections is left at once,
before the timers are updated, and the connection keeps its place in the queue. -/

set_option autoImplicit false

namespace Tquic.Endpoint

open Lib

variable {σ : Type} {behaviour : Behaviour σ} {endpoint : Endpoint σ} {idx : Nat}

/-! ## What the send loop leaves alone -/

/-- The send loop changes connections and the sendable queue only. -/
structure OnlySends (before after : Endpoint σ) : Prop where
  tickable : after.tickable = before.tickable
  timers : after.timers = before.timers

theorem OnlySends.trans {first second third : Endpoint σ} (left : OnlySends first second)
    (right : OnlySends second third) : OnlySends first third :=
  ⟨right.tickable.trans left.tickable, right.timers.trans left.timers⟩

theorem markSendable_onlySends (endpoint : Endpoint σ) (idx : Nat) (sendable : Bool) :
    OnlySends endpoint (endpoint.markSendable idx sendable) := by
  unfold markSendable
  split
  · exact ⟨rfl, rfl⟩
  · split <;> exact ⟨rfl, rfl⟩

theorem sendBatch_onlySends (sending : Sending σ) (handed : Except Error Nat) :
    OnlySends sending.endpoint (sendBatch sending handed).2.endpoint := by
  obtain ⟨packets, same⟩ := sendBatch_same sending handed
  rw [same]
  exact ⟨rfl, rfl⟩

theorem sendIteration_onlySends (sending : Sending σ) (idx : Nat) (handed : Except Error Nat) :
    OnlySends sending.endpoint (sendIteration behaviour sending idx handed).2.endpoint := by
  unfold sendIteration
  dsimp only
  split
  · exact sendBatch_onlySends sending handed
  · split
    · exact markSendable_onlySends sending.endpoint idx false
    · split
      · refine OnlySends.trans ?_ (sendBatch_onlySends _ handed)
        exact ⟨rfl, rfl⟩
      · refine OnlySends.trans ?_ (sendBatch_onlySends _ handed)
        refine OnlySends.trans ?_ (markSendable_onlySends _ idx false)
        exact ⟨rfl, rfl⟩
      · exact ⟨rfl, rfl⟩

theorem runSends_onlySends {sends : List (Nat × Except Error Nat)} {sending finished : Sending σ}
    {result : Except Error Unit} (ran : runSends behaviour sends sending = some (result, finished)) :
    OnlySends sending.endpoint finished.endpoint := by
  induction sends generalizing sending with
  | nil =>
      cases ran
      exact ⟨rfl, rfl⟩
  | cons entry rest ih =>
      obtain ⟨idx, handed⟩ := entry
      obtain ⟨_, continues⟩ := Option.ite_none_right_eq_some.mp ran
      have first := @sendIteration_onlySends _ behaviour sending idx handed
      cases iterated : sendIteration behaviour sending idx handed with
      | mk outcome later =>
          rw [iterated] at first
          simp only [iterated] at continues
          cases outcome with
          | ok done => exact first.trans (ih continues)
          | error error =>
              simp only at continues
              split at continues
              · cases continues
                exact first
              · cases continues

/-! ## The failing iteration -/

/-- The connection is neither draining nor closed, and `send` returns this error. -/
def FailsWith (behaviour : Behaviour σ) (error : Error) (state : σ) : Prop :=
  behaviour.isDraining state = false ∧ behaviour.isClosed state = false ∧
    (behaviour.send state).1 = .error error

variable {conn : Conn σ} {error : Error} {sending : Sending σ}

theorem sendIteration_fails (present : sending.endpoint.conns.get? idx = some conn)
    (fails : FailsWith behaviour error conn.state) (severe : error ≠ .done)
    (handed : Except Error Nat) :
    sendIteration behaviour sending idx handed = (.error error,
      { sending with endpoint :=
        sending.endpoint.store idx { conn with state := (behaviour.send conn.state).2 } }) := by
  obtain ⟨draining, closed, failed⟩ := fails
  unfold sendIteration
  dsimp only
  rw [present]
  dsimp only
  rw [draining, closed, if_neg (by decide)]
  cases sends : behaviour.send conn.state with
  | mk result state =>
      rw [sends] at failed
      dsimp only at failed
      rw [failed]
      split
      · next impossible => cases impossible
      · next same =>
          cases same
          exact absurd rfl severe
      · next same =>
          cases same
          rfl

theorem runSends_fails (member : idx ∈ sending.endpoint.sendable)
    (present : sending.endpoint.conns.get? idx = some conn)
    (fails : FailsWith behaviour error conn.state) (severe : error ≠ .done)
    (handed : Except Error Nat) :
    runSends behaviour [(idx, handed)] sending = some (.error error,
      { sending with endpoint :=
        sending.endpoint.store idx { conn with state := (behaviour.send conn.state).2 } }) := by
  rw [runSends, if_pos member, sendIteration_fails present fails severe]
  rfl

/-- A call whose send loop fails ends there. -/
theorem processConnections_fails {schedule : Schedule} {ticking : Ticking σ} {sending : Sending σ}
    {error : Error}
    (ticked : runTicks behaviour schedule.now schedule.ticks { endpoint, ready := [] } = some ticking)
    (idle : ticking.endpoint.tickable = ∅)
    (ran : runSends behaviour schedule.sends { endpoint := ticking.endpoint, sent := [] } =
      some (.error error, sending)) :
    endpoint.processConnections behaviour schedule = some sending.endpoint := by
  unfold processConnections
  rw [ticked]
  dsimp only
  rw [if_neg (not_not.mpr idle), ran]

/-- If the sender takes nothing, an iteration ends with this error only if `send` returns it. -/
theorem failsWith_of_sendIteration (present : sending.endpoint.conns.get? idx = some conn)
    (failed : (sendIteration behaviour sending idx (.ok 0)).1 = .error error) :
    FailsWith behaviour error conn.state := by
  have batch : ∀ sending : Sending σ, (sendBatch sending (.ok 0)).1 = .ok () := by
    intro sending
    unfold sendBatch
    dsimp only
    split <;> rfl
  unfold sendIteration at failed
  dsimp only at failed
  rw [present] at failed
  dsimp only at failed
  split at failed
  · cases failed
  · next alive =>
      rw [Bool.not_eq_true, Bool.or_eq_false_iff] at alive
      cases sends : behaviour.send conn.state with
      | mk result state =>
          rw [sends] at failed
          cases result with
          | ok len =>
              rw [batch] at failed
              cases failed
          | error other =>
              refine ⟨alive.1, alive.2, ?_⟩
              rw [sends]
              split at failed
              · next impossible => cases impossible
              · rw [batch] at failed
                cases failed
              · next same =>
                  cases failed
                  exact congrArg Prod.fst same

/-! ## Later calls -/

/-- The state of a connection after a number of calls of `send`. -/
def sendTimes (behaviour : Behaviour σ) : Nat → σ → σ
  | 0, state => state
  | count + 1, state => sendTimes behaviour count (behaviour.send state).2

/-- The call of `process_connections` that finds nothing to process and serves `idx` first. -/
def headFirst (idx : Nat) (now : Instant) : Schedule :=
  { ticks := [], sends := [(idx, .ok 0)], flushed := fun _ => .ok 0, now }

def laterCalls (behaviour : Behaviour σ) (idx : Nat) (now : Instant) :
    Nat → Endpoint σ → Option (Endpoint σ)
  | 0, endpoint => some endpoint
  | count + 1, endpoint =>
      (endpoint.processConnections behaviour (headFirst idx now)).bind
        (laterCalls behaviour idx now count)

/-- The next call that serves `idx` first ends with this error. -/
def FailsFirst (behaviour : Behaviour σ) (idx : Nat) (error : Error) (endpoint : Endpoint σ) :
    Prop :=
  endpoint.tickable = ∅ ∧ ∃ sending,
    runSends behaviour [(idx, .ok 0)] { endpoint, sent := [] } = some (.error error, sending)

/-- The connection stays at the head of the queue with this error on every later call. -/
def Stuck (behaviour : Behaviour σ) (idx : Nat) (error : Error) (now : Instant)
    (endpoint : Endpoint σ) : Prop :=
  ∀ count, ∃ later, endpoint.laterCalls behaviour idx now count = some later ∧
    FailsFirst behaviour idx error later

theorem failsFirst_iff (severe : error ≠ .done)
    (idle : endpoint.tickable = ∅) (member : idx ∈ endpoint.sendable)
    (present : endpoint.conns.get? idx = some conn) :
    FailsFirst behaviour idx error endpoint ↔ FailsWith behaviour error conn.state := by
  unfold FailsFirst
  rw [runSends, if_pos member]
  constructor
  · rintro ⟨_, sending, ran⟩
    cases iterated : sendIteration behaviour { endpoint, sent := [] } idx (.ok 0) with
    | mk outcome later =>
        rw [iterated] at ran
        cases outcome with
        | ok done => cases ran
        | error other =>
            cases ran
            exact failsWith_of_sendIteration present (congrArg Prod.fst iterated)
  · intro fails
    refine ⟨idle, ?_⟩
    rw [sendIteration_fails present fails severe]
    exact ⟨_, rfl⟩

private theorem headFirst_fails (severe : error ≠ .done)
    (idle : endpoint.tickable = ∅) (member : idx ∈ endpoint.sendable)
    (present : endpoint.conns.get? idx = some conn) (fails : FailsWith behaviour error conn.state)
    (now : Instant) :
    endpoint.processConnections behaviour (headFirst idx now) =
      some (endpoint.store idx { conn with state := (behaviour.send conn.state).2 }) := by
  have ticked : runTicks behaviour now [] { endpoint, ready := [] } =
      some { endpoint, ready := [] } := rfl
  have ran : runSends behaviour [(idx, .ok 0)] { endpoint, sent := [] } = _ :=
    runSends_fails member present fails severe (.ok 0)
  exact @processConnections_fails σ behaviour endpoint (headFirst idx now) _ _ _ ticked idle ran

/-- A connection is stuck exactly if `send` never returns anything else. -/
theorem stuck_iff {conn : Conn σ} {error : Error} (severe : error ≠ .done)
    (idle : endpoint.tickable = ∅) (member : idx ∈ endpoint.sendable)
    (present : endpoint.conns.get? idx = some conn) (now : Instant) :
    Stuck behaviour idx error now endpoint ↔
      ∀ count, FailsWith behaviour error (sendTimes behaviour count conn.state) := by
  have moved {endpoint : Endpoint σ} {conn : Conn σ} (idle : endpoint.tickable = ∅)
      (member : idx ∈ endpoint.sendable) (present : endpoint.conns.get? idx = some conn)
      (fails : FailsWith behaviour error conn.state) (count : Nat) :
      endpoint.laterCalls behaviour idx now (count + 1) =
        (endpoint.store idx { conn with state := (behaviour.send conn.state).2 }).laterCalls
          behaviour idx now count := by
    rw [laterCalls, headFirst_fails severe idle member present fails now]
    rfl
  have stored (endpoint : Endpoint σ) (conn : Conn σ) :
      (endpoint.store idx conn).conns.get? idx = some conn := by
    rw [get?_store, if_pos rfl]
  constructor
  · intro stuck count
    induction count generalizing endpoint conn with
    | zero =>
        obtain ⟨later, same, fails⟩ := stuck 0
        cases same
        exact (failsFirst_iff severe idle member present).mp fails
    | succ count ih =>
        obtain ⟨later, same, first⟩ := stuck 0
        cases same
        have fails := (failsFirst_iff severe idle member present).mp first
        refine @ih (endpoint.store idx { conn with state := (behaviour.send conn.state).2 })
          { conn with state := (behaviour.send conn.state).2 } idle member (stored endpoint _) ?_
        intro count
        rw [← moved idle member present fails count]
        exact stuck (count + 1)
  · intro fails count
    induction count generalizing endpoint conn with
    | zero => exact ⟨endpoint, rfl, (failsFirst_iff severe idle member present).mpr (fails 0)⟩
    | succ count ih =>
        rw [moved idle member present (fails 0) count]
        exact @ih (endpoint.store idx { conn with state := (behaviour.send conn.state).2 })
          { conn with state := (behaviour.send conn.state).2 } idle member (stored endpoint _)
          fun later => fails (later + 1)

theorem stuck_store (severe : error ≠ .done)
    (idle : endpoint.tickable = ∅) (member : idx ∈ endpoint.sendable) (now : Instant) :
    Stuck behaviour idx error now (endpoint.store idx conn) ↔
      ∀ count, FailsWith behaviour error (sendTimes behaviour count conn.state) := by
  have stored : (endpoint.store idx conn).conns.get? idx = some conn := by
    rw [get?_store, if_pos rfl]
  exact @stuck_iff _ _ (endpoint.store idx conn) idx conn error severe idle member stored now

/-! ## A call that a connection ends -/

/-- The connections whose timers a call updates after its send loop. -/
def timed (behaviour : Behaviour σ) (sends : List (Nat × Except Error Nat)) (sending : Sending σ) :
    List Nat :=
  match runSends behaviour sends sending with
  | some (.ok (), finished) => finished.sent
  | _ => []

/-- Every other connection that was sendable is served and gets its timer updated. -/
def OthersServed (behaviour : Behaviour σ) (schedule : Schedule) (started : Endpoint σ)
    (idx : Nat) : Prop :=
  ∀ other ∈ started.sendable, other ≠ idx → other ∈ schedule.sends.map (·.1) ∧
    other ∈ timed behaviour schedule.sends { endpoint := started, sent := [] }

theorem runSends_append {earlier later : List (Nat × Except Error Nat)} {sending middle : Sending σ}
    (ran : runSends behaviour earlier sending = some (.ok (), middle)) :
    runSends behaviour (earlier ++ later) sending = runSends behaviour later middle := by
  induction earlier generalizing sending with
  | nil =>
      cases ran
      rfl
  | cons entry rest ih =>
      obtain ⟨idx, handed⟩ := entry
      obtain ⟨member, continues⟩ := Option.ite_none_right_eq_some.mp ran
      rw [List.cons_append, runSends, if_pos member]
      cases iterated : sendIteration behaviour sending idx handed with
      | mk outcome next =>
          simp only [iterated] at continues ⊢
          cases outcome with
          | ok done => exact ih continues
          | error error =>
              simp only at continues
              split at continues <;> cases continues

/-- A call of `process_connections` in which `send` fails for `idx`: the others are served, and
`idx` does not stay at the head of the queue, exactly if no other connection was sendable and
`send` does not go on failing. -/
theorem failure_contained_iff {schedule : Schedule} {ticking : Ticking σ} {sending : Sending σ}
    {earlier : List (Nat × Except Error Nat)} {handed : Except Error Nat} {conn : Conn σ}
    {error : Error} {result : Endpoint σ}
    (called : endpoint.processConnections behaviour schedule = some result)
    (ticked : runTicks behaviour schedule.now schedule.ticks { endpoint, ready := [] } =
      some ticking)
    (order : schedule.sends = earlier ++ [(idx, handed)])
    (served : runSends behaviour earlier { endpoint := ticking.endpoint, sent := [] } =
      some (.ok (), sending))
    (member : idx ∈ sending.endpoint.sendable)
    (present : sending.endpoint.conns.get? idx = some conn)
    (fails : FailsWith behaviour error conn.state) (severe : error ≠ .done) (now : Instant) :
    OthersServed behaviour schedule ticking.endpoint idx ∧
        ¬ Stuck behaviour idx error now result ↔
      (∀ other ∈ ticking.endpoint.sendable, other = idx) ∧
        ∃ count, ¬ FailsWith behaviour error
          (sendTimes behaviour count (behaviour.send conn.state).2) := by
  have ran : runSends behaviour schedule.sends { endpoint := ticking.endpoint, sent := [] } =
      some (.error error, { sending with
        endpoint := sending.endpoint.store idx
          { conn with state := (behaviour.send conn.state).2 } }) := by
    rw [order, runSends_append served, runSends_fails member present fails severe]
  have idle : ticking.endpoint.tickable = ∅ := by
    unfold processConnections at called
    rw [ticked] at called
    dsimp only at called
    split_ifs at called with empty
    exact not_not.mp empty
  have left : result = sending.endpoint.store idx
      { conn with state := (behaviour.send conn.state).2 } :=
    Option.some.inj (called.symm.trans (processConnections_fails ticked idle ran))
  have rested : sending.endpoint.tickable = ∅ := (runSends_onlySends served).tickable.trans idle
  have none : timed behaviour schedule.sends { endpoint := ticking.endpoint, sent := [] } = [] := by
    unfold timed
    rw [ran]
  refine and_congr ⟨fun others other waiting => ?_, fun alone other waiting apart => ?_⟩ ?_
  · by_contra apart
    have updated := (others other waiting apart).2
    rw [none] at updated
    exact List.not_mem_nil updated
  · exact absurd (alone other waiting) apart
  · rw [left, stuck_store severe rested member now, not_forall]

/-! ## A client with two paths -/

section Client

open Connection

/-- The frames that give a client its ids. With HANDSHAKE_DONE the handshake is over. -/
def recvFrame (conn : CidPaths) : Frame → Except Error Unit × CidPaths
  | .newConnectionId seqNum retirePriorTo connId resetToken =>
      conn.recvNewConnectionId seqNum retirePriorTo connId
        (.ofNat 128 (BigEndian.decode resetToken.toList))
  | .handshakeDone => (.ok (), { conn with handshakeCompleted := true })
  | _ => (.ok (), conn)

/-- The payload of a 1-RTT packet. Every frame takes a byte at least. -/
def recvPayload : Nat → Bytes → CidPaths → Except Error Unit × CidPaths
  | 0, _, conn => (.ok (), conn)
  | bytes + 1, payload, conn =>
      if payload.isEmpty then (.ok (), conn.tryAllocateCidsFromPeer)
      else
        match Frame.fromBytes payload .oneRtt with
        | .error error => (.error error, conn)
        | .ok (frame, len) =>
            match recvFrame conn frame with
            | (.error error, conn) => (.error error, conn)
            | (.ok (), conn) => recvPayload bytes (payload.drop len) conn

/-- A client whose application adds a second path after the handshake. Datagrams are given as their
payload without protection; timers are left out. -/
def migratingClient (out : Bytes) : Behaviour PathSender :=
  { isClosed := fun _ => false
    isDraining := fun client => client.sender.draining
    isReady := fun _ => false
    timeout := fun _ => none
    onCreated := fun client => ⟨client, false⟩
    recv := fun client payload =>
      let (result, conn) := recvPayload (payload.length + 1) payload client.conn
      (result, ⟨{ client with conn }, false⟩)
    reset := fun client => ⟨{ client with sender := { client.sender with draining := true } }, false⟩
    onTimeout := fun client _ => ⟨client, false⟩
    process := fun client =>
      ⟨{ client with conn := client.conn.addPath (.localhost 3) (.localhost 2) }, false⟩
    cleanUp := fun client => ⟨client, false⟩
    send := fun client => client.send out }

theorem stranded_fails {client : PathSender} {out : Bytes} (stuck : client.stranded out = true)
    (count : Nat) :
    FailsWith (migratingClient out) .internalError
      (sendTimes (migratingClient out) count client) := by
  induction count generalizing client with
  | zero =>
      obtain ⟨open_, next, sent, _⟩ := PathSender.send_stranded stuck
      exact ⟨open_, rfl, congrArg Prod.fst sent⟩
  | succ count ih =>
      obtain ⟨_, next, sent, still⟩ := PathSender.send_stranded stuck
      have moved : sendTimes (migratingClient out) (count + 1) client =
          sendTimes (migratingClient out) count next :=
        congrArg (fun outcome : Except Error Nat × PathSender =>
            sendTimes (migratingClient out) count outcome.2) sent
      rw [moved]
      exact ih still

def newClient : PathSender :=
  { conn := .start (.default false) (.localhost 1) (.localhost 2) false (.new [7]) none (.new [8])
      none
    sender :=
      { PacketSender.retiringServer with
        conn :=
          { PacketSender.retiringServer.conn with
            isServer := false
            streams := .new false 1000 1000 {} none }
        nextPktNum := 0
        largestAcked := none } }

def newConnectionId (seqNum retirePriorTo : UInt8) : Bytes :=
  [0x18, seqNum, retirePriorTo, 1, seqNum] ++ List.replicate 16 seqNum

/-- A call that serves the connections in `sends` in this order. -/
def serve (ticks sends : List Nat) : Schedule :=
  { ticks, sends := sends.map (·, .ok 0), flushed := fun _ => .ok 9, now := 0 }

/-- The first of two clients gets new ids for its two paths, the last time only one for both. -/
def migration : List (Op PathSender) :=
  [.connect newClient (.ok newClient), .connect newClient (.ok newClient),
    .recv (some 0) false (0x1e :: newConnectionId 1 0) .ignored,
    .processConnections (serve [0, 1] [0, 0, 1]),
    .recv (some 0) false (newConnectionId 2 1) .ignored, .processConnections (serve [0] [0, 0]),
    .recv (some 0) false (newConnectionId 3 3) .ignored, .recv (some 1) false [0x01] .ignored]

def datagram : Bytes := List.replicate 1500 0

/-- Then both clients are in the queue, and the other one can be served before the first. -/
theorem migrated : ∃ endpoint ticking sending : _,
    Run (step (migratingClient datagram)) anyStep (new false 8 4) endpoint ∧
      runTicks (migratingClient datagram) 0 [0, 1] { endpoint, ready := [] } = some ticking ∧
      ticking.endpoint.tickable = ∅ ∧ ticking.endpoint.sendable = {0, 1} ∧
      runSends (migratingClient datagram) [(1, .ok 0)] { endpoint := ticking.endpoint, sent := [] } =
        some (.ok (), sending) ∧
      0 ∈ sending.endpoint.sendable ∧ ∀ queue ∈ [ticking.endpoint, sending.endpoint],
        ∃ client, queue.conns.get? 0 = some client ∧ client.state.stranded datagram = true := by
  have executed : ((exec (step (migratingClient datagram)) (new false 8 4) migration).bind
      fun endpoint => (runTicks (migratingClient datagram) 0 [0, 1] { endpoint, ready := [] }).bind
        fun ticking => (runSends (migratingClient datagram) [(1, .ok 0)]
          { endpoint := ticking.endpoint, sent := [] }).map fun served =>
            (endpoint, ticking, served)).any (fun reached =>
        decide (reached.2.1.endpoint.tickable = ∅ ∧ reached.2.1.endpoint.sendable = {0, 1} ∧
          reached.2.2.1.isOk = true ∧ 0 ∈ reached.2.2.2.endpoint.sendable) &&
        [reached.2.1.endpoint, reached.2.2.2.endpoint].all fun queue =>
          (queue.conns.get? 0).any fun client => client.state.stranded datagram) = true := by
    decide +kernel
  obtain ⟨reached, made, facts⟩ := (Option.any_eq_true _ _).mp executed
  obtain ⟨endpoint, run, made⟩ := Option.bind_eq_some_iff.mp made
  obtain ⟨ticking, ticked, made⟩ := Option.bind_eq_some_iff.mp made
  obtain ⟨⟨outcome, sending⟩, served, rfl⟩ := Option.map_eq_some_iff.mp made
  obtain ⟨queues, stranded⟩ := Bool.and_eq_true_iff.mp facts
  obtain ⟨idle, both, succeeded, waits⟩ := of_decide_eq_true queues
  cases outcome with
  | error error => cases succeeded
  | ok done =>
      refine ⟨endpoint, ticking, sending, .of_exec run, ticked, idle, both, served, waits, ?_⟩
      exact fun queue listed =>
        (Option.any_eq_true _ _).mp (List.all_eq_true.mp stranded queue listed)

/-- The client whose first path has no id is served after the other one, and stays in the queue. -/
theorem second_failure_stuck :
    ∃ endpoint result ticking,
      endpoint.processConnections (migratingClient datagram) (serve [0, 1] [1, 0]) = some result ∧
      runTicks (migratingClient datagram) 0 [0, 1] { endpoint, ready := [] } = some ticking ∧
      ticking.endpoint.sendable = {0, 1} ∧
      ¬ (OthersServed (migratingClient datagram) (serve [0, 1] [1, 0]) ticking.endpoint 0 ∧
        ¬ Stuck (migratingClient datagram) 0 .internalError 0 result) := by
  obtain ⟨endpoint, ticking, sending, _, ticked, idle, both, served, waits, stranded⟩ := migrated
  obtain ⟨client, present, stuck⟩ :=
    stranded sending.endpoint (List.mem_cons_of_mem _ (List.mem_singleton_self _))
  have fails := stranded_fails stuck 0
  have ran : runSends (migratingClient datagram) (serve [0, 1] [1, 0]).sends
      { endpoint := ticking.endpoint, sent := [] } = _ :=
    (runSends_append served).trans (runSends_fails waits present fails (by decide) (.ok 0))
  have called := processConnections_fails ticked idle ran
  refine ⟨endpoint, _, ticking, called, ticked, both, fun contained => ?_⟩
  obtain ⟨alone, _⟩ := (failure_contained_iff called ticked rfl served waits present fails
    (by decide) 0).mp contained
  exact absurd (alone 1 (both ▸ by decide)) (by decide)

/-- The client whose first path has no id is served first: the other one is not served, and the
first one fails for ever. -/
theorem failure_not_contained :
    ∃ endpoint result ticking client,
      Run (step (migratingClient datagram)) anyStep (new false 8 4) endpoint ∧
      endpoint.processConnections (migratingClient datagram) (serve [0, 1] [0]) = some result ∧
      runTicks (migratingClient datagram) 0 [0, 1] { endpoint, ready := [] } = some ticking ∧
      ticking.endpoint.sendable = {0, 1} ∧ ticking.endpoint.conns.get? 0 = some client ∧
      FailsWith (migratingClient datagram) .internalError client.state ∧
      ¬ OthersServed (migratingClient datagram) (serve [0, 1] [0]) ticking.endpoint 0 ∧
      Stuck (migratingClient datagram) 0 .internalError 0 result := by
  obtain ⟨endpoint, ticking, _, reached, ticked, idle, both, _, _, stranded⟩ := migrated
  obtain ⟨client, present, stuck⟩ := stranded ticking.endpoint List.mem_cons_self
  have waits : 0 ∈ ticking.endpoint.sendable := both ▸ by decide
  have ran : runSends (migratingClient datagram) (serve [0, 1] [0]).sends
      { endpoint := ticking.endpoint, sent := [] } = _ :=
    runSends_fails waits present (stranded_fails stuck 0) (by decide) (.ok 0)
  have called := processConnections_fails ticked idle ran
  refine ⟨endpoint, _, ticking, client, reached, called, ticked, both, present,
    stranded_fails stuck 0, fun others => ?_, ?_⟩
  · exact absurd (others 1 (both ▸ by decide) (by decide)).1 (by decide)
  · refine (stuck_store (by decide) idle waits 0).mpr fun count => ?_
    have again := stranded_fails stuck (count + 1)
    rw [sendTimes] at again
    dsimp only
    exact again

end Client

end Tquic.Endpoint
