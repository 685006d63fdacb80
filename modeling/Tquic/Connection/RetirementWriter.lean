import Tquic.Connection.CidAssignmentProperties
import Tquic.Lib.Transition

/-! The loop that writes RETIRE_CONNECTION_ID frames, in every state that a connection can
reach. It ends because no path uses an id that waits to be retired. -/

set_option autoImplicit false

namespace Tquic.Connection

open Lib

namespace CidPaths

/-- The sequence numbers that the RETIRE_CONNECTION_ID frames among `frames` carry. -/
def retirements (frames : List CidFrame) : List Nat :=
  frames.filterMap (fun frame =>
    match frame with
    | .retireConnectionId seqNum => some seqNum
    | .newConnectionId _ _ _ => none)

private theorem retirements_append (left right : List CidFrame) :
    retirements (left ++ right) = retirements left ++ retirements right :=
  List.filterMap_append

variable {conn next : CidPaths} {sent : List Nat}

/-! ## The writer -/

theorem Assigned.mono {fewer : List Nat} (assigned : conn.Assigned sent)
    (subset : ∀ seq ∈ fewer, seq ∈ sent) : conn.Assigned fewer := by
  refine ⟨{ assigned.kept with sent := fun seq member => ?_ }, assigned.linked, fun zero => ?_⟩
  · exact assigned.kept.sent seq (subset seq member)
  · obtain ⟨pending, none⟩ := assigned.vacant zero
    refine ⟨pending, List.eq_nil_iff_forall_not_mem.mpr fun seq member => ?_⟩
    exact absurd (none ▸ subset seq member) List.not_mem_nil

theorem Assigned.retired (assigned : conn.Assigned sent) {seq : Nat}
    (front : conn.cids.nextDcidToRetire = some seq) :
    Assigned { conn with cids := conn.cids.markDcidToRetire seq false } (seq :: sent) := by
  refine ⟨assigned.kept.retired front, assigned.linked, fun zero => ?_⟩
  obtain ⟨empty, _⟩ := assigned.vacant zero
  simp [ConnectionIdMgr.nextDcidToRetire, empty] at front

theorem Assigned.lost (assigned : conn.Assigned sent) {seq : Nat} (member : seq ∈ sent) :
    Assigned { conn with cids := conn.cids.markDcidToRetire seq true } sent := by
  refine ⟨assigned.kept.lost member, assigned.linked, fun zero => ?_⟩
  obtain ⟨_, empty⟩ := assigned.vacant zero
  simp [empty] at member

/-- Each round takes the number it announces off the list. -/
theorem advertise_fewer {mgr : ConnectionIdMgr} {seq : Nat}
    (front : mgr.scidsToAdvertise.head? = some seq) :
    (mgr.markScidToAdvertise seq false).scidsToAdvertise.length < mgr.scidsToAdvertise.length := by
  have member : seq ∈ mgr.scidsToAdvertise := List.mem_of_mem_head? front
  exact List.length_filter_lt_length_iff_exists.mpr ⟨seq, member, by simp⟩

/-- Each round takes the number it retires off the list. -/
theorem pending_fewer {mgr : ConnectionIdMgr} {seq : Nat}
    (front : mgr.nextDcidToRetire = some seq) :
    (mgr.markDcidToRetire seq false).dcidsToRetire.length < mgr.dcidsToRetire.length := by
  have member : seq ∈ mgr.dcidsToRetire := List.mem_of_mem_head? front
  exact List.length_filter_lt_length_iff_exists.mpr ⟨seq, member, by simp⟩

private theorem writeNewConnectionIds_ends {fuel room : Nat}
    (enough : conn.cids.scidsToAdvertise.length < fuel) :
    ∃ written, writeNewConnectionIds fuel conn room = some written := by
  induction fuel generalizing conn room with
  | zero => exact absurd enough (Nat.not_lt_zero _)
  | succ fuel ih =>
    unfold writeNewConnectionIds
    cases front : conn.cids.scidsToAdvertise.head? with
    | none => exact ⟨_, rfl⟩
    | some seq =>
      dsimp only
      cases conn.cids.scids.get seq with
      | none => exact ⟨_, rfl⟩
      | some item =>
        dsimp only
        split
        · exact ⟨_, rfl⟩
        split
        · exact ⟨_, rfl⟩
        · have fewer := advertise_fewer front
          obtain ⟨written, ends⟩ := @ih
            { conn with cids := conn.cids.markScidToAdvertise seq false } _ (by
              dsimp only
              omega)
          exact ⟨_, by rw [ends]; rfl⟩

/-- The frames on the way from one state to another, without RETIRE_CONNECTION_ID unless
`retiring`. -/
inductive Writes (retiring : Bool) : CidPaths → List CidFrame → CidPaths → Prop where
  | none (conn : CidPaths) : Writes retiring conn [] conn
  | advertise {conn after frames} (seq retirePriorTo connId)
      (rest : Writes retiring { conn with cids := conn.cids.markScidToAdvertise seq false } frames
        after) :
      Writes retiring conn (.newConnectionId seq retirePriorTo connId :: frames) after
  | retire {conn after frames seq} (allowed : retiring = true)
      (front : conn.cids.nextDcidToRetire = some seq)
      (rest : Writes retiring { conn with cids := conn.cids.markDcidToRetire seq false } frames
        after) :
      Writes retiring conn (.retireConnectionId seq :: frames) after

variable {retiring : Bool} {frames more : List CidFrame} {middle after : CidPaths}
  {fuel pathId room : Nat} {written : Written}

theorem Writes.append (former : Writes retiring conn frames middle)
    (latter : Writes true middle more after) : Writes true conn (frames ++ more) after := by
  induction former with
  | none => exact latter
  | advertise seq retirePriorTo connId _ ih => exact .advertise seq retirePriorTo connId (ih latter)
  | retire _ front _ ih => exact .retire rfl front (ih latter)

theorem writeNewConnectionIds_writes
    (wrote : writeNewConnectionIds fuel conn room = some written) :
    Writes false conn written.frames written.conn := by
  induction fuel generalizing conn room written with
  | zero => cases wrote
  | succ fuel ih =>
    unfold writeNewConnectionIds at wrote
    split at wrote
    · cases wrote
      exact .none conn
    split at wrote
    · cases wrote
      exact .none conn
    split at wrote
    · cases wrote
      exact .none conn
    dsimp only at wrote
    split at wrote
    · cases wrote
      exact .none conn
    · obtain ⟨later, writes, rfl⟩ := Option.map_eq_some_iff.mp wrote
      exact .advertise _ _ _ (ih writes)

private theorem writeRetireConnectionIds_writes
    (wrote : writeRetireConnectionIds fuel conn pathId room = some written) :
    Writes true conn written.frames written.conn := by
  induction fuel generalizing conn room written with
  | zero => cases wrote
  | succ fuel ih =>
    unfold writeRetireConnectionIds at wrote
    split at wrote
    · cases wrote
      exact .none conn
    next front =>
      split at wrote
      · cases wrote
        exact .none conn
      split at wrote
      · exact ih wrote
      dsimp only at wrote
      split at wrote
      · cases wrote
        exact .none conn
      · obtain ⟨later, writes, rfl⟩ := Option.map_eq_some_iff.mp wrote
        exact .retire rfl front (ih writes)

theorem tryWriteCidControlFrame_writes
    (wrote : tryWriteCidControlFrame fuel conn pathId room = some written) :
    Writes true conn written.frames written.conn := by
  unfold tryWriteCidControlFrame at wrote
  split at wrote
  · cases wrote
    exact .none conn
  cases advertises : writeNewConnectionIds fuel conn room with
  | none => simp [advertises] at wrote
  | some advertised =>
    have former := writeNewConnectionIds_writes advertises
    have whole := former.append (.none _)
    rw [List.append_nil] at whole
    simp only [advertises] at wrote
    split at wrote
    · cases wrote
      exact whole
    split at wrote
    · cases wrote
      exact whole
    split at wrote
    · cases wrote
      exact whole
    · obtain ⟨later, writes, rfl⟩ := Option.map_eq_some_iff.mp wrote
      exact former.append (writeRetireConnectionIds_writes writes)

theorem Writes.keeps (writes : Writes false conn frames after) :
    ConnectionIdMgr.KeepsDcids conn.cids after.cids ∧ after.paths = conn.paths := by
  induction writes with
  | none => exact ⟨.refl _, rfl⟩
  | @advertise conn after _ seq _ _ _ ih =>
    exact ⟨(conn.cids.markScidToAdvertise_same seq false).1.trans ih.1, ih.2⟩
  | retire allowed => cases allowed

theorem Writes.assigned (writes : Writes retiring conn frames after) (assigned : conn.Assigned sent) :
    after.Assigned (retirements frames ++ sent) := by
  induction writes generalizing sent with
  | none => exact assigned
  | @advertise conn _ _ seq _ _ _ ih =>
    exact ih (assigned.keep (conn.cids.markScidToAdvertise_same seq false).1 (.refl _))
  | retire _ front _ ih =>
    refine (ih (assigned.retired front)).mono fun other member => ?_
    simp only [retirements, List.filterMap_cons, List.cons_append, List.mem_cons,
      List.mem_append] at member ⊢
    tauto

/-- The loop ends, as every round takes a number off the list. -/
theorem writeRetireConnectionIds_ends {fuel pathId room : Nat} (assigned : conn.Assigned sent)
    (enough : conn.cids.dcidsToRetire.length < fuel) :
    ∃ written, writeRetireConnectionIds fuel conn pathId room = some written := by
  induction fuel generalizing conn sent room with
  | zero => exact absurd enough (Nat.not_lt_zero _)
  | succ fuel ih =>
    unfold writeRetireConnectionIds
    cases front : conn.cids.nextDcidToRetire with
    | none => exact ⟨_, rfl⟩
    | some seq =>
      cases used : (conn.paths.get pathId).bind (·.dcidSeq) with
      | none => exact ⟨_, rfl⟩
      | some dcidSeq =>
        dsimp only
        -- The path of the packet does not use an id that waits.
        have other : seq ≠ dcidSeq := by
          rintro rfl
          exact assigned.not_pending used (List.mem_of_mem_head? front)
        rw [if_neg other]
        split
        · exact ⟨_, rfl⟩
        · have fewer := pending_fewer front
          obtain ⟨written, ends⟩ := @ih
            { conn with cids := conn.cids.markDcidToRetire seq false } _ _
            (assigned.retired front) (by
              dsimp only
              omega)
          exact ⟨_, by rw [ends]; rfl⟩

/-- Both loops of the writer end. -/
theorem tryWriteCidControlFrame_ends {pathId room : Nat} (assigned : conn.Assigned sent) {fuel : Nat}
    (enough : conn.cids.scidsToAdvertise.length + conn.cids.dcidsToRetire.length < fuel) :
    ∃ written, tryWriteCidControlFrame fuel conn pathId room = some written := by
  unfold tryWriteCidControlFrame
  split
  · exact ⟨_, rfl⟩
  obtain ⟨advertised, writes⟩ := @writeNewConnectionIds_ends conn fuel room (by omega)
  obtain ⟨keeps, paths⟩ := (writeNewConnectionIds_writes writes).keeps
  have after : advertised.conn.Assigned sent := assigned.keep keeps (paths ▸ .refl _)
  rw [writes]
  dsimp only
  cases advertised.result with
  | error error => exact ⟨_, rfl⟩
  | ok done =>
    dsimp only
    cases advertised.conn.paths.get pathId with
    | none => exact ⟨_, rfl⟩
    | some path =>
      dsimp only
      split
      · exact ⟨_, rfl⟩
      · have bound : advertised.conn.cids.dcidsToRetire.length < fuel := by
          rw [keeps.pending]
          omega
        obtain ⟨written, ends⟩ := @writeRetireConnectionIds_ends _ sent fuel pathId
          advertised.room after bound
        exact ⟨_, by rw [ends]; rfl⟩

theorem writeRetireConnectionIds_stuck {pathId seq : Nat}
    (front : conn.cids.nextDcidToRetire = some seq)
    (used : (conn.paths.get pathId).bind (·.dcidSeq) = some seq) (fuel room : Nat) :
    writeRetireConnectionIds fuel conn pathId room = none := by
  induction fuel with
  | zero => rfl
  | succ fuel ih => simp [writeRetireConnectionIds, front, used, ih]

private theorem tryWriteCidControlFrame_stuck {pathId seq : Nat} {path : Path}
    (opened : conn.closing = false) (quiet : conn.cids.scidsToAdvertise = [])
    (front : conn.cids.nextDcidToRetire = some seq) (present : conn.paths.get pathId = some path)
    (active : path.isActive = true) (used : path.dcidSeq = some seq) (fuel room : Nat) :
    tryWriteCidControlFrame fuel conn pathId room = none := by
  have stuck := writeRetireConnectionIds_stuck front
    (show (conn.paths.get pathId).bind (·.dcidSeq) = some seq by simp [present, used])
  cases fuel with
  | zero => simp [tryWriteCidControlFrame, opened, writeNewConnectionIds]
  | succ fuel =>
    simp [tryWriteCidControlFrame, opened, writeNewConnectionIds, quiet, present, active, stuck]

end CidPaths

/-! ## Runs -/

structure CidPathRun where
  conn : CidPaths
  sent : List CidPaths.CidFrame

namespace CidPathRun

inductive Op where
  | newConnectionId (seqNum retirePriorTo : Nat) (connId : ConnectionId) (resetToken : ResetToken)
  | retireConnectionId (seqNum : Nat) (pktDcid : ConnectionId)
  /-- A packet for one of the source ids, on a known path or on a new one. -/
  | packet (recvPid : Option Nat) (dcid : ConnectionId) (localAddr remoteAddr : SocketAddr)
      (bufLen : Nat)
  | allocateCids
  | addPath (localAddr remoteAddr : SocketAddr)
  | addScid (cid : ConnectionId) (resetToken : ResetToken) (retireIfNeeded : Bool)
  | setScidLimit (limit : Nat)
  /-- The packet writer runs until it returns. -/
  | write (fuel pathId room : Nat)
  | lose (frame : CidPaths.CidFrame)
  | chalSent (pathId : Nat) (data : ChallengeData) (pktSize : Nat) (sentTime : Instant)
  | chalReceived (pathId : Nat) (data : ChallengeData)
  | respReceived (pathId : Nat) (data : ChallengeData)
  | chalTimeout (now : Instant)
  | enableMultipath
  | completeHandshake
  | close

def start (config : CidConfig) (localAddr remoteAddr : SocketAddr) (addrToken : Bool)
    (initialScid : ConnectionId) (scidToken : Option ResetToken) (dcid : ConnectionId)
    (dcidToken : Option ResetToken) : CidPathRun :=
  { conn := .start config localAddr remoteAddr addrToken initialScid scidToken dcid dcidToken
    sent := [] }

/-- Errors close the connection, except for those that skip the rest of a datagram. -/
def settle {α : Type} (run : CidPathRun) : Except Error α × CidPaths → CidPathRun
  | (.ok _, conn) => { run with conn }
  | (.error .done, conn) => { run with conn }
  | (.error _, conn) => { run with conn := { conn with closing := true } }

def stepOpen (run : CidPathRun) : Op → Option CidPathRun
  | .newConnectionId seqNum retirePriorTo connId resetToken =>
    some (run.settle (run.conn.recvNewConnectionId seqNum retirePriorTo connId resetToken))
  | .retireConnectionId seqNum pktDcid =>
    some (run.settle (run.conn.recvRetireConnectionId seqNum pktDcid))
  | .packet recvPid dcid localAddr remoteAddr bufLen =>
    some (run.settle (run.conn.getOrCreatePath recvPid dcid localAddr remoteAddr bufLen))
  | .allocateCids => some { run with conn := run.conn.tryAllocateCidsFromPeer }
  | .addPath localAddr remoteAddr => some { run with conn := run.conn.addPath localAddr remoteAddr }
  | .addScid cid resetToken retireIfNeeded =>
    some { run with conn := { run.conn with
      cids := (run.conn.cids.addScid cid (some resetToken) true none retireIfNeeded).2 } }
  | .setScidLimit limit =>
    some { run with conn := { run.conn with cids := run.conn.cids.setScidLimit limit } }
  | .write fuel pathId room =>
    (run.conn.tryWriteCidControlFrame fuel pathId room).map
      (fun written => { conn := written.conn, sent := written.frames ++ run.sent })
  | .lose frame =>
    if frame ∈ run.sent then
      match frame with
      | .newConnectionId seqNum _ _ =>
        some { run with conn := { run.conn with
          cids := run.conn.cids.markScidToAdvertise seqNum true } }
      | .retireConnectionId seqNum =>
        some { run with conn := { run.conn with
          cids := run.conn.cids.markDcidToRetire seqNum true } }
    else none
  | .chalSent pathId data pktSize sentTime =>
    (run.conn.paths.onPathChalSent pathId data pktSize sentTime).toOption.map
      (fun paths => { run with conn := { run.conn with paths } })
  | .chalReceived pathId data =>
    some { run with conn := { run.conn with
      paths := run.conn.paths.onPathChalReceived pathId data } }
  | .respReceived pathId data =>
    some { run with conn := { run.conn with
      paths := (run.conn.paths.onPathRespReceived pathId data).2 } }
  | .chalTimeout now =>
    some { run with conn := { run.conn with paths := run.conn.paths.onPathChalTimeout now } }
  | .enableMultipath =>
    some { run with conn := { run.conn with paths := run.conn.paths.enableMultipath } }
  | .completeHandshake => some { run with conn := { run.conn with handshakeCompleted := true } }
  | .close => some { run with conn := { run.conn with closing := true } }

/-- A closing connection reads nothing any more, and its writer returns at once. -/
def step (run : CidPathRun) (op : Op) : Option CidPathRun :=
  if run.conn.closing then none else run.stepOpen op

/-- No frame announces an id again that waits to be retired. -/
def Regular (run : CidPathRun) : Op → Prop
  | .newConnectionId seqNum retirePriorTo connId _ =>
    ¬ run.conn.cids.Revived connId seqNum retirePriorTo
  | _ => True

def isRegular (run : CidPathRun) : Op → Bool
  | .newConnectionId seqNum retirePriorTo connId _ =>
    !decide (run.conn.cids.Revived connId seqNum retirePriorTo)
  | _ => true

theorem regular_of_isRegular (run : CidPathRun) (op : Op) (passed : isRegular run op = true) :
    Regular run op := by
  cases op with
  | newConnectionId seqNum retirePriorTo connId resetToken =>
    simpa [isRegular, Regular] using passed
  | _ => trivial

/-- Until the connection closes, its paths use active ids. -/
def Orderly (run : CidPathRun) : Prop :=
  run.conn.closing = true ∨ run.conn.Assigned (CidPaths.retirements run.sent)

section Steps

variable {run next : CidPathRun}

theorem settle_orderly {α : Type} (run : CidPathRun) {result : Except Error α} {conn : CidPaths}
    (assigned : conn.Assigned (CidPaths.retirements run.sent)) :
    Orderly (run.settle (result, conn)) := by
  unfold settle
  split
  · next same =>
      cases same
      exact .inr assigned
  · next same =>
      cases same
      exact .inr assigned
  · exact .inl rfl

theorem Orderly.of_keeps (assigned : run.conn.Assigned (CidPaths.retirements run.sent))
    {conn : CidPaths} (cids : ConnectionIdMgr.KeepsDcids run.conn.cids conn.cids)
    (paths : CidPaths.KeepsPaths run.conn.paths conn.paths) : Orderly { run with conn } :=
  .inr (assigned.keep cids paths)

theorem newConnectionId_orderly (assigned : run.conn.Assigned (CidPaths.retirements run.sent))
    {seqNum retirePriorTo : Nat} {connId : ConnectionId} {resetToken : ResetToken}
    (regular : ¬ run.conn.cids.Revived connId seqNum retirePriorTo) :
    Orderly (run.settle (run.conn.recvNewConnectionId seqNum retirePriorTo connId resetToken)) := by
  cases received : run.conn.recvNewConnectionId seqNum retirePriorTo connId resetToken with
  | mk result conn =>
    cases result with
    | ok done => exact .inr (CidPaths.recvNewConnectionId_spec assigned regular received).1
    | error error =>
      have fatal := CidPaths.recvNewConnectionId_fatal received
      unfold settle
      split
      · next same => cases same
      · next same =>
          cases same
          exact absurd rfl fatal
      · exact .inl rfl

private theorem step_orderly {op : Op} (orderly : Orderly run) (regular : Regular run op)
    (stepped : step run op = some next) : Orderly next := by
  unfold step at stepped
  rcases orderly with closed | assigned
  · simp [closed] at stepped
  split at stepped
  · cases stepped
  cases op with
  | newConnectionId seqNum retirePriorTo connId resetToken =>
    cases stepped
    exact newConnectionId_orderly assigned regular
  | retireConnectionId seqNum pktDcid =>
    cases stepped
    exact settle_orderly run (CidPaths.recvRetireConnectionId_assigned assigned seqNum pktDcid).1
  | packet recvPid dcid localAddr remoteAddr bufLen =>
    cases stepped
    exact settle_orderly run
      (CidPaths.getOrCreatePath_assigned assigned recvPid dcid localAddr remoteAddr bufLen).1
  | allocateCids =>
    cases stepped
    exact .inr (CidPaths.allocateCids_spec assigned).1
  | addPath localAddr remoteAddr =>
    cases stepped
    exact .inr (CidPaths.addPath_assigned assigned localAddr remoteAddr).1
  | addScid cid resetToken retireIfNeeded =>
    cases stepped
    exact .of_keeps assigned (ConnectionIdMgr.addScid_keeps _ cid _ true none retireIfNeeded)
      (.refl _)
  | setScidLimit limit =>
    cases stepped
    exact .of_keeps assigned (ConnectionIdMgr.setScidLimit_same _ limit).1 (.refl _)
  | write fuel pathId room =>
    obtain ⟨written, wrote, rfl⟩ := Option.map_eq_some_iff.mp stepped
    refine .inr ?_
    rw [CidPaths.retirements_append]
    exact (CidPaths.tryWriteCidControlFrame_writes wrote).assigned assigned
  | lose frame =>
    obtain ⟨member, moved⟩ := Option.ite_none_right_eq_some.mp stepped
    cases frame with
    | newConnectionId seqNum retirePriorTo connId =>
      cases moved
      exact .of_keeps assigned (ConnectionIdMgr.markScidToAdvertise_same _ seqNum true).1
        (.refl _)
    | retireConnectionId seqNum =>
      cases moved
      have listed : seqNum ∈ CidPaths.retirements run.sent :=
        List.mem_filterMap.mpr ⟨_, member, rfl⟩
      exact .inr (assigned.lost listed)
  | chalSent pathId data pktSize sentTime =>
    obtain ⟨paths, challenged, rfl⟩ := Option.map_eq_some_iff.mp stepped
    exact .of_keeps assigned (.refl _) (.of_routes (CidPaths.routes_onPathChalSent challenged))
  | chalReceived pathId data =>
    cases stepped
    exact .of_keeps assigned (.refl _) (.of_map (CidPaths.map_modify _ pathId fun _ => rfl))
  | respReceived pathId data =>
    cases stepped
    exact .of_keeps assigned (.refl _) (.of_routes (CidPaths.routes_onPathRespReceived _ _ _))
  | chalTimeout now =>
    cases stepped
    exact .of_keeps assigned (.refl _) (.of_routes (CidPaths.routes_onPathChalTimeout _ _))
  | enableMultipath =>
    cases stepped
    exact .of_keeps assigned (.refl _) (.refl _)
  | completeHandshake =>
    cases stepped
    exact .of_keeps assigned (.refl _) (.refl _)
  | close =>
    cases stepped
    exact .inl rfl

end Steps

theorem start_orderly (config : CidConfig) (localAddr remoteAddr : SocketAddr) (addrToken : Bool)
    (initialScid : ConnectionId) (scidToken : Option ResetToken) (dcid : ConnectionId)
    (dcidToken : Option ResetToken) :
    Orderly (start config localAddr remoteAddr addrToken initialScid scidToken dcid dcidToken) := by
  refine .inr ⟨ConnectionIdMgr.setInitialDcid_bookkept rfl dcid rfl dcidToken (some 0),
    fun _ => ?_, fun _ => ⟨rfl, rfl⟩⟩
  intro pathId path seq present uses
  cases pathId with
  | succ pathId => simp [start, CidPaths.start, PathMap.new, PathMap.get] at present
  | zero =>
    have used : some 0 = some seq := by
      simp only [start, CidPaths.start, PathMap.new, PathMap.get, List.getElem?_cons_zero,
        Option.some.injEq] at present
      subst present
      rw [← uses]
      unfold Path.initial
      dsimp only
      split <;> rfl
    cases used
    have capacity : config.activeConnIdLimit * 2 - 1 ≠ 0 := by
      have enough := config.atLeastTwo
      omega
    have queue : (start config localAddr remoteAddr addrToken initialScid scidToken dcid
        dcidToken).conn.cids.dcids.queue =
          [{ cid := dcid, seq := 0, resetToken := dcidToken, pathId := some 0 }] := by
      simp [start, CidPaths.start, ConnectionIdMgr.setInitialDcid, ConnectionIdMgr.new,
        ConnectionIdDeque.clear, ConnectionIdDeque.insert, Ne.symm capacity, Except.toOption]
    exact .inl ⟨_, queue ▸ List.mem_singleton_self _, rfl, rfl⟩

/-- In every run without a revived id, no path uses an id that waits to be retired, and the
packet writer returns on every path. -/
theorem cid_writer_returns {config : CidConfig} {localAddr remoteAddr : SocketAddr}
    {addrToken : Bool} {initialScid : ConnectionId} {scidToken : Option ResetToken}
    {dcid : ConnectionId} {dcidToken : Option ResetToken} {run : CidPathRun}
    (reached : Run step Regular
      (start config localAddr remoteAddr addrToken initialScid scidToken dcid dcidToken) run)
    (pathId room : Nat) :
    (run.conn.closing = false → ∀ seq ∈ run.conn.cids.dcidsToRetire,
        (run.conn.paths.get pathId).bind (·.dcidSeq) ≠ some seq) ∧
      ∃ written,
        run.conn.tryWriteCidControlFrame
          (run.conn.cids.scidsToAdvertise.length + run.conn.cids.dcidsToRetire.length + 1)
          pathId room = some written := by
  have orderly : Orderly run :=
    reached.invariant (fun _ _ _ orderly regular stepped => step_orderly orderly regular stepped)
      (start_orderly config localAddr remoteAddr addrToken initialScid scidToken dcid dcidToken)
  rcases orderly with closed | assigned
  · refine ⟨fun opened => absurd (closed.symm.trans opened) (by decide), ?_⟩
    exact ⟨_, by rw [CidPaths.tryWriteCidControlFrame, if_pos closed]⟩
  · refine ⟨fun _ seq waits uses => assigned.not_pending uses waits, ?_⟩
    exact CidPaths.tryWriteCidControlFrame_ends assigned (Nat.lt_succ_self _)

def sampleStart : CidPathRun :=
  start (.default false) (.localhost 1) (.localhost 2) false (.new [7]) none (.new [8]) none

/-- A client with two paths: both lose their ids, the second path gets the only new one, and
the frame for the retired id 1 arrives once more. The first path takes 1, and the writer meets
1 as the next id to retire, over and over. -/
theorem revived_id_blocks_writer :
    ¬ ∀ run : CidPathRun, Run step anyStep sampleStart run →
      ∀ pathId room, ∃ fuel written,
        run.conn.tryWriteCidControlFrame fuel pathId room = some written := by
  intro always
  have reached := Run.of_exec
    (show exec step sampleStart
      [.completeHandshake, .newConnectionId 1 0 (.new [9]) 1, .addPath (.localhost 3) (.localhost 2),
        .newConnectionId 2 1 (.new [10]) 2, .write 5 0 1200, .newConnectionId 3 3 (.new [11]) 3,
        .newConnectionId 1 0 (.new [9]) 1, .allocateCids] = some _ from rfl)
  obtain ⟨fuel, written, wrote⟩ := always _ reached 0 1200
  rw [CidPaths.tryWriteCidControlFrame_stuck rfl rfl rfl rfl rfl rfl] at wrote
  cases wrote

/-- The peer replaces the first id; its retirement goes out with the second one. -/
theorem replaced_id_retired :
    ∃ run : CidPathRun, run.conn.cids.dcidsToRetire = [0] ∧
      (run.conn.paths.get 0).bind (·.dcidSeq) = some 1 ∧
      (run.conn.closing = false → ∀ seq ∈ run.conn.cids.dcidsToRetire,
        (run.conn.paths.get 0).bind (·.dcidSeq) ≠ some seq) ∧
      ∃ written,
        run.conn.tryWriteCidControlFrame
          (run.conn.cids.scidsToAdvertise.length + run.conn.cids.dcidsToRetire.length + 1)
          0 1200 = some written := by
  have reached := Run.of_checked regular_of_isRegular (Run.of_exec
    (show exec (checked isRegular step) sampleStart
      [.completeHandshake, .newConnectionId 1 1 (.new [9]) 1] = some _ from rfl))
  exact ⟨_, rfl, rfl, cid_writer_returns reached 0 1200⟩

end CidPathRun

end Tquic.Connection
