import Tquic.Connection.CidAssignmentProperties
import Tquic.Connection.Exchange
import Tquic.Lib.Transition

/-! Anti-amplification: what a server sends on a path before the address of the client is
verified stays below a multiple of what it received there. -/

set_option autoImplicit false

namespace Tquic.Connection

open Lib

/-! ## Operations that leave the send limits alone -/

def Path.QuietTo (before after : Path) : Prop :=
  after.antiAmplLimit = before.antiAmplLimit ∧
    (after.verifiedPeerAddress = false → before.verifiedPeerAddress = false)

theorem Path.QuietTo.refl (path : Path) : path.QuietTo path := ⟨rfl, id⟩

theorem Path.QuietTo.trans {first second third : Path} (left : first.QuietTo second)
    (right : second.QuietTo third) : first.QuietTo third :=
  ⟨right.1.trans left.1, fun unverified => left.2 (right.2 unverified)⟩

/-- No send limit changes, and no path loses its verification. -/
structure PathMap.Quiet (before after : PathMap) : Prop where
  isServer : after.isServer = before.isServer
  factor : after.antiAmplFactor = before.antiAmplFactor
  paths : ∀ pid path, after.get pid = some path → ∃ old, before.get pid = some old ∧
    old.QuietTo path

theorem Path.promoteTo_quiet (path : Path) (state : PathState) :
    path.QuietTo (path.promoteTo state) := by
  unfold Path.promoteTo
  split <;> exact ⟨rfl, id⟩

private theorem Path.noteResponse_quiet (path : Path) (data : ChallengeData) :
    path.QuietTo (path.noteResponse data) := by
  unfold Path.noteResponse
  refine Path.QuietTo.trans ?_ (Path.promoteTo_quiet _ _)
  exact ⟨rfl, fun unverified => absurd unverified (by simp)⟩

theorem Path.onPathRespReceived_quiet (path : Path) (data : ChallengeData) (multipath : Bool) :
    path.QuietTo (path.onPathRespReceived data multipath).2 := by
  unfold Path.onPathRespReceived
  split
  · exact .refl path
  have noted := path.noteResponse_quiet data
  dsimp only
  split
  · exact noted.trans ((Path.promoteTo_quiet _ _).trans ⟨rfl, id⟩)
  · exact noted.trans ⟨rfl, id⟩

private theorem Path.onPathChalSent_quiet (path : Path) (data : ChallengeData) (pktSize : Nat)
    (sentTime : Instant) : path.QuietTo (path.onPathChalSent data pktSize sentTime) :=
  (Path.promoteTo_quiet path .validating).trans ⟨rfl, id⟩

private theorem Path.dropLostChals_quiet (now : Instant) (sent : List SentChallenge) (path : Path) :
    path.QuietTo (Path.dropLostChals now sent path) := by
  induction sent generalizing path with
  | nil => exact ⟨rfl, id⟩
  | cons first rest ih =>
    unfold Path.dropLostChals
    split_ifs
    · exact ⟨rfl, id⟩
    · exact Path.QuietTo.trans ⟨rfl, id⟩ (ih _)
    · exact ⟨rfl, id⟩

namespace PathMap

theorem Quiet.refl (map : PathMap) : Quiet map map :=
  ⟨rfl, rfl, fun _ path present => ⟨path, present, .refl path⟩⟩

theorem Quiet.set {map : PathMap} {pid : Nat} {old path : Path} (present : map.get pid = some old)
    (quiet : old.QuietTo path) : Quiet map (map.set pid path) := by
  refine ⟨rfl, rfl, fun other found stored => ?_⟩
  rcases PathMap.get_set stored with ⟨rfl, rfl⟩ | ⟨_, kept⟩
  · exact ⟨old, present, quiet⟩
  · exact ⟨found, kept, .refl found⟩

theorem Quiet.modify {map : PathMap} (pid : Nat) {change : Path → Path}
    (quiet : ∀ path : Path, path.QuietTo (change path)) : Quiet map (map.modify pid change) := by
  refine ⟨rfl, rfl, fun other found stored => ?_⟩
  obtain ⟨old, kept, rfl⟩ := PathMap.get_modify stored
  refine ⟨old, kept, ?_⟩
  split
  · exact quiet old
  · exact .refl old

theorem Quiet.onPathRespReceived (map : PathMap) (pid : Nat) (data : ChallengeData) :
    Quiet map (map.onPathRespReceived pid data).2 := by
  unfold PathMap.onPathRespReceived
  cases present : map.get pid with
  | none => exact .refl map
  | some path => exact .set present (path.onPathRespReceived_quiet data map.isMultipath)

theorem Quiet.onPathChalSent (map : PathMap) (pid : Nat) (data : ChallengeData) (pktSize : Nat)
    (sentTime : Instant) :
    Quiet map ((map.onPathChalSent pid data pktSize sentTime).toOption.getD map) := by
  unfold PathMap.onPathChalSent
  cases present : map.get pid with
  | none => exact .refl map
  | some path => exact .set present (path.onPathChalSent_quiet data pktSize sentTime)

theorem Quiet.onPathChalTimeout (map : PathMap) (now : Instant) :
    Quiet map (map.onPathChalTimeout now) := by
  refine ⟨rfl, rfl, fun pid found stored => ?_⟩
  simp only [PathMap.get, PathMap.onPathChalTimeout, List.getElem?_map,
    Option.map_eq_some_iff] at stored
  obtain ⟨old, present, rfl⟩ := stored
  refine ⟨old, present, ?_⟩
  unfold Path.onPathChalTimeout
  split
  · exact .refl old
  · exact Path.dropLostChals_quiet now old.sentChals old

private theorem insertPath_keeps {map next : PathMap} {path : Path} {pid : Nat}
    (inserted : map.insertPath path = .ok (pid, next)) :
    next.isServer = map.isServer ∧ next.antiAmplFactor = map.antiAmplFactor := by
  unfold insertPath at inserted
  split at inserted
  · split at inserted
    · cases inserted
    · cases inserted
      exact ⟨rfl, rfl⟩
  · cases inserted
    exact ⟨rfl, rfl⟩

end PathMap

/-! ## The path of a packet -/

namespace CidPaths

private theorem usePath_quiet (conn : CidPaths) (recvPid cidSeq : Nat) (dcid : ConnectionId) :
    conn.paths.Quiet (conn.usePath recvPid cidSeq dcid).2.paths := by
  unfold usePath
  cases present : conn.paths.get recvPid with
  | none => exact .refl _
  | some path =>
    have moved : conn.paths.Quiet
        (conn.paths.set recvPid { path with scidSeq := some cidSeq }) := .set present ⟨rfl, id⟩
    dsimp only
    split
    · split
      · exact moved
      · exact moved
    · exact .refl _

theorem markScidUsed_of_findScid {mgr : ConnectionIdMgr} {dcid : ConnectionId} {cidSeq : Nat}
    {cidPid : Option Nat} (found : mgr.findScid dcid = some (cidSeq, cidPid)) (pid : Nat) :
    ∃ marked, mgr.markScidUsed cidSeq pid = .ok marked := by
  obtain ⟨item, first, same⟩ := Option.map_eq_some_iff.mp found
  cases same
  obtain ⟨queue, marked⟩ := @ConnectionIdMgr.markUsed_isSome item.seq pid mgr.scids.queue
    ⟨item, List.mem_of_find?_eq_some first, rfl⟩
  exact ⟨_, by rw [ConnectionIdMgr.markScidUsed, marked]⟩

/-- A new path starts with at most the credit of the datagram that it was made for. -/
theorem getOrCreatePath_new (conn : CidPaths) (dcid : ConnectionId)
    (localAddr remoteAddr : SocketAddr) (bufLen : Nat) :
    (∃ error, conn.getOrCreatePath none dcid localAddr remoteAddr bufLen = (.error error, conn)) ∨
      ∃ path pid next, conn.paths.insertPath path = .ok (pid, next.paths) ∧
        conn.getOrCreatePath none dcid localAddr remoteAddr bufLen = (.ok pid, next) ∧
        path.antiAmplLimit ≤ bufLen * conn.paths.antiAmplFactor := by
  unfold getOrCreatePath
  cases found : conn.cids.findScid dcid with
  | none => exact .inl ⟨_, rfl⟩
  | some entry =>
    obtain ⟨cidSeq, cidPid⟩ := entry
    dsimp only
    split
    · exact .inl ⟨_, rfl⟩
    · next pid paths inserted =>
        have limit : (if conn.config.isServer then bufLen * conn.paths.antiAmplFactor else 0) ≤
            bufLen * conn.paths.antiAmplFactor := by
          split
          · exact Nat.le_refl _
          · exact Nat.zero_le _
        split
        · obtain ⟨cids, marked⟩ := markScidUsed_of_findScid found pid
          rw [marked]
          exact .inr ⟨_, pid, { conn with cids, paths }, inserted, rfl, limit⟩
        · exact .inr ⟨_, pid, { conn with paths }, inserted, rfl, limit⟩

end CidPaths

/-! ## The credit of a path -/

theorem PathMap.get_updateLimit {map : PathMap} (server : map.isServer = true) {pid other : Nat}
    {change : Nat → Nat} {found : Path}
    (present : (map.updateLimit pid change).get other = some found) :
    ∃ old, map.get other = some old ∧ found.verifiedPeerAddress = old.verifiedPeerAddress ∧
      (old.verifiedPeerAddress = false →
        found.antiAmplLimit = if other = pid then change old.antiAmplLimit else old.antiAmplLimit) := by
  unfold PathMap.updateLimit at present
  simp only [server, Bool.not_true, Bool.false_eq_true, if_false] at present
  obtain ⟨old, stored, rfl⟩ := PathMap.get_modify present
  refine ⟨old, stored, ?_⟩
  by_cases same : other = pid
  · rw [if_pos same, if_pos same]
    split
    · next verified => exact ⟨rfl, fun unverified => absurd (verified.symm.trans unverified) (by decide)⟩
    · exact ⟨rfl, fun _ => rfl⟩
  · rw [if_neg same, if_neg same]
    exact ⟨rfl, fun _ => rfl⟩

theorem PathMap.updateLimit_keeps (map : PathMap) (pid : Nat) (change : Nat → Nat) :
    (map.updateLimit pid change).isServer = map.isServer ∧
      (map.updateLimit pid change).antiAmplFactor = map.antiAmplFactor := by
  unfold PathMap.updateLimit
  split <;> exact ⟨rfl, rfl⟩

namespace Exchange

/-- Bytes written for a path that `send` has not returned yet. -/
def unsent (exchange : Exchange) (pid : Nat) : Nat :=
  match exchange.sending with
  | none => 0
  | some call => if call.pid = pid then call.done else 0

/-- The limit of an unverified path and the bytes spent on it come from what was received. -/
structure Charged (factor : Nat) (exchange : Exchange) : Prop where
  server : exchange.conn.paths.isServer = true
  configured : exchange.conn.paths.antiAmplFactor = factor
  earned : ∀ pid path, exchange.conn.paths.get pid = some path →
    path.verifiedPeerAddress = false →
    path.antiAmplLimit + exchange.unsent pid + exchange.sent pid ≤ factor * exchange.received pid
  room : ∀ call, exchange.sending = some call → ∀ path,
    exchange.conn.paths.get call.pid = some path → path.verifiedPeerAddress = false →
    call.left ≤ path.antiAmplLimit
  calls : ∀ call ∈ exchange.calls, call.left ≤ call.len

variable {factor : Nat} {exchange next : Exchange}

theorem Charged.quiet (charged : Charged factor exchange)
    (paths : exchange.conn.paths.Quiet next.conn.paths) (sending : next.sending = exchange.sending)
    (received : next.received = exchange.received) (sent : next.sent = exchange.sent)
    (calls : ∀ call ∈ next.calls, call.left ≤ call.len) : Charged factor next := by
  refine ⟨paths.isServer.trans charged.server, paths.factor.trans charged.configured, ?_, ?_, calls⟩
  · intro pid path present unverified
    obtain ⟨old, stored, limit, before⟩ := paths.paths pid path present
    have earned := charged.earned pid old stored (before unverified)
    rw [limit, received, sent]
    simpa only [unsent, sending] using earned
  · intro call busy path present unverified
    obtain ⟨old, stored, limit, before⟩ := paths.paths call.pid path present
    rw [limit]
    exact charged.room call (sending ▸ busy) old stored (before unverified)

theorem unsent_idle (idle : exchange.sending = none) (pid : Nat) : exchange.unsent pid = 0 := by
  rw [unsent, idle]

/-- Between two calls of `send` nothing is unsent. -/
theorem Charged.of_idle (server : exchange.conn.paths.isServer = true)
    (configured : exchange.conn.paths.antiAmplFactor = factor) (idle : exchange.sending = none)
    (earned : ∀ pid path, exchange.conn.paths.get pid = some path →
      path.verifiedPeerAddress = false →
      path.antiAmplLimit + exchange.sent pid ≤ factor * exchange.received pid)
    (calls : ∀ call ∈ exchange.calls, call.left ≤ call.len) : Charged factor exchange := by
  refine ⟨server, configured, ?_, ?_, calls⟩
  · intro pid path present unverified
    rw [unsent_idle idle]
    exact earned pid path present unverified
  · intro call busy
    exact absurd (busy.symm.trans idle) (by simp)

theorem Charged.idle (charged : Charged factor exchange) (idle : exchange.sending = none)
    {pid : Nat} {path : Path} (present : exchange.conn.paths.get pid = some path)
    (unverified : path.verifiedPeerAddress = false) :
    path.antiAmplLimit + exchange.sent pid ≤ factor * exchange.received pid := by
  have earned := charged.earned pid path present unverified
  rwa [unsent_idle idle, Nat.add_zero] at earned

variable {outer : List RecvCall} {call : RecvCall}

theorem calls_cons (fits : call.left ≤ call.len) (rest : ∀ call ∈ outer, call.left ≤ call.len) :
    ∀ other ∈ call :: outer, other.left ≤ other.len := by
  intro other member
  rcases List.mem_cons.mp member with rfl | later
  · exact fits
  · exact rest other later

private theorem earned_inc (charged : Charged factor exchange) {pid len other : Nat} {path : Path}
    (present : (exchange.conn.paths.incAntiAmplLimit pid len).get other = some path)
    (unverified : path.verifiedPeerAddress = false) :
    ∃ old, exchange.conn.paths.get other = some old ∧ old.verifiedPeerAddress = false ∧
      path.antiAmplLimit ≤ old.antiAmplLimit + if other = pid then factor * len else 0 := by
  obtain ⟨old, stored, same, limit⟩ := PathMap.get_updateLimit charged.server present
  refine ⟨old, stored, same ▸ unverified, ?_⟩
  rw [limit (same ▸ unverified)]
  by_cases here : other = pid
  · rw [if_pos here, if_pos here, charged.configured]
    exact Nat.le_trans (Nat.min_le_left _ _) (Nat.add_le_add_left (Nat.min_le_left _ _) _)
  · simp [here]

/-- Credit for a datagram keeps the account when the bytes of the datagram are counted. -/
theorem Charged.credit (charged : Charged factor exchange) (idle : exchange.sending = none)
    {pid len : Nat} (paths : next.conn.paths = exchange.conn.paths.incAntiAmplLimit pid len)
    (sending : next.sending = none) (sent : next.sent = exchange.sent)
    (received : ∀ other old, exchange.conn.paths.get other = some old →
      old.verifiedPeerAddress = false →
      factor * exchange.received other + (if other = pid then factor * len else 0) ≤
        factor * next.received other)
    (calls : ∀ call ∈ next.calls, call.left ≤ call.len) : Charged factor next := by
  obtain ⟨isServer, sameFactor⟩ := PathMap.updateLimit_keeps exchange.conn.paths pid
    (fun limit => PathMap.saturatingAdd limit
      (PathMap.saturatingMul exchange.conn.paths.antiAmplFactor len))
  refine .of_idle ?_ ?_ sending ?_ calls
  · rw [paths]
    exact isServer.trans charged.server
  · rw [paths]
    exact sameFactor.trans charged.configured
  · intro other path present unverified
    rw [paths] at present
    obtain ⟨old, stored, before, limit⟩ := earned_inc charged present unverified
    have earned := charged.idle idle stored before
    have counted := received other old stored before
    rw [sent]
    omega

variable {addrs : SocketAddr × SocketAddr}

theorem paths_beginRecv {pid : Nat}
    (known : exchange.conn.paths.getPathId addrs = some pid) (len : Nat) :
    (exchange.beginRecv addrs len).conn.paths = exchange.conn.paths.incAntiAmplLimit pid len := by
  simp only [beginRecv, withPaths, known]

theorem Charged.beginRecv_new (charged : Charged factor exchange)
    (unknown : exchange.conn.paths.getPathId addrs = none)
    (len : Nat) : Charged factor (exchange.beginRecv addrs len) := by
  refine charged.quiet ?_ rfl rfl rfl (calls_cons (Nat.le_refl _) charged.calls)
  simp only [beginRecv, withPaths, unknown]
  exact .refl _

private theorem recv_charged (charged : Charged factor exchange) (idle : exchange.sending = none)
    (addrs : SocketAddr × SocketAddr) (len : Nat) : Charged factor (exchange.recv addrs len) := by
  unfold recv
  cases known : exchange.conn.paths.getPathId addrs with
  | none =>
    dsimp only
    split
    · exact charged.beginRecv_new known len
    · exact charged
  | some pid =>
    refine charged.credit idle (paths_beginRecv known len) idle rfl ?_
      (calls_cons (Nat.le_refl _) charged.calls)
    intro other old stored unverified
    dsimp only
    by_cases here : other = pid
    · subst here
      rw [Function.update_self, if_pos rfl, Nat.mul_add]
    · rw [Function.update_of_ne here, if_neg here]
      exact Nat.le_refl _

def unverified (exchange : Exchange) (pid : Nat) : Bool :=
  (exchange.conn.paths.get pid).any (fun path => !path.verifiedPeerAddress)

private theorem not_unverified {pid : Nat} {path : Path} (trusted : exchange.unverified pid = false)
    (present : exchange.conn.paths.get pid = some path) : path.verifiedPeerAddress = true := by
  simpa [unverified, present] using trusted

section

variable (charged : Charged factor exchange)

include charged

/-- A packet that is received once more earns nothing on a verified path. -/
theorem replay_charged (idle : exchange.sending = none)
    {len : Nat} (trusted : ∀ pid, exchange.conn.paths.getPathId addrs = some pid →
      exchange.unverified pid = false) : Charged factor (exchange.beginRecv addrs len) := by
  cases known : exchange.conn.paths.getPathId addrs with
  | none => exact charged.beginRecv_new known len
  | some pid =>
    refine charged.credit idle (paths_beginRecv known len) idle rfl ?_
      (calls_cons (Nat.le_refl _) charged.calls)
    intro other old stored before
    have elsewhere : other ≠ pid := by
      rintro rfl
      exact absurd before (by rw [not_unverified (trusted other known) stored]; decide)
    rw [if_neg elsewhere]
    exact Nat.le_refl _

private theorem locate_charged (idle : exchange.sending = none)
    (fits : call.left ≤ call.len) {pktType : PacketType} {dcid : ConnectionId}
    {result : Except Error Nat} {conn : CidPaths}
    (located : exchange.locate call pktType dcid = (result, conn)) :
    (∀ error, result = .error error → Charged factor { exchange with conn }) ∧
      ∀ pid, result = .ok pid →
        Charged factor { exchange.countNew call pktType pid with conn } := by
  unfold locate at located
  by_cases created : pktType = .oneRtt ∧ exchange.conn.handshakeCompleted = true
  · rw [if_pos created] at located
    cases known : call.pid with
    | none =>
      rw [known] at located
      rcases CidPaths.getOrCreatePath_new exchange.conn dcid call.addrs.1 call.addrs.2 call.left
        with ⟨error, same⟩ | ⟨path, pid, next, inserted, same, limit⟩
      · cases same.symm.trans located
        exact ⟨fun _ _ => charged, fun _ impossible => by cases impossible⟩
      · cases same.symm.trans located
        refine ⟨fun _ impossible => (by cases impossible), fun found equal => ?_⟩
        cases equal
        obtain ⟨isServer, sameFactor⟩ := PathMap.insertPath_keeps inserted
        have counted : exchange.countNew call pktType pid =
            { exchange with
              received := Function.update exchange.received pid call.len
              sent := Function.update exchange.sent pid 0 } := by
          unfold countNew
          rw [if_pos ⟨created.1, created.2, known⟩]
        rw [counted]
        refine .of_idle (isServer.trans charged.server) (sameFactor.trans charged.configured) idle
          ?_ charged.calls
        intro other found present unverified
        dsimp only at present ⊢
        rcases PathMap.get_insertPath inserted present with ⟨rfl, rfl⟩ | ⟨different, stored⟩
        · rw [Function.update_self, Function.update_self, Nat.add_zero]
          rw [charged.configured] at limit
          calc found.antiAmplLimit ≤ call.left * factor := limit
            _ ≤ call.len * factor := Nat.mul_le_mul_right factor fits
            _ = factor * call.len := Nat.mul_comm _ _
        · rw [Function.update_of_ne different, Function.update_of_ne different]
          exact charged.idle idle stored unverified
    | some recvPid =>
      have counted : ∀ pid, exchange.countNew call pktType pid = exchange := by
        intro pid
        unfold countNew
        rw [if_neg (by simp [known])]
      have quiet : exchange.conn.paths.Quiet conn.paths := by
        rw [known] at located
        have second := congrArg Prod.snd located
        unfold CidPaths.getOrCreatePath at second
        cases found : exchange.conn.cids.findScid dcid with
        | none =>
          simp only [found] at second
          rw [← second]
          exact .refl _
        | some entry =>
          simp only [found] at second
          rw [← second]
          exact CidPaths.usePath_quiet exchange.conn recvPid entry.1 dcid
      refine ⟨fun _ _ => charged.quiet quiet rfl rfl rfl charged.calls, fun pid _ => ?_⟩
      rw [counted]
      exact charged.quiet quiet rfl rfl rfl charged.calls
  · rw [if_neg created] at located
    cases located
    refine ⟨fun _ _ => charged, fun pid _ => ?_⟩
    have counted : exchange.countNew call pktType pid = exchange := by
      unfold countNew
      rw [if_neg (fun all => created ⟨all.1, all.2.1⟩)]
    rw [counted]
    exact charged

theorem Charged.withCalls {calls : List RecvCall}
    (fit : ∀ call ∈ calls, call.left ≤ call.len) : Charged factor { exchange with calls } :=
  charged.quiet (.refl _) rfl rfl rfl fit

theorem bufferPacket_charged (pktType : PacketType) (addrs : SocketAddr × SocketAddr) (size : Nat) :
    Charged factor (exchange.bufferPacket pktType addrs size) := by
  unfold bufferPacket
  dsimp only
  generalize (if exchange.conn.config.isServer then PacketType.zeroRtt else .handshake) = early
  split
  · exact charged
  · exact charged.quiet (.refl _) rfl rfl rfl charged.calls

theorem recvPacket_charged (idle : exchange.sending = none) (busy : exchange.calls = call :: outer)
    (pktType : PacketType) (dcid : ConnectionId) (length : Nat) :
    Charged factor (exchange.recvPacket call outer pktType dcid length) := by
  have fits : call.left ≤ call.len := charged.calls call (busy ▸ List.mem_cons_self)
  have rest : ∀ other ∈ outer, other.left ≤ other.len := fun other member =>
    charged.calls other (busy ▸ List.mem_cons_of_mem _ member)
  unfold recvPacket
  cases located : exchange.locate call pktType dcid with
  | mk result conn =>
    obtain ⟨refused, accepted⟩ := locate_charged charged idle fits located
    cases result with
    | error error =>
      have after := refused error rfl
      split
      · next same =>
          cases same
          exact after.withCalls (calls_cons (Nat.zero_le _) rest)
      · next same =>
          cases same
          exact after.quiet (.refl _) rfl rfl rfl rest
      · next same => cases same
    | ok pid =>
      have after := accepted pid rfl
      dsimp only
      generalize (if pktType = .oneRtt then call.left else length) = size
      split
      · exact after.withCalls (calls_cons (Nat.zero_le _) rest)
      split
      · exact after.withCalls (calls_cons fits rest)
      · exact (bufferPacket_charged after pktType call.addrs size).withCalls
          (calls_cons (Nat.le_trans (Nat.sub_le _ _) fits) rest)

private theorem finishPacket_charged (busy : exchange.calls = call :: outer) (pktType : PacketType)
    (pid size : Nat) : Charged factor (exchange.finishPacket call outer pktType pid size) := by
  have fits : call.left ≤ call.len := charged.calls call (busy ▸ List.mem_cons_self)
  have rest : ∀ other ∈ outer, other.left ≤ other.len := fun other member =>
    charged.calls other (busy ▸ List.mem_cons_of_mem _ member)
  refine charged.quiet ?_ rfl rfl rfl (calls_cons (Nat.le_trans (Nat.sub_le _ _) fits) rest)
  unfold finishPacket withPaths
  dsimp only
  split
  · exact .modify pid fun path => ⟨rfl, fun unverified => absurd unverified (by simp)⟩
  · exact .refl _

theorem beginSend_charged (idle : exchange.sending = none) (pid outLen maxDatagramSize : Nat) :
    Charged factor (exchange.beginSend pid outLen maxDatagramSize) := by
  refine ⟨charged.server, charged.configured, ?_, ?_, charged.calls⟩
  · intro other path present unverified
    have nothing : (exchange.beginSend pid outLen maxDatagramSize).unsent other = 0 := by
      simp [unsent, beginSend]
    rw [nothing]
    exact charged.idle idle present unverified
  · intro call started path present unverified
    cases started
    change exchange.conn.paths.get pid = some path at present
    change exchange.conn.paths.cmpAntiAmplLimit pid _ ≤ _
    unfold PathMap.cmpAntiAmplLimit
    simp only [charged.server, Bool.not_true, Bool.false_eq_true, if_false, present, unverified]
    exact Nat.min_le_right _ _

end

private theorem packetSize_le {call : SendCall} {pkt : PacketOut} {written : Nat}
    (sized : exchange.packetSize call pkt = some written) (ordinary : pkt.pmtuProbe = none) :
    written ≤ call.left := by
  unfold packetSize at sized
  split at sized
  · cases sized
  · simp only [ordinary] at sized
    split at sized
    · cases sized
      omega
    · cases sized

private theorem sendPacket_charged (charged : Charged factor exchange) {call : SendCall}
    (busy : exchange.sending = some call) {pkt : PacketOut} {written : Nat}
    (sized : exchange.packetSize call pkt = some written)
    (ordinary : exchange.unverified call.pid = true → pkt.pmtuProbe = none) :
    Charged factor (exchange.sendPacket call pkt written) := by
  -- Both the challenge and the charge leave the other paths alone.
  obtain ⟨challenged, quiet, paths⟩ : ∃ challenged, exchange.conn.paths.Quiet challenged ∧
      (exchange.sendPacket call pkt written).conn.paths =
        challenged.decAntiAmplLimit call.pid written := by
    unfold sendPacket withPaths
    cases pkt.challenge with
    | none => exact ⟨_, .refl _, rfl⟩
    | some challenge =>
      exact ⟨_, .onPathChalSent exchange.conn.paths call.pid challenge.1 written challenge.2, rfl⟩
  have server := quiet.isServer.trans charged.server
  obtain ⟨isServer, sameFactor⟩ := PathMap.updateLimit_keeps challenged call.pid (· - written)
  have spent : ∀ pid path, (exchange.sendPacket call pkt written).conn.paths.get pid = some path →
      path.verifiedPeerAddress = false →
      ∃ old, exchange.conn.paths.get pid = some old ∧ old.verifiedPeerAddress = false ∧
        path.antiAmplLimit =
          if pid = call.pid then old.antiAmplLimit - written else old.antiAmplLimit := by
    intro pid path present unverified
    rw [paths] at present
    obtain ⟨middle, stored, same, limit⟩ := PathMap.get_updateLimit server present
    obtain ⟨old, before, kept, trusted⟩ := quiet.paths pid middle stored
    have untrusted : middle.verifiedPeerAddress = false := same ▸ unverified
    refine ⟨old, before, trusted untrusted, ?_⟩
    rw [limit untrusted, kept]
  have fits : ∀ old, exchange.conn.paths.get call.pid = some old →
      old.verifiedPeerAddress = false → written ≤ call.left ∧ call.left ≤ old.antiAmplLimit := by
    intro old stored untrusted
    refine ⟨packetSize_le sized (ordinary ?_), charged.room call busy old stored untrusted⟩
    simp [unverified, stored, untrusted]
  refine ⟨?_, ?_, ?_, ?_, charged.calls⟩
  · rw [paths]
    exact isServer.trans server
  · rw [paths]
    exact (sameFactor.trans quiet.factor).trans charged.configured
  · intro pid path present unverified
    obtain ⟨old, stored, untrusted, limit⟩ := spent pid path present unverified
    have earned := charged.earned pid old stored untrusted
    simp only [unsent, busy] at earned
    simp only [unsent, sendPacket]
    change _ + _ + exchange.sent pid ≤ factor * exchange.received pid
    by_cases here : call.pid = pid
    · subst here
      obtain ⟨small, room⟩ := fits old stored untrusted
      rw [if_pos rfl] at limit earned ⊢
      omega
    · rw [if_neg here] at earned ⊢
      rw [if_neg (Ne.symm here)] at limit
      omega
  · intro after started path present unverified
    cases started
    obtain ⟨old, stored, untrusted, limit⟩ := spent call.pid path present unverified
    obtain ⟨small, room⟩ := fits old stored untrusted
    rw [if_pos rfl] at limit
    dsimp only
    omega

private theorem finishSend_charged (charged : Charged factor exchange) {call : SendCall}
    (busy : exchange.sending = some call)
    (unpadded : exchange.unverified call.pid = true → call.padLen = 0) :
    Charged factor (exchange.finishSend call) := by
  have before : ∀ pid path, exchange.conn.paths.get pid = some path →
      path.verifiedPeerAddress = false →
      path.antiAmplLimit + (if call.pid = pid then call.done else 0) + exchange.sent pid ≤
        factor * exchange.received pid := by
    intro pid path present unverified
    have earned := charged.earned pid path present unverified
    simpa only [unsent, busy] using earned
  unfold finishSend
  split
  · refine .of_idle charged.server charged.configured rfl ?_ charged.calls
    intro pid path present unverified
    have earned := before pid path present unverified
    change path.antiAmplLimit + exchange.sent pid ≤ factor * exchange.received pid
    omega
  · refine .of_idle charged.server charged.configured rfl ?_ charged.calls
    intro pid path present untrusted
    have earned := before pid path present untrusted
    change path.antiAmplLimit + Function.update exchange.sent call.pid _ pid ≤
      factor * exchange.received pid
    by_cases here : call.pid = pid
    · subst here
      have none : call.padLen = 0 := by
        refine unpadded ?_
        change exchange.conn.paths.get call.pid = some path at present
        simp [unverified, present, untrusted]
      rw [Function.update_self, none]
      rw [if_pos rfl] at earned
      omega
    · rw [Function.update_of_ne (Ne.symm here)]
      rw [if_neg here] at earned
      omega

/-! ## Runs -/

/-- On a path that is not verified, no buffered packet is received once more, no PMTU probe is
sent and no datagram is padded. -/
def isRegular (exchange : Exchange) : Op → Bool
  | .replay pktType =>
    (exchange.undecryptable.pop pktType).all (fun popped =>
      (exchange.conn.paths.getPathId popped.1.1).all (fun pid => !exchange.unverified pid))
  | .sendPacket pkt =>
    exchange.sending.all (fun call => !exchange.unverified call.pid || pkt.pmtuProbe.isNone)
  | .finishSend =>
    exchange.sending.all (fun call => !exchange.unverified call.pid || call.padLen = 0)
  | _ => true

def Regular (exchange : Exchange) (op : Op) : Prop := exchange.isRegular op = true

section

variable (charged : Charged factor exchange)

include charged

private theorem stepSend_charged {call : SendCall}
    (busy : exchange.sending = some call) {op : Op} (regular : Regular exchange op)
    (stepped : exchange.stepSend call op = some next) : Charged factor next := by
  unfold Regular at regular
  cases op with
  | sendPacket pkt =>
    simp only [isRegular, busy, Option.all_some] at regular
    simp only [stepSend] at stepped
    split at stepped
    · cases stepped
    · obtain ⟨written, sized, rfl⟩ := Option.map_eq_some_iff.mp stepped
      refine sendPacket_charged charged busy sized fun untrusted => ?_
      simpa [untrusted] using regular
  | finishSend =>
    simp only [isRegular, busy, Option.all_some] at regular
    cases stepped
    refine finishSend_charged charged busy fun untrusted => ?_
    simpa [untrusted] using regular
  | abortSend =>
    cases stepped
    refine .of_idle charged.server charged.configured rfl ?_ charged.calls
    intro pid path present unverified
    have earned := charged.earned pid path present unverified
    change path.antiAmplLimit + exchange.sent pid ≤ factor * exchange.received pid
    omega
  | _ => cases stepped

theorem stepAny_charged {op : Op}
    (stepped : exchange.stepAny op = some next) : Charged factor next := by
  cases op with
  | dropKeys pktType =>
    cases stepped
    exact charged.quiet (.refl _) rfl rfl rfl charged.calls
  | chalTimeout now =>
    cases stepped
    exact charged.quiet (.onPathChalTimeout _ now) rfl rfl rfl charged.calls
  | assignDcid pid dcidSeq =>
    cases stepped
    exact charged.quiet (.modify pid fun path => ⟨rfl, id⟩) rfl rfl rfl charged.calls
  | addScid cid resetToken retireIfNeeded =>
    cases stepped
    exact charged.quiet (.refl _) rfl rfl rfl charged.calls
  | retireScid seq pktDcid =>
    cases stepped
    exact charged.quiet (.refl _) rfl rfl rfl charged.calls
  | enableMultipath =>
    cases stepped
    exact charged.quiet ⟨rfl, rfl, fun _ path present => ⟨path, present, .refl path⟩⟩ rfl rfl rfl
      charged.calls
  | close =>
    cases stepped
    exact charged.quiet (.refl _) rfl rfl rfl charged.calls
  | _ => cases stepped

private theorem stepCall_charged (idle : exchange.sending = none)
    (busy : exchange.calls = call :: outer) {op : Op}
    (regular : Regular exchange op) (stepped : exchange.stepCall call outer op = some next) :
    Charged factor next := by
  have rest : ∀ other ∈ outer, other.left ≤ other.len := fun other member =>
    charged.calls other (busy ▸ List.mem_cons_of_mem _ member)
  cases op with
  | skip =>
    cases stepped
    exact charged.withCalls (calls_cons (Nat.zero_le _) rest)
  | packet pktType dcid length =>
    simp only [stepCall] at stepped
    split at stepped
    · cases stepped
    · cases stepped
      exact recvPacket_charged charged idle busy pktType dcid length
  | pathChallenge data =>
    obtain ⟨packet, _, rfl⟩ := Option.map_eq_some_iff.mp stepped
    exact charged.quiet (.modify _ fun path => ⟨rfl, id⟩) rfl rfl rfl charged.calls
  | pathResponse data =>
    obtain ⟨packet, _, rfl⟩ := Option.map_eq_some_iff.mp stepped
    exact charged.quiet (.onPathRespReceived _ packet.2.1 data) rfl rfl rfl charged.calls
  | completeHandshake =>
    obtain ⟨_, _, rfl⟩ := Option.map_eq_some_iff.mp stepped
    exact charged.quiet (.refl _) rfl rfl rfl charged.calls
  | installKeys pktType =>
    obtain ⟨_, _, rfl⟩ := Option.map_eq_some_iff.mp stepped
    exact charged.quiet (.refl _) rfl rfl rfl charged.calls
  | finishPacket =>
    obtain ⟨packet, _, rfl⟩ := Option.map_eq_some_iff.mp stepped
    exact finishPacket_charged charged busy packet.1 packet.2.1 packet.2.2
  | failPacket =>
    cases stepped
    exact charged.quiet (.refl _) rfl rfl rfl rest
  | replay pktType =>
    simp only [Regular, isRegular] at regular
    simp only [stepCall] at stepped
    cases popped : exchange.undecryptable.pop pktType with
    | none => simp [popped] at stepped
    | some entry =>
      obtain ⟨⟨addrs, len⟩, undecryptable⟩ := entry
      simp only [popped, Option.all_some] at regular stepped
      split at stepped
      · cases stepped
        have same : Charged factor { exchange with undecryptable } :=
          charged.quiet (.refl _) rfl rfl rfl charged.calls
        refine replay_charged same idle fun pid known => ?_
        change exchange.conn.paths.getPathId addrs = some pid at known
        change exchange.unverified pid = false
        simpa [known] using regular
      · cases stepped
  | endRecv =>
    obtain ⟨_, moved⟩ := Option.ite_none_right_eq_some.mp stepped
    cases moved
    exact charged.withCalls rest
  | _ => cases stepped

private theorem step_charged {op : Op} (regular : Regular exchange op)
    (stepped : step exchange op = some next) : Charged factor next := by
  unfold step at stepped
  split at stepped
  · next busy => exact stepSend_charged charged busy regular stepped
  · next idle _ =>
      obtain ⟨_, moved⟩ := Option.ite_none_right_eq_some.mp stepped
      cases moved
      exact recv_charged charged idle _ _
  · next idle _ =>
      split at stepped
      · cases stepped
      · cases stepped
        exact beginSend_charged charged idle _ _ _
  · next idle busy =>
      split at stepped
      · next moved =>
          cases stepped
          exact stepCall_charged charged idle busy regular moved
      · exact stepAny_charged charged stepped
  · exact stepAny_charged charged stepped

end

section Runs

variable {config : CidConfig} {localAddr remoteAddr : SocketAddr} {addrToken : Bool}
  {initialScid dcid : ConnectionId} {scidToken dcidToken : Option ResetToken}
  {maxUndecryptablePackets : Nat}

private theorem start_charged (server : config.isServer = true) :
    Charged config.antiAmplFactor
      (start (.start config localAddr remoteAddr addrToken initialScid scidToken dcid dcidToken)
        maxUndecryptablePackets) := by
  refine .of_idle server rfl rfl ?_ (fun call member => absurd member List.not_mem_nil)
  intro pid path present unverified
  cases pid with
  | succ pid => simp [start, CidPaths.start, PathMap.new, PathMap.get] at present
  | zero =>
    simp only [start, CidPaths.start, PathMap.new, PathMap.get, List.getElem?_cons_zero,
      Option.some.injEq] at present
    subst present
    simp only [Path.initial, server, if_true]
    exact Nat.zero_le _

/-- In every run of a server that pads no datagram, sends no PMTU probe and replays no packet
on an unverified path, what it sends there stays below the configured multiple of what it
received there. -/
theorem unverified_path_limited (server : config.isServer = true) (reached : Run step Regular
      (start (.start config localAddr remoteAddr addrToken initialScid scidToken dcid dcidToken)
        maxUndecryptablePackets) exchange)
    {pid : Nat} {path : Path} (present : exchange.conn.paths.get pid = some path)
    (unverified : path.verifiedPeerAddress = false) :
    exchange.sent pid ≤ config.antiAmplFactor * exchange.received pid := by
  have charged := reached.invariant
    (fun _ _ _ charged regular stepped => step_charged charged regular stepped)
    (start_charged server)
  have earned := charged.earned pid path present unverified
  omega

end Runs

def serverStart : Exchange :=
  start (.start (.default true) (.localhost 443) (.localhost 5000) false (.new [7]) (some 1) (.new [8]) none)
    10

def firstFlight : List Op :=
  [.recv (.localhost 443, .localhost 5000) 1200, .packet .initial (.new [7]) 1200,
    .installKeys .handshake, .finishPacket, .endRecv]

def initialProbe : List Op :=
  [.beginSend 0 1500 1200,
    .sendPacket
      { pktType := .initial, hdrLen := 20, pktNumLen := 1, cryptoOverhead := 16, payloadLen := 61
        pmtuProbe := none, challenge := none },
    .finishSend]

/-- Four Initial packets of 100 bytes are sent, each in a datagram of 1200 bytes; only the
packets are charged, and 4800 bytes leave for the 1200 that came in. -/
theorem padding_exceeds_limit :
    ¬ ∀ exchange : Exchange, Run step anyStep serverStart exchange →
      ∀ pid path, exchange.conn.paths.get pid = some path → path.verifiedPeerAddress = false →
        exchange.sent pid ≤ 3 * exchange.received pid := by
  intro always
  have reached := Run.of_exec
    (show exec step serverStart
      (firstFlight ++ initialProbe ++ initialProbe ++ initialProbe ++ initialProbe) = some _ from rfl)
  exact absurd (always _ reached 0 _ rfl rfl) (by decide)

/-- A datagram with a full Initial packet needs no padding. -/
theorem full_packet_limited :
    ∃ exchange : Exchange, exchange.sent 0 = 1200 ∧ exchange.received 0 = 1200 ∧
      exchange.sent 0 ≤ (CidConfig.default true).antiAmplFactor * exchange.received 0 := by
  have reached := Run.of_checked (fun _ _ passed => passed) (Run.of_exec
    (show exec (checked isRegular step) serverStart
      (firstFlight ++ [.beginSend 0 1500 1200,
        .sendPacket
          { pktType := .initial, hdrLen := 20, pktNumLen := 1, cryptoOverhead := 16
            payloadLen := 1161, pmtuProbe := none, challenge := none },
        .finishSend]) = some _ from rfl))
  exact ⟨_, by decide, by decide, unverified_path_limited rfl reached rfl rfl⟩

end Exchange

end Tquic.Connection
