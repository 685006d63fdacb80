import Tquic.Connection.RetirementWriter

/-! What the paths and the packet writer of a connection do with its ids: they mark them as used,
announced or retired, and nothing else. -/

set_option autoImplicit false

namespace Tquic.Connection

open Lib

/-- A relation that composes and that marking an id does not leave. -/
structure Bookkeeping (related : ConnectionIdMgr → ConnectionIdMgr → Prop) : Prop where
  refl : ∀ mgr, related mgr mgr
  trans : ∀ {mgr middle next}, related mgr middle → related middle next → related mgr next
  scidUsed : ∀ {mgr next : ConnectionIdMgr} {seq pathId}, mgr.markScidUsed seq pathId = .ok next →
    related mgr next
  dcidUsed : ∀ {mgr next : ConnectionIdMgr} {seq pathId}, mgr.markDcidUsed seq pathId = .ok next →
    related mgr next
  advertised : ∀ (mgr : ConnectionIdMgr) seq advertise,
    related mgr (mgr.markScidToAdvertise seq advertise)
  retired : ∀ (mgr : ConnectionIdMgr) seq retire, related mgr (mgr.markDcidToRetire seq retire)

variable {related : ConnectionIdMgr → ConnectionIdMgr → Prop}

namespace Bookkeeping

open CidPaths

variable {conn : CidPaths}

section

variable (keeps : Bookkeeping related)

include keeps

theorem reassignDcids (retired : List (Nat × Nat))
    (conn : CidPaths) : related conn.cids (CidPaths.reassignDcids retired conn).2.cids := by
  induction retired generalizing conn with
  | nil => exact keeps.refl _
  | cons first rest ih =>
    obtain ⟨dcidSeq, pathId⟩ := first
    unfold CidPaths.reassignDcids
    cases conn.paths.get pathId with
    | none => exact keeps.refl _
    | some path =>
      dsimp only
      split_ifs
      · exact ih conn
      · cases conn.cids.lowestUnusedDcidSeq with
        | none => exact ih (conn.setDcid pathId path none)
        | some seq =>
          dsimp only
          cases marked : conn.cids.markDcidUsed seq pathId with
          | error error => exact keeps.refl _
          | ok cids =>
            have rest := ih { conn.setDcid pathId path (some seq) with cids }
            exact keeps.trans (keeps.dcidUsed marked) rest

theorem recvNewConnectionId (conn : CidPaths)
    (seqNum retirePriorTo : Nat) (connId : ConnectionId) (resetToken : ResetToken) :
    related conn.cids (conn.recvNewConnectionId seqNum retirePriorTo connId resetToken).2.cids ∨
      related (conn.cids.addDcid connId seqNum resetToken retirePriorTo).2
        (conn.recvNewConnectionId seqNum retirePriorTo connId resetToken).2.cids := by
  unfold CidPaths.recvNewConnectionId
  split_ifs
  · exact .inl (keeps.refl _)
  · cases conn.cids.addDcid connId seqNum resetToken retirePriorTo with
    | mk result cids =>
      cases result with
      | error error => exact .inr (keeps.refl _)
      | ok retired => exact .inr (keeps.reassignDcids retired { conn with cids })

theorem allocateCids (pathIds : List Nat) (conn : CidPaths) :
    related conn.cids (CidPaths.allocateCids pathIds conn).cids := by
  induction pathIds generalizing conn with
  | nil => exact keeps.refl _
  | cons pathId rest ih =>
    unfold CidPaths.allocateCids
    cases conn.paths.get pathId with
    | none => exact ih conn
    | some path =>
      dsimp only
      split_ifs
      · exact ih conn
      · exact ih (conn.setDcid pathId path (some 0))
      · cases conn.cids.lowestUnusedDcidSeq with
        | none => exact keeps.refl _
        | some seq =>
          refine keeps.trans ?_ (ih _)
          cases marked : conn.cids.markDcidUsed seq pathId with
          | error error => exact keeps.refl _
          | ok cids => exact keeps.dcidUsed marked

theorem usePath (conn : CidPaths) (recvPid cidSeq : Nat)
    (dcid : ConnectionId) : related conn.cids (conn.usePath recvPid cidSeq dcid).2.cids := by
  unfold CidPaths.usePath
  cases conn.paths.get recvPid with
  | none => exact keeps.refl _
  | some path =>
    dsimp only
    split_ifs
    · cases marked : conn.cids.markScidUsed cidSeq recvPid with
      | error error => exact keeps.refl _
      | ok cids => exact keeps.scidUsed marked
    · exact keeps.refl _

theorem getOrCreatePath (conn : CidPaths) (recvPid : Option Nat)
    (dcid : ConnectionId) (localAddr remoteAddr : SocketAddr) (bufLen : Nat) :
    related conn.cids (conn.getOrCreatePath recvPid dcid localAddr remoteAddr bufLen).2.cids := by
  unfold CidPaths.getOrCreatePath
  cases conn.cids.findScid dcid with
  | none => exact keeps.refl _
  | some known =>
    obtain ⟨cidSeq, cidPid⟩ := known
    cases recvPid with
    | some recvPid => exact keeps.usePath conn recvPid cidSeq dcid
    | none =>
      dsimp only
      split
      · exact keeps.refl _
      · rename_i pathId paths _
        split_ifs
        · cases marked : conn.cids.markScidUsed cidSeq pathId with
          | error error => exact keeps.refl _
          | ok cids => exact keeps.scidUsed marked
        · exact keeps.refl _

theorem addPath (conn : CidPaths) (localAddr remoteAddr : SocketAddr) :
    related conn.cids (conn.addPath localAddr remoteAddr).cids := by
  unfold CidPaths.addPath
  split
  · exact keeps.refl _
  split
  · exact keeps.refl _
  generalize (if conn.cids.zeroLengthDcid = true then some 0
    else conn.cids.lowestUnusedDcidSeq) = dcidSeq
  dsimp only
  split
  · exact keeps.refl _
  · rename_i pathId paths _
    cases dcidSeq with
    | none => exact keeps.refl _
    | some seq =>
      dsimp only
      cases marked : conn.cids.markDcidUsed seq pathId with
      | error error => exact keeps.refl _
      | ok cids => exact keeps.dcidUsed marked

theorem writes {retiring : Bool} {frames : List CidFrame} {after : CidPaths}
    (writes : Writes retiring conn frames after) : related conn.cids after.cids := by
  induction writes with
  | none => exact keeps.refl _
  | @advertise conn _ _ seq _ _ _ ih => exact keeps.trans (keeps.advertised conn.cids seq false) ih
  | @retire conn _ _ seq _ _ _ ih => exact keeps.trans (keeps.retired conn.cids seq false) ih

end

end Bookkeeping

private theorem CidPaths.recvRetireConnectionId_cids (conn : CidPaths) (seqNum : Nat)
    (pktDcid : ConnectionId) :
    (conn.recvRetireConnectionId seqNum pktDcid).2.cids = conn.cids ∨
      (conn.cids.zeroLengthScid = false ∧
        (conn.recvRetireConnectionId seqNum pktDcid).2.cids =
          (conn.cids.retireScid seqNum pktDcid).2) := by
  unfold recvRetireConnectionId
  split_ifs with zero
  · exact .inl rfl
  · cases conn.cids.scids.get seqNum with
    | none => exact .inl rfl
    | some item =>
      refine .inr ⟨Bool.not_eq_true _ ▸ zero, ?_⟩
      dsimp only
      cases conn.cids.retireScid seqNum pktDcid with
      | mk result cids =>
        cases result with
        | error error => rfl
        | ok pathId =>
          cases pathId with
          | none => rfl
          | some pathId =>
            dsimp only
            cases conn.paths.get pathId with
            | none => rfl
            | some path =>
              dsimp only
              split <;> rfl

namespace CidPathRun

variable {run next : CidPathRun} {op : Op}

theorem settle_cids {α : Type} (run : CidPathRun) (outcome : Except Error α × CidPaths) :
    (run.settle outcome).conn.cids = outcome.2.cids := by
  unfold settle
  split <;> rfl

/-- What a step does to the ids: one operation of the manager at most, and bookkeeping. -/
inductive Manages (mgr : ConnectionIdMgr) : Op → ConnectionIdMgr → Prop where
  | none {op : Op} : Manages mgr op mgr
  | addDcid {seqNum retirePriorTo : Nat} {connId : ConnectionId} {resetToken : ResetToken} :
      Manages mgr (.newConnectionId seqNum retirePriorTo connId resetToken)
        (mgr.addDcid connId seqNum resetToken retirePriorTo).2
  | retireScid {seqNum : Nat} {pktDcid : ConnectionId} : mgr.zeroLengthScid = false →
      Manages mgr (.retireConnectionId seqNum pktDcid) (mgr.retireScid seqNum pktDcid).2
  | addScid {cid : ConnectionId} {resetToken : ResetToken} {retireIfNeeded : Bool} :
      Manages mgr (.addScid cid resetToken retireIfNeeded)
        (mgr.addScid cid (some resetToken) true Option.none retireIfNeeded).2
  | setScidLimit {limit : Nat} : Manages mgr (.setScidLimit limit) (mgr.setScidLimit limit)

/-- A step is one call of the manager, up to the bookkeeping between ids and paths. -/
theorem step_manages (keeps : Bookkeeping related) (stepped : run.step op = some next) :
    ∃ managed, Manages run.conn.cids op managed ∧ related managed next.conn.cids := by
  obtain ⟨_, stepped⟩ := Option.ite_none_left_eq_some.mp stepped
  cases op with
  | newConnectionId seqNum retirePriorTo connId resetToken =>
    cases stepped
    rw [settle_cids]
    rcases keeps.recvNewConnectionId run.conn seqNum retirePriorTo connId resetToken with
      same | added
    · exact ⟨_, .none, same⟩
    · exact ⟨_, .addDcid, added⟩
  | retireConnectionId seqNum pktDcid =>
    cases stepped
    rw [settle_cids]
    rcases CidPaths.recvRetireConnectionId_cids run.conn seqNum pktDcid with
      same | ⟨nonzero, retired⟩
    · rw [same]
      exact ⟨_, .none, keeps.refl _⟩
    · rw [retired]
      exact ⟨_, .retireScid nonzero, keeps.refl _⟩
  | packet recvPid dcid localAddr remoteAddr bufLen =>
    cases stepped
    rw [settle_cids]
    exact ⟨_, .none, keeps.getOrCreatePath _ _ _ _ _ _⟩
  | allocateCids =>
    cases stepped
    exact ⟨_, .none, keeps.allocateCids _ _⟩
  | addPath localAddr remoteAddr =>
    cases stepped
    exact ⟨_, .none, keeps.addPath _ _ _⟩
  | addScid cid resetToken retireIfNeeded =>
    cases stepped
    exact ⟨_, .addScid, keeps.refl _⟩
  | setScidLimit limit =>
    cases stepped
    exact ⟨_, .setScidLimit, keeps.refl _⟩
  | write fuel pathId room =>
    obtain ⟨written, wrote, rfl⟩ := Option.map_eq_some_iff.mp stepped
    exact ⟨_, .none, keeps.writes (CidPaths.tryWriteCidControlFrame_writes wrote)⟩
  | lose frame =>
    obtain ⟨_, moved⟩ := Option.ite_none_right_eq_some.mp stepped
    cases frame with
    | newConnectionId seqNum retirePriorTo connId =>
      cases moved
      exact ⟨_, .none, keeps.advertised _ seqNum true⟩
    | retireConnectionId seqNum =>
      cases moved
      exact ⟨_, .none, keeps.retired _ seqNum true⟩
  | chalSent pathId data pktSize sentTime =>
    obtain ⟨paths, sent, rfl⟩ := Option.map_eq_some_iff.mp stepped
    exact ⟨_, .none, keeps.refl _⟩
  | chalReceived | respReceived | chalTimeout | enableMultipath | completeHandshake | close =>
    cases stepped
    exact ⟨_, .none, keeps.refl _⟩

end CidPathRun

end Tquic.Connection
