import Tquic.Connection.CidBookkeeping

/-! How many destination ids are active at once, over any sequence of NEW_CONNECTION_ID frames,
retirements and path changes. -/

set_option autoImplicit false

namespace Tquic.Connection

open Lib

namespace ConnectionIdMgr

variable {mgr next : ConnectionIdMgr} {cid : ConnectionId} {seq retirePriorTo : Nat}

/-- The frame announces an id that is to be retired at once. -/
def Late (mgr : ConnectionIdMgr) (seq : Nat) : Prop :=
  seq < mgr.largestPeerRetirePriorTo ∧ seq ∉ mgr.dcidsToRetire

/-- The manager after the retirements that a frame asks for. -/
def retiring (mgr : ConnectionIdMgr) (retirePriorTo : Nat) : ConnectionIdMgr :=
  if mgr.largestPeerRetirePriorTo < retirePriorTo then (mgr.retireLower retirePriorTo).2 else mgr

/-- The frame announces one more id when as many as are allowed stay active. -/
def WouldExceed (mgr : ConnectionIdMgr) (cid : ConnectionId) (seq retirePriorTo : Nat) : Prop :=
  mgr.Fresh cid seq ∧ retirePriorTo ≤ seq ∧ ¬ mgr.Late seq ∧
    mgr.dcidLimit ≤ (mgr.retiring retirePriorTo).dcids.queue.length

/-- Such a frame, when the queue of ids has room beyond the limit, and the queue of retirements is
not too long. -/
def Overfills (mgr : ConnectionIdMgr) (cid : ConnectionId) (seq retirePriorTo : Nat) : Prop :=
  mgr.zeroLengthDcid = false ∧ mgr.WouldExceed cid seq retirePriorTo ∧
    (mgr.retiring retirePriorTo).dcids.queue.length ≠ mgr.dcids.capacity ∧
    (mgr.largestPeerRetirePriorTo < retirePriorTo →
      (mgr.retireLower retirePriorTo).2.dcidsToRetire.length ≤ mgr.dcidLimit * 4)

instance (mgr : ConnectionIdMgr) (seq : Nat) : Decidable (mgr.Late seq) :=
  inferInstanceAs (Decidable (_ ∧ _))

instance (mgr : ConnectionIdMgr) (cid : ConnectionId) (seq retirePriorTo : Nat) :
    Decidable (mgr.WouldExceed cid seq retirePriorTo) :=
  inferInstanceAs (Decidable (_ ∧ _ ∧ _ ∧ _))

instance (mgr : ConnectionIdMgr) (cid : ConnectionId) (seq retirePriorTo : Nat) :
    Decidable (mgr.Overfills cid seq retirePriorTo) :=
  inferInstanceAs (Decidable (_ ∧ _ ∧ _ ∧ (_ → _)))

/-- A frame that is neither refused at sight nor a repetition. -/
theorem addDcid_fresh (nonzero : mgr.zeroLengthDcid = false) (fresh : mgr.Fresh cid seq)
    (low : retirePriorTo ≤ seq) (resetToken : ResetToken) :
    mgr.addDcid cid seq resetToken retirePriorTo =
      if mgr.Late seq then
        ((mgr.withPending seq).checkDcidsToRetire.map (fun _ => []), mgr.withPending seq)
      else if mgr.largestPeerRetirePriorTo < retirePriorTo then
        match (mgr.retireLower retirePriorTo).2.checkDcidsToRetire with
        | .error error => (.error error, (mgr.retireLower retirePriorTo).2)
        | .ok () => (mgr.retireLower retirePriorTo).2.insertDcid
            { cid, seq, resetToken := some resetToken, pathId := none }
            (mgr.retireLower retirePriorTo).1
      else mgr.insertDcid { cid, seq, resetToken := some resetToken, pathId := none } [] := by
  have unknown : mgr.dcids.queue.find? (fun item => item.cid = cid || item.seq = seq) = none := by
    refine List.find?_eq_none.mpr fun item member => ?_
    simpa using fresh item member
  have late : ((seq < mgr.largestPeerRetirePriorTo && !mgr.dcidsToRetire.contains seq) = true) =
      mgr.Late seq := by
    simp [Late]
  unfold addDcid
  rw [if_neg (by rw [nonzero]; decide), unknown]
  dsimp only
  rw [if_neg (Nat.not_lt_of_le low)]
  simp only [late]
  rfl

private theorem addDcid_limit (mgr : ConnectionIdMgr) (cid : ConnectionId) (seq : Nat)
    (resetToken : ResetToken) (retirePriorTo : Nat) :
    (mgr.addDcid cid seq resetToken retirePriorTo).2.dcidLimit = mgr.dcidLimit := by
  rcases addDcid_cases (Prod.eta (mgr.addDcid cid seq resetToken retirePriorTo)).symm with
    ⟨_, same⟩ | ⟨_, same, _⟩ | ⟨_, _, _, _, _, same⟩ | ⟨_, _, _, _, _, _, _, same⟩ |
      ⟨_, _, _, _, ⟨_, same⟩ | ⟨_, same⟩⟩ <;> rw [same] <;> rfl

theorem length_withDcid (mgr : ConnectionIdMgr) (item : ConnectionIdItem) :
    (mgr.withDcid item).dcids.queue.length = mgr.dcids.queue.length + 1 :=
  List.length_append

/-- Where the queue has room beyond the limit, the id is stored. -/
theorem Overfills.accepted (overfills : mgr.Overfills cid seq retirePriorTo)
    (resetToken : ResetToken) :
    ∃ retired, mgr.addDcid cid seq resetToken retirePriorTo =
      (.ok retired, (mgr.retiring retirePriorTo).withDcid
        { cid, seq, resetToken := some resetToken, pathId := none }) := by
  obtain ⟨nonzero, ⟨fresh, low, early, _⟩, room, short⟩ := overfills
  rw [addDcid_fresh nonzero fresh low, if_neg early]
  unfold retiring at room ⊢
  split_ifs at room ⊢ with raises
  · have checked : (mgr.retireLower retirePriorTo).2.checkDcidsToRetire = .ok () :=
      if_neg (Nat.not_lt_of_le (short raises))
    rw [checked]
    rcases insertDcid_cases (mgr.retireLower retirePriorTo).2
        { cid, seq, resetToken := some resetToken, pathId := none }
        (mgr.retireLower retirePriorTo).1 with ⟨full, _⟩ | ⟨_, accepted⟩
    · exact absurd full room
    · exact ⟨_, accepted⟩
  · rcases insertDcid_cases mgr { cid, seq, resetToken := some resetToken, pathId := none } [] with
      ⟨full, _⟩ | ⟨_, accepted⟩
    · exact absurd full room
    · exact ⟨_, accepted⟩

/-- Where it has none, the frame is refused and no id is added. -/
theorem WouldExceed.refused (exceeds : mgr.WouldExceed cid seq retirePriorTo)
    (fits : ¬ mgr.Overfills cid seq retirePriorTo) (resetToken : ResetToken) :
    (mgr.addDcid cid seq resetToken retirePriorTo).1.toOption = none ∧
      (mgr.addDcid cid seq resetToken retirePriorTo).2.dcids.queue.length ≤
        mgr.dcids.queue.length := by
  have fewer := (retireLower_sublist mgr retirePriorTo).length_le
  rcases addDcid_cases (Prod.eta (mgr.addDcid cid seq resetToken retirePriorTo)).symm with
    ⟨refused, same⟩ | ⟨_, _, _, item, member, sameCid, _⟩ | ⟨_, _, _, late, new, _⟩ |
      ⟨nonzero, _, _, small, _, room, _⟩ | ⟨nonzero, _, _, raises, ⟨refused, same⟩ | ⟨_, same⟩⟩
  · exact ⟨refused, by rw [same]⟩
  · exact absurd sameCid (exceeds.1 item member).1
  · exact absurd ⟨late, new⟩ exceeds.2.2.1
  · have stays : mgr.retiring retirePriorTo = mgr := if_neg (Nat.not_lt_of_le small)
    exact absurd ⟨nonzero, exceeds, by rw [stays]; exact room,
      fun raises => absurd raises (Nat.not_lt_of_le small)⟩ fits
  · refine ⟨refused, ?_⟩
    rw [same]
    exact fewer
  · have retires : mgr.retiring retirePriorTo = (mgr.retireLower retirePriorTo).2 := if_pos raises
    have unfit := addDcid_fresh nonzero exceeds.1 exceeds.2.1 resetToken
    rw [if_neg exceeds.2.2.1, if_pos raises] at unfit
    cases checked : (mgr.retireLower retirePriorTo).2.checkDcidsToRetire with
    | error error =>
      rw [checked] at unfit
      rw [unfit]
      exact ⟨rfl, fewer⟩
    | ok done =>
      rw [checked] at unfit
      rcases insertDcid_cases (mgr.retireLower retirePriorTo).2
          { cid, seq, resetToken := some resetToken, pathId := none }
          (mgr.retireLower retirePriorTo).1 with ⟨_, refused⟩ | ⟨room, _⟩
      · rw [unfit]
        dsimp only
        rw [refused]
        exact ⟨rfl, fewer⟩
      · refine absurd ⟨nonzero, exceeds, by rw [retires]; exact room, fun _ => ?_⟩ fits
        unfold checkDcidsToRetire at checked
        split_ifs at checked with long
        exact Nat.le_of_not_lt long

private theorem addDcid_within (within : mgr.dcids.queue.length ≤ mgr.dcidLimit)
    (fits : ¬ mgr.WouldExceed cid seq retirePriorTo) (resetToken : ResetToken) :
    (mgr.addDcid cid seq resetToken retirePriorTo).2.dcids.queue.length ≤ mgr.dcidLimit := by
  have fewer := (retireLower_sublist mgr retirePriorTo).length_le
  rcases addDcid_cases (Prod.eta (mgr.addDcid cid seq resetToken retirePriorTo)).symm with
    ⟨_, same⟩ | ⟨_, same, _⟩ | ⟨_, _, _, _, _, same⟩ | ⟨_, low, fresh, small, waits, _, _, same⟩ |
      ⟨_, low, fresh, raises, ⟨_, same⟩ | ⟨_, same⟩⟩ <;> rw [same]
  · exact within
  · exact within
  · exact within
  · rw [length_withDcid]
    by_contra exceeds
    refine fits ⟨fresh, low, fun late => late.2 (waits late.1), ?_⟩
    rw [retiring, if_neg (Nat.not_lt_of_le small)]
    omega
  · exact fewer.trans within
  · rw [length_withDcid]
    by_contra exceeds
    refine fits ⟨fresh, low, fun late => ?_, ?_⟩
    · exact Nat.lt_irrefl _ ((late.1.trans raises).trans_le low)
    · rw [retiring, if_pos raises]
      omega

/-- The limit holds after a frame, and the frame is refused if it would exceed it. -/
def Limited (mgr : ConnectionIdMgr) (cid : ConnectionId) (seq : Nat) (resetToken : ResetToken)
    (retirePriorTo : Nat) : Prop :=
  (mgr.addDcid cid seq resetToken retirePriorTo).2.dcids.queue.length ≤ mgr.dcidLimit ∧
    (mgr.WouldExceed cid seq retirePriorTo →
      (mgr.addDcid cid seq resetToken retirePriorTo).1.toOption = none)

theorem limited_iff (within : mgr.dcids.queue.length ≤ mgr.dcidLimit) (resetToken : ResetToken) :
    mgr.Limited cid seq resetToken retirePriorTo ↔ ¬ mgr.Overfills cid seq retirePriorTo := by
  constructor
  · rintro ⟨_, refuses⟩ overfills
    have refused := refuses overfills.2.1
    obtain ⟨retired, accepted⟩ := overfills.accepted resetToken
    rw [accepted] at refused
    cases refused
  · intro fits
    by_cases exceeds : mgr.WouldExceed cid seq retirePriorTo
    · obtain ⟨refused, fewer⟩ := exceeds.refused fits resetToken
      exact ⟨fewer.trans within, fun _ => refused⟩
    · exact ⟨addDcid_within within exceeds resetToken, fun would => absurd would exceeds⟩

/-! ## Everything else -/

/-- Both managers have as many active ids, and the same limit. -/
structure SameCount (before after : ConnectionIdMgr) : Prop where
  active : after.dcids.queue.length = before.dcids.queue.length
  limit : after.dcidLimit = before.dcidLimit

theorem SameDcids.count {before after : ConnectionIdMgr} (same : SameDcids before after)
    (limit : after.dcidLimit = before.dcidLimit) : SameCount before after := by
  refine ⟨?_, limit⟩
  have lengths := congrArg List.length same.seqs
  simpa [dcidSeqs] using lengths

theorem sameCount_bookkeeping : Bookkeeping SameCount where
  refl _ := ⟨rfl, rfl⟩
  trans former latter :=
    ⟨latter.active.trans former.active, latter.limit.trans former.limit⟩
  scidUsed marked := by
    refine (markScidUsed_same marked).1.same.count ?_
    unfold markScidUsed at marked
    split at marked <;> cases marked
    rfl
  dcidUsed marked := by
    refine (markDcidUsed_same marked).1.count ?_
    unfold markDcidUsed at marked
    split at marked <;> cases marked
    rfl
  advertised mgr seq advertise := by
    unfold markScidToAdvertise
    split <;> exact ⟨rfl, rfl⟩
  retired mgr seq retire := by
    unfold markDcidToRetire
    split <;> exact ⟨rfl, rfl⟩

private theorem addScid_count (mgr : ConnectionIdMgr) (cid : ConnectionId)
    (resetToken : Option ResetToken) (advertise : Bool) (pathId : Option Nat)
    (retireIfNeeded : Bool) :
    SameCount mgr (mgr.addScid cid resetToken advertise pathId retireIfNeeded).2 := by
  refine (addScid_keeps mgr cid resetToken advertise pathId retireIfNeeded).same.count ?_
  exact @addScid_induct mgr cid resetToken advertise pathId (·.dcidLimit = mgr.dcidLimit)
    retireIfNeeded rfl (fun _ _ _ _ => rfl)
    fun _ same _ => (sameCount_bookkeeping.advertised _ _ _).limit.trans same

private theorem retireScid_count (mgr : ConnectionIdMgr) (seq : Nat) (pktDcid : ConnectionId) :
    SameCount mgr (mgr.retireScid seq pktDcid).2 := by
  rcases retireScid_cases mgr seq pktDcid with same | ⟨scids, lowest, _, _, _, removed⟩
  · rw [same]
    exact ⟨rfl, rfl⟩
  · rw [removed]
    exact ⟨rfl, rfl⟩

end ConnectionIdMgr

/-! ## Runs -/

namespace CidPathRun

open ConnectionIdMgr

/-- No frame announces one more id when as many as are allowed stay active and the queue of ids
has room. -/
def Unfilled (run : CidPathRun) : Op → Prop
  | .newConnectionId seqNum retirePriorTo connId _ =>
    ¬ run.conn.cids.Overfills connId seqNum retirePriorTo
  | _ => True

def isUnfilled (run : CidPathRun) : Op → Bool
  | .newConnectionId seqNum retirePriorTo connId _ =>
    !decide (run.conn.cids.Overfills connId seqNum retirePriorTo)
  | _ => true

theorem unfilled_of_isUnfilled (run : CidPathRun) (op : Op) (passed : isUnfilled run op = true) :
    Unfilled run op := by
  cases op with
  | newConnectionId seqNum retirePriorTo connId resetToken =>
    simpa [isUnfilled, Unfilled] using passed
  | _ => trivial

structure WithinLimit (limit : Nat) (mgr : ConnectionIdMgr) : Prop where
  advertised : mgr.dcidLimit = limit
  active : mgr.dcids.queue.length ≤ limit

theorem WithinLimit.same {limit : Nat} {mgr next : ConnectionIdMgr} (within : WithinLimit limit mgr)
    (same : SameCount mgr next) : WithinLimit limit next :=
  ⟨same.limit.trans within.advertised, same.active ▸ within.active⟩

private theorem step_withinLimit {limit : Nat} {run next : CidPathRun} {op : Op}
    (within : WithinLimit limit run.conn.cids) (unfilled : Unfilled run op)
    (stepped : step run op = some next) : WithinLimit limit next.conn.cids := by
  obtain ⟨managed, manages, same⟩ := step_manages sameCount_bookkeeping stepped
  suffices managed : WithinLimit limit managed from managed.same same
  cases manages with
  | none => exact within
  | @addDcid seqNum retirePriorTo connId resetToken =>
    obtain ⟨advertised, active⟩ := within
    have fits := (limited_iff (by rw [advertised]; exact active) resetToken).mpr unfilled
    refine ⟨(addDcid_limit _ _ _ _ _).trans advertised, ?_⟩
    rw [← advertised]
    exact fits.1
  | retireScid => exact within.same (retireScid_count _ _ _)
  | addScid => exact within.same (addScid_count _ _ _ _ _ _)
  | setScidLimit => exact within.same ⟨rfl, rfl⟩

private theorem start_withinLimit (config : CidConfig) (localAddr remoteAddr : SocketAddr)
    (addrToken : Bool) (initialScid : ConnectionId) (scidToken : Option ResetToken)
    (dcid : ConnectionId) (dcidToken : Option ResetToken) :
    WithinLimit config.activeConnIdLimit (start config localAddr remoteAddr addrToken initialScid
      scidToken dcid dcidToken).conn.cids := by
  refine ⟨rfl, ?_⟩
  have large := config.atLeastTwo
  rcases setInitialDcid_queue (.new config.activeConnIdLimit initialScid 0 scidToken) dcid
    dcidToken (some 0) with empty | single
  · exact (congrArg List.length empty).trans_le (Nat.zero_le _)
  · exact (congrArg List.length single).trans_le (by simp only [List.length_singleton]; omega)

/-- In every run without an overfilling frame the active ids stay within the limit, and the next
frame keeps to the limit if and only if it does not overfill the queue. -/
theorem active_dcids_limited {config : CidConfig} {localAddr remoteAddr : SocketAddr}
    {addrToken : Bool} {initialScid : ConnectionId} {scidToken : Option ResetToken}
    {dcid : ConnectionId} {dcidToken : Option ResetToken} {run : CidPathRun}
    (reached : Run step Unfilled
      (start config localAddr remoteAddr addrToken initialScid scidToken dcid dcidToken) run) :
    run.conn.cids.dcidLimit = config.activeConnIdLimit ∧
      run.conn.cids.dcids.queue.length ≤ config.activeConnIdLimit ∧
      ∀ connId seqNum resetToken retirePriorTo,
        run.conn.cids.Limited connId seqNum resetToken retirePriorTo ↔
          ¬ run.conn.cids.Overfills connId seqNum retirePriorTo := by
  obtain ⟨advertised, active⟩ : WithinLimit config.activeConnIdLimit run.conn.cids :=
    reached.invariant
      (fun _ _ _ within unfilled stepped => step_withinLimit within unfilled stepped)
      (start_withinLimit config localAddr remoteAddr addrToken initialScid scidToken dcid dcidToken)
  refine ⟨advertised, active, fun connId seqNum resetToken retirePriorTo => ?_⟩
  exact limited_iff (by rw [advertised]; exact active) resetToken

/-- A peer that replaces the first id keeps to the limit. -/
theorem active_dcids_limited_replaced :
    ∃ run : CidPathRun, run.conn.cids.dcidSeqs = [1, 2] ∧ run.conn.cids.dcids.queue.length ≤ 2 := by
  have reached := Run.of_checked unfilled_of_isUnfilled (Run.of_exec
    (show exec (checked isUnfilled step) sampleStart
      [.newConnectionId 1 1 (.new [9]) 1, .newConnectionId 2 0 (.new [10]) 2] = some _ from rfl))
  exact ⟨_, rfl, (active_dcids_limited reached).2.1⟩

/-- With a limit of two, a second new id is accepted although the first one is still active. -/
theorem active_dcids_not_limited :
    ¬ ∀ run : CidPathRun, Run step anyStep sampleStart run →
      run.conn.cids.dcids.queue.length ≤ 2 := by
  intro limited
  have reached := Run.of_exec
    (show exec step sampleStart
      [.newConnectionId 1 0 (.new [9]) 1, .newConnectionId 2 0 (.new [10]) 2] = some _ from rfl)
  exact absurd (limited _ reached) (by decide)

end CidPathRun

end Tquic.Connection
