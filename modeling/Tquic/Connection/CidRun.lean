import Tquic.Connection.CidProperties

/-! Runs of the connection id manager: NEW_CONNECTION_ID frames in any order,
retirements sent and lost, and source ids issued and retired. -/

set_option autoImplicit false

namespace Tquic.Connection

open Lib

/-- A manager with the largest Retire Prior To of the frames it accepted and the
RETIRE_CONNECTION_ID frames sent so far. -/
structure CidSession where
  mgr : ConnectionIdMgr
  received : Nat
  sent : List Nat

namespace CidSession

inductive Op where
  | addDcid (cid : ConnectionId) (seq : Nat) (resetToken : ResetToken) (retirePriorTo : Nat)
  | sendRetire
  | loseRetire (seq : Nat)
  | markDcidUsed (seq pathId : Nat)
  | addScid (cid : ConnectionId) (resetToken : Option ResetToken) (advertise : Bool)
      (pathId : Option Nat) (retireIfNeeded : Bool)
  | retireScid (seq : Nat) (pktDcid : ConnectionId)
  | markScidUsed (seq pathId : Nat)
  | markScidToAdvertise (seq : Nat) (advertise : Bool)
  | setScidLimit (limit : Nat)

/-- The manager of a connection that knows the first id of its peer. -/
def start (dcidLimit : Nat) (initialScid : ConnectionId) (initialPathId : Nat)
    (scidToken : Option ResetToken) (dcid : ConnectionId) (dcidToken : Option ResetToken)
    (pathId : Option Nat) : CidSession :=
  { mgr := (ConnectionIdMgr.new dcidLimit initialScid initialPathId scidToken).setInitialDcid
      dcid dcidToken pathId
    received := 0
    sent := [] }

/-- The largest Retire Prior To after a frame; a refused frame does not count. -/
def receivedAfter (received : Nat) (result : Except Error (List (Nat × Nat)))
    (retirePriorTo : Nat) : Nat :=
  match result with
  | .ok _ => max received retirePriorTo
  | .error _ => received

def step (session : CidSession) : Op → Option CidSession
  | .addDcid cid seq resetToken retirePriorTo =>
    let (result, mgr) := session.mgr.addDcid cid seq resetToken retirePriorTo
    some { session with
      mgr, received := receivedAfter session.received result retirePriorTo }
  | .sendRetire =>
    match session.mgr.nextDcidToRetire with
    | none => none
    | some seq =>
      some { session with
        mgr := session.mgr.markDcidToRetire seq false, sent := seq :: session.sent }
  | .loseRetire seq =>
    -- Only a frame that was sent can be lost.
    if seq ∈ session.sent then some { session with mgr := session.mgr.markDcidToRetire seq true }
    else none
  | .markDcidUsed seq pathId =>
    (session.mgr.markDcidUsed seq pathId).toOption.map (fun mgr => { session with mgr })
  | .addScid cid resetToken advertise pathId retireIfNeeded =>
    some { session with
      mgr := (session.mgr.addScid cid resetToken advertise pathId retireIfNeeded).2 }
  | .retireScid seq pktDcid => some { session with mgr := (session.mgr.retireScid seq pktDcid).2 }
  | .markScidUsed seq pathId =>
    (session.mgr.markScidUsed seq pathId).toOption.map (fun mgr => { session with mgr })
  | .markScidToAdvertise seq advertise =>
    some { session with mgr := session.mgr.markScidToAdvertise seq advertise }
  | .setScidLimit limit => some { session with mgr := session.mgr.setScidLimit limit }

/-- No frame revives an id that waits to be retired, and none that repeats an active id
raises Retire Prior To. -/
def Regular (session : CidSession) : Op → Prop
  | .addDcid cid seq resetToken retirePriorTo =>
    ¬ session.mgr.Revived cid seq retirePriorTo ∧
      ¬ session.mgr.Overlooked cid seq resetToken retirePriorTo
  | _ => True

def isRegular (session : CidSession) : Op → Bool
  | .addDcid cid seq resetToken retirePriorTo =>
    !decide (session.mgr.Revived cid seq retirePriorTo) &&
      !decide (session.mgr.Overlooked cid seq resetToken retirePriorTo)
  | _ => true

theorem regular_of_isRegular (session : CidSession) (op : Op)
    (passed : isRegular session op = true) : Regular session op := by
  cases op with
  | addDcid cid seq resetToken retirePriorTo => simpa [isRegular, Regular] using passed
  | _ => trivial

structure Consistent (session : CidSession) : Prop where
  dcids : ConnectionIdMgr.Bookkept session.mgr session.sent
  received : session.received ≤ session.mgr.largestPeerRetirePriorTo
  scids : ConnectionIdMgr.Numbered session.mgr

theorem start_consistent (dcidLimit : Nat) (initialScid : ConnectionId) (initialPathId : Nat)
    (scidToken : Option ResetToken) (dcid : ConnectionId) (dcidToken : Option ResetToken)
    (pathId : Option Nat) :
    Consistent (start dcidLimit initialScid initialPathId scidToken dcid dcidToken pathId) := by
  refine ⟨ConnectionIdMgr.setInitialDcid_bookkept rfl dcid rfl dcidToken pathId, Nat.le_refl _,
    ⟨List.nodup_singleton 0, ?_⟩⟩
  intro seq member
  rw [List.mem_singleton.mp member]
  exact Nat.zero_lt_one

variable {session next : CidSession}

theorem step_markDcidUsed {seq pathId : Nat}
    (stepped : session.step (.markDcidUsed seq pathId) = some next) :
    ∃ mgr, session.mgr.markDcidUsed seq pathId = .ok mgr ∧ next = { session with mgr } := by
  cases marked : session.mgr.markDcidUsed seq pathId with
  | error error => simp [step, marked, Except.toOption] at stepped
  | ok mgr =>
    simp only [step, marked, Except.toOption, Option.map_some, Option.some.injEq] at stepped
    exact ⟨mgr, rfl, stepped.symm⟩

theorem step_markScidUsed {seq pathId : Nat}
    (stepped : session.step (.markScidUsed seq pathId) = some next) :
    ∃ mgr, session.mgr.markScidUsed seq pathId = .ok mgr ∧ next = { session with mgr } := by
  cases marked : session.mgr.markScidUsed seq pathId with
  | error error => simp [step, marked, Except.toOption] at stepped
  | ok mgr =>
    simp only [step, marked, Except.toOption, Option.map_some, Option.some.injEq] at stepped
    exact ⟨mgr, rfl, stepped.symm⟩

/-- Each regular operation keeps the books of the session. -/
theorem step_consistent {op : Op} (consistent : Consistent session)
    (regular : Regular session op) (stepped : step session op = some next) : Consistent next := by
  obtain ⟨dcids, received, scids⟩ := consistent
  cases op with
  | addDcid cid seq resetToken retirePriorTo =>
    cases added : session.mgr.addDcid cid seq resetToken retirePriorTo with
    | mk result mgr =>
      simp only [step, added, Option.some.injEq] at stepped
      subst stepped
      obtain ⟨grows, accepted⟩ := ConnectionIdMgr.addDcid_largest regular.2 added
      have same := ConnectionIdMgr.addDcid_sameScids session.mgr cid seq resetToken retirePriorTo
      rw [added] at same
      refine ⟨dcids.addDcid regular.1 added, ?_, same.numbered scids⟩
      cases result with
      | error error => exact Nat.le_trans received grows
      | ok retired =>
        exact Nat.max_le.mpr
          ⟨Nat.le_trans received grows, accepted (by simp [Except.toOption])⟩
  | sendRetire =>
    cases front : session.mgr.nextDcidToRetire with
    | none => simp [step, front] at stepped
    | some seq =>
      simp only [step, front, Option.some.injEq] at stepped
      subst stepped
      exact ⟨dcids.retired front, received, ⟨scids.unique, scids.below⟩⟩
  | loseRetire seq =>
    obtain ⟨member, moved⟩ := Option.ite_none_right_eq_some.mp stepped
    cases moved
    exact ⟨dcids.lost member, received, ⟨scids.unique, scids.below⟩⟩
  | markDcidUsed seq pathId =>
    obtain ⟨mgr, marked, rfl⟩ := step_markDcidUsed stepped
    obtain ⟨sameDcids, sameScids⟩ := ConnectionIdMgr.markDcidUsed_same marked
    exact ⟨sameDcids.bookkept dcids, sameDcids.largest ▸ received, sameScids.numbered scids⟩
  | addScid cid resetToken advertise pathId retireIfNeeded =>
    cases stepped
    have same := ConnectionIdMgr.addScid_keeps session.mgr cid resetToken advertise pathId
      retireIfNeeded
    exact ⟨same.same.bookkept dcids, same.largest ▸ received,
      ConnectionIdMgr.addScid_numbered scids cid resetToken advertise pathId retireIfNeeded⟩
  | retireScid seq pktDcid =>
    cases stepped
    have same := ConnectionIdMgr.retireScid_keeps session.mgr seq pktDcid
    exact ⟨same.same.bookkept dcids, same.largest ▸ received,
      ConnectionIdMgr.retireScid_numbered scids seq pktDcid⟩
  | markScidUsed seq pathId =>
    obtain ⟨mgr, marked, rfl⟩ := step_markScidUsed stepped
    obtain ⟨sameDcids, sameScids⟩ := ConnectionIdMgr.markScidUsed_same marked
    exact ⟨sameDcids.same.bookkept dcids, sameDcids.largest ▸ received, sameScids.numbered scids⟩
  | markScidToAdvertise seq advertise =>
    cases stepped
    obtain ⟨sameDcids, sameScids⟩ :=
      ConnectionIdMgr.markScidToAdvertise_same session.mgr seq advertise
    exact ⟨sameDcids.same.bookkept dcids, sameDcids.largest ▸ received, sameScids.numbered scids⟩
  | setScidLimit limit =>
    cases stepped
    obtain ⟨sameDcids, sameScids⟩ := ConnectionIdMgr.setScidLimit_same session.mgr limit
    exact ⟨sameDcids.same.bookkept dcids, sameDcids.largest ▸ received, sameScids.numbered scids⟩

private theorem run_consistent {dcidLimit : Nat} {initialScid : ConnectionId} {initialPathId : Nat}
    {scidToken : Option ResetToken} {dcid : ConnectionId} {dcidToken : Option ResetToken}
    {pathId : Option Nat} {session : CidSession} (run : Run step Regular
      (start dcidLimit initialScid initialPathId scidToken dcid dcidToken pathId) session) :
    Consistent session :=
  run.invariant (fun _ _ _ consistent regular stepped =>
    step_consistent consistent regular stepped)
    (start_consistent dcidLimit initialScid initialPathId scidToken dcid dcidToken pathId)

/-- Active destination ids lie at or above every received Retire Prior To, none of them
waits to be retired, and sequence numbers and values are unique. -/
def Sound (session : CidSession) : Prop :=
  (∀ item ∈ session.mgr.dcids.queue, session.received ≤ item.seq) ∧
    (∀ item ∈ session.mgr.dcids.queue, item.seq ∉ session.mgr.dcidsToRetire) ∧
    (session.mgr.dcids.queue.map (·.seq)).Nodup ∧ (session.mgr.dcids.queue.map (·.cid)).Nodup ∧
    (session.mgr.scids.queue.map (·.seq)).Nodup

theorem run_sound {dcidLimit : Nat} {initialScid : ConnectionId} {initialPathId : Nat}
    {scidToken : Option ResetToken} {dcid : ConnectionId} {dcidToken : Option ResetToken}
    {pathId : Option Nat} {session : CidSession} (run : Run step Regular
      (start dcidLimit initialScid initialPathId scidToken dcid dcidToken pathId) session) :
    Sound session := by
  obtain ⟨dcids, received, scids⟩ := run_consistent run
  refine ⟨?_, ?_, dcids.seqs, dcids.values, scids.unique⟩
  · intro item member
    exact Nat.le_trans received (dcids.active item.seq (List.mem_map_of_mem member))
  · intro item member
    exact dcids.not_pending (List.mem_map_of_mem member)

/-- The frame for sequence number 2 retires 1, and the frame for 1 arrives once more
before the RETIRE_CONNECTION_ID frame is written: 1 is active and waits to be retired. -/
theorem repeated_frame_reactivates : ¬ ∀ session : CidSession,
    Run step anyStep
      (start 2 (.new [7]) 0 (some 1) (.new [8]) (some 2) (some 0)) session → Sound session := by
  intro always
  have reached := always _ (Run.of_exec
    (show exec step (start 2 (.new [7]) 0 (some 1) (.new [8]) (some 2) (some 0))
      [.addDcid (.new [9]) 1 3 0, .addDcid (.new [10]) 2 4 2, .addDcid (.new [9]) 1 3 0] =
        some _ from rfl))
  exact absurd reached.2.1 (by decide)

/-- Two ids are announced, one of them retires the first id, the retirement is sent,
lost and sent again. -/
theorem retirement_resent_sound :
    ∃ session : CidSession, session.mgr.dcidSeqs = [1, 2] ∧ session.sent = [0, 0] ∧
      Sound session := by
  refine ⟨_, ?_, ?_, run_sound (Run.of_checked regular_of_isRegular (Run.of_exec
    (show exec (checked isRegular step) (start 2 (.new [7]) 0 (some 1) (.new [8]) (some 2) (some 0))
      [.addDcid (.new [9]) 1 3 1, .sendRetire, .addDcid (.new [10]) 2 4 0, .loseRetire 0,
        .sendRetire] = some _ from rfl)))⟩
  · rfl
  · rfl

end CidSession

end Tquic.Connection
