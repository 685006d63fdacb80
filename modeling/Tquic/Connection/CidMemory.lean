import Tquic.Connection.CidBookkeeping

/-! What a connection remembers of its ids: the source ids and the reset tokens of the
destination ids, and how it comes to forget one. -/

set_option autoImplicit false

namespace Tquic.Connection

namespace ConnectionIdMgr

def scidValues (mgr : ConnectionIdMgr) : List ConnectionId := mgr.scids.queue.map (·.cid)

def resetTokens (mgr : ConnectionIdMgr) : List ResetToken := mgr.dcids.queue.filterMap (·.resetToken)

/-- Nothing is learned or forgotten. -/
structure SameIds (before after : ConnectionIdMgr) : Prop where
  scids : after.scidValues = before.scidValues
  tokens : after.resetTokens = before.resetTokens
  zeroScid : after.zeroLengthScid = before.zeroLengthScid
  zeroDcid : after.zeroLengthDcid = before.zeroLengthDcid

variable {mgr next middle : ConnectionIdMgr}

theorem SameIds.refl (mgr : ConnectionIdMgr) : SameIds mgr mgr := ⟨rfl, rfl, rfl, rfl⟩

theorem SameIds.trans (former : SameIds mgr middle) (latter : SameIds middle next) :
    SameIds mgr next :=
  ⟨latter.scids.trans former.scids, latter.tokens.trans former.tokens,
    latter.zeroScid.trans former.zeroScid, latter.zeroDcid.trans former.zeroDcid⟩

theorem markUsed_ids {seq pathId : Nat} {queue marked : List ConnectionIdItem}
    (used : ConnectionIdDeque.markUsed seq pathId queue = some marked) :
    marked.map (·.cid) = queue.map (·.cid) ∧
      marked.filterMap (·.resetToken) = queue.filterMap (·.resetToken) := by
  induction queue generalizing marked with
  | nil => cases used
  | cons item rest ih =>
    unfold ConnectionIdDeque.markUsed at used
    split_ifs at used
    · cases used
      exact ⟨rfl, rfl⟩
    · obtain ⟨later, found, same⟩ := Option.map_eq_some_iff.mp used
      cases same
      obtain ⟨cids, tokens⟩ := ih found
      rw [List.map_cons, List.map_cons, cids, List.filterMap_cons, List.filterMap_cons, tokens]
      exact ⟨rfl, rfl⟩

theorem markScidUsed_ids {seq pathId : Nat} (marked : mgr.markScidUsed seq pathId = .ok next) :
    SameIds mgr next := by
  unfold ConnectionIdMgr.markScidUsed at marked
  split at marked
  · cases marked
  · next queue found =>
      cases marked
      exact ⟨(markUsed_ids found).1, rfl, rfl, rfl⟩

theorem markDcidUsed_ids {seq pathId : Nat} (marked : mgr.markDcidUsed seq pathId = .ok next) :
    SameIds mgr next := by
  unfold ConnectionIdMgr.markDcidUsed at marked
  split at marked
  · cases marked
  · next queue found =>
      cases marked
      exact ⟨rfl, (markUsed_ids found).2, rfl, rfl⟩

section

variable (mgr : ConnectionIdMgr)

private theorem markScidToAdvertise_ids (seq : Nat) (advertise : Bool) :
    SameIds mgr (mgr.markScidToAdvertise seq advertise) := by
  unfold ConnectionIdMgr.markScidToAdvertise
  split <;> exact ⟨rfl, rfl, rfl, rfl⟩

private theorem markDcidToRetire_ids (seq : Nat) (retire : Bool) :
    SameIds mgr (mgr.markDcidToRetire seq retire) := by
  unfold ConnectionIdMgr.markDcidToRetire
  split <;> exact ⟨rfl, rfl, rfl, rfl⟩

theorem setScidLimit_ids (limit : Nat) : SameIds mgr (mgr.setScidLimit limit) := by
  unfold ConnectionIdMgr.setScidLimit ConnectionIdDeque.enlarge
  dsimp only
  split <;> exact ⟨rfl, rfl, rfl, rfl⟩

/-- Only the source id with the given number is forgotten. -/
theorem retireScid_ids (seq : Nat) (pktDcid : ConnectionId) :
    (∀ cid ∈ mgr.scidValues, cid ∈ (mgr.retireScid seq pktDcid).2.scidValues ∨
      (mgr.scids.get seq).map (·.cid) = some cid) ∧
    (∀ cid ∈ (mgr.retireScid seq pktDcid).2.scidValues, cid ∈ mgr.scidValues) ∧
    (mgr.retireScid seq pktDcid).2.dcids = mgr.dcids ∧
    (mgr.retireScid seq pktDcid).2.zeroLengthScid = mgr.zeroLengthScid ∧
    (mgr.retireScid seq pktDcid).2.zeroLengthDcid = mgr.zeroLengthDcid := by
  rcases retireScid_cases mgr seq pktDcid with same | ⟨scids, lowest, erased, _, _, removed⟩
  · rw [same]
    exact ⟨fun _ member => .inl member, fun _ member => member, rfl, rfl, rfl⟩
  rw [removed]
  simp only [scidValues, erased, and_true]
  refine ⟨fun cid member => ?_, fun cid member => ?_⟩
  · obtain ⟨held, stored, rfl⟩ := List.mem_map.mp member
    rcases List.exists_or_eq_self_of_eraseP (fun item => item.seq = seq) mgr.scids.queue with
      same | ⟨first, former, latter, others, chosen, split, left⟩
    · rw [same]
      exact .inl member
    · rw [split, List.mem_append, List.mem_cons] at stored
      rw [left]
      rcases stored with before | rfl | after
      · exact .inl (List.mem_map_of_mem (List.mem_append_left _ before))
      · refine .inr ?_
        have found : mgr.scids.get seq = some held := by
          unfold ConnectionIdDeque.get
          rw [split, List.find?_append, List.find?_eq_none.mpr others, Option.none_or]
          exact List.find?_cons_of_pos (by exact chosen)
        rw [found]
        rfl
      · exact .inl (List.mem_map_of_mem (List.mem_append_right _ after))
  · obtain ⟨held, stored, rfl⟩ := List.mem_map.mp member
    exact List.mem_map_of_mem (List.mem_of_mem_eraseP stored)

private theorem addDcid_ids (cid : ConnectionId) (seq : Nat)
    (resetToken : ResetToken) (retirePriorTo : Nat) :
    (mgr.addDcid cid seq resetToken retirePriorTo).2.scids = mgr.scids ∧
    (mgr.addDcid cid seq resetToken retirePriorTo).2.zeroLengthScid = mgr.zeroLengthScid ∧
    (mgr.addDcid cid seq resetToken retirePriorTo).2.zeroLengthDcid = mgr.zeroLengthDcid ∧
    ∀ token ∈ mgr.resetTokens,
      token ∈ (mgr.addDcid cid seq resetToken retirePriorTo).2.resetTokens ∨
        (mgr.largestPeerRetirePriorTo < retirePriorTo ∧
          ∃ item ∈ mgr.dcids.queue, item.seq < retirePriorTo ∧ item.resetToken = some token) := by
  have retires : ∀ token ∈ mgr.resetTokens, token ∈ (mgr.retireLower retirePriorTo).2.resetTokens ∨
      ∃ item ∈ mgr.dcids.queue, item.seq < retirePriorTo ∧ item.resetToken = some token := by
    intro token member
    obtain ⟨item, stored, carries⟩ := List.mem_filterMap.mp member
    by_cases low : item.seq < retirePriorTo
    · exact .inr ⟨item, stored, low, carries⟩
    · refine .inl (List.mem_filterMap.mpr ⟨item, ?_, carries⟩)
      exact List.mem_filter.mpr ⟨stored, by simpa using low⟩
  have added : ∀ (mgr : ConnectionIdMgr) (item : ConnectionIdItem), ∀ token ∈ mgr.resetTokens,
      token ∈ (mgr.withDcid item).resetTokens := by
    intro mgr item token member
    unfold resetTokens withDcid
    rw [List.filterMap_append]
    exact List.mem_append_left _ member
  rcases addDcid_cases (Prod.eta (mgr.addDcid cid seq resetToken retirePriorTo)).symm with
    ⟨_, same⟩ | ⟨_, same, _⟩ | ⟨_, _, _, _, _, same⟩ | ⟨_, _, _, _, _, _, _, same⟩ |
      ⟨_, _, _, raises, ⟨_, same⟩ | ⟨_, same⟩⟩ <;> rw [same] <;> refine ⟨rfl, rfl, rfl, ?_⟩
  · exact fun _ member => .inl member
  · exact fun _ member => .inl member
  · exact fun _ member => .inl member
  · exact fun token member => .inl (added mgr _ token member)
  · exact fun token member => (retires token member).imp_right fun dropped => ⟨raises, dropped⟩
  · intro token member
    exact (retires token member).imp (added _ _ token) fun dropped => ⟨raises, dropped⟩

theorem insertScid_ids (cid : ConnectionId) (resetToken : Option ResetToken)
    (advertise : Bool) (pathId : Option Nat) :
    (SameIds mgr (mgr.insertScid cid resetToken advertise pathId).2 ∧
        (mgr.insertScid cid resetToken advertise pathId).1.toOption = none) ∨
      ((mgr.insertScid cid resetToken advertise pathId).2.scidValues = mgr.scidValues ++ [cid] ∧
        (mgr.insertScid cid resetToken advertise pathId).2.resetTokens = mgr.resetTokens ∧
        (mgr.insertScid cid resetToken advertise pathId).2.zeroLengthScid = mgr.zeroLengthScid ∧
        (mgr.insertScid cid resetToken advertise pathId).2.zeroLengthDcid = mgr.zeroLengthDcid) := by
  rcases insertScid_cases mgr cid resetToken advertise pathId with ⟨_, same⟩ | ⟨_, same⟩
  · rw [same]
    exact .inl ⟨.refl mgr, rfl⟩
  · rw [same]
    refine .inr ?_
    unfold markScidToAdvertise scidValues
    dsimp only
    split <;> exact ⟨List.map_append, rfl, rfl, rfl⟩

/-- A new source id is put behind the others, or nothing changes. -/
theorem addScid_ids (cid : ConnectionId) (resetToken : Option ResetToken)
    (advertise : Bool) (pathId : Option Nat) (retireIfNeeded : Bool) :
    (SameIds mgr (mgr.addScid cid resetToken advertise pathId retireIfNeeded).2 ∧
        (mgr.addScid cid resetToken advertise pathId retireIfNeeded).1.toOption = none) ∨
      ((mgr.addScid cid resetToken advertise pathId retireIfNeeded).2.scidValues =
          mgr.scidValues ++ [cid] ∧
        (mgr.addScid cid resetToken advertise pathId retireIfNeeded).2.resetTokens =
          mgr.resetTokens ∧
        (mgr.addScid cid resetToken advertise pathId retireIfNeeded).2.zeroLengthScid = false ∧
        mgr.zeroLengthScid = false ∧
        (mgr.addScid cid resetToken advertise pathId retireIfNeeded).2.zeroLengthDcid =
          mgr.zeroLengthDcid) := by
  unfold addScid
  split_ifs with zero
  · exact .inl ⟨.refl mgr, rfl⟩
  · exact .inl ⟨.refl mgr, rfl⟩
  · cases mgr.lowestActiveScidSeq with
    | error error => exact .inl ⟨.refl mgr, rfl⟩
    | ok lowest =>
      rw [Bool.not_eq_true] at zero
      refine (insertScid_ids { mgr with retirePriorTo := lowest + 1 } cid resetToken advertise
        pathId).imp ?_ ?_
      · rintro ⟨same, failed⟩
        exact ⟨⟨same.scids, same.tokens, same.zeroScid, same.zeroDcid⟩, failed⟩
      · rintro ⟨scids, tokens, zeroScid, zeroDcid⟩
        exact ⟨scids, tokens, zeroScid.trans zero, zero, zeroDcid⟩
  · rw [Bool.not_eq_true] at zero
    refine (insertScid_ids mgr cid resetToken advertise pathId).imp_right ?_
    rintro ⟨scids, tokens, zeroScid, zeroDcid⟩
    exact ⟨scids, tokens, zeroScid.trans zero, zero, zeroDcid⟩

end

end ConnectionIdMgr

/-! ## Steps -/

namespace CidPathRun

open ConnectionIdMgr

/-- The peer retires a source id. -/
def Retires (mgr : ConnectionIdMgr) (op : Op) (cid : ConnectionId) : Prop :=
  ∃ seq pktDcid, op = .retireConnectionId seq pktDcid ∧ mgr.zeroLengthScid = false ∧
    (mgr.scids.get seq).map (·.cid) = some cid

def drops (mgr : ConnectionIdMgr) (token : ResetToken) : Op → Bool
  | .newConnectionId _ retirePriorTo _ _ => mgr.largestPeerRetirePriorTo < retirePriorTo &&
      mgr.dcids.queue.any fun item => item.seq < retirePriorTo && item.resetToken = some token
  | _ => false

/-- What is left of the ids after an operation that does not add a source id. -/
structure Remembers (op : Op) (before after : ConnectionIdMgr) : Prop where
  scids : ∀ cid ∈ before.scidValues, cid ∈ after.scidValues ∨ Retires before op cid
  old : ∀ cid ∈ after.scidValues, cid ∈ before.scidValues
  tokens : ∀ token ∈ before.resetTokens, token ∈ after.resetTokens ∨ drops before token op = true
  zeroScid : after.zeroLengthScid = before.zeroLengthScid
  zeroDcid : after.zeroLengthDcid = before.zeroLengthDcid

variable {run next : CidPathRun} {op : Op} {before after : ConnectionIdMgr}

theorem Remembers.of_same (same : SameIds before after) : Remembers op before after where
  scids := fun _ member => .inl (same.scids ▸ member)
  old := fun _ member => same.scids ▸ member
  tokens := fun _ member => .inl (same.tokens ▸ member)
  zeroScid := same.zeroScid
  zeroDcid := same.zeroDcid

private theorem addDcid_remembers (mgr : ConnectionIdMgr) (seqNum retirePriorTo : Nat)
    (connId : ConnectionId) (resetToken : ResetToken) :
    Remembers (.newConnectionId seqNum retirePriorTo connId resetToken) mgr
      (mgr.addDcid connId seqNum resetToken retirePriorTo).2 := by
  obtain ⟨scids, zeroScid, zeroDcid, tokens⟩ :=
    addDcid_ids mgr connId seqNum resetToken retirePriorTo
  have values : (mgr.addDcid connId seqNum resetToken retirePriorTo).2.scidValues =
      mgr.scidValues := by
    rw [scidValues, scids]
    rfl
  refine ⟨fun _ member => .inl (values ▸ member), fun _ member => values ▸ member, ?_, zeroScid,
    zeroDcid⟩
  intro token member
  refine (tokens token member).imp_right ?_
  rintro ⟨raises, item, stored, low, carries⟩
  refine Bool.and_eq_true_iff.mpr ⟨decide_eq_true raises, List.any_eq_true.mpr ⟨item, stored, ?_⟩⟩
  exact Bool.and_eq_true_iff.mpr ⟨decide_eq_true low, decide_eq_true carries⟩

private theorem retireScid_remembers {mgr : ConnectionIdMgr} (nonzero : mgr.zeroLengthScid = false)
    (seqNum : Nat) (pktDcid : ConnectionId) :
    Remembers (.retireConnectionId seqNum pktDcid) mgr (mgr.retireScid seqNum pktDcid).2 := by
  obtain ⟨scids, old, dcids, zeroScid, zeroDcid⟩ := retireScid_ids mgr seqNum pktDcid
  refine ⟨?_, old, ?_, zeroScid, zeroDcid⟩
  · intro cid member
    exact (scids cid member).imp_right fun found => ⟨_, _, rfl, nonzero, found⟩
  · intro token member
    unfold resetTokens
    rw [dcids]
    exact .inl member

private theorem sameIds_bookkeeping : Bookkeeping SameIds where
  refl := SameIds.refl
  trans := SameIds.trans
  scidUsed := markScidUsed_ids
  dcidUsed := markDcidUsed_ids
  advertised := markScidToAdvertise_ids
  retired := markDcidToRetire_ids

theorem step_remembers (stepped : run.step op = some next)
    (other : ∀ cid resetToken retireIfNeeded, op ≠ .addScid cid resetToken retireIfNeeded) :
    Remembers op run.conn.cids next.conn.cids := by
  obtain ⟨managed, manages, same⟩ := step_manages sameIds_bookkeeping stepped
  suffices remembers : Remembers op run.conn.cids managed by
    refine ⟨?_, ?_, ?_, same.zeroScid.trans remembers.zeroScid,
      same.zeroDcid.trans remembers.zeroDcid⟩
    · rw [same.scids]
      exact remembers.scids
    · rw [same.scids]
      exact remembers.old
    · rw [same.tokens]
      exact remembers.tokens
  cases manages with
  | none => exact .of_same (.refl _)
  | addDcid => exact addDcid_remembers _ _ _ _ _
  | retireScid nonzero => exact retireScid_remembers nonzero _ _
  | addScid => exact absurd rfl (other _ _ _)
  | setScidLimit => exact .of_same (setScidLimit_ids _ _)

end CidPathRun

end Tquic.Connection
