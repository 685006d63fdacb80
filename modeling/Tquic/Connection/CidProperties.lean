import Mathlib.Data.List.Nodup
import Tquic.Lib.Transition
import Tquic.Connection.Cid

/-! Which connection ids are active over any sequence of NEW_CONNECTION_ID and
RETIRE_CONNECTION_ID frames, sent, received and lost. -/

set_option autoImplicit false

namespace Tquic.Connection

open Lib

theorem ConnectionIdDeque.mem_of_get {deque : ConnectionIdDeque} {seq : Nat}
    {item : ConnectionIdItem} (stored : deque.get seq = some item) :
    item ∈ deque.queue ∧ item.seq = seq := by
  unfold get at stored
  have same := List.find?_some stored
  exact ⟨List.mem_of_find?_eq_some stored, of_decide_eq_true same⟩

namespace ConnectionIdMgr

/-! ## What adding a destination id does -/

/-- The manager when `item` joins the active destination ids. -/
def withDcid (mgr : ConnectionIdMgr) (item : ConnectionIdItem) : ConnectionIdMgr :=
  { mgr with dcids := { mgr.dcids with queue := mgr.dcids.queue ++ [item] } }

/-- The manager when `seq` joins the ids that wait for a RETIRE_CONNECTION_ID frame. -/
def withPending (mgr : ConnectionIdMgr) (seq : Nat) : ConnectionIdMgr :=
  { mgr with dcidsToRetire := mgr.dcidsToRetire ++ [seq] }

/-- No active destination id has this value or this sequence number. -/
def Fresh (mgr : ConnectionIdMgr) (cid : ConnectionId) (seq : Nat) : Prop :=
  ∀ item ∈ mgr.dcids.queue, item.cid ≠ cid ∧ item.seq ≠ seq

theorem insertDcid_cases (mgr : ConnectionIdMgr) (item : ConnectionIdItem)
    (retired : List (Nat × Nat)) :
    (mgr.dcids.queue.length = mgr.dcids.capacity ∧
        mgr.insertDcid item retired = (.error .connectionIdLimitError, mgr)) ∨
      (mgr.dcids.queue.length ≠ mgr.dcids.capacity ∧
        mgr.insertDcid item retired = (.ok retired, mgr.withDcid item)) := by
  unfold insertDcid ConnectionIdDeque.insert
  by_cases full : mgr.dcids.queue.length = mgr.dcids.capacity
  · exact .inl ⟨full, by simp [full]⟩
  · exact .inr ⟨full, by simp [full, withDcid]⟩

/-- All that `add_dcid` may do: refuse, find the id stored, retire it at once, or store it. -/
theorem addDcid_cases {mgr next : ConnectionIdMgr} {cid : ConnectionId} {seq : Nat}
    {resetToken : ResetToken} {retirePriorTo : Nat} {result : Except Error (List (Nat × Nat))}
    (added : mgr.addDcid cid seq resetToken retirePriorTo = (result, next)) :
    (result.toOption = none ∧ next = mgr) ∨
      (mgr.zeroLengthDcid = false ∧ next = mgr ∧ result = .ok [] ∧
        ∃ item ∈ mgr.dcids.queue,
          item.cid = cid ∧ item.seq = seq ∧ item.resetToken = some resetToken) ∨
      (mgr.zeroLengthDcid = false ∧ retirePriorTo ≤ seq ∧ mgr.Fresh cid seq ∧
        seq < mgr.largestPeerRetirePriorTo ∧ seq ∉ mgr.dcidsToRetire ∧
        next = mgr.withPending seq) ∨
      (mgr.zeroLengthDcid = false ∧ retirePriorTo ≤ seq ∧ mgr.Fresh cid seq ∧
        retirePriorTo ≤ mgr.largestPeerRetirePriorTo ∧
        (seq < mgr.largestPeerRetirePriorTo → seq ∈ mgr.dcidsToRetire) ∧
        mgr.dcids.queue.length ≠ mgr.dcids.capacity ∧ result = .ok [] ∧
        next = mgr.withDcid { cid, seq, resetToken := some resetToken, pathId := none }) ∨
      (mgr.zeroLengthDcid = false ∧ retirePriorTo ≤ seq ∧ mgr.Fresh cid seq ∧
        mgr.largestPeerRetirePriorTo < retirePriorTo ∧
        ((result.toOption = none ∧ next = (mgr.retireLower retirePriorTo).2) ∨
          (result = .ok (mgr.retireLower retirePriorTo).1 ∧
            next = (mgr.retireLower retirePriorTo).2.withDcid
              { cid, seq, resetToken := some resetToken, pathId := none }))) := by
  unfold addDcid at added
  by_cases zero : mgr.zeroLengthDcid = true
  · simp only [zero, if_true, Prod.mk.injEq] at added
    obtain ⟨rfl, rfl⟩ := added
    exact .inl ⟨rfl, rfl⟩
  rw [if_neg zero] at added
  rw [Bool.not_eq_true] at zero
  cases found : mgr.dcids.queue.find? (fun item => item.cid = cid || item.seq = seq) with
  | some item =>
    simp only [found] at added
    split_ifs at added with differs
    · simp only [Prod.mk.injEq] at added
      obtain ⟨rfl, rfl⟩ := added
      exact .inl ⟨rfl, rfl⟩
    · simp only [Prod.mk.injEq] at added
      obtain ⟨rfl, rfl⟩ := added
      simp only [Bool.or_eq_true, decide_eq_true_eq, not_or, not_not] at differs
      exact .inr (.inl ⟨zero, rfl, rfl, item, List.mem_of_find?_eq_some found,
        differs.1.1, differs.1.2, differs.2⟩)
  | none =>
    have fresh : mgr.Fresh cid seq := by
      intro item member
      simpa using List.find?_eq_none.mp found item member
    simp only [found] at added
    by_cases high : retirePriorTo > seq
    · simp only [high, if_true, Prod.mk.injEq] at added
      obtain ⟨rfl, rfl⟩ := added
      exact .inl ⟨rfl, rfl⟩
    rw [if_neg high] at added
    have low : retirePriorTo ≤ seq := Nat.le_of_not_lt high
    split_ifs at added with late raises
    · simp only [Prod.mk.injEq] at added
      simp only [Bool.and_eq_true, decide_eq_true_eq, Bool.not_eq_true', List.contains_eq_mem,
        decide_eq_false_iff_not] at late
      exact .inr (.inr (.inl ⟨zero, low, fresh, late.1, late.2, added.2.symm⟩))
    · refine .inr (.inr (.inr (.inr ⟨zero, low, fresh, raises, ?_⟩)))
      cases checked : (mgr.retireLower retirePriorTo).2.checkDcidsToRetire with
      | error error =>
        simp only [checked, Prod.mk.injEq] at added
        obtain ⟨rfl, rfl⟩ := added
        exact .inl ⟨rfl, rfl⟩
      | ok done =>
        simp only [checked] at added
        rcases insertDcid_cases (mgr.retireLower retirePriorTo).2
          { cid, seq, resetToken := some resetToken, pathId := none }
          (mgr.retireLower retirePriorTo).1 with ⟨_, refused⟩ | ⟨_, accepted⟩
        · rw [refused, Prod.mk.injEq] at added
          obtain ⟨rfl, rfl⟩ := added
          exact .inl ⟨rfl, rfl⟩
        · rw [accepted, Prod.mk.injEq] at added
          exact .inr ⟨added.1.symm, added.2.symm⟩
    · rcases insertDcid_cases mgr { cid, seq, resetToken := some resetToken, pathId := none } []
        with ⟨_, refused⟩ | ⟨room, accepted⟩
      · rw [refused, Prod.mk.injEq] at added
        obtain ⟨rfl, rfl⟩ := added
        exact .inl ⟨rfl, rfl⟩
      · rw [accepted, Prod.mk.injEq] at added
        refine .inr (.inr (.inr (.inl ⟨zero, low, fresh, Nat.le_of_not_lt raises, ?_, room,
          added.1.symm, added.2.symm⟩)))
        intro below
        simpa [below] using late

/-! ## What stays the same -/

def dcidSeqs (mgr : ConnectionIdMgr) : List Nat := mgr.dcids.queue.map (·.seq)

def dcidValues (mgr : ConnectionIdMgr) : List ConnectionId := mgr.dcids.queue.map (·.cid)

def scidSeqs (mgr : ConnectionIdMgr) : List Nat := mgr.scids.queue.map (·.seq)

/-- Both managers have the same destination ids, apart from the paths that use them. -/
structure SameDcids (before after : ConnectionIdMgr) : Prop where
  seqs : after.dcidSeqs = before.dcidSeqs
  values : after.dcidValues = before.dcidValues
  largest : after.largestPeerRetirePriorTo = before.largestPeerRetirePriorTo
  pending : after.dcidsToRetire = before.dcidsToRetire

/-- Both managers have the same destination ids, with the paths that use them. -/
structure KeepsDcids (before after : ConnectionIdMgr) : Prop where
  dcids : after.dcids = before.dcids
  largest : after.largestPeerRetirePriorTo = before.largestPeerRetirePriorTo
  pending : after.dcidsToRetire = before.dcidsToRetire
  zeroLength : after.zeroLengthDcid = before.zeroLengthDcid

theorem KeepsDcids.refl (mgr : ConnectionIdMgr) : KeepsDcids mgr mgr :=
  ⟨rfl, rfl, rfl, rfl⟩

theorem KeepsDcids.trans {before middle after : ConnectionIdMgr} (left : KeepsDcids before middle)
    (right : KeepsDcids middle after) : KeepsDcids before after :=
  ⟨right.dcids.trans left.dcids, right.largest.trans left.largest,
    right.pending.trans left.pending, right.zeroLength.trans left.zeroLength⟩

theorem KeepsDcids.same {before after : ConnectionIdMgr} (keeps : KeepsDcids before after) :
    SameDcids before after :=
  ⟨congrArg (fun dcids => dcids.queue.map (·.seq)) keeps.dcids,
    congrArg (fun dcids => dcids.queue.map (·.cid)) keeps.dcids, keeps.largest, keeps.pending⟩

/-- Both managers have the same source ids, apart from the paths that use them. -/
structure SameScids (before after : ConnectionIdMgr) : Prop where
  seqs : after.scidSeqs = before.scidSeqs
  next : after.nextScidSeq = before.nextScidSeq

/-- The sequence numbers of source ids are handed out once. -/
structure Numbered (mgr : ConnectionIdMgr) : Prop where
  unique : mgr.scidSeqs.Nodup
  below : ∀ seq ∈ mgr.scidSeqs, seq < mgr.nextScidSeq

theorem SameScids.numbered {before after : ConnectionIdMgr} (same : SameScids before after)
    (numbered : Numbered before) : Numbered after := by
  constructor
  · rw [same.seqs]
    exact numbered.unique
  · rw [same.seqs, same.next]
    exact numbered.below

theorem setInitialDcid_queue (mgr : ConnectionIdMgr) (cid : ConnectionId)
    (resetToken : Option ResetToken) (pathId : Option Nat) :
    (mgr.setInitialDcid cid resetToken pathId).dcids.queue = [] ∨
      (mgr.setInitialDcid cid resetToken pathId).dcids.queue =
        [{ cid, seq := 0, resetToken, pathId }] := by
  by_cases full : mgr.dcids.capacity = 0
  · exact .inl (by simp [setInitialDcid, ConnectionIdDeque.insert, ConnectionIdDeque.clear, full,
      Except.toOption])
  · exact .inr (by simp [setInitialDcid, ConnectionIdDeque.insert, ConnectionIdDeque.clear,
      Ne.symm full, Except.toOption])

theorem addDcid_sameScids (mgr : ConnectionIdMgr) (cid : ConnectionId) (seq : Nat)
    (resetToken : ResetToken) (retirePriorTo : Nat) :
    SameScids mgr (mgr.addDcid cid seq resetToken retirePriorTo).2 := by
  rcases addDcid_cases (Prod.eta (mgr.addDcid cid seq resetToken retirePriorTo)).symm with
    ⟨_, same⟩ | ⟨_, same, _⟩ | ⟨_, _, _, _, _, same⟩ | ⟨_, _, _, _, _, _, _, same⟩ |
      ⟨_, _, _, _, ⟨_, same⟩ | ⟨_, same⟩⟩ <;>
    rw [same] <;> exact ⟨rfl, rfl⟩

theorem markUsed_same {seq pathId : Nat} {queue marked : List ConnectionIdItem}
    (found : ConnectionIdDeque.markUsed seq pathId queue = some marked) :
    marked.map (·.seq) = queue.map (·.seq) ∧ marked.map (·.cid) = queue.map (·.cid) := by
  induction queue generalizing marked with
  | nil => simp [ConnectionIdDeque.markUsed] at found
  | cons item rest ih =>
    unfold ConnectionIdDeque.markUsed at found
    by_cases here : item.seq = seq
    · simp only [here, if_true, Option.some.injEq] at found
      subst found
      simp [here]
    · simp only [here, if_false, Option.map_eq_some_iff] at found
      obtain ⟨tail, marks, rfl⟩ := found
      obtain ⟨seqs, values⟩ := ih marks
      simp [seqs, values]

theorem markDcidUsed_same {mgr next : ConnectionIdMgr} {seq pathId : Nat}
    (marked : mgr.markDcidUsed seq pathId = .ok next) :
    SameDcids mgr next ∧ SameScids mgr next := by
  unfold markDcidUsed at marked
  split at marked
  · cases marked
  · next queue found =>
      cases marked
      obtain ⟨seqs, values⟩ := markUsed_same found
      exact ⟨⟨seqs, values, rfl, rfl⟩, ⟨rfl, rfl⟩⟩

theorem markScidUsed_same {mgr next : ConnectionIdMgr} {seq pathId : Nat}
    (marked : mgr.markScidUsed seq pathId = .ok next) :
    KeepsDcids mgr next ∧ SameScids mgr next := by
  unfold markScidUsed at marked
  split at marked
  · cases marked
  · next queue found =>
      cases marked
      exact ⟨⟨rfl, rfl, rfl, rfl⟩, ⟨(markUsed_same found).1, rfl⟩⟩

theorem markScidToAdvertise_same (mgr : ConnectionIdMgr) (seq : Nat) (advertise : Bool) :
    KeepsDcids mgr (mgr.markScidToAdvertise seq advertise) ∧
      SameScids mgr (mgr.markScidToAdvertise seq advertise) := by
  unfold markScidToAdvertise
  split <;> exact ⟨⟨rfl, rfl, rfl, rfl⟩, ⟨rfl, rfl⟩⟩

theorem setScidLimit_same (mgr : ConnectionIdMgr) (limit : Nat) :
    KeepsDcids mgr (mgr.setScidLimit limit) ∧ SameScids mgr (mgr.setScidLimit limit) := by
  refine ⟨⟨rfl, rfl, rfl, rfl⟩, ⟨?_, rfl⟩⟩
  simp only [scidSeqs, setScidLimit, ConnectionIdDeque.enlarge]
  split <;> rfl

section AddScid

variable (mgr : ConnectionIdMgr) (cid : ConnectionId) (resetToken : Option ResetToken)
  (advertise : Bool) (pathId : Option Nat)

/-- The manager with one more source id. -/
def appendScid : ConnectionIdMgr :=
  { mgr with
    scids :=
      { mgr.scids with
        queue := mgr.scids.queue ++ [{ cid, seq := mgr.nextScidSeq, resetToken, pathId }] }
    nextScidSeq := mgr.nextScidSeq + 1 }

theorem insertScid_cases :
    (∃ error, mgr.insertScid cid resetToken advertise pathId = (.error error, mgr)) ∨
      (mgr.nextScidSeq ≠ 0 → resetToken.isSome) ∧
        mgr.insertScid cid resetToken advertise pathId = (.ok mgr.nextScidSeq,
          (mgr.appendScid cid resetToken pathId).markScidToAdvertise mgr.nextScidSeq advertise) := by
  unfold insertScid ConnectionIdDeque.insert
  dsimp only
  by_cases bare : (mgr.nextScidSeq ≠ 0 && resetToken.isNone) = true
  · exact .inl ⟨_, if_pos bare⟩
  rw [if_neg bare]
  by_cases full : mgr.scids.queue.length = mgr.scids.capacity
  · rw [if_pos full]
    exact .inl ⟨_, rfl⟩
  · rw [if_neg full]
    exact .inr ⟨fun later => by simpa [later, Option.isSome_iff_ne_none] using bare, rfl⟩

/-- What holds before the lowest source id is given up and after, and when an id is appended, holds
after the call. -/
theorem addScid_induct {good : ConnectionIdMgr → Prop} (retireIfNeeded : Bool) (held : good mgr)
    (raised : ∀ lowest, retireIfNeeded = true → mgr.scids.queue.length ≥ mgr.scidLimit →
      mgr.lowestActiveScidSeq = .ok lowest → good { mgr with retirePriorTo := lowest + 1 })
    (appended : ∀ before, good before → (before.nextScidSeq ≠ 0 → resetToken.isSome) →
      good ((before.appendScid cid resetToken pathId).markScidToAdvertise before.nextScidSeq
        advertise)) :
    good (mgr.addScid cid resetToken advertise pathId retireIfNeeded).2 := by
  have inserted : ∀ before, good before →
      good (before.insertScid cid resetToken advertise pathId).2 := by
    intro before held
    rcases insertScid_cases before cid resetToken advertise pathId with ⟨_, same⟩ | ⟨named, same⟩
    · rwa [same]
    · rw [same]
      exact appended before held named
  unfold addScid
  split_ifs with bare full kept
  · exact held
  · exact held
  · cases found : mgr.lowestActiveScidSeq with
    | error error => exact held
    | ok lowest => exact inserted _ (raised lowest (by simpa using kept) full found)
  · exact inserted mgr held

end AddScid

theorem addScid_keeps (mgr : ConnectionIdMgr) (cid : ConnectionId)
    (resetToken : Option ResetToken) (advertise : Bool) (pathId : Option Nat)
    (retireIfNeeded : Bool) :
    KeepsDcids mgr (mgr.addScid cid resetToken advertise pathId retireIfNeeded).2 := by
  refine addScid_induct _ _ _ _ _ _ (.refl mgr) (fun _ _ _ _ => ⟨rfl, rfl, rfl, rfl⟩)
    fun before kept _ => kept.trans ?_
  obtain ⟨dcids, largest, pending, zeroLength⟩ := (markScidToAdvertise_same
    (before.appendScid cid resetToken pathId) before.nextScidSeq advertise).1
  exact ⟨dcids, largest, pending, zeroLength⟩

theorem appendScid_numbered {mgr : ConnectionIdMgr} (numbered : Numbered mgr) (cid : ConnectionId)
    (resetToken : Option ResetToken) (pathId : Option Nat) :
    Numbered (mgr.appendScid cid resetToken pathId) := by
  constructor
  · simp only [appendScid, scidSeqs, List.map_append, List.map_cons, List.map_nil]
    refine List.nodup_append.mpr ⟨numbered.unique, List.nodup_singleton _, ?_⟩
    intro seq member other here
    have below := numbered.below seq member
    simp only [List.mem_singleton] at here
    omega
  · intro seq member
    simp only [appendScid, scidSeqs, List.map_append, List.map_cons, List.map_nil, List.mem_append,
      List.mem_singleton] at member ⊢
    rcases member with old | rfl
    · exact Nat.lt_succ_of_lt (numbered.below seq old)
    · exact Nat.lt_succ_self _

theorem addScid_numbered {mgr : ConnectionIdMgr} (numbered : Numbered mgr) (cid : ConnectionId)
    (resetToken : Option ResetToken) (advertise : Bool) (pathId : Option Nat)
    (retireIfNeeded : Bool) :
    Numbered (mgr.addScid cid resetToken advertise pathId retireIfNeeded).2 :=
  addScid_induct _ _ _ _ _ _ numbered (fun _ _ _ _ => ⟨numbered.unique, numbered.below⟩)
    fun before numbered _ => (markScidToAdvertise_same _ before.nextScidSeq advertise).2.numbered
      (appendScid_numbered numbered cid resetToken pathId)

theorem Numbered.of_sublist {mgr next : ConnectionIdMgr} (numbered : Numbered mgr)
    (fewer : next.scidSeqs.Sublist mgr.scidSeqs) (same : next.nextScidSeq = mgr.nextScidSeq) :
    Numbered next := by
  constructor
  · exact numbered.unique.sublist fewer
  · intro seq member
    rw [same]
    exact numbered.below seq (fewer.subset member)

/-- What `retire_scid` can do: nothing, or remove one source id. -/
theorem retireScid_cases (mgr : ConnectionIdMgr) (seq : Nat) (pktDcid : ConnectionId) :
    (mgr.retireScid seq pktDcid).2 = mgr ∨
      ∃ scids lowest, scids.queue = mgr.scids.queue.eraseP (fun item => item.seq = seq) ∧
        mgr.scids.queue.length ≠ 1 ∧
        (lowest = mgr.retirePriorTo ∨ { mgr with scids }.lowestActiveScidSeq = .ok lowest) ∧
        (mgr.retireScid seq pktDcid).2 = { mgr with scids, retirePriorTo := lowest } := by
  unfold retireScid
  split
  · exact .inl rfl
  cases removed : mgr.scids.remove seq with
  | error error => exact .inl rfl
  | ok outcome =>
    obtain ⟨item, scids⟩ := outcome
    cases item with
    | none => exact .inl rfl
    | some item =>
      unfold ConnectionIdDeque.remove at removed
      split_ifs at removed with empty last
      simp only [Except.ok.injEq, Prod.mk.injEq] at removed
      obtain ⟨present, rfl⟩ := removed
      have several : mgr.scids.queue.length ≠ 1 := by
        intro single
        simp [single, present] at last
      dsimp only
      split
      · exact .inr ⟨_, mgr.retirePriorTo, rfl, several, .inl rfl, rfl⟩
      · split
        · exact .inr ⟨_, mgr.retirePriorTo, rfl, several, .inl rfl, rfl⟩
        · next found => exact .inr ⟨_, _, rfl, several, .inr found, rfl⟩

theorem retireScid_keeps (mgr : ConnectionIdMgr) (seq : Nat) (pktDcid : ConnectionId) :
    KeepsDcids mgr (mgr.retireScid seq pktDcid).2 := by
  rcases retireScid_cases mgr seq pktDcid with same | ⟨scids, lowest, _, _, _, removed⟩
  · rw [same]
    exact .refl mgr
  · rw [removed]
    exact ⟨rfl, rfl, rfl, rfl⟩

theorem retireScid_numbered {mgr : ConnectionIdMgr} (numbered : Numbered mgr) (seq : Nat)
    (pktDcid : ConnectionId) : Numbered (mgr.retireScid seq pktDcid).2 := by
  rcases retireScid_cases mgr seq pktDcid with same | ⟨scids, lowest, erased, _, _, removed⟩
  · rw [same]
    exact numbered
  · rw [removed]
    exact numbered.of_sublist (List.Sublist.map _ (erased ▸ List.eraseP_sublist)) rfl

/-! ## Active and retired destination ids -/

/-- Active destination ids lie at or above the largest Retire Prior To, and what waits
for a RETIRE_CONNECTION_ID frame, or was sent in one, lies below. -/
structure Bookkept (mgr : ConnectionIdMgr) (sent : List Nat) : Prop where
  active : ∀ seq ∈ mgr.dcidSeqs, mgr.largestPeerRetirePriorTo ≤ seq
  pending : ∀ seq ∈ mgr.dcidsToRetire, seq < mgr.largestPeerRetirePriorTo
  sent : ∀ seq ∈ sent, seq < mgr.largestPeerRetirePriorTo
  seqs : mgr.dcidSeqs.Nodup
  values : mgr.dcidValues.Nodup

variable {mgr next : ConnectionIdMgr} {sent : List Nat}

theorem Bookkept.not_pending (kept : Bookkept mgr sent) {seq : Nat} (active : seq ∈ mgr.dcidSeqs) :
    seq ∉ mgr.dcidsToRetire := by
  intro waits
  have above := kept.active seq active
  have below := kept.pending seq waits
  omega

theorem SameDcids.bookkept (same : SameDcids mgr next) (kept : Bookkept mgr sent) :
    Bookkept next sent := by
  constructor
  · rw [same.seqs, same.largest]
    exact kept.active
  · rw [same.pending, same.largest]
    exact kept.pending
  · rw [same.largest]
    exact kept.sent
  · rw [same.seqs]
    exact kept.seqs
  · rw [same.values]
    exact kept.values

theorem setInitialDcid_bookkept (fresh : mgr.dcidsToRetire = []) (cid : ConnectionId)
    (unraised : mgr.largestPeerRetirePriorTo = 0) (resetToken : Option ResetToken)
    (pathId : Option Nat) : Bookkept (mgr.setInitialDcid cid resetToken pathId) [] := by
  have queue := setInitialDcid_queue mgr cid resetToken pathId
  have pending : (mgr.setInitialDcid cid resetToken pathId).dcidsToRetire = [] := fresh
  have largest : (mgr.setInitialDcid cid resetToken pathId).largestPeerRetirePriorTo = 0 :=
    unraised
  refine ⟨?_, ?_, ?_, ?_, ?_⟩
  · rw [largest]
    exact fun seq _ => Nat.zero_le seq
  · simp [pending]
  · simp
  · rcases queue with empty | single
    · simp [dcidSeqs, empty]
    · simp [dcidSeqs, single]
  · rcases queue with empty | single
    · simp [dcidValues, empty]
    · simp [dcidValues, single]

theorem Bookkept.withPending (kept : Bookkept mgr sent) {seq : Nat}
    (below : seq < mgr.largestPeerRetirePriorTo) : Bookkept (mgr.withPending seq) sent := by
  refine { kept with pending := ?_ }
  intro other member
  simp only [ConnectionIdMgr.withPending, List.mem_append, List.mem_singleton] at member
  rcases member with old | rfl
  · exact kept.pending other old
  · exact below

theorem dcidSeqs_withDcid (mgr : ConnectionIdMgr) (item : ConnectionIdItem) :
    (mgr.withDcid item).dcidSeqs = mgr.dcidSeqs ++ [item.seq] := by
  simp [dcidSeqs, withDcid]

private theorem dcidValues_withDcid (mgr : ConnectionIdMgr) (item : ConnectionIdItem) :
    (mgr.withDcid item).dcidValues = mgr.dcidValues ++ [item.cid] := by
  simp [dcidValues, withDcid]

/-- A fresh id above the retired ones may be stored. -/
theorem Bookkept.withDcid (kept : Bookkept mgr sent) {item : ConnectionIdItem}
    (fresh : mgr.Fresh item.cid item.seq) (above : mgr.largestPeerRetirePriorTo ≤ item.seq) :
    Bookkept (mgr.withDcid item) sent := by
  refine { kept with active := ?_, seqs := ?_, values := ?_ }
  · intro seq member
    rw [dcidSeqs_withDcid, List.mem_append, List.mem_singleton] at member
    rcases member with old | rfl
    · exact kept.active seq old
    · exact above
  · rw [dcidSeqs_withDcid]
    refine List.nodup_append.mpr ⟨kept.seqs, List.nodup_singleton _, ?_⟩
    intro seq member other here same
    obtain ⟨old, present, rfl⟩ := List.mem_map.mp member
    rw [List.mem_singleton.mp here] at same
    exact (fresh old present).2 same
  · rw [dcidValues_withDcid]
    refine List.nodup_append.mpr ⟨kept.values, List.nodup_singleton _, ?_⟩
    intro value member other here same
    obtain ⟨old, present, rfl⟩ := List.mem_map.mp member
    rw [List.mem_singleton.mp here] at same
    exact (fresh old present).1 same

theorem retireLower_sublist (mgr : ConnectionIdMgr) (retirePriorTo : Nat) :
    (mgr.retireLower retirePriorTo).2.dcids.queue.Sublist mgr.dcids.queue :=
  List.filter_sublist

private theorem mem_retireLower_pending {retirePriorTo seq : Nat} :
    seq ∈ (mgr.retireLower retirePriorTo).2.dcidsToRetire ↔
      seq ∈ mgr.dcidsToRetire ∨ seq ∈ mgr.dcidSeqs ∧ seq < retirePriorTo := by
  simp only [retireLower, ConnectionIdDeque.removeLower, dcidSeqs, List.mem_append, List.mem_map,
    List.mem_filter, decide_eq_true_eq]
  grind

theorem Bookkept.retireLower (kept : Bookkept mgr sent) {retirePriorTo : Nat}
    (raises : mgr.largestPeerRetirePriorTo < retirePriorTo) :
    Bookkept (mgr.retireLower retirePriorTo).2 sent := by
  have fewer := retireLower_sublist mgr retirePriorTo
  refine ⟨?_, ?_, ?_, ?_, ?_⟩
  · intro seq member
    obtain ⟨item, present, rfl⟩ := List.mem_map.mp member
    have stays := (List.mem_filter.mp present).2
    simpa [ConnectionIdMgr.retireLower] using stays
  · intro seq member
    rcases mem_retireLower_pending.mp member with old | ⟨_, below⟩
    · exact Nat.lt_trans (kept.pending seq old) raises
    · exact below
  · exact fun seq member => Nat.lt_trans (kept.sent seq member) raises
  · exact kept.seqs.sublist (fewer.map _)
  · exact kept.values.sublist (fewer.map _)

/-- The frame announces an id that waits to be retired, and `add_dcid` makes that id
active again. -/
def Revived (mgr : ConnectionIdMgr) (cid : ConnectionId) (seq retirePriorTo : Nat) : Prop :=
  mgr.zeroLengthDcid = false ∧ mgr.Fresh cid seq ∧ retirePriorTo ≤ seq ∧
    seq < mgr.largestPeerRetirePriorTo ∧ seq ∈ mgr.dcidsToRetire ∧
    mgr.dcids.queue.length ≠ mgr.dcids.capacity

/-- The frame repeats an active id, and `add_dcid` drops its larger Retire Prior To. -/
def Overlooked (mgr : ConnectionIdMgr) (cid : ConnectionId) (seq : Nat) (resetToken : ResetToken)
    (retirePriorTo : Nat) : Prop :=
  mgr.zeroLengthDcid = false ∧
    (∃ item ∈ mgr.dcids.queue,
      item.cid = cid ∧ item.seq = seq ∧ item.resetToken = some resetToken) ∧
    mgr.largestPeerRetirePriorTo < retirePriorTo

instance (mgr : ConnectionIdMgr) (cid : ConnectionId) (seq : Nat) :
    Decidable (mgr.Fresh cid seq) :=
  inferInstanceAs (Decidable (∀ item ∈ mgr.dcids.queue, item.cid ≠ cid ∧ item.seq ≠ seq))

instance (mgr : ConnectionIdMgr) (cid : ConnectionId) (seq retirePriorTo : Nat) :
    Decidable (mgr.Revived cid seq retirePriorTo) :=
  inferInstanceAs (Decidable (_ ∧ _ ∧ _ ∧ _ ∧ _ ∧ _))

instance (mgr : ConnectionIdMgr) (cid : ConnectionId) (seq : Nat) (resetToken : ResetToken)
    (retirePriorTo : Nat) : Decidable (mgr.Overlooked cid seq resetToken retirePriorTo) :=
  inferInstanceAs (Decidable (_ ∧ _ ∧ _))

section AddDcid

variable {cid : ConnectionId} {seq : Nat} {resetToken : ResetToken} {retirePriorTo : Nat}
  {result : Except Error (List (Nat × Nat))}

/-- `add_dcid` keeps the books, unless it revives a number that waits to be retired. -/
theorem Bookkept.addDcid (kept : Bookkept mgr sent) (regular : ¬ mgr.Revived cid seq retirePriorTo)
    (added : mgr.addDcid cid seq resetToken retirePriorTo = (result, next)) :
    Bookkept next sent := by
  rcases addDcid_cases added with ⟨_, rfl⟩ | ⟨_, rfl, _, _⟩ | ⟨_, _, _, late, _, rfl⟩ |
      ⟨zero, low, fresh, _, waits, room, _, rfl⟩ | ⟨_, low, fresh, raises, outcome⟩
  · exact kept
  · exact kept
  · exact kept.withPending late
  · have above : mgr.largestPeerRetirePriorTo ≤ seq := by
      by_contra below
      have early : seq < mgr.largestPeerRetirePriorTo := by omega
      exact regular ⟨zero, fresh, low, early, waits early, room⟩
    exact kept.withDcid fresh above
  · have raised := kept.retireLower raises
    rcases outcome with ⟨_, rfl⟩ | ⟨_, rfl⟩
    · exact raised
    · have still : (mgr.retireLower retirePriorTo).2.Fresh cid seq :=
        fun item member => fresh item ((retireLower_sublist mgr retirePriorTo).subset member)
      exact raised.withDcid still low

/-- The largest Retire Prior To never falls, and follows every frame that is not overlooked. -/
theorem addDcid_largest (regular : ¬ mgr.Overlooked cid seq resetToken retirePriorTo)
    (added : mgr.addDcid cid seq resetToken retirePriorTo = (result, next)) :
    mgr.largestPeerRetirePriorTo ≤ next.largestPeerRetirePriorTo ∧
      (result.toOption ≠ none → retirePriorTo ≤ next.largestPeerRetirePriorTo) := by
  rcases addDcid_cases added with ⟨refused, rfl⟩ | ⟨zero, rfl, _, repeated⟩ |
      ⟨_, low, _, late, _, rfl⟩ | ⟨_, _, _, small, _, _, _, rfl⟩ | ⟨_, _, _, raises, outcome⟩
  · exact ⟨Nat.le_refl _, fun accepted => absurd refused accepted⟩
  · refine ⟨Nat.le_refl _, fun _ => ?_⟩
    by_contra large
    exact regular ⟨zero, repeated, by omega⟩
  · refine ⟨Nat.le_refl _, fun _ => ?_⟩
    show retirePriorTo ≤ mgr.largestPeerRetirePriorTo
    omega
  · exact ⟨Nat.le_refl _, fun _ => small⟩
  · rcases outcome with ⟨_, rfl⟩ | ⟨_, rfl⟩
    · exact ⟨Nat.le_of_lt raises, fun _ => Nat.le_refl _⟩
    · exact ⟨Nat.le_of_lt raises, fun _ => Nat.le_refl _⟩

end AddDcid

theorem Bookkept.retired (kept : Bookkept mgr sent) {seq : Nat}
    (front : mgr.nextDcidToRetire = some seq) :
    Bookkept (mgr.markDcidToRetire seq false) (seq :: sent) := by
  have waits : seq ∈ mgr.dcidsToRetire := List.mem_of_mem_head? front
  refine { kept with pending := ?_, sent := ?_ }
  · intro other member
    simp only [markDcidToRetire, Bool.false_eq_true, if_false] at member
    exact kept.pending other (List.mem_filter.mp member).1
  · intro other member
    rcases List.mem_cons.mp member with rfl | old
    · exact kept.pending other waits
    · exact kept.sent other old

theorem Bookkept.lost (kept : Bookkept mgr sent) {seq : Nat} (member : seq ∈ sent) :
    Bookkept (mgr.markDcidToRetire seq true) sent :=
  kept.withPending (kept.sent seq member)

end ConnectionIdMgr

end Tquic.Connection
