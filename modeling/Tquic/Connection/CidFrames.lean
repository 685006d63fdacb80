import Tquic.Connection.CidAdvertisement

/-! The frames that announce source ids, over runs in which ids are given up before the peer has
learned them. -/

set_option autoImplicit false

namespace Tquic.Connection

open Lib

namespace ConnectionIdMgr

variable {mgr next : ConnectionIdMgr}

/-- No number that waits to be announced lies below the numbers that the peer shall retire. -/
structure Announceable (mgr : ConnectionIdMgr) : Prop where
  below : ∀ seq ∈ mgr.scidSeqs, seq < mgr.nextScidSeq
  raised : mgr.retirePriorTo ≤ mgr.nextScidSeq
  waiting : ∀ seq ∈ mgr.scidsToAdvertise, seq ∈ mgr.scidSeqs → mgr.retirePriorTo ≤ seq

theorem Announceable.frame (announceable : mgr.Announceable) {seq number retirePriorTo : Nat}
    {cid : ConnectionId} {token : Vector UInt8 16} (waits : seq ∈ mgr.scidsToAdvertise)
    (created : mgr.createNewConnectionIdFrame seq =
      .ok (.newConnectionId number retirePriorTo cid token)) : retirePriorTo ≤ number := by
  unfold createNewConnectionIdFrame at created
  cases stored : mgr.scids.get seq with
  | none =>
    rw [stored] at created
    cases created
  | some item =>
    rw [stored] at created
    dsimp only at created
    split at created
    · cases created
    · cases created
      obtain ⟨member, same⟩ := ConnectionIdDeque.mem_of_get stored
      exact announceable.waiting seq waits (List.mem_map.mpr ⟨item, member, same⟩)

theorem lowestActiveScidSeq_ok {lowest : Nat} (found : mgr.lowestActiveScidSeq = .ok lowest) :
    lowest ∈ mgr.scidSeqs ∧ mgr.retirePriorTo ≤ lowest ∧
      ∀ seq ∈ mgr.scidSeqs, mgr.retirePriorTo ≤ seq → lowest ≤ seq := by
  unfold lowestActiveScidSeq at found
  split at found
  · cases found
  · rename_i least
    cases found
    obtain ⟨member, bound⟩ := List.min?_eq_some_iff.mp least
    obtain ⟨stored, active⟩ := List.mem_filter.mp member
    refine ⟨stored, of_decide_eq_true active, fun seq present above => ?_⟩
    exact bound seq (List.mem_filter.mpr ⟨present, decide_eq_true above⟩)

/-! ## Operations -/

theorem SameAnnouncements.announceable (same : SameAnnouncements mgr next)
    (retired : next.retirePriorTo = mgr.retirePriorTo) (announceable : mgr.Announceable) :
    next.Announceable := by
  have seqs : next.scidSeqs = mgr.scidSeqs := by
    have firsts := congrArg (List.map Prod.fst) same.scids
    rw [List.map_map, List.map_map] at firsts
    exact firsts
  constructor
  · rw [seqs, same.next]
    exact announceable.below
  · rw [same.next, retired]
    exact announceable.raised
  · rw [same.queue, seqs, retired]
    exact announceable.waiting

private theorem addDcid_retirePriorTo (mgr : ConnectionIdMgr) (cid : ConnectionId) (seq : Nat)
    (resetToken : ResetToken) (retirePriorTo : Nat) :
    (mgr.addDcid cid seq resetToken retirePriorTo).2.retirePriorTo = mgr.retirePriorTo := by
  rcases addDcid_cases (Prod.eta (mgr.addDcid cid seq resetToken retirePriorTo)).symm with
    ⟨_, same⟩ | ⟨_, same, _⟩ | ⟨_, _, _, _, _, same⟩ | ⟨_, _, _, _, _, _, _, same⟩ |
      ⟨_, _, _, _, ⟨_, same⟩ | ⟨_, same⟩⟩ <;>
    rw [same] <;> rfl

private theorem markDcidUsed_retirePriorTo {seq pathId : Nat}
    (marked : mgr.markDcidUsed seq pathId = .ok next) : next.retirePriorTo = mgr.retirePriorTo := by
  unfold markDcidUsed at marked
  split at marked <;> cases marked
  rfl

private theorem markScidUsed_retirePriorTo {seq pathId : Nat}
    (marked : mgr.markScidUsed seq pathId = .ok next) : next.retirePriorTo = mgr.retirePriorTo := by
  unfold markScidUsed at marked
  split at marked <;> cases marked
  rfl

def Displaces (mgr : ConnectionIdMgr) (retireIfNeeded : Bool) (seq : Nat) : Prop :=
  retireIfNeeded = true ∧ mgr.scidLimit ≤ mgr.scids.queue.length ∧ mgr.lowestActiveScidSeq = .ok seq

/-- What waits stays above Retire Prior To, unless a new source id displaces one that waits. -/
theorem Announceable.addScid (announceable : mgr.Announceable) (cid : ConnectionId)
    (resetToken : Option ResetToken) (advertise : Bool) (pathId : Option Nat)
    (retireIfNeeded : Bool)
    (known : ∀ seq, mgr.Displaces retireIfNeeded seq → seq ∉ mgr.scidsToAdvertise) :
    (mgr.addScid cid resetToken advertise pathId retireIfNeeded).2.Announceable := by
  refine addScid_induct _ _ _ _ _ _ announceable (fun lowest retires full found => ?_)
    fun before announceable _ => ?_
  · obtain ⟨stored, active, least⟩ := lowestActiveScidSeq_ok found
    have new := known lowest ⟨retires, full, found⟩
    refine ⟨announceable.below, announceable.below lowest stored, fun seq waits member => ?_⟩
    have bound := least seq member (announceable.waiting seq waits member)
    exact lt_of_le_of_ne bound fun same => new (same ▸ waits)
  have seqs : ∀ seq ∈ before.scidSeqs ++ [before.nextScidSeq], seq < before.nextScidSeq + 1 := by
    intro seq member
    rcases List.mem_append.mp member with old | new
    · exact Nat.lt_succ_of_lt (announceable.below seq old)
    · rw [List.mem_singleton.mp new]
      exact Nat.lt_succ_self _
  have grown : (before.appendScid cid resetToken pathId).scidSeqs =
      before.scidSeqs ++ [before.nextScidSeq] := List.map_append
  have raised := announceable.raised
  have old : ∀ seq ∈ before.scidsToAdvertise, seq ∈ before.scidSeqs ++ [before.nextScidSeq] →
      before.retirePriorTo ≤ seq := by
    intro seq waits stored
    rcases List.mem_append.mp stored with earlier | new
    · exact announceable.waiting seq waits earlier
    · rw [List.mem_singleton.mp new]
      exact raised
  unfold markScidToAdvertise
  split
  · refine ⟨grown ▸ seqs, Nat.le_succ_of_le raised, ?_⟩
    intro seq waits stored
    rcases List.mem_append.mp waits with earlier | new
    · exact old seq earlier (grown ▸ stored)
    · rw [List.mem_singleton.mp new]
      exact raised
  · refine ⟨grown ▸ seqs, Nat.le_succ_of_le raised, ?_⟩
    intro seq waits stored
    exact old seq (List.mem_of_mem_filter waits) (grown ▸ stored)

private theorem retireScid_lowest (mgr : ConnectionIdMgr) (seq : Nat) (pktDcid : ConnectionId) :
    let retired := (mgr.retireScid seq pktDcid).2
    retired.scidSeqs.Sublist mgr.scidSeqs ∧ retired.nextScidSeq = mgr.nextScidSeq ∧
      retired.scidsToAdvertise = mgr.scidsToAdvertise ∧
      (retired.retirePriorTo = mgr.retirePriorTo ∨
        retired.retirePriorTo ∈ retired.scidSeqs ∧
          ∀ other ∈ retired.scidSeqs, mgr.retirePriorTo ≤ other →
            retired.retirePriorTo ≤ other) := by
  dsimp only
  rcases retireScid_cases mgr seq pktDcid with same | ⟨scids, lowest, erased, _, floor, removed⟩
  · rw [same]
    exact ⟨.refl _, rfl, rfl, .inl rfl⟩
  · have seqs : (scids.queue.map (·.seq)).Sublist mgr.scidSeqs := erased ▸ List.eraseP_sublist.map _
    rw [removed]
    refine ⟨seqs, rfl, rfl, floor.imp_right fun found => ?_⟩
    obtain ⟨stored, _, least⟩ := lowestActiveScidSeq_ok found
    exact ⟨stored, least⟩

theorem Announceable.retireScid (announceable : mgr.Announceable) (seq : Nat)
    (pktDcid : ConnectionId) : (mgr.retireScid seq pktDcid).2.Announceable := by
  obtain ⟨fewer, last, queue, moved⟩ := retireScid_lowest mgr seq pktDcid
  have below : ∀ other ∈ (mgr.retireScid seq pktDcid).2.scidSeqs,
      other < (mgr.retireScid seq pktDcid).2.nextScidSeq := by
    intro other member
    rw [last]
    exact announceable.below other (fewer.subset member)
  constructor
  · exact below
  · rcases moved with same | ⟨stored, _⟩
    · rw [same, last]
      exact announceable.raised
    · exact (below _ stored).le
  · intro other waits stored
    have active := announceable.waiting other (queue ▸ waits) (fewer.subset stored)
    rcases moved with same | ⟨_, least⟩
    · rw [same]
      exact active
    · exact least other stored active

end ConnectionIdMgr

/-! ## Runs -/

namespace CidAnnouncements

open ConnectionIdMgr

/-- The frame for each number that waits is one that the peer accepts: it does not retire its own
number. -/
def FramesValid (state : CidAnnouncements) : Prop :=
  ∀ seq ∈ state.session.mgr.scidsToAdvertise, ∀ number retirePriorTo cid token,
    state.session.mgr.createNewConnectionIdFrame seq =
      .ok (.newConnectionId number retirePriorTo cid token) → retirePriorTo ≤ number

/-- No id is given up for a new one while it waits to be announced, and no announcement is lost
whose id the peer shall retire. -/
def Known (state : CidAnnouncements) : Op → Prop
  | .manage (.addScid _ _ _ _ retireIfNeeded) =>
    ∀ seq, state.session.mgr.Displaces retireIfNeeded seq →
      seq ∉ state.session.mgr.scidsToAdvertise
  | .loseNew seq =>
    seq ∈ state.session.mgr.scidSeqs → state.session.mgr.retirePriorTo ≤ seq
  | _ => True

def isKnown (state : CidAnnouncements) : Op → Bool
  | .manage (.addScid _ _ _ _ retireIfNeeded) =>
    !retireIfNeeded ||
      decide (state.session.mgr.scids.queue.length < state.session.mgr.scidLimit) ||
        match state.session.mgr.lowestActiveScidSeq with
        | .ok lowest => decide (lowest ∉ state.session.mgr.scidsToAdvertise)
        | .error _ => true
  | .loseNew seq =>
    decide (seq ∉ state.session.mgr.scidSeqs) || decide (state.session.mgr.retirePriorTo ≤ seq)
  | _ => true

theorem known_of_isKnown (state : CidAnnouncements) (op : Op) (passed : isKnown state op = true) :
    Known state op := by
  cases op with
  | manage op =>
    cases op with
    | addScid cid resetToken advertise pathId retireIfNeeded =>
      rintro seq ⟨forced, full, lowest⟩ waits
      simp only [isKnown, forced, lowest] at passed
      simp [Nat.not_lt.mpr full, waits] at passed
    | _ => trivial
  | loseNew seq =>
    intro stored
    simpa [isKnown, stored] using passed
  | _ => trivial

theorem start_announceable (dcidLimit : Nat) (initialScid : ConnectionId) (initialPathId : Nat)
    (scidToken : Option ResetToken) (dcid : ConnectionId) (dcidToken : Option ResetToken)
    (pathId : Option Nat) :
    (start dcidLimit initialScid initialPathId scidToken dcid dcidToken
      pathId).session.mgr.Announceable := by
  refine ⟨fun seq member => ?_, Nat.zero_le _, fun seq waits => absurd waits List.not_mem_nil⟩
  rw [List.mem_singleton.mp member]
  exact Nat.zero_lt_one

private theorem manage_announceable {session next : CidSession} {op : CidSession.Op}
    (announceable : session.mgr.Announceable)
    (known : ∀ cid resetToken advertise pathId retireIfNeeded,
      op = .addScid cid resetToken advertise pathId retireIfNeeded →
        ∀ seq, session.mgr.Displaces retireIfNeeded seq → seq ∉ session.mgr.scidsToAdvertise)
    (other : ∀ seq advertise, op ≠ .markScidToAdvertise seq advertise)
    (stepped : session.step op = some next) : next.mgr.Announceable := by
  cases op with
  | addDcid cid seq resetToken retirePriorTo =>
    cases stepped
    exact (addDcid_sameAnnouncements _ _ _ _ _).announceable (addDcid_retirePriorTo _ _ _ _ _)
      announceable
  | sendRetire =>
    dsimp only [CidSession.step] at stepped
    split at stepped
    · cases stepped
    · cases stepped
      exact (markDcidToRetire_sameAnnouncements session.mgr _ false).announceable rfl announceable
  | loseRetire seq =>
    obtain ⟨_, moved⟩ := Option.ite_none_right_eq_some.mp stepped
    cases moved
    exact (markDcidToRetire_sameAnnouncements session.mgr seq true).announceable rfl announceable
  | markDcidUsed seq pathId =>
    obtain ⟨mgr, marked, rfl⟩ := CidSession.step_markDcidUsed stepped
    exact (markDcidUsed_sameAnnouncements marked).announceable
      (markDcidUsed_retirePriorTo marked) announceable
  | addScid cid resetToken advertise pathId retireIfNeeded =>
    cases stepped
    exact announceable.addScid _ _ _ _ _ (known _ _ _ _ _ rfl)
  | retireScid seq pktDcid =>
    cases stepped
    exact announceable.retireScid seq pktDcid
  | markScidUsed seq pathId =>
    obtain ⟨mgr, marked, rfl⟩ := CidSession.step_markScidUsed stepped
    exact (markScidUsed_sameAnnouncements marked).announceable
      (markScidUsed_retirePriorTo marked) announceable
  | markScidToAdvertise seq advertise => exact absurd rfl (other seq advertise)
  | setScidLimit limit =>
    cases stepped
    exact (setScidLimit_sameAnnouncements _ _).announceable rfl announceable

private theorem step_announceable {state next : CidAnnouncements} {op : Op}
    (announceable : state.session.mgr.Announceable) (known : Known state op)
    (stepped : step state op = some next) : next.session.mgr.Announceable := by
  rcases step_cases stepped with ⟨moved, session, rfl, other, made, rfl⟩ | ⟨seq, rfl, _, rfl⟩ |
    ⟨seq, rfl, rfl⟩ | ⟨seq, rfl, _, rfl⟩
  · refine manage_announceable announceable ?_ other made
    rintro cid resetToken advertise pathId retireIfNeeded rfl
    exact known
  · exact ⟨announceable.below, announceable.raised, fun other waits =>
      announceable.waiting other (List.mem_of_mem_filter waits)⟩
  · exact announceable
  · refine ⟨announceable.below, announceable.raised, fun other waits stored => ?_⟩
    rcases List.mem_append.mp waits with before | new
    · exact announceable.waiting other before stored
    · rw [List.mem_singleton.mp new] at stored ⊢
      exact known stored

/-- The frames that announce ids are valid in every run in which the peer knows each id that is
given up, and no announcement of such an id is lost. -/
theorem announced_frames_valid (dcidLimit : Nat) (initialScid : ConnectionId) (initialPathId : Nat)
    (scidToken : Option ResetToken) (dcid : ConnectionId) (dcidToken : Option ResetToken)
    (pathId : Option Nat) (state : CidAnnouncements) (run : Run step Known
      (start dcidLimit initialScid initialPathId scidToken dcid dcidToken pathId) state) :
    FramesValid state := by
  have announceable := run.invariant
    (fun _ _ _ announceable known stepped => step_announceable announceable known stepped)
    (start_announceable dcidLimit initialScid initialPathId scidToken dcid dcidToken pathId)
  exact fun _ waits _ _ _ _ created => announceable.frame waits created

/-- An id is given up once the peer knows it, and another one is announced twice. -/
theorem announced_frames_valid_resent :
    ∃ state : CidAnnouncements, state.session.mgr.scidsToAdvertise = [2] ∧
      state.session.mgr.retirePriorTo = 1 ∧ FramesValid state := by
  refine ⟨_, ?_, ?_, announced_frames_valid 2 (.new [7]) 0 (some 1) (.new [8]) (some 2) (some 0) _
    (Run.of_checked known_of_isKnown (Run.of_exec
      (show exec (checked isKnown step)
          (start 2 (.new [7]) 0 (some 1) (.new [8]) (some 2) (some 0))
        [.manage (.addScid (.new [9]) (some 3) true none true), .sendNew,
          .manage (.addScid (.new [10]) (some 4) true none true), .sendNew, .ackNew 1,
          .loseNew 2] = some _ from rfl)))⟩
  · rfl
  · rfl

def retiresItself (state : CidAnnouncements) : Bool :=
  match state.session.mgr.createNewConnectionIdFrame 1 with
  | .ok (.newConnectionId number retirePriorTo _ _) =>
    decide (1 ∈ state.session.mgr.scidsToAdvertise) && decide (number < retirePriorTo)
  | _ => false

theorem not_valid_of_retiresItself {state : CidAnnouncements} (found : retiresItself state = true) :
    ¬ FramesValid state := by
  intro valid
  unfold retiresItself at found
  split at found
  · rename_i number retirePriorTo cid token created
    rw [Bool.and_eq_true, decide_eq_true_iff, decide_eq_true_iff] at found
    have bound := valid 1 found.1 number retirePriorTo cid token created
    omega
  · cases found

/-- An id is given up before it was announced; and one is given up after that, and its announcement
is lost. -/
theorem announced_frames_not_valid :
    (¬ ∀ state : CidAnnouncements,
      Run step anyStep (start 2 (.new [7]) 0 (some 1) (.new [8]) (some 2) (some 0)) state →
        FramesValid state) ∧
      ∃ waiting lost : CidAnnouncements,
        exec step (start 2 (.new [7]) 0 (some 1) (.new [8]) (some 2) (some 0))
            [.manage (.addScid (.new [9]) (some 3) true none true),
              .manage (.addScid (.new [10]) (some 4) true none true),
              .manage (.retireScid 0 (.new [9])),
              .manage (.addScid (.new [11]) (some 5) true none true)] = some waiting ∧
          ¬ FramesValid waiting ∧
          exec step (start 2 (.new [7]) 0 (some 1) (.new [8]) (some 2) (some 0))
              [.manage (.addScid (.new [9]) (some 3) true none true), .sendNew,
                .manage (.addScid (.new [10]) (some 4) true none true), .sendNew,
                .manage (.retireScid 0 (.new [9])),
                .manage (.addScid (.new [11]) (some 5) true none true), .loseNew 1] = some lost ∧
            ¬ FramesValid lost := by
  refine ⟨fun always => ?_, _, _, rfl, not_valid_of_retiresItself rfl, rfl,
    not_valid_of_retiresItself rfl⟩
  refine not_valid_of_retiresItself ?_ (always _ (Run.of_exec
    (show exec step (start 2 (.new [7]) 0 (some 1) (.new [8]) (some 2) (some 0))
      [.manage (.addScid (.new [9]) (some 3) true none true),
        .manage (.addScid (.new [10]) (some 4) true none true),
        .manage (.retireScid 0 (.new [9])),
        .manage (.addScid (.new [11]) (some 5) true none true)] = some _ from rfl)))
  rfl

end CidAnnouncements

end Tquic.Connection
