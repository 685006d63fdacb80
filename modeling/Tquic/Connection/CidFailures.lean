import Tquic.Connection.ActiveCids
import Tquic.Connection.CidFrames
import Tquic.Connection.CidReferences

/-! What operations on connection ids leave behind when they fail, and which
RETIRE_CONNECTION_ID frames are refused. -/

set_option autoImplicit false

namespace Tquic.Connection

open Lib

namespace ConnectionIdMgr

/-! ## Failed operations -/

/-- The manager after the source id was taken out of its queue. -/
def withoutScid (mgr : ConnectionIdMgr) (seq : Nat) : ConnectionIdMgr :=
  { mgr with scids := { mgr.scids with queue := mgr.scids.queue.eraseP (fun item => item.seq = seq) } }

/-- No failure of the operation changes the manager. -/
def Atomic {α : Type} (operation : ConnectionIdMgr → Except Error α × ConnectionIdMgr) : Prop :=
  ∀ mgr error next, operation mgr = (.error error, next) → next = mgr

variable {mgr next : ConnectionIdMgr} {error : Error} {cid : ConnectionId}

theorem insertScid_failed {resetToken : Option ResetToken} {advertise : Bool} {pathId : Option Nat}
    (failed : mgr.insertScid cid resetToken advertise pathId = (.error error, next)) :
    next = mgr := by
  rcases insertScid_cases mgr cid resetToken advertise pathId with ⟨_, same⟩ | ⟨_, same⟩
  · cases same.symm.trans failed
    rfl
  · cases same.symm.trans failed

private theorem addScid_failed {resetToken : Option ResetToken} {advertise : Bool}
    {pathId : Option Nat} {retireIfNeeded : Bool}
    (failed : mgr.addScid cid resetToken advertise pathId retireIfNeeded = (.error error, next)) :
    (∀ lowest, mgr.zeroLengthScid = false → mgr.Displaces retireIfNeeded lowest →
        next = { mgr with retirePriorTo := lowest + 1 }) ∧
      (mgr.zeroLengthScid = true ∨ (∀ lowest, ¬ mgr.Displaces retireIfNeeded lowest) →
        next = mgr) := by
  unfold addScid at failed
  split_ifs at failed with zero full kept
  · cases failed
    exact ⟨fun _ nonzero => absurd (zero.symm.trans nonzero) (by decide), fun _ => rfl⟩
  · cases failed
    refine ⟨fun _ _ displaces => ?_, fun _ => rfl⟩
    rw [displaces.1] at kept
    cases kept
  · have retires : retireIfNeeded = true := by simpa using kept
    cases found : mgr.lowestActiveScidSeq with
    | error reason =>
      rw [found] at failed
      cases failed
      refine ⟨fun _ _ displaces => ?_, fun _ => rfl⟩
      rw [displaces.2.2] at found
      cases found
    | ok least =>
      rw [found] at failed
      refine ⟨fun lowest _ displaces => ?_, fun stays => ?_⟩
      · have same : least = lowest := Except.ok.inj (found.symm.trans displaces.2.2)
        rw [← same]
        exact insertScid_failed failed
      · rcases stays with bare | none
        · exact absurd bare zero
        · exact absurd ⟨retires, full, found⟩ (none least)
  · refine ⟨fun _ _ displaces => absurd displaces.2.1 full, fun _ => insertScid_failed failed⟩

private theorem retireScid_failed {seq : Nat} {pktDcid : ConnectionId}
    (failed : mgr.retireScid seq pktDcid = (.error error, next)) :
    (seq < mgr.nextScidSeq → 2 ≤ mgr.scids.queue.length → next = mgr.withoutScid seq) ∧
      (mgr.nextScidSeq ≤ seq ∨ mgr.scids.queue.length < 2 → next = mgr) := by
  unfold retireScid at failed
  by_cases unknown : mgr.nextScidSeq ≤ seq
  · rw [if_pos unknown] at failed
    cases failed
    exact ⟨fun known => absurd unknown (Nat.not_le_of_lt known), fun _ => rfl⟩
  rw [if_neg unknown] at failed
  cases removed : mgr.scids.remove seq with
  | error reason =>
    rw [removed] at failed
    cases failed
    refine ⟨fun _ many => ?_, fun _ => rfl⟩
    -- A queue with two ids always lets go of one.
    unfold ConnectionIdDeque.remove at removed
    split_ifs at removed with empty single
    · rw [List.isEmpty_iff.mp empty] at many
      cases many
    · have alone := of_decide_eq_true (Bool.and_eq_true_iff.mp single).1
      omega
  | ok outcome =>
    obtain ⟨item, scids⟩ := outcome
    rw [removed] at failed
    cases item with
    | none => cases failed
    | some item =>
      unfold ConnectionIdDeque.remove at removed
      split_ifs at removed with empty single
      simp only [Except.ok.injEq, Prod.mk.injEq] at removed
      obtain ⟨found, rfl⟩ := removed
      have left : next = mgr.withoutScid seq := by
        dsimp only at failed
        split at failed
        · cases failed
          rfl
        · split at failed
          · cases failed
            rfl
          · cases failed
      refine ⟨fun _ _ => left, fun few => ?_⟩
      -- The only id of a queue is not given away.
      have short := few.resolve_left unknown
      have nonempty : mgr.scids.queue.length ≠ 0 :=
        fun none => empty (List.isEmpty_iff.mpr (List.eq_nil_of_length_eq_zero none))
      have alone : mgr.scids.queue.length = 1 := by omega
      rw [alone, found] at single
      exact absurd rfl single

private theorem addDcid_refused {seq retirePriorTo : Nat}
    (refuses : mgr.zeroLengthDcid = true ∨ ¬ mgr.Fresh cid seq ∨ seq < retirePriorTo)
    (resetToken : ResetToken) : (mgr.addDcid cid seq resetToken retirePriorTo).2 = mgr := by
  rcases addDcid_cases (Prod.eta (mgr.addDcid cid seq resetToken retirePriorTo)).symm with
    ⟨_, same⟩ | ⟨_, same, _⟩ | ⟨nonzero, low, fresh, _⟩ | ⟨nonzero, low, fresh, _⟩ |
      ⟨nonzero, low, fresh, _⟩
  · exact same
  · exact same
  all_goals
    rcases refuses with zero | known | high
    · exact absurd (zero.symm.trans nonzero) (by decide)
    · exact absurd fresh known
    · exact absurd high (Nat.not_lt_of_le low)

theorem insertDcid_failed {item : ConnectionIdItem} {retired : List (Nat × Nat)}
    (failed : mgr.insertDcid item retired = (.error error, next)) : next = mgr := by
  rcases insertDcid_cases mgr item retired with ⟨_, refused⟩ | ⟨_, accepted⟩
  · rw [refused] at failed
    cases failed
    rfl
  · rw [accepted] at failed
    cases failed

private theorem addDcid_failed {seq : Nat} {resetToken : ResetToken} {retirePriorTo : Nat}
    (failed : mgr.addDcid cid seq resetToken retirePriorTo = (.error error, next)) :
    (mgr.zeroLengthDcid = false → mgr.Fresh cid seq → retirePriorTo ≤ seq →
        (mgr.Late seq → next = mgr.withPending seq) ∧
        (¬ mgr.Late seq → mgr.largestPeerRetirePriorTo < retirePriorTo →
          next = (mgr.retireLower retirePriorTo).2) ∧
        (¬ mgr.Late seq → retirePriorTo ≤ mgr.largestPeerRetirePriorTo → next = mgr)) ∧
      (mgr.zeroLengthDcid = true ∨ ¬ mgr.Fresh cid seq ∨ seq < retirePriorTo → next = mgr) := by
  constructor
  · intro nonzero fresh low
    rw [addDcid_fresh nonzero fresh low] at failed
    refine ⟨fun late => ?_, fun early raises => ?_, fun early small => ?_⟩
    · rw [if_pos late, Prod.mk.injEq] at failed
      exact failed.2.symm
    · rw [if_neg early, if_pos raises] at failed
      split at failed
      · cases failed
        rfl
      · exact insertDcid_failed failed
    · rw [if_neg early, if_neg (Nat.not_lt_of_le small)] at failed
      exact insertDcid_failed failed
  · intro refuses
    have same := addDcid_refused refuses resetToken
    rw [failed] at same
    exact same

/-- Exactly what a failed operation leaves. Adding a source id keeps only the limit that it raised
to give up the lowest id, retirement keeps only the removal of its id, and a NEW_CONNECTION_ID
frame keeps only what it retired. -/
theorem failed_operation_leaves (mgr next : ConnectionIdMgr) (error : Error) :
    (∀ cid resetToken advertise pathId retireIfNeeded,
      mgr.addScid cid resetToken advertise pathId retireIfNeeded = (.error error, next) →
        (∀ lowest, mgr.zeroLengthScid = false → mgr.Displaces retireIfNeeded lowest →
            next = { mgr with retirePriorTo := lowest + 1 }) ∧
          (mgr.zeroLengthScid = true ∨ (∀ lowest, ¬ mgr.Displaces retireIfNeeded lowest) →
            next = mgr)) ∧
    (∀ seq pktDcid, mgr.retireScid seq pktDcid = (.error error, next) →
      (seq < mgr.nextScidSeq → 2 ≤ mgr.scids.queue.length → next = mgr.withoutScid seq) ∧
        (mgr.nextScidSeq ≤ seq ∨ mgr.scids.queue.length < 2 → next = mgr)) ∧
    ∀ cid seq resetToken retirePriorTo,
      mgr.addDcid cid seq resetToken retirePriorTo = (.error error, next) →
        (mgr.zeroLengthDcid = false → mgr.Fresh cid seq → retirePriorTo ≤ seq →
            (mgr.Late seq → next = mgr.withPending seq) ∧
            (¬ mgr.Late seq → mgr.largestPeerRetirePriorTo < retirePriorTo →
              next = (mgr.retireLower retirePriorTo).2) ∧
            (¬ mgr.Late seq → retirePriorTo ≤ mgr.largestPeerRetirePriorTo → next = mgr)) ∧
          (mgr.zeroLengthDcid = true ∨ ¬ mgr.Fresh cid seq ∨ seq < retirePriorTo → next = mgr) :=
  ⟨fun _ _ _ _ _ failed => addScid_failed failed, fun _ _ failed => retireScid_failed failed,
    fun _ _ _ _ failed => addDcid_failed failed⟩

/-- A manager whose source ids fill their queue. -/
def crowdedMgr : ConnectionIdMgr :=
  ((((new 2 (.new [7]) 0 (some 1)).setInitialDcid (.new [8]) (some 2) (some 0)).addScid (.new [9])
    (some 3) true none true).2.addScid (.new [10]) (some 4) true none true).2

theorem crowdedMgr_failed : crowdedMgr.addScid (.new [11]) (some 5) true none true =
    (.error .connectionIdLimitError, { crowdedMgr with retirePriorTo := 2 }) := rfl

private theorem crowdedMgr_displaces : crowdedMgr.Displaces true 1 := ⟨rfl, by decide, rfl⟩

theorem crowdedMgr_leaves : ∃ next, crowdedMgr.addScid (.new [11]) (some 5) true none true =
    (.error .connectionIdLimitError, next) ∧ next = { crowdedMgr with retirePriorTo := 2 } :=
  ⟨_, crowdedMgr_failed,
    ((failed_operation_leaves crowdedMgr _ .connectionIdLimitError).1 (.new [11]) (some 5) true none
      true crowdedMgr_failed).1 1 rfl crowdedMgr_displaces⟩

/-- A third source id that finds no room still raises the limit; a retirement in a packet for the
retired id still removes it; and ids that a frame retires stay retired although the queue of
retirements is too long. -/
theorem failed_operation_changes :
    (¬ ∀ cid resetToken advertise pathId retireIfNeeded,
      Atomic (·.addScid cid resetToken advertise pathId retireIfNeeded)) ∧
    (¬ ∀ seq pktDcid, Atomic (·.retireScid seq pktDcid)) ∧
    ¬ ∀ cid seq resetToken retirePriorTo, Atomic (·.addDcid cid seq resetToken retirePriorTo) := by
  refine ⟨fun atomic => ?_, fun atomic => ?_, fun atomic => ?_⟩
  · have same := atomic (.new [11]) (some 5) true none true crowdedMgr _ _ crowdedMgr_failed
    exact absurd (congrArg ConnectionIdMgr.retirePriorTo same) (by decide)
  · have same := atomic 1 (.new [9]) crowdedMgr _ _
      (show crowdedMgr.retireScid 1 (.new [9]) = (.error .protocolViolation, _) from rfl)
    exact absurd (congrArg ConnectionIdMgr.scidSeqs same) (by decide)
  · have same := atomic (.new [20]) 9 6 9 { crowdedMgr with dcidsToRetire := List.range 8 } _ _
      (show ConnectionIdMgr.addDcid _ (.new [20]) 9 6 9 = (.error .protocolViolation, _) from rfl)
    exact absurd (congrArg ConnectionIdMgr.dcidSeqs same) (by decide)

/-! ## Issued source ids -/

/-- Both managers have issued the same source ids. -/
structure SameIssued (before after : ConnectionIdMgr) : Prop where
  scids : SameScids before after
  zeroLength : after.zeroLengthScid = before.zeroLengthScid

/-- Every source id has a number that was handed out, and an empty id stays the only one. -/
structure Issued (mgr : ConnectionIdMgr) : Prop where
  numbered : Numbered mgr
  single : mgr.zeroLengthScid = true → mgr.nextScidSeq = 1 ∧ 0 ∈ mgr.scidSeqs

theorem SameIssued.issued (same : SameIssued mgr next) (issued : Issued mgr) : Issued next := by
  refine ⟨same.scids.numbered issued.numbered, fun zero => ?_⟩
  rw [same.scids.next, same.scids.seqs]
  exact issued.single (same.zeroLength.symm.trans zero)

theorem sameIssued_bookkeeping : Bookkeeping SameIssued where
  refl _ := ⟨⟨rfl, rfl⟩, rfl⟩
  trans former latter :=
    ⟨⟨latter.scids.seqs.trans former.scids.seqs, latter.scids.next.trans former.scids.next⟩,
      latter.zeroLength.trans former.zeroLength⟩
  scidUsed marked := by
    refine ⟨(markScidUsed_same marked).2, ?_⟩
    unfold markScidUsed at marked
    split at marked <;> cases marked
    rfl
  dcidUsed marked := by
    refine ⟨(markDcidUsed_same marked).2, ?_⟩
    unfold markDcidUsed at marked
    split at marked <;> cases marked
    rfl
  advertised mgr seq advertise := by
    unfold markScidToAdvertise
    split <;> exact ⟨⟨rfl, rfl⟩, rfl⟩
  retired mgr seq retire := by
    unfold markDcidToRetire
    split <;> exact ⟨⟨rfl, rfl⟩, rfl⟩

private theorem addDcid_sameIssued (mgr : ConnectionIdMgr) (cid : ConnectionId) (seq : Nat)
    (resetToken : ResetToken) (retirePriorTo : Nat) :
    SameIssued mgr (mgr.addDcid cid seq resetToken retirePriorTo).2 := by
  refine ⟨addDcid_sameScids mgr cid seq resetToken retirePriorTo, ?_⟩
  rcases addDcid_cases (Prod.eta (mgr.addDcid cid seq resetToken retirePriorTo)).symm with
    ⟨_, same⟩ | ⟨_, same, _⟩ | ⟨_, _, _, _, _, same⟩ | ⟨_, _, _, _, _, _, _, same⟩ |
      ⟨_, _, _, _, ⟨_, same⟩ | ⟨_, same⟩⟩ <;> rw [same] <;> rfl

theorem Issued.addScid (issued : Issued mgr) (cid : ConnectionId)
    (resetToken : Option ResetToken) (advertise : Bool) (pathId : Option Nat)
    (retireIfNeeded : Bool) :
    Issued (mgr.addScid cid resetToken advertise pathId retireIfNeeded).2 := by
  refine ⟨addScid_numbered issued.numbered _ _ _ _ _, fun zero => ?_⟩
  by_cases bare : mgr.zeroLengthScid = true
  · have same : (mgr.addScid cid resetToken advertise pathId retireIfNeeded).2 = mgr := by
      unfold ConnectionIdMgr.addScid
      rw [if_pos bare]
    rw [same]
    exact issued.single bare
  · have same : (mgr.addScid cid resetToken advertise pathId retireIfNeeded).2.zeroLengthScid =
        mgr.zeroLengthScid :=
      @addScid_induct mgr cid resetToken advertise pathId (·.zeroLengthScid = mgr.zeroLengthScid)
        retireIfNeeded rfl (fun _ _ _ _ => rfl) fun _ same _ =>
          (sameIssued_bookkeeping.advertised _ _ _).zeroLength.trans same
    exact absurd (same.symm.trans zero) bare

theorem Issued.retireScid (issued : Issued mgr) (nonzero : mgr.zeroLengthScid = false) (seq : Nat)
    (pktDcid : ConnectionId) : Issued (mgr.retireScid seq pktDcid).2 := by
  refine ⟨retireScid_numbered issued.numbered seq pktDcid, fun zero => ?_⟩
  rcases retireScid_cases mgr seq pktDcid with same | ⟨scids, lowest, _, _, _, removed⟩
  · rw [same] at zero
    exact absurd (zero.symm.trans nonzero) (by decide)
  · rw [removed] at zero
    exact absurd (zero.symm.trans nonzero) (by decide)

private theorem mem_scidSeqs_of_get {seq : Nat} (stored : (mgr.scids.get seq).isSome = true) :
    seq ∈ mgr.scidSeqs := by
  obtain ⟨item, found⟩ := Option.isSome_iff_exists.mp stored
  obtain ⟨member, same⟩ := ConnectionIdDeque.mem_of_get found
  exact List.mem_map.mpr ⟨item, member, same⟩

end ConnectionIdMgr

/-! ## Received retirements -/

namespace CidPaths

/-- A number that was never handed out is refused, and a retired one changes nothing. -/
def RetirementAnswered (conn : CidPaths) (seqNum : Nat) (pktDcid : ConnectionId) : Prop :=
  (conn.cids.nextScidSeq ≤ seqNum →
      (conn.recvRetireConnectionId seqNum pktDcid).1 = .error .protocolViolation) ∧
    (seqNum < conn.cids.nextScidSeq → conn.cids.scids.get seqNum = none →
      conn.recvRetireConnectionId seqNum pktDcid = (.ok (), conn))

variable {conn : CidPaths}

/-- The lookup that comes before the check ends well for every number that is not in use. -/
theorem recvRetireConnectionId_unused (nonzero : conn.cids.zeroLengthScid = false) {seqNum : Nat}
    (unused : conn.cids.scids.get seqNum = none) (pktDcid : ConnectionId) :
    conn.recvRetireConnectionId seqNum pktDcid = (.ok (), conn) := by
  unfold recvRetireConnectionId
  rw [if_neg (by rw [nonzero]; decide), unused]

/-- A retirement is answered for the numbers that were issued, and where the ids are empty. -/
theorem retirementAnswered_iff (issued : conn.cids.Issued) (seqNum : Nat) (pktDcid : ConnectionId) :
    conn.RetirementAnswered seqNum pktDcid ↔
      seqNum < conn.cids.nextScidSeq ∨ conn.cids.zeroLengthScid = true := by
  cases zero : conn.cids.zeroLengthScid with
  | true =>
    refine ⟨fun _ => .inr rfl, fun _ => ⟨fun _ => ?_, fun known unused => ?_⟩⟩
    · unfold recvRetireConnectionId
      rw [if_pos zero]
    · -- The only number is still in use.
      obtain ⟨one, active⟩ := issued.single zero
      have first : seqNum = 0 := by omega
      obtain ⟨item, member, same⟩ := List.mem_map.mp active
      have others := List.find?_eq_none.mp unused item member
      rw [first] at others
      simp [same] at others
  | false =>
    constructor
    · rintro ⟨refuses, _⟩
      by_contra unknown
      have above : conn.cids.nextScidSeq ≤ seqNum :=
        Nat.le_of_not_lt fun known => unknown (.inl known)
      have unused : conn.cids.scids.get seqNum = none := by
        by_contra stored
        have member := ConnectionIdMgr.mem_scidSeqs_of_get (Option.isSome_iff_ne_none.mpr stored)
        have below := issued.numbered.below seqNum member
        omega
      have refused := refuses above
      rw [recvRetireConnectionId_unused zero unused] at refused
      cases refused
    · intro known
      have below := known.resolve_right (by decide)
      exact ⟨fun above => absurd above (Nat.not_le_of_lt below),
        fun _ unused => recvRetireConnectionId_unused zero unused pktDcid⟩

end CidPaths

namespace CidPathRun

open ConnectionIdMgr

private theorem step_issued {run next : CidPathRun} {op : Op} (issued : Issued run.conn.cids)
    (stepped : step run op = some next) : Issued next.conn.cids := by
  obtain ⟨managed, manages, same⟩ := step_manages sameIssued_bookkeeping stepped
  refine same.issued ?_
  cases manages with
  | none => exact issued
  | addDcid => exact (addDcid_sameIssued _ _ _ _ _).issued issued
  | retireScid nonzero => exact issued.retireScid nonzero _ _
  | addScid => exact issued.addScid _ _ _ _ _
  | @setScidLimit limit =>
    exact SameIssued.issued ⟨(setScidLimit_same run.conn.cids limit).2, rfl⟩ issued

theorem start_issued (config : CidConfig) (localAddr remoteAddr : SocketAddr) (addrToken : Bool)
    (initialScid : ConnectionId) (scidToken : Option ResetToken) (dcid : ConnectionId)
    (dcidToken : Option ResetToken) :
    Issued (start config localAddr remoteAddr addrToken initialScid scidToken dcid
      dcidToken).conn.cids := by
  refine ⟨⟨List.nodup_singleton 0, fun seq member => ?_⟩, fun _ => ⟨rfl, List.mem_singleton_self 0⟩⟩
  rw [List.mem_singleton.mp member]
  exact Nat.zero_lt_one

/-- In every state of a connection, a RETIRE_CONNECTION_ID frame is answered as it should be if and
only if its number was handed out, or the connection has an empty source id. -/
theorem retirement_answered_iff {config : CidConfig} {localAddr remoteAddr : SocketAddr}
    {addrToken : Bool} {initialScid : ConnectionId} {scidToken : Option ResetToken}
    {dcid : ConnectionId} {dcidToken : Option ResetToken} {run : CidPathRun}
    (reached : Run step anyStep
      (start config localAddr remoteAddr addrToken initialScid scidToken dcid dcidToken) run)
    (seqNum : Nat) (pktDcid : ConnectionId) :
    run.conn.RetirementAnswered seqNum pktDcid ↔
      seqNum < run.conn.cids.nextScidSeq ∨ run.conn.cids.zeroLengthScid = true := by
  have issued : Issued run.conn.cids :=
    reached.invariant (fun _ _ _ issued _ stepped => step_issued issued stepped)
      (start_issued config localAddr remoteAddr addrToken initialScid scidToken dcid dcidToken)
  exact CidPaths.retirementAnswered_iff issued seqNum pktDcid

/-- The first id was replaced and retired; its retirement arrives once more. -/
theorem repeated_retirement_answered :
    ∃ run : CidPathRun, run.conn.cids.scidSeqs = [1] ∧
      (run.conn.RetirementAnswered 0 (.new [9]) ↔
        0 < run.conn.cids.nextScidSeq ∨ run.conn.cids.zeroLengthScid = true) := by
  have reached := Run.of_exec
    (show exec step sampleStart [.addScid (.new [9]) 3 false, .retireConnectionId 0 (.new [9])] =
      some _ from rfl)
  exact ⟨_, rfl, retirement_answered_iff reached 0 (.new [9])⟩

/-- A new connection has handed out the number 0, and accepts the retirement of 5. -/
theorem unknown_retirement_accepted :
    ¬ ∀ run : CidPathRun, Run step anyStep sampleStart run →
      ∀ seqNum pktDcid, run.conn.RetirementAnswered seqNum pktDcid := by
  intro answered
  have refused := (answered sampleStart .refl 5 (.new [7])).1 (by decide)
  exact absurd refused (by decide)

end CidPathRun

end Tquic.Connection
