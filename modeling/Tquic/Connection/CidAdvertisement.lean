import Tquic.Frame
import Tquic.Connection.CidRun
import Tquic.Connection.RetirementWriter

/-! The queue of source ids to announce, over runs in which NEW_CONNECTION_ID frames are
sent, acknowledged and lost while the peer retires ids. -/

set_option autoImplicit false

namespace Tquic.Connection

open Lib

def resetTokenBytes (token : ResetToken) : Vector UInt8 16 :=
  ⟨(BigEndian.encode 16 token.toNat).toArray, by simp⟩

namespace ConnectionIdMgr

def nextScidToAdvertise (mgr : ConnectionIdMgr) : Option Nat := mgr.scidsToAdvertise.head?

def createNewConnectionIdFrame (mgr : ConnectionIdMgr) (seq : Nat) : Except Error Frame :=
  match mgr.scids.get seq with
  | none => .error .internalError
  | some item =>
    match item.resetToken with
    | none => .error .internalError
    | some resetToken =>
      .ok (.newConnectionId seq mgr.retirePriorTo item.cid (resetTokenBytes resetToken))

end ConnectionIdMgr

/-- A manager with the sequence numbers of the NEW_CONNECTION_ID frames sent so far. -/
structure CidAnnouncements where
  session : CidSession
  announced : List Nat

namespace CidAnnouncements

inductive Op where
  -- An operation of the manager that leaves the queue of announcements to the others.
  | manage (op : CidSession.Op)
  | sendNew
  | ackNew (seq : Nat)
  | loseNew (seq : Nat)

def start (dcidLimit : Nat) (initialScid : ConnectionId) (initialPathId : Nat)
    (scidToken : Option ResetToken) (dcid : ConnectionId) (dcidToken : Option ResetToken)
    (pathId : Option Nat) : CidAnnouncements :=
  { session := .start dcidLimit initialScid initialPathId scidToken dcid dcidToken pathId
    announced := [] }

def withMgr (state : CidAnnouncements) (mgr : ConnectionIdMgr) : CidAnnouncements :=
  { state with session := { state.session with mgr } }

def step (state : CidAnnouncements) : Op → Option CidAnnouncements
  | .manage (.markScidToAdvertise _ _) => none
  | .manage op => (state.session.step op).map fun session => { state with session }
  | .sendNew =>
    match state.session.mgr.nextScidToAdvertise with
    | none => none
    | some seq =>
      match state.session.mgr.createNewConnectionIdFrame seq with
      -- The connection is closed.
      | .error _ => none
      | .ok _ =>
        some { state.withMgr (state.session.mgr.markScidToAdvertise seq false) with
          announced := seq :: state.announced }
  -- Acknowledged announcements leave no trace.
  | .ackNew seq => if seq ∈ state.announced then some state else none
  | .loseNew seq =>
    if seq ∈ state.announced then
      some (state.withMgr (state.session.mgr.markScidToAdvertise seq true))
    else none

/-- The peer retires no id that waits to be announced, and no announcement is reported lost
after its id was retired. The last source id cannot be retired. -/
def Fitting (state : CidAnnouncements) : Op → Prop
  | .manage (.retireScid seq _) =>
    seq ∉ state.session.mgr.scidsToAdvertise ∨ state.session.mgr.scids.queue.length = 1
  | .loseNew seq => seq ∈ state.session.mgr.scidSeqs
  | _ => True

def isFitting (state : CidAnnouncements) : Op → Bool
  | .manage (.retireScid seq _) =>
    decide (seq ∉ state.session.mgr.scidsToAdvertise) ||
      decide (state.session.mgr.scids.queue.length = 1)
  | .loseNew seq => decide (seq ∈ state.session.mgr.scidSeqs)
  | _ => true

private theorem fitting_of_isFitting (state : CidAnnouncements) (op : Op)
    (passed : isFitting state op = true) : Fitting state op := by
  cases op with
  | manage op =>
    cases op with
    | retireScid seq pktDcid => simpa [isFitting, Fitting] using passed
    | _ => trivial
  | loseNew seq => simpa [isFitting, Fitting] using passed
  | _ => trivial

end CidAnnouncements

/-! ## The invariant -/

namespace ConnectionIdMgr

/-- Numbers to announce belong to source ids in use; all ids but the first have tokens. -/
structure Announces (mgr : ConnectionIdMgr) : Prop where
  stored : ∀ seq ∈ mgr.scidsToAdvertise, seq ∈ mgr.scidSeqs
  later : ∀ seq ∈ mgr.scidsToAdvertise, seq ≠ 0
  tokens : ∀ item ∈ mgr.scids.queue, item.seq ≠ 0 → item.resetToken.isSome
  next : mgr.nextScidSeq ≠ 0

variable {mgr next : ConnectionIdMgr}

private theorem get_of_mem_scidSeqs {seq : Nat} (member : seq ∈ mgr.scidSeqs) :
    ∃ item ∈ mgr.scids.queue, mgr.scids.get seq = some item ∧ item.seq = seq := by
  obtain ⟨item, present, same⟩ := List.mem_map.mp member
  have found : (mgr.scids.get seq).isSome := by
    rw [ConnectionIdDeque.get, List.find?_isSome]
    exact ⟨item, present, decide_eq_true same⟩
  obtain ⟨first, stored⟩ := Option.isSome_iff_exists.mp found
  obtain ⟨kept, number⟩ := ConnectionIdDeque.mem_of_get stored
  exact ⟨first, kept, stored, number⟩

theorem Announces.creates (announces : mgr.Announces) {seq : Nat}
    (waits : seq ∈ mgr.scidsToAdvertise) :
    ∃ item token, mgr.scids.get seq = some item ∧ item.resetToken = some token ∧
      mgr.createNewConnectionIdFrame seq =
        .ok (.newConnectionId seq mgr.retirePriorTo item.cid (resetTokenBytes token)) := by
  obtain ⟨item, member, stored, same⟩ := get_of_mem_scidSeqs (announces.stored seq waits)
  have named := announces.tokens item member (same ▸ announces.later seq waits)
  obtain ⟨token, present⟩ := Option.isSome_iff_exists.mp named
  refine ⟨item, token, stored, present, ?_⟩
  rw [createNewConnectionIdFrame, stored]
  dsimp only
  rw [present]

/-- The queue and the source ids stay, apart from the paths of the ids. -/
structure SameAnnouncements (before after : ConnectionIdMgr) : Prop where
  queue : after.scidsToAdvertise = before.scidsToAdvertise
  scids : after.scids.queue.map (fun item => (item.seq, item.resetToken)) =
    before.scids.queue.map (fun item => (item.seq, item.resetToken))
  next : after.nextScidSeq = before.nextScidSeq

theorem SameAnnouncements.announces (same : SameAnnouncements mgr next)
    (announces : mgr.Announces) : next.Announces := by
  have seqs : next.scidSeqs = mgr.scidSeqs := by
    have firsts := congrArg (List.map Prod.fst) same.scids
    rw [List.map_map, List.map_map] at firsts
    exact firsts
  constructor
  case stored =>
    rw [same.queue, seqs]
    exact announces.stored
  case later =>
    rw [same.queue]
    exact announces.later
  case tokens =>
    intro item member named
    have pair : (item.seq, item.resetToken) ∈
        mgr.scids.queue.map (fun item => (item.seq, item.resetToken)) := by
      rw [← same.scids]
      exact List.mem_map_of_mem member
    obtain ⟨before, present, equal⟩ := List.mem_map.mp pair
    obtain ⟨seq, token⟩ := Prod.mk.inj equal
    rw [← token]
    exact announces.tokens before present (seq ▸ named)
  case next =>
    rw [same.next]
    exact announces.next

private theorem markUsed_tokens {seq pathId : Nat} {queue marked : List ConnectionIdItem}
    (used : ConnectionIdDeque.markUsed seq pathId queue = some marked) :
    marked.map (fun item => (item.seq, item.resetToken)) =
      queue.map (fun item => (item.seq, item.resetToken)) := by
  induction queue generalizing marked with
  | nil => cases used
  | cons item rest ih =>
    unfold ConnectionIdDeque.markUsed at used
    split_ifs at used
    · cases used
      rfl
    · obtain ⟨later, found, same⟩ := Option.map_eq_some_iff.mp used
      cases same
      rw [List.map_cons, List.map_cons, ih found]

/-! ## Operations -/

theorem addDcid_sameAnnouncements (mgr : ConnectionIdMgr) (cid : ConnectionId) (seq : Nat)
    (resetToken : ResetToken) (retirePriorTo : Nat) :
    SameAnnouncements mgr (mgr.addDcid cid seq resetToken retirePriorTo).2 := by
  rcases addDcid_cases (Prod.eta (mgr.addDcid cid seq resetToken retirePriorTo)).symm with
    ⟨_, same⟩ | ⟨_, same, _⟩ | ⟨_, _, _, _, _, same⟩ | ⟨_, _, _, _, _, _, _, same⟩ |
      ⟨_, _, _, _, ⟨_, same⟩ | ⟨_, same⟩⟩ <;>
    rw [same] <;> exact ⟨rfl, rfl, rfl⟩

theorem markDcidToRetire_sameAnnouncements (mgr : ConnectionIdMgr) (seq : Nat) (retire : Bool) :
    SameAnnouncements mgr (mgr.markDcidToRetire seq retire) := by
  unfold markDcidToRetire
  split <;> exact ⟨rfl, rfl, rfl⟩

theorem markDcidUsed_sameAnnouncements {seq pathId : Nat}
    (marked : mgr.markDcidUsed seq pathId = .ok next) : SameAnnouncements mgr next := by
  unfold markDcidUsed at marked
  split at marked
  · cases marked
  · cases marked
    exact ⟨rfl, rfl, rfl⟩

theorem markScidUsed_sameAnnouncements {seq pathId : Nat}
    (marked : mgr.markScidUsed seq pathId = .ok next) : SameAnnouncements mgr next := by
  unfold markScidUsed at marked
  split at marked
  · cases marked
  · next queue found =>
      cases marked
      exact ⟨rfl, markUsed_tokens found, rfl⟩

theorem setScidLimit_sameAnnouncements (mgr : ConnectionIdMgr) (limit : Nat) :
    SameAnnouncements mgr (mgr.setScidLimit limit) := by
  refine ⟨rfl, ?_, rfl⟩
  simp only [setScidLimit, ConnectionIdDeque.enlarge]
  split <;> rfl

/-- After a new source id, what is to be announced is still in use and has tokens. -/
theorem Announces.addScid (announces : mgr.Announces) (cid : ConnectionId)
    (resetToken : Option ResetToken) (advertise : Bool) (pathId : Option Nat)
    (retireIfNeeded : Bool) :
    (mgr.addScid cid resetToken advertise pathId retireIfNeeded).2.Announces := by
  refine addScid_induct _ _ _ _ _ _ announces
    (fun _ _ _ _ => ⟨announces.stored, announces.later, announces.tokens, announces.next⟩)
    fun before announces named => ?_
  constructor
  case stored =>
    intro seq waits
    have stays : seq ∈ before.scidsToAdvertise ∨ seq = before.nextScidSeq := by
      unfold markScidToAdvertise appendScid at waits
      split at waits
      · simpa using waits
      · exact .inl (List.mem_of_mem_filter waits)
    rw [(markScidToAdvertise_same _ _ _).2.seqs, scidSeqs, appendScid, List.map_append,
      List.mem_append]
    rcases stays with earlier | rfl
    · exact .inl (announces.stored seq earlier)
    · exact .inr (List.mem_singleton.mpr rfl)
  case later =>
    intro seq waits
    unfold markScidToAdvertise at waits
    split at waits
    · rcases List.mem_append.mp waits with earlier | new
      · exact announces.later seq earlier
      · rw [List.mem_singleton.mp new]
        exact announces.next
    · exact announces.later seq (List.mem_of_mem_filter waits)
  case tokens =>
    intro item member
    have present : item ∈ before.scids.queue ++
        [{ cid, seq := before.nextScidSeq, resetToken, pathId }] := by
      unfold markScidToAdvertise at member
      split at member <;> exact member
    rcases List.mem_append.mp present with earlier | new
    · exact announces.tokens item earlier
    · rw [List.mem_singleton.mp new]
      exact fun _ => named announces.next
  case next =>
    rw [(markScidToAdvertise_same _ _ _).2.next]
    exact Nat.succ_ne_zero _

private theorem retireScid_stored {seq other : Nat} (pktDcid : ConnectionId)
    (kept : other ≠ seq ∨ mgr.scids.queue.length = 1) (stored : other ∈ mgr.scidSeqs) :
    other ∈ (mgr.retireScid seq pktDcid).2.scidSeqs := by
  rcases retireScid_cases mgr seq pktDcid with same | ⟨scids, lowest, erased, several, _, removed⟩
  · rw [same]
    exact stored
  · obtain ⟨held, member, rfl⟩ := List.mem_map.mp stored
    have differs := kept.resolve_right several
    rw [removed, scidSeqs, erased]
    exact List.mem_map_of_mem ((List.mem_eraseP_of_neg (by simpa using differs)).mpr member)

theorem Announces.retireScid (announces : mgr.Announces) {seq : Nat} (pktDcid : ConnectionId)
    (fitting : seq ∉ mgr.scidsToAdvertise ∨ mgr.scids.queue.length = 1) :
    (mgr.retireScid seq pktDcid).2.Announces := by
  have stored : ∀ other ∈ mgr.scidsToAdvertise,
      other ∈ (mgr.retireScid seq pktDcid).2.scidSeqs := by
    intro other waits
    refine retireScid_stored pktDcid (fitting.imp_left ?_) (announces.stored other waits)
    rintro absent rfl
    exact absent waits
  rcases retireScid_cases mgr seq pktDcid with same | ⟨scids, lowest, erased, _, _, removed⟩
  · rw [same]
    exact announces
  · rw [removed] at stored ⊢
    exact ⟨stored, announces.later, fun item member => announces.tokens item
      (List.mem_of_mem_eraseP (erased ▸ member)),
      announces.next⟩

theorem Announces.sent (announces : mgr.Announces) (seq : Nat) :
    (mgr.markScidToAdvertise seq false).Announces :=
  ⟨fun other waits => announces.stored other (List.mem_of_mem_filter waits),
    fun other waits => announces.later other (List.mem_of_mem_filter waits), announces.tokens,
    announces.next⟩

theorem Announces.lost (announces : mgr.Announces) {seq : Nat} (stored : seq ∈ mgr.scidSeqs)
    (later : seq ≠ 0) : (mgr.markScidToAdvertise seq true).Announces := by
  refine ⟨?_, ?_, announces.tokens, announces.next⟩
  · intro other waits
    rcases List.mem_append.mp waits with before | new
    · exact announces.stored other before
    · exact List.mem_singleton.mp new ▸ stored
  · intro other waits
    rcases List.mem_append.mp waits with before | new
    · exact announces.later other before
    · exact List.mem_singleton.mp new ▸ later

end ConnectionIdMgr

/-! ## Runs -/

namespace CidPaths

/-- The packet writer does not fail if every number that waits has its frame. -/
theorem writeNewConnectionIds_result {fuel room : Nat} {conn : CidPaths} {written : Written}
    (announces : conn.cids.Announces)
    (wrote : writeNewConnectionIds fuel conn room = some written) :
    written.result = .ok () ∨ written.result = .error .done := by
  induction fuel generalizing conn room written with
  | zero => cases wrote
  | succ fuel ih =>
    unfold writeNewConnectionIds at wrote
    cases front : conn.cids.scidsToAdvertise.head? with
    | none =>
      simp only [front, Option.some.injEq] at wrote
      subst wrote
      exact .inl rfl
    | some seq =>
      obtain ⟨item, token, stored, named, _⟩ :=
        announces.creates (List.mem_of_mem_head? front)
      simp only [front, stored, named, Option.isNone_some, Bool.false_eq_true,
        if_false] at wrote
      split at wrote
      · cases wrote
        exact .inr rfl
      · obtain ⟨later, writes, rfl⟩ := Option.map_eq_some_iff.mp wrote
        have rest := announces.sent seq
        exact @ih _ { conn with cids := conn.cids.markScidToAdvertise seq false } later rest writes

end CidPaths

namespace CidAnnouncements

open ConnectionIdMgr

structure Consistent (state : CidAnnouncements) : Prop where
  queue : state.session.mgr.Announces
  announced : ∀ seq ∈ state.announced, seq ≠ 0

theorem start_consistent (dcidLimit : Nat) (initialScid : ConnectionId) (initialPathId : Nat)
    (scidToken : Option ResetToken) (dcid : ConnectionId) (dcidToken : Option ResetToken)
    (pathId : Option Nat) :
    Consistent (start dcidLimit initialScid initialPathId scidToken dcid dcidToken pathId) := by
  refine ⟨⟨by simp [start, CidSession.start, setInitialDcid, new],
    by simp [start, CidSession.start, setInitialDcid, new], ?_, Nat.one_ne_zero⟩,
    by simp [start]⟩
  intro item member named
  rw [List.mem_singleton.mp member] at named
  exact absurd rfl named

/-- What the manager does by itself keeps every number that waits in use. -/
theorem manage_announces {session next : CidSession} {op : CidSession.Op}
    (announces : session.mgr.Announces) (fitting : ∀ seq pktDcid, op = .retireScid seq pktDcid →
      seq ∉ session.mgr.scidsToAdvertise ∨ session.mgr.scids.queue.length = 1)
    (other : ∀ seq advertise, op ≠ .markScidToAdvertise seq advertise)
    (stepped : session.step op = some next) : next.mgr.Announces := by
  cases op with
  | addDcid cid seq resetToken retirePriorTo =>
    cases stepped
    exact (addDcid_sameAnnouncements _ _ _ _ _).announces announces
  | sendRetire =>
    dsimp only [CidSession.step] at stepped
    split at stepped
    · cases stepped
    · cases stepped
      exact (markDcidToRetire_sameAnnouncements session.mgr _ false).announces announces
  | loseRetire seq =>
    obtain ⟨_, moved⟩ := Option.ite_none_right_eq_some.mp stepped
    cases moved
    exact (markDcidToRetire_sameAnnouncements session.mgr seq true).announces announces
  | markDcidUsed seq pathId =>
    obtain ⟨mgr, marked, rfl⟩ := CidSession.step_markDcidUsed stepped
    exact (markDcidUsed_sameAnnouncements marked).announces announces
  | addScid cid resetToken advertise pathId retireIfNeeded =>
    cases stepped
    exact announces.addScid _ _ _ _ _
  | retireScid seq pktDcid =>
    cases stepped
    exact announces.retireScid pktDcid (fitting seq pktDcid rfl)
  | markScidUsed seq pathId =>
    obtain ⟨mgr, marked, rfl⟩ := CidSession.step_markScidUsed stepped
    exact (markScidUsed_sameAnnouncements marked).announces announces
  | markScidToAdvertise seq advertise => exact absurd rfl (other seq advertise)
  | setScidLimit limit =>
    cases stepped
    exact (setScidLimit_sameAnnouncements _ _).announces announces

/-- What a step may do: manage ids, announce one, or hear that one arrived or was lost. -/
theorem step_cases {state next : CidAnnouncements} {op : Op} (stepped : step state op = some next) :
    (∃ moved session, op = .manage moved ∧
      (∀ seq advertise, moved ≠ .markScidToAdvertise seq advertise) ∧
      state.session.step moved = some session ∧ next = { state with session }) ∨
    (∃ seq, op = .sendNew ∧ state.session.mgr.nextScidToAdvertise = some seq ∧
      next = { state.withMgr (state.session.mgr.markScidToAdvertise seq false) with
        announced := seq :: state.announced }) ∨
    (∃ seq, op = .ackNew seq ∧ next = state) ∨
    ∃ seq, op = .loseNew seq ∧ seq ∈ state.announced ∧
      next = state.withMgr (state.session.mgr.markScidToAdvertise seq true) := by
  cases op with
  | manage moved =>
    refine .inl ⟨moved, ?_⟩
    by_cases mark : ∃ seq advertise, moved = .markScidToAdvertise seq advertise
    · obtain ⟨seq, advertise, rfl⟩ := mark
      cases stepped
    · have managed : (state.session.step moved).map (fun session => { state with session }) =
          some next := by
        cases moved with
        | markScidToAdvertise seq advertise => exact absurd ⟨seq, advertise, rfl⟩ mark
        | _ => exact stepped
      obtain ⟨session, made, same⟩ := Option.map_eq_some_iff.mp managed
      exact ⟨session, rfl, fun seq advertise same => mark ⟨seq, advertise, same⟩, made, same.symm⟩
  | sendNew =>
    dsimp only [step] at stepped
    cases front : state.session.mgr.nextScidToAdvertise with
    | none => simp [front] at stepped
    | some seq =>
      rw [front] at stepped
      dsimp only at stepped
      split at stepped
      · cases stepped
      · exact .inr (.inl ⟨seq, rfl, rfl, (Option.some.inj stepped).symm⟩)
  | ackNew seq =>
    obtain ⟨_, same⟩ := Option.ite_none_right_eq_some.mp stepped
    exact .inr (.inr (.inl ⟨seq, rfl, (Option.some.inj same).symm⟩))
  | loseNew seq =>
    obtain ⟨member, moved⟩ := Option.ite_none_right_eq_some.mp stepped
    exact .inr (.inr (.inr ⟨seq, rfl, member, (Option.some.inj moved).symm⟩))

theorem step_consistent {state next : CidAnnouncements} {op : Op} (consistent : Consistent state)
    (fitting : Fitting state op) (stepped : step state op = some next) : Consistent next := by
  rcases step_cases stepped with ⟨moved, session, rfl, other, made, rfl⟩ | ⟨seq, rfl, front, rfl⟩ |
    ⟨seq, rfl, rfl⟩ | ⟨seq, rfl, member, rfl⟩
  · refine ⟨manage_announces consistent.queue ?_ other made, consistent.announced⟩
    rintro seq pktDcid rfl
    exact fitting
  · refine ⟨consistent.queue.sent seq, ?_⟩
    intro later member
    rcases List.mem_cons.mp member with rfl | before
    · exact consistent.queue.later later (List.mem_of_mem_head? front)
    · exact consistent.announced later before
  · exact consistent
  · exact ⟨consistent.queue.lost fitting (consistent.announced seq member), consistent.announced⟩

/-- Every number in the queue belongs to a source id in use, and its frame can be built. -/
def Sound (state : CidAnnouncements) : Prop :=
  ∀ seq ∈ state.session.mgr.scidsToAdvertise,
    (state.session.mgr.scids.get seq).isSome ∧
      ∃ frame, state.session.mgr.createNewConnectionIdFrame seq = .ok frame

/-- The queue of announcements is consistent in every run in which no id is retired while it
waits, and no announcement is lost after its id was retired. The packet writer then never
fails with an internal error. -/
theorem announcements_sound (dcidLimit : Nat) (initialScid : ConnectionId) (initialPathId : Nat)
    (scidToken : Option ResetToken) (dcid : ConnectionId) (dcidToken : Option ResetToken)
    (pathId : Option Nat) (state : CidAnnouncements) (run : Run step Fitting
      (start dcidLimit initialScid initialPathId scidToken dcid dcidToken pathId) state) :
    Sound state ∧
      ∀ conn : CidPaths, conn.cids = state.session.mgr → ∀ fuel room written,
        CidPaths.writeNewConnectionIds fuel conn room = some written →
        written.result = .ok () ∨ written.result = .error .done := by
  have consistent : Consistent state :=
    run.invariant (fun _ _ _ consistent fitting stepped =>
      step_consistent consistent fitting stepped)
      (start_consistent dcidLimit initialScid initialPathId scidToken dcid dcidToken pathId)
  constructor
  · intro seq waits
    obtain ⟨item, token, stored, _, created⟩ := consistent.queue.creates waits
    exact ⟨Option.isSome_of_eq_some stored, _, created⟩
  · rintro conn same fuel room written wrote
    exact CidPaths.writeNewConnectionIds_result (same ▸ consistent.queue) wrote

/-- An id is announced, retired by the peer, and its announcement is reported lost after all. -/
theorem retired_id_announced_again : ¬ ∀ state : CidAnnouncements,
    Run step anyStep (start 2 (.new [7]) 0 (some 1) (.new [8]) (some 2) (some 0)) state →
      Sound state := by
  intro always
  have reached := always _ (Run.of_exec
    (show exec step (start 2 (.new [7]) 0 (some 1) (.new [8]) (some 2) (some 0))
      [.manage (.addScid (.new [9]) (some 3) true none true), .sendNew,
        .manage (.retireScid 1 (.new [7])), .loseNew 1] = some _ from rfl))
  obtain ⟨stored, _⟩ := reached 1 (by decide)
  exact absurd stored (by decide)

/-- Two ids are announced, one announcement is lost and repeated, then its id is retired. -/
theorem announcement_resent_sound :
    ∃ state : CidAnnouncements, state.announced = [1, 2, 1] ∧
      state.session.mgr.scidSeqs = [0, 2] ∧ Sound state := by
  refine ⟨_, ?_, ?_, (announcements_sound 2 (.new [7]) 0 (some 1) (.new [8]) (some 2) (some 0) _
    (Run.of_checked fitting_of_isFitting (Run.of_exec
      (show exec (checked isFitting step)
          (start 2 (.new [7]) 0 (some 1) (.new [8]) (some 2) (some 0))
        [.manage (.setScidLimit 4), .manage (.addScid (.new [9]) (some 3) true none true), .sendNew,
          .manage (.addScid (.new [10]) (some 4) true none true), .sendNew, .loseNew 1, .sendNew,
          .ackNew 1, .manage (.retireScid 1 (.new [7]))] = some _ from rfl)))).1⟩
  · rfl
  · rfl

end CidAnnouncements

end Tquic.Connection
