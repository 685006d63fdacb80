import Tquic.Connection.CidAssignment
import Tquic.Connection.CidProperties

/-! Paths use active destination ids: what every operation on the ids and paths of a
connection keeps. -/

set_option autoImplicit false

namespace Tquic.Connection

open Lib

def Path.addrs (path : Path) : SocketAddr × SocketAddr := (path.localAddr, path.remoteAddr)

/-- The id that a path sends to, and its addresses. -/
def Path.route (path : Path) : Option Nat × SocketAddr × SocketAddr := (path.dcidSeq, path.addrs)

/-! ## Ids and the paths that use them -/

namespace ConnectionIdMgr

/-- The destination id `seq` is active and marked as used by the path. -/
def Holds (mgr : ConnectionIdMgr) (seq pathId : Nat) : Prop :=
  ∃ item ∈ mgr.dcids.queue, item.seq = seq ∧ item.pathId = some pathId

variable {mgr : ConnectionIdMgr}

theorem Holds.active {seq pathId : Nat} (holds : mgr.Holds seq pathId) : seq ∈ mgr.dcidSeqs := by
  obtain ⟨item, member, rfl, _⟩ := holds
  exact List.mem_map_of_mem member

private theorem markUsed_spec {seq pathId : Nat} {queue marked : List ConnectionIdItem}
    (found : ConnectionIdDeque.markUsed seq pathId queue = some marked) :
    (∃ item ∈ marked, item.seq = seq ∧ item.pathId = some pathId) ∧
      ∀ item ∈ queue, item.seq ≠ seq → item ∈ marked := by
  induction queue generalizing marked with
  | nil => simp [ConnectionIdDeque.markUsed] at found
  | cons first rest ih =>
    unfold ConnectionIdDeque.markUsed at found
    by_cases here : first.seq = seq
    · rw [if_pos here, Option.some.injEq] at found
      subst found
      refine ⟨⟨_, List.mem_cons_self, here, rfl⟩, ?_⟩
      intro item member different
      rcases List.mem_cons.mp member with rfl | later
      · exact absurd here different
      · exact List.mem_cons_of_mem _ later
    · simp only [here, if_false, Option.map_eq_some_iff] at found
      obtain ⟨tail, marks, rfl⟩ := found
      obtain ⟨⟨used, present, same, path⟩, others⟩ := ih marks
      refine ⟨⟨used, List.mem_cons_of_mem _ present, same, path⟩, ?_⟩
      intro item member different
      rcases List.mem_cons.mp member with rfl | later
      · exact List.mem_cons_self
      · exact List.mem_cons_of_mem _ (others item later different)

theorem markUsed_isSome {seq pathId : Nat} {queue : List ConnectionIdItem}
    (present : ∃ item ∈ queue, item.seq = seq) :
    ∃ marked, ConnectionIdDeque.markUsed seq pathId queue = some marked := by
  induction queue with
  | nil => simp at present
  | cons first rest ih =>
    unfold ConnectionIdDeque.markUsed
    by_cases here : first.seq = seq
    · exact ⟨_, by rw [if_pos here]⟩
    · obtain ⟨item, member, same⟩ := present
      have later : item ∈ rest := by
        rcases List.mem_cons.mp member with rfl | later
        · exact absurd same here
        · exact later
      obtain ⟨marked, marks⟩ := ih ⟨item, later, same⟩
      exact ⟨first :: marked, by rw [if_neg here, marks]; rfl⟩

variable {seq : Nat}

private theorem lowestUnused_spec (lowest : mgr.lowestUnusedDcidSeq = some seq) :
    ∃ item ∈ mgr.dcids.queue, item.seq = seq ∧ item.pathId = none := by
  unfold lowestUnusedDcidSeq at lowest
  have member := List.min?_mem lowest
  obtain ⟨item, present, rfl⟩ := List.mem_map.mp member
  obtain ⟨stored, unused⟩ := List.mem_filter.mp present
  exact ⟨item, stored, rfl, by simpa using unused⟩

private theorem eq_of_seq_eq (unique : mgr.dcidSeqs.Nodup)
    {left right : ConnectionIdItem} (leftMember : left ∈ mgr.dcids.queue)
    (rightMember : right ∈ mgr.dcids.queue) (same : left.seq = right.seq) : left = right :=
  List.inj_on_of_nodup_map unique leftMember rightMember same

theorem markDcidUsed_spec (unique : mgr.dcidSeqs.Nodup)
    (lowest : mgr.lowestUnusedDcidSeq = some seq) (pathId : Nat) :
    ∃ next, mgr.markDcidUsed seq pathId = .ok next ∧ next.Holds seq pathId ∧
      (∀ other path, mgr.Holds other path → next.Holds other path) ∧
      next.zeroLengthDcid = mgr.zeroLengthDcid := by
  obtain ⟨unused, stored, same, free⟩ := lowestUnused_spec lowest
  obtain ⟨marked, found⟩ := @markUsed_isSome seq pathId _ ⟨unused, stored, same⟩
  obtain ⟨used, others⟩ := markUsed_spec found
  refine ⟨{ mgr with dcids := { mgr.dcids with queue := marked } },
    by simp [markDcidUsed, found], used, ?_, rfl⟩
  rintro other path ⟨item, member, rfl, busy⟩
  refine ⟨item, others item member ?_, rfl, busy⟩
  intro equal
  have identical := eq_of_seq_eq unique member stored (equal.trans same.symm)
  rw [identical, free] at busy
  cases busy

private theorem addDcid_zeroLength {mgr next : ConnectionIdMgr} {cid : ConnectionId}
    {resetToken : ResetToken} {retirePriorTo : Nat} {result : Except Error (List (Nat × Nat))}
    (added : mgr.addDcid cid seq resetToken retirePriorTo = (result, next)) :
    next.zeroLengthDcid = mgr.zeroLengthDcid := by
  rcases addDcid_cases added with ⟨_, rfl⟩ | ⟨_, rfl, _, _⟩ | ⟨_, _, _, _, _, rfl⟩ |
      ⟨_, _, _, _, _, _, _, rfl⟩ | ⟨_, _, _, _, ⟨_, rfl⟩ | ⟨_, rfl⟩⟩ <;> rfl

private theorem addDcid_holds {mgr next : ConnectionIdMgr} {cid : ConnectionId}
    {resetToken : ResetToken} {retirePriorTo : Nat} {retired : List (Nat × Nat)}
    (added : mgr.addDcid cid seq resetToken retirePriorTo = (.ok retired, next))
    {other pathId : Nat} (holds : mgr.Holds other pathId) :
    next.Holds other pathId ∨ (other, pathId) ∈ retired := by
  obtain ⟨item, member, rfl, busy⟩ := holds
  rcases addDcid_cases added with ⟨refused, _⟩ | ⟨_, rfl, _, _⟩ | ⟨_, _, _, _, _, rfl⟩ |
      ⟨_, _, _, _, _, _, _, rfl⟩ | ⟨_, _, _, _, outcome⟩
  · simp [Except.toOption] at refused
  · exact .inl ⟨item, member, rfl, busy⟩
  · exact .inl ⟨item, member, rfl, busy⟩
  · exact .inl ⟨item, List.mem_append_left _ member, rfl, busy⟩
  · rcases outcome with ⟨refused, _⟩ | ⟨accepted, rfl⟩
    · simp [Except.toOption] at refused
    · cases accepted
      by_cases lower : item.seq < retirePriorTo
      · right
        refine List.mem_filterMap.mpr ⟨item, List.mem_filter.mpr ⟨member, by simpa using lower⟩, ?_⟩
        rw [busy]
        rfl
      · left
        refine ⟨item, List.mem_append_left _ (List.mem_filter.mpr ⟨member, ?_⟩), rfl, busy⟩
        simpa using lower

end ConnectionIdMgr

namespace CidPaths

/-- Every path that has a destination id holds it, apart from those in `excused`. -/
def LinkedBut (conn : CidPaths) (excused : List (Nat × Nat)) : Prop :=
  ∀ pathId path seq, conn.paths.get pathId = some path → path.dcidSeq = some seq →
    conn.cids.Holds seq pathId ∨ (seq, pathId) ∈ excused

/-- What holds of an open connection: ids are booked, and the paths use active ids. A peer
with a zero-length id has only that one. -/
structure Assigned (conn : CidPaths) (sent : List Nat) : Prop where
  kept : conn.cids.Bookkept sent
  linked : conn.cids.zeroLengthDcid = false → conn.LinkedBut []
  vacant : conn.cids.zeroLengthDcid = true → conn.cids.dcidsToRetire = [] ∧ sent = []

theorem Assigned.not_pending {conn : CidPaths} {sent : List Nat} (assigned : conn.Assigned sent)
    {pathId seq : Nat} (used : (conn.paths.get pathId).bind (·.dcidSeq) = some seq) :
    seq ∉ conn.cids.dcidsToRetire := by
  obtain ⟨path, present, holds⟩ := Option.bind_eq_some_iff.mp used
  cases zero : conn.cids.zeroLengthDcid with
  | true => simp [(assigned.vacant zero).1]
  | false =>
    rcases assigned.linked zero pathId path seq present holds with linked | excused
    · exact assigned.kept.not_pending linked.active
    · exact absurd excused List.not_mem_nil

/-! ## Receiving ids and handing them to paths -/

/-- Paths whose id was retired get another one or none, so that all are linked again. -/
theorem reassignDcids_spec {retired : List (Nat × Nat)} {conn next : CidPaths} {sent : List Nat}
    (kept : conn.cids.Bookkept sent) (linked : conn.LinkedBut retired)
    (reassigned : reassignDcids retired conn = (.ok (), next)) :
    next.cids.Bookkept sent ∧ next.LinkedBut [] ∧
      next.cids.zeroLengthDcid = conn.cids.zeroLengthDcid ∧ next.closing = conn.closing := by
  induction retired generalizing conn with
  | nil =>
    cases reassigned
    exact ⟨kept, linked, rfl, rfl⟩
  | cons entry rest ih =>
    obtain ⟨dcidSeq, pathId⟩ := entry
    unfold reassignDcids at reassigned
    cases present : conn.paths.get pathId with
    | none => simp [present] at reassigned
    | some path =>
      simp only [present] at reassigned
      by_cases other : path.dcidSeq ≠ some dcidSeq
      · rw [if_pos other] at reassigned
        refine ih kept ?_ reassigned
        intro otherId found seq stored uses
        rcases linked otherId found seq stored uses with holds | excused
        · exact .inl holds
        · rcases List.mem_cons.mp excused with same | later
          · cases same
            rw [present, Option.some.injEq] at stored
            subst stored
            exact absurd uses other
          · exact .inr later
      · rw [if_neg other] at reassigned
        -- Whatever the path gets, it no longer uses the retired id.
        have elsewhere : ∀ otherId seq, otherId ≠ pathId →
            (seq, otherId) ∈ (dcidSeq, pathId) :: rest → (seq, otherId) ∈ rest := by
          intro otherId seq different excused
          rcases List.mem_cons.mp excused with same | later
          · cases same
            exact absurd rfl different
          · exact later
        cases lowest : conn.cids.lowestUnusedDcidSeq with
        | none =>
          simp only [lowest] at reassigned
          refine @ih (conn.setDcid pathId path none) kept ?_ reassigned
          intro otherId found seq stored uses
          rcases PathMap.get_set stored with ⟨_, rfl⟩ | ⟨different, old⟩
          · cases uses
          · rcases linked otherId found seq old uses with holds | excused
            · exact .inl holds
            · exact .inr (elsewhere otherId seq different excused)
        | some newDcidSeq =>
          obtain ⟨cids, marked, mine, others, zero⟩ :=
            ConnectionIdMgr.markDcidUsed_spec kept.seqs lowest pathId
          simp only [lowest, marked] at reassigned
          obtain ⟨same, _⟩ := ConnectionIdMgr.markDcidUsed_same marked
          have result := ih (same.bookkept kept) ?_ reassigned
          · refine ⟨result.1, result.2.1, result.2.2.1.trans zero, result.2.2.2⟩
          intro otherId found seq stored uses
          rcases PathMap.get_set stored with ⟨rfl, rfl⟩ | ⟨different, old⟩
          · cases uses
            exact .inl mine
          · rcases linked otherId found seq old uses with holds | excused
            · exact .inl (others seq otherId holds)
            · exact .inr (elsewhere otherId seq different excused)

/-- Paths without an id are given unused ones. -/
theorem allocateCids_spec {pathIds : List Nat} {conn : CidPaths} {sent : List Nat}
    (assigned : conn.Assigned sent) :
    (allocateCids pathIds conn).Assigned sent ∧
      (allocateCids pathIds conn).closing = conn.closing := by
  induction pathIds generalizing conn with
  | nil => exact ⟨assigned, rfl⟩
  | cons pathId rest ih =>
    unfold allocateCids
    cases present : conn.paths.get pathId with
    | none => exact ih assigned
    | some path =>
      dsimp only
      by_cases busy : path.dcidSeq.isSome = true
      · rw [if_pos busy]
        exact ih assigned
      rw [if_neg busy]
      cases zero : conn.cids.zeroLengthDcid with
      | true =>
        rw [if_pos rfl]
        refine ih ⟨assigned.kept, ?_, assigned.vacant⟩
        intro nonzero
        exact absurd (zero.symm.trans nonzero) (by decide)
      | false =>
        rw [if_neg (by decide)]
        cases lowest : conn.cids.lowestUnusedDcidSeq with
        | none => exact ⟨assigned, rfl⟩
        | some dcidSeq =>
          obtain ⟨cids, marked, mine, others, sameZero⟩ :=
            ConnectionIdMgr.markDcidUsed_spec assigned.kept.seqs lowest pathId
          obtain ⟨same, _⟩ := ConnectionIdMgr.markDcidUsed_same marked
          simp only [marked, Except.toOption, Option.getD_some]
          refine ih ⟨same.bookkept assigned.kept, fun _ => ?_, fun yes => ?_⟩
          · intro otherId found seq stored uses
            rcases PathMap.get_set stored with ⟨rfl, rfl⟩ | ⟨_, old⟩
            · cases uses
              exact .inl mine
            · rcases assigned.linked zero otherId found seq old uses with holds | excused
              · exact .inl (others seq otherId holds)
              · exact .inr excused
          · exact absurd ((zero.symm.trans sameZero.symm).trans yes) (by decide)

variable {resetToken : ResetToken}

/-- A NEW_CONNECTION_ID frame that revives no id keeps ids and paths assigned. -/
theorem recvNewConnectionId_spec {conn next : CidPaths} {sent : List Nat}
    (assigned : conn.Assigned sent) {seqNum retirePriorTo : Nat} {connId : ConnectionId}
    (regular : ¬ conn.cids.Revived connId seqNum retirePriorTo)
    (received : conn.recvNewConnectionId seqNum retirePriorTo connId resetToken = (.ok (), next)) :
    next.Assigned sent ∧ next.closing = conn.closing := by
  unfold recvNewConnectionId at received
  cases zero : conn.cids.zeroLengthDcid with
  | true => simp [zero] at received
  | false =>
    simp only [zero, Bool.false_eq_true, if_false] at received
    cases added : conn.cids.addDcid connId seqNum resetToken retirePriorTo with
    | mk result cids =>
      cases result with
      | error error => simp [added] at received
      | ok retired =>
        simp only [added] at received
        have kept : cids.Bookkept sent := assigned.kept.addDcid regular added
        have linked : LinkedBut { conn with cids } retired := by
          intro pathId path seq present uses
          rcases assigned.linked zero pathId path seq present uses with holds | excused
          · exact ConnectionIdMgr.addDcid_holds added holds
          · exact absurd excused List.not_mem_nil
        obtain ⟨booked, all, same, closing⟩ := reassignDcids_spec kept linked received
        have nonzero : next.cids.zeroLengthDcid = false := by
          rw [same]
          exact (ConnectionIdMgr.addDcid_zeroLength added).trans zero
        refine ⟨⟨booked, fun _ => all, fun yes => ?_⟩, closing⟩
        exact absurd (nonzero.symm.trans yes) (by decide)

private theorem addDcid_fatal {mgr next : ConnectionIdMgr} {cid : ConnectionId} {seq : Nat}
    {retirePriorTo : Nat} {error : Error}
    (refused : mgr.addDcid cid seq resetToken retirePriorTo = (.error error, next)) :
    error ≠ .done := by
  rintro rfl
  unfold ConnectionIdMgr.addDcid ConnectionIdMgr.insertDcid ConnectionIdDeque.insert
    ConnectionIdMgr.checkDcidsToRetire Except.map at refused
  grind

theorem reassignDcids_fatal {retired : List (Nat × Nat)} {conn next : CidPaths} {error : Error}
    (failed : reassignDcids retired conn = (.error error, next)) : error ≠ .done := by
  induction retired generalizing conn with
  | nil => cases failed
  | cons entry rest ih =>
    obtain ⟨dcidSeq, pathId⟩ := entry
    unfold reassignDcids ConnectionIdMgr.markDcidUsed at failed
    grind

theorem recvNewConnectionId_fatal {conn next : CidPaths} {seqNum retirePriorTo : Nat}
    {connId : ConnectionId} {error : Error}
    (failed : conn.recvNewConnectionId seqNum retirePriorTo connId resetToken =
      (.error error, next)) : error ≠ .done := by
  unfold recvNewConnectionId at failed
  split at failed
  · cases failed
    decide
  split at failed
  · next added =>
      cases failed
      exact addDcid_fatal added
  · exact reassignDcids_fatal failed

/-! ## Paths and source ids -/

def KeepsPaths (before after : PathMap) : Prop :=
  ∀ pathId path seq, after.get pathId = some path → path.dcidSeq = some seq →
    ∃ old, before.get pathId = some old ∧ old.dcidSeq = some seq

theorem KeepsPaths.refl (map : PathMap) : KeepsPaths map map :=
  fun _ path _ present uses => ⟨path, present, uses⟩

section Views

variable {β : Type} {view : Path → β} {map next : PathMap} {pathId : Nat}

theorem map_set {old path : Path} (present : map.get pathId = some old)
    (same : view path = view old) :
    (map.set pathId path).paths.map view = map.paths.map view := by
  obtain ⟨stored, rfl⟩ := List.getElem?_eq_some_iff.mp present
  unfold PathMap.set
  rw [List.map_set, same, ← List.getElem_map view]
  · exact List.set_getElem_self _
  · rwa [List.length_map]

theorem map_modify (map : PathMap) (pathId : Nat) {change : Path → Path}
    (same : ∀ path, view (change path) = view path) :
    (map.modify pathId change).paths.map view = map.paths.map view := by
  refine List.ext_getElem? fun other => ?_
  simp only [PathMap.modify, List.getElem?_map, List.getElem?_modify]
  cases map.paths[other]? with
  | none => rfl
  | some path =>
    refine congrArg some ?_
    dsimp only
    split_ifs
    · exact same path
    · rfl

theorem KeepsPaths.of_map (same : next.paths.map (·.dcidSeq) = map.paths.map (·.dcidSeq)) :
    KeepsPaths map next := by
  intro pathId path seq (present : next.paths[pathId]? = some path) uses
  have seqs := congrArg (·[pathId]?) same
  simp only [List.getElem?_map, present, Option.map_some, uses] at seqs
  obtain ⟨old, stored, known⟩ := Option.map_eq_some_iff.mp seqs.symm
  exact ⟨old, stored, known⟩

end Views

theorem KeepsPaths.insertPath {map next : PathMap} {path : Path} {pathId : Nat}
    (unassigned : path.dcidSeq = none) (inserted : map.insertPath path = .ok (pathId, next)) :
    KeepsPaths map next := by
  intro other found seq stored uses
  rcases PathMap.get_insertPath inserted stored with ⟨_, rfl⟩ | ⟨_, kept⟩
  · rw [unassigned] at uses
    cases uses
  · exact ⟨found, kept, uses⟩

/-! ### What path challenges leave -/

section Routes

variable {map next : PathMap} {pathId : Nat}

theorem route_promoteTo (path : Path) (state : PathState) :
    (path.promoteTo state).route = path.route := by
  unfold Path.promoteTo
  split <;> rfl

theorem routes_onPathChalSent {data : ChallengeData} {pktSize : Nat} {sentTime : Instant}
    (sent : (map.onPathChalSent pathId data pktSize sentTime).toOption = some next) :
    next.paths.map (·.route) = map.paths.map (·.route) := by
  unfold PathMap.onPathChalSent at sent
  cases present : map.get pathId with
  | none => simp [present, Except.toOption] at sent
  | some path =>
    simp only [present, Except.toOption, Option.some.injEq] at sent
    subst sent
    exact map_set present (route_promoteTo path .validating)

theorem routes_onPathRespReceived (map : PathMap) (pathId : Nat) (data : ChallengeData) :
    (map.onPathRespReceived pathId data).2.paths.map (·.route) = map.paths.map (·.route) := by
  unfold PathMap.onPathRespReceived
  cases present : map.get pathId with
  | none => rfl
  | some path =>
    refine map_set present ?_
    have noted : (path.noteResponse data).route = path.route := route_promoteTo _ .validatingMtu
    unfold Path.onPathRespReceived
    dsimp only
    split_ifs
    · rfl
    · exact (route_promoteTo _ .validated).trans noted
    · exact noted

private theorem route_dropLostChals (now : Instant) (sent : List SentChallenge) (path : Path) :
    (Path.dropLostChals now sent path).route = path.route := by
  induction sent generalizing path with
  | nil => rfl
  | cons first rest ih =>
    unfold Path.dropLostChals
    split_ifs
    · rfl
    · exact ih _
    · rfl

theorem routes_onPathChalTimeout (map : PathMap) (now : Instant) :
    (map.onPathChalTimeout now).paths.map (·.route) = map.paths.map (·.route) := by
  unfold PathMap.onPathChalTimeout
  rw [List.map_map]
  refine List.map_congr_left fun path _ => ?_
  simp only [Function.comp_apply]
  unfold Path.onPathChalTimeout
  split_ifs
  · rfl
  · exact route_dropLostChals now path.sentChals path

theorem KeepsPaths.of_routes (same : next.paths.map (·.route) = map.paths.map (·.route)) :
    KeepsPaths map next := by
  have seqs := congrArg (List.map Prod.fst) same
  rw [List.map_map, List.map_map] at seqs
  exact .of_map seqs

end Routes

variable {conn next : CidPaths} {sent : List Nat}

theorem Assigned.keep (assigned : conn.Assigned sent)
    (cids : ConnectionIdMgr.KeepsDcids conn.cids next.cids)
    (paths : KeepsPaths conn.paths next.paths) : next.Assigned sent := by
  refine ⟨cids.same.bookkept assigned.kept, fun zero => ?_, fun zero => ?_⟩
  · intro pathId path seq present uses
    obtain ⟨old, stored, same⟩ := paths pathId path seq present uses
    have before := assigned.linked (cids.zeroLength.symm.trans zero) pathId old seq stored same
    unfold ConnectionIdMgr.Holds at before ⊢
    rwa [cids.dcids]
  · rw [cids.pending]
    exact assigned.vacant (cids.zeroLength.symm.trans zero)

private theorem usePath_assigned (assigned : conn.Assigned sent) (recvPid cidSeq : Nat)
    (dcid : ConnectionId) :
    (conn.usePath recvPid cidSeq dcid).2.Assigned sent ∧
      (conn.usePath recvPid cidSeq dcid).2.closing = conn.closing := by
  unfold usePath
  cases present : conn.paths.get recvPid with
  | none => exact ⟨assigned, rfl⟩
  | some path =>
    have paths : KeepsPaths conn.paths
        (conn.paths.set recvPid { path with scidSeq := some cidSeq }) :=
      .of_map (map_set present rfl)
    dsimp only
    split_ifs
    · cases marked : conn.cids.markScidUsed cidSeq recvPid with
      | error error => exact ⟨assigned.keep (.refl _) paths, rfl⟩
      | ok cids => exact ⟨assigned.keep (ConnectionIdMgr.markScidUsed_same marked).1 paths, rfl⟩
    · exact ⟨assigned, rfl⟩

/-- So does the search for the path of a packet, also where it makes one. -/
theorem getOrCreatePath_assigned (assigned : conn.Assigned sent) (recvPid : Option Nat)
    (dcid : ConnectionId) (localAddr remoteAddr : SocketAddr) (bufLen : Nat) :
    (conn.getOrCreatePath recvPid dcid localAddr remoteAddr bufLen).2.Assigned sent ∧
      (conn.getOrCreatePath recvPid dcid localAddr remoteAddr bufLen).2.closing = conn.closing := by
  unfold getOrCreatePath
  cases conn.cids.findScid dcid with
  | none => exact ⟨assigned, rfl⟩
  | some found =>
    obtain ⟨cidSeq, cidPid⟩ := found
    cases recvPid with
    | some recvPid => exact usePath_assigned assigned recvPid cidSeq dcid
    | none =>
      dsimp only
      split
      · exact ⟨assigned, rfl⟩
      · next pathId paths inserted =>
          have keeps : KeepsPaths conn.paths paths := .insertPath rfl inserted
          split
          · cases marked : conn.cids.markScidUsed cidSeq pathId with
            | error error => exact ⟨assigned.keep (.refl _) keeps, rfl⟩
            | ok cids =>
              exact ⟨assigned.keep (ConnectionIdMgr.markScidUsed_same marked).1 keeps, rfl⟩
          · exact ⟨assigned.keep (.refl _) keeps, rfl⟩

theorem Assigned.zeroLength (assigned : conn.Assigned sent) (zero : conn.cids.zeroLengthDcid = true)
    (same : ConnectionIdMgr.SameDcids conn.cids next.cids)
    (stays : next.cids.zeroLengthDcid = conn.cids.zeroLengthDcid) : next.Assigned sent := by
  refine ⟨same.bookkept assigned.kept, fun nonzero => ?_, fun _ => ?_⟩
  · exact absurd (nonzero.symm.trans (stays.trans zero)) (by decide)
  · rw [same.pending]
    exact assigned.vacant zero

private theorem markDcidUsed_zeroLength {mgr marked : ConnectionIdMgr} {seq pathId : Nat}
    (used : mgr.markDcidUsed seq pathId = .ok marked) :
    marked.zeroLengthDcid = mgr.zeroLengthDcid := by
  unfold ConnectionIdMgr.markDcidUsed at used
  split at used
  · cases used
  · cases used
    rfl

private theorem insertPath_linked (assigned : conn.Assigned sent) {path : Path} {pathId seq : Nat}
    {paths : PathMap} {cids : ConnectionIdMgr} (nonzero : conn.cids.zeroLengthDcid = false)
    (lowest : conn.cids.lowestUnusedDcidSeq = some seq) (uses : path.dcidSeq = some seq)
    (inserted : conn.paths.insertPath path = .ok (pathId, paths))
    (marked : conn.cids.markDcidUsed seq pathId = .ok cids) :
    Assigned { conn with cids, paths } sent := by
  obtain ⟨_, found, mine, others, sameZero⟩ :=
    ConnectionIdMgr.markDcidUsed_spec assigned.kept.seqs lowest pathId
  cases marked.symm.trans found
  refine ⟨(ConnectionIdMgr.markDcidUsed_same marked).1.bookkept assigned.kept, fun _ => ?_,
    fun zero => absurd (nonzero.symm.trans (sameZero.symm.trans zero)) (by decide)⟩
  intro other stored otherSeq present has
  rcases PathMap.get_insertPath inserted present with ⟨rfl, rfl⟩ | ⟨_, old⟩
  · cases uses.symm.trans has
    exact .inl mine
  · rcases assigned.linked nonzero other stored otherSeq old has with holds | excused
    · exact .inl (others otherSeq other holds)
    · exact .inr excused

/-- So does a path that the application adds. -/
theorem addPath_assigned (assigned : conn.Assigned sent) (localAddr remoteAddr : SocketAddr) :
    (conn.addPath localAddr remoteAddr).Assigned sent ∧
      (conn.addPath localAddr remoteAddr).closing = conn.closing := by
  unfold addPath
  by_cases refused : (conn.config.isServer || !conn.handshakeCompleted) = true
  · rw [if_pos refused]
    exact ⟨assigned, rfl⟩
  rw [if_neg refused]
  by_cases known : (conn.paths.getPathId (localAddr, remoteAddr)).isSome = true
  · rw [if_pos known]
    exact ⟨assigned, rfl⟩
  rw [if_neg known]
  dsimp only
  split
  · exact ⟨assigned, rfl⟩
  · next pathId paths inserted =>
      have challenged : KeepsPaths paths (paths.modify pathId (·.initiatePathChal)) :=
        .of_map (map_modify _ pathId fun _ => rfl)
      cases zero : conn.cids.zeroLengthDcid with
      | true =>
        simp only [if_true]
        cases marked : conn.cids.markDcidUsed 0 pathId with
        | error error =>
          exact ⟨assigned.zeroLength zero (ConnectionIdMgr.KeepsDcids.refl _).same rfl, rfl⟩
        | ok cids =>
          exact ⟨assigned.zeroLength zero (ConnectionIdMgr.markDcidUsed_same marked).1
            (markDcidUsed_zeroLength marked), rfl⟩
      | false =>
        simp only [zero, Bool.false_eq_true, if_false] at inserted ⊢
        cases lowest : conn.cids.lowestUnusedDcidSeq with
        | none =>
          have added := @Assigned.keep conn { conn with paths } sent assigned (.refl _)
            (.insertPath lowest inserted)
          exact ⟨added.keep (.refl _) challenged, rfl⟩
        | some seq =>
          obtain ⟨cids, marked, _⟩ :=
            ConnectionIdMgr.markDcidUsed_spec assigned.kept.seqs lowest pathId
          simp only [marked]
          have added := insertPath_linked assigned zero lowest lowest inserted marked
          exact ⟨added.keep (.refl _) challenged, trivial⟩

/-- So does a RETIRE_CONNECTION_ID frame. -/
theorem recvRetireConnectionId_assigned (assigned : conn.Assigned sent) (seqNum : Nat)
    (pktDcid : ConnectionId) :
    (conn.recvRetireConnectionId seqNum pktDcid).2.Assigned sent ∧
      (conn.recvRetireConnectionId seqNum pktDcid).2.closing = conn.closing := by
  unfold recvRetireConnectionId
  split
  · exact ⟨assigned, rfl⟩
  split
  · exact ⟨assigned, rfl⟩
  have keeps := ConnectionIdMgr.retireScid_keeps conn.cids seqNum pktDcid
  split
  · next error cids retired =>
      rw [retired] at keeps
      exact ⟨assigned.keep keeps (.refl _), rfl⟩
  · next cids retired =>
      rw [retired] at keeps
      exact ⟨assigned.keep keeps (.refl _), rfl⟩
  · next pathId cids retired =>
      rw [retired] at keeps
      cases present : conn.paths.get pathId with
      | none => exact ⟨assigned.keep keeps (.refl _), rfl⟩
      | some path =>
        dsimp only
        split
        · exact ⟨assigned.keep keeps (.of_map (map_set present rfl)), rfl⟩
        · exact ⟨assigned.keep keeps (.refl _), rfl⟩

end CidPaths

end Tquic.Connection
