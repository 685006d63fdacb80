import Tquic.Connection.CidAssignmentProperties
import Tquic.Connection.RetirementWriter

/-! The paths that connection id items name, over runs in which paths are added, replaced and
abandoned. A path is known by its addresses; its number is the slot it is stored in. -/

set_option autoImplicit false

namespace Tquic.Connection

open Lib

namespace PathMap

def slots (map : PathMap) : List (SocketAddr × SocketAddr) := map.paths.map (·.addrs)

def evicted (map : PathMap) : Option Nat :=
  if map.paths.length ≥ map.maxPaths then map.paths.findIdx? (·.unused) else none

variable {map next : PathMap} {pathId : Nat}

private theorem slots_getElem? (map : PathMap) (pathId : Nat) :
    map.slots[pathId]? = (map.get pathId).map (·.addrs) :=
  List.getElem?_map

theorem slots_of_routes (same : next.paths.map (·.route) = map.paths.map (·.route)) :
    next.slots = map.slots := by
  have slots := congrArg (List.map Prod.snd) same
  rwa [List.map_map, List.map_map] at slots

theorem slots_insertPath {path : Path} (inserted : map.insertPath path = .ok (pathId, next)) :
    (map.evicted = some pathId ∧ pathId < map.paths.length ∧
        next.slots = map.slots.set pathId path.addrs) ∨
      (map.evicted = none ∧ pathId = map.paths.length ∧ next.slots = map.slots ++ [path.addrs]) := by
  unfold insertPath at inserted
  unfold evicted
  split_ifs at inserted ⊢ with full
  · cases found : map.paths.findIdx? (·.unused) with
    | none => simp [found] at inserted
    | some slot =>
      simp only [found, Except.ok.injEq, Prod.mk.injEq] at inserted
      obtain ⟨rfl, rfl⟩ := inserted
      refine .inl ⟨rfl, (List.findIdx?_eq_some_iff_getElem.mp found).1, ?_⟩
      exact List.map_set
  · simp only [Except.ok.injEq, Prod.mk.injEq] at inserted
    obtain ⟨rfl, rfl⟩ := inserted
    exact .inr ⟨rfl, rfl, List.map_append⟩

end PathMap

namespace ConnectionIdMgr

/-- The items of a queue have numbers of their own and name slots below the bound. -/
structure Within (bound : Nat) (queue : List ConnectionIdItem) : Prop where
  unique : (queue.map (·.seq)).Nodup
  below : ∀ item ∈ queue, ∀ pathId, item.pathId = some pathId → pathId < bound

variable {bound larger seq pathId : Nat} {queue fewer : List ConnectionIdItem}

section

variable (within : Within bound queue)

include within

theorem Within.mono (le : bound ≤ larger) : Within larger queue :=
  ⟨within.unique, fun item member pathId names =>
    (within.below item member pathId names).trans_le le⟩

theorem Within.of_sublist (sublist : fewer.Sublist queue) : Within bound fewer :=
  ⟨within.unique.sublist (sublist.map _), fun item member =>
    within.below item (sublist.subset member)⟩

theorem Within.append {item : ConnectionIdItem}
    (fresh : item.seq ∉ queue.map (·.seq)) (unused : item.pathId = none) :
    Within bound (queue ++ [item]) := by
  constructor
  · rw [List.map_append]
    refine List.nodup_append.mpr ⟨within.unique, List.nodup_singleton _, ?_⟩
    intro seq member other here same
    rw [same, List.mem_singleton.mp here] at member
    exact fresh member
  · intro held member pathId names
    rcases List.mem_append.mp member with old | new
    · exact within.below held old pathId names
    · rw [List.mem_singleton.mp new, unused] at names
      cases names

theorem Within.markUsed {marked : List ConnectionIdItem}
    (used : ConnectionIdDeque.markUsed seq pathId queue = some marked) (slot : pathId < bound) :
    Within bound marked := by
  refine ⟨(markUsed_same used).1 ▸ within.unique, ?_⟩
  have below := within.below
  clear within
  induction queue generalizing marked with
  | nil => cases used
  | cons first rest ih =>
    unfold ConnectionIdDeque.markUsed at used
    split_ifs at used
    · cases used
      intro item member other names
      rcases List.mem_cons.mp member with rfl | later
      · cases names
        exact slot
      · exact below item (List.mem_cons_of_mem _ later) other names
    · obtain ⟨tail, marks, rfl⟩ := Option.map_eq_some_iff.mp used
      intro item member other names
      rcases List.mem_cons.mp member with rfl | later
      · exact below item List.mem_cons_self other names
      · exact ih marks (fun item member => below item (List.mem_cons_of_mem _ member)) item later
          other names

end

/-- The items of both queues name paths of the connection. -/
structure Placed (bound : Nat) (mgr : ConnectionIdMgr) : Prop where
  numbered : mgr.Numbered
  scids : Within bound mgr.scids.queue
  dcids : Within bound mgr.dcids.queue

variable {mgr next : ConnectionIdMgr}

section

variable (placed : mgr.Placed bound)

include placed

theorem Placed.mono (le : bound ≤ larger) : mgr.Placed larger :=
  ⟨placed.numbered, placed.scids.mono le, placed.dcids.mono le⟩

theorem Placed.of_queues (scids : next.scids.queue = mgr.scids.queue)
    (dcids : next.dcids.queue = mgr.dcids.queue) (numbers : next.nextScidSeq = mgr.nextScidSeq) :
    next.Placed bound := by
  refine ⟨⟨?_, ?_⟩, scids ▸ placed.scids, dcids ▸ placed.dcids⟩
  · rw [scidSeqs, scids]
    exact placed.numbered.unique
  · rw [scidSeqs, scids, numbers]
    exact placed.numbered.below

theorem Placed.markScidUsed (slot : pathId < bound)
    (marked : mgr.markScidUsed seq pathId = .ok next) : next.Placed bound := by
  have numbered := (markScidUsed_same marked).2.numbered placed.numbered
  unfold ConnectionIdMgr.markScidUsed at marked
  split at marked
  · cases marked
  · next queue found =>
      cases marked
      exact ⟨numbered, placed.scids.markUsed found slot, placed.dcids⟩

theorem Placed.markDcidUsed (slot : pathId < bound)
    (marked : mgr.markDcidUsed seq pathId = .ok next) : next.Placed bound := by
  have numbered := (markDcidUsed_same marked).2.numbered placed.numbered
  unfold ConnectionIdMgr.markDcidUsed at marked
  split at marked
  · cases marked
  · next queue found =>
      cases marked
      exact ⟨numbered, placed.scids, placed.dcids.markUsed found slot⟩

end

/-- `add_dcid` gives no id a path that is not there. -/
theorem Placed.addDcid (placed : mgr.Placed bound) (cid : ConnectionId) (seq : Nat)
    (resetToken : ResetToken) (retirePriorTo : Nat) :
    (mgr.addDcid cid seq resetToken retirePriorTo).2.Placed bound := by
  have fresh : ∀ {queue : List ConnectionIdItem}, queue.Sublist mgr.dcids.queue →
      mgr.Fresh cid seq → seq ∉ queue.map (·.seq) := by
    intro queue sublist new member
    obtain ⟨item, present, same⟩ := List.mem_map.mp member
    exact (new item (sublist.subset present)).2 same
  have retired := retireLower_sublist mgr retirePriorTo
  rcases addDcid_cases (Prod.eta (mgr.addDcid cid seq resetToken retirePriorTo)).symm with
    ⟨_, same⟩ | ⟨_, same, _⟩ | ⟨_, _, _, _, _, same⟩ | ⟨_, _, new, _, _, _, _, same⟩ |
      ⟨_, _, new, _, ⟨_, same⟩ | ⟨_, same⟩⟩ <;> rw [same]
  · exact placed
  · exact placed
  · exact placed.of_queues rfl rfl rfl
  · exact ⟨⟨placed.numbered.unique, placed.numbered.below⟩, placed.scids,
      placed.dcids.append (fresh (.refl _) new) rfl⟩
  · exact ⟨⟨placed.numbered.unique, placed.numbered.below⟩, placed.scids,
      placed.dcids.of_sublist retired⟩
  · exact ⟨⟨placed.numbered.unique, placed.numbered.below⟩, placed.scids,
      (placed.dcids.of_sublist retired).append (fresh retired new) rfl⟩

theorem Placed.addScid (placed : mgr.Placed bound) (cid : ConnectionId)
    (resetToken : Option ResetToken) (advertise retireIfNeeded : Bool) :
    (mgr.addScid cid resetToken advertise none retireIfNeeded).2.Placed bound := by
  refine addScid_induct _ _ _ _ _ _ placed
    (fun _ _ _ _ => ⟨⟨placed.numbered.unique, placed.numbered.below⟩, placed.scids, placed.dcids⟩)
    fun before placed _ => ?_
  have fresh : before.nextScidSeq ∉ before.scids.queue.map (·.seq) :=
    fun member => Nat.lt_irrefl _ (placed.numbered.below _ member)
  have grown : (before.appendScid cid resetToken none).Placed bound :=
    ⟨appendScid_numbered placed.numbered _ _ _, placed.scids.append fresh rfl, placed.dcids⟩
  unfold markScidToAdvertise
  split
  · exact grown.of_queues rfl rfl rfl
  · exact grown.of_queues rfl rfl rfl

theorem Placed.retireScid (placed : mgr.Placed bound) (seq : Nat) (pktDcid : ConnectionId) :
    (mgr.retireScid seq pktDcid).2.Placed bound := by
  have numbered := retireScid_numbered placed.numbered seq pktDcid
  rcases retireScid_cases mgr seq pktDcid with same | ⟨scids, lowest, erased, _, _, removed⟩
  · rw [same]
    exact placed
  · rw [removed] at numbered ⊢
    exact ⟨numbered, placed.scids.of_sublist (erased ▸ List.eraseP_sublist), placed.dcids⟩

end ConnectionIdMgr

namespace CidPaths

open ConnectionIdMgr

/-- Every path that an id item names is there. -/
def Placed (conn : CidPaths) : Prop := conn.cids.Placed conn.paths.paths.length

/-- No path is added or replaced. -/
structure Settles (before after : CidPaths) : Prop where
  slots : after.paths.slots = before.paths.slots
  placed : before.Placed → after.Placed

variable {conn next middle : CidPaths}

theorem Settles.refl (conn : CidPaths) : Settles conn conn := ⟨rfl, id⟩

theorem Settles.trans (former : Settles conn middle) (latter : Settles middle next) :
    Settles conn next :=
  ⟨latter.slots.trans former.slots, fun placed => latter.placed (former.placed placed)⟩

private theorem length_of_slots {left right : PathMap} (same : left.slots = right.slots) :
    left.paths.length = right.paths.length := by
  have lengths := congrArg List.length same
  simpa [PathMap.slots] using lengths

/-- The paths keep their addresses, and the ids are those of the manager. -/
theorem Settles.of_parts (slots : next.paths.slots = conn.paths.slots)
    (placed : conn.cids.Placed conn.paths.paths.length →
      next.cids.Placed conn.paths.paths.length) : Settles conn next := by
  refine ⟨slots, fun before => ?_⟩
  unfold Placed
  rw [length_of_slots slots]
  exact placed before

theorem Settles.of_paths (slots : next.paths.slots = conn.paths.slots)
    (cids : next.cids = conn.cids) : Settles conn next :=
  .of_parts slots fun placed => cids ▸ placed

theorem Settles.of_queues (paths : next.paths = conn.paths)
    (scids : next.cids.scids.queue = conn.cids.scids.queue)
    (dcids : next.cids.dcids.queue = conn.cids.dcids.queue)
    (numbers : next.cids.nextScidSeq = conn.cids.nextScidSeq) : Settles conn next :=
  .of_parts (congrArg PathMap.slots paths) fun placed => placed.of_queues scids dcids numbers

variable {path : Path}

theorem slot_lt {pathId : Nat} (present : conn.paths.get pathId = some path) :
    pathId < conn.paths.paths.length :=
  (List.getElem?_eq_some_iff.mp present).1

theorem setDcid_settles {pathId : Nat} (present : conn.paths.get pathId = some path)
    (dcidSeq : Option Nat) : Settles conn (conn.setDcid pathId path dcidSeq) :=
  .of_paths (CidPaths.map_set present rfl) rfl

variable {pathId seq : Nat} {cids : ConnectionIdMgr}

theorem setDcid_markDcidUsed_settles (present : conn.paths.get pathId = some path)
    (marked : conn.cids.markDcidUsed seq pathId = .ok cids) :
    Settles conn { conn.setDcid pathId path (some seq) with cids } :=
  .of_parts (CidPaths.map_set present rfl) fun placed =>
    placed.markDcidUsed (slot_lt present) marked

private theorem reassignDcids_settles (retired : List (Nat × Nat)) (conn : CidPaths) :
    Settles conn (reassignDcids retired conn).2 := by
  induction retired generalizing conn with
  | nil => exact .refl conn
  | cons first rest ih =>
    obtain ⟨dcidSeq, pathId⟩ := first
    unfold reassignDcids
    cases present : conn.paths.get pathId with
    | none => exact .refl conn
    | some path =>
      dsimp only
      split_ifs
      · exact ih conn
      · cases conn.cids.lowestUnusedDcidSeq with
        | none => exact (setDcid_settles present none).trans (ih _)
        | some seq =>
          dsimp only
          cases marked : conn.cids.markDcidUsed seq pathId with
          | error error => exact setDcid_settles present (some seq)
          | ok cids => exact (setDcid_markDcidUsed_settles present marked).trans (ih _)

private theorem recvNewConnectionId_settles (conn : CidPaths) (seqNum retirePriorTo : Nat)
    (connId : ConnectionId) (resetToken : ResetToken) :
    Settles conn (conn.recvNewConnectionId seqNum retirePriorTo connId resetToken).2 := by
  have added : Settles conn
      { conn with cids := (conn.cids.addDcid connId seqNum resetToken retirePriorTo).2 } :=
    .of_parts rfl fun placed => placed.addDcid connId seqNum resetToken retirePriorTo
  unfold recvNewConnectionId
  split_ifs
  · exact .refl conn
  · cases outcome : conn.cids.addDcid connId seqNum resetToken retirePriorTo with
    | mk result cids =>
      rw [outcome] at added
      cases result with
      | error error => exact added
      | ok retired => exact added.trans (reassignDcids_settles retired _)

private theorem allocateCids_settles (pathIds : List Nat) (conn : CidPaths) :
    Settles conn (allocateCids pathIds conn) := by
  induction pathIds generalizing conn with
  | nil => exact .refl conn
  | cons pathId rest ih =>
    unfold allocateCids
    cases present : conn.paths.get pathId with
    | none => exact ih conn
    | some path =>
      dsimp only
      split_ifs
      · exact ih conn
      · exact (setDcid_settles present (some 0)).trans (ih _)
      · cases conn.cids.lowestUnusedDcidSeq with
        | none => exact .refl conn
        | some seq =>
          refine .trans ?_ (ih _)
          cases marked : conn.cids.markDcidUsed seq pathId with
          | error error => exact setDcid_settles present (some seq)
          | ok cids => exact setDcid_markDcidUsed_settles present marked

/-- A RETIRE_CONNECTION_ID frame adds and replaces no path. -/
theorem recvRetireConnectionId_settles (conn : CidPaths) (seqNum : Nat) (pktDcid : ConnectionId) :
    Settles conn (conn.recvRetireConnectionId seqNum pktDcid).2 := by
  have retired : Settles conn { conn with cids := (conn.cids.retireScid seqNum pktDcid).2 } :=
    .of_parts rfl fun placed => placed.retireScid seqNum pktDcid
  unfold recvRetireConnectionId
  split_ifs
  · exact .refl conn
  · cases conn.cids.scids.get seqNum with
    | none => exact .refl conn
    | some item =>
      dsimp only
      cases outcome : conn.cids.retireScid seqNum pktDcid with
      | mk result cids =>
        rw [outcome] at retired
        cases result with
        | error error => exact retired
        | ok pathId =>
          cases pathId with
          | none => exact retired
          | some pathId =>
            dsimp only
            cases present : conn.paths.get pathId with
            | none => exact retired
            | some path =>
              dsimp only
              split_ifs
              · exact retired.trans (.of_paths (CidPaths.map_set present rfl) rfl)
              · exact retired

private theorem usePath_settles (conn : CidPaths) (recvPid cidSeq : Nat) (dcid : ConnectionId) :
    Settles conn (conn.usePath recvPid cidSeq dcid).2 := by
  unfold usePath
  cases present : conn.paths.get recvPid with
  | none => exact .refl conn
  | some path =>
    dsimp only
    split_ifs
    · cases marked : conn.cids.markScidUsed cidSeq recvPid with
      | error error => exact .of_paths (CidPaths.map_set present rfl) rfl
      | ok cids =>
        exact .of_parts (CidPaths.map_set present rfl) fun placed =>
          placed.markScidUsed (slot_lt present) marked
    · exact .refl conn

theorem Writes.settles {retiring : Bool} {frames : List CidFrame}
    (writes : Writes retiring conn frames next) : Settles conn next := by
  induction writes with
  | none conn => exact .refl conn
  | advertise _ _ _ _ ih | retire _ _ _ ih =>
    refine .trans ?_ ih
    exact .of_queues rfl rfl rfl rfl

/-- What an operation does to the slots: the paths stay where they are, but one slot may have
been given to a new path. -/
structure Moves (slot : Option Nat) (before after : CidPaths) : Prop where
  slots : ∀ pathId addrs, slot ≠ some pathId → before.paths.slots[pathId]? = some addrs →
    after.paths.slots[pathId]? = some addrs
  placed : before.Placed → after.Placed

theorem Settles.moves (settles : Settles conn next) (slot : Option Nat) : Moves slot conn next :=
  ⟨fun _ _ _ present => settles.slots ▸ present, settles.placed⟩

theorem Moves.settles {slot : Option Nat} (moves : Moves slot conn middle)
    (settles : Settles middle next) : Moves slot conn next :=
  ⟨fun pathId addrs other present => settles.slots ▸ moves.slots pathId addrs other present,
    fun placed => settles.placed (moves.placed placed)⟩

/-- A new path is appended, or takes the slot of the one that is evicted. -/
theorem insertPath_moves {paths : PathMap} {pathId : Nat}
    (inserted : conn.paths.insertPath path = .ok (pathId, paths)) :
    Moves conn.paths.evicted conn { conn with paths } ∧ pathId < paths.paths.length := by
  have lengths : ∀ map : PathMap, map.slots.length = map.paths.length :=
    fun map => List.length_map _
  rcases PathMap.slots_insertPath inserted with ⟨evicted, slot, slots⟩ | ⟨_, rfl, slots⟩
  · have same : paths.paths.length = conn.paths.paths.length := by
      rw [← lengths, slots, List.length_set, lengths]
    refine ⟨⟨?_, fun placed => ?_⟩, same ▸ slot⟩
    · intro other addrs differs present
      have apart : pathId ≠ other := fun equal => differs (evicted.trans (congrArg some equal))
      dsimp only
      rw [slots, List.getElem?_set_ne apart]
      exact present
    · unfold Placed
      dsimp only
      rw [same]
      exact placed
  · have more : paths.paths.length = conn.paths.paths.length + 1 := by
      rw [← lengths, slots, List.length_append, lengths]
      rfl
    refine ⟨⟨?_, fun placed => ?_⟩, by omega⟩
    · intro other addrs _ present
      dsimp only
      rw [slots, List.getElem?_append_left (List.getElem?_eq_some_iff.mp present).1]
      exact present
    · exact ConnectionIdMgr.Placed.mono placed (by dsimp only; omega)

private theorem markScidUsed_settles (slot : pathId < conn.paths.paths.length)
    (marked : conn.cids.markScidUsed seq pathId = .ok cids) : Settles conn { conn with cids } :=
  .of_parts rfl fun placed => placed.markScidUsed slot marked

private theorem markDcidUsed_settles (slot : pathId < conn.paths.paths.length)
    (marked : conn.cids.markDcidUsed seq pathId = .ok cids) : Settles conn { conn with cids } :=
  .of_parts rfl fun placed => placed.markDcidUsed slot marked

/-- The slot of the path that has to give way when a packet arrives. -/
def packetEvicts (conn : CidPaths) (recvPid : Option Nat) (dcid : ConnectionId) : Option Nat :=
  if recvPid.isNone && (conn.cids.findScid dcid).isSome then conn.paths.evicted else none

def addPathEvicts (conn : CidPaths) (localAddr remoteAddr : SocketAddr) : Option Nat :=
  if conn.config.isServer || !conn.handshakeCompleted then none
  else if (conn.paths.getPathId (localAddr, remoteAddr)).isSome then none
  else conn.paths.evicted

private theorem getOrCreatePath_moves (conn : CidPaths) (recvPid : Option Nat) (dcid : ConnectionId)
    (localAddr remoteAddr : SocketAddr) (bufLen : Nat) :
    Moves (conn.packetEvicts recvPid dcid) conn
      (conn.getOrCreatePath recvPid dcid localAddr remoteAddr bufLen).2 := by
  unfold getOrCreatePath packetEvicts
  cases found : conn.cids.findScid dcid with
  | none => exact (Settles.refl conn).moves _
  | some known =>
    obtain ⟨cidSeq, cidPid⟩ := known
    cases recvPid with
    | some recvPid => exact (usePath_settles conn recvPid cidSeq dcid).moves _
    | none =>
      rw [if_pos (by rfl)]
      dsimp only
      split
      · exact (Settles.refl conn).moves _
      · rename_i pathId paths inserted
        obtain ⟨moves, slot⟩ := insertPath_moves inserted
        split_ifs
        · cases marked : conn.cids.markScidUsed cidSeq pathId with
          | error error => exact moves
          | ok cids => exact moves.settles (markScidUsed_settles slot marked)
        · exact moves

private theorem addPath_moves (conn : CidPaths) (localAddr remoteAddr : SocketAddr) :
    Moves (conn.addPathEvicts localAddr remoteAddr) conn (conn.addPath localAddr remoteAddr) := by
  unfold addPath addPathEvicts
  by_cases refused : (conn.config.isServer || !conn.handshakeCompleted) = true
  · rw [if_pos refused, if_pos refused]
    exact (Settles.refl conn).moves _
  rw [if_neg refused, if_neg refused]
  by_cases known : (conn.paths.getPathId (localAddr, remoteAddr)).isSome = true
  · rw [if_pos known, if_pos known]
    exact (Settles.refl conn).moves _
  rw [if_neg known, if_neg known]
  dsimp only
  split
  · exact (Settles.refl conn).moves _
  · rename_i pathId paths inserted
    obtain ⟨moves, slot⟩ := insertPath_moves inserted
    generalize (if conn.cids.zeroLengthDcid = true then some 0
      else conn.cids.lowestUnusedDcidSeq) = dcidSeq
    -- The new path is asked to validate itself in any case.
    have validates : ∀ cids, Settles { conn with paths, cids }
        { conn with paths := paths.modify pathId (·.initiatePathChal), cids } :=
      fun _ => .of_paths (CidPaths.map_modify _ _ fun _ => rfl) rfl
    cases dcidSeq with
    | none => exact moves.settles (validates conn.cids)
    | some seq =>
      dsimp only
      cases marked : conn.cids.markDcidUsed seq pathId with
      | error error => exact moves
      | ok cids =>
        exact (moves.settles (markDcidUsed_settles slot marked)).settles (validates cids)

end CidPaths

/-! ## Runs -/

namespace CidPaths

/-- The slot of the path that an operation replaces. -/
def evicts (conn : CidPaths) : CidPathRun.Op → Option Nat
  | .packet recvPid dcid _ _ _ => conn.packetEvicts recvPid dcid
  | .addPath localAddr remoteAddr => conn.addPathEvicts localAddr remoteAddr
  | _ => none

/-- The source id that an operation assigns to the path of a packet. -/
def assigns (conn : CidPaths) : CidPathRun.Op → Option Nat
  | .packet recvPid dcid localAddr remoteAddr bufLen =>
    match conn.cids.findScid dcid,
      (conn.getOrCreatePath recvPid dcid localAddr remoteAddr bufLen).1 with
    | some (cidSeq, cidPid), .ok _ =>
      match recvPid with
      | some recvPid =>
        let item := (conn.paths.get recvPid).bind (·.scidSeq.bind conn.cids.scids.get)
        if item.map (·.cid) ≠ some dcid then some cidSeq else none
      | none => if conn.cids.zeroLengthScid || cidPid.isNone then some cidSeq else none
    | _, _ => none
  | _ => none

end CidPaths

/-- The slot that the item with the given number names. -/
def ConnectionIdDeque.reference (deque : ConnectionIdDeque) (seq : Nat) : Option Nat :=
  (deque.get seq).bind (·.pathId)

/-- A run that remembers which path each source and destination id was assigned to. -/
structure CidReferences where
  run : CidPathRun
  scidPaths : Nat → Option (SocketAddr × SocketAddr)
  dcidPaths : Nat → Option (SocketAddr × SocketAddr)

namespace CidReferences

inductive Op where
  | run (op : CidPathRun.Op)
  -- A path is only marked as abandoned, and nothing reads the mark.
  | abandonPath (localAddr remoteAddr : SocketAddr)
  -- Migration by the application is refused.
  | migratePath (localAddr remoteAddr : SocketAddr)

def start (config : CidConfig) (localAddr remoteAddr : SocketAddr) (addrToken : Bool)
    (initialScid : ConnectionId) (scidToken : Option ResetToken) (dcid : ConnectionId)
    (dcidToken : Option ResetToken) : CidReferences :=
  { run := .start config localAddr remoteAddr addrToken initialScid scidToken dcid dcidToken
    scidPaths := fun seq => if seq = 0 then some (localAddr, remoteAddr) else none
    dcidPaths := fun seq => if seq = 0 then some (localAddr, remoteAddr) else none }

/-- The path of an id after an operation. An id is assigned anew if the slot it names changes.
Destination ids are only given to paths while they are unused; a source id may also be given
to a path that took over the slot. -/
def assignedPath (assigned : Bool) (before after : Option Nat)
    (old : Option (SocketAddr × SocketAddr)) (paths : PathMap) : Option (SocketAddr × SocketAddr) :=
  match after with
  | none => none
  | some pathId => if !assigned && before = some pathId then old else paths.slots[pathId]?

def step (state : CidReferences) : Op → Option CidReferences
  | .run op =>
    (state.run.step op).map fun run =>
      let before := state.run.conn.cids
      let after := run.conn.cids
      { run
        scidPaths := fun seq =>
          assignedPath (state.run.conn.assigns op = some seq) (before.scids.reference seq)
            (after.scids.reference seq) (state.scidPaths seq) run.conn.paths
        dcidPaths := fun seq =>
          assignedPath false (before.dcids.reference seq) (after.dcids.reference seq)
            (state.dcidPaths seq) run.conn.paths }
  | .abandonPath _ _ => some state
  | .migratePath _ _ => some state

/-- No id item names a path that is replaced, unless it is assigned to the new path. -/
def Unreferenced (state : CidReferences) : Op → Prop
  | .run op => ∀ slot, state.run.conn.evicts op = some slot →
      (∀ item ∈ state.run.conn.cids.scids.queue, item.pathId = some slot →
        state.run.conn.assigns op = some item.seq) ∧
      ∀ item ∈ state.run.conn.cids.dcids.queue, item.pathId ≠ some slot
  | _ => True

def isUnreferenced (state : CidReferences) : Op → Bool
  | .run op => (state.run.conn.evicts op).all fun slot =>
    state.run.conn.cids.scids.queue.all (fun item =>
      item.pathId ≠ some slot || state.run.conn.assigns op = some item.seq) &&
    state.run.conn.cids.dcids.queue.all (fun item => item.pathId ≠ some slot)
  | _ => true

private theorem unreferenced_of_isUnreferenced (state : CidReferences) (op : Op)
    (passed : isUnreferenced state op = true) : Unreferenced state op := by
  cases op with
  | run op =>
    intro slot evicts
    rw [isUnreferenced, evicts] at passed
    obtain ⟨scids, dcids⟩ := Bool.and_eq_true_iff.mp passed
    constructor
    · intro item member names
      simpa [names] using List.all_eq_true.mp scids item member
    · intro item member
      simpa using List.all_eq_true.mp dcids item member
  | abandonPath => trivial
  | migratePath => trivial

def Sound (state : CidReferences) : Prop :=
  (∀ item ∈ state.run.conn.cids.scids.queue, ∀ pathId, item.pathId = some pathId →
    ∃ path, state.run.conn.paths.get pathId = some path ∧
      state.scidPaths item.seq = some path.addrs) ∧
  ∀ item ∈ state.run.conn.cids.dcids.queue, ∀ pathId, item.pathId = some pathId →
    ∃ path, state.run.conn.paths.get pathId = some path ∧ state.dcidPaths item.seq = some path.addrs

structure Consistent (state : CidReferences) : Prop where
  placed : state.run.conn.Placed
  scids : ∀ seq pathId, state.run.conn.cids.scids.reference seq = some pathId →
    state.scidPaths seq = state.run.conn.paths.slots[pathId]?
  dcids : ∀ seq pathId, state.run.conn.cids.dcids.reference seq = some pathId →
    state.dcidPaths seq = state.run.conn.paths.slots[pathId]?

private theorem reference_of_mem {deque : ConnectionIdDeque} {bound : Nat}
    (within : ConnectionIdMgr.Within bound deque.queue) {item : ConnectionIdItem}
    (member : item ∈ deque.queue) : deque.reference item.seq = item.pathId := by
  have found : (deque.get item.seq).isSome := by
    rw [ConnectionIdDeque.get, List.find?_isSome]
    exact ⟨item, member, decide_eq_true rfl⟩
  obtain ⟨first, stored⟩ := Option.isSome_iff_exists.mp found
  obtain ⟨kept, same⟩ := ConnectionIdDeque.mem_of_get stored
  rw [ConnectionIdDeque.reference, stored]
  exact congrArg ConnectionIdItem.pathId (List.inj_on_of_nodup_map within.unique kept member same)

theorem mem_of_reference {deque : ConnectionIdDeque} {seq pathId : Nat}
    (names : deque.reference seq = some pathId) :
    ∃ item ∈ deque.queue, item.seq = seq ∧ item.pathId = some pathId := by
  obtain ⟨item, stored, path⟩ := Option.bind_eq_some_iff.mp names
  obtain ⟨kept, same⟩ := ConnectionIdDeque.mem_of_get stored
  exact ⟨item, kept, same, path⟩

theorem Consistent.sound {state : CidReferences} (consistent : Consistent state) : Sound state := by
  have names : ∀ {deque : ConnectionIdDeque} {owner : Nat → Option (SocketAddr × SocketAddr)},
      ConnectionIdMgr.Within state.run.conn.paths.paths.length deque.queue →
      (∀ seq pathId, deque.reference seq = some pathId →
        owner seq = state.run.conn.paths.slots[pathId]?) →
      ∀ item ∈ deque.queue, ∀ pathId, item.pathId = some pathId →
        ∃ path, state.run.conn.paths.get pathId = some path ∧ owner item.seq = some path.addrs := by
    intro deque owner within owned item member pathId path
    have slot := within.below item member pathId path
    obtain ⟨stored, present⟩ : ∃ stored, state.run.conn.paths.get pathId = some stored :=
      ⟨_, List.getElem?_eq_getElem slot⟩
    refine ⟨stored, present, ?_⟩
    rw [owned item.seq pathId ((reference_of_mem within member).trans path),
      PathMap.slots_getElem?, present]
    rfl
  exact ⟨names consistent.placed.scids consistent.scids,
    names consistent.placed.dcids consistent.dcids⟩

/-! ## What a step keeps -/

open CidPaths

theorem settle_moves {α : Type} (run : CidPathRun) {slot : Option Nat}
    {outcome : Except Error α × CidPaths} (moves : Moves slot run.conn outcome.2) :
    Moves slot run.conn (run.settle outcome).conn := by
  unfold CidPathRun.settle
  split
  · exact moves
  · exact moves
  · exact moves.settles (.of_paths rfl rfl)

/-- A step gives no slot away but that of the path it evicts. -/
theorem step_moves {run next : CidPathRun} {op : CidPathRun.Op} (stepped : run.step op = some next) :
    Moves (run.conn.evicts op) run.conn next.conn := by
  obtain ⟨_, stepped⟩ := Option.ite_none_left_eq_some.mp stepped
  cases op with
  | newConnectionId seqNum retirePriorTo connId resetToken =>
    cases stepped
    exact settle_moves run ((recvNewConnectionId_settles _ _ _ _ _).moves _)
  | retireConnectionId seqNum pktDcid =>
    cases stepped
    exact settle_moves run ((recvRetireConnectionId_settles _ _ _).moves _)
  | packet recvPid dcid localAddr remoteAddr bufLen =>
    cases stepped
    exact settle_moves run (getOrCreatePath_moves _ _ _ _ _ _)
  | allocateCids =>
    cases stepped
    exact (allocateCids_settles _ _).moves _
  | addPath localAddr remoteAddr =>
    cases stepped
    exact addPath_moves _ _ _
  | addScid cid resetToken retireIfNeeded =>
    cases stepped
    refine Settles.moves ?_ _
    exact .of_parts rfl fun placed => placed.addScid _ _ _ _
  | setScidLimit limit =>
    cases stepped
    refine Settles.moves ?_ _
    refine .of_queues rfl ?_ rfl rfl
    simp only [ConnectionIdMgr.setScidLimit, ConnectionIdDeque.enlarge]
    split <;> rfl
  | write fuel pathId room =>
    obtain ⟨written, wrote, same⟩ := Option.map_eq_some_iff.mp stepped
    cases same
    exact (tryWriteCidControlFrame_writes wrote).settles.moves _
  | lose frame =>
    obtain ⟨_, moved⟩ := Option.ite_none_right_eq_some.mp stepped
    cases frame <;> cases moved <;> refine Settles.moves ?_ _ <;> exact .of_queues rfl rfl rfl rfl
  | chalSent pathId data pktSize sentTime =>
    obtain ⟨paths, sent, same⟩ := Option.map_eq_some_iff.mp stepped
    cases same
    refine Settles.moves ?_ _
    exact .of_paths (PathMap.slots_of_routes (routes_onPathChalSent sent)) rfl
  | chalReceived pathId data =>
    cases stepped
    refine Settles.moves ?_ _
    exact .of_paths (CidPaths.map_modify _ _ fun _ => rfl) rfl
  | respReceived pathId data =>
    cases stepped
    refine Settles.moves ?_ _
    exact .of_paths (PathMap.slots_of_routes (routes_onPathRespReceived _ _ _)) rfl
  | chalTimeout now =>
    cases stepped
    refine Settles.moves ?_ _
    exact .of_paths (PathMap.slots_of_routes (routes_onPathChalTimeout _ _)) rfl
  | enableMultipath | completeHandshake | close =>
    cases stepped
    refine Settles.moves ?_ _
    exact .of_paths rfl rfl

/-- An id is assigned to the path that is in its slot now, unless that slot was given away. -/
theorem assignedPath_eq {slot : Option Nat} {before after : CidPaths} {deque deque' : ConnectionIdDeque}
    {assigned : Bool} {seq pathId : Nat} {old : Option (SocketAddr × SocketAddr)}
    (moves : Moves slot before after)
    (within : ConnectionIdMgr.Within before.paths.paths.length deque.queue)
    (owned : deque.reference seq = some pathId → old = before.paths.slots[pathId]?)
    (unevicted : slot = some pathId → deque.reference seq = some pathId → assigned = true)
    (names : deque'.reference seq = some pathId) :
    assignedPath assigned (deque.reference seq) (deque'.reference seq) old after.paths =
      after.paths.slots[pathId]? := by
  rw [names]
  unfold assignedPath
  dsimp only
  split_ifs with same
  · obtain ⟨unassigned, kept⟩ := Bool.and_eq_true_iff.mp same
    have held := of_decide_eq_true kept
    obtain ⟨item, member, _, path⟩ := mem_of_reference held
    have present : before.paths.slots[pathId]? = some (before.paths.slots.get ⟨pathId, by
        simpa [PathMap.slots] using within.below item member pathId path⟩) :=
      List.getElem?_eq_getElem _
    have other : slot ≠ some pathId := by
      intro evicted
      rw [unevicted evicted held] at unassigned
      cases unassigned
    rw [owned held, present, moves.slots pathId _ other present]
  · rfl

/-- A step keeps the references right, unless it evicts a path that an id refers to. -/
theorem step_consistent {state next : CidReferences} {op : Op} (consistent : Consistent state)
    (unreferenced : Unreferenced state op) (stepped : step state op = some next) :
    Consistent next := by
  cases op with
  | run op =>
    obtain ⟨run, moved, same⟩ := Option.map_eq_some_iff.mp stepped
    cases same
    have moves := step_moves moved
    refine ⟨moves.placed consistent.placed, ?_, ?_⟩
    · intro seq pathId names
      refine assignedPath_eq moves consistent.placed.scids (consistent.scids seq pathId) ?_ names
      intro evicted held
      obtain ⟨item, member, number, path⟩ := mem_of_reference held
      rw [(unreferenced pathId evicted).1 item member path, number]
      exact decide_eq_true rfl
    · intro seq pathId names
      refine assignedPath_eq moves consistent.placed.dcids (consistent.dcids seq pathId) ?_ names
      intro evicted held
      obtain ⟨item, member, _, path⟩ := mem_of_reference held
      exact absurd path ((unreferenced pathId evicted).2 item member)
  | abandonPath =>
    cases stepped
    exact consistent
  | migratePath =>
    cases stepped
    exact consistent

theorem start_consistent (config : CidConfig) (localAddr remoteAddr : SocketAddr) (addrToken : Bool)
    (initialScid : ConnectionId) (scidToken : Option ResetToken) (dcid : ConnectionId)
    (dcidToken : Option ResetToken) :
    Consistent (start config localAddr remoteAddr addrToken initialScid scidToken dcid
      dcidToken) := by
  have capacity : config.activeConnIdLimit * 2 - 1 ≠ 0 := by
    have enough := config.atLeastTwo
    omega
  have dcids : (start config localAddr remoteAddr addrToken initialScid scidToken dcid
      dcidToken).run.conn.cids.dcids.queue =
        [{ cid := dcid, seq := 0, resetToken := dcidToken, pathId := some 0 }] := by
    simp [start, CidPathRun.start, CidPaths.start, ConnectionIdMgr.setInitialDcid,
      ConnectionIdMgr.new, ConnectionIdDeque.clear, ConnectionIdDeque.insert, Ne.symm capacity,
      Except.toOption]
  have slots : (start config localAddr remoteAddr addrToken initialScid scidToken dcid
      dcidToken).run.conn.paths.slots = [(localAddr, remoteAddr)] := by
    unfold start CidPathRun.start CidPaths.start Path.initial
    dsimp only
    split <;> rfl
  have first : ∀ (item : ConnectionIdItem), item.seq = 0 → item.pathId = some 0 →
      ConnectionIdMgr.Within 1 [item] := by
    intro item _ path
    refine ⟨List.nodup_singleton _, ?_⟩
    intro held member pathId names
    rw [List.mem_singleton.mp member, path] at names
    cases names
    exact Nat.zero_lt_one
  have named : ∀ {deque : ConnectionIdDeque} {item : ConnectionIdItem}, deque.queue = [item] →
      item.seq = 0 → item.pathId = some 0 → ∀ seq pathId, deque.reference seq = some pathId →
        (if seq = 0 then some (localAddr, remoteAddr) else none) =
          [(localAddr, remoteAddr)][pathId]? := by
    intro deque item single number path seq pathId names
    obtain ⟨held, member, same, slot⟩ := mem_of_reference names
    rw [single, List.mem_singleton] at member
    rw [member, number] at same
    rw [member, path] at slot
    cases same
    cases slot
    rfl
  refine ⟨⟨⟨List.nodup_singleton 0, ?_⟩, first _ rfl rfl, dcids ▸ first _ rfl rfl⟩, ?_, ?_⟩
  · intro seq member
    rw [List.mem_singleton.mp member]
    exact Nat.zero_lt_one
  · rw [slots]
    exact named rfl rfl rfl
  · rw [slots]
    exact named dcids rfl rfl

/-- As long as no path is replaced that a connection id still names, every slot that an id item
stores holds the path that the id was assigned to. -/
theorem references_sound (config : CidConfig) (localAddr remoteAddr : SocketAddr) (addrToken : Bool)
    (initialScid : ConnectionId) (scidToken : Option ResetToken) (dcid : ConnectionId)
    (dcidToken : Option ResetToken) (state : CidReferences) (run : Run step Unreferenced
      (start config localAddr remoteAddr addrToken initialScid scidToken dcid dcidToken) state) :
    Sound state :=
  Consistent.sound (run.invariant
    (fun _ _ _ consistent unreferenced stepped =>
      step_consistent consistent unreferenced stepped)
    (start_consistent config localAddr remoteAddr addrToken initialScid scidToken dcid dcidToken))

def sampleStart : CidReferences :=
  start (.default true) (.localhost 1) (.localhost 2) true (.new [7]) (some 0) (.new [8]) none

/-- A client sends from a second and then from a third address, with an id of its own each time,
before it has given the server an id for them. The third path takes the slot of the second. -/
theorem replaced_path_still_named :
    ¬ ∀ state : CidReferences, Run step anyStep sampleStart state → Sound state := by
  intro always
  obtain ⟨scids, _⟩ := always _ (Run.of_exec
    (show exec step sampleStart
      [.run (.setScidLimit 3), .run (.addScid (.new [9]) 1 true), .run (.addScid (.new [10]) 2 true),
        .run (.packet none (.new [9]) (.localhost 1) (.localhost 3) 1200),
        .run (.packet none (.new [10]) (.localhost 1) (.localhost 4) 1200)] = some _ from rfl))
  obtain ⟨path, present, assigned⟩ :=
    scids ⟨.new [9], 1, some 1, some 1⟩ (by decide) 1 rfl
  cases present
  exact absurd assigned (by decide)

/-- A client moves to a second address; the server replaces the path of a third one that no id
names any more. -/
theorem migrated_path_sound :
    ∃ state : CidReferences, state.run.conn.cids.scids.reference 1 = some 0 ∧
      state.run.conn.cids.scids.reference 2 = some 1 ∧ Sound state := by
  refine ⟨_, ?_, ?_, references_sound (.default true) (.localhost 1) (.localhost 2) true (.new [7])
    (some 0) (.new [8]) none _ (Run.of_checked unreferenced_of_isUnreferenced (Run.of_exec
      (show exec (checked isUnreferenced step) sampleStart
        [.run (.setScidLimit 3), .run (.addScid (.new [9]) 1 true),
          .run (.addScid (.new [10]) 2 true),
          .run (.packet none (.new [9]) (.localhost 1) (.localhost 3) 1200),
          .run (.packet (some 0) (.new [9]) (.localhost 1) (.localhost 2) 1200),
          .run (.packet none (.new [10]) (.localhost 1) (.localhost 4) 1200),
          .abandonPath (.localhost 1) (.localhost 4)] = some _ from rfl)))⟩
  · rfl
  · rfl

end CidReferences

end Tquic.Connection
