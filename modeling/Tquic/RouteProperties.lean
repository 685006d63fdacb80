import Tquic.Connection.CidMemory
import Tquic.Routes

/-! What the operations do to the tables of routes, and what a connection forgets of the
routes to it. -/

set_option autoImplicit false

namespace Tquic

open Lib Connection ConnectionIdMgr

/-! ## Tables -/

def RoutedConn.Owns (conn : RoutedConn) (cid : ConnectionId) : Prop :=
  (conn.cids.zeroLengthScid = false ∧ cid ∈ conn.cids.scidValues) ∨
    (conn.isServer = true ∧ conn.odcid = some cid)

instance (conn : RoutedConn) (cid : ConnectionId) : Decidable (conn.Owns cid) :=
  inferInstanceAs (Decidable (_ ∨ _))

namespace ConnectionRoutes

variable {routes : ConnectionRoutes} {conn : RoutedConn}

section

variable (routes : ConnectionRoutes)

theorem insertWithCid_cidTable (cid other : ConnectionId) (idx : Nat) :
    (routes.insertWithCid cid idx).cidTable other =
      if other = cid then some idx else routes.cidTable other :=
  Function.update_apply _ _ _ _

theorem removeWithCid_cidTable (cid other : ConnectionId) :
    (routes.removeWithCid cid).cidTable other =
      if other = cid then none else routes.cidTable other :=
  Function.update_apply _ _ _ _

theorem insertWithAddr_addrTable (tuple other : FourTuple) (idx : Nat) :
    (routes.insertWithAddr tuple idx).addrTable other =
      if other = tuple then some idx else routes.addrTable other :=
  Function.update_apply _ _ _ _

private theorem removeWithAddr_addrTable (tuple other : FourTuple) :
    (routes.removeWithAddr tuple).addrTable other =
      if other = tuple then none else routes.addrTable other :=
  Function.update_apply _ _ _ _

theorem insertWithToken_tokenTable (token other : ResetToken) (idx : Nat) :
    (routes.insertWithToken token idx).tokenTable other =
      if other = token then some idx else routes.tokenTable other :=
  Function.update_apply _ _ _ _

theorem removeWithToken_tokenTable (token other : ResetToken) :
    (routes.removeWithToken token).tokenTable other =
      if other = token then none else routes.tokenTable other :=
  Function.update_apply _ _ _ _

end

theorem foldl_remove {α κ : Type} [DecidableEq κ] {table : ConnectionRoutes → κ → Option Nat}
    {remove : ConnectionRoutes → α → ConnectionRoutes} {key : α → Option κ}
    (removes : ∀ routes item other, table (remove routes item) other =
      if key item = some other then none else table routes other)
    (items : List α) (routes : ConnectionRoutes) (other : κ) :
    table (items.foldl remove routes) other =
      if other ∈ items.filterMap key then none else table routes other := by
  induction items generalizing routes with
  | nil => simp
  | cons item rest ih =>
      rw [List.foldl_cons, ih, removes]
      cases named : key item with
      | none => simp [named]
      | some found =>
          by_cases later : other ∈ rest.filterMap key
          · simp [named, later]
          · by_cases own : found = other
            · simp [named, own]
            · simp [named, later, own, Ne.symm own]

theorem foldl_other {α κ : Type} {table : ConnectionRoutes → κ → Option Nat}
    {remove : ConnectionRoutes → α → ConnectionRoutes}
    (keeps : ∀ routes item, table (remove routes item) = table routes)
    (items : List α) (routes : ConnectionRoutes) :
    table (items.foldl remove routes) = table routes := by
  induction items generalizing routes with
  | nil => rfl
  | cons item rest ih => rw [List.foldl_cons, ih, keeps]

section

variable (routes : ConnectionRoutes)

section

variable (conn : RoutedConn)

private theorem removeScids_cidTable (cid : ConnectionId) :
    (routes.removeScids conn).cidTable cid =
      if conn.cids.zeroLengthScid = false ∧ cid ∈ conn.cids.scidValues then none
      else routes.cidTable cid := by
  unfold removeScids
  cases zero : conn.cids.zeroLengthScid with
  | true =>
      have same := @foldl_other _ _ (·.cidTable)
        (fun routes (path : Path) => routes.removeWithAddr ⟨path.localAddr, path.remoteAddr⟩)
        (fun _ _ => rfl) conn.run.conn.paths.paths routes
      simp only [Bool.not_true, Bool.false_eq_true, Bool.true_eq_false, false_and, if_false]
      exact congrFun same cid
  | false =>
      have removed := @foldl_remove _ _ _ (·.cidTable)
        (fun routes (item : ConnectionIdItem) => routes.removeWithCid item.cid)
        (fun item => some item.cid) (fun routes item other => by
          rw [removeWithCid_cidTable]
          simp only [Option.some.injEq, eq_comm]) conn.cids.scids.queue routes cid
      rw [List.filterMap_eq_map'] at removed
      simp only [true_and]
      exact removed

private theorem removeScids_addrTable (tuple : FourTuple) :
    (routes.removeScids conn).addrTable tuple =
      if conn.cids.zeroLengthScid = true ∧
          (tuple.localAddr, tuple.remoteAddr) ∈ conn.run.conn.paths.slots then none
      else routes.addrTable tuple := by
  unfold removeScids
  cases zero : conn.cids.zeroLengthScid with
  | false =>
      have same := @foldl_other _ _ (·.addrTable)
        (fun routes (item : ConnectionIdItem) => routes.removeWithCid item.cid)
        (fun _ _ => rfl) conn.cids.scids.queue routes
      simp only [Bool.not_false, Bool.false_eq_true, if_true, false_and, if_false]
      exact congrFun same tuple
  | true =>
      have removed := @foldl_remove _ _ _ (·.addrTable)
        (fun routes (path : Path) => routes.removeWithAddr ⟨path.localAddr, path.remoteAddr⟩)
        (fun path => some ⟨path.localAddr, path.remoteAddr⟩) (fun routes path other => by
          rw [removeWithAddr_addrTable]
          simp only [Option.some.injEq, eq_comm]) conn.run.conn.paths.paths routes tuple
      have member : tuple ∈ conn.run.conn.paths.paths.filterMap
          (fun path => some (⟨path.localAddr, path.remoteAddr⟩ : FourTuple)) ↔
          (tuple.localAddr, tuple.remoteAddr) ∈ conn.run.conn.paths.slots := by
        unfold PathMap.slots Path.addrs
        simp [FourTuple.ext_iff]
      simp only [true_and]
      rw [← if_congr member rfl rfl]
      exact removed

theorem removeScids_tokenTable : (routes.removeScids conn).tokenTable = routes.tokenTable := by
  unfold removeScids
  split
  · exact @foldl_other _ _ (·.tokenTable)
      (fun routes (item : ConnectionIdItem) => routes.removeWithCid item.cid) (fun _ _ => rfl) _ _
  · exact @foldl_other _ _ (·.tokenTable)
      (fun routes (path : Path) => routes.removeWithAddr ⟨path.localAddr, path.remoteAddr⟩)
      (fun _ _ => rfl) _ _

private theorem removeOdcid_cidTable (cid : ConnectionId) :
    (routes.removeOdcid conn).cidTable cid =
      if conn.isServer = true ∧ conn.odcid = some cid then none else routes.cidTable cid := by
  unfold removeOdcid
  cases conn.isServer with
  | false => simp only [Bool.false_eq_true, false_and, if_false]
  | true =>
      cases conn.odcid with
      | none => simp only [reduceCtorEq, and_false, if_false, if_true]
      | some odcid =>
          rw [if_pos rfl]
          dsimp only
          rw [removeWithCid_cidTable]
          simp only [true_and, Option.some.injEq, eq_comm]

theorem removeOdcid_tables :
    (routes.removeOdcid conn).addrTable = routes.addrTable ∧
      (routes.removeOdcid conn).tokenTable = routes.tokenTable := by
  unfold removeOdcid
  split
  · cases conn.odcid <;> exact ⟨rfl, rfl⟩
  · exact ⟨rfl, rfl⟩

theorem removeTokens_tables :
    (routes.removeTokens conn).cidTable = routes.cidTable ∧
      (routes.removeTokens conn).addrTable = routes.addrTable := by
  have keeps : ∀ (routes : ConnectionRoutes) (item : ConnectionIdItem),
      (routes.removeTokenOf item).cidTable = routes.cidTable ∧
        (routes.removeTokenOf item).addrTable = routes.addrTable := by
    intro routes item
    unfold removeTokenOf
    cases item.resetToken <;> exact ⟨rfl, rfl⟩
  unfold removeTokens
  split
  · exact ⟨foldl_other (fun routes item => (keeps routes item).1) _ _,
      foldl_other (fun routes item => (keeps routes item).2) _ _⟩
  · exact ⟨rfl, rfl⟩

private theorem removeTokens_tokenTable (token : ResetToken) :
    (routes.removeTokens conn).tokenTable token =
      if conn.cids.zeroLengthDcid = false ∧ token ∈ conn.cids.resetTokens then none
      else routes.tokenTable token := by
  unfold removeTokens
  cases conn.cids.zeroLengthDcid with
  | true => simp only [Bool.not_true, Bool.false_eq_true, Bool.true_eq_false, false_and, if_false]
  | false =>
      have removes : ∀ (routes : ConnectionRoutes) (item : ConnectionIdItem) (other : ResetToken),
          (routes.removeTokenOf item).tokenTable other =
            if item.resetToken = some other then none else routes.tokenTable other := by
        intro routes item other
        unfold removeTokenOf
        cases item.resetToken with
        | none => rfl
        | some found =>
            dsimp only
            rw [removeWithToken_tokenTable]
            simp only [Option.some.injEq, eq_comm]
      have removed := foldl_remove removes conn.cids.dcids.queue routes token
      simp only [true_and]
      exact removed

theorem remove_cidTable (cid : ConnectionId) :
    (routes.remove conn).cidTable cid = if conn.Owns cid then none else routes.cidTable cid := by
  unfold remove
  rw [(removeTokens_tables _ conn).1, removeOdcid_cidTable, removeScids_cidTable]
  by_cases original : conn.isServer = true ∧ conn.odcid = some cid
  · rw [if_pos original, if_pos (show conn.Owns cid from .inr original)]
  · rw [if_neg original]
    exact (if_congr (or_iff_left original) rfl rfl).symm

theorem remove_addrTable (tuple : FourTuple) :
    (routes.remove conn).addrTable tuple =
      if conn.cids.zeroLengthScid = true ∧
          (tuple.localAddr, tuple.remoteAddr) ∈ conn.run.conn.paths.slots then none
      else routes.addrTable tuple := by
  unfold remove
  rw [(removeTokens_tables _ conn).2, (removeOdcid_tables _ conn).1, removeScids_addrTable]

theorem remove_tokenTable (token : ResetToken) :
    (routes.remove conn).tokenTable token =
      if conn.cids.zeroLengthDcid = false ∧ token ∈ conn.cids.resetTokens then none
      else routes.tokenTable token := by
  unfold remove
  rw [removeTokens_tokenTable, (removeOdcid_tables _ conn).2, removeScids_tokenTable]

end

end

end ConnectionRoutes

/-! ## Connections -/

namespace RoutedConn

def forgets (conn : RoutedConn) (token : ResetToken) : Op → Bool
  | .manage op => CidPathRun.drops conn.cids token op
  | .packet _ _ _ => !conn.gotPeerCid
  | .retry _ _ => true
  | _ => false

def replaced (conn : RoutedConn) : Op → Option (SocketAddr × SocketAddr)
  | .manage op => (conn.run.conn.evicts op).bind (conn.run.conn.paths.slots[·]?)
  | _ => none

/-- The id that a server takes for the first choice of the client. -/
def learned (conn : RoutedConn) : Op → Option ConnectionId
  | .packet _ pktDcid _ =>
      if conn.gotPeerCid || !conn.isServer || conn.didRetry then none else some pktDcid
  | _ => none

/-- The source ids of which the endpoint is still to hear that they are retired. -/
def unreported (conn : RoutedConn) : List ConnectionId :=
  conn.events.filterMap fun
    | .scidRetired cid => some cid
    | _ => none

variable {cid : ConnectionId}

theorem mem_unreported {conn : RoutedConn} :
    cid ∈ conn.unreported ↔ .scidRetired cid ∈ conn.events := by
  unfold unreported
  rw [List.mem_filterMap]
  constructor
  · rintro ⟨event, queued, reported⟩
    cases event with
    | scidRetired found =>
        cases reported
        exact queued
    | _ => cases reported
  · exact fun queued => ⟨_, queued, rfl⟩

/-- A server that is still to learn the original id does not know one. -/
def Unlearned (conn : RoutedConn) : Prop :=
  conn.isServer = true → conn.gotPeerCid = false → conn.didRetry = false → conn.odcid = none

theorem learned_unknown {conn : RoutedConn} {op : Op} (unlearned : conn.Unlearned)
    (learned : (conn.learned op).isSome) : conn.odcid = none := by
  cases op with
  | packet pathId pktDcid pktScid =>
      unfold RoutedConn.learned at learned
      split_ifs at learned with refused
      · cases learned
      · simp only [Bool.or_eq_true, not_or, Bool.not_eq_true, Bool.not_eq_false'] at refused
        exact unlearned refused.1.2 refused.1.1 refused.2
  | _ => cases learned

/-- What a step leaves of the routes that a connection remembers. -/
structure Evolves (op : Op) (before after : RoutedConn) : Prop where
  isServer : after.isServer = before.isServer
  zeroScid : after.cids.zeroLengthScid = before.cids.zeroLengthScid
  scids : ∀ cid ∈ before.cids.scidValues,
    cid ∈ after.cids.scidValues ∨ .scidRetired cid ∈ after.events
  old : ∀ cid ∈ after.cids.scidValues, cid ∈ before.cids.scidValues
  events : ∀ event ∈ before.events, event ∈ after.events
  retired : ∀ cid, .scidRetired cid ∈ after.events →
    .scidRetired cid ∈ before.events ∨ cid ∈ before.cids.scidValues
  tokens : before.cids.zeroLengthDcid = false → ∀ token ∈ before.cids.resetTokens,
    before.forgets token op = true ∨
      (after.cids.zeroLengthDcid = false ∧ token ∈ after.cids.resetTokens)
  slots : ∀ addrs ∈ before.run.conn.paths.slots,
    before.replaced op = some addrs ∨ addrs ∈ after.run.conn.paths.slots
  odcid : after.odcid = before.odcid ∨ (before.learned op).isSome ∧ after.odcid = before.learned op
  unlearned : before.Unlearned → after.Unlearned

variable {conn next : RoutedConn} {op : Op}

theorem Evolves.of_same (ids : SameIds conn.cids next.cids)
    (paths : next.run.conn.paths = conn.run.conn.paths)
    (events : ∃ new, next.events = conn.events ++ new ∧ ∀ cid, .scidRetired cid ∉ new)
    (odcid : next.odcid = conn.odcid) (isServer : next.isServer = conn.isServer)
    (didRetry : next.didRetry = conn.didRetry)
    (gotPeerCid : conn.isServer = true → next.gotPeerCid = conn.gotPeerCid) :
    Evolves op conn next := by
  obtain ⟨new, appended, others⟩ := events
  refine ⟨isServer, ids.zeroScid, fun _ member => .inl (ids.scids ▸ member),
    fun _ member => ids.scids ▸ member, ?_, ?_, ?_, ?_, .inl odcid, ?_⟩
  · intro event member
    rw [appended]
    exact List.mem_append_left _ member
  · intro cid member
    rw [appended] at member
    exact .inl ((List.mem_append.mp member).resolve_right (others cid))
  · intro nonzero token member
    exact .inr ⟨ids.zeroDcid.trans nonzero, ids.tokens ▸ member⟩
  · intro addrs member
    exact .inr (paths ▸ member)
  · intro unlearned server got retried
    rw [odcid]
    rw [isServer] at server
    exact unlearned server ((gotPeerCid server).symm.trans got) (didRetry.symm.trans retried)

theorem Evolves.of_initial {pathId : Nat} {resetToken : Option ResetToken}
    {initial : RoutedConn} (initially : initial = conn.setInitialDcid cid resetToken pathId)
    (run : next.run = initial.run) (events : next.events = conn.events)
    (isServer : next.isServer = conn.isServer) (forgets : ∀ token, conn.forgets token op = true)
    (odcid : next.odcid = conn.odcid ∨ (conn.learned op).isSome ∧ next.odcid = conn.learned op)
    (unlearned : conn.Unlearned → next.Unlearned) : Evolves op conn next := by
  have scids : next.cids.scidValues = conn.cids.scidValues := by
    unfold RoutedConn.cids
    rw [run, initially]
    rfl
  refine ⟨isServer, ?_, fun _ member => .inl (scids ▸ member), fun _ member => scids ▸ member,
    fun _ member => events ▸ member, fun _ member => .inl (events ▸ member),
    fun _ token _ => .inl (forgets token), ?_, odcid, unlearned⟩
  · unfold RoutedConn.cids
    rw [run, initially]
    rfl
  · intro addrs member
    have slots : (conn.run.conn.paths.modify pathId ({ · with dcidSeq := some 0 })).slots =
        conn.run.conn.paths.slots := CidPaths.map_modify _ _ fun _ => rfl
    rw [run, initially]
    exact .inr (slots.symm ▸ member)

/-- An id is reported as retired exactly if the step retires it. -/
theorem cidEvents_retired {op : CidPathRun.Op} :
    .scidRetired cid ∈ conn.cidEvents op ↔ CidPathRun.Retires conn.cids op cid := by
  cases op with
  | retireConnectionId seqNum pktDcid =>
      unfold cidEvents CidPathRun.Retires
      constructor
      · intro member
        dsimp only at member
        split_ifs at member with zero
        · cases member
        · cases found : conn.cids.scids.get seqNum with
          | none => simp [found] at member
          | some item =>
              simp only [found, List.mem_singleton, Event.scidRetired.injEq] at member
              refine ⟨seqNum, pktDcid, rfl, Bool.not_eq_true _ ▸ zero, ?_⟩
              rw [found, member]
              rfl
      · rintro ⟨seq, dcid, same, nonzero, found⟩
        cases same
        obtain ⟨item, stored, rfl⟩ := Option.map_eq_some_iff.mp found
        simp [nonzero, stored]
  | newConnectionId seqNum retirePriorTo connId resetToken =>
      unfold cidEvents CidPathRun.Retires
      dsimp only
      split_ifs
      · simp
      · split <;> simp
  | write fuel pathId room =>
      unfold cidEvents CidPathRun.Retires
      dsimp only
      split
      · simp [Option.bind_eq_some_iff]
      · simp
  | _ => simp [cidEvents, CidPathRun.Retires]

private theorem manage_evolves {op : CidPathRun.Op} {run : CidPathRun}
    (other : ∀ cid resetToken retireIfNeeded, op ≠ .addScid cid resetToken retireIfNeeded)
    (stepped : conn.run.step op = some run) :
    Evolves (.manage op) conn { conn with run, events := conn.events ++ conn.cidEvents op } := by
  have remembers := CidPathRun.step_remembers stepped other
  have moves := CidReferences.step_moves stepped
  refine ⟨rfl, remembers.zeroScid, ?_, remembers.old, fun _ => List.mem_append_left _, ?_, ?_, ?_,
    .inl rfl, fun unlearned => unlearned⟩
  · intro cid member
    refine (remembers.scids cid member).imp_right fun retires => ?_
    exact List.mem_append_right _ (cidEvents_retired.mpr retires)
  · intro cid member
    refine (List.mem_append.mp member).imp_right fun reported => ?_
    obtain ⟨seq, _, _, _, found⟩ := cidEvents_retired.mp reported
    obtain ⟨item, stored, rfl⟩ := Option.map_eq_some_iff.mp found
    exact List.mem_map_of_mem (List.mem_of_find?_eq_some stored)
  · intro nonzero token member
    refine (remembers.tokens token member).symm.imp_right fun kept => ?_
    exact ⟨remembers.zeroDcid.trans nonzero, kept⟩
  · intro addrs member
    obtain ⟨pathId, present⟩ := List.mem_iff_getElem?.mp member
    by_cases evicted : conn.run.conn.evicts op = some pathId
    · refine .inl ?_
      rw [replaced, evicted]
      exact present
    · exact .inr (List.mem_iff_getElem?.mpr ⟨pathId, moves.slots pathId addrs evicted present⟩)

private theorem packet_evolves (conn : RoutedConn) (pathId : Nat) (pktDcid pktScid : ConnectionId) :
    Evolves (.packet pathId pktDcid pktScid) conn
      (conn.trySetDcidForInitialPath pathId pktDcid pktScid) := by
  unfold trySetDcidForInitialPath
  by_cases got : conn.gotPeerCid = true
  · rw [if_pos got]
    exact .of_same (.refl _) rfl ⟨[], (List.append_nil _).symm, by simp⟩ rfl rfl rfl fun _ => rfl
  · rw [if_neg got]
    rw [Bool.not_eq_true] at got
    refine .of_initial rfl rfl rfl rfl (fun _ => by rw [forgets, got]; rfl) ?_
      fun _ _ impossible => (by cases impossible)
    by_cases learns : (conn.isServer && !conn.didRetry) = true
    · have taken : conn.learned (.packet pathId pktDcid pktScid) = some pktDcid := by
        obtain ⟨server, fresh⟩ := Bool.and_eq_true_iff.mp learns
        rw [Bool.not_eq_true'] at fresh
        rw [learned, got, server, fresh]
        rfl
      rw [taken]
      exact .inr ⟨rfl, if_pos learns⟩
    · exact .inl (if_neg learns)

theorem step_evolves (stepped : conn.step op = some next) : Evolves op conn next := by
  cases op with
  | manage op =>
      have evolves : ∀ run, (∀ cid resetToken retireIfNeeded,
          op ≠ .addScid cid resetToken retireIfNeeded) → conn.run.step op = some run →
          next = { conn with run, events := conn.events ++ conn.cidEvents op } →
          Evolves (.manage op) conn next := by
        rintro run other moved rfl
        exact manage_evolves other moved
      cases op with
      | addScid => cases stepped
      | _ =>
          obtain ⟨run, moved, rfl⟩ := Option.map_eq_some_iff.mp stepped
          exact evolves run (by rintro _ _ _ ⟨⟩) moved rfl
  | packet pathId pktDcid pktScid =>
      cases stepped
      exact packet_evolves conn pathId pktDcid pktScid
  | retry pathId pktScid =>
      obtain ⟨refused, moved⟩ := Option.ite_none_left_eq_some.mp stepped
      cases moved
      rw [Bool.or_eq_true, not_or] at refused
      exact .of_initial rfl rfl rfl rfl (fun _ => rfl) (.inl rfl)
        fun _ server => absurd server refused.1
  | versionNegotiation =>
      obtain ⟨client, moved⟩ := Option.ite_none_left_eq_some.mp stepped
      cases moved
      exact .of_same (.refl _) rfl ⟨[], (List.append_nil _).symm, by simp⟩ rfl rfl rfl
        fun server => absurd server client
  | session resetToken activeConnIdLimit =>
      cases stepped
      exact .of_same (setScidLimit_ids _ _) rfl ⟨[], (List.append_nil _).symm, by simp⟩ rfl rfl rfl
        fun _ => rfl
  | transportParams resetToken activeConnIdLimit =>
      cases stepped
      refine .of_same (setScidLimit_ids _ _) rfl ⟨_, rfl, ?_⟩ rfl rfl rfl fun _ => rfl
      simp
  | scheduleControlFrames num =>
      cases stepped
      exact .of_same (.refl _) rfl ⟨_, rfl, by simp⟩ rfl rfl rfl fun _ => rfl
  | close =>
      cases stepped
      exact .of_same (.refl _) rfl ⟨[], (List.append_nil _).symm, by simp⟩ rfl rfl rfl fun _ => rfl

end RoutedConn

/-! ## New connections -/

namespace Router

variable {Key : Type} {config : RouterConfig Key}

/-- An unknown Initial packet is accepted for its own id, or for the one of a valid token. -/
theorem recvUnknown_accept {router : Router} {hdr : Header}
    {remote : SocketAddr} {now : SystemTime} {dcid odcid : ConnectionId}
    {token : Option AddressToken}
    (admitted : router.recvUnknown config hdr remote now = .accept dcid token odcid) :
    dcid = hdr.dcid ∧ hdr.pktType = .initial ∧ ((token = none ∧ odcid = dcid) ∨
      ∃ bytes held, hdr.token = some bytes ∧ config.tokens.validateAddressToken config.aead bytes
        remote hdr.dcid now = .ok held ∧ token = some held ∧ held.odcid = some odcid) := by
  unfold recvUnknown at admitted
  split_ifs at admitted with _ initial
  split at admitted
  · cases admitted
  · cases admitted
  · rename_i admission
    cases admitted
    refine ⟨rfl, of_decide_eq_true (Bool.and_eq_true_iff.mp initial).1, ?_⟩
    unfold TokenConfig.recvInitial at admission
    split at admission
    · split_ifs at admission
      · cases admission
      · cases admission
        exact .inl ⟨rfl, rfl⟩
    · rename_i bytes carried
      split at admission
      · rename_i decoded valid
        split at admission
        · rename_i original
          cases admission
          exact .inr ⟨bytes, decoded, carried, valid, rfl, original⟩
        · cases admission
      · split at admission <;> cases admission

theorem target_accept {router : Router} {buf : Bytes}
    {tuple : FourTuple} {now : SystemTime} {dcid odcid : ConnectionId} {token : Option AddressToken}
    (targeted : router.target config buf tuple now = .accept dcid token odcid) :
    ∃ hdr len, Header.fromBytes buf config.cidLen = .ok (hdr, len) ∧
      (router.routes.find hdr.dcid buf tuple).1.bind router.conns.get? = none ∧
      router.recvUnknown config hdr tuple.remoteAddr now = .accept dcid token odcid := by
  unfold target at targeted
  split at targeted
  · cases targeted
  · rename_i hdr len read
    refine ⟨hdr, len, read, ?_⟩
    split at targeted
    · rename_i idx reset found
      split_ifs at targeted with absent
      rw [found]
      exact ⟨Option.not_isSome_iff_eq_none.mp absent, targeted⟩
    · rename_i found
      rw [found]
      exact ⟨rfl, targeted⟩

/-! ## New source ids -/

/-- What the endpoint does when it adds source ids to a connection. -/
structure Adds (idx : Nat) (generated : List ConnectionId) (conn next : RoutedConn)
    (routes after : ConnectionRoutes) : Prop where
  only : ∃ cids, next = conn.withCids cids
  zeroScid : next.cids.zeroLengthScid = conn.cids.zeroLengthScid
  zeroDcid : next.cids.zeroLengthDcid = conn.cids.zeroLengthDcid
  tokens : next.cids.resetTokens = conn.cids.resetTokens
  scids : ∀ cid ∈ conn.cids.scidValues, cid ∈ next.cids.scidValues
  old : ∀ cid ∈ next.cids.scidValues, cid ∈ conn.cids.scidValues ∨ cid ∈ generated
  addrTable : after.addrTable = routes.addrTable
  tokenTable : after.tokenTable = routes.tokenTable
  routed : ∀ cid, after.cidTable cid = routes.cidTable cid ∨
    (after.cidTable cid = some idx ∧ cid ∈ generated ∧ cid ∈ next.cids.scidValues ∧
      next.cids.zeroLengthScid = false)

/-- The generated ids are added to the connection and to the routes. -/
theorem connAddScids_adds (idx : Nat) (generated : List (ConnectionId × ResetToken))
    (conn : RoutedConn) (routes : ConnectionRoutes) :
    Adds idx (generated.map (·.1)) conn (connAddScids idx generated conn routes).1 routes
      (connAddScids idx generated conn routes).2 := by
  induction generated generalizing conn routes with
  | nil =>
      exact ⟨⟨conn.cids, rfl⟩, rfl, rfl, rfl, fun _ member => member, fun _ member => .inl member,
        rfl, rfl, fun _ => .inl rfl⟩
  | cons first rest ih =>
      obtain ⟨scid, resetToken⟩ := first
      unfold connAddScids
      have ids := addScid_ids conn.cids scid (some resetToken) true none true
      rcases added : conn.cids.addScid scid (some resetToken) true none true with ⟨outcome, cids⟩
      rw [added] at ids
      cases outcome with
      | error error =>
          obtain ⟨same, _⟩ | ⟨scids, tokens, zero, nonzero, zeroDcid⟩ := ids
          · exact ⟨⟨cids, rfl⟩, same.zeroScid, same.zeroDcid, same.tokens,
              fun _ member => same.scids.symm ▸ member, fun _ member => .inl (same.scids ▸ member),
              rfl, rfl, fun _ => .inl rfl⟩
          · refine ⟨⟨cids, rfl⟩, zero.trans nonzero.symm, zeroDcid, tokens, ?_, ?_, rfl, rfl,
              fun _ => .inl rfl⟩
            · intro cid member
              exact scids.symm ▸ List.mem_append_left _ member
            · intro cid member
              refine (List.mem_append.mp (scids ▸ member)).imp_right fun own => ?_
              rw [List.mem_singleton.mp own]
              exact List.mem_cons_self
      | ok seq =>
          obtain ⟨_, failed⟩ | ⟨scids, tokens, zero, nonzero, zeroDcid⟩ := ids
          · cases failed
          · have later := ih (conn.withCids cids) (routes.insertWithCid scid idx)
            have known : scid ∈ (conn.withCids cids).cids.scidValues :=
              scids.symm ▸ List.mem_append_right _ List.mem_cons_self
            obtain ⟨final, same⟩ := later.only
            refine ⟨⟨final, same⟩, later.zeroScid.trans (zero.trans nonzero.symm),
              later.zeroDcid.trans zeroDcid, later.tokens.trans tokens, ?_, ?_, later.addrTable,
              later.tokenTable, ?_⟩
            · intro cid member
              exact later.scids cid (scids.symm ▸ List.mem_append_left _ member)
            · intro cid member
              rcases later.old cid member with before | generated
              · refine (List.mem_append.mp (scids ▸ before)).imp_right fun own => ?_
                rw [List.mem_singleton.mp own]
                exact List.mem_cons_self
              · exact .inr (List.mem_cons_of_mem _ generated)
            · intro cid
              rcases later.routed cid with kept | ⟨found, generated, remembered, nonzero⟩
              · rw [ConnectionRoutes.insertWithCid_cidTable] at kept
                split_ifs at kept with own
                · refine .inr ⟨kept, own ▸ List.mem_cons_self, ?_, later.zeroScid.trans zero⟩
                  exact own ▸ later.scids scid known
                · exact .inl kept
              · exact .inr ⟨found, List.mem_cons_of_mem _ generated, remembered, nonzero⟩

theorem step_poll {router next : Router} {idx : Nat} {generated : List (ConnectionId × ResetToken)}
    (stepped : router.step config (.poll idx generated) = some next) :
    ∃ conn event rest after routes, router.conns.get? idx = some conn ∧ conn.events = event :: rest ∧
      processEvent idx generated { conn with events := rest } router.routes event =
        some (after, routes) ∧
      next = { router with conns := router.conns.insert idx after, routes } := by
  obtain ⟨conn, found, polled⟩ := Option.bind_eq_some_iff.mp stepped
  obtain ⟨_, polled⟩ := Option.ite_none_left_eq_some.mp polled
  cases events : conn.events with
  | nil =>
      rw [events] at polled
      cases polled
  | cons event rest =>
      rw [events] at polled
      obtain ⟨⟨after, routes⟩, processed, same⟩ := Option.map_eq_some_iff.mp polled
      exact ⟨conn, event, rest, after, routes, found, events, processed, same.symm⟩

end Router

end Tquic
