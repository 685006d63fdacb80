import Tquic.Lib.Transition
import Tquic.RouteProperties
import Tquic.TokenRoundTrip

/-! Which connections the routes of an endpoint lead to, and when the routes to a removed
connection are gone. -/

set_option autoImplicit false

namespace Tquic

open Lib Connection ConnectionIdMgr

namespace RoutedConn

def advertised (conn : RoutedConn) : Option ResetToken :=
  match conn.events.head? with
  | some (.dcidAdvertised token) => some token
  | some (.resetTokenAdvertised token) => some token
  | _ => none

end RoutedConn

namespace Router

variable {Key : Type} {router next : Router}

/-- Every route leads to a connection of the endpoint. -/
structure Sound (router : Router) : Prop where
  cids : ∀ cid idx, router.routes.cidTable cid = some idx → (router.conns.get? idx).isSome
  addrs : ∀ tuple idx, router.routes.addrTable tuple = some idx → (router.conns.get? idx).isSome
  tokens : ∀ token idx, router.routes.tokenTable token = some idx → (router.conns.get? idx).isSome

/-- No connection loses sight of a route to it: the first packet of a server connection that
was created without a token is for the id that it was created for, no destination id is dropped
and no path replaced that is routed, only the tokens of stored destination ids are routed, and a
connection is not removed before the routes that it does not own are. -/
def Tidy (router : Router) : Op → Prop
  | .conn idx op => ∀ conn ∈ router.conns.get? idx,
      (∀ cid ∈ conn.learned op, (router.attempts idx).map (·.1) = some cid) ∧
      (∀ token ∈ conn.cids.resetTokens, conn.forgets token op = true →
        router.routes.tokenTable token ≠ some idx) ∧
      ∀ addrs ∈ conn.replaced op, router.routes.addrTable ⟨addrs.1, addrs.2⟩ ≠ some idx
  | .poll idx _ => ∀ conn ∈ router.conns.get? idx, ∀ token ∈ conn.advertised,
      conn.cids.zeroLengthDcid = false ∧ token ∈ conn.cids.resetTokens
  | .cleanUp idx => ∀ conn ∈ router.conns.get? idx,
      ∀ cid ∈ conn.unreported ++ ((router.attempts idx).map (·.1)).toList,
        router.routes.cidTable cid = some idx → conn.Owns cid
  | _ => True

-- The search over all reset tokens would never end.
local instance (tokens : List ResetToken) (p : ResetToken → Prop) [DecidablePred p] :
    Decidable (∀ token ∈ tokens, p token) :=
  List.decidableBAll p tokens

local instance (token : Option ResetToken) (p : ResetToken → Prop) [DecidablePred p] :
    Decidable (∀ found ∈ token, p found) :=
  token.decidableForallMem

instance (router : Router) : (op : Op) → Decidable (Tidy router op)
  | .conn _ _ => inferInstanceAs (Decidable (∀ conn ∈ _, _))
  | .poll _ _ => inferInstanceAs (Decidable (∀ conn ∈ _, _))
  | .cleanUp _ => inferInstanceAs (Decidable (∀ conn ∈ _, _))
  | .connect .. => .isTrue trivial
  | .recv .. => .isTrue trivial
  | .close _ => .isTrue trivial

/-! ## What justifies a route -/

/-- Every entry of a table leads to a connection that has reason to know of it. -/
def Justified {κ : Type} (conns : OrdMap Nat RoutedConn) (table : κ → Option Nat)
    (reason : Nat → RoutedConn → κ → Prop) : Prop :=
  ∀ key idx, table key = some idx → ∃ conn, conns.get? idx = some conn ∧ reason idx conn key

/-- The connection owns the id, has yet to report that it is retired, or was created for it and
is still to learn of it. -/
def KnowsCid (attempts : Nat → Option (ConnectionId × SocketAddr)) (idx : Nat) (conn : RoutedConn)
    (cid : ConnectionId) : Prop :=
  conn.Owns cid ∨ .scidRetired cid ∈ conn.events ∨
    (conn.isServer = true ∧ conn.odcid = none ∧ (attempts idx).map (·.1) = some cid)

def KnowsAddr (_ : Nat) (conn : RoutedConn) (tuple : FourTuple) : Prop :=
  conn.cids.zeroLengthScid = true ∧ (tuple.localAddr, tuple.remoteAddr) ∈ conn.run.conn.paths.slots

def KnowsToken (_ : Nat) (conn : RoutedConn) (token : ResetToken) : Prop :=
  conn.cids.zeroLengthDcid = false ∧ token ∈ conn.cids.resetTokens

structure Consistent (router : Router) : Prop where
  cids : Justified router.conns router.routes.cidTable (KnowsCid router.attempts)
  addrs : Justified router.conns router.routes.addrTable KnowsAddr
  tokens : Justified router.conns router.routes.tokenTable KnowsToken
  below : ∀ idx conn, router.conns.get? idx = some conn → idx < router.nextIndex
  unlearned : ∀ idx conn, router.conns.get? idx = some conn → conn.Unlearned

theorem Consistent.sound (consistent : Consistent router) : Sound router := by
  have present : ∀ {κ : Type} {table : κ → Option Nat} {reason : Nat → RoutedConn → κ → Prop},
      Justified router.conns table reason → ∀ key idx, table key = some idx →
        (router.conns.get? idx).isSome := by
    intro κ table reason justified key idx routed
    obtain ⟨conn, found, _⟩ := justified key idx routed
    rw [found]
    rfl
  exact ⟨present consistent.cids, present consistent.addrs, present consistent.tokens⟩

section Tables

variable {κ : Type} {conns : OrdMap Nat RoutedConn} {table after : κ → Option Nat}
  {reason later : Nat → RoutedConn → κ → Prop} {idx : Nat} {conn : RoutedConn}

/-- A connection is put in its place; the new routes are to it. -/
theorem Justified.insert (justified : Justified conns table reason)
    (kept : ∀ key old, conns.get? idx = some old → table key = some idx →
      after key = some idx → reason idx old key → later idx conn key)
    (others : ∀ key other conn, other ≠ idx → reason other conn key → later other conn key)
    (added : ∀ key, after key = table key ∨ after key = none ∨
      (after key = some idx ∧ later idx conn key)) :
    Justified (conns.insert idx conn) after later := by
  intro key found routed
  rcases added key with same | gone | ⟨own, knows⟩
  · obtain ⟨old, present, knows⟩ := justified key found (same ▸ routed)
    by_cases self : found = idx
    · subst self
      exact ⟨conn, OrdMap.get?_insert_self .., kept key old present (same ▸ routed) routed knows⟩
    · refine ⟨old, ?_, others key found old self knows⟩
      rw [OrdMap.get?_insert, if_neg self]
      exact present
  · rw [gone] at routed
    cases routed
  · rw [own] at routed
    cases routed
    exact ⟨conn, OrdMap.get?_insert_self .., knows⟩

theorem Justified.erase (justified : Justified conns table reason)
    (removed : ∀ key found, after key = some found → table key = some found ∧
      ∀ conn, conns.get? idx = some conn → found = idx → ¬ reason idx conn key) :
    Justified (conns.erase idx) after reason := by
  intro key found routed
  obtain ⟨before, gone⟩ := removed key found routed
  obtain ⟨conn, present, knows⟩ := justified key found before
  have apart : found ≠ idx := by
    intro self
    subst self
    exact gone conn present rfl knows
  refine ⟨conn, ?_, knows⟩
  rw [OrdMap.get?_erase, if_neg apart]
  exact present

end Tables

/-! ## Steps -/

variable {attempts : Nat → Option (ConnectionId × SocketAddr)} {routes : ConnectionRoutes}

theorem Consistent.create (consistent : Consistent router) {conn : RoutedConn}
    (unlearned : conn.Unlearned)
    (same : ∀ idx, idx ≠ router.nextIndex → attempts idx = router.attempts idx)
    (cids : ∀ cid, routes.cidTable cid = router.routes.cidTable cid ∨
      (routes.cidTable cid = some router.nextIndex ∧
        KnowsCid attempts router.nextIndex conn cid))
    (addrs : ∀ tuple, routes.addrTable tuple = router.routes.addrTable tuple ∨
      (routes.addrTable tuple = some router.nextIndex ∧
        KnowsAddr router.nextIndex conn tuple))
    (tokens : routes.tokenTable = router.routes.tokenTable) :
    Consistent { router.insertConn conn with routes, attempts } := by
  have fresh : ∀ old, router.conns.get? router.nextIndex ≠ some old := fun old present =>
    Nat.lt_irrefl _ (consistent.below _ old present)
  refine ⟨?_, ?_, ?_, ?_, ?_⟩
  · refine consistent.cids.insert (fun _ old present => absurd present (fresh old)) ?_
      fun cid => (cids cid).imp_right .inr
    intro cid other old apart knows
    unfold KnowsCid
    dsimp only
    rw [same other apart]
    exact knows
  · exact consistent.addrs.insert (fun _ old present => absurd present (fresh old))
      (fun _ _ _ _ knows => knows) fun tuple => (addrs tuple).imp_right .inr
  · exact consistent.tokens.insert (fun _ old present => absurd present (fresh old))
      (fun _ _ _ _ knows => knows) fun token => .inl (congrFun tokens token)
  · intro idx old present
    replace present : (router.conns.insert router.nextIndex conn).get? idx = some old := present
    rw [OrdMap.get?_insert] at present
    split_ifs at present with own
    · exact own ▸ Nat.lt_succ_self _
    · exact Nat.lt_succ_of_lt (consistent.below idx old present)
  · intro idx old present
    replace present : (router.conns.insert router.nextIndex conn).get? idx = some old := present
    rw [OrdMap.get?_insert] at present
    split_ifs at present with own
    · cases present
      exact unlearned
    · exact consistent.unlearned idx old present

theorem Consistent.replace (consistent : Consistent router) {idx : Nat} {conn after : RoutedConn}
    (found : router.conns.get? idx = some conn) (unlearned : after.Unlearned)
    (keepsCids : ∀ cid, router.routes.cidTable cid = some idx → routes.cidTable cid = some idx →
      KnowsCid router.attempts idx conn cid → KnowsCid router.attempts idx after cid)
    (keepsAddrs : ∀ tuple, router.routes.addrTable tuple = some idx →
      KnowsAddr idx conn tuple → KnowsAddr idx after tuple)
    (keepsTokens : ∀ token, router.routes.tokenTable token = some idx →
      KnowsToken idx conn token → KnowsToken idx after token)
    (cids : ∀ cid, routes.cidTable cid = router.routes.cidTable cid ∨ routes.cidTable cid = none ∨
      (routes.cidTable cid = some idx ∧ KnowsCid router.attempts idx after cid))
    (addrs : routes.addrTable = router.routes.addrTable)
    (tokens : ∀ token, routes.tokenTable token = router.routes.tokenTable token ∨
      routes.tokenTable token = none ∨
      (routes.tokenTable token = some idx ∧ KnowsToken idx after token)) :
    Consistent { router with conns := router.conns.insert idx after, routes } := by
  refine ⟨?_, ?_, ?_, ?_, ?_⟩
  · refine consistent.cids.insert (fun cid old present before routed knows => ?_)
      (fun _ _ _ _ knows => knows) cids
    cases found.symm.trans present
    exact keepsCids cid before routed knows
  · refine consistent.addrs.insert (fun tuple old present before _ knows => ?_)
      (fun _ _ _ _ knows => knows) fun tuple => .inl (congrFun addrs tuple)
    cases found.symm.trans present
    exact keepsAddrs tuple before knows
  · refine consistent.tokens.insert (fun token old present before _ knows => ?_)
      (fun _ _ _ _ knows => knows) tokens
    cases found.symm.trans present
    exact keepsTokens token before knows
  · intro other old present
    dsimp only at present
    rw [OrdMap.get?_insert] at present
    split_ifs at present with own
    · exact own ▸ consistent.below idx conn found
    · exact consistent.below other old present
  · intro other old present
    dsimp only at present
    rw [OrdMap.get?_insert] at present
    split_ifs at present with own
    · cases present
      exact unlearned
    · exact consistent.unlearned other old present

private theorem evolves_knowsCid {op : RoutedConn.Op} {before after : RoutedConn} {idx : Nat}
    {cid : ConnectionId}
    (evolves : RoutedConn.Evolves op before after) (unlearned : before.Unlearned)
    (learns : ∀ cid ∈ before.learned op, (attempts idx).map (·.1) = some cid)
    (knows : KnowsCid attempts idx before cid) : KnowsCid attempts idx after cid := by
  rcases knows with (⟨nonzero, stored⟩ | ⟨server, original⟩) | pending | ⟨server, unknown, created⟩
  · rcases evolves.scids cid stored with kept | retired
    · exact .inl (.inl ⟨evolves.zeroScid.trans nonzero, kept⟩)
    · exact .inr (.inl retired)
  · rcases evolves.odcid with same | ⟨learned, _⟩
    · exact .inl (.inr ⟨evolves.isServer.trans server, same.trans original⟩)
    · -- A server that learns the original id did not know one.
      rw [RoutedConn.learned_unknown unlearned learned] at original
      cases original
  · exact .inr (.inl (evolves.events _ pending))
  · rcases evolves.odcid with same | ⟨learned, known⟩
    · exact .inr (.inr ⟨evolves.isServer.trans server, same.trans unknown, created⟩)
    · obtain ⟨found, taken⟩ := Option.isSome_iff_exists.mp learned
      cases (learns found taken).symm.trans created
      exact .inl (.inr ⟨evolves.isServer.trans server, known.trans taken⟩)

private theorem conn_consistent {idx : Nat} {op : RoutedConn.Op} {conn after : RoutedConn}
    (consistent : Consistent router) (tidy : Tidy router (.conn idx op))
    (found : router.conns.get? idx = some conn) (stepped : conn.step op = some after) :
    Consistent { router with conns := router.conns.insert idx after } := by
  obtain ⟨learns, remembers, stays⟩ := tidy conn found
  have evolves := RoutedConn.step_evolves stepped
  have unlearned := consistent.unlearned idx conn found
  refine consistent.replace found (evolves.unlearned unlearned) ?_ ?_ ?_ (fun _ => .inl rfl) rfl
    fun _ => .inl rfl
  · intro cid _ _ knows
    exact evolves_knowsCid evolves unlearned learns knows
  · rintro tuple routed ⟨zero, stored⟩
    refine ⟨evolves.zeroScid.trans zero, ?_⟩
    exact (evolves.slots _ stored).resolve_left fun replaced => stays _ replaced routed
  · rintro token routed ⟨nonzero, stored⟩
    exact (evolves.tokens nonzero token stored).resolve_left fun forgotten =>
      remembers token stored forgotten routed

private theorem connect_consistent (consistent : Consistent router) (config : CidConfig)
    (scid dcid : ConnectionId) (tuple : FourTuple) (started : Bool) :
    Consistent (router.connect config scid dcid tuple started) := by
  have unlearned : (RoutedConn.newClient config scid dcid tuple).Unlearned := by
    intro server
    cases server
  have slots : (RoutedConn.newClient config scid dcid tuple).run.conn.paths.slots =
      [(tuple.localAddr, tuple.remoteAddr)] := CidPaths.map_modify _ _ fun _ => rfl
  unfold connect
  dsimp only
  split_ifs with idle named
  · exact consistent.create unlearned (fun _ _ => rfl) (fun _ => .inl rfl) (fun _ => .inl rfl) rfl
  · refine consistent.create unlearned (fun _ _ => rfl) (fun cid => ?_) (fun _ => .inl rfl) rfl
    rw [ConnectionRoutes.insertWithCid_cidTable]
    split_ifs with own
    · refine .inr ⟨rfl, .inl (.inl ⟨?_, ?_⟩)⟩
      · rwa [Bool.not_eq_true'] at named
      · exact own ▸ List.mem_cons_self
    · exact .inl rfl
  · refine consistent.create unlearned (fun _ _ => rfl) (fun _ => .inl rfl) (fun other => ?_) rfl
    rw [ConnectionRoutes.insertWithAddr_addrTable]
    split_ifs with own
    · refine .inr ⟨rfl, ?_, ?_⟩
      · rw [Bool.not_eq_true'] at named
        exact Bool.not_eq_false _ ▸ named
      · rw [own, slots]
        exact List.mem_cons_self
    · exact .inl rfl

private theorem accept_consistent (consistent : Consistent router) (config : RouterConfig Key)
    {scid : ConnectionId} (length : scid.bytes.length = config.cidLen)
    (scidToken : Option ResetToken) (tuple : FourTuple) {dcid odcid : ConnectionId}
    {token : Option AddressToken} (original : (token = none ∧ odcid = dcid) ∨
      ∃ held, token = some held ∧ held.odcid = some odcid) :
    Consistent (router.accept config scid scidToken tuple dcid token odcid) := by
  have unlearned : (RoutedConn.newServer config.cids scid scidToken tuple token).Unlearned := by
    intro _ _ unasked
    rcases original with ⟨rfl, _⟩ | ⟨held, rfl, _⟩
    · rfl
    · cases unasked
  have elsewhere : ∀ idx, idx ≠ router.nextIndex →
      Function.update router.attempts router.nextIndex (some (dcid, tuple.remoteAddr)) idx =
        router.attempts idx := fun idx apart => Function.update_of_ne apart _ _
  have zero : (RoutedConn.newServer config.cids scid scidToken tuple token).cids.zeroLengthScid =
      true ↔ scid.bytes.length = 0 := List.isEmpty_iff_length_eq_zero
  unfold accept
  by_cases named : config.cidLen > 0
  · refine consistent.create unlearned elsewhere (fun cid => ?_) (fun tuple => ?_) ?_
    · rw [if_pos named, ConnectionRoutes.insertWithCid_cidTable,
        ConnectionRoutes.insertWithCid_cidTable]
      split_ifs with odcid scid
      · refine .inr ⟨rfl, ?_⟩
        rcases original with ⟨rfl, rfl⟩ | ⟨held, rfl, known⟩
        · refine .inr (.inr ⟨rfl, rfl, ?_⟩)
          rw [Function.update_self, odcid]
          rfl
        · exact .inl (.inr ⟨rfl, known.trans (congrArg some odcid.symm)⟩)
      · refine .inr ⟨rfl, .inl (.inl ⟨?_, scid ▸ List.mem_cons_self⟩)⟩
        rw [Bool.eq_false_iff, Ne, zero, length]
        exact Nat.ne_of_gt named
      · exact .inl rfl
    · rw [if_pos named]
      exact .inl rfl
    · rw [if_pos named]
      rfl
  · refine consistent.create unlearned elsewhere (fun cid => ?_) (fun other => ?_) ?_
    · rw [if_neg named]
      exact .inl rfl
    · rw [if_neg named, ConnectionRoutes.insertWithAddr_addrTable]
      split_ifs with own
      · refine .inr ⟨rfl, zero.mpr ?_, own ▸ List.mem_cons_self⟩
        exact length.trans (Nat.eq_zero_of_not_pos named)
      · exact .inl rfl
    · rw [if_neg named]
      rfl

theorem knowsCid_poll {idx : Nat}
    {conn : RoutedConn} {cid : ConnectionId} {event : Event} {rest : List Event}
    (events : conn.events = event :: rest) (other : event ≠ .scidRetired cid)
    (knows : KnowsCid attempts idx conn cid) :
    KnowsCid attempts idx { conn with events := rest } cid := by
  rcases knows with owns | pending | created
  · exact .inl owns
  · rw [events] at pending
    exact .inr (.inl ((List.mem_cons.mp pending).resolve_left other.symm))
  · exact .inr (.inr created)

private theorem poll_consistent {idx : Nat} {generated : List (ConnectionId × ResetToken)}
    {conn after : RoutedConn} {event : Event} {rest : List Event}
    (consistent : Consistent router) (tidy : Tidy router (.poll idx generated))
    (found : router.conns.get? idx = some conn) (events : conn.events = event :: rest)
    (processed : processEvent idx generated { conn with events := rest } router.routes event =
      some (after, routes)) :
    Consistent { router with conns := router.conns.insert idx after, routes } := by
  have unlearned := consistent.unlearned idx conn found
  have removed : ∀ {table : Option Nat} {same : Prop} [Decidable same],
      (if same then none else table) = table ∨ (if same then none else table) = none := by
    intro table same _
    split_ifs
    · exact .inr rfl
    · exact .inl rfl
  have routesToken : ∀ token, conn.cids.zeroLengthDcid = false ∧ token ∈ conn.cids.resetTokens →
      (∀ cid, event ≠ .scidRetired cid) →
      Consistent { router with
        conns := router.conns.insert idx { conn with events := rest }
        routes := router.routes.insertWithToken token idx } := by
    intro token stored other
    refine consistent.replace found unlearned
      (fun cid _ _ knows => knowsCid_poll events (other cid) knows) (fun _ _ knows => knows)
      (fun _ _ knows => knows) (fun _ => .inl rfl) rfl fun token => ?_
    rw [ConnectionRoutes.insertWithToken_tokenTable]
    split_ifs with own
    · exact .inr (.inr ⟨rfl, own ▸ stored⟩)
    · exact .inl rfl
  have known : ∀ token, conn.advertised = some token →
      conn.cids.zeroLengthDcid = false ∧ token ∈ conn.cids.resetTokens := tidy conn found
  unfold RoutedConn.advertised at known
  rw [events] at known
  cases event with
  | scidToAdvertise num =>
      obtain ⟨_, added⟩ := Option.ite_none_right_eq_some.mp processed
      have adds := connAddScids_adds idx generated { conn with events := rest } router.routes
      rw [Option.some.inj added] at adds
      obtain ⟨cids, rfl⟩ := adds.only
      refine consistent.replace found unlearned ?_ ?_ ?_ ?_ adds.addrTable
        fun token => .inl (congrFun adds.tokenTable token)
      · intro cid _ _ knows
        refine (knowsCid_poll events (by rintro ⟨⟩) knows).imp_left ?_
        rintro (⟨nonzero, stored⟩ | original)
        · exact .inl ⟨adds.zeroScid.trans nonzero, adds.scids cid stored⟩
        · exact .inr original
      · rintro tuple _ ⟨zero, stored⟩
        exact ⟨adds.zeroScid.trans zero, stored⟩
      · rintro token _ ⟨nonzero, stored⟩
        exact ⟨adds.zeroDcid.trans nonzero, adds.tokens.symm ▸ stored⟩
      · intro cid
        rcases adds.routed cid with same | ⟨routed, _, stored, nonzero⟩
        · exact .inl same
        · exact .inr (.inr ⟨routed, .inl (.inl ⟨nonzero, stored⟩)⟩)
  | scidRetired cid =>
      cases processed
      refine consistent.replace found unlearned ?_ (fun _ _ knows => knows)
        (fun _ _ knows => knows) (fun other => ?_) rfl fun _ => .inl rfl
      · intro other _ routed knows
        rw [ConnectionRoutes.removeWithCid_cidTable] at routed
        split_ifs at routed with own
        exact knowsCid_poll events (by rintro ⟨⟩; exact own rfl) knows
      · rw [ConnectionRoutes.removeWithCid_cidTable]
        exact removed.imp_right .inl
  | dcidAdvertised token =>
      cases processed
      exact routesToken token (known token rfl) (by rintro _ ⟨⟩)
  | dcidRetired token =>
      cases processed
      refine consistent.replace found unlearned
        (fun cid _ _ knows => knowsCid_poll events (by rintro ⟨⟩) knows) (fun _ _ knows => knows)
        (fun _ _ knows => knows) (fun _ => .inl rfl) rfl fun token => ?_
      rw [ConnectionRoutes.removeWithToken_tokenTable]
      exact removed.imp_right .inl
  | resetTokenAdvertised token =>
      cases processed
      exact routesToken token (known token rfl) (by rintro _ ⟨⟩)

private theorem cleanUp_consistent {idx : Nat} {conn : RoutedConn} (consistent : Consistent router)
    (tidy : Tidy router (.cleanUp idx)) (found : router.conns.get? idx = some conn) :
    Consistent { router with
      conns := router.conns.erase idx, routes := router.routes.remove conn } := by
  refine ⟨?_, ?_, ?_, ?_, ?_⟩
  · refine consistent.cids.erase fun cid other routed => ?_
    dsimp only at routed
    rw [ConnectionRoutes.remove_cidTable] at routed
    split_ifs at routed with unowned
    refine ⟨routed, ?_⟩
    rintro old present rfl knows
    cases found.symm.trans present
    rcases knows with owns | pending | ⟨_, _, created⟩
    · exact unowned owns
    · refine unowned (tidy conn found cid (List.mem_append_left _ ?_) routed)
      exact RoutedConn.mem_unreported.mpr pending
    · refine unowned (tidy conn found cid (List.mem_append_right _ ?_) routed)
      exact Option.mem_toList.mpr created
  · refine consistent.addrs.erase fun tuple other routed => ?_
    dsimp only at routed
    rw [ConnectionRoutes.remove_addrTable] at routed
    split_ifs at routed with unknown
    refine ⟨routed, ?_⟩
    rintro old present _ knows
    cases found.symm.trans present
    exact unknown knows
  · refine consistent.tokens.erase fun token other routed => ?_
    dsimp only at routed
    rw [ConnectionRoutes.remove_tokenTable] at routed
    split_ifs at routed with unknown
    refine ⟨routed, ?_⟩
    rintro old present _ knows
    cases found.symm.trans present
    exact unknown knows
  · intro other old present
    dsimp only at present
    rw [OrdMap.get?_erase] at present
    split_ifs at present
    exact consistent.below other old present
  · intro other old present
    dsimp only at present
    rw [OrdMap.get?_erase] at present
    split_ifs at present
    exact consistent.unlearned other old present

theorem consistent_of_empty (conns : router.conns = ∅) (routes : router.routes = .new) :
    Consistent router := by
  have missing : ∀ idx conn, router.conns.get? idx ≠ some conn := by
    intro idx conn present
    rw [conns, OrdMap.get?_empty] at present
    cases present
  refine ⟨?_, ?_, ?_, fun idx conn present => absurd present (missing idx conn),
    fun idx conn present => absurd present (missing idx conn)⟩ <;>
  · intro key idx routed
    rw [routes] at routed
    cases routed

theorem step_consistent {config : RouterConfig Key} {op : Op} (consistent : Consistent router)
    (tidy : Tidy router op) (stepped : router.step config op = some next) : Consistent next := by
  cases op with
  | connect cids scid dcid tuple started =>
      obtain ⟨_, connected⟩ := Option.ite_none_left_eq_some.mp stepped
      cases connected
      exact connect_consistent consistent cids scid dcid tuple started
  | recv buf tuple now scid scidToken created =>
      obtain ⟨length, received⟩ := Option.ite_none_left_eq_some.mp stepped
      cases received
      unfold recv
      cases targeted : router.target config buf tuple now with
      | accept dcid token odcid =>
          obtain ⟨_, _, _, _, admitted⟩ := target_accept targeted
          dsimp only
          split_ifs
          · obtain ⟨_, _, original⟩ := recvUnknown_accept admitted
            refine accept_consistent consistent config (not_not.mp length) scidToken tuple
              (original.imp_right ?_)
            rintro ⟨_, held, _, _, carried⟩
            exact ⟨held, carried⟩
          · exact consistent
      | _ => exact consistent
  | conn idx op =>
      obtain ⟨conn, found, moved⟩ := Option.bind_eq_some_iff.mp stepped
      obtain ⟨after, evolved, rfl⟩ := Option.map_eq_some_iff.mp moved
      exact conn_consistent consistent tidy found evolved
  | poll idx generated =>
      obtain ⟨conn, event, rest, after, routes, found, events, processed, rfl⟩ := step_poll stepped
      exact poll_consistent consistent tidy found events processed
  | cleanUp idx =>
      obtain ⟨conn, found, removed⟩ := Option.bind_eq_some_iff.mp stepped
      obtain ⟨_, removed⟩ := Option.ite_none_right_eq_some.mp removed
      cases removed
      exact cleanUp_consistent consistent tidy found
  | close force =>
      cases force with
      | true =>
          cases stepped
          exact consistent_of_empty rfl rfl
      | false =>
          cases stepped
          exact ⟨consistent.cids, consistent.addrs, consistent.tokens, consistent.below,
            consistent.unlearned⟩

/-- As long as no connection loses sight of a route to it, every route leads to a connection of
the endpoint. -/
theorem routes_sound (config : RouterConfig Key) (router : Router)
    (run : Run (step config) Tidy .new router) : Sound router :=
  Consistent.sound (run.invariant
    (fun _ _ _ consistent tidy stepped => step_consistent consistent tidy stepped)
    (consistent_of_empty rfl rfl))

/-- A client whose source ids have one byte. -/
def clientConfig : RouterConfig UInt8 where
  isServer := false
  cidLen := 1
  maxConcurrentConns := 10
  cids := .default false
  aead := checksumAead
  tokens := retryingConfig

def serverTuple : FourTuple := ⟨.localhost 1, .localhost 443⟩

def clientHears : List Op :=
  [.connect (.default false) (.new [1]) (.new [2]) serverTuple true,
    .conn 0 (.packet 0 (.new [1]) (.new [3]))]

/-- The server announces its reset token among its transport parameters, and the client routes
it; the connection does not remember it when it is removed. -/
theorem reset_token_route_left :
    ¬ ∀ router : Router, Run (step clientConfig) anyStep .new router → Sound router := by
  intro always
  have executed : (exec (step clientConfig) .new
      (clientHears ++ [.conn 0 (.transportParams (some 5) 2), .poll 0 [], .conn 0 .close,
        .cleanUp 0])).map (fun router => (router.routes.tokenTable 5, router.conns.isEmpty)) =
      some (some 0, true) := by
    decide +kernel
  obtain ⟨router, reached, observed⟩ := Option.map_eq_some_iff.mp executed
  obtain ⟨routed, empty⟩ := Prod.mk.inj observed
  have left := (always router (Run.of_exec reached)).tokens 5 0 routed
  obtain ⟨conn, present⟩ := Option.isSome_iff_exists.mp left
  exact OrdMap.isEmpty_iff.mp empty _ (OrdMap.get?_eq_some_iff.mp present)

/-- The server announces a reset token together with an id; its route goes with the
connection. -/
theorem advertised_token_unrouted :
    ∃ router : Router, router.nextIndex = 1 ∧ router.conns.isEmpty = true ∧ Sound router := by
  have executed : (exec (checked (fun router op => decide (Tidy router op)) (step clientConfig)) .new
      (clientHears ++ [.conn 0 (.manage (.newConnectionId 1 0 (.new [4]) 5)), .poll 0 [],
        .conn 0 .close, .cleanUp 0])).map
        (fun router => (router.nextIndex, router.conns.isEmpty)) = some (1, true) := by
    decide +kernel
  obtain ⟨router, reached, observed⟩ := Option.map_eq_some_iff.mp executed
  obtain ⟨created, empty⟩ := Prod.mk.inj observed
  exact ⟨router, created, empty, routes_sound clientConfig router
    (Run.of_checked (fun _ _ => of_decide_eq_true) (Run.of_exec reached))⟩

end Router

end Tquic
