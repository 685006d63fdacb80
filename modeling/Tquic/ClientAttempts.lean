import Tquic.Lib.Transition
import Tquic.RouteProperties
import Tquic.TokenRoundTrip

/-! Initial packets of one client attempt at a server endpoint, and the connection that was
created for the first of them. -/

set_option autoImplicit false

namespace Tquic

open Lib Connection ConnectionIdMgr

namespace Router

variable {Key : Type} {config : RouterConfig Key} {router next : Router}

/-- While a connection is there, further Initial packets for the id and from the address that it
was created for are delivered to it, and create no other connection. -/
def Single (config : RouterConfig Key) (router : Router) : Prop :=
  ∀ idx dcid remote, router.attempts idx = some (dcid, remote) → (router.conns.get? idx).isSome →
    ∀ buf hdr len tuple now, Header.fromBytes buf config.cidLen = .ok (hdr, len) →
      hdr.pktType = .initial → hdr.dcid = dcid → tuple.remoteAddr = remote →
      router.target config buf tuple now = .deliver idx false ∧
        ∀ scid scidToken created, router.recv config buf tuple now scid scidToken created = router

/-- Generated ids differ from those that are routed and from that of the packet. -/
def Fresh (config : RouterConfig Key) (router : Router) : Op → Prop
  | .recv buf _ _ scid _ _ => router.routes.cidTable scid = none ∧
      ∀ read ∈ (Header.fromBytes buf config.cidLen).toOption, read.1.dcid ≠ scid
  | .poll _ generated => ∀ pair ∈ generated, router.routes.cidTable pair.1 = none
  | _ => True

instance (config : RouterConfig Key) (router : Router) :
    (op : Op) → Decidable (Fresh config router op)
  | .recv .. => inferInstanceAs (Decidable (_ ∧ _))
  | .poll .. => inferInstanceAs (Decidable (∀ pair ∈ _, _))
  | .connect .. => .isTrue trivial
  | .conn .. => .isTrue trivial
  | .cleanUp _ => .isTrue trivial
  | .close _ => .isTrue trivial

/-- The packet is for an id that is not empty and that no connection remembers as its own, and a
valid token that it carries is for that id. -/
def Direct (config : RouterConfig Key) (router : Router) (remote : SocketAddr) (now : SystemTime)
    (hdr : Header) : Prop :=
  hdr.dcid.isEmpty = false ∧
  (∀ entry ∈ router.conns.entries,
    hdr.dcid ∉ entry.2.cids.scidValues ∧ hdr.dcid ∉ entry.2.unreported) ∧
  ∀ token ∈ hdr.token, ∀ decoded ∈ (config.tokens.validateAddressToken config.aead token remote
    hdr.dcid now).toOption, decoded.odcid = some hdr.dcid

instance (config : RouterConfig Key) (router : Router) (remote : SocketAddr) (now : SystemTime)
    (hdr : Header) : Decidable (Direct config router remote now hdr) :=
  inferInstanceAs (Decidable (_ ∧ _))

/-- Initial packets for which there is no connection are for the id that the client chose first,
and so is the first packet that a connection created without a token decrypts. -/
def Steady (config : RouterConfig Key) (router : Router) : Op → Prop
  | .recv buf tuple now _ _ _ => ∀ read ∈ (Header.fromBytes buf config.cidLen).toOption,
      read.1.pktType = .initial →
      (router.routes.find read.1.dcid buf tuple).1.bind router.conns.get? = none →
      Direct config router tuple.remoteAddr now read.1
  | .conn idx op => ∀ conn ∈ router.conns.get? idx, ∀ cid ∈ conn.learned op,
      (router.attempts idx).map (·.1) = some cid
  | _ => True

instance (config : RouterConfig Key) (router : Router) :
    (op : Op) → Decidable (Steady config router op)
  | .recv .. => inferInstanceAs (Decidable (∀ read ∈ _, _))
  | .conn .. => inferInstanceAs (Decidable (∀ conn ∈ _, _))
  | .connect .. => .isTrue trivial
  | .poll .. => .isTrue trivial
  | .cleanUp _ => .isTrue trivial
  | .close _ => .isTrue trivial

/-! ## The routes of attempts -/

/-- The route of every attempt leads to its connection, and no connection would remove it but
that one. -/
structure Guarded (router : Router) : Prop where
  routed : ∀ idx dcid, (router.conns.get? idx).isSome →
    (router.attempts idx).map (·.1) = some dcid →
    dcid.isEmpty = false ∧ router.routes.cidTable dcid = some idx
  unknown : ∀ idx dcid, (router.conns.get? idx).isSome →
    (router.attempts idx).map (·.1) = some dcid → ∀ other conn,
      router.conns.get? other = some conn →
      dcid ∉ conn.cids.scidValues ∧ dcid ∉ conn.unreported
  odcid : ∀ idx conn cid, router.conns.get? idx = some conn → conn.odcid = some cid →
    (router.attempts idx).map (·.1) = some cid
  below : ∀ idx conn, router.conns.get? idx = some conn → idx < router.nextIndex

theorem Guarded.single (guarded : Guarded router) : Single config router := by
  intro idx dcid remote attempted live buf hdr len tuple now read _ same _
  obtain ⟨named, routed⟩ := guarded.routed idx dcid live (congrArg (Option.map (·.1)) attempted)
  have found : router.routes.find hdr.dcid buf tuple = (some idx, false) := by
    unfold ConnectionRoutes.find
    rw [same, named, routed]
    rfl
  have targeted : router.target config buf tuple now = .deliver idx false := by
    unfold target
    rw [read]
    dsimp only
    rw [found]
    exact if_pos live
  refine ⟨targeted, fun scid scidToken created => ?_⟩
  unfold recv
  rw [targeted]

/-! ## Steps -/

variable {conn after : RoutedConn} {idx : Nat}

section

variable (guarded : Guarded router)

include guarded

/-- A connection may be replaced by one with new ids, if these were not routed before. -/
theorem Guarded.replace {routes : ConnectionRoutes} (found : router.conns.get? idx = some conn)
    (old : ∀ cid, cid ∈ after.cids.scidValues ∨ cid ∈ after.unreported →
      (cid ∈ conn.cids.scidValues ∨ cid ∈ conn.unreported) ∨
        router.routes.cidTable cid = none)
    (odcid : ∀ cid, after.odcid = some cid → (router.attempts idx).map (·.1) = some cid)
    (kept : ∀ cid other, router.routes.cidTable cid = some other → cid ∉ conn.unreported →
      routes.cidTable cid = some other) :
    Guarded { router with conns := router.conns.insert idx after, routes } := by
  have stays : ∀ other, ((router.conns.insert idx after).get? other).isSome →
      (router.conns.get? other).isSome := by
    intro other live
    rw [OrdMap.get?_insert] at live
    split_ifs at live with own
    · rw [own, found]
      rfl
    · exact live
  refine ⟨?_, ?_, ?_, ?_⟩
  · intro other dcid live attempted
    obtain ⟨named, routed⟩ := guarded.routed other dcid (stays other live) attempted
    have unknown := guarded.unknown other dcid (stays other live) attempted idx conn found
    exact ⟨named, kept dcid other routed unknown.2⟩
  · intro other dcid live attempted holder held present
    dsimp only at present
    rw [OrdMap.get?_insert] at present
    have unknown := guarded.unknown other dcid (stays other live) attempted
    split_ifs at present with own
    · cases present
      have absent : ¬ (dcid ∈ after.cids.scidValues ∨ dcid ∈ after.unreported) := by
        intro remembered
        rcases old dcid remembered with before | unrouted
        · have former := unknown idx conn found
          exact before.elim former.1 former.2
        · cases unrouted.symm.trans (guarded.routed other dcid (stays other live) attempted).2
      exact ⟨fun stored => absent (.inl stored), fun pending => absent (.inr pending)⟩
    · exact unknown holder held present
  · intro other held cid present known
    dsimp only at present
    rw [OrdMap.get?_insert] at present
    split_ifs at present with own
    · cases present
      exact own ▸ odcid cid known
    · exact guarded.odcid other held cid present known
  · intro other held present
    dsimp only at present
    rw [OrdMap.get?_insert] at present
    split_ifs at present with own
    · exact own ▸ guarded.below idx conn found
    · exact guarded.below other held present

private theorem conn_guarded {op : RoutedConn.Op} (steady : Steady config router (.conn idx op))
    (found : router.conns.get? idx = some conn) (stepped : conn.step op = some after) :
    Guarded { router with conns := router.conns.insert idx after } := by
  have evolves := RoutedConn.step_evolves stepped
  refine guarded.replace found ?_ ?_ fun _ _ routed _ => routed
  · rintro cid (stored | pending)
    · exact .inl (.inl (evolves.old cid stored))
    · rcases evolves.retired cid (RoutedConn.mem_unreported.mp pending) with before | stored
      · exact .inl (.inr (RoutedConn.mem_unreported.mpr before))
      · exact .inl (.inl stored)
  · intro cid known
    rcases evolves.odcid with same | ⟨_, learned⟩
    · exact guarded.odcid idx conn cid found (same ▸ known)
    · exact steady conn found cid (learned ▸ known)

private theorem poll_guarded {generated : List (ConnectionId × ResetToken)}
    {event : Event} {rest : List Event} {routes : ConnectionRoutes}
    (fresh : Fresh config router (.poll idx generated))
    (found : router.conns.get? idx = some conn) (events : conn.events = event :: rest)
    (processed : processEvent idx generated { conn with events := rest } router.routes event =
      some (after, routes)) :
    Guarded { router with conns := router.conns.insert idx after, routes } := by
  have later : ∀ cid, cid ∈ RoutedConn.unreported { conn with events := rest } →
      cid ∈ conn.unreported := by
    intro cid pending
    rw [RoutedConn.mem_unreported, events]
    exact List.mem_cons_of_mem _ (RoutedConn.mem_unreported.mp pending)
  have odcid : ∀ cid, conn.odcid = some cid → (router.attempts idx).map (·.1) = some cid :=
    fun cid => guarded.odcid idx conn cid found
  cases event with
  | scidToAdvertise num =>
      obtain ⟨_, added⟩ := Option.ite_none_right_eq_some.mp processed
      have adds := connAddScids_adds idx generated { conn with events := rest } router.routes
      rw [Option.some.inj added] at adds
      have unrouted : ∀ cid ∈ generated.map (·.1), router.routes.cidTable cid = none := by
        intro cid member
        obtain ⟨pair, chosen, rfl⟩ := List.mem_map.mp member
        exact fresh pair chosen
      obtain ⟨cids, rfl⟩ := adds.only
      refine guarded.replace found ?_ odcid ?_
      · rintro cid (stored | pending)
        · exact (adds.old cid stored).imp .inl (unrouted cid)
        · exact .inl (.inr (later cid pending))
      · intro cid other routed _
        rcases adds.routed cid with same | ⟨_, chosen, _⟩
        · exact same.trans routed
        · cases (unrouted cid chosen).symm.trans routed
  | scidRetired retired =>
      cases processed
      refine guarded.replace found (fun cid => .inl ∘ .imp_right (later cid)) odcid ?_
      intro cid other routed unreported
      rw [ConnectionRoutes.removeWithCid_cidTable]
      split_ifs with own
      · refine absurd (RoutedConn.mem_unreported.mpr ?_) unreported
        rw [own, events]
        exact List.mem_cons_self
      · exact routed
  | dcidAdvertised token | dcidRetired token | resetTokenAdvertised token =>
      cases processed
      exact guarded.replace found (fun cid => .inl ∘ .imp_right (later cid)) odcid
        fun _ _ routed _ => routed

private theorem cleanUp_guarded {conn : RoutedConn} (found : router.conns.get? idx = some conn) :
    Guarded { router with
      conns := router.conns.erase idx, routes := router.routes.remove conn } := by
  have others : ∀ other, ((router.conns.erase idx).get? other).isSome →
      other ≠ idx ∧ (router.conns.get? other).isSome := by
    intro other live
    rw [OrdMap.get?_erase] at live
    split_ifs at live with own
    · cases live
    · exact ⟨own, live⟩
  have before : ∀ other held, (router.conns.erase idx).get? other = some held →
      router.conns.get? other = some held := by
    intro other held present
    rw [OrdMap.get?_erase] at present
    split_ifs at present
    exact present
  refine ⟨?_, ?_, ?_, ?_⟩
  · intro other dcid live attempted
    obtain ⟨apart, live⟩ := others other live
    obtain ⟨named, routed⟩ := guarded.routed other dcid live attempted
    refine ⟨named, ?_⟩
    dsimp only
    rw [ConnectionRoutes.remove_cidTable, if_neg ?_]
    · exact routed
    · rintro (⟨_, stored⟩ | ⟨_, original⟩)
      · exact (guarded.unknown other dcid live attempted idx conn found).1 stored
      · -- The connection that is removed was created for another id.
        have own := guarded.odcid idx conn dcid found original
        have owned := guarded.routed idx dcid (Option.isSome_of_eq_some found) own
        cases routed.symm.trans owned.2
        exact apart rfl
  · intro other dcid live attempted holder held present
    exact guarded.unknown other dcid (others other live).2 attempted holder held
      (before holder held present)
  · intro other held cid present
    exact guarded.odcid other held cid (before other held present)
  · intro other held present
    exact guarded.below other held (before other held present)

private theorem accept_guarded (longer : config.cidLen > 0)
    {scid dcid : ConnectionId} {token : Option AddressToken} (scidToken : Option ResetToken)
    (tuple : FourTuple) (original : ∀ cid, token.bind (·.odcid) = some cid → cid = dcid)
    (named : dcid.isEmpty = false) (unknown : ∀ idx conn, router.conns.get? idx = some conn →
      dcid ∉ conn.cids.scidValues ∧ dcid ∉ conn.unreported)
    (unrouted : (router.routes.cidTable dcid).bind router.conns.get? = none)
    (fresh : router.routes.cidTable scid = none) (apart : dcid ≠ scid) :
    Guarded (router.accept config scid scidToken tuple dcid token dcid) := by
  -- The ids of the other attempts are routed to their connections.
  have differs : ∀ idx other, (router.conns.get? idx).isSome →
      (router.attempts idx).map (·.1) = some other → other ≠ dcid ∧ other ≠ scid := by
    intro idx other live attempted
    have routed := (guarded.routed idx other live attempted).2
    constructor
    · rintro rfl
      rw [routed] at unrouted
      rw [show router.conns.get? idx = none from unrouted] at live
      cases live
    · rintro rfl
      cases fresh.symm.trans routed
  have conns : (router.accept config scid scidToken tuple dcid token dcid).conns =
      router.conns.insert router.nextIndex (.newServer config.cids scid scidToken tuple token) := rfl
  have attempts : (router.accept config scid scidToken tuple dcid token dcid).attempts =
      Function.update router.attempts router.nextIndex (some (dcid, tuple.remoteAddr)) := rfl
  have routes : (router.accept config scid scidToken tuple dcid token dcid).routes =
      (router.routes.insertWithCid scid router.nextIndex).insertWithCid dcid router.nextIndex :=
    if_pos longer
  refine ⟨?_, ?_, ?_, ?_⟩
  · intro idx other live attempted
    rw [routes, ConnectionRoutes.insertWithCid_cidTable, ConnectionRoutes.insertWithCid_cidTable]
    rw [conns, OrdMap.get?_insert] at live
    rw [attempts, Function.update_apply] at attempted
    split_ifs at live attempted with own
    · cases attempted
      rw [if_pos rfl, own]
      exact ⟨named, rfl⟩
    · obtain ⟨notDcid, notScid⟩ := differs idx other live attempted
      rw [if_neg notDcid, if_neg notScid]
      exact guarded.routed idx other live attempted
  · intro idx other live attempted holder held present
    rw [conns, OrdMap.get?_insert] at live present
    rw [attempts, Function.update_apply] at attempted
    have foreign : other ≠ scid ∧ ∀ holder held, router.conns.get? holder = some held →
        other ∉ held.cids.scidValues ∧ other ∉ held.unreported := by
      split_ifs at live attempted
      · cases attempted
        exact ⟨apart, unknown⟩
      · exact ⟨(differs idx other live attempted).2, guarded.unknown idx other live attempted⟩
    split_ifs at present
    · cases present
      exact ⟨fun stored => foreign.1 (List.mem_singleton.mp stored), List.not_mem_nil⟩
    · exact foreign.2 holder held present
  · intro idx conn cid present known
    rw [conns, OrdMap.get?_insert] at present
    rw [attempts, Function.update_apply]
    split_ifs at present ⊢
    · cases present
      rw [original cid known]
      rfl
    · exact guarded.odcid idx conn cid present known
  · intro idx conn present
    rw [conns, OrdMap.get?_insert] at present
    split_ifs at present with own
    · exact own ▸ Nat.lt_succ_self _
    · exact Nat.lt_succ_of_lt (guarded.below idx conn present)

/-- A datagram that breaks no rule of the run leaves the attempts guarded. -/
theorem recv_guarded {buf : Bytes} {tuple : FourTuple} {now : SystemTime} {scid : ConnectionId}
    {scidToken : Option ResetToken} {created : Bool} (longer : config.cidLen > 0)
    (fresh : Fresh config router (.recv buf tuple now scid scidToken created))
    (steady : Steady config router (.recv buf tuple now scid scidToken created)) :
    Guarded (router.recv config buf tuple now scid scidToken created) := by
  unfold recv
  cases targeted : router.target config buf tuple now with
  | accept dcid token odcid =>
      dsimp only
      split_ifs
      · obtain ⟨hdr, len, read, absent, admitted⟩ := target_accept targeted
        obtain ⟨rfl, initial, source⟩ := recvUnknown_accept admitted
        have found : (hdr, len) ∈ (Header.fromBytes buf config.cidLen).toOption := by
          rw [read]
          rfl
        obtain ⟨named, unknown, valid⟩ := steady (hdr, len) found initial absent
        have original : odcid = hdr.dcid ∧ ∀ cid, token.bind (·.odcid) = some cid → cid = hdr.dcid := by
          rcases source with ⟨rfl, same⟩ | ⟨bytes, held, carried, checked, rfl, known⟩
          · exact ⟨same, by rintro _ ⟨⟩⟩
          · have same := valid bytes carried held (by rw [checked]; rfl)
            cases known.symm.trans same
            refine ⟨rfl, fun cid known => ?_⟩
            exact Option.some.inj (known.symm.trans same)
        cases original.1
        refine accept_guarded guarded longer scidToken tuple original.2 named
          (fun idx conn present => ?_) ?_ fresh.1 (fresh.2 (hdr, len) found)
        · exact unknown (idx, conn) (OrdMap.get?_eq_some_iff.mp present)
        · cases routed : router.routes.cidTable hdr.dcid with
          | none => rfl
          | some idx =>
              unfold ConnectionRoutes.find at absent
              rw [named, routed] at absent
              exact absent
      · exact guarded
  | _ => exact guarded

end

theorem guarded_of_empty (conns : router.conns = ∅) : Guarded router := by
  have missing : ∀ idx conn, router.conns.get? idx ≠ some conn := by
    intro idx conn present
    rw [conns, OrdMap.get?_empty] at present
    cases present
  have dead : ∀ idx, (router.conns.get? idx).isSome → False := by
    intro idx live
    obtain ⟨conn, present⟩ := Option.isSome_iff_exists.mp live
    exact missing idx conn present
  exact ⟨fun idx _ live => (dead idx live).elim, fun idx _ live => (dead idx live).elim,
    fun idx conn _ present => absurd present (missing idx conn),
    fun idx conn present => absurd present (missing idx conn)⟩

/-- Every step of a server that meets the conditions keeps the attempts guarded. -/
theorem step_guarded {op : Op} (server : config.isServer = true) (longer : config.cidLen > 0)
    (guarded : Guarded router) (fresh : Fresh config router op) (steady : Steady config router op)
    (stepped : router.step config op = some next) : Guarded next := by
  cases op with
  | connect cids scid dcid tuple started =>
      obtain ⟨refused, _⟩ := Option.ite_none_left_eq_some.mp stepped
      rw [server] at refused
      exact absurd rfl refused
  | recv buf tuple now scid scidToken created =>
      obtain ⟨_, received⟩ := Option.ite_none_left_eq_some.mp stepped
      cases received
      exact recv_guarded guarded longer fresh steady
  | conn idx op =>
      obtain ⟨conn, found, moved⟩ := Option.bind_eq_some_iff.mp stepped
      obtain ⟨after, evolved, rfl⟩ := Option.map_eq_some_iff.mp moved
      exact conn_guarded guarded steady found evolved
  | poll idx generated =>
      obtain ⟨conn, event, rest, after, routes, found, events, processed, rfl⟩ := step_poll stepped
      exact poll_guarded guarded fresh found events processed
  | cleanUp idx =>
      obtain ⟨conn, found, removed⟩ := Option.bind_eq_some_iff.mp stepped
      obtain ⟨_, removed⟩ := Option.ite_none_right_eq_some.mp removed
      cases removed
      exact cleanUp_guarded guarded found
  | close force =>
      cases force with
      | true =>
          cases stepped
          exact guarded_of_empty rfl
      | false =>
          cases stepped
          exact ⟨guarded.routed, guarded.unknown, guarded.odcid, guarded.below⟩

/-- As long as the Initial packets that create connections are for the ids that the clients
chose first, there is one connection for each attempt. -/
theorem attempts_single (config : RouterConfig Key) (server : config.isServer = true)
    (longer : config.cidLen > 0) (router : Router)
    (run : Run (step config) (fun router op => Fresh config router op ∧ Steady config router op)
      .new router) : Single config router :=
  Guarded.single (run.invariant
    (fun _ _ _ guarded allowed stepped =>
      step_guarded server longer guarded allowed.1 allowed.2 stepped)
    (guarded_of_empty rfl))

def clientTuple : FourTuple := ⟨.localhost 443, clientAddr⟩

def retryServer : RouterConfig UInt8 where
  isServer := true
  cidLen := 8
  maxConcurrentConns := 10
  cids := .default true
  aead := checksumAead
  tokens := retryingConfig

/-- The Initial packet that a client sends after the Retry, to the id that the server chose. -/
def retriedInitial : Bytes :=
  Header.image
    { pktType := .initial, version := 1, dcid := retryScid, scid := .new [9], pktNum := 0
      pktNumLen := 1, token := some (retryTokenOf (.new [8, 7, 6, 5, 4, 3, 2, 1]))
      keyPhase := false } 0

def generatedScid : ConnectionId := .new [9, 9, 9, 9, 9, 9, 9, 9]

/-- Only the id from before the Retry is routed: the same packet is accepted once more. -/
theorem retried_attempt_accepted_twice :
    ¬ ∀ router : Router, Run (step retryServer) (Fresh retryServer) .new router →
      Single retryServer router := by
  intro always
  have executed : (exec (checked (fun router op => decide (Fresh retryServer router op))
      (step retryServer)) .new
      [.recv retriedInitial clientTuple returnedAt generatedScid none true]).map (fun router =>
        (router.attempts 0, (router.conns.get? 0).isSome,
          match router.target retryServer retriedInitial clientTuple returnedAt with
          | .deliver _ _ => true
          | _ => false)) = some (some (retryScid, clientAddr), true, false) := by
    decide +kernel
  have header : (Header.fromBytes retriedInitial 8).toOption.map (fun read =>
      (read.1.pktType, read.1.dcid)) = some (.initial, retryScid) := by
    decide +kernel
  obtain ⟨router, reached, observed⟩ := Option.map_eq_some_iff.mp executed
  obtain ⟨attempted, later⟩ := Prod.mk.inj observed
  obtain ⟨live, targeted⟩ := Prod.mk.inj later
  obtain ⟨⟨hdr, len⟩, read, fields⟩ := Option.map_eq_some_iff.mp header
  obtain ⟨initial, dcid⟩ := Prod.mk.inj fields
  replace read : Header.fromBytes retriedInitial 8 = .ok (hdr, len) := by
    cases parsed : Header.fromBytes retriedInitial 8 with
    | error error =>
        rw [parsed] at read
        cases read
    | ok found =>
        rw [parsed] at read
        cases read
        rfl
  have single := always router (Run.of_checked (fun _ _ => of_decide_eq_true) (Run.of_exec reached))
    0 retryScid clientAddr attempted live retriedInitial hdr len clientTuple returnedAt
    read initial dcid rfl
  rw [single.1] at targeted
  cases targeted

/-- A server that takes clients without a token. -/
def openServer : RouterConfig UInt8 :=
  { retryServer with tokens := { retryingConfig with retry := false } }

/-- The first packet of a client. -/
def firstInitial : Bytes := Header.initialHeader.image 0

/-- The first packet of a client is retransmitted before the server has answered. -/
theorem retransmitted_initial_delivered :
    ∃ router : Router, router.attempts 0 = some (.new [1, 2, 3, 4], clientAddr) ∧
      (router.conns.get? 0).isSome = true ∧ Single openServer router := by
  have executed : (exec (checked (fun router op =>
      decide (Fresh openServer router op ∧ Steady openServer router op)) (step openServer)) .new
      [.recv firstInitial clientTuple returnedAt generatedScid none true,
        .conn 0 (.packet 0 (.new [1, 2, 3, 4]) (.new [9])),
        .recv firstInitial clientTuple returnedAt (.new [7, 7, 7, 7, 7, 7, 7, 7]) none true]).map
        (fun router => (router.attempts 0, (router.conns.get? 0).isSome)) =
      some (some (.new [1, 2, 3, 4], clientAddr), true) := by
    decide +kernel
  obtain ⟨router, reached, observed⟩ := Option.map_eq_some_iff.mp executed
  obtain ⟨attempted, live⟩ := Prod.mk.inj observed
  exact ⟨router, attempted, live, attempts_single openServer rfl (by decide) router
    (Run.of_checked (fun _ _ => of_decide_eq_true) (Run.of_exec reached))⟩

end Router

end Tquic
