import Tquic.EndpointLoops
import Tquic.Routes
import Tquic.TransportParams
import Tquic.Lib.Stateful

/-! The creation of a client connection, after `connect` of `endpoint.rs` and the functions of
`connection.rs` that it calls. The connection is stored before it is configured, and stays stored
if that fails. -/

set_option autoImplicit false

namespace Tquic

open Lib

/-- Why a connection was not created. -/
inductive ConnectError where
  | invalidOperation
  | failed (error : Error)

/-- What the endpoint asks of a new connection. `κ` is the type of configurations. -/
structure ClientConn (κ σ : Type) where
  newClient : κ → ConnectionId → FourTuple → Option Bytes → Except Error σ
  isServer : σ → Bool
  tlsSetSession : Bytes → Stateful σ Error Unit
  setPeerTransParams : TransportParams → Stateful σ Error Unit
  storeToken : Bytes → σ → σ
  tlsProcess : Stateful σ Error Unit

namespace ClientConn

variable {κ σ : Type} (client : ClientConn κ σ)

/-- Bytes behind their length. -/
def readSized : Decoder Bytes := do
  let len ← Decoder.readU64
  Decoder.read len

def setSession (buf : Bytes) : Stateful σ Error Unit := do
  let (session, rest) ← Stateful.ofExcept (readSized.run buf)
  client.tlsSetSession session
  let (params, _) ← Stateful.ofExcept (readSized.run rest)
  let conn ← get
  let (peerParams, _) ← Stateful.ofExcept (TransportParams.decode params (client.isServer conn))
  client.setPeerTransParams peerParams

def setToken (token : Bytes) : Stateful σ ConnectError Unit := do
  let conn ← get
  if client.isServer conn then throw .invalidOperation
  else modify (client.storeToken token)

/-- TLS has nothing more to do until the first answer. -/
def startHandshake : Stateful σ Error Unit := do
  let conn ← get
  if client.isServer conn then return
  else
    match ← Stateful.attempt client.tlsProcess with
    | .ok _ => return
    | .error .done => return
    | .error error => throw error

def configure (session token : Option Bytes) : Stateful σ ConnectError Unit := do
  session.forM fun buf => (client.setSession buf).withErrors .failed
  token.forM client.setToken
  client.startHandshake.withErrors .failed

/-! ## What it takes to configure a connection -/

variable {client}

def Resumes (client : ClientConn κ σ) (buf : Bytes) (before after : σ) : Prop :=
  ∃ ticket rest middle params tail peerParams len,
    readSized.run buf = .ok (ticket, rest) ∧
    (client.tlsSetSession ticket).run before = (.ok (), middle) ∧
    readSized.run rest = .ok (params, tail) ∧
    TransportParams.decode params (client.isServer middle) = .ok (peerParams, len) ∧
    (client.setPeerTransParams peerParams).run middle = (.ok (), after)

/-- TLS begins the handshake. -/
def Starts (client : ClientConn κ σ) (conn : σ) : Prop :=
  client.isServer conn = true ∨ (client.tlsProcess.run conn).1 = .ok () ∨
    (client.tlsProcess.run conn).1 = .error .done

def Configurable (client : ClientConn κ σ) (session token : Option Bytes) (conn : σ) : Prop :=
  ∃ resumed, session.elim (resumed = conn) (fun buf => client.Resumes buf conn resumed) ∧
    (∀ bytes, token = some bytes → client.isServer resumed = false) ∧
    client.Starts (token.elim resumed (fun bytes => client.storeToken bytes resumed))

variable {before after : σ}

private theorem setSession_succeeds {buf : Bytes} :
    (client.setSession buf).run before = (.ok (), after) ↔ client.Resumes buf before after := by
  unfold setSession
  rw [Stateful.bind_succeeds]
  constructor
  · rintro ⟨⟨ticket, rest⟩, _, first, continues⟩
    obtain ⟨read, rfl⟩ := Stateful.ofExcept_succeeds.mp first
    obtain ⟨_, middle, accepted, continues⟩ := Stateful.bind_succeeds.mp continues
    obtain ⟨⟨params, tail⟩, _, second, continues⟩ := Stateful.bind_succeeds.mp continues
    obtain ⟨reads, rfl⟩ := Stateful.ofExcept_succeeds.mp second
    obtain ⟨conn, _, known, continues⟩ := Stateful.bind_succeeds.mp continues
    cases known
    obtain ⟨⟨peerParams, len⟩, _, third, continues⟩ := Stateful.bind_succeeds.mp continues
    obtain ⟨decoded, rfl⟩ := Stateful.ofExcept_succeeds.mp third
    exact ⟨ticket, rest, middle, params, tail, peerParams, len, read, accepted, reads, decoded,
      continues⟩
  · rintro ⟨ticket, rest, middle, params, tail, peerParams, len, read, accepted, reads, decoded,
      sets⟩
    refine ⟨(ticket, rest), before, Stateful.ofExcept_succeeds.mpr ⟨read, rfl⟩, ?_⟩
    refine Stateful.bind_succeeds.mpr ⟨(), middle, accepted, ?_⟩
    refine Stateful.bind_succeeds.mpr
      ⟨(params, tail), middle, Stateful.ofExcept_succeeds.mpr ⟨reads, rfl⟩, ?_⟩
    refine Stateful.bind_succeeds.mpr ⟨middle, middle, rfl, ?_⟩
    exact Stateful.bind_succeeds.mpr
      ⟨(peerParams, len), middle, Stateful.ofExcept_succeeds.mpr ⟨decoded, rfl⟩, sets⟩

private theorem setToken_succeeds {token : Bytes} :
    (client.setToken token).run before = (.ok (), after) ↔
      client.isServer before = false ∧ client.storeToken token before = after := by
  unfold setToken
  rw [Stateful.bind_succeeds]
  constructor
  · rintro ⟨_, _, known, continues⟩
    cases known
    split_ifs at continues with server
    · cases continues
    · cases continues
      exact ⟨Bool.eq_false_iff.mpr server, rfl⟩
  · rintro ⟨role, rfl⟩
    refine ⟨before, before, rfl, ?_⟩
    rw [role]
    rfl

/-- The handshake starts on a server, and on a client where TLS goes on or waits. -/
theorem startHandshake_succeeds {before : σ} :
    (∃ after, client.startHandshake.run before = (.ok (), after)) ↔ client.Starts before := by
  unfold startHandshake Starts
  simp only [Stateful.bind_succeeds]
  constructor
  · rintro ⟨after, _, _, known, continues⟩
    cases known
    split_ifs at continues with server
    · exact .inl server
    · obtain ⟨result, middle, attempted, continues⟩ := Stateful.bind_succeeds.mp continues
      have outcome : (client.tlsProcess.run before).1 = result :=
        Except.ok.inj (congrArg Prod.fst attempted)
      rw [outcome]
      split at continues
      · exact .inr (.inl rfl)
      · exact .inr (.inr rfl)
      · cases continues
  · intro starts
    by_cases server : client.isServer before = true
    · refine ⟨before, before, before, rfl, ?_⟩
      rw [if_pos server]
      rfl
    · refine ⟨(client.tlsProcess.run before).2, before, before, rfl, ?_⟩
      rw [if_neg server]
      refine Stateful.bind_succeeds.mpr ⟨(client.tlsProcess.run before).1, _, rfl, ?_⟩
      rcases starts.resolve_left server with processed | waits
      · rw [processed]
        rfl
      · rw [waits]
        rfl

theorem resume_succeeds {session : Option Bytes} :
    (session.forM fun buf => (client.setSession buf).withErrors ConnectError.failed).run before =
        (.ok (), after) ↔
      session.elim (after = before) (fun buf => client.Resumes buf before after) := by
  cases session with
  | none => exact ⟨fun same => (congrArg Prod.snd same).symm, fun same => same ▸ rfl⟩
  | some buf => exact Stateful.withErrors_succeeds.trans setSession_succeeds

theorem present_succeeds {token : Option Bytes} :
    (token.forM client.setToken).run before = (.ok (), after) ↔
      (∀ bytes, token = some bytes → client.isServer before = false) ∧
        token.elim before (fun bytes => client.storeToken bytes before) = after := by
  cases token with
  | none =>
      constructor
      · exact fun same => ⟨fun _ impossible => absurd impossible (Option.some_ne_none _).symm,
          congrArg Prod.snd same⟩
      · rintro ⟨-, rfl⟩
        rfl
  | some bytes =>
      rw [show (some bytes).forM client.setToken = client.setToken bytes from rfl,
        setToken_succeeds]
      refine and_congr_left fun _ => ⟨fun role _ _ => role, fun role => role bytes rfl⟩

private theorem configure_succeeds {session token : Option Bytes} {conn : σ} :
    (∃ after, (client.configure session token).run conn = (.ok (), after)) ↔
      client.Configurable session token conn := by
  unfold configure Configurable
  constructor
  · rintro ⟨after, configured⟩
    obtain ⟨_, resumed, resumes, configured⟩ := Stateful.bind_succeeds.mp configured
    obtain ⟨_, stored, stores, begins⟩ := Stateful.bind_succeeds.mp configured
    obtain ⟨role, rfl⟩ := present_succeeds.mp stores
    exact ⟨resumed, resume_succeeds.mp resumes, role,
      startHandshake_succeeds.mp ⟨after, Stateful.withErrors_succeeds.mp begins⟩⟩
  · rintro ⟨resumed, resumes, role, starts⟩
    obtain ⟨after, begins⟩ := startHandshake_succeeds.mpr starts
    exact ⟨after, Stateful.bind_succeeds.mpr ⟨(), resumed, resume_succeeds.mpr resumes,
      Stateful.bind_succeeds.mpr ⟨(), _, present_succeeds.mpr ⟨role, rfl⟩,
        Stateful.withErrors_succeeds.mpr begins⟩⟩⟩

end ClientConn

structure RoutedEndpoint (κ σ : Type) where
  endpoint : Endpoint σ
  routes : ConnectionRoutes
  config : κ

namespace RoutedEndpoint

variable {κ σ : Type}

/-- Create a client connection with the id `scid` that was generated for it. -/
def connect (behaviour : Behaviour σ) (client : ClientConn κ σ) (routed : RoutedEndpoint κ σ)
    (scid : ConnectionId) (tuple : FourTuple) (serverName session token : Option Bytes)
    (config : Option κ) : Except ConnectError Nat × RoutedEndpoint κ σ :=
  if routed.endpoint.isServer then (.error .invalidOperation, routed)
  else if routed.endpoint.closed then (.error .invalidOperation, routed)
  else
    match client.newClient (config.getD routed.config) scid tuple serverName with
    | .error error => (.error (.failed error), routed)
    | .ok state =>
        let (idx, inserted) := routed.endpoint.insertConn state
        match (client.configure session token).run state with
        | (.error error, state) =>
            -- The connection keeps what was done before the failure.
            let left := inserted.store idx { state, tickable := false, sendable := false }
            (.error error, { routed with endpoint := left })
        | (.ok _, state) =>
            let conn := { state, tickable := false, sendable := false }
            let created := (inserted.react idx conn (behaviour.onCreated state)).markTickable idx true
            let routes :=
              if !scid.isEmpty then routed.routes.insertWithCid scid idx
              else routed.routes.insertWithAddr tuple idx
            (.ok idx, { routed with endpoint := created, routes })

/-! ## What a call leaves behind -/

structure Unchanged (before after : RoutedEndpoint κ σ) : Prop where
  conns : after.endpoint.conns = before.endpoint.conns
  nextIndex : after.endpoint.nextIndex = before.endpoint.nextIndex
  cids : after.routes.cidTable = before.routes.cidTable
  addrs : after.routes.addrTable = before.routes.addrTable
  tickable : after.endpoint.tickable = before.endpoint.tickable
  sendable : after.endpoint.sendable = before.endpoint.sendable

theorem Unchanged.refl (routed : RoutedEndpoint κ σ) : Unchanged routed routed :=
  ⟨rfl, rfl, rfl, rfl, rfl, rfl⟩

/-- The call is refused, or no connection is constructed. -/
def Refuses (client : ClientConn κ σ) (routed : RoutedEndpoint κ σ) (scid : ConnectionId)
    (tuple : FourTuple) (serverName : Option Bytes) (config : Option κ) : Prop :=
  routed.endpoint.isServer = true ∨ routed.endpoint.closed = true ∨
    ∃ error, client.newClient (config.getD routed.config) scid tuple serverName = .error error

variable {behaviour : Behaviour σ} {client : ClientConn κ σ} {routed : RoutedEndpoint κ σ}
  {scid : ConnectionId} {tuple : FourTuple} {serverName session token : Option Bytes}
  {config : Option κ}

private theorem connect_refused (refuses : Refuses client routed scid tuple serverName config) :
    (routed.connect behaviour client scid tuple serverName session token config).2 = routed := by
  unfold connect
  by_cases server : routed.endpoint.isServer = true
  · rw [if_pos server]
  · rw [if_neg server]
    by_cases closed : routed.endpoint.closed = true
    · rw [if_pos closed]
    · rw [if_neg closed]
      obtain ⟨error, fails⟩ := (refuses.resolve_left server).resolve_left closed
      rw [fails]

private theorem connect_constructed {state : σ} (role : routed.endpoint.isServer = false)
    (opened : routed.endpoint.closed = false)
    (constructed : client.newClient (config.getD routed.config) scid tuple serverName = .ok state) :
    let outcome := routed.connect behaviour client scid tuple serverName session token config
    (client.Configurable session token state → ∃ idx, outcome.1 = .ok idx) ∧
      (¬ client.Configurable session token state →
        ∃ error after, (client.configure session token).run state = (.error error, after) ∧
          outcome.1 = .error error ∧
          outcome.2.endpoint.conns.get? routed.endpoint.nextIndex =
            some { state := after, tickable := false, sendable := false } ∧
          outcome.2.endpoint.nextIndex = routed.endpoint.nextIndex + 1) := by
  intro outcome
  rw [← ClientConn.configure_succeeds]
  have unfolded : outcome = routed.connect behaviour client scid tuple serverName session token
    config := rfl
  unfold connect at unfolded
  rw [if_neg (Bool.eq_false_iff.mp role), if_neg (Bool.eq_false_iff.mp opened),
    constructed] at unfolded
  dsimp only at unfolded
  cases configured : (client.configure session token).run state with
  | mk result after =>
      rw [configured] at unfolded
      cases result with
      | ok value =>
          exact ⟨fun _ => ⟨_, congrArg Prod.fst unfolded⟩, fun fails => absurd ⟨after, rfl⟩ fails⟩
      | error error =>
          constructor
          · rintro ⟨_, impossible⟩
            cases impossible
          · intro _
            rw [unfolded]
            exact ⟨error, after, rfl, rfl, OrdMap.get?_insert_self _ _ _, rfl⟩

/-- A call that fails leaves the tables and queues as they were exactly if it is refused before the
connection is stored; a call that is not must find a session, a token and a TLS configuration with
which the handshake begins. -/
theorem connect_unchanged_iff :
    (∀ error, (routed.connect behaviour client scid tuple serverName session token config).1 =
        .error error →
      Unchanged routed
        (routed.connect behaviour client scid tuple serverName session token config).2) ↔
      Refuses client routed scid tuple serverName config ∨
        ∀ state, client.newClient (config.getD routed.config) scid tuple serverName = .ok state →
          client.Configurable session token state := by
  by_cases refuses : Refuses client routed scid tuple serverName config
  · refine iff_of_true (fun error _ => ?_) (.inl refuses)
    rw [connect_refused refuses]
    exact .refl routed
  rw [or_iff_right refuses]
  obtain ⟨role, opened⟩ : routed.endpoint.isServer = false ∧ routed.endpoint.closed = false := by
    constructor
    · exact Bool.eq_false_iff.mpr fun server => refuses (.inl server)
    · exact Bool.eq_false_iff.mpr fun closed => refuses (.inr (.inl closed))
  cases constructed : client.newClient (config.getD routed.config) scid tuple serverName with
  | error error => exact absurd (.inr (.inr ⟨error, constructed⟩)) refuses
  | ok state =>
      obtain ⟨succeeds, fails⟩ := @connect_constructed _ _ behaviour client routed scid tuple
        serverName session token config state role opened constructed
      constructor
      · intro kept other same
        cases same
        by_contra broken
        obtain ⟨error, _, _, failed, _, taken⟩ := fails broken
        have same := (kept error failed).nextIndex
        omega
      · intro configurable error failed
        obtain ⟨idx, result⟩ := succeeds (configurable state rfl)
        rw [failed] at result
        cases result

/-- TLS takes every ticket and begins every handshake. -/
def sampleClient : ClientConn Unit Nat :=
  { newClient := fun _ _ _ _ => .ok 0
    isServer := fun _ => false
    tlsSetSession := fun _ => pure ()
    setPeerTransParams := fun _ => pure ()
    storeToken := fun _ conn => conn
    tlsProcess := throw .done }

def sampleTuple : FourTuple := ⟨.localhost 50000, .localhost 443⟩

/-- The session ends before the length of its ticket. -/
theorem short_session_leaves_connection :
    ¬ (∀ (κ σ : Type) (behaviour : Behaviour σ) (client : ClientConn κ σ)
        (routed : RoutedEndpoint κ σ) (scid : ConnectionId) (tuple : FourTuple)
        (serverName session token : Option Bytes) (config : Option κ) (error : ConnectError),
        (routed.connect behaviour client scid tuple serverName session token config).1 =
          .error error →
        Unchanged routed
          (routed.connect behaviour client scid tuple serverName session token config).2) ∧
      ((⟨Endpoint.new false 10 1, .new, ()⟩ : RoutedEndpoint Unit Nat).connect
        Endpoint.sampleBehaviour sampleClient (.new [1]) sampleTuple none (some []) none
          none).2.endpoint.conns.size = 1 := by
  refine ⟨fun all => ?_, rfl⟩
  have kept := all Unit Nat Endpoint.sampleBehaviour sampleClient ⟨Endpoint.new false 10 1, .new, ()⟩
    (.new [1]) sampleTuple none (some []) none none (.failed .bufferTooShort) rfl
  exact absurd kept.nextIndex (by decide)

end RoutedEndpoint

end Tquic
