import Tquic.Connection.EarlyPackets

/-! Packets that were kept for want of a key are replayed once the key is there. The calls of `recv`
and `try_process_undecryptable_packets` by each other come to an end, since a packet that is
replayed is not kept again. -/

set_option autoImplicit false

namespace Tquic.Connection

open Lib

namespace EarlyConn

variable {σ α π ι : Type}

/-! ## The invariant -/

def Clear (conn : EarlyConn σ α π) (pktType : PacketType) : Prop :=
  ∀ level, pktType.toLevel = .ok level → conn.keys level = true →
    conn.undecryptable.pkts pktType = []

def Drained (conn : EarlyConn σ α π) : Prop := ∀ pktType, conn.Clear pktType

/-- What holds between any two changes of the connection. -/
structure Inv (tls : TlsLibrary σ ι) (conn : EarlyConn σ α π) : Prop where
  server : conn.isServer = true → conn.undecryptable.pkts .handshake = []
  client : conn.isServer = false → conn.undecryptable.pkts .zeroRtt = []
  oneRtt : tls.installed conn.tls .oneRtt ↔ conn.keys .oneRtt = true
  zeroRtt : conn.isServer = true → tls.installed conn.tls .zeroRtt → conn.keys .zeroRtt = true
  handshake : conn.isServer = false → conn.confirmed = false →
    tls.installed conn.tls .handshake → conn.keys .handshake = true
  confirmed : conn.confirmed = true → conn.established = true
  established : conn.established = true →
    tls.installed conn.tls .handshake ∧ tls.installed conn.tls .oneRtt
  confirmed_empty : conn.isServer = false → conn.confirmed = true →
    conn.undecryptable.pkts .handshake = []
  typed : ∀ pktType, ∀ pkt ∈ conn.undecryptable.pkts pktType, pkt.pktType = pktType
  history : ∀ pktType,
    conn.accepted pktType = conn.replayed pktType ++ conn.undecryptable.pkts pktType

/-- 1-RTT packets are opened after the handshake only. Between the failure of TLS and the end of the
connection this does not hold. -/
def Live (conn : EarlyConn σ α π) : Prop :=
  conn.keys .oneRtt = true → conn.established = true ∨ conn.closing = true

/-- What a change that keeps no packets may do. -/
structure Moves (conn after : EarlyConn σ α π) : Prop where
  isServer : after.isServer = conn.isServer
  established : conn.established = true → after.established = true
  closing : conn.closing = true → after.closing = true
  emptied : conn.established = true → ∀ pktType,
    conn.undecryptable.pkts pktType = [] → after.undecryptable.pkts pktType = []
  early : conn.established = true → conn.isServer = true → conn.keys .zeroRtt = false →
    after.keys .zeroRtt = false
  kept : ∀ level, level ≠ .initial → conn.keys level = true →
    after.keys level = true ∨ after.established = true
  fresh : conn.established = false → after.established = true → after.Drained

variable {tls : TlsLibrary σ ι} {conn mid after : EarlyConn σ α π}

theorem Moves.refl (conn : EarlyConn σ α π) : Moves conn conn where
  isServer := rfl
  established := id
  closing := id
  emptied := fun _ _ => id
  early := fun _ _ => id
  kept := fun _ _ => .inl
  fresh := fun absent present => by rw [absent] at present; cases present

theorem Inv.handshake_empty (inv : Inv tls conn) (established : conn.established = true)
    (client : conn.isServer = false)
    (held : conn.keys .handshake = true → conn.undecryptable.pkts .handshake = []) :
    conn.undecryptable.pkts .handshake = [] := by
  cases confirmed : conn.confirmed with
  | true => exact inv.confirmed_empty client confirmed
  | false => exact held (inv.handshake client confirmed (inv.established established).1)

variable {pktType : PacketType}

/-- A type without packets stays so after the handshake. -/
theorem Moves.clear (moves : Moves conn after) (inv : Inv tls conn) (later : Inv tls after)
    (established : conn.established = true) (clear : conn.Clear pktType) : after.Clear pktType := by
  intro level of key
  cases pktType with
  | versionNegotiation => rfl
  | initial => rfl
  | retry => rfl
  | oneRtt =>
    have key := inv.oneRtt.mp (inv.established established).2
    exact moves.emptied established .oneRtt (clear .oneRtt rfl key)
  | handshake =>
    cases server : conn.isServer with
    | true => exact later.server (moves.isServer.trans server)
    | false =>
      exact moves.emptied established .handshake
        (inv.handshake_empty established server (clear .handshake rfl))
  | zeroRtt =>
    cases server : conn.isServer with
    | false => exact later.client (moves.isServer.trans server)
    | true =>
      cases Except.ok.inj of
      cases held : conn.keys .zeroRtt with
      | true => exact moves.emptied established .zeroRtt (clear .zeroRtt rfl held)
      | false =>
        rw [moves.early established server held] at key
        cases key

theorem Moves.drained (moves : Moves conn after) (inv : Inv tls conn) (later : Inv tls after)
    (established : conn.established = true) (drained : conn.Drained) : after.Drained :=
  fun pktType => moves.clear inv later established (drained pktType)

theorem Moves.trans (first : Moves conn mid) (second : Moves mid after) (inv : Inv tls mid)
    (later : Inv tls after) : Moves conn after where
  isServer := second.isServer.trans first.isServer
  established := fun holds => second.established (first.established holds)
  closing := fun holds => second.closing (first.closing holds)
  emptied := fun holds pktType empty =>
    second.emptied (first.established holds) pktType (first.emptied holds pktType empty)
  early := fun holds server absent =>
    second.early (first.established holds) (first.isServer.trans server)
      (first.early holds server absent)
  kept := fun level other key => by
    rcases first.kept level other key with key | holds
    · exact second.kept level other key
    · exact .inr (second.established holds)
  fresh := fun absent present => by
    cases holds : mid.established with
    | true => exact second.drained inv later holds (first.fresh absent holds)
    | false => exact second.fresh holds present

/-- A change that keeps no packets, with the invariant after it. -/
structure Kept (tls : TlsLibrary σ ι) (conn after : EarlyConn σ α π) : Prop where
  inv : Inv tls after
  moves : Moves conn after
  size : after.undecryptable.size ≤ conn.undecryptable.size

theorem Kept.refl (inv : Inv tls conn) : Kept tls conn conn := ⟨inv, .refl conn, Nat.le_refl _⟩

theorem Kept.trans (first : Kept tls conn mid) (second : Kept tls mid after) :
    Kept tls conn after :=
  ⟨second.inv, first.moves.trans second.moves first.inv second.inv, second.size.trans first.size⟩

/-! ## Single changes -/

/-- The connection differs in nothing that the invariant is about. -/
structure Alike (tls : TlsLibrary σ ι) (conn after : EarlyConn σ α π) : Prop where
  isServer : after.isServer = conn.isServer
  undecryptable : after.undecryptable = conn.undecryptable
  established : after.established = conn.established
  confirmed : after.confirmed = conn.confirmed
  accepted : after.accepted = conn.accepted
  replayed : after.replayed = conn.replayed
  keys : ∀ level, level ≠ .initial → after.keys level = conn.keys level
  installed : tls.installed after.tls = tls.installed conn.tls
  closing : conn.closing = true → after.closing = true

theorem Alike.refl (conn : EarlyConn σ α π) : Alike tls conn conn :=
  ⟨rfl, rfl, rfl, rfl, rfl, rfl, fun _ _ => rfl, rfl, id⟩

theorem Alike.trans (first : Alike tls conn mid) (second : Alike tls mid after) :
    Alike tls conn after where
  isServer := second.isServer.trans first.isServer
  undecryptable := second.undecryptable.trans first.undecryptable
  established := second.established.trans first.established
  confirmed := second.confirmed.trans first.confirmed
  accepted := second.accepted.trans first.accepted
  replayed := second.replayed.trans first.replayed
  keys := fun level other => (second.keys level other).trans (first.keys level other)
  installed := second.installed.trans first.installed
  closing := fun closing => second.closing (first.closing closing)

theorem Alike.inv (alike : Alike tls conn after) (inv : Inv tls conn) : Inv tls after where
  server := by rw [alike.isServer, alike.undecryptable]; exact inv.server
  client := by rw [alike.isServer, alike.undecryptable]; exact inv.client
  oneRtt := by rw [alike.installed, alike.keys .oneRtt (by decide)]; exact inv.oneRtt
  zeroRtt := by
    rw [alike.isServer, alike.installed, alike.keys .zeroRtt (by decide)]; exact inv.zeroRtt
  handshake := by
    rw [alike.isServer, alike.confirmed, alike.installed, alike.keys .handshake (by decide)]
    exact inv.handshake
  confirmed := by rw [alike.confirmed, alike.established]; exact inv.confirmed
  established := by rw [alike.established, alike.installed]; exact inv.established
  confirmed_empty := by
    rw [alike.isServer, alike.confirmed, alike.undecryptable]; exact inv.confirmed_empty
  typed := by rw [alike.undecryptable]; exact inv.typed
  history := by rw [alike.accepted, alike.replayed, alike.undecryptable]; exact inv.history

theorem Alike.kept (alike : Alike tls conn after) (inv : Inv tls conn) : Kept tls conn after where
  inv := alike.inv inv
  moves := {
    isServer := alike.isServer
    established := fun holds => alike.established.trans holds
    closing := alike.closing
    emptied := fun _ pktType empty => by rw [alike.undecryptable]; exact empty
    early := fun _ _ absent => (alike.keys .zeroRtt (by decide)).trans absent
    kept := fun level other key => .inl ((alike.keys level other).trans key)
    fresh := fun absent present => by
      rw [alike.established, absent] at present
      cases present }
  size := by rw [alike.undecryptable]

theorem Alike.live (alike : Alike tls conn after) (live : conn.Live) : after.Live := by
  intro key
  rw [alike.keys .oneRtt (by decide)] at key
  rw [alike.established]
  exact (live key).imp_right alike.closing

theorem Alike.drained (alike : Alike tls conn after) (drained : conn.Drained) : after.Drained := by
  intro pktType level of key
  rw [alike.undecryptable]
  by_cases initial : level = .initial
  · subst initial
    cases pktType <;> first | rfl | cases of
  · exact drained pktType level of ((alike.keys level initial).symm.trans key)

section

variable (conn : EarlyConn σ α π)

theorem Alike.close : Alike tls conn conn.close :=
  { Alike.refl conn with closing := fun _ => rfl }

theorem Alike.setInitial (present : Bool) : Alike tls conn (conn.setKey .initial present) :=
  { Alike.refl conn with keys := fun _ other => if_neg other }

theorem Alike.deriveInitialSecrets : Alike tls conn conn.deriveInitialSecrets := by
  unfold EarlyConn.deriveInitialSecrets
  split
  · exact .refl conn
  · exact { Alike.refl conn with keys := fun _ other => if_neg other }

theorem Alike.process : Alike tls conn (conn.tlsStep (tls.process conn.tls)) :=
  { (Alike.refl conn : Alike tls conn conn) with
    installed := tls.installed_process conn.tls
    keys := fun level _ => by simp [EarlyConn.tlsStep, tls.process_readSecrets] }

theorem Alike.clear : Alike tls conn { conn with tls := tls.clear conn.tls } :=
  { (Alike.refl conn : Alike tls conn conn) with installed := tls.installed_clear conn.tls }

end

theorem Kept.confirm (inv : Inv tls conn) (established : conn.established = true)
    (empty : conn.isServer = false → conn.undecryptable.pkts .handshake = []) :
    Kept tls conn { conn with confirmed := true } where
  inv := {
    inv with
    handshake := fun _ absent => nomatch absent
    confirmed := fun _ => established
    confirmed_empty := fun client _ => empty client }
  moves := { Moves.refl conn with fresh := (Moves.refl conn).fresh }
  size := Nat.le_refl _

theorem Kept.dropHandshake (inv : Inv tls conn) (confirmed : conn.confirmed = true) :
    Kept tls conn (conn.setKey .handshake false) where
  inv := {
    inv with
    handshake := fun _ absent => by
      change conn.confirmed = false at absent
      rw [confirmed] at absent
      cases absent }
  moves := {
    Moves.refl conn with
    kept := fun _ _ _ => .inr (inv.confirmed confirmed)
    fresh := fun absent => by rw [inv.confirmed confirmed] at absent; cases absent }
  size := Nat.le_refl _

theorem Kept.confirmHandshake (inv : Inv tls conn) (established : conn.established = true)
    (empty : conn.isServer = false → conn.undecryptable.pkts .handshake = []) :
    Kept tls conn conn.confirmHandshake :=
  have confirmed := Kept.confirm inv established empty
  confirmed.trans (.dropHandshake confirmed.inv rfl)

theorem keys_tlsStep (step : TlsStep σ) (level : Level) :
    (conn.tlsStep step).keys level = true ↔
      conn.keys level = true ∨
        (level ∈ step.readSecrets ∧ (level ≠ .zeroRtt ∨ conn.isServer = true)) := by
  simp [EarlyConn.tlsStep]

/-- Bytes for TLS may bring keys, but no packet is kept for them. -/
theorem Kept.provide (inv : Inv tls conn) (level : Level) (data : ι) :
    Kept tls conn (conn.tlsStep (tls.provide conn.tls level data)) where
  inv := {
    server := inv.server
    client := inv.client
    confirmed := inv.confirmed
    confirmed_empty := inv.confirmed_empty
    typed := inv.typed
    history := inv.history
    oneRtt := by
      rw [keys_tlsStep, ← inv.oneRtt]
      exact (tls.installed_provide _ _ _ _).trans
        (or_congr_right ⟨fun set => ⟨set, .inl (by decide)⟩, And.left⟩)
    zeroRtt := fun server installed => by
      rw [keys_tlsStep]
      exact ((tls.installed_provide _ _ _ _).mp installed).imp (inv.zeroRtt server)
        fun set => ⟨set, .inr server⟩
    handshake := fun client absent installed => by
      rw [keys_tlsStep]
      exact ((tls.installed_provide _ _ _ _).mp installed).imp (inv.handshake client absent)
        fun set => ⟨set, .inl (by decide)⟩
    established := fun established =>
      (inv.established established).imp (fun held => (tls.installed_provide _ _ _ _).mpr (.inl held))
        fun held => (tls.installed_provide _ _ _ _).mpr (.inl held) }
  moves := {
    Moves.refl conn with
    early := fun established server absent => by
      -- The 1-RTT key is there, so that a 0-RTT key would have been there as well.
      by_contra present
      rcases (keys_tlsStep _ _).mp (Bool.eq_true_of_not_eq_false present) with held | set
      · rw [absent] at held
        cases held
      · have installed := tls.last_readSecret _ _ _ _ (inv.established established).2 set.1
        rw [inv.zeroRtt server installed] at absent
        cases absent
    kept := fun _ _ key => .inl ((keys_tlsStep _ _).mpr (.inl key))
    fresh := fun absent present => by cases absent.symm.trans present }
  size := Nat.le_refl _

private theorem Inv.establish (inv : Inv tls conn) (completed : tls.completed conn.tls = true) :
    Inv tls { conn with established := true } :=
  { inv with
    confirmed := fun _ => rfl
    established := fun _ => tls.installed_of_completed _ completed }

/-! ## Frames -/

/-- `replay` takes out what can be opened, if the connection keeps fewer than `room` packets. -/
def Replays (tls : TlsLibrary σ ι) (room : Nat)
    (replay : EarlyConn σ α π → Option (EarlyConn σ α π)) : Prop :=
  ∀ conn, Inv tls conn → conn.Live → conn.undecryptable.size < room →
    ∃ after, replay conn = some after ∧ Kept tls conn after ∧ after.Live ∧ after.Drained

/-- A step that keeps no packets came to its end. After an error that closes the connection it need
not be live. -/
def Goes (tls : TlsLibrary σ ι) (conn : EarlyConn σ α π) :
    Option (Except Error Unit × EarlyConn σ α π) → Prop :=
  Fuelled.Ends (fun after => Kept tls conn after ∧ after.Live)
    (fun error after => Kept tls conn after ∧ (error = .done → after.Live))

variable {result : Except Error Unit}

theorem Goes.of_result (kept : Kept tls conn after)
    (live : after.Live) : Goes tls conn (some (result, after)) := by
  cases result with
  | ok value => exact ⟨kept, live⟩
  | error error => exact ⟨kept, fun _ => live⟩

theorem Goes.trans {outcome : Option (Except Error Unit × EarlyConn σ α π)}
    (kept : Kept tls conn mid) (goes : Goes tls mid outcome) : Goes tls conn outcome :=
  goes.mono (fun _ ends => ⟨kept.trans ends.1, ends.2⟩) fun _ _ ends => ⟨kept.trans ends.1, ends.2⟩

variable {replay : EarlyConn σ α π → Option (EarlyConn σ α π)} {room : Nat}

private theorem processTlsSession_goes (replays : Replays tls room replay) (inv : Inv tls conn)
    (few : conn.undecryptable.size < room) (read : CryptoRead ι)
    (waits : result = .error .done → conn.Live)
    (ready : result = .ok () → tls.completed conn.tls = false → conn.Live) :
    Goes tls conn (processTlsSession tls replay read result conn) := by
  unfold processTlsSession
  split
  next established => exact .of_result (.refl inv) fun _ => .inl established
  next absent =>
    split
    · exact .of_result (.refl inv) (waits rfl)
    next error other => exact ⟨.refl inv, fun same => absurd same other⟩
    next value =>
      split
      · exact ⟨.refl inv, fun same => nomatch same⟩
      split
      next completed =>
        obtain ⟨after, replayed, kept, live, drained⟩ :=
          replays { conn with established := true } (inv.establish completed) (fun _ => .inl rfl) few
        rw [replayed]
        have whole : Kept tls conn after := {
          kept with
          moves := {
            isServer := kept.moves.isServer
            established := fun _ => kept.moves.established rfl
            closing := kept.moves.closing
            emptied := fun _ => kept.moves.emptied rfl
            early := fun _ => kept.moves.early rfl
            kept := kept.moves.kept
            fresh := fun _ _ => drained } }
        have established := kept.moves.established rfl
        dsimp only
        split
        next server =>
          have confirmed := Kept.confirmHandshake kept.inv established fun client => by
            rw [server] at client
            cases client
          exact .of_result (whole.trans confirmed) fun _ => .inl established
        · exact .of_result whole live
      next pending => exact ⟨.refl inv, ready rfl (Bool.eq_false_of_not_eq_true pending)⟩

/-- Bytes for TLS; when they complete the handshake, what was kept is replayed. -/
theorem recvCrypto_goes (replays : Replays tls room replay) (inv : Inv tls conn) (live : conn.Live)
    (few : conn.undecryptable.size < room) (level : Level) (read : CryptoRead ι) :
    Goes tls conn (recvCrypto tls replay level read conn) := by
  have provided := Kept.provide inv level read.data
  have unset (absent : .oneRtt ∉ (tls.provide conn.tls level read.data).readSecrets) :
      (conn.tlsStep (tls.provide conn.tls level read.data)).Live := by
    intro key
    rcases (keys_tlsStep _ _).mp key with held | set
    · exact live held
    · exact absurd set.1 absent
  have completes := tls.oneRtt_completes conn.tls level read.data
  unfold recvCrypto
  refine .trans provided (processTlsSession_goes replays provided.inv few read ?_ ?_)
  · exact fun waits => unset fun set => (completes set).1 waits
  · intro succeeded pending
    refine unset fun set => ?_
    have completed := (completes set).2 succeeded
    change tls.completed (tls.provide conn.tls level read.data).state = false at pending
    rw [pending] at completed
    cases completed

/-- 1-RTT packets are opened after the handshake, when a client keeps no Handshake packets. -/
def Ready (conn : EarlyConn σ α π) (pktType : PacketType) : Prop :=
  pktType = .oneRtt → conn.established = true ∧
    (conn.isServer = false → conn.undecryptable.pkts .handshake = [])

theorem Kept.ready (kept : Kept tls conn after)
    (ready : conn.Ready pktType) : after.Ready pktType := by
  intro oneRtt
  obtain ⟨established, empty⟩ := ready oneRtt
  refine ⟨kept.moves.established established, fun client => ?_⟩
  exact kept.moves.emptied established _ (empty (kept.moves.isServer.symm.trans client))

theorem Kept.acknowledged (inv : Inv tls conn) (live : conn.Live) (ready : conn.established = true ∧
      (conn.isServer = false → conn.undecryptable.pkts .handshake = [])) (oneRtt : Bool) :
    Kept tls conn (conn.acknowledged oneRtt) ∧ (conn.acknowledged oneRtt).Live := by
  unfold EarlyConn.acknowledged
  split
  · exact ⟨.confirm inv ready.1 ready.2, live⟩
  · exact ⟨.refl inv, live⟩

/-- One case for each frame that bears on the handshake. -/
theorem recvFrame_goes (replays : Replays tls room replay) (inv : Inv tls conn) (live : conn.Live)
    (few : conn.undecryptable.size < room) (ready : conn.Ready pktType)
    (level : Level) (frame : HandshakeFrame ι) :
    Goes tls conn (recvFrame tls replay pktType level frame conn) := by
  unfold recvFrame
  split
  next reads =>
    split
    · exact .of_result (.refl inv) live
    · refine (Fuelled.ends_each (fun read mid holds => ?_) ⟨.refl inv, live⟩ : Goes tls conn _)
      exact Goes.trans holds.1
        (recvCrypto_goes replays holds.1.inv holds.2 (holds.1.size.trans_lt few) level read)
  · split
    · exact .of_result (.refl inv) live
    next allowed =>
      simp only [Bool.or_eq_true, decide_eq_true_eq, not_or, Decidable.not_not] at allowed
      obtain ⟨established, empty⟩ := ready allowed.1
      exact ⟨.confirmHandshake inv established empty, fun _ => .inl established⟩
  next oneRtt result =>
    split
    · exact .of_result (.refl inv) live
    have marked : Kept tls conn (if pktType = .oneRtt then conn.acknowledged oneRtt else conn) ∧
        (if pktType = .oneRtt then conn.acknowledged oneRtt else conn).Live := by
      split
      next same => exact Kept.acknowledged inv live (ready same) oneRtt
      · exact ⟨.refl inv, live⟩
    dsimp only
    generalize (if pktType = .oneRtt then conn.acknowledged oneRtt else conn) = mid at marked ⊢
    split
    · exact ⟨marked.1, fun _ => marked.2⟩
    · split
      next confirmed =>
        refine ⟨marked.1.trans (.dropHandshake marked.1.inv confirmed), ?_⟩
        exact fun _ => .inl (marked.1.inv.confirmed confirmed)
      · exact marked
  · exact ⟨(Alike.close conn).kept inv, fun _ => .inr rfl⟩
  · exact .of_result (.refl inv) live

/-! ## Packets -/

variable (passes : Nat → Passage ι)

/-- The frames of a packet that was opened, one after the other. -/
theorem recvOpened_goes (replays : Replays tls room replay) (inv : Inv tls conn) (live : conn.Live)
    (few : conn.undecryptable.size < room) (ready : conn.Ready pktType)
    (passage : Passage ι) (level : Level) :
    Goes tls conn (recvOpened tls replay passage pktType level conn) := by
  have checked (result : Except Error Unit) {mid : EarlyConn σ α π}
      (holds : Kept tls conn mid ∧ mid.Live) : Goes tls conn (Fuelled.ofExcept result mid) :=
    .of_result holds.1 holds.2
  refine Fuelled.Ends.andThen (checked passage.opening ⟨.refl inv, live⟩) fun opened holds => ?_
  refine Fuelled.Ends.andThen (Fuelled.ends_each
    (fun frame mid (holds : Kept tls conn mid ∧ mid.Live) => ?_) holds) fun received holds => ?_
  · exact Goes.trans holds.1 (recvFrame_goes replays holds.1.inv holds.2
      (holds.1.size.trans_lt few) (holds.1.ready ready) level frame)
  refine Fuelled.Ends.andThen (checked passage.finish holds) fun finished holds => ?_
  split
  · have dropped : Alike tls finished _ := .setInitial finished false
    exact ⟨holds.1.trans (dropped.kept holds.1.inv), dropped.live holds.2⟩
  · exact holds

theorem Goes.of_alike {result : Except Error Unit} (inv : Inv tls conn) (live : conn.Live)
    (alike : Alike tls conn after) : Goes tls conn (some (result, after)) :=
  .of_result (alike.kept inv) (alike.live live)

private theorem processReset_goes (inv : Inv tls conn) (live : conn.Live) (passage : Passage ι) :
    Goes tls conn (processReset tls passage conn) := by
  unfold processReset
  split
  · exact .of_alike inv live (.refl conn)
  split
  · exact .of_alike inv live (.refl conn)
  have cleared : Alike tls conn _ := (Alike.setInitial conn false).trans (.clear _)
  dsimp only
  split
  · exact .of_alike inv live cleared
  · exact .of_alike inv live ((cleared.trans (.setInitial _ true)).trans (.process _))

/-- One more packet is kept. -/
structure Buffered (tls : TlsLibrary σ ι) (conn after : EarlyConn σ α π) : Prop where
  inv : Inv tls after
  moves : Moves conn after
  live : after.Live
  absent : conn.established = false
  size : after.undecryptable.size = conn.undecryptable.size + 1

private theorem Buffered.after_kept (kept : Kept tls conn mid) (buffered : Buffered tls mid after)
    (absent : conn.established = false) (size : mid.undecryptable.size = conn.undecryptable.size) :
    Buffered tls conn after where
  inv := buffered.inv
  moves := kept.moves.trans buffered.moves kept.inv buffered.inv
  live := buffered.live
  absent := absent
  size := by rw [buffered.size, size]

/-- A packet without a key goes behind the others of its type. -/
theorem Buffered.push (inv : Inv tls conn) (live : conn.Live) (absent : conn.established = false)
    {pkt : EarlyPacket α π} {packets : EarlyPackets (EarlyPacket α π)}
    (taken : conn.undecryptable.push pkt.pktType pkt = some packets)
    (server : conn.isServer = true → pkt.pktType ≠ .handshake)
    (client : conn.isServer = false → pkt.pktType ≠ .zeroRtt) :
    Buffered tls conn
      { conn with undecryptable := packets, accepted := record conn.accepted pkt } := by
  obtain ⟨last, size, others⟩ := EarlyPackets.push_eq_some taken
  refine ⟨{ inv with server := ?_, client := ?_, confirmed_empty := ?_, typed := ?_, history := ?_ },
    { Moves.refl conn with emptied := ?_, fresh := ?_ }, live, absent, size⟩
  · exact fun role => (others _ (server role).symm).trans (inv.server role)
  · exact fun role => (others _ (client role).symm).trans (inv.client role)
  · intro _ confirmed
    rw [inv.confirmed confirmed] at absent
    cases absent
  · intro pktType held member
    by_cases same : pktType = pkt.pktType
    · subst same
      rw [last, List.mem_append, List.mem_singleton] at member
      rcases member with before | rfl
      · exact inv.typed _ held before
      · rfl
    · rw [others pktType same] at member
      exact inv.typed pktType held member
  · intro pktType
    by_cases same : pktType = pkt.pktType
    · subst same
      simp only [record, if_pos, last, inv.history pkt.pktType, List.append_assoc]
    · simp only [record, if_neg same, others pktType same, inv.history pktType]
  · intro present
    rw [present] at absent
    cases absent
  · intro _ present
    rw [present] at absent
    cases absent

private theorem tryBuffer_cases (inv : Inv tls conn) (live : conn.Live) (pkt : EarlyPacket α π) :
    conn.tryBufferUndecryptablePackets pkt = conn ∨
      Buffered tls conn (conn.tryBufferUndecryptablePackets pkt) := by
  unfold tryBufferUndecryptablePackets
  split
  · exact .inl rfl
  next allowed =>
    simp only [Bool.or_eq_true, Bool.and_eq_true, Bool.not_eq_true', decide_eq_true_eq, not_or,
      not_and, Decidable.not_not] at allowed
    split
    · exact .inl rfl
    next taken =>
      refine .inr (.push inv live (Bool.eq_false_of_not_eq_true allowed.1.1) taken ?_ ?_)
      · intro server handshake
        have oneRtt := allowed.1.2 ⟨server, by rw [handshake]; decide⟩
        rw [handshake] at oneRtt
        cases oneRtt
      · intro client zeroRtt
        have oneRtt := allowed.2 ⟨client, by rw [zeroRtt]; decide⟩
        rw [zeroRtt] at oneRtt
        cases oneRtt

/-- A packet of the type is not kept now. -/
def Opened (conn : EarlyConn σ α π) (pktType : PacketType) : Prop :=
  conn.closing = true ∨ conn.established = true ∨
    ∀ level, pktType.toLevel = .ok level → level ≠ .initial ∧ conn.keys level = true

theorem Moves.opened (moves : Moves conn after) {pktType : PacketType}
    (opened : conn.Opened pktType) : after.Opened pktType := by
  rcases opened with closing | established | key
  · exact .inl (moves.closing closing)
  · exact .inr (.inl (moves.established established))
  · cases held : after.established with
    | true => exact .inr (.inl held)
    | false =>
      refine .inr (.inr fun level of => ⟨(key level of).1, ?_⟩)
      rcases moves.kept level (key level of).1 (key level of).2 with kept | established
      · exact kept
      · rw [held] at established
        cases established

/-- What a 1-RTT packet relies on when it comes in. -/
def Prepared (conn : EarlyConn σ α π) (pktType : PacketType) : Prop :=
  pktType = .oneRtt → conn.established = true → conn.isServer = false →
    conn.undecryptable.pkts .handshake = []

/-- A packet comes to its end, or it is kept, and then there was no key for it. -/
theorem recvPacket_cases (replays : Replays tls room replay) (inv : Inv tls conn)
    (live : conn.Live) (few : conn.undecryptable.size < room) (pkt : EarlyPacket α π)
    (prepared : conn.Prepared pkt.pktType) :
    Goes tls conn (recvPacket tls passes replay pkt conn) ∨
      ¬conn.Opened pkt.pktType ∧ ∃ after,
        recvPacket tls passes replay pkt conn = some (.ok (), after) ∧ Buffered tls conn after := by
  have counted : Alike tls conn { conn with calls := conn.calls + 1 } :=
    { Alike.refl conn with closing := id }
  unfold recvPacket
  dsimp only
  split
  · exact .inl (.of_alike inv live counted)
  next alive =>
    split
    · exact .inl (.of_alike inv live counted)
    split
    · exact .inl (.trans (counted.kept inv) (processReset_goes (counted.inv inv) (counted.live live) _))
    next level of =>
      have derived := counted.trans (.deriveInitialSecrets { conn with calls := conn.calls + 1 })
      generalize EarlyConn.deriveInitialSecrets _ = ready at derived ⊢
      have inv' := derived.inv inv
      have live' := derived.live live
      split
      next key =>
        refine .inl (.trans (derived.kept inv) (recvOpened_goes replays inv' live'
          (by rw [derived.undecryptable]; exact few) ?_ _ level))
        intro oneRtt
        rw [oneRtt] at of
        cases of
        rw [derived.keys .oneRtt (by decide)] at key
        have established := (live key).resolve_right alive
        rw [derived.established, derived.isServer, derived.undecryptable]
        exact ⟨established, prepared oneRtt established⟩
      next absent =>
        rcases tryBuffer_cases inv' live' pkt with same | buffered
        · rw [same]
          exact .inl (.of_alike inv live derived)
        · refine .inr ⟨?_, _, rfl, .after_kept (derived.kept inv) buffered
            (derived.established.symm.trans buffered.absent) (by rw [derived.undecryptable])⟩
          rintro (closing | established | opened)
          · exact alive closing
          · rw [derived.established.symm.trans buffered.absent] at established
            cases established
          · obtain ⟨other, key⟩ := opened level of
            exact absent ((derived.keys level other).trans key)

/-! ## Datagrams -/

theorem Moves.settled (moves : Moves conn after) (inv : Inv tls conn) (later : Inv tls after)
    (settled : conn.established = true → conn.Drained) (established : after.established = true) :
    after.Drained := by
  cases held : conn.established with
  | true => exact moves.drained inv later held (settled held)
  | false => exact moves.fresh held established

theorem Inv.prepared (inv : Inv tls conn) (settled : conn.established = true → conn.Drained)
    (pktType : PacketType) : conn.Prepared pktType :=
  fun _ established client =>
    inv.handshake_empty established client (settled established .handshake .handshake rfl)

/-- The packets of a datagram were received, and at most `bound` packets are kept. -/
structure Within (tls : TlsLibrary σ ι) (bound : Nat) (conn after : EarlyConn σ α π) : Prop where
  inv : Inv tls after
  moves : Moves conn after
  size : after.undecryptable.size ≤ bound

theorem Kept.within (kept : Kept tls conn after) : Within tls conn.undecryptable.size conn after :=
  ⟨kept.inv, kept.moves, kept.size⟩

theorem Within.mono {bound larger : Nat} (within : Within tls bound conn after)
    (le : bound ≤ larger) : Within tls larger conn after :=
  ⟨within.inv, within.moves, within.size.trans le⟩

theorem Within.kept {bound : Nat} (within : Within tls bound conn mid)
    (kept : Kept tls mid after) : Within tls bound conn after :=
  ⟨kept.inv, within.moves.trans kept.moves within.inv kept.inv, kept.size.trans within.size⟩

/-- A datagram was received. -/
structure Receives (tls : TlsLibrary σ ι) (bound : Nat) (conn : EarlyConn σ α π)
    (received : Received) (after : EarlyConn σ α π) : Prop extends
    Within tls bound conn after where
  live : after.Live
  processed : received = .processed → (conn.established = true → conn.Drained) → after.Drained
  failed : ∀ error, received = .failed error → conn.closing = false ∧ after.closing = true
  same : received = .empty ∨ received = .discarded → after = conn

private theorem each_recvPacket_closing (closing : conn.closing = true) (pkt : EarlyPacket α π)
    (rest : List (EarlyPacket α π)) :
    Fuelled.each (recvPacket tls passes replay) (pkt :: rest) conn =
      some (.error .done, { conn with calls := conn.calls + 1 }) := by
  have first : recvPacket tls passes replay pkt conn =
      some (.error .done, { conn with calls := conn.calls + 1 }) := if_pos closing
  change Fuelled.continueWith _ (recvPacket tls passes replay pkt conn) = _
  rw [first]
  rfl

private theorem fatal_eq_some {error : Error}
    (some : fatal result = some error) : result = .error error ∧ error ≠ .done := by
  unfold fatal at some
  split at some <;> cases some
  next other => exact ⟨rfl, other⟩

private theorem ends_of_fatal_eq_none {good live : EarlyConn σ α π → Prop}
    (ends : Fuelled.Ends (fun mid => good mid ∧ live mid)
      (fun error mid => good mid ∧ (error = .done → live mid)) (some (result, mid)))
    (none : fatal result = none) : good mid ∧ live mid := by
  unfold fatal at none
  split at none
  · exact ends
  · exact ⟨ends.1, ends.2 rfl⟩
  · cases none

/-- A packet that is taken out counts as replayed. -/
theorem Kept.pop (inv : Inv tls conn) {pkt : EarlyPacket α π}
    {rest : EarlyPackets (EarlyPacket α π)}
    (taken : conn.undecryptable.pop pktType = some (pkt, rest)) :
    Kept tls conn { conn with undecryptable := rest, replayed := record conn.replayed pkt } := by
  obtain ⟨first, size, others⟩ := EarlyPackets.pop_eq_some taken
  have typed : pkt.pktType = pktType := inv.typed pktType pkt (first ▸ List.mem_cons_self)
  refine ⟨{ inv with
    server := fun role => EarlyPackets.empty_of_pop taken (inv.server role)
    client := fun role => EarlyPackets.empty_of_pop taken (inv.client role)
    confirmed_empty := fun role confirmed =>
      EarlyPackets.empty_of_pop taken (inv.confirmed_empty role confirmed)
    typed := fun other held member =>
      inv.typed other held (EarlyPackets.mem_of_pop taken member)
    history := fun other => ?_ }, { Moves.refl conn with
    emptied := fun _ _ => EarlyPackets.empty_of_pop taken
    fresh := fun absent present => by cases absent.symm.trans present }, ?_⟩
  · by_cases same : other = pktType
    · subst same
      simp only [record, typed, if_pos, inv.history other, first, List.append_assoc,
        List.singleton_append]
    · simp only [record, typed, if_neg same, others other same, inv.history other]
  · change rest.size ≤ conn.undecryptable.size
    omega

theorem Moves.prepared (moves : Moves conn after) (later : Inv tls after)
    (prepared : conn.Prepared pktType) : after.Prepared pktType := by
  intro oneRtt established client
  cases held : conn.established with
  | true =>
    have empty := prepared oneRtt held (moves.isServer.symm.trans client)
    exact moves.emptied held .handshake empty
  | false =>
    exact later.handshake_empty established client
      (moves.fresh held established .handshake .handshake rfl)

private theorem Opened.closing_or_established (opened : conn.Opened .oneRtt) (live : conn.Live) :
    conn.established = true ∨ conn.closing = true := by
  rcases opened with closing | established | key
  · exact .inr closing
  · exact .inl established
  · exact live (key .oneRtt rfl).2

theorem Receives.clear {bound : Nat} {received : Received}
    (receives : Receives tls bound conn received after) (inv : Inv tls conn)
    (ended : conn.established = true ∨ conn.closing = true)
    (clear : conn.Clear pktType) : after.Clear pktType := by
  cases established : conn.established with
  | true => exact receives.moves.clear inv receives.inv established clear
  | false =>
    have closing := ended.resolve_left (by rw [established]; decide)
    cases received with
    | empty => exact (receives.same (.inl rfl)) ▸ clear
    | discarded => exact (receives.same (.inr rfl)) ▸ clear
    | processed =>
      refine receives.processed rfl (fun present => ?_) pktType
      rw [established] at present
      cases present
    | failed error =>
      have := (receives.failed error rfl).1
      rw [closing] at this
      cases this

variable {recv : EarlyPacket α π → EarlyConn σ α π → Option (EarlyConn σ α π)}

/-- `recv` receives packets that were kept. -/
def ReceivesKept (tls : TlsLibrary σ ι) (room : Nat)
    (recv : EarlyPacket α π → EarlyConn σ α π → Option (EarlyConn σ α π)) : Prop :=
  ∀ pkt conn, Inv tls conn → conn.Live → conn.undecryptable.size < room →
    conn.Opened pkt.pktType → conn.Prepared pkt.pktType →
      ∃ received after, recv pkt conn = some after ∧
        Receives tls conn.undecryptable.size conn received after

theorem Receives.kept {received : Received}
    (receives : Receives tls conn.undecryptable.size conn received after) : Kept tls conn after :=
  ⟨receives.inv, receives.moves, receives.size⟩

private theorem replayAll_ends (receives : ReceivesKept tls room recv) (inv : Inv tls conn)
    (live : conn.Live) (few : conn.undecryptable.size ≤ room)
    (opened : conn.Opened pktType) (prepared : conn.Prepared pktType) {fuel : Nat}
    (enough : conn.undecryptable.size < fuel) :
    ∃ after, replayAll recv pktType fuel conn = some after ∧ Kept tls conn after ∧ after.Live ∧
      after.undecryptable.pkts pktType = [] ∧
      (pktType = .oneRtt → ∀ other, conn.Clear other → after.Clear other) := by
  induction fuel generalizing conn with
  | zero => cases enough
  | succ fuel ih =>
    unfold replayAll
    cases taken : conn.undecryptable.pop pktType with
    | none =>
      exact ⟨conn, rfl, .refl inv, live, EarlyPackets.pop_eq_none taken, fun _ _ => id⟩
    | some popped =>
      obtain ⟨pkt, rest⟩ := popped
      have pop := Kept.pop inv taken
      obtain ⟨first, size, others⟩ := EarlyPackets.pop_eq_some taken
      have typed : pkt.pktType = pktType := inv.typed pktType pkt (first ▸ List.mem_cons_self)
      have opened' := pop.moves.opened opened
      have prepared' := pop.moves.prepared pop.inv prepared
      obtain ⟨received, mid, same, step⟩ := receives pkt
        { conn with undecryptable := rest, replayed := record conn.replayed pkt } pop.inv live
        (by change rest.size < room; omega) (by rw [typed]; exact opened')
        (by rw [typed]; exact prepared')
      obtain ⟨after, replayed, kept, lives, empty, clear⟩ := ih step.inv step.live
        (by have := step.size; change _ ≤ rest.size at this; omega) (step.moves.opened opened')
        (step.moves.prepared step.inv prepared')
        (by have := step.size; change _ ≤ rest.size at this; omega)
      dsimp only
      rw [same]
      refine ⟨after, replayed, (pop.trans step.kept).trans kept, lives, empty, ?_⟩
      intro oneRtt other clears
      subst oneRtt
      exact clear rfl other (step.clear pop.inv (opened'.closing_or_established live)
        fun level of key => EarlyPackets.empty_of_pop taken (clears level of key))

/-- A type is replayed to its last packet, if the key is there. -/
theorem replayType_ends (receives : ReceivesKept tls room recv) (inv : Inv tls conn)
    (live : conn.Live) (few : conn.undecryptable.size ≤ room)
    (kind : pktType ≠ .initial) (prepared : conn.Prepared pktType) {fuel : Nat}
    (enough : conn.undecryptable.size < fuel) :
    ∃ after, replayType recv fuel conn pktType = some after ∧ Kept tls conn after ∧ after.Live ∧
      after.Clear pktType ∧ (pktType = .oneRtt → ∀ other, conn.Clear other → after.Clear other) := by
  have unchanged (clear : conn.Clear pktType) : ∃ after, some conn = some after ∧
      Kept tls conn after ∧ after.Live ∧ after.Clear pktType ∧
        (pktType = .oneRtt → ∀ other, conn.Clear other → after.Clear other) :=
    ⟨conn, rfl, .refl inv, live, clear, fun _ _ => id⟩
  unfold replayType
  split
  next empty => exact unchanged fun _ _ _ => List.isEmpty_iff.mp empty
  split
  next error of => exact unchanged fun level of' => by rw [of] at of'; cases of'
  next level of =>
    have same {other : Level} (of' : pktType.toLevel = .ok other) : other = level := by
      rw [of] at of'
      exact (Except.ok.inj of').symm
    split
    next key =>
      have opened : conn.Opened pktType := by
        refine .inr (.inr fun other of' => ?_)
        rw [same of']
        refine ⟨?_, key⟩
        rintro rfl
        cases pktType <;> first | exact kind rfl | cases of
      obtain ⟨after, replayed, kept, lives, empty, clear⟩ :=
        replayAll_ends receives inv live few opened prepared enough
      exact ⟨after, replayed, kept, lives, fun _ _ _ => empty, clear⟩
    next absent =>
      refine unchanged fun other of' key => ?_
      rw [same of'] at key
      exact absurd key absent

def firstType (conn : EarlyConn σ α π) : PacketType := if conn.isServer then .zeroRtt else .handshake

private theorem replayedTypes_end (receives : ReceivesKept tls room recv) (inv : Inv tls conn)
    (live : conn.Live) (few : conn.undecryptable.size ≤ room) {fuel : Nat}
    (enough : conn.undecryptable.size < fuel) :
    ∃ after, conn.replayedTypes.foldlM (replayType recv fuel) conn = some after ∧
      Kept tls conn after ∧ after.Live ∧ after.Clear conn.firstType ∧ after.Clear .oneRtt := by
  have types : conn.replayedTypes = [conn.firstType, .oneRtt] := by
    unfold replayedTypes firstType
    split <;> rfl
  have kind : conn.firstType ≠ .initial ∧ conn.firstType ≠ .oneRtt := by
    unfold firstType
    split <;> decide
  obtain ⟨mid, first, kept, lives, clear, -⟩ := replayType_ends receives inv live few kind.1
    (fun oneRtt => absurd oneRtt kind.2) enough
  have prepared : mid.Prepared .oneRtt := by
    intro _ established client
    have handshake : conn.firstType = .handshake := by
      rw [firstType, ← kept.moves.isServer, client]
      rfl
    rw [handshake] at clear
    exact kept.inv.handshake_empty established client (clear .handshake rfl)
  obtain ⟨after, second, kept', lives', oneRtt, others⟩ := replayType_ends receives kept.inv lives
    (kept.size.trans few) (by decide) prepared (kept.size.trans_lt enough)
  rw [types]
  refine ⟨after, ?_, kept.trans kept', lives', others rfl _ clear, oneRtt⟩
  simp only [List.foldlM_cons, List.foldlM_nil, first, second, Option.bind_eq_bind,
    Option.bind_some, Option.pure_def]

theorem Inv.drained (inv : Inv tls conn) (first : conn.Clear conn.firstType)
    (oneRtt : conn.Clear .oneRtt) : conn.Drained := by
  unfold firstType at first
  intro pktType
  cases role : conn.isServer <;> simp only [role, if_true, if_false, Bool.false_eq_true] at first
  all_goals cases pktType
  all_goals first
    | exact first
    | exact oneRtt
    | exact fun _ _ _ => inv.server role
    | exact fun _ _ _ => inv.client role
    | exact fun _ _ _ => rfl

variable [DecidableEq α]

/-- `recv` returns if the packets of the datagram come to their end. -/
theorem recvWith_receives (replays : Replays tls room replay) {bound : Nat} (few : bound < room)
    (inv : Inv tls conn) (live : conn.Live) (held : conn.undecryptable.size ≤ bound)
    (datagram : EarlyDatagram α π)
    (packets : Fuelled.Ends (fun mid => Within tls bound conn mid ∧ mid.Live)
      (fun error mid => Within tls bound conn mid ∧ (error = .done → mid.Live))
      (Fuelled.each (recvPacket tls passes replay) datagram.packets conn)) :
    ∃ received after, recvWith tls passes replay datagram conn = some (received, after) ∧
      Receives tls bound conn received after := by
  have start : Within tls bound conn conn := ⟨inv, .refl conn, held⟩
  unfold recvWith
  split
  · exact ⟨_, _, rfl, start, live, nofun, nofun, fun _ => rfl⟩
  next listed =>
    split
    · exact ⟨_, _, rfl, start, live, nofun, nofun, fun _ => rfl⟩
    match outcome : Fuelled.each (recvPacket tls passes replay) datagram.packets conn with
    | none =>
      rw [outcome] at packets
      exact packets.elim
    | some (result, mid) =>
      rw [outcome] at packets
      dsimp only
      split
      next error failed =>
        obtain ⟨rfl, fatal⟩ := fatal_eq_some failed
        refine ⟨_, _, rfl, packets.1.kept ((Alike.close mid).kept packets.1.inv), fun _ => .inr rfl,
          nofun, fun _ _ => ⟨?_, rfl⟩, nofun⟩
        by_contra closing
        have filled : datagram.packets ≠ [] := by simpa [EarlyDatagram.packets] using listed
        obtain ⟨pkt, rest, consists⟩ := List.exists_cons_of_ne_nil filled
        rw [consists, each_recvPacket_closing passes (Bool.eq_true_of_not_eq_false closing)] at outcome
        cases outcome
        exact fatal rfl
      next fine =>
        have received := ends_of_fatal_eq_none packets fine
        split
        next established =>
          refine ⟨_, _, rfl, received.1, received.2, fun _ settled => ?_, nofun, nofun⟩
          exact received.1.moves.settled inv received.1.inv settled established
        next absent =>
          obtain ⟨after, replayed, kept, live, drained⟩ :=
            replays mid received.1.inv received.2 (received.1.size.trans_lt few)
          rw [replayed]
          exact ⟨_, _, rfl, received.1.kept kept, live, fun _ _ => drained, nofun, nofun⟩

private theorem recvWith_replayed (replays : Replays tls room replay) (inv : Inv tls conn)
    (live : conn.Live) (few : conn.undecryptable.size < room) (pkt : EarlyPacket α π)
    (opened : conn.Opened pkt.pktType) (prepared : conn.Prepared pkt.pktType) :
    ∃ received after,
      recvWith tls passes replay ⟨pkt.addr, [(pkt.pktType, pkt.bytes)]⟩ conn =
          some (received, after) ∧
        Receives tls conn.undecryptable.size conn received after := by
  refine recvWith_receives passes replays few inv live (Nat.le_refl _) _ ?_
  rcases recvPacket_cases passes replays inv live few pkt prepared with goes | kept
  · refine Fuelled.Ends.andThen (goes.mono (fun _ ends => ⟨ends.1.within, ends.2⟩)
      fun _ _ ends => ⟨ends.1.within, ends.2⟩) fun _ holds => holds
  · exact absurd opened kept.1

private theorem recvWith_arrived {datagram : EarlyDatagram α π}
    (replays : Replays tls (conn.undecryptable.size + datagram.pkts.length + 1) replay)
    (inv : Inv tls conn) (live : conn.Live) (settled : conn.established = true → conn.Drained) :
    ∃ received after, recvWith tls passes replay datagram conn = some (received, after) ∧
      Receives tls (conn.undecryptable.size + datagram.pkts.length) conn received after := by
  refine recvWith_receives passes replays (Nat.lt_succ_self _) inv live (Nat.le_add_right _ _) _ ?_
  generalize total : conn.undecryptable.size + datagram.pkts.length = bound at replays ⊢
  let left : List (EarlyPacket α π) → EarlyConn σ α π → Prop := fun rest mid =>
    Within tls (bound - rest.length) conn mid ∧ rest.length ≤ bound ∧ mid.Live
  refine (@Fuelled.ends_each_left _ _ _ _ _ left _ _ ?_ ?_).mono
    (fun mid ends => ⟨ends.1, ends.2.2⟩) fun _ _ ends => ends
  · rintro pkt rest mid ⟨within, room, live⟩
    rw [List.length_cons] at within room
    have few : mid.undecryptable.size < bound + 1 := by have := within.size; omega
    have prepared := within.inv.prepared
      (fun established => within.moves.settled inv within.inv settled established) pkt.pktType
    rcases recvPacket_cases passes replays within.inv live few pkt prepared with
      goes | ⟨-, after, received, buffered⟩
    · refine goes.mono (fun after ends => ?_) fun error after ends => ?_
      · exact ⟨(within.kept ends.1).mono (by omega), by omega, ends.2⟩
      · exact ⟨(within.kept ends.1).mono (by omega), ends.2⟩
    · rw [received]
      refine ⟨⟨buffered.inv, within.moves.trans buffered.moves within.inv buffered.inv, ?_⟩,
        by omega, buffered.live⟩
      rw [buffered.size]
      have := within.size
      omega
  · refine ⟨⟨inv, .refl conn, ?_⟩, ?_, live⟩
    · rw [EarlyDatagram.packets, List.length_map]
      omega
    · rw [EarlyDatagram.packets, List.length_map]
      omega

/-! ## Replay -/

private theorem receivesKept (replays : Replays tls room (replay : EarlyConn σ α π → _)) :
    ReceivesKept tls room fun pkt conn =>
      (recvWith tls passes replay ⟨pkt.addr, [(pkt.pktType, pkt.bytes)]⟩ conn).map Prod.snd := by
  intro pkt conn inv live few opened prepared
  obtain ⟨received, after, same, receives⟩ :=
    recvWith_replayed passes replays inv live few pkt opened prepared
  exact ⟨received, after, congrArg (Option.map Prod.snd) same, receives⟩

/-- The calls of each other come to an end, and what can be opened is taken out. -/
theorem tryProcess_replays (fuel : Nat) :
    Replays tls fuel
      (tryProcessUndecryptablePackets tls passes fuel : EarlyConn σ α π → Option _) := by
  induction fuel with
  | zero => exact fun _ _ _ few => absurd few (Nat.not_lt_zero _)
  | succ fuel ih =>
    intro conn inv live few
    unfold tryProcessUndecryptablePackets
    split
    next empty =>
      exact ⟨conn, rfl, .refl inv, live, fun pktType _ _ _ =>
        EarlyPackets.pkts_of_allEmpty empty pktType⟩
    obtain ⟨after, replayed, kept, lives, early, oneRtt⟩ :=
      replayedTypes_end (receivesKept passes ih) inv live (Nat.le_of_lt_succ few) few
    exact ⟨after, replayed, kept, lives, kept.inv.drained (by rwa [firstType, kept.moves.isServer]) oneRtt⟩

/-! ## Runs -/

/-- The invariant between datagrams. -/
structure Steady (tls : TlsLibrary σ ι) (conn : EarlyConn σ α π) : Prop where
  inv : Inv tls conn
  live : conn.Live
  settled : conn.established = true → conn.Drained
  drained : conn.closing = false → conn.Drained

omit [DecidableEq α] in
theorem Alike.steady (alike : Alike tls conn after) (steady : Steady tls conn) :
    Steady tls after where
  inv := alike.inv steady.inv
  live := alike.live steady.live
  settled := fun established =>
    alike.drained (steady.settled (alike.established.symm.trans established))
  drained := fun absent => by
    refine alike.drained (steady.drained ?_)
    by_contra closing
    rw [alike.closing (Bool.eq_true_of_not_eq_false closing)] at absent
    cases absent

omit [DecidableEq α] in
theorem new_steady {state : σ} (fresh : ∀ level, ¬tls.installed state level) (isServer : Bool)
    (addrs : List α) (capacity : Nat) :
    Steady tls (new isServer state addrs capacity : EarlyConn σ α π) := by
  have empty : ∀ pktType, (new isServer state addrs capacity : EarlyConn σ α π).undecryptable.pkts
      pktType = [] := fun pktType => by cases pktType <;> rfl
  refine ⟨⟨fun _ => rfl, fun _ => rfl, ?_, ?_, ?_, nofun, nofun, nofun, ?_, ?_⟩, ?_, nofun, ?_⟩
  · exact ⟨fun installed => absurd installed (fresh _), fun key => by simp [new] at key⟩
  · exact fun _ installed => absurd installed (fresh _)
  · exact fun _ _ installed => absurd installed (fresh _)
  · intro pktType pkt member
    rw [empty pktType] at member
    cases member
  · intro pktType
    rw [empty pktType]
    rfl
  · exact fun key => by simp [new] at key
  · exact fun _ pktType _ _ _ => empty pktType

/-- How `recv` ends in any state that is reached. -/
theorem recv_steady (steady : Steady tls conn) (datagram : EarlyDatagram α π) :
    ∃ received after, conn.recv tls passes datagram = some (received, after) ∧
      Steady tls after ∧ (received = .processed → after.Drained) ∧
      (received = .discarded → after = conn) := by
  obtain ⟨received, after, same, receives⟩ := recvWith_arrived passes
    (tryProcess_replays passes _) steady.inv steady.live steady.settled
  have settled := receives.moves.settled steady.inv receives.inv steady.settled
  refine ⟨received, after, same, ⟨receives.inv, receives.live, settled, ?_⟩,
    fun processed => receives.processed processed steady.settled,
    fun discarded => receives.same (.inr discarded)⟩
  intro absent
  cases received with
  | empty =>
    have unchanged := receives.same (.inl rfl)
    subst unchanged
    exact steady.drained absent
  | discarded =>
    have unchanged := receives.same (.inr rfl)
    subst unchanged
    exact steady.drained absent
  | processed => exact receives.processed rfl steady.settled
  | failed error =>
    rw [(receives.failed error rfl).2] at absent
    cases absent

variable {passes}

theorem Reachable.steady (reached : Reachable tls passes conn) : Steady tls conn := by
  induction reached with
  | new fresh isServer addrs capacity => exact new_steady fresh isServer addrs capacity
  | @step conn after op _ applied ih =>
    cases op with
    | recv datagram =>
      obtain ⟨received, next, same, steady, -⟩ := recv_steady passes ih datagram
      rw [apply, same] at applied
      cases applied
      exact steady
    | process =>
      cases applied
      exact (Alike.process conn).steady ih
    | dropInitial =>
      cases applied
      exact (Alike.setInitial conn false).steady ih
    | close =>
      cases applied
      exact (Alike.close conn).steady ih
    | setAddrs addrs =>
      cases applied
      exact ({ (Alike.refl conn : Alike tls conn conn) with closing := id } :
        Alike tls conn { conn with addrs := addrs }).steady ih

/-- After a datagram that `recv` takes, no packet is kept whose key is there, unless a client
discards the datagram while it closes. The packets of a type are taken out once, as they came. -/
theorem early_packets_replayed (reached : Reachable tls passes conn)
    (datagram : EarlyDatagram α π) :
    ∃ received after, conn.recv tls passes datagram = some (received, after) ∧
      (received.isOk = true →
        (received = .discarded ∧ conn.closing = true) ∨
          ∀ pktType level, pktType.toLevel = .ok level → after.keys level = true →
            after.undecryptable.pkts pktType = []) ∧
      ∀ pktType, after.accepted pktType = after.replayed pktType ++ after.undecryptable.pkts pktType := by
  have start := reached.steady
  obtain ⟨received, after, same, steady, processed, discarded⟩ :=
    recv_steady passes start datagram
  refine ⟨received, after, same, fun isOk => ?_, steady.inv.history⟩
  cases received with
  | empty => cases isOk
  | failed error => cases isOk
  | processed => exact .inr (processed rfl)
  | discarded =>
    cases closing : conn.closing with
    | true => exact .inl ⟨rfl, rfl⟩
    | false => exact .inr ((discarded rfl).symm ▸ start.drained closing)

/-! ### A client that fails after its Handshake key came -/

def twoMessages : TlsLibrary Nat Unit where
  provide state _ _ :=
    if state = 0 then ⟨1, .error .done, [.handshake]⟩
    else if state = 1 then ⟨2, .ok (), [.oneRtt]⟩
    else ⟨state, .ok (), []⟩
  process state := ⟨state, .error .done, []⟩
  clear state := state
  completed state := decide (2 ≤ state)
  installed state level := (level = .handshake ∧ 1 ≤ state) ∨ (level = .oneRtt ∧ 2 ≤ state)
  installed_provide state level data other := by
    by_cases first : state = 0
    · subst first
      cases other <;> simp
    by_cases second : state = 1
    · subst second
      cases other <;> simp
    · simp [first, second]
  installed_process _ := rfl
  installed_clear _ := rfl
  process_readSecrets _ := rfl
  last_readSecret state level data other installed set := by
    have later : 2 ≤ state := by simpa using installed
    have first : state ≠ 0 := by omega
    have second : state ≠ 1 := by omega
    simp [first, second] at set
  oneRtt_completes state level data set := by
    by_cases first : state = 0
    · simp [first] at set
    by_cases second : state = 1
    · simp [second]
    · simp [first, second] at set
  installed_of_completed state completed := by
    have later : 2 ≤ state := by simpa using completed
    exact ⟨.inl ⟨rfl, by omega⟩, .inr ⟨rfl, later⟩⟩

theorem twoMessages_fresh (level : Level) : ¬twoMessages.installed 0 level := by
  rintro (⟨-, later⟩ | ⟨-, later⟩) <;> cases later

def openedWith (frames : List (HandshakeFrame Unit)) : Passage Unit :=
  ⟨.ok (), .ok (), .ok (), .ok (), frames, .ok ()⟩

/-- The second packet brings the Handshake key and fails afterwards. -/
def failingPasses : Nat → Passage Unit
  | 1 => openedWith [.crypto [⟨(), true, .ok ()⟩], .other (.error .frameEncodingError)]
  | _ => openedWith []

/-- The Handshake packet is still kept when a datagram from elsewhere is discarded. -/
theorem kept_packet_not_replayed :
    ∃ conn after : EarlyConn Nat Nat Unit, Reachable twoMessages failingPasses conn ∧
      conn.recv twoMessages failingPasses ⟨2, [(.handshake, ())]⟩ = some (.discarded, after) ∧
      Received.discarded.isOk = true ∧ after.keys .handshake = true ∧
      after.undecryptable.pkts .handshake = [⟨.handshake, (), 1⟩] := by
  have start : Reachable twoMessages failingPasses (new false 0 [1] 10 : EarlyConn Nat Nat Unit) :=
    .new twoMessages_fresh false [1] 10
  have kept := start.next (.recv ⟨1, [(.handshake, ())]⟩) rfl
  have failed := kept.next (.recv ⟨1, [(.initial, ())]⟩) rfl
  exact ⟨_, _, failed, rfl, rfl, rfl, rfl⟩

/-- A Handshake packet and a 1-RTT packet come before the packet with the keys. -/
def completingPasses : Nat → Passage Unit
  | 2 => openedWith [.crypto [⟨(), true, .ok ()⟩]]
  | 3 => openedWith [.crypto [⟨(), true, .ok ()⟩]]
  | _ => openedWith []

/-- Both are replayed within one call. -/
theorem early_packets_replayed_completing :
    ∃ conn : EarlyConn Nat Nat Unit, Reachable twoMessages completingPasses conn ∧
      conn.undecryptable.size = 2 ∧
      ∃ received after, conn.recv twoMessages completingPasses ⟨1, [(.initial, ())]⟩ =
          some (received, after) ∧
        (received.isOk = true →
          (received = .discarded ∧ conn.closing = true) ∨
            ∀ pktType level, pktType.toLevel = .ok level → after.keys level = true →
              after.undecryptable.pkts pktType = []) ∧
        ∀ pktType,
          after.accepted pktType = after.replayed pktType ++ after.undecryptable.pkts pktType := by
  have start : Reachable twoMessages completingPasses (new false 0 [1] 10 : EarlyConn Nat Nat Unit) :=
    .new twoMessages_fresh false [1] 10
  have kept := start.next (.recv ⟨1, [(.handshake, ()), (.oneRtt, ())]⟩) rfl
  exact ⟨_, kept, rfl, early_packets_replayed kept ⟨1, [(.initial, ())]⟩⟩

end EarlyConn

end Tquic.Connection
