import Tquic.Connection.KeyUpdate

/-! Which key opens a 1-RTT packet, in every run of a connection and for packets in any
order. -/

set_option autoImplicit false

namespace Tquic.Connection

open Lib

variable {Opener Sealer : Type} {crypto : Crypto Opener Sealer}

namespace TlsSession

variable {session : TlsSession Opener Sealer}

theorem deriveKeys_eq {openKey : Opener} {sealKey : Sealer}
    (keys : session.keyCollection .oneRtt = ⟨some openKey, some sealKey⟩) :
    session.deriveKeys crypto = (do
      let nextOpen ← crypto.deriveOpen openKey
      let nextSeal ← crypto.deriveSeal sealKey
      pure ⟨some nextOpen, some nextSeal⟩) := by
  unfold deriveKeys
  rw [keys]

/-- New keys are derived from the keys of both directions. -/
theorem deriveKeys_ok {next : Keys Opener Sealer} (derived : session.deriveKeys crypto = .ok next) :
    ∃ openKey sealKey nextOpen nextSeal,
      session.keyCollection .oneRtt = ⟨some openKey, some sealKey⟩ ∧
        next = ⟨some nextOpen, some nextSeal⟩ := by
  cases keys : session.keyCollection .oneRtt with
  | mk knownOpen knownSeal =>
    cases knownOpen with
    | none => simp [deriveKeys, keys] at derived
    | some openKey =>
      cases knownSeal with
      | none => simp [deriveKeys, keys] at derived
      | some sealKey =>
        rw [deriveKeys_eq keys] at derived
        cases opened : crypto.deriveOpen openKey with
        | error error => simp [opened, bind, Except.bind] at derived
        | ok nextOpen =>
          cases sealed : crypto.deriveSeal sealKey with
          | error error => simp [opened, sealed, bind, Except.bind] at derived
          | ok nextSeal =>
            simp only [opened, sealed, bind, Except.bind, pure, Except.pure,
              Except.ok.injEq] at derived
            exact ⟨openKey, sealKey, nextOpen, nextSeal, rfl, derived.symm⟩

private theorem deriveKeys_congr {other : TlsSession Opener Sealer}
    (same : other.keyCollection .oneRtt = session.keyCollection .oneRtt) :
    other.deriveKeys crypto = session.deriveKeys crypto := by
  unfold deriveKeys
  rw [same]

/-- The keys that are kept for the next phase are derived from the current ones. -/
def NextDerived (crypto : Crypto Opener Sealer) (session : TlsSession Opener Sealer) : Prop :=
  ∀ next, session.nextKey = some next → session.deriveKeys crypto = .ok next

section

variable (kept : session.NextDerived crypto)

include kept

theorem takeNextKey_eq : session.takeNextKey crypto = session.deriveKeys crypto := by
  unfold takeNextKey
  cases found : session.nextKey with
  | none => rfl
  | some next => exact (kept next found).symm

theorem selectKey_session (confirmed enableMultipath : Bool)
    (hdr : PacketHeader) (space : KeySpace) :
    (session.selectKey crypto confirmed enableMultipath hdr space).2 = session ∨
      ∃ next, session.deriveKeys crypto = .ok next ∧
        (session.selectKey crypto confirmed enableMultipath hdr space).2 =
          { session with nextKey := some next } := by
  have nextSession : (session.selectNext crypto).2 = session ∨
      ∃ next, session.deriveKeys crypto = .ok next ∧
        (session.selectNext crypto).2 = { session with nextKey := some next } := by
    unfold selectNext
    rw [takeNextKey_eq kept]
    cases derived : session.deriveKeys crypto with
    | error error => exact .inl rfl
    | ok next => exact .inr ⟨next, rfl, rfl⟩
  unfold selectKey
  split
  · split
    · exact .inl rfl
    · exact .inl rfl
  · split
    · split
      · exact nextSession
      · exact .inl rfl
    · exact .inl rfl

theorem updateKey_eq {space : KeySpace} {updated : TlsSession Opener Sealer × KeySpace}
    (moved : session.updateKey crypto space = .ok updated) :
    ∃ next, session.deriveKeys crypto = .ok next ∧
      updated =
        ({ keyCollection := Function.update session.keyCollection .oneRtt next
           currentKeyPhase := !session.currentKeyPhase
           prevKey := some (session.keyCollection .oneRtt)
           nextKey := none },
          { space with firstPktNumRecv := none, firstPktNumSent := none }) := by
  unfold updateKey at moved
  rw [takeNextKey_eq kept] at moved
  cases derived : session.deriveKeys crypto with
  | error error =>
    rw [derived] at moved
    cases moved
  | ok next =>
    rw [derived] at moved
    cases moved
    exact ⟨next, rfl, rfl⟩

end

private theorem noteFirst_prev (timer : Option Instant) (space : KeySpace) (hdr : PacketHeader)
    (now : Instant) (maxPto : Option Duration) :
    (session.noteFirst timer space hdr now maxPto).1 =
      if session.currentKeyPhase = hdr.keyPhase then
        { space with firstPktNumRecv := some (space.firstPktNumRecv.getD hdr.pktNum) }
      else space := by
  unfold noteFirst
  cases space with
  | mk largestRx firstRecv firstSent win largestAcked =>
    cases firstRecv with
    | none =>
      by_cases same : session.currentKeyPhase = hdr.keyPhase
      · simp [same]
      · simp [same]
    | some first => simp

end TlsSession

namespace KeyConn

variable {conn : KeyConn Opener Sealer}

/-- The session holds the keys of the last two phases. -/
structure KeysKept (crypto : Crypto Opener Sealer) (tls : TlsSession Opener Sealer)
    (readKeys : List Opener) : Prop where
  current : (tls.keyCollection .oneRtt).openKey = readKeys.head?
  next : tls.NextDerived crypto
  prev : ∀ keys, tls.prevKey = some keys → ∃ current previous older,
    readKeys = current :: previous :: older ∧ keys.openKey = some previous

/-- The space of the application data holds the first packet of the current phase. -/
structure FirstKept (space : KeySpace) (received : List Numbered) : Prop where
  first : space.firstPktNumRecv = received.head?.map (·.encoded)
  short : ∀ packet ∈ received, packet.encoded ≤ packet.pktNum

structure Inv (crypto : Crypto Opener Sealer) (conn : KeyConn Opener Sealer) : Prop where
  keys : KeysKept crypto conn.tls conn.readKeys
  first : FirstKept (conn.spaces .data) conn.received
  confirmed : conn.confirmed = true → ∃ openKey sealKey,
    conn.tls.keyCollection .oneRtt = ⟨some openKey, some sealKey⟩

private theorem start_inv (disableEncryption : Bool) :
    Inv crypto (start disableEncryption : KeyConn Opener Sealer) where
  keys :=
    { current := rfl
      next := by
        intro next kept
        cases kept
      prev := by
        intro keys kept
        cases kept }
  first :=
    { first := rfl
      short := by
        intro packet member
        cases member }
  confirmed := by
    intro confirmed
    cases confirmed

namespace KeysKept

variable {tls : TlsSession Opener Sealer} {readKeys : List Opener}

section

variable (kept : KeysKept crypto tls readKeys)

include kept

theorem of_same {other : TlsSession Opener Sealer}
    (keys : other.keyCollection .oneRtt = tls.keyCollection .oneRtt)
    (next : other.nextKey = tls.nextKey) (prev : other.prevKey = tls.prevKey) :
    KeysKept crypto other readKeys where
  current := by rw [keys]; exact kept.current
  next := by
    intro found present
    rw [TlsSession.deriveKeys_congr keys]
    exact kept.next found (next ▸ present)
  prev := by
    intro found present
    exact kept.prev found (prev ▸ present)

theorem select (confirmed enableMultipath : Bool) (hdr : PacketHeader) (space : KeySpace) :
    KeysKept crypto (tls.selectKey crypto confirmed enableMultipath hdr space).2 readKeys := by
  cases TlsSession.selectKey_session kept.next confirmed enableMultipath hdr space with
  | inl same =>
    rw [same]
    exact kept
  | inr derivedNext =>
    obtain ⟨next, derived, same⟩ := derivedNext
    rw [same]
    exact
      { current := kept.current
        next := by
          intro found present
          cases present
          exact derived
        prev := kept.prev }

theorem update {space : KeySpace} {updated : TlsSession Opener Sealer × KeySpace}
    (moved : tls.updateKey crypto space = .ok updated) :
    KeysKept crypto updated.1 ((updated.1.keyCollection .oneRtt).openKey.toList ++ readKeys) := by
  obtain ⟨next, derived, same⟩ := TlsSession.updateKey_eq kept.next moved
  obtain ⟨openKey, sealKey, nextOpen, nextSeal, current, derivedKeys⟩ :=
    TlsSession.deriveKeys_ok derived
  have head : readKeys.head? = some openKey := by
    rw [← kept.current, current]
  cases same
  cases derivedKeys
  constructor
  · simp
  · intro found present
    cases present
  · intro keys present
    cases present
    cases readKeys with
    | nil => cases head
    | cons first older =>
      cases head
      exact ⟨nextOpen, openKey, older, by simp, by rw [current]⟩

theorem discard :
    KeysKept crypto { tls with prevKey := none } readKeys where
  current := kept.current
  next := kept.next
  prev := by
    intro keys present
    cases present

/-- No key of another phase is known before the first ones. -/
theorem nextKey_none (missing : (tls.keyCollection .oneRtt).openKey = none ∨
      (tls.keyCollection .oneRtt).sealKey = none) : tls.nextKey = none := by
  cases found : tls.nextKey with
  | none => rfl
  | some next =>
    obtain ⟨openKey, sealKey, _, _, known, _⟩ :=
      TlsSession.deriveKeys_ok (kept.next next found)
    rw [known] at missing
    cases missing with
    | inl missing => cases missing
    | inr missing => cases missing

private theorem prevKey_none
    (missing : (tls.keyCollection .oneRtt).openKey = none) : tls.prevKey = none := by
  cases found : tls.prevKey with
  | none => rfl
  | some keys =>
    obtain ⟨current, previous, older, shape, _⟩ := kept.prev keys found
    rw [kept.current, shape] at missing
    cases missing

private theorem setRead (missing : (tls.keyCollection .oneRtt).openKey = none) (key : Opener) :
    KeysKept crypto (tls.setKeys .oneRtt { tls.keyCollection .oneRtt with openKey := some key })
      [key] where
  current := by simp [TlsSession.setKeys]
  next := by
    intro next found
    cases (kept.nextKey_none (.inl missing)).symm.trans found
  prev := by
    intro keys found
    cases (kept.prevKey_none missing).symm.trans found

private theorem setWrite (missing : (tls.keyCollection .oneRtt).sealKey = none) (key : Sealer) :
    KeysKept crypto (tls.setKeys .oneRtt { tls.keyCollection .oneRtt with sealKey := some key })
      readKeys where
  current := by
    simp only [TlsSession.setKeys, Function.update_self]
    exact kept.current
  next := by
    intro next found
    cases (kept.nextKey_none (.inr missing)).symm.trans found
  prev := kept.prev

end

end KeysKept

namespace FirstKept

variable {space : KeySpace} {received : List Numbered}

theorem of_same {other : KeySpace} (kept : FirstKept space received)
    (same : other.firstPktNumRecv = space.firstPktNumRecv) : FirstKept other received where
  first := by rw [same]; exact kept.first
  short := kept.short

theorem none {other : KeySpace} (missing : other.firstPktNumRecv = none) : FirstKept other [] where
  first := missing
  short := by
    intro packet member
    cases member

theorem note (kept : FirstKept space received) (session : TlsSession Opener Sealer)
    (timer : Option Instant) {hdr : PacketHeader} {pktNum : Nat} (short : hdr.pktNum ≤ pktNum)
    (now : Instant) (maxPto : Option Duration) :
    FirstKept (session.noteFirst timer space hdr now maxPto).1
      (received ++ (if session.currentKeyPhase = hdr.keyPhase then [⟨hdr.pktNum, pktNum⟩] else [])) := by
  rw [TlsSession.noteFirst_prev]
  by_cases same : session.currentKeyPhase = hdr.keyPhase
  · rw [if_pos same, if_pos same]
    constructor
    · cases received with
      | nil => simp [kept.first]
      | cons first rest => simp [kept.first]
    · intro packet member
      cases List.mem_append.mp member with
      | inl old => exact kept.short packet old
      | inr new =>
        cases List.mem_singleton.mp new
        exact short
  · rw [if_neg same, if_neg same, List.append_nil]
    exact kept

end FirstKept

/-! ## What one step keeps -/

/-- The number in a header is not larger than the full packet number. -/
theorem unmask_short {packet : PacketIn} {key : Opener} {unmasked : Unmasked}
    (removed : conn.unmask crypto packet key = .ok unmasked) :
    unmasked.hdr.pktType = packet.pktType ∧ unmasked.hdr.pktNum ≤ unmasked.pktNum ∧
      conn.getSpaceId packet = .ok unmasked.spaceId := by
  unfold unmask at removed
  cases decrypted : decryptHeader (crypto.newMask key) packet.buf packet.pktNumOffset packet.pktType
      (conn.isEncryptionDisabled packet) with
  | error error => simp [decrypted] at removed
  | ok pair =>
    obtain ⟨mask, same⟩ := decryptHeader_eq decrypted
    cases found : conn.getSpaceId packet with
    | error error => simp [decrypted, found] at removed
    | ok spaceId =>
      simp only [decrypted, found] at removed
      split_ifs at removed
      cases removed
      cases same
      exact ⟨rfl, truncated_le_decodePacketNum (applyMask_short mask _ _ _), rfl⟩

section

variable (inv : Inv crypto conn)

include inv

theorem Inv.withTls {tls : TlsSession Opener Sealer} (kept : KeysKept crypto tls conn.readKeys)
    (keys : tls.keyCollection .oneRtt = conn.tls.keyCollection .oneRtt) :
    Inv crypto { conn with tls } where
  keys := kept
  first := inv.first
  confirmed := by
    intro confirmed
    rw [keys]
    exact inv.confirmed confirmed

private theorem selectKey_keys (unmasked : Unmasked) :
    (conn.selectKey crypto unmasked).2.keyCollection = conn.tls.keyCollection := by
  unfold selectKey
  cases TlsSession.selectKey_session inv.keys.next conn.confirmed conn.enableMultipath unmasked.hdr
      (conn.spaces unmasked.spaceId) with
  | inl same => rw [same]
  | inr derived =>
    obtain ⟨next, _, same⟩ := derived
    rw [same]

private theorem accept_inv {unmasked : Unmasked}
    (short : unmasked.hdr.pktNum ≤ unmasked.pktNum) (timer : Option Instant) (now : Instant)
    (maxPto : Option Duration) :
    Inv crypto (conn.accept unmasked false conn.tls
      (conn.tls.noteFirst conn.keyDiscardTimer (conn.spaces unmasked.spaceId) unmasked.hdr now
        maxPto).1 timer) where
  keys := inv.keys
  first := by
    unfold accept setSpace
    dsimp only
    by_cases data : unmasked.spaceId = .data
    · rw [if_pos data, data, Function.update_self]
      exact inv.first.note conn.tls conn.keyDiscardTimer short now maxPto
    · rw [if_neg data, Function.update_of_ne (Ne.symm data)]
      exact inv.first
  confirmed := inv.confirmed

/-- A packet of the next phase is accepted, and its phase begins. -/
theorem accept_updated_inv {unmasked : Unmasked}
    (short : unmasked.hdr.pktNum ≤ unmasked.pktNum) (timer : Option Instant)
    {updated : TlsSession Opener Sealer × KeySpace}
    (moved : conn.tls.updateKey crypto (conn.spaces unmasked.spaceId) = .ok updated)
    (now : Instant) (maxPto : Option Duration) :
    Inv crypto (conn.accept unmasked true updated.1
      (updated.1.noteFirst conn.keyDiscardTimer updated.2 unmasked.hdr now maxPto).1 timer) where
  keys := inv.keys.update moved
  first := by
    obtain ⟨next, _, same⟩ := TlsSession.updateKey_eq inv.keys.next moved
    have fresh : updated.2.firstPktNumRecv = none := by rw [same]
    unfold accept setSpace
    dsimp only
    by_cases data : unmasked.spaceId = .data
    · rw [if_pos data, data, Function.update_self]
      exact (FirstKept.none fresh).note updated.1 conn.keyDiscardTimer short now maxPto
    · rw [if_neg data, Function.update_of_ne (Ne.symm data)]
      exact inv.first
  confirmed := by
    intro _
    obtain ⟨next, derived, same⟩ := TlsSession.updateKey_eq inv.keys.next moved
    obtain ⟨_, _, nextOpen, nextSeal, _, keys⟩ := TlsSession.deriveKeys_ok derived
    refine ⟨nextOpen, nextSeal, ?_⟩
    rw [same, keys]
    simp only [accept, Function.update_self]

private theorem openPacket_inv (packet : PacketIn) {unmasked : Unmasked}
    (short : unmasked.hdr.pktNum ≤ unmasked.pktNum) (now : Instant) (maxPto : Option Duration) :
    Inv crypto (conn.openPacket crypto packet unmasked now maxPto).2 := by
  have selectedInv : Inv crypto { conn with tls := (conn.selectKey crypto unmasked).2 } :=
    inv.withTls (inv.keys.select _ _ _ _) (congrFun (selectKey_keys inv unmasked) _)
  unfold openPacket
  cases chosen : conn.selectKey crypto unmasked with
  | mk selected tls =>
    rw [chosen] at selectedInv
    dsimp only at selectedInv ⊢
    cases selected with
    | error error => exact selectedInv
    | ok pair =>
      cases pair with
      | mk key attempt =>
        dsimp only
        cases conn.decryptPayload crypto packet unmasked key with
        | error error => exact selectedInv
        | ok payload =>
          dsimp only
          split_ifs
          · exact selectedInv
          · cases attempt with
            | false => exact accept_inv selectedInv short _ now maxPto
            | true =>
              unfold TlsSession.tryUpdateKey
              simp only [if_true]
              cases moved : tls.updateKey crypto (conn.spaces unmasked.spaceId) with
              | error error => exact selectedInv
              | ok updated =>
                exact accept_updated_inv selectedInv short _ moved now maxPto

private theorem recvPacket_inv (packet : PacketIn) (now : Instant) (maxPto : Option Duration) :
    Inv crypto (conn.recvPacket crypto packet now maxPto).2 := by
  unfold recvPacket
  cases packet.pktType.toLevel with
  | error error => exact inv
  | ok level =>
    dsimp only
    cases (conn.tls.keyCollection level).openKey with
    | none => exact inv
    | some key =>
      dsimp only
      cases removed : conn.unmask crypto packet key with
      | error error => exact inv
      | ok unmasked =>
        obtain ⟨_, short, _⟩ := unmask_short removed
        exact openPacket_inv inv packet short now maxPto

theorem Inv.setSpace (spaceId : SpaceId) {space : KeySpace}
    (same : space.firstPktNumRecv = (conn.spaces spaceId).firstPktNumRecv) :
    Inv crypto (conn.setSpace spaceId space) where
  keys := inv.keys
  first := by
    unfold KeyConn.setSpace
    dsimp only
    by_cases data : spaceId = .data
    · subst data
      rw [Function.update_self]
      exact inv.first.of_same same
    · rw [Function.update_of_ne (Ne.symm data)]
      exact inv.first
  confirmed := inv.confirmed

theorem Inv.withPending (pending : List (SpaceId × Nat)) :
    Inv crypto { conn with pending } where
  keys := inv.keys
  first := inv.first
  confirmed := inv.confirmed

theorem Inv.setKeys {level : Level} (other : level ≠ .oneRtt) (keys : Keys Opener Sealer) :
    Inv crypto { conn with tls := conn.tls.setKeys level keys } := by
  have same : (conn.tls.setKeys level keys).keyCollection .oneRtt =
      conn.tls.keyCollection .oneRtt := Function.update_of_ne (Ne.symm other) _ _
  exact inv.withTls (inv.keys.of_same same rfl rfl) same

private theorem initiateKeyUpdate_inv {tls : TlsSession Opener Sealer} {space : KeySpace}
    (moved : conn.tls.initiateKeyUpdate crypto (conn.spaces .data) conn.enableMultipath =
      .ok (tls, space)) :
    Inv crypto
      { conn.setSpace .data space with
        tls
        readKeys := (tls.keyCollection .oneRtt).openKey.toList ++ conn.readKeys
        received := [] } := by
  unfold TlsSession.initiateKeyUpdate at moved
  split_ifs at moved
  obtain ⟨next, derived, same⟩ := TlsSession.updateKey_eq inv.keys.next moved
  constructor
  · exact inv.keys.update moved
  · cases same
    refine FirstKept.none ?_
    simp only [KeyConn.setSpace, Function.update_self]
  · intro _
    obtain ⟨_, _, nextOpen, nextSeal, _, keys⟩ := TlsSession.deriveKeys_ok derived
    cases same
    exact ⟨nextOpen, nextSeal, by simp only [keys, Function.update_self]⟩

private theorem setReadSecret_inv
    (missing : (conn.tls.keyCollection .oneRtt).openKey = none) (key : Opener) :
    Inv crypto
      { conn with
        tls := conn.tls.setKeys .oneRtt { conn.tls.keyCollection .oneRtt with openKey := some key }
        readKeys := [key] } where
  keys := inv.keys.setRead missing key
  first := inv.first
  confirmed := by
    intro confirmed
    obtain ⟨openKey, sealKey, known⟩ := inv.confirmed confirmed
    rw [known] at missing
    cases missing

private theorem setWriteSecret_inv
    (missing : (conn.tls.keyCollection .oneRtt).sealKey = none) (key : Sealer) :
    Inv crypto
      { conn with
        tls := conn.tls.setKeys .oneRtt
          { conn.tls.keyCollection .oneRtt with sealKey := some key } } where
  keys := inv.keys.setWrite missing key
  first := inv.first
  confirmed := by
    intro confirmed
    obtain ⟨openKey, sealKey, known⟩ := inv.confirmed confirmed
    rw [known] at missing
    cases missing

theorem step_inv {op : Op Opener Sealer} {next : KeyConn Opener Sealer}
    (stepped : conn.step crypto op = some next) : Inv crypto next := by
  cases op with
  | recvPacket packet now maxPto =>
    cases stepped
    exact recvPacket_inv inv packet now maxPto
  | recordPacket =>
    dsimp only [step] at stepped
    split at stepped
    · cases stepped
    · cases stepped
      exact (inv.withPending _).setSpace _ rfl
  | abortPacket =>
    dsimp only [step] at stepped
    split at stepped
    · cases stepped
    · cases stepped
      exact inv.withPending _
  | setReadSecret level key =>
    dsimp only [step] at stepped
    split_ifs at stepped with oneRtt known
    · cases stepped
      subst oneRtt
      exact setReadSecret_inv inv (Option.not_isSome_iff_eq_none.mp known) key
    · cases stepped
      exact inv.setKeys oneRtt _
  | setWriteSecret level key =>
    dsimp only [step] at stepped
    split_ifs at stepped with known
    cases stepped
    by_cases oneRtt : level = .oneRtt
    · subst oneRtt
      have missing : ¬ (conn.tls.keyCollection .oneRtt).sealKey.isSome = true :=
        fun present => known ⟨rfl, present⟩
      exact setWriteSecret_inv inv (Option.not_isSome_iff_eq_none.mp missing) key
    · exact inv.setKeys oneRtt _
  | dropKeys level =>
    dsimp only [step] at stepped
    split_ifs at stepped with early
    cases stepped
    refine inv.setKeys ?_ _
    intro oneRtt
    subst oneRtt
    cases early with
    | inl early => cases early
    | inr early => cases early
  | confirm =>
    dsimp only [step] at stepped
    split_ifs at stepped with known
    cases stepped
    refine { keys := inv.keys, first := inv.first, confirmed := ?_ }
    intro _
    obtain ⟨openKey, opened⟩ := Option.isSome_iff_exists.mp known.1
    obtain ⟨sealKey, sealed⟩ := Option.isSome_iff_exists.mp known.2
    exact ⟨openKey, sealKey, by rw [← opened, ← sealed]⟩
  | enableMultipath =>
    cases stepped
    exact { keys := inv.keys, first := inv.first, confirmed := inv.confirmed }
  | initiateKeyUpdate =>
    dsimp only [step] at stepped
    cases moved : conn.tls.initiateKeyUpdate crypto (conn.spaces .data) conn.enableMultipath with
    | error error =>
      rw [moved] at stepped
      cases stepped
      exact inv
    | ok updated =>
      rw [moved] at stepped
      cases stepped
      exact initiateKeyUpdate_inv inv moved
  | sendOneRtt spaceId pktNum =>
    cases stepped
    exact inv.setSpace spaceId rfl
  | acked spaceId largest =>
    cases stepped
    exact inv.setSpace spaceId rfl
  | timeout now =>
    dsimp only [step] at stepped
    split at stepped
    · split_ifs at stepped
      · cases stepped
        exact
          { keys := inv.keys.discard
            first := inv.first
            confirmed := inv.confirmed }
      · cases stepped
        exact inv
    · cases stepped
      exact inv

end

/-! ## The key of a packet -/

/-- A packet is newer than the first packet that was received in the current phase. -/
def Newer (conn : KeyConn Opener Sealer) (pktNum : Nat) : Prop :=
  ∃ first, conn.received.head? = some first ∧ first.pktNum < pktNum

/-- The headers of a packet and of the first one of the current phase leave out the same part
of their packet numbers. -/
def SameOmitted (conn : KeyConn Opener Sealer) (unmasked : Unmasked) : Prop :=
  ∀ first, conn.received.head? = some first →
    unmasked.pktNum - unmasked.hdr.pktNum = first.pktNum - first.encoded

private theorem newer_iff_encoded (inv : Inv crypto conn) {unmasked : Unmasked}
    (short : unmasked.hdr.pktNum ≤ unmasked.pktNum) (same : SameOmitted conn unmasked) :
    Newer conn unmasked.pktNum ↔
      ∃ first, (conn.spaces .data).firstPktNumRecv = some first ∧ first < unmasked.hdr.pktNum := by
  rw [inv.first.first]
  unfold Newer
  cases found : conn.received.head? with
  | none => simp
  | some first =>
    have omitted := same first found
    have firstShort := inv.first.short first (List.mem_of_head? found)
    simp only [Option.some.injEq, exists_eq_left', Option.map_some]
    omega

/-- When a packet number is above or below all those of the current phase, it is newer than
the first of them exactly when it is larger than every one. -/
theorem newer_iff_larger {pktNum : Nat} (some : conn.received ≠ [])
    (aside : (∀ packet ∈ conn.received, packet.pktNum < pktNum) ∨
      ∀ packet ∈ conn.received, pktNum < packet.pktNum) :
    Newer conn pktNum ↔ ∀ packet ∈ conn.received, packet.pktNum < pktNum := by
  unfold Newer
  cases received : conn.received with
  | nil => exact absurd received some
  | cons first rest =>
    rw [received] at aside
    constructor
    · intro newer
      obtain ⟨found, head, less⟩ := newer
      cases head
      cases aside with
      | inl above => exact above
      | inr below =>
        have more := below first List.mem_cons_self
        omega
    · intro above
      exact ⟨first, rfl, above first List.mem_cons_self⟩

section Selection

variable {packet : PacketIn} {current : Opener} {unmasked : Unmasked}

private theorem selectKey_current (oneRtt : unmasked.hdr.pktType = .oneRtt)
    (known : (conn.tls.keyCollection .oneRtt).openKey = some current)
    (plain : conn.confirmed = false ∨ conn.enableMultipath = true ∨
      conn.tls.currentKeyPhase = unmasked.hdr.keyPhase) :
    (conn.selectKey crypto unmasked).1 = .ok (current, false) := by
  have taken : (!conn.confirmed) = true ∨ unmasked.hdr.pktType ≠ .oneRtt ∨
      conn.tls.currentKeyPhase = unmasked.hdr.keyPhase ∨ conn.enableMultipath = true := by
    cases plain with
    | inl unconfirmed => exact .inl (by rw [unconfirmed]; rfl)
    | inr rest =>
      cases rest with
      | inl multipath => exact .inr (.inr (.inr multipath))
      | inr same => exact .inr (.inr (.inl same))
  unfold selectKey TlsSession.selectKey
  rw [if_pos taken, oneRtt]
  simp [PacketType.toLevel, TlsSession.openKeyOf, known, Except.map]

private theorem selectKey_other (inv : Inv crypto conn) (oneRtt : unmasked.hdr.pktType = .oneRtt)
    (data : unmasked.spaceId = .data) (short : unmasked.hdr.pktNum ≤ unmasked.pktNum)
    (confirmed : conn.confirmed = true) (single : conn.enableMultipath = false)
    (other : conn.tls.currentKeyPhase ≠ unmasked.hdr.keyPhase) (same : SameOmitted conn unmasked) :
    (Newer conn unmasked.pktNum →
      (conn.selectKey crypto unmasked).1 = (conn.tls.selectNext crypto).1) ∧
    (¬ Newer conn unmasked.pktNum → (conn.selectKey crypto unmasked).1 = conn.tls.selectPrev) := by
  have taken : ¬ ((!conn.confirmed) = true ∨ unmasked.hdr.pktType ≠ .oneRtt ∨
      conn.tls.currentKeyPhase = unmasked.hdr.keyPhase ∨ conn.enableMultipath = true) := by
    simp [confirmed, oneRtt, other, single]
  rw [newer_iff_encoded inv short same]
  unfold selectKey TlsSession.selectKey
  rw [if_neg taken, data]
  cases found : (conn.spaces .data).firstPktNumRecv with
  | none => simp
  | some first =>
    by_cases less : first < unmasked.hdr.pktNum
    · simp [less]
    · simp [less]

private theorem selectNext_eq (inv : Inv crypto conn) {sealKey : Sealer}
    (keys : conn.tls.keyCollection .oneRtt = ⟨some current, some sealKey⟩) :
    (conn.tls.selectNext crypto).1 = (do
      let next ← crypto.deriveOpen current
      let _ ← crypto.deriveSeal sealKey
      pure (next, true)) := by
  unfold TlsSession.selectNext
  rw [TlsSession.takeNextKey_eq inv.keys.next, TlsSession.deriveKeys_eq keys]
  cases opened : crypto.deriveOpen current with
  | error error => rfl
  | ok next =>
    cases sealed : crypto.deriveSeal sealKey with
    | error error => rfl
    | ok nextSeal => rfl

private theorem selectPrev_eq (inv : Inv crypto conn)
    (known : (conn.tls.keyCollection .oneRtt).openKey = some current) :
    (conn.tls.prevKey = none ∧ conn.tls.selectPrev = .error .done) ∨
      (conn.tls.prevKey.isSome = true ∧ ∃ previous older,
        conn.readKeys = current :: previous :: older ∧ conn.tls.selectPrev = .ok (previous, false)) := by
  cases found : conn.tls.prevKey with
  | none => exact .inl ⟨rfl, by simp [TlsSession.selectPrev, found]⟩
  | some keys =>
    obtain ⟨first, previous, older, shape, opened⟩ := inv.keys.prev keys found
    have head := inv.keys.current
    rw [known, shape] at head
    cases head
    refine .inr ⟨rfl, previous, older, shape, ?_⟩
    simp [TlsSession.selectPrev, found, TlsSession.openKeyOf, opened, Except.map]

/-- In every run, for a 1-RTT packet without header protection. The current key opens it if it
has the current phase bit. With the other bit, the next key opens it exactly when it is newer
than the first packet of the current phase, and else the previous key, if that is still there.
Before the handshake is confirmed and with several paths the current key is used. -/
theorem key_selected {disableEncryption : Bool}
    (reached : Run (step crypto) anyStep (start disableEncryption) conn)
    (oneRtt : packet.pktType = .oneRtt)
    (known : (conn.tls.keyCollection .oneRtt).openKey = some current)
    (removed : conn.unmask crypto packet current = .ok unmasked) :
    (conn.confirmed = false ∨ conn.enableMultipath = true ∨
        conn.tls.currentKeyPhase = unmasked.hdr.keyPhase →
      (conn.selectKey crypto unmasked).1 = .ok (current, false)) ∧
    (conn.confirmed = true → conn.enableMultipath = false →
        conn.tls.currentKeyPhase ≠ unmasked.hdr.keyPhase → SameOmitted conn unmasked →
      (Newer conn unmasked.pktNum →
        ∃ sealKey, (conn.tls.keyCollection .oneRtt).sealKey = some sealKey ∧
          (conn.selectKey crypto unmasked).1 = (do
            let next ← crypto.deriveOpen current
            let _ ← crypto.deriveSeal sealKey
            pure (next, true))) ∧
      (¬ Newer conn unmasked.pktNum →
        (conn.tls.prevKey = none ∧ (conn.selectKey crypto unmasked).1 = .error .done) ∨
        (conn.tls.prevKey.isSome = true ∧ ∃ previous older,
          conn.readKeys = current :: previous :: older ∧
            (conn.selectKey crypto unmasked).1 = .ok (previous, false)))) ∧
    (conn.received ≠ [] →
      ((∀ packet ∈ conn.received, packet.pktNum < unmasked.pktNum) ∨
        ∀ packet ∈ conn.received, unmasked.pktNum < packet.pktNum) →
      (Newer conn unmasked.pktNum ↔ ∀ packet ∈ conn.received, packet.pktNum < unmasked.pktNum)) := by
  have inv : Inv crypto conn := reached.invariant
    (fun _ _ _ kept _ stepped => step_inv kept stepped) (start_inv disableEncryption)
  obtain ⟨hdrType, short, space⟩ := unmask_short removed
  rw [oneRtt] at hdrType
  refine ⟨selectKey_current hdrType known, ?_, newer_iff_larger⟩
  intro confirmed single other same
  have data : unmasked.spaceId = .data := by
    unfold getSpaceId at space
    rw [single, oneRtt] at space
    exact (Except.ok.inj space).symm
  obtain ⟨next, prev⟩ := selectKey_other inv hdrType data short confirmed single other same
  constructor
  · intro newer
    obtain ⟨openKey, sealKey, keys⟩ := inv.confirmed confirmed
    rw [keys] at known
    cases known
    exact ⟨sealKey, by rw [keys], (next newer).trans (selectNext_eq inv keys)⟩
  · intro older
    rw [prev older]
    exact selectPrev_eq inv known

end Selection

/-! ## Two runs -/

def phaseCrypto : Crypto Nat Nat where
  newMask _ _ := .ok (Vector.replicate 5 0)
  openPayload key _ _ _ payload :=
    if payload.head? = some (UInt8.ofNat key) then .ok payload.tail else .error .invalidPacket
  deriveOpen key := .ok (key + 1)
  deriveSeal key := .ok (key + 1)

def shortBuf (key pktNum : UInt8) : Bytes :=
  [(0x40 : UInt8) ||| (key % 2) <<< 2, pktNum, key] ++ List.replicate 20 1

/-- A packet with a number of one byte, sealed with the given key. -/
def shortPacket (key pktNum : UInt8) : PacketIn :=
  { buf := shortBuf key pktNum
    pktType := .oneRtt
    pktNumOffset := 1
    length := 22
    pathSpace := .data
    cidSeq := none }

def shortUnmasked (key pktNum : UInt8) : Unmasked :=
  { hdr :=
      { pktType := .oneRtt
        pktNumLen := 1
        pktNum := pktNum.toNat
        keyPhase := decide (key % 2 = 1) }
    buf := shortBuf key pktNum
    spaceId := .data
    pktNum := pktNum.toNat }

def delivered (key pktNum : UInt8) : List (Op Nat Nat) :=
  [.recvPacket (shortPacket key pktNum) 0 (some 10), .recordPacket]

/-- The handshake is confirmed and the packets 10 and 20 are received. -/
def twoDelivered : List (Op Nat Nat) :=
  [.setReadSecret .oneRtt 0, .setWriteSecret .oneRtt 0, .confirm] ++ delivered 0 10 ++ delivered 0 20

def selfUpdated : List (Op Nat Nat) :=
  twoDelivered ++ [.sendOneRtt .data 0, .acked .data 0, .initiateKeyUpdate]

def after (ops : List (Op Nat Nat)) : KeyConn Nat Nat :=
  (exec (step phaseCrypto) (start false) ops).getD (start false)

theorem after_reached {ops : List (Op Nat Nat)}
    (runs : (exec (step phaseCrypto) (start false) ops).isSome = true) :
    Run (step phaseCrypto) anyStep (start false) (after ops) := by
  obtain ⟨conn, executed⟩ := Option.isSome_iff_exists.mp runs
  unfold after
  rw [executed]
  exact Run.of_exec executed

/-- A packet of the next phase is opened with the next key. -/
theorem next_phase_selected :
    Run (step phaseCrypto) anyStep (start false) (after twoDelivered) ∧
      (after twoDelivered).unmask phaseCrypto (shortPacket 1 21) 0 = .ok (shortUnmasked 1 21) ∧
      ((after twoDelivered).selectKey phaseCrypto (shortUnmasked 1 21)).1 = .ok (1, true) := by
  have reached : Run (step phaseCrypto) anyStep (start false) (after twoDelivered) :=
    after_reached rfl
  have removed : (after twoDelivered).unmask phaseCrypto (shortPacket 1 21) 0 =
      .ok (shortUnmasked 1 21) := rfl
  obtain ⟨_, other, _⟩ := key_selected reached rfl rfl removed
  have sameOmitted : SameOmitted (after twoDelivered) (shortUnmasked 1 21) := by
    intro first found
    cases found
    rfl
  obtain ⟨next, _⟩ := other rfl rfl (by decide) sameOmitted
  obtain ⟨sealKey, _, selected⟩ := next ⟨⟨10, 10⟩, rfl, by decide⟩
  exact ⟨reached, removed, selected⟩

/-- The first packet of a phase decides. When none was received in the phase that the endpoint
began itself, a packet of the other phase is opened with the previous key, though no number of
the phase is larger. When 10 was received before 20, a packet 15 is opened with the next key. -/
theorem first_packet_decides :
    (Run (step phaseCrypto) anyStep (start false) (after selfUpdated) ∧
      (after selfUpdated).unmask phaseCrypto (shortPacket 0 21) 1 = .ok (shortUnmasked 0 21) ∧
      (after selfUpdated).tls.currentKeyPhase ≠ (shortUnmasked 0 21).hdr.keyPhase ∧
      (∀ packet ∈ (after selfUpdated).received, packet.pktNum < (shortUnmasked 0 21).pktNum) ∧
      ((after selfUpdated).selectKey phaseCrypto (shortUnmasked 0 21)).1 = .ok (0, false)) ∧
    (Run (step phaseCrypto) anyStep (start false) (after twoDelivered) ∧
      (after twoDelivered).unmask phaseCrypto (shortPacket 1 15) 0 = .ok (shortUnmasked 1 15) ∧
      (after twoDelivered).tls.currentKeyPhase ≠ (shortUnmasked 1 15).hdr.keyPhase ∧
      (¬ ∀ packet ∈ (after twoDelivered).received, packet.pktNum < (shortUnmasked 1 15).pktNum) ∧
      ((after twoDelivered).selectKey phaseCrypto (shortUnmasked 1 15)).1 = .ok (1, true)) := by
  refine ⟨⟨after_reached rfl, rfl, by decide, by decide, rfl⟩,
    ⟨after_reached rfl, rfl, by decide, by decide, rfl⟩⟩

end KeyConn

end Tquic.Connection
