import Tquic.Connection.KeyUpdate
import Tquic.Connection.RetirementWriter

/-! The nonces of 1-RTT packets, after `build_nonce` of `tls/boringssl/crypto.rs`, and the packet
number spaces of paths, after `connection.rs`. Paths number their packets on their own, so that
their nonces only differ in the sequence numbers of the destination ids. -/

set_option autoImplicit false

namespace Tquic.Connection

open Lib

/-! ## Nonces -/

def nonceLen : Nat := 12

/-- The initialization vector of a packet key. -/
structure Iv where
  bytes : Bytes
  length : bytes.length = nonceLen

/-- The first bytes take the sequence number of the destination id, if there is one, and the
others the packet number. -/
def buildNonce (iv : Iv) (cidSeq : Option UInt32) (counter : UInt64) : Bytes :=
  let first := iv.bytes.take 4
  (match cidSeq with
    | none => first
    | some cidSeq => List.zipWith (· ^^^ ·) first (BigEndian.encode 4 cidSeq.toNat)) ++
  List.zipWith (· ^^^ ·) (iv.bytes.drop 4) (BigEndian.encode 8 counter.toNat)

theorem zipWith_xor_inj {mask left right : Bytes} (leftLength : left.length = mask.length)
    (rightLength : right.length = mask.length)
    (same : List.zipWith (· ^^^ ·) mask left = List.zipWith (· ^^^ ·) mask right) :
    left = right := by
  induction mask generalizing left right with
  | nil => rw [List.length_eq_zero_iff.mp leftLength, List.length_eq_zero_iff.mp rightLength]
  | cons byte mask ih =>
    cases left with
    | nil => cases leftLength
    | cons first left =>
      cases right with
      | nil => cases rightLength
      | cons second right =>
        obtain ⟨head, tail⟩ := List.cons.inj same
        have rest := ih (Nat.succ.inj leftLength) (Nat.succ.inj rightLength) tail
        rw [rest, (UInt8.xor_right_inj byte).mp head]

theorem encode_inj {count left right : Nat} (leftSmall : left < 256 ^ count)
    (rightSmall : right < 256 ^ count)
    (same : BigEndian.encode count left = BigEndian.encode count right) : left = right := by
  rw [← BigEndian.decode_encode leftSmall, same, BigEndian.decode_encode rightSmall]

/-- No sequence number is the same as the sequence number 0. -/
theorem buildNonce_none (iv : Iv) (counter : UInt64) :
    buildNonce iv none counter = buildNonce iv (some 0) counter := by
  have zeros : ∀ first : Bytes, first.length = 4 →
      List.zipWith (· ^^^ ·) first (BigEndian.encode 4 0) = first := by
    intro first four
    obtain ⟨a, b, c, d, rfl⟩ := List.length_eq_four.mp four
    simp [BigEndian.encode]
  have four : (iv.bytes.take 4).length = 4 := by
    rw [List.length_take, iv.length]
    rfl
  exact congrArg (· ++ _) (zeros _ four).symm

/-- A nonce tells the number of the path and that of the packet. -/
theorem buildNonce_inj {iv : Iv} {left right : Option UInt32} {leftCounter rightCounter : UInt64}
    (same : buildNonce iv left leftCounter = buildNonce iv right rightCounter) :
    left.getD 0 = right.getD 0 ∧ leftCounter = rightCounter := by
  have some_getD : ∀ (cidSeq : Option UInt32) (counter : UInt64),
      buildNonce iv cidSeq counter = buildNonce iv (some (cidSeq.getD 0)) counter := by
    intro cidSeq counter
    cases cidSeq with
    | none => exact buildNonce_none iv counter
    | some cidSeq => rfl
  rw [some_getD left, some_getD right] at same
  have four : (iv.bytes.take 4).length = 4 := by
    rw [List.length_take, iv.length]
    rfl
  have eight : (iv.bytes.drop 4).length = 8 := by rw [List.length_drop, iv.length]; rfl
  obtain ⟨firsts, lasts⟩ := List.append_inj same (by simp [four])
  constructor
  · have bytes := zipWith_xor_inj (by rw [BigEndian.length_encode, four])
      (by rw [BigEndian.length_encode, four]) firsts
    exact UInt32.toNat_inj.mp (encode_inj (UInt32.toNat_lt _) (UInt32.toNat_lt _) bytes)
  · have bytes := zipWith_xor_inj (by rw [BigEndian.length_encode, eight])
      (by rw [BigEndian.length_encode, eight]) lasts
    exact UInt64.toNat_inj.mp (encode_inj (UInt64.toNat_lt _) (UInt64.toNat_lt _) bytes)

/-! ## Packet number spaces -/

structure NumberSpaces where
  nextPktNum : OrdMap Nat Nat
  nextDataExtId : Nat

namespace NumberSpaces

def new : NumberSpaces :=
  { nextPktNum := (((∅ : OrdMap Nat Nat).insert 0 0).insert 1 0).insert 2 0
    nextDataExtId := 3 }

def get (spaces : NumberSpaces) (spaceId : SpaceId) : Option Nat :=
  spaces.nextPktNum.get? spaceId.key

def set (spaces : NumberSpaces) (spaceId : SpaceId) (pktNum : Nat) : NumberSpaces :=
  { spaces with nextPktNum := spaces.nextPktNum.insert spaceId.key pktNum }

def add (spaces : NumberSpaces) : SpaceId × NumberSpaces :=
  (.dataExt spaces.nextDataExtId,
    { nextPktNum := spaces.nextPktNum.insert spaces.nextDataExtId 0
      nextDataExtId := spaces.nextDataExtId + 1 })

def Fresh (spaces : NumberSpaces) : Prop :=
  ∀ key pktNum, spaces.nextPktNum.get? key = some pktNum → key < spaces.nextDataExtId

/-- No packet number comes back. -/
def Advances (before after : NumberSpaces) : Prop :=
  ∀ spaceId next, before.get spaceId = some next →
    ∃ later, after.get spaceId = some later ∧ next ≤ later

variable {spaces : NumberSpaces}

theorem Advances.refl (spaces : NumberSpaces) : Advances spaces spaces :=
  fun _ next found => ⟨next, found, Nat.le_refl next⟩

private theorem new_fresh : Fresh new := by
  intro key pktNum found
  simp only [new, OrdMap.get?_insert] at found
  split_ifs at found with two one zero
  · exact two ▸ (by decide)
  · exact one ▸ (by decide)
  · exact zero ▸ (by decide)
  · cases found

theorem Fresh.set {spaceId : SpaceId} {old pktNum : Nat} (fresh : spaces.Fresh)
    (found : spaces.get spaceId = some old) : (spaces.set spaceId pktNum).Fresh := by
  intro key value stored
  rw [NumberSpaces.set, OrdMap.get?_insert] at stored
  split_ifs at stored with same
  · exact same ▸ fresh _ _ found
  · exact fresh _ _ stored

private theorem set_advances {spaceId : SpaceId} {old pktNum : Nat} (le : old ≤ pktNum)
    (found : spaces.get spaceId = some old) : spaces.Advances (spaces.set spaceId pktNum) := by
  intro other next present
  unfold NumberSpaces.get at found present ⊢
  rw [NumberSpaces.set, OrdMap.get?_insert]
  split_ifs with same
  · rw [same, found] at present
    cases present
    exact ⟨pktNum, rfl, le⟩
  · exact ⟨next, present, Nat.le_refl next⟩

theorem Fresh.add (fresh : spaces.Fresh) : spaces.add.2.Fresh := by
  intro key pktNum found
  unfold NumberSpaces.add at found ⊢
  dsimp only at found ⊢
  rw [OrdMap.get?_insert] at found
  split_ifs at found with same
  · omega
  · exact Nat.lt_succ_of_lt (fresh key pktNum found)

private theorem Fresh.add_advances (fresh : spaces.Fresh) : spaces.Advances spaces.add.2 := by
  intro spaceId next present
  unfold NumberSpaces.get NumberSpaces.add at *
  have other := Nat.ne_of_lt (fresh _ _ present)
  refine ⟨next, ?_, Nat.le_refl next⟩
  rw [OrdMap.get?_insert, if_neg other]
  exact present

end NumberSpaces

/-- The slot that `insertPath` gives to a new path. -/
def PathMap.newSlot (map : PathMap) : Option Nat :=
  if map.paths.length ≥ map.maxPaths then map.paths.findIdx? (·.unused) else some map.paths.length

/-! ## Sealing -/

structure SealedPacket where
  -- How many 1-RTT keys were replaced before.
  key : Nat
  spaceId : SpaceId
  cidSeq : Option UInt32
  pktNum : Nat
  deriving DecidableEq

def SealedPacket.nonce (packet : SealedPacket) (iv : Iv) : Bytes :=
  buildNonce iv packet.cidSeq (.ofNat packet.pktNum)

/-- A number that was used in nonces under a key by the paths of a packet number space. -/
structure UsedNumber where
  key : Nat
  spaceId : SpaceId
  number : UInt32
  deriving DecidableEq

structure SealConn where
  ids : CidPathRun
  -- The space of the path in each slot.
  spaceOf : Nat → SpaceId
  spaces : NumberSpaces
  disableEncryption : Bool
  key : Nat
  -- History: the packets that were sealed, and the numbers that paths had. No function reads it.
  sealedPackets : List SealedPacket
  used : List UsedNumber

namespace SealConn

def isMultipath (conn : SealConn) : Bool := conn.ids.conn.paths.isMultipath

def getSpaceId (conn : SealConn) (pktType : PacketType) (pathId : Nat) : Except Error SpaceId :=
  if !conn.isMultipath then PacketType.toSpace pktType
  else if pktType ≠ .oneRtt then PacketType.toSpace pktType
  else
    match conn.ids.conn.paths.get pathId with
    | some _ => .ok (conn.spaceOf pathId)
    | none => .error .internalError

def isEncryptionDisabled (conn : SealConn) (pktType : PacketType) : Bool :=
  decide (pktType = .oneRtt) && conn.disableEncryption

/-- What the nonces of a path take from the sequence number of its destination id. -/
def nonceSeq (conn : SealConn) (dcidSeq : Nat) : Option UInt32 :=
  if conn.isMultipath then some (.ofNat dcidSeq) else none

def sendPacket (conn : SealConn) (pktType : PacketType) (pathId : Nat) : Option SealConn :=
  match conn.getSpaceId pktType pathId with
  | .error _ => none
  | .ok spaceId =>
    match conn.spaces.get spaceId, (conn.ids.conn.paths.get pathId).bind (·.dcidSeq) with
    | some pktNum, some dcidSeq =>
      if (conn.ids.conn.cids.dcids.get dcidSeq).isNone || u64Max ≤ pktNum then none
      else
        let packet : SealedPacket :=
          { key := conn.key, spaceId, cidSeq := conn.nonceSeq dcidSeq, pktNum }
        some { conn with
          spaces := conn.spaces.set spaceId (pktNum + 1)
          sealedPackets :=
            if pktType = .oneRtt && !conn.isEncryptionDisabled pktType then
              packet :: conn.sealedPackets
            else conn.sealedPackets }
    | _, _ => none

/-! ## Paths and their spaces -/

def placeSpace (conn : SealConn) (made : SpaceId × NumberSpaces) : SealConn :=
  match conn.ids.conn.paths.newSlot with
  | none => { conn with spaces := made.2 }
  | some slot => { conn with spaceOf := Function.update conn.spaceOf slot made.1, spaces := made.2 }

/-- A packet from a new address. A path that takes over the source id of another one shares its
space. -/
def packetSpace (conn : SealConn) (cidPid : Option Nat) : SpaceId × NumberSpaces :=
  if conn.isMultipath then
    match if conn.ids.conn.cids.zeroLengthScid then none else cidPid with
    | none => conn.spaces.add
    | some cidPid => (conn.spaceOf cidPid, conn.spaces)
  else (.data, conn.spaces)

def addPathSpace (conn : SealConn) : SpaceId × NumberSpaces :=
  let cids := conn.ids.conn.cids
  let dcidSeq := if cids.zeroLengthDcid then some 0 else cids.lowestUnusedDcidSeq
  let marked := dcidSeq.all fun seq => (cids.markDcidUsed seq 0).toOption.isSome
  if marked && conn.isMultipath then conn.spaces.add else (.data, conn.spaces)

def withSpaces (conn : SealConn) : CidPathRun.Op → SealConn
  | .packet none dcid _ _ _ =>
    match conn.ids.conn.cids.findScid dcid with
    | none => conn
    | some (_, cidPid) => conn.placeSpace (conn.packetSpace cidPid)
  | .addPath localAddr remoteAddr =>
    if conn.ids.conn.config.isServer || !conn.ids.conn.handshakeCompleted then conn
    else if (conn.ids.conn.paths.getPathId (localAddr, remoteAddr)).isSome then conn
    else if conn.ids.conn.paths.newSlot.isNone then conn
    else conn.placeSpace conn.addPathSpace
  | _ => conn

def refused (conn : SealConn) : CidPathRun.Op → Bool
  | .enableMultipath => conn.ids.conn.cids.zeroLengthDcid
  | _ => false

inductive Op where
  | ids (op : CidPathRun.Op)
  | sendPacket (pktType : PacketType) (pathId : Nat)
  /-- Either endpoint starts with the next 1-RTT key. -/
  | updateKey

def numberOf (conn : SealConn) (pathId : Nat) : Option UInt32 :=
  ((conn.ids.conn.paths.get pathId).bind (·.dcidSeq)).map fun dcidSeq =>
    (conn.nonceSeq dcidSeq).getD 0

def pathSpace (conn : SealConn) (pathId : Nat) : SpaceId :=
  if conn.isMultipath then conn.spaceOf pathId else .data

def record (conn : SealConn) : SealConn :=
  { conn with
    used := (List.range conn.ids.conn.paths.paths.length).filterMap (fun pathId =>
      (conn.numberOf pathId).map fun number =>
        { key := conn.key, spaceId := conn.pathSpace pathId, number }) ++ conn.used }

def start (config : CidConfig) (localAddr remoteAddr : SocketAddr) (addrToken : Bool)
    (initialScid : ConnectionId) (scidToken : Option ResetToken) (dcid : ConnectionId)
    (dcidToken : Option ResetToken) (disableEncryption : Bool) : SealConn :=
  record
    { ids := .start config localAddr remoteAddr addrToken initialScid scidToken dcid dcidToken
      spaceOf := fun _ => .data
      spaces := .new
      disableEncryption
      key := 0
      sealedPackets := []
      used := [] }

def step (conn : SealConn) : Op → Option SealConn
  | .ids op =>
    if conn.refused op then none
    else (conn.ids.step op).map fun ids => { conn.withSpaces op with ids }.record
  | .sendPacket pktType pathId => (conn.sendPacket pktType pathId).map record
  | .updateKey => some { conn with key := conn.key + 1 }.record

/-- No two packets that one key sealed agree in the number from the destination id and in the
packet number, so that no nonce comes twice. -/
def NoncesUnique (conn : SealConn) : Prop :=
  conn.sealedPackets.Pairwise fun later earlier => later.key = earlier.key →
    ¬(later.cidSeq.getD 0 = earlier.cidSeq.getD 0 ∧ later.pktNum = earlier.pktNum) ∧
      ∀ iv, later.nonce iv ≠ earlier.nonce iv

/-- When a 1-RTT packet is sent, no path of another packet number space had, under the same key,
an id whose sequence number has the same low 32 bits. -/
def Unshared (conn : SealConn) : Op → Prop
  | .sendPacket .oneRtt pathId => ∀ entry ∈ conn.used, entry.key = conn.key →
      conn.numberOf pathId = some entry.number → entry.spaceId = conn.pathSpace pathId
  | _ => True

def isUnshared (conn : SealConn) : Op → Bool
  | .sendPacket .oneRtt pathId => conn.used.all fun entry =>
    entry.key ≠ conn.key || conn.numberOf pathId ≠ some entry.number ||
      entry.spaceId = conn.pathSpace pathId
  | _ => true

theorem unshared_of_isUnshared (conn : SealConn) (op : Op) (passed : isUnshared conn op = true) :
    Unshared conn op := by
  unfold isUnshared at passed
  unfold Unshared
  split
  · intro entry member sameKey sameNumber
    simpa [sameKey, sameNumber] using List.all_eq_true.mp passed entry member
  · trivial

/-! ## What every step keeps -/

structure Numbered (conn : SealConn) : Prop where
  fresh : conn.spaces.Fresh
  past : ∀ packet ∈ conn.sealedPackets, packet.key ≤ conn.key
  below : ∀ packet ∈ conn.sealedPackets, ∃ next, conn.spaces.get packet.spaceId = some next ∧
    packet.pktNum < next
  small : ∀ packet ∈ conn.sealedPackets, packet.pktNum < u64Max
  noted : ∀ packet ∈ conn.sealedPackets,
    { key := packet.key, spaceId := packet.spaceId, number := packet.cidSeq.getD 0 } ∈ conn.used
  distinct : conn.sealedPackets.Pairwise fun later earlier => later.key = earlier.key →
    ¬(later.cidSeq.getD 0 = earlier.cidSeq.getD 0 ∧ later.pktNum = earlier.pktNum)

def Recorded (conn : SealConn) : Prop :=
  ∀ pathId number, conn.numberOf pathId = some number →
    { key := conn.key, spaceId := conn.pathSpace pathId, number } ∈ conn.used

variable {conn : SealConn}

theorem Numbered.unique (numbered : Numbered conn) : NoncesUnique conn := by
  refine List.Pairwise.imp_of_mem ?_ numbered.distinct
  intro later earlier isLater isEarlier differ sameKey
  refine ⟨differ sameKey, fun iv same => differ sameKey ?_⟩
  obtain ⟨numbers, counters⟩ := buildNonce_inj same
  have fits : ∀ packet ∈ conn.sealedPackets, packet.pktNum < UInt64.size := by
    intro packet member
    exact Nat.lt_trans (numbered.small packet member) (by decide)
  have counter := congrArg UInt64.toNat counters
  rw [UInt64.toNat_ofNat_of_lt' (fits later isLater),
    UInt64.toNat_ofNat_of_lt' (fits earlier isEarlier)] at counter
  exact ⟨numbers, counter⟩

theorem recorded_record (conn : SealConn) : Recorded conn.record := by
  intro pathId number has
  refine List.mem_append_left _ (List.mem_filterMap.mpr ⟨pathId, List.mem_range.mpr ?_, ?_⟩)
  · obtain ⟨dcidSeq, path, _⟩ := Option.map_eq_some_iff.mp has
    obtain ⟨stored, present, _⟩ := Option.bind_eq_some_iff.mp path
    exact (List.getElem?_eq_some_iff.mp present).1
  · exact Option.map_eq_some_iff.mpr ⟨number, has, rfl⟩

theorem Numbered.record (numbered : Numbered conn) : Numbered conn.record :=
  { numbered with
    noted := fun packet member => List.mem_append_right _ (numbered.noted packet member) }

theorem Numbered.grow {conn next : SealConn} (numbered : Numbered conn)
    (packets : next.sealedPackets = conn.sealedPackets) (used : next.used = conn.used)
    (key : conn.key ≤ next.key) (fresh : next.spaces.Fresh)
    (advances : conn.spaces.Advances next.spaces) : Numbered next := by
  refine ⟨fresh, ?_, ?_, packets ▸ numbered.small, packets ▸ used ▸ numbered.noted,
    packets ▸ numbered.distinct⟩
  · intro packet member
    exact Nat.le_trans (numbered.past packet (packets ▸ member)) key
  · intro packet member
    obtain ⟨before, found, less⟩ := numbered.below packet (packets ▸ member)
    obtain ⟨after, kept, le⟩ := advances packet.spaceId before found
    exact ⟨after, kept, Nat.lt_of_lt_of_le less le⟩

/-- An operation adds one space or none. -/
theorem withSpaces_spaces (conn : SealConn) (op : CidPathRun.Op) :
    (conn.withSpaces op).spaces = conn.spaces ∨
      (conn.withSpaces op).spaces = conn.spaces.add.2 := by
  have placed : ∀ made : SpaceId × NumberSpaces,
      (conn.placeSpace made).spaces = made.2 := by
    intro made
    unfold placeSpace
    split <;> rfl
  unfold withSpaces
  split
  · split
    · exact .inl rfl
    · rw [placed]
      unfold packetSpace
      split
      · split
        · exact .inr rfl
        · exact .inl rfl
      · exact .inl rfl
  · split
    · exact .inl rfl
    split
    · exact .inl rfl
    split
    · exact .inl rfl
    rw [placed]
    have made : ∀ marked : Bool,
        (if marked then conn.spaces.add else (SpaceId.data, conn.spaces)).2 = conn.spaces ∨
          (if marked then conn.spaces.add else (SpaceId.data, conn.spaces)).2 =
            conn.spaces.add.2 := by
      intro marked
      cases marked with
      | true => exact .inr rfl
      | false => exact .inl rfl
    exact made _
  · exact .inl rfl

private theorem withSpaces_same (conn : SealConn) (op : CidPathRun.Op) :
    (conn.withSpaces op).sealedPackets = conn.sealedPackets ∧
      (conn.withSpaces op).used = conn.used ∧ (conn.withSpaces op).key = conn.key := by
  have placed : ∀ made : SpaceId × NumberSpaces,
      (conn.placeSpace made).sealedPackets = conn.sealedPackets ∧
        (conn.placeSpace made).used = conn.used ∧ (conn.placeSpace made).key = conn.key := by
    intro made
    unfold placeSpace
    split <;> exact ⟨rfl, rfl, rfl⟩
  unfold withSpaces
  split
  · split
    · exact ⟨rfl, rfl, rfl⟩
    · exact placed _
  · split
    · exact ⟨rfl, rfl, rfl⟩
    split
    · exact ⟨rfl, rfl, rfl⟩
    split
    · exact ⟨rfl, rfl, rfl⟩
    · exact placed _
  · exact ⟨rfl, rfl, rfl⟩

theorem Numbered.withSpaces (numbered : Numbered conn) (op : CidPathRun.Op)
    (ids : CidPathRun) : Numbered { conn.withSpaces op with ids } := by
  obtain ⟨packets, used, key⟩ := withSpaces_same conn op
  refine numbered.grow packets used (Nat.le_of_eq key.symm) ?_ ?_
  · rcases withSpaces_spaces conn op with same | added
    · exact same ▸ numbered.fresh
    · exact added ▸ numbered.fresh.add
  · rcases withSpaces_spaces conn op with same | added
    · exact same ▸ .refl _
    · exact added ▸ numbered.fresh.add_advances

private theorem getSpaceId_oneRtt {pathId : Nat} {spaceId : SpaceId}
    (space : conn.getSpaceId .oneRtt pathId = .ok spaceId) : spaceId = conn.pathSpace pathId := by
  unfold getSpaceId at space
  unfold pathSpace
  cases multipath : conn.isMultipath with
  | false =>
    rw [multipath] at space
    cases space
    rfl
  | true =>
    rw [multipath, if_neg (by decide), if_neg (by decide)] at space
    split at space
    · cases space
      rfl
    · cases space

/-- A packet takes the next number of its space. The packets before it that share its key and
number belong to the same space, so that their packet numbers are lower. -/
theorem Numbered.sendPacket {conn next : SealConn} {pktType : PacketType} {pathId : Nat}
    (numbered : Numbered conn) (recorded : Recorded conn)
    (unshared : Unshared conn (.sendPacket pktType pathId))
    (sent : conn.sendPacket pktType pathId = some next) : Numbered next := by
  unfold SealConn.sendPacket at sent
  cases space : conn.getSpaceId pktType pathId with
  | error error => simp [space] at sent
  | ok spaceId =>
    simp only [space] at sent
    split at sent
    case h_2 => cases sent
    case h_1 pktNum dcidSeq counter path =>
      obtain ⟨passed, same⟩ := Option.ite_none_left_eq_some.mp sent
      cases same
      have small : pktNum < u64Max := by
        rw [Bool.or_eq_true, not_or, decide_eq_true_eq, Nat.not_le] at passed
        exact passed.2
      have advanced := conn.spaces.set_advances (Nat.le_succ pktNum) counter
      have kept : Numbered { conn with spaces := conn.spaces.set spaceId (pktNum + 1) } :=
        numbered.grow rfl rfl (Nat.le_refl _) (numbered.fresh.set counter) advanced
      by_cases oneRtt : (decide (pktType = .oneRtt) && !conn.isEncryptionDisabled pktType) = true
      · rw [if_pos oneRtt]
        obtain ⟨isOneRtt, _⟩ := Bool.and_eq_true_iff.mp oneRtt
        cases of_decide_eq_true isOneRtt
        have mine := getSpaceId_oneRtt space
        have number : conn.numberOf pathId = some ((conn.nonceSeq dcidSeq).getD 0) :=
          Option.map_eq_some_iff.mpr ⟨dcidSeq, path, rfl⟩
        refine ⟨kept.fresh, ?_, ?_, ?_, ?_, List.pairwise_cons.mpr ⟨?_, numbered.distinct⟩⟩
        · exact List.forall_mem_cons.mpr ⟨Nat.le_refl _, kept.past⟩
        · exact List.forall_mem_cons.mpr
            ⟨⟨pktNum + 1, OrdMap.get?_insert_self _ _ _, Nat.lt_succ_self _⟩, kept.below⟩
        · exact List.forall_mem_cons.mpr ⟨small, kept.small⟩
        · exact List.forall_mem_cons.mpr ⟨mine ▸ recorded pathId _ number, kept.noted⟩
        · intro earlier member sameKey same
          have owner : earlier.spaceId = spaceId :=
            (unshared _ (numbered.noted earlier member) sameKey.symm
              (same.1 ▸ number)).trans mine.symm
          obtain ⟨after, found, less⟩ := numbered.below earlier member
          rw [owner, counter] at found
          cases found
          exact absurd same.2 (Nat.ne_of_gt less)
      · rw [if_neg oneRtt]
        exact kept

private theorem step_numbered {conn next : SealConn} {op : Op}
    (kept : Numbered conn ∧ Recorded conn) (unshared : Unshared conn op)
    (stepped : conn.step op = some next) : Numbered next ∧ Recorded next := by
  cases op with
  | ids op =>
    obtain ⟨_, moved⟩ := Option.ite_none_left_eq_some.mp stepped
    obtain ⟨ids, _, rfl⟩ := Option.map_eq_some_iff.mp moved
    exact ⟨(kept.1.withSpaces op ids).record, recorded_record _⟩
  | sendPacket pktType pathId =>
    obtain ⟨sent, sends, rfl⟩ := Option.map_eq_some_iff.mp stepped
    exact ⟨(kept.1.sendPacket kept.2 unshared sends).record, recorded_record _⟩
  | updateKey =>
    cases stepped
    refine ⟨Numbered.record ?_, recorded_record _⟩
    exact kept.1.grow rfl rfl (Nat.le_succ _) kept.1.fresh (.refl _)

/-- As long as paths with packet number spaces of their own send under ids that differ in the low
32 bits of their sequence numbers, no nonce is used twice with a key. -/
theorem nonces_unique (config : CidConfig) (localAddr remoteAddr : SocketAddr) (addrToken : Bool)
    (initialScid : ConnectionId) (scidToken : Option ResetToken) (dcid : ConnectionId)
    (dcidToken : Option ResetToken) (disableEncryption : Bool) (conn : SealConn)
    (run : Run step Unshared
      (start config localAddr remoteAddr addrToken initialScid scidToken dcid dcidToken
        disableEncryption) conn) : NoncesUnique conn := by
  refine Numbered.unique (run.invariant
    (fun _ _ _ kept unshared stepped => step_numbered kept unshared stepped)
    ⟨Numbered.record ?_, recorded_record _⟩).1
  exact ⟨NumberSpaces.new_fresh, List.forall_mem_nil _, List.forall_mem_nil _,
    List.forall_mem_nil _, List.forall_mem_nil _, .nil⟩

/-- A client with one path. -/
def sampleStart : SealConn :=
  start (.default false) (.localhost 1) (.localhost 2) false (.new [7]) none (.new [8]) none false

/-- The client adds a path, for which the peer gave an id with the sequence number `seqNum`, and
sends a packet on either path. -/
def twoPaths (seqNum : Nat) : List Op :=
  [.ids .completeHandshake, .ids .enableMultipath, .ids (.newConnectionId seqNum 0 (.new [9]) 1),
    .ids (.addPath (.localhost 3) (.localhost 2)), .sendPacket .oneRtt 0, .sendPacket .oneRtt 1]

/-- The sequence numbers 0 and 2^32 have the same low 32 bits. -/
theorem truncated_number_repeats_nonce :
    ¬ ∀ conn : SealConn, Run step anyStep sampleStart conn → NoncesUnique conn := by
  intro always
  have unique := always _ (Run.of_exec
    (show exec step sampleStart (twoPaths (2 ^ 32)) = some _ from rfl))
  exact absurd ⟨rfl, rfl⟩ ((List.pairwise_cons.mp unique).1 _ List.mem_cons_self rfl).1

/-- The packets of the two paths have the same number. -/
theorem two_paths_unique :
    ∃ conn : SealConn, conn.sealedPackets.map (·.pktNum) = [0, 0] ∧ NoncesUnique conn := by
  refine ⟨_, ?_, nonces_unique (.default false) (.localhost 1) (.localhost 2) false (.new [7]) none
    (.new [8]) none false _ (Run.of_checked unshared_of_isUnshared (Run.of_exec
      (show exec (checked isUnshared step) sampleStart (twoPaths 1) = some _ from rfl)))⟩
  rfl

end SealConn

end Tquic.Connection
