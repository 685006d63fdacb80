import Tquic.PacketHeaders
import Tquic.TransportParamsRoundTrip

/-! What the parsers make of the connection ids on the wire. -/

set_option autoImplicit false

namespace Tquic

open Lib Decoder

/-- What is read from the front of the input, nothing where it is malformed. -/
def glance {α : Type} (reader : Decoder (List α)) (buf : Bytes) : List α :=
  match reader.run buf with
  | .ok (values, _) => values
  | .error _ => []

theorem glance_eq {α : Type} {reader : Decoder (List α)} {buf rest : Bytes} {values : List α}
    (ran : reader.run buf = .ok (values, rest)) : glance reader buf = values := by
  unfold glance
  rw [ran]

/-! ## Raw ids -/

namespace Frame

def newCids : Frame → List ConnectionId
  | .newConnectionId _ _ connId _ => [connId]
  | _ => []

def readWireCid : Decoder (List Bytes) := do
  let frameType ← readVarint
  if frameType = 0x18 then
    let _ ← readVarint
    let _ ← readVarint
    let cid ← readWithU8Length
    return [cid]
  else return []

end Frame

namespace Header

def readWireCids : Decoder (List Bytes) := do
  let first ← readFirst
  if longHeader first then
    let _ ← readVersion
    let dcid ← readWithU8Length
    let scid ← readWithU8Length
    return [dcid, scid]
  else return []

/-- The version in a long header. -/
def wireVersion (buf : Bytes) : UInt32 := .ofNat (BigEndian.decode ((buf.drop 1).take 4))

end Header

namespace TransportParams

/-- The ids and values of all parameters. -/
def rawParams : Nat → Bytes → List (Nat × Bytes)
  | 0, _ => []
  | turns + 1, buf =>
      match readVarint.run buf with
      | .error _ => []
      | .ok (id, left) =>
          match readWithVarintLength.run left with
          | .error _ => []
          | .ok (val, rest) => (id, val) :: rawParams turns rest

/-- Behind the addresses and their ports. -/
def readPreferredCid : Decoder (List Bytes) := do
  let _ ← read 4
  let _ ← read 2
  let _ ← read 16
  let _ ← read 2
  let cid ← readWithU8Length
  return [cid]

/-- The ids in the value of a parameter. -/
def wireCids (id : Nat) (val : Bytes) : List Bytes :=
  if id = 0x0d then glance readPreferredCid val else [val]

/-- The parameters that hold connection ids. -/
def cidParams : List Nat := [0x00, 0x0d, 0x0f, 0x10]

/-- The ids that a parameter was decoded to. -/
def cidsOf (tp : TransportParams) : Nat → List ConnectionId
  | 0x00 => tp.originalDestinationConnectionId.toList
  | 0x0d => (tp.preferredAddress.map (·.connectionId)).toList
  | 0x0f => tp.initialSourceConnectionId.toList
  | 0x10 => tp.retrySourceConnectionId.toList
  | _ => []

end TransportParams

/-- An input for one of the parsers that read connection ids. -/
inductive CidInput where
  | frame (buf : Bytes) (pkt : PacketType)
  | params (buf : Bytes) (isServer : Bool)
  | header (buf : Bytes) (dcidLen : Nat)

namespace CidInput

def wire : CidInput → List Bytes
  | .frame buf _ => glance Frame.readWireCid buf
  | .params buf _ =>
      TransportParams.cidParams.flatMap fun id =>
        (((TransportParams.rawParams buf.length buf).lookup id).map
          (TransportParams.wireCids id)).getD []
  | .header buf _ => glance Header.readWireCids buf

/-- The ids that the parser returns. -/
def decoded : CidInput → Except Error (List ConnectionId)
  | .frame buf pkt =>
      match Frame.fromBytes buf pkt with
      | .ok (found, _) => .ok found.newCids
      | .error error => .error error
  | .params buf isServer =>
      match TransportParams.decode buf isServer with
      | .ok (tp, _) => .ok (TransportParams.cidParams.flatMap tp.cidsOf)
      | .error error => .error error
  | .header buf dcidLen =>
      match Header.fromBytes buf dcidLen with
      | .ok (hdr, _) => .ok (if longHeader (buf.headD 0) then [hdr.dcid, hdr.scid] else [])
      | .error error => .error error

/-- No id is too long for a `ConnectionId`. Only a long header of a supported version is checked
by its parser. -/
def Fits (input : CidInput) : Prop :=
  match input with
  | .header buf _ =>
      versionIsSupported (Header.wireVersion buf) = true ∨
        ∀ cid ∈ input.wire, cid.length ≤ maxCidLen
  | _ => ∀ cid ∈ input.wire, cid.length ≤ maxCidLen

end CidInput

/-! ## Frames -/

namespace Frame

private theorem parseFields_other {frameType : Nat} (other : frameType ≠ 0x18) :
    Yields (fun frame => frame.newCids = []) (parseFields frameType) := by
  have stream : ∀ withOffset withLength fin,
      Yields (fun frame => frame.newCids = []) (parseStreamFrame withOffset withLength fin) := by
    intro withOffset withLength fin
    have data : ∀ streamId offset length, Yields (fun frame => frame.newCids = [])
        (if offset + length ≥ maxStreamSize then throw .frameEncodingError
        else do
          let data ← readData length
          return .stream streamId offset length fin data : Decoder Frame) := by
      intro streamId offset length
      split
      · exact .throw _
      · exact .bind fun _ => .pure rfl
    refine .bind fun streamId => ?_
    cases withOffset with
    | true =>
        cases withLength with
        | true => exact .bind fun offset => .bind fun length => data streamId offset length
        | false => exact .bind fun offset => .bind fun length => data streamId offset length
    | false =>
        cases withLength with
        | true => exact .bind fun offset => .bind fun length => data streamId offset length
        | false => exact .bind fun offset => .bind fun length => data streamId offset length
  have ack : ∀ withEcn, Yields (fun frame => frame.newCids = []) (parseAckFrame withEcn) := by
    intro withEcn
    refine .bind fun _ => .bind fun _ => .bind fun _ => .bind fun _ => ?_
    split
    · exact .throw _
    · refine .bind fun _ => ?_
      split
      · exact .bind fun _ => .pure rfl
      · exact .pure rfl
  unfold parseFields
  split
  case h_1 =>
    intro before _ after ran
    cases ran
    rfl
  case h_3 | h_4 => exact ack _
  case h_9 | h_10 | h_11 | h_12 | h_13 | h_14 | h_15 | h_16 => exact stream _ _ _
  case h_25 => exact absurd rfl other
  all_goals
    first
    | exact .throw _
    | exact .pure rfl
    | exact .bind fun _ => .pure rfl
    | exact .bind fun _ => .bind fun _ => .pure rfl
    | exact .bind fun _ => .bind fun _ => .bind fun _ => .pure rfl

private theorem newCids_eq {buf : Bytes} {pkt : PacketType} {frame : Frame} {len : Nat}
    (accepted : fromBytes buf pkt = .ok (frame, len)) :
    frame.newCids = (glance readWireCid buf).map .new := by
  have read : ∃ rest, readFrame.run buf = .ok (frame, rest) := by
    unfold fromBytes at accepted
    split at accepted
    · cases accepted
    · rename_i found rest ran
      split at accepted
      · cases accepted
        exact ⟨rest, ran⟩
      · cases accepted
  obtain ⟨rest, ran⟩ := read
  obtain ⟨frameType, left, kind, fields⟩ := run_bind_ok.mp ran
  by_cases announces : frameType = 0x18
  · subst announces
    obtain ⟨seqNum, afterSeq, first, fields⟩ := run_bind_ok.mp fields
    obtain ⟨retirePriorTo, afterRetire, second, fields⟩ := run_bind_ok.mp fields
    obtain ⟨cid, afterCid, third, fields⟩ := run_bind_ok.mp fields
    obtain ⟨token, afterToken, _, fields⟩ := run_bind_ok.mp fields
    obtain ⟨rfl, _⟩ := Reader.run_pure_ok.mp fields
    have raw : readWireCid.run buf = .ok ([cid], afterCid) := by
      refine run_bind_ok.mpr ⟨_, _, kind, ?_⟩
      rw [if_pos rfl]
      exact run_bind_ok.mpr ⟨_, _, first, run_bind_ok.mpr ⟨_, _, second, run_bind_ok.mpr
        ⟨_, _, third, rfl⟩⟩⟩
    rw [glance_eq raw]
    rfl
  · have raw : readWireCid.run buf = .ok ([], left) := by
      refine run_bind_ok.mpr ⟨_, _, kind, ?_⟩
      rw [if_neg announces]
      rfl
    rw [glance_eq raw, parseFields_other announces _ _ _ fields]
    rfl

end Frame

/-! ## Long headers -/

namespace Header

variable {version : UInt32}

theorem readCid_ok {cid input rest : Bytes} (ran : (readCid version).run input = .ok (cid, rest)) :
    readWithU8Length.run input = .ok (cid, rest) ∧
      (versionIsSupported version = true → cid.length ≤ maxCidLen) := by
  obtain ⟨cidLen, left, first, second⟩ := run_bind_ok.mp ran
  split_ifs at second with long
  · cases second
  · refine ⟨run_bind_ok.mpr ⟨cidLen, left, first, second⟩, fun supported => ?_⟩
    rw [(Reader.run_take_ok second).1]
    exact Nat.not_lt.mp fun more => long ⟨supported, more⟩

variable {buf rest : Bytes}

private theorem readVersion_ok {first : UInt8}
    (ran : readVersion.run buf = .ok (version, rest)) : wireVersion (first :: buf) = version := by
  obtain ⟨value, read, rfl⟩ := Reader.run_map_ok.mp ran
  obtain ⟨bytes, taken, rfl⟩ := Reader.run_map_ok.mp read
  obtain ⟨length, rfl⟩ := Reader.run_take_ok taken
  unfold wireVersion
  rw [List.drop_succ_cons, List.drop_zero, ← length, List.take_left]

private theorem readFirst_ok {first : UInt8}
    (ran : readFirst.run buf = .ok (first, rest)) : buf = first :: rest := by
  obtain ⟨value, read, rfl⟩ := Reader.run_map_ok.mp ran
  obtain ⟨bytes, taken, rfl⟩ := Reader.run_map_ok.mp read
  obtain ⟨length, rfl⟩ := Reader.run_take_ok taken
  obtain ⟨byte, rfl⟩ := List.length_eq_one_iff.mp length
  rw [BigEndian.decode_singleton, UInt8.ofNat_toNat]
  rfl

private theorem readType_ok {first : UInt8} {pktType : PacketType}
    (ran : (readType first version).run buf = .ok (pktType, rest)) : buf = rest := by
  unfold readType at ran
  split at ran
  · exact (Reader.run_pure_ok.mp ran).2
  · split at ran
    case h_5 => cases ran
    all_goals exact (Reader.run_pure_ok.mp ran).2

/-- Both parsers read the same ids, short ones where the version is known. -/
theorem cids_eq {buf : Bytes} {dcidLen len : Nat} {hdr : Header}
    (accepted : fromBytes buf dcidLen = .ok (hdr, len)) :
    (if longHeader (buf.headD 0) then [hdr.dcid, hdr.scid] else []) =
        (glance readWireCids buf).map .new ∧ (versionIsSupported (wireVersion buf) = true →
        ∀ cid ∈ glance readWireCids buf, cid.length ≤ maxCidLen) := by
  have read : ∃ rest, (readHeader dcidLen).run buf = .ok (hdr, rest) := by
    unfold fromBytes at accepted
    split at accepted
    · cases accepted
    · rename_i found rest ran
      cases accepted
      exact ⟨rest, ran⟩
  obtain ⟨rest, ran⟩ := read
  obtain ⟨first, left, begins, fields⟩ := run_bind_ok.mp ran
  obtain rfl := readFirst_ok begins
  rw [List.headD_cons]
  by_cases long : longHeader first = true
  · rw [if_pos long] at fields ⊢
    obtain ⟨version, afterVersion, versionRead, fields⟩ := run_bind_ok.mp fields
    obtain ⟨pktType, afterType, typeRead, fields⟩ := run_bind_ok.mp fields
    obtain rfl := readType_ok typeRead
    obtain ⟨dcid, afterDcid, dcidRead, fields⟩ := run_bind_ok.mp fields
    obtain ⟨scid, afterScid, scidRead, fields⟩ := run_bind_ok.mp fields
    obtain ⟨token, afterToken, _, fields⟩ := run_bind_ok.mp fields
    obtain ⟨rfl, _⟩ := Reader.run_pure_ok.mp fields
    obtain ⟨dcidRaw, dcidShort⟩ := readCid_ok dcidRead
    obtain ⟨scidRaw, scidShort⟩ := readCid_ok scidRead
    have raw : readWireCids.run (first :: left) = .ok ([dcid, scid], afterScid) := by
      refine run_bind_ok.mpr ⟨_, _, begins, ?_⟩
      rw [if_pos long]
      exact run_bind_ok.mpr ⟨_, _, versionRead, run_bind_ok.mpr ⟨_, _, dcidRaw, run_bind_ok.mpr
        ⟨_, _, scidRaw, rfl⟩⟩⟩
    rw [glance_eq raw, readVersion_ok versionRead]
    refine ⟨rfl, fun supported cid member => ?_⟩
    rcases List.mem_pair.mp member with rfl | rfl
    · exact dcidShort supported
    · exact scidShort supported
  · have raw : readWireCids.run (first :: left) = .ok ([], left) := by
      refine run_bind_ok.mpr ⟨_, _, begins, ?_⟩
      rw [if_neg long]
      rfl
    rw [if_neg long, glance_eq raw]
    exact ⟨rfl, fun _ _ member => absurd member List.not_mem_nil⟩

end Header

/-! ## Transport parameters -/

namespace TransportParams

private theorem readPreferred_ok {address : PreferredAddress} {val rest : Bytes}
    (ran : PreferredAddress.fromBytes.run val = .ok (address, rest)) :
    [address.connectionId] = (glance readPreferredCid val).map .new := by
  obtain ⟨ipv4, afterV4, first, fields⟩ := run_bind_ok.mp ran
  obtain ⟨ipv6, afterV6, second, fields⟩ := run_bind_ok.mp fields
  obtain ⟨cidLen, afterLen, third, fields⟩ := run_bind_ok.mp fields
  obtain ⟨cid, afterCid, fourth, fields⟩ := run_bind_ok.mp fields
  obtain ⟨token, afterToken, _, fields⟩ := run_bind_ok.mp fields
  obtain ⟨rfl, _⟩ := Reader.run_pure_ok.mp fields
  have array : ∀ {len : Nat} {array : Vector UInt8 len} {input left : Bytes},
      (Frame.readArray len).run input = .ok (array, left) →
        ∃ bytes, (read len).run input = .ok (bytes, left) := by
    intro len array input left ran
    obtain ⟨bytes, middle, taken, made⟩ := run_bind_ok.mp ran
    split_ifs at made
    · obtain ⟨_, rfl⟩ := Reader.run_pure_ok.mp made
      exact ⟨bytes, taken⟩
    · cases made
  have port : ∀ {value : Nat} {input left : Bytes}, readU16.run input = .ok (value, left) →
      ∃ bytes, (read 2).run input = .ok (bytes, left) := by
    intro value input left ran
    obtain ⟨bytes, taken, _⟩ := Reader.run_map_ok.mp ran
    exact ⟨bytes, taken⟩
  obtain ⟨ip, afterIp, ipRead, fields⟩ := run_bind_ok.mp first
  obtain ⟨number, afterPort, portRead, fields⟩ := run_bind_ok.mp fields
  obtain ⟨_, rfl⟩ := Reader.run_pure_ok.mp fields
  obtain ⟨ip6, afterIp6, ip6Read, fields⟩ := run_bind_ok.mp second
  obtain ⟨number6, afterPort6, port6Read, fields⟩ := run_bind_ok.mp fields
  obtain ⟨_, rfl⟩ := Reader.run_pure_ok.mp fields
  obtain ⟨_, ipTaken⟩ := array ipRead
  obtain ⟨_, portTaken⟩ := port portRead
  obtain ⟨_, ip6Taken⟩ := array ip6Read
  obtain ⟨_, port6Taken⟩ := port port6Read
  have raw : readPreferredCid.run val = .ok ([cid], afterCid) :=
    run_bind_ok.mpr ⟨_, _, ipTaken, run_bind_ok.mpr ⟨_, _, portTaken, run_bind_ok.mpr
      ⟨_, _, ip6Taken, run_bind_ok.mpr ⟨_, _, port6Taken, run_bind_ok.mpr
        ⟨_, _, run_bind_ok.mpr ⟨_, _, third, fourth⟩, rfl⟩⟩⟩⟩⟩
  rw [glance_eq raw]
  rfl

variable {isServer : Bool}

private theorem setParam_cids {id : Nat} {tp next : TransportParams} {val rest : Bytes}
    (stored : (setParam isServer id tp).run val = .ok (next, rest)) {other : Nat}
    (known : other ∈ cidParams) :
    next.cidsOf other = if other = id then (wireCids id val).map .new else tp.cidsOf other := by
  have elsewhere : id ∉ cidParams → next.cidsOf other = tp.cidsOf other →
      next.cidsOf other = if other = id then (wireCids id val).map .new else tp.cidsOf other := by
    intro foreign same
    rw [if_neg (fun equal : other = id => foreign (equal ▸ known)), same]
  have choices : other = 0x00 ∨ other = 0x0d ∨ other = 0x0f ∨ other = 0x10 := by
    simpa [cidParams] using known
  unfold setParam at stored
  split at stored
  case h_1 =>
    obtain ⟨rfl, stored⟩ := serverParam_ok stored
    obtain ⟨_, _, got, rfl⟩ := setField_ok stored
    cases got
    rcases choices with rfl | rfl | rfl | rfl <;> rfl
  case h_16 =>
    obtain ⟨_, _, got, rfl⟩ := setField_ok stored
    cases got
    rcases choices with rfl | rfl | rfl | rfl <;> rfl
  case h_17 =>
    obtain ⟨rfl, stored⟩ := serverParam_ok stored
    obtain ⟨_, _, got, rfl⟩ := setField_ok stored
    cases got
    rcases choices with rfl | rfl | rfl | rfl <;> rfl
  case h_14 =>
    obtain ⟨rfl, stored⟩ := serverParam_ok stored
    obtain ⟨address, _, found, rfl⟩ := setField_ok stored
    rcases choices with rfl | rfl | rfl | rfl
    · rfl
    · exact readPreferred_ok found
    · rfl
    · rfl
  case h_3 =>
    obtain ⟨rfl, stored⟩ := serverParam_ok stored
    obtain ⟨_, _, _, rfl⟩ := setField_ok stored
    exact elsewhere (by decide) rfl
  case h_13 | h_18 | h_19 =>
    obtain ⟨rfl, _⟩ := Reader.run_pure_ok.mp stored
    exact elsewhere (by decide) rfl
  case h_20 =>
    obtain ⟨rfl, _⟩ := Reader.run_pure_ok.mp stored
    refine elsewhere ?_ rfl
    simp_all [cidParams]
  all_goals
    obtain ⟨_, _, _, rfl⟩ := setField_ok stored
    exact elsewhere (by decide) rfl

private theorem rawParams_cons {turns : Nat} {buf left rest val : Bytes} {id : Nat}
    (first : readVarint.run buf = .ok (id, left))
    (second : readWithVarintLength.run left = .ok (val, rest)) :
    rawParams (turns + 1) buf = (id, val) :: rawParams turns rest := by
  simp only [rawParams, first, second]

private theorem decodeParams_cids {turns : Nat} {foundParams : List Nat}
    {tp after : TransportParams} {buf : Bytes}
    (decoded : decodeParams isServer turns foundParams tp buf = .ok after) {other : Nat}
    (known : other ∈ cidParams) :
    (other ∈ foundParams → (rawParams turns buf).lookup other = none) ∧
      after.cidsOf other =
        match (rawParams turns buf).lookup other with
        | some val => (wireCids other val).map .new
        | none => tp.cidsOf other := by
  induction turns generalizing foundParams tp buf with
  | zero =>
      cases buf with
      | nil =>
          cases decoded
          exact ⟨fun _ => rfl, rfl⟩
      | cons => cases decoded
  | succ turns ih =>
      cases buf with
      | nil =>
          cases decoded
          exact ⟨fun _ => rfl, rfl⟩
      | cons byte buf =>
          obtain ⟨id, left, val, rest, next, ignored, first, second, stored, fresh, later⟩ :=
            decodeParams_cons decoded
          obtain ⟨once, rests⟩ := ih later
          have field := setParam_cids stored known
          rw [rawParams_cons first second, List.lookup_cons]
          by_cases same : other = id
          · subst same
            have last := once (.head _)
            rw [last] at rests
            simp only [beq_self_eq_true]
            refine ⟨fun seen => absurd seen fresh, ?_⟩
            rw [rests, field, if_pos rfl]
          · have differs : (other == id) = false := beq_false_of_ne same
            rw [differs]
            refine ⟨fun seen => once (.tail _ seen), ?_⟩
            rw [rests, field, if_neg same]

private theorem decode_cids {buf : Bytes} {tp : TransportParams} {len : Nat}
    (accepted : decode buf isServer = .ok (tp, len)) {id : Nat} (known : id ∈ cidParams) :
    tp.cidsOf id =
      ((((rawParams buf.length buf).lookup id).map (wireCids id)).getD []).map .new := by
  unfold decode at accepted
  cases looped : decodeParams isServer buf.length [] default buf with
  | error error =>
      rw [looped] at accepted
      cases accepted
  | ok after =>
      rw [looped] at accepted
      cases accepted
      rw [(decodeParams_cids looped known).2]
      have choices : id = 0x00 ∨ id = 0x0d ∨ id = 0x0f ∨ id = 0x10 := by
        simpa [cidParams] using known
      cases (rawParams buf.length buf).lookup id with
      | some val => rfl
      | none => rcases choices with rfl | rfl | rfl | rfl <;> rfl

end TransportParams

/-! ## All parsers -/

namespace CidInput

/-- What is decoded are the ids on the wire, as far as a `ConnectionId` holds them. -/
theorem decoded_eq {input : CidInput} {cids : List ConnectionId}
    (accepted : input.decoded = .ok cids) : cids = input.wire.map .new := by
  cases input with
  | frame buf pkt =>
      unfold decoded at accepted
      dsimp only at accepted
      split at accepted
      · rename_i found len parsed
        cases accepted
        exact Frame.newCids_eq parsed
      · cases accepted
  | params buf isServer =>
      unfold decoded at accepted
      dsimp only at accepted
      split at accepted
      · rename_i tp len parsed
        cases accepted
        unfold wire
        rw [List.map_flatMap]
        exact List.flatMap_congr fun id known => TransportParams.decode_cids parsed known
      · cases accepted
  | header buf dcidLen =>
      unfold decoded at accepted
      dsimp only at accepted
      split at accepted
      · rename_i hdr len parsed
        cases accepted
        exact (Header.cids_eq parsed).1
      · cases accepted

theorem fits_iff {input : CidInput} {cids : List ConnectionId}
    (accepted : input.decoded = .ok cids) :
    Fits input ↔ ∀ cid ∈ input.wire, cid.length ≤ maxCidLen := by
  cases input with
  | frame buf pkt => exact Iff.rfl
  | params buf isServer => exact Iff.rfl
  | header buf dcidLen =>
      refine ⟨fun fits => ?_, .inr⟩
      rcases fits with supported | short
      · unfold decoded at accepted
        dsimp only at accepted
        split at accepted
        · rename_i hdr len parsed
          exact (Header.cids_eq parsed).2 supported
        · cases accepted
      · exact short

private theorem new_bytes_iff (wire : Bytes) :
    (ConnectionId.new wire).bytes = wire ↔ wire.length ≤ maxCidLen := by
  unfold ConnectionId.new
  exact List.take_eq_self_iff wire

private theorem map_new_bytes_iff (wires : List Bytes) :
    (wires.map ConnectionId.new).map (·.bytes) = wires ↔
      ∀ wire ∈ wires, wire.length ≤ maxCidLen := by
  induction wires with
  | nil => simp
  | cons wire wires ih =>
      rw [List.map_cons, List.map_cons, List.cons.injEq, ih, new_bytes_iff, List.forall_mem_cons]

/-- An accepted input has its connection ids decoded to the bytes on the wire, none of them too
long, if and only if it fits; and inputs that fit and are decoded to the same ids have the same ids
on the wire. -/
theorem cids_faithful_iff (input : CidInput) (cids : List ConnectionId)
    (accepted : input.decoded = .ok cids) :
    ((cids.map (·.bytes) = input.wire ∧ ∀ cid ∈ input.wire, cid.length ≤ maxCidLen) ↔
      Fits input) ∧
      ∀ other : CidInput, Fits input → Fits other → other.decoded = .ok cids →
        other.wire = input.wire := by
  have faithful : ∀ {input : CidInput}, input.decoded = .ok cids → Fits input →
      cids.map (·.bytes) = input.wire := by
    intro input accepted fits
    rw [decoded_eq accepted]
    exact (map_new_bytes_iff input.wire).mpr ((fits_iff accepted).mp fits)
  refine ⟨⟨fun whole => (fits_iff accepted).mpr whole.2, fun fits => ?_⟩, ?_⟩
  · exact ⟨faithful accepted fits, (fits_iff accepted).mp fits⟩
  · intro other fits otherFits otherAccepted
    rw [← faithful accepted fits, ← faithful otherAccepted otherFits]

/-- A frame that announces an id of four bytes. -/
theorem cids_faithful_frame :
    [[1, 2, 3, 4]] =
        wire (.frame ([0x18, 1, 0, 4, 1, 2, 3, 4] ++ List.replicate 16 0) .oneRtt) ∧
      ∀ cid ∈ wire (.frame ([0x18, 1, 0, 4, 1, 2, 3, 4] ++ List.replicate 16 0) .oneRtt),
        cid.length ≤ maxCidLen :=
  (cids_faithful_iff (.frame ([0x18, 1, 0, 4, 1, 2, 3, 4] ++ List.replicate 16 0) .oneRtt)
    [.new [1, 2, 3, 4]] rfl).1.mpr
      (show ∀ cid ∈ ([[1, 2, 3, 4]] : List Bytes), cid.length ≤ maxCidLen by decide)

/-- Ids of 21 bytes are cut by each parser, and two of them that differ in the last byte become the
same. -/
theorem cids_not_faithful :
    ¬ (∀ (input : CidInput) cids, input.decoded = .ok cids → cids.map (·.bytes) = input.wire) ∧
      (∃ input other : CidInput, ∃ cids, input.decoded = .ok cids ∧ other.decoded = .ok cids ∧
        input.wire ≠ other.wire) ∧
      CidInput.decoded (.params ([0x0f, 21] ++ List.replicate 21 7) true) =
        .ok [.new (List.replicate 20 7)] ∧
      CidInput.decoded (.header ([0xc0, 0, 0, 0, 9, 21] ++ List.replicate 21 7 ++ [0, 0]) 8) =
        .ok [.new (List.replicate 20 7), .new []] := by
  have cut : ∀ last : UInt8, last = 7 ∨ last = 8 →
      CidInput.decoded (.frame ([0x18, 1, 0, 21] ++ List.replicate 20 7 ++ [last] ++
        List.replicate 16 0) .oneRtt) = .ok [.new (List.replicate 20 7)] := by
    rintro last (rfl | rfl) <;> rfl
  refine ⟨fun all => ?_, ?_, rfl, rfl⟩
  · exact absurd (all _ _ (cut 7 (.inl rfl))) (by decide)
  · exact ⟨_, _, _, cut 7 (.inl rfl), cut 8 (.inr rfl), by decide⟩

end CidInput

end Tquic
