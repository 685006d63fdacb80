import Tquic.TokenKeys

/-! What a token is bound to. Its associated data is the address of the client, its port and a
connection id, one behind the other, so that an IPv4 client and an IPv6 client may have the same;
the type of the token is not authenticated at all. -/

set_option autoImplicit false

namespace Tquic

open Lib

def IpAddr.isIpv4 : IpAddr → Bool
  | .v4 _ => true
  | .v6 _ => false

namespace AddressToken

/-! ## Contexts with the same bytes -/

private theorem octets_inj {left right : IpAddr} (family : left.isIpv4 = right.isIpv4)
    {leftRest rightRest : Bytes} (same : octets left ++ leftRest = octets right ++ rightRest) :
    left = right ∧ leftRest = rightRest := by
  cases left with
  | v4 left =>
      cases right with
      | v4 right =>
          obtain ⟨octets, rests⟩ := List.append_inj same (by simp [octets])
          exact ⟨congrArg IpAddr.v4 (Vector.toList_inj.mp octets), rests⟩
      | v6 right => cases family
  | v6 left =>
      cases right with
      | v4 right => cases family
      | v6 right =>
          obtain ⟨octets, rests⟩ := List.append_inj same (by simp [octets])
          exact ⟨congrArg IpAddr.v6 (Vector.toList_inj.mp octets), rests⟩

private theorem encode_port_inj {left right : UInt16}
    (same : BigEndian.encode 2 left.toNat = BigEndian.encode 2 right.toNat) : left = right := by
  have decoded := congrArg BigEndian.decode same
  rw [BigEndian.decode_encode left.toNat_lt, BigEndian.decode_encode right.toNat_lt] at decoded
  exact UInt16.toNat_inj.mp decoded

private theorem contextBytes_inj {left right : SocketAddr} {leftCid rightCid : Option ConnectionId}
    (family : left.ip.isIpv4 = right.ip.isIpv4)
    (same : contextBytes left leftCid = contextBytes right rightCid) :
    left.ip = right.ip ∧ leftCid = rightCid ∧ (leftCid.isSome = true → left.port = right.port) := by
  obtain ⟨ip, rests⟩ := octets_inj family same
  refine ⟨ip, ?_⟩
  cases leftCid with
  | none =>
      cases rightCid with
      | none => exact ⟨rfl, fun impossible => by cases impossible⟩
      | some other =>
          have lengths := congrArg List.length rests
          simp only [Option.elim, List.length_nil, List.length_append,
            BigEndian.length_encode] at lengths
          omega
  | some cid =>
      cases rightCid with
      | none =>
          have lengths := congrArg List.length rests
          simp only [Option.elim, List.length_nil, List.length_append,
            BigEndian.length_encode] at lengths
          omega
      | some other =>
          obtain ⟨ports, cids⟩ := List.append_inj rests (by simp)
          refine ⟨?_, fun _ => encode_port_inj ports⟩
          rw [← cid.new_bytes, ← other.new_bytes, cids]

/-! ## The type of a token -/

/-- The token with another byte for its type. -/
def stamp (bytes : Bytes) (code : UInt8) : Bytes := bytes.set 4 code

/-- The first bytes of a token, whatever stands for its type. -/
def stampedHeader (code : UInt8) (nonce : Vector UInt8 12) : Bytes := label ++ (code :: nonce.toList)

theorem header_eq (tokenType : AddressTokenType) (nonce : Vector UInt8 12) :
    header tokenType nonce = stampedHeader (.ofNat tokenType.code) nonce := by
  cases tokenType <;> rfl

theorem stamp_header (tokenType : AddressTokenType) (nonce : Vector UInt8 12) (body : Bytes)
    (code : UInt8) : stamp (header tokenType nonce ++ body) code = stampedHeader code nonce ++ body := by
  cases tokenType <;> rfl

private theorem decode_unknown {Key : Type} {aead : Aead Key} {key : Key} {code : UInt8}
    {nonce : Vector UInt8 12} {body : Bytes} {address : SocketAddr} {pktDcid : ConnectionId}
    {lifetime : Duration} {now : SystemTime}
    (unknown : ∀ tokenType : AddressTokenType, code ≠ .ofNat tokenType.code) :
    (decode aead key (stampedHeader code nonce ++ body) address pktDcid lifetime now).1 =
      .error .invalidToken := by
  have type : Reads Decoder.readU8 [code] code.toNat := by
    have reads : Reads Decoder.readU8 (BigEndian.encode 1 code.toNat) code.toNat :=
      reads_uint code.toNat_lt
    rwa [show BigEndian.encode 1 code.toNat = [code] by simp [BigEndian.encode]] at reads
  have refused : readHeader.run (stampedHeader code nonce ++ body) = .error .invalidToken := by
    have whole : stampedHeader code nonce ++ body = label ++ ([code] ++ (nonce.toList ++ body)) := by
      simp [stampedHeader]
    obtain ⟨more, later⟩ : ∃ more, code.toNat = more + 2 := by
      refine ⟨code.toNat - 2, ?_⟩
      have retry : code.toNat ≠ 0 := fun same => unknown .retryToken (UInt8.toNat_inj.mp same)
      have resume : code.toNat ≠ 1 := fun same => unknown .resumeToken (UInt8.toNat_inj.mp same)
      omega
    rw [later] at type
    rw [whole]
    exact (reads_bytes label).run_bind_error (type.run_bind_error rfl)
  unfold decode
  rw [refused]

/-! ## Reading the body as one of either type -/

/-- A connection id behind its length, or a zero. -/
def SpellsCid (text : Bytes) : Prop :=
  ∃ len rest, text = len :: rest ∧ len.toNat ≤ 20 ∧ len.toNat ≤ rest.length

private theorem readOdcid_retry_iff {text : Bytes} {pktDcid : ConnectionId} :
    (∃ result, (readOdcid .retryToken pktDcid).run text = .ok result) ↔ SpellsCid text := by
  cases text with
  | nil =>
      constructor
      · rintro ⟨_, impossible⟩
        cases impossible
      · rintro ⟨_, _, impossible, _⟩
        cases impossible
  | cons len rest =>
      have length : Reads Decoder.readU8 [len] len.toNat := by
        have reads : Reads Decoder.readU8 (BigEndian.encode 1 len.toNat) len.toNat :=
          reads_uint len.toNat_lt
        rwa [show BigEndian.encode 1 len.toNat = [len] by simp [BigEndian.encode]] at reads
      have spells : SpellsCid (len :: rest) ↔ len.toNat ≤ 20 ∧ len.toNat ≤ rest.length := by
        constructor
        · rintro ⟨_, _, same, short⟩
          cases same
          exact short
        · exact fun short => ⟨len, rest, rfl, short⟩
      rw [spells]
      constructor
      · rintro ⟨result, ran⟩
        obtain ⟨cidLen, left, first, continues⟩ := run_bind_ok.mp ran
        cases (length rest).symm.trans first
        split_ifs at continues with zero short
        · omega
        · obtain ⟨cid, after, taken, _⟩ := run_bind_ok.mp continues
          obtain ⟨count, rfl⟩ := Reader.run_take_ok taken
          rw [List.length_append, count]
          exact ⟨short, Nat.le_add_right _ _⟩
        · cases continues
      · rintro ⟨short, enough⟩
        have front : rest = rest.take len.toNat ++ rest.drop len.toNat :=
          (List.take_append_drop _ _).symm
        have taken : (Decoder.read len.toNat).run rest =
            .ok (rest.take len.toNat, rest.drop len.toNat) := by
          have reads := reads_bytes (rest.take len.toNat) (rest.drop len.toNat)
          rwa [List.length_take, Nat.min_eq_left enough, ← front] at reads
        by_cases zero : len.toNat = 0
        · refine ⟨(none, rest), length.run_bind ?_⟩
          rw [if_pos zero]
          rfl
        · refine ⟨(some (.new (rest.take len.toNat)), rest.drop len.toNat), length.run_bind ?_⟩
          rw [if_neg zero, if_pos short, StateT.run_bind, taken]
          rfl

/-- A token that is in time can be read as one of its own type and as a resume token; to be read as
a Retry token it must go on with a connection id. -/
theorem readBody_iff {token : AddressToken} (made : Issued token) (late : 0 ≤ token.issued.nanos)
    (tokenType : AddressTokenType) (pktDcid : ConnectionId) (lifetime : Duration) (now : SystemTime)
    (tag : Bytes) :
    (∃ result, (readBody tokenType pktDcid lifetime now).run (bodyBytes token ++ tag) =
        .ok result) ↔
      InTime lifetime token.issued now ∧
        (token.tokenType = .resumeToken → tokenType = .retryToken → SpellsCid tag) := by
  unfold bodyBytes
  rw [List.append_assoc]
  by_cases inTime : InTime lifetime token.issued now
  · rw [and_iff_right inTime]
    have split : (∃ result, (readBody tokenType pktDcid lifetime now).run
        (BigEndian.encode 8 (token.issued.nanos / 1000000000).toNat ++
          ((token.odcid.elim [] fun odcid =>
            BigEndian.encode 1 odcid.bytes.length ++ odcid.bytes) ++ tag)) = .ok result) ↔
        ∃ result, (readOdcid tokenType pktDcid).run ((token.odcid.elim [] fun odcid =>
          BigEndian.encode 1 odcid.bytes.length ++ odcid.bytes) ++ tag) = .ok result := by
      constructor
      · rintro ⟨⟨value, rest⟩, ran⟩
        obtain ⟨issued, left, first, continues⟩ := run_bind_ok.mp ran
        cases (reads_issued late inTime _).symm.trans first
        obtain ⟨odcid, after, read, _⟩ := run_bind_ok.mp continues
        exact ⟨_, read⟩
      · rintro ⟨⟨odcid, left⟩, read⟩
        exact ⟨((token.issued.wholeSecs, odcid), left), (reads_issued late inTime).run_bind
          (run_bind_ok.mpr ⟨odcid, left, read, rfl⟩)⟩
    rw [split]
    cases tokenType with
    | resumeToken => exact iff_of_true ⟨_, rfl⟩ fun _ impossible => by cases impossible
    | retryToken =>
        cases made with
        | @retry address odcid rscid now =>
            exact iff_of_true ⟨_, reads_odcid odcid pktDcid tag⟩ fun impossible => by
              cases impossible
        | resume => exact readOdcid_retry_iff.trans ⟨fun spells _ _ => spells, fun all => all rfl rfl⟩
  · refine iff_of_false ?_ fun accepted => inTime accepted.1
    rintro ⟨result, ran⟩
    unfold readBody at ran
    rw [StateT.run_bind, refuses_issued late inTime] at ran
    cases ran

/-! ## What is accepted -/

/-- What stands behind the text when it is opened. -/
def tagOf {Key : Type} (aead : Aead Key) (key : Key) (nonce aad plain : Bytes) : Bytes :=
  (aead.openInPlace key nonce aad (aead.sealInPlace key nonce aad plain)).2.drop plain.length

section Accepting

variable {Key : Type} {aead : Aead Key} {key otherKey : Key} {nonce : Vector UInt8 12}
  {token decoded : AddressToken} {bytes : Bytes} {tokenType : AddressTokenType}
  {remote : SocketAddr} {pktDcid : ConnectionId} {lifetime : Duration} {now : SystemTime}

theorem opens_with_tag (correct : aead.Correct) (key : Key) (nonce aad plain : Bytes) :
    aead.openInPlace key nonce aad (aead.sealInPlace key nonce aad plain) =
      (true, plain ++ tagOf aead key nonce aad plain) := by
  obtain ⟨tag, opened⟩ := correct key nonce aad plain
  unfold tagOf
  rw [opened, List.drop_left]

theorem decoded_presented
    (accepted : (decode aead otherKey (header tokenType nonce ++ bytes) remote pktDcid lifetime
      now).1 = .ok decoded) :
    decoded.tokenType = tokenType ∧ decoded.address = remote ∧
      decoded.rscid = contextCid tokenType pktDcid := by
  cases opens : aead.openInPlace otherKey nonce.toList
      (contextBytes remote (contextCid tokenType pktDcid)) bytes with
  | mk authentic opened =>
      cases authentic with
      | false =>
          rw [decode_rejected opens] at accepted
          cases accepted
      | true =>
          cases reads : (readBody tokenType pktDcid lifetime now).run opened with
          | error error =>
              rw [decode_eq opens, reads] at accepted
              cases accepted
          | ok result =>
              obtain ⟨⟨issued, odcid⟩, rest⟩ := result
              rw [decode_opened opens reads] at accepted
              cases accepted
              exact ⟨rfl, rfl, rfl⟩

/-- A token is accepted as one of the given type if it was sealed with the key and for the context
in which it is presented, and can be read as one. -/
theorem decode_accepts_iff (correct : aead.Correct) (ideal : aead.Ideal) (made : token.Issued)
    (late : 0 ≤ token.issued.nanos) :
    (∃ decoded, (decode aead otherKey (header tokenType nonce ++
        aead.sealInPlace key nonce.toList (contextBytes token.address token.rscid)
          (bodyBytes token)) remote pktDcid lifetime now).1 = .ok decoded) ↔
      otherKey = key ∧
        contextBytes remote (contextCid tokenType pktDcid) =
          contextBytes token.address token.rscid ∧
        InTime lifetime token.issued now ∧
        (token.tokenType = .resumeToken → tokenType = .retryToken →
          SpellsCid (tagOf aead key nonce.toList (contextBytes token.address token.rscid)
            (bodyBytes token))) := by
  rw [← readBody_iff made late tokenType pktDcid]
  constructor
  · rintro ⟨decoded, accepted⟩
    cases opens : aead.openInPlace otherKey nonce.toList
        (contextBytes remote (contextCid tokenType pktDcid))
        (aead.sealInPlace key nonce.toList (contextBytes token.address token.rscid)
          (bodyBytes token)) with
    | mk authentic opened =>
        cases authentic with
        | false =>
            rw [decode_rejected opens] at accepted
            cases accepted
        | true =>
            obtain ⟨rfl, -, aad⟩ := ideal _ _ _ _ _ _ _ (congrArg Prod.fst opens)
            refine ⟨rfl, aad, ?_⟩
            rw [aad, opens_with_tag correct] at opens
            cases opens
            cases reads : (readBody tokenType pktDcid lifetime now).run (bodyBytes token ++
                tagOf aead otherKey nonce.toList (contextBytes token.address token.rscid)
                  (bodyBytes token)) with
            | error error =>
                have opened := opens_with_tag correct otherKey nonce.toList
                  (contextBytes token.address token.rscid) (bodyBytes token)
                rw [← aad] at opened accepted
                rw [← aad] at reads
                rw [decode_eq opened, reads] at accepted
                cases accepted
            | ok result => exact ⟨result, rfl⟩
  · rintro ⟨rfl, aad, ⟨⟨issued, odcid⟩, rest⟩, reads⟩
    have opened := opens_with_tag correct otherKey nonce.toList
      (contextBytes token.address token.rscid) (bodyBytes token)
    rw [← aad] at opened reads ⊢
    exact ⟨_, congrArg Prod.fst (decode_opened opened reads)⟩

/-! ## Binding -/

/-- What was accepted is what was issued: a token of the same type, for the same address, and for
the same port and connection id if it is a Retry token. -/
def Bound (issued accepted : AddressToken) : Prop :=
  accepted.tokenType = issued.tokenType ∧ accepted.address.ip = issued.address.ip ∧
    (issued.tokenType = .retryToken →
      accepted.address.port = issued.address.port ∧ accepted.rscid = issued.rscid)

/-- A token of an IPv4 client is taken for one of an IPv6 client, or the other way round: the
address, the port and the connection id of the one spell those of the other. -/
structure Confuses (aead : Aead Key) (key otherKey : Key) (nonce : Vector UInt8 12)
    (token : AddressToken) (tokenType : AddressTokenType) (remote : SocketAddr)
    (pktDcid : ConnectionId) (lifetime : Duration) (now : SystemTime) : Prop where
  families : token.address.ip.isIpv4 ≠ remote.ip.isIpv4
  spelled : contextBytes remote (contextCid tokenType pktDcid) =
    contextBytes token.address token.rscid
  keyed : otherKey = key
  inTime : InTime lifetime token.issued now
  -- The tag of a resume token is read as a connection id.
  tag : token.tokenType = .resumeToken → tokenType = .retryToken →
    SpellsCid (tagOf aead key nonce.toList (contextBytes token.address token.rscid)
      (bodyBytes token))

private theorem bound_of_family (made : token.Issued)
    (family : token.address.ip.isIpv4 = decoded.address.ip.isIpv4)
    (presented : decoded.rscid = contextCid decoded.tokenType pktDcid)
    (spelled : contextBytes decoded.address decoded.rscid =
      contextBytes token.address token.rscid) : Bound token decoded := by
  obtain ⟨ip, cid, port⟩ := contextBytes_inj family.symm spelled
  cases made with
  | @retry address odcid rscid issued =>
      have present : decoded.rscid = some rscid := cid
      have type : decoded.tokenType = .retryToken := by
        cases found : decoded.tokenType with
        | retryToken => rfl
        | resumeToken =>
            rw [found, present] at presented
            cases presented
      exact ⟨type, ip, fun _ => ⟨port (by rw [present]; rfl), cid⟩⟩
  | resume =>
      have absent : decoded.rscid = none := cid
      have type : decoded.tokenType = .resumeToken := by
        cases found : decoded.tokenType with
        | retryToken =>
            rw [found, absent] at presented
            cases presented
        | resumeToken => rfl
      exact ⟨type, ip, fun impossible => by cases impossible⟩

/-- Every token that is accepted, with any byte in place of its type, is what was issued, exactly if
it is not presented by a client of the other family of addresses whose context spells that of the
token. -/
theorem token_bound_iff (correct : aead.Correct) (ideal : aead.Ideal) (made : token.Issued)
    (encoded : token.encode aead key nonce = .ok bytes) (code : UInt8) :
    (∀ decoded, (decode aead otherKey (stamp bytes code) remote pktDcid lifetime now).1 =
        .ok decoded → Bound token decoded) ↔
      ¬ ∃ tokenType, code = .ofNat tokenType.code ∧
        Confuses aead key otherKey nonce token tokenType remote pktDcid lifetime now := by
  have late := encode_late encoded
  rw [encode_issued made encoded, stamp_header]
  by_cases known : ∃ tokenType : AddressTokenType, code = .ofNat tokenType.code
  · obtain ⟨tokenType, rfl⟩ := known
    have only : (∃ other : AddressTokenType, UInt8.ofNat tokenType.code = .ofNat other.code ∧
        Confuses aead key otherKey nonce token other remote pktDcid lifetime now) ↔
          Confuses aead key otherKey nonce token tokenType remote pktDcid lifetime now := by
      constructor
      · rintro ⟨other, same, confuses⟩
        have types : tokenType = other := by
          cases tokenType <;> cases other <;> first | rfl | exact absurd same (by decide)
        exact types ▸ confuses
      · exact fun confuses => ⟨tokenType, rfl, confuses⟩
    rw [only, ← header_eq]
    have accepts := @decode_accepts_iff _ _ key otherKey nonce token tokenType remote pktDcid
      lifetime now correct ideal made late
    constructor
    · rintro bound ⟨families, spelled, keyed, inTime, tag⟩
      obtain ⟨decoded, accepted⟩ := accepts.mpr ⟨keyed, spelled, inTime, tag⟩
      obtain ⟨_, address, _⟩ := decoded_presented accepted
      have ip := (bound decoded accepted).2.1
      rw [address] at ip
      exact families (congrArg IpAddr.isIpv4 ip).symm
    · intro clear decoded accepted
      obtain ⟨keyed, spelled, inTime, tag⟩ := accepts.mp ⟨decoded, accepted⟩
      obtain ⟨type, address, rscid⟩ := decoded_presented accepted
      have family : token.address.ip.isIpv4 = remote.ip.isIpv4 := by
        by_contra families
        exact clear ⟨families, spelled, keyed, inTime, tag⟩
      rw [← type] at rscid
      refine bound_of_family made (address ▸ family) rscid ?_
      rw [rscid, address, type]
      exact spelled
  · refine iff_of_true (fun decoded accepted => ?_) fun confuses => known ⟨_, confuses.choose_spec.1⟩
    rw [decode_unknown fun tokenType same => known ⟨tokenType, same⟩] at accepted
    cases accepted

end Accepting

/-! ## A cipher that carries what it is bound to -/

def tokenKey : TokenKey := Vector.replicate 16 1

def zeroNonce : Vector UInt8 12 := Vector.replicate 12 0

def tenByteToken : AddressToken :=
  newRetryToken clientAddr (.new [1]) (.new [1, 2, 3, 4, 5, 6, 7, 8, 9, 10]) TokenConfig.epoch

def tenByteBytes : Bytes :=
  header .retryToken zeroNonce ++
    boundAead.sealInPlace tokenKey zeroNonce.toList
      (contextBytes tenByteToken.address tenByteToken.rscid) (bodyBytes tenByteToken)

theorem tenByteToken_encode : tenByteToken.encode boundAead tokenKey zeroNonce = .ok tenByteBytes :=
  encode_retry (by decide)

theorem tenByteToken_inTime : InTime 60000000000 tenByteToken.issued TokenConfig.epoch := by
  unfold InTime
  decide

/-- What the server takes from the client when it comes back. -/
theorem token_bound_iff_returned : ∃ decoded,
    (decode boundAead tokenKey (stamp tenByteBytes 0) clientAddr
      (.new [1, 2, 3, 4, 5, 6, 7, 8, 9, 10]) 60000000000 TokenConfig.epoch).1 = .ok decoded ∧
    Bound tenByteToken decoded := by
  obtain ⟨decoded, accepted⟩ := (@decode_accepts_iff _ _ tokenKey tokenKey zeroNonce tenByteToken
    .retryToken clientAddr (.new [1, 2, 3, 4, 5, 6, 7, 8, 9, 10]) 60000000000 TokenConfig.epoch
    boundAead_correct boundAead_ideal .retry (by decide)).mpr
      ⟨rfl, rfl, tenByteToken_inTime, fun impossible => by cases impossible⟩
  have stamped : stamp tenByteBytes 0 = tenByteBytes := rfl
  have exactly := @token_bound_iff _ _ tokenKey tokenKey zeroNonce tenByteToken tenByteBytes clientAddr
    (.new [1, 2, 3, 4, 5, 6, 7, 8, 9, 10]) 60000000000 TokenConfig.epoch boundAead_correct
    boundAead_ideal .retry tenByteToken_encode 0
  rw [stamped] at exactly ⊢
  refine ⟨decoded, accepted, exactly.mpr ?_ decoded accepted⟩
  rintro ⟨_, _, confuses⟩
  exact confuses.families rfl

def spelledAddr : SocketAddr where
  ip := .v6 #v[127, 0, 0, 1, 17, 81, 1, 2, 3, 4, 5, 6, 7, 8, 9, 10]
  port := 443

/-- An IPv6 client gets a connection with the Retry token of an IPv4 client as a resume token. -/
theorem retry_token_resumes_elsewhere :
    ¬ ∀ (aead : Aead TokenKey), aead.Correct → aead.Ideal →
      ∀ (key otherKey : TokenKey) (nonce : Vector UInt8 12) (token : AddressToken) (bytes : Bytes),
        token.Issued → token.encode aead key nonce = .ok bytes →
        ∀ (code : UInt8) (remote : SocketAddr) (pktDcid : ConnectionId) (lifetime : Duration)
          (now : SystemTime) (decoded : AddressToken),
          (decode aead otherKey (stamp bytes code) remote pktDcid lifetime now).1 = .ok decoded →
          Bound token decoded := by
  intro bound
  obtain ⟨decoded, accepted⟩ := (@decode_accepts_iff _ _ tokenKey tokenKey zeroNonce tenByteToken
    .resumeToken spelledAddr (.new []) 60000000000 TokenConfig.epoch boundAead_correct
    boundAead_ideal .retry (by decide)).mpr
      ⟨rfl, by decide, tenByteToken_inTime, fun impossible => by cases impossible⟩
  have same := bound boundAead boundAead_correct boundAead_ideal tokenKey tokenKey zeroNonce
    tenByteToken _ .retry tenByteToken_encode 1 spelledAddr (.new []) 60000000000 TokenConfig.epoch
    decoded
  rw [tenByteBytes, stamp_header, show (1 : UInt8) = .ofNat AddressTokenType.resumeToken.code from rfl,
    ← header_eq] at same
  obtain ⟨type, _⟩ := same accepted
  rw [(decoded_presented accepted).1] at type
  cases type

end AddressToken

end Tquic
