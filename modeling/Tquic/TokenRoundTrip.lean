import Tquic.Token

/-! A Retry token gives back the destination cid that it was issued for, unless that cid is
empty. -/

set_option autoImplicit false

namespace Tquic

open Lib

theorem run_of_writes {writer : Encoder Unit} {output : Bytes} (writes : Writes writer output ())
    (sink : Sink UInt8) (fits : output.length ≤ sink.room) :
    writer.run sink =
      .ok ((), { written := sink.written ++ output, room := sink.room - output.length }) :=
  writes sink fits

namespace AddressToken

theorem length_octets (ip : IpAddr) : (octets ip).length ≤ 16 := by
  cases ip with
  | v4 octets => simp [AddressToken.octets]
  | v6 octets => simp [AddressToken.octets]

def retryData (address : SocketAddr) (rscid : ConnectionId) : Bytes :=
  octets address.ip ++ (BigEndian.encode 2 address.port.toNat ++ rscid.bytes)

theorem additionalData_retry (address : SocketAddr) (rscid : ConnectionId) :
    additionalData .retryToken address (some rscid) = .ok (retryData address rscid) := by
  have writes : Writes (do
      Encoder.write (octets address.ip)
      Encoder.writeU16 address.port.toNat
      Encoder.write rscid.bytes : Encoder Unit) (retryData address rscid) () :=
    (writes_bytes _).bind ((writes_uint 2 _).bind (writes_bytes _))
  have fits : (retryData address rscid).length ≤ 16 + 2 + 20 := by
    have ip := length_octets address.ip
    have cid : rscid.bytes.length ≤ 20 := rscid.short
    simp only [retryData, List.length_append, BigEndian.length_encode]
    omega
  have ran := run_of_writes writes { written := [], room := 16 + 2 + 20 } fits
  unfold additionalData
  simp only [if_true]
  rw [ran]
  rfl

/-- The text of a Retry token. -/
def retryBody (seconds : Nat) (odcid : ConnectionId) : Bytes :=
  BigEndian.encode 8 seconds ++ (BigEndian.encode 1 odcid.bytes.length ++ odcid.bytes)

def header (tokenType : AddressTokenType) (nonce : Vector UInt8 12) : Bytes :=
  label ++ (BigEndian.encode 1 tokenType.code ++ nonce.toList)

private theorem writes_header (tokenType : AddressTokenType) (nonce : Vector UInt8 12) :
    Writes (writeHeader tokenType nonce) (header tokenType nonce) () :=
  (writes_bytes _).bind ((writes_uint 1 _).bind (writes_bytes _))

theorem length_header (tokenType : AddressTokenType) (nonce : Vector UInt8 12) :
    (header tokenType nonce).length = 17 := by
  simp [header, label]

theorem writeHeader_run (tokenType : AddressTokenType) (nonce : Vector UInt8 12) (tagLen : Nat) :
    (writeHeader tokenType nonce).run { written := [], room := maxTokenLen tagLen } =
      .ok ((), { written := header tokenType nonce
                 room := maxTokenLen tagLen - (header tokenType nonce).length }) := by
  refine run_of_writes (writes_header tokenType nonce) _ ?_
  rw [length_header]
  simp only [maxTokenLen, nonceLen]
  omega

theorem encode_late {Key : Type} {aead : Aead Key} {key : Key} {nonce : Vector UInt8 12}
    {token : AddressToken} {bytes : Bytes} (encoded : token.encode aead key nonce = .ok bytes) :
    0 ≤ token.issued.nanos := by
  by_contra early
  have before : token.issued.nanos < 0 := by omega
  have head := writeHeader_run token.tokenType nonce aead.tagLen
  unfold encode at encoded
  simp [head, issueTime, before, bind, Except.bind] at encoded

section RetryTokens

variable {Key : Type} {aead : Aead Key} {key : Key} {nonce : Vector UInt8 12}
  {address : SocketAddr} {odcid rscid : ConnectionId} {issued : SystemTime}

private theorem writes_retryBody (seconds : Nat) :
    Writes ((newRetryToken address odcid rscid issued).writeBody seconds)
      (retryBody seconds odcid) () :=
  (writes_uint 8 seconds).bind ((writes_uint 1 _).bind (writes_bytes _))

theorem encode_retry (late : 0 ≤ issued.nanos) :
    (newRetryToken address odcid rscid issued).encode aead key nonce =
      .ok (header .retryToken nonce ++
        aead.sealInPlace key nonce.toList (retryData address rscid)
          (retryBody (issued.nanos / 1000000000).toNat odcid)) := by
  have cid : odcid.bytes.length ≤ 20 := odcid.short
  have head := writeHeader_run .retryToken nonce aead.tagLen
  have body := run_of_writes
    (@writes_retryBody address odcid rscid issued (issued.nanos / 1000000000).toNat)
    { written := header .retryToken nonce
      room := maxTokenLen aead.tagLen - (header .retryToken nonce).length } (by
      rw [length_header]
      simp only [retryBody, maxTokenLen, nonceLen, List.length_append, BigEndian.length_encode]
      omega)
  have data := additionalData_retry address rscid
  have time : (newRetryToken address odcid rscid issued).issueTime =
      .ok (issued.nanos / 1000000000).toNat := by
    unfold newRetryToken issueTime
    exact if_neg (Int.not_lt.mpr late)
  unfold encode
  simp only [newRetryToken] at body time ⊢
  simp only [head, bind, Except.bind, time, body, data, pure, Except.pure,
    List.take_left, List.drop_left]

end RetryTokens

/-! ## Reading a token -/

private theorem reads_nonce (nonce : Vector UInt8 12) :
    Reads (Decoder.read nonceLen) nonce.toList nonce.toList := by
  have taken := reads_bytes nonce.toList
  rwa [Vector.length_toList] at taken

theorem reads_header (tokenType : AddressTokenType) (nonce : Vector UInt8 12) :
    Reads readHeader (header tokenType nonce) (tokenType, nonce.toList) := by
  have small : tokenType.code < 256 ^ 1 := by cases tokenType <;> decide
  have code : Reads Decoder.readU8 (BigEndian.encode 1 tokenType.code) tokenType.code :=
    reads_uint small
  have nonceLast : Reads (do
      let nonce ← Decoder.read nonceLen
      pure (tokenType, nonce) : Decoder (AddressTokenType × Bytes))
      nonce.toList (tokenType, nonce.toList) :=
    (reads_nonce nonce).last rfl
  refine (reads_bytes label).bind (code.bind ?_)
  cases tokenType with
  | retryToken => exact nonceLast
  | resumeToken => exact nonceLast

end AddressToken

/-- The second in which a time lies. -/
def SystemTime.wholeSecs (time : SystemTime) : SystemTime where
  nanos := time.nanos / 1000000000 * 1000000000
  representable := by
    have bound := time.representable
    omega

theorem SystemTime.ofSecs_wholeSecs {time : SystemTime} (late : 0 ≤ time.nanos) :
    SystemTime.ofSecs (time.nanos / 1000000000).toNat = some time.wholeSecs := by
  have secs : (((time.nanos / 1000000000).toNat : Nat) : Int) = time.nanos / 1000000000 :=
    Int.toNat_of_nonneg (by omega)
  have bound := time.wholeSecs.representable
  unfold SystemTime.wholeSecs at bound
  unfold SystemTime.ofSecs
  simp only [secs]
  rw [dif_pos bound]
  rfl

/-- A token that was issued at `issued` can still be used at `now`. Its age is counted from the
second of its issue. -/
def Unexpired (lifetime : Duration) (issued now : SystemTime) : Prop :=
  issued.nanos ≤ now.nanos ∧ now.nanos - issued.wholeSecs.nanos ≤ lifetime

/-- What is checked of the age of a token. -/
def InTime (lifetime : Duration) (issued now : SystemTime) : Prop :=
  issued.wholeSecs.nanos ≤ now.nanos ∧ now.nanos - issued.wholeSecs.nanos ≤ lifetime

theorem Unexpired.inTime {lifetime : Duration} {issued now : SystemTime}
    (unexpired : Unexpired lifetime issued now) : InTime lifetime issued now := by
  obtain ⟨issuedBefore, young⟩ := unexpired
  refine ⟨?_, young⟩
  unfold SystemTime.wholeSecs
  dsimp only
  omega

def ConnectionId.orNone (cid : ConnectionId) : Option ConnectionId :=
  if cid.isEmpty then none else some cid

namespace AddressToken

theorem reads_secs {issued : SystemTime} :
    Reads Decoder.readU64 (BigEndian.encode 8 (issued.nanos / 1000000000).toNat)
      (issued.nanos / 1000000000).toNat := by
  refine reads_uint ?_
  have bound := issued.representable
  norm_num
  omega

variable {issued now : SystemTime} {lifetime : Duration}

theorem reads_issued (late : 0 ≤ issued.nanos) (inTime : InTime lifetime issued now) :
    Reads (readIssued lifetime now)
      (BigEndian.encode 8 (issued.nanos / 1000000000).toNat) issued.wholeSecs := by
  obtain ⟨notBefore, young⟩ := inTime
  refine reads_secs.last ?_
  rw [SystemTime.ofSecs_wholeSecs late]
  dsimp only
  rw [if_neg (by omega), if_neg (by omega)]

theorem refuses_issued (late : 0 ≤ issued.nanos)
    (expired : ¬ InTime lifetime issued now) (rest : Bytes) :
    (readIssued lifetime now).run
      (BigEndian.encode 8 (issued.nanos / 1000000000).toNat ++ rest) = .error .invalidToken := by
  refine reads_secs.run_bind_error ?_
  rw [SystemTime.ofSecs_wholeSecs late]
  dsimp only
  unfold InTime at expired
  split_ifs
  · rfl
  · rfl
  · omega

theorem reads_odcid (odcid pktDcid : ConnectionId) :
    Reads (readOdcid .retryToken pktDcid)
      (BigEndian.encode 1 odcid.bytes.length ++ odcid.bytes) odcid.orNone := by
  have short : odcid.bytes.length ≤ 20 := odcid.short
  have len : Reads Decoder.readU8 (BigEndian.encode 1 odcid.bytes.length) odcid.bytes.length :=
    reads_uint (by norm_num; omega)
  refine len.bind ?_
  unfold ConnectionId.orNone
  by_cases empty : odcid.bytes.length = 0
  · have none : odcid.bytes = [] := List.eq_nil_of_length_eq_zero empty
    have isEmpty : odcid.isEmpty = true := by simp [ConnectionId.isEmpty, none]
    rw [if_pos empty, if_pos isEmpty, none]
    exact Reads.pure _
  · have isEmpty : ¬ odcid.isEmpty = true := by
      simpa [ConnectionId.isEmpty] using empty
    rw [if_neg empty, if_neg isEmpty, if_pos short]
    refine (reads_bytes odcid.bytes).last ?_
    rw [odcid.new_bytes]

theorem reads_retryBody (late : 0 ≤ issued.nanos) (unexpired : Unexpired lifetime issued now)
    (odcid pktDcid : ConnectionId) :
    Reads (readBody .retryToken pktDcid lifetime now)
      (retryBody (issued.nanos / 1000000000).toNat odcid) (issued.wholeSecs, odcid.orNone) :=
  (reads_issued late unexpired.inTime).bind ((reads_odcid odcid pktDcid).last rfl)

private theorem decode_retry {Key : Type} {aead : Aead Key} (correct : aead.Correct) (key : Key)
    (nonce : Vector UInt8 12) (address : SocketAddr) (odcid rscid : ConnectionId)
    (late : 0 ≤ issued.nanos) (unexpired : Unexpired lifetime issued now) :
    (decode aead key (header .retryToken nonce ++
        aead.sealInPlace key nonce.toList (retryData address rscid)
          (retryBody (issued.nanos / 1000000000).toNat odcid)) address rscid lifetime now).1 =
      .ok { tokenType := .retryToken
            issued := issued.wholeSecs
            address
            odcid := odcid.orNone
            rscid := some rscid } := by
  obtain ⟨tag, opened⟩ := correct key nonce.toList (retryData address rscid)
    (retryBody (issued.nanos / 1000000000).toNat odcid)
  unfold decode
  rw [reads_header .retryToken nonce]
  simp only [if_true, additionalData_retry, opened, Bool.not_true, Bool.false_eq_true, if_false]
  rw [reads_retryBody late unexpired odcid rscid tag]

end AddressToken

/-! ## Admitting a client -/

section Admitting

variable {Key : Type} {config : TokenConfig Key} {aead : Aead Key} {remote : SocketAddr}
  {odcid rscid : ConnectionId} {nonce : Vector UInt8 12} {issued now : SystemTime} {token : Bytes}

theorem validate_retry (correct : aead.Correct)
    (sent : config.sendRetry aead remote odcid rscid nonce issued = .ok token)
    (unexpired : Unexpired config.lifetime issued now) :
    config.validateAddressToken aead token remote rscid now =
      .ok { tokenType := .retryToken
            issued := issued.wholeSecs
            address := remote
            odcid := odcid.orNone
            rscid := some rscid } := by
  have late : 0 ≤ issued.nanos := AddressToken.encode_late sent
  have shape : Except.ok token = _ := sent.symm.trans (AddressToken.encode_retry late)
  have decoded := AddressToken.decode_retry correct config.firstKey nonce remote odcid rscid
    late unexpired
  rw [← Except.ok.inj shape] at decoded
  unfold TokenConfig.validateAddressToken TokenConfig.tryKeys
  cases result : AddressToken.decode aead config.firstKey token remote rscid config.lifetime now with
  | mk outcome buffer =>
      rw [result] at decoded
      simp only at decoded
      rw [decoded]

/-- The client is admitted, with a token that names the original destination cid. -/
def Recovered (config : TokenConfig Key) (aead : Aead Key) (now : SystemTime)
    (remote : SocketAddr) (rscid : ConnectionId) (token : Bytes) (odcid : ConnectionId) : Prop :=
  ∃ decoded, decoded.odcid = some odcid ∧
    config.recvInitial aead now remote rscid (some token) = .ok (.admitted (some decoded) odcid)

/-- A Retry token that comes back in time from the same address, with the source cid of the
Retry packet, is accepted with the original destination cid if and only if that cid is not
empty. -/
theorem retry_token_recovers_odcid (correct : aead.Correct)
    (sent : config.sendRetry aead remote odcid rscid nonce issued = .ok token)
    (unexpired : Unexpired config.lifetime issued now) :
    Recovered config aead now remote rscid token odcid ↔ odcid.isEmpty = false := by
  have validated := validate_retry correct sent unexpired
  unfold Recovered TokenConfig.recvInitial
  simp only [validated]
  cases empty : odcid.isEmpty with
  | true => simp [ConnectionId.orNone, empty]
  | false => simp [ConnectionId.orNone, empty]

end Admitting

/-! ## Two clients -/

def checksumTag (key : UInt8) (nonce aad plain : Bytes) : Bytes :=
  BigEndian.encode 16 ((key :: nonce ++ aad ++ plain).foldl (fun sum byte => sum * 257 + byte.toNat) 0)

def checksumAead : Aead UInt8 where
  tagLen := 16
  sealInPlace key nonce aad plain :=
    plain.map (· ^^^ key) ++ checksumTag key nonce aad plain
  openInPlace key nonce aad text :=
    let plain := (text.take (text.length - 16)).map (· ^^^ key)
    let tag := text.drop (text.length - 16)
    if tag = checksumTag key nonce aad plain then (true, plain ++ tag)
    else (false, List.replicate text.length 0)

theorem checksumAead_correct : checksumAead.Correct := by
  intro key nonce aad plain
  have masked : ∀ text : Bytes, (text.map (· ^^^ key)).map (· ^^^ key) = text := by
    intro text
    induction text with
    | nil => rfl
    | cons byte rest ih =>
        rw [List.map_cons, List.map_cons, ih, UInt8.xor_assoc, UInt8.xor_self, UInt8.xor_zero]
  have length : (checksumTag key nonce aad plain).length = 16 := BigEndian.length_encode 16 _
  have cut : (plain.map (· ^^^ key) ++ checksumTag key nonce aad plain).length - 16 =
      (plain.map (· ^^^ key)).length := by
    rw [List.length_append, length, Nat.add_sub_cancel]
  refine ⟨checksumTag key nonce aad plain, ?_⟩
  simp only [checksumAead, cut, List.take_left, List.drop_left, masked, if_true]

/-- A server that asks for a Retry, with a second key in reserve. -/
def retryingConfig : TokenConfig UInt8 where
  firstKey := 7
  moreKeys := [9]
  lifetime := 60000000000
  retry := true

def clientAddr : SocketAddr := .localhost 4433

def retryScid : ConnectionId := ConnectionId.new [1, 2, 3, 4, 5, 6, 7, 8]

def retryNonce : Vector UInt8 12 := #v[0, 1, 2, 3, 4, 5, 6, 7, 8, 9, 10, 11]

def issuedAt : SystemTime := ⟨1700000000500000000, by decide⟩

def returnedAt : SystemTime := ⟨1700000001500000000, by decide⟩

theorem returned_unexpired : Unexpired retryingConfig.lifetime issuedAt returnedAt := by
  unfold Unexpired
  decide

/-- The token that the server sends for a destination cid. -/
def retryTokenOf (odcid : ConnectionId) : Bytes :=
  AddressToken.header .retryToken retryNonce ++
    checksumAead.sealInPlace 7 retryNonce.toList (AddressToken.retryData clientAddr retryScid)
      (AddressToken.retryBody 1700000000 odcid)

theorem retryTokenOf_sent (odcid : ConnectionId) :
    retryingConfig.sendRetry checksumAead clientAddr odcid retryScid retryNonce issuedAt =
      .ok (retryTokenOf odcid) :=
  AddressToken.encode_retry (by decide)

/-- A client with a destination cid of eight bytes is admitted under it. -/
theorem long_odcid_recovered :
    Recovered retryingConfig checksumAead returnedAt clientAddr retryScid
      (retryTokenOf (ConnectionId.new [8, 7, 6, 5, 4, 3, 2, 1]))
      (ConnectionId.new [8, 7, 6, 5, 4, 3, 2, 1]) :=
  (retry_token_recovers_odcid checksumAead_correct (retryTokenOf_sent _) returned_unexpired).mpr rfl

/-- The token of a client with an empty destination cid makes the endpoint panic. -/
theorem empty_odcid_panics :
    retryingConfig.sendRetry checksumAead clientAddr (ConnectionId.new []) retryScid retryNonce
      issuedAt = .ok (retryTokenOf (ConnectionId.new [])) ∧
    Unexpired retryingConfig.lifetime issuedAt returnedAt ∧
    retryingConfig.recvInitial checksumAead returnedAt clientAddr retryScid
      (some (retryTokenOf (ConnectionId.new []))) = .error .panic ∧
    ¬ Recovered retryingConfig checksumAead returnedAt clientAddr retryScid
      (retryTokenOf (ConnectionId.new [])) (ConnectionId.new []) := by
  have sent := retryTokenOf_sent (ConnectionId.new [])
  have panics : retryingConfig.recvInitial checksumAead returnedAt clientAddr retryScid
      (some (retryTokenOf (ConnectionId.new []))) = .error .panic := by
    unfold TokenConfig.recvInitial
    simp only [validate_retry checksumAead_correct sent returned_unexpired]
    rfl
  refine ⟨sent, returned_unexpired, panics, ?_⟩
  rintro ⟨decoded, _, admitted⟩
  rw [panics] at admitted
  cases admitted

end Tquic
