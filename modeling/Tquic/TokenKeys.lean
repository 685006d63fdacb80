import Tquic.Lib.PrefixCode
import Tquic.TokenRoundTrip

/-! Address tokens when the keys of the endpoint are exchanged. The keys are tried on the same
buffer, which the first failure may destroy, so that only the first key is sure to be found. -/

set_option autoImplicit false

namespace Tquic

open Lib

namespace AddressToken

/-- The token that a server hands to the client of a connection for its next one. -/
def newResumeToken (address : SocketAddr) (now : SystemTime) : AddressToken :=
  { tokenType := .resumeToken, issued := now, address, odcid := none, rscid := none }

/-- The tokens that a server makes. -/
inductive Issued : AddressToken → Prop where
  | retry {address : SocketAddr} {odcid rscid : ConnectionId} {now : SystemTime} :
      Issued (newRetryToken address odcid rscid now)
  | resume {address : SocketAddr} {now : SystemTime} : Issued (newResumeToken address now)

/-! ## The parts of a token -/

def contextCid (tokenType : AddressTokenType) (cid : ConnectionId) : Option ConnectionId :=
  if tokenType = .retryToken then some cid else none

/-- The associated data. Nothing separates its parts. -/
def contextBytes (address : SocketAddr) (rscid : Option ConnectionId) : Bytes :=
  octets address.ip ++ rscid.elim [] fun cid => BigEndian.encode 2 address.port.toNat ++ cid.bytes

theorem additionalData_context (tokenType : AddressTokenType) (address : SocketAddr)
    (cid : ConnectionId) :
    additionalData tokenType address (contextCid tokenType cid) =
      .ok (contextBytes address (contextCid tokenType cid)) := by
  cases tokenType with
  | retryToken => exact additionalData_retry address cid
  | resumeToken =>
      have fits : (octets address.ip).length ≤ 16 + 2 + 20 :=
        (length_octets address.ip).trans (by decide)
      have ran := run_of_writes (writes_bytes (octets address.ip))
        { written := [], room := 16 + 2 + 20 } fits
      have same : contextBytes address (contextCid .resumeToken cid) = octets address.ip :=
        List.append_nil _
      rw [same]
      unfold additionalData
      simp only [reduceCtorEq, if_false]
      change ((Encoder.write (octets address.ip) >>= fun _ => pure ()).run _ >>= _) = _
      rw [StateT.run_bind, ran]
      rfl

def bodyBytes (token : AddressToken) : Bytes :=
  BigEndian.encode 8 (token.issued.nanos / 1000000000).toNat ++
    token.odcid.elim [] fun odcid => BigEndian.encode 1 odcid.bytes.length ++ odcid.bytes

section Encoding

variable {Key : Type} {aead : Aead Key} {key : Key} {nonce : Vector UInt8 12}
  {token : AddressToken} {bytes : Bytes}

theorem encode_resume {address : SocketAddr} {issued : SystemTime} (late : 0 ≤ issued.nanos) :
    (newResumeToken address issued).encode aead key nonce =
      .ok (header .resumeToken nonce ++
        aead.sealInPlace key nonce.toList (contextBytes address none)
          (bodyBytes (newResumeToken address issued))) := by
  have head := writeHeader_run .resumeToken nonce aead.tagLen
  have text : bodyBytes (newResumeToken address issued) =
      BigEndian.encode 8 (issued.nanos / 1000000000).toNat := List.append_nil _
  have writes : Writes ((newResumeToken address issued).writeBody
      (issued.nanos / 1000000000).toNat)
      (BigEndian.encode 8 (issued.nanos / 1000000000).toNat) () := by
    have whole : Writes ((newResumeToken address issued).writeBody
        (issued.nanos / 1000000000).toNat) _ () :=
      (writes_uint 8 (issued.nanos / 1000000000).toNat).bind (Writes.pure ())
    rwa [List.append_nil] at whole
  have body := run_of_writes writes
    { written := header .resumeToken nonce
      room := maxTokenLen aead.tagLen - (header .resumeToken nonce).length } (by
      rw [length_header]
      simp only [maxTokenLen, nonceLen, BigEndian.length_encode]
      omega)
  have data := additionalData_context .resumeToken address (.new [])
  have time : (newResumeToken address issued).issueTime =
      .ok (issued.nanos / 1000000000).toNat := if_neg (Int.not_lt.mpr late)
  rw [text]
  unfold encode
  simp only [newResumeToken, contextCid, reduceCtorEq, if_false] at body time data ⊢
  simp only [head, bind, Except.bind, time, body, data, pure, Except.pure, List.take_left,
    List.drop_left]

theorem encode_issued (made : Issued token) (encoded : token.encode aead key nonce = .ok bytes) :
    bytes = header token.tokenType nonce ++
      aead.sealInPlace key nonce.toList (contextBytes token.address token.rscid)
        (bodyBytes token) := by
  have late := encode_late encoded
  cases made with
  | retry => exact Except.ok.inj (encoded.symm.trans (encode_retry late))
  | resume => exact Except.ok.inj (encoded.symm.trans (encode_resume late))

end Encoding

/-! ## What decoding makes of a buffer -/

section Decoding

variable {Key : Type} {aead : Aead Key} {key : Key} {tokenType : AddressTokenType}
  {nonce : Vector UInt8 12} {body opened : Bytes} {address : SocketAddr} {pktDcid : ConnectionId}
  {lifetime : Duration} {now : SystemTime}

theorem decode_eq {authentic : Bool} (opens : aead.openInPlace key nonce.toList
      (contextBytes address (contextCid tokenType pktDcid)) body = (authentic, opened)) :
    decode aead key (header tokenType nonce ++ body) address pktDcid lifetime now =
      (if authentic then
        ((readBody tokenType pktDcid lifetime now).run opened).map fun read =>
          { tokenType, issued := read.1.1, address, odcid := read.1.2,
            rscid := contextCid tokenType pktDcid }
      else .error .invalidToken, header tokenType nonce ++ opened) := by
  have context : (if tokenType = .retryToken then some pktDcid else none) =
      contextCid tokenType pktDcid := rfl
  unfold decode
  rw [reads_header tokenType nonce]
  simp only [context, additionalData_context, opens, List.length_append, Nat.add_sub_cancel,
    List.take_left]
  cases authentic with
  | false => rfl
  | true => cases (readBody tokenType pktDcid lifetime now).run opened <;> rfl

/-- A text that is not authentic is overwritten. -/
theorem decode_rejected (rejects : aead.openInPlace key nonce.toList
      (contextBytes address (contextCid tokenType pktDcid)) body = (false, opened)) :
    decode aead key (header tokenType nonce ++ body) address pktDcid lifetime now =
      (.error .invalidToken, header tokenType nonce ++ opened) := decode_eq rejects

theorem decode_opened (opens : aead.openInPlace key nonce.toList
      (contextBytes address (contextCid tokenType pktDcid)) body = (true, opened))
    {issued : SystemTime} {odcid : Option ConnectionId} {rest : Bytes}
    (reads : (readBody tokenType pktDcid lifetime now).run opened = .ok ((issued, odcid), rest)) :
    decode aead key (header tokenType nonce ++ body) address pktDcid lifetime now =
      (.ok { tokenType, issued, address, odcid, rscid := contextCid tokenType pktDcid },
        header tokenType nonce ++ opened) := by
  rw [decode_eq opens, reads]
  rfl

end Decoding

/-- The client to which a token was given comes back, a client after a Retry to the id that it was
sent. -/
def SameClient (token : AddressToken) (remote : SocketAddr) (pktDcid : ConnectionId) : Prop :=
  token.address.ip = remote.ip ∧
    ∀ rscid, token.rscid = some rscid → token.address.port = remote.port ∧ rscid = pktDcid

theorem SameClient.context {token : AddressToken} {remote : SocketAddr} {pktDcid : ConnectionId}
    (made : Issued token) (same : token.SameClient remote pktDcid) :
    contextBytes token.address token.rscid =
      contextBytes remote (contextCid token.tokenType pktDcid) := by
  obtain ⟨ip, port⟩ := same
  cases made with
  | @retry address odcid rscid now =>
      obtain ⟨samePort, rfl⟩ := port rscid rfl
      unfold contextBytes
      rw [ip, samePort]
      rfl
  | @resume address now =>
      unfold contextBytes
      rw [ip]
      rfl

theorem reads_body {token : AddressToken} (made : Issued token) (late : 0 ≤ token.issued.nanos)
    {lifetime : Duration} {now : SystemTime} (unexpired : Unexpired lifetime token.issued now)
    (pktDcid : ConnectionId) :
    ∃ odcid, Reads (readBody token.tokenType pktDcid lifetime now) (bodyBytes token)
      (token.issued.wholeSecs, odcid) := by
  cases made with
  | retry => exact ⟨_, reads_retryBody late unexpired _ _⟩
  | resume =>
      exact ⟨some pktDcid, (reads_issued late unexpired.inTime).bind fun _ => rfl⟩

private theorem decode_issued {Key : Type} {aead : Aead Key} (correct : aead.Correct) {key : Key}
    {nonce : Vector UInt8 12} {token : AddressToken} (made : Issued token) {bytes : Bytes}
    (encoded : token.encode aead key nonce = .ok bytes) {remote : SocketAddr}
    {pktDcid : ConnectionId} (same : token.SameClient remote pktDcid) {lifetime : Duration}
    {now : SystemTime} (unexpired : Unexpired lifetime token.issued now) :
    ∃ decoded, (decode aead key bytes remote pktDcid lifetime now).1 = .ok decoded := by
  obtain ⟨tag, opened⟩ := correct key nonce.toList (contextBytes token.address token.rscid)
    (bodyBytes token)
  obtain ⟨odcid, reads⟩ := reads_body made (encode_late encoded) unexpired pktDcid
  rw [encode_issued made encoded]
  rw [same.context made] at opened ⊢
  exact ⟨_, congrArg Prod.fst (decode_opened opened (reads tag))⟩

end AddressToken

def Aead.Separates {Key : Type} (aead : Aead Key) : Prop :=
  ∀ key other nonce aad plain, other ≠ key →
    (aead.openInPlace other nonce aad (aead.sealInPlace key nonce aad plain)).1 = false

def Aead.Ideal {Key : Type} (aead : Aead Key) : Prop :=
  ∀ key nonce aad plain otherKey otherNonce otherAad,
    (aead.openInPlace otherKey otherNonce otherAad
      (aead.sealInPlace key nonce aad plain)).1 = true →
      otherKey = key ∧ otherNonce = nonce ∧ otherAad = aad

theorem Aead.Ideal.separates {Key : Type} {aead : Aead Key} (ideal : aead.Ideal) :
    aead.Separates := by
  intro key other nonce aad plain different
  rw [← Bool.not_eq_true]
  exact fun opened => different (ideal key nonce aad plain other nonce aad opened).1

/-! ## A cipher that carries what it is bound to -/

/-- The keys of AES-128. -/
abbrev TokenKey := Vector UInt8 16

def marked : Bytes → Bytes
  | [] => [0]
  | byte :: rest => 1 :: byte :: marked rest

theorem marked_prefixFree : PrefixCode.PrefixFree marked := by
  intro left
  induction left with
  | nil =>
      intro right begins
      cases right with
      | nil => rfl
      | cons byte rest =>
          obtain ⟨same, _⟩ := List.cons_prefix_cons.mp begins
          cases same
  | cons byte left ih =>
      intro right begins
      cases right with
      | nil =>
          obtain ⟨same, _⟩ := List.cons_prefix_cons.mp begins
          cases same
      | cons other rest =>
          obtain ⟨_, behind⟩ := List.cons_prefix_cons.mp begins
          obtain ⟨rfl, shorter⟩ := List.cons_prefix_cons.mp behind
          rw [ih rest shorter]

def binding (key : TokenKey) (nonce aad : Bytes) : Bytes :=
  key.toList ++ (marked nonce ++ marked aad)

private theorem binding_inj {key otherKey : TokenKey} {nonce otherNonce aad otherAad text : Bytes}
    (first : binding key nonce aad <+: text) (second : binding otherKey otherNonce otherAad <+: text) :
    otherKey = key ∧ otherNonce = nonce ∧ otherAad = aad := by
  obtain ⟨tail, rfl⟩ := first
  unfold binding at second
  obtain ⟨rest, whole⟩ := second
  simp only [List.append_assoc] at whole
  obtain ⟨keys, nonces⟩ := List.append_inj whole (by simp)
  obtain rfl : otherNonce = nonce := marked_prefixFree.eq_of_prefix
    ⟨marked otherAad ++ rest, nonces⟩ (List.prefix_append _ _)
  have aads := List.append_cancel_left nonces
  obtain rfl : otherAad = aad := marked_prefixFree.eq_of_prefix ⟨rest, aads⟩ (List.prefix_append _ _)
  exact ⟨Vector.toList_inj.mp keys, rfl, rfl⟩

/-- A text that is not authentic is overwritten. -/
def boundAead : Aead TokenKey where
  tagLen := 16
  sealInPlace key nonce aad plain := binding key nonce aad ++ (plain ++ [0])
  openInPlace key nonce aad text :=
    if (binding key nonce aad).isPrefixOf text then
      (true, text.drop (binding key nonce aad).length)
    else (false, List.replicate text.length 255)

theorem boundAead_correct : boundAead.Correct := by
  intro key nonce aad plain
  refine ⟨[0], ?_⟩
  unfold boundAead
  dsimp only
  rw [if_pos (List.isPrefixOf_iff_prefix.mpr (List.prefix_append _ _)), List.drop_left]

theorem boundAead_ideal : boundAead.Ideal := by
  intro key nonce aad plain otherKey otherNonce otherAad opened
  unfold boundAead at opened
  dsimp only at opened
  split_ifs at opened with begins
  exact binding_inj (List.prefix_append _ _) (List.isPrefixOf_iff_prefix.mp begins)

/-- A buffer that was overwritten is never authentic. -/
theorem boundAead_wiped (key : TokenKey) (nonce aad : Bytes) (len : Nat) :
    boundAead.openInPlace key nonce aad (List.replicate len 255) =
      (false, List.replicate len 255) := by
  unfold boundAead
  dsimp only
  have ends : (0 : UInt8) ∈ marked nonce := by
    induction nonce with
    | nil => exact List.mem_singleton_self _
    | cons byte rest ih => exact .tail _ (.tail _ ih)
  rw [if_neg, List.length_replicate]
  intro begins
  have member := (List.isPrefixOf_iff_prefix.mp begins).subset
    (List.mem_append_right _ (List.mem_append_left _ ends))
  exact absurd (List.eq_of_mem_replicate member) (by decide)

/-! ## Keys in turn -/

namespace TokenConfig

def keys {Key : Type} (config : TokenConfig Key) : List Key := config.firstKey :: config.moreKeys

variable {tokenType : AddressTokenType} {nonce : Vector UInt8 12} {remote : SocketAddr}
  {pktDcid : ConnectionId} {lifetime : Duration} {now : SystemTime}

private theorem tryKeys_wiped (keys : List TokenKey) (len : Nat) :
    tryKeys boundAead remote pktDcid lifetime now keys
      (AddressToken.header tokenType nonce ++ List.replicate len 255) = .error .invalidToken := by
  induction keys with
  | nil => rfl
  | cons key rest ih =>
      rw [tryKeys, AddressToken.decode_rejected (boundAead_wiped key _ _ len)]
      exact ih

/-- A token is not valid under another first key. -/
theorem validate_other_key {config : TokenConfig TokenKey} {key : TokenKey}
    (different : key ≠ config.firstKey) {token : AddressToken} (made : token.Issued) {bytes : Bytes}
    (encoded : token.encode boundAead key nonce = .ok bytes)
    (same : token.SameClient remote pktDcid) :
    config.validateAddressToken boundAead bytes remote pktDcid now = .error .invalidToken := by
  have closed := boundAead_ideal.separates key config.firstKey nonce.toList
    (AddressToken.contextBytes token.address token.rscid) token.bodyBytes different.symm
  have rejects : boundAead.openInPlace config.firstKey nonce.toList
      (AddressToken.contextBytes remote (AddressToken.contextCid token.tokenType pktDcid))
      (boundAead.sealInPlace key nonce.toList
        (AddressToken.contextBytes token.address token.rscid) token.bodyBytes) =
        (false, List.replicate (boundAead.sealInPlace key nonce.toList
          (AddressToken.contextBytes token.address token.rscid) token.bodyBytes).length 255) := by
    rw [← same.context made]
    unfold boundAead at closed ⊢
    dsimp only at closed ⊢
    split_ifs at closed ⊢
    rfl
  rw [AddressToken.encode_issued made encoded, validateAddressToken, tryKeys,
    AddressToken.decode_rejected rejects]
  exact tryKeys_wiped config.moreKeys _

def epoch : SystemTime := ⟨0, by decide⟩

/-- A token that is younger than every lifetime. -/
def epochToken : AddressToken := .newResumeToken clientAddr epoch

theorem epochToken_encode (key : TokenKey) :
    epochToken.encode boundAead key (Vector.replicate 12 0) =
      .ok (AddressToken.header .resumeToken (Vector.replicate 12 0) ++
        boundAead.sealInPlace key (Vector.replicate 12 0).toList
          (AddressToken.contextBytes clientAddr none) epochToken.bodyBytes) :=
  AddressToken.encode_resume (le_refl _)

theorem epochToken_sameClient (pktDcid : ConnectionId) : epochToken.SameClient clientAddr pktDcid :=
  ⟨rfl, fun _ impossible => by cases impossible⟩

/-- A token that was sealed with a configured key is accepted whatever a failed attempt leaves of
the buffer, while it is in time and its client comes back with it, exactly if no other key is tried
before its own. -/
theorem rotated_key_accepted_iff (config : TokenConfig TokenKey) (index : Fin config.keys.length) :
    (∀ aead : Aead TokenKey, aead.Correct → aead.Separates →
      ∀ (token : AddressToken) (nonce : Vector UInt8 12) (bytes : Bytes), token.Issued →
        token.encode aead (config.keys.get index) nonce = .ok bytes →
        ∀ remote pktDcid now, token.SameClient remote pktDcid →
          Unexpired config.lifetime token.issued now →
          ∃ decoded, config.validateAddressToken aead bytes remote pktDcid now = .ok decoded) ↔
      config.keys.get index = config.firstKey := by
  constructor
  · intro accepted
    by_contra different
    obtain ⟨decoded, valid⟩ := accepted boundAead boundAead_correct boundAead_ideal.separates
      epochToken (Vector.replicate 12 0) _ .resume (epochToken_encode _) clientAddr (.new []) epoch
      (epochToken_sameClient _) ⟨le_refl _, Int.natCast_nonneg _⟩
    rw [validate_other_key different .resume (epochToken_encode _)
      (epochToken_sameClient _)] at valid
    cases valid
  · intro first aead correct _ token nonce bytes made encoded remote pktDcid now same unexpired
    rw [first] at encoded
    obtain ⟨decoded, opened⟩ := AddressToken.decode_issued correct made encoded same unexpired
    refine ⟨decoded, ?_⟩
    unfold validateAddressToken tryKeys
    cases result : AddressToken.decode aead config.firstKey bytes remote pktDcid config.lifetime
        now with
    | mk outcome buffer =>
        rw [result] at opened
        dsimp only at opened
        rw [opened]

/-- The key that the endpoint has used so far, behind a new one. -/
def rotatedConfig : TokenConfig TokenKey where
  firstKey := Vector.replicate 16 2
  moreKeys := [Vector.replicate 16 1]
  lifetime := 60000000000
  retry := true

/-- The token was sealed with the second key. -/
theorem rotated_key_refused :
    ¬ ∀ (config : TokenConfig TokenKey) (index : Fin config.keys.length) (aead : Aead TokenKey),
      aead.Correct → aead.Separates →
      ∀ (token : AddressToken) (nonce : Vector UInt8 12) (bytes : Bytes), token.Issued →
        token.encode aead (config.keys.get index) nonce = .ok bytes →
        ∀ remote pktDcid now, token.SameClient remote pktDcid →
          Unexpired config.lifetime token.issued now →
          ∃ decoded, config.validateAddressToken aead bytes remote pktDcid now = .ok decoded := by
  intro accepted
  have different : rotatedConfig.keys.get ⟨1, by decide⟩ ≠ rotatedConfig.firstKey := by decide
  obtain ⟨decoded, valid⟩ := accepted rotatedConfig ⟨1, by decide⟩ boundAead boundAead_correct
    boundAead_ideal.separates epochToken (Vector.replicate 12 0) _ .resume (epochToken_encode _)
    clientAddr (.new []) epoch (epochToken_sameClient _) ⟨le_refl _, by decide⟩
  rw [validate_other_key different .resume (epochToken_encode _) (epochToken_sameClient _)] at valid
  cases valid

end TokenConfig

end Tquic
