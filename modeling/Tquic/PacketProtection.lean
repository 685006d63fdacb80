import Tquic.PacketHeaders

/-! What a receiver gets back of a protected header: the truncated packet number and the bytes
under the mask. -/

set_option autoImplicit false

namespace Tquic

open Lib

/-! ## Truncated packet numbers -/

/-- The numbers that the receiver can tell apart around the one that it expects. -/
def InWindow (largestPn pktNum pktNumLen : Nat) : Prop :=
  largestPn + 1 < pktNum + 2 ^ (pktNumLen * 8) / 2 ∧
    pktNum ≤ largestPn + 1 + 2 ^ (pktNumLen * 8) / 2

private theorem candidate_eq {expectedPn truncatedPn bits : Nat} (short : truncatedPn < 2 ^ bits) :
    expectedPn / 2 ^ bits * 2 ^ bits ||| truncatedPn =
      expectedPn / 2 ^ bits * 2 ^ bits + truncatedPn := by
  rw [Nat.mul_comm]
  exact (Nat.two_pow_add_eq_or_of_lt short _).symm

private theorem blocks_near {expected number win : Nat} (positive : 0 < win)
    (low : expected < number + win) (high : number < expected + win) :
    expected / win * win + number % win = number ∨
      expected / win * win + number % win + win = number ∨
        expected / win * win + number % win = number + win := by
  have expectedParts := Nat.div_add_mod' expected win
  have numberParts := Nat.div_add_mod' number win
  have expectedRest := Nat.mod_lt expected positive
  have numberRest := Nat.mod_lt number positive
  rcases Nat.lt_trichotomy (expected / win) (number / win) with less | same | more
  · have next : number / win = expected / win + 1 := by
      by_contra far
      have gap : expected / win + 2 ≤ number / win := by omega
      have spread := Nat.mul_le_mul_right win gap
      rw [Nat.add_mul] at spread
      omega
    rw [next, Nat.add_mul] at numberParts
    exact .inr (.inl (by omega))
  · rw [← same] at numberParts
    exact .inl numberParts
  · have next : expected / win = number / win + 1 := by
      by_contra far
      have gap : number / win + 2 ≤ expected / win := by omega
      have spread := Nat.mul_le_mul_right win gap
      rw [Nat.add_mul] at spread
      omega
    rw [next, Nat.add_mul]
    exact .inr (.inr (by omega))

theorem decodePacketNum_of_inWindow {largestPn pktNum pktNumLen : Nat} (small : pktNum < 2 ^ 62)
    (near : InWindow largestPn pktNum pktNumLen) :
    decodePacketNum largestPn (pktNum % 2 ^ (pktNumLen * 8)) pktNumLen = pktNum := by
  obtain ⟨low, high⟩ := near
  have positive : 0 < 2 ^ (pktNumLen * 8) := Nat.two_pow_pos _
  have rest := Nat.mod_lt pktNum positive
  unfold decodePacketNum
  simp only [candidate_eq rest]
  generalize 2 ^ (pktNumLen * 8) = win at low high positive rest
  have blocks := @blocks_near (largestPn + 1) pktNum win positive (by omega) (by omega)
  generalize (largestPn + 1) / win * win + pktNum % win = candidate at blocks
  rcases blocks with same | before | after
  · rw [if_neg (by omega), if_neg (by omega), same]
  · rw [if_pos (by omega), before]
  · rw [if_neg (by omega), if_pos (by omega), after, Nat.add_sub_cancel]

/-! ## The length that the sender chooses -/

theorem packetNumLen_pos (pktNum : Nat) (largestAcked : Option Nat) :
    0 < packetNumLen pktNum largestAcked := by
  unfold packetNumLen
  dsimp only
  omega

/-- The unacknowledged numbers fill less than half of the window. -/
theorem unacked_lt {pktNum : Nat} {largestAcked : Option Nat} (small : pktNum < 2 ^ 62) :
    (match largestAcked with
      | some largestAcked => pktNum - largestAcked
      | none => pktNum + 1) < 2 ^ (packetNumLen pktNum largestAcked * 8) / 2 := by
  have sized : ∀ unacked : Nat, unacked < 2 ^ ((Nat.size unacked + 1 + 7) / 8 * 8) / 2 := by
    intro unacked
    have bits : Nat.size unacked ≤ (Nat.size unacked + 1 + 7) / 8 * 8 - 1 := by omega
    have half : 2 ^ ((Nat.size unacked + 1 + 7) / 8 * 8) / 2 =
        2 ^ ((Nat.size unacked + 1 + 7) / 8 * 8 - 1) := by
      have whole : (Nat.size unacked + 1 + 7) / 8 * 8 =
          (Nat.size unacked + 1 + 7) / 8 * 8 - 1 + 1 := by omega
      rw [whole, pow_succ, Nat.mul_div_cancel _ (by decide), Nat.add_sub_cancel]
    rw [half]
    exact Nat.lt_of_lt_of_le (Nat.lt_size_self unacked) (Nat.pow_le_pow_right (by decide) bits)
  unfold packetNumLen
  cases largestAcked with
  | some largestAcked => exact sized _
  | none =>
      have exact_ : min (pktNum + 1) (2 ^ 64 - 1) = pktNum + 1 := by omega
      dsimp only
      rw [exact_]
      exact sized _

private theorem inWindow_of_acked {pktNum largestPn : Nat} {largestAcked : Option Nat}
    (small : pktNum < 2 ^ 62) (acked : ∀ number ∈ largestAcked, number ≤ largestPn)
    (fresh : largestPn < pktNum) :
    InWindow largestPn pktNum (packetNumLen pktNum largestAcked) := by
  have half := @unacked_lt pktNum largestAcked small
  unfold InWindow
  cases largestAcked with
  | some largestAcked =>
      have known := acked largestAcked rfl
      dsimp only at half
      omega
  | none =>
      dsimp only at half
      omega

private theorem writes_packetNum {pktNum len : Nat} (positive : 0 < len) (short : len ≤ 4) :
    Writes (encodePacketNum pktNum len) (BigEndian.encode len pktNum) len := by
  have written : ∀ len, Writes (Encoder.writeUint len pktNum >>= fun _ => pure len)
      (BigEndian.encode len pktNum) len := by
    intro len
    have both : Writes (Encoder.writeUint len pktNum >>= fun _ => (pure len : Encoder Nat))
        (BigEndian.encode len pktNum ++ []) len :=
      (writes_uint len pktNum).bind (@Writes.pure UInt8 Error Nat len)
    rwa [List.append_nil] at both
  rcases (by omega : len = 1 ∨ len = 2 ∨ len = 3 ∨ len = 4) with rfl | rfl | rfl | rfl
  · exact written 1
  · exact written 2
  · exact written 3
  · exact written 4

private theorem decodePacketNum_written {largestPn pktNum len : Nat} (small : pktNum < 2 ^ 62)
    (near : InWindow largestPn pktNum len) :
    decodePacketNum largestPn (BigEndian.decode (BigEndian.encode len pktNum)) len = pktNum := by
  rw [BigEndian.decode_encode_mod, show 256 = 2 ^ 8 from rfl, ← pow_mul, Nat.mul_comm]
  exact decodePacketNum_of_inWindow small near

/-- A packet number is decoded from the bytes that the sender writes for it: with the length that
the sender chooses, by every receiver whose largest number is at least what was acknowledged to
the sender and still smaller; and with any length, wherever the number is in the window. -/
theorem packet_number_survives (pktNum : Nat) (small : pktNum < 2 ^ 62) :
    (∀ (largestAcked : Option Nat) (largestPn : Nat),
      (∀ number ∈ largestAcked, number < pktNum) → packetNumLen pktNum largestAcked ≤ 4 →
      (∀ number ∈ largestAcked, number ≤ largestPn) → largestPn < pktNum →
        ∃ bytes,
          Writes (encodePacketNum pktNum (packetNumLen pktNum largestAcked)) bytes
            (packetNumLen pktNum largestAcked) ∧
          bytes.length = packetNumLen pktNum largestAcked ∧
          decodePacketNum largestPn (BigEndian.decode bytes) (packetNumLen pktNum largestAcked) =
            pktNum) ∧
      ∀ largestPn len, 0 < len → len ≤ 4 → InWindow largestPn pktNum len →
        ∃ bytes, Writes (encodePacketNum pktNum len) bytes len ∧ bytes.length = len ∧
          decodePacketNum largestPn (BigEndian.decode bytes) len = pktNum := by
  have decoded : ∀ largestPn len, 0 < len → len ≤ 4 → InWindow largestPn pktNum len →
      ∃ bytes, Writes (encodePacketNum pktNum len) bytes len ∧ bytes.length = len ∧
        decodePacketNum largestPn (BigEndian.decode bytes) len = pktNum := by
    intro largestPn len positive short near
    exact ⟨_, writes_packetNum positive short, BigEndian.length_encode len pktNum,
      decodePacketNum_written small near⟩
  refine ⟨fun largestAcked largestPn _ short acked fresh => ?_, decoded⟩
  exact decoded largestPn _ (packetNumLen_pos pktNum largestAcked) short
    (inWindow_of_acked small acked fresh)

/-- The examples of the standard: two bytes are enough for 0xac5c02 when 0xabe8b3 was
acknowledged, and 0x9b32 after 0xa82f30ea is 0xa82f9b32. -/
theorem packet_number_survives_standard :
    (∃ bytes, Writes (encodePacketNum 0xac5c02 2) bytes 2 ∧ bytes.length = 2 ∧
      decodePacketNum 0xabe8b3 (BigEndian.decode bytes) 2 = 0xac5c02) ∧
      ∃ bytes, Writes (encodePacketNum 0xa82f9b32 2) bytes 2 ∧ bytes.length = 2 ∧
        decodePacketNum 0xa82f30ea (BigEndian.decode bytes) 2 = 0xa82f9b32 :=
  ⟨(packet_number_survives 0xac5c02 (by decide)).1 (some 0xabe8b3) 0xabe8b3
      (fun _ acked => by cases acked; decide) (by decide)
      (fun _ acked => by cases acked; decide) (by decide),
    (packet_number_survives 0xa82f9b32 (by decide)).2 0xa82f30ea 2 (by decide) (by decide)
      (by unfold InWindow; decide)⟩

/-! ## Header protection -/

private theorem zipWith_xor_twice (bytes mask : Bytes) (short : bytes.length ≤ mask.length) :
    List.zipWith (· ^^^ ·) (List.zipWith (· ^^^ ·) bytes mask) mask = bytes := by
  induction bytes generalizing mask with
  | nil => rfl
  | cons byte bytes ih =>
      cases mask with
      | nil => cases short
      | cons bits mask =>
          simp only [List.zipWith_cons_cons]
          rw [ih mask (Nat.le_of_succ_le_succ short), UInt8.xor_assoc, UInt8.xor_self,
            UInt8.xor_zero]

def firstMask (bits first : UInt8) : UInt8 := bits &&& (if longHeader first then 0x0f else 0x1f)

private theorem longHeader_masked (bits first : UInt8) :
    longHeader (first ^^^ firstMask bits first) = longHeader first := by
  have kept : ∀ mask : UInt8, mask &&& 0x80 = 0 →
      (first ^^^ (bits &&& mask)) &&& 0x80 = first &&& 0x80 := by
    intro mask clear
    have distributes : (first ^^^ (bits &&& mask)) &&& 0x80 =
        (first &&& 0x80) ^^^ ((bits &&& mask) &&& 0x80) := by
      refine UInt8.toNat_inj.mp ?_
      simp only [UInt8.toNat_and, UInt8.toNat_xor, Nat.and_xor_distrib_right]
    rw [distributes, UInt8.and_assoc, clear, UInt8.and_zero, UInt8.xor_zero]
  unfold longHeader firstMask headerLongFormBit
  split_ifs
  · rw [kept 0x0f (by decide)]
  · rw [kept 0x1f (by decide)]

theorem firstMask_twice (bits first : UInt8) :
    (first ^^^ firstMask bits first) ^^^ firstMask bits (first ^^^ firstMask bits first) =
      first := by
  have same : firstMask bits (first ^^^ firstMask bits first) = firstMask bits first := by
    have form := longHeader_masked bits first
    unfold firstMask at form ⊢
    rw [form]
  rw [same, UInt8.xor_assoc, UInt8.xor_self, UInt8.xor_zero]

section Masked

variable {newMask : Bytes → Except Error (Vector UInt8 5)} {mask : Vector UInt8 5} {first : UInt8}
  {body number payload : Bytes}

private theorem encryptHeader_cons (short : number.length ≤ maxPktNumLen)
    (sampled : maxPktNumLen - number.length + sampleLen ≤ payload.length)
    (masked : newMask ((payload.drop (maxPktNumLen - number.length)).take sampleLen) = .ok mask) :
    encryptHeader newMask (first :: (body ++ number)) number.length payload =
      .ok ((first ^^^ firstMask mask[0] first) ::
        (body ++ List.zipWith (· ^^^ ·) number mask.toList.tail)) := by
  have offset : (first :: (body ++ number)).length - number.length = body.length + 1 := by
    simp only [List.length_cons, List.length_append]
    omega
  have rejected : ¬ (maxPktNumLen < number.length ∨
      payload.length < maxPktNumLen - number.length + sampleLen ∨
      (first :: (body ++ number)).length < 1 + number.length) := by
    simp only [List.length_cons, List.length_append]
    omega
  unfold encryptHeader
  dsimp only
  rw [if_neg rejected, masked]
  dsimp only
  rw [offset, List.drop_succ_cons, List.take_succ_cons, List.drop_left, List.take_left]
  rfl

private theorem applyMask_cons {pktType : PacketType} {bits : UInt8} (begins : mask.get 0 = bits)
    (named : ((first ^^^ firstMask bits first) &&& pktNumLenMask).toNat + 1 = number.length) :
    applyMask mask (first :: (body ++ (number ++ payload))) (body.length + 1) pktType =
      ({ pktType
         pktNumLen := number.length
         pktNum := BigEndian.decode (List.zipWith (· ^^^ ·) number mask.toList.tail)
         keyPhase := decide (pktType = .oneRtt) &&
          decide ((first ^^^ firstMask bits first) &&& headerKeyPhaseBit ≠ 0) },
        (first ^^^ firstMask bits first) ::
          (body ++ (List.zipWith (· ^^^ ·) number mask.toList.tail ++ payload))) := by
  have head : mask[0] = bits := begins
  have revealed : ∀ bits : UInt8,
      first ^^^ (bits &&& (if longHeader first then (0x0f : UInt8) else 0x1f)) =
        first ^^^ firstMask bits first := fun _ => rfl
  have offset : body.length + 1 + number.length = (body.length + number.length) + 1 :=
    Nat.add_right_comm _ _ _
  have behind : (body ++ (number ++ payload)).drop (body.length + number.length) = payload := by
    rw [← List.append_assoc, ← List.length_append, List.drop_left]
  unfold applyMask
  dsimp only [List.headD_cons]
  rw [head, revealed, named, offset]
  simp only [List.drop_succ_cons, List.take_succ_cons, List.drop_left, List.take_left, behind,
    List.cons_append, List.set_cons_zero, List.append_assoc]

private theorem decryptHeader_encryptHeader {pktType : PacketType}
    (named : (first &&& pktNumLenMask).toNat + 1 = number.length)
    (sampled : maxPktNumLen - number.length + sampleLen ≤ payload.length)
    (masked : newMask ((payload.drop (maxPktNumLen - number.length)).take sampleLen) = .ok mask) :
    ∃ hidden,
      encryptHeader newMask (first :: (body ++ number)) number.length payload = .ok hidden ∧
      hidden.length = (first :: (body ++ number)).length ∧
      decryptHeader newMask (hidden ++ payload) (body.length + 1) pktType false =
        .ok ({ pktType
               pktNumLen := number.length
               pktNum := BigEndian.decode number
               keyPhase := decide (pktType = .oneRtt) &&
                decide (first &&& headerKeyPhaseBit ≠ 0) },
          first :: (body ++ number) ++ payload) := by
  have short : number.length ≤ maxPktNumLen := by
    have small : (first &&& pktNumLenMask).toNat ≤ 3 := by
      rw [UInt8.toNat_and]
      exact Nat.and_le_right
    unfold maxPktNumLen
    omega
  have covered : number.length ≤ mask.toList.tail.length := by
    rw [List.length_tail, Vector.length_toList]
    exact short
  have width : (List.zipWith (· ^^^ ·) number mask.toList.tail).length = number.length := by
    rw [List.length_zipWith, Nat.min_eq_left covered]
  refine ⟨_, encryptHeader_cons short sampled masked, ?_, ?_⟩
  · rw [List.length_cons, List.length_append, width, List.length_cons, List.length_append]
  · have sample : (((first ^^^ firstMask mask[0] first) ::
          (body ++ List.zipWith (· ^^^ ·) number mask.toList.tail) ++ payload).drop
          (body.length + 1 + maxPktNumLen)).take sampleLen =
        (payload.drop (maxPktNumLen - number.length)).take sampleLen := by
      have start : body.length + 1 + maxPktNumLen = ((first ^^^ firstMask mask[0] first) ::
          (body ++ List.zipWith (· ^^^ ·) number mask.toList.tail)).length +
            (maxPktNumLen - number.length) := by
        rw [List.length_cons, List.length_append, width]
        omega
      rw [start, ← List.drop_drop, List.drop_left]
    have long : ¬ ((first ^^^ firstMask mask[0] first) ::
        (body ++ List.zipWith (· ^^^ ·) number mask.toList.tail) ++ payload).length <
          body.length + 1 + maxPktNumLen + sampleLen := by
      rw [List.length_append, List.length_cons, List.length_append, width]
      omega
    have twice := @applyMask_cons mask (first ^^^ firstMask mask[0] first) body
      (List.zipWith (· ^^^ ·) number mask.toList.tail) payload pktType mask[0] rfl
      (by rw [firstMask_twice, width, named])
    rw [firstMask_twice, zipWith_xor_twice _ _ covered, width] at twice
    unfold decryptHeader
    simp only [Bool.false_eq_true, if_false]
    rw [if_neg long, sample, masked]
    simp only [List.cons_append, List.append_assoc]
    rw [twice]

theorem length_encryptHeader {hdrBuf hidden : Bytes} {pktNumLen : Nat}
    (hides : encryptHeader newMask hdrBuf pktNumLen payload = .ok hidden) :
    hidden.length = hdrBuf.length := by
  unfold encryptHeader at hides
  dsimp only at hides
  split at hides
  · cases hides
  · next fine =>
    simp only [not_or, Nat.not_lt] at fine
    obtain ⟨short, _, fits⟩ := fine
    unfold maxPktNumLen at short
    split at hides
    · cases hides
    · cases hides
      rw [List.length_set, List.length_append, List.length_take, List.length_zipWith,
        List.length_drop, List.length_tail, Vector.length_toList]
      omega

end Masked

/-! ## Headers that were written -/

namespace Header

theorem appends_varint (value : Nat) : Appends (Encoder.writeVarint value) := by
  unfold Encoder.writeVarint Encoder.writeVarintWithLen
  split_ifs
  · split
    · exact Appends.put _ _
    · exact Appends.put _ _
    · exact Appends.put _ _
    · exact Appends.put _ _
    · exact Appends.throw _
  · exact Appends.throw _

private theorem appends_token (hdr : Header) : Appends hdr.writeToken := by
  unfold writeToken
  cases hdr.pktType with
  | initial =>
      cases hdr.token with
      | none => exact appends_varint 0
      | some token => exact (appends_varint token.length).bind fun _ => Appends.put _ token
  | retry =>
      cases hdr.token with
      | none => exact Appends.throw _
      | some token => exact Appends.put _ token
  | _ => exact Appends.pure ()

def written (hdr : Header) : UInt8 :=
  if hdr.pktType = .oneRtt then
    headerFixedBit ||| (if hdr.keyPhase then headerKeyPhaseBit else 0) ||| hdr.pktNumLenBits
  else hdr.firstByte ((typeCode hdr.pktType).getD 0)

private theorem toBytes_cons {hdr : Header} {room len : Nat} {header : Bytes}
    (encoded : hdr.toBytes room = .ok (header, len)) : ∃ body, header = hdr.written :: body := by
  have begins : ∀ {first : UInt8} {next : Unit → Encoder Unit} {sink after : Sink UInt8},
      (∀ done, Appends (next done)) → sink.written = [] →
      (Encoder.writeU8 first.toNat >>= next).run sink = .ok ((), after) →
        ∃ body, after.written = first :: body := by
    intro first next sink after tail blank ran
    obtain ⟨done, middle, put, rest⟩ := run_bind_ok.mp ran
    obtain ⟨body, appended⟩ := tail done middle () after rest
    refine ⟨body, ?_⟩
    rw [appended, Writer.run_put_ok put, blank]
    simp [BigEndian.encode]
  have run : ∃ after, hdr.writeHeader.run { written := [], room } = .ok ((), after) ∧
      after.written = header := by
    unfold toBytes at encoded
    split at encoded
    · cases encoded
    · rename_i after ran
      cases encoded
      exact ⟨after, ran, rfl⟩
  obtain ⟨after, ran, rfl⟩ := run
  unfold writeHeader at ran
  unfold written
  by_cases short : hdr.pktType = .oneRtt
  · rw [if_pos short] at ran ⊢
    exact begins (fun _ => Appends.put _ _) rfl ran
  · rw [if_neg short] at ran ⊢
    cases known : typeCode hdr.pktType with
    | none =>
        rw [known] at ran
        cases ran
    | some code =>
        rw [known] at ran
        refine begins (fun _ => ?_) rfl ran
        exact (Appends.put _ _).bind fun _ => (Appends.put _ _).bind fun _ =>
          (Appends.put _ _).bind fun _ => (Appends.put _ _).bind fun _ =>
            (Appends.put _ _).bind fun _ => appends_token hdr

theorem toBytes_short {hdr : Header} {room len : Nat} {header : Bytes}
    (oneRtt : hdr.pktType = .oneRtt) (encoded : hdr.toBytes room = .ok (header, len)) :
    header.length = 1 + hdr.dcid.bytes.length ∧ len = header.length := by
  have fills : ∃ image : Bytes, image.length = 1 + hdr.dcid.bytes.length ∧
      Fills hdr.writeHeader image () := by
    refine ⟨BigEndian.encode 1 hdr.written.toNat ++ hdr.dcid.bytes, ?_, ?_⟩
    · rw [List.length_append, BigEndian.length_encode]
    · unfold writeHeader writeShort written
      rw [if_pos oneRtt, if_pos oneRtt]
      exact (fills_uint 1 _).bind (Fills.put _ _)
  obtain ⟨image, length, fills⟩ := fills
  unfold toBytes at encoded
  by_cases fits : image.length ≤ room
  · rw [fills.writes _ fits] at encoded
    cases encoded
    rw [List.nil_append]
    exact ⟨length, Nat.sub_sub_self fits⟩
  · obtain ⟨error, failed⟩ := fills.refuses { written := [], room } (Nat.lt_of_not_le fits)
    rw [failed] at encoded
    cases encoded

private theorem first_bits (code : Fin 4) (bits : Fin 4) (phase : Bool) :
    ((headerLongFormBit ||| headerFixedBit ||| UInt8.ofNat code <<< 4 ||| UInt8.ofNat bits) &&&
        pktNumLenMask).toNat = bits ∧
      ((headerFixedBit ||| (if phase then headerKeyPhaseBit else 0) ||| UInt8.ofNat bits) &&&
        pktNumLenMask).toNat = bits ∧
      decide ((headerFixedBit ||| (if phase then headerKeyPhaseBit else 0) ||| UInt8.ofNat bits) &&&
        headerKeyPhaseBit ≠ 0) = phase := by
  revert code bits phase
  decide

private theorem written_bits {hdr : Header} (positive : 0 < hdr.pktNumLen)
    (short : hdr.pktNumLen ≤ maxPktNumLen) :
    (hdr.written &&& pktNumLenMask).toNat + 1 = hdr.pktNumLen ∧ (hdr.pktType = .oneRtt →
        decide (hdr.written &&& headerKeyPhaseBit ≠ 0) = hdr.keyPhase) := by
  unfold maxPktNumLen at short
  have code : ((typeCode hdr.pktType).getD 0).toNat < 4 := by
    cases hdr.pktType <;> decide
  have bits := first_bits ⟨_, code⟩ ⟨hdr.pktNumLen - 1, by omega⟩ hdr.keyPhase
  dsimp only at bits
  rw [UInt8.ofNat_toNat] at bits
  unfold written firstByte pktNumLenBits
  by_cases oneRtt : hdr.pktType = .oneRtt
  · rw [if_pos oneRtt, bits.2.1]
    exact ⟨by omega, fun _ => bits.2.2⟩
  · rw [if_neg oneRtt, bits.1]
    exact ⟨by omega, fun same => absurd same oneRtt⟩

/-- What hides the header of a packet is undone by its receiver, who does not know yet how long
the packet number is. The header ends with the length field, if there is one, and with the packet
number. -/
theorem header_protection_undone (newMask : Bytes → Except Error (Vector UInt8 5)) (hdr : Header)
    (positive : 0 < hdr.pktNumLen) (short : hdr.pktNumLen ≤ maxPktNumLen) (room : Nat)
    (header : Bytes) (len : Nat) (encoded : hdr.toBytes room = .ok (header, len))
    (lengthField : Bytes) (pktNum : Nat) (payload : Bytes)
    (sampled : maxPktNumLen - hdr.pktNumLen + sampleLen ≤ payload.length) (mask : Vector UInt8 5)
    (masked : newMask ((payload.drop (maxPktNumLen - hdr.pktNumLen)).take sampleLen) = .ok mask) :
    let hdrBuf := header ++ lengthField ++ BigEndian.encode hdr.pktNumLen pktNum
    ∃ hidden, encryptHeader newMask hdrBuf hdr.pktNumLen payload = .ok hidden ∧
      hidden.length = hdrBuf.length ∧
      decryptHeader newMask (hidden ++ payload) (header.length + lengthField.length) hdr.pktType
          false =
        .ok ({ pktType := hdr.pktType
               pktNumLen := hdr.pktNumLen
               pktNum := pktNum % 256 ^ hdr.pktNumLen
               keyPhase := decide (hdr.pktType = .oneRtt) && hdr.keyPhase },
          hdrBuf ++ payload) := by
  obtain ⟨body, rfl⟩ := toBytes_cons encoded
  obtain ⟨named, phase⟩ := written_bits positive short
  have width : (BigEndian.encode hdr.pktNumLen pktNum).length = hdr.pktNumLen :=
    BigEndian.length_encode _ _
  obtain ⟨hidden, hides, same, shows⟩ := @decryptHeader_encryptHeader newMask mask hdr.written
    (body ++ lengthField) (BigEndian.encode hdr.pktNumLen pktNum) payload hdr.pktType
    (by rw [width]; exact named) (by rw [width]; exact sampled) (by rw [width]; exact masked)
  have phases : (decide (hdr.pktType = .oneRtt) &&
      decide (hdr.written &&& headerKeyPhaseBit ≠ 0)) =
        (decide (hdr.pktType = .oneRtt) && hdr.keyPhase) := by
    by_cases oneRtt : hdr.pktType = .oneRtt
    · rw [phase oneRtt]
    · rw [decide_eq_false oneRtt, Bool.false_and, Bool.false_and]
  have offset : (body ++ lengthField).length + 1 =
      (hdr.written :: body).length + lengthField.length := by
    simp only [List.length_append, List.length_cons]
    omega
  rw [width] at hides
  rw [width, BigEndian.decode_encode_mod, phases, offset] at shows
  exact ⟨hidden, hides, same, shows⟩

/-- The Initial packet of a client, with 2 bytes for its length. -/
theorem header_protection_undone_initial :
    let header : Bytes := [0xc0, 0, 0, 0, 1, 4, 1, 2, 3, 4, 1, 9, 0]
    ∃ hidden,
      encryptHeader (fun _ => .ok (Vector.replicate 5 0xff))
        (header ++ [0x40, 41] ++ BigEndian.encode 1 7) 1 (List.replicate 40 6) = .ok hidden ∧
      hidden.length = 16 ∧
      decryptHeader (fun _ => .ok (Vector.replicate 5 0xff)) (hidden ++ List.replicate 40 6) 15
          .initial false =
        .ok ({ pktType := .initial, pktNumLen := 1, pktNum := 7, keyPhase := false },
          header ++ [0x40, 41] ++ BigEndian.encode 1 7 ++ List.replicate 40 6) :=
  header_protection_undone (fun _ => .ok (Vector.replicate 5 0xff)) initialHeader (by decide)
    (by decide) 64 [0xc0, 0, 0, 0, 1, 4, 1, 2, 3, 4, 1, 9, 0] 13 rfl [0x40, 41] 7
    (List.replicate 40 6) (by decide) (Vector.replicate 5 0xff) rfl

end Header

end Tquic
