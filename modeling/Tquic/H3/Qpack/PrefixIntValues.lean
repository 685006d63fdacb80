import Tquic.H3.Qpack.PrefixInt

/-! Which number the bytes of a prefix integer stand for, and which of them `decode_int` returns
exactly. -/

set_option autoImplicit false

namespace Tquic.H3.Qpack

open Lib Http3Encoder Http3Decoder

/-- Seven bits of each byte, the lowest first. -/
def octetsValue : Bytes → Nat
  | [] => 0
  | byte :: rest => byte.toNat % 128 + 128 * octetsValue rest

/-- All bytes say that another one follows. -/
def Continued (octets : Bytes) : Prop := ∀ byte ∈ octets, 128 ≤ byte.toNat

/-- The bytes are an integer with `n` bits in the first byte, of the given value. Zeros may stand in
front of it. -/
inductive Denotes (n : Nat) : Bytes → Nat → Prop where
  | short {first : UInt8} (less : first.toNat % 2 ^ n < 2 ^ n - 1) :
      Denotes n [first] (first.toNat % 2 ^ n)
  | long {first last : UInt8} {octets : Bytes} (full : first.toNat % 2 ^ n = 2 ^ n - 1)
      (continued : Continued octets) (ends : last.toNat < 128) :
      Denotes n (first :: (octets ++ [last])) (2 ^ n - 1 + octetsValue (octets ++ [last]))

/-- What `decode_int` reads at the front of the bytes is the number that is written there. -/
def DecodesExactly (n : Nat) (buf : Bytes) : Prop :=
  ∀ value rest, (decodeInt n).run buf = .ok (value, rest) →
    ∃ bytes, buf = bytes ++ rest ∧ Denotes n bytes value

/-- Nine bytes after the first one say that another one follows, and this one has bits that are
shifted out of 64 bits, while what is left of it can be added. -/
def ShiftedOut (n : Nat) (buf : Bytes) : Prop :=
  ∃ (first : UInt8) (octets : Bytes) (last : UInt8) (rest : Bytes),
    buf = first :: (octets ++ last :: rest) ∧ first.toNat % 2 ^ n = 2 ^ n - 1 ∧
      Continued octets ∧ octets.length = 9 ∧ 2 ≤ last.toNat ∧ last.toNat < 128 ∧
        2 ^ n - 1 + octetsValue octets + last.toNat % 2 * 2 ^ 63 < 2 ^ 64

theorem octetsValue_append (octets : Bytes) (last : UInt8) :
    octetsValue (octets ++ [last]) =
      octetsValue octets + last.toNat % 128 * 2 ^ (7 * octets.length) := by
  induction octets with
  | nil => simp [octetsValue]
  | cons byte octets ih =>
      have grows : 2 ^ (7 * (octets.length + 1)) = 128 * 2 ^ (7 * octets.length) := by
        rw [Nat.mul_succ, pow_add, Nat.mul_comm]
        rfl
      rw [List.cons_append, octetsValue, ih, octetsValue, List.length_cons, grows]
      ring

/-! ## The loop -/

/-- What the loop adds for a byte. -/
def increment (shift : Nat) (byte : UInt8) : Nat := ((byte.toNat % 128) <<< shift) % 2 ^ 64

private theorem decodeOctets_step (shift val : Nat) (byte : UInt8) (buf : Bytes) :
    decodeOctets shift val (byte :: buf) =
      if 64 ≤ shift then .error .qpackDecompressionFailed
      else if 2 ^ 64 ≤ val + increment shift byte then .error .qpackDecompressionFailed
      else if byte.toNat < 128 then .ok (val + increment shift byte, buf)
      else decodeOctets (shift + 7) (val + increment shift byte) buf := by
  have seven : byte.toNat &&& 0x7f = byte.toNat % 128 := Nat.and_two_pow_sub_one_eq_mod _ 7
  have flag : byte.toNat &&& 0x80 = 0 ↔ byte.toNat < 128 := by
    have all : ∀ value < 256, value &&& 0x80 = 0 ↔ value < 128 := by decide +kernel
    exact all _ byte.toNat_lt
  rw [decodeOctets, seven]
  by_cases final : byte.toNat < 128
  · simp only [if_pos (flag.mpr final), if_pos final]
    rfl
  · simp only [if_neg fun clear => final (flag.mp clear), if_neg final]
    rfl

/-- No bit of a byte is lost where another one may follow. -/
theorem increment_eq {shift : Nat} (narrow : shift + 7 < 64) (byte : UInt8) :
    increment shift byte = byte.toNat % 128 * 2 ^ shift := by
  rw [increment, Nat.shiftLeft_eq, Nat.mod_eq_of_lt]
  calc byte.toNat % 128 * 2 ^ shift < 2 ^ 7 * 2 ^ shift :=
        Nat.mul_lt_mul_of_pos_right (Nat.mod_lt _ (by decide)) (Nat.two_pow_pos shift)
    _ = 2 ^ (7 + shift) := (pow_add 2 7 shift).symm
    _ ≤ 2 ^ 64 := Nat.pow_le_pow_right (by decide) (by omega)

theorem octetsValue_cons_mul (byte : UInt8) (octets : Bytes) (shift : Nat) :
    octetsValue (byte :: octets) * 2 ^ shift =
      byte.toNat % 128 * 2 ^ shift + octetsValue octets * 2 ^ (shift + 7) := by
  rw [octetsValue, pow_add]
  ring

/-- The loop ends with the first byte that is the last one. -/
theorem decodeOctets_ok {shift val value : Nat} {buf rest : Bytes} :
    decodeOctets shift val buf = .ok (value, rest) ↔
      ∃ octets last, buf = octets ++ last :: rest ∧ Continued octets ∧ last.toNat < 128 ∧
        shift + 7 * octets.length < 64 ∧
          value = val + octetsValue octets * 2 ^ shift +
            increment (shift + 7 * octets.length) last ∧ value < 2 ^ 64 := by
  induction buf generalizing shift val with
  | nil =>
      refine iff_of_false (fun same => nomatch same) ?_
      rintro ⟨octets, last, same, _⟩
      cases octets <;> cases same
  | cons byte buf ih =>
      rw [decodeOctets_step]
      constructor
      · intro decoded
        split_ifs at decoded with wide large final
        · cases decoded
          exact ⟨[], byte, rfl, fun _ none => (nomatch none), final, by simpa using wide,
            by simp [octetsValue], by simpa using large⟩
        · obtain ⟨octets, last, rfl, continued, ends, narrow, rfl, small⟩ := ih.mp decoded
          have place : shift + 7 * (byte :: octets).length = shift + 7 + 7 * octets.length := by
            rw [List.length_cons]
            omega
          refine ⟨byte :: octets, last, rfl, ?_, ends, by omega, ?_, small⟩
          · rintro other (_ | ⟨_, member⟩)
            · exact Nat.le_of_not_lt final
            · exact continued other member
          · rw [octetsValue_cons_mul, place, increment_eq (by omega)]
            ring
      · rintro ⟨octets, last, same, continued, ends, narrow, total, small⟩
        cases octets with
        | nil =>
            obtain ⟨rfl, rfl⟩ := List.cons.inj same
            obtain rfl : value = val + increment shift byte := by
              simpa [octetsValue] using total
            rw [if_neg (by simpa using narrow), if_neg (Nat.not_le_of_lt small), if_pos ends]
        | cons first octets =>
            obtain ⟨rfl, rfl⟩ := List.cons.inj same
            have place : shift + 7 * (byte :: octets).length = shift + 7 + 7 * octets.length := by
              rw [List.length_cons]
              omega
            have flagged := continued byte List.mem_cons_self
            rw [place] at narrow total
            rw [octetsValue_cons_mul, ← increment_eq (by omega), ← Nat.add_assoc val] at total
            rw [if_neg (by omega), if_neg (by omega), if_neg (by omega)]
            exact ih.mpr ⟨octets, last, rfl, fun other member =>
              continued other (List.mem_cons_of_mem _ member), ends, narrow, total, small⟩

/-! ## The whole integer -/

private theorem decodeInt_cons (n : Nat) (first : UInt8) (buf : Bytes) :
    (decodeInt n).run (first :: buf) =
      if first.toNat % 2 ^ n < 2 ^ n - 1 then .ok (first.toNat % 2 ^ n, buf)
      else decodeOctets 0 (first.toNat % 2 ^ n) buf := by
  have byte := @reads_u8 first.toNat first.toNat_lt buf
  rw [UInt8.ofNat_toNat] at byte
  unfold decodeInt
  dsimp only
  rw [StateT.run_bind]
  change (readU8.run (([first] : Bytes) ++ buf)).bind _ = _
  rw [byte]
  change StateT.run (if first.toNat &&& (2 ^ n - 1) < 2 ^ n - 1 then
    pure (first.toNat &&& (2 ^ n - 1)) else decodeOctets 0 (first.toNat &&& (2 ^ n - 1))) buf = _
  rw [Nat.and_two_pow_sub_one_eq_mod]
  split_ifs
  · rfl
  · rfl

/-- What is read stands in the prefix, or in the octets behind it. -/
theorem decodeInt_ok {n value : Nat} {buf rest : Bytes} :
    (decodeInt n).run buf = .ok (value, rest) ↔
      (∃ first : UInt8, buf = first :: rest ∧ first.toNat % 2 ^ n < 2 ^ n - 1 ∧
        value = first.toNat % 2 ^ n) ∨
      ∃ (first : UInt8) (octets : Bytes) (last : UInt8),
        buf = first :: (octets ++ last :: rest) ∧ first.toNat % 2 ^ n = 2 ^ n - 1 ∧
          Continued octets ∧ last.toNat < 128 ∧ octets.length ≤ 9 ∧
            value = 2 ^ n - 1 + octetsValue octets + increment (7 * octets.length) last ∧
              value < 2 ^ 64 := by
  cases buf with
  | nil =>
      refine iff_of_false (fun same => nomatch same) ?_
      rintro (⟨_, same, _⟩ | ⟨_, _, _, same, _⟩)
      · cases same
      · cases same
  | cons first buf =>
      rw [decodeInt_cons]
      have masked : first.toNat % 2 ^ n < 2 ^ n := Nat.mod_lt _ (Nat.two_pow_pos n)
      split_ifs with short
      · constructor
        · intro same
          cases same
          exact .inl ⟨first, rfl, short, rfl⟩
        · rintro (⟨_, same, _, rfl⟩ | ⟨_, _, _, same, full, _⟩)
          · cases same
            rfl
          · cases same
            omega
      · have full : first.toNat % 2 ^ n = 2 ^ n - 1 := by omega
        rw [decodeOctets_ok, full]
        constructor
        · rintro ⟨octets, last, rfl, continued, ends, narrow, total, small⟩
          refine .inr ⟨first, octets, last, rfl, full, continued, ends, by omega, ?_, small⟩
          rw [total, Nat.zero_add, pow_zero, Nat.mul_one]
        · rintro (⟨_, same, less, _⟩ | ⟨_, octets, last, same, _, continued, ends, few, total, small⟩)
          · cases same
            exact absurd less short
          · cases same
            refine ⟨octets, last, rfl, continued, ends, by omega, ?_, small⟩
            rw [total, Nat.zero_add, pow_zero, Nat.mul_one]

private theorem Denotes.eq_of_full {n value : Nat} {first : UInt8} {octets : Bytes}
    (denotes : Denotes n (first :: octets) value) (full : first.toNat % 2 ^ n = 2 ^ n - 1) :
    value = 2 ^ n - 1 + octetsValue octets := by
  cases denotes with
  | short less => exact absurd full (Nat.ne_of_lt less)
  | long _ _ _ => rfl

/-- What is left of the tenth byte behind the first one. -/
theorem increment_tenth {octets : Bytes} (nine : octets.length = 9) (last : UInt8) :
    increment (7 * octets.length) last = last.toNat % 2 * 2 ^ 63 := by
  rw [increment, nine, Nat.shiftLeft_eq]
  omega

/-- An integer is read exactly unless bits of its tenth byte are lost. -/
theorem decodesExactly_iff (n : Nat) (buf : Bytes) : DecodesExactly n buf ↔ ¬ ShiftedOut n buf := by
  constructor
  · rintro exactly ⟨first, octets, last, rest, rfl, full, continued, nine, large, ends, small⟩
    have lost := increment_tenth nine last
    obtain ⟨bytes, same, denotes⟩ := exactly _ rest (decodeInt_ok.mpr (.inr
      ⟨first, octets, last, rfl, full, continued, ends, by omega, rfl, lost ▸ small⟩))
    have whole : (first :: (octets ++ [last])) ++ rest = bytes ++ rest := by simpa using same
    rw [← List.append_cancel_right whole] at denotes
    have exact := denotes.eq_of_full full
    rw [octetsValue_append, lost, nine] at exact
    omega
  · intro kept value rest decoded
    rcases decodeInt_ok.mp decoded with
      ⟨first, rfl, less, rfl⟩ | ⟨first, octets, last, rfl, full, continued, ends, few, rfl, small⟩
    · exact ⟨[first], rfl, .short less⟩
    · refine ⟨first :: (octets ++ [last]), by simp, ?_⟩
      have added : increment (7 * octets.length) last =
          last.toNat % 128 * 2 ^ (7 * octets.length) := by
        rcases Nat.lt_or_eq_of_le few with fewer | nine
        · exact increment_eq (by omega) last
        · have lost := increment_tenth nine last
          have low : last.toNat < 2 := by
            refine Nat.lt_of_not_le fun large => kept ⟨first, octets, last, rest, rfl, full,
              continued, nine, large, ends, lost ▸ small⟩
          rw [lost, nine]
          omega
      rw [added, Nat.add_assoc, ← octetsValue_append]
      exact .long full continued ends

/-! ## Both directions -/

/-- The bytes that an integer is written with are read as this integer, whatever follows them. -/
def RoundTrips (i first n : Nat) : Prop :=
  ∃ bytes : Bytes,
    (∀ room, bytes.length ≤ room → (encodeInt i first n).run { written := [], room } =
      .ok (bytes.length, { written := bytes, room := room - bytes.length })) ∧
    ∀ rest, (decodeInt n).run (bytes ++ rest) = .ok (i, rest)

private theorem round_trips {i n : Nat} {first : UInt8} (small : i < 2 ^ 64) (narrow : n ≤ 8)
    (low : first.toNat % 2 ^ n = 0) : RoundTrips i first.toNat n := by
  have byte := first.toNat_lt
  have clear : Clear first.toNat n := by
    obtain ⟨count, multiple⟩ := Nat.dvd_of_mod_eq_zero low
    have parts : 2 ^ n * 2 ^ (8 - n) = 256 := by
      rw [← pow_add, Nat.add_sub_of_le narrow]
      rfl
    have fewer : count < 2 ^ (8 - n) := by
      refine Nat.lt_of_not_le fun many => ?_
      have large := Nat.mul_le_mul_left (2 ^ n) many
      omega
    have bounded := Nat.mul_le_mul_left (2 ^ n) fewer
    refine ⟨count, multiple, ?_⟩
    rw [parts, Nat.mul_succ] at bounded
    omega
  refine ⟨intImage i first.toNat n, fun room enough => ?_, reads_int clear small⟩
  have written := @writes_int i first.toNat n clear { written := [], room } enough
  simpa using written

/-- Integers of up to 64 bits that were written are read, for every width of the prefix. An integer
that is read has the value of its bytes if and only if no bits of it are shifted out. -/
theorem prefix_int_exact_iff {n : Nat} (narrow : n ≤ 8) :
    (∀ i < 2 ^ 64, ∀ first : UInt8, first.toNat % 2 ^ n = 0 → RoundTrips i first.toNat n) ∧
      ∀ buf, DecodesExactly n buf ↔ ¬ ShiftedOut n buf :=
  ⟨fun _ small _ low => round_trips small narrow low, decodesExactly_iff n⟩

/-- 31 and nine bytes that add nothing, and then two times 2 ^ 63. -/
theorem too_large_read : ¬ ∀ n, 1 ≤ n → n ≤ 8 → ∀ buf, DecodesExactly n buf := by
  intro always
  refine (decodesExactly_iff 5 (31 :: (List.replicate 9 128 ++ [2]))).mp
    (always 5 (by decide) (by decide) _) ?_
  have continued : Continued (List.replicate 9 128) := by
    intro byte member
    rw [List.eq_of_mem_replicate member]
    decide
  exact ⟨31, List.replicate 9 128, 2, [], rfl, rfl, continued, rfl, by decide, by decide, by decide⟩

/-- The integer 1337 behind a prefix of five bits. -/
theorem prefix_int_exact_1337 : RoundTrips 1337 224 5 ∧ DecodesExactly 5 [31, 154, 10] := by
  obtain ⟨written, read⟩ := @prefix_int_exact_iff 5 (by decide)
  refine ⟨written 1337 (by decide) 224 rfl, (read _).mpr ?_⟩
  rintro ⟨_, octets, _, _, same, _, _, long, _⟩
  have lengths := congrArg List.length same
  simp only [List.length_cons, List.length_append, List.length_nil, long] at lengths
  omega

end Tquic.H3.Qpack
