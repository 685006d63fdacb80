import Tquic.Basic
import Tquic.Lib.BigEndian
import Tquic.Lib.Wire

/-! Integers and variable-length integers on the wire, after `codec.rs`. -/

set_option autoImplicit false

namespace Tquic

open Lib

/-- Values above `vintMax` are unreachable in the source. -/
def encodeVarintLen (value : Nat) : Nat :=
  if value ≤ 63 then 1 else if value ≤ 16383 then 2 else if value ≤ 1073741823 then 4 else 8

/-- The two most significant bits of the first byte give the length. -/
def decodeVarintLen (first : UInt8) : Nat :=
  match first.toNat >>> 6 with
  | 0 => 1
  | 1 => 2
  | 2 => 4
  | _ => 8

abbrev Decoder (α : Type) := Reader UInt8 Error α

abbrev Encoder (α : Type) := Writer UInt8 Error α

namespace Decoder

def read (len : Nat) : Decoder Bytes := Reader.take .bufferTooShort len

def readUint (len : Nat) : Decoder Nat := BigEndian.decode <$> read len

def readU8 : Decoder Nat := readUint 1

def readU16 : Decoder Nat := readUint 2

def readU32 : Decoder Nat := readUint 4

def readU64 : Decoder Nat := readUint 8

/-- Read an integer of a known length and clear the bits that mark the length. -/
def readMarked : Nat → Decoder Nat
  | 1 => readU8
  | 2 => (· &&& 0x3fff) <$> readU16
  | 4 => (· &&& 0x3fffffff) <$> readU32
  | _ => (· &&& 0x3fffffffffffffff) <$> readU64

def readVarint : Decoder Nat := do
  let input ← get
  match input.head? with
  | none => throw .bufferTooShort
  | some first =>
      if input.length < decodeVarintLen first then throw .bufferTooShort
      else readMarked (decodeVarintLen first)

def readWithVarintLength : Decoder Bytes := do
  let len ← readVarint
  read len

def readWithU8Length : Decoder Bytes := do
  let len ← readU8
  read len

end Decoder

namespace Encoder

def write (src : Bytes) : Encoder Unit := Writer.put .bufferTooShort src

/-- The last `len` bytes of the value are written. -/
def writeUint (len value : Nat) : Encoder Unit := write (BigEndian.encode len value)

def writeU8 (value : Nat) : Encoder Unit := writeUint 1 value

def writeU16 (value : Nat) : Encoder Unit := writeUint 2 value

def writeU32 (value : Nat) : Encoder Unit := writeUint 4 value

def writeU64 (value : Nat) : Encoder Unit := writeUint 8 value

def writeVarintWithLen (value len : Nat) : Encoder Unit :=
  match len with
  | 1 => writeU8 value
  | 2 => writeU16 (value % 65536 ||| 0x4000)
  | 4 => writeU32 (value % 4294967296 ||| 0x80000000)
  | 8 => writeU64 (value ||| 0xc000000000000000)
  | _ => throw .panic

def writeVarint (value : Nat) : Encoder Unit :=
  if value ≤ vintMax then writeVarintWithLen value (encodeVarintLen value) else throw .panic

end Encoder

/-! ## What is written can be read -/

/-- The lengths of variable-length integers, each with the first value that is too large. -/
inductive VarintLen : Nat → Nat → Prop where
  | one : VarintLen 1 0x40
  | two : VarintLen 2 0x4000
  | four : VarintLen 4 0x40000000
  | eight : VarintLen 8 0x4000000000000000

/-- The bits that mark an integer of the given length. -/
def varintMark : Nat → Nat
  | 1 => 0
  | 2 => 0x4000
  | 4 => 0x80000000
  | _ => 0xc000000000000000

def varintBytes (len value : Nat) : Bytes := BigEndian.encode len (varintMark len + value)

def varint (value : Nat) : Bytes := varintBytes (encodeVarintLen value) value

@[simp] theorem length_varintBytes (len value : Nat) : (varintBytes len value).length = len :=
  BigEndian.length_encode len _

@[simp] theorem length_varint (value : Nat) : (varint value).length = encodeVarintLen value :=
  length_varintBytes _ value

theorem fills_uint (len value : Nat) :
    Fills (Encoder.writeUint len value) (BigEndian.encode len value) () :=
  Fills.put _ _

theorem writes_uint (len value : Nat) :
    Writes (Encoder.writeUint len value) (BigEndian.encode len value) () :=
  (fills_uint len value).writes

theorem reads_uint {len value : Nat} (small : value < 256 ^ len) :
    Reads (Decoder.readUint len) (BigEndian.encode len value) value := by
  have taken := Reads.take Error.bufferTooShort (BigEndian.encode len value)
  rw [BigEndian.length_encode] at taken
  have mapped := taken.map BigEndian.decode
  rwa [BigEndian.decode_encode small] at mapped

theorem encodeVarintLen_pos (value : Nat) : 0 < encodeVarintLen value := by
  unfold encodeVarintLen
  split_ifs <;> omega

theorem encodeVarintLen_le (value : Nat) : encodeVarintLen value ≤ 8 := by
  unfold encodeVarintLen
  split_ifs <;> decide

theorem encodeVarintLen_mono {less more : Nat} (le : less ≤ more) :
    encodeVarintLen less ≤ encodeVarintLen more := by
  unfold encodeVarintLen
  split_ifs <;> omega

variable {value : Nat}

theorem encodeVarintLen_fits (small : value ≤ vintMax) :
    ∃ limit, VarintLen (encodeVarintLen value) limit ∧ value < limit := by
  unfold encodeVarintLen
  unfold vintMax at small
  split_ifs
  · exact ⟨_, .one, by omega⟩
  · exact ⟨_, .two, by omega⟩
  · exact ⟨_, .four, by omega⟩
  · exact ⟨_, .eight, by omega⟩

/-- A value is written in any length that holds it. -/
theorem fills_varintWithLen {len limit value : Nat} (form : VarintLen len limit)
    (small : value < limit) :
    Fills (Encoder.writeVarintWithLen value len) (varintBytes len value) () := by
  have marked : ∀ bits count : Nat, value < 2 ^ bits →
      value ||| 2 ^ bits * count = 2 ^ bits * count + value := by
    intro bits count less
    rw [Nat.two_pow_add_eq_or_of_lt less, Nat.or_comm]
  cases form with
  | one =>
      have same : varintBytes 1 value = BigEndian.encode 1 value := by simp [varintBytes, varintMark]
      rw [same]
      exact Fills.put _ _
  | two =>
      have bits : value % 65536 ||| 0x4000 = 0x4000 + value := by
        rw [Nat.mod_eq_of_lt (by omega)]
        exact marked 14 1 small
      unfold Encoder.writeVarintWithLen
      rw [bits]
      exact Fills.put _ _
  | four =>
      have bits : value % 4294967296 ||| 0x80000000 = 0x80000000 + value := by
        rw [Nat.mod_eq_of_lt (by omega)]
        exact marked 30 2 small
      unfold Encoder.writeVarintWithLen
      rw [bits]
      exact Fills.put _ _
  | eight =>
      have bits : value ||| 0xc000000000000000 = 0xc000000000000000 + value := marked 62 3 small
      unfold Encoder.writeVarintWithLen
      rw [bits]
      exact Fills.put _ _

theorem writes_varintWithLen {len limit value : Nat} (form : VarintLen len limit)
    (small : value < limit) :
    Writes (Encoder.writeVarintWithLen value len) (varintBytes len value) () :=
  (fills_varintWithLen form small).writes

theorem fills_varint (small : value ≤ vintMax) :
    Fills (Encoder.writeVarint value) (varint value) () := by
  obtain ⟨limit, form, less⟩ := encodeVarintLen_fits small
  unfold Encoder.writeVarint
  rw [if_pos small]
  exact fills_varintWithLen form less

theorem writes_varint (small : value ≤ vintMax) :
    Writes (Encoder.writeVarint value) (varint value) () :=
  (fills_varint small).writes

theorem decodeVarintLen_ofNat {byte : Nat} (small : byte < 256) :
    decodeVarintLen (UInt8.ofNat byte) =
      match byte / 64 with
      | 0 => 1
      | 1 => 2
      | 2 => 4
      | _ => 8 := by
  unfold decodeVarintLen
  rw [UInt8.toNat_ofNat', Nat.mod_eq_of_lt small, Nat.shiftRight_eq_div_pow]

private theorem head?_varintBytes {len limit value : Nat} (form : VarintLen len limit)
    (small : value < limit) (rest : Bytes) :
    ∃ first, (varintBytes len value ++ rest).head? = some first ∧ decodeVarintLen first = len := by
  have first : ∀ count, (varintBytes (count + 1) value ++ rest).head? =
      some (UInt8.ofNat ((varintMark (count + 1) + value) / 256 ^ count)) := by
    intro count
    rw [List.head?_append, varintBytes, BigEndian.head?_encode]
    rfl
  cases form with
  | one =>
      have quotient : (0 + value) / 256 ^ 0 / 64 = 0 := by omega
      refine ⟨_, first 0, ?_⟩
      show decodeVarintLen (UInt8.ofNat ((0 + value) / 256 ^ 0)) = 1
      rw [decodeVarintLen_ofNat (by omega), quotient]
      rfl
  | two =>
      have quotient : (0x4000 + value) / 256 ^ 1 / 64 = 1 := by omega
      refine ⟨_, first 1, ?_⟩
      show decodeVarintLen (UInt8.ofNat ((0x4000 + value) / 256 ^ 1)) = 2
      rw [decodeVarintLen_ofNat (by omega), quotient]
      rfl
  | four =>
      have quotient : (0x80000000 + value) / 256 ^ 3 / 64 = 2 := by omega
      refine ⟨_, first 3, ?_⟩
      show decodeVarintLen (UInt8.ofNat ((0x80000000 + value) / 256 ^ 3)) = 4
      rw [decodeVarintLen_ofNat (by omega), quotient]
      rfl
  | eight =>
      have quotient : (0xc000000000000000 + value) / 256 ^ 7 / 64 = 3 := by omega
      refine ⟨_, first 7, ?_⟩
      show decodeVarintLen (UInt8.ofNat ((0xc000000000000000 + value) / 256 ^ 7)) = 8
      rw [decodeVarintLen_ofNat (by omega), quotient]
      rfl

theorem reads_varintBytes {len limit value : Nat} (form : VarintLen len limit)
    (small : value < limit) : Reads Decoder.readVarint (varintBytes len value) value := by
  intro rest
  obtain ⟨first, head, length⟩ := head?_varintBytes form small rest
  have long : ¬ (varintBytes len value ++ rest).length < len := by simp
  have unmarked : ∀ bits count : Nat, value < 2 ^ bits →
      (2 ^ bits * count + value) &&& (2 ^ bits - 1) = value := by
    intro bits count less
    rw [Nat.and_two_pow_sub_one_eq_mod, Nat.mul_add_mod, Nat.mod_eq_of_lt less]
  have run : Decoder.readVarint.run (varintBytes len value ++ rest) =
      (Decoder.readMarked len).run (varintBytes len value ++ rest) := by
    unfold Decoder.readVarint
    rw [StateT.run_bind, StateT.run_get]
    simp only [bind, Except.bind, pure, Except.pure, head, length, if_neg long]
  rw [run]
  cases form with
  | one =>
      have plain := @reads_uint 1 value (by omega)
      simpa [varintBytes, varintMark, Decoder.readMarked, Decoder.readU8] using plain rest
  | two =>
      have plain := (@reads_uint 2 (0x4000 + value) (by omega)).map (· &&& 0x3fff)
      rw [show (0x4000 + value) &&& 0x3fff = value from unmarked 14 1 small] at plain
      exact plain rest
  | four =>
      have plain := (@reads_uint 4 (0x80000000 + value) (by omega)).map (· &&& 0x3fffffff)
      rw [show (0x80000000 + value) &&& 0x3fffffff = value from unmarked 30 2 small] at plain
      exact plain rest
  | eight =>
      have plain := (@reads_uint 8 (0xc000000000000000 + value) (by omega)).map
        (· &&& 0x3fffffffffffffff)
      rw [show (0xc000000000000000 + value) &&& 0x3fffffffffffffff = value from
        unmarked 62 3 small] at plain
      exact plain rest

theorem reads_varint {value : Nat} (small : value ≤ vintMax) :
    Reads Decoder.readVarint (varint value) value := by
  obtain ⟨limit, form, less⟩ := encodeVarintLen_fits small
  exact reads_varintBytes form less

variable {input rest : Bytes}

theorem readUint_ok {len value : Nat}
    (read : (Decoder.readUint len).run input = .ok (value, rest)) :
    value < 256 ^ len ∧ input.length = rest.length + len := by
  obtain ⟨bytes, taken, rfl⟩ := Reader.run_map_ok.mp read
  obtain ⟨length, rfl⟩ := Reader.run_take_ok taken
  have small := BigEndian.decode_lt bytes
  rw [length] at small
  rw [List.length_append, length, Nat.add_comm]
  exact ⟨small, rfl⟩

theorem decodeVarintLen_cases (first : UInt8) :
    decodeVarintLen first = 1 ∨ decodeVarintLen first = 2 ∨ decodeVarintLen first = 4 ∨
      decodeVarintLen first = 8 := by
  unfold decodeVarintLen
  split <;> simp

theorem decodeVarintLen_pos (first : UInt8) : 0 < decodeVarintLen first := by
  rcases decodeVarintLen_cases first with told | told | told | told <;> omega

private theorem varintBytes_of_mark {len : Nat} {first : UInt8} {more : Bytes}
    (told : decodeVarintLen first = len) (length : more.length + 1 = len) :
    ∃ limit value, VarintLen len limit ∧ value < limit ∧
      BigEndian.decode (first :: more) = varintMark len + value ∧
      first :: more = varintBytes len value := by
  have digits := BigEndian.decode_lt more
  have whole := BigEndian.decode_cons first more
  have image := BigEndian.encode_decode (first :: more)
  have small := first.toNat_lt
  have close : ∀ {limit}, VarintLen len limit → varintMark len ≤ BigEndian.decode (first :: more) →
      BigEndian.decode (first :: more) < varintMark len + limit →
      ∃ limit value, VarintLen len limit ∧ value < limit ∧
        BigEndian.decode (first :: more) = varintMark len + value ∧
        first :: more = varintBytes len value := by
    intro limit form above below
    obtain ⟨value, same⟩ := Nat.exists_eq_add_of_le above
    rw [List.length_cons, length, same] at image
    exact ⟨limit, value, form, by omega, same, image.symm⟩
  unfold decodeVarintLen at told
  rw [Nat.shiftRight_eq_div_pow] at told
  split at told
  · subst told
    rw [show more.length = 0 by omega] at whole digits
    exact close .one (Nat.zero_le _) (by simp only [varintMark]; omega)
  · subst told
    rw [show more.length = 1 by omega] at whole digits
    exact close .two (by simp only [varintMark]; omega) (by simp only [varintMark]; omega)
  · subst told
    rw [show more.length = 3 by omega] at whole digits
    exact close .four (by simp only [varintMark]; omega) (by simp only [varintMark]; omega)
  · rename_i zero one two
    have top : first.toNat / 2 ^ 6 ≠ 0 ∧ first.toNat / 2 ^ 6 ≠ 1 ∧ first.toNat / 2 ^ 6 ≠ 2 :=
      ⟨zero, one, two⟩
    subst told
    rw [show more.length = 7 by omega] at whole digits
    exact close .eight (by simp only [varintMark]; omega) (by simp only [varintMark]; omega)

theorem VarintLen.unmark {len limit value bits : Nat} (form : VarintLen len limit) (less : value < limit)
    (long : bits + 2 = 8 * len) : (varintMark len + value) &&& (2 ^ bits - 1) = value := by
  rw [Nat.and_two_pow_sub_one_eq_mod]
  cases form with
  | one =>
      obtain rfl : bits = 6 := by omega
      simp only [varintMark]
      omega
  | two =>
      obtain rfl : bits = 14 := by omega
      simp only [varintMark]
      omega
  | four =>
      obtain rfl : bits = 30 := by omega
      simp only [varintMark]
      omega
  | eight =>
      obtain rfl : bits = 62 := by omega
      simp only [varintMark]
      omega

theorem readUint_form {len whole : Nat} {first : UInt8} {tail rest : Bytes}
    (told : decodeVarintLen first = len)
    (read : (Decoder.readUint len).run (first :: tail) = .ok (whole, rest)) :
    ∃ limit value, VarintLen len limit ∧ value < limit ∧ whole = varintMark len + value ∧
      first :: tail = varintBytes len value ++ rest := by
  obtain ⟨bytes, taken, rfl⟩ := Reader.run_map_ok.mp read
  obtain ⟨length, split⟩ := Reader.run_take_ok taken
  cases bytes with
  | nil =>
      have positive := decodeVarintLen_pos first
      rw [told, ← length] at positive
      exact absurd positive (Nat.lt_irrefl 0)
  | cons head more =>
      obtain ⟨rfl, rfl⟩ := List.cons.inj split
      obtain ⟨limit, value, form, less, digits, image⟩ := varintBytes_of_mark told length
      exact ⟨limit, value, form, less, digits, by rw [← image]; rfl⟩

/-- What is read stands in one of the four lengths, not always the shortest one. -/
theorem readVarint_form (read : Decoder.readVarint.run input = .ok (value, rest)) :
    ∃ len limit, VarintLen len limit ∧ value < limit ∧ input = varintBytes len value ++ rest := by
  obtain ⟨_, _, got, marked⟩ := run_bind_ok.mp read
  cases got
  cases input with
  | nil => cases marked
  | cons first tail =>
      have masked : ∀ {bits len : Nat}, decodeVarintLen first = len → bits + 2 = 8 * len →
          ((· &&& (2 ^ bits - 1)) <$> Decoder.readUint len).run (first :: tail) = .ok (value, rest) →
          ∃ len limit, VarintLen len limit ∧ value < limit ∧
            first :: tail = varintBytes len value ++ rest := by
        intro bits len told long ran
        obtain ⟨whole, taken, rfl⟩ := Reader.run_map_ok.mp ran
        obtain ⟨limit, held, form, less, rfl, image⟩ := readUint_form told taken
        rw [form.unmark less long]
        exact ⟨len, limit, form, less, image⟩
      simp only [List.head?_cons] at marked
      split_ifs at marked
      · cases marked
      · rcases decodeVarintLen_cases first with told | told | told | told
        · rw [told] at marked
          obtain ⟨limit, held, form, less, same, image⟩ := readUint_form told marked
          cases form
          obtain rfl : value = held := same.trans (Nat.zero_add held)
          exact ⟨1, _, .one, less, image⟩
        · rw [told] at marked
          exact @masked 14 2 told rfl marked
        · rw [told] at marked
          exact @masked 30 4 told rfl marked
        · rw [told] at marked
          exact @masked 62 8 told rfl marked

theorem VarintLen.shortest {len limit value : Nat} (form : VarintLen len limit) (less : value < limit) :
    value ≤ vintMax ∧ encodeVarintLen value ≤ len := by
  unfold encodeVarintLen vintMax
  cases form <;> split_ifs <;> omega

theorem readVarint_span (read : Decoder.readVarint.run input = .ok (value, rest)) :
    value ≤ vintMax ∧ rest.length + encodeVarintLen value ≤ input.length := by
  obtain ⟨len, limit, form, less, rfl⟩ := readVarint_form read
  obtain ⟨small, short⟩ := form.shortest less
  rw [List.length_append, length_varintBytes]
  exact ⟨small, by omega⟩

theorem readVarint_ok (read : Decoder.readVarint.run input = .ok (value, rest)) :
    value ≤ vintMax ∧ rest.length < input.length := by
  have span := readVarint_span read
  have positive := encodeVarintLen_pos value
  exact ⟨span.1, by omega⟩

theorem reads_bytes (bytes : Bytes) : Reads (Decoder.read bytes.length) bytes bytes :=
  Reads.take _ bytes

theorem fills_bytes (bytes : Bytes) : Fills (Encoder.write bytes) bytes () :=
  Fills.put _ bytes

theorem writes_bytes (bytes : Bytes) : Writes (Encoder.write bytes) bytes () :=
  (fills_bytes bytes).writes

theorem reads_withVarintLength {bytes : Bytes} (small : bytes.length ≤ vintMax) :
    Reads Decoder.readWithVarintLength (varint bytes.length ++ bytes) bytes :=
  (reads_varint small).bind (reads_bytes bytes)

theorem reads_withU8Length {bytes : Bytes} (small : bytes.length < 256) :
    Reads Decoder.readWithU8Length (BigEndian.encode 1 bytes.length ++ bytes) bytes :=
  (reads_uint (by simpa using small)).bind (reads_bytes bytes)

end Tquic
