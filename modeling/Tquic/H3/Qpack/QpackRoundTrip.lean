import Tquic.H3.Qpack.Qpack
import Tquic.H3.Qpack.HuffmanRoundTrip

/-! A field section that was encoded is decoded to the same headers, with their names in lower
case. -/

set_option autoImplicit false

namespace Tquic.H3.Qpack

open Lib Huffman

/-! ## The static table -/

theorem firstRange_some {name : Bytes} {names : List (String × Nat × Nat)} {range : Nat × Nat}
    (found : firstRange name names = some range) :
    ∃ other, (other, range.1, range.2) ∈ names ∧ eqIgnoreAsciiCase name (ascii other) = true := by
  induction names with
  | nil => cases found
  | cons entry names ih =>
      obtain ⟨other, start, stop⟩ := entry
      unfold firstRange at found
      split_ifs at found with same
      · cases found
        exact ⟨other, List.mem_cons_self, same⟩
      · obtain ⟨later, member, equal⟩ := ih found
        exact ⟨later, List.mem_cons_of_mem _ member, equal⟩

variable {idx : Nat}

private theorem matchEntries_some {value : Bytes} {entries : List (Bytes × Bytes × Nat)}
    {nameMatch : Option (Nat × Bool)} {whole : Bool}
    (found : matchEntries value entries nameMatch = some (idx, whole)) :
    nameMatch = some (idx, whole) ∨
      ∃ entry ∈ entries, entry.2.2 = idx ∧ (whole = true → entry.2.1 = value) := by
  induction entries generalizing nameMatch with
  | nil => exact Or.inl found
  | cons entry entries ih =>
      obtain ⟨name, known, index⟩ := entry
      unfold matchEntries at found
      split_ifs at found with empty same unmatched
      · cases found
        exact Or.inr ⟨_, List.mem_cons_self, rfl, fun impossible => by cases impossible⟩
      · cases found
        exact Or.inr ⟨_, List.mem_cons_self, rfl, fun _ => same.2.symm⟩
      · rcases ih found with first | ⟨later, member, facts⟩
        · cases first
          exact Or.inr ⟨_, List.mem_cons_self, rfl, fun impossible => by cases impossible⟩
        · exact Or.inr ⟨later, List.mem_cons_of_mem _ member, facts⟩
      · rcases ih found with first | ⟨later, member, facts⟩
        · exact Or.inl first
        · exact Or.inr ⟨later, List.mem_cons_of_mem _ member, facts⟩

/-- An index of the static table stands for the name, and for the value too if it is whole. -/
theorem encodeStatic_some {name value : Bytes} {whole : Bool}
    (found : encodeStatic name value = some (idx, whole)) :
    idx < 99 ∧ ∃ known, decodeStatic idx = .ok (name.map toAsciiLowercase, known) ∧
      (whole = true → known = value) := by
  unfold encodeStatic at found
  cases located : findStaticTableRange name with
  | none =>
      rw [located] at found
      cases found
  | some range =>
      rw [located] at found
      unfold findStaticTableRange at located
      cases arm : staticTableRanges.find? (·.1 == name.length) with
      | none =>
          rw [arm] at located
          cases located
      | some names =>
          rw [arm] at located
          obtain ⟨other, member, same⟩ := firstRange_some located
          have fits := List.all_eq_true.mp (List.all_eq_true.mp staticTableRanges_fit names
            (List.mem_of_find?_eq_some arm)) _ member
          obtain ⟨lower, entries⟩ := Bool.and_eq_true_iff.mp fits
          rcases matchEntries_some found with impossible | ⟨entry, inside, rfl, value⟩
          · cases impossible
          · obtain ⟨named, indexed⟩ := Bool.and_eq_true_iff.mp (List.all_eq_true.mp entries entry inside)
            have decoded : staticDecodeTable[entry.2.2]? = some (entry.1, entry.2.1) :=
              beq_iff_eq.mp indexed
            have equal : name.map toAsciiLowercase = entry.1 := by
              rw [beq_iff_eq.mp same, beq_iff_eq.mp lower, beq_iff_eq.mp named]
            obtain ⟨small, _⟩ := List.getElem?_eq_some_iff.mp decoded
            have length : staticDecodeTable.length = 99 := rfl
            refine ⟨length ▸ small, entry.2.1, ?_, value⟩
            unfold decodeStatic
            rw [decoded, equal]

/-! ## Strings -/

variable {hdr : Header}

theorem length_lt_of_size {limit : Nat} (fits : headerSize hdr < limit) :
    hdr.name.length < limit ∧ hdr.value.length < limit := by
  unfold headerSize at fits
  omega

theorem writes_sized {first n : Nat} {writer : Http3Encoder Unit} {payload : Bytes}
    (clear : Clear first n) (writes : Writes writer payload ()) :
    Writes (do let _ ← encodeInt payload.length first n; writer)
      (intImage payload.length first n ++ payload) () :=
  Writes.bind (writes_int clear) writes

theorem reads_sized {α : Type} {first n : Nat} {payload more : Bytes} {next : Bytes → Http3Decoder α}
    {value : α} (clear : Clear first n) (small : payload.length < 2 ^ 64)
    (reads : Reads (next payload) more value) :
    Reads (do let len ← decodeInt n; let str ← Http3Decoder.read len; next str)
      (intImage payload.length first n ++ (payload ++ more)) value :=
  Reads.bind (reads_int clear small) (Reads.bind (reads_bytes payload) reads)

theorem reads_literal {huff : Bool} {str value : Bytes} (decoded : decodeLiteral huff str = .ok value) :
    Reads (decodeLiteral huff str : Http3Decoder Bytes) [] value := by
  intro rest
  rw [decoded]
  rfl

theorem payload_of_string (str : Bytes) (lower : Bool) (raw : Http3Encoder Unit)
    (plain : Writes raw (lowered lower str) ()) (small : str.length < 2 ^ 64) :
    ∃ payload, payload.length < 2 ^ 64 ∧
      if encodeOutputLength str lower < str.length then
        payload.length = encodeOutputLength str lower ∧ Writes (Huffman.encode str lower) payload () ∧
          decodeLiteral true payload = .ok (lowered lower str)
      else payload.length = str.length ∧ Writes raw payload () ∧
        decodeLiteral false payload = .ok (lowered lower str) := by
  have same : (lowered lower str).length = str.length := by
    cases lower with
    | true => exact List.length_map _
    | false => rfl
  split_ifs with shorter
  · obtain ⟨bytes, written, length, decoded⟩ := encode_decodes str lower
    exact ⟨bytes, by omega, length, written, decoded⟩
  · exact ⟨lowered lower str, by omega, same, plain, rfl⟩

/-- A byte whose last bits an integer uses, as a number. -/
theorem toNat_mark {first n i : Nat} (clear : Clear first n) :
    (UInt8.ofNat (first + min i (2 ^ n - 1))).toNat = first + min i (2 ^ n - 1) := by
  obtain ⟨_, _, room⟩ := clear
  have positive := Nat.two_pow_pos n
  rw [UInt8.toNat_ofNat', Nat.mod_eq_of_lt (by omega)]

theorem reads_str {first : Nat} {huff : Bool} {payload v : Bytes} (clear : Clear first 7)
    (small : payload.length < 2 ^ 64) (decoded : decodeLiteral huff payload = .ok v)
    (marked : ∀ low ≤ 2 ^ 7 - 1, ((first + low) &&& 0x80 == 0x80) = huff) :
    Reads decodeStr (intImage payload.length first 7 ++ payload) v := by
  have read : Reads (do let len ← decodeInt 7; let str ← Http3Decoder.read len; decodeLiteral huff str)
      (intImage payload.length first 7 ++ (payload ++ [])) v :=
    reads_sized clear small (reads_literal decoded)
  rw [List.append_nil] at read
  intro rest
  have head := head?_intImage payload.length first 7 (payload ++ rest)
  rw [← List.append_assoc] at head
  have mark := marked _ (Nat.min_le_right payload.length (2 ^ 7 - 1))
  rw [← toNat_mark clear] at mark
  refine Eq.trans ?_ (read rest)
  unfold decodeStr
  rw [StateT.run_bind, StateT.run_get]
  simp only [bind, Except.bind, pure, Except.pure, head, mark]

theorem str_trip {v : Bytes} (small : v.length < 2 ^ 64) :
    ∃ output, Writes (encodeStr v 7) output () ∧ Reads decodeStr output v := by
  obtain ⟨payload, fits, facts⟩ := payload_of_string v false (Http3Encoder.write v) (writes_bytes v) small
  unfold encodeStr
  dsimp only
  split_ifs at facts ⊢ with shorter
  · obtain ⟨length, written, decoded⟩ := facts
    have clear : Clear 0x80 7 := ⟨1, rfl, by decide⟩
    exact ⟨_, length ▸ writes_sized clear written, reads_str clear fits decoded (by decide)⟩
  · obtain ⟨length, written, decoded⟩ := facts
    have clear : Clear 0 7 := ⟨0, rfl, by decide⟩
    exact ⟨_, length ▸ writes_sized clear written, reads_str clear fits decoded (by decide)⟩

/-! ## Headers -/

def lowercase (hdr : Header) : Header := { hdr with name := hdr.name.map toAsciiLowercase }

/-- What the encoder writes starts with a byte from which the decoder tells how to read it. -/
def Trips (hdr : Header) : Prop :=
  ∃ first tail, Writes (encodeHeader hdr) (first :: tail) () ∧
    Reads (decodeHeader first.toNat) (first :: tail) (lowercase hdr)

theorem trips_of_int {i first n : Nat} {tail : Bytes} {reader : Http3Decoder Header}
    (clear : Clear first n) (written : Writes (encodeHeader hdr) (intImage i first n ++ tail) ())
    (selected : ∀ low ≤ 2 ^ n - 1, decodeHeader (first + low) = reader)
    (reads : Reads reader (intImage i first n ++ tail) (lowercase hdr)) : Trips hdr := by
  obtain ⟨rest, shape⟩ := List.head?_eq_some_iff.mp (head?_intImage i first n tail)
  rw [shape] at written reads
  refine ⟨_, rest, written, ?_⟩
  rwa [toNat_mark clear, selected _ (Nat.min_le_right i (2 ^ n - 1))]

theorem trips_indexed (found : encodeStatic hdr.name hdr.value = some (idx, true)) : Trips hdr := by
  obtain ⟨small, known, decoded, same⟩ := encodeStatic_some found
  have clear : Clear 0xc0 6 := ⟨3, rfl, by decide⟩
  have written : Writes (encodeHeader hdr) (intImage idx 0xc0 6 ++ []) () := by
    unfold encodeHeader
    rw [found]
    exact Writes.bind (writes_int clear) (Writes.pure ())
  have marks : ∀ low ≤ 2 ^ 6 - 1, Representation.ofByte (0xc0 + low) = .indexed ∧
      ((0xc0 + low) &&& 0x40 == 0x40) = true := by decide
  have read : Reads (do
      let index ← decodeInt 6
      let entry ← decodeStatic index
      return { name := entry.1, value := entry.2 }) (intImage idx 0xc0 6 ++ []) (lowercase hdr) := by
    refine Reads.bind (reads_int clear (by omega)) ?_
    intro rest
    rw [decoded, same rfl]
    rfl
  refine trips_of_int clear written ?_ read
  intro low bound
  unfold decodeHeader
  rw [(marks low bound).1]
  simp only [(marks low bound).2]
  rfl

private theorem trips_nameRef (small : hdr.value.length < 2 ^ 64)
    (found : encodeStatic hdr.name hdr.value = some (idx, false)) : Trips hdr := by
  obtain ⟨few, known, decoded, _⟩ := encodeStatic_some found
  obtain ⟨output, wrote, reads⟩ := str_trip small
  have clear : Clear 0x50 4 := ⟨5, rfl, by decide⟩
  have written : Writes (encodeHeader hdr) (intImage idx 0x50 4 ++ output) () := by
    unfold encodeHeader
    rw [found]
    exact Writes.bind (writes_int clear) wrote
  have marks : ∀ low ≤ 2 ^ 4 - 1, Representation.ofByte (0x50 + low) = .literalWithNameRef ∧
      ((0x50 + low) &&& 0x10 == 0x10) = true := by decide
  have read : Reads (do
      let nameIdx ← decodeInt 4
      let value ← decodeStr
      let entry ← decodeStatic nameIdx
      return { name := entry.1, value }) (intImage idx 0x50 4 ++ output) (lowercase hdr) := by
    refine Reads.bind (reads_int clear (by omega)) (Reads.last reads ?_)
    rw [decoded]
    rfl
  refine trips_of_int clear written ?_ read
  intro low bound
  unfold decodeHeader
  rw [(marks low bound).1]
  simp only [(marks low bound).2]
  rfl

theorem trips_literal {first : Nat} {huff : Bool} {payload output : Bytes}
    (clear : Clear first 3) (fits : payload.length < 2 ^ 64)
    (decoded : decodeLiteral huff payload = .ok (hdr.name.map toAsciiLowercase))
    (reads : Reads decodeStr output hdr.value)
    (written : Writes (encodeHeader hdr) (intImage payload.length first 3 ++ (payload ++ output)) ())
    (marks : ∀ low ≤ 2 ^ 3 - 1, Representation.ofByte (first + low) = .literal ∧
      ((first + low) &&& 0x08 == 0x08) = huff) : Trips hdr := by
  have read : Reads (do
      let nameLen ← decodeInt 3
      let name ← Http3Decoder.read nameLen
      let name ← decodeLiteral huff name
      let value ← decodeStr
      return { name, value }) (intImage payload.length first 3 ++ (payload ++ output))
        (lowercase hdr) := by
    refine reads_sized clear fits ?_
    change Reads _ ([] ++ output) _
    exact Reads.bind (reads_literal decoded) (Reads.last reads rfl)
  refine trips_of_int clear written ?_ read
  intro low bound
  unfold decodeHeader
  rw [(marks low bound).1]
  simp only [(marks low bound).2]

private theorem header_trips {hdr : Header} (fits : headerSize hdr < 2 ^ 64) : Trips hdr := by
  obtain ⟨smallName, smallValue⟩ := length_lt_of_size fits
  cases found : encodeStatic hdr.name hdr.value with
  | some result =>
      obtain ⟨idx, whole⟩ := result
      cases whole with
      | true => exact trips_indexed found
      | false => exact trips_nameRef smallValue found
  | none =>
      obtain ⟨output, wrote, reads⟩ := str_trip smallValue
      obtain ⟨payload, small, facts⟩ := payload_of_string hdr.name true
        (Http3Encoder.write (hdr.name.map toAsciiLowercase)) (writes_bytes _) smallName
      split_ifs at facts with shorter
      · obtain ⟨length, written, decoded⟩ := facts
        have clear : Clear 0x28 3 := ⟨5, rfl, by decide⟩
        refine trips_literal clear small decoded reads ?_ (by decide)
        unfold encodeHeader
        rw [found]
        dsimp only
        rw [if_pos shorter, ← length]
        exact Writes.bind (writes_int clear) (Writes.bind written wrote)
      · obtain ⟨length, written, decoded⟩ := facts
        have clear : Clear 0x20 3 := ⟨4, rfl, by decide⟩
        refine trips_literal clear small decoded reads ?_ (by decide)
        unfold encodeHeader
        rw [found]
        dsimp only
        rw [if_neg shorter, ← length]
        exact Writes.bind (writes_int clear) (Writes.bind written wrote)

/-! ## Field sections -/

private theorem decodeHeaders_image {headers : List Header} {left : Nat}
    (fits : (headers.map headerSize).sum ≤ left) (small : left < 2 ^ 64) :
    ∃ image, Writes (encodeHeaders headers) image () ∧ ∀ turns out, image.length ≤ turns →
      decodeHeaders turns left out image = .ok (out ++ headers.map lowercase, []) := by
  induction headers generalizing left with
  | nil =>
      refine ⟨[], Writes.pure (), fun turns out _ => ?_⟩
      rw [List.map_nil, List.append_nil]
      cases turns <;> rfl
  | cons hdr headers ih =>
      rw [List.map_cons, List.sum_cons] at fits
      obtain ⟨first, tail, written, read⟩ := @header_trips hdr (by omega)
      have size : headerSize (lowercase hdr) = headerSize hdr := by
        simp [headerSize, lowercase]
      obtain ⟨image, wrote, decoded⟩ := @ih (left - headerSize hdr) (by omega) (by omega)
      refine ⟨(first :: tail) ++ image, written.bind wrote, ?_⟩
      intro turns out enough
      rw [List.length_append, List.length_cons] at enough
      obtain ⟨turns, rfl⟩ : ∃ more, turns = more + 1 := ⟨turns - 1, by omega⟩
      have taken := read image
      have rest := decoded turns (out ++ [lowercase hdr]) (by omega)
      rw [List.cons_append, decodeHeaders, ← List.cons_append, taken]
      change (do
        if left < headerSize (lowercase hdr) then throw Http3Error.qpackDecompressionFailed
        decodeHeaders turns (left - headerSize (lowercase hdr)) (out ++ [lowercase hdr]) image) = _
      rw [List.append_assoc, List.singleton_append] at rest
      rw [size, if_neg (by omega)]
      exact rest

theorem qpack_round_trip (headers : List Header) (maxSize : UInt64)
    (fits : (headers.map headerSize).sum ≤ maxSize.toNat) :
    ∃ bytes, decode bytes maxSize = .ok (headers.map lowercase, bytes.length) ∧
      ∀ room, bytes.length ≤ room → encode headers room = .ok (bytes, bytes.length) := by
  obtain ⟨image, written, decoded⟩ := decodeHeaders_image fits maxSize.toNat_lt
  have counts : Clear 0 8 ∧ Clear 0 7 := ⟨⟨0, rfl, by decide⟩, ⟨0, rfl, by decide⟩⟩
  have whole : Writes (do
      let _ ← encodeInt 0 0 8
      let _ ← encodeInt 0 0 7
      encodeHeaders headers) (intImage 0 0 8 ++ (intImage 0 0 7 ++ image)) () :=
    Writes.bind (writes_int counts.1) (Writes.bind (writes_int counts.2) written)
  have count := reads_int counts.1 (by decide : 0 < 2 ^ 64) (intImage 0 0 7 ++ image)
  have base := reads_int counts.2 (by decide : 0 < 2 ^ 64) image
  refine ⟨intImage 0 0 8 ++ (intImage 0 0 7 ++ image), ?_, ?_⟩
  · unfold decode
    simp only [bind, Except.bind, count, base, decoded image.length [] (Nat.le_refl _)]
    rfl
  · intro room enough
    have ran := whole { written := [], room } enough
    unfold encode
    dsimp only
    rw [ran]
    simp only [List.nil_append]
    rw [Nat.sub_sub_self enough]

/-- A name in the static table, a literal name, and a value that is sent as it is. -/
theorem mixed_case_round_trip :
    ∃ bytes, decode bytes 120 = .ok ([⟨ascii ":method", ascii "GET"⟩, ⟨ascii "x-y", [0]⟩], bytes.length) ∧
      ∀ room, bytes.length ≤ room →
        encode [⟨ascii ":Method", ascii "GET"⟩, ⟨ascii "X-y", [0]⟩] room = .ok (bytes, bytes.length) := by
  have trip := qpack_round_trip [⟨ascii ":Method", ascii "GET"⟩, ⟨ascii "X-y", [0]⟩] 120 (by decide +kernel)
  have lower : [⟨ascii ":Method", ascii "GET"⟩, ⟨ascii "X-y", [0]⟩].map lowercase =
      [⟨ascii ":method", ascii "GET"⟩, ⟨ascii "x-y", [0]⟩] := by decide +kernel
  rwa [lower] at trip

end Tquic.H3.Qpack
