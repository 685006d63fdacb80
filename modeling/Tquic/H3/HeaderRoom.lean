import Tquic.H3.Sending
import Tquic.H3.Qpack.QpackRoundTrip

/-! The buffer of a field section is as long as its headers are large, which is enough as soon as
there is a header. -/

set_option autoImplicit false

namespace Tquic.H3

open Lib

namespace Qpack

/-- Seven bits a byte. -/
theorem length_octets_le {turns i count : Nat} (small : i < 128 ^ (count + 1)) :
    (octets turns i).length ≤ count + 1 := by
  induction turns generalizing i count with
  | zero => exact Nat.le_add_left 1 count
  | succ turns ih =>
      unfold octets
      split_ifs with long
      · cases count with
        | zero =>
            rw [Nat.zero_add, Nat.pow_one] at small
            omega
        | succ count =>
            have rest : i >>> 7 < 128 ^ (count + 1) := by
              rw [Nat.shiftRight_eq_div_pow]
              exact Nat.div_lt_of_lt_mul (by rw [Nat.mul_comm]; exact small)
            exact Nat.succ_le_succ (ih rest)
      · exact Nat.le_add_left 1 count

theorem int_within {i first n : Nat} (clear : Clear first n) (small : i < 2 ^ 64) :
    WritesWithin (encodeInt i first n) 11 := by
  refine (writes_int clear).within.mono ?_
  unfold intImage
  split_ifs
  · exact Nat.le_add_left 1 10
  · exact Nat.succ_le_succ (@length_octets_le _ _ 9 (by omega))

theorem sized_within {first n : Nat} {writer : Http3Encoder Unit} {payload : Bytes}
    (clear : Clear first n) (small : payload.length < 2 ^ 64) (writes : Writes writer payload ()) :
    WritesWithin (do let _ ← encodeInt payload.length first n; writer) (11 + payload.length) :=
  (int_within clear small).bind fun _ => writes.within

theorem sized_bind_within {first n bound : Nat} {writer next : Http3Encoder Unit} {payload : Bytes}
    (clear : Clear first n) (small : payload.length < 2 ^ 64) (writes : Writes writer payload ())
    (behind : WritesWithin next bound) :
    WritesWithin (do let _ ← encodeInt payload.length first n; writer; next)
      (11 + (payload.length + bound)) :=
  (int_within clear small).bind fun _ => writes.within.bind fun _ => behind

private theorem str_within {v : Bytes} (small : v.length < 2 ^ 64) :
    WritesWithin (encodeStr v 7) (11 + v.length) := by
  unfold encodeStr
  dsimp only
  split_ifs with shorter
  · obtain ⟨payload, writes, length, _⟩ := Huffman.encode_decodes v false
    rw [← length] at shorter ⊢
    exact (sized_within ⟨1, rfl, by decide⟩ (by omega) writes).mono (by omega)
  · exact sized_within ⟨0, rfl, by decide⟩ small (writes_bytes v)

private theorem header_within {hdr : Qpack.Header} (small : headerSize hdr < 2 ^ 64) :
    WritesWithin (encodeHeader hdr) (headerSize hdr - 10) := by
  obtain ⟨smallName, smallValue⟩ := length_lt_of_size small
  have value := str_within smallValue
  have room : headerSize hdr - 10 = 11 + (hdr.name.length + (11 + hdr.value.length)) := by
    unfold headerSize
    omega
  rw [room]
  unfold encodeHeader
  cases found : encodeStatic hdr.name hdr.value with
  | some result =>
      obtain ⟨idx, whole⟩ := result
      have few := (encodeStatic_some found).1
      cases whole with
      | true =>
          have index := @int_within idx (indexed ||| 0x40) 6 ⟨3, rfl, by decide⟩ (by omega)
          exact (index.bind fun _ => (Writes.pure ()).within).mono (by rw [List.length_nil]; omega)
      | false =>
          have index := @int_within idx (literalWithNameRef ||| 0x10) 4 ⟨5, rfl, by decide⟩ (by omega)
          exact (index.bind fun _ => value).mono (by omega)
  | none =>
      dsimp only
      split_ifs with shorter
      · obtain ⟨payload, writes, length, _⟩ := Huffman.encode_decodes hdr.name true
        rw [← length] at shorter ⊢
        exact (sized_bind_within ⟨5, rfl, by decide⟩ (by omega) writes value).mono (by omega)
      · have length : (hdr.name.map Huffman.toAsciiLowercase).length = hdr.name.length :=
          List.length_map _
        rw [← length] at smallName ⊢
        exact sized_bind_within ⟨4, rfl, by decide⟩ smallName (writes_bytes _) value

theorem sum_headerSize_ge (headers : List Qpack.Header) :
    32 * headers.length ≤ (headers.map headerSize).sum := by
  induction headers with
  | nil => exact Nat.le_refl 0
  | cons hdr headers ih =>
      have large : 32 ≤ headerSize hdr := Nat.le_add_left 32 _
      rw [List.map_cons, List.sum_cons, List.length_cons]
      omega

theorem headers_within {headers : List Qpack.Header} (small : (headers.map headerSize).sum < 2 ^ 64) :
    WritesWithin (encodeHeaders headers) ((headers.map headerSize).sum - 10 * headers.length) := by
  induction headers with
  | nil => exact (Writes.pure ()).within
  | cons hdr headers ih =>
      rw [List.map_cons, List.sum_cons] at small ⊢
      have one := @header_within hdr (by omega)
      have more := ih (by omega)
      have large : 32 ≤ headerSize hdr := Nat.le_add_left 32 _
      have rest := sum_headerSize_ge headers
      refine (one.bind fun _ => more).mono ?_
      rw [List.length_cons]
      omega

private theorem encode_fits {headers : List Qpack.Header} (some : headers ≠ [])
    (small : (headers.map headerSize).sum < 2 ^ 64) :
    ∃ output, encode headers (headers.map headerSize).sum = .ok output := by
  have counts : Clear 0 8 ∧ Clear 0 7 := ⟨⟨0, rfl, by decide⟩, ⟨0, rfl, by decide⟩⟩
  have one : WritesWithin (encodeInt 0 0 8) 1 := (writes_int counts.1).within
  have two : WritesWithin (encodeInt 0 0 7) 1 := (writes_int counts.2).within
  have filled := List.length_pos_iff.mpr some
  have room : 1 + (1 + ((headers.map headerSize).sum - 10 * headers.length)) ≤
      (headers.map headerSize).sum := by
    have large := sum_headerSize_ge headers
    omega
  obtain ⟨output, _, writes, few⟩ :=
    (one.bind fun _ => two.bind fun _ => headers_within small).mono room
  have ran := writes { written := [], room := (headers.map headerSize).sum } few
  unfold encode
  dsimp only
  rw [ran]
  exact ⟨_, rfl⟩

end Qpack

namespace Http3Connection

open Qpack

theorem run_encodeHeaderFields {http3 : Http3Connection} {conn : QuicConn} {headers : List Qpack.Header}
    (within : (headers.map headerSize).sum ≤
      http3.peerSettings.maxFieldSectionSize.getD (2 ^ 64 - 1)) :
    (∃ block, ((encodeHeaderFields headers).run (http3, conn)).1 = .ok block) ↔
      ∃ output, encode headers (headers.map headerSize).sum = .ok output := by
  have got : (get : ConnM (Http3Connection × QuicConn)) (http3, conn) =
      (.ok (http3, conn), (http3, conn)) := rfl
  simp only [encodeHeaderFields, Stateful.run, bind, got, Stateful.continueWith]
  rw [if_neg (Nat.not_lt.mpr within)]
  cases encoded : encode headers (headers.map headerSize).sum with
  | ok output => exact iff_of_true ⟨output.1, rfl⟩ ⟨output, rfl⟩
  | error error =>
      refine iff_of_false ?_ (fun ⟨_, failed⟩ => nomatch failed)
      rintro ⟨block, ran⟩
      cases error <;> cases ran

/-- The headers are encoded, if their size is within the limit, exactly when there are some. The
limit is an integer of 64 bits. -/
theorem encode_header_fields_iff {http3 : Http3Connection} {conn : QuicConn} {headers : List Qpack.Header}
    (narrow : ∀ limit, http3.peerSettings.maxFieldSectionSize = some limit → limit < 2 ^ 64)
    (within : (headers.map headerSize).sum ≤
      http3.peerSettings.maxFieldSectionSize.getD (2 ^ 64 - 1)) :
    (∃ block, ((encodeHeaderFields headers).run (http3, conn)).1 = .ok block) ↔ headers ≠ [] := by
  have small : (headers.map headerSize).sum < 2 ^ 64 := by
    cases known : http3.peerSettings.maxFieldSectionSize with
    | none =>
        rw [known, Option.getD_none] at within
        omega
    | some limit =>
        rw [known, Option.getD_some] at within
        exact Nat.lt_of_le_of_lt within (narrow limit known)
  rw [run_encodeHeaderFields within]
  constructor
  · rintro ⟨output, encoded⟩ rfl
    cases encoded
  · exact fun some => encode_fits some small

/-- A connection whose peer has set no limit. -/
def unlimited : Http3Connection × QuicConn :=
  (Http3Connection.new false none none none,
    { streams := .new false 0 0 {} none, localError := none, isClosed := false, isDraining := false,
      accepted := [] })

/-- The two bytes in front of no headers have no room. -/
theorem no_headers_refused :
    (([] : List Qpack.Header).map headerSize).sum ≤
        unlimited.1.peerSettings.maxFieldSectionSize.getD (2 ^ 64 - 1) ∧
      ((encodeHeaderFields []).run unlimited).1 = .error .internalError :=
  ⟨Nat.zero_le _, rfl⟩

/-- The two headers are as long as the peer allows. -/
theorem two_headers_encoded :
    ∃ block, ((encodeHeaderFields [(⟨[97], [98]⟩ : Qpack.Header), ⟨[99], []⟩]).run
      ({ unlimited.1 with peerSettings := { unlimited.1.peerSettings with
          maxFieldSectionSize := some 67 } }, unlimited.2)).1 = .ok block := by
  refine (encode_header_fields_iff (fun limit known => ?_) (by decide)).mpr (List.cons_ne_nil _ _)
  cases known
  decide

end Http3Connection

end Tquic.H3
