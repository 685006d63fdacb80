import Mathlib.Data.Nat.Size
import Tquic.Frame

/-! Header protection and packet numbers, after `packet.rs`, and the window of the packet
numbers that were received, after `window.rs`. -/

set_option autoImplicit false

namespace Tquic

open Lib

inductive Level where
  | initial
  | zeroRtt
  | handshake
  | oneRtt
  deriving DecidableEq, Repr

def PacketType.toLevel : PacketType → Except Error Level
  | .initial => .ok .initial
  | .zeroRtt => .ok .zeroRtt
  | .handshake => .ok .handshake
  | .oneRtt => .ok .oneRtt
  | _ => .error .internalError

def headerLongFormBit : UInt8 := 0x80

def headerKeyPhaseBit : UInt8 := 0x04

def pktNumLenMask : UInt8 := 0x03

def maxPktNumLen : Nat := 4

def sampleLen : Nat := 16

/-- A packet header, with the fields that header protection hides. The packet number is the
one on the wire. -/
structure PacketHeader where
  pktType : PacketType
  pktNumLen : Nat
  pktNum : Nat
  keyPhase : Bool
  deriving DecidableEq, Repr

def longHeader (first : UInt8) : Bool := first &&& headerLongFormBit ≠ 0

def applyMask (mask : Vector UInt8 5) (pktBuf : Bytes) (pktNumOffset : Nat)
    (pktType : PacketType) : PacketHeader × Bytes :=
  let masked := pktBuf.headD 0
  let first := masked ^^^ (mask[0] &&& (if longHeader masked then 0x0f else 0x1f))
  let pktNumLen := (first &&& pktNumLenMask).toNat + 1
  let pktNumBuf :=
    List.zipWith (· ^^^ ·) ((pktBuf.drop pktNumOffset).take pktNumLen) mask.toList.tail
  let unmasked := pktBuf.take pktNumOffset ++ pktNumBuf ++ pktBuf.drop (pktNumOffset + pktNumLen)
  let hdr : PacketHeader :=
    { pktType
      pktNumLen
      pktNum := BigEndian.decode pktNumBuf
      keyPhase := decide (pktType = .oneRtt) && decide (first &&& headerKeyPhaseBit ≠ 0) }
  (hdr, unmasked.set 0 first)

def decryptHeader (newMask : Bytes → Except Error (Vector UInt8 5)) (pktBuf : Bytes)
    (pktNumOffset : Nat) (pktType : PacketType) (plaintextMode : Bool) :
    Except Error (PacketHeader × Bytes) :=
  let sampleStart := pktNumOffset + maxPktNumLen
  let pktBufMin := if plaintextMode then sampleStart else sampleStart + sampleLen
  if pktBuf.length < pktBufMin then .error .bufferTooShort
  else if plaintextMode then .ok (applyMask (Vector.replicate 5 0) pktBuf pktNumOffset pktType)
  else
    match newMask ((pktBuf.drop sampleStart).take sampleLen) with
    | .error error => .error error
    | .ok mask => .ok (applyMask mask pktBuf pktNumOffset pktType)

/-- Protect a header whose last field is the packet number. The payload is encrypted already; the
source panics where it is too short for a sample. -/
def encryptHeader (newMask : Bytes → Except Error (Vector UInt8 5)) (hdrBuf : Bytes)
    (pktNumLen : Nat) (payload : Bytes) : Except Error Bytes :=
  let sampleStart := maxPktNumLen - pktNumLen
  if maxPktNumLen < pktNumLen ∨ payload.length < sampleStart + sampleLen ∨
      hdrBuf.length < 1 + pktNumLen then .error .panic
  else
    match newMask ((payload.drop sampleStart).take sampleLen) with
    | .error error => .error error
    | .ok mask =>
        let first := hdrBuf.headD 0
        let pktNumOffset := hdrBuf.length - pktNumLen
        let pktNumBuf := List.zipWith (· ^^^ ·) (hdrBuf.drop pktNumOffset) mask.toList.tail
        .ok ((hdrBuf.take pktNumOffset ++ pktNumBuf).set 0
          (first ^^^ (mask[0] &&& (if longHeader first then 0x0f else 0x1f))))

/-- The packet number next to the largest one that was received whose last bytes are on the
wire. -/
def decodePacketNum (largestPn truncatedPn pktNumLen : Nat) : Nat :=
  let expectedPn := largestPn + 1
  let pnWin := 2 ^ (pktNumLen * 8)
  let pnHwin := pnWin / 2
  let candidatePn := expectedPn / pnWin * pnWin ||| truncatedPn
  if candidatePn + pnHwin ≤ expectedPn ∧ candidatePn < 2 ^ 62 - pnWin then candidatePn + pnWin
  else if candidatePn > expectedPn + pnHwin ∧ candidatePn ≥ pnWin then candidatePn - pnWin
  else candidatePn

/-- The last bytes of a packet number. -/
def encodePacketNum (pktNum len : Nat) : Encoder Nat := do
  match len with
  | 1 => Encoder.writeU8 pktNum
  | 2 => Encoder.writeU16 pktNum
  | 3 => Encoder.writeUint 3 pktNum
  | 4 => Encoder.writeU32 pktNum
  | _ => throw .invalidPacket
  return len

/-- Twice as many numbers as there are unacknowledged ones can be told apart. -/
def packetNumLen (pktNum : Nat) (largestAcked : Option Nat) : Nat :=
  let numUnacked :=
    match largestAcked with
    | some largestAcked => pktNum - largestAcked
    | none => min (pktNum + 1) (2 ^ 64 - 1)
  let minBits := Nat.size numUnacked + 1
  (minBits + 7) / 8

/-! ## The window of received packet numbers -/

def seqNumWindowSize : Nat := 128

/-- The numbers from `lower` on, with one bit for each, the largest number in the last bit. -/
structure SeqNumWindow where
  lower : Nat
  window : BitVec 128
  deriving DecidableEq, Repr

namespace SeqNumWindow

def empty : SeqNumWindow := ⟨0, 0⟩

/-- The largest sequence number. The addition saturates. -/
def upper (win : SeqNumWindow) : Nat := min (win.lower + seqNumWindowSize) (2 ^ 64 - 1) - 1

/-- Make room for a number to the right of the window. The shift takes 32 bits of the
distance. -/
def slide (win : SeqNumWindow) (seq : Nat) : SeqNumWindow :=
  if seq > win.upper then
    let diff := seq - win.upper
    { lower := win.lower + diff
      window := if diff % 2 ^ 32 < 128 then win.window <<< (diff % 2 ^ 32) else 0 }
  else win

def insert (win : SeqNumWindow) (seq : Nat) : SeqNumWindow :=
  if seq < win.lower then win
  else
    let slid := win.slide seq
    { slid with window := slid.window ||| 1#128 <<< (slid.upper - seq) }

/-- Numbers to the left of the window count as received. -/
def contains (win : SeqNumWindow) (seq : Nat) : Bool :=
  if seq > win.upper then false
  else if seq < win.lower then true
  else win.window &&& 1#128 <<< (win.upper - seq) ≠ 0

end SeqNumWindow

/-! ## What the wire leaves out -/

/-- A packet number is never smaller than what is on the wire. -/
theorem truncated_le_decodePacketNum {largestPn truncatedPn pktNumLen : Nat}
    (short : truncatedPn < 2 ^ (pktNumLen * 8)) :
    truncatedPn ≤ decodePacketNum largestPn truncatedPn pktNumLen := by
  have candidate : (largestPn + 1) / 2 ^ (pktNumLen * 8) * 2 ^ (pktNumLen * 8) ||| truncatedPn =
      (largestPn + 1) / 2 ^ (pktNumLen * 8) * 2 ^ (pktNumLen * 8) + truncatedPn := by
    rw [Nat.mul_comm]
    exact (Nat.two_pow_add_eq_or_of_lt short _).symm
  unfold decodePacketNum
  simp only [candidate]
  generalize 2 ^ (pktNumLen * 8) = win at short
  generalize (largestPn + 1) / win = blocks
  split_ifs with below above
  · omega
  · obtain ⟨_, large⟩ := above
    cases blocks with
    | zero => omega
    | succ blocks =>
        rw [Nat.succ_mul]
        omega
  · omega

theorem applyMask_short (mask : Vector UInt8 5) (pktBuf : Bytes) (pktNumOffset : Nat)
    (pktType : PacketType) :
    (applyMask mask pktBuf pktNumOffset pktType).1.pktNum <
      2 ^ ((applyMask mask pktBuf pktNumOffset pktType).1.pktNumLen * 8) := by
  unfold applyMask
  dsimp only
  generalize pktBuf.headD 0 ^^^ (mask[0] &&& (if longHeader (pktBuf.headD 0) then 0x0f else 0x1f)) =
    first
  generalize (first &&& pktNumLenMask).toNat + 1 = pktNumLen
  calc
    _ < 256 ^ (List.zipWith (· ^^^ ·) ((pktBuf.drop pktNumOffset).take pktNumLen)
          mask.toList.tail).length := BigEndian.decode_lt _
    _ ≤ 256 ^ pktNumLen := by
        refine Nat.pow_le_pow_right (by decide) ?_
        rw [List.length_zipWith, List.length_take]
        omega
    _ = 2 ^ (pktNumLen * 8) := by rw [Nat.mul_comm, pow_mul]; norm_num

theorem decryptHeader_eq {newMask : Bytes → Except Error (Vector UInt8 5)} {pktBuf : Bytes}
    {pktNumOffset : Nat} {pktType : PacketType} {plaintextMode : Bool}
    {decrypted : PacketHeader × Bytes}
    (removed : decryptHeader newMask pktBuf pktNumOffset pktType plaintextMode = .ok decrypted) :
    ∃ mask, decrypted = applyMask mask pktBuf pktNumOffset pktType := by
  unfold decryptHeader at removed
  dsimp only at removed
  generalize (if plaintextMode then pktNumOffset + maxPktNumLen
    else pktNumOffset + maxPktNumLen + sampleLen) = pktBufMin at removed
  by_cases short : pktBuf.length < pktBufMin
  · rw [if_pos short] at removed
    cases removed
  · rw [if_neg short] at removed
    cases plaintextMode with
    | true =>
        cases removed
        exact ⟨_, rfl⟩
    | false =>
        simp only [Bool.false_eq_true, if_false] at removed
        split at removed
        · cases removed
        · cases removed
          exact ⟨_, rfl⟩

end Tquic
