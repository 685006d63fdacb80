import Tquic.H3.Basic
import Tquic.H3.Qpack.HuffmanTables

/-! The Huffman code of strings, after `h3/qpack/huffman.rs`. -/

set_option autoImplicit false

namespace Tquic.H3.Huffman

open Http3Encoder

def flagMaybeEos : Nat := 1
def flagDecoded : Nat := 2
def flagError : Nat := 4

/-- `u8::to_ascii_lowercase`. -/
def toAsciiLowercase (byte : UInt8) : UInt8 := if 65 ≤ byte ∧ byte ≤ 90 then byte + 32 else byte

def codeOf (byte : UInt8) : Nat × Nat := encodeTable.getD byte.toNat (0, 0)

/-- A window of 64 bits; what is used are its first `bitsUsed` bits. -/
structure Window where
  bitsWin : Nat
  bitsUsed : Nat

/-- The loop that outputs the whole bytes of the window. Every turn outputs eight bits, so that as
many turns as bits are enough. -/
def outputBytes : Nat → Window → Http3Encoder Window
  | 0, window => return window
  | turns + 1, window => do
      if window.bitsUsed < 8 then return window
      else
        writeU8 (window.bitsWin >>> 56)
        outputBytes turns
          { bitsWin := (window.bitsWin <<< 8) % 2 ^ 64, bitsUsed := window.bitsUsed - 8 }

def appendCode (window : Window) (byte : UInt8) : Window :=
  let (nbits, code) := codeOf byte
  { bitsWin := window.bitsWin ||| (code <<< (64 - window.bitsUsed - nbits)) % 2 ^ 64,
    bitsUsed := window.bitsUsed + nbits }

/-- The loop of `encode` over the bytes of the string. -/
def encodeBytes (lower : Bool) : Bytes → Window → Http3Encoder Window
  | [], window => return window
  | byte :: src, window => do
      let window := appendCode window (if lower then toAsciiLowercase byte else byte)
      let window ← outputBytes window.bitsUsed window
      encodeBytes lower src window

/-- The bits that are left over are followed by ones. -/
def encode (src : Bytes) (lower : Bool) : Http3Encoder Unit := do
  let window ← encodeBytes lower src { bitsWin := 0, bitsUsed := 0 }
  if window.bitsUsed ≠ 0 then
    writeU8 ((window.bitsWin ||| (1 <<< (64 - window.bitsUsed) - 1)) >>> 56)

def encodeOutputLength (src : Bytes) (low : Bool) : Nat :=
  let bits := (src.map fun byte => (codeOf (if low then toAsciiLowercase byte else byte)).1).sum
  if bits &&& 7 ≠ 0 then bits / 8 + 1 else bits / 8

/-! ## Decoding -/

structure HuffmanDecoder where
  state : Nat
  maybeEos : Bool

namespace HuffmanDecoder

def new : HuffmanDecoder := { state := 0, maybeEos := false }

def contains (flags flag : Nat) : Bool := flags &&& flag == flag

def decode4 (decoder : HuffmanDecoder) (input : Nat) :
    Except Http3Error (Option UInt8 × HuffmanDecoder) :=
  match decodeTable[decoder.state]? >>= (·[input]?) with
  | none => .error .panic
  | some (next, byte, flags) =>
      if contains flags flagError then .error .qpackDecompressionFailed
      else
        let ret := if contains flags flagDecoded then some (UInt8.ofNat byte) else none
        .ok (ret, { state := next, maybeEos := contains flags flagMaybeEos })

def isFinal (decoder : HuffmanDecoder) : Bool := decoder.state == 0 || decoder.maybeEos

end HuffmanDecoder

/-- The loop of `decode`. -/
def decodeBytes (decoder : HuffmanDecoder) (out : Bytes) :
    Bytes → Except Http3Error (HuffmanDecoder × Bytes)
  | [] => .ok (decoder, out)
  | byte :: buf => do
      let (high, decoder) ← decoder.decode4 (byte.toNat >>> 4)
      let out := out ++ high.toList
      let (low, decoder) ← decoder.decode4 (byte.toNat &&& 0xf)
      let out := out ++ low.toList
      decodeBytes decoder out buf

def decode (buf : Bytes) : Except Http3Error Bytes := do
  let (decoder, out) ← decodeBytes HuffmanDecoder.new [] buf
  if !decoder.isFinal then throw .qpackDecompressionFailed
  return out

end Tquic.H3.Huffman
