import Tquic.H3.Qpack.PrefixInt
import Tquic.H3.Qpack.StaticTable

/-! Field sections, after `h3/qpack/qpack.rs`. The dynamic table is not used. -/

set_option autoImplicit false

namespace Tquic.H3.Qpack

open Lib Http3Encoder Http3Decoder Huffman

structure Header where
  name : Bytes
  value : Bytes
  deriving DecidableEq

def indexed : Nat := 0x80
def indexedWithPostBase : Nat := 0x10
def literalWithNameRef : Nat := 0x40
def literal : Nat := 0x20

inductive Representation where
  | indexed
  | indexedWithPostBase
  | literalWithNameRef
  | literalWithPostBase
  | literal
  deriving DecidableEq

/-- `Representation::from`. -/
def Representation.ofByte (b : Nat) : Representation :=
  if b &&& Qpack.indexed = Qpack.indexed then .indexed
  else if b &&& Qpack.literalWithNameRef = Qpack.literalWithNameRef then .literalWithNameRef
  else if b &&& Qpack.literal = Qpack.literal then .literal
  else if b &&& Qpack.indexedWithPostBase = Qpack.indexedWithPostBase then .indexedWithPostBase
  else .literalWithPostBase

/-! ## Encoding -/

def encodeStr (v : Bytes) (pre : Nat) : Http3Encoder Unit := do
  let len := encodeOutputLength v false
  if len < v.length then
    let _ ← encodeInt len 0x80 pre
    Huffman.encode v false
  else
    let _ ← encodeInt v.length 0 pre
    write v

/-- One turn of the loop of `encode`. -/
def encodeHeader (hdr : Header) : Http3Encoder Unit :=
  match encodeStatic hdr.name hdr.value with
  | some (idx, true) => do
      let _ ← encodeInt idx (indexed ||| 0x40) 6
      return ()
  | some (idx, false) => do
      let _ ← encodeInt idx (literalWithNameRef ||| 0x10) 4
      encodeStr hdr.value 7
  | none => do
      let len := encodeOutputLength hdr.name true
      if len < hdr.name.length then
        let _ ← encodeInt len (literal ||| 0x08) 3
        Huffman.encode hdr.name true
      else
        let _ ← encodeInt hdr.name.length literal 3
        write (hdr.name.map toAsciiLowercase)
      encodeStr hdr.value 7

def encodeHeaders : List Header → Http3Encoder Unit
  | [] => return ()
  | hdr :: headers => do
      encodeHeader hdr
      encodeHeaders headers

/-- The field section of the headers in a buffer of `room` bytes, with its length. -/
def encode (headers : List Header) (room : Nat) : Except Http3Error (Bytes × Nat) :=
  let fieldSection : Http3Encoder Unit := do
    let _ ← encodeInt 0 0 8
    let _ ← encodeInt 0 0 7
    encodeHeaders headers
  match fieldSection.run { written := [], room } with
  | .error error => .error error
  | .ok (_, sink) => .ok (sink.written, room - sink.room)

/-! ## Decoding -/

def decodeLiteral (huff : Bool) (str : Bytes) : Except Http3Error Bytes :=
  if huff then Huffman.decode str else .ok str

def decodeStr : Http3Decoder Bytes := do
  let buf ← get
  match buf.head? with
  | none => throw .qpackDecompressionFailed
  | some first =>
      let huff := first.toNat &&& 0x80 == 0x80
      let strLen ← decodeInt 7
      let strVal ← read strLen
      decodeLiteral huff strVal

/-- One turn of the loop of `decode`, up to the header that it finds. -/
def decodeHeader (first : Nat) : Http3Decoder Header :=
  match Representation.ofByte first with
  | .indexed => do
      let static := first &&& 0x40 == 0x40
      let index ← decodeInt 6
      if !static then throw .qpackDecompressionFailed
      let entry ← decodeStatic index
      return { name := entry.1, value := entry.2 }
  | .indexedWithPostBase => do
      let _ ← decodeInt 4
      throw .qpackDecompressionFailed
  | .literalWithNameRef => do
      let static := first &&& 0x10 == 0x10
      let nameIdx ← decodeInt 4
      let value ← decodeStr
      if !static then throw .qpackDecompressionFailed
      let entry ← decodeStatic nameIdx
      return { name := entry.1, value }
  | .literalWithPostBase => throw .qpackDecompressionFailed
  | .literal => do
      let huff := first &&& 0x08 == 0x08
      let nameLen ← decodeInt 3
      let name ← read nameLen
      let name ← decodeLiteral huff name
      let value ← decodeStr
      return { name, value }

def headerSize (hdr : Header) : Nat := hdr.name.length + hdr.value.length + 32

/-- The loop of `decode`. Every turn takes at least one byte, so that as many turns as there are
bytes are enough. -/
def decodeHeaders : Nat → Nat → List Header → Bytes → Except Http3Error (List Header × Bytes)
  | _, _, out, [] => .ok (out, [])
  | 0, _, _, _ :: _ => .error .panic
  | turns + 1, left, out, first :: buf => do
      let (hdr, buf) ← (decodeHeader first.toNat).run (first :: buf)
      if left < headerSize hdr then throw .qpackDecompressionFailed
      decodeHeaders turns (left - headerSize hdr) (out ++ [hdr]) buf

/-- The headers of a field section, with the number of bytes that were read. -/
def decode (buf : Bytes) (maxSize : UInt64) : Except Http3Error (List Header × Nat) := do
  let (_, rest) ← (decodeInt 8).run buf
  let (_, rest) ← (decodeInt 7).run rest
  let (out, rest) ← decodeHeaders rest.length maxSize.toNat [] rest
  return (out, buf.length - rest.length)

end Tquic.H3.Qpack
