import Tquic.H3.Qpack.HuffmanEncoding

/-! The states of the Huffman decoder are described by the bits that were read since the last
byte, and the tables are compared with that description entry by entry. -/

set_option autoImplicit false
set_option maxRecDepth 4096

namespace Tquic.H3.Huffman

open Lib BitString

/-! ## The code -/

/-- The symbols of the code: the bytes, and the end of the string. -/
abbrev Symbol := Fin 257

def eos : Symbol := 256

def symbolOf (byte : UInt8) : Symbol := ⟨byte.toNat, byte.toNat_lt.trans (by decide)⟩

def codeword (symbol : Symbol) : List Bool :=
  let (nbits, code) := encodeTable.getD symbol.val (0, 0)
  bits nbits code

/-- The symbols in the order of their codes. -/
def canonicalOrder : List Nat :=
  [ 48, 49, 50, 97, 99, 101, 105, 111, 115, 116, 32, 37, 45, 46, 47, 51, 52, 53, 54, 55, 56, 57, 61,
    65, 95, 98, 100, 102, 103, 104, 108, 109, 110, 112, 114, 117, 58, 66, 67, 68, 69, 70, 71, 72,
    73, 74, 75, 76, 77, 78, 79, 80, 81, 82, 83, 84, 85, 86, 87, 89, 106, 107, 113, 118, 119, 120,
    121, 122, 38, 42, 44, 59, 88, 90, 33, 34, 40, 41, 63, 39, 43, 124, 35, 62, 0, 36, 64, 91, 93,
    126, 94, 125, 60, 96, 123, 92, 195, 208, 128, 130, 131, 162, 184, 194, 224, 226, 153, 161, 167,
    172, 176, 177, 179, 209, 216, 217, 227, 229, 230, 129, 132, 133, 134, 136, 146, 154, 156, 160,
    163, 164, 169, 170, 173, 178, 181, 185, 186, 187, 189, 190, 196, 198, 228, 232, 233, 1, 135,
    137, 138, 139, 140, 141, 143, 147, 149, 150, 151, 152, 155, 157, 158, 165, 166, 168, 174, 175,
    180, 182, 183, 188, 191, 197, 231, 239, 9, 142, 144, 145, 148, 159, 171, 206, 215, 225, 236,
    237, 199, 207, 234, 235, 192, 193, 200, 201, 202, 205, 210, 213, 218, 219, 238, 240, 242, 243,
    255, 203, 204, 211, 212, 214, 221, 222, 223, 241, 244, 245, 246, 247, 248, 250, 251, 252, 253,
    254, 2, 3, 4, 5, 6, 7, 8, 11, 12, 14, 15, 16, 17, 18, 19, 20, 21, 23, 24, 25, 26, 27, 28, 29,
    30, 31, 127, 220, 249, 10, 13, 22, 256 ]

/-- The code of the first entry, continued by any bits, comes before the code of the second. -/
def precedes (left right : Nat × Nat) : Bool :=
  Nat.ble ((left.2 + 1) * 2 ^ (30 - left.1)) (right.2 * 2 ^ (30 - right.1))

def ascends : Nat × Nat → List Nat → Bool
  | _, [] => true
  | entry, symbol :: order =>
      match encodeTable[symbol]? with
      | none => false
      | some next => precedes entry next && ascends next order

theorem canonicalOrder_ascends : ascends (5, 0) canonicalOrder.tail = true := by decide +kernel

/-! ## The states of the decoder -/

/-- For each state the number of bits that were read since the last byte, the bits, and a byte
whose code they begin. -/
def heldTable : List (Nat × Nat × Nat) :=
  [ (0, 0x0, 0), (1, 0x0, 32), (2, 0x0, 48), (3, 0x0, 48), (4, 0x0, 48), (4, 0x1, 50), (3, 0x1, 99),
    (4, 0x2, 99), (4, 0x3, 105), (2, 0x1, 32), (3, 0x2, 32), (4, 0x4, 115), (4, 0x5, 32),
    (5, 0xa, 32), (5, 0xb, 45), (3, 0x3, 47), (4, 0x6, 47), (5, 0xc, 47), (5, 0xd, 52),
    (4, 0x7, 54), (5, 0xe, 54), (5, 0xf, 56), (1, 0x1, 0), (2, 0x2, 58), (3, 0x4, 61), (4, 0x8, 61),
    (5, 0x10, 61), (5, 0x11, 95), (4, 0x9, 100), (5, 0x12, 100), (5, 0x13, 103), (3, 0x5, 58),
    (4, 0xa, 108), (5, 0x14, 108), (5, 0x15, 110), (4, 0xb, 58), (5, 0x16, 114), (5, 0x17, 58),
    (6, 0x2e, 58), (6, 0x2f, 67), (2, 0x3, 0), (3, 0x6, 69), (4, 0xc, 69), (5, 0x18, 69),
    (6, 0x30, 69), (6, 0x31, 71), (5, 0x19, 73), (6, 0x32, 73), (6, 0x33, 75), (4, 0xd, 77),
    (5, 0x1a, 77), (6, 0x34, 77), (6, 0x35, 79), (5, 0x1b, 81), (6, 0x36, 81), (6, 0x37, 83),
    (3, 0x7, 0), (4, 0xe, 85), (5, 0x1c, 85), (6, 0x38, 85), (6, 0x39, 87), (5, 0x1d, 106),
    (6, 0x3a, 106), (6, 0x3b, 113), (4, 0xf, 0), (5, 0x1e, 119), (6, 0x3c, 119), (6, 0x3d, 121),
    (5, 0x1f, 0), (6, 0x3e, 38), (7, 0x7c, 38), (7, 0x7d, 44), (6, 0x3f, 0), (7, 0x7e, 88),
    (7, 0x7f, 0), (8, 0xfe, 33), (9, 0x1fc, 33), (9, 0x1fd, 40), (8, 0xff, 0), (9, 0x1fe, 39),
    (10, 0x3fd, 39), (9, 0x1ff, 0), (10, 0x3fe, 35), (11, 0x7fd, 35), (10, 0x3ff, 0),
    (11, 0x7fe, 0), (12, 0xffc, 0), (12, 0xffd, 64), (11, 0x7ff, 1), (12, 0xffe, 93),
    (12, 0xfff, 1), (13, 0x1ffe, 94), (13, 0x1fff, 1), (14, 0x3ffe, 60), (14, 0x3fff, 1),
    (15, 0x7fff, 1), (16, 0xfffe, 92), (17, 0x1fffc, 92), (18, 0x3fff8, 92), (18, 0x3fff9, 128),
    (19, 0x7fff3, 128), (17, 0x1fffd, 131), (18, 0x3fffa, 131), (19, 0x7fff4, 131),
    (19, 0x7fff5, 184), (18, 0x3fffb, 153), (19, 0x7fff6, 224), (19, 0x7fff7, 153),
    (20, 0xfffee, 153), (20, 0xfffef, 167), (16, 0xffff, 1), (17, 0x1fffe, 129), (18, 0x3fffc, 176),
    (19, 0x7fff8, 176), (20, 0xffff0, 176), (20, 0xffff1, 179), (19, 0x7fff9, 216),
    (20, 0xffff2, 216), (20, 0xffff3, 227), (18, 0x3fffd, 129), (19, 0x7fffa, 129),
    (20, 0xffff4, 129), (21, 0x1fffe9, 129), (20, 0xffff5, 133), (21, 0x1fffea, 133),
    (21, 0x1fffeb, 136), (19, 0x7fffb, 154), (20, 0xffff6, 154), (21, 0x1fffec, 154),
    (21, 0x1fffed, 160), (20, 0xffff7, 164), (21, 0x1fffee, 164), (21, 0x1fffef, 170),
    (17, 0x1ffff, 1), (18, 0x3fffe, 1), (19, 0x7fffc, 178), (20, 0xffff8, 178), (21, 0x1ffff0, 178),
    (21, 0x1ffff1, 185), (20, 0xffff9, 187), (21, 0x1ffff2, 187), (21, 0x1ffff3, 190),
    (19, 0x7fffd, 1), (20, 0xffffa, 198), (21, 0x1ffff4, 198), (21, 0x1ffff5, 232),
    (20, 0xffffb, 1), (21, 0x1ffff6, 1), (22, 0x3fffec, 1), (22, 0x3fffed, 137),
    (21, 0x1ffff7, 139), (22, 0x3fffee, 139), (22, 0x3fffef, 141), (18, 0x3ffff, 2),
    (19, 0x7fffe, 147), (20, 0xffffc, 147), (21, 0x1ffff8, 147), (22, 0x3ffff0, 147),
    (22, 0x3ffff1, 150), (21, 0x1ffff9, 152), (22, 0x3ffff2, 152), (22, 0x3ffff3, 157),
    (20, 0xffffd, 165), (21, 0x1ffffa, 165), (22, 0x3ffff4, 165), (22, 0x3ffff5, 168),
    (21, 0x1ffffb, 175), (22, 0x3ffff6, 175), (22, 0x3ffff7, 182), (19, 0x7ffff, 2),
    (20, 0xffffe, 9), (21, 0x1ffffc, 188), (22, 0x3ffff8, 188), (22, 0x3ffff9, 197),
    (21, 0x1ffffd, 9), (22, 0x3ffffa, 9), (23, 0x7ffff5, 9), (22, 0x3ffffb, 144),
    (23, 0x7ffff6, 144), (23, 0x7ffff7, 148), (20, 0xfffff, 2), (21, 0x1ffffe, 171),
    (22, 0x3ffffc, 171), (23, 0x7ffff8, 171), (23, 0x7ffff9, 215), (22, 0x3ffffd, 199),
    (23, 0x7ffffa, 236), (23, 0x7ffffb, 199), (24, 0xfffff6, 199), (24, 0xfffff7, 234),
    (21, 0x1fffff, 2), (22, 0x3ffffe, 192), (23, 0x7ffffc, 192), (24, 0xfffff8, 192),
    (25, 0x1fffff0, 192), (25, 0x1fffff1, 200), (24, 0xfffff9, 202), (25, 0x1fffff2, 202),
    (25, 0x1fffff3, 210), (23, 0x7ffffd, 203), (24, 0xfffffa, 218), (25, 0x1fffff4, 218),
    (25, 0x1fffff5, 238), (24, 0xfffffb, 203), (25, 0x1fffff6, 242), (25, 0x1fffff7, 203),
    (26, 0x3ffffef, 203), (22, 0x3fffff, 2), (23, 0x7ffffe, 211), (24, 0xfffffc, 211),
    (25, 0x1fffff8, 211), (26, 0x3fffff0, 211), (26, 0x3fffff1, 214), (25, 0x1fffff9, 222),
    (26, 0x3fffff2, 222), (26, 0x3fffff3, 241), (24, 0xfffffd, 245), (25, 0x1fffffa, 245),
    (26, 0x3fffff4, 245), (26, 0x3fffff5, 247), (25, 0x1fffffb, 250), (26, 0x3fffff6, 250),
    (26, 0x3fffff7, 252), (23, 0x7fffff, 2), (24, 0xfffffe, 2), (25, 0x1fffffc, 2),
    (26, 0x3fffff8, 2), (27, 0x7fffff1, 2), (26, 0x3fffff9, 4), (27, 0x7fffff2, 4),
    (27, 0x7fffff3, 6), (25, 0x1fffffd, 8), (26, 0x3fffffa, 8), (27, 0x7fffff4, 8),
    (27, 0x7fffff5, 12), (26, 0x3fffffb, 15), (27, 0x7fffff6, 15), (27, 0x7fffff7, 17),
    (24, 0xffffff, 10), (25, 0x1fffffe, 19), (26, 0x3fffffc, 19), (27, 0x7fffff8, 19),
    (27, 0x7fffff9, 21), (26, 0x3fffffd, 24), (27, 0x7fffffa, 24), (27, 0x7fffffb, 26),
    (25, 0x1ffffff, 10), (26, 0x3fffffe, 28), (27, 0x7fffffc, 28), (27, 0x7fffffd, 30),
    (26, 0x3ffffff, 10), (27, 0x7fffffe, 127), (27, 0x7ffffff, 10), (28, 0xfffffff, 10),
    (29, 0x1ffffffe, 10), (29, 0x1fffffff, 22) ]

def entryFits (width value input : Nat) (entry : Nat × Nat × Nat) : Bool :=
  let (next, byte, flags) := entry
  if HuffmanDecoder.contains flags flagError then
    Nat.ble 30 (width + 4) && (value * 16 + input) >>> (width + 4 - 30) == 2 ^ 30 - 1
  else
    match heldTable[next]? with
    | none => false
    | some (nextWidth, nextValue, _) =>
        (Nat.ble 8 nextWidth || !Nat.beq (nextValue + 1) (2 ^ nextWidth) || Nat.beq next 0 ||
            HuffmanDecoder.contains flags flagMaybeEos) &&
          if HuffmanDecoder.contains flags flagDecoded then
            match encodeTable[byte]? with
            | none => false
            | some (nbits, code) =>
                Nat.blt byte 256 && Nat.beq (width + 4) (nbits + nextWidth) &&
                  Nat.beq (value * 16 + input) (code * 2 ^ nextWidth + nextValue)
          else Nat.beq (width + 4) nextWidth && Nat.beq (value * 16 + input) nextValue

def rowFits (width value : Nat) : Nat → List (Nat × Nat × Nat) → Bool
  | _, [] => true
  | input, entry :: row => entryFits width value input entry && rowFits width value (input + 1) row

theorem decodeTable_fits :
    (decodeTable.zip heldTable).all (fun pair => rowFits pair.2.1 pair.2.2.1 0 pair.1) = true := by
  decide +kernel

theorem decodeTable_shape :
    decodeTable.length = 256 ∧ heldTable.length = 256 ∧ ∀ row ∈ decodeTable, row.length = 16 := by
  decide +kernel

theorem heldTable_begins : ∀ held ∈ heldTable, held.2.1 < 2 ^ held.1 ∧
    held.2.2 < 257 ∧ held.1 < (encodeTable.getD held.2.2 (0, 0)).1 ∧
      (encodeTable.getD held.2.2 (0, 0)).2 / 2 ^ ((encodeTable.getD held.2.2 (0, 0)).1 - held.1) = held.2.1 := by
  decide +kernel

end Tquic.H3.Huffman
