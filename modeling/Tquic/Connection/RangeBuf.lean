import Tquic.Basic
import Mathlib.Data.List.Infix

/-! A run of stream bytes at a known offset, after `RangeBuf` of
`connection/stream.rs`. The arrival time is left out: no modelled function reads it. -/

set_option autoImplicit false

namespace Tquic.Connection

structure RangeBuf where
  data : Bytes
  off : Nat
  fin : Bool
  deriving DecidableEq, Repr

namespace RangeBuf

def len (buf : RangeBuf) : Nat := buf.data.length

def isEmpty (buf : RangeBuf) : Bool := buf.data.length = 0

def maxOff (buf : RangeBuf) : Nat := buf.off + buf.len

/-- Drop the first `count` bytes; `consume` of the source is the same function. -/
def advance (buf : RangeBuf) (count : Nat) : RangeBuf :=
  { buf with data := buf.data.drop count, off := buf.off + count }

/-- Split at an index: the bytes before it stay, the bytes from it on are returned. -/
def splitOff (buf : RangeBuf) (index : Nat) : RangeBuf × RangeBuf :=
  ({ buf with data := buf.data.take index, fin := false },
    { data := buf.data.drop index, off := buf.off + index, fin := buf.fin })

theorem slice_append {stream first rest : Bytes} {start : Nat}
    (former : first <+: stream.drop start) (latter : rest <+: stream.drop (start + first.length)) :
    first ++ rest <+: stream.drop start := by
  obtain ⟨suffix, whole⟩ := former
  have shifted : stream.drop (start + first.length) = suffix := by
    rw [← List.drop_drop, ← whole, List.drop_left]
  rw [← whole, List.prefix_append_right_inj, ← shifted]
  exact latter

/-- The buffer holds bytes of `stream` at their own offset. -/
def SliceOf (buf : RangeBuf) (stream : Bytes) : Prop := buf.data <+: stream.drop buf.off

variable {buf : RangeBuf}

theorem SliceOf.advance {stream : Bytes} (slice : buf.SliceOf stream)
    (count : Nat) : (buf.advance count).SliceOf stream := by
  have dropped := List.IsPrefix.drop slice count
  rw [List.drop_drop] at dropped
  exact dropped

theorem SliceOf.splitOff {stream : Bytes} (slice : buf.SliceOf stream) (index : Nat) :
    (buf.splitOff index).1.SliceOf stream ∧ (buf.splitOff index).2.SliceOf stream :=
  ⟨(List.take_prefix index buf.data).trans slice, slice.advance index⟩

theorem isEmpty_iff : buf.isEmpty = true ↔ buf.len = 0 := by
  simp [isEmpty, len]

@[simp] theorem advance_off (buf : RangeBuf) (count : Nat) :
    (buf.advance count).off = buf.off + count := rfl

@[simp] theorem advance_len (buf : RangeBuf) (count : Nat) :
    (buf.advance count).len = buf.len - count := by
  simp [advance, len]

theorem advance_maxOff {count : Nat} (bounded : count ≤ buf.len) :
    (buf.advance count).maxOff = buf.maxOff := by
  simp only [maxOff, advance_off, advance_len]
  omega

theorem SliceOf.maxOff_le {stream : Bytes} (slice : buf.SliceOf stream)
    (filled : 0 < buf.len) : buf.maxOff ≤ stream.length := by
  have bounded := slice.length_le
  simp only [List.length_drop] at bounded
  simp only [maxOff, len] at filled ⊢
  omega

end RangeBuf

end Tquic.Connection
