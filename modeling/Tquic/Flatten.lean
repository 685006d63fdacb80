import Tquic.Lib.DoubleEnded
import Tquic.RangesProperties

/-! The elements of a set of ranges one by one, after `Flatten` of `ranges.rs`. The ranges that
are left are taken from either end, and one cursor serves both directions. -/

set_option autoImplicit false

namespace Tquic

open Lib

structure Flatten where
  -- The ranges that the inner iterator still has.
  set : List Range
  next : Nat
  stop : Nat
  deriving DecidableEq, Repr

namespace Flatten

/-- The rest of `next` once the cursor is loaded. -/
def advance (flatten : Flatten) : Option Nat × Flatten :=
  (some flatten.next, { flatten with next := flatten.next + 1 })

def nextFront (flatten : Flatten) : Option Nat × Flatten :=
  if flatten.next = flatten.stop then
    match flatten.set with
    | [] => (none, flatten)
    | range :: rest => advance { set := rest, next := range.start, stop := range.stop }
  else advance flatten

/-- The rest of `next_back` once the cursor is loaded. -/
def retreat (flatten : Flatten) : Option Nat × Flatten :=
  (some (flatten.stop - 1), { flatten with stop := flatten.stop - 1 })

def nextBack (flatten : Flatten) : Option Nat × Flatten :=
  if flatten.next = flatten.stop then
    match flatten.set.getLast? with
    | none => (none, flatten)
    | some range =>
        retreat { set := flatten.set.dropLast, next := range.start, stop := range.stop }
  else retreat flatten

def pull (flatten : Flatten) : Side → Option Nat × Flatten
  | .front => flatten.nextFront
  | .back => flatten.nextBack

end Flatten

def Range.elements (range : Range) : List Nat :=
  List.range' range.start (range.stop - range.start)

namespace RangeSet

def flatten (ranges : RangeSet) : Flatten := { set := ranges.iter, next := 0, stop := 0 }

def elements (ranges : RangeSet) : List Nat := ranges.iter.flatMap Range.elements

private theorem mem_elements {ranges : RangeSet} {value : Nat} :
    value ∈ ranges.elements ↔ value ∈ ranges := by
  rw [mem_iff_range, elements, List.mem_flatMap]
  refine exists_congr fun range => and_congr_right fun _ => ?_
  rw [Range.elements, List.mem_range'_1]
  omega

private theorem elements_ascend (ranges : RangeSet) : ranges.elements.Pairwise (· < ·) := by
  rw [elements, List.pairwise_flatMap]
  refine ⟨fun range _ => List.pairwise_lt_range', ranges.iter_pairwise.imp ?_⟩
  intro left right apart value low other high
  rw [Range.elements, List.mem_range'_1] at low high
  omega

end RangeSet

namespace Flatten

variable {flatten : Flatten}

/-- The ranges that are left all lie beyond the cursor, as seen from a side. -/
def Faces (flatten : Flatten) : Side → Prop
  | .front => ∀ range ∈ flatten.set, flatten.stop ≤ range.start
  | .back => ∀ range ∈ flatten.set, range.stop ≤ flatten.next

instance (flatten : Flatten) (side : Side) : Decidable (flatten.Faces side) := by
  cases side <;> unfold Faces <;> infer_instance

/-- A call finds the cursor used up, or loaded with the range that is next on its side. -/
def Clear (flatten : Flatten) (side : Side) : Prop :=
  flatten.next = flatten.stop ∨ flatten.Faces side

instance (flatten : Flatten) (side : Side) : Decidable (flatten.Clear side) :=
  inferInstanceAs (Decidable (_ ∨ _))

def loaded (flatten : Flatten) : List Nat := Range.elements ⟨flatten.next, flatten.stop⟩

/-- The elements to come, in ascending order. -/
def elements (flatten : Flatten) : List Nat :=
  if flatten.Faces .front then flatten.loaded ++ flatten.set.flatMap Range.elements
  else flatten.set.flatMap Range.elements ++ flatten.loaded

structure Inv (flatten : Flatten) : Prop where
  bounded : flatten.next ≤ flatten.stop
  nonempty : ∀ range ∈ flatten.set, range.start < range.stop
  apart : flatten.set.Pairwise (fun left right => left.stop < right.start)
  beside : flatten.Faces .front ∨ flatten.Faces .back

private theorem inv_flatten (ranges : RangeSet) : ranges.flatten.Inv where
  bounded := le_refl _
  nonempty := fun _ member => RangeSet.iter_nonempty member
  apart := ranges.iter_pairwise
  beside := .inl fun _ _ => Nat.zero_le _

private theorem loaded_of_used (used : flatten.next = flatten.stop) : flatten.loaded = [] := by
  simp [loaded, Range.elements, used]

theorem elements_of_used (used : flatten.next = flatten.stop) :
    flatten.elements = flatten.set.flatMap Range.elements := by
  rw [elements, loaded_of_used used]
  split_ifs <;> simp

theorem elements_of_front (faces : flatten.Faces .front) :
    flatten.elements = flatten.loaded ++ flatten.set.flatMap Range.elements := if_pos faces

/-- The cursor lies on both sides of the ranges only if none is left. -/
theorem set_nil (inv : flatten.Inv) (front : flatten.Faces .front)
    (back : flatten.Faces .back) : flatten.set = [] := by
  refine List.eq_nil_iff_forall_not_mem.mpr fun range member => ?_
  have bounded := inv.bounded
  have above := front range member
  have below := back range member
  have nonempty := inv.nonempty range member
  omega

theorem elements_of_back (inv : flatten.Inv) (faces : flatten.Faces .back) :
    flatten.elements = flatten.set.flatMap Range.elements ++ flatten.loaded := by
  rw [elements]
  split_ifs with front
  · simp [set_nil inv front faces]
  · rfl

theorem elements_range {range : Range} (nonempty : range.start < range.stop) :
    range.elements = range.start :: Range.elements ⟨range.start + 1, range.stop⟩ ∧
      range.elements = Range.elements ⟨range.start, range.stop - 1⟩ ++ [range.stop - 1] := by
  obtain ⟨size, wide⟩ : ∃ size, range.stop = range.start + (size + 1) :=
    ⟨range.stop - range.start - 1, by omega⟩
  unfold Range.elements
  have whole : range.stop - range.start = size + 1 := by omega
  have first : range.stop - (range.start + 1) = size := by omega
  have last : range.stop - 1 - range.start = size := by omega
  have final : range.stop - 1 = range.start + size := by omega
  simp only [whole, first, last]
  refine ⟨List.range'_succ, ?_⟩
  rw [final, List.range'_concat, Nat.one_mul]

structure Takes (elements : List Nat) (side : Side) (result : Option Nat × Flatten) : Prop where
  found : result.1 = (takeSide elements side).1
  inv : result.2.Inv
  clear : result.2.Clear side
  rest : result.2.elements = (takeSide elements side).2

section

variable (inv : flatten.Inv)

include inv

theorem takes_advance (filled : flatten.next < flatten.stop)
    (faces : flatten.Faces .front) : Takes flatten.elements .front flatten.advance := by
  have split : Range.elements ⟨flatten.next, flatten.stop⟩ =
      flatten.next :: Range.elements ⟨flatten.next + 1, flatten.stop⟩ := (elements_range filled).1
  have same : flatten.elements = flatten.next :: flatten.advance.2.elements := by
    have ahead : flatten.advance.2.Faces .front := faces
    rw [elements_of_front faces, elements_of_front ahead, loaded, split]
    rfl
  refine ⟨?_, ⟨filled, inv.nonempty, inv.apart, .inl faces⟩, .inr faces, ?_⟩
  · rw [same]
    rfl
  · rw [same]
    rfl

theorem takes_retreat (filled : flatten.next < flatten.stop)
    (faces : flatten.Faces .back) : Takes flatten.elements .back flatten.retreat := by
  have shorter : flatten.next ≤ flatten.stop - 1 := by omega
  have kept : flatten.retreat.2.Inv := ⟨shorter, inv.nonempty, inv.apart, .inr faces⟩
  have split : Range.elements ⟨flatten.next, flatten.stop⟩ =
      Range.elements ⟨flatten.next, flatten.stop - 1⟩ ++ [flatten.stop - 1] :=
    (elements_range filled).2
  have same : flatten.elements = flatten.retreat.2.elements ++ [flatten.stop - 1] := by
    rw [elements_of_back inv faces, elements_of_back kept faces, loaded, split, ← List.append_assoc]
    rfl
  refine ⟨?_, kept, .inr faces, ?_⟩
  · rw [same, takeSide, List.getLast?_concat]
    rfl
  · rw [same, takeSide, List.dropLast_concat]

private theorem takes_front (clear : flatten.Clear .front) :
    Takes flatten.elements .front flatten.nextFront := by
  unfold nextFront
  split_ifs with used
  · cases left : flatten.set with
    | nil =>
        have spent : flatten.elements = [] := by simp [elements_of_used used, left]
        exact ⟨by simp [spent, takeSide], inv, .inl used, by simp [spent, takeSide]⟩
    | cons range rest =>
        have apart := inv.apart
        have nonempty := inv.nonempty
        rw [left] at apart nonempty
        have faces : Faces { set := rest, next := range.start, stop := range.stop } .front :=
          fun other member => (List.rel_of_pairwise_cons apart member).le
        have same : flatten.elements =
            elements { set := rest, next := range.start, stop := range.stop } := by
          rw [elements_of_used used, elements_of_front faces, left]
          rfl
        rw [same]
        exact takes_advance ⟨(nonempty range (.head _)).le,
          fun other member => nonempty other (.tail _ member), apart.of_cons, .inl faces⟩
          (nonempty range (.head _)) faces
  · have filled := lt_of_le_of_ne inv.bounded used
    exact takes_advance inv filled (clear.resolve_left used)

private theorem takes_back (clear : flatten.Clear .back) :
    Takes flatten.elements .back flatten.nextBack := by
  unfold nextBack
  split_ifs with used
  · rcases List.eq_nil_or_concat flatten.set with left | ⟨rest, range, left⟩
    · have spent : flatten.elements = [] := by simp [elements_of_used used, left]
      rw [left]
      exact ⟨by simp [spent, takeSide], inv, .inl used, by simp [spent, takeSide]⟩
    · rw [List.concat_eq_append] at left
      have apart := inv.apart
      have nonempty := inv.nonempty
      rw [left] at apart nonempty
      obtain ⟨apart, _, before⟩ := List.pairwise_append.mp apart
      have faces : Faces { set := rest, next := range.start, stop := range.stop } .back :=
        fun other member => (before other member range (.head _)).le
      have loaded : Inv { set := rest, next := range.start, stop := range.stop } :=
        ⟨(nonempty range (by simp)).le, fun other member => nonempty other (by simp [member]),
          apart, .inr faces⟩
      have same : flatten.elements =
          elements { set := rest, next := range.start, stop := range.stop } := by
        rw [elements_of_used used, elements_of_back loaded faces, left, List.flatMap_append,
          List.flatMap_singleton]
        rfl
      rw [left, List.getLast?_concat, List.dropLast_concat, same]
      exact takes_retreat loaded (nonempty range (by simp)) faces
  · have filled := lt_of_le_of_ne inv.bounded used
    exact takes_retreat inv filled (clear.resolve_left used)

theorem takes_of_clear {side : Side} (clear : flatten.Clear side) :
    Takes flatten.elements side (flatten.pull side) := by
  cases side with
  | front => exact takes_front inv clear
  | back => exact takes_back inv clear

private theorem misses_of_not_clear {side : Side} (stuck : ¬ flatten.Clear side) :
    (flatten.pull side).1 ≠ (takeSide flatten.elements side).1 := by
  obtain ⟨filled, away⟩ := not_or.mp stuck
  have bounded := inv.bounded
  cases side with
  | front =>
      have faces := inv.beside.resolve_left away
      unfold Faces at away
      push Not at away
      obtain ⟨range, member, before⟩ := away
      obtain ⟨first, rest, left⟩ := List.exists_cons_of_ne_nil (List.ne_nil_of_mem member)
      have listed : first ∈ flatten.set := by simp [left]
      have nonempty := inv.nonempty first listed
      have below := faces first listed
      rw [elements_of_back inv faces, left, pull, nextFront, if_neg filled, List.flatMap_cons,
        (elements_range nonempty).1]
      simp only [advance, takeSide, List.cons_append, List.head?_cons, ne_eq, Option.some.injEq]
      omega
  | back =>
      have faces := inv.beside.resolve_right away
      unfold Faces at away
      push Not at away
      obtain ⟨range, member, after⟩ := away
      obtain ⟨rest, last, left⟩ := (List.eq_nil_or_concat flatten.set).resolve_left
        (List.ne_nil_of_mem member)
      rw [List.concat_eq_append] at left
      have listed : last ∈ flatten.set := by simp [left]
      have nonempty := inv.nonempty last listed
      have above := faces last listed
      rw [elements_of_front faces, left, pull, nextBack, if_neg filled, List.flatMap_append,
        List.flatMap_singleton, (elements_range nonempty).2, ← List.append_assoc,
        ← List.append_assoc]
      simp only [retreat, takeSide, List.getLast?_concat, ne_eq, Option.some.injEq]
      omega

private theorem pull_iff (side : Side) :
    (flatten.pull side).1 = (takeSide flatten.elements side).1 ↔ flatten.Clear side :=
  ⟨not_imp_not.mp (misses_of_not_clear inv), fun clear => (takes_of_clear inv clear).found⟩

end

end Flatten

namespace RangeSet

private theorem lawful_flatten_iff (ranges : RangeSet) (sides : List Side) :
    Lawful ranges.elements (pulls Flatten.pull ranges.flatten sides) ↔
      Along (fun flatten side => (Flatten.pull flatten side).2) Flatten.Clear ranges.flatten
        sides := by
  have whole : ranges.flatten.elements = ranges.elements := Flatten.elements_of_used rfl
  rw [← whole]
  refine @lawful_iff _ _ Flatten.pull Flatten.elements Flatten.Inv Flatten.Clear
    (fun _ side inv => Flatten.pull_iff inv side) ?_ _ (Flatten.inv_flatten ranges) sides
  intro flatten side inv clear
  have takes := Flatten.takes_of_clear inv clear
  exact ⟨takes.inv, takes.rest⟩

/-- The elements of a set are its values in ascending order. The calls on both sides share them
out lawfully exactly when each finds the cursor used up, or loaded from its own side. -/
theorem flatten_both_sides (ranges : RangeSet) (sides : List Side) :
    ranges.elements.Pairwise (· < ·) ∧ (∀ value, value ∈ ranges.elements ↔ value ∈ ranges) ∧
      (Lawful ranges.elements (pulls Flatten.pull ranges.flatten sides) ↔
        Along (fun flatten side => (Flatten.pull flatten side).2) Flatten.Clear ranges.flatten
          sides) :=
  ⟨ranges.elements_ascend, fun _ => mem_elements, lawful_flatten_iff ranges sides⟩

def gapped : RangeSet := (default.insert ⟨0, 2⟩).insert ⟨5, 7⟩

theorem flatten_mixes_ends :
    ¬ ∀ (ranges : RangeSet) (sides : List Side),
      Lawful ranges.elements (pulls Flatten.pull ranges.flatten sides) := by
  intro claim
  have lawful := claim gapped [.front, .back]
  rw [show pulls Flatten.pull gapped.flatten [.front, .back] =
    [(.front, some 0), (.back, some 1)] by decide,
    show gapped.elements = [0, 1, 5, 6] by decide, lawful_cons, lawful_cons] at lawful
  exact absurd lawful.2.1 (by decide)

end RangeSet

end Tquic
