import Mathlib.Data.Set.Card
import Mathlib.Order.Bounds.Basic
import Tquic.RangesProperties

/-! Runs of the operations of an unlimited `RangeSet` against sets of numbers. -/

set_option autoImplicit false

namespace Tquic

open Lib

namespace RangeSet

inductive Op where
  | insert (range : Range)
  | addElem (elem : Nat)
  | remove (range : Range)
  | removeElem (elem : Nat)
  | removeUntil (elem : Nat)
  | popMin

def Op.apply (ranges : RangeSet) : Op → RangeSet
  | .insert range => ranges.insert range
  | .addElem elem => ranges.addElem elem
  | .remove range => ranges.remove range
  | .removeElem elem => ranges.removeElem elem
  | .removeUntil elem => ranges.removeUntil elem
  | .popMin => ranges.popMin.2

def run (ops : List Op) : RangeSet := ops.foldl Op.apply default

/-! ## Meaning -/

/-- The values that begin a maximal run of consecutive values. -/
def heads (values : Set Nat) : Set Nat :=
  {value | value ∈ values ∧ ∀ before, before + 1 = value → before ∉ values}

def beyondFirstGap (values : Set Nat) : Set Nat :=
  {value | value ∈ values ∧ ∃ least ∈ values, ∃ gap, gap ∉ values ∧ least < gap ∧ gap < value}

def Op.meaning (values : Set Nat) : Op → Set Nat
  | .insert range => values ∪ Set.Ico range.start range.stop
  | .addElem elem => values ∪ {elem}
  | .remove range => values \ Set.Ico range.start range.stop
  | .removeElem elem => values \ {elem}
  | .removeUntil elem => values ∩ Set.Ioi elem
  | .popMin => beyondFirstGap values

def meaning (ops : List Op) : Set Nat := ops.foldl Op.meaning ∅

/-- `ranges` is unlimited and denotes `values`. -/
structure Denotes (ranges : RangeSet) (values : Set Nat) : Prop where
  unlimited : ranges.capacity = none
  mem_iff : ∀ value, value ∈ ranges ↔ value ∈ values

/-! ## Steps and runs -/

theorem popMin_listed {ranges rest : RangeSet} {range : Range}
    (popped : ranges.popMin = (some range, rest)) : range ∈ ranges.iter := by
  cases first : ranges.set.first? with
  | none => simp [popMin, peekMin, first] at popped
  | some entry =>
      simp only [popMin, peekMin, first, Option.map_some, Prod.mk.injEq, Option.some.injEq] at popped
      obtain ⟨rfl, _⟩ := popped
      exact List.mem_map.mpr ⟨entry, OrdMap.first?_mem first, rfl⟩

variable {ranges : RangeSet}

private theorem mem_popMin {value : Nat} :
    value ∈ ranges.popMin.2 ↔ value ∈ ranges ∧
      ∃ least, least ∈ ranges ∧ ∃ gap, gap ∉ ranges ∧ least < gap ∧ gap < value := by
  cases filled : ranges.isEmpty with
  | true =>
      have vacant := isEmpty_iff.mp filled
      have unchanged : ranges.popMin.2 = ranges := by
        have absent := first?_eq_none_iff.mpr filled
        simp [popMin, peekMin, absent]
      rw [unchanged]
      exact ⟨fun member => absurd member (vacant value), fun member => member.1⟩
  | false =>
      obtain ⟨range, rest, popped⟩ := popMin_some filled
      obtain ⟨nonempty, least, kept, inside⟩ := popMin_spec popped
      obtain ⟨_, bound⟩ := min_spec least
      have outside := (mem_iter_iff.mp (popMin_listed popped)).2.2.2
      rw [popped, kept]
      constructor
      · rintro ⟨member, beyond⟩
        refine ⟨member, range.start, inside _ (le_refl _) nonempty, range.stop, outside,
          nonempty, ?_⟩
        exact lt_of_le_of_ne beyond (fun same => outside (same ▸ member))
      · rintro ⟨member, low, lowMember, gap, missing, above, below⟩
        refine ⟨member, ?_⟩
        by_contra short
        exact missing (inside gap (by have := bound low lowMember; omega) (by omega))

variable {values : Set Nat}

/-- Each operation does to the values what it means. -/
theorem Denotes.apply (denotes : Denotes ranges values)
    (op : Op) : Denotes (op.apply ranges) (op.meaning values) := by
  cases op with
  | insert range =>
      refine ⟨denotes.unlimited, fun value => ?_⟩
      simp only [Op.apply, Op.meaning, mem_insert denotes.unlimited, denotes.mem_iff,
        Set.mem_union, Set.mem_Ico]
  | addElem elem =>
      refine ⟨denotes.unlimited, fun value => ?_⟩
      simp only [Op.apply, Op.meaning, addElem, mem_insert denotes.unlimited, denotes.mem_iff,
        Set.mem_union, Set.mem_singleton_iff]
      exact or_congr_right (by omega)
  | remove range =>
      refine ⟨denotes.unlimited, fun value => ?_⟩
      simp only [Op.apply, Op.meaning, mem_remove, denotes.mem_iff, Set.mem_sdiff, Set.mem_Ico]
  | removeElem elem =>
      refine ⟨denotes.unlimited, fun value => ?_⟩
      simp only [Op.apply, Op.meaning, removeElem, mem_remove, denotes.mem_iff, Set.mem_sdiff,
        Set.mem_singleton_iff]
      exact and_congr_right (fun _ => not_congr (by omega))
  | removeUntil elem =>
      refine ⟨(capacity_removeUntil ranges elem).trans denotes.unlimited, fun value => ?_⟩
      simp only [Op.apply, Op.meaning, mem_removeUntil (.of_unlimited denotes.unlimited), denotes.mem_iff,
        Set.mem_inter_iff, Set.mem_Ioi]
  | popMin =>
      refine ⟨(capacity_popMin ranges).trans denotes.unlimited, fun value => ?_⟩
      simp only [Op.apply, Op.meaning, mem_popMin, denotes.mem_iff, beyondFirstGap,
        Set.mem_ofPred_eq]

theorem Denotes.foldl {ops : List Op} (denotes : Denotes ranges values) :
    Denotes (ops.foldl Op.apply ranges) (ops.foldl Op.meaning values) := by
  induction ops generalizing ranges values with
  | nil => exact denotes
  | cons op rest ih => exact ih (denotes.apply op)

private theorem run_denotes (ops : List Op) : Denotes (run ops) (meaning ops) := by
  apply Denotes.foldl
  exact ⟨rfl, fun value => by simp⟩

/-! ## Queries -/

theorem Denotes.min_iff (denotes : Denotes ranges values)
    (least : Nat) : ranges.min = some least ↔ IsLeast values least := by
  constructor
  · intro found
    obtain ⟨member, bound⟩ := min_spec found
    exact ⟨(denotes.mem_iff least).mp member,
      fun value present => bound value ((denotes.mem_iff value).mpr present)⟩
  · rintro ⟨member, bound⟩
    cases found : ranges.min with
    | none =>
        have vacant := isEmpty_iff.mp (min_eq_none_iff.mp found)
        exact absurd ((denotes.mem_iff least).mpr member) (vacant least)
    | some other =>
        obtain ⟨present, lower⟩ := min_spec found
        have above := lower least ((denotes.mem_iff least).mpr member)
        have below := bound ((denotes.mem_iff other).mp present)
        exact congrArg some (le_antisymm above below)

private theorem max_eq_none_iff : ranges.max = none ↔ ranges.isEmpty = true := by
  rw [max, Option.map_eq_none_iff, isEmpty, OrdMap.isEmpty, OrdMap.last?,
    List.getLast?_eq_none_iff, List.isEmpty_iff]

private theorem Denotes.max_iff (denotes : Denotes ranges values)
    (greatest : Nat) : ranges.max = some greatest ↔ IsGreatest values greatest := by
  constructor
  · intro found
    obtain ⟨member, bound⟩ := max_spec found
    exact ⟨(denotes.mem_iff greatest).mp member,
      fun value present => bound value ((denotes.mem_iff value).mpr present)⟩
  · rintro ⟨member, bound⟩
    cases found : ranges.max with
    | none =>
        have vacant := isEmpty_iff.mp (max_eq_none_iff.mp found)
        exact absurd ((denotes.mem_iff greatest).mpr member) (vacant greatest)
    | some other =>
        obtain ⟨present, upper⟩ := max_spec found
        have below := upper greatest ((denotes.mem_iff greatest).mpr member)
        have above := bound ((denotes.mem_iff other).mp present)
        exact congrArg some (le_antisymm above below)

theorem heads_eq_starts (ranges : RangeSet) :
    heads {value | value ∈ ranges} = ↑(ranges.iter.map (·.start)).toFinset := by
  ext start
  simp only [heads, Set.mem_ofPred_eq, List.coe_toFinset, List.mem_map]
  constructor
  · rintro ⟨member, first⟩
    obtain ⟨range, listed, lower, upper⟩ := mem_iff_range.mp member
    refine ⟨range, listed, ?_⟩
    by_contra different
    have inside := (mem_iter_iff.mp listed).2.1 (start - 1) (by omega) (by omega)
    exact first (start - 1) (by omega) inside
  · rintro ⟨range, listed, rfl⟩
    obtain ⟨filled, inside, before, _⟩ := mem_iter_iff.mp listed
    exact ⟨inside _ (le_refl _) filled, before⟩

theorem heads_finite (ranges : RangeSet) : (heads {value | value ∈ ranges}).Finite := by
  rw [heads_eq_starts]
  exact Finset.finite_toSet _

theorem len_eq_heads (ranges : RangeSet) : ranges.len = (heads {value | value ∈ ranges}).ncard := by
  have distinct : (ranges.iter.map (·.start)).Nodup := by
    rw [List.Nodup, List.pairwise_map]
    refine (iter_pairwise ranges).imp_of_mem ?_
    intro left right leftMember _ less
    have := iter_nonempty leftMember
    omega
  rw [heads_eq_starts, Set.ncard_coe_finset, List.toFinset_card_of_nodup distinct, List.length_map]
  simp [len, iter, OrdMap.size]

theorem Denotes.len_eq (denotes : Denotes ranges values) : ranges.len = (heads values).ncard := by
  have same : {value | value ∈ ranges} = values := Set.ext denotes.mem_iff
  rw [len_eq_heads, same]

private theorem Denotes.popMin_iff (denotes : Denotes ranges values) (range : Range) :
    ranges.popMin.1 = some range ↔
      IsLeast values range.start ∧
        IsLeast {value | range.start ≤ value ∧ value ∉ values} range.stop := by
  have first : ∀ popped rest, ranges.popMin = (some popped, rest) →
      IsLeast values popped.start ∧
        IsLeast {value | popped.start ≤ value ∧ value ∉ values} popped.stop := by
    intro popped rest found
    obtain ⟨filled, least, _, inside⟩ := popMin_spec found
    have outside := (mem_iter_iff.mp (popMin_listed found)).2.2.2
    refine ⟨(denotes.min_iff _).mp least, ⟨filled.le, ?_⟩, ?_⟩
    · exact fun member => outside ((denotes.mem_iff _).mpr member)
    · rintro value ⟨lower, missing⟩
      by_contra short
      exact missing ((denotes.mem_iff value).mp (inside value lower (by omega)))
  constructor
  · intro popped
    exact first range ranges.popMin.2 (Prod.ext popped rfl)
  · rintro ⟨least, gap⟩
    cases filled : ranges.isEmpty with
    | true =>
        have present := (denotes.mem_iff range.start).mpr least.1
        exact absurd present (isEmpty_iff.mp filled range.start)
    | false =>
        obtain ⟨other, rest, popped⟩ := popMin_some filled
        obtain ⟨otherLeast, otherGap⟩ := first other rest popped
        have start : other.start = range.start := otherLeast.unique least
        rw [start] at otherGap
        have stop : other.stop = range.stop := otherGap.unique gap
        have same : other = range := by
          cases other
          cases range
          simp_all
        rw [popped, same]

/-- In every run the set denotes what the operations mean, its queries read that set,
and its ranges are non-empty, sorted, disjoint and never touch. -/
theorem run_faithful (ops : List Op) :
    (∀ value, value ∈ run ops ↔ value ∈ meaning ops) ∧
      (∀ elem, (run ops).contains elem = true ↔ elem ∈ meaning ops) ∧
      (∀ least, (run ops).min = some least ↔ IsLeast (meaning ops) least) ∧
      (∀ greatest, (run ops).max = some greatest ↔ IsGreatest (meaning ops) greatest) ∧
      (run ops).len = (heads (meaning ops)).ncard ∧ ((run ops).isEmpty = true ↔ meaning ops = ∅) ∧
      (∀ range, (run ops).popMin.1 = some range ↔
        IsLeast (meaning ops) range.start ∧
          IsLeast {value | range.start ≤ value ∧ value ∉ meaning ops} range.stop) ∧
      (∀ range ∈ (run ops).iter, range.start < range.stop) ∧
      (run ops).iter.Pairwise (fun left right => left.stop < right.start) := by
  have denotes := run_denotes ops
  refine ⟨denotes.mem_iff, ?_, denotes.min_iff, denotes.max_iff, denotes.len_eq, ?_,
    denotes.popMin_iff, fun range listed => iter_nonempty listed, iter_pairwise _⟩
  · intro elem
    rw [contains_iff, denotes.mem_iff]
  · rw [isEmpty_iff, Set.eq_empty_iff_forall_notMem]
    exact forall_congr' (fun value => not_congr (denotes.mem_iff value))

end RangeSet

end Tquic
