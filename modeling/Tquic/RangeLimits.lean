import Tquic.Lib.Transition
import Tquic.RangesRun

/-! The parts of a range that a set leaves out, and what a limited set forgets. -/

set_option autoImplicit false

namespace Tquic

open Lib

namespace RangeSet

/-! ## The first part that is missing -/

/-- A non-empty part of `range` of which nothing is in the set. -/
structure Free (ranges : RangeSet) (range part : Range) : Prop where
  nonempty : part.start < part.stop
  within : range.start ≤ part.start ∧ part.stop ≤ range.stop
  missing : ∀ value, part.start ≤ value → value < part.stop → value ∉ ranges

def MaximalFree (ranges : RangeSet) (range part : Range) : Prop :=
  Free ranges range part ∧
    ∀ other, Free ranges range other → other.start ≤ part.start → part.stop ≤ other.stop →
      other = part

def LowestFree (ranges : RangeSet) (range part : Range) : Prop :=
  MaximalFree ranges range part ∧ ∀ other, MaximalFree ranges range other → part.start ≤ other.start

variable {ranges : RangeSet} {range part : Range}

theorem LowestFree.unique {other : Range} (lowest : LowestFree ranges range part)
    (again : LowestFree ranges range other) : part = other := by
  have same : part.start = other.start := le_antisymm (lowest.2 other again.1) (again.2 part lowest.1)
  rcases Nat.le_total part.stop other.stop with short | long
  · exact (lowest.1.2 other again.1.1 same.ge short).symm
  · exact again.1.2 part lowest.1.1 same.le long

private theorem lowestFree_of_gap (free : Free ranges range part)
    (front : ∀ value, range.start ≤ value → value < part.start → value ∈ ranges)
    (back : part.stop < range.stop → part.stop ∈ ranges) : LowestFree ranges range part := by
  have begins : ∀ other, Free ranges range other → part.start ≤ other.start := by
    intro other otherFree
    by_contra early
    exact otherFree.missing other.start (le_refl _) otherFree.nonempty
      (front other.start otherFree.within.1 (by omega))
  refine ⟨⟨free, fun other otherFree before after => ?_⟩, fun other maximal => begins other maximal.1⟩
  have start := le_antisymm before (begins other otherFree)
  have stop : other.stop = part.stop := by
    by_contra longer
    have inside := otherFree.within.2
    have reaches := free.nonempty
    exact otherFree.missing part.stop (by omega) (by omega) (back (by omega))
  cases other
  cases part
  exact congrArg₂ Range.mk start stop

theorem prevTo_spec {elem : Nat} {prev : Range} (found : ranges.prevTo elem = some prev) :
    prev ∈ ranges.iter ∧ prev.start ≤ elem ∧
      ∀ other ∈ ranges.iter, other.start ≤ elem → other.start ≤ prev.start := by
  obtain ⟨entry, last, rfl⟩ := Option.map_eq_some_iff.mp found
  obtain ⟨member, low, greatest⟩ := OrdMap.lastLE?_spec last
  refine ⟨List.mem_map.mpr ⟨entry, member, rfl⟩, low, fun other listed => ?_⟩
  obtain ⟨otherEntry, present, rfl⟩ := List.mem_map.mp listed
  exact greatest otherEntry present

private theorem prevTo_none {elem : Nat} (absent : ranges.prevTo elem = none) :
    ∀ other ∈ ranges.iter, elem < other.start := by
  intro other listed
  obtain ⟨entry, present, rfl⟩ := List.mem_map.mp listed
  exact OrdMap.lastLE?_eq_none_iff.mp (Option.map_eq_none_iff.mp absent) entry present

theorem nextAfter_spec {elem : Nat} {next : Range} (found : ranges.nextAfter elem = some next) :
    next ∈ ranges.iter ∧ elem < next.start ∧
      ∀ other ∈ ranges.iter, elem < other.start → next.start ≤ other.start := by
  obtain ⟨entry, first, rfl⟩ := Option.map_eq_some_iff.mp found
  obtain ⟨member, above, least⟩ := OrdMap.firstGE?_spec first
  refine ⟨List.mem_map.mpr ⟨entry, member, rfl⟩, above, fun other listed => ?_⟩
  obtain ⟨otherEntry, present, rfl⟩ := List.mem_map.mp listed
  exact least otherEntry present

private theorem nextAfter_none {elem : Nat} (absent : ranges.nextAfter elem = none) :
    ∀ other ∈ ranges.iter, other.start ≤ elem := by
  intro other listed
  obtain ⟨entry, present, rfl⟩ := List.mem_map.mp listed
  exact Nat.le_of_lt_succ
    (OrdMap.firstGE?_eq_none_iff.mp (Option.map_eq_none_iff.mp absent) entry present)

theorem stops_before {left right : Range} (leftListed : left ∈ ranges.iter)
    (rightListed : right ∈ ranges.iter) (less : left.start < right.start) :
    left.stop < right.start := by
  obtain ⟨leftEntry, leftPresent, rfl⟩ := List.mem_map.mp leftListed
  obtain ⟨rightEntry, rightPresent, rfl⟩ := List.mem_map.mp rightListed
  exact ranges.separated.apart leftEntry leftPresent rightEntry rightPresent less

theorem stop_eq {left right : Range} (leftListed : left ∈ ranges.iter)
    (rightListed : right ∈ ranges.iter) (same : left.start = right.start) :
    left.stop = right.stop := by
  obtain ⟨leftEntry, leftPresent, rfl⟩ := List.mem_map.mp leftListed
  obtain ⟨rightEntry, rightPresent, rfl⟩ := List.mem_map.mp rightListed
  rw [OrdMap.mem_unique leftPresent rightPresent same]

/-- Where the part begins: behind the range that reaches beyond the beginning. -/
def newStart (ranges : RangeSet) (range : Range) : Nat :=
  match ranges.prevTo range.start with
  | some prev => if prev.stop > range.start then prev.stop else range.start
  | none => range.start

def newEnd (ranges : RangeSet) (range : Range) : Nat :=
  match ranges.nextAfter range.start with
  | some next => if next.start < range.stop then next.start else range.stop
  | none => range.stop

/-- Both ends of the filtered range in one equation. -/
theorem filter_eq (ranges : RangeSet) (range : Range) :
    ranges.filter range =
      if (ranges.prevTo range.start).any (fun prev => prev.stop ≥ range.stop) then none
      else some ⟨newStart ranges range, newEnd ranges range⟩ := by
  unfold filter
  cases vacant : ranges.isEmpty with
  | true =>
      have none_stored : ranges.iter = [] := by
        rw [iter, List.isEmpty_iff.mp vacant, List.map_nil]
      have noPrev : ranges.prevTo range.start = none := by
        cases found : ranges.prevTo range.start with
        | none => rfl
        | some prev =>
            have listed := (prevTo_spec found).1
            rw [none_stored] at listed
            cases listed
      have noNext : ranges.nextAfter range.start = none := by
        cases found : ranges.nextAfter range.start with
        | none => rfl
        | some next =>
            have listed := (nextAfter_spec found).1
            rw [none_stored] at listed
            cases listed
      unfold newStart newEnd
      rw [noPrev, noNext]
      rfl
  | false => rfl

private theorem stop_le_newStart {other : Range} (listed : other ∈ ranges.iter)
    (early : other.start ≤ range.start) : other.stop ≤ newStart ranges range := by
  unfold newStart
  cases found : ranges.prevTo range.start with
  | none =>
      have late := prevTo_none found other listed
      omega
  | some prev =>
      obtain ⟨prevListed, low, greatest⟩ := prevTo_spec found
      have bound : other.stop ≤ prev.stop := by
        rcases (greatest other listed early).lt_or_eq with less | same
        · have before := stops_before listed prevListed less
          have filled := iter_nonempty prevListed
          omega
        · exact (stop_eq listed prevListed same).le
      dsimp only
      split_ifs <;> omega

private theorem newStart_spec (nonempty : range.start < range.stop)
    (short : ∀ prev, ranges.prevTo range.start = some prev → prev.stop < range.stop) :
    newStart ranges range < range.stop ∧
      (newStart ranges range = range.start ∨
        ∃ prev ∈ ranges.iter, prev.start ≤ range.start ∧ range.start < prev.stop ∧
          newStart ranges range = prev.stop) := by
  unfold newStart
  cases found : ranges.prevTo range.start with
  | none => exact ⟨nonempty, .inl rfl⟩
  | some prev =>
      obtain ⟨listed, low, _⟩ := prevTo_spec found
      dsimp only
      split_ifs with reaches
      · exact ⟨short prev found, .inr ⟨prev, listed, low, reaches, rfl⟩⟩
      · exact ⟨nonempty, .inl rfl⟩

private theorem newEnd_spec (ranges : RangeSet) (range : Range) :
    newEnd ranges range ≤ range.stop ∧
      (newEnd ranges range = range.stop ∨
        ∃ next ∈ ranges.iter, range.start < next.start ∧ newEnd ranges range = next.start) ∧
      ∀ other ∈ ranges.iter, range.start < other.start → newEnd ranges range ≤ other.start ∨
        range.stop ≤ other.start := by
  unfold newEnd
  cases found : ranges.nextAfter range.start with
  | none =>
      refine ⟨le_refl _, .inl rfl, fun other listed later => ?_⟩
      have early := nextAfter_none found other listed
      omega
  | some next =>
      obtain ⟨listed, later, least⟩ := nextAfter_spec found
      dsimp only
      split_ifs with inside
      · exact ⟨inside.le, .inr ⟨next, listed, later, rfl⟩,
          fun other stored after => .inl (least other stored after)⟩
      · refine ⟨le_refl _, .inl rfl, fun other stored after => .inr ?_⟩
        have bound := least other stored after
        omega

theorem newStart_front {value : Nat} (lower : range.start ≤ value)
    (upper : value < newStart ranges range) : value ∈ ranges := by
  unfold newStart at upper
  cases found : ranges.prevTo range.start with
  | none =>
      simp only [found] at upper
      omega
  | some prev =>
      obtain ⟨listed, low, _⟩ := prevTo_spec found
      simp only [found] at upper
      split_ifs at upper
      · exact mem_iff_range.mpr ⟨prev, listed, by omega, upper⟩
      · omega

/-- Unless one range covers everything, the part is not empty, and the rest of the set lies before
or behind it. -/
theorem lowestFree_filter (nonempty : range.start < range.stop)
    (short : ∀ prev, ranges.prevTo range.start = some prev → prev.stop < range.stop) :
    LowestFree ranges range ⟨newStart ranges range, newEnd ranges range⟩ := by
  obtain ⟨inside, begins⟩ := newStart_spec nonempty short
  obtain ⟨within, ends, least⟩ := newEnd_spec ranges range
  have after : range.start ≤ newStart ranges range := by
    rcases begins with same | ⟨prev, _, _, reaches, same⟩ <;> omega
  have filled : newStart ranges range < newEnd ranges range := by
    rcases ends with last | ⟨next, nextListed, later, last⟩
    · omega
    · rcases begins with first | ⟨prev, prevListed, early, _, first⟩
      · omega
      · have apart := stops_before prevListed nextListed (by omega)
        omega
  refine lowestFree_of_gap ⟨filled, ⟨after, within⟩, ?_⟩ ?_ ?_
  · intro value lower upper member
    obtain ⟨other, listed, first, last⟩ := mem_iff_range.mp member
    dsimp only at lower upper
    rcases Nat.lt_or_ge range.start other.start with later | early
    · have bound := least other listed later
      omega
    · have bound := stop_le_newStart listed early
      omega
  · exact fun value => newStart_front
  · intro stops
    dsimp only at stops ⊢
    rcases ends with last | ⟨next, nextListed, _, last⟩
    · omega
    · have held := iter_nonempty nextListed
      exact mem_iff_range.mpr ⟨next, nextListed, by omega, by omega⟩

theorem filter_none (found : ranges.filter range = none) {value : Nat}
    (lower : range.start ≤ value) (upper : value < range.stop) : value ∈ ranges := by
  rw [filter_eq] at found
  split_ifs at found with covered
  obtain ⟨prev, before, reaches⟩ := (Option.any_eq_true _ _).mp covered
  obtain ⟨listed, low, _⟩ := prevTo_spec before
  have long := of_decide_eq_true reaches
  exact mem_iff_range.mpr ⟨prev, listed, by omega, by omega⟩

theorem filter_some (found : ranges.filter range = some part) :
    part = ⟨newStart ranges range, newEnd ranges range⟩ ∧
      ∀ prev, ranges.prevTo range.start = some prev → prev.stop < range.stop := by
  rw [filter_eq] at found
  split_ifs at found with covered
  refine ⟨(Option.some.inj found).symm, fun prev before => ?_⟩
  by_contra long
  refine covered ((Option.any_eq_true _ _).mpr ⟨prev, before, ?_⟩)
  exact decide_eq_true (Nat.not_lt.mp long)

theorem filter_lowest (nonempty : range.start < range.stop)
    (found : ranges.filter range = some part) : LowestFree ranges range part := by
  obtain ⟨rfl, short⟩ := filter_some found
  exact lowestFree_filter nonempty short

theorem filter_empty {offset : Nat} (found : ranges.filter ⟨offset, offset⟩ = some part) :
    part = ⟨offset, offset⟩ := by
  obtain ⟨rfl, short⟩ := filter_some found
  have start : newStart ranges ⟨offset, offset⟩ = offset := by
    unfold newStart
    cases before : ranges.prevTo offset with
    | none => rfl
    | some prev =>
        have early := short prev before
        dsimp only at early ⊢
        rw [if_neg (by omega)]
  have stop : newEnd ranges ⟨offset, offset⟩ = offset := by
    unfold newEnd
    cases behind : ranges.nextAfter offset with
    | none => rfl
    | some next =>
        have late := (nextAfter_spec behind).2.1
        dsimp only
        rw [if_neg (by omega)]
  rw [start, stop]

/-- What is left out is nothing exactly when the whole range is in the set, and its lowest maximal
part otherwise. -/
theorem filter_exact (ranges : RangeSet) (range : Range) (nonempty : range.start < range.stop) :
    (ranges.filter range = none ↔
      ∀ value, range.start ≤ value → value < range.stop → value ∈ ranges) ∧
      ∀ part, ranges.filter range = some part ↔ LowestFree ranges range part := by
  cases found : ranges.filter range with
  | none =>
      have all := fun value => @filter_none ranges range found value
      refine ⟨⟨fun _ => all, fun _ => rfl⟩, fun part => ⟨fun impossible => (by cases impossible), ?_⟩⟩
      intro lowest
      have free := lowest.1.1
      have reach := free.nonempty
      have inside := free.within
      exact absurd (all part.start inside.1 (by omega)) (free.missing part.start (le_refl _) reach)
  | some first =>
      have lowest := filter_lowest nonempty found
      refine ⟨⟨fun impossible => (by cases impossible), fun all => ?_⟩, fun part => ⟨?_, ?_⟩⟩
      · have free := lowest.1.1
        have reach := free.nonempty
        have inside := free.within
        exact absurd (all _ inside.1 (by omega)) (free.missing _ (le_refl _) reach)
      · intro same
        cases same
        exact lowest
      · intro again
        rw [lowest.unique again]

/-- What is left out of 3 to 9 by 2 to 4 and 6 to 8. -/
theorem filter_exact_middle : LowestFree ((default.insert ⟨2, 4⟩).insert ⟨6, 8⟩) ⟨3, 9⟩ ⟨4, 6⟩ :=
  ((filter_exact ((default.insert ⟨2, 4⟩).insert ⟨6, 8⟩) ⟨3, 9⟩ (by decide)).2 ⟨4, 6⟩).mp rfl

/-! ## Limited sets -/

def Op.inserted : Op → Option Range
  | .insert range => some range
  | .addElem elem => some ⟨elem, elem + 1⟩
  | _ => none

/-- The range that an operation cuts out, if it does. -/
def Op.removed : Op → Option Range
  | .remove range => some range
  | .removeElem elem => some ⟨elem, elem + 1⟩
  | _ => none

/-- All the values, or without the lowest of their ranges where there are more than `limit`. -/
def keepHighest (limit : Nat) (values : Set Nat) : Set Nat :=
  {value | value ∈ values ∧ (limit < (heads values).ncard → value ∈ beyondFirstGap values)}

/-- There are no more ranges than the capacity, and an insertion forgets nothing but the lowest
range of the union, and only when there is no place for it. -/
def WithinLimit (limit : Nat) (ranges : RangeSet) (op : Op) : Prop :=
  (op.apply ranges).len ≤ limit ∧
    ∀ range, op.inserted = some range →
      {value | value ∈ op.apply ranges} =
        keepHighest limit ({value | value ∈ ranges} ∪ Set.Ico range.start range.stop)

/-- The range lies below all that is stored, and touches nothing. -/
def Lowest (ranges : RangeSet) (range : Range) : Prop :=
  range.start < range.stop ∧ ∀ stored ∈ ranges.iter, range.stop < stored.start

/-- The range lies inside a stored one, and both of its ends do. -/
def Splits (ranges : RangeSet) (range : Range) : Prop :=
  range.start < range.stop ∧
    ∃ stored ∈ ranges.iter, stored.start < range.start ∧ range.stop < stored.stop

/-- The operation is not one that a full set cannot take: neither an insertion below everything nor
a removal from the middle of a range. -/
def Takes (limit : Nat) (ranges : RangeSet) (op : Op) : Prop :=
  ranges.len = limit → (∀ range, op.inserted = some range → ¬ Lowest ranges range) ∧
    ∀ range, op.removed = some range → ¬ Splits ranges range

/-! ## Counting ranges -/

/-- A range apart from all others is one more. -/
theorem ncard_heads_apart (nonempty : range.start < range.stop)
    (apart : ∀ stored ∈ ranges.iter, stored.stop < range.start ∨ range.stop < stored.start) :
    (heads ({value | value ∈ ranges} ∪ Set.Ico range.start range.stop)).ncard = ranges.len + 1 := by
  have outside : ∀ value, range.start ≤ value + 1 → value ≤ range.stop → value ∉ ranges := by
    intro value low high member
    obtain ⟨stored, listed, lower, upper⟩ := mem_iff_range.mp member
    rcases apart stored listed with before | after <;> omega
  have grown : heads ({value | value ∈ ranges} ∪ Set.Ico range.start range.stop) =
      Insert.insert range.start (heads {value | value ∈ ranges}) := by
    ext value
    simp only [heads, Set.mem_union, Set.mem_ofPred_eq, Set.mem_Ico, Set.mem_insert_iff, not_or]
    constructor
    · rintro ⟨member | inside, first⟩
      · exact .inr ⟨member, fun before next => (first before next).1⟩
      · left
        by_contra later
        exact (first (value - 1) (by omega)).2 (by omega)
    · rintro (rfl | ⟨member, first⟩)
      · refine ⟨.inr ⟨le_refl _, nonempty⟩, fun before next => ⟨?_, by omega⟩⟩
        exact outside before (by omega) (by omega)
      · refine ⟨.inl member, fun before next => ⟨first before next, fun inside => ?_⟩⟩
        exact outside value (by omega) (by omega) member
  have fresh : range.start ∉ heads {value | value ∈ ranges} :=
    fun member => outside range.start (by omega) nonempty.le member.1
  rw [grown, Set.ncard_insert_of_notMem fresh (heads_finite ranges), len_eq_heads]

/-! ## Insertions -/

section Limited

variable {limit : Nat}

/-- The lowest range gives way to the new one. -/
theorem mem_replaced {first : Range} {rest : RangeSet} (popped : ranges.popMin = (some first, rest))
    (apart : ∀ stored ∈ ranges.iter, stored.stop < range.start ∨ range.stop < stored.start)
    (nonempty : range.start < range.stop) {value : Nat} :
    Covers (ranges.set.popFirst.insert range.start range.stop) value ↔
      value ∈ ranges ∧ first.stop ≤ value ∨ range.start ≤ value ∧ value < range.stop := by
  have kept := (popMin_spec popped).2.2.1 value
  have same : rest.set = ranges.set.popFirst := by
    unfold popMin peekMin at popped
    cases found : ranges.set.first? with
    | none =>
        rw [found] at popped
        cases popped
    | some entry =>
        rw [found] at popped
        cases popped
        exact (OrdMap.popFirst_eq_erase found).symm
  rw [← kept, ← same]
  constructor
  · rintro ⟨entry, member, inside⟩
    rcases OrdMap.mem_insert.mp member with rfl | ⟨old, _⟩
    · exact .inr inside
    · exact .inl ⟨entry, old, inside⟩
  · rintro (⟨entry, member, inside⟩ | inside)
    · have listed : (⟨entry.1, entry.2⟩ : Range) ∈ ranges.iter := by
        rw [same] at member
        exact List.mem_map.mpr ⟨entry, List.mem_of_mem_tail member, rfl⟩
      have filled := iter_nonempty listed
      refine ⟨entry, OrdMap.mem_insert.mpr (.inr ⟨member, ?_⟩), inside⟩
      rcases apart _ listed with before | after
      · dsimp only at before filled
        omega
      · dsimp only at after
        omega
    · exact ⟨_, OrdMap.mem_insert.mpr (.inl rfl), inside⟩

/-- The lowest stored range is the lowest of the union, unless the new range lies below it. -/
theorem beyondFirstGap_eq {first : Range} {rest : RangeSet}
    (popped : ranges.popMin = (some first, rest)) (behind : first.stop < range.start) :
    {value | value ∈ ranges ∧ first.stop ≤ value ∨ range.start ≤ value ∧ value < range.stop} =
      beyondFirstGap ({value | value ∈ ranges} ∪ Set.Ico range.start range.stop) := by
  obtain ⟨filled, least, _, inside⟩ := popMin_spec popped
  obtain ⟨_, bound⟩ := min_spec least
  have outside := (mem_iter_iff.mp (popMin_listed popped)).2.2.2
  ext value
  simp only [beyondFirstGap, Set.mem_ofPred_eq, Set.mem_union, Set.mem_Ico]
  constructor
  · intro kept
    have later : first.stop < value := by
      rcases kept with ⟨member, beyond⟩ | between
      · exact lt_of_le_of_ne beyond fun same => outside (same ▸ member)
      · omega
    refine ⟨kept.imp_left And.left, first.start, .inl (inside _ (le_refl _) filled), first.stop, ?_,
      filled, later⟩
    rintro (member | between)
    · exact outside member
    · omega
  · rintro ⟨member | between, low, lowMember, gap, missing, above, below⟩
    · refine .inl ⟨member, ?_⟩
      by_contra short
      refine missing (.inl (inside gap ?_ (by omega)))
      rcases lowMember with stored | between
      · have := bound low stored
        omega
      · omega
    · exact .inr between

private theorem behind_of_not_lowest {first : Range} {rest : RangeSet}
    (popped : ranges.popMin = (some first, rest)) (nonempty : range.start < range.stop)
    (apart : ∀ stored ∈ ranges.iter, stored.stop < range.start ∨ range.stop < stored.start)
    (clear : ¬ Lowest ranges range) : first.stop < range.start := by
  by_contra behind
  refine clear ⟨nonempty, fun stored listed => ?_⟩
  rcases apart stored listed with before | after
  · have held := iter_nonempty listed
    have firstListed := popMin_listed popped
    have lowest := (min_spec (popMin_spec popped).2.1).2 stored.start
      (mem_iff_range.mpr ⟨stored, listed, le_refl _, held⟩)
    rcases lowest.lt_or_eq with less | same
    · have := stops_before firstListed listed less
      omega
    · have := stop_eq firstListed listed same
      omega
  · exact after

private theorem not_beyond_of_lowest (lowest : Lowest ranges range) :
    range.start ∉ beyondFirstGap ({value | value ∈ ranges} ∪ Set.Ico range.start range.stop) := by
  rintro ⟨_, least, leastMember, gap, _, above, below⟩
  have nonempty := lowest.1
  rcases leastMember with stored | inside
  · obtain ⟨other, listed, lower, _⟩ := mem_iff_range.mp stored
    have := lowest.2 other listed
    omega
  · have := inside.1
    omega

/-- The highest ranges are kept, unless the set is full and the new range is the lowest. -/
theorem insert_keepHighest_iff (limited : ranges.capacity = some limit) (positive : 0 < limit)
    (few : ranges.len ≤ limit) :
    {value | value ∈ ranges.insert range} =
        keepHighest limit ({value | value ∈ ranges} ∪ Set.Ico range.start range.stop) ↔
      (ranges.len = limit → ¬ Lowest ranges range) := by
  rcases @Ranges.insert_limit _ range _ ranges.separated few with
    same | ⟨full, nonempty, apart, dropped⟩
  · -- Nothing had to be forgotten.
    have kept : {value | value ∈ ranges.insert range} =
        {value | value ∈ ranges} ∪ Set.Ico range.start range.stop := by
      ext value
      have covers := Ranges.insert_covers ranges.separated range value
      rw [← same, ← limited] at covers
      exact covers
    have size : (ranges.insert range).len ≤ limit := by
      have bound := @Ranges.size_insert _ range _ few positive
      rwa [← limited] at bound
    rw [len_eq_heads, kept] at size
    have all : keepHighest limit ({value | value ∈ ranges} ∪ Set.Ico range.start range.stop) =
        {value | value ∈ ranges} ∪ Set.Ico range.start range.stop := by
      ext value
      exact and_iff_left fun more => absurd more (Nat.not_lt.mpr size)
    rw [kept, all]
    simp only [true_iff]
    rintro full ⟨nonempty, below⟩
    rw [ncard_heads_apart nonempty fun stored listed => .inr (below stored listed)] at size
    omega
  · have apart' : ∀ stored ∈ ranges.iter, stored.stop < range.start ∨ range.stop < stored.start := by
      intro stored listed
      obtain ⟨entry, present, rfl⟩ := List.mem_map.mp listed
      exact apart entry present
    have count := ncard_heads_apart nonempty apart'
    have filled : ranges.isEmpty = false := by
      cases vacant : ranges.isEmpty with
      | false => rfl
      | true =>
          have none_stored : ranges.len = 0 := List.length_eq_zero_iff.mpr (List.isEmpty_iff.mp vacant)
          change limit ≤ ranges.len at full
          omega
    obtain ⟨first, rest, popped⟩ := popMin_some filled
    have kept : {value | value ∈ ranges.insert range} = {value | value ∈ ranges ∧
        first.stop ≤ value ∨ range.start ≤ value ∧ value < range.stop} := by
      ext value
      have replaced := @mem_replaced ranges range first rest popped apart' nonempty value
      rw [← dropped, ← limited] at replaced
      exact replaced
    have highest : keepHighest limit ({value | value ∈ ranges} ∪ Set.Ico range.start range.stop) =
        beyondFirstGap ({value | value ∈ ranges} ∪ Set.Ico range.start range.stop) := by
      ext value
      change limit ≤ ranges.len at full
      exact ⟨fun member => member.2 (by omega), fun member => ⟨member.1, fun _ => member⟩⟩
    rw [kept, highest]
    constructor
    · intro equal _ lowest
      refine not_beyond_of_lowest lowest ?_
      rw [← equal]
      exact .inr ⟨le_refl _, nonempty⟩
    · intro clear
      have above := clear (le_antisymm few full)
      exact beyondFirstGap_eq popped (behind_of_not_lowest popped nonempty apart' above)

private theorem len_insert (limited : ranges.capacity = some limit) (positive : 0 < limit)
    (few : ranges.len ≤ limit) : (ranges.insert range).len ≤ limit := by
  have bound := @Ranges.size_insert _ range _ few positive
  rwa [← limited] at bound

/-! ## Removals -/

/-- Where ranges begin after a removal. -/
theorem heads_remove {value : Nat} (head : value ∈ heads {value | value ∈ ranges.remove range}) :
    value ∈ heads {value | value ∈ ranges} ∧ ¬ (range.start ≤ value ∧ value < range.stop) ∨
      value = range.stop ∧ range.start < range.stop ∧
        ∃ stored ∈ ranges.iter, stored.start < range.stop ∧ range.stop < stored.stop := by
  obtain ⟨member, first⟩ := head
  obtain ⟨member, outside⟩ := mem_remove.mp member
  by_cases begins : ∀ before, before + 1 = value → before ∉ ranges
  · exact .inl ⟨⟨member, begins⟩, outside⟩
  · push Not at begins
    obtain ⟨before, rfl, cut⟩ := begins
    have inside : range.start ≤ before ∧ before < range.stop := by
      by_contra kept
      exact first before rfl (mem_remove.mpr ⟨cut, kept⟩)
    obtain ⟨stored, listed, lower, upper⟩ := mem_iff_range.mp cut
    refine .inr ⟨by omega, by omega, stored, listed, by omega, ?_⟩
    by_contra ends
    have stops : stored.stop = before + 1 := by omega
    exact (mem_iter_iff.mp listed).2.2.2 (stops ▸ member)

private theorem len_remove_splits (splits : Splits ranges range) :
    ranges.len < (ranges.remove range).len := by
  obtain ⟨nonempty, stored, listed, begins, ends⟩ := splits
  have inside : ∀ value, stored.start ≤ value → value < stored.stop → value ∈ ranges :=
    fun value lower upper => mem_iff_range.mpr ⟨stored, listed, lower, upper⟩
  rw [len_eq_heads, len_eq_heads]
  refine Set.ncard_lt_ncard ⟨fun value head => ?_, fun back => ?_⟩ (heads_finite _)
  · have outside : ¬ (range.start ≤ value ∧ value < range.stop) := by
      intro cut
      exact head.2 (value - 1) (by omega) (inside (value - 1) (by omega) (by omega))
    refine ⟨mem_remove.mpr ⟨head.1, outside⟩, fun before next member => ?_⟩
    exact head.2 before next (mem_remove.mp member).1
  · have new : range.stop ∈ heads {value | value ∈ ranges.remove range} := by
      refine ⟨mem_remove.mpr ⟨inside range.stop (by omega) ends, by omega⟩, ?_⟩
      intro before next member
      exact (mem_remove.mp member).2 ⟨by omega, by omega⟩
    exact (back new).2 (range.stop - 1) (by omega) (inside _ (by omega) (by omega))

private theorem len_remove_le : (ranges.remove range).len ≤ ranges.len + 1 := by
  have included : heads {value | value ∈ ranges.remove range} ⊆
      Insert.insert range.stop (heads {value | value ∈ ranges}) := by
    intro value head
    rcases heads_remove head with old | new
    · exact .inr old.1
    · exact .inl new.1
  rw [len_eq_heads, len_eq_heads]
  refine (Set.ncard_le_ncard included ((heads_finite ranges).insert _)).trans ?_
  exact Set.ncard_insert_le _ _

private theorem len_remove_of_not_splits (whole : ¬ Splits ranges range) :
    (ranges.remove range).len ≤ ranges.len := by
  rw [len_eq_heads, len_eq_heads]
  by_cases added : range.start < range.stop ∧
      ∃ stored ∈ ranges.iter, stored.start < range.stop ∧ range.stop < stored.stop
  · obtain ⟨nonempty, stored, listed, begins, ends⟩ := added
    have cut : range.start ≤ stored.start := by
      by_contra before
      exact whole ⟨nonempty, stored, listed, by omega, ends⟩
    obtain ⟨filled, inside, first, _⟩ := mem_iter_iff.mp listed
    have head : stored.start ∈ heads {value | value ∈ ranges} :=
      ⟨inside _ (le_refl _) filled, first⟩
    have included : heads {value | value ∈ ranges.remove range} ⊆
        Insert.insert range.stop (heads {value | value ∈ ranges} \ {stored.start}) := by
      intro value kept
      rcases heads_remove kept with ⟨old, outside⟩ | new
      · refine .inr ⟨old, fun same => outside ?_⟩
        rw [Set.mem_singleton_iff.mp same]
        exact ⟨cut, begins⟩
      · exact .inl new.1
    calc
      _ ≤ (Insert.insert range.stop (heads {value | value ∈ ranges} \ {stored.start})).ncard :=
        Set.ncard_le_ncard included ((heads_finite ranges).sdiff.insert _)
      _ ≤ (heads {value | value ∈ ranges} \ {stored.start}).ncard + 1 := Set.ncard_insert_le _ _
      _ = (heads {value | value ∈ ranges}).ncard :=
        Set.ncard_sdiff_singleton_add_one head (heads_finite ranges)
  · refine Set.ncard_le_ncard (fun value head => ?_) (heads_finite ranges)
    rcases heads_remove head with old | new
    · exact old.1
    · exact absurd new.2 added

private theorem len_remove_le_iff (few : ranges.len ≤ limit) :
    (ranges.remove range).len ≤ limit ↔ (ranges.len = limit → ¬ Splits ranges range) := by
  constructor
  · intro bounded full splits
    have more := len_remove_splits splits
    omega
  · intro clear
    rcases few.lt_or_eq with room | full
    · exact len_remove_le.trans room
    · exact (len_remove_of_not_splits (clear full)).trans few

/-! ## Runs -/

private theorem capacity_apply (ranges : RangeSet) (op : Op) :
    (op.apply ranges).capacity = ranges.capacity := by
  cases op with
  | removeUntil elem => exact capacity_removeUntil ranges elem
  | popMin => exact capacity_popMin ranges
  | _ => rfl

private theorem len_popMin (ranges : RangeSet) : ranges.popMin.2.len ≤ ranges.len := by
  unfold popMin
  cases ranges.peekMin with
  | none => exact le_refl _
  | some range => exact ranges.set.size_erase_le range.start

theorem withinLimit_iff (limited : ranges.capacity = some limit) (positive : 0 < limit)
    (few : ranges.len ≤ limit) (op : Op) : WithinLimit limit ranges op ↔ Takes limit ranges op := by
  have fits : ranges.Fits := by
    intro other same
    rw [limited] at same
    cases same
    exact ⟨few, positive⟩
  have inserts : ∀ range, WithinLimit limit ranges (.insert range) ↔
      (ranges.len = limit → ¬ Lowest ranges range) := by
    intro range
    rw [← insert_keepHighest_iff limited positive few]
    constructor
    · exact fun within => within.2 range rfl
    · intro kept
      refine ⟨len_insert limited positive few, fun other same => ?_⟩
      cases same
      exact kept
  have removes : ∀ range, WithinLimit limit ranges (.remove range) ↔
      (ranges.len = limit → ¬ Splits ranges range) := by
    intro range
    rw [← len_remove_le_iff few]
    exact ⟨fun within => within.1, fun bounded => ⟨bounded, fun _ absent => by cases absent⟩⟩
  have harmless : ∀ {op : Op}, op.inserted = none → op.removed = none →
      (op.apply ranges).len ≤ limit → (WithinLimit limit ranges op ↔ Takes limit ranges op) := by
    intro op noInsert noRemove bounded
    refine iff_of_true ⟨bounded, fun range same => ?_⟩ fun _ => ⟨fun range same => ?_, fun range same => ?_⟩
    · rw [noInsert] at same
      cases same
    · rw [noInsert] at same
      cases same
    · rw [noRemove] at same
      cases same
  cases op with
  | insert range => simpa [Takes, Op.inserted, Op.removed] using inserts range
  | addElem elem =>
      simpa [Takes, WithinLimit, Op.inserted, Op.removed, Op.apply, addElem] using
        inserts ⟨elem, elem + 1⟩
  | remove range => simpa [Takes, Op.inserted, Op.removed] using removes range
  | removeElem elem =>
      simpa [Takes, WithinLimit, Op.inserted, Op.removed, Op.apply, removeElem] using
        removes ⟨elem, elem + 1⟩
  | removeUntil elem =>
      refine harmless rfl rfl ?_
      exact ((fits.removeUntil elem) limit ((capacity_removeUntil ranges elem).trans limited)).1
  | popMin => exact harmless rfl rfl ((len_popMin ranges).trans few)

/-- The operations of a run keep a set within its limit, and forget the lowest range of a union
only, if and only if none of them is one that a full set cannot take. -/
theorem within_limit_iff (positive : 0 < limit) (ops : List Op) :
    Along (fun ranges op => op.apply ranges) (WithinLimit limit) (new (some limit)) ops ↔
      Along (fun ranges op => op.apply ranges) (Takes limit) (new (some limit)) ops := by
  refine @along_iff _ _ _ _ _ (fun ranges => ranges.capacity = some limit ∧ ranges.len ≤ limit) _
    (fun ranges op _ start => withinLimit_iff start.1 positive start.2 op)
    (fun ranges op _ start takes => ?_) _ ⟨rfl, Nat.zero_le _⟩
  exact ⟨(capacity_apply ranges op).trans start.1,
    ((withinLimit_iff start.1 positive start.2 op).mpr takes).1⟩

end Limited

/-- A full set takes a range above its lowest one. -/
theorem within_limit_high :
    Along (fun ranges op => op.apply ranges) (WithinLimit 1) (new (some 1))
      [.insert ⟨5, 6⟩, .insert ⟨8, 9⟩] := by
  refine (within_limit_iff (by decide) _).mpr ⟨?_, ?_, trivial⟩
  · intro full
    exact absurd full (by decide)
  · refine fun _ => ⟨fun range same => ?_, fun range same => by cases same⟩
    cases same
    intro lowest
    exact absurd (lowest.2 ⟨5, 6⟩ (by decide)) (by decide)

/-- A removal from the middle of a range makes two of it, and a range below all others replaces a
higher one. -/
theorem limit_not_kept :
    ¬ (∀ limit ops, 0 < limit →
        Along (fun ranges op => op.apply ranges) (WithinLimit limit) (new (some limit)) ops) ∧
      (((new (some 1)).insert ⟨0, 10⟩).remove ⟨3, 5⟩).len = 2 ∧
      ¬ WithinLimit 1 ((new (some 1)).insert ⟨5, 6⟩) (.insert ⟨1, 2⟩) := by
  refine ⟨fun all => ?_, rfl, fun within => ?_⟩
  · have run := all 1 [.insert ⟨0, 10⟩, .remove ⟨3, 5⟩] (by decide)
    exact absurd run.2.1.1 (by decide)
  · have takes := (@withinLimit_iff _ 1 rfl (by decide) (by decide) _).mp within rfl
    exact takes.1 ⟨1, 2⟩ rfl ⟨by decide, by decide⟩

end RangeSet

end Tquic
