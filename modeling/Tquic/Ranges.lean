import Tquic.Lib.OrdMap

/-! Sets of packet numbers and stream offsets kept as half-open ranges, after
`ranges.rs`. Every function works on the map from range starts to range ends, as
the source does; that neighbouring ranges never touch is a field of `RangeSet`. -/

set_option autoImplicit false

namespace Tquic

open Lib

/-- A half-open range `[start, stop)`. -/
structure Range where
  start : Nat
  stop : Nat
  deriving DecidableEq, Repr

def Range.isEmpty (range : Range) : Bool := range.stop ≤ range.start

/-- Ranges are non-empty and separated by at least one missing value. -/
structure Separated (set : OrdMap Nat Nat) : Prop where
  nonempty : ∀ entry ∈ set, entry.1 < entry.2
  apart : ∀ left ∈ set, ∀ right ∈ set, left.1 < right.1 → left.2 < right.1

/-- The values denoted by a map of ranges. -/
def Covers (set : OrdMap Nat Nat) (value : Nat) : Prop :=
  ∃ entry ∈ set, entry.1 ≤ value ∧ value < entry.2

theorem Separated.empty : Separated ∅ := ⟨by simp, by simp⟩

theorem Separated.erase {set : OrdMap Nat Nat} (separated : Separated set) (key : Nat) :
    Separated (set.erase key) := by
  constructor
  · intro entry member
    exact separated.nonempty entry (OrdMap.mem_erase.mp member).1
  · intro left leftMember right rightMember
    exact separated.apart left (OrdMap.mem_erase.mp leftMember).1 right
      (OrdMap.mem_erase.mp rightMember).1

theorem Separated.erase_before {set : OrdMap Nat Nat} (separated : Separated set)
    {entry : Nat × Nat} (member : entry ∈ set) :
    ∀ other ∈ set.erase entry.1, other.1 < entry.1 → other.2 < entry.1 :=
  fun other present less => separated.apart other (OrdMap.mem_erase.mp present).1 entry member less

theorem Separated.popFirst {set : OrdMap Nat Nat} (separated : Separated set) :
    Separated set.popFirst := by
  cases found : set.first? with
  | none =>
      have vacant : set.entries = [] := by simpa [OrdMap.first?] using found
      constructor <;> simp [OrdMap.mem_def, OrdMap.popFirst, vacant]
  | some entry =>
      rw [OrdMap.popFirst_eq_erase found]
      exact separated.erase entry.1

namespace Ranges

/-- The merging loop of `insert`: absorb the following ranges that overlap or
touch `[start, stop)`. Every round removes a range, so `set.size` rounds suffice. -/
def insertLoop : Nat → OrdMap Nat Nat → Nat → Nat → OrdMap Nat Nat × Nat
  | 0, set, _, stop => (set, stop)
  | fuel + 1, set, start, stop =>
      match set.firstGE? start with
      | none => (set, stop)
      | some (nextStart, nextStop) =>
          if nextStart > stop then (set, stop)
          else insertLoop fuel (set.erase nextStart) start (max nextStop stop)

/-- The part of `insert` after the preceding range was merged. -/
def insertFrom (capacity : Option Nat) (set : OrdMap Nat Nat) (range : Range) : OrdMap Nat Nat :=
  let merged := insertLoop set.size set range.start range.stop
  -- If the set is full, remove the first range.
  let kept := if capacity.any (fun limit => limit ≤ merged.1.size) then merged.1.popFirst
    else merged.1
  kept.insert range.start merged.2

def insert (capacity : Option Nat) (set : OrdMap Nat Nat) (range : Range) : OrdMap Nat Nat :=
  if range.isEmpty then set
  else
    match set.lastLE? range.start with
    | some (prevStart, prevStop) =>
        if prevStop ≥ range.stop then set
        else if prevStop ≥ range.start then
          insertFrom capacity (set.erase prevStart) ⟨prevStart, range.stop⟩
        else insertFrom capacity set range
    | none => insertFrom capacity set range

/-- The loop of `remove` over the ranges that begin inside `[start, stop]`. -/
def removeLoop : Nat → OrdMap Nat Nat → Nat → Nat → OrdMap Nat Nat
  | 0, set, _, _ => set
  | fuel + 1, set, start, stop =>
      match set.firstGE? start with
      | none => set
      | some (nextStart, nextStop) =>
          if nextStart > stop then set
          else if nextStop > stop then (set.erase nextStart).insert stop nextStop
          else removeLoop fuel (set.erase nextStart) start stop

/-- Cut `range` out of the preceding range, keeping what sticks out on either side. -/
def trimPrev (set : OrdMap Nat Nat) (prevStart prevStop : Nat) (range : Range) : OrdMap Nat Nat :=
  let removed := set.erase prevStart
  let front :=
    if prevStart < range.start then removed.insert prevStart range.start else removed
  if prevStop > range.stop then front.insert range.stop prevStop else front

def remove (set : OrdMap Nat Nat) (range : Range) : OrdMap Nat Nat :=
  if set.isEmpty || range.isEmpty then set
  else
    match set.lastLE? range.start with
    | some (prevStart, prevStop) =>
        if prevStop > range.start then
          let trimmed := trimPrev set prevStart prevStop range
          -- The following ranges would not overlap with the given range.
          if prevStop ≥ range.stop then trimmed
          else removeLoop trimmed.size trimmed range.start range.stop
        else removeLoop set.size set range.start range.stop
    | none => removeLoop set.size set range.start range.stop

/-! ## The loops keep ranges separated and denote union and difference -/

variable {set : OrdMap Nat Nat}

/-- The loop absorbs the ranges that touch the new one. -/
theorem insertLoop_spec {fuel : Nat} {start stop : Nat}
    (separated : Separated set) (enough : set.size ≤ fuel) (below : start < stop)
    (before : ∀ entry ∈ set, entry.1 < start → entry.2 < start) :
    stop ≤ (insertLoop fuel set start stop).2 ∧
      (∀ entry, entry ∈ (insertLoop fuel set start stop).1 ↔
        entry ∈ set ∧ (entry.1 < start ∨ (insertLoop fuel set start stop).2 < entry.1)) ∧
      (∀ entry ∈ set, start ≤ entry.1 → entry.1 ≤ (insertLoop fuel set start stop).2 →
        entry.2 ≤ (insertLoop fuel set start stop).2) ∧
      ∀ value, start ≤ value → value < (insertLoop fuel set start stop).2 →
        value < stop ∨ Covers set value := by
  induction fuel generalizing set stop with
  | zero =>
      have vacant : set.entries = [] := List.length_eq_zero_iff.mp (Nat.le_zero.mp enough)
      refine ⟨le_refl _, ?_, ?_, fun value _ less => .inl less⟩ <;>
        simp [insertLoop, OrdMap.mem_def, vacant]
  | succ fuel ih =>
      cases found : set.firstGE? start with
      | none =>
          have none_above := OrdMap.firstGE?_eq_none_iff.mp found
          simp only [insertLoop, found]
          refine ⟨le_refl _, ?_, ?_, fun value _ less => .inl less⟩
          · intro entry
            exact ⟨fun member => ⟨member, .inl (none_above entry member)⟩, fun member => member.1⟩
          · intro entry member above
            exact absurd (none_above entry member) (by omega)
      | some next =>
          obtain ⟨nextStart, nextStop⟩ := next
          obtain ⟨member, above, least⟩ := OrdMap.firstGE?_spec found
          simp only at above least
          simp only [insertLoop, found]
          split_ifs with far
          · refine ⟨le_refl _, ?_, ?_, fun value _ less => .inl less⟩
            · intro entry
              refine ⟨fun present => ⟨present, ?_⟩, fun present => present.1⟩
              rcases Nat.lt_or_ge entry.1 start with less | greater
              · exact .inl less
              · exact .inr (lt_of_lt_of_le far (least entry present greater))
            · intro entry present greater near
              have := least entry present greater
              omega
          · have filled := separated.nonempty _ member
            simp only at filled
            obtain ⟨grows, members, absorbed, covered⟩ := ih (separated.erase nextStart)
              (by have := OrdMap.size_erase_lt member; simp only at this; omega)
              (show start < max nextStop stop by omega)
              (fun entry present => before entry (OrdMap.mem_erase.mp present).1)
            refine ⟨by omega, ?_, ?_, ?_⟩
            · intro entry
              rw [members, OrdMap.mem_erase]
              constructor
              · rintro ⟨⟨present, _⟩, place⟩
                exact ⟨present, place⟩
              · rintro ⟨present, place⟩
                refine ⟨⟨present, ?_⟩, place⟩
                intro same
                omega
            · intro entry present greater near
              by_cases same : entry.1 = nextStart
              · have equal := OrdMap.mem_unique present member same
                subst equal
                simp only
                omega
              · exact absorbed entry (OrdMap.mem_erase.mpr ⟨present, same⟩) greater near
            · intro value lower upper
              rcases covered value lower upper with less | ⟨entry, present, inside⟩
              · rcases Nat.lt_or_ge value stop with small | large
                · exact .inl small
                · exact .inr ⟨_, member, by simp only; omega, by simp only; omega⟩
              · exact .inr ⟨entry, (OrdMap.mem_erase.mp present).1, inside⟩

/-- The loop takes the values out of the ranges that begin within. -/
theorem removeLoop_spec {fuel : Nat} {start stop : Nat}
    (separated : Separated set) (enough : set.size ≤ fuel) (below : start < stop)
    (before : ∀ entry ∈ set, entry.1 < start → entry.2 ≤ start) :
    Separated (removeLoop fuel set start stop) ∧
      ∀ value, Covers (removeLoop fuel set start stop) value ↔
        Covers set value ∧ ¬ (start ≤ value ∧ value < stop) := by
  induction fuel generalizing set with
  | zero =>
      have vacant : set.entries = [] := List.length_eq_zero_iff.mp (Nat.le_zero.mp enough)
      refine ⟨separated, fun value => ?_⟩
      simp [removeLoop, Covers, OrdMap.mem_def, vacant]
  | succ fuel ih =>
      cases found : set.firstGE? start with
      | none =>
          have none_above := OrdMap.firstGE?_eq_none_iff.mp found
          simp only [removeLoop, found]
          refine ⟨separated, fun value => ⟨?_, fun covered => covered.1⟩⟩
          rintro ⟨entry, member, inside⟩
          have := before entry member (none_above entry member)
          exact ⟨⟨entry, member, inside⟩, by omega⟩
      | some next =>
          obtain ⟨nextStart, nextStop⟩ := next
          obtain ⟨member, above, least⟩ := OrdMap.firstGE?_spec found
          have filled := separated.nonempty _ member
          simp only at above least filled
          simp only [removeLoop, found]
          split_ifs with far crossing
          · refine ⟨separated, fun value => ⟨?_, fun covered => covered.1⟩⟩
            rintro ⟨entry, present, inside⟩
            refine ⟨⟨entry, present, inside⟩, ?_⟩
            rcases Nat.lt_or_ge entry.1 start with less | greater
            · have := before entry present less
              omega
            · have := least entry present greater
              omega
          · -- The last range reaches past the removed one: keep its tail.
            have later : ∀ entry ∈ set, entry.1 ≠ nextStart → start ≤ entry.1 →
                nextStop < entry.1 := by
              intro entry present different greater
              exact separated.apart _ member entry present
                (lt_of_le_of_ne (least entry present greater) different.symm)
            have place : ∀ entry ∈ set.erase nextStart,
                entry.2 ≤ start ∨ nextStop < entry.1 := by
              intro entry present
              obtain ⟨present, different⟩ := OrdMap.mem_erase.mp present
              rcases Nat.lt_or_ge entry.1 start with less | greater
              · exact .inl (before entry present less)
              · exact .inr (later entry present different greater)
            refine ⟨⟨?_, ?_⟩, fun value => ⟨?_, ?_⟩⟩
            · intro entry present
              rcases OrdMap.mem_insert.mp present with rfl | ⟨present, _⟩
              · exact crossing
              · exact separated.nonempty entry (OrdMap.mem_erase.mp present).1
            · intro left leftMember right rightMember less
              rcases OrdMap.mem_insert.mp leftMember with rfl | ⟨leftOld, _⟩ <;>
                rcases OrdMap.mem_insert.mp rightMember with rfl | ⟨rightOld, _⟩
              · exact absurd less (lt_irrefl _)
              · have := separated.nonempty _ (OrdMap.mem_erase.mp rightOld).1
                rcases place right rightOld with low | high <;> simp only at less ⊢ <;> omega
              · have := separated.nonempty _ (OrdMap.mem_erase.mp leftOld).1
                rcases place left leftOld with low | high <;> simp only at less ⊢ <;> omega
              · exact separated.apart left (OrdMap.mem_erase.mp leftOld).1 right
                  (OrdMap.mem_erase.mp rightOld).1 less
            · rintro ⟨entry, present, inside⟩
              rcases OrdMap.mem_insert.mp present with rfl | ⟨old, _⟩
              · simp only at inside
                exact ⟨⟨_, member, by simp only; omega, by simp only; omega⟩, by omega⟩
              · refine ⟨⟨entry, (OrdMap.mem_erase.mp old).1, inside⟩, ?_⟩
                rcases place entry old with low | high <;> omega
            · rintro ⟨⟨entry, present, inside⟩, outside⟩
              by_cases same : entry.1 = nextStart
              · have equal := OrdMap.mem_unique present member same
                subst equal
                simp only at inside
                exact ⟨(stop, nextStop), by simp, by simp only; omega, by simp only; omega⟩
              · have old : entry ∈ set.erase nextStart := OrdMap.mem_erase.mpr ⟨present, same⟩
                refine ⟨entry, OrdMap.mem_insert.mpr (.inr ⟨old, ?_⟩), inside⟩
                have := separated.nonempty entry present
                rcases place entry old with low | high <;> omega
          · obtain ⟨kept, covered⟩ := ih (separated.erase nextStart)
              (by have := OrdMap.size_erase_lt member; simp only at this; omega)
              (fun entry present => before entry (OrdMap.mem_erase.mp present).1)
            refine ⟨kept, fun value => ?_⟩
            rw [covered]
            constructor
            · rintro ⟨⟨entry, present, inside⟩, outside⟩
              exact ⟨⟨entry, (OrdMap.mem_erase.mp present).1, inside⟩, outside⟩
            · rintro ⟨⟨entry, present, inside⟩, outside⟩
              refine ⟨⟨entry, OrdMap.mem_erase.mpr ⟨present, ?_⟩, inside⟩, outside⟩
              intro same
              have equal := OrdMap.mem_unique present member same
              subst equal
              simp only at inside
              omega

theorem insertFrom_separated {range : Range} (capacity : Option Nat)
    (separated : Separated set) (below : range.start < range.stop)
    (before : ∀ entry ∈ set, entry.1 < range.start → entry.2 < range.start) :
    Separated (insertFrom capacity set range) := by
  obtain ⟨grows, members, _, _⟩ := insertLoop_spec separated (le_refl _) below before
  have merged : Separated (insertLoop set.size set range.start range.stop).1 := by
    constructor
    · intro entry member
      exact separated.nonempty entry ((members entry).mp member).1
    · intro left leftMember right rightMember
      exact separated.apart left ((members left).mp leftMember).1 right
        ((members right).mp rightMember).1
  have place : ∀ kept : OrdMap Nat Nat, (∀ entry ∈ kept, entry ∈
      (insertLoop set.size set range.start range.stop).1) → Separated kept →
      Separated (kept.insert range.start (insertLoop set.size set range.start range.stop).2) := by
    intro kept included separatedKept
    have outside : ∀ entry ∈ kept, entry.2 < range.start ∨
        (insertLoop set.size set range.start range.stop).2 < entry.1 := by
      intro entry member
      obtain ⟨present, low | high⟩ := (members entry).mp (included entry member)
      · exact .inl (before entry present low)
      · exact .inr high
    constructor
    · intro entry member
      rcases OrdMap.mem_insert.mp member with rfl | ⟨old, _⟩
      · simp only
        omega
      · exact separatedKept.nonempty entry old
    · intro left leftMember right rightMember less
      rcases OrdMap.mem_insert.mp leftMember with rfl | ⟨leftOld, _⟩ <;>
        rcases OrdMap.mem_insert.mp rightMember with rfl | ⟨rightOld, _⟩
      · exact absurd less (lt_irrefl _)
      · have := separatedKept.nonempty right rightOld
        rcases outside right rightOld with low | high <;> simp only at less ⊢ <;> omega
      · have := separatedKept.nonempty left leftOld
        rcases outside left leftOld with low | high <;> simp only at less ⊢ <;> omega
      · exact separatedKept.apart left leftOld right rightOld less
  rw [insertFrom]
  split_ifs
  · refine place _ ?_ merged.popFirst
    intro entry member
    exact List.mem_of_mem_tail member
  · exact place _ (fun _ member => member) merged

/-- The range is empty, inside a stored one, extends a stored one that it touches from the right,
or begins behind everything that is stored before it. -/
theorem insert_cases (separated : Separated set) (range : Range) :
    (range.stop ≤ range.start ∧ ∀ capacity, insert capacity set range = set) ∨
      (∃ entry ∈ set, entry.1 ≤ range.start ∧ range.stop ≤ entry.2 ∧
        ∀ capacity, insert capacity set range = set) ∨
      (∃ entry ∈ set, entry.1 ≤ range.start ∧ range.start ≤ entry.2 ∧ entry.2 < range.stop ∧
        ∀ capacity, insert capacity set range =
          insertFrom capacity (set.erase entry.1) ⟨entry.1, range.stop⟩) ∨
      range.start < range.stop ∧ (∀ entry ∈ set, entry.1 < range.start → entry.2 < range.start) ∧
        ∀ capacity, insert capacity set range = insertFrom capacity set range := by
  by_cases vacant : range.isEmpty = true
  · exact .inl ⟨by simpa [Range.isEmpty] using vacant, fun _ => if_pos vacant⟩
  have below : range.start < range.stop := by simpa [Range.isEmpty] using vacant
  simp only [insert, if_neg vacant]
  cases found : set.lastLE? range.start with
  | none =>
      have above := OrdMap.lastLE?_eq_none_iff.mp found
      refine .inr (.inr (.inr ⟨below, fun entry member less => ?_, fun _ => rfl⟩))
      exact absurd (above entry member) (by omega)
  | some prev =>
      obtain ⟨prevStart, prevStop⟩ := prev
      obtain ⟨member, low, greatest⟩ := OrdMap.lastLE?_spec found
      simp only at low greatest
      by_cases covers : prevStop ≥ range.stop
      · exact .inr (.inl ⟨_, member, low, covers, fun _ => if_pos covers⟩)
      by_cases touches : prevStop ≥ range.start
      · exact .inr (.inr (.inl ⟨_, member, low, touches, Nat.lt_of_not_le covers,
          fun _ => (if_neg covers).trans (if_pos touches)⟩))
      · refine .inr (.inr (.inr ⟨below, fun entry present less => ?_,
          fun _ => (if_neg covers).trans (if_neg touches)⟩))
        rcases (greatest entry present less.le).lt_or_eq with before | same
        · have := separated.apart entry present _ member before
          have := separated.nonempty _ member
          simp only at this
          omega
        · rw [OrdMap.mem_unique present member same]
          exact Nat.lt_of_not_le touches

theorem insert_separated (capacity : Option Nat) (separated : Separated set) (range : Range) :
    Separated (insert capacity set range) := by
  rcases insert_cases separated range with ⟨_, same⟩ | ⟨_, _, _, _, same⟩ |
    ⟨entry, member, _, _, longer, same⟩ | ⟨below, before, same⟩
  · rw [same]
    exact separated
  · rw [same]
    exact separated
  · have extended : entry.1 < range.stop := (separated.nonempty entry member).trans longer
    rw [same]
    exact insertFrom_separated capacity (separated.erase entry.1) extended
      (separated.erase_before member)
  · rw [same]
    exact insertFrom_separated capacity separated below before

section

variable (separated : Separated set)

include separated

theorem insertFrom_covers {range : Range} (below : range.start < range.stop)
    (before : ∀ entry ∈ set, entry.1 < range.start → entry.2 < range.start) (value : Nat) :
    Covers (insertFrom none set range) value ↔
      Covers set value ∨ range.start ≤ value ∧ value < range.stop := by
  obtain ⟨grows, members, absorbed, covered⟩ := insertLoop_spec separated (le_refl _) below before
  simp only [insertFrom, Option.any_none, Bool.false_eq_true, ↓reduceIte]
  constructor
  · rintro ⟨entry, member, inside⟩
    rcases OrdMap.mem_insert.mp member with rfl | ⟨old, _⟩
    · rcases covered value inside.1 inside.2 with less | included
      · exact .inr ⟨inside.1, less⟩
      · exact .inl included
    · exact .inl ⟨entry, ((members entry).mp old).1, inside⟩
  · rintro (⟨entry, present, inside⟩ | ⟨lower, upper⟩)
    · by_cases kept : entry.1 < range.start ∨
          (insertLoop set.size set range.start range.stop).2 < entry.1
      · refine ⟨entry, OrdMap.mem_insert.mpr (.inr ⟨(members entry).mpr ⟨present, kept⟩, ?_⟩),
          inside⟩
        omega
      · -- An absorbed range lies inside the merged one.
        have := absorbed entry present (by omega) (by omega)
        exact ⟨_, OrdMap.mem_insert.mpr (.inl rfl), by simp only; omega, by simp only; omega⟩
    · exact ⟨_, OrdMap.mem_insert.mpr (.inl rfl), lower, by simp only; omega⟩

/-- Insertion covers the old values and those of the range. -/
theorem insert_covers (range : Range) (value : Nat) :
    Covers (insert none set range) value ↔
      Covers set value ∨ range.start ≤ value ∧ value < range.stop := by
  rcases insert_cases separated range with ⟨empty, same⟩ | ⟨entry, member, low, covers, same⟩ |
    ⟨prev, member, low, touches, longer, same⟩ | ⟨below, before, same⟩
  · rw [same]
    exact ⟨.inl, fun covered => covered.elim id (fun inside => by omega)⟩
  · rw [same]
    refine ⟨.inl, fun covered => covered.elim id (fun inside => ?_)⟩
    exact ⟨entry, member, by omega, by omega⟩
  · have extended : prev.1 < range.stop := (separated.nonempty prev member).trans longer
    rw [same, insertFrom_covers (separated.erase prev.1) extended (separated.erase_before member)]
    constructor
    · rintro (⟨entry, present, inside⟩ | inside)
      · exact .inl ⟨entry, (OrdMap.mem_erase.mp present).1, inside⟩
      · simp only at inside
        rcases Nat.lt_or_ge value range.start with less | greater
        · exact .inl ⟨prev, member, by omega, by omega⟩
        · exact .inr ⟨greater, inside.2⟩
    · rintro (⟨entry, present, inside⟩ | inside)
      · by_cases same : entry.1 = prev.1
        · have equal := OrdMap.mem_unique present member same
          subst equal
          exact .inr ⟨inside.1, by simp only; omega⟩
        · exact .inl ⟨entry, OrdMap.mem_erase.mpr ⟨present, same⟩, inside⟩
      · exact .inr ⟨by simp only; omega, inside.2⟩
  · rw [same]
    exact insertFrom_covers separated below before value

/-- The range in front is cut off where the removed one begins. -/
theorem trimPrev_spec
    {prevStart prevStop : Nat} {range : Range} (member : (prevStart, prevStop) ∈ set)
    (below : range.start < range.stop) (low : prevStart ≤ range.start)
    (overlaps : range.start < prevStop) :
    Separated (trimPrev set prevStart prevStop range) ∧
      (∀ entry ∈ trimPrev set prevStart prevStop range, entry.1 < range.start →
        entry.2 ≤ range.start) ∧
      ∀ value, Covers (trimPrev set prevStart prevStop range) value ↔
        Covers set value ∧ ¬ (range.start ≤ value ∧ value < range.stop ∧ value < prevStop) := by
  have place : ∀ entry ∈ set, entry.1 ≠ prevStart →
      entry.2 < prevStart ∨ prevStop < entry.1 := by
    intro entry present different
    rcases Nat.lt_or_gt_of_ne different with less | greater
    · exact .inl (separated.apart entry present _ member less)
    · exact .inr (separated.apart _ member entry present greater)
  have members : ∀ entry, entry ∈ trimPrev set prevStart prevStop range ↔
      entry ∈ set ∧ entry.1 ≠ prevStart ∨
        prevStart < range.start ∧ entry = (prevStart, range.start) ∨
        range.stop < prevStop ∧ entry = (range.stop, prevStop) := by
    intro entry
    have filled : entry ∈ set → entry.1 < entry.2 := separated.nonempty entry
    have apart := place entry
    simp only [trimPrev]
    split_ifs with rear front front <;> simp only [OrdMap.mem_insert, OrdMap.mem_erase] <;> grind
  have bounds : ∀ entry ∈ trimPrev set prevStart prevStop range,
      entry.1 < entry.2 ∧
        (entry.2 < prevStart ∨ prevStop < entry.1 ∨
          entry = (prevStart, range.start) ∧ prevStart < range.start ∨
          entry = (range.stop, prevStop) ∧ range.stop < prevStop) := by
    intro entry present
    rcases (members entry).mp present with ⟨old, different⟩ | ⟨front, rfl⟩ | ⟨rear, rfl⟩
    · have := place entry old different
      exact ⟨separated.nonempty entry old, by tauto⟩
    · exact ⟨front, by simp [front]⟩
    · exact ⟨rear, by simp [rear]⟩
  refine ⟨⟨fun entry present => (bounds entry present).1, ?_⟩, ?_, fun value => ?_⟩
  · intro left leftMember right rightMember less
    rcases (members left).mp leftMember with ⟨leftOld, leftNew⟩ | ⟨_, rfl⟩ | ⟨_, rfl⟩ <;>
      rcases (members right).mp rightMember with ⟨rightOld, rightNew⟩ | ⟨_, rfl⟩ | ⟨_, rfl⟩
    · exact separated.apart left leftOld right rightOld less
    · have := place left leftOld leftNew
      simp only at less ⊢
      omega
    · have := place left leftOld leftNew
      have := separated.nonempty left leftOld
      simp only at less ⊢
      omega
    · have := place right rightOld rightNew
      have := separated.nonempty right rightOld
      simp only at less ⊢
      omega
    · exact absurd less (lt_irrefl _)
    · exact below
    · have := place right rightOld rightNew
      have := separated.nonempty right rightOld
      simp only at less ⊢
      omega
    · simp only at less
      omega
    · exact absurd less (lt_irrefl _)
  · intro entry present less
    have := bounds entry present
    grind
  · constructor
    · rintro ⟨entry, present, inside⟩
      have := bounds entry present
      rcases (members entry).mp present with ⟨old, different⟩ | ⟨front, rfl⟩ | ⟨rear, rfl⟩
      · exact ⟨⟨entry, old, inside⟩, by grind⟩
      · exact ⟨⟨_, member, by simp only at inside ⊢; omega, by simp only at inside ⊢; omega⟩,
          by simp only at inside; omega⟩
      · exact ⟨⟨_, member, by simp only at inside ⊢; omega, by simp only at inside ⊢; omega⟩,
          by simp only at inside; omega⟩
    · rintro ⟨⟨entry, present, inside⟩, outside⟩
      by_cases same : entry.1 = prevStart
      · have equal := OrdMap.mem_unique present member same
        subst equal
        simp only at inside
        rcases Nat.lt_or_ge value range.start with less | greater
        · exact ⟨_, (members _).mpr (.inr (.inl ⟨by omega, rfl⟩)), inside.1, less⟩
        · exact ⟨_, (members _).mpr (.inr (.inr ⟨by omega, rfl⟩)), by simp only; omega, inside.2⟩
      · exact ⟨entry, (members entry).mpr (.inl ⟨present, same⟩), inside⟩

/-- Removal covers the old values outside the range. -/
theorem remove_spec (range : Range) :
    Separated (remove set range) ∧
      ∀ value, Covers (remove set range) value ↔
        Covers set value ∧ ¬ (range.start ≤ value ∧ value < range.stop) := by
  rw [remove]
  split_ifs with skip
  · refine ⟨separated, fun value => ⟨fun covered => ⟨covered, ?_⟩, fun covered => covered.1⟩⟩
    simp only [Bool.or_eq_true, OrdMap.isEmpty_iff, Range.isEmpty, decide_eq_true_eq] at skip
    rcases skip with vacant | empty
    · obtain ⟨entry, member, _⟩ := covered
      exact absurd member (vacant entry)
    · omega
  · simp only [Bool.or_eq_true, Range.isEmpty, decide_eq_true_eq, not_or] at skip
    have below : range.start < range.stop := by omega
    cases found : set.lastLE? range.start with
    | none =>
        have none_below := OrdMap.lastLE?_eq_none_iff.mp found
        apply removeLoop_spec separated (le_refl _) below
        intro entry member less
        exact absurd (none_below entry member) (by omega)
    | some prev =>
        obtain ⟨prevStart, prevStop⟩ := prev
        obtain ⟨member, low, greatest⟩ := OrdMap.lastLE?_spec found
        simp only at low greatest
        dsimp only
        split_ifs with overlaps reaches
        · obtain ⟨kept, _, covered⟩ :=
            trimPrev_spec separated member below low overlaps
          refine ⟨kept, fun value => ?_⟩
          rw [covered]
          constructor <;> rintro ⟨inside, outside⟩ <;> exact ⟨inside, by omega⟩
        · obtain ⟨kept, before, covered⟩ :=
            trimPrev_spec separated member below low overlaps
          obtain ⟨removed, rest⟩ := removeLoop_spec kept (le_refl _) below before
          refine ⟨removed, fun value => ?_⟩
          rw [rest, covered]
          constructor
          · rintro ⟨⟨inside, _⟩, outside⟩
            exact ⟨inside, outside⟩
          · rintro ⟨inside, outside⟩
            exact ⟨⟨inside, by omega⟩, outside⟩
        · apply removeLoop_spec separated (le_refl _) below
          intro entry present less
          by_cases same : entry.1 = prevStart
          · have equal := OrdMap.mem_unique present member same
            subst equal
            simp only
            omega
          · have first := greatest entry present (by omega)
            have := separated.apart entry present _ member (lt_of_le_of_ne first same)
            simp only at this
            omega

end

end Ranges

/-- A set of values kept as separated ranges. `capacity` bounds the number of
ranges; `none` stands for `usize::MAX`, which separated ranges of 64-bit values
cannot reach. -/
structure RangeSet where
  set : OrdMap Nat Nat
  capacity : Option Nat
  separated : Separated set

namespace RangeSet

def new (capacity : Option Nat) : RangeSet := ⟨∅, capacity, .empty⟩

def default : RangeSet := new none

def insert (ranges : RangeSet) (range : Range) : RangeSet :=
  { ranges with
    set := Ranges.insert ranges.capacity ranges.set range
    separated := Ranges.insert_separated ranges.capacity ranges.separated range }

def addElem (ranges : RangeSet) (elem : Nat) : RangeSet := ranges.insert ⟨elem, elem + 1⟩

def remove (ranges : RangeSet) (range : Range) : RangeSet :=
  { ranges with
    set := Ranges.remove ranges.set range
    separated := (Ranges.remove_spec ranges.separated range).1 }

def removeElem (ranges : RangeSet) (elem : Nat) : RangeSet := ranges.remove ⟨elem, elem + 1⟩

def clear (ranges : RangeSet) : RangeSet := { ranges with set := ∅, separated := .empty }

def isEmpty (ranges : RangeSet) : Bool := ranges.set.isEmpty

def len (ranges : RangeSet) : Nat := ranges.set.size

def iter (ranges : RangeSet) : List Range :=
  ranges.set.entries.map (fun entry => ⟨entry.1, entry.2⟩)

def min (ranges : RangeSet) : Option Nat := ranges.set.first?.map (·.1)

def max (ranges : RangeSet) : Option Nat := ranges.set.last?.map (fun entry => entry.2 - 1)

def prevTo (ranges : RangeSet) (elem : Nat) : Option Range :=
  (ranges.set.lastLE? elem).map (fun entry => ⟨entry.1, entry.2⟩)

def nextTo (ranges : RangeSet) (elem : Nat) : Option Range :=
  (ranges.set.firstGE? elem).map (fun entry => ⟨entry.1, entry.2⟩)

/-- The closest range that begins after `elem`. -/
def nextAfter (ranges : RangeSet) (elem : Nat) : Option Range :=
  (ranges.set.firstGE? (elem + 1)).map (fun entry => ⟨entry.1, entry.2⟩)

/-- The first part of `range` that is not in the set. -/
def filter (ranges : RangeSet) (range : Range) : Option Range :=
  if ranges.isEmpty then some range
  else
    let prev := ranges.prevTo range.start
    if prev.any (fun prev => prev.stop ≥ range.stop) then none
    else
      let newStart :=
        match prev with
        | some prev => if prev.stop > range.start then prev.stop else range.start
        | none => range.start
      let newEnd :=
        match ranges.nextAfter range.start with
        | some next => if next.start < range.stop then next.start else range.stop
        | none => range.stop
      some ⟨newStart, newEnd⟩

def contains (ranges : RangeSet) (elem : Nat) : Bool :=
  (ranges.prevTo elem).any (fun prev => prev.start ≤ elem && elem < prev.stop) ||
    (ranges.nextTo elem).any (fun next => next.start ≤ elem && elem < next.stop)

def peekMin (ranges : RangeSet) : Option Range :=
  ranges.set.first?.map (fun entry => ⟨entry.1, entry.2⟩)

def popMin (ranges : RangeSet) : Option Range × RangeSet :=
  match ranges.peekMin with
  | none => (none, ranges)
  | some range =>
      (some range, { ranges with
        set := ranges.set.erase range.start
        separated := ranges.separated.erase range.start })

/-- Remove the entry of the range that begins at `start`. -/
def forget (ranges : RangeSet) (start : Nat) : RangeSet :=
  { ranges with
    set := ranges.set.erase start
    separated := ranges.separated.erase start }

/-- One round of `remove_until`: what sticks out above `elem` is inserted again. -/
def cutUntil (elem : Nat) (ranges : RangeSet) (range : Range) : RangeSet :=
  if range.stop > elem + 1 then (ranges.forget range.start).insert ⟨elem + 1, range.stop⟩
  else ranges.forget range.start

/-- The ranges that begin at or below `elem` are collected before the first one is cut. -/
def removeUntil (ranges : RangeSet) (elem : Nat) : RangeSet :=
  (ranges.iter.filter (·.start ≤ elem)).foldl (cutUntil elem) ranges

/-- `PartialEq<Range<u64>>`: the set is that single range. -/
def eqRange (ranges : RangeSet) (range : Range) : Bool :=
  ranges.len = 1 && ranges.peekMin = some range

end RangeSet

end Tquic
