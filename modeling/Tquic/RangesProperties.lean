import Tquic.Ranges

/-! What the operations of `RangeSet` do to the set of values it denotes. Later
modules reason about membership only and never about the stored ranges. -/

set_option autoImplicit false

namespace Tquic

open Lib

/-! ## Limited sets -/

namespace Ranges

variable {set : OrdMap Nat Nat} {range : Range} {limit : Nat}

theorem size_insertLoop (fuel : Nat) (set : OrdMap Nat Nat) (start stop : Nat) :
    (insertLoop fuel set start stop).1.size ≤ set.size := by
  induction fuel generalizing set stop with
  | zero => exact le_refl _
  | succ fuel ih =>
      rw [insertLoop]
      cases set.firstGE? start with
      | none => exact le_refl _
      | some next =>
          dsimp only
          split_ifs
          · exact le_refl _
          · exact (ih _ _).trans (set.size_erase_le _)

private theorem insertLoop_absorbs (fuel : Nat) (set : OrdMap Nat Nat) (start stop : Nat) :
    insertLoop fuel set start stop = (set, stop) ∨
      (insertLoop fuel set start stop).1.size < set.size := by
  cases fuel with
  | zero => exact .inl rfl
  | succ fuel =>
      rw [insertLoop]
      cases found : set.firstGE? start with
      | none => exact .inl rfl
      | some next =>
          dsimp only
          split_ifs
          · exact .inl rfl
          · exact .inr ((size_insertLoop _ _ _ _).trans_lt
              (OrdMap.size_erase_lt (OrdMap.firstGE?_spec found).1))

theorem insertFrom_limit (separated : Separated set) (below : range.start < range.stop)
    (before : ∀ entry ∈ set, entry.1 < range.start → entry.2 < range.start)
    (few : set.size ≤ limit) :
    insertFrom (some limit) set range = insertFrom none set range ∨
      limit ≤ set.size ∧ (∀ entry ∈ set, entry.2 < range.start ∨ range.stop < entry.1) ∧
        insertFrom (some limit) set range = set.popFirst.insert range.start range.stop := by
  rw [insertFrom, insertFrom]
  by_cases full : limit ≤ (insertLoop set.size set range.start range.stop).1.size
  · right
    have members := (insertLoop_spec separated (le_refl _) below before).2.1
    rcases insertLoop_absorbs set.size set range.start range.stop with same | smaller
    · rw [same] at full members ⊢
      refine ⟨full, fun entry member => ?_, ?_⟩
      · exact ((members entry).mp member).2.imp_left (before entry member)
      · simp [full]
    · omega
  · left
    simp [full]

/-- At the limit, a range apart replaces the lowest one. -/
theorem insert_limit (separated : Separated set) (few : set.size ≤ limit) :
    insert (some limit) set range = insert none set range ∨
      limit ≤ set.size ∧ range.start < range.stop ∧
        (∀ entry ∈ set, entry.2 < range.start ∨ range.stop < entry.1) ∧
        insert (some limit) set range = set.popFirst.insert range.start range.stop := by
  rcases insert_cases separated range with ⟨_, same⟩ | ⟨_, _, _, _, same⟩ |
    ⟨prev, member, _, _, longer, same⟩ | ⟨below, before, same⟩
  · exact .inl ((same _).trans (same _).symm)
  · exact .inl ((same _).trans (same _).symm)
  · have smaller := OrdMap.size_erase_lt member
    have extended : prev.1 < range.stop := (separated.nonempty prev member).trans longer
    rw [same, same]
    refine (insertFrom_limit (separated.erase prev.1) extended (separated.erase_before member)
      (by omega)).imp_right fun holds => ?_
    have full := holds.1
    omega
  · rw [same, same]
    exact (insertFrom_limit separated below before few).imp_right
      fun holds => ⟨holds.1, below, holds.2⟩

theorem size_insertFrom (few : set.size ≤ limit) (positive : 0 < limit) :
    (insertFrom (some limit) set range).size ≤ limit := by
  have merged := size_insertLoop set.size set range.start range.stop
  rw [insertFrom]
  refine (OrdMap.size_insert_le _ _ _).trans ?_
  split_ifs with full
  · rw [OrdMap.size_popFirst]
    omega
  · simp only [Option.any_some, decide_eq_true_eq, not_le] at full
    exact full

theorem size_insert (few : set.size ≤ limit) (positive : 0 < limit) :
    (insert (some limit) set range).size ≤ limit := by
  rw [insert]
  split_ifs
  · exact few
  · cases set.lastLE? range.start with
    | none => exact size_insertFrom few positive
    | some prev =>
        dsimp only
        split_ifs
        · exact few
        · exact size_insertFrom ((set.size_erase_le _).trans few) positive
        · exact size_insertFrom few positive

end Ranges

namespace RangeSet

instance : Membership Nat RangeSet := ⟨fun ranges value => Covers ranges.set value⟩

variable {ranges : RangeSet} {value : Nat}

theorem mem_iff_range :
    value ∈ ranges ↔ ∃ range ∈ ranges.iter, range.start ≤ value ∧ value < range.stop := by
  constructor
  · rintro ⟨entry, member, inside⟩
    exact ⟨⟨entry.1, entry.2⟩, List.mem_map.mpr ⟨entry, member, rfl⟩, inside⟩
  · rintro ⟨range, member, inside⟩
    obtain ⟨entry, present, rfl⟩ := List.mem_map.mp member
    exact ⟨entry, present, inside⟩

/-! ## Capacity -/

@[simp] theorem capacity_default : default.capacity = none := rfl

@[simp] theorem capacity_insert (ranges : RangeSet) (range : Range) :
    (ranges.insert range).capacity = ranges.capacity := rfl

@[simp] theorem capacity_remove (ranges : RangeSet) (range : Range) :
    (ranges.remove range).capacity = ranges.capacity := rfl

@[simp] theorem capacity_clear (ranges : RangeSet) : ranges.clear.capacity = ranges.capacity := rfl

@[simp] theorem capacity_popMin (ranges : RangeSet) :
    ranges.popMin.2.capacity = ranges.capacity := by
  rw [popMin]
  split <;> rfl

/-! ## Membership -/

@[simp] theorem not_mem_default (value : Nat) : value ∉ default := by
  rintro ⟨entry, member, _⟩
  exact OrdMap.not_mem_empty entry member

@[simp] theorem not_mem_clear (ranges : RangeSet) (value : Nat) : value ∉ ranges.clear := by
  rintro ⟨entry, member, _⟩
  exact OrdMap.not_mem_empty entry member

def Fits (ranges : RangeSet) : Prop :=
  ∀ limit, ranges.capacity = some limit → ranges.len ≤ limit ∧ 0 < limit

theorem Fits.of_unlimited (unlimited : ranges.capacity = none) : ranges.Fits := by
  intro limit limited
  rw [unlimited] at limited
  cases limited

theorem Fits.insert (fits : ranges.Fits) (range : Range) : (ranges.insert range).Fits := by
  intro limit limited
  obtain ⟨few, positive⟩ := fits limit limited
  have size := @Ranges.size_insert _ range _ few positive
  rw [← (limited : ranges.capacity = some limit)] at size
  exact ⟨size, positive⟩

theorem Fits.forget (fits : ranges.Fits) (start : Nat) : (ranges.forget start).Fits := by
  intro limit limited
  obtain ⟨few, positive⟩ := fits limit limited
  exact ⟨(ranges.set.size_erase_le start).trans few, positive⟩

variable {range : Range}

theorem mem_insert_of_room (room : ∀ limit, ranges.capacity = some limit → ranges.len < limit) :
    value ∈ ranges.insert range ↔ value ∈ ranges ∨ range.start ≤ value ∧ value < range.stop := by
  have covers := Ranges.insert_covers ranges.separated range value
  cases limited : ranges.capacity with
  | none =>
      rw [← limited] at covers
      exact covers
  | some limit =>
      have few := room limit limited
      rcases @Ranges.insert_limit _ range _ ranges.separated few.le with same | ⟨full, _⟩
      · rw [← same, ← limited] at covers
        exact covers
      · exact absurd few (Nat.not_lt.mpr full)

theorem mem_insert (unlimited : ranges.capacity = none) :
    value ∈ ranges.insert range ↔ value ∈ ranges ∨ range.start ≤ value ∧ value < range.stop := by
  refine mem_insert_of_room fun limit limited => ?_
  rw [unlimited] at limited
  cases limited

theorem mem_insert_self (fits : ranges.Fits)
    (inside : range.start ≤ value ∧ value < range.stop) : value ∈ ranges.insert range := by
  have covers := (Ranges.insert_covers ranges.separated range value).mpr (.inr inside)
  cases limited : ranges.capacity with
  | none =>
      rw [← limited] at covers
      exact covers
  | some limit =>
      rcases @Ranges.insert_limit _ range _ ranges.separated (fits limit limited).1 with
        same | ⟨_, _, _, dropped⟩
      · rw [← same, ← limited] at covers
        exact covers
      · change Covers (Ranges.insert ranges.capacity ranges.set range) value
        rw [limited, dropped]
        exact ⟨_, OrdMap.mem_insert.mpr (.inl rfl), inside⟩

/-- Only values of the lowest range are lost, and only at the limit. -/
theorem mem_insert_or_least (fits : ranges.Fits) (range : Range) (member : value ∈ ranges) :
    value ∈ ranges.insert range ∨ ranges.capacity = some ranges.len ∧
      ∃ least, ranges.peekMin = some least ∧ least.start ≤ value ∧ value < least.stop := by
  have covers := (Ranges.insert_covers ranges.separated range value).mpr (.inl member)
  cases limited : ranges.capacity with
  | none =>
      rw [← limited] at covers
      exact .inl covers
  | some limit =>
      have few := (fits limit limited).1
      rcases @Ranges.insert_limit _ range _ ranges.separated few with
        same | ⟨full, below, apart, dropped⟩
      · rw [← same, ← limited] at covers
        exact .inl covers
      · obtain ⟨entry, present, inside⟩ := member
        obtain ⟨least, found⟩ : ∃ least, ranges.set.first? = some least := by
          cases found : ranges.set.first? with
          | none =>
              rw [OrdMap.first?_eq_none_iff] at found
              exact absurd present (found entry)
          | some least => exact ⟨least, rfl⟩
        by_cases same : entry = least
        · refine .inr ⟨congrArg some (le_antisymm full few), ⟨least.1, least.2⟩, ?_, same ▸ inside⟩
          rw [peekMin, found]
          rfl
        · left
          change Covers (Ranges.insert ranges.capacity ranges.set range) value
          rw [limited, dropped, OrdMap.popFirst_eq_erase found]
          have filled := ranges.separated.nonempty entry present
          refine ⟨entry, OrdMap.mem_insert.mpr (.inr ⟨OrdMap.mem_erase.mpr ⟨present, ?_⟩, ?_⟩),
            inside⟩
          · exact fun equal => same (OrdMap.mem_unique present (OrdMap.first?_mem found) equal)
          · rcases apart entry present with before | after <;> omega

theorem of_mem_insert (fits : ranges.Fits) (member : value ∈ ranges.insert range) :
    value ∈ ranges ∨ range.start ≤ value ∧ value < range.stop := by
  have covers := Ranges.insert_covers ranges.separated range value
  cases limited : ranges.capacity with
  | none => exact (mem_insert limited).mp member
  | some limit =>
      change Covers (Ranges.insert ranges.capacity ranges.set range) value at member
      rw [limited] at member
      rcases @Ranges.insert_limit _ range _ ranges.separated (fits limit limited).1 with
        same | ⟨_, _, _, dropped⟩
      · rw [← same] at covers
        exact covers.mp member
      · rw [dropped] at member
        obtain ⟨entry, present, inside⟩ := member
        rcases OrdMap.mem_insert.mp present with rfl | ⟨stored, _⟩
        · exact .inr inside
        · exact .inl ⟨entry, List.mem_of_mem_tail stored, inside⟩

@[simp] theorem mem_remove :
    value ∈ ranges.remove range ↔ value ∈ ranges ∧ ¬ (range.start ≤ value ∧ value < range.stop) :=
  (Ranges.remove_spec ranges.separated range).2 value

theorem isEmpty_iff : ranges.isEmpty = true ↔ ∀ value, value ∉ ranges := by
  rw [isEmpty, OrdMap.isEmpty_iff]
  constructor
  · rintro vacant value ⟨entry, member, _⟩
    exact vacant entry member
  · intro vacant entry member
    have filled := ranges.separated.nonempty entry member
    exact vacant entry.1 ⟨entry, member, le_refl _, filled⟩

theorem first?_eq_none_iff : ranges.set.first? = none ↔ ranges.isEmpty = true := by
  rw [isEmpty, OrdMap.isEmpty_iff, OrdMap.first?_eq_none_iff]

theorem min_eq_none_iff : ranges.min = none ↔ ranges.isEmpty = true := by
  rw [min, Option.map_eq_none_iff, first?_eq_none_iff]

theorem min_spec {least : Nat} (found : ranges.min = some least) :
    least ∈ ranges ∧ ∀ value ∈ ranges, least ≤ value := by
  obtain ⟨entry, first, rfl⟩ := Option.map_eq_some_iff.mp found
  have member := OrdMap.first?_mem first
  refine ⟨⟨entry, member, le_refl _, ranges.separated.nonempty entry member⟩, ?_⟩
  rintro value ⟨other, present, inside⟩
  exact (OrdMap.first?_le first present).trans inside.1

theorem max_spec {greatest : Nat} (found : ranges.max = some greatest) :
    greatest ∈ ranges ∧ ∀ value ∈ ranges, value ≤ greatest := by
  obtain ⟨entry, last, rfl⟩ := Option.map_eq_some_iff.mp found
  obtain ⟨member, above⟩ := OrdMap.last?_spec last
  have filled := ranges.separated.nonempty entry member
  refine ⟨⟨entry, member, by omega, by omega⟩, ?_⟩
  rintro value ⟨other, present, inside⟩
  rcases Nat.lt_or_ge other.1 entry.1 with less | greater
  · have := ranges.separated.apart other present entry member less
    omega
  · have same := OrdMap.mem_unique present member (le_antisymm (above other present) greater)
    subst same
    omega

/-- Ranges are listed in ascending order and never touch. -/
theorem iter_pairwise (ranges : RangeSet) :
    ranges.iter.Pairwise (fun left right => left.stop < right.start) := by
  rw [iter, List.pairwise_map]
  refine ranges.set.sorted.imp_of_mem ?_
  intro left right leftMember rightMember less
  exact ranges.separated.apart left leftMember right rightMember less

theorem iter_nonempty (member : range ∈ ranges.iter) : range.start < range.stop := by
  obtain ⟨entry, present, rfl⟩ := List.mem_map.mp member
  exact ranges.separated.nonempty entry present

/-- The search finds what the set covers. -/
theorem contains_iff {elem : Nat} : ranges.contains elem = true ↔ elem ∈ ranges := by
  rw [contains, Bool.or_eq_true, Option.any_eq_true, Option.any_eq_true]
  simp only [Bool.and_eq_true, decide_eq_true_eq]
  constructor
  · rintro (⟨range, found, inside⟩ | ⟨range, found, inside⟩)
    · obtain ⟨entry, selected, rfl⟩ := Option.map_eq_some_iff.mp found
      exact ⟨entry, (OrdMap.lastLE?_spec selected).1, inside⟩
    · obtain ⟨entry, selected, rfl⟩ := Option.map_eq_some_iff.mp found
      exact ⟨entry, (OrdMap.firstGE?_spec selected).1, inside⟩
  · rintro ⟨entry, member, lower, upper⟩
    left
    cases selected : ranges.set.lastLE? elem with
    | none => exact absurd (OrdMap.lastLE?_eq_none_iff.mp selected entry member) (by omega)
    | some found =>
        obtain ⟨present, low, greatest⟩ := OrdMap.lastLE?_spec selected
        have below := greatest entry member lower
        -- The range that holds `elem` is the last one beginning at or before it.
        have same : found = entry := by
          by_contra different
          rcases Nat.lt_or_ge entry.1 found.1 with less | greater
          · have := ranges.separated.apart entry member found present less
            omega
          · exact different (OrdMap.mem_unique present member (le_antisymm greater below))
        subst same
        exact ⟨⟨found.1, found.2⟩, by simp [prevTo, selected], lower, upper⟩

/-- The lowest range is taken out. -/
theorem popMin_spec {ranges rest : RangeSet} (popped : ranges.popMin = (some range, rest)) :
    range.start < range.stop ∧ ranges.min = some range.start ∧
      (∀ value, value ∈ rest ↔ value ∈ ranges ∧ range.stop ≤ value) ∧
      ∀ value, range.start ≤ value → value < range.stop → value ∈ ranges := by
  rw [popMin] at popped
  cases first : ranges.set.first? with
  | none => simp [peekMin, first] at popped
  | some entry =>
      simp only [peekMin, first, Option.map_some, Prod.mk.injEq, Option.some.injEq] at popped
      obtain ⟨rfl, rfl⟩ := popped
      have member := OrdMap.first?_mem first
      have filled := ranges.separated.nonempty entry member
      refine ⟨filled, by simp [min, first], ?_, fun value lower upper => ⟨entry, member, lower, upper⟩⟩
      intro value
      constructor
      · rintro ⟨other, present, inside⟩
        obtain ⟨present, different⟩ := OrdMap.mem_erase.mp present
        have less := lt_of_le_of_ne (OrdMap.first?_le first present) (Ne.symm different)
        have := ranges.separated.apart entry member other present less
        exact ⟨⟨other, present, inside⟩, by simp only; omega⟩
      · rintro ⟨⟨other, present, inside⟩, beyond⟩
        refine ⟨other, OrdMap.mem_erase.mpr ⟨present, ?_⟩, inside⟩
        intro same
        have equal := OrdMap.mem_unique present member same
        subst equal
        simp only at beyond
        omega

theorem popMin_some (filled : ranges.isEmpty = false) :
    ∃ range rest, ranges.popMin = (some range, rest) := by
  cases first : ranges.set.first? with
  | none => simp [first?_eq_none_iff.mp first] at filled
  | some entry => simp [popMin, peekMin, first]

theorem mem_forget (member : range ∈ ranges.iter) :
    value ∈ ranges.forget range.start ↔
      value ∈ ranges ∧ ¬ (range.start ≤ value ∧ value < range.stop) := by
  obtain ⟨entry, present, rfl⟩ := List.mem_map.mp member
  constructor
  · rintro ⟨other, kept, inside⟩
    obtain ⟨kept, different⟩ := OrdMap.mem_erase.mp kept
    refine ⟨⟨other, kept, inside⟩, ?_⟩
    rintro ⟨lower, upper⟩
    simp only at lower upper different
    rcases Nat.lt_or_gt_of_ne different with less | greater
    · have := ranges.separated.apart other kept entry present less
      omega
    · have := ranges.separated.apart entry present other kept greater
      omega
  · rintro ⟨⟨other, kept, inside⟩, outside⟩
    refine ⟨other, OrdMap.mem_erase.mpr ⟨kept, ?_⟩, inside⟩
    intro same
    have equal := OrdMap.mem_unique kept present same
    subst equal
    exact outside inside

theorem mem_iter_forget {start : Nat} (member : range ∈ ranges.iter) (apart : range.start ≠ start) :
    range ∈ (ranges.forget start).iter := by
  obtain ⟨entry, present, rfl⟩ := List.mem_map.mp member
  exact List.mem_map.mpr ⟨entry, OrdMap.mem_erase.mpr ⟨present, apart⟩, rfl⟩

private theorem room_forget (fits : ranges.Fits) (member : range ∈ ranges.iter) (limit : Nat)
    (limited : (ranges.forget range.start).capacity = some limit) :
    (ranges.forget range.start).len < limit := by
  obtain ⟨entry, present, rfl⟩ := List.mem_map.mp member
  exact (OrdMap.size_erase_lt present).trans_le (fits limit limited).1

/-- Only the last of the collected ranges can reach beyond `elem`, so nothing is inserted
before the others are gone. -/
theorem mem_foldl_cutUntil {elem : Nat} {cut : List Range} (fits : ranges.Fits)
    (sorted : cut.Pairwise (fun left right => left.stop < right.start))
    (stored : ∀ range ∈ cut, range ∈ ranges.iter ∧ range.start ≤ elem) :
    value ∈ cut.foldl (cutUntil elem) ranges ↔
      value ∈ ranges ∧
        (elem < value ∨ ∀ range ∈ cut, ¬ (range.start ≤ value ∧ value < range.stop)) := by
  induction cut generalizing ranges with
  | nil => simp
  | cons range rest ih =>
      rw [List.pairwise_cons] at sorted
      obtain ⟨member, low⟩ := stored range List.mem_cons_self
      rw [List.foldl_cons, cutUntil]
      split
      case isTrue reaches =>
        have last : rest = [] := by
          cases rest with
          | nil => rfl
          | cons next rest =>
              have := sorted.1 next List.mem_cons_self
              have := (stored next (by simp)).2
              omega
        subst last
        rw [List.foldl_nil, mem_insert_of_room (room_forget fits member), mem_forget member]
        have inside : range.start ≤ value ∧ value < range.stop → value ∈ ranges := by
          intro between
          exact mem_iff_range.mpr ⟨range, member, between⟩
        simp only [List.mem_singleton, forall_eq]
        constructor
        · rintro (⟨present, outside⟩ | ⟨above, below⟩)
          · exact ⟨present, .inr outside⟩
          · exact ⟨inside ⟨by omega, below⟩, .inl (by omega)⟩
        · rintro ⟨present, above | outside⟩
          · by_cases between : range.start ≤ value ∧ value < range.stop
            · exact .inr ⟨by omega, between.2⟩
            · exact .inl ⟨present, between⟩
          · exact .inl ⟨present, outside⟩
      case isFalse ends =>
        have later : ∀ other ∈ rest,
            other ∈ (ranges.forget range.start).iter ∧ other.start ≤ elem := by
          intro other present
          have next := sorted.1 other present
          have filled := iter_nonempty member
          have kept := stored other (List.mem_cons_of_mem _ present)
          exact ⟨mem_iter_forget kept.1 (by omega), kept.2⟩
        rw [ih (fits.forget range.start) sorted.2 later, mem_forget member]
        simp only [List.mem_cons, forall_eq_or_imp]
        constructor
        · rintro ⟨⟨present, outside⟩, above | others⟩
          · exact ⟨present, .inl above⟩
          · exact ⟨present, .inr ⟨outside, others⟩⟩
        · rintro ⟨present, above | ⟨outside, others⟩⟩
          · exact ⟨⟨present, by omega⟩, .inl above⟩
          · exact ⟨⟨present, outside⟩, .inr others⟩

theorem mem_removeUntil (fits : ranges.Fits)
    {elem value : Nat} : value ∈ ranges.removeUntil elem ↔ value ∈ ranges ∧ elem < value := by
  have stored : ∀ range ∈ ranges.iter.filter (·.start ≤ elem),
      range ∈ ranges.iter ∧ range.start ≤ elem := by
    intro range member
    obtain ⟨member, low⟩ := List.mem_filter.mp member
    exact ⟨member, of_decide_eq_true low⟩
  rw [removeUntil, mem_foldl_cutUntil fits (ranges.iter_pairwise.filter _) stored]
  refine and_congr_right fun present => ?_
  constructor
  · rintro (above | outside)
    · exact above
    · obtain ⟨range, member, between⟩ := mem_iff_range.mp present
      by_contra low
      have begins : decide (range.start ≤ elem) = true := decide_eq_true (by omega)
      exact outside range (List.mem_filter.mpr ⟨member, begins⟩) between
  · exact .inl

theorem capacity_removeUntil (ranges : RangeSet) (elem : Nat) :
    (ranges.removeUntil elem).capacity = ranges.capacity := by
  have folded : ∀ (cut : List Range) (ranges : RangeSet),
      (cut.foldl (cutUntil elem) ranges).capacity = ranges.capacity := by
    intro cut
    induction cut with
    | nil => exact fun _ => rfl
    | cons range rest ih =>
        intro ranges
        rw [List.foldl_cons, ih, cutUntil]
        split <;> rfl
  exact folded _ ranges

theorem Fits.removeUntil (fits : ranges.Fits) (elem : Nat) : (ranges.removeUntil elem).Fits := by
  rw [RangeSet.removeUntil]
  generalize ranges.iter.filter _ = cut
  induction cut generalizing ranges with
  | nil => exact fits
  | cons range rest ih =>
      rw [List.foldl_cons, cutUntil]
      split
      · exact ih ((fits.forget range.start).insert _)
      · exact ih (fits.forget range.start)

theorem stop_not_mem {entry : Nat × Nat} (present : entry ∈ ranges.set) : entry.2 ∉ ranges := by
  rintro ⟨other, found, lower, upper⟩
  have filled := ranges.separated.nonempty entry present
  rcases Nat.lt_trichotomy entry.1 other.1 with less | same | greater
  · have := ranges.separated.apart entry present other found less
    omega
  · have equal := OrdMap.mem_unique present found same
    subst equal
    omega
  · have := ranges.separated.apart other found entry present greater
    omega

/-- The stored ranges are the maximal ones. -/
theorem mem_iter_iff :
    range ∈ ranges.iter ↔
      range.start < range.stop ∧ (∀ value, range.start ≤ value → value < range.stop → value ∈ ranges) ∧
        (∀ value, value + 1 = range.start → value ∉ ranges) ∧ range.stop ∉ ranges := by
  constructor
  · intro member
    obtain ⟨entry, present, rfl⟩ := List.mem_map.mp member
    have filled := ranges.separated.nonempty entry present
    refine ⟨filled, fun value lower upper => ⟨entry, present, lower, upper⟩, ?_, ?_⟩
    · rintro value before ⟨other, found, lower, upper⟩
      simp only at before
      have := ranges.separated.apart other found entry present (by omega)
      omega
    · exact stop_not_mem present
  · rintro ⟨filled, inside, before, beyond⟩
    obtain ⟨entry, present, lower, upper⟩ := inside range.start (le_refl _) filled
    have begins : entry.1 = range.start := by
      by_contra different
      refine before (range.start - 1) (by omega) ⟨entry, present, by omega, by omega⟩
    have reaches : range.stop ≤ entry.2 := by
      by_contra short
      exact stop_not_mem present (inside entry.2 (by omega) (by omega))
    have ends : entry.2 = range.stop := by
      by_contra longer
      exact beyond ⟨entry, present, by omega, by omega⟩
    refine List.mem_map.mpr ⟨entry, present, ?_⟩
    rw [begins, ends]

theorem ext_mem {left right : RangeSet} (capacity : left.capacity = right.capacity)
    (same : ∀ value, value ∈ left ↔ value ∈ right) : left = right := by
  have ranges : ∀ range, range ∈ left.iter ↔ range ∈ right.iter := by
    intro range
    rw [mem_iter_iff, mem_iter_iff]
    simp only [same]
  have entries : left.set = right.set := by
    apply OrdMap.ext_mem
    intro entry
    have listed := ranges ⟨entry.1, entry.2⟩
    simp only [iter, List.mem_map, Range.mk.injEq, ← Prod.ext_iff, exists_eq_right] at listed
    exact listed
  obtain ⟨leftSet, leftCapacity, _⟩ := left
  obtain ⟨rightSet, rightCapacity, _⟩ := right
  simp only at entries capacity
  subst entries capacity
  rfl

/-- The comparison with a range from 0 compares the values. -/
theorem eqRange_iff {stop : Nat} (filled : 0 < stop) :
    ranges.eqRange ⟨0, stop⟩ = true ↔ ∀ value, value ∈ ranges ↔ value < stop := by
  simp only [eqRange, Bool.and_eq_true, decide_eq_true_eq]
  constructor
  · rintro ⟨single, first⟩ value
    rw [len, OrdMap.size] at single
    obtain ⟨entry, shape⟩ := List.length_eq_one_iff.mp single
    have same : entry = (0, stop) := by
      simp only [peekMin, OrdMap.first?, shape, List.head?_cons, Option.map_some,
        Option.some.injEq, Range.mk.injEq] at first
      exact Prod.ext first.1 first.2
    constructor
    · rintro ⟨other, present, inside⟩
      have equal : other = (0, stop) := by
        rw [OrdMap.mem_def, shape, same] at present
        simpa using present
      rw [equal] at inside
      exact inside.2
    · intro less
      exact ⟨(0, stop), by rw [OrdMap.mem_def, shape, same]; simp, Nat.zero_le _, less⟩
  · intro denotes
    -- Separated ranges with no gap between 0 and `stop` are one range.
    obtain ⟨entry, member, lower, upper⟩ := (denotes 0).mpr filled
    have whole : stop ≤ entry.2 := by
      by_contra short
      obtain ⟨other, present, inside⟩ := (denotes entry.2).mpr (by omega)
      rcases Nat.lt_trichotomy entry.1 other.1 with less | same | greater
      · have := ranges.separated.apart entry member other present less
        omega
      · have equal := OrdMap.mem_unique member present same
        subst equal
        omega
      · omega
    have bounded : entry.2 ≤ stop := by
      have := (denotes (entry.2 - 1)).mp ⟨entry, member, by omega, by omega⟩
      omega
    have all : ∀ other ∈ ranges.set.entries, other = entry := by
      intro other present
      have filledOther := ranges.separated.nonempty other present
      have := (denotes other.1).mp ⟨other, present, le_refl _, filledOther⟩
      rcases Nat.lt_trichotomy entry.1 other.1 with less | same | greater
      · have := ranges.separated.apart entry member other present less
        omega
      · exact OrdMap.mem_unique present member same.symm
      · omega
    have single : ranges.set.entries = [entry] := by
      have sorted := ranges.set.sorted
      rw [OrdMap.mem_def] at member
      cases shape : ranges.set.entries with
      | nil => simp [shape] at member
      | cons head rest =>
          rw [shape] at all sorted
          have first := all head List.mem_cons_self
          cases rest with
          | nil => rw [first]
          | cons second rest =>
              have again := all second (by simp)
              rw [List.pairwise_cons] at sorted
              have := sorted.1 second List.mem_cons_self
              rw [first, again] at this
              exact absurd this (lt_irrefl _)
    refine ⟨by simp [len, OrdMap.size, single], ?_⟩
    simp only [peekMin, OrdMap.first?, single, List.head?_cons, Option.map_some,
      Option.some.injEq, Range.mk.injEq]
    omega

end RangeSet

end Tquic
