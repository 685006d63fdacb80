import Mathlib.Order.Defs.LinearOrder
import Mathlib.Data.List.Basic
import Mathlib.Algebra.BigOperators.Group.List.Basic
import Mathlib.Algebra.GroupWithZero.Nat
import Mathlib.Algebra.Order.Group.Nat
import Mathlib.Algebra.Order.BigOperators.Group.List

/-! Finite maps ordered by key, kept as association lists whose keys strictly
increase. The order is a field of the structure, so every map that can be built
is a sorted one, and the searches below and above a key need no side condition. -/

set_option autoImplicit false

namespace Tquic.Lib

universe u v

/-- An ordered map: entries in strictly ascending key order. -/
structure OrdMap (κ : Type u) (β : Type v) [LinearOrder κ] where
  entries : List (κ × β)
  sorted : entries.Pairwise (fun left right => left.1 < right.1)

namespace OrdMap

variable {κ : Type u} {β : Type v} [LinearOrder κ]

def insertEntries (key : κ) (value : β) : List (κ × β) → List (κ × β)
  | [] => [(key, value)]
  | entry :: rest =>
      if key < entry.1 then (key, value) :: entry :: rest
      else if key = entry.1 then (key, value) :: rest
      else entry :: insertEntries key value rest

variable {entry : κ × β} {entries : List (κ × β)} {value : β} {key : κ}

theorem mem_insertEntries (sorted : entries.Pairwise (fun left right => left.1 < right.1)) :
    entry ∈ insertEntries key value entries ↔
      entry = (key, value) ∨ entry ∈ entries ∧ entry.1 ≠ key := by
  induction entries with
  | nil => simp [insertEntries]
  | cons head rest ih =>
      rw [List.pairwise_cons] at sorted
      have recursive := ih sorted.2
      have above : entry ∈ rest → head.1 < entry.1 := sorted.1 entry
      rw [insertEntries]
      split_ifs with before same
      · have later : entry ∈ head :: rest → entry.1 ≠ key := by
          intro member equal
          rcases List.mem_cons.mp member with rfl | member
          · exact absurd before (equal ▸ lt_irrefl _)
          · exact lt_asymm before (equal ▸ above member)
        grind
      · have later : entry ∈ rest → entry.1 ≠ key := by
          intro member equal
          exact absurd (above member) (by rw [equal, same]; exact lt_irrefl _)
        grind
      · grind

/-- Insertion keeps the keys in order. -/
theorem insertEntries_sorted (key : κ) (value : β)
    (sorted : entries.Pairwise (fun left right => left.1 < right.1)) :
    (insertEntries key value entries).Pairwise (fun left right => left.1 < right.1) := by
  induction entries with
  | nil => simp [insertEntries]
  | cons head rest ih =>
      have whole := sorted
      rw [List.pairwise_cons] at sorted
      rw [insertEntries]
      split_ifs with before same
      · refine List.pairwise_cons.mpr ⟨?_, whole⟩
        intro entry member
        rcases List.mem_cons.mp member with rfl | member
        · exact before
        · exact before.trans (sorted.1 entry member)
      · refine List.pairwise_cons.mpr ⟨?_, sorted.2⟩
        intro entry member
        exact same ▸ sorted.1 entry member
      · refine List.pairwise_cons.mpr ⟨?_, ih sorted.2⟩
        intro entry member
        rcases (mem_insertEntries sorted.2).mp member with rfl | ⟨member, _⟩
        · exact lt_of_le_of_ne (not_lt.mp before) (Ne.symm same)
        · exact sorted.1 entry member

instance : EmptyCollection (OrdMap κ β) := ⟨⟨[], List.Pairwise.nil⟩⟩

instance : Inhabited (OrdMap κ β) := ⟨∅⟩

instance : Membership (κ × β) (OrdMap κ β) := ⟨fun map entry => entry ∈ map.entries⟩

variable {map : OrdMap κ β}

theorem mem_def : entry ∈ map ↔ entry ∈ map.entries :=
  Iff.rfl

def insert (map : OrdMap κ β) (key : κ) (value : β) : OrdMap κ β :=
  ⟨insertEntries key value map.entries, insertEntries_sorted key value map.sorted⟩

def erase (map : OrdMap κ β) (key : κ) : OrdMap κ β :=
  ⟨map.entries.filter (fun entry => entry.1 ≠ key), map.sorted.filter _⟩

def popFirst (map : OrdMap κ β) : OrdMap κ β :=
  ⟨map.entries.tail, map.sorted.tail⟩

def get? (map : OrdMap κ β) (key : κ) : Option β :=
  (map.entries.find? (fun entry => entry.1 = key)).map (·.2)

def mapValues {γ : Type v} (change : β → γ) (map : OrdMap κ β) : OrdMap κ γ :=
  ⟨map.entries.map (fun entry => (entry.1, change entry.2)), List.pairwise_map.mpr map.sorted⟩

def size (map : OrdMap κ β) : Nat := map.entries.length

def isEmpty (map : OrdMap κ β) : Bool := map.entries.isEmpty

def first? (map : OrdMap κ β) : Option (κ × β) := map.entries.head?

def last? (map : OrdMap κ β) : Option (κ × β) := map.entries.getLast?

def rangeFrom (map : OrdMap κ β) (key : κ) : List (κ × β) :=
  map.entries.filter (fun entry => key ≤ entry.1)

def lastLE? (map : OrdMap κ β) (key : κ) : Option (κ × β) :=
  (map.entries.filter (fun entry => entry.1 ≤ key)).getLast?

def firstGE? (map : OrdMap κ β) (key : κ) : Option (κ × β) :=
  map.entries.find? (fun entry => key ≤ entry.1)

/-! ## Membership -/

@[simp] theorem not_mem_empty (entry : κ × β) : entry ∉ (∅ : OrdMap κ β) :=
  List.not_mem_nil

@[simp] theorem mem_insert :
    entry ∈ map.insert key value ↔ entry = (key, value) ∨ entry ∈ map ∧ entry.1 ≠ key :=
  mem_insertEntries map.sorted

@[simp] theorem mem_erase : entry ∈ map.erase key ↔ entry ∈ map ∧ entry.1 ≠ key := by
  simp [mem_def, erase]

theorem mem_unique {left right : κ × β}
    (leftMember : left ∈ map) (rightMember : right ∈ map) (same : left.1 = right.1) :
    left = right := by
  obtain ⟨entries, sorted⟩ := map
  simp only [mem_def] at leftMember rightMember
  induction entries with
  | nil => simp at leftMember
  | cons head rest ih =>
      rw [List.pairwise_cons] at sorted
      rcases List.mem_cons.mp leftMember with rfl | leftRest <;>
        rcases List.mem_cons.mp rightMember with rfl | rightRest
      · rfl
      · exact absurd (sorted.1 right rightRest) (same ▸ lt_irrefl _)
      · exact absurd (sorted.1 left leftRest) (same ▸ lt_irrefl _)
      · exact ih sorted.2 leftRest rightRest

theorem get?_eq_some_iff : map.get? key = some value ↔ (key, value) ∈ map := by
  constructor
  · intro found
    obtain ⟨entry, selected, rfl⟩ := Option.map_eq_some_iff.mp found
    have keyed : entry.1 = key := by simpa using List.find?_some selected
    exact keyed ▸ List.mem_of_find?_eq_some selected
  · intro member
    cases selected : map.entries.find? (fun entry => entry.1 = key) with
    | none =>
        have absent := List.find?_eq_none.mp selected (key, value) member
        simp at absent
    | some entry =>
        have keyed : entry.1 = key := by simpa using List.find?_some selected
        have same := mem_unique (List.mem_of_find?_eq_some selected) member keyed
        simp [get?, selected, same]

theorem get?_eq_none_iff : map.get? key = none ↔ ∀ entry ∈ map, entry.1 ≠ key := by
  simp [get?, mem_def]

@[simp] theorem get?_empty (key : κ) : (∅ : OrdMap κ β).get? key = none := rfl

theorem get?_insert (map : OrdMap κ β) (key other : κ) (value : β) :
    (map.insert key value).get? other = if other = key then some value else map.get? other := by
  split_ifs with same
  · exact get?_eq_some_iff.mpr (by simp [same])
  · apply Option.ext
    intro found
    simp [get?_eq_some_iff, same]

@[simp] theorem get?_insert_self (map : OrdMap κ β) (key : κ) (value : β) :
    (map.insert key value).get? key = some value := by
  simp [get?_insert]

theorem get?_erase (map : OrdMap κ β) (key other : κ) :
    (map.erase key).get? other = if other = key then none else map.get? other := by
  apply Option.ext
  intro found
  split_ifs with same <;> simp [get?_eq_some_iff, same]

@[simp] theorem get?_erase_self (map : OrdMap κ β) (key : κ) : (map.erase key).get? key = none := by
  simp [get?_erase]

@[simp] theorem get?_mapValues {γ : Type v} (change : β → γ) (map : OrdMap κ β) (key : κ) :
    (map.mapValues change).get? key = (map.get? key).map change := by
  rw [get?, get?, mapValues, List.find?_map, Option.map_map, Option.map_map]
  rfl

/-- A map is determined by its entries. -/
theorem ext_mem {left right : OrdMap κ β} (same : ∀ entry, entry ∈ left ↔ entry ∈ right) :
    left = right := by
  obtain ⟨entries, sorted⟩ := left
  obtain ⟨others, ascending⟩ := right
  have equal : entries = others := by
    induction entries generalizing others with
    | nil =>
        cases others with
        | nil => rfl
        | cons entry rest => exact absurd ((same entry).mpr List.mem_cons_self) List.not_mem_nil
    | cons first rest ih =>
        cases others with
        | nil => exact absurd ((same first).mp List.mem_cons_self) List.not_mem_nil
        | cons other tail =>
            rw [List.pairwise_cons] at sorted ascending
            have least : first = other := by
              rcases List.mem_cons.mp ((same first).mp List.mem_cons_self) with equal | later
              · exact equal
              · rcases List.mem_cons.mp ((same other).mpr List.mem_cons_self) with equal | before
                · exact equal.symm
                · exact absurd (sorted.1 other before) (lt_asymm (ascending.1 first later))
            subst least
            have tails : ∀ entry, entry ∈ (⟨rest, sorted.2⟩ : OrdMap κ β) ↔
                entry ∈ (⟨tail, ascending.2⟩ : OrdMap κ β) := by
              intro entry
              have whole : entry ∈ first :: rest ↔ entry ∈ first :: tail := same entry
              constructor
              · intro member
                rcases List.mem_cons.mp (whole.mp (List.mem_cons_of_mem _ member)) with rfl | found
                · exact absurd (sorted.1 entry member) (lt_irrefl _)
                · exact found
              · intro member
                rcases List.mem_cons.mp (whole.mpr (List.mem_cons_of_mem _ member)) with rfl | found
                · exact absurd (ascending.1 entry member) (lt_irrefl _)
                · exact found
            rw [ih sorted.2 tail ascending.2 tails]
  subst equal
  rfl

@[simp] theorem insert_insert (map : OrdMap κ β) (key : κ) (first second : β) :
    (map.insert key first).insert key second = map.insert key second := by
  apply ext_mem
  intro entry
  simp only [mem_insert]
  grind

@[simp] theorem erase_insert (map : OrdMap κ β) (key : κ) (value : β) :
    (map.insert key value).erase key = map.erase key := by
  apply ext_mem
  intro entry
  simp only [mem_insert, mem_erase]
  grind

theorem insert_get? (found : map.get? key = some value) : map.insert key value = map := by
  apply ext_mem
  intro entry
  have present := get?_eq_some_iff.mp found
  rw [mem_insert]
  constructor
  · rintro (rfl | ⟨member, _⟩)
    · exact present
    · exact member
  · intro member
    by_cases same : entry.1 = key
    · exact .inl (mem_unique member present same)
    · exact .inr ⟨member, same⟩

theorem erase_of_get?_none (missing : map.get? key = none) : map.erase key = map := by
  apply ext_mem
  intro entry
  rw [mem_erase]
  exact ⟨And.left, fun member => ⟨member, get?_eq_none_iff.mp missing entry member⟩⟩

theorem isEmpty_iff : map.isEmpty = true ↔ ∀ entry, entry ∉ map := by
  simp [isEmpty, mem_def, List.eq_nil_iff_forall_not_mem]

/-! ## Searches by key -/

theorem first?_eq_none_iff : map.first? = none ↔ ∀ entry, entry ∉ map := by
  simp [first?, mem_def, List.eq_nil_iff_forall_not_mem]

theorem first?_mem (found : map.first? = some entry) : entry ∈ map :=
  List.mem_of_mem_head? found

theorem first?_le {entry other : κ × β}
    (found : map.first? = some entry) (member : other ∈ map) : entry.1 ≤ other.1 := by
  obtain ⟨entries, sorted⟩ := map
  cases entries with
  | nil => simp [first?] at found
  | cons head rest =>
      rw [List.pairwise_cons] at sorted
      have same : head = entry := by simpa [first?] using found
      subst same
      rcases List.mem_cons.mp member with rfl | member
      · exact le_refl _
      · exact (sorted.1 other member).le

theorem first?_insert_first {old : β} (value : β) (found : map.first? = some (key, old)) :
    (map.insert key value).first? = some (key, value) := by
  obtain ⟨entries, sorted⟩ := map
  cases entries with
  | nil => simp [first?] at found
  | cons head rest =>
      have same : head = (key, old) := by simpa [first?] using found
      subst same
      simp [first?, insert, insertEntries]

theorem popFirst_eq_erase (found : map.first? = some entry) : map.popFirst = map.erase entry.1 := by
  obtain ⟨entries, sorted⟩ := map
  cases entries with
  | nil => simp [first?] at found
  | cons head rest =>
      rw [List.pairwise_cons] at sorted
      have same : head = entry := by simpa [first?] using found
      subst same
      have kept : rest.filter (fun other => other.1 ≠ head.1) = rest := by
        apply List.filter_eq_self.mpr
        intro other member
        simpa using (sorted.1 other member).ne'
      simp only [popFirst, erase, List.tail_cons, List.filter_cons, ne_eq, not_true_eq_false,
        decide_false, Bool.false_eq_true, ↓reduceIte]
      congr 1
      exact kept.symm

theorem entries_insert_first {old : β} {rest : List (κ × β)}
    (shape : map.entries = (key, old) :: rest) (value : β) :
    (map.insert key value).entries = (key, value) :: rest := by
  simp [insert, insertEntries, shape]

theorem entries_erase_first {old : β} {rest : List (κ × β)}
    (shape : map.entries = (key, old) :: rest) : (map.erase key).entries = rest := by
  have found : map.first? = some (key, old) := by rw [first?, shape, List.head?_cons]
  rw [← popFirst_eq_erase found]
  exact congrArg List.tail shape

theorem firstGE?_eq_none_iff : map.firstGE? key = none ↔ ∀ entry ∈ map, entry.1 < key := by
  simp [firstGE?, mem_def]

private theorem find?_least (sorted : entries.Pairwise (fun left right => left.1 < right.1))
    {test : κ × β → Bool} (found : entries.find? test = some entry) :
    entry ∈ entries ∧ test entry = true ∧
      ∀ other ∈ entries, test other = true → entry.1 ≤ other.1 := by
  induction entries with
  | nil => simp at found
  | cons head rest ih =>
      rw [List.pairwise_cons] at sorted
      rw [List.find?_cons] at found
      split at found
      · next accepted =>
          cases found
          refine ⟨List.mem_cons_self, accepted, ?_⟩
          intro other member _
          rcases List.mem_cons.mp member with rfl | member
          · exact le_refl _
          · exact (sorted.1 other member).le
      · next rejected =>
          obtain ⟨member, accepted, least⟩ := ih sorted.2 found
          refine ⟨List.mem_cons_of_mem _ member, accepted, ?_⟩
          intro other present tested
          rcases List.mem_cons.mp present with rfl | present
          · simp [rejected] at tested
          · exact least other present tested

theorem firstGE?_spec (found : map.firstGE? key = some entry) :
    entry ∈ map ∧ key ≤ entry.1 ∧ ∀ other ∈ map, key ≤ other.1 → entry.1 ≤ other.1 := by
  obtain ⟨member, accepted, least⟩ := find?_least map.sorted found
  simp only [decide_eq_true_eq] at accepted least
  exact ⟨member, accepted, least⟩

private theorem getLast?_greatest (sorted : entries.Pairwise (fun left right => left.1 < right.1))
    (found : entries.getLast? = some entry) :
    entry ∈ entries ∧ ∀ other ∈ entries, other.1 ≤ entry.1 := by
  obtain ⟨front, rfl⟩ := List.getLast?_eq_some_iff.mp found
  refine ⟨by simp, ?_⟩
  intro other member
  rw [List.pairwise_append] at sorted
  rcases List.mem_append.mp member with member | member
  · exact (sorted.2.2 other member entry (by simp)).le
  · have same : other = entry := by simpa using member
    exact same ▸ le_refl _

theorem lastLE?_eq_none_iff : map.lastLE? key = none ↔ ∀ entry ∈ map, key < entry.1 := by
  simp [lastLE?, mem_def]

theorem lastLE?_spec (found : map.lastLE? key = some entry) :
    entry ∈ map ∧ entry.1 ≤ key ∧ ∀ other ∈ map, other.1 ≤ key → other.1 ≤ entry.1 := by
  obtain ⟨member, greatest⟩ := getLast?_greatest (map.sorted.filter _) found
  simp only [List.mem_filter, decide_eq_true_eq] at member greatest
  exact ⟨member.1, member.2, fun other present below => greatest other ⟨present, below⟩⟩

theorem last?_spec (found : map.last? = some entry) :
    entry ∈ map ∧ ∀ other ∈ map, other.1 ≤ entry.1 :=
  getLast?_greatest map.sorted found

/-! ## Sizes and sums -/

theorem size_erase_lt (member : entry ∈ map) : (map.erase entry.1).size < map.size := by
  apply List.length_filter_lt_length_iff_exists.mpr
  exact ⟨entry, member, by simp⟩

theorem size_erase_le (map : OrdMap κ β) (key : κ) : (map.erase key).size ≤ map.size :=
  List.length_filter_le _ _

theorem size_popFirst (map : OrdMap κ β) : map.popFirst.size = map.size - 1 :=
  List.length_tail

private theorem length_insertEntries (key : κ) (value : β) (entries : List (κ × β)) :
    (insertEntries key value entries).length ≤ entries.length + 1 := by
  induction entries with
  | nil => simp [insertEntries]
  | cons head rest ih =>
      rw [insertEntries]
      split_ifs
      · exact le_refl _
      · exact Nat.le_succ _
      · exact Nat.succ_le_succ ih

theorem size_insert_le (map : OrdMap κ β) (key : κ) (value : β) :
    (map.insert key value).size ≤ map.size + 1 :=
  length_insertEntries key value map.entries

def total (measure : κ × β → Nat) (map : OrdMap κ β) : Nat :=
  (map.entries.map measure).sum

section

variable (measure : κ × β → Nat)

private theorem total_insertEntries_fresh (value : β) (fresh : ∀ entry ∈ entries, entry.1 ≠ key) :
    ((insertEntries key value entries).map measure).sum =
      (entries.map measure).sum + measure (key, value) := by
  induction entries with
  | nil => simp [insertEntries]
  | cons head rest ih =>
      rw [insertEntries]
      have apart : head.1 ≠ key := fresh head List.mem_cons_self
      split_ifs with before same
      · simp only [List.map_cons, List.sum_cons]
        omega
      · exact absurd same.symm apart
      · have recursive := ih (fun entry member => fresh entry (List.mem_cons_of_mem _ member))
        simp only [List.map_cons, List.sum_cons, recursive]
        omega

theorem total_insert_fresh (value : β) (fresh : map.get? key = none) :
    total measure (map.insert key value) = total measure map + measure (key, value) :=
  total_insertEntries_fresh measure value (get?_eq_none_iff.mp fresh)

private theorem total_erase_mem
    (sorted : entries.Pairwise (fun left right => left.1 < right.1)) (member : entry ∈ entries) :
    ((entries.filter (fun other => other.1 ≠ entry.1)).map measure).sum + measure entry =
      (entries.map measure).sum := by
  induction entries with
  | nil => simp at member
  | cons head rest ih =>
      rw [List.pairwise_cons] at sorted
      rcases List.mem_cons.mp member with rfl | member
      · have kept : rest.filter (fun other => other.1 ≠ entry.1) = rest := by
          apply List.filter_eq_self.mpr
          intro other present
          simpa using (sorted.1 other present).ne'
        rw [List.filter_cons_of_neg (by simp), kept]
        simp only [List.map_cons, List.sum_cons]
        omega
      · have apart : head.1 ≠ entry.1 := (sorted.1 entry member).ne
        have recursive := ih sorted.2 member
        rw [List.filter_cons_of_pos (by simpa using apart)]
        simp only [List.map_cons, List.sum_cons]
        omega

theorem total_erase (found : map.get? key = some value) :
    total measure (map.erase key) + measure (key, value) = total measure map :=
  total_erase_mem measure map.sorted (get?_eq_some_iff.mp found)

private theorem total_insertEntries_erase (key : κ) (value : β)
    (sorted : entries.Pairwise (fun left right => left.1 < right.1)) :
    ((insertEntries key value entries).map measure).sum =
      ((entries.filter (fun entry => entry.1 ≠ key)).map measure).sum + measure (key, value) := by
  by_cases present : ∃ old, (key, old) ∈ entries
  · obtain ⟨old, member⟩ := present
    have removed := total_erase_mem measure sorted member
    induction entries with
    | nil => simp at member
    | cons head rest ih =>
        rw [List.pairwise_cons] at sorted
        rw [insertEntries]
        rcases List.mem_cons.mp member with same | member
        · subst same
          rw [if_neg (lt_irrefl _), if_pos rfl]
          simp only [List.map_cons, List.sum_cons] at removed ⊢
          omega
        · have above : head.1 < key := sorted.1 (key, old) member
          have recursive := ih sorted.2 member (total_erase_mem measure sorted.2 member)
          rw [if_neg (lt_asymm above), if_neg above.ne', List.filter_cons_of_pos (by simpa using above.ne)]
          simp only [List.map_cons, List.sum_cons, recursive]
          omega
  · have fresh : ∀ entry ∈ entries, entry.1 ≠ key := by
      rintro ⟨other, old⟩ member rfl
      exact present ⟨old, member⟩
    rw [total_insertEntries_fresh measure value fresh,
      List.filter_eq_self.mpr (by simpa using fresh)]

/-- Replacing an entry exchanges its measure for the new one. -/
theorem total_insert {old : β} (value : β) (found : map.get? key = some old) :
    total measure (map.insert key value) + measure (key, old) =
      total measure map + measure (key, value) := by
  have removed := total_erase measure found
  have replaced := total_insertEntries_erase measure key value map.sorted
  simp only [total, insert, erase] at removed replaced ⊢
  omega

end

theorem total_le_total {left right : κ × β → Nat}
    (less : ∀ entry ∈ map, left entry ≤ right entry) : map.total left ≤ map.total right :=
  List.sum_le_sum less

end OrdMap

end Tquic.Lib
