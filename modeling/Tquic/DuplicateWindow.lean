import Tquic.Lib.Transition
import Tquic.Packet

/-! Which packet numbers count as received twice, after any sequence of received numbers. -/

set_option autoImplicit false

namespace Tquic

open Lib

namespace SeqNumWindow

/-- The window after the given numbers. -/
def received (seqs : List Nat) : SeqNumWindow := seqs.foldl insert empty

def largest (seqs : List Nat) : Nat := seqs.foldl max 0

/-- A number counts as received when it was, or when it is older than the window. -/
def Exact (seqs : List Nat) : Prop :=
  ∀ seq, (received seqs).contains seq = true ↔ seq ∈ seqs ∨ seq + (seqNumWindowSize - 1) < largest seqs

/-- The last number that has a place in the window. The window is never shorter than its size. -/
def reach (seqs : List Nat) : Nat := max (seqNumWindowSize - 1) (largest seqs)

/-- A number beyond the window, at a distance of which only the last 32 bits are shifted: an
earlier number keeps a place in the window, and not the place of the new number. -/
def Misplaces (seqs : List Nat) (seq : Nat) : Prop :=
  2 ^ 32 ≤ seq - reach seqs ∧
    ∃ earlier ∈ seqs, 0 < reach seqs - earlier + (seq - reach seqs) % 2 ^ 32 ∧
      reach seqs - earlier + (seq - reach seqs) % 2 ^ 32 < seqNumWindowSize

/-! ## One bit for each number -/

private theorem and_bit_ne_zero (window : BitVec 128) {place : Nat} (inside : place < 128) :
    window &&& 1#128 <<< place ≠ 0 ↔ window.getLsbD place = true := by
  constructor
  · intro differs
    by_contra clear
    refine differs ?_
    ext position bound
    simp only [BitVec.getElem_and, BitVec.getElem_shiftLeft, BitVec.getElem_one,
      BitVec.ofNat_eq_ofNat, BitVec.getElem_zero]
    grind
  · intro marked zero
    have bit := congrArg (fun all => all.getLsbD place) zero
    rw [BitVec.getLsbD_and, marked] at bit
    simp [inside] at bit

theorem getLsbD_bit {place position : Nat} (inside : position < 128) :
    (1#128 <<< place).getLsbD position = decide (position = place) := by
  rw [BitVec.getLsbD_eq_getElem inside, BitVec.getElem_shiftLeft, BitVec.getElem_one]
  grind

section Window

variable {win : SeqNumWindow} {seq other : Nat}

theorem upper_eq (room : win.lower < 2 ^ 63) : win.upper = win.lower + 127 := by
  unfold upper seqNumWindowSize
  omega

theorem contains_iff (room : win.lower < 2 ^ 63) :
    win.contains seq = true ↔
      seq < win.lower ∨ seq ≤ win.upper ∧ win.window.getLsbD (win.upper - seq) = true := by
  have top := upper_eq room
  unfold contains
  split_ifs with beyond old
  · simp only [false_iff]
    omega
  · simp only [true_iff]
    exact .inl old
  · rw [decide_eq_true_iff, and_bit_ne_zero _ (by omega)]
    constructor
    · intro marked
      exact .inr ⟨by omega, marked⟩
    · rintro (old' | ⟨_, marked⟩)
      · omega
      · exact marked

/-- A number in the window takes its place. -/
theorem contains_insert_inside (room : win.lower < 2 ^ 63) (inside : seq ≤ win.upper) :
    (win.insert seq).lower = win.lower ∧ ((win.insert seq).contains other = true ↔
        win.contains other = true ∨ seq = other) := by
  have top := upper_eq room
  by_cases old : seq < win.lower
  · unfold insert
    rw [if_pos old]
    refine ⟨rfl, (or_iff_left_of_imp ?_).symm⟩
    rintro rfl
    exact (contains_iff room).mpr (.inl old)
  · have inserted : win.insert seq =
        { win with window := win.window ||| 1#128 <<< (win.upper - seq) } := by
      unfold insert slide
      rw [if_neg old, if_neg (by omega)]
    have sameUpper : (win.insert seq).upper = win.upper := by
      rw [inserted]
      rfl
    have sameLower : (win.insert seq).lower = win.lower := by rw [inserted]
    refine ⟨sameLower, ?_⟩
    rw [contains_iff (by rwa [sameLower]), contains_iff room, sameUpper, sameLower, inserted]
    dsimp only
    rcases Nat.lt_or_ge win.upper other with above | below
    · have apart : seq ≠ other := by omega
      simp only [Nat.not_le.mpr above, false_and, or_false, apart]
    · have place : win.upper - other = win.upper - seq ↔ seq = other := by omega
      rcases Nat.lt_or_ge other win.lower with older | inside'
      · simp only [older, true_or]
      · rw [BitVec.getLsbD_or, getLsbD_bit (by omega), Bool.or_eq_true, decide_eq_true_iff, place]
        simp only [Nat.not_lt.mpr inside', false_or, below, true_and]

/-- A number beyond the window shifts it, by the distance cut to 32 bits. -/
theorem contains_insert_beyond (room : win.lower < 2 ^ 63) (small : seq < 2 ^ 63)
    (beyond : win.upper < seq) :
    (win.insert seq).lower + 127 = seq ∧ ((win.insert seq).contains other = true ↔
        other + 127 < seq ∨ other = seq ∨
          other ≤ seq ∧ (seq - win.upper) % 2 ^ 32 ≤ seq - other ∧
            win.window.getLsbD (seq - other - (seq - win.upper) % 2 ^ 32) = true) := by
  have top := upper_eq room
  generalize distance : (seq - win.upper) % 2 ^ 32 = shift
  have moved : win.insert seq =
      { lower := win.lower + (seq - win.upper)
        window := (if shift < 128 then win.window <<< shift else 0) |||
          1#128 <<< (upper ⟨win.lower + (seq - win.upper), 0⟩ - seq) } := by
    unfold insert slide
    rw [if_neg (by omega), if_pos beyond]
    dsimp only
    rw [distance]
    rfl
  have low : (win.insert seq).lower + 127 = seq := by
    rw [moved]
    dsimp only
    omega
  have newTop : (win.insert seq).upper = seq := by
    rw [upper_eq (by omega), low]
  have marks : (upper ⟨win.lower + (seq - win.upper), 0⟩ : Nat) = seq := by
    rw [upper_eq (by dsimp only; omega)]
    dsimp only
    omega
  refine ⟨low, ?_⟩
  rw [contains_iff (by omega), newTop]
  rcases Nat.lt_or_ge other (win.insert seq).lower with older | newer
  · have old : other + 127 < seq := by omega
    simp only [older, old, true_or]
  · have recent : ¬ other + 127 < seq := by omega
    have inside : seq - other < 128 := by omega
    simp only [Nat.not_lt.mpr newer, recent, false_or]
    rw [moved, marks, BitVec.getLsbD_or, getLsbD_bit inside, Nat.sub_self, Bool.or_eq_true,
      decide_eq_true_iff]
    have shifted : (if shift < 128 then win.window <<< shift else 0).getLsbD (seq - other) = true ↔
        shift ≤ seq - other ∧ win.window.getLsbD (seq - other - shift) = true := by
      split_ifs with near
      · rw [BitVec.getLsbD_shiftLeft]
        simp [inside]
      · simp
        omega
    rw [shifted]
    constructor
    · rintro ⟨before, ⟨near, bit⟩ | same⟩
      · exact .inr ⟨before, near, bit⟩
      · exact .inl (by omega)
    · rintro (rfl | ⟨before, near, bit⟩)
      · exact ⟨Nat.le_refl _, .inr (Nat.sub_self _)⟩
      · exact ⟨before, .inl ⟨near, bit⟩⟩

/-- What was seen stays seen. -/
theorem contains_insert (room : win.lower < 2 ^ 62) (small : seq < 2 ^ 62)
    (seen : win.contains other = true ∨ other = seq) :
    (win.insert seq).lower < 2 ^ 62 ∧ (win.insert seq).contains other = true := by
  have top := @upper_eq win (by omega)
  rcases Nat.lt_or_ge win.upper seq with beyond | inside
  · obtain ⟨low, exactly⟩ := @contains_insert_beyond win seq other (by omega) (by omega) beyond
    refine ⟨by omega, exactly.mpr ?_⟩
    rcases seen with seen | rfl
    · by_cases far : other + 127 < seq
      · exact .inl far
      rcases (contains_iff (by omega)).mp seen with old | ⟨within, bit⟩
      · omega
      · -- The window moves by less than its width, so no bit of the distance is cut off.
        have near : (seq - win.upper) % 2 ^ 32 = seq - win.upper := Nat.mod_eq_of_lt (by omega)
        refine .inr (.inr ⟨by omega, by omega, ?_⟩)
        rw [near, show seq - other - (seq - win.upper) = win.upper - other by omega]
        exact bit
    · exact .inr (.inl rfl)
  · obtain ⟨low, exactly⟩ := @contains_insert_inside win seq other (by omega) inside
    exact ⟨by omega, exactly.mpr (seen.imp_right Eq.symm)⟩

end Window

/-! ## All the numbers -/

section Received

variable {front : List Nat} {seq : Nat}

theorem received_append (front : List Nat) (seq : Nat) :
    received (front ++ [seq]) = (received front).insert seq := by
  unfold received
  rw [List.foldl_append]
  rfl

theorem largest_append (front : List Nat) (seq : Nat) :
    largest (front ++ [seq]) = max (largest front) seq := by
  unfold largest
  rw [List.foldl_append]
  rfl

theorem le_largest (found : seq ∈ front) : seq ≤ largest front := by
  induction front using List.reverseRecOn with
  | nil => cases found
  | append_singleton front last ih =>
      rw [largest_append]
      rcases List.mem_append.mp found with earlier | last'
      · exact (ih earlier).trans (Nat.le_max_left _ _)
      · rw [List.mem_singleton.mp last']
        exact Nat.le_max_right _ _

section

variable (small : ∀ seq ∈ front, seq < 2 ^ 62)

include small

theorem largest_lt : largest front < 2 ^ 62 := by
  induction front using List.reverseRecOn with
  | nil => decide
  | append_singleton front last ih =>
      have before := ih fun seq found => small seq (List.mem_append_left _ found)
      have last' := small last (List.mem_append_right _ (.head _))
      rw [largest_append]
      omega

/-- The end of the window depends on the largest number alone. -/
theorem lower_received : (received front).lower + 127 = reach front := by
  induction front using List.reverseRecOn with
  | nil => rfl
  | append_singleton front last ih =>
      have before : ∀ seq ∈ front, seq < 2 ^ 62 :=
        fun seq found => small seq (List.mem_append_left _ found)
      have last' := small last (List.mem_append_right _ (.head _))
      have largestBound := largest_lt before
      have start := ih before
      unfold reach seqNumWindowSize at start ⊢
      have room : (received front).lower < 2 ^ 63 := by omega
      have top := upper_eq room
      rw [received_append, largest_append]
      rcases Nat.lt_or_ge (received front).upper last with beyond | inside
      · have low := (@contains_insert_beyond (received front) last 0 room (by omega) beyond).1
        omega
      · have low := (@contains_insert_inside (received front) last 0 room inside).1
        omega

theorem upper_received :
    (received front).lower < 2 ^ 63 ∧ (received front).upper = reach front := by
  have start := lower_received small
  have bound := largest_lt small
  have room : (received front).lower < 2 ^ 63 := by
    unfold reach seqNumWindowSize at start
    omega
  exact ⟨room, by rw [upper_eq room, start]⟩

theorem Exact.place (exactly : Exact front) {place : Nat} (inside : place < seqNumWindowSize) :
    (received front).window.getLsbD place = true ↔ reach front - place ∈ front := by
  have start := lower_received small
  obtain ⟨room, top⟩ := upper_received small
  have answer := exactly (reach front - place)
  rw [contains_iff room, top] at answer
  unfold seqNumWindowSize at inside answer
  have back : reach front - (reach front - place) = place := by omega
  have new : ¬ reach front - place < (received front).lower := by omega
  have recent : ¬ reach front - place + (128 - 1) < largest front := by
    unfold reach seqNumWindowSize at *
    omega
  rw [back] at answer
  simpa only [new, recent, false_or, or_false, Nat.sub_le, true_and] using answer

private theorem exact_inside (exactly : Exact front)
    (inside : seq ≤ reach front) : Exact (front ++ [seq]) := by
  obtain ⟨room, top⟩ := upper_received small
  intro other
  have kept := (@contains_insert_inside _ seq other room (by rwa [top])).2
  rw [received_append, kept, exactly other, List.mem_append, List.mem_singleton, largest_append]
  unfold reach seqNumWindowSize at *
  constructor
  · rintro ((found | old) | rfl)
    · exact .inl (.inl found)
    · exact .inr (by omega)
    · exact .inl (.inr rfl)
  · rintro ((found | rfl) | old)
    · exact .inl (.inl found)
    · exact .inr rfl
    · exact .inl (.inr (by omega))

theorem exact_beyond (new : seq < 2 ^ 62) (exactly : Exact front) (beyond : reach front < seq) :
    Exact (front ++ [seq]) ↔ ∀ other, seq ≤ other + 127 → other < seq →
      ((seq - reach front) % 2 ^ 32 ≤ seq - other ∧
        reach front - (seq - other - (seq - reach front) % 2 ^ 32) ∈ front ↔ other ∈ front) := by
  obtain ⟨room, top⟩ := upper_received small
  have bound : ∀ other ∈ front, other ≤ reach front :=
    fun other found => (le_largest found).trans (Nat.le_max_right _ _)
  have newLargest : largest (front ++ [seq]) = seq := by
    rw [largest_append]
    exact Nat.max_eq_right ((Nat.le_max_right _ _).trans (Nat.le_of_lt beyond))
  refine forall_congr' fun other => ?_
  have answer := (@contains_insert_beyond _ seq other room (by omega) (by rwa [top])).2
  rw [top] at answer
  rw [received_append, answer, newLargest, List.mem_append, List.mem_singleton]
  unfold seqNumWindowSize
  by_cases older : other + 127 < seq
  · simp only [older, true_or, or_true, Nat.not_le.mpr older, false_implies]
  · have close : seq ≤ other + 127 := Nat.not_lt.mp older
    rcases Nat.lt_trichotomy other seq with less | rfl | more
    · rw [exactly.place small (by unfold seqNumWindowSize; omega)]
      have apart : other ≠ seq := Nat.ne_of_lt less
      simp only [older, apart, false_or, or_false, Nat.le_of_lt less, true_and, less, close,
        true_implies]
    · simp only [true_or, or_true, Nat.lt_irrefl, false_implies, implies_true]
    · have absent : other ∉ front := fun found => by
        have before := bound other found
        omega
      have apart : other ≠ seq := (Nat.ne_of_lt more).symm
      simp only [older, apart, absent, Nat.not_le.mpr more, Nat.not_lt.mpr (Nat.le_of_lt more),
        false_and, or_false, false_implies, implies_true]

/-- One more number keeps the window exact, unless it is misplaced. -/
theorem exact_append (new : seq < 2 ^ 62)
    (exactly : Exact front) : Exact (front ++ [seq]) ↔ ¬ Misplaces front seq := by
  have bound : ∀ other ∈ front, other ≤ reach front :=
    fun other found => (le_largest found).trans (Nat.le_max_right _ _)
  have size : 127 ≤ reach front := Nat.le_max_left _ _
  rcases Nat.lt_or_ge (reach front) seq with beyond | inside
  · rw [exact_beyond small new exactly beyond]
    unfold Misplaces seqNumWindowSize
    generalize largestPlace : reach front = last at *
    rcases Nat.lt_or_ge (seq - last) (2 ^ 32) with near | far
    · -- All 32 bits of the distance are there: every place moves by the whole distance.
      have far : ¬ 2 ^ 32 ≤ seq - last := Nat.not_le.mpr near
      simp only [far, false_and, not_false_eq_true, iff_true]
      intro other close less
      rw [Nat.mod_eq_of_lt near]
      constructor
      · rintro ⟨before, found⟩
        rwa [show last - (seq - other - (seq - last)) = other by omega] at found
      · intro found
        have before := bound other found
        refine ⟨by omega, ?_⟩
        rwa [show last - (seq - other - (seq - last)) = other by omega]
    · -- No earlier number may have a place any more.
      generalize (seq - last) % 2 ^ 32 = shift
      simp only [far, true_and]
      constructor
      · rintro places ⟨earlier, found, positive, kept⟩
        have before := bound earlier found
        have ghost := (places (seq - (last - earlier + shift)) (by omega) (by omega)).mp
          ⟨by omega, by rwa [show last - (seq - (seq - (last - earlier + shift)) - shift) = earlier
            by omega]⟩
        have late := bound _ ghost
        omega
      · intro none other close less
        constructor
        · rintro ⟨before, found⟩
          exact absurd ⟨_, found, by omega, by omega⟩ none
        · intro found
          have before := bound other found
          omega
  · have same : ¬ Misplaces front seq := fun misplaces => by
      have far := misplaces.1
      omega
    simp only [same, not_false_eq_true, iff_true]
    exact exact_inside small exactly inside

end

end Received

/-- The numbers that were received, one after the other. -/
def receive (front : List Nat) (seq : Nat) : List Nat := front ++ [seq]

/-- Duplicate detection is exact after each of the numbers, if and only if none of them is so far
beyond the window that it misplaces an earlier one. -/
theorem duplicates_exact_iff (seqs : List Nat) (small : ∀ seq ∈ seqs, seq < 2 ^ 62) :
    Along receive (fun front seq => Exact (receive front seq)) [] seqs ↔
      Along receive (fun front seq => ¬ Misplaces front seq) [] seqs := by
  have none : (∀ seq ∈ ([] : List Nat), seq < 2 ^ 62) ∧ Exact [] := by
    refine ⟨fun _ absent => absurd absent List.not_mem_nil, fun seq => ?_⟩
    rw [contains_iff (by decide)]
    simp [received, empty, largest]
  refine @along_iff _ _ _ _ _ (fun front => (∀ seq ∈ front, seq < 2 ^ 62) ∧ Exact front) _
    (fun front seq found start => exact_append start.1 (small seq found) start.2)
    (fun front seq found start clear => ⟨?_, ?_⟩) [] none
  · intro other member
    rcases List.mem_append.mp member with earlier | last
    · exact start.1 other earlier
    · rw [List.mem_singleton.mp last]
      exact small seq found
  · exact (exact_append start.1 (small seq found) start.2).mpr clear

instance (seqs : List Nat) (seq : Nat) : Decidable (Misplaces seqs seq) :=
  inferInstanceAs (Decidable (_ ∧ _))

/-- A long jump after which nothing is left in the window. -/
theorem duplicates_exact_far :
    Along receive (fun front seq => Exact (receive front seq)) [] [0, 5, 2 ^ 32 + 300] :=
  (duplicates_exact_iff [0, 5, 2 ^ 32 + 300] (by decide)).mpr
    ⟨by decide, by decide, by decide, trivial⟩

/-- The number 2^32 was never received. -/
theorem duplicates_not_exact : ¬ ∀ seqs : List Nat, (∀ seq ∈ seqs, seq < 2 ^ 62) → Exact seqs := by
  intro all
  have exactly := all [0, 2 ^ 32 + 127] (by decide) (2 ^ 32)
  revert exactly
  decide

end SeqNumWindow

end Tquic
