import Mathlib.Data.List.FinRange
import Mathlib.LinearAlgebra.Matrix.NonsingularInverse
import Mathlib.Tactic.Linarith

/-! Gauss-Jordan elimination by row operations. Partial pivoting finds no small pivot in a matrix
that makes no vector shorter, although the block that is left to reduce need not be symmetric. -/

set_option autoImplicit false

namespace Tquic.Lib

open Matrix

universe u v

variable {K : Type u} {n : Nat}

/-! ## Row operations -/

section RowOperations

variable [Field K] {a m : Matrix (Fin n) (Fin n) K}

def swapRows (first second : Fin n) (a : Matrix (Fin n) (Fin n) K) : Matrix (Fin n) (Fin n) K :=
  fun row => a (Equiv.swap first second row)

def divideRow (target : Fin n) (divisor : K) (a : Matrix (Fin n) (Fin n) K) :
    Matrix (Fin n) (Fin n) K :=
  fun row col => if row = target then a row col / divisor else a row col

def subtractRow (source : Fin n) (factor : Fin n → K) (a : Matrix (Fin n) (Fin n) K) :
    Matrix (Fin n) (Fin n) K :=
  fun row col => if row = source then a row col else a row col - factor row * a source col

theorem divideRow_row (target : Fin n) (divisor : K) (row : Fin n) :
    divideRow target divisor a row = if row = target then divisor⁻¹ • a row else a row := by
  funext col
  by_cases same : row = target <;> simp [divideRow, same, div_eq_inv_mul]

theorem subtractRow_row (source : Fin n) (factor : Fin n → K) (row : Fin n) :
    subtractRow source factor a row =
      if row = source then a row else a row - factor row • a source := by
  funext col
  by_cases same : row = source <;> simp [subtractRow, same]

theorem swapRows_mul (first second : Fin n) :
    swapRows first second a * m = swapRows first second (a * m) := rfl

theorem divideRow_mul (target : Fin n) (divisor : K) :
    divideRow target divisor a * m = divideRow target divisor (a * m) := by
  funext row
  rw [mul_apply_eq_vecMul, divideRow_row, divideRow_row, mul_apply_eq_vecMul]
  split_ifs
  · rw [smul_vecMul]
  · rfl

theorem subtractRow_mul (source : Fin n) (factor : Fin n → K) :
    subtractRow source factor a * m = subtractRow source factor (a * m) := by
  funext row
  rw [mul_apply_eq_vecMul, subtractRow_row, subtractRow_row, mul_apply_eq_vecMul,
    mul_apply_eq_vecMul]
  split_ifs
  · rfl
  · rw [sub_vecMul, smul_vecMul]

theorem swapRows_mulVec (first second : Fin n) (v : Fin n → K) :
    swapRows first second a *ᵥ v = (a *ᵥ v) ∘ Equiv.swap first second := rfl

theorem divideRow_mulVec (target : Fin n) (divisor : K) (v : Fin n → K) (row : Fin n) :
    (divideRow target divisor a *ᵥ v) row =
      if row = target then (a *ᵥ v) row / divisor else (a *ᵥ v) row := by
  change divideRow target divisor a row ⬝ᵥ v = _
  rw [divideRow_row]
  split_ifs
  · rw [smul_dotProduct, smul_eq_mul, div_eq_inv_mul]
    rfl
  · rfl

theorem subtractRow_mulVec (source : Fin n) (factor : Fin n → K) (v : Fin n → K) (row : Fin n) :
    (subtractRow source factor a *ᵥ v) row =
      if row = source then (a *ᵥ v) row else (a *ᵥ v) row - factor row * (a *ᵥ v) source := by
  change subtractRow source factor a row ⬝ᵥ v = _
  rw [subtractRow_row]
  split_ifs
  · rfl
  · rw [sub_dotProduct, smul_dotProduct]
    rfl

end RowOperations

/-! ## The invariant -/

/-- What holds when the first `done` columns are reduced: the operations done so far multiply up
to `inv`, and a vector that the reduced rows send to zero has an image of the same length as
before. -/
structure Reduced [Field K] (m : Matrix (Fin n) (Fin n) K) (done : Nat)
    (a inv : Matrix (Fin n) (Fin n) K) : Prop where
  product : inv * m = a
  unit : ∀ row col : Fin n, (col : Nat) < done → a row col = if row = col then 1 else 0
  length : ∀ v, (∀ row : Fin n, (row : Nat) < done → (a *ᵥ v) row = 0) →
    (a *ᵥ v) ⬝ᵥ (a *ᵥ v) = (m *ᵥ v) ⬝ᵥ (m *ᵥ v)

namespace Reduced

section Field

variable [Field K] {m a inv : Matrix (Fin n) (Fin n) K} {done : Nat}

theorem start (m : Matrix (Fin n) (Fin n) K) : Reduced m 0 m 1 where
  product := Matrix.one_mul m
  unit _ _ early := absurd early (Nat.not_lt_zero _)
  length _ _ := rfl

theorem swap (reduced : Reduced m done a inv) {first second : Fin n}
    (firstLate : done ≤ first) (secondLate : done ≤ second) :
    Reduced m done (swapRows first second a) (swapRows first second inv) := by
  have fixed : ∀ row : Fin n, (row : Nat) < done → Equiv.swap first second row = row := by
    intro row early
    refine Equiv.swap_apply_of_ne_of_ne ?_ ?_ <;> rintro rfl <;> omega
  constructor
  · rw [swapRows_mul, reduced.product]
  · intro row col early
    have same : Equiv.swap first second row = col ↔ row = col := by
      rw [Equiv.swap_apply_eq_iff, fixed col early]
    simp only [swapRows, reduced.unit _ col early, same]
  · intro v vanish
    rw [swapRows_mulVec] at vanish ⊢
    rw [comp_equiv_dotProduct_comp_equiv]
    refine reduced.length v fun row early => ?_
    simpa [fixed row early] using vanish row early

/-- Column `col` is reduced by its row, once the pivot is in place. -/
theorem eliminate {col : Fin n} (reduced : Reduced m col a inv) (pivot : a col col ≠ 0) :
    Reduced m (col + 1)
      (subtractRow col (fun row => divideRow col (a col col) a row col)
        (divideRow col (a col col) a))
      (subtractRow col (fun row => divideRow col (a col col) a row col)
        (divideRow col (a col col) inv)) := by
  constructor
  · rw [subtractRow_mul, divideRow_mul, reduced.product]
  · intro row other early
    rcases Nat.lt_or_eq_of_le (Nat.le_of_lt_succ early) with earlier | same
    · have apart : col ≠ other := by rintro rfl; omega
      have zero : a col other = 0 := by rw [reduced.unit col other earlier, if_neg apart]
      have entry := reduced.unit row other earlier
      by_cases own : row = col
      · subst own
        simp [subtractRow, divideRow, zero, apart]
      · simp [subtractRow, divideRow, own, zero, entry]
    · have same : other = col := Fin.ext same
      subst same
      by_cases own : row = other
      · subst own
        simp [subtractRow, divideRow, pivot]
      · simp [subtractRow, divideRow, own, pivot]
  · intro v vanish
    -- the pivot row vanishes on `v`, so that subtracting it changes nothing
    have pivotRow : (a *ᵥ v) col = 0 := by
      have zero := vanish col (Nat.lt_succ_self _)
      rw [subtractRow_mulVec, if_pos rfl, divideRow_mulVec, if_pos rfl, div_eq_zero_iff] at zero
      exact zero.resolve_right pivot
    have same : subtractRow col (fun row => divideRow col (a col col) a row col)
        (divideRow col (a col col) a) *ᵥ v = a *ᵥ v := by
      funext row
      rw [subtractRow_mulVec, divideRow_mulVec, divideRow_mulVec, if_pos rfl, pivotRow]
      by_cases own : row = col
      · simp [own, pivotRow]
      · simp [own]
    rw [same] at vanish ⊢
    exact reduced.length v fun row early => vanish row (Nat.lt_succ_of_lt early)

/-- A vector whose image is the part of column `col` that is not reduced yet. -/
theorem mulVec_residue {col : Fin n} (reduced : Reduced m col a inv) (row : Fin n) :
    (a *ᵥ (Pi.single col 1 - fun other : Fin n => if other < col then a other col else 0)) row =
      if row < col then 0 else a row col := by
  have rest : (a *ᵥ fun other : Fin n => if other < col then a other col else 0) row =
      if row < col then a row col else 0 := by
    have term : ∀ other : Fin n, a row other * (if other < col then a other col else 0) =
        if row = other then (if row < col then a row col else 0) else 0 := by
      intro other
      by_cases early : other < col
      · rw [reduced.unit row other early]
        by_cases same : row = other
        · subst same; simp [early]
        · simp [same]
      · by_cases same : row = other
        · subst same; simp [early]
        · simp [early, same]
    change ∑ other, a row other * _ = _
    rw [Finset.sum_congr rfl fun other _ => term other, Finset.sum_ite_eq]
    simp
  rw [Matrix.mulVec_sub, Pi.sub_apply, Matrix.mulVec_single_one, rest]
  split_ifs <;> simp

theorem inverse (reduced : Reduced m n a inv) : inv * m = 1 ∧ m * inv = 1 := by
  have one : inv * m = 1 := by
    rw [reduced.product]
    funext row col
    rw [reduced.unit row col col.isLt, Matrix.one_apply]
  exact ⟨one, mul_eq_one_comm.mp one⟩

end Field

end Reduced

/-! ## The pivots -/

section Ordered

variable [Field K] [LinearOrder K] [IsStrictOrderedRing K] {m a inv : Matrix (Fin n) (Fin n) K}

/-- No vector gets shorter. -/
def Expansive (m : Matrix (Fin n) (Fin n) K) : Prop :=
  ∀ v, v ⬝ᵥ v ≤ (m *ᵥ v) ⬝ᵥ (m *ᵥ v)

theorem Expansive.of_quadratic (above : ∀ v, v ⬝ᵥ v ≤ v ⬝ᵥ (m *ᵥ v)) : Expansive m := by
  intro v
  have square : 0 ≤ (m *ᵥ v - v) ⬝ᵥ (m *ᵥ v - v) :=
    Finset.sum_nonneg fun row _ => mul_self_nonneg _
  have expand : (m *ᵥ v - v) ⬝ᵥ (m *ᵥ v - v) =
      (m *ᵥ v) ⬝ᵥ (m *ᵥ v) - 2 * (v ⬝ᵥ (m *ᵥ v)) + v ⬝ᵥ v := by
    rw [sub_dotProduct, dotProduct_sub, dotProduct_sub, dotProduct_comm (m *ᵥ v) v]
    ring
  linarith [above v]

namespace Reduced

/-- The entries of column `col` that may become its pivot are not all small. -/
theorem one_le_pivots {col : Fin n} (reduced : Reduced m col a inv) (expansive : Expansive m)
    {bound : K} (bounded : ∀ row, col ≤ row → |a row col| ≤ bound) : 1 ≤ n * bound ^ 2 := by
  set v : Fin n → K :=
    Pi.single col 1 - fun other : Fin n => if other < col then a other col else 0 with vDef
  have image : ∀ row, (a *ᵥ v) row = if row < col then 0 else a row col := reduced.mulVec_residue
  have own : v col = 1 := by simp [vDef]
  calc
    1 = v col * v col := by rw [own, one_mul]
    _ ≤ v ⬝ᵥ v :=
        Finset.single_le_sum (fun row _ => mul_self_nonneg (v row)) (Finset.mem_univ col)
    _ ≤ (m *ᵥ v) ⬝ᵥ (m *ᵥ v) := expansive v
    _ = (a *ᵥ v) ⬝ᵥ (a *ᵥ v) :=
        (reduced.length v fun row early => (image row).trans (if_pos early)).symm
    _ ≤ ∑ _row : Fin n, bound ^ 2 := by
        refine Finset.sum_le_sum fun row _ => ?_
        rw [image row]
        split_ifs with early
        · simpa using sq_nonneg bound
        · rw [← sq, sq_le_sq]
          exact (bounded row (not_lt.mp early)).trans (le_abs_self bound)
    _ = n * bound ^ 2 := by simp

end Reduced

end Ordered

/-! ## Loops over the columns -/

/-- A loop over the columns in order never stops early if every round goes on and keeps an
invariant. -/
theorem foldlM_finRange {σ : Type v} (step : σ → Fin n → Option σ) (Holds : Nat → σ → Prop)
    (each : ∀ (col : Fin n) state, Holds col state →
      ∃ next, step state col = some next ∧ Holds (col + 1) next)
    (state : σ) (start : Holds 0 state) :
    ∃ last, (List.finRange n).foldlM step state = some last ∧ Holds n last := by
  induction n generalizing state Holds with
  | zero => exact ⟨state, rfl, start⟩
  | succ n ih =>
      obtain ⟨next, stepped, holds⟩ := each 0 state start
      obtain ⟨last, folded, final⟩ :=
        ih (fun state col => step state col.succ) (fun done => Holds (done + 1))
          (fun col state holds => each col.succ state holds) next holds
      refine ⟨last, ?_, final⟩
      rw [List.finRange_succ, List.foldlM_cons, stepped]
      exact (List.foldlM_map ..).trans folded

end Tquic.Lib
