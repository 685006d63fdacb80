import Mathlib.Analysis.Matrix.PosDef
import Mathlib.Algebra.Order.Star.Real
import Tquic.MultipathScheduler.LinUcb

/-! The design matrices of the LinUCB scheduler over the reals: they stay above the identity, and
such a matrix is inverted exactly. -/

set_option autoImplicit false

namespace Tquic.MultipathScheduler

open Lib Matrix

universe u

/-! ## The search for a pivot -/

section Pivot

variable {K : Type u} [Field K] [LinearOrder K] {a : Matrix (Fin D) (Fin D) K} {col : Fin D}

structure Largest (a : Matrix (Fin D) (Fin D) K) (col : Fin D) (passed : List (Fin D))
    (best : Fin D × K) : Prop where
  late : col ≤ best.1
  value : best.2 = |a best.1 col|
  own : |a col col| ≤ best.2
  highest : ∀ row ∈ passed, |a row col| ≤ best.2

theorem Largest.consider {passed : List (Fin D)} {best : Fin D × K}
    (largest : Largest a col passed best) {row : Fin D} (late : col ≤ row) :
    Largest a col (row :: passed) (if |a row col| > best.2 then (row, |a row col|) else best) := by
  split_ifs with larger
  · refine ⟨late, rfl, largest.own.trans larger.le, fun other found => ?_⟩
    rcases List.mem_cons.mp found with rfl | earlier
    · exact le_rfl
    · exact (largest.highest other earlier).trans larger.le
  · refine ⟨largest.late, largest.value, largest.own, fun other found => ?_⟩
    rcases List.mem_cons.mp found with rfl | earlier
    · exact not_lt.mp larger
    · exact largest.highest other earlier

theorem Largest.foldl {rows passed : List (Fin D)} {best : Fin D × K}
    (largest : Largest a col passed best) (late : ∀ row ∈ rows, col ≤ row) :
    Largest a col (rows.reverse ++ passed) (rows.foldl
      (fun best row => if |a row col| > best.2 then (row, |a row col|) else best) best) := by
  induction rows generalizing passed best with
  | nil => exact largest
  | cons row rows ih =>
      have next := ih (largest.consider (late row (.head _))) fun row found => late row (.tail _ found)
      simpa using next

private theorem largest_pivotRow (a : Matrix (Fin D) (Fin D) K) (col : Fin D) :
    col ≤ (pivotRow a col).1 ∧ (pivotRow a col).2 = |a (pivotRow a col).1 col| ∧
      ∀ row, col ≤ row → |a row col| ≤ (pivotRow a col).2 := by
  have start : Largest a col [] (col, |a col col|) := ⟨le_rfl, rfl, le_rfl, by simp⟩
  have late : ∀ row ∈ (List.finRange D).filter (col < ·), col ≤ row :=
    fun row found => le_of_lt (by simpa using found)
  have largest := start.foldl late
  refine ⟨largest.late, largest.value, fun row late => ?_⟩
  rcases late.eq_or_lt with rfl | later
  · exact largest.own
  · exact largest.highest row (by simpa using later)

end Pivot

/-! ## Exact inverses -/

section Inverse

variable {K : Type u} [Field K] [LinearOrder K] [IsStrictOrderedRing K]
  {m : Matrix (Fin D) (Fin D) K}

/-- No round takes the singular branch. -/
theorem reduceColumn_reduced (expansive : Expansive m) (col : Fin D)
    (state : Matrix (Fin D) (Fin D) K × Matrix (Fin D) (Fin D) K)
    (reduced : Reduced m col state.1 state.2) :
    ∃ next, reduceColumn state col = some next ∧ Reduced m (col + 1) next.1 next.2 := by
  obtain ⟨a, inv⟩ := state
  obtain ⟨late, value, highest⟩ := largest_pivotRow a col
  have sizeable : 1 ≤ (D : K) * (pivotRow a col).2 ^ 2 := reduced.one_le_pivots expansive highest
  have positive : 0 ≤ (pivotRow a col).2 := value ▸ abs_nonneg _
  have regular : ¬ (pivotRow a col).2 < constant 1 (10 ^ 15) := by
    intro small
    have square : (pivotRow a col).2 ^ 2 < (constant 1 (10 ^ 15) : K) ^ 2 := by gcongr
    norm_num [constant] at sizeable square
    linarith
  have pivot : swapRows col (pivotRow a col).1 a col col ≠ 0 := by
    intro zero
    rw [swapRows, Equiv.swap_apply_left] at zero
    refine regular ?_
    rw [value, zero, abs_zero, constant]
    positivity
  refine ⟨_, if_neg regular, ?_⟩
  exact (reduced.swap le_rfl late).eliminate pivot

/-- A matrix that makes no vector shorter is inverted exactly. -/
theorem matInv_exact (expansive : Expansive m) :
    reduceColumns m = some (1, matInv m) ∧ matInv m * m = 1 ∧ m * matInv m = 1 := by
  obtain ⟨⟨a, inv⟩, folded, reduced⟩ := foldlM_finRange reduceColumn
    (fun done state => Reduced m done state.1 state.2)
    (fun col state => reduceColumn_reduced expansive col state) (m, 1) (Reduced.start m)
  have columns : reduceColumns m = some (a, inv) := folded
  have inverse : matInv m = inv := by rw [matInv, columns]
  obtain ⟨left, right⟩ := reduced.inverse
  have one : a = 1 := reduced.product.symm.trans left
  rw [inverse, columns, one]
  exact ⟨rfl, left, right⟩

end Inverse

/-! ## Arms over the reals -/

def AboveIdentity (m : Matrix (Fin D) (Fin D) ℝ) : Prop := m.IsSymm ∧ (m - 1).PosSemidef

namespace AboveIdentity

variable {m : Matrix (Fin D) (Fin D) ℝ}

theorem of_posSemidef (semidefinite : (m - 1).PosSemidef) : AboveIdentity m := by
  refine ⟨?_, semidefinite⟩
  have symmetric : (m - 1)ᵀ = m - 1 := by
    simpa [IsHermitian, conjTranspose_eq_transpose_of_trivial] using semidefinite.isHermitian
  rw [transpose_sub, transpose_one] at symmetric
  exact sub_left_injective symmetric

theorem expansive (above : AboveIdentity m) : Expansive m := by
  refine .of_quadratic fun v => ?_
  have nonneg := above.2.dotProduct_mulVec_nonneg v
  rw [star_trivial, sub_mulVec, one_mulVec, dotProduct_sub] at nonneg
  linarith

theorem updateArm {arm : ArmState ℝ} (above : AboveIdentity arm.a) (x : Fin D → ℝ) (reward : ℝ) :
    AboveIdentity (arm.updateArm x reward).a := by
  refine of_posSemidef ?_
  have split : (arm.updateArm x reward).a - 1 = (arm.a - 1) + vecMulVec x (star x) := by
    ext i j
    simp only [ArmState.updateArm_apply, Matrix.sub_apply, Matrix.add_apply, vecMulVec_apply,
      star_trivial]
    ring
  rw [split]
  exact above.2.add (posSemidef_vecMulVec_self_star x)

theorem decay {arm : ArmState ℝ} (above : AboveIdentity arm.a) {factor : ℝ}
    (nonneg : 0 ≤ factor) : AboveIdentity (arm.decay factor).a := by
  refine of_posSemidef ?_
  have scaled : (arm.decay factor).a - 1 = factor • (arm.a - 1) := by
    ext i j
    simp only [ArmState.decay_apply, Matrix.sub_apply, Matrix.smul_apply, Matrix.one_apply,
      smul_eq_mul]
    split_ifs <;> ring
  rw [scaled]
  exact above.2.smul nonneg

theorem forgetArm {arm : ArmState ℝ} (above : AboveIdentity arm.a) {factor : ℝ}
    (nonneg : 0 ≤ factor) : AboveIdentity (arm.forgetArm factor).a := by
  have same : (arm.forgetArm factor).a = (arm.decay factor).a := by
    ext i j
    simp only [ArmState.forgetArm_apply, ArmState.decay_apply, mul_comm]
  rw [same]
  exact above.decay nonneg

theorem new : AboveIdentity (ArmState.new : ArmState ℝ).a :=
  of_posSemidef (by simpa [ArmState.new] using Matrix.PosSemidef.zero)

theorem reset : AboveIdentity (ArmState.reset : ArmState ℝ).a := by
  refine of_posSemidef ?_
  have scaled : (ArmState.reset : ArmState ℝ).a - 1 = (9 : ℝ) • (1 : Matrix (Fin D) (Fin D) ℝ) := by
    ext i j
    simp only [ArmState.reset_apply, Matrix.sub_apply, Matrix.smul_apply, Matrix.one_apply,
      smul_eq_mul]
    split_ifs <;> norm_num
  rw [scaled]
  exact Matrix.PosSemidef.one.smul (by norm_num)

end AboveIdentity

/-! ## The arms of the scheduler -/

private theorem mem_grow {α : Type u} {pathId : Nat} {fill entry : α} {entries : List α}
    (found : entry ∈ grow pathId fill entries) : entry = fill ∨ entry ∈ entries := by
  unfold grow at found
  split_ifs at found with beyond
  · rcases List.mem_append.mp found with earlier | filled
    · exact .inr (List.mem_of_mem_take earlier)
    · exact .inl (List.eq_of_mem_replicate filled)
  · exact .inr found

/-- A property of arms that whatever the scheduler does to an arm keeps. -/
structure Kept {K : Type u} [Field K] (Holds : ArmState K → Prop) : Prop where
  new : Holds .new
  updateArm : ∀ arm x reward, Holds arm → Holds (arm.updateArm x reward)
  decay : ∀ arm, Holds arm → Holds (arm.decay idleForgetFactor)
  reset : Holds .reset

namespace LinUCBScheduler

section Slots

variable {K : Type u} {Holds : ArmState K → Prop} {scheduler : LinUCBScheduler K}

def AllArms (Holds : ArmState K → Prop) (scheduler : LinUCBScheduler K) : Prop :=
  ∀ arm, some arm ∈ scheduler.arms → Holds arm

theorem AllArms.modifyArm (all : AllArms Holds scheduler) (pathId : Nat)
    {change : ArmState K → ArmState K} (keeps : ∀ arm, Holds arm → Holds (change arm)) :
    AllArms Holds (scheduler.modifyArm pathId change) := by
  intro arm found
  obtain ⟨index, entry⟩ := List.mem_iff_getElem?.mp found
  simp only [LinUCBScheduler.modifyArm, List.getElem?_modify] at entry
  cases old : scheduler.arms[index]? with
  | none => simp [old] at entry
  | some slot =>
      have member := List.mem_of_getElem? old
      rw [old, Option.map_eq_map, Option.map_some, Option.some.injEq] at entry
      split_ifs at entry
      · obtain ⟨before, rfl, rfl⟩ := Option.map_eq_some_iff.mp entry
        exact keeps before (all before member)
      · subst entry
        exact all arm member

private theorem takePendingContext_arms (scheduler : LinUCBScheduler K) (pathId : Nat) :
    (scheduler.takePendingContext pathId).2.arms = scheduler.arms := by
  unfold takePendingContext
  split_ifs <;> rfl

end Slots

section Arms

variable {K : Type u} [Field K] {Holds : ArmState K → Prop} {scheduler : LinUCBScheduler K}
  (kept : Kept Holds)
include kept

theorem AllArms.ensureArm (all : AllArms Holds scheduler) (pathId : Nat) :
    AllArms Holds (scheduler.ensureArm pathId) := by
  have grown : ∀ arm, some arm ∈ grow pathId none scheduler.arms → Holds arm := by
    intro arm found
    rcases mem_grow found with filled | earlier
    · cases filled
    · exact all arm earlier
  intro arm found
  simp only [LinUCBScheduler.ensureArm] at found
  split_ifs at found with missing
  · rcases List.mem_or_eq_of_mem_set found with earlier | added
    · exact grown arm earlier
    · cases added
      exact kept.new
  · exact grown arm found

theorem AllArms.penalizeStale (all : AllArms Holds scheduler) (now : Instant)
    (skipPathId : Option Nat) (pathId : Nat) :
    AllArms Holds (scheduler.penalizeStale now skipPathId pathId) := by
  unfold LinUCBScheduler.penalizeStale
  dsimp only
  split_ifs
  · exact all
  · exact all
  · split
    · exact (all.ensureArm kept pathId).modifyArm pathId fun arm => kept.updateArm arm _ 0
    · exact all

theorem AllArms.forgetIdle (all : AllArms Holds scheduler) (now : Instant) (row : RawRow) :
    AllArms Holds (scheduler.forgetIdle now row) := by
  unfold LinUCBScheduler.forgetIdle
  dsimp only
  split
  · split_ifs
    · exact AllArms.modifyArm (AllArms.ensureArm kept all row.pid) row.pid kept.decay
    · exact all
  · exact all

end Arms

section Calls

variable {K : Type u} [Field K] [LinearOrder K] {Holds : ArmState K → Prop}
  {scheduler : LinUCBScheduler K} (kept : Kept Holds)
include kept

theorem AllArms.resetOnJump (all : AllArms Holds scheduler) (pathId : Nat) (oldEma : K) :
    AllArms Holds (scheduler.resetOnJump pathId oldEma) := by
  unfold LinUCBScheduler.resetOnJump
  dsimp only
  split_ifs
  · exact all.modifyArm pathId fun _ _ => kept.reset
  · exact all

theorem AllArms.trainPending (all : AllArms Holds scheduler) (floats : Floats K) (pathId : Nat)
    (path : PathStats) : AllArms Holds (scheduler.trainPending floats pathId path) := by
  have taken : AllArms Holds (scheduler.takePendingContext pathId).2 := by
    rw [AllArms, takePendingContext_arms]
    exact all
  unfold LinUCBScheduler.trainPending
  split <;> rename_i pending <;> rw [pending] at taken
  · exact taken
  · exact AllArms.modifyArm taken pathId fun arm => kept.updateArm arm _ _

theorem AllArms.onAck (all : AllArms Holds scheduler) (floats : Floats K) (now : Instant)
    (pathId : Nat) (paths : List (Option PathStats)) :
    AllArms Holds (scheduler.onAck floats now pathId paths) := by
  have penalized : AllArms Holds (scheduler.penalizeStalePending now (some pathId)) :=
    penalizeStalePending_keeps (fun _ pathId all => all.penalizeStale kept now _ pathId) all
  unfold LinUCBScheduler.onAck
  dsimp only
  split
  · exact penalized
  · refine AllArms.trainPending kept (AllArms.resetOnJump kept ?_ pathId _) floats pathId _
    refine AllArms.ensureArm kept ?_ pathId
    unfold smoothRtt
    dsimp only
    split_ifs <;> exact penalized

variable [FloorSemiring K]

theorem AllArms.onSelect (all : AllArms Holds scheduler) (floats : Floats K) (now : Instant)
    (paths : List (Option PathStats)) : AllArms Holds (scheduler.onSelect floats now paths).2 := by
  refine onSelect_keeps ?_ ?_ ?_ ?_ all floats paths
  · exact fun _ pathId all => all.penalizeStale kept now none pathId
  · exact fun _ row all => all.forgetIdle kept now row
  · exact fun _ pathId all => all.ensureArm kept pathId
  · intro state next all same _ _
    rw [AllArms, same]
    exact all

private theorem allArms_after (floats : Floats K) (events : List LinUcbEvent) :
    AllArms Holds (after floats events) := by
  have start : AllArms Holds (new : LinUCBScheduler K) := fun arm found => nomatch found
  refine List.foldlRecOn events _ start fun scheduler all event _ => ?_
  cases event with
  | select now paths => exact all.onSelect kept floats now paths
  | ack now pathId paths => exact all.onAck kept floats now pathId paths

end Calls

end LinUCBScheduler

/-! ## Runs -/

inductive ArmStep (K : Type u) [Field K] [LinearOrder K] where
  | update (x : Fin D → K) (reward : K)
  | forget (factor : Set.Icc (0 : K) 1)
  | decay (factor : Set.Icc (0 : K) 1)
  | reset

def ArmState.step {K : Type u} [Field K] [LinearOrder K] (arm : ArmState K) :
    ArmStep K → ArmState K
  | .update x reward => arm.updateArm x reward
  | .forget factor => arm.forgetArm factor
  | .decay factor => arm.decay factor
  | .reset => .reset

theorem AboveIdentity.step {arm : ArmState ℝ} (above : AboveIdentity arm.a) (step : ArmStep ℝ) :
    AboveIdentity (arm.step step).a := by
  cases step with
  | update x reward => exact above.updateArm x reward
  | forget factor => exact above.forgetArm factor.2.1
  | decay factor => exact above.decay factor.2.1
  | reset => exact .reset

private theorem kept_aboveIdentity : Kept fun arm : ArmState ℝ => AboveIdentity arm.a where
  new := .new
  updateArm _ x reward above := above.updateArm x reward
  decay _ above := above.decay (by norm_num [idleForgetFactor, constant])
  reset := .reset

/-- The design matrix of an arm is symmetric and at least the identity, whatever happens to the
arm and in whatever order, and so are those of the scheduler. Every matrix like that is inverted
exactly, and no column of it is taken for singular. -/
theorem design_matrix_invertible :
    (∀ steps : List (ArmStep ℝ), AboveIdentity (steps.foldl ArmState.step .new).a) ∧
      (∀ (floats : Floats ℝ) (events : List LinUcbEvent) (arm : ArmState ℝ),
        some arm ∈ (LinUCBScheduler.after floats events).arms → AboveIdentity arm.a) ∧
      ∀ m, AboveIdentity m →
        reduceColumns m = some (1, matInv m) ∧ matInv m * m = 1 ∧ m * matInv m = 1 := by
  refine ⟨fun steps => ?_, fun floats events => ?_, fun m above => matInv_exact above.expansive⟩
  · exact List.foldlRecOn (motive := fun arm : ArmState ℝ => AboveIdentity arm.a) steps _ .new
      fun _ above step _ => above.step step
  · exact LinUCBScheduler.allArms_after kept_aboveIdentity floats events

/-- The matrix of an arm that was reset. -/
theorem design_matrix_invertible_reset :
    matInv (ArmState.reset : ArmState ℝ).a * (ArmState.reset : ArmState ℝ).a = 1 :=
  (design_matrix_invertible.2.2 _ .reset).2.1

end Tquic.MultipathScheduler
