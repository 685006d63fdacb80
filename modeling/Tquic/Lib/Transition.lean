import Mathlib.Logic.Relation

/-! Runs of deterministic machines with partial operations. An operation that is
not enabled in a state gives `none`. A guard restricts the steps of a run, so that
a result may speak about the runs that stay inside a condition. -/

set_option autoImplicit false

namespace Tquic.Lib

universe u v

variable {σ : Type u} {ι : Type v}

/-- States linked by guarded steps of `step`. -/
inductive Run (step : σ → ι → Option σ) (guard : σ → ι → Prop) : σ → σ → Prop where
  | refl {state} : Run step guard state state
  | tail {start state next} {op : ι} :
      Run step guard start state → guard state op → step state op = some next →
      Run step guard start next

def anyStep : σ → ι → Prop := fun _ _ => True

def exec (step : σ → ι → Option σ) : σ → List ι → Option σ
  | state, [] => some state
  | state, op :: rest =>
      match step state op with
      | none => none
      | some next => exec step next rest

variable {step : σ → ι → Option σ} {guard : σ → ι → Prop}

theorem Run.invariant {property : σ → Prop}
    (preserved : ∀ state op next, property state → guard state op →
      step state op = some next → property next)
    {start finish : σ} (run : Run step guard start finish) (initial : property start) :
    property finish := by
  induction run with
  | refl => exact initial
  | tail _ allowed stepped ih => exact preserved _ _ _ ih allowed stepped

theorem Run.head {start state finish : σ} {op : ι} (allowed : guard start op)
    (stepped : step start op = some state) (run : Run step guard state finish) :
    Run step guard start finish := by
  induction run with
  | refl => exact .tail .refl allowed stepped
  | tail _ last moved ih => exact .tail ih last moved

theorem Run.trans {start middle finish : σ} (former : Run step guard start middle)
    (latter : Run step guard middle finish) : Run step guard start finish := by
  induction latter with
  | refl => exact former
  | tail _ allowed stepped ih => exact .tail ih allowed stepped

theorem Run.single {start finish : σ} (op : ι) (stepped : step start op = some finish) :
    Run step anyStep start finish := .tail .refl trivial stepped

theorem Run.of_exec {start finish : σ} {ops : List ι}
    (executed : exec step start ops = some finish) : Run step anyStep start finish := by
  induction ops generalizing start with
  | nil =>
      cases executed
      exact .refl
  | cons op rest ih =>
      cases stepped : step start op with
      | none => simp [exec, stepped] at executed
      | some next =>
          simp only [exec, stepped] at executed
          exact .head trivial stepped (ih executed)

def checked (check : σ → ι → Bool) (step : σ → ι → Option σ) (state : σ) (op : ι) : Option σ :=
  if check state op then step state op else none

theorem Run.of_checked {check : σ → ι → Bool}
    (sound : ∀ state op, check state op = true → guard state op) {start finish : σ}
    (run : Run (checked check step) anyStep start finish) : Run step guard start finish := by
  induction run with
  | refl => exact .refl
  | tail _ _ stepped ih =>
      obtain ⟨passed, moved⟩ := Option.ite_none_right_eq_some.mp stepped
      exact .tail ih (sound _ _ passed) moved

/-! ## Machines whose operations always run -/

section Total

variable {move : σ → ι → σ} {holds clear : σ → ι → Prop}

/-- What holds of every operation in the state in which it is run. -/
def Along (move : σ → ι → σ) (holds : σ → ι → Prop) : σ → List ι → Prop
  | _, [] => True
  | state, op :: rest => holds state op ∧ Along move holds (move state op) rest

/-- Under an invariant that is only known to survive the operations that are clear, a property is
exactly that all are. -/
theorem along_iff {invariant : σ → Prop} {ops : List ι}
    (exactly : ∀ state, ∀ op ∈ ops, invariant state → (holds state op ↔ clear state op))
    (kept : ∀ state, ∀ op ∈ ops, invariant state → clear state op → invariant (move state op))
    {state : σ} (start : invariant state) :
    Along move holds state ops ↔ Along move clear state ops := by
  induction ops generalizing state with
  | nil => exact Iff.rfl
  | cons op rest ih =>
      have later := fun next => @ih (fun state op found => exactly state op (.tail _ found))
        (fun state op found => kept state op (.tail _ found)) next
      unfold Along
      rw [exactly state op (.head _) start]
      refine and_congr_right fun passes => ?_
      exact later _ (kept state op (.head _) start passes)

theorem along_of_invariant {invariant : σ → Prop} {ops : List ι}
    (gives : ∀ state, ∀ op ∈ ops, invariant state → holds state op)
    (kept : ∀ state, ∀ op ∈ ops, invariant state → invariant (move state op))
    {state : σ} (start : invariant state) : Along move holds state ops := by
  induction ops generalizing state with
  | nil => trivial
  | cons op rest ih =>
      refine ⟨gives state op (.head _) start, ?_⟩
      exact ih (fun state op found => gives state op (.tail _ found))
        (fun state op found => kept state op (.tail _ found)) (kept state op (.head _) start)

end Total

end Tquic.Lib
