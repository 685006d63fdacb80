import Mathlib.Data.List.Induction
import Tquic.Basic
import Tquic.Lib.OrdMap

/-! The round-robin scheduler, after `multipath_scheduler/scheduler_rr.rs`, and how evenly it
spreads packets. The collection of metrics is left out: it does not write the counters. -/

set_option autoImplicit false

namespace Tquic.MultipathScheduler

open Lib

/-- What `on_select` learns of a path: `active` and `can_send` at the time of the call. -/
structure PathView where
  pathId : Nat
  active : Bool
  canSend : Bool
  deriving DecidableEq, Repr

structure RoundRobinScheduler where
  sentCounts : OrdMap Nat Nat

namespace RoundRobinScheduler

def new : RoundRobinScheduler := { sentCounts := ∅ }

def count (scheduler : RoundRobinScheduler) (pathId : Nat) : Nat :=
  (scheduler.sentCounts.get? pathId).getD 0

def consider (scheduler : RoundRobinScheduler) (best : Option (Nat × Nat)) (path : PathView) :
    Option (Nat × Nat) :=
  if !path.active || !path.canSend then best
  else
    let count := scheduler.count path.pathId
    match best with
    | none => some (path.pathId, count)
    | some (_, bestCount) => if count < bestCount then some (path.pathId, count) else best

def onSelect (scheduler : RoundRobinScheduler) (paths : List PathView) :
    Except Error Nat × RoundRobinScheduler :=
  match paths.foldl scheduler.consider none with
  | some (pathId, count) =>
      (.ok pathId, { sentCounts := scheduler.sentCounts.insert pathId (count + 1) })
  | none => (.error .done, scheduler)

theorem count_new (pathId : Nat) : new.count pathId = 0 := rfl

/-! ## One selection -/

variable {scheduler : RoundRobinScheduler} {paths : List PathView}

def Selectable (paths : List PathView) (pathId : Nat) : Prop :=
  ∃ path ∈ paths, path.pathId = pathId ∧ path.active = true ∧ path.canSend = true

instance (paths : List PathView) (pathId : Nat) : Decidable (Selectable paths pathId) :=
  inferInstanceAs (Decidable (∃ path ∈ paths, _))

theorem selectable_append {rest : List PathView} {pathId : Nat} :
    Selectable (paths ++ rest) pathId ↔ Selectable paths pathId ∨ Selectable rest pathId := by
  simp [Selectable, or_and_right, exists_or]

/-- The best path among those that the loop has passed. -/
def Least (scheduler : RoundRobinScheduler) (passed : List PathView) :
    Option (Nat × Nat) → Prop
  | none => ∀ pathId, ¬ Selectable passed pathId
  | some (pathId, count) =>
      Selectable passed pathId ∧ count = scheduler.count pathId ∧
        ∀ other, Selectable passed other → count ≤ scheduler.count other

/-- The best path stays the least of those that were passed. -/
theorem Least.consider {passed : List PathView} {best : Option (Nat × Nat)}
    (least : scheduler.Least passed best) (path : PathView) :
    scheduler.Least (passed ++ [path]) (scheduler.consider best path) := by
  unfold RoundRobinScheduler.consider
  split_ifs with skipped
  · have same : ∀ pathId, Selectable (passed ++ [path]) pathId ↔ Selectable passed pathId := by
      intro pathId
      rw [selectable_append, or_iff_left]
      rintro ⟨_, member, _, active, canSend⟩
      cases List.mem_singleton.mp member
      simp [active, canSend] at skipped
    cases best with
    | none => exact fun pathId found => least pathId ((same pathId).mp found)
    | some best =>
        exact ⟨(same _).mpr least.1, least.2.1, fun other found =>
          least.2.2 other ((same other).mp found)⟩
  · have single : ∀ pathId, Selectable [path] pathId ↔ path.pathId = pathId := by
      intro pathId
      simp only [Bool.or_eq_true, Bool.not_eq_true', not_or, Bool.not_eq_false] at skipped
      simp [Selectable, skipped]
    have own : Selectable (passed ++ [path]) path.pathId :=
      selectable_append.mpr (.inr ((single _).mpr rfl))
    cases best with
    | none =>
        refine ⟨own, rfl, fun other found => ?_⟩
        rcases selectable_append.mp found with earlier | latest
        · exact absurd earlier (least other)
        · rw [(single other).mp latest]
    | some best =>
        obtain ⟨found, counted, lowest⟩ := least
        dsimp only
        split_ifs with fewer
        · refine ⟨own, rfl, fun other present => ?_⟩
          rcases selectable_append.mp present with earlier | latest
          · exact fewer.le.trans (lowest other earlier)
          · rw [(single other).mp latest]
        · refine ⟨selectable_append.mpr (.inl found), counted, fun other present => ?_⟩
          rcases selectable_append.mp present with earlier | latest
          · exact lowest other earlier
          · rw [← (single other).mp latest]
            exact Nat.le_of_not_lt fewer

private theorem least_foldl (scheduler : RoundRobinScheduler) (paths : List PathView) :
    scheduler.Least paths (paths.foldl scheduler.consider none) := by
  induction paths using List.reverseRecOn with
  | nil => simp [Least, Selectable]
  | append_singleton passed path ih =>
      rw [List.foldl_concat]
      exact ih.consider path

theorem onSelect_cases (scheduler : RoundRobinScheduler) (paths : List PathView) :
    (∃ pathId, (scheduler.onSelect paths).1 = .ok pathId ∧ Selectable paths pathId ∧
      (∀ other, Selectable paths other → scheduler.count pathId ≤ scheduler.count other) ∧
      ∀ other, (scheduler.onSelect paths).2.count other =
        scheduler.count other + if other = pathId then 1 else 0) ∨
    (∀ pathId, ¬ Selectable paths pathId) ∧ scheduler.onSelect paths = (.error .done, scheduler) := by
  have least := least_foldl scheduler paths
  unfold onSelect
  split
  next pathId count selected =>
    rw [selected] at least
    obtain ⟨found, rfl, lowest⟩ := least
    refine .inl ⟨pathId, rfl, found, lowest, fun other => ?_⟩
    rw [RoundRobinScheduler.count, OrdMap.get?_insert]
    split_ifs with same
    · rw [same]
      rfl
    · rfl
  next selected =>
    rw [selected] at least
    exact .inr ⟨least, rfl⟩

/-! ## Runs -/

/-- The calls of `on_select` with what each of them returns. -/
def run : RoundRobinScheduler → List (List PathView) → List (List PathView × Except Error Nat)
  | _, [] => []
  | scheduler, paths :: rest =>
      (paths, (scheduler.onSelect paths).1) :: run (scheduler.onSelect paths).2 rest

def selections (log : List (List PathView × Except Error Nat)) (pathId : Nat) : Nat :=
  log.countP fun entry => entry.2 = .ok pathId

def selectionsWithout (log : List (List PathView × Except Error Nat)) (pathId other : Nat) : Nat :=
  log.countP fun entry => entry.2 = .ok pathId && !decide (Selectable entry.1 other)

theorem selections_cons (paths : List PathView) (outcome : Except Error Nat)
    (log : List (List PathView × Except Error Nat)) (pathId : Nat) :
    selections ((paths, outcome) :: log) pathId =
      selections log pathId + if outcome = .ok pathId then 1 else 0 := by
  simp [selections, List.countP_cons]

private theorem selectionsWithout_cons (paths : List PathView) (outcome : Except Error Nat)
    (log : List (List PathView × Except Error Nat)) (pathId other : Nat) :
    selectionsWithout ((paths, outcome) :: log) pathId other =
      selectionsWithout log pathId other +
        if outcome = .ok pathId ∧ ¬ Selectable paths other then 1 else 0 := by
  simp [selectionsWithout, List.countP_cons]

private theorem lead_bounded (calls : List (List PathView)) (pathId other : Nat) (spare : Nat)
    (scheduler : RoundRobinScheduler)
    (lead : scheduler.count pathId ≤ scheduler.count other + 1 + spare) :
    scheduler.count pathId + selections (scheduler.run calls) pathId ≤
      scheduler.count other + selections (scheduler.run calls) other + 1 +
        (spare + selectionsWithout (scheduler.run calls) pathId other) := by
  induction calls generalizing scheduler spare with
  | nil => simpa [run, selections, selectionsWithout] using lead
  | cons paths rest ih =>
      rw [run, selections_cons, selections_cons, selectionsWithout_cons]
      rcases onSelect_cases scheduler paths with ⟨chosen, selected, -, lowest, counted⟩ | ⟨-, idle⟩
      · rw [selected]
        have ahead := ih (spare + if chosen = pathId ∧ ¬ Selectable paths other then 1 else 0)
          (scheduler.onSelect paths).2
        rw [counted, counted] at ahead
        simp only [Except.ok.injEq]
        have fair : chosen = pathId → Selectable paths other →
            scheduler.count pathId ≤ scheduler.count other := by
          rintro rfl present
          exact lowest other present
        specialize ahead (by grind)
        grind
      · rw [idle]
        simpa using ih spare scheduler lead

/-- Every selection is of a path that is active and can send, and only fails if there is none. A
path is selected at most once more often than another one, not counting the selections that were
made while the other one could not be selected. -/
theorem round_robin_fair (calls : List (List PathView)) :
    (∀ entry ∈ new.run calls,
      (∃ pathId, entry.2 = .ok pathId ∧ Selectable entry.1 pathId) ∨
        entry.2 = .error .done ∧ ∀ pathId, ¬ Selectable entry.1 pathId) ∧
      ∀ pathId other, selections (new.run calls) pathId ≤
        selections (new.run calls) other + 1 + selectionsWithout (new.run calls) pathId other := by
  constructor
  · generalize new = scheduler
    induction calls generalizing scheduler with
    | nil => exact nofun
    | cons paths rest ih =>
        intro entry member
        rcases List.mem_cons.mp member with rfl | later
        · rcases onSelect_cases scheduler paths with ⟨chosen, selected, found, -⟩ | ⟨none, idle⟩
          · exact .inl ⟨chosen, selected, found⟩
          · exact .inr ⟨by rw [idle], none⟩
        · exact ih _ entry later
  · intro pathId other
    simpa [count_new] using lead_bounded calls pathId other 0 new (by simp [count_new])

/-- Two paths take turns; one of them drops out for a while. -/
example : (new.run
    [[⟨0, true, true⟩, ⟨1, true, true⟩], [⟨0, true, true⟩, ⟨1, true, true⟩],
      [⟨0, true, true⟩, ⟨1, false, true⟩], [⟨1, true, false⟩],
      [⟨0, true, true⟩, ⟨1, true, true⟩]]).map (·.2) =
    [.ok 0, .ok 1, .ok 0, .error .done, .ok 1] := by decide

end RoundRobinScheduler

end Tquic.MultipathScheduler
