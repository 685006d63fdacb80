import Mathlib.Algebra.Group.Nat.Defs
import Mathlib.Data.List.Induction
import Mathlib.Order.Bounds.Basic
import Tquic.Connection.Rtt
import Tquic.Lib.Wire

/-! How far the estimates of a path can be from its samples. The arithmetic of durations is
checked here as the standard library checks it: what leaves the range of `Duration` panics. -/

set_option autoImplicit false

namespace Tquic.Connection

open Lib

/-- Why an operation on durations panics. -/
inductive DurationFault where
  | underflow
  | overflow
  deriving DecidableEq, Repr

namespace RttEstimator

def checked (duration : Duration) : Except DurationFault Duration :=
  if duration ≤ durationMax then .ok duration else .error .overflow

def checkedSub (left right : Duration) : Except DurationFault Duration :=
  if right ≤ left then .ok (left - right) else .error .underflow

/-- The sample less the delay of the acknowledgement, unless that falls below the minimum. -/
def checkedAdjusted (minRtt ackDelay sample : Duration) : Except DurationFault Duration := do
  let delayed ← checked (minRtt + ackDelay)
  if delayed ≤ sample then checkedSub sample ackDelay else pure sample

def checkedVarSample (smoothed adjusted : Duration) : Except DurationFault Duration :=
  if smoothed > adjusted then checkedSub smoothed adjusted else checkedSub adjusted smoothed

/-- `update` with the checks of the arithmetic that it does. A product that leaves the range takes
the sum that it is part of with it. -/
def checkedUpdate (rtt : RttEstimator) (ackDelay sample : Duration) :
    Except DurationFault RttEstimator :=
  let minRtt := min rtt.minRtt sample
  let maxRtt := max rtt.maxRtt sample
  match rtt.smoothed with
  | some smoothed => do
    let adjusted ← checkedAdjusted minRtt ackDelay sample
    let varSample ← checkedVarSample smoothed adjusted
    let variation ← checked (3 * rtt.rttvar + varSample)
    let weighted ← checked (7 * smoothed + adjusted)
    pure { latestRtt := sample, minRtt, maxRtt, rttvar := variation / 4
           smoothed := some (weighted / 8) }
  | none =>
    pure { latestRtt := sample, smoothed := some sample, rttvar := sample / 2, minRtt := sample
           maxRtt := sample }

/-! ## One sample -/

variable {rtt next : RttEstimator} {ackDelay sample : Duration}

/-- The sample that enters the average. -/
def adjusted (minRtt ackDelay sample : Duration) : Duration :=
  if minRtt + ackDelay ≤ sample then sample - ackDelay else sample

theorem checked_cases (duration : Duration) :
    checked duration = .ok duration ∨
      checked duration = .error .overflow ∧ durationMax < duration := by
  unfold checked
  split_ifs with fits
  · exact .inl rfl
  · exact .inr ⟨rfl, Nat.lt_of_not_ge fits⟩

private theorem checkedAdjusted_cases (minRtt ackDelay sample : Duration) :
    checkedAdjusted minRtt ackDelay sample = .ok (adjusted minRtt ackDelay sample) ∨
      checkedAdjusted minRtt ackDelay sample = .error .overflow ∧
        durationMax < minRtt + ackDelay := by
  unfold checkedAdjusted
  rcases checked_cases (minRtt + ackDelay) with fits | ⟨fault, large⟩
  · refine .inl ?_
    rw [fits]
    unfold adjusted
    change (if minRtt + ackDelay ≤ sample then _ else _) = _
    split_ifs with long
    · exact if_pos (by grind)
    · rfl
  · exact .inr ⟨by rw [fault]; rfl, large⟩

private theorem checkedVarSample_eq (smoothed adjusted : Duration) :
    checkedVarSample smoothed adjusted =
      .ok (if smoothed > adjusted then smoothed - adjusted else adjusted - smoothed) := by
  unfold checkedVarSample
  split_ifs with larger
  · exact if_pos (le_of_lt larger)
  · exact if_pos (le_of_not_gt larger)

theorem adjusted_le (minRtt ackDelay sample : Duration) :
    adjusted minRtt ackDelay sample ≤ sample := by
  unfold adjusted
  split_ifs <;> grind

/-- Checked arithmetic gives the plain result, or one of three sums overflows. -/
theorem checkedUpdate_cases (rtt : RttEstimator) (ackDelay sample : Duration) :
    rtt.checkedUpdate ackDelay sample = .ok (rtt.update ackDelay sample) ∨
      rtt.checkedUpdate ackDelay sample = .error .overflow ∧
        ∃ smoothed, rtt.smoothed = some smoothed ∧
          (durationMax < sample + ackDelay ∨ durationMax < 3 * rtt.rttvar + max smoothed sample ∨
            durationMax < 7 * smoothed + sample) := by
  unfold checkedUpdate update
  cases rtt.smoothed with
  | none => exact .inl rfl
  | some smoothed =>
    dsimp only
    have short := adjusted_le (min rtt.minRtt sample) ackDelay sample
    have folded : adjusted (min rtt.minRtt sample) ackDelay sample =
        if min rtt.minRtt sample + ackDelay ≤ sample then sample - ackDelay else sample := rfl
    rw [← folded]
    rcases checkedAdjusted_cases (min rtt.minRtt sample) ackDelay sample with fits | ⟨fault, large⟩
    · rw [fits]
      generalize adjusted (min rtt.minRtt sample) ackDelay sample = adjusted at short
      have varied := checkedVarSample_eq smoothed adjusted
      generalize apart : (if smoothed > adjusted then smoothed - adjusted
        else adjusted - smoothed) = varSample at varied
      have near : varSample ≤ max smoothed sample := by
        rw [← apart]
        split_ifs <;> grind
      simp only [bind, Except.bind, varied]
      rcases checked_cases (3 * rtt.rttvar + varSample) with fits | ⟨fault, large⟩
      · rw [fits]
        dsimp only
        rcases checked_cases (7 * smoothed + adjusted) with fits | ⟨fault, large⟩
        · rw [fits]
          exact .inl rfl
        · rw [fault]
          exact .inr ⟨rfl, smoothed, rfl, .inr (.inr (by grind))⟩
      · rw [fault]
        exact .inr ⟨rfl, smoothed, rfl, .inr (.inl (by grind))⟩
    · rw [fault]
      exact .inr ⟨rfl, smoothed, rfl, .inl (by grind)⟩

/-! ## Runs -/

/-- What is done to the estimator of a path. -/
inductive Op where
  | trySetInitRtt (initRtt : Duration)
  | update (ackDelay sample : Duration)
  deriving DecidableEq, Repr

def Op.apply (rtt : RttEstimator) : Op → Except DurationFault RttEstimator
  | .trySetInitRtt initRtt => .ok (rtt.trySetInitRtt initRtt)
  | .update ackDelay sample => rtt.checkedUpdate ackDelay sample

def Op.sample? : Op → Option Duration
  | .trySetInitRtt _ => none
  | .update _ sample => some sample

/-- The estimator of a new path after a sequence of calls. -/
def run (initialRtt : Duration) (ops : List Op) : Except DurationFault RttEstimator :=
  ops.foldlM Op.apply (new initialRtt)

/-- The samples of the calls, in order. -/
def samples (ops : List Op) : List Duration := ops.filterMap Op.sample?

/-- What is known of the estimates once there are samples, beginning with `first`. -/
structure InRange (rtt : RttEstimator) (samples : List Duration) (first : Duration) : Prop where
  started : rtt.smoothed = some rtt.smoothedRtt
  least : IsLeast {sample | sample ∈ samples} rtt.minRtt
  greatest : IsGreatest {sample | sample ∈ samples} rtt.maxRtt
  smoothed : rtt.minRtt ≤ rtt.smoothedRtt ∧ rtt.smoothedRtt ≤ rtt.maxRtt
  latest : rtt.minRtt ≤ rtt.latestRtt ∧ rtt.latestRtt ≤ rtt.maxRtt
  rttvar : rtt.rttvar ≤ max (first / 2) (rtt.maxRtt - rtt.minRtt)

private theorem inRange_first (fresh : rtt.smoothed = none) (ackDelay sample : Duration) :
    InRange (rtt.update ackDelay sample) [sample] sample := by
  have updated : rtt.update ackDelay sample =
      { latestRtt := sample, smoothed := some sample, rttvar := sample / 2, minRtt := sample
        maxRtt := sample } := by
    unfold update
    rw [fresh]
  rw [updated]
  exact ⟨rfl, by simp [IsLeast, lowerBounds], by simp [IsGreatest, upperBounds],
    ⟨le_refl _, le_refl _⟩, ⟨le_refl _, le_refl _⟩, le_max_left _ _⟩

/-- The average of values between two bounds, rounded down, lies between them. -/
theorem average_within {low high smoothed adjusted : Nat} (above : low ≤ smoothed ∧ low ≤ adjusted)
    (below : smoothed ≤ high ∧ adjusted ≤ high) :
    low ≤ (7 * smoothed + adjusted) / 8 ∧ (7 * smoothed + adjusted) / 8 ≤ high := by
  omega

private theorem variation_within {limit low high rttvar smoothed adjusted : Nat}
    (varied : rttvar ≤ limit) (spread : high - low ≤ limit)
    (above : low ≤ smoothed ∧ low ≤ adjusted) (below : smoothed ≤ high ∧ adjusted ≤ high) :
    (3 * rttvar + if smoothed > adjusted then smoothed - adjusted else adjusted - smoothed) / 4 ≤
      limit := by
  split_ifs <;> omega

/-- A new sample keeps the estimates in the range of the samples. -/
theorem InRange.update {samples : List Duration} {first : Duration}
    (inRange : InRange rtt samples first) (ackDelay sample : Duration) :
    InRange (rtt.update ackDelay sample) (samples ++ [sample]) first := by
  obtain ⟨started, least, greatest, ⟨low, high⟩, _, variation⟩ := inRange
  have listed : {element | element ∈ samples ++ [sample]} =
      insert sample {element | element ∈ samples} := by
    ext element
    simp [or_comm]
  have updated : rtt.update ackDelay sample =
      { latestRtt := sample, minRtt := min rtt.minRtt sample, maxRtt := max rtt.maxRtt sample
        rttvar := (3 * rtt.rttvar +
          if rtt.smoothedRtt > adjusted (min rtt.minRtt sample) ackDelay sample then
            rtt.smoothedRtt - adjusted (min rtt.minRtt sample) ackDelay sample
          else adjusted (min rtt.minRtt sample) ackDelay sample - rtt.smoothedRtt) / 4
        smoothed := some
          ((7 * rtt.smoothedRtt + adjusted (min rtt.minRtt sample) ackDelay sample) / 8) } := by
    unfold RttEstimator.update
    rw [started]
    rfl
  have short := adjusted_le (min rtt.minRtt sample) ackDelay sample
  have long : min rtt.minRtt sample ≤ adjusted (min rtt.minRtt sample) ackDelay sample := by
    unfold adjusted
    split_ifs <;> grind
  have above : min rtt.minRtt sample ≤ rtt.smoothedRtt ∧
      min rtt.minRtt sample ≤ adjusted (min rtt.minRtt sample) ackDelay sample :=
    ⟨(min_le_left _ _).trans low, long⟩
  have below : rtt.smoothedRtt ≤ max rtt.maxRtt sample ∧
      adjusted (min rtt.minRtt sample) ackDelay sample ≤ max rtt.maxRtt sample :=
    ⟨high.trans (le_max_left _ _), short.trans (le_max_right _ _)⟩
  rw [updated]
  constructor
  · rfl
  · rw [listed, min_comm]
    exact least.insert sample
  · rw [listed, max_comm]
    exact greatest.insert sample
  · exact average_within above below
  · exact ⟨min_le_right _ _, le_max_right _ _⟩
  · refine variation_within (variation.trans ?_) (le_max_right _ _) above below
    grind

def Tracks (samples : List Duration) (rtt : RttEstimator) : Prop :=
  match samples.head? with
  | none => rtt.smoothed = none
  | some first => InRange rtt samples first

theorem Tracks.trySetInitRtt {samples : List Duration} (tracks : Tracks samples rtt)
    (initRtt : Duration) : Tracks samples (rtt.trySetInitRtt initRtt) := by
  unfold RttEstimator.trySetInitRtt
  split_ifs with started
  · exact tracks
  · unfold Tracks at tracks ⊢
    split at tracks
    · rfl
    · simp [tracks.started] at started

theorem Tracks.update {samples : List Duration} (tracks : Tracks samples rtt)
    (ackDelay sample : Duration) : Tracks (samples ++ [sample]) (rtt.update ackDelay sample) := by
  cases samples with
  | nil => exact inRange_first tracks ackDelay sample
  | cons first rest => exact InRange.update tracks ackDelay sample

theorem run_concat (initialRtt : Duration) (ops : List Op) (op : Op) :
    run initialRtt (ops ++ [op]) = run initialRtt ops >>= fun rtt => op.apply rtt := by
  simp [run]

theorem samples_concat (ops : List Op) (op : Op) :
    samples (ops ++ [op]) = samples ops ++ op.sample?.toList := by
  cases op <;> simp [samples, Op.sample?]

theorem tracks_run {initialRtt : Duration} {ops : List Op}
    (returned : run initialRtt ops = .ok rtt) : Tracks (samples ops) rtt := by
  induction ops using List.reverseRecOn generalizing rtt with
  | nil =>
    cases returned
    exact rfl
  | append_singleton earlier op ih =>
    rw [run_concat] at returned
    obtain ⟨middle, before, applied⟩ := bind_ok.mp returned
    cases op with
    | trySetInitRtt initRtt =>
      cases applied
      rw [samples_concat, Op.sample?, Option.toList_none, List.append_nil]
      exact (ih before).trySetInitRtt initRtt
    | update ackDelay sample =>
      rcases checkedUpdate_cases middle ackDelay sample with updated | ⟨fault, _⟩
      · obtain rfl := Except.ok.inj (updated.symm.trans applied)
        rw [samples_concat, Op.sample?, Option.toList_some]
        exact (ih before).update ackDelay sample
      · cases fault.symm.trans applied

private theorem run_never_underflows (initialRtt : Duration) (ops : List Op) :
    run initialRtt ops ≠ .error .underflow := by
  induction ops using List.reverseRecOn with
  | nil => exact nofun
  | append_singleton earlier op ih =>
    rw [run_concat]
    cases before : run initialRtt earlier with
    | error fault =>
      rw [before] at ih
      exact ih
    | ok rtt =>
      change op.apply rtt ≠ _
      cases op with
      | trySetInitRtt initRtt => exact nofun
      | update ackDelay sample =>
        rcases checkedUpdate_cases rtt ackDelay sample with updated | ⟨fault, _⟩
        · exact fun failed => nomatch updated.symm.trans failed
        · exact fun failed => nomatch fault.symm.trans failed

/-- Samples and delays that the sums have room for, an eighth of the range each. -/
def Op.Small : Op → Prop
  | .trySetInitRtt _ => True
  | .update ackDelay sample => 8 * ackDelay ≤ durationMax ∧ 8 * sample ≤ durationMax

private theorem InRange.le_greatest {samples : List Duration} {first : Duration}
    (inRange : InRange rtt samples first) (member : first ∈ samples) :
    rtt.smoothedRtt ≤ rtt.maxRtt ∧ rtt.rttvar ≤ rtt.maxRtt := by
  have above := inRange.greatest.2 member
  have varied := inRange.rttvar
  exact ⟨inRange.smoothed.2, by grind⟩

private theorem run_returns (initialRtt : Duration) {ops : List Op} (small : ∀ op ∈ ops, op.Small) :
    ∃ rtt, run initialRtt ops = .ok rtt := by
  induction ops using List.reverseRecOn with
  | nil => exact ⟨_, rfl⟩
  | append_singleton earlier op ih =>
    obtain ⟨rtt, before⟩ := ih fun op member => small op (List.mem_append_left _ member)
    have fits := small op (List.mem_append_right _ (List.mem_singleton_self op))
    rw [run_concat, before]
    change ∃ next, op.apply rtt = .ok next
    cases op with
    | trySetInitRtt initRtt => exact ⟨_, rfl⟩
    | update ackDelay sample =>
      rcases checkedUpdate_cases rtt ackDelay sample with updated | ⟨_, smoothed, held, large⟩
      · exact ⟨_, updated⟩
      · have tracks := tracks_run before
        cases sampled : samples earlier with
        | nil =>
          rw [sampled] at tracks
          cases held.symm.trans tracks
        | cons first rest =>
          rw [sampled] at tracks
          obtain ⟨averaged, varied⟩ := InRange.le_greatest tracks (.head _)
          have started := Option.some.inj (held.symm.trans tracks.started)
          obtain ⟨op, member, taken⟩ := List.mem_filterMap.mp
            (show rtt.maxRtt ∈ samples earlier by rw [sampled]; exact tracks.greatest.1)
          have bounded : 8 * rtt.maxRtt ≤ durationMax := by
            have fits := small op (List.mem_append_left _ member)
            cases op with
            | trySetInitRtt initRtt => cases taken
            | update ackDelay sample =>
              cases taken
              exact fits.2
          have room := fits.1
          have short := fits.2
          exfalso
          grind

/-- No subtraction underflows. Once there is a sample, smoothed and latest value lie between the
smallest and the largest sample, and the variation is bounded by their distance. -/
theorem estimates_in_range (initialRtt : Duration) (ops : List Op) :
    run initialRtt ops ≠ .error .underflow ∧
      (∀ rtt first, run initialRtt ops = .ok rtt → (samples ops).head? = some first →
        InRange rtt (samples ops) first) ∧
      ((∀ op ∈ ops, op.Small) → ∃ rtt, run initialRtt ops = .ok rtt) := by
  refine ⟨run_never_underflows initialRtt ops, ?_, run_returns initialRtt⟩
  intro rtt first returned sampled
  have tracks := tracks_run returned
  unfold Tracks at tracks
  rw [sampled] at tracks
  exact tracks

/-- The second sample is reduced by the delay; the third falls below the minimum. -/
theorem estimates_in_range_third :
    InRange { latestRtt := 225, smoothed := some 400, rttvar := 200, minRtt := 225, maxRtt := 700 }
      [400, 700, 225] 400 :=
  (estimates_in_range 200
    [.trySetInitRtt 100, .update 100 400, .trySetInitRtt 300, .update 100 700, .update 100 225]).2.1
    _ 400 rfl rfl

end RttEstimator

end Tquic.Connection
