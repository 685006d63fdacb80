import Mathlib.Data.Rat.Floor
import Tquic.MultipathScheduler.LinUcb

/-! Which samples the RTT estimates of the LinUCB scheduler are made of. An acknowledgement that
grows the vector of estimates fills in its own sample for the paths below that have none yet. -/

set_option autoImplicit false

namespace Tquic.MultipathScheduler

open LinUCBScheduler (emaAlpha)

universe u

/-! ## Growing a vector -/

section Grow

variable {α : Type u}

theorem resize_getElem? (length index : Nat) (fill : α) (entries : List α) :
    (resize length fill entries)[index]? =
      if index < length then entries[index]?.or (some fill) else none := by
  unfold resize
  by_cases early : index < length
  · by_cases present : index < entries.length
    · rw [List.getElem?_append_left (by simp; omega), List.getElem?_take_of_lt early]
      simp [early, present]
    · rw [List.getElem?_append_right (by simp; omega), List.getElem?_replicate]
      rw [if_pos (by simp; omega), if_pos early, List.getElem?_eq_none (by omega)]
      rfl
  · rw [if_neg early, List.getElem?_eq_none (by simp; omega)]

theorem grow_getElem? (pathId index : Nat) (fill : α) (entries : List α) :
    (grow pathId fill entries)[index]? =
      entries[index]?.or (if index ≤ pathId then some fill else none) := by
  unfold grow
  by_cases early : index ≤ pathId <;> simp only [early, ↓reduceIte]
  · split_ifs with beyond
    · rw [resize_getElem?, if_pos (by omega)]
    · rw [List.getElem?_eq_getElem (by omega), Option.some_or]
  · rw [Option.or_none]
    split_ifs with beyond
    · rw [resize_getElem?, if_neg (by omega), List.getElem?_eq_none (by omega)]
    · rfl

end Grow

/-! ## The recurrence -/

section Recurrence

variable {K : Type u} [Field K]

/-- The estimate after more samples, from the estimate after `count` of them. -/
def emaFrom (count : Nat) (ema : K) : List Nat → K
  | [] => ema
  | sample :: rest =>
      emaFrom (count + 1) (emaAlpha (count + 1) * sample + (1 - emaAlpha (count + 1)) * ema) rest

private theorem emaFrom_append (count : Nat) (ema : K) (samples : List Nat) (sample : Nat) :
    emaFrom count ema (samples ++ [sample]) =
      emaAlpha (count + samples.length + 1) * sample +
        (1 - emaAlpha (count + samples.length + 1)) * emaFrom count ema samples := by
  induction samples generalizing count ema with
  | nil => rfl
  | cons first rest ih =>
      simp only [List.cons_append, emaFrom, ih, List.length_cons]
      rw [Nat.add_right_comm count 1, Nat.add_assoc count]

private theorem emaFrom_first (first : Nat) (rest : List Nat) :
    emaFrom 0 (first : K) (first :: rest) = emaFrom 1 (first : K) rest := by
  rw [emaFrom, ← add_mul, add_sub_cancel, one_mul]

private theorem emaAlpha_lt [LinearOrder K] [IsStrictOrderedRing K] (count : Nat) :
    (emaAlpha count : K) < 1 := by
  unfold emaAlpha constant
  split_ifs <;> norm_num

/-- No sample removes all that is left of the first estimate. -/
theorem emaFrom_inj [LinearOrder K] [IsStrictOrderedRing K] {count : Nat} {ema other : K}
    {samples : List Nat} : emaFrom count ema samples = emaFrom count other samples ↔ ema = other := by
  induction samples generalizing count ema other with
  | nil => exact Iff.rfl
  | cons sample rest ih =>
      have weight : 1 - (emaAlpha (count + 1) : K) ≠ 0 := sub_ne_zero.mpr (emaAlpha_lt _).ne'
      rw [emaFrom, emaFrom, ih, add_right_inj, mul_right_inj' weight]

end Recurrence

/-! ## Samples -/

def LinUcbEvent.sample? : LinUcbEvent → Option (Nat × Nat)
  | .select _ _ => none
  | .ack _ pathId paths => (getPath paths pathId).map fun path => (pathId, max path.latestRtt 1)

def sampleLog (events : List LinUcbEvent) : List (Nat × Nat) := events.filterMap (·.sample?)

def samplesOf (pathId : Nat) (log : List (Nat × Nat)) : List Nat :=
  (log.filter (·.1 = pathId)).map Prod.snd

/-- The first sample of a path with at least this identifier: the one that grew the vector of
estimates over the path. -/
def firstFill (pathId : Nat) (log : List (Nat × Nat)) : Option Nat :=
  (log.find? (pathId ≤ ·.1)).map Prod.snd

private theorem samplesOf_append (pathId other sample : Nat) (log : List (Nat × Nat)) :
    samplesOf pathId (log ++ [(other, sample)]) =
      samplesOf pathId log ++ if other = pathId then [sample] else [] := by
  by_cases same : other = pathId <;> simp [samplesOf, same]

theorem firstFill_append (pathId other sample : Nat) (log : List (Nat × Nat)) :
    firstFill pathId (log ++ [(other, sample)]) =
      (firstFill pathId log).or (if pathId ≤ other then some sample else none) := by
  unfold firstFill
  rw [List.find?_append, Option.map_or]
  by_cases covered : pathId ≤ other <;> simp [covered]

theorem samplesOf_eq_nil {pathId : Nat} {log : List (Nat × Nat)}
    (unfilled : firstFill pathId log = none) : samplesOf pathId log = [] := by
  rw [firstFill, Option.map_eq_none_iff, List.find?_eq_none] at unfilled
  simp only [samplesOf, List.map_eq_nil_iff, List.filter_eq_nil_iff]
  intro entry found own
  exact unfilled entry found (by simpa using (decide_eq_true_iff.mp own).ge)

namespace LinUCBScheduler

/-! ## What leaves the estimates alone -/

section Frame

variable {K : Type u}

def estimates (scheduler : LinUCBScheduler K) : List K × List Nat :=
  (scheduler.emaRttNs, scheduler.ackCounts)

private theorem takePendingContext_estimates (scheduler : LinUCBScheduler K) (pathId : Nat) :
    (scheduler.takePendingContext pathId).2.estimates = scheduler.estimates := by
  unfold takePendingContext
  split_ifs <;> rfl

variable [Field K]

theorem penalizeStale_estimates (scheduler : LinUCBScheduler K) (now : Instant)
    (skipPathId : Option Nat) (pathId : Nat) :
    (scheduler.penalizeStale now skipPathId pathId).estimates = scheduler.estimates := by
  unfold penalizeStale
  dsimp only
  split_ifs
  · rfl
  · rfl
  · split <;> rfl

private theorem penalizeStalePending_estimates (scheduler : LinUCBScheduler K) (now : Instant)
    (skipPathId : Option Nat) :
    (scheduler.penalizeStalePending now skipPathId).estimates = scheduler.estimates :=
  penalizeStalePending_keeps
    (fun state pathId same => (penalizeStale_estimates state now skipPathId pathId).trans same) rfl

theorem forgetIdle_estimates (scheduler : LinUCBScheduler K) (now : Instant) (row : RawRow) :
    (scheduler.forgetIdle now row).estimates = scheduler.estimates := by
  unfold forgetIdle
  dsimp only
  split
  · split_ifs <;> rfl
  · rfl

variable [LinearOrder K]

private theorem resetOnJump_estimates (scheduler : LinUCBScheduler K) (pathId : Nat) (oldEma : K) :
    (scheduler.resetOnJump pathId oldEma).estimates = scheduler.estimates := by
  unfold resetOnJump
  dsimp only
  split_ifs <;> rfl

theorem trainPending_estimates (floats : Floats K) (scheduler : LinUCBScheduler K) (pathId : Nat)
    (path : PathStats) :
    (scheduler.trainPending floats pathId path).estimates = scheduler.estimates := by
  have taken := scheduler.takePendingContext_estimates pathId
  unfold trainPending
  split <;> rename_i pending <;> rw [pending] at taken
  · exact taken
  · exact taken

variable [FloorSemiring K]

theorem onSelect_estimates (floats : Floats K) (scheduler : LinUCBScheduler K) (now : Instant)
    (paths : List (Option PathStats)) :
    (scheduler.onSelect floats now paths).2.estimates = scheduler.estimates := by
  refine @onSelect_keeps _ _ _ _ (fun state => state.estimates = scheduler.estimates) _ _
    ?_ ?_ ?_ ?_ rfl floats paths
  · exact fun state pathId same => (penalizeStale_estimates state now none pathId).trans same
  · exact fun state row same => (forgetIdle_estimates state now row).trans same
  · exact fun _ _ same => same
  · intro state next same _ emas counts
    rw [estimates, emas, counts]
    exact same

end Frame

/-! ## What an acknowledgement does to them -/

section Tracking

variable {K : Type u} [Field K]

structure Tracks (estimates : List K × List Nat) (log : List (Nat × Nat)) : Prop where
  ema : ∀ pathId, estimates.1[pathId]? =
    (firstFill pathId log).map fun fill : Nat => emaFrom 0 (fill : K) (samplesOf pathId log)
  count : ∀ pathId, estimates.2[pathId]? =
    (firstFill pathId log).map fun _ => (samplesOf pathId log).length

variable {scheduler : LinUCBScheduler K} {log : List (Nat × Nat)}

private theorem tracks_new : Tracks (new : LinUCBScheduler K).estimates [] where
  ema _ := rfl
  count _ := rfl

/-- Both vectors reach equally far. -/
theorem Tracks.length_eq (tracks : Tracks scheduler.estimates log) :
    scheduler.ackCounts.length = scheduler.emaRttNs.length := by
  have same : ∀ pathId : Nat, scheduler.ackCounts[pathId]? = none ↔
      scheduler.emaRttNs[pathId]? = none := by
    intro pathId
    have count := tracks.count pathId
    have ema := tracks.ema pathId
    dsimp only [estimates] at count ema
    rw [count, ema, Option.map_eq_none_iff, Option.map_eq_none_iff]
  refine Nat.le_antisymm ?_ ?_
  · exact List.getElem?_eq_none_iff.mp ((same _).mpr (List.getElem?_eq_none (Nat.le_refl _)))
  · exact List.getElem?_eq_none_iff.mp ((same _).mp (List.getElem?_eq_none (Nat.le_refl _)))

private theorem smoothRtt_estimates (same : scheduler.ackCounts.length = scheduler.emaRttNs.length)
    (pathId rttNs : Nat) :
    (scheduler.smoothRtt pathId rttNs).2.estimates =
      let emas := grow pathId (rttNs : K) scheduler.emaRttNs
      let counts := grow pathId 0 scheduler.ackCounts
      let alpha : K := emaAlpha (counts.getD pathId 0 + 1)
      (emas.set pathId (alpha * rttNs + (1 - alpha) * emas.getD pathId 0),
        counts.set pathId (counts.getD pathId 0 + 1)) := by
  unfold smoothRtt estimates grow
  rw [same]
  split_ifs <;> rfl

theorem Tracks.smoothRtt (tracks : Tracks scheduler.estimates log) (pathId rttNs : Nat) :
    Tracks (scheduler.smoothRtt pathId rttNs).2.estimates (log ++ [(pathId, rttNs)]) := by
  have emas : ∀ other, (grow pathId (rttNs : K) scheduler.emaRttNs)[other]? =
      (firstFill other (log ++ [(pathId, rttNs)])).map fun fill : Nat =>
        emaFrom 0 (fill : K) (samplesOf other log) := by
    intro other
    have ema : scheduler.emaRttNs[other]? = _ := tracks.ema other
    rw [grow_getElem?, ema, firstFill_append]
    cases filled : firstFill other log with
    | some fill => rfl
    | none =>
        rw [samplesOf_eq_nil filled]
        split_ifs <;> rfl
  have counts : ∀ other, (grow pathId 0 scheduler.ackCounts)[other]? =
      (firstFill other (log ++ [(pathId, rttNs)])).map fun _ => (samplesOf other log).length := by
    intro other
    have count : scheduler.ackCounts[other]? = _ := tracks.count other
    rw [grow_getElem?, count, firstFill_append]
    cases filled : firstFill other log with
    | some fill => rfl
    | none =>
        rw [samplesOf_eq_nil filled]
        split_ifs <;> rfl
  obtain ⟨fill, filled⟩ : ∃ fill, firstFill pathId (log ++ [(pathId, rttNs)]) = some fill := by
    rw [firstFill_append, if_pos (Nat.le_refl _)]
    cases firstFill pathId log <;> exact ⟨_, rfl⟩
  have ema := emas pathId
  have count := counts pathId
  rw [filled] at ema count
  have oldEma : (grow pathId (rttNs : K) scheduler.emaRttNs).getD pathId 0 =
      emaFrom 0 (fill : K) (samplesOf pathId log) := by
    rw [List.getD_eq_getElem?_getD, ema]
    rfl
  have oldCount : (grow pathId 0 scheduler.ackCounts).getD pathId 0 =
      (samplesOf pathId log).length := by
    rw [List.getD_eq_getElem?_getD, count]
    rfl
  have emaRange := (List.getElem?_eq_some_iff.mp ema).1
  have countRange := (List.getElem?_eq_some_iff.mp count).1
  rw [smoothRtt_estimates tracks.length_eq]
  dsimp only
  rw [oldEma, oldCount]
  constructor <;> intro other <;> rw [List.getElem?_set, samplesOf_append]
  · split_ifs with own
    · subst own
      rw [filled, Option.map_some, emaFrom_append, Nat.zero_add]
    · rw [emas other, List.append_nil]
  · split_ifs with own
    · subst own
      rw [filled, Option.map_some, List.length_append]
      rfl
    · rw [counts other, List.append_nil]

end Tracking

section Runs

variable {K : Type u} [Field K] [LinearOrder K] [FloorSemiring K]

theorem Tracks.handle {scheduler : LinUCBScheduler K} {log : List (Nat × Nat)}
    (tracks : Tracks scheduler.estimates log) (floats : Floats K) (event : LinUcbEvent) :
    Tracks (scheduler.handle floats event).estimates (log ++ event.sample?.toList) := by
  cases event with
  | select now paths =>
      change Tracks (scheduler.onSelect floats now paths).2.estimates (log ++ [])
      rw [onSelect_estimates, List.append_nil]
      exact tracks
  | ack now pathId paths =>
      have penalized := scheduler.penalizeStalePending_estimates now (some pathId)
      rw [← penalized] at tracks
      change Tracks (scheduler.onAck floats now pathId paths).estimates _
      unfold LinUCBScheduler.onAck
      cases present : getPath paths pathId with
      | none =>
          have unsampled : (LinUcbEvent.ack now pathId paths).sample? = none := by
            rw [LinUcbEvent.sample?, present, Option.map_none]
          rw [unsampled, Option.toList_none, List.append_nil]
          exact tracks
      | some path =>
          have sampled : (LinUcbEvent.ack now pathId paths).sample? =
              some (pathId, max path.latestRtt 1) := by
            rw [LinUcbEvent.sample?, present, Option.map_some]
          dsimp only
          rw [sampled, trainPending_estimates, resetOnJump_estimates]
          exact tracks.smoothRtt pathId (max path.latestRtt 1)

theorem tracks_after (floats : Floats K) (events : List LinUcbEvent) :
    Tracks (after floats events).estimates (sampleLog events) := by
  have run : ∀ (scheduler : LinUCBScheduler K) (log : List (Nat × Nat)),
      Tracks scheduler.estimates log →
      Tracks (events.foldl (LinUCBScheduler.handle floats) scheduler).estimates (log ++ sampleLog events) := by
    induction events with
    | nil =>
        intro scheduler log tracks
        simpa [sampleLog] using tracks
    | cons event rest ih =>
        intro scheduler log tracks
        have later := ih _ _ (tracks.handle floats event)
        have split : sampleLog (event :: rest) = event.sample?.toList ++ sampleLog rest := by
          cases sampled : event.sample? <;> simp [sampleLog, sampled]
        rw [split, ← List.append_assoc]
        exact later
  exact run _ _ tracks_new

end Runs

end LinUCBScheduler

/-! ## Separate estimates -/

section Separate

variable {K : Type u} [Field K] [LinearOrder K] [IsStrictOrderedRing K] [FloorSemiring K]

/-- The estimate of a path is the recurrence over its own samples, from the first of them, exactly
if the vector was grown over the path with a sample of that value. Of two sequences of calls with
the same samples of the path, the estimates agree exactly if the values filled in do. -/
theorem rtt_estimates_separate_iff (floats : Floats K) (pathId : Nat) :
    (∀ (events : List LinUcbEvent) (first : Nat) (rest : List Nat),
      samplesOf pathId (sampleLog events) = first :: rest →
      ((LinUCBScheduler.after floats events).emaRttNs[pathId]? =
          some (emaFrom 1 (first : K) rest) ↔
        firstFill pathId (sampleLog events) = some first)) ∧
    ∀ events others : List LinUcbEvent,
      samplesOf pathId (sampleLog events) = samplesOf pathId (sampleLog others) →
      ((LinUCBScheduler.after floats events).emaRttNs[pathId]? =
          (LinUCBScheduler.after floats others).emaRttNs[pathId]? ↔
        firstFill pathId (sampleLog events) = firstFill pathId (sampleLog others)) := by
  have tracked := fun events => (LinUCBScheduler.tracks_after floats events).ema pathId
  dsimp only [LinUCBScheduler.estimates] at tracked
  refine ⟨fun events first rest own => ?_, fun events others same => ?_⟩
  · rw [tracked, own, ← emaFrom_first]
    cases firstFill pathId (sampleLog events) with
    | none => simp
    | some fill => simp [emaFrom_inj]
  · rw [tracked, tracked, same]
    cases firstFill pathId (sampleLog events) <;> cases firstFill pathId (sampleLog others) <;>
      simp [emaFrom_inj]

end Separate

/-- A path with nothing but a round-trip time. -/
def samplePath (latestRtt : Duration) : PathStats where
  active := true
  canSend := true
  smoothedRtt := latestRtt
  latestRtt := latestRtt
  bytesInFlight := 0
  congestionWindow := 12000
  pacingRate := none
  sentCount := 1
  ackedCount := 1
  lostCount := 0

def slowPathFirst : List LinUcbEvent :=
  let paths := [some (samplePath 100000000), some (samplePath 300000000)]
  [.ack 0 1 paths, .ack 0 0 paths]

/-- The estimate of path 0 is then 200 ms. -/
theorem rtt_estimates_mixed :
    ¬ ∀ (floats : Floats ℚ) (events : List LinUcbEvent) (pathId first : Nat) (rest : List Nat),
      samplesOf pathId (sampleLog events) = first :: rest →
      (LinUCBScheduler.after floats events).emaRttNs[pathId]? =
        some (emaFrom 1 (first : ℚ) rest) := by
  intro separate
  have own := separate ⟨id, id⟩ slowPathFirst 0 100000000 [] rfl
  have tracked := (LinUCBScheduler.tracks_after (K := ℚ) ⟨id, id⟩ slowPathFirst).ema 0
  have filled : firstFill 0 (sampleLog slowPathFirst) = some 300000000 := rfl
  have samples : samplesOf 0 (sampleLog slowPathFirst) = [100000000] := rfl
  rw [filled, samples] at tracked
  dsimp only [LinUCBScheduler.estimates] at tracked
  rw [tracked] at own
  norm_num [emaFrom, emaAlpha, constant] at own

/-- Where path 0 is acknowledged first, both paths have their own estimates. -/
theorem rtt_estimates_separate_iff_ascending :
    let scheduler := LinUCBScheduler.after (K := ℚ) ⟨id, id⟩ slowPathFirst.reverse
    scheduler.emaRttNs[0]? = some 100000000 ∧
      scheduler.emaRttNs[1]? =
        (LinUCBScheduler.after (K := ℚ) ⟨id, id⟩ slowPathFirst).emaRttNs[1]? :=
  ⟨((rtt_estimates_separate_iff ⟨id, id⟩ 0).1 slowPathFirst.reverse 100000000 [] rfl).mpr rfl,
    ((rtt_estimates_separate_iff ⟨id, id⟩ 1).2 slowPathFirst.reverse slowPathFirst rfl).mpr rfl⟩

end Tquic.MultipathScheduler
