import Mathlib.Data.List.Induction
import Mathlib.Order.Basic
import Tquic.Basic

/-! The windowed filter for the maximum or the minimum of a stream of samples, after
`congestion_control/minmax.rs`: what the three samples that it keeps say about the stream. -/

set_option autoImplicit false

namespace Tquic.CongestionControl

structure MinMaxSample where
  time : Nat
  value : Nat
  deriving DecidableEq, Repr

/-- The three fields after the window are `samples[0]`, `samples[1]` and `samples[2]`. -/
structure MinMax where
  window : Nat
  best : MinMaxSample
  second : MinMaxSample
  third : MinMaxSample
  deriving DecidableEq, Repr

namespace MinMax

def new (window : Nat) : MinMax := { window, best := ⟨0, 0⟩, second := ⟨0, 0⟩, third := ⟨0, 0⟩ }

def reset (filter : MinMax) (sample : MinMaxSample) : MinMax :=
  { filter with best := sample, second := sample, third := sample }

def shift (filter : MinMax) (sample : MinMaxSample) : MinMax :=
  { filter with best := filter.second, second := filter.third, third := sample }

def subwinUpdate (filter : MinMax) (sample : MinMaxSample) : MinMax :=
  let dt := sample.time - filter.best.time
  if dt > filter.window then
    let shifted := filter.shift sample
    if sample.time - shifted.best.time > shifted.window then shifted.shift sample else shifted
  else if filter.second.time = filter.best.time ∧ dt > filter.window / 4 then
    { filter with second := sample, third := sample }
  else if filter.third.time = filter.second.time ∧ dt > filter.window / 2 then
    { filter with third := sample }
  else filter

def place (better : Nat → Nat → Bool) (filter : MinMax) (sample : MinMaxSample) : MinMax :=
  if better sample.value filter.second.value then { filter with second := sample, third := sample }
  else if better sample.value filter.third.value then { filter with third := sample }
  else filter

/-- `update_max` and `update_min`, which compare values in opposite directions. -/
def update (better : Nat → Nat → Bool) (filter : MinMax) (sample : MinMaxSample) : MinMax :=
  if sample.time < filter.third.time then filter
  else if filter.best.value = 0 ∨ better sample.value filter.best.value = true ∨
      sample.time - filter.third.time > filter.window then filter.reset sample
  else (filter.place better sample).subwinUpdate sample

/-- Check if the new measurement updates the first, second or third choice of the maximum. -/
def updateMax (filter : MinMax) (time value : Nat) : MinMax :=
  filter.update (fun new old => new ≥ old) ⟨time, value⟩

def updateMin (filter : MinMax) (time value : Nat) : MinMax :=
  filter.update (fun new old => new ≤ old) ⟨time, value⟩

def get (filter : MinMax) : Nat := filter.best.value

/-! ## One sample -/

section Update

variable {better : Nat → Nat → Bool} {filter : MinMax} {history : List MinMaxSample}
  {kept sample : MinMaxSample}

/-- A sample of the stream that no later one beats. -/
def Unbeaten (better : Nat → Nat → Bool) (history : List MinMaxSample) (kept : MinMaxSample) :
    Prop :=
  ∃ before after, history = before ++ kept :: after ∧
    ∀ later ∈ after, better kept.value later.value = true

/-- What the three samples say about a stream whose newest sample has the time `now`. -/
structure Ordered (better : Nat → Nat → Bool) (history : List MinMaxSample) (now : Nat)
    (filter : MinMax) : Prop where
  times : filter.best.time ≤ filter.second.time ∧ filter.second.time ≤ filter.third.time ∧
    filter.third.time ≤ now
  values : better filter.best.value filter.second.value = true ∧
    better filter.second.value filter.third.value = true
  best : Unbeaten better history filter.best
  second : Unbeaten better history filter.second
  third : Unbeaten better history filter.third

theorem Unbeaten.concat (unbeaten : Unbeaten better history kept)
    (wins : better kept.value sample.value = true) :
    Unbeaten better (history ++ [sample]) kept := by
  obtain ⟨before, after, rfl, wins_after⟩ := unbeaten
  refine ⟨before, after ++ [sample], by simp, fun later member => ?_⟩
  rcases List.mem_append.mp member with earlier | newest
  · exact wins_after later earlier
  · rw [List.mem_singleton.mp newest]
    exact wins

theorem unbeaten_newest (history : List MinMaxSample) (sample : MinMaxSample) :
    Unbeaten better (history ++ [sample]) sample := ⟨history, [], rfl, nofun⟩

variable (total : ∀ left right, better left right = true ∨ better right left = true)
  (transitive : ∀ {left middle right}, better left middle = true → better middle right = true →
    better left right = true)

include total in
theorem better_self (value : Nat) : better value value = true := (total value value).elim id id

include total in
theorem ordered_reset (filter : MinMax) (history : List MinMaxSample) (sample : MinMaxSample) :
    Ordered better (history ++ [sample]) sample.time (filter.reset sample) where
  times := ⟨le_refl _, le_refl _, le_refl _⟩
  values := ⟨better_self total _, better_self total _⟩
  best := unbeaten_newest _ _
  second := unbeaten_newest _ _
  third := unbeaten_newest _ _

include total in
private theorem ordered_place {now : Nat} (ordered : Ordered better history now filter)
    (later : now ≤ sample.time) (beaten : better filter.best.value sample.value = true) :
    Ordered better (history ++ [sample]) sample.time (filter.place better sample) ∧
      better (filter.place better sample).third.value sample.value = true ∧
        filter.third.time ≤ (filter.place better sample).third.time := by
  obtain ⟨⟨early, middle, late⟩, ⟨falling, low⟩, best, second, third⟩ := ordered
  have own := better_self total sample.value
  unfold place
  split_ifs with overSecond overThird
  · exact ⟨⟨⟨by dsimp only; omega, le_refl _, le_refl _⟩, ⟨beaten, own⟩, best.concat beaten,
      unbeaten_newest _ _, unbeaten_newest _ _⟩, own, by dsimp only; omega⟩
  · have behind := (total filter.second.value sample.value).resolve_right overSecond
    exact ⟨⟨⟨early, by dsimp only; omega, le_refl _⟩, ⟨falling, behind⟩, best.concat beaten,
      second.concat behind, unbeaten_newest _ _⟩, own, by dsimp only; omega⟩
  · have behindSecond := (total filter.second.value sample.value).resolve_right overSecond
    have behindThird := (total filter.third.value sample.value).resolve_right overThird
    exact ⟨⟨⟨early, middle, late.trans later⟩, ⟨falling, low⟩, best.concat beaten,
      second.concat behindSecond, third.concat behindThird⟩, behindThird, le_refl _⟩

include total transitive in
/-- The shifts keep the order and bring the first choice back into the window. -/
theorem ordered_subwinUpdate (ordered : Ordered better (history ++ [sample]) sample.time filter)
    (behind : better filter.third.value sample.value = true)
    (recent : sample.time - filter.third.time ≤ filter.window) :
    Ordered better (history ++ [sample]) sample.time (filter.subwinUpdate sample) ∧
      sample.time - (filter.subwinUpdate sample).best.time ≤ filter.window := by
  obtain ⟨⟨early, middle, late⟩, ⟨falling, low⟩, best, second, third⟩ := ordered
  have own := better_self total sample.value
  have newest : Unbeaten better (history ++ [sample]) sample := unbeaten_newest _ _
  have overSecond := transitive low behind
  have overBest := transitive falling overSecond
  unfold subwinUpdate
  dsimp only [shift]
  split_ifs with passed again quarter half
  · exact ⟨⟨⟨late, le_refl _, le_refl _⟩, ⟨behind, own⟩, third, newest, newest⟩, recent⟩
  · exact ⟨⟨⟨middle, late, le_refl _⟩, ⟨low, behind⟩, second, third, newest⟩, Nat.le_of_not_gt again⟩
  · exact ⟨⟨⟨by dsimp only; omega, le_refl _, le_refl _⟩, ⟨overBest, own⟩, best, newest, newest⟩,
      Nat.le_of_not_gt passed⟩
  · exact ⟨⟨⟨early, by dsimp only; omega, le_refl _⟩, ⟨falling, overSecond⟩, best, second, newest⟩,
      Nat.le_of_not_gt passed⟩
  · exact ⟨⟨⟨early, middle, late⟩, ⟨falling, low⟩, best, second, third⟩, Nat.le_of_not_gt passed⟩

@[simp] theorem window_place (filter : MinMax) (sample : MinMaxSample) :
    (filter.place better sample).window = filter.window := by
  unfold place
  split_ifs <;> rfl

@[simp] theorem window_subwinUpdate (filter : MinMax) (sample : MinMaxSample) :
    (filter.subwinUpdate sample).window = filter.window := by
  unfold subwinUpdate
  dsimp only [shift]
  split_ifs <;> rfl

@[simp] theorem window_update (filter : MinMax) (sample : MinMaxSample) :
    (filter.update better sample).window = filter.window := by
  unfold update
  split_ifs
  · rfl
  · rfl
  · rw [window_subwinUpdate, window_place]

include total transitive in
private theorem ordered_update {now : Nat} (ordered : Ordered better history now filter)
    (later : now ≤ sample.time) :
    Ordered better (history ++ [sample]) sample.time (filter.update better sample) ∧
      sample.time - (filter.update better sample).best.time ≤ filter.window := by
  unfold update
  rw [if_neg (Nat.not_lt.mpr (ordered.times.2.2.trans later))]
  split_ifs with restart
  · exact ⟨ordered_reset total _ _ _, by simp [reset]⟩
  · simp only [not_or, Nat.not_lt] at restart
    obtain ⟨-, beaten, recent⟩ := restart
    obtain ⟨placed, behind, newer⟩ := ordered_place total ordered later
      ((total filter.best.value sample.value).resolve_right beaten)
    have near := ordered_subwinUpdate total transitive placed behind (by rw [window_place]; omega)
    rwa [window_place] at near

/-! ## Streams -/

/-- What the filter promises: its samples are in order, and its value was seen in the window and
is not beaten by the newest one. -/
structure Filters (better : Nat → Nat → Bool) (window : Nat) (stream : List MinMaxSample)
    (newest : MinMaxSample) (filter : MinMax) : Prop where
  ordered : Ordered better stream newest.time filter
  within : newest.time - filter.best.time ≤ window
  seen : ∃ sample ∈ stream, newest.time - sample.time ≤ window ∧ filter.get = sample.value
  unbeaten : better filter.get newest.value = true

include total in
theorem filters_of_ordered {window : Nat}
    (ordered : Ordered better (history ++ [sample]) sample.time filter)
    (within : sample.time - filter.best.time ≤ window) :
    Filters better window (history ++ [sample]) sample filter := by
  obtain ⟨before, after, split, wins⟩ := ordered.best
  refine ⟨ordered, within, ⟨filter.best, by simp [split], within, rfl⟩, ?_⟩
  rcases List.eq_nil_or_concat after with rfl | ⟨others, last, rfl⟩
  · obtain ⟨-, same⟩ := List.append_inj' split rfl
    rw [List.singleton_inj.mp same]
    exact better_self total _
  · rw [List.concat_eq_append, ← List.cons_append, ← List.append_assoc] at split
    obtain ⟨-, same⟩ := List.append_inj' split rfl
    rw [List.singleton_inj.mp same]
    exact wins last (by simp)

def filtered (better : Nat → Nat → Bool) (window : Nat) (stream : List MinMaxSample) : MinMax :=
  stream.foldl (update better) (new window)

include total transitive in
/-- The fold over a stream keeps what the filter promises, by induction on the stream. -/
theorem filters_filtered (window : Nat) {stream : List MinMaxSample} {newest : MinMaxSample}
    (aging : (stream ++ [newest]).Pairwise (fun earlier later => earlier.time ≤ later.time))
    (nonzero : ∀ sample ∈ stream ++ [newest], sample.value ≠ 0) :
    Filters better window (stream ++ [newest]) newest (filtered better window (stream ++ [newest])) ∧
      (filtered better window (stream ++ [newest])).window = window := by
  induction stream using List.reverseRecOn generalizing newest with
  | nil =>
      have fresh : filtered better window [newest] = (new window).reset newest := by
        simp [filtered, update, new]
      rw [List.nil_append, fresh]
      exact ⟨filters_of_ordered total (ordered_reset total (new window) [] newest) (by simp [reset]),
        rfl⟩
  | append_singleton earlier latest ih =>
      obtain ⟨older, -, ages⟩ := List.pairwise_append.mp aging
      obtain ⟨held, same⟩ := ih older fun sample member =>
        nonzero sample (List.mem_append_left _ member)
      have grown : filtered better window (earlier ++ [latest] ++ [newest]) =
          (filtered better window (earlier ++ [latest])).update better newest := by
        rw [filtered, List.foldl_append]
        rfl
      obtain ⟨ordered, within⟩ := ordered_update total transitive held.ordered
        (ages latest (by simp) newest (List.mem_singleton_self _))
      rw [grown, window_update]
      rw [same] at within
      exact ⟨filters_of_ordered total ordered within, same⟩

end Update

/-- For every window and every stream with non-decreasing times and non-zero values, the filters
for the maximum and for the minimum keep their order after every sample. -/
theorem keeps_order (window : Nat) (stream : List MinMaxSample) (newest : MinMaxSample)
    (aging : (stream ++ [newest]).Pairwise (fun earlier later => earlier.time ≤ later.time))
    (nonzero : ∀ sample ∈ stream ++ [newest], sample.value ≠ 0) :
    Filters (fun left right => left ≥ right) window (stream ++ [newest]) newest
        ((stream ++ [newest]).foldl
          (fun filter sample => filter.updateMax sample.time sample.value) (new window)) ∧
      Filters (fun left right => left ≤ right) window (stream ++ [newest]) newest
        ((stream ++ [newest]).foldl
          (fun filter sample => filter.updateMin sample.time sample.value) (new window)) := by
  constructor
  · exact (filters_filtered (by simp [Nat.le_total]) (by simp; omega) window aging nonzero).1
  · exact (filters_filtered (by simp [Nat.le_total]) (by simp; omega) window aging nonzero).1

theorem keeps_order_sample :
    Filters (fun left right => left ≥ right) 10 [⟨21, 150⟩, ⟨22, 120⟩, ⟨24, 110⟩, ⟨28, 100⟩]
      ⟨28, 100⟩ { window := 10, best := ⟨21, 150⟩, second := ⟨24, 110⟩, third := ⟨28, 100⟩ } :=
  (keeps_order 10 [⟨21, 150⟩, ⟨22, 120⟩, ⟨24, 110⟩] ⟨28, 100⟩ (by decide) (by decide)).1

end MinMax

end Tquic.CongestionControl
