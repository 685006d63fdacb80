import Mathlib.Tactic.Linarith
import Tquic.CongestionControl.PacerWakeups
import Tquic.Lib.Transition

/-! How many bytes a pacer lets pass in an interval of time. The bytes that could be sent at a
moment, those in the bucket with those accrued since the last refill, pay for all that is sent
later, and they should never be more than the capacity. -/

set_option autoImplicit false

namespace Tquic.CongestionControl.Pacer

open Lib

/-- A packet that waits to be sent. -/
structure Attempt where
  bytes : Nat
  time : Instant
  deriving DecidableEq, Repr

/-- What stays the same while packets are sent. -/
structure Pacing where
  rate : Nat
  srtt : Duration
  cwnd : Nat
  mtu : Nat
  deriving DecidableEq, Repr

/-- Nothing that makes `schedule` let every packet pass. -/
structure Pacing.Active (pacing : Pacing) : Prop where
  rate : pacing.rate ≠ 0
  srtt : pacing.srtt ≠ 0
  cwnd : pacing.cwnd ≠ 0

/-- A call of `schedule`, and of `on_sent` if the packet can be sent. -/
def attempt (pacing : Pacing) (pacer : Pacer) (packet : Attempt) : Pacer :=
  match pacer.schedule packet.bytes pacing.rate pacing.srtt pacing.cwnd pacing.mtu packet.time with
  | (none, scheduled) => scheduled.onSent packet.bytes
  | (some _, scheduled) => scheduled

def passed (pacing : Pacing) (pacer : Pacer) (packet : Attempt) : Nat :=
  match pacer.schedule packet.bytes pacing.rate pacing.srtt pacing.cwnd pacing.mtu packet.time with
  | (none, _) => packet.bytes
  | (some _, _) => 0

/-- The bytes sent from `first` to `last` in a sequence of attempts. -/
def sentBetween (pacing : Pacing) (first last : Instant) : Pacer → List Attempt → Nat
  | _, [] => 0
  | pacer, packet :: rest =>
      (if first ≤ packet.time ∧ packet.time ≤ last then pacer.passed pacing packet else 0) +
        sentBetween pacing first last (pacer.attempt pacing packet) rest

/-- A pacer whose capacity belongs to the window. -/
structure Steady (pacing : Pacing) (capacity : Nat) (pacer : Pacer) : Prop where
  enabled : pacer.enabled = true
  lastCwnd : pacer.lastCwnd = pacing.cwnd
  sized : pacer.capacity = capacity
  tokens : pacer.tokens ≤ capacity

/-- The bytes that could be sent at a time, in units of a byte per second and nanosecond. -/
def potential (pacing : Pacing) (pacer : Pacer) (time : Instant) : Nat :=
  nanosPerSec * pacer.tokens + pacing.rate * saturatingDurationSince time pacer.lastSchedTime

/-- A packet that is sent without a refill finds no more bytes than the bucket can hold. -/
def Clear (pacing : Pacing) (pacer : Pacer) (packet : Attempt) : Prop :=
  packet.bytes ≤ pacer.tokens → pacer.potential pacing packet.time ≤ nanosPerSec * pacer.capacity

instance (pacing : Pacing) (pacer : Pacer) (packet : Attempt) :
    Decidable (pacer.Clear pacing packet) :=
  inferInstanceAs (Decidable (_ → _))

/-! ## One attempt -/

variable {pacing : Pacing} {capacity : Nat} {pacer : Pacer} {packet : Attempt}

theorem accrued_le (rate elapsed : Nat) : nanosPerSec * accrued rate elapsed ≤ rate * elapsed :=
  (Nat.mul_le_mul_left _ (Nat.mod_le _ _)).trans (Nat.mul_div_le _ _)

private theorem refill_spec (steady : Steady pacing capacity pacer) (time : Instant) :
    Steady pacing capacity (pacer.refill pacing.rate time) ∧
      nanosPerSec * (pacer.refill pacing.rate time).tokens ≤ pacer.potential pacing time := by
  have bound := accrued_le pacing.rate (saturatingDurationSince time pacer.lastSchedTime)
  have capped : (pacer.refill pacing.rate time).tokens ≤ pacer.capacity := min_le_right _ _
  refine ⟨⟨steady.enabled, steady.lastCwnd, steady.sized, steady.sized ▸ capped⟩, ?_⟩
  have filled : (pacer.refill pacing.rate time).tokens ≤
      pacer.tokens + accrued pacing.rate (saturatingDurationSince time pacer.lastSchedTime) :=
    min_le_left _ _
  have scaled := Nat.mul_le_mul_left nanosPerSec filled
  unfold potential
  linarith

private theorem attempt_cases (active : pacing.Active) (steady : Steady pacing capacity pacer)
    (packet : Attempt) :
    (packet.bytes ≤ pacer.tokens ∧ pacer.passed pacing packet = packet.bytes ∧
      pacer.attempt pacing packet = { pacer with tokens := pacer.tokens - packet.bytes }) ∨
    (pacer.tokens < packet.bytes ∧
      pacer.passed pacing packet ≤ (pacer.refill pacing.rate packet.time).tokens ∧
      pacer.attempt pacing packet =
        { pacer.refill pacing.rate packet.time with
          tokens := (pacer.refill pacing.rate packet.time).tokens -
            pacer.passed pacing packet }) := by
  have limited : ¬ (!pacer.enabled || pacing.srtt = 0 || pacing.cwnd = 0 || pacing.rate = 0) := by
    simp [steady.enabled, active.srtt, active.cwnd, active.rate]
  unfold passed attempt schedule
  rw [if_neg limited, adapt_same steady.lastCwnd]
  dsimp only
  have consume : ∀ {state : Pacer}, state.enabled = true →
      state.onSent packet.bytes = { state with tokens := state.tokens - packet.bytes } :=
    fun enabled => if_pos enabled
  split_ifs with early late
  · exact .inl ⟨early, rfl, consume steady.enabled⟩
  · exact .inr ⟨Nat.lt_of_not_ge early, late, consume steady.enabled⟩
  · exact .inr ⟨Nat.lt_of_not_ge early, Nat.zero_le _, rfl⟩

private theorem potential_self (time : Instant) (since : pacer.lastSchedTime = time) :
    pacer.potential pacing time = nanosPerSec * pacer.tokens := by
  simp [potential, saturatingDurationSince, since]

/-- What passes is paid from the potential, and a clear attempt has no more than a full bucket for
it. -/
theorem attempt_spec (active : pacing.Active) (steady : Steady pacing capacity pacer)
    (packet : Attempt) :
    Steady pacing capacity (pacer.attempt pacing packet) ∧
      nanosPerSec * pacer.passed pacing packet +
        (pacer.attempt pacing packet).potential pacing packet.time ≤
          pacer.potential pacing packet.time ∧
      (pacer.Clear pacing packet → nanosPerSec * pacer.passed pacing packet +
        (pacer.attempt pacing packet).potential pacing packet.time ≤ nanosPerSec * capacity) := by
  rcases attempt_cases active steady packet with ⟨enough, sent, after⟩ | ⟨short, sent, after⟩
  · have spent : nanosPerSec * pacer.passed pacing packet +
        (pacer.attempt pacing packet).potential pacing packet.time =
          pacer.potential pacing packet.time := by
      rw [sent, after]
      unfold potential
      dsimp only
      rw [← Nat.add_assoc, ← Nat.mul_add, Nat.add_sub_cancel' enough]
    refine ⟨?_, spent.le, fun clear => ?_⟩
    · rw [after]
      exact ⟨steady.enabled, steady.lastCwnd, steady.sized, (Nat.sub_le _ _).trans steady.tokens⟩
    · rw [spent, ← steady.sized]
      exact clear enough
  · obtain ⟨refilled, paid⟩ := refill_spec steady packet.time
    have spent : nanosPerSec * pacer.passed pacing packet +
        (pacer.attempt pacing packet).potential pacing packet.time =
          nanosPerSec * (pacer.refill pacing.rate packet.time).tokens := by
      rw [after, potential_self packet.time rfl]
      dsimp only
      rw [← Nat.mul_add, Nat.add_sub_cancel' sent]
    refine ⟨?_, spent.trans_le paid, fun _ => ?_⟩
    · rw [after]
      exact ⟨refilled.enabled, refilled.lastCwnd, refilled.sized,
        (Nat.sub_le _ _).trans refilled.tokens⟩
    · rw [spent]
      exact Nat.mul_le_mul_left _ refilled.tokens

/-! ## Intervals -/

variable {first last time : Instant} {packets : List Attempt}

def InOrder (packets : List Attempt) : Prop :=
  packets.Pairwise fun earlier later => earlier.time ≤ later.time

instance (packets : List Attempt) : Decidable (InOrder packets) :=
  inferInstanceAs (Decidable (packets.Pairwise _))

private theorem since_trans (later earlier origin : Instant) :
    saturatingDurationSince later origin ≤
      saturatingDurationSince earlier origin + saturatingDurationSince later earlier := by
  unfold saturatingDurationSince Instant Duration at *
  omega

private theorem potential_later (pacing : Pacing) (pacer : Pacer) (later earlier : Instant) :
    pacer.potential pacing later ≤
      pacer.potential pacing earlier + pacing.rate * saturatingDurationSince later earlier := by
  have longer := Nat.mul_le_mul_left pacing.rate (since_trans later earlier pacer.lastSchedTime)
  unfold potential
  linarith

private theorem sentBetween_after (past : ∀ packet ∈ packets, last < packet.time) :
    sentBetween pacing first last pacer packets = 0 := by
  induction packets generalizing pacer with
  | nil => rfl
  | cons packet rest ih =>
      rw [sentBetween, ih fun packet member => past packet (.tail _ member), if_neg]
      exact fun within => absurd within.2 (not_le_of_gt (past packet (.head _)))

theorem sentBetween_past (following : ∀ later ∈ packets, packet.time ≤ later.time)
    (past : last < packet.time) : sentBetween pacing first last pacer (packet :: packets) = 0 := by
  refine sentBetween_after fun later member => ?_
  rcases List.mem_cons.mp member with rfl | member
  · exact past
  · exact lt_of_lt_of_le past (following later member)

/-- What is sent up to `last` is paid from what could be sent at `time` and what accrues since. -/
theorem sentBetween_paid (active : pacing.Active) (steady : Steady pacing capacity pacer)
    (ordered : InOrder packets) (begun : ∀ packet ∈ packets, time ≤ packet.time)
    (first last : Instant) :
    nanosPerSec * sentBetween pacing first last pacer packets ≤
      pacer.potential pacing time + pacing.rate * saturatingDurationSince last time := by
  induction packets generalizing pacer time with
  | nil => exact Nat.zero_le _
  | cons packet rest ih =>
      obtain ⟨following, ordered⟩ := List.pairwise_cons.mp ordered
      obtain ⟨kept, paid, -⟩ := attempt_spec active steady packet
      have later := begun packet (.head _)
      rcases le_or_gt packet.time last with within | past
      · have remaining := ih kept ordered following
        have grown := potential_later pacing pacer packet.time time
        have span : pacing.rate * saturatingDurationSince packet.time time +
            pacing.rate * saturatingDurationSince last packet.time =
              pacing.rate * saturatingDurationSince last time := by
          rw [← Nat.mul_add]
          congr 1
          unfold saturatingDurationSince Instant at *
          omega
        have counted : (if first ≤ packet.time ∧ packet.time ≤ last then
            pacer.passed pacing packet else 0) ≤ pacer.passed pacing packet := by
          split_ifs <;> simp
        have scaled := Nat.mul_le_mul_left nanosPerSec counted
        rw [sentBetween, Nat.mul_add]
        linarith
      · rw [sentBetween_past following past]
        exact Nat.zero_le _

/-- The packet that an interval begins with finds no more than the capacity, which pays for what
is sent with what accrues since. -/
theorem sentBetween_first (active : pacing.Active) (steady : Steady pacing capacity pacer)
    (ordered : InOrder (packet :: packets)) (inside : first ≤ packet.time) {spare : Nat}
    (paid : nanosPerSec * pacer.passed pacing packet +
      (pacer.attempt pacing packet).potential pacing packet.time ≤ spare) (last : Instant) :
    nanosPerSec * sentBetween pacing first last pacer (packet :: packets) ≤
      spare + pacing.rate * saturatingDurationSince last first := by
  obtain ⟨following, ordered⟩ := List.pairwise_cons.mp ordered
  rcases le_or_gt packet.time last with within | past
  · have remaining := sentBetween_paid active (attempt_spec active steady packet).1 ordered
      following first last
    have shorter : pacing.rate * saturatingDurationSince last packet.time ≤
        pacing.rate * saturatingDurationSince last first := by
      refine Nat.mul_le_mul_left _ ?_
      unfold saturatingDurationSince Instant at *
      omega
    rw [sentBetween, if_pos ⟨inside, within⟩, Nat.mul_add]
    linarith
  · rw [sentBetween_past following past]
    exact Nat.zero_le _

private theorem sentBetween_skip (packets : List Attempt) (before : packet.time < first) :
    sentBetween pacing first last pacer (packet :: packets) =
      sentBetween pacing first last (pacer.attempt pacing packet) packets := by
  rw [sentBetween, if_neg fun within => absurd within.1 (not_le_of_gt before), Nat.zero_add]

private theorem sentBetween_clear (active : pacing.Active) (steady : Steady pacing capacity pacer)
    (ordered : InOrder packets) (clear : Along (attempt pacing) (Clear pacing) pacer packets)
    (first last : Instant) :
    nanosPerSec * sentBetween pacing first last pacer packets ≤
      nanosPerSec * capacity + pacing.rate * saturatingDurationSince last first := by
  induction packets generalizing pacer with
  | nil => exact Nat.zero_le _
  | cons packet rest ih =>
      obtain ⟨kept, -, pays⟩ := attempt_spec active steady packet
      rcases lt_or_ge packet.time first with before | inside
      · rw [sentBetween_skip rest before]
        exact ih kept ordered.of_cons clear.2
      · exact sentBetween_first active steady ordered inside (pays clear.1) last

private theorem steady_new (pacing : Pacing) (start : Instant) (granularity : Duration) :
    Steady pacing (new true pacing.srtt pacing.cwnd pacing.mtu start granularity).capacity
      (new true pacing.srtt pacing.cwnd pacing.mtu start granularity) :=
  ⟨rfl, rfl, rfl, le_rfl⟩

/-- If every packet that is sent without a refill finds no more bytes than the bucket can hold,
no interval sees more than the capacity and what accrues in it. -/
theorem bursts_bounded (active : pacing.Active) (start : Instant) (granularity : Duration)
    (packets : List Attempt) (ordered : InOrder packets)
    (clear : Along (attempt pacing) (Clear pacing)
      (new true pacing.srtt pacing.cwnd pacing.mtu start granularity) packets)
    (first last : Instant) :
    nanosPerSec * sentBetween pacing first last
        (new true pacing.srtt pacing.cwnd pacing.mtu start granularity) packets ≤
      nanosPerSec * (new true pacing.srtt pacing.cwnd pacing.mtu start granularity).capacity +
        pacing.rate * saturatingDurationSince last first :=
  sentBetween_clear active (steady_new pacing start granularity) ordered clear first last

/-- Packets of 1000 bytes, a window of ten of them, a round-trip time of one millisecond, and a
megabyte per second. -/
def samplePacing : Pacing := { rate := 1000000, srtt := 1000000, cwnd := 10000, mtu := 1000 }

theorem bursts_bounded_steady :
    nanosPerSec * sentBetween samplePacing 0 5000000 (new true 1000000 10000 1000 0 1000000)
        [⟨10000, 0⟩, ⟨4000, 4000000⟩, ⟨4000, 4000000⟩, ⟨1000, 5000000⟩] ≤
      nanosPerSec * 10000 + 1000000 * 5000000 :=
  @bursts_bounded samplePacing ⟨by decide, by decide, by decide⟩ 0 1000000
    [⟨10000, 0⟩, ⟨4000, 4000000⟩, ⟨4000, 4000000⟩, ⟨1000, 5000000⟩] (by decide)
    ⟨by decide, by decide, by decide, by decide, trivial⟩ 0 5000000

/-- After a second without packets, two windows can be sent at once. -/
theorem bursts_after_idle :
    ¬ ∀ (pacing : Pacing) (start : Instant) (granularity : Duration) (packets : List Attempt)
      (first last : Instant), pacing.Active → InOrder packets → first ≤ last →
        nanosPerSec * sentBetween pacing first last
            (new true pacing.srtt pacing.cwnd pacing.mtu start granularity) packets ≤
          nanosPerSec *
              (new true pacing.srtt pacing.cwnd pacing.mtu start granularity).capacity +
            pacing.rate * saturatingDurationSince last first := by
  intro claim
  have bounded := claim samplePacing 0 1000000 [⟨10000, 1000000000⟩, ⟨10000, 1000000000⟩]
    1000000000 1000000000 ⟨by decide, by decide, by decide⟩ (by decide) le_rfl
  exact absurd bounded (by decide)

end Tquic.CongestionControl.Pacer
