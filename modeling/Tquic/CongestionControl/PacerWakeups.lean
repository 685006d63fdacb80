import Mathlib.Algebra.Order.Group.Nat
import Tquic.CongestionControl.Pacing

/-! Whether a pacer lets a packet pass at the time it has named for it. The waiting time is rounded
down to nanoseconds, and then the bytes that accrue in it are rounded down too. -/

set_option autoImplicit false

namespace Tquic.CongestionControl.Pacer

variable {pacer waiting : Pacer} {bytesToSend pacingRate cwnd mtu : Nat} {srtt : Duration}
  {now wake later : Instant}

def deficit (pacer : Pacer) (bytesToSend pacingRate : Nat) (srtt : Duration) (cwnd mtu : Nat)
    (now : Instant) : Nat :=
  bytesToSend - ((pacer.adapt srtt cwnd mtu).refill pacingRate now).tokens

theorem schedule_waits
    (waits : pacer.schedule bytesToSend pacingRate srtt cwnd mtu now = (some wake, waiting)) :
    (pacer.enabled = true ∧ srtt ≠ 0 ∧ cwnd ≠ 0 ∧ pacingRate ≠ 0) ∧
      waiting = (pacer.adapt srtt cwnd mtu).refill pacingRate now ∧
        waiting.tokens < bytesToSend ∧
          wake = now + ((bytesToSend - waiting.tokens) * nanosPerSec % 2 ^ 64 / pacingRate : Nat) := by
  unfold schedule at waits
  dsimp only at waits
  split_ifs at waits with idle early late
  · cases waits
  · cases waits
  · cases waits
  · simp only [Bool.or_eq_true, Bool.not_eq_true', decide_eq_true_eq, not_or,
      Bool.not_eq_false] at idle
    obtain ⟨⟨⟨enabled, timed⟩, windowed⟩, paced⟩ := idle
    have positive : max pacingRate 1 = pacingRate := by omega
    simp only [positive, Prod.mk.injEq, Option.some.injEq] at waits
    obtain ⟨rfl, rfl⟩ := waits
    exact ⟨⟨enabled, timed, windowed, paced⟩, rfl, Nat.lt_of_not_ge late, rfl⟩

private theorem enabled_adapt : (pacer.adapt srtt cwnd mtu).enabled = pacer.enabled := by
  unfold adapt updateCapacity
  split_ifs <;> rfl

private theorem lastCwnd_adapt : (pacer.adapt srtt cwnd mtu).lastCwnd = cwnd := by
  unfold adapt
  split_ifs with changed
  · rfl
  · exact (not_not.mp changed).symm

theorem adapt_same (same : pacer.lastCwnd = cwnd) : pacer.adapt srtt cwnd mtu = pacer :=
  if_neg (not_not.mpr same.symm)

/-- A second call, whose tokens are not enough, passes exactly if the refill brings them up. -/
theorem schedule_again
    (waits : pacer.schedule bytesToSend pacingRate srtt cwnd mtu now = (some wake, waiting))
    (fits : bytesToSend ≤ waiting.capacity) (later : Instant) :
    (waiting.schedule bytesToSend pacingRate srtt cwnd mtu later).1 = none ↔
      bytesToSend - waiting.tokens ≤ accrued pacingRate (saturatingDurationSince later now) := by
  obtain ⟨⟨enabled, timed, windowed, paced⟩, rfl, short, -⟩ := schedule_waits waits
  have running : ((pacer.adapt srtt cwnd mtu).refill pacingRate now).enabled = true :=
    enabled_adapt.trans enabled
  have current : ((pacer.adapt srtt cwnd mtu).refill pacingRate now).lastCwnd = cwnd :=
    lastCwnd_adapt
  have since : ((pacer.adapt srtt cwnd mtu).refill pacingRate now).lastSchedTime = now := rfl
  generalize (pacer.adapt srtt cwnd mtu).refill pacingRate now = waiting at *
  unfold schedule
  rw [if_neg (by simp [running, timed, windowed, paced]), adapt_same current]
  dsimp only
  rw [if_neg (Nat.not_le.mpr short)]
  have filled : (waiting.refill pacingRate later).tokens =
      min (waiting.tokens + accrued pacingRate (saturatingDurationSince later now))
        waiting.capacity := by
    rw [← since]
    rfl
  split_ifs with enough <;> rw [filled] at enough
  · exact iff_of_true rfl (by omega)
  · exact iff_of_false nofun (by omega)

/-! ## The named time -/

/-- Rounding down twice loses nothing exactly when the division of the waiting time is exact. -/
theorem rounds_back_iff {missing rate : Nat} :
    missing ≤ accrued rate (missing * nanosPerSec % 2 ^ 64 / rate) ↔
      rate ∣ missing * nanosPerSec ∧ missing * nanosPerSec < 2 ^ 64 := by
  have positive : 0 < nanosPerSec := by decide
  have wait : rate * (missing * nanosPerSec % 2 ^ 64 / rate) ≤ missing * nanosPerSec % 2 ^ 64 :=
    Nat.mul_div_le _ _
  have cut := Nat.mod_le (missing * nanosPerSec) (2 ^ 64)
  unfold accrued
  constructor
  · intro enough
    have whole := (Nat.le_div_iff_mul_le positive).mp (enough.trans (Nat.mod_le _ _))
    have exact_ : missing * nanosPerSec % 2 ^ 64 = missing * nanosPerSec :=
      le_antisymm cut (whole.trans wait)
    have same : rate * (missing * nanosPerSec % 2 ^ 64 / rate) = missing * nanosPerSec :=
      le_antisymm (wait.trans cut) whole
    exact ⟨⟨_, same.symm⟩, (Nat.mod_eq_iff_lt (by decide)).mp exact_⟩
  · rintro ⟨divides, small⟩
    rw [Nat.mod_eq_of_lt small, Nat.mul_div_cancel' divides, Nat.mul_div_cancel _ positive,
      Nat.mod_eq_of_lt (lt_of_le_of_lt (Nat.le_mul_of_pos_right _ positive) small)]

/-- A second call passes exactly if enough bytes have accrued since the first one. At the named
time and at all later ones, as far as the bytes that accrue fit into 64 bits, this is so exactly
if the division of the waiting time is exact and its product fits. -/
theorem wakes_in_time_iff
    (waits : pacer.schedule bytesToSend pacingRate srtt cwnd mtu now = (some wake, waiting))
    (fits : bytesToSend ≤ (pacer.adapt srtt cwnd mtu).capacity) :
    (∀ later, wake ≤ later →
      ((waiting.schedule bytesToSend pacingRate srtt cwnd mtu later).1 = none ↔
        pacer.deficit bytesToSend pacingRate srtt cwnd mtu now ≤
          accrued pacingRate (saturatingDurationSince later now))) ∧
      ((∀ later, wake ≤ later →
        pacingRate * saturatingDurationSince later now / nanosPerSec < 2 ^ 64 →
          (waiting.schedule bytesToSend pacingRate srtt cwnd mtu later).1 = none) ↔
        pacingRate ∣ pacer.deficit bytesToSend pacingRate srtt cwnd mtu now * nanosPerSec ∧
          pacer.deficit bytesToSend pacingRate srtt cwnd mtu now * nanosPerSec < 2 ^ 64) := by
  obtain ⟨-, refilled, -, named⟩ := schedule_waits waits
  have missing : pacer.deficit bytesToSend pacingRate srtt cwnd mtu now =
      bytesToSend - waiting.tokens := by rw [refilled]; rfl
  have room : bytesToSend ≤ waiting.capacity := by
    rw [refilled]
    exact fits
  have again := schedule_again waits room
  rw [← missing] at named again
  generalize pacer.deficit bytesToSend pacingRate srtt cwnd mtu now = gap at *
  refine ⟨fun later _ => again later, ?_⟩
  have pause : saturatingDurationSince wake now = gap * nanosPerSec % 2 ^ 64 / pacingRate := by
    rw [named, saturatingDurationSince, Int.add_comm, Int.add_sub_cancel, Int.toNat_natCast]
  rw [← rounds_back_iff, ← pause]
  constructor
  · intro passes
    refine (again wake).mp (passes wake le_rfl ?_)
    rw [pause]
    have wait := Nat.mul_div_le (gap * nanosPerSec % 2 ^ 64) pacingRate
    have cut := Nat.mod_lt (gap * nanosPerSec) (show 0 < 2 ^ 64 by decide)
    exact lt_of_le_of_lt (Nat.div_le_self _ _) (lt_of_le_of_lt wait cut)
  · intro enough later reached small
    refine (again later).mpr (enough.trans ?_)
    have longer : saturatingDurationSince wake now ≤ saturatingDurationSince later now :=
      Int.toNat_le_toNat (Int.sub_le_sub_right reached _)
    unfold accrued
    rw [Nat.mod_eq_of_lt small]
    exact (Nat.mod_le _ _).trans (Nat.div_le_div_right (Nat.mul_le_mul_left _ longer))

/-- A pacer whose tokens were all sent at once: packets of 1000 bytes, a window of ten of them and
a round-trip time of one millisecond. -/
def drained : Pacer := (new true 1000000 10000 1000 0 1000000).onSent 10000

theorem wakes_in_time_iff_exact :
    (drained.schedule 1000 1000000 1000000 10000 1000 1000000).1 = none :=
  (@wakes_in_time_iff drained drained 1000 1000000 10000 1000 1000000 0 1000000 (by decide)
    (by decide)).2.mpr (by decide) 1000000 (by decide) (by decide)

theorem wakes_too_early :
    ¬ ∀ (pacer waiting : Pacer) (bytesToSend pacingRate cwnd mtu : Nat) (srtt : Duration)
      (now wake : Instant),
      pacer.schedule bytesToSend pacingRate srtt cwnd mtu now = (some wake, waiting) →
        bytesToSend ≤ (pacer.adapt srtt cwnd mtu).capacity →
          ∀ later, wake ≤ later →
            (waiting.schedule bytesToSend pacingRate srtt cwnd mtu later).1 = none := by
  intro claim
  have passes := claim drained drained 1000 3000000 10000 1000 1000000 0 333333 (by decide)
    (by decide) 333333 le_rfl
  exact absurd passes (by decide)

end Tquic.CongestionControl.Pacer
