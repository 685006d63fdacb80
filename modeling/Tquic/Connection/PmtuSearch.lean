import Mathlib.Tactic.SplitIfs
import Tquic.Connection.Pmtu

/-! The search for the path MTU as a whole. Every probe either confirms its size, is repeated or
lowers what may still be reached, so that the search ends, close to what the path carries. -/

set_option autoImplicit false

namespace Tquic.Connection.Dplpmtud

variable {pathMtu peerMaxUdpPayload : Nat}

def probe (pmtu : Dplpmtud) (pathMtu : Nat)
    (large : defaultSendUdpPayloadSize ≤ peerMaxUdpPayload) : Dplpmtud :=
  let pktSize := (pmtu.getProbeSize large).1
  let sent := (pmtu.getProbeSize large).2.onPmtuProbeSent
  if pktSize ≤ pathMtu then sent.onPmtuProbeAcked pktSize large
  else sent.onPmtuProbeLost pktSize large

def search (pmtu : Dplpmtud) (pathMtu : Nat)
    (large : defaultSendUdpPayloadSize ≤ peerMaxUdpPayload) : Nat → Dplpmtud
  | 0 => pmtu
  | probes + 1 =>
    let reached := pmtu.search pathMtu large probes
    if reached.shouldProbe then reached.probe pathMtu large else reached

structure Searches (pmtu : Dplpmtud) (pathMtu peerMaxUdpPayload : Nat) : Prop where
  carried : pmtu.currentSize ≤ pathMtu
  reachable : pmtu.currentSize ≤ pmtu.calMtuCeiling peerMaxUdpPayload
  failed : 0 < pmtu.failedSize → pathMtu < pmtu.failedSize
  admitted : pmtu.failedSize ≤ peerMaxUdpPayload
  calculated : ∀ size, pmtu.probeSize = some size → size = pmtu.calProbeSize peerMaxUdpPayload
  counted : pmtu.probeCount < maxProbeCount
  ended : pmtu.shouldProbe = false → pmtu.checkFinish peerMaxUdpPayload = true

private theorem new_searches {maxPmtu : Nat} (isIpv6 : Bool)
    (largeMax : defaultSendUdpPayloadSize ≤ maxPmtu)
    (large : defaultSendUdpPayloadSize ≤ peerMaxUdpPayload)
    (carries : defaultSendUdpPayloadSize ≤ pathMtu) :
    (new true maxPmtu isIpv6 largeMax).Searches pathMtu peerMaxUdpPayload where
  carried := carries
  reachable := calMtuCeiling_large _ large
  failed positive := absurd positive (lt_irrefl 0)
  admitted := Nat.zero_le _
  calculated _ unknown := by cases unknown
  counted := Nat.succ_pos _
  ended idle := by cases idle

private theorem new_maxPmtu {maxPmtu : Nat} (isIpv6 : Bool)
    (largeMax : defaultSendUdpPayloadSize ≤ maxPmtu) :
    maxPmtu ≤ (new true maxPmtu isIpv6 largeMax).maxPmtu := by
  unfold new
  dsimp only
  split_ifs with least
  · exact least ▸ (by decide : defaultSendUdpPayloadSize ≤ maxPacketSizeIpv6)
  · exact least ▸ (by decide : defaultSendUdpPayloadSize ≤ maxPacketSizeIpv4)
  · exact le_refl _

/-! ## The size of a probe -/

variable {pmtu : Dplpmtud}

theorem getProbeSize_eq (sound : pmtu.Searches pathMtu peerMaxUdpPayload)
    (large : defaultSendUdpPayloadSize ≤ peerMaxUdpPayload) :
    (pmtu.getProbeSize large).1 = pmtu.calProbeSize peerMaxUdpPayload := by
  unfold getProbeSize
  split
  · next size known => exact sound.calculated size known
  · rfl

private theorem getProbeSize_keeps {pmtu : Dplpmtud}
    (large : defaultSendUdpPayloadSize ≤ peerMaxUdpPayload) :
    let known := (pmtu.getProbeSize large).2
    known.currentSize = pmtu.currentSize ∧ known.failedSize = pmtu.failedSize ∧
      known.maxPmtu = pmtu.maxPmtu ∧ known.probeCount = pmtu.probeCount ∧
      known.probeSize = some (pmtu.getProbeSize large).1 := by
  unfold getProbeSize
  split
  · next known => exact ⟨rfl, rfl, rfl, rfl, known⟩
  · exact ⟨rfl, rfl, rfl, rfl, rfl⟩

theorem calProbeSize_between (sound : pmtu.Searches pathMtu peerMaxUdpPayload) :
    pmtu.currentSize ≤ pmtu.calProbeSize peerMaxUdpPayload ∧
      pmtu.calProbeSize peerMaxUdpPayload ≤ pmtu.calMtuCeiling peerMaxUdpPayload := by
  have reachable := sound.reachable
  unfold calProbeSize
  dsimp only
  split_ifs <;> omega

/-! ## The three outcomes of a probe -/

/-- What the search knows after a probe, apart from the size to be probed next. -/
def Knows (pmtu : Dplpmtud) (currentSize failedSize probeCount maxPmtu : Nat) : Prop :=
  pmtu.currentSize = currentSize ∧ pmtu.failedSize = failedSize ∧ pmtu.probeCount = probeCount ∧
    pmtu.maxPmtu = maxPmtu

/-- The size is confirmed, tried again or given up. -/
theorem probe_cases (sound : pmtu.Searches pathMtu peerMaxUdpPayload)
    (large : defaultSendUdpPayloadSize ≤ peerMaxUdpPayload) :
    let size := pmtu.calProbeSize peerMaxUdpPayload
    let next := pmtu.probe pathMtu large
    (size ≤ pathMtu ∧ next.Knows size pmtu.failedSize 0 pmtu.maxPmtu ∧
        next.probeSize = some (next.calProbeSize peerMaxUdpPayload) ∧
        next.shouldProbe = !next.checkFinish peerMaxUdpPayload) ∨
      (pathMtu < size ∧ pmtu.probeCount + 1 < maxProbeCount ∧
        next.Knows pmtu.currentSize pmtu.failedSize (pmtu.probeCount + 1) pmtu.maxPmtu ∧
        next.probeSize = some size ∧ next.shouldProbe = true) ∨
      (pathMtu < size ∧ next.Knows pmtu.currentSize size 0 pmtu.maxPmtu ∧
        next.probeSize = some (next.calProbeSize peerMaxUdpPayload) ∧
        next.shouldProbe = !next.checkFinish peerMaxUdpPayload) := by
  have size := getProbeSize_eq sound large
  have between := (calProbeSize_between sound).1
  obtain ⟨current, failed, maximum, count, known⟩ := @getProbeSize_keeps _ pmtu large
  unfold probe
  dsimp only
  rw [size] at known ⊢
  split_ifs with arrives
  · refine .inl ⟨arrives, ⟨?_, failed, rfl, maximum⟩, rfl, rfl⟩
    exact (congrArg (max · _) current).trans (Nat.max_eq_right between)
  · refine .inr ?_
    unfold onPmtuProbeLost
    rw [dif_pos (show (pmtu.getProbeSize large).2.onPmtuProbeSent.probeSize = _ from known)]
    split_ifs with again
    · refine .inl ⟨by omega, ?_, ⟨current, failed, ?_, maximum⟩, known, rfl⟩
      · rw [← count]
        exact again
      · exact congrArg (· + 1) count
    · exact .inr ⟨by omega, ⟨current, rfl, rfl, maximum⟩, rfl, rfl⟩

/-! ## What probes keep -/

theorem calMtuCeiling_eq (pmtu : Dplpmtud) :
    pmtu.calMtuCeiling peerMaxUdpPayload =
      min (if 0 < pmtu.failedSize then pmtu.failedSize else pmtu.maxPmtu) peerMaxUdpPayload := by
  unfold calMtuCeiling
  dsimp only
  generalize (if 0 < pmtu.failedSize then pmtu.failedSize else pmtu.maxPmtu) = limit
  split_ifs <;> omega

theorem calMtuCeiling_congr {pmtu other : Dplpmtud} (failed : other.failedSize = pmtu.failedSize)
    (maximum : other.maxPmtu = pmtu.maxPmtu) :
    other.calMtuCeiling peerMaxUdpPayload = pmtu.calMtuCeiling peerMaxUdpPayload := by
  rw [calMtuCeiling_eq, calMtuCeiling_eq, failed, maximum]

theorem calMtuCeiling_failed (positive : 0 < pmtu.failedSize)
    (admitted : pmtu.failedSize ≤ peerMaxUdpPayload) :
    pmtu.calMtuCeiling peerMaxUdpPayload = pmtu.failedSize := by
  rw [calMtuCeiling_eq, if_pos positive, Nat.min_eq_left admitted]

theorem calMtuCeiling_le (pmtu : Dplpmtud) :
    pmtu.calMtuCeiling peerMaxUdpPayload ≤ peerMaxUdpPayload := by
  rw [calMtuCeiling_eq]
  exact Nat.min_le_right _ _

theorem calProbeSize_congr {pmtu other : Dplpmtud} (current : other.currentSize = pmtu.currentSize)
    (failed : other.failedSize = pmtu.failedSize) (maximum : other.maxPmtu = pmtu.maxPmtu) :
    other.calProbeSize peerMaxUdpPayload = pmtu.calProbeSize peerMaxUdpPayload := by
  unfold calProbeSize
  rw [calMtuCeiling_congr failed maximum, current, failed]

/-- Whether the size was confirmed or given up, the next one is calculated. -/
theorem ended_of_finish (asks : pmtu.shouldProbe = !pmtu.checkFinish peerMaxUdpPayload)
    (idle : pmtu.shouldProbe = false) : pmtu.checkFinish peerMaxUdpPayload = true := by
  rw [asks] at idle
  simpa using idle

private theorem probe_searches (sound : pmtu.Searches pathMtu peerMaxUdpPayload)
    (large : defaultSendUdpPayloadSize ≤ peerMaxUdpPayload) :
    (pmtu.probe pathMtu large).Searches pathMtu peerMaxUdpPayload := by
  obtain ⟨above, below⟩ := calProbeSize_between sound
  have admits := @calMtuCeiling_le peerMaxUdpPayload pmtu
  have reachable := sound.reachable
  have carried := sound.carried
  obtain ⟨arrives, ⟨current, failed, count, maximum⟩, known, asks⟩ |
    ⟨lost, again, ⟨current, failed, count, maximum⟩, known, asks⟩ |
    ⟨lost, ⟨current, failed, count, maximum⟩, known, asks⟩ := probe_cases sound large
  · exact {
      carried := current ▸ arrives
      reachable := by
        rw [calMtuCeiling_congr failed maximum, current]
        exact below
      failed := failed ▸ sound.failed
      admitted := failed ▸ sound.admitted
      calculated := fun size probed => Option.some.inj (probed.symm.trans known)
      counted := count ▸ Nat.succ_pos _
      ended := ended_of_finish asks }
  · exact {
      carried := current ▸ carried
      reachable := by
        rw [calMtuCeiling_congr failed maximum, current]
        exact reachable
      failed := failed ▸ sound.failed
      admitted := failed ▸ sound.admitted
      calculated := fun size probed => by
        rw [calProbeSize_congr current failed maximum]
        exact Option.some.inj (probed.symm.trans known)
      counted := count ▸ again
      ended := fun idle => by
        rw [asks] at idle
        cases idle }
  · have positive : 0 < (pmtu.probe pathMtu large).failedSize := by omega
    have admitted : (pmtu.probe pathMtu large).failedSize ≤ peerMaxUdpPayload := by omega
    exact {
      carried := current ▸ carried
      reachable := by
        rw [calMtuCeiling_failed positive admitted]
        omega
      failed := fun _ => failed ▸ lost
      admitted := admitted
      calculated := fun size probed => Option.some.inj (probed.symm.trans known)
      counted := count ▸ Nat.succ_pos _
      ended := ended_of_finish asks }

/-! ## The end of the search -/

/-- As many probes as the search may still send. The bit stands for the first size, which may be
the ceiling itself. -/
def remaining (pmtu : Dplpmtud) (peerMaxUdpPayload : Nat) : Nat :=
  if pmtu.shouldProbe then
    maxProbeCount * (2 * (pmtu.calMtuCeiling peerMaxUdpPayload - pmtu.currentSize) +
      if pmtu.failedSize = 0 then 1 else 0) + (maxProbeCount - pmtu.probeCount)
  else 0

theorem remaining_idle (idle : pmtu.shouldProbe = false) :
    pmtu.remaining peerMaxUdpPayload = 0 := by
  simp [remaining, idle]

private theorem not_finished (asks : pmtu.shouldProbe = !pmtu.checkFinish peerMaxUdpPayload)
    (active : pmtu.shouldProbe = true) :
    100 * pmtu.currentSize < 99 * pmtu.calMtuCeiling peerMaxUdpPayload := by
  rw [asks] at active
  simp only [checkFinish, Bool.not_eq_true', Bool.or_eq_false_iff, decide_eq_false_iff_not] at active
  omega

private theorem calProbeSize_advances
    (far : 100 * pmtu.calProbeSize peerMaxUdpPayload < 99 * pmtu.calMtuCeiling peerMaxUdpPayload) :
    pmtu.currentSize < pmtu.calProbeSize peerMaxUdpPayload := by
  have large := pmtu.currentLarge
  unfold calProbeSize at far ⊢
  unfold defaultSendUdpPayloadSize at large
  dsimp only at far ⊢
  split_ifs at far ⊢ <;> omega

section

variable (sound : pmtu.Searches pathMtu peerMaxUdpPayload)

include sound

private theorem calProbeSize_lowers (failed : 0 < pmtu.failedSize) :
    pmtu.calProbeSize peerMaxUdpPayload < pmtu.calMtuCeiling peerMaxUdpPayload := by
  have ceiling := calMtuCeiling_failed failed sound.admitted
  have above := sound.failed failed
  have carried := sound.carried
  unfold calProbeSize
  dsimp only
  rw [if_neg fun first => absurd first.1 (Nat.ne_of_gt failed)]
  omega

section

variable (large : defaultSendUdpPayloadSize ≤ peerMaxUdpPayload)

/-- Each probe lowers the measure of the search. -/
theorem probe_remaining (active : pmtu.shouldProbe = true) :
    (pmtu.probe pathMtu large).remaining peerMaxUdpPayload < pmtu.remaining peerMaxUdpPayload := by
  have counted := sound.counted
  have before : pmtu.remaining peerMaxUdpPayload =
      maxProbeCount * (2 * (pmtu.calMtuCeiling peerMaxUdpPayload - pmtu.currentSize) +
        if pmtu.failedSize = 0 then 1 else 0) + (maxProbeCount - pmtu.probeCount) := by
    rw [remaining, if_pos active]
  cases still : (pmtu.probe pathMtu large).shouldProbe with
  | false =>
    rw [remaining_idle still, before]
    omega
  | true =>
    have after : (pmtu.probe pathMtu large).remaining peerMaxUdpPayload = _ := if_pos still
    obtain ⟨above, below⟩ := calProbeSize_between sound
    have admits := @calMtuCeiling_le peerMaxUdpPayload pmtu
    rw [after, before]
    unfold maxProbeCount at *
    obtain ⟨-, ⟨current, failed, count, maximum⟩, -, asks⟩ |
      ⟨-, again, ⟨current, failed, count, maximum⟩, -, -⟩ |
      ⟨lost, ⟨current, failed, count, maximum⟩, -, -⟩ := probe_cases sound large
    · have far := not_finished asks still
      have ceiling := @calMtuCeiling_congr peerMaxUdpPayload _ _ failed maximum
      rw [ceiling, current] at far
      have advanced := calProbeSize_advances far
      rw [ceiling, current, failed, count]
      omega
    · rw [calMtuCeiling_congr failed maximum, current, failed, count]
      omega
    · have positive : 0 < (pmtu.probe pathMtu large).failedSize := by omega
      have ceiling := calMtuCeiling_failed positive (by omega : _ ≤ peerMaxUdpPayload)
      have bounded := sound.counted
      rw [ceiling, current, count, if_neg (Nat.ne_of_gt positive), failed]
      unfold maxProbeCount at bounded
      split_ifs with first
      · omega
      · have lowered := calProbeSize_lowers sound (Nat.pos_of_ne_zero first)
        omega

theorem search_searches (probes : Nat) :
    (pmtu.search pathMtu large probes).Searches pathMtu peerMaxUdpPayload := by
  induction probes with
  | zero => exact sound
  | succ probes ih =>
    simp only [search]
    split_ifs
    · exact probe_searches ih large
    · exact ih

private theorem search_remaining (probes : Nat) :
    (pmtu.search pathMtu large probes).remaining peerMaxUdpPayload ≤
      pmtu.remaining peerMaxUdpPayload - probes := by
  induction probes with
  | zero => exact le_refl _
  | succ probes ih =>
    simp only [search]
    split_ifs with active
    · have fewer := probe_remaining (search_searches sound large probes) large active
      omega
    · rw [remaining_idle (by simpa using active)]
      exact Nat.zero_le _

private theorem search_maxPmtu (probes : Nat) :
    (pmtu.search pathMtu large probes).maxPmtu = pmtu.maxPmtu := by
  induction probes with
  | zero => rfl
  | succ probes ih =>
    simp only [search]
    split_ifs
    · obtain ⟨-, ⟨-, -, -, maximum⟩, -⟩ | ⟨-, -, ⟨-, -, -, maximum⟩, -⟩ |
        ⟨-, ⟨-, -, -, maximum⟩, -⟩ := probe_cases (search_searches sound large probes) large
      all_goals exact maximum.trans ih
    · exact ih

private theorem probe_currentSize : pmtu.currentSize ≤ (pmtu.probe pathMtu large).currentSize := by
  obtain ⟨-, ⟨current, -⟩, -⟩ | ⟨-, -, ⟨current, -⟩, -⟩ | ⟨-, ⟨current, -⟩, -⟩ :=
    probe_cases sound large
  · exact current ▸ (calProbeSize_between sound).1
  · exact le_of_eq current.symm
  · exact le_of_eq current.symm

end

theorem Searches.reached (idle : pmtu.shouldProbe = false) :
    99 * min pathMtu (min pmtu.maxPmtu peerMaxUdpPayload) ≤ 100 * pmtu.currentSize := by
  have finish := sound.ended idle
  have failed := sound.failed
  have ceiling := @calMtuCeiling_eq peerMaxUdpPayload pmtu
  simp only [checkFinish, Bool.or_eq_true, decide_eq_true_eq] at finish
  split_ifs at ceiling with positive
  · have above := failed positive
    omega
  · omega

end

/-- The maximum that the search uses is at least the configured one. For every true MTU of the path
the search ends, and until then every probe lies between the confirmed size, which only grows and
is carried by the path, and the ceiling. -/
theorem search_sound {maxPmtu : Nat} (isIpv6 : Bool)
    (largeMax : defaultSendUdpPayloadSize ≤ maxPmtu)
    (large : defaultSendUdpPayloadSize ≤ peerMaxUdpPayload)
    (carries : defaultSendUdpPayloadSize ≤ pathMtu) : let pmtu := new true maxPmtu isIpv6 largeMax
    let after := pmtu.search pathMtu large
    (∀ probes,
      (after probes).currentSize ≤ pathMtu ∧
      (after probes).currentSize ≤ (after (probes + 1)).currentSize ∧
      ((after probes).shouldProbe = true →
        (after probes).currentSize ≤ ((after probes).getProbeSize large).1 ∧
        ((after probes).getProbeSize large).1 ≤
          (after probes).calMtuCeiling peerMaxUdpPayload)) ∧
      ∃ probes, (after probes).shouldProbe = false ∧ maxPmtu ≤ pmtu.maxPmtu ∧
        99 * min pathMtu (min pmtu.maxPmtu peerMaxUdpPayload) ≤
          100 * (after probes).currentSize := by
  intro pmtu after
  have start : pmtu.Searches pathMtu peerMaxUdpPayload :=
    new_searches isIpv6 largeMax large carries
  have sound := fun probes => search_searches start large probes
  refine ⟨fun probes => ⟨(sound probes).carried, ?_, fun _ => ?_⟩, ?_⟩
  · simp only [after, search]
    split_ifs
    · exact probe_currentSize (sound probes) large
    · exact le_refl _
  · rw [getProbeSize_eq (sound probes) large]
    exact calProbeSize_between (sound probes)
  · have none := search_remaining start large (pmtu.remaining peerMaxUdpPayload)
    have idle : (after (pmtu.remaining peerMaxUdpPayload)).shouldProbe = false := by
      cases active : (after (pmtu.remaining peerMaxUdpPayload)).shouldProbe with
      | false => rfl
      | true =>
        have fewer := probe_remaining (sound _) large active
        omega
    refine ⟨_, idle, ?_, ?_⟩
    · exact new_maxPmtu isIpv6 largeMax
    · rw [← search_maxPmtu start large (pmtu.remaining peerMaxUdpPayload)]
      exact (sound _).reached idle

/-- Both limits admit more than the path carries. -/
theorem search_sound_ethernet :
    defaultSendUdpPayloadSize ≤ 1350 ∧
      ∃ probes,
        let reached := (new true 1200 true (le_refl _)).search 1350
          (by decide : defaultSendUdpPayloadSize ≤ 60000) probes
        reached.shouldProbe = false ∧ 99 * 1350 ≤ 100 * reached.currentSize :=
  ⟨by decide, (search_sound true (le_refl _) (by decide) (by decide)).2.imp
    fun _ ended => ⟨ended.1, ended.2.2⟩⟩

end Tquic.Connection.Dplpmtud
