import Tquic.Connection.PathValidation

/-! The timer for outstanding challenges. Its handler only looks at paths whose validation is
in progress, while a challenge is sent on any path that was asked for one. -/

set_option autoImplicit false

namespace Tquic.Connection

open Lib

def PathMap.minPathChalTimer (map : PathMap) : Option Instant :=
  ((map.paths.filterMap (·.sentChals.head?)).map (·.lossTime)).min?

namespace Path

def Probing (path : Path) : Prop :=
  path.sentChals ≠ [] → path.state = .validating ∨ path.state = .validatingMtu

theorem state_promoteTo (path : Path) (state : PathState) :
    (path.promoteTo state).state = if path.state.rank < state.rank then state else path.state := by
  unfold promoteTo
  split <;> rfl

variable {path : Path}

private theorem onPathChalSent_probing (pending : path.isValidated = false)
    (data : ChallengeData) (pktSize : Nat) (sentTime : Instant) :
    (path.onPathChalSent data pktSize sentTime).Probing := by
  intro _
  have state : (path.onPathChalSent data pktSize sentTime).state =
      if path.state.rank < PathState.validating.rank then .validating else path.state :=
    state_promoteTo path .validating
  rw [state]
  cases before : path.state with
  | validated => simp [isValidated, before] at pending
  | validating | failed | unknown => exact .inl rfl
  | validatingMtu => exact .inr rfl

private theorem onPathRespReceived_probing (probing : path.Probing) (data : ChallengeData)
    (multipath : Bool) : (path.onPathRespReceived data multipath).2.Probing := by
  unfold onPathRespReceived
  dsimp only
  split_ifs with done large
  · exact probing
  · exact fun outstanding => absurd rfl outstanding
  · intro _
    refine .inr ((state_promoteTo _ .validatingMtu).trans ?_)
    dsimp only
    cases before : path.state with
    | validated => simp [isValidated, before] at done
    | _ => rfl

private theorem dropLostChals_probing (now : Instant) (outstanding : List SentChallenge)
    (active : path.state = .validating ∨ path.state = .validatingMtu) :
    (dropLostChals now outstanding path).Probing := by
  induction outstanding generalizing path with
  | nil => exact fun outstanding => absurd rfl outstanding
  | cons first rest ih =>
    unfold dropLostChals
    split_ifs with later more
    · exact fun _ => active
    · exact ih active
    · exact fun outstanding => absurd rfl outstanding

private theorem onPathChalTimeout_probing (probing : path.Probing) (now : Instant) :
    (path.onPathChalTimeout now).Probing := by
  unfold onPathChalTimeout
  split_ifs with idle
  · exact probing
  · refine dropLostChals_probing now path.sentChals ?_
    by_contra neither
    exact idle (not_or.mp neither)

private theorem dropLostChals_head (now : Instant) (outstanding : List SentChallenge) (path : Path)
    {sent : SentChallenge} (first : (dropLostChals now outstanding path).sentChals.head? = some sent) :
    now < sent.lossTime := by
  induction outstanding generalizing path with
  | nil => cases first
  | cons front rest ih =>
    unfold dropLostChals at first
    split_ifs at first with later more
    · cases first
      exact later
    · exact ih _ first
    · cases first

private theorem onPathChalTimeout_head (probing : path.Probing) (now : Instant)
    {sent : SentChallenge} (first : (path.onPathChalTimeout now).sentChals.head? = some sent) :
    now < sent.lossTime := by
  unfold onPathChalTimeout at first
  split_ifs at first with idle
  · have outstanding : path.sentChals ≠ [] := by
      intro empty
      rw [empty] at first
      cases first
    exact absurd (probing outstanding) (not_or.mpr idle)
  · exact dropLostChals_head now path.sentChals path first

end Path

namespace PathMap

def Probing (map : PathMap) : Prop := ∀ pathId path, map.get pathId = some path → path.Probing

private theorem minPathChalTimer_mem {map : PathMap} {time : Instant}
    (timer : map.minPathChalTimer = some time) : ∃ pathId path sent,
      map.get pathId = some path ∧ path.sentChals.head? = some sent ∧ sent.lossTime = time := by
  obtain ⟨sent, first, same⟩ := List.mem_map.mp (List.min?_mem timer)
  obtain ⟨path, member, head⟩ := List.mem_filterMap.mp first
  obtain ⟨pathId, present⟩ := List.getElem?_of_mem member
  exact ⟨pathId, path, sent, present, head, same⟩

/-- After the timer was handled it is off or set to a later time. -/
def TimerAhead (map : PathMap) (now : Instant) : Prop :=
  ∀ time, (map.onPathChalTimeout now).minPathChalTimer = some time → now < time

private theorem Probing.timerAhead {map : PathMap} (probing : map.Probing) (now : Instant) :
    map.TimerAhead now := by
  intro time timer
  obtain ⟨pathId, path, sent, present, first, rfl⟩ := minPathChalTimer_mem timer
  obtain ⟨old, stored, rfl⟩ := get_onPathChalTimeout present
  exact Path.onPathChalTimeout_head (probing pathId old stored) now first

end PathMap

namespace ValidationRun

def ChallengesUnvalidated (run : ValidationRun) : Op → Prop
  | .chalSent pathId _ _ _ => ∀ path, run.map.get pathId = some path → path.isValidated = false
  | _ => True

private theorem step_probing {run next : ValidationRun} {op : Op} (probing : run.map.Probing)
    (allowed : run.ChallengesUnvalidated op) (stepped : run.step op = some next) :
    next.map.Probing := by
  intro pathId found present
  cases step_effect stepped present with
  | created unchallenged _ => exact fun outstanding => absurd unchallenged outstanding
  | kept stored same _ =>
    unfold Path.Probing
    rw [same.sentChals, same.state]
    exact probing pathId _ stored
  | challenged stored asked result _ =>
    subst asked
    rw [result]
    exact Path.onPathChalSent_probing (allowed _ stored) _ _ _
  | timedOut stored result _ =>
    rw [result]
    exact Path.onPathChalTimeout_probing (probing pathId _ stored) _
  | answered stored result _ =>
    rw [result]
    exact Path.onPathRespReceived_probing (probing pathId _ stored) _ _

private theorem start_probing (localAddr remoteAddr : SocketAddr)
    (maxDatagramSize maxPaths antiAmplFactor : Nat) (isServer addrToken : Bool) :
    (start localAddr remoteAddr maxDatagramSize maxPaths antiAmplFactor isServer
      addrToken).map.Probing := by
  intro pathId path present outstanding
  cases pathId with
  | zero =>
    simp only [start, PathMap.new, PathMap.get, List.getElem?_cons_zero,
      Option.some.injEq] at present
    subst present
    cases isServer <;> exact absurd rfl outstanding
  | succ pathId => simp [start, PathMap.new, PathMap.get] at present

/-- A timer that fired is not left in the past, as long as no validated path is challenged. -/
theorem challenge_timer_ahead {localAddr remoteAddr : SocketAddr}
    {maxDatagramSize maxPaths antiAmplFactor : Nat} {isServer addrToken : Bool}
    {run : ValidationRun} (reached : Run step ChallengesUnvalidated
      (start localAddr remoteAddr maxDatagramSize maxPaths antiAmplFactor isServer addrToken) run)
    (now : Instant) : run.map.TimerAhead now :=
  (reached.invariant (fun _ _ _ probing allowed stepped => step_probing probing allowed stepped)
    (start_probing _ _ _ _ _ _ _)).timerAhead now

/-- The challenge on a new path is lost, and the one that replaces it is outstanding when the
timer is asked for. -/
theorem challenge_timer_ahead_second :
    ∃ run : ValidationRun, (run.map.onPathChalTimeout 60000000).minPathChalTimer = some 80000000 ∧
      run.map.TimerAhead 60000000 := by
  let check : ValidationRun → Op → Bool
    | run, .chalSent pathId _ _ _ => (run.map.get pathId).all (!·.isValidated)
    | _, _ => true
  have executed : (exec (checked check step)
      (start (.localhost 1) (.localhost 2) 1200 2 3 true false)
      [.insertPath (.localhost 1) (.localhost 3) 1200 (some 0) none 3600,
        .chalSent 1 (.replicate 8 7) 1200 0, .chalTimeout 30000000,
        .chalSent 1 (.replicate 8 8) 1200 30000000]).any (fun run =>
          (run.map.onPathChalTimeout 60000000).minPathChalTimer = some 80000000) = true := by
    decide +kernel
  obtain ⟨run, steps, timer⟩ := (Option.any_eq_true _ _).mp executed
  have sound : ∀ run op, check run op = true → ChallengesUnvalidated run op := by
    intro run op passed
    cases op with
    | chalSent pathId data pktSize sentTime =>
      intro path present
      have open' : (run.map.get pathId).all (!·.isValidated) = true := passed
      rw [present] at open'
      simpa using open'
    | _ => trivial
  exact ⟨run, of_decide_eq_true timer,
    challenge_timer_ahead (.of_checked sound (.of_exec steps)) 60000000⟩

def SendsRequested (run : ValidationRun) : Op → Prop
  | .chalSent pathId _ _ _ => ∀ path, run.map.get pathId = some path → path.needSendChallenge = true
  | _ => True

/-- A response with other data asks for another challenge, and the right one validates the
path. The challenge that is still sent then is never taken as lost. -/
theorem challenge_timer_stuck :
    ∃ run, Run step SendsRequested (start (.localhost 1) (.localhost 2) 1200 2 3 true false) run ∧
      ¬ run.map.TimerAhead 1000000000 := by
  let check : ValidationRun → Op → Bool
    | run, .chalSent pathId _ _ _ => (run.map.get pathId).all (·.needSendChallenge)
    | _, _ => true
  have executed : (exec (checked check step)
      (start (.localhost 1) (.localhost 2) 1200 2 3 true false)
      [.insertPath (.localhost 1) (.localhost 3) 1200 (some 0) none 3600,
        .chalSent 1 (.replicate 8 7) 1200 0, .respReceived 1 (.replicate 8 6),
        .respReceived 1 (.replicate 8 7), .chalSent 1 (.replicate 8 8) 1200 1000000]).any
          (fun run => (run.map.onPathChalTimeout 1000000000).minPathChalTimer = some 26000000) =
            true := by
    decide +kernel
  obtain ⟨run, steps, timer⟩ := (Option.any_eq_true _ _).mp executed
  have sound : ∀ run op, check run op = true → SendsRequested run op := by
    intro run op passed
    cases op with
    | chalSent pathId data pktSize sentTime =>
      intro path present
      have asked : (run.map.get pathId).all (·.needSendChallenge) = true := passed
      rw [present] at asked
      exact asked
    | _ => trivial
  refine ⟨run, .of_checked sound (.of_exec steps), fun ahead => ?_⟩
  have later := ahead _ (of_decide_eq_true timer)
  exact absurd later (by decide)

end ValidationRun

end Tquic.Connection
