import Mathlib.Algebra.Order.Floor.Defs
import Tquic.Basic
import Tquic.Lib.GaussJordan

/-! The LinUCB scheduler, after `multipath_scheduler/scheduler_linucb.rs`. Numbers of type `f64` are
those of an ordered field, so that their arithmetic is exact; its square root and exponential are
parameters. Window counters, snapshots, addresses and the JSON metrics are left out: no decision
reads them. -/

set_option autoImplicit false

namespace Tquic.MultipathScheduler

open Lib

universe u

/-- Number of context features used by the bandit. -/
abbrev D : Nat := 5

def staleDecisionTimeout : Duration := 1000000000

def idleForgetThreshold : Duration := 10000000000

/-- The functions of the floating-point library. -/
structure Floats (K : Type u) where
  sqrt : K → K
  exp : K → K

/-- A constant of the source, which is not a whole number. -/
def constant {K : Type u} [Field K] (numerator denominator : Nat) : K :=
  (numerator : K) / (denominator : K)

/-- `Vec::resize`. -/
def resize {α : Type u} (length : Nat) (fill : α) (entries : List α) : List α :=
  entries.take length ++ List.replicate (length - entries.length) fill

def grow {α : Type u} (pathId : Nat) (fill : α) (entries : List α) : List α :=
  if pathId ≥ entries.length then resize (pathId + 1) fill entries else entries

section

variable {K : Type u} [Field K] [LinearOrder K]

def clamp (value low high : K) : K := max low (min value high)

/-! ## Inverting a matrix -/

/-- Partial pivoting: the row with the largest absolute value in this column, and that value. -/
def pivotRow (a : Matrix (Fin D) (Fin D) K) (col : Fin D) : Fin D × K :=
  ((List.finRange D).filter (col < ·)).foldl
    (fun best row => if |a row col| > best.2 then (row, |a row col|) else best)
    (col, |a col col|)

/-- One round of the loop over the columns; `none` is the singular branch. -/
def reduceColumn (state : Matrix (Fin D) (Fin D) K × Matrix (Fin D) (Fin D) K) (col : Fin D) :
    Option (Matrix (Fin D) (Fin D) K × Matrix (Fin D) (Fin D) K) :=
  let (a, inv) := state
  let (maxRow, maxVal) := pivotRow a col
  if maxVal < constant 1 (10 ^ 15) then none
  else
    let a := swapRows col maxRow a
    let inv := swapRows col maxRow inv
    -- Scale pivot row.
    let pivot := a col col
    let a := divideRow col pivot a
    let inv := divideRow col pivot inv
    -- Eliminate column in all other rows. No row reads another but the pivot row.
    let factor := fun row => a row col
    some (subtractRow col factor a, subtractRow col factor inv)

def reduceColumns (m : Matrix (Fin D) (Fin D) K) :
    Option (Matrix (Fin D) (Fin D) K × Matrix (Fin D) (Fin D) K) :=
  (List.finRange D).foldlM reduceColumn (m, 1)

def matInv (m : Matrix (Fin D) (Fin D) K) : Matrix (Fin D) (Fin D) K :=
  match reduceColumns m with
  | some (_, inv) => inv
  | none => 1

end

/-! ## Arms -/

structure ArmState (K : Type u) where
  a : Matrix (Fin D) (Fin D) K
  b : Fin D → K

namespace ArmState

variable {K : Type u} [Field K]

def new : ArmState K := { a := 1, b := 0 }

def updateArm (arm : ArmState K) (x : Fin D → K) (reward : K) : ArmState K :=
  { a := fun i j => arm.a i j + x i * x j
    b := fun i => arm.b i + reward * x i }

def forgetArm (arm : ArmState K) (lambda : K) : ArmState K :=
  { a := fun i j => arm.a i j * lambda + if i = j then 1 - lambda else 0
    b := fun i => arm.b i * lambda }

/-- Decay the matrix toward identity, as an idle path does. -/
def decay (arm : ArmState K) (factor : K) : ArmState K :=
  { arm with a := fun i j => factor * arm.a i j + if i = j then 1 - factor else 0 }

/-- The reset after a jump of the RTT. -/
def reset : ArmState K :=
  { a := fun i j => if i = j then ((10 : Nat) : K) else 0
    b := fun _ => 0 }

theorem updateArm_apply (arm : ArmState K) (x : Fin D → K) (reward : K) (i j : Fin D) :
    (arm.updateArm x reward).a i j = arm.a i j + x i * x j := rfl

theorem forgetArm_apply (arm : ArmState K) (lambda : K) (i j : Fin D) :
    (arm.forgetArm lambda).a i j = arm.a i j * lambda + if i = j then 1 - lambda else 0 := rfl

theorem decay_apply (arm : ArmState K) (factor : K) (i j : Fin D) :
    (arm.decay factor).a i j = factor * arm.a i j + if i = j then 1 - factor else 0 := rfl

theorem reset_apply (i j : Fin D) : (reset : ArmState K).a i j = if i = j then ((10 : Nat) : K) else 0 := rfl

end ArmState

def idleForgetFactor {K : Type u} [Field K] : K := constant 95 100

/-- What the scheduler reads of a path. -/
structure PathStats where
  active : Bool
  canSend : Bool
  smoothedRtt : Duration
  latestRtt : Duration
  bytesInFlight : Nat
  congestionWindow : Nat
  pacingRate : Option Nat
  sentCount : Nat
  ackedCount : Nat
  lostCount : Nat
  deriving DecidableEq, Repr

/-- The path at an index, if the slab has one there. -/
def getPath (paths : List (Option PathStats)) (pathId : Nat) : Option PathStats :=
  paths.getD pathId none

structure LinUCBScheduler (K : Type u) where
  arms : List (Option (ArmState K))
  lastMinRttNs : Nat
  totalCounts : List Nat
  alphaInit : K
  alphaFloor : K
  emaRttNs : List K
  ackCounts : List Nat
  -- The features that won the selection of a path, until they are trained.
  pendingContext : List (Option (Fin D → K))
  pendingSince : List (Option Instant)
  lastSelectionTime : List (Option Instant)
  prevAckedCount : List Nat
  prevSentCount : List Nat
  prevLostCount : List Nat
  lossEwma : List K

/-- A path that can be selected, with the statistics of its context. -/
structure RawRow where
  pid : Nat
  rttNs : Nat
  bytesInFlight : Nat
  cwnd : Nat
  pacingRateBytesPerSec : Nat
  deriving DecidableEq, Repr

structure ScoreRow (K : Type u) where
  pid : Nat
  ucb : K
  x : Fin D → K

namespace LinUCBScheduler

variable {K : Type u} [Field K] [LinearOrder K]

def new : LinUCBScheduler K where
  arms := []
  lastMinRttNs := 1
  totalCounts := []
  alphaInit := 1
  alphaFloor := constant 15 100
  emaRttNs := []
  ackCounts := []
  pendingContext := []
  pendingSince := []
  lastSelectionTime := []
  prevAckedCount := []
  prevSentCount := []
  prevLostCount := []
  lossEwma := []

def ensureArm (scheduler : LinUCBScheduler K) (pathId : Nat) : LinUCBScheduler K :=
  let arms := grow pathId none scheduler.arms
  { scheduler with
    arms := if (arms.getD pathId none).isNone then arms.set pathId (some .new) else arms }

def modifyArm (scheduler : LinUCBScheduler K) (pathId : Nat)
    (change : ArmState K → ArmState K) : LinUCBScheduler K :=
  { scheduler with arms := scheduler.arms.modify pathId (Option.map change) }

def makeContext (rttNs minRttNs bytesInFlight cwnd : Nat) (lossRate : K)
    (pacingRate maxPacingRate : Nat) : Fin D → K :=
  let latencyScore : K :=
    if rttNs > 0 && minRttNs > 0 then clamp ((minRttNs : K) / rttNs) 0 1 else 1
  let cwndHeadroomScore : K :=
    if cwnd > 0 then 1 - clamp ((bytesInFlight : K) / cwnd) 0 1 else 0
  let reliabilityScore : K := 1 - clamp lossRate 0 1
  let relativePacingScore : K :=
    if pacingRate > 0 && maxPacingRate > 0 then clamp ((pacingRate : K) / maxPacingRate) 0 1
    else 0
  ![latencyScore, cwndHeadroomScore, reliabilityScore, relativePacingScore, 1]

/-- The estimated reward and the exploration bonus. -/
def ucbParts (floats : Floats K) (arm : ArmState K) (x : Fin D → K) (alpha : K) : K × K :=
  let aInv := matInv arm.a
  let theta := aInv.mulVec arm.b
  (theta ⬝ᵥ x, alpha * floats.sqrt (max (x ⬝ᵥ aInv.mulVec x) 0))

/-- Dynamic exploration coefficient based on selections, not ACKs. -/
def selectionAlpha (floats : Floats K) (scheduler : LinUCBScheduler K) (selectionCount : Nat) : K :=
  max (scheduler.alphaInit / floats.sqrt (selectionCount + 1)) scheduler.alphaFloor

def observedReward (floats : Floats K) (deltaAcked deltaSent : Nat) (emaRttNs : K)
    (minRttNs bytesInFlight cwnd : Nat) : K :=
  let delivery : K := if deltaSent > 0 then clamp ((deltaAcked : K) / deltaSent) 0 1 else constant 1 2
  let rttNorm := clamp (emaRttNs / (max minRttNs 1 : Nat)) 1 (4 : Nat)
  let cwndPressure : K := if cwnd > 0 then clamp ((bytesInFlight : K) / cwnd) 0 1 else 1
  let latencyTerm := floats.exp (-(rttNorm - 1))
  let congestionTerm := floats.sqrt (max (1 - cwndPressure) 0)
  clamp (delivery * latencyTerm * congestionTerm) 0 1

/-! ## Pending decisions -/

def ensurePendingState (scheduler : LinUCBScheduler K) (pathId : Nat) : LinUCBScheduler K :=
  { scheduler with
    pendingContext := grow pathId none scheduler.pendingContext
    pendingSince := grow pathId none scheduler.pendingSince }

def markPendingContext (scheduler : LinUCBScheduler K) (pathId : Nat) (x : Fin D → K)
    (now : Instant) : LinUCBScheduler K :=
  let ensured := scheduler.ensurePendingState pathId
  { ensured with
    -- The next ACK trains on the most recent decision basis.
    pendingContext := ensured.pendingContext.set pathId (some x)
    pendingSince :=
      if (ensured.pendingSince.getD pathId none).isNone then
        ensured.pendingSince.set pathId (some now)
      else ensured.pendingSince }

def takePendingContext (scheduler : LinUCBScheduler K) (pathId : Nat) :
    Option (Fin D → K) × LinUCBScheduler K :=
  if pathId ≥ scheduler.pendingContext.length then (none, scheduler)
  else
    (scheduler.pendingContext.getD pathId none,
      { scheduler with
        pendingContext := scheduler.pendingContext.set pathId none
        pendingSince := scheduler.pendingSince.set pathId none })

def penalizeStale (now : Instant) (skipPathId : Option Nat) (scheduler : LinUCBScheduler K)
    (pathId : Nat) : LinUCBScheduler K :=
  if skipPathId = some pathId then scheduler
  else
    let isStale :=
      match scheduler.pendingSince.getD pathId none with
      | some since => saturatingDurationSince now since ≥ staleDecisionTimeout
      | none => false
    if !isStale then scheduler
    else
      let trained :=
        match scheduler.pendingContext.getD pathId none with
        | some x =>
            { (scheduler.ensureArm pathId).modifyArm pathId (·.updateArm x 0) with
              pendingContext := scheduler.pendingContext.set pathId none }
        | none => scheduler
      { trained with pendingSince := trained.pendingSince.set pathId none }

def penalizeStalePending (scheduler : LinUCBScheduler K) (now : Instant)
    (skipPathId : Option Nat) : LinUCBScheduler K :=
  (List.range scheduler.pendingContext.length).foldl (penalizeStale now skipPathId) scheduler

/-! ## Selecting a path -/

def forgetIdle (now : Instant) (scheduler : LinUCBScheduler K) (row : RawRow) : LinUCBScheduler K :=
  let grown :=
    { scheduler with lastSelectionTime := grow row.pid none scheduler.lastSelectionTime }
  match grown.lastSelectionTime.getD row.pid none with
  | some lastTime =>
      if saturatingDurationSince now lastTime > idleForgetThreshold then
        (grown.ensureArm row.pid).modifyArm row.pid (·.decay idleForgetFactor)
      else grown
  | none => grown

/-- One round of the loop that scores the paths. -/
def scoreRow (floats : Floats K) (minRttNs maxPacingRate : Nat)
    (state : LinUCBScheduler K × List (ScoreRow K)) (row : RawRow) :
    LinUCBScheduler K × List (ScoreRow K) :=
  let (scheduler, rows) := state
  let x := makeContext row.rttNs minRttNs row.bytesInFlight row.cwnd
    (scheduler.lossEwma.getD row.pid 0) row.pacingRateBytesPerSec maxPacingRate
  let scheduler := scheduler.ensureArm row.pid
  let arm := (scheduler.arms.getD row.pid none).getD .new
  let alpha := scheduler.selectionAlpha floats (scheduler.totalCounts.getD row.pid 0)
  let (est, bonus) := ucbParts floats arm x alpha
  (scheduler, rows ++ [{ pid := row.pid, ucb := est + bonus, x }])

def bestRow (rows : List (ScoreRow K)) : Option (ScoreRow K) :=
  rows.foldl
    (fun best row =>
      match best with
      | some highest => if row.ucb > highest.ucb then some row else best
      | none => some row)
    none

variable [FloorSemiring K]

/-- The cast of a float to `u128`. -/
def asU128 (value : K) : Nat := min ⌊value⌋₊ (2 ^ 128 - 1)

def rawRow (scheduler : LinUCBScheduler K) (pid : Nat) (path : PathStats) : RawRow :=
  { pid
    rttNs :=
      if scheduler.ackCounts.getD pid 0 > 0 && decide (pid < scheduler.emaRttNs.length) then
        asU128 (scheduler.emaRttNs.getD pid 0)
      else path.smoothedRtt
    bytesInFlight := path.bytesInFlight
    cwnd := path.congestionWindow
    pacingRateBytesPerSec := path.pacingRate.getD 0 }

/-- The paths that can be selected, in the order of the slab. -/
def rawRows (scheduler : LinUCBScheduler K) (paths : List (Option PathStats)) : List RawRow :=
  paths.zipIdx.filterMap fun entry =>
    match entry.1 with
    | some path =>
        if !path.active || !path.canSend then none else some (scheduler.rawRow entry.2 path)
    | none => none

def onSelect (floats : Floats K) (scheduler : LinUCBScheduler K) (now : Instant)
    (paths : List (Option PathStats)) : Except Error Nat × LinUCBScheduler K :=
  let scheduler := scheduler.penalizeStalePending now none
  let raw := scheduler.rawRows paths
  let minRttNs := max (raw.foldl (fun least row => min least row.rttNs) (2 ^ 128 - 1)) 1
  let maxPacingRate := raw.foldl (fun most row => max most row.pacingRateBytesPerSec) 0
  if raw.isEmpty then (.error .done, scheduler)
  else
    let scheduler := { scheduler with lastMinRttNs := minRttNs }
    let scheduler := raw.foldl (forgetIdle now) scheduler
    let (scheduler, rows) := raw.foldl (scoreRow floats minRttNs maxPacingRate) (scheduler, [])
    match bestRow rows with
    | none => (.error .done, scheduler)
    | some best =>
        let totalCounts := grow best.pid 0 scheduler.totalCounts
        let scheduler :=
          { scheduler with totalCounts := totalCounts.modify best.pid (· + 1) }
        let scheduler := scheduler.markPendingContext best.pid best.x now
        let lastSelectionTime := grow best.pid none scheduler.lastSelectionTime
        (.ok best.pid,
          { scheduler with lastSelectionTime := lastSelectionTime.set best.pid (some now) })

/-! ## Learning from an acknowledgement -/

omit [LinearOrder K] [FloorSemiring K] in
/-- Alpha is a half for the first eight acknowledgements of a path, then a fifth. -/
def emaAlpha (ackCount : Nat) : K := if ackCount ≤ 8 then constant 1 2 else constant 1 5

/-- Per-path EMA to smooth transient first-packet RTT spikes. Returned with the value before. -/
def smoothRtt (scheduler : LinUCBScheduler K) (pathId rttNs : Nat) : K × LinUCBScheduler K :=
  let grown :=
    if pathId ≥ scheduler.emaRttNs.length then
      { scheduler with
        emaRttNs := resize (pathId + 1) (rttNs : K) scheduler.emaRttNs
        ackCounts := resize (pathId + 1) 0 scheduler.ackCounts }
    else scheduler
  let oldEma := grown.emaRttNs.getD pathId 0
  let ackCount := grown.ackCounts.getD pathId 0 + 1
  let alpha : K := emaAlpha ackCount
  (oldEma,
    { grown with
      ackCounts := grown.ackCounts.set pathId ackCount
      emaRttNs := grown.emaRttNs.set pathId (alpha * rttNs + (1 - alpha) * oldEma) })

/-- Reset the arm if the EMA has changed by more than 30% since the previous ACK. -/
def resetOnJump (scheduler : LinUCBScheduler K) (pathId : Nat) (oldEma : K) : LinUCBScheduler K :=
  let ema := scheduler.emaRttNs.getD pathId 0
  if scheduler.ackCounts.getD pathId 0 > 8 && decide (oldEma > 0) &&
      decide (|(ema - oldEma) / oldEma| > constant 30 100) then
    scheduler.modifyArm pathId fun _ => .reset
  else scheduler

/-- Train the arm on the decision that was still pending. -/
def train (floats : Floats K) (scheduler : LinUCBScheduler K) (pathId : Nat) (path : PathStats)
    (x : Fin D → K) : LinUCBScheduler K :=
  let prevAckedCount := grow pathId 0 scheduler.prevAckedCount
  let prevSentCount := grow pathId 0 scheduler.prevSentCount
  let deltaAcked := path.ackedCount - prevAckedCount.getD pathId 0
  let deltaSent := path.sentCount - prevSentCount.getD pathId 0
  let prevLostCount := grow pathId 0 scheduler.prevLostCount
  let lossEwma := grow pathId 0 scheduler.lossEwma
  let deltaLost := path.lostCount - prevLostCount.getD pathId 0
  let outcomes := min (deltaAcked + deltaLost) (2 ^ 64 - 1)
  let instantLoss : K := clamp ((deltaLost : K) / outcomes) 0 1
  let reward := observedReward floats deltaAcked deltaSent (scheduler.emaRttNs.getD pathId 0)
    scheduler.lastMinRttNs path.bytesInFlight path.congestionWindow
  let counted :=
    { scheduler with
      prevAckedCount := prevAckedCount.set pathId path.ackedCount
      prevSentCount := prevSentCount.set pathId path.sentCount
      prevLostCount := prevLostCount.set pathId path.lostCount
      -- Per-path loss EWMA for use in the context.
      lossEwma :=
        if outcomes > 0 then lossEwma.modify pathId (constant 1 5 * instantLoss + constant 4 5 * ·)
        else lossEwma }
  counted.modifyArm pathId (·.updateArm x reward)

def trainPending (floats : Floats K) (scheduler : LinUCBScheduler K) (pathId : Nat)
    (path : PathStats) : LinUCBScheduler K :=
  match scheduler.takePendingContext pathId with
  | (none, scheduler) => scheduler
  | (some x, scheduler) => scheduler.train floats pathId path x

def onAck (floats : Floats K) (scheduler : LinUCBScheduler K) (now : Instant) (pathId : Nat)
    (paths : List (Option PathStats)) : LinUCBScheduler K :=
  let scheduler := scheduler.penalizeStalePending now (some pathId)
  match getPath paths pathId with
  | none => scheduler
  | some path =>
      let (oldEma, scheduler) := scheduler.smoothRtt pathId (max path.latestRtt 1)
      let scheduler := (scheduler.ensureArm pathId).resetOnJump pathId oldEma
      scheduler.trainPending floats pathId path

/-! ## What the loops keep -/

section Kept

variable {Holds : LinUCBScheduler K → Prop} {scheduler : LinUCBScheduler K} {now : Instant}

omit [LinearOrder K] [FloorSemiring K] in
theorem penalizeStalePending_keeps {skipPathId : Option Nat}
    (each : ∀ state pathId, Holds state → Holds (penalizeStale now skipPathId state pathId))
    (holds : Holds scheduler) : Holds (scheduler.penalizeStalePending now skipPathId) :=
  List.foldlRecOn _ _ holds fun state holds pathId _ => each state pathId holds

/-- What each part of a selection keeps, the selection keeps. -/
theorem onSelect_keeps
    (penalize : ∀ state pathId, Holds state → Holds (penalizeStale now none state pathId))
    (forget : ∀ state row, Holds state → Holds (forgetIdle now state row))
    (ensure : ∀ state pathId, Holds state → Holds (state.ensureArm pathId))
    (frame : ∀ state next, Holds state → next.arms = state.arms →
      next.emaRttNs = state.emaRttNs → next.ackCounts = state.ackCounts → Holds next)
    (holds : Holds scheduler) (floats : Floats K) (paths : List (Option PathStats)) :
    Holds (scheduler.onSelect floats now paths).2 := by
  have penalized : Holds (scheduler.penalizeStalePending now none) :=
    penalizeStalePending_keeps penalize holds
  have forgotten : ∀ (rows : List RawRow) start, Holds start →
      Holds (rows.foldl (forgetIdle now) start) :=
    fun rows start holds => List.foldlRecOn rows _ holds fun state holds row _ =>
      forget state row holds
  have scored : ∀ minRtt maxPacing (rows : List RawRow) start, Holds start →
      Holds (rows.foldl (scoreRow floats minRtt maxPacing) (start, [])).1 :=
    fun _ _ rows start holds =>
      List.foldlRecOn (motive := fun state : LinUCBScheduler K × List (ScoreRow K) =>
        Holds state.1) rows _ holds fun state holds row _ => ensure state.1 row.pid holds
  unfold onSelect
  extract_lets penalizedState raw minRttNs maxPacingRate timed forgottenState
  have rows : Holds (raw.foldl (scoreRow floats minRttNs maxPacingRate) (forgottenState, [])).1 :=
    scored _ _ _ _ (forgotten raw timed (frame _ timed penalized rfl rfl rfl))
  split_ifs
  · exact penalized
  · dsimp only
    split
    · exact rows
    · exact frame _ _ rows rfl rfl rfl

end Kept

/-! ## Runs -/

end LinUCBScheduler

/-- A call of the scheduler, with the paths as they are then. -/
inductive LinUcbEvent where
  | select (now : Instant) (paths : List (Option PathStats))
  | ack (now : Instant) (pathId : Nat) (paths : List (Option PathStats))
  deriving DecidableEq, Repr

namespace LinUCBScheduler

variable {K : Type u} [Field K] [LinearOrder K] [FloorSemiring K]

def handle (floats : Floats K) (scheduler : LinUCBScheduler K) :
    LinUcbEvent → LinUCBScheduler K
  | .select now paths => (scheduler.onSelect floats now paths).2
  | .ack now pathId paths => scheduler.onAck floats now pathId paths

/-- The scheduler after a sequence of calls. -/
def after (floats : Floats K) (events : List LinUcbEvent) : LinUCBScheduler K :=
  events.foldl (handle floats) new

end LinUCBScheduler

end Tquic.MultipathScheduler
