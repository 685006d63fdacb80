import Tquic.Connection.FlowLimits
import Tquic.Connection.StreamParts

/-! A MAX_DATA frame that is lost. It is sent again exactly when data was consumed or the
window was enlarged since it was written. -/

set_option autoImplicit false

namespace Tquic.Connection

open Lib

namespace StreamMap

/-- The limit on the data of the connection is the same, and what the next one depends on has
not become smaller. -/
structure Grows (before after : StreamMap) : Prop where
  maxData : after.flowControl.maxData = before.flowControl.maxData
  readOff : before.flowControl.readOff ≤ after.flowControl.readOff
  window : before.flowControl.window ≤ after.flowControl.window
  almostFull : before.rxAlmostFull = true → after.rxAlmostFull = true

/-- Flow control on the receive side of the connection is not touched. -/
structure SameRx (before after : StreamMap) : Prop where
  flowControl : after.flowControl = before.flowControl
  rxAlmostFull : after.rxAlmostFull = before.rxAlmostFull

theorem SameRx.refl (map : StreamMap) : SameRx map map := ⟨rfl, rfl⟩

theorem SameRx.trans {first second third : StreamMap} (former : SameRx first second)
    (latter : SameRx second third) : SameRx first third :=
  ⟨latter.flowControl.trans former.flowControl, latter.rxAlmostFull.trans former.rxAlmostFull⟩

theorem SameRx.grows {before after : StreamMap} (same : SameRx before after) :
    Grows before after where
  maxData := by rw [same.flowControl]
  readOff := by rw [same.flowControl]
  window := by rw [same.flowControl]
  almostFull := by
    intro full
    rw [same.rxAlmostFull]
    exact full

theorem Grows.trans {first second third : StreamMap} (former : Grows first second)
    (latter : Grows second third) : Grows first third where
  maxData := latter.maxData.trans former.maxData
  readOff := former.readOff.trans latter.readOff
  window := former.window.trans latter.window
  almostFull := fun full => latter.almostFull (former.almostFull full)

theorem Grows.consume {before map : StreamMap} (grows : Grows before map) (delta : Nat) :
    Grows before (map.consume delta) where
  maxData := grows.maxData
  readOff := grows.readOff.trans (Nat.le_add_right _ _)
  window := grows.window
  almostFull := by
    intro full
    unfold StreamMap.consume
    simp [grows.almostFull full]

theorem Grows.increaseRecvOff {before map : StreamMap} (grows : Grows before map) (delta : Nat) :
    Grows before { map with flowControl := map.flowControl.increaseRecvOff delta } where
  maxData := grows.maxData
  readOff := grows.readOff
  window := grows.window
  almostFull := grows.almostFull

/-! ## Parts of the operations -/

section Parts

variable (map : StreamMap) (id : Nat)

private theorem create_rx (byLocal : Bool) : SameRx map (map.create id byLocal).2 := by
  unfold create
  dsimp only
  split_ifs <;> exact ⟨rfl, rfl⟩

private theorem getOrCreate_rx (byLocal : Bool) : SameRx map (map.getOrCreate id byLocal).2 := by
  unfold getOrCreate
  by_cases large : id > vintMax
  · rw [if_pos large]
    exact .refl map
  · rw [if_neg large]
    cases map.get id with
    | some stream => exact .refl map
    | none =>
      dsimp only
      split_ifs
      · exact .refl map
      · exact .refl map
      · cases (map.concurrencyControl.checkConcurrencyLimits id map.isServer).1 with
        | error error => exact ⟨rfl, rfl⟩
        | ok checked =>
          refine .trans ?_ (create_rx _ id byLocal)
          exact ⟨rfl, rfl⟩

theorem streamDestroy_rx : SameRx map (map.streamDestroy id) := by
  unfold streamDestroy
  split <;> exact ⟨rfl, rfl⟩

private theorem markClosed_rx (byLocal : Bool) : SameRx map (map.markClosed id byLocal) := by
  unfold markClosed
  split_ifs
  · exact .refl map
  · have credit : SameRx map (map.giveBackCredit id byLocal) := by
      unfold giveBackCredit
      split_ifs <;> exact ⟨rfl, rfl⟩
    have ended : ∀ marked : StreamMap, SameRx map marked →
        SameRx map (if marked.events.isSome then marked.addEvent (.streamClosed id)
          else marked.streamDestroy id) := by
      intro marked same
      split_ifs
      · exact same.trans ⟨rfl, rfl⟩
      · exact same.trans (streamDestroy_rx marked id)
    refine ended _ (credit.trans ?_)
    split <;> exact ⟨rfl, rfl⟩

end Parts

theorem Part.grows {queues : Prop} {map after : StreamMap} (part : Part queues map after) :
    Grows map after := by
  have grows : Grows map map := SameRx.grows (.refl map)
  cases part with
  | marked same =>
    have flowControl := congrArg StreamMap.flowControl same
    have rxAlmostFull := congrArg StreamMap.rxAlmostFull same
    exact SameRx.grows ⟨flowControl, rxAlmostFull⟩
  | opened id byLocal => exact (getOrCreate_rx map id byLocal).grows
  | closed => exact (markClosed_rx map _ _).grows
  | consumed delta => exact grows.consume delta
  | received delta => exact grows.increaseRecvOff delta
  | widened => exact { grows with window := Nat.le_max_left _ _, almostFull := fun _ => rfl }
  | overdue => exact { grows with almostFull := fun _ => rfl }
  | queued | set | streamsBlocked | streamsGranted | streamsAdvertised =>
    exact SameRx.grows ⟨rfl, rfl⟩

theorem processEvent_rx {map after : StreamMap} (processed : map.processEvent = some after) :
    SameRx map after := by
  unfold processEvent at processed
  split at processed
  case h_1 event rest _ =>
    cases event with
    | streamCreated id =>
      cases processed
      exact ⟨rfl, rfl⟩
    | streamClosed id =>
      cases processed
      refine .trans ?_ (streamDestroy_rx _ id)
      exact ⟨rfl, rfl⟩
  case h_2 => cases processed

end StreamMap

/-! ## All steps -/

namespace World

open StreamMap

theorem Moved.grows {map after : StreamMap} {op : Op} (moved : Moved map op after) :
    Grows map after ∨ Limits map op after := by
  rcases moved.parts with parts | processed | due
  · exact .inl (parts.keep Grows (fun map => (SameRx.refl map).grows) Grows.trans Part.grows)
  · exact .inl (processEvent_rx processed).grows
  · exact .inr due

end World

/-! ## MAX_DATA frames -/

/-- A MAX_DATA frame that was sent: its limit, the bytes consumed and the window when it was
written, and whether its loss was processed. -/
structure MaxDataFrame where
  limit : Nat
  readOff : Nat
  window : Nat
  lost : Bool

/-- The streams of a connection with the MAX_DATA frames that were sent, the last one first. -/
structure MaxDataRun where
  world : World
  frames : List MaxDataFrame

namespace MaxDataRun

open StreamMap

def start (isServer : Bool) (maxConnectionWindow maxStreamWindow : Nat)
    (localParams : StreamTransportParams) (eventsEnabled : Bool) : MaxDataRun :=
  { world := .new isServer maxConnectionWindow maxStreamWindow localParams eventsEnabled
    frames := [] }

/-- A step of the streams, or the loss of a frame that was sent. -/
inductive Step where
  | stream (op : Op)
  | lost (index : Nat)

def step (run : MaxDataRun) : Step → Option MaxDataRun
  | .stream .maxDataLost => none
  | .stream (.sendMaxData now srtt) =>
    match run.world.map.writeMaxData now srtt with
    | none => none
    | some (limit, map) =>
      let frame : MaxDataFrame :=
        { limit
          readOff := map.flowControl.readOff
          window := map.flowControl.window
          lost := false }
      some { world := { run.world with map }, frames := frame :: run.frames }
  | .stream op => (run.world.step op).map fun world => { run with world }
  | .lost index =>
    match run.frames[index]?, run.world.step .maxDataLost with
    | some frame, some world =>
      some { world, frames := run.frames.set index { frame with lost := true } }
    | _, _ => none

/-- No attempt to write a frame shrinks the window. -/
def Tunable (run : MaxDataRun) : Step → Prop
  | .stream (.tuneMaxData now srtt) =>
    FlowControl.Tunable run.world.map.flowControl (.tune now srtt)
  | _ => True

/-- What a connection still knows about the last frame. -/
structure Remembered (map : StreamMap) (frame : MaxDataFrame) : Prop where
  limit : map.flowControl.maxData = frame.limit
  parts : frame.limit = frame.readOff + frame.window
  readOff : frame.readOff ≤ map.flowControl.readOff
  lost : frame.lost = true → map.rxAlmostFull = true

variable {frame : MaxDataFrame}

theorem Remembered.grows {before after : StreamMap}
    (remembered : Remembered before frame) (grows : Grows before after) :
    Remembered after frame where
  limit := grows.maxData.trans remembered.limit
  parts := remembered.parts
  readOff := remembered.readOff.trans grows.readOff
  lost := fun lost => grows.almostFull (remembered.lost lost)

theorem Remembered.tuned {map after : StreamMap} {now : Instant}
    {srtt : Duration} (remembered : Remembered map frame)
    (tuned : map.tuneMaxData now srtt = some after) : Remembered after frame := by
  obtain ⟨_, same⟩ := Option.ite_none_right_eq_some.mp tuned
  cases same
  obtain ⟨readOff, _, maxData⟩ := World.autotuneWindow_spec map.flowControl now srtt
  exact ⟨maxData.trans remembered.limit, remembered.parts,
    remembered.readOff.trans readOff.ge, remembered.lost⟩

/-- The limit of a new frame is applied at once. -/
theorem writeMaxData_remembered {map after : StreamMap} {now : Instant} {srtt : Duration}
    {limit : Nat} (written : map.writeMaxData now srtt = some (limit, after)) :
    Remembered after ⟨limit, after.flowControl.readOff, after.flowControl.window, false⟩ := by
  unfold writeMaxData at written
  split_ifs at written
  cases written
  exact ⟨rfl, rfl, le_refl _, nofun⟩

theorem Remembered.marked {map : StreamMap} (remembered : Remembered map frame) (lost : Bool) :
    Remembered map.onMaxDataFrameLost { frame with lost } :=
  ⟨remembered.limit, remembered.parts, remembered.readOff, fun _ => rfl⟩

/-- A frame is written, the streams move on, an attempt finds no room, or a frame is lost. -/
inductive Moves (run : MaxDataRun) : Step → MaxDataRun → Prop where
  | written {now srtt limit map}
      (written : run.world.map.writeMaxData now srtt = some (limit, map)) :
      Moves run (.stream (.sendMaxData now srtt))
        { world := { run.world with map }
          frames := ⟨limit, map.flowControl.readOff, map.flowControl.window, false⟩ :: run.frames }
  | grown {op world} (grows : StreamMap.Grows run.world.map world.map) :
      Moves run (.stream op) { run with world }
  | tuned {now srtt world} (tuned : run.world.map.tuneMaxData now srtt = some world.map) :
      Moves run (.stream (.tuneMaxData now srtt)) { run with world }
  | lost {index frame} (found : run.frames[index]? = some frame) :
      Moves run (.lost index)
        { world := { run.world with map := run.world.map.onMaxDataFrameLost }
          frames := run.frames.set index { frame with lost := true } }

variable {run next : MaxDataRun} {op : Step}

theorem step_moves (stepped : run.step op = some next) : Moves run op next := by
  unfold step at stepped
  split at stepped
  case h_1 => cases stepped
  case h_2 now srtt =>
    split at stepped
    case h_1 => cases stepped
    case h_2 wrote =>
      cases stepped
      exact .written wrote
  case h_3 op _ other =>
    obtain ⟨world, moved, same⟩ := Option.map_eq_some_iff.mp stepped
    cases same
    rcases (World.step_moved moved).grows with grows | due
    · exact .grown grows
    · generalize after : world.map = map at due
      cases due with
      | written => exact absurd rfl (other _ _)
      | tuned tuned => exact .tuned (after ▸ tuned)
  case h_4 index =>
    split at stepped
    case h_1 found moved =>
      cases moved
      cases stepped
      exact .lost found
    case h_2 => cases stepped

/-- What stays true of the last frame when the streams move on and when frames are lost. -/
theorem Moves.last {holds : StreamMap → MaxDataFrame → Prop} (moves : Moves run op next)
    (kept : ∀ frame, run.frames.head? = some frame → holds run.world.map frame)
    (written : ∀ {now srtt limit map}, run.world.map.writeMaxData now srtt = some (limit, map) →
      holds map ⟨limit, map.flowControl.readOff, map.flowControl.window, false⟩)
    (grown : ∀ {map frame}, StreamMap.Grows run.world.map map → holds run.world.map frame →
      holds map frame)
    (tuned : ∀ {now srtt map frame}, op = .stream (.tuneMaxData now srtt) →
      run.world.map.tuneMaxData now srtt = some map → holds run.world.map frame → holds map frame)
    (marked : ∀ {frame} lost, holds run.world.map frame →
      holds run.world.map.onMaxDataFrameLost { frame with lost }) :
    ∀ frame, next.frames.head? = some frame → holds next.world.map frame := by
  intro last atHead
  cases moves with
  | written wrote =>
    cases atHead
    exact written wrote
  | grown grows => exact grown grows (kept last atHead)
  | tuned attempt => exact tuned rfl attempt (kept last atHead)
  | @lost index frame found =>
    cases frames : run.frames with
    | nil => simp [frames] at found
    | cons first older =>
      have first := kept first (by rw [frames]; rfl)
      cases index with
      | zero =>
        rw [frames] at found atHead
        cases found
        cases atHead
        exact marked true first
      | succ index =>
        rw [frames] at atHead
        cases atHead
        exact marked last.lost first

def Inv (run : MaxDataRun) : Prop :=
  ∀ frame, run.frames.head? = some frame → Remembered run.world.map frame

theorem step_inv (inv : run.Inv) (stepped : run.step op = some next) : next.Inv :=
  (step_moves stepped).last inv writeMaxData_remembered (fun grows known => known.grows grows)
    (fun _ tuned known => known.tuned tuned) fun lost known => known.marked lost

/-- The window is as wide as when the frame was written. -/
def Wide (map : StreamMap) (frame : MaxDataFrame) : Prop := frame.window ≤ map.flowControl.window

private theorem step_wide (wide : ∀ frame, run.frames.head? = some frame → Wide run.world.map frame)
    (tunable : Tunable run op) (stepped : run.step op = some next) :
    ∀ frame, next.frames.head? = some frame → Wide next.world.map frame := by
  refine (step_moves stepped).last wide (fun _ => le_refl _)
    (fun grows known => Nat.le_trans known grows.window) ?_ fun _ known => known
  rintro now srtt map frame rfl tuned known
  obtain ⟨_, same⟩ := Option.ite_none_right_eq_some.mp tuned
  cases same
  exact Nat.le_trans known ((FlowControl.tuned_ge_iff _ now srtt).mpr tunable)

/-- Whenever the loss of the last MAX_DATA frame was processed, a new one is due if and only if the
next limit has grown since that frame was written: that is, if data was consumed or the window was
enlarged, unless an attempt to write a frame has shrunk the window. -/
theorem lost_max_data_due {isServer eventsEnabled : Bool}
    {maxConnectionWindow maxStreamWindow : Nat} {localParams : StreamTransportParams}
    {run : MaxDataRun} {frame : MaxDataFrame} (reached : Run step anyStep
      (start isServer maxConnectionWindow maxStreamWindow localParams eventsEnabled) run)
    (last : run.frames.head? = some frame) (lost : frame.lost = true) :
    (run.world.map.needSendMaxData = true ↔
      frame.readOff + frame.window <
        run.world.map.flowControl.readOff + run.world.map.flowControl.window) ∧
      (Run step Tunable
          (start isServer maxConnectionWindow maxStreamWindow localParams eventsEnabled) run →
        (run.world.map.needSendMaxData = true ↔
          frame.readOff < run.world.map.flowControl.readOff ∨
            frame.window < run.world.map.flowControl.window)) := by
  have remembered := reached.invariant (fun _ _ _ kept _ stepped => step_inv kept stepped)
    (by intro frame none; cases none) frame last
  obtain ⟨limit, parts, readOff, flagged⟩ := remembered
  have due : run.world.map.needSendMaxData = true ↔ frame.readOff + frame.window <
      run.world.map.flowControl.readOff + run.world.map.flowControl.window := by
    unfold needSendMaxData FlowControl.maxDataNext
    simp only [flagged lost, limit, parts, Bool.true_and, decide_eq_true_eq]
  refine ⟨due, fun tunable => due.trans ?_⟩
  have wide : Wide run.world.map frame :=
    tunable.invariant (fun _ _ _ wide allowed stepped => step_wide wide allowed stepped)
      (by intro frame none; cases none) frame last
  unfold Wide at wide
  omega

/-- A client may send 100 bytes; it sends 60, and the server reads them and writes a MAX_DATA
frame with the limit 160. -/
def announced : List Step :=
  [.stream (.stream 0 0 (List.replicate 60 0) false), .stream (.read 0 60),
    .stream (.sendMaxData 0 0)]

def serverParams : StreamTransportParams :=
  { initialMaxData := 100, initialMaxStreamDataBidiRemote := 100, initialMaxStreamsBidi := 1 }

def serverStart : MaxDataRun := start true 200 200 serverParams false

/-- The last MAX_DATA frame is lost, and none is due. -/
theorem lost_max_data_forgotten :
    ¬ ∀ run frame, Run step anyStep serverStart run → run.frames.head? = some frame →
      frame.lost = true → run.world.map.needSendMaxData = true := by
  intro always
  have executed : (exec step serverStart (announced ++ [.lost 0])).map
      (fun run => (run.frames.head?.map (·.lost), run.world.map.needSendMaxData)) =
      some (some true, false) := by
    decide +kernel
  obtain ⟨run, executed, same⟩ := Option.map_eq_some_iff.mp executed
  obtain ⟨last, due⟩ := Prod.mk.inj same
  obtain ⟨frame, atHead, lost⟩ := Option.map_eq_some_iff.mp last
  have repaired := always run frame (.of_exec executed) atHead lost
  rw [due] at repaired
  cases repaired

/-- Another ten bytes are read after the frame was written, and it is sent again. -/
theorem lost_max_data_renewed : ∃ run frame, Run step anyStep serverStart run ∧
    run.frames.head? = some frame ∧ frame.lost = true ∧
    run.world.map.needSendMaxData = true := by
  have executed : (exec step serverStart
      (announced ++ [.stream (.stream 0 60 (List.replicate 10 0) false), .stream (.read 0 10),
        .lost 0])).map
      (fun run => (run.frames.head?.map (fun frame => (frame.lost, frame.readOff + frame.window)),
        run.world.map.flowControl.readOff + run.world.map.flowControl.window)) =
      some (some (true, 160), 170) := by
    decide +kernel
  obtain ⟨run, executed, same⟩ := Option.map_eq_some_iff.mp executed
  obtain ⟨last, next⟩ := Prod.mk.inj same
  obtain ⟨frame, atHead, known⟩ := Option.map_eq_some_iff.mp last
  obtain ⟨lost, limit⟩ := Prod.mk.inj known
  have reached : Run step anyStep serverStart run := .of_exec executed
  have due := (lost_max_data_due reached atHead lost).1.mpr (by omega)
  exact ⟨run, frame, reached, atHead, lost, due⟩

end MaxDataRun

end Tquic.Connection
