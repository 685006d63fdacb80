import Tquic.Connection.StreamRun

/-! The limits that flow control advertises: whether they shrink, and whether a variable-length
integer holds them. -/

set_option autoImplicit false

namespace Tquic.Connection

open Lib

/-! ## The configured windows, after `Config` of `lib.rs` -/

structure WindowConfig where
  initialMaxData : Nat := 10485760
  initialMaxStreamDataBidiLocal : Nat := 5242880
  initialMaxStreamDataBidiRemote : Nat := 2097152
  initialMaxStreamDataUni : Nat := 1048576
  maxConnectionWindow : Nat := 15 * 1024 * 1024
  maxStreamWindow : Nat := 6 * 1024 * 1024
  deriving DecidableEq

namespace WindowConfig

def setInitialMaxData (config : WindowConfig) (v : Nat) : WindowConfig :=
  { config with initialMaxData := min v config.maxConnectionWindow }

def setInitialMaxStreamDataBidiLocal (config : WindowConfig) (v : Nat) : WindowConfig :=
  { config with initialMaxStreamDataBidiLocal := min v config.maxStreamWindow }

def setInitialMaxStreamDataBidiRemote (config : WindowConfig) (v : Nat) : WindowConfig :=
  { config with initialMaxStreamDataBidiRemote := min v config.maxStreamWindow }

def setInitialMaxStreamDataUni (config : WindowConfig) (v : Nat) : WindowConfig :=
  { config with initialMaxStreamDataUni := min v config.maxStreamWindow }

def setMaxConnectionWindow (config : WindowConfig) (v : Nat) : WindowConfig :=
  { config with maxConnectionWindow := min v vintMax }

def setMaxStreamWindow (config : WindowConfig) (v : Nat) : WindowConfig :=
  { config with maxStreamWindow := min v vintMax }

/-- What the setters can make of the default configuration, in any order. -/
inductive Admitted : WindowConfig → Prop where
  | default : Admitted {}
  | initialMaxData {config} (v : Nat) (before : Admitted config) :
      Admitted (config.setInitialMaxData v)
  | initialMaxStreamDataBidiLocal {config} (v : Nat) (before : Admitted config) :
      Admitted (config.setInitialMaxStreamDataBidiLocal v)
  | initialMaxStreamDataBidiRemote {config} (v : Nat) (before : Admitted config) :
      Admitted (config.setInitialMaxStreamDataBidiRemote v)
  | initialMaxStreamDataUni {config} (v : Nat) (before : Admitted config) :
      Admitted (config.setInitialMaxStreamDataUni v)
  | maxConnectionWindow {config} (v : Nat) (before : Admitted config) :
      Admitted (config.setMaxConnectionWindow v)
  | maxStreamWindow {config} (v : Nat) (before : Admitted config) :
      Admitted (config.setMaxStreamWindow v)

/-- No setter admits what a variable-length integer does not hold. -/
structure Encodable (config : WindowConfig) : Prop where
  initialMaxData : config.initialMaxData ≤ vintMax
  initialMaxStreamDataBidiLocal : config.initialMaxStreamDataBidiLocal ≤ vintMax
  initialMaxStreamDataBidiRemote : config.initialMaxStreamDataBidiRemote ≤ vintMax
  initialMaxStreamDataUni : config.initialMaxStreamDataUni ≤ vintMax
  maxConnectionWindow : config.maxConnectionWindow ≤ vintMax
  maxStreamWindow : config.maxStreamWindow ≤ vintMax

theorem Admitted.encodable {config : WindowConfig} (admitted : Admitted config) : config.Encodable := by
  induction admitted with
  | default => constructor <;> decide
  | initialMaxData v _ ih =>
    exact { ih with initialMaxData := (Nat.min_le_right _ _).trans ih.maxConnectionWindow }
  | initialMaxStreamDataBidiLocal v _ ih =>
    exact { ih with
      initialMaxStreamDataBidiLocal := (Nat.min_le_right _ _).trans ih.maxStreamWindow }
  | initialMaxStreamDataBidiRemote v _ ih =>
    exact { ih with
      initialMaxStreamDataBidiRemote := (Nat.min_le_right _ _).trans ih.maxStreamWindow }
  | initialMaxStreamDataUni v _ ih =>
    exact { ih with initialMaxStreamDataUni := (Nat.min_le_right _ _).trans ih.maxStreamWindow }
  | maxConnectionWindow v _ ih => exact { ih with maxConnectionWindow := Nat.min_le_right _ _ }
  | maxStreamWindow v _ ih => exact { ih with maxStreamWindow := Nat.min_le_right _ _ }

def params (config : WindowConfig) : StreamTransportParams :=
  { initialMaxData := config.initialMaxData
    initialMaxStreamDataBidiLocal := config.initialMaxStreamDataBidiLocal
    initialMaxStreamDataBidiRemote := config.initialMaxStreamDataBidiRemote
    initialMaxStreamDataUni := config.initialMaxStreamDataUni
    initialMaxStreamsBidi := 200
    initialMaxStreamsUni := 100 }

def world (config : WindowConfig) (isServer : Bool) : World :=
  .new isServer config.maxConnectionWindow config.maxStreamWindow config.params false

/-- The limits in the transport parameters. -/
def initialLimits (config : WindowConfig) : List Nat :=
  [config.initialMaxData, config.initialMaxStreamDataBidiLocal,
    config.initialMaxStreamDataBidiRemote, config.initialMaxStreamDataUni]

theorem Encodable.initialLimits {config : WindowConfig} (encodable : config.Encodable) {limit : Nat}
    (initial : limit ∈ config.initialLimits) : limit ≤ vintMax := by
  unfold WindowConfig.initialLimits at initial
  simp only [List.mem_cons, List.not_mem_nil, or_false] at initial
  rcases initial with rfl | rfl | rfl | rfl
  · exact encodable.initialMaxData
  · exact encodable.initialMaxStreamDataBidiLocal
  · exact encodable.initialMaxStreamDataBidiRemote
  · exact encodable.initialMaxStreamDataUni

end WindowConfig

/-! ## Runs of flow control -/

namespace FlowControl

inductive Op where
  | received (delta : Nat)
  | consumed (delta : Nat)
  | lowerBound (minWindow : Nat)
  /-- A MAX_DATA or MAX_STREAM_DATA frame is written. -/
  | announce (now : Instant) (srtt : Duration)
  /-- A MAX_DATA or MAX_STREAM_DATA frame finds no room. -/
  | tune (now : Instant) (srtt : Duration)

def step (control : FlowControl) : Op → Option FlowControl
  | .received delta => some (control.increaseRecvOff delta)
  | .consumed delta => some (control.increaseReadOff delta)
  | .lowerBound minWindow => some (control.ensureWindowLowerBound minWindow)
  | .announce now srtt => some ((control.autotuneWindow now srtt).updateMaxData now)
  | .tune now srtt => some (control.autotuneWindow now srtt)

def recentlyUpdated (control : FlowControl) (now : Instant) (srtt : Duration) : Bool :=
  control.lastUpdated.any fun lastUpdated => saturatingDurationSince now lastUpdated < srtt * 2

theorem autotuneWindow_eq (control : FlowControl) (now : Instant) (srtt : Duration) :
    control.autotuneWindow now srtt =
      { control with
        window := if control.recentlyUpdated now srtt then min (control.window * 2) control.maxWindow
          else control.window } := by
  obtain ⟨readOff, recvOff, maxData, window, maxWindow, lastUpdated⟩ := control
  cases lastUpdated with
  | none => rfl
  | some lastUpdated =>
    simp only [autotuneWindow, recentlyUpdated, Option.any_some, decide_eq_true_eq]
    split <;> rfl

variable {control next first second : FlowControl} {op : Op}

/-! ## Limits that never shrink -/

/-- The window is not tuned while it is above its maximum. -/
def Tunable (control : FlowControl) : Op → Prop
  | .announce now srtt | .tune now srtt =>
    control.recentlyUpdated now srtt = true → control.window ≤ control.maxWindow
  | _ => True

/-- The limit in force is never above the next one. -/
def Ahead (control : FlowControl) : Prop := control.maxData ≤ control.maxDataNext

def Grows (before after : FlowControl) : Prop :=
  before.window ≤ after.window ∧ before.maxData ≤ after.maxData

private theorem announce_eq (control : FlowControl) (now : Instant) (srtt : Duration) :
    (control.autotuneWindow now srtt).updateMaxData now = { control with
        window := (control.autotuneWindow now srtt).window
        maxData := control.readOff + (control.autotuneWindow now srtt).window
        lastUpdated := some now } := by
  rw [autotuneWindow_eq]
  rfl

theorem tuned_ge_iff (control : FlowControl) (now : Instant) (srtt : Duration) :
    control.window ≤ (control.autotuneWindow now srtt).window ↔ Tunable control (.tune now srtt) := by
  rw [autotuneWindow_eq]
  change _ ↔ (control.recentlyUpdated now srtt = true → control.window ≤ control.maxWindow)
  cases control.recentlyUpdated now srtt with
  | false => exact iff_of_true (le_refl _) nofun
  | true =>
    simp only [if_true, true_implies]
    omega

/-- The window and the limit never decrease in a step, except where a window above its maximum is
tuned. -/
theorem step_grows_iff (ahead : control.Ahead) (stepped : control.step op = some next) :
    Grows control next ↔ Tunable control op := by
  cases op with
  | announce now srtt =>
    cases stepped
    refine Iff.trans ?_ (tuned_ge_iff control now srtt)
    rw [announce_eq]
    refine and_iff_left_of_imp fun wider => ?_
    unfold Ahead maxDataNext at ahead
    dsimp only at wider ⊢
    omega
  | tune now srtt =>
    cases stepped
    refine (and_iff_left ?_).trans (tuned_ge_iff control now srtt)
    rw [autotuneWindow_eq]
  | lowerBound minWindow =>
    cases stepped
    exact iff_of_true ⟨Nat.le_max_left _ _, le_refl _⟩ trivial
  | received | consumed =>
    cases stepped
    exact iff_of_true ⟨le_refl _, le_refl _⟩ trivial

private theorem step_ahead (ahead : control.Ahead) (allowed : Tunable control op)
    (stepped : control.step op = some next) : next.Ahead := by
  have window := ((step_grows_iff ahead stepped).mpr allowed).1
  unfold Ahead maxDataNext at ahead ⊢
  cases op with
  | announce => cases stepped; exact le_refl _
  | tune now srtt =>
    cases stepped
    rw [autotuneWindow_eq] at window ⊢
    dsimp only at window ⊢
    omega
  | received | consumed | lowerBound =>
    cases stepped
    dsimp only [increaseRecvOff, increaseReadOff, ensureWindowLowerBound]
    omega

theorem run_grows (ahead : first.Ahead) (run : Run step Tunable first second) :
    second.Ahead ∧ Grows first second := by
  refine @Run.invariant _ _ _ _ (fun control => control.Ahead ∧ Grows first control) ?_ _ _ run
    ⟨ahead, le_refl _, le_refl _⟩
  rintro before op after ⟨ahead, window, limit⟩ allowed stepped
  obtain ⟨wider, higher⟩ := (step_grows_iff ahead stepped).mpr allowed
  exact ⟨step_ahead ahead allowed stepped, window.trans wider, limit.trans higher⟩

/-- While no window above its maximum is tuned, neither the window nor the advertised limit ever
decreases; and a step without this decreases one of them. -/
theorem limits_never_shrink {window maxWindow : Nat}
    (earlier : Run step Tunable (.new window maxWindow) first)
    (later : Run step Tunable first second) :
    (first.window ≤ second.window ∧ first.maxData ≤ second.maxData) ∧
      ∀ op next, second.step op = some next →
        (second.window ≤ next.window ∧ second.maxData ≤ next.maxData ↔ Tunable second op) := by
  have fresh : (FlowControl.new window maxWindow).Ahead := by
    unfold Ahead maxDataNext
    exact (Nat.zero_add window).ge
  obtain ⟨ahead, _⟩ := run_grows fresh earlier
  obtain ⟨still, grows⟩ := run_grows ahead later
  exact ⟨grows, fun op next stepped => step_grows_iff still stepped⟩

/-- A window that grows to its maximum, at first without room for the frame. -/
theorem limits_never_shrink_sample :
    ∃ first second, Run step Tunable (.new 10 15) first ∧ Run step Tunable first second ∧
      second.window = 15 ∧ first.maxData ≤ second.maxData := by
  let check : FlowControl → Op → Bool := fun control op =>
    match op with
    | .announce _ _ | .tune _ _ => control.window ≤ control.maxWindow
    | _ => true
  have sound : ∀ control op, check control op = true → Tunable control op := by
    intro control op passed
    cases op with
    | announce | tune => exact fun _ => of_decide_eq_true passed
    | _ => trivial
  have executed : ((exec (checked check step) (.new 10 15)
      [.received 8, .consumed 8, .announce 0 1]).bind fun first =>
        (exec (checked check step) first
          [.received 9, .consumed 9, .tune 1 1, .announce 2 1]).map fun second =>
            (first, second)).any (fun pair => decide (pair.2.window = 15)) = true := by
    decide +kernel
  obtain ⟨pair, made, wide⟩ := (Option.any_eq_true _ _).mp executed
  obtain ⟨first, before, rest⟩ := Option.bind_eq_some_iff.mp made
  obtain ⟨second, after, rfl⟩ := Option.map_eq_some_iff.mp rest
  have earlier : Run step Tunable (.new 10 15) first := Run.of_checked sound (.of_exec before)
  have later : Run step Tunable first second := Run.of_checked sound (.of_exec after)
  exact ⟨first, second, earlier, later, of_decide_eq_true wide,
    (limits_never_shrink earlier later).1.2⟩

/-- The largest window is set below the initial limit. When a lost MAX_DATA frame is repeated shortly
after it was sent, the new one takes back what the lost one granted. -/
theorem limits_shrink :
    ¬ ∀ config, WindowConfig.Admitted config → ∀ first second : World,
      Run World.step anyStep (config.world true) first → Run World.step anyStep first second →
        first.map.flowControl.window ≤ second.map.flowControl.window ∧
          first.map.flowControl.maxData ≤ second.map.flowControl.maxData := by
  intro claimed
  let config := (({} : WindowConfig).setInitialMaxData 10).setMaxConnectionWindow 5
  have admitted : WindowConfig.Admitted config :=
    .maxConnectionWindow 5 (.initialMaxData 10 .default)
  have executed : ((exec World.step (config.world true)
      [.stream 0 0 [1, 2, 3, 4, 5, 6, 7, 8] false, .read 0 8, .sendMaxData 0 1]).bind fun first =>
        (exec World.step first [.stream 0 8 [9, 10] false, .read 0 2, .maxDataLost,
          .sendMaxData 1 1]).map fun second => (first, second)).any (fun pair =>
            decide (pair.1.map.flowControl.maxData = 18 ∧ pair.2.map.flowControl.maxData = 15)) =
              true := by
    decide +kernel
  obtain ⟨pair, made, limits⟩ := (Option.any_eq_true _ _).mp executed
  obtain ⟨first, before, rest⟩ := Option.bind_eq_some_iff.mp made
  obtain ⟨second, after, rfl⟩ := Option.map_eq_some_iff.mp rest
  obtain ⟨high, low⟩ := of_decide_eq_true limits
  have grows := (claimed config admitted first second (.of_exec before) (.of_exec after)).2
  dsimp only at high low
  omega

/-- What was consumed leaves room for the window, which is doubled first if the last update is within
two round trips. -/
def RoomFor (control : FlowControl) (now : Instant) (srtt : Duration) : Prop :=
  control.readOff + (if control.recentlyUpdated now srtt then min (control.window * 2) control.maxWindow
    else control.window) ≤ vintMax

instance (control : FlowControl) (now : Instant) (srtt : Duration) :
    Decidable (control.RoomFor now srtt) := inferInstanceAs (Decidable (_ ≤ _))

theorem next_le_iff (control : FlowControl) (now : Instant) (srtt : Duration) :
    (control.autotuneWindow now srtt).maxDataNext ≤ vintMax ↔ control.RoomFor now srtt := by
  rw [autotuneWindow_eq]
  exact Iff.rfl

end FlowControl

/-! ## Limits that can be encoded -/

/-- The streams with all limits that were ever advertised, or would have been if there had been
room. -/
structure Advertiser where
  world : World
  limits : List Nat

namespace Advertiser

def new (config : WindowConfig) (isServer : Bool) : Advertiser :=
  { world := config.world isServer, limits := config.initialLimits }

def written (state : Advertiser) : Op → Option Nat
  | .sendMaxStreamData id now srtt => (state.world.map.writeMaxStreamData id now srtt).bind (·.1)
  | .sendMaxData now srtt => (state.world.map.writeMaxData now srtt).map (·.1)
  -- The length of a frame is asked for before it is known whether there is room.
  | .tuneMaxStreamData id now srtt =>
    (state.world.map.get id).map fun stream =>
      (stream.recv.autotuneWindow now srtt).flowControl.maxDataNext
  | .tuneMaxData now srtt => some (state.world.map.flowControl.autotuneWindow now srtt).maxDataNext
  | _ => none

def step (state : Advertiser) (op : Op) : Option Advertiser :=
  (state.world.step op).map fun world =>
    { world, limits := (state.written op).toList ++ state.limits }

/-- No frame is made for flow control that has no room for its window. -/
def Roomy (state : Advertiser) : Op → Prop
  | .sendMaxStreamData id now srtt | .tuneMaxStreamData id now srtt =>
    ∀ stream, state.world.map.get id = some stream → stream.recv.flowControl.RoomFor now srtt
  | .sendMaxData now srtt | .tuneMaxData now srtt => state.world.map.flowControl.RoomFor now srtt
  | _ => True

variable {state next : Advertiser} {op : Op}

private theorem written_le_iff (stepped : state.step op = some next) :
    (∀ limit ∈ state.written op, limit ≤ vintMax) ↔ state.Roomy op := by
  obtain ⟨world, moved, rfl⟩ := Option.map_eq_some_iff.mp stepped
  cases op with
  | sendMaxStreamData id now srtt =>
    obtain ⟨outcome, wrote, _⟩ := Option.map_eq_some_iff.mp moved
    unfold written Roomy
    dsimp only
    unfold StreamMap.writeMaxStreamData at wrote ⊢
    by_cases full : id ∈ state.world.map.almostFull
    · rw [if_pos full]
      cases state.world.map.get id with
      | none => simp
      | some stream =>
        simp only [Option.bind_some, Option.mem_some_iff, forall_eq', Option.some.injEq]
        exact FlowControl.next_le_iff _ now srtt
    · rw [if_neg full] at wrote
      exact nomatch wrote
  | sendMaxData now srtt =>
    obtain ⟨outcome, wrote, _⟩ := Option.map_eq_some_iff.mp moved
    unfold written Roomy
    dsimp only
    unfold StreamMap.writeMaxData at wrote ⊢
    by_cases needed : state.world.map.needSendMaxData = true
    · rw [if_pos needed]
      simp only [Option.map_some, Option.mem_some_iff, forall_eq']
      exact FlowControl.next_le_iff _ now srtt
    · rw [if_neg needed] at wrote
      exact nomatch wrote
  | tuneMaxStreamData id now srtt =>
    unfold written Roomy
    dsimp only
    cases state.world.map.get id with
    | none => simp
    | some stream =>
      simp only [Option.map_some, Option.mem_some_iff, forall_eq', Option.some.injEq]
      exact FlowControl.next_le_iff _ now srtt
  | tuneMaxData now srtt =>
    unfold written Roomy
    simp only [Option.mem_some_iff, forall_eq']
    exact FlowControl.next_le_iff _ now srtt
  | _ => exact iff_of_true (fun _ listed => nomatch listed) trivial

/-- Nothing above the largest variable-length integer was advertised. -/
def Sound (state : Advertiser) : Prop := ∀ limit ∈ state.limits, limit ≤ vintMax

theorem step_sound_iff (sound : state.Sound) (stepped : state.step op = some next) :
    next.Sound ↔ state.Roomy op := by
  rw [← written_le_iff stepped]
  obtain ⟨world, _, rfl⟩ := Option.map_eq_some_iff.mp stepped
  unfold Sound
  simp only [List.mem_append, Option.mem_toList]
  constructor
  · exact fun all limit now => all limit (.inl now)
  · rintro all limit (now | before)
    · exact all limit now
    · exact sound limit before

/-- While each frame is made with room for its window, all limits in MAX_DATA and MAX_STREAM_DATA
frames are encoded; and a frame that is made without room carries one that cannot be. -/
theorem limits_encodable {config : WindowConfig} (admitted : config.Admitted) {isServer : Bool}
    (run : Run step Roomy (new config isServer) state) :
    (∀ limit ∈ state.limits,
      limit ≤ vintMax ∧ Writes (Encoder.writeVarint limit) (varint limit) ()) ∧
      ∀ op next, state.step op = some next →
        ((∀ limit ∈ next.limits, limit ≤ vintMax) ↔ state.Roomy op) := by
  have sound : state.Sound := by
    refine Run.invariant ?_ run fun limit initial => admitted.encodable.initialLimits initial
    intro before op after sound roomy stepped
    exact (step_sound_iff sound stepped).mpr roomy
  exact ⟨fun limit listed => ⟨sound limit listed, writes_varint (sound limit listed)⟩,
    fun op next stepped => step_sound_iff sound stepped⟩

/-- The windows of a stream and of the connection are announced after some data was read. -/
theorem limits_encodable_sample :
    ∃ state, Run step Roomy (new (({} : WindowConfig).setInitialMaxStreamDataBidiRemote 10) true) state ∧
      state.limits = [10485766, 16, 10485760, 5242880, 10, 1048576] ∧ ∀ limit ∈ state.limits,
        limit ≤ vintMax ∧ Writes (Encoder.writeVarint limit) (varint limit) () := by
  let check : Advertiser → Op → Bool := fun state op =>
    match op with
    | .sendMaxStreamData id now srtt | .tuneMaxStreamData id now srtt =>
      (state.world.map.get id).all fun stream => decide (stream.recv.flowControl.RoomFor now srtt)
    | .sendMaxData now srtt | .tuneMaxData now srtt =>
      decide (state.world.map.flowControl.RoomFor now srtt)
    | _ => true
  have sound : ∀ state op, check state op = true → state.Roomy op := by
    intro state op passed
    cases op with
    | sendMaxStreamData | tuneMaxStreamData =>
      intro stream found
      have room := passed
      dsimp only [check] at room
      rw [found, Option.all_some] at room
      exact of_decide_eq_true room
    | sendMaxData now srtt | tuneMaxData now srtt =>
      change state.world.map.flowControl.RoomFor now srtt
      exact of_decide_eq_true passed
    | _ => trivial
  have executed : (exec (checked check step)
      (new (({} : WindowConfig).setInitialMaxStreamDataBidiRemote 10) true)
      [.stream 0 0 [1, 2, 3, 4, 5, 6] false, .read 0 6, .sendMaxStreamData 0 0 0,
        .sendMaxData 0 0]).any (fun state =>
          decide (state.limits = [10485766, 16, 10485760, 5242880, 10, 1048576])) = true := by
    decide +kernel
  obtain ⟨state, made, listed⟩ := (Option.any_eq_true _ _).mp executed
  have run := Run.of_checked sound (.of_exec made)
  exact ⟨state, run, of_decide_eq_true listed, (limits_encodable
    (.initialMaxStreamDataBidiRemote 10 .default) run).1⟩

/-- The connection window is the largest that the configuration takes. Six bytes on a stream with a
small window make the server announce more than a variable-length integer holds. -/
theorem limits_overflow : ¬ ∀ config, WindowConfig.Admitted config → ∀ isServer state,
    Run step anyStep (new config isServer) state → ∀ limit ∈ state.limits, limit ≤ vintMax := by
  intro claimed
  let config := ((({} : WindowConfig).setMaxConnectionWindow vintMax).setInitialMaxData
    vintMax).setInitialMaxStreamDataBidiRemote 10
  have admitted : WindowConfig.Admitted config :=
    .initialMaxStreamDataBidiRemote 10 (.initialMaxData vintMax
      (.maxConnectionWindow vintMax .default))
  have executed : (exec step (new config true) [.stream 0 0 [1, 2, 3, 4, 5, 6] false, .read 0 6,
      .sendMaxStreamData 0 0 0, .sendMaxData 0 0]).any (fun state =>
        decide (vintMax + 6 ∈ state.limits)) = true := by
    decide +kernel
  obtain ⟨state, made, listed⟩ := (Option.any_eq_true _ _).mp executed
  have small := claimed config admitted true state (.of_exec made) _ (of_decide_eq_true listed)
  omega

end Advertiser

end Tquic.Connection
