import Tquic.Connection.BufferInvariants
import Tquic.Lib.Transition

/-! The end of a receive buffer: whether the application is told of it, and whether a buffer that was
shut down gets to it. -/

set_option autoImplicit false

namespace Tquic.Connection

open Lib

namespace RecvBuf

/-- What a RESET_STREAM frame that was accepted leaves of the end of the stream. A duplicate changes
nothing. -/
theorem reset_final {recv after : RecvBuf} {errorCode finalSize delta : Nat} (valid : recv.Valid)
    (outcome : recv.reset errorCode finalSize = (.ok delta, after)) :
    (∀ finOff, recv.finOff = some finOff → finOff = finalSize) ∧
      (recv.error.isSome = true → after = recv) ∧ after.error.isSome = true ∧
        after.finOff = some finalSize := by
  have reset := valid.reset outcome
  have failed : (recv.error.isSome = true → after = recv) ∧ after.error.isSome = true := by
    rw [RecvBuf.reset] at outcome
    split_ifs at outcome with mismatch early repeated
    · cases outcome
    · cases outcome
    · cases outcome
      exact ⟨fun _ => rfl, repeated⟩
    · cases written : ({ recv with data := ∅, error := some errorCode } : RecvBuf).write finalSize []
          true with
      | error error =>
        simp only [written] at outcome
        cases outcome
      | ok notified =>
        simp only [written] at outcome
        cases outcome
        have spec := write_spec (valid.ordered.clear (some errorCode)) written
        refine ⟨fun failed => absurd failed repeated, ?_⟩
        change notified.error.isSome = true
        rw [spec.error]
        rfl
  refine ⟨fun finOff known => ?_, failed.1, failed.2, ?_⟩
  · rw [RecvBuf.reset] at outcome
    split_ifs at outcome with mismatch
    · cases outcome
    all_goals simpa [known] using mismatch
  · rw [reset.valid.ended failed.2, reset.readOff]

theorem Ordered.data_empty {recv : RecvBuf} (ordered : recv.Ordered) (unknown : recv.finOff = none)
    (read : recv.recvOff ≤ recv.readOff) : recv.data = ∅ := by
  refine OrdMap.ext_mem fun entry => ⟨fun member => ?_, fun member => absurd member (by simp)⟩
  have low := ordered.unread entry member
  have high := ordered.received entry member
  have empty : entry.2.len = 0 := by
    rw [RangeBuf.maxOff] at high
    omega
  have marked := (ordered.marker entry member empty).1
  rw [unknown] at marked
  cases marked

theorem not_ready_of_empty {recv : RecvBuf} (empty : recv.data = ∅) : recv.ready = false := by
  rw [ready, empty]
  rfl

private theorem write_isFin {recv after : RecvBuf} {offset : Nat} {data : Bytes} {fin : Bool}
    (ended : recv.isFin = true) (written : recv.write offset data fin = .ok after) : after = recv := by
  simp only [RecvBuf.write] at written
  split_ifs at written
  all_goals exact (Except.ok.inj written).symm

private theorem write_marker {recv after : RecvBuf} {offset : Nat} (ordered : recv.Ordered)
    (unknown : recv.finOff = none) (open' : recv.shutdownFlag = false) (read : recv.readOff = offset)
    (written : recv.write offset [] true = .ok after) : after.ready = true := by
  have spec := write_spec ordered written
  have accepted := (write_cases written).1
  have bound : recv.recvOff ≤ offset := accepted.bound rfl
  have empty := ordered.data_empty unknown (bound.trans read.ge)
  have stored := write_final_data empty read.le written
  rw [isFin, unknown, open'] at stored
  have found : after.data = (∅ : OrdMap Nat RangeBuf).insert offset ⟨[], offset, true⟩ := stored
  have first : after.data.first? = some (offset, ⟨[], offset, true⟩) := by
    rw [found]
    rfl
  exact ready_iff.mpr ⟨_, _, first, read.symm.trans spec.readOff.symm⟩

end RecvBuf

/-- A receive buffer with what the application got of it. -/
structure Receiver where
  recv : RecvBuf
  -- How many bytes were read.
  consumed : Nat
  -- A read has returned `fin = true`.
  told : Bool

namespace Receiver

inductive Op where
  | write (offset : Nat) (data : Bytes) (fin : Bool)
  | read (outLen : Nat)
  | reset (errorCode finalSize : Nat)
  | shutdown
  | updateMaxData (now : Instant)
  | autotuneWindow (now : Instant) (srtt : Duration)

def new (maxData maxWindow : Nat) : Receiver :=
  { recv := .new maxData maxWindow, consumed := 0, told := false }

/-- An error of a frame closes the connection. -/
def step (receiver : Receiver) : Op → Option Receiver
  | .write offset data fin =>
    match receiver.recv.write offset data fin with
    | .ok recv => some { receiver with recv }
    | .error _ => none
  | .read outLen =>
    match receiver.recv.read outLen with
    | (.ok (bytes, fin), recv) =>
      some { recv, consumed := receiver.consumed + bytes.length, told := receiver.told || fin }
    | (.error _, recv) => some { receiver with recv }
  | .reset errorCode finalSize =>
    match receiver.recv.reset errorCode finalSize with
    | (.ok _, recv) => some { receiver with recv }
    | (.error _, _) => none
  | .shutdown => some { receiver with recv := receiver.recv.shutdown.2 }
  | .updateMaxData now => some { receiver with recv := receiver.recv.updateMaxData now }
  | .autotuneWindow now srtt => some { receiver with recv := receiver.recv.autotuneWindow now srtt }

variable {receiver next : Receiver} {op : Op}

theorem step_valid (valid : receiver.recv.Valid) (stepped : receiver.step op = some next) :
    next.recv.Valid := by
  cases op with
  | write offset data fin =>
    dsimp only [step] at stepped
    split at stepped
    case h_1 written =>
      cases stepped
      exact valid.write written
    case h_2 => cases stepped
  | read outLen =>
    have kept := (valid.read outLen).1
    dsimp only [step] at stepped
    split at stepped
    case h_1 read =>
      cases stepped
      rw [read] at kept
      exact kept
    case h_2 read =>
      cases stepped
      rw [read] at kept
      exact kept
  | reset errorCode finalSize =>
    dsimp only [step] at stepped
    split at stepped
    case h_1 outcome =>
      cases stepped
      exact (valid.reset outcome).valid
    case h_2 => cases stepped
  | shutdown =>
    cases stepped
    cases first : receiver.recv.shutdownFlag with
    | true =>
      rw [RecvBuf.shutdown, if_pos first]
      exact valid
    | false => exact (valid.shutdown first).1
  | updateMaxData now =>
    cases stepped
    exact valid.adjustFlowControl _
  | autotuneWindow now srtt =>
    cases stepped
    exact valid.adjustFlowControl _

/-! ## The end of the stream -/

/-- The end is there to be reported as long as the application was not told of it. -/
def Reported (receiver : Receiver) : Prop :=
  receiver.recv.finOff = some receiver.consumed → receiver.told = false → receiver.recv.ready = true

/-- The end of the stream does not become known in a way that cannot be reported: no FIN with data
that were all read before, and neither a shutdown nor a reset in place of the end. -/
def Reportable (receiver : Receiver) : Op → Prop
  | .write offset data fin => fin = true → receiver.recv.finOff = none →
      offset + data.length = receiver.consumed → data = [] ∧ receiver.recv.shutdownFlag = false
  | .read _ => receiver.recv.error.isSome = true →
      receiver.recv.finOff = some receiver.consumed → receiver.told = true
  | .reset _ finalSize => receiver.recv.error = none → finalSize = receiver.consumed →
      receiver.told = true ∨ receiver.recv.finOff = none ∧ receiver.recv.shutdownFlag = false
  | .shutdown => receiver.recv.shutdownFlag = false →
      receiver.recv.finOff = some receiver.consumed → receiver.told = true
  | _ => True

/-- How the reads of the application and the offset of the buffer go together. -/
structure Counted (receiver : Receiver) : Prop where
  valid : receiver.recv.Valid
  within : receiver.consumed ≤ receiver.recv.readOff
  exact : receiver.recv.shutdownFlag = false → receiver.recv.error = none →
    receiver.consumed = receiver.recv.readOff
  told : receiver.told = true → receiver.recv.finOff.isSome = true

theorem Counted.new (maxData maxWindow : Nat) : (Receiver.new maxData maxWindow).Counted :=
  ⟨.new maxData maxWindow, le_refl 0, fun _ _ => rfl, fun told => nomatch told⟩

/-- A read finds nothing, an error, or bytes. -/
theorem read_shape {outLen : Nat} (counted : receiver.Counted)
    (stepped : receiver.step (.read outLen) = some next) :
    (receiver.recv.ready = false ∧ next = receiver) ∨
    (receiver.recv.error.isSome = true ∧ receiver.recv.ready = true ∧
      next = { receiver with recv := { receiver.recv with data := ∅ } }) ∨
    receiver.recv.ready = true ∧ receiver.recv.error = none ∧
      ∃ bytes, next.consumed = receiver.consumed + bytes ∧
        next.recv.readOff = receiver.recv.readOff + bytes ∧
        next.recv.finOff = receiver.recv.finOff ∧ next.recv.error = none ∧
        next.recv.shutdownFlag = receiver.recv.shutdownFlag ∧
        next.told = (receiver.told || next.recv.isFin) := by
  dsimp only [step] at stepped
  rcases RecvBuf.read_cases counted.valid.ordered outLen with
    ⟨idle, same⟩ | ⟨errorCode, ready, failed, same⟩ | ⟨ready, running, bytes, after, drained, same⟩
  · rw [same] at stepped
    cases stepped
    exact .inl ⟨idle, rfl⟩
  · rw [same] at stepped
    cases stepped
    exact .inr (.inl ⟨by rw [failed]; rfl, ready, rfl⟩)
  · rw [same] at stepped
    cases stepped
    have copied := drained.copied
    exact .inr (.inr ⟨ready, running, bytes.length, rfl, copied.readOff, copied.finOff,
      copied.error.trans running, copied.shutdownFlag, rfl⟩)

theorem Counted.step (counted : receiver.Counted) (stepped : receiver.step op = some next) :
    next.Counted := by
  have valid := step_valid counted.valid stepped
  have within := counted.within
  cases op with
  | write offset data fin =>
    dsimp only [Receiver.step] at stepped
    split at stepped
    case h_2 => cases stepped
    case h_1 recv written =>
      cases stepped
      have spec := RecvBuf.write_spec counted.valid.ordered written
      refine ⟨valid, spec.readOff.symm ▸ within, fun shut running => ?_, fun told => ?_⟩
      · exact (counted.exact (spec.shutdownFlag ▸ shut) (spec.error ▸ running)).trans
          spec.readOff.symm
      · change recv.finOff.isSome = true
        rw [spec.finOff]
        split
        · rfl
        · exact counted.told told
  | read outLen =>
    rcases read_shape counted stepped with
      ⟨_, rfl⟩ | ⟨failed, _, rfl⟩ | ⟨_, running, bytes, consumed, read, known, _, flag, told⟩
    · exact counted
    · exact ⟨valid, within, counted.exact, counted.told⟩
    · refine ⟨valid, by omega, fun shut _ => ?_, fun now => ?_⟩
      · have before := counted.exact (flag ▸ shut) running
        omega
      · rw [told, Bool.or_eq_true] at now
        rw [known]
        rcases now with before | fin
        · exact counted.told before
        · rw [RecvBuf.isFin, decide_eq_true_eq, known] at fin
          rw [fin]
          rfl
  | reset errorCode finalSize =>
    dsimp only [Receiver.step] at stepped
    split at stepped
    case h_2 => cases stepped
    case h_1 delta recv outcome =>
      cases stepped
      have reset := counted.valid.reset outcome
      have bound := reset.bound
      have unread := counted.valid.ordered.readBound
      have final := RecvBuf.reset_final counted.valid outcome
      refine ⟨valid, ?_, fun _ running => ?_, fun _ => ?_⟩
      · change receiver.consumed ≤ recv.readOff
        rw [reset.readOff]
        omega
      · exact absurd running (by
          change recv.error ≠ none
          exact Option.isSome_iff_ne_none.mp final.2.2.1)
      · change recv.finOff.isSome = true
        rw [final.2.2.2]
        rfl
  | shutdown =>
    cases stepped
    cases first : receiver.recv.shutdownFlag with
    | true =>
      rw [RecvBuf.shutdown, if_pos first] at valid ⊢
      exact ⟨valid, within, counted.exact, counted.told⟩
    | false =>
      have unread := counted.valid.ordered.readBound
      rw [RecvBuf.shutdown, if_neg (by simp [first])] at valid ⊢
      refine ⟨valid, within.trans unread, fun shut => ?_, counted.told⟩
      cases shut
  | updateMaxData now =>
    cases stepped
    exact ⟨valid, within, counted.exact, counted.told⟩
  | autotuneWindow now srtt =>
    cases stepped
    exact ⟨valid, within, counted.exact, counted.told⟩

section

variable (counted : receiver.Counted)

include counted

theorem Counted.isFin (known : receiver.recv.finOff = some receiver.consumed) :
    receiver.consumed = receiver.recv.readOff ∧ receiver.recv.isFin = true := by
  have within := counted.within
  have unread := counted.valid.ordered.readBound
  have final := counted.valid.ordered.finBound _ known
  have same : receiver.consumed = receiver.recv.readOff := by omega
  exact ⟨same, by rw [RecvBuf.isFin, known, same, decide_eq_true_eq]⟩

private theorem reported_write_iff (reported : receiver.Reported) {offset : Nat}
    {data : Bytes} {fin : Bool} (stepped : receiver.step (.write offset data fin) = some next) :
    next.Reported ↔ Reportable receiver (.write offset data fin) := by
  dsimp only [Receiver.step] at stepped
  split at stepped
  case h_2 => cases stepped
  case h_1 recv written =>
    cases stepped
    have ordered := counted.valid.ordered
    have spec := RecvBuf.write_spec ordered written
    obtain ⟨accepted, cases⟩ := RecvBuf.write_cases written
    have final := spec.finOff
    -- The end was known before: the write changes nothing.
    have known : receiver.recv.finOff = some receiver.consumed → receiver.told = false →
        recv.ready = true := by
      intro ended untold
      rw [RecvBuf.write_isFin (counted.isFin ended).2 written]
      exact reported ended untold
    constructor
    · intro after ends unknown last
      have untold : receiver.told = false := by
        cases told : receiver.told with
        | false => rfl
        | true =>
          have before := counted.told told
          rw [unknown] at before
          cases before
      rw [if_pos ends, last] at final
      have ready : recv.ready = true := after final untold
      have bound : receiver.recv.recvOff ≤ offset + data.length := accepted.bound ends
      have within := counted.within
      have empty := ordered.data_empty unknown (by omega)
      refine ⟨?_, ?_⟩
      · by_contra filled
        have idle : recv.ready = false := by
          refine RecvBuf.not_ready_of_empty ?_
          rcases cases with ⟨ended, _⟩ | ⟨nothing, _, _⟩ | ⟨_, _, same⟩ | ⟨stores, _⟩
          · rw [unknown] at ended
            cases ended
          · exact absurd nothing filled
          · rw [same, RecvBuf.recordFin]
            split <;> exact empty
          · rcases stores with ⟨nothing, _⟩ | ⟨_, beyond⟩
            · exact absurd nothing filled
            · omega
        rw [idle] at ready
        cases ready
      · cases shut : receiver.recv.shutdownFlag with
        | false => rfl
        | true =>
          have idle := (counted.valid.write written).not_ready (spec.shutdownFlag.trans shut)
          rw [idle] at ready
          cases ready
    · intro allowed ended untold
      change recv.finOff = some receiver.consumed at ended
      cases fin with
      | false => exact known (final.symm.trans ended) untold
      | true =>
        rw [if_pos rfl, ended] at final
        have last := Option.some.inj final
        cases before : receiver.recv.finOff with
        | some finOff =>
          have same : finOff = offset + data.length := accepted.same rfl finOff before
          exact known (by rw [before, same, last]) untold
        | none =>
          obtain ⟨rfl, open'⟩ := allowed rfl before last.symm
          have running : receiver.recv.error = none := by
            cases failed : receiver.recv.error with
            | none => rfl
            | some errorCode =>
              have ended := counted.valid.ended (by rw [failed]; rfl)
              rw [before] at ended
              cases ended
          have read := counted.exact open' running
          exact RecvBuf.write_marker ordered before open' (read.symm.trans last) written

private theorem reported_reset_iff (reported : receiver.Reported)
    {errorCode finalSize : Nat} (stepped : receiver.step (.reset errorCode finalSize) = some next) :
    next.Reported ↔ Reportable receiver (.reset errorCode finalSize) := by
  dsimp only [Receiver.step] at stepped
  split at stepped
  case h_2 => cases stepped
  case h_1 delta recv outcome =>
    cases stepped
    obtain ⟨consistent, duplicate, failed, final⟩ := RecvBuf.reset_final counted.valid outcome
    have reset := counted.valid.reset outcome
    cases running : receiver.recv.error with
    | some code =>
      rw [duplicate (by rw [running]; rfl)]
      refine iff_of_true reported fun first => ?_
      rw [running] at first
      cases first
    | none =>
      have ready := reset.ready
      rw [running] at ready
      constructor
      · intro after _ last
        cases told : receiver.told with
        | true => exact .inl rfl
        | false =>
          have shown : recv.ready = true := after (final.trans (congrArg some last)) told
          rw [shown] at ready
          have quiet : receiver.recv.isFin = false ∧ receiver.recv.shutdownFlag = false := by
            simpa using ready
          refine .inr ⟨?_, quiet.2⟩
          cases before : receiver.recv.finOff with
          | none => rfl
          | some finOff =>
            have same := consistent finOff before
            have ended := (counted.isFin (by rw [before, same, last])).2
            rw [quiet.1] at ended
            cases ended
      · intro allowed ended untold
        have last : finalSize = receiver.consumed := Option.some.inj (final.symm.trans ended)
        rcases allowed running last with told | ⟨unknown, open'⟩
        · rw [told] at untold
          cases untold
        · change recv.ready = true
          rw [ready, RecvBuf.isFin, unknown, open']
          rfl

theorem reported_step_iff (reported : receiver.Reported)
    (stepped : receiver.step op = some next) : next.Reported ↔ Reportable receiver op := by
  cases op with
  | write offset data fin => exact reported_write_iff counted reported stepped
  | reset errorCode finalSize => exact reported_reset_iff counted reported stepped
  | read outLen =>
    have after := counted.step stepped
    rcases read_shape counted stepped with
      ⟨idle, rfl⟩ | ⟨failed, _, rfl⟩ | ⟨_, running, bytes, _, _, _, _, _, told⟩
    · refine iff_of_true reported fun _ ended => ?_
      by_contra untold
      rw [reported ended (by simpa using untold)] at idle
      cases idle
    · have idle : RecvBuf.ready { receiver.recv with data := ∅ } = false := rfl
      constructor
      · intro kept _ ended
        by_contra untold
        have ready := kept ended (by simpa using untold)
        rw [idle] at ready
        cases ready
      · intro allowed ended untold
        change receiver.told = false at untold
        rw [allowed failed ended] at untold
        cases untold
    · refine iff_of_true (fun ended untold => ?_) fun failed => ?_
      · rw [told, (after.isFin ended).2, Bool.or_true] at untold
        cases untold
      · rw [running] at failed
        cases failed
  | shutdown =>
    cases stepped
    cases first : receiver.recv.shutdownFlag with
    | true =>
      have same : receiver.recv.shutdown.2 = receiver.recv := by
        rw [RecvBuf.shutdown, if_pos first]
      rw [same]
      refine iff_of_true reported fun fresh => ?_
      rw [first] at fresh
      cases fresh
    | false =>
      have shape : receiver.recv.shutdown.2 = { receiver.recv with
          shutdownFlag := true, data := ∅, readOff := receiver.recv.recvOff } := by
        rw [RecvBuf.shutdown, if_neg (by simp [first])]
      rw [shape]
      constructor
      · intro kept _ ended
        by_contra untold
        have ready := kept ended (by simpa using untold)
        cases ready
      · intro allowed ended untold
        change receiver.told = false at untold
        rw [allowed first ended] at untold
        cases untold
  | updateMaxData now =>
    cases stepped
    exact iff_of_true reported trivial
  | autotuneWindow now srtt =>
    cases stepped
    exact iff_of_true reported trivial

end

/-- While every step meets the condition, the end of the stream can be reported wherever everything
was read and the application was not told of the end; and a step that does not meet it breaks this. -/
theorem fin_reported {maxData maxWindow : Nat}
    (run : Run step Reportable (.new maxData maxWindow) receiver) :
    (receiver.recv.finOff = some receiver.consumed → receiver.told = false →
      receiver.recv.ready = true) ∧
      ∀ op next, receiver.step op = some next → (next.Reported ↔ Reportable receiver op) := by
  have holds : receiver.Counted ∧ receiver.Reported := by
    refine @Run.invariant _ _ _ _ (fun receiver => receiver.Counted ∧ receiver.Reported) ?_ _ _ run
      ⟨.new maxData maxWindow, fun known => nomatch known⟩
    intro state op next holds allowed stepped
    exact ⟨holds.1.step stepped, (reported_step_iff holds.1 holds.2 stepped).mpr allowed⟩
  exact ⟨holds.2, fun op next stepped => reported_step_iff holds.1 holds.2 stepped⟩

/-- An executable form of the condition. -/
def reportable (receiver : Receiver) : Op → Bool
  | .write offset data fin => !fin || receiver.recv.finOff.isSome ||
      decide (offset + data.length ≠ receiver.consumed) || data.isEmpty && !receiver.recv.shutdownFlag
  | .read _ => receiver.recv.error.isNone
  | .reset _ _ => false
  | .shutdown => false
  | _ => true

theorem reportable_sound (receiver : Receiver) (op : Op) (passed : reportable receiver op = true) :
    Reportable receiver op := by
  cases op with
  | write offset data fin =>
    intro ends unknown last
    simpa [reportable, ends, unknown, last] using passed
  | read outLen =>
    intro failed
    simp only [reportable, Option.isNone_iff_eq_none] at passed
    rw [passed] at failed
    cases failed
  | reset errorCode finalSize => cases passed
  | shutdown => cases passed
  | updateMaxData now => trivial
  | autotuneWindow now srtt => trivial

/-- FIN comes alone, after everything was read. -/
theorem fin_reported_sample :
    ∃ receiver, Run step Reportable (.new 10 10) receiver ∧ receiver.recv.finOff = some 2 ∧
      receiver.told = false ∧ receiver.recv.ready = true := by
  have executed : (exec (checked reportable step) (.new 10 10)
      [.write 0 [1, 2] false, .read 5, .write 2 [] true]).any (fun receiver =>
        decide (receiver.recv.finOff = some 2 ∧ receiver.consumed = 2 ∧ receiver.told = false)) =
          true := by
    decide +kernel
  obtain ⟨receiver, made, found⟩ := (Option.any_eq_true _ _).mp executed
  obtain ⟨known, consumed, untold⟩ := of_decide_eq_true found
  have run : Run step Reportable (.new 10 10) receiver :=
    Run.of_checked reportable_sound (.of_exec made)
  exact ⟨receiver, run, known, untold, (fin_reported run).1 (by rw [known, consumed]) untold⟩

/-- FIN comes with data that were read before. -/
theorem fin_unreported :
    ¬ ∀ receiver : Receiver, Run step anyStep (.new 10 10) receiver →
      receiver.recv.finOff = some receiver.consumed → receiver.told = false →
        receiver.recv.ready = true := by
  intro claimed
  have executed : (exec step (.new 10 10)
      [.write 0 [1, 2] false, .read 5, .write 0 [1, 2] true]).any (fun receiver =>
        decide (receiver.recv.finOff = some receiver.consumed ∧ receiver.told = false ∧
          receiver.recv.ready = false)) = true := by
    decide +kernel
  obtain ⟨receiver, made, found⟩ := (Option.any_eq_true _ _).mp executed
  obtain ⟨known, untold, idle⟩ := of_decide_eq_true found
  rw [claimed receiver (.of_exec made) known untold] at idle
  cases idle

/-! ## Buffers that were shut down -/

/-- Everything that was received counts as read. -/
def Followed (receiver : Receiver) : Prop :=
  receiver.recv.shutdownFlag = true → receiver.recv.readOff = receiver.recv.recvOff

/-- Nothing beyond what was received comes after the shutdown. -/
def NothingNew (receiver : Receiver) : Op → Prop
  | .write offset data fin => receiver.recv.shutdownFlag = true → data = [] ∧ fin = false ∨
      offset + data.length ≤ receiver.recv.recvOff
  | _ => True

theorem followed_write_iff (valid : receiver.recv.Valid) (shut : receiver.recv.shutdownFlag = true)
    (followed : receiver.Followed) {offset : Nat} {data : Bytes} {fin : Bool}
    (stepped : receiver.step (.write offset data fin) = some next) :
    next.Followed ↔ NothingNew receiver (.write offset data fin) := by
  dsimp only [step] at stepped
  split at stepped
  case h_2 => cases stepped
  case h_1 recv written =>
    cases stepped
    have spec := RecvBuf.write_spec valid.ordered written
    have before := followed shut
    have moved := spec.recvOff
    have still : recv.shutdownFlag = true := spec.shutdownFlag.trans shut
    have same := spec.readOff
    constructor
    · intro after _
      have equal : recv.readOff = recv.recvOff := after still
      by_cases ignored : data = [] ∧ fin = false
      · exact .inl ignored
      · rw [if_neg ignored] at moved
        exact .inr (by omega)
    · intro nothing _
      change recv.readOff = recv.recvOff
      rcases nothing shut with ignored | within
      · rw [if_pos ignored] at moved
        omega
      · split_ifs at moved <;> omega

private theorem followed_step (valid : receiver.recv.Valid) (followed : receiver.Followed)
    (allowed : NothingNew receiver op) (stepped : receiver.step op = some next) : next.Followed := by
  cases op with
  | write offset data fin =>
    by_cases shut : receiver.recv.shutdownFlag = true
    · exact (followed_write_iff valid shut followed stepped).mpr allowed
    · intro after
      dsimp only [step] at stepped
      split at stepped
      case h_1 written =>
        cases stepped
        exact absurd ((RecvBuf.write_spec valid.ordered written).shutdownFlag.symm.trans after) shut
      case h_2 => cases stepped
  | read outLen =>
    intro after
    obtain ⟨_, received, flag⟩ := valid.read outLen
    have kept : next.recv = (receiver.recv.read outLen).2 := by
      dsimp only [step] at stepped
      split at stepped
      case h_1 read => cases stepped; rw [read]
      case h_2 read => cases stepped; rw [read]
    have shut : receiver.recv.shutdownFlag = true := by
      rw [kept, flag] at after
      exact after
    have idle : receiver.recv.read outLen = (.error .done, receiver.recv) := by
      rw [RecvBuf.read, valid.not_ready shut]
      rfl
    rw [kept, idle]
    exact followed shut
  | reset errorCode finalSize =>
    dsimp only [step] at stepped
    split at stepped
    case h_1 outcome =>
      cases stepped
      have reset := valid.reset outcome
      exact fun _ => reset.readOff.trans reset.recvOff.symm
    case h_2 => cases stepped
  | shutdown =>
    cases stepped
    intro _
    cases first : receiver.recv.shutdownFlag with
    | true =>
      rw [RecvBuf.shutdown, if_pos first]
      exact followed first
    | false =>
      rw [RecvBuf.shutdown, if_neg (by simp [first])]
  | updateMaxData now =>
    cases stepped
    exact followed
  | autotuneWindow now srtt =>
    cases stepped
    exact followed

/-- While nothing new comes after the shutdown, everything received counts as read, so that the buffer
is complete once the final size is received; and a write that brings something new breaks this. -/
theorem shutdown_completes {maxData maxWindow : Nat}
    (run : Run step NothingNew (.new maxData maxWindow) receiver)
    (shut : receiver.recv.shutdownFlag = true) :
    receiver.recv.readOff = receiver.recv.recvOff ∧
      (receiver.recv.finOff = some receiver.recv.recvOff → receiver.recv.isComplete = true) ∧
      ∀ offset data fin next, receiver.step (.write offset data fin) = some next →
        (next.recv.readOff = next.recv.recvOff ↔ NothingNew receiver (.write offset data fin)) := by
  have holds : receiver.recv.Valid ∧ receiver.Followed := by
    refine @Run.invariant _ _ _ _ (fun receiver => receiver.recv.Valid ∧ receiver.Followed) ?_ _ _ run
      ⟨.new maxData maxWindow, fun shut => nomatch shut⟩
    intro state op next holds allowed stepped
    exact ⟨step_valid holds.1 stepped, followed_step holds.1 holds.2 allowed stepped⟩
  obtain ⟨valid, followed⟩ := holds
  refine ⟨followed shut, fun known => ?_, fun offset data fin next stepped => ?_⟩
  · rw [RecvBuf.isComplete, known, followed shut, decide_eq_true_eq]
  · have still : next.recv.shutdownFlag = true := by
      dsimp only [step] at stepped
      split at stepped
      case h_1 written =>
        cases stepped
        exact (RecvBuf.write_spec valid.ordered written).shutdownFlag.trans shut
      case h_2 => cases stepped
    rw [← followed_write_iff valid shut followed stepped]
    exact ⟨fun same _ => same, fun after => after still⟩

/-- A duplicate and the end of the stream after the shutdown. -/
theorem shutdown_completes_sample :
    ∃ receiver, Run step NothingNew (.new 10 10) receiver ∧
      receiver.recv.finOff = some 2 ∧ receiver.recv.isComplete = true := by
  have executed : (exec (checked (fun receiver op =>
      match op with
      | .write offset data fin => !receiver.recv.shutdownFlag || data.isEmpty && !fin ||
          decide (offset + data.length ≤ receiver.recv.recvOff)
      | _ => true) step) (.new 10 10)
      [.write 0 [1, 2] false, .shutdown, .write 0 [1] false, .write 1 [2] true]).any (fun receiver =>
        decide (receiver.recv.shutdownFlag = true ∧ receiver.recv.finOff = some 2 ∧
          receiver.recv.finOff = some receiver.recv.recvOff)) = true := by
    decide +kernel
  obtain ⟨receiver, made, found⟩ := (Option.any_eq_true _ _).mp executed
  obtain ⟨shut, known, received⟩ := of_decide_eq_true found
  have run : Run step NothingNew (.new 10 10) receiver := by
    refine Run.of_checked (fun state op passed => ?_) (.of_exec made)
    cases op with
    | write offset data fin =>
      intro shut
      simpa [shut] using passed
    | _ => trivial
  exact ⟨receiver, run, known, (shutdown_completes run shut).2.1 received⟩

/-- A byte comes after the shutdown, and then the end of the stream. -/
theorem shutdown_never_completes :
    ¬ ∀ receiver : Receiver, Run step anyStep (.new 10 10) receiver →
      receiver.recv.shutdownFlag = true → receiver.recv.readOff = receiver.recv.recvOff ∧
        (receiver.recv.finOff = some receiver.recv.recvOff → receiver.recv.isComplete = true) := by
  intro claimed
  have executed : (exec step (.new 10 10) [.shutdown, .write 0 [1] true]).any (fun receiver =>
      decide (receiver.recv.shutdownFlag = true ∧ receiver.recv.readOff = 0 ∧
        receiver.recv.recvOff = 1)) = true := by
    decide +kernel
  obtain ⟨receiver, made, found⟩ := (Option.any_eq_true _ _).mp executed
  obtain ⟨shut, read, received⟩ := of_decide_eq_true found
  have follows := (claimed receiver (.of_exec made) shut).1
  omega

end Receiver

end Tquic.Connection
