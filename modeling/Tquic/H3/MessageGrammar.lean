import Tquic.H3.PayloadFields
import Tquic.H3.StreamInvariants

/-! The order of the frames of a message on a request stream. -/

set_option autoImplicit false

namespace Tquic.H3

open Lib Connection Stateful

/-! ## Messages -/

/-- The frames that make up a message. -/
inductive MessageKind where
  | headers
  | data
  deriving DecidableEq

namespace MessageKind

def Message (kinds : List MessageKind) : Prop :=
  ∃ sections contents, kinds = List.replicate (sections + 1) headers ++ List.replicate contents data ∨
    kinds = List.replicate (sections + 1) headers ++ List.replicate (contents + 1) data ++ [headers]

/-- Something follows the trailers of a message. -/
def Overrun (kinds : List MessageKind) : Prop :=
  ∃ sections contents rest, rest ≠ [] ∧
    kinds = List.replicate (sections + 1) headers ++ List.replicate (contents + 1) data ++ [headers] ++ rest

/-! ## How far a message is -/

inductive Phase where
  | start
  | sections
  | contents
  | trailers
  | beyond
  | misplaced
  deriving DecidableEq

def Phase.next : Phase → MessageKind → Phase
  | start, headers => sections
  | start, data => misplaced
  | sections, headers => sections
  | sections, data => contents
  | contents, data => contents
  | contents, headers => trailers
  | trailers, _ => beyond
  | beyond, _ => beyond
  | misplaced, _ => misplaced

def phase (kinds : List MessageKind) : Phase := kinds.foldl Phase.next .start

def Leads (kinds : List MessageKind) : Phase → Prop
  | .start => kinds = []
  | .sections => ∃ more, kinds = List.replicate (more + 1) headers
  | .contents => ∃ more many,
      kinds = List.replicate (more + 1) headers ++ List.replicate (many + 1) data
  | .trailers => ∃ more many,
      kinds = List.replicate (more + 1) headers ++ List.replicate (many + 1) data ++ [headers]
  | .beyond => Overrun kinds
  | .misplaced => kinds.head? = some data

theorem leads_phase (kinds : List MessageKind) : Leads kinds (phase kinds) := by
  induction kinds using List.reverseRecOn with
  | nil => rfl
  | append_singleton kinds kind ih =>
      have shape : phase (kinds ++ [kind]) = (phase kinds).next kind := by
        unfold phase
        rw [List.foldl_append]
        rfl
      rw [shape]
      cases reached : phase kinds with
      | start =>
          rw [reached] at ih
          obtain rfl : kinds = [] := ih
          cases kind with
          | headers => exact ⟨0, rfl⟩
          | data => rfl
      | sections =>
          rw [reached] at ih
          obtain ⟨more, rfl⟩ := ih
          cases kind with
          | headers => exact ⟨more + 1, List.replicate_succ'.symm⟩
          | data => exact ⟨more, 0, rfl⟩
      | contents =>
          rw [reached] at ih
          obtain ⟨more, many, rfl⟩ := ih
          cases kind with
          | headers => exact ⟨more, many, rfl⟩
          | data => exact ⟨more, many + 1, by rw [List.append_assoc, ← List.replicate_succ']⟩
      | trailers =>
          rw [reached] at ih
          obtain ⟨more, many, rfl⟩ := ih
          exact ⟨more, many, [kind], List.cons_ne_nil _ _, rfl⟩
      | beyond =>
          rw [reached] at ih
          obtain ⟨more, many, rest, _, rfl⟩ := ih
          exact ⟨more, many, rest ++ [kind], List.append_ne_nil_of_right_ne_nil _ (List.cons_ne_nil _ _),
            by rw [List.append_assoc]⟩
      | misplaced =>
          rw [reached] at ih
          change (kinds ++ [kind]).head? = some data
          have first : kinds.head? = some data := ih
          rw [List.head?_append, first]
          rfl

theorem foldl_replicate {phase : Phase} {kind : MessageKind} (stays : phase.next kind = phase)
    (count : Nat) : (List.replicate count kind).foldl Phase.next phase = phase := by
  induction count with
  | zero => rfl
  | succ count ih => rw [List.replicate_succ, List.foldl_cons, stays, ih]

theorem foldl_stuck {phase : Phase} (stays : ∀ kind, phase.next kind = phase)
    (kinds : List MessageKind) : kinds.foldl Phase.next phase = phase := by
  induction kinds with
  | nil => rfl
  | cons kind kinds ih => rw [List.foldl_cons, stays, ih]

theorem phase_sections (more : Nat) : phase (List.replicate (more + 1) headers) = .sections :=
  @foldl_replicate .sections headers rfl more

theorem phase_contents (more many : Nat) :
    phase (List.replicate (more + 1) headers ++ List.replicate (many + 1) data) = .contents := by
  have before := phase_sections more
  unfold phase at before ⊢
  rw [List.foldl_append, before]
  exact @foldl_replicate .contents data rfl many

theorem phase_trailers (more many : Nat) :
    phase (List.replicate (more + 1) headers ++ List.replicate (many + 1) data ++ [headers]) =
      .trailers := by
  have before := phase_contents more many
  unfold phase at before ⊢
  rw [List.foldl_append, before]
  rfl

variable {kinds : List MessageKind}

theorem message_iff :
    Message kinds ↔ phase kinds = .sections ∨ phase kinds = .contents ∨ phase kinds = .trailers := by
  constructor
  · rintro ⟨more, many, rfl | rfl⟩
    · cases many with
      | zero =>
          rw [List.replicate_zero, List.append_nil]
          exact .inl (phase_sections more)
      | succ many => exact .inr (.inl (phase_contents more many))
    · exact .inr (.inr (phase_trailers more many))
  · have leads := leads_phase kinds
    rintro (reached | reached | reached)
    · rw [reached] at leads
      obtain ⟨more, rfl⟩ := leads
      exact ⟨more, 0, .inl (List.append_nil _).symm⟩
    · rw [reached] at leads
      obtain ⟨more, many, rfl⟩ := leads
      exact ⟨more, many + 1, .inl rfl⟩
    · rw [reached] at leads
      obtain ⟨more, many, rfl⟩ := leads
      exact ⟨more, many, .inr rfl⟩

theorem overrun_iff : Overrun kinds ↔ phase kinds = .beyond := by
  constructor
  · rintro ⟨more, many, rest, some, rfl⟩
    have before := phase_trailers more many
    cases rest with
    | nil => exact absurd rfl some
    | cons kind rest =>
        unfold phase at before ⊢
        rw [List.foldl_append, before, List.foldl_cons]
        exact @foldl_stuck .beyond (fun _ => rfl) rest
  · intro reached
    have leads := leads_phase kinds
    rwa [reached] at leads

private theorem misplaced_iff : kinds.head? = some data ↔ phase kinds = .misplaced := by
  constructor
  · intro first
    cases kinds with
    | nil => cases first
    | cons kind kinds =>
        cases first
        exact @foldl_stuck .misplaced (fun _ => rfl) kinds
  · intro reached
    have leads := leads_phase kinds
    rwa [reached] at leads

private theorem empty_iff : kinds = [] ↔ phase kinds = .start := by
  constructor
  · rintro rfl
    rfl
  · intro reached
    have leads := leads_phase kinds
    rwa [reached] at leads

private theorem not_misplaced_iff_message :
    (kinds.head? ≠ some data ↔ Message kinds) ↔ kinds ≠ [] ∧ ¬ Overrun kinds := by
  rw [ne_eq, ne_eq, misplaced_iff, message_iff, overrun_iff, empty_iff]
  cases phase kinds <;> decide

end MessageKind

/-! ## Parsing -/

/-- A frame that a request stream may get, apart from those that belong on other streams. -/
inductive MessageFrame where
  | known (kind : MessageKind)
  | unknown (frameType : Nat) (other : frameType ∉ Http3Frame.knownFrameTypes)

def MessageFrame.frameType : MessageFrame → Nat
  | known .headers => headersFrameType
  | known .data => dataFrameType
  | unknown frameType _ => frameType

def MessageFrame.kind? : MessageFrame → Option MessageKind
  | known kind => some kind
  | unknown _ _ => none

/-- What the parser of a stream does: it learns the type of a frame, the length and the payload of
the frame follow. In between the transport goes its own way. -/
inductive ParseOp where
  | frameType (frame : MessageFrame)
  | payloadLength
  | payload
  | readData (outLen : Nat)
  | transport (conn : QuicConn)

def ParseOp.kind? : ParseOp → Option MessageKind
  | frameType frame => frame.kind?
  | _ => none

/-- The frames without those of unknown types, in their order. -/
def frameKinds (ops : List ParseOp) : List MessageKind := ops.filterMap ParseOp.kind?

namespace Http3Stream

def parsed (state : Http3Stream × QuicConn) : ParseOp → Http3Stream × QuicConn
  | .frameType _ => state
  | .payloadLength => (parseFramePayloadLength.run state).2
  | .payload => (parseFramePayload.run state).2
  | .readData outLen => ((readDataFromQuic outLen).run state).2
  | .transport conn => (state.1, conn)

def accepts : List ParseOp → Http3Stream × QuicConn → Bool
  | [], _ => true
  | .frameType frame :: ops, state =>
      match (own (setFrameType frame.frameType)).run state with
      | (.ok _, after) => accepts ops after
      | (.error _, _) => false
  | op :: ops, state => accepts ops (parsed state op)

/-! ## What is parsed between two types -/

/-- A request stream that has, or has not yet, got HEADERS. -/
def Begun (flag : Bool) (state : Http3Stream × QuicConn) : Prop :=
  state.1.streamType = some .request ∧ state.1.peerInitialized = flag

variable {flag : Bool}

theorem begun_robust (flag : Bool) : Robust (Begun flag) where
  read _ _ _ begun := begun
  close _ _ _ _ begun := begun
  machine _ _ _ begun := begun
  event _ _ _ begun := begun

variable {state : Http3Stream × QuicConn}

theorem begun_parsed (begun : Begun flag state) (op : ParseOp) : Begun flag (parsed state op) := by
  cases op with
  | frameType frame => exact begun
  | payloadLength => exact (begun_robust flag).parseFramePayloadLength state begun
  | payload => exact (begun_robust flag).parseFramePayload state begun
  | readData outLen => exact (begun_robust flag).readDataFromQuic outLen state begun
  | transport conn => exact begun

/-! ## Which sequences are accepted -/

theorem checkFrame_request {stream : Http3Stream} (request : stream.streamType = some .request)
    (frame : MessageFrame) :
    Ends (fun _ after => after.streamType = some .request ∧ after.peerInitialized =
          (stream.peerInitialized || decide (frame.kind? = some .headers)) ∧
        (stream.peerInitialized = true ∨ frame.kind? ≠ some .data))
      (fun _ _ => stream.peerInitialized = false ∧ frame.kind? = some .data)
      ((checkFrame frame.frameType).run stream) := by
  unfold checkFrame
  refine ends_bind.mpr (ends_get.mpr ?_)
  rw [request]
  unfold checkFrameOnRequestStream
  refine ends_bind.mpr (ends_get.mpr ?_)
  rcases frame with (_ | _) | ⟨frameType, other⟩
  · cases started : stream.peerInitialized with
    | false => exact ⟨request, rfl, .inr (by decide)⟩
    | true => exact ⟨request, started, .inl rfl⟩
  · cases started : stream.peerInitialized with
    | false => exact ⟨rfl, rfl⟩
    | true => exact ⟨request, started, .inl rfl⟩
  · have noHeaders : frameType ≠ headersFrameType := fun same => other (same ▸ by decide)
    have noData : frameType ≠ dataFrameType := fun same => other (same ▸ by decide)
    have noControl : frameType ∉ controlFrameTypes := by
      have known : ∀ kind ∈ controlFrameTypes, kind ∈ Http3Frame.knownFrameTypes := by decide
      exact fun member => other (known frameType member)
    change Ends _ _ (run (if decide (frameType = headersFrameType) && !stream.peerInitialized then _
      else if decide (frameType = dataFrameType) && !stream.peerInitialized then _
      else if frameType ∈ controlFrameTypes then _ else _) stream)
    rw [decide_eq_false noHeaders, decide_eq_false noData, if_neg noControl]
    exact ⟨request, (Bool.or_false _).symm, .inr (fun same => nomatch same)⟩

private theorem setFrameType_request (begun : Begun flag state) (frame : MessageFrame) :
    Ends (fun _ after => Begun (flag || decide (frame.kind? = some .headers)) after ∧
        (flag = true ∨ frame.kind? ≠ some .data))
      (fun _ _ => flag = false ∧ frame.kind? = some .data)
      ((own (setFrameType frame.frameType)).run state) := by
  obtain ⟨request, rfl⟩ := begun
  refine ends_zoom.mpr (ends_bind.mpr ((checkFrame_request request frame).mono ?_ fun _ _ no => no))
  rintro _ after ⟨still, started, passed⟩
  refine ends_bind.mpr (ends_modify.mpr ((transitionState_ends _ _ _ _).mono ?_ ?_))
  · rintro _ _ rfl
    exact ⟨⟨still, started⟩, passed⟩
  · rintro _ _ ⟨_, _, large, _⟩
    exact absurd large (by decide)

theorem accepts_iff {ops : List ParseOp} (begun : Begun flag state) :
    accepts ops state = true ↔ flag = true ∨ (frameKinds ops).head? ≠ some .data := by
  induction ops generalizing state flag with
  | nil => exact iff_of_true rfl (.inr (by simp [frameKinds]))
  | cons op ops ih =>
      cases op with
      | frameType frame =>
          have outcome := setFrameType_request begun frame
          cases taken : (own (setFrameType frame.frameType)).run state with
          | mk result after =>
              rw [taken] at outcome
              have shape : frameKinds (.frameType frame :: ops) =
                  frame.kind?.toList ++ frameKinds ops := by
                cases frame <;> rfl
              rw [shape]
              unfold accepts
              rw [taken]
              cases result with
              | error error =>
                  obtain ⟨fresh, data⟩ := outcome
                  rw [fresh, data]
                  simp
              | ok value =>
                  obtain ⟨begun, passed⟩ := outcome
                  refine (ih begun).trans ?_
                  rcases frame with (_ | _) | _
                  · exact iff_of_true (.inl (Bool.or_true flag)) (.inr fun same => nomatch same)
                  · have started := passed.resolve_right (fun other => other rfl)
                    exact iff_of_true (.inl (by rw [started, Bool.true_or])) (.inl started)
                  · simp [MessageFrame.kind?]
      | payloadLength => exact ih (begun_parsed begun .payloadLength)
      | payload => exact ih (begun_parsed begun .payload)
      | readData outLen => exact ih (begun_parsed begun (.readData outLen))
      | transport conn => exact ih (begun_parsed begun (.transport conn))

/-- For every run of the parser of a new request stream: the types of its frames are accepted
exactly where they are a message, if there are any and none of them follows the trailers of a
message. -/
theorem set_frame_type_grammar_iff {id : Nat} (bidi : isBidi id = true) (byLocal : Bool)
    (conn : QuicConn) (ops : List ParseOp) :
    (accepts ops (.new id byLocal, conn) = true ↔ MessageKind.Message (frameKinds ops)) ↔
      frameKinds ops ≠ [] ∧ ¬ MessageKind.Overrun (frameKinds ops) := by
  have begun : Begun false (Http3Stream.new id byLocal, conn) := by
    refine ⟨?_, rfl⟩
    change (if isBidi id then some Http3StreamType.request else none) = _
    rw [bidi]
    rfl
  rw [accepts_iff begun, ← MessageKind.not_misplaced_iff_message]
  simp only [Bool.false_eq_true, false_or]

def fourFrames : QuicConn :=
  let limits : StreamTransportParams :=
    { initialMaxData := 100, initialMaxStreamDataBidiRemote := 100, initialMaxStreamsBidi := 1 }
  let streams := StreamMap.new true 100 100 limits none
  { streams := (streams.onStreamFrameReceived 0 0 8 false [1, 7, 1, 8, 1, 9, 1, 6]).2
    localError := none
    isClosed := false
    isDraining := false
    accepted := [] }

def overrun : List ParseOp :=
  [.frameType (.known .headers), .payloadLength, .payload,
    .frameType (.known .data), .payloadLength, .readData 10,
    .frameType (.known .headers), .payloadLength, .payload,
    .frameType (.known .data), .payloadLength, .readData 10]

theorem overrun_accepted :
    accepts overrun (.new 0 false, fourFrames) = true ∧
      ¬ MessageKind.Message (frameKinds overrun) := by
  refine ⟨by decide +kernel, ?_⟩
  rw [MessageKind.message_iff]
  decide

theorem set_frame_type_grammar_message :
    accepts (overrun.take 9) (.new 0 false, fourFrames) = true ↔
      MessageKind.Message (frameKinds (overrun.take 9)) := by
  refine (@set_frame_type_grammar_iff 0 (by decide) false fourFrames (overrun.take 9)).mpr ⟨by decide, ?_⟩
  rw [MessageKind.overrun_iff]
  decide

end Http3Stream

end Tquic.H3
