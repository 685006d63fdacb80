import Tquic.Frame
import Tquic.Packet
import Tquic.RangesProperties
import Tquic.Connection.Path
import Tquic.Connection.Space
import Tquic.Lib.Transition

/-! The packets that an endpoint has to acknowledge, after `recv_packet`, `try_schedule_ack_frame`,
`try_process_acked_frames`, `process_all_lost_frames`, `try_write_ack_frame` and `on_timeout` of
`connection.rs`. An ACK frame that was written may be acknowledged or lost at any later time. -/

set_option autoImplicit false

namespace Tquic.Connection

open Lib

deriving instance DecidableEq for OrdMap
deriving instance DecidableEq for RangeSet
deriving instance DecidableEq for Frame

def maxAckRanges : Nat := 68

/-- What is known about the past of a space. The code does not keep it. -/
structure AckHistory where
  -- Ack-eliciting packets that no ACK frame has covered since they were processed.
  unacked : List Nat
  written : List Frame

/-- The part of a packet number space that acknowledges received packets. -/
structure AckSpace where
  id : SpaceId
  largestRxPktNum : Nat
  largestRxPktTime : Instant
  largestRxNonProbingPktNum : Nat
  largestRxAckElicitingPktNum : Nat
  recvPktNumNeedAck : RangeSet
  recvPktNumWin : SeqNumWindow
  needSendAck : Bool
  ackElicitingPktsSinceLastSentAck : Nat
  ackTimer : Option Instant
  lost : List Frame
  acked : List Frame
  history : AckHistory

/-- A packet whose protection was removed, with what its frames turned out to be. -/
structure AckPacket where
  pktNum : Nat
  ackEliciting : Bool
  probing : Bool
  time : Instant

namespace AckSpace

def new (id : SpaceId) (now : Instant) : AckSpace :=
  { id
    largestRxPktNum := 0
    largestRxPktTime := now
    largestRxNonProbingPktNum := 0
    largestRxAckElicitingPktNum := 0
    recvPktNumNeedAck := .new (some maxAckRanges)
    recvPktNumWin := .empty
    needSendAck := false
    ackElicitingPktsSinceLastSentAck := 0
    ackTimer := none
    lost := []
    acked := []
    history := ⟨[], []⟩ }

/-! ## Receiving -/

def evicts (ranges : RangeSet) (pktNum value : Nat) : Bool :=
  ranges.len = maxAckRanges &&
    ranges.peekMin.any (fun least => least.start ≤ value && value < least.stop) &&
      !(ranges.addElem pktNum).contains value

/-- `recv_packet` after the frames of a packet were processed. -/
def recordPacket (space : AckSpace) (packet : AckPacket) : AckSpace :=
  { space with
    largestRxPktTime :=
      if space.recvPktNumNeedAck.max.all (· < packet.pktNum) then packet.time
      else space.largestRxPktTime
    recvPktNumWin := space.recvPktNumWin.insert packet.pktNum
    recvPktNumNeedAck := space.recvPktNumNeedAck.addElem packet.pktNum
    largestRxPktNum := max space.largestRxPktNum packet.pktNum
    largestRxNonProbingPktNum :=
      if packet.probing then space.largestRxNonProbingPktNum
      else max space.largestRxNonProbingPktNum packet.pktNum
    largestRxAckElicitingPktNum :=
      if packet.ackEliciting then max space.largestRxAckElicitingPktNum packet.pktNum
      else space.largestRxAckElicitingPktNum
    history := { space.history with
      unacked :=
        (if packet.ackEliciting then packet.pktNum :: space.history.unacked
        else space.history.unacked).filter
          (fun value => !evicts space.recvPktNumNeedAck packet.pktNum value) } }

def sendNow (space : AckSpace) : AckSpace := { space with needSendAck := true, ackTimer := none }

def trySchedule (space : AckSpace) (pktNum : Nat) (ackEliciting : Bool) (threshold : Nat)
    (maxAckDelay : Duration) (now : Instant) : AckSpace :=
  if !ackEliciting then space
  else if space.needSendAck then space
  else if space.id = .initial ∨ space.id = .handshake then { space with needSendAck := true }
  else
    let counted := { space with
      ackElicitingPktsSinceLastSentAck := space.ackElicitingPktsSinceLastSentAck + 1 }
    if counted.ackElicitingPktsSinceLastSentAck ≥ threshold then counted.sendNow
    else if pktNum < space.largestRxAckElicitingPktNum ∨
        pktNum > space.largestRxAckElicitingPktNum + 1 then counted.sendNow
    else if counted.ackTimer.isNone then { counted with ackTimer := some (now + maxAckDelay) }
    else counted

/-! ## Acknowledged and lost frames -/

def processAckedFrame (space : AckSpace) : Frame → AckSpace
  | .ack _ ackRanges _ =>
    match ackRanges.max with
    | some largestAcked =>
      { space with recvPktNumNeedAck := space.recvPktNumNeedAck.removeUntil largestAcked }
    | none => space
  | _ => space

def processAckedFrames (space : AckSpace) : AckSpace :=
  { space.acked.foldl processAckedFrame space with acked := [] }

def processLostFrame (space : AckSpace) : Frame → AckSpace
  | .ack _ _ _ => { space with needSendAck := true }
  | _ => space

def processLostFrames (space : AckSpace) : AckSpace :=
  { space.lost.foldl processLostFrame space with lost := [] }

/-! ## Sending -/

/-- Nothing is written when the frame does not fit in the room that is left in the packet. -/
def tryWriteAckFrame (space : AckSpace) (isClosing active : Bool) (ackDelayExp room : Nat)
    (now : Instant) : Except Error AckSpace :=
  if space.recvPktNumNeedAck.isEmpty || !space.needSendAck || isClosing || !active then .ok space
  else
    let ackDelay := saturatingDurationSince now space.largestRxPktTime / 1000 / 2 ^ ackDelayExp
    let frame := Frame.ack ackDelay space.recvPktNumNeedAck none
    if frame.wireLen > room then .error .done
    else
      .ok { space with
        needSendAck := false
        ackElicitingPktsSinceLastSentAck := 0
        history :=
          { unacked := space.history.unacked.filter (!space.recvPktNumNeedAck.contains ·)
            written := frame :: space.history.written } }

def onAckTimeout (space : AckSpace) (now : Instant) : AckSpace :=
  match space.ackTimer with
  | some timer => if timer > now then space else space.sendNow
  | none => space

/-- The recovery state of a space goes with its keys. -/
def discard (space : AckSpace) : AckSpace := { space with lost := [], acked := [] }

end AckSpace

/-- The packet number spaces of a connection, with what decides when to acknowledge. -/
structure Acknowledger where
  spaces : OrdMap Nat AckSpace
  nextDataExtId : Nat
  ackElicitingThreshold : Nat
  -- In milliseconds, as the transport parameter of the peer.
  maxAckDelay : Nat
  ackDelayExponent : Nat

namespace Acknowledger

def new (ackElicitingThreshold ackDelayExponent : Nat) (now : Instant) : Acknowledger :=
  { spaces := (((∅ : OrdMap Nat AckSpace).insert 0 (.new .initial now)).insert 1
      (.new .handshake now)).insert 2 (.new .data now)
    nextDataExtId := 3
    ackElicitingThreshold
    maxAckDelay := 25
    ackDelayExponent }

def get (state : Acknowledger) (spaceId : SpaceId) : Option AckSpace := state.spaces.get? spaceId.key

def set (state : Acknowledger) (spaceId : SpaceId) (space : AckSpace) : Acknowledger :=
  { state with spaces := state.spaces.insert spaceId.key space }

/-- What can happen to the spaces. -/
inductive Op where
  | recvPacket (spaceId : SpaceId) (packet : AckPacket) (now : Instant)
  -- Recovery found a frame of a sent packet acknowledged or lost.
  | frameAcked (spaceId : SpaceId) (frame : Frame)
  | frameLost (spaceId : SpaceId) (frame : Frame)
  | processLostFrames
  | writeAckFrame (spaceId : SpaceId) (isClosing active : Bool) (room : Nat) (now : Instant)
  | ackTimeout (now : Instant)
  | peerParams (maxAckDelay : Nat)
  | addSpace (now : Instant)
  | discardSpace (spaceId : SpaceId)

/-- A packet is processed unless its space is unknown or its number was seen before. -/
def accepts (state : Acknowledger) (spaceId : SpaceId) (pktNum : Nat) : Bool :=
  (state.get spaceId).any fun space => !space.recvPktNumWin.contains pktNum

def tryProcessAckedFrames (state : Acknowledger) : Acknowledger :=
  { state with spaces := state.spaces.mapValues AckSpace.processAckedFrames }

def recvPacket (state : Acknowledger) (spaceId : SpaceId) (packet : AckPacket) (now : Instant) :
    Acknowledger :=
  if state.accepts spaceId packet.pktNum then
    let processed := state.tryProcessAckedFrames
    match processed.get spaceId with
    | none => processed
    | some space =>
      processed.set spaceId ((space.recordPacket packet).trySchedule packet.pktNum
        packet.ackEliciting state.ackElicitingThreshold (millis state.maxAckDelay) now)
  else state

def wasWritten (space : AckSpace) : Frame → Bool
  | .ack ackDelay ackRanges ecnCounts => .ack ackDelay ackRanges ecnCounts ∈ space.history.written
  | _ => true

def step (state : Acknowledger) : Op → Option Acknowledger
  | .recvPacket spaceId packet now => some (state.recvPacket spaceId packet now)
  | .frameAcked spaceId frame =>
    match state.get spaceId with
    | none => none
    | some space =>
      if wasWritten space frame then
        some (state.set spaceId { space with acked := space.acked ++ [frame] })
      else none
  | .frameLost spaceId frame =>
    match state.get spaceId with
    | none => none
    | some space =>
      if wasWritten space frame then
        some (state.set spaceId { space with lost := space.lost ++ [frame] })
      else none
  | .processLostFrames =>
    some { state with spaces := state.spaces.mapValues AckSpace.processLostFrames }
  | .writeAckFrame spaceId isClosing active room now =>
    match state.get spaceId with
    | none => some state
    | some space =>
      match space.tryWriteAckFrame isClosing active state.ackDelayExponent room now with
      | .error _ => some state
      | .ok after => some (state.set spaceId after)
  | .ackTimeout now =>
    some { state with spaces := state.spaces.mapValues (AckSpace.onAckTimeout · now) }
  | .peerParams maxAckDelay => some { state with maxAckDelay }
  | .addSpace now =>
    some { state with
      spaces := state.spaces.insert state.nextDataExtId (.new (.dataExt state.nextDataExtId) now)
      nextDataExtId := state.nextDataExtId + 1 }
  | .discardSpace spaceId =>
    match state.get spaceId with
    | none => some state
    | some space => some (state.set spaceId space.discard)

end Acknowledger

namespace AckSpace

variable {space : AckSpace}

/-! ## What the operations on a space leave as it is -/

theorem processAckedFrames_eq (space : AckSpace) :
    ∃ ackRanges, space.processAckedFrames =
      { space with recvPktNumNeedAck := ackRanges, acked := [] } := by
  have folded : ∀ (frames : List Frame) (space : AckSpace), ∃ ackRanges,
      frames.foldl processAckedFrame space = { space with recvPktNumNeedAck := ackRanges } := by
    intro frames
    induction frames with
    | nil => exact fun space => ⟨space.recvPktNumNeedAck, rfl⟩
    | cons frame rest ih =>
      intro space
      obtain ⟨ackRanges, same⟩ := ih (space.processAckedFrame frame)
      refine ⟨ackRanges, same.trans ?_⟩
      unfold processAckedFrame
      split
      · split <;> rfl
      · rfl
  obtain ⟨ackRanges, same⟩ := folded space.acked space
  refine ⟨ackRanges, ?_⟩
  rw [processAckedFrames, same]

theorem processLostFrames_eq (space : AckSpace) :
    ∃ due, space.processLostFrames = { space with needSendAck := due, lost := [] } := by
  have folded : ∀ (frames : List Frame) (space : AckSpace), ∃ due,
      frames.foldl processLostFrame space = { space with needSendAck := due } := by
    intro frames
    induction frames with
    | nil => exact fun space => ⟨space.needSendAck, rfl⟩
    | cons frame rest ih =>
      intro space
      obtain ⟨due, same⟩ := ih (space.processLostFrame frame)
      refine ⟨due, same.trans ?_⟩
      cases frame <;> rfl
  obtain ⟨due, same⟩ := folded space.lost space
  refine ⟨due, ?_⟩
  rw [processLostFrames, same]

theorem trySchedule_eq (space : AckSpace) (pktNum : Nat) (ackEliciting : Bool) (threshold : Nat)
    (maxAckDelay : Duration) (now : Instant) :
    ∃ due count timer, space.trySchedule pktNum ackEliciting threshold maxAckDelay now =
      { space with
        needSendAck := due
        ackElicitingPktsSinceLastSentAck := count
        ackTimer := timer } := by
  unfold trySchedule
  dsimp only
  split_ifs <;> exact ⟨_, _, _, rfl⟩

theorem tryWriteAckFrame_eq {isClosing active : Bool} {ackDelayExp room : Nat} {now : Instant}
    {after : AckSpace}
    (wrote : space.tryWriteAckFrame isClosing active ackDelayExp room now = .ok after) :
    ∃ due count history, after =
      { space with needSendAck := due, ackElicitingPktsSinceLastSentAck := count, history } := by
  unfold tryWriteAckFrame at wrote
  dsimp only at wrote
  split_ifs at wrote <;> cases wrote <;> exact ⟨_, _, _, rfl⟩

theorem onAckTimeout_eq (space : AckSpace) (now : Instant) :
    ∃ due timer, space.onAckTimeout now = { space with needSendAck := due, ackTimer := timer } := by
  unfold onAckTimeout
  split
  · split_ifs <;> exact ⟨_, _, rfl⟩
  · exact ⟨_, _, rfl⟩

/-! ## What a space has to acknowledge -/

/-- An acknowledgement is due for every packet that none has covered. -/
structure Sound (space : AckSpace) : Prop where
  limited : space.recvPktNumNeedAck.capacity = some maxAckRanges
  fits : space.recvPktNumNeedAck.Fits
  kept : ∀ value ∈ space.history.unacked, value ∈ space.recvPktNumNeedAck
  due : ∀ value ∈ space.history.unacked, space.needSendAck = true ∨ space.ackTimer.isSome = true

theorem Sound.new (id : SpaceId) (now : Instant) : (AckSpace.new id now).Sound where
  limited := rfl
  fits := by
    intro limit limited
    cases limited
    exact ⟨Nat.zero_le _, by decide⟩
  kept := List.forall_mem_nil _
  due := List.forall_mem_nil _

/-- A new number is kept, and another one goes only when the set is full. -/
theorem mem_addElem (limited : space.recvPktNumNeedAck.capacity = some maxAckRanges)
    (fits : space.recvPktNumNeedAck.Fits) {pktNum value : Nat}
    (known : value = pktNum ∨ value ∈ space.recvPktNumNeedAck)
    (stays : evicts space.recvPktNumNeedAck pktNum value = false) :
    value ∈ space.recvPktNumNeedAck.addElem pktNum := by
  rcases known with rfl | member
  · exact RangeSet.mem_insert_self fits ⟨le_refl _, Nat.lt_succ_self _⟩
  · rcases RangeSet.mem_insert_or_least fits ⟨pktNum, pktNum + 1⟩ member with
      kept | ⟨full, least, lowest, above, below⟩
    · exact kept
    · by_contra gone
      rw [limited] at full
      have absent : (space.recvPktNumNeedAck.addElem pktNum).contains value = false := by
        rw [← Bool.not_eq_true, RangeSet.contains_iff]
        exact gone
      rw [evicts, lowest, Option.any_some, absent] at stays
      simp [(Option.some.inj full).symm, above, below] at stays

theorem Sound.recordPacket (sound : space.Sound) (packet : AckPacket) :
    (space.recordPacket packet).recvPktNumNeedAck.capacity = some maxAckRanges ∧
      (space.recordPacket packet).recvPktNumNeedAck.Fits ∧
      ∀ value ∈ (space.recordPacket packet).history.unacked,
        value ∈ (space.recordPacket packet).recvPktNumNeedAck ∧
          (packet.ackEliciting = true ∨ value ∈ space.history.unacked) := by
  refine ⟨sound.limited, sound.fits.insert _, fun value member => ?_⟩
  obtain ⟨member, stays⟩ := List.mem_filter.mp member
  rw [Bool.not_eq_true'] at stays
  split at member
  · rename_i eliciting
    refine ⟨mem_addElem sound.limited sound.fits ?_ stays, .inl eliciting⟩
    exact (List.mem_cons.mp member).imp_right (sound.kept value)
  · exact ⟨mem_addElem sound.limited sound.fits (.inr (sound.kept value member)) stays, .inr member⟩

/-- Scheduling moves the flag, the counter and the timer, and never takes back what is due. -/
theorem trySchedule_spec (space : AckSpace) (pktNum : Nat) (ackEliciting : Bool) (threshold : Nat)
    (maxAckDelay : Duration) (now : Instant) :
    (space.trySchedule pktNum ackEliciting threshold maxAckDelay now).recvPktNumNeedAck =
        space.recvPktNumNeedAck ∧
      (space.trySchedule pktNum ackEliciting threshold maxAckDelay now).history = space.history ∧
      (ackEliciting = true ∨ space.needSendAck = true ∨ space.ackTimer.isSome = true →
        (space.trySchedule pktNum ackEliciting threshold maxAckDelay now).needSendAck = true ∨
          (space.trySchedule pktNum ackEliciting threshold maxAckDelay now).ackTimer.isSome =
            true) := by
  unfold trySchedule
  dsimp only
  split_ifs with silent already immediate many reordered idle
  · refine ⟨rfl, rfl, fun due => due.resolve_left ?_⟩
    simpa using silent
  · exact ⟨rfl, rfl, fun _ => .inl already⟩
  · exact ⟨rfl, rfl, fun _ => .inl rfl⟩
  · exact ⟨rfl, rfl, fun _ => .inl rfl⟩
  · exact ⟨rfl, rfl, fun _ => .inl rfl⟩
  · exact ⟨rfl, rfl, fun _ => .inr rfl⟩
  · refine ⟨rfl, rfl, fun _ => .inr ?_⟩
    simpa [Option.isSome_iff_ne_none] using idle

theorem Sound.receive (sound : space.Sound) (packet : AckPacket) (threshold : Nat)
    (maxAckDelay : Duration) (now : Instant) :
    ((space.recordPacket packet).trySchedule packet.pktNum packet.ackEliciting threshold
      maxAckDelay now).Sound := by
  obtain ⟨limited, fits, unacked⟩ := sound.recordPacket packet
  obtain ⟨same, past, due⟩ := trySchedule_spec (space.recordPacket packet) packet.pktNum
    packet.ackEliciting threshold maxAckDelay now
  refine ⟨same ▸ limited, same ▸ fits, fun value member => ?_, fun value member => ?_⟩
  · rw [past] at member
    rw [same]
    exact (unacked value member).1
  · rw [past] at member
    exact due ((unacked value member).2.imp_right (sound.due value))

/-! ### Acknowledged and lost frames -/

/-- The packets that an acknowledged frame lets the endpoint forget. -/
def Forgets (frame : Frame) (value : Nat) : Prop :=
  ∃ ackDelay ackRanges ecnCounts largestAcked, frame = .ack ackDelay ackRanges ecnCounts ∧
    ackRanges.max = some largestAcked ∧ value ≤ largestAcked

/-- No packet that is still to be acknowledged is forgotten. -/
def Settled (space : AckSpace) : Prop :=
  ∀ frame ∈ space.acked, ∀ value ∈ space.history.unacked, ¬ Forgets frame value

theorem Sound.processAckedFrame (sound : space.Sound) {frame : Frame}
    (settled : ∀ value ∈ space.history.unacked, ¬ Forgets frame value) :
    (space.processAckedFrame frame).Sound ∧
      (space.processAckedFrame frame).history = space.history := by
  cases frame with
  | ack ackDelay ackRanges ecnCounts =>
    rw [AckSpace.processAckedFrame]
    cases largest : ackRanges.max with
    | none => exact ⟨sound, rfl⟩
    | some largestAcked =>
      refine ⟨⟨(RangeSet.capacity_removeUntil _ _).trans sound.limited,
        sound.fits.removeUntil _, fun value member => ?_, sound.due⟩, rfl⟩
      refine (RangeSet.mem_removeUntil sound.fits).mpr ⟨sound.kept value member, ?_⟩
      by_contra low
      exact settled value member ⟨_, _, _, largestAcked, rfl, largest, Nat.le_of_not_lt low⟩
  | _ => exact ⟨sound, rfl⟩

theorem Sound.processAckedFrames (sound : space.Sound) (settled : space.Settled) :
    space.processAckedFrames.Sound := by
  have folded : ∀ (frames : List Frame) (space : AckSpace), space.Sound →
      (∀ frame ∈ frames, ∀ value ∈ space.history.unacked, ¬ Forgets frame value) →
      (frames.foldl AckSpace.processAckedFrame space).Sound := by
    intro frames
    induction frames with
    | nil => exact fun _ sound _ => sound
    | cons frame rest ih =>
      intro space sound settled
      obtain ⟨first, past⟩ := sound.processAckedFrame (settled frame List.mem_cons_self)
      refine ih _ first fun other member => ?_
      rw [past]
      exact settled other (List.mem_cons_of_mem _ member)
  obtain ⟨limited, fits, kept, due⟩ := folded space.acked space sound settled
  exact ⟨limited, fits, kept, due⟩

theorem Sound.processLostFrames (sound : space.Sound) : space.processLostFrames.Sound := by
  have folded : ∀ (frames : List Frame) (space : AckSpace), space.Sound →
      (frames.foldl AckSpace.processLostFrame space).Sound := by
    intro frames
    induction frames with
    | nil => exact fun _ sound => sound
    | cons frame rest ih =>
      intro space sound
      refine ih _ ?_
      cases frame with
      | ack ackDelay ackRanges ecnCounts =>
        exact ⟨sound.limited, sound.fits, sound.kept, fun _ _ => .inl rfl⟩
      | _ => exact sound
  obtain ⟨limited, fits, kept, due⟩ := folded space.lost space sound
  exact ⟨limited, fits, kept, due⟩

/-! ### Sending -/

theorem Sound.tryWriteAckFrame (sound : space.Sound) {isClosing active : Bool}
    {ackDelayExp room : Nat} {now : Instant} {after : AckSpace}
    (wrote : space.tryWriteAckFrame isClosing active ackDelayExp room now = .ok after) :
    after.Sound := by
  unfold AckSpace.tryWriteAckFrame at wrote
  dsimp only at wrote
  split_ifs at wrote
  · cases wrote
    exact sound
  · cases wrote
    have covered : space.history.unacked.filter (!space.recvPktNumNeedAck.contains ·) = [] := by
      refine List.filter_eq_nil_iff.mpr fun value member => ?_
      rw [RangeSet.contains_iff.mpr (sound.kept value member)]
      decide
    refine ⟨sound.limited, sound.fits, fun value member => ?_, fun value member => ?_⟩ <;>
      exact absurd (covered ▸ member) List.not_mem_nil

theorem Sound.onAckTimeout (sound : space.Sound) (now : Instant) : (space.onAckTimeout now).Sound := by
  rw [AckSpace.onAckTimeout]
  split
  · split_ifs
    · exact sound
    · exact ⟨sound.limited, sound.fits, sound.kept, fun _ _ => .inl rfl⟩
  · exact sound

end AckSpace

/-! ## Runs -/

namespace Acknowledger

variable {state next : Acknowledger}

def Sound (state : Acknowledger) : Prop :=
  ∀ key space, state.spaces.get? key = some space → space.Sound

/-- When a packet is processed, no ACK frame that was found acknowledged reaches beyond a packet that
arrived after the frame was written and has not been acknowledged. -/
def NoneOvertaken (state : Acknowledger) : Op → Prop
  | .recvPacket spaceId packet _ => state.accepts spaceId packet.pktNum = true →
      ∀ key space, state.spaces.get? key = some space → space.Settled
  | _ => True

/-- A step may leave the space with the given key as it is. -/
def Spares (state : Acknowledger) (key : Nat) : Op → Prop
  | .recvPacket spaceId packet _ => state.accepts spaceId packet.pktNum = false
  | .addSpace _ => key ≠ state.nextDataExtId
  | _ => True

/-- What a step makes of the space with the given key. -/
inductive Becomes (state : Acknowledger) (key : Nat) (space : AckSpace) : Op → AckSpace → Prop where
  | kept {op : Op} : Spares state key op → Becomes state key space op space
  | processed {spaceId : SpaceId} {packet : AckPacket} {now : Instant} :
      state.accepts spaceId packet.pktNum = true → key ≠ spaceId.key →
      Becomes state key space (.recvPacket spaceId packet now) space.processAckedFrames
  | received {spaceId : SpaceId} {packet : AckPacket} {now : Instant} :
      state.accepts spaceId packet.pktNum = true → key = spaceId.key →
      Becomes state key space (.recvPacket spaceId packet now)
        ((space.processAckedFrames.recordPacket packet).trySchedule packet.pktNum
          packet.ackEliciting state.ackElicitingThreshold (millis state.maxAckDelay) now)
  | acked {spaceId : SpaceId} {frame : Frame} :
      Becomes state key space (.frameAcked spaceId frame)
        { space with acked := space.acked ++ [frame] }
  | lost {spaceId : SpaceId} {frame : Frame} :
      Becomes state key space (.frameLost spaceId frame)
        { space with lost := space.lost ++ [frame] }
  | processedLost : Becomes state key space .processLostFrames space.processLostFrames
  | wrote {spaceId : SpaceId} {isClosing active : Bool} {room : Nat} {now : Instant}
      {after : AckSpace} :
      space.tryWriteAckFrame isClosing active state.ackDelayExponent room now = .ok after →
      Becomes state key space (.writeAckFrame spaceId isClosing active room now) after
  | expired {now : Instant} : Becomes state key space (.ackTimeout now) (space.onAckTimeout now)
  | discarded {spaceId : SpaceId} : Becomes state key space (.discardSpace spaceId) space.discard

variable {op : Op} {key : Nat} {after : AckSpace}

def Created (state : Acknowledger) (op : Op) (key : Nat) (after : AckSpace) : Prop :=
  ∃ now, op = .addSpace now ∧ key = state.nextDataExtId ∧
    after = .new (.dataExt state.nextDataExtId) now

theorem set_spaces {spaceId : SpaceId} {space changed : AckSpace}
    (found : state.get spaceId = some space)
    (becomes : Becomes state spaceId.key space op changed) (spares : Spares state key op)
    (present : (state.set spaceId changed).spaces.get? key = some after) :
    ∃ space, state.spaces.get? key = some space ∧ Becomes state key space op after := by
  rw [Acknowledger.set, OrdMap.get?_insert] at present
  split_ifs at present with same
  · cases present
    exact ⟨space, same ▸ found, same ▸ becomes⟩
  · exact ⟨after, present, .kept spares⟩

theorem mapValues_spaces {change : AckSpace → AckSpace}
    (present : (state.spaces.mapValues change).get? key = some after)
    (becomes : ∀ space, Becomes state key space op (change space)) :
    ∃ space, state.spaces.get? key = some space ∧ Becomes state key space op after := by
  rw [OrdMap.get?_mapValues] at present
  obtain ⟨space, found, rfl⟩ := Option.map_eq_some_iff.mp present
  exact ⟨space, found, becomes space⟩

/-- What a packet makes of each space. -/
theorem recvPacket_spaces {spaceId : SpaceId} {packet : AckPacket} {now : Instant}
    (present : (state.recvPacket spaceId packet now).spaces.get? key = some after) :
    ∃ space, state.spaces.get? key = some space ∧
      Becomes state key space (.recvPacket spaceId packet now) after := by
  rw [Acknowledger.recvPacket] at present
  split_ifs at present with accepted
  · cases found : state.tryProcessAckedFrames.get spaceId with
    | none =>
      simp only [found] at present
      refine mapValues_spaces present fun space => .processed accepted fun same => ?_
      rw [same] at present
      exact Option.some_ne_none _ (present.symm.trans found)
    | some processed =>
      simp only [found] at present
      rw [Acknowledger.set, OrdMap.get?_insert] at present
      split_ifs at present with same
      · cases present
        have found : (state.spaces.mapValues AckSpace.processAckedFrames).get? spaceId.key =
            some processed := found
        rw [OrdMap.get?_mapValues] at found
        obtain ⟨space, own, rfl⟩ := Option.map_eq_some_iff.mp found
        exact ⟨space, same ▸ own, .received accepted same⟩
      · exact mapValues_spaces present fun space => .processed accepted same
  · exact ⟨after, present, .kept (Bool.eq_false_iff.mpr accepted)⟩

/-- A space that is there after a step was created by it, or became what it is from one before. -/
theorem step_spaces (stepped : state.step op = some next)
    (present : next.spaces.get? key = some after) :
    Created state op key after ∨
      ∃ space, state.spaces.get? key = some space ∧ Becomes state key space op after := by
  cases op with
  | recvPacket spaceId packet now =>
    cases stepped
    exact .inr (recvPacket_spaces present)
  | frameAcked spaceId frame =>
    cases found : state.get spaceId with
    | none => simp [Acknowledger.step, found] at stepped
    | some space =>
      simp only [Acknowledger.step, found] at stepped
      obtain ⟨_, same⟩ := Option.ite_none_right_eq_some.mp stepped
      cases same
      exact .inr (set_spaces found .acked trivial present)
  | frameLost spaceId frame =>
    cases found : state.get spaceId with
    | none => simp [Acknowledger.step, found] at stepped
    | some space =>
      simp only [Acknowledger.step, found] at stepped
      obtain ⟨_, same⟩ := Option.ite_none_right_eq_some.mp stepped
      cases same
      exact .inr (set_spaces found .lost trivial present)
  | processLostFrames =>
    cases stepped
    exact .inr (mapValues_spaces present fun _ => .processedLost)
  | writeAckFrame spaceId isClosing active room now =>
    cases found : state.get spaceId with
    | none =>
      simp only [Acknowledger.step, found] at stepped
      cases stepped
      exact .inr ⟨after, present, .kept trivial⟩
    | some space =>
      simp only [Acknowledger.step, found] at stepped
      split at stepped
      · cases stepped
        exact .inr ⟨after, present, .kept trivial⟩
      · rename_i wrote
        cases stepped
        exact .inr (set_spaces found (.wrote wrote) trivial present)
  | ackTimeout now =>
    cases stepped
    exact .inr (mapValues_spaces present fun _ => .expired)
  | peerParams maxAckDelay =>
    cases stepped
    exact .inr ⟨after, present, .kept trivial⟩
  | addSpace now =>
    cases stepped
    rw [OrdMap.get?_insert] at present
    split_ifs at present with same
    · cases present
      exact .inl ⟨now, rfl, same, rfl⟩
    · exact .inr ⟨after, present, .kept same⟩
  | discardSpace spaceId =>
    cases found : state.get spaceId with
    | none =>
      simp only [Acknowledger.step, found] at stepped
      cases stepped
      exact .inr ⟨after, present, .kept trivial⟩
    | some space =>
      simp only [Acknowledger.step, found] at stepped
      cases stepped
      exact .inr (set_spaces found .discarded trivial present)

theorem Sound.step (sound : state.Sound) (allowed : NoneOvertaken state op)
    (stepped : state.step op = some next) : next.Sound := by
  intro key after present
  obtain ⟨now, -, -, rfl⟩ | ⟨space, found, becomes⟩ := step_spaces stepped present
  · exact .new _ now
  have own := sound key space found
  cases becomes with
  | kept => exact own
  | processed accepted other => exact own.processAckedFrames (allowed accepted key space found)
  | received accepted same =>
    exact (own.processAckedFrames (allowed accepted key space found)).receive _ _ _ _
  | acked => exact ⟨own.limited, own.fits, own.kept, own.due⟩
  | lost => exact ⟨own.limited, own.fits, own.kept, own.due⟩
  | processedLost => exact own.processLostFrames
  | wrote written => exact own.tryWriteAckFrame written
  | expired => exact own.onAckTimeout _
  | discarded => exact ⟨own.limited, own.fits, own.kept, own.due⟩

private theorem Sound.new_spaces (ackElicitingThreshold ackDelayExponent : Nat) (now : Instant) :
    (new ackElicitingThreshold ackDelayExponent now).Sound := by
  intro key space found
  simp only [Acknowledger.new, OrdMap.get?_insert, OrdMap.get?_empty] at found
  split_ifs at found <;> cases found <;> exact AckSpace.Sound.new _ now

/-- While no acknowledged ACK frame is overtaken, a packet that no ACK frame has covered is still in
the set of numbers to acknowledge, and its acknowledgement is due at once or when the timer
expires. -/
theorem unacked_kept {ackElicitingThreshold ackDelayExponent : Nat} {now : Instant}
    {state : Acknowledger} (run : Run step NoneOvertaken
      (.new ackElicitingThreshold ackDelayExponent now) state)
    {spaceId : SpaceId} {space : AckSpace} (found : state.get spaceId = some space)
    {pktNum : Nat} (waits : pktNum ∈ space.history.unacked) :
    pktNum ∈ space.recvPktNumNeedAck ∧ (space.needSendAck = true ∨ space.ackTimer.isSome = true) := by
  have sound : state.Sound := run.invariant (fun _ _ _ sound allowed stepped =>
    Sound.step sound allowed stepped) (.new_spaces _ _ _)
  have own := sound spaceId.key space found
  exact ⟨own.kept pktNum waits, own.due pktNum waits⟩

/-- The packet that arrived out of order waits for the second ACK frame. -/
theorem unacked_kept_late :
    ∃ state space, Run step NoneOvertaken (.new 2 3 0) state ∧ state.get .data = some space ∧
      0 ∈ space.history.unacked ∧ 0 ∈ space.recvPktNumNeedAck ∧
        (space.needSendAck = true ∨ space.ackTimer.isSome = true) := by
  let check : Acknowledger → Op → Bool
    | state, .recvPacket _ _ _ => state.spaces.entries.all (·.2.acked.isEmpty)
    | _, _ => true
  have executed : (exec (checked check step) (.new 2 3 0)
      [.recvPacket .data ⟨1, true, false, 5⟩ 5, .ackTimeout 30000000,
        .writeAckFrame .data false true 1000 30000000,
        .recvPacket .data ⟨0, true, false, 40000000⟩ 40000000]).any (fun state =>
          (state.get .data).any fun space => 0 ∈ space.history.unacked) = true := by
    decide +kernel
  obtain ⟨state, steps, found⟩ := (Option.any_eq_true _ _).mp executed
  obtain ⟨space, present, waits⟩ := (Option.any_eq_true _ _).mp found
  have sound : ∀ state op, check state op = true → NoneOvertaken state op := by
    intro state op passed
    cases op with
    | recvPacket spaceId packet now =>
      intro _ key space found frame member
      have empty := List.all_eq_true.mp passed _ (OrdMap.get?_eq_some_iff.mp found)
      rw [List.isEmpty_iff.mp empty] at member
      cases member
    | _ => trivial
  have run : Run step NoneOvertaken (.new 2 3 0) state := .of_checked sound (.of_exec steps)
  have waits := of_decide_eq_true waits
  exact ⟨state, space, run, present, waits, unacked_kept run present waits⟩

/-- Packet 0 arrives after packet 1 was acknowledged, and is forgotten with the acknowledgement of
that ACK frame, which comes with packet 2. The ACK frame that follows leaves packet 0 out. -/
theorem late_packet_forgotten :
    ¬ ∀ state, Run step anyStep (.new 2 3 0) state → ∀ space, state.get .data = some space →
      ∀ pktNum ∈ space.history.unacked, pktNum ∈ space.recvPktNumNeedAck ∧
        (space.needSendAck = true ∨ space.ackTimer.isSome = true) := by
  have executed : (exec step (.new 2 3 0)
      [.recvPacket .data ⟨1, true, false, 5⟩ 5, .ackTimeout 30000000,
        .writeAckFrame .data false true 1000 30000000,
        .recvPacket .data ⟨0, true, false, 40000000⟩ 40000000,
        .frameAcked .data (.ack 3749 ((RangeSet.new (some maxAckRanges)).addElem 1) none),
        .recvPacket .data ⟨2, true, false, 41000000⟩ 41000000]).any (fun state =>
          (state.get .data).any fun space => 0 ∈ space.history.unacked &&
            !space.recvPktNumNeedAck.contains 0) = true := by
    decide +kernel
  intro kept
  obtain ⟨state, steps, found⟩ := (Option.any_eq_true _ _).mp executed
  obtain ⟨space, present, lost⟩ := (Option.any_eq_true _ _).mp found
  obtain ⟨waits, gone⟩ := Bool.and_eq_true_iff.mp lost
  have member := (kept state (.of_exec steps) space present 0 (of_decide_eq_true waits)).1
  rw [RangeSet.contains_iff.mpr member] at gone
  cases gone

end Acknowledger

end Tquic.Connection
