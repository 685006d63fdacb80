import Tquic.Connection.KeySelection
import Tquic.RangesProperties

/-! When an endpoint may begin a key update: the 1-RTT packets that it sent in each key phase and
the ACK frames of the peer, beside what `key_update_allowed` compares. -/

set_option autoImplicit false

namespace Tquic.Connection

open Lib

variable {Opener Sealer : Type} {crypto : Crypto Opener Sealer}

/-! ## What happens to the first packet of a phase -/

/-- The number of the first packet that was sent is forgotten when a phase ends, and only then. -/
def Spans (session later : TlsSession Opener Sealer) (space after : KeySpace) : Prop :=
  after.largestAckedPkt = space.largestAckedPkt ∧
    (later.currentKeyPhase = session.currentKeyPhase ∧
        after.firstPktNumSent = space.firstPktNumSent ∨
      later.currentKeyPhase ≠ session.currentKeyPhase ∧ after.firstPktNumSent = none)

namespace TlsSession

variable {session : TlsSession Opener Sealer}

theorem updateKey_spans {space : KeySpace} {updated : TlsSession Opener Sealer × KeySpace}
    (moved : session.updateKey crypto space = .ok updated) :
    Spans session updated.1 space updated.2 := by
  unfold updateKey at moved
  cases taken : session.takeNextKey crypto with
  | error error =>
    rw [taken] at moved
    cases moved
  | ok next =>
    rw [taken] at moved
    cases moved
    exact ⟨rfl, .inr ⟨Bool.not_ne_self _, rfl⟩⟩

/-- Selecting a key begins no phase, and a key of the next phase is only selected for a 1-RTT packet
on a connection with one path. -/
theorem selectKey_phase (confirmed enableMultipath : Bool) (hdr : PacketHeader) (space : KeySpace) :
    (session.selectKey crypto confirmed enableMultipath hdr space).2.currentKeyPhase =
        session.currentKeyPhase ∧
      ∀ key, (session.selectKey crypto confirmed enableMultipath hdr space).1 = .ok (key, true) →
        hdr.pktType = .oneRtt ∧ enableMultipath = false := by
  have last : ∀ {keys : Keys Opener Sealer} {key : Opener},
      (openKeyOf keys).map (·, false) ≠ .ok (key, true) := by
    intro keys key
    cases openKeyOf keys with
    | error error => exact fun same => nomatch same
    | ok key => exact fun same => nomatch same
  have prev : ∀ {key : Opener}, session.selectPrev ≠ .ok (key, true) := by
    unfold selectPrev
    cases session.prevKey with
    | none => exact fun same => nomatch same
    | some keys => exact last
  unfold selectKey
  split
  case isTrue current =>
    split
    · exact ⟨rfl, fun _ same => nomatch same⟩
    · exact ⟨rfl, fun _ same => absurd same last⟩
  case isFalse other =>
    have known : hdr.pktType = .oneRtt ∧ enableMultipath = false := by
      simpa using And.intro (fun kind => other (.inr (.inl kind)))
        (fun multipath => other (.inr (.inr (.inr multipath))))
    split
    · split
      · refine ⟨?_, fun _ _ => known⟩
        unfold selectNext
        cases session.takeNextKey crypto with
        | error error => rfl
        | ok next => rfl
      · exact ⟨rfl, fun _ same => absurd same prev⟩
    · exact ⟨rfl, fun _ same => absurd same prev⟩

theorem noteFirst_sent (timer : Option Instant) (space : KeySpace) (hdr : PacketHeader)
    (now : Instant) (maxPto : Option Duration) :
    (session.noteFirst timer space hdr now maxPto).1.firstPktNumSent = space.firstPktNumSent ∧
      (session.noteFirst timer space hdr now maxPto).1.largestAckedPkt = space.largestAckedPkt := by
  unfold noteFirst
  split
  · exact ⟨rfl, rfl⟩
  · exact ⟨rfl, rfl⟩

end TlsSession

namespace KeyConn

variable {conn next : KeyConn Opener Sealer}

/-- What a step does to the space of the application data. -/
def Moves (conn next : KeyConn Opener Sealer) : Prop :=
  Spans conn.tls next.tls (conn.spaces .data) (next.spaces .data)

theorem Moves.of_same (phase : next.tls.currentKeyPhase = conn.tls.currentKeyPhase)
    (space : next.spaces .data = conn.spaces .data) : Moves conn next :=
  ⟨by rw [space], .inl ⟨phase, by rw [space]⟩⟩

theorem accept_moves {unmasked : Unmasked} {tls : TlsSession Opener Sealer} {space : KeySpace}
    {session : TlsSession Opener Sealer} (attempt : Bool) (timer : Option Instant)
    (here : unmasked.spaceId = .data → Spans conn.tls tls (conn.spaces .data) space)
    (elsewhere : unmasked.spaceId ≠ .data → tls.currentKeyPhase = conn.tls.currentKeyPhase) :
    Moves conn ({ conn with tls := session }.accept unmasked attempt tls space timer) := by
  unfold Moves accept setSpace
  dsimp only
  by_cases data : unmasked.spaceId = .data
  · rw [data, Function.update_self]
    exact here data
  · rw [Function.update_of_ne (Ne.symm data)]
    exact ⟨rfl, .inl ⟨elsewhere data, rfl⟩⟩

private theorem openPacket_moves (packet : PacketIn) {unmasked : Unmasked} (now : Instant)
    (maxPto : Option Duration)
    (home : unmasked.hdr.pktType = .oneRtt → conn.enableMultipath = false →
      unmasked.spaceId = .data) :
    Moves conn (conn.openPacket crypto packet unmasked now maxPto).2 := by
  obtain ⟨phase, attempts⟩ := @TlsSession.selectKey_phase _ _ crypto conn.tls
    conn.confirmed conn.enableMultipath unmasked.hdr (conn.spaces unmasked.spaceId)
  unfold openPacket KeyConn.selectKey
  generalize conn.tls.selectKey crypto conn.confirmed conn.enableMultipath unmasked.hdr
    (conn.spaces unmasked.spaceId) = selected at phase attempts
  obtain ⟨result, tls⟩ := selected
  dsimp only at phase attempts ⊢
  have refused : Moves conn { conn with tls } := .of_same phase rfl
  cases result with
  | error error => exact refused
  | ok pair =>
    obtain ⟨key, attempt⟩ := pair
    dsimp only
    cases conn.decryptPayload crypto packet unmasked key with
    | error error => exact refused
    | ok payload =>
      dsimp only
      split_ifs
      · exact refused
      · unfold TlsSession.tryUpdateKey
        cases attempt with
        | false =>
          refine accept_moves false _ (fun data => ?_) fun _ => phase
          rw [data]
          obtain ⟨sent, largest⟩ := tls.noteFirst_sent conn.keyDiscardTimer
            (conn.spaces .data) unmasked.hdr now maxPto
          exact ⟨largest, .inl ⟨phase, sent⟩⟩
        | true =>
          have data := (attempts key rfl).elim home
          simp only [if_true]
          cases moved : tls.updateKey crypto (conn.spaces unmasked.spaceId) with
          | error error => exact refused
          | ok updated =>
            refine accept_moves true _ (fun _ => ?_) fun other => absurd data other
            rw [data] at moved
            obtain ⟨largest, ends⟩ := TlsSession.updateKey_spans moved
            obtain ⟨sent, still⟩ := updated.1.noteFirst_sent conn.keyDiscardTimer
              updated.2 unmasked.hdr now maxPto
            rw [Spans, sent, still, ← phase]
            exact ⟨largest, ends⟩

private theorem recvPacket_moves (packet : PacketIn) (now : Instant) (maxPto : Option Duration) :
    Moves conn (conn.recvPacket crypto packet now maxPto).2 := by
  unfold recvPacket
  cases packet.pktType.toLevel with
  | error error => exact .of_same rfl rfl
  | ok level =>
    dsimp only
    cases (conn.tls.keyCollection level).openKey with
    | none => exact .of_same rfl rfl
    | some key =>
      dsimp only
      cases removed : conn.unmask crypto packet key with
      | error error => exact .of_same rfl rfl
      | ok unmasked =>
        obtain ⟨kind, _, located⟩ := unmask_short removed
        refine openPacket_moves packet now maxPto fun oneRtt single => ?_
        rw [getSpaceId, single, ← kind, oneRtt, if_neg (fun both => nomatch both.1)] at located
        exact (Except.ok.inj located).symm

theorem setSpace_moves {spaceId : SpaceId} {space : KeySpace}
    (same : spaceId = .data → space.largestAckedPkt = (conn.spaces .data).largestAckedPkt ∧
      space.firstPktNumSent = (conn.spaces .data).firstPktNumSent) :
    Moves conn (conn.setSpace spaceId space) := by
  unfold Moves setSpace
  by_cases data : spaceId = .data
  · obtain ⟨largest, sent⟩ := same data
    dsimp only
    rw [data, Function.update_self]
    exact ⟨largest, .inl ⟨rfl, sent⟩⟩
  · dsimp only
    rw [Function.update_of_ne (Ne.symm data)]
    exact ⟨rfl, .inl ⟨rfl, rfl⟩⟩

private theorem initiateKeyUpdate_moves {updated : TlsSession Opener Sealer × KeySpace}
    (initiated : conn.tls.initiateKeyUpdate crypto (conn.spaces .data) conn.enableMultipath =
      .ok updated) (readKeys : List Opener) :
    Moves conn { conn.setSpace .data updated.2 with
      tls := updated.1, readKeys, received := [] } := by
  unfold TlsSession.initiateKeyUpdate at initiated
  split_ifs at initiated
  unfold Moves setSpace
  dsimp only
  rw [Function.update_self]
  exact TlsSession.updateKey_spans initiated

/-- No packet of the application data is sent or acknowledged. -/
def others : Op Opener Sealer → Bool
  | .sendOneRtt spaceId _ => spaceId ≠ .data
  | .acked spaceId _ => spaceId ≠ .data
  | _ => true

/-- What other operations do to the phase and the space of the application data. -/
theorem step_moves {op : Op Opener Sealer} (other : others op = true)
    (stepped : conn.step crypto op = some next) : Moves conn next := by
  cases op with
  | recvPacket packet now maxPto =>
    cases stepped
    exact recvPacket_moves packet now maxPto
  | recordPacket =>
    dsimp only [step] at stepped
    split at stepped
    · cases stepped
    · cases stepped
      refine setSpace_moves fun data => ?_
      rw [data]
      exact ⟨rfl, rfl⟩
  | abortPacket =>
    dsimp only [step] at stepped
    split at stepped
    · cases stepped
    · cases stepped
      exact .of_same rfl rfl
  | setReadSecret level key =>
    dsimp only [step] at stepped
    split_ifs at stepped
    · cases stepped
      exact .of_same rfl rfl
    · cases stepped
      exact .of_same rfl rfl
  | setWriteSecret level key =>
    dsimp only [step] at stepped
    split_ifs at stepped
    cases stepped
    exact .of_same rfl rfl
  | dropKeys level =>
    dsimp only [step] at stepped
    split_ifs at stepped
    cases stepped
    exact .of_same rfl rfl
  | confirm =>
    dsimp only [step] at stepped
    split_ifs at stepped
    cases stepped
    exact .of_same rfl rfl
  | enableMultipath =>
    cases stepped
    exact .of_same rfl rfl
  | initiateKeyUpdate =>
    dsimp only [step] at stepped
    cases initiated : conn.tls.initiateKeyUpdate crypto (conn.spaces .data)
        conn.enableMultipath with
    | error error =>
      rw [initiated] at stepped
      cases stepped
      exact .of_same rfl rfl
    | ok updated =>
      rw [initiated] at stepped
      cases stepped
      exact initiateKeyUpdate_moves initiated _
  | sendOneRtt spaceId pktNum =>
    cases stepped
    exact setSpace_moves fun data => absurd data (by simpa [others] using other)
  | acked spaceId largest =>
    cases stepped
    exact setSpace_moves fun data => absurd data (by simpa [others] using other)
  | timeout now =>
    dsimp only [step] at stepped
    split at stepped
    · split_ifs at stepped
      · cases stepped
        exact .of_same rfl rfl
      · cases stepped
        exact .of_same rfl rfl
    · cases stepped
      exact .of_same rfl rfl

end KeyConn

/-- A 1-RTT packet that was sent. -/
structure PhasePacket where
  -- How many updates of the keys came before.
  phase : Nat
  pktNum : Nat
  deriving DecidableEq

/-- The keys of a connection, and what was sent and acknowledged under them in the space of the
application data. -/
structure PhaseConn (Opener Sealer : Type) where
  keys : KeyConn Opener Sealer
  nextPktNum : Nat
  inEarlyData : Bool
  -- History. No function reads it.
  phase : Nat
  sent : List PhasePacket
  acked : List RangeSet

namespace PhaseConn

def start (disableEncryption : Bool) : PhaseConn Opener Sealer :=
  { keys := .start disableEncryption
    nextPktNum := 0
    inEarlyData := true
    phase := 0
    sent := []
    acked := [] }

inductive Op (Opener Sealer : Type) where
  /-- Anything else that happens to the keys, the update of either side included. -/
  | keys (op : KeyConn.Op Opener Sealer)
  | endEarlyData
  | sendZeroRtt
  | sendOneRtt
  | recvAck (ranges : RangeSet)

/-- Both kinds of packets take their numbers from one space. TLS ends the early data before it gives
the keys of 1-RTT packets. No packet is sent when the numbers are used up. -/
def step (crypto : Crypto Opener Sealer) (conn : PhaseConn Opener Sealer) :
    Op Opener Sealer → Option (PhaseConn Opener Sealer)
  | .keys op =>
    if KeyConn.others op then
      (conn.keys.step crypto op).map fun keys =>
        { conn with
          keys
          phase :=
            if keys.tls.currentKeyPhase = conn.keys.tls.currentKeyPhase then conn.phase
            else conn.phase + 1 }
    else none
  | .endEarlyData => some { conn with inEarlyData := false }
  | .sendZeroRtt =>
    if conn.inEarlyData && conn.nextPktNum < u64Max then
      some { conn with nextPktNum := conn.nextPktNum + 1 }
    else none
  | .sendOneRtt =>
    if !conn.inEarlyData && conn.nextPktNum < u64Max then
      (conn.keys.step crypto (.sendOneRtt .data conn.nextPktNum)).map fun keys =>
        { conn with
          keys
          nextPktNum := conn.nextPktNum + 1
          sent := ⟨conn.phase, conn.nextPktNum⟩ :: conn.sent }
    else none
  | .recvAck ranges =>
    match ranges.max with
    | none => none
    | some largest =>
      (conn.keys.step crypto (.acked .data largest)).map fun keys =>
        { conn with keys, acked := ranges :: conn.acked }

/-- The call of `initiate_key_update` succeeds. -/
def Initiates (crypto : Crypto Opener Sealer) (conn : PhaseConn Opener Sealer) : Prop :=
  ∃ updated, conn.keys.tls.initiateKeyUpdate crypto (conn.keys.spaces .data)
    conn.keys.enableMultipath = .ok updated

/-- The peer has acknowledged a packet that was sent in the current key phase. -/
def Confirmed (conn : PhaseConn Opener Sealer) : Prop :=
  ∃ packet ∈ conn.sent, packet.phase = conn.phase ∧
    ∃ ranges ∈ conn.acked, packet.pktNum ∈ ranges

/-- An ACK frame acknowledges nothing that was not sent yet. -/
def AcksSent (conn : PhaseConn Opener Sealer) : Op Opener Sealer → Prop
  | .recvAck ranges => ∀ pktNum ∈ ranges, pktNum < conn.nextPktNum
  | _ => True

/-- Some packet of the space was acknowledged, in whatever key phase. -/
def SomeAcked (conn : PhaseConn Opener Sealer) : Prop :=
  (conn.keys.spaces .data).largestAckedPkt ≠ u64Max

variable {conn next : PhaseConn Opener Sealer}

/-- All packets from the first one of the phase on were sent in it, and the largest acknowledged
number is one that an ACK frame has named. -/
structure Kept (conn : PhaseConn Opener Sealer) : Prop where
  within : conn.nextPktNum ≤ u64Max
  early : conn.inEarlyData = true → (conn.keys.spaces .data).firstPktNumSent = none
  sent : ∀ first, (conn.keys.spaces .data).firstPktNumSent = some first →
    ∀ pktNum, first ≤ pktNum → pktNum < conn.nextPktNum → ⟨conn.phase, pktNum⟩ ∈ conn.sent
  largest : (conn.keys.spaces .data).largestAckedPkt = u64Max ∧ conn.acked = [] ∨
    (conn.keys.spaces .data).largestAckedPkt < conn.nextPktNum ∧
      ∃ ranges ∈ conn.acked, (conn.keys.spaces .data).largestAckedPkt ∈ ranges

private theorem start_kept (disableEncryption : Bool) :
    Kept (start disableEncryption : PhaseConn Opener Sealer) where
  within := Nat.zero_le _
  early _ := rfl
  sent _ found := nomatch found
  largest := .inl ⟨rfl, rfl⟩

section

variable (kept : Kept conn)

include kept

theorem Kept.keys {keys : KeyConn Opener Sealer} {phase : Nat} (moves : conn.keys.Moves keys)
    (same : keys.tls.currentKeyPhase = conn.keys.tls.currentKeyPhase → phase = conn.phase) :
    Kept { conn with keys, phase } := by
  obtain ⟨largest, spans⟩ := moves
  refine ⟨kept.within, fun early => ?_, fun first found => ?_, ?_⟩
  · rcases spans with ⟨_, still⟩ | ⟨_, forgotten⟩
    · exact still.trans (kept.early early)
    · exact forgotten
  · rcases spans with ⟨phase, still⟩ | ⟨_, forgotten⟩
    · rw [same phase]
      exact kept.sent first (still ▸ found)
    · cases forgotten.symm.trans found
  · dsimp only
    rw [largest]
    exact kept.largest

theorem Kept.sendZeroRtt (early : conn.inEarlyData = true)
    (room : conn.nextPktNum < u64Max) : Kept { conn with nextPktNum := conn.nextPktNum + 1 } where
  within := room
  early := kept.early
  sent _ found := nomatch (kept.early early).symm.trans found
  largest := kept.largest.imp_right fun known => ⟨Nat.lt_succ_of_lt known.1, known.2⟩

/-- A packet is sent in the current phase under the next number. -/
theorem Kept.sendOneRtt (late : conn.inEarlyData = false)
    (room : conn.nextPktNum < u64Max) {keys : KeyConn Opener Sealer}
    (stepped : conn.keys.step crypto (.sendOneRtt .data conn.nextPktNum) = some keys) :
    Kept { conn with
      keys, nextPktNum := conn.nextPktNum + 1, sent := ⟨conn.phase, conn.nextPktNum⟩ :: conn.sent } := by
  cases stepped
  refine ⟨room, fun early => ?_, fun first found pktNum above below => ?_, ?_⟩
  · exact absurd (late.symm.trans early) (by decide)
  · dsimp only [KeyConn.setSpace] at found below ⊢
    rw [Function.update_self] at found
    rcases Nat.lt_succ_iff_lt_or_eq.mp below with earlier | rfl
    · refine List.mem_cons_of_mem _ (kept.sent first ?_ pktNum above earlier)
      cases known : (conn.keys.spaces .data).firstPktNumSent with
      | none =>
        -- the first packet of the phase is the one that is sent now
        rw [known] at found
        cases found
        exact absurd above (Nat.not_le_of_lt earlier)
      | some _ =>
        rw [known] at found
        exact found
    · exact List.mem_cons_self
  · dsimp only [KeyConn.setSpace]
    rw [Function.update_self]
    exact kept.largest.imp_right fun known => ⟨Nat.lt_succ_of_lt known.1, known.2⟩

/-- The largest acknowledged number is one that an ACK frame names. -/
theorem Kept.recvAck {ranges : RangeSet} {largest : Nat}
    (greatest : ranges.max = some largest) (below : largest < conn.nextPktNum)
    {keys : KeyConn Opener Sealer}
    (stepped : conn.keys.step crypto (.acked .data largest) = some keys) :
    Kept { conn with keys, acked := ranges :: conn.acked } := by
  have named := (RangeSet.max_spec greatest).1
  cases stepped
  refine ⟨kept.within, fun early => ?_, fun first found => ?_, .inr ?_⟩
  · dsimp only [KeyConn.setSpace]
    rw [Function.update_self]
    exact kept.early early
  · dsimp only [KeyConn.setSpace] at found
    rw [Function.update_self] at found
    exact kept.sent first found
  · dsimp only [KeyConn.setSpace]
    rw [Function.update_self]
    dsimp only
    split_ifs with unset
    · exact ⟨below, ranges, List.mem_cons_self, named⟩
    · obtain ⟨known, earlier, member, inside⟩ := kept.largest.resolve_left fun none => unset none.1
      refine ⟨max_lt known below, ?_⟩
      rcases Nat.le_total (conn.keys.spaces .data).largestAckedPkt largest with less | more
      · rw [max_eq_right less]
        exact ⟨ranges, List.mem_cons_self, named⟩
      · rw [max_eq_left more]
        exact ⟨earlier, List.mem_cons_of_mem _ member, inside⟩

private theorem step_kept {op : Op Opener Sealer} (acks : AcksSent conn op)
    (stepped : step crypto conn op = some next) : Kept next := by
  cases op with
  | keys op =>
    obtain ⟨other, moved⟩ := Option.ite_none_right_eq_some.mp stepped
    obtain ⟨keys, performed, rfl⟩ := Option.map_eq_some_iff.mp moved
    exact kept.keys (KeyConn.step_moves other performed) fun same => if_pos same
  | endEarlyData =>
    cases stepped
    exact ⟨kept.within, fun early => (nomatch early), kept.sent, kept.largest⟩
  | sendZeroRtt =>
    obtain ⟨allowed, moved⟩ := Option.ite_none_right_eq_some.mp stepped
    cases moved
    simp only [Bool.and_eq_true, decide_eq_true_eq] at allowed
    exact kept.sendZeroRtt allowed.1 allowed.2
  | sendOneRtt =>
    obtain ⟨allowed, moved⟩ := Option.ite_none_right_eq_some.mp stepped
    obtain ⟨keys, performed, rfl⟩ := Option.map_eq_some_iff.mp moved
    simp only [Bool.and_eq_true, Bool.not_eq_true', decide_eq_true_eq] at allowed
    exact kept.sendOneRtt allowed.1 allowed.2 performed
  | recvAck ranges =>
    dsimp only [step] at stepped
    cases greatest : ranges.max with
    | none =>
      rw [greatest] at stepped
      cases stepped
    | some largest =>
      rw [greatest] at stepped
      obtain ⟨keys, performed, rfl⟩ := Option.map_eq_some_iff.mp stepped
      exact kept.recvAck greatest (acks largest (RangeSet.max_spec greatest).1) performed

private theorem Kept.confirmed_iff (initiates : Initiates crypto conn) :
    Confirmed conn ↔ SomeAcked conn := by
  constructor
  · rintro ⟨_, _, _, ranges, member, _⟩
    rcases kept.largest with ⟨_, empty⟩ | ⟨below, _⟩
    · rw [empty] at member
      cases member
    · exact Nat.ne_of_lt (Nat.lt_of_lt_of_le below kept.within)
  · intro acked
    obtain ⟨below, ranges, member, named⟩ := kept.largest.resolve_left fun none => acked none.1
    obtain ⟨updated, initiated⟩ := initiates
    obtain ⟨allowed, _⟩ := (ite_eq_iff.mp initiated).resolve_right fun refused => nomatch refused.2
    unfold TlsSession.keyUpdateAllowed at allowed
    split_ifs at allowed
    cases known : (conn.keys.spaces .data).firstPktNumSent with
    | none =>
      rw [known] at allowed
      cases allowed
    | some first =>
      rw [known] at allowed
      exact ⟨_, kept.sent first known _ (of_decide_eq_true allowed) below, rfl, ranges, member, named⟩

end

/-- In every run in which ACK frames acknowledge sent packets only, a key update that is begun is
confirmed exactly if any packet of the space was acknowledged before. -/
theorem update_confirmed_iff {disableEncryption : Bool} {conn : PhaseConn Opener Sealer}
    (run : Run (step crypto) AcksSent (start disableEncryption) conn)
    (initiates : Initiates crypto conn) : Confirmed conn ↔ SomeAcked conn :=
  (run.invariant (fun _ _ _ kept acks stepped => step_kept kept acks stepped)
    (start_kept disableEncryption)).confirmed_iff initiates

def firstSent : List (Op Nat Nat) :=
  [.keys (.setReadSecret .oneRtt 0), .keys (.setWriteSecret .oneRtt 0), .keys .confirm,
    .endEarlyData, .sendOneRtt]

def after (ops : List (Op Nat Nat)) : PhaseConn Nat Nat :=
  (exec (step KeyConn.phaseCrypto) (start false) ops).getD (start false)

/-- Before anything was acknowledged, the packet that was sent seems to be. -/
theorem unconfirmed_update_initiated :
    ¬ ∀ conn : PhaseConn Nat Nat, Run (step KeyConn.phaseCrypto) anyStep (start false) conn →
      Initiates KeyConn.phaseCrypto conn → Confirmed conn := by
  intro always
  have executed : exec (step KeyConn.phaseCrypto) (start false) firstSent =
      some (after firstSent) := rfl
  obtain ⟨_, _, _, _, member, _⟩ := always _ (.of_exec executed) ⟨_, rfl⟩
  cases member

def twiceConfirmed : List (Op Nat Nat) :=
  firstSent ++ [.recvAck (RangeSet.default.insert ⟨0, 1⟩), .keys .initiateKeyUpdate, .sendOneRtt,
    .recvAck (RangeSet.default.insert ⟨0, 2⟩)]

def acksSent (conn : PhaseConn Nat Nat) : Op Nat Nat → Bool
  | .recvAck ranges => ranges.max.any (· < conn.nextPktNum)
  | _ => true

theorem acksSent_sound (conn : PhaseConn Nat Nat) (op : Op Nat Nat)
    (passed : acksSent conn op = true) : AcksSent conn op := by
  cases op with
  | recvAck ranges =>
    intro pktNum member
    cases greatest : ranges.max with
    | none =>
      rw [acksSent, greatest] at passed
      cases passed
    | some largest =>
      rw [acksSent, greatest] at passed
      exact Nat.lt_of_le_of_lt ((RangeSet.max_spec greatest).2 pktNum member)
        (of_decide_eq_true passed)
  | _ => trivial

theorem update_confirmed_second :
    Confirmed (after twiceConfirmed) ↔ SomeAcked (after twiceConfirmed) := by
  have executed : exec (checked acksSent (step KeyConn.phaseCrypto)) (start false) twiceConfirmed =
      some (after twiceConfirmed) := rfl
  exact update_confirmed_iff (.of_checked acksSent_sound (.of_exec executed)) ⟨_, rfl⟩

end PhaseConn

end Tquic.Connection
