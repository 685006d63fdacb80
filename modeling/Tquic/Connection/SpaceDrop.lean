import Tquic.Connection.CryptoStreams
import Tquic.Connection.InFlightAccounting

/-! What is left of a packet number space when its keys are dropped. Its packets are taken off the
counters of the active path, wherever they were sent, and the end of the Handshake space clears the
crypto stream of the Initial level. -/

set_option autoImplicit false

namespace Tquic.Connection

open Lib Recovery

/-! ## Packets after a step of loss recovery -/

section Packets

variable {φ : Type}

/-- A packet is an earlier one, which may have been acknowledged or declared lost since. -/
structure SentPacket.Stems (pkt old : SentPacket φ) : Prop where
  pktNum : pkt.pktNum = old.pktNum
  ackEliciting : pkt.ackEliciting = old.ackEliciting
  inFlight : pkt.inFlight = old.inFlight

theorem SentPacket.Stems.refl (pkt : SentPacket φ) : pkt.Stems pkt := ⟨rfl, rfl, rfl⟩

namespace Sender

theorem Settles.stems {covered : Nat → Prop} {space after : PacketNumSpace φ}
    {acked lost removed : List (SentPacket φ)}
    (settles : Settles covered space after acked lost removed) {pkt : SentPacket φ}
    (member : pkt ∈ after.sent) : ∃ old ∈ space.sent, pkt.Stems old := by
  obtain ⟨now, middle, ackPass, lossPass⟩ := settles.passes
  have former : ∀ earlier ∈ middle, ∃ old ∈ space.sent, earlier.Stems old := by
    intro earlier present
    rcases ackPass.mem_after present with same | ⟨old, chosen, rfl⟩
    · exact ⟨earlier, same, .refl earlier⟩
    · exact ⟨old, (ackPass.chosen_eligible chosen).1, rfl, rfl, rfl⟩
  rcases lossPass.mem_after (List.mem_append_right removed member) with same | ⟨old, chosen, rfl⟩
  · exact former pkt same
  · obtain ⟨first, present, stems⟩ := former old (lossPass.chosen_eligible chosen).1
    exact ⟨first, present, stems.pktNum, stems.ackEliciting, stems.inFlight⟩

variable {sender next : Sender φ} {op : Op φ}

theorem Effect.stems (effect : Effect sender op next) {entry : Nat × PacketNumSpace φ}
    (member : entry ∈ next.spaces.spaces) {pkt : SentPacket φ} (waits : pkt ∈ entry.2.sent) :
    (∃ old ∈ sender.spaces.spaces, old.1 = entry.1 ∧ ∃ earlier ∈ old.2.sent, pkt.Stems earlier) ∨
      ∃ fresh spaceId status now, op = .packetSent fresh spaceId status now ∧
        built fresh = true ∧ entry.1 = spaceId.key ∧ pkt.Stems fresh := by
  -- A space whose packets stem from those that it had, and the others as they were.
  have update : ∀ {spaceId : SpaceId} {space after : PacketNumSpace φ},
      sender.spaces.get spaceId = some space →
      entry ∈ (sender.spaces.set spaceId after).spaces →
      (∀ pkt ∈ after.sent, ∃ old ∈ space.sent, pkt.Stems old) →
      ∃ old ∈ sender.spaces.spaces, old.1 = entry.1 ∧ ∃ earlier ∈ old.2.sent, pkt.Stems earlier := by
    intro spaceId space after found changed stems
    rcases OrdMap.mem_insert.mp changed with rfl | ⟨kept, _⟩
    · exact ⟨_, OrdMap.get?_eq_some_iff.mp found, rfl, stems pkt waits⟩
    · exact ⟨entry, kept, rfl, pkt, waits, .refl pkt⟩
  cases effect with
  | still => exact .inl ⟨entry, member, rfl, pkt, waits, .refl pkt⟩
  | @sent fresh pkt' spaceId status now space after recovery found valid same sent _ _ _ _ _ =>
    rcases OrdMap.mem_insert.mp member with rfl | ⟨kept, _⟩
    · dsimp only at waits
      rw [sent, List.mem_append, List.mem_singleton] at waits
      rcases waits with earlier | rfl
      · exact .inl ⟨_, OrdMap.get?_eq_some_iff.mp found, rfl, pkt, earlier, .refl pkt⟩
      · rw [same]
        exact .inr ⟨fresh, spaceId, status, now, rfl, valid, rfl, rfl, rfl, rfl⟩
    · exact .inl ⟨entry, kept, rfl, pkt, waits, .refl pkt⟩
  | settled found settles _ _ => exact .inl (update found member fun _ present => settles.stems present)
  | probed found sent _ _ _ _ _ =>
    refine .inl (update found member fun other present => ?_)
    rw [sent] at present
    exact ⟨other, present, .refl other⟩
  | discarded found sent _ _ =>
    refine .inl (update found member fun other present => ?_)
    rw [sent] at present
    cases present
  | added =>
    rcases OrdMap.mem_insert.mp member with rfl | ⟨kept, _⟩
    · cases waits
    · exact .inl ⟨entry, kept, rfl, pkt, waits, .refl pkt⟩
  | ackedProcessed found =>
    exact .inl (update found member fun other present => ⟨other, present, .refl other⟩)
  | lostProcessed found =>
    exact .inl (update found member fun other present => ⟨other, present, .refl other⟩)

theorem Effect.keeps (effect : Effect sender op next) {spaceId : SpaceId}
    (present : (sender.spaces.get spaceId).isSome = true) :
    (next.spaces.get spaceId).isSome = true := by
  have insert : ∀ (key : Nat) (space : PacketNumSpace φ),
      ((sender.spaces.spaces.insert key space).get? spaceId.key).isSome = true := by
    intro key space
    rw [OrdMap.get?_insert]
    split_ifs
    · rfl
    · exact present
  cases effect with
  | still => exact present
  | sent => exact insert _ _
  | settled => exact insert _ _
  | probed => exact insert _ _
  | discarded => exact insert _ _
  | added => exact insert _ _
  | ackedProcessed => exact insert _ _
  | lostProcessed => exact insert _ _

end Sender

end Packets

/-! ## The first path -/

/-- A path that stays active: it was validated from the beginning, so that neither the response to
a challenge nor its timeout touches it. -/
def Path.Steady (path : Path) : Prop := path.active = true ∧ path.state = .validated

namespace PathMap

def FirstSteady (map : PathMap) : Prop := ∃ path, map.get 0 = some path ∧ path.Steady

variable {map next : PathMap}

theorem FirstSteady.active (first : map.FirstSteady) : map.getActivePathId = .ok 0 := by
  obtain ⟨path, stored, active, _⟩ := first
  obtain ⟨rest, paths⟩ : ∃ rest, map.paths = path :: rest := by
    unfold PathMap.get at stored
    cases found : map.paths with
    | nil => simp [found] at stored
    | cons head rest =>
      rw [found] at stored
      cases stored
      exact ⟨rest, rfl⟩
  unfold getActivePathId
  rw [paths, List.findIdx?_cons, active]
  rfl

theorem FirstSteady.insertPath (first : map.FirstSteady) {path : Path} {pathId : Nat}
    (inserted : map.insertPath path = .ok (pathId, next)) : pathId ≠ 0 := by
  obtain ⟨head, present, active, kept⟩ := first
  unfold PathMap.get at present
  obtain ⟨less, _⟩ := List.getElem?_eq_some_iff.mp present
  rintro rfl
  unfold PathMap.insertPath at inserted
  split at inserted
  · split at inserted
    · cases inserted
    case h_2 found =>
      cases inserted
      obtain ⟨bound, unused, _⟩ := List.findIdx?_eq_some_iff_getElem.mp found
      rw [List.getElem?_eq_getElem bound] at present
      cases present
      rw [Path.unused, active] at unused
      cases unused
  · obtain ⟨empty, _⟩ := Prod.mk.inj (Except.ok.inj inserted)
    omega

end PathMap

theorem Path.Steady.promoteTo {path : Path} (steady : path.Steady) (state : PathState) :
    path.promoteTo state = path := by
  unfold Path.promoteTo
  rw [if_neg]
  rw [steady.2]
  cases state with
  | _ => decide

namespace ValidationRun

variable {run next : ValidationRun} {op : Op}

/-- No slot is given up. -/
theorem step_length (stepped : run.step op = some next) :
    run.map.paths.length ≤ next.map.paths.length := by
  have limited (pathId : Nat) (change : Nat → Nat) :
      run.map.paths.length ≤ (run.map.updateLimit pathId change).paths.length := by
    unfold PathMap.updateLimit
    split
    · exact Nat.le_refl _
    · exact (List.length_modify _ _ _).ge
  cases op with
  | insertPath localAddr remoteAddr maxDatagramSize scidSeq dcidSeq limit =>
    unfold step PathMap.insertPath at stepped
    dsimp only at stepped
    split at stepped
    · cases stepped
    case h_2 inserted =>
      cases stepped
      split at inserted
      · split at inserted
        · cases inserted
        · cases inserted
          exact List.length_set.ge
      · cases inserted
        dsimp only
        rw [List.length_append]
        exact Nat.le_add_right _ _
  | chalSent pathId data pktSize sentTime =>
    unfold step PathMap.onPathChalSent at stepped
    cases stored : run.map.get pathId with
    | none => simp [stored] at stepped
    | some path =>
      simp only [stored, Option.some.injEq] at stepped
      subst stepped
      exact List.length_set.ge
  | chalTimeout now =>
    cases stepped
    exact (List.length_map _).ge
  | respReceived pathId data =>
    cases stepped
    unfold PathMap.onPathRespReceived
    cases run.map.get pathId with
    | none => exact Nat.le_refl _
    | some path => exact List.length_set.ge
  | received pathId pktLen =>
    cases stepped
    exact limited pathId _
  | sent pathId pktLen =>
    cases stepped
    exact limited pathId _
  | enableMultipath =>
    cases stepped
    exact Nat.le_refl _
  | initiateChal | chalReceived | popRecvChal | verifyAddress | assignDcid | assignScid =>
    cases stepped
    exact (List.length_modify _ _ _).ge

/-- No operation on the paths changes the standing of the first one. -/
theorem step_steady (stepped : run.step op = some next) (first : run.map.FirstSteady) :
    next.map.FirstSteady := by
  obtain ⟨head, present, steady⟩ := id first
  obtain ⟨less, _⟩ := List.getElem?_eq_some_iff.mp present
  obtain ⟨path, found⟩ : ∃ path, next.map.get 0 = some path :=
    ⟨_, List.getElem?_eq_getElem (less.trans_le (step_length stepped))⟩
  refine ⟨path, found, ?_⟩
  cases step_effect stepped found with
  | created _ inserted => exact absurd rfl (first.insertPath inserted)
  | kept stored same _ =>
    cases stored.symm.trans present
    exact ⟨same.active.trans steady.1, same.state.trans steady.2⟩
  | challenged stored _ result _ =>
    cases stored.symm.trans present
    rw [result]
    unfold Path.onPathChalSent
    rw [steady.promoteTo]
    exact steady
  | timedOut stored result _ =>
    cases stored.symm.trans present
    have settled : head.state ≠ .validating ∧ head.state ≠ .validatingMtu := by
      rw [steady.2]
      decide
    rw [result, Path.onPathChalTimeout, if_pos settled]
    exact steady
  | answered stored result _ =>
    cases stored.symm.trans present
    rw [result]
    unfold Path.onPathRespReceived Path.isValidated
    rw [steady.2]
    exact steady

end ValidationRun

/-! ## Steps of a connection -/

namespace SpaceConn

variable {Opener Sealer : Type} {conn next : SpaceConn Opener Sealer} {op : Op Opener Sealer}

/-- An operation of loss recovery on the path in a slot. -/
structure Recovers (conn : SpaceConn Opener Sealer) (pathId : Nat) (op : Sender.Op Frame)
    (next : SpaceConn Opener Sealer) : Prop where
  effect : Sender.Effect ⟨conn.recovery pathId, conn.spaces⟩ op ⟨next.recovery pathId, next.spaces⟩
  others : ∀ other, other ≠ pathId → next.recovery other = conn.recovery other
  paths : next.paths = conn.paths
  sentOn : next.sentOn = conn.sentOn

theorem recover_spec {pathId : Nat} {op : Sender.Op Frame}
    (stepped : conn.recover pathId op = some next) : conn.Recovers pathId op next := by
  obtain ⟨sender, moved, rfl⟩ := Option.map_eq_some_iff.mp stepped
  refine ⟨?_, fun other different => Function.update_of_ne different _ _, rfl, rfl⟩
  dsimp only
  rw [Function.update_self]
  exact Sender.step_effect _ moved

variable {sid : SpaceId} {level : Level}

theorem dropSpaceState_recover (first : conn.paths.map.FirstSteady)
    (known : dropLevel sid = some level)
    (keys : (conn.tls.keyCollection level).openKey.isSome = true) (now : Instant) :
    recover { conn with
        tls := conn.tls.setKeys level ⟨none, none⟩
        crypto := conn.crypto.clear level } 0
      (.spaceDiscarded sid (handshakeStatus { conn with
        tls := conn.tls.setKeys level ⟨none, none⟩ }) now) = some (conn.dropSpaceState sid now) := by
  have present : ¬ (conn.tls.keyCollection level).openKey.isNone = true := by
    rw [Option.isNone_iff_eq_none]
    exact Option.isSome_iff_ne_none.mp keys
  unfold dropSpaceState
  simp only [known, if_neg present, first.active]
  rfl

theorem dropSpaceState_cases (first : conn.paths.map.FirstSteady) (sid : SpaceId) (now : Instant) :
    conn.dropSpaceState sid now = conn ∨
      ∃ status, conn.Recovers 0 (.spaceDiscarded sid status now) (conn.dropSpaceState sid now) := by
  cases known : dropLevel sid with
  | none =>
    refine .inl ?_
    unfold dropSpaceState
    rw [known]
  | some level =>
    cases keys : (conn.tls.keyCollection level).openKey with
    | none =>
      refine .inl ?_
      unfold dropSpaceState
      simp only [known, keys, Option.isNone_none, if_true]
    | some key =>
      obtain ⟨effect, others, paths, sentOn⟩ := recover_spec
        (dropSpaceState_recover first known (by rw [keys]; rfl) now)
      exact .inr ⟨_, effect, others, paths, sentOn⟩

theorem ackedProcessed_recovers (stepped : conn.step (.ackedProcessed sid) = some next) :
    conn.Recovers 0 (.ackedProcessed sid) next := by
  unfold step at stepped
  cases found : conn.spaces.get sid with
  | none => simp [found] at stepped
  | some space =>
    simp only [found] at stepped
    obtain ⟨effect, others, paths, sentOn⟩ := recover_spec stepped
    exact ⟨effect, others, paths, sentOn⟩

theorem lostProcessed_recovers (stepped : conn.step (.lostProcessed sid) = some next) :
    conn.Recovers 0 (.lostProcessed sid) next := by
  unfold step at stepped
  cases found : conn.spaces.get sid with
  | none => simp [found] at stepped
  | some space =>
    simp only [found] at stepped
    obtain ⟨effect, others, paths, sentOn⟩ := recover_spec stepped
    exact ⟨effect, others, paths, sentOn⟩

/-! ## Every run -/

/-- What holds of the paths and spaces of every connection. -/
structure Inv (map : PathMap) (spaces : PacketNumSpaceMap Frame) : Prop where
  first : map.FirstSteady
  initial : (spaces.get .initial).isSome = true
  handshake : (spaces.get .handshake).isSome = true
  built : ∀ entry ∈ spaces.spaces, ∀ pkt ∈ entry.2.sent, pkt.ackEliciting = true →
    pkt.inFlight = true

theorem Inv.recovers (inv : Inv conn.paths.map conn.spaces) {pathId : Nat} {op : Sender.Op Frame}
    (recovers : conn.Recovers pathId op next) : Inv next.paths.map next.spaces where
  first := by
    rw [recovers.paths]
    exact inv.first
  initial := recovers.effect.keeps inv.initial
  handshake := recovers.effect.keeps inv.handshake
  built := by
    intro entry member pkt waits elicits
    rcases recovers.effect.stems member waits with
      ⟨old, kept, _, earlier, present, stems⟩ | ⟨fresh, _, _, _, _, valid, _, stems⟩
    · rw [stems.inFlight]
      exact inv.built old kept earlier present (stems.ackEliciting ▸ elicits)
    · have kind := (Bool.and_eq_true_iff.mp valid).2
      rw [← stems.ackEliciting, ← stems.inFlight, elicits] at kind
      exact kind

theorem Inv.step (inv : Inv conn.paths.map conn.spaces) (stepped : conn.step op = some next) :
    Inv next.paths.map next.spaces := by
  cases op with
  | setKeys level keys =>
    cases stepped
    exact inv
  | crypto level op =>
    obtain ⟨crypto, _, rfl⟩ := Option.map_eq_some_iff.mp stepped
    exact inv
  | paths op =>
    obtain ⟨paths, moved, rfl⟩ := Option.map_eq_some_iff.mp stepped
    have first := ValidationRun.step_steady moved inv.first
    cases insertedSlot conn.paths.map op with
    | none => exact ⟨first, inv.initial, inv.handshake, inv.built⟩
    | some slot => exact ⟨first, inv.initial, inv.handshake, inv.built⟩
  | packetSent pathId pkt sid now =>
    obtain ⟨_, sent⟩ := Option.ite_none_right_eq_some.mp stepped
    obtain ⟨middle, moved, rfl⟩ := Option.map_eq_some_iff.mp sent
    exact (inv.recovers (recover_spec moved) : Inv middle.paths.map middle.spaces)
  | ackReceived pathId ranges ackDelay sid now => exact inv.recovers (recover_spec stepped)
  | lossTimeout pathId sid now => exact inv.recovers (recover_spec stepped)
  | spaceAdded => exact inv.recovers (recover_spec stepped)
  | ackedProcessed sid => exact inv.recovers (ackedProcessed_recovers stepped)
  | lostProcessed sid => exact inv.recovers (lostProcessed_recovers stepped)
  | peerVerified =>
    cases stepped
    exact inv
  | completed =>
    cases stepped
    exact inv
  | dropSpace sid now =>
    cases stepped
    rcases dropSpaceState_cases inv.first sid now with same | ⟨_, recovers⟩
    · rw [same]
      exact inv
    · exact inv.recovers recovers

theorem Starts.inv (starts : Starts conn) : Inv conn.paths.map conn.spaces := by
  cases starts
  refine ⟨⟨_, rfl, rfl, ?_⟩, rfl, rfl, fun entry member pkt waits => ?_⟩
  · unfold Path.initial
    dsimp only
    split
    · rfl
    · rfl
  · rw [(Sender.mem_new member).1] at waits
    cases waits

theorem Reachable.inv {guard : SpaceConn Opener Sealer → Op Opener Sealer → Prop}
    (reached : conn.Reachable guard) : Inv conn.paths.map conn.spaces := by
  obtain ⟨first, starts, run⟩ := reached
  exact @Run.invariant _ _ _ _ (fun conn => Inv conn.paths.map conn.spaces)
    (fun _ _ _ inv _ stepped => inv.step stepped) _ _ run starts.inv

/-! ## Runs on one path -/

/-- Loss recovery is only run for the first path, and no ACK frame covers a packet in flight that
was declared lost. -/
def OnePath (conn : SpaceConn Opener Sealer) : Op Opener Sealer → Prop
  | .packetSent pathId _ _ _ => pathId = 0
  | .ackReceived pathId ranges ackDelay sid now => pathId = 0 ∧
      Sender.NoLateAck ⟨conn.recovery 0, conn.spaces⟩
        (.ackReceived ranges ackDelay sid conn.handshakeStatus now)
  | .lossTimeout pathId _ _ => pathId = 0
  | _ => True

/-- The first path has sent every packet, and its counters are exact. -/
structure Alone (recovery : Recovery) (spaces : PacketNumSpaceMap Frame)
    (sentOn : Nat → Nat → Option Nat) : Prop where
  exact : Sender.Exact ⟨recovery, spaces⟩
  sentOn : ∀ entry ∈ spaces.spaces, ∀ pkt ∈ entry.2.sent, sentOn entry.1 pkt.pktNum = some 0

section

variable (alone : Alone (conn.recovery 0) conn.spaces conn.sentOn)

include alone

theorem Alone.recovers {op : Sender.Op Frame} (recovers : conn.Recovers 0 op next)
    (punctual : Sender.NoLateAck ⟨conn.recovery 0, conn.spaces⟩ op)
    (unsent : ∀ pkt spaceId status now, op ≠ .packetSent pkt spaceId status now) :
    Alone (next.recovery 0) next.spaces next.sentOn where
  exact := Sender.exact_step alone.exact punctual recovers.effect
  sentOn := by
    intro entry member pkt waits
    rw [recovers.sentOn]
    rcases recovers.effect.stems member waits with
      ⟨old, kept, same, earlier, present, stems⟩ | ⟨fresh, spaceId, status, now, sends, _⟩
    · rw [← same, stems.pktNum]
      exact alone.sentOn old kept earlier present
    · exact absurd sends (unsent _ _ _ _)

theorem Alone.packetSent {pkt : SentPacket Frame} {status : HandshakeStatus} {now : Instant}
    (recovers : conn.Recovers 0 (.packetSent pkt sid status now) next)
    (number : pkt.pktNum = next.nextPktNum sid.key) :
    Alone ((next.noteSent 0 sid.key).recovery 0) (next.noteSent 0 sid.key).spaces
      (next.noteSent 0 sid.key).sentOn where
  exact := by
    have punctual : Sender.NoLateAck ⟨conn.recovery 0, conn.spaces⟩
        (.packetSent pkt sid status now) := trivial
    exact Sender.exact_step alone.exact punctual recovers.effect
  sentOn := by
    intro entry member other waits
    have noted : ∀ key pktNum, conn.sentOn key pktNum = some 0 →
        (next.noteSent 0 sid.key).sentOn key pktNum = some 0 := by
      intro key pktNum known
      rw [← recovers.sentOn] at known
      unfold noteSent
      dsimp only
      by_cases same : key = sid.key
      · rw [same, Function.update_self]
        by_cases here : pktNum = next.nextPktNum sid.key
        · rw [here, Function.update_self]
        · rw [Function.update_of_ne here, ← same]
          exact known
      · rw [Function.update_of_ne same]
        exact known
    rcases recovers.effect.stems member waits with
      ⟨old, kept, same, earlier, present, stems⟩ | ⟨fresh, spaceId, _, _, sends, _, here, stems⟩
    · rw [← same, stems.pktNum]
      exact noted _ _ (alone.sentOn old kept earlier present)
    · cases sends
      rw [here, stems.pktNum, number]
      unfold noteSent
      dsimp only
      rw [Function.update_self, Function.update_self]

theorem Alone.replacePath {slot : Option Nat} (elsewhere : slot ≠ some 0) :
    Alone ((conn.replacePath slot).recovery 0) (conn.replacePath slot).spaces
      (conn.replacePath slot).sentOn := by
  cases slot with
  | none => exact alone
  | some pathId =>
    have different : pathId ≠ 0 := fun same => elsewhere (same ▸ rfl)
    unfold SpaceConn.replacePath
    dsimp only
    rw [Function.update_of_ne different.symm]
    refine ⟨alone.exact, fun entry member pkt waits => ?_⟩
    rw [alone.sentOn entry member pkt waits, Option.filter_some, if_pos]
    exact decide_eq_true different.symm

end

private theorem insertedSlot_ne {map : PathMap} (first : map.FirstSteady) (op : ValidationRun.Op) :
    insertedSlot map op ≠ some 0 := by
  cases op with
  | insertPath localAddr remoteAddr maxDatagramSize scidSeq dcidSeq limit =>
    unfold insertedSlot
    dsimp only
    cases inserted : map.insertPath (.new localAddr remoteAddr false maxDatagramSize) with
    | error error =>
      intro impossible
      cases impossible
    | ok result =>
      intro same
      exact first.insertPath inserted (Option.some.inj same)
  | _ =>
    intro impossible
    cases impossible

theorem Alone.step (alone : Alone (conn.recovery 0) conn.spaces conn.sentOn)
    (inv : Inv conn.paths.map conn.spaces) (allowed : conn.OnePath op)
    (stepped : conn.step op = some next) : Alone (next.recovery 0) next.spaces next.sentOn := by
  cases op with
  | setKeys level keys =>
    cases stepped
    exact alone
  | crypto level op =>
    obtain ⟨crypto, _, rfl⟩ := Option.map_eq_some_iff.mp stepped
    exact alone
  | paths op =>
    obtain ⟨paths, _, rfl⟩ := Option.map_eq_some_iff.mp stepped
    exact alone.replacePath (insertedSlot_ne inv.first op)
  | packetSent pathId pkt sid now =>
    obtain rfl : pathId = 0 := allowed
    obtain ⟨guarded, sent⟩ := Option.ite_none_right_eq_some.mp stepped
    obtain ⟨middle, moved, rfl⟩ := Option.map_eq_some_iff.mp sent
    obtain ⟨sender, _, same⟩ := Option.map_eq_some_iff.mp moved
    have number := of_decide_eq_true (Bool.and_eq_true_iff.mp guarded).2
    refine alone.packetSent (recover_spec moved) ?_
    rw [number, ← same]
  | ackReceived pathId ranges ackDelay sid now =>
    obtain ⟨rfl, punctual⟩ := allowed
    exact alone.recovers (recover_spec stepped) punctual fun _ _ _ _ other => by cases other
  | lossTimeout pathId sid now =>
    obtain rfl : pathId = 0 := allowed
    exact alone.recovers (recover_spec stepped) trivial fun _ _ _ _ other => by cases other
  | spaceAdded =>
    exact alone.recovers (recover_spec stepped) trivial fun _ _ _ _ other => by cases other
  | ackedProcessed sid =>
    exact alone.recovers (ackedProcessed_recovers stepped) trivial fun _ _ _ _ other => by
      cases other
  | lostProcessed sid =>
    exact alone.recovers (lostProcessed_recovers stepped) trivial fun _ _ _ _ other => by
      cases other
  | peerVerified =>
    cases stepped
    exact alone
  | completed =>
    cases stepped
    exact alone
  | dropSpace sid now =>
    cases stepped
    rcases dropSpaceState_cases inv.first sid now with same | ⟨_, recovers⟩
    · rw [same]
      exact alone
    · exact alone.recovers recovers trivial fun _ _ _ _ other => by cases other

theorem Starts.alone (starts : Starts conn) : Alone (conn.recovery 0) conn.spaces conn.sentOn := by
  cases starts
  refine ⟨.new _ _ _ _ _, fun entry member pkt waits => ?_⟩
  rw [(Sender.mem_new member).1] at waits
  cases waits

theorem Reachable.alone (reached : conn.Reachable OnePath) :
    Alone (conn.recovery 0) conn.spaces conn.sentOn := by
  obtain ⟨first, starts, run⟩ := reached
  exact (@Run.invariant _ _ _ _ (fun conn => Inv conn.paths.map conn.spaces ∧
      Alone (conn.recovery 0) conn.spaces conn.sentOn)
    (fun _ _ _ known allowed stepped =>
      ⟨known.1.step stepped, known.2.step known.1 allowed stepped⟩) _ _ run
    ⟨starts.inv, starts.alone⟩).2

/-! ## Exactness -/

def sentPkts (conn : SpaceConn Opener Sealer) (sid : SpaceId) : List (SentPacket Frame) :=
  (conn.spaces.get sid).elim [] (·.sent)

theorem mem_sentPkts {pkt : SentPacket Frame} (member : pkt ∈ conn.sentPkts sid) :
    ∃ space, (sid.key, space) ∈ conn.spaces.spaces ∧ pkt ∈ space.sent := by
  unfold sentPkts at member
  cases found : conn.spaces.get sid with
  | none =>
    rw [found] at member
    cases member
  | some space =>
    rw [found] at member
    exact ⟨space, OrdMap.get?_eq_some_iff.mp found, member⟩

def sentPktsOn (conn : SpaceConn Opener Sealer) (sid : SpaceId) (pathId : Nat) :
    List (SentPacket Frame) :=
  (conn.sentPkts sid).filter fun pkt => conn.sentOn sid.key pkt.pktNum = some pathId

/-- A space is dropped and nothing else. -/
structure DropsExactly (sid : SpaceId) (level : Level) (before after : SpaceConn Opener Sealer) :
    Prop where
  cleared : ∃ space, after.spaces.get sid = some space ∧ space.sent = [] ∧ space.lost = [] ∧
    space.acked = [] ∧ space.toInFlight = .zero
  -- What a path has in flight in the space is taken off its counters.
  subtracted : ∀ pathId path, before.paths.map.get pathId = some path →
    (before.recovery pathId).bytesInFlight = (after.recovery pathId).bytesInFlight +
        bytesOutstanding (before.sentPktsOn sid pathId) ∧
      (before.recovery pathId).ackElicitingInFlight =
        (after.recovery pathId).ackElicitingInFlight +
          elicitingOutstanding (before.sentPktsOn sid pathId)
  fresh : after.crypto.get level = .ok CryptoStreams.newStream
  otherStreams : ∀ other, other ≠ level → after.crypto.get other = before.crypto.get other
  otherSpaces : ∀ other : SpaceId, other.key ≠ sid.key →
    after.spaces.get other = before.spaces.get other

/-- Nothing in flight in the space was sent on another path than the first one, which is the active
one. What is taken off the first path, the outstanding packets of the space as far as its counters
go, is what was sent on it. -/
structure OnFirst (conn : SpaceConn Opener Sealer) (sid : SpaceId) : Prop where
  elsewhere : ∀ pathId path, pathId ≠ 0 → conn.paths.map.get pathId = some path →
    bytesOutstanding (conn.sentPktsOn sid pathId) = 0 ∧
      elicitingOutstanding (conn.sentPktsOn sid pathId) = 0
  bytes : bytesOutstanding (conn.sentPktsOn sid 0) =
    min (conn.recovery 0).bytesInFlight (bytesOutstanding (conn.sentPkts sid))
  eliciting : elicitingOutstanding (conn.sentPktsOn sid 0) =
    min (conn.recovery 0).ackElicitingInFlight (elicitingOutstanding (conn.sentPkts sid))

/-- When the Handshake space ends, nothing has passed through the streams of both levels. -/
def StreamsFresh (conn : SpaceConn Opener Sealer) (sid : SpaceId) : Prop :=
  sid = .handshake →
    conn.crypto.get .initial = .ok CryptoStreams.newStream ∧
      conn.crypto.get .handshake = .ok CryptoStreams.newStream

theorem clear_get (known : dropLevel sid = some level) (crypto : CryptoStreams) (other : Level) :
    (crypto.clear level).get other =
      if other = .initial then .ok CryptoStreams.newStream else crypto.get other := by
  have streams : crypto.clear level = ⟨crypto.streams.set 0 CryptoStreams.newStream⟩ := by
    cases sid <;> cases known <;> rfl
  rw [streams]
  cases other with
  | initial => exact congrArg Except.ok (Vector.getElem_set_self (by decide))
  | zeroRtt => rfl
  | handshake => exact congrArg Except.ok (Vector.getElem_set_ne (by decide) (by decide) (by decide))
  | oneRtt => exact congrArg Except.ok (Vector.getElem_set_ne (by decide) (by decide) (by decide))

private theorem streamsFresh_iff (known : dropLevel sid = some level) :
    conn.StreamsFresh sid ↔
      (conn.crypto.clear level).get level = .ok CryptoStreams.newStream ∧
        ∀ other, other ≠ level → (conn.crypto.clear level).get other = conn.crypto.get other := by
  simp only [clear_get known]
  cases sid with
  | initial =>
    cases known
    refine iff_of_true (fun impossible => by cases impossible) ⟨rfl, fun other different => ?_⟩
    rw [if_neg different]
  | handshake =>
    cases known
    constructor
    · intro fresh
      obtain ⟨initial, handshake⟩ := fresh rfl
      refine ⟨handshake, fun other _ => ?_⟩
      split
      case isTrue same => rw [same, initial]
      case isFalse => rfl
    · rintro ⟨handshake, others⟩ _
      exact ⟨(others .initial (by decide)).symm, handshake⟩
  | data => cases known
  | dataExt id => cases known

structure Dropped (sid : SpaceId) (level : Level) (before after : SpaceConn Opener Sealer) :
    Prop where
  crypto : after.crypto = before.crypto.clear level
  first : (after.recovery 0).toInFlight =
    removeFromBytesInFlight (before.recovery 0).toInFlight (before.sentPkts sid)
  others : ∀ pathId, pathId ≠ 0 → after.recovery pathId = before.recovery pathId
  space : ∃ space, after.spaces = before.spaces.set sid space ∧ space.sent = [] ∧
    space.lost = [] ∧ space.acked = [] ∧ space.toInFlight = .zero

private theorem dropSpaceState_spec (inv : Inv conn.paths.map conn.spaces)
    (known : dropLevel sid = some level)
    (keys : (conn.tls.keyCollection level).openKey.isSome = true) (now : Instant) :
    Dropped sid level conn (conn.dropSpaceState sid now) := by
  have present : (conn.spaces.get sid).isSome = true := by
    cases sid with
    | initial => exact inv.initial
    | handshake => exact inv.handshake
    | data => cases known
    | dataExt id => cases known
  obtain ⟨space, found⟩ := Option.isSome_iff_exists.mp present
  have recovers := dropSpaceState_recover inv.first known keys now
  obtain ⟨sender, moved, same⟩ := Option.map_eq_some_iff.mp recovers
  have sent : conn.sentPkts sid = space.sent := by
    unfold sentPkts
    rw [found]
    rfl
  rw [← same]
  unfold Sender.step onPktNumSpaceDiscarded at moved
  simp only [found, Option.some.injEq] at moved
  subst moved
  refine ⟨rfl, ?_, fun pathId different => Function.update_of_ne different _ _,
    _, rfl, rfl, rfl, rfl, rfl⟩
  dsimp only
  rw [Function.update_self, setLossDetectionTimer_toInFlight, sent]

private theorem Dropped.exact_iff (dropped : Dropped sid level conn next)
    (inv : Inv conn.paths.map conn.spaces) (known : dropLevel sid = some level) :
    DropsExactly sid level conn next ↔ conn.OnFirst sid ∧ conn.StreamsFresh sid := by
  have built : ∀ pkt ∈ conn.sentPkts sid, pkt.ackEliciting = true → pkt.inFlight = true := by
    intro pkt member
    obtain ⟨space, stored, waits⟩ := mem_sentPkts member
    exact inv.built _ stored pkt waits
  have first := Sender.removeFromBytesInFlight_spec (conn.recovery 0).toInFlight built
  rw [← dropped.first] at first
  obtain ⟨space, spaces, sent, lost, acked, counters⟩ := dropped.space
  rw [streamsFresh_iff known, ← dropped.crypto]
  constructor
  · intro exact
    obtain ⟨head, stored, _⟩ := inv.first
    obtain ⟨bytes, eliciting⟩ := exact.subtracted 0 head stored
    refine ⟨⟨fun pathId path different present => ?_, by omega, by omega⟩, exact.fresh,
      exact.otherStreams⟩
    have kept := exact.subtracted pathId path present
    rw [dropped.others pathId different] at kept
    omega
  · rintro ⟨onFirst, fresh, others⟩
    refine ⟨⟨space, ?_, sent, lost, acked, counters⟩, fun pathId path present => ?_, fresh, others,
      fun other different => ?_⟩
    · rw [spaces]
      exact OrdMap.get?_insert_self _ _ _
    · by_cases same : pathId = 0
      · subst same
        have bytes := onFirst.bytes
        have eliciting := onFirst.eliciting
        omega
      · obtain ⟨bytes, eliciting⟩ := onFirst.elsewhere pathId path same present
        rw [dropped.others pathId same]
        omega
    · rw [spaces]
      unfold PacketNumSpaceMap.get PacketNumSpaceMap.set
      dsimp only
      rw [OrdMap.get?_insert, if_neg different]

theorem Alone.onFirst (alone : Alone (conn.recovery 0) conn.spaces conn.sentOn) (sid : SpaceId) :
    conn.OnFirst sid := by
  have sent : ∀ pkt ∈ conn.sentPkts sid, conn.sentOn sid.key pkt.pktNum = some 0 := by
    intro pkt member
    obtain ⟨space, stored, waits⟩ := mem_sentPkts member
    exact alone.sentOn _ stored pkt waits
  have share : bytesOutstanding (conn.sentPkts sid) ≤ (conn.recovery 0).bytesInFlight ∧
      elicitingOutstanding (conn.sentPkts sid) ≤ (conn.recovery 0).ackElicitingInFlight := by
    unfold sentPkts
    cases found : conn.spaces.get sid with
    | none => exact ⟨Nat.zero_le _, Nat.zero_le _⟩
    | some space => exact alone.exact.share found
  have all : conn.sentPktsOn sid 0 = conn.sentPkts sid :=
    List.filter_eq_self.mpr fun pkt member => decide_eq_true (sent pkt member)
  refine ⟨fun pathId path different _ => ?_, ?_, ?_⟩
  · have none : conn.sentPktsOn sid pathId = [] := by
      refine List.filter_eq_nil_iff.mpr fun pkt member matched => ?_
      have same := (sent pkt member).symm.trans (of_decide_eq_true matched)
      exact different (Option.some.inj same).symm
    rw [none]
    exact ⟨rfl, rfl⟩
  · rw [all, Nat.min_eq_right share.1]
  · rw [all, Nat.min_eq_right share.2]

/-- In every state, dropping a space is exact if and only if its packets in flight were sent on the
active path, as far as this counts them, and if it is the Handshake space, nothing has passed through
the crypto streams. In a run on one path without late acknowledgements the streams alone matter. -/
theorem drop_exact_iff {sid : SpaceId} {level : Level} (reached : conn.Reachable anyStep)
    (known : dropLevel sid = some level)
    (keys : (conn.tls.keyCollection level).openKey.isSome = true) (now : Instant) :
    (DropsExactly sid level conn (conn.dropSpaceState sid now) ↔
      conn.OnFirst sid ∧ conn.StreamsFresh sid) ∧
    (conn.Reachable OnePath →
      (DropsExactly sid level conn (conn.dropSpaceState sid now) ↔ conn.StreamsFresh sid)) := by
  have inv := reached.inv
  have exact := (dropSpaceState_spec inv known keys now).exact_iff inv known
  exact ⟨exact, fun onePath => exact.trans (and_iff_right (onePath.alone.onFirst sid))⟩

/-! ## Concrete runs -/

def firstConn : SpaceConn Unit Unit :=
  start (.new 25000000 0 1000000000 333000000 id) (.localhost 1) (.localhost 2) 1200 2 3 false false

def initialSent : List (Op Unit Unit) :=
  [.setKeys .initial ⟨some (), some ()⟩, .crypto .initial (.write [1, 0, 0, 0]),
    .crypto .initial (.send 100),
    .packetSent 0 ⟨0, [.crypto 0 4 []], 0, none, none, true, true, true, 1200⟩ .initial 0]

/-- Dropping the Initial space takes the packet off the counters. -/
theorem drop_exact_iff_initial : ∃ conn, exec step firstConn initialSent = some conn ∧
    bytesOutstanding (conn.sentPktsOn .initial 0) = 1200 ∧
    DropsExactly .initial .initial conn (conn.dropSpaceState .initial 1) := by
  refine ⟨_, rfl, rfl, ?_⟩
  have reached : Reachable anyStep _ := ⟨firstConn, .intro, .of_exec
    (show exec step firstConn initialSent = some _ from rfl)⟩
  refine ((drop_exact_iff reached rfl rfl 1).1).mpr ⟨⟨?_, rfl, rfl⟩, fun impossible => by
    cases impossible⟩
  intro pathId path different present
  cases pathId with
  | zero => exact absurd rfl different
  | succ pathId => cases present

def handshakeDone : List (Op Unit Unit) :=
  [.setKeys .handshake ⟨some (), some ()⟩, .crypto .handshake (.write [11, 0, 0, 0]),
    .crypto .handshake (.send 100),
    .packetSent 0 ⟨0, [.crypto 0 4 []], 0, none, none, true, true, true, 80⟩ .handshake 0,
    .crypto .handshake (.receive 0 [20, 0, 0, 0]), .crypto .handshake (.read 512), .completed]

/-- The Handshake messages stay in their stream. -/
theorem handshake_stream_not_cleared :
    ¬ ∀ (conn : SpaceConn Unit Unit) (sid : SpaceId) (level : Level) (now : Instant),
      conn.Reachable anyStep → dropLevel sid = some level →
      (conn.tls.keyCollection level).openKey.isSome = true →
      DropsExactly sid level conn (conn.dropSpaceState sid now) := by
  intro always
  have reached : Reachable anyStep _ := ⟨firstConn, .intro, .of_exec
    (show exec step firstConn handshakeDone = some _ from rfl)⟩
  have fresh := (always _ .handshake .handshake 0 reached rfl rfl).fresh
  have written := congrArg (fun stream => stream.toOption.map (·.send.writeOff)) fresh
  exact absurd written (by decide)

end SpaceConn

end Tquic.Connection
