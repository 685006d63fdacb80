import Tquic.Connection.RecoveryRun

/-! The life of the frames of sent packets. A frame is held by its packet until the packet is
acknowledged or declared lost for the first time, and is then moved to the list of
acknowledged or of lost frames. Copies for probes are counted apart. -/

set_option autoImplicit false

namespace Tquic.Connection

open Lib Recovery

variable {φ : Type}

theorem framesOf_append (left right : List (SentPacket φ)) :
    framesOf (left ++ right) = framesOf left ++ framesOf right :=
  List.flatMap_append

theorem framesOf_eq_nil {pkts : List (SentPacket φ)} (empty : ∀ pkt ∈ pkts, pkt.frames = []) :
    framesOf pkts = [] :=
  List.flatMap_eq_nil_iff.mpr empty

namespace Sender

/-- Where the frames of a space are: held by their packets, acknowledged, or among the
`moved` frames, which are the lost frames without the copies for probes. -/
structure Located (space : PacketNumSpace φ) (moved : List φ) : Prop where
  recorded : space.history.recorded.Perm
    (framesOf space.sent ++ (space.history.ackedDone ++ space.acked) ++ moved)
  lost : (space.history.lostDone ++ space.lost).Perm (moved ++ space.history.probed)
  -- A packet gives its frames away when it is acknowledged or declared lost.
  emptied : ∀ pkt ∈ space.sent, pkt.outstanding = false → pkt.frames = []
  removed : ∀ pkt ∈ space.history.removed, pkt.frames = []

theorem Located.new : Located (PacketNumSpace.new : PacketNumSpace φ) [] :=
  ⟨.refl _, .refl _, by simp [PacketNumSpace.new], by simp [PacketNumSpace.new]⟩

theorem Pass.emptied {mark : SentPacket φ → SentPacket φ} {eligible : SentPacket φ → Prop}
    {before after chosen : List (SentPacket φ)} (pass : Pass mark eligible before after chosen)
    (marked : ∀ pkt, (mark pkt).frames = [])
    (emptied : ∀ pkt ∈ before, pkt.outstanding = false → pkt.frames = []) :
    ∀ pkt ∈ after, pkt.outstanding = false → pkt.frames = [] := by
  intro pkt member settled
  rcases pass.mem_after member with earlier | ⟨old, _, rfl⟩
  · exact emptied pkt earlier settled
  · exact marked old

/-- Frames go from the packets to the acknowledged ones or to the lost ones. -/
theorem Located.settled {covered : Nat → Prop} {space after : PacketNumSpace φ} {moved : List φ}
    {acked lost removed : List (SentPacket φ)} (located : Located space moved)
    (settles : Settles covered space after acked lost removed) :
    Located after (moved ++ framesOf lost) := by
  obtain ⟨now, middle, ackPass, lossPass⟩ := settles.passes
  have emptied := Pass.emptied lossPass (fun _ => rfl)
    (Pass.emptied ackPass (fun _ => rfl) located.emptied)
  have gone : ∀ pkt ∈ removed, pkt.frames = [] := fun pkt member =>
    emptied pkt (List.mem_append_left _ member) (settles.settled pkt member)
  have former : (framesOf space.sent).Perm (framesOf middle ++ framesOf acked) :=
    ackPass.flatMap_perm fun _ => rfl
  have latter : (framesOf middle).Perm (framesOf after.sent ++ framesOf lost) := by
    have split : (framesOf middle).Perm (framesOf (removed ++ after.sent) ++ framesOf lost) :=
      lossPass.flatMap_perm fun _ => rfl
    rwa [framesOf_append, framesOf_eq_nil gone, List.nil_append] at split
  constructor
  case recorded =>
    rw [settles.history, settles.ackedFrames]
    refine located.recorded.trans ?_
    -- Both sides hold the same frames, in another order.
    classical
    rw [List.perm_iff_count] at former latter ⊢
    intro frame
    have first := former frame
    have second := latter frame
    simp only [List.count_append] at first second ⊢
    omega
  case lost =>
    rw [settles.history, settles.lostFrames]
    have before := located.lost
    classical
    rw [List.perm_iff_count] at before ⊢
    intro frame
    have same := before frame
    simp only [List.count_append] at same ⊢
    omega
  case emptied => exact fun pkt member => emptied pkt (List.mem_append_right _ member)
  case removed =>
    rw [settles.history]
    intro pkt member
    rcases List.mem_append.mp member with earlier | fresh
    · exact located.removed pkt earlier
    · exact gone pkt fresh

def Keeps (spaceId : SpaceId) (_ : Sender φ) : Op φ → Prop
  | .spaceDiscarded other _ _ => other.key ≠ spaceId.key
  | _ => True

def Conserved (spaceId : SpaceId) (sender : Sender φ) : Prop :=
  ∀ space, sender.spaces.get spaceId = some space → ∃ moved, Located space moved

theorem Conserved.set {spaceId other : SpaceId} {sender : Sender φ} {space : PacketNumSpace φ}
    {recovery : Recovery} (conserved : sender.Conserved spaceId)
    (located : other.key = spaceId.key → ∃ moved, Located space moved) :
    Conserved spaceId ⟨recovery, sender.spaces.set other space⟩ := by
  intro present found
  simp only [PacketNumSpaceMap.get, PacketNumSpaceMap.set, OrdMap.get?_insert] at found
  split at found
  case isTrue same =>
    cases found
    exact located same.symm
  case isFalse => exact conserved present found

theorem Conserved.update {spaceId other : SpaceId} {sender : Sender φ}
    {space after : PacketNumSpace φ} {recovery : Recovery} (conserved : sender.Conserved spaceId)
    (found : sender.spaces.get other = some space)
    (kept : ∀ moved, Located space moved → ∃ later, Located after later) :
    Conserved spaceId ⟨recovery, sender.spaces.set other after⟩ := by
  refine conserved.set fun same => ?_
  rw [PacketNumSpaceMap.get, same] at found
  obtain ⟨moved, located⟩ := conserved space found
  exact kept moved located

private theorem conserved_step {spaceId : SpaceId} {sender next : Sender φ} {op : Op φ}
    (conserved : sender.Conserved spaceId) (allowed : Keeps spaceId sender op)
    (effect : Effect sender op next) : next.Conserved spaceId := by
  cases effect with
  | still => exact conserved
  | @sent pkt pkt' other status now space after recovery found fresh same sent own total acked lost
      history =>
      refine conserved.update found fun moved located => ⟨moved, ?_, ?_, ?_, ?_⟩
      · rw [history, sent, acked, framesOf_append]
        have before := located.recorded
        classical
        rw [List.perm_iff_count] at before ⊢
        intro frame
        have equal := before frame
        simp only [List.count_append, framesOf, List.flatMap_cons, List.flatMap_nil,
          List.append_nil] at equal ⊢
        omega
      · rw [history, lost]
        exact located.lost
      · intro other member settled
        rw [sent, List.mem_append, List.mem_singleton] at member
        rcases member with earlier | rfl
        · exact located.emptied other earlier settled
        · rw [same] at settled
          have waiting : pkt.outstanding = true := (Bool.and_eq_true_iff.mp fresh).1
          simp [SentPacket.outstanding] at settled waiting
          simp [waiting] at settled
      · rw [history]
        exact located.removed
  | settled found settles _ _ =>
    exact conserved.update found fun moved located => ⟨_, located.settled settles⟩
  | probed found sent _ _ acked lost history =>
    refine conserved.update found fun moved located => ⟨moved, ?_, ?_, ?_, ?_⟩
    · rw [history, sent, acked]
      exact located.recorded
    · rw [history, lost, ← List.append_assoc, ← List.append_assoc]
      exact located.lost.append_right _
    · rw [sent]
      exact located.emptied
    · rw [history]
      exact located.removed
  | discarded => exact conserved.set fun same => absurd same allowed
  | added =>
    intro space found
    simp only [PacketNumSpaceMap.get, PacketNumSpaceMap.add, OrdMap.get?_insert] at found
    split at found
    · cases found
      exact ⟨[], .new⟩
    · exact conserved space found
  | ackedProcessed found =>
    refine conserved.update found fun moved located => ⟨moved, ?_, located.lost, located.emptied,
      located.removed⟩
    simpa using located.recorded
  | lostProcessed found =>
    refine conserved.update found fun moved located => ⟨moved, located.recorded, ?_,
      located.emptied, located.removed⟩
    simpa using located.lost

/-- In every run that does not discard the space, every frame of a sent packet is in one place:
held by its packet, acknowledged, or moved to the lost frames, where the copies for probes
are the only others. A packet that has left the queue holds no frame. -/
theorem frames_conserved (spaceId : SpaceId) (sender : Sender φ)
    (reached : Reachable (Keeps spaceId) sender) (space : PacketNumSpace φ)
    (found : sender.spaces.get spaceId = some space) :
    (∃ moved,
      space.history.recorded.Perm
        (framesOf space.sent ++ (space.history.ackedDone ++ space.acked) ++ moved) ∧
      (space.history.lostDone ++ space.lost).Perm (moved ++ space.history.probed) ∧
      -- Frames that can be told apart are in one place only.
      (space.history.recorded.Nodup →
        (framesOf space.sent ++ (space.history.ackedDone ++ space.acked) ++ moved).Nodup)) ∧
    ∀ pkt ∈ space.history.removed, pkt.frames = [] := by
  obtain ⟨_, _, _, _, _, run⟩ := reached
  have conserved : sender.Conserved spaceId := by
    refine run.invariant (fun before op after conserved allowed stepped =>
      conserved_step conserved allowed (step_effect before stepped)) ?_
    intro initial present
    have fresh := (mem_new (OrdMap.get?_eq_some_iff.mp present)).1
    simp only at fresh
    exact ⟨[], fresh ▸ .new⟩
  obtain ⟨moved, located⟩ := conserved space found
  exact ⟨⟨moved, located.recorded, located.lost, located.recorded.nodup_iff.mp⟩, located.removed⟩

/-- A probe timeout copies the frame of the first packet, which is declared lost later. -/
theorem frames_conserved_probed :
    ∃ (sender : Sender Nat) (space : PacketNumSpace Nat) (moved : List Nat),
      Reachable (Keeps .data) sender ∧ sender.spaces.get .data = some space ∧
      [0, 1, 2, 3, 4].Perm ([2, 3] ++ [4] ++ moved) ∧ [0, 0, 1].Perm (moved ++ [0]) := by
  let check : Sender Nat → Op Nat → Bool
    | _, .spaceDiscarded _ _ _ => false
    | _, _ => true
  let packet : Nat → Op Nat := fun number =>
    .packetSent ⟨number, [number], 0, none, none, true, true, true, 100⟩ .data ⟨true, true, true⟩
      number
  have executed : (exec (checked check step)
      (.new (.new 25000000 0 1000000000 333000000 (fun rtt => rtt * 9 / 8)))
      [packet 0, .lossTimeout .data ⟨true, true, true⟩ 10, packet 1, packet 2, packet 3, packet 4,
        .ackReceived (RangeSet.default.insert ⟨4, 5⟩) 0 .data ⟨true, true, true⟩ 50000000]).any
      (fun sender => (sender.spaces.get .data).any fun space =>
        space.history.recorded = [0, 1, 2, 3, 4] ∧ framesOf space.sent = [2, 3] ∧
          space.history.ackedDone ++ space.acked = [4] ∧
          space.history.lostDone ++ space.lost = [0, 0, 1] ∧ space.history.probed = [0]) = true := by
    decide +kernel
  obtain ⟨sender, run, inside⟩ := (Option.any_eq_true _ _).mp executed
  obtain ⟨space, found, facts⟩ := (Option.any_eq_true _ _).mp inside
  obtain ⟨recorded, held, acked, lost, probed⟩ := of_decide_eq_true facts
  have sound : ∀ state op, check state op = true → Keeps .data state op := by
    intro state op passed
    cases op with
    | spaceDiscarded => cases passed
    | _ => trivial
  have reached : Reachable (Keeps .data) sender :=
    ⟨_, _, _, _, _, .of_checked sound (.of_exec run)⟩
  obtain ⟨⟨moved, everywhere, among, _⟩, _⟩ := frames_conserved .data sender reached space found
  rw [recorded, held, acked] at everywhere
  rw [lost, probed] at among
  exact ⟨sender, space, moved, reached, found, everywhere, among⟩

end Sender

end Tquic.Connection
