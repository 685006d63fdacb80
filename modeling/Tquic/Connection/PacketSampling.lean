import Tquic.Connection.DueData
import Tquic.PacketProtection

/-! Whether the receiver of a packet finds a sample for the header protection. Every payload is
filled up, unless a writer has ended the packet before. -/

set_option autoImplicit false

namespace Tquic

open Lib

/-- What is documented of an AEAD algorithm: it adds a tag, and it has a mask for every sample. -/
structure Seal.Works (key : Seal) : Prop where
  seals : ∀ cidSeq pktNum hdr payload room, payload.length + tagLen ≤ room →
    ∃ ciphertext, key.sealPayload cidSeq pktNum hdr payload room = .ok ciphertext
  tagged : ∀ cidSeq pktNum hdr payload room ciphertext,
    key.sealPayload cidSeq pktNum hdr payload room = .ok ciphertext →
      ciphertext.length = payload.length + tagLen
  masks : ∀ sample, sample.length = sampleLen → ∃ mask, key.newMask sample = .ok mask

private theorem spends_packetNum {pktNum len room value : Nat} {sink : Sink UInt8}
    (ran : (encodePacketNum pktNum len).run { written := [], room } = .ok (value, sink)) :
    len ≤ maxPktNumLen ∧ sink.written.length = len := by
  have put : ∀ len, Spends (Encoder.writeUint len pktNum >>= fun _ => pure len) len :=
    fun len => (spends_uint len pktNum).bind fun _ => Costs.pure len
  unfold encodePacketNum at ran
  split at ran
  · exact ⟨by decide, ((put 1).length _ _ _ ran).trans (Nat.zero_add _)⟩
  · exact ⟨by decide, ((put 2).length _ _ _ ran).trans (Nat.zero_add _)⟩
  · exact ⟨by decide, ((put 3).length _ _ _ ran).trans (Nat.zero_add _)⟩
  · exact ⟨by decide, ((put 4).length _ _ _ ran).trans (Nat.zero_add _)⟩
  · cases ran

/-- A packet with room for its tag and its sample is encrypted. -/
theorem encryptPacket_ok {key : Seal} (works : key.Works) {out : Bytes} {cidSeq : Option Nat}
    {pktNum pktNumLen : Nat} {hdr payload : Bytes} (short : pktNumLen ≤ maxPktNumLen)
    (headed : 1 + pktNumLen ≤ hdr.length)
    (sealed_ : hdr.length + payload.length + tagLen ≤ out.length)
    (sampled : hdr.length + (maxPktNumLen - pktNumLen + sampleLen) ≤ out.length) :
    ∃ bytes, encryptPacket key out cidSeq pktNum pktNumLen hdr payload = .ok bytes := by
  obtain ⟨ciphertext, encrypted⟩ := works.seals cidSeq pktNum hdr payload
    (out.length - hdr.length) (by omega)
  have length := works.tagged _ _ _ _ _ _ encrypted
  have shown : (ciphertext ++ out.drop (hdr.length + ciphertext.length)).length =
      out.length - hdr.length := by
    rw [List.length_append, List.length_drop]
    omega
  obtain ⟨mask, masked⟩ := works.masks
    (((ciphertext ++ out.drop (hdr.length + ciphertext.length)).drop
      (maxPktNumLen - pktNumLen)).take sampleLen)
    (by rw [List.length_take, List.length_drop, shown]; omega)
  have rejected : ¬ (maxPktNumLen < pktNumLen ∨
      (ciphertext ++ out.drop (hdr.length + ciphertext.length)).length <
        maxPktNumLen - pktNumLen + sampleLen ∨ hdr.length < 1 + pktNumLen) := by
    rw [shown]
    omega
  unfold encryptPacket
  rw [if_neg (by omega), encrypted]
  dsimp only
  unfold encryptHeader
  dsimp only
  rw [if_neg rejected, masked]
  exact ⟨_, rfl⟩

private theorem length_encryptPacket {key : Seal} (works : key.Works) {out bytes : Bytes}
    {cidSeq : Option Nat} {pktNum pktNumLen : Nat} {hdr payload : Bytes}
    (encrypts : encryptPacket key out cidSeq pktNum pktNumLen hdr payload = .ok bytes) :
    bytes.length = hdr.length + payload.length + tagLen := by
  unfold encryptPacket at encrypts
  split_ifs at encrypts
  split at encrypts
  · cases encrypts
  · next ciphertext encrypted =>
    split at encrypts
    · cases encrypts
    · next hidden hides =>
      cases encrypts
      rw [List.length_append, length_encryptHeader hides, works.tagged _ _ _ _ _ _ encrypted,
        Nat.add_assoc]

namespace Connection

namespace PacketSender

/-- What is known of every packet before its frames are written. -/
structure Planned (sender : PacketSender) (outLen : Nat) (pktType : PacketType)
    (plan : PacketPlan) : Prop where
  numbered : 0 < plan.pktNumLen
  roomy : minPayloadLen ≤ plan.left
  number : plan.number.length = plan.pktNumLen
  short : plan.pktNumLen ≤ maxPktNumLen
  fits : plan.overhead + plan.left ≤ outLen
  keyed : sender.sealKey = some plan.key
  overhead : pktType = .oneRtt → plan.overhead = plan.hdr.length + plan.pktNumLen +
    if sender.isEncryptionDisabled pktType then 0 else tagLen
  header : pktType = .oneRtt → 0 < plan.hdr.length ∧ plan.hdr.length ≤ 1 + maxCidLen

private theorem required_ok {α : Type} {wanted : Option α} {value : α}
    (ran : required wanted = .ok value) : wanted = some value := by
  cases wanted with
  | none => cases ran
  | some found =>
    cases ran
    rfl

theorem planned {sender : PacketSender} {outLen left : Nat} {pktType : PacketType}
    {plan : PacketPlan} (ran : sender.plan outLen left pktType = .ok plan) :
    sender.Planned outLen pktType plan := by
  unfold PacketSender.plan at ran
  obtain ⟨inside, ran⟩ := check_ok.mp ran
  obtain ⟨_, ran⟩ := check_ok.mp ran
  obtain ⟨_, _, ran⟩ := bind_ok.mp ran
  obtain ⟨dcidSeq, _, ran⟩ := bind_ok.mp ran
  obtain ⟨dcid, _, ran⟩ := bind_ok.mp ran
  obtain ⟨scid, _, ran⟩ := bind_ok.mp ran
  obtain ⟨encoded, header, ran⟩ := bind_ok.mp ran
  obtain ⟨hdr, hdrOffset⟩ := encoded
  obtain ⟨key, keyed, ran⟩ := bind_ok.mp ran
  obtain ⟨roomy, ran⟩ := check_ok.mp ran
  obtain ⟨enough, ran⟩ := check_ok.mp ran
  obtain ⟨written, number, ran⟩ := bind_ok.mp ran
  obtain ⟨_, sink⟩ := written
  cases ran
  have wrote := spends_packetNum number
  refine
    { numbered := packetNumLen_pos _ _
      roomy := Nat.le_of_not_lt enough
      number := wrote.2
      short := wrote.1
      fits := ?_
      keyed := required_ok keyed
      overhead := fun oneRtt => ?_
      header := fun oneRtt => ?_ }
  · dsimp only
    omega
  · obtain ⟨_, same⟩ := Header.toBytes_short oneRtt header
    dsimp only
    rw [if_pos oneRtt, same, Nat.add_zero]
    split_ifs <;> rfl
  · obtain ⟨length, _⟩ := Header.toBytes_short oneRtt header
    have cut := dcid.cid.short
    dsimp only at length ⊢
    omega

section Finish

variable {sender after : PacketSender} {outLen : Nat} {out : Bytes} {pktType : PacketType}
  {plan : PacketPlan} {conn : FrameWriter} {packet : PacketBytes}

/-- A 1-RTT packet with few bytes of frames is finished as it is. -/
theorem finish_short (planned : sender.Planned out.length pktType plan) (works : plan.key.Works)
    (oneRtt : pktType = .oneRtt) (few : conn.st.written ≤ minPayloadLen) :
    ∃ packet after, sender.finish plan out pktType conn = (.ok packet, after) ∧
      packet.pktNumLen = plan.pktNumLen ∧ packet.payloadLen = conn.st.written := by
  have field : lengthField plan pktType conn.st.written = .ok [] := if_pos oneRtt
  have length : (plan.hdr ++ ([] ++ plan.number)).length = plan.hdr.length + plan.pktNumLen := by
    rw [List.nil_append, List.length_append, planned.number]
  unfold finish
  rw [field]
  simp only [bind, Except.bind, pure, Except.pure]
  by_cases disabled : sender.isEncryptionDisabled pktType = true
  · simp only [if_pos disabled]
    exact ⟨_, _, rfl, rfl, rfl⟩
  · simp only [if_neg disabled]
    have overhead := planned.overhead oneRtt
    rw [if_neg disabled] at overhead
    have fits := planned.fits
    have roomy := planned.roomy
    have headed := (planned.header oneRtt).1
    have numbered := planned.numbered
    have short := planned.short
    unfold minPayloadLen FrameWriteStatus.written at *
    unfold tagLen maxPktNumLen at *
    obtain ⟨bytes, encrypts⟩ := @encryptPacket_ok _ works out
      (if conn.enableMultipath then some plan.dcidSeq else none) sender.nextPktNum plan.pktNumLen
      (plan.hdr ++ ([] ++ plan.number)) conn.st.payload short (by rw [length]; omega)
      (by rw [length]; unfold tagLen; omega)
      (by rw [length]; unfold maxPktNumLen sampleLen; omega)
    rw [encrypts]
    exact ⟨_, _, rfl, rfl, rfl⟩

private theorem length_lengthField {payloadLen : Nat} {field : Bytes}
    (wrote : lengthField plan pktType payloadLen = .ok field) :
    field.length = if pktType = .oneRtt then 0 else lengthFieldLen := by
  unfold lengthField at wrote
  split_ifs at wrote ⊢
  · cases wrote
    rfl
  · split at wrote
    · cases wrote
    · next ran =>
      cases wrote
      exact ((spends_varintWithLen _ _).length _ _ _ ran).trans (Nat.zero_add _)

/-- A finished packet has the lengths of its parts. -/
theorem finish_lengths (planned : sender.Planned outLen pktType plan) (works : plan.key.Works)
    (finished : sender.finish plan out pktType conn = (.ok packet, after)) :
    packet.pktNumLen = plan.pktNumLen ∧ packet.payloadLen = conn.st.written ∧
      packet.bytes.length = packet.pktNumOffset + packet.pktNumLen + packet.payloadLen +
        if sender.isEncryptionDisabled pktType then 0 else tagLen := by
  unfold finish at finished
  dsimp only at finished
  split at finished
  · cases finished
  · next bytes encrypted =>
    cases finished
    obtain ⟨field, wrote, encrypted⟩ := bind_ok.mp encrypted
    have width := length_lengthField wrote
    have header : (plan.hdr ++ (field ++ plan.number)).length =
        plan.pktNumOffset pktType + plan.pktNumLen := by
      rw [List.length_append, List.length_append, width, planned.number, PacketPlan.pktNumOffset,
        Nat.add_assoc]
    refine ⟨rfl, rfl, ?_⟩
    dsimp only at encrypted ⊢
    by_cases disabled : sender.isEncryptionDisabled pktType = true
    · rw [if_pos disabled] at encrypted ⊢
      cases encrypted
      rw [List.length_append, header]
      rfl
    · rw [if_neg disabled] at encrypted ⊢
      rw [length_encryptPacket works encrypted, header]
      rfl

end Finish

/-- Whether the writers end a packet when it is too short for a sample. -/
def Stalls (sender : PacketSender) (outLen left : Nat) (pktType : PacketType) (first : Bool) :
    Prop :=
  ∃ plan, sender.plan outLen left pktType = .ok plan ∧
    StallsFrom plan.pktNumLen plan.left 0
      (FrameWriter.dueFrames (outLen - plan.payloadOffset pktType) plan.left pktType first 0
        (sender.start plan))

end PacketSender

/-- Whether the receiver of a packet finds what it needs to remove the header protection. -/
def PacketBytes.HasSample (packet : PacketBytes) (encrypted : Bool) : Prop :=
  packet.pktNumOffset + maxPktNumLen + (if encrypted then sampleLen else 0) ≤ packet.bytes.length

namespace PacketSender

variable {sender : PacketSender} {out : Bytes} {left : Nat} {pktType : PacketType}
  {first hasInitial : Bool} {conn : FrameWriter}

private theorem dueRest_long {room w : Nat} (other : pktType ≠ .oneRtt) :
    FrameWriter.dueRest room pktType w conn = [] := by
  have data : ∀ w, FrameWriter.dueData room pktType w conn = [] := by
    intro w
    have token : FrameWriter.dueNewToken pktType w conn = [] := by
      simp [FrameWriter.dueNewToken, FrameWriter.newTokenFrame, other]
    unfold FrameWriter.dueData FrameWriter.dueBuffered FrameWriter.dueStreams
    rw [token]
    split_ifs <;> rfl
  have control : ∀ w, FrameWriter.dueControl room pktType w conn = [] := by
    intro w
    rw [FrameWriter.dueControl, if_pos (by simp [other]), data]
  have handshakeDone : FrameWriter.dueHandshakeDone pktType conn = [] := if_neg (by simp [other])
  have cids : ∀ w, FrameWriter.dueCids pktType
      (FrameWriter.thenDue (FrameWriter.dueHandshakeDone pktType)
        (FrameWriter.dueControl room pktType)) w conn = [] := by
    intro w
    rw [FrameWriter.dueCids, if_pos (by simp [other]), FrameWriter.thenDue, handshakeDone, control]
    rfl
  have responses : FrameWriter.duePathResponses pktType conn = [] := if_pos other
  have challenge : FrameWriter.duePathChallenge pktType conn = [] := if_pos other
  simp only [FrameWriter.dueRest, FrameWriter.thenDue, responses, challenge, List.nil_append]
  exact cids _

private theorem dueFrames_long {bufLen room : Nat} (other : pktType ≠ .oneRtt) :
    ∀ frame ∈ FrameWriter.dueFrames bufLen room pktType first 0 conn, 3 ≤ frame.wireLen := by
  intro frame member
  have rest : ∀ w, (if conn.limited || conn.probes bufLen pktType first then []
      else FrameWriter.dueRest room pktType w conn) = [] := by
    intro w
    rw [dueRest_long other, ite_self]
  rw [FrameWriter.dueFrames, FrameWriter.thenDue, FrameWriter.thenDue, rest, List.append_nil,
    List.mem_append] at member
  rcases member with ack | close
  · unfold FrameWriter.dueAck at ack
    split_ifs at ack with idle
    · cases ack
    · cases List.mem_singleton.mp ack
      simp only [Bool.or_eq_true, not_or, Bool.not_eq_true] at idle
      exact FrameWriter.ack_long _ idle.1.1.1
  · unfold FrameWriter.dueClose at close
    split_ifs at close
    · cases close
    · exact FrameWriter.closeFrame_long (Option.mem_toList.mp close)

private theorem not_stalls_long {pktNumLen room : Nat} {due : List Frame} (numbered : 0 < pktNumLen)
    (long : ∀ frame ∈ due, 3 ≤ frame.wireLen) : ¬ StallsFrom pktNumLen room 0 due := by
  rintro ⟨sent, next, rest, rfl, some, short, _⟩
  cases sent with
  | nil => exact lt_irrefl 0 some
  | cons frame sent =>
    have three := long frame List.mem_cons_self
    simp only [framesLen, List.map_cons, List.sum_cons] at short
    unfold minPayloadLen at short
    omega

private theorem sendFrames_planned {plan : PacketPlan}
    (ran : sender.plan out.length left pktType = .ok plan) :
    Fuelled.Leads (¬ sender.Stalls out.length left pktType first)
      (fun after => ¬ sender.Stalls out.length left pktType first ∧
        minPayloadLen ≤ after.st.written)
      (FrameWriter.Halts plan.pktNumLen (sender.Stalls out.length left pktType first))
      (FrameWriter.sendFrames (out.length - plan.payloadOffset pktType) plan.left pktType first
        hasInitial (sender.start plan)) := by
  have known := planned ran
  refine FrameWriter.sendFrames_leads ⟨known.numbered, known.roomy⟩ rfl (fun oneRtt => ?_) ?_
  · have length := known.overhead oneRtt
    have header := (known.header oneRtt).2
    have short := known.short
    change plan.overhead + minPayloadLen ≤ defaultSendUdpPayloadSize
    unfold maxCidLen at header
    unfold maxPktNumLen at short
    unfold tagLen at length
    unfold minPayloadLen defaultSendUdpPayloadSize
    split_ifs at length <;> omega
  · refine Iff.intro (fun stalls => ⟨plan, ran, stalls⟩) ?_
    rintro ⟨other, again, stalls⟩
    rw [ran] at again
    cases again
    exact stalls

theorem Stalls.oneRtt (stalls : sender.Stalls out.length left pktType first) :
    pktType = .oneRtt := by
  obtain ⟨plan, ran, stalls⟩ := stalls
  by_contra other
  exact not_stalls_long (planned ran).numbered (dueFrames_long other) stalls

private theorem hasSample_iff {packet : PacketBytes} {encrypted : Bool}
    (length : packet.bytes.length = packet.pktNumOffset + packet.pktNumLen + packet.payloadLen +
      if encrypted then tagLen else 0) :
    packet.HasSample encrypted ↔ 4 ≤ packet.pktNumLen + packet.payloadLen := by
  unfold PacketBytes.HasSample
  rw [length]
  unfold maxPktNumLen sampleLen tagLen
  split_ifs <;> omega

theorem finish_sampled {after : PacketSender} {outLen : Nat} {plan : PacketPlan}
    {packet : PacketBytes} (planned : sender.Planned outLen pktType plan) (works : plan.key.Works)
    (enough : 4 ≤ plan.pktNumLen + conn.st.written)
    (finished : sender.finish plan out pktType conn = (.ok packet, after)) :
    4 ≤ packet.pktNumLen + packet.payloadLen ∧
      packet.HasSample (!sender.isEncryptionDisabled pktType) := by
  obtain ⟨number, payload, length⟩ := finish_lengths planned works finished
  have sampled : 4 ≤ packet.pktNumLen + packet.payloadLen := by rw [number, payload]; exact enough
  refine ⟨sampled, (hasSample_iff ?_).mpr sampled⟩
  rw [length]
  cases sender.isEncryptionDisabled pktType <;> rfl

/-- The receiver of every packet finds a sample, unless the writers end a packet too early. -/
theorem every_packet_sampled (sender : PacketSender) (out : Bytes) (left : Nat)
    (pktType : PacketType) (first hasInitial : Bool)
    (works : ∀ key, sender.sealKey = some key → key.Works) :
    (∀ packet after, sender.sendPacket out left pktType first hasInitial =
        some (.ok packet, after) →
      4 ≤ packet.pktNumLen + packet.payloadLen ∧
        packet.HasSample (!sender.isEncryptionDisabled pktType)) ↔
      ¬ sender.Stalls out.length left pktType first := by
  unfold sendPacket
  cases ran : sender.plan out.length left pktType with
  | error error =>
    refine iff_of_true (fun packet after sent => by cases sent) ?_
    rintro ⟨plan, again, _⟩
    rw [ran] at again
    cases again
  | ok plan =>
    have known := planned ran
    have key := works plan.key known.keyed
    have leads := @sendFrames_planned sender out left pktType first hasInitial plan ran
    dsimp only
    generalize FrameWriter.sendFrames (out.length - plan.payloadOffset pktType) plan.left pktType
      first hasInitial (sender.start plan) = outcome at leads
    match outcome, leads with
    | none, goesOn => exact iff_of_true (fun packet after sent => by cases sent) goesOn
    | some (.ok _, conn), reached =>
      obtain ⟨goesOn, full⟩ := reached
      refine iff_of_true (fun packet after sent => ?_) goesOn
      refine finish_sampled known key ?_ (Option.some.inj sent)
      unfold minPayloadLen at full
      omega
    | some (.error error, conn), halts =>
      dsimp only
      split_ifs with ended
      · obtain ⟨done, some⟩ := ended
        constructor
        · intro sampled stalls
          obtain ⟨_, _, tiny⟩ := halts.mpr stalls
          obtain ⟨packet, after, finished, number, payload⟩ :=
            @finish_short sender out pktType plan conn known key stalls.oneRtt
              (le_trans (Nat.le_add_left _ _) tiny.le)
          have four := (sampled packet after (congrArg Option.some finished)).1
          unfold minPayloadLen at tiny
          omega
        · intro goesOn packet after sent
          refine finish_sampled known key ?_ (Option.some.inj sent)
          by_contra short
          refine goesOn (halts.mp ⟨done, some, ?_⟩)
          unfold minPayloadLen
          omega
      · refine iff_of_true (fun packet after sent => by cases sent) fun stalls => ?_
        obtain ⟨done, some, _⟩ := halts.mpr stalls
        exact ended ⟨done, some⟩

def plainKey : Seal where
  sealPayload _ _ _ payload room :=
    if room < payload.length + tagLen then .error .bufferTooShort
    else .ok (payload ++ List.replicate tagLen 0)
  newMask _ := .ok (Vector.replicate 5 0xff)

theorem plainKey_works : plainKey.Works where
  seals _ _ _ payload room fits := ⟨_, if_neg (Nat.not_lt_of_le fits)⟩
  tagged _ _ _ payload room ciphertext encrypts := by
    unfold plainKey at encrypts
    dsimp only at encrypts
    split_ifs at encrypts
    cases encrypts
    rw [List.length_append, List.length_replicate]
  masks _ _ := ⟨_, rfl⟩

/-- A server whose client has replaced its first id. The limit of the connection was met. -/
def retiringServer : PacketSender :=
  { conn :=
      { isServer := true
        handshakeCompleted := true
        enableMultipath := false
        bufferRequired := false
        localError := none
        token := none
        needSendHandshakeDone := false
        needSendNewToken := false
        pathId := 0
        path :=
          { Path.initial (.localhost 1) (.localhost 2) 1200 true true with
            active := true
            dcidSeq := some 1 }
        pathsLen := 1
        needSendPing := false
        dplpmtud := .new false 1200 false (le_refl _)
        peerMaxUdpPayloadSize := 1200
        peerLarge := le_refl _
        recovery :=
          { canSend := true, congestionWindow := 12000, inRecovery := false, smoothedRtt := 0 }
        recvPktNumNeedAck := .default
        needSendAck := false
        ackDelay := 0
        cids :=
          { ConnectionIdMgr.new 2 (.new [7]) 0 none with
            dcids :=
              { queue :=
                  [{ cid := .new [9, 9, 9, 9], seq := 1, resetToken := none, pathId := some 0 }]
                capacity := 3 }
            dcidsToRetire := [0] }
        streams := (StreamMap.new true 1000 1000 {} none).updateDataBlockedAt (some 1000)
        crypto := .new 1000
        buffered := .default
        now := 0
        challenge := Vector.replicate 8 0
        st := {} }
    draining := false
    disableEncryption := false
    version := 1
    keyPhase := false
    sealKey := some plainKey
    nextPktNum := 3
    largestAcked := some 1
    needElicitAck := false
    lossProbes := 0 }

def closingServer : PacketSender :=
  { retiringServer with
    conn :=
      { retiringServer.conn with
        localError := some { isApp := false, errorCode := 1, reason := [] } } }

/-- A Handshake packet that closes the connection has a sample. -/
theorem every_packet_sampled_closing :
    (∃ packet after, closingServer.sendPacket (List.replicate 60 0) 60 .handshake false false =
        some (.ok packet, after)) ∧
      ∀ packet after, closingServer.sendPacket (List.replicate 60 0) 60 .handshake false false =
          some (.ok packet, after) →
        4 ≤ packet.pktNumLen + packet.payloadLen ∧ packet.HasSample true := by
  refine ⟨⟨_, _, rfl⟩, (every_packet_sampled closingServer _ 60 .handshake false false ?_).mpr ?_⟩
  · rintro _ ⟨⟩
    exact plainKey_works
  · intro stalls
    cases stalls.oneRtt

/-- After RETIRE_CONNECTION_ID there is no room for DATA_BLOCKED in the last 26 bytes of a
datagram. The packet number and the payload have 3 bytes. -/
theorem packet_without_sample :
    ¬ ∀ (sender : PacketSender) (out : Bytes) (left : Nat) (pktType : PacketType)
      (first hasInitial : Bool), (∀ key, sender.sealKey = some key → key.Works) →
      ∀ packet after, sender.sendPacket out left pktType first hasInitial =
          some (.ok packet, after) →
        4 ≤ packet.pktNumLen + packet.payloadLen ∧
          packet.HasSample (!sender.isEncryptionDisabled pktType) := by
  intro always
  have tiny : ∃ packet after, retiringServer.sendPacket (List.replicate 26 0) 26 .oneRtt false
      false = some (.ok packet, after) ∧ packet.pktNumLen = 1 ∧ packet.payloadLen = 2 := by
    have lengths : (retiringServer.sendPacket (List.replicate 26 0) 26 .oneRtt false false).any
        (fun sent => sent.1.toOption.any fun packet =>
          packet.pktNumLen == 1 && packet.payloadLen == 2) = true := by
      decide +kernel
    obtain ⟨⟨result, after⟩, sent, found⟩ := (Option.any_eq_true _ _).mp lengths
    cases result with
    | error error => cases found
    | ok packet =>
      obtain ⟨number, payload⟩ := Bool.and_eq_true_iff.mp found
      exact ⟨packet, after, sent, beq_iff_eq.mp number, beq_iff_eq.mp payload⟩
  obtain ⟨packet, after, sent, number, payload⟩ := tiny
  have works : ∀ key, retiringServer.sealKey = some key → key.Works := by
    rintro _ ⟨⟩
    exact plainKey_works
  have sampled := (always retiringServer _ 26 .oneRtt false false works packet after sent).1
  rw [number, payload] at sampled
  exact absurd sampled (by decide)

end PacketSender

end Connection

end Tquic
