import Tquic.Connection.DueFrames
import Tquic.Connection.StreamSilence

/-! What the writers of data and the end of a packet make of the frames that are due. -/

set_option autoImplicit false

namespace Tquic.Connection

open Lib
open StreamMap (streamHeaderWireLen maxStreamOverhead)

namespace FrameWriter

section Data

variable {pktNumLen room : Nat} {stalled : Prop} {due later : Nat → FrameWriter → List Frame}
  {conn : FrameWriter}

/-! ## Writers of data -/

/-- Enough for a sample is written, or the packet fails for another reason. -/
abbrev Sampled (pktNumLen : Nat) : Option (Except Error Unit × FrameWriter) → Prop :=
  Fuelled.Leads True
    (fun after => after.st.frames ≠ [] ∧ minPayloadLen ≤ pktNumLen + after.st.written)
    (fun error _ => error ≠ .done)

theorem Sampled.goes {outcome : Option (Except Error Unit × FrameWriter)} (silent : ¬ stalled)
    (sampled : Sampled pktNumLen outcome) : Goes pktNumLen room stalled later outcome := by
  match outcome, sampled with
  | none, _ => exact silent
  | some (.ok _, after), sampled =>
    exact ⟨fun none => absurd none sampled.1, iff_of_false (not_stallsFrom_full sampled.2) silent⟩
  | some (.error error, after), sampled =>
    exact iff_of_false (fun halts => sampled halts.1) silent

variable {pktType : PacketType}

private theorem tryWriteCryptoFrame_goes (ample : Ample pktNumLen room)
    (poised : Poised pktNumLen room stalled (dueData room pktType) conn) :
    Goes pktNumLen room stalled (dueBuffered room pktType)
      (tryWriteCryptoFrame room pktType conn) := by
  have passes : cryptoDue room pktType conn.st.written conn = false →
      Poised pktNumLen room stalled (dueBuffered room pktType) conn :=
    fun idle => poised.congr (by rw [dueData, idle]; rfl)
  unfold tryWriteCryptoFrame
  dsimp only
  split_ifs with early unready small
  · exact passes (by simp [cryptoDue, early])
  · refine passes ?_
    simp only [Bool.not_eq_true', Bool.and_eq_false_iff] at unready
    unfold cryptoDue
    simp only [Bool.and_eq_false_iff]
    tauto
  · refine passes ?_
    unfold cryptoDue
    simp only [Bool.and_eq_false_iff]
    exact .inr (decide_eq_false (Nat.not_lt_of_le small))
  · have silent : ¬ stalled := by
      refine not_poised_nothing poised (if_pos ?_)
      simp only [Bool.not_eq_true, Bool.not_eq_false', Bool.and_eq_true] at unready
      simp only [cryptoDue, Bool.and_eq_true, decide_eq_true_eq]
      exact ⟨⟨⟨⟨⟨by simpa using early, unready.1.1.1⟩, by simpa using unready.1.1.2⟩,
        unready.1.2⟩, unready.2⟩, Nat.lt_of_not_le small⟩
    refine Sampled.goes silent ?_
    cases conn.crypto.read (room - conn.st.written - cryptoHeaderWireLen conn.crypto.sendOff) with
    | none => exact trivial
    | some result =>
      obtain ⟨⟨data, fin⟩, crypto⟩ := result
      dsimp only
      have spends := Frame.spends_cryptoHeader conn.crypto.sendOff data.length
      cases ran : (Frame.encodeCryptoHeader conn.crypto.sendOff data.length).run
          { written := [], room := room - conn.st.written } with
      | error error => exact spends.fails _ _ ran
      | ok encoded =>
        obtain ⟨done, header⟩ := encoded
        have length := spends.length _ _ _ ran
        have one := encodeVarintLen_pos conn.crypto.sendOff
        have numbered := ample.numbered
        refine ⟨List.append_ne_nil_of_right_ne_nil _ (List.cons_ne_nil _ _), ?_⟩
        change minPayloadLen ≤ pktNumLen + (conn.st.payload ++ (header.written ++ data)).length
        rw [List.length_append, List.length_append, length]
        unfold minPayloadLen
        omega

/-! ## Buffered frames -/

/-- Nothing was written, or enough for a sample. -/
def Grown (before after : FrameWriteStatus) : Prop :=
  after = before ∨ after.frames ≠ [] ∧ before.written + 5 ≤ after.written

theorem Grown.trans {first second third : FrameWriteStatus} (head : Grown first second)
    (tail : Grown second third) : Grown first third := by
  rcases head with rfl | ⟨_, more⟩
  · exact tail
  · rcases tail with rfl | ⟨filled, rest⟩
    · exact .inr ⟨by assumption, more⟩
    · exact .inr ⟨filled, by omega⟩

/-- The steps may fail, but not with `Done`. -/
def Completes {α : Type} (post : α → Prop) : Except Error α → Prop
  | .error error => error ≠ .done
  | .ok value => post value

theorem Completes.mono {α : Type} {post weaker : α → Prop} {result : Except Error α}
    (completes : Completes post result) (weakens : ∀ value, post value → weaker value) :
    Completes weaker result := by
  cases result with
  | error error => exact completes
  | ok value => exact weakens value completes

/-- With room for a STREAM frame, enough for a sample is written. -/
def Sends (outLen : Nat) (before after : FrameWriteStatus) : Prop :=
  Grown before after ∧ (maxStreamOverhead < outLen - before.written →
    after.frames ≠ [] ∧ before.written + 5 ≤ after.written)

section Buffered

variable {streams : StreamMap} {outLen : Nat} {packing : Packing}

theorem writeBuffered_sends {streamId offset : Nat} {fin : Bool} {data : Bytes}
    {bufferType : BufferType} {st : FrameWriteStatus} :
    Completes (fun result => Sends outLen st result.2)
      (writeBufferedStreamFrameToPacket streamId offset fin data outLen bufferType st) := by
  unfold writeBufferedStreamFrameToPacket
  by_cases full : outLen - st.written ≤ maxStreamOverhead
  · simp only [if_pos full]
    exact ⟨.inl rfl, fun roomy => absurd roomy (Nat.not_lt_of_le full)⟩
  · simp only [if_neg full]
    generalize min data.length (outLen - st.written - streamHeaderWireLen streamId offset) = dataLen
    generalize (if dataLen < data.length then false else fin) = last
    have spends := Frame.spends_streamHeader streamId offset dataLen last
    cases ran : (Frame.encodeStreamHeader streamId offset dataLen last).run
        { written := [], room := outLen - st.written } with
    | error error => exact spends.fails _ _ ran
    | ok encoded =>
      obtain ⟨done, header⟩ := encoded
      have length := spends.length _ _ _ ran
      have one := encodeVarintLen_pos streamId
      have two := encodeVarintLen_pos offset
      have grown : st.written + 5 ≤
          (st.payload ++ (header.written ++ data.take dataLen)).length := by
        rw [List.length_append, List.length_append, length, FrameWriteStatus.written]
        simp only [List.length_nil]
        omega
      have filled := List.append_ne_nil_of_right_ne_nil st.frames
        (List.cons_ne_nil (Frame.stream streamId offset (data.take dataLen).length last
          (data.take dataLen)) [])
      exact ⟨.inr ⟨filled, grown⟩, fun _ => ⟨filled, grown⟩⟩

theorem writePart_sends {streamId offset length : Nat} {fin : Bool} {data : Bytes} {part : Range}
    {bufferType : BufferType} {turn : Turn} :
    Completes (fun done => Sends outLen turn.after.st done.after.st)
      (writePart streamId offset length fin data part outLen bufferType turn) := by
  have sliced : ∀ {start stop : Nat} {error : Error}, slice data start stop = .error error →
      error ≠ .done := by
    intro start stop error failed
    unfold slice at failed
    split_ifs at failed
    cases failed
    decide
  unfold writePart
  cases first : slice data (part.start - offset) (part.stop - offset) with
  | error error => exact sliced first
  | ok unacked =>
    have written := @writeBuffered_sends outLen streamId part.start
      (fin && part.stop = offset + length) unacked bufferType turn.after.st
    simp only [bind, Except.bind, pure, Except.pure]
    cases ran : writeBufferedStreamFrameToPacket streamId part.start
        (fin && part.stop = offset + length) unacked outLen bufferType turn.after.st with
    | error error =>
      rw [ran] at written
      exact written
    | ok result =>
      rw [ran] at written
      dsimp only
      split_ifs
      · cases last : slice data (length - (offset + length - part.start - result.1))
            data.length with
        | error error => exact sliced last
        | ok tail => exact written
      · exact written

/-- A frame in front is dropped if all of it was acknowledged; else its turn writes or fails. -/
theorem nextTurn_front {frame : Frame} {kind : BufferType} {rest : BufferQueue}
    (front : packing.buffered.popFront = some (frame, kind, rest)) :
    (unacked streams frame = false ∧ ∃ turn, nextTurn streams outLen packing = some (.ok turn) ∧
        turn.after = { packing with buffered := rest } ∧ turn.last = false) ∨
      unacked streams frame = true ∧ ∃ result, nextTurn streams outLen packing = some result ∧
        Completes (fun turn => Sends outLen packing.st turn.after.st) result := by
  unfold nextTurn
  rw [front]
  let popped : Turn :=
    { before := packing
      popped := frame
      back := none
      after := { packing with buffered := rest }
      last := false }
  cases frame with
  | stream streamId offset length fin data =>
    dsimp only
    cases opened : streams.get streamId with
    | none => exact .inl ⟨by simp [unacked, opened], popped, rfl, rfl, rfl⟩
    | some stream =>
      dsimp only
      cases filtered : stream.send.filterAcked ⟨offset, offset + length⟩ with
      | none => exact .inl ⟨by simp [unacked, opened, filtered], popped, rfl, rfl, rfl⟩
      | some part =>
        refine .inr ⟨by simp [unacked, opened, filtered], _, rfl, ?_⟩
        exact @writePart_sends outLen streamId offset length fin data part kind popped
  | _ => exact .inl ⟨rfl, popped, rfl, rfl, rfl⟩

def Turned (post : FrameWriteStatus → Prop) : Option (Except Error (List Turn × Packing)) → Prop
  | none => True
  | some result => Completes (fun done => post done.2.st) result

theorem Turned.mono {post weaker : FrameWriteStatus → Prop}
    {outcome : Option (Except Error (List Turn × Packing))} (turned : Turned post outcome)
    (weakens : ∀ st, post st → weaker st) : Turned weaker outcome := by
  cases outcome with
  | none => trivial
  | some result => exact Completes.mono turned fun done => weakens done.2.st

theorem Turned.behind {post : FrameWriteStatus → Prop} {turn : Turn}
    {outcome : Option (Except Error (List Turn × Packing))} (turned : Turned post outcome) :
    Turned post (outcome.map (·.map fun later => (turn :: later.1, later.2))) := by
  match outcome, turned with
  | none, _ => trivial
  | some (.error error), turned => exact turned
  | some (.ok later), turned => exact turned

theorem Sends.andThen {before middle after : FrameWriteStatus} (sends : Sends outLen before middle)
    (grown : Grown middle after) : Sends outLen before after := by
  refine ⟨sends.1.trans grown, fun roomy => ?_⟩
  obtain ⟨filled, more⟩ := sends.2 roomy
  rcases grown with rfl | ⟨some, rest⟩
  · exact ⟨filled, more⟩
  · exact ⟨some, by omega⟩

section Turns

variable {fuel : Nat} {frame : Frame} {kind : BufferType} {rest : BufferQueue}

theorem writeTurns_none (empty : packing.buffered.popFront = none) :
    writeTurns streams outLen (fuel + 1) packing = some (.ok ([], packing)) := by
  have ended : nextTurn streams outLen packing = none := by
    unfold nextTurn
    rw [empty]
  unfold writeTurns
  rw [ended]

theorem writeTurns_drop (front : packing.buffered.popFront = some (frame, kind, rest))
    (acked : unacked streams frame = false) :
    ∃ turn, writeTurns streams outLen (fuel + 1) packing =
      (writeTurns streams outLen fuel { packing with buffered := rest }).map
        (·.map fun later => (turn :: later.1, later.2)) := by
  rcases @nextTurn_front streams outLen packing frame kind rest front with
    ⟨_, turn, taken, after, goesOn⟩ | ⟨left, _⟩
  · refine ⟨turn, ?_⟩
    conv_lhs => unfold writeTurns
    rw [taken]
    dsimp only
    rw [goesOn, after]
    rfl
  · rw [acked] at left
    cases left

theorem writeTurns_part (front : packing.buffered.popFront = some (frame, kind, rest))
    (due : unacked streams frame = true)
    (later : ∀ packing, Turned (Grown packing.st) (writeTurns streams outLen fuel packing)) :
    Turned (Sends outLen packing.st) (writeTurns streams outLen (fuel + 1) packing) := by
  rcases @nextTurn_front streams outLen packing frame kind rest front with
    ⟨acked, _⟩ | ⟨_, result, taken, completes⟩
  · rw [due] at acked
    cases acked
  · unfold writeTurns
    rw [taken]
    cases result with
    | error error => exact completes
    | ok turn =>
      dsimp only
      split_ifs
      · exact completes
      · exact Turned.behind (Turned.mono (later turn.after) fun st grown =>
          Sends.andThen completes grown)

private theorem writeTurns_grown (fuel : Nat) (packing : Packing) :
    Turned (Grown packing.st) (writeTurns streams outLen fuel packing) := by
  induction fuel generalizing packing with
  | zero => trivial
  | succ fuel ih =>
    cases front : packing.buffered.popFront with
    | none =>
      rw [writeTurns_none front]
      exact .inl rfl
    | some popped =>
      obtain ⟨frame, kind, rest⟩ := popped
      cases due : unacked streams frame with
      | true => exact Turned.mono (writeTurns_part front due ih) fun _ sends => sends.1
      | false =>
        obtain ⟨turn, ran⟩ := @writeTurns_drop streams outLen _ fuel _ _ _ front due
        rw [ran]
        exact Turned.behind (ih { packing with buffered := rest })

private theorem writeTurns_sends (roomy : maxStreamOverhead < outLen - packing.st.written)
    (due : packing.buffered.frames.any (unacked streams) = true) :
    Turned (fun after => after.frames ≠ [] ∧ packing.st.written + 5 ≤ after.written)
      (writeTurns streams outLen fuel packing) := by
  induction fuel generalizing packing with
  | zero => trivial
  | succ fuel ih =>
    cases front : packing.buffered.popFront with
    | none =>
      rw [BufferQueue.popFront_none front] at due
      cases due
    | some popped =>
      obtain ⟨frame, kind, rest⟩ := popped
      cases here : unacked streams frame with
      | true =>
        exact Turned.mono (writeTurns_part front here (writeTurns_grown fuel))
          fun _ sends => sends.2 roomy
      | false =>
        rw [BufferQueue.popFront_frames front, List.any_cons, here, Bool.false_or] at due
        obtain ⟨turn, ran⟩ := @writeTurns_drop streams outLen _ fuel _ _ _ front here
        rw [ran]
        exact Turned.behind (@ih { packing with buffered := rest } roomy due)

/-- Frames of which nothing is left to be sent are taken out. -/
theorem writeTurns_idle (enough : packing.buffered.weight < fuel)
    (idle : packing.buffered.frames.any (unacked streams) = false) :
    ∃ turns after, writeTurns streams outLen fuel packing = some (.ok (turns, after)) ∧
      after.st = packing.st := by
  induction fuel generalizing packing with
  | zero => exact absurd enough (Nat.not_lt_zero _)
  | succ fuel ih =>
    cases front : packing.buffered.popFront with
    | none => exact ⟨[], packing, writeTurns_none front, rfl⟩
    | some popped =>
      obtain ⟨frame, kind, rest⟩ := popped
      have lighter := weight_popFront front
      have positive := frameWeight_pos frame
      rw [BufferQueue.popFront_frames front, List.any_cons, Bool.or_eq_false_iff] at idle
      obtain ⟨turn, dropped⟩ := @writeTurns_drop streams outLen _ fuel _ _ _ front idle.1
      obtain ⟨turns, after, ran, same⟩ := @ih { packing with buffered := rest }
        (by dsimp only; omega) idle.2
      rw [dropped, ran]
      exact ⟨turn :: turns, after, rfl, same⟩

end Turns

end Buffered

private theorem writeBufferedFrames_goes (ample : Ample pktNumLen room)
    (poised : Poised pktNumLen room stalled (dueBuffered room pktType) conn) :
    Goes pktNumLen room stalled (dueStreams room pktType)
      (writeBufferedFrames room pktType conn) := by
  have passes : bufferedDue room pktType conn.st.written conn = false →
      Poised pktNumLen room stalled (dueStreams room pktType) conn :=
    fun idle => poised.congr (by rw [dueBuffered, idle]; rfl)
  unfold writeBufferedFrames tryWriteBufferedFrames
  by_cases single : (!conn.enableMultipath) = true
  · rw [if_pos single]
    exact passes (by simp only [Bool.not_eq_true'] at single; simp [bufferedDue, single])
  rw [if_neg single]
  by_cases early : (decide (pktType ≠ .oneRtt) || conn.isClosing ||
      decide (room - conn.st.written ≤ maxStreamOverhead) || !conn.path.isActive) = true
  · rw [if_pos early]
    refine passes ?_
    simp only [Bool.or_eq_true, decide_eq_true_eq, Bool.not_eq_true', ne_eq] at early
    rcases early with ((early | closing) | small) | inactive
    · simp [bufferedDue, early]
    · simp [bufferedDue, closing]
    · simp [bufferedDue, Nat.not_lt_of_le small]
    · simp [bufferedDue, inactive]
  rw [if_neg early]
  simp only [Bool.or_eq_true, decide_eq_true_eq, Bool.not_eq_true', ne_eq, not_or, not_not,
    Nat.not_le, Bool.not_eq_false, Bool.not_eq_true] at early single
  obtain ⟨⟨⟨oneRtt, opened⟩, roomy⟩, active⟩ := early
  have due : bufferedDue room pktType conn.st.written conn =
      conn.buffered.frames.any (unacked conn.streams) := by
    simp [bufferedDue, single, oneRtt, opened, roomy, active]
  by_cases empty : conn.buffered.isEmpty = true
  · rw [if_pos empty]
    exact passes (by rw [due, BufferQueue.frames_of_isEmpty empty]; rfl)
  rw [if_neg empty]
  cases left : conn.buffered.frames.any (unacked conn.streams) with
  | false =>
    obtain ⟨turns, after, ran, same⟩ := @writeTurns_idle conn.streams room
      ⟨conn.buffered, conn.st⟩ _ (Nat.lt_succ_self _) left
    have kept := passes (due.trans left)
    rw [ran]
    dsimp only
    rw [same]
    exact ⟨kept.blank, kept.decides⟩
  | true =>
    have silent := not_poised_nothing poised (if_pos (due.trans left))
    have sent := @writeTurns_sends conn.streams room ⟨conn.buffered, conn.st⟩
      (conn.buffered.weight + 1) roomy left
    have numbered := ample.numbered
    refine Sampled.goes silent ?_
    generalize writeTurns conn.streams room (conn.buffered.weight + 1)
      ⟨conn.buffered, conn.st⟩ = outcome at sent
    match outcome, sent with
    | none, _ => exact trivial
    | some (.error error), sent => exact sent
    | some (.ok done), sent =>
      refine ⟨sent.1, ?_⟩
      have grown := sent.2
      change minPayloadLen ≤ pktNumLen + done.2.st.written
      unfold minPayloadLen
      dsimp only at grown
      omega

/-! ## STREAM frames -/

/-- The steps write nothing or enough for a sample, and do not fail with `Done`. -/
abbrev Adds (before : FrameWriteStatus) : Option (Except Error Unit × FrameWriter) → Prop :=
  Fuelled.Leads True (fun after => Grown before after.st) (fun error _ => error ≠ .done)

section Streams

variable {fuel cap : Nat} {id : Nat} {rest : List Nat}

theorem writeStreams_nil (empty : conn.streams.sendOrder = []) :
    writeStreamFrames (fuel + 1) cap conn = some (.ok (), conn) := by
  unfold writeStreamFrames
  rw [StreamMap.peekSendable_nil empty]
  rfl

/-- The entry of a stream that is gone or was stopped is removed. -/
theorem writeStreams_skip (order : conn.streams.sendOrder = id :: rest)
    (dead : sends conn.streams id = false) :
    ∃ streams : StreamMap, writeStreamFrames (fuel + 1) cap conn =
        writeStreamFrames fuel cap { conn with streams } ∧
      streams.sendOrder = rest ∧ streams.get = conn.streams.get ∧
        streams.sendableLen < conn.streams.sendableLen := by
  obtain ⟨middle, looked, removed⟩ := StreamMap.peekSendable_cons order
  have kept := (StreamMap.peekSendable_requeue conn.streams).1.quiet
  have fewer := (StreamMap.sendableLen_peekSendable conn.streams).2 id
  rw [looked] at kept fewer
  have gone : (middle.get id).filter (fun stream => !stream.send.isStopped) = none := by
    rw [kept.get]
    unfold sends at dead
    cases found : conn.streams.get id with
    | none => rfl
    | some stream =>
      rw [found, Option.any_some] at dead
      rw [Option.filter_some, if_neg (Bool.not_eq_true _ ▸ dead)]
  refine ⟨middle.removeSendable, ?_, removed, ?_, fewer rfl⟩
  · conv_lhs => unfold writeStreamFrames
    rw [looked]
    dsimp only
    rw [gone]
  · funext other
    rw [(StreamMap.removeSendable_requeue middle).quiet.get, kept.get]

/-- A live stream in front gets a frame of at least five bytes, or there is an error other than
Done. -/
theorem writeStreams_live (order : conn.streams.sendOrder = id :: rest)
    (live : sends conn.streams id = true)
    (later : ∀ cap conn, Adds conn.st (writeStreamFrames fuel cap conn)) :
    Fuelled.Leads True
      (fun after => after.st.frames ≠ [] ∧ conn.st.written + 5 ≤ after.st.written)
      (fun error _ => error ≠ .done) (writeStreamFrames (fuel + 1) cap conn) := by
  obtain ⟨middle, looked, _⟩ := StreamMap.peekSendable_cons order
  have kept := (StreamMap.peekSendable_requeue conn.streams).1.quiet
  rw [looked] at kept
  obtain ⟨stream, found⟩ : ∃ stream,
      (middle.get id).filter (fun stream => !stream.send.isStopped) = some stream := by
    rw [kept.get]
    unfold sends at live
    cases found : conn.streams.get id with
    | none =>
      rw [found] at live
      cases live
    | some stream =>
      rw [found, Option.any_some] at live
      exact ⟨stream, by rw [Option.filter_some, if_pos live]⟩
  unfold writeStreamFrames
  rw [looked]
  dsimp only
  rw [found]
  dsimp only
  cases stream.send.read (cap - streamHeaderWireLen id stream.send.sendOff) with
  | none => trivial
  | some result =>
    obtain ⟨⟨bytes, fin⟩, send⟩ := result
    dsimp only
    have spends := Frame.spends_streamHeader id stream.send.sendOff bytes.length fin
    cases ran : (Frame.encodeStreamHeader id stream.send.sendOff bytes.length fin).run
        { written := [], room := streamHeaderWireLen id stream.send.sendOff } with
    | error error => exact spends.fails _ _ ran
    | ok encoded =>
      obtain ⟨done, header⟩ := encoded
      have length := spends.length _ _ _ ran
      have one := encodeVarintLen_pos id
      have two := encodeVarintLen_pos stream.send.sendOff
      have grown : conn.st.written + 5 ≤
          (conn.st.payload ++ (header.written ++ bytes)).length := by
        rw [List.length_append, List.length_append, length, FrameWriteStatus.written]
        simp only [List.length_nil]
        omega
      have filled : ∀ frame : Frame, conn.st.frames ++ [frame] ≠ [] := fun frame =>
        List.append_ne_nil_of_right_ne_nil _ (List.cons_ne_nil _ _)
      dsimp only
      split_ifs
      all_goals try exact ⟨filled _, grown⟩
      all_goals
        refine Fuelled.Leads.mono (later _ _) (fun after more => ?_) fun _ _ other => other
        rcases more with same | ⟨some, more⟩
        · rw [same]
          exact ⟨filled _, grown⟩
        · exact ⟨some, le_trans grown (le_trans (Nat.le_add_right _ 5) more)⟩

private theorem writeStreams_adds (fuel cap : Nat) (conn : FrameWriter) :
    Adds conn.st (writeStreamFrames fuel cap conn) := by
  induction fuel generalizing conn cap with
  | zero => trivial
  | succ fuel ih =>
    cases order : conn.streams.sendOrder with
    | nil =>
      rw [writeStreams_nil order]
      exact .inl rfl
    | cons id rest =>
      cases live : sends conn.streams id with
      | true =>
        exact (writeStreams_live order live ih).mono (fun _ sent => .inr sent)
          fun _ _ other => other
      | false =>
        obtain ⟨streams, ran, _⟩ := @writeStreams_skip _ fuel cap _ _ order live
        rw [ran]
        exact ih cap { conn with streams }

private theorem writeStreams_sends (due : conn.streams.sendOrder.any (sends conn.streams) = true) :
    Fuelled.Leads True
      (fun after => after.st.frames ≠ [] ∧ conn.st.written + 5 ≤ after.st.written)
      (fun error _ => error ≠ .done) (writeStreamFrames fuel cap conn) := by
  induction fuel generalizing conn with
  | zero => trivial
  | succ fuel ih =>
    cases order : conn.streams.sendOrder with
    | nil =>
      rw [order] at due
      cases due
    | cons id rest =>
      cases live : sends conn.streams id with
      | true => exact writeStreams_live order live (writeStreams_adds fuel)
      | false =>
        obtain ⟨streams, ran, tail, same, _⟩ := @writeStreams_skip _ fuel cap _ _ order live
        rw [order, List.any_cons, live, Bool.false_or] at due
        have kept : sends streams = sends conn.streams := by
          funext id
          rw [sends, same, sends]
        rw [ran]
        exact @ih { conn with streams } (by rw [tail, kept]; exact due)

private theorem writeStreams_idle (enough : conn.streams.sendableLen < fuel)
    (idle : conn.streams.sendOrder.any (sends conn.streams) = false) :
    ∃ streams, writeStreamFrames fuel cap conn = some (.ok (), { conn with streams }) := by
  induction fuel generalizing conn with
  | zero => exact absurd enough (Nat.not_lt_zero _)
  | succ fuel ih =>
    cases order : conn.streams.sendOrder with
    | nil => exact ⟨conn.streams, writeStreams_nil order⟩
    | cons id rest =>
      rw [order, List.any_cons, Bool.or_eq_false_iff] at idle
      obtain ⟨streams, ran, tail, same, fewer⟩ :=
        @writeStreams_skip _ fuel cap _ _ order idle.1
      have kept : sends streams = sends conn.streams := by
        funext id
        rw [sends, same, sends]
      rw [ran]
      refine @ih { conn with streams } (by dsimp only; omega) ?_
      rw [tail, kept]
      exact idle.2

end Streams

private theorem tryWriteStreamFrames_goes (ample : Ample pktNumLen room)
    (poised : Poised pktNumLen room stalled (dueStreams room pktType) conn) :
    Goes pktNumLen room stalled (dueNewToken pktType) (tryWriteStreamFrames room pktType conn) := by
  have passes : streamsDue room pktType conn.st.written conn = false →
      Poised pktNumLen room stalled (dueNewToken pktType) conn :=
    fun idle => poised.congr (by rw [dueStreams, idle]; rfl)
  unfold tryWriteStreamFrames
  by_cases early : (decide (pktType ≠ .oneRtt) && decide (pktType ≠ .zeroRtt) || conn.isClosing ||
      decide (room - conn.st.written ≤ maxStreamOverhead) || !conn.path.isActive) = true
  · simp only [if_pos early]
    refine passes ?_
    simp only [Bool.or_eq_true, Bool.and_eq_true, decide_eq_true_eq, Bool.not_eq_true', ne_eq]
      at early
    rcases early with ((early | closing) | small) | inactive
    · simp [streamsDue, early.1, early.2]
    · simp [streamsDue, closing]
    · simp [streamsDue, Nat.not_lt_of_le small]
    · simp [streamsDue, inactive]
  simp only [if_neg early]
  have due : streamsDue room pktType conn.st.written conn =
      conn.streams.sendOrder.any (sends conn.streams) := by
    simp only [Bool.or_eq_true, Bool.and_eq_true, decide_eq_true_eq, Bool.not_eq_true', ne_eq,
      not_or, not_and, not_not, Nat.not_le, Bool.not_eq_false, Bool.not_eq_true] at early
    obtain ⟨⟨⟨carries, opened⟩, roomy⟩, active⟩ := early
    have app : pktType = .oneRtt ∨ pktType = .zeroRtt := by tauto
    rcases app with rfl | rfl <;> simp [streamsDue, opened, roomy, active]
  cases left : conn.streams.sendOrder.any (sends conn.streams) with
  | false =>
    obtain ⟨streams, ran⟩ := @writeStreams_idle conn
      (conn.streams.sendableLen + (room - conn.st.written) + 1) (room - conn.st.written)
      (by omega) left
    have kept := passes (due.trans left)
    rw [ran]
    exact ⟨kept.blank, kept.decides⟩
  | true =>
    have silent := not_poised_nothing poised (if_pos (due.trans left))
    have numbered := ample.numbered
    refine Sampled.goes silent ((writeStreams_sends left).mono (fun after sent => ⟨sent.1, ?_⟩)
      fun _ _ other => other)
    have grown := sent.2
    unfold minPayloadLen
    omega

/-! ## The end of the packet -/

private theorem tryWriteNewTokenFrame_goes (ample : Ample pktNumLen room)
    (poised : Poised pktNumLen room stalled (dueNewToken pktType) conn) :
    Goes pktNumLen room stalled (fun _ _ => []) (tryWriteNewTokenFrame room pktType conn) := by
  unfold tryWriteNewTokenFrame
  have decides := poised.decides
  rw [dueNewToken] at decides
  cases new : conn.newTokenFrame pktType with
  | none => exact poised.congr (by rw [dueNewToken, new]; rfl)
  | some frame =>
    have filled : 0 < frame.wireLen := by
      unfold newTokenFrame at new
      split_ifs at new
      obtain ⟨token, _, rfl⟩ := Option.map_eq_some_iff.mp new
      have one := encodeVarintLen_pos token.length
      simp only [Frame.wireLen]
      omega
    rw [new] at decides
    exact writeFrame_goes ample filled decides (fun _ => ⟨rfl, rfl⟩) fun _ _ _ => rfl

theorem Poised.silent (poised : Poised pktNumLen room stalled (fun _ _ => []) conn) : ¬ stalled :=
  not_poised_nothing poised rfl

theorem writeLast_goes {frame : Frame} {written : FrameWriter → FrameWriter}
    (ample : Ample pktNumLen room) (filled : 0 < frame.wireLen)
    (fits : frame.wireLen = 1 ∨ conn.st.written + frame.wireLen ≤ room)
    (kept : KeepsWritten written) (poised : Poised pktNumLen room stalled (fun _ _ => []) conn) :
    Goes pktNumLen room stalled (fun _ _ => []) (writeFrame room frame written conn) := by
  have goesOn : ¬ StallsFrom pktNumLen room conn.st.written [frame] := by
    by_cases long : room < conn.st.written + frame.wireLen
    · rw [stallsFrom_long ample.roomy long]
      have roomy := ample.roomy
      omega
    · rw [stallsFrom_fits (Nat.le_of_not_lt long)]
      exact not_stallsFrom_nil
  exact writeFrame_goes ample filled (iff_of_false goesOn poised.silent) kept fun _ _ _ => rfl

private theorem tryWritePing_goes (ample : Ample pktNumLen room)
    (poised : Poised pktNumLen room stalled (fun _ _ => []) conn) :
    Goes pktNumLen room stalled (fun _ _ => []) (tryWritePing room conn) := by
  unfold tryWritePing
  split_ifs
  · exact writeLast_goes ample Nat.zero_lt_one (.inl rfl) (fun _ => ⟨rfl, rfl⟩) poised
  · exact poised

private theorem checkFrames_goes (poised : Poised pktNumLen room stalled (fun _ _ => []) conn) :
    Goes pktNumLen room stalled (fun _ _ => []) (checkFrames conn) := by
  unfold checkFrames
  split_ifs with empty
  · have blank : conn.st.written = 0 :=
      congrArg List.length (poised.blank (List.isEmpty_iff.mp empty))
    exact iff_of_false (fun halts => absurd halts.2.1 (by omega)) poised.silent
  · exact poised

private theorem expandPaddings_goes {hasInitial : Bool} (ample : Ample pktNumLen room)
    (poised : Poised pktNumLen room stalled (fun _ _ => []) conn) :
    Goes pktNumLen room stalled (fun _ _ => []) (expandPaddings room pktType hasInitial conn) := by
  unfold expandPaddings
  split_ifs with expand
  · have left : 1 ≤ room - conn.st.written := of_decide_eq_true (Bool.and_eq_true_iff.mp expand).1
    refine writeLast_goes ample left (.inr ?_) (fun _ => ⟨rfl, rfl⟩) poised
    simp only [Frame.wireLen]
    omega
  · exact poised

private theorem fillPayload_leads (ample : Ample pktNumLen room)
    (poised : Poised pktNumLen room stalled (fun _ _ => []) conn) :
    Fuelled.Leads (¬ stalled) (fun after => ¬ stalled ∧ minPayloadLen ≤ after.st.written)
      (Halts pktNumLen stalled) (fillPayload room conn) := by
  unfold fillPayload
  split_ifs with short
  · refine writeFrame_room ?_ poised.silent fun st grown => ⟨poised.silent, ?_⟩
    · have roomy := ample.roomy
      simp only [Frame.wireLen]
      omega
    · simp only [Frame.wireLen] at grown
      change minPayloadLen ≤ st.written
      omega
  · exact ⟨poised.silent, Nat.le_of_not_lt short⟩

end Data

/-! ## All writers -/

/-- The frames that count toward the congestion window and share a packet. -/
def dueRest (room : Nat) (pktType : PacketType) : Nat → FrameWriter → List Frame :=
  thenDue (duePathResponses pktType) (thenDue (duePathChallenge pktType)
    (dueCids pktType (thenDue (dueHandshakeDone pktType) (dueControl room pktType))))

/-- The frames that are due for an empty packet, in the order of their writers. A packet with a
probe of the path MTU has enough for a sample. -/
def dueFrames (bufLen room : Nat) (pktType : PacketType) (first : Bool) :
    Nat → FrameWriter → List Frame :=
  thenDue dueAck (thenDue (dueClose pktType) fun w conn =>
    if conn.limited || conn.probes bufLen pktType first then [] else dueRest room pktType w conn)

section All

variable {pktNumLen room bufLen : Nat} {pktType : PacketType} {first hasInitial : Bool}
  {conn : FrameWriter} {stalled : Prop}

private theorem writeData_leads (ample : Ample pktNumLen room)
    (poised : Poised pktNumLen room stalled (dueData room pktType) conn) :
    Fuelled.Leads (¬ stalled) (fun after => ¬ stalled ∧ minPayloadLen ≤ after.st.written)
      (Halts pktNumLen stalled) (Fuelled.andThen (tryWriteCryptoFrame room pktType)
        ((writeBufferedFrames room pktType).andThen
        ((tryWriteStreamFrames room pktType).andThen
        ((tryWriteNewTokenFrame room pktType).andThen
        ((tryWritePing room).andThen
        (checkFrames.andThen
        ((expandPaddings room pktType hasInitial).andThen (fillPayload room))))))) conn) := by
  refine (tryWriteCryptoFrame_goes ample poised).andThen fun conn poised => ?_
  refine (writeBufferedFrames_goes ample poised).andThen fun conn poised => ?_
  refine (tryWriteStreamFrames_goes ample poised).andThen fun conn poised => ?_
  refine (tryWriteNewTokenFrame_goes ample poised).andThen fun conn poised => ?_
  refine (tryWritePing_goes ample poised).andThen fun conn poised => ?_
  refine (checkFrames_goes poised).andThen fun conn poised => ?_
  refine (expandPaddings_goes ample poised).andThen fun conn poised => ?_
  exact fillPayload_leads ample poised

/-- All writers in their order: they halt exactly where the due frames stall. -/
theorem sendFrames_leads (ample : Ample pktNumLen room) (empty : conn.st.payload = [])
    (short : pktType = .oneRtt → conn.st.overhead + minPayloadLen ≤ defaultSendUdpPayloadSize)
    (decides : StallsFrom pktNumLen room 0 (dueFrames bufLen room pktType first 0 conn) ↔ stalled) :
    Fuelled.Leads (¬ stalled) (fun after => ¬ stalled ∧ minPayloadLen ≤ after.st.written)
      (Halts pktNumLen stalled) (sendFrames bufLen room pktType first hasInitial conn) := by
  have blank : conn.st.written = 0 := congrArg List.length empty
  have start : Poised pktNumLen room stalled (dueFrames bufLen room pktType first) conn :=
    ⟨fun _ => empty, by rw [blank]; exact decides⟩
  refine (tryWriteAckFrame_settles ample ⟨.inl blank, rfl⟩ start).andThen fun conn reached => ?_
  obtain ⟨poised, settled⟩ := reached
  refine (tryWriteCloseFrame_settles ample settled poised).andThen fun conn reached => ?_
  obtain ⟨poised, settled⟩ := reached
  have rest : Poised pktNumLen room stalled (fun w conn => if conn.limited then []
      else if conn.probes bufLen pktType first then [] else dueRest room pktType w conn) conn := by
    refine poised.congr ?_
    cases conn.limited <;> rfl
  refine (checkCongestion_settles settled (fun _ _ => rfl) rest).andThen fun conn reached => ?_
  obtain ⟨poised, settled⟩ := reached
  refine (tryWritePmtuProbeFrames_goes (by rw [settled.header]; exact short) (fun _ _ => rfl)
    poised).andThen fun conn poised => ?_
  refine (tryWritePathValidationFrames_goes ample poised).andThen fun conn poised => ?_
  refine (tryWriteCidControlFrame_goes ample (fun _ _ _ _ => rfl) poised).andThen
    fun conn poised => ?_
  refine (tryWriteHandshakeDone_goes ample (fun _ _ => rfl) poised).andThen fun conn poised => ?_
  refine (tryWriteStreamControlFrames_goes ample poised).andThen fun conn poised => ?_
  exact writeData_leads ample poised

end All

end FrameWriter

end Tquic.Connection
