import Tquic.Connection.StreamWrites
import Tquic.H3.ReceiveSafety

/-! What HTTP/3 writes to a request stream is a sequence of whole frames: room is asked for before the
header of a frame is written, so that the payload is taken whole after it. -/

set_option autoImplicit false

namespace Tquic.H3

open Lib Connection Stateful

variable {α : Type} {frameType len : Nat}

theorem frameHeader_small (kind : frameType ≤ 63) (small : len ≤ vintMax) :
    Http3Connection.frameHeader frameType len = .ok (varint frameType ++ varint len) := by
  have known : frameType ≤ vintMax := kind.trans (by decide)
  have short : encodeVarintLen frameType = 1 := if_pos kind
  have fits := encodeVarintLen_le len
  unfold Http3Connection.frameHeader
  dsimp only
  have written : Writes (do
      Http3Encoder.writeVarint frameType
      Http3Encoder.writeVarint len) (varint frameType ++ varint len) () :=
    (H3.writes_varint known).bind (H3.writes_varint small)
  rw [written { written := [], room := 10 } (by
    simp only [List.length_append, length_varint, short]
    omega)]
  rfl

theorem frameHeader_large (kind : frameType ≤ 63) (large : vintMax < len) :
    Http3Connection.frameHeader frameType len = .error .panic := by
  have known : frameType ≤ vintMax := kind.trans (by decide)
  have short : encodeVarintLen frameType = 1 := if_pos kind
  have failed : (do
      Http3Encoder.writeVarint frameType
      Http3Encoder.writeVarint len : Http3Encoder Unit).run { written := [], room := 10 } =
        .error .panic := by
    rw [StateT.run_bind, H3.writes_varint known { written := [], room := 10 } (by
      simp only [length_varint, short]
      decide)]
    unfold Http3Encoder.writeVarint Encoder.writeVarint
    rw [if_neg (Nat.not_le.mpr large)]
    rfl
  unfold Http3Connection.frameHeader
  dsimp only
  rw [failed]

theorem frameHeader_ok {bytes : Bytes} (kind : frameType ≤ 63)
    (made : Http3Connection.frameHeader frameType len = .ok bytes) :
    len ≤ vintMax ∧ bytes = varint frameType ++ varint len := by
  by_cases small : len ≤ vintMax
  · rw [frameHeader_small kind small] at made
    exact ⟨small, (Except.ok.inj made).symm⟩
  · rw [frameHeader_large kind (Nat.not_le.mp small)] at made
    cases made

/-! ## Writes to the transport -/

/-- The streams are those of a connection that some run leads to. -/
def QuicConn.Carried (conn : QuicConn) : Prop :=
  ∃ world, World.Reachable anyStep world ∧ world.map = conn.streams

/-- A frame as it is written: its header, and then its payload. -/
structure SentFrame where
  frameType : Nat
  payload : Bytes
  fin : Bool

def SentFrame.header (frame : SentFrame) : Bytes :=
  varint frame.frameType ++ varint frame.payload.length

def SentFrame.writes (streamId : Nat) (frame : SentFrame) : List Written :=
  [{ streamId, bytes := frame.header, fin := false },
    { streamId, bytes := frame.payload, fin := frame.fin }]

namespace QuicConn

variable {conn : QuicConn} {stream : Stream}

theorem Carried.valid (carried : conn.Carried) {id : Nat}
    (found : conn.streams.get id = some stream) : ∃ isServer, stream.Valid isServer id := by
  obtain ⟨world, reached, same⟩ := carried
  have valid := (reached.invariant (fun _ _ _ _ _ => trivial) (fun _ _ _ _ => trivial)).1
  exact ⟨_, valid.streams.live id stream (same ▸ found)⟩

theorem Carried.sound (carried : conn.Carried) {id : Nat}
    (found : conn.streams.get id = some stream) : stream.send.Sound := by
  obtain ⟨_, valid⟩ := carried.valid found
  exact valid.send

theorem Carried.step {conn after : QuicConn} (carried : conn.Carried) (op : Op)
    (stepped : ∀ world : World, world.map = conn.streams →
      world.step op = some { world with map := after.streams }) : after.Carried := by
  obtain ⟨world, ⟨isServer, connectionWindow, streamWindow, params, events, run⟩, same⟩ := carried
  refine ⟨{ world with map := after.streams }, ⟨isServer, connectionWindow, streamWindow, params,
    events, ?_⟩, rfl⟩
  exact run.tail trivial (stepped world same)

/-- The payload of a frame has room, and no final size stands in its way. -/
structure Ready (conn : QuicConn) (id len : Nat) : Prop where
  small : id ≤ vintMax
  room : ∃ stream, StreamMap.Room conn.streams id len stream ∧ stream.send.finOff = none

private theorem streamWrite_header {id more : Nat} {header : Bytes}
    (carried : conn.Carried) (bidi : isBidi id = true) (filled : header ≠ [])
    (room : StreamMap.Room conn.streams id (header.length + more) stream) :
    Ends (fun _ after => Ready after id more ∧
        after.accepted = conn.accepted ++ [{ streamId := id, bytes := header, fin := false }])
      (fun _ after => after.accepted = conn.accepted) ((streamWrite id header false).run conn) := by
  refine ends_bind.mpr (ends_zoom.mpr ?_)
  change Ends _ _ (conn.streams.streamWrite id header false)
  rcases StreamMap.streamWrite_first room (.inl bidi) filled (carried.sound room.found) with
    ⟨error, after, refused⟩ | ⟨after, new, taken, small, left, unknown⟩
  · rw [refused]
    exact rfl
  · rw [taken]
    refine ends_ok.mpr ?_
    refine ends_bind.mpr (ends_modify.mpr (ends_pure.mpr ⟨⟨small, new, left, unknown⟩, ?_⟩))
    dsimp only
    rw [List.take_length, Bool.false_and]

theorem streamWrite_payload {id : Nat} {payload : Bytes} (fin : Bool)
    (ready : Ready conn id payload.length) (may : conn.streams.MayWrite id) :
    Ends (fun written after => written = payload.length ∧
        after.accepted = conn.accepted ++ [{ streamId := id, bytes := payload, fin }])
      (fun _ _ => False) ((streamWrite id payload fin).run conn) := by
  obtain ⟨small, stream, room, unknown⟩ := ready
  refine ends_bind.mpr (ends_zoom.mpr ?_)
  change Ends _ _ (conn.streams.streamWrite id payload fin)
  obtain ⟨after, taken⟩ := @StreamMap.streamWrite_last _ _ _ _ fin room may small unknown
  rw [taken]
  refine ends_ok.mpr ?_
  refine ends_bind.mpr (ends_modify.mpr (ends_pure.mpr ⟨rfl, ?_⟩))
  dsimp only
  rw [List.take_length, beq_self_eq_true, Bool.and_true]

end QuicConn

theorem writeFrame_ends {σ : Type} {state : σ × QuicConn} {id : Nat} {frame : SentFrame}
    {stream : Stream} (carried : state.2.Carried) (bidi : isBidi id = true)
    (room : StreamMap.Room state.2.streams id (frame.header.length + frame.payload.length) stream)
    {next : Nat → Http3M σ α} {post : α → σ × QuicConn → Prop}
    {failed : Http3Error → σ × QuicConn → Prop}
    (refused : ∀ error conn, conn.accepted = state.2.accepted → failed error (state.1, conn))
    (goesOn : ∀ conn, conn.accepted = state.2.accepted ++ frame.writes id →
      Ends post failed ((next frame.payload.length).run (state.1, conn))) :
    Ends post failed ((do
      let _ ← call (QuicConn.streamWrite id frame.header false)
      let written ← call (QuicConn.streamWrite id frame.payload frame.fin)
      next written).run state) := by
  have filled : frame.header ≠ [] := by
    refine List.ne_nil_of_length_pos ?_
    have positive := encodeVarintLen_pos frame.frameType
    simp only [SentFrame.header, List.length_append, length_varint]
    omega
  refine ends_bind.mpr (ends_zoom.mpr (ends_withErrors.mpr
    ((QuicConn.streamWrite_header carried bidi filled room).mono ?_ ?_)))
  · rintro _ middle ⟨ready, header⟩
    refine ends_bind.mpr (ends_zoom.mpr (ends_withErrors.mpr
      ((QuicConn.streamWrite_payload frame.fin ready (.inl bidi)).mono ?_ fun _ _ impossible =>
        impossible.elim)))
    rintro _ after ⟨rfl, payload⟩
    refine goesOn after ?_
    rw [payload, header, List.append_assoc]
    rfl
  · exact fun error after same => refused _ after same

theorem SentFrame.length_header {frame : SentFrame} (kind : frame.frameType ≤ 63) :
    frame.header.length = 1 + encodeVarintLen frame.payload.length := by
  have short : encodeVarintLen frame.frameType = 1 := if_pos kind
  simp only [SentFrame.header, List.length_append, length_varint, short]

theorem ends_onStreams {σ : Type} {state : σ × QuicConn} {post : α → σ × QuicConn → Prop}
    {failed : Http3Error → σ × QuicConn → Prop} {steps : StreamMap → Except Error α × StreamMap}
    (succeeds : ∀ value streams, steps state.2.streams = (.ok value, streams) →
      post value (state.1, { state.2 with streams }))
    (fails : ∀ error streams, steps state.2.streams = (.error error, streams) →
      failed (Http3Error.ofError error) (state.1, { state.2 with streams })) :
    Ends post failed ((call (QuicConn.onStreams steps)).run state) := by
  refine ends_call.mpr (ends_zoom.mpr ?_)
  change Ends _ _ (steps state.2.streams)
  cases outcome : steps state.2.streams with
  | mk result streams =>
      cases result with
      | ok value => exact succeeds value streams outcome
      | error error => exact fails error streams outcome

theorem streamWritable_true {map after : StreamMap} {id len : Nat}
    (asked : map.streamWritable id len = (.ok true, after)) :
    after = map ∧ ∃ stream, StreamMap.Room map id len stream := by
  unfold StreamMap.streamWritable at asked
  split at asked
  · cases asked
  case h_2 capacity known =>
    split at asked
    case isTrue fits =>
      cases asked
      exact ⟨rfl, StreamMap.Room.of_capacity known fits⟩
    case isFalse =>
      dsimp only at asked
      split at asked
      · cases asked
      · split at asked
        · cases asked
        · cases asked

/-! ## Headers -/

namespace Http3Connection

def Blocks (asked : Nat → Bytes → Bool → Prop) (http3 : Http3Connection) : Prop :=
  ∀ id stream block fin, http3.streams.get? id = some stream →
    stream.headerBlock = some (block, fin) → asked id block fin

variable {asked : Nat → Bytes → Bool → Prop} {http3 : Http3Connection} {id : Nat}

theorem Blocks.setStream (blocks : Blocks asked http3) {stream : Http3Stream}
    (own : ∀ block fin, stream.headerBlock = some (block, fin) → asked id block fin) :
    Blocks asked (http3.setStream id stream) := by
  intro other found block fin present waiting
  change (http3.streams.insert id stream).get? other = some found at present
  rw [OrdMap.get?_insert] at present
  split_ifs at present with same
  · cases present
    exact same ▸ own block fin waiting
  · exact blocks other found block fin present waiting

theorem Blocks.streamDestroy (blocks : Blocks asked http3) (id : Nat) :
    Blocks asked (http3.streamDestroy id) := by
  intro other found block fin present waiting
  change (http3.streams.erase id).get? other = some found at present
  rw [OrdMap.get?_erase] at present
  split_ifs at present
  exact blocks other found block fin present waiting

theorem Blocks.kept (blocks : Blocks asked http3) {stream next : Http3Stream}
    (found : http3.streams.get? id = some stream) (same : next.headerBlock = stream.headerBlock) :
    Blocks asked (http3.setStream id next) :=
  blocks.setStream fun block fin waiting => blocks id stream block fin found (same ▸ waiting)

theorem Blocks.noteHeadersSent (blocks : Blocks asked http3) (fin : Bool) :
    Blocks asked (http3.noteHeadersSent id fin) := by
  unfold Http3Connection.noteHeadersSent
  split
  · exact blocks
  · exact blocks.setStream fun _ _ waiting => nomatch waiting

variable {state : Http3Connection × QuicConn}

/-- The bytes of a frame, and nothing else, were taken. -/
def Takes (id : Nat) (frame : SentFrame) (before after : Http3Connection × QuicConn) : Prop :=
  frame.payload.length ≤ vintMax ∧ after.2.accepted = before.2.accepted ++ frame.writes id

theorem destroyFinished_ends (blocks : Blocks asked state.1) :
    Ends (fun _ after => Blocks asked after.1 ∧ after.2 = state.2) (fun _ _ => False)
      ((destroyFinished id).run state) := by
  refine ends_bind.mpr (ends_get.mpr ?_)
  change Blocks asked (if _ then _ else _) ∧ _
  refine ⟨?_, rfl⟩
  split_ifs
  · exact blocks.streamDestroy id
  · exact blocks

/-- HEADERS are written whole or not at all. -/
theorem sendHeaderBlock_ends (carried : state.2.Carried) (bidi : isBidi id = true)
    (blocks : Blocks asked state.1) {headerBlock : Bytes} {fin : Bool}
    (requested : asked id headerBlock fin) :
    Ends (fun _ after => Blocks asked after.1 ∧
        Takes id { frameType := headersFrameType, payload := headerBlock, fin } state after)
      (fun _ after => Blocks asked after.1 ∧ after.2.accepted = state.2.accepted)
      ((sendHeaderBlock id headerBlock fin).run state) := by
  let frame : SentFrame := { frameType := headersFrameType, payload := headerBlock, fin }
  refine ends_bind.mpr (ends_ofExcept.mpr ⟨fun header made => ?_, fun _ _ => ⟨blocks, rfl⟩⟩)
  obtain ⟨small, same⟩ := frameHeader_ok (by decide) made
  have isHeader : header = frame.header := same
  subst isHeader
  refine ends_bind.mpr (ends_attempt.mpr (ends_onStreams ?_ ?_))
  · intro writable streams answer
    cases writable with
    | false =>
        have waits : ∀ conn : QuicConn, conn.accepted = state.2.accepted →
            Ends (fun _ after => Blocks asked after.1 ∧
                Takes id { frameType := headersFrameType, payload := headerBlock, fin } state after)
              (fun _ after => Blocks asked after.1 ∧ after.2.accepted = state.2.accepted)
              ((onStream id (Http3Stream.own
                (modify ({ · with headerBlock := some (headerBlock, fin) }))) >>= fun _ =>
                  throw .streamBlocked : ConnM Unit).run (state.1, conn)) := by
          intro conn same
          refine ends_bind.mpr ?_
          cases found : state.1.streams.get? id with
          | none =>
              change Ends _ _ (onStream id _ (state.1, conn))
              rw [onStream, found]
              exact ⟨blocks, same⟩
          | some stream =>
              refine (@onStream_ends _ (state.1, conn) id stream found _ _ _).mpr ?_
              refine Http3Stream.ends_own.mpr (ends_modify.mpr (ends_throw.mpr ⟨?_, same⟩))
              refine blocks.setStream fun _ _ waiting => ?_
              cases waiting
              exact requested
        refine ends_bind.mpr (ends_attempt.mpr (ends_onStreams ?_ ?_))
        · exact fun _ _ _ => waits _ rfl
        · exact fun _ _ _ => waits _ rfl
    | true =>
        obtain ⟨rfl, stream, room⟩ := streamWritable_true answer
        refine @writeFrame_ends _ _ _ id frame stream carried bidi room _ _ _ ?_ ?_
        · exact fun _ _ same => ⟨blocks, same⟩
        · intro conn taken
          have noted := @Blocks.noteHeadersSent _ _ id blocks fin
          refine ends_bind.mpr ?_
          change Ends _ _ (Except.ok (), (state.1.noteHeadersSent id fin, conn))
          refine ends_ok.mpr ?_
          split_ifs
          · refine (@destroyFinished_ends _ id (_, conn) noted).mono ?_ fun _ _ impossible =>
              impossible.elim
            rintro _ after ⟨left, same⟩
            exact ⟨left, small, same ▸ taken⟩
          · exact ⟨noted, small, taken⟩
  · intro error streams _
    refine ends_bind.mpr ((@destroyFinished_ends _ id (state.1, { state.2 with streams }) blocks).mono ?_
      fun _ _ impossible => impossible.elim)
    rintro _ after ⟨left, same⟩
    exact ⟨left, same ▸ rfl⟩

def FieldSection (headers : List Qpack.Header) (headerBlock : Bytes) : Prop :=
  ∃ written, Qpack.encode headers (headers.map Qpack.headerSize).sum = .ok (headerBlock, written)

theorem encodeHeaderFields_ends (headers : List Qpack.Header) (state : Http3Connection × QuicConn) :
    Ends (fun headerBlock after => FieldSection headers headerBlock ∧ after = state)
      (fun _ after => after = state) ((encodeHeaderFields headers).run state) := by
  unfold encodeHeaderFields
  refine ends_bind.mpr (ends_get.mpr ?_)
  dsimp only
  split_ifs
  · exact rfl
  · split
    case h_1 headerBlock written encoded => exact ⟨⟨written, encoded⟩, rfl⟩
    case h_2 => exact rfl
    case h_3 => exact rfl

private theorem initPriority_ends (carried : state.2.Carried) (blocks : Blocks asked state.1)
    {stream : Http3Stream} (found : state.1.streams.get? id = some stream) :
    Ends (fun _ after => Blocks asked after.1 ∧ after.2.Carried ∧
        after.2.accepted = state.2.accepted)
      (fun _ after => Blocks asked after.1 ∧ after.2.accepted = state.2.accepted)
      ((initPriority id stream).run state) := by
  unfold initPriority
  split_ifs
  · exact ⟨blocks, carried, rfl⟩
  · refine ends_bind.mpr (ends_onStreams ?_ fun _ _ _ => ⟨blocks, rfl⟩)
    intro _ streams set
    refine ends_update.mpr ⟨blocks.kept found rfl, ?_, rfl⟩
    refine carried.step (.setPriority id ({} : Http3Priority).mapToQuic false) fun world same => ?_
    rw [World.step, same]
    exact congrArg (fun outcome => some { world with map := Prod.snd outcome }) set

private theorem sendHeaders_ends (carried : state.2.Carried) (blocks : Blocks asked state.1)
    (headers : List Qpack.Header) (fin : Bool)
    (requested : ∀ headerBlock, FieldSection headers headerBlock → asked id headerBlock fin) :
    Ends (fun _ after => Blocks asked after.1 ∧ ∃ headerBlock, asked id headerBlock fin ∧
        Takes id { frameType := headersFrameType, payload := headerBlock, fin } state after)
      (fun _ after => Blocks asked after.1 ∧ after.2.accepted = state.2.accepted)
      ((sendHeaders id headers fin).run state) := by
  unfold sendHeaders
  refine ends_bind.mpr (ends_get.mpr ?_)
  dsimp only
  split_ifs with other
  · exact ⟨blocks, rfl⟩
  · split
    case h_1 => exact ⟨blocks, rfl⟩
    case h_2 stream found =>
      refine ends_bind.mpr ((initPriority_ends carried blocks found).mono ?_ fun _ _ failed => failed)
      rintro _ middle ⟨blocks, carried, same⟩
      refine ends_bind.mpr ((encodeHeaderFields_ends headers middle).mono ?_ ?_)
      · rintro headerBlock _ ⟨encoded, rfl⟩
        have bidi : isBidi id = true := isBidi_of_request (not_not.mp other)
        refine (sendHeaderBlock_ends carried bidi blocks (requested headerBlock encoded)).mono ?_ ?_
        · rintro _ after ⟨left, small, taken⟩
          exact ⟨left, headerBlock, requested headerBlock encoded, small, same ▸ taken⟩
        · rintro _ after ⟨left, taken⟩
          exact ⟨left, taken.trans same⟩
      · rintro _ _ rfl
        exact ⟨blocks, same⟩

/-! ## Bodies -/

theorem awaitWritable_ends (id len : Nat) (state : Http3Connection × QuicConn) :
    Ends (fun _ after => after.1 = state.1 ∧ after.2.accepted = state.2.accepted) (fun _ _ => False)
      ((awaitWritable id len).run state) := by
  refine ends_bind.mpr (ends_attempt.mpr (ends_onStreams ?_ ?_))
  all_goals
    intro _ _ _
    refine ends_bind.mpr (ends_attempt.mpr (ends_onStreams ?_ ?_))
    · exact fun _ _ _ => ⟨rfl, rfl⟩
    · exact fun _ _ _ => ⟨rfl, rfl⟩

private theorem noteBodySent_ends (blocks : Blocks asked state.1) :
    Ends (fun _ after => Blocks asked after.1 ∧ after.2 = state.2) (fun _ _ => False)
      ((noteBodySent id).run state) := by
  refine ends_bind.mpr (ends_get.mpr ?_)
  change Blocks asked (if _ then _ else _) ∧ _
  refine ⟨?_, rfl⟩
  split_ifs
  · exact blocks.streamDestroy id
  · split
    case h_1 => exact blocks
    case h_2 stream found => exact blocks.kept found rfl

private theorem sendDataFrame_ends (carried : state.2.Carried) (bidi : isBidi id = true)
    (blocks : Blocks asked state.1) {sendCapacity : Nat}
    (known : state.2.streamCapacity id = .ok sendCapacity) (body : Bytes) (fin : Bool) :
    Ends (fun written after => Blocks asked after.1 ∧ written ≤ body.length ∧
        Takes id
          { frameType := dataFrameType
            payload := body.take written
            fin := fin && written == body.length } state after)
      (fun _ after => Blocks asked after.1 ∧ after.2.accepted = state.2.accepted)
      ((sendDataFrame id sendCapacity body fin).run state) := by
  unfold sendDataFrame
  dsimp only
  split
  case isTrue =>
    refine ends_bind.mpr ((awaitWritable_ends id _ state).mono ?_ fun _ _ impossible =>
      impossible.elim)
    rintro _ ⟨http3, conn⟩ ⟨rfl, same⟩
    exact ⟨blocks, same⟩
  case isFalse room =>
    generalize cut : min body.length (sendCapacity - (1 + encodeVarintLen body.length)) = frameLen
    have bound : frameLen ≤ body.length := by omega
    have long : (body.take frameLen).length = frameLen := List.length_take_of_le bound
    let frame : SentFrame :=
      { frameType := dataFrameType
        payload := body.take frameLen
        fin := fin && frameLen == body.length }
    split
    case isTrue => exact ⟨blocks, rfl⟩
    case isFalse =>
      refine ends_bind.mpr (ends_ofExcept.mpr ⟨fun header made => ?_, fun _ _ => ⟨blocks, rfl⟩⟩)
      obtain ⟨small, same⟩ := frameHeader_ok (by decide) made
      have isHeader : header = frame.header := by
        rw [same, SentFrame.header, long]
      subst isHeader
      have length : frame.header.length = 1 + encodeVarintLen frameLen := by
        rw [SentFrame.length_header (Nat.zero_le _), long]
      have shorter := encodeVarintLen_mono bound
      obtain ⟨stream, space⟩ := StreamMap.Room.of_capacity known
        (show frame.header.length + frame.payload.length ≤ sendCapacity by
          rw [length, long]
          omega)
      refine @writeFrame_ends _ _ _ id frame stream carried bidi space _ _ _ ?_ ?_
      · exact fun _ _ same => ⟨blocks, same⟩
      · intro conn taken
        have sent : Blocks asked state.1 ∧ frameLen ≤ body.length ∧
            Takes id frame state (state.1, conn) :=
          ⟨blocks, bound, long.le.trans small, taken⟩
        rw [show frame.payload.length = frameLen from long]
        split
        · refine ends_bind.mpr ((awaitWritable_ends id _ (state.1, conn)).mono ?_
            fun _ _ impossible => impossible.elim)
          rintro _ ⟨http3, later⟩ ⟨rfl, same⟩
          exact ⟨sent.1, bound, sent.2.2.1, same.trans taken⟩
        split
        · refine ends_bind.mpr ((@noteBodySent_ends _ id (state.1, conn) blocks).mono ?_
            fun _ _ impossible => impossible.elim)
          rintro _ ⟨http3, later⟩ ⟨left, rfl⟩
          exact ⟨left, bound, sent.2.2⟩
        · exact sent

/-- A call writes a DATA frame with the front of the body, the waiting header block, or nothing. -/
theorem sendBody_ends (carried : state.2.Carried) (blocks : Blocks asked state.1) (body : Bytes)
    (fin : Bool) (empty : ∀ headerBlock writeFin, asked id headerBlock writeFin →
      asked id headerBlock (writeFin || (fin && body.isEmpty))) :
    Ends (fun written after => Blocks asked after.1 ∧ written ≤ body.length ∧
        Takes id
          { frameType := dataFrameType
            payload := body.take written
            fin := fin && written == body.length } state after)
      (fun _ after => Blocks asked after.1 ∧ (after.2.accepted = state.2.accepted ∨
        ∃ headerBlock writeFin, asked id headerBlock writeFin ∧
          Takes id { frameType := headersFrameType, payload := headerBlock, fin := writeFin } state
            after))
      ((sendBody id body fin).run state) := by
  unfold sendBody
  refine ends_bind.mpr (ends_get.mpr ?_)
  dsimp only
  split
  · exact ⟨blocks, .inl rfl⟩
  case isFalse request =>
  have bidi : isBidi id = true := isBidi_of_request (not_not.mp request)
  split
  case h_1 => exact ⟨blocks, .inl rfl⟩
  case h_2 stream found =>
    split
    case h_1 headerBlock writeFin waiting =>
      have requested := empty _ _ (blocks id stream headerBlock writeFin found waiting)
      refine ends_bind.mpr (ends_update.mpr (ends_bind.mpr ?_))
      have taken : Blocks asked (state.1.setStream id { stream with headerBlock := none }) :=
        blocks.setStream fun _ _ other => nomatch other
      refine (@sendHeaderBlock_ends _ id (state.1.setStream id { stream with headerBlock := none },
        state.2) carried bidi taken _ _ requested).mono ?_ ?_
      · rintro _ after ⟨left, sent⟩
        exact ⟨left, .inr ⟨headerBlock, _, requested, sent⟩⟩
      · rintro _ after ⟨left, same⟩
        exact ⟨left, .inl same⟩
    case h_2 =>
      split
      · exact ⟨blocks, .inl rfl⟩
      split
      · exact ⟨blocks, .inl rfl⟩
      split
      case h_1 error _ =>
        refine ends_bind.mpr ((@destroyFinished_ends _ id state blocks).mono ?_
          fun _ _ impossible => impossible.elim)
        rintro _ after ⟨left, same⟩
        exact ⟨left, .inl (same ▸ rfl)⟩
      case h_2 sendCapacity known =>
        refine (sendDataFrame_ends carried bidi blocks known body fin).mono ?_ ?_
        · exact fun _ _ sent => sent
        · exact fun _ _ failed => ⟨failed.1, .inl failed.2⟩

/-! ## The transport goes on -/

def OnCarried (state : Http3Connection × QuicConn) : Prop := state.2.Carried

theorem carried_call {steps : StreamMap → Except Error α × StreamMap} (op : Op)
    (stepped : ∀ world : World, world.step op = some { world with map := (steps world.map).2 }) :
    Preserves OnCarried (call (QuicConn.onStreams steps) : ConnM α) := by
  intro state carried
  refine QuicConn.Carried.step carried op fun world same => ?_
  rw [stepped world, same]
  rfl

theorem carried_streamWrite (id : Nat) (buf : Bytes) (fin : Bool) :
    Preserves OnCarried (call (QuicConn.streamWrite id buf fin) : ConnM Nat) := by
  intro state carried
  have kept : Preserves QuicConn.Carried (QuicConn.streamWrite id buf fin) := by
    refine .bind (fun conn carried => ?_) fun _ => .bind (fun _ kept => kept) fun _ => preserves_pure _
    refine QuicConn.Carried.step carried (.write id buf fin) fun world same => ?_
    rw [World.step, same]
    rfl
  exact kept state.2 carried

theorem carried_update (change : Http3Connection → Http3Connection) :
    Preserves OnCarried (update change) := fun _ carried => carried

private theorem carried_onStream (id : Nat) (steps : Stateful Http3Stream Http3Error α) :
    Preserves OnCarried (onStream id (Http3Stream.own steps)) := by
  intro state carried
  change OnCarried (onStream id _ state).2
  unfold onStream
  split
  · exact carried
  · exact carried

theorem carried_destroyFinished (id : Nat) : Preserves OnCarried (destroyFinished id) :=
  .of_get fun _ carried => carried

theorem carried_awaitWritable (id len : Nat) : Preserves OnCarried (awaitWritable id len) :=
  .bind (Preserves.attempt (carried_call (.writable id len) fun _ => rfl)) fun _ =>
    .bind (Preserves.attempt (carried_call (.wantWrite id true) fun _ => rfl)) fun _ => preserves_pure _

theorem carried_sendHeaderBlock (id : Nat) (headerBlock : Bytes) (fin : Bool) :
    Preserves OnCarried (sendHeaderBlock id headerBlock fin) := by
  refine (preserves_ofExcept _).bind fun header =>
    .bind (Preserves.attempt (carried_call (.writable id _) fun _ => rfl)) fun writable => ?_
  split
  · exact (carried_destroyFinished id).bind fun _ => preserves_throw _
  · refine .bind (Preserves.attempt (carried_call (.wantWrite id true) fun _ => rfl)) fun _ => ?_
    exact (carried_onStream id _).bind fun _ => preserves_throw _
  · refine (carried_streamWrite id header false).bind fun _ =>
      (carried_streamWrite id headerBlock fin).bind fun _ => (carried_update _).bind fun _ => ?_
    split
    · exact carried_destroyFinished id
    · exact preserves_pure _

theorem carried_sendHeaders (id : Nat) (headers : List Qpack.Header) (fin : Bool) :
    Preserves OnCarried (sendHeaders id headers fin) := by
  refine .of_get fun state carried => ?_
  dsimp only
  split
  · exact carried
  split
  · exact carried
  refine (Preserves.bind ?_ fun _ => .bind ?_ fun _ => carried_sendHeaderBlock id _ fin) state carried
  · unfold initPriority
    split
    · exact preserves_pure _
    · exact (carried_call (.setPriority id _ _) fun _ => rfl).bind fun _ => carried_update _
  · refine .of_get fun state carried => ?_
    dsimp only
    split
    · exact carried
    · split <;> exact carried

private theorem carried_sendDataFrame (id sendCapacity : Nat) (body : Bytes) (fin : Bool) :
    Preserves OnCarried (sendDataFrame id sendCapacity body fin) := by
  unfold sendDataFrame
  dsimp only
  split
  · exact (carried_awaitWritable _ _).bind fun _ => preserves_throw _
  split
  · exact preserves_throw _
  refine (preserves_ofExcept _).bind fun _ => (carried_streamWrite _ _ _).bind fun _ =>
    (carried_streamWrite _ _ _).bind fun _ => ?_
  split
  · exact (carried_awaitWritable _ _).bind fun _ => preserves_pure _
  split
  · exact .bind (.of_get fun _ carried => carried) fun _ => preserves_pure _
  · exact preserves_pure _

private theorem carried_sendBody (id : Nat) (body : Bytes) (fin : Bool) :
    Preserves OnCarried (sendBody id body fin) := by
  refine .of_get fun state carried => ?_
  dsimp only
  split
  · exact carried
  split
  · exact carried
  split
  · exact ((carried_update _).bind fun _ => (carried_sendHeaderBlock _ _ _).bind fun _ =>
      preserves_throw _) state carried
  split
  · exact carried
  split
  · exact carried
  split
  · exact ((carried_destroyFinished id).bind fun _ => preserves_throw _) state carried
  · exact carried_sendDataFrame _ _ _ _ state carried

end Http3Connection

/-! ## Runs -/

inductive SendCall where
  | headers (streamId : Nat) (headers : List Qpack.Header) (fin : Bool)
  | body (streamId : Nat) (body : Bytes) (fin : Bool)

structure Sender where
  http3 : Http3Connection
  conn : QuicConn
  -- History: the calls so far, the newest last.
  calls : List SendCall

inductive SendOp where
  | call (call : SendCall)
  /-- Whatever else happens to the connection. -/
  | elsewhere (http3 : Http3Connection) (conn : QuicConn)

namespace Sender

open Http3Connection

def perform (state : Http3Connection × QuicConn) : SendCall → Http3Connection × QuicConn
  | .headers streamId headers fin => ((sendHeaders streamId headers fin).run state).2
  | .body streamId body fin => ((sendBody streamId body fin).run state).2

def step (sender : Sender) : SendOp → Option Sender
  | .call call =>
      let after := perform (sender.http3, sender.conn) call
      some { http3 := after.1, conn := after.2, calls := sender.calls ++ [call] }
  | .elsewhere http3 conn => some { sender with http3, conn }

/-- What a stream took, in order. -/
def log (conn : QuicConn) (id : Nat) : List Written :=
  conn.accepted.filter fun written => written.streamId = id

/-- Other steps change the limits and the streams in any way that the transport can, but they neither
write to request streams nor make header blocks wait. -/
structure Elsewhere (sender : Sender) (http3 : Http3Connection) (conn : QuicConn) : Prop where
  carried : conn.Carried
  log : ∀ id, id % 4 = 0 → Sender.log conn id = Sender.log sender.conn id
  blocks : ∀ id stream waiting, http3.streams.get? id = some stream →
    stream.headerBlock = some waiting →
      ∃ old, sender.http3.streams.get? id = some old ∧ old.headerBlock = some waiting

def Allowed (sender : Sender) : SendOp → Prop
  | .call _ => True
  | .elsewhere http3 conn => Elsewhere sender http3 conn

/-- Nothing was sent on request streams. -/
structure Fresh (sender : Sender) : Prop where
  carried : sender.conn.Carried
  calls : sender.calls = []
  log : ∀ id, id % 4 = 0 → Sender.log sender.conn id = []
  blocks : ∀ id stream, sender.http3.streams.get? id = some stream → stream.headerBlock = none

/-- A header block belongs to a call. FIN goes with it if the call asked for it, or if the
application ended the stream with an empty body later. -/
def HeadersAsked (calls : List SendCall) (id : Nat) (headerBlock : Bytes) (fin : Bool) : Prop :=
  ∃ headers asked earlier later, calls = earlier ++ .headers id headers asked :: later ∧
    FieldSection headers headerBlock ∧ (fin = true → asked = true ∨ .body id [] true ∈ later)

/-- A payload is the front of a body. FIN goes with the whole body only. -/
def DataAsked (calls : List SendCall) (id : Nat) (payload : Bytes) (fin : Bool) : Prop :=
  ∃ body asked, .body id body asked ∈ calls ∧ payload <+: body ∧
    (fin = true → asked = true ∧ payload = body)

/-- A frame whose length can be written, and which the application asked for. -/
structure Requested (calls : List SendCall) (id : Nat) (frame : SentFrame) : Prop where
  small : frame.payload.length ≤ vintMax
  asked : frame.frameType = headersFrameType ∧ HeadersAsked calls id frame.payload frame.fin ∨
    frame.frameType = dataFrameType ∧ DataAsked calls id frame.payload frame.fin

structure Framed (sender : Sender) : Prop where
  carried : sender.conn.Carried
  blocks : Blocks (HeadersAsked sender.calls) sender.http3
  log : ∀ id, id % 4 = 0 → ∃ frames : List SentFrame,
    Sender.log sender.conn id = frames.flatMap (·.writes id) ∧
      ∀ frame ∈ frames, Requested sender.calls id frame

variable {calls more : List SendCall} {id : Nat}

theorem HeadersAsked.mono (grows : calls <+: more) {headerBlock : Bytes} {fin : Bool}
    (asked : HeadersAsked calls id headerBlock fin) : HeadersAsked more id headerBlock fin := by
  obtain ⟨rest, rfl⟩ := grows
  obtain ⟨headers, flag, earlier, later, rfl, encoded, ends⟩ := asked
  refine ⟨headers, flag, earlier, later ++ rest, List.append_assoc .., encoded, fun carried => ?_⟩
  exact (ends carried).imp_right (List.mem_append_left rest)

theorem Requested.mono (grows : calls <+: more) {frame : SentFrame}
    (requested : Requested calls id frame) : Requested more id frame := by
  refine ⟨requested.small, requested.asked.imp ?_ ?_⟩
  · exact fun headers => ⟨headers.1, headers.2.mono grows⟩
  · rintro ⟨kind, body, flag, called, part, ends⟩
    exact ⟨kind, body, flag, grows.subset called, part, ends⟩

theorem log_takes {before after : Http3Connection × QuicConn} {other : Nat} {frame : SentFrame}
    (takes : Takes other frame before after) (id : Nat) :
    log after.2 id = log before.2 id ++ if other = id then frame.writes id else [] := by
  unfold log
  rw [takes.2, List.filter_append]
  congr 1
  split_ifs with same
  · subst same
    simp [SentFrame.writes]
  · simp [SentFrame.writes, same]

theorem log_extends {before after : QuicConn} (grows : calls <+: more)
    (framed : ∃ frames : List SentFrame, log before id = frames.flatMap (·.writes id) ∧
      ∀ frame ∈ frames, Requested calls id frame)
    (wrote : log after id = log before id ∨ ∃ frame : SentFrame, Requested more id frame ∧
      log after id = log before id ++ frame.writes id) :
    ∃ frames : List SentFrame, log after id = frames.flatMap (·.writes id) ∧
      ∀ frame ∈ frames, Requested more id frame := by
  obtain ⟨frames, same, requested⟩ := framed
  have earlier : ∀ frame ∈ frames, Requested more id frame :=
    fun frame member => (requested frame member).mono grows
  rcases wrote with nothing | ⟨frame, asked, longer⟩
  · exact ⟨frames, nothing.trans same, earlier⟩
  · refine ⟨frames ++ [frame], ?_, fun other member => ?_⟩
    · rw [longer, same, List.flatMap_append, List.flatMap_cons, List.flatMap_nil, List.append_nil]
    · rcases List.mem_append.mp member with before | new
      · exact earlier other before
      · exact List.mem_singleton.mp new ▸ asked

variable {sender : Sender}

/-- Every stream took nothing, or one frame that was asked for. -/
structure Extends (calls : List SendCall) (before : QuicConn) (after : Http3Connection × QuicConn) :
    Prop where
  blocks : Blocks (HeadersAsked calls) after.1
  wrote : ∀ id, log after.2 id = log before id ∨
    ∃ frame : SentFrame, Requested calls id frame ∧ log after.2 id = log before id ++ frame.writes id

private theorem perform_extends (framed : sender.Framed) (call : SendCall) :
    Extends (sender.calls ++ [call]) sender.conn (perform (sender.http3, sender.conn) call) := by
  have grows : sender.calls <+: sender.calls ++ [call] := List.prefix_append _ _
  have blocks : Blocks (HeadersAsked (sender.calls ++ [call])) sender.http3 :=
    fun id stream headerBlock fin found waiting =>
      (framed.blocks id stream headerBlock fin found waiting).mono grows
  have called : call ∈ sender.calls ++ [call] := List.mem_concat_self
  have wrote : ∀ {other frame after}, Blocks (HeadersAsked (sender.calls ++ [call])) after.1 →
      Takes other frame (sender.http3, sender.conn) after →
      Requested (sender.calls ++ [call]) other frame →
        Extends (sender.calls ++ [call]) sender.conn after := by
    intro other frame after left takes requested
    refine ⟨left, fun id => ?_⟩
    have longer := log_takes takes id
    split_ifs at longer with same
    · exact .inr ⟨frame, same ▸ requested, longer⟩
    · exact .inl (longer.trans (List.append_nil _))
  have idle : ∀ {after}, Blocks (HeadersAsked (sender.calls ++ [call])) after.1 →
      after.2.accepted = sender.conn.accepted →
        Extends (sender.calls ++ [call]) sender.conn after := by
    intro after left same
    refine ⟨left, fun id => .inl ?_⟩
    rw [log, same, log]
  cases call with
  | headers streamId headers fin =>
      have asked : ∀ headerBlock, FieldSection headers headerBlock →
          HeadersAsked (sender.calls ++ [.headers streamId headers fin]) streamId headerBlock fin :=
        fun headerBlock encoded => ⟨headers, fin, sender.calls, [], rfl, encoded, .inl⟩
      have ends := @sendHeaders_ends _ streamId (sender.http3, sender.conn) framed.carried blocks
        headers fin asked
      refine @Ends.invariant _ _ _ (Extends _ sender.conn) _ (ends.mono ?_ ?_)
      · rintro _ after ⟨left, headerBlock, requested, takes⟩
        exact wrote left takes ⟨takes.1, .inl ⟨rfl, requested⟩⟩
      · rintro _ after ⟨left, same⟩
        exact idle left same
  | body streamId body fin =>
      have empty : ∀ headerBlock writeFin,
          HeadersAsked (sender.calls ++ [.body streamId body fin]) streamId headerBlock writeFin →
          HeadersAsked (sender.calls ++ [.body streamId body fin]) streamId headerBlock
            (writeFin || (fin && body.isEmpty)) := by
        rintro headerBlock writeFin ⟨headers, flag, earlier, later, same, encoded, ends⟩
        refine ⟨headers, flag, earlier, later, same, encoded, fun carried => ?_⟩
        rcases Bool.or_eq_true_iff.mp carried with before | now
        · exact ends before
        · obtain ⟨ending, nothing⟩ := Bool.and_eq_true_iff.mp now
          rw [List.isEmpty_iff.mp nothing, ending] at same
          -- The call that ends the stream is the last one, and no call of `send_headers`.
          rcases List.eq_nil_or_concat' later with rfl | ⟨front, last, rfl⟩
          · cases (List.append_inj' same rfl).2
          · rw [← List.cons_append, ← List.append_assoc] at same
            cases (List.append_inj' same rfl).2
            exact .inr List.mem_concat_self
      have ends := @sendBody_ends _ streamId (sender.http3, sender.conn) framed.carried blocks body fin
        empty
      refine @Ends.invariant _ _ _ (Extends _ sender.conn) _ (ends.mono ?_ ?_)
      · rintro written after ⟨left, bound, takes⟩
        refine wrote left takes ⟨takes.1, .inr ⟨rfl, body, fin, called, List.take_prefix _ _,
          fun carried => ?_⟩⟩
        obtain ⟨ending, whole⟩ := Bool.and_eq_true_iff.mp carried
        exact ⟨ending, List.take_of_length_le (beq_iff_eq.mp whole).ge⟩
      · rintro _ after ⟨left, same | ⟨headerBlock, writeFin, requested, takes⟩⟩
        · exact idle left same
        · exact wrote left takes ⟨takes.1, .inl ⟨rfl, requested⟩⟩

theorem Framed.step (framed : sender.Framed) {op : SendOp} {next : Sender}
    (allowed : Allowed sender op) (stepped : sender.step op = some next) : next.Framed := by
  cases op with
  | call call =>
      cases stepped
      obtain ⟨blocks, wrote⟩ := perform_extends framed call
      refine ⟨?_, blocks, fun id request => ?_⟩
      · cases call with
        | headers streamId headers fin =>
            exact carried_sendHeaders streamId headers fin (sender.http3, sender.conn) framed.carried
        | body streamId body fin =>
            exact carried_sendBody streamId body fin (sender.http3, sender.conn) framed.carried
      · exact log_extends (List.prefix_append _ _) (framed.log id request) (wrote id)
  | elsewhere http3 conn =>
      cases stepped
      refine ⟨allowed.carried, ?_, fun id request => ?_⟩
      · intro id stream headerBlock fin found waiting
        obtain ⟨old, before, same⟩ := allowed.blocks id stream _ found waiting
        exact framed.blocks id old headerBlock fin before same
      · exact log_extends (List.prefix_refl _) (framed.log id request)
          (.inl (allowed.log id request))

theorem Fresh.framed (fresh : sender.Fresh) : sender.Framed := by
  refine ⟨fresh.carried, fun id stream headerBlock fin found waiting => ?_, fun id request =>
    ⟨[], fresh.log id request, fun _ member => nomatch member⟩⟩
  rw [fresh.blocks id stream found] at waiting
  cases waiting

/-- What a request stream took is a sequence of whole HEADERS and DATA frames that the application
asked for, FIN among them; and the result of `send_body` is the length of the payload that it wrote. -/
theorem writes_well_framed {start finish : Sender} (fresh : start.Fresh)
    (run : Run step Allowed start finish) {id : Nat} (request : id % 4 = 0) :
    (∃ frames : List SentFrame, log finish.conn id = frames.flatMap (·.writes id) ∧
      ∀ frame ∈ frames, Requested finish.calls id frame) ∧
    ∀ body fin written after,
      (sendBody id body fin).run (finish.http3, finish.conn) = (.ok written, after) →
        written ≤ body.length ∧ log after.2 id = log finish.conn id ++ SentFrame.writes id
          { frameType := dataFrameType
            payload := body.take written
            fin := fin && written == body.length } := by
  have framed : finish.Framed := run.invariant (fun _ _ _ framed allowed stepped =>
    Framed.step framed allowed stepped) fresh.framed
  refine ⟨framed.log id request, fun body fin written after returned => ?_⟩
  have blocks : Blocks (fun _ _ _ => True) finish.http3 := fun _ _ _ _ _ _ => trivial
  have ends := @sendBody_ends _ id (finish.http3, finish.conn) framed.carried blocks body fin
    fun _ _ _ => trivial
  obtain ⟨_, bound, takes⟩ := ends.of_ok returned
  refine ⟨bound, ?_⟩
  rw [log_takes takes id, if_pos rfl]

private theorem run_of_calls {start finish : Sender} {calls : List SendCall}
    (executed : exec step start (calls.map .call) = some finish) : Run step Allowed start finish := by
  induction calls generalizing start with
  | nil =>
      cases executed
      exact .refl
  | cons call rest ih =>
      exact .head (show Allowed start (.call call) from trivial) rfl (ih executed)

/-- A client with a request, whose limits are in `streams`. -/
def client (streams : StreamMap) : Sender :=
  { http3 := (Http3Connection.new false none none none).setStream 0 (.new 0 true)
    conn := { streams, localError := none, isClosed := false, isDraining := false, accepted := [] }
    calls := [] }

theorem client_fresh {streams : StreamMap} {world : World} (reached : World.Reachable anyStep world)
    (same : world.map = streams) : (client streams).Fresh := by
  refine ⟨⟨world, reached, same⟩, rfl, fun _ _ => rfl, fun id stream present => ?_⟩
  change ((∅ : OrdMap Nat Http3Stream).insert 0 (.new 0 true)).get? id = some stream at present
  rw [OrdMap.get?_insert] at present
  split_ifs at present
  · cases present
    rfl
  · exact absurd present (by simp)

def sampleLimits : StreamTransportParams :=
  { initialMaxData := 20
    initialMaxStreamDataBidiRemote := 19
    initialMaxStreamsBidi := 1 }

/-- Headers, a body, and a body that ends the stream. -/
theorem writes_well_framed_sample :
    ∃ start finish, Fresh start ∧ Run step Allowed start finish ∧
      (log finish.conn 0).map Written.fin = [false, false, false, false, false, true] ∧
      ∃ frames : List SentFrame, log finish.conn 0 = frames.flatMap (·.writes 0) ∧
        ∀ frame ∈ frames, Requested finish.calls 0 frame := by
  have executed : (exec World.step (.new false 100 100 {} false)
      [.peerParams sampleLimits, .setPriority 0 0 false]).any (fun world =>
      (exec step (client world.map) ([.headers 0 [⟨[97], [98]⟩] false, .body 0 [1, 2, 3] false,
        .body 0 [4, 5, 6, 7] true].map .call)).any fun finish =>
        (log finish.conn 0).map Written.fin = [false, false, false, false, false, true]) = true := by
    decide +kernel
  obtain ⟨world, made, found⟩ := (Option.any_eq_true _ _).mp executed
  obtain ⟨finish, steps, shown⟩ := (Option.any_eq_true _ _).mp found
  have fresh : (client world.map).Fresh := client_fresh ⟨_, _, _, _, _, .of_exec made⟩ rfl
  have run := run_of_calls steps
  exact ⟨_, finish, fresh, run, of_decide_eq_true shown,
    (@writes_well_framed _ _ fresh run 0 rfl).1⟩

end Sender

end Tquic.H3
