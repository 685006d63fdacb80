import Tquic.H3.Frame

/-! A frame of HTTP/3 that was encoded is decoded to itself. As for the frames of the
transport, the wire image of a frame stands between the encoder and the decoder. -/

set_option autoImplicit false

namespace Tquic.H3

open Lib

namespace Http3Frame

/-! ## Wire images -/

def settingImage (identifier : Nat) : Option Nat → Bytes
  | none => []
  | some val => varint identifier ++ varint val

def settingsImage (maxFieldSectionSize qpackMaxTableCapacity qpackBlockedStreams
    connectProtocolEnabled : Option Nat) : Bytes :=
  settingImage settingsMaxFieldSectionSize maxFieldSectionSize ++
    (settingImage settingsQpackMaxTableCapacity qpackMaxTableCapacity ++
      (settingImage settingsQpackBlockedStreams qpackBlockedStreams ++
        settingImage settingsEnableConnectProtocol connectProtocolEnabled))

def frameType : Http3Frame → Nat
  | .data _ => dataFrameType
  | .headers _ => headersFrameType
  | .cancelPush _ => cancelPushFrameType
  | .settings _ _ _ _ _ => settingsFrameType
  | .pushPromise _ _ => pushPromiseFrameType
  | .goAway _ => goawayFrameType
  | .maxPushId _ => maxPushIdFrameType
  | .priorityUpdateRequest _ _ => priorityUpdateFrameRequestType
  | .priorityUpdatePush _ _ => priorityUpdateFramePushType
  | .unknown rawType _ => rawType

def payload : Http3Frame → Bytes
  | .data bytes => bytes
  | .headers fieldSection => fieldSection
  | .cancelPush pushId => varint pushId
  | .settings maxFieldSectionSize qpackMaxTableCapacity qpackBlockedStreams
      connectProtocolEnabled _ =>
      settingsImage maxFieldSectionSize qpackMaxTableCapacity qpackBlockedStreams
        connectProtocolEnabled
  | .pushPromise pushId fieldSection => varint pushId ++ fieldSection
  | .goAway id => varint id
  | .maxPushId pushId => varint pushId
  | .priorityUpdateRequest prioritizedElementId priorityFieldValue =>
      varint prioritizedElementId ++ priorityFieldValue
  | .priorityUpdatePush prioritizedElementId priorityFieldValue =>
      varint prioritizedElementId ++ priorityFieldValue
  | .unknown _ _ => []

def image (frame : Http3Frame) : Bytes :=
  varint frame.frameType ++ (varint frame.payload.length ++ frame.payload)

/-! ## Frames that can be encoded -/

def presentSetting (identifier : Nat) : Option Nat → List (Nat × Nat)
  | none => []
  | some val => [(identifier, val)]

def presentSettings (maxFieldSectionSize qpackMaxTableCapacity qpackBlockedStreams
    connectProtocolEnabled : Option Nat) : List (Nat × Nat) :=
  presentSetting settingsMaxFieldSectionSize maxFieldSectionSize ++
    presentSetting settingsQpackMaxTableCapacity qpackMaxTableCapacity ++
    presentSetting settingsQpackBlockedStreams qpackBlockedStreams ++
    presentSetting settingsEnableConnectProtocol connectProtocolEnabled

def BoundedBy (limit : Nat) (setting : Option Nat) : Prop := ∀ val, setting = some val → val ≤ limit

/-- The integers of the frame, the length of its payload among them, fit into
variable-length integers. -/
def WellFormed (frame : Http3Frame) : Prop :=
  frame.payload.length ≤ vintMax ∧
    match frame with
    | .data _ => True
    | .headers _ => True
    | .cancelPush pushId => pushId ≤ vintMax
    | .settings maxFieldSectionSize qpackMaxTableCapacity qpackBlockedStreams
        connectProtocolEnabled raw =>
        BoundedBy vintMax maxFieldSectionSize ∧ BoundedBy vintMax qpackMaxTableCapacity ∧
          BoundedBy vintMax qpackBlockedStreams ∧ BoundedBy 1 connectProtocolEnabled ∧
          raw = some (presentSettings maxFieldSectionSize qpackMaxTableCapacity
            qpackBlockedStreams connectProtocolEnabled)
    | .pushPromise pushId _ => pushId ≤ vintMax
    | .goAway id => id ≤ vintMax
    | .maxPushId pushId => pushId ≤ vintMax
    | .priorityUpdateRequest prioritizedElementId _ => prioritizedElementId ≤ vintMax
    | .priorityUpdatePush prioritizedElementId _ => prioritizedElementId ≤ vintMax
    | .unknown _ _ => False

variable {frame : Http3Frame}

private theorem frameType_small (wellFormed : frame.WellFormed) : frame.frameType ≤ vintMax := by
  cases frame with
  | unknown rawType payloadLength => exact absurd wellFormed.2 id
  | _ =>
      dsimp only [frameType]
      decide

/-! ## Encoding -/

theorem length_settingImage (identifier : Nat) (setting : Option Nat) :
    (settingImage identifier setting).length = settingLen identifier setting := by
  cases setting <;> simp [settingImage, settingLen]

variable {setting : Option Nat}

theorem BoundedBy.mono {limit bound : Nat} (bounded : BoundedBy limit setting)
    (le : limit ≤ bound) : BoundedBy bound setting :=
  fun val present => (bounded val present).trans le

theorem writes_setting {identifier : Nat} (kind : identifier ≤ vintMax)
    (bounded : BoundedBy vintMax setting) :
    Writes (writeSetting identifier setting) (settingImage identifier setting) () := by
  cases setting with
  | none => exact Writes.pure ()
  | some val => exact (writes_varint kind).bind (writes_varint (bounded val rfl))

variable {bytes : Bytes}

theorem writes_bytesFrame {kind : Nat} (small : kind ≤ vintMax) (fits : bytes.length ≤ vintMax) :
    Writes (writeBytesFrame kind bytes) (varint kind ++ (varint bytes.length ++ bytes)) () :=
  (writes_varint small).bind ((writes_varint fits).bind (writes_bytes bytes))

theorem writes_idFrame {kind id : Nat} (small : kind ≤ vintMax) (fits : id ≤ vintMax)
    (payload : (varint id).length ≤ vintMax) :
    Writes (writeIdFrame kind id) (varint kind ++ (varint (varint id).length ++ varint id)) () := by
  rw [length_varint] at payload ⊢
  exact (writes_varint small).bind ((writes_varint payload).bind (writes_varint fits))

theorem writes_idBytesFrame {kind id : Nat} (small : kind ≤ vintMax)
    (fits : id ≤ vintMax) (payload : (varint id ++ bytes).length ≤ vintMax) :
    Writes (writeIdBytesFrame kind id bytes)
      (varint kind ++ (varint (varint id ++ bytes).length ++ (varint id ++ bytes))) () := by
  rw [List.length_append, length_varint] at payload ⊢
  exact (writes_varint small).bind
    ((writes_varint payload).bind ((writes_varint fits).bind (writes_bytes bytes)))

variable {first second third fourth : Option Nat}

private theorem writes_settings (one : BoundedBy vintMax first)
    (two : BoundedBy vintMax second) (three : BoundedBy vintMax third)
    (four : BoundedBy vintMax fourth)
    (fits : (settingsImage first second third fourth).length ≤ vintMax) :
    Writes (do let _ ← encodeSettingsFrame first second third fourth; return ())
      (varint settingsFrameType ++ (varint (settingsImage first second third fourth).length ++
        settingsImage first second third fourth)) () := by
  have summed : (settingsImage first second third fourth).length =
      settingLen settingsMaxFieldSectionSize first + settingLen settingsQpackMaxTableCapacity second +
        settingLen settingsQpackBlockedStreams third +
        settingLen settingsEnableConnectProtocol fourth := by
    simp only [settingsImage, List.length_append, length_settingImage, Nat.add_assoc]
  rw [summed] at fits ⊢
  have kind : settingsFrameType ≤ vintMax := by decide
  have ids : settingsMaxFieldSectionSize ≤ vintMax ∧ settingsQpackMaxTableCapacity ≤ vintMax ∧
      settingsQpackBlockedStreams ≤ vintMax ∧ settingsEnableConnectProtocol ≤ vintMax := by decide
  have written : Writes (encodeSettingsFrame first second third fourth) _ _ :=
    Writes.measured ((writes_varint kind).bind ((writes_varint fits).bind
      ((writes_setting ids.1 one).bind ((writes_setting ids.2.1 two).bind
        ((writes_setting ids.2.2.1 three).bind (writes_setting ids.2.2.2 four))))))
  have whole : Writes (do let _ ← encodeSettingsFrame first second third fourth; return ()) _ () :=
    Writes.bind written (Writes.pure ())
  rwa [List.append_nil] at whole

/-- A frame is written as its image. -/
theorem writes_image (wellFormed : frame.WellFormed) : Writes frame.writeFrame frame.image () := by
  obtain ⟨fits, integers⟩ := wellFormed
  cases frame with
  | data bytes => exact writes_bytesFrame (by decide) fits
  | headers fieldSection => exact writes_bytesFrame (by decide) fits
  | cancelPush pushId => exact writes_idFrame (by decide) integers fits
  | settings maxFieldSectionSize qpackMaxTableCapacity qpackBlockedStreams connectProtocolEnabled raw =>
      obtain ⟨one, two, three, four, _⟩ := integers
      exact writes_settings one two three (four.mono (by decide)) fits
  | pushPromise pushId fieldSection => exact writes_idBytesFrame (by decide) integers fits
  | goAway id => exact writes_idFrame (by decide) integers fits
  | maxPushId pushId => exact writes_idFrame (by decide) integers fits
  | priorityUpdateRequest prioritizedElementId priorityFieldValue =>
      exact writes_idBytesFrame (by decide) integers fits
  | priorityUpdatePush prioritizedElementId priorityFieldValue =>
      exact writes_idBytesFrame (by decide) integers fits
  | unknown rawType payloadLength => exact absurd integers id

/-! ## Decoding -/

/-- From the settings `found`, the settings in `bytes` are collected into `next`, whatever
follows them. -/
def Collects (found : Settings) (bytes : Bytes) (next : Settings) : Prop :=
  ∀ rest turns, (bytes ++ rest).length ≤ turns → ∃ left, rest.length ≤ left ∧
    decodeSettings turns found (bytes ++ rest) = decodeSettings left next rest

theorem Collects.append {first second third : Settings} {bytes more : Bytes}
    (head : Collects first bytes second) (tail : Collects second more third) :
    Collects first (bytes ++ more) third := by
  intro rest turns enough
  rw [List.append_assoc] at enough ⊢
  obtain ⟨left, fits, same⟩ := head (more ++ rest) turns enough
  obtain ⟨last, leaves, finished⟩ := tail rest left fits
  exact ⟨last, leaves, same.trans finished⟩

theorem Collects.all {found next : Settings} (collects : Collects found bytes next) :
    decodeSettings bytes.length found bytes = .ok next := by
  obtain ⟨left, _, same⟩ := collects [] bytes.length (by rw [List.append_nil])
  rw [List.append_nil] at same
  rw [same]
  cases left <;> rfl

theorem collects_setting {identifier : Nat} {found next : Settings}
    (kind : identifier ≤ vintMax) (bounded : BoundedBy vintMax setting)
    (absent : setting = none → next = found)
    (sets : ∀ val, setting = some val → found.set identifier val = .ok next) :
    Collects found (settingImage identifier setting) next := by
  intro rest turns enough
  cases setting with
  | none =>
      rw [absent rfl]
      exact ⟨turns, enough, rfl⟩
  | some val =>
      have first := reads_varint kind (varint val ++ rest)
      have second := reads_varint (bounded val rfl) rest
      have length : (settingImage identifier (some val) ++ rest).length =
          encodeVarintLen identifier + encodeVarintLen val + rest.length := by
        simp [settingImage, Nat.add_assoc]
      rw [length] at enough
      have positive := encodeVarintLen_pos identifier
      obtain ⟨left, rfl⟩ : ∃ left, turns = left + 1 := ⟨turns - 1, by omega⟩
      refine ⟨left, by omega, ?_⟩
      have stored := sets val rfl
      obtain ⟨byte, more, shape⟩ : ∃ byte more, varint identifier ++ (varint val ++ rest) =
          byte :: more := by
        refine List.exists_cons_of_ne_nil fun empty => ?_
        have none := congrArg List.length empty
        rw [List.length_append, length_varint, List.length_nil] at none
        omega
      unfold settingImage
      rw [List.append_assoc, shape, decodeSettings]
      · rw [← shape]
        simp only [bind, Except.bind, first, second, stored]
      · intro empty
        cases empty

private theorem collects_settings (one : BoundedBy vintMax first)
    (two : BoundedBy vintMax second) (three : BoundedBy vintMax third) (four : BoundedBy 1 fourth) :
    Collects {} (settingsImage first second third fourth)
      ⟨first, second, third, fourth, presentSettings first second third fourth⟩ := by
  have size : Collects {} (settingImage settingsMaxFieldSectionSize first)
      ⟨first, none, none, none, presentSetting settingsMaxFieldSectionSize first⟩ := by
    refine collects_setting (by decide) one ?_ ?_
    · rintro rfl
      rfl
    · rintro val rfl
      rfl
  have capacity : ∀ raw, Collects ⟨first, none, none, none, raw⟩
      (settingImage settingsQpackMaxTableCapacity second)
      ⟨first, second, none, none, raw ++ presentSetting settingsQpackMaxTableCapacity second⟩ := by
    intro raw
    refine collects_setting (by decide) two ?_ ?_
    · rintro rfl
      rw [presentSetting, List.append_nil]
    · rintro val rfl
      rfl
  have blocked : ∀ raw, Collects ⟨first, second, none, none, raw⟩
      (settingImage settingsQpackBlockedStreams third)
      ⟨first, second, third, none, raw ++ presentSetting settingsQpackBlockedStreams third⟩ := by
    intro raw
    refine collects_setting (by decide) three ?_ ?_
    · rintro rfl
      rw [presentSetting, List.append_nil]
    · rintro val rfl
      rfl
  have connect : ∀ raw, Collects ⟨first, second, third, none, raw⟩
      (settingImage settingsEnableConnectProtocol fourth)
      ⟨first, second, third, fourth, raw ++ presentSetting settingsEnableConnectProtocol fourth⟩ := by
    intro raw
    refine collects_setting (by decide) (four.mono (by decide)) ?_ ?_
    · rintro rfl
      rw [presentSetting, List.append_nil]
    · rintro val rfl
      have flag : ¬ val > 1 := Nat.not_lt.mpr (four val rfl)
      change (if val > 1 then _ else _) = _
      rw [if_neg flag]
      rfl
  exact size.append ((capacity _).append ((blocked _).append (connect _)))

private theorem length_settingsImage_le (first second third fourth : Option Nat) :
    (settingsImage first second third fourth).length ≤ maxSettingsPayloadSize := by
  have each : ∀ identifier setting, settingLen identifier setting ≤ 16 := by
    intro identifier setting
    have le : ∀ value, encodeVarintLen value ≤ 8 := by
      intro value
      unfold encodeVarintLen
      split_ifs <;> decide
    cases setting with
    | none => exact Nat.zero_le 16
    | some val => exact Nat.add_le_add (le identifier) (le val)
  have bounds := And.intro (each settingsMaxFieldSectionSize first)
    (And.intro (each settingsQpackMaxTableCapacity second)
      (And.intro (each settingsQpackBlockedStreams third)
        (each settingsEnableConnectProtocol fourth)))
  simp only [settingsImage, List.length_append, length_settingImage, maxSettingsPayloadSize]
  omega

theorem decodeSettingsFrame_image (one : BoundedBy vintMax first) (two : BoundedBy vintMax second)
    (three : BoundedBy vintMax third) (four : BoundedBy 1 fourth) :
    decodeSettingsFrame (settingsImage first second third fourth).length
      (settingsImage first second third fourth) =
      .ok (.settings first second third fourth
        (some (presentSettings first second third fourth))) := by
  have short : ¬ (settingsImage first second third fourth).length > maxSettingsPayloadSize :=
    Nat.not_lt.mpr (length_settingsImage_le first second third fourth)
  unfold decodeSettingsFrame
  rw [if_neg short, (collects_settings one two three four).all]
  rfl

theorem run_all {α : Type} {reader : Http3Decoder α} {value : α}
    (reads : Reads reader bytes value) : reader.run bytes = .ok (value, []) := by
  have ran := reads []
  rwa [List.append_nil] at ran

private theorem reads_idBytes {id : Nat} (fits : id ≤ vintMax) :
    Reads (readIdBytes (varint id ++ bytes).length) (varint id ++ bytes) (id, bytes) := by
  have enough : ¬ (varint id ++ bytes).length < encodeVarintLen id := by simp
  have rest : (varint id ++ bytes).length - encodeVarintLen id = bytes.length := by simp
  unfold readIdBytes
  refine (reads_varint fits).bind ?_
  rw [if_neg enough, rest]
  exact (reads_bytes bytes).last rfl

private theorem decodePayload_payload (wellFormed : frame.WellFormed) :
    decodePayload frame.frameType frame.payload.length frame.payload = .ok frame := by
  obtain ⟨_, integers⟩ := wellFormed
  have bytes : ∀ bytes : Bytes, (Http3Decoder.read bytes.length).run bytes = .ok (bytes, []) :=
    fun bytes => run_all (reads_bytes bytes)
  have idOnly : ∀ {id : Nat}, id ≤ vintMax → Http3Decoder.readVarint.run (varint id) = .ok (id, []) :=
    fun fits => run_all (reads_varint fits)
  have idBytes : ∀ {id : Nat} (bytes : Bytes), id ≤ vintMax →
      (readIdBytes (varint id ++ bytes).length).run (varint id ++ bytes) = .ok ((id, bytes), []) :=
    fun bytes fits => run_all (reads_idBytes fits)
  have finish : ∀ {α : Type} {ran : Except Http3Error (α × Bytes)} {value : α}
      (make : α → Http3Frame), ran = .ok (value, []) →
        (do let (value, _) ← ran; return make value) = Except.ok (make value) := by
    rintro α ran value make rfl
    rfl
  cases frame with
  | data content =>
      have read := finish .data (bytes content)
      exact read
  | headers fieldSection =>
      have read := finish .headers (bytes fieldSection)
      exact read
  | cancelPush pushId =>
      have read := finish .cancelPush (idOnly integers)
      exact read
  | settings maxFieldSectionSize qpackMaxTableCapacity qpackBlockedStreams connectProtocolEnabled raw =>
      obtain ⟨one, two, three, four, rfl⟩ := integers
      exact decodeSettingsFrame_image one two three four
  | pushPromise pushId fieldSection =>
      have read := finish (fun part => .pushPromise part.1 part.2) (idBytes fieldSection integers)
      exact read
  | goAway id =>
      have read := finish .goAway (idOnly integers)
      exact read
  | maxPushId pushId =>
      have read := finish .maxPushId (idOnly integers)
      exact read
  | priorityUpdateRequest prioritizedElementId priorityFieldValue =>
      have read := finish (fun part => .priorityUpdateRequest part.1 part.2)
        (idBytes priorityFieldValue integers)
      exact read
  | priorityUpdatePush prioritizedElementId priorityFieldValue =>
      have read := finish (fun part => .priorityUpdatePush part.1 part.2)
        (idBytes priorityFieldValue integers)
      exact read
  | unknown rawType payloadLength => exact absurd integers id

theorem decode_image (wellFormed : frame.WellFormed) : decode frame.image = .ok frame := by
  have kind := reads_varint (frameType_small wellFormed)
    (varint frame.payload.length ++ frame.payload)
  have length := reads_varint wellFormed.1 frame.payload
  unfold decode image
  simp only [bind, Except.bind, kind, length]
  exact decodePayload_payload wellFormed

/-! ## Round trips -/

theorem encode_of_wellFormed (wellFormed : frame.WellFormed) {room : Nat}
    (enough : frame.image.length ≤ room) :
    frame.encode room = .ok (frame.image, frame.image.length) := by
  have written := writes_image wellFormed { written := [], room } enough
  unfold encode
  rw [written]
  simp only [List.nil_append]
  rw [Nat.sub_sub_self enough]

/-- A frame is written into every buffer with room for it, in exactly as many bytes as are
returned, and these bytes are decoded as the frame. -/
theorem decode_encoded_frame {frame : Http3Frame} (wellFormed : frame.WellFormed) :
    ∃ bytes, decode bytes = .ok frame ∧
      ∀ room, bytes.length ≤ room → frame.encode room = .ok (bytes, bytes.length) := by
  exact ⟨frame.image, decode_image wellFormed, fun _ => encode_of_wellFormed wellFormed⟩

/-- Two settings, one of which takes four bytes. -/
theorem settings_round_trip :
    ∃ bytes, decode bytes =
        .ok (.settings (some 16384) none none (some 1) (some [(6, 16384), (8, 1)])) ∧
      ∀ room, bytes.length ≤ room →
        (settings (some 16384) none none (some 1) (some [(6, 16384), (8, 1)])).encode room =
          .ok (bytes, bytes.length) := by
  refine decode_encoded_frame ⟨by decide, ?_, ?_, ?_, ?_, rfl⟩
  · rintro val ⟨⟩
    decide
  · rintro val ⟨⟩
  · rintro val ⟨⟩
  · rintro val ⟨⟩
    decide

end Http3Frame

end Tquic.H3
