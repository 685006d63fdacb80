import Tquic.H3.FrameRoundTrip

/-! The payloads of the known frames field by field, and what `decode_payload` makes of them. -/

set_option autoImplicit false

namespace Tquic.H3

open Lib

/-- An encoding of a variable-length integer, the shortest or a longer one. -/
def Encodes (bytes : Bytes) (value : Nat) : Prop :=
  ∃ len limit, VarintLen len limit ∧ value < limit ∧ bytes = varintBytes len value

theorem Encodes.reads {bytes : Bytes} {value : Nat} (encodes : Encodes bytes value) :
    Reads Http3Decoder.readVarint bytes value := by
  obtain ⟨len, limit, form, less, rfl⟩ := encodes
  exact (reads_varintBytes form less).mapError Http3Error.ofError

theorem readVarint_encodes {value : Nat} {input rest : Bytes}
    (read : Http3Decoder.readVarint.run input = .ok (value, rest)) :
    ∃ first, Encodes first value ∧ input = first ++ rest := by
  obtain ⟨len, limit, form, less, same⟩ := readVarint_form (run_of_mapError_ok read)
  exact ⟨varintBytes len value, ⟨len, limit, form, less, rfl⟩, same⟩

theorem Encodes.unique {first other rest more : Bytes} {value number : Nat}
    (left : Encodes first value) (right : Encodes other number)
    (same : first ++ rest = other ++ more) : value = number ∧ rest = more ∧ first = other := by
  have ran := left.reads rest
  rw [same, right.reads more] at ran
  cases ran
  exact ⟨rfl, rfl, List.append_cancel_right same⟩

theorem Encodes.shortest {first : Bytes} {value : Nat} (encodes : Encodes first value) :
    value ≤ vintMax ∧ encodeVarintLen value ≤ first.length := by
  obtain ⟨len, limit, form, less, rfl⟩ := encodes
  rw [length_varintBytes]
  exact form.shortest less

namespace Http3Frame

/-! ## The fields -/

/-- The settings of a payload, in their order. -/
inductive SettingsFields : List (Nat × Nat) → Bytes → Prop where
  | nil : SettingsFields [] []
  | cons {identifier value : Nat} {settings : List (Nat × Nat)} {first second rest : Bytes} :
      Encodes first identifier → Encodes second value → SettingsFields settings rest →
      SettingsFields ((identifier, value) :: settings) (first ++ (second ++ rest))

def bytesFrameTypes : List Nat := [dataFrameType, headersFrameType]

def idFrameTypes : List Nat := [cancelPushFrameType, goawayFrameType, maxPushIdFrameType]

def idBytesFrameTypes : List Nat :=
  [pushPromiseFrameType, priorityUpdateFrameRequestType, priorityUpdateFramePushType]

def knownFrameTypes : List Nat :=
  bytesFrameTypes ++ idFrameTypes ++ idBytesFrameTypes ++ [settingsFrameType]

inductive Fields : Nat → Bytes → Prop where
  | bytes {frameType : Nat} {payload : Bytes} : frameType ∈ bytesFrameTypes → Fields frameType payload
  | id {frameType id : Nat} {payload : Bytes} :
      frameType ∈ idFrameTypes → Encodes payload id → Fields frameType payload
  | idBytes {frameType id : Nat} {first tail : Bytes} :
      frameType ∈ idBytesFrameTypes → Encodes first id → Fields frameType (first ++ tail)
  | settings {settings : List (Nat × Nat)} {payload : Bytes} :
      SettingsFields settings payload → Fields settingsFrameType payload

def AllowedSetting (setting : Nat × Nat) : Prop :=
  setting.1 ∉ [0x0, 0x2, 0x3, 0x4, 0x5] ∧
    (setting.1 = settingsEnableConnectProtocol → setting.2 ≤ 1)

/-- The limit on the size of the settings, and what is asked of each of them. -/
def SettingsAllowed (frameType : Nat) (payload : Bytes) : Prop :=
  frameType = settingsFrameType → payload.length ≤ maxSettingsPayloadSize ∧
    ∀ settings, SettingsFields settings payload → ∀ setting ∈ settings, AllowedSetting setting

def Accepts (frameType : Nat) (payload : Bytes) : Prop :=
  ∃ frame, decodePayload frameType payload.length payload = .ok frame

/-- Bytes behind the only field of the frame. -/
def Trailing (frameType : Nat) (payload : Bytes) : Prop :=
  frameType ∈ idFrameTypes ∧
    ∃ id first rest, Encodes first id ∧ rest ≠ [] ∧ payload = first ++ rest

/-- The identifier in front of the bytes takes more room than it needs. -/
def Overlong (frameType : Nat) (payload : Bytes) : Prop :=
  frameType ∈ idBytesFrameTypes ∧
    ∃ id first tail, Encodes first id ∧ encodeVarintLen id < first.length ∧ payload = first ++ tail

variable {payload : Bytes} {frameType : Nat}

theorem Fields.bytes_iff (kind : frameType ∈ bytesFrameTypes) : Fields frameType payload ↔ True :=
  iff_true_intro (.bytes kind)

private theorem bytesFrameTypes_apart : ∀ kind ∈ bytesFrameTypes,
    kind ∉ idFrameTypes ∧ kind ∉ idBytesFrameTypes ∧ kind ≠ settingsFrameType := by
  decide

theorem idFrameTypes_apart : ∀ kind ∈ idFrameTypes,
    kind ∉ bytesFrameTypes ∧ kind ∉ idBytesFrameTypes ∧ kind ≠ settingsFrameType := by
  decide

theorem idBytesFrameTypes_apart : ∀ kind ∈ idBytesFrameTypes,
    kind ∉ bytesFrameTypes ∧ kind ∉ idFrameTypes ∧ kind ≠ settingsFrameType := by
  decide

theorem settingsFrameType_apart : settingsFrameType ∉ bytesFrameTypes ∧
    settingsFrameType ∉ idFrameTypes ∧ settingsFrameType ∉ idBytesFrameTypes := by
  decide

theorem Fields.id_iff (kind : frameType ∈ idFrameTypes) :
    Fields frameType payload ↔ ∃ id, Encodes payload id := by
  obtain ⟨noBytes, noIdBytes, noSettings⟩ := idFrameTypes_apart frameType kind
  constructor
  · intro fields
    cases fields with
    | bytes other => exact absurd other noBytes
    | id _ encodes => exact ⟨_, encodes⟩
    | idBytes other _ => exact absurd other noIdBytes
    | settings _ => exact absurd rfl noSettings
  · rintro ⟨id, encodes⟩
    exact .id kind encodes

private theorem Fields.idBytes_iff (kind : frameType ∈ idBytesFrameTypes) :
    Fields frameType payload ↔ ∃ id first tail, Encodes first id ∧ payload = first ++ tail := by
  obtain ⟨noBytes, noId, noSettings⟩ := idBytesFrameTypes_apart frameType kind
  constructor
  · intro fields
    cases fields with
    | bytes other => exact absurd other noBytes
    | id other _ => exact absurd other noId
    | idBytes _ encodes => exact ⟨_, _, _, encodes, rfl⟩
    | settings _ => exact absurd rfl noSettings
  · rintro ⟨id, first, tail, encodes, rfl⟩
    exact .idBytes kind encodes

private theorem Fields.settings_iff :
    Fields settingsFrameType payload ↔ ∃ settings, SettingsFields settings payload := by
  obtain ⟨noBytes, noId, noIdBytes⟩ := settingsFrameType_apart
  constructor
  · intro fields
    generalize kind : settingsFrameType = frameType at fields noBytes noId noIdBytes
    cases fields with
    | bytes other => exact absurd other noBytes
    | id other _ => exact absurd other noId
    | idBytes other _ => exact absurd other noIdBytes
    | settings fields => exact ⟨_, fields⟩
  · rintro ⟨settings, fields⟩
    exact .settings fields

/-! ## The decoders -/

private theorem accepts_bytes (kind : frameType ∈ bytesFrameTypes) (payload : Bytes) :
    Accepts frameType payload := by
  have whole := run_all (reads_bytes payload)
  rcases List.mem_pair.mp kind with rfl | rfl
  · exact ⟨.data payload, bind_ok.mpr ⟨_, whole, rfl⟩⟩
  · exact ⟨.headers payload, bind_ok.mpr ⟨_, whole, rfl⟩⟩

/-- Whatever is made of the identifier, only the identifier is read. -/
theorem varint_bind_iff {payload : Bytes} {make : Nat → Http3Frame} :
    (∃ frame, (Http3Decoder.readVarint.run payload >>= fun read => .ok (make read.1)) =
        (.ok frame : Except Http3Error Http3Frame)) ↔
      ∃ id first rest, Encodes first id ∧ payload = first ++ rest := by
  constructor
  · rintro ⟨frame, accepted⟩
    obtain ⟨⟨id, rest⟩, read, _⟩ := bind_ok.mp accepted
    obtain ⟨first, encodes, same⟩ := readVarint_encodes read
    exact ⟨id, first, rest, encodes, same⟩
  · rintro ⟨id, first, rest, encodes, rfl⟩
    exact ⟨make id, bind_ok.mpr ⟨_, encodes.reads rest, rfl⟩⟩

private theorem accepts_id_iff (kind : frameType ∈ idFrameTypes) :
    Accepts frameType payload ↔ ∃ id first rest, Encodes first id ∧ payload = first ++ rest := by
  simp only [idFrameTypes, List.mem_cons, List.not_mem_nil, or_false] at kind
  rcases kind with rfl | rfl | rfl
  · exact @varint_bind_iff payload Http3Frame.cancelPush
  · exact @varint_bind_iff payload Http3Frame.goAway
  · exact @varint_bind_iff payload Http3Frame.maxPushId

/-- What is left behind the identifier has the computed length when the identifier was not
longer than computed. -/
theorem readIdBytes_iff :
    (∃ read, (readIdBytes payload.length).run payload = .ok read) ↔
      ∃ id first tail, Encodes first id ∧ first.length = encodeVarintLen id ∧
        payload = first ++ tail := by
  unfold readIdBytes
  constructor
  · rintro ⟨⟨result, left⟩, ran⟩
    obtain ⟨id, rest, read, ran⟩ := run_bind_ok.mp ran
    obtain ⟨first, encodes, rfl⟩ := readVarint_encodes read
    have shortest := encodes.shortest.2
    refine ⟨id, first, rest, encodes, ?_, rfl⟩
    split_ifs at ran
    · cases ran
    · obtain ⟨bytes, last, taken, _⟩ := run_bind_ok.mp ran
      obtain ⟨length, rfl⟩ := Reader.run_take_ok (run_of_mapError_ok taken)
      simp only [List.length_append] at length
      omega
  · rintro ⟨id, first, tail, encodes, fits, rfl⟩
    have enough : ¬ (first ++ tail).length < encodeVarintLen id := by
      rw [List.length_append]
      omega
    have left : (first ++ tail).length - encodeVarintLen id = tail.length := by
      rw [List.length_append]
      omega
    refine ⟨((id, tail), []), run_bind_ok.mpr ⟨id, tail, encodes.reads tail, ?_⟩⟩
    rw [if_neg enough, left]
    exact run_bind_ok.mpr ⟨tail, [], run_all (reads_bytes tail), rfl⟩

theorem idBytes_bind_iff {payload : Bytes} {make : Nat → Bytes → Http3Frame} :
    (∃ frame, ((readIdBytes payload.length).run payload >>= fun read =>
        .ok (make read.1.1 read.1.2)) = (.ok frame : Except Http3Error Http3Frame)) ↔
      ∃ read, (readIdBytes payload.length).run payload = .ok read := by
  constructor
  · rintro ⟨frame, accepted⟩
    obtain ⟨read, ran, _⟩ := bind_ok.mp accepted
    exact ⟨read, ran⟩
  · rintro ⟨read, ran⟩
    exact ⟨_, bind_ok.mpr ⟨read, ran, rfl⟩⟩

private theorem accepts_idBytes_iff (kind : frameType ∈ idBytesFrameTypes) :
    Accepts frameType payload ↔
      ∃ id first tail, Encodes first id ∧ first.length = encodeVarintLen id ∧
        payload = first ++ tail := by
  rw [← readIdBytes_iff]
  simp only [idBytesFrameTypes, List.mem_cons, List.not_mem_nil, or_false] at kind
  rcases kind with rfl | rfl | rfl
  · exact @idBytes_bind_iff payload Http3Frame.pushPromise
  · exact @idBytes_bind_iff payload Http3Frame.priorityUpdateRequest
  · exact @idBytes_bind_iff payload Http3Frame.priorityUpdatePush

/-! ## The settings -/

private theorem Settings.set_ok_iff {found : Settings} {identifier value : Nat} :
    (∃ next, found.set identifier value = .ok next) ↔ AllowedSetting (identifier, value) := by
  unfold Settings.set AllowedSetting settingsMaxFieldSectionSize settingsQpackMaxTableCapacity
    settingsQpackBlockedStreams settingsEnableConnectProtocol
  simp only [List.mem_cons, List.not_mem_nil, or_false]
  split_ifs <;> simp <;> omega

theorem decodeSettings_succ {turns : Nat} {found : Settings}
    (filled : payload ≠ []) : decodeSettings (turns + 1) found payload =
      Http3Decoder.readVarint.run payload >>= fun one =>
        Http3Decoder.readVarint.run one.2 >>= fun two =>
          found.set one.1 two.1 >>= fun found => decodeSettings turns found two.2 := by
  cases payload with
  | nil => exact absurd rfl filled
  | cons byte payload => rfl

private theorem decodeSettings_fields {turns : Nat} {found next : Settings}
    (decoded : decodeSettings turns found payload = .ok next) :
    ∃ settings, SettingsFields settings payload := by
  induction turns generalizing found payload with
  | zero =>
      cases payload with
      | nil => exact ⟨[], .nil⟩
      | cons byte payload => cases decoded
  | succ turns ih =>
      cases payload with
      | nil => exact ⟨[], .nil⟩
      | cons byte payload =>
          rw [decodeSettings_succ (List.cons_ne_nil _ _)] at decoded
          obtain ⟨⟨identifier, middle⟩, first, decoded⟩ := bind_ok.mp decoded
          obtain ⟨⟨value, rest⟩, second, decoded⟩ := bind_ok.mp decoded
          obtain ⟨after, _, decoded⟩ := bind_ok.mp decoded
          obtain ⟨settings, fields⟩ := ih decoded
          obtain ⟨one, encodes, same⟩ := readVarint_encodes first
          obtain ⟨two, following, rfl⟩ := readVarint_encodes second
          rw [same]
          exact ⟨_, .cons encodes following fields⟩

/-- SETTINGS are accepted exactly if every setting is allowed. -/
theorem decodeSettings_ok_iff {settings : List (Nat × Nat)} {payload : Bytes}
    (fields : SettingsFields settings payload) {turns : Nat} {found : Settings}
    (enough : payload.length ≤ turns) :
    (∃ next, decodeSettings turns found payload = .ok next) ↔
      ∀ setting ∈ settings, AllowedSetting setting := by
  induction fields generalizing turns found with
  | nil =>
      have empty : decodeSettings turns found [] = .ok found := by cases turns <;> rfl
      exact iff_of_true ⟨found, empty⟩ (fun _ member => nomatch member)
  | @cons identifier value settings first second rest one two fields ih =>
      have front := one.shortest.2
      have positive := encodeVarintLen_pos identifier
      rw [List.length_append, List.length_append] at enough
      cases turns with
      | zero => omega
      | succ turns =>
          have filled : first ++ (second ++ rest) ≠ [] := by
            intro empty
            have length := congrArg List.length (List.append_eq_nil_iff.mp empty).1
            rw [List.length_nil] at length
            omega
          have shape : decodeSettings (turns + 1) found (first ++ (second ++ rest)) =
              found.set identifier value >>= fun found => decodeSettings turns found rest := by
            rw [decodeSettings_succ filled, one.reads]
            change (Http3Decoder.readVarint.run (second ++ rest) >>= _) = _
            rw [two.reads]
            rfl
          rw [shape, List.forall_mem_cons, ← @Settings.set_ok_iff found]
          constructor
          · rintro ⟨next, decoded⟩
            obtain ⟨after, set, decoded⟩ := bind_ok.mp decoded
            exact ⟨⟨after, set⟩, (ih (by omega)).mp ⟨next, decoded⟩⟩
          · rintro ⟨⟨after, set⟩, allowed⟩
            obtain ⟨next, decoded⟩ := (@ih turns after (by omega)).mpr allowed
            exact ⟨next, bind_ok.mpr ⟨after, set, decoded⟩⟩

private theorem accepts_settings_iff :
    Accepts settingsFrameType payload ↔
      Fields settingsFrameType payload ∧ SettingsAllowed settingsFrameType payload := by
  have shape : decodePayload settingsFrameType payload.length payload =
      decodeSettingsFrame payload.length payload := rfl
  unfold Accepts
  rw [shape]
  unfold decodeSettingsFrame
  constructor
  · rintro ⟨frame, accepted⟩
    split_ifs at accepted with large
    · cases accepted
    · obtain ⟨next, decoded, _⟩ := bind_ok.mp accepted
      obtain ⟨settings, fields⟩ := decodeSettings_fields decoded
      refine ⟨.settings fields, fun _ => ⟨Nat.le_of_not_lt large, fun settings fields => ?_⟩⟩
      exact (decodeSettings_ok_iff fields (Nat.le_refl _)).mp ⟨next, decoded⟩
  · rintro ⟨fields, allowed⟩
    obtain ⟨small, each⟩ := allowed rfl
    obtain ⟨settings, fields⟩ := Fields.settings_iff.mp fields
    obtain ⟨next, decoded⟩ :=
      (@decodeSettings_ok_iff _ _ fields _ {} (Nat.le_refl _)).mpr (each settings fields)
    rw [if_neg (Nat.not_lt.mpr small)]
    exact ⟨_, bind_ok.mpr ⟨next, decoded, rfl⟩⟩

/-! ## What is accepted -/

private theorem trailing_iff (kind : frameType ∈ idFrameTypes) :
    (Accepts frameType payload ↔ Fields frameType payload) ↔ ¬ Trailing frameType payload := by
  rw [accepts_id_iff kind, Fields.id_iff kind]
  constructor
  · rintro same ⟨_, id, first, rest, encodes, some, rfl⟩
    obtain ⟨number, whole⟩ := same.mp ⟨id, first, rest, encodes, rfl⟩
    have ends := encodes.unique whole (List.append_nil (first ++ rest)).symm
    exact some ends.2.1
  · intro ends
    constructor
    · rintro ⟨id, first, rest, encodes, rfl⟩
      by_cases some : rest = []
      · rw [some, List.append_nil]
        exact ⟨id, encodes⟩
      · exact absurd ⟨kind, id, first, rest, encodes, some, rfl⟩ ends
    · rintro ⟨id, encodes⟩
      exact ⟨id, payload, [], encodes, (List.append_nil payload).symm⟩

/-- An identifier that is longer than computed leaves too few bytes. -/
theorem overlong_iff (kind : frameType ∈ idBytesFrameTypes) :
    (Accepts frameType payload ↔ Fields frameType payload) ↔ ¬ Overlong frameType payload := by
  rw [accepts_idBytes_iff kind, Fields.idBytes_iff kind]
  constructor
  · rintro same ⟨_, id, first, tail, encodes, long, rfl⟩
    obtain ⟨number, other, rest, fits, short, equal⟩ := same.mpr ⟨id, first, tail, encodes, rfl⟩
    obtain ⟨rfl, _, rfl⟩ := encodes.unique fits equal
    exact absurd short (Nat.ne_of_gt long)
  · intro fits
    constructor
    · rintro ⟨id, first, tail, encodes, _, rfl⟩
      exact ⟨id, first, tail, encodes, rfl⟩
    · rintro ⟨id, first, tail, encodes, rfl⟩
      refine ⟨id, first, tail, encodes, ?_, rfl⟩
      by_contra other
      have long := Nat.lt_of_le_of_ne encodes.shortest.2 (Ne.symm other)
      exact fits ⟨kind, id, first, tail, encodes, long, rfl⟩

/-- The decoder accepts exactly the payloads that are the fields of the frame, where SETTINGS are
those that the format allows, but for bytes behind the identifier of a frame that has no other
field, and but for an identifier in front of other bytes that is not encoded in the shortest way.
Without the rules for SETTINGS it differs from the fields alone by these rules also. -/
theorem decode_payload_exact_iff {frameType : Nat} (known : frameType ∈ knownFrameTypes)
    (payload : Bytes) :
    ((Accepts frameType payload ↔
        Fields frameType payload ∧ SettingsAllowed frameType payload) ↔
      ¬ Trailing frameType payload ∧ ¬ Overlong frameType payload) ∧
    ((Accepts frameType payload ↔ Fields frameType payload) ↔
      ¬ Trailing frameType payload ∧ ¬ Overlong frameType payload ∧
        (Fields frameType payload → SettingsAllowed frameType payload)) := by
  simp only [knownFrameTypes, List.mem_append, List.mem_singleton] at known
  rcases known with ((kind | kind) | kind) | rfl
  · obtain ⟨noId, noIdBytes, noSettings⟩ := bytesFrameTypes_apart frameType kind
    have quiet : ¬ Trailing frameType payload := fun trailing => noId trailing.1
    have short : ¬ Overlong frameType payload := fun overlong => noIdBytes overlong.1
    have rules : SettingsAllowed frameType payload := fun same => absurd same noSettings
    simp [accepts_bytes kind, Fields.bytes_iff kind, quiet, short, rules]
  · obtain ⟨_, noIdBytes, noSettings⟩ := idFrameTypes_apart frameType kind
    have short : ¬ Overlong frameType payload := fun overlong => noIdBytes overlong.1
    have rules : SettingsAllowed frameType payload := fun same => absurd same noSettings
    simp [trailing_iff kind, short, rules]
  · obtain ⟨_, noId, noSettings⟩ := idBytesFrameTypes_apart frameType kind
    have quiet : ¬ Trailing frameType payload := fun trailing => noId trailing.1
    have rules : SettingsAllowed frameType payload := fun same => absurd same noSettings
    simp [overlong_iff kind, quiet, rules]
  · obtain ⟨_, noId, noIdBytes⟩ := settingsFrameType_apart
    have quiet : ¬ Trailing settingsFrameType payload := fun trailing => noId trailing.1
    have short : ¬ Overlong settingsFrameType payload := fun overlong => noIdBytes overlong.1
    simp [accepts_settings_iff, quiet, short]

/-- The last byte of this GOAWAY is accepted. -/
theorem goaway_with_tail :
    Accepts goawayFrameType [0x01, 0x02] ∧ ¬ Fields goawayFrameType [0x01, 0x02] := by
  refine ⟨⟨.goAway 1, rfl⟩, fun fields => ?_⟩
  obtain ⟨id, encodes⟩ := (Fields.id_iff (by decide)).mp fields
  have read : Http3Decoder.readVarint.run [0x01, 0x02] = .ok (1, [0x02]) := rfl
  have whole := run_all encodes.reads
  rw [read] at whole
  cases whole

theorem decode_payload_exact_promise :
    ¬ (Accepts pushPromiseFrameType [0x40, 0x01] ↔ Fields pushPromiseFrameType [0x40, 0x01]) := by
  intro same
  have exact := (@decode_payload_exact_iff pushPromiseFrameType (by decide) [0x40, 0x01]).2.mp same
  exact exact.2.1 ⟨by decide, 1, [0x40, 0x01], [], ⟨2, 0x4000, .two, by decide, rfl⟩, by decide, rfl⟩

end Http3Frame

end Tquic.H3
