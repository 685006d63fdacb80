import Tquic.Connection.StreamInvariants
import Tquic.Connection.StreamParts
import Tquic.Connection.StreamRegistry

/-! The identifiers of the streams over whole runs: the stream map only makes steps of the
registry. New local identifiers are fresh, limits hold, and a closed stream never returns. -/

set_option autoImplicit false

namespace Tquic.Connection

open Lib

namespace StreamMap

def registry (map : StreamMap) : StreamRegistry :=
  { isServer := map.isServer
    streams := fun id => (map.get id).map (fun stream => ⟨stream.byLocal, stream.closed⟩)
    destroyed := map.destroyed.map (fun entry => (entry.1, entry.2.byLocal))
    control := map.concurrencyControl
    nextStreamIdBidi := map.nextStreamIdBidi
    nextStreamIdUni := map.nextStreamIdUni }

def Evolves (before after : StreamMap) : Prop := before.registry.Evolves after.registry

theorem Evolves.refl (map : StreamMap) : Evolves map map := Relation.ReflTransGen.refl

theorem Evolves.trans {first second third : StreamMap} (former : Evolves first second)
    (latter : Evolves second third) : Evolves first third :=
  Relation.ReflTransGen.trans former latter

variable {before after : StreamMap}

theorem Evolves.of_eq (same : after.registry = before.registry) : Evolves before after := by
  unfold Evolves
  rw [same]

theorem Evolves.of_step (step : before.registry.Step after.registry) : Evolves before after :=
  .single step

/-- No identifier, flag or limit has changed. -/
def SameRegistry (before after : StreamMap) : Prop := after.registry = before.registry

theorem SameRegistry.evolves (same : SameRegistry before after) : Evolves before after :=
  .of_eq same

variable {id : Nat} {map : StreamMap} {stream : Stream}

theorem registry_streams (found : map.get id = some stream) :
    map.registry.streams id = some ⟨stream.byLocal, stream.closed⟩ := by
  change (map.get id).map _ = _
  rw [found]
  rfl

theorem setStream_streams (map : StreamMap) (id : Nat) (stream : Stream) (other : Nat) :
    (map.setStream id stream).registry.streams other =
      if other = id then some ⟨stream.byLocal, stream.closed⟩ else map.registry.streams other := by
  change ((map.setStream id stream).get other).map _ = _
  rw [StreamMap.get, setStream, OrdMap.get?_insert]
  split_ifs
  · rfl
  · rfl

theorem SameRegistry.set {before map : StreamMap} {new : Stream} (same : SameRegistry before map)
    (present : before.registry.streams id = some ⟨new.byLocal, new.closed⟩) :
    SameRegistry before (map.setStream id new) := by
  refine Eq.trans ?_ same
  ext1
  case streams =>
    funext other
    rw [setStream_streams]
    split_ifs with own
    · rw [own, same, present]
    · rfl
  all_goals rfl

/-! ## Opening and closing -/

theorem streams_registry_none (missing : map.get id = none) : map.registry.streams id = none := by
  change (map.get id).map _ = none
  rw [missing]
  rfl

private theorem create_registry (map : StreamMap) (id : Nat) (byLocal : Bool) :
    (({ map with
        concurrencyControl :=
          (map.concurrencyControl.checkConcurrencyLimits id map.isServer).2 }).create id
        byLocal).2.registry = map.registry.openStream id byLocal := by
  unfold create
  dsimp only
  ext1
  case isServer => split_ifs <;> rfl
  case streams =>
    funext other
    rw [setStream_streams, StreamRegistry.openStream, StreamRegistry.streams_setStream]
    split_ifs <;> rfl
  case destroyed => split_ifs <;> rfl
  case control => split_ifs <;> rfl
  case nextStreamIdBidi =>
    rw [StreamRegistry.openStream]
    split_ifs <;> rfl
  case nextStreamIdUni =>
    rw [StreamRegistry.openStream]
    split_ifs <;> rfl

private theorem checkConcurrencyLimits_blocked {control : ConcurrencyControl} {isServer : Bool}
    {error : Error} (refused : (control.checkConcurrencyLimits id isServer).1 = .error error) :
    (control.checkConcurrencyLimits id isServer).2 = control ∨
      ∃ bidi blockedAt, (control.checkConcurrencyLimits id isServer).2 =
        control.updateStreamsBlockedAt bidi blockedAt := by
  unfold ConcurrencyControl.checkConcurrencyLimits at refused ⊢
  dsimp only at refused ⊢
  split_ifs at refused ⊢
  · exact .inr ⟨_, _, rfl⟩
  · exact .inl rfl

private theorem getOrCreate_evolves (map : StreamMap) (id : Nat) (byLocal : Bool) :
    Evolves map (map.getOrCreate id byLocal).2 ∧
      ∀ stream, (map.getOrCreate id byLocal).1 = .ok stream →
        (map.getOrCreate id byLocal).2.get id = some stream := by
  unfold getOrCreate
  by_cases large : id > vintMax
  · rw [if_pos large]
    exact ⟨.refl map, by simp⟩
  · rw [if_neg large]
    cases found : map.get id with
    | some stream =>
      refine ⟨.refl map, ?_⟩
      rintro _ ⟨⟩
      exact found
    | none =>
      dsimp only
      by_cases closed : map.isClosed id = true
      · rw [if_pos closed]
        exact ⟨.refl map, by simp⟩
      · rw [if_neg closed]
        by_cases role : byLocal ≠ isLocal id map.isServer
        · rw [if_pos role]
          exact ⟨.refl map, by simp⟩
        · rw [if_neg role]
          cases checked : (map.concurrencyControl.checkConcurrencyLimits id map.isServer).1 with
          | error error =>
            refine ⟨?_, by simp⟩
            rcases checkConcurrencyLimits_blocked checked with same | ⟨bidi, blockedAt, moved⟩
            · dsimp only
              rw [same]
              exact .refl map
            · dsimp only
              rw [moved]
              exact .of_step (.blocked bidi blockedAt)
          | ok passed =>
            refine ⟨.of_step ?_, ?_⟩
            · dsimp only
              rw [create_registry]
              exact .opened (streams_registry_none found)
                (fun spent => closed ((isClosed_of_get_none found).mpr spent))
                (not_not.mp role) checked
            · rintro _ ⟨⟩
              exact get_setStream _ _ _

theorem streamDestroy_evolves (closed : ∀ stream, map.get id = some stream → stream.closed = true) :
    Evolves map (map.streamDestroy id) := by
  cases found : map.get id with
  | none =>
    rw [streamDestroy, found]
    exact .refl map
  | some stream =>
    have ended := registry_streams found
    rw [closed stream found] at ended
    have destroyed : (map.streamDestroy id).registry =
        map.registry.destroyStream id stream.byLocal := by
      rw [streamDestroy_spec found]
      ext1
      case streams =>
        funext other
        rw [StreamRegistry.destroyStream, StreamRegistry.streams_setStream]
        change ((map.streams.erase id).get? other).map _ = _
        rw [OrdMap.get?_erase]
        split_ifs
        · rfl
        · rfl
      all_goals rfl
    refine .of_step ?_
    rw [destroyed]
    exact .destroyed ended

theorem closed_registry {byLocal : Bool} (role : stream.byLocal = byLocal) {marked : StreamMap}
    (same : SameRegistry (map.giveBackCredit id byLocal) marked) :
    (marked.setStream id stream.markClosed).registry = map.registry.closeStream id byLocal := by
  have credit : marked.registry =
      { map.registry with control := (map.giveBackCredit id byLocal).concurrencyControl } := by
    rw [same, giveBackCredit]
    split <;> rfl
  ext1
  case streams =>
    funext other
    rw [setStream_streams, StreamRegistry.closeStream, StreamRegistry.streams_setStream, credit]
    split_ifs
    · rw [← role]
      rfl
    · rfl
  case isServer => exact (congrArg StreamRegistry.isServer credit).trans rfl
  case destroyed => exact (congrArg StreamRegistry.destroyed credit).trans rfl
  case control =>
    refine (congrArg StreamRegistry.control credit).trans ?_
    rw [giveBackCredit, StreamRegistry.closeStream]
    cases byLocal <;> rfl
  case nextStreamIdBidi => exact (congrArg StreamRegistry.nextStreamIdBidi credit).trans rfl
  case nextStreamIdUni => exact (congrArg StreamRegistry.nextStreamIdUni credit).trans rfl

private theorem markClosed_evolves
    (found : map.get id = some stream) : Evolves map (map.markClosed id stream.byLocal) := by
  unfold markClosed
  cases already : stream.closed with
  | true =>
    rw [if_pos (by rw [isClosed, found]; exact already)]
    exact .refl map
  | false =>
    rw [if_neg (by rw [isClosed, found]; simp [Stream.isClosed, already])]
    have running := registry_streams found
    rw [already] at running
    have sameStreams : (map.giveBackCredit id stream.byLocal).streams = map.streams := by
      rw [giveBackCredit]
      split <;> rfl
    have present : ((((map.giveBackCredit id stream.byLocal).markReadable id false).markWritable id
        false)).get id = some stream := by
      change (map.giveBackCredit id stream.byLocal).streams.get? id = _
      rw [sameStreams]
      exact found
    have unmarked : SameRegistry (map.giveBackCredit id stream.byLocal)
        (((map.giveBackCredit id stream.byLocal).markReadable id false).markWritable id false) :=
      rfl
    have closed : Evolves map
        ((((map.giveBackCredit id stream.byLocal).markReadable id false).markWritable id
          false).setStream id stream.markClosed) := by
      refine .of_step ?_
      rw [closed_registry rfl unmarked]
      exact .closed running
    dsimp only
    rw [present]
    dsimp only
    split
    · exact closed
    · refine closed.trans (streamDestroy_evolves ?_)
      intro other kept
      rw [get_setStream] at kept
      cases kept
      rfl

theorem Part.evolves {queues : Prop} {map after : StreamMap} (part : Part queues map after) :
    Evolves map after := by
  cases part with
  | marked same =>
    have registry := congrArg StreamMap.registry same
    exact .of_eq registry
  | set found byLocal closed =>
    refine (SameRegistry.set rfl ?_).evolves
    rw [byLocal, closed]
    exact registry_streams found
  | opened id byLocal => exact (getOrCreate_evolves map id byLocal).1
  | closed found => exact markClosed_evolves found
  | streamsBlocked bidi blockedAt => exact .of_step (.blocked bidi blockedAt)
  | streamsGranted bidi maxStreams => exact .of_step (.granted bidi maxStreams)
  | streamsAdvertised bidi => exact .of_step (.advertised bidi)
  | queued | consumed | received | widened | overdue => exact .of_eq rfl

private theorem processEvent_evolves {map after : StreamMap}
    (closing : ∀ id, map.Closing id → ∀ stream, map.get id = some stream → stream.closed = true)
    (processed : map.processEvent = some after) : Evolves map after := by
  unfold processEvent at processed
  split at processed
  case h_1 event rest queued =>
    cases event with
    | streamCreated streamId =>
      cases processed
      exact .of_eq rfl
    | streamClosed streamId =>
      cases processed
      have popped : SameRegistry map { map with events := some rest } := rfl
      refine popped.evolves.trans (streamDestroy_evolves ?_)
      exact closing streamId ⟨_, queued, List.mem_cons_self⟩
  case h_2 => cases processed

/-! ## Steps and runs -/

/-- The stream was opened, by either side. -/
def Used (map : StreamMap) (id : Nat) : Prop :=
  (map.get id).isSome ∨ id ∈ map.destroyed.map (·.1)

def Ended (map : StreamMap) (id : Nat) : Prop :=
  (∃ stream, map.get id = some stream ∧ stream.closed = true) ∨ id ∈ map.destroyed.map (·.1)

/-- The number of streams of a direction that the peer may open. -/
def localMaxStreams (map : StreamMap) (bidi : Bool) : Nat :=
  (map.concurrencyControl.limit false bidi).maxStreams

theorem gone_iff : map.registry.Gone id ↔ id ∈ map.destroyed.map (·.1) := by
  rw [StreamRegistry.Gone, registry, List.map_map]
  rfl

theorem used_iff : map.registry.Used id ↔ map.Used id := by
  refine or_congr ?_ gone_iff
  change (map.get id).map _ ≠ none ↔ _
  rw [ne_eq, Option.map_eq_none_iff, ← ne_eq, Option.ne_none_iff_isSome]

theorem ended_iff : map.registry.Ended id ↔ map.Ended id := by
  refine or_congr ?_ gone_iff
  constructor
  · rintro ⟨byLocal, found⟩
    obtain ⟨stream, present, flags⟩ := Option.map_eq_some_iff.mp found
    exact ⟨stream, present, congrArg StreamFlags.closed flags⟩
  · rintro ⟨stream, present, closed⟩
    exact ⟨stream.byLocal, closed ▸ registry_streams present⟩

def initialMaxStreams (params : StreamTransportParams) (bidi : Bool) : Nat :=
  if bidi then params.initialMaxStreamsBidi else params.initialMaxStreamsUni

theorem new_sound (isServer : Bool) (maxConnectionWindow maxStreamWindow : Nat)
    (localParams : StreamTransportParams) (events : Option (List Event)) :
    (new isServer maxConnectionWindow maxStreamWindow localParams events).registry.Sound
      (initialMaxStreams localParams) := by
  constructor
  case steady => exact ConcurrencyControl.new_steady _ _
  case spent =>
    intro id
    refine iff_of_false ?_ (ConcurrencyControl.new_unspent _ _ isServer id)
    rw [used_iff]
    simp [Used, new, get]
  case role =>
    intro id flags present
    simp [registry, new, get] at present
  case kind =>
    intro bidi
    cases bidi <;> cases isServer <;> simp [registry, new, StreamRegistry.nextStreamId, isBidi]
  case below =>
    intro id used
    rw [used_iff] at used
    simp [Used, new, get] at used
  case distinct => exact List.nodup_nil
  case gone =>
    intro id gone
    cases gone
  case opened =>
    intro bidi
    cases bidi <;> exact Nat.zero_le _
  case counted =>
    intro bidi id used
    rw [used_iff] at used
    simp [Used, new, get] at used
  case credit =>
    intro bidi
    refine ⟨∅, ?_, ?_⟩
    · intro id
      rw [ended_iff]
      simp [Ended, new, get]
    · cases bidi <;> rfl

private theorem next_unused {initial : Bool → Nat} (sound : map.registry.Sound initial)
    (bidi : Bool) : ¬ map.Used (map.registry.nextStreamId bidi) := by
  intro used
  have below := sound.below _ (used_iff.mpr used)
  rw [sound.kind bidi] at below
  exact Nat.lt_irrefl _ below

/-- What the application gets when it opens a new stream: an identifier of its own role and of
the direction it asked for, that no stream had before and that the new stream has now. -/
structure OpensFresh (earlier map after : StreamMap) (bidi : Bool) (id : Nat) : Prop where
  role : isLocal id map.isServer = true
  kind : isBidi id = bidi
  unused : ¬ earlier.Used id ∧ ¬ map.Used id
  used : after.Used id

theorem getOrCreate_fresh (missing : map.get id = none) (unclosed : map.isClosed id ≠ true) :
    (map.getOrCreate id true).1 ≠ .error .done ∧
      ∀ stream, (map.getOrCreate id true).1 = .ok stream → isLocal id map.isServer = true := by
  unfold getOrCreate
  by_cases large : id > vintMax
  · rw [if_pos large]
    simp
  · rw [if_neg large, missing]
    dsimp only
    rw [if_neg unclosed]
    by_cases role : true ≠ isLocal id map.isServer
    · rw [if_pos role]
      simp
    · rw [if_neg role]
      refine ⟨?_, fun _ _ => (not_not.mp role).symm⟩
      unfold ConcurrencyControl.checkConcurrencyLimits
      dsimp only
      split_ifs <;> simp

theorem streamSetPriority_fresh {map after : StreamMap} {id urgency : Nat} {incremental : Bool}
    (missing : map.get id = none) (unclosed : map.isClosed id ≠ true)
    (outcome : map.streamSetPriority id urgency incremental = (.ok (), after)) :
    isLocal id map.isServer = true ∧ after.Used id := by
  obtain ⟨open_, role⟩ := getOrCreate_fresh missing unclosed
  unfold streamSetPriority at outcome
  cases created : map.getOrCreate id true with
  | mk result next =>
    rw [created] at outcome open_ role
    cases result with
    | error error =>
      cases error with
      | done => exact absurd rfl open_
      | _ => cases outcome
    | ok stream =>
      cases outcome
      refine ⟨role stream rfl, .inl ?_⟩
      rw [get_setStream]
      rfl

theorem opensFresh {earlier map after : StreamMap} {initial : Bool → Nat}
    (sound : map.registry.Sound initial) (past : StreamRegistry.Remembers earlier.registry map.registry)
    (bidi : Bool) {urgency : Nat} {incremental : Bool}
    (outcome : map.streamSetPriority (map.registry.nextStreamId bidi) urgency incremental =
      (.ok (), after)) :
    OpensFresh earlier map after bidi (map.registry.nextStreamId bidi) := by
  have unused := next_unused sound bidi
  have missing : map.get (map.registry.nextStreamId bidi) = none := by
    by_contra present
    exact unused (.inl (Option.ne_none_iff_isSome.mp present))
  have unclosed : map.isClosed (map.registry.nextStreamId bidi) ≠ true := by
    intro closed
    have spent := (isClosed_of_get_none missing).mp closed
    exact unused (used_iff.mp ((sound.spent _).mpr spent))
  obtain ⟨role, used⟩ := streamSetPriority_fresh missing unclosed outcome
  refine ⟨role, sound.kind bidi, ⟨?_, unused⟩, used⟩
  intro before
  exact unused (used_iff.mp (past.used _ (used_iff.mpr before)))

end StreamMap

namespace World

open StreamMap

theorem step_evolves {world next : World} {op : Op} (valid : world.Valid)
    (stepped : world.step op = some next) : Evolves world.map next.map := by
  rcases (step_moved stepped).parts with parts | processed | due
  · exact parts.keep Evolves .refl Evolves.trans Part.evolves
  · exact processEvent_evolves (fun id closing => (valid.closing id closing).2) processed
  · obtain ⟨_, _, same⟩ := due.apart
    exact same ▸ .of_eq rfl

variable {initial : Bool → Nat}

private theorem sound_step {world next : World} {op : Op} (valid : world.Valid)
    (sound : world.map.registry.Sound initial) (stepped : world.step op = some next) :
    next.Valid ∧ next.map.registry.Sound initial :=
  ⟨valid.step (step_effect world stepped), sound.evolves (step_evolves valid stepped)⟩

theorem sound_from {world later : World} (valid : world.Valid)
    (sound : world.map.registry.Sound initial) (run : Run step anyStep world later) :
    later.Valid ∧ later.map.registry.Sound initial := by
  induction run with
  | refl => exact ⟨valid, sound⟩
  | tail _ _ stepped ih => exact sound_step ih.1 ih.2 stepped

theorem new_valid (isServer : Bool) (maxConnectionWindow maxStreamWindow : Nat)
    (localParams : StreamTransportParams) (eventsEnabled : Bool) :
    (new isServer maxConnectionWindow maxStreamWindow localParams eventsEnabled).Valid :=
  StreamMap.Valid.new _ _ _ _ _

theorem evolves_run {world later : World} (valid : world.Valid)
    (sound : world.map.registry.Sound initial) (run : Run step anyStep world later) :
    Evolves world.map later.map := by
  induction run with
  | refl => exact .refl _
  | tail run _ stepped ih =>
    exact ih.trans (step_evolves (sound_from valid sound run).1 stepped)

/-- Identifiers of new local streams are fresh. Whatever the application and the peer have
opened before, a new stream gets an identifier that no stream had at any earlier time, of the
role of this endpoint and of the direction that was asked for. -/
theorem local_stream_ids_fresh (isServer : Bool) (maxConnectionWindow maxStreamWindow : Nat)
    (localParams : StreamTransportParams) (eventsEnabled : Bool) (earlier world : World)
    (past : Run step anyStep
      (.new isServer maxConnectionWindow maxStreamWindow localParams eventsEnabled) earlier)
    (run : Run step anyStep earlier world) (urgency : Nat) (incremental : Bool) (id : Nat)
    (after : StreamMap) :
    (world.map.streamBidiNew urgency incremental = (.ok id, after) →
        OpensFresh earlier.map world.map after true id) ∧
      (world.map.streamUniNew urgency incremental = (.ok id, after) →
        OpensFresh earlier.map world.map after false id) := by
  obtain ⟨valid, sound⟩ := sound_from (new_valid _ _ _ _ _) (new_sound _ _ _ _ _) past
  have remembers := sound.remembers (evolves_run valid sound run)
  have later := (sound_from valid sound run).2
  constructor
  · intro opened
    unfold streamBidiNew at opened
    dsimp only at opened
    split at opened <;> cases opened
    case h_1 outcome => exact opensFresh later remembers true outcome
  · intro opened
    unfold streamUniNew at opened
    dsimp only at opened
    split at opened <;> cases opened
    case h_1 outcome => exact opensFresh later remembers false outcome

/-- A client opens a stream, the application writes to a later one, and a new one is opened. -/
theorem local_stream_ids_fresh_uni :
    ∃ earlier world after, Run step anyStep (.new false 100 100 {} false) earlier ∧
      Run step anyStep earlier world ∧ earlier.map.Used 2 ∧ world.map.Used 6 ∧
      world.map.streamUniNew 0 false = (.ok 10, after) ∧
      OpensFresh earlier.map world.map after false 10 := by
  have before : (exec step (.new false 100 100 {} false)
      [.peerParams { initialMaxData := 30, initialMaxStreamDataUni := 20, initialMaxStreamsUni := 3 },
        .uniNew 0 false]).any (fun earlier => (earlier.map.get 2).isSome &&
          (exec step earlier [.write 6 [4] false]).any fun world => (world.map.get 6).isSome &&
            decide ((world.map.streamUniNew 0 false).1 = .ok 10)) = true := by
    decide +kernel
  obtain ⟨earlier, past, found⟩ := (Option.any_eq_true _ _).mp before
  obtain ⟨first, found⟩ := Bool.and_eq_true_iff.mp found
  obtain ⟨world, run, found⟩ := (Option.any_eq_true _ _).mp found
  obtain ⟨second, found⟩ := Bool.and_eq_true_iff.mp found
  have opened : world.map.streamUniNew 0 false = (.ok 10, (world.map.streamUniNew 0 false).2) :=
    Prod.ext (of_decide_eq_true found) rfl
  have fresh := local_stream_ids_fresh false 100 100 {} false earlier world (.of_exec past)
    (.of_exec run) 0 false 10 (world.map.streamUniNew 0 false).2
  exact ⟨earlier, world, _, .of_exec past, .of_exec run, .inl first, .inl second, opened,
    fresh.2 opened⟩

/-- What holds of the streams when they have come from `earlier` to `map` in a connection that
started with the limits `initial`. -/
structure StreamLimits (initial : Bool → Nat) (earlier map : StreamMap) : Prop where
  -- A stream ends once, and does not stay in use after it is gone.
  destroyedOnce : (map.destroyed.map (·.1)).Nodup
  destroyed : ∀ id, id ∈ map.destroyed.map (·.1) → map.get id = none
  -- A stream is created at most once: one that was used and is not there does not return.
  created : ∀ id, earlier.Used id → earlier.get id = none → map.get id = none
  used : ∀ id, earlier.Used id → map.Used id
  ended : ∀ id, earlier.Ended id → map.Ended id
  -- The peer has not opened more streams than it was allowed to.
  limited : ∀ bidi (ids : Finset Nat),
    (∀ id ∈ ids, map.Used id ∧ isLocal id map.isServer = false ∧ isBidi id = bidi) →
    ids.card ≤ map.localMaxStreams bidi
  -- Each stream of the peer that has ended gave credit for one more.
  credit : ∀ bidi, ∃ ended : Finset Nat,
    (∀ id, id ∈ ended ↔ map.Ended id ∧ isLocal id map.isServer = false ∧ isBidi id = bidi) ∧
    map.concurrencyControl.localMaxStreamsNext bidi = initial bidi + ended.card

/-- The limits on streams hold in every state, and closed streams never return. -/
theorem stream_limits (isServer : Bool) (maxConnectionWindow maxStreamWindow : Nat)
    (localParams : StreamTransportParams) (eventsEnabled : Bool) (earlier world : World)
    (past : Run step anyStep
      (.new isServer maxConnectionWindow maxStreamWindow localParams eventsEnabled) earlier)
    (run : Run step anyStep earlier world) :
    StreamLimits (initialMaxStreams localParams) earlier.map world.map := by
  obtain ⟨valid, sound⟩ := sound_from (new_valid _ _ _ _ _) (new_sound _ _ _ _ _) past
  have remembers := sound.remembers (evolves_run valid sound run)
  have later := (sound_from valid sound run).2
  have missing : ∀ (map : StreamMap) id, map.registry.streams id = none ↔ map.get id = none :=
    fun map id => Option.map_eq_none_iff
  constructor
  case destroyedOnce =>
    have distinct := later.distinct
    rw [registry, List.map_map] at distinct
    exact distinct
  case destroyed =>
    intro id gone
    exact (missing _ id).mp (later.gone id (gone_iff.mpr gone))
  case created =>
    intro id used absent
    exact (missing _ id).mp (remembers.absent id (used_iff.mpr used) ((missing _ id).mpr absent))
  case used => exact fun id used => used_iff.mp (remembers.used id (used_iff.mpr used))
  case ended => exact fun id ended => ended_iff.mp (remembers.ended id (ended_iff.mpr ended))
  case limited =>
    intro bidi ids peers
    refine (later.card_peers bidi ids ?_).trans (later.opened bidi)
    intro id member
    obtain ⟨used, role⟩ := peers id member
    exact ⟨used_iff.mpr used, role⟩
  case credit =>
    intro bidi
    obtain ⟨closed, members, growth⟩ := later.credit bidi
    refine ⟨closed, ?_, growth⟩
    intro id
    rw [members, ended_iff]
    rfl

/-- A server reads a stream of the client to its end, and the client may open another one. -/
theorem stream_limits_uni :
    ∃ earlier world, Run step anyStep (.new true 100 100
        { initialMaxData := 50, initialMaxStreamDataUni := 20, initialMaxStreamsUni := 4 } false)
        earlier ∧
      Run step anyStep earlier world ∧ earlier.map.Used 2 ∧ ¬ earlier.map.Ended 2 ∧
      world.map.Ended 2 ∧ world.map.concurrencyControl.localMaxStreamsNext false = 5 ∧
      StreamLimits (initialMaxStreams
        { initialMaxData := 50, initialMaxStreamDataUni := 20, initialMaxStreamsUni := 4 })
        earlier.map world.map := by
  have before : (exec step (.new true 100 100
        { initialMaxData := 50, initialMaxStreamDataUni := 20, initialMaxStreamsUni := 4 } false)
      [.stream 2 0 [1] true]).any (fun earlier =>
        (earlier.map.get 2).any (fun stream => !stream.closed) &&
        earlier.map.destroyed.isEmpty &&
          (exec step earlier [.read 2 10]).any fun world =>
            decide (2 ∈ world.map.destroyed.map (·.1)) &&
              decide (world.map.concurrencyControl.localMaxStreamsNext false = 5)) = true := by
    decide +kernel
  obtain ⟨earlier, past, found⟩ := (Option.any_eq_true _ _).mp before
  obtain ⟨open_, found⟩ := Bool.and_eq_true_iff.mp found
  obtain ⟨opened, none⟩ := Bool.and_eq_true_iff.mp open_
  obtain ⟨stream, present, running⟩ := (Option.any_eq_true _ _).mp opened
  obtain ⟨world, run, found⟩ := (Option.any_eq_true _ _).mp found
  obtain ⟨ended, next⟩ := Bool.and_eq_true_iff.mp found
  refine ⟨earlier, world, .of_exec past, .of_exec run, .inl (Option.isSome_of_eq_some present), ?_,
    .inr (of_decide_eq_true ended), of_decide_eq_true next,
    stream_limits _ _ _ _ _ earlier world (.of_exec past) (.of_exec run)⟩
  rintro (⟨other, same, closed⟩ | gone)
  · rw [present] at same
    cases same
    rw [closed] at running
    cases running
  · rw [List.isEmpty_iff.mp none] at gone
    cases gone

end World

end Tquic.Connection
