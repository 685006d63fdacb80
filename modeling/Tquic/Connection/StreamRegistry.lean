import Tquic.Connection.ConcurrencyProperties
import Mathlib.Data.Finset.Card
import Mathlib.Logic.Relation

/-! What is known about the identifiers of the streams of a connection, without their data:
which of them are in use, who opened them, which are closed, and the limits on opening more.
The stream map is shown to make only the steps listed here. -/

set_option autoImplicit false

namespace Tquic.Connection

/-- Who opened a stream that is in use, and whether it is closed. -/
structure StreamFlags where
  byLocal : Bool
  closed : Bool

@[ext]
structure StreamRegistry where
  isServer : Bool
  streams : Nat → Option StreamFlags
  -- Streams that are gone, with the side that opened them.
  destroyed : List (Nat × Bool)
  control : ConcurrencyControl
  nextStreamIdBidi : Nat
  nextStreamIdUni : Nat

namespace StreamRegistry

def nextStreamId (registry : StreamRegistry) (bidi : Bool) : Nat :=
  if bidi then registry.nextStreamIdBidi else registry.nextStreamIdUni

def setStream (registry : StreamRegistry) (id : Nat) (flags : Option StreamFlags) :
    StreamRegistry :=
  { registry with streams := Function.update registry.streams id flags }

/-- A new stream moves the next identifier of its direction beyond its own. -/
def openStream (registry : StreamRegistry) (id : Nat) (byLocal : Bool) : StreamRegistry :=
  let checked := registry.control.checkConcurrencyLimits id registry.isServer
  { registry.setStream id (some ⟨byLocal, false⟩) with
    control := checked.2.removeAvailId id registry.isServer
    nextStreamIdBidi :=
      if isBidi id then max registry.nextStreamIdBidi id + 4 else registry.nextStreamIdBidi
    nextStreamIdUni :=
      if isBidi id then registry.nextStreamIdUni else max registry.nextStreamIdUni id + 4 }

def closeStream (registry : StreamRegistry) (id : Nat) (byLocal : Bool) : StreamRegistry :=
  { registry.setStream id (some ⟨byLocal, true⟩) with
    control :=
      if byLocal then registry.control
      else registry.control.increaseMaxStreamsCredits (isBidi id) 1 }

def destroyStream (registry : StreamRegistry) (id : Nat) (byLocal : Bool) : StreamRegistry :=
  { registry.setStream id none with destroyed := (id, byLocal) :: registry.destroyed }

inductive Step (registry : StreamRegistry) : StreamRegistry → Prop where
  | blocked (bidi : Bool) (blockedAt : Option Nat) :
      Step registry { registry with
        control := registry.control.updateStreamsBlockedAt bidi blockedAt }
  | opened {id : Nat} {byLocal : Bool} (missing : registry.streams id = none)
      (unused : ¬ registry.control.Spent registry.isServer id)
      (role : byLocal = isLocal id registry.isServer)
      (passed : (registry.control.checkConcurrencyLimits id registry.isServer).1 = .ok ()) :
      Step registry (registry.openStream id byLocal)
  | closed {id : Nat} {byLocal : Bool} (present : registry.streams id = some ⟨byLocal, false⟩) :
      Step registry (registry.closeStream id byLocal)
  | destroyed {id : Nat} {byLocal : Bool} (present : registry.streams id = some ⟨byLocal, true⟩) :
      Step registry (registry.destroyStream id byLocal)
  | granted (bidi : Bool) (maxStreams : Nat) :
      Step registry { registry with
        control := registry.control.updatePeerMaxStreams bidi maxStreams }
  | advertised (bidi : Bool) :
      Step registry { registry with control := registry.control.updateLocalMaxStreams bidi }

def Gone (registry : StreamRegistry) (id : Nat) : Prop := id ∈ registry.destroyed.map (·.1)

def Used (registry : StreamRegistry) (id : Nat) : Prop :=
  registry.streams id ≠ none ∨ registry.Gone id

def Ended (registry : StreamRegistry) (id : Nat) : Prop :=
  (∃ byLocal, registry.streams id = some ⟨byLocal, true⟩) ∨ registry.Gone id

/-- A stream that the peer opened in the given direction. -/
def IsPeers (registry : StreamRegistry) (bidi : Bool) (id : Nat) : Prop :=
  isLocal id registry.isServer = false ∧ isBidi id = bidi

instance (registry : StreamRegistry) (bidi : Bool) (id : Nat) :
    Decidable (registry.IsPeers bidi id) :=
  inferInstanceAs (Decidable (_ ∧ _))

/-- The invariant, for the limits that were advertised first. -/
structure Sound (initial : Bool → Nat) (registry : StreamRegistry) : Prop where
  steady : registry.control.Steady
  spent : ∀ id, registry.Used id ↔ registry.control.Spent registry.isServer id
  role : ∀ id flags, registry.streams id = some flags → flags.byLocal = isLocal id registry.isServer
  kind : ∀ bidi, isBidi (registry.nextStreamId bidi) = bidi
  below : ∀ id, registry.Used id → id < registry.nextStreamId (isBidi id)
  distinct : (registry.destroyed.map (·.1)).Nodup
  gone : ∀ id, registry.Gone id → registry.streams id = none
  opened : ∀ bidi, (registry.control.limit false bidi).opened ≤
    (registry.control.limit false bidi).maxStreams
  counted : ∀ bidi id, registry.Used id → registry.IsPeers bidi id →
    id / 4 < (registry.control.limit false bidi).opened
  credit : ∀ bidi, ∃ closed : Finset Nat,
    (∀ id, id ∈ closed ↔ registry.Ended id ∧ registry.IsPeers bidi id) ∧
      registry.control.localMaxStreamsNext bidi = initial bidi + closed.card

variable {initial : Bool → Nat} {registry next : StreamRegistry}

/-! ## Steps that only change limits -/

theorem Sound.of_control (sound : registry.Sound initial) {control : ConcurrencyControl}
    (grows : registry.control.Grows control) (withholds : registry.control.Withholds control)
    (opened : ∀ bidi, (control.limit false bidi).opened =
      (registry.control.limit false bidi).opened)
    (limits : ∀ bidi, (registry.control.limit false bidi).maxStreams ≤
      (control.limit false bidi).maxStreams)
    (advertised : ∀ bidi, control.localMaxStreamsNext bidi =
      registry.control.localMaxStreamsNext bidi) :
    Sound initial { registry with control } where
  steady := (grows sound.steady).1
  spent id :=
    ⟨fun used => (grows sound.steady).2 _ id ((sound.spent id).mp used),
      fun spent => (sound.spent id).mpr (withholds sound.steady _ id spent)⟩
  role := sound.role
  kind := sound.kind
  below := sound.below
  distinct := sound.distinct
  gone := sound.gone
  opened bidi := by
    rw [opened bidi]
    exact (sound.opened bidi).trans (limits bidi)
  counted bidi id used peers := by
    rw [opened bidi]
    exact sound.counted bidi id used peers
  credit bidi := by
    obtain ⟨closed, members, growth⟩ := sound.credit bidi
    exact ⟨closed, members, (advertised bidi).trans growth⟩

theorem Sound.blocked (sound : registry.Sound initial) (bidi : Bool) (blockedAt : Option Nat) :
    Sound initial { registry with
      control := registry.control.updateStreamsBlockedAt bidi blockedAt } := by
  refine sound.of_control (ConcurrencyControl.updateStreamsBlockedAt_grows _ _ _)
    (ConcurrencyControl.updateStreamsBlockedAt_withholds _ _ _) ?_ ?_ ?_
  · simp
  · simp
  · simp

private theorem updatePeerMaxStreams_peers (control : ConcurrencyControl) (bidi : Bool)
    (maxStreams : Nat) (other : Bool) :
    (control.updatePeerMaxStreams bidi maxStreams).limit false other = control.limit false other ∧
      (control.updatePeerMaxStreams bidi maxStreams).localMaxStreamsNext other =
        control.localMaxStreamsNext other := by
  unfold ConcurrencyControl.updatePeerMaxStreams
  dsimp only
  split_ifs <;> simp

theorem Sound.granted (sound : registry.Sound initial) (bidi : Bool) (maxStreams : Nat) :
    Sound initial { registry with
      control := registry.control.updatePeerMaxStreams bidi maxStreams } := by
  have peers := updatePeerMaxStreams_peers registry.control bidi maxStreams
  refine sound.of_control (ConcurrencyControl.updatePeerMaxStreams_grows _ _ _)
    (ConcurrencyControl.updatePeerMaxStreams_withholds _ _ _) ?_ ?_ ?_
  · intro other
    rw [(peers other).1]
  · intro other
    rw [(peers other).1]
  · intro other
    exact (peers other).2

theorem Sound.advertised (sound : registry.Sound initial) (bidi : Bool) :
    Sound initial { registry with control := registry.control.updateLocalMaxStreams bidi } := by
  refine sound.of_control (ConcurrencyControl.updateLocalMaxStreams_grows _ _)
    (ConcurrencyControl.setLimit_raise_withholds _ _ _ _) ?_ ?_ ?_
  · intro other
    rw [ConcurrencyControl.updateLocalMaxStreams, ConcurrencyControl.limit_setLimit]
    split_ifs with same
    · rw [same.2]
      rfl
    · rfl
  · intro other
    rw [ConcurrencyControl.updateLocalMaxStreams, ConcurrencyControl.limit_setLimit]
    split_ifs with same
    · rw [same.2]
      exact sound.steady.next bidi
    · exact Nat.le_refl _
  · intro other
    rw [ConcurrencyControl.updateLocalMaxStreams, ConcurrencyControl.localMaxStreamsNext_setLimit]

/-! ## A new stream -/

theorem streams_setStream (registry : StreamRegistry) (id : Nat) (flags : Option StreamFlags)
    (other : Nat) :
    (registry.setStream id flags).streams other =
      if other = id then flags else registry.streams other := by
  simp [setStream, Function.update_apply]

private theorem isBidi_add_four (id : Nat) : isBidi (id + 4) = isBidi id := by
  unfold isBidi
  congr 2
  omega

/-- The counters stay on identifiers of their direction, whoever opens the stream. -/
theorem isBidi_max_add_four {next id : Nat} (same : isBidi id = isBidi next) :
    isBidi (max next id + 4) = isBidi next := by
  rw [isBidi_add_four]
  rcases max_choice next id with left | right
  · rw [left]
  · rw [right, same]

variable {id : Nat}

section

variable (passed : (registry.control.checkConcurrencyLimits id registry.isServer).1 = .ok ())

include passed

/-- A stream of the peer counts as opened, with all below it. -/
theorem openStream_limits (byLocal bidi : Bool) :
    ((registry.openStream id byLocal).control.limit false bidi).maxStreams =
        (registry.control.limit false bidi).maxStreams ∧
      ((registry.openStream id byLocal).control.limit false bidi).opened =
        (if registry.IsPeers bidi id then max (registry.control.limit false bidi).opened (id / 4 + 1)
          else (registry.control.limit false bidi).opened) := by
  obtain ⟨counts, _⟩ := ConcurrencyControl.checkConcurrencyLimits_counts passed
  have removed := ConcurrencyControl.removeAvailId_limit
    (registry.control.checkConcurrencyLimits id registry.isServer).2 id registry.isServer false bidi
  constructor
  · rw [openStream, removed.1, counts, ConcurrencyControl.limit_setLimit]
    split_ifs with same
    · rw [same.1, same.2]
    · rfl
  · rw [openStream, removed.2.1, counts, ConcurrencyControl.limit_setLimit]
    by_cases same : registry.IsPeers bidi id
    · rw [if_pos ⟨same.1.symm, same.2.symm⟩, if_pos same, same.1, same.2]
    · rw [if_neg (fun both => same ⟨both.1.symm, both.2.symm⟩), if_neg same]

private theorem openStream_next (byLocal bidi : Bool) :
    (registry.openStream id byLocal).control.localMaxStreamsNext bidi =
      registry.control.localMaxStreamsNext bidi := by
  have removed := ConcurrencyControl.removeAvailId_limit
    (registry.control.checkConcurrencyLimits id registry.isServer).2 id registry.isServer false bidi
  rw [openStream, removed.2.2, (ConcurrencyControl.checkConcurrencyLimits_counts passed).1,
    ConcurrencyControl.localMaxStreamsNext_setLimit]

end

theorem openStream_counter (registry : StreamRegistry) (id : Nat) (byLocal bidi : Bool) :
    (registry.openStream id byLocal).nextStreamId bidi =
      if isBidi id = bidi then max (registry.nextStreamId bidi) id + 4
      else registry.nextStreamId bidi := by
  unfold nextStreamId openStream
  cases bidi <;> cases isBidi id <;> rfl

theorem Sound.unused (sound : registry.Sound initial)
    (unused : ¬ registry.control.Spent registry.isServer id) : ¬ registry.Used id :=
  fun used => unused ((sound.spent id).mp used)

theorem used_openStream {id byLocal other} :
    (registry.openStream id byLocal).Used other ↔ other = id ∨ registry.Used other := by
  unfold Used
  rw [openStream]
  simp only [Gone, streams_setStream]
  by_cases same : other = id
  · simp [same]
  · simp [same, setStream]

theorem ended_openStream {id byLocal other} (unused : ¬ registry.Used id) :
    (registry.openStream id byLocal).Ended other ↔ registry.Ended other := by
  unfold Ended
  rw [openStream]
  simp only [Gone, streams_setStream]
  by_cases same : other = id
  · subst same
    have missing : registry.streams other = none := not_not.mp fun present => unused (.inl present)
    simp [missing, setStream]
  · simp [same, setStream]

variable {byLocal : Bool}

theorem openStream_grows : registry.control.Grows (registry.openStream id byLocal).control :=
  (ConcurrencyControl.checkConcurrencyLimits_grows _ _ _).trans
    (ConcurrencyControl.removeAvailId_grows _ _ _)

private theorem openStream_spent
    (passed : (registry.control.checkConcurrencyLimits id registry.isServer).1 = .ok ()) :
    (registry.openStream id byLocal).control.Spent registry.isServer id :=
  ConcurrencyControl.removeAvailId_spent (ConcurrencyControl.checkConcurrencyLimits_ok passed).1

private theorem Sound.opened_stream (sound : registry.Sound initial)
    (unspent : ¬ registry.control.Spent registry.isServer id)
    (role : byLocal = isLocal id registry.isServer)
    (passed : (registry.control.checkConcurrencyLimits id registry.isServer).1 = .ok ()) :
    (registry.openStream id byLocal).Sound initial := by
  have unused := sound.unused unspent
  constructor
  case steady => exact (openStream_grows sound.steady).1
  case spent =>
    intro other
    rw [used_openStream, sound.spent]
    constructor
    · rintro (rfl | before)
      · exact openStream_spent passed
      · exact (openStream_grows sound.steady).2 _ other before
    · intro spent
      exact (ConcurrencyControl.removeAvailId_withholds spent).imp_right
        (ConcurrencyControl.checkConcurrencyLimits_withholds _ _ _ sound.steady _ other)
  case role =>
    intro other flags present
    rw [openStream] at present
    rw [streams_setStream] at present
    split_ifs at present with same
    · cases present
      rw [same]
      exact role
    · exact sound.role other flags present
  case kind =>
    intro bidi
    rw [openStream_counter]
    split_ifs with same
    · rw [isBidi_max_add_four (same.trans (sound.kind bidi).symm)]
      exact sound.kind bidi
    · exact sound.kind bidi
  case below =>
    intro other used
    rw [openStream_counter]
    rcases used_openStream.mp used with rfl | before
    · rw [if_pos rfl]
      omega
    · have less := sound.below other before
      split_ifs
      · omega
      · exact less
  case distinct => exact sound.distinct
  case gone =>
    intro other gone
    rw [openStream, streams_setStream]
    split_ifs with same
    · exact absurd (.inr (same ▸ gone)) unused
    · exact sound.gone other gone
  case opened =>
    intro bidi
    obtain ⟨maxStreams, opened⟩ := openStream_limits passed byLocal bidi
    rw [maxStreams, opened]
    split_ifs with peers
    · have counted := (ConcurrencyControl.checkConcurrencyLimits_counts passed).2
      rwa [peers.1, peers.2] at counted
    · exact sound.opened bidi
  case counted =>
    intro bidi other used peers
    rw [(openStream_limits passed byLocal bidi).2]
    rcases used_openStream.mp used with rfl | before
    · have own : registry.IsPeers bidi other := peers
      rw [if_pos own]
      omega
    · have counted := sound.counted bidi other before peers
      split_ifs
      · omega
      · exact counted
  case credit =>
    intro bidi
    obtain ⟨closed, members, growth⟩ := sound.credit bidi
    refine ⟨closed, ?_, ?_⟩
    · intro other
      rw [ended_openStream unused]
      exact members other
    · rw [openStream_next passed]
      exact growth

/-! ## The end of a stream -/

theorem used_closeStream {id byLocal other} {flags : StreamFlags}
    (present : registry.streams id = some flags) :
    (registry.closeStream id byLocal).Used other ↔ registry.Used other := by
  unfold Used
  rw [closeStream]
  simp only [Gone, streams_setStream]
  by_cases same : other = id
  · simp [same, present]
  · simp [same, setStream]

theorem ended_closeStream {id byLocal other} :
    (registry.closeStream id byLocal).Ended other ↔ other = id ∨ registry.Ended other := by
  unfold Ended
  rw [closeStream]
  simp only [Gone, streams_setStream]
  by_cases same : other = id
  · simp [same]
  · simp [same, setStream]

section

variable (registry : StreamRegistry)

theorem closeStream_limit (id : Nat) (closedByLocal byLocal bidi : Bool) :
    (registry.closeStream id closedByLocal).control.limit byLocal bidi =
      registry.control.limit byLocal bidi := by
  rw [closeStream]
  cases closedByLocal <;> cases isBidi id <;> cases byLocal <;> cases bidi <;> rfl

private theorem closeStream_next (id : Nat) (byLocal bidi : Bool) :
    (registry.closeStream id byLocal).control.localMaxStreamsNext bidi =
      registry.control.localMaxStreamsNext bidi +
        if byLocal = false ∧ isBidi id = bidi then 1 else 0 := by
  rw [closeStream]
  cases byLocal <;> cases isBidi id <;> cases bidi <;> rfl

theorem closeStream_grows (id : Nat) (byLocal : Bool) :
    registry.control.Grows (registry.closeStream id byLocal).control := by
  rw [closeStream]
  cases byLocal with
  | true => exact .refl _
  | false => exact ConcurrencyControl.increaseMaxStreamsCredits_grows _ _ _

private theorem closeStream_withholds (id : Nat) (byLocal : Bool) :
    registry.control.Withholds (registry.closeStream id byLocal).control := by
  rw [closeStream]
  cases byLocal with
  | true => exact .refl _
  | false => exact ConcurrencyControl.increaseMaxStreamsCredits_withholds _ _ _

end

/-- A stream that ends gives back one credit if the peer has opened it. -/
theorem Sound.closed_stream (sound : registry.Sound initial)
    (present : registry.streams id = some ⟨byLocal, false⟩) :
    (registry.closeStream id byLocal).Sound initial := by
  have role : byLocal = isLocal id registry.isServer := sound.role id _ present
  have running : ¬ registry.Ended id := by
    rintro (⟨_, closed⟩ | gone)
    · rw [present] at closed
      cases closed
    · rw [sound.gone id gone] at present
      cases present
  constructor
  case steady => exact (closeStream_grows _ _ _ sound.steady).1
  case spent =>
    intro other
    rw [used_closeStream present, sound.spent]
    exact ⟨(closeStream_grows _ _ _ sound.steady).2 _ other,
      closeStream_withholds _ _ _ sound.steady _ other⟩
  case role =>
    intro other flags found
    rw [closeStream, streams_setStream] at found
    split_ifs at found with same
    · cases found
      rw [same]
      exact role
    · exact sound.role other flags found
  case kind => exact sound.kind
  case below =>
    intro other used
    exact sound.below other ((used_closeStream present).mp used)
  case distinct => exact sound.distinct
  case gone =>
    intro other gone
    rw [closeStream, streams_setStream]
    split_ifs with same
    · exact absurd (.inr (same ▸ gone)) running
    · exact sound.gone other gone
  case opened =>
    intro bidi
    rw [closeStream_limit]
    exact sound.opened bidi
  case counted =>
    intro bidi other used peers
    rw [closeStream_limit]
    exact sound.counted bidi other ((used_closeStream present).mp used) peers
  case credit =>
    intro bidi
    obtain ⟨closed, members, growth⟩ := sound.credit bidi
    rw [closeStream_next, growth, role]
    by_cases peers : registry.IsPeers bidi id
    · refine ⟨insert id closed, ?_, ?_⟩
      · intro other
        rw [Finset.mem_insert, members, ended_closeStream]
        constructor
        · rintro (rfl | ⟨ended, others⟩)
          · exact ⟨.inl rfl, peers⟩
          · exact ⟨.inr ended, others⟩
        · rintro ⟨rfl | ended, others⟩
          · exact .inl rfl
          · exact .inr ⟨ended, others⟩
      · have credit : isLocal id registry.isServer = false ∧ isBidi id = bidi := peers
        rw [if_pos credit, Finset.card_insert_of_notMem fun member =>
          running ((members id).mp member).1]
        omega
    · refine ⟨closed, ?_, ?_⟩
      · intro other
        rw [members, ended_closeStream]
        constructor
        · exact fun both => ⟨.inr both.1, both.2⟩
        · rintro ⟨rfl | ended, others⟩
          · exact absurd others peers
          · exact ⟨ended, others⟩
      · exact (if_neg peers).symm ▸ rfl

theorem used_destroyStream {id byLocal other} {flags : StreamFlags}
    (present : registry.streams id = some flags) :
    (registry.destroyStream id byLocal).Used other ↔ registry.Used other := by
  unfold Used
  rw [destroyStream]
  simp only [Gone, streams_setStream, List.map_cons, List.mem_cons]
  by_cases same : other = id
  · simp [same, present]
  · simp [same]

theorem ended_destroyStream {id byLocal other}
    (present : registry.streams id = some ⟨byLocal, true⟩) :
    (registry.destroyStream id byLocal).Ended other ↔ registry.Ended other := by
  unfold Ended
  rw [destroyStream]
  simp only [Gone, streams_setStream, List.map_cons, List.mem_cons]
  by_cases same : other = id
  · simp [same, present]
  · simp [same]

private theorem Sound.destroyed_stream (sound : registry.Sound initial)
    (present : registry.streams id = some ⟨byLocal, true⟩) :
    (registry.destroyStream id byLocal).Sound initial := by
  have absent : ¬ registry.Gone id := by
    intro gone
    rw [sound.gone id gone] at present
    cases present
  constructor
  case steady => exact sound.steady
  case spent =>
    intro other
    rw [used_destroyStream present]
    exact sound.spent other
  case role =>
    intro other flags found
    rw [destroyStream, streams_setStream] at found
    split_ifs at found
    exact sound.role other flags found
  case kind => exact sound.kind
  case below =>
    intro other used
    exact sound.below other ((used_destroyStream present).mp used)
  case distinct => exact List.nodup_cons.mpr ⟨absent, sound.distinct⟩
  case gone =>
    intro other gone
    rw [destroyStream, streams_setStream]
    split_ifs with same
    · rfl
    · rcases List.mem_cons.mp gone with rfl | before
      · exact absurd rfl same
      · exact sound.gone other before
  case opened => exact sound.opened
  case counted =>
    intro bidi other used peers
    exact sound.counted bidi other ((used_destroyStream present).mp used) peers
  case credit =>
    intro bidi
    obtain ⟨closed, members, growth⟩ := sound.credit bidi
    refine ⟨closed, ?_, growth⟩
    intro other
    rw [ended_destroyStream present]
    exact members other

/-! ## Steps and runs -/

theorem Sound.step (sound : registry.Sound initial) (step : registry.Step next) :
    next.Sound initial := by
  cases step with
  | blocked bidi blockedAt => exact sound.blocked bidi blockedAt
  | opened _ unspent role passed => exact sound.opened_stream unspent role passed
  | closed present => exact sound.closed_stream present
  | destroyed present => exact sound.destroyed_stream present
  | granted bidi maxStreams => exact sound.granted bidi maxStreams
  | advertised bidi => exact sound.advertised bidi

abbrev Evolves : StreamRegistry → StreamRegistry → Prop := Relation.ReflTransGen Step

theorem Sound.evolves (sound : registry.Sound initial) (evolves : registry.Evolves next) :
    next.Sound initial := by
  induction evolves with
  | refl => exact sound
  | tail _ step ih => exact ih.step step

/-- What was used stays used, what has ended stays ended, and nothing that is gone returns. -/
structure Remembers (before after : StreamRegistry) : Prop where
  isServer : after.isServer = before.isServer
  used : ∀ id, before.Used id → after.Used id
  ended : ∀ id, before.Ended id → after.Ended id
  absent : ∀ id, before.Used id → before.streams id = none → after.streams id = none

theorem Remembers.refl (registry : StreamRegistry) : Remembers registry registry :=
  ⟨rfl, fun _ used => used, fun _ ended => ended, fun _ _ missing => missing⟩

theorem Remembers.trans {first second third : StreamRegistry} (former : Remembers first second)
    (latter : Remembers second third) : Remembers first third where
  isServer := latter.isServer.trans former.isServer
  used id used := latter.used id (former.used id used)
  ended id ended := latter.ended id (former.ended id ended)
  absent id used missing := latter.absent id (former.used id used) (former.absent id used missing)

private theorem Sound.remembers_step (sound : registry.Sound initial) (step : registry.Step next) :
    Remembers registry next := by
  cases step with
  | blocked | granted | advertised =>
    exact ⟨rfl, fun _ used => used, fun _ ended => ended, fun _ _ missing => missing⟩
  | @opened id byLocal missing unspent role passed =>
    refine ⟨rfl, fun other used => used_openStream.mpr (.inr used), fun other ended =>
      (ended_openStream (sound.unused unspent)).mpr ended, ?_⟩
    intro other used absent
    rw [openStream, streams_setStream]
    split_ifs with same
    · exact absurd (same ▸ used) (sound.unused unspent)
    · exact absent
  | @closed id byLocal present =>
    refine ⟨rfl, fun other used => (used_closeStream present).mpr used, fun other ended =>
      ended_closeStream.mpr (.inr ended), ?_⟩
    intro other _ absent
    rw [closeStream, streams_setStream]
    split_ifs with same
    · rw [same, present] at absent
      cases absent
    · exact absent
  | @destroyed id byLocal present =>
    refine ⟨rfl, fun other used => (used_destroyStream present).mpr used, fun other ended =>
      (ended_destroyStream present).mpr ended, ?_⟩
    intro other _ absent
    rw [destroyStream, streams_setStream]
    split_ifs
    · rfl
    · exact absent

theorem Sound.remembers (sound : registry.Sound initial) (evolves : registry.Evolves next) :
    Remembers registry next := by
  induction evolves with
  | refl => exact .refl registry
  | tail evolved step ih => exact ih.trans ((sound.evolves evolved).remembers_step step)

theorem Sound.card_peers (sound : registry.Sound initial) (bidi : Bool) (ids : Finset Nat)
    (peers : ∀ id ∈ ids, registry.Used id ∧ registry.IsPeers bidi id) :
    ids.card ≤ (registry.control.limit false bidi).opened := by
  rw [← Finset.card_range (registry.control.limit false bidi).opened]
  refine Finset.card_le_card_of_injOn (· / 4) ?_ ?_
  · intro id member
    obtain ⟨used, peer⟩ := peers id member
    exact Finset.mem_coe.mpr (Finset.mem_range.mpr (sound.counted bidi id used peer))
  · intro left leftMember right rightMember same
    obtain ⟨_, leftRole, leftKind⟩ := peers left leftMember
    obtain ⟨_, rightRole, rightKind⟩ := peers right rightMember
    exact ConcurrencyControl.eq_of_role (leftRole.trans rightRole.symm)
      (leftKind.trans rightKind.symm) same

end StreamRegistry

end Tquic.Connection
