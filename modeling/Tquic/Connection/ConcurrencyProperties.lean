import Tquic.Connection.Concurrency

/-! A stream identifier that was used once is never available again: the limits only
grow, and a raised limit makes only identifiers beyond the old limit available. -/

set_option autoImplicit false

namespace Tquic.Connection

namespace ConcurrencyControl

/-- The identifier was used: it is within the limit and no longer available. -/
def Spent (control : ConcurrencyControl) (isServer : Bool) (id : Nat) : Prop :=
  control.isAvailable id isServer = false ∧ control.isLimited id isServer = false

variable {control : ConcurrencyControl} {isServer : Bool}

theorem spent_iff {id : Nat} :
    control.Spent isServer id ↔
      id / 4 ∉ (control.limit (isLocal id isServer) (isBidi id)).availIds ∧
        id / 4 < (control.limit (isLocal id isServer) (isBidi id)).maxStreams := by
  rw [Spent, isAvailable, isLimited, ← Bool.not_eq_true, RangeSet.contains_iff,
    decide_eq_false_iff_not]
  exact and_congr_right fun _ => by omega

/-- What the limits keep in every state. -/
structure Steady (control : ConcurrencyControl) : Prop where
  unlimited : ∀ byLocal bidi, (control.limit byLocal bidi).availIds.capacity = none
  next : ∀ bidi, (control.limit false bidi).maxStreams ≤ control.localMaxStreamsNext bidi

/-- Steady limits stay steady, and used identifiers stay used. -/
def Grows (before after : ConcurrencyControl) : Prop :=
  before.Steady → after.Steady ∧ ∀ isServer id, before.Spent isServer id → after.Spent isServer id

theorem Grows.refl (control : ConcurrencyControl) : Grows control control :=
  fun steady => ⟨steady, fun _ _ spent => spent⟩

theorem Grows.trans {first second third : ConcurrencyControl} (former : Grows first second)
    (latter : Grows second third) : Grows first third := by
  intro steady
  obtain ⟨middle, earlier⟩ := former steady
  obtain ⟨final, later⟩ := latter middle
  exact ⟨final, fun isServer id spent => later isServer id (earlier isServer id spent)⟩

section

variable (control : ConcurrencyControl)

@[simp] theorem limit_setLimit (byLocal bidi byLocal' bidi' : Bool) (limit : StreamLimit) :
    (control.setLimit byLocal bidi limit).limit byLocal' bidi' =
      if byLocal' = byLocal ∧ bidi' = bidi then limit else control.limit byLocal' bidi' := by
  cases byLocal <;> cases bidi <;> cases byLocal' <;> cases bidi' <;> rfl

@[simp] theorem localMaxStreamsNext_setLimit (byLocal bidi bidi' : Bool) (limit : StreamLimit) :
    (control.setLimit byLocal bidi limit).localMaxStreamsNext bidi' =
      control.localMaxStreamsNext bidi' := by
  cases byLocal <;> cases bidi <;> rfl

@[simp] theorem limit_updateStreamsBlockedAt (bidi : Bool)
    (blockedAt : Option Nat) (byLocal bidi' : Bool) :
    (control.updateStreamsBlockedAt bidi blockedAt).limit byLocal bidi' =
      control.limit byLocal bidi' := by
  cases bidi <;> cases byLocal <;> cases bidi' <;> rfl

@[simp] theorem localMaxStreamsNext_updateStreamsBlockedAt
    (bidi bidi' : Bool) (blockedAt : Option Nat) :
    (control.updateStreamsBlockedAt bidi blockedAt).localMaxStreamsNext bidi' =
      control.localMaxStreamsNext bidi' := by
  cases bidi <;> rfl

end

theorem Grows.of_limits {before after : ConcurrencyControl}
    (unlimited : before.Steady → ∀ byLocal bidi,
      (after.limit byLocal bidi).availIds.capacity = none)
    (available : before.Steady → ∀ byLocal bidi,
      ∀ value ∈ (after.limit byLocal bidi).availIds,
        value ∈ (before.limit byLocal bidi).availIds ∨
          (before.limit byLocal bidi).maxStreams ≤ value)
    (maxStreams : before.Steady → ∀ byLocal bidi,
      (before.limit byLocal bidi).maxStreams ≤ (after.limit byLocal bidi).maxStreams)
    (next : before.Steady → ∀ bidi,
      (after.limit false bidi).maxStreams ≤ after.localMaxStreamsNext bidi) :
    Grows before after := by
  intro steady
  refine ⟨⟨unlimited steady, next steady⟩, ?_⟩
  intro isServer id spent
  rw [spent_iff] at spent ⊢
  constructor
  · intro member
    rcases available steady _ _ _ member with old | beyond
    · exact spent.1 old
    · omega
  · exact spent.2.trans_le (maxStreams steady _ _)

section

variable (control : ConcurrencyControl)

theorem updateStreamsBlockedAt_grows (bidi : Bool)
    (blockedAt : Option Nat) : Grows control (control.updateStreamsBlockedAt bidi blockedAt) := by
  apply Grows.of_limits
  · intro steady byLocal bidi'
    simpa using steady.unlimited byLocal bidi'
  · intro _ byLocal bidi' value member
    exact .inl (by simpa using member)
  · simp
  · intro steady bidi'
    simpa using steady.next bidi'

/-- A limit may be raised, that for the peer as far as the next one. -/
theorem setLimit_raise_grows {byLocal bidi : Bool}
    {maxStreams : Nat} (higher : (control.limit byLocal bidi).maxStreams ≤ maxStreams)
    (next : byLocal = false → maxStreams ≤ control.localMaxStreamsNext bidi) :
    Grows control (control.setLimit byLocal bidi ((control.limit byLocal bidi).raise maxStreams)) := by
  apply Grows.of_limits
  · intro steady byLocal' bidi'
    rw [limit_setLimit]
    split_ifs with same
    · exact steady.unlimited byLocal bidi
    · exact steady.unlimited byLocal' bidi'
  · intro steady byLocal' bidi' value member
    rw [limit_setLimit] at member
    split_ifs at member with same
    · obtain ⟨rfl, rfl⟩ := same
      rw [StreamLimit.raise, RangeSet.mem_insert (steady.unlimited _ _)] at member
      exact member.imp_right (·.1)
    · exact .inl member
  · intro _ byLocal' bidi'
    rw [limit_setLimit]
    split_ifs with same
    · obtain ⟨rfl, rfl⟩ := same
      exact higher
    · exact le_refl _
  · intro steady bidi'
    rw [limit_setLimit, localMaxStreamsNext_setLimit]
    split_ifs with same
    · obtain ⟨rfl, rfl⟩ := same
      exact next rfl
    · exact steady.next bidi'

/-- Identifiers may be taken from those that are available. -/
theorem setLimit_shrink_grows {byLocal bidi : Bool}
    {limit : StreamLimit} (maxStreams : limit.maxStreams = (control.limit byLocal bidi).maxStreams)
    (capacity : limit.availIds.capacity = (control.limit byLocal bidi).availIds.capacity)
    (fewer : ∀ value ∈ limit.availIds, value ∈ (control.limit byLocal bidi).availIds) :
    Grows control (control.setLimit byLocal bidi limit) := by
  apply Grows.of_limits
  · intro steady byLocal' bidi'
    rw [limit_setLimit]
    split_ifs with same
    · exact capacity.trans (steady.unlimited byLocal bidi)
    · exact steady.unlimited byLocal' bidi'
  · intro _ byLocal' bidi' value member
    rw [limit_setLimit] at member
    split_ifs at member with same
    · obtain ⟨rfl, rfl⟩ := same
      exact .inl (fewer value member)
    · exact .inl member
  · intro _ byLocal' bidi'
    rw [limit_setLimit]
    split_ifs with same
    · obtain ⟨rfl, rfl⟩ := same
      exact maxStreams.ge
    · exact le_refl _
  · intro steady bidi'
    rw [limit_setLimit, localMaxStreamsNext_setLimit]
    split_ifs with same
    · obtain ⟨rfl, rfl⟩ := same
      exact maxStreams ▸ steady.next _
    · exact steady.next bidi'

theorem updatePeerMaxStreams_grows (bidi : Bool)
    (maxStreams : Nat) : Grows control (control.updatePeerMaxStreams bidi maxStreams) := by
  have unblocked : ∀ raised : ConcurrencyControl, Grows control raised →
      Grows control (if (raised.streamsBlockedAt bidi).all
        (fun blockedAt => blockedAt < raised.peerMaxStreams bidi) then
          raised.updateStreamsBlockedAt bidi none else raised) := by
    intro raised grows
    split
    · exact grows.trans (updateStreamsBlockedAt_grows _ _ _)
    · exact grows
  apply unblocked
  split
  case isTrue less => exact setLimit_raise_grows control less.le (by simp)
  case isFalse => exact .refl control

theorem updateLocalMaxStreams_grows (bidi : Bool) :
    Grows control (control.updateLocalMaxStreams bidi) := by
  intro steady
  exact setLimit_raise_grows control (steady.next bidi) (fun _ => le_refl _) steady

theorem increaseMaxStreamsCredits_grows (bidi : Bool)
    (delta : Nat) : Grows control (control.increaseMaxStreamsCredits bidi delta) := by
  intro steady
  have limits : ∀ byLocal bidi', (control.increaseMaxStreamsCredits bidi delta).limit byLocal bidi' =
      control.limit byLocal bidi' := by
    intro byLocal bidi'
    cases bidi <;> cases byLocal <;> cases bidi' <;> rfl
  refine ⟨⟨?_, ?_⟩, ?_⟩
  · intro byLocal bidi'
    rw [limits]
    exact steady.unlimited byLocal bidi'
  · intro bidi'
    rw [limits]
    refine (steady.next bidi').trans ?_
    cases bidi <;> cases bidi' <;> simp [increaseMaxStreamsCredits, localMaxStreamsNext]
  · intro isServer id spent
    rw [spent_iff] at spent ⊢
    rw [limits]
    exact spent

theorem checkConcurrencyLimits_grows (id : Nat) (isServer : Bool) :
    Grows control (control.checkConcurrencyLimits id isServer).2 := by
  rw [checkConcurrencyLimits]
  split
  · split
    · exact updateStreamsBlockedAt_grows _ _ _
    · exact .refl control
  · exact setLimit_shrink_grows control rfl rfl (fun _ member => member)

theorem removeAvailId_grows (id : Nat) (isServer : Bool) :
    Grows control (control.removeAvailId id isServer) := by
  refine setLimit_shrink_grows control rfl rfl ?_
  intro value member
  rw [RangeSet.removeElem, RangeSet.mem_remove] at member
  exact member.1

end

theorem checkConcurrencyLimits_ok {id : Nat}
    (passed : (control.checkConcurrencyLimits id isServer).1 = .ok ()) :
    id / 4 < ((control.checkConcurrencyLimits id isServer).2.limit (isLocal id isServer)
      (isBidi id)).maxStreams ∧ control.isLimited id isServer = false := by
  rw [checkConcurrencyLimits] at passed ⊢
  split at passed
  case isTrue => cases passed
  case isFalse within =>
    rw [if_neg within, isLimited, decide_eq_false_iff_not]
    simp only [limit_setLimit, and_self, ↓reduceIte]
    omega

theorem checkConcurrencyLimits_counts {id : Nat}
    (passed : (control.checkConcurrencyLimits id isServer).1 = .ok ()) :
    (control.checkConcurrencyLimits id isServer).2 =
        control.setLimit (isLocal id isServer) (isBidi id)
          { control.limit (isLocal id isServer) (isBidi id) with
            opened := max (control.limit (isLocal id isServer) (isBidi id)).opened (id / 4 + 1) } ∧
      max (control.limit (isLocal id isServer) (isBidi id)).opened (id / 4 + 1) ≤
        (control.limit (isLocal id isServer) (isBidi id)).maxStreams := by
  rw [checkConcurrencyLimits] at passed ⊢
  split at passed
  case isTrue => cases passed
  case isFalse within =>
    rw [if_neg within]
    exact ⟨rfl, Nat.le_of_not_gt within⟩

theorem removeAvailId_limit (control : ConcurrencyControl) (id : Nat) (isServer byLocal bidi : Bool) :
    ((control.removeAvailId id isServer).limit byLocal bidi).maxStreams =
        (control.limit byLocal bidi).maxStreams ∧
      ((control.removeAvailId id isServer).limit byLocal bidi).opened =
        (control.limit byLocal bidi).opened ∧
      (control.removeAvailId id isServer).localMaxStreamsNext bidi =
        control.localMaxStreamsNext bidi := by
  rw [removeAvailId, limit_setLimit, localMaxStreamsNext_setLimit]
  split_ifs with same
  · rw [same.1, same.2]
    exact ⟨rfl, rfl, rfl⟩
  · exact ⟨rfl, rfl, rfl⟩

theorem removeAvailId_spent {id : Nat}
    (within : id / 4 < (control.limit (isLocal id isServer) (isBidi id)).maxStreams) :
    (control.removeAvailId id isServer).Spent isServer id := by
  rw [spent_iff, removeAvailId]
  simp only [limit_setLimit, and_self, ↓reduceIte, RangeSet.removeElem, RangeSet.mem_remove]
  exact ⟨fun member => member.2 ⟨le_refl _, Nat.lt_succ_self _⟩, within⟩

/-- No identifier becomes unavailable without being used. -/
def Withholds (before after : ConcurrencyControl) : Prop :=
  before.Steady → ∀ isServer id, after.Spent isServer id → before.Spent isServer id

theorem Withholds.refl (control : ConcurrencyControl) : Withholds control control :=
  fun _ _ _ spent => spent

theorem Withholds.of_limits {before after : ConcurrencyControl}
    (same : ∀ byLocal bidi, (after.limit byLocal bidi).availIds = (before.limit byLocal bidi).availIds ∧
      (after.limit byLocal bidi).maxStreams = (before.limit byLocal bidi).maxStreams) :
    Withholds before after := by
  intro _ isServer id spent
  rw [spent_iff] at spent ⊢
  rw [(same _ _).1, (same _ _).2] at spent
  exact spent

section

variable (control : ConcurrencyControl)

theorem updateStreamsBlockedAt_withholds (bidi : Bool)
    (blockedAt : Option Nat) : Withholds control (control.updateStreamsBlockedAt bidi blockedAt) := by
  refine .of_limits ?_
  intro byLocal bidi'
  rw [limit_updateStreamsBlockedAt]
  exact ⟨rfl, rfl⟩

theorem setLimit_raise_withholds (byLocal bidi : Bool) (maxStreams : Nat) :
    Withholds control
      (control.setLimit byLocal bidi ((control.limit byLocal bidi).raise maxStreams)) := by
  intro steady isServer id spent
  rw [spent_iff] at spent ⊢
  rw [limit_setLimit] at spent
  split_ifs at spent with same
  · rw [same.1, same.2]
    obtain ⟨unavailable, within⟩ := spent
    rw [StreamLimit.raise, RangeSet.mem_insert (steady.unlimited _ _)] at unavailable
    obtain ⟨old, beyond⟩ := not_or.mp unavailable
    refine ⟨old, ?_⟩
    by_contra above
    exact beyond ⟨Nat.le_of_not_lt above, within⟩
  · exact spent

theorem updatePeerMaxStreams_withholds (bidi : Bool)
    (maxStreams : Nat) : Withholds control (control.updatePeerMaxStreams bidi maxStreams) := by
  intro steady isServer id spent
  unfold updatePeerMaxStreams at spent
  dsimp only at spent
  have raised : ∀ raised : ConcurrencyControl, Withholds control raised →
      (if (raised.streamsBlockedAt bidi).all
        (fun blockedAt => blockedAt < raised.peerMaxStreams bidi) then
          raised.updateStreamsBlockedAt bidi none else raised).Spent isServer id →
      control.Spent isServer id := by
    intro raised withholds unavailable
    refine withholds steady isServer id ?_
    split at unavailable
    · rw [spent_iff] at unavailable ⊢
      rw [limit_updateStreamsBlockedAt] at unavailable
      exact unavailable
    · exact unavailable
  refine raised _ ?_ spent
  split
  · exact setLimit_raise_withholds _ _ _ _
  · exact .refl control

theorem checkConcurrencyLimits_withholds (id : Nat)
    (isServer : Bool) : Withholds control (control.checkConcurrencyLimits id isServer).2 := by
  rw [checkConcurrencyLimits]
  split
  · split
    · exact updateStreamsBlockedAt_withholds _ _ _
    · exact .refl control
  · refine .of_limits ?_
    intro byLocal bidi
    rw [limit_setLimit]
    split_ifs with same
    · rw [same.1, same.2]
      exact ⟨rfl, rfl⟩
    · exact ⟨rfl, rfl⟩

theorem increaseMaxStreamsCredits_withholds (bidi : Bool)
    (delta : Nat) : Withholds control (control.increaseMaxStreamsCredits bidi delta) := by
  refine .of_limits ?_
  intro byLocal bidi'
  cases bidi <;> cases byLocal <;> cases bidi' <;> exact ⟨rfl, rfl⟩

end

theorem eq_of_role {left right : Nat}
    (role : isLocal left isServer = isLocal right isServer) (kind : isBidi left = isBidi right)
    (number : left / 4 = right / 4) : left = right := by
  simp only [isBidi, isLocal, decide_eq_decide] at role kind
  have parity : left % 2 = right % 2 := by
    cases isServer <;> simp at role <;> omega
  omega

theorem removeAvailId_withholds {id other : Nat}
    (spent : (control.removeAvailId id isServer).Spent isServer other) :
    other = id ∨ control.Spent isServer other := by
  rw [spent_iff] at spent ⊢
  rw [removeAvailId, limit_setLimit] at spent
  split_ifs at spent with same
  · rw [RangeSet.removeElem, RangeSet.mem_remove] at spent
    rw [same.1, same.2]
    by_cases number : other / 4 = id / 4
    · exact .inl (eq_of_role same.1 same.2 number)
    · refine .inr ⟨fun member => spent.1 ⟨member, ?_⟩, spent.2⟩
      intro within
      exact number (Nat.le_antisymm (Nat.lt_succ_iff.mp within.2) within.1)
  · exact .inr spent

theorem new_steady (localMaxStreamsBidi localMaxStreamsUni : Nat) :
    (ConcurrencyControl.new localMaxStreamsBidi localMaxStreamsUni).Steady := by
  constructor
  · intro byLocal bidi
    cases byLocal <;> cases bidi <;> rfl
  · intro bidi
    cases bidi <;> exact le_refl _

theorem new_unspent (localMaxStreamsBidi localMaxStreamsUni : Nat) (isServer : Bool) (id : Nat) :
    ¬ (ConcurrencyControl.new localMaxStreamsBidi localMaxStreamsUni).Spent isServer id := by
  rw [spent_iff]
  rintro ⟨unavailable, within⟩
  generalize isLocal id isServer = byLocal at unavailable within
  generalize isBidi id = bidi at unavailable within
  cases byLocal with
  | true => cases bidi <;> exact Nat.not_lt_zero _ within
  | false =>
    have available : ∀ maxStreams, id / 4 < maxStreams →
        id / 4 ∈ (StreamLimit.new maxStreams).availIds := by
      intro maxStreams less
      rw [StreamLimit.new, RangeSet.mem_insert rfl]
      exact .inr ⟨Nat.zero_le _, less⟩
    cases bidi <;> exact unavailable (available _ within)

end ConcurrencyControl

end Tquic.Connection
