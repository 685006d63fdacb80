import Tquic.Endpoint
import Tquic.Lib.Transition
import Mathlib.Algebra.BigOperators.Group.Finset.Basic
import Mathlib.Algebra.Order.BigOperators.Group.Finset

/-! The loops of an endpoint make progress: every queued index belongs to a connection, and
each iteration takes an index off its queue, leaves the loop or sends a packet. -/

set_option autoImplicit false

namespace Tquic.Endpoint

open Lib

variable {σ : Type} {behaviour : Behaviour σ} {endpoint next : Endpoint σ} {idx : Nat}

/-! ## What is queued -/

/-- If the index is queued, its connection exists and has the flag of the queue. -/
structure Flagged (endpoint : Endpoint σ) (idx : Nat) : Prop where
  tickable : idx ∈ endpoint.tickable →
    ∃ conn, endpoint.conns.get? idx = some conn ∧ conn.tickable = true
  sendable : idx ∈ endpoint.sendable →
    ∃ conn, endpoint.conns.get? idx = some conn ∧ conn.sendable = true
  below : ∀ conn, endpoint.conns.get? idx = some conn → idx < endpoint.nextIndex

def Queued (endpoint : Endpoint σ) : Prop := ∀ idx, endpoint.Flagged idx

/-- Everything but the connection with index `idx` and its places in the queues is the same. -/
structure Touches (idx : Nat) (before after : Endpoint σ) : Prop where
  tickable : after.tickable.erase idx = before.tickable.erase idx
  sendable : after.sendable.erase idx = before.sendable.erase idx
  conns : ∀ other, other ≠ idx → after.conns.get? other = before.conns.get? other
  nextIndex : after.nextIndex = before.nextIndex

theorem Touches.refl (idx : Nat) (endpoint : Endpoint σ) : Touches idx endpoint endpoint :=
  ⟨rfl, rfl, fun _ _ => rfl, rfl⟩

theorem Touches.trans {first second third : Endpoint σ} (left : Touches idx first second)
    (right : Touches idx second third) : Touches idx first third :=
  ⟨right.tickable.trans left.tickable, right.sendable.trans left.sendable,
    fun other different => (right.conns other different).trans (left.conns other different),
    right.nextIndex.trans left.nextIndex⟩

theorem mem_of_erase_eq {left right : Finset Nat} {other : Nat}
    (same : left.erase idx = right.erase idx) (different : other ≠ idx) (member : other ∈ left) :
    other ∈ right := by
  have kept : other ∈ left.erase idx := Finset.mem_erase.mpr ⟨different, member⟩
  rw [same] at kept
  exact (Finset.mem_erase.mp kept).2

theorem Queued.touch (queued : endpoint.Queued) (touches : Touches idx endpoint next)
    (flagged : next.Flagged idx) : next.Queued := by
  intro other
  by_cases same : other = idx
  · exact same ▸ flagged
  · obtain ⟨tickable, sendable, below⟩ := queued other
    refine ⟨fun member => ?_, fun member => ?_, fun conn present => ?_⟩
    · rw [touches.conns other same]
      exact tickable (mem_of_erase_eq touches.tickable same member)
    · rw [touches.conns other same]
      exact sendable (mem_of_erase_eq touches.sendable same member)
    · rw [touches.conns other same] at present
      rw [touches.nextIndex]
      exact below conn present

/-! ## Operations on one connection -/

theorem get?_store (endpoint : Endpoint σ) (idx other : Nat) (conn : Conn σ) :
    (endpoint.store idx conn).conns.get? other =
      if other = idx then some conn else endpoint.conns.get? other :=
  OrdMap.get?_insert endpoint.conns idx other conn

theorem store_touches (endpoint : Endpoint σ) (idx : Nat) (conn : Conn σ) :
    Touches idx endpoint (endpoint.store idx conn) := by
  refine ⟨rfl, rfl, fun other different => ?_, rfl⟩
  rw [get?_store, if_neg different]

theorem store_flagged (flagged : endpoint.Flagged idx) {old conn : Conn σ}
    (present : endpoint.conns.get? idx = some old) (tickable : conn.tickable = old.tickable)
    (sendable : conn.sendable = old.sendable) : (endpoint.store idx conn).Flagged idx := by
  have stored : (endpoint.store idx conn).conns.get? idx = some conn := by
    rw [get?_store, if_pos rfl]
  refine ⟨fun member => ?_, fun member => ?_, fun _ _ => flagged.below old present⟩
  · obtain ⟨known, found, flag⟩ := flagged.tickable member
    cases present.symm.trans found
    exact ⟨conn, stored, tickable.trans flag⟩
  · obtain ⟨known, found, flag⟩ := flagged.sendable member
    cases present.symm.trans found
    exact ⟨conn, stored, sendable.trans flag⟩

theorem markTickable_touches (endpoint : Endpoint σ) (idx : Nat) (tickable : Bool) :
    Touches idx endpoint (endpoint.markTickable idx tickable) := by
  unfold markTickable
  split
  · exact .refl idx endpoint
  split
  · exact .refl idx endpoint
  · next conn _ _ =>
      refine ⟨?_, rfl, (store_touches endpoint idx { conn with tickable }).conns, rfl⟩
      cases tickable with
      | true => simp
      | false => simp

theorem markSendable_touches (endpoint : Endpoint σ) (idx : Nat) (sendable : Bool) :
    Touches idx endpoint (endpoint.markSendable idx sendable) := by
  unfold markSendable
  split
  · exact .refl idx endpoint
  split
  · exact .refl idx endpoint
  · next conn _ _ =>
      refine ⟨rfl, ?_, (store_touches endpoint idx { conn with sendable }).conns, rfl⟩
      cases sendable with
      | true => simp
      | false => simp

section

variable (flagged : endpoint.Flagged idx)

include flagged

theorem markTickable_flagged (tickable : Bool) :
    (endpoint.markTickable idx tickable).Flagged idx := by
  unfold markTickable
  split
  · exact flagged
  split
  · exact flagged
  · next conn present _ =>
      have stored : (endpoint.store idx { conn with tickable }).conns.get? idx =
          some { conn with tickable } := by rw [get?_store, if_pos rfl]
      refine ⟨fun member => ⟨_, stored, ?_⟩, fun member => ⟨_, stored, ?_⟩,
        fun _ _ => flagged.below conn present⟩
      · cases tickable with
        | true => rfl
        | false => simp at member
      · obtain ⟨known, found, flag⟩ := flagged.sendable member
        cases present.symm.trans found
        exact flag

theorem markSendable_flagged (sendable : Bool) :
    (endpoint.markSendable idx sendable).Flagged idx := by
  unfold markSendable
  split
  · exact flagged
  split
  · exact flagged
  · next conn present _ =>
      have stored : (endpoint.store idx { conn with sendable }).conns.get? idx =
          some { conn with sendable } := by rw [get?_store, if_pos rfl]
      refine ⟨fun member => ⟨_, stored, ?_⟩, fun member => ⟨_, stored, ?_⟩,
        fun _ _ => flagged.below conn present⟩
      · obtain ⟨known, found, flag⟩ := flagged.tickable member
        cases present.symm.trans found
        exact flag
      · cases sendable with
        | true => rfl
        | false => simp at member

/-- A connection that is no longer tickable is off the queue. -/
theorem not_mem_markTickable : idx ∉ (endpoint.markTickable idx false).tickable := by
  unfold markTickable
  cases present : endpoint.conns.get? idx with
  | none =>
      intro member
      obtain ⟨conn, found, _⟩ := flagged.tickable member
      exact absurd (present.symm.trans found) (by simp)
  | some conn =>
      dsimp only
      split
      · next same =>
          intro member
          obtain ⟨known, found, flag⟩ := flagged.tickable member
          cases present.symm.trans found
          exact absurd (same.trans flag) (by decide)
      · simp

theorem not_mem_markSendable : idx ∉ (endpoint.markSendable idx false).sendable := by
  unfold markSendable
  cases present : endpoint.conns.get? idx with
  | none =>
      intro member
      obtain ⟨conn, found, _⟩ := flagged.sendable member
      exact absurd (present.symm.trans found) (by simp)
  | some conn =>
      dsimp only
      split
      · next same =>
          intro member
          obtain ⟨known, found, flag⟩ := flagged.sendable member
          cases present.symm.trans found
          exact absurd (same.trans flag) (by decide)
      · simp

end

private theorem tickable_markSendable (endpoint : Endpoint σ) (idx : Nat) (sendable : Bool) :
    (endpoint.markSendable idx sendable).tickable = endpoint.tickable := by
  unfold markSendable
  split
  · rfl
  · split <;> rfl

theorem react_touches (endpoint : Endpoint σ) (idx : Nat) (conn : Conn σ) (reaction : Reaction σ) :
    Touches idx endpoint (endpoint.react idx conn reaction) := by
  have stored := store_touches endpoint idx { conn with state := reaction.state }
  unfold react
  dsimp only
  split
  · exact stored.trans (markTickable_touches _ idx true)
  · exact stored

variable {conn : Conn σ}

theorem react_flagged (flagged : endpoint.Flagged idx)
    (present : endpoint.conns.get? idx = some conn) (reaction : Reaction σ) :
    (endpoint.react idx conn reaction).Flagged idx := by
  have stored := @store_flagged σ endpoint idx flagged conn { conn with state := reaction.state }
    present rfl rfl
  unfold react
  dsimp only
  split
  · exact markTickable_flagged stored true
  · exact stored

theorem Queued.react (queued : endpoint.Queued)
    (present : endpoint.conns.get? idx = some conn) (reaction : Reaction σ) :
    (endpoint.react idx conn reaction).Queued :=
  queued.touch (react_touches endpoint idx conn reaction)
    (react_flagged (queued idx) present reaction)

theorem Queued.markTickable (queued : endpoint.Queued) (idx : Nat) (tickable : Bool) :
    (endpoint.markTickable idx tickable).Queued :=
  queued.touch (markTickable_touches endpoint idx tickable)
    (markTickable_flagged (queued idx) tickable)

theorem Queued.of_same (queued : endpoint.Queued) (conns : next.conns = endpoint.conns)
    (nextIndex : next.nextIndex = endpoint.nextIndex) (tickable : next.tickable = endpoint.tickable)
    (sendable : next.sendable = endpoint.sendable) : next.Queued := by
  intro idx
  obtain ⟨ticks, sends, below⟩ := queued idx
  refine ⟨?_, ?_, ?_⟩
  · rw [tickable, conns]
    exact ticks
  · rw [sendable, conns]
    exact sends
  · rw [conns, nextIndex]
    exact below

theorem Queued.of_empty (tickable : endpoint.tickable = ∅) (sendable : endpoint.sendable = ∅)
    (conns : endpoint.conns = ∅) : endpoint.Queued := by
  intro idx
  refine ⟨fun member => ?_, fun member => ?_, fun conn present => ?_⟩
  · rw [tickable] at member
    exact absurd member (Finset.notMem_empty idx)
  · rw [sendable] at member
    exact absurd member (Finset.notMem_empty idx)
  · rw [conns] at present
    exact absurd present (by simp)

theorem updateTimer_same (behaviour : Behaviour σ) (endpoint : Endpoint σ) (idx : Nat)
    (now : Instant) :
    ∃ timers, endpoint.updateTimer behaviour idx now = { endpoint with timers } := by
  unfold updateTimer
  split
  · exact ⟨endpoint.timers, rfl⟩
  · split
    · exact ⟨_, rfl⟩
    · exact ⟨_, rfl⟩

/-! ## The loop over the tickable connections -/

private theorem removeConn_spec (queued : endpoint.Queued) (idx : Nat) :
    Touches idx endpoint (endpoint.removeConn behaviour idx) ∧
      (endpoint.removeConn behaviour idx).Queued ∧
      idx ∉ (endpoint.removeConn behaviour idx).tickable := by
  unfold removeConn
  cases present : endpoint.conns.get? idx with
  | none =>
      refine ⟨.refl idx endpoint, queued, fun member => ?_⟩
      obtain ⟨conn, found, _⟩ := (queued idx).tickable member
      exact absurd (present.symm.trans found) (by simp)
  | some conn =>
      dsimp only
      generalize notified : endpoint.react idx conn (behaviour.cleanUp conn.state) = after
      have touched : Touches idx endpoint after := notified ▸ react_touches endpoint idx conn _
      have flagged : after.Flagged idx := notified ▸ react_flagged (queued idx) present _
      generalize unmarked : (after.markTickable idx false).markSendable idx false = last
      have unticked : idx ∉ last.tickable := by
        rw [← unmarked, tickable_markSendable]
        exact not_mem_markTickable flagged
      have unsent : idx ∉ last.sendable := by
        rw [← unmarked]
        exact not_mem_markSendable (markTickable_flagged flagged false)
      have moved : Touches idx endpoint last := by
        rw [← unmarked]
        exact (touched.trans (markTickable_touches after idx false)).trans
          (markSendable_touches _ idx false)
      have removed : Touches idx endpoint
          { last with timers := last.timers.erase idx, conns := last.conns.erase idx } := by
        refine ⟨moved.tickable, moved.sendable, fun other different => ?_, moved.nextIndex⟩
        rw [← moved.conns other different]
        simp [OrdMap.get?_erase, different]
      refine ⟨removed, queued.touch removed ⟨?_, ?_, ?_⟩, unticked⟩
      · exact fun member => absurd member unticked
      · exact fun member => absurd member unsent
      · intro known found
        simp at found

/-- One call touches its own connection only, and takes it off the queue while it is alive. -/
theorem processConnection_spec {now : Instant} {ticking processed : Ticking σ} {alive : Bool}
    (queued : ticking.endpoint.Queued)
    (done : processConnection behaviour now ticking idx = (alive, processed)) :
    Touches idx ticking.endpoint processed.endpoint ∧ processed.endpoint.Queued ∧
      (alive = true → idx ∉ processed.endpoint.tickable) := by
  unfold processConnection at done
  cases present : ticking.endpoint.conns.get? idx with
  | none =>
      simp only [present, Prod.mk.injEq] at done
      obtain ⟨rfl, rfl⟩ := done
      refine ⟨.refl idx _, queued, fun _ member => ?_⟩
      obtain ⟨conn, found, _⟩ := (queued idx).tickable member
      exact absurd (present.symm.trans found) (by simp)
  | some conn =>
      simp only [present] at done
      split at done
      · cases done
        exact ⟨.refl idx _, queued, fun impossible => absurd impossible (by decide)⟩
      generalize handledIs :
        ticking.endpoint.react idx conn (behaviour.process conn.state) = handled at done
      have touched : Touches idx ticking.endpoint handled := handledIs ▸ react_touches _ idx conn _
      have after : handled.Queued := handledIs ▸ queued.react present _
      split at done
      · cases done
        exact ⟨touched, after, fun impossible => absurd impossible (by decide)⟩
      · cases done
        obtain ⟨timers, timed⟩ := updateTimer_same behaviour (handled.markSendable idx true) idx now
        have sendable : Touches idx handled { handled.markSendable idx true with timers } :=
          (markSendable_touches handled idx true).trans ⟨rfl, rfl, fun _ _ => rfl, rfl⟩
        have flagged : Flagged { handled.markSendable idx true with timers } idx := by
          obtain ⟨ticks, sends, below⟩ := markSendable_flagged (after idx) true
          exact ⟨ticks, sends, below⟩
        have moved := sendable.trans (markTickable_touches _ idx false)
        dsimp only
        rw [timed]
        exact ⟨touched.trans moved, after.touch moved (markTickable_flagged flagged false),
          fun _ => not_mem_markTickable flagged⟩

theorem tickIteration_spec {now : Instant} {ticking : Ticking σ}
    (queued : ticking.endpoint.Queued) (idx : Nat) :
    (tickIteration behaviour now ticking idx).endpoint.Queued ∧
      (tickIteration behaviour now ticking idx).endpoint.tickable =
        ticking.endpoint.tickable.erase idx := by
  unfold tickIteration
  cases done : processConnection behaviour now ticking idx with
  | mk alive processed =>
      obtain ⟨touched, after, processedOff⟩ := processConnection_spec queued done
      cases alive with
      | true =>
          refine ⟨after, ?_⟩
          rw [← touched.tickable]
          exact (Finset.erase_eq_of_notMem (processedOff rfl)).symm
      | false =>
          obtain ⟨removed, last, off⟩ :=
            @removeConn_spec σ behaviour processed.endpoint after idx
          refine ⟨last, ?_⟩
          rw [← (touched.trans removed).tickable]
          exact (Finset.erase_eq_of_notMem off).symm

theorem runTicks_spec {now : Instant} {ticks : List Nat} {ticking finished : Ticking σ}
    (queued : ticking.endpoint.Queued)
    (ran : runTicks behaviour now ticks ticking = some finished) :
    finished.endpoint.Queued ∧
      ticks.length + finished.endpoint.tickable.card = ticking.endpoint.tickable.card := by
  induction ticks generalizing ticking with
  | nil =>
      cases ran
      exact ⟨queued, Nat.zero_add _⟩
  | cons idx rest ih =>
      obtain ⟨member, continues⟩ := Option.ite_none_right_eq_some.mp ran
      obtain ⟨after, fewer⟩ := @tickIteration_spec σ behaviour now ticking queued idx
      obtain ⟨last, count⟩ := ih after continues
      refine ⟨last, ?_⟩
      have card := Finset.card_erase_add_one member
      rw [fewer] at count
      simp only [List.length_cons]
      omega

/-! ## The loop over the sendable connections -/

theorem sendBatch_same (sending : Sending σ) (handed : Except Error Nat) :
    ∃ packets, (sendBatch sending handed).2.endpoint = { sending.endpoint with packets } := by
  unfold sendBatch
  dsimp only
  split
  · cases handed with
    | error error => exact ⟨sending.endpoint.packets, rfl⟩
    | ok done => exact ⟨_, rfl⟩
  · exact ⟨sending.endpoint.packets, rfl⟩

/-- The three ends of an iteration: the index is taken off the queue, the loop is left, or a
packet of the connection was sent. -/
inductive SendOutcome (behaviour : Behaviour σ) (before : Endpoint σ) (idx : Nat) (conn : Conn σ)
    (result : Except Error Unit) (after : Endpoint σ) : Prop where
  | removed (sendable : after.sendable = before.sendable.erase idx)
      (conns : ∀ other, other ≠ idx → after.conns.get? other = before.conns.get? other)
  | left (error : Error) (failed : result = .error error)
  | sent (len : Nat) (state : σ) (sends : behaviour.send conn.state = (.ok len, state))
      (sendable : after.sendable = before.sendable)
      (conns : after.conns = before.conns.insert idx { conn with state })

variable {sending : Sending σ}

theorem sendBatch_queued (queued : sending.endpoint.Queued)
    (handed : Except Error Nat) : (sendBatch sending handed).2.endpoint.Queued := by
  obtain ⟨packets, same⟩ := sendBatch_same sending handed
  rw [same]
  exact queued.of_same rfl rfl rfl rfl

theorem store_queued (queued : endpoint.Queued)
    (present : endpoint.conns.get? idx = some conn) (state : σ) :
    (endpoint.store idx { conn with state }).Queued :=
  queued.touch (store_touches endpoint idx _) (store_flagged (queued idx) present rfl rfl)

/-- An iteration finds a live connection and has one of three outcomes. -/
theorem sendIteration_spec {sending : Sending σ} (queued : sending.endpoint.Queued)
    (member : idx ∈ sending.endpoint.sendable) (handed : Except Error Nat) :
    (sendIteration behaviour sending idx handed).2.endpoint.Queued ∧
      ∃ conn, sending.endpoint.conns.get? idx = some conn ∧
        SendOutcome behaviour sending.endpoint idx conn
          (sendIteration behaviour sending idx handed).1
          (sendIteration behaviour sending idx handed).2.endpoint := by
  obtain ⟨conn, present, _⟩ := (queued idx).sendable member
  -- Both ways in which a connection stops sending take it off the queue.
  have unmarked : ∀ before : Endpoint σ, before.Queued →
      Touches idx sending.endpoint before →
      (before.markSendable idx false).Queued ∧
        (before.markSendable idx false).sendable = sending.endpoint.sendable.erase idx ∧
        ∀ other, other ≠ idx → (before.markSendable idx false).conns.get? other =
          sending.endpoint.conns.get? other := by
    intro before orderly touched
    have moved := touched.trans (markSendable_touches before idx false)
    refine ⟨orderly.touch (markSendable_touches before idx false)
      (markSendable_flagged (orderly idx) false), ?_, moved.conns⟩
    rw [← moved.sendable]
    exact (Finset.erase_eq_of_notMem (not_mem_markSendable (orderly idx))).symm
  unfold sendIteration
  simp only [present]
  by_cases ended : (behaviour.isDraining conn.state || behaviour.isClosed conn.state) = true
  · rw [if_pos ended]
    obtain ⟨after, sendable, conns⟩ := unmarked sending.endpoint queued (.refl idx _)
    exact ⟨after, conn, rfl, .removed sendable conns⟩
  rw [if_neg ended]
  cases sends : behaviour.send conn.state with
  | mk result state =>
      have stored := store_queued queued present state
      have touched := store_touches sending.endpoint idx { conn with state }
      cases result with
      | ok len =>
          dsimp only
          refine ⟨?_, conn, rfl, ?_⟩
          · apply sendBatch_queued
            exact stored.of_same rfl rfl rfl rfl
          obtain ⟨packets, same⟩ := sendBatch_same
            { endpoint := { sending.endpoint.store idx { conn with state } with
                packets := (sending.endpoint.store idx { conn with state }).packets + 1 }
              sent := sending.sent.insert idx } handed
          rw [same]
          exact .sent len state sends rfl rfl
      | error error =>
          by_cases dry : error = .done
          · subst dry
            obtain ⟨after, sendable, conns⟩ := unmarked _ stored touched
            dsimp only
            refine ⟨sendBatch_queued after handed, conn, rfl, ?_⟩
            obtain ⟨packets, same⟩ := sendBatch_same
              { endpoint := (sending.endpoint.store idx { conn with state }).markSendable idx false
                sent := sending.sent.insert idx } handed
            rw [same]
            exact .removed sendable conns
          · split
            · next impossible => cases impossible
            · next same =>
                cases same
                exact absurd rfl dry
            · next same =>
                cases same
                exact ⟨stored, conn, rfl, .left _ rfl⟩

/-- How often a connection can still be served: once for each packet and once for the last
try. -/
def turns (rank : σ → Nat) (endpoint : Endpoint σ) (idx : Nat) : Nat :=
  match endpoint.conns.get? idx with
  | none => 0
  | some conn => rank conn.state + 1

def load (rank : σ → Nat) (endpoint : Endpoint σ) : Nat :=
  ∑ idx ∈ endpoint.sendable, turns rank endpoint idx

theorem turns_of_present {rank : σ → Nat} {conn : Conn σ}
    (present : endpoint.conns.get? idx = some conn) :
    turns rank endpoint idx = rank conn.state + 1 := by
  rw [turns, present]

private theorem load_lt {rank : σ → Nat}
    (lowers : ∀ state len after, behaviour.send state = (.ok len, after) → rank after < rank state)
    (member : idx ∈ endpoint.sendable) (present : endpoint.conns.get? idx = some conn)
    (outcome : SendOutcome behaviour endpoint idx conn (.ok ()) next) :
    load rank next < load rank endpoint := by
  have before := @turns_of_present σ endpoint idx rank conn present
  cases outcome with
  | removed sendable conns =>
      have split := Finset.add_sum_erase endpoint.sendable (turns rank endpoint) member
      have same : load rank next = ∑ other ∈ endpoint.sendable.erase idx,
          turns rank endpoint other := by
        unfold load
        rw [sendable]
        refine Finset.sum_congr rfl fun other kept => ?_
        rw [turns, turns, conns other (Finset.ne_of_mem_erase kept)]
      rw [same]
      unfold load
      omega
  | left error failed => cases failed
  | sent len state sends sendable conns =>
      have less := lowers _ _ _ sends
      have here : turns rank next idx = rank state + 1 := by
        rw [turns, conns, OrdMap.get?_insert_self]
      have elsewhere : ∀ other, other ≠ idx → turns rank next other = turns rank endpoint other := by
        intro other different
        rw [turns, turns, conns, OrdMap.get?_insert, if_neg different]
      unfold load
      rw [sendable]
      refine Finset.sum_lt_sum (fun other _ => ?_) ⟨idx, member, by omega⟩
      by_cases same : other = idx
      · subst same
        omega
      · rw [elsewhere other same]

/-- The send loop leaves only live connections in the queues. -/
theorem runSends_queued {sends : List (Nat × Except Error Nat)} {sending finished : Sending σ}
    {result : Except Error Unit} (queued : sending.endpoint.Queued)
    (ran : runSends behaviour sends sending = some (result, finished)) :
    finished.endpoint.Queued := by
  induction sends generalizing sending with
  | nil =>
      cases ran
      exact queued
  | cons entry rest ih =>
      obtain ⟨idx, handed⟩ := entry
      obtain ⟨member, continues⟩ := Option.ite_none_right_eq_some.mp ran
      obtain ⟨after, _⟩ := @sendIteration_spec σ behaviour idx sending queued member handed
      cases iterated : sendIteration behaviour sending idx handed with
      | mk outcome later =>
          rw [iterated] at after
          simp only [iterated] at continues
          cases outcome with
          | ok done => exact ih after continues
          | error error =>
              simp only at continues
              split at continues
              · cases continues
                exact after
              · cases continues

private theorem runSends_bounded {rank : σ → Nat}
    (lowers : ∀ state len after, behaviour.send state = (.ok len, after) → rank after < rank state)
    {sends : List (Nat × Except Error Nat)}
    {result : Except Error Unit × Sending σ} (queued : sending.endpoint.Queued)
    (ran : runSends behaviour sends sending = some result) :
    sends.length ≤ load rank sending.endpoint := by
  induction sends generalizing sending with
  | nil => exact Nat.zero_le _
  | cons entry rest ih =>
      obtain ⟨idx, handed⟩ := entry
      obtain ⟨member, continues⟩ := Option.ite_none_right_eq_some.mp ran
      obtain ⟨after, conn, present, outcome⟩ :=
        @sendIteration_spec σ behaviour idx sending queued member handed
      cases iterated : sendIteration behaviour sending idx handed with
      | mk stays later =>
          rw [iterated] at after outcome
          simp only [iterated] at continues
          cases stays with
          | ok done =>
              have less := load_lt lowers member present outcome
              have bounded := ih after continues
              simp only [List.length_cons]
              omega
          | error error =>
              simp only at continues
              split at continues
              · next last =>
                  rw [List.isEmpty_iff.mp last]
                  have here : turns rank sending.endpoint idx ≤ load rank sending.endpoint :=
                    Finset.single_le_sum (fun _ _ => Nat.zero_le _) member
                  rw [turns_of_present present] at here
                  simp only [List.length_cons, List.length_nil]
                  omega
              · cases continues

/-! ## Calls of the application -/

theorem insertConn_queued (queued : endpoint.Queued) (state : σ) :
    (endpoint.insertConn state).2.Queued := by
  intro idx
  obtain ⟨tickable, sendable, below⟩ := queued idx
  have unknown : idx = endpoint.nextIndex → endpoint.conns.get? idx = none := by
    intro same
    cases present : endpoint.conns.get? idx with
    | none => rfl
    | some conn => exact absurd (below conn present) (by omega)
  have kept : idx ≠ endpoint.nextIndex →
      (endpoint.insertConn state).2.conns.get? idx = endpoint.conns.get? idx := by
    intro different
    exact (get?_store endpoint endpoint.nextIndex idx _).trans (if_neg different)
  refine ⟨fun member => ?_, fun member => ?_, fun conn present => ?_⟩
  · obtain ⟨conn, found, flag⟩ := tickable member
    by_cases same : idx = endpoint.nextIndex
    · exact absurd (found.symm.trans (unknown same)) (by simp)
    · exact ⟨conn, (kept same).trans found, flag⟩
  · obtain ⟨conn, found, flag⟩ := sendable member
    by_cases same : idx = endpoint.nextIndex
    · exact absurd (found.symm.trans (unknown same)) (by simp)
    · exact ⟨conn, (kept same).trans found, flag⟩
  · change idx < endpoint.nextIndex + 1
    by_cases same : idx = endpoint.nextIndex
    · omega
    · rw [kept same] at present
      have less := below conn present
      omega

private theorem insertConn_present (endpoint : Endpoint σ) (state : σ) :
    (endpoint.insertConn state).2.conns.get? endpoint.nextIndex =
      some { state, tickable := false, sendable := false } :=
  (get?_store endpoint endpoint.nextIndex endpoint.nextIndex _).trans (if_pos rfl)

theorem announce_queued (queued : endpoint.Queued) (state configured : σ) (reaction : Reaction σ) :
    (((endpoint.insertConn state).2.react endpoint.nextIndex
      { state := configured, tickable := false, sendable := false } reaction).markTickable
        endpoint.nextIndex true).Queued := by
  have inserted := insertConn_queued queued state
  have stored := store_queued inserted (insertConn_present endpoint state) configured
  have reacted := stored.react
    ((get?_store _ endpoint.nextIndex endpoint.nextIndex
      { state := configured, tickable := false, sendable := false }).trans (if_pos rfl)) reaction
  -- Storing the connection twice keeps only the second one.
  have same : ((endpoint.insertConn state).2.store endpoint.nextIndex
      { state := configured, tickable := false, sendable := false }).react endpoint.nextIndex
        { state := configured, tickable := false, sendable := false } reaction =
      (endpoint.insertConn state).2.react endpoint.nextIndex
        { state := configured, tickable := false, sendable := false } reaction := by
    simp only [react, store, OrdMap.insert_insert]
  rw [same] at reacted
  exact reacted.markTickable endpoint.nextIndex true

theorem connect_queued (queued : endpoint.Queued) (state : σ) (configured : Except Error σ) :
    (endpoint.connect behaviour state configured).Queued := by
  unfold connect
  split
  · exact queued
  · cases configured with
    | error error => exact insertConn_queued queued state
    | ok ready => exact announce_queued queued state ready (behaviour.onCreated ready)

theorem deliver_queued (queued : endpoint.Queued) (idx : Nat) (buf : Bytes) :
    (endpoint.deliver behaviour idx buf).2.Queued := by
  unfold deliver
  cases present : endpoint.conns.get? idx with
  | none => exact queued
  | some conn => exact queued.react present _

section

variable (queued : endpoint.Queued)

include queued

private theorem deliverAll_queued (idx : Nat) (bufs : List Bytes) :
    (deliverAll behaviour idx bufs endpoint).Queued := by
  induction bufs generalizing endpoint with
  | nil => exact queued
  | cons buf rest ih =>
      have delivered := @deliver_queued σ behaviour endpoint queued idx buf
      unfold deliverAll
      split
      · next failed =>
          rw [failed] at delivered
          exact delivered
      · next received =>
          rw [received] at delivered
          exact ih delivered

private theorem callConn_queued (idx : Nat) (reaction : Reaction σ) :
    (endpoint.callConn idx reaction).Queued := by
  unfold callConn
  cases present : endpoint.conns.get? idx with
  | none => exact queued
  | some conn => exact queued.react present reaction

private theorem recv_queued (target : Option Nat) (reset : Bool) (buf : Bytes)
    (unmatched : Unmatched σ) : (endpoint.recv behaviour target reset buf unmatched).Queued := by
  unfold recv
  split
  · next idx _ _ =>
      have marked := queued.markTickable idx true
      dsimp only
      split
      · cases present : (endpoint.markTickable idx true).conns.get? idx with
        | none => exact marked
        | some conn => exact marked.react present _
      · exact deliver_queued marked idx buf
  · cases unmatched with
    | ignored => exact queued
    | answered => exact queued.of_same rfl rfl rfl rfl
    | created state buffered =>
        dsimp only
        split
        · exact queued
        · have announced := announce_queued queued state state (behaviour.onCreated state)
          have delivered := @deliver_queued σ behaviour _ announced endpoint.nextIndex buf
          split
          · next failed =>
              change deliver _ _ _ _ = _ at failed
              exact (congrArg (fun outcome => outcome.2.Queued) failed).mp delivered
          · next received =>
              change deliver _ _ _ _ = _ at received
              exact deliverAll_queued
                ((congrArg (fun outcome => outcome.2.Queued) received).mp delivered) _ buffered

theorem expire_queued (now : Instant) (idx : Nat) : (endpoint.expire behaviour now idx).Queued := by
  have popped : Queued { endpoint with timers := endpoint.timers.erase idx } :=
    queued.of_same rfl rfl rfl rfl
  have marked := popped.markTickable idx true
  unfold expire
  dsimp only
  cases present :
      (markTickable { endpoint with timers := endpoint.timers.erase idx } idx true).conns.get? idx with
  | none => exact marked
  | some conn => exact marked.react present _

end

theorem foldl_queued {change : Endpoint σ → Nat → Endpoint σ}
    (keeps : ∀ endpoint idx, endpoint.Queued → (change endpoint idx).Queued)
    (queued : endpoint.Queued) (indices : List Nat) : (indices.foldl change endpoint).Queued := by
  induction indices generalizing endpoint with
  | nil => exact queued
  | cons idx rest ih => exact ih (keeps endpoint idx queued)

private theorem onTimeout_queued (queued : endpoint.Queued) (now : Instant) :
    (endpoint.onTimeout behaviour now).Queued :=
  foldl_queued (fun _ idx orderly => expire_queued orderly now idx) queued _

private theorem processConnections_queued (queued : endpoint.Queued) {schedule : Schedule}
    (processed : endpoint.processConnections behaviour schedule = some next) : next.Queued := by
  unfold processConnections at processed
  cases ticked : runTicks behaviour schedule.now schedule.ticks { endpoint, ready := [] } with
  | none => simp [ticked] at processed
  | some ticking =>
      obtain ⟨after, _⟩ := runTicks_spec queued ticked
      simp only [ticked] at processed
      split at processed
      · cases processed
      cases sent : runSends behaviour schedule.sends { endpoint := ticking.endpoint, sent := [] } with
      | none => simp [sent] at processed
      | some outcome =>
          obtain ⟨result, sending⟩ := outcome
          have served := runSends_queued after sent
          have timed : (sending.sent.foldl (fun endpoint idx =>
              endpoint.updateTimer behaviour idx schedule.now) sending.endpoint).Queued := by
            refine foldl_queued (fun before idx orderly => ?_) served _
            obtain ⟨timers, same⟩ := updateTimer_same behaviour before idx schedule.now
            rw [same]
            exact orderly.of_same rfl rfl rfl rfl
          have finished : (finishSending behaviour sending schedule).2.Queued :=
            timed.of_same rfl rfl rfl rfl
          simp only [sent] at processed
          cases result with
          | error error =>
              cases processed
              exact served
          | ok done =>
              simp only at processed
              split at processed
              · cases processed
              split at processed
              · next flushed =>
                  cases processed
                  rwa [flushed] at finished
              · next flushed =>
                  cases processed
                  rw [flushed] at finished
                  exact foldl_queued (fun _ idx orderly => orderly.markTickable idx true) finished _

/-- Callbacks that mark nothing leave the queues alone. -/
theorem closeConns_queues {indices : List Nat} (unique : indices.Nodup)
    (silent : ∀ idx ∈ indices, ∀ conn, endpoint.conns.get? idx = some conn →
      (behaviour.cleanUp conn.state).ticks = false) :
    (closeConns behaviour indices endpoint).tickable = endpoint.tickable ∧
      (closeConns behaviour indices endpoint).sendable = endpoint.sendable := by
  induction indices generalizing endpoint with
  | nil => exact ⟨rfl, rfl⟩
  | cons idx rest ih =>
      obtain ⟨fresh, others⟩ := List.nodup_cons.mp unique
      unfold closeConns
      cases present : endpoint.conns.get? idx with
      | none => exact ih others fun other member => silent other (List.mem_cons_of_mem _ member)
      | some conn =>
          have quiet := silent idx List.mem_cons_self conn present
          have stored : endpoint.react idx conn (behaviour.cleanUp conn.state) =
              endpoint.store idx { conn with state := (behaviour.cleanUp conn.state).state } := by
            simp [react, quiet]
          dsimp only
          rw [stored]
          refine ih others fun other member known found => ?_
          have different : other ≠ idx := by
            rintro rfl
            exact fresh member
          rw [get?_store, if_neg different] at found
          exact silent other (List.mem_cons_of_mem _ member) known found

/-- `close(true)` happens while nothing is queued, and its callbacks queue nothing. -/
def Regular (behaviour : Behaviour σ) (endpoint : Endpoint σ) : Op σ → Prop
  | .close true =>
      endpoint.tickable = ∅ ∧ endpoint.sendable = ∅ ∧
        ∀ idx conn, endpoint.conns.get? idx = some conn →
          (behaviour.cleanUp conn.state).ticks = false
  | _ => True

private theorem close_queued (queued : endpoint.Queued) {force : Bool}
    (regular : Regular behaviour endpoint (.close force)) :
    (endpoint.close behaviour force).Queued := by
  unfold close
  cases force with
  | false => exact queued.of_same rfl rfl rfl rfl
  | true =>
      obtain ⟨tickable, sendable, silent⟩ := regular
      have unique : (endpoint.conns.entries.map (·.1)).Nodup := by
        refine List.Pairwise.map _ ?_ endpoint.conns.sorted
        exact fun left right less => Nat.ne_of_lt less
      obtain ⟨ticks, sends⟩ := @closeConns_queues σ behaviour { endpoint with closed := true } _
        unique (fun idx _ conn present => silent idx conn present)
      exact .of_empty (ticks.trans tickable) (sends.trans sendable) rfl

theorem step_queued (queued : endpoint.Queued) {op : Op σ} (regular : Regular behaviour endpoint op)
    (stepped : step behaviour endpoint op = some next) : next.Queued := by
  cases op with
  | connect state configured =>
      cases stepped
      exact connect_queued queued state configured
  | recv target reset buf unmatched =>
      cases stepped
      exact recv_queued queued target reset buf unmatched
  | onTimeout now =>
      cases stepped
      exact onTimeout_queued queued now
  | processConnections schedule => exact processConnections_queued queued stepped
  | callConn idx reaction =>
      cases stepped
      exact callConn_queued queued idx reaction
  | close force =>
      cases stepped
      exact close_queued queued regular

/-! ## Runs -/

/-- The connection with this index exists. -/
def Live (endpoint : Endpoint σ) (idx : Nat) : Prop := (endpoint.conns.get? idx).isSome

theorem Queued.live_tickable (queued : endpoint.Queued) (member : idx ∈ endpoint.tickable) :
    endpoint.Live idx := by
  obtain ⟨conn, present, _⟩ := (queued idx).tickable member
  rw [Live, present]
  rfl

theorem Queued.live_sendable (queued : endpoint.Queued) (member : idx ∈ endpoint.sendable) :
    endpoint.Live idx := by
  obtain ⟨conn, present, _⟩ := (queued idx).sendable member
  rw [Live, present]
  rfl

/-- What one iteration over the sendable connections does: it takes the index off the queue,
leaves the loop, or sends a packet of a live connection and keeps the queue as it is. -/
def Progresses (behaviour : Behaviour σ) (sending : Sending σ) (idx : Nat)
    (handed : Except Error Nat) : Prop :=
  (sendIteration behaviour sending idx handed).2.endpoint.sendable =
      sending.endpoint.sendable.erase idx ∨
    (∃ error, (sendIteration behaviour sending idx handed).1 = .error error) ∨
    ∃ conn len state, sending.endpoint.conns.get? idx = some conn ∧
      behaviour.send conn.state = (.ok len, state) ∧
      (sendIteration behaviour sending idx handed).2.endpoint.sendable = sending.endpoint.sendable

private theorem progresses (queued : sending.endpoint.Queued)
    (member : idx ∈ sending.endpoint.sendable) (handed : Except Error Nat) :
    Progresses behaviour sending idx handed := by
  obtain ⟨_, conn, present, outcome⟩ :=
    @sendIteration_spec σ behaviour idx sending queued member handed
  cases outcome with
  | removed sendable _ => exact .inl sendable
  | left error failed => exact .inr (.inl ⟨error, failed⟩)
  | sent len state sends kept _ => exact .inr (.inr ⟨conn, len, state, present, sends, kept⟩)

/-- In every run in which `close(true)` meets empty queues: queued indices are live, an
iteration over the tickable connections takes its index off, one over the sendable connections
makes progress, and both loops end, for any order of the queues, if no connection can send
forever. -/
theorem loops_end {isServer : Bool} {maxConcurrentConns batchSize : Nat}
    (reached : Run (step behaviour) (Regular behaviour)
      (new isServer maxConcurrentConns batchSize) endpoint) :
    (∀ idx ∈ endpoint.tickable, endpoint.Live idx) ∧
      (∀ idx ∈ endpoint.sendable, endpoint.Live idx) ∧
      ∀ now ticks ticking,
        runTicks behaviour now ticks { endpoint, ready := [] } = some ticking →
        ticks.length ≤ endpoint.tickable.card ∧
          (∀ idx ∈ ticking.endpoint.tickable, ticking.endpoint.Live idx ∧
            (tickIteration behaviour now ticking idx).endpoint.tickable =
              ticking.endpoint.tickable.erase idx) ∧
          (∀ sends sending,
            runSends behaviour sends { endpoint := ticking.endpoint, sent := [] } =
              some (.ok (), sending) →
            ∀ idx ∈ sending.endpoint.sendable, sending.endpoint.Live idx ∧
              ∀ handed, Progresses behaviour sending idx handed) ∧
          ∀ rank : σ → Nat,
            (∀ state len after, behaviour.send state = (.ok len, after) → rank after < rank state) →
            ∃ bound, ∀ sends result,
              runSends behaviour sends { endpoint := ticking.endpoint, sent := [] } = some result →
              sends.length ≤ bound := by
  have queued : endpoint.Queued := reached.invariant
    (fun _ _ _ orderly regular stepped => step_queued orderly regular stepped)
    (.of_empty rfl rfl rfl)
  refine ⟨fun idx => queued.live_tickable, fun idx => queued.live_sendable, ?_⟩
  intro now ticks ticking ran
  obtain ⟨after, count⟩ := runTicks_spec queued ran
  have rounds : ticks.length ≤ endpoint.tickable.card := by
    dsimp only at count
    omega
  refine ⟨rounds, fun idx member => ?_, ?_, ?_⟩
  · exact ⟨after.live_tickable member, (tickIteration_spec after idx).2⟩
  · intro sends sending served idx member
    have orderly := runSends_queued after served
    exact ⟨orderly.live_sendable member, progresses orderly member⟩
  · intro rank lowers
    exact ⟨load rank ticking.endpoint, fun sends result served =>
      runSends_bounded lowers after served⟩

/-- Connections that have a number of packets to send and do nothing else. -/
def sampleBehaviour : Behaviour Nat :=
  { isClosed := fun _ => false
    isDraining := fun _ => false
    isReady := fun _ => false
    timeout := fun _ => none
    onCreated := fun left => ⟨left, false⟩
    recv := fun left _ => (.ok (), ⟨left, false⟩)
    reset := fun left => ⟨left, false⟩
    onTimeout := fun left _ => ⟨left, false⟩
    process := fun left => ⟨left, false⟩
    cleanUp := fun left => ⟨left, false⟩
    send := fun left => match left with
      | 0 => (.error .done, 0)
      | left + 1 => (.ok 1200, left) }

private theorem runTicks_dead {now : Instant} {ticking : Ticking σ}
    (member : idx ∈ ticking.endpoint.tickable) (dead : ticking.endpoint.conns.get? idx = none)
    (rounds : Nat) : runTicks behaviour now (List.replicate rounds idx) ticking = some ticking := by
  have same : tickIteration behaviour now ticking idx = ticking := by
    simp [tickIteration, processConnection, dead]
  induction rounds with
  | zero => rfl
  | succ rounds ih => rw [List.replicate_succ, runTicks, if_pos member, same, ih]

/-- A connection with a packet to send stays queued after it was sent, and the loop goes on;
and after `close(true)` a tickable index has no connection, and the loop over the tickable
connections has runs of any length. -/
theorem forced_close_keeps_index :
    (¬ ∀ endpoint : Endpoint Nat, Run (step sampleBehaviour) anyStep (new false 8 4) endpoint →
      ∀ now ticks ticking,
        runTicks sampleBehaviour now ticks { endpoint, ready := [] } = some ticking →
        ∀ idx ∈ ticking.endpoint.sendable, ∀ handed,
          (sendIteration sampleBehaviour ⟨ticking.endpoint, []⟩ idx handed).2.endpoint.sendable =
              ticking.endpoint.sendable.erase idx ∨
            ∃ error,
              (sendIteration sampleBehaviour ⟨ticking.endpoint, []⟩ idx handed).1 = .error error) ∧
      ∃ endpoint : Endpoint Nat, Run (step sampleBehaviour) anyStep (new false 8 4) endpoint ∧
        0 ∈ endpoint.tickable ∧ ¬ endpoint.Live 0 ∧
        ∀ now rounds, (runTicks sampleBehaviour now (List.replicate rounds 0)
          { endpoint, ready := [] }).isSome := by
  constructor
  · intro always
    have reached := Run.of_exec
      (show exec (step sampleBehaviour) (new false 8 4) [.connect 2 (.ok 2)] = some _ from rfl)
    have ticked : runTicks sampleBehaviour 0 [0] { endpoint := _, ready := [] } = some _ :=
      (rfl : runTicks sampleBehaviour 0 [0]
        { endpoint := (new false 8 4).connect sampleBehaviour 2 (.ok 2), ready := [] } = _)
    rcases always _ reached 0 [0] _ ticked 0 (by decide) (.ok 0) with removed | ⟨error, failed⟩
    · exact absurd removed (by decide)
    · cases failed
  · have reached := Run.of_exec
      (show exec (step sampleBehaviour) (new false 8 4) [.connect 2 (.ok 2), .close true] = some _
        from rfl)
    refine ⟨_, reached, by decide, by unfold Live; decide, fun now rounds => ?_⟩
    rw [runTicks_dead (by decide) rfl]
    rfl

/-- A client connection with two packets is served and then rests. -/
theorem two_packets_sent :
    ∃ (endpoint : Endpoint Nat) (ticking : Ticking Nat),
      runTicks sampleBehaviour 0 [0] { endpoint, ready := [] } = some ticking ∧
        ticking.endpoint.sendable = {0} ∧
        ∃ bound, ∀ sends result,
          runSends sampleBehaviour sends { endpoint := ticking.endpoint, sent := [] } =
            some result → sends.length ≤ bound := by
  have reached : Run (step sampleBehaviour) (Regular sampleBehaviour) (new false 8 4)
      ((new false 8 4).connect sampleBehaviour 2 (.ok 2)) :=
    @Run.tail _ _ _ _ _ _ _ (.connect 2 (.ok 2)) .refl trivial rfl
  have ticked : runTicks sampleBehaviour 0 [0]
      { endpoint := (new false 8 4).connect sampleBehaviour 2 (.ok 2), ready := [] } = some _ := rfl
  refine ⟨_, _, ticked, by decide, ((loops_end reached).2.2 0 [0] _ ticked).2.2.2 id ?_⟩
  intro state len after sends
  cases state with
  | zero => cases sends
  | succ left =>
      cases sends
      exact Nat.lt_succ_self _

end Tquic.Endpoint
