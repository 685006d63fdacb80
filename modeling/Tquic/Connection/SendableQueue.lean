import Tquic.Connection.StreamInvariants
import Tquic.Connection.StreamParts

/-! How often a stream stands in the queue of sendable streams, and which operations change
that. -/

set_option autoImplicit false

namespace Tquic.Connection

open Lib

namespace StreamMap

def queuedTimes (map : StreamMap) (id : Nat) : Nat :=
  map.sendable.total fun entry => entry.2.nonIncremental.count id + entry.2.incremental.count id

variable {map : StreamMap}

theorem queued_of_queuedTimes {id : Nat} (some : 1 ≤ map.queuedTimes id) : map.Queued id := by
  by_contra absent
  have none : map.queuedTimes id ≤ map.sendable.total fun _ => 0 := by
    refine OrdMap.total_le_total fun entry member => ?_
    have missing : id ∉ entry.2.nonIncremental ∧ id ∉ entry.2.incremental :=
      ⟨fun inside => absent ⟨entry, member, .inl inside⟩,
        fun inside => absent ⟨entry, member, .inr inside⟩⟩
    rw [List.count_eq_zero.mpr missing.1, List.count_eq_zero.mpr missing.2]
  have zero : map.sendable.total (fun _ => 0) = 0 := by simp [OrdMap.total]
  omega

theorem queuedTimes_of_sendable {before after : StreamMap}
    (same : after.sendable = before.sendable) (id : Nat) :
    after.queuedTimes id = before.queuedTimes id := by
  rw [queuedTimes, same, queuedTimes]

/-! ## The queue -/

variable {queue : StreamPriorityQueue} {urgency : Nat}

theorem queuedTimes_insert
    (found : map.sendable.get? urgency = some queue) (next : StreamPriorityQueue) (id : Nat) :
    queuedTimes { map with sendable := map.sendable.insert urgency next } id +
        (queue.nonIncremental.count id + queue.incremental.count id) =
      map.queuedTimes id + (next.nonIncremental.count id + next.incremental.count id) :=
  OrdMap.total_insert _ next found

private theorem queuedTimes_erase (found : map.sendable.get? urgency = some queue) (id : Nat) :
    queuedTimes { map with sendable := map.sendable.erase urgency } id +
        (queue.nonIncremental.count id + queue.incremental.count id) = map.queuedTimes id :=
  OrdMap.total_erase _ found

theorem count_single (id other : Nat) : [id].count other = if other = id then 1 else 0 := by
  by_cases same : other = id
  · rw [if_pos same, same]
    exact List.count_singleton_self
  · rw [if_neg same]
    exact List.count_eq_zero.mpr fun member => same (List.mem_singleton.mp member)

theorem count_first (first id : Nat) (rest : List Nat) :
    (first :: rest).count id = [first].count id + rest.count id :=
  @List.count_append _ _ id [first] rest

private theorem queuedTimes_pushSendable (map : StreamMap) (id urgency : Nat) (incremental : Bool)
    (other : Nat) :
    (map.pushSendable id urgency incremental).queuedTimes other =
      map.queuedTimes other + if other = id then 1 else 0 := by
  rw [← count_single]
  have appended : ∀ queue : StreamPriorityQueue,
      (queue.incremental ++ [id]).count other = queue.incremental.count other + [id].count other :=
    fun _ => List.count_append
  have inserted : ∀ queue : StreamPriorityQueue,
      (queue.nonIncremental.orderedInsert (· ≤ ·) id).count other =
        queue.nonIncremental.count other + [id].count other := by
    intro queue
    rw [(List.perm_orderedInsert (· ≤ ·) id queue.nonIncremental).count_eq other, count_first,
      Nat.add_comm]
  unfold pushSendable
  cases level : map.sendable.get? urgency with
  | none =>
    rw [queuedTimes, OrdMap.total_insert_fresh _ _ level]
    cases incremental with
    | true => simp [queuedTimes]
    | false => simp [queuedTimes]
  | some queue =>
    cases incremental with
    | true =>
      have replaced := queuedTimes_insert level
        { queue with incremental := queue.incremental ++ [id] } other
      dsimp only [Option.getD_some] at replaced ⊢
      rw [appended queue] at replaced
      simp only [if_true]
      omega
    | false =>
      have replaced := queuedTimes_insert level
        { queue with nonIncremental := queue.nonIncremental.orderedInsert (· ≤ ·) id } other
      dsimp only [Option.getD_some] at replaced ⊢
      rw [inserted queue] at replaced
      simp only [Bool.false_eq_true, if_false]
      omega

theorem queuedTimes_popped (map : StreamMap) {urgency id : Nat}
    (popped : StreamPriorityQueue) (found : map.sendable.first? = some (urgency, queue))
    (counted : ∀ other, popped.nonIncremental.count other + popped.incremental.count other +
      [id].count other = queue.nonIncremental.count other + queue.incremental.count other)
    (other : Nat) :
    (if popped.nonIncremental.isEmpty && popped.incremental.isEmpty then
        { map with sendable := map.sendable.erase urgency }
      else { map with sendable := map.sendable.insert urgency popped }).queuedTimes other +
      [id].count other = map.queuedTimes other := by
  have present := OrdMap.get?_eq_some_iff.mpr (OrdMap.first?_mem found)
  have erased := queuedTimes_erase present other
  have replaced := queuedTimes_insert present popped other
  have fewer := counted other
  split_ifs with emptied
  · rw [Bool.and_eq_true, List.isEmpty_iff, List.isEmpty_iff] at emptied
    rw [emptied.1, emptied.2, List.count_nil] at fewer
    omega
  · omega

/-- The look at the front drops no entry, and its removal drops one. -/
theorem queuedTimes_peekSendable (map : StreamMap) :
    (∀ other, map.peekSendable.2.queuedTimes other = map.queuedTimes other) ∧
      ∀ id, map.peekSendable.1 = some id → ∀ other,
        map.peekSendable.2.removeSendable.queuedTimes other + [id].count other =
          map.queuedTimes other := by
  unfold peekSendable
  cases found : map.sendable.first? with
  | none => exact ⟨fun _ => rfl, fun id known => by cases known⟩
  | some entry =>
    obtain ⟨urgency, queue⟩ := entry
    cases nonIncremental : queue.nonIncremental with
    | cons first rest =>
      simp only [nonIncremental, Option.some.injEq]
      refine ⟨fun _ => trivial, ?_⟩
      rintro id rfl other
      rw [removeSendable, found]
      simp only [nonIncremental]
      refine queuedTimes_popped map ⟨rest, queue.incremental⟩ found (fun other => ?_) other
      have split := count_first first other rest
      rw [nonIncremental]
      dsimp only
      omega
    | nil =>
      cases incremental : queue.incremental with
      | nil =>
        simp only [nonIncremental, incremental]
        exact ⟨fun _ => trivial, fun id known => by cases known⟩
      | cons first rest =>
        simp only [nonIncremental, incremental, Option.some.injEq]
        have same : ∀ other, queuedTimes { map with
            sendable := map.sendable.insert urgency ⟨[], rest ++ [first]⟩ } other =
            map.queuedTimes other := by
          intro other
          have replaced := queuedTimes_insert
            (OrdMap.get?_eq_some_iff.mpr (OrdMap.first?_mem found))
            ⟨[], rest ++ [first]⟩ other
          rw [nonIncremental, incremental, count_first] at replaced
          dsimp only at replaced
          rw [List.count_append] at replaced
          omega
        refine ⟨same, ?_⟩
        rintro id rfl other
        have first? := OrdMap.first?_insert_first ⟨[], rest ++ [first]⟩ found
        rw [← same other, removeSendable, first?]
        refine queuedTimes_popped
          { map with sendable := map.sendable.insert urgency ⟨[], rest ++ [first]⟩ }
          ⟨[], (rest ++ [first]).dropLast⟩ first? (fun other => ?_) other
        dsimp only
        rw [List.dropLast_concat, List.count_append]
        omega

/-! ## The order of sending -/

def takenFrom : List (Nat × StreamPriorityQueue) → List Nat
  | [] => []
  | (_, queue) :: rest =>
    if queue.nonIncremental.isEmpty && queue.incremental.isEmpty then []
    else queue.nonIncremental ++ (queue.incremental ++ takenFrom rest)

def sendOrder (map : StreamMap) : List Nat := takenFrom map.sendable.entries

theorem sendOrder_insert {old queue : StreamPriorityQueue} {rest : List (Nat × StreamPriorityQueue)}
    (shape : map.sendable.entries = (urgency, old) :: rest)
    (filled : (queue.nonIncremental.isEmpty && queue.incremental.isEmpty) = false) :
    sendOrder { map with sendable := map.sendable.insert urgency queue } =
      queue.nonIncremental ++ (queue.incremental ++ takenFrom rest) := by
  rw [sendOrder, OrdMap.entries_insert_first shape, takenFrom, filled]
  rfl

theorem sendOrder_popped {old popped : StreamPriorityQueue}
    {rest : List (Nat × StreamPriorityQueue)}
    (shape : map.sendable.entries = (urgency, old) :: rest) :
    sendOrder (if popped.nonIncremental.isEmpty && popped.incremental.isEmpty then
        { map with sendable := map.sendable.erase urgency }
      else { map with sendable := map.sendable.insert urgency popped }) =
      popped.nonIncremental ++ (popped.incremental ++ takenFrom rest) := by
  split_ifs with emptied
  · rw [sendOrder, OrdMap.entries_erase_first shape]
    rw [Bool.and_eq_true, List.isEmpty_iff, List.isEmpty_iff] at emptied
    rw [emptied.1, emptied.2]
    rfl
  · exact sendOrder_insert shape (Bool.eq_false_of_not_eq_true emptied)

theorem peekSendable_nil (empty : map.sendOrder = []) : map.peekSendable = (none, map) := by
  unfold peekSendable OrdMap.first?
  cases shape : map.sendable.entries with
  | nil => rfl
  | cons entry rest =>
    obtain ⟨urgency, ⟨nonIncremental, incremental⟩⟩ := entry
    rw [sendOrder, shape, takenFrom] at empty
    cases nonIncremental with
    | cons first later => cases empty
    | nil =>
      cases incremental with
      | cons first later => cases empty
      | nil => rfl

theorem peekSendable_cons {id : Nat} {later : List Nat} (order : map.sendOrder = id :: later) :
    ∃ middle, map.peekSendable = (some id, middle) ∧ middle.removeSendable.sendOrder = later := by
  unfold peekSendable OrdMap.first?
  cases shape : map.sendable.entries with
  | nil =>
    rw [sendOrder, shape] at order
    cases order
  | cons entry rest =>
    obtain ⟨urgency, ⟨nonIncremental, incremental⟩⟩ := entry
    rw [sendOrder, shape, takenFrom] at order
    cases nonIncremental with
    | cons first others =>
      cases order
      refine ⟨map, rfl, ?_⟩
      rw [removeSendable, OrdMap.first?, shape]
      exact sendOrder_popped shape
    | nil =>
      cases incremental with
      | nil => cases order
      | cons first others =>
        cases order
        have rotated := OrdMap.entries_insert_first shape
          (⟨[], others ++ [id]⟩ : StreamPriorityQueue)
        refine ⟨_, rfl, ?_⟩
        rw [removeSendable, OrdMap.first?, rotated]
        refine (sendOrder_popped rotated).trans ?_
        rw [List.dropLast_concat]
        rfl

/-! ## Operations that leave the queue alone -/

private theorem getOrCreate_sendable (map : StreamMap) (id : Nat) (byLocal : Bool) :
    (map.getOrCreate id byLocal).2.sendable = map.sendable := by
  rcases getOrCreate_cases map id byLocal with
    ⟨error, after, result, _, rest, _⟩ | ⟨stream, after, result, _, rest⟩
  · rw [result]
    exact rest.sendable
  · rw [result]
    exact rest.sendable

private theorem markClosed_sendable (map : StreamMap) (id : Nat) (byLocal : Bool) :
    (map.markClosed id byLocal).sendable = map.sendable := by
  have credit : (map.giveBackCredit id byLocal).sendable = map.sendable :=
    (giveBackCredit_quiet map id byLocal).2.1.sendable
  unfold markClosed
  split
  · rfl
  · dsimp only
    generalize map.giveBackCredit id byLocal = credited at credit ⊢
    cases found : ((credited.markReadable id false).markWritable id false).get id with
    | none =>
      dsimp only
      split
      · exact credit
      · unfold streamDestroy
        rw [found]
        exact credit
    | some stream =>
      dsimp only
      split
      · exact credit
      · unfold streamDestroy
        split <;> exact credit

private theorem want_sendable (map : StreamMap) (id : Nat) (mark : Stream → Except Error Stream) :
    (map.want id mark).2.sendable = map.sendable := by
  unfold want
  cases map.get id with
  | none => rfl
  | some stream =>
    dsimp only
    cases mark stream <;> rfl

theorem Part.sendable {queues : Prop} {map after : StreamMap} (part : Part queues map after)
    (other : ¬ queues) : after.sendable = map.sendable := by
  cases part with
  | marked same =>
    have sendable := congrArg StreamMap.sendable same
    exact sendable
  | queued allowed => exact absurd allowed other
  | opened id byLocal => exact getOrCreate_sendable map id byLocal
  | closed => exact markClosed_sendable map _ _
  | set | consumed | received | widened | overdue | streamsBlocked | streamsGranted |
    streamsAdvertised => rfl

theorem processEvent_sendable {map after : StreamMap} (processed : map.processEvent = some after) :
    after.sendable = map.sendable := by
  unfold processEvent at processed
  split at processed
  · dsimp only at processed
    split at processed
    · cases processed
      rfl
    · cases processed
      unfold streamDestroy
      split <;> rfl
  · cases processed

/-! ## Operations that may queue a stream -/

theorem noteSendable_times (map : StreamMap) (id : Nat) (stream : Stream)
    (wasSendable emptyFin : Bool) (other : Nat) :
    (map.noteSendable id stream wasSendable emptyFin).queuedTimes other = map.queuedTimes other +
      if other = id ∧ ((stream.isSendable || emptyFin) && !wasSendable) = true then 1 else 0 := by
  unfold noteSendable
  by_cases woken : ((stream.isSendable || emptyFin) && !wasSendable) = true
  · rw [if_pos woken, queuedTimes_pushSendable, if_congr (and_iff_left woken) rfl rfl]
  · rw [if_neg woken, if_neg fun both => woken both.2, Nat.add_zero]

private theorem noteWritten_times (map : StreamMap) (id : Nat) (stream : Stream)
    (wasWritable wasSendable blockedByCap emptyFin : Bool) (expectWritten bufLen written other : Nat) :
    (map.noteWritten id stream wasWritable wasSendable blockedByCap emptyFin expectWritten bufLen
        written).2.queuedTimes other = map.queuedTimes other +
      if other = id ∧ ((stream.isSendable || emptyFin) && !wasSendable) = true then 1 else 0 := by
  have blocked : (map.noteBlocked id stream bufLen written).sendable = map.sendable := by
    unfold noteBlocked
    dsimp only
    split
    · split <;> rfl
    · rfl
  have noted : (map.noteWritten id stream wasWritable wasSendable blockedByCap emptyFin
      expectWritten bufLen written).2.sendable =
      ((map.noteBlocked id stream bufLen written).noteSendable id stream wasSendable
        emptyFin).sendable := by
    unfold noteWritten
    dsimp only
    split
    · refine (want_sendable _ id _).trans ?_
      split
      · rfl
      · split <;> rfl
    · split
      · rfl
      · split <;> rfl
  rw [queuedTimes_of_sendable noted, noteSendable_times, queuedTimes_of_sendable blocked]

private theorem noteWritten_ok {id : Nat} {stream : Stream}
    {wasWritable wasSendable blockedByCap emptyFin : Bool}
    {expectWritten bufLen written count : Nat}
    (success : (map.noteWritten id stream wasWritable wasSendable blockedByCap emptyFin
      expectWritten bufLen written).1 = .ok count) : count = written := by
  unfold noteWritten at success
  dsimp only at success
  split_ifs at success
  cases success
  rfl

inductive WriteCase (map after : StreamMap) (id : Nat) (buf : Bytes) (fin : Bool) :
    Except Error Nat → Prop where
  | refused {error} (sendable : after.sendable = map.sendable)
      (kept : Quiet map after ∨ ∃ old new, Held map after id old new ∧ new.send = old.send) :
      WriteCase map after id buf fin (.error error)
  | stored {old new send kept finKept count outcome} (held : Held map after id old new)
      (wrote : old.send.write kept finKept = .ok (count, send))
      (same : ∃ blockedAt, new.send = { send with blockedAt })
      (cut : kept = buf ∧ finKept = fin ∨ finKept = false ∧ kept.length < buf.length)
      (whole : ∀ written, outcome = .ok written → written = count)
      -- An end without data counts as something to send.
      (times : ∀ other, after.queuedTimes other = map.queuedTimes other +
        if other = id ∧ ((new.isSendable || (kept.length = 0 && finKept)) && !old.isSendable) = true
        then 1 else 0) : WriteCase map after id buf fin outcome

/-- All that a write to a stream may do. -/
theorem streamWrite_cases (map : StreamMap) (id : Nat) (buf : Bytes) (fin : Bool) :
    WriteCase map (map.streamWrite id buf fin).2 id buf fin (map.streamWrite id buf fin).1 := by
  rw [streamWrite]
  split
  case isTrue => exact .refused rfl (.inl (Quiet.refl map))
  case isFalse =>
    obtain ⟨blockedAt, started⟩ := World.noteBlocked_eq map buf.length
    simp only [started]
    have marked := (World.updateDataBlockedAt_quiet map blockedAt).1
    rcases getOrCreate_cases (map.updateDataBlockedAt blockedAt) id true with
      ⟨error, after, opened, quiet, rest, _⟩ | ⟨stream, after, opened, created, rest⟩
    · simp only [opened]
      exact .refused rest.sendable (.inl (marked.trans quiet))
    · have held := World.held_of_updateDataBlockedAt created
      have queue : after.sendable = map.sendable := rest.sendable
      simp only [opened]
      split
      case isTrue =>
        have aside : Aside after
            (if stream.isWritable then after.markWritable id true else after) :=
          .ite (markWritable_aside _ _ _) (.refl _)
        obtain ⟨final, flagged, same, _, sameSend⟩ := wantWrite_held (held.quiet aside.quiet) true
        exact .refused (same.sendable.trans (aside.rest.sendable.trans queue))
          (.inr ⟨stream, final, flagged, sameSend⟩)
      case isFalse =>
        split
        case h_1 =>
          exact .refused queue
            (.inr ⟨stream, stream, held.quiet (markWritable_aside _ _ _).quiet, rfl⟩)
        case h_2 count send wrote =>
          generalize result : (StreamMap.noteWritten _ _ _ _ _ _ _ _ _ _) = noted
          obtain ⟨final, stored, _, ⟨limit, sameSend⟩, _⟩ :=
            noteWritten_held held (congrArg Prod.snd result)
          refine .stored stored wrote ⟨limit, sameSend⟩ ?cut ?whole ?times
          case cut =>
            split_ifs with blocked
            · refine .inr ⟨rfl, ?_⟩
              rw [List.length_take]
              exact lt_of_le_of_lt (Nat.min_le_left _ _) (of_decide_eq_true blocked)
            · exact .inl ⟨rfl, rfl⟩
          case whole =>
            intro written success
            rw [← result] at success
            exact noteWritten_ok success
          case times =>
            intro other
            have sendable : final.isSendable = Stream.isSendable { stream with send } := by
              rw [Stream.isSendable, Stream.isSendable, sameSend]
              rfl
            rw [← result, noteWritten_times, queuedTimes_of_sendable queue, sendable]

end StreamMap

namespace World

open StreamMap

theorem Moved.sendable {map after : StreamMap} {op : Op} (moved : Moved map op after)
    (other : ¬ TouchesQueue op) : after.sendable = map.sendable := by
  rcases moved.parts with parts | processed | due
  · exact parts.keep (fun before after => after.sendable = before.sendable) (fun _ => rfl)
      (fun former latter => latter.trans former) fun part => part.sendable other
  · exact processEvent_sendable processed
  · obtain ⟨_, _, rfl⟩ := due.apart
    rfl

end World

end Tquic.Connection
