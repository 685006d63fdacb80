import Mathlib.Data.List.Basic

/-! Readers that consume a list from the front and writers that fill a bounded buffer,
with the rules that a reader accepts what a writer produced. -/

set_option autoImplicit false

namespace Tquic.Lib

universe u

variable {β ε δ α γ : Type u}

abbrev Reader (β ε α : Type u) := StateT (List β) (Except ε) α

/-- A buffer: what was written and how much may still be written. -/
structure Sink (β : Type u) where
  written : List β
  room : Nat

abbrev Writer (β ε α : Type u) := StateT (Sink β) (Except ε) α

/-- Take `count` elements, or fail with `short`. -/
def Reader.take (short : ε) (count : Nat) : Reader β ε (List β) := fun input =>
  if input.length < count then .error short else .ok (input.take count, input.drop count)

/-- Append `output`, or fail with `short`. -/
def Writer.put (short : ε) (output : List β) : Writer β ε PUnit := fun sink =>
  if sink.room < output.length then .error short
  else .ok (⟨⟩, { written := sink.written ++ output, room := sink.room - output.length })

/-- The same steps under the errors of a caller. -/
def mapError {σ : Type u} (f : ε → δ) (steps : StateT σ (Except ε) α) : StateT σ (Except δ) α :=
  fun state => (steps.run state).mapError f

/-- What was written before stays in front. -/
def Appends (writer : Writer β ε α) : Prop :=
  ∀ sink value after, writer.run sink = .ok (value, after) →
    ∃ output, after.written = sink.written ++ output

def Writer.measured {β ε : Type} (writer : Writer β ε Unit) : Writer β ε Nat := do
  let start ← get
  writer
  let stop ← get
  return start.room - stop.room

/-- The reader turns `input` into `value`, whatever follows. -/
def Reads (reader : Reader β ε α) (input : List β) (value : α) : Prop :=
  ∀ rest, reader.run (input ++ rest) = .ok (value, rest)

/-- The writer appends `output` to every buffer with room for it. -/
def Writes (writer : Writer β ε α) (output : List β) (value : α) : Prop :=
  ∀ sink, output.length ≤ sink.room → writer.run sink =
    .ok (value, { written := sink.written ++ output, room := sink.room - output.length })

/-- The writer succeeds on every buffer with `bound` bytes of room, and needs no more of it. -/
def WritesWithin (writer : Writer β ε α) (bound : Nat) : Prop :=
  ∃ output value, Writes writer output value ∧ output.length ≤ bound

/-- The writer appends `output` to a buffer with room for it, and fails on every other. -/
structure Fills (writer : Writer β ε α) (output : List β) (value : α) : Prop where
  writes : Writes writer output value
  refuses : ∀ sink, sink.room < output.length → ∃ error, writer.run sink = .error error

structure Costs (allowed : ε → Prop) (writer : Writer β ε α) (len : Nat) : Prop where
  length : ∀ sink value after, writer.run sink = .ok (value, after) →
    after.written.length = sink.written.length + len
  fails : ∀ sink error, writer.run sink = .error error → allowed error

/-- What the steps return meets the condition. -/
def Yields {σ : Type u} (condition : α → Prop) (steps : StateT σ (Except ε) α) : Prop :=
  ∀ before value after, steps.run before = .ok (value, after) → condition value

theorem Reads.pure (value : α) : Reads (Pure.pure value : Reader β ε α) [] value :=
  fun _ => rfl

variable {reader : Reader β ε α} {value : α} {result : γ} {next : α → Reader β ε γ}

theorem Reads.run_bind {first rest left : List β}
    (head : Reads reader first value) (tail : (next value).run rest = .ok (result, left)) :
    (reader >>= next).run (first ++ rest) = .ok (result, left) := by
  rw [StateT.run_bind, head rest]
  exact tail

theorem Reads.run_bind_error {first rest : List β} {error : ε} (head : Reads reader first value)
    (tail : (next value).run rest = .error error) :
    (reader >>= next).run (first ++ rest) = .error error := by
  rw [StateT.run_bind, head rest]
  exact tail

variable {first second : List β}

theorem Reads.bind (head : Reads reader first value) (tail : Reads (next value) second result) :
    Reads (reader >>= next) (first ++ second) result := by
  intro rest
  rw [List.append_assoc]
  exact head.run_bind (tail rest)

variable {input : List β}

theorem Reads.last (reads : Reads reader input value)
    (finish : next value = Pure.pure result) : Reads (reader >>= next) input result := by
  have step := reads.bind (finish ▸ Reads.pure result : Reads (next value) [] result)
  rwa [List.append_nil] at step

theorem Reads.map (reads : Reads reader input value)
    (f : α → γ) : Reads (f <$> reader) input (f value) := by
  intro rest
  rw [StateT.run_map, reads rest]
  rfl

theorem Reads.take (short : ε) (input : List β) : Reads (Reader.take short input.length) input input := by
  intro rest
  simp [Reader.take, StateT.run]

theorem run_mapError_ok {σ : Type u} {f : ε → δ} {steps : StateT σ (Except ε) α} {before after : σ}
    (ran : steps.run before = .ok (value, after)) :
    (mapError f steps).run before = .ok (value, after) := by
  change (steps.run before).mapError f = _
  rw [ran]
  rfl

theorem run_of_mapError_ok {σ : Type u} {f : ε → δ} {steps : StateT σ (Except ε) α}
    {before after : σ} (ran : (mapError f steps).run before = .ok (value, after)) :
    steps.run before = .ok (value, after) := by
  change (steps.run before).mapError f = _ at ran
  cases got : steps.run before with
  | error error =>
      rw [got] at ran
      cases ran
  | ok result =>
      rw [got] at ran
      cases ran
      rfl

theorem Reads.mapError
    (reads : Reads reader input value) (f : ε → δ) : Reads (mapError f reader) input value :=
  fun rest => run_mapError_ok (reads rest)

theorem bind_ok {steps : Except ε α} {next : α → Except ε γ} :
    (steps >>= next) = .ok result ↔ ∃ value, steps = .ok value ∧ next value = .ok result := by
  cases steps with
  | error error =>
      refine Iff.intro (fun ran => by cases ran) ?_
      rintro ⟨_, ran, _⟩
      cases ran
  | ok value =>
      refine Iff.intro (fun ran => ⟨value, rfl, ran⟩) ?_
      rintro ⟨_, ran, rest⟩
      cases ran
      exact rest

theorem check_ok {bad : Prop} [Decidable bad] {error : ε} {next : PUnit → Except ε γ} :
    (if bad then throw error >>= next else next ⟨⟩) = .ok result ↔
      ¬ bad ∧ next ⟨⟩ = .ok result := by
  split_ifs with failed
  · exact iff_of_false (fun ran => by cases ran) fun passed => passed.1 failed
  · exact (and_iff_right failed).symm

/-- Two steps that succeeded one after the other. -/
theorem run_bind_ok {σ : Type u} {reader : StateT σ (Except ε) α} {next : α → StateT σ (Except ε) γ}
    {input rest : σ} :
    (reader >>= next).run input = .ok (result, rest) ↔
      ∃ value left, reader.run input = .ok (value, left) ∧
        (next value).run left = .ok (result, rest) := by
  rw [StateT.run_bind]
  cases first : reader.run input with
  | error error =>
      constructor
      · intro impossible
        cases impossible
      · rintro ⟨_, _, impossible, _⟩
        cases impossible
  | ok read =>
      constructor
      · intro second
        exact ⟨read.1, read.2, rfl, second⟩
      · rintro ⟨_, _, same, second⟩
        cases same
        exact second

theorem Yields.pure {σ : Type u} {condition : α → Prop} {value : α} (holds : condition value) :
    Yields condition (Pure.pure value : StateT σ (Except ε) α) := by
  intro before _ after ran
  cases ran
  exact holds

theorem Yields.throw {σ : Type u} {condition : α → Prop} (error : ε) :
    Yields condition (MonadExcept.throw error : StateT σ (Except ε) α) := by
  intro before _ after ran
  cases ran

theorem Yields.bind {σ : Type u} {condition : γ → Prop} {steps : StateT σ (Except ε) α}
    {next : α → StateT σ (Except ε) γ} (tail : ∀ value, Yields condition (next value)) :
    Yields condition (steps >>= next) := by
  intro before result after ran
  obtain ⟨value, middle, _, second⟩ := run_bind_ok.mp ran
  exact tail value middle result after second

theorem Reader.run_pure_ok {value result : α} {input rest : List β} :
    (Pure.pure value : Reader β ε α).run input = .ok (result, rest) ↔
      value = result ∧ input = rest := by
  constructor
  · intro returned
    cases returned
    exact ⟨rfl, rfl⟩
  · rintro ⟨rfl, rfl⟩
    rfl

theorem Reader.run_map_ok {f : α → γ} {input rest : List β} :
    (f <$> reader).run input = .ok (result, rest) ↔
      ∃ value, reader.run input = .ok (value, rest) ∧ f value = result := by
  rw [map_eq_pure_bind, run_bind_ok]
  constructor
  · rintro ⟨value, left, read, returned⟩
    obtain ⟨same, rfl⟩ := Reader.run_pure_ok.mp returned
    exact ⟨value, read, same⟩
  · rintro ⟨value, read, same⟩
    exact ⟨value, rest, read, Reader.run_pure_ok.mpr ⟨same, rfl⟩⟩

theorem Reader.run_take_ok {short : ε} {count : Nat} {input taken rest : List β}
    (read : (Reader.take short count).run input = .ok (taken, rest)) :
    taken.length = count ∧ input = taken ++ rest := by
  unfold Reader.take StateT.run at read
  dsimp only at read
  split_ifs at read with few
  cases read
  refine ⟨?_, (List.take_append_drop count input).symm⟩
  rw [List.length_take]
  omega

theorem Writes.pure (value : α) : Writes (Pure.pure value : Writer β ε α) [] value := by
  intro sink _
  change Except.ok (value, sink) =
    Except.ok (value, { written := sink.written ++ [], room := sink.room })
  rw [List.append_nil]

variable {writer : Writer β ε α}

theorem Writes.output_eq {value other : α}
    (left : Writes writer first value) (right : Writes writer second other) : first = second := by
  have ran := left { written := [], room := first.length + second.length } (Nat.le_add_right _ _)
  rw [right _ (Nat.le_add_left _ _)] at ran
  injection ran with results
  exact (congrArg (fun result => result.2.written) results).symm

theorem Writes.bind {next : α → Writer β ε γ} (head : Writes writer first value)
    (tail : Writes (next value) second result) :
    Writes (writer >>= next) (first ++ second) result := by
  intro sink fits
  rw [List.length_append] at fits
  have place := tail { written := sink.written ++ first, room := sink.room - first.length }
    (by dsimp only; omega)
  rw [StateT.run_bind, head sink (by omega)]
  refine place.trans ?_
  rw [List.append_assoc, List.length_append, Nat.sub_sub]

variable {output : List β}

theorem Writes.within (writes : Writes writer output value) : WritesWithin writer output.length :=
  ⟨output, value, writes, Nat.le_refl _⟩

theorem WritesWithin.mono {less more : Nat}
    (within : WritesWithin writer less) (le : less ≤ more) : WritesWithin writer more := by
  obtain ⟨output, value, writes, few⟩ := within
  exact ⟨output, value, writes, Nat.le_trans few le⟩

theorem WritesWithin.bind {next : α → Writer β ε γ} {first second : Nat}
    (head : WritesWithin writer first) (tail : ∀ value, WritesWithin (next value) second) :
    WritesWithin (writer >>= next) (first + second) := by
  obtain ⟨front, value, writes, few⟩ := head
  obtain ⟨back, result, following, less⟩ := tail value
  refine ⟨front ++ back, result, writes.bind following, ?_⟩
  rw [List.length_append]
  exact Nat.add_le_add few less

theorem Writes.mapError
    (writes : Writes writer output value) (f : ε → δ) : Writes (mapError f writer) output value :=
  fun sink fits => run_mapError_ok (writes sink fits)

theorem Writes.put (short : ε) (output : List β) : Writes (Writer.put short output) output ⟨⟩ := by
  intro sink fits
  have room : ¬ sink.room < output.length := by omega
  simp [Writer.put, StateT.run, room]

theorem Fills.pure (value : α) : Fills (Pure.pure value : Writer β ε α) [] value where
  writes := Writes.pure value
  refuses sink short := absurd short (Nat.not_lt_zero sink.room)

theorem Fills.put (short : ε) (output : List β) : Fills (Writer.put short output) output ⟨⟩ where
  writes := Writes.put short output
  refuses _ few := ⟨short, if_pos few⟩

theorem Fills.bind {next : α → Writer β ε γ} (head : Fills writer first value)
    (tail : Fills (next value) second result) :
    Fills (writer >>= next) (first ++ second) result where
  writes := head.writes.bind tail.writes
  refuses sink few := by
    rw [List.length_append] at few
    rw [StateT.run_bind]
    by_cases fits : first.length ≤ sink.room
    · have left : sink.room - first.length < second.length := by omega
      obtain ⟨error, failed⟩ := tail.refuses
        { written := sink.written ++ first, room := sink.room - first.length } left
      rw [head.writes sink fits]
      exact ⟨error, failed⟩
    · obtain ⟨error, failed⟩ := head.refuses sink (Nat.lt_of_not_le fits)
      rw [failed]
      exact ⟨error, rfl⟩

theorem Writes.measured {β ε : Type} {writer : Writer β ε Unit} {output : List β}
    (writes : Writes writer output ()) : Writes (Writer.measured writer) output output.length := by
  intro sink fits
  simp only [Writer.measured, StateT.run_bind, StateT.run_get, pure_bind, writes sink fits]
  change Except.ok (sink.room - (sink.room - output.length), _) = _
  rw [Nat.sub_sub_self fits]

theorem Writer.run_put_ok {short : ε} {sink after : Sink β} {value : PUnit}
    (ran : (Writer.put short output).run sink = .ok (value, after)) :
    after.written = sink.written ++ output := by
  unfold Writer.put StateT.run at ran
  dsimp only at ran
  split_ifs at ran
  cases ran
  rfl

theorem Appends.put (short : ε) (output : List β) : Appends (Writer.put short output) :=
  fun _ _ _ ran => ⟨output, Writer.run_put_ok ran⟩

theorem Appends.pure (value : α) : Appends (Pure.pure value : Writer β ε α) := by
  intro sink _ after ran
  cases ran
  exact ⟨[], (List.append_nil _).symm⟩

theorem Appends.throw (error : ε) : Appends (MonadExcept.throw error : Writer β ε α) := by
  intro sink _ after ran
  cases ran

theorem Appends.bind {next : α → Writer β ε γ} (head : Appends writer)
    (tail : ∀ value, Appends (next value)) : Appends (writer >>= next) := by
  intro sink result after ran
  obtain ⟨value, middle, first, second⟩ := run_bind_ok.mp ran
  obtain ⟨front, written⟩ := head sink value middle first
  obtain ⟨back, appended⟩ := tail value middle result after second
  refine ⟨front ++ back, ?_⟩
  rw [appended, written, List.append_assoc]

section Costs

variable {allowed : ε → Prop}

theorem Costs.pure (value : α) : Costs allowed (Pure.pure value : Writer β ε α) 0 where
  length sink _ after ran := by
    cases ran
    rfl
  fails sink error ran := by cases ran

theorem Costs.throw {error : ε} (fine : allowed error) (len : Nat) :
    Costs allowed (MonadExcept.throw error : Writer β ε α) len where
  length sink _ after ran := by cases ran
  fails sink _ ran := by
    cases ran
    exact fine

theorem Costs.put {short : ε} (fine : allowed short) (output : List β) :
    Costs allowed (Writer.put short output) output.length where
  length sink _ after ran := by rw [Writer.run_put_ok ran, List.length_append]
  fails sink error ran := by
    unfold Writer.put StateT.run at ran
    dsimp only at ran
    split_ifs at ran
    cases ran
    exact fine

theorem Costs.bind {writer : Writer β ε α} {next : α → Writer β ε γ} {first second : Nat}
    (head : Costs allowed writer first) (tail : ∀ value, Costs allowed (next value) second) :
    Costs allowed (writer >>= next) (first + second) where
  length sink result after ran := by
    obtain ⟨value, middle, ahead, behind⟩ := run_bind_ok.mp ran
    rw [(tail value).length middle result after behind, head.length sink value middle ahead,
      Nat.add_assoc]
  fails sink error ran := by
    rw [StateT.run_bind] at ran
    cases ahead : writer.run sink with
    | error other =>
        rw [ahead] at ran
        cases ran
        exact head.fails sink error ahead
    | ok reached =>
        rw [ahead] at ran
        exact (tail reached.1).fails reached.2 error ran

end Costs

end Tquic.Lib
