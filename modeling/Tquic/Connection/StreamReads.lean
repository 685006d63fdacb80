import Tquic.Connection.RecvBufProperties
import Tquic.Connection.StreamSteps

/-! What a read does to a stream of the map, in any state of the receive buffer. -/

set_option autoImplicit false

namespace Tquic.Connection

open Lib

namespace RecvBuf

private theorem readLoop_lighter {fuel : Nat} {recv : RecvBuf} {cap : Nat} {out : Bytes} :
    ∃ bytes, (recv.readLoop fuel cap out).2 = out ++ bytes ∧ bytes.length ≤ cap ∧
      (recv.readLoop fuel cap out).1.weight + bytes.length ≤ recv.weight ∧
      (0 < fuel → 0 < cap → recv.ready = true →
        (recv.readLoop fuel cap out).1.weight < recv.weight) := by
  induction fuel generalizing recv cap out with
  | zero =>
    refine ⟨[], (List.append_nil out).symm, Nat.zero_le cap, ?_, fun positive => ?_⟩
    · exact le_refl _
    · exact absurd positive (lt_irrefl 0)
  | succ fuel ih =>
    rw [readLoop]
    split_ifs with idle
    · refine ⟨[], (List.append_nil out).symm, Nat.zero_le cap, le_refl _, ?_⟩
      intro _ room ready
      simp only [Bool.or_eq_true, decide_eq_true_eq, Bool.not_eq_eq_eq_not, Bool.not_true] at idle
      rcases idle with full | unready
      · omega
      · simp [ready] at unready
    · simp only [Bool.or_eq_true, decide_eq_true_eq, Bool.not_eq_eq_eq_not, Bool.not_true,
        not_or, Bool.not_eq_false] at idle
      obtain ⟨key, buf, found, _⟩ := ready_iff.mp idle.2
      have present := OrdMap.get?_eq_some_iff.mpr (OrdMap.first?_mem found)
      have taken : (buf.data.take (min buf.len cap)).length = min buf.len cap :=
        List.length_take_of_le (Nat.min_le_left _ _)
      simp only [found]
      split_ifs with some_left
      · have replaced := OrdMap.total_insert (fun entry => entry.2.len + 1)
          (buf.advance (min buf.len cap)) present
        simp only [RangeBuf.advance_len] at replaced
        refine ⟨_, rfl, by omega, ?_, fun _ _ _ => ?_⟩ <;> simp only [weight] <;> omega
      · obtain ⟨bytes, output, bounded, lighter, _⟩ := @ih
          { recv with readOff := recv.readOff + min buf.len cap, data := recv.data.erase key }
          (cap - min buf.len cap) (out ++ buf.data.take (min buf.len cap))
        have removed := OrdMap.total_erase (fun entry => entry.2.len + 1) present
        simp only [weight] at lighter removed
        refine ⟨_, output.trans (List.append_assoc _ _ _), ?_, ?_, fun _ _ _ => ?_⟩
        · rw [List.length_append, taken]
          omega
        · simp only [weight, List.length_append, taken]
          omega
        · simp only [weight]
          omega

/-- What a read returns and what it leaves. -/
inductive ReadResult (recv : RecvBuf) (outLen : Nat) :
    Except Error (Bytes × Bool) × RecvBuf → Prop where
  | failed {error after} (reason : error = .done ∨ ∃ errorCode, error = .streamReset errorCode)
      (weight : after.weight ≤ recv.weight) : ReadResult recv outLen (.error error, after)
  | read {bytes fin after} (bounded : bytes.length ≤ outLen)
      (weight : after.weight + bytes.length ≤ recv.weight)
      (lighter : 0 < outLen → after.weight < recv.weight) :
      ReadResult recv outLen (.ok (bytes, fin), after)

theorem read_result (recv : RecvBuf) (outLen : Nat) : ReadResult recv outLen (recv.read outLen) := by
  rw [RecvBuf.read]
  cases ready : recv.ready with
  | false => exact .failed (.inl rfl) (le_refl _)
  | true =>
    cases failed : recv.error with
    | some errorCode => exact .failed (.inr ⟨errorCode, rfl⟩) (Nat.zero_le _)
    | none =>
      obtain ⟨bytes, output, bounded, weight, lighter⟩ :=
        @readLoop_lighter recv.data.size recv outLen []
      have filled : 0 < recv.data.size := by
        obtain ⟨key, buf, found, _⟩ := ready_iff.mp ready
        have := OrdMap.size_erase_lt (OrdMap.first?_mem found)
        omega
      simp only [Bool.not_true, Bool.false_eq_true, ↓reduceIte, output, List.nil_append]
      exact .read bounded weight fun room => lighter filled room ready

end RecvBuf

namespace StreamMap

/-- A read leaves the map alone, or it reads from the receive buffer of a stream. -/
inductive ReadEffect (map : StreamMap) (id outLen : Nat) :
    Except Error (Bytes × Bool) × StreamMap → Prop where
  | refused {error} (reason : error = .done ∨ error = .streamStateError) :
      ReadEffect map id outLen (.error error, map)
  | read {old new result after} (found : map.get id = some old) (ready : old.recv.ready = true)
      (returned : old.recv.read outLen = (result, new.recv))
      (touched : Touched map after id old new) : ReadEffect map id outLen (result, after)

/-- All that a read from a stream may do. -/
theorem streamRead_cases (map : StreamMap) (id outLen : Nat) :
    ReadEffect map id outLen (map.streamRead id outLen) := by
  rw [streamRead]
  split
  case isTrue => exact .refused (.inr rfl)
  case isFalse =>
    cases found : map.get id with
    | none => exact .refused (.inr rfl)
    | some stream =>
      simp only
      split
      case isTrue => exact .refused (.inl rfl)
      case isFalse readable =>
        have ready : stream.recv.ready = true := by simpa [Stream.isReadable] using readable
        cases outcome : stream.recv.read outLen with
        | mk result recv =>
          have held : Held map (map.setStream id { stream with recv }) id stream
              { stream with recv } := (Held.of_get found).set rfl rfl rfl
          cases result with
          | error error =>
            obtain ⟨closed, touched, _, _⟩ :=
              held.close (fun complete => complete) stream.byLocal
            exact .read found ready outcome (touched.quiet (markReadable_aside _ _ _).quiet)
          | ok delivered =>
            obtain ⟨bytes, fin⟩ := delivered
            have counted := counted_read (map.setStream id { stream with recv }) id
              bytes.length recv.shouldSendMaxData (!recv.ready)
            obtain ⟨closed, touched, _, _⟩ :=
              (held.quiet counted.quiet).close (fun complete => complete) stream.byLocal
            exact .read found ready outcome touched

theorem Touched.get_cases {before after : StreamMap} {id : Nat} {old new : Stream}
    (touched : Touched before after id old new) :
    after.get id = some new ∨ after.get id = none := by
  cases touched with
  | held held => exact .inl held.get
  | shut shut _ =>
    rcases shut.streams with ⟨kept, _⟩ | ⟨erased, _⟩
    · rw [StreamMap.get, kept]
      exact .inl (OrdMap.get?_insert_self _ _ _)
    · rw [StreamMap.get, erased]
      exact .inr (OrdMap.get?_erase_self _ _)

/-! ## Marks -/

private theorem markClosed_readable (map : StreamMap) (id : Nat) (byLocal : Bool) :
    (map.markClosed id byLocal).readable ⊆ map.readable := by
  have erased : (map.giveBackCredit id byLocal).readable.erase id ⊆ map.readable := by
    have same : (map.giveBackCredit id byLocal).readable = map.readable := by
      unfold giveBackCredit
      split_ifs <;> rfl
    rw [same]
    exact Finset.erase_subset _ _
  unfold markClosed
  split
  · exact Finset.Subset.refl _
  · dsimp only
    split
    all_goals
      split
      · exact erased
      · unfold streamDestroy
        split <;> exact erased

theorem closed_readable (map : StreamMap) (id : Nat) (byLocal condition : Bool) :
    (if condition then map.markClosed id byLocal else map).readable ⊆ map.readable := by
  split
  · exact markClosed_readable map id byLocal
  · exact Finset.Subset.refl _

theorem streamRead_readable (map : StreamMap) (id outLen : Nat) :
    (map.streamRead id outLen).2.readable ⊆ map.readable := by
  unfold streamRead
  split
  · exact Finset.Subset.refl _
  · split
    · exact Finset.Subset.refl _
    · split_ifs
      · exact Finset.Subset.refl _
      · dsimp only
        split
        · exact (Finset.erase_subset _ _).trans (closed_readable _ _ _ _)
        · refine (closed_readable _ _ _ _).trans ?_
          split_ifs
          all_goals first
            | exact Finset.erase_subset _ _
            | exact Finset.Subset.refl _

theorem streamShutdown_readable (map : StreamMap) (id err : Nat) :
    (map.streamShutdown id .read err).2.readable ⊆ map.readable := by
  unfold streamShutdown
  split
  · exact Finset.Subset.refl _
  · dsimp only
    unfold shutdownRead
    split_ifs
    · exact Finset.Subset.refl _
    · split
      · exact Finset.Subset.refl _
      · dsimp only
        split_ifs <;> exact Finset.erase_subset _ _

end StreamMap

end Tquic.Connection
