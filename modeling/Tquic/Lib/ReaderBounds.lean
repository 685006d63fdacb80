import Tquic.Lib.Wire

/-! Readers that never fail in a certain way, and readers that take something. -/

set_option autoImplicit false

namespace Tquic.Lib

universe u

variable {β ε δ α γ : Type u}

/-- The steps never fail with `bad`. -/
def Avoids {σ : Type u} (bad : ε) (steps : StateT σ (Except ε) α) : Prop :=
  ∀ state, steps.run state ≠ .error bad

theorem Avoids.pure {σ : Type u} {bad : ε} (value : α) :
    Avoids bad (Pure.pure value : StateT σ (Except ε) α) := by
  intro state failed
  cases failed

variable {bad : ε}

theorem Avoids.get {σ : Type u} : Avoids bad (MonadState.get : StateT σ (Except ε) σ) := by
  intro state failed
  cases failed

theorem Avoids.throw {σ : Type u} {bad error : ε} (other : error ≠ bad) :
    Avoids bad (throw error : StateT σ (Except ε) α) := by
  intro state failed
  exact other (Except.error.inj failed)

theorem Avoids.bind {σ : Type u} {steps : StateT σ (Except ε) α}
    {next : α → StateT σ (Except ε) γ} (head : Avoids bad steps)
    (tail : ∀ value, Avoids bad (next value)) : Avoids bad (steps >>= next) := by
  intro state failed
  rw [StateT.run_bind] at failed
  cases first : steps.run state with
  | error error =>
      rw [first] at failed
      cases Except.error.inj failed
      exact head state first
  | ok read =>
      rw [first] at failed
      exact tail read.1 read.2 failed

theorem Avoids.map {σ : Type u} {steps : StateT σ (Except ε) α} (head : Avoids bad steps)
    (f : α → γ) : Avoids bad (f <$> steps) := by
  rw [map_eq_pure_bind]
  exact head.bind fun _ => .pure _

theorem Avoids.ite {σ : Type u} {condition : Prop} [Decidable condition]
    {first second : StateT σ (Except ε) α} (held : condition → Avoids bad first)
    (failed : ¬condition → Avoids bad second) : Avoids bad (if condition then first else second) := by
  split_ifs with holds
  · exact held holds
  · exact failed holds

theorem Avoids.mapError {σ : Type u} {worse : δ} {f : ε → δ} {steps : StateT σ (Except ε) α}
    (avoids : Avoids bad steps) (only : ∀ error, f error = worse → error = bad) :
    Avoids worse (mapError f steps) := by
  intro state failed
  change (steps.run state).mapError f = _ at failed
  cases ran : steps.run state with
  | error error =>
      rw [ran] at failed
      exact avoids state (ran.trans (congrArg _ (only error (Except.error.inj failed))))
  | ok result =>
      rw [ran] at failed
      cases failed

theorem Avoids.take {bad short : ε} (other : short ≠ bad) (count : Nat) :
    Avoids bad (Reader.take short count : Reader β ε (List β)) := by
  intro input failed
  unfold Reader.take StateT.run at failed
  dsimp only at failed
  split_ifs at failed
  exact other (Except.error.inj failed)

/-- The reader takes at least `count` elements where it succeeds. -/
def Consumes (count : Nat) (reader : Reader β ε α) : Prop :=
  ∀ input value rest, reader.run input = .ok (value, rest) → rest.length + count ≤ input.length

theorem Consumes.pure (value : α) : Consumes 0 (Pure.pure value : Reader β ε α) := by
  intro input result rest read
  obtain ⟨_, rfl⟩ := Reader.run_pure_ok.mp read
  exact Nat.le_refl _

theorem Consumes.throw {count : Nat} (error : ε) : Consumes count (throw error : Reader β ε α) := by
  intro input result rest read
  cases read

variable {reader : Reader β ε α}

theorem Consumes.weaken {fewer more : Nat} (consumes : Consumes more reader)
    (less : fewer ≤ more) : Consumes fewer reader := by
  intro input value rest read
  have taken := consumes input value rest read
  omega

theorem Consumes.bind {count : Nat} {next : α → Reader β ε γ}
    (head : Consumes count reader) (tail : ∀ value, Consumes 0 (next value)) :
    Consumes count (reader >>= next) := by
  intro input result rest read
  obtain ⟨value, left, first, second⟩ := run_bind_ok.mp read
  have former := head input value left first
  have latter := tail value left result rest second
  omega

theorem Consumes.ite {count : Nat} {condition : Prop} [Decidable condition]
    {first second : Reader β ε α} (held : Consumes count first) (failed : Consumes count second) :
    Consumes count (if condition then first else second) := by
  split_ifs
  · exact held
  · exact failed

theorem Consumes.mapError {count : Nat} {f : ε → δ}
    (consumes : Consumes count reader) : Consumes count (mapError f reader) := by
  intro input value rest read
  change (reader.run input).mapError f = _ at read
  cases ran : reader.run input with
  | error error =>
      rw [ran] at read
      cases read
  | ok result =>
      rw [ran] at read
      cases read
      exact consumes input value rest ran

theorem Consumes.take (short : ε) (count : Nat) :
    Consumes count (Reader.take short count : Reader β ε (List β)) := by
  intro input value rest read
  obtain ⟨length, rfl⟩ := Reader.run_take_ok read
  rw [List.length_append, length]
  omega

end Tquic.Lib
