import Mathlib.Logic.Basic

/-! Steps that change a state and may fail. What was changed before a failure stays changed.
The rules say how steps end: in one condition if they succeed, in another if they fail. -/

set_option autoImplicit false

namespace Tquic.Lib

variable {σ τ ε δ α β : Type}

def Stateful (σ ε α : Type) : Type := σ → Except ε α × σ

namespace Stateful

def run (steps : Stateful σ ε α) (state : σ) : Except ε α × σ := steps state

/-- Go on after a success. -/
def continueWith (next : α → Stateful σ ε β) : Except ε α × σ → Except ε β × σ
  | (.ok value, state) => next value state
  | (.error error, state) => (.error error, state)

instance : Monad (Stateful σ ε) where
  pure value := fun state => (.ok value, state)
  bind steps next := fun state => continueWith next (steps state)

/-- Go on after a failure. -/
def recoverWith (handle : ε → Stateful σ ε α) : Except ε α × σ → Except ε α × σ
  | (.ok value, state) => (.ok value, state)
  | (.error error, state) => handle error state

instance : MonadExceptOf ε (Stateful σ ε) where
  throw error := fun state => (.error error, state)
  tryCatch steps handle := fun state => recoverWith handle (steps state)

instance : MonadStateOf σ (Stateful σ ε) where
  get := fun state => (.ok state, state)
  set state := fun _ => (.ok (), state)
  modifyGet change := fun state => (.ok (change state).1, (change state).2)

def ofExcept (result : Except ε α) : Stateful σ ε α := fun state => (result, state)

/-- The result of the steps, for a caller that goes on in either case. -/
def attempt (steps : Stateful σ ε α) : Stateful σ ε (Except ε α) := fun state =>
  (.ok (steps state).1, (steps state).2)

def zoom (part : σ → τ) (put : τ → σ → σ) (steps : Stateful τ ε α) : Stateful σ ε α :=
  fun state => ((steps (part state)).1, put (steps (part state)).2 state)

def withErrors (f : ε → δ) (steps : Stateful σ ε α) : Stateful σ δ α := fun state =>
  ((steps state).1.mapError f, (steps state).2)

/-! ## How steps end -/

/-- The outcome satisfies `post` if it is a success and `failed` if it is a failure. -/
def Ends (post : α → σ → Prop) (failed : ε → σ → Prop) : Except ε α × σ → Prop
  | (.ok value, state) => post value state
  | (.error error, state) => failed error state

variable {post : α → σ → Prop} {failed : ε → σ → Prop} {steps : Stateful σ ε α} {state : σ}
  {value : α}

@[simp] theorem ends_ok : Ends post failed (.ok value, state) ↔ post value state := Iff.rfl

@[simp] theorem ends_pure :
    Ends post failed ((pure value : Stateful σ ε α).run state) ↔ post value state := Iff.rfl

@[simp] theorem ends_throw {error : ε} :
    Ends post failed ((throw error : Stateful σ ε α).run state) ↔ failed error state := Iff.rfl

@[simp] theorem ends_get {post : σ → σ → Prop} :
    Ends post failed ((get : Stateful σ ε σ).run state) ↔ post state state := Iff.rfl

@[simp] theorem ends_modify {post : Unit → σ → Prop} {change : σ → σ} :
    Ends post failed ((modify change : Stateful σ ε Unit).run state) ↔ post () (change state) :=
  Iff.rfl

variable {next : β → Stateful σ ε α}

theorem ends_bind {steps : Stateful σ ε β} :
    Ends post failed ((steps >>= next).run state) ↔
      Ends (fun value after => Ends post failed ((next value).run after)) failed
        (steps.run state) := by
  change Ends post failed (continueWith next (steps.run state)) ↔ _
  cases steps.run state with
  | mk result after =>
      cases result with
      | ok value => exact Iff.rfl
      | error error => exact Iff.rfl

theorem ends_attempt {post : Except ε α → σ → Prop} :
    Ends post failed ((attempt steps).run state) ↔
      Ends (fun value => post (.ok value)) (fun error => post (.error error)) (steps.run state) := by
  change post (steps.run state).1 (steps.run state).2 ↔ _
  cases steps.run state with
  | mk result after =>
      cases result with
      | ok value => exact Iff.rfl
      | error error => exact Iff.rfl

theorem ends_zoom {part : σ → τ} {put : τ → σ → σ} {steps : Stateful τ ε α} :
    Ends post failed ((zoom part put steps).run state) ↔
      Ends (fun value after => post value (put after state))
        (fun error after => failed error (put after state)) (steps.run (part state)) := by
  change Ends post failed ((steps.run (part state)).1, put (steps.run (part state)).2 state) ↔ _
  cases steps.run (part state) with
  | mk result after =>
      cases result with
      | ok value => exact Iff.rfl
      | error error => exact Iff.rfl

theorem ends_withErrors {failed : δ → σ → Prop} {f : ε → δ} :
    Ends post failed ((withErrors f steps).run state) ↔
      Ends post (fun error => failed (f error)) (steps.run state) := by
  change Ends post failed ((steps.run state).1.mapError f, (steps.run state).2) ↔ _
  cases steps.run state with
  | mk result after =>
      cases result with
      | ok value => exact Iff.rfl
      | error error => exact Iff.rfl

theorem ends_ofExcept {result : Except ε α} :
    Ends post failed ((ofExcept result : Stateful σ ε α).run state) ↔
      (∀ value, result = .ok value → post value state) ∧
        ∀ error, result = .error error → failed error state := by
  cases result with
  | ok value =>
      constructor
      · intro holds
        exact ⟨fun _ same => Except.ok.inj same ▸ holds, fun _ other => (nomatch other)⟩
      · exact fun both => both.1 value rfl
  | error error =>
      constructor
      · intro holds
        exact ⟨fun _ other => (nomatch other), fun _ same => Except.error.inj same ▸ holds⟩
      · exact fun both => both.2 error rfl

variable {outcome : Except ε α × σ}

theorem Ends.mono {weaker : α → σ → Prop} {weakly : ε → σ → Prop}
    (ends : Ends post failed outcome) (succeeds : ∀ value after, post value after → weaker value after)
    (fails : ∀ error after, failed error after → weakly error after) :
    Ends weaker weakly outcome := by
  obtain ⟨result, after⟩ := outcome
  cases result with
  | ok value => exact succeeds value after ends
  | error error => exact fails error after ends

theorem Ends.and {alsoPost : α → σ → Prop} {alsoFailed : ε → σ → Prop}
    (ends : Ends post failed outcome) (also : Ends alsoPost alsoFailed outcome) :
    Ends (fun value after => post value after ∧ alsoPost value after)
      (fun error after => failed error after ∧ alsoFailed error after) outcome := by
  obtain ⟨result, after⟩ := outcome
  cases result with
  | ok value => exact ⟨ends, also⟩
  | error error => exact ⟨ends, also⟩

theorem Ends.of_forall (succeeds : ∀ value after, post value after)
    (fails : ∀ error after, failed error after) : Ends post failed outcome := by
  obtain ⟨result, after⟩ := outcome
  cases result with
  | ok value => exact succeeds value after
  | error error => exact fails error after

variable {after : σ}

theorem Ends.of_ok (ends : Ends post failed outcome)
    (same : outcome = (.ok value, after)) : post value after := by
  subst same
  exact ends

/-- Steps that cannot fail. -/
theorem Ends.succeeds (ends : Ends post (fun _ _ => False) outcome) :
    ∃ value, outcome.1 = .ok value := by
  obtain ⟨result, after⟩ := outcome
  cases result with
  | ok value => exact ⟨value, rfl⟩
  | error error => exact absurd ends id

/-! ## Steps that succeed -/

theorem bind_succeeds {steps : Stateful σ ε β} :
    (steps >>= next).run state = (.ok value, after) ↔
      ∃ middle between, steps.run state = (.ok middle, between) ∧
        (next middle).run between = (.ok value, after) := by
  change continueWith next (steps.run state) = _ ↔ _
  cases steps.run state with
  | mk result between =>
      cases result with
      | ok middle =>
          constructor
          · exact fun succeeds => ⟨middle, between, rfl, succeeds⟩
          · rintro ⟨_, _, same, succeeds⟩
            cases same
            exact succeeds
      | error error =>
          constructor
          · intro impossible
            cases impossible
          · rintro ⟨_, _, impossible, _⟩
            cases impossible

theorem bind_run {steps : Stateful σ ε β} {value : β} {between : σ}
    (succeeds : steps.run state = (.ok value, between)) :
    (steps >>= next).run state = (next value).run between := by
  change continueWith next (steps.run state) = _
  rw [succeeds]
  rfl

theorem bind_fails {steps : Stateful σ ε β} {error : ε} {between : σ}
    (fails : steps.run state = (.error error, between)) :
    (steps >>= next).run state = (.error error, between) := by
  change continueWith next (steps.run state) = _
  rw [fails]
  rfl

theorem ofExcept_succeeds {result : Except ε α} :
    (ofExcept result : Stateful σ ε α).run state = (.ok value, after) ↔
      result = .ok value ∧ state = after := Prod.ext_iff

theorem withErrors_succeeds {f : ε → δ} :
    (withErrors f steps).run state = (.ok value, after) ↔ steps.run state = (.ok value, after) := by
  change ((steps.run state).1.mapError f, (steps.run state).2) = _ ↔ _
  cases steps.run state with
  | mk result between =>
      cases result with
      | ok found =>
          constructor
          · intro same
            cases same
            rfl
          · intro same
            cases same
            rfl
      | error error =>
          refine iff_of_false (fun same => ?_) fun same => ?_
          · cases (Prod.mk.inj same).1
          · cases (Prod.mk.inj same).1

/-! ## Invariants -/

/-- The steps keep the invariant, whether they succeed or fail. -/
def Preserves (inv : σ → Prop) (steps : Stateful σ ε α) : Prop :=
  ∀ state, inv state → inv (steps.run state).2

variable {inv : σ → Prop}

theorem Ends.invariant {outcome : Except ε α × σ}
    (ends : Ends (fun _ => inv) (fun _ => inv) outcome) : inv outcome.2 := by
  obtain ⟨result, after⟩ := outcome
  cases result with
  | ok value => exact ends
  | error error => exact ends

theorem Preserves.ends (kept : Preserves inv steps) (holds : inv state) :
    Ends (fun _ => inv) (fun _ => inv) (steps.run state) := by
  have after := kept state holds
  cases outcome : steps.run state with
  | mk result next =>
      rw [outcome] at after
      cases result with
      | ok value => exact after
      | error error => exact after

theorem preserves_pure (value : α) : Preserves inv (pure value : Stateful σ ε α) := fun _ kept => kept

theorem preserves_throw (error : ε) : Preserves inv (throw error : Stateful σ ε α) :=
  fun _ kept => kept

theorem preserves_ofExcept (result : Except ε α) :
    Preserves inv (ofExcept result : Stateful σ ε α) := fun _ kept => kept

theorem Preserves.attempt (first : Preserves inv steps) : Preserves inv (attempt steps) := first

theorem invariant_bind {steps : Stateful σ ε β}
    (middle : inv (steps.run state).2) (rest : ∀ value, Preserves inv (next value)) :
    inv ((steps >>= next).run state).2 := by
  change inv (continueWith next (steps.run state)).2
  cases outcome : steps.run state with
  | mk result after =>
      rw [outcome] at middle
      cases result with
      | ok value => exact rest value after middle
      | error error => exact middle

theorem Preserves.bind {steps : Stateful σ ε β}
    (first : Preserves inv steps) (rest : ∀ value, Preserves inv (next value)) :
    Preserves inv (steps >>= next) := fun state kept => invariant_bind (first state kept) rest

theorem Preserves.of_get {next : σ → Stateful σ ε α}
    (rest : ∀ state, inv state → inv ((next state).run state).2) :
    Preserves inv ((get : Stateful σ ε σ) >>= next) :=
  fun state kept => rest state kept

end Stateful

end Tquic.Lib
