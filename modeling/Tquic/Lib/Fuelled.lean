import Mathlib.Data.List.Basic

/-! Steps on a state that call each other to a bounded depth. They may run out of fuel, fail or
succeed, and what was changed before a failure stays changed. -/

set_option autoImplicit false

namespace Tquic.Lib

variable {σ ε α : Type}

/-- The outcome is `none` if the fuel does not suffice. -/
def Fuelled (σ ε : Type) : Type := σ → Option (Except ε Unit × σ)

namespace Fuelled

def ofExcept (result : Except ε Unit) : Fuelled σ ε := fun state => some (result, state)

/-- Go on after a success. -/
def continueWith (next : Fuelled σ ε) : Option (Except ε Unit × σ) → Option (Except ε Unit × σ)
  | none => none
  | some (.error error, state) => some (.error error, state)
  | some (.ok _, state) => next state

def andThen (first next : Fuelled σ ε) : Fuelled σ ε := fun state => continueWith next (first state)

def each (steps : α → Fuelled σ ε) : List α → Fuelled σ ε
  | [] => ofExcept (.ok ())
  | item :: rest => andThen (steps item) (each steps rest)

/-- The fuel suffices, and the outcome satisfies `post` if it is a success and `failed` if it is a
failure. -/
def Ends (post : σ → Prop) (failed : ε → σ → Prop) : Option (Except ε Unit × σ) → Prop
  | none => False
  | some (.error error, state) => failed error state
  | some (.ok _, state) => post state

variable {post middle inv : σ → Prop} {failed : ε → σ → Prop} {state : σ}

/-- As `Ends`, but the fuel may end where `stuck` holds. -/
def Leads (stuck : Prop) (post : σ → Prop) (failed : ε → σ → Prop) :
    Option (Except ε Unit × σ) → Prop
  | none => stuck
  | some (.error error, state) => failed error state
  | some (.ok _, state) => post state

theorem ends_iff {outcome : Option (Except ε Unit × σ)} :
    Ends post failed outcome ↔ Leads False post failed outcome := by
  match outcome with
  | none => rfl
  | some (.ok _, _) => rfl
  | some (.error _, _) => rfl

section Leads

variable {stuck : Prop}

theorem Leads.mono {weaker : σ → Prop} {weakly : ε → σ → Prop}
    {outcome : Option (Except ε Unit × σ)} (leads : Leads stuck post failed outcome)
    (succeeds : ∀ after, post after → weaker after)
    (fails : ∀ error after, failed error after → weakly error after) :
    Leads stuck weaker weakly outcome := by
  match outcome, leads with
  | none, leads => exact leads
  | some (.ok _, after), leads => exact succeeds after leads
  | some (.error error, after), leads => exact fails error after leads

theorem Leads.andThen {first next : Fuelled σ ε} (leads : Leads stuck middle failed (first state))
    (rest : ∀ after, middle after → Leads stuck post failed (next after)) :
    Leads stuck post failed (andThen first next state) := by
  change Leads stuck post failed (continueWith next (first state))
  match first state, leads with
  | none, leads => exact leads
  | some (.ok _, after), leads => exact rest after leads
  | some (.error error, after), leads => exact leads

theorem leads_each_left {left : List α → σ → Prop} {steps : α → Fuelled σ ε} {items : List α}
    (kept : ∀ item rest state, left (item :: rest) state →
      Leads stuck (left rest) failed (steps item state))
    (holds : left items state) : Leads stuck (left []) failed (each steps items state) := by
  induction items generalizing state with
  | nil => exact holds
  | cons item rest ih => exact (kept item rest state holds).andThen fun after holds => ih holds

end Leads

theorem Ends.mono {weaker : σ → Prop} {weakly : ε → σ → Prop}
    {outcome : Option (Except ε Unit × σ)} (ends : Ends post failed outcome)
    (succeeds : ∀ after, post after → weaker after)
    (fails : ∀ error after, failed error after → weakly error after) : Ends weaker weakly outcome :=
  ends_iff.mpr ((ends_iff.mp ends).mono succeeds fails)

theorem Ends.andThen {first next : Fuelled σ ε} (ends : Ends middle failed (first state))
    (rest : ∀ after, middle after → Ends post failed (next after)) :
    Ends post failed (andThen first next state) :=
  ends_iff.mpr ((ends_iff.mp ends).andThen fun after holds => ends_iff.mp (rest after holds))

theorem ends_each_left {left : List α → σ → Prop} {steps : α → Fuelled σ ε} {items : List α}
    (kept : ∀ item rest state, left (item :: rest) state →
      Ends (left rest) failed (steps item state))
    (holds : left items state) : Ends (left []) failed (each steps items state) :=
  ends_iff.mpr (leads_each_left
    (fun item rest state held => ends_iff.mp (kept item rest state held)) holds)

theorem ends_each {steps : α → Fuelled σ ε} {items : List α}
    (kept : ∀ item state, inv state → Ends inv failed (steps item state)) (holds : inv state) :
    Ends inv failed (each steps items state) :=
  @ends_each_left _ _ _ _ _ (fun _ => inv) _ _ (fun item _ state => kept item state) holds

end Fuelled

end Tquic.Lib
