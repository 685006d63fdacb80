import Mathlib.Data.List.Basic
import Tquic.Lib.Transition

/-! Double-ended iterators. What an iterator returns in a sequence of calls on either side is
compared with the list of its elements, which is taken down from both sides. -/

set_option autoImplicit false

namespace Tquic.Lib

universe u v

variable {σ : Type u} {α : Type v}

inductive Side where
  | front
  | back
  deriving DecidableEq, Repr

/-- The results of a sequence of calls, in order. -/
def pulls (pull : σ → Side → Option α × σ) : σ → List Side → List (Side × Option α)
  | _, [] => []
  | state, side :: rest => (side, (pull state side).1) :: pulls pull (pull state side).2 rest

def returned (side : Side) (log : List (Side × Option α)) : List α :=
  log.filterMap fun entry => if entry.1 = side then entry.2 else none

/-- After every call, the elements are those returned in front, those still to come, and in
reverse those returned at the back. A call finds nothing only if nothing is to come. -/
def Lawful (elements : List α) (log : List (Side × Option α)) : Prop :=
  ∀ done, done <+: log → ∃ rest,
    elements = returned .front done ++ rest ++ (returned .back done).reverse ∧
      ∀ entry ∈ done, entry.2 = none → rest = []

def takeSide (elements : List α) : Side → Option α × List α
  | .front => (elements.head?, elements.tail)
  | .back => (elements.getLast?, elements.dropLast)

theorem returned_cons (side other : Side) (found : Option α) (log : List (Side × Option α)) :
    returned side ((other, found) :: log) =
      (if other = side then found.toList else []) ++ returned side log := by
  by_cases same : other = side
  · cases found <;> simp [returned, same]
  · simp [returned, same]

theorem lawful_nil (elements : List α) : Lawful elements [] := by
  intro done first
  rw [List.prefix_nil.mp first]
  exact ⟨elements, by simp [returned], by simp⟩

theorem account_cons {elements rest : List α} {side : Side} {element : α}
    (taken : takeSide elements side = (some element, rest)) (done : List (Side × Option α))
    (left : List α) :
    elements = returned .front ((side, some element) :: done) ++ left ++
        (returned .back ((side, some element) :: done)).reverse ↔
      rest = returned .front done ++ left ++ (returned .back done).reverse := by
  cases side with
  | front =>
      obtain ⟨tail, rfl⟩ : ∃ tail, elements = element :: tail :=
        List.head?_eq_some_iff.mp (Prod.mk.inj taken).1
      obtain rfl : tail = rest := (Prod.mk.inj taken).2
      simp [returned_cons]
  | back =>
      obtain ⟨init, rfl⟩ : ∃ init, elements = init ++ [element] :=
        List.getLast?_eq_some_iff.mp (Prod.mk.inj taken).1
      obtain rfl : init = rest := by simpa [takeSide] using (Prod.mk.inj taken).2
      simp only [returned_cons, reduceCtorEq, if_false, if_true, Option.toList_some,
        List.nil_append, List.singleton_append, List.reverse_cons, ← List.append_assoc,
        List.append_left_inj]

theorem lawful_cons {elements : List α} {side : Side} {found : Option α}
    {log : List (Side × Option α)} :
    Lawful elements ((side, found) :: log) ↔
      found = (takeSide elements side).1 ∧ Lawful (takeSide elements side).2 log := by
  constructor
  · intro lawful
    obtain ⟨rest, all, finished⟩ := lawful [(side, found)] ⟨log, rfl⟩
    cases found with
    | none =>
        obtain rfl : rest = [] := finished _ (List.mem_singleton_self _) rfl
        obtain rfl : elements = [] := by cases side <;> simpa [returned] using all
        refine ⟨by cases side <;> rfl, fun done first => ?_⟩
        obtain ⟨left, same, ended⟩ := lawful ((side, none) :: done) (by simpa using first)
        refine ⟨left, ?_, fun entry member => ended entry (.tail _ member)⟩
        cases side <;> simpa [returned_cons, takeSide] using same
    | some element =>
        have taken : takeSide elements side = (some element, rest) := by
          cases side <;> simp [returned, takeSide, all]
        refine ⟨by rw [taken], fun done first => ?_⟩
        obtain ⟨left, same, ended⟩ := lawful ((side, some element) :: done) (by simpa using first)
        refine ⟨left, ?_, fun entry member => ended entry (.tail _ member)⟩
        rw [taken]
        exact (account_cons taken done left).mp same
  · rintro ⟨rfl, lawful⟩ done first
    cases done with
    | nil => exact ⟨elements, by simp [returned], by simp⟩
    | cons entry done =>
        obtain ⟨rfl, earlier⟩ := List.cons_prefix_cons.mp first
        obtain ⟨left, same, ended⟩ := lawful done earlier
        refine ⟨left, ?_, ?_⟩
        · cases taken : takeSide elements side with
          | mk found rest =>
              cases found with
              | none =>
                  obtain rfl : elements = [] := by
                    cases side <;> simpa [takeSide] using (Prod.mk.inj taken).1
                  obtain rfl : rest = [] := by cases side <;> simp_all [takeSide]
                  rw [taken] at same
                  cases side <;> simpa [returned_cons] using same
              | some element =>
                  rw [taken] at same
                  exact (account_cons taken done left).mpr same
        · rintro entry member missing
          rcases List.mem_cons.mp member with rfl | later
          · obtain rfl : elements = [] := by cases side <;> simpa [takeSide] using missing
            cases side <;> simp_all [takeSide]
          · exact ended entry later missing

/-- An iterator whose calls return the right element exactly when they are clear, and that then
goes on with the other elements, is lawful exactly on the sequences in which every call is clear. -/
theorem lawful_iff {pull : σ → Side → Option α × σ} {elements : σ → List α} {invariant : σ → Prop}
    {clear : σ → Side → Prop} (exactly : ∀ state side, invariant state →
      ((pull state side).1 = (takeSide (elements state) side).1 ↔ clear state side))
    (kept : ∀ state side, invariant state → clear state side →
      invariant (pull state side).2 ∧
        elements (pull state side).2 = (takeSide (elements state) side).2)
    {state : σ} (start : invariant state) (sides : List Side) :
    Lawful (elements state) (pulls pull state sides) ↔
      Along (fun state side => (pull state side).2) clear state sides := by
  induction sides generalizing state with
  | nil => exact iff_of_true (lawful_nil _) trivial
  | cons side rest ih =>
      rw [pulls, lawful_cons, exactly state side start, Along]
      refine and_congr_right fun passes => ?_
      obtain ⟨still, same⟩ := kept state side start passes
      rw [← same]
      exact ih still

end Tquic.Lib
