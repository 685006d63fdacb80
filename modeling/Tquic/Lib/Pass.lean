import Mathlib.Data.List.Basic
import Mathlib.Algebra.BigOperators.Group.List.Basic
import Mathlib.Algebra.GroupWithZero.Nat

/-! A pass over a list that replaces some of its elements. Sums over the list and lists
collected from it split into a part that stays and a part that belongs to the replaced
elements. -/

set_option autoImplicit false

namespace Tquic.Lib

universe u v

variable {α : Type u} {β : Type v}

/-- The elements in the last list were eligible and are replaced by their marked form. -/
inductive Pass (mark : α → α) (eligible : α → Prop) : List α → List α → List α → Prop where
  | nil : Pass mark eligible [] [] []
  | keep {item before after chosen} (rest : Pass mark eligible before after chosen) :
      Pass mark eligible (item :: before) (item :: after) chosen
  | mark {item before after chosen} (allowed : eligible item)
      (rest : Pass mark eligible before after chosen) :
      Pass mark eligible (item :: before) (mark item :: after) (item :: chosen)

namespace Pass

variable {mark : α → α} {eligible : α → Prop} {before after chosen : List α}

theorem refl (list : List α) : Pass mark eligible list list [] := by
  induction list with
  | nil => exact .nil
  | cons _ _ ih => exact .keep ih

theorem append {before' after' chosen' : List α} (former : Pass mark eligible before after chosen)
    (latter : Pass mark eligible before' after' chosen') :
    Pass mark eligible (before ++ before') (after ++ after') (chosen ++ chosen') := by
  induction former with
  | nil => exact latter
  | keep _ ih => exact .keep ih
  | mark allowed _ ih => exact .mark allowed ih

section

variable (pass : Pass mark eligible before after chosen)

include pass

theorem mono {weaker : α → Prop}
    (implied : ∀ item, eligible item → weaker item) : Pass mark weaker before after chosen := by
  induction pass with
  | nil => exact .nil
  | keep _ ih => exact .keep ih
  | mark allowed _ ih => exact .mark (implied _ allowed) ih

theorem chosen_eligible {item : α} (member : item ∈ chosen) : item ∈ before ∧ eligible item := by
  induction pass with
  | nil => cases member
  | keep _ ih => exact ⟨List.mem_cons_of_mem _ (ih member).1, (ih member).2⟩
  | mark allowed _ ih =>
      rcases List.mem_cons.mp member with rfl | later
      · exact ⟨List.mem_cons_self, allowed⟩
      · exact ⟨List.mem_cons_of_mem _ (ih later).1, (ih later).2⟩

theorem mem_after {item : α}
    (member : item ∈ after) : item ∈ before ∨ ∃ old ∈ chosen, item = mark old := by
  induction pass with
  | nil => cases member
  | keep _ ih =>
      rcases List.mem_cons.mp member with rfl | later
      · exact .inl List.mem_cons_self
      · exact (ih later).imp_left (List.mem_cons_of_mem _)
  | mark _ _ ih =>
      rcases List.mem_cons.mp member with rfl | later
      · exact .inr ⟨_, List.mem_cons_self, rfl⟩
      · rcases ih later with earlier | ⟨old, present, same⟩
        · exact .inl (List.mem_cons_of_mem _ earlier)
        · exact .inr ⟨old, List.mem_cons_of_mem _ present, same⟩

/-- What marking does not change is the same along the list. -/
theorem map_eq {part : α → β}
    (marked : ∀ item, part (mark item) = part item) : after.map part = before.map part := by
  induction pass with
  | nil => rfl
  | keep _ ih => rw [List.map_cons, List.map_cons, ih]
  | mark _ _ ih => rw [List.map_cons, List.map_cons, ih, marked]

theorem sum_split {weight charge : α → Nat}
    (marked : ∀ item ∈ chosen, weight item = weight (mark item) + charge item) :
    (before.map weight).sum = (after.map weight).sum + (chosen.map charge).sum := by
  induction pass with
  | nil => rfl
  | keep _ ih =>
      simp only [List.map_cons, List.sum_cons, ih marked]
      omega
  | mark _ _ ih =>
      have first := marked _ List.mem_cons_self
      have rest := ih fun item member => marked item (List.mem_cons_of_mem _ member)
      simp only [List.map_cons, List.sum_cons]
      omega

theorem flatMap_perm {parts : α → List β} (marked : ∀ item, parts (mark item) = []) :
    (before.flatMap parts).Perm (after.flatMap parts ++ chosen.flatMap parts) := by
  induction pass with
  | nil => exact .refl _
  | keep _ ih =>
      simp only [List.flatMap_cons, List.append_assoc]
      exact ih.append_left _
  | @mark item _ _ _ _ _ ih =>
      simp only [List.flatMap_cons, marked, List.nil_append]
      refine (ih.append_left (parts item)).trans ?_
      rw [← List.append_assoc, ← List.append_assoc]
      exact List.perm_append_comm.append_right _

end

end Pass

end Tquic.Lib
