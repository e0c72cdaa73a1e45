import Mathlib.Order.WithBot

/-!
# Folding a join

A fold of `⊔` over a list is the least upper bound of the start and the elements, so it does not depend on their
order.
-/

namespace SartoriusLib.Lib

universe u v

variable {α : Type u} {β : Type v} [SemilatticeSup α] {f : β → α} {xs ys : List β} {a b : α}

/-- The join of `a` and all values of `f`. -/
def foldSup (f : β → α) (a : α) (xs : List β) : α := xs.foldl (fun acc x => acc ⊔ f x) a

@[simp] theorem foldSup_nil (f : β → α) (a : α) : foldSup f a [] = a := rfl

@[simp] theorem foldSup_cons (f : β → α) (a : α) (x : β) (xs : List β) :
    foldSup f a (x :: xs) = foldSup f (a ⊔ f x) xs := rfl

theorem foldSup_le_iff : foldSup f a xs ≤ b ↔ a ≤ b ∧ ∀ x ∈ xs, f x ≤ b := by
  induction xs generalizing a with
  | nil => simp
  | cons x xs ih => simp [ih, and_assoc]

theorem foldSup_perm (h : xs.Perm ys) : foldSup f a xs = foldSup f a ys :=
  eq_of_forall_ge_iff fun b => by simp only [foldSup_le_iff, h.mem_iff]

/-- A join of the least element and some others is the least one only when each of them is. -/
theorem foldSup_eq_bot [OrderBot α] : foldSup f ⊥ xs = ⊥ ↔ ∀ x ∈ xs, f x = ⊥ := by
  rw [← le_bot_iff, foldSup_le_iff]
  simp only [le_rfl, true_and, le_bot_iff]

end SartoriusLib.Lib
