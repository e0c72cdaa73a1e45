import Mathlib.Tactic.Common

/-!
# Queues that lose nothing

What a queue held and took in is what it gave out and what it keeps, in the same order.
-/

namespace SartoriusLib.Lib

universe u

variable {α : Type u} {a b c taken taken' given given' : List α}

def Passes (held taken given left : List α) : Prop := held ++ taken = given ++ left

namespace Passes

theorem refl (a : List α) : Passes a [] [] a := by simp [Passes]

theorem trans (h : Passes a taken given b) (h' : Passes b taken' given' c) :
    Passes a (taken ++ taken') (given ++ given') c := by
  unfold Passes at *
  rw [← List.append_assoc, h, List.append_assoc, h', List.append_assoc]

/-- What enters at the back. -/
theorem push (a taken : List α) : Passes a taken [] (a ++ taken) := by simp [Passes]

/-- What leaves at the front. -/
theorem pop (given a : List α) : Passes (given ++ a) [] given a := by simp [Passes]

/-- What enters at the front stays in order only when nothing is ahead of it. -/
theorem pushFront (h : taken = [] ∨ a = []) : Passes a taken [] (taken ++ a) := by
  cases h with
  | inl h => simp [Passes, h]
  | inr h => simp [Passes, h]

/-- What leaves as it enters stays in order only when nothing is ahead of it. -/
theorem overtake (h : taken = [] ∨ a = []) : Passes a taken taken a := by
  cases h with
  | inl h => simp [Passes, h]
  | inr h => simp [Passes, h]

/-- The account of a whole run, from the account of its last step. -/
theorem account {handed all : List α} (h : Passes a taken given b) (hall : handed ++ a = all) :
    handed ++ given ++ b = all ++ taken := by
  unfold Passes at h
  rw [List.append_assoc, ← h, ← List.append_assoc, hall]

end Passes

end SartoriusLib.Lib
