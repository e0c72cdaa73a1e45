import SartoriusLib.Lib.Program

/-!
# Two programs side by side

A relation between the states of two programs carries over to their runs: they have the same outcome, and the states
that they leave are related again. What a run of the one does so tells what a run of the other does.
-/

namespace SartoriusLib.Lib.Prog

variable {ε σ τ α β ω ω' : Type} {R : σ → τ → Prop} {s : σ} {t : τ}

/-- Two runs ended alike. -/
structure Alike (R : σ → τ → Prop) (run : Except ε α × σ) (run' : Except ε α × τ) : Prop where
  outcome : run.1 = run'.1
  states : R run.2 run'.2

theorem Alike.bind {m : Prog ε σ α} {m' : Prog ε τ α} {k : α → Prog ε σ β} {k' : α → Prog ε τ β}
    (hm : Alike R (m.exec s) (m'.exec t)) (hk : ∀ a s t, R s t → Alike R ((k a).exec s) ((k' a).exec t)) :
    Alike R ((m >>= k).exec s) ((m' >>= k').exec t) := by
  rw [exec_bind, exec_bind]
  generalize m.exec s = run at hm
  generalize m'.exec t = run' at hm
  obtain ⟨e | a, s'⟩ := run <;> obtain ⟨e' | a', t'⟩ := run' <;> obtain ⟨houtcome, hstates⟩ := hm <;> cases houtcome
  · exact ⟨rfl, hstates⟩
  · exact hk a s' t' hstates

/-- Both programs run on a part of their states. -/
theorem Alike.zoom {S : ω → ω' → Prop} {get : σ → ω} {set : ω → σ → σ} {get' : τ → ω'} {set' : ω' → τ → τ}
    {m : Prog ε ω α} {m' : Prog ε ω' α} (hm : Alike S (m.exec (get s)) (m'.exec (get' t)))
    (hset : ∀ w w', S w w' → R (set w s) (set' w' t)) :
    Alike R ((Prog.zoom get set m).exec s) ((Prog.zoom get' set' m').exec t) :=
  ⟨hm.outcome, hset _ _ hm.states⟩

/-! ## Calls one after the other -/

/-- The outcomes of some calls, and the state behind the last one; one that raises does not end the run. -/
def runAll : List (Prog ε σ α) → σ → List (Except ε α) × σ
  | [], s => ([], s)
  | m :: calls, s => ((m.exec s).1 :: (runAll calls (m.exec s).2).1, (runAll calls (m.exec s).2).2)

/-- Calls that end alike from related states have the same outcomes in a run. -/
theorem runAll_alike {calls : List (Prog ε σ α)} {calls' : List (Prog ε τ α)}
    (hcalls : List.Forall₂ (fun m m' => ∀ s t, R s t → Alike R (m.exec s) (m'.exec t)) calls calls') (h : R s t) :
    (runAll calls s).1 = (runAll calls' t).1 ∧ R (runAll calls s).2 (runAll calls' t).2 := by
  induction hcalls generalizing s t with
  | nil => exact ⟨rfl, h⟩
  | cons hcall _ ih =>
      obtain ⟨houtcome, hstates⟩ := hcall s t h
      obtain ⟨hrest, hend⟩ := ih hstates
      exact ⟨congrArg₂ List.cons houtcome hrest, hend⟩

end SartoriusLib.Lib.Prog
