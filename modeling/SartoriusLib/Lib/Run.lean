import Mathlib.Tactic.Common

/-!
# Runs of a machine

A machine is a partial step function on states, driven by events: `none` says that the event cannot
happen in that state. A guard restricts the steps of a run by a condition on the state before the step.
-/

namespace SartoriusLib.Lib

universe u v

variable {σ : Type u} {ε : Type v}

/-- The state that the events `es` lead to, when each of them can happen in its turn. -/
def run (step : σ → ε → Option σ) : σ → List ε → Option σ
  | s, [] => some s
  | s, e :: es => (step s e).bind fun s' => run step s' es

/-- Every step of the run of `es` from `s` is taken in a state that meets the guard. -/
def Guarded (step : σ → ε → Option σ) (G : σ → ε → Prop) : σ → List ε → Prop
  | _, [] => True
  | s, e :: es => G s e ∧ ∀ s', step s e = some s' → Guarded step G s' es

instance decidableGuarded (step : σ → ε → Option σ) (G : σ → ε → Prop) [∀ s e, Decidable (G s e)] :
    ∀ s es, Decidable (Guarded step G s es)
  | _, [] => isTrue trivial
  | s, e :: es =>
      have (s' : σ) : Decidable (Guarded step G s' es) := decidableGuarded step G s' es
      inferInstanceAs (Decidable (G s e ∧ ∀ s' ∈ step s e, Guarded step G s' es))

variable {step : σ → ε → Option σ} {G : σ → ε → Prop} {Inv : σ → Prop}

@[simp] theorem run_nil (s : σ) : run step s [] = some s := rfl

theorem run_cons_eq_some {s s' : σ} {e : ε} {es : List ε} :
    run step s (e :: es) = some s' ↔ ∃ t, step s e = some t ∧ run step t es = some s' := by
  simp [run, Option.bind_eq_some_iff]

theorem run_append (s : σ) (es es' : List ε) :
    run step s (es ++ es') = (run step s es).bind fun t => run step t es' := by
  induction es generalizing s with
  | nil => rfl
  | cons e es ih =>
      rw [List.cons_append, run, run, Option.bind_assoc]
      exact congrArg _ (funext ih)

/-- An invariant that each guarded step preserves holds at the end of every guarded run. -/
theorem run_invariant (hstep : ∀ s e s', Inv s → G s e → step s e = some s' → Inv s') {s s' : σ}
    {es : List ε} (hs : Inv s) (hg : Guarded step G s es) (hr : run step s es = some s') : Inv s' := by
  induction es generalizing s with
  | nil => simp only [run_nil, Option.some.injEq] at hr; exact hr ▸ hs
  | cons e es ih =>
      obtain ⟨t, ht, hr⟩ := run_cons_eq_some.mp hr
      exact ih (hstep s e t hs hg.1 ht) (hg.2 t ht) hr

theorem guarded_true (s : σ) (es : List ε) : Guarded step (fun _ _ => True) s es := by
  induction es generalizing s with
  | nil => trivial
  | cons e es ih => exact ⟨trivial, fun s' _ => ih s'⟩

/-- An invariant that each step preserves holds at the end of every run. -/
theorem run_invariant' (hstep : ∀ s e s', Inv s → step s e = some s' → Inv s') {s s' : σ} {es : List ε}
    (hs : Inv s) (hr : run step s es = some s') : Inv s' :=
  run_invariant (fun s e s' h _ => hstep s e s' h) hs (guarded_true s es) hr

/-- A log that only grows is in order at the end of a run when each step adds what is in order to it. Where a step
does so exactly under the guard, the log is in order exactly when the run is guarded. -/
theorem run_iff_guarded {OK : σ → Prop} (hgrows : ∀ s e s', step s e = some s' → OK s' → OK s)
    (hstep : ∀ s e s', Inv s → OK s → step s e = some s' → (OK s' ↔ G s e))
    (hinv : ∀ s e s', Inv s → OK s' → step s e = some s' → Inv s') {s s' : σ} {es : List ε} (hs : Inv s)
    (hok : OK s) (hr : run step s es = some s') : OK s' ↔ Guarded step G s es := by
  have hback : ∀ {s s' : σ} {es : List ε}, run step s es = some s' → OK s' → OK s := by
    intro s s' es hr hok
    induction es generalizing s with
    | nil => exact Option.some.inj hr ▸ hok
    | cons e es ih =>
        obtain ⟨t, ht, hr⟩ := run_cons_eq_some.mp hr
        exact hgrows s e t ht (ih hr)
  induction es generalizing s with
  | nil => exact ⟨fun _ => trivial, fun _ => Option.some.inj hr ▸ hok⟩
  | cons e es ih =>
      obtain ⟨t, ht, hr⟩ := run_cons_eq_some.mp hr
      constructor
      · intro hend
        have hokt := hback hr hend
        refine ⟨(hstep s e t hs hok ht).mp hokt, fun t' ht' => ?_⟩
        cases ht.symm.trans ht'
        exact (ih (hinv s e t hs hokt ht) hokt hr).mp hend
      · rintro ⟨hg, hlater⟩
        have hokt := (hstep s e t hs hok ht).mpr hg
        exact (ih (hinv s e t hs hokt ht) hokt hr).mpr (hlater t ht)

end SartoriusLib.Lib
