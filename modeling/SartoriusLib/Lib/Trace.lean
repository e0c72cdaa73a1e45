import SartoriusLib.Lib.Program

/-!
# Programs that log what they do

A trace is a part of the state to which a program only adds at the end. `Emits` says what a program adds,
together with how it ends; the rules follow the constructs of the language.
-/

namespace SartoriusLib.Lib.Prog

variable {ε σ α β η : Type} {trace : σ → List η}

/-- Every run of `m` adds events to the trace, and they are in `P` with the outcome of the run. -/
def Emits (trace : σ → List η) (m : Prog ε σ α) (P : Except ε α → List η → Prop) : Prop :=
  ∀ s, ∃ events, trace (m.exec s).2 = trace s ++ events ∧ P (m.exec s).1 events

variable {P Q : Except ε α → List η → Prop} {R : Except ε β → List η → Prop}

theorem Emits.conseq {m : Prog ε σ α} (h : Emits trace m P) (hPQ : ∀ r es, P r es → Q r es) :
    Emits trace m Q := by
  intro s
  obtain ⟨es, hes, hP⟩ := h s
  exact ⟨es, hes, hPQ _ _ hP⟩

theorem Emits.pure {a : α} (h : P (.ok a) []) : Emits trace (pure a : Prog ε σ α) P :=
  fun _ => ⟨[], (List.append_nil _).symm, h⟩

theorem Emits.throw {e : ε} (h : P (.error e) []) : Emits trace (throw e : Prog ε σ α) P :=
  fun _ => ⟨[], (List.append_nil _).symm, h⟩

/-- The events of a bind are those of its first part, then those of the part that follows a return. -/
theorem Emits.bind {m : Prog ε σ α} {f : α → Prog ε σ β} (hm : Emits trace m P)
    (herror : ∀ e es, P (.error e) es → R (.error e) es)
    (hok : ∀ a es, P (.ok a) es → Emits trace (f a) fun r later => R r (es ++ later)) :
    Emits trace (m >>= f) R := by
  intro s
  obtain ⟨es, hes, hP⟩ := hm s
  rcases h : m.exec s with ⟨e | a, t⟩
  · rw [h] at hes hP
    rw [exec_bind_error h]
    exact ⟨es, hes, herror e es hP⟩
  · rw [h] at hes hP
    obtain ⟨later, hlater, hR⟩ := hok a es hP t
    rw [exec_bind_ok h]
    refine ⟨es ++ later, ?_, hR⟩
    rw [hlater, hes, List.append_assoc]

/-- After a read of the state. -/
theorem Emits.get_bind {f : σ → Prog ε σ β} (h : ∀ s, Emits trace (f s) R) : Emits trace (get >>= f) R := by
  intro s
  rw [exec_bind_ok (exec_get s)]
  exact h s s

theorem Emits.modify {f : σ → σ} {P : Except ε PUnit → List η → Prop} (htrace : ∀ s, trace (f s) = trace s)
    (h : P (.ok ⟨⟩) []) : Emits trace (modify f : Prog ε σ PUnit) P :=
  fun s => ⟨[], by rw [exec_modify, htrace, List.append_nil], h⟩

/-- A program on a part of the state logs what it logs there. -/
theorem Emits.zoom {τ : Type} {part : τ → List η} {get : σ → τ} {set : τ → σ → σ} {m : Prog ε τ α}
    (hset : ∀ t s, get (set t s) = t) (hm : Emits part m P) :
    Emits (fun s => part (get s)) (Prog.zoom get set m) P := by
  intro s
  obtain ⟨es, hes, hP⟩ := hm (get s)
  refine ⟨es, ?_, hP⟩
  rw [exec_zoom]
  simp only [hset]
  exact hes

theorem Emits.map {m : Prog ε σ α} {f : α → β} (hm : Emits trace m P)
    (herror : ∀ e es, P (.error e) es → R (.error e) es) (hok : ∀ a es, P (.ok a) es → R (.ok (f a)) es) :
    Emits trace (f <$> m) R := by
  rw [← bind_pure_comp]
  refine hm.bind herror fun a es ha => Emits.pure ?_
  simpa using hok a es ha

/-- The events of a handler follow those of the program that raised. -/
theorem Emits.tryCatch {m : Prog ε σ α} {h : ε → Prog ε σ α} (hm : Emits trace m P)
    (hok : ∀ a es, P (.ok a) es → Q (.ok a) es)
    (herror : ∀ e es, P (.error e) es → Emits trace (h e) fun r later => Q r (es ++ later)) :
    Emits trace (tryCatch m h) Q := by
  intro s
  obtain ⟨es, hes, hP⟩ := hm s
  rw [exec_tryCatch]
  rcases hx : m.exec s with ⟨e | a, t⟩
  · rw [hx] at hes hP
    obtain ⟨later, hlater, hQ⟩ := herror e es hP t
    refine ⟨es ++ later, ?_, hQ⟩
    rw [hlater, hes, List.append_assoc]
  · rw [hx] at hes hP
    exact ⟨es, hes, hok a es hP⟩

end SartoriusLib.Lib.Prog
