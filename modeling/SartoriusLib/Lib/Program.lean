import Mathlib.Tactic.Common

/-!
# Programs with exceptions and state

A program reads and writes a state and ends with a value or with an exception; the state it reached is
kept in both cases, as in a language whose assignments are not undone by a `raise`. The rules below are
those of a Hoare logic with one postcondition for a normal return and one for an exception.
-/

namespace SartoriusLib.Lib

/-- A program over states `σ` that returns an `α` or raises an `ε`. -/
abbrev Prog (ε σ α : Type) : Type := ExceptT ε (StateM σ) α

namespace Prog

variable {ε σ α β τ : Type}

/-- The outcome of `m` from the state `s`, with the state it leaves. -/
def exec (m : Prog ε σ α) (s : σ) : Except ε α × σ := (m.run).run s

/-- The program that has the outcomes of `f`. -/
def ofFun (f : σ → Except ε α × σ) : Prog ε σ α := ExceptT.mk f

/-- A program is what its runs are. -/
theorem ext {m m' : Prog ε σ α} (h : ∀ s, m.exec s = m'.exec s) : m = m' := funext h

/-! ## Running the constructs of the language -/

@[simp] theorem exec_ofFun (f : σ → Except ε α × σ) (s : σ) : (ofFun f).exec s = f s := rfl

@[simp] theorem exec_pure (a : α) (s : σ) : (pure a : Prog ε σ α).exec s = (.ok a, s) := rfl

@[simp] theorem exec_throw (e : ε) (s : σ) : (throw e : Prog ε σ α).exec s = (.error e, s) := rfl

@[simp] theorem exec_get (s : σ) : (get : Prog ε σ σ).exec s = (.ok s, s) := rfl

@[simp] theorem exec_modify (f : σ → σ) (s : σ) :
    (modify f : Prog ε σ PUnit).exec s = (.ok ⟨⟩, f s) := rfl

theorem exec_bind (m : Prog ε σ α) (f : α → Prog ε σ β) (s : σ) :
    (m >>= f).exec s = match m.exec s with
      | (.ok a, s') => (f a).exec s'
      | (.error e, s') => (.error e, s') := by
  simp only [exec, bind, ExceptT.run, ExceptT.bind, ExceptT.mk, StateT.run, StateT.bind]
  rcases m s with ⟨_ | _, _⟩ <;> rfl

/-- A bind whose first part returns goes on from the state that part left. -/
theorem exec_bind_ok {m : Prog ε σ α} {f : α → Prog ε σ β} {s s' : σ} {a : α}
    (h : m.exec s = (.ok a, s')) : (m >>= f).exec s = (f a).exec s' := by
  rw [exec_bind, h]

/-- A bind whose first part raises ends there. -/
theorem exec_bind_error {m : Prog ε σ α} {f : α → Prog ε σ β} {s s' : σ} {e : ε}
    (h : m.exec s = (.error e, s')) : (m >>= f).exec s = (.error e, s') := by
  rw [exec_bind, h]

/-- A bind returns when both of its parts do. -/
theorem exec_bind_eq_ok {m : Prog ε σ α} {f : α → Prog ε σ β} {s s' : σ} {b : β} :
    (m >>= f).exec s = (.ok b, s') ↔ ∃ a t, m.exec s = (.ok a, t) ∧ (f a).exec t = (.ok b, s') := by
  rw [exec_bind]
  rcases hm : m.exec s with ⟨e | a, t⟩
  · simp
  · simp only [Prod.mk.injEq, Except.ok.injEq]
    constructor
    · exact fun h => ⟨a, t, ⟨rfl, rfl⟩, h⟩
    · rintro ⟨_, _, ⟨rfl, rfl⟩, h⟩
      exact h

theorem exec_map (f : α → β) (m : Prog ε σ α) (s : σ) :
    (f <$> m).exec s = match m.exec s with
      | (.ok a, s') => (.ok (f a), s')
      | (.error e, s') => (.error e, s') := by
  rw [← bind_pure_comp, exec_bind]; rfl

theorem exec_discard (m : Prog ε σ α) (s : σ) :
    (discard m).exec s = match m.exec s with
      | (.ok _, s') => (.ok (), s')
      | (.error e, s') => (.error e, s') :=
  exec_map (fun _ => ()) m s

theorem exec_tryCatch (m : Prog ε σ α) (h : ε → Prog ε σ α) (s : σ) :
    (tryCatch m h).exec s = match m.exec s with
      | (.ok a, s') => (.ok a, s')
      | (.error e, s') => (h e).exec s' := by
  simp only [exec, tryCatch, tryCatchThe, MonadExceptOf.tryCatch, ExceptT.tryCatch, ExceptT.run,
    ExceptT.mk, bind, StateT.run, StateT.bind, pure]
  rcases m s with ⟨_ | _, _⟩ <;> rfl

/-- Running `m` on the part of the state that `get` reads and `set` writes. -/
def zoom (get : σ → τ) (set : τ → σ → σ) (m : Prog ε τ α) : Prog ε σ α :=
  ofFun fun s => ((m.exec (get s)).1, set (m.exec (get s)).2 s)

@[simp] theorem exec_zoom (get : σ → τ) (set : τ → σ → σ) (m : Prog ε τ α) (s : σ) :
    (zoom get set m).exec s = ((m.exec (get s)).1, set (m.exec (get s)).2 s) := rfl

/-! ## Hoare triples -/

/-- From a state in `P`, a return of `m` satisfies `Q` and an exception satisfies `R`. -/
def Triple (P : σ → Prop) (m : Prog ε σ α) (Q : α → σ → Prop) (R : ε → σ → Prop) : Prop :=
  ∀ s, P s → match m.exec s with
    | (.ok a, s') => Q a s'
    | (.error e, s') => R e s'

variable {P P' : σ → Prop} {Q Q' : α → σ → Prop} {S : β → σ → Prop} {R R' : ε → σ → Prop}

theorem Triple.ok {m : Prog ε σ α} (h : Triple P m Q R) {s s' : σ} {a : α} (hs : P s)
    (hm : m.exec s = (.ok a, s')) : Q a s' := by
  have := h s hs
  rwa [hm] at this

theorem Triple.error {m : Prog ε σ α} (h : Triple P m Q R) {s s' : σ} {e : ε} (hs : P s)
    (hm : m.exec s = (.error e, s')) : R e s' := by
  have := h s hs
  rwa [hm] at this

theorem Triple.conseq {m : Prog ε σ α} (h : Triple P m Q R) (hP : ∀ s, P' s → P s)
    (hQ : ∀ a s, Q a s → Q' a s) (hR : ∀ e s, R e s → R' e s) : Triple P' m Q' R' := by
  intro s hs
  have := h s (hP s hs)
  rcases hm : m.exec s with ⟨e | a, s'⟩ <;> rw [hm] at this
  · exact hR e s' this
  · exact hQ a s' this

theorem Triple.pure {a : α} (h : ∀ s, P s → Q a s) : Triple P (pure a : Prog ε σ α) Q R :=
  fun s hs => h s hs

theorem Triple.throw {e : ε} (h : ∀ s, P s → R e s) : Triple P (throw e : Prog ε σ α) Q R :=
  fun s hs => h s hs

theorem Triple.modify {f : σ → σ} {Q : PUnit → σ → Prop} (h : ∀ s, P s → Q ⟨⟩ (f s)) :
    Triple P (modify f : Prog ε σ PUnit) Q R :=
  fun s hs => h s hs

theorem Triple.bind {m : Prog ε σ α} {f : α → Prog ε σ β} (hm : Triple P m Q R)
    (hf : ∀ a, Triple (Q a) (f a) S R) : Triple P (m >>= f) S R := by
  intro s hs
  rcases h : m.exec s with ⟨e | a, s'⟩
  · rw [exec_bind_error h]; exact hm.error hs h
  · rw [exec_bind_ok h]; exact hf a s' (hm.ok hs h)

/-- After reading the state, the rest of the program runs from the state that was read. -/
theorem Triple.get_bind {f : σ → Prog ε σ β}
    (h : ∀ s₀, P s₀ → Triple (fun s => s = s₀) (f s₀) S R) : Triple P (get >>= f) S R := by
  intro s hs
  rw [exec_bind_ok (exec_get s)]
  exact h s hs s rfl

theorem Triple.tryCatch {m : Prog ε σ α} {h : ε → Prog ε σ α} (hm : Triple P m Q R)
    (hh : ∀ e, Triple (R e) (h e) Q R') : Triple P (tryCatch m h) Q R' := by
  intro s hs
  rw [exec_tryCatch]
  rcases hx : m.exec s with ⟨e | a, s'⟩
  · exact hh e s' (hm.error hs hx)
  · exact hm.ok hs hx

/-! ## Invariants of a program -/

/-- Every outcome of `m` from a state in `I` is in `I`. -/
def Keeps (I : σ → Prop) (m : Prog ε σ α) : Prop := ∀ s, I s → I (m.exec s).2

variable {I J : σ → Prop}

theorem Keeps.triple {m : Prog ε σ α} (h : Keeps I m) : Triple I m (fun _ => I) (fun _ => I) := by
  intro s hs
  have := h s hs
  rcases hm : m.exec s with ⟨_ | _, _⟩ <;> rw [hm] at this <;> exact this

theorem Triple.keeps {m : Prog ε σ α} (h : Triple I m (fun _ => I) (fun _ => I)) : Keeps I m := by
  intro s hs
  have := h s hs
  rcases hm : m.exec s with ⟨_ | _, _⟩ <;> rw [hm] at this <;> exact this

@[simp] theorem Keeps.pure (a : α) : Keeps I (pure a : Prog ε σ α) := fun _ hs => hs

@[simp] theorem Keeps.throw (e : ε) : Keeps I (throw e : Prog ε σ α) := fun _ hs => hs

@[simp] theorem Keeps.get : Keeps I (get : Prog ε σ σ) := fun _ hs => hs

theorem Keeps.modify {f : σ → σ} (h : ∀ s, I s → I (f s)) : Keeps I (modify f : Prog ε σ PUnit) := h

theorem Keeps.bind {m : Prog ε σ α} {f : α → Prog ε σ β} (hm : Keeps I m) (hf : ∀ a, Keeps I (f a)) :
    Keeps I (m >>= f) :=
  (hm.triple.bind fun a => (hf a).triple).keeps

/-- What follows a read of the state may use that the state that was read is in the invariant. -/
theorem Keeps.get_bind {f : σ → Prog ε σ β} (h : ∀ s, I s → Keeps I (f s)) : Keeps I (MonadState.get >>= f) := by
  intro s hs
  rw [exec_bind_ok (exec_get s)]
  exact h s hs s hs

theorem Keeps.map {m : Prog ε σ α} (f : α → β) (hm : Keeps I m) : Keeps I (f <$> m) := by
  rw [← bind_pure_comp]
  exact hm.bind fun a => Keeps.pure (f a)

theorem Keeps.tryCatch {m : Prog ε σ α} {h : ε → Prog ε σ α} (hm : Keeps I m)
    (hh : ∀ e, Keeps I (h e)) : Keeps I (tryCatch m h) :=
  (hm.triple.tryCatch fun e => (hh e).triple).keeps

theorem Keeps.ite {c : Prop} [Decidable c] {m n : Prog ε σ α} (hm : c → Keeps I m)
    (hn : ¬ c → Keeps I n) : Keeps I (if c then m else n) := by
  split
  · exact hm ‹_›
  · exact hn ‹_›

/-- A program on a part of the state keeps what it keeps of that part. -/
theorem Keeps.zoom {get : σ → τ} {set : τ → σ → σ} {m : Prog ε τ α} {K : τ → Prop} (hm : Keeps K m)
    (hset : ∀ t s, get (set t s) = t) : Keeps (fun s => K (get s)) (zoom get set m) := by
  intro s hs
  rw [exec_zoom]
  simp only [hset]
  exact hm (get s) hs

/-- A component of the state that a program never changes. -/
def Leaves (f : σ → τ) (m : Prog ε σ α) : Prop := ∀ s, f (m.exec s).2 = f s

variable {f : σ → τ}

theorem Leaves.keeps {m : Prog ε σ α} (h : Leaves f m) (v : τ) : Keeps (fun s => f s = v) m :=
  fun s hs => (h s).trans hs

theorem Leaves.of_keeps {m : Prog ε σ α} (h : ∀ v, Keeps (fun s => f s = v) m) : Leaves f m :=
  fun s => h (f s) s rfl

@[simp] theorem Leaves.pure (a : α) : Leaves f (pure a : Prog ε σ α) := fun _ => rfl

@[simp] theorem Leaves.throw (e : ε) : Leaves f (throw e : Prog ε σ α) := fun _ => rfl

@[simp] theorem Leaves.get : Leaves f (get : Prog ε σ σ) := fun _ => rfl

theorem Leaves.modify {g : σ → σ} (h : ∀ s, f (g s) = f s) : Leaves f (modify g : Prog ε σ PUnit) := h

theorem Leaves.bind {m : Prog ε σ α} {k : α → Prog ε σ β} (hm : Leaves f m)
    (hk : ∀ a, Leaves f (k a)) : Leaves f (m >>= k) :=
  .of_keeps fun v => (hm.keeps v).bind fun a => (hk a).keeps v

theorem Leaves.map {m : Prog ε σ α} (g : α → β) (hm : Leaves f m) : Leaves f (g <$> m) :=
  .of_keeps fun v => (hm.keeps v).map g

theorem Leaves.tryCatch {m : Prog ε σ α} {h : ε → Prog ε σ α} (hm : Leaves f m)
    (hh : ∀ e, Leaves f (h e)) : Leaves f (tryCatch m h) :=
  .of_keeps fun v => (hm.keeps v).tryCatch fun e => (hh e).keeps v

theorem Leaves.ite {c : Prop} [Decidable c] {m n : Prog ε σ α} (hm : c → Leaves f m)
    (hn : ¬ c → Leaves f n) : Leaves f (if c then m else n) := by
  split
  · exact hm ‹_›
  · exact hn ‹_›

end Prog

end SartoriusLib.Lib
