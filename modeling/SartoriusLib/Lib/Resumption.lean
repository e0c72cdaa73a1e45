import Mathlib.Order.Basic
import SartoriusLib.Lib.Program

/-!
# Resumptions

A resumption computes on a shared state without interruption until it waits for the answer to a call. What it
does next depends on the answer and on the state it finds then, which others may have changed. A resumption that
runs alone is a program.
-/

namespace SartoriusLib.Lib

/-- A computation over states `σ` that ends with an `α` or an `ε`, or makes a call `c` and waits for its answer;
`next` is the rest of it and `after` the state up to its next call. -/
inductive Resumption (ε σ : Type) {C : Type} (Ans : C → Type) (α : Type) : Type where
  | done (result : Except ε α)
  | ask (c : C) (next : Except ε (Ans c) → σ → Resumption ε σ Ans α) (after : Except ε (Ans c) → σ → σ)

/-- A resumption that is started in a state: it runs up to its first call. -/
def Async (ε σ : Type) {C : Type} (Ans : C → Type) (α : Type) : Type := σ → Resumption ε σ Ans α × σ

variable {ε σ C : Type} {Ans : C → Type} {α β : Type}

namespace Resumption

/-- `f` runs where the resumption returns. -/
def bind (f : α → Async ε σ Ans β) : Resumption ε σ Ans α → Async ε σ Ans β
  | done (.ok a), s => f a s
  | done (.error e), s => (done (.error e), s)
  | ask c next after, s =>
      (ask c (fun x t => (bind f (next x t) (after x t)).1) fun x t => (bind f (next x t) (after x t)).2, s)

/-- `h` runs where the resumption raises. -/
def handle (h : ε → Async ε σ Ans α) : Resumption ε σ Ans α → Async ε σ Ans α
  | done (.ok a), s => (done (.ok a), s)
  | done (.error e), s => h e s
  | ask c next after, s =>
      (ask c (fun x t => (handle h (next x t) (after x t)).1) fun x t => (handle h (next x t) (after x t)).2, s)

/-- The resumption when it runs alone and its calls are answered by `answer`. -/
def alone (answer : (c : C) → Prog ε σ (Ans c)) : Resumption ε σ Ans α → σ → Except ε α × σ
  | done result, s => (result, s)
  | ask c next after, s =>
      let (x, t) := (answer c).exec s
      alone answer (next x t) (after x t)

end Resumption

namespace Async

/-- The call `c`. -/
def call (c : C) : Async ε σ Ans (Ans c) := fun s => (.ask c (fun x _ => .done x) fun _ t => t, s)

/-- A program that makes no call. -/
def lift (m : Prog ε σ α) : Async ε σ Ans α := fun s => (.done (m.exec s).1, (m.exec s).2)

instance : Monad (Async ε σ Ans) where
  pure a := fun s => (.done (.ok a), s)
  bind m f := fun s => (m s).1.bind f (m s).2

instance : MonadExceptOf ε (Async ε σ Ans) where
  throw e := fun s => (.done (.error e), s)
  tryCatch m h := fun s => (m s).1.handle h (m s).2

instance : MonadLift (Prog ε σ) (Async ε σ Ans) := ⟨lift⟩

/-- The program that a resumption is when it runs alone. -/
def alone (answer : (c : C) → Prog ε σ (Ans c)) (m : Async ε σ Ans α) : Prog ε σ α :=
  .ofFun fun s => (m s).1.alone answer (m s).2

/-! ## Up to the first call -/

theorem bind_apply (m : Async ε σ Ans α) (f : α → Async ε σ Ans β) (s : σ) :
    (m >>= f) s = (m s).1.bind f (m s).2 := rfl

theorem lift_bind_ok {m : Prog ε σ α} {s t : σ} {a : α} (h : m.exec s = (.ok a, t)) (f : α → Async ε σ Ans β) :
    (lift m >>= f) s = f a t := by
  rw [bind_apply, lift, h]
  rfl

theorem lift_bind_error {m : Prog ε σ α} {s t : σ} {e : ε} (h : m.exec s = (.error e, t))
    (f : α → Async ε σ Ans β) : (lift m >>= f) s = (.done (.error e), t) := by
  rw [bind_apply, lift, h]
  rfl

theorem bind_of_done {m : Async ε σ Ans α} {s t : σ} {e : ε} (h : m s = (.done (.error e), t))
    (f : α → Async ε σ Ans β) : (m >>= f) s = (.done (.error e), t) := by
  rw [bind_apply, h]
  rfl

end Async

/-- The resumption waits for an answer. -/
def Resumption.waits : Resumption ε σ Ans α → Prop
  | done _ => False
  | ask .. => True

namespace Async

theorem call_waits (c : C) (s : σ) : (call c s : Resumption ε σ Ans (Ans c) × σ).1.waits := trivial

theorem bind_waits {m : Async ε σ Ans α} {s : σ} (h : (m s).1.waits) (f : α → Async ε σ Ans β) :
    ((m >>= f) s).1.waits := by
  rw [bind_apply]
  cases hm : (m s).1 with
  | done result => rw [hm] at h; exact h.elim
  | ask c next after => trivial

theorem tryCatch_waits {m : Async ε σ Ans α} {s : σ} (hm : (m s).1.waits) (h : ε → Async ε σ Ans α) :
    (tryCatch m h s : Resumption ε σ Ans α × σ).1.waits := by
  show ((m s).1.handle h (m s).2).1.waits
  cases hask : (m s).1 with
  | done result => rw [hask] at hm; exact hm.elim
  | ask c next after => trivial

end Async

/-! ## Between the calls -/

section Obeys

variable {τ : Type} {v : σ → τ} {R : (c : C) → Except ε (Ans c) → σ → ε → σ → Prop}

/-- Between its calls the resumption leaves the component `v` of the state alone, and an answer that `R` relates
to an error and a state ends it with that error in that state. -/
def Resumption.Obeys (v : σ → τ) (R : (c : C) → Except ε (Ans c) → σ → ε → σ → Prop) :
    Resumption ε σ Ans α → Prop
  | done _ => True
  | ask c next after =>
      ∀ x s, v (after x s) = v s ∧ (next x s).Obeys v R ∧
        ∀ e s', R c x s e s' → next x s = .done (.error e) ∧ after x s = s'

namespace Async

def Obeys (v : σ → τ) (R : (c : C) → Except ε (Ans c) → σ → ε → σ → Prop) (m : Async ε σ Ans α) : Prop :=
  ∀ s, v (m s).2 = v s ∧ (m s).1.Obeys v R

theorem bind_obeys {t : Resumption ε σ Ans α} (ht : t.Obeys v R) {f : α → Async ε σ Ans β}
    (hf : ∀ a, Obeys v R (f a)) (s : σ) : v (t.bind f s).2 = v s ∧ (t.bind f s).1.Obeys v R := by
  induction t generalizing s with
  | done result =>
      cases result with
      | ok a => exact hf a s
      | error e => exact ⟨rfl, trivial⟩
  | ask c next after ih =>
      refine ⟨rfl, fun x s => ?_⟩
      obtain ⟨hsame, hnext, hends⟩ := ht x s
      obtain ⟨hbind, hrest⟩ := ih x s hnext (after x s)
      refine ⟨hbind.trans hsame, hrest, fun e s' hR => ?_⟩
      obtain ⟨hdone, hafter⟩ := hends e s' hR
      simp only [hdone, Resumption.bind, hafter, and_self]

theorem handle_obeys {t : Resumption ε σ Ans α} (ht : t.Obeys v R) {h : ε → Async ε σ Ans α}
    (hh : ∀ e, Obeys v R (h e)) (hR : ∀ c x s e s', R c x s e s' → h e s' = (.done (.error e), s')) (s : σ) :
    v (t.handle h s).2 = v s ∧ (t.handle h s).1.Obeys v R := by
  induction t generalizing s with
  | done result =>
      cases result with
      | ok a => exact ⟨rfl, trivial⟩
      | error e => exact hh e s
  | ask c next after ih =>
      refine ⟨rfl, fun x s => ?_⟩
      obtain ⟨hsame, hnext, hends⟩ := ht x s
      obtain ⟨hhandle, hrest⟩ := ih x s hnext (after x s)
      refine ⟨hhandle.trans hsame, hrest, fun e s' hx => ?_⟩
      obtain ⟨hdone, hafter⟩ := hends e s' hx
      simp only [hdone, Resumption.handle, hafter, hR c x s e s' hx, and_self]

namespace Obeys

theorem pure (a : α) : Obeys v R (pure a : Async ε σ Ans α) := fun _ => ⟨rfl, trivial⟩

theorem throw (e : ε) : Obeys v R (throw e : Async ε σ Ans α) := fun _ => ⟨rfl, trivial⟩

theorem lift {m : Prog ε σ α} (hm : Prog.Leaves v m) : Obeys v R (lift m : Async ε σ Ans α) :=
  fun s => ⟨hm s, trivial⟩

/-- A call on its own passes on the error that answers it, and no other. -/
theorem call {c : C} (hR : ∀ x s e s', R c x s e s' → x = .error e ∧ s = s') :
    Obeys v R (call c : Async ε σ Ans (Ans c)) := by
  refine fun _ => ⟨rfl, fun x s => ⟨rfl, trivial, fun e s' hx => ?_⟩⟩
  obtain ⟨rfl, hs⟩ := hR x s e s' hx
  exact ⟨rfl, hs⟩

theorem bind {m : Async ε σ Ans α} {f : α → Async ε σ Ans β} (hm : Obeys v R m) (hf : ∀ a, Obeys v R (f a)) :
    Obeys v R (m >>= f) := by
  intro s
  obtain ⟨hsame, hrest⟩ := bind_obeys (hm s).2 hf (m s).2
  exact ⟨hsame.trans (hm s).1, hrest⟩

theorem map {m : Async ε σ Ans α} (f : α → β) (hm : Obeys v R m) : Obeys v R (f <$> m) :=
  hm.bind fun a => pure (f a)

theorem tryCatch {m : Async ε σ Ans α} {h : ε → Async ε σ Ans α} (hm : Obeys v R m) (hh : ∀ e, Obeys v R (h e))
    (hR : ∀ c x s e s', R c x s e s' → h e s' = (.done (.error e), s')) : Obeys v R (tryCatch m h) := by
  intro s
  obtain ⟨hsame, hrest⟩ := handle_obeys (hm s).2 hh hR (m s).2
  exact ⟨hsame.trans (hm s).1, hrest⟩

theorem ite {p : Prop} [Decidable p] {m n : Async ε σ Ans α} (hm : p → Obeys v R m) (hn : ¬ p → Obeys v R n) :
    Obeys v R (if p then m else n) := by
  split
  · exact hm ‹_›
  · exact hn ‹_›

end Obeys

end Async

end Obeys

/-! ## Which calls are made -/

/-- The resumption makes only calls in `P`. -/
def Resumption.Only (P : C → Prop) : Resumption ε σ Ans α → Prop
  | done _ => True
  | ask c next _ => P c ∧ ∀ x s, (next x s).Only P

namespace Async

variable {P : C → Prop}

def Only (P : C → Prop) (m : Async ε σ Ans α) : Prop := ∀ s, (m s).1.Only P

theorem bind_only {t : Resumption ε σ Ans α} (ht : t.Only P) {f : α → Async ε σ Ans β} (hf : ∀ a, Only P (f a))
    (s : σ) : (t.bind f s).1.Only P := by
  induction t generalizing s with
  | done result =>
      cases result with
      | ok a => exact hf a s
      | error e => trivial
  | ask c next after ih => exact ⟨ht.1, fun x s => ih x s (ht.2 x s) (after x s)⟩

theorem handle_only {t : Resumption ε σ Ans α} (ht : t.Only P) {h : ε → Async ε σ Ans α} (hh : ∀ e, Only P (h e))
    (s : σ) : (t.handle h s).1.Only P := by
  induction t generalizing s with
  | done result =>
      cases result with
      | ok a => trivial
      | error e => exact hh e s
  | ask c next after ih => exact ⟨ht.1, fun x s => ih x s (ht.2 x s) (after x s)⟩

namespace Only

theorem pure (a : α) : Only P (pure a : Async ε σ Ans α) := fun _ => trivial

theorem throw (e : ε) : Only P (throw e : Async ε σ Ans α) := fun _ => trivial

theorem lift (m : Prog ε σ α) : Only P (lift m : Async ε σ Ans α) := fun _ => trivial

theorem call {c : C} (hc : P c) : Only P (call c : Async ε σ Ans (Ans c)) := fun _ => ⟨hc, fun _ _ => trivial⟩

theorem bind {m : Async ε σ Ans α} {f : α → Async ε σ Ans β} (hm : Only P m) (hf : ∀ a, Only P (f a)) :
    Only P (m >>= f) :=
  fun s => bind_only (hm s) hf (m s).2

theorem tryCatch {m : Async ε σ Ans α} {h : ε → Async ε σ Ans α} (hm : Only P m) (hh : ∀ e, Only P (h e)) :
    Only P (tryCatch m h) :=
  fun s => handle_only (hm s) hh (m s).2

end Only

end Async

/-! ## In which states calls are made -/

section Asks

variable {τ : Type} [Preorder τ] {v : σ → τ} {P : C → σ → Prop}

/-- Each call `c` is made in a state `s` with `P c s`, as long as nobody lowers the component `v` of the state while
the answer is awaited; the resumption does not lower it either. -/
def Resumption.Asks (v : σ → τ) (P : C → σ → Prop) : Resumption ε σ Ans α → σ → Prop
  | done _, _ => True
  | ask c next after, s => P c s ∧ ∀ x t, v s ≤ v t → v t ≤ v (after x t) ∧ (next x t).Asks v P (after x t)

namespace Async

def Asks (v : σ → τ) (P : C → σ → Prop) (m : Async ε σ Ans α) (s : σ) : Prop :=
  v s ≤ v (m s).2 ∧ (m s).1.Asks v P (m s).2

theorem bind_asks {r : Resumption ε σ Ans α} {f : α → Async ε σ Ans β} {s t : σ} (hr : r.Asks v P t)
    (hst : v s ≤ v t) (hf : ∀ a t, v s ≤ v t → Asks v P (f a) t) :
    v t ≤ v (r.bind f t).2 ∧ (r.bind f t).1.Asks v P (r.bind f t).2 := by
  induction r generalizing t with
  | done result =>
      cases result with
      | ok a => exact hf a t hst
      | error e => exact ⟨le_rfl, trivial⟩
  | ask c next after ih =>
      refine ⟨le_rfl, hr.1, fun x u htu => ?_⟩
      obtain ⟨hsame, hnext⟩ := hr.2 x u htu
      obtain ⟨hbind, hrest⟩ := ih x u hnext ((hst.trans htu).trans hsame)
      exact ⟨hsame.trans hbind, hrest⟩

theorem handle_asks {r : Resumption ε σ Ans α} {h : ε → Async ε σ Ans α} {s t : σ} (hr : r.Asks v P t)
    (hst : v s ≤ v t) (hh : ∀ e t, v s ≤ v t → Asks v P (h e) t) :
    v t ≤ v (r.handle h t).2 ∧ (r.handle h t).1.Asks v P (r.handle h t).2 := by
  induction r generalizing t with
  | done result =>
      cases result with
      | ok a => exact ⟨le_rfl, trivial⟩
      | error e => exact hh e t hst
  | ask c next after ih =>
      refine ⟨le_rfl, hr.1, fun x u htu => ?_⟩
      obtain ⟨hsame, hnext⟩ := hr.2 x u htu
      obtain ⟨hhandle, hrest⟩ := ih x u hnext ((hst.trans htu).trans hsame)
      exact ⟨hsame.trans hhandle, hrest⟩

namespace Asks

variable {s : σ}

theorem pure (a : α) : Asks v P (pure a : Async ε σ Ans α) s := ⟨le_rfl, trivial⟩

theorem throw (e : ε) : Asks v P (throw e : Async ε σ Ans α) s := ⟨le_rfl, trivial⟩

theorem lift {m : Prog ε σ α} (hm : v s ≤ v (m.exec s).2) : Asks v P (lift m : Async ε σ Ans α) s :=
  ⟨hm, trivial⟩

theorem call {c : C} (hc : P c s) : Asks v P (call c : Async ε σ Ans (Ans c)) s :=
  ⟨le_rfl, hc, fun _ _ _ => ⟨le_rfl, trivial⟩⟩

theorem bind {m : Async ε σ Ans α} {f : α → Async ε σ Ans β} (hm : Asks v P m s)
    (hf : ∀ a t, v s ≤ v t → Asks v P (f a) t) : Asks v P (m >>= f) s := by
  obtain ⟨hbind, hrest⟩ := bind_asks hm.2 hm.1 hf
  exact ⟨hm.1.trans hbind, hrest⟩

theorem map {m : Async ε σ Ans α} (f : α → β) (hm : Asks v P m s) : Asks v P (f <$> m) s :=
  hm.bind fun a _ _ => pure (f a)

/-- What follows a program that makes no call starts in the state in which the program ends. -/
theorem lift_bind {m : Prog ε σ α} {f : α → Async ε σ Ans β} (hm : v s ≤ v (m.exec s).2)
    (hf : ∀ a t, m.exec s = (.ok a, t) → Asks v P (f a) t) : Asks v P (Async.lift m >>= f) s := by
  rcases hrun : m.exec s with ⟨e | a, t⟩
  · rw [hrun] at hm
    rw [Asks, lift_bind_error hrun]
    exact ⟨hm, trivial⟩
  · rw [hrun] at hm
    obtain ⟨hsame, hrest⟩ := hf a t hrun
    rw [Asks, lift_bind_ok hrun]
    exact ⟨hm.trans hsame, hrest⟩

theorem tryCatch {m : Async ε σ Ans α} {h : ε → Async ε σ Ans α} (hm : Asks v P m s)
    (hh : ∀ e t, v s ≤ v t → Asks v P (h e) t) : Asks v P (tryCatch m h) s := by
  obtain ⟨hhandle, hrest⟩ := handle_asks hm.2 hm.1 hh
  exact ⟨hm.1.trans hhandle, hrest⟩

theorem ite {p : Prop} [Decidable p] {m n : Async ε σ Ans α} (hm : p → Asks v P m s) (hn : ¬ p → Asks v P n s) :
    Asks v P (if p then m else n) s := by
  split
  · exact hm ‹_›
  · exact hn ‹_›

end Asks

end Async

end Asks

namespace Async

/-! ## Alone -/

variable {answer : (c : C) → Prog ε σ (Ans c)}

theorem alone_resumptionBind (f : α → Async ε σ Ans β) (t : Resumption ε σ Ans α) (s : σ) :
    (t.bind f s).1.alone answer (t.bind f s).2 =
      match t.alone answer s with
      | (.ok a, s') => ((f a).alone answer).exec s'
      | (.error e, s') => (.error e, s') := by
  induction t generalizing s with
  | done result => cases result <;> rfl
  | ask c next after ih => exact ih _ _ _

theorem alone_resumptionHandle (h : ε → Async ε σ Ans α) (t : Resumption ε σ Ans α) (s : σ) :
    (t.handle h s).1.alone answer (t.handle h s).2 =
      match t.alone answer s with
      | (.ok a, s') => (.ok a, s')
      | (.error e, s') => ((h e).alone answer).exec s' := by
  induction t generalizing s with
  | done result => cases result <;> rfl
  | ask c next after ih => exact ih _ _ _

theorem ext_exec {m n : Prog ε σ α} (h : ∀ s, m.exec s = n.exec s) : m = n := funext h

@[simp] theorem alone_pure (a : α) : alone answer (pure a) = pure a := rfl

@[simp] theorem alone_throw (e : ε) : alone answer (throw e : Async ε σ Ans α) = throw e := rfl

@[simp] theorem alone_lift (m : Prog ε σ α) : alone answer (lift m) = m := ext_exec fun _ => rfl

@[simp] theorem alone_monadLift (m : Prog ε σ α) :
    alone answer (MonadLift.monadLift m : Async ε σ Ans α) = m := alone_lift m

@[simp] theorem alone_call (c : C) : alone answer (call c : Async ε σ Ans (Ans c)) = answer c :=
  ext_exec fun _ => rfl

@[simp] theorem alone_bind (m : Async ε σ Ans α) (f : α → Async ε σ Ans β) :
    alone answer (m >>= f) = alone answer m >>= fun a => alone answer (f a) :=
  ext_exec fun s => (alone_resumptionBind f (m s).1 (m s).2).trans (Prog.exec_bind _ _ _).symm

@[simp] theorem alone_tryCatch (m : Async ε σ Ans α) (h : ε → Async ε σ Ans α) :
    alone answer (tryCatch m h) = tryCatch (alone answer m) fun e => alone answer (h e) :=
  ext_exec fun s => (alone_resumptionHandle h (m s).1 (m s).2).trans (Prog.exec_tryCatch _ _ _).symm

@[simp] theorem alone_ite {p : Prop} [Decidable p] (m n : Async ε σ Ans α) :
    alone answer (if p then m else n) = if p then alone answer m else alone answer n := by
  split <;> rfl

end Async

end SartoriusLib.Lib
