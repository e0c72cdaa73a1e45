import SartoriusLib.Lib.Trace
import SartoriusLib.Transport.Base

/-!
# Transports that log every call

`traced T` behaves as `T` and keeps the calls that were made of it, each read with what it returned. What a
protocol client does to the line is a statement about this trace, for every transport.
-/

namespace SartoriusLib

open Lib

/-- A call of a transport; a read that raised returned nothing. -/
inductive LineEvent where
  | wrote (data : Bytes)
  | readBytes (n : Nat) (got : Option Bytes)
  | readLine (got : Option Bytes)
  | drained
  | reopened
  deriving DecidableEq, Repr

/-- A world with the calls that were made of its transport. -/
structure Traced (W : Type) where
  world : W
  events : List LineEvent := []

namespace Traced

variable {W : Type}

/-- What a call returned. -/
def returned {α : Type} : Except Exc α → Option α
  | .ok a => some a
  | .error _ => none

def call {α : Type} (event : Except Exc α → LineEvent) (m : Py W α) : Py (Traced W) α :=
  Prog.ofFun fun t => ((m.exec t.world).1,
    { world := (m.exec t.world).2, events := t.events ++ [event (m.exec t.world).1] })

theorem call_emits {α : Type} (event : Except Exc α → LineEvent) (m : Py W α) :
    Prog.Emits Traced.events (call event m) fun r es => es = [event r] :=
  fun _ => ⟨_, rfl, rfl⟩

end Traced

/-- The transport `T` with the trace of its calls. -/
def traced {W : Type} (T : Transport W) : Transport (Traced W) where
  label t := T.label t.world
  write data timeout := Traced.call (fun _ => .wrote data) (T.write data timeout)
  readExact n timeout := Traced.call (fun r => .readBytes n (Traced.returned r)) (T.readExact n timeout)
  readUntil separator timeout :=
    Traced.call (fun r => .readLine (Traced.returned r)) (T.readUntil separator timeout)
  drainInput := Traced.call (fun _ => .drained) T.drainInput
  reopen baudrate parity stopbits :=
    Traced.call (fun _ => .reopened) (T.reopen baudrate parity stopbits)

section Calls

variable {W : Type} (T : Transport W)

theorem write_emits (data : Bytes) (timeout : Rat) :
    Prog.Emits Traced.events ((traced T).write data timeout) fun _ es => es = [.wrote data] :=
  Traced.call_emits _ _

theorem readExact_emits (n : Nat) (timeout : Rat) :
    Prog.Emits Traced.events ((traced T).readExact n timeout)
      fun r es => es = [.readBytes n (Traced.returned r)] :=
  Traced.call_emits _ _

theorem readUntil_emits (separator : Bytes) (timeout : Rat) :
    Prog.Emits Traced.events ((traced T).readUntil separator timeout)
      fun r es => es = [.readLine (Traced.returned r)] :=
  Traced.call_emits _ _

theorem drainInput_emits : Prog.Emits Traced.events (traced T).drainInput fun _ es => es = [.drained] :=
  Traced.call_emits _ _

end Calls

/-- What the calls wrote, in order. -/
def writes (events : List LineEvent) : List Bytes :=
  events.filterMap fun
    | .wrote data => some data
    | _ => none

@[simp] theorem writes_nil : writes [] = [] := rfl

@[simp] theorem writes_append (es later : List LineEvent) : writes (es ++ later) = writes es ++ writes later :=
  List.filterMap_append

@[simp] theorem writes_wrote (data : Bytes) (es : List LineEvent) :
    writes (.wrote data :: es) = data :: writes es := rfl

@[simp] theorem writes_readBytes (n : Nat) (got : Option Bytes) (es : List LineEvent) :
    writes (.readBytes n got :: es) = writes es := rfl

@[simp] theorem writes_readLine (got : Option Bytes) (es : List LineEvent) :
    writes (.readLine got :: es) = writes es := rfl

@[simp] theorem writes_drained (es : List LineEvent) : writes (.drained :: es) = writes es := rfl

/-! ## OnlyReads -/

/-- OnlyReads and nothing else. -/
def OnlyReads (es : List LineEvent) : Prop := ∀ e ∈ es, (∃ n got, e = .readBytes n got) ∨ ∃ got, e = .readLine got

theorem OnlyReads.nil : OnlyReads [] := fun _ h => absurd h List.not_mem_nil

theorem OnlyReads.bytes (n : Nat) (got : Option Bytes) : OnlyReads [.readBytes n got] :=
  fun _ he => .inl ⟨n, got, List.mem_singleton.mp he⟩

theorem OnlyReads.line (got : Option Bytes) : OnlyReads [.readLine got] :=
  fun _ he => .inr ⟨got, List.mem_singleton.mp he⟩

theorem OnlyReads.append {es later : List LineEvent} (h : OnlyReads es) (h' : OnlyReads later) :
    OnlyReads (es ++ later) := by
  intro e he
  cases List.mem_append.mp he with
  | inl he => exact h e he
  | inr he => exact h' e he

theorem OnlyReads.writes {es : List LineEvent} (h : OnlyReads es) : writes es = [] := by
  rw [SartoriusLib.writes, List.filterMap_eq_nil_iff]
  intro e he
  rcases h e he with ⟨n, got, rfl⟩ | ⟨got, rfl⟩ <;> rfl

theorem OnlyReads.drains {es : List LineEvent} (h : OnlyReads es) : LineEvent.drained ∉ es := by
  intro he
  rcases h _ he with ⟨_, _, h⟩ | ⟨_, h⟩ <;> cases h

theorem OnlyReads.settings {es : List LineEvent} (h : OnlyReads es) : LineEvent.reopened ∉ es := by
  intro he
  rcases h _ he with ⟨_, _, h⟩ | ⟨_, h⟩ <;> cases h

/-! ## Rules -/

section Rules

variable {σ α η : Type} {trace : σ → List η} {P Q : Except Exc α → List η → Prop}

/-- What `try m except (classes): h` adds to the trace. -/
theorem Emits.exceptClasses {classes : List ErrorClass} {m : Py σ α} {h : Exc → Py σ α}
    (hm : Prog.Emits trace m P) (hok : ∀ a es, P (.ok a) es → Q (.ok a) es)
    (hpass : ∀ e es, P (.error e) es → classes.any e.isinstance = false → Q (.error e) es)
    (herror : ∀ e es, P (.error e) es → classes.any e.isinstance = true →
      Prog.Emits trace (h e) fun r later => Q r (es ++ later)) :
    Prog.Emits trace (exceptClasses classes m h) Q := by
  refine hm.tryCatch hok fun e es he => ?_
  split
  · rename_i hc
    exact herror e es he hc
  · rename_i hc
    refine Prog.Emits.throw ?_
    rw [List.append_nil]
    exact hpass e es he (Bool.eq_false_iff.mpr hc)

/-- What `try m except Exception: h` adds to the trace. -/
theorem Emits.exceptException {m : Py σ α} {h : Exc → Py σ α}
    (hm : Prog.Emits trace m P) (hok : ∀ a es, P (.ok a) es → Q (.ok a) es)
    (hpass : ∀ e es, P (.error e) es → e.isException = false → Q (.error e) es)
    (herror : ∀ e es, P (.error e) es → e.isException = true →
      Prog.Emits trace (h e) fun r later => Q r (es ++ later)) :
    Prog.Emits trace (exceptException m h) Q := by
  refine hm.tryCatch hok fun e es he => ?_
  split
  · rename_i hc
    exact herror e es he hc
  · rename_i hc
    refine Prog.Emits.throw ?_
    rw [List.append_nil]
    exact hpass e es he (Bool.eq_false_iff.mpr hc)

/-- A suppressed call logs what the call logs. -/
theorem Emits.suppress {m : Py σ Unit} {P : List η → Prop} (hm : Prog.Emits trace m fun _ => P) :
    Prog.Emits trace (suppress m) fun _ => P :=
  Emits.exceptClasses hm (fun _ _ h => h) (fun _ _ h _ => h) fun _ es h _ =>
    Prog.Emits.pure ((List.append_nil es).symm ▸ h)

theorem Emits.liftExcept {x : Except SartoriusError α} (h : P (x.mapError .sartorius) []) :
    Prog.Emits trace (liftExcept x) P := by
  cases x with
  | ok a => exact Prog.Emits.pure h
  | error e => exact Prog.Emits.throw h

end Rules

end SartoriusLib
