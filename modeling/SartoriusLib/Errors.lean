import SartoriusLib.Lib.Program

/-!
# The exception hierarchy

Every library exception carries a class and a structured context. An `except` clause selects by class, so
the multiple inheritance of the device refusals is part of the model; `asyncio` cancellation is the one
exception that `except Exception` does not catch.
-/

namespace SartoriusLib

open Lib

/-- A byte string on the wire. -/
abbrev Bytes : Type := List UInt8

instance : LawfulBEq Bytes := inferInstanceAs (LawfulBEq (List UInt8))

/-- The classes of `errors.py`, without the common `Sartorius` prefix. -/
inductive ErrorClass where
  | sartoriusError
  | configurationError
  | unknownUnitError
  | invalidParameterIndexError
  | invalidSbnError
  | confirmationRequiredError
  | validationError
  | transportError
  | timeoutError
  | connectionError
  | transientTransportError
  | protocolError
  | frameError
  | parseError
  | commandRejectedError
  | protocolUnsupportedError
  | autoprintActiveError
  | capabilityError
  | unsupportedCommandError
  | valueOutOfRangeError
  | operationNotApplicableError
  | missingArgsError
  | indexOutOfRangeError
  | firmwareError
  | sinkError
  | sinkDependencyError
  | sinkSchemaError
  | sinkWriteError
  deriving DecidableEq, Repr

namespace ErrorClass

/-- The direct base classes. -/
def bases : ErrorClass → List ErrorClass
  | sartoriusError => []
  | configurationError | transportError | protocolError | capabilityError | sinkError => [sartoriusError]
  | unknownUnitError | invalidParameterIndexError | invalidSbnError | confirmationRequiredError
  | validationError => [configurationError]
  | timeoutError | connectionError | transientTransportError => [transportError]
  | frameError | parseError | commandRejectedError | protocolUnsupportedError
  | autoprintActiveError => [protocolError]
  | unsupportedCommandError | valueOutOfRangeError | operationNotApplicableError | missingArgsError
  | indexOutOfRangeError => [capabilityError, commandRejectedError]
  | firmwareError => [capabilityError]
  | sinkDependencyError => [sinkError, configurationError]
  | sinkSchemaError | sinkWriteError => [sinkError]

/-- `c` is reached from the class in at most `n` steps up the hierarchy. -/
def reaches (c : ErrorClass) : Nat → ErrorClass → Bool
  | 0, d => d == c
  | n + 1, d => d == c || d.bases.any (reaches c n)

/-- `issubclass(d, c)`; no chain of bases is longer than three. -/
def issubclass (d c : ErrorClass) : Bool := reaches c 3 d

theorem issubclass_sartoriusError (c : ErrorClass) : c.issubclass sartoriusError = true := by
  cases c <;> rfl

end ErrorClass

/-- A value in the `extra` mapping of an error context. -/
inductive Extra where
  | int (n : Int)
  | text (s : String)
  | flag (b : Bool)
  | texts (l : List String)
  | seconds (t : Rat)
  deriving DecidableEq, Repr

/-- The context fields that the modelled functions fill in. -/
structure ErrorContext where
  commandName : Option String := none
  opcode : Option Int := none
  sbiToken : Option Bytes := none
  rawResponse : Option Bytes := none
  protocol : Option String := none
  port : Option String := none
  family : Option String := none
  extra : List (String × Extra) := []
  deriving DecidableEq, Repr

structure SartoriusError where
  cls : ErrorClass
  message : String
  context : ErrorContext := {}
  deriving DecidableEq, Repr

/-- What a `raise` can carry out of a library call. -/
inductive Exc where
  | sartorius (e : SartoriusError)
  | valueError (message : String)
  | unicodeEncodeError
  | assertionError
  | runtimeError (message : String)
  /-- A value of the wrong class. -/
  | typeError (message : String)
  /-- A method of `None`. -/
  | attributeError (message : String)
  /-- A `SartoriusCapabilityWarning` that the active warning filter turned into an exception. -/
  | capabilityWarning (message : String)
  /-- Cancellation of the running task, a `BaseException`. -/
  | cancelled
  deriving DecidableEq, Repr

namespace Exc

/-- Caught by `except Exception`. -/
def isException : Exc → Bool
  | cancelled => false
  | _ => true

/-- `isinstance(exc, c)` for a library class `c`. -/
def isinstance (c : ErrorClass) : Exc → Bool
  | sartorius e => e.cls.issubclass c
  | _ => false

/-- The class of a library exception. -/
def cls? : Exc → Option ErrorClass
  | sartorius e => some e.cls
  | _ => none

@[simp] theorem isinstance_sartorius (c : ErrorClass) (e : SartoriusError) :
    (sartorius e).isinstance c = e.cls.issubclass c := rfl

end Exc

/-- A library call over a state `σ`. -/
abbrev Py (σ α : Type) : Type := Prog Exc σ α

/-- `raise cls(message, context=context)`. -/
def raise {σ α : Type} (cls : ErrorClass) (message : String) (context : ErrorContext := {}) : Py σ α :=
  throw (.sartorius ⟨cls, message, context⟩)

/-- A pure function that may raise a library exception, called from a program. -/
def liftExcept {σ α : Type} : Except SartoriusError α → Py σ α
  | .ok a => pure a
  | .error e => throw (.sartorius e)

/-- `try m except (classes): h`. -/
def exceptClasses {σ α : Type} (classes : List ErrorClass) (m : Py σ α) (h : Exc → Py σ α) : Py σ α :=
  tryCatch m fun e => if classes.any e.isinstance then h e else throw e

/-- `try m except Exception: h`. -/
def exceptException {σ α : Type} (m : Py σ α) (h : Exc → Py σ α) : Py σ α :=
  tryCatch m fun e => if e.isException then h e else throw e

/-- `with contextlib.suppress(SartoriusError): m`. -/
def suppress {σ : Type} (m : Py σ Unit) : Py σ Unit :=
  exceptClasses [.sartoriusError] m fun _ => pure ()

section Rules

variable {σ α τ : Type} {I : σ → Prop}

@[simp] theorem exec_raise (cls : ErrorClass) (msg : String) (ctx : ErrorContext) (s : σ) :
    (raise cls msg ctx : Py σ α).exec s = (.error (.sartorius ⟨cls, msg, ctx⟩), s) := rfl

@[simp] theorem exec_liftExcept_ok (a : α) (s : σ) :
    (liftExcept (.ok a) : Py σ α).exec s = (.ok a, s) := rfl

@[simp] theorem exec_liftExcept_error (e : SartoriusError) (s : σ) :
    (liftExcept (.error e) : Py σ α).exec s = (.error (.sartorius e), s) := rfl

theorem exec_exceptClasses (classes : List ErrorClass) (m : Py σ α) (h : Exc → Py σ α) (s : σ) :
    (exceptClasses classes m h).exec s = match m.exec s with
      | (.ok a, s') => (.ok a, s')
      | (.error e, s') => if classes.any e.isinstance then (h e).exec s' else (.error e, s') := by
  rw [exceptClasses, Prog.exec_tryCatch]
  rcases m.exec s with ⟨e | a, s'⟩
  · dsimp only
    split <;> rfl
  · rfl

theorem exec_exceptException (m : Py σ α) (h : Exc → Py σ α) (s : σ) :
    (exceptException m h).exec s = match m.exec s with
      | (.ok a, s') => (.ok a, s')
      | (.error e, s') => if e.isException then (h e).exec s' else (.error e, s') := by
  rw [exceptException, Prog.exec_tryCatch]
  rcases m.exec s with ⟨e | a, s'⟩
  · dsimp only
    split <;> rfl
  · rfl

/-- `except Exception: cleanup; raise` adds no way to return. -/
theorem exec_reraise_ok {m : Py σ α} {cleanup : Exc → Py σ Unit} {s s' : σ} {a : α}
    (h : (exceptException m fun e => do cleanup e; throw e).exec s = (.ok a, s')) :
    m.exec s = (.ok a, s') := by
  rw [exec_exceptException] at h
  rcases hm : m.exec s with ⟨e | b, t⟩
  · rw [hm] at h
    dsimp only at h
    split at h
    · rw [Prog.exec_bind] at h
      rcases hc : (cleanup e).exec t with ⟨_ | _, _⟩ <;> rw [hc] at h <;> cases h
    · cases h
  · rw [hm] at h
    exact h

/-- It ends in the state of the failure, or in the one the cleanup made of it. -/
theorem exec_reraise_error {m : Py σ α} {cleanup : Exc → Py σ Unit} {s s' : σ} {e : Exc}
    (h : (exceptException m fun e => do cleanup e; throw e).exec s = (.error e, s')) :
    ∃ e₀ t, m.exec s = (.error e₀, t) ∧ (s' = t ∨ s' = ((cleanup e₀).exec t).2) := by
  rw [exec_exceptException] at h
  rcases hm : m.exec s with ⟨e₀ | b, t⟩
  · refine ⟨e₀, t, rfl, ?_⟩
    rw [hm] at h
    dsimp only at h
    split at h
    · rw [Prog.exec_bind] at h
      rcases hc : (cleanup e₀).exec t with ⟨_ | _, _⟩ <;> rw [hc] at h <;> cases h <;> exact .inr rfl
    · cases h
      exact .inl rfl
  · rw [hm] at h
    cases h

theorem Keeps.raise (cls : ErrorClass) (msg : String) (ctx : ErrorContext) :
    Prog.Keeps I (raise cls msg ctx : Py σ α) := fun _ hs => hs

theorem Keeps.liftExcept (x : Except SartoriusError α) :
    Prog.Keeps I (SartoriusLib.liftExcept x : Py σ α) := by
  cases x <;> exact fun _ hs => hs

theorem Keeps.exceptClasses {classes : List ErrorClass} {m : Py σ α} {h : Exc → Py σ α}
    (hm : Prog.Keeps I m) (hh : ∀ e, Prog.Keeps I (h e)) :
    Prog.Keeps I (exceptClasses classes m h) :=
  Prog.Keeps.tryCatch hm fun e => .ite (fun _ => hh e) fun _ => .throw e

theorem Keeps.exceptException {m : Py σ α} {h : Exc → Py σ α}
    (hm : Prog.Keeps I m) (hh : ∀ e, Prog.Keeps I (h e)) : Prog.Keeps I (exceptException m h) :=
  Prog.Keeps.tryCatch hm fun e => .ite (fun _ => hh e) fun _ => .throw e

theorem Keeps.suppress {m : Py σ Unit} (hm : Prog.Keeps I m) : Prog.Keeps I (suppress m) :=
  Keeps.exceptClasses hm fun _ => .pure _

end Rules

end SartoriusLib
