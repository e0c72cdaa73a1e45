import SartoriusLib.Sinks.Schema

/-!
# What a file sink is for

A sink that overwrites its file holds the samples that were written since the file was last opened.
-/

namespace SartoriusLib.Sinks

/-- A call of a sink. -/
inductive FileCall where
  | openFile
  | writeMany (samples : List Sample)
  | close
  deriving DecidableEq, Repr

/-- The samples since the file was last opened. -/
structure Written where
  isOpen : Bool := false
  samples : List Sample := []
  deriving DecidableEq, Repr

/-- An open file stays as it is, and a closed one takes nothing. -/
def Written.step (w : Written) : FileCall → Written
  | .openFile => if w.isOpen then w else { isOpen := true }
  | .writeMany samples => if w.isOpen then { w with samples := w.samples ++ samples } else w
  | .close => { w with isOpen := false }

def Written.run (calls : List FileCall) : Written := calls.foldl Written.step {}

/-- A relation that every call keeps holds at the end of every run. -/
theorem Written.run_related {σ : Type} {step : σ → FileCall → σ} {R : σ → Written → Prop}
    (hstep : ∀ s w c, R s w → R (step s c) (w.step c)) {s : σ} (hs : R s {}) (calls : List FileCall) :
    R (calls.foldl step s) (Written.run calls) := by
  have hloop : ∀ s w, R s w → R (calls.foldl step s) (calls.foldl Written.step w) := by
    induction calls with
    | nil => exact fun s w h => h
    | cons c calls ih => exact fun s w h => ih _ _ (hstep s w c h)
  exact hloop s {} hs

end SartoriusLib.Sinks
