import SartoriusLib.Devices.Scoped

/-!
# What the commands share

Every command that talks to a balance opens it, does its work and closes the port again, whatever the work raised. A
library error ends the program with the code 1 and a line on the terminal.
-/

namespace SartoriusLib.Cli

open SartoriusLib Lib Prog Factory

variable {W α : Type}

/-- The arguments of `add_open_args` after the port is resolved; `clock` is that of the sniff. -/
structure OpenArgs where
  settings : SerialSettings
  protocol : ProtocolKind := .auto
  timeout : Rat := 1
  clock : List Rat := []
  deriving DecidableEq, Repr

/-- The call of `open_device` that every command makes. -/
def OpenArgs.request (a : OpenArgs) : OpenRequest :=
  { settings := a.settings, protocol := a.protocol, timeout := a.timeout, identify := false, clock := a.clock }

/-- One result of a diagnostic; a value is a text or `None`. -/
abbrev Entry : Type := Dict String (Option String)

/-- A run of a command: the balance it opens, the texts it wrote to the terminal, and the files it wrote, each with
the results that it holds as JSON. -/
structure Terminal (W : Type) where
  opening : Opening W
  stdout : String := ""
  stderr : String := ""
  files : List (String × List Entry) := []

def onOpening (m : Py (Opening W) α) : Py (Terminal W) α :=
  zoom Terminal.opening (fun o t => { t with opening := o }) m

def writeStdout (text : String) : Py (Terminal W) Unit := modify fun t => { t with stdout := t.stdout ++ text }

def writeStderr (text : String) : Py (Terminal W) Unit := modify fun t => { t with stderr := t.stderr ++ text }

/-- `Path(path).write_text(json.dumps(results, indent=2))`, where the file can be written. -/
def writeJson (path : String) (results : List Entry) : Py (Terminal W) Unit :=
  modify fun t => { t with files := t.files ++ [(path, results)] }

/-- `run_cli`: a library error becomes the exit code 1. -/
def runCli (body : Py (Terminal W) Int) : Py (Terminal W) Int :=
  tryCatch body fun e =>
    match e with
    | .sartorius err => do
        writeStderr s!"error: {err.str}\n"
        pure 1
    | e => throw e

/-- Opens a balance, hands it to `body` and closes it, whatever `body` does. -/
def withBalance (T : OwnedTransport W) (a : OpenArgs) (body : Py (Host W) α) : Py (Opening W) α :=
  withDevice T a.request body

/-- A program ends in the balance of its body, and with the code 0 only if the body did. -/
theorem runCli_body (body : Py (Terminal W) Int) (t : Terminal W) :
    ((runCli body).exec t).2.opening = (body.exec t).2.opening ∧
      ((runCli body).exec t).2.stdout = (body.exec t).2.stdout ∧
      ((runCli body).exec t).2.files = (body.exec t).2.files ∧
      (((runCli body).exec t).1 = .ok 0 → (body.exec t).1 = .ok 0) := by
  rw [runCli, exec_tryCatch]
  rcases body.exec t with ⟨e | code, t'⟩
  · cases e <;> exact ⟨rfl, rfl, rfl, fun h => by cases h⟩
  · exact ⟨rfl, rfl, rfl, fun h => h⟩

/-- Work on a balance that is opened for it and closed behind it. -/
theorem withBalance_ran (T : OwnedTransport W) (a : OpenArgs) {P : ProtocolKind → Except Exc α → List Bytes → Prop}
    {body : Py (Host (Traced W)) α}
    (hbody : ∀ h, Opened h.session → h.session.srcSbn = 0x01 → h.session.dstSbn = 0x09 →
      ∃ sent, writes (body.exec h).2.world.events = writes h.world.events ++ sent ∧
        (body.exec h).2.session.active = h.session.active ∧ P h.session.active (body.exec h).1 sent)
    (o : Opening (Traced W)) : Ran a.request P o ((withBalance (tracedPort T) a body).exec o) :=
  withDevice_ran T rfl hbody o

end SartoriusLib.Cli
