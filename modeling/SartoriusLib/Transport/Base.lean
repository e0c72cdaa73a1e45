import SartoriusLib.Numbers

/-!
# The transport seam

A transport is known by its operations, each of them a program over a world `W` that may raise any
exception. Protocol clients and the session are written against these operations.
-/

namespace SartoriusLib

inductive ByteSize where
  | five
  | six
  | seven
  | eight
  deriving DecidableEq, Repr

inductive Parity where
  | none
  | odd
  | even
  | mark
  | space
  deriving DecidableEq, Repr

def Parity.value : Parity → String
  | .none => "none"
  | .odd => "odd"
  | .even => "even"
  | .mark => "mark"
  | .space => "space"

inductive StopBits where
  | one
  | onePointFive
  | two
  deriving DecidableEq, Repr

def StopBits.value : StopBits → String
  | .one => "1"
  | .onePointFive => "1.5"
  | .two => "2"

/-- Serial-port configuration; the defaults are the factory framing 8-O-1. -/
structure SerialSettings where
  port : String
  baudrate : Nat := 9600
  bytesize : ByteSize := .eight
  parity : Parity := .odd
  stopbits : StopBits := .one
  rtscts : Bool := false
  xonxoff : Bool := false
  exclusive : Bool := true
  deriving DecidableEq, Repr

/-- `replace(settings, ...)` with the overrides that are not `None`. -/
def SerialSettings.override (s : SerialSettings) (baudrate : Option Nat) (parity : Option Parity)
    (stopbits : Option StopBits) : SerialSettings :=
  { s with
    baudrate := baudrate.getD s.baudrate
    parity := parity.getD s.parity
    stopbits := stopbits.getD s.stopbits }

/-- The operations of an open transport; a timeout is in seconds. -/
structure Transport (W : Type) where
  label : W → String
  write : Bytes → Rat → Py W Unit
  readExact : Nat → Rat → Py W Bytes
  readUntil : Bytes → Rat → Py W Bytes
  drainInput : Py W Unit
  reopen : Option Nat → Option Parity → Option StopBits → Py W Unit

/-- A transport that its caller opens and closes. -/
structure OwnedTransport (W : Type) extends Transport W where
  isOpen : W → Bool
  openPort : Py W Unit
  close : Py W Unit

variable {W : Type}

/-- A close raises nothing but library errors, and leaves the transport closed whatever it raises. -/
structure OwnedTransport.Closes (T : OwnedTransport W) : Prop where
  closed : ∀ w, T.isOpen (T.close.exec w).2 = false
  raised : ∀ w e, (T.close.exec w).1 = .error e → e.isinstance .sartoriusError = true

/-- `sent` is what the port was given to send: nothing but a write adds to it. -/
structure Transport.OnlyWrites (T : Transport W) (sent : W → List Bytes) : Prop where
  readExact : ∀ n timeout, Lib.Prog.Leaves sent (T.readExact n timeout)
  readUntil : ∀ separator timeout, Lib.Prog.Leaves sent (T.readUntil separator timeout)
  drainInput : Lib.Prog.Leaves sent T.drainInput
  reopen : ∀ baudrate parity stopbits, Lib.Prog.Leaves sent (T.reopen baudrate parity stopbits)

/-- What the state of a transport says about its port: what was sent, that it is closed, and that it is stuck, so
that opening it again fails. -/
structure Transport.PortState (T : Transport W) where
  sent : W → List Bytes
  closed : W → Bool
  stuck : W → Bool
  onlyWrites : T.OnlyWrites sent
  write_closed : ∀ {w data timeout}, closed w = true → sent ((T.write data timeout).exec w).2 = sent w
  readUntil_closed : ∀ {w separator timeout}, closed w = true →
    ∃ e w', (T.readUntil separator timeout).exec w = (.error e, w') ∧ e.isinstance .connectionError = true
  reopen_stuck : ∀ {w} baudrate parity stopbits, stuck w = true →
    ∃ e w', (T.drainInput >>= fun _ => T.reopen baudrate parity stopbits).exec w = (.error e, w')

/-! ## A log of the writes -/

/-- A world with everything that was given to its transport to write. -/
structure Logged (W : Type) where
  world : W
  written : List Bytes := []

def Logged.lift {α : Type} (m : Py W α) : Py (Logged W) α :=
  Lib.Prog.zoom Logged.world (fun w l => { l with world := w }) m

/-- The transport `T` with the log. -/
def logged (T : Transport W) : Transport (Logged W) where
  label l := T.label l.world
  write data timeout := do
    modify fun l => { l with written := l.written ++ [data] }
    Logged.lift (T.write data timeout)
  readExact n timeout := Logged.lift (T.readExact n timeout)
  readUntil separator timeout := Logged.lift (T.readUntil separator timeout)
  drainInput := Logged.lift T.drainInput
  reopen baudrate parity stopbits := Logged.lift (T.reopen baudrate parity stopbits)

theorem logged_onlyWrites (T : Transport W) : (logged T).OnlyWrites Logged.written where
  readExact _ _ := fun _ => rfl
  readUntil _ _ := fun _ => rfl
  drainInput := fun _ => rfl
  reopen _ _ _ := fun _ => rfl

end SartoriusLib
