import SartoriusLib.Devices.Balance
import SartoriusLib.Transport.Serial

/-!
# The registry of the manager

`SartoriusManager` maps names to balances and canonical port keys to shared ports. The balances, the
transports and the SBI clients are objects that outlive a call and may be shared; they are known by their
identities. A transport is one of `SerialTransport`, or one of the caller's own class, with worlds in `V`.
-/

namespace SartoriusLib

open Lib

/-- A transport with its lifecycle. -/
structure PortTransport (W : Type) extends Transport W where
  isOpen : W → Bool
  openPort : Py W Unit
  close : Py W Unit

namespace Manager

variable {V : Type}

/-! ## Transports -/

/-- The method of the class that the transport is of. -/
def onEither {α : Type} (serial : Py SerialState α) (own : Py V α) : Py (SerialState ⊕ V) α :=
  Prog.ofFun fun
    | .inl s => let (result, s') := serial.exec s; (result, .inl s')
    | .inr v => let (result, v') := own.exec v; (result, .inr v')

def eitherPort (U : PortTransport V) : PortTransport (SerialState ⊕ V) where
  label := Sum.elim SerialTransport.label U.label
  write data timeout := onEither (SerialTransport.write data timeout) (U.write data timeout)
  readExact n timeout := onEither (SerialTransport.readExact n timeout) (U.readExact n timeout)
  readUntil separator timeout :=
    onEither (SerialTransport.readUntil separator timeout) (U.readUntil separator timeout)
  drainInput := onEither SerialTransport.drainInput U.drainInput
  reopen baudrate parity stopbits :=
    onEither (SerialTransport.reopen baudrate parity stopbits) (U.reopen baudrate parity stopbits)
  isOpen := Sum.elim (·.isOpen) U.isOpen
  openPort := onEither SerialTransport.openPort U.openPort
  close := onEither SerialTransport.close U.close

/-- What the platform and its file system make of the name of a port. -/
structure Platform where
  isWindows : Bool := false
  upper : String → String := id
  realpath : String → String := id
  pathExists : String → Bool := fun _ => false

def windowsDevicePrefix : String := "\\\\.\\"

def canonicalPortKey (platform : Platform) (port : String) : String :=
  if platform.isWindows then
    platform.upper (String.ofList (Text.removePrefix port.toList windowsDevicePrefix.toList))
  else if platform.pathExists port then platform.realpath port
  else port

/-! ## The objects -/

/-- The protocol client of a port. -/
inductive Client where
  | xbpi (c : XbpiClient)
  | sbi (c : Sbi.SbiClient)
  deriving DecidableEq, Repr

structure PortEntry where
  key : String
  transport : Nat
  client : Option Client := none
  ownsTransport : Bool
  protocol : Option ProtocolKind := none
  refs : List String := []
  deriving DecidableEq, Repr

/-- A port key is missing when the balance was built outside of the manager. -/
structure DeviceEntry where
  name : String
  balance : Nat
  portKey : Option String
  deriving DecidableEq, Repr

structure SartoriusManager where
  devices : Dict String DeviceEntry := []
  ports : Dict String PortEntry := []
  closed : Bool := false
  deriving DecidableEq, Repr

structure Balance where
  transport : Nat
  session : Session
  info : Option DeviceInfo := none

/-- The manager with the objects of the process. An identity below the counter of its kind has been given to
an object. -/
structure Process (V : Type) where
  manager : SartoriusManager := {}
  transports : Nat → SerialState ⊕ V
  balances : Nat → Balance
  sbiClients : Nat → Sbi.SbiClient
  /-- The clients that were disposed. -/
  retired : List Nat := []
  warnings : WarningAction := .show
  nextTransport : Nat := 0
  nextBalance : Nat := 0
  nextClient : Nat := 0

namespace Process

/-- The session with its clients as they are now. -/
def current (p : Process V) (s : Session) : Session :=
  { s with
    xbpi := s.xbpi.map fun c => { c with disposed := decide (c.id ∈ p.retired) }
    sbi := s.sbi.map fun c => { p.sbiClients c.id with id := c.id, disposed := decide (c.id ∈ p.retired) } }

def hostOf (p : Process V) (balance : Balance) : Host (SerialState ⊕ V) where
  world := p.transports balance.transport
  session := p.current balance.session
  info := balance.info
  warnings := p.warnings
  nextId := p.nextClient
  retired := p.retired

/-- What a call on a balance with the transport `t` leaves of the other objects. -/
def store (p : Process V) (t : Nat) (h : Host (SerialState ⊕ V)) : Process V :=
  { p with
    transports := Function.update p.transports t h.world
    sbiClients := match h.session.sbi with
      | none => p.sbiClients
      | some c => Function.update p.sbiClients c.id c
    retired := h.retired
    nextClient := h.nextId }

def setPorts (f : Dict String PortEntry → Dict String PortEntry) (p : Process V) : Process V :=
  { p with manager := { p.manager with ports := f p.manager.ports } }

def setDevices (f : Dict String DeviceEntry → Dict String DeviceEntry) (p : Process V) : Process V :=
  { p with manager := { p.manager with devices := f p.manager.devices } }

end Process

/-- The balance after a call on it. -/
def Balance.after (balance : Balance) (h : Host (SerialState ⊕ V)) : Balance :=
  { balance with session := h.session, info := h.info }

/-- A call on the balance `b`. -/
def onBalance {α : Type} (b : Nat) (m : Py (Host (SerialState ⊕ V)) α) : Py (Process V) α :=
  Prog.ofFun fun p =>
    let (result, h) := m.exec (p.hostOf (p.balances b))
    (result, { p.store (p.balances b).transport h with
      balances := Function.update p.balances b ((p.balances b).after h) })

/-- A call on a balance that nobody else has yet. -/
def onNewBalance {α : Type} (balance : Balance) (m : Py (Host (SerialState ⊕ V)) α) : Py (Process V) Balance :=
  Prog.ofFun fun p =>
    let (result, h) := m.exec (p.hostOf balance)
    (result.map fun _ => balance.after h, p.store balance.transport h)

/-- A call on the transport `t`. -/
def onPort {α : Type} (t : Nat) (m : Py (SerialState ⊕ V) α) : Py (Process V) α :=
  Prog.zoom (fun p => p.transports t) (fun w p => { p with transports := Function.update p.transports t w }) m

/-! ## Adding a balance -/

/-- Where a balance comes from: it is built already, or it is on the port of this name, or on this transport. -/
inductive Source where
  | balance (b : Nat)
  | path (port : String)
  | transport (t : Nat)
  deriving DecidableEq, Repr

/-- The arguments of `add`, and what a port that it opens will meet. -/
structure AddRequest where
  name : String
  source : Source
  protocol : ProtocolKind := .xbpi
  serialSettings : Option SerialSettings := none
  timeout : Rat := 1
  srcSbn : Int := 0x01
  dstSbn : Int := 0x09
  strict : Bool := false
  identify : Bool := true
  platform : Platform := {}
  line : List (List Rx) := []
  sends : List PortOutcome := []
  opens : List PortOutcome := []

def checkOpen : Py (Process V) Unit := do
  if (← get).manager.closed then
    raise .connectionError "manager is closed" { extra := [("closed", .flag true)] }
  else pure ()

/-- `Session(...)` refuses a protocol without its client. -/
def newSession (s : Session) : Except SartoriusError Session :=
  if s.active = .auto then
    .error { cls := .sartoriusError,
             message := "Session cannot be constructed with ProtocolKind.AUTO; " ++
               "detection must resolve to XBPI or SBI first" }
  else if s.active = .xbpi ∧ s.xbpi = none then
    .error { cls := .sartoriusError, message := "Session: active_protocol=XBPI requires xbpi_client" }
  else if s.active = .sbi ∧ s.sbi = none then
    .error { cls := .sartoriusError, message := "Session: active_protocol=SBI requires sbi_client" }
  else .ok s

/-- A new client of the protocol that was asked for. -/
def newClient (a : AddRequest) : Py (Process V) Client := do
  let id := (← get).nextClient
  modify fun p => { p with nextClient := id + 1 }
  if a.protocol = .xbpi then pure (.xbpi { id, defaultTimeout := a.timeout })
  else do
    let client : Sbi.SbiClient := { id, defaultTimeout := a.timeout }
    modify fun p => { p with sbiClients := Function.update p.sbiClients id client }
    pure (.sbi client)

/-- `transport.open()`, unless it is open. -/
def ensureOpen (U : PortTransport V) (t : Nat) : Py (Process V) Unit := do
  if (eitherPort U).isOpen ((← get).transports t) then pure ()
  else onPort t (eitherPort U).openPort

/-- The client of the port; the first balance decides on its protocol. -/
def sharedClient (portKey : String) (portEntry : PortEntry) (a : AddRequest) : Py (Process V) Client :=
  match portEntry.client with
  | some client => pure client
  | none => do
      let client ← newClient a
      modify (Process.setPorts (·.set portKey { portEntry with client, protocol := some a.protocol }))
      pure client

def sessionOn (client : Client) (a : AddRequest) (settings : SerialSettings) : Session where
  xbpi := match client with
    | .xbpi c => if a.protocol = .xbpi then some c else none
    | .sbi _ => none
  sbi := match client with
    | .xbpi _ => none
    | .sbi c => if a.protocol = .sbi then some c else none
  active := a.protocol
  srcSbn := a.srcSbn
  dstSbn := a.dstSbn
  strict := a.strict
  defaultTimeout := a.timeout
  serialSettings := some settings

/-- The identity of a balance that is handed out. -/
def newBalance (balance : Balance) : Py (Process V) Nat := do
  let b := (← get).nextBalance
  modify fun p => { p with nextBalance := b + 1, balances := Function.update p.balances b balance }
  pure b

/-- The end of `_open_balance_on_port`: the session, the balance, its identification. -/
def buildBalance (U : PortTransport V) (transport : Nat) (client : Client) (a : AddRequest)
    (sessionSettings : SerialSettings) : Py (Process V) Nat := do
  let session ← liftExcept (newSession (sessionOn client a sessionSettings))
  let balance : Balance := { transport, session }
  if a.identify then do
    let balance ← onNewBalance balance (SartoriusLib.Balance.identify (eitherPort U).toTransport)
    newBalance balance
  else newBalance balance

def openBalanceOnPort (U : PortTransport V) (portKey : String) (portEntry : PortEntry) (a : AddRequest)
    (serialSettings : Option SerialSettings) : Py (Process V) Nat := do
  if a.protocol = .auto then
    raise .validationError
      ("manager.add: ProtocolKind.AUTO is not supported here; " ++
        "open the balance with open_device(..., protocol=AUTO) and " ++
        "register the resulting Balance via manager.add(name, balance)")
      { extra := [("protocol", .text "auto")] }
  else do
    ensureOpen U portEntry.transport
    if portEntry.protocol.any (· ≠ a.protocol) then
      raise .validationError "manager.add: cannot mix xBPI and SBI sessions on the same port"
        { extra := [("existing_protocol", .text ((portEntry.protocol.map (·.value)).getD "")),
                    ("requested_protocol", .text a.protocol.value)] }
    else do
      let client ← sharedClient portKey portEntry a
      let world := (← get).transports portEntry.transport
      buildBalance U portEntry.transport client a (serialSettings.getD { port := (eitherPort U).label world })

/-- The port is forgotten, and closed when it is the manager's. -/
def maybeTeardownPort (U : PortTransport V) (portKey : String) (portEntry : PortEntry) : Py (Process V) Unit := do
  if portEntry.ownsTransport then
    exceptException
      (do
        if (eitherPort U).isOpen ((← get).transports portEntry.transport) then
          onPort portEntry.transport (eitherPort U).close
        else pure ())
      fun _ => pure ()
  else pure ()
  modify (Process.setPorts (·.pop portKey))

/-- A port with a new `SerialTransport(settings)`. -/
def serialEntry (portKey : String) (a : AddRequest) (settings : SerialSettings) : Py (Process V) PortEntry := do
  let t := (← get).nextTransport
  modify fun p => { p with
    nextTransport := t + 1
    transports := Function.update p.transports t
      (.inl { settings, isOpen := false, line := a.line, sends := a.sends, opens := a.opens }) }
  pure { key := portKey, transport := t, ownsTransport := true }

/-- The part of `_resolve_source` that needs a port; `newEntry` makes one that the manager does not have yet. -/
def resolvePort (U : PortTransport V) (portKey : String) (newEntry : Py (Process V) PortEntry) (a : AddRequest)
    (serialSettings : Option SerialSettings) : Py (Process V) (Option String × Nat) := do
  match (← get).manager.ports.get? portKey with
  | some portEntry => do
      let b ← openBalanceOnPort U portKey portEntry a serialSettings
      pure (some portKey, b)
  | none => do
      let portEntry ← newEntry
      modify (Process.setPorts (·.set portKey portEntry))
      -- a fresh port has no references yet
      let b ← tryCatch (openBalanceOnPort U portKey portEntry a serialSettings) fun e => do
        maybeTeardownPort U portKey portEntry
        throw e
      pure (some portKey, b)

def resolveSource (U : PortTransport V) (a : AddRequest) : Py (Process V) (Option String × Nat) :=
  match a.source with
  | .balance b => pure (none, b)
  | .path port =>
      let portKey := canonicalPortKey a.platform port
      resolvePort U portKey (serialEntry portKey a (a.serialSettings.getD { port })) a a.serialSettings
  | .transport t =>
      let portKey := s!"transport:{t}"
      resolvePort U portKey (pure { key := portKey, transport := t, ownsTransport := false }) a none

def Source.isPath : Source → Bool
  | .path _ => true
  | _ => false

/-- The port that the balance is to be on. -/
def AddRequest.portKey (a : AddRequest) : Option String :=
  match a.source with
  | .balance _ => none
  | .path port => some (canonicalPortKey a.platform port)
  | .transport t => some s!"transport:{t}"

def add (U : PortTransport V) (a : AddRequest) : Py (Process V) Nat := do
  checkOpen
  if ((← get).manager.devices.get? a.name).isSome then
    raise .validationError s!"manager: name {textRepr a.name} already in use" { extra := [("name", .text a.name)] }
  else if a.serialSettings.isSome ∧ ¬ a.source.isPath then
    raise .validationError
      ("manager.add(serial_settings=...) only applies to string port " ++
        "sources; pre-built Transport / Balance carry their own settings")
      { extra := [("name", .text a.name)] }
  else do
    let (portKey, balance) ← resolveSource U a
    modify (Process.setDevices (·.set a.name { name := a.name, balance, portKey }))
    match portKey with
    | none => pure balance
    | some k => do
        modify (Process.setPorts fun ports =>
          match ports.get? k with
          | none => ports
          | some e => ports.set k { e with refs := e.refs.insert a.name })
        pure balance

/-! ## Removing balances -/

def teardownDevice (U : PortTransport V) (entry : DeviceEntry) : Py (Process V) Unit := do
  match entry.portKey with
  | none => pure ()
  | some k => do
      match (← get).manager.ports.get? k with
      | none => pure ()
      | some portEntry => do
          let portEntry := { portEntry with refs := portEntry.refs.filter (· ≠ entry.name) }
          modify (Process.setPorts (·.set k portEntry))
          if portEntry.refs = [] then maybeTeardownPort U k portEntry else pure ()

def remove (U : PortTransport V) (name : String) : Py (Process V) Unit := do
  checkOpen
  match (← get).manager.devices.get? name with
  | none =>
      raise .validationError s!"manager: no balance named {textRepr name}" { extra := [("name", .text name)] }
  | some entry => do
      modify (Process.setDevices (·.pop name))
      teardownDevice U entry

/-- The loop of `close`. -/
def closeDevices (U : PortTransport V) : List (String × DeviceEntry) → Py (Process V) Unit
  | [] => pure ()
  | (name, entry) :: later => do
      modify (Process.setDevices (·.pop name))
      exceptException (teardownDevice U entry) fun _ => pure ()
      closeDevices U later

/-- The last balance that was added is the first to go. -/
def close (U : PortTransport V) : Py (Process V) Unit := do
  let p ← get
  if p.manager.closed then pure ()
  else do
    closeDevices U p.manager.devices.reverse
    modify fun p => { p with manager := { p.manager with closed := true } }

/-! ## Calls -/

inductive Call where
  | add (a : AddRequest)
  | remove (name : String)
  | close

/-- The call, with its result thrown away. -/
def Call.perform (U : PortTransport V) : Call → Py (Process V) Unit
  | .add a => discard (Manager.add U a)
  | .remove name => Manager.remove U name
  | .close => Manager.close U

/-- The object that is handed over exists. -/
def Source.Exists (p : Process V) : Source → Prop
  | .balance b => b < p.nextBalance
  | .path _ => True
  | .transport t => t < p.nextTransport

instance (p : Process V) (source : Source) : Decidable (source.Exists p) := by
  cases source <;> unfold Source.Exists <;> infer_instance

def Call.Possible (p : Process V) : Call → Prop
  | .add a => a.source.Exists p
  | _ => True

instance (p : Process V) (c : Call) : Decidable (c.Possible p) := by
  cases c <;> unfold Call.Possible <;> infer_instance

/-- One call after the other; one that raises does not end the run. -/
def step (U : PortTransport V) (p : Process V) (c : Call) : Option (Process V) :=
  if c.Possible p then some ((c.perform U).exec p).2 else none

end Manager

end SartoriusLib
