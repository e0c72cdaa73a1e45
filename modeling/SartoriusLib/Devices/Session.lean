import SartoriusLib.Lib.Dict
import SartoriusLib.Commands.Specs
import SartoriusLib.Protocol.Sbi.Client
import SartoriusLib.Protocol.Xbpi.Client

/-!
# The session

One session serves one balance on one port. `execute` passes the gates in their order, runs the command
through the client of the active protocol and records what the device made of it. The calls here run one
after the other; the locks that make concurrent callers do so are modelled with the interleavings.
-/

namespace SartoriusLib

open Lib

inductive SessionState where
  | operational
  | broken
  deriving DecidableEq, Repr

def SessionState.value : SessionState → String
  | .operational => "operational"
  | .broken => "broken"

/-- The mutable part of an xBPI client; `id` is the identity of the object. -/
structure XbpiClient where
  id : Nat
  defaultTimeout : Rat := 1
  disposed : Bool := false
  deriving DecidableEq, Repr

def XbpiClient.dispose (c : XbpiClient) : XbpiClient := { c with disposed := true }

/-- A value in the result cache. -/
inductive CachedValue where
  | quantity (q : Quantity)
  | parameter (p : ParameterEntry)
  deriving DecidableEq, Repr

/-- A version as the device writes it, with the numbers it is ordered by. -/
structure FirmwareVersion where
  major : Int
  minor : Int := 0
  patch : Int := 0
  raw : Option String := none
  deriving DecidableEq, Repr

structure Session where
  xbpi : Option XbpiClient := none
  sbi : Option Sbi.SbiClient := none
  active : ProtocolKind
  family : BalanceFamily := .unknown
  capabilities : Capability := []
  srcSbn : Int := 0x01
  dstSbn : Int := 0x09
  firmware : Option FirmwareVersion := none
  strict : Bool := false
  defaultTimeout : Rat := 1
  availability : Dict String Availability := []
  warnedPriors : List String := []
  /-- From a cache key to the counter snapshot and the value. -/
  resultCache : Dict String (Nat × CachedValue) := []
  state : SessionState := .operational
  serialSettings : Option SerialSettings := none
  deriving DecidableEq, Repr

/-- What the warning filter does with a `SartoriusCapabilityWarning`. -/
inductive WarningAction where
  | ignore
  | show
  | error
  deriving DecidableEq, Repr

/-- The factory number is a text over SBI and a blob over xBPI. -/
inductive FactoryNumber where
  | text (t : Text)
  | blob (b : Bytes)
  deriving DecidableEq, Repr

structure DeviceInfo where
  manufacturer : Option Text
  model : Text
  serial : Option Text
  factoryNumber : Option FactoryNumber
  software : Option String
  firmware : Option FirmwareVersion := none
  family : BalanceFamily
  protocol : ProtocolKind
  capacity : Option Quantity
  increment : Option Quantity
  sbn : Option Int
  serialSettings : SerialSettings
  capabilities : Capability
  temperatureSensorIndices : Option (List Int) := none
  deriving DecidableEq, Repr

/-- A value that a cached call returned, with the worlds in which its counter was read and in which it was
returned. -/
structure Served (W : Type) where
  cacheKey : String
  value : CachedValue
  origin : W
  now : W

/-- A balance with its session, the world of its transport and the warning filter of the process. The last
three fields are a log that no function reads a decision from. -/
structure Host (W : Type) where
  world : W
  session : Session
  info : Option DeviceInfo := none
  warnings : WarningAction := .show
  /-- The identity of the next client object. -/
  nextId : Nat := 0
  /-- The identities of the clients that were disposed. -/
  retired : List Nat := []
  /-- For each entry of the cache the world in which its counter was read. -/
  origins : Dict String W := []
  served : List (Served W) := []

variable {W : Type}

/-- A transport operation. -/
def onWorld {α : Type} (m : Py W α) : Py (Host W) α := Prog.zoom Host.world (fun w h => { h with world := w }) m

def modifySession (f : Session → Session) : Py (Host W) Unit :=
  modify fun h => { h with session := f h.session }

/-- A call on the session's SBI client `c`. -/
def onSbi {α : Type} (c : Sbi.SbiClient) (m : Py (Sbi.SbiLink W) α) : Py (Host W) α :=
  Prog.ofFun fun h =>
    let (result, s) := m.exec { client := c, world := h.world }
    (result, { h with world := s.world, session := { h.session with sbi := some s.client } })

/-- A pure function that may raise, called from a program. -/
def liftExc {σ α : Type} : Except Exc α → Py σ α
  | .ok a => pure a
  | .error e => throw e

namespace Session

/-- `sbi_autoprint_active`. -/
def sbiAutoprintActive (s : Session) : Bool := s.active = .sbi ∧ s.sbi.any (·.autoprintActive)

def availabilityOf (s : Session) (commandName : String) : Availability :=
  (s.availability.get? commandName).getD .unknown

def setAvailability (s : Session) (commandName : String) (a : Availability) : Session :=
  { s with availability := s.availability.set commandName a }

def context (s : Session) : CommandContext :=
  { protocol := s.active, srcSbn := s.srcSbn, dstSbn := s.dstSbn, family := s.family }

def updateIdentity (s : Session) (family : BalanceFamily) (capabilities : Capability) : Session :=
  { s with family, capabilities }

def markBroken (s : Session) : Session := { s with state := .broken }

/-- `invalidate_cache(cache_key)`; `none` clears all entries. -/
def invalidateCache (s : Session) (cacheKey : Option String) : Session :=
  { s with resultCache := match cacheKey with
      | none => []
      | some k => s.resultCache.pop k }

/-- Refuses to install a protocol without its client. -/
def replaceClients (s : Session) (xbpi : Option XbpiClient) (sbi : Option Sbi.SbiClient)
    (active : ProtocolKind) (serialSettings : Option SerialSettings) : Except SartoriusError Session :=
  if active = .auto then
    .error { cls := .sartoriusError,
             message := "replace_clients: cannot install ProtocolKind.AUTO; " ++
               "detection must resolve to XBPI or SBI first" }
  else if active = .xbpi ∧ xbpi = none then
    .error { cls := .sartoriusError, message := "replace_clients: active_protocol=XBPI but xbpi_client is None" }
  else if active = .sbi ∧ sbi = none then
    .error { cls := .sartoriusError, message := "replace_clients: active_protocol=SBI but sbi_client is None" }
  else
    .ok { s with xbpi, sbi, active, serialSettings := serialSettings.or s.serialSettings,
                 availability := [], warnedPriors := [], resultCache := [] }

/-! ## Gates -/

def checkState (s : Session) : Except SartoriusError Unit :=
  if s.state = .broken then
    .error { cls := .connectionError,
             message := "session is BROKEN after a failed lifecycle operation; " ++
               "close this session and re-open via open_device(...) to recover",
             context := { extra := [("session_state", .text s.state.value)] } }
  else .ok ()

section Gates

variable {Req Resp : Type}

def gateSafety (s : Session) (command : Command Req Resp) (confirm : Bool) : Except SartoriusError Unit :=
  if command.safety = .readOnly ∨ command.safety = .stateful then .ok ()
  else if confirm then .ok ()
  else
    .error { cls := .confirmationRequiredError,
             message := s!"{command.name}: {command.safety.name} commands require confirm=True",
             context := { commandName := some command.name, protocol := some s.active.value,
                          extra := [("safety", .text command.safety.name)] } }

def gateProtocol (s : Session) (command : Command Req Resp) : Except SartoriusError Unit :=
  if s.active = .xbpi then
    if command.xbpi.isNone then
      .error { cls := .protocolUnsupportedError,
               message := s!"{command.name}: no xBPI variant; session is in XBPI mode",
               context := { commandName := some command.name, protocol := some "xbpi",
                            extra := [("active_protocol", .text "xbpi")] } }
    else .ok ()
  else if command.sbi.isNone then
    .error { cls := .protocolUnsupportedError,
             message := s!"{command.name}: no SBI variant; session is in SBI mode",
             context := { commandName := some command.name, protocol := some "sbi",
                          extra := [("active_protocol", .text "sbi")] } }
  else .ok ()

def gateKnownDenied (s : Session) (command : Command Req Resp) : Except SartoriusError Unit :=
  if s.availability.get? command.name = some .unsupported then
    .error { cls := .unsupportedCommandError,
             message := s!"{command.name}: device previously responded UNSUPPORTED; " ++
               "session will not re-probe",
             context := { commandName := some command.name, protocol := some s.active.value,
                          extra := [("availability", .text Availability.unsupported.value)] } }
  else .ok ()

def familyOk (s : Session) (command : Command Req Resp) : Bool :=
  command.familyHints = [] ∨ s.family ∈ command.familyHints

def capsOk (s : Session) (command : Command Req Resp) : Bool :=
  command.capabilityHints = [] ∨ s.capabilities.contains command.capabilityHints

/-- The reason text of a mismatch of the priors. -/
def priorsReason (s : Session) (command : Command Req Resp) : String :=
  let familyPart :=
    if s.familyOk command then []
    else [s!"family {textRepr s.family.value} not in hints {textsRepr ((command.familyHints.map BalanceFamily.value).mergeSort)}"]
  let capsPart :=
    if s.capsOk command then []
    else [s!"missing capabilities {(s.capabilities.missing command.capabilityHints).repr}"]
  String.intercalate "; " (familyPart ++ capsPart)

/-- The refusal of a mismatch under `strict`. -/
def priorsError (s : Session) (command : Command Req Resp) : SartoriusError where
  cls := .capabilityError
  message := s!"{command.name}: priors mismatch in strict mode ({s.priorsReason command})"
  context :=
    { commandName := some command.name, protocol := some s.active.value, family := some s.family.value,
      extra := [("family_hints", .texts ((command.familyHints.map BalanceFamily.value).mergeSort)),
                ("capability_hints", .int command.capabilityHints.value),
                ("missing_capabilities", .int (s.capabilities.missing command.capabilityHints).value),
                ("reason", .text (s.priorsReason command))] }

end Gates

end Session

open Session

section Dispatch

variable {Req Resp : Type}

/-- A mismatch of the priors is refused under `strict` and warned about once otherwise; the warning filter may
turn the warning into an exception. -/
def gatePriors (command : Command Req Resp) : Py (Host W) Unit := do
  let s := (← get).session
  if s.familyOk command ∧ s.capsOk command then pure ()
  else if s.strict then throw (.sartorius (s.priorsError command))
  else if command.name ∈ s.warnedPriors then pure ()
  else do
    modifySession fun s => { s with warnedPriors := command.name :: s.warnedPriors }
    if (← get).warnings = .error then
      throw (.capabilityWarning
        s!"{command.name}: priors mismatch ({s.priorsReason command}); attempting anyway")
    else pure ()

/-- The exception of a parameterized command that the device answered with 0x04. -/
def indexError (command : Command Req Resp) (context : ErrorContext) : Exc :=
  .sartorius
    { cls := .indexOutOfRangeError,
      message := s!"{command.name}: argument out of range " ++
        "(device returned 0x04; treated as index error because command is parameterized)",
      context }

/-- What an exception of the client makes of the availability of the command. -/
def xbpiRefused {α : Type} (command : Command Req Resp) (e : Exc) : Py (Host W) α :=
  match e with
  | .sartorius err =>
      if err.cls.issubclass .unsupportedCommandError then
        if command.parameterized then throw (indexError command err.context)
        else do
          modifySession (·.setAvailability command.name .unsupported)
          throw e
      else if err.cls.issubclass .operationNotApplicableError then do
        modifySession (·.setAvailability command.name .inapplicable)
        throw e
      else throw e
  | _ => throw e

def executeXbpi (T : Transport W) (command : Command Req Resp) (request : Req) (timeout : Option Rat) :
    Py (Host W) Resp := do
  let s := (← get).session
  match command.xbpi with
  | none =>
      raise .protocolUnsupportedError s!"{command.name}: xBPI variant missing at dispatch"
        { commandName := some command.name, protocol := some "xbpi" }
  | some variant =>
      match s.xbpi with
      | none =>
          raise .sartoriusError s!"{command.name}: session in XBPI mode but no xBPI client wired"
            { commandName := some command.name }
      | some client => do
          let requestBytes ← liftExc (variant.encode s.context request)
          let frame ← tryCatch
            (onWorld (Xbpi.executeLocked T client.disposed requestBytes (timeout.getD s.defaultTimeout)
              command.name (some variant.opcode)))
            (xbpiRefused command)
          modifySession (·.setAvailability command.name .supported)
          liftExc (variant.decode frame s.context)

def autoprintActiveError (commandName : String) (sbiToken : Option Bytes) : SartoriusError where
  cls := .autoprintActiveError
  message := "SBI autoprint is active; command replies are not reliable. " ++
    "Open with identify=False and use stream(mode='autoprint') or poll(), " ++
    "or disable autoprint on the balance before using SBI command/reply APIs."
  context := { commandName := some commandName, sbiToken, protocol := some "sbi",
               extra := [("autoprint_active", .flag true)] }

/-- `_reply_is_surprise_autoprint` of a session whose client is `sbi`. -/
def replyIsSurpriseAutoprint (sbi : Option Sbi.SbiClient) (reply : Sbi.SbiReply) (sbiToken : Bytes) : Bool :=
  match sbi with
  | none => false
  | some client =>
      if client.autoprintActive then false
      else if sbiToken = Sbi.TOKEN_PRINT then false
      else reply.lines.any fun line => Sbi.isAutoprintLine line.raw

/-- The exchange that typed and raw SBI calls share: the flag, the client, the surprise test. -/
def sbiExchange (T : Transport W) (client : Sbi.SbiClient) (request : Bytes) (timeout : Rat)
    (commandName : String) (sbiToken : Bytes) (expectLines : Int) : Py (Host W) Sbi.SbiReply := do
  if (← get).session.sbiAutoprintActive ∧ 0 < expectLines then
    throw (.sartorius (autoprintActiveError commandName (some sbiToken)))
  else do
    let reply ← onSbi client (Sbi.execute T request timeout commandName (some sbiToken) expectLines)
    if replyIsSurpriseAutoprint (← get).session.sbi reply sbiToken then do
      modifySession fun s => { s with sbi := s.sbi.map (·.markAutoprintActive reply.raw) }
      throw (.sartorius (autoprintActiveError commandName (some sbiToken)))
    else pure reply

def executeSbi (T : Transport W) (command : Command Req Resp) (request : Req) (timeout : Option Rat) :
    Py (Host W) Resp := do
  let s := (← get).session
  match command.sbi with
  | none =>
      raise .protocolUnsupportedError s!"{command.name}: SBI variant missing at dispatch"
        { commandName := some command.name, protocol := some "sbi" }
  | some variant =>
      match s.sbi with
      | none =>
          raise .sartoriusError s!"{command.name}: session in SBI mode but no SBI client wired"
            { commandName := some command.name }
      | some client => do
          let requestBytes ← liftExc (variant.encode s.context request)
          let reply ← sbiExchange T client requestBytes (timeout.getD s.defaultTimeout) command.name
            variant.token variant.expectLines
          modifySession (·.setAvailability command.name .supported)
          liftExc (variant.decode reply s.context)

def execute (T : Transport W) (command : Command Req Resp) (request : Req) (confirm : Bool)
    (timeout : Option Rat) : Py (Host W) Resp := do
  let s := (← get).session
  liftExcept s.checkState
  liftExcept (s.gateSafety command confirm)
  liftExcept (s.gateProtocol command)
  liftExcept (s.gateKnownDenied command)
  gatePriors command
  match s.active with
  | .xbpi => executeXbpi T command request timeout
  | .sbi => executeSbi T command request timeout
  | .auto => raise .sartoriusError "unreachable: session has no active protocol"

/-! ## The result cache -/

def readConfigCounter (T : Transport W) (timeout : Option Rat) : Py (Host W) Nat :=
  execute T Commands.CONFIG_COUNTER () false timeout

/-- A value of the cache on its way to the caller. -/
def serve (cacheKey : String) (value : CachedValue) (origin : W) : Py (Host W) CachedValue := do
  modify fun h => { h with served := h.served ++ [{ cacheKey, value, origin, now := h.world }] }
  pure value

/-- `wrap` makes a value of the cache from a result. -/
def cachedExecute (T : Transport W) (command : Command Req Resp) (request : Req)
    (wrap : Resp → CachedValue) (cacheKey : String) (confirm : Bool) (timeout : Option Rat) :
    Py (Host W) CachedValue := do
  if CapabilityBit.configCounter ∉ (← get).session.capabilities then do
    let result ← wrap <$> execute T command request confirm timeout
    serve cacheKey result (← get).world
  else do
    let counter ← readConfigCounter T timeout
    let h ← get
    let fresh : Py (Host W) CachedValue := do
      let result ← wrap <$> execute T command request confirm timeout
      modifySession fun s => { s with resultCache := s.resultCache.set cacheKey (counter, result) }
      modify fun h' => { h' with origins := h'.origins.set cacheKey h.world }
      serve cacheKey result h.world
    match h.session.resultCache.get? cacheKey with
    | some (snapshot, value) =>
        if snapshot = counter then serve cacheKey value ((h.origins.get? cacheKey).getD h.world) else fresh
    | none => fresh

end Dispatch

/-! ## Raw calls -/

def executeRawXbpi (T : Transport W) (opcode : Int) (args : Bytes) (confirm : Bool) (timeout : Option Rat) :
    Py (Host W) Xbpi.XbpiFrame := do
  let s := (← get).session
  liftExcept s.checkState
  if s.active ≠ .xbpi then
    raise .protocolUnsupportedError s!"raw_xbpi: session is in {s.active.value.toUpper} mode"
      { opcode := some opcode, protocol := some s.active.value }
  else
    match s.xbpi with
    | none =>
        raise .sartoriusError "raw_xbpi: session in XBPI mode but no xBPI client wired"
          { opcode := some opcode, protocol := some "xbpi" }
    | some client =>
        if opcode ∉ Commands.safeReadOnlyOpcodes ∧ ¬ confirm then
          raise .confirmationRequiredError
            (s!"raw_xbpi: opcode 0x{hex02 opcode} is not on the read-only safe-list; " ++
              "pass confirm=True to proceed")
            { opcode := some opcode, protocol := some "xbpi", extra := [("safe_listed", .flag false)] }
        else do
          let requestBytes ← liftExcept (Xbpi.buildCommand opcode args s.srcSbn s.dstSbn)
          onWorld (Xbpi.executeLocked T client.disposed requestBytes (timeout.getD s.defaultTimeout)
            s!"raw_xbpi[0x{hex02 opcode}]" (some opcode))

def executeRawSbi (T : Transport W) (command : Sbi.SbiCommand) (confirm : Bool) (timeout : Option Rat)
    (expectLines : Int) : Py (Host W) Sbi.SbiReply := do
  let s := (← get).session
  liftExcept s.checkState
  if s.active ≠ .sbi then
    raise .protocolUnsupportedError s!"raw_sbi: session is in {s.active.value.toUpper} mode"
      { protocol := some s.active.value }
  else
    match s.sbi with
    | none =>
        raise .sartoriusError "raw_sbi: session in SBI mode but no SBI client wired" { protocol := some "sbi" }
    | some client => do
        let token ← liftExc (Sbi.normalizeToken command)
        if token ∉ Sbi.sbiReadOnlyTokens ∧ ¬ confirm then
          raise .confirmationRequiredError
            (s!"raw_sbi: token {bytesRepr token} is not on the read-only safe-list; " ++
              "pass confirm=True to proceed")
            { sbiToken := some token, protocol := some "sbi", extra := [("safe_listed", .flag false)] }
        else sbiExchange T client token (timeout.getD s.defaultTimeout) "raw_sbi" token expectLines

/-! ## Unsolicited lines -/

/-- The SBI client of a session in SBI mode, for the call `name`. -/
def requireSbi (name refusal : String) : Py (Host W) Sbi.SbiClient := do
  let s := (← get).session
  if s.active ≠ .sbi then raise .protocolUnsupportedError refusal { protocol := some s.active.value }
  else
    match s.sbi with
    | none =>
        raise .sartoriusError s!"{name}: session in SBI mode but no SBI client wired" { protocol := some "sbi" }
    | some client => pure client

def refreshSbiAutoprintState (T : Transport W) (clock : List Rat) : Py (Host W) Bool := do
  let client ← requireSbi "refresh_sbi_autoprint_state" "refresh_sbi_autoprint_state requires an SBI session"
  onSbi client (Sbi.refreshAutoprintState T clock)

def readSbiLine (T : Transport W) (timeout : Option Rat) : Py (Host W) Sbi.SbiReply := do
  let s := (← get).session
  let client ← requireSbi "read_sbi_line" s!"read_sbi_line: session is in {s.active.value.toUpper} mode"
  onSbi client (Sbi.readLine T (timeout.getD s.defaultTimeout))

/-- The loop of `read_sbi_autoprint_reading`: the list holds the time that remains at each round. A line
without a reading ends the last round with its parse error. -/
def readAutoprintLoop (T : Transport W) : List Rat → Rat → Py (Sbi.SbiLink W) Reading
  | later, remaining => do
      let reply ← Sbi.readLine T remaining
      match Sbi.requireReading reply with
      | .ok reading => do
          Sbi.modifyClient (·.markAutoprintActive)
          pure reading
      | .error e =>
          match later with
          | [] => throw (.sartorius e)
          | next :: later => readAutoprintLoop T later next

def readSbiAutoprintReading (T : Transport W) (remaining : Rat) (clock : List Rat) : Py (Host W) Reading := do
  let s := (← get).session
  let client ← requireSbi "read_sbi_autoprint_reading"
    s!"read_sbi_autoprint_reading: session is in {s.active.value.toUpper} mode"
  onSbi client (readAutoprintLoop T clock remaining)

end SartoriusLib
