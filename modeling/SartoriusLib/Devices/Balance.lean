import SartoriusLib.ErrorText
import SartoriusLib.Devices.Session

/-!
# The balance facade

Every method dispatches through the session. The lifecycle operations at the end change the framing of the
port, the protocol of the session or the address of the device, and each of them wants a confirmation.
-/

namespace SartoriusLib

open Lib

variable {W : Type}

/-! ## Identity tables -/

def classifyFamily (model : Text) : BalanceFamily :=
  let stripped := Text.upper (Text.strip model)
  if stripped.startsWith "MSE".toList then .cubis
  else if stripped.startsWith "WZ".toList then .oemWeighCell
  else if stripped.startsWith "BCE".toList then .basicLab
  else .unknown

def familyDefaultCapabilities : BalanceFamily → Capability
  | .cubis =>
      [.xbpiSupport, .hiresWeight, .parameterTable, .temperatureSensors, .calRecord, .internalCal, .isocal,
       .extendedOpcodes, .appModes, .bargraph]
  | .oemWeighCell =>
      [.xbpiSupport, .sbiSupport, .hiresWeight, .parameterTable, .temperatureSensors, .bargraph]
  | .basicLab => [.xbpiSupport, .parameterTable]
  | .unknown => [.xbpiSupport]

def placeholderSerialSettings : SerialSettings := { port := "<unknown>" }

/-- `raw.decode("ascii", errors="replace").strip()`. -/
def decodeAsciiIdentity (raw : Bytes) : Text := Text.strip (decodeAsciiReplace raw)

/-- `with warnings.catch_warnings(): simplefilter("ignore", SartoriusCapabilityWarning)`. -/
def ignoringWarnings {α : Type} (m : Py (Host W) α) : Py (Host W) α :=
  Prog.ofFun fun h =>
    let (result, h') := m.exec { h with warnings := .ignore }
    (result, { h' with warnings := h.warnings })

namespace Balance

/-! ## Weight, tare, status -/

/-- The next reading of the autoprint stream, or else one from a print command. -/
def poll (T : Transport W) (remaining : Rat) (clock : List Rat) : Py (Host W) Reading := do
  if (← get).session.sbiAutoprintActive then readSbiAutoprintReading T remaining clock
  else execute T Commands.READ_NET () false none

def readNet (T : Transport W) (hires : Int) (remaining : Rat) (clock : List Rat) : Py (Host W) Reading :=
  if hires = 0 then poll T remaining clock else execute T Commands.READ_NET_HIRES hires false none

def readGross (T : Transport W) (hires : Int) : Py (Host W) Reading :=
  if hires = 0 then execute T Commands.READ_GROSS () false none
  else execute T Commands.READ_GROSS_HIRES hires false none

def readTareValue (T : Transport W) : Py (Host W) Reading := execute T Commands.READ_TARE_VALUE () false none

def tare (T : Transport W) : Py (Host W) Unit := execute T Commands.TARE () false none

def zero (T : Transport W) : Py (Host W) Unit := execute T Commands.ZERO () false none

def status (T : Transport W) : Py (Host W) BalanceStatus := execute T Commands.STATUS_BLOCK () false none

/-! ## Parameters -/

/-- `_cache_key_parameter`. -/
def cacheKeyParameter (index : Int) : String := s!"parameter:{index}"

def readParameter (T : Transport W) (index : Int) : Py (Host W) ParameterEntry := do
  match ← cachedExecute T Commands.READ_PARAMETER index .parameter (cacheKeyParameter index) false none with
  | .parameter entry => pure { entry with index }
  | .quantity _ => throw (.typeError "replace() of a value without an index")

def writeParameter (T : Transport W) (index value : Int) (confirm : Bool) : Py (Host W) Unit := do
  execute T Commands.WRITE_PARAMETER { index, value } confirm none
  modifySession (·.invalidateCache (some (cacheKeyParameter index)))

def getTyped (T : Transport W) (index : Int) : Py (Host W) Nat := do
  let entry ← readParameter T index
  pure entry.current

/-- A typed setter: the value that it resolved and encoded, or its exception, and then the write. -/
def setTyped (T : Transport W) (index : Int) (wire : Except Exc Int) (confirm : Bool) : Py (Host W) Unit := do
  let value ← liftExc wire
  writeParameter T index value confirm

def displayUnitIndex : Int := 7

def getDisplayUnit (T : Transport W) : Py (Host W) MeasurementUnit :=
  displayUnitCodeToUnit <$> getTyped T displayUnitIndex

/-! ## Metrology -/

/-- A failed read of the display unit leaves the unit unknown. -/
def resolveMetrologyUnit (T : Transport W) (raw : Quantity) : Py (Host W) Quantity :=
  if raw.unit ≠ .unknown then pure raw
  else
    exceptClasses [.sartoriusError]
      (do
        let unit ← getDisplayUnit T
        pure { value := raw.value, unit })
      fun _ => pure raw

/-- A cached metrology read, with the display unit folded in. -/
def metrologyRead (T : Transport W) (command : Command Int Quantity) (area : Int) (cacheKey : String) :
    Py (Host W) Quantity := do
  match ← cachedExecute T command area .quantity cacheKey false none with
  | .quantity raw => resolveMetrologyUnit T raw
  | .parameter _ => throw (.typeError "a parameter entry has no unit")

def capacity (T : Transport W) (area : Int) : Py (Host W) Quantity :=
  metrologyRead T Commands.READ_CAPACITY area s!"capacity:{area}"

def increment (T : Transport W) (area : Int) : Py (Host W) Quantity :=
  metrologyRead T Commands.READ_INCREMENT area s!"increment:{area}"

def temperature (T : Transport W) (sensor : Int) : Py (Host W) TemperatureReading := do
  let raw ← execute T Commands.READ_TEMPERATURE sensor false none
  pure { raw with sensor }

/-- The sensors from `sensor` on, at most `n` of them: an absent slot is skipped, the end of the list stops
the probe. -/
def discoverLoop (T : Transport W) : Nat → Int → Py (Host W) (List Int)
  | 0, _ => pure []
  | n + 1, sensor => do
      let probe : Py (Host W) (Option (List Int)) := tryCatch
        (do
          let reading ← temperature T sensor
          pure (some [reading.sensor]))
        fun e =>
          if e.isinstance .valueOutOfRangeError then pure (some [])
          else if e.isinstance .indexOutOfRangeError ∨ e.isinstance .unsupportedCommandError then pure none
          else throw e
      match ← probe with
      | none => pure []
      | some found => do
          let later ← discoverLoop T n (sensor + 1)
          pure (found ++ later)

def discoverTemperatureSensors (T : Transport W) (maxIndex : Int) : Py (Host W) (List Int) :=
  if maxIndex < 0 then throw (.valueError s!"max_index must be >= 0, got {maxIndex}")
  else do
    let result ← discoverLoop T (maxIndex.toNat + 1) 0
    modify fun h => { h with info := h.info.map fun i => { i with temperatureSensorIndices := some result } }
    pure result

/-! ## Persistence and calibration -/

def saveMenu (T : Transport W) (confirm : Bool) : Py (Host W) Unit := do
  execute T Commands.SAVE_MENU () confirm none
  modifySession (·.invalidateCache none)

def reloadMenu (T : Transport W) (confirm : Bool) : Py (Host W) Unit := do
  execute T Commands.RELOAD_MENU () confirm none
  modifySession (·.invalidateCache none)

def lastCalRecord (T : Transport W) : Py (Host W) CalRecord := execute T Commands.LAST_CAL_RECORD () false none

def internalAdjust (T : Transport W) (calType : Option Int) (confirm : Bool) : Py (Host W) Unit :=
  execute T Commands.INTERNAL_ADJUST (calType.getD Commands.internalAdjustCalType) confirm none

/-! ## Identification -/

/-- `CONFIG_COUNTER` is probed, because it changes the path of a cached read. -/
def probeDispatchCapabilities (T : Transport W) : Py (Host W) Capability := do
  if (← get).session.active ≠ .xbpi then pure []
  else
    ignoringWarnings <| exceptClasses [.sartoriusError]
      (do
        let _ ← execute T Commands.CONFIG_COUNTER () false none
        pure [.configCounter])
      fun _ => pure []

/-- A metrology value of the identity; a device that refuses the read has none. -/
def optionalQuantity (m : Py (Host W) Quantity) : Py (Host W) (Option Quantity) :=
  exceptClasses [.sartoriusError] (some <$> m) fun _ => pure none

def identifySbi (T : Transport W) (settings : SerialSettings) : Py (Host W) DeviceInfo := do
  let model ← execute T Commands.READ_MODEL () false none
  let serialBytes ← execute T Commands.READ_FACTORY_NUMBER () false none
  let softwareBytes ← execute T Commands.READ_SW_VERSION () false none
  let serial := decodeAsciiIdentity serialBytes
  let software := decodeAsciiIdentity softwareBytes
  let family := classifyFamily model
  let capabilities := (familyDefaultCapabilities family).union [.sbiSupport]
  modifySession (·.updateIdentity family capabilities)
  let info : DeviceInfo :=
    { manufacturer := none, model, serial := if serial = [] then none else some serial,
      factoryNumber :=
        if serial ≠ [] then some (.text serial)
        else if serialBytes ≠ [] then some (.blob serialBytes)
        else none,
      software := if software = [] then none else some (String.ofList software), family,
      protocol := (← get).session.active, capacity := none, increment := none, sbn := none,
      serialSettings := settings, capabilities }
  modify fun h => { h with info := some info }
  pure info

def identifyXbpi (T : Transport W) (settings : SerialSettings) : Py (Host W) DeviceInfo := do
  let model ← execute T Commands.READ_MODEL () false none
  let manufacturer ← execute T Commands.READ_MANUFACTURER () false none
  let software ← execute T Commands.READ_SW_VERSION () false none
  let factoryNumber ← execute T Commands.READ_FACTORY_NUMBER () false none
  let sbn ← execute T Commands.READ_SBN () false none
  let family := classifyFamily model
  let observed ← probeDispatchCapabilities T
  let capabilities := (familyDefaultCapabilities family).union observed
  modifySession (·.updateIdentity family capabilities)
  let (capacity, increment) ← ignoringWarnings do
    let capacity ← optionalQuantity (capacity T 0)
    let increment ← optionalQuantity (increment T 0)
    pure (capacity, increment)
  let info : DeviceInfo :=
    { manufacturer := if manufacturer = [] then none else some manufacturer, model, serial := none,
      factoryNumber := some (.blob factoryNumber),
      software := if software = [] then none else some (bytesHex software), family,
      protocol := (← get).session.active, capacity, increment, sbn := some sbn,
      serialSettings := settings, capabilities }
  modify fun h => { h with info := some info }
  pure info

def identify (T : Transport W) : Py (Host W) DeviceInfo := do
  let s := (← get).session
  let settings := s.serialSettings.getD placeholderSerialSettings
  if s.active = .sbi then identifySbi T settings else identifyXbpi T settings

/-! ## Lifecycle operations -/

/-- The arguments of a protocol switch, and the clock of the sniff on the new client. -/
structure SwitchRequest where
  target : ProtocolKind
  baudrate : Option Nat := none
  parity : Option Parity := none
  stopbits : Option StopBits := none
  timeout : Option Rat := none
  confirm : Bool := false
  clock : List Rat := []
  deriving DecidableEq, Repr

def SwitchRequest.noFramingChange (r : SwitchRequest) : Bool :=
  r.baudrate.isNone ∧ r.parity.isNone ∧ r.stopbits.isNone

/-- The identity of a new client object. -/
def freshId : Py (Host W) Nat := do
  let h ← get
  modify fun h => { h with nextId := h.nextId + 1 }
  pure h.nextId

/-- A call on an SBI client that is not installed. -/
def onNewSbi {α : Type} (c : Sbi.SbiClient) (m : Py (Sbi.SbiLink W) α) : Py (Host W) Sbi.SbiClient :=
  Prog.ofFun fun h =>
    let (result, s) := m.exec { client := c, world := h.world }
    (result.map fun _ => s.client, { h with world := s.world })

/-- `READ_MODEL` through the new xBPI client. -/
def verifyXbpi (T : Transport W) (srcSbn dstSbn : Int) (timeout : Rat) : Py (Host W) Unit := do
  let request ← liftExc (Commands.frameOf 0x02 [] { protocol := .xbpi, srcSbn, dstSbn })
  let _ ← onWorld (Xbpi.executeLocked T false request timeout "configure_protocol_verify" (some 0x02))

/-- `READ_MODEL` through the new SBI client. -/
def verifySbi (T : Transport W) (client : Sbi.SbiClient) (timeout : Rat) : Py (Host W) Sbi.SbiClient :=
  onNewSbi client
    (Sbi.execute T Sbi.TOKEN_TYPE timeout "configure_protocol_verify" (some Sbi.TOKEN_TYPE) 1)

/-- The new client of a switch, sniffed and verified. -/
def newClients (T : Transport W) (target : ProtocolKind) (srcSbn dstSbn : Int) (timeout : Rat)
    (clock : List Rat) : Py (Host W) (Option XbpiClient × Option Sbi.SbiClient) := do
  let id ← freshId
  if target = .xbpi then do
    verifyXbpi T srcSbn dstSbn timeout
    pure (some { id, defaultTimeout := timeout }, none)
  else do
    let client ← onNewSbi { id, defaultTimeout := timeout } (Sbi.detectAutoprint T clock)
    if client.autoprintActive then pure (none, some client)
    else do
      let client ← verifySbi T client timeout
      pure (none, some client)

/-- `_dispose_replaced_clients`, for new clients that are new objects. -/
def disposeReplaced (old : Session) : Py (Host W) Unit :=
  modify fun h => { h with retired := old.xbpi.toList.map (·.id) ++ old.sbi.toList.map (·.id) ++ h.retired }

def rollbackError (settings : SerialSettings) (target : ProtocolKind) (failure : Exc) : SartoriusError where
  cls := .connectionError
  message := s!"configure_protocol to {target.value} failed and the rollback " ++
    s!"reopen at {textRepr settings.port} also failed; session is BROKEN. " ++
    "Close this balance and re-open via open_device(...) to recover."
  context := { commandName := some "configure_protocol", port := some settings.port,
               extra := [("target_protocol", .text target.value), ("session_state", .text "broken"),
                         ("rollback_error", .text failure.repr)] }

def rollbackConfigureProtocol (T : Transport W) (oldSettings : Option SerialSettings)
    (target : ProtocolKind) : Py (Host W) Unit :=
  match oldSettings with
  | none => modifySession (·.markBroken)
  | some settings =>
      exceptException
        (onWorld (T.reopen (some settings.baudrate) (some settings.parity) (some settings.stopbits)))
        fun e => do
          modifySession (·.markBroken)
          throw (.sartorius (rollbackError settings target e))

/-- The reopened port and the new clients, up to the disposal of the old ones. -/
def installClients (T : Transport W) (r : SwitchRequest) (old : Session) : Py (Host W) Unit := do
  onWorld T.drainInput
  onWorld (T.reopen r.baudrate r.parity r.stopbits)
  let (xbpi, sbi) ← newClients T r.target old.srcSbn old.dstSbn (r.timeout.getD old.defaultTimeout) r.clock
  let session ← liftExcept ((← get).session.replaceClients xbpi sbi r.target
    (old.serialSettings.map (·.override r.baudrate r.parity r.stopbits)))
  modifySession fun _ => session
  disposeReplaced old

/-- What `configure_protocol` does under the lock of the old client, whose session is `old`. -/
def switchProtocol (T : Transport W) (r : SwitchRequest) (old : Session) : Py (Host W) Unit :=
  exceptException (installClients T r old) fun switchError => do
    rollbackConfigureProtocol T old.serialSettings r.target
    throw switchError

/-- The lock of the client of the active protocol exists. -/
def hasActiveLock (s : Session) : Bool := (s.active = .xbpi ∧ s.xbpi.isSome) ∨ s.sbi.isSome

def configureProtocol (T : Transport W) (r : SwitchRequest) : Py (Host W) DeviceInfo := do
  if r.target = .auto then
    raise .validationError "configure_protocol: target must be XBPI or SBI, not AUTO"
      { commandName := some "configure_protocol", extra := [("target", .text "auto")] }
  else if ¬ r.confirm then
    raise .confirmationRequiredError "configure_protocol is DANGEROUS; pass confirm=True to execute"
      { commandName := some "configure_protocol", extra := [("target", .text r.target.value)] }
  else do
    let h ← get
    liftExcept h.session.checkState
    if r.target = h.session.active ∧ r.noFramingChange then
      match h.info with
      | some info => pure info
      | none => identify T
    else if h.session.xbpi.isNone ∧ h.session.sbi.isNone then throw .assertionError
    else if ¬ hasActiveLock h.session then
      raise .sartoriusError "configure_protocol: active protocol has no client lock"
        { commandName := some "configure_protocol" }
    else do
      switchProtocol T r h.session
      identify T

def maxU8 : Int := 0xFF

def setBaudRate (T : Transport W) (wireCode : Int) (baudrate : Nat) (r : SwitchRequest) :
    Py (Host W) DeviceInfo := do
  let active := (← get).session.active
  if ¬ r.confirm then
    raise .confirmationRequiredError "set_baud_rate is DANGEROUS; pass confirm=True to execute"
      { commandName := some "set_baud_rate",
        extra := [("wire_code", .int wireCode), ("baudrate", .int baudrate)] }
  else if active ≠ .xbpi then
    raise .sartoriusError
      ("set_baud_rate requires an xBPI session; " ++
        "call configure_protocol(ProtocolKind.XBPI, ...) first")
      { commandName := some "set_baud_rate", protocol := some active.value }
  else if ¬ (0 ≤ wireCode ∧ wireCode ≤ maxU8) then
    raise .validationError s!"set_baud_rate: wire_code must be 0..0xFF, got {wireCode}"
      { commandName := some "set_baud_rate", extra := [("wire_code", .int wireCode)] }
  else do
    -- an acknowledgement that is lost in the change of the baud rate is no error
    suppress do
      let args ← liftExc (Commands.tlvU8 wireCode)
      let _ ← executeRawXbpi T 0x5C args true r.timeout
    configureProtocol T { r with target := .xbpi, baudrate := some baudrate, confirm := true }

def writeSbnAddress (T : Transport W) (sbn : Int) (updateSessionDst : Bool) (timeout : Option Rat)
    (confirm : Bool) : Py (Host W) Int := do
  let active := (← get).session.active
  if ¬ confirm then
    raise .confirmationRequiredError "write_sbn_address is DANGEROUS; pass confirm=True to execute"
      { commandName := some "write_sbn_address", extra := [("sbn", .int sbn)] }
  else if ¬ (0 ≤ sbn ∧ sbn ≤ maxU8) then
    raise .validationError s!"write_sbn_address: sbn must be 0..0xFF, got {sbn}"
      { commandName := some "write_sbn_address", extra := [("sbn", .int sbn)] }
  else if active ≠ .xbpi then
    raise .sartoriusError
      ("write_sbn_address requires an xBPI session; " ++
        "call configure_protocol(ProtocolKind.XBPI, ...) first")
      { commandName := some "write_sbn_address", protocol := some active.value }
  else do
    let args ← liftExc (Commands.tlvU8 sbn)
    let _ ← executeRawXbpi T 0x72 args true timeout
    let readback ← execute T Commands.READ_SBN () false timeout
    if updateSessionDst then modifySession fun s => { s with dstSbn := sbn }
    pure readback

end Balance

end SartoriusLib
