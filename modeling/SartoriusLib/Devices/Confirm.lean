import SartoriusLib.Devices.Dispatch
import SartoriusLib.Transport.Serial

/-!
# Nothing dangerous leaves without a confirmation

Every method of the balance that is called without a confirmation sends harmless data only; the lifecycle
operations check their confirmation before anything else that could be written.
-/

namespace SartoriusLib

open Lib

variable {W : Type} {T : Transport W} {K : W → Prop} {v : Session.Frame} {gone : List Nat}

/-! ## The methods -/

namespace Balance

open Prog

theorem poll_keeps (hT : T.Keeps K v.active) (remaining : Rat) (clock : List Rat) :
    Keeps (AtFrame v gone K) (poll T remaining clock) :=
  Keeps.get.bind fun _ => .ite (fun _ => readSbiAutoprintReading_keeps hT remaining clock) fun _ =>
    execute_keeps hT _ _ (fun _ => .both rfl (by decide) rfl (by decide) _) _

theorem readNet_keeps (hT : T.Keeps K v.active) (hires : Int) (remaining : Rat) (clock : List Rat) :
    Keeps (AtFrame v gone K) (readNet T hires remaining clock) :=
  .ite (fun _ => poll_keeps hT remaining clock) fun _ =>
    execute_keeps hT _ _ (fun _ => .oneArg rfl (by decide) rfl _) _

theorem readGross_keeps (hT : T.Keeps K v.active) (hires : Int) : Keeps (AtFrame v gone K) (readGross T hires) :=
  .ite (fun _ => execute_keeps hT _ _ (fun _ => .noArgs rfl (by decide) rfl _) _) fun _ =>
    execute_keeps hT _ _ (fun _ => .oneArg rfl (by decide) rfl _) _

theorem readParameter_keeps (hT : T.Keeps K v.active) (index : Int) :
    Keeps (AtFrame v gone K) (readParameter T index) := by
  refine (cachedExecute_keeps hT _ _ (.oneArg rfl (by decide) rfl _) _ _ _).bind fun value => ?_
  cases value with
  | parameter entry => exact .pure _
  | quantity q => exact .throw _

theorem writeParameter_keeps (hT : T.Keeps K v.active) (index value : Int) :
    Keeps (AtFrame v gone K) (writeParameter T index value false) :=
  (execute_keeps_of_needsConfirm hT _ _ (by decide) _).bind fun _ => modifySession_keeps _ (by intro _; rfl)

theorem getTyped_keeps (hT : T.Keeps K v.active) (index : Int) : Keeps (AtFrame v gone K) (getTyped T index) :=
  (readParameter_keeps hT index).bind fun _ => .pure _

theorem setTyped_keeps (hT : T.Keeps K v.active) (index : Int) (wire : Except Exc Int) :
    Keeps (AtFrame v gone K) (setTyped T index wire false) :=
  (liftExc_keeps wire).bind fun value => writeParameter_keeps hT index value

theorem resolveMetrologyUnit_keeps (hT : T.Keeps K v.active) (raw : Quantity) :
    Keeps (AtFrame v gone K) (resolveMetrologyUnit T raw) :=
  .ite (fun _ => .pure _) fun _ =>
    Keeps.exceptClasses (((getTyped_keeps hT _).map _).bind fun _ => .pure _) fun _ => .pure _

/-- The two metrology reads. -/
theorem metrologyRead_keeps (hT : T.Keeps K v.active) {command : Command Int Quantity} {area : Int}
    (hharm : Harmless command area) (cacheKey : String) :
    Keeps (AtFrame v gone K) (metrologyRead T command area cacheKey) := by
  refine (cachedExecute_keeps hT command area hharm _ _ _).bind fun value => ?_
  cases value with
  | quantity raw => exact resolveMetrologyUnit_keeps hT raw
  | parameter p => exact .throw _

theorem capacity_keeps (hT : T.Keeps K v.active) (area : Int) : Keeps (AtFrame v gone K) (capacity T area) :=
  metrologyRead_keeps hT (.oneArg rfl (by decide) rfl _) _

theorem increment_keeps (hT : T.Keeps K v.active) (area : Int) : Keeps (AtFrame v gone K) (increment T area) :=
  metrologyRead_keeps hT (.oneArg rfl (by decide) rfl _) _

theorem temperature_keeps (hT : T.Keeps K v.active) (sensor : Int) : Keeps (AtFrame v gone K) (temperature T sensor) :=
  (execute_keeps hT _ _ (fun _ => .oneArg rfl (by decide) rfl _) _).bind fun _ => .pure _

/-- What a read keeps, the loop keeps. -/
theorem discoverLoop_keeps {I : Host W → Prop} (hI : ∀ sensor, Keeps I (temperature T sensor)) (n : Nat)
    (sensor : Int) : Keeps I (discoverLoop T n sensor) := by
  induction n generalizing sensor with
  | zero => exact .pure _
  | succ n ih =>
      refine Keeps.bind (Keeps.tryCatch ((hI sensor).bind fun _ => .pure _) fun e => ?_) fun probe => ?_
      · exact .ite (fun _ => .pure _) fun _ => .ite (fun _ => .pure _) fun _ => .throw _
      · cases probe with
        | none => exact .pure _
        | some found => exact (ih (sensor + 1)).bind fun _ => .pure _

theorem discoverTemperatureSensors_keeps (hT : T.Keeps K v.active) (maxIndex : Int) :
    Keeps (AtFrame v gone K) (discoverTemperatureSensors T maxIndex) :=
  .ite (fun _ => .throw _) fun _ => (discoverLoop_keeps (temperature_keeps hT) _ _).bind fun _ =>
    Keeps.bind (.modify fun _ hh => hh) fun _ => .pure _

theorem ignoringWarnings_keeps {α : Type} {m : Py (Host W) α} (hm : Keeps (AtFrame v gone K) m) :
    Keeps (AtFrame v gone K) (ignoringWarnings m) :=
  fun h hh => hm { h with warnings := .ignore } hh

theorem optionalQuantity_keeps {m : Py (Host W) Quantity} (hm : Keeps (AtFrame v gone K) m) :
    Keeps (AtFrame v gone K) (optionalQuantity m) :=
  Keeps.exceptClasses (hm.map _) fun _ => .pure _

theorem probeDispatchCapabilities_keeps (hT : T.Keeps K v.active) :
    Keeps (AtFrame v gone K) (probeDispatchCapabilities T) :=
  Keeps.get.bind fun _ => .ite (fun _ => .pure _) fun _ =>
    ignoringWarnings_keeps (Keeps.exceptClasses ((configCounter_keeps hT none).bind fun _ => .pure _)
      fun _ => .pure _)

theorem readModel_keeps (hT : T.Keeps K v.active) :
    Keeps (AtFrame v gone K) (execute T Commands.READ_MODEL () false none) :=
  execute_keeps hT _ _ (fun _ => .both rfl (by decide) rfl (by decide) _) _

theorem readFactoryNumber_keeps (hT : T.Keeps K v.active) :
    Keeps (AtFrame v gone K) (execute T Commands.READ_FACTORY_NUMBER () false none) :=
  execute_keeps hT _ _ (fun _ => .both rfl (by decide) rfl (by decide) _) _

theorem readSwVersion_keeps (hT : T.Keeps K v.active) :
    Keeps (AtFrame v gone K) (execute T Commands.READ_SW_VERSION () false none) :=
  execute_keeps hT _ _ (fun _ => .both rfl (by decide) rfl (by decide) _) _

theorem identifySbi_keeps (hT : T.Keeps K v.active) (settings : SerialSettings) :
    Keeps (AtFrame v gone K) (identifySbi T settings) :=
  (readModel_keeps hT).bind fun _ => (readFactoryNumber_keeps hT).bind fun _ =>
    (readSwVersion_keeps hT).bind fun _ => (modifySession_keeps _ (by intro _; rfl)).bind fun _ =>
      Keeps.get.bind fun _ => Keeps.bind (.modify fun _ hh => hh) fun _ => .pure _

theorem identifyXbpi_keeps (hT : T.Keeps K v.active) (settings : SerialSettings) :
    Keeps (AtFrame v gone K) (identifyXbpi T settings) := by
  have hmanufacturer : Keeps (AtFrame v gone K) (execute T Commands.READ_MANUFACTURER () false none) :=
    execute_keeps hT _ _ (fun _ => .noArgs rfl (by decide) rfl _) _
  have hsbn : Keeps (AtFrame v gone K) (execute T Commands.READ_SBN () false none) :=
    execute_keeps hT _ _ (fun _ => .noArgs rfl (by decide) rfl _) _
  have hmetrology : Keeps (AtFrame v gone K) (do
      let capacity ← optionalQuantity (capacity T 0)
      let increment ← optionalQuantity (increment T 0)
      pure (capacity, increment)) :=
    (optionalQuantity_keeps (capacity_keeps hT 0)).bind fun _ =>
      (optionalQuantity_keeps (increment_keeps hT 0)).bind fun _ => .pure _
  exact (readModel_keeps hT).bind fun _ => hmanufacturer.bind fun _ => (readSwVersion_keeps hT).bind fun _ =>
    (readFactoryNumber_keeps hT).bind fun _ => hsbn.bind fun _ =>
      (probeDispatchCapabilities_keeps hT).bind fun _ => (modifySession_keeps _ (by intro _; rfl)).bind fun _ =>
        (ignoringWarnings_keeps hmetrology).bind fun _ => Keeps.get.bind fun _ =>
          Keeps.bind (.modify fun _ hh => hh) fun _ => .pure _

theorem identify_keeps (hT : T.Keeps K v.active) : Keeps (AtFrame v gone K) (identify T) :=
  Keeps.get.bind fun _ => .ite (fun _ => identifySbi_keeps hT _) fun _ => identifyXbpi_keeps hT _

/-- The three lifecycle operations check their confirmation before anything else that can be written. -/
theorem configureProtocol_keeps {r : SwitchRequest} (h : r.confirm = false) :
    Keeps (AtFrame v gone K) (configureProtocol T r) := by
  refine .ite (fun _ => Keeps.raise _ _ _) fun _ => .ite (fun _ => Keeps.raise _ _ _) fun hc => ?_
  exact absurd h (by simpa using hc)

theorem setBaudRate_keeps (wireCode : Int) (baudrate : Nat) {r : SwitchRequest} (h : r.confirm = false) :
    Keeps (AtFrame v gone K) (setBaudRate T wireCode baudrate r) := by
  refine Keeps.get.bind fun _ => .ite (fun _ => Keeps.raise _ _ _) fun hc => ?_
  exact absurd h (by simpa using hc)

theorem writeSbnAddress_keeps (sbn : Int) (updateSessionDst : Bool) (timeout : Option Rat) :
    Keeps (AtFrame v gone K) (writeSbnAddress T sbn updateSessionDst timeout false) :=
  Keeps.get.bind fun _ => .ite (fun _ => Keeps.raise _ _ _) fun hc => absurd Bool.false_ne_true hc

/-! ## Runs -/

/-- A call of a method of the balance. -/
inductive Call where
  | poll (remaining : Rat) (clock : List Rat)
  | readNet (hires : Int) (remaining : Rat) (clock : List Rat)
  | readGross (hires : Int)
  | readTareValue
  | tare
  | zero
  | status
  | readParameter (index : Int)
  | writeParameter (index value : Int) (confirm : Bool)
  | getTyped (index : Int)
  | setTyped (index : Int) (wire : Except Exc Int) (confirm : Bool)
  | capacity (area : Int)
  | increment (area : Int)
  | temperature (sensor : Int)
  | discoverTemperatureSensors (maxIndex : Int)
  | saveMenu (confirm : Bool)
  | reloadMenu (confirm : Bool)
  | lastCalRecord
  | internalAdjust (calType : Option Int) (confirm : Bool)
  | identify
  | refreshSbiAutoprintState (clock : List Rat)
  | configureProtocol (r : SwitchRequest)
  | setBaudRate (wireCode : Int) (baudrate : Nat) (r : SwitchRequest)
  | writeSbnAddress (sbn : Int) (updateSessionDst : Bool) (timeout : Option Rat) (confirm : Bool)
  | rawXbpi (opcode : Int) (args : Bytes) (confirm : Bool) (timeout : Option Rat)
  | rawSbi (command : Sbi.SbiCommand) (confirm : Bool) (timeout : Option Rat) (expectLines : Int)

/-- `confirm=True` is among the arguments. -/
def Call.confirms : Call → Bool
  | .writeParameter _ _ confirm | .setTyped _ _ confirm | .saveMenu confirm | .reloadMenu confirm
  | .internalAdjust _ confirm | .writeSbnAddress _ _ _ confirm | .rawXbpi _ _ confirm _
  | .rawSbi _ confirm _ _ => confirm
  | .configureProtocol r | .setBaudRate _ _ r => r.confirm
  | _ => false

/-- The call, with its result thrown away. -/
def Call.perform (T : Transport W) : Call → Py (Host W) Unit
  | .poll remaining clock => discard (Balance.poll T remaining clock)
  | .readNet hires remaining clock => discard (Balance.readNet T hires remaining clock)
  | .readGross hires => discard (Balance.readGross T hires)
  | .readTareValue => discard (Balance.readTareValue T)
  | .tare => Balance.tare T
  | .zero => Balance.zero T
  | .status => discard (Balance.status T)
  | .readParameter index => discard (Balance.readParameter T index)
  | .writeParameter index value confirm => Balance.writeParameter T index value confirm
  | .getTyped index => discard (Balance.getTyped T index)
  | .setTyped index wire confirm => Balance.setTyped T index wire confirm
  | .capacity area => discard (Balance.capacity T area)
  | .increment area => discard (Balance.increment T area)
  | .temperature sensor => discard (Balance.temperature T sensor)
  | .discoverTemperatureSensors maxIndex => discard (Balance.discoverTemperatureSensors T maxIndex)
  | .saveMenu confirm => Balance.saveMenu T confirm
  | .reloadMenu confirm => Balance.reloadMenu T confirm
  | .lastCalRecord => discard (Balance.lastCalRecord T)
  | .internalAdjust calType confirm => Balance.internalAdjust T calType confirm
  | .identify => discard (Balance.identify T)
  | .refreshSbiAutoprintState clock => discard (SartoriusLib.refreshSbiAutoprintState T clock)
  | .configureProtocol r => discard (Balance.configureProtocol T r)
  | .setBaudRate wireCode baudrate r => discard (Balance.setBaudRate T wireCode baudrate r)
  | .writeSbnAddress sbn update timeout confirm => discard (Balance.writeSbnAddress T sbn update timeout confirm)
  | .rawXbpi opcode args confirm timeout => discard (executeRawXbpi T opcode args confirm timeout)
  | .rawSbi command confirm timeout expectLines => discard (executeRawSbi T command confirm timeout expectLines)

/-- The calls one after the other; a call that raises does not end the run. -/
def runCalls (T : Transport W) : List Call → Host W → Host W
  | [], h => h
  | c :: calls, h => runCalls T calls ((c.perform T).exec h).2

theorem perform_keeps (hT : T.Keeps K v.active) (c : Call) (hc : c.confirms = false) :
    Keeps (AtFrame v gone K) (c.perform T) := by
  cases c with
  | poll remaining clock => exact (poll_keeps hT remaining clock).map _
  | readNet hires remaining clock => exact (readNet_keeps hT hires remaining clock).map _
  | readGross hires => exact (readGross_keeps hT hires).map _
  | readTareValue => exact (execute_keeps hT _ _ (fun _ => .noArgs rfl (by decide) rfl _) _).map _
  | tare => exact execute_keeps hT _ _ (fun _ => .both rfl (by decide) rfl (by decide) _) _
  | zero => exact execute_keeps hT _ _ (fun _ => .both rfl (by decide) rfl (by decide) _) _
  | status => exact (execute_keeps hT _ _ (fun _ => .both rfl (by decide) rfl (by decide) _) _).map _
  | readParameter index => exact (readParameter_keeps hT index).map _
  | writeParameter index value confirm => cases hc; exact writeParameter_keeps hT index value
  | getTyped index => exact (getTyped_keeps hT index).map _
  | setTyped index wire confirm => cases hc; exact setTyped_keeps hT index wire
  | capacity area => exact (capacity_keeps hT area).map _
  | increment area => exact (increment_keeps hT area).map _
  | temperature sensor => exact (temperature_keeps hT sensor).map _
  | discoverTemperatureSensors maxIndex => exact (discoverTemperatureSensors_keeps hT maxIndex).map _
  | saveMenu confirm =>
      cases hc
      exact (execute_keeps_of_needsConfirm hT _ _ (by decide) _).bind fun _ => modifySession_keeps _ (by intro _; rfl)
  | reloadMenu confirm =>
      cases hc
      exact (execute_keeps_of_needsConfirm hT _ _ (by decide) _).bind fun _ => modifySession_keeps _ (by intro _; rfl)
  | lastCalRecord => exact (execute_keeps hT _ _ (fun _ => .noArgs rfl (by decide) rfl _) _).map _
  | internalAdjust calType confirm => cases hc; exact execute_keeps_of_needsConfirm hT _ _ (by decide) _
  | identify => exact (identify_keeps hT).map _
  | refreshSbiAutoprintState clock =>
      exact (refreshSbiAutoprintState_keeps hT clock).map _
  | configureProtocol r => exact (configureProtocol_keeps hc).map _
  | setBaudRate wireCode baudrate r => exact (setBaudRate_keeps wireCode baudrate hc).map _
  | writeSbnAddress sbn update timeout confirm =>
      cases hc
      exact (writeSbnAddress_keeps sbn update timeout).map _
  | rawXbpi opcode args confirm timeout => cases hc; exact (executeRawXbpi_keeps hT opcode args timeout).map _
  | rawSbi command confirm timeout expectLines =>
      cases hc
      exact (executeRawSbi_keeps hT command timeout expectLines).map _

theorem runCalls_keeps (hT : T.Keeps K v.active) {calls : List Call} (hno : ∀ c ∈ calls, c.confirms = false)
    {h : Host W} (hh : AtFrame v gone K h) : AtFrame v gone K (runCalls T calls h) := by
  induction calls generalizing h with
  | nil => exact hh
  | cons c calls ih =>
      exact ih (fun c hc => hno c (List.mem_cons_of_mem _ hc))
        (perform_keeps hT c (hno c List.mem_cons_self) h hh)

/-- In a run without a confirmation only harmless frames are written over xBPI, and only harmless tokens over
SBI. -/
theorem runCalls_unconfirmed (T : Transport W) {calls : List Call} (hno : ∀ c ∈ calls, c.confirms = false)
    {h : Host (Logged W)} (hlog : h.world.written = []) :
    ∀ data ∈ (runCalls (logged T) calls h).world.written, Unconfirmed h.session.active data := by
  have hstart : OnlyUnconfirmed h.session.active h.world := by
    intro data hdata
    rw [hlog] at hdata
    cases hdata
  exact (runCalls_keeps (logged_keeps T h.session.active) hno ⟨rfl, rfl, hstart⟩).2.2

/-- A fresh xBPI session on an open port. -/
def freshHost : Host (Logged SerialState) where
  world := { world := { settings := { port := "COM3" } } }
  session := { active := .xbpi, xbpi := some { id := 0 } }

/-- The tare is sent, the menu is not saved. -/
theorem runCalls_unconfirmed_tare :
    (runCalls (logged serialTransport) [.tare, .saveMenu false] freshHost).world.written =
      [[0x04, 0x01, 0x09, 0x14, 0x22]] ∧
    ∀ data ∈
      (runCalls (logged serialTransport) [.tare, .saveMenu false] freshHost).world.written,
      Unconfirmed .xbpi data :=
  ⟨by decide +kernel, runCalls_unconfirmed serialTransport (by decide) rfl⟩

end Balance

end SartoriusLib
