import SartoriusLib.Lib.Dict
import SartoriusLib.Devices.Session
import SartoriusLib.Protocol.Detect

/-!
# Discovery

`discover_port` opens one port at one framing and reports what the detector makes of it, `find_devices` sweeps the
baud rates of each port, and `summarize_discovery` folds the reports into one row for each port.
-/

namespace SartoriusLib

open Lib Prog

structure DiscoveryResult where
  ok : Bool
  port : String
  address : Option Int
  baudrate : Option Nat
  protocol : Option ProtocolKind
  error : Option SartoriusError
  elapsedS : Rat
  parity : String := "O"
  stopbits : Int := 1
  autoprintActive : Bool := false
  pendingLines : List Bytes := []
  deriving DecidableEq, Repr

structure DiscoverySummary where
  port : String
  ok : Bool
  baudrate : Option Nat
  protocol : Option ProtocolKind
  autoprintActive : Bool
  error : Option SartoriusError
  elapsedS : Rat
  deriving DecidableEq, Repr

namespace Discovery

variable {W α : Type}

def defaultDiscoveryBaudrates : List Nat := [9600, 19200, 38400, 57600, 115200]

/-! ## One port -/

/-- `int(stopbits.value)`. -/
def intStopbits : StopBits → Except Exc Int
  | .one => .ok 1
  | .two => .ok 2
  | .onePointFive => .error (.valueError "invalid literal for int() with base 10: '1.5'")

def failedResult (settings : SerialSettings) (label : String) (elapsed : Rat) (e : SartoriusError) :
    Except Exc DiscoveryResult := do
  let stopbits ← intStopbits settings.stopbits
  pure { ok := false, port := label, address := none, baudrate := some settings.baudrate, protocol := none,
         error := some e, elapsedS := elapsed, parity := settings.parity.value, stopbits }

def foundResult (settings : SerialSettings) (label : String) (dstSbn : Int) (elapsed : Rat)
    (detection : Detect.DetectionResult) : Except Exc DiscoveryResult := do
  let stopbits ← intStopbits settings.stopbits
  pure { ok := true, port := label, address := if detection.protocol.value = "xbpi" then some dstSbn else none,
         baudrate := some settings.baudrate, protocol := some detection.protocol, error := none,
         elapsedS := elapsed, parity := settings.parity.value, stopbits,
         autoprintActive := detection.autoprintActive, pendingLines := detection.pendingLines }

/-- What a `try` sees whose `except` clause names `SartoriusError`. -/
def caught (m : Py W α) : Py W (Except SartoriusError α) :=
  tryCatch (.ok <$> m) fun e =>
    match e with
    | .sartorius err => pure (.error err)
    | _ => throw e

/-- `try: m finally: cleanup`. -/
def tryFinally (m : Py W α) (cleanup : Py W Unit) : Py W α :=
  ofFun fun w =>
    let (result, w') := m.exec w
    match cleanup.exec w' with
    | (.ok _, w'') => (result, w'')
    | (.error e, w'') => (.error e, w'')

/-- `discover_port` on a transport; `elapsed` is what the clock measures. -/
def discoverOn (T : OwnedTransport W) (settings : SerialSettings) (timeout sniffWindow : Rat) (srcSbn dstSbn : Int)
    (clock : List Rat) (elapsed : Rat) : Py W DiscoveryResult := do
  let label := T.label (← get)
  tryFinally
    (do
      let opened ← if T.isOpen (← get) then pure (.ok ()) else caught T.openPort
      match opened with
      | .error e => liftExc (failedResult settings label elapsed e)
      | .ok () =>
          match ← caught (Detect.detectProtocol T.toTransport timeout sniffWindow srcSbn dstSbn clock) with
          | .error e => liftExc (failedResult settings label elapsed e)
          | .ok detection => liftExc (foundResult settings label dstSbn elapsed detection))
    (suppress T.close)

/-- The argument of `discover_port`: the path of a serial port, or a transport that exists already. -/
inductive PortOrTransport where
  | path (port : String)
  | transport
  deriving DecidableEq, Repr

/-- The serial ports behind their paths, and the world of the transport that exists already. -/
structure Site (W : Type) where
  ports : String → SerialState
  given : W

/-- A program on a new `SerialTransport(settings)`. -/
def Site.onPort (settings : SerialSettings) (m : Py SerialState α) : Py (Site W) α :=
  zoom (fun site => { site.ports settings.port with settings, isOpen := false, pushback := [] })
    (fun s site => { site with ports := fun port => if port = settings.port then s else site.ports port }) m

def Site.onGiven (m : Py W α) : Py (Site W) α := zoom Site.given (fun w site => { site with given := w }) m

/-- `_resolve_transport`, the settings. -/
def resolveSettings (T : OwnedTransport W) (site : Site W) (port : PortOrTransport)
    (serialSettings : Option SerialSettings) : SerialSettings :=
  serialSettings.getD
    { port := match port with
        | .path port => port
        | .transport => T.label site.given }

def discoverPort (T : OwnedTransport W) (port : PortOrTransport) (serialSettings : Option SerialSettings)
    (timeout sniffWindow : Rat) (srcSbn dstSbn : Int) (clock : List Rat) (elapsed : Rat) :
    Py (Site W) DiscoveryResult := do
  let settings := resolveSettings T (← get) port serialSettings
  match port with
  | .path _ =>
      Site.onPort settings (discoverOn serialPort settings timeout sniffWindow srcSbn dstSbn clock elapsed)
  | .transport => Site.onGiven (discoverOn T settings timeout sniffWindow srcSbn dstSbn clock elapsed)

/-! ## The sweep -/

def isPortOpenFailure (result : DiscoveryResult) : Bool :=
  match result.error with
  | none => false
  | some e => (Exc.sartorius e).isinstance .connectionError

/-- The inner loop of `find_devices`; `probe` is `discover_port` with the timeouts of the sweep. -/
def sweepPort (probe : String → SerialSettings → Py W DiscoveryResult) (port : String) :
    List Nat → Py W (List DiscoveryResult)
  | [] => pure []
  | baud :: bauds => do
      let result ← probe port { port, baudrate := baud }
      if result.ok then pure [result]
      else if isPortOpenFailure result then pure [result]
      else do
        let later ← sweepPort probe port bauds
        pure (result :: later)

def sweepPorts (probe : String → SerialSettings → Py W DiscoveryResult) (bauds : List Nat) :
    List String → Py W (List DiscoveryResult)
  | [] => pure []
  | port :: ports => do
      let probes ← sweepPort probe port bauds
      let later ← sweepPorts probe bauds ports
      pure (probes ++ later)

def findDevices (probe : String → SerialSettings → Py W DiscoveryResult) (listSerialPorts : Py W (List String))
    (ports : Option (List String)) (baudrates : Option (List Nat)) : Py W (List DiscoveryResult) := do
  let bauds := baudrates.getD defaultDiscoveryBaudrates
  let portList ← match ports with
    | some ports => pure ports
    | none => listSerialPorts
  sweepPorts probe bauds portList

/-! ## The summary -/

def summaryOf (port : String) (probes : List DiscoveryResult) : DiscoverySummary :=
  let elapsed := (probes.map (·.elapsedS)).sum
  match probes.find? (·.ok) with
  | some hit =>
      { port, ok := true, baudrate := hit.baudrate, protocol := hit.protocol,
        autoprintActive := hit.autoprintActive, error := none, elapsedS := elapsed }
  | none =>
      { port, ok := false, baudrate := probes.getLast?.bind (·.baudrate), protocol := none,
        autoprintActive := false, error := probes.findSome? (·.error), elapsedS := elapsed }

def summarizeDiscovery (results : List DiscoveryResult) : List DiscoverySummary :=
  (Dict.group (·.port) results).map fun entry => summaryOf entry.1 entry.2

/-! ## What a probe reports and leaves -/

/-- The number of stop bits. -/
def bits : StopBits → Rat
  | .one => 1
  | .onePointFive => 3 / 2
  | .two => 2

/-- The opening of a transport that is not open, and the detection on it. -/
def detectOn (T : OwnedTransport W) (timeout sniffWindow : Rat) (srcSbn dstSbn : Int) (clock : List Rat) :
    Py W Detect.DetectionResult := do
  if T.isOpen (← get) then pure () else T.openPort
  Detect.detectProtocol T.toTransport timeout sniffWindow srcSbn dstSbn clock

def detectAt (T : OwnedTransport W) (port : PortOrTransport) (serialSettings : Option SerialSettings)
    (timeout sniffWindow : Rat) (srcSbn dstSbn : Int) (clock : List Rat) : Py (Site W) Detect.DetectionResult := do
  let settings := resolveSettings T (← get) port serialSettings
  match port with
  | .path _ => Site.onPort settings (detectOn serialPort timeout sniffWindow srcSbn dstSbn clock)
  | .transport => Site.onGiven (detectOn T timeout sniffWindow srcSbn dstSbn clock)

/-- The protocol that a detection resolved. -/
def resolved : Except Exc Detect.DetectionResult → Option ProtocolKind
  | .ok detection => some detection.protocol
  | .error _ => none

/-- A result reports a probe at `settings` that resolved `protocol`. -/
structure Reports (settings : SerialSettings) (protocol : Option ProtocolKind) (r : DiscoveryResult) : Prop where
  ok : r.ok = true ↔ protocol.isSome = true
  protocol : r.protocol = protocol
  error : r.error.isSome = true ↔ r.ok = false
  baudrate : r.baudrate = some settings.baudrate
  parity : r.parity = settings.parity.value
  stopbits : (r.stopbits : Rat) = bits settings.stopbits

/-- The transport of the probe is closed. -/
def ClosedAt (T : OwnedTransport W) (settings : SerialSettings) (site : Site W) : PortOrTransport → Prop
  | .path _ => (site.ports settings.port).isOpen = false
  | .transport => T.isOpen site.given = false

section Probe

variable {T : OwnedTransport W}

theorem exec_caught (m : Py W α) (w : W) :
    (caught m).exec w = match m.exec w with
      | (.ok a, w') => (.ok (.ok a), w')
      | (.error (.sartorius e), w') => (.ok (.error e), w')
      | (.error e, w') => (.error e, w') := by
  rw [caught, exec_tryCatch, exec_map]
  rcases m.exec w with ⟨e | a, w'⟩
  · cases e <;> rfl
  · rfl

theorem exec_suppress_close (hclose : T.Closes) (w : W) :
    (suppress T.close).exec w = (.ok (), (T.close.exec w).2) := by
  have hraised := hclose.raised w
  rw [suppress, exec_exceptClasses]
  rcases hrun : T.close.exec w with ⟨e | _, w'⟩
  · simp [hraised e (congrArg Prod.fst hrun)]
  · rfl

/-- What a probe comes to: the report that the settings make of the detection, or of its error. -/
def reported (settings : SerialSettings) (label : String) (dstSbn : Int) (elapsed : Rat) :
    Except Exc Detect.DetectionResult → Except Exc DiscoveryResult
  | .ok detection => foundResult settings label dstSbn elapsed detection
  | .error (.sartorius e) => failedResult settings label elapsed e
  | .error e => .error e

theorem exec_liftExc (x : Except Exc α) (w : W) : (liftExc x : Py W α).exec w = (x, w) := by cases x <;> rfl

theorem exec_discoverOn (hclose : T.Closes) (settings : SerialSettings) (timeout sniffWindow : Rat)
    (srcSbn dstSbn : Int) (clock : List Rat) (elapsed : Rat) (w : W) :
    ∃ w', T.isOpen w' = false ∧
      (discoverOn T settings timeout sniffWindow srcSbn dstSbn clock elapsed).exec w =
        (reported settings (T.label w) dstSbn elapsed
          ((detectOn T timeout sniffWindow srcSbn dstSbn clock).exec w).1, w') := by
  rw [discoverOn, exec_bind_ok (exec_get w), tryFinally, exec_ofFun, detectOn, exec_bind_ok (exec_get w)]
  simp only [exec_suppress_close hclose]
  refine ⟨_, hclose.closed _, Prod.ext ?_ rfl⟩
  dsimp only
  rw [exec_bind_ok (exec_get w)]
  -- whichever way the port came to be open, the detection runs in the same world
  cases hopen : T.isOpen w with
  | true =>
      simp only [if_true]
      rw [exec_bind_ok (exec_pure _ w)]
      dsimp only
      rw [exec_bind, exec_caught]
      rcases (Detect.detectProtocol T.toTransport timeout sniffWindow srcSbn dstSbn clock).exec w with ⟨e | d, w'⟩
      · cases e <;> simp only [reported, exec_liftExc]
      · simp only [reported, exec_liftExc]
  | false =>
      simp only [Bool.false_eq_true, if_false]
      rw [exec_bind, exec_caught, exec_bind]
      rcases T.openPort.exec w with ⟨e | u, w₁⟩
      · cases e <;> simp only [reported, exec_liftExc]
      · dsimp only
        rw [exec_bind, exec_caught]
        rcases (Detect.detectProtocol T.toTransport timeout sniffWindow srcSbn dstSbn clock).exec w₁ with ⟨e | d, w'⟩
        · cases e <;> simp only [reported, exec_liftExc]
        · simp only [reported, exec_liftExc]

/-- The report of a library error or of a protocol is returned unless the stop bits are no integer. -/
theorem reported_iff {settings : SerialSettings} {result : Except Exc Detect.DetectionResult} (label : String)
    (dstSbn : Int) (elapsed : Rat) (h : ∀ e, result = .error e → e.isinstance .sartoriusError = true) :
    (∃ r, reported settings label dstSbn elapsed result = .ok r ∧ Reports settings (resolved result) r) ↔
      settings.stopbits ≠ .onePointFive := by
  rcases result with e | detection
  · have he := h e rfl
    cases e with
    | sartorius err =>
        simp only [reported, failedResult, resolved]
        cases hbits : settings.stopbits with
        | onePointFive => exact iff_of_false (by rintro ⟨r, hr, -⟩; cases hr) (by simp)
        | one => exact iff_of_true ⟨_, rfl, by simp, rfl, by simp, rfl, rfl, by simp [bits, hbits]⟩ (by simp)
        | two => exact iff_of_true ⟨_, rfl, by simp, rfl, by simp, rfl, rfl, by simp [bits, hbits]⟩ (by simp)
    | _ => cases he
  · simp only [reported, foundResult, resolved]
    cases hbits : settings.stopbits with
    | onePointFive => exact iff_of_false (by rintro ⟨r, hr, -⟩; cases hr) (by simp)
    | one => exact iff_of_true ⟨_, rfl, by simp, rfl, by simp, rfl, rfl, by simp [bits, hbits]⟩ (by simp)
    | two => exact iff_of_true ⟨_, rfl, by simp, rfl, by simp, rfl, rfl, by simp [bits, hbits]⟩ (by simp)

/-- A probe whose opening and detection raise library errors only reports them and closes its transport, exactly
when the number of stop bits is an integer. -/
theorem discoverPort_reports (hclose : T.Closes) (port : PortOrTransport) (serialSettings : Option SerialSettings)
    (timeout sniffWindow : Rat) (srcSbn dstSbn : Int) (clock : List Rat) (elapsed : Rat) (site : Site W)
    (hraised : ∀ e, ((detectAt T port serialSettings timeout sniffWindow srcSbn dstSbn clock).exec site).1 =
      .error e → e.isinstance .sartoriusError = true) :
    (∃ r site', (discoverPort T port serialSettings timeout sniffWindow srcSbn dstSbn clock elapsed).exec site =
        (.ok r, site') ∧
      Reports (resolveSettings T site port serialSettings)
        (resolved ((detectAt T port serialSettings timeout sniffWindow srcSbn dstSbn clock).exec site).1) r ∧
      ClosedAt T (resolveSettings T site port serialSettings) site' port) ↔
    (resolveSettings T site port serialSettings).stopbits ≠ .onePointFive := by
  rw [discoverPort, detectAt, exec_bind_ok (exec_get site), exec_bind_ok (exec_get site)]
  rw [detectAt, exec_bind_ok (exec_get site)] at hraised
  generalize hsettings : resolveSettings T site port serialSettings = settings at *
  cases port with
  | path port =>
      simp only [Site.onPort, exec_zoom] at hraised ⊢
      obtain ⟨s', hclosed, hrun⟩ := exec_discoverOn serialPort_closes settings timeout sniffWindow srcSbn dstSbn
        clock elapsed { site.ports settings.port with settings, isOpen := false, pushback := [] }
      rw [hrun, ← reported_iff _ dstSbn elapsed hraised]
      constructor
      · rintro ⟨r, site', hr, hreports, -⟩
        exact ⟨r, congrArg Prod.fst hr, hreports⟩
      · rintro ⟨r, hr, hreports⟩
        refine ⟨r, _, Prod.ext hr rfl, hreports, ?_⟩
        simp only [ClosedAt, if_true]
        exact hclosed
  | transport =>
      simp only [Site.onGiven, exec_zoom] at hraised ⊢
      obtain ⟨w', hclosed, hrun⟩ := exec_discoverOn hclose settings timeout sniffWindow srcSbn dstSbn clock elapsed
        site.given
      rw [hrun, ← reported_iff _ dstSbn elapsed hraised]
      constructor
      · rintro ⟨r, site', hr, hreports, -⟩
        exact ⟨r, congrArg Prod.fst hr, hreports⟩
      · rintro ⟨r, hr, hreports⟩
        exact ⟨r, _, Prod.ext hr rfl, hreports, hclosed⟩

end Probe

/-- A site where every port is held by another program. -/
def busySite : Site SerialState where
  ports _ := { settings := { port := "" }, opens := [.closed "device or resource busy"] }
  given := { settings := { port := "/dev/ttyUSB0" }, isOpen := false }

/-- The default settings have one stop bit: the probe of a port that is busy reports its error. -/
theorem discoverPort_reports_busy :
    (resolveSettings serialPort busySite (.path "/dev/ttyUSB0") none).stopbits ≠ .onePointFive ↔
      ∃ r site', (discoverPort serialPort (.path "/dev/ttyUSB0") none 1 (1 / 4) 1 9 [1 / 4] 0).exec busySite =
        (.ok r, site') ∧ Reports (resolveSettings serialPort busySite (.path "/dev/ttyUSB0") none)
          (resolved ((detectAt serialPort (.path "/dev/ttyUSB0") none 1 (1 / 4) 1 9 [1 / 4]).exec busySite).1) r ∧
        ClosedAt serialPort (resolveSettings serialPort busySite (.path "/dev/ttyUSB0") none) site'
          (.path "/dev/ttyUSB0") :=
  (discoverPort_reports serialPort_closes _ _ _ _ _ _ _ _ _ fun e h => by cases h; rfl).symm

/-- With one and a half stop bits the error of the port does not come back: the report itself raises. -/
theorem one_and_a_half_raises :
    ((discoverPort serialPort (.path "/dev/ttyUSB0")
      (some { port := "/dev/ttyUSB0", baudrate := 9600, stopbits := .onePointFive }) 1 (1 / 4) 1 9 [1 / 4] 0).exec
        busySite).1 = .error (.valueError "invalid literal for int() with base 10: '1.5'") := rfl

/-! ## What a sweep returns -/

/-- The probe of a port at a framing, from each state of the world. -/
abbrev Outcome (W : Type) : Type := String → SerialSettings → W → DiscoveryResult × W

/-- The probes that have the outcomes of `outcome`. -/
def answering (outcome : Outcome W) (port : String) (settings : SerialSettings) : Py W DiscoveryResult :=
  ofFun fun w => (.ok (outcome port settings w).1, (outcome port settings w).2)

/-- The outcomes at all baud rates of one port, one after the other, with the world after each. -/
def outcomes (outcome : Outcome W) (port : String) : List Nat → W → List (DiscoveryResult × W)
  | [], _ => []
  | baud :: bauds, w =>
      let probed := outcome port { port, baudrate := baud } w
      probed :: outcomes outcome port bauds probed.2

/-- The elements up to and including the first that satisfies `p`. -/
def through (p : α → Bool) : List α → List α
  | [] => []
  | a :: l => if p a then [a] else a :: through p l

/-- A success or a connection failure. -/
def Stops (result : DiscoveryResult) : Prop :=
  result.ok = true ∨ ∃ e, result.error = some e ∧ e.cls.issubclass .connectionError = true

instance : DecidablePred Stops := fun result =>
  match h : result.error with
  | none => decidable_of_iff (result.ok = true) (by simp [Stops, h])
  | some e => decidable_of_iff (result.ok = true ∨ e.cls.issubclass .connectionError = true) (by simp [Stops, h])

/-- Port by port the outcomes up to and including the first that stops the port, and the world at the end. -/
def swept (outcome : Outcome W) (bauds : List Nat) : List String → W → List DiscoveryResult × W
  | [], w => ([], w)
  | port :: ports, w =>
      let probes := through (fun probed => decide (Stops probed.1)) (outcomes outcome port bauds w)
      let later := swept outcome bauds ports ((probes.getLast?.map Prod.snd).getD w)
      (probes.map Prod.fst ++ later.1, later.2)

theorem stops_iff (result : DiscoveryResult) :
    Stops result ↔ result.ok = true ∨ isPortOpenFailure result = true := by
  cases h : result.error <;> simp [Stops, isPortOpenFailure, h]

theorem sweepPort_answering (outcome : Outcome W) (port : String) (bauds : List Nat) (w : W) :
    (sweepPort (answering outcome) port bauds).exec w =
      (let probes := through (fun probed => decide (Stops probed.1)) (outcomes outcome port bauds w)
       (.ok (probes.map Prod.fst), (probes.getLast?.map Prod.snd).getD w)) := by
  induction bauds generalizing w with
  | nil => rfl
  | cons baud bauds ih =>
      have hprobe : (answering outcome port { port, baudrate := baud }).exec w =
          (.ok (outcome port { port, baudrate := baud } w).1, (outcome port { port, baudrate := baud } w).2) := rfl
      rw [sweepPort, exec_bind_ok hprobe, outcomes, through]
      generalize outcome port { port, baudrate := baud } w = probed at hprobe
      by_cases hstop : Stops probed.1
      · rw [if_pos (decide_eq_true hstop)]
        rcases (stops_iff _).mp hstop with hok | hfailed
        · rw [if_pos hok]
          rfl
        · by_cases hok : probed.1.ok = true
          · rw [if_pos hok]
            rfl
          · rw [if_neg hok, if_pos hfailed]
            rfl
      · have hgo := hstop
        rw [stops_iff, not_or] at hgo
        rw [if_neg hgo.1, if_neg hgo.2, exec_bind_ok (ih probed.2), if_neg (by simpa using hstop)]
        simp only [exec_pure, List.map_cons]
        refine congrArg (Prod.mk _) ?_
        cases through (fun probed => decide (Stops probed.1)) (outcomes outcome port bauds probed.2) <;>
          simp [List.getLast?_cons]

theorem sweepPorts_answering (outcome : Outcome W) (bauds : List Nat) (ports : List String) (w : W) :
    (sweepPorts (answering outcome) bauds ports).exec w =
      (.ok (swept outcome bauds ports w).1, (swept outcome bauds ports w).2) := by
  induction ports generalizing w with
  | nil => rfl
  | cons port ports ih =>
      rw [sweepPorts, exec_bind_ok (sweepPort_answering ..), exec_bind_ok (ih _)]
      rfl

/-! ## What a summary says -/

/-- A row says of the probes of its port: whether one succeeded, the baud rate and the protocol of the first that
did, or else the baud rate and the error of the last, and the time that they took together. -/
structure RowOf (probes : List DiscoveryResult) (row : DiscoverySummary) : Prop where
  ok : row.ok = true ↔ ∃ r ∈ probes, r.ok = true
  hit : ∀ r, probes.find? (·.ok) = some r → row.baudrate = r.baudrate ∧ row.protocol = r.protocol
  miss : (∀ r ∈ probes, r.ok = false) → ∀ last, probes.getLast? = some last →
    row.baudrate = last.baudrate ∧ row.error = last.error
  elapsed : row.elapsedS = (probes.map (·.elapsedS)).sum

/-- The results of one port. -/
def probesOf (results : List DiscoveryResult) (port : String) : List DiscoveryResult :=
  results.filter fun r => r.port = port

/-- One row for each port in the order of first appearance, each of its own port's results. -/
structure Summarises (results : List DiscoveryResult) (rows : List DiscoverySummary) : Prop where
  ports : rows.map (·.port) = (results.map (·.port)).eraseDups
  rows : ∀ row ∈ rows, RowOf (probesOf results row.port) row

/-- The first error among the probes is the error of the last probe. -/
def FirstErrorIsLast (probes : List DiscoveryResult) : Prop :=
  probes.findSome? (·.error) = probes.getLast?.bind (·.error)

@[simp] theorem summaryOf_port (port : String) (probes : List DiscoveryResult) :
    (summaryOf port probes).port = port := by
  unfold summaryOf
  split <;> rfl

theorem summarizeDiscovery_eq (results : List DiscoveryResult) :
    summarizeDiscovery results =
      (results.map (·.port)).eraseDups.map fun port => summaryOf port (probesOf results port) := by
  rw [summarizeDiscovery, Dict.group_eq, List.map_map]
  rfl

theorem find?_none_iff (probes : List DiscoveryResult) :
    probes.find? (·.ok) = none ↔ ∀ r ∈ probes, r.ok = false := by
  simp [List.find?_eq_none]

/-- A row is right unless its port has no success and reports another error than that of the last probe. -/
theorem rowOf_summaryOf (port : String) {probes : List DiscoveryResult} (hne : probes ≠ []) :
    RowOf probes (summaryOf port probes) ↔ ((∀ r ∈ probes, r.ok = false) → FirstErrorIsLast probes) := by
  obtain ⟨last, hlast⟩ : ∃ last, probes.getLast? = some last := ⟨_, List.getLast?_eq_some_getLast hne⟩
  cases hhit : probes.find? (·.ok) with
  | some hit =>
      have hmem := List.mem_of_find?_eq_some hhit
      have hok : hit.ok = true := by simpa using List.find?_some hhit
      have hsome : ¬ ∀ r ∈ probes, r.ok = false := fun h => by simp [h hit hmem] at hok
      refine iff_of_true ?_ fun h => absurd h hsome
      unfold summaryOf
      rw [hhit]
      refine ⟨iff_of_true rfl ⟨hit, hmem, hok⟩, ?_, fun h => absurd h hsome, rfl⟩
      rintro r heq
      cases hhit.symm.trans heq
      exact ⟨rfl, rfl⟩
  | none =>
      have hnone := (find?_none_iff probes).mp hhit
      have hrow : summaryOf port probes =
          { port, ok := false, baudrate := last.baudrate, protocol := none, autoprintActive := false,
            error := probes.findSome? (·.error), elapsedS := (probes.map (·.elapsedS)).sum } := by
        unfold summaryOf
        rw [hhit, hlast]
        rfl
      rw [hrow, FirstErrorIsLast, hlast]
      constructor
      · intro h _
        exact (h.miss hnone last hlast).2
      · intro h
        refine ⟨iff_of_false Bool.false_ne_true ?_, ?_, ?_, rfl⟩
        · rintro ⟨r, hr, hok⟩
          rw [hnone r hr] at hok
          cases hok
        · intro r heq
          cases hhit.symm.trans heq
        · rintro - l hl
          cases hlast.symm.trans hl
          exact ⟨rfl, h hnone⟩

theorem mem_eraseDups_probesOf {results : List DiscoveryResult} {port : String}
    (h : port ∈ (results.map (·.port)).eraseDups) : probesOf results port ≠ [] := by
  obtain ⟨r, hr, rfl⟩ := List.mem_map.mp (List.mem_eraseDups.mp h)
  exact List.ne_nil_of_mem (List.mem_filter.mpr ⟨hr, decide_eq_true rfl⟩)

/-- A sweep returns of every port the outcomes up to the one that stops it; its summary, and that of any list of
results, is right exactly when each port without a success failed first with the error with which it failed
last. -/
theorem findDevices_summarizeDiscovery (outcome : Outcome W) (listSerialPorts : Py W (List String))
    (ports : List String) (bauds : List Nat) (w : W) (results : List DiscoveryResult) :
    ((findDevices (answering outcome) listSerialPorts (some ports) (some bauds)).exec w =
        (.ok (swept outcome bauds ports w).1, (swept outcome bauds ports w).2) ∧
      Summarises results (summarizeDiscovery results)) ↔
    ∀ port ∈ results.map (·.port), (∀ r ∈ probesOf results port, r.ok = false) →
      FirstErrorIsLast (probesOf results port) := by
  have hsweep : (findDevices (answering outcome) listSerialPorts (some ports) (some bauds)).exec w =
      (.ok (swept outcome bauds ports w).1, (swept outcome bauds ports w).2) :=
    sweepPorts_answering outcome bauds ports w
  rw [and_iff_right hsweep]
  have hports : (summarizeDiscovery results).map (·.port) = (results.map (·.port)).eraseDups := by
    rw [summarizeDiscovery_eq, List.map_map]
    simp [Function.comp_def]
  constructor
  · intro h port hport
    have hmem : port ∈ (results.map (·.port)).eraseDups := List.mem_eraseDups.mpr hport
    have hrow : summaryOf port (probesOf results port) ∈ summarizeDiscovery results := by
      rw [summarizeDiscovery_eq]
      exact List.mem_map_of_mem hmem
    have := h.rows _ hrow
    rw [summaryOf_port] at this
    exact (rowOf_summaryOf port (mem_eraseDups_probesOf hmem)).mp this
  · intro h
    refine ⟨hports, fun row hrow => ?_⟩
    rw [summarizeDiscovery_eq] at hrow
    obtain ⟨port, hport, rfl⟩ := List.mem_map.mp hrow
    rw [summaryOf_port]
    exact (rowOf_summaryOf port (mem_eraseDups_probesOf hport)).mpr (h port (List.mem_eraseDups.mp hport))

/-- A port that answers nothing at 9600 baud and is unplugged before the probe at 19200. -/
def unplugged : List DiscoveryResult :=
  [{ ok := false, port := "/dev/ttyUSB0", address := none, baudrate := some 9600, protocol := none,
     error := some (Detect.noDevice "/dev/ttyUSB0" (1 / 2) (1 / 4)), elapsedS := 1 },
   { ok := false, port := "/dev/ttyUSB0", address := none, baudrate := some 19200, protocol := none,
     error := some { cls := .connectionError, message := "could not open /dev/ttyUSB0: no such device",
                     context := { port := some "/dev/ttyUSB0" } }, elapsedS := 0 }]

/-- The row names the baud rate of the second probe with the error of the first. -/
theorem unplugged_row : ¬ Summarises unplugged (summarizeDiscovery unplugged) := by
  intro h
  have hrow := h.rows (summaryOf "/dev/ttyUSB0" unplugged) List.mem_cons_self
  have hmiss := (hrow.miss (by decide) _ rfl).2
  exact absurd (congrArg (Option.map (·.cls)) hmiss) (by decide)

end Discovery

end SartoriusLib
