import SartoriusLib.Devices.Balance
import SartoriusLib.ErrorText
import SartoriusLib.Protocol.Detect

/-!
# Opening a balance

`open_device` opens the port, builds the client and the session, and identifies the balance. The first reads on a
port that was just opened may find nothing: these transients are retried a few times before they count as a
failure. A failure after the port is open closes it.
-/

namespace SartoriusLib

open Lib Prog

/-- A transient transport error, the one that a cold port raises. -/
def Exc.transient? : Exc → Option SartoriusError
  | .sartorius e => if e.cls.issubclass .transientTransportError then some e else none
  | _ => none

/-- A balance that is being opened, with the counter of its session. -/
structure Opening (W : Type) where
  host : Host W
  recoverableErrorCount : Nat := 0
  /-- How often the balance was identified: a log that no function reads. -/
  identified : Nat := 0

namespace Factory

variable {W α : Type}

def onHost (m : Py (Host W) α) : Py (Opening W) α := zoom Opening.host (fun h o => { o with host := h }) m

def onPort (m : Py W α) : Py (Opening W) α := onHost (onWorld m)

/-! ## The retry -/

def coldOpenMaxRetries : Nat := 3

def recordRecoverableError : Py (Opening W) Unit :=
  modify fun o => { o with recoverableErrorCount := o.recoverableErrorCount + 1 }

def coldOpenError (settings : Option SerialSettings) (e : SartoriusError) : SartoriusError where
  cls := .connectionError
  message := s!"identify failed after {coldOpenMaxRetries} cold-open retries: {e.str}"
  context := { commandName := some "open_device.identify", port := settings.map (·.port),
               extra := [("cold_open_attempts", .int coldOpenMaxRetries),
                         ("last_error", .text s!"SartoriusTransientTransportError({textRepr e.message})")] }

/-- One round of the loop: a transient is counted and handed to `again`. -/
def attemptIdentify (T : Transport W) (again : SartoriusError → Py (Opening W) Unit) : Py (Opening W) Unit := do
  modify fun o => { o with identified := o.identified + 1 }
  tryCatch (onHost (discard (Balance.identify T))) fun e =>
    match e.transient? with
    | some err => do
        recordRecoverableError
        again err
    | none => throw e

/-- `_identify_with_cold_open_retry` with so many retries left. The 50 ms that it sleeps before a retry are left out,
and with them a cancellation that reaches the task there. -/
def identifyWithColdOpenRetry (T : Transport W) : Nat → Py (Opening W) Unit
  | 0 => attemptIdentify T fun err => do
      let o ← get
      throw (.sartorius (coldOpenError o.host.session.serialSettings err))
  | retries + 1 => attemptIdentify T fun _ => identifyWithColdOpenRetry T retries

/-! ## The opening -/

/-- The arguments of `open_device` after its port is resolved to a transport and its settings; `clock` is that of
the sniff. -/
structure OpenRequest where
  settings : SerialSettings
  protocol : ProtocolKind := .xbpi
  timeout : Rat := 1
  srcSbn : Int := 0x01
  dstSbn : Int := 0x09
  strict : Bool := false
  identify : Bool := true
  clock : List Rat := []
  deriving DecidableEq, Repr

def resolveProtocol (T : Transport W) (r : OpenRequest) : Py W (ProtocolKind × Option Detect.DetectionResult) :=
  if r.protocol ≠ .auto then pure (r.protocol, none)
  else do
    let detection ← Detect.detectProtocol T r.timeout (1 / 4) r.srcSbn r.dstSbn r.clock
    pure (detection.protocol, some detection)

def buildClients (protocol : ProtocolKind) (id : Nat) (timeout : Rat) :
    Except SartoriusError (Option XbpiClient × Option Sbi.SbiClient) :=
  match protocol with
  | .xbpi => .ok (some { id, defaultTimeout := timeout }, none)
  | .sbi => .ok (none, some { id, defaultTimeout := timeout })
  | .auto =>
      .error { cls := .sartoriusError, message := "open_device: unresolved ProtocolKind <ProtocolKind.AUTO: 'auto'>",
               context := { extra := [("protocol", .text protocol.value)] } }

/-- A forced opening sniffs; a detection hands over the lines that it read. -/
def primeSbiAutoprintState (T : Transport W) (client : Sbi.SbiClient) (detection : Option Detect.DetectionResult)
    (clock : List Rat) : Py (Host W) Sbi.SbiClient :=
  match detection with
  | none => Balance.onNewSbi client (Sbi.detectAutoprint T clock)
  | some detection =>
      pure (if detection.autoprintActive then
        detection.pendingLines.foldl (fun c line => c.markAutoprintActive line) client
      else client)

def primed (T : Transport W) (client : Option Sbi.SbiClient) (detection : Option Detect.DetectionResult)
    (clock : List Rat) : Py (Host W) (Option Sbi.SbiClient) :=
  match client with
  | none => pure none
  | some client => some <$> primeSbiAutoprintState T client detection clock

def autoprintRefusal : SartoriusError where
  cls := .autoprintActiveError
  message := "SBI autoprint is active; identify() replies are not reliable. " ++
    "Open with identify=False and use stream(mode='autoprint') or poll(), " ++
    "or disable autoprint on the balance before opening with identify=True."
  context := { commandName := some "identify", protocol := some "sbi", extra := [("autoprint_active", .flag true)] }

/-- A new balance on the transport of `o`. -/
def newBalance (o : Opening W) (session : Session) : Opening W :=
  { host := { world := o.host.world, session, warnings := o.host.warnings, nextId := o.host.nextId,
              retired := o.host.retired } }

/-- What comes between the opening of the port and the identification. -/
def buildBalance (T : Transport W) (r : OpenRequest) : Py (Opening W) Unit := do
  let (protocol, detection) ← onPort (resolveProtocol T r)
  let id ← onHost Balance.freshId
  let (xbpi, sbi) ← liftExcept (buildClients protocol id r.timeout)
  let sbi ← onHost (primed T sbi detection r.clock)
  modify fun o => newBalance o
    { xbpi, sbi, active := protocol, srcSbn := r.srcSbn, dstSbn := r.dstSbn, strict := r.strict,
      defaultTimeout := r.timeout, serialSettings := some r.settings }
  if r.identify ∧ (← get).host.session.sbiAutoprintActive then throw (.sartorius autoprintRefusal) else pure ()

def ensureOpen (T : OwnedTransport W) : Py (Opening W) Unit := do
  if T.isOpen (← get).host.world then pure () else onPort T.openPort

/-- `try: m except BaseException: await transport.close(); raise`. -/
def closingOnError (T : OwnedTransport W) (m : Py (Opening W) α) : Py (Opening W) α :=
  tryCatch m fun e => do
    onPort T.close
    throw e

def openDevice (T : OwnedTransport W) (r : OpenRequest) : Py (Opening W) Unit := do
  ensureOpen T
  closingOnError T do
    buildBalance T.toTransport r
    if r.identify then identifyWithColdOpenRetry T.toTransport coldOpenMaxRetries else pure ()

/-! ## The outcomes of the identifications -/

section Retry

variable {T : Transport W}

/-- The balance after so many identifications. -/
def hostAfter (T : Transport W) : Host W → Nat → Host W
  | h, 0 => h
  | h, n + 1 => hostAfter T ((Balance.identify T).exec h).2 n

/-- The outcome of the identification number `n`, from zero on. -/
def outcomeAt (T : Transport W) (h : Host W) (n : Nat) : Except Exc DeviceInfo :=
  ((Balance.identify T).exec (hostAfter T h n)).1

def Transient (outcome : Except Exc DeviceInfo) : Prop := ∃ e, outcome = .error e ∧ e.transient?.isSome = true

/-- The first outcome that is not a transient is that of the identification number `k`. -/
def Settles (T : Transport W) (h : Host W) (k : Nat) : Prop :=
  (∀ i < k, Transient (outcomeAt T h i)) ∧ ¬ Transient (outcomeAt T h k)

theorem exec_attemptIdentify (again : SartoriusError → Py (Opening W) Unit) (o : Opening W) :
    (attemptIdentify T again).exec o =
      match (Balance.identify T).exec o.host with
      | (.ok _, h) => (.ok (), { o with host := h, identified := o.identified + 1 })
      | (.error e, h) =>
          match e.transient? with
          | some err => (again err).exec
              { host := h, recoverableErrorCount := o.recoverableErrorCount + 1, identified := o.identified + 1 }
          | none => (.error e, { o with host := h, identified := o.identified + 1 }) := by
  rw [attemptIdentify, exec_bind_ok (exec_modify _ o), exec_tryCatch, onHost, exec_zoom, exec_discard]
  rcases (Balance.identify T).exec o.host with ⟨e | info, h⟩
  · dsimp only
    cases e.transient? with
    | none => rfl
    | some err => exact exec_bind_ok rfl
  · rfl

/-- The balance and its counters after a transient. -/
def retried (T : Transport W) (o : Opening W) : Opening W :=
  { host := hostAfter T o.host 1, recoverableErrorCount := o.recoverableErrorCount + 1,
    identified := o.identified + 1 }

theorem attemptIdentify_transient {o : Opening W} (h : Transient (outcomeAt T o.host 0)) :
    ∃ err, ∀ again, (attemptIdentify T again).exec o = (again err).exec (retried T o) := by
  obtain ⟨e, he, ht⟩ := h
  obtain ⟨err, herr⟩ := Option.isSome_iff_exists.mp ht
  refine ⟨err, fun again => ?_⟩
  have hrun : (Balance.identify T).exec o.host = (.error e, hostAfter T o.host 1) := Prod.ext he rfl
  rw [exec_attemptIdentify, hrun]
  simp only [herr]
  rfl

theorem attemptIdentify_settles {o : Opening W} (h : ¬ Transient (outcomeAt T o.host 0))
    (again : SartoriusError → Py (Opening W) Unit) :
    (attemptIdentify T again).exec o = ((outcomeAt T o.host 0).map fun _ => (),
      { o with host := hostAfter T o.host 1, identified := o.identified + 1 }) := by
  have hrun : (Balance.identify T).exec o.host = (outcomeAt T o.host 0, hostAfter T o.host 1) := rfl
  rw [exec_attemptIdentify, hrun]
  cases hout : outcomeAt T o.host 0 with
  | ok info => rfl
  | error e =>
      cases ht : e.transient? with
      | some err => exact absurd ⟨e, hout, by rw [ht]; rfl⟩ h
      | none => simp only [ht, Except.map]

/-- A loop with enough retries ends with the first outcome that is not a transient. -/
theorem retry_settles {n k : Nat} {o : Opening W} (hk : k ≤ n) (h : Settles T o.host k) :
    (identifyWithColdOpenRetry T n).exec o =
      ((outcomeAt T o.host k).map fun _ => (),
        { host := hostAfter T o.host (k + 1), recoverableErrorCount := o.recoverableErrorCount + k,
          identified := o.identified + k + 1 }) := by
  induction k generalizing n o with
  | zero =>
      cases n with
      | zero => exact attemptIdentify_settles h.2 _
      | succ n => exact attemptIdentify_settles h.2 _
  | succ k ih =>
      cases n with
      | zero => omega
      | succ n =>
          obtain ⟨err, hstep⟩ := attemptIdentify_transient (h.1 0 (Nat.succ_pos k))
          have hrest : Settles T (retried T o).host k :=
            ⟨fun i hi => h.1 (i + 1) (Nat.succ_lt_succ hi), h.2⟩
          rw [identifyWithColdOpenRetry, hstep, ih (Nat.le_of_succ_le_succ hk) hrest]
          refine Prod.ext rfl ?_
          simp only [retried, Opening.mk.injEq]
          exact ⟨rfl, by omega, by omega⟩

/-- A loop whose outcomes are all transients counts every one of them. -/
theorem retry_exhausted {n : Nat} {o : Opening W} (h : ∀ i ≤ n, Transient (outcomeAt T o.host i)) :
    ∃ e, (identifyWithColdOpenRetry T n).exec o =
      (.error (.sartorius (coldOpenError (hostAfter T o.host (n + 1)).session.serialSettings e)),
        { host := hostAfter T o.host (n + 1), recoverableErrorCount := o.recoverableErrorCount + n + 1,
          identified := o.identified + n + 1 }) := by
  induction n generalizing o with
  | zero =>
      obtain ⟨err, hstep⟩ := attemptIdentify_transient (h 0 le_rfl)
      exact ⟨err, hstep _⟩
  | succ n ih =>
      obtain ⟨err, hstep⟩ := attemptIdentify_transient (h 0 (Nat.zero_le _))
      have hrest : ∀ i ≤ n, Transient (outcomeAt T (retried T o).host i) :=
        fun i hi => h (i + 1) (Nat.succ_le_succ hi)
      obtain ⟨last, hlast⟩ := ih hrest
      refine ⟨last, ?_⟩
      rw [identifyWithColdOpenRetry, hstep, hlast]
      refine Prod.ext rfl ?_
      simp only [retried, Opening.mk.injEq]
      exact ⟨rfl, by omega, by omega⟩

end Retry

/-! ## Every way out of an opening -/

section Ways

variable {T : OwnedTransport W} {r : OpenRequest}

/-- A transport whose close never fails, and which an opening that fails leaves closed. -/
structure Reliable (T : OwnedTransport W) : Prop where
  closes : ∀ w, (T.close.exec w).1 = .ok ()
  closed : ∀ w, T.isOpen (T.close.exec w).2 = false
  failsClosed : ∀ w e, T.isOpen w = false → (T.openPort.exec w).1 = .error e →
    T.isOpen (T.openPort.exec w).2 = false

theorem serialPort_reliable : Reliable serialPort where
  closes _ := rfl
  closed _ := rfl
  failsClosed := by
    intro s e hopen herr
    change s.isOpen = false at hopen
    change (SerialTransport.openPort.exec s).1 = .error e at herr
    change ((SerialTransport.openPort.exec s).2).isOpen = false
    rw [SerialTransport.openPort, exec_bind_ok (exec_get s), if_neg (by simp [hopen]), exec_ofFun] at herr ⊢
    cases h : s.opens.headD .ok <;> simp_all

/-- What comes before the identification. -/
def reach (T : OwnedTransport W) (r : OpenRequest) : Py (Opening W) Unit := do
  ensureOpen T
  buildBalance T.toTransport r

/-- What the documentation promises of an opening: identify runs until the first outcome that is not a transient, at
most four times; the counter holds the transients that were retried; a failure closes the port. -/
structure ColdOpen (T : OwnedTransport W) (r : OpenRequest) (o : Opening W) : Prop where
  closed : ∀ e o', (openDevice T r).exec o = (.error e, o') → T.isOpen o'.host.world = false
  settled : ∀ o₁ k, (reach T r).exec o = (.ok (), o₁) → k ≤ 3 → Settles T.toTransport o₁.host k →
    ∃ o', (openDevice T r).exec o = ((outcomeAt T.toTransport o₁.host k).map fun _ => (), o') ∧
      o'.identified = k + 1 ∧ o'.recoverableErrorCount = k
  exhausted : ∀ o₁, (reach T r).exec o = (.ok (), o₁) → (∀ i < 4, Transient (outcomeAt T.toTransport o₁.host i)) →
    ∃ e o', (openDevice T r).exec o = (.error (.sartorius e), o') ∧ e.cls = .connectionError ∧
      o'.identified = 4 ∧ o'.recoverableErrorCount = 3

/-- The opening after its port is closed. -/
def portClosed (T : OwnedTransport W) (o : Opening W) : Opening W :=
  { o with host := { o.host with world := (T.close.exec o.host.world).2 } }

theorem exec_closingOnError (hT : Reliable T) (m : Py (Opening W) α) (o : Opening W) :
    (closingOnError T m).exec o = match m.exec o with
      | (.ok a, o') => (.ok a, o')
      | (.error e, o') => (.error e, portClosed T o') := by
  rw [closingOnError, exec_tryCatch]
  rcases m.exec o with ⟨e | a, o'⟩
  · have hclose : (onPort T.close).exec o' = (.ok (), portClosed T o') := Prod.ext (hT.closes _) rfl
    exact exec_bind_ok hclose
  · rfl

/-- A new balance has counted nothing. -/
theorem buildBalance_returned {T : Transport W} {o o₁ : Opening W}
    (h : (buildBalance T r).exec o = (.ok (), o₁)) : o₁.recoverableErrorCount = 0 ∧ o₁.identified = 0 := by
  obtain ⟨⟨protocol, detection⟩, o₂, -, h⟩ := exec_bind_eq_ok.mp h
  obtain ⟨id, o₃, -, h⟩ := exec_bind_eq_ok.mp h
  obtain ⟨⟨xbpi, sbi⟩, o₄, -, h⟩ := exec_bind_eq_ok.mp h
  obtain ⟨sbi', o₅, -, h⟩ := exec_bind_eq_ok.mp h
  rw [exec_bind_ok (exec_modify _ o₅), exec_bind_ok (exec_get _)] at h
  split at h
  · cases h
  · cases h
    exact ⟨rfl, rfl⟩

/-- An opening that reaches the identification ends like the loop does, with the port closed if it raises. -/
theorem openDevice_reached (hT : Reliable T) (hidentify : r.identify = true) {o o₁ : Opening W}
    (h : (reach T r).exec o = (.ok (), o₁)) {result : Except Exc Unit} {o' : Opening W}
    (hrun : (identifyWithColdOpenRetry T.toTransport 3).exec o₁ = (result, o')) :
    ∃ o'', (openDevice T r).exec o = (result, o'') ∧ o''.identified = o'.identified ∧
      o''.recoverableErrorCount = o'.recoverableErrorCount := by
  obtain ⟨u, o₀, hopen, hbuild⟩ := exec_bind_eq_ok.mp h
  rw [openDevice, exec_bind_ok hopen, exec_closingOnError hT, exec_bind_ok hbuild, if_pos hidentify]
  rw [coldOpenMaxRetries, hrun]
  rcases result with e | u
  · exact ⟨_, rfl, rfl, rfl⟩
  · exact ⟨_, rfl, rfl, rfl⟩

/-- Whatever an opening raises, its port is closed. -/
theorem openDevice_closes (hT : Reliable T) {o o' : Opening W} {e : Exc}
    (h : (openDevice T r).exec o = (.error e, o')) : T.isOpen o'.host.world = false := by
  rw [openDevice, exec_bind] at h
  rcases hopen : (ensureOpen T).exec o with ⟨e₀ | u, o₀⟩
  · rw [hopen] at h
    cases h
    rw [ensureOpen, exec_bind_ok (exec_get o)] at hopen
    cases hw : T.isOpen o.host.world with
    | true =>
        rw [hw] at hopen
        cases hopen
    | false =>
        rw [hw] at hopen
        have hfail := hT.failsClosed o.host.world e hw (congrArg Prod.fst hopen)
        have hworld : (T.openPort.exec o.host.world).2 = o'.host.world :=
          congrArg (·.host.world) (congrArg Prod.snd hopen)
        rwa [hworld] at hfail
  · rw [hopen] at h
    dsimp only at h
    rw [exec_closingOnError hT] at h
    split at h
    · cases h
    · cases h
      exact hT.closed _

/-- An opening does what the documentation promises unless all four outcomes of identify are transients: the fourth
is counted too, though nothing retries it. -/
theorem openDevice_coldOpen_iff (hT : Reliable T) (hidentify : r.identify = true) (o : Opening W) :
    ColdOpen T r o ↔
      ¬ ∃ o₁, (reach T r).exec o = (.ok (), o₁) ∧ ∀ i < 4, Transient (outcomeAt T.toTransport o₁.host i) := by
  have hnew : ∀ o₁, (reach T r).exec o = (.ok (), o₁) → o₁.recoverableErrorCount = 0 ∧ o₁.identified = 0 := by
    intro o₁ h
    obtain ⟨u, o₀, -, hbuild⟩ := exec_bind_eq_ok.mp h
    exact buildBalance_returned hbuild
  constructor
  · rintro h ⟨o₁, hreach, hall⟩
    obtain ⟨err, hloop⟩ := retry_exhausted fun i (hi : i ≤ 3) => hall i (Nat.lt_succ_of_le hi)
    obtain ⟨o'', hrun, -, hcount⟩ := openDevice_reached hT hidentify hreach hloop
    obtain ⟨e, o', hrun', -, -, hthree⟩ := h.exhausted o₁ hreach hall
    cases hrun.symm.trans hrun'
    rw [hthree, (hnew o₁ hreach).1] at hcount
    cases hcount
  · intro hnot
    refine ⟨fun e o' h => openDevice_closes hT h, ?_, fun o₁ hreach hall => absurd ⟨o₁, hreach, hall⟩ hnot⟩
    intro o₁ k hreach hk hsettles
    obtain ⟨o'', hrun, hidentified, hcount⟩ :=
      openDevice_reached hT hidentify hreach (retry_settles hk hsettles)
    rw [(hnew o₁ hreach).2, Nat.zero_add] at hidentified
    rw [(hnew o₁ hreach).1, Nat.zero_add] at hcount
    exact ⟨o'', hrun, hidentified, hcount⟩

end Ways

/-- A serial port that cannot be opened. -/
def missingPort : Opening SerialState :=
  { host := { world := { settings := { port := "/dev/ttyUSB0" }, isOpen := false, opens := [.closed "no such device"] },
              session := { active := .xbpi } } }

theorem openDevice_coldOpen_missingPort :
    ColdOpen serialPort { settings := { port := "/dev/ttyUSB0" } } missingPort := by
  refine (openDevice_coldOpen_iff serialPort_reliable rfl missingPort).mpr ?_
  rintro ⟨o₁, hreach, -⟩
  cases hreach

/-- A serial port on which nothing ever arrives. -/
def silentPort : Opening SerialState :=
  { host := { world := { settings := { port := "/dev/ttyUSB0" }, isOpen := false },
              session := { active := .xbpi } } }

/-- The new balance on that port. -/
def silentBalance : Opening SerialState :=
  { host := { world := { settings := { port := "/dev/ttyUSB0" } },
              session := { xbpi := some { id := 0 }, active := .xbpi,
                           serialSettings := some { port := "/dev/ttyUSB0" } }, nextId := 1 } }

theorem silentPort_transient {i : Nat} (h : i < 4) :
    Transient (outcomeAt serialPort.toTransport silentBalance.host i) := by
  match i, h with
  | 0, _ => exact ⟨_, rfl, rfl⟩
  | 1, _ => exact ⟨_, rfl, rfl⟩
  | 2, _ => exact ⟨_, rfl, rfl⟩
  | 3, _ => exact ⟨_, rfl, rfl⟩

/-- The opening of the silent port counts four recoverable errors for three retries. -/
theorem silentPort_counts_four : ∃ e o', (openDevice serialPort { settings := { port := "/dev/ttyUSB0" } }).exec
    silentPort = (.error (.sartorius e), o') ∧ e.cls = .connectionError ∧ o'.recoverableErrorCount = 4 := by
  have hreach : (reach serialPort { settings := { port := "/dev/ttyUSB0" } }).exec silentPort =
      (.ok (), silentBalance) := rfl
  obtain ⟨e, hloop⟩ := retry_exhausted fun i (hi : i ≤ 3) => silentPort_transient (Nat.lt_succ_of_le hi)
  obtain ⟨o', hrun, -, hcount⟩ := openDevice_reached serialPort_reliable rfl hreach hloop
  exact ⟨_, o', hrun, rfl, hcount⟩

end Factory

end SartoriusLib
