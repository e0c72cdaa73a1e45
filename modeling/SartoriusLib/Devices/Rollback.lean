import SartoriusLib.Devices.Switching

/-!
# The framing after a failed switch

A rollback reopens the port at the settings that the session has recorded. Whether these are the settings of
the port depends on how the balance was built.
-/

namespace SartoriusLib

open Lib Prog

/-- Baud rate, parity and stop bits. -/
def SerialSettings.framing (s : SerialSettings) : Nat × Parity × StopBits := (s.baudrate, s.parity, s.stopbits)

@[simp] theorem SerialSettings.framing_override_some (s settings : SerialSettings) :
    (s.override (some settings.baudrate) (some settings.parity) (some settings.stopbits)).framing =
      settings.framing := rfl

theorem SerialSettings.framing_override {s s' : SerialSettings} (h : s.framing = s'.framing)
    (baudrate : Option Nat) (parity : Option Parity) (stopbits : Option StopBits) :
    (s.override baudrate parity stopbits).framing = (s'.override baudrate parity stopbits).framing := by
  simp only [framing, override, Prod.mk.injEq] at h ⊢
  exact ⟨by rw [h.1], by rw [h.2.1], by rw [h.2.2]⟩

/-! ## How a balance is built -/

/-- The path of a port, or a pre-built transport with the settings it has. -/
inductive PortSource where
  | path (port : String)
  | transport (settings : SerialSettings)
  deriving DecidableEq, Repr

/-- The settings of the transport, and those that the session records. -/
abbrev PortSettings : Type := SerialSettings × SerialSettings

/-- `_resolve_transport` of `open_device`. -/
def resolveTransport (port : PortSource) (serialSettings : Option SerialSettings) :
    Except SartoriusError PortSettings :=
  match port with
  | .path port =>
      let settings := serialSettings.getD { port }
      if settings.port ≠ port then
        .error { cls := .validationError,
                 message := s!"open_device: port={textRepr port} does not match " ++
                   s!"serial_settings.port={textRepr settings.port}",
                 context := { extra := [("port", .text port), ("settings_port", .text settings.port)] } }
      else .ok (settings, settings)
  -- the settings of a pre-built transport are not known: a placeholder stands for them
  | .transport settings => .ok (settings, serialSettings.getD { port := settings.port })

/-- A port of the manager: the settings that its transport has now, and the protocol of its balances. -/
structure PortEntry where
  settings : SerialSettings
  protocol : Option ProtocolKind := none
  deriving DecidableEq, Repr

structure SartoriusManager where
  devices : List String := []
  ports : Dict String PortEntry := []
  closed : Bool := false
  deriving DecidableEq, Repr

namespace SartoriusManager

/-- `_open_balance_on_port`, up to what the port answers. -/
def openBalanceOnPort (entry : PortEntry) (protocol : ProtocolKind) (serialSettings : Option SerialSettings) :
    Except SartoriusError PortSettings :=
  if protocol = .auto then
    .error { cls := .validationError,
             message := "manager.add: ProtocolKind.AUTO is not supported here; " ++
               "open the balance with open_device(..., protocol=AUTO) and " ++
               "register the resulting Balance via manager.add(name, balance)",
             context := { extra := [("protocol", .text "auto")] } }
  else match entry.protocol with
  | some existing =>
      if existing ≠ protocol then
        .error { cls := .validationError,
                 message := "manager.add: cannot mix xBPI and SBI sessions on the same port",
                 context := { extra := [("existing_protocol", .text existing.value),
                                        ("requested_protocol", .text protocol.value)] } }
      else .ok (entry.settings, serialSettings.getD { port := entry.settings.port })
  | none => .ok (entry.settings, serialSettings.getD { port := entry.settings.port })

/-- `_resolve_source`: `portKey` is the canonical path of the port, or the identity of the transport. -/
def resolveSource (m : SartoriusManager) (portKey : String) (source : PortSource) (protocol : ProtocolKind)
    (serialSettings : Option SerialSettings) : Except SartoriusError PortSettings :=
  match source with
  | .path port =>
      openBalanceOnPort ((m.ports.get? portKey).getD { settings := serialSettings.getD { port } }) protocol
        serialSettings
  | .transport settings => openBalanceOnPort ((m.ports.get? portKey).getD { settings }) protocol none

def add (m : SartoriusManager) (name portKey : String) (source : PortSource) (protocol : ProtocolKind)
    (serialSettings : Option SerialSettings) : Except SartoriusError PortSettings :=
  if m.closed then
    .error { cls := .connectionError, message := "manager is closed",
             context := { extra := [("closed", .flag true)] } }
  else if name ∈ m.devices then
    .error { cls := .validationError, message := s!"manager: name {textRepr name} already in use",
             context := { extra := [("name", .text name)] } }
  else match source, serialSettings with
  | .transport _, some _ =>
      .error { cls := .validationError,
               message := "manager.add(serial_settings=...) only applies to string port " ++
                 "sources; pre-built Transport / Balance carry their own settings",
               context := { extra := [("name", .text name)] } }
  | _, _ => resolveSource m portKey source protocol serialSettings

end SartoriusManager

/-- A call that builds a balance. -/
inductive Way where
  | openDevice (port : PortSource) (serialSettings : Option SerialSettings)
  | add (m : SartoriusManager) (name portKey : String) (source : PortSource) (protocol : ProtocolKind)
      (serialSettings : Option SerialSettings)

namespace Way

def settings : Way → Except SartoriusError PortSettings
  | openDevice port serialSettings => resolveTransport port serialSettings
  | add m name portKey source protocol serialSettings => m.add name portKey source protocol serialSettings

/-- The framing that a session records when it is told none: 9600-8-O-1. -/
def placeholder : Nat × Parity × StopBits := (9600, .odd, .one)

/-- The arguments give the framing of the port: its path opens it at the settings that are recorded, and a port
that is open already has the framing of `serial_settings` or else the default one. -/
def Tracks : Way → Prop
  | openDevice (.path _) _ => True
  | openDevice (.transport settings) serialSettings =>
      (serialSettings.map (·.framing)).getD placeholder = settings.framing
  | add m _ portKey (.path _) _ serialSettings =>
      ∀ entry, m.ports.get? portKey = some entry →
        (serialSettings.map (·.framing)).getD placeholder = entry.settings.framing
  | add m _ portKey (.transport settings) _ _ =>
      placeholder = ((m.ports.get? portKey).map (·.settings.framing)).getD settings.framing

end Way

theorem framing_getD (serialSettings : Option SerialSettings) (port : String) :
    (serialSettings.getD { port }).framing = (serialSettings.map (·.framing)).getD Way.placeholder := by
  cases serialSettings <;> rfl

theorem openBalanceOnPort_ok {entry : PortEntry} {protocol : ProtocolKind} {s : Option SerialSettings}
    {recorded : PortSettings} (h : SartoriusManager.openBalanceOnPort entry protocol s = .ok recorded) :
    recorded = (entry.settings, s.getD { port := entry.settings.port }) := by
  unfold SartoriusManager.openBalanceOnPort at h
  split at h
  · cases h
  split at h
  · split at h
    · cases h
    · exact (Except.ok.inj h).symm
  · exact (Except.ok.inj h).symm

theorem resolveSource_of_add {m : SartoriusManager} {name portKey : String} {source : PortSource}
    {protocol : ProtocolKind} {s : Option SerialSettings} {recorded : PortSettings}
    (h : m.add name portKey source protocol s = .ok recorded) :
    m.resolveSource portKey source protocol s = .ok recorded := by
  unfold SartoriusManager.add at h
  split at h
  · cases h
  split at h
  · cases h
  split at h
  · cases h
  · exact h

/-- The recorded framing is that of the transport exactly when the arguments give it. -/
theorem Way.tracks_iff {way : Way} {recorded : PortSettings} (h : way.settings = .ok recorded) :
    recorded.2.framing = recorded.1.framing ↔ way.Tracks := by
  cases way with
  | openDevice port s =>
      cases port with
      | path port =>
          simp only [settings, resolveTransport] at h
          split at h
          · cases h
          · cases h
            exact iff_of_true rfl trivial
      | transport settings =>
          cases h
          simp only [Tracks, framing_getD]
  | add m name portKey source protocol s =>
      have h := resolveSource_of_add h
      cases source with
      | path port =>
          have h := openBalanceOnPort_ok h
          subst h
          cases hentry : m.ports.get? portKey with
          | none =>
              simp only [Tracks, hentry]
              exact iff_of_true (by cases s <;> rfl) (by simp)
          | some entry => simp [Tracks, hentry, framing_getD]
      | transport settings =>
          have h := openBalanceOnPort_ok h
          subst h
          cases hentry : m.ports.get? portKey <;> simp only [Tracks, hentry] <;> exact Iff.rfl

/-! ## The framing of the port -/

namespace SerialTransport

/-- The settings and the outcomes of the openings to come. -/
def Tuned (settings : SerialSettings) (opens : List PortOutcome) (s : SerialState) : Prop :=
  s.settings = settings ∧ s.opens = opens

variable {settings : SerialSettings} {opens : List PortOutcome}

theorem requirePort_tuned : Keeps (Tuned settings opens) requirePort :=
  Keeps.get.bind fun _ => .ite (fun _ => .pure _) fun _ => Keeps.raise _ _ _

theorem readWith_tuned (enough : Bytes → Bool) (take : Bytes → Nat) (onTimeout : SerialState → Bytes → Exc) :
    Keeps (Tuned settings opens) (readWith enough take onTimeout) := by
  refine requirePort_tuned.bind fun _ s hs => ?_
  rw [exec_ofFun]
  dsimp only
  split <;> exact hs

theorem write_tuned (data : Bytes) (timeout : Rat) : Keeps (Tuned settings opens) (write data timeout) := by
  refine requirePort_tuned.bind fun _ s hs => ?_
  rw [exec_ofFun]
  dsimp only
  split <;> exact hs

/-- Only a reopening changes the settings. -/
theorem keeps_tuned (settings : SerialSettings) (opens : List PortOutcome) (p : ProtocolKind) :
    serialTransport.Keeps (Tuned settings opens) p where
  write _ := write_tuned _
  readExact _ _ :=
    .ite (fun _ => requirePort_tuned.bind fun _ => .pure _) fun _ => readWith_tuned _ _ _
  readUntil _ _ := readWith_tuned _ _ _
  drainInput := .modify fun _ hs => hs

end SerialTransport

/-- The opening of a port fails with an error of the library. -/
def PortOutcome.fails : PortOutcome → Bool
  | .closed _ | .fault _ => true
  | .ok | .expire | .cancel => false

/-- A reopening takes the new settings, however the opening ends. -/
theorem SerialTransport.exec_reopen (baudrate : Option Nat) (parity : Option Parity) (stopbits : Option StopBits)
    (s : SerialState) :
    ∃ result s', (reopen baudrate parity stopbits).exec s = (result, s') ∧
      Tuned (s.settings.override baudrate parity stopbits) s.opens.tail s' ∧
      ((s.opens.headD .ok).fails = true → ∃ e, result = .error e ∧ e.isException = true) ∧
      ((s.opens.headD .ok).fails = false → ∀ e, result = .error e → e.isException = false) := by
  have hrun : (reopen baudrate parity stopbits).exec s =
      openPort.exec { s with isOpen := false, pushback := [],
                             settings := s.settings.override baudrate parity stopbits } := rfl
  rw [hrun, openPort, exec_bind_ok (exec_get _), if_neg (by simp), exec_ofFun]
  cases hopen : s.opens.headD .ok <;>
    refine ⟨_, _, rfl, ⟨rfl, rfl⟩, ?_, ?_⟩ <;> simp [PortOutcome.fails, Exc.isException]

namespace Balance

variable {r : SwitchRequest} {h h' h₁ : Host SerialState}

/-- A call that fails and leaves the session operational leaves the port at the framing it had. -/
def RestoresFraming (r : SwitchRequest) (h : Host SerialState) : Prop :=
  ∀ e h', (configureProtocol serialTransport r).exec h = (.error e, h') →
    h'.session.state = .operational → h'.world.settings.framing = h.world.settings.framing

/-- The settings of the request at the port of `h`. -/
abbrev requested (r : SwitchRequest) (h : Host SerialState) : SerialSettings :=
  h.world.settings.override r.baudrate r.parity r.stopbits

/-- The framing that the session has recorded is that of the port. -/
def TracksFraming (h : Host SerialState) : Prop :=
  ∀ settings, h.session.serialSettings = some settings → settings.framing = h.world.settings.framing

/-- Where a failure is rolled back, the recorded framing is that of the port. Where it is not, the request asks
for the framing that the port has. -/
structure KeepsFraming (r : SwitchRequest) (h : Host SerialState) : Prop where
  rolledBack : Switches r h →
    ∀ e h₁, (installClients serialTransport r h.session).exec h = (.error e, h₁) → e.isException = true →
      (h.world.opens.tail.headD .ok).fails = false → TracksFraming h
  cancelled : Switches r h →
    ∀ e h₁, (installClients serialTransport r h.session).exec h = (.error e, h₁) → e.isException = false →
      (requested r h).framing = h.world.settings.framing
  notIdentified : Switches r h →
    ∀ h₁, (installClients serialTransport r h.session).exec h = (.ok (), h₁) →
      ∀ e h₂, (identify serialTransport).exec h₁ = (.error e, h₂) →
        (requested r h).framing = h.world.settings.framing

section Switch

variable {settings : SerialSettings} {opens : List PortOutcome}

theorem exec_onWorld {α : Type} {m : Py SerialState α} {result : Except Exc α} {w : SerialState}
    (hm : m.exec h.world = (result, w)) : (onWorld m).exec h = (result, { h with world := w }) := by
  simp [onWorld, hm]

theorem onWorld_tuned {α : Type} {m : Py SerialState α} (hm : Keeps (SerialTransport.Tuned settings opens) m) :
    Keeps (fun h => SerialTransport.Tuned settings opens h.world) (onWorld m) :=
  fun h hh => hm h.world hh

theorem onNewSbi_tuned {α : Type} {c : Sbi.SbiClient} {m : Py (Sbi.SbiLink SerialState) α}
    (hm : Keeps (Sbi.AtClient c.id (SerialTransport.Tuned settings opens)) m) :
    Keeps (fun h => SerialTransport.Tuned settings opens h.world) (onNewSbi c m) :=
  fun h hh => (hm { client := c, world := h.world } ⟨rfl, hh⟩).2

/-- The new clients are sniffed and verified at the settings of the reopening. -/
theorem newClients_tuned (settings : SerialSettings) (opens : List PortOutcome) (target : ProtocolKind)
    (srcSbn dstSbn : Int) (timeout : Rat) (clock : List Rat) :
    Keeps (fun h => SerialTransport.Tuned settings opens h.world)
      (newClients serialTransport target srcSbn dstSbn timeout clock) := by
  have hid : Keeps (fun h => SerialTransport.Tuned settings opens h.world) (freshId : Py (Host SerialState) Nat) :=
    Keeps.get.bind fun _ => Keeps.bind (.modify fun _ hs => hs) fun _ => .pure _
  have hport (p : ProtocolKind) : serialTransport.Keeps (SerialTransport.Tuned settings opens) p :=
    SerialTransport.keeps_tuned settings opens p
  have hsniff (i : Nat) : Keeps (Sbi.AtClient i (SerialTransport.Tuned settings opens))
      (Sbi.detectAutoprint serialTransport clock) :=
    (Sbi.raiseIfDisposed_keeps _ _).bind fun _ =>
      (Sbi.sniffLines_keeps (hport .sbi) _ _).bind fun _ => Keeps.get.bind fun _ => .pure _
  have htype : Unconfirmed .sbi Sbi.TOKEN_TYPE := .token (by decide)
  refine hid.bind fun id => .ite (fun _ => ?_) fun _ => ?_
  · refine Keeps.bind (liftExc_bind_keeps fun request hrequest => ?_) fun _ => .pure _
    have hframe : Unconfirmed .xbpi request := frameOf_unconfirmed (by decide) hrequest
    exact (onWorld_tuned (Xbpi.executeLocked_keeps (hport _) hframe _ _ _ _)).bind fun _ => .pure _
  · refine (onNewSbi_tuned (hsniff _)).bind fun client => .ite (fun _ => .pure _) fun _ => ?_
    exact (onNewSbi_tuned (Sbi.execute_keeps (hport .sbi) htype _ _ _ _)).bind fun _ => .pure _

/-- However far an installation comes, the port is at the settings of the request. -/
theorem installClients_tuned (r : SwitchRequest) (old : Session) (h : Host SerialState) :
    SerialTransport.Tuned (requested r h) h.world.opens.tail
      ((installClients serialTransport r old).exec h).2.world := by
  obtain ⟨result, w, hreopen, htuned, -⟩ :=
    SerialTransport.exec_reopen r.baudrate r.parity r.stopbits (SerialTransport.drainInput.exec h.world).2
  have hdrain : (onWorld serialTransport.drainInput).exec h =
      (.ok (), { h with world := (SerialTransport.drainInput.exec h.world).2 }) := rfl
  have hport : (onWorld (serialTransport.reopen r.baudrate r.parity r.stopbits)).exec
      { h with world := (SerialTransport.drainInput.exec h.world).2 } = (result, { h with world := w }) :=
    exec_onWorld hreopen
  rw [installClients, exec_bind_ok hdrain]
  cases result with
  | error e => rw [exec_bind_error hport]; exact htuned
  | ok u =>
      rw [exec_bind_ok hport]
      have hnew := newClients_tuned (requested r h) h.world.opens.tail r.target old.srcSbn old.dstSbn
        (r.timeout.getD old.defaultTimeout) r.clock
      refine (hnew.bind fun clients => Keeps.get.bind fun s => ?_) { h with world := w } htuned
      exact (Keeps.liftExcept _).bind fun session =>
        Keeps.bind (.modify fun _ hs => hs) fun _ => .modify fun _ hs => hs

end Switch

/-- A rollback leaves the port at the recorded framing, and breaks the session when the port does not open. -/
theorem rollback_framing (settings : SerialSettings) (target : ProtocolKind) (h : Host SerialState) :
    ∃ result h', (rollbackConfigureProtocol serialTransport (some settings) target).exec h = (result, h') ∧
      h'.world.settings.framing = settings.framing ∧
      h'.session.state = if (h.world.opens.headD .ok).fails then .broken else h.session.state := by
  obtain ⟨result, w, hreopen, htuned, hfails, hopens⟩ :=
    SerialTransport.exec_reopen (some settings.baudrate) (some settings.parity) (some settings.stopbits) h.world
  have hframing : w.settings.framing = settings.framing := by rw [htuned.1]; rfl
  have hport : (onWorld (serialTransport.reopen (some settings.baudrate) (some settings.parity)
      (some settings.stopbits))).exec h = (result, { h with world := w }) :=
    exec_onWorld hreopen
  rw [rollbackConfigureProtocol, exec_exceptException, hport]
  cases hfail : (h.world.opens.headD .ok).fails with
  | true =>
      obtain ⟨e, rfl, he⟩ := hfails hfail
      simp only [he, if_true]
      exact ⟨_, _, rfl, hframing, rfl⟩
  | false =>
      cases result with
      | ok u => exact ⟨_, _, rfl, hframing, rfl⟩
      | error e =>
          simp only [hopens hfail e rfl, Bool.false_eq_true, if_false]
          exact ⟨_, _, rfl, hframing, rfl⟩

/-- An identification leaves the state of the session and the settings of the port. -/
theorem identify_tuned {result : Except Exc DeviceInfo} (hrun : (identify serialTransport).exec h = (result, h')) :
    h'.session.state = h.session.state ∧ h'.world.settings = h.world.settings := by
  have hkeeps := identify_keeps (SerialTransport.keeps_tuned h.world.settings h.world.opens
    h.session.active) h ⟨rfl, rfl, rfl, rfl⟩
  rw [hrun] at hkeeps
  obtain ⟨hframe, -, hsettings, -⟩ := hkeeps
  exact ⟨congrArg Session.Frame.state hframe, hsettings⟩

/-! ## What a failed switch leaves -/

/-- A cancelled switch is not rolled back. -/
theorem switchProtocol_cancelled {e : Exc} (hs : Switches r h)
    (hinstall : (installClients serialTransport r h.session).exec h = (.error e, h₁))
    (he : e.isException = false) :
    (configureProtocol serialTransport r).exec h = (.error e, h₁) ∧ h₁.session.state = .operational ∧
      h₁.world.settings = requested r h := by
  have hswitch : (switchProtocol serialTransport r h.session).exec h = (.error e, h₁) := by
    rw [switchProtocol, exec_exceptException, hinstall]
    simp [he]
  have hbefore : Before h h₁ := (install_triple serialTransport r h.session h).error ⟨rfl, rfl⟩ hinstall
  have htuned := installClients_tuned r h.session h
  rw [hinstall] at htuned
  refine ⟨?_, ?_, htuned.1⟩
  · rw [configureProtocol_switches hs, exec_bind_error hswitch]
  · rw [hbefore.1, hs.state]

/-- A switch that fails with an error ends where its rollback ends. -/
theorem switchProtocol_rolledBack {e : Exc} (hs : Switches r h)
    (hinstall : (installClients serialTransport r h.session).exec h = (.error e, h₁))
    (he : e.isException = true) :
    ∃ e', (configureProtocol serialTransport r).exec h =
      (.error e', ((rollbackConfigureProtocol serialTransport h.session.serialSettings r.target).exec h₁).2) := by
  rcases hroll : (rollbackConfigureProtocol serialTransport h.session.serialSettings r.target).exec h₁ with
    ⟨e' | u, h₂⟩
  · refine ⟨e', ?_⟩
    rw [configureProtocol_switches hs, switchProtocol, exec_bind, exec_exceptException, hinstall]
    simp [he, exec_bind, hroll]
  · refine ⟨e, ?_⟩
    rw [configureProtocol_switches hs, switchProtocol, exec_bind, exec_exceptException, hinstall]
    simp [he, exec_bind, hroll]

/-- Where the session has recorded settings, the rollback leaves the port at their framing; the session is
operational behind it unless the port did not open. -/
theorem switchProtocol_restored {e : Exc} {settings : SerialSettings} (hs : Switches r h)
    (hinstall : (installClients serialTransport r h.session).exec h = (.error e, h₁))
    (he : e.isException = true) (hsettings : h.session.serialSettings = some settings) :
    ∃ e' h₂, (configureProtocol serialTransport r).exec h = (.error e', h₂) ∧
      h₂.world.settings.framing = settings.framing ∧
      (h₂.session.state = .operational ↔ (h.world.opens.tail.headD .ok).fails = false) := by
  have hbefore : Before h h₁ := (install_triple serialTransport r h.session h).error ⟨rfl, rfl⟩ hinstall
  have htuned := installClients_tuned r h.session h
  rw [hinstall] at htuned
  obtain ⟨e', hcall⟩ := switchProtocol_rolledBack hs hinstall he
  obtain ⟨result, h₂, hroll, hframing, hstate⟩ := rollback_framing settings r.target h₁
  rw [hsettings, hroll] at hcall
  refine ⟨e', h₂, hcall, hframing, ?_⟩
  rw [hstate, htuned.2, hbefore.1, hs.state]
  cases (h.world.opens.tail.headD .ok).fails <;> simp

/-- Behind an installation the port stays at the settings of the request. -/
theorem switchProtocol_identified (hs : Switches r h)
    (hinstall : (installClients serialTransport r h.session).exec h = (.ok (), h₁)) :
    ∃ result h₂, (identify serialTransport).exec h₁ = (result, h₂) ∧
      (configureProtocol serialTransport r).exec h = (result, h₂) ∧ h₂.session.state = .operational ∧
      h₂.world.settings = requested r h := by
  have hswitch : (switchProtocol serialTransport r h.session).exec h = (.ok (), h₁) := by
    rw [switchProtocol, exec_exceptException, hinstall]
  have htuned := installClients_tuned r h.session h
  rw [hinstall] at htuned
  have hinstalled := (install_triple serialTransport r h.session h).ok ⟨rfl, rfl⟩ hinstall
  rcases hrun : (identify serialTransport).exec h₁ with ⟨result, h₂⟩
  obtain ⟨hstate, hsettings⟩ := identify_tuned hrun
  refine ⟨result, h₂, rfl, ?_, ?_, ?_⟩
  · rw [configureProtocol_switches hs, exec_bind_ok hswitch, hrun]
  · rw [hstate, hinstalled.state, hs.state]
  · rw [hsettings, htuned.1]

theorem restoresFraming_iff_keepsFraming (r : SwitchRequest) (h : Host SerialState) :
    RestoresFraming r h ↔ KeepsFraming r h := by
  constructor
  · intro hall
    constructor
    · intro hs e h₁ hinstall he hopens settings hsettings
      obtain ⟨e', h₂, hcall, hframing, hstate⟩ := switchProtocol_restored hs hinstall he hsettings
      exact hframing.symm.trans (hall e' h₂ hcall (hstate.mpr hopens))
    · intro hs e h₁ hinstall he
      obtain ⟨hcall, hstate, hsettings⟩ := switchProtocol_cancelled hs hinstall he
      rw [← hsettings]
      exact hall e h₁ hcall hstate
    · intro hs h₁ hinstall e h₂ hrun
      obtain ⟨result, h₃, hident, hcall, hstate, hsettings⟩ := switchProtocol_identified hs hinstall
      rw [hrun] at hident
      cases hident
      rw [← hsettings]
      exact hall e h₂ hcall hstate
  · intro hkeeps e h' hcall hstate
    by_cases hs : Switches r h
    · rcases hinstall : (installClients serialTransport r h.session).exec h with ⟨e₀ | ⟨⟩, h₁⟩
      · cases he : e₀.isException with
        | false =>
            obtain ⟨hcall', -, hsettings⟩ := switchProtocol_cancelled hs hinstall he
            rw [hcall'] at hcall
            cases hcall
            rw [hsettings]
            exact hkeeps.cancelled hs _ _ hinstall he
        | true =>
            cases hsettings : h.session.serialSettings with
            | none =>
                obtain ⟨e', hcall'⟩ := switchProtocol_rolledBack hs hinstall he
                rw [hcall', hsettings] at hcall
                cases hcall
                cases hstate
            | some settings =>
                obtain ⟨e', h₂, hcall', hframing, hopens⟩ := switchProtocol_restored hs hinstall he hsettings
                rw [hcall'] at hcall
                cases hcall
                rw [hframing]
                exact hkeeps.rolledBack hs _ _ hinstall he (hopens.mp hstate) settings hsettings
      · obtain ⟨result, h₂, hrun, hcall', -, hsettings⟩ := switchProtocol_identified hs hinstall
        rw [hcall'] at hcall
        cases hcall
        rw [hsettings]
        exact hkeeps.notIdentified hs h₁ hinstall _ _ hrun
    · by_cases hi : OnlyIdentifies r h
      · rw [configureProtocol_onlyIdentifies hi] at hcall
        rw [(identify_tuned hcall).2]
      · have hend := configureProtocol_otherwise (T := serialTransport) hs hi
        rw [hcall] at hend
        obtain rfl : h' = h := hend
        rfl

/-! ## From the construction on -/

/-- The session records what the call that built its balance gave it, and nothing has touched the port since. -/
def BuiltBy (way : Way) (h : Host SerialState) : Prop :=
  ∃ recorded : PortSettings, way.settings = .ok recorded ∧ h.world.settings = recorded.1 ∧
    h.session.serialSettings = some recorded.2

theorem BuiltBy.tracksFraming_iff {way : Way} (hbuilt : BuiltBy way h) : TracksFraming h ↔ way.Tracks := by
  obtain ⟨recorded, hway, hworld, hsession⟩ := hbuilt
  rw [← Way.tracks_iff hway, TracksFraming, hworld, hsession]
  simp

/-- The installation records the settings of the request over the recorded ones. -/
theorem installClients_recorded
    (hinstall : (installClients serialTransport r h.session).exec h = (.ok (), h₁)) :
    h₁.session.serialSettings =
      h.session.serialSettings.map (·.override r.baudrate r.parity r.stopbits) := by
  obtain ⟨s, xbpi, sbi, session, hs, hreplace, rfl⟩ :=
    (install_replaces serialTransport r h.session h).ok ⟨rfl, rfl⟩ hinstall
  rw [replaceClients_ok hreplace, hs.1]
  cases h.session.serialSettings <;> rfl

/-- A call whose switch is not cancelled and that leaves the session operational keeps the recorded framing in
step with the port. -/
theorem configureProtocol_tracksFraming {result : Except Exc DeviceInfo} (htracks : TracksFraming h)
    (hcancel : Switches r h → ∀ e h₁, (installClients serialTransport r h.session).exec h = (.error e, h₁) →
      e.isException = true)
    (hcall : (configureProtocol serialTransport r).exec h = (result, h')) (hstate : h'.session.state = .operational) :
    TracksFraming h' := by
  have hsame {h' : Host SerialState} (hsession : h'.session.serialSettings = h.session.serialSettings)
      (hworld : h'.world.settings = h.world.settings) : TracksFraming h' := by
    rw [TracksFraming, hsession, hworld]
    exact htracks
  by_cases hs : Switches r h
  · rcases hinstall : (installClients serialTransport r h.session).exec h with ⟨e₀ | ⟨⟩, h₁⟩
    · have he := hcancel hs e₀ h₁ hinstall
      have hbefore : Before h h₁ := (install_triple serialTransport r h.session h).error ⟨rfl, rfl⟩ hinstall
      obtain ⟨e', hcall'⟩ := switchProtocol_rolledBack hs hinstall he
      rw [hcall'] at hcall
      cases hcall
      rcases rollback_keeps (T := serialTransport) h.session.serialSettings r.target hbefore with hkept | hbroken
      · intro settings hsettings
        rw [hkept.1] at hsettings
        obtain ⟨result, h₂, hroll, hframing, -⟩ := rollback_framing settings r.target h₁
        rw [hsettings, hroll]
        exact hframing.symm
      · rw [hbroken] at hstate
        cases hstate
    · obtain ⟨result', h₂, hrun, hcall', -, hworld⟩ := switchProtocol_identified hs hinstall
      rw [hcall'] at hcall
      cases hcall
      intro settings hsettings
      have hrecorded : h'.session.serialSettings = h₁.session.serialSettings :=
        congrArg Session.Frame.serialSettings (identify_frame hrun).1
      rw [hrecorded, installClients_recorded hinstall] at hsettings
      obtain ⟨old, hold, rfl⟩ := Option.map_eq_some_iff.mp hsettings
      rw [hworld]
      exact SerialSettings.framing_override (htracks old hold) _ _ _
  · by_cases hi : OnlyIdentifies r h
    · rw [configureProtocol_onlyIdentifies hi] at hcall
      exact hsame (congrArg Session.Frame.serialSettings (identify_frame hcall).1) (identify_tuned hcall).2
    · have hend := configureProtocol_otherwise (T := serialTransport) hs hi
      rw [hcall] at hend
      obtain rfl : h' = h := hend
      exact hsame rfl rfl

/-- The framing is restored exactly under `KeepsFraming`, and what a balance was built from decides whether its
session tracks the framing. -/
theorem restoresFraming_iff (r : SwitchRequest) (h : Host SerialState) :
    (RestoresFraming r h ↔ KeepsFraming r h) ∧
      ∀ way : Way, BuiltBy way h → (TracksFraming h ↔ way.Tracks) :=
  ⟨restoresFraming_iff_keepsFraming r h, fun _ hbuilt => hbuilt.tracksFraming_iff⟩

/-- A transport that was opened at 19200-8-E-2 before `open_device`. -/
def prebuilt : SerialSettings := { port := "COM3", baudrate := 19200, parity := .even, stopbits := .two }

def prebuiltHost : Host SerialState where
  world := { settings := prebuilt }
  session := { active := .xbpi, xbpi := some { id := 0 }, serialSettings := some { port := "COM3" } }
  nextId := 1

/-- The rollback of a switch to a silent device reopens that transport at 9600-8-O-1. -/
theorem prebuilt_not_restored :
    BuiltBy (.openDevice (.transport prebuilt) none) prebuiltHost ∧ ¬ RestoresFraming toSbi prebuiltHost := by
  refine ⟨⟨_, rfl, rfl, rfl⟩, fun hall => ?_⟩
  have hend : (match (configureProtocol serialTransport toSbi).exec prebuiltHost with
      | (.error _, h') =>
          decide (h'.session.state = .operational ∧ h'.world.settings.framing ≠ prebuilt.framing)
      | (.ok _, _) => false) = true := by
    decide +kernel
  split at hend
  · rename_i e h' hcall
    obtain ⟨hstate, hframing⟩ := of_decide_eq_true hend
    exact hframing (hall e h' hcall hstate)
  · cases hend

end Balance

end SartoriusLib
