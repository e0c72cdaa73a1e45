import SartoriusLib.Devices.Rollback
import SartoriusLib.Manager.Outcomes

/-!
# The framing of the balances of a manager

A rollback trusts the settings that the session has recorded. What `add` makes it record is what the settings of the
port and its arguments say, so whether a balance of a manager tracks its framing is decided by how it was added.
-/

namespace SartoriusLib.Manager

open SartoriusLib Lib Prog

variable {V : Type} {U : PortTransport V}

/-- The settings of a serial port; those of a transport of the caller's class are not known. -/
def settingsOf : SerialState ⊕ V → SerialSettings := Sum.elim (·.settings) fun _ => { port := "" }

/-- The manager as the settings of its ports. -/
def Process.settings (p : Process V) : SartoriusLib.SartoriusManager where
  devices := p.manager.devices.keys
  ports := p.manager.ports.map fun entry =>
    (entry.1, { settings := settingsOf (p.transports entry.2.transport), protocol := entry.2.protocol })
  closed := p.manager.closed

/-- The key of the port that the balance is to be on, and what the caller hands over. -/
def AddRequest.port? (p : Process V) (a : AddRequest) : Option (String × PortSource) :=
  match a.source with
  | .balance _ => none
  | .path port => some (canonicalPortKey a.platform port, .path port)
  | .transport t => some (s!"transport:{t}", .transport (settingsOf (p.transports t)))

/-- The port, if there is one already, is a serial one. -/
def AddRequest.OnSerial (p : Process V) (a : AddRequest) : Prop :=
  (∀ key e, a.portKey = some key → p.manager.ports.get? key = some e → (p.transports e.transport).isLeft = true) ∧
    ∀ t, a.source = .transport t → (p.transports t).isLeft = true

/-! ## The settings of one port -/

/-- The transport is a serial port with these settings. -/
def HasSettings (t : Nat) (settings : SerialSettings) (p : Process V) : Prop :=
  ∃ s, p.transports t = .inl s ∧ s.settings = settings

theorem hasSettings_of_isLeft {p : Process V} {t : Nat} (h : (p.transports t).isLeft = true) :
    HasSettings t (settingsOf (p.transports t)) p := by
  obtain ⟨s, hs⟩ := Sum.isLeft_iff.mp h
  exact ⟨s, hs, by rw [hs]; rfl⟩

section

variable {settings recorded : SerialSettings} {opens : List PortOutcome} {t : Nat} {a : AddRequest}

/-- The transport is a serial port with the settings and the openings to come. -/
def Tuned (settings : SerialSettings) (opens : List PortOutcome) (w : SerialState ⊕ V) : Prop :=
  ∃ s, w = .inl s ∧ SerialTransport.Tuned settings opens s

theorem onEither_tuned {α : Type} {serial : Py SerialState α} (h : Keeps (SerialTransport.Tuned settings opens) serial)
    (own : Py V α) : Keeps (Tuned settings opens) (onEither serial own) := by
  rintro _ ⟨s, rfl, hs⟩
  exact ⟨_, rfl, h s hs⟩

theorem eitherPort_tuned (U : PortTransport V) (settings : SerialSettings) (opens : List PortOutcome)
    (k : ProtocolKind) : (eitherPort U).toTransport.Keeps (Tuned settings opens) k where
  write hdata timeout := onEither_tuned ((SerialTransport.keeps_tuned settings opens k).write hdata timeout) _
  readExact n timeout := onEither_tuned ((SerialTransport.keeps_tuned settings opens k).readExact n timeout) _
  readUntil separator timeout :=
    onEither_tuned ((SerialTransport.keeps_tuned settings opens k).readUntil separator timeout) _
  drainInput := onEither_tuned (SerialTransport.keeps_tuned settings opens k).drainInput _

theorem openPort_settings (s : SerialState) : (SerialTransport.openPort.exec s).2.settings = s.settings := by
  rw [SerialTransport.openPort, exec_bind_ok (exec_get s)]
  split
  · rfl
  · rw [exec_ofFun]
    cases s.opens.headD .ok <;> rfl

theorem ensureOpen_settings (U : PortTransport V) : Keeps (HasSettings t settings) (ensureOpen U t) := by
  rintro p ⟨s, hs, hsettings⟩
  rw [ensureOpen, exec_bind_ok (exec_get p)]
  split
  · exact ⟨s, hs, hsettings⟩
  · refine ⟨(SerialTransport.openPort.exec s).2, ?_, (openPort_settings s).trans hsettings⟩
    rw [onPort, exec_zoom]
    dsimp only
    rw [Function.update_self, hs]
    rfl

theorem sharedClient_settings (portKey : String) (e : PortEntry) (a : AddRequest) :
    Keeps (HasSettings (V := V) t settings) (sharedClient portKey e a) := by
  unfold sharedClient
  cases e.client with
  | some client => exact .pure _
  | none =>
      refine Keeps.bind ?_ fun _ => Keeps.bind (.modify fun _ hs => hs) fun _ => .pure _
      refine Keeps.get.bind fun _ => Keeps.bind (.modify fun _ hs => hs) fun _ => .ite (fun _ => .pure _) fun _ => ?_
      exact Keeps.bind (.modify fun _ hs => hs) fun _ => .pure _

theorem returns_settings {α : Type} {m : Py (Process V) α} (h : Keeps (HasSettings t settings) m) :
    Triple (HasSettings t settings) m (fun _ => HasSettings t settings) fun _ _ => True :=
  h.triple.conseq (fun _ => id) (fun _ _ => id) fun _ _ _ => trivial

/-! ## What `add` records -/

/-- The balance is on the serial port `t`, and its session has recorded its second settings for it. -/
structure Recorded (t : Nat) (settings : PortSettings) (b : Nat) (p : Process V) : Prop where
  port : HasSettings t settings.1 p
  transport : (p.balances b).transport = t
  session : (p.balances b).session.serialSettings = some settings.2

theorem newBalance_recorded {balance : Balance} (ht : balance.transport = t)
    (hsession : balance.session.serialSettings = some recorded) :
    Triple (HasSettings (V := V) t settings) (newBalance balance) (Recorded t (settings, recorded)) fun _ _ => True := by
  refine Triple.get_bind fun p hp => Triple.bind (Q := fun _ => Recorded t (settings, recorded) p.nextBalance)
    (Triple.modify ?_) fun _ => Triple.pure fun _ h => h
  rintro _ rfl
  exact ⟨hp, by simpa using ht, by simpa using hsession⟩

theorem identified_recorded (U : PortTransport V) {balance : Balance} (ht : balance.transport = t)
    (hsession : balance.session.serialSettings = some recorded) :
    Triple (HasSettings t settings) (onNewBalance balance (SartoriusLib.Balance.identify (eitherPort U).toTransport))
      (fun balance' p => HasSettings t settings p ∧ balance'.transport = t ∧
        balance'.session.serialSettings = some recorded) fun _ _ => True := by
  rintro p ⟨s, hs, hsettings⟩
  have hspec := onNewBalance_identify U balance p
  have hkeeps : Keeps (AtFrame (p.hostOf balance).session.frame (p.hostOf balance).retired (Tuned s.settings s.opens))
      (SartoriusLib.Balance.identify (eitherPort U).toTransport) :=
    SartoriusLib.Balance.identify_keeps (eitherPort_tuned U _ _ _)
  have hworld : (p.hostOf balance).world = .inl s := by rw [← hs, ← ht]; rfl
  obtain ⟨-, -, s', hs', hsettings', -⟩ := hkeeps (p.hostOf balance) ⟨rfl, rfl, s, hworld, rfl, rfl⟩
  rcases hrun : (onNewBalance balance (SartoriusLib.Balance.identify (eitherPort U).toTransport)).exec p with
    ⟨e | balance', p'⟩
  · trivial
  · obtain ⟨-, -, ht', hframe⟩ := hspec.ok rfl hrun
    refine ⟨⟨s', ?_, hsettings'.trans hsettings⟩, ht'.trans ht, ?_⟩
    · have hstored := congrArg (fun end_ => end_.2.transports t) hrun
      rw [onNewBalance, exec_ofFun] at hstored
      rw [← hstored]
      dsimp only [Process.store]
      rw [← ht, Function.update_self]
      exact hs'
    · exact (congrArg Session.Frame.serialSettings hframe).trans hsession

theorem buildBalance_recorded (U : PortTransport V) (client : Client) (a : AddRequest) :
    Triple (HasSettings t settings) (buildBalance U t client a recorded) (Recorded t (settings, recorded))
      fun _ _ => True := by
  intro p hp
  rw [buildBalance]
  cases hnew : newSession (sessionOn client a recorded) with
  | error e => trivial
  | ok session =>
      have hsession : session.serialSettings = some recorded := by
        unfold newSession at hnew
        split_ifs at hnew
        cases hnew
        rfl
      have ht : Balance.transport { transport := t, session } = t := rfl
      rw [exec_bind_ok (exec_liftExcept_ok session p)]
      dsimp only
      by_cases hidentify : a.identify = true
      · rw [if_pos hidentify]
        refine Triple.bind (identified_recorded U ht hsession) (fun balance => ?_) p hp
        rintro p' ⟨hp', ht', hrecorded⟩
        exact newBalance_recorded ht' hrecorded p' hp'
      · rw [if_neg hidentify]
        exact newBalance_recorded ht hsession p hp

/-- The balance records the settings that it was given, or else the name of its port. -/
theorem openBalanceOnPort_recorded (U : PortTransport V) (portKey : String) (e : PortEntry) (a : AddRequest)
    (serialSettings : Option SerialSettings) :
    Triple (HasSettings e.transport settings) (openBalanceOnPort U portKey e a serialSettings)
      (fun b p => ∃ recorded, Recorded e.transport recorded b p ∧
        SartoriusManager.openBalanceOnPort { settings, protocol := e.protocol } a.protocol serialSettings = .ok recorded)
      fun _ _ => True := by
  rw [openBalanceOnPort]
  by_cases hauto : a.protocol = .auto
  · rw [if_pos hauto]
    exact fun _ _ => trivial
  rw [if_neg hauto]
  refine Triple.bind (returns_settings (ensureOpen_settings U)) fun _ => ?_
  by_cases hmix : e.protocol.any (· ≠ a.protocol) = true
  · rw [if_pos hmix]
    exact fun _ _ => trivial
  rw [if_neg hmix]
  have hopens : SartoriusManager.openBalanceOnPort { settings, protocol := e.protocol } a.protocol serialSettings =
      .ok (settings, serialSettings.getD { port := settings.port }) := by
    rw [SartoriusManager.openBalanceOnPort, if_neg hauto]
    cases hprotocol : e.protocol with
    | none => rfl
    | some k =>
        rw [hprotocol] at hmix
        exact if_neg (by simpa using hmix)
  refine Triple.bind (returns_settings (sharedClient_settings portKey e a)) fun client => Triple.get_bind fun p hp => ?_
  obtain ⟨s, hs, hsettings⟩ := hp
  have hlabel : (eitherPort U).label (p.transports e.transport) = settings.port := by
    rw [hs, ← hsettings]
    rfl
  dsimp only
  rw [hlabel]
  refine (buildBalance_recorded U client a).conseq ?_ (fun b p' hp' => ⟨_, hp', hopens⟩) fun _ _ _ => trivial
  rintro _ rfl
  exact ⟨s, hs, hsettings⟩

theorem get?_settings (p : Process V) (key : String) :
    p.settings.ports.get? key = (p.manager.ports.get? key).map fun e =>
      { settings := settingsOf (p.transports e.transport), protocol := e.protocol } := by
  dsimp only [Process.settings]
  generalize p.manager.ports = ports
  induction ports with
  | nil => rfl
  | cons entry ports ih =>
      rw [List.map_cons, Dict.get?_cons, ih, show entry = (entry.1, entry.2) from rfl, Dict.get?_cons]
      split <;> rfl

/-- A port that the manager has keeps its settings, and a new one has the fresh ones. -/
theorem resolvePort_recorded (U : PortTransport V) (portKey : String) {newEntry : Py (Process V) PortEntry}
    {fresh : SerialSettings} (a : AddRequest) (serialSettings : Option SerialSettings) {p : Process V}
    (hnew : Triple (· = p) newEntry (fun e p' => HasSettings e.transport fresh p' ∧ e.protocol = none) fun _ _ => True)
    (hport : ∀ e, p.manager.ports.get? portKey = some e → (p.transports e.transport).isLeft = true) :
    Triple (· = p) (resolvePort U portKey newEntry a serialSettings)
      (fun r p' => ∃ t recorded, Recorded t recorded r.2 p' ∧
        SartoriusManager.openBalanceOnPort ((p.settings.ports.get? portKey).getD { settings := fresh }) a.protocol
          serialSettings = .ok recorded) fun _ _ => True := by
  rw [get?_settings]
  refine Triple.get_bind fun p₀ hp₀ => ?_
  obtain rfl : p₀ = p := hp₀
  cases hentry : p₀.manager.ports.get? portKey with
  | some e =>
      refine Triple.bind (Q := fun b p' => ∃ recorded, Recorded e.transport recorded b p' ∧ _ = _) ?_ fun b =>
        Triple.pure fun p' hp' => hp'.elim fun recorded h => ⟨e.transport, recorded, h⟩
      refine (openBalanceOnPort_recorded U portKey e a serialSettings).conseq ?_ (fun _ _ h => h) fun _ _ h => h
      rintro _ rfl
      exact hasSettings_of_isLeft (hport e hentry)
  | none =>
      refine Triple.bind hnew fun e => ?_
      refine Triple.bind (Q := fun _ p' => HasSettings e.transport fresh p' ∧ e.protocol = none)
        (.modify fun _ h => h) fun _ => ?_
      refine Triple.bind (Q := fun b p' => ∃ recorded, Recorded e.transport recorded b p' ∧
          SartoriusManager.openBalanceOnPort { settings := fresh } a.protocol serialSettings = .ok recorded) ?_ fun b =>
        Triple.pure fun p' hp' => hp'.elim fun recorded h => ⟨e.transport, recorded, h⟩
      refine Triple.tryCatch (R := fun _ _ => True) ?_ fun _ => ?_
      · rintro p' ⟨hp', hprotocol⟩
        have hopen := openBalanceOnPort_recorded U portKey e a serialSettings p' hp'
        rw [hprotocol] at hopen
        exact hopen
      · exact Triple.bind (Q := fun _ _ => True) (fun s _ => by split <;> trivial) fun _ => .throw fun _ h => h

theorem serialEntry_fresh (portKey : String) (a : AddRequest) (settings : SerialSettings) (p : Process V) :
    Triple (· = p) (serialEntry portKey a settings)
      (fun e p' => HasSettings e.transport settings p' ∧ e.protocol = none) fun _ _ => True := by
  rintro _ rfl
  exact ⟨⟨{ settings, isOpen := false, line := a.line, sends := a.sends, opens := a.opens }, by simp, rfl⟩, rfl⟩

/-- `_resolve_source` gives a balance the settings that the settings of the ports say. -/
theorem resolveSource_recorded (U : PortTransport V) (a : AddRequest) {p : Process V} {key : String}
    {source : PortSource} (hport : a.port? p = some (key, source)) (hserial : a.OnSerial p) :
    Triple (· = p) (resolveSource U a)
      (fun r p' => ∃ t recorded, Recorded t recorded r.2 p' ∧
        p.settings.resolveSource key source a.protocol a.serialSettings = .ok recorded) fun _ _ => True := by
  unfold resolveSource
  cases hsource : a.source with
  | balance b => simp [AddRequest.port?, hsource] at hport
  | path port =>
      simp only [AddRequest.port?, hsource, Option.some.injEq, Prod.mk.injEq] at hport
      obtain ⟨rfl, rfl⟩ := hport
      refine resolvePort_recorded U _ a a.serialSettings (serialEntry_fresh _ a _ p) fun e he => ?_
      exact hserial.1 _ e (by rw [AddRequest.portKey, hsource]) he
  | transport t =>
      simp only [AddRequest.port?, hsource, Option.some.injEq, Prod.mk.injEq] at hport
      obtain ⟨rfl, rfl⟩ := hport
      have hfresh : Triple (· = p)
          (pure { key := s!"transport:{t}", transport := t, ownsTransport := false } : Py (Process V) PortEntry)
          (fun e p' => HasSettings e.transport (settingsOf (p.transports t)) p' ∧ e.protocol = none)
          fun _ _ => True := by
        refine Triple.pure ?_
        rintro _ rfl
        exact ⟨hasSettings_of_isLeft (hserial.2 t hsource), rfl⟩
      refine resolvePort_recorded U _ a none hfresh fun e he => ?_
      exact hserial.1 _ e (by rw [AddRequest.portKey, hsource]) he

@[simp] theorem entered_transports (name : String) (portKey : Option String) (b : Nat) (p : Process V) :
    (p.entered name portKey b).transports = p.transports := by
  cases portKey <;> rfl

@[simp] theorem entered_balances (name : String) (portKey : Option String) (b : Nat) (p : Process V) :
    (p.entered name portKey b).balances = p.balances := by
  cases portKey <;> rfl

theorem Recorded.entered {settings : PortSettings} (h : Recorded t settings b p) (name : String)
    (portKey : Option String) (b' : Nat) : Recorded t settings b (p.entered name portKey b') where
  port := by simpa [HasSettings] using h.port
  transport := by simpa using h.transport
  session := by simpa using h.session

/-- The `add` of the settings is the `add` of the manager: where the manager hands out a balance on a serial port, it
gives it the settings that the other one says. -/
theorem add_recorded (U : PortTransport V) (a : AddRequest) {p p' : Process V} {b : Nat} {key : String}
    {source : PortSource} (hport : a.port? p = some (key, source)) (hserial : a.OnSerial p)
    (hrun : (add U a).exec p = (.ok b, p')) :
    ∃ t recorded, Recorded t recorded b p' ∧
      p.settings.add a.name key source a.protocol a.serialSettings = .ok recorded := by
  rcases exec_add U a p with ⟨x, hadd⟩ | ⟨haccepts, hadd⟩ <;> rw [hadd] at hrun
  · cases hrun
  rcases hresolve : (resolveSource U a).exec p with ⟨x | ⟨portKey, balance⟩, p₁⟩ <;> rw [hresolve] at hrun <;>
    cases hrun
  obtain ⟨t, recorded, hrecorded, hsays⟩ := (resolveSource_recorded U a hport hserial).ok rfl hresolve
  refine ⟨t, recorded, hrecorded.entered _ _ _, ?_⟩
  have hopen : ¬ p.settings.closed = true := by
    show ¬ p.manager.closed = true
    simp [haccepts.opened]
  have hfree : a.name ∉ p.settings.devices := by
    show a.name ∉ p.manager.devices.keys
    rw [← Dict.get?_isSome_iff, haccepts.free]
    simp
  unfold SartoriusLib.SartoriusManager.add
  rw [if_neg hopen, if_neg hfree]
  split
  · next serialSettings hsome =>
      -- a prebuilt transport takes no settings
      have hpath := haccepts.settings (by rw [hsome]; rfl)
      cases hsource : a.source <;> simp [AddRequest.port?, hsource, Source.isPath] at hport hpath
  · exact hsays

/-- How a balance was added decides whether its session tracks the framing of its serial port. -/
theorem add_tracksFraming (U : PortTransport V) (a : AddRequest) {p p' : Process V} {b : Nat} {key : String}
    {source : PortSource} {s : SerialState} (hport : a.port? p = some (key, source)) (hserial : a.OnSerial p)
    (hrun : (add U a).exec p = (.ok b, p')) (hs : p'.transports (p'.balances b).transport = .inl s) :
    SartoriusLib.Balance.TracksFraming { world := s, session := (p'.balances b).session } ↔
      (Way.add p.settings a.name key source a.protocol a.serialSettings).Tracks := by
  obtain ⟨t, recorded, hrecorded, hsays⟩ := add_recorded U a hport hserial hrun
  obtain ⟨s', hs', hsettings⟩ := hrecorded.port
  rw [hrecorded.transport, hs'] at hs
  obtain rfl := Sum.inl.inj hs
  exact SartoriusLib.Balance.BuiltBy.tracksFraming_iff ⟨recorded, hsays, hsettings, hrecorded.session⟩

end

end SartoriusLib.Manager
