import SartoriusLib.Manager.Opening

/-!
# What a call of the manager can do

An `add` registers a balance that was built already, registers a new balance on a port, or leaves the registry
as it was; a balance that is taken out gives its port back, and the last one closes it.
-/

namespace SartoriusLib.Manager

open Lib Prog

variable {V : Type} {U : PortTransport V} {a : AddRequest} {k : String} {e : PortEntry} {b : Nat}
  {p p' p'' : Process V}

/-- Objects may have been made, and no client was disposed. -/
structure Grows (p p' : Process V) : Prop where
  retired : p'.retired = p.retired
  nextTransport : p.nextTransport ≤ p'.nextTransport
  nextClient : p.nextClient ≤ p'.nextClient

theorem Grows.refl (p : Process V) : Grows p p := ⟨rfl, le_rfl, le_rfl⟩

/-- A serial port is still one, and open if it was. -/
structure StaysOpen (p p' : Process V) : Prop where
  serial : ∀ t < p.nextTransport, (serialOpen (p.transports t)).isSome → (serialOpen (p'.transports t)).isSome
  opens : ∀ t < p.nextTransport, serialOpen (p.transports t) = some true → serialOpen (p'.transports t) = some true

/-- The entry has its client, and a serial port when it is the manager's. -/
structure Serving (p : Process V) (e : PortEntry) : Prop where
  client : ∃ client, e.client = some client ∧ e.protocol = some client.protocol
  transport : e.transport < p.nextTransport
  serial : e.ownsTransport = true → (serialOpen (p.transports e.transport)).isSome

/-! ## The end of a port -/

/-- The port `k` is forgotten. -/
structure TornDown (k : String) (e : PortEntry) (p p' : Process V) : Prop where
  devices : p'.manager.devices = p.manager.devices
  closed : p'.manager.closed = p.manager.closed
  ports : p'.manager.ports = p.manager.ports.pop k
  retired : p'.retired = p.retired
  nextTransport : p'.nextTransport = p.nextTransport
  nextBalance : p'.nextBalance = p.nextBalance
  nextClient : p'.nextClient = p.nextClient
  balances : p'.balances = p.balances
  closes : e.ownsTransport = true → serialOpen (p'.transports e.transport) = some false
  others : ∀ t, (e.ownsTransport = true → t ≠ e.transport) → p'.transports t = p.transports t

theorem maybeTeardownPort_spec (U : PortTransport V) (k : String) (e : PortEntry) (p : Process V)
    (hserial : e.ownsTransport = true → (serialOpen (p.transports e.transport)).isSome) :
    ∃ p', (maybeTeardownPort U k e).exec p = (.ok (), p') ∧ TornDown k e p p' := by
  rw [maybeTeardownPort]
  by_cases howns : e.ownsTransport = true
  · rw [if_pos howns, exec_bind, exec_exceptException, exec_bind_ok (exec_get p)]
    obtain ⟨s, hs⟩ : ∃ s, p.transports e.transport = .inl s := by
      have := hserial howns
      cases hw : p.transports e.transport with
      | inl s => exact ⟨s, rfl⟩
      | inr v => rw [hw] at this; cases this
    by_cases hopen : (eitherPort U).isOpen (p.transports e.transport) = true
    · rw [if_pos hopen, onPort, exec_zoom, hs]
      refine ⟨_, rfl, rfl, rfl, rfl, rfl, rfl, rfl, rfl, rfl, fun _ => ?_, fun t ht => ?_⟩
      · show serialOpen (Function.update p.transports e.transport _ e.transport) = _
        rw [Function.update_self]
        rfl
      · exact Function.update_of_ne (ht howns) _ _
    · rw [if_neg hopen]
      refine ⟨_, rfl, rfl, rfl, rfl, rfl, rfl, rfl, rfl, rfl, fun _ => ?_, fun t ht => rfl⟩
      rw [hs] at hopen
      show serialOpen (p.transports e.transport) = _
      rw [hs]
      simpa [eitherPort, serialOpen] using hopen
  · rw [if_neg howns]
    exact ⟨_, rfl, rfl, rfl, rfl, rfl, rfl, rfl, rfl, rfl, fun h => absurd h howns, fun _ _ => rfl⟩

/-- The device `d` is taken out of the registry. -/
inductive Dropped (d : DeviceEntry) (p p' : Process V) : Prop where
  | solo (hkey : d.portKey = none) (hp : p' = p.setDevices (·.pop d.name))
  | kept (k : String) (e : PortEntry) (hkey : d.portKey = some k) (he : p.manager.ports.get? k = some e)
      (hrefs : e.refs.filter (· ≠ d.name) ≠ [])
      (hp : p' = (p.setDevices (·.pop d.name)).setPorts
        (·.set k { e with refs := e.refs.filter (· ≠ d.name) }))
  | last (k : String) (e : PortEntry) (hkey : d.portKey = some k) (he : p.manager.ports.get? k = some e)
      (hrefs : e.refs.filter (· ≠ d.name) = [])
      (htorn : TornDown k e (p.setDevices (·.pop d.name)) p')

theorem teardownDevice_spec (U : PortTransport V) (d : DeviceEntry) (p : Process V)
    (hport : ∀ k, d.portKey = some k → ∃ e, p.manager.ports.get? k = some e ∧ Serving p e) :
    ∃ p', (teardownDevice U d).exec (p.setDevices (·.pop d.name)) = (.ok (), p') ∧ Dropped d p p' := by
  rw [teardownDevice]
  cases hkey : d.portKey with
  | none => exact ⟨_, rfl, .solo hkey rfl⟩
  | some k =>
      obtain ⟨e, he, hserving⟩ := hport k hkey
      dsimp only
      rw [exec_bind_ok (exec_get _), show (p.setDevices (·.pop d.name)).manager.ports.get? k = some e from he]
      dsimp only
      rw [exec_bind_ok (exec_modify _ _)]
      by_cases hrefs : e.refs.filter (· ≠ d.name) = []
      · rw [if_pos hrefs]
        obtain ⟨p', hrun, htorn⟩ := maybeTeardownPort_spec U k { e with refs := e.refs.filter (· ≠ d.name) }
          ((p.setDevices (·.pop d.name)).setPorts (·.set k { e with refs := e.refs.filter (· ≠ d.name) }))
          hserving.serial
        refine ⟨p', hrun, .last k e hkey he hrefs ?_⟩
        exact { htorn with ports := htorn.ports.trans (Dict.pop_set_self ..) }
      · rw [if_neg hrefs]
        exact ⟨_, rfl, .kept k e hkey he hrefs rfl⟩

/-! ## The outcomes of `add` -/

/-- Nothing is registered; a serial port that was made is closed again. -/
structure Unregistered (p p' : Process V) : Prop extends Grows p p' where
  manager : p'.manager = p.manager
  nextBalance : p'.nextBalance = p.nextBalance
  balances : p'.balances = p.balances
  stays : StaysOpen p p'
  fresh : ∀ t, p.nextTransport ≤ t → t < p'.nextTransport → serialOpen (p'.transports t) = some false

/-- The checks that `add` makes before it looks at the source. -/
structure Accepts (p : Process V) (a : AddRequest) : Prop where
  opened : p.manager.closed = false
  free : p.manager.devices.get? a.name = none
  settings : a.serialSettings.isSome → a.source.isPath = true

/-- A balance that was built already is registered. -/
structure Prebuilt (a : AddRequest) (b : Nat) (p p' : Process V) : Prop where
  source : a.source = .balance b
  accepts : Accepts p a
  process : p' = p.setDevices (·.set a.name { name := a.name, balance := b, portKey := none })

/-- The port `k` had the entry `e`, or has it now. -/
inductive Origin (k : String) (e : PortEntry) (p p' : Process V) : Prop where
  | found (he : p.manager.ports.get? k = some e) (hsame : p'.nextTransport = p.nextTransport)
  | made (he : p.manager.ports.get? k = none) (hrefs : e.refs = [])
      (hnew : e.ownsTransport = true → e.transport = p.nextTransport ∧ p'.nextTransport = p.nextTransport + 1)
      (hown : e.ownsTransport = false → p'.nextTransport = p.nextTransport)
      (hclient : ∀ client ∈ e.client, p.nextClient ≤ client.id ∧ client.id < p'.nextClient)

/-- The new balance `b` is registered on the port `k`. -/
structure Registered (a : AddRequest) (k : String) (e : PortEntry) (b : Nat) (p p' : Process V) : Prop
    extends Grows p p' where
  accepts : Accepts p a
  key : a.portKey = some k
  devices : p'.manager.devices = p.manager.devices.set a.name { name := a.name, balance := b, portKey := some k }
  ports : p'.manager.ports = p.manager.ports.set k { e with refs := e.refs.insert a.name }
  closed : p'.manager.closed = p.manager.closed
  origin : Origin k e p p'
  new : b = p.nextBalance ∧ p'.nextBalance = b + 1
  others : ∀ b', b' ≠ b → p'.balances b' = p.balances b'
  transport : (p'.balances b).transport = e.transport
  holds : ∀ client ∈ e.client, Holds client (p'.balances b).session
  protocol : e.protocol = some a.protocol
  live : a.identify = true → ∀ client ∈ e.client, client.id ∉ p.retired
  serving : Serving p' e
  opens : e.ownsTransport = true → serialOpen (p'.transports e.transport) = some true
  stays : StaysOpen p p'

/-- The new balance `b` is on the port `k`, and is not registered yet. -/
structure Resolved (a : AddRequest) (k : String) (e : PortEntry) (b : Nat) (p p' : Process V) : Prop
    extends Grows p p' where
  devices : p'.manager.devices = p.manager.devices
  ports : p'.manager.ports.get? k = some e ∧ ∀ e', p'.manager.ports.set k e' = p.manager.ports.set k e'
  closed : p'.manager.closed = p.manager.closed
  origin : Origin k e p p'
  new : b = p.nextBalance ∧ p'.nextBalance = b + 1
  others : ∀ b', b' ≠ b → p'.balances b' = p.balances b'
  transport : (p'.balances b).transport = e.transport
  holds : ∀ client ∈ e.client, Holds client (p'.balances b).session
  protocol : e.protocol = some a.protocol
  live : a.identify = true → ∀ client ∈ e.client, client.id ∉ p.retired
  serving : Serving p' e
  opens : e.ownsTransport = true → serialOpen (p'.transports e.transport) = some true
  stays : StaysOpen p p'

theorem Touches.grows {t : Nat} (h : Touches t p p') : Grows p p' :=
  ⟨h.retired, h.nextTransport.ge, h.nextClient⟩

theorem Touches.staysOpen {t : Nat} (h : Touches t p p') : StaysOpen p p' := by
  constructor
  · intro t' _ hserial
    by_cases ht : t' = t
    · rw [ht] at hserial ⊢
      exact h.serial hserial
    · rwa [h.others t' ht]
  · intro t' _ hopen
    by_cases ht : t' = t
    · rw [ht] at hopen ⊢
      exact h.stays hopen
    · rwa [h.others t' ht]

/-- A balance on a port that the manager has. -/
theorem Opened.resolved_found (h : Opened k e a p b p') (he : p.manager.ports.get? k = some e)
    (hserving : Serving p e) : Resolved a k e b p p' := by
  obtain ⟨client, hclient, hprotocol⟩ := hserving.client
  obtain ⟨client', hsupplies, hholds, hrequested, hlive⟩ := h.client
  have hshared : client' = client ∧ p'.manager.ports = p.manager.ports := by
    cases hsupplies with
    | shared hclient' hports => exact ⟨Option.some.inj (hclient'.symm.trans hclient), hports⟩
    | made hnone => rw [hclient] at hnone; cases hnone
  obtain ⟨rfl, hports⟩ := hshared
  exact
    { h.touches.grows with
      devices := h.touches.devices
      ports := ⟨by rw [hports, he], fun _ => by rw [hports]⟩
      closed := h.touches.closed
      origin := .found he h.touches.nextTransport
      new := h.new
      others := h.others
      transport := h.transport
      holds := fun c hc => by rw [hclient] at hc; cases hc; exact hholds
      protocol := hprotocol.trans (congrArg some hrequested)
      live := fun hidentify c hc => by rw [hclient] at hc; cases hc; exact hlive hidentify
      serving := ⟨⟨client', hclient, hprotocol⟩, hserving.transport.trans_le h.touches.nextTransport.ge,
        fun howns => h.touches.serial (hserving.serial howns)⟩
      opens := fun howns => h.opens (hserving.serial howns)
      stays := h.touches.staysOpen }

/-! ## A new port -/

/-- A port that has no client yet, with a serial port that is closed when it is the manager's. -/
structure NewPort (e : PortEntry) (p p' : Process V) : Prop extends Grows p p' where
  manager : p'.manager = p.manager
  nextBalance : p'.nextBalance = p.nextBalance
  balances : p'.balances = p.balances
  client : e.client = none
  refs : e.refs = []
  transport : e.transport < p'.nextTransport
  own : e.ownsTransport = false → p'.nextTransport = p.nextTransport
  made : e.ownsTransport = true → e.transport = p.nextTransport ∧ p'.nextTransport = p.nextTransport + 1 ∧
    serialOpen (p'.transports e.transport) = some false
  others : ∀ t < p.nextTransport, serialOpen (p'.transports t) = serialOpen (p.transports t)

theorem NewPort.devices (h : NewPort e p p') : p'.manager.devices = p.manager.devices := by rw [h.manager]

theorem NewPort.closed (h : NewPort e p p') : p'.manager.closed = p.manager.closed := by rw [h.manager]

theorem serialEntry_spec (k : String) (a : AddRequest) (settings : SerialSettings) (p : Process V) :
    ∃ e p', (serialEntry k a settings).exec p = (.ok e, p') ∧ NewPort e p p' := by
  refine ⟨_, _, rfl, ⟨rfl, Nat.le_succ _, le_rfl⟩, rfl, rfl, rfl, rfl, rfl, Nat.lt_succ_self _,
    fun h => (by cases h), fun _ => ⟨rfl, rfl, ?_⟩, fun t ht => ?_⟩
  · simp [serialOpen]
  · simp [ht.ne]

theorem ownEntry_spec {t : Nat} (ht : t < p.nextTransport) :
    NewPort { key := k, transport := t, ownsTransport := false } p p :=
  ⟨.refl p, rfl, rfl, rfl, rfl, rfl, ht, fun _ => rfl, fun h => (by cases h), fun _ _ => rfl⟩

/-- The entry of a new port after its first balance. -/
theorem Opened.resolved_made (h : Opened k e a (p'.setPorts (·.set k e)) b p'') (hnew : NewPort e p p')
    (he : p.manager.ports.get? k = none) : ∃ e', Resolved a k e' b p p'' := by
  obtain ⟨client, hsupplies, hholds, hprotocol, hlive⟩ := h.client
  have hmade : p''.manager.ports = (p'.manager.ports.set k e).set k { e with client, protocol := some a.protocol } ∧
      p'.nextClient ≤ client.id ∧ client.id < p''.nextClient := by
    cases hsupplies with
    | shared hclient hports => rw [hnew.client] at hclient; cases hclient
    | made hclient hports hid => exact ⟨hports, hid⟩
  obtain ⟨hports, hid⟩ := hmade
  rw [Dict.set_set, hnew.manager] at hports
  have htransports : p''.nextTransport = p'.nextTransport := h.touches.nextTransport
  have hopens : e.ownsTransport = true → serialOpen (p''.transports e.transport) = some true := by
    intro howns
    refine h.opens ?_
    show (serialOpen (p'.transports e.transport)).isSome
    rw [(hnew.made howns).2.2]
    rfl
  refine ⟨{ e with client, protocol := some a.protocol },
    { retired := h.touches.retired.trans hnew.retired
      nextTransport := hnew.nextTransport.trans htransports.ge
      nextClient := hnew.nextClient.trans h.touches.nextClient
      devices := h.touches.devices.trans hnew.devices
      ports := ⟨by rw [hports, Dict.get?_set_self], fun e' => by rw [hports, Dict.set_set]⟩
      closed := h.touches.closed.trans hnew.closed
      origin := .made he hnew.refs (fun howns => ?_) (fun hown => htransports.trans (hnew.own hown)) fun c hc => ?_
      new := ⟨h.new.1.trans hnew.nextBalance, h.new.2⟩
      others := fun b' hb => (h.others b' hb).trans (congrFun hnew.balances b')
      transport := h.transport
      holds := fun c hc => by cases hc; exact hholds
      protocol := rfl
      live := fun hidentify c hc => by
        cases hc
        rw [← hnew.retired]
        exact hlive hidentify
      serving := ⟨⟨client, rfl, by rw [hprotocol]⟩, hnew.transport.trans_le htransports.ge,
        fun howns => by rw [hopens howns]; rfl⟩
      opens := hopens
      stays := ⟨fun t ht hserial => ?_, fun t ht hopen => ?_⟩ }⟩
  · obtain ⟨ht, hnext, -⟩ := hnew.made howns
    exact ⟨ht, htransports.trans hnext⟩
  · cases hc
    exact ⟨hnew.nextClient.trans hid.1, hid.2⟩
  · refine h.touches.staysOpen.serial t (ht.trans_le hnew.nextTransport) ?_
    show (serialOpen (p'.transports t)).isSome
    rw [hnew.others t ht]
    exact hserial
  · refine h.touches.staysOpen.opens t (ht.trans_le hnew.nextTransport) ?_
    show serialOpen (p'.transports t) = some true
    rw [hnew.others t ht]
    exact hopen

/-- A new port on which nothing could be opened is gone. -/
theorem Abandoned.unregistered {p₁ p₂ p₃ : Process V} (h : Abandoned k e (p₁.setPorts (·.set k e)) p₂)
    (hnew : NewPort e p p₁) (he : p.manager.ports.get? k = none) (htorn : TornDown k e p₂ p₃) :
    Unregistered p p₃ := by
  have hports : p₃.manager.ports = p.manager.ports := by
    rw [htorn.ports, h.ports]
    show (p₁.manager.ports.set k e).pop k = _
    rw [Dict.pop_set_self, hnew.manager, Dict.pop_of_notMem ((Dict.get?_eq_none_iff _ _).mp he)]
  have hother : ∀ t < p.nextTransport, e.ownsTransport = true → t ≠ e.transport :=
    fun t ht howns => ((hnew.made howns).1 ▸ ht).ne
  exact
    { retired := htorn.retired.trans (h.works.retired.trans hnew.retired)
      nextTransport := hnew.nextTransport.trans (h.works.nextTransport.ge.trans htorn.nextTransport.ge)
      nextBalance := htorn.nextBalance.trans (h.works.nextBalance.trans hnew.nextBalance)
      nextClient := hnew.nextClient.trans (h.works.nextClient.trans htorn.nextClient.ge)
      balances := htorn.balances.trans (h.works.balances.trans hnew.balances)
      manager := by
        have hdevices := htorn.devices.trans (h.works.devices.trans hnew.devices)
        have hclosed := htorn.closed.trans (h.works.closed.trans hnew.closed)
        calc p₃.manager = ⟨p₃.manager.devices, p₃.manager.ports, p₃.manager.closed⟩ := rfl
          _ = p.manager := by rw [hdevices, hports, hclosed]
      stays :=
        ⟨fun t ht hserial => by
          rw [htorn.others t (hother t ht)]
          refine h.works.toTouches.staysOpen.serial t (ht.trans_le hnew.nextTransport) ?_
          show (serialOpen (p₁.transports t)).isSome
          rwa [hnew.others t ht],
        fun t ht hopen => by
          rw [htorn.others t (hother t ht)]
          refine h.works.toTouches.staysOpen.opens t (ht.trans_le hnew.nextTransport) ?_
          show serialOpen (p₁.transports t) = some true
          rwa [hnew.others t ht]⟩
      fresh := fun t hle hlt => by
        rw [htorn.nextTransport, h.works.nextTransport] at hlt
        cases howns : e.ownsTransport with
        | false =>
            have hsame : p₁.nextTransport = p.nextTransport := hnew.own howns
            exact absurd hle (Nat.not_le.mpr (hlt.trans_eq hsame))
        | true =>
            obtain ⟨ht, hnext, -⟩ := hnew.made howns
            have hlt : t < p₁.nextTransport := hlt
            obtain rfl : t = e.transport := by omega
            exact htorn.closes howns }

/-! ## The calls -/

theorem Unregistered.refl (p : Process V) : Unregistered p p where
  toGrows := .refl p
  manager := rfl
  nextBalance := rfl
  balances := rfl
  stays := ⟨fun _ _ => id, fun _ _ => id⟩
  fresh _ hle hlt := absurd hle (Nat.not_le.mpr hlt)

theorem resolvePort_spec (U : PortTransport V) (k : String) {newEntry : Py (Process V) PortEntry} (a : AddRequest)
    (serialSettings : Option SerialSettings) (p : Process V)
    (hnew : ∃ e p', newEntry.exec p = (.ok e, p') ∧ NewPort e p p')
    (hports : ∀ k e, p.manager.ports.get? k = some e → Serving p e) :
    Triple (· = p) (resolvePort U k newEntry a serialSettings)
      (fun r p' => r.1 = some k ∧ ∃ e, Resolved a k e r.2 p p') (fun _ => Unregistered p) := by
  rintro _ rfl
  rename_i p
  rw [resolvePort, exec_bind_ok (exec_get p)]
  cases he : p.manager.ports.get? k with
  | some e =>
      have hserving := hports k e he
      have hspec := openBalanceOnPort_spec U k e a serialSettings p
      dsimp only
      rcases hrun : (openBalanceOnPort U k e a serialSettings).exec p with ⟨x | b, p'⟩
      · rw [exec_bind_error hrun]
        have hfail := hspec.error rfl hrun
        obtain ⟨client, hclient, -⟩ := hserving.client
        have hports := hfail.reused (by rw [hclient]; rfl)
        have hmanager : p'.manager = p.manager := by
          calc p'.manager = ⟨p'.manager.devices, p'.manager.ports, p'.manager.closed⟩ := rfl
            _ = p.manager := by rw [hfail.works.devices, hports, hfail.works.closed]
        exact
          { hfail.works.toTouches.grows with
            manager := hmanager
            nextBalance := hfail.works.nextBalance
            balances := hfail.works.balances
            stays := hfail.works.toTouches.staysOpen
            fresh := fun t hle hlt =>
              absurd (hlt.trans_eq hfail.works.nextTransport) (Nat.not_lt.mpr hle) }
      · rw [exec_bind_ok hrun]
        exact ⟨rfl, e, (hspec.ok rfl hrun).resolved_found he hserving⟩
  | none =>
      obtain ⟨e, p₁, hentry, hport⟩ := hnew
      have hspec := openBalanceOnPort_spec U k e a serialSettings (p₁.setPorts (·.set k e))
      dsimp only
      rw [exec_bind_ok hentry, exec_bind_ok (exec_modify _ p₁), exec_bind, exec_tryCatch]
      rcases hrun : (openBalanceOnPort U k e a serialSettings).exec (p₁.setPorts (·.set k e)) with ⟨x | b, p₂⟩
      · have hfail := hspec.error rfl hrun
        have hserial : e.ownsTransport = true → (serialOpen (p₂.transports e.transport)).isSome := by
          intro howns
          refine hfail.works.serial ?_
          show (serialOpen (p₁.transports e.transport)).isSome
          rw [(hport.made howns).2.2]
          rfl
        obtain ⟨p₃, hteardown, htorn⟩ := maybeTeardownPort_spec U k e p₂ hserial
        dsimp only
        rw [exec_bind_ok hteardown]
        exact hfail.unregistered hport he htorn
      · exact ⟨rfl, (hspec.ok rfl hrun).resolved_made hport he⟩

theorem Resolved.registered (h : Resolved a k e b p p') (haccepts : Accepts p a) (hkey : a.portKey = some k)
    (hp : p'' = (p'.setDevices (·.set a.name { name := a.name, balance := b, portKey := some k })).setPorts
      (·.set k { e with refs := e.refs.insert a.name })) : Registered a k e b p p'' := by
  subst hp
  exact
    { retired := h.retired
      nextTransport := h.nextTransport
      nextClient := h.nextClient
      accepts := haccepts
      key := hkey
      devices := by
        show p'.manager.devices.set a.name _ = _
        rw [h.devices]
      ports := h.ports.2 _
      closed := h.closed
      origin := by
        cases h.origin with
        | found he hsame => exact .found he hsame
        | made he hrefs hnew hown hclient => exact .made he hrefs hnew hown hclient
      new := h.new
      others := h.others
      transport := h.transport
      holds := h.holds
      protocol := h.protocol
      live := h.live
      serving := ⟨h.serving.client, h.serving.transport, h.serving.serial⟩
      opens := h.opens
      stays := ⟨h.stays.serial, h.stays.opens⟩ }

theorem resolveSource_spec (U : PortTransport V) {a : AddRequest} {p : Process V} (hexists : a.source.Exists p)
    (hports : ∀ k e, p.manager.ports.get? k = some e → Serving p e) :
    Triple (· = p) (resolveSource U a)
      (fun r p' => (r.1 = none ∧ a.source = .balance r.2 ∧ p' = p) ∨
        ∃ k e, r.1 = some k ∧ a.portKey = some k ∧ Resolved a k e r.2 p p') (fun _ => Unregistered p) := by
  rw [resolveSource]
  cases hsource : a.source with
  | balance b =>
      rintro _ rfl
      exact .inl ⟨rfl, rfl, rfl⟩
  | path port =>
      refine (resolvePort_spec U _ a _ p (serialEntry_spec _ a _ p) hports).conseq (fun _ h => h)
        (fun r p' h => ?_) fun _ _ h => h
      obtain ⟨hkey, e, hresolved⟩ := h
      exact .inr ⟨_, e, hkey, by rw [AddRequest.portKey, hsource], hresolved⟩
  | transport t =>
      rw [hsource] at hexists
      refine (resolvePort_spec U _ a _ p ⟨_, p, rfl, ownEntry_spec hexists⟩ hports).conseq (fun _ h => h)
        (fun r p' h => ?_) fun _ _ h => h
      obtain ⟨hkey, e, hresolved⟩ := h
      exact .inr ⟨_, e, hkey, by rw [AddRequest.portKey, hsource], hresolved⟩

/-- The process with the entry of a new balance, which its port holds. -/
def Process.entered (name : String) (portKey : Option String) (b : Nat) (p : Process V) : Process V :=
  let p := p.setDevices (·.set name { name, balance := b, portKey })
  match portKey with
  | none => p
  | some k =>
      p.setPorts fun ports =>
        match ports.get? k with
        | none => ports
        | some e => ports.set k { e with refs := e.refs.insert name }

/-- `add` refuses before it has touched anything, or it resolves the source and enters the balance. -/
theorem exec_add (U : PortTransport V) (a : AddRequest) (p : Process V) :
    (∃ x, (add U a).exec p = (.error x, p)) ∨
      Accepts p a ∧ (add U a).exec p =
        match (resolveSource U a).exec p with
        | (.error x, p') => (.error x, p')
        | (.ok (portKey, b), p') => (.ok b, p'.entered a.name portKey b) := by
  rw [add, checkOpen, bind_assoc, exec_bind_ok (exec_get p)]
  by_cases hclosed : p.manager.closed = true
  · rw [if_pos hclosed]
    exact .inl ⟨_, rfl⟩
  rw [if_neg hclosed, exec_bind_ok (exec_pure _ p), exec_bind_ok (exec_get p)]
  by_cases hused : (p.manager.devices.get? a.name).isSome = true
  · rw [if_pos hused]
    exact .inl ⟨_, rfl⟩
  rw [if_neg hused]
  by_cases hsettings : a.serialSettings.isSome ∧ ¬ a.source.isPath
  · rw [if_pos hsettings]
    exact .inl ⟨_, rfl⟩
  rw [if_neg hsettings]
  refine .inr ⟨⟨by simpa using hclosed, Option.not_isSome_iff_eq_none.mp hused,
    fun hs => by simpa [hs] using hsettings⟩, ?_⟩
  rcases hrun : (resolveSource U a).exec p with ⟨x | ⟨portKey, b⟩, p'⟩
  · rw [exec_bind_error hrun]
  · rw [exec_bind_ok hrun]
    cases portKey <;> rfl

theorem add_spec (U : PortTransport V) {a : AddRequest} {p : Process V} (hexists : a.source.Exists p)
    (hports : ∀ k e, p.manager.ports.get? k = some e → Serving p e) :
    Triple (· = p) (add U a) (fun b p' => Prebuilt a b p p' ∨ ∃ k e, Registered a k e b p p')
      (fun _ => Unregistered p) := by
  rintro _ rfl
  rename_i p
  rcases exec_add U a p with ⟨x, hadd⟩ | ⟨haccepts, hadd⟩
  · rw [hadd]
    exact .refl p
  rw [hadd]
  have hspec := resolveSource_spec U hexists hports
  rcases hrun : (resolveSource U a).exec p with ⟨x | ⟨portKey, b⟩, p'⟩
  · exact hspec.error rfl hrun
  rcases hspec.ok rfl hrun with ⟨hkey, hsource, rfl⟩ | ⟨k, e, hkey, hport, hresolved⟩
  · obtain rfl : portKey = none := hkey
    exact .inl ⟨hsource, haccepts, rfl⟩
  · obtain rfl : portKey = some k := hkey
    refine .inr ⟨k, e, hresolved.registered haccepts hport ?_⟩
    have he : (p'.setDevices (·.set a.name { name := a.name, balance := b, portKey := some k })).manager.ports.get? k =
        some e := hresolved.ports.1
    simp only [Process.entered, Process.setPorts, he]

/-- Every device has its name, and a port that serves it unless it was built already. -/
structure Served (p : Process V) : Prop where
  names : (Dict.keys p.manager.devices).Nodup
  name : ∀ n d, p.manager.devices.get? n = some d → d.name = n
  port : ∀ n d k, p.manager.devices.get? n = some d → d.portKey = some k →
    ∃ e, p.manager.ports.get? k = some e ∧ Serving p e

theorem Dropped.devices {d : DeviceEntry} (h : Dropped d p p') :
    p'.manager.devices = p.manager.devices.pop d.name ∧ p'.manager.closed = p.manager.closed := by
  cases h with
  | solo hkey hp => rw [hp]; exact ⟨rfl, rfl⟩
  | kept k e hkey he hrefs hp => rw [hp]; exact ⟨rfl, rfl⟩
  | last k e hkey he hrefs htorn => exact ⟨htorn.devices, htorn.closed⟩

theorem remove_spec (U : PortTransport V) (name : String) {p : Process V} (hserved : Served p) :
    Triple (· = p) (remove U name) (fun _ p' => ∃ d, p.manager.devices.get? name = some d ∧ Dropped d p p')
      (fun _ p' => p' = p) := by
  rintro _ rfl
  rename_i p
  rw [remove, checkOpen, bind_assoc, exec_bind_ok (exec_get p)]
  by_cases hclosed : p.manager.closed = true
  · rw [if_pos hclosed]
    rfl
  rw [if_neg hclosed, exec_bind_ok (exec_pure _ p), exec_bind_ok (exec_get p)]
  cases hd : p.manager.devices.get? name with
  | none => rfl
  | some d =>
      obtain rfl := hserved.name name d hd
      obtain ⟨p', hrun, hdropped⟩ := teardownDevice_spec U d p fun k hkey => hserved.port d.name d k hd hkey
      dsimp only
      rw [exec_bind_ok (exec_modify _ p)]
      exact hrun ▸ ⟨d, rfl, hdropped⟩

/-- What the removal of one device keeps, the loop of `close` keeps. -/
theorem closeDevices_spec (U : PortTransport V) {I : Process V → Prop} (hserved : ∀ p, I p → Served p)
    (hdrop : ∀ p d p', I p → p.manager.devices.get? d.name = some d → Dropped d p p' → I p')
    {entries : List (String × DeviceEntry)} (hnames : (Dict.keys entries).Nodup) (hp : I p)
    (hentries : ∀ n d, (n, d) ∈ entries → p.manager.devices.get? n = some d) :
    ∃ p', (closeDevices U entries).exec p = (.ok (), p') ∧ I p' ∧ p'.manager.closed = p.manager.closed ∧
      ∀ n, p'.manager.devices.get? n = if n ∈ Dict.keys entries then none else p.manager.devices.get? n := by
  induction entries generalizing p with
  | nil => exact ⟨p, rfl, hp, rfl, fun _ => rfl⟩
  | cons entry entries ih =>
      obtain ⟨n, d⟩ := entry
      have hd : p.manager.devices.get? n = some d := hentries n d List.mem_cons_self
      obtain rfl := (hserved p hp).name n d hd
      obtain ⟨p₁, hrun, hdropped⟩ := teardownDevice_spec U d p fun k hkey => (hserved p hp).port d.name d k hd hkey
      rw [Dict.keys_cons, List.nodup_cons] at hnames
      have hlater : ∀ n d', (n, d') ∈ entries → p₁.manager.devices.get? n = some d' := by
        intro n d' hmem
        have hne : n ≠ d.name := by
          rintro rfl
          exact hnames.1 (Dict.mem_keys hmem)
        rw [hdropped.devices.1, Dict.get?_pop, if_neg hne]
        exact hentries n d' (List.mem_cons_of_mem _ hmem)
      obtain ⟨p₂, hrun₂, hp₂, hclosed, hdevices⟩ := ih hnames.2 (hdrop p d p₁ hp hd hdropped) hlater
      refine ⟨p₂, ?_, hp₂, hclosed.trans hdropped.devices.2, fun n => ?_⟩
      · rw [closeDevices, exec_bind_ok (exec_modify _ p), exec_bind, exec_exceptException, hrun]
        exact hrun₂
      · rw [hdevices n, hdropped.devices.1, Dict.get?_pop, Dict.keys_cons]
        by_cases hn : n = d.name
        · simp [hn]
        · simp [hn]

/-- The process after `close`. -/
def setClosed (p : Process V) : Process V := { p with manager := { p.manager with closed := true } }

/-- `close` takes every device out, once. -/
theorem close_spec (U : PortTransport V) {I : Process V → Prop} (hserved : ∀ p, I p → Served p)
    (hdrop : ∀ p d p', I p → p.manager.devices.get? d.name = some d → Dropped d p p' → I p') (hp : I p) :
    ((close U).exec p).2 = p ∨
      ∃ q, ((close U).exec p).2 = setClosed q ∧ I q ∧ ∀ n, q.manager.devices.get? n = none := by
  have hnames := (hserved p hp).names
  have hkeys : Dict.keys p.manager.devices.reverse = (Dict.keys p.manager.devices).reverse := List.map_reverse ..
  have hreverse : (Dict.keys p.manager.devices.reverse).Nodup := by rwa [hkeys, List.nodup_reverse]
  obtain ⟨q, hrun, hq, -, hdevices⟩ := closeDevices_spec U hserved hdrop hreverse hp
    fun n d hmem => Dict.get?_of_mem hnames (List.mem_reverse.mp hmem)
  rw [close, exec_bind_ok (exec_get p)]
  by_cases hclosed : p.manager.closed = true
  · rw [if_pos hclosed]
    exact .inl rfl
  · rw [if_neg hclosed, exec_bind_ok hrun]
    refine .inr ⟨q, rfl, hq, fun n => ?_⟩
    rw [hdevices n, hkeys]
    by_cases hn : n ∈ (Dict.keys p.manager.devices).reverse
    · exact if_pos hn
    · rwa [if_neg hn, Dict.get?_eq_none_iff, ← List.mem_reverse]

end SartoriusLib.Manager
