import SartoriusLib.Devices.Confirm
import SartoriusLib.Devices.Frame
import SartoriusLib.Manager.Registry

/-!
# What opening a balance can do

Whatever happens while a balance is opened on a port, nobody else's balance, transport or registration is
touched, and no serial port that was open is closed.
-/

namespace SartoriusLib

open Lib Prog

/-! ## No identification makes a client -/

theorem apart_nextId {W : Type} : Apart fun h : Host W => h.nextId where
  world _ _ := rfl
  sbi _ _ := rfl
  availability _ _ := rfl
  warnedPriors _ _ := rfl
  resultCache _ _ := rfl
  log _ _ _ := rfl
  warnings _ _ := rfl

theorem Balance.identify_nextId {W : Type} (T : Transport W) :
    Leaves (fun h : Host W => h.nextId) (Balance.identify T) := by
  have hsettle : ∀ (family : BalanceFamily) (capabilities : Capability),
      Leaves (fun h : Host W => h.nextId) (modifySession (·.updateIdentity family capabilities)) :=
    fun _ _ _ => rfl
  have hend : ∀ info : DeviceInfo, Leaves (fun h : Host W => h.nextId) (do
      modify fun h : Host W => { h with info := some info }
      pure info : Py (Host W) DeviceInfo) := fun _ => Leaves.bind (.modify fun _ => rfl) fun _ => .pure _
  refine Leaves.get.bind fun _ => .ite (fun _ => ?_) fun _ => ?_
  · exact (apart_nextId.execute _ _ _ _).bind fun _ => (apart_nextId.execute _ _ _ _).bind fun _ =>
      (apart_nextId.execute _ _ _ _).bind fun _ => (hsettle _ _).bind fun _ => Leaves.get.bind fun _ => hend _
  · exact (apart_nextId.execute _ _ _ _).bind fun _ => (apart_nextId.execute _ _ _ _).bind fun _ =>
      (apart_nextId.execute _ _ _ _).bind fun _ => (apart_nextId.execute _ _ _ _).bind fun _ =>
        (apart_nextId.execute _ _ _ _).bind fun _ => apart_nextId.probeDispatchCapabilities.bind fun _ =>
          (hsettle _ _).bind fun _ => apart_nextId.metrology.bind fun _ => Leaves.get.bind fun _ => hend _

/-! ## A disposed client answers nothing -/

section Retired

variable {W Req Resp α : Type} {T : Transport W}

/-- Whatever clients the session has, they are disposed. -/
def Retired (h : Host W) : Prop :=
  (∀ c ∈ h.session.xbpi, c.disposed = true) ∧ ∀ c ∈ h.session.sbi, c.disposed = true

/-- From `P` on, the program raises. -/
abbrev Raises (P : Host W → Prop) (m : Py (Host W) α) : Prop := Triple P m (fun _ _ => False) fun _ _ => True

theorem raises_throw {P : Host W → Prop} (e : Exc) : Raises P (throw e : Py (Host W) α) := fun _ _ => trivial

theorem Raises.bind {β : Type} {P : Host W → Prop} {m : Py (Host W) α} (hm : Raises P m)
    (f : α → Py (Host W) β) : Raises P (m >>= f) :=
  Triple.bind hm fun _ _ hs => hs.elim

theorem xbpiRefused_raises (command : Command Req Resp) (e : Exc) :
    Raises (fun _ => True) (xbpiRefused command e : Py (Host W) α) := by
  intro h _
  cases e with
  | sartorius err =>
      unfold xbpiRefused
      dsimp only
      split_ifs <;> trivial
  | _ => trivial

theorem executeXbpi_raises (command : Command Req Resp) (request : Req) (timeout : Option Rat) :
    Raises Retired (executeXbpi T command request timeout) := by
  refine Triple.get_bind fun h hh => ?_
  cases command.xbpi with
  | none => exact raises_throw _
  | some variant =>
      dsimp only
      cases hclient : h.session.xbpi with
      | none => exact raises_throw _
      | some client =>
          dsimp only
          cases variant.encode h.session.context request with
          | error e => exact raises_throw e
          | ok data =>
              have hexchange : Triple (· = h) (onWorld (Xbpi.executeLocked T client.disposed data
                  (timeout.getD h.session.defaultTimeout) command.name (some variant.opcode)))
                  (fun _ _ => False) fun _ _ => True := by
                rintro _ -
                rw [onWorld, exec_zoom, Xbpi.executeLocked, if_pos (hh.1 client hclient)]
                trivial
              exact (hexchange.tryCatch fun e => xbpiRefused_raises command e).bind fun _ _ hs => hs.elim

theorem executeSbi_raises (command : Command Req Resp) (request : Req) (timeout : Option Rat) :
    Raises Retired (executeSbi T command request timeout) := by
  refine Triple.get_bind fun h hh => ?_
  cases command.sbi with
  | none => exact raises_throw _
  | some variant =>
      dsimp only
      cases hclient : h.session.sbi with
      | none => exact raises_throw _
      | some client =>
          dsimp only
          cases variant.encode h.session.context request with
          | error e => exact raises_throw e
          | ok data =>
              have hcall : Raises (fun _ => True) (onSbi client (Sbi.execute T data
                  (timeout.getD h.session.defaultTimeout) command.name (some variant.token) variant.expectLines)) := by
                intro s _
                rw [onSbi, exec_ofFun, Sbi.execute]
                by_cases hlines : variant.expectLines < 0
                · rw [if_pos hlines]
                  trivial
                · rw [if_neg hlines, Sbi.executeLocked,
                    exec_bind_error (Sbi.raiseIfDisposed_disposed (hh.2 client hclient) _ _)]
                  trivial
              have hexchange : Raises (· = h) (sbiExchange T client data (timeout.getD h.session.defaultTimeout)
                  command.name variant.token variant.expectLines) := by
                refine Triple.get_bind fun s _ => ?_
                split
                · exact raises_throw _
                · exact (hcall.conseq (fun _ _ => trivial) (fun _ _ => id) fun _ _ => id).bind fun _ _ hs => hs.elim
              exact hexchange.bind _

/-- A command of a session whose clients are disposed raises. -/
theorem execute_raises (command : Command Req Resp) (request : Req) (confirm : Bool) (timeout : Option Rat) :
    Raises Retired (execute T command request confirm timeout) := by
  have hcheck : ∀ x : Except SartoriusError Unit, Triple (Retired (W := W)) (liftExcept x) (fun _ => Retired)
      fun _ _ => True := by
    intro x
    cases x with
    | error e => exact fun _ _ => trivial
    | ok u => exact fun _ hh => hh
  have hpriors : Keeps (Retired (W := W)) (gatePriors command) :=
    Keeps.get.bind fun _ => .ite (fun _ => .pure _) fun _ => .ite (fun _ => .throw _) fun _ =>
      .ite (fun _ => .pure _) fun _ => Keeps.bind (.modify fun _ hh => hh) fun _ =>
        Keeps.get.bind fun _ => .ite (fun _ => .throw _) fun _ => .pure _
  refine Triple.get_bind fun h hh => ?_
  refine Triple.conseq (P := Retired) ?_ (by rintro _ rfl; exact hh) (fun _ _ => id) fun _ _ => id
  refine (hcheck _).bind fun _ => (hcheck _).bind fun _ => (hcheck _).bind fun _ => (hcheck _).bind fun _ =>
    (hpriors.triple.conseq (fun _ => id) (fun _ _ => id) fun _ _ _ => trivial).bind fun _ => ?_
  cases h.session.active with
  | xbpi => exact executeXbpi_raises _ _ _
  | sbi => exact executeSbi_raises _ _ _
  | auto => exact raises_throw _

theorem Balance.identify_raises : Raises Retired (Balance.identify T) := by
  refine Triple.get_bind fun h hh => ?_
  have hmodel : Raises (· = h) (execute T Commands.READ_MODEL () false none) :=
    (execute_raises _ _ _ _).conseq (by rintro _ rfl; exact hh) (fun _ _ => id) fun _ _ => id
  dsimp only
  split
  · exact Raises.bind hmodel _
  · exact Raises.bind hmodel _

end Retired

/-! ## Serial ports stay as open as they are -/

namespace SerialTransport

theorem requirePort_isOpen : Leaves (·.isOpen) requirePort :=
  Leaves.get.bind fun _ => .ite (fun _ => .pure _) fun _ => .throw _

theorem readWith_isOpen (enough : Bytes → Bool) (take : Bytes → Nat) (onTimeout : SerialState → Bytes → Exc) :
    Leaves (·.isOpen) (readWith enough take onTimeout) := by
  refine requirePort_isOpen.bind fun _ s => ?_
  rw [exec_ofFun]
  rcases receiveLoop enough s.pushback (phase s) with ⟨stop, buf, rest⟩
  cases stop <;> rfl

theorem write_isOpen (data : Bytes) (timeout : Rat) : Leaves (·.isOpen) (write data timeout) := by
  refine requirePort_isOpen.bind fun _ s => ?_
  rw [exec_ofFun]
  cases s.sends.headD .ok <;> rfl

theorem readExact_isOpen (n : Nat) (timeout : Rat) : Leaves (·.isOpen) (readExact n timeout) :=
  .ite (fun _ => requirePort_isOpen.bind fun _ => .pure _) fun _ => readWith_isOpen _ _ _

end SerialTransport

namespace Manager

variable {V : Type} {U : PortTransport V}

/-- Whether a serial port is open; a transport of the caller's class is none. -/
def serialOpen : SerialState ⊕ V → Option Bool := Sum.elim (fun s => some s.isOpen) fun _ => none

theorem onEither_serialOpen {α : Type} {serial : Py SerialState α} (hserial : Leaves (·.isOpen) serial)
    (own : Py V α) : Leaves serialOpen (onEither serial own) := by
  intro w
  cases w with
  | inl s => exact congrArg some (hserial s)
  | inr v => rfl

theorem eitherPort_keeps (U : PortTransport V) (v : Option Bool) (p : ProtocolKind) :
    (eitherPort U).toTransport.Keeps (fun w => serialOpen w = v) p where
  write _ timeout := (onEither_serialOpen (SerialTransport.write_isOpen _ timeout) _).keeps v
  readExact n timeout := (onEither_serialOpen (SerialTransport.readExact_isOpen n timeout) _).keeps v
  readUntil _ _ := (onEither_serialOpen (SerialTransport.readWith_isOpen _ _ _) _).keeps v
  drainInput := (onEither_serialOpen (fun _ => rfl : Leaves (·.isOpen) SerialTransport.drainInput) _).keeps v

/-! ## Work on one port -/

/-- From `p` to `p'` there was work on the transport `t`. -/
structure Touches (t : Nat) (p p' : Process V) : Prop where
  devices : p'.manager.devices = p.manager.devices
  closed : p'.manager.closed = p.manager.closed
  retired : p'.retired = p.retired
  nextTransport : p'.nextTransport = p.nextTransport
  nextClient : p.nextClient ≤ p'.nextClient
  others : ∀ t', t' ≠ t → serialOpen (p'.transports t') = serialOpen (p.transports t')
  serial : (serialOpen (p.transports t)).isSome → (serialOpen (p'.transports t)).isSome
  stays : serialOpen (p.transports t) = some true → serialOpen (p'.transports t) = some true

/-- ... and no balance has changed or come into being. -/
structure Works (t : Nat) (p p' : Process V) : Prop extends Touches t p p' where
  nextBalance : p'.nextBalance = p.nextBalance
  balances : p'.balances = p.balances

section Relations

variable {t : Nat} {p p' p'' : Process V}

theorem Touches.refl (t : Nat) (p : Process V) : Touches t p p :=
  ⟨rfl, rfl, rfl, rfl, le_rfl, fun _ _ => rfl, id, id⟩

theorem Touches.trans (h : Touches t p p') (h' : Touches t p' p'') : Touches t p p'' where
  devices := h'.devices.trans h.devices
  closed := h'.closed.trans h.closed
  retired := h'.retired.trans h.retired
  nextTransport := h'.nextTransport.trans h.nextTransport
  nextClient := h.nextClient.trans h'.nextClient
  others t' ht := (h'.others t' ht).trans (h.others t' ht)
  serial hsome := h'.serial (h.serial hsome)
  stays hopen := h'.stays (h.stays hopen)

theorem Works.refl (t : Nat) (p : Process V) : Works t p p := ⟨.refl t p, rfl, rfl⟩

theorem Works.trans (h : Works t p p') (h' : Works t p' p'') : Works t p p'' :=
  ⟨h.toTouches.trans h'.toTouches, h'.nextBalance.trans h.nextBalance, h'.balances.trans h.balances⟩

end Relations

/-! ## An identification -/

theorem current_frame (p : Process V) (s : Session) : (p.current s).frame = s.frame := by
  simp only [Process.current, Session.frame, Session.Frame.mk.injEq, true_and, Option.map_map]
  exact ⟨rfl, rfl, trivial⟩

/-- A serial port has a new world. -/
theorem works_update {t : Nat} {p p' : Process V} {w : SerialState ⊕ V}
    (hp : p' = { p with transports := Function.update p.transports t w, sbiClients := p'.sbiClients })
    (hserial : (serialOpen (p.transports t)).isSome → (serialOpen w).isSome)
    (hstays : serialOpen (p.transports t) = some true → serialOpen w = some true) : Works t p p' := by
  rw [hp]
  refine ⟨⟨rfl, rfl, rfl, rfl, le_rfl, fun t' ht => ?_, ?_, ?_⟩, rfl, rfl⟩
  · simp [ht]
  · simpa using hserial
  · simpa using hstays

/-- An identification of a new balance changes nothing else. -/
theorem onNewBalance_identify (U : PortTransport V) (balance : Balance) (p : Process V) :
    Triple (· = p) (onNewBalance balance (SartoriusLib.Balance.identify (eitherPort U).toTransport))
      (fun balance' p' => Works balance.transport p p' ∧ p'.manager = p.manager ∧
        balance'.transport = balance.transport ∧ balance'.session.frame = balance.session.frame)
      (fun _ p' => Works balance.transport p p' ∧ p'.manager = p.manager) := by
  have hkeeps : Keeps (AtFrame (p.hostOf balance).session.frame (p.hostOf balance).retired
      fun w => serialOpen w = serialOpen (p.hostOf balance).world) _ :=
    SartoriusLib.Balance.identify_keeps (eitherPort_keeps U _ _)
  obtain ⟨hsession, hretired, hopen⟩ := hkeeps (p.hostOf balance) ⟨rfl, rfl, rfl⟩
  have hid := SartoriusLib.Balance.identify_nextId (eitherPort U).toTransport (p.hostOf balance)
  rintro _ rfl
  rename_i p
  rw [onNewBalance, exec_ofFun]
  rcases hrun : (SartoriusLib.Balance.identify (eitherPort U).toTransport).exec (p.hostOf balance) with ⟨result, h⟩
  simp only [hrun] at hsession hretired hopen hid
  have hworks : Works balance.transport p (p.store balance.transport h) := by
    have hopen : serialOpen h.world = serialOpen (p.transports balance.transport) := hopen
    have hid : h.nextId = p.nextClient := hid
    have hretired : h.retired = p.retired := hretired
    refine works_update (w := h.world) ?_ (fun hsome => by rwa [hopen]) fun hopen' => by rwa [hopen]
    rw [Process.store, hretired, hid]
  cases result with
  | error e => exact ⟨hworks, rfl⟩
  | ok info => exact ⟨hworks, rfl, rfl, hsession.trans (current_frame p _)⟩

/-! ## Opening the transport -/

theorem openPort_serialOpen {w : SerialState ⊕ V} :
    ((serialOpen w).isSome → (serialOpen ((eitherPort U).openPort.exec w).2).isSome) ∧
      (serialOpen w = some true → serialOpen ((eitherPort U).openPort.exec w).2 = some true) ∧
      ((serialOpen w).isSome → ∀ u w', (eitherPort U).openPort.exec w = (.ok u, w') → serialOpen w' = some true) := by
  cases w with
  | inr v => exact ⟨(by cases ·), (by cases ·), (by cases ·)⟩
  | inl s =>
      have hexec : (eitherPort U).openPort.exec (.inl s) =
          ((SerialTransport.openPort.exec s).1, .inl (SerialTransport.openPort.exec s).2) := rfl
      rw [hexec, SerialTransport.openPort, exec_bind_ok (exec_get s)]
      cases hopen : s.isOpen with
      | true =>
          refine ⟨fun _ => rfl, fun _ => ?_, fun _ u w' h => by cases h⟩
          simp [serialOpen, hopen]
      | false =>
          refine ⟨fun _ => rfl, fun h => by simp [serialOpen, hopen] at h, fun _ u w' h => ?_⟩
          simp only [Bool.false_eq_true, if_false, exec_ofFun] at h
          cases hout : s.opens.headD .ok <;> rw [hout] at h <;> cases h
          rfl

theorem ensureOpen_spec (U : PortTransport V) (t : Nat) (p : Process V) :
    Triple (· = p) (ensureOpen U t)
      (fun _ p' => Works t p p' ∧ p'.manager = p.manager ∧
        ((serialOpen (p.transports t)).isSome → serialOpen (p'.transports t) = some true))
      (fun _ p' => Works t p p' ∧ p'.manager = p.manager) := by
  rintro _ rfl
  rename_i p
  rw [ensureOpen, exec_bind_ok (exec_get p)]
  by_cases hopen : (eitherPort U).isOpen (p.transports t) = true
  · rw [if_pos hopen]
    refine ⟨.refl t p, rfl, fun hsome => ?_⟩
    cases hw : p.transports t with
    | inl s => rw [hw] at hopen; exact congrArg some hopen
    | inr v => rw [hw] at hsome; cases hsome
  · rw [if_neg hopen, onPort, exec_zoom]
    obtain ⟨hserial, hstays, hopens⟩ := openPort_serialOpen (U := U) (w := p.transports t)
    rcases hrun : (eitherPort U).openPort.exec (p.transports t) with ⟨e | u, w⟩
    · rw [hrun] at hserial hstays
      exact ⟨works_update rfl hserial hstays, rfl⟩
    · rw [hrun] at hserial hstays
      refine ⟨works_update rfl hserial hstays, rfl, fun hsome => ?_⟩
      dsimp only
      rw [Function.update_self]
      exact hopens hsome u w hrun

/-! ## The client of the port -/

def Client.protocol : Client → ProtocolKind
  | .xbpi _ => .xbpi
  | .sbi _ => .sbi

def Client.id : Client → Nat
  | .xbpi c => c.id
  | .sbi c => c.id

/-- The session dispatches through the client, and has no other one. -/
structure Holds (client : Client) (s : Session) : Prop where
  active : s.active = client.protocol
  xbpi : s.xbpi.map (·.id) = if client.protocol = .xbpi then some client.id else none
  sbi : s.sbi.map (·.id) = if client.protocol = .sbi then some client.id else none

theorem Holds.of_frame {client : Client} {s s' : Session} (h : Holds client s) (hs : s'.frame = s.frame) :
    Holds client s' where
  active := (congrArg Session.Frame.active hs).trans h.active
  xbpi := (congrArg Session.Frame.xbpi hs).trans h.xbpi
  sbi := (congrArg Session.Frame.sbi hs).trans h.sbi

/-- A session that can be built speaks the protocol of the client that it is given. -/
theorem newSession_ok {client : Client} {a : AddRequest} {settings : SerialSettings} {s : Session}
    (h : newSession (sessionOn client a settings) = .ok s) : client.protocol = a.protocol ∧ Holds client s := by
  unfold newSession at h
  split_ifs at h with hauto hxbpi hsbi
  obtain rfl := Except.ok.inj h
  cases client with
  | xbpi c =>
      cases hp : a.protocol <;> simp [sessionOn, hp] at hauto hxbpi hsbi
      exact ⟨rfl, by simp [sessionOn, Client.protocol, hp], by simp [sessionOn, Client.protocol, Client.id, hp],
        by simp [sessionOn, Client.protocol]⟩
  | sbi c =>
      cases hp : a.protocol <;> simp [sessionOn, hp] at hauto hxbpi hsbi
      exact ⟨rfl, by simp [sessionOn, Client.protocol, hp], by simp [sessionOn, Client.protocol],
        by simp [sessionOn, Client.protocol, Client.id, hp]⟩

/-- The client that a port gives to a new balance: the one that it has, or a new one. -/
inductive Supplies (portKey : String) (e : PortEntry) (a : AddRequest) (p p' : Process V) (client : Client) : Prop where
  | shared (hclient : e.client = some client) (hports : p'.manager.ports = p.manager.ports)
  | made (hclient : e.client = none)
      (hports : p'.manager.ports = p.manager.ports.set portKey { e with client, protocol := some a.protocol })
      (hid : p.nextClient ≤ client.id ∧ client.id < p'.nextClient)

section Opening

variable {portKey : String} {e : PortEntry} {a : AddRequest} {b : Nat} {client : Client} {p p' p'' : Process V}

theorem Supplies.later (h : Supplies portKey e a p p' client) (hports : p''.manager.ports = p'.manager.ports)
    (hid : p'.nextClient ≤ p''.nextClient) : Supplies portKey e a p p'' client := by
  cases h with
  | shared hclient hp => exact .shared hclient (hports.trans hp)
  | made hclient hp hnew => exact .made hclient (hports.trans hp) ⟨hnew.1, hnew.2.trans_le hid⟩

theorem newClient_spec (t : Nat) (a : AddRequest) (p : Process V) :
    ∃ client p', (newClient a).exec p = (.ok client, p') ∧ Works t p p' ∧ p'.manager = p.manager ∧
      client.id = p.nextClient ∧ p'.nextClient = p.nextClient + 1 := by
  have hworks : ∀ sbiClients, Works t p { p with nextClient := p.nextClient + 1, sbiClients } :=
    fun _ => ⟨⟨rfl, rfl, rfl, rfl, Nat.le_succ _, fun _ _ => rfl, id, id⟩, rfl, rfl⟩
  rw [newClient, exec_bind_ok (exec_get p), exec_bind_ok (exec_modify _ p)]
  split
  · exact ⟨_, _, rfl, hworks p.sbiClients, rfl, rfl, rfl⟩
  · exact ⟨_, _, rfl, hworks _, rfl, rfl, rfl⟩

theorem sharedClient_spec (t : Nat) (portKey : String) (e : PortEntry) (a : AddRequest) (p : Process V) :
    ∃ client p', (sharedClient portKey e a).exec p = (.ok client, p') ∧ Works t p p' ∧
      Supplies portKey e a p p' client := by
  unfold sharedClient
  cases hclient : e.client with
  | some client => exact ⟨client, p, rfl, .refl t p, .shared hclient rfl⟩
  | none =>
      obtain ⟨client, p₁, hrun, hworks, hmanager, hid, hnext⟩ := newClient_spec t a p
      dsimp only
      rw [exec_bind_ok hrun]
      refine ⟨client, _, rfl, hworks.trans ⟨⟨rfl, rfl, rfl, rfl, le_rfl, fun _ _ => rfl, id, id⟩, rfl, rfl⟩,
        .made hclient ?_ ⟨hid.ge, ?_⟩⟩
      · show p₁.manager.ports.set portKey _ = _
        rw [hmanager]
      · show client.id < p₁.nextClient
        omega

/-! ## The balance on the port -/

/-- The new balance `b` is on the transport `t`, and holds `client`. -/
structure Built (t : Nat) (client : Client) (p : Process V) (b : Nat) (p' : Process V) : Prop where
  touches : Touches t p p'
  manager : p'.manager = p.manager
  new : b = p.nextBalance ∧ p'.nextBalance = b + 1
  others : ∀ b', b' ≠ b → p'.balances b' = p.balances b'
  transport : (p'.balances b).transport = t
  holds : Holds client (p'.balances b).session

variable {t : Nat} {balance : Balance}

theorem newBalance_spec (hworks : Works t p p') (hmanager : p'.manager = p.manager)
    (ht : balance.transport = t) (hholds : Holds client balance.session) :
    ∃ p'', (newBalance balance).exec p' = (.ok p.nextBalance, p'') ∧ Built t client p p.nextBalance p'' := by
  rw [← hworks.nextBalance]
  refine ⟨_, rfl, hworks.toTouches.trans ⟨rfl, rfl, rfl, rfl, le_rfl, fun _ _ => rfl, id, id⟩, hmanager,
    ⟨hworks.nextBalance, rfl⟩, fun b' hb => ?_, ?_, ?_⟩
  · rw [← hworks.balances]
    exact Function.update_of_ne hb _ _
  · simpa using ht
  · simpa using hholds

/-- A session that holds a disposed client holds no other one. -/
theorem retired_hostOf (h : Holds client balance.session) (hretired : client.id ∈ p.retired) :
    Retired (p.hostOf balance) := by
  have hxbpi : ∀ c ∈ balance.session.xbpi, c.id = client.id := by
    intro c hc
    have := h.xbpi
    rw [Option.mem_def.mp hc] at this
    split at this <;> simp_all
  have hsbi : ∀ c ∈ balance.session.sbi, c.id = client.id := by
    intro c hc
    have := h.sbi
    rw [Option.mem_def.mp hc] at this
    split at this <;> simp_all
  constructor
  · intro c hc
    obtain ⟨c₀, hc₀, rfl⟩ := Option.map_eq_some_iff.mp hc
    simpa [hxbpi c₀ hc₀] using hretired
  · intro c hc
    obtain ⟨c₀, hc₀, rfl⟩ := Option.map_eq_some_iff.mp hc
    simpa [hsbi c₀ hc₀] using hretired

/-- Behind a disposed client nothing is identified. -/
theorem onNewBalance_raises (U : PortTransport V) (h : Holds client balance.session)
    (hretired : client.id ∈ p.retired) :
    Triple (· = p) (onNewBalance balance (SartoriusLib.Balance.identify (eitherPort U).toTransport))
      (fun _ _ => False) fun _ _ => True := by
  rintro _ rfl
  have hraises := SartoriusLib.Balance.identify_raises (T := (eitherPort U).toTransport) _
    (retired_hostOf h hretired)
  rw [onNewBalance, exec_ofFun]
  rename_i p
  rcases hrun : (SartoriusLib.Balance.identify (eitherPort U).toTransport).exec (p.hostOf balance) with ⟨e | info, h'⟩
  · trivial
  · rw [hrun] at hraises
    exact hraises

theorem buildBalance_spec (U : PortTransport V) (t : Nat) (client : Client) (a : AddRequest)
    (settings : SerialSettings) (p : Process V) :
    Triple (· = p) (buildBalance U t client a settings)
      (fun b p' => Built t client p b p' ∧ client.protocol = a.protocol ∧
        (a.identify = true → client.id ∉ p.retired))
      (fun _ p' => Works t p p' ∧ p'.manager = p.manager) := by
  rintro _ rfl
  rename_i p
  rw [buildBalance]
  cases hsession : newSession (sessionOn client a settings) with
  | error x => exact ⟨.refl t p, rfl⟩
  | ok session =>
      obtain ⟨hprotocol, hholds⟩ := newSession_ok hsession
      rw [exec_bind_ok (exec_liftExcept_ok session p)]
      dsimp only
      by_cases hidentify : a.identify = true
      · have hspec := onNewBalance_identify U { transport := t, session } p
        rw [if_pos hidentify]
        rcases hrun : (onNewBalance { transport := t, session }
          (SartoriusLib.Balance.identify (eitherPort U).toTransport)).exec p with ⟨x | balance, p'⟩
        · rw [exec_bind_error hrun]
          exact hspec.error rfl hrun
        · obtain ⟨hworks, hmanager, ht, hframe⟩ := hspec.ok rfl hrun
          obtain ⟨p'', hnew, hbuilt⟩ := newBalance_spec hworks hmanager ht (hholds.of_frame hframe)
          rw [exec_bind_ok hrun, hnew]
          exact ⟨hbuilt, hprotocol, fun _ hretired => (onNewBalance_raises U hholds hretired).ok rfl hrun⟩
      · obtain ⟨p', hnew, hbuilt⟩ := newBalance_spec (.refl t p) rfl
          (show Balance.transport { transport := t, session } = t from rfl) hholds
        rw [if_neg hidentify, hnew]
        exact ⟨hbuilt, hprotocol, fun h => absurd h hidentify⟩

/-- The new balance `b` is on the port `portKey`, whose entry was `e`. -/
structure Opened (portKey : String) (e : PortEntry) (a : AddRequest) (p : Process V) (b : Nat) (p' : Process V) :
    Prop where
  touches : Touches e.transport p p'
  new : b = p.nextBalance ∧ p'.nextBalance = b + 1
  others : ∀ b', b' ≠ b → p'.balances b' = p.balances b'
  opens : (serialOpen (p.transports e.transport)).isSome → serialOpen (p'.transports e.transport) = some true
  transport : (p'.balances b).transport = e.transport
  protocol : ∀ k ∈ e.protocol, k = a.protocol
  client : ∃ client, Supplies portKey e a p p' client ∧ Holds client (p'.balances b).session ∧
    client.protocol = a.protocol ∧ (a.identify = true → client.id ∉ p.retired)

/-- What a failure leaves of the port. -/
structure Abandoned (portKey : String) (e : PortEntry) (p p' : Process V) : Prop where
  works : Works e.transport p p'
  ports : p'.manager.ports.pop portKey = p.manager.ports.pop portKey
  reused : e.client.isSome → p'.manager.ports = p.manager.ports

theorem Abandoned.of_ports (ht : Works e.transport p p') (hmanager : p'.manager = p.manager) :
    Abandoned portKey e p p' :=
  ⟨ht, by rw [hmanager], fun _ => by rw [hmanager]⟩

theorem Supplies.abandoned (h : Supplies portKey e a p p' client) (ht : Works e.transport p p') :
    Abandoned portKey e p p' := by
  cases h with
  | shared hclient hports => exact ⟨ht, by rw [hports], fun _ => hports⟩
  | made hclient hports hid =>
      exact ⟨ht, by rw [hports, Dict.pop_set_self], fun hsome => by rw [hclient] at hsome; cases hsome⟩

theorem openBalanceOnPort_spec (U : PortTransport V) (portKey : String) (e : PortEntry) (a : AddRequest)
    (serialSettings : Option SerialSettings) (p : Process V) :
    Triple (· = p) (openBalanceOnPort U portKey e a serialSettings) (Opened portKey e a p)
      (fun _ => Abandoned portKey e p) := by
  rintro _ rfl
  rename_i p
  rw [openBalanceOnPort]
  by_cases hauto : a.protocol = .auto
  · rw [if_pos hauto]
    exact .of_ports (.refl _ p) rfl
  rw [if_neg hauto]
  rcases hopen : (ensureOpen U e.transport).exec p with ⟨x | ⟨⟩, p₁⟩
  · obtain ⟨ht, hmanager⟩ := (ensureOpen_spec U e.transport p).error rfl hopen
    rw [exec_bind_error hopen]
    exact .of_ports ht hmanager
  obtain ⟨ht, hmanager, hopens⟩ := (ensureOpen_spec U e.transport p).ok rfl hopen
  rw [exec_bind_ok hopen]
  by_cases hmix : e.protocol.any (· ≠ a.protocol) = true
  · rw [if_pos hmix]
    exact .of_ports ht hmanager
  rw [if_neg hmix]
  have hprotocol : ∀ k ∈ e.protocol, k = a.protocol := by
    intro k hk
    rw [Option.mem_def.mp hk] at hmix
    simpa using hmix
  obtain ⟨client, p₂, hrun, ht', hsupplies⟩ := sharedClient_spec e.transport portKey e a p₁
  replace hsupplies : Supplies portKey e a p p₂ client := by
    cases hsupplies with
    | shared hclient hports => exact .shared hclient (by rw [hports, hmanager])
    | made hclient hports hid =>
        exact .made hclient (by rw [hports, hmanager]) ⟨ht.nextClient.trans hid.1, hid.2⟩
  rw [exec_bind_ok hrun, exec_bind_ok (exec_get p₂)]
  have hbuild := buildBalance_spec U e.transport client a
    (serialSettings.getD { port := (eitherPort U).label (p₂.transports e.transport) }) p₂
  have ht₂ := ht.trans ht'
  dsimp only
  rcases hrun : (buildBalance U e.transport client a
    (serialSettings.getD { port := (eitherPort U).label (p₂.transports e.transport) })).exec p₂ with ⟨x | b, p₃⟩
  · obtain ⟨ht₃, hmanager₃⟩ := hbuild.error rfl hrun
    exact (hsupplies.later (congrArg _ hmanager₃) ht₃.nextClient).abandoned (ht₂.trans ht₃)
  · obtain ⟨hbuilt, hrequested, hlive⟩ := hbuild.ok rfl hrun
    exact
      { touches := ht₂.toTouches.trans hbuilt.touches
        new := ⟨hbuilt.new.1.trans ht₂.nextBalance, hbuilt.new.2⟩
        others := fun b' hb => (hbuilt.others b' hb).trans (congrFun ht₂.balances b')
        opens := fun hsome => hbuilt.touches.stays (ht'.stays (hopens hsome))
        transport := hbuilt.transport
        protocol := hprotocol
        client := ⟨client, hsupplies.later (congrArg _ hbuilt.manager) hbuilt.touches.nextClient, hbuilt.holds,
          hrequested, fun hidentify => by rw [← ht₂.retired]; exact hlive hidentify⟩ }

end Opening

end Manager

end SartoriusLib
