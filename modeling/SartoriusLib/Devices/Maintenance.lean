import SartoriusLib.Devices.Identity
import SartoriusLib.Devices.ReadOnly
import SartoriusLib.Devices.Scoped
import SartoriusLib.Devices.Switching

/-!
# The maintenance helpers

`switch_protocol`, `set_baud_rate` and `write_sbn_address` open a port, change one thing and close the port again.
The change is at most one request; everything else that the line sees of them is read-only.
-/

namespace SartoriusLib

open Lib Prog Factory

variable {W : Type}

namespace Maintenance

/-- The arguments that the helpers share; `clock` is that of the sniff of the opening. -/
structure MaintenanceArgs where
  serialSettings : SerialSettings
  timeout : Rat := 1
  srcSbn : Int := 0x01
  dstSbn : Int := 0x09
  confirm : Bool := true
  clock : List Rat := []
  deriving DecidableEq, Repr

def MaintenanceArgs.request (a : MaintenanceArgs) (protocol : ProtocolKind) : OpenRequest where
  settings := a.serialSettings
  protocol
  timeout := a.timeout
  srcSbn := a.srcSbn
  dstSbn := a.dstSbn
  identify := false
  clock := a.clock

/-- The framing to switch to; `clock` is that of the sniff on the new client. -/
structure NewFraming where
  newBaudrate : Option Nat := none
  newParity : Option Parity := none
  newStopbits : Option StopBits := none
  clock : List Rat := []
  deriving DecidableEq, Repr

def switchProtocol (T : OwnedTransport W) (a : MaintenanceArgs) (target currentProtocol : ProtocolKind)
    (f : NewFraming) : Py (Opening W) DeviceInfo :=
  withDevice T (a.request currentProtocol)
    (Balance.configureProtocol T.toTransport
      { target, baudrate := f.newBaudrate, parity := f.newParity, stopbits := f.newStopbits,
        timeout := some a.timeout, confirm := a.confirm, clock := f.clock })

def setBaudRate (T : OwnedTransport W) (a : MaintenanceArgs) (wireCode : Int) (baudrate : Nat)
    (parity : Option Parity) (stopbits : Option StopBits) : Py (Opening W) DeviceInfo :=
  withDevice T (a.request .xbpi)
    (Balance.setBaudRate T.toTransport wireCode baudrate
      { target := .xbpi, parity, stopbits, timeout := some a.timeout, confirm := a.confirm })

def writeSbnAddress (T : OwnedTransport W) (a : MaintenanceArgs) (sbn : Int) : Py (Opening W) Int :=
  withDevice T (a.request .xbpi) (Balance.writeSbnAddress T.toTransport sbn false (some a.timeout) a.confirm)

end Maintenance

/-! ## What they write -/

/-- The request that changes something: one opcode with one byte. -/
def changeRequest (opcode value srcSbn dstSbn : Int) : List Bytes :=
  ((Commands.tlvU8 value).toOption.bind fun args => (Xbpi.buildCommand opcode args srcSbn dstSbn).toOption).toList

/-- At most one request that is no read; it was sent if the call returned. -/
structure OneChange (change sent : List Bytes) (returned : Prop) : Prop where
  split : ∃ changed reads, sent = changed ++ reads ∧ changed <+: change ∧ (returned → changed = change) ∧
    ∀ data ∈ reads, ReadOnlyRequest data

theorem OneChange.none {change : List Bytes} {returned : Prop} (h : ¬ returned) : OneChange change [] returned :=
  ⟨[], [], rfl, List.nil_prefix, fun hr => absurd hr h, fun _ hd => absurd hd List.not_mem_nil⟩

theorem OneChange.changed {change reads : List Bytes} {returned : Prop} (h : ∀ data ∈ reads, ReadOnlyRequest data) :
    OneChange change (change ++ reads) returned :=
  ⟨change, reads, rfl, List.prefix_rfl, fun _ => rfl, h⟩

theorem OneChange.alone {change : List Bytes} {returned : Prop} : OneChange change change returned :=
  ⟨change, [], (List.append_nil _).symm, List.prefix_rfl, fun _ => rfl, fun _ hd => absurd hd List.not_mem_nil⟩

theorem OneChange.mono {change sent : List Bytes} {p q : Prop} (hone : OneChange change sent p) (h : q → p) :
    OneChange change sent q := by
  obtain ⟨changed, reads, hsent, hbegins, hreturned, hreads⟩ := hone
  exact ⟨changed, reads, hsent, hbegins, fun hq => hreturned (h hq), hreads⟩

def Returned {ε α σ : Type} (outcome : Except ε α × σ) : Prop := ∃ a, outcome.1 = .ok a

theorem not_returned {ε α σ : Type} {e : ε} {s : σ} : ¬ Returned ((.error e, s) : Except ε α × σ) := by
  rintro ⟨a, h⟩
  cases h

namespace Balance

section Writes

variable (T : Transport W)

theorem onNewSbi_writesOnly {α : Type} {R : Bytes → Prop} (client : Sbi.SbiClient) {m : Py (Sbi.SbiLink (Traced W)) α}
    (hm : WritesOnly (fun s : Sbi.SbiLink (Traced W) => s.world.events) R m) :
    WritesOnly hostLine R (onNewSbi client m) := by
  intro h
  obtain ⟨es, hes, hR⟩ := hm { client := client, world := h.world }
  exact ⟨es, hes, hR⟩

/-- The new client of a switch is sniffed, and verified with a read of the model. -/
theorem newClients_writesOnly (target : ProtocolKind) (srcSbn dstSbn : Int) (timeout : Rat) (clock : List Rat) :
    WritesOnly hostLine ReadOnlyRequest (newClients (traced T) target srcSbn dstSbn timeout clock) := by
  have hid : WritesOnly hostLine ReadOnlyRequest (freshId : Py (Host (Traced W)) Nat) := by
    refine .get_bind fun h => WritesOnly.bind (.modify fun h' => ?_) fun _ => .pure _
    rfl
  have hsniff : ∀ client, WritesOnly hostLine ReadOnlyRequest
      (onNewSbi client (Sbi.detectAutoprint (traced T) clock)) :=
    fun client => onNewSbi_writesOnly client (.of_silent (detectAutoprint_silent T clock))
  have hverify : ∀ client, WritesOnly hostLine ReadOnlyRequest (verifySbi (traced T) client timeout) :=
    fun client => onNewSbi_writesOnly client (Sbi.execute_writesOnly T (.token (by decide)) _ _ _ _)
  refine hid.bind fun id => .ite (fun _ => WritesOnly.bind ?_ fun _ => .pure _) fun _ => ?_
  · refine .liftExc_bind fun request hrequest => WritesOnly.bind (.onWorld ?_) fun _ => .pure _
    exact Xbpi.executeLocked_writesOnly T _ (frameOf_readOnly (by decide) hrequest) _ _ _
  · refine (hsniff _).bind fun client => .ite (fun _ => .pure _) fun _ => ?_
    exact (hverify client).bind fun _ => .pure _

theorem reopen_silent (baudrate : Option Nat) (parity : Option Parity) (stopbits : Option StopBits) :
    Silent Traced.events ((traced T).reopen baudrate parity stopbits) := by
  refine Prog.Emits.conseq (Traced.call_emits (fun _ => .reopened) (T.reopen baudrate parity stopbits)) ?_
  intro _ es hes
  rw [hes]
  rfl

theorem switchProtocol_writesOnly (r : SwitchRequest) (old : Session) :
    WritesOnly hostLine ReadOnlyRequest (switchProtocol (traced T) r old) := by
  have hdrain : Silent Traced.events (traced T).drainInput :=
    (drainInput_emits T).conseq fun _ _ h => by rw [h]; rfl
  have hreopen : ∀ baudrate parity stopbits, WritesOnly hostLine ReadOnlyRequest
      (onWorld ((traced T).reopen baudrate parity stopbits)) :=
    fun _ _ _ => .onWorld (.of_silent (reopen_silent T _ _ _))
  have hinstall : WritesOnly hostLine ReadOnlyRequest (installClients (traced T) r old) := by
    refine (WritesOnly.onWorld (.of_silent hdrain)).bind fun _ => (hreopen _ _ _).bind fun _ => ?_
    refine (newClients_writesOnly T _ _ _ _ _).bind ?_
    rintro ⟨xbpi, sbi⟩
    refine .get_bind fun h => (WritesOnly.liftExcept _).bind fun session => ?_
    refine (WritesOnly.modifySession _).bind fun _ => .modify fun h' => ?_
    rfl
  refine .exceptException hinstall fun e => WritesOnly.bind ?_ fun _ => .throw _
  cases old.serialSettings with
  | none => exact .modifySession _
  | some settings =>
      exact .exceptException (hreopen _ _ _) fun _ => (WritesOnly.modifySession _).bind fun _ => .throw _

/-- A change of the protocol is made on the side of the host only. -/
theorem configureProtocol_writesOnly (r : SwitchRequest) :
    WritesOnly hostLine ReadOnlyRequest (configureProtocol (traced T) r) := by
  refine .ite (fun _ => .raise _ _ _) fun _ => .ite (fun _ => .raise _ _ _) fun _ => ?_
  refine .get_bind fun h => (WritesOnly.liftExcept _).bind fun _ => .ite (fun _ => ?_) fun _ => ?_
  · cases h.info with
    | some info => exact .pure _
    | none => exact identify_writesOnly T
  · refine .ite (fun _ => .throw _) fun _ => .ite (fun _ => .raise _ _ _) fun _ => ?_
    exact (switchProtocol_writesOnly T r h.session).bind fun _ => identify_writesOnly T

theorem exec_suppress_discard {σ α : Type} (m : Py σ α) (s : σ) :
    ((suppress (m >>= fun _ => pure ())).exec s).2 = (m.exec s).2 := by
  rw [suppress, exec_exceptClasses, exec_bind]
  rcases m.exec s with ⟨e | a, s'⟩
  · dsimp only
    split <;> rfl
  · rfl

/-- The request of a change goes out, if its value can be encoded. -/
theorem sendChange_sends {h : Host (Traced W)} (hs : Opened h.session) (hactive : h.session.active = .xbpi)
    (opcode value : Int) (timeout : Option Rat) :
    Sends (changeRequest opcode value h.session.srcSbn h.session.dstSbn) h
      ((liftExc (Commands.tlvU8 value) >>= fun args =>
        executeRawXbpi (traced T) opcode args true timeout).exec h).2 := by
  rw [changeRequest]
  cases htlv : Commands.tlvU8 value with
  | error e => exact .refl h
  | ok args =>
      have hsends := executeRawXbpi_sends T hs opcode args true timeout
      rw [asked, if_pos ⟨hactive, .inr rfl⟩] at hsends
      exact hsends

/-- A change of the baud rate is one request; the rest of it reads. -/
theorem setBaudRate_oneChange {h : Host (Traced W)} (hs : Opened h.session) (wireCode : Int) (baudrate : Nat)
    (r : SwitchRequest) :
    ∃ sent, writes ((setBaudRate (traced T) wireCode baudrate r).exec h).2.world.events =
        writes h.world.events ++ sent ∧
      OneChange (changeRequest 0x5C wireCode h.session.srcSbn h.session.dstSbn) sent
        (Returned ((setBaudRate (traced T) wireCode baudrate r).exec h)) := by
  rw [setBaudRate, exec_bind_ok (exec_get h)]
  dsimp only
  by_cases hconfirm : r.confirm = true
  swap
  · rw [if_pos hconfirm]
    exact ⟨[], (List.append_nil _).symm, .none not_returned⟩
  by_cases hactive : h.session.active = .xbpi
  swap
  · rw [if_neg (not_not.mpr hconfirm), if_pos hactive]
    exact ⟨[], (List.append_nil _).symm, .none not_returned⟩
  rw [if_neg (not_not.mpr hconfirm), if_neg (not_not.mpr hactive)]
  by_cases hcode : 0 ≤ wireCode ∧ wireCode ≤ maxU8
  swap
  · rw [if_pos hcode]
    exact ⟨[], (List.append_nil _).symm, .none not_returned⟩
  rw [if_neg (not_not.mpr hcode)]
  have hsends := sendChange_sends T hs hactive 0x5C wireCode r.timeout
  have hstate := exec_suppress_discard
    (liftExc (Commands.tlvU8 wireCode) >>= fun args => executeRawXbpi (traced T) 0x5C args true r.timeout) h
  rw [bind_assoc] at hstate
  rw [← hstate] at hsends
  rcases hsuppress : (suppress (liftExc (Commands.tlvU8 wireCode) >>= fun args =>
    executeRawXbpi (traced T) 0x5C args true r.timeout >>= fun _ => pure ())).exec h with ⟨e | u, h₁⟩
  · rw [hsuppress] at hsends
    rw [exec_bind_error hsuppress]
    exact ⟨_, hsends.writes, .alone⟩
  · rw [hsuppress] at hsends
    rw [exec_bind_ok hsuppress]
    obtain ⟨es, hes, hreads⟩ := configureProtocol_writesOnly T
      { r with target := .xbpi, baudrate := some baudrate, confirm := true } h₁
    refine ⟨_, ?_, .changed hreads⟩
    rw [show ((configureProtocol (traced T) _).exec h₁).2.world.events = _ from hes, writes_append, hsends.writes,
      List.append_assoc]

/-- A command that returned was sent. -/
theorem execute_wrote {Req Resp : Type} {command : Command Req Resp} {request : Req} {confirm : Bool}
    {timeout : Option Rat} {h h' : Host (Traced W)} {resp : Resp} (hactive : h.session.active = .xbpi)
    (hrun : (execute (traced T) command request confirm timeout).exec h = (.ok resp, h')) :
    ∃ variant data, command.xbpi = some variant ∧ variant.encode h.session.context request = .ok data ∧
      writes h'.world.events = writes h.world.events ++ [data] := by
  obtain ⟨variant, client, data, p, frame, w, hrequest, hexchange, -, rfl⟩ := execute_accepted hactive hrun
  obtain ⟨hvariant, -, hdata⟩ := requestOf_eq_some hrequest
  refine ⟨variant, data, hvariant, hdata, ?_⟩
  rw [exchangeOf] at hexchange
  cases hdisposed : client.disposed with
  | true =>
      rw [hdisposed] at hexchange
      cases hexchange
  | false =>
      rw [hdisposed] at hexchange
      obtain ⟨es, hes, hwrites⟩ := Xbpi.executeLocked_writes T rfl data (timeout.getD h.session.defaultTimeout)
        command.name (some variant.opcode) h.world
      rw [hexchange] at hes
      show writes w.events = _
      rw [hes, writes_append, hwrites]

theorem frameOf_toOption {opcode : Int} {args data : Bytes} {ctx : CommandContext}
    (h : Commands.frameOf opcode args ctx = .ok data) :
    (Xbpi.buildCommand opcode args ctx.srcSbn ctx.dstSbn).toOption = some data := by
  rw [Commands.frameOf, Commands.lift] at h
  cases hbuild : Xbpi.buildCommand opcode args ctx.srcSbn ctx.dstSbn with
  | error e =>
      rw [hbuild] at h
      cases h
  | ok frame =>
      rw [hbuild] at h
      cases h
      rfl

/-- The requests of a new address: the one that changes it, and the one that reads it back. -/
def addressRequests (sbn srcSbn dstSbn : Int) : List Bytes :=
  changeRequest 0x72 sbn srcSbn dstSbn ++ (Xbpi.buildCommand 0x71 [] srcSbn dstSbn).toOption.toList

/-- A new address is one request, and what reads it back; both were sent when it returns. -/
theorem writeSbnAddress_oneChange {h : Host (Traced W)} (hs : Opened h.session) (sbn : Int) (updateSessionDst : Bool)
    (timeout : Option Rat) (confirm : Bool) :
    ∃ sent, writes ((writeSbnAddress (traced T) sbn updateSessionDst timeout confirm).exec h).2.world.events =
        writes h.world.events ++ sent ∧
      OneChange (changeRequest 0x72 sbn h.session.srcSbn h.session.dstSbn) sent
        (Returned ((writeSbnAddress (traced T) sbn updateSessionDst timeout confirm).exec h)) ∧
      (Returned ((writeSbnAddress (traced T) sbn updateSessionDst timeout confirm).exec h) →
        sent = addressRequests sbn h.session.srcSbn h.session.dstSbn) := by
  rw [writeSbnAddress, exec_bind_ok (exec_get h)]
  dsimp only
  by_cases hconfirm : confirm = true
  swap
  · rw [if_pos hconfirm]
    exact ⟨[], (List.append_nil _).symm, OneChange.none not_returned, fun hr => absurd hr not_returned⟩
  by_cases hsbn : 0 ≤ sbn ∧ sbn ≤ maxU8
  swap
  · rw [if_neg (not_not.mpr hconfirm), if_pos hsbn]
    exact ⟨[], (List.append_nil _).symm, OneChange.none not_returned, fun hr => absurd hr not_returned⟩
  by_cases hactive : h.session.active = .xbpi
  swap
  · rw [if_neg (not_not.mpr hconfirm), if_neg (not_not.mpr hsbn), if_pos hactive]
    exact ⟨[], (List.append_nil _).symm, OneChange.none not_returned, fun hr => absurd hr not_returned⟩
  rw [if_neg (not_not.mpr hconfirm), if_neg (not_not.mpr hsbn), if_neg (not_not.mpr hactive), ← bind_assoc]
  have hsends := sendChange_sends T hs hactive 0x72 sbn timeout
  rcases hchange : (liftExc (Commands.tlvU8 sbn) >>= fun args =>
    executeRawXbpi (traced T) 0x72 args true timeout).exec h with ⟨e | frame, h₁⟩
  · rw [hchange] at hsends
    rw [exec_bind_error hchange]
    exact ⟨_, hsends.writes, OneChange.alone, fun hr => absurd hr not_returned⟩
  rw [hchange] at hsends
  rw [exec_bind_ok hchange]
  have hread : ReadsOnly Commands.READ_SBN := .noArgs rfl (by decide) (by intro _ h; cases h)
  obtain ⟨es, hes, hreads⟩ := hread.execute T () false timeout h₁
  rcases hreadback : (execute (traced T) Commands.READ_SBN () false timeout).exec h₁ with ⟨e | readback, h₂⟩
  · rw [hreadback] at hes
    rw [exec_bind_error hreadback]
    refine ⟨_, ?_, OneChange.changed hreads, fun hr => absurd hr not_returned⟩
    rw [show h₂.world.events = _ from hes, writes_append, hsends.writes, List.append_assoc]
  · rw [hreadback] at hes
    rw [exec_bind_ok hreadback]
    obtain ⟨variant, data, hvariant, hdata, hwrote⟩ := execute_wrote T (hsends.session ▸ hactive) hreadback
    cases hvariant
    have hbuild : (Xbpi.buildCommand 0x71 [] h.session.srcSbn h.session.dstSbn).toOption = some data := by
      rw [← hsends.session]
      exact frameOf_toOption hdata
    have hline : writes h₂.world.events = writes h.world.events ++
        addressRequests sbn h.session.srcSbn h.session.dstSbn := by
      rw [hwrote, hsends.writes, addressRequests, hbuild, List.append_assoc]
      rfl
    refine ⟨addressRequests sbn h.session.srcSbn h.session.dstSbn, ?_, ?_, fun _ => rfl⟩
    · cases updateSessionDst <;> exact hline
    · rw [addressRequests, hbuild]
      refine .changed ?_
      rintro _ (_ | ⟨_, ⟨⟩⟩)
      exact frameOf_readOnly (by decide) hdata

end Writes

/-! ## What they return -/

section Ranges

variable {T : Transport W} {h : Host W} {wireCode sbn : Int}

theorem setBaudRate_range {baudrate : Nat} {r : SwitchRequest}
    (hr : Returned ((setBaudRate T wireCode baudrate r).exec h)) : 0 ≤ wireCode ∧ wireCode ≤ maxU8 := by
  obtain ⟨info, hok⟩ := hr
  by_contra hrange
  rw [setBaudRate, exec_bind_ok (exec_get h)] at hok
  dsimp only at hok
  rw [if_pos hrange] at hok
  repeat' split at hok
  all_goals cases hok

theorem writeSbnAddress_range {updateSessionDst confirm : Bool} {timeout : Option Rat}
    (hr : Returned ((writeSbnAddress T sbn updateSessionDst timeout confirm).exec h)) : 0 ≤ sbn ∧ sbn ≤ maxU8 := by
  obtain ⟨readback, hok⟩ := hr
  by_contra hrange
  rw [writeSbnAddress, exec_bind_ok (exec_get h)] at hok
  dsimp only at hok
  rw [if_pos hrange] at hok
  split at hok <;> cases hok

end Ranges

section Returns

variable {T : Transport W} {r : SwitchRequest} {h h' : Host W} {info : DeviceInfo}

/-- An identification describes the session that it was made on. -/
theorem identify_describes (hrun : (identify T).exec h = (.ok info, h')) :
    info.protocol = h.session.active ∧
      info.serialSettings = h.session.serialSettings.getD placeholderSerialSettings ∧ h'.info = some info := by
  have hactive : h'.session.active = h.session.active := congrArg Session.Frame.active (identify_frame hrun).1
  rw [← hactive]
  rw [identify, exec_bind_ok (exec_get h)] at hrun
  dsimp only at hrun
  split_ifs at hrun
  · obtain ⟨model, h₁, -, hrun⟩ := exec_bind_eq_ok.mp hrun
    obtain ⟨serialBytes, h₂, -, hrun⟩ := exec_bind_eq_ok.mp hrun
    obtain ⟨softwareBytes, h₃, -, hrun⟩ := exec_bind_eq_ok.mp hrun
    cases hrun
    exact ⟨rfl, rfl, rfl⟩
  · rw [identifyXbpi_eq] at hrun
    obtain ⟨⟨model, manufacturer, software, factoryNumber, sbn⟩, h₁, -, hrun⟩ := exec_bind_eq_ok.mp hrun
    obtain ⟨observed, h₂, -, hrun⟩ := exec_bind_eq_ok.mp hrun
    obtain ⟨⟨⟩, h₃, -, hrun⟩ := exec_bind_eq_ok.mp hrun
    obtain ⟨⟨capacity, increment⟩, h₄, -, hrun⟩ := exec_bind_eq_ok.mp hrun
    cases hrun
    exact ⟨rfl, rfl, rfl⟩

/-- A call that returns has passed its checks. -/
theorem configureProtocol_passed (hrun : (configureProtocol T r).exec h = (.ok info, h')) :
    r.target ≠ .auto ∧ r.confirm = true ∧ h.session.state = .operational := by
  rw [configureProtocol] at hrun
  by_cases htarget : r.target = .auto
  · rw [if_pos htarget] at hrun
    cases hrun
  by_cases hconfirm : r.confirm = true
  swap
  · rw [if_neg htarget, if_pos hconfirm] at hrun
    cases hrun
  rw [if_neg htarget, if_neg (not_not.mpr hconfirm), exec_bind_ok (exec_get h)] at hrun
  obtain ⟨_, _, hcheck, -⟩ := exec_bind_eq_ok.mp hrun
  cases hstate : h.session.state with
  | broken => simp [Session.checkState, hstate] at hcheck
  | operational => exact ⟨htarget, hconfirm, rfl⟩

theorem override_none (settings : SerialSettings) : settings.override none none none = settings := rfl

/-- A switch on a balance that was not identified yet returns a description of the new framing. -/
theorem configureProtocol_describes {settings : SerialSettings} (hsettings : h.session.serialSettings = some settings)
    (hinfo : h.info = none) (hrun : (configureProtocol T r).exec h = (.ok info, h')) :
    r.confirm = true ∧ info.protocol = r.target ∧
      info.serialSettings = settings.override r.baudrate r.parity r.stopbits ∧ h'.info = some info := by
  obtain ⟨htarget, hconfirm, hstate⟩ := configureProtocol_passed hrun
  by_cases hsame : r.target = h.session.active ∧ r.noFramingChange = true
  · rw [configureProtocol_onlyIdentifies ⟨htarget, hconfirm, hstate, hsame, hinfo⟩] at hrun
    obtain ⟨hprotocol, hserial, hnew⟩ := identify_describes hrun
    obtain ⟨hbaudrate, hparity, hstopbits⟩ : r.baudrate = none ∧ r.parity = none ∧ r.stopbits = none := by
      simpa [SwitchRequest.noFramingChange] using hsame.2
    refine ⟨hconfirm, hprotocol.trans hsame.1.symm, ?_, hnew⟩
    rw [hserial, hsettings, hbaudrate, hparity, hstopbits, override_none]
    rfl
  · have hlock : hasActiveLock h.session = true := by
      by_contra hlock
      rw [configureProtocol, if_neg htarget, if_neg (not_not.mpr hconfirm), exec_bind_ok (exec_get h),
        exec_bind_ok (exec_checkState hstate), if_neg hsame] at hrun
      split_ifs at hrun
      · cases hrun
      · cases hrun
    rw [configureProtocol_switches ⟨htarget, hconfirm, hstate, hsame, hlock⟩] at hrun
    obtain ⟨⟨⟩, h₁, hswitch, hidentify⟩ := exec_bind_eq_ok.mp hrun
    obtain ⟨s, xbpi, sbi, session, -, hreplace, rfl⟩ :=
      (install_replaces T r h.session h).ok ⟨rfl, rfl⟩ (exec_reraise_ok hswitch)
    obtain rfl := replaceClients_ok hreplace
    obtain ⟨hprotocol, hserial, hnew⟩ := identify_describes hidentify
    refine ⟨hconfirm, hprotocol, ?_, hnew⟩
    rw [hserial, hsettings]
    rfl

/-- The raw request behind a change of the baud rate touches neither the settings nor the identity. -/
theorem executeRawXbpi_leaves (opcode : Int) (args : Bytes) (confirm : Bool) (timeout : Option Rat) :
    Leaves (fun h : Host W => (h.session, h.info)) (executeRawXbpi T opcode args confirm timeout) := by
  intro h
  rw [executeRawXbpi, exec_bind_ok (exec_get h)]
  dsimp only
  cases h.session.checkState with
  | error e => rfl
  | ok u =>
      rw [exec_bind_ok (exec_liftExcept_ok _ _)]
      split
      · rfl
      split
      · rfl
      split
      · rfl
      cases Xbpi.buildCommand opcode args h.session.srcSbn h.session.dstSbn <;> rfl

theorem setBaudRate_describes {settings : SerialSettings} (hsettings : h.session.serialSettings = some settings)
    (hinfo : h.info = none) {wireCode : Int} {baudrate : Nat}
    (hrun : (setBaudRate T wireCode baudrate r).exec h = (.ok info, h')) :
    r.confirm = true ∧ (0 ≤ wireCode ∧ wireCode ≤ maxU8) ∧ info.protocol = .xbpi ∧
      info.serialSettings = settings.override (some baudrate) r.parity r.stopbits ∧ h'.info = some info := by
  rw [setBaudRate, exec_bind_ok (exec_get h)] at hrun
  dsimp only at hrun
  by_cases hconfirm : ¬ r.confirm = true
  · rw [if_pos hconfirm] at hrun
    cases hrun
  by_cases hactive : h.session.active ≠ .xbpi
  · rw [if_neg hconfirm, if_pos hactive] at hrun
    cases hrun
  by_cases hcode : ¬ (0 ≤ wireCode ∧ wireCode ≤ maxU8)
  · rw [if_neg hconfirm, if_neg hactive, if_pos hcode] at hrun
    cases hrun
  rw [if_neg hconfirm, if_neg hactive, if_neg hcode] at hrun
  obtain ⟨⟨⟩, h₁, hsend, hrun⟩ := exec_bind_eq_ok.mp hrun
  have hleaves : Leaves (fun h : Host W => (h.session, h.info)) (suppress do
      let args ← liftExc (Commands.tlvU8 wireCode)
      let _ ← executeRawXbpi T 0x5C args true r.timeout) := by
    refine Leaves.tryCatch (Leaves.bind ?_ fun args => ?_) fun e => .ite (fun _ => .pure _) fun _ => .throw _
    · cases Commands.tlvU8 wireCode with
      | ok args => exact .pure _
      | error e => exact .throw _
    · exact (executeRawXbpi_leaves _ _ _ _).bind fun _ => .pure _
  have hsame := hleaves h
  rw [hsend, Prod.mk.injEq] at hsame
  obtain ⟨hs, hi⟩ := hsame
  obtain ⟨-, hprotocol, hserial, hnew⟩ :=
    configureProtocol_describes (hs ▸ hsettings) (hi.trans hinfo) hrun
  exact ⟨not_not.mp hconfirm, not_not.mp hcode, hprotocol, hserial, hnew⟩

end Returns

end Balance

/-! ## The helpers -/

namespace Maintenance

/-- The probes of an opening, and behind them what `P` says of the rest of the line. -/
def Accounted {α : Type} (r : OpenRequest) (P : List Bytes → Prop → Prop) (o : Opening (Traced W))
    (outcome : Except Exc α × Opening (Traced W)) : Prop :=
  ∃ probed sent, writes (lineOf outcome.2) = writes (lineOf o) ++ (probed ++ sent) ∧ probed <+: probesOf r ∧
    P sent (Returned outcome)

section Accounted

variable {α β : Type} {r : OpenRequest} {P : List Bytes → Prop → Prop}
  (hmono : ∀ sent p q, P sent p → (q → p) → P sent q)
include hmono

theorem withDevice_accounted (T : OwnedTransport W) (hidentify : r.identify = false) (hnone : ∀ p, ¬ p → P [] p)
    {body : Py (Host (Traced W)) α}
    (hbody : ∀ h, Opened h.session → h.session.srcSbn = r.srcSbn → h.session.dstSbn = r.dstSbn →
      ∃ sent, writes (body.exec h).2.world.events = writes h.world.events ++ sent ∧ P sent (Returned (body.exec h)))
    (o : Opening (Traced W)) : Accounted r P o ((withDevice (tracedPort T) r body).exec o) := by
  obtain ⟨probed, hbegins, ⟨hline, e, he⟩ | ⟨h, hs, hsrc, hdst, hprobed, hline, -, hok⟩⟩ :=
    withDevice_cases T hidentify body o
  · refine ⟨probed, [], by rw [List.append_nil, hline], hbegins, hnone _ ?_⟩
    rintro ⟨a, ha⟩
    cases he.symm.trans ha
  · obtain ⟨sent, hsent, hP⟩ := hbody h hs hsrc hdst
    refine ⟨probed, sent, ?_, hbegins, hmono _ _ _ hP ?_⟩
    · rw [hline, hsent, hprobed, List.append_assoc]
    · rintro ⟨a, ha⟩
      exact ⟨a, hok a ha⟩

theorem Accounted.bind_pure {m : Py (Opening (Traced W)) α} (f : α → β) {o : Opening (Traced W)}
    (h : Accounted r P o (m.exec o)) : Accounted r P o ((m >>= fun a => pure (f a)).exec o) := by
  obtain ⟨probed, sent, hline, hbegins, hsent⟩ := h
  rcases hm : m.exec o with ⟨e | a, o'⟩ <;> rw [hm] at hline hsent
  · rw [exec_bind_error hm]
    refine ⟨probed, sent, hline, hbegins, hmono _ _ _ hsent fun h => absurd h not_returned⟩
  · rw [exec_bind_ok hm]
    exact ⟨probed, sent, hline, hbegins, hmono _ _ _ hsent fun _ => ⟨a, rfl⟩⟩

end Accounted

/-- A helper leaves the port closed, however it ends; one that returns was confirmed, and it describes the framing
that the device was switched to. -/
structure Reports (T : OwnedTransport W) (a : MaintenanceArgs) (protocol : ProtocolKind) (settings : SerialSettings)
    (outcome : Except Exc DeviceInfo × Opening W) : Prop where
  closed : T.isOpen outcome.2.host.world = false
  confirmed : ∀ info, outcome.1 = .ok info → a.confirm = true
  protocol : ∀ info, outcome.1 = .ok info → info.protocol = protocol
  serialSettings : ∀ info, outcome.1 = .ok info → info.serialSettings = settings
  kept : ∀ info, outcome.1 = .ok info → outcome.2.host.info = some info

/-- Whatever the device does, a switch of the protocol and a change of the baud rate close their port behind them,
and they return a description only of the framing that was asked for. -/
theorem helpers_report {T : OwnedTransport W} (hT : Reliable T) (a : MaintenanceArgs) (o : Opening W) :
    (∀ target currentProtocol f, Reports T a target
      (a.serialSettings.override f.newBaudrate f.newParity f.newStopbits)
      ((switchProtocol T a target currentProtocol f).exec o)) ∧
    (∀ wireCode baudrate parity stopbits, Reports T a .xbpi
      (a.serialSettings.override (some baudrate) parity stopbits)
      ((setBaudRate T a wireCode baudrate parity stopbits).exec o)) ∧
    ∀ sbn, T.isOpen ((writeSbnAddress T a sbn).exec o).2.host.world = false := by
  refine ⟨?_, ?_, fun sbn => withDevice_closes hT _ _ o⟩
  · intro target currentProtocol f
    have hreturned : ∀ info, ((switchProtocol T a target currentProtocol f).exec o).1 = .ok info →
        a.confirm = true ∧ info.protocol = target ∧ info.serialSettings =
          a.serialSettings.override f.newBaudrate f.newParity f.newStopbits ∧
          ((switchProtocol T a target currentProtocol f).exec o).2.host.info = some info := by
      intro info hinfo
      obtain ⟨g, g', hnew, hrun, -, hkept⟩ := withDevice_returned rfl (Prod.ext hinfo rfl)
      obtain ⟨hconfirm, hprotocol, hserial, hi⟩ :=
        Balance.configureProtocol_describes hnew.serialSettings hnew.info hrun
      exact ⟨hconfirm, hprotocol, hserial, hkept.trans hi⟩
    exact ⟨withDevice_closes hT _ _ o, fun i h => (hreturned i h).1, fun i h => (hreturned i h).2.1,
      fun i h => (hreturned i h).2.2.1, fun i h => (hreturned i h).2.2.2⟩
  · intro wireCode baudrate parity stopbits
    have hreturned : ∀ info, ((setBaudRate T a wireCode baudrate parity stopbits).exec o).1 = .ok info →
        a.confirm = true ∧ info.protocol = .xbpi ∧ info.serialSettings =
          a.serialSettings.override (some baudrate) parity stopbits ∧
          ((setBaudRate T a wireCode baudrate parity stopbits).exec o).2.host.info = some info := by
      intro info hinfo
      obtain ⟨g, g', hnew, hrun, -, hkept⟩ := withDevice_returned rfl (Prod.ext hinfo rfl)
      obtain ⟨hconfirm, -, hprotocol, hserial, hi⟩ :=
        Balance.setBaudRate_describes hnew.serialSettings hnew.info hrun
      exact ⟨hconfirm, hprotocol, hserial, hkept.trans hi⟩
    exact ⟨withDevice_closes hT _ _ o, fun i h => (hreturned i h).1, fun i h => (hreturned i h).2.1,
      fun i h => (hreturned i h).2.2.1, fun i h => (hreturned i h).2.2.2⟩

/-- A closed port with a balance that answers four identity tokens of SBI once it was opened anew. -/
def sbiPort : Opening SerialState where
  host :=
    { world :=
        { settings := { port := "COM3" }, isOpen := false,
          line := [[], [], [], [.chunk [0x42, 0x43, 0x45, 0x0D, 0x0A], .chunk [0x42, 0x43, 0x45, 0x0D, 0x0A],
                                .chunk [0x30, 0x31, 0x0D, 0x0A], .chunk [0x30, 0x30, 0x0D, 0x0A]]] }
      session := { active := .sbi } }

def atCom3 : MaintenanceArgs := { serialSettings := { port := "COM3" } }

def faster : NewFraming := { newBaudrate := some 19200 }

theorem helpers_report_sbi :
    ((switchProtocol serialPort atCom3 .sbi .sbi faster).exec sbiPort).1.isOk = true ∧
    Reports serialPort atCom3 .sbi
      (atCom3.serialSettings.override faster.newBaudrate faster.newParity faster.newStopbits)
      ((switchProtocol serialPort atCom3 .sbi .sbi faster).exec sbiPort) :=
  ⟨by decide +kernel, (helpers_report serialPort_reliable atCom3 sbiPort).1 .sbi .sbi faster⟩

end Maintenance

end SartoriusLib
