import SartoriusLib.Cli.Common
import SartoriusLib.Devices.Maintenance

/-!
# The configure command

`sarto-configure` runs one maintenance helper, with `--confirm` only, and prints what the helper returned.
-/

namespace SartoriusLib.Cli

open SartoriusLib Lib Prog Factory

variable {W α : Type}

inductive ConfigureOp where
  | switchProtocol (target : ProtocolKind) (framing : Maintenance.NewFraming)
  | setBaudRate (wireCode : Int) (targetBaudrate : Nat) (newParity : Option Parity) (newStopbits : Option StopBits)
  | writeSbnAddress (sbn : Int)
  deriving DecidableEq, Repr

def ConfigureOp.name : ConfigureOp → String
  | .switchProtocol .. => "switch-protocol"
  | .setBaudRate .. => "set-baud-rate"
  | .writeSbnAddress _ => "write-sbn-address"

/-- What the helpers get from the command line. -/
def OpenArgs.maintenance (a : OpenArgs) : Maintenance.MaintenanceArgs :=
  { serialSettings := a.settings, timeout := a.timeout, clock := a.clock }

def formatInfo (info : DeviceInfo) (op : String) : String :=
  let model := if info.model = [] then "<unknown>" else String.ofList info.model
  String.intercalate "\n" [
    s!"{op} complete:",
    s!"  model:        {model}",
    s!"  family:       {info.family.value}",
    s!"  protocol:     {info.protocol.value}",
    s!"  baudrate:     {info.serialSettings.baudrate}",
    s!"  parity:       {info.serialSettings.parity.value}",
    s!"  stopbits:     {info.serialSettings.stopbits.value}"] ++ "\n"

def formatReadback (sbn readback : Int) : String :=
  let verified := if readback = sbn then "True" else "False"
  s!"write-sbn-address complete:\n  requested:  0x{hex02 sbn}\n  readback:   0x{hex02 readback}\n" ++
    s!"  verified:   {verified}\n"

/-- `_run_switch_protocol`, `_run_set_baud_rate` or `_run_write_sbn_address`, up to what it prints. -/
def runConfigure (T : OwnedTransport W) (a : OpenArgs) : ConfigureOp → Py (Opening W) String
  | .switchProtocol target framing => do
      let info ← Maintenance.switchProtocol T a.maintenance target a.protocol framing
      pure (formatInfo info "switch-protocol")
  | .setBaudRate wireCode baudrate parity stopbits => do
      let info ← Maintenance.setBaudRate T a.maintenance wireCode baudrate parity stopbits
      pure (formatInfo info "set-baud-rate")
  | .writeSbnAddress sbn => do
      let readback ← Maintenance.writeSbnAddress T a.maintenance sbn
      pure (formatReadback sbn readback)

def configureBody (T : OwnedTransport W) (a : OpenArgs) (op : ConfigureOp) : Py (Terminal W) Int := do
  let report ← onOpening (runConfigure T a op)
  writeStdout report
  pure 0

def configureMain (T : OwnedTransport W) (a : OpenArgs) (confirm : Bool) (op : ConfigureOp) : Py (Terminal W) Int :=
  if ¬ confirm then do
    writeStderr s!"error: sarto-configure {op.name} is destructive; pass --confirm to execute\n"
    pure 2
  else runCli (configureBody T a op)

/-! ## What it sends -/

/-- The opening behind an operation; only a switch sniffs the protocol. -/
def ConfigureOp.opening (a : OpenArgs) : ConfigureOp → OpenRequest
  | .switchProtocol .. => a.maintenance.request a.protocol
  | _ => a.maintenance.request .xbpi

/-- The one request of an operation that is no read. -/
def ConfigureOp.change : ConfigureOp → List Bytes
  | .switchProtocol .. => []
  | .setBaudRate wireCode .. => changeRequest 0x5C wireCode 0x01 0x09
  | .writeSbnAddress sbn => changeRequest 0x72 sbn 0x01 0x09

/-- How many requests of an operation are no reads. -/
def ConfigureOp.changes : ConfigureOp → Nat
  | .switchProtocol .. => 0
  | _ => 1

/-- What an operation sent: its change, which is one request unless it switches the protocol, reads, and for a new
address exactly the change and its readback. -/
structure ConfigureOp.Sent (op : ConfigureOp) (sent : List Bytes) (complete : Prop) : Prop where
  oneChange : OneChange op.change sent complete
  present : complete → op.change.length = op.changes
  readBack : ∀ sbn, op = .writeSbnAddress sbn → complete → sent = Balance.addressRequests sbn 0x01 0x09

/-- A value of one byte has a request. -/
theorem changeRequest_length {opcode value : Int} (hopcode : 0 ≤ opcode ∧ opcode ≤ 255)
    (hvalue : 0 ≤ value ∧ value ≤ Balance.maxU8) : (changeRequest opcode value 0x01 0x09).length = 1 := by
  obtain ⟨frame, hframe⟩ : ∃ frame, Xbpi.buildCommand opcode [0x21, Xbpi.toByte value] 0x01 0x09 = .ok frame :=
    Xbpi.buildCommand_fits _ hopcode (by decide) (by decide) (by simp)
  have hargs : Commands.tlvU8 value = .ok [0x21, Xbpi.toByte value] := by
    rw [Commands.tlvU8, Commands.lift, Commands.tlvU8Tag, Xbpi.encodeTlv_u8_fits (by simpa [Balance.maxU8] using hvalue)]
    rfl
  rw [changeRequest, hargs]
  simp [Except.toOption, hframe]

namespace ConfigureOp.Sent

variable {op : ConfigureOp} {sent : List Bytes} {p q : Prop}

theorem mono (h : op.Sent sent p) (hpq : q → p) : op.Sent sent q :=
  ⟨h.oneChange.mono hpq, fun hq => h.present (hpq hq), fun sbn hop hq => h.readBack sbn hop (hpq hq)⟩

theorem none (h : ¬ p) : op.Sent [] p := ⟨.none h, fun hp => absurd hp h, fun _ _ hp => absurd hp h⟩

end ConfigureOp.Sent

section Line

variable (T : OwnedTransport W) (a : OpenArgs) (op : ConfigureOp)

theorem runConfigure_sent (o : Opening (Traced W)) :
    Maintenance.Accounted (op.opening a) op.Sent o ((runConfigure (tracedPort T) a op).exec o) := by
  have hmono : ∀ sent p q, op.Sent sent p → (q → p) → op.Sent sent q := fun _ _ _ h => h.mono
  have hnone : ∀ p, ¬ p → op.Sent [] p := fun _ => .none
  cases op with
  | switchProtocol target framing =>
      refine .bind_pure hmono _ (Maintenance.withDevice_accounted hmono T rfl hnone (fun h _ _ _ => ?_) o)
      obtain ⟨es, hes, hreads⟩ := Balance.configureProtocol_writesOnly T.toTransport _ h
      refine ⟨writes es, by rw [← writes_append]; exact congrArg writes hes, ?_, fun _ => rfl, fun _ hop => by cases hop⟩
      exact .changed hreads
  | setBaudRate wireCode baudrate parity stopbits =>
      refine .bind_pure hmono _ (Maintenance.withDevice_accounted hmono T rfl hnone (fun h hs hsrc hdst => ?_) o)
      obtain ⟨sent, hline, hone⟩ := Balance.setBaudRate_oneChange T.toTransport hs wireCode baudrate _
      rw [hsrc, hdst] at hone
      exact ⟨sent, hline, hone, fun hr => changeRequest_length (by decide) (Balance.setBaudRate_range hr),
        fun _ hop => by cases hop⟩
  | writeSbnAddress sbn =>
      refine .bind_pure hmono _ (Maintenance.withDevice_accounted hmono T rfl hnone (fun h hs hsrc hdst => ?_) o)
      obtain ⟨sent, hline, hone, hback⟩ := Balance.writeSbnAddress_oneChange T.toTransport hs sbn false _ _
      rw [hsrc, hdst] at hone hback
      refine ⟨sent, hline, hone, fun hr => changeRequest_length (by decide) (Balance.writeSbnAddress_range hr),
        fun sbn' hop hr => ?_⟩
      cases hop
      exact hback hr

/-- What a run of the program did: without a confirmation nothing, and else one change among reads, behind the probes
of its opening. It prints a report only if it ends with the code 0, and then the change was sent. -/
structure Configured (confirm : Bool) (t : Terminal (Traced W)) (outcome : Except Exc Int × Terminal (Traced W)) :
    Prop where
  refused : confirm = false → outcome.1 = .ok 2 ∧ outcome.2.opening = t.opening
  line : ∃ probed sent, writes (lineOf outcome.2.opening) = writes (lineOf t.opening) ++ (probed ++ sent) ∧
    probed <+: probesOf (op.opening a) ∧ op.Sent sent (outcome.1 = .ok 0)
  stdout : outcome.1 ≠ .ok 0 → outcome.2.stdout = t.stdout

theorem configure_oneChange (confirm : Bool) (t : Terminal (Traced W)) :
    Configured a op confirm t ((configureMain (tracedPort T) a confirm op).exec t) := by
  cases confirm with
  | false =>
      refine ⟨fun _ => ⟨rfl, rfl⟩, ⟨[], [], (List.append_nil _).symm, List.nil_prefix, .none ?_⟩, fun _ => rfl⟩
      rintro ⟨⟩
  | true =>
      obtain ⟨probed, sent, hline, hbegins, hsent⟩ := runConfigure_sent T a op t.opening
      obtain ⟨hopening, hstdout, -, hcode⟩ := runCli_body (configureBody (tracedPort T) a op) t
      have hexec : (onOpening (runConfigure (tracedPort T) a op)).exec t =
          (((runConfigure (tracedPort T) a op).exec t.opening).1,
            { t with opening := ((runConfigure (tracedPort T) a op).exec t.opening).2 }) := rfl
      have hmain : configureMain (tracedPort T) a true op = runCli (configureBody (tracedPort T) a op) := rfl
      rw [hmain]
      rcases hrun : (runConfigure (tracedPort T) a op).exec t.opening with ⟨e | report, o⟩ <;>
        rw [hrun] at hexec hline hsent
      · have hbody : (configureBody (tracedPort T) a op).exec t = (.error e, { t with opening := o }) :=
          exec_bind_error hexec
        rw [hbody] at hopening hstdout hcode
        refine ⟨fun h => (by cases h), ⟨probed, sent, ?_, hbegins, hsent.mono fun h => absurd (hcode h) (by simp)⟩,
          fun _ => hstdout⟩
        rw [hopening]
        exact hline
      · have hbody : (configureBody (tracedPort T) a op).exec t =
            (.ok 0, { t with opening := o, stdout := t.stdout ++ report }) := exec_bind_ok hexec
        have hok : ((runCli (configureBody (tracedPort T) a op)).exec t).1 = .ok 0 := by
          rw [runCli, exec_tryCatch, hbody]
        rw [hbody] at hopening
        refine ⟨fun h => (by cases h), ⟨probed, sent, ?_, hbegins, hsent.mono fun _ => ⟨report, rfl⟩⟩,
          fun h => absurd hok h⟩
        rw [hopening]
        exact hline

end Line

end SartoriusLib.Cli
