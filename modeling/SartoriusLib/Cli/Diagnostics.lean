import SartoriusLib.Cli.Common
import SartoriusLib.Protocol.Xbpi.Tlv
import SartoriusLib.Testing.Lines

/-!
# The diagnostic commands

`sweep`, `argfuzz` and `snapshot` open a balance, send one raw request after the other and close it again. What a
request raises is recorded, and the next one goes out. Which frames reach the line is stated about the trace, over a
port whose calls may end in any way.
-/

namespace SartoriusLib.Cli

open SartoriusLib Lib Prog Factory

variable {W α β : Type}

/-- `require_destructive_ack` ahead of `run_cli`; its `SystemExit(2)` ends the program with that code. -/
def runDestructive (acked : Bool) (op : String) (body : Py (Terminal W) Int) : Py (Terminal W) Int :=
  if acked then runCli body
  else do
    writeStderr (s!"error: sarto-diag {op} can change persistent device state.\n" ++
      "       Pass --i-understand-this-is-destructive to acknowledge and execute.\n")
    pure 2

/-! ## Results -/

/-- The names of the opcodes that are mapped. -/
def opcodeNames : Dict Int String :=
  [(0x00, "read_software_version"), (0x01, "read_factory_number"), (0x02, "read_weigh_cell_model"),
   (0x03, "read_user_id"), (0x05, "read_oem_text"), (0x07, "read_manufacturer"), (0x0A, "read_configuration_data"),
   (0x0F, "read_balance_info"), (0x0B, "read_threshold_0b"), (0x0C, "read_max"), (0x0D, "read_increment"),
   (0x0E, "read_threshold_0e"), (0x14, "tare"), (0x15, "abort_combined_tare"), (0x17, "abort_tare"), (0x18, "zero"),
   (0x19, "abort_zeroing"), (0x1C, "read_appl_tare"), (0x1E, "read_net_weight"), (0x1F, "read_net_weight_hires"),
   (0x20, "read_gross_weight"), (0x21, "read_gross_weight_hires"), (0x22, "read_tare"),
   (0x26, "read_weighing_mode"), (0x2C, "write_weighing_mode"), (0x57, "read_cycle_time"),
   (0x2F, "read_gross_bargraph"), (0x30, "read_balance_status_block"), (0x32, "read_balance_status"),
   (0x35, "read_time_stamp"), (0x36, "read_on_off_status"), (0x28, "start_adjustment"), (0x29, "abort_adjustment"),
   (0x76, "read_temperature_sensors"), (0x78, "read_adjustment_unit"), (0x79, "write_adjustment_unit"),
   (0x46, "read_menu_from_eeprom"), (0x47, "save_menu_to_eeprom"), (0x54, "read_stop_flags"),
   (0x55, "read_parameter_table"), (0x56, "write_parameter_table"), (0x58, "initiate_reset"),
   (0x5C, "set_baud_rate"), (0x71, "read_sbn_address"), (0x72, "write_sbn_address"), (0xB9, "read_last_cal_record"),
   (0xBA, "config_generation_counter"), (0xBC, "read_module_list")]

def opcodeEntry (opcode : Int) : Entry :=
  [("opcode", some s!"0x{hex02 opcode}"), ("name", opcodeNames.get? opcode)]

def argsEntry (payload : Bytes) : Entry := [("args", some (bytesHex payload))]

def errorFields (e : SartoriusError) : Entry :=
  [("status", some "error"), ("error_type", some e.cls.className), ("error_message", some e.str)]

def replyFields (frame : Xbpi.XbpiFrame) : Entry :=
  [("status", some "ok"), ("subtype", some s!"0x{hex02 frame.subtype.toNat}"), ("raw", some (bytesHex frame.raw))]

/-- A snapshot keeps the body as well. -/
def snapshotFields (frame : Xbpi.XbpiFrame) : Entry := replyFields frame ++ [("body", some (bytesHex frame.body))]

/-- The result of one request: what the library raises is a result too. -/
def recorded (entry : Entry) (fields : Xbpi.XbpiFrame → Entry) (request : Py (Host W) Xbpi.XbpiFrame) :
    Py (Host W) Entry :=
  tryCatch ((fun frame => entry ++ fields frame) <$> request) fun e =>
    match e with
    | .sartorius err => pure (entry ++ errorFields err)
    | e => throw e

/-- The loop that the commands share. -/
def recordEach (each : β → Py (Host W) Entry) : List β → Py (Host W) (List Entry)
  | [] => pure []
  | item :: later => do
      let entry ← each item
      let entries ← recordEach each later
      pure (entry :: entries)

/-! ## The commands -/

def defaultSweepExclude : List Int := [0x28, 0x46, 0x47, 0x56, 0x58, 0x59, 0x5A, 0x5C, 0x72, 0x79]

/-- `_sweep`. -/
def sweep (T : Transport W) (timeout : Rat) (opcodes : List Int) : Py (Host W) (List Entry) :=
  recordEach (fun opcode => recorded (opcodeEntry opcode) replyFields
    (executeRawXbpi T opcode [] true (some timeout))) opcodes

/-- `_probe_all`. -/
def probeAll (T : Transport W) (timeout : Rat) (opcodes : List Int) : Py (Host W) (List Entry) :=
  recordEach (fun opcode => recorded (opcodeEntry opcode) snapshotFields
    (executeRawXbpi T opcode [] false (some timeout))) opcodes

/-- `_fuzz`. -/
def fuzz (T : Transport W) (timeout : Rat) (opcode : Int) (payloads : List Bytes) : Py (Host W) (List Entry) :=
  recordEach (fun payload => recorded (argsEntry payload) replyFields
    (executeRawXbpi T opcode payload true (some timeout))) payloads

def Entry.text (entry : Entry) (key : String) : String := ((entry.get? key).join).getD ""

/-- `f"{s:32s}"` and the like. -/
def padded (width : Nat) (s : String) : String := s ++ String.ofList (List.replicate (width - s.length) ' ')

def countOk (results : List Entry) : Nat := results.countP fun r => r.text "status" = "ok"

/-- The line of a result under its `label`, with the `tail` of a reply. -/
def resultLine (label : String) (tail : Entry → String) (r : Entry) : String :=
  if r.text "status" = "ok" then
    let subtype := r.text "subtype"
    s!"  {label}  ok       subtype={subtype}{tail r}"
  else
    let errorType := r.text "error_type"
    let message := r.text "error_message"
    s!"  {label}  {errorType}: {message}"

def opcodeLabel (r : Entry) : String :=
  let opcode := r.text "opcode"
  let name := if r.text "name" = "" then "(unmapped)" else r.text "name"
  s!"{opcode}  {padded 32 name}"

def argsLabel (r : Entry) : String :=
  let args := if r.text "args" = "" then "(empty)" else r.text "args"
  s!"args={padded 24 args}"

def formatText (head : String) (line : Entry → String) (results : List Entry) : String :=
  String.intercalate "\n" (head :: "" :: results.map line) ++ "\n"

/-- What a command does with its results: it prints their text, or writes them to the file of `--out` and says so. -/
def report (name : String) (out : Option String) (text : List Entry → String) (results : List Entry) :
    Py (Terminal W) Unit :=
  match out with
  | none => writeStdout (text results)
  | some path => do
      writeJson path results
      writeStdout s!"{name}: wrote {results.length} results to {path}\n"

structure SweepArgs where
  first : Int := 0x00
  last : Int := 0xFF
  includeAll : Bool := false
  out : Option String := none
  ackDestructive : Bool := false
  deriving DecidableEq, Repr

/-- `range(first, last + 1)`. -/
def interval (first last : Int) : List Int := (List.range (last + 1 - first).toNat).map fun i : Nat => first + i

def SweepArgs.excluded (r : SweepArgs) : List Int := if r.includeAll then [] else defaultSweepExclude

def SweepArgs.opcodes (r : SweepArgs) : List Int := (interval r.first r.last).filter (· ∉ r.excluded)

def isByte (n : Int) : Bool := 0 ≤ n ∧ n ≤ 0xFF

/-- `_format_text` of a sweep. -/
def SweepArgs.text (r : SweepArgs) (results : List Entry) : String :=
  formatText (s!"sweep: {countOk results}/{results.length} opcodes responded " ++
    s!"(excluded: {r.excluded.length} default-shielded)") (fun e => resultLine (opcodeLabel e) (fun _ => "") e) results

def sweepBody (T : OwnedTransport W) (a : OpenArgs) (r : SweepArgs) : Py (Terminal W) Int :=
  if ¬ isByte r.first ∨ ¬ isByte r.last then do
    writeStderr "error: --start and --end must each fit in one byte (0..0xFF)\n"
    pure 1
  else if r.last < r.first then do
    writeStderr s!"error: --start (0x{hex02 r.first}) > --end (0x{hex02 r.last})\n"
    pure 1
  else do
    let results ← onOpening (withBalance T a (sweep T.toTransport a.timeout r.opcodes))
    report "sweep" r.out r.text results
    pure 0

def sweepMain (T : OwnedTransport W) (a : OpenArgs) (r : SweepArgs) : Py (Terminal W) Int :=
  runDestructive r.ackDestructive "sweep" (sweepBody T a r)

/-- `--include` restricts a snapshot to explicit opcodes. -/
def snapshotOpcodes (only : Option (List Int)) : List Int := only.getD (Commands.safeReadOnlyOpcodes.mergeSort)

/-- `_format_text` of a snapshot. -/
def snapshotText (results : List Entry) : String :=
  formatText s!"snapshot: {countOk results}/{results.length} opcodes responded"
    (fun e => resultLine (opcodeLabel e) (fun e => "  body=" ++ e.text "body") e) results

def snapshotMain (T : OwnedTransport W) (a : OpenArgs) (only : Option (List Int)) (out : Option String) :
    Py (Terminal W) Int :=
  runCli do
    let results ← onOpening (withBalance T a (probeAll T.toTransport a.timeout (snapshotOpcodes only)))
    report "snapshot" out snapshotText results
    pure 0

inductive FuzzMode where
  | u8Sweep
  | tlv21Sweep
  | rawBytes
  deriving DecidableEq, Repr

structure FuzzArgs where
  opcode : Int
  mode : FuzzMode := .tlv21Sweep
  first : Int := 0x00
  last : Int := 0x0F
  rawPayload : Option (List Text) := none
  out : Option String := none
  ackDestructive : Bool := false
  deriving DecidableEq, Repr

/-- Blanks that `bytes.fromhex` skips. -/
def isAsciiSpace (c : Char) : Bool := c.toNat = 0x20 || (0x09 ≤ c.toNat && c.toNat ≤ 0x0D)

/-- `bytes.fromhex(t)`: blanks may stand between the bytes. -/
def hexBytes : Text → Option Bytes
  | [] => some []
  | [c] => if isAsciiSpace c then some [] else none
  | hi :: lo :: t =>
      if isAsciiSpace hi then hexBytes (lo :: t)
      else
        match Text.hexValue hi, Text.hexValue lo with
        | some x, some y => (hexBytes t).map (UInt8.ofNat (16 * x + y) :: ·)
        | _, _ => none

def payloadError (message : String) : SartoriusError where
  cls := .validationError
  message := message

/-- `_parse_hex_payload`. -/
def parseHexPayload (token : Text) : Except SartoriusError Bytes :=
  let cleaned := token.filter fun c => c ≠ ' ' ∧ c ≠ ':'
  if cleaned.length % 2 ≠ 0 then
    .error (payloadError s!"--raw-payload: hex token {textRepr (String.ofList token)} has odd length")
  else
    match hexBytes cleaned with
    | some b => .ok b
    | none => .error (payloadError s!"--raw-payload: invalid hex token {textRepr (String.ofList token)}")

/-- `_build_payloads`. -/
def buildPayloads (r : FuzzArgs) : Except SartoriusError (List Bytes) :=
  if r.mode = .rawBytes then
    match r.rawPayload with
    | none | some [] => .error (payloadError "--mode=raw-bytes requires --raw-payload <hex>...")
    | some tokens => tokens.mapM parseHexPayload
  else if ¬ isByte r.first ∨ ¬ isByte r.last then
    .error (payloadError "--start and --end must each fit in one byte (0..0xFF)")
  else if r.last < r.first then
    .error (payloadError s!"--start (0x{hex02 r.first}) > --end (0x{hex02 r.last})")
  else if r.mode = .u8Sweep then .ok ((interval r.first r.last).map fun v => [Xbpi.toByte v])
  else (interval r.first r.last).mapM fun v => Xbpi.encodeTlv 0x21 (.int v)

/-- `_format_text` of a fuzzing. -/
def FuzzArgs.text (r : FuzzArgs) (results : List Entry) : String :=
  formatText s!"argfuzz 0x{hex02 r.opcode}: {countOk results}/{results.length} args responded"
    (fun e => resultLine (argsLabel e) (fun _ => "") e) results

def fuzzBody (T : OwnedTransport W) (a : OpenArgs) (r : FuzzArgs) : Py (Terminal W) Int :=
  if ¬ isByte r.opcode then do
    writeStderr "error: --opcode must fit in one byte (0..0xFF)\n"
    pure 1
  else do
    let payloads ← liftExcept (buildPayloads r)
    let results ← onOpening (withBalance T a (fuzz T.toTransport a.timeout r.opcode payloads))
    report "argfuzz" r.out r.text results
    pure 0

def fuzzMain (T : OwnedTransport W) (a : OpenArgs) (r : FuzzArgs) : Py (Terminal W) Int :=
  runDestructive r.ackDestructive "argfuzz" (fuzzBody T a r)

/-! ## The loop -/

/-- The frame of a request between the default addresses. -/
def requestFrame (opcode : Int) (args : Bytes) : Option Bytes := (Xbpi.buildCommand opcode args).toOption

/-- What a raw request between the default addresses is refused with before anything is written. -/
def rawRefusal (active : ProtocolKind) (confirm : Bool) (opcode : Int) (args : Bytes) : Option ErrorClass :=
  if active ≠ .xbpi then some .protocolUnsupportedError
  else if opcode ∉ Commands.safeReadOnlyOpcodes ∧ ¬ confirm then some .confirmationRequiredError
  else if requestFrame opcode args = none then some .frameError
  else none

/-- The result of one item: its own fields, then those of a reply or of an error; a request that is refused has its
error. -/
def IsResult (refused : Option ErrorClass) (entry : Entry) (fields : Xbpi.XbpiFrame → Entry) (result : Entry) : Prop :=
  match refused with
  | some cls => ∃ e : SartoriusError, e.cls = cls ∧ result = entry ++ errorFields e
  | none => (∃ frame, result = entry ++ fields frame) ∨ ∃ e, result = entry ++ errorFields e

theorem executeRawXbpi_refused (T : Transport W) {h : Host W} (hs : Opened h.session) (hsrc : h.session.srcSbn = 0x01)
    (hdst : h.session.dstSbn = 0x09) {confirm : Bool} {opcode : Int} {args : Bytes} {cls : ErrorClass}
    (hcls : rawRefusal h.session.active confirm opcode args = some cls) (timeout : Option Rat) :
    ∃ e : SartoriusError, e.cls = cls ∧
      (executeRawXbpi T opcode args confirm timeout).exec h = (.error (.sartorius e), h) := by
  have hstate : h.session.checkState = .ok () := by rw [Session.checkState, if_neg (by simp [hs.operational])]
  rw [executeRawXbpi, exec_bind_ok (exec_get h)]
  dsimp only
  rw [hstate, exec_bind_ok (exec_liftExcept_ok _ _)]
  unfold rawRefusal at hcls
  by_cases hactive : h.session.active = .xbpi
  swap
  · rw [if_pos hactive] at hcls ⊢
    cases hcls
    exact ⟨_, rfl, rfl⟩
  obtain ⟨client, hclient, -⟩ := hs.client hactive
  rw [if_neg (not_not.mpr hactive)] at hcls ⊢
  rw [hclient]
  dsimp only
  by_cases hgate : opcode ∉ Commands.safeReadOnlyOpcodes ∧ ¬ confirm
  · rw [if_pos hgate] at hcls ⊢
    cases hcls
    exact ⟨_, rfl, rfl⟩
  rw [if_neg hgate] at hcls ⊢
  rw [hsrc, hdst]
  cases hbuild : Xbpi.buildCommand opcode args 1 9 with
  | ok request =>
      have hframe : requestFrame opcode args = some request := congrArg Except.toOption hbuild
      rw [if_neg (by rw [hframe]; exact Option.some_ne_none _)] at hcls
      cases hcls
  | error e =>
      have hframe : requestFrame opcode args = none := congrArg Except.toOption hbuild
      rw [if_pos hframe] at hcls
      cases hcls
      exact ⟨e, Xbpi.buildCommand_error hbuild, rfl⟩

/-- What is recorded of a raw request. -/
theorem exec_recorded (T : Transport W) {h : Host W} (hs : Opened h.session) (hsrc : h.session.srcSbn = 0x01)
    (hdst : h.session.dstSbn = 0x09) (entry : Entry) (fields : Xbpi.XbpiFrame → Entry) (opcode : Int) (args : Bytes)
    (confirm : Bool) (timeout : Option Rat) :
    let run := (recorded entry fields (executeRawXbpi T opcode args confirm timeout)).exec h
    run.2 = ((executeRawXbpi T opcode args confirm timeout).exec h).2 ∧ ∀ result, run.1 = .ok result →
      IsResult (rawRefusal h.session.active confirm opcode args) entry fields result := by
  dsimp only
  cases hcls : rawRefusal h.session.active confirm opcode args with
  | some cls =>
      obtain ⟨e, he, hrun⟩ := executeRawXbpi_refused T hs hsrc hdst hcls timeout
      rw [recorded, exec_tryCatch, exec_map, hrun]
      exact ⟨rfl, fun result hr => ⟨e, he, (Except.ok.inj hr).symm⟩⟩
  | none =>
      rw [recorded, exec_tryCatch, exec_map]
      rcases (executeRawXbpi T opcode args confirm timeout).exec h with ⟨e | frame, h'⟩
      · cases e with
        | sartorius e => exact ⟨rfl, fun result hr => .inr ⟨e, (Except.ok.inj hr).symm⟩⟩
        | _ => exact ⟨rfl, fun result hr => by cases hr⟩
      · exact ⟨rfl, fun result hr => .inl ⟨frame, (Except.ok.inj hr).symm⟩⟩

/-- The requests of the loop go out one after the other; one that ends the loop is the last. -/
theorem recordEach_sends (each : β → Py (Host (Traced W)) Entry) (frames : β → List Bytes) (R : β → Entry → Prop)
    {s : Session} (heach : ∀ item h, h.session = s → Sends (frames item) h ((each item).exec h).2)
    (hresult : ∀ item h, h.session = s → ∀ result, ((each item).exec h).1 = .ok result → R item result)
    (items : List β) :
    ∀ h : Host (Traced W), h.session = s → ∃ sent, Sends sent h ((recordEach each items).exec h).2 ∧
      sent <+: items.flatMap frames ∧ ∀ results, ((recordEach each items).exec h).1 = .ok results →
        sent = items.flatMap frames ∧ List.Forall₂ R items results := by
  induction items with
  | nil =>
      intro h _
      refine ⟨[], .refl h, List.nil_prefix, fun results hr => ?_⟩
      cases hr
      exact ⟨rfl, .nil⟩
  | cons item later ih =>
      intro h hs
      have hitem := heach item h hs
      rw [List.flatMap_cons, recordEach]
      rcases hstep : (each item).exec h with ⟨e | result, h₁⟩
      · rw [hstep] at hitem
        rw [exec_bind_error hstep]
        exact ⟨_, hitem, List.prefix_append _ _, nofun⟩
      rw [hstep] at hitem
      rw [exec_bind_ok hstep]
      obtain ⟨sent, hsent, hbegins, hreturned⟩ := ih h₁ (hitem.session.trans hs)
      rcases hrest : (recordEach each later).exec h₁ with ⟨e | results, h₂⟩
      · rw [hrest] at hsent
        rw [exec_bind_error hrest]
        exact ⟨_, hitem.trans hsent, (List.prefix_append_right_inj _).mpr hbegins, nofun⟩
      · rw [hrest] at hsent hreturned
        rw [exec_bind_ok hrest]
        obtain ⟨hall, hresults⟩ := hreturned results rfl
        refine ⟨_, hitem.trans hsent, by rw [hall], fun results' hr => ?_⟩
        cases hr
        exact ⟨by rw [hall], .cons (hresult item h hs result (congrArg Prod.fst hstep)) hresults⟩

/-- The frames of the requests that pass the gate. -/
def framesOf (confirm : Bool) (requests : List (Int × Bytes)) : List Bytes :=
  (requests.filter fun q => q.1 ∈ Commands.safeReadOnlyOpcodes ∨ confirm = true).filterMap fun q =>
    requestFrame q.1 q.2

theorem asked_other {s : Session} (hactive : s.active ≠ .xbpi) (confirm : Bool) (requests : List (Int × Bytes)) :
    requests.flatMap (fun q => asked s confirm q.1 q.2) = [] := by
  simp [asked, hactive]

theorem asked_xbpi {s : Session} (hactive : s.active = .xbpi) (hsrc : s.srcSbn = 0x01) (hdst : s.dstSbn = 0x09)
    (confirm : Bool) (requests : List (Int × Bytes)) :
    requests.flatMap (fun q => asked s confirm q.1 q.2) = framesOf confirm requests := by
  induction requests with
  | nil => rfl
  | cons q later ih =>
      rw [List.flatMap_cons, ih, asked, hsrc, hdst, framesOf, framesOf, List.filter_cons]
      by_cases hgate : q.1 ∈ Commands.safeReadOnlyOpcodes ∨ confirm = true
      · rw [if_pos ⟨hactive, hgate⟩, if_pos (decide_eq_true hgate), List.filterMap_cons, requestFrame,
          Xbpi.hostSbnDefault, Xbpi.balanceSbnDefault]
        cases (Xbpi.buildCommand q.1 q.2 1 9).toOption <;> rfl
      · rw [if_neg (fun h => hgate h.2), if_neg (by simpa using hgate), List.nil_append]

/-- What a loop of requests sends over the protocol that was found: their frames in order, all of them if it returns,
and none over SBI. -/
def InOrder (frames : List Bytes) (R : ProtocolKind → α → Prop) (active : ProtocolKind) (result : Except Exc α)
    (sent : List Bytes) : Prop :=
  sent <+: frames ∧ ∀ a, result = .ok a → sent = (if active = .xbpi then frames else []) ∧ R active a

/-- A body that does so on every new balance. -/
def SendsInOrder (frames : List Bytes) (R : ProtocolKind → α → Prop) (body : Py (Host (Traced W)) α) : Prop :=
  ∀ h, Opened h.session → h.session.srcSbn = 0x01 → h.session.dstSbn = 0x09 →
    ∃ sent, Sends sent h (body.exec h).2 ∧ InOrder frames R h.session.active (body.exec h).1 sent

/-- The results of a loop: one for each item, in order. -/
def Results (confirm : Bool) (request : β → Int × Bytes) (entry : β → Entry) (fields : Xbpi.XbpiFrame → Entry)
    (items : List β) (active : ProtocolKind) (results : List Entry) : Prop :=
  List.Forall₂
    (fun item => IsResult (rawRefusal active confirm (request item).1 (request item).2) (entry item) fields)
    items results

/-- A loop of raw requests. -/
theorem requests_sends (T : Transport W) (timeout : Rat) (confirm : Bool) (request : β → Int × Bytes)
    (entry : β → Entry) (fields : Xbpi.XbpiFrame → Entry) (items : List β) :
    SendsInOrder (framesOf confirm (items.map request)) (Results confirm request entry fields items)
      (recordEach (fun item => recorded (entry item) fields
        (executeRawXbpi (traced T) (request item).1 (request item).2 confirm (some timeout))) items) := by
  intro h hs hsrc hdst
  have hrecorded := fun (item : β) (h' : Host (Traced W)) (hh' : h'.session = h.session) =>
    exec_recorded (traced T) (hh' ▸ hs) (hh' ▸ hsrc) (hh' ▸ hdst) (entry item) fields (request item).1 (request item).2
      confirm (some timeout)
  have hstep : ∀ item h', h'.session = h.session → Sends (asked h.session confirm (request item).1 (request item).2) h'
      ((recorded (entry item) fields
        (executeRawXbpi (traced T) (request item).1 (request item).2 confirm (some timeout))).exec h').2 := by
    intro item h' hh'
    rw [(hrecorded item h' hh').1, ← hh']
    exact executeRawXbpi_sends T (hh' ▸ hs) _ _ _ _
  obtain ⟨sent, hsent, hbegins, hreturned⟩ := recordEach_sends _ _
    (fun item => IsResult (rawRefusal h.session.active confirm (request item).1 (request item).2) (entry item) fields)
    hstep (fun item h' hh' => hh' ▸ (hrecorded item h' hh').2) items h rfl
  have hmap : items.flatMap (fun item => asked h.session confirm (request item).1 (request item).2) =
      (items.map request).flatMap fun q => asked h.session confirm q.1 q.2 := by
    rw [List.flatMap_map]
  rw [hmap] at hbegins hreturned
  refine ⟨sent, hsent, ?_⟩
  by_cases hactive : h.session.active = .xbpi
  · rw [asked_xbpi hactive hsrc hdst] at hbegins hreturned
    refine ⟨hbegins, fun a ha => ?_⟩
    rw [if_pos hactive]
    exact hreturned a ha
  · rw [asked_other hactive] at hbegins hreturned
    refine ⟨hbegins.trans List.nil_prefix, fun a ha => ?_⟩
    rw [if_neg hactive]
    exact hreturned a ha

/-! ## The commands -/

/-- The results were printed, or they are in the file of `--out` and one line says so. -/
def Reported (name : String) (out : Option String) (text : List Entry → String) (results : List Entry)
    (t t' : Terminal W) : Prop :=
  match out with
  | none => t'.stdout = t.stdout ++ text results ∧ t'.files = t.files
  | some path =>
      t'.stdout = t.stdout ++ s!"{name}: wrote {results.length} results to {path}\n" ∧
        t'.files = t.files ++ [(path, results)]

/-- The account of a command whose requests have these frames: what it wrote, and what it told of its results. -/
structure Account (r : OpenRequest) (frames : List Bytes) (R : ProtocolKind → List Entry → Prop) (name : String)
    (out : Option String) (text : List Entry → String) (t : Terminal (Traced W))
    (run : Except Exc Int × Terminal (Traced W)) : Prop where
  line : ∃ probed sent, writes (lineOf run.2.opening) = writes (lineOf t.opening) ++ (probed ++ sent) ∧
    probed <+: probesOf r ∧ sent <+: frames ∧
    (run.1 = .ok 0 → sent = if run.2.opening.host.session.active = .xbpi then frames else [])
  reported : run.1 = .ok 0 → ∃ results, R run.2.opening.host.session.active results ∧
    Reported name out text results t run.2

variable {r : OpenRequest} {frames : List Bytes} {R : ProtocolKind → List Entry → Prop} {name : String}
  {out : Option String} {text : List Entry → String}

/-- A program that refuses its arguments opens nothing. -/
theorem Account.refused (message : String) {code : Int} (hcode : code ≠ 0) (t : Terminal (Traced W)) :
    Account r frames R name out text t ((do writeStderr message; pure code : Py (Terminal (Traced W)) Int).exec t) where
  line := ⟨[], [], (List.append_nil _).symm, List.nil_prefix, List.nil_prefix,
    fun h => absurd (Except.ok.inj h) hcode⟩
  reported h := absurd (Except.ok.inj h) hcode

theorem Account.raised {t t' : Terminal (Traced W)} (hopening : t'.opening = t.opening) {e : Exc} :
    Account r frames R name out text t (.error e, t') where
  line := ⟨[], [], by rw [hopening]; simp, List.nil_prefix, List.nil_prefix, fun h => by cases h⟩
  reported h := by cases h

theorem Account.runCli {body : Py (Terminal (Traced W)) Int} {t : Terminal (Traced W)}
    (h : Account r frames R name out text t (body.exec t)) :
    Account r frames R name out text t ((runCli body).exec t) := by
  obtain ⟨hopening, hstdout, hfiles, hcode⟩ := runCli_body body t
  obtain ⟨probed, sent, hline, hprobed, hsent, hall⟩ := h.line
  refine ⟨⟨probed, sent, by rw [hopening]; exact hline, hprobed, hsent, fun hz => ?_⟩, fun hz => ?_⟩
  · rw [hopening]
    exact hall (hcode hz)
  · unfold Reported
    rw [hopening, hstdout, hfiles]
    exact h.reported (hcode hz)

theorem report_reported (name : String) (out : Option String) (text : List Entry → String) (results : List Entry)
    (t : Terminal W) :
    ∃ t', (report name out text results).exec t = (.ok ⟨⟩, t') ∧ t'.opening = t.opening ∧
      Reported name out text results t t' := by
  cases out with
  | none => exact ⟨_, rfl, rfl, rfl, rfl⟩
  | some path => exact ⟨_, rfl, rfl, rfl, rfl⟩

/-- A command that opens a balance for its requests and tells of their results. -/
theorem command_account (T : OwnedTransport W) (a : OpenArgs) {body : Py (Host (Traced W)) (List Entry)}
    (hbody : SendsInOrder frames R body) (t : Terminal (Traced W)) :
    Account a.request frames R name out text t
      ((do
        let results ← onOpening (withBalance (tracedPort T) a body)
        report name out text results
        pure 0 : Py (Terminal (Traced W)) Int).exec t) := by
  obtain ⟨probed, sent, hline, hprobed, hwork⟩ := withBalance_ran T a (P := InOrder frames R) (fun h hs hsrc hdst => by
    obtain ⟨sent, hsent, horder⟩ := hbody h hs hsrc hdst
    exact ⟨sent, hsent.writes, congrArg Session.active hsent.session, horder⟩) t.opening
  have hexec : (onOpening (withBalance (tracedPort T) a body)).exec t =
      (((withBalance (tracedPort T) a body).exec t.opening).1,
        { t with opening := ((withBalance (tracedPort T) a body).exec t.opening).2 }) := rfl
  rcases hrun : (withBalance (tracedPort T) a body).exec t.opening with ⟨e | results, o⟩ <;>
    rw [hrun] at hline hwork hexec
  · rw [exec_bind_error hexec]
    have hbegun : sent <+: frames := by
      rcases hwork with ⟨rfl, -⟩ | ⟨result, horder, -⟩
      · exact List.nil_prefix
      · exact horder.1
    exact ⟨⟨probed, sent, hline, hprobed, hbegun, fun h => by cases h⟩, fun h => by cases h⟩
  · rw [exec_bind_ok hexec]
    rcases hwork with ⟨-, e, he⟩ | ⟨result, ⟨hbegun, hreturned⟩, hok⟩
    · cases he
    obtain ⟨hall, hresults⟩ := hreturned results (hok results rfl)
    obtain ⟨t', hreport, hopening, hreported⟩ := report_reported name out text results { t with opening := o }
    rw [exec_bind_ok hreport]
    exact ⟨⟨probed, sent, by rw [exec_pure, hopening]; exact hline, hprobed, hbegun, fun _ => by
      rw [exec_pure, hopening]; exact hall⟩, fun _ => ⟨results, by rw [exec_pure, hopening]; exact hresults, hreported⟩⟩

/-- The opcodes of an interval are its members, in order. -/
theorem mem_interval {first last n : Int} : n ∈ interval first last ↔ first ≤ n ∧ n ≤ last := by
  simp only [interval, List.mem_map, List.mem_range]
  constructor
  · rintro ⟨i, hi, rfl⟩
    omega
  · rintro ⟨h₁, h₂⟩
    exact ⟨(n - first).toNat, by omega, by omega⟩

theorem requestFrame_opcode {opcode : Int} {args frame : Bytes} (h : requestFrame opcode args = some frame) :
    frame[3]? = some (Xbpi.toByte opcode) ∧ ((Xbpi.toByte opcode).toNat : Int) = opcode := by
  unfold requestFrame at h
  cases hbuild : Xbpi.buildCommand opcode args with
  | error e =>
      rw [hbuild] at h
      cases h
  | ok built =>
      rw [hbuild] at h
      cases h
      obtain ⟨⟨h₀, h₁⟩, -⟩ := Xbpi.buildCommand_eq_ok hbuild
      exact ⟨Xbpi.buildCommand_opcode hbuild, Xbpi.toByte_toNat h₀ h₁⟩

/-- The requests that have no frame. -/
theorem requestFrame_eq_none {opcode : Int} {args : Bytes} :
    requestFrame opcode args = none ↔ ¬ isByte opcode ∨ 251 < args.length := by
  have hbyte : isByte opcode ↔ 0 ≤ opcode ∧ opcode ≤ 255 := by simp [isByte]
  rw [hbyte]
  unfold requestFrame
  cases hbuild : Xbpi.buildCommand opcode args with
  | ok frame =>
      obtain ⟨hopcode, -, -, hargs, -⟩ := Xbpi.buildCommand_eq_ok hbuild
      refine iff_of_false (Option.some_ne_none _) ?_
      rintro (h | h)
      · exact h hopcode
      · omega
  | error e =>
      refine iff_of_true rfl ?_
      by_contra hfits
      rw [not_or, not_not, Nat.not_lt] at hfits
      have hfit : ∃ frame, Xbpi.buildCommand opcode args = .ok frame :=
        Xbpi.buildCommand_fits args hfits.1 (by decide) (by decide) hfits.2
      obtain ⟨frame, hframe⟩ := hfit
      rw [hframe] at hbuild
      cases hbuild

/-- The opcodes of the frames that requests without arguments send. -/
theorem mem_framesOf {confirm : Bool} {opcodes : List Int} (b : UInt8) :
    (∃ frame ∈ framesOf confirm (opcodes.map fun opcode => (opcode, [])), frame[3]? = some b) ↔
      (b.toNat : Int) ∈ opcodes ∧ ((b.toNat : Int) ∈ Commands.safeReadOnlyOpcodes ∨ confirm = true) := by
  simp only [framesOf, List.mem_filterMap, List.mem_filter, List.mem_map, decide_eq_true_eq]
  constructor
  · rintro ⟨frame, ⟨_, ⟨⟨opcode, hmem, rfl⟩, hgate⟩, hframe⟩, hb⟩
    obtain ⟨hopcode, hbyte⟩ := requestFrame_opcode hframe
    obtain rfl := Option.some.inj (hopcode.symm.trans hb)
    rw [hbyte]
    exact ⟨hmem, hgate⟩
  · rintro ⟨hmem, hgate⟩
    have hlt := b.toNat_lt
    obtain ⟨frame, hbuild⟩ : ∃ frame, Xbpi.buildCommand b.toNat [] = .ok frame :=
      Xbpi.buildCommand_fits [] (by omega) (by decide) (by decide) (by simp)
    refine ⟨frame, ⟨_, ⟨⟨_, hmem, rfl⟩, hgate⟩, by rw [requestFrame, hbuild]; rfl⟩, ?_⟩
    rw [Xbpi.buildCommand_opcode hbuild, Xbpi.toByte, Int.toNat_natCast, UInt8.ofNat_toNat]

/-- A sweep without its acknowledgement touches nothing. With it, the opcodes it sends are those of its interval, in
order, without the ones that change persistent state unless all are asked for; and it tells of one result for each. -/
theorem sweep_shielded (T : OwnedTransport W) (a : OpenArgs) (r : SweepArgs) (t : Terminal (Traced W)) :
    Account a.request (framesOf true (r.opcodes.map fun opcode => (opcode, [])))
        (Results true (fun opcode => (opcode, [])) opcodeEntry replyFields r.opcodes) "sweep" r.out r.text t
        ((sweepMain (tracedPort T) a r).exec t) ∧
      (r.ackDestructive = false → ((sweepMain (tracedPort T) a r).exec t).2.opening = t.opening) ∧
      ∀ b : UInt8,
        (∃ frame ∈ framesOf true (r.opcodes.map fun opcode => (opcode, [])), frame[3]? = some b) ↔
          r.first ≤ b.toNat ∧ b.toNat ≤ r.last ∧ (r.includeAll = false → (b.toNat : Int) ∉ defaultSweepExclude) := by
  refine ⟨?_, ?_, fun b => ?_⟩
  · rw [sweepMain, runDestructive]
    split
    · refine Account.runCli ?_
      rw [sweepBody]
      split
      · exact .refused _ one_ne_zero t
      · split
        · exact .refused _ one_ne_zero t
        · exact command_account T a (requests_sends T.toTransport a.timeout true (fun opcode => (opcode, []))
            opcodeEntry replyFields r.opcodes) t
    · exact .refused _ two_ne_zero t
  · intro hack
    rw [sweepMain, runDestructive, hack, if_neg Bool.false_ne_true]
    rfl
  · rw [mem_framesOf, SweepArgs.opcodes, List.mem_filter, mem_interval, SweepArgs.excluded]
    cases r.includeAll <;> simp [and_assoc]

/-- A snapshot is read-only, whatever opcodes it is asked for: it sends those of them that are on the safe-list, and
tells of a result for each. -/
theorem snapshot_readOnly (T : OwnedTransport W) (a : OpenArgs) (only : Option (List Int)) (out : Option String)
    (t : Terminal (Traced W)) :
    Account a.request (framesOf false ((snapshotOpcodes only).map fun opcode => (opcode, [])))
        (Results false (fun opcode => (opcode, [])) opcodeEntry snapshotFields (snapshotOpcodes only)) "snapshot" out
        snapshotText t ((snapshotMain (tracedPort T) a only out).exec t) ∧
      ∀ b : UInt8,
        (∃ frame ∈ framesOf false ((snapshotOpcodes only).map fun opcode => (opcode, [])), frame[3]? = some b) ↔
          (b.toNat : Int) ∈ snapshotOpcodes only ∧ (b.toNat : Int) ∈ Commands.safeReadOnlyOpcodes := by
  constructor
  · exact (command_account T a (requests_sends T.toTransport a.timeout false (fun opcode => (opcode, []))
      opcodeEntry snapshotFields (snapshotOpcodes only)) t).runCli
  · intro b
    rw [mem_framesOf]
    simp

/-- The payloads of a fuzzing, if it has any. -/
def FuzzArgs.payloads (r : FuzzArgs) : List Bytes := (buildPayloads r).toOption.getD []

/-- A fuzzing without its acknowledgement touches nothing. With it, it sends its payloads in order, each behind the one
opcode that it was given, and tells of a result for each. -/
theorem fuzz_oneOpcode (T : OwnedTransport W) (a : OpenArgs) (r : FuzzArgs) (t : Terminal (Traced W)) :
    Account a.request (framesOf true (r.payloads.map fun payload => (r.opcode, payload)))
        (Results true (fun payload => (r.opcode, payload)) argsEntry replyFields r.payloads) "argfuzz" r.out r.text t
        ((fuzzMain (tracedPort T) a r).exec t) ∧
      (r.ackDestructive = false → ((fuzzMain (tracedPort T) a r).exec t).2.opening = t.opening) ∧
      (∀ frame ∈ framesOf true (r.payloads.map fun payload => (r.opcode, payload)), ∃ payload ∈ r.payloads, ∃ chk,
        ((frame[3]?.getD 0).toNat : Int) = r.opcode ∧ frame.drop 4 = payload ++ [chk]) ∧
      ∀ payload, requestFrame r.opcode payload = none ↔ ¬ isByte r.opcode ∨ 251 < payload.length := by
  refine ⟨?_, ?_, fun frame hframe => ?_, fun payload => requestFrame_eq_none⟩
  · rw [fuzzMain, runDestructive]
    split
    · refine Account.runCli ?_
      rw [fuzzBody]
      split
      · exact .refused _ one_ne_zero t
      · cases hpayloads : buildPayloads r with
        | error e => exact .raised rfl
        | ok payloads =>
            have hsame : r.payloads = payloads := by rw [FuzzArgs.payloads, hpayloads]; rfl
            rw [hsame, exec_bind_ok (exec_liftExcept_ok _ _)]
            exact command_account T a (requests_sends T.toTransport a.timeout true (fun payload => (r.opcode, payload))
              argsEntry replyFields payloads) t
    · exact .refused _ two_ne_zero t
  · intro hack
    rw [fuzzMain, runDestructive, hack, if_neg Bool.false_ne_true]
    rfl
  · simp only [framesOf, List.mem_filterMap, List.mem_filter, List.mem_map] at hframe
    obtain ⟨_, ⟨⟨payload, hpayload, rfl⟩, -⟩, hframe⟩ := hframe
    obtain ⟨hopcode, hbyte⟩ := requestFrame_opcode hframe
    refine ⟨payload, hpayload, ?_⟩
    rw [hopcode, Option.getD_some, hbyte]
    cases hbuild : Xbpi.buildCommand r.opcode payload with
    | error e =>
        rw [requestFrame, hbuild] at hframe
        cases hframe
    | ok built =>
        rw [requestFrame, hbuild] at hframe
        cases hframe
        obtain ⟨-, -, -, -, chk, rfl⟩ := Xbpi.buildCommand_eq_ok hbuild
        exact ⟨chk, rfl, rfl⟩

end SartoriusLib.Cli
