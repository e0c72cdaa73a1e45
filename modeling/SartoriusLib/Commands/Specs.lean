import SartoriusLib.Commands.Base
import SartoriusLib.Protocol.Xbpi.Parser
import SartoriusLib.Protocol.Xbpi.Tlv

/-!
# The commands

Identity, weight, tare, status, metrology, parameters, system and calibration. Commands of one shape share a
variant and differ in their opcode or token.
-/

namespace SartoriusLib.Commands

open SartoriusLib Lib

/-- A library function called from an encoder or a decoder. -/
def lift {α : Type} (x : Except SartoriusError α) : Except Exc α := x.mapError .sartorius

/-- `build_command(opcode, args, src_sbn=ctx.src_sbn, dst_sbn=ctx.dst_sbn)`. -/
def frameOf (opcode : Int) (args : Bytes) (ctx : CommandContext) : Except Exc Bytes :=
  lift (Xbpi.buildCommand opcode args ctx.srcSbn ctx.dstSbn)

/-- The tag of a one-byte argument. -/
def tlvU8Tag : Nat := 0x21

def tlvU8 (n : Int) : Except Exc Bytes := lift (Xbpi.encodeTlv tlvU8Tag (.int n))

/-- A request without arguments. -/
def noArgs {Req Resp : Type} (opcode : Int)
    (decode : Xbpi.XbpiFrame → CommandContext → Except Exc Resp) : XbpiVariant Req Resp where
  opcode
  encode ctx _ := frameOf opcode [] ctx
  decode

/-- A request with one byte-sized argument. -/
def oneArg {Req Resp : Type} (opcode : Int) (arg : Req → Int)
    (decode : Xbpi.XbpiFrame → CommandContext → Except Exc Resp) : XbpiVariant Req Resp where
  opcode
  encode ctx request := do frameOf opcode (← tlvU8 (arg request)) ctx
  decode

/-- The reply carries nothing beyond its acknowledgement. -/
def ackOnly {Req : Type} (opcode : Int) : XbpiVariant Req Unit := noArgs opcode fun _ _ => .ok ()

/-- An SBI command whose request is its token. -/
def tokenVariant {Req Resp : Type} (token : Bytes) (expectLines : Int)
    (decode : Sbi.SbiReply → CommandContext → Except Exc Resp) : SbiVariant Req Resp where
  token
  expectLines
  encode _ _ := .ok token
  decode

/-! ## Identity -/

/-- `body.rstrip(b"\x00 ").decode("ascii", errors="replace").strip()`. -/
def decodeAsciiBlob (body : Bytes) : Text := Text.strip (decodeAsciiReplace (Bytes.rstrip [0x00, 0x20] body))

def asciiBlobVariant (opcode : Int) : XbpiVariant Unit Text :=
  noArgs opcode fun reply _ => .ok (decodeAsciiBlob reply.body)

def rawBlobVariant (opcode : Int) : XbpiVariant Unit Bytes := noArgs opcode fun reply _ => .ok reply.body

def readSbnVariant : XbpiVariant Unit Int :=
  noArgs 0x71 fun reply _ => .ok (reply.body.headD 0).toNat

def sbiIdentityTextVariant (token : Bytes) : SbiVariant Unit Text :=
  tokenVariant token 1 fun reply _ => lift (Sbi.requireIdentityText reply false)

def sbiIdentityBytesVariant (token : Bytes) : SbiVariant Unit Bytes :=
  tokenVariant token 1 fun reply _ => lift ((Sbi.requireIdentityText reply).map encodeAsciiReplace)

def READ_MODEL : Command Unit Text where
  name := "read_model"
  xbpi := some (asciiBlobVariant 0x02)
  sbi := some (sbiIdentityTextVariant Sbi.TOKEN_TYPE)

def READ_MANUFACTURER : Command Unit Text where
  name := "read_manufacturer"
  xbpi := some (asciiBlobVariant 0x07)

def READ_OEM_TEXT : Command Unit Text where
  name := "read_oem_text"
  xbpi := some (asciiBlobVariant 0x05)

def READ_SW_VERSION : Command Unit Bytes where
  name := "read_software_version"
  xbpi := some (rawBlobVariant 0x00)
  sbi := some (sbiIdentityBytesVariant Sbi.TOKEN_SOFTWARE)

def READ_FACTORY_NUMBER : Command Unit Bytes where
  name := "read_factory_number"
  xbpi := some (rawBlobVariant 0x01)
  sbi := some (sbiIdentityBytesVariant Sbi.TOKEN_SERIAL)

def READ_SBN : Command Unit Int where
  name := "read_sbn"
  xbpi := some readSbnVariant

/-! ## Weight -/

def measurementReplyToReading (reply : Xbpi.XbpiFrame) (ctx : CommandContext) : Except Exc Reading := do
  let body ← lift (Xbpi.decodeMeasurementBody reply.body)
  .ok
    { value := body.value, unit := body.unit, sign := body.sign, stable := body.stable, overload := false,
      underload := false, decimals := some body.decimals, sequence := none,
      statusFlags := [("stable", body.stable), ("off_scale", body.offScale)], protocol := ctx.protocol,
      raw := reply.raw }

def readWeightStdVariant (opcode : Int) : XbpiVariant Unit Reading := noArgs opcode measurementReplyToReading

def readWeightHiresVariant (opcode : Int) : XbpiVariant Int Reading :=
  oneArg opcode id measurementReplyToReading

def sbiPrintWeightVariant : SbiVariant Unit Reading :=
  tokenVariant Sbi.TOKEN_PRINT 1 fun reply _ => lift (Sbi.requireReading reply)

def READ_NET : Command Unit Reading where
  name := "read_net"
  xbpi := some (readWeightStdVariant 0x1E)
  sbi := some sbiPrintWeightVariant

def READ_GROSS : Command Unit Reading where
  name := "read_gross"
  xbpi := some (readWeightStdVariant 0x20)

def READ_TARE_VALUE : Command Unit Reading where
  name := "read_tare_value"
  xbpi := some (readWeightStdVariant 0x22)

def READ_NET_HIRES : Command Int Reading where
  name := "read_net_hires"
  xbpi := some (readWeightHiresVariant 0x1F)
  capabilityHints := [.hiresWeight]

def READ_GROSS_HIRES : Command Int Reading where
  name := "read_gross_hires"
  xbpi := some (readWeightHiresVariant 0x21)
  capabilityHints := [.hiresWeight]

/-! ## Tare and zero -/

def sbiNoReplyVariant (token : Bytes) : SbiVariant Unit Unit := tokenVariant token 0 fun _ _ => .ok ()

def TARE : Command Unit Unit where
  name := "tare"
  xbpi := some (ackOnly 0x14)
  sbi := some (sbiNoReplyVariant Sbi.TOKEN_TARE)
  safety := .stateful

def ZERO : Command Unit Unit where
  name := "zero"
  xbpi := some (ackOnly 0x18)
  sbi := some (sbiNoReplyVariant Sbi.TOKEN_ZERO)
  safety := .stateful

/-! ## Status -/

def stateFromStatusBlock (overload underload stable : Bool) : BalanceState :=
  if overload then .overload else if underload then .underload else if stable then .stable else .unstable

def statusBlockVariant : XbpiVariant Unit BalanceStatus :=
  noArgs 0x30 fun reply _ => do
    let block ← lift (Xbpi.decodeStatusBlockBody reply.body)
    .ok
      { stable := some block.stable,
        state := stateFromStatusBlock block.overload block.underload block.stable,
        isocalDue := block.isocalDue, adcTrusted := block.adcTrusted, sequence := some block.sequence,
        rawState := some block.state, rawStatus := some block.status, raw := reply.raw }

def sbiStatusVariant : SbiVariant Unit BalanceStatus :=
  tokenVariant Sbi.TOKEN_PRINT 1 fun reply _ => do
    let reading ← lift (Sbi.requireReading reply)
    .ok
      { stable := some reading.stable,
        state := stateFromStatusBlock reading.overload reading.underload reading.stable,
        isocalDue := none, adcTrusted := none, sequence := none, rawState := none, rawStatus := none,
        raw := reply.raw }

def STATUS_BLOCK : Command Unit BalanceStatus where
  name := "status_block"
  xbpi := some statusBlockVariant
  sbi := some sbiStatusVariant

/-! ## Metrology -/

/-- Bytes of the body of a sensor that is not installed. -/
def temperatureSentinel : Bytes := [0x7F, 0xFF, 0xFF, 0xFF]

def metrologyVariant (opcode : Int) : XbpiVariant Int Quantity :=
  oneArg opcode id fun reply _ => do
    let body ← lift (Xbpi.decodeTypedFloatBody reply.body)
    .ok { value := body.value, unit := .unknown }

def temperatureVariant : XbpiVariant Int TemperatureReading :=
  oneArg 0x76 id fun reply _ =>
    if reply.body.take 4 = temperatureSentinel then .ok { sensor := -1, celsius := none, raw := reply.body }
    else do
      let body ← lift (Xbpi.decodeTypedFloatBody reply.body)
      .ok { sensor := -1, celsius := some body.value, raw := reply.body }

def READ_CAPACITY : Command Int Quantity where
  name := "read_capacity"
  xbpi := some (metrologyVariant 0x0C)
  parameterized := true

def READ_INCREMENT : Command Int Quantity where
  name := "read_increment"
  xbpi := some (metrologyVariant 0x0D)
  parameterized := true

def READ_TEMPERATURE : Command Int TemperatureReading where
  name := "read_temperature"
  xbpi := some temperatureVariant
  capabilityHints := [.temperatureSensors]
  parameterized := true

/-! ## Parameters -/

structure WriteParameterRequest where
  index : Int
  value : Int
  deriving DecidableEq, Repr

def readParameterError (message : String) (reply : Xbpi.XbpiFrame) (extra : List (String × Extra)) : Exc :=
  .sartorius
    { cls := .parseError, message,
      context := { commandName := some "read_parameter", opcode := some 0x55,
                   rawResponse := some reply.raw, extra } }

/-- The subtype of the reply is the tag of its first record. -/
def readParameterDecode (reply : Xbpi.XbpiFrame) (_ctx : CommandContext) : Except Exc ParameterEntry := do
  match ← lift (Xbpi.parseTlvSequence (reply.subtype :: reply.body)) with
  | [(currentTag, currentValue), (maxTag, maxValue)] =>
      if currentTag.toNat ≠ tlvU8Tag ∨ maxTag.toNat ≠ tlvU8Tag then
        .error (readParameterError
          s!"read_parameter expects two TLV-21 records, got tags 0x{hex02 currentTag.toNat}, 0x{hex02 maxTag.toNat}"
          reply [])
      else
        .ok { index := -1, current := (currentValue.headD 0).toNat, max := (maxValue.headD 0).toNat,
              raw := reply.body }
  | tlvs =>
      .error (readParameterError s!"read_parameter reply should have 2 TLVs, got {tlvs.length}" reply
        [("tlv_count", .int tlvs.length)])

def writeParameterVariant : XbpiVariant WriteParameterRequest Unit where
  opcode := 0x56
  encode ctx request := do
    let index ← tlvU8 request.index
    let value ← tlvU8 request.value
    frameOf 0x56 (index ++ value) ctx
  decode _ _ := .ok ()

def READ_PARAMETER : Command Int ParameterEntry where
  name := "read_parameter"
  xbpi := some (oneArg 0x55 id readParameterDecode)
  capabilityHints := [.parameterTable]
  parameterized := true

def WRITE_PARAMETER : Command WriteParameterRequest Unit where
  name := "write_parameter"
  xbpi := some writeParameterVariant
  capabilityHints := [.parameterTable]
  safety := .persistent
  parameterized := true

/-! ## System -/

def configCounterVariant : XbpiVariant Unit Nat :=
  noArgs 0xBA fun reply _ =>
    match reply.body with
    | [counter] => .ok counter.toNat
    | body =>
        .error (.sartorius
          { cls := .parseError, message := s!"config_counter body must be 1 byte, got {body.length}",
            context := { commandName := some "config_counter", opcode := some 0xBA,
                         rawResponse := some reply.raw } })

def CONFIG_COUNTER : Command Unit Nat where
  name := "config_counter"
  xbpi := some configCounterVariant
  capabilityHints := [.configCounter]

def SAVE_MENU : Command Unit Unit where
  name := "save_menu"
  xbpi := some (ackOnly 0x47)
  safety := .persistent

def RELOAD_MENU : Command Unit Unit where
  name := "reload_menu"
  xbpi := some (ackOnly 0x46)
  safety := .persistent

/-! ## Calibration -/

/-- The selector of an internal adjustment. -/
def internalAdjustCalType : Int := 0x78

def calRecordLen : Nat := 17

def lastCalRecordVariant : XbpiVariant Unit CalRecord :=
  noArgs 0xB9 fun reply _ =>
    let body := reply.body
    if body.length ≠ calRecordLen then
      .error (.sartorius
        { cls := .parseError, message := s!"cal-record body must be {calRecordLen} bytes, got {body.length}",
          context := { commandName := some "last_cal_record", opcode := some 0xB9,
                       rawResponse := some reply.raw } })
    else
      .ok
        { temperatureCelsius := if body.take 4 = [0, 0, 0, 0] then none else some (unpackFloat32 (body.take 4)),
          signature := (body.drop 4).take 9, counters := (body.drop 13).take 3,
          padding := (body.getD 16 0).toNat, raw := body }

def LAST_CAL_RECORD : Command Unit CalRecord where
  name := "last_cal_record"
  xbpi := some lastCalRecordVariant
  capabilityHints := [.calRecord]

def INTERNAL_ADJUST : Command Int Unit where
  name := "internal_adjust"
  xbpi := some (oneArg 0x28 id fun _ _ => .ok ())
  capabilityHints := [.internalCal]
  safety := .dangerous

/-! ## The raw safe-list -/

/-- Opcodes that the raw escape hatch sends without a confirmation. -/
def safeReadOnlyOpcodes : List Int :=
  [0x00, 0x01, 0x02, 0x03, 0x05, 0x07, 0x0A, 0x0F, 0x0B, 0x0C, 0x0D, 0x0E, 0x1C, 0x1E, 0x1F, 0x20, 0x21,
   0x22, 0x23, 0x26, 0x57, 0x2E, 0x2F, 0x30, 0x32, 0x35, 0x36, 0x76, 0x54, 0x55, 0x71, 0xB9, 0xBA, 0xBC]

end SartoriusLib.Commands
