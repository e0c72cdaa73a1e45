import SartoriusLib.Devices.Models
import SartoriusLib.Protocol.Xbpi.Framing

/-!
# xBPI body decoders

Each decoder turns the body of a validated frame into a typed record. A body of the wrong length is the
one error of a fixed-size decoder.
-/

namespace SartoriusLib.Xbpi

open SartoriusLib

/-! ## Units and signs -/

def decodeDecimals (byte5 : UInt8) : Nat := byte5.toNat / 16

/-- The sign is in the top two bits of the unit byte. -/
def decodeSign (byte6 : UInt8) : Sign :=
  match byte6 &&& 0xC0 with
  | 0x00 => .zero
  | 0x40 => .positive
  | 0x80 => .negative
  | _ => .unknown

def unitByteToUnit (unitId : UInt8) : MeasurementUnit :=
  match unitId &&& 0x3F with
  | 0x02 => .g
  | 0x03 => .kg
  | 0x0D => .mg
  | 0x17 => .newton
  | _ => .unknown

def decodeUnit (byte6 : UInt8) : MeasurementUnit := unitByteToUnit (byte6 &&& 0x3F)

/-! ## Bodies -/

structure MeasurementBody where
  raw : Bytes
  value : Option PyFloat
  aux : Nat
  decimals : Nat
  unit : MeasurementUnit
  sign : Sign
  stable : Bool
  offScale : Bool
  unitRaw : Nat
  flags : Nat
  deriving DecidableEq, Repr

structure StatusBlockBody where
  raw : Bytes
  auxFlag : Nat
  state : Nat
  status : Nat
  sequence : Nat
  stable : Bool
  overload : Bool
  underload : Bool
  adcTrusted : Option Bool
  isocalDue : Option Bool
  deriving DecidableEq, Repr

/-- A short measurement and a status block, with the delimiter between them. -/
structure LongMeasurementBody where
  measurement : MeasurementBody
  delimiter : UInt8
  status : StatusBlockBody
  deriving DecidableEq, Repr

structure TypedFloatBody where
  value : PyFloat
  aux : Nat
  deriving DecidableEq, Repr

structure ErrorBody where
  code : Nat
  deriving DecidableEq, Repr

def offScaleSentinel : Bytes := [0x7F, 0xFF, 0xFF, 0xFF, 0xFF]

/-- The error of a body that does not have its fixed length. -/
def bodyLengthError (what : String) (expected : Nat) (unit : String) (body : Bytes) : SartoriusError :=
  { cls := .parseError, message := s!"{what} must be {expected} {unit}, got {body.length}",
    context := { rawResponse := some body } }

def decodeMeasurementBody (body : Bytes) : Except SartoriusError MeasurementBody :=
  if body.length ≠ 8 then .error (bodyLengthError "short measurement body" 8 "bytes" body)
  else
    let offScale := body.take 5 == offScaleSentinel
    let byte6 := body.getD 6 0
    let flags := body.getD 7 0
    .ok
      { raw := body, value := if offScale then none else some (unpackFloat32 (body.take 4)),
        aux := (body.getD 4 0).toNat, decimals := decodeDecimals (body.getD 5 0),
        unit := decodeUnit byte6, sign := decodeSign byte6, stable := flags &&& 0x40 != 0,
        offScale, unitRaw := byte6.toNat, flags := flags.toNat }

def decodeStatusBlockBody (body : Bytes) : Except SartoriusError StatusBlockBody :=
  if body.length ≠ 8 then .error (bodyLengthError "status block" 8 "bytes" body)
  else
    let state := body.getD 3 0
    let status := body.getD 4 0
    -- only Cubis states carry the base bit, and only they report trust and isoCAL
    let cubisShape := state &&& 0x80 != 0
    .ok
      { raw := body, auxFlag := (body.getD 0 0).toNat, state := state.toNat, status := status.toNat,
        sequence := (body.getD 7 0).toNat, stable := state &&& 0x08 != 0, overload := state == 0x82,
        underload := state == 0x84,
        adcTrusted := if cubisShape then some (status &&& 0x08 != 0) else none,
        isocalDue := if cubisShape then some (status &&& 0x10 != 0) else none }

def longMeasurementDelimiter : UInt8 := 0x48

def decodeLongMeasurementBody (body : Bytes) : Except SartoriusError LongMeasurementBody := do
  if body.length ≠ 17 then .error (bodyLengthError "long measurement body" 17 "bytes" body)
  else
    let measurement ← decodeMeasurementBody (body.take 8)
    let delimiter := body.getD 8 0
    if delimiter ≠ longMeasurementDelimiter then
      .error { cls := .parseError,
               message := s!"long measurement delimiter must be 0x{hex02 longMeasurementDelimiter.toNat}, " ++
                 s!"got 0x{hex02 delimiter.toNat}",
               context := { rawResponse := some body } }
    else
      let status ← decodeStatusBlockBody (body.drop 9)
      .ok { measurement, delimiter, status }

def decodeTypedFloatBody (body : Bytes) : Except SartoriusError TypedFloatBody :=
  if body.length ≠ 5 then .error (bodyLengthError "typed_float body" 5 "bytes" body)
  else .ok { value := unpackFloat32 (body.take 4), aux := (body.getD 4 0).toNat }

def decodeErrorBody (body : Bytes) : Except SartoriusError ErrorBody :=
  if body.length ≠ 1 then .error (bodyLengthError "error body" 1 "byte" body)
  else .ok { code := (body.getD 0 0).toNat }

/-! ## Which bodies decode -/

theorem decodeErrorBody_singleton (x : UInt8) : decodeErrorBody [x] = .ok ⟨x.toNat⟩ := rfl

/-- A decoder refuses with a parse error only. -/
theorem decodeErrorBody_error {body : Bytes} {e : SartoriusError} (h : decodeErrorBody body = .error e) :
    e.cls = .parseError := by
  unfold decodeErrorBody at h
  split at h <;> cases h
  rfl

end SartoriusLib.Xbpi
