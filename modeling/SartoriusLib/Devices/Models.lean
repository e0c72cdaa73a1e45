import SartoriusLib.Numbers
import Mathlib.Data.List.Dedup

/-!
# Enumerations and value types of the devices

The frozen dataclasses that the facade returns. Clock readings that only label a value
(`received_at`, `monotonic_ns`) are left out.
-/

namespace SartoriusLib

inductive ProtocolKind where
  | auto
  | xbpi
  | sbi
  deriving DecidableEq, Repr

def ProtocolKind.value : ProtocolKind → String
  | .auto => "auto"
  | .xbpi => "xbpi"
  | .sbi => "sbi"

inductive MeasurementUnit where
  | userdef | g | kg | ct | lb | oz | ozt | taelHk | taelSg | taelTw | gr | dwt | mg | partsPerPound
  | taelCn | momme | ctAu | tola | baht | mesgal | t | lbOz | newton | ug | unknown
  deriving DecidableEq, Repr

def MeasurementUnit.value : MeasurementUnit → String
  | .userdef => "userdef" | .g => "g" | .kg => "kg" | .ct => "ct" | .lb => "lb" | .oz => "oz"
  | .ozt => "ozt" | .taelHk => "tl.hk" | .taelSg => "tl.sg" | .taelTw => "tl.tw" | .gr => "gr"
  | .dwt => "dwt" | .mg => "mg" | .partsPerPound => "/lb" | .taelCn => "tl.cn" | .momme => "momme"
  | .ctAu => "ct_au" | .tola => "tola" | .baht => "baht" | .mesgal => "mesgal" | .t => "t"
  | .lbOz => "lb_oz" | .newton => "N" | .ug => "µg" | .unknown => "unknown"

/-- `DISPLAY_UNIT_CODE_TO_UNIT.get(code, Unit.UNKNOWN)`. -/
def displayUnitCodeToUnit : Nat → MeasurementUnit
  | 1 => .userdef | 2 => .g | 3 => .kg | 4 => .ct | 5 => .lb | 6 => .oz | 7 => .ozt | 8 => .taelHk
  | 9 => .taelSg | 10 => .taelTw | 11 => .gr | 12 => .dwt | 13 => .mg | 14 => .partsPerPound
  | 15 => .taelCn | 16 => .momme | 17 => .ctAu | 18 => .tola | 19 => .baht | 20 => .mesgal | 21 => .t
  | 22 => .lbOz | 23 => .newton | 24 => .ug | _ => .unknown

inductive Sign where
  | zero
  | positive
  | negative
  | unknown
  deriving DecidableEq, Repr

def Sign.value : Sign → String
  | .zero => "zero"
  | .positive => "positive"
  | .negative => "negative"
  | .unknown => "unknown"

/-- One decoded weight reading; `value` is `none` off scale. -/
structure Reading where
  value : Option PyFloat
  unit : MeasurementUnit
  sign : Sign
  stable : Bool
  overload : Bool
  underload : Bool
  decimals : Option Nat
  sequence : Option Nat
  statusFlags : List (String × Bool)
  protocol : ProtocolKind
  raw : Bytes
  deriving DecidableEq, Repr

structure Quantity where
  value : PyFloat
  unit : MeasurementUnit
  deriving DecidableEq, Repr

inductive BalanceState where
  | stable
  | unstable
  | overload
  | underload
  | off
  | unknown
  deriving DecidableEq, Repr

structure BalanceStatus where
  stable : Option Bool
  state : BalanceState
  isocalDue : Option Bool
  adcTrusted : Option Bool
  sequence : Option Nat
  rawState : Option Nat
  rawStatus : Option Nat
  raw : Bytes
  deriving DecidableEq, Repr

structure TemperatureReading where
  sensor : Int
  celsius : Option PyFloat
  raw : Bytes
  deriving DecidableEq, Repr

structure ParameterEntry where
  index : Int
  current : Nat
  max : Nat
  raw : Bytes
  deriving DecidableEq, Repr

structure CalRecord where
  temperatureCelsius : Option PyFloat
  signature : Bytes
  counters : Bytes
  padding : Nat
  raw : Bytes
  deriving DecidableEq, Repr

/-! ## Families, capabilities, tiers -/

inductive BalanceFamily where
  | cubis
  | oemWeighCell
  | basicLab
  | unknown
  deriving DecidableEq, Repr

def BalanceFamily.value : BalanceFamily → String
  | .cubis => "cubis"
  | .oemWeighCell => "oem_weigh_cell"
  | .basicLab => "basic_lab"
  | .unknown => "unknown"

/-- The members of the `Capability` flag. -/
inductive CapabilityBit where
  | xbpiSupport | sbiSupport | protocolSwitching | hiresWeight | parameterTable | configCounter
  | temperatureSensors | calRecord | internalCal | externalCal | isocal | extendedOpcodes | appModes
  | levelSensor | bargraph | autoOutput | rawAdc
  deriving DecidableEq, Repr

namespace CapabilityBit

/-- The position of the bit, in declaration order of the flag. -/
def pos : CapabilityBit → Nat
  | xbpiSupport => 0 | sbiSupport => 1 | protocolSwitching => 2 | hiresWeight => 3
  | parameterTable => 4 | configCounter => 5 | temperatureSensors => 6 | calRecord => 7
  | internalCal => 8 | externalCal => 9 | isocal => 10 | extendedOpcodes => 11 | appModes => 12
  | levelSensor => 13 | bargraph => 14 | autoOutput => 15 | rawAdc => 16

def name : CapabilityBit → String
  | xbpiSupport => "XBPI_SUPPORT" | sbiSupport => "SBI_SUPPORT" | protocolSwitching => "PROTOCOL_SWITCHING"
  | hiresWeight => "HIRES_WEIGHT" | parameterTable => "PARAMETER_TABLE" | configCounter => "CONFIG_COUNTER"
  | temperatureSensors => "TEMPERATURE_SENSORS" | calRecord => "CAL_RECORD" | internalCal => "INTERNAL_CAL"
  | externalCal => "EXTERNAL_CAL" | isocal => "ISOCAL" | extendedOpcodes => "EXTENDED_OPCODES"
  | appModes => "APP_MODES" | levelSensor => "LEVEL_SENSOR" | bargraph => "BARGRAPH"
  | autoOutput => "AUTO_OUTPUT" | rawAdc => "RAW_ADC"

/-- The members in declaration order. -/
def all : List CapabilityBit :=
  [xbpiSupport, sbiSupport, protocolSwitching, hiresWeight, parameterTable, configCounter,
   temperatureSensors, calRecord, internalCal, externalCal, isocal, extendedOpcodes, appModes,
   levelSensor, bargraph, autoOutput, rawAdc]

end CapabilityBit

/-- A `Capability` bitmap, as the set of its members. -/
abbrev Capability : Type := List CapabilityBit

namespace Capability

/-- `a & b == b`. -/
def contains (a b : Capability) : Bool := b.all (· ∈ a)

/-- `b & ~a`. -/
def missing (a b : Capability) : Capability := b.filter (· ∉ a)

/-- `a | b`. -/
def union (a b : Capability) : Capability := a ++ b.filter (· ∉ a)

/-- The integer value of the bitmap. -/
def value (a : Capability) : Int := (a.dedup.map fun c => (2 : Int) ^ c.pos).sum

/-- `repr(a)`. -/
def repr (a : Capability) : String :=
  let names := (CapabilityBit.all.filter (· ∈ a)).map CapabilityBit.name
  "<Capability" ++ (if names = [] then "" else "." ++ String.intercalate "|" names) ++ s!": {a.value}>"

end Capability

inductive SafetyTier where
  | readOnly
  | stateful
  | persistent
  | dangerous
  deriving DecidableEq, Repr

def SafetyTier.name : SafetyTier → String
  | .readOnly => "READ_ONLY"
  | .stateful => "STATEFUL"
  | .persistent => "PERSISTENT"
  | .dangerous => "DANGEROUS"

inductive Availability where
  | unknown
  | supported
  | unsupported
  | inapplicable
  deriving DecidableEq, Repr

def Availability.value : Availability → String
  | .unknown => "unknown"
  | .supported => "supported"
  | .unsupported => "unsupported"
  | .inapplicable => "inapplicable"

end SartoriusLib
