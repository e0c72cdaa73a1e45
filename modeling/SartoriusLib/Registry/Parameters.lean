import SartoriusLib.Registry.Aliases

/-!
# The parameter table

Each parameter that is understood has a codec: the codes of an enumeration, or those of the display units. A code
that is not known decodes to the member with the value 0, which is never written.
-/

namespace SartoriusLib.Registry

open SartoriusLib Lib

/-! ## Values -/

/-- The name of an `IntEnum` with the names and the values of its members. -/
structure ModeClass where
  name : String
  members : List (String × Int)
  deriving DecidableEq, Repr

/-- A value of the typed accessors: a member of an `IntEnum`, a unit or a plain number. -/
inductive Setting where
  | member (cls : String) (value : Int)
  | unit (u : MeasurementUnit)
  | int (n : Int)
  deriving DecidableEq, Repr

def EnumClass.erase {E : Type} (cls : EnumClass E) : ModeClass where
  name := cls.name
  members := cls.members.map fun m => (m.1, m.2.1)

/-- A member as a value. -/
def EnumClass.setting {E : Type} [DecidableEq E] (cls : EnumClass E) (e : E) : Setting :=
  .member cls.name (((cls.members.find? fun m => m.2.2 = e).map fun m => m.2.1).getD 0)

namespace ModeClass

def values (cls : ModeClass) : List Int := cls.members.map Prod.snd

/-- `cls(n)`. -/
def ofInt (cls : ModeClass) (n : Int) : Except Exc Setting :=
  if n ∈ cls.values then .ok (.member cls.name n) else .error (.valueError s!"{n} is not a valid {cls.name}")

end ModeClass

def appFilter : ModeClass where
  name := "AppFilter"
  members := [("UNKNOWN", 0), ("FINAL_READING", 1), ("FILLING", 2), ("REDUCED", 3), ("OFF", 4)]

def stabilityRange : ModeClass where
  name := "StabilityRange"
  members := [("UNKNOWN", 0), ("MAX_ACCURACY", 1), ("VERY_ACCURATE", 2), ("ACCURATE", 3), ("FAST", 4),
    ("VERY_FAST", 5), ("MAX_FAST", 6)]

def stabilityDelay : ModeClass where
  name := "StabilityDelay"
  members := [("UNKNOWN", 0), ("NONE", 1), ("SHORT", 2), ("AVERAGE", 3), ("LONG", 4)]

def externalCalLock : ModeClass where
  name := "ExternalCalLock"
  members := [("UNKNOWN", 0), ("FREE", 1), ("LOCKED", 2)]

def parityMode : ModeClass where
  name := "ParityMode"
  members := [("UNKNOWN", 0), ("ODD", 3), ("EVEN", 4), ("NONE", 5)]

def stopBitsMode : ModeClass where
  name := "StopBitsMode"
  members := [("UNKNOWN", 0), ("ONE", 1), ("TWO", 2)]

def calButtonAssignment : ModeClass where
  name := "CalButtonAssignment"
  members := [("UNKNOWN", 0), ("CAL_EXTERNAL", 1), ("E_CAL_USER", 3), ("CAL_INTERNAL", 4), ("SET_PRELOAD", 8),
    ("DELETE_PRELOAD", 9), ("BLOCKED", 10), ("SELECT", 12), ("SET_EXTERNAL_WEIGHT", 17)]

def calibrationUnit : ModeClass where
  name := "CalibrationUnit"
  members := [("UNKNOWN", 0), ("G", 1), ("KG", 2), ("USER_DEFINED", 4)]

def tareOnPowerOn : ModeClass where
  name := "TareOnPowerOn"
  members := [("UNKNOWN", 0), ("ON", 1), ("OFF", 2)]

/-! ## The display units -/

def displayCodes : List Nat := List.range' 1 24

/-- `_UNIT_TO_DISPLAY_CODE`. -/
def unitCodes : Dict MeasurementUnit Nat := Dict.update [] (displayCodes.map fun c => (displayUnitCodeToUnit c, c))

/-- Only `UNKNOWN` has no code. -/
def unitToDisplayCode (u : MeasurementUnit) : Except Exc Int :=
  match unitCodes.get? u with
  | some code => .ok code
  | none => .error (.valueError "<Unit.UNKNOWN: 'unknown'> has no display-unit code in the p07 parameter table")

/-! ## The specs -/

/-- A parameter; one without an enumeration is the display unit. -/
structure ParameterSpec where
  index : Int
  name : String
  enum : Option ModeClass
  deriving DecidableEq, Repr

namespace ParameterSpec

/-- The typed value of a code. -/
def decode (spec : ParameterSpec) (current : Nat) : Setting :=
  match spec.enum with
  | none => .unit (displayUnitCodeToUnit current)
  | some cls => .member cls.name (if (current : Int) ∈ cls.values then current else 0)

/-- The name of the member of `Unit`. -/
def unitName : MeasurementUnit → String
  | .userdef => "USERDEF" | .g => "G" | .kg => "KG" | .ct => "CT" | .lb => "LB" | .oz => "OZ" | .ozt => "OZT"
  | .taelHk => "TAEL_HK" | .taelSg => "TAEL_SG" | .taelTw => "TAEL_TW" | .gr => "GR" | .dwt => "DWT" | .mg => "MG"
  | .partsPerPound => "PARTS_PER_POUND" | .taelCn => "TAEL_CN" | .momme => "MOMME" | .ctAu => "CT_AU"
  | .tola => "TOLA" | .baht => "BAHT" | .mesgal => "MESGAL" | .t => "T" | .lbOz => "LB_OZ" | .newton => "NEWTON"
  | .ug => "UG" | .unknown => "UNKNOWN"

/-- `int(value)`; a unit is a text, and not that of a number. -/
def intOf : Setting → Except Exc Int
  | .member _ value => .ok value
  | .int n => .ok n
  | .unit u => .error (.valueError s!"invalid literal for int() with base 10: <Unit.{unitName u}: '{u.value}'>")

/-- The code of a unit, or a code between 1 and 24. -/
def encodeUnit : Setting → Except Exc Int
  | .unit u => unitToDisplayCode u
  | value => do
      let code ← intOf value
      if 1 ≤ code ∧ code < 25 then .ok code
      else .error (.valueError s!"display-unit code {code} out of range (1..24)")

/-- The code of a member; the source looks a member of the class not up again, and its value is found. -/
def encodeMember (spec : ParameterSpec) (cls : ModeClass) (value : Setting) : Except Exc Int := do
  let code ← intOf value
  let member ← cls.ofInt code
  if member = .member cls.name 0 then
    .error (.valueError s!"cannot write UNKNOWN (0) to parameter {spec.index} ({spec.name})")
  else .ok code

/-- The code of a typed value. -/
def encode (spec : ParameterSpec) (value : Setting) : Except Exc Int :=
  match spec.enum with
  | none => encodeUnit value
  | some cls => spec.encodeMember cls value

/-- What a code that is not known decodes to. -/
def unknown (spec : ParameterSpec) : Setting := spec.enum.elim (.unit .unknown) fun cls => .member cls.name 0

end ParameterSpec

def parameterTable : Dict Int ParameterSpec :=
  [(1, ⟨1, "filter_mode", some filterMode.erase⟩), (2, ⟨2, "app_filter", some appFilter⟩),
   (3, ⟨3, "stability_range", some stabilityRange⟩), (4, ⟨4, "stability_delay", some stabilityDelay⟩),
   (5, ⟨5, "tare_behavior", some tareBehavior.erase⟩), (6, ⟨6, "auto_zero", some autoZeroMode.erase⟩),
   (7, ⟨7, "display_unit", none⟩), (8, ⟨8, "display_accuracy", some displayAccuracyMode.erase⟩),
   (9, ⟨9, "cal_button_assignment", some calButtonAssignment⟩), (13, ⟨13, "tare_on_power_on", some tareOnPowerOn⟩),
   (15, ⟨15, "isocal_mode", some isoCalMode.erase⟩), (16, ⟨16, "external_cal_lock", some externalCalLock⟩),
   (32, ⟨32, "peripheral_parity", some parityMode⟩), (33, ⟨33, "peripheral_stop_bits", some stopBitsMode⟩),
   (36, ⟨36, "sbi_output_mode", some outputMode.erase⟩), (40, ⟨40, "menu_access", some menuAccessMode.erase⟩),
   (44, ⟨44, "calibration_unit", some calibrationUnit⟩), (64, ⟨64, "pc_usb_parity", some parityMode⟩),
   (65, ⟨65, "pc_usb_stop_bits", some stopBitsMode⟩)]

def getParameterSpec (index : Int) : Option ParameterSpec := parameterTable.get? index

/-! ## The codecs -/

/-- A value of the type of a parameter. -/
def Setting.Of (value : Setting) (spec : ParameterSpec) : Prop :=
  match spec.enum with
  | none => ∃ u, value = .unit u
  | some cls => ∃ n ∈ cls.values, value = .member cls.name n

/-- The values of a class are codes of one byte. -/
def ModeClass.WellFormed (cls : ModeClass) : Prop := 0 ∈ cls.values ∧ ∀ n ∈ cls.values, 0 ≤ n ∧ n ≤ 255

instance (cls : ModeClass) : Decidable cls.WellFormed := inferInstanceAs (Decidable (_ ∧ _))

theorem parameterTable_wellFormed : ∀ e ∈ parameterTable, e.2.index = e.1 ∧ ∀ cls ∈ e.2.enum, cls.WellFormed := by
  decide

theorem getParameterSpec_wellFormed {index : Int} {spec : ParameterSpec} (h : getParameterSpec index = some spec) :
    spec.index = index ∧ ∀ cls ∈ spec.enum, cls.WellFormed :=
  parameterTable_wellFormed _ (Dict.mem_of_get? h)

theorem displayCode_of_known {n : Nat} (h : displayUnitCodeToUnit n ≠ .unknown) : n ∈ displayCodes := by
  unfold displayUnitCodeToUnit at h
  split at h <;> first | decide | exact absurd rfl h

theorem unitToDisplayCode_table : ∀ n ∈ displayCodes,
    displayUnitCodeToUnit n ≠ .unknown ∧ unitToDisplayCode (displayUnitCodeToUnit n) = .ok n ∧ n ≤ 24 := by
  decide

theorem unit_has_code : ∀ u ∈ units, u ≠ .unknown → ∃ n ∈ displayCodes, displayUnitCodeToUnit n = u := by
  decide

theorem mem_units (u : MeasurementUnit) : u ∈ units := by
  cases u <;> decide

/-- The units and their codes; `UNKNOWN` has none. -/
theorem unitToDisplayCode_eq_ok {u : MeasurementUnit} {code : Int} :
    unitToDisplayCode u = .ok code ↔ u ≠ .unknown ∧ 0 ≤ code ∧ displayUnitCodeToUnit code.toNat = u := by
  constructor
  · intro h
    have hknown : u ≠ .unknown := by
      rintro rfl
      cases h
    obtain ⟨n, hn, rfl⟩ := unit_has_code u (mem_units u) hknown
    rw [(unitToDisplayCode_table n hn).2.1] at h
    cases h
    exact ⟨hknown, Int.natCast_nonneg n, rfl⟩
  · rintro ⟨hknown, hcode, rfl⟩
    rw [(unitToDisplayCode_table _ (displayCode_of_known hknown)).2.1, Int.toNat_of_nonneg hcode]

namespace ParameterSpec

variable {spec : ParameterSpec} {value : Setting} {code : Int} {n : Nat}

theorem encodeMember_member {cls : ModeClass} {n : Int} (hn : n ∈ cls.values) :
    spec.encodeMember cls (.member cls.name n) =
      if n = 0 then .error (.valueError s!"cannot write UNKNOWN (0) to parameter {spec.index} ({spec.name})")
      else .ok n := by
  simp [encodeMember, intOf, ModeClass.ofInt, hn, bind, Except.bind]

/-- Every code decodes to a value of the type of the parameter. -/
theorem decode_of (hspec : ∀ cls ∈ spec.enum, cls.WellFormed) (n : Nat) : (spec.decode n).Of spec := by
  rw [decode, Setting.Of]
  cases h : spec.enum with
  | none => exact ⟨_, rfl⟩
  | some cls =>
      refine ⟨_, ?_, rfl⟩
      split
      · assumption
      · exact (hspec cls h).1

/-- Writing is the inverse of reading: a value of the type of the parameter is encoded as the code that decodes to
it, unless it is the unknown one. -/
theorem encode_eq_ok {index : Int} (hspec : getParameterSpec index = some spec) (hvalue : value.Of spec) :
    spec.encode value = .ok code ↔
      value ≠ spec.unknown ∧ (0 ≤ code ∧ code ≤ 255) ∧ spec.decode code.toNat = value := by
  have hwell := (getParameterSpec_wellFormed hspec).2
  rw [Setting.Of] at hvalue
  cases h : spec.enum with
  | none =>
      rw [h] at hvalue
      obtain ⟨u, rfl⟩ := hvalue
      simp only [encode, decode, unknown, h, encodeUnit, Option.elim_none, ne_eq, Setting.unit.injEq,
        unitToDisplayCode_eq_ok]
      constructor
      · rintro ⟨hknown, hcode, rfl⟩
        have hle := (unitToDisplayCode_table _ (displayCode_of_known hknown)).2.2
        exact ⟨hknown, ⟨hcode, by omega⟩, rfl⟩
      · rintro ⟨hknown, ⟨hcode, -⟩, hsame⟩
        exact ⟨hknown, hcode, hsame⟩
  | some cls =>
      rw [h] at hvalue
      obtain ⟨n, hn, rfl⟩ := hvalue
      obtain ⟨hzero, hrange⟩ := hwell cls h
      have hsame : (((n.toNat : Nat) : Int)) = n := Int.toNat_of_nonneg (hrange n hn).1
      simp only [encode, decode, unknown, h, encodeMember_member hn, Option.elim_some, ne_eq, Setting.member.injEq,
        true_and]
      by_cases hn0 : n = 0
      · rw [if_pos hn0]
        exact iff_of_false (fun hbad => by cases hbad) fun hbad => hbad.1 hn0
      · rw [if_neg hn0, Except.ok.injEq]
        constructor
        · rintro rfl
          exact ⟨hn0, hrange n hn, by rw [hsame, if_pos hn]⟩
        · rintro ⟨-, ⟨hcode, -⟩, hdecode⟩
          rw [Int.toNat_of_nonneg hcode] at hdecode
          split at hdecode
          · exact hdecode.symm
          · exact absurd hdecode.symm hn0

end ParameterSpec

end SartoriusLib.Registry
