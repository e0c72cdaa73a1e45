import SartoriusLib.Text
import Mathlib.Data.Rat.Floor
import Mathlib.Tactic.Linarith
import Mathlib.Tactic.Positivity

/-!
# Floating-point values

A `float` as its exact value. Reading a decimal rounds to the nearest binary64 value, ties to even;
unpacking a binary32 value is exact.
-/

namespace SartoriusLib

/-- A Python `float`: an exact finite value, an infinity or a NaN. -/
inductive PyFloat where
  | fin (q : Rat)
  | inf (negative : Bool)
  | nan
  deriving DecidableEq, Repr

namespace PyFloat

def neg : PyFloat → PyFloat
  | fin q => fin (-q)
  | inf negative => inf (!negative)
  | nan => nan

/-- `2 ^ e`. -/
def pow2 : Int → Rat
  | .ofNat n => 2 ^ n
  | .negSucc n => 1 / 2 ^ (n + 1)

def roundHalfEven (q : Rat) : Int :=
  let below := q.floor
  let part := q - below
  if part < 1 / 2 then below
  else if 1 / 2 < part then below + 1
  else if below % 2 = 0 then below else below + 1

/-- The binary64 value nearest to `q`. -/
def ofRat (q : Rat) : PyFloat :=
  if q = 0 then fin 0
  else
    let a := |q|
    let e : Int := (Nat.log2 a.num.natAbs : Int) - (Nat.log2 a.den : Int)
    let e := if a < pow2 e then e - 1 else e
    let ulp := pow2 (max (e - 52) (-1074))
    let v : Rat := roundHalfEven (a / ulp) * ulp
    if pow2 1024 ≤ v then inf (q < 0) else fin (if q < 0 then -v else v)

end PyFloat

/-- The number that a run of decimal digits denotes. -/
def digitsValue (t : Text) : Nat := t.foldl (fun n c => 10 * n + (c.toNat - '0'.toNat)) 0

/-- The rational that a decimal with an optional point denotes. -/
def decimalValue (t : Text) : Rat :=
  let whole := t.takeWhile (· ≠ '.')
  let part := (t.dropWhile (· ≠ '.')).drop 1
  digitsValue (whole ++ part) / 10 ^ part.length

/-- `float(t)` for a decimal. -/
def floatOfText (t : Text) : PyFloat := .ofRat (decimalValue t)

/-- `struct.unpack(">f", b)[0]`. -/
def unpackFloat32 (b : Bytes) : PyFloat :=
  let n := Bytes.toNatBE b
  let negative := 2 ^ 31 ≤ n
  let exponent : Nat := n / 2 ^ 23 % 256
  let mantissa : Nat := n % 2 ^ 23
  let signed (q : Rat) : Rat := if negative then -q else q
  if exponent = 255 then (if mantissa = 0 then .inf negative else .nan)
  else if exponent = 0 then .fin (signed ((mantissa : Rat) / 2 ^ 149))
  else .fin (signed ((2 ^ 23 + (mantissa : Rat)) * 2 ^ exponent / 2 ^ 150))

/-- A duration in a message, exact to the microsecond. -/
def reprSeconds (t : Rat) : String :=
  let micros := (|t| * 10 ^ 6).floor.toNat
  let digits := Nat.toDigits 10 (micros % 10 ^ 6)
  let part := ((List.replicate (6 - digits.length) '0' ++ digits).reverse.dropWhile (· == '0')).reverse
  (if t < 0 then "-" else "") ++ toString (micros / 10 ^ 6) ++ "." ++
    (if part = [] then "0" else String.ofList part)

namespace PyFloat

/-! ## Rounding keeps the sign and does not reach zero -/

theorem pow2_eq_zpow (e : Int) : pow2 e = (2 : Rat) ^ e := by
  cases e with
  | ofNat n => simp [pow2]
  | negSucc n => rw [pow2, zpow_negSucc, one_div]

theorem pow2_pos (e : Int) : 0 < pow2 e := by
  rw [pow2_eq_zpow]
  exact zpow_pos (by norm_num) e

/-- The exponent of a positive value. -/
def exponent (a : Rat) : Int :=
  let e : Int := (Nat.log2 a.num.natAbs : Int) - (Nat.log2 a.den : Int)
  if a < pow2 e then e - 1 else e

/-- The multiple of the unit in the last place that is nearest to a positive value. -/
def rounded (a : Rat) : Rat :=
  let ulp := pow2 (max (exponent a - 52) (-1074))
  roundHalfEven (a / ulp) * ulp

theorem ofRat_of_ne_zero {q : Rat} (h : q ≠ 0) :
    ofRat q = if pow2 1024 ≤ rounded |q| then inf (q < 0) else fin (if q < 0 then -rounded |q| else rounded |q|) := by
  rw [ofRat, if_neg h]
  rfl

/-- Rounding is the same on both sides of zero. -/
theorem ofRat_neg (q : Rat) : ofRat (-q) = (ofRat q).neg := by
  by_cases hq : q = 0
  · rw [hq]
    rfl
  · have hsign : -q < 0 ↔ ¬ q < 0 := by
      rw [neg_lt_zero, not_lt]
      exact ⟨le_of_lt, fun h => lt_of_le_of_ne h (Ne.symm hq)⟩
    rw [ofRat_of_ne_zero hq, ofRat_of_ne_zero (neg_ne_zero.mpr hq), abs_neg]
    by_cases hneg : q < 0
    · have hpos : ¬ -q < 0 := fun h => hsign.mp h hneg
      split <;> simp [neg, hneg, hpos]
    · have hpos : -q < 0 := hsign.mpr hneg
      split <;> simp [neg, hneg, hpos]

/-- A rounded value is at most one half away. -/
theorem abs_roundHalfEven_sub_le (q : Rat) : |(roundHalfEven q : Rat) - q| ≤ 1 / 2 := by
  have hlow : (q.floor : Rat) ≤ q := Int.floor_le q
  have hhigh : q < (q.floor : Rat) + 1 := Int.lt_floor_add_one q
  simp only [roundHalfEven, abs_le]
  split
  · constructor <;> linarith
  split
  · push_cast
    constructor <;> linarith
  split
  · constructor <;> linarith
  · push_cast
    constructor <;> linarith

theorem one_le_roundHalfEven {q : Rat} (h : 1 ≤ q) : 1 ≤ roundHalfEven q := by
  have hfloor : 1 ≤ q.floor := Rat.le_floor_iff.mpr (by simpa using h)
  unfold roundHalfEven
  dsimp only
  split_ifs <;> omega

theorem pow2_exponent_le {a : Rat} (ha : 0 < a) : pow2 (exponent a) ≤ a := by
  unfold exponent
  dsimp only
  split
  · have hnum : 0 < a.num := Rat.num_pos.mpr ha
    have hden : (0 : Rat) < a.den := by exact_mod_cast a.pos
    have hlow : (2 : Rat) ^ (Nat.log2 a.num.natAbs : Int) ≤ a.num := by
      have h : ((2 ^ a.num.natAbs.log2 : Nat) : Int) ≤ a.num :=
        Int.natAbs_of_nonneg hnum.le ▸ Int.ofNat_le.mpr (Nat.log2_self_le (by omega))
      rw [zpow_natCast]
      exact_mod_cast h
    have hhigh : (a.den : Rat) ≤ (2 : Rat) ^ ((Nat.log2 a.den : Int) + 1) := by
      rw [← Nat.cast_succ, zpow_natCast]
      exact_mod_cast (Nat.lt_log2_self (n := a.den)).le
    have hwidth : (0 : Rat) ≤ a.num := by exact_mod_cast hnum.le
    rw [pow2_eq_zpow, show (Nat.log2 a.num.natAbs : Int) - (Nat.log2 a.den : Int) - 1 =
      (Nat.log2 a.num.natAbs : Int) - ((Nat.log2 a.den : Int) + 1) by omega, zpow_sub₀ (by norm_num)]
    calc (2 : Rat) ^ (Nat.log2 a.num.natAbs : Int) / 2 ^ ((Nat.log2 a.den : Int) + 1)
        ≤ a.num / a.den := div_le_div₀ hwidth hlow hden hhigh
      _ = a := Rat.num_div_den a
  · exact not_lt.mp ‹_›

/-- A value that is no subnormal is not rounded to zero. -/
theorem ofRat_eq_zero_iff {q : Rat} (hq : q = 0 ∨ pow2 (-1074) ≤ |q|) : ofRat q = fin 0 ↔ q = 0 := by
  constructor
  · intro h
    by_contra hne
    have hsmall := hq.resolve_left hne
    have ha : 0 < |q| := abs_pos.mpr hne
    have hulp : pow2 (max (exponent |q| - 52) (-1074)) ≤ |q| := by
      rcases max_choice (exponent |q| - 52) (-1074) with hm | hm
      · rw [hm]
        refine le_trans ?_ (pow2_exponent_le ha)
        rw [pow2_eq_zpow, pow2_eq_zpow]
        exact zpow_le_zpow_right₀ (by norm_num) (by omega)
      · rw [hm]
        exact hsmall
    have hpos := pow2_pos (max (exponent |q| - 52) (-1074))
    have hround : (1 : Rat) ≤ roundHalfEven (|q| / pow2 (max (exponent |q| - 52) (-1074))) := by
      exact_mod_cast one_le_roundHalfEven ((one_le_div hpos).mpr hulp)
    have hv : 0 < rounded |q| := mul_pos (lt_of_lt_of_le one_pos hround) hpos
    rw [ofRat_of_ne_zero hne] at h
    split at h
    · cases h
    · rw [fin.injEq] at h
      split at h <;> linarith
  · rintro rfl
    rfl

end PyFloat

end SartoriusLib
