import SartoriusLib.Numbers
import Mathlib.Data.List.TakeWhile
import Mathlib.Tactic.IntervalCases

/-!
# The text of a float

`repr` of a `float` is the shortest decimal that reads back as the value, and the nearest one among those. It has
an exponent when the point would be far from the digits.
-/

namespace SartoriusLib.PyFloat

/-! ## The digits -/

/-- `10 ^ e`. -/
def pow10 : Int → Rat
  | .ofNat n => 10 ^ n
  | .negSucc n => 1 / 10 ^ (n + 1)

/-- The position of the decimal point of a positive value: it is at least `10 ^ (e - 1)` and less than
`10 ^ e`. -/
def decimalExponent (a : Rat) : Int :=
  let e : Int := ((Nat.toDigits 10 a.num.natAbs).length : Int) - ((Nat.toDigits 10 a.den).length : Int)
  if a < pow10 e then e else e + 1

/-- The two numerals of `n` digits around a positive value, the nearer one first. -/
def candidates (a : Rat) (n : Nat) : List Nat :=
  let scaled := a * pow10 (n - decimalExponent a)
  let nearest := roundHalfEven scaled
  let other := if nearest ≤ scaled then nearest + 1 else nearest - 1
  [nearest.toNat, other.toNat]

/-- The value of a numeral of `n` digits. -/
def numeralValue (a : Rat) (n m : Nat) : PyFloat := ofRat (m * pow10 (decimalExponent a - n))

/-- The first numeral that reads back as the value, with its number of digits. -/
def shortestLoop (a : Rat) : List Nat → Option (Nat × Nat)
  | [] => none
  | n :: ns =>
      match (candidates a n).find? fun m => numeralValue a n m = fin a with
      | some m => some (m, n)
      | none => shortestLoop a ns

/-- Seventeen digits are enough for every value. -/
def shortest (a : Rat) : Nat × Nat :=
  (shortestLoop a (List.range' 1 17)).getD ((candidates a 17).headD 0, 17)

/-- `[:-1]` as long as the last digit is a zero. -/
def dropZeros (digits : Text) : Text := (digits.reverse.dropWhile (· == '0')).reverse

/-- The digits of a positive value and the position of its point: it is `0.digits * 10 ^ decpt`. -/
def digitsOf (a : Rat) : Text × Int :=
  let (m, n) := shortest a
  let digits := Nat.toDigits 10 m
  (if dropZeros digits = [] then ['0'] else dropZeros digits, decimalExponent a + digits.length - n)

/-! ## The layout -/

def zeros (n : Nat) : Text := List.replicate n '0'

def exponentText (e : Int) : Text :=
  let digits := Nat.toDigits 10 e.natAbs
  'e' :: (if e < 0 then '-' else '+') :: (zeros (2 - digits.length) ++ digits)

/-- The parts of a literal without its sign. -/
structure Literal where
  whole : Text
  fraction : Text
  exponent : Option Int := none
  deriving DecidableEq, Repr

def Literal.text (l : Literal) : Text :=
  l.whole ++ ((if l.fraction = [] then [] else '.' :: l.fraction) ++ l.exponent.elim [] exponentText)

/-- The digits with the point at `decpt`. -/
def literalOf (digits : Text) (decpt : Int) : Literal :=
  if -4 < decpt ∧ decpt ≤ 16 then
    if decpt ≤ 0 then { whole := ['0'], fraction := zeros (-decpt).toNat ++ digits }
    else if digits.length ≤ decpt.toNat then
      { whole := digits ++ zeros (decpt.toNat - digits.length), fraction := ['0'] }
    else { whole := digits.take decpt.toNat, fraction := digits.drop decpt.toNat }
  else { whole := digits.take 1, fraction := digits.drop 1, exponent := some (decpt - 1) }

/-- `repr(x)`, which is also `str(x)`. -/
def repr : PyFloat → Text
  | nan => ['n', 'a', 'n']
  | inf negative => if negative then ['-', 'i', 'n', 'f'] else ['i', 'n', 'f']
  | fin q =>
      if q = 0 then ['0', '.', '0']
      else (if q < 0 then ['-'] else []) ++ (literalOf (digitsOf |q|).1 (digitsOf |q|).2).text

/-! ## Reading -/

def exponentValue : Text → Int
  | '-' :: digits => -digitsValue digits
  | '+' :: digits => digitsValue digits
  | digits => digitsValue digits

/-- The mark of an exponent. -/
def isMark (c : Char) : Bool := c == 'e' || c == 'E'

/-- The value of a literal without its sign. -/
def magnitudeOfText (t : Text) : PyFloat :=
  if t = ['n', 'a', 'n'] ∨ t = ['N', 'a', 'N'] then nan
  else if t = ['i', 'n', 'f'] ∨ t = "Infinity".toList then inf false
  else
    ofRat (decimalValue (t.takeWhile fun c => !isMark c) *
      pow10 (exponentValue ((t.dropWhile fun c => !isMark c).drop 1)))

/-- `float(t)` of a literal. -/
def ofText (t : Text) : PyFloat :=
  match t with
  | '-' :: t => (magnitudeOfText t).neg
  | t => magnitudeOfText t

/-! ## Seventeen digits are enough -/

theorem pow10_eq_zpow (e : Int) : pow10 e = (10 : Rat) ^ e := by
  cases e with
  | ofNat n => simp [pow10]
  | negSucc n => rw [pow10, zpow_negSucc, one_div]

theorem pow10_pos (e : Int) : 0 < pow10 e := by
  rw [pow10_eq_zpow]
  exact zpow_pos (by norm_num) e

theorem pow10_add (e f : Int) : pow10 (e + f) = pow10 e * pow10 f := by
  simp only [pow10_eq_zpow]
  exact zpow_add₀ (by norm_num) e f

/-- A value that a binary64 can hold. -/
def IsDouble (x : PyFloat) : Prop := ∀ q, x = fin q → ofRat q = fin q

theorem pow_length_le {n : Nat} (hn : n ≠ 0) : 10 ^ ((Nat.toDigits 10 n).length - 1) ≤ n := by
  by_contra hlt
  have hpos : 0 < (Nat.toDigits 10 n).length := Nat.length_toDigits_pos
  have hshort : 0 < (Nat.toDigits 10 n).length - 1 := by
    by_contra hzero
    have hone : (Nat.toDigits 10 n).length - 1 = 0 := by omega
    rw [hone] at hlt
    omega
  have := (Nat.length_toDigits_le_iff (by decide) hshort).mpr (not_le.mp hlt)
  omega

theorem lt_pow_length (n : Nat) : n < 10 ^ (Nat.toDigits 10 n).length :=
  (Nat.length_toDigits_le_iff (by decide) Nat.length_toDigits_pos).mp le_rfl

/-- A positive value has its first digit where the decimal exponent says. -/
theorem pow10_decimalExponent_le {a : Rat} (ha : 0 < a) : pow10 (decimalExponent a - 1) ≤ a := by
  have hnum : 0 < a.num := Rat.num_pos.mpr ha
  have hden : (0 : Rat) < a.den := by exact_mod_cast a.pos
  unfold decimalExponent
  dsimp only
  split
  · have hlow : (10 : Rat) ^ (((Nat.toDigits 10 a.num.natAbs).length : Int) - 1) ≤ a.num := by
      have hpos : 0 < (Nat.toDigits 10 a.num.natAbs).length := Nat.length_toDigits_pos
      have h : ((10 ^ ((Nat.toDigits 10 a.num.natAbs).length - 1) : Nat) : Int) ≤ a.num :=
        Int.natAbs_of_nonneg hnum.le ▸ Int.ofNat_le.mpr (pow_length_le (by omega))
      rw [← Nat.cast_pred hpos, zpow_natCast]
      exact_mod_cast h
    have hhigh : (a.den : Rat) ≤ (10 : Rat) ^ ((Nat.toDigits 10 a.den).length : Int) := by
      rw [zpow_natCast]
      exact_mod_cast (lt_pow_length a.den).le
    have hwidth : (0 : Rat) ≤ a.num := by exact_mod_cast hnum.le
    rw [pow10_eq_zpow, show ((Nat.toDigits 10 a.num.natAbs).length : Int) - (Nat.toDigits 10 a.den).length - 1 =
      ((Nat.toDigits 10 a.num.natAbs).length - 1 : Int) - (Nat.toDigits 10 a.den).length by omega,
      zpow_sub₀ (by norm_num)]
    calc (10 : Rat) ^ (((Nat.toDigits 10 a.num.natAbs).length : Int) - 1) / 10 ^ ((Nat.toDigits 10 a.den).length : Int)
        ≤ a.num / a.den := div_le_div₀ hwidth hlow hden hhigh
      _ = a := Rat.num_div_den a
  · rw [Int.add_sub_cancel]
    exact not_lt.mp ‹_›

theorem lt_pow2_exponent_succ {a : Rat} (ha : 0 < a) : a < pow2 (exponent a + 1) := by
  have hnum : 0 < a.num := Rat.num_pos.mpr ha
  have hden : (0 : Rat) < a.den := by exact_mod_cast a.pos
  unfold exponent
  dsimp only
  split
  · rw [Int.sub_add_cancel]
    exact ‹_›
  · have hhigh : (a.num : Rat) < (2 : Rat) ^ ((Nat.log2 a.num.natAbs : Int) + 1) := by
      have h : a.num < ((2 ^ (a.num.natAbs.log2 + 1) : Nat) : Int) :=
        Int.natAbs_of_nonneg hnum.le ▸ Int.ofNat_lt.mpr Nat.lt_log2_self
      rw [← Nat.cast_succ, zpow_natCast]
      exact_mod_cast h
    have hlow : (2 : Rat) ^ (Nat.log2 a.den : Int) ≤ a.den := by
      rw [zpow_natCast]
      exact_mod_cast Nat.log2_self_le a.den_nz
    have hpow : (0 : Rat) < 2 ^ (Nat.log2 a.den : Int) := zpow_pos (by norm_num) _
    rw [pow2_eq_zpow, show (Nat.log2 a.num.natAbs : Int) - Nat.log2 a.den + 1 =
      ((Nat.log2 a.num.natAbs : Int) + 1) - Nat.log2 a.den by omega, zpow_sub₀ (by norm_num)]
    calc a = a.num / a.den := (Rat.num_div_den a).symm
      _ ≤ a.num / 2 ^ (Nat.log2 a.den : Int) :=
          div_le_div_of_nonneg_left (by exact_mod_cast hnum.le) hpow hlow
      _ < 2 ^ ((Nat.log2 a.num.natAbs : Int) + 1) / 2 ^ (Nat.log2 a.den : Int) := by gcongr

/-- The unit in the last place of a positive value. -/
def ulp (a : Rat) : Rat := pow2 (max (exponent a - 52) (-1074))

theorem ulp_pos (a : Rat) : 0 < ulp a := pow2_pos _

/-- A value that is near to a multiple of its unit is rounded to it. -/
theorem rounded_eq_of_near {y a : Rat} {n : Int} (ha : a = n * ulp y) (hnear : |y - a| < ulp y / 2) :
    rounded y = a := by
  have hpos := ulp_pos y
  have hround := abs_roundHalfEven_sub_le (y / ulp y)
  have hdist : |y / ulp y - n| < 1 / 2 := by
    have hq : y / ulp y - n = (y - a) / ulp y := by
      rw [ha]
      field_simp
    rw [hq, abs_div, abs_of_pos hpos, div_lt_iff₀ hpos]
    linarith
  have hone : |(roundHalfEven (y / ulp y) : Rat) - n| < 1 := by
    calc |(roundHalfEven (y / ulp y) : Rat) - n|
        ≤ |(roundHalfEven (y / ulp y) : Rat) - y / ulp y| + |y / ulp y - n| := abs_sub_le _ _ _
      _ < 1 := by linarith
  have heq : roundHalfEven (y / ulp y) = n := by
    have : |roundHalfEven (y / ulp y) - n| < 1 := by exact_mod_cast hone
    rw [abs_lt] at this
    omega
  show (roundHalfEven (y / ulp y) : Rat) * ulp y = a
  rw [heq, ha]

theorem pow2_le_pow2 {e f : Int} (h : e ≤ f) : pow2 e ≤ pow2 f := by
  rw [pow2_eq_zpow, pow2_eq_zpow]
  exact zpow_le_zpow_right₀ (by norm_num) h

theorem pow2_lt_pow2_iff {e f : Int} : pow2 e < pow2 f ↔ e < f := by
  rw [pow2_eq_zpow, pow2_eq_zpow]
  exact zpow_lt_zpow_iff_right₀ (by norm_num)

/-- A power of two is a multiple of every smaller one. -/
theorem pow2_multiple {e f : Int} (h : e ≤ f) : ∃ n : Int, pow2 f = n * pow2 e := by
  refine ⟨2 ^ (f - e).toNat, ?_⟩
  rw [pow2_eq_zpow, pow2_eq_zpow]
  push_cast
  rw [← zpow_natCast, Int.toNat_of_nonneg (by omega), ← zpow_add₀ (by norm_num), Int.sub_add_cancel]

/-- A rounded value is no more than the power of two above the value. -/
theorem rounded_le {a : Rat} (ha : 0 < a) : rounded a ≤ max (pow2 (exponent a + 1)) (pow2 (-1074)) := by
  have hpos := ulp_pos a
  obtain ⟨n, hn⟩ : ∃ n : Int, max (pow2 (exponent a + 1)) (pow2 (-1074)) = n * ulp a := by
    have hmax : max (pow2 (exponent a + 1)) (pow2 (-1074)) = pow2 (max (exponent a + 1) (-1074)) := by
      rcases le_total (exponent a + 1) (-1074) with h | h
      · rw [max_eq_right h, max_eq_right (pow2_le_pow2 h)]
      · rw [max_eq_left h, max_eq_left (pow2_le_pow2 h)]
    rw [hmax]
    exact pow2_multiple (max_le_max (by omega) le_rfl)
  have hbelow : a / ulp a ≤ n := by
    rw [div_le_iff₀ hpos, ← hn]
    exact (lt_pow2_exponent_succ ha).le.trans (le_max_left _ _)
  have hround : roundHalfEven (a / ulp a) ≤ n := by
    have hhalf := (abs_le.mp (abs_roundHalfEven_sub_le (a / ulp a))).2
    have hlt : (roundHalfEven (a / ulp a) : Rat) < n + 1 := by linarith
    have hlt : roundHalfEven (a / ulp a) < n + 1 := by exact_mod_cast hlt
    omega
  rw [hn]
  have hcast : (roundHalfEven (a / ulp a) : Rat) ≤ n := by exact_mod_cast hround
  exact mul_le_mul_of_nonneg_right hcast hpos.le

/-- A rounded value is a multiple of its own unit. -/
theorem rounded_multiple {a : Rat} (ha : 0 < a) (hv : 0 < rounded a) : ∃ n : Int, rounded a = n * ulp (rounded a) := by
  by_cases hunit : max (exponent (rounded a) - 52) (-1074) ≤ max (exponent a - 52) (-1074)
  · obtain ⟨n, hn⟩ := pow2_multiple hunit
    refine ⟨roundHalfEven (a / ulp a) * n, ?_⟩
    have hunits : ulp a = n * ulp (rounded a) := hn
    calc rounded a = roundHalfEven (a / ulp a) * ulp a := rfl
      _ = roundHalfEven (a / ulp a) * (n * ulp (rounded a)) := by rw [← hunits]
      _ = _ := by
        push_cast
        ring
  · -- the value was rounded up to a power of two
    have hexponent : exponent a + 1 ≤ exponent (rounded a) ∧ -1074 < exponent (rounded a) := by omega
    have hlow : pow2 (exponent (rounded a)) ≤ rounded a := pow2_exponent_le hv
    have hhigh : rounded a ≤ pow2 (exponent (rounded a)) :=
      (rounded_le ha).trans (max_le (pow2_le_pow2 hexponent.1) (pow2_le_pow2 hexponent.2.le))
    obtain ⟨n, hn⟩ := pow2_multiple (e := max (exponent (rounded a) - 52) (-1074)) (f := exponent (rounded a)) (by omega)
    exact ⟨n, (le_antisymm hhigh hlow).trans hn⟩

theorem rounded_rounded {a : Rat} (ha : 0 < a) (hv : 0 < rounded a) : rounded (rounded a) = rounded a := by
  obtain ⟨n, hn⟩ := rounded_multiple ha hv
  refine rounded_eq_of_near hn ?_
  rw [sub_self, abs_zero]
  exact half_pos (ulp_pos _)

theorem rounded_nonneg {a : Rat} (ha : 0 < a) : 0 ≤ rounded a := by
  have hquot : 0 ≤ a / ulp a := div_nonneg ha.le (ulp_pos a).le
  have hround : 0 ≤ roundHalfEven (a / ulp a) := by
    have hhalf := (abs_le.mp (abs_roundHalfEven_sub_le (a / ulp a))).1
    have hlt : (-1 : Rat) < roundHalfEven (a / ulp a) := by linarith
    have hlt : -1 < roundHalfEven (a / ulp a) := by exact_mod_cast hlt
    omega
  exact mul_nonneg (by exact_mod_cast hround) (ulp_pos a).le

/-- What a value is rounded to is a value that a binary64 can hold. -/
theorem ofRat_isDouble (q : Rat) : (ofRat q).IsDouble := by
  intro v hv
  by_cases hq : q = 0
  · rw [hq] at hv
    cases hv
    rfl
  have ha : 0 < |q| := abs_pos.mpr hq
  rw [ofRat_of_ne_zero hq] at hv
  split at hv
  · cases hv
  next hsmall =>
    have hfin {w : Rat} (hw : w = rounded |q|) : ofRat w = fin w := by
      rcases (rounded_nonneg ha).eq_or_lt with hzero | hpos
      · rw [hw, ← hzero]
        rfl
      · rw [← hw] at hpos hsmall
        have habs : |w| = w := abs_of_pos hpos
        have hagain : rounded w = w := by rw [hw, rounded_rounded ha (hw ▸ hpos)]
        rw [ofRat_of_ne_zero hpos.ne', habs, hagain, if_neg hsmall, if_neg hpos.le.not_gt]
    split at hv
    · cases hv
      rw [ofRat_neg, hfin rfl]
      rfl
    · cases hv
      exact hfin rfl

/-- A value has fewer than 54 binary digits above its unit. -/
theorem lt_ulp {a : Rat} (ha : 0 < a) : a < 2 ^ 53 * ulp a := by
  calc a < pow2 (exponent a + 1) := lt_pow2_exponent_succ ha
    _ = 2 ^ 53 * pow2 (exponent a - 52) := by
        rw [pow2_eq_zpow, pow2_eq_zpow, ← zpow_natCast, ← zpow_add₀ (by norm_num)]
        congr 1
        push_cast
        omega
    _ ≤ 2 ^ 53 * ulp a := by
        have := pow2_le_pow2 (le_max_left (exponent a - 52) (-1074))
        have hulp : pow2 (exponent a - 52) ≤ ulp a := this
        linarith

section Near

variable {a y : Rat} {n : Int}

theorem near_half_ulp (ha : 0 < a) (hsmall : |y - a| < a / 2 ^ 54) : |y - a| < ulp a / 2 := by
  have := lt_ulp ha
  refine lt_of_lt_of_le hsmall ?_
  rw [div_le_div_iff₀ (by norm_num) (by norm_num)]
  linarith

/-- A positive multiple of its unit is not below the smallest one. -/
theorem bottom_le_exponent (ha : 0 < a) (hn : a = n * ulp a) : -1074 ≤ exponent a := by
  have hunit := ulp_pos a
  have hpos : 1 ≤ n := by
    by_contra hle
    have : (n : Rat) ≤ 0 := by exact_mod_cast (by omega : n ≤ 0)
    have := mul_nonpos_of_nonpos_of_nonneg this hunit.le
    linarith
  have hone : (1 : Rat) ≤ n := by exact_mod_cast hpos
  have hmin : pow2 (-1074) ≤ ulp a := pow2_le_pow2 (le_max_right _ _)
  have : pow2 (-1074) < pow2 (exponent a + 1) := by
    calc pow2 (-1074) ≤ ulp a := hmin
      _ ≤ n * ulp a := le_mul_of_one_le_left hunit.le hone
      _ < pow2 (exponent a + 1) := hn ▸ lt_pow2_exponent_succ ha
  have := pow2_lt_pow2_iff.mp this
  omega

/-- The next power of two is a whole unit away. -/
theorem exponent_le_of_near (ha : 0 < a) (hy : 0 < y) (hn : a = n * ulp a) (hdist : |y - a| < ulp a / 2) :
    exponent y ≤ exponent a := by
  by_contra hgt
  have hunit := ulp_pos a
  have hbottom := bottom_le_exponent ha hn
  have habove : pow2 (exponent a + 1) ≤ y := le_trans (pow2_le_pow2 (by omega)) (pow2_exponent_le hy)
  obtain ⟨m, hm⟩ := pow2_multiple (e := max (exponent a - 52) (-1074)) (f := exponent a + 1) (by omega)
  have hmul : pow2 (exponent a + 1) = m * ulp a := hm
  have hlt : (n : Rat) * ulp a < m * ulp a := by
    rw [← hn, ← hmul]
    exact lt_pow2_exponent_succ ha
  have hnm : n + 1 ≤ m := by
    have := lt_of_mul_lt_mul_right hlt hunit.le
    exact_mod_cast this
  have hgap : ulp a ≤ pow2 (exponent a + 1) - a := by
    have hcast : ((n + 1 : Int) : Rat) ≤ m := by exact_mod_cast hnm
    have := mul_le_mul_of_nonneg_right hcast hunit.le
    push_cast at this
    rw [add_mul, ← hn, one_mul, ← hmul] at this
    linarith
  have := (abs_lt.mp hdist).2
  linarith

/-- What is just below a power of two is near to that power. -/
theorem eq_pow2_of_below (ha : 0 < a) (hn : a = n * ulp a) (hbelow : y < pow2 (exponent a))
    (hdist : |y - a| < ulp a / 2) : a = pow2 (exponent a) := by
  have hunit := ulp_pos a
  have hbottom := bottom_le_exponent ha hn
  have hlow := pow2_exponent_le ha
  obtain ⟨m, hm⟩ := pow2_multiple (e := max (exponent a - 52) (-1074)) (f := exponent a) (by omega)
  have hmul : pow2 (exponent a) = m * ulp a := hm
  have hgap : ((n - m : Int) : Rat) * ulp a < 1 * ulp a := by
    push_cast
    rw [sub_mul, ← hn, ← hmul]
    have := (abs_lt.mp hdist).1
    linarith
  have hge : (0 : Rat) * ulp a ≤ ((n - m : Int) : Rat) * ulp a := by
    push_cast
    rw [sub_mul, ← hn, ← hmul]
    linarith
  have h₁ : n - m < 1 := by exact_mod_cast lt_of_mul_lt_mul_right hgap hunit.le
  have h₀ : 0 ≤ n - m := by exact_mod_cast le_of_mul_le_mul_right hge hunit
  have heq : n = m := by omega
  rw [hmul, ← heq]
  exact hn

/-- What is below the power of two that it is near to has a unit half as large, and is rounded up to the power. -/
theorem rounded_of_below (ha : 0 < a) (hy : 0 < y) (hn : a = n * ulp a) (hsmall : |y - a| < a / 2 ^ 54)
    (hlt : exponent y < exponent a) : rounded y = a := by
  have hdist := near_half_ulp ha hsmall
  have hbottom := bottom_le_exponent ha hn
  have hlow := pow2_exponent_le ha
  have hyhigh := lt_pow2_exponent_succ hy
  have hbelow : y < pow2 (exponent a) := lt_of_lt_of_le hyhigh (pow2_le_pow2 (by omega))
  have hdouble : pow2 (exponent a) = 2 * pow2 (exponent a - 1) := by
    rw [pow2_eq_zpow, pow2_eq_zpow, zpow_sub_one₀ (by norm_num)]
    ring
  have hexp : exponent y = exponent a - 1 := by
    have hhalf : pow2 (exponent a - 1) < pow2 (exponent y + 1) := by
      have := (abs_lt.mp hsmall).1
      have : a / 2 ^ 54 ≤ a / 2 := div_le_div_of_nonneg_left ha.le (by norm_num) (by norm_num)
      linarith
    have := pow2_lt_pow2_iff.mp hhalf
    omega
  have hpower := eq_pow2_of_below ha hn hbelow hdist
  obtain ⟨m, hm⟩ := pow2_multiple (e := max (exponent y - 52) (-1074)) (f := exponent a) (by omega)
  refine rounded_eq_of_near (n := m) (hpower.trans hm) ?_
  have hunit : pow2 (exponent a) ≤ 2 ^ 53 * ulp y := by
    have hle : pow2 (exponent y - 52) ≤ ulp y := pow2_le_pow2 (le_max_left _ _)
    have heq : pow2 (exponent a) = 2 ^ 53 * pow2 (exponent y - 52) := by
      rw [pow2_eq_zpow, pow2_eq_zpow, ← zpow_natCast, ← zpow_add₀ (by norm_num)]
      congr 1
      push_cast
      omega
    linarith
  refine lt_of_lt_of_le hsmall ?_
  rw [div_le_div_iff₀ (by norm_num) (by norm_num)]
  linarith

/-- A decimal with an error in the seventeenth digit reads as the value it is near to. -/
theorem ofRat_near (ha : 0 < a) (hdouble : ofRat a = fin a) (hnear : |y - a| ≤ a / (2 * 10 ^ 16)) :
    ofRat y = fin a := by
  have hsmall : |y - a| < a / 2 ^ 54 := by
    refine lt_of_le_of_lt hnear (div_lt_div_of_pos_left ha (by norm_num) (by norm_num))
  have hy : 0 < y := by
    have := (abs_lt.mp hsmall).1
    have : a / 2 ^ 54 ≤ a := div_le_self ha.le (by norm_num)
    linarith
  rw [ofRat_of_ne_zero ha.ne', abs_of_pos ha] at hdouble
  have hfinite : ¬ pow2 1024 ≤ rounded a := by
    intro hbig
    rw [if_pos hbig] at hdouble
    cases hdouble
  rw [if_neg hfinite, if_neg (not_lt.mpr ha.le), fin.injEq] at hdouble
  -- the value is a multiple of its unit
  obtain ⟨n, hn⟩ : ∃ n : Int, a = n * ulp a := ⟨_, hdouble.symm⟩
  have hdist := near_half_ulp ha hsmall
  have hround : rounded y = a := by
    rcases (exponent_le_of_near ha hy hn hdist).lt_or_eq with hlt | heq
    · exact rounded_of_below ha hy hn hsmall hlt
    · have hulp : ulp y = ulp a := by rw [ulp, ulp, heq]
      exact rounded_eq_of_near (hulp ▸ hn) (hulp ▸ hdist)
  rw [ofRat_of_ne_zero hy.ne', abs_of_pos hy, hround, if_neg (hdouble ▸ hfinite), if_neg (not_lt.mpr hy.le)]

end Near

/-! ## The shortest numeral reads back -/

theorem one_le_scaled {a : Rat} (ha : 0 < a) {n : Nat} (hn : 1 ≤ n) : 1 ≤ a * pow10 (n - decimalExponent a) := by
  have hle := mul_le_mul_of_nonneg_right (pow10_decimalExponent_le ha) (pow10_pos (n - decimalExponent a)).le
  rw [← pow10_add] at hle
  refine le_trans ?_ hle
  rw [pow10_eq_zpow]
  exact one_le_zpow₀ (by norm_num) (by omega)

theorem candidate_pos {a : Rat} (ha : 0 < a) {n m : Nat} (hn : 1 ≤ n) (hm : m ∈ candidates a n) : 0 < m := by
  have hscaled := one_le_scaled ha hn
  have hone := one_le_roundHalfEven hscaled
  simp only [candidates, List.mem_cons, List.not_mem_nil, or_false] at hm
  rcases hm with rfl | rfl
  · omega
  · split
    · omega
    · have hlt : (1 : Rat) < roundHalfEven (a * pow10 (n - decimalExponent a)) := by linarith
      have : 1 < roundHalfEven (a * pow10 (n - decimalExponent a)) := by exact_mod_cast hlt
      omega

/-- The nearest numeral of `n` digits is wrong by half a unit of its last digit at most. -/
theorem nearest_error (a : Rat) (n : Int) :
    |(roundHalfEven (a * pow10 (n - decimalExponent a)) : Rat) * pow10 (decimalExponent a - n) - a| ≤
      1 / 2 * pow10 (decimalExponent a - n) := by
  have hone : pow10 (n - decimalExponent a) * pow10 (decimalExponent a - n) = 1 := by
    rw [← pow10_add, show n - decimalExponent a + (decimalExponent a - n) = 0 by omega, pow10_eq_zpow, zpow_zero]
  have hpos := pow10_pos (decimalExponent a - n)
  have hscale : (roundHalfEven (a * pow10 (n - decimalExponent a)) : Rat) * pow10 (decimalExponent a - n) - a =
      ((roundHalfEven (a * pow10 (n - decimalExponent a)) : Rat) - a * pow10 (n - decimalExponent a)) *
        pow10 (decimalExponent a - n) := by
    rw [sub_mul, mul_assoc a, hone, mul_one]
  rw [hscale, abs_mul, abs_of_pos hpos]
  exact mul_le_mul_of_nonneg_right (abs_roundHalfEven_sub_le _) hpos.le

/-- The nearest numeral of seventeen digits reads back. -/
theorem seventeen_reads {a : Rat} (ha : 0 < a) (hdouble : ofRat a = fin a) :
    ∃ m ∈ candidates a 17, numeralValue a 17 m = fin a := by
  have hone := one_le_roundHalfEven (one_le_scaled ha (n := 17) (by decide))
  refine ⟨_, List.mem_cons_self, ofRat_near ha hdouble ?_⟩
  have hcast : (((roundHalfEven (a * pow10 ((17 : Nat) - decimalExponent a))).toNat : Nat) : Rat) =
      roundHalfEven (a * pow10 ((17 : Nat) - decimalExponent a)) := by
    have := Int.toNat_of_nonneg (le_trans (by decide) hone)
    exact_mod_cast this
  have hfirst : pow10 (decimalExponent a - (17 : Nat)) * 10 ^ 16 ≤ a := by
    refine le_trans (le_of_eq ?_) (pow10_decimalExponent_le ha)
    rw [show decimalExponent a - 1 = decimalExponent a - (17 : Nat) + 16 by push_cast; omega, pow10_add,
      pow10_eq_zpow 16]
    norm_num
  rw [hcast]
  refine le_trans (nearest_error a (17 : Nat)) ?_
  rw [le_div_iff₀ (by norm_num)]
  calc 1 / 2 * pow10 (decimalExponent a - (17 : Nat)) * (2 * 10 ^ 16)
      = pow10 (decimalExponent a - (17 : Nat)) * 10 ^ 16 := by ring
    _ ≤ a := hfirst

/-- What the search finds is a candidate that reads back. -/
theorem shortestLoop_eq_some {a : Rat} {ns : List Nat} {m n : Nat} (h : shortestLoop a ns = some (m, n)) :
    n ∈ ns ∧ m ∈ candidates a n ∧ numeralValue a n m = fin a := by
  induction ns with
  | nil => cases h
  | cons n' ns ih =>
      rw [shortestLoop] at h
      cases hfind : (candidates a n').find? fun m => numeralValue a n' m = fin a with
      | some m' =>
          rw [hfind] at h
          cases h
          exact ⟨List.mem_cons_self, List.mem_of_find?_eq_some hfind, by simpa using List.find?_some hfind⟩
      | none =>
          rw [hfind] at h
          obtain ⟨hn, hm⟩ := ih h
          exact ⟨List.mem_cons_of_mem _ hn, hm⟩

theorem shortestLoop_isSome {a : Rat} {ns : List Nat} {m n : Nat} (hn : n ∈ ns) (hm : m ∈ candidates a n)
    (hreads : numeralValue a n m = fin a) : (shortestLoop a ns).isSome = true := by
  induction ns with
  | nil => cases hn
  | cons n' ns ih =>
      rw [shortestLoop]
      cases hfind : (candidates a n').find? fun m => numeralValue a n' m = fin a with
      | some m' => rfl
      | none =>
          rcases List.mem_cons.mp hn with rfl | hn
          · exact absurd hreads (by simpa using List.find?_eq_none.mp hfind m hm)
          · exact ih hn

theorem shortest_candidate (a : Rat) : (shortest a).1 ∈ candidates a (shortest a).2 ∧ 1 ≤ (shortest a).2 := by
  rw [shortest]
  cases h : shortestLoop a (List.range' 1 17) with
  | none => exact ⟨List.mem_cons_self, Nat.le_add_left 1 16⟩
  | some p =>
      obtain ⟨hn, hm, -⟩ := shortestLoop_eq_some h
      exact ⟨hm, (List.mem_range'_1.mp hn).1⟩

theorem shortest_reads {a : Rat} (ha : 0 < a) (hdouble : ofRat a = fin a) :
    numeralValue a (shortest a).2 (shortest a).1 = fin a := by
  obtain ⟨m, hm, hreads⟩ := seventeen_reads ha hdouble
  have hsome : (shortestLoop a (List.range' 1 17)).isSome := shortestLoop_isSome (by decide) hm hreads
  obtain ⟨p, hp⟩ := Option.isSome_iff_exists.mp hsome
  rw [shortest, hp]
  exact (shortestLoop_eq_some hp).2.2

/-! ## Digits -/

def AllDigits (t : Text) : Prop := ∀ c ∈ t, c.isDigit = true

theorem AllDigits.append {s t : Text} (hs : AllDigits s) (ht : AllDigits t) : AllDigits (s ++ t) := fun c hc =>
  (List.mem_append.mp hc).elim (hs c) (ht c)

theorem AllDigits.toDigits (n : Nat) : AllDigits (Nat.toDigits 10 n) := fun _ hc =>
  Nat.isDigit_of_mem_toDigits (by decide) (by decide) hc

theorem AllDigits.zeros (n : Nat) : AllDigits (zeros n) := by
  intro c hc
  rw [List.eq_of_mem_replicate hc]
  decide

theorem AllDigits.sublist {s t : Text} (ht : AllDigits t) (h : s.Sublist t) : AllDigits s := fun c hc =>
  ht c (h.subset hc)

theorem digitsValue_append (s t : Text) : digitsValue (s ++ t) = digitsValue s * 10 ^ t.length + digitsValue t := by
  have hfold : ∀ (t : Text) (n : Nat), t.foldl (fun n c => 10 * n + (c.toNat - '0'.toNat)) n =
      n * 10 ^ t.length + digitsValue t := by
    intro t
    induction t with
    | nil => intro n; simp [digitsValue]
    | cons c t ih =>
        intro n
        have hcons : digitsValue (c :: t) = (10 * 0 + (c.toNat - '0'.toNat)) * 10 ^ t.length + digitsValue t :=
          ih _
        rw [List.foldl_cons, ih, hcons, List.length_cons, pow_succ]
        ring
  have hsplit : digitsValue (s ++ t) = t.foldl (fun n c => 10 * n + (c.toNat - '0'.toNat)) (digitsValue s) :=
    List.foldl_append
  rw [hsplit, hfold]

@[simp] theorem digitsValue_zeros (n : Nat) : digitsValue (zeros n) = 0 := by
  induction n with
  | zero => rfl
  | succ n ih =>
      have : zeros (n + 1) = ['0'] ++ zeros n := rfl
      rw [this, digitsValue_append, ih]
      simp [digitsValue]

theorem digitsValue_toDigits (n : Nat) : digitsValue (Nat.toDigits 10 n) = n := Nat.ofDigitChars_ten_toDigits

/-- The numeral of a positive number does not begin with a zero. -/
theorem toDigits_head {n : Nat} (hn : 0 < n) : ∃ c ds, Nat.toDigits 10 n = c :: ds ∧ c ≠ '0' := by
  induction n using Nat.strong_induction_on with
  | _ n ih =>
      rw [Nat.toDigits_eq_if (by decide)]
      split
      · refine ⟨_, _, rfl, ?_⟩
        interval_cases n <;> decide
      · obtain ⟨c, ds, heq, hc⟩ := ih (n / 10) (by omega) (by omega)
        exact ⟨c, _, by rw [heq]; rfl, hc⟩

theorem dropZeros_append (t : Text) : ∃ z, t = dropZeros t ++ zeros z := by
  refine ⟨(t.reverse.takeWhile (· == '0')).length, ?_⟩
  have hz : zeros (t.reverse.takeWhile (· == '0')).length = (t.reverse.takeWhile (· == '0')).reverse := by
    refine (List.eq_replicate_iff.mpr ⟨by simp, fun c hc => ?_⟩).symm
    simpa using List.mem_takeWhile_imp (List.mem_reverse.mp hc)
  rw [hz, dropZeros, ← List.reverse_append, List.takeWhile_append_dropWhile, List.reverse_reverse]

/-- The digits of a positive value, without zeros at their ends, and what they denote. -/
structure Digits (a : Rat) (digits : Text) (decpt : Int) : Prop where
  all : AllDigits digits
  head : ∃ c ds, digits = c :: ds ∧ c ≠ '0'
  value : (digitsValue digits : Rat) * pow10 (decpt - digits.length) =
    (shortest a).1 * pow10 (decimalExponent a - (shortest a).2)

theorem digitsOf_digits {a : Rat} (ha : 0 < a) : Digits a (digitsOf a).1 (digitsOf a).2 := by
  obtain ⟨hm, hn⟩ := shortest_candidate a
  have hpos := candidate_pos ha hn hm
  obtain ⟨c, ds, hhead, hc⟩ := toDigits_head hpos
  obtain ⟨z, hz⟩ := dropZeros_append (Nat.toDigits 10 (shortest a).1)
  have hne : dropZeros (Nat.toDigits 10 (shortest a).1) ≠ [] := by
    intro hnil
    rw [hnil, List.nil_append, hhead] at hz
    cases z with
    | zero => cases hz
    | succ z => exact hc (List.cons.inj hz).1
  have hfirst : (digitsOf a).1 = dropZeros (Nat.toDigits 10 (shortest a).1) := by
    simp only [digitsOf, if_neg hne]
  have hsecond : (digitsOf a).2 =
      decimalExponent a + (Nat.toDigits 10 (shortest a).1).length - (shortest a).2 := rfl
  obtain ⟨d, rest, hcons⟩ := List.exists_cons_of_ne_nil hne
  refine ⟨?_, ?_, ?_⟩
  · rw [hfirst]
    exact (AllDigits.toDigits _).sublist (hz ▸ List.sublist_append_left _ _)
  · refine ⟨d, rest, hfirst.trans hcons, ?_⟩
    rw [hcons, hhead] at hz
    exact (List.cons.inj hz).1 ▸ hc
  · have hvalue : ((shortest a).1 : Rat) = digitsValue (dropZeros (Nat.toDigits 10 (shortest a).1)) * 10 ^ z := by
      have := digitsValue_toDigits (shortest a).1
      rw [hz, digitsValue_append, digitsValue_zeros, zeros, List.length_replicate, Nat.add_zero] at this
      exact_mod_cast this.symm
    have hlength : (Nat.toDigits 10 (shortest a).1).length =
        (dropZeros (Nat.toDigits 10 (shortest a).1)).length + z := by
      conv_lhs => rw [hz]
      simp [zeros]
    rw [hfirst, hsecond, hvalue, mul_assoc]
    congr 1
    rw [hlength, pow10_eq_zpow, pow10_eq_zpow, ← zpow_natCast, ← zpow_add₀ (by norm_num)]
    congr 1
    push_cast
    omega

/-! ## The literal of a value -/

/-- A literal as it is written: no needless leading zero, and a fraction or an exponent. -/
structure Literal.Valid (l : Literal) : Prop where
  whole : AllDigits l.whole
  first : l.whole = ['0'] ∨ ∃ c ds, l.whole = c :: ds ∧ c ≠ '0'
  fraction : AllDigits l.fraction
  float : l.fraction ≠ [] ∨ l.exponent ≠ none

def Literal.value (l : Literal) : Rat :=
  digitsValue (l.whole ++ l.fraction) * pow10 (l.exponent.getD 0 - l.fraction.length)

theorem literalOf_valid {digits : Text} (hdigits : AllDigits digits) (hhead : ∃ c ds, digits = c :: ds ∧ c ≠ '0')
    (decpt : Int) : (literalOf digits decpt).Valid := by
  have hzero : AllDigits ['0'] := AllDigits.zeros 1
  obtain ⟨c, ds, rfl, hc⟩ := hhead
  rw [literalOf]
  split_ifs with hfixed hleft hright
  · exact ⟨hzero, .inl rfl, (AllDigits.zeros _).append hdigits, .inl (by simp)⟩
  · exact ⟨hdigits.append (AllDigits.zeros _), .inr ⟨c, _, rfl, hc⟩, hzero, .inl (by simp)⟩
  · have htake : ∃ k, decpt.toNat = k + 1 := ⟨decpt.toNat - 1, by omega⟩
    obtain ⟨k, hk⟩ := htake
    refine ⟨hdigits.sublist (List.take_sublist _ _), .inr ⟨c, ds.take k, by rw [hk]; rfl, hc⟩,
      hdigits.sublist (List.drop_sublist _ _), .inl ?_⟩
    rw [ne_eq, List.drop_eq_nil_iff]
    exact hright
  · exact ⟨hdigits.sublist (List.take_sublist _ _), .inr ⟨c, [], rfl, hc⟩,
      hdigits.sublist (List.drop_sublist _ _), .inr (by simp)⟩

theorem literalOf_value {digits : Text} (hne : digits ≠ []) (decpt : Int) :
    (literalOf digits decpt).value = digitsValue digits * pow10 (decpt - digits.length) := by
  have hpos : 0 < digits.length := List.length_pos_of_ne_nil hne
  rw [literalOf]
  split_ifs with hfixed hleft hright
  · -- zeros before the digits
    have hvalue : digitsValue (['0'] ++ (zeros (-decpt).toNat ++ digits)) = digitsValue digits := by
      rw [← List.append_assoc, digitsValue_append]
      have : digitsValue (['0'] ++ zeros (-decpt).toNat) = 0 := digitsValue_zeros ((-decpt).toNat + 1)
      rw [this, Nat.zero_mul, Nat.zero_add]
    simp only [Literal.value, Option.getD_none]
    rw [hvalue]
    congr 2
    rw [List.length_append, zeros, List.length_replicate]
    push_cast
    omega
  · -- zeros after the digits
    have hvalue : digitsValue (digits ++ zeros (decpt.toNat - digits.length) ++ ['0']) =
        digitsValue digits * 10 ^ (decpt.toNat - digits.length + 1) := by
      have hzeros : zeros (decpt.toNat - digits.length) ++ ['0'] = zeros (decpt.toNat - digits.length + 1) :=
        (List.replicate_succ' ..).symm
      rw [List.append_assoc, hzeros, digitsValue_append, digitsValue_zeros, Nat.add_zero, zeros,
        List.length_replicate]
    simp only [Literal.value, Option.getD_none]
    rw [hvalue]
    push_cast
    rw [mul_assoc, pow10_eq_zpow, pow10_eq_zpow, ← zpow_natCast, ← zpow_add₀ (by norm_num)]
    congr 2
    push_cast [hright]
    simp only [List.length_cons, List.length_nil]
    omega
  · simp only [Literal.value, Option.getD_none, List.take_append_drop, List.length_drop]
    congr 2
    omega
  · simp only [Literal.value, Option.getD_some, List.take_append_drop, List.length_drop]
    congr 2
    omega

theorem AllDigits.no_mark {t : Text} (ht : AllDigits t) : ∀ c ∈ t, isMark c = false := by
  intro c hc
  have hdigit := ht c hc
  rw [isMark, Bool.or_eq_false_iff, beq_eq_false_iff_ne, beq_eq_false_iff_ne]
  constructor <;> rintro rfl <;> exact absurd hdigit (by decide)

theorem AllDigits.no_point {t : Text} (ht : AllDigits t) : ∀ c ∈ t, c ≠ '.' := by
  rintro c hc rfl
  exact absurd (ht _ hc) (by decide)

/-- A decimal with its point. -/
theorem decimalValue_fraction {whole fraction : Text} (hwhole : AllDigits whole) :
    decimalValue (whole ++ if fraction = [] then [] else '.' :: fraction) =
      digitsValue (whole ++ fraction) * pow10 (-fraction.length) := by
  have hpow : ∀ n : Nat, pow10 (-n) = 1 / 10 ^ n := fun n => by
    rw [pow10_eq_zpow, zpow_neg, zpow_natCast, one_div]
  have hnone : ∀ c ∈ whole, (decide (c ≠ '.')) = true := fun c hc => decide_eq_true (hwhole.no_point c hc)
  rw [decimalValue]
  by_cases hnil : fraction = []
  · subst hnil
    rw [if_pos rfl, List.append_nil, List.takeWhile_eq_self_iff.mpr hnone, List.dropWhile_eq_nil_iff.mpr hnone]
    simp [pow10_eq_zpow]
  · rw [if_neg hnil, List.takeWhile_append_of_pos hnone, List.dropWhile_append_of_pos hnone]
    simp only [ne_eq, List.takeWhile_cons, List.dropWhile_cons, not_true_eq_false, decide_false,
      Bool.false_eq_true, if_false, List.append_nil, List.drop_succ_cons, List.drop_zero, hpow]
    ring

theorem exponentValue_text (e : Int) : exponentValue ((exponentText e).drop 1) = e := by
  have hdigits : digitsValue (zeros (2 - (Nat.toDigits 10 e.natAbs).length) ++ Nat.toDigits 10 e.natAbs) =
      e.natAbs := by
    rw [digitsValue_append, digitsValue_zeros, digitsValue_toDigits, Nat.zero_mul, Nat.zero_add]
  rw [exponentText, List.drop_succ_cons, List.drop_zero]
  split <;> simp only [exponentValue, hdigits] <;> omega

/-- A literal reads as the value that it denotes. -/
theorem Literal.Valid.reads {l : Literal} (hl : l.Valid) : magnitudeOfText l.text = ofRat l.value := by
  have hhead : ∃ c u, l.text = c :: u ∧ c.isDigit = true := by
    have hmem : ∀ c ds, l.whole = c :: ds → c.isDigit = true := fun c ds h =>
      hl.whole c (h ▸ List.mem_cons_self)
    rcases hl.first with h | ⟨c, ds, h, -⟩ <;> exact ⟨_, _, by rw [text, h]; rfl, hmem _ _ h⟩
  obtain ⟨c, u, htext, hc⟩ := hhead
  have hword : ∀ w : Text, (∃ d v, w = d :: v ∧ d.isDigit = false) → l.text ≠ w := by
    rintro w ⟨d, v, rfl, hd⟩ h
    rw [htext] at h
    rw [(List.cons.inj h).1, hd] at hc
    cases hc
  have hmarks : ∀ c ∈ l.whole ++ (if l.fraction = [] then [] else '.' :: l.fraction),
      (!isMark c) = true := by
    intro c hc
    rw [Bool.not_eq_true']
    rcases List.mem_append.mp hc with hc | hc
    · exact hl.whole.no_mark c hc
    · split at hc
      · cases hc
      · rcases List.mem_cons.mp hc with rfl | hc
        · decide
        · exact hl.fraction.no_mark c hc
  have hsplit : l.text = (l.whole ++ if l.fraction = [] then [] else '.' :: l.fraction) ++
      l.exponent.elim [] exponentText := (List.append_assoc ..).symm
  rw [magnitudeOfText, if_neg, if_neg]
  · rw [hsplit, List.takeWhile_append_of_pos hmarks, List.dropWhile_append_of_pos hmarks, Literal.value]
    cases he : l.exponent with
    | none =>
        simp only [Option.elim_none, List.takeWhile_nil, List.append_nil, List.dropWhile_nil, List.drop_nil,
          decimalValue_fraction hl.whole, Option.getD_none, zero_sub]
        rw [show exponentValue [] = 0 by rfl, pow10_eq_zpow 0, zpow_zero, mul_one]
    | some e =>
        have hdrop := exponentValue_text e
        have hmark : exponentText e = 'e' :: (exponentText e).drop 1 := rfl
        simp only [Option.elim_some, Option.getD_some]
        rw [hmark, List.takeWhile_cons_of_neg (by decide), List.append_nil, List.dropWhile_cons_of_neg (by decide),
          List.drop_succ_cons, List.drop_zero, hdrop, decimalValue_fraction hl.whole, mul_assoc, ← pow10_add]
        congr 3
        omega
  · rintro (h | h)
    · exact hword _ ⟨_, _, rfl, by decide⟩ h
    · exact hword _ ⟨_, _, rfl, by decide⟩ h
  · rintro (h | h)
    · exact hword _ ⟨_, _, rfl, by decide⟩ h
    · exact hword _ ⟨_, _, rfl, by decide⟩ h

/-- The literal of a positive value reads back as the value. -/
theorem literalOf_reads {a : Rat} (ha : 0 < a) (hdouble : ofRat a = fin a) :
    magnitudeOfText (literalOf (digitsOf a).1 (digitsOf a).2).text = fin a := by
  have hdigits := digitsOf_digits ha
  obtain ⟨c, ds, hcons, -⟩ := hdigits.head
  rw [(literalOf_valid hdigits.all hdigits.head _).reads, literalOf_value (by rw [hcons]; simp), hdigits.value]
  exact shortest_reads ha hdouble

/-- A finite value that is not zero is its sign and the literal of its magnitude. -/
theorem repr_fin {q : Rat} (hq : q ≠ 0) : ∃ l : Literal, l.Valid ∧
    repr (fin q) = (if q < 0 then ['-'] else []) ++ l.text ∧
    (ofRat q = fin q → magnitudeOfText l.text = fin |q|) := by
  have ha : 0 < |q| := abs_pos.mpr hq
  have hdigits := digitsOf_digits ha
  refine ⟨_, literalOf_valid hdigits.all hdigits.head _, by rw [repr, if_neg hq], fun hdouble => ?_⟩
  refine literalOf_reads ha ?_
  by_cases hneg : q < 0
  · rw [abs_of_neg hneg, ofRat_neg, hdouble]
    rfl
  · rwa [abs_of_nonneg (not_lt.mp hneg)]

/-- The text of a float reads back as the float. -/
theorem ofText_repr {x : PyFloat} (hx : x.IsDouble) : ofText (repr x) = x := by
  cases x with
  | nan => rfl
  | inf negative => cases negative <;> rfl
  | fin q =>
      by_cases hq : q = 0
      · subst hq
        decide +kernel
      · obtain ⟨l, hl, hrepr, hreads⟩ := repr_fin hq
        have hmag := hreads (hx q rfl)
        rw [hrepr]
        by_cases hneg : q < 0
        · rw [if_pos hneg]
          show (magnitudeOfText l.text).neg = fin q
          rw [hmag, abs_of_neg hneg, neg, neg_neg]
        · rw [if_neg hneg, List.nil_append]
          have hplain : ofText l.text = magnitudeOfText l.text := by
            rcases hl.first with h | ⟨c, ds, h, -⟩
            · rw [ofText.eq_def]
              simp only [Literal.text, h]
              rfl
            · have hc : c ≠ '-' := by
                rintro rfl
                exact absurd (hl.whole _ (h ▸ List.mem_cons_self)) (by decide)
              rw [ofText.eq_def]
              simp only [Literal.text, h, List.cons_append]
              split
              · exact absurd (List.cons.inj ‹_›).1 hc
              · rfl
          rw [hplain, hmag, abs_of_nonneg (not_lt.mp hneg)]

end SartoriusLib.PyFloat
