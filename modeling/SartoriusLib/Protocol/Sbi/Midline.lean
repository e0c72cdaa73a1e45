import Mathlib
import SartoriusLib.Protocol.Sbi.Lockstep

/-!
# Attaching in the middle of a weight line

A host that opens the port while the balance prints receives the tail of a line. The parser tells such a
tail from a whole line only by the columns it lacks; this module determines for which lines and at which
cuts that is enough.
-/

namespace SartoriusLib.Sbi

open SartoriusLib Lib

/-! ## Well-formed weight lines -/

def blanks (n : Nat) : Text := List.replicate n ' '

/-- A printable character other than the blank. -/
def isGraphic (c : Char) : Bool := 0x21 ≤ c.toNat && c.toNat < 0x7F

/-- The columns of a weight line without its terminator: 14, or 20 with an ID field. The unit field may follow the
number at once, and the number may end in a point; a point behind the number is the number's. -/
structure WeightLine where
  /-- The ID field, empty or of six columns. -/
  id : Text
  sign : Char
  /-- Blank columns before the number, which is right-aligned. -/
  pad : Nat
  number : Text
  gap : Nat
  /-- The unit characters; a blank unit field has none. -/
  unit : Text
  tail : Nat
  id_width : id.length = 0 ∨ id.length = 6
  id_chars : ∀ c ∈ id, c = ' ' ∨ (isGraphic c = true ∧ c ∉ ['+', '-', '?'])
  sign_column : sign ∈ ['+', '-', ' ']
  number_form : IsNumber number
  unit_chars : ∀ c ∈ unit, isGraphic c = true ∧ isDigit c = false
  unit_start : gap = 0 → unit.head? ≠ some '.'
  width : 1 + pad + number.length + gap + unit.length + tail = 14

/-! ## The place of the number -/

theorem IsNumber.exists_digit {n : Text} (hn : IsNumber n) : ∃ d ∈ n, isDigit d = true :=
  numberRe_digit (numberRe_matches_iff.mpr ⟨rfl, hn⟩)

theorem AllDigits.point_notMem {ds : Text} (h : AllDigits ds) : '.' ∉ ds := fun hp => by
  have := h _ hp
  cases this

theorem IsNumber.count_point {n : Text} (hn : IsNumber n) : n.count '.' ≤ 1 := by
  cases hn with
  | whole h _ => rw [List.count_eq_zero.mpr h.point_notMem]; exact Nat.zero_le _
  | point h _ h' =>
      rw [List.count_append, List.count_cons_self, List.count_eq_zero.mpr h.point_notMem,
        List.count_eq_zero.mpr h'.point_notMem]
  | fraction h' _ => rw [List.count_cons_self, List.count_eq_zero.mpr h'.point_notMem]

/-- What is left of a number is a number, or only its point. -/
theorem IsNumber.drop {n : Text} (hn : IsNumber n) {j : Nat} (hj : j < n.length) :
    IsNumber (n.drop j) ∨ n.drop j = ['.'] := by
  have hdigits : ∀ {ds : Text} {i : Nat}, AllDigits ds → i < ds.length → IsNumber (ds.drop i) := fun h hi =>
    .whole (fun c hc => h c (List.mem_of_mem_drop hc)) (List.ne_nil_of_length_pos (by rw [List.length_drop]; omega))
  cases hn with
  | whole h _ => exact .inl (hdigits h hj)
  | @point ds ds' h hne h' =>
      rcases lt_trichotomy j ds.length with hlt | rfl | hgt
      · rw [List.drop_append_of_le_length hlt.le]
        refine .inl (.point (fun c hc => h c (List.mem_of_mem_drop hc)) ?_ h')
        exact List.ne_nil_of_length_pos (by rw [List.length_drop]; omega)
      · rw [List.drop_left]
        cases ds' with
        | nil => exact .inr rfl
        | cons d ds' => exact .inl (.fraction h' (by simp))
      · obtain ⟨i, rfl⟩ : ∃ i, j = ds.length + (i + 1) := ⟨j - ds.length - 1, by omega⟩
        rw [List.length_append, List.length_cons] at hj
        rw [← List.drop_drop, List.drop_left, List.drop_succ_cons]
        exact .inl (hdigits h' (by omega))
  | @fraction ds' h' hne =>
      cases j with
      | zero => exact .inl (.fraction h' hne)
      | succ i =>
          rw [List.length_cons] at hj
          rw [List.drop_succ_cons]
          exact .inl (hdigits h' (by omega))

/-- Blanks around characters of a unit are read as the end of a line. -/
theorem weightBackRe_matches {b u b' : Text} (hb : WeightParse.AllSpace b) (hu : ∀ c ∈ u, isUnitChar c = true)
    (hb' : WeightParse.AllSpace b') : ∃ e, Re.Matches weightBackRe (b ++ (u ++ b')) e := by
  have hunit : Re.Matches (.opt (.group WeightGroup.unit (.some isUnitChar))) u
      (if u = [] then [] else [(.unit, u)]) := by
    rw [unit_matches_iff]
    by_cases hnil : u = []
    · exact ⟨none, hnil, by simp [hnil], by simp⟩
    · exact ⟨some u, rfl, by simp [hnil], by rintro _ ⟨rfl⟩; exact ⟨hu, hnil⟩⟩
  exact ⟨_, b, [], u ++ b', _, rfl, rfl, Re.matches_many.mpr ⟨hb, rfl⟩, u, _, b', [], rfl, rfl, hunit,
    Re.matches_many.mpr ⟨hb', rfl⟩⟩

/-- What a shorter reading leaves of the number is its point. -/
theorem left_point {p : WeightParse} (hp : p.Valid) {N M Y : Text} {y : Char} (hN : IsNumber N)
    (hY : N = p.number ++ y :: Y) (hback : p.back = y :: Y ++ M) : y = '.' ∧ Y = [] := by
  have hpoint : ∀ c ∈ y :: Y, c = '.' := fun c hc => by
    by_contra hne
    have hdigit := isDigit_of_isNumChar (hN.chars c (by rw [hY]; exact List.mem_append_right _ hc)) hne
    rw [p.back_noDigit hp c (by rw [hback]; exact List.mem_append_left _ hc)] at hdigit
    cases hdigit
  obtain rfl := hpoint y List.mem_cons_self
  refine ⟨rfl, ?_⟩
  rcases List.eq_nil_or_concat Y with rfl | ⟨Y, z, rfl⟩
  · rfl
  obtain rfl := hpoint z (by simp)
  have hcount := hN.count_point
  rw [hY] at hcount
  simp at hcount
  omega

/-- Columns that begin with a point have it in the unit, and end a line without it as well. -/
theorem back_point {p : WeightParse} (hp : p.Valid) {M : Text} (hback : p.back = '.' :: M)
    (hunit : ∀ c ∈ p.unit.getD [], isUnitChar c = true) : ∃ e, Re.Matches weightBackRe M e := by
  have hblank : p.blank₄ = [] := by
    cases hb : p.blank₄ with
    | nil => rfl
    | cons c b =>
        rw [WeightParse.back, hb] at hback
        have hspace := hp.blank₄ c (by rw [hb]; exact List.mem_cons_self)
        rw [(List.cons.inj hback).1] at hspace
        cases hspace
  cases hu : p.unit.getD [] with
  | nil =>
      rw [WeightParse.back, hblank, hu] at hback
      have hspace := hp.blank₅ '.' (by rw [show p.blank₅ = _ from hback]; exact List.mem_cons_self)
      cases hspace
  | cons c u =>
      rw [WeightParse.back, hblank, hu] at hback
      obtain rfl : u ++ p.blank₅ = M := (List.cons.inj hback).2
      rw [hu] at hunit
      exact weightBackRe_matches (b := []) (by simp [WeightParse.AllSpace])
        (fun x hx => hunit x (List.mem_cons_of_mem _ hx)) hp.blank₅

/-- What stands behind a shorter reading of the number also ends a line without the rest of the number. -/
theorem back_matches {p : WeightParse} (hp : p.Valid) {N M : Text} (hN : IsNumber N)
    (hM' : Re.Avoids isNumChar M) (h : p.number ++ p.back = N ++ M) : ∃ e, Re.Matches weightBackRe M e := by
  have hunit : ∀ c ∈ p.unit.getD [], isUnitChar c = true := by
    cases hu : p.unit with
    | none => simp
    | some u => exact (hp.unit u hu).1
  rw [List.append_eq_append_iff] at h
  rcases h with ⟨Y, hY, hback⟩ | ⟨Y, hY, rfl⟩
  · cases Y with
    | nil =>
        rw [List.nil_append] at hback
        exact hback ▸ weightBackRe_matches hp.blank₄ hunit hp.blank₅
    | cons y Y =>
        obtain ⟨rfl, rfl⟩ := left_point hp hN hY hback
        exact back_point hp hback hunit
  · cases Y with
    | nil =>
        rw [List.nil_append]
        exact weightBackRe_matches hp.blank₄ hunit hp.blank₅
    | cons y Y =>
        have hy := hM' y rfl
        rw [numberRe_chars hp.number y (by rw [hY]; simp)] at hy
        cases hy

/-- A match of a line takes the number where its last digits are, and the whole of it. -/
theorem places_of_fullmatch {X N M : Text} {m : Re.Captures WeightGroup} (hX : EndsOutside isNumChar X)
    (hN : IsNumber N) (hM : ∀ c ∈ M, isDigit c = false) (hM' : Re.Avoids isNumChar M)
    (h : weightRe.fullmatch (X ++ (N ++ M)) = some m) :
    ∃ p : WeightParse, p.Valid ∧ p.front = X ∧ p.number = N ∧ p.back = M ∧ m = p.captures := by
  obtain ⟨t₁, c, t₂, d, ht, hc, hd, rfl⟩ := Re.fullmatch_seq h
  obtain ⟨p, hp, rfl, rfl, rfl, hcaptures⟩ := weightRe_parts hc (Re.matches_of_fullmatch hd)
  have hfront : p.front = X := p.front_unique hp hX hN.chars hN.exists_digit hM ht.symm
  have hrest : p.number ++ p.back = N ++ M := by
    rw [hfront, List.append_cancel_left_eq] at ht
    exact ht.symm
  obtain ⟨e, he⟩ := back_matches hp hN hM' hrest
  have hnumber : (Re.run (.group .number numberRe : Re WeightGroup) (N ++ M)).head? = some ([(.number, N)], M) :=
    Re.first_group (c := []) (numberRe_first hN hM')
  obtain ⟨d', -, hd'⟩ := Re.fullmatch_seq_of_first hnumber he
  rw [hrest, hd', Option.some.injEq] at hd
  obtain rfl : N = p.number := by
    rw [← hd] at hcaptures
    simpa using (List.cons.inj hcaptures).1
  exact ⟨p, hp, hfront, rfl, List.append_cancel_left hrest, by rw [hcaptures]; rfl⟩

namespace WeightLine

variable (l : WeightLine)

/-- The columns after the number. -/
def back : Text := blanks l.gap ++ (l.unit ++ blanks l.tail)

/-- The columns from the sign on, after `i` in place of the ID field. -/
def bodyFrom (i : Text) : Text := i ++ (l.sign :: (blanks l.pad ++ (l.number ++ l.back)))

def body : Text := l.bodyFrom l.id

/-- The line on the wire. -/
def bytes : Bytes := asciiLine l.body

/-- The value that the sign column and the number denote. -/
def value : PyFloat := if l.sign = '-' then (floatOfText l.number).neg else floatOfText l.number

/-- The sign of that value. -/
def wireSign : Sign := signFromWire (if l.sign = '-' then '-' else '+') l.value

/-- The unit field is in the alphabet of units. -/
def UnitReads : Prop := ∀ c ∈ l.unit, isUnitChar c = true

/-- What is left of the ID field is a prefix: blank, or a letter and letters, digits and blanks, set off
from a sign by a blank. -/
def FieldReads (i : Text) : Prop :=
  Text.lstrip i = [] ∨
    ((∃ c t, Text.lstrip i = c :: t ∧ isLetter c = true ∧ ∀ x ∈ t, isIdChar x = true) ∧
      (l.sign = ' ' ∨ i.getLast? = some ' '))

/-- The line with `i` in place of its ID field is read as a weight. -/
def ReadsFrom (i : Text) : Prop := l.UnitReads ∧ l.FieldReads i ∧ refused (l.bodyFrom i) = false

variable {l}

theorem isSpace_of_isGraphic {c : Char} (h : isGraphic c = true) : Text.isSpace c = false := by
  simp only [isGraphic, Bool.and_eq_true, decide_eq_true_eq] at h
  simp only [Text.isSpace, Bool.or_eq_false_iff, Bool.and_eq_false_iff, decide_eq_false_iff_not,
    beq_eq_false_iff_ne]
  omega

theorem allSpace_blanks (n : Nat) : WeightParse.AllSpace (blanks n) := by
  intro c hc
  rw [(List.mem_replicate.mp hc).2]
  rfl

theorem back_noDigit : ∀ c ∈ l.back, isDigit c = false := by
  intro c hc
  simp only [back, List.mem_append, blanks, List.mem_replicate] at hc
  rcases hc with ⟨-, rfl⟩ | hc | ⟨-, rfl⟩
  · rfl
  · exact (l.unit_chars c hc).2
  · rfl

theorem back_head : Re.Avoids isNumChar l.back := by
  intro c hc
  have hchar := back_noDigit c (List.mem_of_head? hc)
  have hpoint : c ≠ '.' := by
    rintro rfl
    rw [back, blanks, blanks] at hc
    cases hgap : l.gap with
    | succ n =>
        rw [hgap, List.replicate_succ] at hc
        cases hc
    | zero =>
        rw [hgap, List.replicate_zero, List.nil_append] at hc
        cases hu : l.unit with
        | nil =>
            rw [hu, List.nil_append] at hc
            cases (List.mem_replicate.mp (List.mem_of_head? hc)).2
        | cons x u =>
            rw [hu] at hc
            exact l.unit_start hgap (by rw [hu]; exact hc)
  simp [isNumChar, hchar, hpoint]

theorem bodyFrom_eq (i : Text) :
    l.bodyFrom i = (i ++ l.sign :: blanks l.pad) ++ (l.number ++ l.back) := by
  simp [bodyFrom]

theorem sign_endsOutside (i : Text) : EndsOutside isNumChar (i ++ l.sign :: blanks l.pad) := by
  have hsign : EndsOutside isNumChar [l.sign] := by
    have := l.sign_column
    simp only [List.mem_cons, List.not_mem_nil, or_false] at this
    rcases this with h | h | h <;> rw [h] <;> exact .of_forall (Text.forall_false_of_any (by decide))
  have hpad : EndsOutside isNumChar (blanks l.pad) :=
    .of_forall fun c hc => isNumChar_of_isSpace (allSpace_blanks _ c hc)
  intro c hc
  rw [List.getLast?_append_of_ne_nil _ (List.cons_ne_nil _ _)] at hc
  exact hsign.append hpad c hc

theorem unitReads_of_back {p : WeightParse} (hp : p.Valid) (h : p.back = l.back) : l.UnitReads := by
  intro c hc
  have hmem : c ∈ p.back := by rw [h]; simp [back, hc]
  rcases WeightParse.back_chars hp c hmem with hs | hu
  · rw [isSpace_of_isGraphic (l.unit_chars c hc).1] at hs
    cases hs
  · exact hu

theorem unit_eq_nil_iff {p : WeightParse} (hp : p.Valid) (h : p.back = l.back) :
    p.unit = none ↔ l.unit = [] := by
  constructor
  · intro hu
    have hall : ∀ c ∈ p.back, Text.isSpace c = true := by
      intro c hc
      simp only [WeightParse.back, hu, Option.getD_none, List.nil_append, List.mem_append] at hc
      exact hc.elim (hp.blank₄ c) (hp.blank₅ c)
    refine List.eq_nil_iff_forall_not_mem.mpr fun c hc => ?_
    have := hall c (by rw [h]; simp [back, hc])
    rw [isSpace_of_isGraphic (l.unit_chars c hc).1] at this
    cases this
  · intro hu
    cases hpu : p.unit with
    | none => rfl
    | some u =>
        obtain ⟨hchars, hne⟩ := hp.unit u hpu
        obtain ⟨c, u, rfl⟩ := List.exists_cons_of_ne_nil hne
        have hc : c ∈ l.back := by rw [← h]; simp [WeightParse.back, hpu]
        have hblank : c = ' ' := by
          simp only [back, hu, List.nil_append, List.mem_append, blanks, List.mem_replicate] at hc
          exact hc.elim And.right And.right
        have := hchars c List.mem_cons_self
        rw [hblank] at this
        cases this

/-- The characters of an ID field. -/
def IsField (i : Text) : Prop := ∀ c ∈ i, c = ' ' ∨ (isGraphic c = true ∧ c ∉ ['+', '-', '?'])

theorem IsField.not_sign {i : Text} (h : IsField i) {c : Char} (hc : c ∈ i) : isSignChar c = false := by
  rcases h c hc with rfl | ⟨-, hc⟩
  · rfl
  · simp only [List.mem_cons, List.not_mem_nil, or_false, not_or] at hc
    simp [isSignChar, hc.1, hc.2.1]

theorem isSignChar_of_column {sign : Char} (hcol : sign ∈ ['+', '-', ' ']) (hblank : sign ≠ ' ') :
    isSignChar sign = true := by
  simp only [List.mem_cons, List.not_mem_nil, or_false] at hcol
  rcases hcol with h | h | h
  · rw [h]; rfl
  · rw [h]; rfl
  · exact absurd h hblank

/-- The sign that is captured is the one in the sign column. -/
theorem sign_of_front {p : WeightParse} (hp : p.Valid) {sign : Char} (hcol : sign ∈ ['+', '-', ' ']) {n : Nat}
    {i : Text} (hi : IsField i) (h : p.front = i ++ sign :: blanks n) :
    p.sign = if sign = ' ' then none else some sign := by
  split
  · rename_i hblank
    cases hs : p.sign with
    | none => rfl
    | some c =>
        have hc := WeightParse.mem_front_of_sign_eq hs
        have hsign := hp.sign c hs
        rw [h, hblank] at hc
        simp only [List.mem_append, List.mem_cons, blanks, List.mem_replicate] at hc
        rcases hc with hc | rfl | ⟨-, rfl⟩
        · rw [hi.not_sign hc] at hsign
          cases hsign
        · cases hsign
        · cases hsign
  · rename_i hblank
    exact WeightParse.sign_eq_of_mem_front hp (by rw [h]; simp) (isSignChar_of_column hcol hblank)

theorem parse_sign {p : WeightParse} (hp : p.Valid) {i : Text} (hi : IsField i)
    (h : p.front = i ++ l.sign :: blanks l.pad) :
    p.sign = if l.sign = ' ' then none else some l.sign :=
  sign_of_front hp l.sign_column hi h

theorem lstrip_ne_nil_append {i t : Text} (h : Text.lstrip i ≠ []) :
    Text.lstrip (i ++ t) = Text.lstrip i ++ t := by
  simp only [Text.lstrip] at h ⊢
  rw [List.dropWhile_append, if_neg (by simpa using h)]

theorem getLast?_lstrip {i : Text} (h : Text.lstrip i ≠ []) :
    (Text.lstrip i).getLast? = i.getLast? := by
  conv_rhs => rw [← List.takeWhile_append_dropWhile (p := Text.isSpace) (l := i)]
  exact (List.getLast?_append_of_ne_nil _ h).symm

theorem mem_of_mem_lstrip {i : Text} {c : Char} (h : c ∈ Text.lstrip i) : c ∈ i :=
  (List.dropWhile_suffix _).subset h

theorem unstable_of_front {p : WeightParse} {sign : Char} (hcol : sign ∈ ['+', '-', ' ']) {n : Nat} {i : Text}
    (hi : IsField i) (h : p.front = i ++ sign :: blanks n) : p.unstable = false := by
  cases hq : p.unstable with
  | false => rfl
  | true =>
      have hmem : '?' ∈ p.front := by simp [WeightParse.front, hq]
      rw [h, List.mem_append, List.mem_cons, blanks, List.mem_replicate] at hmem
      rcases hmem with hmem | hmem | ⟨-, hmem⟩
      · rcases hi _ hmem with h | h
        · cases h
        · simp at h
      · rw [← hmem] at hcol
        simp at hcol
      · cases hmem

theorem IsField.eq_blank {i : Text} (hi : IsField i) {c : Char} (hc : c ∈ i) (hs : Text.isSpace c = true) : c = ' ' :=
  (hi c hc).resolve_right fun hg => by rw [isSpace_of_isGraphic hg.1] at hs; cases hs

section Field

variable {p : WeightParse} {sign : Char} {n : Nat} {i : Text}

/-- Without a prefix the ID field is blank. -/
theorem field_blank (hp : p.Valid) (hq : p.unstable = false) (hid : p.id = none) (hi : IsField i)
    (h : p.front = i ++ sign :: blanks n) : Text.lstrip i = [] := by
  rw [Text.lstrip, List.dropWhile_eq_nil_iff]
  intro c hc
  have hmem : c ∈ p.front := by rw [h]; simp [hc]
  simp only [WeightParse.front, hq, hid, List.mem_append, Option.elim] at hmem
  rcases hmem with hmem | hmem | hmem | hmem | hmem | hmem
  · exact hp.blank₁ c hmem
  · simp at hmem
  · exact hp.blank₂ c hmem
  · cases hmem
  · have hs := hp.sign c (by simpa using hmem)
    rw [hi.not_sign hc] at hs
    cases hs
  · exact hp.blank₃ c hmem

/-- With a prefix, the columns begin with it behind blanks. -/
theorem lstrip_front (hp : p.Valid) (hq : p.unstable = false) {j w : Text} (hid : p.id = some (j, w)) :
    Text.lstrip p.front = j ++ w ++ (p.sign.toList ++ p.blank₃) := by
  obtain ⟨⟨x, t, rfl, hx, -⟩, -⟩ := hp.id j w hid
  simp only [WeightParse.front, hq, hid, Option.elim]
  rw [Text.lstrip_append hp.blank₁, if_neg (by decide), List.nil_append, Text.lstrip_append hp.blank₂]
  simp [Text.lstrip_cons (isSpace_of_isLetter hx)]

/-- What is left of the ID field begins with the letter of the prefix and goes on with its characters. -/
theorem field_letters (hp : p.Valid) {j w : Text} (hid : p.id = some (j, w)) (hi : IsField i)
    (hnil : Text.lstrip i ≠ [])
    (hfront : Text.lstrip i ++ sign :: blanks n = j ++ w ++ (p.sign.toList ++ p.blank₃)) :
    ∃ c t, Text.lstrip i = c :: t ∧ isLetter c = true ∧ ∀ x ∈ t, isIdChar x = true := by
  obtain ⟨⟨x, t, rfl, hx, ht, -⟩, hw, -⟩ := hp.id j w hid
  have hchars : ∀ c ∈ Text.lstrip i, c ∈ w ∨ c ∈ p.blank₃ → c = ' ' := fun c hc hcs =>
    hi.eq_blank (mem_of_mem_lstrip hc) (hcs.elim (hw c) (hp.blank₃ c))
  obtain ⟨y, r, hr⟩ := List.exists_cons_of_ne_nil hnil
  rw [hr] at hfront hchars
  obtain ⟨rfl, htail⟩ := List.cons.inj hfront
  refine ⟨y, r, hr, hx, fun c hc => ?_⟩
  have hmem : c ∈ t ++ w ++ (p.sign.toList ++ p.blank₃) := by
    rw [show t ++ w ++ (p.sign.toList ++ p.blank₃) = r ++ sign :: blanks n from htail.symm]
    exact List.mem_append_left _ hc
  simp only [List.mem_append] at hmem
  rcases hmem with (hmem | hmem) | hmem | hmem
  · exact ht c hmem
  · rw [hchars c (by simp [hc]) (.inl hmem)]; rfl
  · have hs := hp.sign c (by simpa using hmem)
    rw [hi.not_sign (mem_of_mem_lstrip (by rw [hr]; simp [hc]))] at hs
    cases hs
  · rw [hchars c (by simp [hc]) (.inr hmem)]; rfl

/-- A sign ends the prefix, so the field ends in the blanks that `\s+` took. -/
theorem field_last (hp : p.Valid) {j w : Text} (hid : p.id = some (j, w)) (hi : IsField i)
    (hnil : Text.lstrip i ≠ []) (hblank : sign ≠ ' ') (hsign : p.sign = some sign)
    (hfront : Text.lstrip i ++ sign :: blanks n = j ++ w ++ (p.sign.toList ++ p.blank₃)) :
    i.getLast? = some ' ' := by
  obtain ⟨-, hw, hwne⟩ := hp.id j w hid
  have hmemi : sign ∉ Text.lstrip i := fun hm => by
    have hs := hp.sign _ hsign
    rw [hi.not_sign (mem_of_mem_lstrip hm)] at hs
    cases hs
  have hmemb : sign ∉ blanks n := fun hm => hblank (List.mem_replicate.mp hm).2
  rw [hsign] at hfront
  obtain ⟨hr, -⟩ := (List.append_cons_inj_of_notMem hmemi hmemb).mp hfront
  obtain ⟨w, c, rfl⟩ := List.eq_nil_or_concat w |>.resolve_left hwne
  rw [← getLast?_lstrip hnil, hr]
  simp only [List.concat_eq_append, List.getLast?_append, List.getLast?_singleton, Option.some_or, Option.some.injEq]
  exact hi.eq_blank (mem_of_mem_lstrip (by rw [hr]; simp)) (hw c (by simp))

/-- The columns before the number match only when the ID field is blank or a prefix. -/
theorem field_of_front (hp : p.Valid) (hcol : sign ∈ ['+', '-', ' ']) (hi : IsField i)
    (h : p.front = i ++ sign :: blanks n) :
    Text.lstrip i = [] ∨
      ((∃ c t, Text.lstrip i = c :: t ∧ isLetter c = true ∧ ∀ x ∈ t, isIdChar x = true) ∧
        (sign = ' ' ∨ i.getLast? = some ' ')) := by
  have hq := unstable_of_front hcol hi h
  cases hid : p.id with
  | none => exact .inl (field_blank hp hq hid hi h)
  | some jw =>
      obtain ⟨j, w⟩ := jw
      by_cases hnil : Text.lstrip i = []
      · exact .inl hnil
      have hfront := lstrip_front hp hq hid
      rw [h, lstrip_ne_nil_append hnil] at hfront
      refine .inr ⟨field_letters hp hid hi hnil hfront, ?_⟩
      by_cases hblank : sign = ' '
      · exact .inl hblank
      · have hsign := sign_of_front hp hcol hi h
        rw [if_neg hblank] at hsign
        exact .inr (field_last hp hid hi hnil hblank hsign hfront)

end Field

theorem fieldReads_of_parse {p : WeightParse} (hp : p.Valid) {i : Text} (hi : IsField i)
    (h : p.front = i ++ l.sign :: blanks l.pad) : l.FieldReads i :=
  field_of_front hp l.sign_column hi h

/-- A way to read `number` and the columns after it, behind a prefix and a sign. -/
def parseWith (l : WeightLine) (b₁ b₂ : Text) (id : Option (Text × Text)) (sign : Option Char) (b₃ number : Text) :
    WeightParse :=
  { blank₁ := b₁, unstable := false, blank₂ := b₂, id, sign, blank₃ := b₃, number,
    blank₄ := blanks l.gap, unit := if l.unit = [] then none else some l.unit, blank₅ := blanks l.tail }

theorem parseWith_back (b₁ b₂ : Text) (id : Option (Text × Text)) (sign : Option Char) (b₃ number : Text) :
    (l.parseWith b₁ b₂ id sign b₃ number).back = l.back := by
  by_cases hu : l.unit = [] <;> simp [parseWith, WeightParse.back, back, hu]

theorem parseWith_valid (hunit : l.UnitReads) {b₁ b₂ b₃ number : Text} (id : Option (Text × Text))
    (sign : Option Char) (hb₁ : WeightParse.AllSpace b₁) (hb₂ : WeightParse.AllSpace b₂)
    (hid : ∀ i w, id = some (i, w) → WeightParse.IsPrefix i w)
    (hsign : ∀ c, sign = some c → isSignChar c = true) (hb₃ : WeightParse.AllSpace b₃)
    (hn : IsNumber number) : (l.parseWith b₁ b₂ id sign b₃ number).Valid where
  blank₁ := hb₁
  blank₂ := hb₂
  id := hid
  sign := hsign
  blank₃ := hb₃
  number := numberRe_matches_iff.mpr ⟨rfl, hn⟩
  blank₄ := allSpace_blanks _
  unit u hu := by
    by_cases hnil : l.unit = []
    · simp [parseWith, hnil] at hu
    · obtain rfl : l.unit = u := by simpa [parseWith, hnil] using hu
      exact ⟨hunit, hnil⟩
  blank₅ := allSpace_blanks _

/-- A way to read the columns before the number `0`. -/
theorem front_valid {b₁ b₂ b₃ : Text} (id : Option (Text × Text)) (sign : Option Char)
    (hb₁ : WeightParse.AllSpace b₁) (hb₂ : WeightParse.AllSpace b₂)
    (hid : ∀ j w, id = some (j, w) → WeightParse.IsPrefix j w) (hsign : ∀ c, sign = some c → isSignChar c = true)
    (hb₃ : WeightParse.AllSpace b₃) : (WeightParse.mk b₁ false b₂ id sign b₃ ['0'] [] none []).Valid :=
  have hzero : IsNumber ['0'] := .whole (by simp [AllDigits, isDigit]) (by simp)
  ⟨hb₁, hb₂, hid, hsign, hb₃, numberRe_matches_iff.mpr ⟨rfl, hzero⟩, allSpace_blanks 0, by simp, allSpace_blanks 0⟩

section Front

variable {sign : Char} (hcol : sign ∈ ['+', '-', ' ']) (n : Nat)
include hcol

theorem exists_front_blank {i : Text} (hi : WeightParse.AllSpace i) :
    ∃ q : WeightParse, q.Valid ∧ q.front = i ++ sign :: blanks n := by
  by_cases hs : sign = ' '
  · exact ⟨_, front_valid none none hi (allSpace_blanks 1) (by simp) (by simp) (allSpace_blanks n),
      by simp [WeightParse.front, hs, blanks]⟩
  · refine ⟨_, front_valid none (some sign) hi (allSpace_blanks 0) (by simp) ?_ (allSpace_blanks n),
      by simp [WeightParse.front, blanks]⟩
    rintro _ ⟨rfl⟩
    exact isSignChar_of_column hcol hs

/-- A prefix behind blanks is set off by the blank of the sign column, or by its own last blank. -/
theorem exists_front_prefix {b t : Text} {c : Char} (hb : WeightParse.AllSpace b) (hc : isLetter c = true)
    (ht : ∀ x ∈ t, isIdChar x = true) (hle : (c :: t).length ≤ 6)
    (hlast : sign = ' ' ∨ (c :: t).getLast? = some ' ') :
    ∃ q : WeightParse, q.Valid ∧ q.front = b ++ (c :: t) ++ sign :: blanks n := by
  by_cases hs : sign = ' '
  · have hprefix : ∀ j w, some (c :: t, ' ' :: blanks n) = some (j, w) → WeightParse.IsPrefix j w := by
      rintro _ _ ⟨rfl, rfl⟩
      exact ⟨⟨c, t, rfl, hc, ht, Nat.le_of_succ_le_succ hle⟩, allSpace_blanks (n + 1), by simp⟩
    exact ⟨_, front_valid _ none hb (allSpace_blanks 0) hprefix (by simp) (allSpace_blanks 0),
      by simp [WeightParse.front, blanks, hs]⟩
  · have hlast := hlast.resolve_left hs
    obtain ⟨t', rfl⟩ : ∃ t', t = t' ++ [' '] := by
      rcases List.eq_nil_or_concat t with rfl | ⟨t', d, rfl⟩
      · obtain rfl : c = ' ' := by simpa using hlast
        cases hc
      · rw [List.concat_eq_append, ← List.cons_append, List.getLast?_concat] at hlast
        exact ⟨t', by rw [List.concat_eq_append, Option.some.inj hlast]⟩
    have hprefix : ∀ j w, some (c :: t', [' ']) = some (j, w) → WeightParse.IsPrefix j w := by
      rintro _ _ ⟨rfl, rfl⟩
      exact ⟨⟨c, t', rfl, hc, fun x hx => ht x (by simp [hx]), by simp at hle; omega⟩, allSpace_blanks 1, by simp⟩
    refine ⟨_, front_valid _ (some sign) hb (allSpace_blanks 0) hprefix ?_ (allSpace_blanks n),
      by simp [WeightParse.front, blanks]⟩
    rintro _ ⟨rfl⟩
    exact isSignChar_of_column hcol hs

/-- A blank or prefixed ID field, and the sign after it, are read. -/
theorem exists_front {i : Text} (hlen : i.length ≤ 6)
    (hf : Text.lstrip i = [] ∨
      ((∃ c t, Text.lstrip i = c :: t ∧ isLetter c = true ∧ ∀ x ∈ t, isIdChar x = true) ∧
        (sign = ' ' ∨ i.getLast? = some ' '))) :
    ∃ q : WeightParse, q.Valid ∧ q.front = i ++ sign :: blanks n := by
  have hlead : WeightParse.AllSpace (i.takeWhile Text.isSpace) := fun c hc => List.mem_takeWhile_imp hc
  have hsplit : i.takeWhile Text.isSpace ++ Text.lstrip i = i := List.takeWhile_append_dropWhile
  rcases hf with hnil | ⟨⟨c, t, hct, hc, ht⟩, hlast⟩
  · rw [hnil, List.append_nil] at hsplit
    exact exists_front_blank hcol n (hsplit ▸ hlead)
  · have hle : (c :: t).length ≤ 6 := by
      rw [← hct]
      exact (List.dropWhile_suffix _).length_le.trans hlen
    rw [← getLast?_lstrip (by simp [hct]), hct] at hlast
    rw [hct] at hsplit
    exact hsplit ▸ exists_front_prefix hcol n hlead hc ht hle hlast

end Front

/-- A blank or prefixed ID field is read. -/
theorem exists_parse (hunit : l.UnitReads) {i : Text} (hlen : i.length ≤ 6) (hf : l.FieldReads i) :
    ∃ p : WeightParse, p.Valid ∧ p.text = l.bodyFrom i := by
  obtain ⟨q, hq, hfront⟩ := exists_front l.sign_column l.pad hlen hf
  have hback := parseWith_back (l := l) q.blank₁ q.blank₂ q.id q.sign q.blank₃ l.number
  refine ⟨{ l.parseWith q.blank₁ q.blank₂ q.id q.sign q.blank₃ l.number with unstable := q.unstable }, ?_, ?_⟩
  · exact { parseWith_valid hunit q.id q.sign hq.blank₁ hq.blank₂ hq.id hq.sign hq.blank₃ l.number_form with }
  · rw [bodyFrom_eq, ← hfront, ← hback]
    rfl

/-! ## What a line and its tails read as -/

theorem isAscii_of_isGraphic {c : Char} (h : isGraphic c = true) : c.toNat < 128 := by
  simp only [isGraphic, Bool.and_eq_true, decide_eq_true_eq] at h
  omega

theorem isAscii_of_isNumChar {c : Char} (h : isNumChar c = true) : c.toNat < 128 := by
  simp only [isNumChar, isDigit, Bool.decide_and, Bool.or_eq_true, Bool.and_eq_true, decide_eq_true_eq,
    beq_iff_eq, Char.le_def] at h
  rcases h with ⟨-, h⟩ | rfl
  · exact Nat.lt_of_le_of_lt (show c.toNat ≤ 57 from h) (by decide)
  · decide

theorem isAscii_blanks (n : Nat) : IsAscii (blanks n) := by
  intro c hc
  rw [(List.mem_replicate.mp hc).2]
  decide

theorem isAscii_back : IsAscii l.back :=
  IsAscii.append (isAscii_blanks _) (.append (fun c hc => isAscii_of_isGraphic (l.unit_chars c hc).1)
    (isAscii_blanks _))

theorem isAscii_bodyFrom {i : Text} (hi : IsField i) : IsAscii (l.bodyFrom i) := by
  have hsign : l.sign.toNat < 128 := by
    have := l.sign_column
    simp only [List.mem_cons, List.not_mem_nil, or_false] at this
    rcases this with h | h | h <;> rw [h] <;> decide
  have hfield : IsAscii i := fun c hc => by
    rcases hi c hc with rfl | ⟨hg, -⟩
    · decide
    · exact isAscii_of_isGraphic hg
  have hnumber : IsAscii l.number := fun c hc => isAscii_of_isNumChar (l.number_form.chars c hc)
  refine IsAscii.append hfield fun c hc => ?_
  rcases List.mem_cons.mp hc with rfl | hc
  · exact hsign
  · exact IsAscii.append (isAscii_blanks _) (.append hnumber isAscii_back) c hc

theorem back_length : l.back.length = l.gap + (l.unit.length + l.tail) := by
  simp [back, blanks]

/-- No line with its sign column is taken for a fragment. -/
theorem not_fragment_bodyFrom {i : Text} {p : WeightParse} (hp : p.Valid)
    (hfront : p.front = i ++ l.sign :: blanks l.pad) (htext : p.text = l.bodyFrom i) :
    isBareNumberFragment (l.bodyFrom i) p.captures = false := by
  simp only [isBareNumberFragment, WeightParse.captures_get?_unstable, WeightParse.captures_get?_id,
    WeightParse.captures_get?_sign, decide_eq_false_iff_not, not_and, not_or]
  intro hq hid hs _
  constructor
  · have hspace : ∀ c ∈ p.front, Text.isSpace c = true := by
      intro c hc
      have hq : p.unstable = false := by simpa using hq
      have hid : p.id = none := by simpa using hid
      have hs : p.sign = none := by simpa using hs
      simp only [WeightParse.front, hq, hid, hs, Bool.false_eq_true, if_false, Option.elim, Option.toList_none,
        List.nil_append, List.mem_append] at hc
      exact hc.elim (hp.blank₁ c) fun hc => hc.elim (hp.blank₂ c) (hp.blank₃ c)
    obtain ⟨c, t, hct⟩ := List.exists_cons_of_ne_nil (l := p.front) (by rw [hfront]; simp)
    rw [← htext, WeightParse.text, hct, List.cons_append]
    exact (Text.strip_ne_of_startsSpace (hspace c (by rw [hct]; exact List.mem_cons_self))).symm
  · have := l.width
    simp only [bodyFrom_eq, List.length_append, List.length_cons, back_length, blanks, List.length_replicate,
      minFormattedWeightBodyChars]
    omega

/-- A line is read exactly when its field and unit read and it is not a refusal; then the number and the
sign are those of their columns. -/
theorem readingOf_bodyFrom {i : Text} (hi : IsField i) (hlen : i.length ≤ 6) :
    (readingOf (asciiLine (l.bodyFrom i)) = none ↔ ¬ l.ReadsFrom i) ∧
      ∀ r, readingOf (asciiLine (l.bodyFrom i)) = some r → r.value = some l.value ∧ r.sign = l.wireSign := by
  obtain ⟨d, hd, hdigit⟩ := l.number_form.exists_digit
  have hmem : d ∈ l.bodyFrom i := by simp [bodyFrom, hd]
  rw [readingOf_digit (isAscii_bodyFrom hi) hdigit hmem]
  cases hr : refused (l.bodyFrom i) with
  | true => simp [ReadsFrom, hr]
  | false =>
      cases hm : weightRe.fullmatch (l.bodyFrom i) with
      | none =>
          simp only [Bool.false_eq_true, if_false, true_iff, reduceCtorEq, false_imp_iff, implies_true,
            and_true]
          rintro ⟨hunit, hf, -⟩
          obtain ⟨p, hp, htext⟩ := exists_parse hunit hlen hf
          exact Re.fullmatch_eq_none_iff.mp hm p.captures
            (weightRe_matches_iff.mpr ⟨p, hp, htext.symm, rfl⟩)
      | some m =>
          obtain ⟨p, hp, hfront, hnum, hback, rfl⟩ := places_of_fullmatch (sign_endsOutside i) l.number_form
            back_noDigit back_head (bodyFrom_eq i ▸ hm)
          have hsign := parse_sign hp hi hfront
          have htext : p.text = l.bodyFrom i := by rw [WeightParse.text, hfront, hnum, hback, bodyFrom_eq]
          have hreads : l.ReadsFrom i := ⟨unitReads_of_back hp hback, fieldReads_of_parse hp hi hfront, hr⟩
          simp only [not_fragment_bodyFrom hp hfront htext, Bool.false_eq_true, if_false, reduceCtorEq, false_iff,
            not_not, hreads, true_and, Option.some.injEq]
          rintro _ rfl
          simp only [weightReading, WeightParse.captures_get?_number, WeightParse.captures_get?_sign, hnum,
            hsign, Option.getD_some, value, wireSign]
          have hcol := l.sign_column
          simp only [List.mem_cons, List.not_mem_nil, or_false] at hcol
          rcases hcol with h | h | h <;> simp [h]

/-- A text that starts with a number is no refusal. -/
theorem refused_tail {n : Nat} {number rest : Text} (h : IsNumber number) :
    refused (blanks n ++ (number ++ rest)) = false := by
  obtain ⟨c, t, rfl⟩ := List.exists_cons_of_ne_nil h.ne_nil
  exact refused_of_number (allSpace_blanks n) (h.chars c List.mem_cons_self)

/-- Blanks before the number hold no prefix and no sign. -/
theorem parse_blank_front {p : WeightParse} (hp : p.Valid) {n : Nat} (h : p.front = blanks n) :
    p.unstable = false ∧ p.id = none ∧ p.sign = none := by
  have hblank : ∀ c ∈ p.front, c = ' ' := fun c hc => by
    rw [h] at hc
    exact (List.mem_replicate.mp hc).2
  refine ⟨?_, ?_, ?_⟩
  · cases hq : p.unstable with
    | false => rfl
    | true => exact absurd (hblank '?' (by simp [WeightParse.front, hq])) (by decide)
  · cases hid : p.id with
    | none => rfl
    | some jw =>
        obtain ⟨⟨c, t, hct, hc, -⟩, -⟩ := hp.id jw.1 jw.2 hid
        rw [hblank c (by simp [WeightParse.front, hid, hct])] at hc
        cases hc
  · cases hs : p.sign with
    | none => rfl
    | some c =>
        have hc := hp.sign c hs
        rw [hblank c (WeightParse.mem_front_of_sign_eq hs)] at hc
        cases hc

theorem isAscii_tail {n j : Nat} : IsAscii (blanks n ++ (l.number.drop j ++ l.back)) :=
  .append (isAscii_blanks n) (.append (fun c hc =>
    isAscii_of_isNumChar (l.number_form.chars c (List.mem_of_mem_drop hc))) isAscii_back)

/-- The point that a number ended in carries no reading. -/
theorem readingOf_point {n j : Nat} (hj : l.number.drop j = ['.']) :
    readingOf (asciiLine (blanks n ++ (l.number.drop j ++ l.back))) = none := by
  have hdigit : ∀ c ∈ blanks n ++ (l.number.drop j ++ l.back), isDigit c = false := by
    rw [hj]
    intro c hc
    simp only [List.mem_append, List.mem_singleton, blanks, List.mem_replicate] at hc
    rcases hc with ⟨-, rfl⟩ | rfl | hc
    · rfl
    · rfl
    · exact back_noDigit c hc
  refine (readingOf_noDigit isAscii_tail hdigit).1.mpr ?_
  rw [hj]
  exact offScale_of_startsValue (allSpace_blanks n) rfl

/-- What is left after the sign column reads as a positive number, unless the unit field is blank or no digit of the
number is left. -/
theorem readingOf_tail {n j : Nat} (hj : j < l.number.length) (hn : n ≤ l.pad) :
    let t := blanks n ++ (l.number.drop j ++ l.back)
    (readingOf (asciiLine t) = none ↔ l.unit = [] ∨ ¬ l.UnitReads ∨ l.number.drop j = ['.']) ∧
      ∀ r, readingOf (asciiLine t) = some r → r.value = some (floatOfText (l.number.drop j)) ∧
        r.sign = signFromWire '+' (floatOfText (l.number.drop j)) := by
  intro t
  by_cases hpoint : l.number.drop j = ['.']
  · have hnone : readingOf (asciiLine t) = none := readingOf_point hpoint
    exact ⟨by simp [hnone, hpoint], fun r hr => by rw [hnone] at hr; cases hr⟩
  have hdec : IsNumber (l.number.drop j) := (l.number_form.drop hj).resolve_right hpoint
  obtain ⟨d, hd, hdigit⟩ := hdec.exists_digit
  have hmem : d ∈ t := by simp [t, hd]
  have hascii : IsAscii t := isAscii_tail
  have hX : EndsOutside isNumChar (blanks n) :=
    .of_forall fun c hc => isNumChar_of_isSpace (allSpace_blanks n c hc)
  have hlen : t.length < minFormattedWeightBodyChars := by
    have := l.width
    simp only [t, List.length_append, blanks, List.length_replicate, List.length_drop, back_length,
      minFormattedWeightBodyChars]
    omega
  rw [readingOf_digit hascii hdigit hmem, if_neg (by rw [refused_tail hdec]; simp)]
  cases hm : weightRe.fullmatch t with
  | none =>
      simp only [true_iff, reduceCtorEq, false_imp_iff, implies_true, and_true]
      by_contra hc
      rw [not_or, not_or, not_not] at hc
      have hp := parseWith_valid (l := l) hc.2.1 none none (allSpace_blanks n) (allSpace_blanks 0)
        (by simp) (by simp) (allSpace_blanks 0) hdec
      refine Re.fullmatch_eq_none_iff.mp hm _ (weightRe_matches_iff.mpr ⟨_, hp, ?_, rfl⟩)
      rw [WeightParse.text, parseWith_back]
      simp [t, WeightParse.front, parseWith, blanks]
  | some m =>
      obtain ⟨p, hp, hfront, hnum, hback, rfl⟩ := places_of_fullmatch hX hdec back_noDigit back_head hm
      obtain ⟨hq, hid, hs⟩ := parse_blank_front hp hfront
      have hbare : isBareNumberFragment t p.captures = true ↔ l.unit = [] := by
        simp [isBareNumberFragment, hq, hid, hs, hlen, unit_eq_nil_iff hp hback]
      by_cases hu : l.unit = []
      · simp [hbare.mpr hu, hu]
      · simp only [hbare, hu, if_false, reduceCtorEq, false_or, unitReads_of_back hp hback, not_true,
          hpoint, true_and, Option.some.injEq]
        rintro _ rfl
        simp [weightReading, hnum, hs]

end WeightLine

/-- A tail of a line carries no reading, or one with the value and the sign of the whole line. -/
def KeepsReading (whole suffix : Bytes) : Prop :=
  ∀ r, readingOf suffix = some r →
    ∃ r', readingOf whole = some r' ∧ r.value = r'.value ∧ r.sign = r'.sign

namespace WeightLine

/-- When the tail that starts after `k` columns is harmless. -/
def HarmlessAt (l : WeightLine) (k : Nat) : Prop :=
  if k ≤ l.id.length then l.ReadsFrom (l.id.drop k) → l.ReadsFrom l.id
  else if k < l.id.length + 1 + l.pad + l.number.length then
    l.unit = [] ∨ ¬ l.UnitReads ∨ l.number.drop (k - (l.id.length + 1 + l.pad)) = ['.'] ∨
      (l.ReadsFrom l.id ∧
        floatOfText (l.number.drop (k - (l.id.length + 1 + l.pad))) = floatOfText l.number ∧
        (l.sign ≠ '-' ∨ floatOfText l.number = .fin 0))
  else offScale (l.body.drop k) = false

theorem neg_eq_zero_iff {x : PyFloat} : x.neg = .fin 0 ↔ x = .fin 0 := by
  cases x <;> simp [PyFloat.neg]

/-- Without its sign column a number keeps value and sign unless it is negative. -/
theorem value_sign_iff (l : WeightLine) (x : PyFloat) :
    (x = l.value ∧ signFromWire '+' x = l.wireSign) ↔
      (x = floatOfText l.number ∧ (l.sign ≠ '-' ∨ floatOfText l.number = .fin 0)) := by
  by_cases hs : l.sign = '-'
  · have hneg := neg_eq_zero_iff (x := floatOfText l.number)
    simp only [value, wireSign, hs, if_true, ne_eq, not_true, false_or]
    constructor
    · rintro ⟨rfl, h⟩
      have hzero : (floatOfText l.number).neg = .fin 0 := by
        by_contra hne
        simp [signFromWire, hne] at h
      exact ⟨hzero.trans (hneg.mp hzero).symm, hneg.mp hzero⟩
    · rintro ⟨rfl, hzero⟩
      rw [hneg.mpr hzero, hzero]
      exact ⟨rfl, rfl⟩
  · simp only [value, wireSign, hs, if_false, ne_eq, not_false_eq_true, true_or, and_true, and_iff_left_iff_imp]
    rintro rfl
    rfl

theorem keepsReading_of_none {whole suffix : Bytes} (h : readingOf suffix = none) :
    KeepsReading whole suffix := fun r hr => by rw [h] at hr; cases hr

variable (l : WeightLine)

/-- The columns left when the ID field is cut. -/
theorem keepsReading_field {k : Nat} :
    KeepsReading l.bytes (asciiLine (l.bodyFrom (l.id.drop k))) ↔
      (l.ReadsFrom (l.id.drop k) → l.ReadsFrom l.id) := by
  have hlen : l.id.length ≤ 6 := by have := l.id_width; omega
  have hdrop : IsField (l.id.drop k) := fun c hc => l.id_chars c (List.mem_of_mem_drop hc)
  obtain ⟨hwhole, hwhole'⟩ := readingOf_bodyFrom l.id_chars hlen
  obtain ⟨htail, htail'⟩ := readingOf_bodyFrom (l := l) hdrop (by rw [List.length_drop]; omega)
  rw [bytes, body]
  constructor
  · intro hkeep hreads
    cases hr : readingOf (asciiLine (l.bodyFrom (l.id.drop k))) with
    | none => exact absurd hreads (htail.mp hr)
    | some r =>
        obtain ⟨r', hr', -⟩ := hkeep r hr
        exact not_not.mp fun hn => by rw [hwhole.mpr hn] at hr'; cases hr'
  · intro himp r hr
    have hreads : l.ReadsFrom (l.id.drop k) := not_not.mp fun hn => by
      rw [htail.mpr hn] at hr
      cases hr
    cases hr' : readingOf (asciiLine (l.bodyFrom l.id)) with
    | none => exact absurd (himp hreads) (hwhole.mp hr')
    | some r' =>
        exact ⟨r', rfl, (htail' r hr).1.trans (hwhole' r' hr').1.symm,
          (htail' r hr).2.trans (hwhole' r' hr').2.symm⟩

/-- The columns left when the sign is cut and part of the number is not. -/
theorem keepsReading_number {n j : Nat} (hj : j < l.number.length) (hn : n ≤ l.pad) :
    KeepsReading l.bytes (asciiLine (blanks n ++ (l.number.drop j ++ l.back))) ↔
      l.unit = [] ∨ ¬ l.UnitReads ∨ l.number.drop j = ['.'] ∨ (l.ReadsFrom l.id ∧
        floatOfText (l.number.drop j) = floatOfText l.number ∧
        (l.sign ≠ '-' ∨ floatOfText l.number = .fin 0)) := by
  have hlen : l.id.length ≤ 6 := by have := l.id_width; omega
  obtain ⟨hwhole, hwhole'⟩ := readingOf_bodyFrom l.id_chars hlen
  obtain ⟨htail, htail'⟩ := readingOf_tail hj hn
  have hassoc : ∀ {a b c d : Prop}, (a ∨ b ∨ c ∨ d) ↔ ((a ∨ b ∨ c) ∨ d) := by
    intro a b c d
    rw [or_assoc, or_assoc]
  rw [bytes, body, ← value_sign_iff, hassoc]
  cases hr : readingOf (asciiLine (blanks n ++ (l.number.drop j ++ l.back))) with
  | none => exact ⟨fun _ => .inl (htail.mp hr), fun _ => keepsReading_of_none hr⟩
  | some r =>
      have hnot : ¬ (l.unit = [] ∨ ¬ l.UnitReads ∨ l.number.drop j = ['.']) := fun h => by
        rw [htail.mpr h] at hr
        cases hr
      obtain ⟨hvalue, hsign⟩ := htail' r hr
      constructor
      · intro hkeep
        obtain ⟨r', hr', hv, hs⟩ := hkeep r hr
        obtain ⟨hvalue', hsign'⟩ := hwhole' r' hr'
        have hreads : l.ReadsFrom l.id := not_not.mp fun hn => by
          rw [hwhole.mpr hn] at hr'
          cases hr'
        refine .inr ⟨hreads, ?_, ?_⟩
        · exact Option.some.inj (hvalue.symm.trans (hv.trans hvalue'))
        · exact hsign.symm.trans (hs.trans hsign')
      · intro h
        obtain ⟨hreads, hv, hs⟩ := h.resolve_left hnot
        intro r₁ hr₁
        obtain rfl : r = r₁ := Option.some.inj (hr.symm.trans hr₁)
        cases hr' : readingOf (asciiLine (l.bodyFrom l.id)) with
        | none => exact absurd hreads (hwhole.mp hr')
        | some r' =>
            obtain ⟨hvalue', hsign'⟩ := hwhole' r' hr'
            exact ⟨r', rfl, hvalue.trans ((congrArg some hv).trans hvalue'.symm),
              hsign.trans (hs.trans hsign'.symm)⟩

/-- The columns left when the number is cut off. -/
theorem keepsReading_back {t : Text} (ht : t <:+ l.back) :
    KeepsReading l.bytes (asciiLine t) ↔ offScale t = false := by
  have hlen : l.id.length ≤ 6 := by have := l.id_width; omega
  obtain ⟨-, hwhole⟩ := readingOf_bodyFrom l.id_chars hlen
  obtain ⟨htail, hvalue⟩ := readingOf_noDigit (t := t) (fun c hc => isAscii_back c (ht.subset hc))
    (fun c hc => back_noDigit c (ht.subset hc))
  rw [← htail]
  constructor
  · intro hkeep
    cases hr : readingOf (asciiLine t) with
    | none => rfl
    | some r =>
        obtain ⟨r', hr', hv, -⟩ := hkeep r hr
        rw [hvalue r hr, (hwhole r' hr').1] at hv
        cases hv
  · exact keepsReading_of_none

theorem drop_body {k : Nat} (hk : k ≤ l.body.length) :
    l.bytes.drop k = asciiLine (l.body.drop k) := by
  rw [bytes, asciiLine, List.drop_append_of_le_length (by simpa using hk), asciiLine, List.map_drop]

theorem drop_body_number {k : Nat} (hk : l.id.length < k)
    (hk' : k ≤ l.id.length + 1 + l.pad + l.number.length) :
    l.body.drop k = blanks (l.pad - (k - (l.id.length + 1))) ++
      (l.number.drop (k - (l.id.length + 1 + l.pad)) ++ l.back) := by
  obtain ⟨m, rfl⟩ : ∃ m, k = l.id.length + (m + 1) := ⟨k - l.id.length - 1, by omega⟩
  rw [body, bodyFrom, ← List.drop_drop, List.drop_left, List.drop_succ_cons, List.drop_append,
    List.drop_append_of_le_length (by simp only [blanks, List.length_replicate]; omega)]
  simp only [blanks, List.drop_replicate, List.length_replicate]
  rw [show l.id.length + (m + 1) - (l.id.length + 1) = m by omega,
    show l.id.length + (m + 1) - (l.id.length + 1 + l.pad) = m - l.pad by omega]

/-- A tail of a weight line is harmless exactly at the cuts that `HarmlessAt` names. -/
theorem keepsReading_iff (l : WeightLine) {suffix : Bytes} (h : suffix <:+ l.bytes)
    (hcrlf : lineTerminator <:+ suffix) :
    KeepsReading l.bytes suffix ↔ l.HarmlessAt (l.bytes.length - suffix.length) := by
  have hbytes : l.bytes.length = l.body.length + 2 := by simp [bytes, asciiLine, lineTerminator]
  have hsize : 2 ≤ suffix.length := hcrlf.length_le
  generalize hk : l.bytes.length - suffix.length = k
  have hkle : k ≤ l.body.length := by omega
  have hsuffix : suffix = asciiLine (l.body.drop k) := by
    rw [← drop_body l hkle, ← hk]
    exact List.suffix_iff_eq_drop.mp h
  rw [hsuffix, HarmlessAt]
  split
  · rename_i hid
    rw [body, bodyFrom, List.drop_append_of_le_length hid]
    exact keepsReading_field l
  · rename_i hid
    split
    · rename_i hnum
      have hpos : 0 < l.number.length := List.length_pos_of_ne_nil l.number_form.ne_nil
      rw [drop_body_number l (by omega) (by omega)]
      exact keepsReading_number l (by omega) (by omega)
    · rename_i hnum
      refine keepsReading_back l ?_
      rw [body, bodyFrom_eq, ← List.append_assoc, List.drop_append, List.drop_eq_nil_of_le (by
        simp only [List.length_append, List.length_cons, blanks, List.length_replicate]; omega),
        List.nil_append]
      exact List.drop_suffix _ _

theorem isNumber_twelve : IsNumber "12.5".toList := by
  have hpoint : IsNumber ("12".toList ++ '.' :: "5".toList) :=
    .point (by simp [AllDigits, isDigit]) (by decide) (by simp [AllDigits, isDigit])
  exact hpoint

/-- `+     12.5 g`, padded to its columns. -/
def twelve : WeightLine where
  id := []
  sign := '+'
  pad := 5
  number := "12.5".toList
  gap := 1
  unit := "g".toList
  tail := 2
  id_width := .inl rfl
  id_chars := by simp
  sign_column := by decide
  number_form := isNumber_twelve
  unit_chars := by simp [isGraphic, isDigit]
  unit_start := by decide
  width := rfl

theorem keepsReading_iff_twelve :
    KeepsReading twelve.bytes (twelve.bytes.drop 3) ↔ twelve.HarmlessAt 3 :=
  keepsReading_iff twelve (List.drop_suffix 3 twelve.bytes) (by decide)

/-- Attached after the first digit, the parser reads 2.5 g off a line that says 12.5 g. -/
theorem twelve_misread :
    twelve.bytes.drop 7 <:+ twelve.bytes ∧ lineTerminator <:+ twelve.bytes.drop 7 ∧
      ¬ KeepsReading twelve.bytes (twelve.bytes.drop 7) := by
  refine ⟨List.drop_suffix _ _, by decide, fun h => ?_⟩
  have htail : (readingOf (twelve.bytes.drop 7)).map Reading.value = some (some (.fin (5 / 2))) := by
    decide +kernel
  have hwhole : (readingOf twelve.bytes).map Reading.value = some (some (.fin (25 / 2))) := by
    decide +kernel
  obtain ⟨r, hr, hv⟩ := Option.map_eq_some_iff.mp htail
  obtain ⟨r', hr', hv', -⟩ := h r hr
  rw [hr', Option.map_some, Option.some.injEq, ← hv', hv, Option.some.injEq, PyFloat.fin.injEq] at hwhole
  exact absurd hwhole (by decide +kernel)

end WeightLine

end SartoriusLib.Sbi
