import SartoriusLib.Text
import Mathlib.Data.List.TakeWhile
import Mathlib.Tactic.Common

/-!
# Texts made of lines

`str.splitlines`, `str.strip` and `bytes.fromhex`, and what they make of a text that was written line by line.
-/

namespace SartoriusLib.Text

/-! ## Stripping -/

/-- The text consists of blanks. -/
def Blank (t : Text) : Prop := ∀ c ∈ t, isSpace c = true

theorem Blank.nil : Blank [] := fun _ h => absurd h List.not_mem_nil

theorem Blank.append {s t : Text} (hs : Blank s) (ht : Blank t) : Blank (s ++ t) := fun c hc =>
  (List.mem_append.mp hc).elim (hs c) (ht c)

theorem rstrip_append {s t : Text} (ht : Blank t) : rstrip (s ++ t) = rstrip s := by
  rw [rstrip, List.reverse_append, List.dropWhile_append_of_pos fun c hc => ht c (List.mem_reverse.mp hc)]
  rfl

theorem Blank.rstrip {t : Text} (ht : Blank t) : rstrip t = [] := rstrip_append (s := []) ht

/-- A blank stays before a text that is none. -/
theorem rstrip_cons_of_not_blank (c : Char) {t : Text} (ht : ¬ Blank t) : rstrip (c :: t) = c :: rstrip t := by
  have hne : (t.reverse.dropWhile isSpace).isEmpty = false := by
    rw [Bool.eq_false_iff, ne_eq, List.isEmpty_iff, List.dropWhile_eq_nil_iff]
    exact fun h => ht fun c hc => h c (List.mem_reverse.mpr hc)
  rw [rstrip, List.reverse_cons, List.dropWhile_append, if_neg (by simp [hne]), List.reverse_append]
  rfl

theorem Blank.lstrip {t : Text} (ht : Blank t) : lstrip t = [] := List.dropWhile_eq_nil_iff.mpr ht

/-- Blanks before and after a text do not count. -/
theorem strip_append {s t u : Text} (hs : Blank s) (hu : Blank u) : strip (s ++ (t ++ u)) = strip t := by
  rw [strip, lstrip_append hs, strip]
  by_cases ht : Blank t
  · rw [(ht.append hu).lstrip, ht.lstrip]
  · have hne : (t.dropWhile isSpace).isEmpty = false := by
      rw [Bool.eq_false_iff, ne_eq, List.isEmpty_iff, List.dropWhile_eq_nil_iff]
      exact ht
    rw [lstrip, List.dropWhile_append, if_neg (by simp [hne])]
    exact rstrip_append hu

theorem strip_blank {t : Text} (ht : Blank t) : strip t = [] := by
  rw [strip, ht.lstrip]
  rfl

/-- A text is its stripped form between blanks. -/
theorem strip_between (t : Text) : ∃ b b', Blank b ∧ Blank b' ∧ t = b ++ (strip t ++ b') := by
  refine ⟨t.takeWhile isSpace, ((lstrip t).reverse.takeWhile isSpace).reverse, ?_, ?_, ?_⟩
  · exact fun c hc => List.mem_takeWhile_imp hc
  · exact fun c hc => List.mem_takeWhile_imp (List.mem_reverse.mp hc)
  · have hright : strip t ++ ((lstrip t).reverse.takeWhile isSpace).reverse = lstrip t := by
      rw [strip, rstrip, ← List.reverse_append, List.takeWhile_append_dropWhile, List.reverse_reverse]
    rw [hright, lstrip, List.takeWhile_append_dropWhile]

theorem strip_strip (t : Text) : strip (strip t) = strip t := by
  obtain ⟨b, b', hb, hb', ht⟩ := strip_between t
  conv_rhs => rw [ht, strip_append hb hb']

theorem strip_rstrip (t : Text) : strip (rstrip t) = strip t := by
  have hsplit : t = rstrip t ++ (t.reverse.takeWhile isSpace).reverse := by
    rw [rstrip, ← List.reverse_append, List.takeWhile_append_dropWhile, List.reverse_reverse]
  have hblank : Blank (t.reverse.takeWhile isSpace).reverse := fun c hc =>
    List.mem_takeWhile_imp (List.mem_reverse.mp hc)
  conv_rhs => rw [hsplit]
  exact (strip_append (s := []) .nil hblank).symm

theorem strip_sublist (t : Text) : (strip t).Sublist t := by
  obtain ⟨b, b', -, -, ht⟩ := strip_between t
  rw [← List.nil_append (strip t)]
  conv_rhs => rw [ht]
  exact (List.nil_sublist b).append (List.sublist_append_left _ _)

/-- The text neither begins nor ends with a blank. -/
def Trimmed (t : Text) : Prop := strip t = t

theorem Trimmed.lstrip {t : Text} (ht : Trimmed t) : lstrip t = t := by
  have hle : (strip t).length ≤ (Text.lstrip t).length := by
    rw [strip, rstrip, List.length_reverse]
    have := (List.dropWhile_sublist isSpace (l := (Text.lstrip t).reverse)).length_le
    rwa [List.length_reverse] at this
  rw [ht] at hle
  exact (List.dropWhile_sublist isSpace).eq_of_length_le hle

/-- The characters that are no blanks are those of the stripped text. -/
theorem filter_strip (t : Text) : (strip t).filter (!isSpace ·) = t.filter (!isSpace ·) := by
  obtain ⟨b, b', hb, hb', ht⟩ := strip_between t
  have hnone : ∀ {u : Text}, Blank u → u.filter (!isSpace ·) = [] := by
    intro u hu
    simpa [Blank] using hu
  conv_rhs => rw [ht, List.filter_append, List.filter_append, hnone hb, hnone hb']
  simp

theorem flatten_splitLoop (t : Text) : ∀ cur, (splitLoop cur t).flatten = cur.reverse ++ t.filter (!isSpace ·) := by
  induction t with
  | nil =>
      intro cur
      rw [splitLoop]
      split_ifs with hcur <;> simp [hcur]
  | cons c t ih =>
      intro cur
      rw [splitLoop]
      by_cases hc : isSpace c = true
      · rw [if_pos hc]
        split_ifs with hcur <;> simp [ih, hc, hcur]
      · rw [if_neg hc]
        simp [ih, hc]

/-- `"".join(t.split())` drops the blanks. -/
theorem join_split (t : Text) : join [] (split t) = t.filter (!isSpace ·) := by
  have hjoin : ∀ ts : List Text, join [] ts = ts.flatten := by
    intro ts
    rw [join, List.intercalate]
    induction ts with
    | nil => rfl
    | cons u ts ih => cases ts <;> simp_all
  rw [hjoin, split, flatten_splitLoop]
  rfl

/-! ## Lines -/

/-- A line boundary of `str.splitlines`. -/
def isLineBreak (c : Char) : Bool :=
  (0x0A ≤ c.toNat && c.toNat ≤ 0x0D) || (0x1C ≤ c.toNat && c.toNat ≤ 0x1E) || c.toNat == 0x85 ||
  c.toNat == 0x2028 || c.toNat == 0x2029

/-- The lines of `t.splitlines()`; `cur` is the line being read, reversed. -/
def splitlinesLoop : Text → Text → List Text
  | cur, [] => if cur = [] then [] else [cur.reverse]
  | cur, '\r' :: '\n' :: t => cur.reverse :: splitlinesLoop [] t
  | cur, c :: t => if isLineBreak c then cur.reverse :: splitlinesLoop [] t else splitlinesLoop (c :: cur) t

def splitlines (t : Text) : List Text := splitlinesLoop [] t

/-- A text that was written line by line, each line with `\n` or `\r\n` at its end; the last may have none. -/
inductive Written : List Text → Text → Prop where
  | nil : Written [] []
  | last {l : Text} : l ≠ [] → (∀ c ∈ l, isLineBreak c = false) → Written [l] l
  | lf {l t : Text} {ls : List Text} : (∀ c ∈ l, isLineBreak c = false) → Written ls t →
      Written (l :: ls) (l ++ '\n' :: t)
  | crlf {l t : Text} {ls : List Text} : (∀ c ∈ l, isLineBreak c = false) → Written ls t →
      Written (l :: ls) (l ++ '\r' :: '\n' :: t)

theorem unbroken_of_all {l : Text} (h : (l.all fun c => !isLineBreak c) = true) : ∀ c ∈ l, isLineBreak c = false := by
  simpa using h

theorem splitlinesLoop_line {l : Text} (hl : ∀ c ∈ l, isLineBreak c = false) (t : Text) :
    ∀ cur, splitlinesLoop cur (l ++ t) = splitlinesLoop (l.reverse ++ cur) t := by
  induction l with
  | nil => exact fun _ => rfl
  | cons c l ih =>
      intro cur
      have hc := hl c List.mem_cons_self
      have hcr : ∀ u, c :: (l ++ t) ≠ '\r' :: '\n' :: u := by
        rintro u hu
        injection hu with hu _
        subst hu
        cases hc
      rw [List.cons_append, splitlinesLoop, if_neg (by simp [hc]), ih fun c hc => hl c (List.mem_cons_of_mem _ hc)]
      · simp
      · exact fun u hu hlt => hcr u (by rw [hu, hlt])

/-- The lines are read as they were written. -/
theorem Written.splitlines {ls : List Text} {t : Text} (h : Written ls t) : splitlines t = ls := by
  unfold Text.splitlines
  induction h with
  | nil => rfl
  | last hne hl =>
      rename_i l
      have := splitlinesLoop_line hl [] []
      rw [List.append_nil] at this
      simp [this, splitlinesLoop, hne]
  | lf hl _ ih =>
      rw [splitlinesLoop_line hl, splitlinesLoop, if_pos (by decide), ih]
      · simp
      · simp
  | crlf hl _ ih =>
      rw [splitlinesLoop_line hl, splitlinesLoop, ih]
      simp

/-! ## Hexadecimal digits -/

/-- The value of a hexadecimal digit. -/
def hexValue (c : Char) : Option Nat :=
  if '0' ≤ c ∧ c ≤ '9' then some (c.toNat - 48)
  else if 'a' ≤ c ∧ c ≤ 'f' then some (c.toNat - 87)
  else if 'A' ≤ c ∧ c ≤ 'F' then some (c.toNat - 55)
  else none

/-- `bytes.fromhex(t)` of a text without blanks. -/
def fromHex : Text → Option Bytes
  | [] => some []
  | [_] => none
  | hi :: lo :: t =>
      match hexValue hi, hexValue lo with
      | some x, some y => (fromHex t).map (UInt8.ofNat (16 * x + y) :: ·)
      | _, _ => none

/-- The character is the digit of `n`, in lower or in upper case. -/
def IsDigit (n : Nat) (c : Char) : Prop := c = Nat.digitChar n ∨ c = upperChar (Nat.digitChar n)

/-- The digits of bytes, two for each. -/
inductive Spells : Bytes → Text → Prop where
  | nil : Spells [] []
  | cons {x : UInt8} {hi lo : Char} {b : Bytes} {t : Text} : IsDigit (x.toNat / 16) hi → IsDigit (x.toNat % 16) lo →
      Spells b t → Spells (x :: b) (hi :: lo :: t)

theorem hexValue_digit {n : Nat} (hn : n < 16) {c : Char} (hc : IsDigit n c) :
    hexValue c = some n ∧ isSpace c = false ∧ c ≠ '#' := by
  have hall : (List.range 16).all (fun n => [Nat.digitChar n, upperChar (Nat.digitChar n)].all fun c =>
      hexValue c = some n ∧ isSpace c = false ∧ c ≠ '#') = true := by decide
  have hdigits := List.all_eq_true.mp hall n (List.mem_range.mpr hn)
  have := List.all_eq_true.mp hdigits c (by simpa [IsDigit] using hc)
  simpa using this

theorem Spells.chars {b : Bytes} {t : Text} (h : Spells b t) : ∀ c ∈ t, isSpace c = false ∧ c ≠ '#' := by
  induction h with
  | nil => exact fun _ h => absurd h List.not_mem_nil
  | @cons x hi lo b t hhi hlo _ ih =>
      have hx := x.toNat_lt
      intro c hc
      rcases List.mem_cons.mp hc with rfl | hc
      · exact (hexValue_digit (by omega) hhi).2
      rcases List.mem_cons.mp hc with rfl | hc
      · exact (hexValue_digit (by omega) hlo).2
      · exact ih c hc

theorem Spells.length {b : Bytes} {t : Text} (h : Spells b t) : t.length = 2 * b.length := by
  induction h with
  | nil => rfl
  | cons _ _ _ ih =>
      simp only [List.length_cons, ih]
      omega

theorem Spells.fromHex {b : Bytes} {t : Text} (h : Spells b t) : fromHex t = some b := by
  induction h with
  | nil => rfl
  | @cons x hi lo b t hhi hlo _ ih =>
      have hx := x.toNat_lt
      have hvalue : 16 * (x.toNat / 16) + x.toNat % 16 = x.toNat := by omega
      simp only [Text.fromHex, (hexValue_digit (by omega) hhi).1, (hexValue_digit (by omega) hlo).1, ih,
        Option.map_some, hvalue, UInt8.ofNat_toNat]

end SartoriusLib.Text
