import SartoriusLib.Protocol.Sbi.Midline
import SartoriusLib.Protocol.Sbi.Lockstep

/-!
# The documented output formats

A weight line has 16 characters, or 22 with an ID field in front. The formats say what each column holds; this
module determines which of their lines are read as what they say.
-/

namespace SartoriusLib.Sbi

open SartoriusLib Lib WeightLine

/-! ## ID codes -/

/-- A letter and at most five more letters and digits. -/
def IsCode (w : Text) : Prop :=
  ∃ c t, w = c :: t ∧ isLetter c = true ∧ (∀ x ∈ t, isLetter x = true ∨ isDigit x = true) ∧ t.length ≤ 5

theorem isGraphic_of_isLetter {c : Char} (h : isLetter c = true) : isGraphic c = true := by
  simp only [isLetter, Bool.decide_or, Bool.decide_and, Bool.or_eq_true, Bool.and_eq_true, decide_eq_true_eq,
    Char.le_def] at h
  simp only [isGraphic, Bool.and_eq_true, decide_eq_true_eq]
  rcases h with ⟨h₀, h₁⟩ | ⟨h₀, h₁⟩
  · have h₀ : 65 ≤ c.toNat := h₀
    have h₁ : c.toNat ≤ 90 := h₁
    omega
  · have h₀ : 97 ≤ c.toNat := h₀
    have h₁ : c.toNat ≤ 122 := h₁
    omega

theorem isGraphic_of_isDigit {c : Char} (h : isDigit c = true) : isGraphic c = true := by
  simp only [isDigit, Bool.decide_and, Bool.and_eq_true, decide_eq_true_eq, Char.le_def] at h
  have h₀ : 48 ≤ c.toNat := h.1
  have h₁ : c.toNat ≤ 57 := h.2
  simp only [isGraphic, Bool.and_eq_true, decide_eq_true_eq]
  omega

theorem isUnitChar_of_isLetter {c : Char} (h : isLetter c = true) : isUnitChar c = true := by simp [isUnitChar, h]

theorem IsCode.length_le {w : Text} (h : IsCode w) : w.length ≤ 6 := by
  obtain ⟨c, t, rfl, -, -, hlen⟩ := h
  exact Nat.succ_le_succ hlen

theorem IsCode.chars {w : Text} (h : IsCode w) : ∀ c ∈ w, isLetter c = true ∨ isDigit c = true := by
  obtain ⟨c, t, rfl, hc, ht, -⟩ := h
  intro x hx
  rcases List.mem_cons.mp hx with rfl | hx
  · exact .inl hc
  · exact ht x hx

/-- The characters of an ID code are those of an ID field, and none of them is a blank. -/
theorem IsCode.field {w : Text} (h : IsCode w) : WeightLine.IsField w := by
  intro c hc
  have hsign : isSignChar c = true → False := fun hs => by
    obtain ⟨-, hid, -⟩ := isSignChar_disjoint hs
    rcases h.chars c hc with hl | hd
    · simp [isIdChar, hl] at hid
    · simp [isIdChar, hd] at hid
  rcases h.chars c hc with hl | hd
  · refine .inr ⟨isGraphic_of_isLetter hl, ?_⟩
    simp only [List.mem_cons, List.not_mem_nil, or_false, not_or]
    refine ⟨?_, ?_, ?_⟩
    · rintro rfl; exact hsign rfl
    · rintro rfl; exact hsign rfl
    · rintro rfl; cases hl
  · refine .inr ⟨isGraphic_of_isDigit hd, ?_⟩
    simp only [List.mem_cons, List.not_mem_nil, or_false, not_or]
    refine ⟨?_, ?_, ?_⟩
    · rintro rfl; exact hsign rfl
    · rintro rfl; exact hsign rfl
    · rintro rfl; cases hd

theorem IsCode.not_space {w : Text} (h : IsCode w) : ∀ c ∈ w, Text.isSpace c = false := by
  intro c hc
  rcases h.chars c hc with hl | hd
  · exact isSpace_of_isLetter hl
  · exact isSpace_of_isDigit hd

/-- Stripping a word takes the blanks around it. -/
theorem strip_padded {u : Text} (hu : ∀ x ∈ u, Text.isSpace x = false) (m n : Nat) :
    Text.strip (blanks m ++ (u ++ blanks n)) = u := by
  have hblanks : Text.rstrip (blanks n) = [] := by
    rw [Text.rstrip, List.reverse_eq_nil_iff, List.dropWhile_eq_nil_iff]
    intro c hc
    exact allSpace_blanks n c (List.mem_reverse.mp hc)
  rw [Text.strip, Text.lstrip_append (allSpace_blanks m)]
  rcases List.eq_nil_or_concat u with rfl | ⟨v, c, rfl⟩
  · have hall : Text.lstrip (blanks n) = [] := List.dropWhile_eq_nil_iff.mpr (allSpace_blanks n)
    rw [List.nil_append, hall]
    rfl
  · have hhead : Text.lstrip (v.concat c ++ blanks n) = v.concat c ++ blanks n := by
      obtain ⟨x, w, hx⟩ := List.exists_cons_of_ne_nil (l := v.concat c) (by simp)
      rw [hx, List.cons_append, Text.lstrip_cons (hu x (hx ▸ List.mem_cons_self))]
    rw [hhead, List.concat_eq_append, List.append_assoc, List.singleton_append,
      Text.rstrip_append_cons (hu c (by simp)), hblanks]

/-- A bare number has no letters. -/
theorem BareNumber.not_letter {t : Text} (h : BareNumber t) {c : Char} (hc : c ∈ t) : isLetter c = false := by
  obtain ⟨b, n, b', hb, hn, hb', rfl⟩ := h
  cases hl : isLetter c with
  | false => rfl
  | true =>
      have hspace := isSpace_of_isLetter hl
      simp only [List.mem_append] at hc
      rcases hc with hc | hc | hc
      · rw [hb c hc] at hspace
        cases hspace
      · have hnum := hn.chars c hc
        rw [isNumChar_of_isLetter hl] at hnum
        cases hnum
      · rw [hb' c hc] at hspace
        cases hspace

/-! ## The marker of a coded line -/

/-- Whether a text starts with a word and a blank is decided by its first word. -/
theorem startsWith_word {w z rest : Text} (hw : ∀ c ∈ w, Text.isSpace c = false)
    (hz : ∀ c ∈ z, Text.isSpace c = false) : Text.startsWith (w ++ ' ' :: rest) (z ++ [' ']) = true ↔ w = z := by
  have hword : ∀ {u v : Text}, (∀ c ∈ u, Text.isSpace c = false) →
      (u ++ ' ' :: v).takeWhile (fun c => !Text.isSpace c) = u := by
    intro u v hu
    refine Re.takeWhile_append_avoids (fun c hc => by simp [hu c hc]) fun c hc => ?_
    cases hc
    rfl
  rw [Text.startsWith, List.isPrefixOf_iff_prefix]
  constructor
  · rintro ⟨v, hv⟩
    rw [List.append_assoc, List.singleton_append] at hv
    rw [← hword (v := rest) hw, ← hv, hword hz]
  · rintro rfl
    exact ⟨rest, by simp⟩

theorem toNat_ofNat {n : Nat} (h : n < 0xD800) : (Char.ofNat n).toNat = n := by
  have hvalid : n.isValidChar := .inl h
  simp only [Char.ofNat, dif_pos hvalid]
  rfl

theorem isSpace_upperChar {c : Char} (h : isLetter c = true ∨ isDigit c = true) :
    Text.isSpace (Text.upperChar c) = false := by
  rcases h with h | h
  · by_cases hlow : 'a' ≤ c ∧ c ≤ 'z'
    · have h₀ : 97 ≤ c.toNat := hlow.1
      have h₁ : c.toNat ≤ 122 := hlow.2
      have hval : (Char.ofNat (c.toNat - 32)).toNat = c.toNat - 32 := toNat_ofNat (by omega)
      rw [Text.upperChar, if_pos hlow]
      simp only [Text.isSpace, hval, Bool.or_eq_false_iff, Bool.and_eq_false_iff, decide_eq_false_iff_not,
        beq_eq_false_iff_ne]
      omega
    · rw [Text.upperChar, if_neg hlow]
      split
      · decide
      · exact isSpace_of_isLetter h
  · rw [upperChar_of_isDigit h]
    exact isSpace_of_isDigit h

theorem IsCode.not_space_upper {w : Text} (h : IsCode w) : ∀ c ∈ Text.upper w, Text.isSpace c = false := by
  intro c hc
  obtain ⟨x, hx, rfl⟩ := List.mem_map.mp hc
  exact isSpace_upperChar (h.chars x hx)

/-- The marker of a code that a blank sets off from a value. -/
theorem statusMarker_code {w : Text} {c : Char} (hw : IsCode w) (n : Nat) (hc : startsValue c = true) (rest : Text) :
    ∃ v, statusMarker (Text.strip (w ++ ' ' :: (blanks n ++ c :: rest))) =
      if Text.upper w = "STAT".toList then c :: v else Text.upper w ++ ' ' :: c :: v := by
  have hspace := isSpace_of_startsValue hc
  have hne : w ≠ [] := by
    obtain ⟨y, t, rfl, -⟩ := hw
    simp
  have hstrip : Text.strip (w ++ ' ' :: (blanks n ++ c :: rest)) = w ++ ' ' :: (blanks n ++ c :: Text.rstrip rest) := by
    obtain ⟨y, t, hyt⟩ := List.exists_cons_of_ne_nil hne
    have hlead : Text.lstrip (w ++ ' ' :: (blanks n ++ c :: rest)) = w ++ ' ' :: (blanks n ++ c :: rest) := by
      rw [hyt, List.cons_append, Text.lstrip_cons (hw.not_space y (by simp [hyt]))]
    have hsplit : w ++ ' ' :: (blanks n ++ c :: rest) = (w ++ ' ' :: blanks n) ++ c :: rest := by simp
    rw [Text.strip, hlead, hsplit, Text.rstrip_append_cons hspace]
    simp
  have hupper : Text.upper (w ++ ' ' :: (blanks n ++ c :: Text.rstrip rest)) =
      Text.upper w ++ ' ' :: (blanks n ++ c :: Text.upper (Text.rstrip rest)) := by
    simp only [Text.upper, List.map_append, List.map_cons, upperChar_of_startsValue hc, blanks, List.map_replicate]
    rfl
  obtain ⟨v, hv⟩ := Text.join_split_head (c := c) (t := Text.upper (Text.rstrip rest)) hspace " ".toList
  have hjoin : Text.join " ".toList (Text.split
      (Text.upper w ++ ' ' :: (blanks n ++ c :: Text.upper (Text.rstrip rest)))) = Text.upper w ++ ' ' :: c :: v := by
    rw [Text.split_word hw.not_space_upper (by simpa [Text.upper] using hne) rfl, Text.split_blanks (allSpace_blanks n)]
    cases hs : Text.split (c :: Text.upper (Text.rstrip rest)) with
    | nil =>
        rw [hs] at hv
        cases hv
    | cons u us =>
        rw [hs] at hv
        rw [Text.join, List.intercalate_cons_cons, ← hv, Text.join]
        simp
  have hstat : Text.startsWith (Text.upper w ++ ' ' :: c :: v) "STAT ".toList = true ↔ Text.upper w = "STAT".toList :=
    startsWith_word (z := "STAT".toList) hw.not_space_upper (Text.forall_false_of_any (by decide))
  rw [hstrip, statusMarker, hupper, hjoin]
  by_cases hw' : Text.upper w = "STAT".toList
  · refine ⟨Text.rstrip v, ?_⟩
    rw [if_pos (hstat.mpr hw'), if_pos hw', Text.removePrefix, if_pos (hstat.mpr hw'), hw',
      show List.drop "STAT ".toList.length ("STAT".toList ++ ' ' :: c :: v) = c :: v from rfl, Text.strip,
      Text.lstrip_cons hspace, Text.rstrip_cons hspace]
  · refine ⟨v, ?_⟩
    rw [if_neg (fun h => hw' (hstat.mp h)), if_neg hw']

/-- A code that a blank sets off from a value is a refusal when it is `ERR`. -/
theorem refused_code {w rest : Text} {c : Char} (hw : IsCode w) (n : Nat) (hc : startsValue c = true)
    (hdigit : ∃ d ∈ c :: rest, isDigit d = true) :
    refused (w ++ ' ' :: (blanks n ++ c :: rest)) = true ↔ Text.upper w = "ERR".toList := by
  obtain ⟨d, hd, hdigit⟩ := hdigit
  have hmem : d ∈ w ++ ' ' :: (blanks n ++ c :: rest) := by
    refine List.mem_append_right _ (List.mem_cons_of_mem _ (List.mem_append_right _ hd))
  have hcontains : refusalMarkers.contains (statusMarker (Text.strip (w ++ ' ' :: (blanks n ++ c :: rest)))) = false :=
    contains_false_of_digit hdigit (mem_statusMarker hdigit hmem) fun m h => markers_noDigit m (by simp [h])
  obtain ⟨v, hv⟩ := statusMarker_code hw n hc rest
  rw [refused, isRefusalMarker, hcontains, Bool.false_or, hv]
  split
  · rename_i hstat
    rw [(not_marker_of_startsValue hc v "ERR ".toList (by simp)).1, hstat]
    decide
  · exact startsWith_word (z := "ERR".toList) hw.not_space_upper (Text.forall_false_of_any (by decide))

/-! ## The formats -/

/-- 16 characters; these behind an ID field; 22 characters as their table numbers the columns. -/
inductive LineFormat where
  | short
  | prefixed
  | table
  deriving DecidableEq, Repr

namespace LineFormat

/-- The blank columns between the sign and the weight field. -/
def lead : LineFormat → Nat
  | table => 0
  | _ => 1

/-- The blank columns between the weight field and the unit field. -/
def gap : LineFormat → Nat
  | table => 0
  | _ => 1

/-- The blank columns after the unit field. -/
def rest : LineFormat → Nat
  | table => 2
  | _ => 0

end LineFormat

/-- Digits with an optional point. -/
def decimalText (whole : Text) (fraction : Option Text) : Text := whole ++ fraction.elim [] ('.' :: ·)

/-- The columns of a documented line, without its terminator. -/
structure DocumentedLine where
  format : LineFormat
  /-- The ID code; the short format has none. -/
  code : Text
  sign : Char
  whole : Text
  fraction : Option Text
  /-- Blank unit columns before the unit. -/
  indent : Nat
  unit : Text
  code_form : if format = .short then code = [] else IsCode code
  sign_column : sign ∈ ['+', '-', ' ']
  digits : AllDigits (whole ++ fraction.getD [])
  digits_ne : whole ++ fraction.getD [] ≠ []
  number_width : (decimalText whole fraction).length ≤ 8
  unit_letters : ∀ c ∈ unit, isLetter c = true
  unit_width : indent + unit.length ≤ 3

namespace DocumentedLine

variable (l : DocumentedLine)

def number : Text := decimalText l.whole l.fraction

def idField : Text := if l.format = .short then [] else l.code ++ blanks (6 - l.code.length)

def unitField : Text := blanks l.indent ++ (l.unit ++ blanks (3 - (l.indent + l.unit.length)))

/-- The blank columns between the sign and the number, which is right-aligned. -/
def pad : Nat := l.format.lead + (8 - l.number.length)

/-- The columns before the number. -/
def front : Text := l.idField ++ l.sign :: blanks l.pad

/-- The columns after the number. -/
def back : Text := blanks l.format.gap ++ (l.unitField ++ blanks l.format.rest)

def body : Text := l.front ++ (l.number ++ l.back)

/-- The line on the wire. -/
def bytes : Bytes := asciiLine l.body

/-- The number with its sign. -/
def decimal : Rat :=
  (if l.sign = '-' then -1 else 1) * (digitsValue (l.whole ++ l.fraction.getD []) / 10 ^ (l.fraction.getD []).length)

/-- The digits after the point. -/
def places : Nat := (l.fraction.getD []).length

/-- Zero when all digits are zero, and otherwise what the sign column says. -/
def wireSign : Sign :=
  if ∀ d ∈ l.whole ++ l.fraction.getD [], d = '0' then .zero else if l.sign = '-' then .negative else .positive

/-- The line is read as the weight that its columns say. -/
structure Reads (line : SbiLine) (r : Reading) : Prop where
  parsed : parseLine l.bytes = .ok line
  kind : line.kind = .weight
  reading : line.reading = some r
  value : r.value = some (.ofRat l.decimal)
  decimals : r.decimals = some l.places
  sign : r.sign = l.wireSign
  unit : r.unit = unitFromSbi l.unitField
  stable : r.stable = true ↔ l.unitField ≠ blanks 3

def Decodes : Prop := ∃ line r, l.Reads line r

/-- The ID code is no error marker, and a blank sets it off from a sign. -/
def SetOff : Prop := Text.upper l.code ≠ "ERR".toList ∧ (l.code.length = 6 → l.sign = ' ')

/-! ## The columns -/

variable {l}

theorem length_blanks (n : Nat) : (blanks n).length = n := List.length_replicate

theorem isCode (h : l.format ≠ .short) : IsCode l.code := by
  have hform := l.code_form
  rwa [if_neg h] at hform

theorem code_eq_nil (h : l.format = .short) : l.code = [] := by
  have hform := l.code_form
  rwa [if_pos h] at hform

theorem unitField_length : l.unitField.length = 3 := by
  have := l.unit_width
  simp only [unitField, List.length_append, length_blanks]
  omega

theorem back_length : l.back.length = l.format.gap + 3 + l.format.rest := by
  simp only [back, List.length_append, length_blanks, unitField_length]
  omega

theorem bytes_length : l.bytes.length = if l.format = .short then 16 else 22 := by
  have hnumber : l.number.length ≤ 8 := l.number_width
  simp only [bytes, asciiLine, List.length_append, List.length_map, body, front, List.length_cons, length_blanks,
    back_length, pad, lineTerminator, List.length_nil, idField]
  cases hf : l.format with
  | short =>
      simp only [LineFormat.lead, LineFormat.gap, LineFormat.rest, if_true, List.length_nil]
      omega
  | prefixed =>
      have := IsCode.length_le (isCode (l := l) (by simp [hf]))
      simp only [LineFormat.lead, LineFormat.gap, LineFormat.rest, reduceCtorEq, if_false, List.length_append,
        length_blanks]
      omega
  | table =>
      have := IsCode.length_le (isCode (l := l) (by simp [hf]))
      simp only [LineFormat.lead, LineFormat.gap, LineFormat.rest, reduceCtorEq, if_false, List.length_append,
        length_blanks]
      omega

theorem number_isNumber : IsNumber l.number := by
  have hdigits := l.digits
  have hne := l.digits_ne
  have hwhole : AllDigits l.whole := fun c hc => hdigits c (List.mem_append_left _ hc)
  unfold number decimalText
  cases hf : l.fraction with
  | none =>
      rw [hf, Option.getD_none, List.append_nil] at hne
      rw [Option.elim_none, List.append_nil]
      exact .whole hwhole hne
  | some ds =>
      rw [hf, Option.getD_some] at hne hdigits
      have hds : AllDigits ds := fun c hc => hdigits c (List.mem_append_right _ hc)
      rw [Option.elim_some]
      cases hw : l.whole with
      | nil => exact .fraction hds (by simpa [hw] using hne)
      | cons d whole => exact .point (hw ▸ hwhole) (by simp) hds

theorem idField_isField : WeightLine.IsField l.idField := by
  unfold idField
  split
  · simp [WeightLine.IsField]
  · rename_i hf
    intro c hc
    rcases List.mem_append.mp hc with hc | hc
    · exact (isCode hf).field c hc
    · exact .inl (List.mem_replicate.mp hc).2

theorem idField_length_le : l.idField.length ≤ 6 := by
  unfold idField
  split
  · simp
  · rename_i hf
    have := (isCode hf).length_le
    simp only [List.length_append, length_blanks]
    omega

/-- The ID field is read exactly when the code leaves a blank before a sign. -/
theorem field_iff : (Text.lstrip l.idField = [] ∨
      ((∃ c t, Text.lstrip l.idField = c :: t ∧ isLetter c = true ∧ ∀ x ∈ t, isIdChar x = true) ∧
        (l.sign = ' ' ∨ l.idField.getLast? = some ' '))) ↔ (l.code.length = 6 → l.sign = ' ') := by
  by_cases hf : l.format = .short
  · simp [idField, hf, Text.lstrip, code_eq_nil hf]
  · have hcode := isCode hf
    obtain ⟨c, t, hw, hc, ht, hlen⟩ := isCode hf
    have hstrip : Text.lstrip l.idField = c :: (t ++ blanks (6 - l.code.length)) := by
      rw [idField, if_neg hf, hw, List.cons_append, Text.lstrip_cons (isSpace_of_isLetter hc)]
    have hchars : ∀ x ∈ t ++ blanks (6 - l.code.length), isIdChar x = true := by
      intro x hx
      rcases List.mem_append.mp hx with hx | hx
      · rcases ht x hx with h | h <;> simp [isIdChar, h]
      · rw [(List.mem_replicate.mp hx).2]
        rfl
    have hlast : l.idField.getLast? = some ' ' ↔ l.code.length ≠ 6 := by
      rw [idField, if_neg hf]
      constructor
      · intro h hsix
        rw [hsix] at h
        simp only [Nat.sub_self, blanks, List.replicate_zero, List.append_nil] at h
        have := hcode.not_space ' ' (List.mem_of_getLast? h)
        cases this
      · intro hne
        obtain ⟨n, hn⟩ : ∃ n, 6 - l.code.length = n + 1 := ⟨5 - l.code.length, by have := hcode.length_le; omega⟩
        rw [hn, blanks, List.replicate_succ', ← List.append_assoc, List.getLast?_concat]
    rw [hstrip, hlast]
    constructor
    · rintro (h | ⟨-, h⟩)
      · cases h
      · exact fun hsix => h.resolve_right fun hne => hne hsix
    · intro h
      refine .inr ⟨⟨c, _, rfl, hc, hchars⟩, ?_⟩
      by_cases hsix : l.code.length = 6
      · exact .inl (h hsix)
      · exact .inr hsix

theorem front_endsOutside : EndsOutside isNumChar l.front := by
  have hsign : EndsOutside isNumChar [l.sign] := by
    have := l.sign_column
    simp only [List.mem_cons, List.not_mem_nil, or_false] at this
    rcases this with h | h | h <;> rw [h] <;> exact .of_forall (Text.forall_false_of_any (by decide))
  have hpad : EndsOutside isNumChar (blanks l.pad) :=
    .of_forall fun c hc => isNumChar_of_isSpace (allSpace_blanks _ c hc)
  intro c hc
  rw [front, List.getLast?_append_of_ne_nil _ (List.cons_ne_nil _ _)] at hc
  exact hsign.append hpad c hc

theorem back_chars : ∀ c ∈ l.back, c = ' ' ∨ isLetter c = true := by
  intro c hc
  simp only [back, unitField, List.mem_append, blanks, List.mem_replicate] at hc
  rcases hc with hc | (hc | hc | hc) | hc
  · exact .inl hc.2
  · exact .inl hc.2
  · exact .inr (l.unit_letters c hc)
  · exact .inl hc.2
  · exact .inl hc.2

theorem isNumChar_back : ∀ c ∈ l.back, isNumChar c = false := by
  intro c hc
  rcases back_chars c hc with rfl | h
  · rfl
  · exact isNumChar_of_isLetter h

theorem isDigit_back : ∀ c ∈ l.back, isDigit c = false := by
  intro c hc
  have h := isNumChar_back c hc
  simp only [isNumChar, Bool.or_eq_false_iff] at h
  exact h.1

theorem isAscii_body : IsAscii l.body := by
  have hfield : IsAscii l.idField := fun c hc => by
    rcases idField_isField c hc with rfl | ⟨hg, -⟩
    · decide
    · exact isAscii_of_isGraphic hg
  have hsign : IsAscii [l.sign] := by
    have := l.sign_column
    simp only [List.mem_cons, List.not_mem_nil, or_false] at this
    rcases this with h | h | h <;> rw [h] <;> exact isAscii_of_all (by decide)
  have hnumber : IsAscii l.number := fun c hc => isAscii_of_isNumChar (number_isNumber.chars c hc)
  have hback : IsAscii l.back := fun c hc => by
    rcases back_chars c hc with rfl | h
    · decide
    · exact isAscii_of_isGraphic (isGraphic_of_isLetter h)
  exact (hfield.append (hsign.append (isAscii_blanks _))).append (hnumber.append hback)

theorem exists_digit : ∃ d ∈ l.number, isDigit d = true :=
  numberRe_digit (numberRe_matches_iff.mpr ⟨rfl, number_isNumber⟩)

theorem back_eq : l.back = blanks (l.format.gap + l.indent) ++
    (l.unit ++ blanks (3 - (l.indent + l.unit.length) + l.format.rest)) := by
  simp only [back, unitField, blanks, List.replicate_add, List.append_assoc]

/-- A documented line is a weight line, in each of the three formats. -/
def toWeightLine (l : DocumentedLine) : WeightLine where
  id := l.idField
  sign := l.sign
  pad := l.pad
  number := l.number
  gap := l.format.gap + l.indent
  unit := l.unit
  tail := 3 - (l.indent + l.unit.length) + l.format.rest
  id_width := by
    unfold idField
    split
    · exact .inl rfl
    · rename_i hf
      have := (isCode hf).length_le
      simp only [List.length_append, length_blanks]
      omega
  id_chars := idField_isField
  sign_column := l.sign_column
  number_form := number_isNumber
  unit_chars c hc := by
    have hletter := l.unit_letters c hc
    have hdigit := isNumChar_of_isLetter hletter
    simp only [isNumChar, Bool.or_eq_false_iff] at hdigit
    exact ⟨isGraphic_of_isLetter hletter, hdigit.1⟩
  unit_start _ h := by
    have hletter := l.unit_letters '.' (List.mem_of_head? h)
    cases hletter
  width := by
    have hnumber : l.number.length ≤ 8 := l.number_width
    have hunit := l.unit_width
    cases hf : l.format <;> simp only [pad, hf, LineFormat.lead, LineFormat.gap, LineFormat.rest] <;> omega

theorem toWeightLine_bytes (l : DocumentedLine) : l.toWeightLine.bytes = l.bytes := by
  have hback : l.toWeightLine.back = l.back := l.back_eq.symm
  rw [WeightLine.bytes, WeightLine.body, WeightLine.bodyFrom, hback, bytes, body, front, List.append_assoc]
  rfl

/-! ## The match -/

theorem avoids_nil (p : Char → Bool) : Re.Avoids p [] := fun x hx => by cases hx

/-- The first way to read the columns after the number takes the unit as it is. -/
theorem back_first : (Re.run weightBackRe l.back).head? =
    some (if l.unit = [] then [] else [(.unit, l.unit)], []) := by
  rw [back_eq, weightBackRe]
  cases hu : l.unit with
  | nil =>
      have hall : ∀ n, (Re.run (.many Text.isSpace : Re WeightGroup) (blanks n)).head? = some ([], []) := by
        intro n
        have h := Re.first_many (ν := WeightGroup) (allSpace_blanks n) (avoids_nil _)
        rwa [List.append_nil] at h
      rw [List.nil_append, blanks, blanks, ← List.replicate_add]
      refine Re.first_seq (c := []) (d := []) (hall _) (Re.first_seq (c := []) (d := []) ?_ (hall 0))
      exact Re.first_opt_nil (Re.run_group_eq_nil (Re.run_rep_eq_nil (avoids_nil _) (by decide)))
  | cons c u =>
      have hletters : ∀ x ∈ c :: u, isLetter x = true := hu ▸ l.unit_letters
      have hspace : Re.Avoids Text.isSpace (c :: u ++ blanks (3 - (l.indent + (c :: u).length) + l.format.rest)) := by
        intro x hx
        obtain rfl : c = x := by simpa using hx
        exact isSpace_of_isLetter (hletters _ List.mem_cons_self)
      have hblank : Re.Avoids isUnitChar (blanks (3 - (l.indent + (c :: u).length) + l.format.rest)) := by
        intro x hx
        rw [(List.mem_replicate.mp (List.mem_of_head? hx)).2]
        rfl
      have htrail := Re.first_many (ν := WeightGroup)
        (allSpace_blanks (3 - (l.indent + (c :: u).length) + l.format.rest)) (avoids_nil _)
      rw [List.append_nil] at htrail
      refine Re.first_seq (c := []) (Re.first_many (allSpace_blanks _) hspace) ?_
      refine Re.first_seq (d := []) (Re.first_opt (Re.first_group (c := []) ?_)) htrail
      exact Re.first_some (fun x hx => isUnitChar_of_isLetter (hletters x hx)) (by simp) hblank

/-- A match of a documented line captures its sign, its number and its unit. -/
theorem captures_of_fullmatch {m : Re.Captures WeightGroup} (h : weightRe.fullmatch l.body = some m) :
    m.get? .unstable = none ∧ m.get? .sign = (if l.sign = ' ' then none else some [l.sign]) ∧
      m.get? .number = some l.number ∧ m.get? .unit = if l.unit = [] then none else some l.unit := by
  obtain ⟨t₁, c, t₂, d, ht, hc, hd, rfl⟩ := Re.fullmatch_seq h
  obtain ⟨p, hp, rfl, rfl, rfl, -⟩ := weightRe_parts hc (Re.matches_of_fullmatch hd)
  have hfront : p.front = l.front :=
    p.front_unique hp front_endsOutside number_isNumber.chars exists_digit isDigit_back ht.symm
  have hrest : p.number ++ p.back = l.number ++ l.back := by
    rw [body, hfront, List.append_cancel_left_eq] at ht
    exact ht.symm
  have hnumber : (Re.run (.group .number numberRe : Re WeightGroup) (l.number ++ l.back)).head? =
      some ([(.number, l.number)], l.back) :=
    Re.first_group (c := []) (numberRe_first number_isNumber fun x hx => isNumChar_back x (List.mem_of_head? hx))
  have hfirst := Re.fullmatch_of_first (Re.first_seq hnumber back_first)
  rw [hrest, hfirst, Option.some.injEq] at hd
  have hsign := sign_of_front hp l.sign_column idField_isField hfront
  have hunstable := unstable_of_front l.sign_column idField_isField hfront
  have hcaptures : p.frontCaptures ++ d =
      WeightParse.captures { p with number := l.number, unit := if l.unit = [] then none else some l.unit } := by
    rw [← hd, WeightParse.captures]
    by_cases hu : l.unit = [] <;> simp [hu, WeightParse.frontCaptures]
  rw [hcaptures]
  refine ⟨by simp [hunstable], ?_, by simp, by simp⟩
  by_cases hs : l.sign = ' ' <;> simp [hsign, hs]

/-- A documented line matches exactly when its code leaves a blank before a sign. -/
theorem weightForm_iff : WeightForm l.body ↔ (l.code.length = 6 → l.sign = ' ') := by
  rw [← field_iff]
  constructor
  · rintro ⟨p, hp, ht⟩
    have hfront : p.front = l.front :=
      p.front_unique hp front_endsOutside number_isNumber.chars exists_digit isDigit_back ht.symm
    exact field_of_front hp l.sign_column idField_isField hfront
  · intro hfield
    obtain ⟨q, hq, hfront⟩ := exists_front l.sign_column l.pad idField_length_le hfield
    refine ⟨{ q with number := l.number, blank₄ := blanks (l.format.gap + l.indent),
                     unit := if l.unit = [] then none else some l.unit,
                     blank₅ := blanks (3 - (l.indent + l.unit.length) + l.format.rest) }, ?_, ?_⟩
    · refine { hq with number := numberRe_matches_iff.mpr ⟨rfl, number_isNumber⟩, blank₄ := allSpace_blanks _,
                       unit := ?_, blank₅ := allSpace_blanks _ }
      intro u hu
      by_cases hnil : l.unit = []
      · simp [hnil] at hu
      · obtain rfl : l.unit = u := by simpa [hnil] using hu
        exact ⟨fun c hc => isUnitChar_of_isLetter (l.unit_letters c hc), hnil⟩
    · have hunit : (if l.unit = [] then none else some l.unit).getD [] = l.unit := by
        by_cases hu : l.unit = [] <;> simp [hu]
      rw [body, back_eq, show l.front = q.front from hfront.symm, WeightParse.text, WeightParse.back, hunit]
      rfl

theorem body_length : l.body.length = if l.format = .short then 14 else 20 := by
  have hlength := l.bytes_length
  simp only [bytes, asciiLine, List.length_append, List.length_map, lineTerminator, List.length_cons,
    List.length_nil] at hlength
  by_cases hf : l.format = .short
  · rw [if_pos hf] at hlength ⊢
    omega
  · rw [if_neg hf] at hlength ⊢
    omega

/-- No documented line is taken for a fragment. -/
theorem not_fragment : ¬ Fragment l.body := by
  rintro ⟨hbare, hshort⟩
  by_cases hf : l.format = .short
  · have hunit : l.unit = [] := List.eq_nil_iff_forall_not_mem.mpr fun c hc => by
      have hnot := BareNumber.not_letter hbare (c := c) (by simp [body, back, unitField, hc])
      rw [l.unit_letters c hc] at hnot
      cases hnot
    have hends : l.body = (l.front ++ (l.number ++ blanks (l.format.gap + l.indent + 2 - l.indent))) ++ [' '] := by
      have hwidth := l.unit_width
      rw [hunit, List.length_nil] at hwidth
      simp only [body, back_eq, hunit, List.nil_append, List.length_nil, blanks, ← List.replicate_add, hf,
        LineFormat.gap, LineFormat.rest, List.append_assoc, ← List.replicate_succ']
      rw [show 1 + l.indent + (3 - (l.indent + 0) + 0) = 1 + l.indent + 2 - l.indent + 1 by omega]
    rcases hshort with hstrip | hlen
    · rw [hends] at hstrip
      exact Text.strip_ne_of_endsSpace rfl hstrip.symm
    · rw [body_length, if_pos hf, minFormattedWeightBodyChars] at hlen
      omega
  · obtain ⟨c, t, hw, hc, -⟩ := isCode hf
    have hnot := BareNumber.not_letter hbare (c := c) (by simp [body, front, idField, hf, hw])
    rw [hc] at hnot
    cases hnot

/-! ## The reading -/

theorem isDigit_ne_point {c : Char} (h : isDigit c = true) : c ≠ '.' := by
  rintro rfl
  cases h

theorem number_split : l.number.takeWhile (· ≠ '.') = l.whole ∧
    (l.number.dropWhile (· ≠ '.')).drop 1 = l.fraction.getD [] ∧ decimalPlaces l.number = l.places := by
  have hwhole : ∀ c ∈ l.whole, decide (c ≠ '.') = true := fun c hc =>
    decide_eq_true (isDigit_ne_point (l.digits c (List.mem_append_left _ hc)))
  unfold decimalPlaces places number decimalText
  cases l.fraction with
  | none =>
      rw [Option.elim_none, List.append_nil, List.takeWhile_eq_self_iff.mpr hwhole,
        List.dropWhile_eq_nil_iff.mpr hwhole]
      exact ⟨rfl, rfl, rfl⟩
  | some ds =>
      rw [Option.elim_some, List.takeWhile_append_of_pos hwhole, List.dropWhile_append_of_pos hwhole]
      simp

theorem decimalValue_number :
    decimalValue l.number = digitsValue (l.whole ++ l.fraction.getD []) / 10 ^ (l.fraction.getD []).length := by
  unfold decimalValue
  dsimp only
  rw [number_split.1, number_split.2.1]

theorem digitsLoop_eq_zero_iff {t : Text} (h : AllDigits t) (n : Nat) :
    t.foldl (fun n c => 10 * n + (c.toNat - '0'.toNat)) n = 0 ↔ n = 0 ∧ ∀ d ∈ t, d = '0' := by
  induction t generalizing n with
  | nil => simp
  | cons d t ih =>
      have hd := h d List.mem_cons_self
      simp only [isDigit, Bool.decide_and, Bool.and_eq_true, decide_eq_true_eq, Char.le_def] at hd
      have hlow : 48 ≤ d.toNat := hd.1
      have hzero : d = '0' ↔ d.toNat = 48 := ⟨by rintro rfl; rfl, fun h => Char.toNat_inj.mp h⟩
      rw [List.foldl_cons, ih fun c hc => h c (List.mem_cons_of_mem _ hc)]
      have hstep : 10 * n + (d.toNat - '0'.toNat) = 0 ↔ n = 0 ∧ d = '0' := by
        rw [hzero, show '0'.toNat = 48 from rfl]
        omega
      rw [hstep, List.forall_mem_cons, and_assoc]

theorem digitsValue_eq_zero_iff : digitsValue (l.whole ++ l.fraction.getD []) = 0 ↔
    ∀ d ∈ l.whole ++ l.fraction.getD [], d = '0' := by
  rw [digitsValue, digitsLoop_eq_zero_iff l.digits]
  simp

theorem abs_decimal : |l.decimal| = digitsValue (l.whole ++ l.fraction.getD []) / 10 ^ (l.fraction.getD []).length := by
  have hpos : (0 : Rat) ≤ digitsValue (l.whole ++ l.fraction.getD []) / 10 ^ (l.fraction.getD []).length := by
    positivity
  unfold decimal
  split <;> simp [abs_of_nonneg hpos]

theorem decimal_eq_zero_iff : l.decimal = 0 ↔ ∀ d ∈ l.whole ++ l.fraction.getD [], d = '0' := by
  rw [← abs_eq_zero, abs_decimal, div_eq_zero_iff, ← digitsValue_eq_zero_iff]
  simp

/-- The smallest number that fits into the columns is far above the subnormals. -/
theorem decimal_normal : l.decimal = 0 ∨ PyFloat.pow2 (-1074) ≤ |l.decimal| := by
  by_cases hzero : l.decimal = 0
  · exact .inl hzero
  · refine .inr ?_
    have hvalue : digitsValue (l.whole ++ l.fraction.getD []) ≠ 0 := fun h =>
      hzero (decimal_eq_zero_iff.mpr (digitsValue_eq_zero_iff.mp h))
    have hone : (1 : Rat) ≤ digitsValue (l.whole ++ l.fraction.getD []) := by
      exact_mod_cast Nat.one_le_iff_ne_zero.mpr hvalue
    have hlength : (l.fraction.getD []).length ≤ 8 := by
      have hwidth := l.number_width
      unfold decimalText at hwidth
      cases hf : l.fraction with
      | none => simp
      | some ds =>
          rw [hf, Option.elim_some, List.length_append, List.length_cons] at hwidth
          rw [Option.getD_some]
          omega
    have hpow : (10 : Rat) ^ (l.fraction.getD []).length ≤ 2 ^ 1074 :=
      calc (10 : Rat) ^ (l.fraction.getD []).length ≤ 10 ^ 8 := pow_le_pow_right₀ (by norm_num) hlength
        _ ≤ 2 ^ 27 := by norm_num
        _ ≤ 2 ^ 1074 := pow_le_pow_right₀ (by norm_num) (by norm_num)
    rw [abs_decimal, PyFloat.pow2_eq_zpow, zpow_neg, ← one_div]
    exact div_le_div₀ (by linarith) hone (by positivity) (by exact_mod_cast hpow)

theorem float_decimal :
    (if l.sign = '-' then (floatOfText l.number).neg else floatOfText l.number) = .ofRat l.decimal := by
  rw [floatOfText, decimalValue_number, decimal]
  split
  · rw [← PyFloat.ofRat_neg, neg_one_mul]
  · rw [one_mul]

theorem signFromWire_decimal :
    signFromWire (if l.sign = '-' then '-' else '+') (.ofRat l.decimal) = l.wireSign := by
  unfold signFromWire wireSign
  simp only [PyFloat.ofRat_eq_zero_iff decimal_normal, decimal_eq_zero_iff]
  split
  · rfl
  · split <;> rfl

theorem isSpace_unit : ∀ c ∈ l.unit, Text.isSpace c = false := fun c hc => isSpace_of_isLetter (l.unit_letters c hc)

theorem strip_unitField : Text.strip l.unitField = l.unit := strip_padded isSpace_unit _ _

theorem strip_unit : Text.strip l.unit = l.unit := by
  have h := strip_padded (l.isSpace_unit) 0 0
  rwa [blanks, List.replicate_zero, List.append_nil, List.nil_append] at h

theorem unitFromSbi_unitField : unitFromSbi l.unitField = unitFromSbi l.unit := by
  rw [unitFromSbi, unitFromSbi, strip_unitField, strip_unit]

theorem unitField_blank_iff : l.unitField = blanks 3 ↔ l.unit = [] := by
  constructor
  · intro h
    rw [← strip_unitField, h]
    decide
  · intro hu
    have hwidth := l.unit_width
    rw [hu, List.length_nil] at hwidth
    simp only [unitField, hu, List.nil_append, List.length_nil, blanks, ← List.replicate_add]
    rw [show l.indent + (3 - (l.indent + 0)) = 3 by omega]

/-! ## What a documented line is read as -/

theorem exists_digit_body : ∃ d ∈ l.body, isDigit d = true := by
  obtain ⟨d, hd, hdigit⟩ := exists_digit (l := l)
  exact ⟨d, by simp [body, hd], hdigit⟩

/-- A documented line that matches is a refusal when its code is `ERR`. -/
theorem refused_body (hset : l.code.length = 6 → l.sign = ' ') :
    refused l.body = true ↔ Text.upper l.code = "ERR".toList := by
  obtain ⟨n₀, n, hn⟩ := List.exists_cons_of_ne_nil (number_isNumber (l := l)).ne_nil
  have hstart : startsValue n₀ = true :=
    Bool.or_eq_true_iff.mpr (.inl (number_isNumber.chars n₀ (by rw [hn]; exact List.mem_cons_self)))
  obtain ⟨d, hd, hdigit⟩ := exists_digit (l := l)
  have hcol := l.sign_column
  simp only [List.mem_cons, List.not_mem_nil, or_false] at hcol
  have hsign : l.sign ≠ ' ' → startsValue l.sign = true := by
    intro hne
    rcases hcol with h | h | h
    · rw [h]; rfl
    · rw [h]; rfl
    · exact absurd h hne
  by_cases hf : l.format = .short
  · have hnot : refused l.body = false := by
      by_cases hs : l.sign = ' '
      · have hbody : l.body = blanks (l.pad + 1) ++ n₀ :: (n ++ l.back) := by
          simp [body, front, idField, hf, hs, hn, blanks, List.replicate_succ]
        rw [hbody]
        exact refused_of_startsValue (allSpace_blanks _) hstart
      · have hbody : l.body = blanks 0 ++ l.sign :: (blanks l.pad ++ (l.number ++ l.back)) := by
          simp [body, front, idField, hf, blanks]
        rw [hbody]
        exact refused_of_startsValue (allSpace_blanks _) (hsign hs)
    rw [hnot, code_eq_nil hf]
    simp [Text.upper]
  · have hcode := isCode hf
    by_cases hs : l.sign = ' '
    · have hbody : l.body = l.code ++ ' ' :: (blanks (6 - l.code.length + l.pad) ++ n₀ :: (n ++ l.back)) := by
        have hcons : ' ' :: blanks (6 - l.code.length + l.pad) = blanks (6 - l.code.length) ++ ' ' :: blanks l.pad := by
          simp only [blanks, ← List.replicate_succ, ← List.replicate_add]
          rw [show 6 - l.code.length + l.pad + 1 = 6 - l.code.length + (l.pad + 1) by omega]
        rw [← List.cons_append, hcons]
        simp [body, front, idField, hf, hs, hn]
      rw [hbody]
      exact refused_code hcode _ hstart ⟨d, by rw [hn] at hd; exact List.mem_append_left _ hd, hdigit⟩
    · have hlen : l.code.length ≠ 6 := fun h => hs (hset h)
      obtain ⟨k, hk⟩ : ∃ k, 6 - l.code.length = k + 1 := ⟨5 - l.code.length, by have := hcode.length_le; omega⟩
      have hbody : l.body = l.code ++ ' ' :: (blanks k ++ l.sign :: (blanks l.pad ++ (l.number ++ l.back))) := by
        simp [body, front, idField, hf, hk, blanks, List.replicate_succ]
      rw [hbody]
      exact refused_code hcode k (hsign hs) ⟨d, by simp [hd], hdigit⟩

theorem not_offScale : offScale l.body = false := by
  obtain ⟨d, hd, hdigit⟩ := exists_digit_body (l := l)
  have hm := mem_statusMarker hdigit hd
  rw [offScale, contains_false_of_digit hdigit hm fun m h => markers_noDigit m (by simp [h]),
    contains_false_of_digit hdigit hm fun m h => markers_noDigit m (by simp [h])]
  rfl

theorem kindOf_body : kindOf l.body = .weight ↔ l.SetOff := by
  obtain ⟨d, hd, hdigit⟩ := exists_digit_body (l := l)
  have hempty : Text.strip l.body ≠ [] := List.ne_nil_of_mem (Text.mem_strip hd (isSpace_of_isDigit hdigit))
  have hspecial : statusMarker (Text.strip l.body) ∉ specialNonWeightMarkers := by
    have h := contains_false_of_digit hdigit (mem_statusMarker hdigit hd) (l := specialNonWeightMarkers)
      fun m h => markers_noDigit m (by simp [h])
    simpa using h
  have hlooks : looksLikeWeight l.body = true ↔ (l.code.length = 6 → l.sign = ' ') := by
    rw [looksLikeWeight_iff, not_offScale, weightForm_iff]
    simp [not_fragment]
  rw [kindOf, if_neg hempty, if_neg hspecial, SetOff]
  constructor
  · intro h
    split_ifs at h with hr hl
    have hset := hlooks.mp hl
    exact ⟨fun herr => hr ((refused_body hset).mpr herr), hset⟩
  · rintro ⟨herr, hset⟩
    rw [if_neg (fun hr => herr ((refused_body hset).mp hr)), if_pos (hlooks.mpr hset)]

theorem readingOf_body (h : l.SetOff) : ∃ m, weightRe.fullmatch l.body = some m ∧
    readingOf l.bytes = some (weightReading m l.bytes) := by
  obtain ⟨d, hd, hdigit⟩ := exists_digit_body (l := l)
  obtain ⟨m, hm⟩ := weightRe_fullmatch_iff.mpr (weightForm_iff.mpr h.2)
  have hrefused : ¬ refused l.body = true := fun hr => h.1 ((refused_body h.2).mp hr)
  have hbare : ¬ isBareNumberFragment l.body m = true := fun hb => not_fragment ((isBareNumberFragment_iff hm).mp hb)
  refine ⟨m, hm, ?_⟩
  rw [bytes, readingOf_digit isAscii_body hdigit hd, if_neg hrefused, hm]
  dsimp only
  rw [if_neg hbare]

/-- A documented line is read as what its columns say exactly when its ID code is not `ERR` and, if it fills its
field, no sign follows it. -/
theorem decodes_iff (l : DocumentedLine) : l.Decodes ↔ l.SetOff := by
  obtain ⟨line, hline, hkind, -⟩ := parseLine_kind (t := l.body) isAscii_body
  constructor
  · rintro ⟨line', r, hreads⟩
    obtain rfl : line = line' := Except.ok.inj (hline.symm.trans hreads.parsed)
    exact kindOf_body.mp (hkind.symm.trans hreads.kind)
  · intro hset
    obtain ⟨m, hm, hreading⟩ := readingOf_body hset
    obtain ⟨hunstable, hsign, hnumber, hunit⟩ := captures_of_fullmatch hm
    have hchar : ((m.get? .sign).bind List.head?).getD '+' = if l.sign = '-' then '-' else '+' := by
      have hcol := l.sign_column
      simp only [List.mem_cons, List.not_mem_nil, or_false] at hcol
      rcases hcol with h | h | h <;> simp [hsign, h]
    have hvalue := l.float_decimal
    have hunitText : (m.get? .unit).getD [] = l.unit := by
      rw [hunit]
      by_cases hu : l.unit = [] <;> simp [hu]
    have hminus : ((if l.sign = '-' then '-' else '+') = '-') ↔ l.sign = '-' := by
      split <;> simp_all
    refine ⟨line, weightReading m l.bytes, ⟨hline, hkind.trans (kindOf_body.mpr hset), ?_, ?_, ?_, ?_, ?_, ?_⟩⟩
    · rw [← hreading, readingOf, bytes, hline]
    · simp only [weightReading, hchar, hnumber, Option.getD_some, hminus, hvalue]
    · simp only [weightReading, hnumber, Option.getD_some, number_split.2.2]
    · simp only [weightReading, hchar, hnumber, Option.getD_some, hminus, hvalue]
      exact signFromWire_decimal
    · simp only [weightReading, hunitText]
      exact unitFromSbi_unitField.symm
    · simp only [weightReading, hunitText, hunstable, strip_unit, Bool.and_eq_true, bne_iff_ne, ne_eq,
        unitField_blank_iff]
      simp

/-- `TOTAL1+     12.5 g  `: a code that fills its field, and a sign. -/
def filledField : DocumentedLine where
  format := .prefixed
  code := "TOTAL1".toList
  sign := '+'
  whole := "12".toList
  fraction := some "5".toList
  indent := 0
  unit := "g".toList
  code_form := ⟨'T', "OTAL1".toList, rfl, rfl, by simp [isLetter, isDigit], by decide⟩
  sign_column := WeightLine.twelve.sign_column
  digits := List.all_eq_true.mp (by decide)
  digits_ne := by decide
  number_width := by decide
  unit_letters := List.all_eq_true.mp (by decide)
  unit_width := by decide

/-- It is taken for an identity text, and has no reading. -/
theorem filled_field_missed :
    filledField.body = "TOTAL1+     12.5 g  ".toList ∧
      (parseLine filledField.bytes).toOption.map (fun line => (line.kind, line.reading)) = some (.identity, none) ∧
      ¬ filledField.Decodes := by
  have hparse : (parseLine filledField.bytes).toOption.map (fun line => (line.kind, line.reading)) =
      some (.identity, none) := by decide +kernel
  refine ⟨rfl, hparse, ?_⟩
  rintro ⟨line, r, h⟩
  rw [h.parsed, Except.toOption, Option.map_some, h.kind] at hparse
  cases hparse

end DocumentedLine

end SartoriusLib.Sbi
