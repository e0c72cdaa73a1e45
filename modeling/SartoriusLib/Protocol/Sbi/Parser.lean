import SartoriusLib.Protocol.Sbi.Framing

/-!
# SBI line parser

A line is a refusal, a special status, a weight line with its reading, or printable identity text.
-/

namespace SartoriusLib.Sbi

open SartoriusLib Lib

inductive SbiLineKind where
  | empty
  | identity
  | refusal
  | weight
  | unknown
  deriving DecidableEq, Repr

/-- One parsed line; `text` has the terminator and the surrounding blanks stripped. -/
structure SbiLine where
  raw : Bytes
  text : Text
  kind : SbiLineKind
  reading : Option Reading := none
  deriving DecidableEq, Repr

structure SbiReply where
  lines : List SbiLine
  raw : Bytes
  deriving DecidableEq, Repr

def SbiReply.firstLine (r : SbiReply) : Option SbiLine := r.lines.head?

/-- The groups of the weight pattern. -/
inductive WeightGroup where
  | unstable
  | id
  | sign
  | number
  | unit
  deriving DecidableEq, Repr

/-- `\s*(?P<unstable>\?)?\s*(?:(?P<id>[A-Za-z][A-Za-z0-9 ]{0,5})\s+)?(?P<sign>[+-])?\s*`. -/
def weightFrontRe : Re WeightGroup :=
  .seq (.many Text.isSpace) <| .seq (.opt (.group .unstable (.chr '?'))) <|
  .seq (.many Text.isSpace) <|
  .seq (.opt (.seq (.group .id (.seq (.one isLetter) (.rep isIdChar 0 (some 5)))) (.some Text.isSpace))) <|
  .seq (.opt (.group .sign (.one isSignChar))) (.many Text.isSpace)

/-- `\s*(?P<unit>[A-Za-zµ/_\.]+)?\s*`. -/
def weightBackRe : Re WeightGroup :=
  .seq (.many Text.isSpace) <| .seq (.opt (.group .unit (.some isUnitChar))) (.many Text.isSpace)

/-- The pattern of a weight line, between `\A` and `\Z`. -/
def weightRe : Re WeightGroup := .seq weightFrontRe (.seq (.group .number numberRe) weightBackRe)

def overloadMarkers : List Text :=
  ["H".toList, "HH".toList, "HIGH".toList, "HI".toList, "OVER".toList, "OVERLOAD".toList, "OL".toList]

def underloadMarkers : List Text :=
  ["L".toList, "LL".toList, "LOW".toList, "UNDER".toList, "UNDERLOAD".toList, "UL".toList]

def refusalMarkers : List Text :=
  ["APP. ERR".toList, "DIS. ERR".toList, "ERR".toList, "ERROR".toList, "INVALID".toList, "NO".toList,
   "PRT. ERR".toList, "REJECT".toList, "REJECTED".toList]

def specialNonWeightMarkers : List Text :=
  ["CAL. EXT.".toList, "CAL. INT.".toList, "CAL.INT.".toList]

def isRefusalMarker (marker : Text) : Bool :=
  refusalMarkers.contains marker || Text.startsWith marker "ERR ".toList

def decimalPlaces (numberText : Text) : Nat :=
  (numberText.dropWhile (· ≠ '.')).length - 1

def signFromWire (signChar : Char) (value : PyFloat) : Sign :=
  if value = .fin 0 then .zero
  else if signChar = '-' then .negative
  else if signChar = '+' then .positive
  else .unknown

/-- Only a number, without a sign, a prefix or a unit, and narrower than a formatted line. -/
def isBareNumberFragment (text : Text) (m : Re.Captures WeightGroup) : Bool :=
  m.get? .unstable = none ∧ m.get? .id = none ∧ m.get? .sign = none ∧ m.get? .unit = none ∧
    (text = Text.strip text ∨ text.length < minFormattedWeightBodyChars)

def looksLikeWeight (text : Text) : Bool :=
  let marker := statusMarker (Text.strip text)
  overloadMarkers.contains marker || underloadMarkers.contains marker ||
    match weightRe.fullmatch text with
    | none => false
    | some m => !isBareNumberFragment text m

/-- The reading of an off-scale marker line. -/
def offScaleReading (overload underload : Bool) (raw : Bytes) : Reading :=
  { value := none, unit := .unknown, sign := .unknown, stable := false, overload, underload,
    decimals := none, sequence := none,
    statusFlags := [("stable", false), ("overload", overload), ("underload", underload)],
    protocol := .sbi, raw }

/-- The reading of the captured parts of a weight line. -/
def weightReading (m : Re.Captures WeightGroup) (raw : Bytes) : Reading :=
  let numberText := (m.get? .number).getD []
  let signChar := ((m.get? .sign).bind List.head?).getD '+'
  let unitText := (m.get? .unit).getD []
  let value := floatOfText numberText
  let value := if signChar = '-' then value.neg else value
  let stable := m.get? .unstable != some ['?'] && Text.strip unitText != []
  { value := some value, unit := unitFromSbi unitText, sign := signFromWire signChar value, stable,
    overload := false, underload := false, decimals := some (decimalPlaces numberText), sequence := none,
    statusFlags := [("stable", stable)], protocol := .sbi, raw }

def parseWeightLine (lineBytes : Bytes) : Except SartoriusError Reading :=
  let text := decodeAsciiReplace (stripLineTerminator lineBytes)
  let stripped := Text.strip text
  let marker := statusMarker stripped
  if overloadMarkers.contains marker || underloadMarkers.contains marker then
    .ok (offScaleReading (overloadMarkers.contains marker) (underloadMarkers.contains marker) lineBytes)
  else
    match weightRe.fullmatch text with
    | none =>
        .error { cls := .parseError, message := s!"unparseable SBI weight line '{String.ofList stripped}'",
                 context := { rawResponse := some lineBytes, protocol := some "sbi" } }
    | some m => .ok (weightReading m lineBytes)

def parseLine (raw : Bytes) : Except SartoriusError SbiLine :=
  match decodeAscii (stripLineTerminator raw) with
  | none =>
      .error { cls := .parseError, message := "SBI line is not ASCII",
               context := { rawResponse := some raw, protocol := some "sbi" } }
  | some text =>
      let stripped := Text.strip text
      if stripped = [] then .ok { raw, text := [], kind := .empty }
      else
        let marker := statusMarker stripped
        if isRefusalMarker marker then .ok { raw, text := stripped, kind := .refusal }
        else if specialNonWeightMarkers.contains marker then .ok { raw, text := stripped, kind := .unknown }
        else if looksLikeWeight text then
          (parseWeightLine raw).map fun r => { raw, text := stripped, kind := .weight, reading := some r }
        else .ok { raw, text := stripped, kind := .identity }

def parseReply (raw : Bytes) : Except SartoriusError SbiReply := do
  let lines ← splitLines raw
  let lines ← lines.mapM parseLine
  .ok { lines, raw }

def requireReading (reply : SbiReply) : Except SartoriusError Reading :=
  match reply.lines.findSome? SbiLine.reading with
  | some r => .ok r
  | none =>
      .error { cls := .parseError, message := "SBI reply did not contain a weight line",
               context := { rawResponse := some reply.raw, protocol := some "sbi" } }

def requireIdentityText (reply : SbiReply) (allowWeightLike : Bool := true) : Except SartoriusError Text :=
  match reply.lines.find? fun line =>
      line.kind ∉ [.empty, .refusal, .unknown] ∧ (allowWeightLike ∨ line.kind ≠ .weight) with
  | some line => .ok line.text
  | none =>
      .error { cls := .parseError, message := "SBI reply did not contain identity text",
               context := { rawResponse := some reply.raw, protocol := some "sbi" } }

/-! ## What the weight pattern takes -/

/-- One way to read a text as a weight line. -/
structure WeightParse where
  blank₁ : Text
  unstable : Bool
  blank₂ : Text
  /-- The prefix and the blanks that end it. -/
  id : Option (Text × Text)
  sign : Option Char
  blank₃ : Text
  number : Text
  blank₄ : Text
  unit : Option Text
  blank₅ : Text

namespace WeightParse

/-- The text before the number. -/
def front (p : WeightParse) : Text :=
  p.blank₁ ++ ((if p.unstable then ['?'] else []) ++ (p.blank₂ ++
    ((p.id.elim [] fun i => i.1 ++ i.2) ++ (p.sign.toList ++ p.blank₃))))

/-- The text after the number. -/
def back (p : WeightParse) : Text := p.blank₄ ++ (p.unit.getD [] ++ p.blank₅)

def text (p : WeightParse) : Text := p.front ++ (p.number ++ p.back)

def frontCaptures (p : WeightParse) : Re.Captures WeightGroup :=
  (if p.unstable then [(.unstable, ['?'])] else []) ++ ((p.id.elim [] fun i => [(.id, i.1)]) ++
    p.sign.elim [] fun c => [(.sign, [c])])

def captures (p : WeightParse) : Re.Captures WeightGroup :=
  p.frontCaptures ++ ([(.number, p.number)] ++ p.unit.elim [] fun u => [(.unit, u)])

def AllSpace (t : Text) : Prop := ∀ c ∈ t, Text.isSpace c = true

/-- A prefix is a letter and at most five more letters, digits and blanks, and ends in blanks. -/
def IsPrefix (i w : Text) : Prop :=
  (∃ c t, i = c :: t ∧ isLetter c = true ∧ (∀ x ∈ t, isIdChar x = true) ∧ t.length ≤ 5) ∧
    AllSpace w ∧ w ≠ []

structure Valid (p : WeightParse) : Prop where
  blank₁ : AllSpace p.blank₁
  blank₂ : AllSpace p.blank₂
  id : ∀ i w, p.id = some (i, w) → IsPrefix i w
  sign : ∀ c, p.sign = some c → isSignChar c = true
  blank₃ : AllSpace p.blank₃
  number : Re.Matches (numberRe (ν := WeightGroup)) p.number []
  blank₄ : AllSpace p.blank₄
  unit : ∀ u, p.unit = some u → (∀ x ∈ u, isUnitChar x = true) ∧ u ≠ []
  blank₅ : AllSpace p.blank₅

variable (p : WeightParse)

@[simp] theorem captures_get?_unstable :
    p.captures.get? .unstable = if p.unstable then some ['?'] else none := by
  rcases p with ⟨_, _ | _, _, _ | _, _ | _, _, _, _, _ | _, _⟩ <;> rfl

@[simp] theorem captures_get?_id : p.captures.get? .id = p.id.map Prod.fst := by
  rcases p with ⟨_, _ | _, _, _ | _, _ | _, _, _, _, _ | _, _⟩ <;> rfl

@[simp] theorem captures_get?_sign : p.captures.get? .sign = p.sign.map ([·]) := by
  rcases p with ⟨_, _ | _, _, _ | _, _ | _, _, _, _, _ | _, _⟩ <;> rfl

@[simp] theorem captures_get?_number : p.captures.get? .number = some p.number := by
  rcases p with ⟨_, _ | _, _, _ | _, _ | _, _, _, _, _ | _, _⟩ <;> rfl

@[simp] theorem captures_get?_unit : p.captures.get? .unit = p.unit := by
  rcases p with ⟨_, _ | _, _, _ | _, _ | _, _, _, _, _ | _, _⟩ <;> rfl

end WeightParse

theorem numberRe_captures {t : Text} {c : Re.Captures WeightGroup}
    (h : Re.Matches numberRe t c) : c = [] := by
  simp only [numberRe, Re.chr, Re.Matches, Re.matches_some, Re.matches_one, Re.matches_many] at h
  grind

section Parts

variable {t : Text} {c : Re.Captures WeightGroup}

theorem unstable_matches_iff : Re.Matches (.opt (.group .unstable (.chr '?'))) t c ↔
    ∃ b : Bool, t = (if b then ['?'] else []) ∧ c = if b then [(.unstable, ['?'])] else [] := by
  simp only [Re.chr, Re.matches_opt, Re.matches_group, Re.matches_one]
  constructor
  · rintro (⟨_, rfl, x, rfl, hx, rfl⟩ | ⟨rfl, rfl⟩)
    · obtain rfl : x = '?' := by simpa using hx
      exact ⟨true, rfl, rfl⟩
    · exact ⟨false, rfl, rfl⟩
  · rintro ⟨_ | _, rfl, rfl⟩
    · exact .inr ⟨rfl, rfl⟩
    · exact .inl ⟨[], rfl, '?', rfl, rfl, rfl⟩

theorem id_matches_iff :
    Re.Matches (.opt (.seq (.group .id (.seq (.one isLetter) (.rep isIdChar 0 (some 5))))
      (.some Text.isSpace))) t c ↔
    ∃ o : Option (Text × Text), t = (o.elim [] fun i => i.1 ++ i.2) ∧
      c = (o.elim [] fun i => [(.id, i.1)]) ∧ ∀ i w, o = some (i, w) → WeightParse.IsPrefix i w := by
  simp only [Re.matches_opt, Re.matches_seq, Re.matches_group, Re.matches_one, Re.matches_some]
  constructor
  · rintro (⟨_, _, w, _, rfl, rfl, ⟨_, rfl, _, _, t, _, rfl, rfl, ⟨x, rfl, hx, rfl⟩, ht, -, hlen, rfl⟩,
      hw, hne, rfl⟩ | ⟨rfl, rfl⟩)
    · refine ⟨some (x :: t, w), rfl, rfl, ?_⟩
      rintro _ _ ⟨rfl, rfl⟩
      exact ⟨⟨x, t, rfl, hx, ht, hlen 5 rfl⟩, hw, hne⟩
    · exact ⟨none, rfl, rfl, by simp⟩
  · rintro ⟨_ | ⟨i, w⟩, rfl, rfl, h⟩
    · exact .inr ⟨rfl, rfl⟩
    · obtain ⟨⟨x, t, rfl, hx, ht, hlen⟩, hw, hne⟩ := h i w rfl
      exact .inl ⟨_, _, w, [], rfl, rfl, ⟨[], rfl, [x], [], t, [], rfl, rfl, ⟨x, rfl, hx, rfl⟩, ht,
        Nat.zero_le _, by simpa using hlen, rfl⟩, hw, hne, rfl⟩

theorem sign_matches_iff : Re.Matches (.opt (.group .sign (.one isSignChar))) t c ↔
    ∃ o : Option Char, t = o.toList ∧ c = (o.elim [] fun c => [(.sign, [c])]) ∧
      ∀ x, o = some x → isSignChar x = true := by
  simp only [Re.matches_opt, Re.matches_group, Re.matches_one]
  constructor
  · rintro (⟨_, rfl, x, rfl, hx, rfl⟩ | ⟨rfl, rfl⟩)
    · exact ⟨some x, rfl, rfl, by rintro _ ⟨rfl⟩; exact hx⟩
    · exact ⟨none, rfl, rfl, by simp⟩
  · rintro ⟨_ | x, rfl, rfl, h⟩
    · exact .inr ⟨rfl, rfl⟩
    · exact .inl ⟨[], rfl, x, rfl, h x rfl, rfl⟩

theorem unit_matches_iff : Re.Matches (.opt (.group .unit (.some isUnitChar))) t c ↔
    ∃ o : Option Text, t = o.getD [] ∧ c = (o.elim [] fun u => [(.unit, u)]) ∧
      ∀ u, o = some u → (∀ x ∈ u, isUnitChar x = true) ∧ u ≠ [] := by
  simp only [Re.matches_opt, Re.matches_group, Re.matches_some]
  constructor
  · rintro (⟨_, rfl, hx, hne, rfl⟩ | ⟨rfl, rfl⟩)
    · exact ⟨some t, rfl, rfl, by rintro _ ⟨rfl⟩; exact ⟨hx, hne⟩⟩
    · exact ⟨none, rfl, rfl, by simp⟩
  · rintro ⟨_ | u, rfl, rfl, h⟩
    · exact .inr ⟨rfl, rfl⟩
    · obtain ⟨hx, hne⟩ := h _ rfl
      exact .inl ⟨[], rfl, hx, hne, rfl⟩

theorem number_matches_iff : Re.Matches (.group .number numberRe) t c ↔
    c = [(.number, t)] ∧ Re.Matches (numberRe (ν := WeightGroup)) t [] := by
  rw [Re.matches_group]
  constructor
  · rintro ⟨c₁, rfl, h⟩
    obtain rfl := numberRe_captures h
    exact ⟨rfl, h⟩
  · rintro ⟨rfl, h⟩
    exact ⟨[], rfl, h⟩

end Parts

/-- A match of the front and a match of the number and what follows are one way to read the whole. -/
theorem weightRe_parts {t u : Text} {c d : Re.Captures WeightGroup} (hfront : Re.Matches weightFrontRe t c)
    (hback : Re.Matches (.seq (.group .number numberRe) weightBackRe) u d) :
    ∃ p : WeightParse, p.Valid ∧ t = p.front ∧ c = p.frontCaptures ∧ u = p.number ++ p.back ∧
      d = [(.number, p.number)] ++ p.unit.elim [] fun u => [(.unit, u)] := by
  rw [weightFrontRe] at hfront
  rw [weightBackRe] at hback
  simp only [Re.matches_seq, Re.matches_many, unstable_matches_iff, id_matches_iff, sign_matches_iff] at hfront
  simp only [Re.matches_seq, Re.matches_many, unit_matches_iff, number_matches_iff] at hback
  obtain ⟨b₁, _, _, _, rfl, rfl, ⟨hb₁, rfl⟩, _, _, _, _, rfl, rfl, ⟨q, rfl, rfl⟩, b₂, _, _, _, rfl, rfl,
    ⟨hb₂, rfl⟩, _, _, _, _, rfl, rfl, ⟨i, rfl, rfl, hi⟩, _, _, b₃, _, rfl, rfl, ⟨s, rfl, rfl, hs⟩, hb₃,
    rfl⟩ := hfront
  obtain ⟨n, _, _, _, rfl, rfl, ⟨rfl, hn⟩, b₄, _, _, _, rfl, rfl, ⟨hb₄, rfl⟩, _, _, b₅, _, rfl, rfl,
    ⟨u, rfl, rfl, hu⟩, hb₅, rfl⟩ := hback
  exact ⟨⟨b₁, q, b₂, i, s, b₃, n, b₄, u, b₅⟩, ⟨hb₁, hb₂, hi, hs, hb₃, hn, hb₄, hu, hb₅⟩, rfl,
    by simp [WeightParse.frontCaptures], rfl, by simp⟩

/-- The matches of the weight pattern are the valid ways to read the text. -/
theorem weightRe_matches_iff {t : Text} {c : Re.Captures WeightGroup} :
    Re.Matches weightRe t c ↔ ∃ p : WeightParse, p.Valid ∧ t = p.text ∧ c = p.captures := by
  constructor
  · rintro ⟨_, _, _, _, rfl, rfl, hfront, hback⟩
    obtain ⟨p, hp, rfl, rfl, rfl, rfl⟩ := weightRe_parts hfront hback
    exact ⟨p, hp, rfl, rfl⟩
  · rintro ⟨p, ⟨hb₁, hb₂, hi, hs, hb₃, hn, hb₄, hu, hb₅⟩, rfl, rfl⟩
    rw [weightRe]
    simp only [weightFrontRe, weightBackRe, Re.matches_seq, Re.matches_many, unstable_matches_iff,
      id_matches_iff, sign_matches_iff, unit_matches_iff, number_matches_iff]
    refine ⟨p.front, p.frontCaptures, p.number ++ p.back, _, rfl, rfl,
      ⟨_, [], _, p.frontCaptures, rfl, rfl, ⟨hb₁, rfl⟩, _, _, _, _, rfl, rfl, ⟨p.unstable, rfl, rfl⟩,
        _, [], _, _, rfl, rfl, ⟨hb₂, rfl⟩, _, _, _, _, rfl, rfl, ⟨p.id, rfl, rfl, hi⟩,
        _, _, _, [], rfl, (List.append_nil _).symm, ⟨p.sign, rfl, rfl, hs⟩, hb₃, rfl⟩,
      p.number, _, p.back, _, rfl, rfl, ⟨rfl, hn⟩,
      ⟨_, [], _, _, rfl, rfl, ⟨hb₄, rfl⟩, _, _, _, [], rfl, (List.append_nil _).symm,
        ⟨p.unit, rfl, rfl, hu⟩, hb₅, rfl⟩⟩

end SartoriusLib.Sbi
