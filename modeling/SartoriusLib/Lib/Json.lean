import Mathlib.Data.List.TakeWhile
import Mathlib.Tactic.Common

/-!
# JSON objects of plain values

The writer puts an object on one line: a control character, a quote or a backslash in a string is escaped and
every other character stays as it is. The reader takes any object whose values have no parts, with white space
between the tokens; it reads numbers as long as they go on.
-/

namespace SartoriusLib.Lib.Json

/-- The parts of a finite number; no fraction or exponent is the empty one. -/
structure Number where
  negative : Bool := false
  whole : List Char
  fraction : List Char := []
  /-- With its mark and its sign. -/
  exponent : List Char := []
  deriving DecidableEq, Repr

/-- A value without parts. -/
inductive Scalar where
  | null
  | bool (b : Bool)
  | number (n : Number)
  | nan
  | infinity (negative : Bool)
  | string (s : List Char)
  deriving DecidableEq, Repr

/-- The members in the order of the text. -/
abbrev Members : Type := List (List Char × Scalar)

/-! ## The writer -/

def hexDigits : List Char := "0123456789abcdef".toList

def hexDigit (n : Nat) : Char := hexDigits.getD n '0'

/-- A control character without a short escape. -/
def escapeCode (c : Char) : List Char := ['\\', 'u', '0', '0', hexDigit (c.toNat / 16), hexDigit (c.toNat % 16)]

/-- The characters with a short escape, by the letter of the escape. -/
def shortEscapes : List (Char × Char) :=
  [('"', '"'), ('\\', '\\'), ('n', '\n'), ('r', '\r'), ('t', '\t'), ('f', '\x0c'), ('b', '\x08')]

def escape (c : Char) : List Char :=
  match shortEscapes.find? fun e => e.2 == c with
  | some e => ['\\', e.1]
  | none => if c < ' ' then escapeCode c else [c]

def writeString (s : List Char) : List Char := '"' :: s.flatMap escape ++ ['"']

def Number.text (n : Number) : List Char :=
  (if n.negative then ['-'] else []) ++ n.whole ++ (if n.fraction = [] then [] else '.' :: n.fraction) ++ n.exponent

/-- The values that are words. -/
def words : List (List Char × Scalar) :=
  [("null".toList, .null), ("true".toList, .bool true), ("false".toList, .bool false), ("NaN".toList, .nan),
    ("Infinity".toList, .infinity false), ("-Infinity".toList, .infinity true)]

def Scalar.text : Scalar → List Char
  | .null => "null".toList
  | .bool b => if b then "true".toList else "false".toList
  | .number n => n.text
  | .nan => "NaN".toList
  | .infinity negative => if negative then "-Infinity".toList else "Infinity".toList
  | .string s => writeString s

def writeMember (m : List Char × Scalar) : List Char := writeString m.1 ++ ':' :: ' ' :: m.2.text

/-- The members with the separators between them. -/
def joinMembers : Members → List Char
  | [] => []
  | [m] => writeMember m
  | m :: n :: ms => writeMember m ++ ',' :: ' ' :: joinMembers (n :: ms)

def dumps (o : Members) : List Char := '{' :: joinMembers o ++ ['}']

/-! ## The reader -/

def isSpace (c : Char) : Bool := c == ' ' || c == '\t' || c == '\n' || c == '\r'

def skipSpace (t : List Char) : List Char := t.dropWhile isSpace

/-- The code of four hexadecimal digits, of either case. -/
def hexCode (ds : List Char) : Option Nat :=
  ds.foldlM (fun n d => do
    let i ← hexDigits.findIdx? (· == d.toLower)
    pure (16 * n + i)) 0

/-- The short escapes of the reader; a slash may be escaped too. -/
def unescape (e : Char) : Option Char :=
  if e = '/' then some '/' else (shortEscapes.find? fun s => s.1 == e).map Prod.snd

/-- The codes of a string up to its closing quote. -/
def scanString : List Char → Option (List Nat × List Char)
  | [] => none
  | c :: rest =>
      if c = '"' then some ([], rest)
      else if c = '\\' then
        match rest with
        | [] => none
        | e :: rest =>
            if e = 'u' then
              match rest with
              | a :: b :: c :: d :: rest => do
                  let n ← hexCode [a, b, c, d]
                  let (ns, rest) ← scanString rest
                  pure (n :: ns, rest)
              | _ => none
            else do
              let c ← unescape e
              let (ns, rest) ← scanString rest
              pure (c.toNat :: ns, rest)
      else if c < ' ' then none
      else do
        let (ns, rest) ← scanString rest
        pure (c.toNat :: ns, rest)

/-- The first half of a pair of surrogates. -/
def isHigh (n : Nat) : Bool := 0xD800 ≤ n && n < 0xDC00

/-- The second half. -/
def isLow (n : Nat) : Bool := 0xDC00 ≤ n && n < 0xE000

/-- The characters of the codes; two surrogates are one character, and one alone is none. -/
def decodeUnits : List Nat → Option (List Char)
  | [] => some []
  | n :: ns =>
      if isHigh n then
        match ns with
        | m :: ns =>
            if isLow m then do
              let s ← decodeUnits ns
              pure (Char.ofNat (0x10000 + (n - 0xD800) * 0x400 + (m - 0xDC00)) :: s)
            else none
        | [] => none
      else if isLow n then none
      else do
        let s ← decodeUnits ns
        pure (Char.ofNat n :: s)

/-- A string after its opening quote. -/
def readString (t : List Char) : Option (List Char × List Char) := do
  let (ns, rest) ← scanString t
  let s ← decodeUnits ns
  pure (s, rest)

/-- The digits at the front. -/
def spanDigits (t : List Char) : List Char × List Char := (t.takeWhile Char.isDigit, t.dropWhile Char.isDigit)

/-- A point is part of a number if a digit follows it. -/
def scanFraction (t : List Char) : List Char × List Char :=
  match t with
  | '.' :: more => if (spanDigits more).1 = [] then ([], t) else spanDigits more
  | _ => ([], t)

def isSign (c : Char) : Bool := c == '-' || c == '+'

/-- A mark is part of a number if a digit follows it and its sign. -/
def scanExponent (t : List Char) : List Char × List Char :=
  match t with
  | [] => ([], t)
  | mark :: more =>
      let sign := (more.take 1).filter isSign
      let (digits, rest) := spanDigits (more.drop sign.length)
      if (mark = 'e' ∨ mark = 'E') ∧ digits ≠ [] then (mark :: sign ++ digits, rest) else ([], t)

/-- The whole part: a zero alone or digits without a leading zero. -/
def scanWhole (t : List Char) : Option (List Char × List Char) :=
  match t with
  | '0' :: rest => some (['0'], rest)
  | _ => if (spanDigits t).1 = [] then none else some (spanDigits t)

def scanNumber (t : List Char) : Option (Number × List Char) := do
  let negative := t.head? == some '-'
  let (whole, rest) ← scanWhole (if negative then t.drop 1 else t)
  let (fraction, rest) := scanFraction rest
  let (exponent, rest) := scanExponent rest
  pure ({ negative, whole, fraction, exponent }, rest)

/-- The text behind a word. -/
def expect (w t : List Char) : Option (List Char) := if w.isPrefixOf t then some (t.drop w.length) else none

def scanWord (t : List Char) : Option (Scalar × List Char) :=
  words.findSome? fun w => (expect w.1 t).map fun rest => (w.2, rest)

def scanValue (t : List Char) : Option (Scalar × List Char) :=
  match t with
  | '"' :: rest => (readString rest).map fun r => (.string r.1, r.2)
  | _ => (scanWord t).orElse fun _ => (scanNumber t).map fun r => (.number r.1, r.2)

/-- One member, from its opening quote on. -/
def scanMember (t : List Char) : Option ((List Char × Scalar) × List Char) := do
  let rest ← expect ['"'] t
  let (name, rest) ← readString rest
  let rest ← expect [':'] (skipSpace rest)
  let (value, rest) ← scanValue (skipSpace rest)
  pure ((name, value), skipSpace rest)

/-- The members of an object that is not empty, up to its brace. -/
def scanMembers : Nat → List Char → Option (Members × List Char)
  | 0, _ => none
  | fuel + 1, t => do
      let (m, rest) ← scanMember t
      match rest with
      | '}' :: rest => pure ([m], rest)
      | ',' :: rest => do
          let (ms, rest) ← scanMembers fuel (skipSpace rest)
          pure (m :: ms, rest)
      | _ => none

def scanObject (t : List Char) : Option (Members × List Char) := do
  let rest ← expect ['{'] t
  match skipSpace rest with
  | '}' :: rest => pure ([], rest)
  | rest => scanMembers (rest.length + 1) rest

/-- An object and nothing but white space behind it. -/
def loads (t : List Char) : Option Members := do
  let (o, rest) ← scanObject (skipSpace t)
  if skipSpace rest = [] then pure o else none

/-! ## Strings -/

variable {c : Char} {s t rest : List Char}

theorem unescape_shortEscapes : ∀ e ∈ shortEscapes, e.1 ≠ 'u' ∧ unescape e.1 = some e.2 := by decide

theorem hexCode_hexDigits : ∀ n < 32, hexCode ['0', '0', hexDigit (n / 16), hexDigit (n % 16)] = some n := by
  decide

theorem hexDigit_printable (n : Nat) : ¬ hexDigit n < ' ' := by
  by_cases h : n < 16
  · exact (show ∀ n < 16, ¬ hexDigit n < ' ' by decide) n h
  · have hlen : hexDigits.length ≤ n := by
      have : hexDigits.length = 16 := by decide
      omega
    rw [hexDigit, List.getD_eq_getElem?_getD, List.getElem?_eq_none hlen]
    decide

theorem toNat_lt_space (hc : c < ' ') : c.toNat < 32 := hc

theorem scanString_quote (rest : List Char) : scanString ('"' :: rest) = some ([], rest) := by
  simp [scanString.eq_def]

theorem scanString_short {e : Char} (hu : e ≠ 'u') (he : unescape e = some c) (rest : List Char) :
    scanString ('\\' :: e :: rest) = (scanString rest).map fun r => (c.toNat :: r.1, r.2) := by
  rw [scanString.eq_def]
  simp only [if_neg (show ¬ '\\' = '"' by decide), if_true, if_neg hu, he]
  cases scanString rest <;> rfl

theorem scanString_code (a b c d : Char) {n : Nat} (hn : hexCode [a, b, c, d] = some n) (rest : List Char) :
    scanString ('\\' :: 'u' :: a :: b :: c :: d :: rest) = (scanString rest).map fun r => (n :: r.1, r.2) := by
  rw [scanString.eq_def]
  simp only [if_neg (show ¬ '\\' = '"' by decide), if_true, hn]
  cases scanString rest <;> rfl

theorem scanString_plain (hquote : c ≠ '"') (hslash : c ≠ '\\') (hc : ¬ c < ' ') (rest : List Char) :
    scanString (c :: rest) = (scanString rest).map fun r => (c.toNat :: r.1, r.2) := by
  rw [scanString.eq_def]
  simp only [if_neg hquote, if_neg hslash, if_neg hc]
  cases scanString rest <;> rfl

/-- An escaped character is read back, whatever follows it. -/
theorem scanString_escape (c : Char) (rest : List Char) :
    scanString (escape c ++ rest) = (scanString rest).map fun r => (c.toNat :: r.1, r.2) := by
  rw [escape]
  cases hfind : shortEscapes.find? fun e => e.2 == c with
  | some e =>
      obtain ⟨hu, he⟩ := unescape_shortEscapes e (List.mem_of_find?_eq_some hfind)
      have hc : e.2 = c := by simpa using List.find?_some hfind
      exact hc ▸ scanString_short hu he rest
  | none =>
      rw [List.find?_eq_none] at hfind
      have hquote : c ≠ '"' := fun h => hfind ('"', '"') (by decide) (by simp [h])
      have hslash : c ≠ '\\' := fun h => hfind ('\\', '\\') (by decide) (by simp [h])
      by_cases hc : c < ' '
      · rw [if_pos hc]
        exact scanString_code _ _ _ _ (hexCode_hexDigits c.toNat (toNat_lt_space hc)) rest
      · rw [if_neg hc]
        exact scanString_plain hquote hslash hc rest

theorem scanString_escapes (s rest : List Char) :
    scanString (s.flatMap escape ++ '"' :: rest) = some (s.map Char.toNat, rest) := by
  induction s with
  | nil => exact scanString_quote rest
  | cons c s ih => rw [List.flatMap_cons, List.append_assoc, scanString_escape, ih, Option.map_some, List.map_cons]

theorem char_not_surrogate (c : Char) : isHigh c.toNat = false ∧ isLow c.toNat = false := by
  have hvalid : Nat.isValidChar c.toNat := c.valid
  rw [Nat.isValidChar] at hvalid
  simp only [isHigh, isLow, Bool.and_eq_false_iff, decide_eq_false_iff_not]
  omega

theorem decodeUnits_map (s : List Char) : decodeUnits (s.map Char.toNat) = some s := by
  induction s with
  | nil => rfl
  | cons c s ih =>
      obtain ⟨hhigh, hlow⟩ := char_not_surrogate c
      rw [List.map_cons, decodeUnits.eq_def]
      simp only [hhigh, hlow, ih, Char.ofNat_toNat]
      rfl

theorem readString_escapes (s rest : List Char) : readString (s.flatMap escape ++ '"' :: rest) = some (s, rest) := by
  rw [readString, scanString_escapes]
  show (decodeUnits (s.map Char.toNat)).bind _ = _
  rw [decodeUnits_map]
  rfl

/-! ## Numbers -/

def AllDigits (t : List Char) : Prop := ∀ c ∈ t, c.isDigit = true

/-- The text behind does not go on with a number. -/
def EndsNumber (t : List Char) : Prop := ∀ c, t.head? = some c → c.isDigit = false ∧ c ≠ '.' ∧ c ≠ 'e' ∧ c ≠ 'E'

/-- A mark, an optional sign and digits. -/
def IsExponent (e : List Char) : Prop :=
  ∃ mark sign digits, (mark = 'e' ∨ mark = 'E') ∧ (sign = [] ∨ ∃ c, sign = [c] ∧ isSign c = true) ∧
    AllDigits digits ∧ digits ≠ [] ∧ e = mark :: sign ++ digits

/-- A number as the grammar has it. -/
structure Number.Valid (n : Number) : Prop where
  whole : AllDigits n.whole
  first : n.whole = ['0'] ∨ ∃ c ds, n.whole = c :: ds ∧ c ≠ '0'
  fraction : AllDigits n.fraction
  exponent : n.exponent = [] ∨ IsExponent n.exponent

theorem spanDigits_append (hs : AllDigits s) (ht : ∀ c, t.head? = some c → c.isDigit = false) :
    spanDigits (s ++ t) = (s, t) := by
  have hstop : t.takeWhile Char.isDigit = [] ∧ t.dropWhile Char.isDigit = t := by
    cases t with
    | nil => exact ⟨rfl, rfl⟩
    | cons c t => simp [ht c rfl]
  rw [spanDigits, List.takeWhile_append_of_pos hs, List.dropWhile_append_of_pos hs, hstop.1, hstop.2,
    List.append_nil]

theorem scanWhole_append (hs : AllDigits s) (hfirst : s = ['0'] ∨ ∃ c ds, s = c :: ds ∧ c ≠ '0')
    (ht : ∀ c, t.head? = some c → c.isDigit = false) : scanWhole (s ++ t) = some (s, t) := by
  rcases hfirst with rfl | ⟨c, ds, rfl, hc⟩
  · rfl
  · rw [scanWhole]
    · rw [spanDigits_append hs ht, if_neg (by simp)]
    · intro rest h
      exact hc (List.cons.inj h).1

theorem scanFraction_append (hs : AllDigits s) (ht : ∀ c, t.head? = some c → c.isDigit = false ∧ c ≠ '.') :
    scanFraction ((if s = [] then [] else '.' :: s) ++ t) = (s, t) := by
  by_cases hnil : s = []
  · rw [if_pos hnil, List.nil_append, scanFraction, hnil]
    rintro more rfl
    exact (ht '.' rfl).2 rfl
  · rw [if_neg hnil, List.cons_append]
    simp only [scanFraction, spanDigits_append hs fun c hc => (ht c hc).1, if_neg hnil]

theorem scanExponent_append (hs : s = [] ∨ IsExponent s) (ht : EndsNumber t) : scanExponent (s ++ t) = (s, t) := by
  rcases hs with rfl | ⟨mark, sign, digits, hmark, hsign, hdigits, hne, rfl⟩
  · rw [List.nil_append]
    cases t with
    | nil => rfl
    | cons c t =>
        have hc := ht c rfl
        exact if_neg fun h => h.1.elim hc.2.2.1 hc.2.2.2
  · have hspan : spanDigits (digits ++ t) = (digits, t) := spanDigits_append hdigits fun c hc => (ht c hc).1
    have hsigned : ((sign ++ digits ++ t).take 1).filter isSign = sign := by
      rcases hsign with rfl | ⟨c, rfl, hc⟩
      · obtain ⟨d, ds, rfl⟩ := List.exists_cons_of_ne_nil hne
        have hd : isSign d = false := by
          have hdigit := hdigits d List.mem_cons_self
          rw [isSign, Bool.or_eq_false_iff, beq_eq_false_iff_ne, beq_eq_false_iff_ne]
          constructor <;> rintro rfl <;> cases hdigit
        simp [hd]
      · simp [hc]
    show scanExponent (mark :: (sign ++ digits ++ t)) = _
    rw [scanExponent, hsigned]
    simp only [List.append_assoc, List.drop_left, hspan]
    exact if_pos ⟨hmark, hne⟩

theorem Number.Valid.first_digit {n : Number} (hn : n.Valid) : ∃ d ds, n.whole = d :: ds ∧ d.isDigit = true := by
  rcases hn.first with h | ⟨c, ds, h, -⟩
  · exact ⟨_, _, h, by decide⟩
  · exact ⟨c, ds, h, hn.whole c (h ▸ List.mem_cons_self)⟩

/-- A number is read back up to its end. -/
theorem scanNumber_text {n : Number} (hn : n.Valid) (ht : EndsNumber t) : scanNumber (n.text ++ t) = some (n, t) := by
  obtain ⟨negative, whole, fraction, exponent⟩ := n
  have htail : ∀ c, (exponent ++ t).head? = some c → c.isDigit = false ∧ c ≠ '.' := by
    intro c hc
    rcases hn.exponent with h | ⟨mark, sign, digits, hmark, -, -, -, h⟩
    · obtain rfl : exponent = [] := h
      exact ⟨(ht c hc).1, (ht c hc).2.1⟩
    · obtain rfl : exponent = _ := h
      obtain rfl : mark = c := Option.some.inj hc
      rcases hmark with rfl | rfl <;> decide
  have hpoint : ∀ c, ((if fraction = [] then [] else '.' :: fraction) ++ (exponent ++ t)).head? = some c →
      c.isDigit = false := by
    intro c hc
    by_cases hnil : fraction = []
    · rw [if_pos hnil] at hc
      exact (htail c hc).1
    · rw [if_neg hnil] at hc
      cases hc
      decide
  obtain ⟨d, ds, rfl, hd⟩ : ∃ d ds, whole = d :: ds ∧ d.isDigit = true := hn.first_digit
  have hsign : ((Number.text ⟨negative, d :: ds, fraction, exponent⟩ ++ t).head? == some '-') = negative := by
    cases negative with
    | true => rfl
    | false =>
        have hne : d ≠ '-' := by
          rintro rfl
          cases hd
        simpa [Number.text] using hne
  have hdrop : (if negative then (Number.text ⟨negative, d :: ds, fraction, exponent⟩ ++ t).drop 1
      else Number.text ⟨negative, d :: ds, fraction, exponent⟩ ++ t) =
      d :: ds ++ ((if fraction = [] then [] else '.' :: fraction) ++ (exponent ++ t)) := by
    cases negative <;> simp [Number.text]
  have hfraction : scanFraction ((if fraction = [] then [] else '.' :: fraction) ++ (exponent ++ t)) =
      (fraction, exponent ++ t) := scanFraction_append hn.fraction htail
  have hexponent : scanExponent (exponent ++ t) = (exponent, t) := scanExponent_append hn.exponent ht
  rw [scanNumber, hsign, hdrop, scanWhole_append hn.whole hn.first hpoint]
  simp only [Option.bind_eq_bind, Option.bind_some, hfraction, hexponent]
  rfl

/-! ## Values and members -/

def Scalar.Valid (v : Scalar) : Prop := ∀ n, v = .number n → n.Valid

theorem expect_append (w t : List Char) : expect w (w ++ t) = some t := by
  rw [expect, if_pos (List.isPrefixOf_iff_prefix.mpr (List.prefix_append w t)), List.drop_left]

theorem expect_none {w : List Char} (h : ¬ w <+: t) : expect w t = none :=
  if_neg fun hprefix => h (List.isPrefixOf_iff_prefix.mp hprefix)

theorem not_prefix_cons {c d : Char} (h : c ≠ d) (w t : List Char) : ¬ c :: w <+: d :: t := fun hprefix =>
  h (List.cons_prefix_cons.mp hprefix).1

/-- A word begins with a letter, or with a minus and a letter. -/
theorem words_letter : ∀ w ∈ words, ∃ c u, c.isDigit = false ∧ (w.1 = c :: u ∧ c ≠ '-' ∨ w.1 = '-' :: c :: u) := by
  intro w hw
  simp only [words, List.mem_cons, List.not_mem_nil, or_false] at hw
  rcases hw with rfl | rfl | rfl | rfl | rfl | rfl
  · exact ⟨'n', _, by decide, .inl ⟨rfl, by decide⟩⟩
  · exact ⟨'t', _, by decide, .inl ⟨rfl, by decide⟩⟩
  · exact ⟨'f', _, by decide, .inl ⟨rfl, by decide⟩⟩
  · exact ⟨'N', _, by decide, .inl ⟨rfl, by decide⟩⟩
  · exact ⟨'I', _, by decide, .inl ⟨rfl, by decide⟩⟩
  · exact ⟨'I', _, by decide, .inr rfl⟩

theorem ne_of_isDigit {c d : Char} (hc : c.isDigit = false) (hd : d.isDigit = true) : c ≠ d := by
  rintro rfl
  rw [hc] at hd
  cases hd

/-- No word begins like a number. -/
theorem scanWord_number {n : Number} (hn : n.Valid) (t : List Char) : scanWord (n.text ++ t) = none := by
  obtain ⟨d, ds, hwhole, hd⟩ := hn.first_digit
  rw [scanWord, List.findSome?_eq_none_iff]
  intro w hw
  rw [Option.map_eq_none_iff]
  obtain ⟨c, u, hc, hletter⟩ := words_letter w hw
  have hcd : c ≠ d := ne_of_isDigit hc hd
  have hminus : '-' ≠ d := ne_of_isDigit (by decide) hd
  apply expect_none
  rw [Number.text, hwhole]
  cases n.negative with
  | false =>
      rcases hletter with ⟨h, -⟩ | h <;> rw [h]
      · exact not_prefix_cons hcd _ _
      · exact not_prefix_cons hminus _ _
  | true =>
      rcases hletter with ⟨h, hne⟩ | h <;> rw [h]
      · exact not_prefix_cons hne _ _
      · exact fun hprefix => not_prefix_cons hcd _ _ (List.cons_prefix_cons.mp hprefix).2

theorem scanValue_of_ne_quote (hquote : ∀ rest, t ≠ '"' :: rest) :
    scanValue t = (scanWord t).orElse fun _ => (scanNumber t).map fun r => (.number r.1, r.2) := by
  rw [scanValue]
  exact hquote

theorem scanValue_word {v : Scalar} (hv : (v.text, v) ∈ words) (t : List Char) :
    scanValue (v.text ++ t) = some (v, t) := by
  simp only [words, List.mem_cons, List.not_mem_nil, or_false, Prod.mk.injEq] at hv
  rcases hv with ⟨-, rfl⟩ | ⟨-, rfl⟩ | ⟨-, rfl⟩ | ⟨-, rfl⟩ | ⟨-, rfl⟩ | ⟨-, rfl⟩ <;> rfl

/-- A value is read back up to its end. -/
theorem scanValue_text {v : Scalar} (hv : v.Valid) (ht : EndsNumber t) : scanValue (v.text ++ t) = some (v, t) := by
  cases v with
  | null => exact scanValue_word (by decide) t
  | bool b => cases b <;> exact scanValue_word (by decide) t
  | nan => exact scanValue_word (by decide) t
  | infinity negative => cases negative <;> exact scanValue_word (by decide) t
  | string s =>
      have hread := readString_escapes s t
      show (readString (s.flatMap escape ++ ['"'] ++ t)).map _ = _
      rw [List.append_assoc, List.singleton_append, hread]
      rfl
  | number n =>
      have hn : n.Valid := hv n rfl
      obtain ⟨d, ds, hwhole, hd⟩ := hn.first_digit
      have hquote : ∀ rest, n.text ++ t ≠ '"' :: rest := by
        intro rest h
        rw [Number.text, hwhole] at h
        cases hneg : n.negative with
        | true => rw [hneg] at h; cases h
        | false =>
            rw [hneg] at h
            exact ne_of_isDigit (by decide) hd (List.cons.inj h).1.symm
      show scanValue (n.text ++ t) = _
      rw [scanValue_of_ne_quote hquote, scanWord_number hn, scanNumber_text hn ht]
      rfl

theorem skipSpace_cons (hc : isSpace c = false) (t : List Char) : skipSpace (c :: t) = c :: t := by
  rw [skipSpace, List.dropWhile_cons_of_neg (by simp [hc])]

theorem isSpace_digit {d : Char} (hd : d.isDigit = true) : isSpace d = false := by
  have hne : ∀ c : Char, c.isDigit = false → (d == c) = false := fun c hc =>
    beq_eq_false_iff_ne.mpr (ne_of_isDigit hc hd).symm
  rw [isSpace, hne ' ' (by decide), hne '\t' (by decide), hne '\n' (by decide), hne '\r' (by decide)]
  rfl

/-- The text of a value does not begin with a space. -/
theorem skipSpace_text {v : Scalar} (hv : v.Valid) (t : List Char) : skipSpace (v.text ++ t) = v.text ++ t := by
  cases v with
  | null => exact skipSpace_cons (by decide) _
  | bool b => cases b <;> exact skipSpace_cons (by decide) _
  | nan => exact skipSpace_cons (by decide) _
  | infinity negative => cases negative <;> exact skipSpace_cons (by decide) _
  | string s => exact skipSpace_cons (by decide) _
  | number n =>
      have hn : n.Valid := hv n rfl
      obtain ⟨d, ds, hwhole, hd⟩ := hn.first_digit
      show skipSpace (n.text ++ t) = n.text ++ t
      rw [Number.text, hwhole]
      cases n.negative with
      | true => exact skipSpace_cons (by decide) _
      | false => exact skipSpace_cons (isSpace_digit hd) _

theorem scanMember_write {m : List Char × Scalar} (hm : m.2.Valid) (ht : EndsNumber t) :
    scanMember (writeMember m ++ t) = some (m, skipSpace t) := by
  obtain ⟨name, value⟩ := m
  have hmember : writeMember (name, value) ++ t =
      ['"'] ++ (name.flatMap escape ++ '"' :: ([':'] ++ ' ' :: (value.text ++ t))) := by
    simp [writeMember, writeString]
  have hcolon : skipSpace ([':'] ++ ' ' :: (value.text ++ t)) = [':'] ++ ' ' :: (value.text ++ t) :=
    skipSpace_cons (by decide) _
  have hvalue : skipSpace (' ' :: (value.text ++ t)) = value.text ++ t := skipSpace_text hm t
  rw [hmember, scanMember, expect_append]
  simp only [Option.bind_eq_bind, Option.bind_some, readString_escapes, hcolon, expect_append, hvalue,
    scanValue_text hm ht]
  rfl

/-! ## Objects -/

theorem EndsNumber.cons (hc : c.isDigit = false ∧ c ≠ '.' ∧ c ≠ 'e' ∧ c ≠ 'E') : EndsNumber (c :: t) := by
  rintro d ⟨⟩
  exact hc

theorem writeMember_cons (m : List Char × Scalar) : ∃ u, writeMember m = '"' :: u := ⟨_, rfl⟩

theorem joinMembers_cons (m : List Char × Scalar) (ms : Members) : ∃ u, joinMembers (m :: ms) = '"' :: u := by
  obtain ⟨u, hu⟩ := writeMember_cons m
  cases ms with
  | nil => exact ⟨u, hu⟩
  | cons n ms => exact ⟨_, by rw [joinMembers, hu]; rfl⟩

theorem scanMembers_join {m : List Char × Scalar} {ms : Members} (h : ∀ e ∈ m :: ms, e.2.Valid) {fuel : Nat}
    (hfuel : ms.length < fuel) (rest : List Char) :
    scanMembers fuel (joinMembers (m :: ms) ++ '}' :: rest) = some (m :: ms, rest) := by
  obtain ⟨fuel, rfl⟩ : ∃ k, fuel = k + 1 := ⟨fuel - 1, by omega⟩
  have hm : m.2.Valid := h m List.mem_cons_self
  induction ms generalizing m fuel with
  | nil =>
      rw [joinMembers, scanMembers, scanMember_write hm (EndsNumber.cons (by decide)),
        skipSpace_cons (by decide)]
      rfl
  | cons n ms ih =>
      obtain ⟨fuel, rfl⟩ : ∃ k, fuel = k + 1 := ⟨fuel - 1, by simp at hfuel; omega⟩
      have hnext := ih (fun e he => h e (List.mem_cons_of_mem _ he)) fuel (by simpa using hfuel)
        (h n (by simp))
      have hspace : skipSpace (' ' :: (joinMembers (n :: ms) ++ '}' :: rest)) =
          joinMembers (n :: ms) ++ '}' :: rest := by
        obtain ⟨u, hu⟩ := joinMembers_cons n ms
        rw [hu]
        rfl
      rw [joinMembers, List.append_assoc, scanMembers, List.cons_append, List.cons_append,
        scanMember_write hm (EndsNumber.cons (by decide)), skipSpace_cons (by decide)]
      simp only [Option.bind_eq_bind, Option.bind_some, hspace, hnext]
      rfl

theorem length_le_joinMembers (ms : Members) : ms.length ≤ (joinMembers ms).length := by
  induction ms with
  | nil => exact Nat.le_refl 0
  | cons m ms ih =>
      obtain ⟨u, hu⟩ := writeMember_cons m
      cases ms with
      | nil =>
          rw [joinMembers, hu]
          simp
      | cons n ms =>
          rw [joinMembers, hu]
          simp only [List.length_cons, List.length_append] at ih ⊢
          omega

theorem scanObject_dumps {o : Members} (h : ∀ e ∈ o, e.2.Valid) (rest : List Char) :
    scanObject (dumps o ++ rest) = some (o, rest) := by
  have htext : dumps o ++ rest = ['{'] ++ (joinMembers o ++ '}' :: rest) := by simp [dumps]
  rw [htext, scanObject, expect_append]
  cases o with
  | nil => rfl
  | cons m ms =>
      obtain ⟨u, hu⟩ := joinMembers_cons m ms
      have hspace : skipSpace (joinMembers (m :: ms) ++ '}' :: rest) = '"' :: (u ++ '}' :: rest) := by
        rw [hu]
        rfl
      have hlong := length_le_joinMembers (m :: ms)
      simp only [Option.bind_eq_bind, Option.bind_some, hspace]
      show scanMembers _ ('"' :: u ++ '}' :: rest) = _
      rw [← hu]
      refine scanMembers_join h ?_ rest
      rw [hu] at hlong
      simp only [List.length_cons, List.length_append] at hlong ⊢
      omega

/-- An object is read back, with white space behind it or not. -/
theorem loads_dumps {o : Members} (h : ∀ e ∈ o, e.2.Valid) {space : List Char} (hspace : skipSpace space = []) :
    loads (dumps o ++ space) = some o := by
  have hfirst : skipSpace (dumps o ++ space) = dumps o ++ space := skipSpace_cons (by decide) _
  rw [loads, hfirst, scanObject_dumps h]
  exact if_pos hspace

/-! ## One line -/

/-- The text has no control character, hence no line break. -/
def Printable (t : List Char) : Prop := ∀ c ∈ t, ¬ c < ' '

theorem Printable.append (hs : Printable s) (ht : Printable t) : Printable (s ++ t) := fun c hc =>
  (List.mem_append.mp hc).elim (hs c) (ht c)

theorem Printable.cons (hc : ¬ c < ' ') (ht : Printable t) : Printable (c :: t) := fun d hd =>
  (List.mem_cons.mp hd).elim (fun h => h ▸ hc) (ht d)

theorem Printable.nil : Printable [] := fun _ hc => absurd hc List.not_mem_nil

theorem digit_printable (hc : c.isDigit = true) : ¬ c < ' ' := by
  intro hlt
  have hlow : c.toNat < 32 := toNat_lt_space hlt
  simp only [Char.isDigit, Bool.and_eq_true, decide_eq_true_eq] at hc
  have hge : 48 ≤ c.toNat := hc.1
  omega

theorem AllDigits.printable (hs : AllDigits s) : Printable s := fun c hc => digit_printable (hs c hc)

theorem escape_printable (c : Char) : Printable (escape c) := by
  rw [escape]
  cases hfind : shortEscapes.find? fun e => e.2 == c with
  | some e =>
      have hletter : ∀ e ∈ shortEscapes, ¬ e.1 < ' ' := by decide
      exact .cons (by decide) (.cons (hletter e (List.mem_of_find?_eq_some hfind)) .nil)
  | none =>
      dsimp only
      split
      · exact .cons (by decide) (.cons (by decide) (.cons (by decide) (.cons (by decide)
          (.cons (hexDigit_printable _) (.cons (hexDigit_printable _) .nil)))))
      · exact .cons ‹_› .nil

theorem writeString_printable (s : List Char) : Printable (writeString s) := by
  refine .cons (by decide) (.append ?_ (.cons (by decide) .nil))
  intro c hc
  obtain ⟨d, -, hd⟩ := List.mem_flatMap.mp hc
  exact escape_printable d c hd

theorem Number.Valid.printable {n : Number} (hn : n.Valid) : Printable n.text := by
  have hsign : Printable (if n.negative then ['-'] else []) := by
    split
    · exact .cons (by decide) .nil
    · exact .nil
  have hfraction : Printable (if n.fraction = [] then [] else '.' :: n.fraction) := by
    split
    · exact .nil
    · exact .cons (by decide) hn.fraction.printable
  have hexponent : Printable n.exponent := by
    rcases hn.exponent with h | ⟨mark, sign, digits, hmark, hsign, hdigits, -, h⟩
    · exact h ▸ .nil
    · rw [h]
      refine .append (.cons ?_ ?_) hdigits.printable
      · rcases hmark with rfl | rfl <;> decide
      · rcases hsign with rfl | ⟨c, rfl, hc⟩
        · exact .nil
        · simp only [isSign, Bool.or_eq_true, beq_iff_eq] at hc
          rcases hc with rfl | rfl <;> exact .cons (by decide) .nil
  exact ((hsign.append hn.whole.printable).append hfraction).append hexponent

theorem printable_of_all (h : t.all (fun c => !decide (c < ' ')) = true) : Printable t := fun c hc =>
  of_decide_eq_false (by simpa using List.all_eq_true.mp h c hc)

theorem Scalar.Valid.printable {v : Scalar} (hv : v.Valid) : Printable v.text := by
  cases v with
  | string s => exact writeString_printable s
  | number n => exact (hv n rfl).printable
  | null => exact printable_of_all rfl
  | bool b => cases b <;> exact printable_of_all rfl
  | nan => exact printable_of_all rfl
  | infinity negative => cases negative <;> exact printable_of_all rfl

theorem writeMember_printable {m : List Char × Scalar} (hm : m.2.Valid) : Printable (writeMember m) :=
  (writeString_printable m.1).append (.cons (by decide) (.cons (by decide) hm.printable))

theorem dumps_printable {o : Members} (h : ∀ e ∈ o, e.2.Valid) : Printable (dumps o) := by
  have hjoin : Printable (joinMembers o) := by
    induction o with
    | nil => exact .nil
    | cons m ms ih =>
        have hm := writeMember_printable (h m List.mem_cons_self)
        cases ms with
        | nil => exact hm
        | cons n ms =>
            exact hm.append (.cons (by decide) (.cons (by decide)
              (ih fun e he => h e (List.mem_cons_of_mem _ he))))
  exact .cons (by decide) (hjoin.append (.cons (by decide) .nil))

end SartoriusLib.Lib.Json
