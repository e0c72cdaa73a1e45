import SartoriusLib.Protocol.Sbi.Parser
import Mathlib.Data.List.TakeWhile

/-!
# How a line of text is read

A line with a digit is a refusal or is read as the weight pattern matches it; a line without a digit is an
off-scale marker or carries no reading. In a match the number is where the last digits of the line are.
-/

namespace SartoriusLib.Sbi

open SartoriusLib Lib

/-! ## Lines of ASCII text -/

/-- The line that prints `t`. -/
def asciiLine (t : Text) : Bytes := (t.map fun c => UInt8.ofNat c.toNat) ++ lineTerminator

/-- The reading that `parse_line` attaches to a line. -/
def readingOf (raw : Bytes) : Option Reading :=
  match parseLine raw with
  | .ok line => line.reading
  | .error _ => none

def IsAscii (t : Text) : Prop := ∀ c ∈ t, c.toNat < 128

theorem isAscii_of_all {t : Text} (h : (t.all fun c => c.toNat < 128) = true) : IsAscii t := by
  simpa [IsAscii] using h

theorem IsAscii.append {s t : Text} (hs : IsAscii s) (ht : IsAscii t) : IsAscii (s ++ t) :=
  fun c hc => (List.mem_append.mp hc).elim (hs c) (ht c)

theorem stripLineTerminator_append (b : Bytes) : stripLineTerminator (b ++ lineTerminator) = b := by
  have h : Bytes.endsWith (b ++ lineTerminator) lineTerminator = true := by
    simp [Bytes.endsWith]
  rw [stripLineTerminator, if_pos h]
  simp [lineTerminator]

theorem ofNat_toNat_ascii {c : Char} (h : c.toNat < 128) :
    (UInt8.ofNat c.toNat).toNat = c.toNat ∧ UInt8.ofNat c.toNat < 128 := by
  have hnat : (UInt8.ofNat c.toNat).toNat = c.toNat := by
    rw [UInt8.toNat_ofNat', Nat.mod_eq_of_lt (by omega)]
  exact ⟨hnat, by rw [UInt8.lt_iff_toNat_lt, hnat]; exact h⟩

theorem decodeAsciiReplace_asciiLine {t : Text} (h : IsAscii t) :
    decodeAsciiReplace (stripLineTerminator (asciiLine t)) = t := by
  rw [asciiLine, stripLineTerminator_append, decodeAsciiReplace, List.map_map]
  conv_rhs => rw [← List.map_id t]
  refine List.map_congr_left fun c hc => ?_
  obtain ⟨hnat, hlt⟩ := ofNat_toNat_ascii (h c hc)
  simp only [Function.comp, hnat, hlt, if_true, Char.ofNat_toNat, id]

theorem decodeAscii_asciiLine {t : Text} (h : IsAscii t) :
    decodeAscii (stripLineTerminator (asciiLine t)) = some t := by
  have hall : (t.map fun c => UInt8.ofNat c.toNat).all (· < 128) = true := by
    simp only [List.all_map, List.all_eq_true]
    exact fun c hc => by simpa using (ofNat_toNat_ascii (h c hc)).2
  rw [asciiLine, stripLineTerminator_append, decodeAscii, if_pos hall, List.map_map]
  congr 1
  conv_rhs => rw [← List.map_id t]
  refine List.map_congr_left fun c hc => ?_
  simp only [Function.comp, (ofNat_toNat_ascii (h c hc)).1, Char.ofNat_toNat, id]

/-- A refusal by its text. -/
def refused (t : Text) : Bool := isRefusalMarker (statusMarker (Text.strip t))

/-- An off-scale marker by its text. -/
def offScale (t : Text) : Bool :=
  overloadMarkers.contains (statusMarker (Text.strip t)) ||
    underloadMarkers.contains (statusMarker (Text.strip t))

theorem isSpace_of_isDigit {d : Char} (h : isDigit d = true) : Text.isSpace d = false := by
  simp only [isDigit, Bool.decide_and, Bool.and_eq_true, decide_eq_true_eq, Char.le_def] at h
  have h₀ : 48 ≤ d.toNat := h.1
  have h₁ : d.toNat ≤ 57 := h.2
  simp only [Text.isSpace, Bool.or_eq_false_iff, Bool.and_eq_false_iff, decide_eq_false_iff_not,
    beq_eq_false_iff_ne]
  omega

theorem upperChar_of_isDigit {d : Char} (h : isDigit d = true) : Text.upperChar d = d := by
  simp only [isDigit, Bool.decide_and, Bool.and_eq_true, decide_eq_true_eq, Char.le_def] at h
  have h₁ : d.toNat ≤ 57 := h.2
  have hlow : ¬ ('a' ≤ d ∧ d ≤ 'z') := fun hl => by
    have : 97 ≤ d.toNat := hl.1
    omega
  rw [Text.upperChar, if_neg hlow, if_neg (by omega)]

/-- The digits of a line are in its marker. -/
theorem mem_statusMarker {d : Char} {t : Text} (hd : isDigit d = true) (h : d ∈ t) :
    d ∈ statusMarker (Text.strip t) := by
  have hs := isSpace_of_isDigit hd
  have hupper : d ∈ Text.upper (Text.strip t) :=
    List.mem_map.mpr ⟨d, Text.mem_strip h hs, upperChar_of_isDigit hd⟩
  obtain ⟨w, hw, hdw⟩ := Text.mem_splitLoop hs [] (.inr hupper)
  have hjoin : d ∈ Text.join " ".toList (Text.split (Text.upper (Text.strip t))) := Text.mem_join hw hdw
  unfold statusMarker
  dsimp only
  split
  · rename_i hstat
    refine Text.mem_strip ?_ hs
    rw [Text.removePrefix, if_pos hstat]
    have hpre := List.isPrefixOf_iff_prefix.mp hstat
    obtain ⟨rest, hrest⟩ := hpre
    rw [← hrest, List.drop_left]
    have hjoin' : d ∈ "STAT ".toList ++ rest := hrest ▸ hjoin
    have hstat' : ∀ c ∈ "STAT ".toList, isDigit c = false := Text.forall_false_of_any (by decide)
    rcases List.mem_append.mp hjoin' with hin | hin
    · rw [hstat' d hin] at hd
      cases hd
    · exact hin
  · exact hjoin

theorem markers_noDigit : ∀ m ∈ overloadMarkers ++ underloadMarkers ++ specialNonWeightMarkers ++
    refusalMarkers, ∀ c ∈ m, isDigit c = false :=
  Text.forall_forall_false_of_any (by decide)

theorem offScaleMarkers_accepted : ∀ m ∈ overloadMarkers ++ underloadMarkers,
    isRefusalMarker m = false ∧ specialNonWeightMarkers.contains m = false := by decide

theorem contains_false_of_digit {l : List Text} {m : Text} {d : Char} (hd : isDigit d = true) (h : d ∈ m)
    (hl : ∀ m ∈ l, ∀ c ∈ m, isDigit c = false) : l.contains m = false := by
  rw [Bool.eq_false_iff]
  intro hm
  rw [hl m (List.contains_iff_mem.mp hm) d h] at hd
  cases hd

/-- A line with a digit is refused, or reads as the weight pattern matches. -/
theorem readingOf_digit {t : Text} (ht : IsAscii t) {d : Char} (hd : isDigit d = true) (h : d ∈ t) :
    readingOf (asciiLine t) = if refused t then none else
      match weightRe.fullmatch t with
      | none => none
      | some m => if isBareNumberFragment t m then none else some (weightReading m (asciiLine t)) := by
  have hm := mem_statusMarker hd h
  have hover : overloadMarkers.contains (statusMarker (Text.strip t)) = false :=
    contains_false_of_digit hd hm fun m h => markers_noDigit m (by simp [h])
  have hunder : underloadMarkers.contains (statusMarker (Text.strip t)) = false :=
    contains_false_of_digit hd hm fun m h => markers_noDigit m (by simp [h])
  have hspecial : specialNonWeightMarkers.contains (statusMarker (Text.strip t)) = false :=
    contains_false_of_digit hd hm fun m h => markers_noDigit m (by simp [h])
  have hne : Text.strip t ≠ [] := List.ne_nil_of_mem (Text.mem_strip h (isSpace_of_isDigit hd))
  simp only [readingOf, parseLine, decodeAscii_asciiLine ht, if_neg hne, hspecial, looksLikeWeight,
    parseWeightLine, hover, hunder, decodeAsciiReplace_asciiLine ht, Bool.false_or]
  cases hr : refused t with
  | true => simp only [show isRefusalMarker (statusMarker (Text.strip t)) = true from hr, if_true]
  | false =>
      simp only [show isRefusalMarker (statusMarker (Text.strip t)) = false from hr, Bool.false_eq_true,
        if_false]
      cases weightRe.fullmatch t with
      | none => rfl
      | some m => cases hb : isBareNumberFragment t m <;> simp [hb, Except.map]

theorem numberRe_digit {t : Text} (h : Re.Matches (numberRe (ν := WeightGroup)) t []) :
    ∃ d ∈ t, isDigit d = true := by
  simp only [numberRe, Re.chr, Re.Matches, Re.matches_some, Re.matches_one, Re.matches_many] at h
  rcases h with ⟨t₁, c₁, t₂, c₂, rfl, -, ⟨hd, hne, -⟩, -⟩ | ⟨t₁, c₁, t₂, c₂, rfl, -, -, hd, hne, -⟩
  · obtain ⟨d, t₁, rfl⟩ := List.exists_cons_of_ne_nil hne
    exact ⟨d, by simp, hd d (by simp)⟩
  · obtain ⟨d, t₂, rfl⟩ := List.exists_cons_of_ne_nil hne
    exact ⟨d, by simp, hd d (by simp)⟩

theorem weightRe_digit {t : Text} {m : Re.Captures WeightGroup} (h : weightRe.fullmatch t = some m) :
    ∃ d ∈ t, isDigit d = true := by
  obtain ⟨p, hp, rfl, -⟩ := weightRe_matches_iff.mp (Re.matches_of_fullmatch h)
  obtain ⟨d, hd, hdigit⟩ := numberRe_digit hp.number
  exact ⟨d, by simp [WeightParse.text, hd], hdigit⟩

/-- A line without a digit reads as an off-scale marker or not at all. -/
theorem readingOf_noDigit {t : Text} (ht : IsAscii t) (h : ∀ c ∈ t, isDigit c = false) :
    (readingOf (asciiLine t) = none ↔ offScale t = false) ∧
      ∀ r, readingOf (asciiLine t) = some r → r.value = none := by
  have hmatch : weightRe.fullmatch t = none := by
    cases hm : weightRe.fullmatch t with
    | none => rfl
    | some m =>
        obtain ⟨d, hd, hdigit⟩ := weightRe_digit hm
        rw [h d hd] at hdigit
        cases hdigit
  simp only [readingOf, parseLine, decodeAscii_asciiLine ht, looksLikeWeight, parseWeightLine,
    decodeAsciiReplace_asciiLine ht, hmatch, Bool.or_false]
  by_cases hne : Text.strip t = []
  · have hoff : offScale t = false := by rw [offScale, hne]; decide
    simp [hne, hoff]
  · rw [if_neg hne]
    cases hoff : offScale t with
    | false =>
        rw [show (overloadMarkers.contains (statusMarker (Text.strip t)) ||
          underloadMarkers.contains (statusMarker (Text.strip t))) = false from hoff]
        split <;> rename_i heq
        · split_ifs at heq <;> first | contradiction | (cases heq; simp)
        · simp
    | true =>
        have hmem : statusMarker (Text.strip t) ∈ overloadMarkers ++ underloadMarkers := by
          simpa [offScale] using hoff
        obtain ⟨hr, hspecial⟩ := offScaleMarkers_accepted _ hmem
        rw [show (overloadMarkers.contains (statusMarker (Text.strip t)) ||
          underloadMarkers.contains (statusMarker (Text.strip t))) = true from hoff]
        simp only [hr, hspecial, Bool.false_eq_true, if_false, if_true, Except.map, offScaleReading]
        simp

/-! ## Disjoint character classes -/

theorem isSpace_of_isLetter {c : Char} (h : isLetter c = true) : Text.isSpace c = false := by
  simp only [isLetter, Bool.decide_or, Bool.decide_and, Bool.or_eq_true, Bool.and_eq_true,
    decide_eq_true_eq, Char.le_def] at h
  have hlow : 65 ≤ c.toNat ∧ c.toNat ≤ 122 := by
    rcases h with ⟨h₀, h₁⟩ | ⟨h₀, h₁⟩
    · exact ⟨h₀, Nat.le_trans (show c.toNat ≤ 90 from h₁) (by decide)⟩
    · exact ⟨Nat.le_trans (by decide) (show 97 ≤ c.toNat from h₀), h₁⟩
  simp only [Text.isSpace, Bool.or_eq_false_iff, Bool.and_eq_false_iff, decide_eq_false_iff_not,
    beq_eq_false_iff_ne]
  omega

theorem isSignChar_disjoint {c : Char} (h : isSignChar c = true) :
    Text.isSpace c = false ∧ isIdChar c = false ∧ isLetter c = false ∧ c ≠ '?' := by
  simp only [isSignChar, Bool.or_eq_true, beq_iff_eq] at h
  rcases h with rfl | rfl <;> decide

theorem isDigit_of_isUnitChar {c : Char} (h : isUnitChar c = true) : isDigit c = false := by
  cases hd : isDigit c with
  | false => rfl
  | true =>
      simp only [isDigit, Bool.decide_and, Bool.and_eq_true, decide_eq_true_eq, Char.le_def] at hd
      have h₀ : 48 ≤ c.toNat := hd.1
      have h₁ : c.toNat ≤ 57 := hd.2
      simp only [isUnitChar, isLetter, Bool.or_eq_true, Bool.decide_or, Bool.decide_and, Bool.and_eq_true,
        decide_eq_true_eq, beq_iff_eq, Char.le_def] at h
      rcases h with ((((⟨h, -⟩ | ⟨h, -⟩) | rfl) | rfl) | rfl) | rfl
      · have : 65 ≤ c.toNat := h
        omega
      · have : 97 ≤ c.toNat := h
        omega
      · exact absurd h₁ (by decide)
      · exact absurd h₀ (by decide)
      · exact absurd h₁ (by decide)
      · exact absurd h₀ (by decide)

/-! ## The place of the number in a weight line -/

def isNumChar (c : Char) : Bool := isDigit c || c == '.'

theorem isDigit_of_isNumChar {c : Char} (h : isNumChar c = true) (hp : c ≠ '.') : isDigit c = true := by
  simpa [isNumChar, hp] using h

theorem numberRe_chars {t : Text} (h : Re.Matches (numberRe (ν := WeightGroup)) t []) :
    ∀ c ∈ t, isNumChar c = true := by
  simp only [numberRe, Re.chr, Re.Matches, Re.matches_some, Re.matches_one, Re.matches_many] at h
  intro c hc
  simp only [isNumChar]
  grind

/-- No character of a class ends the text. -/
def EndsOutside (p : Char → Bool) (t : Text) : Prop := ∀ c ∈ t.getLast?, p c = false

theorem EndsOutside.append {p : Char → Bool} {s t : Text} (hs : EndsOutside p s) (ht : EndsOutside p t) :
    EndsOutside p (s ++ t) := by
  intro c hc
  rw [List.getLast?_append, Option.mem_def, Option.or_eq_some_iff] at hc
  rcases hc with hc | ⟨-, hc⟩
  · exact ht c hc
  · exact hs c hc

theorem EndsOutside.of_forall {p : Char → Bool} {t : Text} (h : ∀ c ∈ t, p c = false) : EndsOutside p t :=
  fun c hc => h c (List.mem_of_getLast? hc)

theorem isNumChar_of_isSpace {c : Char} (h : Text.isSpace c = true) : isNumChar c = false := by
  cases hn : isNumChar c with
  | false => rfl
  | true =>
      by_cases hp : c = '.'
      · subst hp; cases h
      · rw [isSpace_of_isDigit (isDigit_of_isNumChar hn hp)] at h
        cases h

theorem isNumChar_of_isSignChar {c : Char} (h : isSignChar c = true) : isNumChar c = false := by
  simp only [isSignChar, Bool.or_eq_true, beq_iff_eq] at h
  rcases h with rfl | rfl <;> rfl

theorem upperChar_of_isNumChar {c : Char} (h : isNumChar c = true) : Text.upperChar c = c := by
  by_cases hp : c = '.'
  · rw [hp]; rfl
  · exact upperChar_of_isDigit (isDigit_of_isNumChar h hp)

/-- A number or its sign can start with it. -/
def startsValue (c : Char) : Bool := isNumChar c || isSignChar c

theorem isSpace_of_startsValue {c : Char} (h : startsValue c = true) : Text.isSpace c = false := by
  rcases Bool.or_eq_true_iff.mp h with h | h
  · cases hs : Text.isSpace c with
    | false => rfl
    | true => rw [isNumChar_of_isSpace hs] at h; cases h
  · exact (isSignChar_disjoint h).1

theorem upperChar_of_startsValue {c : Char} (h : startsValue c = true) : Text.upperChar c = c := by
  rcases Bool.or_eq_true_iff.mp h with h | h
  · exact upperChar_of_isNumChar h
  · simp only [isSignChar, Bool.or_eq_true, beq_iff_eq] at h
    rcases h with rfl | rfl <;> rfl

theorem markers_head : ∀ m ∈ "STAT ".toList :: "ERR ".toList :: refusalMarkers,
    ∃ c t, m = c :: t ∧ startsValue c = false := by
  intro m hm
  simp only [refusalMarkers, List.mem_cons, List.not_mem_nil, or_false] at hm
  rcases hm with rfl | rfl | rfl | rfl | rfl | rfl | rfl | rfl | rfl | rfl | rfl <;>
    exact ⟨_, _, rfl, by decide⟩

/-- No marker and no prefix of one starts a value. -/
theorem not_marker_of_startsValue {c : Char} (hc : startsValue c = true) (v : Text) :
    ∀ m ∈ "STAT ".toList :: "ERR ".toList :: refusalMarkers, Text.startsWith (c :: v) m = false ∧ c :: v ≠ m := by
  intro m hm
  obtain ⟨x, t, rfl, hx⟩ := markers_head m hm
  have hne : x ≠ c := by
    rintro rfl
    rw [hc] at hx
    cases hx
  exact ⟨by simp [Text.startsWith, List.isPrefixOf, hne], fun h => hne (List.cons.inj h).1.symm⟩

theorem isRefusalMarker_of_startsValue {c : Char} (hc : startsValue c = true) (v : Text) :
    isRefusalMarker (c :: v) = false := by
  have hpre := not_marker_of_startsValue hc v
  have hcontains : refusalMarkers.contains (c :: v) = false := by
    rw [Bool.eq_false_iff]
    intro hm
    exact (hpre _ (by simp [List.contains_iff_mem.mp hm])).2 rfl
  rw [isRefusalMarker, hcontains, (hpre "ERR ".toList (by simp)).1]
  rfl

/-- The marker of a text that starts with a value starts with it too. -/
theorem statusMarker_of_startsValue (rest : Text) {b : Text} {c : Char} (hb : WeightParse.AllSpace b)
    (hc : startsValue c = true) : ∃ v, statusMarker (Text.strip (b ++ c :: rest)) = c :: v := by
  have hspace := isSpace_of_startsValue hc
  have hstrip : Text.strip (b ++ c :: rest) = c :: Text.rstrip rest := by
    rw [Text.strip, Text.lstrip_append hb, Text.lstrip_cons hspace, Text.rstrip_cons hspace]
  obtain ⟨v, hv⟩ := Text.join_split_head (c := c) (t := Text.upper (Text.rstrip rest)) hspace " ".toList
  refine ⟨v, ?_⟩
  rw [hstrip, statusMarker]
  simp only [Text.upper, List.map_cons, upperChar_of_startsValue hc]
  rw [show List.map Text.upperChar (Text.rstrip rest) = Text.upper (Text.rstrip rest) from rfl, hv,
    (not_marker_of_startsValue hc v _ (by simp)).1]
  rfl

/-- A text that starts with a value is no refusal. -/
theorem refused_of_startsValue {b rest : Text} {c : Char} (hb : WeightParse.AllSpace b) (hc : startsValue c = true) :
    refused (b ++ c :: rest) = false := by
  obtain ⟨v, hv⟩ := statusMarker_of_startsValue rest hb hc
  rw [refused, hv, isRefusalMarker_of_startsValue hc]

/-- ... and no off-scale marker. -/
theorem offScale_of_startsValue {b rest : Text} {c : Char} (hb : WeightParse.AllSpace b) (hc : startsValue c = true) :
    offScale (b ++ c :: rest) = false := by
  obtain ⟨v, hv⟩ := statusMarker_of_startsValue rest hb hc
  have hhead : ∀ m ∈ overloadMarkers ++ underloadMarkers, ∀ x ∈ m.head?, startsValue x = false := by
    simp [overloadMarkers, underloadMarkers, startsValue]
    decide
  cases hoff : offScale (b ++ c :: rest) with
  | false => rfl
  | true =>
      have hmem : statusMarker (Text.strip (b ++ c :: rest)) ∈ overloadMarkers ++ underloadMarkers := by
        simpa [offScale] using hoff
      rw [hv] at hmem
      rw [hhead _ hmem c rfl] at hc
      cases hc

/-- A text whose first character belongs to a number is no refusal. -/
theorem refused_of_number {b rest : Text} {c : Char} (hb : WeightParse.AllSpace b) (hc : isNumChar c = true) :
    refused (b ++ c :: rest) = false :=
  refused_of_startsValue hb (Bool.or_eq_true_iff.mpr (.inl hc))

namespace WeightParse

variable {p : WeightParse}

theorem front_endsOutside (hp : p.Valid) : EndsOutside isNumChar p.front := by
  have hspace : ∀ {t}, AllSpace t → EndsOutside isNumChar t := fun h =>
    .of_forall fun c hc => isNumChar_of_isSpace (h c hc)
  refine (hspace hp.blank₁).append (.append ?_ ((hspace hp.blank₂).append (.append ?_ (.append ?_
    (hspace hp.blank₃)))))
  · cases p.unstable <;> exact .of_forall (Text.forall_false_of_any (by decide))
  · cases hid : p.id with
    | none => exact .of_forall (by simp)
    | some i =>
        obtain ⟨-, hw, hne⟩ := hp.id i.1 i.2 hid
        intro c hc
        rw [Option.elim, List.getLast?_append_of_ne_nil _ hne] at hc
        exact isNumChar_of_isSpace (hw c (List.mem_of_getLast? hc))
  · cases hs : p.sign with
    | none => exact .of_forall (by simp)
    | some c => exact .of_forall (by simpa using isNumChar_of_isSignChar (hp.sign c hs))

theorem back_chars (hp : p.Valid) : ∀ c ∈ p.back, Text.isSpace c = true ∨ isUnitChar c = true := by
  intro c hc
  simp only [back, List.mem_append] at hc
  rcases hc with hc | hc | hc
  · exact .inl (hp.blank₄ c hc)
  · cases hu : p.unit with
    | none => simp [hu] at hc
    | some u => exact .inr ((hp.unit u hu).1 c (by simpa [hu] using hc))
  · exact .inl (hp.blank₅ c hc)

theorem back_noDigit (hp : p.Valid) : ∀ c ∈ p.back, isDigit c = false := by
  intro c hc
  rcases p.back_chars hp c hc with h | h
  · cases hd : isDigit c with
    | false => rfl
    | true => rw [isSpace_of_isDigit hd] at h; cases h
  · exact isDigit_of_isUnitChar h

/-- What stands before the number of a weight line is what stands before its last run of digits. -/
theorem front_unique (hp : p.Valid) {X N M : Text} (hX : EndsOutside isNumChar X)
    (hN : ∀ c ∈ N, isNumChar c = true) (hN' : ∃ d ∈ N, isDigit d = true) (hM : ∀ c ∈ M, isDigit c = false)
    (h : p.text = X ++ (N ++ M)) : p.front = X := by
  have hnum := numberRe_chars hp.number
  have hback := back_noDigit hp
  have hfront := front_endsOutside hp
  obtain ⟨e, heN, he⟩ := numberRe_digit hp.number
  obtain ⟨d, hdN, hdigit⟩ := hN'
  rw [text, List.append_eq_append_iff] at h
  rcases h with ⟨Y, rfl, hrest⟩ | ⟨Y, hY, hrest⟩
  · rcases List.eq_nil_or_concat Y with rfl | ⟨Y, y, rfl⟩
    · simp
    -- the number begins inside `X`, so it cannot reach past the last character of `X`
    · have hy : isNumChar y = false := hX y (by simp)
      rw [List.append_eq_append_iff] at hrest
      rcases hrest with ⟨Z, hZ, hback'⟩ | ⟨Z, hZ, -⟩
      · rw [hback d (by rw [hback']; simp [hdN])] at hdigit
        cases hdigit
      · rw [hnum y (by rw [hZ]; simp)] at hy
        cases hy
  · rcases List.eq_nil_or_concat Y with rfl | ⟨Y, y, rfl⟩
    · simpa using hY
    -- the front ends inside the number or after it
    · have hy : isNumChar y = false := hfront y (by rw [hY]; simp)
      rw [List.append_eq_append_iff] at hrest
      rcases hrest with ⟨Z, hZ, hM_eq⟩ | ⟨Z, hZ, -⟩
      · rw [hM e (by rw [hM_eq]; simp [heN])] at he
        cases he
      · rw [hN y (by rw [hZ]; simp)] at hy
        cases hy

/-- The only sign before the number is the one that is captured. -/
theorem sign_eq_of_mem_front (hp : p.Valid) {c : Char} (hc : c ∈ p.front) (hs : isSignChar c = true) :
    p.sign = some c := by
  obtain ⟨hspace, hid⟩ := isSignChar_disjoint hs
  have hblank : ∀ {t}, AllSpace t → c ∉ t := fun h hc => by
    rw [h c hc] at hspace
    cases hspace
  simp only [front, List.mem_append] at hc
  rcases hc with hc | hc | hc | hc | hc | hc
  · exact absurd hc (hblank hp.blank₁)
  · cases hq : p.unstable <;> simp [hq, hid.2.2] at hc
  · exact absurd hc (hblank hp.blank₂)
  · cases hi : p.id with
    | none => simp [hi] at hc
    | some iw =>
        obtain ⟨⟨x, t, hx, hletter, ht, -⟩, hw, -⟩ := hp.id iw.1 iw.2 hi
        simp only [hi, Option.elim, hx, List.mem_append, List.mem_cons] at hc
        rcases hc with (rfl | hc) | hc
        · rw [hletter] at hid
          simp at hid
        · rw [ht c hc] at hid
          simp at hid
        · exact absurd hc (hblank hw)
  · simpa using hc
  · exact absurd hc (hblank hp.blank₃)

theorem mem_front_of_sign_eq {c : Char} (h : p.sign = some c) : c ∈ p.front := by
  simp [front, h]

end WeightParse

end SartoriusLib.Sbi
