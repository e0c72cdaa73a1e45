import SartoriusLib.Protocol.Sbi.Lines

/-!
# The parser and the autoprint test

Two patterns, two rules for a bare number and the marker tables of two files decide what a line is. The
patterns and the rules say the same; the tables do not, and only the parser looks for a refusal first.
-/

namespace SartoriusLib.Sbi

open SartoriusLib Lib

/-! ## Numbers -/

def AllDigits (t : Text) : Prop := ∀ c ∈ t, isDigit c = true

/-- Digits with or without a point and further digits, or a point with digits after it. -/
inductive IsNumber : Text → Prop where
  | whole {ds : Text} (h : AllDigits ds) (hne : ds ≠ []) : IsNumber ds
  | point {ds ds' : Text} (h : AllDigits ds) (hne : ds ≠ []) (h' : AllDigits ds') : IsNumber (ds ++ '.' :: ds')
  | fraction {ds' : Text} (h' : AllDigits ds') (hne : ds' ≠ []) : IsNumber ('.' :: ds')

theorem numberRe_matches_iff {ν : Type} {t : Text} {c : Re.Captures ν} :
    Re.Matches numberRe t c ↔ c = [] ∧ IsNumber t := by
  simp only [numberRe, Re.chr, Re.Matches, Re.matches_some, Re.matches_one, Re.matches_many]
  constructor
  · rintro (⟨ds, _, _, _, rfl, rfl, ⟨hds, hne, rfl⟩,
      ⟨_, _, ds', _, rfl, rfl, ⟨x, rfl, hx, rfl⟩, hds', rfl⟩ | ⟨rfl, rfl⟩⟩ |
      ⟨_, _, ds', _, rfl, rfl, ⟨x, rfl, hx, rfl⟩, hds', hne, rfl⟩)
    · obtain rfl : x = '.' := by simpa using hx
      exact ⟨rfl, .point hds hne hds'⟩
    · exact ⟨rfl, by rw [List.append_nil]; exact .whole hds hne⟩
    · obtain rfl : x = '.' := by simpa using hx
      exact ⟨rfl, .fraction hds' hne⟩
  · rintro ⟨rfl, h⟩
    cases h with
    | whole h hne => exact .inl ⟨t, [], [], [], by simp, rfl, ⟨h, hne, rfl⟩, .inr ⟨rfl, rfl⟩⟩
    | point h hne h' =>
        exact .inl ⟨_, [], _, [], rfl, rfl, ⟨h, hne, rfl⟩,
          .inl ⟨['.'], [], _, [], rfl, rfl, ⟨'.', rfl, by decide, rfl⟩, h', rfl⟩⟩
    | fraction h' hne =>
        exact .inr ⟨['.'], [], _, [], rfl, rfl, ⟨'.', rfl, by decide, rfl⟩, h', hne, rfl⟩

/-- The first way to read a number takes all of it. -/
theorem numberRe_first {ν : Type} {n v : Text} (hn : IsNumber n) (hv : Re.Avoids isNumChar v) :
    (Re.run (numberRe (ν := ν)) (n ++ v)).head? = some ([], v) := by
  have hdigit : Re.Avoids isDigit v := by
    intro x hx
    have := hv x hx
    simp only [isNumChar, Bool.or_eq_false_iff] at this
    exact this.1
  have hpoint : Re.Avoids (· == '.') v := by
    intro x hx
    have := hv x hx
    simp only [isNumChar, Bool.or_eq_false_iff] at this
    exact this.2
  cases hn with
  | whole h hne =>
      refine Re.first_alt (Re.first_seq (c := []) (d := []) (Re.first_some h hne hdigit) ?_)
      exact Re.first_opt_nil (Re.run_seq_eq_nil (Re.run_rep_eq_nil hpoint (by decide)))
  | @point ds ds' h hne h' =>
      have hdot : Re.Avoids isDigit ('.' :: (ds' ++ v)) := by
        intro x hx
        cases hx
        rfl
      rw [List.append_assoc, List.cons_append]
      refine Re.first_alt (Re.first_seq (c := []) (d := []) (Re.first_some h hne hdot) (Re.first_opt ?_))
      exact Re.first_seq (c := []) (d := []) (Re.first_one (by decide)) (Re.first_many h' hdigit)
  | @fraction ds' h' hne =>
      have hdot : Re.Avoids isDigit ('.' :: (ds' ++ v)) := by
        intro x hx
        cases hx
        rfl
      rw [List.cons_append]
      refine Re.first_alt_nil (Re.run_seq_eq_nil (Re.run_rep_eq_nil hdot (by decide))) ?_
      exact Re.first_seq (c := []) (d := []) (Re.first_one (by decide)) (Re.first_some h' hne hdigit)

theorem IsNumber.chars {n : Text} (hn : IsNumber n) : ∀ c ∈ n, isNumChar c = true :=
  numberRe_chars (numberRe_matches_iff.mpr ⟨rfl, hn⟩)

theorem IsNumber.ne_nil {n : Text} (hn : IsNumber n) : n ≠ [] := by
  cases hn with
  | whole _ hne => exact hne
  | point _ _ _ => simp
  | fraction _ _ => simp

/-! ## The two patterns -/

/-- The text can be read as a weight line. -/
def WeightForm (t : Text) : Prop := ∃ p : WeightParse, p.Valid ∧ t = p.text

theorem weightRe_fullmatch_iff {t : Text} : (∃ m, weightRe.fullmatch t = some m) ↔ WeightForm t := by
  constructor
  · rintro ⟨m, hm⟩
    obtain ⟨p, hp, ht, -⟩ := weightRe_matches_iff.mp (Re.matches_of_fullmatch hm)
    exact ⟨p, hp, ht⟩
  · rintro ⟨p, hp, ht⟩
    exact Re.fullmatch_of_matches (weightRe_matches_iff.mpr ⟨p, hp, ht, rfl⟩)

section Parts

variable {ν : Type}

theorem space_bare : Re.Bare (.many Text.isSpace : Re ν) WeightParse.AllSpace := .many Text.isSpace

theorem numberRe_bare : Re.Bare (numberRe : Re ν) IsNumber := fun _ _ => numberRe_matches_iff

theorem question_bare : Re.Bare (.opt (.chr '?') : Re ν) fun t => ∃ b : Bool, t = if b then ['?'] else [] := by
  intro t c
  simp only [Re.chr, Re.matches_opt, Re.matches_one]
  constructor
  · rintro (⟨x, rfl, hx, rfl⟩ | ⟨rfl, rfl⟩)
    · obtain rfl : x = '?' := by simpa using hx
      exact ⟨rfl, true, rfl⟩
    · exact ⟨rfl, false, rfl⟩
  · rintro ⟨rfl, _ | _, rfl⟩
    · exact .inr ⟨rfl, rfl⟩
    · exact .inl ⟨'?', rfl, rfl, rfl⟩

theorem prefix_bare :
    Re.Bare (.opt (.seq (.one isLetter) (.seq (.rep isIdChar 0 (some 5)) (.some Text.isSpace))) : Re ν) fun t =>
      ∃ o : Option (Text × Text), t = (o.elim [] fun i => i.1 ++ i.2) ∧
        ∀ i w, o = some (i, w) → WeightParse.IsPrefix i w := by
  intro t c
  simp only [Re.matches_opt, Re.matches_seq, Re.matches_one, Re.matches_some]
  constructor
  · rintro (⟨_, _, _, _, rfl, rfl, ⟨x, rfl, hx, rfl⟩, u, _, w, _, rfl, rfl, ⟨hu, -, hlen, rfl⟩, hw, hne, rfl⟩ |
      ⟨rfl, rfl⟩)
    · refine ⟨rfl, some (x :: u, w), rfl, ?_⟩
      rintro _ _ ⟨rfl, rfl⟩
      exact ⟨⟨x, u, rfl, hx, hu, hlen 5 rfl⟩, hw, hne⟩
    · exact ⟨rfl, none, rfl, by simp⟩
  · rintro ⟨rfl, _ | ⟨i, w⟩, rfl, h⟩
    · exact .inr ⟨rfl, rfl⟩
    · obtain ⟨⟨x, u, rfl, hx, hu, hlen⟩, hw, hne⟩ := h i w rfl
      exact .inl ⟨[x], [], u ++ w, [], rfl, rfl, ⟨x, rfl, hx, rfl⟩, u, [], w, [], rfl, rfl,
        ⟨hu, Nat.zero_le _, by simpa using hlen, rfl⟩, hw, hne, rfl⟩

theorem optSign_bare : Re.Bare (.opt (.one isSignChar) : Re ν) fun t =>
    ∃ o : Option Char, t = o.toList ∧ ∀ x, o = some x → isSignChar x = true := by
  intro t c
  simp only [Re.matches_opt, Re.matches_one]
  constructor
  · rintro (⟨x, rfl, hx, rfl⟩ | ⟨rfl, rfl⟩)
    · exact ⟨rfl, some x, rfl, by rintro _ ⟨rfl⟩; exact hx⟩
    · exact ⟨rfl, none, rfl, by simp⟩
  · rintro ⟨rfl, _ | x, rfl, h⟩
    · exact .inr ⟨rfl, rfl⟩
    · exact .inl ⟨x, rfl, h x rfl, rfl⟩

theorem manyUnit_bare : Re.Bare (.many isUnitChar : Re ν) fun t =>
    ∃ o : Option Text, t = o.getD [] ∧ ∀ u, o = some u → (∀ x ∈ u, isUnitChar x = true) ∧ u ≠ [] := by
  intro t c
  rw [Re.matches_many]
  constructor
  · rintro ⟨h, rfl⟩
    cases t with
    | nil => exact ⟨rfl, none, rfl, by simp⟩
    | cons x t => exact ⟨rfl, some (x :: t), rfl, by rintro _ ⟨rfl⟩; exact ⟨h, by simp⟩⟩
  · rintro ⟨rfl, _ | u, rfl, h⟩
    · simp
    · exact ⟨(h _ rfl).1, rfl⟩

end Parts

theorem autoprintRe_matches_iff {t : Text} {c : Re.Captures Unit} :
    Re.Matches autoprintRe t c ↔ c = [] ∧ WeightForm t := by
  have hback := optSign_bare.seq (space_bare.seq (numberRe_bare.seq
    (space_bare.seq (manyUnit_bare.seq (space_bare (ν := Unit))))))
  have hbare := space_bare.seq (question_bare.seq (space_bare.seq (prefix_bare.seq hback)))
  rw [autoprintRe, hbare t c]
  refine and_congr_right' ?_
  constructor
  · rintro ⟨b₁, _, rfl, hb₁, _, _, rfl, ⟨q, rfl⟩, b₂, _, rfl, hb₂, _, _, rfl, ⟨i, rfl, hi⟩,
      _, _, rfl, ⟨s, rfl, hs⟩, b₃, _, rfl, hb₃, n, _, rfl, hn, b₄, _, rfl, hb₄, _, b₅, rfl, ⟨u, rfl, hu⟩, hb₅⟩
    refine ⟨⟨b₁, q, b₂, i, s, b₃, n, b₄, u, b₅⟩,
      ⟨hb₁, hb₂, hi, hs, hb₃, numberRe_matches_iff.mpr ⟨rfl, hn⟩, hb₄, hu, hb₅⟩, ?_⟩
    simp [WeightParse.text, WeightParse.front, WeightParse.back]
  · rintro ⟨p, ⟨hb₁, hb₂, hi, hs, hb₃, hn, hb₄, hu, hb₅⟩, rfl⟩
    refine ⟨_, _, ?_, hb₁, _, _, rfl, ⟨p.unstable, rfl⟩, _, _, rfl, hb₂, _, _, rfl, ⟨p.id, rfl, hi⟩,
      _, _, rfl, ⟨p.sign, rfl, hs⟩, _, _, rfl, hb₃, _, _, rfl, (numberRe_matches_iff.mp hn).2,
      _, _, rfl, hb₄, _, _, rfl, ⟨p.unit, rfl, hu⟩, hb₅⟩
    simp [WeightParse.text, WeightParse.front, WeightParse.back]

/-- The pattern of the autoprint test takes the same texts. -/
theorem autoprintRe_fullmatch_iff {t : Text} : (autoprintRe.fullmatch t).isSome = true ↔ WeightForm t := by
  rw [Option.isSome_iff_exists]
  constructor
  · rintro ⟨m, hm⟩
    exact (autoprintRe_matches_iff.mp (Re.matches_of_fullmatch hm)).2
  · intro h
    exact Re.fullmatch_of_matches (autoprintRe_matches_iff.mpr ⟨rfl, h⟩)

/-! ## The two rules for a bare number -/

/-- A number between blanks. -/
def BareNumber (t : Text) : Prop :=
  ∃ b n b', WeightParse.AllSpace b ∧ IsNumber n ∧ WeightParse.AllSpace b' ∧ t = b ++ (n ++ b')

theorem bareNumberRe_bare : Re.Bare bareNumberRe BareNumber := by
  intro t c
  rw [bareNumberRe, space_bare.seq (numberRe_bare.seq space_bare) t c]
  refine and_congr_right' ?_
  constructor
  · rintro ⟨b, _, rfl, hb, n, b', rfl, hn, hb'⟩
    exact ⟨b, n, b', hb, hn, hb', rfl⟩
  · rintro ⟨b, n, b', hb, hn, hb', rfl⟩
    exact ⟨b, n ++ b', rfl, hb, n, b', rfl, hn, hb'⟩

theorem bareNumberRe_fullmatch_iff {t : Text} : (bareNumberRe.fullmatch t).isSome = true ↔ BareNumber t := by
  rw [Option.isSome_iff_exists]
  constructor
  · rintro ⟨m, hm⟩
    exact ((bareNumberRe_bare t m).mp (Re.matches_of_fullmatch hm)).2
  · intro h
    exact Re.fullmatch_of_matches ((bareNumberRe_bare t []).mpr ⟨rfl, h⟩)

theorem isNumChar_of_isLetter {c : Char} (h : isLetter c = true) : isNumChar c = false := by
  have hunit : isUnitChar c = true := by simp [isUnitChar, h]
  have hdigit := isDigit_of_isUnitChar hunit
  have hpoint : c ≠ '.' := by
    rintro rfl
    cases h
  simp [isNumChar, hdigit, hpoint]

/-- A number does not start with a character of another class. -/
theorem IsNumber.avoids {n : Text} (hn : IsNumber n) {p : Char → Bool}
    (hp : ∀ c, p c = true → isNumChar c = false) (v : Text) : Re.Avoids p (n ++ v) := by
  intro x hx
  obtain ⟨y, n', rfl⟩ := List.exists_cons_of_ne_nil hn.ne_nil
  obtain rfl : y = x := by simpa using hx
  have hy := hn.chars y List.mem_cons_self
  cases hpy : p y with
  | false => rfl
  | true =>
      rw [hp y hpy] at hy
      cases hy

/-- The first way to read a bare number as a weight line finds nothing but the number. -/
theorem weightRe_fullmatch_bare {b n b' : Text} (hb : WeightParse.AllSpace b) (hn : IsNumber n)
    (hb' : WeightParse.AllSpace b') : weightRe.fullmatch (b ++ (n ++ b')) = some [(.number, n)] := by
  have hspace : Re.Avoids Text.isSpace (n ++ b') := hn.avoids (fun _ => isNumChar_of_isSpace) b'
  have hquestion : Re.Avoids (· == '?') (n ++ b') := hn.avoids (by
    intro c hc
    obtain rfl : c = '?' := by simpa using hc
    rfl) b'
  have hletter : Re.Avoids isLetter (n ++ b') := hn.avoids (fun _ => isNumChar_of_isLetter) b'
  have hsign : Re.Avoids isSignChar (n ++ b') := hn.avoids (fun _ => isNumChar_of_isSignChar) b'
  have hnone : ∀ p : Char → Bool, Re.Avoids p [] := fun p x hx => by cases hx
  have hblank : (Re.run (.many Text.isSpace : Re WeightGroup) (n ++ b')).head? = some ([], n ++ b') :=
    Re.first_many (u := []) (by simp) hspace
  have hfront : (Re.run weightFrontRe (b ++ (n ++ b'))).head? = some ([], n ++ b') := by
    refine Re.first_seq (c := []) (d := []) (Re.first_many hb hspace) ?_
    refine Re.first_seq (c := []) (d := [])
      (Re.first_opt_nil (Re.run_group_eq_nil (Re.run_rep_eq_nil hquestion (by decide)))) ?_
    refine Re.first_seq (c := []) (d := []) hblank ?_
    refine Re.first_seq (c := []) (d := []) (Re.first_opt_nil (Re.run_seq_eq_nil (Re.run_group_eq_nil
      (Re.run_seq_eq_nil (Re.run_rep_eq_nil hletter (by decide)))))) ?_
    exact Re.first_seq (c := []) (d := [])
      (Re.first_opt_nil (Re.run_group_eq_nil (Re.run_rep_eq_nil hsign (by decide)))) hblank
  have hnumber : (Re.run (.group .number numberRe : Re WeightGroup) (n ++ b')).head? = some ([(.number, n)], b') := by
    refine Re.first_group (c := []) (numberRe_first hn ?_)
    intro x hx
    exact isNumChar_of_isSpace (hb' x (List.mem_of_head? hx))
  have hback : (Re.run weightBackRe b').head? = some ([], []) := by
    have hall : (Re.run (.many Text.isSpace : Re WeightGroup) (b' ++ [])).head? = some ([], []) :=
      Re.first_many hb' (hnone _)
    rw [List.append_nil] at hall
    refine Re.first_seq (c := []) (d := []) hall ?_
    refine Re.first_seq (c := []) (d := [])
      (Re.first_opt_nil (Re.run_group_eq_nil (Re.run_rep_eq_nil (hnone _) (by decide)))) ?_
    exact Re.first_many (u := []) (by simp) (hnone _)
  exact Re.fullmatch_of_first (Re.first_seq (c := []) hfront (Re.first_seq hnumber hback))

/-- A match that captures nothing but a number is one of a bare number. -/
theorem bareNumber_of_captures {t : Text} {m : Re.Captures WeightGroup} (hm : weightRe.fullmatch t = some m)
    (hunstable : m.get? .unstable = none) (hid : m.get? .id = none) (hsign : m.get? .sign = none)
    (hunit : m.get? .unit = none) : BareNumber t := by
  obtain ⟨p, hp, rfl, rfl⟩ := weightRe_matches_iff.mp (Re.matches_of_fullmatch hm)
  have hq : p.unstable = false := by
    cases hq : p.unstable with
    | false => rfl
    | true => simp [hq] at hunstable
  have hi : p.id = none := by simpa using hid
  have hs : p.sign = none := by simpa using hsign
  have hu : p.unit = none := by simpa using hunit
  refine ⟨p.blank₁ ++ p.blank₂ ++ p.blank₃, p.number, p.blank₄ ++ p.blank₅, ?_,
    (numberRe_matches_iff.mp hp.number).2, ?_, ?_⟩
  · intro c hc
    simp only [List.mem_append] at hc
    rcases hc with (hc | hc) | hc
    · exact hp.blank₁ c hc
    · exact hp.blank₂ c hc
    · exact hp.blank₃ c hc
  · intro c hc
    rcases List.mem_append.mp hc with hc | hc
    · exact hp.blank₄ c hc
    · exact hp.blank₅ c hc
  · simp [WeightParse.text, WeightParse.front, WeightParse.back, hq, hi, hs, hu]

/-- The fragment that both files refuse to read as a weight. -/
def Fragment (t : Text) : Prop :=
  BareNumber t ∧ (t = Text.strip t ∨ t.length < minFormattedWeightBodyChars)

theorem isBareNumberFragment_iff {t : Text} {m : Re.Captures WeightGroup} (hm : weightRe.fullmatch t = some m) :
    isBareNumberFragment t m = true ↔ Fragment t := by
  simp only [isBareNumberFragment, Bool.decide_and, Bool.and_eq_true, decide_eq_true_eq]
  constructor
  · rintro ⟨hunstable, hid, hsign, hunit, hshort⟩
    exact ⟨bareNumber_of_captures hm hunstable hid hsign hunit, by simpa using hshort⟩
  · rintro ⟨⟨b, n, b', hb, hn, hb', rfl⟩, hshort⟩
    rw [weightRe_fullmatch_bare hb hn hb', Option.some.injEq] at hm
    subst hm
    exact ⟨rfl, rfl, rfl, rfl, by simpa using hshort⟩

theorem BareNumber.weightForm {t : Text} (h : BareNumber t) : WeightForm t := by
  obtain ⟨b, n, b', hb, hn, hb', rfl⟩ := h
  exact weightRe_fullmatch_iff.mp ⟨_, weightRe_fullmatch_bare hb hn hb'⟩

theorem BareNumber.not_refused {t : Text} (h : BareNumber t) : refused t = false := by
  obtain ⟨b, n, b', hb, hn, hb', rfl⟩ := h
  obtain ⟨c, n, rfl⟩ := List.exists_cons_of_ne_nil hn.ne_nil
  exact refused_of_number hb (hn.chars c List.mem_cons_self)

/-! ## The two verdicts on a line -/

section Verdicts

variable {t : Text}

/-- A weight line has a digit, so its marker is in no table. -/
theorem WeightForm.marker_notMem (h : WeightForm t) {l : List Text} (hl : ∀ m ∈ l, ∀ c ∈ m, isDigit c = false) :
    statusMarker (Text.strip t) ∉ l := by
  obtain ⟨m, hm⟩ := weightRe_fullmatch_iff.mpr h
  obtain ⟨d, hd, hdigit⟩ := weightRe_digit hm
  simpa using contains_false_of_digit hdigit (mem_statusMarker hdigit hd) hl

theorem WeightForm.strip_ne_nil (h : WeightForm t) : Text.strip t ≠ [] := by
  obtain ⟨m, hm⟩ := weightRe_fullmatch_iff.mpr h
  obtain ⟨d, hd, hdigit⟩ := weightRe_digit hm
  exact List.ne_nil_of_mem (Text.mem_strip hd (isSpace_of_isDigit hdigit))

theorem isAutoprintLine_iff (ht : IsAscii t) : isAutoprintLine (asciiLine t) = true ↔
    Text.strip t ≠ [] ∧ ¬ Fragment t ∧
      (WeightForm t ∨ statusMarker (Text.strip t) ∈ autoprintSpecials) := by
  have hrule : (bareNumberRe.fullmatch t).isSome = true ∧
      (t = Text.strip t ∨ t.length < minFormattedWeightBodyChars) ↔ Fragment t :=
    and_congr_left' bareNumberRe_fullmatch_iff
  unfold isAutoprintLine
  rw [decodeAsciiReplace_asciiLine ht]
  by_cases hempty : Text.strip t = []
  · simp [hempty]
  by_cases hfragment : Fragment t
  · rw [if_neg hempty, if_pos (hrule.mpr hfragment)]
    simp [hfragment]
  · rw [if_neg hempty, if_neg (fun h => hfragment (hrule.mp h)), Bool.or_eq_true, autoprintRe_fullmatch_iff]
    simp [hempty, hfragment]

theorem looksLikeWeight_iff : looksLikeWeight t = true ↔ offScale t = true ∨ (WeightForm t ∧ ¬ Fragment t) := by
  rw [looksLikeWeight, Bool.or_eq_true]
  refine or_congr Iff.rfl ?_
  cases hm : weightRe.fullmatch t with
  | none =>
      have hform : ¬ WeightForm t := by
        rw [← weightRe_fullmatch_iff, hm]
        simp
      simp [hform]
  | some m =>
      have hform : WeightForm t := weightRe_fullmatch_iff.mp ⟨m, hm⟩
      simp only [hform, true_and, Bool.not_eq_true', ← isBareNumberFragment_iff hm, Bool.not_eq_true]

theorem offScale_iff : offScale t = true ↔ statusMarker (Text.strip t) ∈ overloadMarkers ++ underloadMarkers := by
  simp [offScale]

/-- The kind that the parser gives to a line. -/
def kindOf (t : Text) : SbiLineKind :=
  if Text.strip t = [] then .empty
  else if refused t then .refusal
  else if statusMarker (Text.strip t) ∈ specialNonWeightMarkers then .unknown
  else if looksLikeWeight t then .weight
  else .identity

/-- What looks like a weight has a reading. -/
theorem parseWeightLine_of_looksLikeWeight (ht : IsAscii t) (h : looksLikeWeight t = true) :
    ∃ r, parseWeightLine (asciiLine t) = .ok r := by
  simp only [parseWeightLine, decodeAsciiReplace_asciiLine ht]
  split
  · exact ⟨_, rfl⟩
  · rename_i hoff
    rcases looksLikeWeight_iff.mp h with h | ⟨h, -⟩
    · exact absurd h hoff
    · obtain ⟨m, hm⟩ := weightRe_fullmatch_iff.mpr h
      exact ⟨_, by rw [hm]⟩

theorem parseLine_kind (ht : IsAscii t) :
    ∃ line, parseLine (asciiLine t) = .ok line ∧ line.kind = kindOf t ∧
      (line.kind ≠ .empty → line.text = Text.strip t) := by
  unfold parseLine kindOf
  rw [decodeAscii_asciiLine ht]
  dsimp only
  by_cases hempty : Text.strip t = []
  · rw [if_pos hempty, if_pos hempty]
    exact ⟨_, rfl, rfl, fun h => absurd rfl h⟩
  rw [if_neg hempty, if_neg hempty]
  by_cases hrefused : refused t = true
  · rw [if_pos hrefused, if_pos (show isRefusalMarker (statusMarker (Text.strip t)) = true from hrefused)]
    exact ⟨_, rfl, rfl, fun _ => rfl⟩
  rw [if_neg hrefused, if_neg (show ¬ isRefusalMarker (statusMarker (Text.strip t)) = true from hrefused)]
  by_cases hspecial : statusMarker (Text.strip t) ∈ specialNonWeightMarkers
  · rw [if_pos hspecial, if_pos (List.contains_iff_mem.mpr hspecial)]
    exact ⟨_, rfl, rfl, fun _ => rfl⟩
  rw [if_neg hspecial, if_neg (fun h => hspecial (List.contains_iff_mem.mp h))]
  by_cases hweight : looksLikeWeight t = true
  · obtain ⟨r, hr⟩ := parseWeightLine_of_looksLikeWeight ht hweight
    rw [if_pos hweight, if_pos hweight, hr]
    exact ⟨_, rfl, rfl, fun _ => rfl⟩
  · rw [if_neg hweight, if_neg hweight]
    exact ⟨_, rfl, rfl, fun _ => rfl⟩

end Verdicts

/-! ## Where they agree -/

/-- What the two classifiers should say of one line: it is unsolicited output exactly when the parser reads it
as a weight or as a calibration status, and a refusal, an identity or an empty line never is. -/
def Lockstep (line : Bytes) : Prop :=
  (isAutoprintLine line = true ↔ ∃ l, parseLine line = .ok l ∧ (l.kind = .weight ∨
    (l.kind = .unknown ∧ statusMarker l.text ∈ specialNonWeightMarkers))) ∧
  ∀ l, parseLine line = .ok l → l.kind ∈ [SbiLineKind.refusal, .identity, .empty] → isAutoprintLine line = false

/-- The off-scale markers that the table of the autoprint test lacks. -/
def unlistedMarkers : List Text :=
  ["OVER".toList, "OVERLOAD".toList, "OL".toList, "UNDER".toList, "UNDERLOAD".toList, "UL".toList]

theorem lockstep_iff_kind {t : Text} (ht : IsAscii t) :
    Lockstep (asciiLine t) ↔
      (isAutoprintLine (asciiLine t) = true ↔ kindOf t = .weight ∨ kindOf t = .unknown) := by
  obtain ⟨line, hparse, hkind, htext⟩ := parseLine_kind ht
  have hspecial : kindOf t = .unknown → statusMarker line.text ∈ specialNonWeightMarkers := by
    intro h
    rw [htext (by rw [hkind, h]; simp)]
    unfold kindOf at h
    split_ifs at h with _ _ hs
    exact hs
  constructor
  · rintro ⟨h, -⟩
    rw [h]
    constructor
    · rintro ⟨l, hl, hor⟩
      obtain rfl : line = l := by simpa [hparse] using hl
      rw [← hkind]
      exact hor.imp_right And.left
    · intro hor
      refine ⟨line, hparse, ?_⟩
      rw [hkind]
      exact hor.imp_right fun hu => ⟨hu, hspecial hu⟩
  · intro h
    refine ⟨?_, ?_⟩
    · rw [h]
      constructor
      · intro hor
        refine ⟨line, hparse, ?_⟩
        rw [hkind]
        exact hor.imp_right fun hu => ⟨hu, hspecial hu⟩
      · rintro ⟨l, hl, hor⟩
        obtain rfl : line = l := by simpa [hparse] using hl
        rw [← hkind]
        exact hor.imp_right And.left
    · intro l hl hother
      obtain rfl : line = l := by simpa [hparse] using hl
      rw [Bool.eq_false_iff]
      intro hauto
      rw [hkind] at hother
      rcases h.mp hauto with hw | hu
      · rw [hw] at hother
        revert hother
        decide
      · rw [hu] at hother
        revert hother
        decide

/-- Each marker of the autoprint test is a calibration status or an off-scale marker, none of the six. -/
theorem autoprintSpecials_tables : ∀ m ∈ autoprintSpecials, isRefusalMarker m = false ∧
    (m ∈ specialNonWeightMarkers ∨
      (m ∉ specialNonWeightMarkers ∧ m ∈ overloadMarkers ++ underloadMarkers ∧ m ∉ unlistedMarkers)) := by
  decide

theorem specialNonWeightMarkers_listed : ∀ m ∈ specialNonWeightMarkers, m ∈ autoprintSpecials := by decide

theorem offScaleMarkers_listed : ∀ m ∈ overloadMarkers ++ underloadMarkers,
    m ∈ autoprintSpecials ∨ (m ∈ unlistedMarkers ∧ m ∉ autoprintSpecials) := by decide

theorem unlistedMarkers_offScale : ∀ m ∈ unlistedMarkers,
    m ∈ overloadMarkers ++ underloadMarkers ∧ m ∉ autoprintSpecials ∧ m ∉ specialNonWeightMarkers ∧
      isRefusalMarker m = false := by decide

/-- With a number on the line no table of markers matters. -/
theorem lockstep_weightForm {t : Text} (hform : WeightForm t) :
    ((Text.strip t ≠ [] ∧ ¬ Fragment t ∧ (WeightForm t ∨ statusMarker (Text.strip t) ∈ autoprintSpecials)) ↔
      (kindOf t = .weight ∨ kindOf t = .unknown)) ↔ refused t = false := by
  have hempty := hform.strip_ne_nil
  have hspecial : statusMarker (Text.strip t) ∉ specialNonWeightMarkers :=
    hform.marker_notMem (Text.forall_forall_false_of_any (by decide))
  have hoff : ¬ offScale t = true := by
    rw [offScale_iff]
    exact hform.marker_notMem (Text.forall_forall_false_of_any (by decide))
  have hlooks : looksLikeWeight t = true ↔ ¬ Fragment t := by
    rw [looksLikeWeight_iff]
    exact ⟨fun h => (h.resolve_left hoff).2, fun h => .inr ⟨hform, h⟩⟩
  cases hrefused : refused t with
  | true =>
      have hfragment : ¬ Fragment t := by
        intro h
        rw [h.1.not_refused] at hrefused
        cases hrefused
      have hkind : kindOf t = .refusal := by rw [kindOf, if_neg hempty, if_pos hrefused]
      simp [hempty, hform, hfragment, hkind]
  | false =>
      have hkind : kindOf t = if looksLikeWeight t then .weight else .identity := by
        rw [kindOf, if_neg hempty, if_neg (by simp [hrefused]), if_neg hspecial]
      by_cases hfragment : Fragment t
      · rw [if_neg (fun h => hlooks.mp h hfragment)] at hkind
        simp [hfragment, hkind]
      · rw [if_pos (hlooks.mpr hfragment)] at hkind
        simp [hempty, hform, hfragment, hkind]

/-- Without a number the line is known by its marker alone. -/
theorem lockstep_marker {t : Text} (hempty : Text.strip t ≠ []) (hform : ¬ WeightForm t) :
    ((Text.strip t ≠ [] ∧ ¬ Fragment t ∧ (WeightForm t ∨ statusMarker (Text.strip t) ∈ autoprintSpecials)) ↔
      (kindOf t = .weight ∨ kindOf t = .unknown)) ↔ statusMarker (Text.strip t) ∉ unlistedMarkers := by
  have hfragment : ¬ Fragment t := fun h => hform h.1.weightForm
  have hlooks : looksLikeWeight t = true ↔
      statusMarker (Text.strip t) ∈ overloadMarkers ++ underloadMarkers := by
    rw [looksLikeWeight_iff, offScale_iff]
    exact ⟨fun h => h.resolve_right fun h => hform h.1, .inl⟩
  have hrefused : refused t = isRefusalMarker (statusMarker (Text.strip t)) := rfl
  have hkind : (kindOf t = .weight ∨ kindOf t = .unknown) ↔
      isRefusalMarker (statusMarker (Text.strip t)) = false ∧
        (statusMarker (Text.strip t) ∈ specialNonWeightMarkers ∨
          statusMarker (Text.strip t) ∈ overloadMarkers ++ underloadMarkers) := by
    rw [kindOf, if_neg hempty, hrefused, ← hlooks]
    split_ifs with h₁ h₂ h₃ <;> simp [*]
  rw [hkind]
  generalize statusMarker (Text.strip t) = m
  have hspecials := autoprintSpecials_tables m
  have hcal := specialNonWeightMarkers_listed m
  have hoff := offScaleMarkers_listed m
  have hunlisted := unlistedMarkers_offScale m
  by_cases hm : m ∈ unlistedMarkers
  · obtain ⟨h₁, h₂, h₃, h₄⟩ := hunlisted hm
    simp only [hm, h₁, h₂, h₄, hform, hfragment]
    simp
  · simp only [hm, hform, hfragment]
    simp only [ne_eq, not_false_eq_true, false_or, true_and, iff_true]
    constructor
    · intro h
      obtain ⟨hr, hor⟩ := hspecials h.2
      exact ⟨hr, hor.imp_right fun hor => hor.2.1⟩
    · rintro ⟨-, h | h⟩
      · exact ⟨hempty, hcal h⟩
      · exact ⟨hempty, (hoff h).resolve_right fun h => hm h.1⟩

/-- The parser and the autoprint test agree on a line unless its marker is one of the six that only the parser
knows, or it is a refusal that reads as a weight. -/
theorem lockstep_iff {t : Text} (ht : IsAscii t) :
    Lockstep (asciiLine t) ↔
      statusMarker (Text.strip t) ∉ unlistedMarkers ∧ ¬ (refused t = true ∧ WeightForm t) := by
  rw [lockstep_iff_kind ht, isAutoprintLine_iff ht]
  by_cases hempty : Text.strip t = []
  · have hkind : kindOf t = .empty := if_pos hempty
    have hform : ¬ WeightForm t := fun h => h.strip_ne_nil hempty
    have hmarker : statusMarker (Text.strip t) ∉ unlistedMarkers := by
      rw [hempty]
      decide
    exact iff_of_true (by simp [hempty, hkind]) ⟨hmarker, fun h => hform h.2⟩
  by_cases hform : WeightForm t
  · rw [lockstep_weightForm hform]
    have hmarker : statusMarker (Text.strip t) ∉ unlistedMarkers :=
      hform.marker_notMem (Text.forall_forall_false_of_any (by decide))
    simp [hmarker, hform]
  · rw [lockstep_marker hempty hform]
    simp [hform]

theorem lockstep_iff_gram :
    Lockstep (asciiLine "G     +   1.5 g  ".toList) ↔
      statusMarker (Text.strip "G     +   1.5 g  ".toList) ∉ unlistedMarkers ∧
        ¬ (refused "G     +   1.5 g  ".toList = true ∧ WeightForm "G     +   1.5 g  ".toList) :=
  lockstep_iff (isAscii_of_all (by decide))

/-- An overload that the autoprint test does not know, and an error that it takes for a weight. -/
theorem over_and_error_differ :
    ¬ Lockstep (asciiLine "Over".toList) ∧ ¬ Lockstep (asciiLine "Err 54".toList) := by
  constructor
  · rintro ⟨h, -⟩
    obtain ⟨l, hl, hkind, -⟩ := parseLine_kind (t := "Over".toList) (isAscii_of_all (by decide))
    have hweight : kindOf "Over".toList = .weight := by decide +kernel
    have hmissed : isAutoprintLine (asciiLine "Over".toList) = false := by decide +kernel
    rw [h.mpr ⟨l, hl, .inl (hkind.trans hweight)⟩] at hmissed
    cases hmissed
  · rintro ⟨-, h⟩
    obtain ⟨l, hl, hkind, -⟩ := parseLine_kind (t := "Err 54".toList) (isAscii_of_all (by decide))
    have hrefusal : kindOf "Err 54".toList = .refusal := by decide +kernel
    have htaken : isAutoprintLine (asciiLine "Err 54".toList) = true := by decide +kernel
    rw [h l hl (by rw [hkind, hrefusal]; decide)] at htaken
    cases htaken

end SartoriusLib.Sbi
