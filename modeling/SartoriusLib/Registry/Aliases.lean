import SartoriusLib.Lib.Dict
import SartoriusLib.Devices.Models
import Mathlib.Data.List.TakeWhile

/-!
# Names of units and modes

A name is brought to one spelling before it is looked up: lower case, one underscore for each run of blanks, hyphens
and periods, and no other punctuation.
-/

namespace SartoriusLib.Registry

open SartoriusLib Lib

/-! ## Spellings -/

/-- The class `[\s\-.]`. -/
def isSeparator (c : Char) : Bool := Text.isSpace c || c == '-' || c == '.'

/-- The class `\w`, exact on ASCII; `µ` is the only other letter in a name of the library. -/
def isWord (c : Char) : Bool := c.isAlphanum || c == '_' || c == 'µ'

/-- `_NORMALISE_SEPARATORS.sub("_", t)`; `inRun` says that the character before is a separator. -/
def subSeparators (inRun : Bool) : Text → Text
  | [] => []
  | c :: t =>
      if isSeparator c then (if inRun then subSeparators true t else '_' :: subSeparators true t)
      else c :: subSeparators false t

def normalise (raw : Text) : Text :=
  (subSeparators false (Text.lower (Text.strip raw))).filter isWord

/-! ### Characters -/

section Characters

variable {c : Char}

/-- A property of all ASCII characters, by their codes. -/
theorem ascii_forall {P : Char → Prop} (h : ∀ n < 128, P (Char.ofNat n)) (hc : c.toNat < 128) : P c := by
  have hcode := h c.toNat hc
  rwa [Char.ofNat_toNat] at hcode

theorem toNat_of_isAlphanum (h : c.isAlphanum = true) : c.toNat < 128 := by
  have hlast {b : UInt32} (h : c.val ≤ b) (hb : b.toNat < 128) : c.toNat < 128 :=
    (UInt32.le_iff_toNat_le.mp h).trans_lt hb
  rcases Bool.or_eq_true_iff.mp h with hletter | hdigit
  · rcases Bool.or_eq_true_iff.mp hletter with hupper | hlower
    · exact hlast (b := 'Z'.val) (of_decide_eq_true hupper).2 (by decide)
    · exact hlast (b := 'z'.val) (of_decide_eq_true (Bool.and_eq_true_iff.mp hlower).2) (by decide)
  · exact hlast (b := '9'.val) (of_decide_eq_true (Bool.and_eq_true_iff.mp hdigit).2) (by decide)

theorem isSeparator_of_isWord (h : isWord c = true) : isSeparator c = false := by
  have hascii : ∀ n < 128, isWord (Char.ofNat n) = true → isSeparator (Char.ofNat n) = false := by decide +kernel
  rcases Bool.or_eq_true_iff.mp h with h' | h'
  · refine ascii_forall (P := fun c => isWord c = true → isSeparator c = false) hascii ?_ h
    rcases Bool.or_eq_true_iff.mp h' with h' | h'
    · exact toNat_of_isAlphanum h'
    · exact beq_iff_eq.mp h' ▸ by decide
  · exact beq_iff_eq.mp h' ▸ by decide

theorem isSpace_of_isWord (h : isWord c = true) : Text.isSpace c = false := by
  have hsep := isSeparator_of_isWord h
  simp only [isSeparator, Bool.or_eq_false_iff] at hsep
  exact hsep.1.1

/-- Lower case is kept by a second pass; letters become letters, and nothing else changes. -/
theorem lowerChar_cases (c : Char) :
    Text.lowerChar c = c ∨
      isWord (Text.lowerChar c) = true ∧ isSeparator c = false ∧
        Text.lowerChar (Text.lowerChar c) = Text.lowerChar c := by
  have hascii : ∀ n < 128, 'A' ≤ Char.ofNat n ∧ Char.ofNat n ≤ 'Z' →
      isWord (Text.lowerChar (Char.ofNat n)) = true ∧ isSeparator (Char.ofNat n) = false ∧
        Text.lowerChar (Text.lowerChar (Char.ofNat n)) = Text.lowerChar (Char.ofNat n) := by
    decide +kernel
  by_cases h : 'A' ≤ c ∧ c ≤ 'Z'
  · have hle : c.toNat ≤ 'Z'.toNat := h.2
    exact .inr (ascii_forall (P := fun c => 'A' ≤ c ∧ c ≤ 'Z' → isWord (Text.lowerChar c) = true ∧
      isSeparator c = false ∧ Text.lowerChar (Text.lowerChar c) = Text.lowerChar c) hascii
      (lt_of_le_of_lt hle (by decide)) h)
  · exact .inl (if_neg h)

theorem lowerChar_lowerChar (c : Char) : Text.lowerChar (Text.lowerChar c) = Text.lowerChar c := by
  rcases lowerChar_cases c with h | ⟨-, -, h⟩
  · rw [h, h]
  · exact h

theorem isWord_lowerChar (h : isWord c = true) : isWord (Text.lowerChar c) = true := by
  rcases lowerChar_cases c with hc | ⟨hc, -, -⟩
  · rwa [hc]
  · exact hc

theorem lowerChar_of_isSeparator (h : isSeparator c = true) : Text.lowerChar c = c := by
  rcases lowerChar_cases c with hc | ⟨-, hc, -⟩
  · exact hc
  · rw [hc] at h
    cases h

end Characters

/-! ### Words -/

def IsWord (w : Text) : Prop := w ≠ [] ∧ ∀ c ∈ w, isWord c = true

/-- What stands between two words. -/
def IsRun (s : Text) : Prop := s ≠ [] ∧ ∀ c ∈ s, isSeparator c = true

instance (w : Text) : Decidable (IsWord w) := decidable_of_iff (w ≠ [] ∧ w.all isWord = true) (by simp [IsWord])

instance (s : Text) : Decidable (IsRun s) := decidable_of_iff (s ≠ [] ∧ s.all isSeparator = true) (by simp [IsRun])

/-- A word, and further words that each stand behind a run of separators. -/
def spelled (w : Text) (rest : List (Text × Text)) : Text := w ++ rest.flatMap fun p => p.1 ++ p.2

section Words

variable {w s t : Text} {rest : List (Text × Text)}

theorem IsWord.lower (h : IsWord w) : IsWord (Text.lower w) := by
  refine ⟨by simpa [Text.lower] using h.1, fun c hc => ?_⟩
  obtain ⟨d, hd, rfl⟩ := List.mem_map.mp hc
  exact isWord_lowerChar (h.2 d hd)

theorem IsRun.lower (h : IsRun s) : Text.lower s = s := by
  rw [Text.lower, List.map_congr_left fun c hc => lowerChar_of_isSeparator (h.2 c hc), List.map_id']

/-- Letters do not end a word, and the first one ends a run of separators. -/
theorem subSeparators_word (hw : IsWord w) (inRun : Bool) (t : Text) :
    subSeparators inRun (w ++ t) = w ++ subSeparators false t := by
  obtain ⟨hne, hchars⟩ := hw
  induction w generalizing inRun with
  | nil => exact absurd rfl hne
  | cons c w ih =>
      have hc : ¬ isSeparator c = true := by simp [isSeparator_of_isWord (hchars c List.mem_cons_self)]
      rw [List.cons_append, subSeparators, if_neg hc]
      cases w with
      | nil => rfl
      | cons d w =>
          rw [ih false (by simp) fun x hx => hchars x (List.mem_cons_of_mem _ hx)]
          rfl

theorem subSeparators_inRun (hs : ∀ c ∈ s, isSeparator c = true) (t : Text) :
    subSeparators true (s ++ t) = subSeparators true t := by
  induction s with
  | nil => rfl
  | cons c s ih =>
      rw [List.cons_append, subSeparators, if_pos (hs c List.mem_cons_self), if_pos rfl]
      exact ih fun x hx => hs x (List.mem_cons_of_mem _ hx)

/-- A run becomes one underscore. -/
theorem subSeparators_run (hs : IsRun s) (t : Text) :
    subSeparators false (s ++ t) = '_' :: subSeparators true t := by
  obtain ⟨hne, hchars⟩ := hs
  cases s with
  | nil => exact absurd rfl hne
  | cons c s =>
      rw [List.cons_append, subSeparators, if_pos (hchars c List.mem_cons_self), if_neg (by decide),
        subSeparators_inRun fun x hx => hchars x (List.mem_cons_of_mem _ hx)]

theorem spelled_cons (w s v : Text) (rest : List (Text × Text)) :
    spelled w ((s, v) :: rest) = w ++ (s ++ spelled v rest) := by
  simp [spelled]

theorem subSeparators_spelled (inRun : Bool) (hw : IsWord w) (hrest : ∀ p ∈ rest, IsRun p.1 ∧ IsWord p.2) :
    subSeparators inRun (spelled w rest) = Text.join "_".toList (w :: rest.map Prod.snd) := by
  induction rest generalizing w inRun with
  | nil => simpa [spelled, Text.join, subSeparators] using subSeparators_word hw inRun []
  | cons p rest ih =>
      obtain ⟨s, v⟩ := p
      obtain ⟨hs, hv⟩ := hrest (s, v) List.mem_cons_self
      rw [spelled_cons, subSeparators_word hw, subSeparators_run hs,
        ih true hv fun p hp => hrest p (List.mem_cons_of_mem _ hp), List.map_cons, Text.join, Text.join,
        List.intercalate_cons_cons, List.append_assoc]
      rfl

theorem lower_spelled (hrest : ∀ p ∈ rest, IsRun p.1 ∧ IsWord p.2) :
    Text.lower (spelled w rest) = spelled (Text.lower w) (rest.map fun p => (p.1, Text.lower p.2)) := by
  induction rest generalizing w with
  | nil => simp [spelled]
  | cons p rest ih =>
      obtain ⟨s, v⟩ := p
      have hs := (hrest (s, v) List.mem_cons_self).1.lower
      have hrec := ih (w := v) fun p hp => hrest p (List.mem_cons_of_mem _ hp)
      rw [Text.lower] at hs hrec
      rw [spelled_cons, List.map_cons, spelled_cons, Text.lower, List.map_append, List.map_append, hs, hrec]
      rfl

theorem isWord_join {ws : List Text} (h : ∀ w ∈ ws, IsWord w) : ∀ c ∈ Text.join "_".toList ws, isWord c = true := by
  unfold Text.join
  induction ws with
  | nil => simp
  | cons w ws ih =>
      have hw := (h w List.mem_cons_self).2
      cases ws with
      | nil => simpa [List.intercalate] using hw
      | cons v ws =>
          have hlater := ih fun u hu => h u (List.mem_cons_of_mem _ hu)
          rw [List.intercalate_cons_cons]
          intro c hc
          rcases List.mem_append.mp hc with hc | hc
          · rcases List.mem_append.mp hc with hc | hc
            · exact hw c hc
            · exact List.mem_singleton.mp hc ▸ by decide
          · exact hlater c hc

theorem spelled_first (hw : IsWord w) (rest : List (Text × Text)) :
    ∃ c t, spelled w rest = c :: t ∧ isWord c = true := by
  obtain ⟨hne, hchars⟩ := hw
  obtain ⟨c, t, rfl⟩ := List.exists_cons_of_ne_nil hne
  exact ⟨c, _, rfl, hchars c List.mem_cons_self⟩

theorem spelled_last (hw : IsWord w) (hrest : ∀ p ∈ rest, IsRun p.1 ∧ IsWord p.2) :
    ∃ t c, spelled w rest = t ++ [c] ∧ isWord c = true := by
  induction rest generalizing w with
  | nil =>
      obtain ⟨hne, hchars⟩ := hw
      refine ⟨w.dropLast, w.getLast hne, ?_, hchars _ (List.getLast_mem hne)⟩
      rw [List.dropLast_append_getLast, spelled, List.flatMap_nil, List.append_nil]
  | cons p rest ih =>
      obtain ⟨s, v⟩ := p
      obtain ⟨t, c, ht, hc⟩ := ih (hrest (s, v) List.mem_cons_self).2 fun p hp => hrest p (List.mem_cons_of_mem _ hp)
      exact ⟨w ++ (s ++ t), c, by rw [spelled_cons, ht]; simp, hc⟩

/-- Blanks around a spelling are stripped, and those between its words are not. -/
theorem strip_spelled {before after : Text} (hbefore : ∀ c ∈ before, Text.isSpace c = true)
    (hafter : ∀ c ∈ after, Text.isSpace c = true) (hw : IsWord w) (hrest : ∀ p ∈ rest, IsRun p.1 ∧ IsWord p.2) :
    Text.strip (before ++ spelled w rest ++ after) = spelled w rest := by
  obtain ⟨c, t, hfirst, hc⟩ := spelled_first hw rest
  obtain ⟨t', d, hlast, hd⟩ := spelled_last hw hrest
  have hnone : Text.rstrip after = [] := by
    rw [Text.rstrip, List.dropWhile_eq_nil_iff.mpr fun x hx => hafter x (List.mem_reverse.mp hx)]
    rfl
  rw [Text.strip, List.append_assoc, Text.lstrip_append hbefore, hfirst, List.cons_append,
    Text.lstrip_cons (isSpace_of_isWord hc), ← List.cons_append, ← hfirst, hlast, List.append_assoc,
    List.singleton_append, Text.rstrip_append_cons (isSpace_of_isWord hd), hnone]

end Words

/-! ## Units -/

/-- The members of `Unit` in their order. -/
def units : List MeasurementUnit :=
  [.userdef, .g, .kg, .ct, .lb, .oz, .ozt, .taelHk, .taelSg, .taelTw, .gr, .dwt, .mg, .partsPerPound, .taelCn,
   .momme, .ctAu, .tola, .baht, .mesgal, .t, .lbOz, .newton, .ug, .unknown]

def unitAmbiguousShorts : List MeasurementUnit := [.partsPerPound]

def unitLongForms : Dict Text MeasurementUnit :=
  [("parts_per_pound".toList, .partsPerPound), ("ptplb".toList, .partsPerPound), ("gram".toList, .g),
   ("grams".toList, .g), ("gramme".toList, .g), ("kilogram".toList, .kg), ("kilograms".toList, .kg),
   ("milligram".toList, .mg), ("milligrams".toList, .mg), ("microgram".toList, .ug), ("micrograms".toList, .ug),
   ("ug".toList, .ug), ("carat".toList, .ct), ("carats".toList, .ct), ("pound".toList, .lb),
   ("pounds".toList, .lb), ("ounce".toList, .oz), ("ounces".toList, .oz), ("troy_ounce".toList, .ozt),
   ("troy_ounces".toList, .ozt), ("grain".toList, .gr), ("grains".toList, .gr), ("pennyweight".toList, .dwt),
   ("newton".toList, .newton), ("newtons".toList, .newton), ("ton".toList, .t), ("tons".toList, .t),
   ("tonne".toList, .t), ("tonnes".toList, .t), ("metric_ton".toList, .t), ("user_defined".toList, .userdef),
   ("user_def".toList, .userdef), ("hongkong_tael".toList, .taelHk), ("hk_tael".toList, .taelHk),
   ("singapore_tael".toList, .taelSg), ("sg_tael".toList, .taelSg), ("taiwan_tael".toList, .taelTw),
   ("tw_tael".toList, .taelTw), ("chinese_tael".toList, .taelCn), ("cn_tael".toList, .taelCn)]

def unitAliases : Dict Text MeasurementUnit :=
  Dict.update
    (Dict.update [] ((units.filter fun u => u ≠ .unknown ∧ u ∉ unitAmbiguousShorts).map fun u =>
      (normalise u.value.toList, u)))
    unitLongForms

def unknownUnit (raw key : Text) : SartoriusError where
  cls := .unknownUnitError
  message := s!"unknown unit {textRepr (String.ofList raw)}"
  context := { extra := [("input", .text (String.ofList raw)), ("normalised", .text (String.ofList key))] }

/-- A member of `Unit` is returned as it is. -/
def resolveUnit : MeasurementUnit ⊕ Text → Except SartoriusError MeasurementUnit
  | .inl u => .ok u
  | .inr raw =>
      let key := normalise raw
      match unitAliases.get? key with
      | some u => .ok u
      | none => .error (unknownUnit raw key)

/-! ## Modes -/

/-- An `IntEnum`: the name of the class, and the name and the value of each member. -/
structure EnumClass (E : Type) where
  name : String
  members : List (String × Int × E)

/-- What a mode is given by. -/
inductive Argument (E : Type) where
  | member (e : E)
  | int (n : Int)
  | text (t : Text)

section Modes

variable {E : Type}

/-- `_build_mode_aliases`; the member with the value 0 has no name. -/
def buildModeAliases (cls : EnumClass E) (extra : List (String × E) := []) : Dict Text E :=
  Dict.update
    (Dict.update [] ((cls.members.filter fun m => m.2.1 ≠ 0).map fun m => (normalise m.1.toList, m.2.2)))
    (extra.map fun e => (normalise e.1.toList, e.2))

def invalidCode (cls : EnumClass E) (n : Int) : SartoriusError where
  cls := .validationError
  message := s!"{n} is not a valid {cls.name}"
  context := { extra := [("input", .int n), ("enum", .text cls.name)] }

def unknownMode (cls : EnumClass E) (aliases : Dict Text E) (raw key : Text) : SartoriusError where
  cls := .validationError
  message := s!"unknown {cls.name} {textRepr (String.ofList raw)}"
  context :=
    { extra := [("input", .text (String.ofList raw)), ("normalised", .text (String.ofList key)),
                ("enum", .text cls.name), ("known", .texts ((aliases.keys.map String.ofList).mergeSort))] }

/-- `_resolve_enum`. -/
def resolveEnum (cls : EnumClass E) (aliases : Dict Text E) : Argument E → Except SartoriusError E
  | .member e => .ok e
  | .int n =>
      match cls.members.find? fun m => m.2.1 = n with
      | some m => .ok m.2.2
      | none => .error (invalidCode cls n)
  | .text raw =>
      let key := normalise raw
      match aliases.get? key with
      | some e => .ok e
      | none => .error (unknownMode cls aliases raw key)

end Modes

inductive FilterMode where
  | unknown | veryStable | stable | unstable | veryUnstable
  deriving DecidableEq, Repr

inductive TareBehavior where
  | unknown | withoutStability | withStability | atStability
  deriving DecidableEq, Repr

inductive AutoZeroMode where
  | unknown | on | off
  deriving DecidableEq, Repr

inductive DisplayAccuracyMode where
  | unknown | default | lowPowerOnOff | div1 | minus1Digit
  deriving DecidableEq, Repr

inductive IsoCalMode where
  | unknown | off | note | on
  deriving DecidableEq, Repr

inductive OutputMode where
  | unknown | manualImmediate | manualAfterStability | manualAtStability | autoprintUnfiltered | autoprintStable
  deriving DecidableEq, Repr

inductive MenuAccessMode where
  | unknown | canEdit | readOnly
  deriving DecidableEq, Repr

def filterMode : EnumClass FilterMode where
  name := "FilterMode"
  members := [("UNKNOWN", 0, .unknown), ("VERY_STABLE", 1, .veryStable), ("STABLE", 2, .stable),
    ("UNSTABLE", 3, .unstable), ("VERY_UNSTABLE", 4, .veryUnstable)]

def tareBehavior : EnumClass TareBehavior where
  name := "TareBehavior"
  members := [("UNKNOWN", 0, .unknown), ("WITHOUT_STABILITY", 1, .withoutStability),
    ("WITH_STABILITY", 2, .withStability), ("AT_STABILITY", 3, .atStability)]

def autoZeroMode : EnumClass AutoZeroMode where
  name := "AutoZeroMode"
  members := [("UNKNOWN", 0, .unknown), ("ON", 1, .on), ("OFF", 2, .off)]

def displayAccuracyMode : EnumClass DisplayAccuracyMode where
  name := "DisplayAccuracyMode"
  members := [("UNKNOWN", 0, .unknown), ("DEFAULT", 1, .default), ("LOW_POWER_ON_OFF", 2, .lowPowerOnOff),
    ("DIV1", 6, .div1), ("MINUS_1_DIGIT", 7, .minus1Digit)]

def isoCalMode : EnumClass IsoCalMode where
  name := "IsoCalMode"
  members := [("UNKNOWN", 0, .unknown), ("OFF", 1, .off), ("NOTE", 2, .note), ("ON", 3, .on)]

def outputMode : EnumClass OutputMode where
  name := "OutputMode"
  members := [("UNKNOWN", 0, .unknown), ("MANUAL_IMMEDIATE", 1, .manualImmediate),
    ("MANUAL_AFTER_STABILITY", 2, .manualAfterStability), ("MANUAL_AT_STABILITY", 3, .manualAtStability),
    ("AUTOPRINT_UNFILTERED", 4, .autoprintUnfiltered), ("AUTOPRINT_STABLE", 5, .autoprintStable)]

def menuAccessMode : EnumClass MenuAccessMode where
  name := "MenuAccessMode"
  members := [("UNKNOWN", 0, .unknown), ("CAN_EDIT", 1, .canEdit), ("READ_ONLY", 2, .readOnly)]

def filterAliases : Dict Text FilterMode :=
  buildModeAliases filterMode
    [("v_stable", .veryStable), ("vs", .veryStable), ("v_unstable", .veryUnstable), ("vu", .veryUnstable)]

def autoZeroAliases : Dict Text AutoZeroMode :=
  buildModeAliases autoZeroMode [("enabled", .on), ("disabled", .off), ("true", .on), ("false", .off)]

def tareAliases : Dict Text TareBehavior :=
  buildModeAliases tareBehavior
    [("wo_stab", .withoutStability), ("w_stab", .withStability), ("at_stab", .atStability)]

def displayAccAliases : Dict Text DisplayAccuracyMode :=
  buildModeAliases displayAccuracyMode
    [("normal", .default), ("lponoff", .lowPowerOnOff), ("lp_onoff", .lowPowerOnOff), ("low_power", .lowPowerOnOff),
     ("minus_1_digit", .minus1Digit), ("minus_one_digit", .minus1Digit), ("_1_digit", .minus1Digit),
     ("1_digit", .minus1Digit), ("reduced", .minus1Digit)]

def isoCalAliases : Dict Text IsoCalMode := buildModeAliases isoCalMode [("enabled", .on), ("disabled", .off)]

def outputAliases : Dict Text OutputMode :=
  buildModeAliases outputMode
    [("ind_no", .manualImmediate), ("ind_after", .manualAfterStability), ("ind_at", .manualAtStability),
     ("auto_wo", .autoprintUnfiltered), ("auto_w", .autoprintStable), ("autoprint", .autoprintStable)]

def menuAccessAliases : Dict Text MenuAccessMode :=
  buildModeAliases menuAccessMode
    [("editable", .canEdit), ("readonly", .readOnly), ("rd_only", .readOnly), ("locked", .readOnly)]

def resolveFilterMode : Argument FilterMode → Except SartoriusError FilterMode := resolveEnum filterMode filterAliases

def resolveAutoZero : Argument AutoZeroMode → Except SartoriusError AutoZeroMode :=
  resolveEnum autoZeroMode autoZeroAliases

def resolveTareBehavior : Argument TareBehavior → Except SartoriusError TareBehavior :=
  resolveEnum tareBehavior tareAliases

def resolveDisplayAccuracy : Argument DisplayAccuracyMode → Except SartoriusError DisplayAccuracyMode :=
  resolveEnum displayAccuracyMode displayAccAliases

def resolveIsocalMode : Argument IsoCalMode → Except SartoriusError IsoCalMode := resolveEnum isoCalMode isoCalAliases

def resolveOutputMode : Argument OutputMode → Except SartoriusError OutputMode := resolveEnum outputMode outputAliases

def resolveMenuAccess : Argument MenuAccessMode → Except SartoriusError MenuAccessMode :=
  resolveEnum menuAccessMode menuAccessAliases

/-! ## One name, many spellings -/

theorem mem_subSeparators {inRun : Bool} {t : Text} {c : Char} (h : c ∈ subSeparators inRun t) : c = '_' ∨ c ∈ t := by
  induction t generalizing inRun with
  | nil => cases h
  | cons d t ih =>
      rw [subSeparators] at h
      split at h
      · split at h
        · exact (ih h).imp_right (List.mem_cons_of_mem d)
        · rcases List.mem_cons.mp h with rfl | h
          · exact .inl rfl
          · exact (ih h).imp_right (List.mem_cons_of_mem d)
      · rcases List.mem_cons.mp h with rfl | h
        · exact .inr List.mem_cons_self
        · exact (ih h).imp_right (List.mem_cons_of_mem d)

/-- The characters of a name that has been brought to its spelling. -/
theorem mem_normalise {raw : Text} {c : Char} (h : c ∈ normalise raw) :
    isWord c = true ∧ Text.lowerChar c = c := by
  obtain ⟨hc, hword⟩ := List.mem_filter.mp h
  refine ⟨hword, ?_⟩
  rcases mem_subSeparators hc with rfl | hc
  · decide
  · obtain ⟨d, -, rfl⟩ := List.mem_map.mp hc
    exact lowerChar_lowerChar d

theorem subSeparators_eq_self {t : Text} (h : ∀ c ∈ t, isSeparator c = false) (inRun : Bool) :
    subSeparators inRun t = t := by
  induction t generalizing inRun with
  | nil => rfl
  | cons c t ih =>
      rw [subSeparators, if_neg (by simp [h c List.mem_cons_self]), ih fun x hx => h x (List.mem_cons_of_mem _ hx)]

theorem strip_eq_self {t : Text} (h : ∀ c ∈ t, Text.isSpace c = false) : Text.strip t = t := by
  rcases List.eq_nil_or_concat t with rfl | ⟨init, d, rfl⟩
  · rfl
  · rw [List.concat_eq_append] at h ⊢
    have hd := h d (by simp)
    cases init with
    | nil => rw [Text.strip, List.nil_append, Text.lstrip_cons hd, Text.rstrip_cons hd]; rfl
    | cons c init =>
        rw [Text.strip, List.cons_append, Text.lstrip_cons (h c (by simp)), ← List.cons_append,
          Text.rstrip_append_cons hd]
        rfl

theorem normalise_normalise (raw : Text) : normalise (normalise raw) = normalise raw := by
  have hword : ∀ c ∈ normalise raw, isWord c = true := fun c hc => (mem_normalise hc).1
  rw [normalise, strip_eq_self fun c hc => isSpace_of_isWord (hword c hc), Text.lower,
    List.map_congr_left fun c hc => (mem_normalise hc).2, List.map_id',
    subSeparators_eq_self fun c hc => isSeparator_of_isWord (hword c hc), List.filter_eq_self]
  exact hword

theorem normalise_spelled {before after w : Text} {rest : List (Text × Text)}
    (hbefore : ∀ c ∈ before, Text.isSpace c = true) (hafter : ∀ c ∈ after, Text.isSpace c = true) (hw : IsWord w)
    (hrest : ∀ p ∈ rest, IsRun p.1 ∧ IsWord p.2) :
    normalise (before ++ spelled w rest ++ after) =
      Text.join "_".toList ((w :: rest.map Prod.snd).map Text.lower) := by
  have hlower : ∀ p ∈ rest.map (fun p => (p.1, Text.lower p.2)), IsRun p.1 ∧ IsWord p.2 := by
    intro p hp
    obtain ⟨q, hq, rfl⟩ := List.mem_map.mp hp
    exact ⟨(hrest q hq).1, (hrest q hq).2.lower⟩
  have hwords : ∀ v ∈ Text.lower w :: (rest.map fun p => (p.1, Text.lower p.2)).map Prod.snd, IsWord v := by
    intro v hv
    rcases List.mem_cons.mp hv with rfl | hv
    · exact hw.lower
    · obtain ⟨p, hp, rfl⟩ := List.mem_map.mp hv
      exact (hlower p hp).2
  rw [normalise, strip_spelled hbefore hafter hw hrest, lower_spelled hrest,
    subSeparators_spelled false hw.lower hlower, List.filter_eq_self.mpr (isWord_join hwords)]
  simp [Function.comp_def]

/-- `raw` is a spelling of the words: in any letter case, with runs of separators between them and blanks around. -/
def Spells (words : List Text) (raw : Text) : Prop :=
  ∃ before after w rest, raw = before ++ spelled w rest ++ after ∧ (∀ c ∈ before, Text.isSpace c = true) ∧
    (∀ c ∈ after, Text.isSpace c = true) ∧ IsWord w ∧ (∀ p ∈ rest, IsRun p.1 ∧ IsWord p.2) ∧
    (w :: rest.map Prod.snd).map Text.lower = words.map Text.lower

theorem Spells.normalise {words : List Text} {raw : Text} (h : Spells words raw) :
    normalise raw = Text.join "_".toList (words.map Text.lower) := by
  obtain ⟨before, after, w, rest, rfl, hbefore, hafter, hw, hrest, hwords⟩ := h
  rw [normalise_spelled hbefore hafter hw hrest, hwords]

theorem resolveUnit_toOption (raw : Text) : (resolveUnit (.inr raw)).toOption = unitAliases.get? (normalise raw) := by
  unfold resolveUnit
  dsimp only
  cases unitAliases.get? (normalise raw) <;> rfl

theorem resolveEnum_toOption {E : Type} (cls : EnumClass E) (aliases : Dict Text E) (raw : Text) :
    (resolveEnum cls aliases (.text raw)).toOption = aliases.get? (normalise raw) := by
  unfold resolveEnum
  dsimp only
  cases aliases.get? (normalise raw) <;> rfl

/-- A second pass changes nothing, every spelling of the same words comes out as the lower-cased words joined by
underscores, and so all of them are the same unit and the same mode. -/
theorem normalise_spellings :
    (∀ raw : Text, (∀ c ∈ raw, c.toNat < 128) → normalise (normalise raw) = normalise raw) ∧
    (∀ words raw, Spells words raw → normalise raw = Text.join "_".toList (words.map Text.lower)) ∧
    ∀ words raw raw', Spells words raw → Spells words raw' →
      (resolveUnit (.inr raw)).toOption = (resolveUnit (.inr raw')).toOption ∧
      ∀ (E : Type) (cls : EnumClass E) (aliases : Dict Text E),
        (resolveEnum cls aliases (.text raw)).toOption = (resolveEnum cls aliases (.text raw')).toOption := by
  refine ⟨fun raw _ => normalise_normalise raw, fun words raw h => h.normalise, fun words raw raw' h h' => ?_⟩
  have hsame : normalise raw = normalise raw' := h.normalise.trans h'.normalise.symm
  refine ⟨?_, fun E cls aliases => ?_⟩
  · rw [resolveUnit_toOption, resolveUnit_toOption, hsame]
  · rw [resolveEnum_toOption, resolveEnum_toOption, hsame]

/-- Two spellings of a filter mode. -/
theorem normalise_spellings_very_stable :
    normalise " Very-.STABLE\n".toList = "very_stable".toList ∧
      (resolveEnum filterMode filterAliases (.text " Very-.STABLE\n".toList)).toOption =
        (resolveEnum filterMode filterAliases (.text "very stable".toList)).toOption := by
  have hloud : Spells ["very".toList, "stable".toList] " Very-.STABLE\n".toList :=
    ⟨" ".toList, "\n".toList, "Very".toList, [("-.".toList, "STABLE".toList)], rfl,
      List.all_eq_true.mp (by decide), List.all_eq_true.mp (by decide), by decide,
      fun p hp => List.mem_singleton.mp hp ▸ by decide, rfl⟩
  have hplain : Spells ["very".toList, "stable".toList] "very stable".toList :=
    ⟨[], [], "very".toList, [(" ".toList, "stable".toList)], rfl, by simp, by simp, by decide,
      fun p hp => List.mem_singleton.mp hp ▸ by decide, rfl⟩
  obtain ⟨-, hspelling, hresolve⟩ := normalise_spellings
  exact ⟨hspelling _ _ hloud, (hresolve _ _ _ hloud hplain).2 _ filterMode filterAliases⟩

end SartoriusLib.Registry
