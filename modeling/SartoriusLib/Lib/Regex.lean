import Mathlib.Data.List.Basic
import Mathlib.Tactic.Common

/-!
# Backtracking regular expressions

A fragment of the patterns of a backtracking matcher: greedy repetition of a character class, options,
ordered alternatives and named groups. `run` lists the successes in the order in which the matcher tries
them; `Matches` says what a success is, without the order.
-/

namespace SartoriusLib.Lib

/-- Patterns with group names in `ν`. -/
inductive Re (ν : Type) where
  /-- Between `lo` and `hi` characters of a class, as many as possible first. -/
  | rep (p : Char → Bool) (lo : Nat) (hi : Option Nat)
  | opt (r : Re ν)
  | alt (r s : Re ν)
  | seq (r s : Re ν)
  | group (name : ν) (r : Re ν)

namespace Re

variable {ν : Type}

/-- What the groups of a pattern captured, innermost and earliest first. -/
abbrev Captures (ν : Type) : Type := List (ν × List Char)

/-- One character of a class. -/
def one (p : Char → Bool) : Re ν := rep p 1 (some 1)

def chr (c : Char) : Re ν := one (· == c)

/-- `p*`. -/
def many (p : Char → Bool) : Re ν := rep p 0 none

/-- `p+`. -/
def some (p : Char → Bool) : Re ν := rep p 1 none

/-- The most characters of a class that a repetition can take at the front of `s`. -/
def repMax (p : Char → Bool) (hi : Option Nat) (s : List Char) : Nat :=
  match hi with
  | none => (s.takeWhile p).length
  | .some n => min n (s.takeWhile p).length

/-- The successes of `r` on a prefix of `s`, in order, with the rest of the text. -/
def run : Re ν → List Char → List (Captures ν × List Char)
  | rep p lo hi, s =>
      (List.range' lo (repMax p hi s + 1 - lo)).reverse.map fun k => ([], s.drop k)
  | opt r, s => run r s ++ [([], s)]
  | alt r t, s => run r s ++ run t s
  | seq r t, s => (run r s).flatMap fun a => (run t a.2).map fun b => (a.1 ++ b.1, b.2)
  | group n r, s => (run r s).map fun a => (a.1 ++ [(n, s.take (s.length - a.2.length))], a.2)

/-- The captures of the first success on the whole of `s`: the pattern between `\A` and `\Z`. -/
def fullmatch (r : Re ν) (s : List Char) : Option (Captures ν) :=
  ((run r s).find? fun a => a.2.isEmpty).map Prod.fst

/-- `r` can take exactly the text `t`, with these captures. -/
def Matches : Re ν → List Char → Captures ν → Prop
  | rep p lo hi, t, c => (∀ x ∈ t, p x = true) ∧ lo ≤ t.length ∧ (∀ n ∈ hi, t.length ≤ n) ∧ c = []
  | opt r, t, c => Matches r t c ∨ (t = [] ∧ c = [])
  | alt r s, t, c => Matches r t c ∨ Matches s t c
  | seq r s, t, c => ∃ t₁ c₁ t₂ c₂, t = t₁ ++ t₂ ∧ c = c₁ ++ c₂ ∧ Matches r t₁ c₁ ∧ Matches s t₂ c₂
  | group n r, t, c => ∃ c₁, c = c₁ ++ [(n, t)] ∧ Matches r t c₁

/-! ## The matcher is sound and complete -/

theorem le_takeWhile_length {p : Char → Bool} {t rest : List Char} (h : ∀ x ∈ t, p x = true) :
    t.length ≤ ((t ++ rest).takeWhile p).length := by
  rw [List.takeWhile_append_of_pos h]
  simp

theorem take_takeWhile_all {p : Char → Bool} {s : List Char} {k : Nat} (h : k ≤ (s.takeWhile p).length) :
    ∀ x ∈ s.take k, p x = true := by
  intro x hx
  have hpre : s.take k <+: s.takeWhile p :=
    List.prefix_of_prefix_length_le (List.take_prefix k s) (List.takeWhile_prefix p)
      (by rw [List.length_take]; omega)
  exact List.all_eq_true.mp List.all_takeWhile x (hpre.subset hx)

theorem mem_run_iff (r : Re ν) (s : List Char) (c : Captures ν) (rest : List Char) :
    (c, rest) ∈ run r s ↔ ∃ t, s = t ++ rest ∧ Matches r t c := by
  induction r generalizing s c rest with
  | rep p lo hi =>
      simp only [run, List.mem_map, List.mem_reverse, List.mem_range'_1, Prod.mk.injEq, Matches]
      constructor
      · rintro ⟨k, ⟨hlo, hk⟩, rfl, rfl⟩
        have hmax : k ≤ repMax p hi s := by omega
        have hk' : k ≤ (s.takeWhile p).length := by
          cases hi <;> simp only [repMax] at hmax <;> omega
        have hks : k ≤ s.length := Nat.le_trans hk' (List.takeWhile_prefix p).length_le
        refine ⟨s.take k, (List.take_append_drop k s).symm, take_takeWhile_all hk', ?_, ?_, rfl⟩
        · rwa [List.length_take, Nat.min_eq_left hks]
        · rintro n rfl
          simp only [repMax] at hmax
          rw [List.length_take]
          omega
      · rintro ⟨t, rfl, hall, hlo, hhi, rfl⟩
        refine ⟨t.length, ⟨hlo, ?_⟩, rfl, by simp⟩
        have : t.length ≤ ((t ++ rest).takeWhile p).length := le_takeWhile_length hall
        have hmax : t.length ≤ repMax p hi (t ++ rest) := by
          cases hi with
          | none => exact this
          | some n => exact Nat.le_min.mpr ⟨hhi n rfl, this⟩
        omega
  | opt r ih =>
      simp only [run, List.mem_append, ih, List.mem_singleton, Prod.mk.injEq, Matches]
      constructor
      · rintro (⟨t, h, hm⟩ | ⟨rfl, rfl⟩)
        · exact ⟨t, h, .inl hm⟩
        · exact ⟨[], rfl, .inr ⟨rfl, rfl⟩⟩
      · rintro ⟨t, h, hm | ⟨rfl, rfl⟩⟩
        · exact .inl ⟨t, h, hm⟩
        · exact .inr ⟨rfl, h.symm⟩
  | alt r r' ih ih' =>
      simp only [run, List.mem_append, ih, ih', Matches]
      constructor
      · rintro (⟨t, h, hm⟩ | ⟨t, h, hm⟩)
        · exact ⟨t, h, .inl hm⟩
        · exact ⟨t, h, .inr hm⟩
      · rintro ⟨t, h, hm | hm⟩
        · exact .inl ⟨t, h, hm⟩
        · exact .inr ⟨t, h, hm⟩
  | seq r r' ih ih' =>
      simp only [run, List.mem_flatMap, List.mem_map, Prod.exists, Prod.mk.injEq, ih, ih', Matches]
      constructor
      · rintro ⟨c₁, s₁, ⟨t₁, rfl, h₁⟩, c₂, s₂, ⟨t₂, rfl, h₂⟩, rfl, rfl⟩
        exact ⟨t₁ ++ t₂, (List.append_assoc ..).symm, t₁, c₁, t₂, c₂, rfl, rfl, h₁, h₂⟩
      · rintro ⟨t, rfl, t₁, c₁, t₂, c₂, rfl, rfl, h₁, h₂⟩
        exact ⟨c₁, t₂ ++ rest, ⟨t₁, List.append_assoc .., h₁⟩, c₂, rest, ⟨t₂, rfl, h₂⟩, rfl, rfl⟩
  | group n r ih =>
      simp only [run, List.mem_map, Prod.exists, Prod.mk.injEq, ih, Matches]
      constructor
      · rintro ⟨c₁, _, ⟨t, rfl, h⟩, rfl, rfl⟩
        exact ⟨t, rfl, c₁, by simp, h⟩
      · rintro ⟨t, rfl, c₁, rfl, h⟩
        exact ⟨c₁, rest, ⟨t, rfl, h⟩, by simp, rfl⟩

/-- What a full match captured is one way to match the text. -/
theorem matches_of_fullmatch {r : Re ν} {s : List Char} {c : Captures ν} (h : fullmatch r s = .some c) :
    Matches r s c := by
  simp only [fullmatch, Option.map_eq_some_iff] at h
  obtain ⟨⟨c', rest⟩, hfind, rfl⟩ := h
  have hrest : rest = [] := by simpa using List.find?_some hfind
  obtain ⟨t, hs, hm⟩ := (mem_run_iff ..).mp (List.mem_of_find?_eq_some hfind)
  rw [hrest, List.append_nil] at hs
  exact hs ▸ hm

/-- A text that matches in some way is matched. -/
theorem fullmatch_of_matches {r : Re ν} {s : List Char} {c : Captures ν} (h : Matches r s c) :
    ∃ c', fullmatch r s = .some c' := by
  have hmem : (c, []) ∈ run r s := (mem_run_iff ..).mpr ⟨s, (List.append_nil s).symm, h⟩
  have hfind : ((run r s).find? fun a => a.2.isEmpty).isSome :=
    List.find?_isSome.mpr ⟨_, hmem, rfl⟩
  obtain ⟨a, ha⟩ := Option.isSome_iff_exists.mp hfind
  exact ⟨a.1, by rw [fullmatch, ha]; rfl⟩

theorem fullmatch_eq_none_iff {r : Re ν} {s : List Char} :
    fullmatch r s = none ↔ ∀ c, ¬ Matches r s c := by
  constructor
  · intro h c hm
    obtain ⟨c', hc⟩ := fullmatch_of_matches hm
    rw [h] at hc
    cases hc
  · intro h
    cases hf : fullmatch r s with
    | none => rfl
    | some c => exact absurd (matches_of_fullmatch hf) (h c)

/-! ## The text of a group -/

/-- The text that a group captured. -/
def Captures.get? [DecidableEq ν] (c : Captures ν) (n : ν) : Option (List Char) := c.lookup n

/-! ## Matching the constructs -/

theorem matches_seq {r s : Re ν} {t : List Char} {c : Captures ν} :
    Matches (seq r s) t c ↔
      ∃ t₁ c₁ t₂ c₂, t = t₁ ++ t₂ ∧ c = c₁ ++ c₂ ∧ Matches r t₁ c₁ ∧ Matches s t₂ c₂ := Iff.rfl

theorem matches_opt {r : Re ν} {t : List Char} {c : Captures ν} :
    Matches (opt r) t c ↔ Matches r t c ∨ (t = [] ∧ c = []) := Iff.rfl

theorem matches_group {n : ν} {r : Re ν} {t : List Char} {c : Captures ν} :
    Matches (group n r) t c ↔ ∃ c₁, c = c₁ ++ [(n, t)] ∧ Matches r t c₁ := Iff.rfl

@[simp] theorem matches_many {p : Char → Bool} {t : List Char} {c : Captures ν} :
    Matches (many p) t c ↔ (∀ x ∈ t, p x = true) ∧ c = [] := by
  simp [many, Matches]

@[simp] theorem matches_some {p : Char → Bool} {t : List Char} {c : Captures ν} :
    Matches (some p) t c ↔ (∀ x ∈ t, p x = true) ∧ t ≠ [] ∧ c = [] := by
  simp [some, Matches, Nat.one_le_iff_ne_zero]

@[simp] theorem matches_one {p : Char → Bool} {t : List Char} {c : Captures ν} :
    Matches (one p) t c ↔ ∃ x, t = [x] ∧ p x = true ∧ c = [] := by
  simp only [one, Matches, Option.mem_def, Option.some.injEq, forall_eq']
  constructor
  · rintro ⟨hall, h₁, h₂, rfl⟩
    obtain ⟨x, rfl⟩ := List.length_eq_one_iff.mp (Nat.le_antisymm h₂ h₁)
    exact ⟨x, rfl, hall x List.mem_cons_self, rfl⟩
  · rintro ⟨x, rfl, hx, rfl⟩
    simp [hx]

/-! ## Patterns without groups -/

/-- The pattern takes the texts with `P`, and captures nothing. -/
def Bare (r : Re ν) (P : List Char → Prop) : Prop := ∀ t c, Matches r t c ↔ c = [] ∧ P t

theorem Bare.many (p : Char → Bool) : Bare (many p : Re ν) fun t => ∀ x ∈ t, p x = true :=
  fun _ _ => matches_many.trans and_comm

theorem Bare.seq {r s : Re ν} {P Q : List Char → Prop} (hr : Bare r P) (hs : Bare s Q) :
    Bare (seq r s) fun t => ∃ u v, t = u ++ v ∧ P u ∧ Q v := by
  intro t c
  rw [matches_seq]
  constructor
  · rintro ⟨u, c₁, v, c₂, ht, rfl, hu, hv⟩
    obtain ⟨rfl, hp⟩ := (hr u c₁).mp hu
    obtain ⟨rfl, hq⟩ := (hs v c₂).mp hv
    exact ⟨rfl, u, v, ht, hp, hq⟩
  · rintro ⟨rfl, u, v, ht, hp, hq⟩
    exact ⟨u, [], v, [], ht, rfl, (hr u []).mpr ⟨rfl, hp⟩, (hs v []).mpr ⟨rfl, hq⟩⟩

/-! ## The success that is tried first -/

section First

variable {r s : Re ν} {t u v : List Char} {c d : Captures ν} {p : Char → Bool} {lo : Nat}

/-- `v` does not start with a character of the class. -/
def Avoids (p : Char → Bool) (v : List Char) : Prop := ∀ x ∈ v.head?, p x = false

theorem takeWhile_append_avoids (hu : ∀ x ∈ u, p x = true) (hv : Avoids p v) : (u ++ v).takeWhile p = u := by
  rw [List.takeWhile_append_of_pos hu]
  cases v with
  | nil => simp
  | cons x v => simp [hv x rfl]

/-- A repetition first takes all characters of its class. -/
theorem first_rep (hu : ∀ x ∈ u, p x = true) (hv : Avoids p v) (hlo : lo ≤ u.length) :
    (run (rep p lo none : Re ν) (u ++ v)).head? = .some ([], v) := by
  have hmax : repMax p none (u ++ v) = u.length := by rw [repMax, takeWhile_append_avoids hu hv]
  have hcount : u.length + 1 - lo = (u.length - lo) + 1 := by omega
  rw [run, hmax, hcount, List.range'_concat, List.reverse_append]
  simp only [List.reverse_singleton, List.singleton_append, List.map_cons, List.head?_cons, Nat.one_mul]
  rw [show lo + (u.length - lo) = u.length by omega, List.drop_left]

theorem first_many (hu : ∀ x ∈ u, p x = true) (hv : Avoids p v) :
    (run (many p : Re ν) (u ++ v)).head? = .some ([], v) :=
  first_rep hu hv (Nat.zero_le _)

theorem first_some (hu : ∀ x ∈ u, p x = true) (hne : u ≠ []) (hv : Avoids p v) :
    (run (some p : Re ν) (u ++ v)).head? = .some ([], v) :=
  first_rep hu hv (List.length_pos_iff.mpr hne)

theorem first_one {x : Char} (hx : p x = true) : (run (one p : Re ν) (x :: v)).head? = .some ([], v) := by
  simp [one, run, repMax, hx]

/-- A repetition that needs a character of its class fails without one. -/
theorem run_rep_eq_nil {hi : Option Nat} (hv : Avoids p v) (hlo : 0 < lo) : run (rep p lo hi : Re ν) v = [] := by
  have hzero : repMax p hi v = 0 := by
    have htake : v.takeWhile p = [] := by simpa using takeWhile_append_avoids (u := []) (by simp) hv
    cases hi <;> simp [repMax, htake]
  rw [run, hzero, show 0 + 1 - lo = 0 by omega]
  rfl

theorem run_seq_eq_nil (h : run r t = []) : run (seq r s) t = [] := by simp [run, h]

theorem run_group_eq_nil {n : ν} (h : run r t = []) : run (group n r) t = [] := by simp [run, h]

theorem first_seq (hr : (run r t).head? = .some (c, u)) (hs : (run s u).head? = .some (d, v)) :
    (run (seq r s) t).head? = .some (c ++ d, v) := by
  obtain ⟨l, hl⟩ := List.head?_eq_some_iff.mp hr
  obtain ⟨l', hl'⟩ := List.head?_eq_some_iff.mp hs
  simp [run, hl, hl']

theorem first_opt (hr : (run r t).head? = .some (c, u)) : (run (opt r) t).head? = .some (c, u) := by
  simp [run, List.head?_append, hr]

/-- An option whose pattern fails takes nothing. -/
theorem first_opt_nil (hr : run r t = []) : (run (opt r) t).head? = .some ([], t) := by simp [run, hr]

theorem first_alt (hr : (run r t).head? = .some (c, u)) : (run (alt r s) t).head? = .some (c, u) := by
  simp [run, List.head?_append, hr]

theorem first_alt_nil (hr : run r t = []) (hs : (run s t).head? = .some (c, u)) :
    (run (alt r s) t).head? = .some (c, u) := by
  simp [run, hr, hs]

theorem first_group {n : ν} (hr : (run r (t ++ v)).head? = .some (c, v)) :
    (run (group n r) (t ++ v)).head? = .some (c ++ [(n, t)], v) := by
  simp [run, hr]

/-- A first success that takes the whole text is the full match. -/
theorem fullmatch_of_first (h : (run r t).head? = .some (c, [])) : fullmatch r t = .some c := by
  obtain ⟨l, hl⟩ := List.head?_eq_some_iff.mp h
  simp [fullmatch, hl]

/-- What the first part of a sequence takes first it keeps, if the second part can take the rest. -/
theorem fullmatch_seq_of_first (hr : (run r t).head? = .some (c, u)) (hs : Matches s u d) :
    ∃ d', fullmatch s u = .some d' ∧ fullmatch (seq r s) t = .some (c ++ d') := by
  obtain ⟨l, hl⟩ := List.head?_eq_some_iff.mp hr
  obtain ⟨d', hd'⟩ := fullmatch_of_matches hs
  refine ⟨d', hd', ?_⟩
  obtain ⟨a, ha, rfl⟩ := Option.map_eq_some_iff.mp hd'
  have hfind : ((run s u).map fun b => (c ++ b.1, b.2)).find? (fun a => a.2.isEmpty) = .some (c ++ a.1, a.2) := by
    rw [List.find?_map]
    exact congrArg (Option.map _) ha
  simp only [fullmatch, run, hl, List.flatMap_cons, List.find?_append, hfind, Option.some_or, Option.map_some]

/-- A full match of a sequence is a match of its first part and a full match of the rest. -/
theorem fullmatch_seq {m : Captures ν} (h : fullmatch (seq r s) t = .some m) :
    ∃ t₁ c t₂ d, t = t₁ ++ t₂ ∧ Matches r t₁ c ∧ fullmatch s t₂ = .some d ∧ m = c ++ d := by
  simp only [fullmatch, run, List.find?_flatMap, Option.map_eq_some_iff] at h
  obtain ⟨a, hfind, rfl⟩ := h
  obtain ⟨⟨c, t₂⟩, hmem, hsome⟩ := List.exists_of_findSome?_eq_some hfind
  rw [List.find?_map, Option.map_eq_some_iff] at hsome
  obtain ⟨b, hb, rfl⟩ := hsome
  obtain ⟨t₁, rfl, hm⟩ := (mem_run_iff ..).mp hmem
  exact ⟨t₁, c, t₂, b.1, rfl, hm, by rw [fullmatch]; exact congrArg (Option.map Prod.fst) hb, rfl⟩

end First

end Re

end SartoriusLib.Lib
