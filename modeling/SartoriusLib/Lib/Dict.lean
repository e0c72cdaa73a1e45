import Mathlib.Data.List.Basic
import Mathlib.Data.List.Induction
import Mathlib.Tactic.Common

/-!
# Insertion-ordered dictionaries

A dictionary as the list of its entries in the order in which their keys were first inserted; writing a
key that is present replaces its value in place.
-/

namespace SartoriusLib.Lib

/-- The entries of a dictionary, in insertion order. -/
abbrev Dict (κ ν : Type) : Type := List (κ × ν)

namespace Dict

variable {κ ν : Type}

def keys (d : Dict κ ν) : List κ := d.map Prod.fst

@[simp] theorem keys_cons (e : κ × ν) (d : Dict κ ν) : keys (e :: d) = e.1 :: keys d := rfl

@[simp] theorem keys_append (d e : Dict κ ν) : keys (d ++ e) = keys d ++ keys e := List.map_append

theorem mem_keys {d : Dict κ ν} {k : κ} {v : ν} (h : (k, v) ∈ d) : k ∈ keys d := List.mem_map_of_mem (f := Prod.fst) h

variable [DecidableEq κ]

def get? (d : Dict κ ν) (k : κ) : Option ν := d.lookup k

def set : Dict κ ν → κ → ν → Dict κ ν
  | [], k, v => [(k, v)]
  | (k', v') :: d, k, v => if k = k' then (k, v) :: d else (k', v') :: set d k v

def pop (d : Dict κ ν) (k : κ) : Dict κ ν := d.filter fun e => e.1 ≠ k

/-- The entries of `e` written into `d` in their order. -/
def update (d e : Dict κ ν) : Dict κ ν := e.foldl (fun d e => set d e.1 e.2) d

@[simp] theorem get?_nil (k : κ) : get? ([] : Dict κ ν) k = none := rfl

theorem get?_cons (k k' : κ) (v : ν) (d : Dict κ ν) :
    get? ((k', v) :: d) k = if k = k' then some v else get? d k := by
  unfold get?
  by_cases h : k = k'
  · subst h; simp
  · have hb : (k == k') = false := by simpa using h
    simp [List.lookup_cons, hb, h]

theorem get?_set (d : Dict κ ν) (k k' : κ) (v : ν) :
    get? (set d k v) k' = if k' = k then some v else get? d k' := by
  induction d with
  | nil => simp [set, get?_cons]
  | cons e d ih =>
      obtain ⟨k₀, v₀⟩ := e
      unfold set
      split
      · subst k₀; simp only [get?_cons]; split <;> rfl
      · simp only [get?_cons, ih]
        split
        · subst k'; simp [Ne.symm ‹_›]
        · rfl

@[simp] theorem get?_set_self (d : Dict κ ν) (k : κ) (v : ν) : get? (set d k v) k = some v := by
  simp [get?_set]

theorem get?_set_ne (d : Dict κ ν) {k k' : κ} (h : k' ≠ k) (v : ν) :
    get? (set d k v) k' = get? d k' := by
  simp [get?_set, h]

theorem get?_pop (d : Dict κ ν) (k k' : κ) :
    get? (pop d k) k' = if k' = k then none else get? d k' := by
  induction d with
  | nil => simp [pop]
  | cons e d ih =>
      obtain ⟨k₀, v₀⟩ := e
      unfold pop at ih ⊢
      by_cases h : k₀ = k
      · subst h
        simp only [ne_eq, not_true_eq_false, decide_false, Bool.false_eq_true, not_false_eq_true,
          List.filter_cons_of_neg, get?_cons, ih]
        split <;> rfl
      · simp only [ne_eq, h, not_false_eq_true, decide_true, List.filter_cons_of_pos, get?_cons, ih]
        split
        · subst k₀; simp [h]
        · rfl

theorem mem_of_get? {d : Dict κ ν} {k : κ} {v : ν} (h : get? d k = some v) : (k, v) ∈ d := by
  induction d with
  | nil => cases h
  | cons e d ih =>
      obtain ⟨k₀, v₀⟩ := e
      rw [get?_cons] at h
      split at h
      · subst k₀; cases h; exact List.mem_cons_self
      · exact List.mem_cons_of_mem _ (ih h)

theorem get?_isSome_iff (d : Dict κ ν) (k : κ) : (get? d k).isSome ↔ k ∈ keys d := by
  induction d with
  | nil => simp [keys]
  | cons e d ih =>
      obtain ⟨k₀, v₀⟩ := e
      simp only [get?_cons, keys, List.map_cons, List.mem_cons]
      split
      · simp [*]
      · simp [keys, *]

theorem get?_eq_none_iff (d : Dict κ ν) (k : κ) : get? d k = none ↔ k ∉ keys d := by
  rw [← get?_isSome_iff, Option.not_isSome_iff_eq_none]

/-- A new key is written at the end. -/
theorem set_of_notMem {d : Dict κ ν} {k : κ} (h : k ∉ keys d) (v : ν) : set d k v = d ++ [(k, v)] := by
  induction d with
  | nil => rfl
  | cons e d ih =>
      rw [keys_cons, List.mem_cons, not_or] at h
      rw [set, if_neg h.1, ih h.2]
      rfl

/-- Writing a key that is present leaves the keys and their order. -/
theorem keys_set_of_mem {d : Dict κ ν} {k : κ} (h : k ∈ keys d) (v : ν) : keys (set d k v) = keys d := by
  induction d with
  | nil => cases h
  | cons e d ih =>
      unfold set
      split
      · subst k; rfl
      · rename_i hk
        rw [keys_cons, keys_cons, ih ((List.mem_cons.mp h).resolve_left hk)]

theorem pop_of_notMem {d : Dict κ ν} {k : κ} (h : k ∉ keys d) : pop d k = d := by
  refine List.filter_eq_self.mpr fun e he => ?_
  have hne : e.1 ≠ k := fun heq => h (heq ▸ List.mem_map_of_mem he)
  simpa using hne

theorem pop_set_self (d : Dict κ ν) (k : κ) (v : ν) : pop (set d k v) k = pop d k := by
  induction d with
  | nil => simp [set, pop]
  | cons e d ih =>
      obtain ⟨k₀, v₀⟩ := e
      unfold set
      split
      · subst k₀; simp [pop]
      · have hne : k₀ ≠ k := fun heq => ‹¬ k = k₀› heq.symm
        simpa [pop, hne] using ih

theorem set_set (d : Dict κ ν) (k : κ) (v v' : ν) : set (set d k v) k v' = set d k v' := by
  induction d with
  | nil => simp [set]
  | cons e d ih =>
      obtain ⟨k₀, v₀⟩ := e
      by_cases h : k = k₀
      · simp [set, h]
      · simp [set, h, ih]

theorem keys_pop (d : Dict κ ν) (k : κ) : keys (pop d k) = (keys d).filter (· ≠ k) := by
  simp [keys, pop, List.filter_map, Function.comp_def]

theorem nodup_keys_set {d : Dict κ ν} (h : (keys d).Nodup) (k : κ) (v : ν) : (keys (set d k v)).Nodup := by
  by_cases hk : k ∈ keys d
  · rwa [keys_set_of_mem hk]
  · rw [set_of_notMem hk, keys_append]
    simpa [keys, List.nodup_append] using ⟨h, fun a b hab heq => hk (heq ▸ List.mem_map_of_mem hab)⟩

theorem nodup_keys_pop {d : Dict κ ν} (h : (keys d).Nodup) (k : κ) : (keys (pop d k)).Nodup := by
  rw [keys_pop]
  exact h.filter _

theorem get?_of_mem {d : Dict κ ν} (hn : (keys d).Nodup) {k : κ} {v : ν} (h : (k, v) ∈ d) : get? d k = some v := by
  induction d with
  | nil => cases h
  | cons e d ih =>
      obtain ⟨k₀, v₀⟩ := e
      rw [keys_cons, List.nodup_cons] at hn
      rw [get?_cons]
      rcases List.mem_cons.mp h with heq | hmem
      · cases heq
        exact if_pos rfl
      · have hne : k ≠ k₀ := by
          rintro rfl
          exact hn.1 (mem_keys hmem)
        rw [if_neg hne]
        exact ih hn.2 hmem

theorem update_of_disjoint {d e : Dict κ ν} (hd : (keys e).Nodup) (h : ∀ k ∈ keys e, k ∉ keys d) :
    update d e = d ++ e := by
  induction e generalizing d with
  | nil => simp [update]
  | cons x e ih =>
      rw [keys_cons, List.nodup_cons] at hd
      have hx : x.1 ∉ keys d := h x.1 List.mem_cons_self
      have hnext : ∀ k ∈ keys e, k ∉ keys (d ++ [x]) := by
        intro k hk
        rw [keys_append, List.mem_append, not_or]
        refine ⟨h k (List.mem_cons_of_mem _ hk), ?_⟩
        rintro hx'
        rw [List.mem_singleton.mp hx'] at hk
        exact hd.1 hk
      calc update d (x :: e) = update (set d x.1 x.2) e := rfl
        _ = update (d ++ [x]) e := by rw [set_of_notMem hx]
        _ = d ++ x :: e := by rw [ih hd.2 hnext]; simp

/-- Writing a key that is present, behind entries with other keys. -/
theorem set_append_cons {d e : Dict κ ν} {k : κ} (h : k ∉ keys d) (v₀ v : ν) :
    set (d ++ (k, v₀) :: e) k v = d ++ (k, v) :: e := by
  induction d with
  | nil => simp [set]
  | cons x d ih =>
      rw [keys_cons, List.mem_cons, not_or] at h
      rw [List.cons_append, set, if_neg h.1, ih h.2]
      rfl

theorem append_update_of_keys {d e p : Dict κ ν} (hk : keys d = keys e) (hn : (keys (p ++ e)).Nodup) :
    update (p ++ d) e = p ++ e := by
  induction e generalizing d p with
  | nil => rw [List.map_eq_nil_iff.mp hk]; rfl
  | cons x e ih =>
      cases d with
      | nil => cases hk
      | cons y d =>
      obtain ⟨hxy, hde⟩ := List.cons.inj hk
      have hx : x.1 ∉ keys p := by
        rw [keys_append, keys_cons] at hn
        exact fun hin => (List.nodup_append.mp hn).2.2 _ hin _ List.mem_cons_self rfl
      have hstep : set (p ++ y :: d) x.1 x.2 = (p ++ [x]) ++ d := by
        rw [show y = (x.1, y.2) from Prod.ext hxy rfl, set_append_cons hx]
        simp
      calc update (p ++ y :: d) (x :: e) = update (set (p ++ y :: d) x.1 x.2) e := rfl
        _ = (p ++ [x]) ++ e := by rw [hstep, ih hde (by simpa using hn)]
        _ = p ++ x :: e := by simp

/-- Every entry is overwritten, in the order of the keys. -/
theorem update_of_keys {d e : Dict κ ν} (hk : keys d = keys e) (hn : (keys e).Nodup) : update d e = e :=
  append_update_of_keys (p := []) hk hn

/-- A dictionary read back by its keys. -/
theorem map_get?_keys {d : Dict κ ν} (hn : (keys d).Nodup) (v₀ : ν) :
    (keys d).map (fun k => (k, (get? d k).getD v₀)) = d := by
  induction d with
  | nil => rfl
  | cons x d ih =>
      obtain ⟨k, v⟩ := x
      rw [keys_cons, List.nodup_cons] at hn
      have hrest : (keys d).map (fun k' => (k', (get? ((k, v) :: d) k').getD v₀)) =
          (keys d).map (fun k' => (k', (get? d k').getD v₀)) := by
        refine List.map_congr_left fun k' hk' => ?_
        rw [get?_cons, if_neg (by rintro rfl; exact hn.1 hk')]
      rw [keys_cons, List.map_cons, hrest, ih hn.2, get?_cons, if_pos rfl]
      rfl

theorem get?_update_of_notMem (d : Dict κ ν) {e : Dict κ ν} {k : κ} (h : k ∉ keys e) :
    get? (update d e) k = get? d k := by
  induction e generalizing d with
  | nil => rfl
  | cons x e ih =>
      rw [keys_cons, List.mem_cons, not_or] at h
      exact (ih (set d x.1 x.2) h.2).trans (get?_set_ne d h.1 x.2)

theorem get?_update_of_mem (d : Dict κ ν) {e : Dict κ ν} (hd : (keys e).Nodup) {k : κ} (h : k ∈ keys e) :
    get? (update d e) k = get? e k := by
  induction e generalizing d with
  | nil => cases h
  | cons x e ih =>
      rw [keys_cons, List.nodup_cons] at hd
      rw [show get? (x :: e) k = if k = x.1 then some x.2 else get? e k from get?_cons ..]
      by_cases hk : k = x.1
      · rw [if_pos hk, hk]
        exact (get?_update_of_notMem (set d x.1 x.2) hd.1).trans (get?_set_self ..)
      · rw [if_neg hk]
        exact ih (set d x.1 x.2) hd.2 ((List.mem_cons.mp h).resolve_left hk)

/-! ## Grouping -/

section Group

variable {α : Type}

/-- The elements of a list under their keys, as repeated `setdefault(key, []).append(element)` leaves them. -/
def group (key : α → κ) (l : List α) : Dict κ (List α) :=
  l.foldl (fun d a => set d (key a) ((get? d (key a)).getD [] ++ [a])) []

omit [DecidableEq κ] in
theorem keys_map_mk (ks : List κ) (f : κ → ν) : keys (ks.map fun k => (k, f k)) = ks := by
  simp [keys, Function.comp_def]

theorem get?_map_mk {ks : List κ} {k : κ} (h : k ∈ ks) (f : κ → ν) :
    get? (ks.map fun k => (k, f k)) k = some (f k) := by
  induction ks with
  | nil => cases h
  | cons k' ks ih =>
      rw [List.map_cons, get?_cons]
      by_cases hk : k = k'
      · rw [if_pos hk, hk]
      · rw [if_neg hk]
        exact ih ((List.mem_cons.mp h).resolve_left hk)

theorem set_map_mk {ks : List κ} (hn : ks.Nodup) {k : κ} (h : k ∈ ks) (f : κ → ν) (v : ν) :
    set (ks.map fun k => (k, f k)) k v = ks.map fun k' => (k', if k' = k then v else f k') := by
  induction ks with
  | nil => cases h
  | cons k' ks ih =>
      rw [List.nodup_cons] at hn
      rw [List.map_cons, List.map_cons, set]
      by_cases hk : k = k'
      · subst hk
        have hrest : (ks.map fun k' => (k', if k' = k then v else f k')) = ks.map fun k' => (k', f k') :=
          List.map_congr_left fun k' hk' => by rw [if_neg (ne_of_mem_of_not_mem hk' hn.1)]
        rw [if_pos rfl, if_pos rfl, hrest]
      · rw [if_neg hk, if_neg (Ne.symm hk), ih hn.2 ((List.mem_cons.mp h).resolve_left hk)]

theorem nodup_eraseDups (l : List κ) : l.eraseDups.Nodup := by
  induction l using List.reverseRecOn with
  | nil => exact List.nodup_nil
  | append_singleton l k ih =>
      rw [List.eraseDups_append]
      by_cases hk : k ∈ l
      · simpa [List.removeAll, hk] using ih
      · have hnew : List.removeAll [k] l = [k] := by simp [List.removeAll, hk]
        rw [hnew]
        refine List.nodup_append.mpr ⟨ih, by simp [List.eraseDups_cons], ?_⟩
        rintro a ha b hb rfl
        rw [List.mem_eraseDups] at ha hb
        exact hk (List.mem_singleton.mp hb ▸ ha)

/-- The groups stand in the order in which their keys first appear, and each has its elements in the order of the
list. -/
theorem group_eq (key : α → κ) (l : List α) :
    group key l = (l.map key).eraseDups.map fun k => (k, l.filter fun a => key a = k) := by
  induction l using List.reverseRecOn with
  | nil => rfl
  | append_singleton l a ih =>
      have hstep : group key (l ++ [a]) =
          set (group key l) (key a) ((get? (group key l) (key a)).getD [] ++ [a]) := by
        simp [group]
      rw [hstep, ih, List.map_append, List.eraseDups_append]
      by_cases ha : key a ∈ l.map key
      · have hmem : key a ∈ (l.map key).eraseDups := List.mem_eraseDups.mpr ha
        have hold : List.removeAll (List.map key [a]) (l.map key) = [] := by
          simpa [List.removeAll] using List.mem_map.mp ha
        rw [get?_map_mk hmem, set_map_mk (nodup_eraseDups _) hmem, hold, List.eraseDups_nil, List.append_nil]
        refine List.map_congr_left fun k _ => ?_
        by_cases hk : k = key a
        · simp [hk]
        · simp [hk, Ne.symm hk]
      · have hmem : key a ∉ (l.map key).eraseDups := fun h => ha (List.mem_eraseDups.mp h)
        have hnew : List.removeAll (List.map key [a]) (l.map key) = [key a] := by
          simpa [List.removeAll] using fun x hx hxa => ha (List.mem_map.mpr ⟨x, hx, hxa⟩)
        have hnone : (l.filter fun b => key b = key a) = [] :=
          List.filter_eq_nil_iff.mpr fun b hb h => ha (List.mem_map.mpr ⟨b, hb, of_decide_eq_true h⟩)
        rw [set_of_notMem (by rwa [keys_map_mk]), (get?_eq_none_iff _ _).mpr (by rwa [keys_map_mk]), hnew,
          List.eraseDups_cons, List.filter_nil, List.eraseDups_nil, List.map_append]
        refine congrArg₂ _ (List.map_congr_left fun k hk => ?_) (by simp [hnone])
        have hne : key a ≠ k := fun h => hmem (h ▸ hk)
        simp [hne]

end Group

end Dict

end SartoriusLib.Lib
