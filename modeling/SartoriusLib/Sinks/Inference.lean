import SartoriusLib.Lib.Join
import SartoriusLib.Sinks.LockedTypes

/-!
# The schema of any rows

The rows of a sample have scalar cells only; the schema lock takes rows of any objects. Here a value may be a text
that is no `String`, or an instance of a class that no column can have. The type of a column is the join of the
classes of its values, so that the order of the rows of a batch does not matter.
-/

namespace SartoriusLib.Sinks.Objects

open SartoriusLib Lib

variable {κ ν : Type} [DecidableEq κ]

/-- A class: one of the scalar types, or any other. -/
inductive Class (κ : Type) where
  | scalar (t : PyType)
  | other (cls : κ)
  deriving DecidableEq, Repr

/-- A value of a row: `None` or a scalar, a `str` with a surrogate (a `String` has none), or an instance of another
class. -/
inductive Object (κ ν : Type) where
  | cell (c : Cell)
  | surrogates (codePoints : List Nat)
  | instanceOf (cls : κ) (value : ν)
  deriving DecidableEq, Repr

/-- `type(value)` of a value that is not `None`. -/
def Object.type? : Object κ ν → Option (Class κ)
  | .cell c => c.type?.map .scalar
  | .surrogates _ => some (.scalar .str)
  | .instanceOf cls _ => some (.other cls)

abbrev Row (κ ν : Type) : Type := Dict String (Object κ ν)

/-! ## The lock -/

/-- The class after one more value of a column. -/
def widen (inferred : Option (Class κ)) (t : Class κ) : Class κ :=
  match inferred with
  | none => t
  | some u =>
      if u = t then u
      else if u ∈ [.scalar .int, .scalar .float] ∧ t ∈ [.scalar .int, .scalar .float] then .scalar .float
      else .scalar .str

/-- The loop of `_infer_column` over the rows of the batch. -/
def inferLoop (key : String) : Option (Class κ) × Bool → List (Row κ ν) → Option (Class κ) × Bool
  | acc, [] => acc
  | (inferred, nullable), row :: rows =>
      match Dict.get? row key with
      | none => inferLoop key (inferred, true) rows
      | some value =>
          match value.type? with
          | none => inferLoop key (inferred, true) rows
          | some t => inferLoop key (some (widen inferred t), nullable) rows

def inferColumn (key : String) (rows : List (Row κ ν)) : ColumnSpec :=
  match inferLoop key (none, false) rows with
  | (none, _) => { name := key, pythonType := .str, nullable := true }
  | (some (.scalar t), nullable) => { name := key, pythonType := t, nullable }
  | (some (.other _), nullable) => { name := key, pythonType := .str, nullable }

/-- The keys of the batch in order of first encounter. -/
def orderedKeys (rows : List (Row κ ν)) : List String :=
  rows.foldl (fun keys row => (Dict.keys row).foldl (fun ks k => if k ∈ ks then ks else ks ++ [k]) keys) []

def lock (l : SchemaLock) (rows : List (Row κ ν)) : Except Exc SchemaLock :=
  if l.columns.isSome then .error (.runtimeError "SchemaLock.lock called twice")
  else if rows.isEmpty then .error (.valueError "SchemaLock.lock requires a non-empty first batch")
  else
    let keys := orderedKeys rows
    .ok { l with columns := some (keys.map fun key => inferColumn key rows), names := keys }

/-- What one entry of the row does to the projected row and to the lock. -/
def projectEntry (acc : Row κ ν × SchemaLock) (e : String × Object κ ν) : Row κ ν × SchemaLock :=
  if e.1 ∈ acc.2.names then (acc.1.set e.1 e.2, acc.2)
  else if e.1 ∈ acc.2.unknownWarned then acc
  else (acc.1, { acc.2 with unknownWarned := acc.2.unknownWarned ++ [e.1] })

/-- The projected row, and the lock with the columns it warned about. -/
def project (l : SchemaLock) (row : Row κ ν) : Except Exc (Row κ ν × SchemaLock) :=
  match l.columns with
  | none => .error (.runtimeError "SchemaLock.project called before lock()")
  | some columns =>
      let result : Row κ ν := columns.map fun spec => (spec.name, .cell .none)
      .ok (row.foldl projectEntry (result, l))

/-! ## Rows of cells -/

/-- A row of cells, as a row of objects. -/
def ofCells (row : Sinks.Row) : Row κ ν := row.map fun e => (e.1, .cell e.2)

omit [DecidableEq κ] in
theorem get?_ofCells (row : Sinks.Row) (key : String) :
    Dict.get? (ofCells row : Row κ ν) key = (Dict.get? row key).map .cell := by
  induction row with
  | nil => rfl
  | cons e row ih =>
      rw [ofCells, List.map_cons, Dict.get?_cons, ← ofCells, ih, show e = (e.1, e.2) from rfl, Dict.get?_cons]
      split <;> rfl

theorem widen_scalar (inferred : Option PyType) (t : PyType) :
    widen (inferred.map Class.scalar) (.scalar t : Class κ) = .scalar (Sinks.widen inferred t) := by
  cases inferred with
  | none => rfl
  | some u => cases u <;> cases t <;> rfl

theorem inferLoop_ofCells (key : String) (rows : List Sinks.Row) (inferred : Option PyType) (nullable : Bool) :
    inferLoop key (inferred.map Class.scalar, nullable) (rows.map (ofCells (κ := κ) (ν := ν))) =
      ((Sinks.inferLoop key (inferred, nullable) rows).1.map Class.scalar,
        (Sinks.inferLoop key (inferred, nullable) rows).2) := by
  induction rows generalizing inferred nullable with
  | nil => rfl
  | cons row rows ih =>
      rw [List.map_cons, inferLoop, Sinks.inferLoop, get?_ofCells]
      cases Dict.get? row key with
      | none => exact ih inferred true
      | some v =>
          cases v with
          | none => exact ih inferred true
          | _ =>
              simp only [Option.map_some, Object.type?, Cell.type?, widen_scalar]
              exact ih (some _) nullable

theorem inferColumn_ofCells (key : String) (rows : List Sinks.Row) :
    inferColumn key (rows.map (ofCells (κ := κ) (ν := ν))) = Sinks.inferColumn key rows := by
  have h := inferLoop_ofCells (κ := κ) (ν := ν) key rows none false
  rw [Option.map_none] at h
  unfold inferColumn Sinks.inferColumn
  rw [h]
  rcases Sinks.inferLoop key (none, false) rows with ⟨_ | t, nullable⟩ <;> rfl

omit [DecidableEq κ] in
theorem keys_ofCells (row : Sinks.Row) : Dict.keys (ofCells row : Row κ ν) = Dict.keys row := by
  simp [ofCells, Dict.keys, Function.comp_def]

/-- On rows of cells this is the lock of the sinks. -/
theorem lock_ofCells (l : SchemaLock) (rows : List Sinks.Row) :
    lock l (rows.map (ofCells (κ := κ) (ν := ν))) = l.lock rows := by
  have hk : orderedKeys (rows.map (ofCells (κ := κ) (ν := ν))) = Sinks.orderedKeys rows := by
    simp only [orderedKeys, Sinks.orderedKeys, List.foldl_map, keys_ofCells]
  simp only [lock, SchemaLock.lock, hk, inferColumn_ofCells, List.isEmpty_iff, List.map_eq_nil_iff]

omit [DecidableEq κ] in
theorem set_ofCells (row : Sinks.Row) (key : String) (v : Cell) :
    Dict.set (ofCells row : Row κ ν) key (.cell v) = ofCells (Dict.set row key v) := by
  induction row with
  | nil => rfl
  | cons e row ih =>
      simp only [ofCells, List.map_cons, Dict.set] at ih ⊢
      split
      · rfl
      · rw [ih, List.map_cons]

omit [DecidableEq κ] in
theorem project_ofCells (l : SchemaLock) (row : Sinks.Row) :
    project l (ofCells row : Row κ ν) = (l.project row).map fun p => (ofCells p.1, p.2) := by
  have hloop : ∀ (acc : Sinks.Row) (l : SchemaLock), (ofCells row : Row κ ν).foldl projectEntry (ofCells acc, l) =
      (fun p => (ofCells p.1, p.2)) (row.foldl (fun (acc : Sinks.Row × SchemaLock) e =>
        if e.1 ∈ acc.2.names then (acc.1.set e.1 e.2, acc.2)
        else if e.1 ∈ acc.2.unknownWarned then acc
        else (acc.1, { acc.2 with unknownWarned := acc.2.unknownWarned ++ [e.1] })) (acc, l)) := by
    induction row with
    | nil => exact fun _ _ => rfl
    | cons e row ih =>
        intro acc l
        have hcons : (ofCells (e :: row) : Row κ ν) = (e.1, .cell e.2) :: ofCells row := rfl
        rw [hcons, List.foldl_cons, List.foldl_cons, projectEntry]
        simp only [set_ofCells]
        repeat' split
        all_goals exact ih _ _
  unfold project SchemaLock.project
  cases l.columns with
  | none => rfl
  | some columns =>
      refine congrArg Except.ok (Eq.trans ?_ (hloop _ l))
      simp [ofCells, Function.comp_def]

/-! ## Classes as a semilattice -/

/-- The class of a column with values of two classes. -/
def Class.join (u t : Class κ) : Class κ := widen (some u) t

instance : Max (Class κ) where
  max := Class.join

theorem sup_eq (u t : Class κ) : u ⊔ t = widen (some u) t := rfl

theorem join_comm (u t : Class κ) : u ⊔ t = t ⊔ u := by
  simp only [sup_eq, widen]
  grind

theorem join_self (u : Class κ) : u ⊔ u = u := by simp [sup_eq, widen]

theorem join_assoc (u t s : Class κ) : u ⊔ t ⊔ s = u ⊔ (t ⊔ s) := by
  simp only [sup_eq, widen]
  grind

instance : SemilatticeSup (Class κ) := SemilatticeSup.mk' join_comm join_assoc join_self

theorem le_iff {u t : Class κ} : u ≤ t ↔ u = t ∨ t = .scalar .str ∨ u = .scalar .int ∧ t = .scalar .float := by
  rw [← sup_eq_right, sup_eq, widen]
  grind

/-! ## The fold as a join -/

/-- No class yet, as the least element. -/
def toBot : Option (Class κ) → WithBot (Class κ)
  | none => ⊥
  | some t => t

/-- The class of the value of a row in one column, if it has one. -/
def valueType? (key : String) (row : Row κ ν) : Option (Class κ) := (Dict.get? row key).bind Object.type?

theorem toBot_widen (inferred : Option (Class κ)) (t : Class κ) :
    toBot (some (widen inferred t)) = toBot inferred ⊔ toBot (some t) := by
  cases inferred with
  | none => exact (bot_sup_eq (t : WithBot (Class κ))).symm
  | some u => rfl

theorem inferLoop_cons (key : String) (row : Row κ ν) (rows : List (Row κ ν)) (inferred : Option (Class κ))
    (nullable : Bool) :
    inferLoop key (inferred, nullable) (row :: rows) =
      match valueType? key row with
      | none => inferLoop key (inferred, true) rows
      | some t => inferLoop key (some (widen inferred t), nullable) rows := by
  rw [inferLoop, valueType?]
  cases Dict.get? row key with
  | none => rfl
  | some value => cases ht : value.type? <;> simp [ht]

theorem inferLoop_type (key : String) (rows : List (Row κ ν)) (inferred : Option (Class κ)) (nullable : Bool) :
    toBot (inferLoop key (inferred, nullable) rows).1 =
      foldSup (fun row => toBot (valueType? key row)) (toBot inferred) rows := by
  induction rows generalizing inferred nullable with
  | nil => rfl
  | cons row rows ih =>
      rw [inferLoop_cons, foldSup_cons]
      cases valueType? key row with
      | none => exact (ih inferred true).trans (by rw [toBot, sup_bot_eq])
      | some t => exact (ih (some (widen inferred t)) nullable).trans (by rw [toBot_widen])

theorem inferLoop_nullable (key : String) (rows : List (Row κ ν)) (inferred : Option (Class κ)) (nullable : Bool) :
    (inferLoop key (inferred, nullable) rows).2 = (nullable || rows.any fun row => (valueType? key row).isNone) := by
  induction rows generalizing inferred nullable with
  | nil => simp [inferLoop]
  | cons row rows ih =>
      rw [inferLoop_cons]
      cases ht : valueType? key row <;> simp [ih, ht]

/-- The order of the rows does not matter. -/
theorem inferColumn_perm {rows rows' : List (Row κ ν)} (h : rows.Perm rows') (key : String) :
    inferColumn key rows = inferColumn key rows' := by
  have htype : (inferLoop key (none, false) rows).1 = (inferLoop key (none, false) rows').1 := by
    have hbot := (inferLoop_type key rows none false).trans
      ((foldSup_perm h).trans (inferLoop_type key rows' none false).symm)
    revert hbot
    cases (inferLoop key (none, false) rows).1 <;> cases (inferLoop key (none, false) rows').1 <;> simp [toBot]
  have hnull : (inferLoop key (none, false) rows).2 = (inferLoop key (none, false) rows').2 := by
    rw [inferLoop_nullable, inferLoop_nullable, h.any_eq]
  unfold inferColumn
  rw [Prod.ext htype hnull]

/-! ## The type of a column -/

/-- The classes of the values of a column, `None` left out. -/
def types (key : String) (rows : List (Row κ ν)) : List (Class κ) := rows.filterMap (valueType? key)

/-- The class that the loop infers is the least one above those of the values. -/
theorem inferred_le_iff {key : String} {rows : List (Row κ ν)} {u : Class κ} {nullable : Bool}
    (h : inferLoop key (none, false) rows = (some u, nullable)) (b : Class κ) :
    u ≤ b ↔ ∀ c ∈ types key rows, c ≤ b := by
  have hsup : foldSup (fun row => toBot (valueType? key row)) ⊥ rows = (u : WithBot (Class κ)) := by
    rw [← show toBot (none : Option (Class κ)) = ⊥ from rfl, ← inferLoop_type key rows none false, h]
    rfl
  rw [← WithBot.coe_le_coe, ← hsup, foldSup_le_iff]
  simp only [bot_le, true_and, types, List.mem_filterMap]
  constructor
  · rintro hle c ⟨row, hrow, hc⟩
    have hb := hle row hrow
    rw [hc] at hb
    exact WithBot.coe_le_coe.mp hb
  · intro hle row hrow
    cases hc : valueType? key row with
    | none => exact bot_le
    | some c => exact WithBot.coe_le_coe.mpr (hle c ⟨row, hrow, hc⟩)

theorem inferred_none_iff (key : String) (rows : List (Row κ ν)) :
    (inferLoop key (none, false) rows).1 = none ↔ types key rows = [] := by
  have hbot : (inferLoop key (none, false) rows).1 = none ↔ toBot (inferLoop key (none, false) rows).1 = ⊥ := by
    cases (inferLoop key (none, false) rows).1 <;> simp [toBot]
  rw [hbot, inferLoop_type, toBot, foldSup_eq_bot, types, List.filterMap_eq_nil_iff]
  refine forall₂_congr fun row _ => ?_
  cases valueType? key row <;> simp [toBot]

/-- All values of the column are integers and floats, and both occur. -/
def Mixed (cs : List (Class κ)) : Prop :=
  .scalar .int ∈ cs ∧ .scalar .float ∈ cs ∧ ∀ c ∈ cs, c = .scalar .int ∨ c = .scalar .float

/-- There are values in the column, and all are of one scalar type. -/
def Uniform (cs : List (Class κ)) (t : PyType) : Prop := cs ≠ [] ∧ ∀ c ∈ cs, c = .scalar t

/-- What is inferred for a column of the batch. -/
structure Inferred (rows : List (Row κ ν)) (spec : ColumnSpec) : Prop where
  uniform : ∀ t, Uniform (types spec.name rows) t → spec.pythonType = t
  mixed : Mixed (types spec.name rows) → spec.pythonType = .float
  text : (∀ t, ¬ Uniform (types spec.name rows) t) → ¬ Mixed (types spec.name rows) → spec.pythonType = .str
  nullable : spec.nullable ↔
    ∃ row ∈ rows, Dict.get? row spec.name = none ∨ Dict.get? row spec.name = some (.cell .none)

omit [DecidableEq κ] in
theorem valueType?_isNone {key : String} {row : Row κ ν} :
    (valueType? key row).isNone ↔ Dict.get? row key = none ∨ Dict.get? row key = some (.cell .none) := by
  unfold valueType?
  cases Dict.get? row key with
  | none => simp
  | some value =>
      cases value with
      | cell c => cases c <;> simp [Object.type?, Cell.type?]
      | surrogates codePoints => simp [Object.type?]
      | instanceOf cls value => simp [Object.type?]

/-- The least class above those of the values. -/
theorem inferred_uniform {cs : List (Class κ)} {u : Class κ} (hu : ∀ b, u ≤ b ↔ ∀ c ∈ cs, c ≤ b) {t : PyType}
    (h : Uniform cs t) : u = .scalar t := by
  obtain ⟨c, hc⟩ := List.exists_mem_of_ne_nil cs h.1
  refine le_antisymm ((hu _).mpr fun c hc => (h.2 c hc).le) ?_
  exact h.2 c hc ▸ (hu u).mp le_rfl c hc

theorem inferred_mixed {cs : List (Class κ)} {u : Class κ} (hu : ∀ b, u ≤ b ↔ ∀ c ∈ cs, c ≤ b) (h : Mixed cs) :
    u = .scalar .float := by
  refine le_antisymm ((hu _).mpr fun c hc => ?_) ((hu u).mp le_rfl _ h.2.1)
  rcases h.2.2 c hc with rfl | rfl
  · exact le_iff.mpr (.inr (.inr ⟨rfl, rfl⟩))
  · exact le_rfl

/-- A least class that is no text is the one class of the values, or their mix. -/
theorem inferred_cases {cs : List (Class κ)} {u : Class κ} (hu : ∀ b, u ≤ b ↔ ∀ c ∈ cs, c ≤ b)
    (hs : u ≠ .scalar .str) : (∀ c ∈ cs, c = u) ∨ u = .scalar .float ∧ Mixed cs := by
  have hle : ∀ c ∈ cs, c = u ∨ c = .scalar .int ∧ u = .scalar .float := fun c hc => by
    rcases le_iff.mp ((hu u).mp le_rfl c hc) with h | h | h
    · exact .inl h
    · exact absurd h hs
    · exact .inr h
  by_cases hall : ∀ c ∈ cs, c = u
  · exact .inl hall
  simp only [not_forall] at hall
  obtain ⟨c, hc, hne⟩ := hall
  obtain ⟨rfl, rfl⟩ := (hle c hc).resolve_left hne
  refine .inr ⟨rfl, hc, ?_, fun c' hc' => ((hle c' hc').symm.imp_left And.left)⟩
  -- with integers only the integers would be the least class
  by_contra hf
  have hint : ∀ c' ∈ cs, c' ≤ (.scalar .int : Class κ) := fun c' hc' => by
    rcases hle c' hc' with rfl | ⟨rfl, -⟩
    · exact absurd hc' hf
    · exact le_rfl
  rcases le_iff.mp ((hu _).mpr hint) with h | h | h <;> simp at h

theorem inferLoop_nullable_iff (key : String) (rows : List (Row κ ν)) :
    (inferLoop key (none, false) rows).2 ↔
      ∃ row ∈ rows, Dict.get? row key = none ∨ Dict.get? row key = some (.cell .none) := by
  rw [inferLoop_nullable, Bool.false_or, List.any_eq_true]
  exact exists_congr fun row => and_congr_right fun _ => valueType?_isNone

theorem inferColumn_inferred (key : String) {rows : List (Row κ ν)} (hne : rows ≠ []) :
    Inferred rows (inferColumn key rows) := by
  have hnull := inferLoop_nullable_iff key rows
  have hnone := inferred_none_iff key rows
  rcases hloop : inferLoop key (none, false) rows with ⟨_ | ⟨t | cls⟩, nullable⟩
  · rw [hloop] at hnone
    have htypes : types key rows = [] := hnone.mp rfl
    rw [show inferColumn key rows = ⟨key, .str, true⟩ by simp only [inferColumn, hloop]]
    obtain ⟨row, rest, rfl⟩ := List.exists_cons_of_ne_nil hne
    have hrow : (valueType? key row).isNone :=
      Option.isNone_iff_eq_none.mpr (List.filterMap_eq_nil_iff.mp htypes row List.mem_cons_self)
    exact
      { uniform := fun t h => absurd htypes h.1
        mixed := fun h => absurd h.1 (by simp [htypes])
        text := fun _ _ => rfl
        nullable := iff_of_true rfl ⟨row, List.mem_cons_self, valueType?_isNone.mp hrow⟩ }
  · have hu := inferred_le_iff hloop
    have hsome : types key rows ≠ [] := fun h => by simp [hloop] at hnone; exact hnone h
    rw [show inferColumn key rows = ⟨key, t, nullable⟩ by simp only [inferColumn, hloop]]
    rw [hloop] at hnull
    refine
      { uniform := fun s h => Class.scalar.inj (inferred_uniform hu h)
        mixed := fun h => Class.scalar.inj (inferred_mixed hu h)
        text := fun hun hmix => ?_
        nullable := hnull }
    by_contra hs
    rcases inferred_cases hu (fun h => hs (Class.scalar.inj h)) with h | ⟨-, h⟩
    · exact hun t ⟨hsome, h⟩
    · exact hmix h
  · have hu := inferred_le_iff hloop
    rw [show inferColumn key rows = ⟨key, .str, nullable⟩ by simp only [inferColumn, hloop]]
    rw [hloop] at hnull
    exact
      { uniform := fun s h => nomatch inferred_uniform hu h
        mixed := fun h => nomatch inferred_mixed hu h
        text := fun _ _ => rfl
        nullable := hnull }

/-! ## The columns of a batch -/

theorem mem_insertKeys {ks keys : List String} {key : String} :
    key ∈ ks.foldl (fun ks k => if k ∈ ks then ks else ks ++ [k]) keys ↔ key ∈ keys ∨ key ∈ ks := by
  induction ks generalizing keys with
  | nil => simp
  | cons k ks ih =>
      rw [List.foldl_cons, ih, List.mem_cons]
      split
      · next hk =>
          constructor
          · rintro (h | h)
            · exact .inl h
            · exact .inr (.inr h)
          · rintro (h | rfl | h)
            · exact .inl h
            · exact .inl hk
            · exact .inr h
      · rw [List.mem_append, List.mem_singleton, or_assoc]

theorem nodup_insertKeys {ks keys : List String} (h : keys.Nodup) :
    (ks.foldl (fun ks k => if k ∈ ks then ks else ks ++ [k]) keys).Nodup := by
  induction ks generalizing keys with
  | nil => exact h
  | cons k ks ih =>
      rw [List.foldl_cons]
      split
      · exact ih h
      · next hk => exact ih (h.append (List.nodup_singleton k) (by simpa using hk))

omit [DecidableEq κ] in
theorem mem_orderedKeys {rows : List (Row κ ν)} {key : String} :
    key ∈ orderedKeys rows ↔ ∃ row ∈ rows, key ∈ Dict.keys row := by
  have h : ∀ keys : List String, key ∈ rows.foldl
      (fun keys row => (Dict.keys row).foldl (fun ks k => if k ∈ ks then ks else ks ++ [k]) keys) keys ↔
      key ∈ keys ∨ ∃ row ∈ rows, key ∈ Dict.keys row := by
    induction rows with
    | nil => simp
    | cons row rows ih =>
        intro keys
        rw [List.foldl_cons, ih, mem_insertKeys]
        simp [or_assoc]
  simpa [orderedKeys] using h []

omit [DecidableEq κ] in
theorem nodup_orderedKeys (rows : List (Row κ ν)) : (orderedKeys rows).Nodup := by
  have h : ∀ keys : List String, keys.Nodup → (rows.foldl
      (fun keys row => (Dict.keys row).foldl (fun ks k => if k ∈ ks then ks else ks ++ [k]) keys) keys).Nodup := by
    induction rows with
    | nil => exact fun _ hk => hk
    | cons row rows ih => exact fun keys hk => ih _ (nodup_insertKeys hk)
  exact h [] List.nodup_nil

omit [DecidableEq κ] in
theorem orderedKeys_perm {rows rows' : List (Row κ ν)} (h : rows.Perm rows') :
    (orderedKeys rows).Perm (orderedKeys rows') :=
  (List.perm_ext_iff_of_nodup (nodup_orderedKeys rows) (nodup_orderedKeys rows')).mpr fun key => by
    simp only [mem_orderedKeys, h.mem_iff]

theorem inferColumn_name (key : String) (rows : List (Row κ ν)) : (inferColumn key rows).name = key := by
  unfold inferColumn
  split <;> rfl

/-- The columns that are locked on a batch. -/
def columnsOf (rows : List (Row κ ν)) : List ColumnSpec := (orderedKeys rows).map fun key => inferColumn key rows

theorem columnsOf_names (rows : List (Row κ ν)) : (columnsOf rows).map ColumnSpec.name = orderedKeys rows := by
  simp [columnsOf, Function.comp_def, inferColumn_name]

theorem columnsOf_perm {rows rows' : List (Row κ ν)} (h : rows.Perm rows') :
    (columnsOf rows).Perm (columnsOf rows') := by
  simp only [columnsOf, inferColumn_perm h]
  exact (orderedKeys_perm h).map _

/-! ## Projecting -/

/-- A row on the locked columns. -/
def projected (columns : List ColumnSpec) (row : Row κ ν) : Row κ ν :=
  columns.map fun spec => (spec.name, (Dict.get? row spec.name).getD (.cell .none))

omit [DecidableEq κ] in
/-- The entries of a row are written over the locked columns; only the warned columns of the lock change. -/
theorem project_foldl {row : Row κ ν} (hn : (Dict.keys row).Nodup) (d : Row κ ν) (l : SchemaLock)
    (hd : ∀ key ∈ l.names, key ∈ Dict.keys d) :
    ∃ d' warned, row.foldl projectEntry (d, l) = (d', { l with unknownWarned := warned }) ∧
      Dict.keys d' = Dict.keys d ∧ ∀ key ∈ l.names, Dict.get? d' key = (Dict.get? row key).or (Dict.get? d key) := by
  induction row generalizing d l with
  | nil => exact ⟨d, l.unknownWarned, rfl, rfl, fun key _ => by simp⟩
  | cons e row ih =>
      obtain ⟨k, v⟩ := e
      rw [Dict.keys_cons, List.nodup_cons] at hn
      rw [List.foldl_cons]
      by_cases hk : k ∈ l.names
      · have hkeys : Dict.keys (d.set k v) = Dict.keys d := Dict.keys_set_of_mem (hd k hk) v
        obtain ⟨d', warned, hrun, hd', hget⟩ := ih hn.2 (d.set k v) l (by rwa [hkeys])
        refine ⟨d', warned, ?_, hd'.trans hkeys, fun key hkey => ?_⟩
        · rw [projectEntry, if_pos hk]
          exact hrun
        · rw [hget key hkey, Dict.get?_cons, Dict.get?_set]
          by_cases heq : key = k
          · rw [heq, (Dict.get?_eq_none_iff row k).mpr hn.1]
            simp
          · simp [heq]
      · have hskip : ∀ warned, ∃ d' warned', row.foldl projectEntry (d, { l with unknownWarned := warned }) =
            (d', { l with unknownWarned := warned' }) ∧ Dict.keys d' = Dict.keys d ∧
            ∀ key ∈ l.names, Dict.get? d' key = (Dict.get? ((k, v) :: row) key).or (Dict.get? d key) := by
          intro warned
          obtain ⟨d', warned', hrun, hd', hget⟩ := ih hn.2 d { l with unknownWarned := warned } hd
          refine ⟨d', warned', hrun, hd', fun key hkey => ?_⟩
          rw [hget key hkey, Dict.get?_cons, if_neg (by rintro rfl; exact hk hkey)]
        rw [projectEntry, if_neg hk]
        split
        · exact hskip l.unknownWarned
        · exact hskip _

omit [DecidableEq κ] in
theorem project_locked {columns : List ColumnSpec} (hc : (columns.map ColumnSpec.name).Nodup) {row : Row κ ν}
    (hn : (Dict.keys row).Nodup) (l : SchemaLock) (hl : l.columns = some columns)
    (hnames : l.names = columns.map ColumnSpec.name) :
    ∃ warned, project l row = .ok (projected columns row, { l with unknownWarned := warned }) := by
  have hkeys : Dict.keys (columns.map fun spec => (spec.name, (.cell .none : Object κ ν))) =
      columns.map ColumnSpec.name := by
    simp [Dict.keys, Function.comp_def]
  obtain ⟨d', warned, hrun, hd', hget⟩ := project_foldl hn
    (columns.map fun spec => (spec.name, (.cell .none : Object κ ν))) l (fun key hkey => by rwa [hkeys, ← hnames])
  refine ⟨warned, ?_⟩
  have hresult : d' = projected columns row := by
    rw [hkeys] at hd'
    rw [← Dict.map_get?_keys (d := d') (hd' ▸ hc) (.cell .none), hd', List.map_map]
    refine List.map_congr_left fun spec hspec => Prod.ext rfl ?_
    have hname : spec.name ∈ columns.map ColumnSpec.name := List.mem_map_of_mem hspec
    have hnull : Dict.get? (columns.map fun spec => (spec.name, (.cell .none : Object κ ν))) spec.name =
        some (.cell .none) :=
      Dict.get?_of_mem (hkeys ▸ hc) (List.mem_map_of_mem hspec)
    show (Dict.get? d' spec.name).getD (.cell .none) = (Dict.get? row spec.name).getD (.cell .none)
    rw [hget spec.name (hnames ▸ hname), hnull]
    cases Dict.get? row spec.name <;> rfl
  unfold project
  simp only [hl, hrun, hresult]

/-! ## The lock of a batch -/

/-- What `lock` makes of the batch, and `project` of any row afterwards. -/
structure Locked (rows : List (Row κ ν)) (columns : List ColumnSpec) (l : SchemaLock) : Prop where
  fixed : l.columns = some columns
  /-- There is one column for each key of the batch. -/
  once : (columns.map ColumnSpec.name).Nodup
  keys : ∀ key, key ∈ columns.map ColumnSpec.name ↔ ∃ row ∈ rows, key ∈ Dict.keys row
  inferred : ∀ spec ∈ columns, Inferred rows spec
  projects : ∀ (row : Row κ ν) warned, (Dict.keys row).Nodup →
    ∃ warned', project { l with unknownWarned := warned } row =
      .ok (projected columns row, { l with unknownWarned := warned' })

theorem lock_locked {l : SchemaLock} (hl : l.columns = none) {rows : List (Row κ ν)} (hne : rows ≠ []) :
    ∃ l', lock l rows = .ok l' ∧ Locked rows (columnsOf rows) l' := by
  have hnodup : ((columnsOf rows).map ColumnSpec.name).Nodup := columnsOf_names rows ▸ nodup_orderedKeys rows
  refine ⟨{ l with columns := some (columnsOf rows), names := orderedKeys rows }, ?_, ?_⟩
  · simp only [lock, hl, Option.isSome_none, Bool.false_eq_true, if_false, List.isEmpty_iff, if_neg hne]
    rfl
  · exact
      { fixed := rfl
        once := hnodup
        keys := fun key => by rw [columnsOf_names, mem_orderedKeys]
        inferred := fun spec hspec => by
          obtain ⟨key, -, rfl⟩ := List.mem_map.mp hspec
          exact inferColumn_inferred key hne
        projects := fun row warned hn => project_locked hnodup hn _ rfl (columnsOf_names rows).symm }

/-- Schema inference does not depend on the order of the batch. -/
theorem lock_perm {l : SchemaLock} (hl : l.columns = none) {rows rows' : List (Row κ ν)} (hne : rows ≠ [])
    (hp : rows.Perm rows') :
    ∃ columns columns' locked locked', lock l rows = .ok locked ∧ lock l rows' = .ok locked' ∧
      Locked rows columns locked ∧ Locked rows' columns' locked' ∧ columns.Perm columns' := by
  have hne' : rows' ≠ [] := fun h => hne (List.perm_nil.mp (h ▸ hp))
  obtain ⟨locked, hlock, h⟩ := lock_locked hl hne
  obtain ⟨locked', hlock', h'⟩ := lock_locked hl hne'
  exact ⟨_, _, locked, locked', hlock, hlock', h, h', columnsOf_perm hp⟩

/-- An integer beside a null, and a float beside an instance of some class. -/
def mixedRows : List (Row Unit Unit) :=
  [[("a", .cell (.int 1)), ("b", .cell .none)], [("a", .cell (.float (.fin (3 / 2)))), ("b", .instanceOf () ())]]

theorem lock_perm_mixed :
    ∃ columns columns' locked locked', lock {} mixedRows = .ok locked ∧ lock {} mixedRows.reverse = .ok locked' ∧
      Locked mixedRows columns locked ∧ Locked mixedRows.reverse columns' locked' ∧ columns.Perm columns' :=
  lock_perm rfl (List.cons_ne_nil _ _) (List.reverse_perm _).symm

end SartoriusLib.Sinks.Objects
