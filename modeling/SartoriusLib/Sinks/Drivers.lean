import SartoriusLib.Sinks.Sqlite

/-!
# The Postgres and the Parquet sink

Their stores are behind third-party packages, of which only the documented behaviour is used: a table is
created where there is none (a file is always written anew), a batch is written whole or not at all, and a store
that refuses nothing takes every row that fits its columns.
-/

namespace SartoriusLib.Sinks

open SartoriusLib Lib Prog

variable {W : Type}

/-- What can be seen of a store, what it takes and in which form, and the store when it has recovered. -/
structure StoreView (W : Type) where
  table : W → Option Table
  recover : W → W
  accepts : List ColumnDef → Row → Prop
  stored : List ColumnDef → Row → Row

/-- The documented behaviour of a driver. -/
structure Documented (S : StoreView W) (keeps : Bool) (create : List ColumnDef → Prog String W PUnit)
    (write : List ColumnDef → List Row → Prog String W PUnit) : Prop where
  recover_table : ∀ w, S.table (S.recover w) = S.table w
  recover_recover : ∀ w, S.recover (S.recover w) = S.recover w
  create_table : ∀ {w w' columns u}, (create columns).exec w = (.ok u, w') →
    S.table w' = some (created keeps (S.table w) columns)
  create_recover : ∀ w columns, ∃ u w', (create columns).exec (S.recover w) = (.ok u, w') ∧ S.recover w' = w'
  write_error : ∀ {w w' columns rows e}, (write columns rows).exec w = (.error e, w') → S.table w' = S.table w
  write_ok : ∀ {w w' columns rows u}, RowsOf columns rows → (write columns rows).exec w = (.ok u, w') →
    ∃ t, S.table w = some t ∧ S.table w' = some { t with rows := t.rows ++ rows.map (S.stored t.columns) }
  write_accepts : ∀ {w t columns rows}, S.recover w = w → S.table w = some t → RowsOf columns rows →
    (((write columns rows).exec w).1.isOk = true ↔ ∀ row ∈ rows, S.accepts t.columns row)

/-- `except Exception as exc: raise ... from exc` -/
def translate {α : Type} (f : String → SinkExc) (m : Prog String W α) : Prog SinkExc W α :=
  ofFun fun w => match m.exec w with
    | (.ok a, w') => (.ok a, w')
    | (.error text, w') => (.error (f text), w')

section

variable {α : Type} {f : String → SinkExc} {m : Prog String W α} {w w' : W} {a : α} {e : SinkExc}

theorem translate_ok : (translate f m).exec w = (.ok a, w') ↔ m.exec w = (.ok a, w') := by
  rw [translate, exec_ofFun]
  rcases m.exec w with ⟨_ | _, _⟩ <;> simp

theorem translate_error (h : (translate f m).exec w = (.error e, w')) :
    ∃ text, e = f text ∧ m.exec w = (.error text, w') := by
  rw [translate, exec_ofFun] at h
  rcases hm : m.exec w with ⟨text | _, _⟩ <;> rw [hm] at h <;> cases h
  exact ⟨text, rfl, rfl⟩

theorem translate_isOk : ((translate f m).exec w).1.isOk = (m.exec w).1.isOk := by
  rw [translate, exec_ofFun]
  rcases m.exec w with ⟨_ | _, _⟩ <;> rfl

end

/-- A backend over a driver. -/
def Backend.over (sinkName : String) (columnType : PyType → String) (createError writeError : String → SinkExc)
    (createTable : Bool) (create : List ColumnDef → Prog String W PUnit)
    (write : List ColumnDef → List Row → Prog String W PUnit) : Backend W where
  sinkName
  createTable
  columnType
  create columns := translate createError (create columns)
  insert columns rows := translate writeError (write columns rows)

/-- A driver with its documented behaviour is a store, when no error of it is taken for a failed conversion. -/
def TableStore.over {S : StoreView W} {keeps : Bool} (sinkName : String) (columnType : PyType → String)
    (createError writeError : String → SinkExc) {create : List ColumnDef → Prog String W PUnit}
    {write : List ColumnDef → List Row → Prog String W PUnit} (h : Documented S keeps create write) :
    TableStore W where
  toBackend := .over sinkName columnType createError writeError true create write
  table := S.table
  Settled _ := True
  recover := S.recover
  accepts := S.accepts
  stored := S.stored
  keeps
  creates := rfl
  recover_settled _ := trivial
  recover_table := h.recover_table
  recover_recover := h.recover_recover
  create_settled _ _ := trivial
  create_table _ hx := h.create_table (translate_ok.mp hx)
  create_recover {w} columns _ := by
    obtain ⟨u, w', hx, hw'⟩ := h.create_recover w columns
    exact ⟨u, w', translate_ok.mpr hx, hw'⟩
  insert_settled _ _ _ := trivial
  insert_error _ hx := by
    obtain ⟨text, -, hx⟩ := translate_error hx
    exact h.write_error hx
  insert_ok _ hr hx := h.write_ok hr (translate_ok.mp hx)
  insert_accepts _ hw ht hr := by
    rw [show Backend.insert _ _ _ = translate writeError (write _ _) from rfl, translate_isOk]
    exact h.write_accepts hw ht hr

/-! ## Postgres -/

namespace Postgres

structure PostgresConfig where
  schema : String := "public"
  table : String := "samples"
  /-- What `target()` shows of the connection parameters. -/
  target : String
  createTable : Bool := false
  useCopy : Bool := true
  deriving DecidableEq, Repr

/-- What the sink calls on a pooled connection of `asyncpg`. -/
structure Asyncpg (W : Type) where
  /-- `CREATE TABLE IF NOT EXISTS` -/
  execute : List ColumnDef → Prog String W PUnit
  copyRecordsToTable : List String → List (List Cell) → Prog String W PUnit
  /-- In a transaction. -/
  executemany : List String → List (List Cell) → Prog String W PUnit

def columnType : PyType → String
  | .float => "double precision"
  | .int => "bigint"
  | .bool => "boolean"
  | .str => "text"

/-- `_write_copy` or `_write_executemany`, with the tuples of the projected rows. -/
def write (config : PostgresConfig) (D : Asyncpg W) (columns : List ColumnDef) (rows : List Row) :
    Prog String W PUnit :=
  let names := columns.map Prod.fst
  let records := rows.map (Sqlite.record columns)
  if config.useCopy then D.copyRecordsToTable names records else D.executemany names records

def createError (config : PostgresConfig) (text : String) : SinkExc :=
  .writeError s!"PostgresSink: CREATE TABLE failed for {config.schema}.{config.table}: {text}"

def writeError (config : PostgresConfig) (text : String) : SinkExc :=
  .writeError s!"PostgresSink: write failed for {config.target}: {text}"

def backend (config : PostgresConfig) (D : Asyncpg W) : Backend W :=
  .over "PostgresSink" columnType (createError config) (writeError config) config.createTable D.execute
    (write config D)

/-- The store of a sink with `create_table=True`. -/
def store (config : PostgresConfig) (D : Asyncpg W) {S : StoreView W}
    (h : Documented S true D.execute (write config D)) : TableStore W :=
  .over "PostgresSink" columnType (createError config) (writeError config) h

theorem store_backend (config : PostgresConfig) (D : Asyncpg W) {S : StoreView W}
    (h : Documented S true D.execute (write config D)) :
    (store config D h).toBackend = backend { config with createTable := true } D := rfl

end Postgres

/-! ## Parquet -/

namespace Parquet

/-- What the sink calls of `pyarrow`. -/
structure Pyarrow (W : Type) where
  /-- `ParquetWriter(path, schema)` -/
  parquetWriter : List ColumnDef → Prog String W PUnit
  /-- `Table.from_pydict(arrays, schema)`, and `write_table` of it. -/
  writeTable : List ColumnDef → Dict String (List Cell) → Prog String W PUnit

def arrowType : PyType → String
  | .float => "double"
  | .int => "int64"
  | .bool => "bool"
  | .str => "string"

/-- `arrays`: the values of each column. -/
def arrays (columns : List ColumnDef) (rows : List Row) : Dict String (List Cell) :=
  columns.map fun column => (column.1, rows.map fun row => (Dict.get? row column.1).getD .none)

def write (P : Pyarrow W) (columns : List ColumnDef) (rows : List Row) : Prog String W PUnit :=
  P.writeTable columns (arrays columns rows)

def writeError (path : String) (text : String) : SinkExc :=
  .writeError s!"ParquetSink: write failed for {path}: {text}"

/-- An error of the writer's construction is not translated. -/
def backend (path : String) (P : Pyarrow W) : Backend W :=
  .over "ParquetSink" arrowType .store (writeError path) true P.parquetWriter (write P)

def store (path : String) (P : Pyarrow W) {S : StoreView W} (h : Documented S false P.parquetWriter (write P)) :
    TableStore W :=
  .over "ParquetSink" arrowType .store (writeError path) h

theorem store_backend (path : String) (P : Pyarrow W) {S : StoreView W}
    (h : Documented S false P.parquetWriter (write P)) : (store path P h).toBackend = backend path P := rfl

end Parquet

/-! ## The three sinks -/

/-- After a call of the sink that its store refused, the next call is as if there had been none, exactly when
`Condition` holds of the sink before, the refused batch and the next one. -/
def TableStore.RecoversIff (T : TableStore W) (Condition : Sink W → List Sample → List Sample → Prop) : Prop :=
  ∀ {sink sink' : Sink W} {failed later : List Sample} {e : SinkExc}, T.Reached sink →
    (T.writeMany failed).exec sink = (.error e, sink') → e.Refused → later ≠ [] → T.Takes sink later →
      (T.AsIfNot sink sink' later ↔ Condition sink failed later)

namespace Sqlite

/-- The table of the refused call is there, and the later batch has no number for a column that had no value in
the refused one and was made a column of text for that; a table that was there before has its own columns. -/
def Harmless (A : Affinity) (table : String) (before : Sink Connection) (failed later : List Sample) : Prop :=
  before.schema.columns.isSome = true ∨
    (((store A table).create ((store A table).defsFor failed)).exec before.store).1.isOk = true ∧
      (before.store.committed.isSome = true ∨
        ∀ name ∈ columnTypes.map Prod.fst, (∀ f ∈ failed, Dict.get? (sampleToRow f) name = some .none) →
          ∀ s ∈ later, ∀ cell ∈ Dict.get? (sampleToRow s) name, ¬ IsNumber cell)

section

variable {A : Affinity} {table : String} {before : Sink Connection} {failed later first : List Sample} {s : Sample}

/-- The declared type of a column that a first batch locks. -/
theorem get?_defsFor (A : Affinity) (table : String) (first : List Sample) {name : String} {t : PyType}
    (hc : (name, t) ∈ columnTypes) :
    Dict.get? ((store A table).defsFor first) name =
      some (columnType (if ∀ f ∈ first, Dict.get? (sampleToRow f) name = some .none then .str else t)) := by
  have hdefs : (store A table).defsFor first = (columnTypes.map Prod.fst).map fun c =>
      (c, columnType (inferColumn c (first.map sampleToRow)).pythonType) := by
    simp [Backend.defsFor, Backend.columnDefs, lockedColumns, inferColumn_name, store, backend]
  rw [hdefs, Dict.get?_map_mk (List.mem_map_of_mem hc), lockedColumn_pythonType first hc]

/-- A value is stored alike in its own column and in one of text, unless it is a number. -/
theorem stored_text_iff (A : Affinity) {cell : Cell} {t : PyType} (ht : cell.type? = some t) (hb : t ≠ .bool) :
    A.stored (columnType .str) cell = A.stored (columnType t) cell ↔ ¬ IsNumber cell := by
  constructor
  · intro h hnumber
    obtain ⟨text, htext⟩ := A.digits cell hnumber
    rw [show columnType .str = "TEXT" from rfl, htext] at h
    cases cell with
    | none => cases ht
    | str text => exact hnumber
    | bool b => exact hb (Option.some.inj ht).symm
    | int n =>
        cases ht
        rw [show columnType .int = "INTEGER" from rfl, A.integer] at h
        cases h
    | float x =>
        cases ht
        rw [show columnType .float = "REAL" from rfl, A.real x hnumber] at h
        cases h
  · intro hnot
    cases cell with
    | none => cases ht
    | str text =>
        cases ht
        rfl
    | int n => exact absurd trivial hnot
    | bool b => exact absurd trivial hnot
    | float x =>
        obtain rfl : x = .nan := not_not.mp hnot
        rw [A.nan, A.nan]

theorem row_eq_iff (A : Affinity) (columns columns' : List ColumnDef) (row : Row) :
    A.row columns row = A.row columns' row ↔ ∀ e ∈ row,
      A.stored ((Dict.get? columns e.1).getD "") e.2 = A.stored ((Dict.get? columns' e.1).getD "") e.2 := by
  simp [Affinity.row, List.map_inj_left]

/-- The tables of two first batches store a row of the second batch alike unless a column without a value in the first
has a number in it. -/
theorem rows_alike_iff (A : Affinity) (table : String) (failed : List Sample) {later : List Sample} (hs : s ∈ later) :
    A.row ((store A table).defsFor failed) (sampleToRow s) = A.row ((store A table).defsFor later) (sampleToRow s) ↔
      ∀ name ∈ columnTypes.map Prod.fst, (∀ f ∈ failed, Dict.get? (sampleToRow f) name = some .none) →
        ∀ cell ∈ Dict.get? (sampleToRow s) name, ¬ IsNumber cell := by
  rw [row_eq_iff]
  have hcolumn {name : String} {t : PyType} {cell : Cell} (hc : (name, t) ∈ columnTypes)
      (hcell : Dict.get? (sampleToRow s) name = some cell) :
      (A.stored ((Dict.get? ((store A table).defsFor failed) name).getD "") cell =
          A.stored ((Dict.get? ((store A table).defsFor later) name).getD "") cell) ↔
        ((∀ f ∈ failed, Dict.get? (sampleToRow f) name = some .none) → ¬ IsNumber cell) := by
    rw [get?_defsFor A table failed hc, get?_defsFor A table later hc, Option.getD_some, Option.getD_some]
    rcases cell_wellTyped hc hcell with rfl | htype
    · exact iff_of_true (by rw [A.null, A.null]) fun _ => id
    have hne : cell ≠ .none := by
      rintro rfl
      cases htype
    have hlater : ¬ ∀ f ∈ later, Dict.get? (sampleToRow f) name = some .none := fun h =>
      hne (Option.some.inj (hcell.symm.trans (h s hs)))
    rw [if_neg hlater]
    split
    · next hempty =>
        have hbool : t ≠ .bool := by
          rintro rfl
          revert hc
          simp [columnTypes]
        exact (stored_text_iff A htype hbool).trans ⟨fun h _ => h, fun h => h hempty⟩
    · next hempty => exact iff_of_true rfl fun h => absurd h hempty
  constructor
  · intro h name hname hempty cell hcell
    obtain ⟨⟨c, t⟩, hc, rfl⟩ := List.mem_map.mp hname
    exact (hcolumn hc hcell).mp (h _ (Dict.mem_of_get? hcell)) hempty
  · intro h e he
    have hnodup : (Dict.keys (sampleToRow s)).Nodup := keys_sampleToRow s ▸ columnTypes_nodup
    have hcell := Dict.get?_of_mem hnodup he
    obtain ⟨t, hc, -⟩ := sampleToRow_wellTyped s e he
    exact (hcolumn hc hcell).mpr fun hempty => h e.1 (List.mem_map_of_mem hc) hempty e.2 hcell

/-- The types of a table refuse no row, so that a batch can only be stored in another form. -/
theorem harmless_iff (h : (store A table).Takes before later) :
    (store A table).Harmless before failed later ↔ Harmless A table before failed later := by
  refine or_congr_right' fun hnone => and_congr_right fun _ => ?_
  obtain ⟨t, ht, ha⟩ := h
  have hcolumns : before.schema.columns.isNone = true := by simpa using hnone
  simp only [TableStore.meets, hcolumns, if_true, Option.mem_def, Option.some.injEq] at ht
  subst ht
  have haccepts (s : Sample) (hs : s ∈ later) :
      (store A table).accepts ((store A table).columnsFor before failed) (sampleToRow s) := by
    obtain ⟨hnames, hbind⟩ := ha s hs
    refine ⟨?_, hbind⟩
    cases htable : (store A table).table before.store with
    | some t =>
        rw [htable] at hnames
        rw [TableStore.columnsFor, htable]
        exact hnames
    | none =>
        rw [keys_sampleToRow, TableStore.columnsFor, htable]
        simp [created, store, Backend.defsFor, Backend.columnDefs, lockedColumns, inferColumn_name,
          Function.comp_def]
  have halike : (∀ s ∈ later, (store A table).stored ((store A table).columnsFor before failed) (sampleToRow s) =
      (store A table).stored ((store A table).columnsFor before later) (sampleToRow s)) ↔
      (before.store.committed.isSome = true ∨
        ∀ name ∈ columnTypes.map Prod.fst, (∀ f ∈ failed, Dict.get? (sampleToRow f) name = some .none) →
          ∀ s ∈ later, ∀ cell ∈ Dict.get? (sampleToRow s) name, ¬ IsNumber cell) := by
    cases htable : before.store.committed with
    | some t =>
        have hsame (first : List Sample) : (store A table).columnsFor before first = t.columns := by
          rw [TableStore.columnsFor, show (store A table).table before.store = some t from htable]
          rfl
        exact iff_of_true (fun s _ => by rw [hsame, hsame]) (.inl rfl)
    | none =>
        have hmade (first : List Sample) :
            (store A table).columnsFor before first = (store A table).defsFor first := by
          rw [TableStore.columnsFor, show (store A table).table before.store = none from htable]
          rfl
        simp only [hmade, Option.isSome_none, Bool.false_eq_true, false_or]
        constructor
        · intro hrows name hname hempty s hs
          exact (rows_alike_iff A table failed hs).mp (hrows s hs) name hname hempty
        · intro hcells s hs
          exact (rows_alike_iff A table failed hs).mpr fun name hname hempty => hcells name hname hempty s hs
  exact ⟨fun hall => halike.mp fun s hs => (hall s hs).2,
    fun hall s hs => ⟨haccepts s hs, halike.mpr hall s hs⟩⟩

end

end Sqlite

/-- What decides is whether the table, or the writer, was created by the refused call, and whether what it created
for the refused batch holds the later one as what is created for that does. -/
theorem write_after_refusal_iff {V : Type} (A : Sqlite.Affinity) (table : String) {config : Postgres.PostgresConfig}
    {D : Postgres.Asyncpg W} {S : StoreView W} (hD : Documented S true D.execute (Postgres.write config D))
    (path : String) {P : Parquet.Pyarrow V} {S' : StoreView V}
    (hP : Documented S' false P.parquetWriter (Parquet.write P)) :
    (Sqlite.store A table).RecoversIff (Sqlite.Harmless A table) ∧
      (Postgres.store config D hD).RecoversIff (Postgres.store config D hD).Harmless ∧
      (Parquet.store path P hP).RecoversIff (Parquet.store path P hP).Harmless := by
  refine ⟨?_, ?_, ?_⟩
  · intro sink sink' failed later e hs hx he hl ht
    exact (TableStore.asIfNot_iff hs hx he hl ht).trans (Sqlite.harmless_iff ht)
  · intro sink sink' failed later e hs hx he hl ht
    exact TableStore.asIfNot_iff hs hx he hl ht
  · intro sink sink' failed later e hs hx he hl ht
    exact TableStore.asIfNot_iff hs hx he hl ht

/-! ## A scripted store -/

/-- A store that refuses the calls that its script says. -/
structure Script where
  table : Option Table := none
  refusals : List Bool := []
  deriving DecidableEq, Repr

namespace Script

/-- The types, of both stores, that a value can be written to. -/
def fits (columnType : String) : Cell → Bool
  | .none => true
  | .float _ => columnType ∈ ["double precision", "double"]
  | .int _ => columnType ∈ ["bigint", "int64", "double precision", "double"]
  | .str _ => columnType ∈ ["text", "string"]
  | .bool _ => columnType ∈ ["boolean", "bool"]

def Accepts (columns : List ColumnDef) (row : Row) : Prop :=
  ∀ e ∈ row, ∃ column ∈ columns, column.1 = e.1 ∧ fits column.2 e.2 = true

instance (columns : List ColumnDef) (row : Row) : Decidable (Accepts columns row) :=
  inferInstanceAs (Decidable (∀ e ∈ row, _))

def create (keeps : Bool) (columns : List ColumnDef) : Prog String Script PUnit :=
  ofFun fun w =>
    match w.refusals with
    | true :: refusals => (.error "refused", { w with refusals })
    | refusals => (.ok ⟨⟩, { table := some (created keeps w.table columns), refusals := refusals.tail })

def insert (rows : List Row) : Prog String Script PUnit :=
  ofFun fun w =>
    match w.refusals, w.table with
    | true :: refusals, _ => (.error "refused", { w with refusals })
    | refusals, none => (.error "no table", { w with refusals := refusals.tail })
    | refusals, some t =>
        if ∀ row ∈ rows, Accepts t.columns row then
          (.ok ⟨⟩, { table := some { t with rows := t.rows ++ rows }, refusals := refusals.tail })
        else (.error "misfit", { w with refusals := refusals.tail })

def view : StoreView Script where
  table := table
  recover w := { w with refusals := [] }
  accepts := Accepts
  stored _ row := row

/-- The script behaves as documented, whatever form a batch is handed over in. -/
theorem documented (keeps : Bool) {write : List ColumnDef → List Row → Prog String Script PUnit}
    (h : ∀ columns rows, ∃ rows', write columns rows = insert rows' ∧ (RowsOf columns rows → rows' = rows)) :
    Documented view keeps (create keeps) write where
  recover_table _ := rfl
  recover_recover _ := rfl
  create_table {w w' columns u} hx := by
    rw [create, exec_ofFun] at hx
    split at hx <;> cases hx
    rfl
  create_recover w columns := ⟨⟨⟩, _, rfl, rfl⟩
  write_error {w w' columns rows e} hx := by
    obtain ⟨rows', hw, -⟩ := h columns rows
    rw [hw, insert, exec_ofFun] at hx
    split at hx
    · cases hx
      rfl
    · cases hx
      rfl
    · split at hx <;> cases hx
      rfl
  write_ok {w w' columns rows u} hr hx := by
    obtain ⟨rows', hw, hrows⟩ := h columns rows
    rw [hw, hrows hr, insert, exec_ofFun] at hx
    split at hx
    · cases hx
    · cases hx
    · split at hx <;> cases hx
      exact ⟨_, ‹w.table = some _›, by simp [view]⟩
  write_accepts {w t columns rows} hrec ht hr := by
    obtain ⟨rows', hw, hrows⟩ := h columns rows
    obtain ⟨table, refusals⟩ := w
    have hnone : refusals = [] := (congrArg Script.refusals hrec).symm
    have hsome : table = some t := ht
    subst hnone hsome
    rw [hw, hrows hr, insert, exec_ofFun]
    by_cases ha : ∀ row ∈ rows, Accepts t.columns row
    · simp only [if_pos ha]
      exact iff_of_true rfl ha
    · simp only [if_neg ha]
      exact iff_of_false (by decide) ha

def asyncpg : Postgres.Asyncpg Script where
  execute := create true
  copyRecordsToTable names records := insert (records.map names.zip)
  executemany names records := insert (records.map names.zip)

/-- The rows of a table that is given by columns. -/
def rowsOf : Dict String (List Cell) → List Row
  | [] => []
  | (name, values) :: arrays =>
      (List.range values.length).map fun i => ((name, values) :: arrays).map fun a => (a.1, (a.2[i]?).getD .none)

def pyarrow : Parquet.Pyarrow Script where
  parquetWriter := create false
  writeTable _ arrays := insert (rowsOf arrays)

theorem rowsOf_arrays {columns : List ColumnDef} {rows : List Row} (h : RowsOf columns rows) :
    rowsOf (Parquet.arrays columns rows) = rows := by
  have hrow : ∀ (i : Nat) (hi : i < rows.length),
      ((Parquet.arrays columns rows).map fun a => (a.1, (a.2[i]?).getD Cell.none)) = rows[i] := by
    intro i hi
    have hkeys := h.keys rows[i] (List.getElem_mem hi)
    calc ((Parquet.arrays columns rows).map fun a => (a.1, (a.2[i]?).getD Cell.none))
        = (columns.map Prod.fst).zip (Sqlite.record columns rows[i]) := by
          simp [Parquet.arrays, Sqlite.record, List.zip_map', hi, Function.comp_def]
      _ = rows[i] := Sqlite.zip_record h.nodup hkeys
  obtain ⟨column, columns', rfl⟩ := List.exists_cons_of_ne_nil h.columns_nonempty
  refine List.ext_getElem (by simp [Parquet.arrays, rowsOf]) fun i hi hi' => ?_
  refine Eq.trans ?_ (hrow i hi')
  simp [Parquet.arrays, rowsOf]

theorem asyncpg_documented (config : Postgres.PostgresConfig) :
    Documented view true asyncpg.execute (Postgres.write config asyncpg) := by
  refine documented true fun columns rows => ⟨(rows.map (Sqlite.record columns)).map (columns.map Prod.fst).zip, ?_, ?_⟩
  · cases hc : config.useCopy <;> simp [Postgres.write, asyncpg, hc]
  · intro h
    exact Sqlite.zip_records h

theorem pyarrow_documented : Documented view false pyarrow.parquetWriter (Parquet.write pyarrow) :=
  documented false fun columns rows => ⟨rowsOf (Parquet.arrays columns rows), rfl, rowsOf_arrays⟩

end Script

/-- An open sink on an empty database whose engine refuses the row of the first batch. -/
def fullDisk : Sink Sqlite.Connection :=
  .opened { faults := [none, none, none, some { text := "disk is full" }] }

/-- An open sink on an empty store that creates a table and refuses the first batch. -/
def refusesRows : Sink Script := .opened { refusals := [false, true] }

abbrev sqliteSamples : TableStore Sqlite.Connection := Sqlite.store .ofSink "samples"

def postgresConfig : Postgres.PostgresConfig :=
  { target := "db:5432/lab.public.samples", createTable := true }

abbrev postgresSamples : TableStore Script :=
  Postgres.store postgresConfig _ (Script.asyncpg_documented postgresConfig)

abbrev parquetSamples : TableStore Script := Parquet.store "run.parquet" _ Script.pyarrow_documented

theorem write_after_refusal_iff_insert :
    sqliteSamples.AsIfNot fullDisk ((sqliteSamples.writeMany [gramSample]).exec fullDisk).2 [failedSample] ∧
      postgresSamples.AsIfNot refusesRows ((postgresSamples.writeMany [gramSample]).exec refusesRows).2
        [failedSample] ∧
      parquetSamples.AsIfNot refusesRows ((parquetSamples.writeMany [gramSample]).exec refusesRows).2
        [failedSample] := by
  obtain ⟨hs, hp, hq⟩ := write_after_refusal_iff .ofSink "samples" (Script.asyncpg_documented postgresConfig)
    "run.parquet" Script.pyarrow_documented
  have hlater : [failedSample] ≠ [] := List.cons_ne_nil _ _
  refine ⟨?_, ?_, ?_⟩
  · have hreached : sqliteSamples.Reached fullDisk := .opened (Eq.refl none)
    have hx : ((sqliteSamples.writeMany [gramSample]).exec fullDisk).1 =
        .error (.writeError "SqliteSink: INSERT into 'samples' failed: disk is full") := by decide +kernel
    have htakes : sqliteSamples.Takes fullDisk [failedSample] :=
      ⟨_, rfl, List.forall_mem_singleton.mpr
        (by decide +kernel : Sqlite.Accepts (sqliteSamples.defsFor [failedSample]) _)⟩
    exact (hs hreached (Prod.ext hx rfl) (Eq.refl true) hlater htakes).mpr
      (.inr ⟨by decide +kernel, .inr (by decide +kernel)⟩)
  · have hreached : postgresSamples.Reached refusesRows := .opened trivial
    have hx : ((postgresSamples.writeMany [gramSample]).exec refusesRows).1 =
        .error (.writeError "PostgresSink: write failed for db:5432/lab.public.samples: refused") := by
      decide +kernel
    have htakes : postgresSamples.Takes refusesRows [failedSample] :=
      ⟨_, rfl, List.forall_mem_singleton.mpr
        (by decide +kernel : Script.Accepts (postgresSamples.defsFor [failedSample]) _)⟩
    exact (hp hreached (Prod.ext hx rfl) (Eq.refl true) hlater htakes).mpr
      (.inr ⟨by decide +kernel, List.forall_mem_singleton.mpr
        ⟨(by decide +kernel : Script.Accepts (postgresSamples.defsFor [gramSample]) _), rfl⟩⟩)
  · have hreached : parquetSamples.Reached refusesRows := .opened trivial
    have hx : ((parquetSamples.writeMany [gramSample]).exec refusesRows).1 =
        .error (.writeError "ParquetSink: write failed for run.parquet: refused") := by decide +kernel
    have htakes : parquetSamples.Takes refusesRows [failedSample] :=
      ⟨_, rfl, List.forall_mem_singleton.mpr
        (by decide +kernel : Script.Accepts (parquetSamples.defsFor [failedSample]) _)⟩
    exact (hq hreached (Prod.ext hx rfl) (Eq.refl true) hlater htakes).mpr
      (.inr ⟨by decide +kernel, List.forall_mem_singleton.mpr
        ⟨(by decide +kernel : Script.Accepts (parquetSamples.defsFor [gramSample]) _), rfl⟩⟩)

/-- An open sink on a database that is locked when the table is to be created. -/
def lockedDatabase : Sink Sqlite.Connection := .opened { faults := [some { text := "database is locked" }] }

/-- After `CREATE TABLE` was refused, every write fails an assertion. -/
theorem refused_creation_sticks :
    ((sqliteSamples.writeMany [gramSample]).exec lockedDatabase).1 =
        .error (.writeError "SqliteSink: CREATE TABLE failed for 'samples': database is locked") ∧
      ((sqliteSamples.writeMany [gramSample]).exec (sqliteSamples.recovered
        ((sqliteSamples.writeMany [gramSample]).exec lockedDatabase).2)).1 = .error (.library .assertionError) ∧
      ((sqliteSamples.writeMany [gramSample]).exec (sqliteSamples.recovered lockedDatabase)).1 = .ok ⟨⟩ := by
  decide +kernel

end SartoriusLib.Sinks
