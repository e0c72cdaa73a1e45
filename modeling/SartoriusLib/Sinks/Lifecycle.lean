import SartoriusLib.Sinks.Drivers

/-!
# Opening a sink again

A sink keeps its handle, its schema lock and its prepared statement (or its writer) apart. What `open` finds of them
after a `close`, or after an `open` that raised, decides whether the sink can be written to. Every call of a driver
may raise; the answers to the calls to come are part of the world, and so is the table that is there.
-/

namespace SartoriusLib.Sinks

open SartoriusLib Lib Prog

/-- `lock_to` -/
def SchemaLock.lockTo (l : SchemaLock) (specs : List ColumnSpec) : Except Exc SchemaLock :=
  if l.columns.isSome then .error (.runtimeError "SchemaLock.lock_to called twice")
  else if specs.isEmpty then .error (.valueError "SchemaLock.lock_to requires at least one column")
  else .ok { l with columns := some specs, names := specs.map ColumnSpec.name }

namespace Lifecycle

/-! ## The world -/

/-- A column as the database describes it. -/
structure ColumnInfo where
  name : String
  declType : String
  notNull : Bool := false
  deriving DecidableEq, Repr

/-- A batch as it is handed to a driver. -/
inductive Payload where
  | records (names : List String) (records : List (List Cell))
  | arrays (arrays : Dict String (List Cell))
  deriving DecidableEq, Repr

structure World where
  /-- What the calls to come raise; past the end of the list none raises. -/
  answers : List (Option String) := []
  /-- The columns of the table that is there; a table has some. -/
  table : List ColumnInfo := []
  /-- The batches that were taken. -/
  written : List Payload := []
  deriving DecidableEq, Repr

/-- A call of a driver. -/
def call : Prog String World PUnit :=
  ofFun fun w =>
    match w.answers with
    | some text :: answers => (.error text, { w with answers })
    | answers => (.ok ⟨⟩, { w with answers := answers.tail })

/-- `CREATE TABLE IF NOT EXISTS` -/
def createTable (columns : List ColumnDef) : Prog String World PUnit := do
  call
  modify fun w =>
    if w.table.isEmpty then
      { w with table := columns.map fun column => { name := column.1, declType := column.2 } }
    else w

/-- What a database says of an `INSERT` into the columns when it refuses it for its table; the values that the table
refuses are among the answers. -/
def refusal (noTable : String) (noColumn : String → String) (same : String → String → Bool) (names : List String)
    (table : List ColumnInfo) : Option String :=
  if table.isEmpty then some noTable
  else (names.find? fun name => !table.any fun column => same column.name name).map noColumn

/-- A call that takes a batch, unless the store refuses it for its table. -/
def hand (refuses : List ColumnInfo → Option String) (payload : Payload) : Prog String World PUnit := do
  call
  let w ← get
  match refuses w.table with
  | some text => throw text
  | none => modify fun w => { w with written := w.written ++ [payload] }

/-- A call whose exception is translated, or is not. -/
def driver (f : String → SinkExc) (m : Prog String World PUnit) : Prog SinkExc (Sink World) PUnit :=
  Backend.onStore (translate f m)

/-- What the table says becomes the schema. -/
def introspect (missing : String) (spec : ColumnInfo → ColumnSpec) : Prog SinkExc (Sink World) PUnit := do
  driver .store call
  let sink ← get
  if sink.store.table.isEmpty then throw (.library (.sartorius { cls := .sinkSchemaError, message := missing }))
  else
    match sink.schema.lockTo (sink.store.table.map spec) with
    | .error e => throw (.library e)
    | .ok schema => modify fun sink => { sink with schema, prepared := true }

/-- The methods of a sink. -/
structure Methods where
  backend : Backend World
  payload : List ColumnDef → List Row → Payload
  /-- What the store says of the columns of an insert. -/
  refusal : List String → List ColumnInfo → Option String
  openSink : Prog SinkExc (Sink World) PUnit
  closeSink : Prog SinkExc (Sink World) PUnit

/-! ## SQLite -/

namespace SqliteSink

def pyType (declType : String) : PyType :=
  let upper := Text.upper declType.toList
  if "BOOL".toList <:+: upper then .bool
  else if "INT".toList <:+: upper then .int
  else if "REAL".toList <:+: upper ∨ "FLOA".toList <:+: upper ∨ "DOUB".toList <:+: upper then .float
  else .str

/-- The directory is made, the connection opened, and the three pragmas are set. -/
def connectBlocking : Prog String World PUnit := do
  call
  call
  call
  call
  call

def introspectExistingTableBlocking (table path : String) : Prog SinkExc (Sink World) PUnit :=
  introspect
    (s!"SqliteSink: table {textRepr table} does not exist in {path} and create_table=False. Create the table first " ++
      "or pass create_table=True.")
    fun column =>
      { name := column.name, pythonType := pyType column.declType, nullable := !column.notNull }

def openSink (table path : String) (create : Bool) : Prog SinkExc (Sink World) PUnit := do
  let sink ← get
  if sink.isOpen then pure ⟨⟩
  else do
    driver .store connectBlocking
    modify fun sink => { sink with isOpen := true }
    if create then pure ⟨⟩
    else
      tryCatch (introspectExistingTableBlocking table path) fun e => do
        modify fun sink => { sink with isOpen := false }
        driver .store call
        throw e

def closeSink : Prog SinkExc (Sink World) PUnit := do
  let sink ← get
  if sink.isOpen then do
    modify fun sink => { sink with isOpen := false }
    driver .store call
  else pure ⟨⟩

/-- The names of columns are compared without regard to case. -/
def refusal (table : String) : List String → List ColumnInfo → Option String :=
  Lifecycle.refusal s!"no such table: {table}" (fun name => s!"table {table} has no column named {name}")
    fun a b => Text.lower a.toList == Text.lower b.toList

def methods (table path : String) (create : Bool) : Methods where
  backend := .over "SqliteSink" Sqlite.columnType
    (fun text => .writeError s!"SqliteSink: CREATE TABLE failed for {textRepr table}: {text}")
    (fun text => .writeError s!"SqliteSink: INSERT into {textRepr table} failed: {text}") create createTable
    fun columns rows =>
      hand (refusal table (columns.map Prod.fst))
        (.records (columns.map Prod.fst) (rows.map (Sqlite.record columns)))
  payload columns rows := .records (columns.map Prod.fst) (rows.map (Sqlite.record columns))
  refusal := refusal table
  openSink := openSink table path create
  closeSink

end SqliteSink

/-! ## Postgres -/

namespace PostgresSink

def pyType (dataType : String) : PyType :=
  if dataType ∈ ["double precision", "real", "numeric", "decimal"] then .float
  else if dataType ∈ ["bigint", "integer", "smallint"] then .int
  else if dataType ∈ ["boolean"] then .bool
  else .str

def introspectExistingTable (config : Postgres.PostgresConfig) : Prog SinkExc (Sink World) PUnit :=
  introspect
    (s!"PostgresSink: table {config.schema}.{config.table} does not exist on {config.target} and " ++
      "create_table=False. Create the table first, or pass create_table=True on PostgresConfig.")
    fun column =>
      { name := column.name, pythonType := pyType (String.ofList (Text.lower column.declType.toList)),
        nullable := true }

/-- `_load_asyncpg` -/
def loadAsyncpg : Prog SinkExc (Sink World) PUnit :=
  driver
    (fun _ => .library (.sartorius
      { cls := .sinkDependencyError,
        message := "PostgresSink requires the `postgres` extra. Install with: " ++
          "`pip install 'sartoriuslib[postgres]'` (or `uv add 'sartoriuslib[postgres]'`)." }))
    call

/-- Nothing is undone when the introspection raises. -/
def openSink (config : Postgres.PostgresConfig) : Prog SinkExc (Sink World) PUnit := do
  let sink ← get
  if sink.isOpen then pure ⟨⟩
  else do
    loadAsyncpg
    driver (fun text => .writeError s!"PostgresSink: failed to open pool for {config.target}: {text}") call
    modify fun sink => { sink with isOpen := true }
    if config.createTable then pure ⟨⟩ else introspectExistingTable config

def closeSink : Prog SinkExc (Sink World) PUnit := do
  let sink ← get
  if sink.isOpen then do
    modify fun sink => { sink with isOpen := false }
    driver .store call
  else pure ⟨⟩

/-- The names are quoted, and compared as they are. -/
def refusal (config : Postgres.PostgresConfig) : List String → List ColumnInfo → Option String :=
  Lifecycle.refusal ("relation \"" ++ config.schema ++ "." ++ config.table ++ "\" does not exist")
    (fun name => "column \"" ++ name ++ "\" of relation \"" ++ config.table ++ "\" does not exist") fun a b => a == b

def asyncpg (config : Postgres.PostgresConfig) : Postgres.Asyncpg World where
  execute := createTable
  copyRecordsToTable names records := hand (refusal config names) (.records names records)
  executemany names records := hand (refusal config names) (.records names records)

def methods (config : Postgres.PostgresConfig) : Methods where
  backend := Postgres.backend config (asyncpg config)
  payload columns rows := .records (columns.map Prod.fst) (rows.map (Sqlite.record columns))
  refusal := refusal config
  openSink := openSink config
  closeSink

end PostgresSink

/-! ## Parquet -/

namespace ParquetSink

/-- `_load_pyarrow` -/
def loadPyarrow : Prog SinkExc (Sink World) PUnit :=
  driver
    (fun _ => .library (.sartorius
      { cls := .sinkDependencyError,
        message := "ParquetSink requires the `parquet` extra. Install with: " ++
          "`pip install 'sartoriuslib[parquet]'` (or `uv add 'sartoriuslib[parquet]'`)." }))
    call

/-- The handle is there before the directory is made. -/
def openSink : Prog SinkExc (Sink World) PUnit := do
  let sink ← get
  if sink.isOpen then pure ⟨⟩
  else do
    loadPyarrow
    modify fun sink => { sink with isOpen := true }
    driver .store call

/-- `try: self._writer.close() finally: self._writer = None` -/
def closeWriter : Prog SinkExc (Sink World) PUnit := do
  tryCatch (driver .store call) fun e => do
    modify fun sink => { sink with prepared := false }
    throw e
  modify fun sink => { sink with prepared := false }

/-- When the writer's `close` raises, the handle is kept. -/
def closeSink : Prog SinkExc (Sink World) PUnit := do
  let sink ← get
  if sink.prepared then do
    closeWriter
    modify fun sink => { sink with isOpen := false }
  else modify fun sink => { sink with isOpen := false }

def pyarrow : Parquet.Pyarrow World where
  parquetWriter _ := call
  writeTable _ arrays := hand (fun _ => none) (.arrays arrays)

def methods (path : String) : Methods where
  backend := Parquet.backend path pyarrow
  payload columns rows := .arrays (Parquet.arrays columns rows)
  refusal _ _ := none
  openSink
  closeSink

end ParquetSink

/-! ## Histories -/

inductive Call where
  | openSink
  | writeMany (samples : List Sample)
  | closeSink
  deriving DecidableEq, Repr

/-- A call, with what it finds outside. -/
structure Turn where
  call : Call
  answers : List (Option String) := []
  table : List ColumnInfo := []
  deriving DecidableEq, Repr

/-- The sink when the call begins. -/
def Turn.meets (turn : Turn) (sink : Sink World) : Sink World :=
  { sink with store := { sink.store with answers := turn.answers, table := turn.table } }

namespace Methods

variable (M : Methods)

def run : Call → Prog SinkExc (Sink World) PUnit
  | .openSink => M.openSink
  | .writeMany samples => M.backend.writeMany samples
  | .closeSink => M.closeSink

def perform (sink : Sink World) (turn : Turn) : Except SinkExc PUnit × Sink World :=
  (M.run turn.call).exec (turn.meets sink)

/-- The states of a sink after any calls, from a new one. -/
inductive History : Sink World → Prop
  | new (w : World) : History { store := w }
  | turn {sink : Sink World} (h : History sink) (t : Turn) : History (M.perform sink t).2

/-- The last call was `close`, or an `open` that raised. -/
def Ended (sink : Sink World) : Prop :=
  ∃ before turn, M.History before ∧ sink = (M.perform before turn).2 ∧
    (turn.call = .closeSink ∨ turn.call = .openSink ∧ (M.perform before turn).1 ≠ .ok ⟨⟩)

/-- The state of a new sink after some calls. -/
def after (turns : List Turn) : Sink World := turns.foldl (fun sink turn => (M.perform sink turn).2) { store := {} }

theorem after_append (turns : List Turn) (turn : Turn) :
    M.after (turns ++ [turn]) = (M.perform (M.after turns) turn).2 := by
  simp [after]

theorem after_history (turns : List Turn) : M.History (M.after turns) := by
  have hfrom : ∀ sink, M.History sink → M.History (turns.foldl (fun sink turn => (M.perform sink turn).2) sink) := by
    induction turns with
    | nil => exact fun _ h => h
    | cons turn turns ih => exact fun _ h => ih _ (.turn h turn)
  exact hfrom _ (.new {})

theorem after_ended (turns : List Turn) (turn : Turn)
    (h : turn.call = .closeSink ∨ turn.call = .openSink ∧ (M.perform (M.after turns) turn).1 ≠ .ok ⟨⟩) :
    M.Ended (M.after (turns ++ [turn])) :=
  ⟨M.after turns, turn, M.after_history turns, M.after_append turns turn, h⟩

/-- The columns can be inserted into the table. -/
def Has (names : List String) (table : List ColumnInfo) : Prop := M.refusal names table = none

instance (names : List String) (table : List ColumnInfo) : Decidable (M.Has names table) :=
  inferInstanceAs (Decidable (_ = _))

/-- A batch that no driver refuses is written: it is projected on the locked columns and taken. -/
def Ready (sink : Sink World) : Prop :=
  ∀ samples, samples ≠ [] →
    let result := (M.backend.writeMany samples).exec { sink with store := { sink.store with answers := [] } }
    result.1 = .ok ⟨⟩ ∧ ∃ columns l projected,
      result.2.schema.columns = some columns ∧
        Backend.projectAll l (samples.map sampleToRow) = .ok (projected, result.2.schema) ∧
        result.2.store.written = sink.store.written ++ [M.payload (M.backend.columnDefs columns) projected]

/-- The exception comes from a driver, or from what the sink found outside. -/
def Current : SinkExc → Prop
  | .store _ => True
  | .library (.sartorius _) => True
  | _ => False

/-- A further `open` that finds the table does its work and leaves the sink ready, or it raises for a current
reason. -/
def Reopens (sink : Sink World) (table : List ColumnInfo) : Prop :=
  ∀ answers,
    let result := M.perform sink { call := .openSink, answers, table }
    (∃ e, result.1 = .error e ∧ Current e) ∨ (result.1 = .ok ⟨⟩ ∧ sink.isOpen = false ∧ M.Ready result.2)

/-- What is kept of the schema fits the table: an unlocked sink can write to it or create it, and one with a locked
schema has its statement and finds the columns, or finds that there is no table to read them from. -/
def Fits (prepared : Bool) (table : List ColumnInfo) : Option (List ColumnSpec) → Prop
  | none => M.backend.createTable = true → table = [] ∨ M.Has (columnTypes.map Prod.fst) table
  | some columns =>
      if M.backend.createTable then prepared = true ∧ M.Has (columns.map ColumnSpec.name) table else table = []

instance (prepared : Bool) (table : List ColumnInfo) :
    (columns : Option (List ColumnSpec)) → Decidable (M.Fits prepared table columns)
  | none => inferInstanceAs (Decidable (_ → _))
  | some columns => inferInstanceAs (Decidable
      (if M.backend.createTable then prepared = true ∧ M.Has (columns.map ColumnSpec.name) table else table = []))

/-- The handle was given back, and what is kept of the schema fits the table. -/
def Reopenable (sink : Sink World) (table : List ColumnInfo) : Prop :=
  sink.isOpen = false ∧ M.Fits sink.prepared table sink.schema.columns

instance (sink : Sink World) (table : List ColumnInfo) : Decidable (M.Reopenable sink table) :=
  inferInstanceAs (Decidable (_ ∧ _))

end Methods

/-! ## A batch that is written -/

theorem call_quiet {w : World} (h : w.answers = []) : call.exec w = (.ok ⟨⟩, w) := by
  obtain ⟨answers, table, written⟩ := w
  cases h
  rfl

theorem createTable_quiet {w : World} (columns : List ColumnDef) (h : w.answers = []) :
    (createTable columns).exec w = (.ok ⟨⟩,
      if w.table.isEmpty then
        { w with table := columns.map fun column => { name := column.1, declType := column.2 } }
      else w) := by
  rw [createTable, exec_bind_ok (call_quiet h), exec_modify]

section

variable {w : World} {refuses : List ColumnInfo → Option String}

theorem hand_quiet (h : w.answers = []) (ht : refuses w.table = none) (payload : Payload) :
    (hand refuses payload).exec w = (.ok ⟨⟩, { w with written := w.written ++ [payload] }) := by
  rw [hand, exec_bind_ok (call_quiet h), exec_bind_ok (exec_get _), ht]
  rfl

theorem hand_refused (h : w.answers = []) (ht : refuses w.table ≠ none) (payload : Payload) :
    ((hand refuses payload).exec w).1.isOk = false := by
  obtain ⟨text, ht⟩ := Option.ne_none_iff_exists'.mp ht
  rw [hand, exec_bind_ok (call_quiet h), exec_bind_ok (exec_get _), ht]
  rfl

end

/-- A table has its own columns. -/
theorem refusal_own (noTable : String) (noColumn : String → String) {same : String → String → Bool}
    (hsame : ∀ name, same name name = true) {table : List ColumnInfo} (h : table ≠ []) :
    refusal noTable noColumn same (table.map ColumnInfo.name) table = none := by
  have hfind :
      (table.map ColumnInfo.name).find? (fun name => !table.any fun column => same column.name name) = none := by
    rw [List.find?_eq_none]
    intro name hname
    obtain ⟨column, hcolumn, rfl⟩ := List.mem_map.mp hname
    simpa using ⟨column, hcolumn, hsame column.name⟩
  rw [refusal, if_neg (by simpa using h), hfind]
  rfl

/-- What a sink can do to its store while the drivers refuse nothing. -/
structure Works (M : Methods) : Prop where
  creates : ∀ {w : World} {columns}, columns ≠ [] → w.answers = [] → ∃ w',
    (M.backend.create columns).exec w = (.ok ⟨⟩, w') ∧ w'.answers = [] ∧ w'.written = w.written ∧
      (M.Has (columns.map Prod.fst) w'.table ↔ w.table = [] ∨ M.Has (columns.map Prod.fst) w.table)
  inserts : ∀ {w : World} {columns} rows, w.answers = [] → M.Has (columns.map Prod.fst) w.table →
    (M.backend.insert columns rows).exec w =
      (.ok ⟨⟩, { w with written := w.written ++ [M.payload columns rows] })
  refuses : ∀ {w : World} columns rows, w.answers = [] → ¬ M.Has (columns.map Prod.fst) w.table →
    ((M.backend.insert columns rows).exec w).1.isOk = false
  own : ∀ {table : List ColumnInfo}, table ≠ [] → M.Has (table.map ColumnInfo.name) table

section

variable {sinkName : String} {columnType : PyType → String} {createError writeError : String → SinkExc} {create : Bool}
  {write : List ColumnDef → List Row → Prog String World PUnit} {payload : List ColumnDef → List Row → Payload}
  {refusal : List String → List ColumnInfo → Option String} {openSink closeSink : Prog SinkExc (Sink World) PUnit}

/-- A sink over a database. -/
theorem Works.ofTable (hown : ∀ table, table ≠ [] → refusal (table.map ColumnInfo.name) table = none)
    (hwrite : ∀ columns rows, write columns rows = hand (refusal (columns.map Prod.fst)) (payload columns rows)) :
    Works ⟨.over sinkName columnType createError writeError create createTable write, payload, refusal, openSink,
      closeSink⟩ where
  creates {w columns} hne h := by
    refine ⟨_, translate_ok.mpr (createTable_quiet columns h), ?_⟩
    by_cases ht : w.table = []
    · have hmade := hown (columns.map fun column => { name := column.1, declType := column.2 }) (by simpa using hne)
      rw [List.map_map] at hmade
      rw [ht]
      exact ⟨h, rfl, iff_of_true hmade (.inl rfl)⟩
    · simp [ht, h]
  inserts rows h ht := translate_ok.mpr (by rw [hwrite, hand_quiet h ht])
  refuses _ rows h ht := translate_isOk.trans (by rw [hwrite, hand_refused h ht])
  own h := hown _ h

/-- A sink over a file, which is always written anew. -/
theorem Works.ofFile {creates : List ColumnDef → Prog String World PUnit} (hcreate : ∀ columns, creates columns = call)
    (hwrite : ∀ columns rows, write columns rows = hand (fun _ => none) (payload columns rows)) :
    Works ⟨.over sinkName columnType createError writeError create creates write, payload, fun _ _ => none, openSink,
      closeSink⟩ where
  creates {w columns} _ h :=
    ⟨w, translate_ok.mpr (by rw [hcreate, call_quiet h]), h, rfl, iff_of_true rfl (.inr rfl)⟩
  inserts rows h _ := translate_ok.mpr (by rw [hwrite, hand_quiet h rfl])
  refuses _ _ _ ht := absurd rfl ht
  own _ := rfl

end

section

variable {M : Methods} {sink : Sink World} {columns : List ColumnSpec} {l : SchemaLock}

theorem project_columns (row : Row) (h : l.columns = some columns) :
    ∃ projected l', l.project row = .ok (projected, l') ∧ l'.columns = some columns := by
  have hloop : ∀ (acc : Row × SchemaLock), acc.2.columns = some columns → (row.foldl
      (fun (acc : Row × SchemaLock) e =>
        if e.1 ∈ acc.2.names then (acc.1.set e.1 e.2, acc.2)
        else if e.1 ∈ acc.2.unknownWarned then acc
        else (acc.1, { acc.2 with unknownWarned := acc.2.unknownWarned ++ [e.1] })) acc).2.columns = some columns := by
    induction row with
    | nil => exact fun _ h => h
    | cons e row ih =>
        intro acc hacc
        rw [List.foldl_cons]
        repeat' split
        all_goals exact ih _ hacc
  unfold SchemaLock.project
  rw [h]
  exact ⟨_, _, rfl, hloop _ h⟩

theorem projectAll_columns (rows : List Row) (h : l.columns = some columns) :
    ∃ projected l', Backend.projectAll l rows = .ok (projected, l') ∧ l'.columns = some columns := by
  induction rows generalizing l with
  | nil => exact ⟨[], l, rfl, h⟩
  | cons row rows ih =>
      obtain ⟨first, l₁, hrow, h₁⟩ := project_columns row h
      obtain ⟨rest, l', hrest, h'⟩ := ih h₁
      exact ⟨first :: rest, l', by rw [Backend.projectAll_cons, hrow, Except.bind, hrest]; rfl, h'⟩

/-- A prepared sink inserts. -/
theorem insertRows_prepared (M : Methods) (rows : List Row) (sink : Sink World)
    (hc : sink.schema.columns = some columns) (hp : sink.prepared = true) :
    ∃ projected l', Backend.projectAll sink.schema rows = .ok (projected, l') ∧ l'.columns = some columns ∧
      (M.backend.insertRows rows).exec sink =
        (((M.backend.insert (M.backend.columnDefs columns) projected).exec sink.store).1,
          { sink with
            schema := l',
            store := ((M.backend.insert (M.backend.columnDefs columns) projected).exec sink.store).2 }) := by
  obtain ⟨projected, l', hproject, hl'⟩ := projectAll_columns rows hc
  refine ⟨projected, l', hproject, hl', ?_⟩
  obtain ⟨isOpen, schema, prepared, store⟩ := sink
  cases hp
  rw [Backend.insertRows, exec_bind_ok (exec_get _)]
  simp only [show schema.columns = some columns from hc, hproject]
  rw [exec_bind_ok (exec_modify _ _), Backend.onStore, exec_zoom]

theorem writeMany_eq (M : Methods) (sink : Sink World) {samples : List Sample} (ho : sink.isOpen = true)
    (hs : samples ≠ []) :
    (M.backend.writeMany samples).exec sink =
      if sink.schema.columns.isNone && M.backend.createTable then
        (M.backend.prepare (samples.map sampleToRow) >>= fun _ =>
          M.backend.insertRows (samples.map sampleToRow)).exec sink
      else (M.backend.insertRows (samples.map sampleToRow)).exec sink := by
  rw [Backend.writeMany, exec_bind_ok (exec_get _), ho, if_neg (by simp), if_neg hs]
  split <;> rfl

theorem names_columnDefs (B : Backend World) (columns : List ColumnSpec) :
    (B.columnDefs columns).map Prod.fst = columns.map ColumnSpec.name := by
  simp [Backend.columnDefs, Function.comp_def]

/-- The insert of a prepared sink is taken exactly when the table has the columns. -/
theorem insertRows_iff (hM : Works M) (rows : List Row) (sink : Sink World)
    (hc : sink.schema.columns = some columns) (hp : sink.prepared = true) (ha : sink.store.answers = []) :
    let result := (M.backend.insertRows rows).exec sink
    (M.Has (columns.map ColumnSpec.name) sink.store.table → result.1 = .ok ⟨⟩ ∧ ∃ columns l projected,
      result.2.schema.columns = some columns ∧ Backend.projectAll l rows = .ok (projected, result.2.schema) ∧
        result.2.store.written = sink.store.written ++ [M.payload (M.backend.columnDefs columns) projected]) ∧
    (result.1 = .ok ⟨⟩ → M.Has (columns.map ColumnSpec.name) sink.store.table) := by
  obtain ⟨projected, l', hproject, hl', hrun⟩ := insertRows_prepared M rows sink hc hp
  rw [hrun]
  constructor
  · intro hhas
    rw [hM.inserts projected ha ((names_columnDefs M.backend columns).symm ▸ hhas)]
    exact ⟨rfl, columns, sink.schema, projected, hl', hproject, rfl⟩
  · intro hok
    by_contra hnot
    have hrefused := hM.refuses (M.backend.columnDefs columns) projected ha
      ((names_columnDefs M.backend columns).symm ▸ hnot)
    rw [show ((M.backend.insert (M.backend.columnDefs columns) projected).exec sink.store).1 = .ok ⟨⟩ from hok]
      at hrefused
    cases hrefused

theorem ready_of_prepared (hM : Works M) (ho : sink.isOpen = true) (hc : sink.schema.columns = some columns)
    (hp : sink.prepared = true) : M.Ready sink ↔ M.Has (columns.map ColumnSpec.name) sink.store.table := by
  have hwrite {samples : List Sample} (hs : samples ≠ []) :
      (M.backend.writeMany samples).exec { sink with store := { sink.store with answers := [] } } =
        (M.backend.insertRows (samples.map sampleToRow)).exec
          { sink with store := { sink.store with answers := [] } } := by
    rw [writeMany_eq M { sink with store := { sink.store with answers := [] } } ho hs, if_neg (by simp [hc])]
  constructor
  · intro h
    obtain ⟨hok, -⟩ := h [gramSample] (List.cons_ne_nil _ _)
    rw [hwrite (List.cons_ne_nil _ _)] at hok
    exact (insertRows_iff hM _ { sink with store := { sink.store with answers := [] } } hc hp rfl).2 hok
  · intro h samples hs
    dsimp only
    rw [hwrite hs]
    exact (insertRows_iff hM _ { sink with store := { sink.store with answers := [] } } hc hp rfl).1 h

/-- An unlocked sink locks the columns of a sample, and makes its table. -/
theorem prepare_quiet (hM : Works M) (sink : Sink World) (hc : sink.schema.columns = none)
    (ha : sink.store.answers = []) {samples : List Sample} (hs : samples ≠ []) :
    ∃ columns l w, l.columns = some columns ∧ columns.map ColumnSpec.name = columnTypes.map Prod.fst ∧
      (M.backend.prepare (samples.map sampleToRow)).exec sink =
        (.ok ⟨⟩, { sink with schema := l, prepared := true, store := w }) ∧
      w.answers = [] ∧ w.written = sink.store.written ∧
        (M.Has (columnTypes.map Prod.fst) w.table ↔
          sink.store.table = [] ∨ M.Has (columnTypes.map Prod.fst) sink.store.table) := by
  have hrows : samples.map sampleToRow ≠ [] := fun h => hs (List.map_eq_nil_iff.mp h)
  have hlock : ∃ l, sink.schema.lock (samples.map sampleToRow) = .ok l ∧ l.columns = some (lockedColumns samples) := by
    rw [SchemaLock.lock, hc, if_neg (by simp), if_neg hrows, orderedKeys_samples hs]
    exact ⟨_, rfl, rfl⟩
  obtain ⟨l, hlock, hl⟩ := hlock
  have hnames : (lockedColumns samples).map ColumnSpec.name = columnTypes.map Prod.fst := by
    simp [lockedColumns, inferColumn_name, Function.comp_def]
  have hdefs := (names_columnDefs M.backend (lockedColumns samples)).trans hnames
  have hne : M.backend.columnDefs (lockedColumns samples) ≠ [] := by
    intro hnil
    rw [hnil] at hdefs
    cases hdefs
  obtain ⟨w, hcreate, hw, hwritten, hhas⟩ := hM.creates hne ha
  rw [hdefs] at hhas
  refine ⟨lockedColumns samples, l, w, hl, hnames, ?_, hw, hwritten, hhas⟩
  rw [Backend.prepare, exec_bind_ok (exec_get _), hlock]
  dsimp only
  rw [exec_bind_ok (exec_modify _ _), exec_bind]
  simp only [Backend.onStore, exec_zoom, hl, Option.getD_some, hcreate, exec_modify]

theorem ready_of_unlocked (hM : Works M) (ho : sink.isOpen = true) (hc : sink.schema.columns = none)
    (hcreate : M.backend.createTable = true) :
    M.Ready sink ↔ sink.store.table = [] ∨ M.Has (columnTypes.map Prod.fst) sink.store.table := by
  have hwrite {samples : List Sample} (hs : samples ≠ []) :
      ∃ columns l w, l.columns = some columns ∧ columns.map ColumnSpec.name = columnTypes.map Prod.fst ∧
        w.answers = [] ∧ w.written = sink.store.written ∧
        (M.Has (columnTypes.map Prod.fst) w.table ↔
          sink.store.table = [] ∨ M.Has (columnTypes.map Prod.fst) sink.store.table) ∧
        (M.backend.writeMany samples).exec { sink with store := { sink.store with answers := [] } } =
          (M.backend.insertRows (samples.map sampleToRow)).exec
            { sink with schema := l, prepared := true, store := w } := by
    obtain ⟨columns, l, w, hl, hnames, hprepare, hw, hwritten, hhas⟩ :=
      prepare_quiet hM { sink with store := { sink.store with answers := [] } } hc rfl hs
    refine ⟨columns, l, w, hl, hnames, hw, hwritten, hhas, ?_⟩
    rw [writeMany_eq M { sink with store := { sink.store with answers := [] } } ho hs,
      if_pos (by simp [hc, hcreate]), exec_bind_ok hprepare]
  constructor
  · intro h
    obtain ⟨columns, l, w, hl, hnames, hw, -, hhas, hrun⟩ := hwrite (List.cons_ne_nil gramSample [])
    obtain ⟨hok, -⟩ := h [gramSample] (List.cons_ne_nil _ _)
    rw [hrun] at hok
    have hnow := (insertRows_iff hM _ { sink with schema := l, prepared := true, store := w } hl rfl hw).2 hok
    exact hhas.mp (hnames ▸ hnow)
  · intro h samples hs
    obtain ⟨columns, l, w, hl, hnames, hw, hwritten, hhas, hrun⟩ := hwrite hs
    dsimp only
    rw [hrun, ← hwritten]
    exact (insertRows_iff hM _ { sink with schema := l, prepared := true, store := w } hl rfl hw).1
      (hnames.symm ▸ hhas.mpr h)

/-- A locked schema without a statement for it fails an assertion. -/
theorem not_ready (ho : sink.isOpen = true) (hc : sink.schema.columns = some columns) (hp : sink.prepared = false) :
    ¬ M.Ready sink := by
  intro h
  obtain ⟨hok, -⟩ := h [gramSample] (List.cons_ne_nil _ _)
  have hwrite := writeMany_eq M { sink with store := { sink.store with answers := [] } } ho
    (List.cons_ne_nil gramSample [])
  rw [if_neg (by simp [hc])] at hwrite
  have hrows : ((M.backend.insertRows ([gramSample].map sampleToRow)).exec
      { sink with store := { sink.store with answers := [] } }).1 = .error (.library .assertionError) := by
    rw [Backend.insertRows, exec_bind_ok (exec_get _), hp]
    rfl
  rw [hwrite, hrows] at hok
  cases hok

end

/-! ## What `open` does -/

/-- What one `open` can do, whatever it finds outside. -/
structure Opens (M : Methods) : Prop where
  works : Works M
  /-- The table stays as it is found. -/
  table : Leaves (fun sink : Sink World => sink.store.table) M.openSink
  again : ∀ sink : Sink World, sink.isOpen = true → M.openSink.exec sink = (.ok ⟨⟩, sink)
  raises : ∀ (sink : Sink World) {sink' e}, sink.isOpen = false →
    (M.backend.createTable = true ∨ sink.schema.columns = none ∨ sink.store.table = []) →
      M.openSink.exec sink = (.error e, sink') → Methods.Current e
  creating : ∀ (sink : Sink World) {sink' u}, sink.isOpen = false → M.backend.createTable = true →
    M.openSink.exec sink = (.ok u, sink') →
      sink'.isOpen = true ∧ sink'.schema = sink.schema ∧ sink'.prepared = sink.prepared
  introspecting : ∀ (sink : Sink World) {sink' u}, sink.isOpen = false → M.backend.createTable = false →
    M.openSink.exec sink = (.ok u, sink') →
      sink'.isOpen = true ∧ sink'.prepared = true ∧ sink'.store.table ≠ [] ∧
        ∃ columns, sink'.schema.columns = some columns ∧
          columns.map ColumnSpec.name = sink'.store.table.map ColumnInfo.name
  /-- A schema that is locked cannot be locked again. -/
  locked : ∀ sink : Sink World, sink.isOpen = false → M.backend.createTable = false → sink.schema.columns.isSome →
    sink.store.answers = [] → sink.store.table.isEmpty = false →
      (M.openSink.exec sink).1 = .error (.library (.runtimeError "SchemaLock.lock_to called twice"))
  /-- Without refusals it returns. -/
  quiet : ∀ sink : Sink World, sink.isOpen = false → M.backend.createTable = true → sink.store.answers = [] →
    ∃ sink', M.openSink.exec sink = (.ok ⟨⟩, sink')

section

variable {M : Methods} {sink sink' : Sink World} {table : List ColumnInfo} {answers : List (Option String)} {u : PUnit}

/-- What is ready after an `open` of a sink that creates its table. -/
theorem Opens.ready_creating (h : Opens M) (ho : sink.isOpen = false) (hcreate : M.backend.createTable = true)
    (hx : M.perform sink { call := .openSink, answers, table } = (.ok u, sink')) :
    M.Ready sink' ↔ M.Reopenable sink table := by
  obtain ⟨ho', hschema, hprepared⟩ := h.creating (Turn.meets ⟨.openSink, answers, table⟩ sink) ho hcreate hx
  have htable : sink'.store.table = table := by
    have hleft := h.table (Turn.meets ⟨.openSink, answers, table⟩ sink)
    rw [show M.openSink.exec (Turn.meets ⟨.openSink, answers, table⟩ sink) = (.ok u, sink') from hx] at hleft
    exact hleft
  rw [Methods.Reopenable, and_iff_right ho]
  cases hc : sink.schema.columns with
  | none =>
      rw [ready_of_unlocked h.works ho' (hschema ▸ hc) hcreate, htable]
      exact (imp_iff_right hcreate).symm
  | some columns =>
      rw [Methods.Fits, if_pos hcreate]
      cases hp : sink.prepared with
      | true => rw [ready_of_prepared h.works ho' (hschema ▸ hc) (hprepared.trans hp), htable, and_iff_right rfl]
      | false => exact iff_of_false (not_ready ho' (hschema ▸ hc) (hprepared.trans hp)) fun h => by cases h.1

theorem Opens.ready_introspecting (h : Opens M) (ho : sink.isOpen = false) (hcreate : M.backend.createTable = false)
    (hx : M.perform sink { call := .openSink, answers, table } = (.ok u, sink')) : M.Ready sink' := by
  obtain ⟨ho', hp', htable, columns, hc', hnames⟩ :=
    h.introspecting (Turn.meets ⟨.openSink, answers, table⟩ sink) ho hcreate hx
  rw [ready_of_prepared h.works ho' hc' hp', hnames]
  exact h.works.own htable

theorem Opens.reopened_iff (h : Opens M) (sink : Sink World) (table : List ColumnInfo) :
    M.Reopens sink table ↔ M.Reopenable sink table := by
  by_cases ho : sink.isOpen = true
  · -- an open sink is left as it is
    refine iff_of_false (fun hr => ?_) fun hr => by simp [hr.1] at ho
    have hquiet := hr []
    rw [show M.perform sink { call := .openSink, answers := [], table } = _ from h.again _ ho] at hquiet
    rcases hquiet with ⟨e, he, -⟩ | ⟨-, hclosed, -⟩
    · cases he
    · rw [ho] at hclosed
      cases hclosed
  have ho : sink.isOpen = false := by simpa using ho
  cases hcreate : M.backend.createTable with
  | true =>
      constructor
      · intro hr
        obtain ⟨sink', hx⟩ := h.quiet (Turn.meets ⟨.openSink, [], table⟩ sink) ho hcreate rfl
        rcases hr [] with ⟨e, he, -⟩ | ⟨-, -, hready⟩
        · cases he.symm.trans (congrArg Prod.fst hx)
        · rw [show M.perform sink { call := .openSink, answers := [], table } = _ from hx] at hready
          exact (h.ready_creating ho hcreate hx).mp hready
      · intro hr answers
        dsimp only
        rcases hx : M.perform sink { call := .openSink, answers, table } with ⟨e | u, sink'⟩
        · exact .inl ⟨e, rfl, h.raises (Turn.meets ⟨.openSink, answers, table⟩ sink) ho (.inl hcreate) hx⟩
        · exact .inr ⟨rfl, ho, (h.ready_creating ho hcreate hx).mpr hr⟩
  | false =>
      have hreopenable : M.Reopenable sink table ↔ sink.schema.columns = none ∨ table = [] := by
        rw [Methods.Reopenable, and_iff_right ho]
        cases sink.schema.columns <;> simp [Methods.Fits, hcreate]
      rw [hreopenable]
      constructor
      · intro hr
        by_contra hnot
        obtain ⟨hlocked, htable⟩ := not_or.mp hnot
        have hraises := h.locked (Turn.meets ⟨.openSink, [], table⟩ sink) ho hcreate
          (Option.isSome_iff_ne_none.mpr hlocked) rfl (by simpa [Turn.meets] using htable)
        rcases hr [] with ⟨e, he, hcur⟩ | ⟨hok, -⟩
        · cases hraises.symm.trans he
          exact hcur.elim
        · cases hraises.symm.trans hok
      · intro hr answers
        dsimp only
        rcases hx : M.perform sink { call := .openSink, answers, table } with ⟨e | u, sink'⟩
        · exact .inl ⟨e, rfl, h.raises (Turn.meets ⟨.openSink, answers, table⟩ sink) ho (.inr hr) hx⟩
        · exact .inr ⟨rfl, ho, h.ready_introspecting ho hcreate hx⟩

end

/-! ## The calls of `open` -/

section

variable {f : String → SinkExc} {m : Prog String World PUnit} {sink sink' : Sink World} {u : PUnit} {e : SinkExc}
  {missing : String} {spec : ColumnInfo → ColumnSpec}

theorem driver_ok (h : (driver f m).exec sink = (.ok u, sink')) :
    ∃ w, m.exec sink.store = (.ok u, w) ∧ sink' = { sink with store := w } := by
  rw [driver, Backend.onStore, exec_zoom] at h
  rcases hx : (translate f m).exec sink.store with ⟨_ | _, w⟩ <;> rw [hx] at h <;> cases h
  exact ⟨w, translate_ok.mp hx, rfl⟩

theorem driver_error (h : (driver f m).exec sink = (.error e, sink')) :
    ∃ text w, e = f text ∧ sink' = { sink with store := w } := by
  rw [driver, Backend.onStore, exec_zoom] at h
  rcases hx : (translate f m).exec sink.store with ⟨_ | _, w⟩ <;> rw [hx] at h <;> cases h
  obtain ⟨text, rfl, -⟩ := translate_error hx
  exact ⟨text, w, rfl, rfl⟩

theorem driver_quiet (h : m.exec sink.store = (.ok u, sink.store)) : (driver f m).exec sink = (.ok u, sink) := by
  rw [driver, Backend.onStore, exec_zoom, translate_ok.mpr h]

theorem call_table : Leaves World.table call := by
  rintro ⟨_ | ⟨_ | text, answers⟩, table, written⟩ <;> rfl

theorem driver_table (f : String → SinkExc) (hm : Leaves World.table m) :
    Leaves (fun sink : Sink World => sink.store.table) (driver f m) := by
  intro sink
  have hstore := hm sink.store
  rw [driver, Backend.onStore, exec_zoom, translate, exec_ofFun]
  rcases hx : m.exec sink.store with ⟨_ | _, w⟩ <;> rw [hx] at hstore <;> exact hstore

theorem introspect_table (missing : String) (spec : ColumnInfo → ColumnSpec) :
    Leaves (fun sink : Sink World => sink.store.table) (introspect missing spec) := by
  refine (driver_table _ call_table).bind fun _ => Leaves.bind .get fun sink => .ite (fun _ => .throw _) fun _ => ?_
  split
  · exact .throw _
  · exact .modify fun _ => rfl

theorem introspect_ok (hspec : ∀ column, (spec column).name = column.name)
    (h : (introspect missing spec).exec sink = (.ok u, sink')) :
    sink'.isOpen = sink.isOpen ∧ sink'.prepared = true ∧ sink'.store.table ≠ [] ∧
      ∃ columns, sink'.schema.columns = some columns ∧
        columns.map ColumnSpec.name = sink'.store.table.map ColumnInfo.name := by
  obtain ⟨_, s, hcall, h⟩ := exec_bind_eq_ok.mp h
  obtain ⟨w, -, rfl⟩ := driver_ok hcall
  rw [exec_bind_ok (exec_get _)] at h
  split at h
  · cases h
  next htable =>
    split at h
    · cases h
    next schema hlock =>
      cases h
      refine ⟨rfl, rfl, by simpa using htable, w.table.map spec, ?_, by simp [hspec]⟩
      unfold SchemaLock.lockTo at hlock
      repeat' split at hlock
      all_goals cases hlock
      rfl

theorem introspect_error (sink : Sink World) (hc : sink.schema.columns = none ∨ sink.store.table = [])
    (h : (introspect missing spec).exec sink = (.error e, sink')) :
    Methods.Current e := by
  rw [introspect] at h
  rcases hcall : (driver .store call).exec sink with ⟨e' | _, s⟩
  · rw [exec_bind_error hcall] at h
    cases h
    obtain ⟨text, -, rfl, -⟩ := driver_error hcall
    trivial
  obtain ⟨w, hw, rfl⟩ := driver_ok hcall
  have hsame : w.table = sink.store.table := by
    have hleft := call_table sink.store
    rw [hw] at hleft
    exact hleft
  rw [exec_bind_ok hcall, exec_bind_ok (exec_get _)] at h
  split at h
  · cases h
    trivial
  next htable =>
    have hc : sink.schema.columns = none := hc.resolve_right fun hnil => htable (by simp [hsame, hnil])
    have hspecs : (w.table.map spec).isEmpty = false := by simpa using htable
    have hlock : sink.schema.lockTo (w.table.map spec) =
        .ok { sink.schema with
          columns := some (w.table.map spec), names := (w.table.map spec).map ColumnSpec.name } := by
      rw [SchemaLock.lockTo, hc, hspecs]
      rfl
    dsimp only at h
    rw [hlock] at h
    cases h

theorem introspect_locked (hc : sink.schema.columns.isSome) (ha : sink.store.answers = [])
    (ht : sink.store.table.isEmpty = false) :
    (introspect missing spec).exec sink =
      (.error (.library (.runtimeError "SchemaLock.lock_to called twice")), sink) := by
  have hlock : sink.schema.lockTo (sink.store.table.map spec) =
      .error (.runtimeError "SchemaLock.lock_to called twice") := if_pos hc
  rw [introspect, exec_bind_ok (driver_quiet (call_quiet ha)), exec_bind_ok (exec_get _), ht]
  simp only [Bool.false_eq_true, if_false, hlock]
  rfl

end

namespace SqliteSink

variable {sink sink' : Sink World} {table path : String} {create : Bool} {e : SinkExc} {u : PUnit}

theorem connectBlocking_table : Leaves World.table connectBlocking :=
  call_table.bind fun _ => call_table.bind fun _ => call_table.bind fun _ => call_table.bind fun _ => call_table

theorem openSink_table (table path : String) (create : Bool) :
    Leaves (fun sink : Sink World => sink.store.table) (openSink table path create) := by
  refine Leaves.bind .get fun sink => .ite (fun _ => .pure _) fun _ => ?_
  refine (driver_table _ connectBlocking_table).bind fun _ => Leaves.bind (.modify fun _ => rfl) fun _ => ?_
  refine .ite (fun _ => .pure _) fun _ => .tryCatch (introspect_table _ _) fun e => ?_
  exact Leaves.bind (.modify fun _ => rfl) fun _ => (driver_table _ call_table).bind fun _ => .throw e

theorem connectBlocking_quiet {w : World} (h : w.answers = []) : connectBlocking.exec w = (.ok ⟨⟩, w) := by
  simp only [connectBlocking, exec_bind, call_quiet h]

theorem openSink_closed (ho : sink.isOpen = false) :
    (openSink table path create).exec sink =
      match (driver .store connectBlocking).exec sink with
      | (.error e, s) => (.error e, s)
      | (.ok _, s) =>
          if create then (.ok ⟨⟩, { s with isOpen := true })
          else
            match (introspectExistingTableBlocking table path).exec { s with isOpen := true } with
            | (.ok _, s) => (.ok ⟨⟩, s)
            | (.error e, s) =>
                match (driver .store call).exec { s with isOpen := false } with
                | (.error e', s) => (.error e', s)
                | (.ok _, s) => (.error e, s) := by
  rw [openSink, exec_bind_ok (exec_get _), ho]
  simp only [Bool.false_eq_true, if_false]
  rcases hx : (driver .store connectBlocking).exec sink with ⟨e | _, s⟩
  · rw [exec_bind_error hx]
  rw [exec_bind_ok hx, exec_bind_ok (exec_modify _ _)]
  cases create with
  | true => rfl
  | false =>
      simp only [Bool.false_eq_true, if_false, exec_tryCatch]
      rcases (introspectExistingTableBlocking table path).exec { s with isOpen := true } with ⟨e | _, s⟩
      · dsimp only
        rw [exec_bind_ok (exec_modify _ _), exec_bind]
        rcases (driver .store call).exec { s with isOpen := false } with ⟨_ | _, s⟩ <;> rfl
      · rfl

theorem openSink_raises (ho : sink.isOpen = false)
    (hc : create = true ∨ sink.schema.columns = none ∨ sink.store.table = [])
    (h : (openSink table path create).exec sink = (.error e, sink')) : Methods.Current e := by
  rw [openSink_closed ho] at h
  rcases hx : (driver .store connectBlocking).exec sink with ⟨e' | _, s⟩ <;> rw [hx] at h <;> dsimp only at h
  · cases h
    obtain ⟨text, -, rfl, -⟩ := driver_error hx
    trivial
  obtain ⟨w, hw, rfl⟩ := driver_ok hx
  have hsame : w.table = sink.store.table := by
    have hleft := connectBlocking_table sink.store
    rw [hw] at hleft
    exact hleft
  split at h
  · cases h
  next hcreate =>
    have hc : sink.schema.columns = none ∨ w.table = [] := hsame ▸ hc.resolve_left hcreate
    split at h
    · cases h
    next e₁ s₁ hi =>
      split at h
      next hclose =>
        cases h
        obtain ⟨text, -, rfl, -⟩ := driver_error hclose
        trivial
      · cases h
        exact introspect_error { sink with store := w, isOpen := true } hc hi

theorem methods_opens (table path : String) (create : Bool) : Opens (methods table path create) where
  works := .ofTable (fun _ ht => refusal_own _ _ (fun name => beq_self_eq_true (Text.lower name.toList)) ht)
    fun _ _ => rfl
  table := openSink_table table path create
  again sink ho := by
    show (openSink table path create).exec sink = _
    rw [openSink, exec_bind_ok (exec_get _), ho]
    rfl
  raises _ _ _ ho hc h := openSink_raises ho hc h
  creating sink sink' u ho hc h := by
    obtain rfl : create = true := hc
    rw [show (methods table path true).openSink = openSink table path true from rfl, openSink_closed ho] at h
    rcases hx : (driver .store connectBlocking).exec sink with ⟨e' | _, s⟩ <;> rw [hx] at h <;> cases h
    obtain ⟨w, -, rfl⟩ := driver_ok hx
    exact ⟨rfl, rfl, rfl⟩
  introspecting sink sink' u ho hc h := by
    obtain rfl : create = false := hc
    rw [show (methods table path false).openSink = openSink table path false from rfl, openSink_closed ho] at h
    rcases hx : (driver .store connectBlocking).exec sink with ⟨e' | _, s⟩ <;> rw [hx] at h <;>
      simp only [Bool.false_eq_true, if_false] at h
    · cases h
    split at h
    next hi =>
      cases h
      exact introspect_ok (fun _ => rfl) hi
    · split at h <;> cases h
  locked sink ho hc hl ha ht := by
    obtain rfl : create = false := hc
    have hi : (introspectExistingTableBlocking table path).exec { sink with isOpen := true } = (_, _) :=
      introspect_locked hl ha ht
    have hclose : (driver .store call).exec { sink with isOpen := false } = (.ok ⟨⟩, _) := driver_quiet (call_quiet ha)
    show ((openSink table path false).exec sink).1 = _
    rw [openSink_closed ho, driver_quiet (connectBlocking_quiet ha)]
    simp only [Bool.false_eq_true, if_false, hi, hclose]
  quiet sink ho hc ha := by
    obtain rfl : create = true := hc
    refine ⟨{ sink with isOpen := true }, ?_⟩
    show (openSink table path true).exec sink = _
    rw [openSink_closed ho, driver_quiet (connectBlocking_quiet ha)]
    rfl

end SqliteSink

namespace PostgresSink

variable {sink sink' : Sink World} {config : Postgres.PostgresConfig} {e : SinkExc} {u : PUnit}

theorem openSink_table (config : Postgres.PostgresConfig) :
    Leaves (fun sink : Sink World => sink.store.table) (openSink config) := by
  refine Leaves.bind .get fun sink => .ite (fun _ => .pure _) fun _ => ?_
  refine (driver_table _ call_table).bind fun _ => (driver_table _ call_table).bind fun _ => ?_
  exact Leaves.bind (.modify fun _ => rfl) fun _ => .ite (fun _ => .pure _) fun _ => introspect_table _ _

/-- The two calls before the pool is there. -/
def connect (config : Postgres.PostgresConfig) : Prog SinkExc (Sink World) PUnit := do
  loadAsyncpg
  driver (fun text => .writeError s!"PostgresSink: failed to open pool for {config.target}: {text}") call

theorem connect_ok {s : Sink World} (h : (connect config).exec sink = (.ok u, s)) :
    ∃ w, s = { sink with store := w } := by
  obtain ⟨_, s₁, h₁, h₂⟩ := exec_bind_eq_ok.mp h
  obtain ⟨w₁, -, rfl⟩ := driver_ok h₁
  obtain ⟨w, -, rfl⟩ := driver_ok h₂
  exact ⟨w, rfl⟩

theorem connect_error {s : Sink World} (h : (connect config).exec sink = (.error e, s)) : Methods.Current e := by
  rw [connect] at h
  rcases h₁ : loadAsyncpg.exec sink with ⟨e₁ | _, s₁⟩
  · rw [exec_bind_error h₁] at h
    cases h
    obtain ⟨_, -, rfl, -⟩ := driver_error h₁
    trivial
  · rw [exec_bind_ok h₁] at h
    obtain ⟨_, -, rfl, -⟩ := driver_error h
    trivial

theorem connect_table (config : Postgres.PostgresConfig) :
    Leaves (fun sink : Sink World => sink.store.table) (connect config) :=
  (driver_table _ call_table).bind fun _ => driver_table _ call_table

theorem connect_quiet (ha : sink.store.answers = []) : (connect config).exec sink = (.ok ⟨⟩, sink) := by
  have hload : loadAsyncpg.exec sink = (.ok ⟨⟩, sink) := driver_quiet (call_quiet ha)
  rw [connect, exec_bind_ok hload]
  exact driver_quiet (call_quiet ha)

theorem openSink_closed (ho : sink.isOpen = false) :
    (openSink config).exec sink =
      match (connect config).exec sink with
      | (.error e, s) => (.error e, s)
      | (.ok _, s) =>
          if config.createTable then (.ok ⟨⟩, { s with isOpen := true })
          else (introspectExistingTable config).exec { s with isOpen := true } := by
  rw [openSink, exec_bind_ok (exec_get _), ho, connect]
  simp only [Bool.false_eq_true, if_false, exec_bind, exec_modify]
  rcases loadAsyncpg.exec sink with ⟨_ | _, s⟩
  · rfl
  dsimp only
  rcases (driver (fun text => .writeError s!"PostgresSink: failed to open pool for {config.target}: {text}") call).exec
    s with ⟨_ | _, s⟩
  · rfl
  · dsimp only
    split <;> rfl

theorem methods_opens (config : Postgres.PostgresConfig) : Opens (methods config) where
  works := .ofTable (fun _ ht => refusal_own _ _ (fun _ => beq_self_eq_true _) ht) fun columns rows => by
    unfold Postgres.write
    split <;> rfl
  table := openSink_table config
  again sink ho := by
    show (openSink config).exec sink = _
    rw [openSink, exec_bind_ok (exec_get _), ho]
    rfl
  raises sink sink' e ho hc h := by
    rw [show (methods config).openSink = openSink config from rfl, openSink_closed ho] at h
    rcases hx : (connect config).exec sink with ⟨e' | _, s⟩ <;> rw [hx] at h <;> dsimp only at h
    · cases h
      exact connect_error hx
    have hsame := connect_table config sink
    obtain ⟨w, rfl⟩ := connect_ok hx
    rw [hx] at hsame
    have hsame : w.table = sink.store.table := hsame
    split at h
    · cases h
    · next hcreate =>
        exact introspect_error { sink with store := w, isOpen := true } (hsame ▸ hc.resolve_left hcreate) h
  creating sink sink' u ho hc h := by
    have hc : config.createTable = true := hc
    rw [show (methods config).openSink = openSink config from rfl, openSink_closed ho, hc] at h
    rcases hx : (connect config).exec sink with ⟨e' | _, s⟩ <;> rw [hx] at h <;> cases h
    obtain ⟨w, rfl⟩ := connect_ok hx
    exact ⟨rfl, rfl, rfl⟩
  introspecting sink sink' u ho hc h := by
    have hc : config.createTable = false := hc
    rw [show (methods config).openSink = openSink config from rfl, openSink_closed ho, hc] at h
    rcases hx : (connect config).exec sink with ⟨e' | _, s⟩ <;> rw [hx] at h <;>
      simp only [Bool.false_eq_true, if_false] at h
    · cases h
    · exact introspect_ok (fun _ => rfl) h
  locked sink ho hc hl ha ht := by
    have hc : config.createTable = false := hc
    have hi : (introspectExistingTable config).exec { sink with isOpen := true } = (_, _) := introspect_locked hl ha ht
    show ((openSink config).exec sink).1 = _
    rw [openSink_closed ho, connect_quiet ha, hc]
    simp only [Bool.false_eq_true, if_false, hi]
  quiet sink ho hc ha := by
    have hc : config.createTable = true := hc
    refine ⟨{ sink with isOpen := true }, ?_⟩
    show (openSink config).exec sink = _
    rw [openSink_closed ho, connect_quiet ha, hc]
    rfl

end PostgresSink

namespace ParquetSink

variable {sink sink' : Sink World} {path : String}

theorem openSink_closed (ho : sink.isOpen = false) :
    openSink.exec sink =
      match loadPyarrow.exec sink with
      | (.error e, s) => (.error e, s)
      | (.ok _, s) => (driver .store call).exec { s with isOpen := true } := by
  rw [openSink, exec_bind_ok (exec_get _), ho]
  simp only [Bool.false_eq_true, if_false, exec_bind, exec_modify]
  rcases loadPyarrow.exec sink with ⟨_ | _, s⟩ <;> rfl

theorem openSink_table : Leaves (fun sink : Sink World => sink.store.table) openSink := by
  refine Leaves.bind .get fun sink => .ite (fun _ => .pure _) fun _ => ?_
  exact (driver_table _ call_table).bind fun _ => Leaves.bind (.modify fun _ => rfl) fun _ => driver_table _ call_table

theorem methods_opens (path : String) : Opens (methods path) where
  works := .ofFile (fun _ => rfl) fun _ _ => rfl
  table := openSink_table
  again sink ho := by
    show openSink.exec sink = _
    rw [openSink, exec_bind_ok (exec_get _), ho]
    rfl
  raises sink sink' e ho _ h := by
    rw [show (methods path).openSink = openSink from rfl, openSink_closed ho] at h
    rcases hx : loadPyarrow.exec sink with ⟨e' | _, s⟩ <;> rw [hx] at h <;> dsimp only at h
    · cases h
      obtain ⟨_, -, rfl, -⟩ := driver_error hx
      trivial
    · obtain ⟨_, -, rfl, -⟩ := driver_error h
      trivial
  creating sink sink' u ho _ h := by
    rw [show (methods path).openSink = openSink from rfl, openSink_closed ho] at h
    rcases hx : loadPyarrow.exec sink with ⟨e' | _, s⟩ <;> rw [hx] at h <;> dsimp only at h
    · cases h
    obtain ⟨w, -, rfl⟩ := driver_ok hx
    obtain ⟨w', -, rfl⟩ := driver_ok h
    exact ⟨rfl, rfl, rfl⟩
  introspecting _ _ _ _ hc _ := nomatch hc
  locked _ _ hc _ _ _ := nomatch hc
  quiet sink ho _ ha := by
    have hload : loadPyarrow.exec sink = (.ok ⟨⟩, _) := driver_quiet (call_quiet ha)
    refine ⟨{ sink with isOpen := true }, ?_⟩
    show openSink.exec sink = _
    rw [openSink_closed ho, hload]
    exact driver_quiet (call_quiet ha)

end ParquetSink

/-! ## Opening again -/

/-- A sink that was closed, or whose `open` raised, can be opened again on the table that is there exactly when its
handle was given back and what it keeps of the schema fits the table. -/
theorem reopens_iff (table path : String) (create : Bool) (config : Postgres.PostgresConfig) (file : String) :
    (∀ sink, (SqliteSink.methods table path create).Ended sink → ∀ found,
      ((SqliteSink.methods table path create).Reopens sink found ↔
        (SqliteSink.methods table path create).Reopenable sink found)) ∧
    (∀ sink, (PostgresSink.methods config).Ended sink → ∀ found,
      ((PostgresSink.methods config).Reopens sink found ↔ (PostgresSink.methods config).Reopenable sink found)) ∧
    ∀ sink, (ParquetSink.methods file).Ended sink → ∀ found,
      ((ParquetSink.methods file).Reopens sink found ↔ (ParquetSink.methods file).Reopenable sink found) :=
  ⟨fun sink _ => (SqliteSink.methods_opens table path create).reopened_iff sink,
    fun sink _ => (PostgresSink.methods_opens config).reopened_iff sink,
    fun sink _ => (ParquetSink.methods_opens file).reopened_iff sink⟩

def created : Postgres.PostgresConfig := { target := "db:5432/lab.public.samples", createTable := true }

def existing : Postgres.PostgresConfig := { target := "db:5432/lab.public.samples" }

/-- A sink that is opened, written to and closed. -/
def session : List Turn := [{ call := .openSink }, { call := .writeMany [gramSample] }]

/-- The table that a sink has created. -/
def createdTable (M : Methods) : List ColumnInfo := (M.after session).store.table

theorem reopens_iff_created :
    (SqliteSink.methods "samples" "run.db" true).Reopens
        ((SqliteSink.methods "samples" "run.db" true).after (session ++ [{ call := .closeSink }]))
        (createdTable (SqliteSink.methods "samples" "run.db" true)) ∧
      (PostgresSink.methods created).Reopens
        ((PostgresSink.methods created).after (session ++ [{ call := .closeSink }]))
        (createdTable (PostgresSink.methods created)) ∧
      (ParquetSink.methods "run.parquet").Reopens
        ((ParquetSink.methods "run.parquet").after ([] ++ [{ call := .openSink, answers := [some "no module"] }]))
        [] := by
  obtain ⟨hs, hp, hq⟩ := reopens_iff "samples" "run.db" true created "run.parquet"
  refine ⟨(hs _ (Methods.after_ended _ _ _ (.inl rfl)) _).mpr ?_,
    (hp _ (Methods.after_ended _ _ _ (.inl rfl)) _).mpr ?_,
    (hq _ (Methods.after_ended _ _ _ (.inr ⟨rfl, by decide +kernel⟩)) _).mpr ?_⟩
  · decide +kernel
  · decide +kernel
  · decide +kernel

/-- A closed sink on an existing table, one whose table is gone, a pool whose table was missing, and a closed file. -/
theorem not_reopened :
    (∃ sink found, (SqliteSink.methods "samples" "run.db" false).Ended sink ∧
      ¬ (SqliteSink.methods "samples" "run.db" false).Reopens sink found) ∧
    (∃ sink, (SqliteSink.methods "samples" ":memory:" true).Ended sink ∧
      ¬ (SqliteSink.methods "samples" ":memory:" true).Reopens sink []) ∧
    (∃ sink found, (PostgresSink.methods existing).Ended sink ∧
      ¬ (PostgresSink.methods existing).Reopens sink found) ∧
    ∃ sink found, (ParquetSink.methods "run.parquet").Ended sink ∧
      ¬ (ParquetSink.methods "run.parquet").Reopens sink found := by
  let value : List ColumnInfo := [{ name := "value", declType := "REAL" }]
  refine ⟨⟨_, value,
      Methods.after_ended _ [{ call := .openSink, table := value }] { call := .closeSink } (.inl rfl), ?_⟩,
    ⟨_, Methods.after_ended _ session { call := .closeSink } (.inl rfl), ?_⟩,
    ⟨_, value, Methods.after_ended _ [] { call := .openSink } (.inr ⟨rfl, by decide +kernel⟩), ?_⟩,
    _, value, Methods.after_ended _ session { call := .closeSink } (.inl rfl), ?_⟩
  · rw [(SqliteSink.methods_opens "samples" "run.db" false).reopened_iff]
    decide +kernel
  · rw [(SqliteSink.methods_opens "samples" ":memory:" true).reopened_iff]
    decide +kernel
  · rw [(PostgresSink.methods_opens existing).reopened_iff]
    decide +kernel
  · rw [(ParquetSink.methods_opens "run.parquet").reopened_iff]
    decide +kernel

end Lifecycle

end SartoriusLib.Sinks
