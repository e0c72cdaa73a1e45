import SartoriusLib.Sinks.Inference
import SartoriusLib.Sinks.Sqlite

/-!
# The batches of the SQLite sink

A batch is inserted between `BEGIN IMMEDIATE` and `COMMIT`. An error of the engine rolls it back; a value that the
driver cannot convert is no `sqlite3.Error`, and what it interrupts stays open.
-/

namespace SartoriusLib.Sinks.SqliteSink

open SartoriusLib Lib Prog Sqlite

/-! ## Values -/

/-- A value of a row: a cell, or a `str` with a surrogate. -/
abbrev Value : Type := Objects.Object Empty Empty

/-- A row of the batch. -/
abbrev Fields : Type := { row : Objects.Row Empty Empty // (Dict.keys row).Nodup }

/-- The exceptions of a conversion; neither is a `sqlite3.Error`. -/
inductive Conversion where
  /-- `OverflowError` -/
  | overflow
  /-- `UnicodeEncodeError` -/
  | unicodeEncode
  deriving DecidableEq, Repr

/-- A value is bound to a parameter of the statement. -/
def bindValue : Value → Except Conversion Cell
  | .cell c => if Bindable c then .ok c else .error .overflow
  | .surrogates _ => .error .unicodeEncode

/-- The values of one row are bound, from the left to the right. -/
def bindRow : List Value → Except Conversion (List Cell)
  | [] => .ok []
  | value :: values => (bindValue value).bind fun cell => (bindRow values).map (cell :: ·)

/-! ## The transaction -/

/-- What ends a statement. -/
inductive Raised where
  /-- `sqlite3.Error` -/
  | sqlite (text : String)
  | conversion (e : Conversion)
  deriving DecidableEq, Repr

def Raised.ofError : Error → Raised
  | .sqlite text => .sqlite text
  | .overflow => .conversion .overflow

/-- A statement of the engine. -/
def engine {α : Type} (m : Prog Error Connection α) : Prog Raised Connection α :=
  ofFun fun c => ((m.exec c).1.mapError Raised.ofError, (m.exec c).2)

/-- The `INSERT` is run with the values of one row, once they are bound. -/
def insertValues (A : Affinity) (names : List String) (values : List Value) : Prog Raised Connection PUnit :=
  match bindRow values with
  | .error e => throw (.conversion e)
  | .ok cells => engine (insertRow A names cells)

/-- The statements of one transaction. -/
def insertBatch (A : Affinity) (table : String) (names : List String) (tuples : List (List Value)) :
    Prog Raised Connection PUnit := do
  engine begin
  engine (prepare table names)
  forM tuples (insertValues A names)
  engine commit

def Conversion.raised : Conversion → SinkExc
  | .overflow => .overflowError
  | .unicodeEncode => .library .unicodeEncodeError

/-- `_executemany_blocking`; a `ROLLBACK` that fails is only logged. -/
def executemanyBlocking (A : Affinity) (table : String) (names : List String) (tuples : List (List Value)) :
    Prog SinkExc Connection PUnit :=
  ofFun fun c =>
    match (insertBatch A table names tuples).exec c with
    | (.ok _, c') => (.ok ⟨⟩, c')
    | (.error (.conversion e), c') => (.error e.raised, c')
    | (.error (.sqlite text), c') =>
        (.error (.writeError s!"SqliteSink: INSERT into {textRepr table} failed: {text}"), (rollback.exec c').2)

/-! ## The sink -/

/-- `tuple(fields[spec.name] for spec in columns)` -/
def tuple (columns : List ColumnSpec) (fields : Objects.Row Empty Empty) : List Value :=
  columns.map fun spec => (Dict.get? fields spec.name).getD (.cell .none)

/-- The rows projected one after the other. -/
def projectRows (columns : List ColumnSpec) :
    SchemaLock → List Fields → Except Exc (List (List Value) × SchemaLock)
  | l, [] => .ok ([], l)
  | l, row :: rows =>
      (Objects.project l row.1).bind fun r =>
        (projectRows columns r.2 rows).map fun rest => (tuple columns r.1 :: rest.1, rest.2)

def columnDefs (columns : List ColumnSpec) : List ColumnDef :=
  columns.map fun spec => (spec.name, columnType spec.pythonType)

/-- A call on the connection. -/
def onConnection {α : Type} (m : Prog SinkExc Connection α) : Prog SinkExc (Sink Connection) α :=
  Prog.zoom Sink.store (fun c sink => { sink with store := c }) m

/-- The first batch of a sink that creates its table: the schema is locked before the table is created. -/
def lockAndCreate (table : String) (rows : List Fields) : Prog SinkExc (Sink Connection) PUnit := do
  let sink ← get
  match Objects.lock sink.schema (rows.map Subtype.val) with
  | .error e => throw (.library e)
  | .ok schema => do
      modify fun sink => { sink with schema }
      onConnection (createTableBlocking table (columnDefs (schema.columns.getD [])))
      modify fun sink => { sink with prepared := true }

/-- Both assertions, then the projection and the insert. -/
def insertRows (A : Affinity) (table : String) (rows : List Fields) : Prog SinkExc (Sink Connection) PUnit := do
  let sink ← get
  match sink.prepared, sink.schema.columns with
  | true, some columns =>
      match projectRows columns sink.schema rows with
      | .error e => throw (.library e)
      | .ok (projected, schema) => do
          modify fun sink => { sink with schema }
          onConnection (executemanyBlocking A table (columns.map ColumnSpec.name) projected)
  | _, _ => throw (.library .assertionError)

/-- `write_many`, with the rows of the samples. -/
def writeMany (A : Affinity) (table : String) (create : Bool) (rows : List Fields) :
    Prog SinkExc (Sink Connection) PUnit := do
  let sink ← get
  if !sink.isOpen then throw (.library (.runtimeError "SqliteSink: write_many called before open()"))
  else if rows.isEmpty then pure ⟨⟩
  else if sink.schema.columns.isNone && create then do
    lockAndCreate table rows
    insertRows A table rows
  else insertRows A table rows

/-! ## What the engine refuses -/

/-- The next `n` statements are not refused. -/
def Quiet (n : Nat) (faults : List (Option Fault)) : Prop := ∀ fault ∈ faults.take n, fault = none

instance (n : Nat) (faults : List (Option Fault)) : Decidable (Quiet n faults) :=
  inferInstanceAs (Decidable (∀ _ ∈ _, _))

variable {c c' : Connection} {f : Connection → Except Error Connection} {u : PUnit}

/-- A statement that is not refused does what it says. -/
theorem statement_quiet (f : Connection → Except Error Connection) (h : Quiet 1 c.faults) :
    (statement f).exec c = match f { c with faults := c.faults.tail } with
      | .ok c' => (.ok ⟨⟩, c')
      | .error e => (.error e, { c with faults := c.faults.tail }) := by
  obtain ⟨committed, transaction, faults⟩ := c
  rcases faults with _ | ⟨_ | fault, faults⟩
  · rfl
  · rfl
  · simp [Quiet] at h

theorem statement_refused (f : Connection → Except Error Connection) (h : ¬ Quiet 1 c.faults) :
    ∃ text c', (statement f).exec c = (.error (.sqlite text), c') := by
  obtain ⟨committed, transaction, faults⟩ := c
  rcases faults with _ | ⟨_ | fault, faults⟩
  · simp [Quiet] at h
  · simp [Quiet] at h
  · exact ⟨_, _, rfl⟩

/-- A statement that returned was not refused. -/
theorem statement_ran (h : (statement f).exec c = (.ok u, c')) :
    Quiet 1 c.faults ∧ f { c with faults := c.faults.tail } = .ok c' := by
  by_cases hq : Quiet 1 c.faults
  · rw [statement_quiet f hq] at h
    split at h
    · next hf =>
        cases h
        exact ⟨hq, hf⟩
    · cases h
  · obtain ⟨text, c₁, hx⟩ := statement_refused f hq
    rw [hx] at h
    cases h

/-- A statement whose own failures are errors of the engine fails with such an error. -/
theorem statement_sqlite {e : Error} (hf : ∀ c e, f c = .error e → ∃ text, e = .sqlite text)
    (h : (statement f).exec c = (.error e, c')) : ∃ text, e = .sqlite text := by
  rcases statement_cases f c with ⟨_, _, _, hx⟩ | ⟨_, _, he, hx⟩ | ⟨fault, _, hx⟩ <;> rw [h] at hx <;> cases hx
  · exact hf _ _ he
  · exact ⟨_, rfl⟩

section

variable {α : Type} {m : Prog Error Connection α} {a : α}

end

/-! ## The statements of a batch -/

section

variable {A : Affinity} {table : String} {names : List String} {cells : List Cell} {tx : Option Table} {e : Error}

/-- The table has the columns of the `INSERT`. -/
def HasColumns (table : Option Table) (names : List String) : Prop :=
  ∃ t, table = some t ∧ ∀ name ∈ names, name ∈ t.columns.map Prod.fst

end

/-! ## The values of a row -/

/-- The value can be converted. -/
def Convertible : Value → Prop
  | .cell c => Bindable c
  | .surrogates _ => False

instance : DecidablePred Convertible
  | .cell c => inferInstanceAs (Decidable (Bindable c))
  | .surrogates _ => isFalse id

/-- A row with a value that cannot be converted is reached: the rows before it can be bound, and the engine refuses
none of them. -/
def Interrupted (faults : List (Option Fault)) (tuples : List (List Value)) : Prop :=
  ∃ earlier bad later, tuples = earlier ++ bad :: later ∧ (∀ values ∈ earlier, ∀ value ∈ values, Convertible value) ∧
    (¬ ∀ value ∈ bad, Convertible value) ∧ Quiet earlier.length faults

section

variable {A : Affinity} {faults : List (Option Fault)} {values : List Value} {tuples : List (List Value)}
  {names : List String} {tx : Option Table} {r : Except Raised PUnit}

end

/-! ## A batch -/

/-- The batch strands its transaction: the table has the columns, and a row that cannot be converted is reached. -/
def Strands (c : Connection) (names : List String) (tuples : List (List Value)) : Prop :=
  c.transaction = none ∧ HasColumns c.committed names ∧ Quiet 2 c.faults ∧ Interrupted (c.faults.drop 2) tuples

section

variable {A : Affinity} {table : String} {names : List String} {tuples : List (List Value)} {r : Except SinkExc PUnit}

/-- The rows that the database holds. -/
def rowsOf (c : Connection) : List Row := (c.committed.map Table.rows).getD []

/-- The columns of the table. -/
def columnsOf (c : Connection) : List ColumnDef := (c.committed.map Table.columns).getD []

/-- All rows of the batch are in the table, in the form in which it stores them, or none of them and the call has
raised; no transaction is left open. -/
structure Atomic (A : Affinity) (c : Connection) (names : List String) (tuples : List (List Value))
    (r : Except SinkExc PUnit) (c' : Connection) : Prop where
  all : r = .ok ⟨⟩ → ∃ records, List.Forall₂ (fun values cells => bindRow values = .ok cells) tuples records ∧
    rowsOf c' = rowsOf c ++ records.map fun cells => A.row (columnsOf c') (names.zip cells)
  nothing : r ≠ .ok ⟨⟩ → rowsOf c' = rowsOf c
  closed : c'.transaction = none

end

/-! ## A call of the sink -/

/-- The tuples of the rows. -/
def tuples (columns : List ColumnSpec) (rows : List Fields) : List (List Value) :=
  rows.map fun row => tuple columns row.1

section

variable {A : Affinity} {columns : List ColumnSpec} {rows : List Fields} {l : SchemaLock} {table : String}

theorem tuple_projected (hc : (columns.map ColumnSpec.name).Nodup) (row : Objects.Row Empty Empty) :
    tuple columns (Objects.projected columns row) = tuple columns row := by
  refine List.map_congr_left fun spec hspec => ?_
  have hkeys : Dict.keys (Objects.projected columns row) = columns.map ColumnSpec.name := by
    simp [Dict.keys, Objects.projected, Function.comp_def]
  have hget : Dict.get? (Objects.projected columns row) spec.name =
      some ((Dict.get? row spec.name).getD (.cell .none)) :=
    Dict.get?_of_mem (hkeys ▸ hc) (List.mem_map_of_mem hspec)
  rw [hget]
  rfl

/-- The lock, with the columns that it knows by name. -/
structure LockedOn (l : SchemaLock) (columns : List ColumnSpec) : Prop where
  fixed : l.columns = some columns
  names : l.names = columns.map ColumnSpec.name
  once : (columns.map ColumnSpec.name).Nodup

theorem projectRows_eq (rows : List Fields) (h : LockedOn l columns) :
    ∃ l', projectRows columns l rows = .ok (tuples columns rows, l') ∧ LockedOn l' columns := by
  induction rows generalizing l with
  | nil => exact ⟨l, rfl, h⟩
  | cons row rows ih =>
      obtain ⟨warned, hrow⟩ := Objects.project_locked h.once row.2 l h.fixed h.names
      obtain ⟨l', hrest, hl'⟩ := ih (l := { l with unknownWarned := warned }) ⟨h.fixed, h.names, h.once⟩
      refine ⟨l', ?_, hl'⟩
      rw [projectRows, hrow]
      simp only [Except.bind, hrest, Except.map, tuple_projected h.once]
      rfl

/-- A prepared sink runs the statements of its batch. -/
theorem insertRows_eq (sink : Sink Connection) (h : LockedOn sink.schema columns) (hp : sink.prepared = true) :
    ∃ l', LockedOn l' columns ∧ (insertRows A table rows).exec sink =
      (((executemanyBlocking A table (columns.map ColumnSpec.name) (tuples columns rows)).exec sink.store).1,
        { sink with
          schema := l',
          store := ((executemanyBlocking A table (columns.map ColumnSpec.name) (tuples columns rows)).exec
            sink.store).2 }) := by
  obtain ⟨l', hproject, hl'⟩ := projectRows_eq rows h
  refine ⟨l', hl', ?_⟩
  obtain ⟨isOpen, schema, prepared, store⟩ := sink
  cases hp
  rw [insertRows, exec_bind_ok (exec_get _), h.fixed]
  simp only [hproject]
  rw [exec_bind_ok (exec_modify _ _)]
  rfl

theorem insertRows_unprepared {sink : Sink Connection} (h : sink.prepared = false) :
    (insertRows A table rows).exec sink = (.error (.library .assertionError), sink) := by
  rw [insertRows, exec_bind_ok (exec_get _), h]
  rfl

/-- The connection after its table was created. -/
def created (c : Connection) (columns : List ColumnSpec) : Connection :=
  { c with committed := some (c.committed.getD { columns := columnDefs columns }), faults := c.faults.tail }

theorem rowsOf_created (c : Connection) (columns : List ColumnSpec) : rowsOf (created c columns) = rowsOf c := by
  cases h : c.committed <;> simp [rowsOf, created, h]

theorem createTableBlocking_quiet (hs : c.transaction = none) (hq : Quiet 1 c.faults) :
    (createTableBlocking table (columnDefs columns)).exec c = (.ok ⟨⟩, created c columns) := by
  rw [createTableBlocking, exec_ofFun, createTable, statement_quiet _ hq]
  simp only [Connection.mapTable, hs, created]

theorem createTableBlocking_refused (table : String) (columns : List ColumnSpec) (hs : c.transaction = none)
    (hq : ¬ Quiet 1 c.faults) :
    ∃ e c', (createTableBlocking table (columnDefs columns)).exec c = (.error e, c') ∧ c'.transaction = none ∧
      rowsOf c' = rowsOf c := by
  rcases hx : (createTable (columnDefs columns)).exec c with ⟨(text | _) | _, c'⟩
  · have he : ∃ e, (createTableBlocking table (columnDefs columns)).exec c = (.error e, c') :=
      ⟨_, by rw [createTableBlocking, exec_ofFun, hx]⟩
    obtain ⟨e, he⟩ := he
    exact ⟨e, c', he, (statement_error hx).2.elim (·.trans hs) id, by rw [rowsOf, (statement_error hx).1, rowsOf]⟩
  · obtain ⟨text, he⟩ := statement_sqlite (fun _ _ h => by cases h) hx
    cases he
  · exact absurd (statement_ran hx).1 hq

/-- A first batch is locked; then its table is created, or the creation is refused. -/
theorem lockAndCreate_eq {sink : Sink Connection} (hl : sink.schema.columns = none) (hne : rows ≠ [])
    (hs : sink.store.transaction = none) :
    ∃ l', LockedOn l' (Objects.columnsOf (rows.map Subtype.val)) ∧
      ((Quiet 1 sink.store.faults → (lockAndCreate table rows).exec sink =
        (.ok ⟨⟩, { sink with
          schema := l', prepared := true, store := created sink.store (Objects.columnsOf (rows.map Subtype.val)) })) ∧
      (¬ Quiet 1 sink.store.faults → ∃ e c',
        (lockAndCreate table rows).exec sink = (.error e, { sink with schema := l', store := c' }) ∧
          c'.transaction = none ∧ rowsOf c' = rowsOf sink.store)) := by
  have hmap : rows.map Subtype.val ≠ [] := fun h => hne (List.map_eq_nil_iff.mp h)
  obtain ⟨l', hlock, h⟩ := Objects.lock_locked hl hmap
  have hnames : l'.names = (Objects.columnsOf (rows.map Subtype.val)).map ColumnSpec.name := by
    simp only [Objects.lock, hl, Option.isSome_none, Bool.false_eq_true, if_false] at hlock
    split at hlock
    · cases hlock
    · cases hlock
      exact (Objects.columnsOf_names _).symm
  refine ⟨l', ⟨h.fixed, hnames, h.once⟩, fun hq => ?_, fun hq => ?_⟩
  · rw [lockAndCreate, exec_bind_ok (exec_get _), hlock]
    dsimp only
    rw [exec_bind_ok (exec_modify _ _), exec_bind]
    simp only [onConnection, exec_zoom, h.fixed, Option.getD_some, createTableBlocking_quiet hs hq, exec_modify]
  · obtain ⟨e, c', hx, hc', hrows⟩ := createTableBlocking_refused table
      (Objects.columnsOf (rows.map Subtype.val)) hs hq
    refine ⟨e, c', ?_, hc', hrows⟩
    rw [lockAndCreate, exec_bind_ok (exec_get _), hlock]
    dsimp only
    rw [exec_bind_ok (exec_modify _ _), exec_bind]
    simp only [onConnection, exec_zoom, h.fixed, Option.getD_some, hx]

end

/-! ## Runs of the sink -/

/-- An open sink before its first batch, new or opened again. -/
structure Opened (sink : Sink Connection) : Prop where
  isOpen : sink.isOpen = true
  closed : sink.store.transaction = none
  locked : ∀ columns, sink.schema.columns = some columns → LockedOn sink.schema columns
  unlocked : sink.schema.columns = none → sink.prepared = false

/-- The sinks that an open one becomes by calls of `write_many`. -/
inductive Reached (A : Affinity) (table : String) (create : Bool) : Sink Connection → Prop
  | opened {sink : Sink Connection} (h : Opened sink) : Reached A table create sink
  | wrote {sink : Sink Connection} (h : Reached A table create sink) (rows : List Fields) :
      Reached A table create ((writeMany A table create rows).exec sink).2

/-- The batch strands the transaction in which the sink inserts it. -/
def StrandsBatch (create : Bool) (sink : Sink Connection) (rows : List Fields) : Prop :=
  match sink.schema.columns with
  | some columns =>
      sink.prepared = true ∧ Strands sink.store (columns.map ColumnSpec.name) (tuples columns rows)
  | none =>
      let columns := Objects.columnsOf (rows.map Subtype.val)
      create = true ∧ Quiet 1 sink.store.faults ∧
        Strands (created sink.store columns) (columns.map ColumnSpec.name) (tuples columns rows)

/-- The batch does not strand its transaction; one without rows finds none that was stranded before. -/
def Settles (create : Bool) (sink : Sink Connection) (rows : List Fields) : Prop :=
  if rows = [] then sink.store.transaction = none else ¬ StrandsBatch create sink rows

section

variable {A : Affinity} {table : String} {create : Bool} {sink : Sink Connection} {rows : List Fields}
  {columns : List ColumnSpec}

/-- What holds of every sink that is reached. -/
structure Sane (sink : Sink Connection) : Prop where
  isOpen : sink.isOpen = true
  idle : sink.prepared = false → sink.store.transaction = none
  locked : ∀ columns, sink.schema.columns = some columns → LockedOn sink.schema columns
  unlocked : sink.schema.columns = none → sink.prepared = false

theorem writeMany_nil (h : sink.isOpen = true) : (writeMany A table create []).exec sink = (.ok ⟨⟩, sink) := by
  rw [writeMany, exec_bind_ok (exec_get _), h]
  rfl

theorem writeMany_insert (h : sink.isOpen = true) (hne : rows ≠ [])
    (hl : (sink.schema.columns.isNone && create) = false) :
    (writeMany A table create rows).exec sink = (insertRows A table rows).exec sink := by
  have hempty : rows.isEmpty = false := by simpa [List.isEmpty_eq_false_iff] using hne
  rw [writeMany, exec_bind_ok (exec_get _), h, hempty, hl]
  rfl

theorem writeMany_first (A : Affinity) (table : String) (h : sink.isOpen = true) (hne : rows ≠ [])
    (hl : sink.schema.columns = none) :
    (writeMany A table true rows).exec sink =
      (lockAndCreate table rows >>= fun _ => insertRows A table rows).exec sink := by
  have hempty : rows.isEmpty = false := by simpa [List.isEmpty_eq_false_iff] using hne
  rw [writeMany, exec_bind_ok (exec_get _), h, hempty, hl]
  rfl

/-- A call that has nothing to insert changes nothing. -/
theorem Atomic.unchanged {c : Connection} {names : List String} {batch : List (List Value)} {r : Except SinkExc PUnit}
    (hr : r = .ok ⟨⟩ → batch = []) (hc : c.transaction = none) : Atomic A c names batch r c where
  all h := ⟨[], by rw [hr h]; exact .nil, by simp⟩
  nothing _ := rfl
  closed := hc

/-- The call ran the statements of the batch from the connection `c`, in the columns `columns`. -/
structure Inserted (A : Affinity) (table : String) (create : Bool) (sink : Sink Connection) (rows : List Fields)
    (c : Connection) (columns : List ColumnSpec) (l : SchemaLock) : Prop where
  locked : LockedOn l columns
  rows_eq : rowsOf c = rowsOf sink.store
  strands : StrandsBatch create sink rows ↔ Strands c (columns.map ColumnSpec.name) (tuples columns rows)
  ran : (writeMany A table create rows).exec sink =
    (((executemanyBlocking A table (columns.map ColumnSpec.name) (tuples columns rows)).exec c).1,
      { sink with
        schema := l, prepared := true,
        store := ((executemanyBlocking A table (columns.map ColumnSpec.name) (tuples columns rows)).exec c).2 })

/-- The call raised before it came to the statements of the batch. -/
structure GaveUp (A : Affinity) (table : String) (create : Bool) (sink : Sink Connection) (rows : List Fields) :
    Prop where
  raised : ((writeMany A table create rows).exec sink).1 ≠ .ok ⟨⟩
  rows_eq : rowsOf ((writeMany A table create rows).exec sink).2.store = rowsOf sink.store
  closed : ((writeMany A table create rows).exec sink).2.store.transaction = none
  sane : Sane ((writeMany A table create rows).exec sink).2
  strands : ¬ StrandsBatch create sink rows

theorem GaveUp.of_unprepared (h : Sane sink) (hne : rows ≠ []) (hp : sink.prepared = false)
    (hl : (sink.schema.columns.isNone && create) = false) : GaveUp A table create sink rows := by
  have hrun : (writeMany A table create rows).exec sink = (.error (.library .assertionError), sink) :=
    (writeMany_insert h.isOpen hne hl).trans (insertRows_unprepared hp)
  refine
    { raised := by simp [hrun]
      rows_eq := by rw [hrun]
      closed := by
        rw [hrun]
        exact h.idle hp
      sane := by
        rw [hrun]
        exact h
      strands := ?_ }
  unfold StrandsBatch
  cases hc : sink.schema.columns with
  | none =>
      intro hs
      simp [hc, hs.1] at hl
  | some columns => exact fun hs => by simp [hp] at hs

theorem writeMany_cases (h : Sane sink) (hne : rows ≠ []) :
    (∃ c columns l, Inserted A table create sink rows c columns l) ∨ GaveUp A table create sink rows := by
  cases hc : sink.schema.columns with
  | some columns =>
      have hl : (sink.schema.columns.isNone && create) = false := by simp [hc]
      cases hp : sink.prepared with
      | false => exact .inr (.of_unprepared h hne hp hl)
      | true =>
          obtain ⟨l, hlocked, hrun⟩ := insertRows_eq sink (h.locked columns hc) hp
          refine .inl ⟨sink.store, columns, l, hlocked, rfl, by simp [StrandsBatch, hc, hp], ?_⟩
          rw [writeMany_insert h.isOpen hne hl, hrun, hp]
  | none =>
      have hp := h.unlocked hc
      cases create with
      | false => exact .inr (.of_unprepared h hne hp (by simp))
      | true =>
          obtain ⟨l, hlocked, hquiet, hrefused⟩ := lockAndCreate_eq hc hne (h.idle hp)
          have hfirst := writeMany_first A table h.isOpen hne hc
          by_cases hq : Quiet 1 sink.store.faults
          · obtain ⟨l', hlocked', hrun⟩ := insertRows_eq { sink with
              schema := l, prepared := true,
              store := created sink.store (Objects.columnsOf (rows.map Subtype.val)) } hlocked rfl
            refine .inl ⟨created sink.store (Objects.columnsOf (rows.map Subtype.val)), _, l', hlocked',
              rowsOf_created _ _, by simp only [StrandsBatch, hc, hq, true_and], ?_⟩
            rw [hfirst, exec_bind_ok (hquiet hq), hrun]
          · obtain ⟨e, c', hrun, hclosed, hrows⟩ := hrefused hq
            have hrun : (writeMany A table true rows).exec sink = (.error e, { sink with schema := l, store := c' }) :=
              hfirst.trans (exec_bind_error hrun)
            refine .inr
              { raised := by simp [hrun]
                rows_eq := by rw [hrun, hrows]
                closed := by
                  rw [hrun]
                  exact hclosed
                sane := ?_
                strands := by simp [StrandsBatch, hc, hq] }
            rw [hrun]
            refine ⟨h.isOpen, fun _ => hclosed, fun columns hcol => ?_, fun hcol => ?_⟩
            · obtain rfl : _ = columns := Option.some.inj (hlocked.fixed.symm.trans hcol)
              exact hlocked
            · simp [hlocked.fixed] at hcol

/-- An open sink stays sound, whatever it is given to write. -/
theorem Sane.wrote (h : Sane sink) (rows : List Fields) : Sane ((writeMany A table create rows).exec sink).2 := by
  by_cases hne : rows = []
  · rw [hne, writeMany_nil h.isOpen]
    exact h
  rcases writeMany_cases h hne with ⟨c, columns, l, hi⟩ | hg
  · rw [hi.ran]
    refine ⟨h.isOpen, (fun hp => nomatch hp), fun columns' hcol => ?_, fun hcol => ?_⟩
    · obtain rfl : columns = columns' := Option.some.inj (hi.locked.fixed.symm.trans hcol)
      exact hi.locked
    · simp [hi.locked.fixed] at hcol
  · exact hg.sane

theorem Reached.sane (h : Reached A table create sink) : Sane sink := by
  induction h with
  | opened h => exact ⟨h.isOpen, fun _ => h.closed, h.locked, h.unlocked⟩
  | wrote _ rows ih => exact ih.wrote rows

end

/-! ## A stranded batch -/

/-- The row of a sample. -/
def fields (sample : Sample) : Fields :=
  ⟨Objects.ofCells (sampleToRow sample), by
    rw [Objects.keys_ofCells, keys_sampleToRow]
    exact columnTypes_nodup⟩

end SartoriusLib.Sinks.SqliteSink
