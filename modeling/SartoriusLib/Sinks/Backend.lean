import SartoriusLib.Sinks.LockedTypes

/-!
# Sinks over a store

The tabular sinks write in one way: on the first batch the schema is locked and the table (or the file) is
created, then every batch is projected and inserted. What differs is how a store is created and written, and
how its errors are reported.
-/

namespace SartoriusLib.Sinks

open SartoriusLib Lib Prog

/-- What ends a call of a sink. -/
inductive SinkExc where
  | library (e : Exc)
  /-- An exception of the driver that the sink does not translate. -/
  | store (text : String)
  /-- A value that the driver cannot convert. -/
  | overflowError
  deriving DecidableEq, Repr

/-- `SartoriusSinkWriteError(message)`. -/
def SinkExc.writeError (message : String) : SinkExc :=
  .library (.sartorius { cls := .sinkWriteError, message })

/-- The name of a column with its declared type. -/
abbrev ColumnDef : Type := String × String

structure Table where
  columns : List ColumnDef
  rows : List Row := []
  deriving DecidableEq, Repr

/-- How a sink uses its store. -/
structure Backend (W : Type) where
  sinkName : String
  /-- `create_table`; a file is always created. -/
  createTable : Bool := true
  columnType : PyType → String
  create : List ColumnDef → Prog SinkExc W PUnit
  insert : List ColumnDef → List Row → Prog SinkExc W PUnit

/-- The attributes of a sink. -/
structure Sink (W : Type) where
  isOpen : Bool := false
  schema : SchemaLock := {}
  /-- `_insert_sql`, or the writer, is there. -/
  prepared : Bool := false
  store : W

namespace Backend

variable {W : Type} (B : Backend W)

def columnDefs (columns : List ColumnSpec) : List ColumnDef :=
  columns.map fun spec => (spec.name, B.columnType spec.pythonType)

/-- A call of the store. -/
def onStore {α : Type} (m : Prog SinkExc W α) : Prog SinkExc (Sink W) α :=
  Prog.zoom Sink.store (fun w sink => { sink with store := w }) m

/-- The first batch: the schema is locked before the table is created. -/
def prepare (rows : List Row) : Prog SinkExc (Sink W) PUnit := do
  let sink ← get
  match sink.schema.lock rows with
  | .error e => throw (.library e)
  | .ok schema => do
      modify fun sink => { sink with schema }
      onStore (B.create (B.columnDefs (schema.columns.getD [])))
      modify fun sink => { sink with prepared := true }

/-- The rows projected one after the other. -/
def projectAll (schema : SchemaLock) (rows : List Row) : Except Exc (List Row × SchemaLock) :=
  rows.foldlM
    (fun (acc : List Row × SchemaLock) row => (acc.2.project row).bind fun r => .ok (acc.1 ++ [r.1], r.2))
    ([], schema)

/-- The first row is projected, then the others with what it left of the lock. -/
theorem projectAll_cons (schema : SchemaLock) (row : Row) (rows : List Row) :
    projectAll schema (row :: rows) = (schema.project row).bind fun r =>
      (projectAll r.2 rows).map fun rest => (r.1 :: rest.1, rest.2) := by
  -- the fold begins anywhere: what it has already stays in front
  have hloop : ∀ (rows before : List Row) (schema : SchemaLock), rows.foldlM
      (fun (acc : List Row × SchemaLock) row => (acc.2.project row).bind fun r =>
        (.ok (acc.1 ++ [r.1], r.2) : Except Exc _)) (before, schema) =
      (projectAll schema rows).map fun rest => (before ++ rest.1, rest.2) := by
    intro rows
    induction rows with
    | nil =>
        intro before schema
        simp [projectAll, pure, Except.pure, Except.map]
    | cons row rows ih =>
        intro before schema
        rw [projectAll, List.foldlM_cons, List.foldlM_cons]
        cases schema.project row with
        | error e => rfl
        | ok r =>
            refine (ih (before ++ [r.1]) r.2).trans ?_
            refine Eq.trans ?_ (congrArg (Except.map _) (ih [r.1] r.2)).symm
            cases projectAll r.2 rows <;> simp [Except.map]
  rw [projectAll, List.foldlM_cons]
  cases schema.project row with
  | error e => rfl
  | ok r => exact hloop rows [r.1] r.2

/-- Both assertions, then the projection and the insert. -/
def insertRows (rows : List Row) : Prog SinkExc (Sink W) PUnit := do
  let sink ← get
  match sink.prepared, sink.schema.columns with
  | true, some columns =>
      match projectAll sink.schema rows with
      | .error e => throw (.library e)
      | .ok (projected, schema) => do
          modify fun sink => { sink with schema }
          onStore (B.insert (B.columnDefs columns) projected)
  | _, _ => throw (.library .assertionError)

/-- `write_many`. -/
def writeMany (samples : List Sample) : Prog SinkExc (Sink W) PUnit := do
  let sink ← get
  if !sink.isOpen then
    throw (.library (.runtimeError s!"{B.sinkName}: write_many called before open()"))
  else if samples = [] then pure ⟨⟩
  else if sink.schema.columns.isNone && B.createTable then do
    B.prepare (samples.map sampleToRow)
    B.insertRows (samples.map sampleToRow)
  else B.insertRows (samples.map sampleToRow)

end Backend

/-! ## One call -/

/-- A projected row is the row of the sample. -/
theorem projected_eq (first : List Sample) (s : Sample) : projected first s = sampleToRow s := by
  have hnames : (lockedColumns first).map (fun spec => (spec.name, Cell.none)) =
      (columnTypes.map Prod.fst).map fun name => (name, Cell.none) := by
    simp [lockedColumns, inferColumn_name, Function.comp_def]
  rw [projected, hnames]
  refine Dict.update_of_keys ?_ (keys_sampleToRow s ▸ columnTypes_nodup)
  simp [Dict.keys, Function.comp_def, ← keys_sampleToRow s]

theorem projectAll_locked (first samples : List Sample) :
    Backend.projectAll (lockedFor first) (samples.map sampleToRow) =
      .ok (samples.map sampleToRow, lockedFor first) := by
  induction samples with
  | nil => rfl
  | cons s samples ih =>
      rw [List.map_cons, Backend.projectAll_cons, project_sample, projected_eq, Except.bind, ih]
      rfl

namespace Sink

variable {W : Type}

/-- An open sink before its first batch. -/
def opened (w : W) : Sink W := { isOpen := true, store := w }

/-- An open sink whose schema was locked by the batch `first`. -/
def locked (first : List Sample) (prepared : Bool) (w : W) : Sink W :=
  { isOpen := true, schema := lockedFor first, prepared, store := w }

end Sink

namespace Backend

variable {W : Type} (B : Backend W) (first : List Sample) {samples : List Sample} (w : W)

/-- The columns that a first batch locks. -/
def defsFor (first : List Sample) : List ColumnDef := B.columnDefs (lockedColumns first)

theorem insertRows_prepared :
    (B.insertRows (samples.map sampleToRow)).exec (.locked first true w) =
      (((B.insert (B.defsFor first) (samples.map sampleToRow)).exec w).1,
        .locked first true ((B.insert (B.defsFor first) (samples.map sampleToRow)).exec w).2) := by
  have hproject := projectAll_locked first samples
  rw [insertRows, exec_bind_ok (exec_get _)]
  simp only [Sink.locked, lockedFor] at hproject ⊢
  rw [hproject, exec_bind_ok (exec_modify _ _)]
  rfl

theorem insertRows_unprepared (rows : List Row) :
    (B.insertRows rows).exec (.locked first false w) =
      (.error (.library .assertionError), .locked first false w) := by
  rw [insertRows, exec_bind_ok (exec_get _)]
  rfl

/-- The schema stays locked whether or not the table could be created. -/
theorem prepare_opened (h : samples ≠ []) :
    (B.prepare (samples.map sampleToRow)).exec (.opened w) =
      match (B.create (B.defsFor samples)).exec w with
      | (.ok _, w') => (.ok ⟨⟩, .locked samples true w')
      | (.error e, w') => (.error e, .locked samples false w') := by
  have hlock := lock_samples h
  rw [prepare, exec_bind_ok (exec_get _)]
  simp only [Sink.opened, hlock]
  rw [exec_bind_ok (exec_modify _ _), exec_bind]
  simp only [onStore, exec_zoom, lockedFor, Option.getD_some, defsFor]
  rcases (B.create (B.columnDefs (lockedColumns samples))).exec w with ⟨_ | _, w'⟩ <;> rfl

theorem writeMany_opened (hc : B.createTable = true) (h : samples ≠ []) :
    (B.writeMany samples).exec (.opened w) =
      match (B.create (B.defsFor samples)).exec w with
      | (.ok _, w') =>
          (((B.insert (B.defsFor samples) (samples.map sampleToRow)).exec w').1,
            .locked samples true ((B.insert (B.defsFor samples) (samples.map sampleToRow)).exec w').2)
      | (.error e, w') => (.error e, .locked samples false w') := by
  have hprep := B.prepare_opened w h
  rw [writeMany, exec_bind_ok (exec_get _)]
  simp only [Sink.opened, Bool.not_true, Bool.false_eq_true, if_false, if_neg h, Option.isNone_none, hc,
    Bool.and_self, if_true] at hprep ⊢
  rw [exec_bind, hprep]
  rcases (B.create (B.defsFor samples)).exec w with ⟨_ | _, w'⟩
  · rfl
  · exact B.insertRows_prepared samples w'

theorem writeMany_locked (prepared : Bool) (h : samples ≠ []) :
    (B.writeMany samples).exec (.locked first prepared w) =
      (B.insertRows (samples.map sampleToRow)).exec (.locked first prepared w) := by
  rw [writeMany, exec_bind_ok (exec_get _)]
  simp [Sink.locked, lockedFor, h]

theorem writeMany_prepared (h : samples ≠ []) :
    (B.writeMany samples).exec (.locked first true w) =
      (((B.insert (B.defsFor first) (samples.map sampleToRow)).exec w).1,
        .locked first true ((B.insert (B.defsFor first) (samples.map sampleToRow)).exec w).2) :=
  (B.writeMany_locked first w true h).trans (B.insertRows_prepared first w)

theorem writeMany_unprepared (h : samples ≠ []) :
    (B.writeMany samples).exec (.locked first false w) =
      (.error (.library .assertionError), .locked first false w) :=
  (B.writeMany_locked first w false h).trans (B.insertRows_unprepared first w _)

@[simp] theorem writeMany_nil {sink : Sink W} (h : sink.isOpen = true) :
    (B.writeMany []).exec sink = (.ok ⟨⟩, sink) := by
  rw [writeMany, exec_bind_ok (exec_get _), h]
  rfl

end Backend

end SartoriusLib.Sinks
