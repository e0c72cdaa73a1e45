import Mathlib.Data.List.Find
import SartoriusLib.Lib.Related
import SartoriusLib.Sinks.Atomicity
import SartoriusLib.Sinks.Lifecycle

/-!
# The SQLite sink is one sink

Three modules look at it: one at the table behind a refusal, one at the transaction and the values of a row, one at
the handle and the schema over the calls of its life. On the rows of samples the second is the first. On a connection
that refuses nothing the third does what the first does, and holds what its table holds.
-/

namespace SartoriusLib.Sinks

open SartoriusLib Lib Prog

/-! ## The transaction of cells -/

namespace SqliteSink

open Sqlite

variable {A : Affinity} {table : String} {names : List String}

theorem bindRow_cells (cells : List Cell) :
    bindRow (cells.map .cell) = if ∀ cell ∈ cells, Bindable cell then .ok cells else .error .overflow := by
  induction cells with
  | nil => rfl
  | cons cell cells ih =>
      rw [List.map_cons, bindRow, bindValue, ih]
      by_cases hcell : Bindable cell
      · by_cases hcells : ∀ c ∈ cells, Bindable c
        · rw [if_pos hcell, if_pos hcells, if_pos (List.forall_mem_cons.mpr ⟨hcell, hcells⟩)]
          rfl
        · rw [if_pos hcell, if_neg hcells, if_neg fun h => hcells (List.forall_mem_cons.mp h).2]
          rfl
      · rw [if_neg hcell, if_neg fun h => hcell (List.forall_mem_cons.mp h).1]
        rfl

theorem exec_engine {α : Type} (m : Prog Error Connection α) (c : Connection) :
    (engine m).exec c = ((m.exec c).1.mapError Raised.ofError, (m.exec c).2) := rfl

theorem engine_bind {α β : Type} (m : Prog Error Connection α) (k : α → Prog Error Connection β) :
    engine (m >>= k) = engine m >>= fun a => engine (k a) := by
  refine Prog.ext fun c => ?_
  rw [exec_engine, exec_bind, exec_bind, exec_engine]
  rcases m.exec c with ⟨e | a, c'⟩ <;> rfl

theorem insertValues_cells (cells : List Cell) :
    insertValues A names (cells.map .cell) = engine (insertRow A names cells) := by
  rw [insertValues, bindRow_cells]
  by_cases hcells : ∀ cell ∈ cells, Bindable cell
  · rw [if_pos hcells]
  · rw [if_neg hcells, insertRow, if_neg hcells]
    rfl

theorem forM_insertValues (records : List (List Cell)) :
    forM (records.map (List.map .cell)) (insertValues A names) = engine (forM records (insertRow A names)) := by
  induction records with
  | nil => rfl
  | cons cells records ih => rw [List.map_cons, List.forM_cons, List.forM_cons, engine_bind, insertValues_cells, ih]

theorem insertBatch_cells (records : List (List Cell)) :
    insertBatch A table names (records.map (List.map .cell)) = engine (Sqlite.insertBatch A table names records) := by
  rw [insertBatch, forM_insertValues, Sqlite.insertBatch, executemany]
  simp only [engine_bind, bind_assoc]

theorem executemanyBlocking_cells (records : List (List Cell)) :
    executemanyBlocking A table names (records.map (List.map .cell)) =
      Sqlite.executemanyBlocking A table names records := by
  refine Prog.ext fun c => ?_
  rw [executemanyBlocking, Sqlite.executemanyBlocking, exec_ofFun, exec_ofFun, insertBatch_cells, exec_engine]
  rcases (Sqlite.insertBatch A table names records).exec c with ⟨(text | _) | _, c'⟩ <;> rfl

/-! ## The rows of samples -/

theorem tuple_ofCells (columns : List ColumnSpec) (row : Row) :
    tuple columns (Objects.ofCells row) = (record (columnDefs columns) row).map .cell := by
  rw [tuple, record, columnDefs, List.map_map, List.map_map]
  refine List.map_congr_left fun spec _ => ?_
  rw [Objects.get?_ofCells]
  dsimp only [Function.comp_apply]
  cases Dict.get? row spec.name <;> rfl

theorem projectRows_fields (columns : List ColumnSpec) (l : SchemaLock) (samples : List Sample) :
    projectRows columns l (samples.map fields) = (Backend.projectAll l (samples.map sampleToRow)).map fun projected =>
      (projected.1.map fun row => (record (columnDefs columns) row).map .cell, projected.2) := by
  induction samples generalizing l with
  | nil => rfl
  | cons s samples ih =>
      rw [List.map_cons, List.map_cons, projectRows, Backend.projectAll_cons, fields, Objects.project_ofCells]
      cases l.project (sampleToRow s) with
      | error e => rfl
      | ok r =>
          show (projectRows columns r.2 (samples.map fields)).map _ = ((Backend.projectAll r.2 _).map _).map _
          rw [ih, tuple_ofCells]
          cases Backend.projectAll r.2 (samples.map sampleToRow) <;> rfl

theorem insertRows_fields (create : Bool) (samples : List Sample) :
    insertRows A table (samples.map fields) = (backend A table create).insertRows (samples.map sampleToRow) := by
  refine Prog.ext fun sink => ?_
  rw [insertRows, Backend.insertRows, exec_bind_ok (exec_get _), exec_bind_ok (exec_get _)]
  cases sink.prepared with
  | false => rfl
  | true =>
      cases hcolumns : sink.schema.columns with
      | none => rfl
      | some columns =>
          dsimp only
          rw [projectRows_fields]
          cases Backend.projectAll sink.schema (samples.map sampleToRow) with
          | error e => rfl
          | ok projected =>
              obtain ⟨rows, schema⟩ := projected
              have hnames : columns.map ColumnSpec.name = (columnDefs columns).map Prod.fst := by
                simp [columnDefs, Function.comp_def]
              have hrecords : (rows.map fun row => (record (columnDefs columns) row).map (.cell : Cell → Value)) =
                  (rows.map (record (columnDefs columns))).map (List.map .cell) := by
                rw [List.map_map]
                rfl
              simp only [Except.map]
              rw [hnames, hrecords, executemanyBlocking_cells]
              rfl

theorem lockAndCreate_fields (create : Bool) (samples : List Sample) :
    lockAndCreate table (samples.map fields) = (backend A table create).prepare (samples.map sampleToRow) := by
  have hrows : (samples.map fields).map Subtype.val = (samples.map sampleToRow).map Objects.ofCells := by
    rw [List.map_map, List.map_map]
    rfl
  refine Prog.ext fun sink => ?_
  rw [lockAndCreate, Backend.prepare, exec_bind_ok (exec_get _), exec_bind_ok (exec_get _), hrows,
    Objects.lock_ofCells]
  cases sink.schema.lock (samples.map sampleToRow) <;> rfl

/-- On the rows of samples, the sink of the transactions is the sink of the backend. -/
theorem writeMany_fields (A : Affinity) (table : String) (create : Bool) (samples : List Sample) :
    writeMany A table create (samples.map fields) = (backend A table create).writeMany samples := by
  refine Prog.ext fun sink => ?_
  rw [writeMany, Backend.writeMany, exec_bind_ok (exec_get _), exec_bind_ok (exec_get _),
    insertRows_fields create, lockAndCreate_fields (A := A) create]
  cases samples <;> rfl

end SqliteSink

/-! ## Sinks over related stores -/

section

variable {W W' : Type} {B : Backend W} {B' : Backend W'} {R : W → W' → Prop} {scope : List ColumnDef → Prop}
  {bound : Cell → Prop}

/-- A row with bound cells only. -/
def BoundRow (bound : Cell → Prop) (row : Row) : Prop := ∀ name cell, Dict.get? row name = some cell → bound cell

theorem project_bound (hnone : bound .none) {l l' : SchemaLock} {row projected : Row} (hrow : ∀ e ∈ row, bound e.2)
    (h : l.project row = .ok (projected, l')) : BoundRow bound projected := by
  have hloop : ∀ acc : Row × SchemaLock, BoundRow bound acc.1 → BoundRow bound (row.foldl
      (fun (acc : Row × SchemaLock) e =>
        if e.1 ∈ acc.2.names then (acc.1.set e.1 e.2, acc.2)
        else if e.1 ∈ acc.2.unknownWarned then acc
        else (acc.1, { acc.2 with unknownWarned := acc.2.unknownWarned ++ [e.1] })) acc).1 := by
    clear h
    induction row with
    | nil => exact fun _ hacc => hacc
    | cons e row ih =>
        intro acc hacc
        obtain ⟨he, hrow⟩ := List.forall_mem_cons.mp hrow
        rw [List.foldl_cons]
        refine ih hrow _ ?_
        split
        · intro name cell hcell
          rw [Dict.get?_set] at hcell
          split at hcell
          · exact Option.some.inj hcell ▸ he
          · exact hacc name cell hcell
        · split <;> exact hacc
  unfold SchemaLock.project at h
  cases hcolumns : l.columns with
  | none =>
      rw [hcolumns] at h
      cases h
  | some columns =>
      rw [hcolumns] at h
      obtain rfl : _ = projected := congrArg Prod.fst (Except.ok.inj h)
      refine hloop _ fun name cell hcell => ?_
      obtain ⟨spec, -, hspec⟩ := List.mem_map.mp (Dict.mem_of_get? hcell)
      cases hspec
      exact hnone

theorem projectAll_bound (hnone : bound .none) {rows projected : List Row} {l l' : SchemaLock}
    (hrows : ∀ row ∈ rows, ∀ e ∈ row, bound e.2) (h : Backend.projectAll l rows = .ok (projected, l')) :
    ∀ row ∈ projected, BoundRow bound row := by
  induction rows generalizing l projected with
  | nil =>
      cases h
      exact fun _ hrow => absurd hrow List.not_mem_nil
  | cons row rows ih =>
      obtain ⟨hrow, hrows⟩ := List.forall_mem_cons.mp hrows
      rw [Backend.projectAll_cons] at h
      rcases hfirst : l.project row with e | first <;> rw [hfirst] at h
      · cases h
      rcases hrest : Backend.projectAll first.2 rows with e | rest <;> rw [Except.bind, hrest] at h <;> cases h
      exact List.forall_mem_cons.mpr ⟨project_bound hnone hrow hfirst, ih hrows hrest⟩

/-- Two stores under one sink: for the columns of the scope and rows of bound cells they end alike. -/
structure Backend.Related (B : Backend W) (B' : Backend W') (R : W → W' → Prop) (scope : List ColumnDef → Prop)
    (bound : Cell → Prop) : Prop where
  sinkName : B.sinkName = B'.sinkName
  createTable : B.createTable = B'.createTable
  columnType : B.columnType = B'.columnType
  create : ∀ {columns w w'}, scope columns → R w w' → Alike R ((B.create columns).exec w) ((B'.create columns).exec w')
  insert : ∀ {columns rows w w'}, scope columns → (∀ row ∈ rows, BoundRow bound row) → R w w' →
    Alike R ((B.insert columns rows).exec w) ((B'.insert columns rows).exec w')

/-- The sinks are in one state, over stores that are related. -/
structure Sink.Related (B : Backend W) (R : W → W' → Prop) (scope : List ColumnDef → Prop) (sink : Sink W)
    (sink' : Sink W') : Prop where
  isOpen : sink.isOpen = sink'.isOpen
  schema : sink.schema = sink'.schema
  prepared : sink.prepared = sink'.prepared
  store : R sink.store sink'.store
  scope : ∀ columns, sink.schema.columns = some columns → scope (B.columnDefs columns)

namespace Backend.Related

theorem columnDefs (hB : B.Related B' R scope bound) (columns : List ColumnSpec) :
    B'.columnDefs columns = B.columnDefs columns := by
  rw [Backend.columnDefs, Backend.columnDefs, hB.columnType]

variable {sink : Sink W} {sink' : Sink W'} {samples : List Sample}

theorem insertRows (hB : B.Related B' R scope bound) (hnone : bound .none) {rows : List Row}
    (hrows : ∀ row ∈ rows, ∀ e ∈ row, bound e.2) (h : sink.Related B R scope sink') :
    Alike (Sink.Related B R scope) ((B.insertRows rows).exec sink) ((B'.insertRows rows).exec sink') := by
  have hprepared := h.prepared
  have hschema := h.schema
  rw [Backend.insertRows, Backend.insertRows, exec_bind_ok (exec_get _), exec_bind_ok (exec_get _), ← hprepared,
    ← hschema]
  cases sink.prepared with
  | false => exact ⟨rfl, h⟩
  | true =>
      cases hcolumns : sink.schema.columns with
      | none => exact ⟨rfl, h⟩
      | some columns =>
          obtain ⟨projected, l, hproject, hl⟩ := Lifecycle.projectAll_columns rows hcolumns
          dsimp only
          rw [hproject]
          dsimp only
          rw [exec_bind_ok (exec_modify _ _), exec_bind_ok (exec_modify _ _), hB.columnDefs]
          refine Alike.zoom (hB.insert (h.scope columns hcolumns) (projectAll_bound hnone hrows hproject) h.store) ?_
          intro w w' hw
          refine ⟨h.isOpen, rfl, hprepared, hw, fun columns' hcolumns' => ?_⟩
          obtain rfl := Option.some.inj (hl.symm.trans hcolumns')
          exact h.scope columns hcolumns

theorem prepare (hB : B.Related B' R scope bound) {rows : List Row}
    (hlock : ∀ l columns, sink.schema.lock rows = .ok l → l.columns = some columns → scope (B.columnDefs columns))
    (h : sink.Related B R scope sink') :
    Alike (Sink.Related B R scope) ((B.prepare rows).exec sink) ((B'.prepare rows).exec sink') := by
  rw [Backend.prepare, Backend.prepare, exec_bind_ok (exec_get _), exec_bind_ok (exec_get _), ← h.schema]
  cases hl : sink.schema.lock rows with
  | error e => exact ⟨rfl, h⟩
  | ok l =>
      obtain ⟨columns, hcolumns⟩ : ∃ columns, l.columns = some columns := by
        unfold SchemaLock.lock at hl
        split at hl
        · cases hl
        · split at hl <;> cases hl
          exact ⟨_, rfl⟩
      have hscope := hlock l columns hl hcolumns
      dsimp only
      rw [exec_bind_ok (exec_modify _ _), exec_bind_ok (exec_modify _ _), hcolumns, Option.getD_some, hB.columnDefs]
      refine Alike.bind (R := Sink.Related B R scope) (Alike.zoom (hB.create hscope h.store) ?_) ?_
      · intro w w' hw
        refine ⟨h.isOpen, rfl, h.prepared, hw, fun columns' hcolumns' => ?_⟩
        obtain rfl := Option.some.inj (hcolumns.symm.trans hcolumns')
        exact hscope
      · exact fun _ s t hs => ⟨rfl, hs.isOpen, hs.schema, rfl, hs.store, hs.scope⟩

/-- A batch ends alike in both sinks. -/
theorem writeMany (hB : B.Related B' R scope bound) (hnone : bound .none)
    (hscope : ∀ samples, scope (B.columnDefs (lockedColumns samples)))
    (hsamples : ∀ s ∈ samples, ∀ e ∈ sampleToRow s, bound e.2) (h : sink.Related B R scope sink') :
    Alike (Sink.Related B R scope) ((B.writeMany samples).exec sink) ((B'.writeMany samples).exec sink') := by
  have hrows : ∀ row ∈ samples.map sampleToRow, ∀ e ∈ row, bound e.2 := by
    intro row hrow
    obtain ⟨s, hs, rfl⟩ := List.mem_map.mp hrow
    exact hsamples s hs
  rw [Backend.writeMany, Backend.writeMany, exec_bind_ok (exec_get _), exec_bind_ok (exec_get _), ← h.isOpen,
    ← h.schema, ← hB.createTable, ← hB.sinkName]
  split
  · exact ⟨rfl, h⟩
  split
  · exact ⟨rfl, h⟩
  next hne =>
    split
    · refine Alike.bind (hB.prepare ?_ h) fun _ _ _ hs => hB.insertRows hnone hrows hs
      intro l columns hl hcolumns
      unfold SchemaLock.lock at hl
      split at hl
      · cases hl
      rw [if_neg (by simpa using hne), orderedKeys_samples hne] at hl
      cases hl
      cases hcolumns
      exact hscope samples
    · exact hB.insertRows hnone hrows h

end Backend.Related

end

/-! ## The connection and the world -/

namespace Lifecycle.SqliteSink

open Sqlite

/-- A name without capitals; among these the engine looks for a name as it is written. -/
def Lower (name : String) : Prop := Text.lower name.toList = name.toList

instance (name : String) : Decidable (Lower name) := inferInstanceAs (Decidable (_ = _))

/-- What the database says of a table without constraints. -/
def infos (t : Table) : List ColumnInfo := t.columns.map fun column => { name := column.1, declType := column.2 }

/-- The rows that a table with the columns holds of a batch. -/
def rowsOf (A : Affinity) (columns : List ColumnDef) : Payload → List Row
  | .records names records => records.map fun cells => A.row columns (names.zip cells)
  | .arrays _ => []

/-- A connection that refuses nothing and has no transaction open is the world that calls meet: the table is the one
that they find, and behind the rows `before` it has those of the batches that were taken. -/
structure SameTable (A : Affinity) (before : List Row) (w : World) (c : Connection) : Prop where
  quiet : w.answers = []
  unrefused : c.faults = []
  settled : c.transaction = none
  table : w.table = (c.committed.map infos).getD []
  columns : ∀ t, c.committed = some t → t.columns ≠ [] ∧ ∀ column ∈ t.columns, Lower column.1
  rows : ∀ t, c.committed = some t → t.rows = before ++ w.written.flatMap (rowsOf A t.columns)
  missing : c.committed = none → before = [] ∧ w.written = []

/-- Columns that the engine takes for those of their names. -/
def Plain (columns : List ColumnDef) : Prop := columns ≠ [] ∧ ∀ column ∈ columns, Lower column.1

variable {A : Affinity} {before : List Row} {w : World} {c : Connection} {table path : String} {create : Bool}
  {columns : List ColumnDef} {rows : List Row}

theorem created_alike (h : SameTable A before w c) (hcolumns : Plain columns) :
    Alike (SameTable A before) (((methods table path create).backend.create columns).exec w)
      (((backend A table create).create columns).exec c) := by
  have hworld : ((methods table path create).backend.create columns).exec w = (.ok ⟨⟩,
      if w.table.isEmpty then
        { w with table := columns.map fun column => { name := column.1, declType := column.2 } }
      else w) := translate_ok.mpr (createTable_quiet columns h.quiet)
  have hconnection : ((backend A table create).create columns).exec c = (.ok ⟨⟩,
      { c with committed := some (c.committed.getD { columns }) }) := by
    have hcreated : (Sqlite.createTable columns).exec c = (.ok ⟨⟩,
        { c with committed := some (c.committed.getD { columns }) }) := by
      rw [Sqlite.createTable, statement_unrefused _ h.unrefused]
      simp only [Connection.mapTable, h.settled]
    show (createTableBlocking table columns).exec c = _
    rw [createTableBlocking, exec_ofFun, hcreated]
  rw [hworld, hconnection]
  refine ⟨rfl, ?_⟩
  have htable := h.table
  cases ht : c.committed with
  | none =>
      obtain ⟨rfl, hwritten⟩ := h.missing ht
      rw [ht] at htable
      rw [if_pos (by rw [htable]; rfl)]
      refine ⟨h.quiet, h.unrefused, h.settled, rfl, fun t hmade => ?_, fun t hmade => ?_, fun hnone => by cases hnone⟩
      · cases hmade
        exact hcolumns
      · cases hmade
        rw [show w.written = [] from hwritten]
        rfl
  | some t =>
      have hne : w.table.isEmpty = false := by
        rw [htable, ht]
        simpa [infos] using (h.columns t ht).1
      rw [if_neg (by simp [hne])]
      have hsame : ({ c with committed := some ((some t).getD { columns }) } : Connection) = c := by
        rw [Option.getD_some, ← ht]
      rw [hsame]
      exact h

/-- What the engine says of an insert of the columns is what the database says of it. -/
theorem refusal_eq {t : Table} (ht : ∀ column ∈ t.columns, Lower column.1) (hne : t.columns ≠ []) {names : List String}
    (hnames : ∀ name ∈ names, Lower name) :
    refusal table names (infos t) = (names.find? fun name => !decide (name ∈ t.columns.map Prod.fst)).map
      fun name => s!"table {table} has no column named {name}" := by
  have hfind : names.find? (fun name => !(infos t).any fun column =>
        Text.lower column.name.toList == Text.lower name.toList) =
      names.find? fun name => !decide (name ∈ t.columns.map Prod.fst) := by
    refine List.find?_congr fun name hname => congrArg Bool.not ?_
    rw [Bool.eq_iff_iff, List.any_eq_true, decide_eq_true_iff, List.mem_map]
    constructor
    · rintro ⟨info, hinfo, hlower⟩
      obtain ⟨column, hcolumn, rfl⟩ := List.mem_map.mp hinfo
      refine ⟨column, hcolumn, String.toList_inj.mp ?_⟩
      rw [← ht column hcolumn, ← hnames name hname]
      exact beq_iff_eq.mp hlower
    · rintro ⟨column, hcolumn, rfl⟩
      exact ⟨_, List.mem_map_of_mem hcolumn, beq_self_eq_true _⟩
  rw [refusal, Lifecycle.refusal, if_neg (by simpa [infos] using hne), hfind]

section

variable {names : List String} {records : List (List Cell)}

theorem begin_settled (h : SameTable A before w c) :
    begin.exec c = (.ok ⟨⟩, { c with transaction := some c.committed }) := by
  rw [begin, statement_unrefused _ h.unrefused, h.settled]

/-- A batch whose `INSERT` cannot be compiled is rolled back. -/
theorem executemany_refused (h : SameTable A before w c) {text : String}
    (hprepare : (prepare table names).exec { c with transaction := some c.committed } =
      (.error (.sqlite text), { c with transaction := some c.committed })) :
    (executemanyBlocking A table names records).exec c =
      (.error (.writeError s!"SqliteSink: INSERT into {textRepr table} failed: {text}"), c) := by
  have hbatch : (insertBatch A table names records).exec c =
      (.error (.sqlite text), { c with transaction := some c.committed }) := by
    rw [insertBatch, exec_bind_ok (begin_settled h), executemany, bind_assoc, exec_bind_error hprepare]
  have hsettled : ({ c with transaction := none } : Connection) = c := by rw [← h.settled]
  rw [executemanyBlocking, exec_ofFun, hbatch]
  dsimp only [rollback, exec_ofFun]
  rw [hsettled]

/-- A batch that can be compiled is committed whole. -/
theorem executemany_taken (h : SameTable A before w c) {t : Table} (ht : c.committed = some t)
    (hnames : ∀ name ∈ names, name ∈ t.columns.map Prod.fst)
    (hcells : ∀ cells ∈ records, ∀ cell ∈ cells, Bindable cell) :
    (executemanyBlocking A table names records).exec c =
      (.ok ⟨⟩, { c with committed := some (appended A names records t) }) := by
  have hprepare := prepare_unrefused table (c := { c with transaction := some c.committed }) h.unrefused ht hnames
  obtain ⟨c₃, hrows, hfaults⟩ := insertRows_unrefused A names (c := { c with transaction := some c.committed })
    h.unrefused hcells
  obtain ⟨-, htransaction⟩ := insertRows_ok rfl hrows
  have hend : ({ c₃ with committed := some (appended A names records t), transaction := none } : Connection) =
      { c with committed := some (appended A names records t) } := by
    obtain ⟨committed, transaction, faults⟩ := c
    obtain ⟨committed₃, transaction₃, faults₃⟩ := c₃
    cases show faults = [] from h.unrefused
    cases show transaction = none from h.settled
    cases show faults₃ = [] from hfaults
    rfl
  have hbatch : (insertBatch A table names records).exec c =
      (.ok ⟨⟩, { c with committed := some (appended A names records t) }) := by
    rw [insertBatch, exec_bind_ok (begin_settled h), executemany, bind_assoc, exec_bind_ok hprepare,
      exec_bind_ok hrows, commit, statement_unrefused _ hfaults, htransaction, ht]
    exact congrArg (Prod.mk _) hend
  rw [executemanyBlocking, exec_ofFun, hbatch]

end

/-! ## A batch in both models -/

theorem record_bindable (hrows : ∀ row ∈ rows, BoundRow Bindable row) :
    ∀ cells ∈ rows.map (record columns), ∀ cell ∈ cells, Bindable cell := by
  intro cells hcells cell hcell
  obtain ⟨row, hrow, rfl⟩ := List.mem_map.mp hcells
  obtain ⟨column, -, rfl⟩ := List.mem_map.mp hcell
  cases hget : Dict.get? row column.1 with
  | none => trivial
  | some cell => exact hrows row hrow _ cell hget

/-- A batch whose columns the database refuses. -/
theorem insert_refused (hquiet : w.answers = []) {text : String}
    (htext : refusal table (columns.map Prod.fst) w.table = some text) :
    ((methods table path create).backend.insert columns rows).exec w =
      (.error (.writeError s!"SqliteSink: INSERT into {textRepr table} failed: {text}"), w) := by
  have hhand : (hand (refusal table (columns.map Prod.fst))
      (.records (columns.map Prod.fst) (rows.map (record columns)))).exec w = (.error text, w) := by
    rw [hand, exec_bind_ok (call_quiet hquiet), exec_bind_ok (exec_get _), htext]
    rfl
  show (translate _ (hand _ _)).exec w = _
  rw [translate, exec_ofFun, hhand]

/-- Where the database refuses the columns for what keeps the statement from being compiled, both raise that. -/
theorem refused_alike (h : SameTable A before w c) {text : String}
    (htext : refusal table (columns.map Prod.fst) w.table = some text)
    (hprepare : (prepare table (columns.map Prod.fst)).exec { c with transaction := some c.committed } =
      (.error (.sqlite text), { c with transaction := some c.committed })) :
    Alike (SameTable A before) (((methods table path create).backend.insert columns rows).exec w)
      (((backend A table create).insert columns rows).exec c) := by
  rw [insert_refused h.quiet htext]
  show Alike _ _ ((executemanyBlocking A table _ _).exec c)
  rw [executemany_refused h hprepare]
  exact ⟨rfl, h⟩

/-- Where the table has the columns, both take the batch. -/
theorem taken_alike (h : SameTable A before w c) {t : Table} (ht : c.committed = some t)
    (htext : refusal table (columns.map Prod.fst) w.table = none)
    (hhas : ∀ name ∈ columns.map Prod.fst, name ∈ t.columns.map Prod.fst)
    (hrows : ∀ row ∈ rows, BoundRow Bindable row) :
    Alike (SameTable A before) (((methods table path create).backend.insert columns rows).exec w)
      (((backend A table create).insert columns rows).exec c) := by
  have htaken : ((methods table path create).backend.insert columns rows).exec w = (.ok ⟨⟩,
      { w with written := w.written ++ [.records (columns.map Prod.fst) (rows.map (record columns))] }) :=
    translate_ok.mpr (hand_quiet h.quiet htext _)
  rw [htaken]
  show Alike _ _ ((executemanyBlocking A table _ _).exec c)
  rw [executemany_taken h ht hhas (record_bindable hrows)]
  refine ⟨rfl, h.quiet, h.unrefused, h.settled, ?_, fun t' ht' => ?_, fun t' ht' => ?_, fun h => by cases h⟩
  · have htable := h.table
    rw [ht] at htable
    exact htable
  · cases ht'
    exact h.columns t ht
  · cases ht'
    show t.rows ++ _ = _
    rw [h.rows t ht, List.flatMap_append, List.append_assoc]
    simp only [List.flatMap_cons, List.flatMap_nil, List.append_nil]
    rfl

theorem inserted_alike (h : SameTable A before w c) (hcolumns : Plain columns)
    (hrows : ∀ row ∈ rows, BoundRow Bindable row) :
    Alike (SameTable A before) (((methods table path create).backend.insert columns rows).exec w)
      (((backend A table create).insert columns rows).exec c) := by
  have hnames : ∀ name ∈ columns.map Prod.fst, Lower name := by
    intro name hname
    obtain ⟨column, hcolumn, rfl⟩ := List.mem_map.mp hname
    exact hcolumns.2 column hcolumn
  have htable := h.table
  cases ht : c.committed with
  | none =>
      rw [ht] at htable
      have hmissing : refusal table (columns.map Prod.fst) w.table = some s!"no such table: {table}" := by
        rw [htable]
        rfl
      refine refused_alike h hmissing ?_
      rw [prepare, statement_unrefused (c := { c with transaction := some c.committed }) _ h.unrefused]
      simp only [Connection.visible, ht, Option.getD_some]
  | some t =>
      rw [ht] at htable
      have hsays : refusal table (columns.map Prod.fst) (infos t) = _ :=
        refusal_eq (h.columns t ht).2 (h.columns t ht).1 hnames
      rw [← show w.table = infos t from htable] at hsays
      cases hfind : (columns.map Prod.fst).find? fun name => !decide (name ∈ t.columns.map Prod.fst) with
      | some name =>
          rw [hfind] at hsays
          refine refused_alike h hsays ?_
          rw [prepare, statement_unrefused (c := { c with transaction := some c.committed }) _ h.unrefused]
          simp only [Connection.visible, ht, Option.getD_some, hfind]
      | none =>
          rw [hfind] at hsays
          exact taken_alike h ht hsays (fun name hname => by simpa using List.find?_eq_none.mp hfind name hname) hrows

theorem lower_columnTypes : ∀ column ∈ columnTypes, Lower column.1 := by
  simp [columnTypes, Lower, Text.lower, Text.lowerChar]

/-- A sink that was opened on an empty database. -/
theorem opened_related (A : Affinity) (table path : String) (create : Bool) :
    (Sink.opened {} : Sink World).Related (methods table path create).backend (SameTable A []) Plain (.opened {}) where
  isOpen := rfl
  schema := rfl
  prepared := rfl
  store :=
    { quiet := rfl
      unrefused := rfl
      settled := rfl
      table := rfl
      columns := fun t ht => by cases ht
      rows := fun t ht => by cases ht
      missing := fun _ => ⟨rfl, rfl⟩ }
  scope columns hcolumns := by cases hcolumns

/-- The backend of the calls does what the connection does. -/
theorem related (A : Affinity) (before : List Row) (table path : String) (create : Bool) :
    (methods table path create).backend.Related (backend A table create) (SameTable A before) Plain Bindable where
  sinkName := rfl
  createTable := rfl
  columnType := rfl
  create hcolumns h := created_alike h hcolumns
  insert hcolumns hrows h := inserted_alike h hcolumns hrows

theorem locked_plain (samples : List Sample) :
    Plain ((methods table path create).backend.columnDefs (lockedColumns samples)) := by
  have hnames : ((methods table path create).backend.columnDefs (lockedColumns samples)).map Prod.fst =
      columnTypes.map Prod.fst := by
    rw [names_columnDefs]
    simp [lockedColumns, inferColumn_name, Function.comp_def]
  refine ⟨fun hnil => ?_, fun column hcolumn => ?_⟩
  · rw [hnil] at hnames
    cases hnames
  · have hname := List.mem_map_of_mem (f := Prod.fst) hcolumn
    rw [hnames] at hname
    obtain ⟨column', hcolumn', heq⟩ := List.mem_map.mp hname
    exact heq ▸ lower_columnTypes column' hcolumn'

/-- In every run of batches that can be bound, the sink of the calls and the sink of the transactions end each of them
alike, and the table holds what the calls were given. -/
theorem writes_alike (A : Affinity) {before : List Row} {sink : Sink World} {sink' : Sink Connection}
    (h : sink.Related (methods table path create).backend (SameTable A before) Plain sink')
    {batches : List (List Sample)} (hbatches : ∀ samples ∈ batches, ∀ s ∈ samples, ∀ e ∈ sampleToRow s, Bindable e.2) :
    (runAll (batches.map (methods table path create).backend.writeMany) sink).1 =
        (runAll (batches.map fun samples => Sinks.SqliteSink.writeMany A table create
          (samples.map Sinks.SqliteSink.fields)) sink').1 ∧
      (runAll (batches.map (methods table path create).backend.writeMany) sink).2.Related
        (methods table path create).backend (SameTable A before) Plain
        (runAll (batches.map fun samples => Sinks.SqliteSink.writeMany A table create
          (samples.map Sinks.SqliteSink.fields)) sink').2 := by
  refine runAll_alike ?_ h
  rw [List.forall₂_map_left_iff, List.forall₂_map_right_iff]
  refine List.forall₂_same.mpr fun samples hsamples s t hs => ?_
  rw [Sinks.SqliteSink.writeMany_fields]
  exact (related A before table path create).writeMany trivial locked_plain (hbatches samples hsamples) hs

end Lifecycle.SqliteSink

end SartoriusLib.Sinks
