import SartoriusLib.FloatText
import SartoriusLib.Sinks.Refusal

/-!
# The SQLite sink

One connection in autocommit mode: a statement outside of a transaction is committed at once, `BEGIN` opens a
transaction and `COMMIT` and `ROLLBACK` end it. The engine may refuse any statement but `ROLLBACK`, and a refusal
may end the transaction. A column takes a value of any type, and its declared type decides in which form.
-/

namespace SartoriusLib.Sinks.Sqlite

open SartoriusLib Lib Prog

/-- A value that reaches the engine as a number. -/
def IsNumber : Cell → Prop
  | .int _ | .bool _ => True
  | .float x => x ≠ .nan
  | .none | .str _ => False

instance : DecidablePred IsNumber
  | .int _ | .bool _ => isTrue trivial
  | .float _ => inferInstanceAs (Decidable (_ ≠ _))
  | .none | .str _ => isFalse id

/-- The type affinity of the engine: what a column holds of a value, by the declared type of the column. -/
structure Affinity where
  stored : String → Cell → Cell
  null : ∀ declType, stored declType .none = .none
  /-- A NaN is bound as `NULL`. -/
  nan : ∀ declType, stored declType (.float .nan) = .none
  real : ∀ x, x ≠ .nan → stored "REAL" (.float x) = .float x
  integer : ∀ n, stored "INTEGER" (.int n) = .int n
  text : ∀ s, stored "TEXT" (.str s) = .str s
  /-- A column of text holds the digits of a number. -/
  digits : ∀ cell, IsNumber cell → ∃ s, stored "TEXT" cell = .str s

/-- The affinity, as far as the values go that a sample has for a column the sink creates: of its own type, or any
in a column of text. -/
def Affinity.ofSink : Affinity where
  stored declType cell :=
    match cell with
    | .none => .none
    | .str s => .str s
    | .bool b => if declType = "TEXT" then .str (if b then "1" else "0") else .int (if b then 1 else 0)
    | .int n => if declType = "TEXT" then .str s!"{n}" else .int n
    | .float x =>
        if x = .nan then .none
        else if declType = "TEXT" then .str (String.ofList x.repr)
        else .float x
  null _ := rfl
  nan _ := rfl
  real x hx := by simp [hx]
  integer _ := rfl
  text _ := rfl
  digits cell hcell := by
    cases cell with
    | none => exact hcell.elim
    | str s => exact ⟨s, rfl⟩
    | int n => exact ⟨_, rfl⟩
    | bool b => exact ⟨_, rfl⟩
    | float x => exact ⟨String.ofList x.repr, by simp [show x ≠ .nan from hcell]⟩

/-- The row that a table with the columns holds. -/
def Affinity.row (A : Affinity) (columns : List ColumnDef) (row : Row) : Row :=
  row.map fun e => (e.1, A.stored ((Dict.get? columns e.1).getD "") e.2)

structure Fault where
  text : String
  endsTransaction : Bool := false
  deriving DecidableEq, Repr

structure Connection where
  committed : Option Table := none
  /-- What an open transaction sees. -/
  transaction : Option (Option Table) := none
  /-- What the engine does with the statements to come; past the end of the list it refuses none. -/
  faults : List (Option Fault) := []
  deriving DecidableEq, Repr

inductive Error where
  /-- `sqlite3.Error` -/
  | sqlite (text : String)
  /-- `OverflowError` -/
  | overflow
  deriving DecidableEq, Repr

namespace Connection

def visible (c : Connection) : Option Table := c.transaction.getD c.committed

def mapTable (f : Option Table → Option Table) (c : Connection) : Connection :=
  match c.transaction with
  | some table => { c with transaction := some (f table) }
  | none => { c with committed := f c.committed }

end Connection

/-! ## Statements -/

def statement (f : Connection → Except Error Connection) : Prog Error Connection PUnit :=
  ofFun fun c =>
    let run (c : Connection) : Except Error PUnit × Connection :=
      match f c with
      | .ok c' => (.ok ⟨⟩, c')
      | .error e => (.error e, c)
    match c.faults with
    | [] => run c
    | none :: faults => run { c with faults }
    | some fault :: faults =>
        (.error (.sqlite fault.text),
          { c with faults, transaction := if fault.endsTransaction then none else c.transaction })

/-- `CREATE TABLE IF NOT EXISTS` -/
def createTable (columns : List ColumnDef) : Prog Error Connection PUnit :=
  statement fun c => .ok (c.mapTable fun table => some (table.getD { columns }))

/-- `BEGIN IMMEDIATE` -/
def begin : Prog Error Connection PUnit :=
  statement fun c =>
    match c.transaction with
    | some _ => .error (.sqlite "cannot start a transaction within a transaction")
    | none => .ok { c with transaction := some c.committed }

def commit : Prog Error Connection PUnit :=
  statement fun c =>
    match c.transaction with
    | none => .error (.sqlite "cannot commit - no transaction is active")
    | some table => .ok { c with committed := table, transaction := none }

/-- `ROLLBACK` fails only where no transaction is active. -/
def rollback : Prog Error Connection PUnit :=
  ofFun fun c =>
    match c.transaction with
    | none => (.error (.sqlite "cannot rollback - no transaction is active"), c)
    | some _ => (.ok ⟨⟩, { c with transaction := none })

/-- The `INSERT` is compiled. -/
def prepare (table : String) (names : List String) : Prog Error Connection PUnit :=
  statement fun c =>
    match c.visible with
    | none => .error (.sqlite s!"no such table: {table}")
    | some t =>
        match names.find? fun name => !decide (name ∈ t.columns.map Prod.fst) with
        | some name => .error (.sqlite s!"table {table} has no column named {name}")
        | none => .ok c

/-- A value that can be bound to a parameter: an integer has 64 bits. -/
def Bindable : Cell → Prop
  | .int n => -(2 ^ 63 : Int) ≤ n ∧ n < 2 ^ 63
  | _ => True

instance : DecidablePred Bindable
  | .int _ => inferInstanceAs (Decidable (_ ∧ _))
  | .none | .float _ | .str _ | .bool _ => isTrue trivial

/-- The `INSERT` is run with the values of one row, once they are bound. -/
def insertRow (A : Affinity) (names : List String) (cells : List Cell) : Prog Error Connection PUnit :=
  if ∀ cell ∈ cells, Bindable cell then
    statement fun c =>
      .ok (c.mapTable fun table => table.map fun t => { t with rows := t.rows ++ [A.row t.columns (names.zip cells)] })
  else throw .overflow

def executemany (A : Affinity) (table : String) (names : List String) (records : List (List Cell)) :
    Prog Error Connection PUnit := do
  prepare table names
  forM records (insertRow A names)

/-! ## The sink -/

def columnType : PyType → String
  | .float => "REAL"
  | .int | .bool => "INTEGER"
  | .str => "TEXT"

/-- `_create_table_blocking` -/
def createTableBlocking (table : String) (columns : List ColumnDef) : Prog SinkExc Connection PUnit :=
  ofFun fun c =>
    match (createTable columns).exec c with
    | (.ok _, c') => (.ok ⟨⟩, c')
    | (.error .overflow, c') => (.error .overflowError, c')
    | (.error (.sqlite text), c') =>
        (.error (.writeError s!"SqliteSink: CREATE TABLE failed for {textRepr table}: {text}"), c')

/-- The statements of one transaction. -/
def insertBatch (A : Affinity) (table : String) (names : List String) (records : List (List Cell)) :
    Prog Error Connection PUnit := do
  begin
  executemany A table names records
  commit

/-- `_executemany_blocking`; a `ROLLBACK` that fails is only logged. -/
def executemanyBlocking (A : Affinity) (table : String) (names : List String) (records : List (List Cell)) :
    Prog SinkExc Connection PUnit :=
  ofFun fun c =>
    match (insertBatch A table names records).exec c with
    | (.ok _, c') => (.ok ⟨⟩, c')
    | (.error .overflow, c') => (.error .overflowError, c')
    | (.error (.sqlite text), c') =>
        (.error (.writeError s!"SqliteSink: INSERT into {textRepr table} failed: {text}"), (rollback.exec c').2)

/-- `tuple(fields[spec.name] for spec in columns)`; a projected row has every column. -/
def record (columns : List ColumnDef) (row : Row) : List Cell :=
  columns.map fun column => (Dict.get? row column.1).getD .none

def backend (A : Affinity) (table : String) (create : Bool) : Backend Connection where
  sinkName := "SqliteSink"
  createTable := create
  columnType
  create := createTableBlocking table
  insert columns rows := executemanyBlocking A table (columns.map Prod.fst) (rows.map (record columns))

/-! ## What a statement can do -/

/-- A statement runs, fails on its own account, or is refused. -/
theorem statement_cases (f : Connection → Except Error Connection) (c : Connection) :
    (∃ faults c', f { c with faults } = .ok c' ∧ (statement f).exec c = (.ok ⟨⟩, c')) ∨
    (∃ faults e, f { c with faults } = .error e ∧ (statement f).exec c = (.error e, { c with faults })) ∨
    ∃ (fault : Fault) (faults : List (Option Fault)), (statement f).exec c = (.error (.sqlite fault.text),
      { c with faults, transaction := if fault.endsTransaction then none else c.transaction }) := by
  obtain ⟨committed, transaction, faults⟩ := c
  rcases faults with _ | ⟨_ | fault, faults⟩
  · rcases h : f ⟨committed, transaction, []⟩ with e | c'
    · exact .inr (.inl ⟨[], e, h, by simp [statement, h]⟩)
    · exact .inl ⟨[], c', h, by simp [statement, h]⟩
  · rcases h : f ⟨committed, transaction, faults⟩ with e | c'
    · exact .inr (.inl ⟨faults, e, h, by simp [statement, h]⟩)
    · exact .inl ⟨faults, c', h, by simp [statement, h]⟩
  · exact .inr (.inr ⟨fault, faults, rfl⟩)

theorem statement_ok {f : Connection → Except Error Connection} {c c' : Connection} {u : PUnit}
    (h : (statement f).exec c = (.ok u, c')) : ∃ faults, f { c with faults } = .ok c' := by
  rcases statement_cases f c with ⟨faults, c₁, hf, hx⟩ | ⟨_, _, _, hx⟩ | ⟨_, _, hx⟩ <;> rw [h] at hx <;> cases hx
  exact ⟨faults, hf⟩

/-- A statement that fails commits nothing. -/
theorem statement_error {f : Connection → Except Error Connection} {c c' : Connection} {e : Error}
    (h : (statement f).exec c = (.error e, c')) :
    c'.committed = c.committed ∧ (c'.transaction = c.transaction ∨ c'.transaction = none) := by
  rcases statement_cases f c with ⟨_, _, _, hx⟩ | ⟨_, _, _, hx⟩ | ⟨fault, _, hx⟩ <;> rw [h] at hx <;> cases hx
  · exact ⟨rfl, .inl rfl⟩
  · refine ⟨rfl, ?_⟩
    dsimp only
    split
    · exact .inr rfl
    · exact .inl rfl

/-- Without refusals a statement does what it says. -/
theorem statement_unrefused (f : Connection → Except Error Connection) {c : Connection} (h : c.faults = []) :
    (statement f).exec c = match f c with
      | .ok c' => (.ok ⟨⟩, c')
      | .error e => (.error e, c) := by
  obtain ⟨committed, transaction, faults⟩ := c
  cases h
  rfl

/-! ## A batch -/

section

variable {A : Affinity} {c c' : Connection} {tx : Option Table} {table : String} {names : List String}
  {records : List (List Cell)} {e : Error} {u : PUnit}

/-- The table with the rows of a batch. -/
def appended (A : Affinity) (names : List String) (records : List (List Cell)) (t : Table) : Table :=
  { t with rows := t.rows ++ records.map fun cells => A.row t.columns (names.zip cells) }

theorem insertRow_ok {cells : List Cell} (hc : c.transaction = some tx)
    (h : (insertRow A names cells).exec c = (.ok u, c')) :
    c'.committed = c.committed ∧ c'.transaction = some (tx.map (appended A names [cells])) := by
  unfold insertRow at h
  split at h
  · obtain ⟨faults, hf⟩ := statement_ok h
    cases hf
    simp only [Connection.mapTable, hc, true_and]
    rfl
  · cases h

theorem insertRow_error {cells : List Cell} (h : (insertRow A names cells).exec c = (.error e, c')) :
    c'.committed = c.committed ∧ (c'.transaction = c.transaction ∨ c'.transaction = none) := by
  unfold insertRow at h
  split at h
  · exact statement_error h
  · cases h
    exact ⟨rfl, .inl rfl⟩

theorem insertRows_error (hc : c.transaction = some tx)
    (h : (forM records (insertRow A names)).exec c = (.error e, c')) : c'.committed = c.committed := by
  induction records generalizing c tx with
  | nil => cases h
  | cons cells records ih =>
      rw [List.forM_cons] at h
      rcases hrow : (insertRow A names cells).exec c with ⟨e' | _, c₁⟩
      · rw [exec_bind_error hrow] at h
        cases h
        exact (insertRow_error hrow).1
      · rw [exec_bind_ok hrow] at h
        obtain ⟨hcommitted, htransaction⟩ := insertRow_ok hc hrow
        exact (ih htransaction h).trans hcommitted

theorem insertRows_ok (hc : c.transaction = some tx)
    (h : (forM records (insertRow A names)).exec c = (.ok u, c')) :
    c'.committed = c.committed ∧ c'.transaction = some (tx.map (appended A names records)) := by
  induction records generalizing c tx with
  | nil =>
      cases h
      refine ⟨rfl, ?_⟩
      rw [hc]
      cases tx <;> simp [appended]
  | cons cells records ih =>
      rw [List.forM_cons] at h
      obtain ⟨_, c₁, hrow, hrest⟩ := exec_bind_eq_ok.mp h
      obtain ⟨hcommitted, htransaction⟩ := insertRow_ok hc hrow
      obtain ⟨hcommitted', htransaction'⟩ := ih htransaction hrest
      refine ⟨hcommitted'.trans hcommitted, htransaction'.trans ?_⟩
      cases tx <;> simp [appended]

theorem prepare_ok (h : (prepare table names).exec c = (.ok u, c')) :
    c'.committed = c.committed ∧ c'.transaction = c.transaction ∧ ∃ t, c.visible = some t := by
  obtain ⟨faults, hf⟩ := statement_ok h
  split at hf
  · cases hf
  · split at hf
    · cases hf
    · cases hf
      exact ⟨rfl, rfl, _, ‹_›⟩

theorem begin_ok (h : begin.exec c = (.ok u, c')) :
    c.transaction = none ∧ c'.committed = c.committed ∧ c'.transaction = some c.committed := by
  obtain ⟨faults, hf⟩ := statement_ok h
  dsimp only at hf
  split at hf
  · cases hf
  · cases hf
    exact ⟨‹_›, rfl, rfl⟩

theorem commit_ok (hc : c.transaction = some tx) (h : commit.exec c = (.ok u, c')) :
    c'.committed = tx ∧ c'.transaction = none := by
  obtain ⟨faults, hf⟩ := statement_ok h
  dsimp only at hf
  rw [hc] at hf
  cases hf
  exact ⟨rfl, rfl⟩

/-- A batch that fails commits nothing. -/
theorem insertBatch_error (h : (insertBatch A table names records).exec c = (.error e, c')) :
    c'.committed = c.committed := by
  rw [insertBatch] at h
  rcases hb : begin.exec c with ⟨e' | _, c₁⟩
  · rw [exec_bind_error hb] at h
    cases h
    exact (statement_error hb).1
  rw [exec_bind_ok hb, executemany, bind_assoc] at h
  obtain ⟨-, hcommitted, htransaction⟩ := begin_ok hb
  rcases hp : (prepare table names).exec c₁ with ⟨e' | _, c₂⟩
  · rw [exec_bind_error hp] at h
    cases h
    exact (statement_error hp).1.trans hcommitted
  rw [exec_bind_ok hp] at h
  obtain ⟨hcommitted₂, htransaction₂, -⟩ := prepare_ok hp
  rcases hr : (forM records (insertRow A names)).exec c₂ with ⟨e' | _, c₃⟩
  · rw [exec_bind_error hr] at h
    cases h
    exact (insertRows_error (htransaction₂.trans htransaction) hr).trans (hcommitted₂.trans hcommitted)
  rw [exec_bind_ok hr] at h
  obtain ⟨hcommitted₃, -⟩ := insertRows_ok (htransaction₂.trans htransaction) hr
  exact (statement_error h).1.trans (hcommitted₃.trans (hcommitted₂.trans hcommitted))

/-- A batch that returns has all its rows in the table. -/
theorem insertBatch_ok (h : (insertBatch A table names records).exec c = (.ok u, c')) :
    c'.transaction = none ∧ ∃ t, c.committed = some t ∧ c'.committed = some (appended A names records t) := by
  obtain ⟨_, c₁, hb, h⟩ := exec_bind_eq_ok.mp h
  obtain ⟨_, c₃, h₃, hc⟩ := exec_bind_eq_ok.mp h
  obtain ⟨_, c₂, hp, hr⟩ := exec_bind_eq_ok.mp h₃
  obtain ⟨-, -, htransaction⟩ := begin_ok hb
  obtain ⟨-, htransaction₂, t, ht⟩ := prepare_ok hp
  have hvisible : c.committed = some t := by simpa [Connection.visible, htransaction] using ht
  obtain ⟨-, htransaction₃⟩ := insertRows_ok (htransaction₂.trans htransaction) hr
  obtain ⟨hcommitted, hnone⟩ := commit_ok htransaction₃ hc
  exact ⟨hnone, t, hvisible, by rw [hcommitted, hvisible]; rfl⟩

/-- The transaction of a batch that the engine refused is rolled back. -/
theorem executemanyBlocking_settled {r : Except SinkExc PUnit}
    (h : (executemanyBlocking A table names records).exec c = (r, c')) (hr : r ≠ .error .overflowError) :
    c'.transaction = none := by
  simp only [executemanyBlocking, exec_ofFun] at h
  rcases hb : (insertBatch A table names records).exec c with ⟨(text | _) | _, c₁⟩ <;> rw [hb] at h <;> cases h
  · unfold rollback
    rw [exec_ofFun]
    split
    · assumption
    · rfl
  · exact absurd rfl hr
  · exact (insertBatch_ok hb).1

theorem executemanyBlocking_error {e : SinkExc}
    (h : (executemanyBlocking A table names records).exec c = (.error e, c')) : c'.committed = c.committed := by
  simp only [executemanyBlocking, exec_ofFun] at h
  rcases hb : (insertBatch A table names records).exec c with ⟨(text | _) | _, c₁⟩ <;> rw [hb] at h <;> cases h
  · have hcommitted := insertBatch_error hb
    unfold rollback
    rw [exec_ofFun]
    split <;> exact hcommitted
  · exact insertBatch_error hb

end

/-! ## The store -/

/-- A table takes rows whose columns it has and whose values can be bound; its types refuse none. -/
def Accepts (columns : List ColumnDef) (row : Row) : Prop :=
  (∀ name ∈ Dict.keys row, name ∈ columns.map Prod.fst) ∧ ∀ e ∈ row, Bindable e.2

instance (columns : List ColumnDef) (row : Row) : Decidable (Accepts columns row) :=
  inferInstanceAs (Decidable (_ ∧ _))

section

variable {A : Affinity} {c c' : Connection} {table : String} {names : List String} {records : List (List Cell)}
  {u : PUnit} {columns : List ColumnDef} {rows : List Row} {row : Row} {t : Table}

theorem record_eq (hn : (columns.map Prod.fst).Nodup) (hk : Dict.keys row = columns.map Prod.fst) :
    record columns row = row.map Prod.snd := by
  have hrow := Dict.map_get?_keys (hk ▸ hn : (Dict.keys row).Nodup) Cell.none
  calc record columns row
      = ((columns.map Prod.fst).map fun k => (k, (Dict.get? row k).getD .none)).map Prod.snd := by
        simp [record, Function.comp_def]
    _ = row.map Prod.snd := by rw [← hk, hrow]

theorem zip_record (hn : (columns.map Prod.fst).Nodup) (hk : Dict.keys row = columns.map Prod.fst) :
    (columns.map Prod.fst).zip (record columns row) = row := by
  rw [record_eq hn hk, ← hk, Dict.keys, List.zip_map']
  simp

theorem zip_records (h : RowsOf columns rows) :
    (rows.map (record columns)).map (columns.map Prod.fst).zip = rows := by
  rw [List.map_map]
  conv_rhs => rw [← List.map_id rows]
  exact List.map_congr_left fun row hrow => zip_record h.nodup (h.keys row hrow)

theorem appended_records (A : Affinity) (h : RowsOf columns rows) (t : Table) :
    appended A (columns.map Prod.fst) (rows.map (record columns)) t =
      { t with rows := t.rows ++ rows.map (A.row t.columns) } := by
  have hrows := congrArg (List.map (A.row t.columns)) (zip_records h)
  rw [List.map_map] at hrows
  exact congrArg (fun stored => { t with rows := t.rows ++ stored }) hrows

theorem prepare_names (h : (prepare table names).exec c = (.ok u, c')) (hv : c.visible = some t) :
    ∀ name ∈ names, name ∈ t.columns.map Prod.fst := by
  obtain ⟨faults, hf⟩ := statement_ok h
  rw [show Connection.visible { c with faults } = some t from hv] at hf
  split at hf
  · cases hf
  next hv' =>
    cases hv'
    split at hf
    · cases hf
    next hfind =>
      intro name hname
      simpa using List.find?_eq_none.mp hfind name hname

theorem prepare_unrefused (table : String) (hc : c.faults = []) (hv : c.visible = some t)
    (h : ∀ name ∈ names, name ∈ t.columns.map Prod.fst) : (prepare table names).exec c = (.ok ⟨⟩, c) := by
  have hfind : names.find? (fun name => !decide (name ∈ t.columns.map Prod.fst)) = none :=
    List.find?_eq_none.mpr fun name hname => by simpa using h name hname
  rw [prepare, statement_unrefused _ hc, hv]
  simp only [hfind]

theorem insertRows_bindable (h : (forM records (insertRow A names)).exec c = (.ok u, c')) :
    ∀ cells ∈ records, ∀ cell ∈ cells, Bindable cell := by
  induction records generalizing c with
  | nil => exact fun _ hin => absurd hin List.not_mem_nil
  | cons cells records ih =>
      rw [List.forM_cons] at h
      obtain ⟨_, c₁, hrow, hrest⟩ := exec_bind_eq_ok.mp h
      unfold insertRow at hrow
      split at hrow
      · next hcells => exact List.forall_mem_cons.mpr ⟨hcells, ih hrest⟩
      · cases hrow

theorem insertRows_unrefused (A : Affinity) (names : List String) (hc : c.faults = [])
    (h : ∀ cells ∈ records, ∀ cell ∈ cells, Bindable cell) :
    ∃ c', (forM records (insertRow A names)).exec c = (.ok ⟨⟩, c') ∧ c'.faults = [] := by
  induction records generalizing c with
  | nil => exact ⟨c, rfl, hc⟩
  | cons cells records ih =>
      obtain ⟨hcells, hrest⟩ := List.forall_mem_cons.mp h
      have hrow : ∃ c₁, (insertRow A names cells).exec c = (.ok ⟨⟩, c₁) ∧ c₁.faults = [] := by
        rw [insertRow, if_pos hcells, statement_unrefused _ hc]
        refine ⟨_, rfl, ?_⟩
        unfold Connection.mapTable
        split <;> exact hc
      obtain ⟨c₁, hrow, hc₁⟩ := hrow
      obtain ⟨c', hx, hc'⟩ := ih hc₁ hrest
      exact ⟨c', by rw [List.forM_cons, exec_bind_ok hrow, hx], hc'⟩

/-- A recovered connection writes a batch exactly when its table takes every row. -/
theorem insertBatch_accepts (A : Affinity) (table : String) (hs : c.transaction = none) (hc : c.faults = [])
    (ht : c.committed = some t) (hr : RowsOf columns rows) :
    (∃ c', (insertBatch A table (columns.map Prod.fst) (rows.map (record columns))).exec c = (.ok ⟨⟩, c')) ↔
      ∀ row ∈ rows, Accepts t.columns row := by
  have hbegin : begin.exec c = (.ok ⟨⟩, { c with transaction := some c.committed }) := by
    rw [begin, statement_unrefused _ hc, hs]
  have hvisible : Connection.visible { c with transaction := some c.committed } = some t := ht
  constructor
  · rintro ⟨c', h⟩ row hrow
    rw [insertBatch, exec_bind_ok hbegin] at h
    obtain ⟨_, c₃, h₃, -⟩ := exec_bind_eq_ok.mp h
    obtain ⟨_, c₂, hp, hrows⟩ := exec_bind_eq_ok.mp h₃
    refine ⟨hr.keys row hrow ▸ prepare_names hp hvisible, ?_⟩
    have hcells := insertRows_bindable hrows _ (List.mem_map_of_mem hrow)
    rw [record_eq hr.nodup (hr.keys row hrow)] at hcells
    exact fun e he => hcells e.2 (List.mem_map_of_mem he)
  · intro h
    obtain ⟨row, hrow⟩ := List.exists_mem_of_ne_nil rows hr.nonempty
    have hnames : ∀ name ∈ columns.map Prod.fst, name ∈ t.columns.map Prod.fst :=
      hr.keys row hrow ▸ (h row hrow).1
    have hprepare := prepare_unrefused table (c := { c with transaction := some c.committed }) hc
      hvisible hnames
    have hcells : ∀ cells ∈ rows.map (record columns), ∀ cell ∈ cells, Bindable cell := by
      intro cells hcells cell hcell
      obtain ⟨row, hrow, rfl⟩ := List.mem_map.mp hcells
      rw [record_eq hr.nodup (hr.keys row hrow)] at hcell
      obtain ⟨e, he, rfl⟩ := List.mem_map.mp hcell
      exact (h row hrow).2 e he
    obtain ⟨c₃, hrows, hc₃⟩ := insertRows_unrefused A (columns.map Prod.fst)
      (c := { c with transaction := some c.committed }) hc hcells
    obtain ⟨-, htransaction⟩ := insertRows_ok rfl hrows
    refine ⟨{ c₃ with
      committed := c.committed.map (appended A (columns.map Prod.fst) (rows.map (record columns))),
      transaction := none }, ?_⟩
    rw [insertBatch, exec_bind_ok hbegin, executemany, bind_assoc, exec_bind_ok hprepare, exec_bind_ok hrows,
      commit, statement_unrefused _ hc₃, htransaction]

end

/-! ## A creation -/

section

variable {c c' : Connection} {table : String} {columns : List ColumnDef} {u : PUnit}

theorem createTable_ok (hs : c.transaction = none) (h : (createTable columns).exec c = (.ok u, c')) :
    c'.transaction = none ∧ c'.committed = some (c.committed.getD { columns }) := by
  obtain ⟨faults, hf⟩ := statement_ok h
  cases hf
  simp [Connection.mapTable, hs]

theorem createTableBlocking_settled (hs : c.transaction = none) :
    ((createTableBlocking table columns).exec c).2.transaction = none := by
  rw [createTableBlocking, exec_ofFun]
  rcases h : (createTable columns).exec c with ⟨(_ | _) | _, c'⟩
  · exact (statement_error h).2.elim (·.trans hs) id
  · exact (statement_error h).2.elim (·.trans hs) id
  · exact (createTable_ok hs h).1

theorem createTableBlocking_ok (h : (createTableBlocking table columns).exec c = (.ok u, c')) :
    (createTable columns).exec c = (.ok u, c') := by
  rw [createTableBlocking, exec_ofFun] at h
  rcases hx : (createTable columns).exec c with ⟨(_ | _) | _, c'⟩ <;> rw [hx] at h <;> cases h
  rfl

end

/-- The connection as the store of a sink that creates its table. -/
def store (A : Affinity) (table : String) : TableStore Connection where
  toBackend := backend A table true
  table c := c.committed
  Settled c := c.transaction = none
  recover c := { c with faults := [] }
  accepts := Accepts
  stored := A.row
  keeps := true
  creates := rfl
  recover_settled h := h
  recover_table _ := rfl
  recover_recover _ := rfl
  create_settled _ hs := createTableBlocking_settled hs
  create_table hs hx := (createTable_ok hs (createTableBlocking_ok hx)).2
  create_recover {c} columns hs := by
    refine ⟨⟨⟩, { c with committed := some (c.committed.getD { columns }), faults := [] }, ?_, rfl⟩
    obtain ⟨committed, transaction, faults⟩ := c
    cases hs
    rfl
  insert_settled _ hx hr := executemanyBlocking_settled hx hr
  insert_error _ hx := executemanyBlocking_error hx
  insert_ok {c c' columns rows u} _ hr hx := by
    simp only [backend, executemanyBlocking, exec_ofFun] at hx
    rcases hb : (insertBatch A table (columns.map Prod.fst) (rows.map (record columns))).exec c with
      ⟨(_ | _) | _, c₁⟩ <;> rw [hb] at hx <;> cases hx
    obtain ⟨-, t, ht, ht'⟩ := insertBatch_ok hb
    exact ⟨t, ht, ht'.trans (congrArg some (appended_records A hr t))⟩
  insert_accepts {c t columns rows} hs hrec ht hr := by
    have hc : c.faults = [] := (congrArg Connection.faults hrec).symm
    refine Iff.trans ?_ (insertBatch_accepts A table hs hc ht hr)
    simp only [backend, executemanyBlocking, exec_ofFun]
    rcases (insertBatch A table (columns.map Prod.fst) (rows.map (record columns))).exec c with ⟨(_ | _) | _, c₁⟩
    · simp [Except.isOk, Except.toBool]
    · simp [Except.isOk, Except.toBool]
    · simp [Except.isOk, Except.toBool]

end SartoriusLib.Sinks.Sqlite
