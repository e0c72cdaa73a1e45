import SartoriusLib.Sinks.Backend

/-!
# A refused write and the next one

A sink whose store refuses a write may be asked to write again when the store has recovered. What the next call
finds depends on where the first one failed: the schema is locked before anything is created.
-/

namespace SartoriusLib.Sinks

open SartoriusLib Lib Prog

variable {W : Type}

/-- The table after a successful creation: one that exists is kept, or it is replaced. -/
def created (keeps : Bool) (table : Option Table) (columns : List ColumnDef) : Table :=
  if keeps then table.getD { columns } else { columns }

theorem created_rows (keeps : Bool) (table : Option Table) (columns columns' : List ColumnDef) :
    (created keeps table columns).rows = (created keeps table columns').rows := by
  cases keeps <;> cases table <;> rfl

/-- Rows that have the columns, and no column twice; there is a column and a row at least. -/
structure RowsOf (columns : List ColumnDef) (rows : List Row) : Prop where
  nodup : (columns.map Prod.fst).Nodup
  keys : ∀ row ∈ rows, Dict.keys row = columns.map Prod.fst
  columns_nonempty : columns ≠ []
  nonempty : rows ≠ []

/-- A backend whose store holds one table. `Settled` says that no call has left anything open on the connection,
`recover` is the store once it refuses nothing, `accepts` what it takes then, and `stored` in which form. -/
structure TableStore (W : Type) extends Backend W where
  table : W → Option Table
  Settled : W → Prop
  recover : W → W
  accepts : List ColumnDef → Row → Prop
  stored : List ColumnDef → Row → Row
  /-- Creation keeps a table that exists. -/
  keeps : Bool
  creates : createTable = true
  recover_settled : ∀ {w}, Settled w → Settled (recover w)
  recover_table : ∀ w, table (recover w) = table w
  recover_recover : ∀ w, recover (recover w) = recover w
  create_settled : ∀ {w} columns, Settled w → Settled ((create columns).exec w).2
  create_table : ∀ {w w' columns u}, Settled w → (create columns).exec w = (.ok u, w') →
    table w' = some (created keeps (table w) columns)
  create_recover : ∀ {w} columns, Settled w →
    ∃ u w', (create columns).exec (recover w) = (.ok u, w') ∧ recover w' = w'
  insert_settled : ∀ {w w' columns rows r}, Settled w → (insert columns rows).exec w = (r, w') →
    r ≠ .error .overflowError → Settled w'
  insert_error : ∀ {w w' columns rows e}, Settled w → (insert columns rows).exec w = (.error e, w') →
    table w' = table w
  insert_ok : ∀ {w w' columns rows u}, Settled w → RowsOf columns rows →
    (insert columns rows).exec w = (.ok u, w') →
      ∃ t, table w = some t ∧ table w' = some { t with rows := t.rows ++ rows.map (stored t.columns) }
  insert_accepts : ∀ {w t columns rows}, Settled w → recover w = w → table w = some t → RowsOf columns rows →
    (((insert columns rows).exec w).1.isOk = true ↔ ∀ row ∈ rows, accepts t.columns row)

/-- The exceptions by which a sink reports that its store refused. -/
def SinkExc.Refused : SinkExc → Prop
  | .library e => e.isinstance .sinkWriteError = true
  | .store _ => True
  | .overflowError => False

namespace TableStore

variable (T : TableStore W)

/-- The states of an open sink: what happens to the store between two calls is arbitrary, and no call was ended
by a value that could not be converted. -/
inductive Reached : Sink W → Prop
  | opened {w : W} : T.Settled w → Reached (.opened w)
  | changed {sink : Sink W} {w : W} : Reached sink → T.Settled w → Reached { sink with store := w }
  | wrote {sink sink' : Sink W} {samples : List Sample} {r : Except SinkExc PUnit} : Reached sink →
      (T.writeMany samples).exec sink = (r, sink') → r ≠ .error .overflowError → Reached sink'

/-- The rows of the table. -/
def rows (w : W) : List Row := (T.table w).elim [] Table.rows

/-- The sink with its store recovered. -/
def recovered (sink : Sink W) : Sink W := { sink with store := T.recover sink.store }

/-- The table that a call meets. -/
def meets (sink : Sink W) (samples : List Sample) : Option Table :=
  if sink.schema.columns.isNone then some (created T.keeps (T.table sink.store) (T.defsFor samples))
  else T.table sink.store

/-- The recovered store takes the batch. -/
def Takes (sink : Sink W) (samples : List Sample) : Prop :=
  ∃ t ∈ T.meets sink samples, ∀ s ∈ samples, T.accepts t.columns (sampleToRow s)

/-- From `after`, with the store recovered, the batch is written, and the table has the rows that it has when the
batch is written from `before`. -/
def AsIfNot (before after : Sink W) (later : List Sample) : Prop :=
  ((T.writeMany later).exec (T.recovered after)).1.isOk = true ∧
    T.rows ((T.writeMany later).exec (T.recovered after)).2.store =
      T.rows ((T.writeMany later).exec (T.recovered before)).2.store

/-- The columns of the table that a first batch creates, or finds. -/
def columnsFor (before : Sink W) (first : List Sample) : List ColumnDef :=
  (created T.keeps (T.table before.store) (T.defsFor first)).columns

/-- The failed call was not the first, or its table was created, and it takes the later batch in the form in which
one that was created for it does. -/
def Harmless (before : Sink W) (failed later : List Sample) : Prop :=
  before.schema.columns.isSome = true ∨
    (((T.create (T.defsFor failed)).exec before.store).1.isOk = true ∧
      ∀ s ∈ later, T.accepts (T.columnsFor before failed) (sampleToRow s) ∧
        T.stored (T.columnsFor before failed) (sampleToRow s) = T.stored (T.columnsFor before later) (sampleToRow s))

variable {T} {sink sink' : Sink W} {samples failed later : List Sample} {w w' : W}

theorem rowsOf_samples (first : List Sample) (h : samples ≠ []) :
    RowsOf (T.defsFor first) (samples.map sampleToRow) := by
  have hnames : (T.defsFor first).map Prod.fst = columnTypes.map Prod.fst := by
    simp [Backend.defsFor, Backend.columnDefs, lockedColumns, inferColumn_name, Function.comp_def]
  refine ⟨hnames ▸ columnTypes_nodup, ?_, ?_, by simpa using h⟩
  · intro row hrow
    obtain ⟨s, -, rfl⟩ := List.mem_map.mp hrow
    rw [keys_sampleToRow, hnames]
  · rintro hnil
    rw [hnil] at hnames
    cases hnames

/-- A sink is before its first batch, or its schema was locked by a batch. -/
theorem Reached.cases_stage (h : T.Reached sink) :
    (∃ w, T.Settled w ∧ sink = .opened w) ∨ ∃ first prepared w, T.Settled w ∧ sink = .locked first prepared w := by
  induction h with
  | opened hw => exact .inl ⟨_, hw, rfl⟩
  | changed _ hw ih =>
      rcases ih with ⟨_, _, rfl⟩ | ⟨first, prepared, _, _, rfl⟩
      · exact .inl ⟨_, hw, rfl⟩
      · exact .inr ⟨first, prepared, _, hw, rfl⟩
  | @wrote sink sink' samples r _ hx hr ih =>
      by_cases hnil : samples = []
      · subst hnil
        have hopen : sink.isOpen = true := by rcases ih with ⟨_, _, rfl⟩ | ⟨_, _, _, _, rfl⟩ <;> rfl
        rw [T.writeMany_nil hopen] at hx
        cases hx
        exact ih
      rcases ih with ⟨w, hw, rfl⟩ | ⟨first, prepared, w, hw, rfl⟩
      · rw [T.writeMany_opened w T.creates hnil] at hx
        have hs := T.create_settled (T.defsFor samples) hw
        rcases hc : (T.create (T.defsFor samples)).exec w with ⟨e | u, w₁⟩ <;> rw [hc] at hx hs
        · cases hx
          exact .inr ⟨samples, false, w₁, hs, rfl⟩
        · cases hx
          exact .inr ⟨samples, true, _, T.insert_settled hs rfl hr, rfl⟩
      · cases prepared with
        | false =>
            rw [T.writeMany_unprepared first w hnil] at hx
            cases hx
            exact .inr ⟨first, false, w, hw, rfl⟩
        | true =>
            rw [T.writeMany_prepared first w hnil] at hx
            cases hx
            exact .inr ⟨first, true, _, T.insert_settled hw rfl hr, rfl⟩

/-! ## The later call -/

/-- A recovered store that takes a batch has its rows at the end of the table. -/
theorem insert_takes {t : Table} (first : List Sample) (hl : samples ≠ []) (hw : T.Settled w) (hr : T.recover w = w)
    (ht : T.table w = some t) (ha : ∀ s ∈ samples, T.accepts t.columns (sampleToRow s)) :
    ∃ u w', (T.insert (T.defsFor first) (samples.map sampleToRow)).exec w = (.ok u, w') ∧
      T.rows w' = t.rows ++ (samples.map sampleToRow).map (T.stored t.columns) := by
  have hkeys := rowsOf_samples (T := T) first hl
  have hok := (T.insert_accepts hw hr ht hkeys).mpr (by simpa using ha)
  rcases hx : (T.insert (T.defsFor first) (samples.map sampleToRow)).exec w with ⟨e | u, w'⟩
  · rw [hx] at hok
    cases hok
  · obtain ⟨t', ht', hrows⟩ := T.insert_ok hw hkeys hx
    cases ht.symm.trans ht'
    exact ⟨u, w', rfl, by simp [rows, hrows]⟩

theorem write_prepared {t : Table} (first : List Sample) (hl : later ≠ []) (hw : T.Settled w)
    (ht : T.table w = some t) (ha : ∀ s ∈ later, T.accepts t.columns (sampleToRow s)) :
    ((T.writeMany later).exec (T.recovered (.locked first true w))).1.isOk = true ∧
      T.rows ((T.writeMany later).exec (T.recovered (.locked first true w))).2.store =
        t.rows ++ (later.map sampleToRow).map (T.stored t.columns) := by
  obtain ⟨u, w', hx, hrows⟩ := insert_takes first hl (T.recover_settled hw) (T.recover_recover w)
    ((T.recover_table w).trans ht) ha
  have hwrite := T.writeMany_prepared first (T.recover w) hl
  rw [hx] at hwrite
  rw [show T.recovered (.locked first true w) = .locked first true (T.recover w) from rfl, hwrite]
  exact ⟨rfl, hrows⟩

theorem write_opened (hl : later ≠ []) (hw : T.Settled w)
    (ha : ∀ s ∈ later, T.accepts (created T.keeps (T.table w) (T.defsFor later)).columns (sampleToRow s)) :
    T.rows ((T.writeMany later).exec (T.recovered (.opened w))).2.store =
      (created T.keeps (T.table w) (T.defsFor later)).rows ++
        (later.map sampleToRow).map (T.stored (created T.keeps (T.table w) (T.defsFor later)).columns) := by
  obtain ⟨u, w₁, hcreate, hr⟩ := T.create_recover (T.defsFor later) hw
  have htable := T.create_table (T.recover_settled hw) hcreate
  rw [T.recover_table] at htable
  have hsettled := T.create_settled (T.defsFor later) (T.recover_settled hw)
  rw [hcreate] at hsettled
  obtain ⟨u', w', hx, hrows⟩ := insert_takes later hl hsettled hr htable ha
  have hwrite := T.writeMany_opened (T.recover w) T.creates hl
  rw [hcreate] at hwrite
  dsimp only at hwrite
  rw [hx] at hwrite
  rw [show T.recovered (.opened w) = .opened (T.recover w) from rfl, hwrite]
  exact hrows

/-- A table that takes no later batch does not take it after the failed call either. -/
theorem accepts_of_write {t : Table} (first : List Sample) (hl : later ≠ []) (hw : T.Settled w)
    (ht : T.table w = some t)
    (hok : ((T.writeMany later).exec (T.recovered (.locked first true w))).1.isOk = true) :
    ∀ s ∈ later, T.accepts t.columns (sampleToRow s) := by
  rw [show T.recovered (.locked first true w) = .locked first true (T.recover w) from rfl,
    T.writeMany_prepared first (T.recover w) hl] at hok
  have haccepts := (T.insert_accepts (T.recover_settled hw) (T.recover_recover w)
    ((T.recover_table w).trans ht) (rowsOf_samples (T := T) first hl)).mp hok
  simpa using haccepts

/-! ## The refused call -/

/-- Nothing was created: the next call fails its assertion. -/
theorem asIfNot_uncreated {e : SinkExc} {w₁ : W} (hl : later ≠ [])
    (hc : (T.create (T.defsFor failed)).exec w = (.error e, w₁)) :
    T.AsIfNot (.opened w) (.locked failed false w₁) later ↔ T.Harmless (.opened w) failed later := by
  constructor
  · intro h
    have hstuck := T.writeMany_unprepared failed (T.recover w₁) hl
    have hreturns := h.1
    rw [show T.recovered (.locked failed false w₁) = .locked failed false (T.recover w₁) from rfl, hstuck]
      at hreturns
    cases hreturns
  · rintro (h | ⟨h, -⟩)
    · cases h
    · rw [show (Sink.opened w).store = w from rfl, hc] at h
      cases h

/-- The table was created, and the insert was refused. -/
theorem asIfNot_created {e : SinkExc} {u : PUnit} {w₁ w₂ : W} (hl : later ≠ []) (hw : T.Settled w)
    (hc : (T.create (T.defsFor failed)).exec w = (.ok u, w₁))
    (hi : (T.insert (T.defsFor failed) (failed.map sampleToRow)).exec w₁ = (.error e, w₂)) (hne : e ≠ .overflowError)
    (ha : ∀ s ∈ later, T.accepts (created T.keeps (T.table w) (T.defsFor later)).columns (sampleToRow s)) :
    T.AsIfNot (.opened w) (.locked failed true w₂) later ↔ T.Harmless (.opened w) failed later := by
  have hbefore := write_opened hl hw ha
  have hsettled := T.create_settled (T.defsFor failed) hw
  rw [hc] at hsettled
  have hsettled₂ := T.insert_settled hsettled hi (by simpa using hne)
  have htable : T.table w₂ = some (created T.keeps (T.table w) (T.defsFor failed)) :=
    (T.insert_error hsettled hi).trans (T.create_table hw hc)
  have hrowsEq := created_rows T.keeps (T.table w) (T.defsFor later) (T.defsFor failed)
  constructor
  · intro h
    have hacc := accepts_of_write failed hl hsettled₂ htable h.1
    obtain ⟨-, hrows⟩ := write_prepared failed hl hsettled₂ htable hacc
    have hsame := h.2
    rw [hrows, hbefore, hrowsEq, List.append_cancel_left_eq, List.map_map, List.map_map,
      List.map_inj_left] at hsame
    exact .inr ⟨by rw [show (Sink.opened w).store = w from rfl, hc]; rfl, fun s hs => ⟨hacc s hs, hsame s hs⟩⟩
  · rintro (h | ⟨-, htakes⟩)
    · cases h
    · obtain ⟨hok, hrows⟩ := write_prepared failed hl hsettled₂ htable fun s hs => (htakes s hs).1
      refine ⟨hok, ?_⟩
      rw [hrows, hbefore, hrowsEq, List.append_cancel_left_eq, List.map_map, List.map_map, List.map_inj_left]
      exact fun s hs => (htakes s hs).2

/-- A batch after the first was refused: the table and its columns are as they were. -/
theorem asIfNot_prepared {e : SinkExc} {first : List Sample} {w₁ : W} {t : Table} (hl : later ≠ [])
    (hw : T.Settled w)
    (hi : (T.insert (T.defsFor first) (failed.map sampleToRow)).exec w = (.error e, w₁)) (hne : e ≠ .overflowError)
    (ht : T.table w = some t) (ha : ∀ s ∈ later, T.accepts t.columns (sampleToRow s)) :
    T.AsIfNot (.locked first true w) (.locked first true w₁) later ↔
      T.Harmless (.locked first true w) failed later := by
  have hsettled := T.insert_settled hw hi (by simpa using hne)
  obtain ⟨hok, hrows⟩ := write_prepared first hl hsettled ((T.insert_error hw hi).trans ht) ha
  obtain ⟨-, hrows'⟩ := write_prepared first hl hw ht ha
  exact iff_of_true ⟨hok, hrows.trans hrows'.symm⟩ (.inl rfl)

theorem asIfNot_iff {e : SinkExc} (hs : T.Reached sink)
    (hx : (T.writeMany failed).exec sink = (.error e, sink')) (he : e.Refused) (hl : later ≠ [])
    (ht : T.Takes sink later) : T.AsIfNot sink sink' later ↔ T.Harmless sink failed later := by
  have hne : e ≠ .overflowError := by rintro rfl; exact he
  have hnil : failed ≠ [] := by
    rintro rfl
    have hopen : sink.isOpen = true := by
      rcases hs.cases_stage with ⟨_, _, rfl⟩ | ⟨_, _, _, _, rfl⟩ <;> rfl
    rw [T.writeMany_nil hopen] at hx
    cases hx
  obtain ⟨t, ht, ha⟩ := ht
  rcases hs.cases_stage with ⟨w, hw, rfl⟩ | ⟨first, prepared, w, hw, rfl⟩
  · have hmeets : created T.keeps (T.table w) (T.defsFor later) = t := Option.some.inj ht
    subst hmeets
    rw [T.writeMany_opened w T.creates hnil] at hx
    rcases hc : (T.create (T.defsFor failed)).exec w with ⟨e' | u, w₁⟩ <;> rw [hc] at hx
    · cases hx
      exact asIfNot_uncreated hl hc
    · dsimp only at hx
      rcases hi : (T.insert (T.defsFor failed) (failed.map sampleToRow)).exec w₁ with ⟨e' | u', w₂⟩ <;> rw [hi] at hx
      · cases hx
        exact asIfNot_created hl hw hc hi hne ha
      · cases hx
  · cases prepared with
    | false =>
        rw [T.writeMany_unprepared first w hnil] at hx
        cases hx
        cases he
    | true =>
        rw [T.writeMany_prepared first w hnil] at hx
        rcases hi : (T.insert (T.defsFor first) (failed.map sampleToRow)).exec w with ⟨e' | u', w₂⟩ <;> rw [hi] at hx
        · cases hx
          exact asIfNot_prepared hl hw hi hne ht ha
        · cases hx

end TableStore

end SartoriusLib.Sinks
