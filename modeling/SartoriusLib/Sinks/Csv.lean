import SartoriusLib.FloatText
import SartoriusLib.Lib.Csv
import SartoriusLib.Sinks.LockedTypes
import SartoriusLib.Sinks.Written

/-!
# The CSV sink

The sink fixes its columns on the first batch and writes one record for each sample; the file reads back as the
rows of the samples that were written since it was last opened.
-/

namespace SartoriusLib.Sinks

open SartoriusLib Lib Prog

/-! ## The sink -/

theorem comma_ne_quote : ',' ≠ '"' := by decide

theorem comma_not_break : ',' ≠ '\r' ∧ ',' ≠ '\n' := by decide

theorem quote_not_break : '"' ≠ '\r' ∧ '"' ≠ '\n' := by decide

/-- The default dialect of the `csv` module. -/
def excel : Csv.Dialect where
  delimiter := ','
  quotechar := '"'
  delimiter_ne_quotechar := comma_ne_quote
  delimiter_not_break := comma_not_break
  quotechar_not_break := quote_not_break

/-- `csv.field_size_limit()`, of a module whose limit was not set. -/
def fieldSizeLimit : Nat := 131072

/-- The field of a value: nothing for `None`, else `str(value)`. -/
def Cell.field : Cell → Text
  | .none => []
  | .float x => x.repr
  | .int n => n.repr.toList
  | .str s => s.toList
  | .bool b => if b then "True".toList else "False".toList

/-- The attributes of the sink and the text of its file. -/
structure CsvSink where
  contents : Text := []
  /-- The file is open. -/
  file : Bool := false
  /-- The field names of the writer. -/
  writer : Option (List String) := none
  columns : Option (List String) := none
  unknownColumnsWarned : List String := []
  deriving DecidableEq, Repr

namespace CsvSink

/-- `DictWriter.writerow`; a name without a value gets an empty field. -/
def writerow (fieldnames : List String) (row : Row) : Text :=
  excel.writeRow (fieldnames.map fun name => ((Dict.get? row name).map Cell.field).getD [])

def writeheader (fieldnames : List String) : Text := excel.writeRow (fieldnames.map String.toList)

/-- `open`; an existing file is overwritten. -/
def openFile : Py CsvSink PUnit :=
  modify fun sink => if sink.file then sink else { sink with file := true, contents := [] }

/-- The writer with the columns of the first row. -/
def prepare (rows : List Row) : Py CsvSink PUnit :=
  modify fun sink =>
    let columns := Dict.keys (rows.headD [])
    { sink with columns := some columns, writer := some columns, contents := sink.contents ++ writeheader columns }

/-- One row without its unknown columns, each of which is logged once. -/
def writeOne (columns fieldnames : List String) (sink : CsvSink) (row : Row) : CsvSink :=
  let unknown := (Dict.keys row).filter (· ∉ columns)
  { sink with
    unknownColumnsWarned := sink.unknownColumnsWarned ++ unknown.filter (· ∉ sink.unknownColumnsWarned)
    contents := sink.contents ++
      writerow fieldnames (columns.map fun k => (k, (Dict.get? row k).getD .none)) }

/-- The rows of a batch. -/
def writeRows (rows : List Row) : Py CsvSink PUnit := do
  let sink ← get
  match sink.columns, sink.writer with
  | some columns, some fieldnames => modify fun sink => rows.foldl (writeOne columns fieldnames) sink
  | _, _ => throw .assertionError

def writeMany (samples : List Sample) : Py CsvSink PUnit := do
  let sink ← get
  if !sink.file then throw (.runtimeError "CsvSink: write_many called before open()")
  else if samples = [] then pure ⟨⟩
  else do
    let rows := samples.map sampleToRow
    if sink.writer.isNone then prepare rows
    writeRows rows

def close : Py CsvSink PUnit :=
  modify fun sink => if sink.file then { sink with file := false, writer := none } else sink

def call : FileCall → Py CsvSink PUnit
  | .openFile => openFile
  | .writeMany samples => writeMany samples
  | .close => close

/-- The sink after some calls, each of which may have raised. -/
def runCalls (calls : List FileCall) : CsvSink := calls.foldl (fun sink c => ((call c).exec sink).2) {}

/-! ## The text of the file -/

def columnNames : List String := columnTypes.map Prod.fst

/-- The record of a sample: its values in the order of the columns. -/
def record (s : Sample) : Csv.Record := (sampleToRow s).map fun e => e.2.field

/-- The header and the records. -/
def table (samples : List Sample) : List Csv.Record :=
  if samples = [] then [] else columnNames.map String.toList :: samples.map record

/-- The sink holds what the abstract one holds, and its writer is there from the first sample on. -/
structure Holds (sink : CsvSink) (w : Written) : Prop where
  file : sink.file = w.isOpen
  contents : sink.contents = (table w.samples).flatMap excel.writeRow
  writer : sink.writer = if w.isOpen ∧ w.samples ≠ [] then some columnNames else none
  columns : ∀ names, sink.writer = some names → sink.columns = some names

variable {sink : CsvSink} {w : Written}

/-- A row keeps all of its values when it is filtered by its own columns. -/
theorem writerow_sample (s : Sample) :
    writerow columnNames (columnNames.map fun k => (k, (Dict.get? (sampleToRow s) k).getD .none)) =
      excel.writeRow (record s) := by
  have hkeys := keys_sampleToRow s
  have hnodup : (Dict.keys (sampleToRow s)).Nodup := hkeys ▸ columnTypes_nodup
  have hsame : (columnNames.map fun k => (k, (Dict.get? (sampleToRow s) k).getD .none)) = sampleToRow s := by
    rw [columnNames, ← hkeys]
    exact Dict.map_get?_keys hnodup .none
  rw [hsame, writerow, columnNames, ← hkeys, Dict.keys, List.map_map, record]
  congr 1
  refine List.map_congr_left fun e he => ?_
  rw [Function.comp_apply, Dict.get?_of_mem hnodup he]
  rfl

theorem writeOne_sample (sink : CsvSink) (s : Sample) :
    writeOne columnNames columnNames sink (sampleToRow s) =
      { sink with contents := sink.contents ++ excel.writeRow (record s) } := by
  have hknown : (Dict.keys (sampleToRow s)).filter (· ∉ columnNames) = [] := by
    rw [keys_sampleToRow, List.filter_eq_nil_iff]
    intro k hk
    rw [decide_eq_true_eq, not_not]
    exact hk
  rw [writeOne, hknown, writerow_sample]
  simp

theorem writeOne_samples (samples : List Sample) (sink : CsvSink) :
    (samples.map sampleToRow).foldl (writeOne columnNames columnNames) sink =
      { sink with contents := sink.contents ++ (samples.map record).flatMap excel.writeRow } := by
  induction samples generalizing sink with
  | nil => simp
  | cons s samples ih =>
      rw [List.map_cons, List.foldl_cons, writeOne_sample, ih]
      simp

/-- A batch after the first one. -/
theorem exec_writeRows (samples : List Sample) (hwriter : sink.writer = some columnNames)
    (hcolumns : sink.columns = some columnNames) :
    (writeRows (samples.map sampleToRow)).exec sink =
      (.ok ⟨⟩, { sink with contents := sink.contents ++ (samples.map record).flatMap excel.writeRow }) := by
  obtain ⟨contents, file, writer, columns, warned⟩ := sink
  cases hwriter
  cases hcolumns
  rw [writeRows, exec_bind_ok (exec_get _)]
  exact (exec_modify _ _).trans (by rw [writeOne_samples])

theorem exec_prepare {samples : List Sample} (hne : samples ≠ []) (sink : CsvSink) :
    (prepare (samples.map sampleToRow)).exec sink =
      (.ok ⟨⟩, { sink with
        columns := some columnNames
        writer := some columnNames
        contents := sink.contents ++ excel.writeRow (columnNames.map String.toList) }) := by
  obtain ⟨s, later, rfl⟩ := List.exists_cons_of_ne_nil hne
  have hkeys : Dict.keys (((s :: later).map sampleToRow).headD []) = columnNames := keys_sampleToRow s
  rw [prepare, exec_modify, hkeys]
  rfl

theorem table_append {done samples : List Sample} (hdone : done ≠ []) :
    table (done ++ samples) = table done ++ samples.map record := by
  rw [table, table, if_neg hdone, if_neg (by simp [hdone]), List.map_append]
  rfl

/-- A write to an open sink adds the records of the batch, after the header if there is none. -/
theorem Holds.writeMany (h : Holds sink w) (samples : List Sample) :
    Holds ((CsvSink.writeMany samples).exec sink).2 (w.step (.writeMany samples)) := by
  obtain ⟨isOpen, done⟩ := w
  have hfile : sink.file = isOpen := h.file
  have hcontents : sink.contents = (table done).flatMap excel.writeRow := h.contents
  have hwriter : sink.writer = if isOpen ∧ done ≠ [] then some columnNames else none := h.writer
  rw [CsvSink.writeMany, exec_bind_ok (exec_get _), hfile]
  cases isOpen with
  | false => exact h
  | true =>
      rw [if_neg (by simp)]
      by_cases hne : samples = []
      · rw [if_pos hne, hne]
        have hsame : Written.step ⟨true, done⟩ (.writeMany []) = ⟨true, done⟩ := by simp [Written.step]
        rw [hsame]
        exact h
      · rw [if_neg hne]
        dsimp only
        have hsome : ∀ l : List Sample, (if (true = true ∧ l ++ samples ≠ []) then some columnNames else none) =
            some columnNames := fun l => if_pos ⟨rfl, by simp [hne]⟩
        by_cases hfirst : done = []
        · rw [if_neg (by simp [hfirst])] at hwriter
          rw [hwriter, if_pos (by rfl), exec_bind_ok (exec_prepare hne sink), exec_writeRows samples rfl rfl]
          refine ⟨hfile, ?_, (hsome done).symm, fun names hnames => by cases hnames; rfl⟩
          have hheader : table (done ++ samples) = columnNames.map String.toList :: samples.map record := by
            rw [hfirst, List.nil_append, table, if_neg hne]
          have hempty : sink.contents = [] := by
            rw [hcontents, hfirst]
            rfl
          show sink.contents ++ _ ++ _ = (table (done ++ samples)).flatMap excel.writeRow
          rw [hheader, List.flatMap_cons, hempty, List.nil_append]
        · rw [if_pos ⟨rfl, hfirst⟩] at hwriter
          rw [hwriter, if_neg (by simp), exec_writeRows samples hwriter (h.columns _ hwriter)]
          refine ⟨hfile, ?_, hwriter.trans (hsome done).symm, h.columns⟩
          show sink.contents ++ _ = (table (done ++ samples)).flatMap excel.writeRow
          rw [table_append hfirst, List.flatMap_append, ← hcontents]

theorem Holds.openFile (h : Holds sink w) : Holds (CsvSink.openFile.exec sink).2 (w.step .openFile) := by
  obtain ⟨isOpen, done⟩ := w
  have hfile : sink.file = isOpen := h.file
  have hwriter : sink.writer = if isOpen ∧ done ≠ [] then some columnNames else none := h.writer
  rw [CsvSink.openFile, exec_modify, hfile]
  cases isOpen with
  | true => exact h
  | false =>
      rw [if_neg (by simp)] at hwriter
      exact ⟨rfl, rfl, hwriter, h.columns⟩

theorem Holds.close (h : Holds sink w) : Holds (CsvSink.close.exec sink).2 (w.step .close) := by
  obtain ⟨isOpen, done⟩ := w
  have hfile : sink.file = isOpen := h.file
  rw [CsvSink.close, exec_modify, hfile]
  cases isOpen with
  | true => exact ⟨rfl, h.contents, rfl, fun _ hnames => by cases hnames⟩
  | false => exact h

theorem Holds.call (h : Holds sink w) (c : FileCall) : Holds ((CsvSink.call c).exec sink).2 (w.step c) := by
  cases c with
  | openFile => exact h.openFile
  | writeMany samples => exact h.writeMany samples
  | close => exact h.close

theorem runCalls_holds (calls : List FileCall) : Holds (runCalls calls) (Written.run calls) :=
  Written.run_related (fun _ _ c h => h.call c) ⟨rfl, rfl, rfl, fun _ hnames => by cases hnames⟩ calls

/-! ## Reading the file -/

/-- `DictReader`: each record after the header with the names of its fields. -/
def dictRows : List Csv.Record → List (Dict Text Text)
  | [] => []
  | header :: records => records.map fun record => header.zip record

/-- The texts of the row of a sample. -/
def rowTexts (s : Sample) : Dict Text Text := (sampleToRow s).map fun e => (e.1.toList, e.2.field)

theorem dictRows_table (samples : List Sample) : dictRows (table samples) = samples.map rowTexts := by
  rw [table]
  by_cases hnil : samples = []
  · rw [if_pos hnil, hnil]
    rfl
  · rw [if_neg hnil, dictRows, List.map_map]
    refine List.map_congr_left fun s _ => ?_
    have hheader : columnNames.map String.toList = (sampleToRow s).map fun e => e.1.toList := by
      rw [columnNames, ← keys_sampleToRow s, Dict.keys, List.map_map]
      rfl
    rw [Function.comp_apply, hheader, record, List.zip_map', rowTexts]

/-- The reader of the `csv` module takes every value of the sample. -/
def Readable (s : Sample) : Prop := ∀ f ∈ record s, f.length ≤ fieldSizeLimit

instance (s : Sample) : Decidable (Readable s) := inferInstanceAs (Decidable (∀ _ ∈ _, _))

theorem table_readable {samples : List Sample} (h : ∀ s ∈ samples, Readable s) :
    ∀ fields ∈ table samples, ∀ f ∈ fields, f.length ≤ fieldSizeLimit := by
  intro fields hfields
  rw [table] at hfields
  split at hfields
  · exact absurd hfields List.not_mem_nil
  rcases List.mem_cons.mp hfields with rfl | hrecord
  · simp [columnNames, columnTypes, fieldSizeLimit]
  · obtain ⟨s, hs, rfl⟩ := List.mem_map.mp hrecord
    exact h s hs

theorem Holds.reads (h : Holds sink w) (hreadable : ∀ s ∈ w.samples, Readable s) :
    (excel.read fieldSizeLimit sink.contents).map dictRows = some (w.samples.map rowTexts) := by
  rw [h.contents, Csv.Dialect.read_writeRows _ (table_readable hreadable), Option.map_some, dictRows_table]

/-- After every run of calls, whatever the texts in the samples, as long as the reader takes their length, the file
reads back as a row for each sample written since it was last opened, in order and with all of its values. -/
theorem reads_back (calls : List FileCall) (hreadable : ∀ s ∈ (Written.run calls).samples, Readable s) :
    (excel.read fieldSizeLimit (runCalls calls).contents).map dictRows =
      some ((Written.run calls).samples.map rowTexts) :=
  (runCalls_holds calls).reads hreadable

/-- A sample of a device whose name has all the special characters. -/
def quotedSample : Sample := { failedSample with device := "scale \"A\", left\r\n" }

theorem reads_back_quoted :
    (excel.read fieldSizeLimit (runCalls [.openFile, .writeMany [quotedSample, gramSample], .close]).contents).map
      dictRows = some [rowTexts quotedSample, rowTexts gramSample] :=
  reads_back [.openFile, .writeMany [quotedSample, gramSample], .close] (by decide +kernel)

end CsvSink

end SartoriusLib.Sinks
