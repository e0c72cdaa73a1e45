import SartoriusLib.FloatText
import SartoriusLib.Lib.Json
import SartoriusLib.Sinks.LockedTypes
import SartoriusLib.Sinks.Written

/-!
# The JSONL sink

One object for each sample, on a line of its own. Unlike the records of a CSV file the objects keep the types of
the values: loading the lines gives the rows that were written.
-/

namespace SartoriusLib.Sinks

open SartoriusLib Lib Prog

/-! ## Values -/

/-- A literal with its sign. -/
def literalNumber (negative : Bool) (l : PyFloat.Literal) : Json.Number :=
  { negative, whole := l.whole, fraction := l.fraction, exponent := l.exponent.elim [] PyFloat.exponentText }

def literalOfAbs (q : Rat) : PyFloat.Literal := PyFloat.literalOf (PyFloat.digitsOf |q|).1 (PyFloat.digitsOf |q|).2

/-- `float.__repr__` with the words of JSON. -/
def floatScalar : PyFloat → Json.Scalar
  | .nan => .nan
  | .inf negative => .infinity negative
  | .fin q =>
      if q = 0 then .number { whole := ['0'], fraction := ['0'] }
      else .number (literalNumber (q < 0) (literalOfAbs q))

def intNumber (n : Int) : Json.Number := { negative := n < 0, whole := Nat.toDigits 10 n.natAbs }

/-- The value as `json.dumps` writes it. -/
def Cell.scalar : Cell → Json.Scalar
  | .none => .null
  | .float x => floatScalar x
  | .int n => .number (intNumber n)
  | .str s => .string s.toList
  | .bool b => .bool b

/-- A number with a fraction or an exponent is a float. -/
def numberCell (n : Json.Number) : Cell :=
  if n.fraction = [] ∧ n.exponent = [] then
    .int (if n.negative then -digitsValue n.whole else digitsValue n.whole)
  else .float (PyFloat.ofText n.text)

/-- The value that `json.loads` makes. -/
def scalarCell : Json.Scalar → Cell
  | .null => .none
  | .bool b => .bool b
  | .number n => numberCell n
  | .nan => .float .nan
  | .infinity negative => .float (.inf negative)
  | .string s => .str (String.ofList s)

/-- The members of a row. -/
def rowMembers (row : Row) : Json.Members := row.map fun e => (e.1.toList, e.2.scalar)

/-- The dictionary of the members; of two with one name the later one counts. -/
def membersRow (o : Json.Members) : Row := Dict.update [] (o.map fun m => (String.ofList m.1, scalarCell m.2))

/-- `json.loads(line)`. -/
def loadRow (line : Text) : Option Row := (Json.loads line).map membersRow

/-! ## The sink -/

structure JsonlSink where
  contents : Text := []
  /-- The file is open. -/
  file : Bool := false
  deriving DecidableEq, Repr

namespace JsonlSink

/-- `open`; an existing file is overwritten. -/
def openFile : Py JsonlSink PUnit :=
  modify fun sink => if sink.file then sink else { file := true }

/-- The line of a sample. -/
def line (sample : Sample) : Text := Json.dumps (rowMembers (sampleToRow sample)) ++ ['\n']

def writeOne (sink : JsonlSink) (sample : Sample) : JsonlSink := { sink with contents := sink.contents ++ line sample }

def writeMany (samples : List Sample) : Py JsonlSink PUnit := do
  let sink ← get
  if !sink.file then throw (.runtimeError "JsonlSink: write_many called before open()")
  else if samples = [] then pure ⟨⟩
  else modify fun sink => samples.foldl writeOne sink

def close : Py JsonlSink PUnit := modify fun sink => { sink with file := false }

def call : FileCall → Py JsonlSink PUnit
  | .openFile => openFile
  | .writeMany samples => writeMany samples
  | .close => close

/-- The sink after some calls, each of which may have raised. -/
def runCalls (calls : List FileCall) : JsonlSink := calls.foldl (fun sink c => ((call c).exec sink).2) {}

end JsonlSink

/-- `for line in f`: each line with its end, which is a line feed whatever it was in the file. -/
def fileLines : Text → List Text
  | [] => []
  | c :: t =>
      if c = '\n' then ['\n'] :: fileLines t
      else if c = '\r' then
        match t with
        | '\n' :: t => ['\n'] :: fileLines t
        | t => ['\n'] :: fileLines t
      else
        match fileLines t with
        | [] => [[c]]
        | l :: ls => (c :: l) :: ls

/-! ## Values are read back -/

/-- A float is one that Python can hold. -/
def Cell.IsPython (c : Cell) : Prop := ∀ x, c = .float x → x.IsDouble

theorem get?_latency (s : Sample) : Dict.get? (sampleToRow s) "latency_s" = some (.float s.latencyS) := by
  rw [sampleToRow_eq]
  rfl

theorem get?_value (s : Sample) :
    Dict.get? (sampleToRow s) "value" = some (ofOption .float (s.reading.bind Reading.value)) := by
  rw [sampleToRow_eq]
  rcases s with ⟨_, _ | reading⟩ <;> rfl

/-- The floats of a row are the latency and the value of the reading. -/
theorem float_mem_row {s : Sample} {e : String × Cell} {x : PyFloat} (he : e ∈ sampleToRow s) (hx : e.2 = .float x) :
    x = s.latencyS ∨ ∃ reading ∈ s.reading, x ∈ reading.value := by
  have hget := Dict.get?_of_mem (keys_sampleToRow s ▸ columnTypes_nodup) he
  obtain ⟨t, ht, hcell⟩ := sampleToRow_wellTyped s e he
  have hfloat : t = .float := by
    rcases hcell with h | h
    · rw [hx] at h
      cases h
    · rw [hx] at h
      exact (Option.some.inj h).symm
  subst hfloat
  have hname : e.1 = "latency_s" ∨ e.1 = "value" := by simpa [columnTypes] using ht
  rcases hname with hname | hname
  · rw [hname, hx, get?_latency] at hget
    cases hget
    exact .inl rfl
  · rw [hname, hx, get?_value] at hget
    cases hreading : s.reading with
    | none =>
        rw [hreading] at hget
        cases hget
    | some reading =>
        rw [hreading, Option.bind_some] at hget
        refine .inr ⟨reading, rfl, ?_⟩
        cases hvalue : reading.value with
        | none =>
            rw [hvalue] at hget
            cases hget
        | some y =>
            rw [hvalue] at hget
            cases hget
            rfl

theorem exponentText_isExponent (e : Int) : Json.IsExponent (PyFloat.exponentText e) := by
  refine ⟨'e', [if e < 0 then '-' else '+'], _, .inl rfl, .inr ⟨_, rfl, ?_⟩,
    (PyFloat.AllDigits.zeros _).append (PyFloat.AllDigits.toDigits _), ?_, rfl⟩
  · split <;> rfl
  · simp [Nat.toDigits_ne_nil]

theorem literalNumber_valid {l : PyFloat.Literal} (hl : l.Valid) (negative : Bool) :
    (literalNumber negative l).Valid := by
  refine ⟨hl.whole, hl.first, hl.fraction, ?_⟩
  rw [literalNumber]
  cases l.exponent with
  | none => exact .inl rfl
  | some e => exact .inr (exponentText_isExponent e)

theorem literalNumber_text (negative : Bool) (l : PyFloat.Literal) :
    (literalNumber negative l).text = (if negative then ['-'] else []) ++ l.text := by
  rw [Json.Number.text, PyFloat.Literal.text, literalNumber]
  simp only [List.append_assoc]

theorem literalOfAbs_valid {q : Rat} (hq : q ≠ 0) : (literalOfAbs q).Valid := by
  have hdigits := PyFloat.digitsOf_digits (abs_pos.mpr hq)
  exact PyFloat.literalOf_valid hdigits.all hdigits.head _

theorem floatScalar_valid (x : PyFloat) : (floatScalar x).Valid := by
  intro n hn
  cases x with
  | nan => cases hn
  | inf negative => cases hn
  | fin q =>
      by_cases hq : q = 0
      · rw [floatScalar, if_pos hq] at hn
        cases hn
        exact ⟨PyFloat.AllDigits.zeros 1, .inl rfl, PyFloat.AllDigits.zeros 1, .inl rfl⟩
      · rw [floatScalar, if_neg hq] at hn
        cases hn
        exact literalNumber_valid (literalOfAbs_valid hq) _

theorem intNumber_valid (n : Int) : (intNumber n).Valid := by
  refine ⟨PyFloat.AllDigits.toDigits _, ?_, fun _ hc => absurd hc List.not_mem_nil, .inl rfl⟩
  by_cases hzero : n.natAbs = 0
  · exact .inl (by rw [intNumber, hzero]; rfl)
  · exact .inr (PyFloat.toDigits_head (Nat.pos_of_ne_zero hzero))

theorem Cell.scalar_valid (c : Cell) : c.scalar.Valid := by
  cases c with
  | float x => exact floatScalar_valid x
  | int n =>
      rintro _ ⟨⟩
      exact intNumber_valid n
  | none => rintro _ ⟨⟩
  | str s => rintro _ ⟨⟩
  | bool b => rintro _ ⟨⟩

/-- The text of a finite float is its `repr`. -/
theorem floatScalar_text (q : Rat) : (floatScalar (.fin q)).text = (PyFloat.fin q).repr := by
  by_cases hq : q = 0
  · rw [floatScalar, if_pos hq, PyFloat.repr, if_pos hq]
    rfl
  · rw [floatScalar, if_neg hq, PyFloat.repr, if_neg hq]
    refine (literalNumber_text _ _).trans ?_
    rw [literalOfAbs]
    simp only [decide_eq_true_eq]

theorem scalarCell_float {x : PyFloat} (hx : x.IsDouble) : scalarCell (floatScalar x) = .float x := by
  cases x with
  | nan => rfl
  | inf negative => rfl
  | fin q =>
      have htext := floatScalar_text q
      have hread := PyFloat.ofText_repr hx
      by_cases hq : q = 0
      · rw [floatScalar, if_pos hq] at htext ⊢
        rw [← htext] at hread
        rw [scalarCell, numberCell, if_neg (by simp)]
        exact congrArg Cell.float hread
      · have hfloat := (literalOfAbs_valid hq).float
        rw [floatScalar, if_neg hq] at htext ⊢
        rw [← htext] at hread
        have hmarked : ¬ ((literalNumber (q < 0) (literalOfAbs q)).fraction = [] ∧
            (literalNumber (q < 0) (literalOfAbs q)).exponent = []) := by
          rintro ⟨hfraction, hexponent⟩
          rcases hfloat with h | h
          · exact h hfraction
          · obtain ⟨e, he⟩ := Option.ne_none_iff_exists'.mp h
            rw [literalNumber, he] at hexponent
            cases hexponent
        rw [scalarCell, numberCell, if_neg hmarked]
        exact congrArg Cell.float hread

theorem scalarCell_int (n : Int) : scalarCell (.number (intNumber n)) = .int n := by
  have hdigits : digitsValue (Nat.toDigits 10 n.natAbs) = n.natAbs := PyFloat.digitsValue_toDigits _
  rw [scalarCell, numberCell, if_pos ⟨rfl, rfl⟩, intNumber]
  simp only [hdigits, decide_eq_true_eq]
  congr 1
  split <;> omega

/-- A value is read back with its type. -/
theorem Cell.IsPython.reads {c : Cell} (hc : c.IsPython) : scalarCell c.scalar = c := by
  cases c with
  | none => rfl
  | bool b => rfl
  | str s => exact congrArg Cell.str (String.ofList_toList)
  | int n => exact scalarCell_int n
  | float x => exact scalarCell_float (hc x rfl)

theorem membersRow_rowMembers {row : Row} (hkeys : (Dict.keys row).Nodup) (hrow : ∀ e ∈ row, e.2.IsPython) :
    membersRow (rowMembers row) = row := by
  have hsame : ((rowMembers row).map fun m => (String.ofList m.1, scalarCell m.2)) = row := by
    rw [rowMembers, List.map_map]
    refine (List.map_congr_left fun e he => ?_).trans (List.map_id row)
    rw [Function.comp_apply, (hrow e he).reads, String.ofList_toList]
    rfl
  rw [membersRow, hsame, Dict.update_of_disjoint hkeys fun _ _ h => absurd h List.not_mem_nil, List.nil_append]

namespace JsonlSink

theorem members_valid (s : Sample) : ∀ m ∈ rowMembers (sampleToRow s), m.2.Valid := by
  intro m hm
  obtain ⟨e, -, rfl⟩ := List.mem_map.mp hm
  exact e.2.scalar_valid

/-- The line of a sample loads as its row. -/
theorem loadRow_line {s : Sample} (hs : ∀ e ∈ sampleToRow s, e.2.IsPython) :
    loadRow (line s) = some (sampleToRow s) := by
  have hkeys : (Dict.keys (sampleToRow s)).Nodup := keys_sampleToRow s ▸ columnTypes_nodup
  rw [loadRow, line, Json.loads_dumps (members_valid s) (by rfl), Option.map_some, membersRow_rowMembers hkeys hs]

/-! ## The file -/

theorem fileLines_append {l : Text} (hl : Json.Printable l) (t : Text) :
    fileLines (l ++ '\n' :: t) = (l ++ ['\n']) :: fileLines t := by
  induction l with
  | nil =>
      rw [List.nil_append, fileLines.eq_def]
      rfl
  | cons c l ih =>
      have hc : ¬ c < ' ' := hl c List.mem_cons_self
      have hfeed : c ≠ '\n' := by
        rintro rfl
        exact hc (by decide)
      have hreturn : c ≠ '\r' := by
        rintro rfl
        exact hc (by decide)
      rw [List.cons_append, fileLines.eq_def]
      simp only [if_neg hfeed, if_neg hreturn, ih fun d hd => hl d (List.mem_cons_of_mem c hd)]
      rfl

theorem fileLines_samples (samples : List Sample) : fileLines (samples.flatMap line) = samples.map line := by
  induction samples with
  | nil => rfl
  | cons s samples ih =>
      rw [List.flatMap_cons, line, List.append_assoc, List.singleton_append,
        fileLines_append (Json.dumps_printable (members_valid s)), ih]
      rfl

/-- The sink holds the lines of the samples that the abstract one holds. -/
structure Holds (sink : JsonlSink) (w : Written) : Prop where
  file : sink.file = w.isOpen
  contents : sink.contents = w.samples.flatMap line

variable {sink : JsonlSink} {w : Written}

theorem writeOne_samples (samples : List Sample) (sink : JsonlSink) :
    samples.foldl writeOne sink = { sink with contents := sink.contents ++ samples.flatMap line } := by
  induction samples generalizing sink with
  | nil => simp
  | cons s samples ih =>
      rw [List.foldl_cons, ih, writeOne]
      simp

theorem Holds.writeMany (h : Holds sink w) (samples : List Sample) :
    Holds ((JsonlSink.writeMany samples).exec sink).2 (w.step (.writeMany samples)) := by
  obtain ⟨isOpen, done⟩ := w
  have hfile : sink.file = isOpen := h.file
  have hcontents : sink.contents = done.flatMap line := h.contents
  rw [JsonlSink.writeMany, exec_bind_ok (exec_get _), hfile]
  cases isOpen with
  | false => exact h
  | true =>
      rw [if_neg (by simp)]
      by_cases hne : samples = []
      · rw [if_pos hne, hne]
        have hsame : Written.step ⟨true, done⟩ (.writeMany []) = ⟨true, done⟩ := by simp [Written.step]
        rw [hsame]
        exact h
      · rw [if_neg hne, exec_modify, writeOne_samples]
        refine ⟨hfile, ?_⟩
        show sink.contents ++ _ = (done ++ samples).flatMap line
        rw [hcontents, List.flatMap_append]

theorem Holds.call (h : Holds sink w) (c : FileCall) : Holds ((JsonlSink.call c).exec sink).2 (w.step c) := by
  cases c with
  | writeMany samples => exact h.writeMany samples
  | close => exact ⟨rfl, h.contents⟩
  | openFile =>
      obtain ⟨isOpen, done⟩ := w
      have hfile : sink.file = isOpen := h.file
      show Holds ((JsonlSink.openFile).exec sink).2 _
      rw [JsonlSink.openFile, exec_modify, hfile]
      cases isOpen with
      | true => exact h
      | false => exact ⟨rfl, rfl⟩

theorem runCalls_holds (calls : List FileCall) : Holds (runCalls calls) (Written.run calls) :=
  Written.run_related (fun _ _ c h => h.call c) ⟨rfl, rfl⟩ calls

theorem Holds.loads (h : Holds sink w) (hpython : ∀ s ∈ w.samples, ∀ e ∈ sampleToRow s, e.2.IsPython) :
    (fileLines sink.contents).mapM loadRow = some (w.samples.map sampleToRow) := by
  rw [h.contents, fileLines_samples]
  generalize w.samples = samples at hpython ⊢
  induction samples with
  | nil => rfl
  | cons s samples ih =>
      have hs := loadRow_line (hpython s List.mem_cons_self)
      rw [List.map_cons, List.mapM_cons, hs, ih fun s' hs' => hpython s' (List.mem_cons_of_mem s hs')]
      rfl

/-- After every run of calls the lines of the file load as the rows of the samples written since it was last
opened, in order, with the values and the types they had. -/
theorem lines_load (calls : List FileCall)
    (hpython : ∀ s ∈ (Written.run calls).samples, ∀ e ∈ sampleToRow s, e.2.IsPython) :
    (fileLines (runCalls calls).contents).mapM loadRow = some ((Written.run calls).samples.map sampleToRow) :=
  (runCalls_holds calls).loads hpython

theorem half_isDouble : PyFloat.IsDouble (.fin (1 / 2)) := by
  rintro _ ⟨⟩
  decide +kernel

def failedPoll : Sample where
  device := "b\n1"
  reading := none
  tMonoNs := -3
  tUtc := ⟨"2026-01-01T00:00:00+00:00"⟩
  requestedAt := ⟨"2026-01-01T00:00:00+00:00"⟩
  receivedAt := ⟨"2026-01-01T00:00:00+00:00"⟩
  latencyS := .fin (1 / 2)
  protocol := some .xbpi

theorem failedPoll_isPython : ∀ e ∈ sampleToRow failedPoll, e.2.IsPython := by
  intro e he x hx
  rcases float_mem_row he hx with rfl | ⟨reading, hreading, -⟩
  · exact half_isDouble
  · cases hreading

theorem lines_load_failedPoll :
    (fileLines (runCalls [.openFile, .writeMany [failedPoll], .close]).contents).mapM loadRow =
      some [sampleToRow failedPoll] :=
  lines_load [.openFile, .writeMany [failedPoll], .close] fun _ hs => List.mem_singleton.mp hs ▸ failedPoll_isPython

end JsonlSink

end SartoriusLib.Sinks
