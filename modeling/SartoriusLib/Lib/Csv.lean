import Mathlib.Tactic.Common

/-!
# Comma-separated values

The writer quotes a field that holds a delimiter, a quote or a line break, and doubles the quotes in it. The
reader goes through the text character by character; a line ends with a line feed, a carriage return or both,
a quoted field may go on over the end of a line, and no field may be longer than a limit.
-/

namespace SartoriusLib.Lib.Csv

/-- The characters with a meaning of their own. -/
structure Dialect where
  delimiter : Char
  quotechar : Char
  delimiter_ne_quotechar : delimiter ≠ quotechar
  delimiter_not_break : delimiter ≠ '\r' ∧ delimiter ≠ '\n'
  quotechar_not_break : quotechar ≠ '\r' ∧ quotechar ≠ '\n'

abbrev Record : Type := List (List Char)

def isBreak (c : Char) : Bool := c == '\r' || c == '\n'

namespace Dialect

section

variable (d : Dialect) (limit : Nat)

/-! ## The writer -/

/-- A character that a field without quotes must not hold. -/
def special (c : Char) : Bool := c == d.delimiter || c == d.quotechar || isBreak c

/-- The text of a field between its quotes. -/
def double (f : List Char) : List Char := f.flatMap fun c => if c = d.quotechar then [c, c] else [c]

def writeField (f : List Char) : List Char :=
  if f.any d.special then d.quotechar :: d.double f ++ [d.quotechar] else f

/-- The fields of a record with the delimiters between them. -/
def joinFields : Record → List Char
  | [] => []
  | [f] => d.writeField f
  | f :: g :: fs => d.writeField f ++ d.delimiter :: joinFields (g :: fs)

/-- A record with its line terminator; a lone empty field is quoted, or it would read as no field. -/
def writeRow (fields : Record) : List Char :=
  (if fields = [[]] then [d.quotechar, d.quotechar] else d.joinFields fields) ++ ['\r', '\n']

/-! ## The reader -/

inductive Mode where
  | startRecord
  | startField
  | inField
  | inQuotedField
  | quoteInQuotedField
  | eatCrnl
  deriving DecidableEq, Repr

/-- What has been read: the complete records, the fields of the current one and the current field. -/
structure State where
  mode : Mode := .startRecord
  field : List Char := []
  fields : Record := []
  records : List Record := []
  deriving DecidableEq, Repr

namespace State

/-- One more character of the field, unless it has as many as the limit allows. -/
def push (limit : Nat) (r : State) (c : Char) : Option State :=
  if r.field.length < limit then some { r with field := r.field ++ [c] } else none

def saveField (r : State) : State := { r with field := [], fields := r.fields ++ [r.field] }

def goTo (r : State) (mode : Mode) : State := { r with mode }

def saveRecord (r : State) : State :=
  { mode := .startRecord, field := [], fields := [], records := r.records ++ [r.fields] }

/-- The end of a line. -/
def endLine (r : State) : State :=
  match r.mode with
  | .startRecord | .eatCrnl => r.saveRecord
  | .startField | .inField | .quoteInQuotedField => r.saveField.saveRecord
  | .inQuotedField => r

end State

/-- The first character of a field. -/
def startField (r : State) (c : Char) : Option State :=
  if isBreak c then some (r.saveField.goTo .eatCrnl)
  else if c = d.quotechar then some (r.goTo .inQuotedField)
  else if c = d.delimiter then some (r.saveField.goTo .startField)
  else (r.push limit c).map fun r => r.goTo .inField

/-- One character; nothing but a line break may follow a line break on its line. -/
def step (r : State) (c : Char) : Option State :=
  match r.mode with
  | .startRecord => if isBreak c then some (r.goTo .eatCrnl) else d.startField limit r c
  | .startField => d.startField limit r c
  | .inField =>
      if isBreak c then some (r.saveField.goTo .eatCrnl)
      else if c = d.delimiter then some (r.saveField.goTo .startField)
      else r.push limit c
  | .inQuotedField => if c = d.quotechar then some (r.goTo .quoteInQuotedField) else r.push limit c
  | .quoteInQuotedField =>
      if c = d.quotechar then (r.push limit c).map fun r => r.goTo .inQuotedField
      else if c = d.delimiter then some (r.saveField.goTo .startField)
      else if isBreak c then some (r.saveField.goTo .eatCrnl)
      else (r.push limit c).map fun r => r.goTo .inField
  | .eatCrnl => if isBreak c then some r else none

/-- The line ends with `c`, when `rest` follows. -/
def endsLine (c : Char) (rest : List Char) : Bool := c == '\n' || (c == '\r' && rest.head? != some '\n')

def readLoop : State → List Char → Option State
  | r, [] => some r
  | r, c :: rest => do
      let r ← d.step limit r c
      readLoop (if endsLine c rest then r.endLine else r) rest

/-- The end of the text ends a line that has begun, and a quoted field that is open. -/
def State.finish (r : State) : List Record :=
  match r.mode with
  | .startRecord => r.records
  | .inQuotedField => r.saveField.saveRecord.records
  | _ => r.endLine.records

def read (text : List Char) : Option (List Record) := (d.readLoop limit {} text).map State.finish

end

/-! ## Reading one field -/

variable {d : Dialect} {limit : Nat} {r : State} {c : Char} {t f : List Char}

@[simp] theorem readLoop_nil : d.readLoop limit r [] = some r := rfl

/-- A character that is no line break ends no line. -/
theorem readLoop_cons {r' : State} (hc : isBreak c = false) (h : d.step limit r c = some r') :
    d.readLoop limit r (c :: t) = d.readLoop limit r' t := by
  have hend : endsLine c t = false := by
    simp only [isBreak, Bool.or_eq_false_iff] at hc
    simp [endsLine, hc.1, hc.2]
  rw [readLoop, h, hend]
  rfl

theorem isBreak_quotechar : isBreak d.quotechar = false := by
  simp [isBreak, d.quotechar_not_break.1, d.quotechar_not_break.2]

theorem isBreak_delimiter : isBreak d.delimiter = false := by
  simp [isBreak, d.delimiter_not_break.1, d.delimiter_not_break.2]

@[simp] theorem push_of_lt (h : r.field.length < limit) :
    r.push limit c = some { r with field := r.field ++ [c] } := if_pos h

/-- Inside quotes the end of a line means nothing. -/
theorem readLoop_quoted_cons (hmode : r.mode = .inQuotedField) (hlimit : r.field.length < limit)
    (hc : c ≠ d.quotechar) :
    d.readLoop limit r (c :: t) = d.readLoop limit { r with field := r.field ++ [c] } t := by
  have hstep : d.step limit r c = some { r with field := r.field ++ [c] } := by
    rw [step, hmode]
    dsimp only
    rw [if_neg hc, push_of_lt hlimit, hmode]
  have hend : State.endLine { r with field := r.field ++ [c] } = { r with field := r.field ++ [c] } := by
    cases r
    cases hmode
    rfl
  rw [readLoop, hstep]
  simp [hend]

/-- A doubled quote is a quote of the field. -/
theorem readLoop_doubled (hmode : r.mode = .inQuotedField) (hlimit : r.field.length < limit) :
    d.readLoop limit r (d.quotechar :: d.quotechar :: t) =
      d.readLoop limit { r with field := r.field ++ [d.quotechar] } t := by
  have hfirst : d.step limit r d.quotechar = some (r.goTo .quoteInQuotedField) := by
    rw [step, hmode]
    simp
  have hsecond : d.step limit (r.goTo .quoteInQuotedField) d.quotechar = 
      some { r with field := r.field ++ [d.quotechar] } := by
    cases r
    cases hmode
    simp_all [step, State.goTo]
  rw [readLoop_cons isBreak_quotechar hfirst, readLoop_cons isBreak_quotechar hsecond]

/-- The text between the quotes puts the field back together. -/
theorem readLoop_double (hmode : r.mode = .inQuotedField) (hlimit : (r.field ++ f).length ≤ limit) :
    d.readLoop limit r (d.double f ++ t) = d.readLoop limit { r with field := r.field ++ f } t := by
  induction f generalizing r with
  | nil => simp [double]
  | cons c f ih =>
      have hroom : r.field.length < limit := by
        rw [List.length_append, List.length_cons] at hlimit
        omega
      have hpush := ih (r := { r with field := r.field ++ [c] }) hmode (by simpa using hlimit)
      have hfield : r.field ++ [c] ++ f = r.field ++ c :: f := by simp
      simp only [hfield] at hpush
      have hdouble : d.double (c :: f) ++ t = (if c = d.quotechar then [c, c] else [c]) ++ (d.double f ++ t) := by
        rw [double, List.flatMap_cons, List.append_assoc]
        rfl
      rw [hdouble]
      by_cases hc : c = d.quotechar
      · subst hc
        rw [if_pos rfl, List.cons_append, List.singleton_append, readLoop_doubled hmode hroom]
        exact hpush
      · rw [if_neg hc, List.singleton_append, readLoop_quoted_cons hmode hroom hc]
        exact hpush

/-- A plain text goes into the field as it is. -/
theorem readLoop_plain (hmode : r.mode = .inField) (hlimit : (r.field ++ f).length ≤ limit)
    (hf : f.any d.special = false) :
    d.readLoop limit r (f ++ t) = d.readLoop limit { r with field := r.field ++ f } t := by
  induction f generalizing r with
  | nil => simp
  | cons c f ih =>
      rw [List.any_cons, Bool.or_eq_false_iff] at hf
      obtain ⟨hc, hf⟩ := hf
      simp only [special, Bool.or_eq_false_iff, beq_eq_false_iff_ne] at hc
      have hroom : r.field.length < limit := by
        rw [List.length_append, List.length_cons] at hlimit
        omega
      have hstep : d.step limit r c = some { r with field := r.field ++ [c] } := by
        rw [step, hmode]
        dsimp only
        rw [if_neg (by simp [hc.2]), if_neg hc.1.1, push_of_lt hroom, hmode]
      rw [List.cons_append, readLoop_cons hc.2 hstep,
        ih (r := { r with field := r.field ++ [c] }) hmode (by simpa using hlimit) hf]
      simp

/-- The modes in which a field may end. -/
def Mode.Ends (m : Mode) : Prop := m = .startField ∨ m = .inField ∨ m = .quoteInQuotedField

theorem readLoop_delimiter (hmode : r.mode.Ends) :
    d.readLoop limit r (d.delimiter :: t) = d.readLoop limit (r.saveField.goTo .startField) t := by
  have hquote := d.delimiter_ne_quotechar
  refine readLoop_cons isBreak_delimiter ?_
  rcases hmode with hmode | hmode | hmode <;> simp [step, hmode, startField, isBreak_delimiter, hquote]

theorem readLoop_lineEnd (hmode : r.mode.Ends) :
    d.readLoop limit r ('\r' :: '\n' :: t) = d.readLoop limit r.saveField.saveRecord t := by
  have hquote : ('\r' : Char) ≠ d.quotechar := d.quotechar_not_break.1.symm
  have hdelimiter : ('\r' : Char) ≠ d.delimiter := d.delimiter_not_break.1.symm
  have hstep : d.step limit r '\r' = some (r.saveField.goTo .eatCrnl) := by
    rcases hmode with hmode | hmode | hmode <;> simp [step, hmode, startField, isBreak, hquote, hdelimiter]
  rw [readLoop, hstep]
  simp [endsLine, readLoop, step, isBreak, State.goTo, State.endLine, State.saveRecord]

/-- After a written field the reader holds the field and waits for its end. -/
theorem readLoop_writeField (hmode : r.mode = .startField) (hfield : r.field = []) (hlimit : f.length ≤ limit)
    (t : List Char) :
    ∃ m : Mode, m.Ends ∧
      d.readLoop limit r (d.writeField f ++ t) = d.readLoop limit { r with mode := m, field := f } t := by
  rw [writeField]
  by_cases hf : f.any d.special = true
  · have hopen : d.step limit r d.quotechar = some (r.goTo .inQuotedField) := by
      simp [step, hmode, startField, isBreak_quotechar]
    have hclose : d.step limit { r with mode := .inQuotedField, field := f } d.quotechar =
        some { r with mode := .quoteInQuotedField, field := f } := by
      simp [step, State.goTo]
    refine ⟨.quoteInQuotedField, .inr (.inr rfl), ?_⟩
    rw [if_pos hf, List.cons_append, List.cons_append, List.append_assoc, readLoop_cons isBreak_quotechar hopen,
      readLoop_double rfl (by simpa [State.goTo, hfield] using hlimit)]
    simp only [State.goTo, hfield, List.nil_append, List.singleton_append]
    exact readLoop_cons isBreak_quotechar hclose
  · rw [if_neg hf]
    rw [Bool.not_eq_true] at hf
    cases f with
    | nil =>
        refine ⟨.startField, .inl rfl, ?_⟩
        rw [List.nil_append, ← hmode, ← hfield]
    | cons c f =>
        rw [List.any_cons, Bool.or_eq_false_iff] at hf
        obtain ⟨hc, hf⟩ := hf
        simp only [special, Bool.or_eq_false_iff, beq_eq_false_iff_ne] at hc
        have hroom : r.field.length < limit := by
          rw [hfield]
          exact Nat.lt_of_lt_of_le (by simp) hlimit
        have hstep : d.step limit r c = some { r with mode := .inField, field := [c] } := by
          simp only [step, hmode, startField, hc.2, hc.1.1, hc.1.2, push_of_lt hroom, State.goTo, hfield]
          rfl
        refine ⟨.inField, .inr (.inl rfl), ?_⟩
        rw [List.cons_append, readLoop_cons hc.2 hstep, readLoop_plain rfl (by simpa using hlimit) hf]
        simp

/-! ## Reading a record -/

/-- The fields of a record that has begun, and the record itself at its line terminator. -/
theorem readLoop_joinFields (hmode : r.mode = .startField) (hfield : r.field = []) {fields : Record}
    (hne : fields ≠ []) (hlimit : ∀ f ∈ fields, f.length ≤ limit) (t : List Char) :
    d.readLoop limit r (d.joinFields fields ++ '\r' :: '\n' :: t) =
      d.readLoop limit { records := r.records ++ [r.fields ++ fields] } t := by
  induction fields generalizing r with
  | nil => exact absurd rfl hne
  | cons f fs ih =>
      cases fs with
      | nil =>
          obtain ⟨m, hm, hread⟩ := readLoop_writeField (d := d) hmode hfield (hlimit f List.mem_cons_self)
            ('\r' :: '\n' :: t)
          rw [joinFields, hread, readLoop_lineEnd hm]
          rfl
      | cons g gs =>
          obtain ⟨m, hm, hread⟩ := readLoop_writeField (d := d) hmode hfield (hlimit f List.mem_cons_self)
            (d.delimiter :: (d.joinFields (g :: gs) ++ '\r' :: '\n' :: t))
          rw [joinFields, List.append_assoc, List.cons_append, hread, readLoop_delimiter hm,
            ih rfl rfl (List.cons_ne_nil g gs) (List.forall_mem_cons.mp hlimit).2]
          simp [State.goTo, State.saveField]

/-- A record that has fields does not begin with a line break. -/
theorem joinFields_head {fields : Record} (hne : fields ≠ []) (hlone : fields ≠ [[]]) :
    ∃ c u, d.joinFields fields = c :: u ∧ isBreak c = false := by
  cases fields with
  | nil => exact absurd rfl hne
  | cons f fs =>
      have hwrite : d.writeField f = [] ∨ ∃ c u, d.writeField f = c :: u ∧ isBreak c = false := by
        rw [writeField]
        by_cases hf : f.any d.special = true
        · rw [if_pos hf]
          exact .inr ⟨_, _, rfl, isBreak_quotechar⟩
        · rw [if_neg hf]
          cases f with
          | nil => exact .inl rfl
          | cons c f =>
              simp only [List.any_cons, special, Bool.or_eq_true, not_or, Bool.not_eq_true] at hf
              exact .inr ⟨c, f, rfl, hf.1.2⟩
      cases fs with
      | nil =>
          rw [joinFields]
          refine hwrite.resolve_left fun hnil => hlone ?_
          rw [writeField] at hnil
          split at hnil
          · cases hnil
          · rw [hnil]
      | cons g gs =>
          rw [joinFields]
          rcases hwrite with hnil | ⟨c, u, hcons, hc⟩
          · exact ⟨_, _, by rw [hnil]; rfl, isBreak_delimiter⟩
          · exact ⟨c, _, by rw [hcons]; rfl, hc⟩

theorem readLoop_startRecord (hmode : r.mode = .startRecord) (hc : isBreak c = false) :
    d.readLoop limit r (c :: t) = d.readLoop limit (r.goTo .startField) (c :: t) := by
  have hstep : d.step limit r c = d.step limit (r.goTo .startField) c := by
    by_cases hroom : r.field.length < limit <;>
      simp [step, State.goTo, hmode, hc, startField, State.push, State.saveField, hroom]
  rw [readLoop, readLoop, hstep]

theorem readLoop_writeRow (records : List Record) {fields : Record} (hlimit : ∀ f ∈ fields, f.length ≤ limit)
    (t : List Char) :
    d.readLoop limit { records } (d.writeRow fields ++ t) = d.readLoop limit { records := records ++ [fields] } t := by
  rw [writeRow, List.append_assoc]
  by_cases hlone : fields = [[]]
  · -- the two quotes open and close a field
    have hopen : d.step limit { records } d.quotechar = some { mode := .inQuotedField, records } := by
      simp [step, startField, isBreak_quotechar, State.goTo]
    have hclose : d.step limit { mode := .inQuotedField, records } d.quotechar =
        some { mode := .quoteInQuotedField, records } := by
      simp [step, State.goTo]
    rw [if_pos hlone, List.cons_append, List.singleton_append, readLoop_cons isBreak_quotechar hopen,
      readLoop_cons isBreak_quotechar hclose]
    exact (readLoop_lineEnd (.inr (.inr rfl))).trans (by rw [hlone]; rfl)
  · rw [if_neg hlone]
    by_cases hne : fields = []
    · subst hne
      simp [joinFields, readLoop, step, isBreak, endsLine, State.goTo, State.endLine, State.saveRecord]
    · obtain ⟨c, u, hhead, hc⟩ := joinFields_head (d := d) hne hlone
      have hread := readLoop_joinFields (d := d) (r := { mode := .startField, records }) rfl rfl hne hlimit t
      rw [hhead] at hread ⊢
      exact (readLoop_startRecord rfl hc).trans hread

/-- What the writer wrote reads as the records that were written, when no field is too long. -/
theorem read_writeRows (d : Dialect) {records : List Record}
    (hlimit : ∀ fields ∈ records, ∀ f ∈ fields, f.length ≤ limit) :
    d.read limit (records.flatMap d.writeRow) = some records := by
  have hloop : ∀ done, d.readLoop limit { records := done } (records.flatMap d.writeRow) =
      some { records := done ++ records } := by
    induction records with
    | nil => exact fun done => by simp
    | cons fields records ih =>
        intro done
        obtain ⟨hfields, hrecords⟩ := List.forall_mem_cons.mp hlimit
        rw [List.flatMap_cons, readLoop_writeRow _ hfields, ih hrecords]
        simp
  rw [read, hloop []]
  rfl

end Dialect

end SartoriusLib.Lib.Csv
