import SartoriusLib.Devices.Models
import SartoriusLib.Lib.Dict

/-!
# Rows of the tabular sinks

`sampleToRow` flattens a sample into named cells; `SchemaLock` fixes the columns and their types on the
first batch and projects every later row onto them. A column without a single value in the first batch is
locked as text.
-/

namespace SartoriusLib.Sinks

open SartoriusLib Lib

/-- The scalar types that a column can be locked to. -/
inductive PyType where
  | float
  | int
  | str
  | bool
  deriving DecidableEq, Repr

/-- One value of a row. -/
inductive Cell where
  | none
  | float (x : PyFloat)
  | int (n : Int)
  | str (s : String)
  | bool (b : Bool)
  deriving DecidableEq, Repr

/-- `type(value)` of a value that is not `None`. -/
def Cell.type? : Cell → Option PyType
  | .none => .none
  | .float _ => some .float
  | .int _ => some .int
  | .str _ => some .str
  | .bool _ => some .bool

/-- What a typed sink stores in a column of type `t`: nothing, a value of the type, or an `int` in a
`float` column. -/
def Cell.Fits (v : Cell) (t : PyType) : Prop :=
  v = .none ∨ v.type? = some t ∨ (v.type? = some .int ∧ t = .float)

instance (v : Cell) (t : PyType) : Decidable (v.Fits t) := inferInstanceAs (Decidable (_ ∨ _))

abbrev Row : Type := Dict String Cell

/-! ## Samples -/

/-- A timestamp, by its `isoformat()`. -/
structure DateTime where
  isoformat : String
  deriving DecidableEq, Repr

/-- The error of a failed poll, as a row shows it. -/
structure SampleError where
  module : String
  qualname : String
  text : String
  deriving DecidableEq, Repr

structure Sample where
  device : String
  reading : Option Reading
  tMonoNs : Int
  tUtc : DateTime
  requestedAt : DateTime
  receivedAt : DateTime
  latencyS : PyFloat
  protocol : Option ProtocolKind
  tMidpointMonoNs : Option Int := none
  error : Option SampleError := none
  deriving DecidableEq, Repr

def ofOption {α : Type} (f : α → Cell) (x : Option α) : Cell := x.elim .none f

/-- `int(b)`. -/
def boolCell (b : Bool) : Cell := .int (if b then 1 else 0)

/-- `Reading.as_dict`. -/
def asDict (r : Reading) : Row :=
  [("value", ofOption .float r.value), ("unit", .str r.unit.value), ("sign", .str r.sign.value),
   ("stable", boolCell r.stable), ("overload", boolCell r.overload), ("underload", boolCell r.underload),
   ("decimals", ofOption (fun n => .int (n : Nat)) r.decimals),
   ("sequence", ofOption (fun n => .int (n : Nat)) r.sequence), ("protocol", .str r.protocol.value),
   ("raw", .str (bytesHex r.raw))]

def timingCells (sample : Sample) : Row :=
  [("device", .str sample.device), ("t_mono_ns", .int sample.tMonoNs),
   ("t_utc", .str sample.tUtc.isoformat), ("t_midpoint_mono_ns", ofOption .int sample.tMidpointMonoNs),
   ("requested_at", .str sample.requestedAt.isoformat),
   ("received_at", .str sample.receivedAt.isoformat), ("latency_s", .float sample.latencyS)]

/-- The cells of the reading; a failed sample has the same ones, all `None` but the protocol. -/
def readingCells (sample : Sample) : Row :=
  match sample.reading with
  | some reading => asDict reading
  | none =>
      [("value", .none), ("unit", .none), ("sign", .none), ("stable", .none), ("overload", .none),
       ("underload", .none), ("decimals", .none), ("sequence", .none),
       ("protocol", ofOption (fun p => .str p.value) sample.protocol), ("raw", .none)]

def errorCells (sample : Sample) : Row :=
  match sample.error with
  | some err =>
      [("error_type", .str (err.module ++ "." ++ err.qualname)), ("error_message", .str err.text)]
  | none => [("error_type", .none), ("error_message", .none)]

def sampleToRow (sample : Sample) : Row :=
  Dict.update (Dict.update (timingCells sample) (readingCells sample)) (errorCells sample)

/-! ## The schema lock -/

structure ColumnSpec where
  name : String
  pythonType : PyType
  nullable : Bool
  deriving DecidableEq, Repr

/-- The lock of one sink; `unknownWarned` holds the dropped columns that were logged. -/
structure SchemaLock where
  columns : Option (List ColumnSpec) := none
  names : List String := []
  unknownWarned : List String := []
  deriving DecidableEq, Repr

/-- The type after one more value of a column. -/
def widen (inferred : Option PyType) (t : PyType) : PyType :=
  match inferred with
  | none => t
  | some u => if u = t then u else if u ∈ [.int, .float] ∧ t ∈ [.int, .float] then .float else .str

/-- The loop of `_infer_column` over the rows of the batch. -/
def inferLoop (key : String) : Option PyType × Bool → List Row → Option PyType × Bool
  | acc, [] => acc
  | (inferred, nullable), row :: rows =>
      match Dict.get? row key with
      | none => inferLoop key (inferred, true) rows
      | some value =>
          match value.type? with
          | none => inferLoop key (inferred, true) rows
          | some t => inferLoop key (some (widen inferred t), nullable) rows

def inferColumn (key : String) (rows : List Row) : ColumnSpec :=
  match inferLoop key (none, false) rows with
  | (none, _) => { name := key, pythonType := .str, nullable := true }
  | (some t, nullable) => { name := key, pythonType := t, nullable }

/-- The keys of the batch in order of first encounter. -/
def orderedKeys (rows : List Row) : List String :=
  rows.foldl (fun keys row => (Dict.keys row).foldl (fun ks k => if k ∈ ks then ks else ks ++ [k]) keys) []

namespace SchemaLock

def lock (l : SchemaLock) (rows : List Row) : Except Exc SchemaLock :=
  if l.columns.isSome then .error (.runtimeError "SchemaLock.lock called twice")
  else if rows = [] then .error (.valueError "SchemaLock.lock requires a non-empty first batch")
  else
    let keys := orderedKeys rows
    .ok { l with columns := some (keys.map fun key => inferColumn key rows), names := keys }

/-- The projected row, and the lock with the columns it warned about. -/
def project (l : SchemaLock) (row : Row) : Except Exc (Row × SchemaLock) :=
  match l.columns with
  | none => .error (.runtimeError "SchemaLock.project called before lock()")
  | some columns =>
      let result : Row := columns.map fun spec => (spec.name, .none)
      .ok <| row.foldl
        (fun (acc : Row × SchemaLock) e =>
          if e.1 ∈ acc.2.names then (acc.1.set e.1 e.2, acc.2)
          else if e.1 ∈ acc.2.unknownWarned then acc
          else (acc.1, { acc.2 with unknownWarned := acc.2.unknownWarned ++ [e.1] }))
        (result, l)

end SchemaLock

/-- The rows that a schema-ful sink writes for a batch, locking its schema on the first one. -/
def writeMany (l : SchemaLock) (samples : List Sample) : Except Exc (List Row × SchemaLock) := do
  if samples = [] then .ok ([], l)
  else
    let rows := samples.map sampleToRow
    let l ← if l.columns.isSome then .ok l else l.lock rows
    rows.foldlM
      (fun (acc : List Row × SchemaLock) row => do
        let (projected, l) ← acc.2.project row
        .ok (acc.1 ++ [projected], l))
      ([], l)

end SartoriusLib.Sinks
