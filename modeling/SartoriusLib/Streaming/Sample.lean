import SartoriusLib.Lib.Dict
import SartoriusLib.Numbers
import SartoriusLib.Devices.Models

/-!
# Timed samples

A sample is one reading with the instants at which it was requested and received. A wall-clock instant is a
number of microseconds, a monotonic one a number of nanoseconds.
-/

namespace SartoriusLib

open Lib

/-- The result of one device: a value or an error. -/
structure DeviceResult (α : Type) where
  value : Option α
  error : Option SartoriusError
  deriving DecidableEq, Repr

namespace DeviceResult

variable {α : Type}

def success (value : α) : DeviceResult α := { value := some value, error := none }

def failure (error : SartoriusError) : DeviceResult α := { value := none, error := some error }

end DeviceResult

/-- `ProtocolKind(value)`, if there is such a member. -/
def ProtocolKind.ofValue? : String → Option ProtocolKind
  | "auto" => some .auto
  | "xbpi" => some .xbpi
  | "sbi" => some .sbi
  | _ => none

structure Sample where
  device : String
  reading : Option Reading
  tMonoNs : Int
  tUtc : Int
  requestedAt : Int
  receivedAt : Int
  latencyS : Rat
  protocol : Option ProtocolKind
  tMidpointMonoNs : Option Int := none
  metadata : Dict String String := []
  error : Option SartoriusError := none
  deriving DecidableEq, Repr

/-- `_midpoint`; half an interval is rounded to a microsecond, ties to even. -/
def midpoint (requestedAt receivedAt : Int) : Int :=
  requestedAt + PyFloat.roundHalfEven ((receivedAt - requestedAt : Rat) / 2)

/-- The instants around one poll. -/
structure PollTiming where
  requestedAt : Int
  receivedAt : Int
  sentNs : Int
  recvNs : Int
  deriving DecidableEq, Repr

/-- The protocol of a result, taken from the reading or else from the context of the error. -/
def resultProtocol (result : DeviceResult Reading) : Option ProtocolKind :=
  match result.value, result.error with
  | some reading, _ => some reading.protocol
  | none, some error => error.context.protocol.bind ProtocolKind.ofValue?
  | none, none => none

/-- `_build_batch`: a sample for every device that has a result. -/
def buildBatch (results : Dict String (DeviceResult Reading)) (t : PollTiming) : Dict String Sample :=
  results.map fun (name, result) =>
    (name,
      { device := name, reading := result.value, tMonoNs := (t.sentNs + t.recvNs) / 2,
        tUtc := midpoint t.requestedAt t.receivedAt, requestedAt := t.requestedAt, receivedAt := t.receivedAt,
        latencyS := (t.receivedAt - t.requestedAt) / 10 ^ 6, protocol := resultProtocol result,
        error := result.error })

/-- A batch has the names of the results, in their order. -/
theorem buildBatch_keys (results : Dict String (DeviceResult Reading)) (t : PollTiming) :
    (buildBatch results t).keys = results.keys := by
  simp [buildBatch, Dict.keys, Function.comp_def]

end SartoriusLib
