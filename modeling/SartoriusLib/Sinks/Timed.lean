import SartoriusLib.ErrorText
import SartoriusLib.Sinks.Jsonl
import SartoriusLib.Streaming.Sample

/-!
# The samples of a recording in the sinks

A sink reads of a sample its instants as ISO texts and of its error the class and the text; nothing else of them
goes into a row.
-/

namespace SartoriusLib.Sinks

open SartoriusLib Lib

/-- A number with at least `width` digits. -/
def zeroPadded (width n : Nat) : String :=
  String.ofList (List.replicate (width - (Nat.toDigits 10 n).length) '0' ++ Nat.toDigits 10 n)

/-- The year, the month and the day of a number of days since 1970; years begin in March here, so that the leap day
is the last one. -/
def civil (days : Int) : Int × Nat × Nat :=
  let shifted := days + 719468
  let era := shifted / 146097
  let day := (shifted % 146097).toNat
  let year := (day - day / 1460 + day / 36524 - day / 146096) / 365
  let ofYear := day - (365 * year + year / 4 - year / 100)
  let march := (5 * ofYear + 2) / 153
  let month := if march < 10 then march + 3 else march - 9
  ((year : Int) + era * 400 + (if month ≤ 2 then 1 else 0), month, ofYear - (153 * march + 2) / 5 + 1)

/-- `datetime.isoformat()` of a UTC instant, in microseconds since 1970. -/
def isoformat (t : Int) : String :=
  let seconds := (t / 10 ^ 6 % 86400).toNat
  let micros := (t % 10 ^ 6).toNat
  let (year, month, day) := civil (t / 10 ^ 6 / 86400)
  zeroPadded 4 year.toNat ++ "-" ++ zeroPadded 2 month ++ "-" ++ zeroPadded 2 day ++ "T" ++
    zeroPadded 2 (seconds / 3600) ++ ":" ++ zeroPadded 2 (seconds / 60 % 60) ++ ":" ++ zeroPadded 2 (seconds % 60) ++
    (if micros = 0 then "" else "." ++ zeroPadded 6 micros) ++ "+00:00"

example : isoformat 951827696000007 = "2000-02-29T12:34:56.000007+00:00" := by decide

/-- What the sinks read of the sample of a recording. -/
def ofTimed (sample : SartoriusLib.Sample) : Sample where
  device := sample.device
  reading := sample.reading
  tMonoNs := sample.tMonoNs
  tUtc := ⟨isoformat sample.tUtc⟩
  requestedAt := ⟨isoformat sample.requestedAt⟩
  receivedAt := ⟨isoformat sample.receivedAt⟩
  latencyS := .ofRat sample.latencyS
  protocol := sample.protocol
  tMidpointMonoNs := sample.tMidpointMonoNs
  error := sample.error.map fun e => ⟨"sartoriuslib.errors", e.cls.className, e.str⟩

/-- The floats of a recorded sample are values that Python can hold when that of its reading is. -/
theorem ofTimed_isPython {sample : SartoriusLib.Sample}
    (hvalue : ∀ reading ∈ sample.reading, ∀ x ∈ reading.value, x.IsDouble) :
    ∀ e ∈ sampleToRow (ofTimed sample), e.2.IsPython := by
  intro e he x hx
  rcases float_mem_row he hx with rfl | ⟨reading, hreading, hx⟩
  · exact PyFloat.ofRat_isDouble _
  · exact hvalue reading hreading x hx

end SartoriusLib.Sinks
