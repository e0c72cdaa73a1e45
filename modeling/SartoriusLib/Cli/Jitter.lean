import SartoriusLib.Protocol.Xbpi.Parser
import Mathlib.Data.Rat.Floor

/-!
# The jitter probe

The probe polls a balance at a fixed cadence and summarises the samples. A long frame carries the sequence number of
the device, one byte; the difference to the last number that was decoded says how many frames went by unseen.
-/

namespace SartoriusLib.Jitter

open SartoriusLib Xbpi

/-! ## Samples -/

inductive FrameMode where
  | long
  | short
  deriving DecidableEq, Repr

/-- The fields of a weight frame that the diagnostics read. -/
structure JitterDecodedFrame where
  value : Option PyFloat
  unit : String
  sign : String
  stable : Bool
  offScale : Bool
  overload : Option Bool
  underload : Option Bool
  decimals : Option Nat
  sequence : Option Nat
  adcTrusted : Option Bool
  isocalDue : Option Bool
  raw : String
  deriving DecidableEq, Repr

/-- One poll; the clocks count nanoseconds. -/
structure JitterSample where
  index : Nat
  targetNs : Int
  wakeNs : Int
  requestedNs : Int
  receivedNs : Option Int
  decoded : Option JitterDecodedFrame
  error : Option String
  errorType : Option String
  deriving DecidableEq, Repr

def nsToMs (ns : Int) : Rat := ns / 1000000

def nsToS (ns : Int) : Rat := ns / 1000000000

def JitterSample.midpointNs (s : JitterSample) : Option Int :=
  s.receivedNs.map fun received => (s.requestedNs + received) / 2

def JitterSample.latencyMs (s : JitterSample) : Option Rat :=
  s.receivedNs.map fun received => nsToMs (received - s.requestedNs)

/-- The sequence number of a sample that was decoded from a long frame. -/
def JitterSample.sequence (s : JitterSample) : Option Nat := s.decoded.bind JitterDecodedFrame.sequence

def decodeFrame (reply : XbpiFrame) : FrameMode → Except SartoriusError JitterDecodedFrame
  | .long => do
      let decoded ← decodeLongMeasurementBody reply.body
      let measurement := decoded.measurement
      let status := decoded.status
      .ok
        { value := measurement.value, unit := measurement.unit.value, sign := measurement.sign.value,
          stable := measurement.stable, offScale := measurement.offScale, overload := some status.overload,
          underload := some status.underload, decimals := some measurement.decimals,
          sequence := some status.sequence, adcTrusted := status.adcTrusted, isocalDue := status.isocalDue,
          raw := bytesHex reply.raw }
  | .short => do
      let measurement ← decodeMeasurementBody reply.body
      .ok
        { value := measurement.value, unit := measurement.unit.value, sign := measurement.sign.value,
          stable := measurement.stable, offScale := measurement.offScale, overload := none, underload := none,
          decimals := some measurement.decimals, sequence := none, adcTrusted := none, isocalDue := none,
          raw := bytesHex reply.raw }

/-! ## Statistics -/

/-- The aggregates of a column; the standard deviation is left out. -/
structure Stats where
  count : Nat := 0
  min : Option Rat := none
  max : Option Rat := none
  mean : Option Rat := none
  p50 : Option Rat := none
  p95 : Option Rat := none
  p99 : Option Rat := none
  deriving DecidableEq, Repr

structure JitterStats extends Stats where
  maxAbs : Option Rat := none
  p95Abs : Option Rat := none
  p99Abs : Option Rat := none
  deriving DecidableEq, Repr

/-- The value at `pct` percent of the sorted values, interpolated between its neighbours. -/
def percentile (values : List Rat) (pct : Rat) : Rat :=
  let sorted := values.mergeSort
  if sorted.length = 1 then sorted.headD 0
  else
    let rank := ((sorted.length - 1 : Nat) : Rat) * (pct / 100)
    let lower := rank.floor.toNat
    let upper := rank.ceil.toNat
    if lower = upper then sorted.getD lower 0
    else
      let weight := rank - lower
      sorted.getD lower 0 * (1 - weight) + sorted.getD upper 0 * weight

def stats (values : List (Option Rat)) : Stats :=
  let finite := values.filterMap id
  if finite = [] then {}
  else
    { count := finite.length, min := finite.min?, max := finite.max?, mean := some (finite.sum / finite.length),
      p50 := some (percentile finite 50), p95 := some (percentile finite 95), p99 := some (percentile finite 99) }

def jitterStats (values : List (Option Rat)) : JitterStats :=
  let finite := (values.filterMap id).map abs
  if finite = [] then { stats values with }
  else
    { stats values with maxAbs := finite.max?, p95Abs := some (percentile finite 95),
                        p99Abs := some (percentile finite 99) }

/-! ## Rows -/

def intervalMs (currentNs previousNs : Option Int) : Option Rat :=
  match currentNs, previousNs with
  | some current, some previous => some (nsToMs (current - previous))
  | _, _ => none

def jitterMs (intervalMs : Option Rat) (periodMs : Rat) : Option Rat := intervalMs.map (· - periodMs)

/-- `(current - previous) % 256`. -/
def sequenceDelta (current previous : Option Nat) : Option Int :=
  match current, previous with
  | some current, some previous => some (((current : Int) - previous) % 256)
  | _, _ => none

/-- One row of the table; the columns that repeat a field of the sample are in `sample`. -/
structure Row where
  sample : JitterSample
  targetElapsedS : Rat
  wakeElapsedS : Rat
  wakeDriftMs : Rat
  requestedElapsedS : Rat
  receivedElapsedS : Option Rat
  midpointElapsedS : Option Rat
  latencyMs : Option Rat
  requestedIntervalMs : Option Rat
  receivedIntervalMs : Option Rat
  midpointIntervalMs : Option Rat
  requestedJitterMs : Option Rat
  receivedJitterMs : Option Rat
  midpointJitterMs : Option Rat
  sequence : Option Nat
  sequenceDelta : Option Int
  sequenceGap : Option Int
  deriving DecidableEq, Repr

/-- The last values that were there, as the loop over the samples carries them. -/
structure Previous where
  requestedNs : Option Int := none
  receivedNs : Option Int := none
  midpointNs : Option Int := none
  sequence : Option Nat := none

def baseRow (sample : JitterSample) (startNs : Int)
    (requestedIntervalMs receivedIntervalMs midpointIntervalMs : Option Rat) (sequenceDelta : Option Int)
    (periodMs : Rat) : Row where
  sample
  targetElapsedS := nsToS (sample.targetNs - startNs)
  wakeElapsedS := nsToS (sample.wakeNs - startNs)
  wakeDriftMs := nsToMs (sample.wakeNs - sample.targetNs)
  requestedElapsedS := nsToS (sample.requestedNs - startNs)
  receivedElapsedS := sample.receivedNs.map fun received => nsToS (received - startNs)
  midpointElapsedS := sample.midpointNs.map fun midpoint => nsToS (midpoint - startNs)
  latencyMs := sample.latencyMs
  requestedIntervalMs
  receivedIntervalMs
  midpointIntervalMs
  requestedJitterMs := jitterMs requestedIntervalMs periodMs
  receivedJitterMs := jitterMs receivedIntervalMs periodMs
  midpointJitterMs := jitterMs midpointIntervalMs periodMs
  sequence := sample.sequence
  sequenceDelta
  sequenceGap := sequenceDelta.map fun delta => max 0 (delta - 1)

/-- The loop of `_rows`. -/
def rowsLoop (startNs : Int) (periodMs : Rat) : Previous → List JitterSample → List Row
  | _, [] => []
  | previous, sample :: later =>
      baseRow sample startNs (intervalMs sample.requestedNs previous.requestedNs)
          (intervalMs sample.receivedNs previous.receivedNs) (intervalMs sample.midpointNs previous.midpointNs)
          (sequenceDelta sample.sequence previous.sequence) periodMs ::
        rowsLoop startNs periodMs
          { requestedNs := sample.requestedNs, receivedNs := sample.receivedNs.or previous.receivedNs,
            midpointNs := sample.midpointNs.or previous.midpointNs,
            sequence := sample.sequence.or previous.sequence } later

def rows (samples : List JitterSample) (rateHz : Rat) : List Row :=
  match samples with
  | [] => []
  | first :: _ => rowsLoop first.targetNs (1000 / rateHz) {} samples

/-! ## The summary -/

/-- `f"{q:.3f}"` of a `q` that is not negative. -/
def fixed3 (q : Rat) : String :=
  let thousandths := (PyFloat.roundHalfEven (q * 1000)).toNat
  let digits := Nat.toDigits 10 (thousandths % 1000)
  toString (thousandths / 1000) ++ "." ++ String.ofList (List.replicate (3 - digits.length) '0' ++ digits)

def validationError (message : String) : SartoriusError where
  cls := .validationError
  message
  context := {}

def validateRunArgs (rateHz duration spinMs : Rat) : Except SartoriusError Unit :=
  if rateHz ≤ 0 then .error (validationError s!"--rate must be > 0, got {reprSeconds rateHz}")
  else if duration ≤ 0 then .error (validationError s!"--duration must be > 0, got {reprSeconds duration}")
  else if spinMs < 0 then .error (validationError s!"--spin-ms must be >= 0, got {reprSeconds spinMs}")
  else if 1000 / rateHz ≤ spinMs then
    .error (validationError s!"--spin-ms must be shorter than the {fixed3 (1000 / rateHz)} ms sample period")
  else .ok ()

structure Summary where
  rateHz : Rat
  periodMs : Rat
  durationS : Rat
  targetSamples : Int
  attempts : Nat
  ok : Nat
  errors : Nat
  deadlineMisses : Nat
  latencyOverPeriod : Nat
  sequenceDuplicates : Nat
  sequenceGaps : Int
  schedulerDriftMs : Stats
  latencyMs : Stats
  requestedIntervalMs : Stats
  receivedIntervalMs : Stats
  midpointIntervalMs : Stats
  requestedJitterMs : JitterStats
  receivedJitterMs : JitterStats
  midpointJitterMs : JitterStats
  deriving DecidableEq, Repr

def summarizeSamples (samples : List JitterSample) (rateHz duration : Rat) : Except SartoriusError Summary := do
  validateRunArgs rateHz duration 0
  let periodMs := 1000 / rateHz
  let successful := samples.filter (·.decoded.isSome)
  let table := rows samples rateHz
  let sequenceDeltas := table.filterMap Row.sequenceDelta
  .ok
    { rateHz, periodMs, durationS := duration, targetSamples := max 1 (PyFloat.roundHalfEven (duration * rateHz)),
      attempts := samples.length, ok := successful.length, errors := samples.length - successful.length,
      deadlineMisses := samples.countP fun s => periodMs < nsToMs (s.wakeNs - s.targetNs),
      latencyOverPeriod := samples.countP fun s => s.latencyMs.any (periodMs < ·),
      sequenceDuplicates := sequenceDeltas.countP (· = 0),
      sequenceGaps := ((sequenceDeltas.filter (1 < ·)).map fun delta => max 0 (delta - 1)).sum,
      schedulerDriftMs := stats (samples.map fun s => some (nsToMs (s.wakeNs - s.targetNs))),
      latencyMs := stats (samples.map JitterSample.latencyMs),
      requestedIntervalMs := stats (table.map Row.requestedIntervalMs),
      receivedIntervalMs := stats (table.map Row.receivedIntervalMs),
      midpointIntervalMs := stats (table.map Row.midpointIntervalMs),
      requestedJitterMs := jitterStats (table.map Row.requestedJitterMs),
      receivedJitterMs := jitterStats (table.map Row.receivedJitterMs),
      midpointJitterMs := jitterStats (table.map Row.midpointJitterMs) }

/-! ## Sequence numbers -/

/-- The differences of sequence numbers to the number before, modulo 256. -/
def deltas : Option Nat → List Nat → List Int
  | _, [] => []
  | none, s :: later => deltas (some s) later
  | some p, s :: later => (((s : Int) - p) % 256) :: deltas (some s) later

/-- A sample that was not decoded keeps the number before it. -/
theorem sequenceDelta_rowsLoop (startNs : Int) (periodMs : Rat) (previous : Previous) (samples : List JitterSample) :
    (rowsLoop startNs periodMs previous samples).filterMap Row.sequenceDelta =
      deltas previous.sequence (samples.filterMap JitterSample.sequence) := by
  induction samples generalizing previous with
  | nil => cases previous.sequence <;> rfl
  | cons sample later ih =>
      rw [rowsLoop, List.filterMap_cons, List.filterMap_cons, ih]
      cases hs : sample.sequence with
      | none => simp [baseRow, hs, sequenceDelta]
      | some s => cases hp : previous.sequence <;> simp [baseRow, hs, sequenceDelta, deltas]

theorem sequenceDelta_rows (samples : List JitterSample) (rateHz : Rat) :
    (rows samples rateHz).filterMap Row.sequenceDelta = deltas none (samples.filterMap JitterSample.sequence) := by
  cases samples with
  | nil => rfl
  | cons first later => exact sequenceDelta_rowsLoop _ _ _ _

/-- How far each frame number is from the one before. -/
def growths (frames : List Nat) : List Nat := List.zipWith (fun a b => b - a) frames frames.tail

/-- The frame numbers never go back, and fewer than 256 frames lie between two of them. -/
def Grows (frames : List Nat) : Prop := frames.IsChain fun a b => a ≤ b ∧ b - a ≤ 255

instance (frames : List Nat) : Decidable (Grows frames) := inferInstanceAs (Decidable (List.IsChain _ _))

/-- Below 256 the difference of two numbers can be read off from their last bytes. -/
theorem wire_sub {a b : Nat} (hle : a ≤ b) (hgap : b - a ≤ 255) :
    (((b % 256 : Nat) : Int) - (a % 256 : Nat)) % 256 = (b - a : Nat) := by
  omega

theorem deltas_wire {f : Nat} {frames : List Nat} (h : Grows (f :: frames)) :
    deltas (some (f % 256)) (frames.map (· % 256)) = (growths (f :: frames)).map Nat.cast := by
  induction frames generalizing f with
  | nil => rfl
  | cons g frames ih =>
      obtain ⟨⟨hle, hgap⟩, hrest⟩ := List.isChain_cons_cons.mp h
      rw [List.map_cons, deltas, ih hrest, wire_sub hle hgap]
      rfl

theorem sum_gaps (ds : List Nat) :
    (((ds.map Nat.cast : List Int).filter (1 < ·)).map fun delta => max 0 (delta - 1)).sum =
      (ds.map fun d : Nat => max 0 ((d : Int) - 1)).sum := by
  induction ds with
  | nil => rfl
  | cons d ds ih =>
      rw [List.map_cons, List.map_cons, List.sum_cons, List.filter_cons, ← ih]
      split
      · rfl
      · rename_i hd
        have hzero : max 0 ((d : Int) - 1) = 0 := by
          simp only [decide_eq_true_eq] at hd
          omega
        rw [hzero, zero_add]

theorem count_duplicates (ds : List Nat) : (ds.map Nat.cast : List Int).countP (· = 0) = ds.count 0 := by
  rw [List.countP_map, List.count]
  refine List.countP_congr fun d _ => ?_
  simp

/-- The summary reports the frames between the samples and the frames that came twice. -/
theorem summarizeSamples_sequence {samples : List JitterSample} {rateHz duration : Rat} (hrate : 0 < rateHz)
    (hduration : 0 < duration) {frames : List Nat}
    (hwire : samples.filterMap JitterSample.sequence = frames.map (· % 256)) (hgrow : Grows frames) :
    ∃ summary, summarizeSamples samples rateHz duration = .ok summary ∧
      summary.sequenceGaps = ((growths frames).map fun d : Nat => max 0 ((d : Int) - 1)).sum ∧
      summary.sequenceDuplicates = (growths frames).count 0 := by
  have hvalid : validateRunArgs rateHz duration 0 = .ok () := by
    have hperiod : 0 < 1000 / rateHz := div_pos (by norm_num) hrate
    rw [validateRunArgs, if_neg hrate.not_ge, if_neg hduration.not_ge, if_neg (lt_irrefl 0), if_neg hperiod.not_ge]
  have hdeltas : (rows samples rateHz).filterMap Row.sequenceDelta = (growths frames).map Nat.cast := by
    rw [sequenceDelta_rows, hwire]
    cases frames with
    | nil => rfl
    | cons f frames => exact deltas_wire hgrow
  refine ⟨_, by rw [summarizeSamples, hvalid]; rfl, ?_, ?_⟩
  · dsimp only
    rw [hdeltas, sum_gaps]
  · dsimp only
    rw [hdeltas, count_duplicates]

/-- A poll with the sequence number that was decoded, if it was. -/
def pollWith (sequence : Option Nat) : JitterSample where
  index := 0
  targetNs := 0
  wakeNs := 0
  requestedNs := 0
  receivedNs := some 1000000
  decoded := sequence.map fun n =>
    { value := none, unit := "g", sign := "zero", stable := true, offScale := true, overload := some false,
      underload := some false, decimals := some 3, sequence := some n, adcTrusted := none, isocalDue := none,
      raw := "" }
  error := none
  errorType := none

/-- The byte wraps twice, and one poll fails. -/
theorem summarizeSamples_sequence_wraps :
    ∃ summary, summarizeSamples ([some 254, none, some 255, some 255, some 2, some 1].map pollWith) 50 10 =
        .ok summary ∧ summary.sequenceGaps = 256 ∧ summary.sequenceDuplicates = 1 := by
  have hwire : ([some 254, none, some 255, some 255, some 2, some 1].map pollWith).filterMap JitterSample.sequence =
      [254, 255, 255, 258, 513].map (· % 256) := by
    decide
  obtain ⟨summary, hsummary, hgaps, hduplicates⟩ :=
    summarizeSamples_sequence (show (0 : Rat) < 50 by norm_num) (show (0 : Rat) < 10 by norm_num) hwire (by decide)
  exact ⟨summary, hsummary, hgaps.trans (by decide), hduplicates.trans (by decide)⟩

end SartoriusLib.Jitter
