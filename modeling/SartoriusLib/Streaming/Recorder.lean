import SartoriusLib.Lib.Run
import SartoriusLib.Streaming.Sample

/-!
# The recorder

The producer polls at absolute targets `start + tick * period` and puts one batch for each tick on the stream.
A tick that was overrun is skipped and counted as late, and so is one whose batch the overflow policy drops. The
machine below takes one step for each stretch of the producer between two awaits, and one for each batch that
the consumer takes.
-/

namespace SartoriusLib.Recorder

open SartoriusLib Lib

inductive OverflowPolicy where
  | block
  | dropNewest
  | dropOldest
  deriving DecidableEq, Repr

/-- The totals; the wall-clock fields are not read by anything here. -/
structure AcquisitionSummary where
  samplesEmitted : Nat := 0
  samplesLate : Nat := 0
  maxDriftMs : Rat := 0
  targetTotalSamples : Option Nat := none
  deriving DecidableEq, Repr

/-- What `record()` hands to the producer. -/
structure Options where
  period : Rat
  totalTicks : Option Nat
  overflow : OverflowPolicy
  bufferSize : Nat
  deriving DecidableEq, Repr

/-- The checks of `record()`, and the number of ticks of a finite run. -/
def record (rateHz : Rat) (duration : Option Rat) (overflow : OverflowPolicy) (bufferSize : Int) :
    Except Exc Options :=
  if rateHz ≤ 0 then .error (.valueError s!"rate_hz must be > 0, got {reprSeconds rateHz}")
  else if duration.any (· ≤ 0) then
    .error (.valueError s!"duration must be > 0 or None, got {reprSeconds (duration.getD 0)}")
  else if bufferSize < 1 then .error (.valueError s!"buffer_size must be >= 1, got {bufferSize}")
  else if overflow = .dropOldest then
    -- `NotImplementedError` is a `RuntimeError`
    .error (.runtimeError ("OverflowPolicy.DROP_OLDEST is not yet implemented; use BLOCK " ++
      "or DROP_NEWEST for now (design §10)."))
  else
    .ok
      { period := 1 / rateHz,
        totalTicks := duration.map fun d => (max 1 (PyFloat.roundHalfEven (d * rateHz))).toNat,
        overflow, bufferSize := bufferSize.toNat }

abbrev Batch : Type := Dict String Sample

/-- Where the producer is. -/
inductive Phase where
  /-- At the test of its loop. -/
  | head
  /-- In `sleep_until(target)`. -/
  | sleeping (target : Rat)
  /-- In `source.poll(names)`. -/
  | polling (target : Rat)
  /-- In `send(batch)`, with the buffer of the stream full. -/
  | sending (batch : Batch)
  /-- In `send`, after the consumer made room and its batch was buffered. -/
  | sent
  | returned
  | raised
  deriving DecidableEq, Repr

/-- The producer, the stream and the consumer. The last four fields are a log. -/
structure State where
  start : Rat
  /-- The last reading of the clock. -/
  clock : Rat
  tick : Nat := 0
  phase : Phase := .head
  summary : AcquisitionSummary
  /-- The batches in the buffer of the stream. -/
  buffer : List Batch := []
  /-- The consumer has closed its end. -/
  receiverClosed : Bool := false
  /-- The ticks that were polled, with the clock when the poll began. -/
  polls : List (Nat × Rat) := []
  /-- The batches that were polled. -/
  batches : List Batch := []
  /-- The batches that were put on the stream. -/
  put : List Batch := []
  /-- The batches that the consumer took. -/
  received : List Batch := []
  deriving DecidableEq, Repr

def initial (o : Options) (start : Rat) : State where
  start
  clock := start
  summary := { targetTotalSamples := o.totalTicks }

inductive Event where
  /-- The producer runs from the test of its loop, with two readings of the clock, to its next await. -/
  | turn (now later : Rat)
  /-- `sleep_until` returns. -/
  | wake (now : Rat)
  /-- `source.poll` returns; the batch is published. -/
  | answer (results : Dict String (DeviceResult Reading)) (timing : PollTiming) (now : Rat)
  /-- The producer goes on after a `send` that had to wait. -/
  | resume (now : Rat)
  /-- What the producer awaits raises, or the producer is cancelled there. -/
  | fail
  /-- The consumer takes a batch. -/
  | receive
  /-- The consumer closes its end of the stream. -/
  | close
  deriving DecidableEq, Repr

namespace State

def updateSummary (s : State) (f : AcquisitionSummary → AcquisitionSummary) : State :=
  { s with summary := f s.summary }

/-- `samples_late += missed; tick += missed`. -/
def skip (s : State) (missed : Nat) : State :=
  { s with tick := s.tick + missed, summary := { s.summary with samplesLate := s.summary.samplesLate + missed } }

/-- The poll of the current tick begins. -/
def poll (s : State) (target now : Rat) : State :=
  { s with clock := now, phase := .polling target, polls := s.polls ++ [(s.tick, now)] }

/-- From the target of the tick to the next await. -/
def await (s : State) (target later : Rat) : State :=
  if later < target then { s with clock := later, phase := .sleeping target } else s.poll target later

/-- `send_nowait` with room: the batch is on the stream. -/
def enqueue (s : State) (batch : Batch) : State :=
  { s with buffer := s.buffer ++ [batch], put := s.put ++ [batch] }

/-- `samples_emitted += 1; tick += 1`. -/
def emitted (s : State) : State :=
  { s with tick := s.tick + 1, phase := .head,
           summary := { s.summary with samplesEmitted := s.summary.samplesEmitted + 1 } }

/-- `samples_late += 1; tick += 1`. -/
def dropped (s : State) : State :=
  { s with tick := s.tick + 1, phase := .head,
           summary := { s.summary with samplesLate := s.summary.samplesLate + 1 } }

end State

/-- The loop test fails. -/
def finished (o : Options) (tick : Nat) : Bool := o.totalTicks.any (· ≤ tick)

/-- The number of slots that are skipped, at most the slots that are left. -/
def missedSlots (o : Options) (s : State) (now target : Rat) : Nat :=
  let missed := ((now - target) / o.period).floor.toNat
  match o.totalTicks with
  | none => missed
  | some total => min missed (total - s.tick)

/-- The target of a tick. -/
def targetOf (o : Options) (s : State) : Rat := s.start + s.tick * o.period

/-- One turn of the loop up to its first await. -/
def turn (o : Options) (s : State) (now later : Rat) : State :=
  if finished o s.tick then { s with phase := .returned }
  else
    let target := targetOf o s
    if target + o.period < now then
      let s := s.skip (missedSlots o s now target)
      if finished o s.tick then { s with clock := now, phase := .returned }
      else s.await (targetOf o s) later
    else s.await target later

/-- `_publish`; a stream without a receiver raises. -/
def publish (o : Options) (s : State) (batch : Batch) : State :=
  let s := { s with batches := s.batches ++ [batch] }
  match o.overflow with
  | .block =>
      if s.receiverClosed then { s with phase := .raised }
      else if s.buffer.length < o.bufferSize then (s.enqueue batch).emitted
      else { s with phase := .sending batch }
  | .dropNewest =>
      if s.receiverClosed then { s with phase := .raised }
      else if s.buffer.length < o.bufferSize then (s.enqueue batch).emitted
      else s.dropped
  | .dropOldest => { s with phase := .raised }

/-- The drift of a batch from its target, in milliseconds. -/
def drift (s : State) (target now : Rat) : State :=
  { s with clock := now,
           summary := { s.summary with maxDriftMs := max s.summary.maxDriftMs ((now - target) * 1000) } }

def step (o : Options) (s : State) : Event → Option State
  | .turn now later =>
      if s.phase = .head ∧ s.clock ≤ now ∧ now ≤ later then some (turn o s now later) else none
  | .wake now =>
      match s.phase with
      | .sleeping target => if s.clock ≤ now ∧ target ≤ now then some (s.poll target now) else none
      | _ => none
  | .answer results timing now =>
      match s.phase with
      | .polling target =>
          if s.clock ≤ now then some (publish o (drift s target now) (buildBatch results timing)) else none
      | _ => none
  | .resume now => if s.phase = .sent ∧ s.clock ≤ now then some { s.emitted with clock := now } else none
  | .fail =>
      match s.phase with
      | .head | .returned | .raised => none
      | _ => some { s with phase := .raised }
  | .receive =>
      match s.buffer with
      | [] => none
      | batch :: rest =>
          if s.receiverClosed then none
          else
            let s := { s with buffer := rest, received := s.received ++ [batch] }
            match s.phase with
            | .sending waiting => some { s.enqueue waiting with phase := .sent }
            | _ => some s
  | .close => some { s with receiverClosed := true }

end SartoriusLib.Recorder
