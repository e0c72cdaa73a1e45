import SartoriusLib.Lib.Trace
import SartoriusLib.Streaming.Recorder

/-!
# The pipe from a stream to a sink

`pipe` is written twice, for an asynchronous sink and for a blocking one. Both keep the samples of the batches
in a buffer and flush it when it is full, when the flush interval has passed, and at the end of the stream.
-/

namespace SartoriusLib

open Lib Recorder

variable {W : Type}

namespace Pipe

/-- The local variables of a pipe. -/
structure Locals where
  buffer : List Sample := []
  emitted : Nat := 0
  lastFlush : Rat
  deriving DecidableEq, Repr

/-- A batch of the stream, with the reading of the clock that follows it. -/
abbrev Tick : Type := Batch × Rat

/-- The samples of a batch. -/
def values (batch : Batch) : List Sample := batch.map Prod.snd

def extend (p : Locals) (batch : Batch) : Locals := { p with buffer := p.buffer ++ values batch }

/-- A threshold is crossed. -/
def due (batchSize : Int) (flushInterval : Rat) (p : Locals) (now : Rat) : Bool :=
  decide (batchSize ≤ p.buffer.length) || decide (flushInterval ≤ now - p.lastFlush)

/-- The checks of the arguments. -/
def checkThresholds (batchSize : Int) (flushInterval : Rat) : Py W PUnit :=
  if batchSize < 1 then throw (.valueError s!"batch_size must be >= 1, got {batchSize}")
  else if flushInterval ≤ 0 then
    throw (.valueError s!"flush_interval must be > 0, got {reprSeconds flushInterval}")
  else pure ⟨⟩

/-- A write, after which the buffer is cleared. -/
def writeOut (writeMany : List Sample → Py W PUnit) (p : Locals) : Py W Locals := do
  writeMany p.buffer
  pure { p with buffer := [], emitted := p.emitted + p.buffer.length }

/-- `_flush`: an empty buffer is not written. -/
def flush (writeMany : List Sample → Py W PUnit) (p : Locals) : Py W Locals :=
  if p.buffer = [] then pure p else writeOut writeMany p

def summary (p : Locals) : AcquisitionSummary := { samplesEmitted := p.emitted }

end Pipe

open Pipe

section

variable (batchSize : Int) (flushInterval : Rat) (writeMany : List Sample → Py W PUnit)

/-! ## The asynchronous pipe -/

/-- One batch of the loop. -/
def pipeBatch (p : Locals) (tick : Tick) : Py W Locals := do
  let p := extend p tick.1
  if due batchSize flushInterval p tick.2 then
    let p ← flush writeMany p
    pure { p with lastFlush := tick.2 }
  else pure p

def pipeLoop (p : Locals) (stream : List Tick) : Py W Locals :=
  stream.foldlM (pipeBatch batchSize flushInterval writeMany) p

/-- `pipe` of a stream that ends; `start` is the first reading of the clock. -/
def pipe (stream : List Tick) (start : Rat) : Py W AcquisitionSummary := do
  checkThresholds batchSize flushInterval
  let p ← pipeLoop batchSize flushInterval writeMany { lastFlush := start } stream
  let p ← flush writeMany p
  pure (summary p)

end

/-! ## The blocking pipe -/

/-- The sinks that the blocking pipe takes: an adapter, or an asynchronous sink with a portal to call it through.
The portal is an argument or that of the stream. -/
inductive SyncSink (W : Type) where
  | adapter (writeMany : List Sample → Py W PUnit)
  | sample (writeMany : List Sample → Py W PUnit) (portal : Bool)

namespace SyncSink

def flush? : SyncSink W → Except Exc (List Sample → Py W PUnit)
  | adapter writeMany => .ok writeMany
  | sample writeMany true => .ok writeMany
  | sample _ false =>
      .error (.runtimeError ("pipe: passing an async SampleSink requires a portal — " ++
        "wrap the sink in a SyncSinkAdapter or pass portal=."))

end SyncSink

section

variable (batchSize : Int) (flushInterval : Rat) (flush : List Sample → Py W PUnit)

/-- One batch of the loop; the buffer is written without a look at it. -/
def syncPipeBatch (p : Locals) (tick : Tick) : Py W Locals := do
  let p := extend p tick.1
  if due batchSize flushInterval p tick.2 then
    let p ← writeOut flush p
    pure { p with lastFlush := tick.2 }
  else pure p

def syncPipeLoop (p : Locals) (stream : List Tick) : Py W Locals :=
  stream.foldlM (syncPipeBatch batchSize flushInterval flush) p

end

/-- `sartoriuslib.sync.pipe`. -/
def syncPipe (batchSize : Int) (flushInterval : Rat) (sink : SyncSink W) (stream : List Tick) (start : Rat) :
    Py W AcquisitionSummary := do
  checkThresholds batchSize flushInterval
  match sink.flush? with
  | .error e => throw e
  | .ok flush =>
      let p ← syncPipeLoop batchSize flushInterval flush { lastFlush := start } stream
      let p ← if p.buffer = [] then pure p else writeOut flush p
      pure (summary p)

/-! ## The calls of a sink -/

/-- The state of a sink, with the lists that `write_many` was called with. -/
structure Calls (W : Type) where
  world : W
  calls : List (List Sample) := []

/-- A sink whose calls are logged. -/
def callLogged (writeMany : List Sample → Py W PUnit) (samples : List Sample) : Py (Calls W) PUnit :=
  Prog.ofFun fun s => (((writeMany samples).exec s.world).1,
    { world := ((writeMany samples).exec s.world).2, calls := s.calls ++ [samples] })

theorem callLogged_emits (writeMany : List Sample → Py W PUnit) (samples : List Sample) :
    Prog.Emits Calls.calls (callLogged writeMany samples) fun _ calls => calls = [samples] :=
  fun _ => ⟨_, rfl, rfl⟩

namespace Pipe

/-- The samples of a stream. -/
def samples (stream : List Tick) : List Sample := stream.flatMap fun tick => values tick.1

@[simp] theorem samples_nil : samples [] = [] := rfl

@[simp] theorem samples_cons (tick : Tick) (stream : List Tick) :
    samples (tick :: stream) = values tick.1 ++ samples stream := rfl

@[simp] theorem extend_buffer (p : Locals) (batch : Batch) : (extend p batch).buffer = p.buffer ++ values batch :=
  rfl

@[simp] theorem extend_emitted (p : Locals) (batch : Batch) : (extend p batch).emitted = p.emitted := rfl

@[simp] theorem extend_lastFlush (p : Locals) (batch : Batch) : (extend p batch).lastFlush = p.lastFlush := rfl

/-- From `p`, with `taken` from the stream, a part of a pipe made `calls` and left `p'`: every sample was written
once, in order, or is still in the buffer. -/
structure Moved (p p' : Locals) (taken : List Sample) (calls : List (List Sample)) : Prop where
  contents : p.buffer ++ taken = calls.flatten ++ p'.buffer
  count : p'.emitted = p.emitted + calls.flatten.length

variable {p q r : Locals} {taken later : List Sample} {calls calls' : List (List Sample)}

theorem Moved.refl (p : Locals) : Moved p p [] [] := ⟨by simp, by simp⟩

theorem Moved.extend (p : Locals) (batch : Batch) : Moved p (extend p batch) (values batch) [] :=
  ⟨by simp, by simp⟩

theorem Moved.trans (h : Moved p q taken calls) (h' : Moved q r later calls') :
    Moved p r (taken ++ later) (calls ++ calls') where
  contents := by
    rw [← List.append_assoc, h.contents, List.append_assoc, h'.contents, List.flatten_append, List.append_assoc]
  count := by
    rw [h'.count, h.count, List.flatten_append, List.length_append, Nat.add_assoc]

/-- The clock of a flush is no part of the account. -/
theorem Moved.flushedAt (h : Moved p q taken calls) (now : Rat) : Moved p { q with lastFlush := now } taken calls :=
  ⟨h.contents, h.count⟩

end Pipe

/-! ## The account of the asynchronous pipe -/

/-- No call was empty, and `P` holds of a return with the calls. -/
structure Wrote {α : Type} (P : α → List (List Sample) → Prop) (r : Except Exc α) (calls : List (List Sample)) :
    Prop where
  nonempty : ∀ call ∈ calls, call ≠ []
  returned : ∀ a, r = .ok a → P a calls

section

variable {α β : Type} {P : α → List (List Sample) → Prop} {Q : β → List (List Sample) → Prop}

theorem Wrote.pure {a : α} (h : P a []) : Prog.Emits Calls.calls (pure a : Py (Calls W) α) (Wrote P) :=
  Prog.Emits.pure ⟨fun _ hc => absurd hc List.not_mem_nil, fun _ ha => Except.ok.inj ha ▸ h⟩

theorem Wrote.bind {m : Py (Calls W) α} {f : α → Py (Calls W) β} (hm : Prog.Emits Calls.calls m (Wrote P))
    (hf : ∀ a calls, P a calls → Prog.Emits Calls.calls (f a) (Wrote fun b later => Q b (calls ++ later))) :
    Prog.Emits Calls.calls (m >>= f) (Wrote Q) := by
  refine Prog.Emits.bind hm (fun e calls h => ⟨h.nonempty, nofun⟩) ?_
  intro a calls h
  refine (hf a calls (h.returned a rfl)).conseq fun r later h' => ⟨?_, h'.returned⟩
  intro call hc
  cases List.mem_append.mp hc with
  | inl hc => exact h.nonempty call hc
  | inr hc => exact h'.nonempty call hc

end

section

variable {batchSize : Int} {flushInterval start : Rat} {writeMany : List Sample → Py W PUnit} {p : Locals}

theorem callLogged_wrote {list : List Sample} (h : list ≠ []) :
    Prog.Emits Calls.calls (callLogged writeMany list) (Wrote fun _ calls => calls = [list]) := by
  refine (callLogged_emits writeMany list).conseq ?_
  rintro r calls rfl
  exact ⟨fun call hc => List.mem_singleton.mp hc ▸ h, fun _ _ => rfl⟩

theorem flush_wrote :
    Prog.Emits Calls.calls (flush (callLogged writeMany) p) (Wrote fun p' calls =>
      Moved p p' [] calls ∧ p'.buffer = []) := by
  unfold flush
  split
  · next h => exact Wrote.pure ⟨Moved.refl p, h⟩
  · next h =>
      refine Wrote.bind (callLogged_wrote h) ?_
      rintro - calls rfl
      exact Wrote.pure ⟨⟨by simp, by simp⟩, rfl⟩

theorem pipeBatch_wrote (hsize : 1 ≤ batchSize) (tick : Tick) :
    Prog.Emits Calls.calls (pipeBatch batchSize flushInterval (callLogged writeMany) p tick) (Wrote fun p' calls =>
      Moved p p' (values tick.1) calls ∧ (p'.buffer.length : Int) < batchSize) := by
  unfold pipeBatch
  dsimp only
  split
  · refine Wrote.bind flush_wrote ?_
    intro q calls hq
    obtain ⟨hm, hb⟩ := hq
    refine Wrote.pure ⟨?_, ?_⟩
    · simpa using ((Moved.extend p tick.1).trans hm).flushedAt tick.2
    · simp only [hb, List.length_nil]
      omega
  · next h =>
      refine Wrote.pure ⟨Moved.extend p tick.1, ?_⟩
      simp only [due, Bool.or_eq_true, decide_eq_true_eq, not_or, Int.not_le] at h
      exact h.1

theorem pipeLoop_wrote (hsize : 1 ≤ batchSize) (stream : List Tick) (p : Locals)
    (hp : (p.buffer.length : Int) < batchSize) :
    Prog.Emits Calls.calls (pipeLoop batchSize flushInterval (callLogged writeMany) p stream) (Wrote fun p' calls =>
      Moved p p' (samples stream) calls ∧ (p'.buffer.length : Int) < batchSize) := by
  induction stream generalizing p with
  | nil => exact Wrote.pure ⟨Moved.refl p, hp⟩
  | cons tick stream ih =>
      refine Wrote.bind (pipeBatch_wrote hsize tick) ?_
      intro q calls hq
      refine (ih q hq.2).conseq fun r later hr => ⟨hr.nonempty, fun a ha => ?_⟩
      obtain ⟨hm, hb⟩ := hr.returned a ha
      exact ⟨hq.1.trans hm, hb⟩

/-- What the asynchronous pipe writes is the stream. -/
theorem pipe_wrote (hsize : 1 ≤ batchSize) (stream : List Tick) :
    Prog.Emits Calls.calls (pipe batchSize flushInterval (callLogged writeMany) stream start)
      (Wrote fun summary calls => calls.flatten = samples stream ∧ summary.samplesEmitted = calls.flatten.length) := by
  have hzero : (([] : List Sample).length : Int) < batchSize := by simpa using Int.lt_of_lt_of_le Int.zero_lt_one hsize
  have hcheck : Prog.Emits Calls.calls (checkThresholds batchSize flushInterval : Py (Calls W) PUnit)
      (Wrote fun _ calls => calls = []) := by
    unfold checkThresholds
    repeat' split
    · exact Prog.Emits.throw ⟨fun _ hc => absurd hc List.not_mem_nil, nofun⟩
    · exact Prog.Emits.throw ⟨fun _ hc => absurd hc List.not_mem_nil, nofun⟩
    · exact Wrote.pure rfl
  unfold pipe
  refine Wrote.bind hcheck ?_
  rintro - calls rfl
  refine Wrote.bind (pipeLoop_wrote hsize stream _ hzero) ?_
  intro q calls hq
  refine Wrote.bind flush_wrote ?_
  intro r later hr
  have hm := hq.1.trans hr.1
  refine Wrote.pure ⟨?_, ?_⟩
  · simpa [hr.2] using hm.contents.symm
  · simpa [summary] using hm.count

end

/-! ## The two pipes side by side -/

/-- At every flush that a threshold asks for, a sample is held: `held` of them, and `last` the clock of the flush
before. -/
def NoIdleFlush (batchSize : Int) (flushInterval : Rat) : Nat → Rat → List Tick → Prop
  | _, _, [] => True
  | held, last, tick :: stream =>
      if batchSize ≤ held + tick.1.length ∨ flushInterval ≤ tick.2 - last then
        0 < held + tick.1.length ∧ NoIdleFlush batchSize flushInterval 0 tick.2 stream
      else NoIdleFlush batchSize flushInterval (held + tick.1.length) last stream

instance decidableNoIdleFlush (batchSize : Int) (flushInterval : Rat) :
    ∀ held last stream, Decidable (NoIdleFlush batchSize flushInterval held last stream)
  | _, _, [] => isTrue trivial
  | held, last, tick :: stream =>
      have := decidableNoIdleFlush batchSize flushInterval 0 tick.2 stream
      have := decidableNoIdleFlush batchSize flushInterval (held + tick.1.length) last stream
      inferInstanceAs (Decidable (if batchSize ≤ held + tick.1.length ∨ flushInterval ≤ tick.2 - last then
        0 < held + tick.1.length ∧ NoIdleFlush batchSize flushInterval 0 tick.2 stream
      else NoIdleFlush batchSize flushInterval (held + tick.1.length) last stream))

section

variable {batchSize : Int} {flushInterval start : Rat} {writeMany : List Sample → Py W PUnit} {p : Locals}
  {tick : Tick} {stream : List Tick}

theorem due_iff :
    due batchSize flushInterval (extend p tick.1) tick.2 = true ↔
      batchSize ≤ p.buffer.length + tick.1.length ∨ flushInterval ≤ tick.2 - p.lastFlush := by
  simp only [due, Bool.or_eq_true, decide_eq_true_eq]
  simp [values]

theorem writeOut_bind {α : Type} (f : Locals → Py W α) :
    (writeOut writeMany p >>= f) =
      writeMany p.buffer >>= fun _ => f { p with buffer := [], emitted := p.emitted + p.buffer.length } := by
  simp [writeOut]

/-- Where every flush has something to write, the loops are one. -/
theorem syncPipeLoop_eq (h : NoIdleFlush batchSize flushInterval p.buffer.length p.lastFlush stream) :
    syncPipeLoop batchSize flushInterval writeMany p stream = pipeLoop batchSize flushInterval writeMany p stream := by
  induction stream generalizing p with
  | nil => rfl
  | cons tick stream ih =>
      unfold NoIdleFlush at h
      simp only [syncPipeLoop, pipeLoop, List.foldlM_cons, syncPipeBatch, pipeBatch, due_iff]
      split
      · next hdue =>
          rw [if_pos hdue] at h
          have hne : (extend p tick.1).buffer ≠ [] := by
            apply List.ne_nil_of_length_pos
            simpa [values] using h.1
          simp only [flush, if_neg hne, writeOut_bind, bind_assoc, pure_bind]
          exact congrArg _ (funext fun _ => ih h.2)
      · next hdue =>
          rw [if_neg hdue] at h
          simp only [pure_bind]
          exact ih (by simpa [values] using h)

theorem syncPipe_eq {sink : SyncSink W} (hsink : sink.flush? = .ok writeMany)
    (h : NoIdleFlush batchSize flushInterval 0 start stream) :
    syncPipe batchSize flushInterval sink stream start = pipe batchSize flushInterval writeMany stream start := by
  simp only [syncPipe, pipe, hsink]
  rw [syncPipeLoop_eq h]
  refine congrArg _ (funext fun _ => congrArg _ (funext fun p => ?_))
  unfold flush
  split <;> rfl

/-! ## The idle flush -/

theorem syncPipeBatch_grows (p : Locals) (tick : Tick) :
    Prog.Emits Calls.calls (syncPipeBatch batchSize flushInterval (callLogged writeMany) p tick) fun _ _ => True := by
  unfold syncPipeBatch
  dsimp only
  split
  · simp only [writeOut_bind]
    exact (callLogged_emits writeMany _).bind (fun _ _ _ => trivial) fun _ _ _ => Prog.Emits.pure trivial
  · exact Prog.Emits.pure trivial

theorem syncPipeLoop_grows (stream : List Tick) (p : Locals) :
    Prog.Emits Calls.calls (syncPipeLoop batchSize flushInterval (callLogged writeMany) p stream) fun _ _ => True := by
  induction stream generalizing p with
  | nil => exact Prog.Emits.pure trivial
  | cons tick stream ih =>
      exact (syncPipeBatch_grows p tick).bind (fun _ _ _ => trivial) fun q _ _ => ih q

/-- A sink that takes everything. -/
def silent : List Sample → Py PUnit PUnit := fun _ => pure ⟨⟩

theorem silent_emits {list : List Sample} :
    Prog.Emits Calls.calls (callLogged silent list) fun r calls => r = .ok ⟨⟩ ∧ calls = [list] :=
  fun _ => ⟨_, rfl, rfl, rfl⟩

/-- A flush of the blocking loop that finds nothing held is an empty write. -/
theorem syncPipeLoop_idle (h : ¬ NoIdleFlush batchSize flushInterval p.buffer.length p.lastFlush stream) :
    Prog.Emits Calls.calls (syncPipeLoop batchSize flushInterval (callLogged silent) p stream) fun _ calls =>
      [] ∈ calls := by
  induction stream generalizing p with
  | nil => exact absurd trivial h
  | cons tick stream ih =>
      unfold NoIdleFlush at h
      simp only [syncPipeLoop, List.foldlM_cons, syncPipeBatch, due_iff]
      split
      · next hdue =>
          rw [if_pos hdue] at h
          simp only [writeOut_bind, bind_assoc, pure_bind]
          refine silent_emits.bind (fun _ _ h => nomatch h.1) ?_
          rintro - calls ⟨-, rfl⟩
          rcases Nat.eq_zero_or_pos (p.buffer.length + tick.1.length) with hzero | hpos
          · -- nothing is held: this write is the empty one
            have hnil : (extend p tick.1).buffer = [] := by
              apply List.eq_nil_of_length_eq_zero
              simpa [values] using hzero
            have hin : [] ∈ [(extend p tick.1).buffer] := List.mem_singleton.mpr hnil.symm
            exact (syncPipeLoop_grows stream _).conseq fun _ _ _ => List.mem_append_left _ hin
          · refine (ih ?_).conseq fun _ _ hin => List.mem_append_right _ hin
            exact fun hn => h ⟨hpos, hn⟩
      · next hdue =>
          rw [if_neg hdue] at h
          simp only [pure_bind]
          exact ih (by simpa [values] using h)

theorem checkThresholds_pass (hsize : 1 ≤ batchSize) (hinterval : 0 < flushInterval) :
    (checkThresholds batchSize flushInterval : Py W PUnit) = pure ⟨⟩ := by
  unfold checkThresholds
  rw [if_neg (by omega), if_neg (not_le.mpr hinterval)]

theorem syncPipe_idle (hsize : 1 ≤ batchSize) (hinterval : 0 < flushInterval)
    (h : ¬ NoIdleFlush batchSize flushInterval 0 start stream) :
    Prog.Emits Calls.calls (syncPipe batchSize flushInterval (.adapter (callLogged silent)) stream start)
      fun _ calls => [] ∈ calls := by
  simp only [syncPipe, SyncSink.flush?, checkThresholds_pass hsize hinterval, pure_bind]
  refine (syncPipeLoop_idle h).bind (fun _ _ hin => hin) ?_
  intro p calls hin
  have hrest (m : Py (Calls PUnit) AcquisitionSummary) (hm : Prog.Emits Calls.calls m fun _ _ => True) :
      Prog.Emits Calls.calls m fun _ later => [] ∈ calls ++ later :=
    hm.conseq fun _ _ _ => List.mem_append_left _ hin
  split
  · exact hrest _ (Prog.Emits.pure trivial)
  · refine hrest _ ?_
    rw [writeOut_bind]
    exact silent_emits.bind (fun _ _ _ => trivial) fun _ _ _ => Prog.Emits.pure trivial

end

/-! ## Exactly once -/

/-- For every sink: a pipe that returns has written the samples of the stream, once and in order, and counted
them; no write is empty; what stays buffered after each batch is less than a full buffer; and the blocking pipe
makes the same calls with the same outcome. -/
structure DeliversOnce (batchSize : Int) (flushInterval : Rat) (stream : List Tick) (start : Rat) : Prop where
  written : ∀ {W : Type} (writeMany : List Sample → Py W PUnit) (w : W) (summary : AcquisitionSummary)
    (s : Calls W), (pipe batchSize flushInterval (callLogged writeMany) stream start).exec ⟨w, []⟩ = (.ok summary, s) →
      s.calls.flatten = samples stream ∧ summary.samplesEmitted = s.calls.flatten.length ∧
        ∀ call ∈ s.calls, call ≠ []
  buffered : ∀ {W : Type} (writeMany : List Sample → Py W PUnit) (w : W) (taken : List Tick) (p : Locals)
    (s : Calls W), taken <+: stream →
      (pipeLoop batchSize flushInterval (callLogged writeMany) { lastFlush := start } taken).exec ⟨w, []⟩ = (.ok p, s) →
        (p.buffer.length : Int) < batchSize
  blocking : ∀ {W : Type} (writeMany : List Sample → Py W PUnit) (sink : SyncSink (Calls W)) (w : W),
    sink.flush? = .ok (callLogged writeMany) →
      (syncPipe batchSize flushInterval sink stream start).exec ⟨w, []⟩ =
        (pipe batchSize flushInterval (callLogged writeMany) stream start).exec ⟨w, []⟩

theorem deliversOnce_iff {batchSize : Int} {flushInterval start : Rat} {stream : List Tick} (hsize : 1 ≤ batchSize)
    (hinterval : 0 < flushInterval) :
    DeliversOnce batchSize flushInterval stream start ↔ NoIdleFlush batchSize flushInterval 0 start stream := by
  constructor
  · intro h
    by_contra hidle
    obtain ⟨calls, hcalls, hin⟩ := syncPipe_idle hsize hinterval hidle ⟨⟨⟩, []⟩
    obtain ⟨calls', hcalls', hw⟩ := @pipe_wrote _ _ _ _ silent hsize stream ⟨⟨⟩, []⟩
    rw [h.blocking silent _ ⟨⟩ rfl, hcalls'] at hcalls
    rw [List.append_cancel_left hcalls] at hw
    exact hw.nonempty [] hin rfl
  · intro h
    have hzero : (([] : List Sample).length : Int) < batchSize := by
      simpa using Int.lt_of_lt_of_le Int.zero_lt_one hsize
    refine ⟨?_, ?_, ?_⟩
    · intro W writeMany w summary s hs
      obtain ⟨calls, hcalls, hw⟩ := pipe_wrote hsize stream ⟨w, []⟩
      rw [hs] at hcalls hw
      obtain ⟨hflat, hcount⟩ := hw.returned summary rfl
      rw [show s.calls = calls from hcalls]
      exact ⟨hflat, hcount, hw.nonempty⟩
    · intro W writeMany w taken p s _ hs
      obtain ⟨calls, -, hw⟩ := pipeLoop_wrote hsize taken { lastFlush := start } hzero ⟨w, []⟩
      exact (hw.returned p (congrArg Prod.fst hs)).2
    · intro W writeMany sink w hsink
      rw [syncPipe_eq hsink h]

/-- A sample, then two empty batches within the flush interval. -/
theorem deliversOnce_quiet :
    DeliversOnce 2 1 [(buildBatch [("a", ⟨none, none⟩)] ⟨0, 0, 0, 0⟩, 1 / 4), ([], 1 / 2), ([], 3 / 4)] 0 :=
  (deliversOnce_iff (by decide) (by decide)).mpr (by decide +kernel)

/-- An empty batch after an idle second: only the blocking pipe writes. -/
theorem idle_flush_writes : ¬ DeliversOnce 64 1 [([], 2)] 0 := by
  intro h
  have heq := congrArg (fun r => r.2.calls) (h.blocking silent (.adapter (callLogged silent)) ⟨⟩ rfl)
  exact absurd heq (by decide +kernel)

end SartoriusLib
