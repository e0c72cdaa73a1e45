import SartoriusLib.Sinks.Csv
import SartoriusLib.Sinks.Pipe
import SartoriusLib.Sinks.Timed

/-!
# Recordings in files

A pipe that runs inside of the context of a file sink leaves a file with every sample of the stream, in order and
once, whatever the batches, the thresholds and the clock were.
-/

namespace SartoriusLib.Sinks

open SartoriusLib Lib Prog Recorder Pipe

/-! ## File sinks -/

/-- A sink on a file, with what it holds; an open one takes every batch. -/
structure FileSink (σ : Type) where
  openFile : Py σ PUnit
  writeMany : List Sample → Py σ PUnit
  close : Py σ PUnit
  Holds : σ → Written → Prop
  opens : ∀ s w, Holds s w → ∃ s', openFile.exec s = (.ok ⟨⟩, s') ∧ Holds s' (w.step .openFile)
  writes : ∀ s w samples, Holds s w → w.isOpen = true →
    ∃ s', (writeMany samples).exec s = (.ok ⟨⟩, s') ∧ Holds s' (w.step (.writeMany samples))
  closes : ∀ s w, Holds s w → ∃ s', close.exec s = (.ok ⟨⟩, s') ∧ Holds s' (w.step .close)

theorem JsonlSink.exec_writeMany {sink : JsonlSink} (hfile : sink.file = true) (samples : List Sample) :
    ((JsonlSink.writeMany samples).exec sink).1 = .ok ⟨⟩ := by
  rw [JsonlSink.writeMany, exec_bind_ok (exec_get _), hfile, if_neg (by simp)]
  split <;> rfl

def jsonlFile : FileSink JsonlSink where
  openFile := JsonlSink.openFile
  writeMany := JsonlSink.writeMany
  close := JsonlSink.close
  Holds := JsonlSink.Holds
  opens _ _ h := ⟨_, rfl, h.call .openFile⟩
  writes _ _ samples h hopen :=
    ⟨_, Prod.ext (JsonlSink.exec_writeMany (h.file.trans hopen) samples) rfl, h.writeMany samples⟩
  closes _ _ h := ⟨_, rfl, h.call .close⟩

theorem CsvSink.exec_writeMany {sink : CsvSink} {w : Written} (h : CsvSink.Holds sink w) (hopen : w.isOpen = true)
    (samples : List Sample) : ((CsvSink.writeMany samples).exec sink).1 = .ok ⟨⟩ := by
  have hfile : sink.file = true := h.file.trans hopen
  have hwriter := h.writer
  rw [CsvSink.writeMany, exec_bind_ok (exec_get _), hfile, if_neg (by simp)]
  by_cases hne : samples = []
  · rw [if_pos hne]
    rfl
  · rw [if_neg hne]
    dsimp only
    by_cases hfirst : w.samples = []
    · rw [if_neg (by simp [hfirst])] at hwriter
      rw [hwriter, if_pos (by rfl), exec_bind_ok (CsvSink.exec_prepare hne sink), CsvSink.exec_writeRows samples rfl rfl]
    · rw [if_pos ⟨hopen, hfirst⟩] at hwriter
      rw [hwriter, if_neg (by simp), CsvSink.exec_writeRows samples hwriter (h.columns _ hwriter)]

def csvFile : FileSink CsvSink where
  openFile := CsvSink.openFile
  writeMany := CsvSink.writeMany
  close := CsvSink.close
  Holds := CsvSink.Holds
  opens _ _ h := ⟨_, rfl, h.openFile⟩
  writes _ _ samples h hopen := ⟨_, Prod.ext (CsvSink.exec_writeMany h hopen samples) rfl, h.writeMany samples⟩
  closes _ _ h := ⟨_, rfl, h.close⟩

/-! ## The pipe -/

section

variable {σ : Type} (F : FileSink σ) (batchSize : Int) (flushInterval : Rat)

/-- The writes of a pipe. -/
def FileSink.writeSamples (samples : List SartoriusLib.Sample) : Py σ PUnit := F.writeMany (samples.map ofTimed)

/-- `async with sink: return await pipe(stream, sink, ...)`. -/
def FileSink.pipeInto (stream : List Tick) (start : Rat) : Py σ AcquisitionSummary := do
  F.openFile
  let summary ← tryCatch (pipe batchSize flushInterval F.writeSamples stream start) fun e => do
    F.close
    throw e
  F.close
  pure summary

variable {F batchSize flushInterval} {p : Locals} {taken : List SartoriusLib.Sample}

/-- The samples that were taken from the stream are in the file or in the buffer. -/
structure Carried (F : FileSink σ) (taken : List SartoriusLib.Sample) (p : Locals) (s : σ) : Prop where
  holds : ∃ flushed, F.Holds s ⟨true, flushed.map ofTimed⟩ ∧ flushed ++ p.buffer = taken ∧ p.emitted = flushed.length

/-- A pipe does not raise once its arguments are checked. -/
abbrev never {ε : Type} : ε → σ → Prop := fun _ _ => False

theorem writeOut_carried (p : Locals) :
    Triple (Carried F taken p) (writeOut F.writeSamples p)
      (fun p' s => Carried F taken p' s ∧ p'.buffer = []) never := by
  rintro s ⟨flushed, hholds, htaken, hcount⟩
  obtain ⟨s', hwrite, hholds'⟩ := F.writes s _ (p.buffer.map ofTimed) hholds rfl
  have hrun : (writeOut F.writeSamples p).exec s =
      (.ok { p with buffer := [], emitted := p.emitted + p.buffer.length }, s') := exec_bind_ok hwrite
  rw [hrun]
  refine ⟨⟨flushed ++ p.buffer, ?_, ?_, ?_⟩, rfl⟩
  · rw [List.map_append]
    exact hholds'
  · rw [List.append_nil, htaken]
  · rw [List.length_append, ← hcount]

theorem flush_carried (p : Locals) :
    Triple (Carried F taken p) (flush F.writeSamples p)
      (fun p' s => Carried F taken p' s ∧ p'.buffer = []) never := by
  rw [flush]
  split
  · exact Triple.pure fun s hs => ⟨hs, ‹_›⟩
  · exact writeOut_carried p

theorem pipeBatch_carried (p : Locals) (tick : Tick) :
    Triple (Carried F taken p) (pipeBatch batchSize flushInterval F.writeSamples p tick)
      (Carried F (taken ++ values tick.1)) never := by
  have hextend : ∀ s, Carried F taken p s → Carried F (taken ++ values tick.1) (extend p tick.1) s := by
    rintro s ⟨flushed, hholds, htaken, hcount⟩
    exact ⟨flushed, hholds, by rw [← htaken, List.append_assoc]; rfl, hcount⟩
  rw [pipeBatch]
  split
  · refine Triple.bind ((flush_carried _).conseq hextend (fun _ _ hq => hq) fun _ _ hr => hr) fun p' => ?_
    exact Triple.pure fun s hs => ⟨hs.1.holds⟩
  · exact Triple.pure hextend

theorem pipeLoop_carried (taken : List SartoriusLib.Sample) (stream : List Tick) (p : Locals) :
    Triple (Carried F taken p) (pipeLoop batchSize flushInterval F.writeSamples p stream)
      (Carried F (taken ++ samples stream)) never := by
  induction stream generalizing p taken with
  | nil => exact Triple.pure fun s hs => by rw [samples_nil, List.append_nil]; exact hs
  | cons tick stream ih =>
      have hsamples : taken ++ samples (tick :: stream) = taken ++ values tick.1 ++ samples stream := by
        rw [List.append_assoc]
        rfl
      rw [hsamples, pipeLoop, List.foldlM_cons]
      exact (pipeBatch_carried p tick).bind fun p' => ih _ p'

/-- A pipe into an open file leaves every sample of the stream in it. -/
theorem pipe_carried (hsize : 1 ≤ batchSize) (hinterval : 0 < flushInterval) (stream : List Tick) (start : Rat) :
    Triple (fun s => F.Holds s ⟨true, []⟩) (pipe batchSize flushInterval F.writeSamples stream start)
      (fun summary s => F.Holds s ⟨true, (samples stream).map ofTimed⟩ ∧
        summary.samplesEmitted = (samples stream).length) never := by
  have hchecked : (checkThresholds batchSize flushInterval : Py σ PUnit) = pure ⟨⟩ := by
    rw [checkThresholds, if_neg (by omega), if_neg (not_le.mpr hinterval)]
  rw [pipe, hchecked, pure_bind]
  refine Triple.bind (Q := Carried F (samples stream)) ?_ fun p => ?_
  · exact (pipeLoop_carried [] stream { lastFlush := start }).conseq
      (fun s hs => ⟨[], hs, rfl, rfl⟩) (fun _ _ hq => hq) fun _ _ hr => hr
  · refine Triple.bind (flush_carried p) fun p' => Triple.pure ?_
    rintro s ⟨⟨flushed, hholds, htaken, hcount⟩, hempty⟩
    rw [hempty, List.append_nil] at htaken
    subst htaken
    exact ⟨hholds, hcount⟩

/-- The context of a sink that is not open yet. -/
theorem exec_pipeInto (hsize : 1 ≤ batchSize) (hinterval : 0 < flushInterval) (stream : List Tick) (start : Rat)
    {s : σ} {w : Written} (hs : F.Holds s w) (hclosed : w.isOpen = false) :
    ∃ summary s', (F.pipeInto batchSize flushInterval stream start).exec s = (.ok summary, s') ∧
      summary.samplesEmitted = (samples stream).length ∧ F.Holds s' ⟨false, (samples stream).map ofTimed⟩ := by
  obtain ⟨s₁, hopen, hs₁⟩ := F.opens s w hs
  have hfresh : w.step .openFile = ⟨true, []⟩ := by rw [Written.step, hclosed]; rfl
  rw [hfresh] at hs₁
  have hpipe := pipe_carried hsize hinterval stream start s₁ hs₁
  rw [FileSink.pipeInto, exec_bind_ok hopen]
  cases hrun : (pipe batchSize flushInterval F.writeSamples stream start).exec s₁ with
  | mk result s₂ =>
      rw [hrun] at hpipe
      cases result with
      | error e => exact hpipe.elim
      | ok summary =>
          obtain ⟨s₃, hclose, hs₃⟩ := F.closes s₂ _ hpipe.1
          have htry : (tryCatch (pipe batchSize flushInterval F.writeSamples stream start) fun e => do
              F.close
              throw e).exec s₁ = (.ok summary, s₂) := by
            rw [exec_tryCatch, hrun]
          rw [exec_bind_ok htry, exec_bind_ok hclose]
          exact ⟨summary, s₃, rfl, hpipe.2, hs₃⟩

/-- After any calls that leave the sink closed, a pipe in its context leaves a file whose lines load as the rows of
the samples of the stream, and the summary counts them. -/
theorem piped_lines_load (calls : List FileCall) (hclosed : (Written.run calls).isOpen = false)
    (hsize : 1 ≤ batchSize) (hinterval : 0 < flushInterval) (stream : List Tick) (start : Rat)
    (hvalue : ∀ s ∈ samples stream, ∀ reading ∈ s.reading, ∀ x ∈ reading.value, x.IsDouble) :
    ∃ summary sink, (jsonlFile.pipeInto batchSize flushInterval stream start).exec (JsonlSink.runCalls calls) =
        (.ok summary, sink) ∧ summary.samplesEmitted = (samples stream).length ∧
      (fileLines sink.contents).mapM loadRow = some ((samples stream).map fun s => sampleToRow (ofTimed s)) := by
  obtain ⟨summary, sink, hrun, hcount, hholds⟩ :=
    exec_pipeInto (F := jsonlFile) hsize hinterval stream start (JsonlSink.runCalls_holds calls) hclosed
  refine ⟨summary, sink, hrun, hcount, ?_⟩
  have hholds : JsonlSink.Holds sink ⟨false, (samples stream).map ofTimed⟩ := hholds
  rw [hholds.loads, List.map_map]
  · rfl
  · intro s hs
    obtain ⟨s', hs', rfl⟩ := List.mem_map.mp hs
    exact ofTimed_isPython (hvalue s' hs')

/-- The file of the CSV sink reads back as the texts of the rows. -/
theorem piped_reads_back (calls : List FileCall) (hclosed : (Written.run calls).isOpen = false)
    (hsize : 1 ≤ batchSize) (hinterval : 0 < flushInterval) (stream : List Tick) (start : Rat)
    (hreadable : ∀ s ∈ samples stream, CsvSink.Readable (ofTimed s)) :
    ∃ summary sink, (csvFile.pipeInto batchSize flushInterval stream start).exec (CsvSink.runCalls calls) =
        (.ok summary, sink) ∧ summary.samplesEmitted = (samples stream).length ∧
      (excel.read fieldSizeLimit sink.contents).map CsvSink.dictRows =
        some ((samples stream).map fun s => CsvSink.rowTexts (ofTimed s)) := by
  obtain ⟨summary, sink, hrun, hcount, hholds⟩ :=
    exec_pipeInto (F := csvFile) hsize hinterval stream start (CsvSink.runCalls_holds calls) hclosed
  refine ⟨summary, sink, hrun, hcount, ?_⟩
  have hholds : CsvSink.Holds sink ⟨false, (samples stream).map ofTimed⟩ := hholds
  rw [hholds.reads, List.map_map]
  · rfl
  · intro s hs
    obtain ⟨s', hs', rfl⟩ := List.mem_map.mp hs
    exact hreadable s' hs'

end

/-- A poll that found nobody and took half a second. -/
def pollSample : SartoriusLib.Sample where
  device := "a"
  reading := none
  tMonoNs := 0
  tUtc := 250000
  requestedAt := 0
  receivedAt := 500000
  latencyS := 1 / 2
  protocol := some .xbpi
  error := some { cls := .timeoutError, message := "no answer" }

/-- Two ticks, one of them with two devices. -/
def twoTicks : List Tick := [([("a", pollSample), ("b", { pollSample with device := "b" })], 1 / 10),
  ([("a", pollSample)], 3 / 2)]

theorem piped_lines_load_twoTicks : ∃ summary sink,
    (jsonlFile.pipeInto 2 1 twoTicks 0).exec (JsonlSink.runCalls [.openFile, .close]) = (.ok summary, sink) ∧
      summary.samplesEmitted = 3 ∧
      (fileLines sink.contents).mapM loadRow = some ((samples twoTicks).map fun s => sampleToRow (ofTimed s)) := by
  have hvalue : ∀ s ∈ samples twoTicks, ∀ reading ∈ s.reading, ∀ x ∈ reading.value, x.IsDouble := by
    intro s hs reading hreading
    have hnone : ∀ s ∈ samples twoTicks, s.reading = none := by simp [samples, twoTicks, values, pollSample]
    rw [hnone s hs] at hreading
    cases hreading
  exact piped_lines_load [.openFile, .close] rfl (by decide) (by norm_num) twoTicks 0 hvalue

end SartoriusLib.Sinks
