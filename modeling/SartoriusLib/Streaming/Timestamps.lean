import SartoriusLib.Streaming.Accounting
import SartoriusLib.Streaming.Stream
import SartoriusLib.Transport.Serial
import Mathlib.Algebra.Order.Round
import Mathlib.Data.Rat.Floor
import Mathlib.Tactic.Linarith
import Mathlib.Tactic.Ring

/-!
# The timestamps of samples

A polled sample carries the midpoints of the instants before and after its poll. An autoprint line answers no
request, and its sample ought to carry the instants at which it was received; the stream computes midpoints for it
all the same.
-/

namespace SartoriusLib

open Lib

/-! ## Rounding -/

/-- Half of a whole interval, to within half a unit. -/
theorem abs_midpoint_le (a b : Int) :
    |2 * (a + PyFloat.roundHalfEven ((b - a : Rat) / 2)) - (a + b)| ≤ 1 := by
  have h := PyFloat.abs_roundHalfEven_sub_le ((b - a : Rat) / 2)
  rw [abs_le] at h
  have hcast : |((2 * (a + PyFloat.roundHalfEven ((b - a : Rat) / 2)) - (a + b) : Int) : Rat)| ≤ (1 : Int) := by
    push_cast
    rw [abs_le]
    constructor <;> linarith [h.1, h.2]
  exact_mod_cast hcast

/-! ## The contract -/

/-- The canonical timestamps are the midpoints of the send and receive instants, to the resolution of each clock. -/
structure Midpoints (t : PollTiming) (sample : Sample) : Prop where
  requested : sample.requestedAt = t.requestedAt
  received : sample.receivedAt = t.receivedAt
  utc : |2 * sample.tUtc - (t.requestedAt + t.receivedAt)| ≤ 1
  mono : 2 * sample.tMonoNs ≤ t.sentNs + t.recvNs ∧ t.sentNs + t.recvNs < 2 * sample.tMonoNs + 2

/-- The timestamps are those of the receive side, and nothing was waited for. -/
structure ReceiveSide (t : PollTiming) (sample : Sample) : Prop where
  received : sample.receivedAt = t.receivedAt
  utc : sample.tUtc = sample.receivedAt
  mono : sample.tMonoNs = t.recvNs
  latency : sample.latencyS = 0

instance (t : PollTiming) (sample : Sample) : Decidable (ReceiveSide t sample) :=
  decidable_of_iff (sample.receivedAt = t.receivedAt ∧ sample.tUtc = sample.receivedAt ∧
      sample.tMonoNs = t.recvNs ∧ sample.latencyS = 0)
    ⟨fun ⟨hr, hu, hm, hl⟩ => ⟨hr, hu, hm, hl⟩, fun h => ⟨h.received, h.utc, h.mono, h.latency⟩⟩

theorem buildBatch_midpoints (results : Dict String (DeviceResult Reading)) (t : PollTiming) :
    ∀ row ∈ buildBatch results t, Midpoints t row.2 := by
  intro row hrow
  obtain ⟨result, -, rfl⟩ := List.mem_map.mp hrow
  exact
    { requested := rfl
      received := rfl
      utc := abs_midpoint_le t.requestedAt t.receivedAt
      mono := by
        dsimp only
        omega }

namespace StreamingSession

variable {W : Type} {T : Transport W}

theorem sampleFromReading_tUtc (device : String) (reading : Reading) (t : PollTiming) (mode : StreamMode) :
    (sampleFromReading device reading t mode).tUtc =
      t.requestedAt + PyFloat.roundHalfEven ((t.receivedAt - t.requestedAt : Rat) / 2) := by
  have h : ((t.receivedAt - t.requestedAt : Rat) / 10 ^ 6 / 2) * 10 ^ 6 = (t.receivedAt - t.requestedAt : Rat) / 2 := by
    ring
  simp only [sampleFromReading, timedelta, h]

theorem sampleFromReading_midpoints (device : String) (reading : Reading) (t : PollTiming) (mode : StreamMode) :
    Midpoints t (sampleFromReading device reading t mode) where
  requested := rfl
  received := rfl
  utc := by
    rw [sampleFromReading_tUtc]
    exact abs_midpoint_le t.requestedAt t.receivedAt
  mono := by
    dsimp only [sampleFromReading]
    omega

/-- No time passed on either clock. -/
def Prompt (t : PollTiming) : Prop := t.requestedAt = t.receivedAt ∧ t.sentNs = t.recvNs

/-- Midpoints are receive-side instants when the send and receive instants coincide, and only then. -/
theorem sampleFromReading_receiveSide (device : String) (reading : Reading) {t : PollTiming} (mode : StreamMode)
    (ht : t.sentNs ≤ t.recvNs) : ReceiveSide t (sampleFromReading device reading t mode) ↔ Prompt t := by
  constructor
  · intro h
    have hlatency : ((t.receivedAt : Rat) - t.requestedAt) / 10 ^ 6 = 0 := h.latency
    have hmono : (t.sentNs + t.recvNs) / 2 = t.recvNs := h.mono
    rw [div_eq_zero_iff, or_iff_left (by norm_num), sub_eq_zero] at hlatency
    exact ⟨by exact_mod_cast hlatency.symm, by omega⟩
  · rintro ⟨hwall, hmono⟩
    have hzero : PyFloat.roundHalfEven 0 = 0 := by decide +kernel
    exact
      { received := rfl
        utc := by
          rw [sampleFromReading_tUtc, hwall, sub_self, zero_div, hzero, add_zero]
          rfl
        mono := by
          dsimp only [sampleFromReading]
          omega
        latency := by simp [sampleFromReading, hwall] }

/-! ## The journal of a stream -/

/-- A sample that was handed out, with the instants before and after the read that it was made of. -/
structure Handed where
  sample : Sample
  timing : PollTiming
  deriving DecidableEq, Repr

structure Journal (W : Type) where
  attached : Attached W
  /-- The instants around the read of the pending sample. -/
  fetched : PollTiming := ⟨0, 0, 0, 0⟩
  handed : List Handed := []

/-- One call, with a note of what it hands out; the monotonic clock does not go back. -/
def Journal.step (T : Transport W) (j : Journal W) : Event W → Option (Journal W)
  | .enter m =>
      if m.timing.sentNs ≤ m.timing.recvNs then
        match (aenter T m).exec j.attached with
        | (.ok _, a) => some { j with attached := a, fetched := m.timing }
        | (.error _, a) => some { j with attached := a }
      else none
  | .next m =>
      if m.timing.sentNs ≤ m.timing.recvNs then
        match (anext T m).exec j.attached with
        | (.ok sample, a) =>
            let timing := if j.attached.stream.pending = none then m.timing else j.fetched
            some { j with attached := a, handed := j.handed ++ [⟨sample, timing⟩] }
        | (.error _, a) => some { j with attached := a }
      else none
  | .exit => some { j with attached := { j.attached with stream := aexit j.attached.stream } }
  | .others h => some { j with attached := { j.attached with host := h } }

/-- A sample that was made in this mode. -/
structure Made (mode : StreamMode) (d : Handed) : Prop where
  made : ∃ device reading, d.sample = sampleFromReading device reading d.timing mode
  forward : d.timing.sentNs ≤ d.timing.recvNs

/-- Every sample that was handed out or is pending was made in the mode of the session. -/
structure Journal.Sound (mode : StreamMode) (j : Journal W) : Prop where
  kind : j.attached.stream.mode = mode
  pending : ∀ sample, j.attached.stream.pending = some sample → mode = .autoprint ∧ Made mode ⟨sample, j.fetched⟩
  handed : ∀ d ∈ j.handed, Made mode d

variable {mode : StreamMode} {j j' : Journal W} {m : Moment}

theorem Journal.Sound.enter (h : j.Sound mode) (hs : j.step T (.enter m) = some j') : j'.Sound mode := by
  simp only [Journal.step, Option.ite_none_right_eq_some] at hs
  obtain ⟨ht, hs⟩ := hs
  have he := aenter_entered T m j.attached
  rcases hx : (aenter T m).exec j.attached with ⟨r, a⟩
  rw [hx] at hs he
  cases he with
  | active e _ => exact Option.some.inj hs ▸ h
  | refused e host _ _ => exact Option.some.inj hs ▸ ⟨h.kind, h.pending, h.handed⟩
  | poll _ hm _ =>
      refine Option.some.inj hs ▸ ⟨h.kind, fun sample hp => ?_, h.handed⟩
      -- a polling session has no pending sample
      have hauto := (h.pending sample hp).1
      rw [← h.kind, hm] at hauto
      cases hauto
  | autoprint reading host _ hm _ =>
      refine Option.some.inj hs ▸ ⟨h.kind, fun sample hp => ?_, h.handed⟩
      have hmode : mode = .autoprint := h.kind.symm.trans hm
      rw [← Option.some.inj hp, hmode]
      exact ⟨rfl, ⟨_, _, rfl⟩, ht⟩

/-- A note of a sample that was made. -/
theorem Journal.Sound.hand (h : j.Sound mode) {a : Attached W} {d : Handed} (hmode : a.stream.mode = mode)
    (hpending : a.stream.pending = none) (hd : Made mode d) :
    Journal.Sound mode { j with attached := a, handed := j.handed ++ [d] } where
  kind := hmode
  pending sample hp := by simp [hpending] at hp
  handed d' hin := by
    rcases List.mem_append.mp hin with hin | hin
    · exact h.handed d' hin
    · rw [List.mem_singleton.mp hin]
      exact hd

theorem Journal.Sound.advance (h : j.Sound mode) (hs : j.step T (.next m) = some j') : j'.Sound mode := by
  simp only [Journal.step, Option.ite_none_right_eq_some] at hs
  obtain ⟨ht, hs⟩ := hs
  have ha := anext_advanced T m j.attached
  rcases hx : (anext T m).exec j.attached with ⟨r, a⟩
  rw [hx] at hs ha
  cases ha with
  | refused e _ => exact Option.some.inj hs ▸ h
  | pending sample _ hp =>
      simp only [hp, reduceCtorEq, if_false] at hs
      exact Option.some.inj hs ▸ h.hand h.kind rfl (h.pending sample hp).2
  | raised e host _ _ _ => exact Option.some.inj hs ▸ ⟨h.kind, h.pending, h.handed⟩
  | line reading host _ hp hm =>
      simp only [hp, if_true] at hs
      refine Option.some.inj hs ▸ h.hand h.kind hp ⟨⟨deviceName host, reading, ?_⟩, ht⟩
      rw [← h.kind, hm]
  | failed e host _ hp hm _ => exact Option.some.inj hs ▸ ⟨h.kind, h.pending, h.handed⟩
  | polled reading host _ hp hm _ =>
      simp only [hp, if_true] at hs
      refine Option.some.inj hs ▸ h.hand h.kind rfl ⟨⟨deviceName host, reading, ?_⟩, ht⟩
      rw [← h.kind, hm]

theorem Journal.Sound.step {e : Event W} (h : j.Sound mode) (hs : j.step T e = some j') : j'.Sound mode := by
  cases e with
  | enter m => exact h.enter hs
  | next m => exact h.advance hs
  | exit => exact Option.some.inj hs ▸ ⟨h.kind, (fun _ hp => nomatch hp), h.handed⟩
  | others host => exact Option.some.inj hs ▸ ⟨h.kind, h.pending, h.handed⟩

theorem Journal.Sound.reached {rateHz : Option Rat} {temporaryAutoprint confirm : Bool} {s : Stream} {h : Host W}
    {es : List (Event W)} (hs : init rateHz mode temporaryAutoprint confirm = .ok s)
    (hr : run (Journal.step T) { attached := ⟨s, h⟩ } es = some j) : j.Sound mode := by
  obtain ⟨rfl, -⟩ := init_ok hs
  have hstart : Journal.Sound mode
      { attached := ⟨{ rateHz, mode, temporaryAutoprint, confirm }, h⟩ : Journal W } :=
    { kind := rfl
      pending := fun _ hp => nomatch hp
      handed := fun _ hin => nomatch hin }
  exact run_invariant' (fun _ _ _ => Journal.Sound.step) hstart hr

end StreamingSession

/-! ## The batches of a recorder -/

namespace Recorder

variable {o : Options} {s s' : State} {e : Event}

/-- The batches that exist: polled, waiting for room, on the stream or taken. -/
def State.made (s : State) : List Batch := s.batches ++ s.phase.waiting ++ s.put ++ s.buffer ++ s.received

theorem mem_made {batch : Batch} :
    batch ∈ s.made ↔
      batch ∈ s.batches ∨ batch ∈ s.phase.waiting ∨ batch ∈ s.put ∨ batch ∈ s.buffer ∨ batch ∈ s.received := by
  simp only [State.made, List.mem_append, or_assoc]

theorem await_made (hp : s.phase = .head) (target later : Rat) : (s.await target later).made = s.made := by
  unfold State.await
  split <;> simp [State.made, State.poll, hp]

theorem turn_made (o : Options) (hp : s.phase = .head) (now later : Rat) : (turn o s now later).made = s.made := by
  unfold turn
  split
  · simp [State.made, hp]
  dsimp only
  split
  · have hskip : (s.skip (missedSlots o s now (targetOf o s))).phase = .head := hp
    split
    · simp [State.made, State.skip, hp]
    · exact await_made hskip _ later
  · exact await_made hp _ later

theorem publish_made (o : Options) {batch b : Batch} {target : Rat} (hp : s.phase = .polling target)
    (hb : b ∈ (publish o s batch).made) : b ∈ s.made ∨ b = batch := by
  simp only [publish, State.enqueue, State.emitted, State.dropped] at hb
  repeat' split at hb
  all_goals
    simp [mem_made, hp] at hb ⊢
    tauto

/-- A step makes a batch only of the answer to a poll. -/
theorem step_made (hs : step o s e = some s') {b : Batch} (hb : b ∈ s'.made) :
    b ∈ s.made ∨ ∃ results timing now, e = .answer results timing now ∧ b = buildBatch results timing := by
  cases e with
  | turn now later =>
      simp only [step, Option.ite_none_right_eq_some, Option.some.injEq] at hs
      obtain ⟨⟨hp, -⟩, rfl⟩ := hs
      exact .inl (turn_made o hp now later ▸ hb)
  | wake now =>
      simp only [step] at hs
      split at hs
      · next hp =>
          simp only [Option.ite_none_right_eq_some, Option.some.injEq] at hs
          obtain ⟨-, rfl⟩ := hs
          left
          simpa [mem_made, State.poll, hp] using hb
      · cases hs
  | answer results timing now =>
      simp only [step] at hs
      split at hs
      · next target hp =>
          simp only [Option.ite_none_right_eq_some, Option.some.injEq] at hs
          obtain ⟨-, rfl⟩ := hs
          rcases publish_made o (s := drift s target now) hp hb with hb | rfl
          · exact .inl hb
          · exact .inr ⟨results, timing, now, rfl, rfl⟩
      · cases hs
  | resume now =>
      simp only [step, Option.ite_none_right_eq_some, Option.some.injEq] at hs
      obtain ⟨⟨hp, -⟩, rfl⟩ := hs
      left
      simpa [mem_made, State.emitted, hp] using hb
  | fail =>
      left
      simp only [step] at hs
      split at hs
      case h_4 =>
        cases hs
        simp [mem_made] at hb ⊢
        tauto
      all_goals cases hs
  | receive =>
      left
      simp only [step] at hs
      split at hs
      · cases hs
      next hbuffer =>
        split at hs
        · cases hs
        split at hs
        all_goals
          next hp =>
            cases hs
            simp [mem_made, State.enqueue, hbuffer, hp] at hb ⊢
            tauto
  | close =>
      cases hs
      exact .inl hb

/-- Every batch of a run was built from the results of a poll of the run. -/
theorem run_made {es : List Event} (hr : run (step o) s es = some s') {b : Batch} (hb : b ∈ s'.made) :
    b ∈ s.made ∨ ∃ results timing now, Event.answer results timing now ∈ es ∧ b = buildBatch results timing := by
  induction es generalizing s with
  | nil =>
      cases hr
      exact .inl hb
  | cons e es ih =>
      obtain ⟨t, ht, hr⟩ := run_cons_eq_some.mp hr
      rcases ih hr with hb | ⟨results, timing, now, hin, rfl⟩
      · rcases step_made ht hb with hb | ⟨results, timing, now, rfl, rfl⟩
        · exact .inl hb
        · exact .inr ⟨results, timing, now, List.mem_cons_self, rfl⟩
      · exact .inr ⟨results, timing, now, List.mem_cons_of_mem e hin, rfl⟩

end Recorder

/-! ## The timestamps of every run -/

namespace StreamingSession

/-- In every run of a stream the samples of the poll mode carry midpoints, and those of the autoprint mode the
instants of the receive side exactly when no time passed while they were read. Every sample of a recorder carries
midpoints. -/
theorem timestamps_iff (T : Transport W) :
    (∀ (rateHz : Option Rat) (mode : StreamMode) (temporaryAutoprint confirm : Bool) (s : Stream) (h : Host W)
        (es : List (Event W)) (j : Journal W),
      init rateHz mode temporaryAutoprint confirm = .ok s →
      run (Journal.step T) { attached := ⟨s, h⟩ } es = some j →
      ∀ d ∈ j.handed,
        (mode = .poll → Midpoints d.timing d.sample) ∧
        (mode = .autoprint → (ReceiveSide d.timing d.sample ↔ Prompt d.timing))) ∧
    ∀ (o : Recorder.Options) (start : Rat) (es : List Recorder.Event) (s : Recorder.State),
      run (Recorder.step o) (Recorder.initial o start) es = some s →
      ∀ batch ∈ s.made, ∃ results timing now, .answer results timing now ∈ es ∧
        batch = buildBatch results timing ∧ ∀ row ∈ batch, Midpoints timing row.2 := by
  constructor
  · intro rateHz mode temporaryAutoprint confirm s h es j hs hr d hd
    obtain ⟨⟨device, reading, hmade⟩, hforward⟩ := (Journal.Sound.reached hs hr).handed d hd
    rw [hmade]
    exact ⟨fun _ => sampleFromReading_midpoints device reading d.timing mode,
      fun _ => sampleFromReading_receiveSide device reading mode hforward⟩
  · intro o start es s hr batch hb
    rcases Recorder.run_made hr hb with hb | ⟨results, timing, now, hin, rfl⟩
    · simp [Recorder.State.made, Recorder.initial] at hb
    · exact ⟨results, timing, now, hin, rfl, buildBatch_midpoints results timing⟩

/-- An SBI session whose port is about to deliver one line of a device in autoprint. -/
def arrivingHost : Host SerialState where
  world := { settings := { port := "COM3" }, line := [[.chunk (encodeAsciiReplace "+     12.5 g  \r\n".toList)]] }
  session := { active := .sbi, sbi := some { id := 0 }, serialSettings := some { port := "COM3" } }
  nextId := 1

def autoprintStream : Stream where
  rateHz := none
  mode := .autoprint
  temporaryAutoprint := false
  confirm := false

/-- An entry and an iteration, where the line arrives within the instants `t`. -/
def oneLine (t : PollTiming) : List (Event SerialState) := [.enter ⟨0, t, (3, []), []⟩, .next ⟨0, t, (3, []), []⟩]

/-- A line that was there at once, and a poll of a recorder. -/
theorem timestamps_iff_prompt :
    (∃ j, run (Journal.step serialTransport) { attached := ⟨autoprintStream, arrivingHost⟩ } (oneLine ⟨5, 5, 7, 7⟩) =
        some j ∧
      j.handed ≠ [] ∧ ∀ d ∈ j.handed, ReceiveSide d.timing d.sample ↔ Prompt d.timing) ∧
    ∃ s, run (Recorder.step ⟨1, none, .block, 1⟩) (Recorder.initial ⟨1, none, .block, 1⟩ 0)
        [.turn 0 0, .answer [("b", .failure ⟨.timeoutError, "", {}⟩)] ⟨0, 3, 0, 3⟩ 0] = some s ∧
      s.made ≠ [] ∧ ∀ batch ∈ s.made, ∃ timing, ∀ row ∈ batch, Midpoints timing row.2 := by
  constructor
  · have hr : (run (Journal.step serialTransport) { attached := ⟨autoprintStream, arrivingHost⟩ }
        (oneLine ⟨5, 5, 7, 7⟩)).any (fun j => j.handed ≠ []) = true := by decide +kernel
    obtain ⟨j, hj, hne⟩ := (Option.any_eq_true _ _).mp hr
    exact ⟨j, hj, of_decide_eq_true hne, fun d hd =>
      ((timestamps_iff serialTransport).1 none .autoprint false false _ _ _ j rfl hj d hd).2 rfl⟩
  · have hr : (run (Recorder.step ⟨1, none, .block, 1⟩) (Recorder.initial ⟨1, none, .block, 1⟩ 0)
        [.turn 0 0, .answer [("b", .failure ⟨.timeoutError, "", {}⟩)] ⟨0, 3, 0, 3⟩ 0]).any (fun s => s.made ≠ []) =
        true := by decide +kernel
    obtain ⟨s, hs, hne⟩ := (Option.any_eq_true _ _).mp hr
    refine ⟨s, hs, of_decide_eq_true hne, fun batch hb => ?_⟩
    obtain ⟨-, timing, -, -, -, hrows⟩ := (timestamps_iff serialTransport).2 _ _ _ s hs batch hb
    exact ⟨timing, hrows⟩

/-- A line that takes two seconds gets a timestamp of one second before it. -/
theorem waited_line_misdated :
    ∃ j, run (Journal.step serialTransport) { attached := ⟨autoprintStream, arrivingHost⟩ }
        (oneLine ⟨0, 2000000, 0, 2000000000⟩) = some j ∧
      ∃ d ∈ j.handed, ¬ ReceiveSide d.timing d.sample := by
  have hr : (run (Journal.step serialTransport) { attached := ⟨autoprintStream, arrivingHost⟩ }
      (oneLine ⟨0, 2000000, 0, 2000000000⟩)).any (fun j => ∃ d ∈ j.handed, ¬ ReceiveSide d.timing d.sample) =
      true := by decide +kernel
  obtain ⟨j, hj, hd⟩ := (Option.any_eq_true _ _).mp hr
  exact ⟨j, hj, of_decide_eq_true hd⟩

end StreamingSession

end SartoriusLib
