import SartoriusLib.Streaming.Recorder

/-!
# The totals of the recorder

Each tick is either counted as emitted or counted as late, once. The books below say what the counters, the log
of the polls and the stream are to each other wherever the producer stands.
-/

namespace SartoriusLib.Recorder

open SartoriusLib Lib

variable {o : Options} {s s' : State} {target now later : Rat} {batch : Batch} {e : Event}

/-! ## Where the producer stands -/

/-- The current tick is one of the scheduled ones, and not yet passed. -/
@[simp] def Phase.due : Phase → Nat
  | .sleeping _ | .polling _ | .sending _ | .sent => 1
  | _ => 0

/-- The poll of the current tick has begun. -/
@[simp] def Phase.begun : Phase → Nat
  | .polling _ | .sending _ | .sent => 1
  | _ => 0

/-- The poll of the current tick has begun and has not returned. -/
@[simp] def Phase.unanswered : Phase → Nat
  | .polling _ => 1
  | _ => 0

/-- The batch on the stream that is not counted yet. -/
@[simp] def Phase.uncounted : Phase → Nat
  | .sent => 1
  | _ => 0

/-- The batch that waits for room on the stream. -/
@[simp] def Phase.waiting : Phase → List Batch
  | .sending batch => [batch]
  | _ => []

/-! ## The books -/

structure Books (o : Options) (s : State) : Prop where
  target : s.summary.targetTotalSamples = o.totalTicks
  stream : s.put = s.received ++ s.buffer
  increasing : (s.polls.map Prod.fst).Pairwise (· < ·)
  ticks : s.phase ≠ .raised → s.summary.samplesEmitted + s.summary.samplesLate = s.tick
  counted : s.phase ≠ .raised → s.summary.samplesEmitted + s.phase.uncounted = s.put.length
  within : s.phase ≠ .raised → ∀ total ∈ o.totalTicks, s.tick + s.phase.due ≤ total
  passed : s.phase ≠ .raised → ∀ poll ∈ s.polls, poll.1 < s.tick + s.phase.begun
  answered : s.phase ≠ .raised → s.polls.length = s.batches.length + s.phase.unanswered
  delivered : s.phase ≠ .raised → o.overflow = .block → s.batches = s.put ++ s.phase.waiting
  ended : s.phase = .returned → finished o s.tick

theorem Books.initial (o : Options) (start : Rat) : Books o (initial o start) where
  target := rfl
  stream := rfl
  increasing := List.Pairwise.nil
  ticks _ := rfl
  counted _ := rfl
  within _ _ _ := Nat.zero_le _
  passed _ _ h := absurd h (List.not_mem_nil)
  answered _ := rfl
  delivered _ _ := rfl
  ended h := nomatch h

/-- An exception ends the producer and changes no count. -/
theorem Books.raised (h : Books o s) (batches : List Batch) : Books o { s with batches, phase := .raised } where
  target := h.target
  stream := h.stream
  increasing := h.increasing
  ticks hp := absurd rfl hp
  counted hp := absurd rfl hp
  within hp := absurd rfl hp
  passed hp := absurd rfl hp
  answered hp := absurd rfl hp
  delivered hp := absurd rfl hp
  ended hp := nomatch hp

theorem Books.returned (h : Books o s) (hp : s.phase = .head) (hf : finished o s.tick) :
    Books o { s with phase := .returned } where
  target := h.target
  stream := h.stream
  increasing := h.increasing
  ticks _ := h.ticks (by simp [hp])
  counted _ := by simpa [hp] using h.counted (by simp [hp])
  within _ := by simpa [hp] using h.within (by simp [hp])
  passed _ := by simpa [hp] using h.passed (by simp [hp])
  answered _ := by simpa [hp] using h.answered (by simp [hp])
  delivered _ := by simpa [hp] using h.delivered (by simp [hp])
  ended _ := hf

/-- The books do not depend on the clock, nor on the drift. -/
theorem Books.drift (h : Books o s) : Books o (drift s target now) :=
  { h with }

theorem Books.clock (h : Books o s) : Books o { s with clock := now } :=
  { h with }

/-- Slots that are skipped are late, and stay in the window. -/
theorem Books.skip (h : Books o s) (hp : s.phase = .head) {missed : Nat}
    (hm : ∀ total ∈ o.totalTicks, s.tick + missed ≤ total) : Books o (s.skip missed) where
  target := h.target
  stream := h.stream
  increasing := h.increasing
  ticks _ := by
    have hs := h.ticks (by simp [hp])
    simp only [State.skip]
    omega
  counted _ := h.counted (by simp [hp])
  within _ total ht := by simpa [State.skip, hp] using hm total ht
  passed _ poll hin := by
    have hlt := h.passed (by simp [hp]) poll hin
    simp only [State.skip]
    omega
  answered _ := h.answered (by simp [hp])
  delivered _ := h.delivered (by simp [hp])
  ended hr := by simp [State.skip, hp] at hr

/-! ## A poll -/

theorem Books.sleeping (h : Books o s) (hp : s.phase = .head) (hf : ¬ finished o s.tick) :
    Books o { s with clock := now, phase := .sleeping target } where
  target := h.target
  stream := h.stream
  increasing := h.increasing
  ticks _ := h.ticks (by simp [hp])
  counted _ := by simpa [hp] using h.counted (by simp [hp])
  within _ total ht := by simpa [finished, Option.mem_def.mp ht, Nat.succ_le_iff] using hf
  passed _ := by simpa [hp] using h.passed (by simp [hp])
  answered _ := by simpa [hp] using h.answered (by simp [hp])
  delivered _ := by simpa [hp] using h.delivered (by simp [hp])
  ended hr := nomatch hr

/-- The tick that is polled is later than all that were. -/
theorem Books.poll_increasing (h : Books o s) {t : Rat} (hp : s.phase = .sleeping t) :
    ((s.poll target now).polls.map Prod.fst).Pairwise (· < ·) := by
  simp only [State.poll, List.map_append, List.map_cons, List.map_nil, List.pairwise_append]
  refine ⟨h.increasing, List.pairwise_singleton _ _, ?_⟩
  intro t ht u hu
  obtain ⟨poll, hin, rfl⟩ := List.mem_map.mp ht
  rw [List.mem_singleton.mp hu]
  simpa [hp] using h.passed (by simp [hp]) poll hin

theorem Books.poll (h : Books o s) {t : Rat} (hp : s.phase = .sleeping t) : Books o (s.poll target now) where
  target := h.target
  stream := h.stream
  increasing := h.poll_increasing hp
  ticks _ := h.ticks (by simp [hp])
  counted _ := by simpa [State.poll, hp] using h.counted (by simp [hp])
  within _ := by simpa [State.poll, hp] using h.within (by simp [hp])
  passed _ poll hin := by
    rcases List.mem_append.mp hin with hin | hin
    · have hlt := h.passed (by simp [hp]) poll hin
      simp only [hp, Phase.begun, Nat.add_zero] at hlt
      exact Nat.lt_succ_of_lt hlt
    · rw [List.mem_singleton.mp hin]
      exact Nat.lt_succ_self _
  answered _ := by simpa [State.poll, hp] using h.answered (by simp [hp])
  delivered _ := by simpa [State.poll, hp] using h.delivered (by simp [hp])
  ended hr := nomatch hr

theorem Books.await (h : Books o s) (hp : s.phase = .head) (hf : ¬ finished o s.tick) :
    Books o (s.await target later) := by
  unfold State.await
  split
  · exact h.sleeping hp hf
  · -- the poll of a tick that is due begins without a sleep
    have hs : Books o { s with clock := later, phase := .sleeping target } := h.sleeping hp hf
    exact hs.poll rfl

/-- The slots that are skipped are among those that are left. -/
theorem missedSlots_le (h : Books o s) (hp : s.phase = .head) :
    ∀ total ∈ o.totalTicks, s.tick + missedSlots o s now target ≤ total := by
  intro total ht
  have hle := h.within (by simp [hp]) total ht
  simp only [hp, Phase.due, Nat.add_zero] at hle
  simp only [missedSlots, Option.mem_def.mp ht]
  omega

theorem Books.turn (h : Books o s) (hp : s.phase = .head) : Books o (turn o s now later) := by
  unfold Recorder.turn
  split
  · exact h.returned hp ‹_›
  dsimp only
  split
  · have hmissed : ∀ total ∈ o.totalTicks, s.tick + missedSlots o s now (targetOf o s) ≤ total :=
      missedSlots_le h hp
    have hs := h.skip hp hmissed
    split
    · exact (hs.returned hp ‹_›).clock
    · exact hs.await hp ‹_›
  · exact h.await hp ‹_›

/-! ## A batch -/

theorem Books.sending (h : Books o s) {t : Rat} (hp : s.phase = .polling t) :
    Books o { s with batches := s.batches ++ [batch], phase := .sending batch } where
  target := h.target
  stream := h.stream
  increasing := h.increasing
  ticks _ := h.ticks (by simp [hp])
  counted _ := by simpa [hp] using h.counted (by simp [hp])
  within _ := by simpa [hp] using h.within (by simp [hp])
  passed _ := by simpa [hp] using h.passed (by simp [hp])
  answered _ := by simpa [hp] using h.answered (by simp [hp])
  delivered _ := by simpa [hp] using h.delivered (by simp [hp])
  ended hr := nomatch hr

theorem Books.sent (h : Books o s) (hp : s.phase = .sending batch) :
    Books o { s.enqueue batch with phase := .sent } where
  target := h.target
  stream := by simp [State.enqueue, h.stream]
  increasing := h.increasing
  ticks _ := h.ticks (by simp [hp])
  counted _ := by simpa [State.enqueue, hp] using h.counted (by simp [hp])
  within _ := by simpa [State.enqueue, hp] using h.within (by simp [hp])
  passed _ := by simpa [State.enqueue, hp] using h.passed (by simp [hp])
  answered _ := by simpa [State.enqueue, hp] using h.answered (by simp [hp])
  delivered _ := by simpa [State.enqueue, hp] using h.delivered (by simp [hp])
  ended hr := nomatch hr

theorem Books.emitted (h : Books o s) (hp : s.phase = .sent) : Books o s.emitted where
  target := h.target
  stream := h.stream
  increasing := h.increasing
  ticks _ := by
    have hs := h.ticks (by simp [hp])
    simp only [State.emitted]
    omega
  counted _ := by simpa [State.emitted, hp] using h.counted (by simp [hp])
  within _ := by simpa [State.emitted, hp] using h.within (by simp [hp])
  passed _ := by simpa [State.emitted, hp] using h.passed (by simp [hp])
  answered _ := by simpa [State.emitted, hp] using h.answered (by simp [hp])
  delivered _ := by simpa [State.emitted, hp] using h.delivered (by simp [hp])
  ended hr := nomatch hr

/-- A batch that is dropped makes its tick late; BLOCK drops none. -/
theorem Books.dropped (h : Books o s) (hp : s.phase = .sending batch) (ho : o.overflow ≠ .block) :
    Books o s.dropped where
  target := h.target
  stream := h.stream
  increasing := h.increasing
  ticks _ := by
    have hs := h.ticks (by simp [hp])
    simp only [State.dropped]
    omega
  counted _ := by simpa [State.dropped, hp] using h.counted (by simp [hp])
  within _ := by simpa [State.dropped, hp] using h.within (by simp [hp])
  passed _ := by simpa [State.dropped, hp] using h.passed (by simp [hp])
  answered _ := by simpa [State.dropped, hp] using h.answered (by simp [hp])
  delivered _ hb := absurd hb ho
  ended hr := nomatch hr

theorem Books.publish (h : Books o s) {t : Rat} (hp : s.phase = .polling t) : Books o (publish o s batch) := by
  have hs : Books o { s with batches := s.batches ++ [batch], phase := .sending batch } := h.sending hp
  unfold Recorder.publish
  dsimp only
  split
  · split
    · exact h.raised _
    split
    · -- with room in the buffer the batch does not wait
      exact (hs.sent rfl).emitted rfl
    · exact hs
  · next ho =>
      split
      · exact h.raised _
      split
      · exact (hs.sent rfl).emitted rfl
      · exact hs.dropped rfl (by simp [ho])
  · exact h.raised _

/-! ## The consumer -/

theorem Books.received {rest : List Batch} (h : Books o s) (hb : s.buffer = batch :: rest) :
    Books o { s with buffer := rest, received := s.received ++ [batch] } :=
  { h with stream := by simpa [hb] using h.stream }

/-! ## Runs -/

theorem Books.next (h : Books o s) (hs : step o s e = some s') : Books o s' := by
  cases e with
  | turn now later =>
      simp only [step, Option.ite_none_right_eq_some, Option.some.injEq] at hs
      obtain ⟨⟨hp, -⟩, rfl⟩ := hs
      exact h.turn hp
  | wake now =>
      simp only [step] at hs
      split at hs
      · next hp =>
          simp only [Option.ite_none_right_eq_some, Option.some.injEq] at hs
          obtain ⟨-, rfl⟩ := hs
          exact h.poll hp
      · exact nomatch hs
  | answer results timing now =>
      simp only [step] at hs
      split at hs
      · next hp =>
          simp only [Option.ite_none_right_eq_some, Option.some.injEq] at hs
          obtain ⟨-, rfl⟩ := hs
          exact h.drift.publish hp
      · exact nomatch hs
  | resume now =>
      simp only [step, Option.ite_none_right_eq_some, Option.some.injEq] at hs
      obtain ⟨⟨hp, -⟩, rfl⟩ := hs
      exact (h.emitted hp).clock
  | fail =>
      simp only [step] at hs
      split at hs
      case h_4 => exact Option.some.inj hs ▸ h.raised _
      all_goals exact nomatch hs
  | receive =>
      simp only [step] at hs
      split at hs
      · exact nomatch hs
      next hb =>
        split at hs
        · exact nomatch hs
        have hr := h.received hb
        split at hs
        · next hp => exact Option.some.inj hs ▸ hr.sent hp
        · exact Option.some.inj hs ▸ hr
  | close => exact Option.some.inj hs ▸ { h with }

theorem Books.reached {start : Rat} {es : List Event} (hr : run (step o) (Recorder.initial o start) es = some s) :
    Books o s :=
  run_invariant' (fun _ _ _ => Books.next) (Books.initial o start) hr

/-! ## What the counters say -/

/-- What the caller of `record()` reads off the totals and the stream, where the producer stands at the test of
its loop and where it has finished. -/
structure Accounted (o : Options) (s : State) : Prop where
  total : s.phase = .returned →
    some (s.summary.samplesEmitted + s.summary.samplesLate) = s.summary.targetTotalSamples
  ticks : s.phase = .head → s.summary.samplesEmitted + s.summary.samplesLate = s.tick
  emitted : s.phase = .head ∨ s.phase = .returned → s.summary.samplesEmitted = s.put.length
  /-- No tick is polled twice. -/
  polls : (s.polls.map Prod.fst).Pairwise (· < ·)
  /-- Every poll gave a batch, and every batch was taken by the consumer or is still on the stream. -/
  delivered : o.overflow = .block → s.phase = .head ∨ s.phase = .returned →
    s.batches.length = s.polls.length ∧ s.batches = s.put ∧ s.put = s.received ++ s.buffer

/-- A finite run is over at the last of its ticks. -/
theorem Books.total (h : Books o s) {total : Nat} (ho : o.totalTicks = some total) (hp : s.phase = .returned) :
    s.tick = total := by
  have hle : total ≤ s.tick := by simpa [finished, ho] using h.ended hp
  have hge : s.tick ≤ total := by simpa [hp] using h.within (by simp [hp]) total ho
  exact Nat.le_antisymm hge hle

theorem Books.accounted (h : Books o s) {total : Nat} (ho : o.totalTicks = some total) : Accounted o s where
  total hp := by rw [h.target, ho, h.ticks (by simp [hp]), h.total ho hp]
  ticks hp := h.ticks (by simp [hp])
  emitted hp := by rcases hp with hp | hp <;> simpa [hp] using h.counted (by simp [hp])
  polls := h.increasing
  delivered hb hp := by
    have hne : s.phase ≠ .raised := by rcases hp with hp | hp <;> simp [hp]
    have ha : s.polls.length = s.batches.length := by rcases hp with hp | hp <;> simpa [hp] using h.answered hne
    have hd : s.batches = s.put := by rcases hp with hp | hp <;> simpa [hp] using h.delivered hne hb
    exact ⟨ha.symm, hd, h.stream⟩

theorem record_totalTicks {rateHz duration : Rat} {overflow : OverflowPolicy} {bufferSize : Int}
    (ho : record rateHz (some duration) overflow bufferSize = .ok o) : ∃ total, o.totalTicks = some total := by
  unfold record at ho
  repeat' split at ho
  all_goals cases ho
  exact ⟨_, rfl⟩

theorem record_accounted {rateHz duration start : Rat} {overflow : OverflowPolicy} {bufferSize : Int}
    {es : List Event} (ho : record rateHz (some duration) overflow bufferSize = .ok o)
    (hr : Lib.run (step o) (initial o start) es = some s) : Accounted o s := by
  obtain ⟨total, ht⟩ := record_totalTicks ho
  exact (Books.reached hr).accounted ht

/-- Two ticks at 2 Hz, the second of them overrun. -/
theorem record_accounted_overrun :
    ∃ o, record 2 (some 1) .block 1 = .ok o ∧
      ∃ s, Lib.run (step o) (initial o 0) [.turn 0 0, .answer [] ⟨0, 1, 0, 1⟩ 2, .receive, .turn 2 2] = some s ∧
        s.phase = .returned ∧ Accounted o s := by
  have ho : record 2 (some 1) .block 1 = .ok ⟨1 / 2, some 2, .block, 1⟩ := by decide +kernel
  have hr : (Lib.run (step ⟨1 / 2, some 2, .block, 1⟩) (initial ⟨1 / 2, some 2, .block, 1⟩ 0)
      [.turn 0 0, .answer [] ⟨0, 1, 0, 1⟩ 2, .receive, .turn 2 2]).map State.phase = some .returned := by
    decide +kernel
  obtain ⟨s, hs, hp⟩ := Option.map_eq_some_iff.mp hr
  exact ⟨_, ho, s, hs, hp, record_accounted ho hs⟩

end SartoriusLib.Recorder
