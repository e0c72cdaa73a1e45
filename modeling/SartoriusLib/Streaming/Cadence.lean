import SartoriusLib.Streaming.Accounting
import Mathlib.Tactic.Linarith
import Mathlib.Tactic.Ring

/-!
# The cadence of the recorder

The targets are absolute, so an overrun of one tick moves no later target. A turn of the loop that finds itself more
than a period late goes on with the latest slot that is not in the future. The log below keeps, for each poll, the
slot at which its turn began and the clock of the overrun check.
-/

namespace SartoriusLib.Recorder

open SartoriusLib Lib

variable {o : Options} {s s' : State} {start now later : Rat} {e : Event}

/-! ## Slots -/

/-- `start + tick * period`. -/
def slotTime (o : Options) (start : Rat) (tick : Nat) : Rat := start + tick * o.period

theorem targetOf_eq (o : Options) (s : State) : targetOf o s = slotTime o s.start s.tick := rfl

theorem slotTime_add (tick missed : Nat) :
    slotTime o start (tick + missed) = slotTime o start tick + missed * o.period := by
  simp only [slotTime, Nat.cast_add]
  ring

theorem slotTime_succ (tick : Nat) : slotTime o start (tick + 1) = slotTime o start tick + o.period := by
  rw [slotTime_add, Nat.cast_one, one_mul]

/-- The number of whole periods from a target to the clock. -/
def overrun (o : Options) (now target : Rat) : Nat := ((now - target) / o.period).floor.toNat

theorem cast_overrun (ho : 0 < o.period) {target : Rat} (hle : target ≤ now) :
    (overrun o now target : Int) = ((now - target) / o.period).floor :=
  Int.toNat_of_nonneg (Int.floor_nonneg.mpr (div_nonneg (sub_nonneg.mpr hle) ho.le))

/-- After whole periods the clock is in the slot that follows them. -/
theorem overrun_bounds (ho : 0 < o.period) {target : Rat} (hle : target ≤ now) :
    target + overrun o now target * o.period ≤ now ∧ now < target + overrun o now target * o.period + o.period := by
  have hc : ((overrun o now target : Int) : Rat) = (((now - target) / o.period).floor : Rat) :=
    congrArg _ (cast_overrun ho hle)
  have hlow : (((now - target) / o.period).floor : Rat) ≤ (now - target) / o.period := Int.floor_le _
  have hhigh : (now - target) / o.period < (((now - target) / o.period).floor : Rat) + 1 := Int.lt_floor_add_one _
  rw [← hc, Int.cast_natCast] at hlow hhigh
  rw [le_div_iff₀ ho] at hlow
  rw [div_lt_iff₀ ho] at hhigh
  constructor <;> linarith

/-! ## One turn of the loop -/

/-- What a turn of a loop that is not at its end does to the tick and to the count of late ticks. -/
structure Turned (o : Options) (s : State) (now : Rat) (s' : State) : Prop where
  advances : s.tick ≤ s'.tick
  late : s'.summary.samplesLate = s.summary.samplesLate + (s'.tick - s.tick)
  /-- No slot is skipped when the clock is at most one period late. -/
  onTime : now ≤ targetOf o s + o.period → s'.tick = s.tick
  /-- The whole periods are skipped, and the slot polled next is the latest one whose target is not in the future;
  or all the slots that are left are skipped, when they are fewer. -/
  skips : targetOf o s + o.period < now →
    (s'.tick - s.tick : Int) = ((now - targetOf o s) / o.period).floor ∧
      slotTime o s.start s'.tick ≤ now ∧ now < slotTime o s.start (s'.tick + 1) ∧
      (¬ finished o s'.tick → s'.phase = .polling (slotTime o s.start s'.tick)) ∨
    (s'.tick - s.tick : Int) < ((now - targetOf o s) / o.period).floor ∧
      s'.phase = .returned ∧ o.totalTicks = some s'.tick

@[simp] theorem await_tick (s : State) (target later : Rat) : (s.await target later).tick = s.tick := by
  unfold State.await
  split <;> rfl

@[simp] theorem await_summary (s : State) (target later : Rat) : (s.await target later).summary = s.summary := by
  unfold State.await
  split <;> rfl

/-- A target that has passed is polled at once. -/
theorem await_passed {target : Rat} (h : target ≤ later) : s.await target later = s.poll target later :=
  if_neg (not_lt.mpr h)

theorem turn_onTime (hf : ¬ finished o s.tick) (hn : now ≤ targetOf o s + o.period) :
    turn o s now later = s.await (targetOf o s) later := by
  simp only [turn, hf, Bool.false_eq_true, if_false, if_neg (not_lt.mpr hn)]

/-- A turn that is late goes on at a later slot, or is the last one. -/
theorem turn_late (hf : ¬ finished o s.tick) (hn : targetOf o s + o.period < now) :
    turn o s now later =
      if finished o (s.tick + missedSlots o s now (targetOf o s)) then
        { s.skip (missedSlots o s now (targetOf o s)) with clock := now, phase := .returned }
      else
        (s.skip (missedSlots o s now (targetOf o s))).await
          (slotTime o s.start (s.tick + missedSlots o s now (targetOf o s))) later := by
  simp only [turn, hf, Bool.false_eq_true, if_false, if_pos hn]
  rfl

/-- The slots that are skipped are the whole periods, unless fewer are left. -/
theorem missedSlots_cases (o : Options) (s : State) (now target : Rat) :
    missedSlots o s now target = overrun o now target ∨
      missedSlots o s now target < overrun o now target ∧
        ∃ total, o.totalTicks = some total ∧ missedSlots o s now target = total - s.tick := by
  cases hm : o.totalTicks with
  | none =>
      left
      simp [missedSlots, overrun, hm]
  | some total =>
      simp only [missedSlots, hm, overrun, Option.some.injEq, exists_eq_left']
      omega

theorem turn_turned (ho : 0 < o.period) (hf : ¬ finished o s.tick) (hl : now ≤ later) :
    Turned o s now (turn o s now later) := by
  rcases le_or_gt now (targetOf o s + o.period) with hn | hn
  · rw [turn_onTime hf hn]
    exact
      { advances := by simp
        late := by simp
        onTime := fun _ => by simp
        skips := fun h => absurd hn (not_le.mpr h) }
  have hle : targetOf o s ≤ now := by linarith
  obtain ⟨hlow, hhigh⟩ := overrun_bounds ho hle
  have hc := cast_overrun ho hle
  rw [targetOf_eq, ← slotTime_add] at hlow hhigh
  rw [← slotTime_succ] at hhigh
  rw [turn_late hf hn]
  rcases missedSlots_cases o s now (targetOf o s) with hm | ⟨hm, total, ht, hr⟩
  · rw [hm]
    split
    · next hfin =>
      exact
        { advances := by simp [State.skip]
          late := by simp [State.skip]
          onTime := fun h => absurd hn (not_lt.mpr h)
          skips := fun _ => .inl ⟨by simp [State.skip, hc], hlow, hhigh, fun h => absurd hfin h⟩ }
    · rw [targetOf_eq, await_passed (hlow.trans hl)]
      exact
        { advances := by simp [State.skip, State.poll]
          late := by simp [State.skip, State.poll]
          onTime := fun h => absurd hn (not_lt.mpr h)
          skips := fun _ => .inl ⟨by simpa [State.skip, State.poll, targetOf_eq] using hc, hlow, hhigh, fun _ => rfl⟩ }
  · have hlt : s.tick < total := by simpa [finished, ht] using hf
    have hend : s.tick + missedSlots o s now (targetOf o s) = total := by omega
    rw [if_pos (by simp [finished, ht, hend])]
    exact
      { advances := by simp [State.skip]
        late := by simp [State.skip]
        onTime := fun h => absurd hn (not_lt.mpr h)
        skips := fun _ => .inr ⟨by simp only [State.skip]; omega, rfl, by simp only [State.skip, hend, ht]⟩ }

/-! ## The polls of a run -/

/-- A poll, with the slot at which its turn of the loop began and the clock of the overrun check. -/
structure Poll where
  slot : Nat
  check : Rat
  tick : Nat
  began : Rat
  deriving DecidableEq, Repr

/-- The recorder with the log of its polls. -/
structure Watched where
  state : State
  slot : Nat := 0
  check : Rat
  polls : List Poll := []
  deriving DecidableEq, Repr

def watched (o : Options) (start : Rat) : Watched where
  state := initial o start
  check := start

/-- The overrun check of a turn is noted at its test of the loop. -/
def Watched.note (w : Watched) : Event → Watched
  | .turn now _ => { w with slot := w.state.tick, check := now }
  | _ => w

/-- A step of the recorder; a poll that it begins is logged. -/
def watch (o : Options) (w : Watched) (e : Event) : Option Watched :=
  (step o w.state e).map fun s =>
    { w.note e with
      state := s,
      polls := w.polls ++ (s.polls.drop w.state.polls.length).map fun poll =>
        ⟨(w.note e).slot, (w.note e).check, poll.1, poll.2⟩ }

/-- A poll is not early. It is late by a period at most where the clock did not move between the overrun check and
the poll, but for the sleep until the target. -/
structure OnTime (o : Options) (start : Rat) (poll : Poll) : Prop where
  notBefore : slotTime o start poll.tick ≤ poll.began
  checked : poll.check ≤ poll.began
  late : poll.began = max poll.check (slotTime o start poll.tick) →
    poll.began ≤ slotTime o start poll.tick + o.period
  kept : poll.check ≤ slotTime o start poll.slot + o.period → poll.tick = poll.slot
  skipped : slotTime o start poll.slot + o.period < poll.check →
    (poll.tick - poll.slot : Int) = ((poll.check - slotTime o start poll.slot) / o.period).floor ∧
      slotTime o start poll.tick ≤ poll.check ∧ poll.check < slotTime o start (poll.tick + 1)

/-- What the overrun check of a turn leaves for the poll that follows it. -/
structure Due (o : Options) (start : Rat) (slot : Nat) (check : Rat) (tick : Nat) : Prop where
  late : check ≤ slotTime o start tick + o.period
  kept : check ≤ slotTime o start slot + o.period → tick = slot
  skipped : slotTime o start slot + o.period < check →
    (tick - slot : Int) = ((check - slotTime o start slot) / o.period).floor ∧
      slotTime o start tick ≤ check ∧ check < slotTime o start (tick + 1)

theorem Due.onTime {slot tick : Nat} {check began : Rat} (h : Due o start slot check tick) (ho : 0 < o.period)
    (ht : slotTime o start tick ≤ began) (hc : check ≤ began) : OnTime o start ⟨slot, check, tick, began⟩ where
  notBefore := ht
  checked := hc
  late hb := by
    rw [hb]
    exact max_le h.late (by simpa using ho.le)
  kept := h.kept
  skipped := h.skipped

theorem Turned.due (h : Turned o s now s') (hp : s'.phase ≠ .returned) : Due o s.start s.tick now s'.tick where
  late := by
    rcases le_or_gt now (targetOf o s + o.period) with hn | hn
    · rw [h.onTime hn]
      exact hn
    rcases h.skips hn with ⟨-, -, hlt, -⟩ | ⟨-, hr, -⟩
    · rw [← slotTime_succ]
      exact hlt.le
    · exact absurd hr hp
  kept := h.onTime
  skipped hn := by
    rcases h.skips hn with ⟨hk, hle, hlt, -⟩ | ⟨-, hr, -⟩
    · exact ⟨hk, hle, hlt⟩
    · exact absurd hr hp

/-- The log is the log of the recorder, and every poll in it is on time. -/
structure Timed (o : Options) (start : Rat) (w : Watched) : Prop where
  started : w.state.start = start
  polls : w.polls.map (fun poll => (poll.tick, poll.began)) = w.state.polls
  onTime : ∀ poll ∈ w.polls, OnTime o start poll
  sleeping : ∀ target, w.state.phase = .sleeping target →
    target = slotTime o start w.state.tick ∧ w.check ≤ w.state.clock ∧ Due o start w.slot w.check w.state.tick

theorem Timed.watched (o : Options) (start : Rat) : Timed o start (watched o start) where
  started := rfl
  polls := rfl
  onTime _ h := absurd h List.not_mem_nil
  sleeping _ h := nomatch h

/-- A turn ends the loop, sleeps until the target of its tick, or polls. -/
theorem turn_cases (o : Options) (s : State) (now later : Rat) :
    (turn o s now later).start = s.start ∧
      ((turn o s now later).polls = s.polls ∧ (turn o s now later).phase = .returned ∨
        (turn o s now later).polls = s.polls ∧ (turn o s now later).clock = later ∧
          (turn o s now later).phase = .sleeping (slotTime o s.start (turn o s now later).tick) ∨
        (turn o s now later).polls = s.polls ++ [((turn o s now later).tick, later)] ∧
          slotTime o s.start (turn o s now later).tick ≤ later ∧
          (turn o s now later).phase = .polling (slotTime o s.start (turn o s now later).tick)) := by
  have hawait (s : State) : (s.await (targetOf o s) later).start = s.start ∧
      ((s.await (targetOf o s) later).polls = s.polls ∧ (s.await (targetOf o s) later).clock = later ∧
          (s.await (targetOf o s) later).phase = .sleeping (targetOf o s) ∨
        (s.await (targetOf o s) later).polls = s.polls ++ [(s.tick, later)] ∧ targetOf o s ≤ later ∧
          (s.await (targetOf o s) later).phase = .polling (targetOf o s)) := by
    unfold State.await
    split
    · exact ⟨rfl, .inl ⟨rfl, rfl, rfl⟩⟩
    · next h => exact ⟨rfl, .inr ⟨rfl, not_lt.mp h, rfl⟩⟩
  unfold turn
  dsimp only
  split
  · exact ⟨rfl, .inl ⟨rfl, rfl⟩⟩
  split
  · split
    · exact ⟨rfl, .inl ⟨rfl, rfl⟩⟩
    · simpa [slotTime, targetOf] using ⟨(hawait _).1, .inr (hawait _).2⟩
  · simpa [slotTime, targetOf] using ⟨(hawait s).1, .inr (hawait s).2⟩

/-- What leads to no poll and to no sleep. -/
structure Passed (s s' : State) : Prop where
  start : s'.start = s.start
  polls : s'.polls = s.polls
  sleeping : ∀ target, s'.phase = .sleeping target →
    s.phase = .sleeping target ∧ s'.tick = s.tick ∧ s'.clock = s.clock

theorem publish_passed (o : Options) (s : State) (batch : Batch) : Passed s (publish o s batch) := by
  unfold publish
  dsimp only
  repeat' split
  all_goals exact ⟨rfl, rfl, fun _ h => nomatch h⟩

theorem step_passed (hs : step o s e = some s') (ht : ∀ now later, e ≠ .turn now later) (hw : ∀ now, e ≠ .wake now) :
    Passed s s' := by
  cases e with
  | turn now later => exact absurd rfl (ht now later)
  | wake now => exact absurd rfl (hw now)
  | answer results timing now =>
      simp only [step] at hs
      split at hs
      · next target hp =>
          simp only [Option.ite_none_right_eq_some, Option.some.injEq] at hs
          obtain ⟨-, rfl⟩ := hs
          have h := publish_passed o (drift s target now) (buildBatch results timing)
          refine ⟨h.start, h.polls, fun t hpt => ?_⟩
          obtain ⟨hd, -, -⟩ := h.sleeping t hpt
          simp [drift, hp] at hd
      · cases hs
  | resume now =>
      simp only [step, Option.ite_none_right_eq_some, Option.some.injEq] at hs
      obtain ⟨-, rfl⟩ := hs
      exact ⟨rfl, rfl, fun _ h => by cases h⟩
  | fail =>
      simp only [step] at hs
      split at hs
      case h_4 => exact Option.some.inj hs ▸ ⟨rfl, rfl, fun _ h => by cases h⟩
      all_goals cases hs
  | receive =>
      simp only [step] at hs
      split at hs
      · cases hs
      split at hs
      · cases hs
      split at hs
      · exact Option.some.inj hs ▸ ⟨rfl, rfl, fun _ h => by cases h⟩
      · exact Option.some.inj hs ▸ ⟨rfl, rfl, fun _ h => ⟨h, rfl, rfl⟩⟩
  | close => exact Option.some.inj hs ▸ ⟨rfl, rfl, fun _ h => ⟨h, rfl, rfl⟩⟩

theorem Timed.quiet {w : Watched} (h : Timed o start w) (hp : Passed w.state s) :
    Timed o start
      { w with state := s,
               polls := w.polls ++ (s.polls.drop w.state.polls.length).map fun poll =>
                 ⟨w.slot, w.check, poll.1, poll.2⟩ } := by
  rw [hp.polls, List.drop_length, List.map_nil, List.append_nil]
  exact
    { started := hp.start.trans h.started
      polls := h.polls.trans hp.polls.symm
      onTime := h.onTime
      sleeping := fun target ht => by
        obtain ⟨hphase, htick, hclock⟩ := hp.sleeping target ht
        simpa only [htick, hclock] using h.sleeping target hphase }

/-- A poll that begins is logged, and was due. -/
theorem Timed.polled {w : Watched} (h : Timed o start w) {slot tick : Nat} {check began : Rat}
    (hstart : s.start = start) (hpolls : s.polls = w.state.polls ++ [(tick, began)]) {target : Rat}
    (hphase : s.phase = .polling target) (hon : OnTime o start ⟨slot, check, tick, began⟩) :
    Timed o start
      { w with state := s, slot, check,
               polls := w.polls ++ (s.polls.drop w.state.polls.length).map fun poll =>
                 ⟨slot, check, poll.1, poll.2⟩ } where
  started := hstart
  polls := by simp [hpolls, h.polls]
  onTime poll hin := by
    simp only [hpolls, List.drop_left, List.map_cons, List.map_nil, List.mem_append, List.mem_singleton] at hin
    rcases hin with hin | rfl
    · exact h.onTime poll hin
    · exact hon
  sleeping t ht := by simp [hphase] at ht

theorem Timed.turn {w w' : Watched} (h : Timed o start w) (ho : 0 < o.period)
    (hs : watch o w (.turn now later) = some w') : Timed o start w' := by
  simp only [watch, Option.map_eq_some_iff, step, Option.ite_none_right_eq_some, Option.some.injEq] at hs
  obtain ⟨s, ⟨⟨-, -, hl⟩, rfl⟩, rfl⟩ := hs
  obtain ⟨hstart, hcase⟩ := turn_cases o w.state now later
  have hend : (Recorder.turn o w.state now later).phase ≠ .returned →
      Due o start w.state.tick now (Recorder.turn o w.state now later).tick := by
    intro hp
    have hf : ¬ finished o w.state.tick := fun hf => hp (by simp [Recorder.turn, hf])
    exact h.started ▸ (turn_turned ho hf hl).due hp
  rcases hcase with ⟨hpolls, hp⟩ | ⟨hpolls, hclock, hp⟩ | ⟨hpolls, hle, hp⟩
  · simp only [Watched.note, hpolls, List.drop_length, List.map_nil, List.append_nil]
    exact ⟨hstart.trans h.started, h.polls.trans hpolls.symm, h.onTime, fun t ht => by simp [hp] at ht⟩
  · simp only [Watched.note, hpolls, List.drop_length, List.map_nil, List.append_nil]
    refine ⟨hstart.trans h.started, h.polls.trans hpolls.symm, h.onTime, fun t ht => ?_⟩
    have hdue := hend (by simp [hp])
    simp only [hp, Phase.sleeping.injEq] at ht
    exact ⟨ht ▸ h.started ▸ rfl, by simpa only [hclock] using hl, hdue⟩
  · have hdue := hend (by simp [hp])
    exact h.polled (hstart.trans h.started) hpolls hp (hdue.onTime ho (h.started ▸ hle) hl)

theorem Timed.wake {w w' : Watched} (h : Timed o start w) (ho : 0 < o.period)
    (hs : watch o w (.wake now) = some w') : Timed o start w' := by
  simp only [watch, Option.map_eq_some_iff, step] at hs
  obtain ⟨s, hs, rfl⟩ := hs
  split at hs
  · next target hp =>
      simp only [Option.ite_none_right_eq_some, Option.some.injEq] at hs
      obtain ⟨⟨hc, hle⟩, rfl⟩ := hs
      obtain ⟨rfl, hcheck, hdue⟩ := h.sleeping target hp
      exact h.polled h.started rfl rfl (hdue.onTime ho hle (hcheck.trans hc))
  · cases hs

theorem Timed.next {w w' : Watched} (h : Timed o start w) (ho : 0 < o.period) (hs : watch o w e = some w') :
    Timed o start w' := by
  by_cases ht : ∃ now later, e = .turn now later
  · obtain ⟨now, later, rfl⟩ := ht
    exact h.turn ho hs
  by_cases hw : ∃ now, e = .wake now
  · obtain ⟨now, rfl⟩ := hw
    exact h.wake ho hs
  simp only [not_exists] at ht hw
  have hnote : w.note e = w := by
    cases e with
    | turn now later => exact absurd rfl (ht now later)
    | _ => rfl
  simp only [watch, hnote, Option.map_eq_some_iff] at hs
  obtain ⟨s, hs, rfl⟩ := hs
  exact h.quiet (step_passed hs ht hw)

theorem Timed.reached {w : Watched} (ho : 0 < o.period) {es : List Event}
    (hr : run (watch o) (Recorder.watched o start) es = some w) : Timed o start w :=
  run_invariant' (fun _ _ _ h => h.next ho) (Timed.watched o start) hr

/-- The log adds nothing to what the recorder can do. -/
theorem run_watch {w : Watched} {es : List Event} :
    (run (watch o) w es).map Watched.state = run (step o) w.state es := by
  induction es generalizing w with
  | nil => rfl
  | cons e es ih =>
      simp only [run, watch, Option.bind_map, Option.map_bind]
      exact congrArg _ (funext fun s => ih)

/-! ## The cadence -/

/-- Every poll that was begun is on time, and the turn that the loop can take next skips the slots it is to skip. -/
structure Cadence (o : Options) (start : Rat) (w : Watched) : Prop where
  started : w.state.start = start
  polls : w.polls.map (fun poll => (poll.tick, poll.began)) = w.state.polls
  onTime : ∀ poll ∈ w.polls, OnTime o start poll
  turned : ∀ now later s', ¬ finished o w.state.tick → step o w.state (.turn now later) = some s' →
    Turned o w.state now s'

theorem record_cadence (ho : 0 < o.period) {es : List Event} {w : Watched}
    (hr : run (watch o) (watched o start) es = some w) : Cadence o start w where
  started := (Timed.reached ho hr).started
  polls := (Timed.reached ho hr).polls
  onTime := (Timed.reached ho hr).onTime
  turned now later s' hf hs := by
    simp only [step, Option.ite_none_right_eq_some, Option.some.injEq] at hs
    obtain ⟨⟨-, -, hl⟩, rfl⟩ := hs
    exact turn_turned ho hf hl

/-- At 2 Hz a first poll that takes 1.4 s costs one slot, and the slot after it is slept for. -/
theorem record_cadence_overrun :
    ∃ w, run (watch ⟨1 / 2, none, .block, 1⟩) (watched ⟨1 / 2, none, .block, 1⟩ 0)
        [.turn 0 0, .answer [] ⟨0, 1, 0, 1⟩ (7 / 5), .receive, .turn (7 / 5) (7 / 5),
          .answer [] ⟨1, 2, 1, 2⟩ (7 / 5), .turn (7 / 5) (7 / 5), .wake (3 / 2)] = some w ∧
      w.polls = [⟨0, 0, 0, 0⟩, ⟨1, 7 / 5, 2, 7 / 5⟩, ⟨3, 7 / 5, 3, 3 / 2⟩] ∧
      Cadence ⟨1 / 2, none, .block, 1⟩ 0 w := by
  have hr : (run (watch ⟨1 / 2, none, .block, 1⟩) (watched ⟨1 / 2, none, .block, 1⟩ 0)
      [.turn 0 0, .answer [] ⟨0, 1, 0, 1⟩ (7 / 5), .receive, .turn (7 / 5) (7 / 5),
        .answer [] ⟨1, 2, 1, 2⟩ (7 / 5), .turn (7 / 5) (7 / 5), .wake (3 / 2)]).map Watched.polls =
      some [⟨0, 0, 0, 0⟩, ⟨1, 7 / 5, 2, 7 / 5⟩, ⟨3, 7 / 5, 3, 3 / 2⟩] := by
    decide +kernel
  obtain ⟨w, hw, hp⟩ := Option.map_eq_some_iff.mp hr
  exact ⟨w, hw, hp, record_cadence (by norm_num) hw⟩

end SartoriusLib.Recorder
