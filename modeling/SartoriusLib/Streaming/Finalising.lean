import SartoriusLib.Streaming.Accounting

/-!
# Leaving a recording

The body of `async with record(...)` and the producer run in one task group. When the body ends the scope of the group
is cancelled, the receive end is closed, and the group waits for the producer. `finished_at` is assigned in the
statements after the group, which an exception that leaves the group skips.

The group is that of the async library. It cancels its scope when its child raises, and reraises what the child and
the body raised. It swallows the cancellation of its own scope, unless an enclosing scope is cancelled too. The close of
the receive end may be a checkpoint, where the cancellation of the scope is raised in place of an exception of the body.
-/

namespace SartoriusLib.Recorder

open SartoriusLib Lib

/-- The body reaches its end or leaves early, raises, or is cancelled at one of its awaits. -/
inductive BodyEnd where
  | returned
  | raised
  | cancelled
  deriving DecidableEq, Repr

/-- How the context is left. -/
inductive Outcome where
  | returned
  | raised
  | cancelled
  deriving DecidableEq, Repr

/-- Where the task of the consumer is. -/
inductive Place where
  | body
  /-- In the `__aexit__` of the group. -/
  | leaving (body : BodyEnd)
  | left (body : BodyEnd) (outcome : Outcome)
  deriving DecidableEq, Repr

/-- A recording with its task group. -/
structure Recording where
  producer : State
  /-- The producer raised an exception, other than its cancellation. -/
  failed : Bool := false
  /-- An enclosing scope is cancelled. -/
  outside : Bool := false
  place : Place := .body
  finishedAt : Option Int := none
  deriving DecidableEq, Repr

namespace Recording

inductive Event where
  /-- A step of the producer, or of the consumer on the stream. -/
  | recorder (e : Recorder.Event)
  /-- The cancellation reaches the producer. -/
  | interrupt
  /-- An enclosing scope is cancelled. -/
  | cancel
  /-- The body ends: `tg.cancel_scope.cancel()`, and the receive end is closed. -/
  | leave (body : BodyEnd)
  /-- The group is left, at this wall-clock time. -/
  | exit (now : Int)
  deriving DecidableEq, Repr

/-- The scope of the group is cancelled, or an enclosing one. -/
def Cancelled (r : Recording) : Prop := r.failed = true ∨ r.outside = true ∨ r.place ≠ .body

instance (r : Recording) : Decidable r.Cancelled := inferInstanceAs (Decidable (_ ∨ _ ∨ _))

/-- The producer has ended. -/
def Stopped (s : State) : Prop := s.phase = .returned ∨ s.phase = .raised

instance (s : State) : Decidable (Stopped s) := inferInstanceAs (Decidable (_ ∨ _))

/-- What the close of the receive end makes of the end of the body, when it is a checkpoint and when it is not. -/
def closing (checkpoint : Bool) (body : BodyEnd) : BodyEnd := if checkpoint then .cancelled else body

/-- What leaves the task group. -/
def outcome (r : Recording) (checkpoint : Bool) (body : BodyEnd) : Outcome :=
  if r.failed ∨ closing checkpoint body = .raised then .raised else if r.outside then .cancelled else .returned

def step (checkpoint : Bool) (o : Options) (r : Recording) : Event → Option Recording
  | .recorder e =>
      (Recorder.step o r.producer e).map fun s =>
        { r with producer := s, failed := r.failed || decide (s.phase = .raised ∧ r.producer.phase ≠ .raised) }
  | .interrupt =>
      if r.Cancelled then (Recorder.step o r.producer .fail).map fun s => { r with producer := s } else none
  | .cancel =>
      match r.place with
      | .left _ _ => none
      | _ => some { r with outside := true }
  | .leave body =>
      if r.place = .body ∧ (body = .cancelled → r.Cancelled) then
        some { r with producer := { r.producer with receiverClosed := true },
                      place := .leaving body }
      else none
  | .exit now =>
      match r.place with
      | .leaving body =>
          if Stopped r.producer then
            let outcome := r.outcome checkpoint body
            some { r with place := .left body outcome,
                          finishedAt := if outcome = .returned then some now else none }
          else none
      | _ => none

variable {checkpoint : Bool} {o : Options} {r r' : Recording} {e : Event}

/-! ## The recorder of a recording -/

/-- A step of a recording is a step of its recorder, or none. -/
theorem step_recorder (hs : step checkpoint o r e = some r') :
    ∃ es, run (Recorder.step o) r.producer es = some r'.producer := by
  cases e with
  | recorder e =>
      obtain ⟨s, hstep, rfl⟩ := Option.map_eq_some_iff.mp hs
      exact ⟨[e], run_cons_eq_some.mpr ⟨s, hstep, rfl⟩⟩
  | interrupt =>
      simp only [step, Option.ite_none_right_eq_some] at hs
      obtain ⟨-, hs⟩ := hs
      obtain ⟨s, hstep, rfl⟩ := Option.map_eq_some_iff.mp hs
      exact ⟨[.fail], run_cons_eq_some.mpr ⟨s, hstep, rfl⟩⟩
  | cancel =>
      simp only [step] at hs
      split at hs
      · cases hs
      · cases hs
        exact ⟨[], rfl⟩
  | leave body =>
      simp only [step, Option.ite_none_right_eq_some, Option.some.injEq] at hs
      obtain ⟨-, rfl⟩ := hs
      exact ⟨[.close], rfl⟩
  | exit now =>
      simp only [step] at hs
      split at hs
      · simp only [Option.ite_none_right_eq_some, Option.some.injEq] at hs
        obtain ⟨-, rfl⟩ := hs
        exact ⟨[], rfl⟩
      · cases hs

/-- So what holds of every run of a recorder holds of the recorder of a recording. -/
theorem run_recorder {es : List Event} (hr : run (step checkpoint o) r es = some r') :
    ∃ es, run (Recorder.step o) r.producer es = some r'.producer := by
  induction es generalizing r with
  | nil =>
      cases hr
      exact ⟨[], rfl⟩
  | cons e es ih =>
      obtain ⟨t, ht, hr⟩ := run_cons_eq_some.mp hr
      obtain ⟨first, hfirst⟩ := step_recorder ht
      obtain ⟨later, hlater⟩ := ih hr
      refine ⟨first ++ later, ?_⟩
      rw [run_append, hfirst]
      exact hlater

/-! ## A producer that has ended -/

/-- A producer that has ended takes no step and counts nothing. -/
theorem stopped_step {s s' : State} {e : Recorder.Event} (h : Stopped s) (hs : Recorder.step o s e = some s') :
    s'.phase = s.phase ∧ s'.summary = s.summary := by
  cases e with
  | turn now later =>
      rcases h with h | h <;> simp [Recorder.step, h] at hs
  | wake now =>
      rcases h with h | h <;> simp [Recorder.step, h] at hs
  | answer results timing now =>
      rcases h with h | h <;> simp [Recorder.step, h] at hs
  | resume now =>
      rcases h with h | h <;> simp [Recorder.step, h] at hs
  | fail =>
      rcases h with h | h <;> simp [Recorder.step, h] at hs
  | receive =>
      simp only [Recorder.step] at hs
      split at hs
      · cases hs
      split at hs
      · cases hs
      split at hs
      · next hp => rcases h with h | h <;> cases h.symm.trans hp
      · exact Option.some.inj hs ▸ ⟨rfl, rfl⟩
  | close => exact Option.some.inj hs ▸ ⟨rfl, rfl⟩

theorem stopped_run {s s' : State} {es : List Recorder.Event} (h : Stopped s)
    (hr : run (Recorder.step o) s es = some s') : Stopped s' ∧ s'.summary = s.summary := by
  induction es generalizing s with
  | nil =>
      cases hr
      exact ⟨h, rfl⟩
  | cons e es ih =>
      obtain ⟨t, ht, hr⟩ := run_cons_eq_some.mp hr
      obtain ⟨hphase, hsummary⟩ := stopped_step h ht
      have hstopped : Stopped t := by rwa [Stopped, hphase]
      obtain ⟨hend, hcount⟩ := ih hstopped hr
      exact ⟨hend, hcount.trans hsummary⟩

/-! ## What holds of every recording -/

/-- A recording that was left has a producer that ended, and `finished_at` when nothing was raised. -/
def Sound (checkpoint : Bool) (r : Recording) : Prop :=
  ∀ body out, r.place = .left body out →
    Stopped r.producer ∧ out = r.outcome checkpoint body ∧ (r.finishedAt.isSome ↔ out = .returned)

theorem Sound.next (h : Sound checkpoint r) (hs : step checkpoint o r e = some r') : Sound checkpoint r' := by
  intro body out hp
  cases e with
  | recorder e =>
      obtain ⟨s, hstep, rfl⟩ := Option.map_eq_some_iff.mp hs
      obtain ⟨hstopped, rfl, hfinished⟩ := h body out hp
      have hphase := (stopped_step hstopped hstep).1
      -- a producer that has ended does not fail again
      have hfailed : (r.failed || decide (s.phase = .raised ∧ r.producer.phase ≠ .raised)) = r.failed := by
        simp [hphase]
      simp only [hfailed]
      exact ⟨by rwa [Stopped, hphase], rfl, hfinished⟩
  | interrupt =>
      simp only [step, Option.ite_none_right_eq_some] at hs
      obtain ⟨-, hs⟩ := hs
      obtain ⟨s, hstep, rfl⟩ := Option.map_eq_some_iff.mp hs
      obtain ⟨hstopped, hrest⟩ := h body out hp
      exact ⟨by rwa [Stopped, (stopped_step hstopped hstep).1], hrest⟩
  | cancel =>
      simp only [step] at hs
      split at hs
      · cases hs
      next hne =>
        cases hs
        exact absurd hp (hne body out)
  | leave body =>
      simp only [step, Option.ite_none_right_eq_some, Option.some.injEq] at hs
      obtain ⟨-, rfl⟩ := hs
      cases hp
  | exit now =>
      simp only [step] at hs
      split at hs
      · simp only [Option.ite_none_right_eq_some, Option.some.injEq] at hs
        obtain ⟨hstopped, rfl⟩ := hs
        cases hp
        refine ⟨hstopped, rfl, ?_⟩
        dsimp only
        split <;> simp [*]
      · cases hs

theorem Sound.reached {start : Rat} {es : List Event}
    (hr : run (step checkpoint o) { producer := initial o start } es = some r) : Sound checkpoint r :=
  run_invariant' (fun _ _ _ => Sound.next) (fun _ _ hp => by cases hp) hr

/-- Nothing leaves the group when the producer did not fail, no enclosing scope was cancelled, and the body did not
raise, or its exception was lost at the checkpoint. -/
theorem outcome_returned (r : Recording) (checkpoint : Bool) (body : BodyEnd) :
    r.outcome checkpoint body = .returned ↔
      r.failed = false ∧ r.outside = false ∧ (body = .raised → checkpoint = true) := by
  cases hf : r.failed <;> cases ho : r.outside <;> cases checkpoint <;> cases body <;>
    simp [outcome, closing, hf, ho]

/-! ## The summary after the exit -/

/-- `finished_at` is set, and no counter changes any more. -/
structure Finalised (checkpoint : Bool) (o : Options) (r : Recording) : Prop where
  finished : r.finishedAt.isSome
  stopped : Stopped r.producer
  quiet : ∀ es r', run (step checkpoint o) r es = some r' → r'.producer.summary = r.producer.summary

/-- After every exit the producer has ended, and no counter changes. -/
theorem stopped_quiet (h : Stopped r.producer) {es : List Event} (hr : run (step checkpoint o) r es = some r') :
    r'.producer.summary = r.producer.summary := by
  obtain ⟨es', hes⟩ := run_recorder hr
  exact (stopped_run h hes).2

theorem finalised_iff {start : Rat} {es : List Event} {body : BodyEnd} {out : Outcome}
    (hr : run (step checkpoint o) { producer := initial o start } es = some r) (hleft : r.place = .left body out) :
    Finalised checkpoint o r ↔ r.failed = false ∧ r.outside = false ∧ (body = .raised → checkpoint = true) := by
  obtain ⟨hstopped, rfl, hfinished⟩ := Sound.reached hr body out hleft
  rw [← outcome_returned, ← hfinished]
  exact ⟨fun h => h.finished, fun h => ⟨h, hstopped, fun _ _ hr' => stopped_quiet hstopped hr'⟩⟩

/-- A consumer that leaves while the producer polls. -/
theorem finalised_iff_early :
    ∃ r, run (step true ⟨1, none, .block, 1⟩) { producer := initial ⟨1, none, .block, 1⟩ 0 }
        [.recorder (.turn 0 0), .leave .returned, .interrupt, .exit 7] = some r ∧
      r.finishedAt = some 7 ∧
      (Finalised true ⟨1, none, .block, 1⟩ r ↔
        r.failed = false ∧ r.outside = false ∧ (BodyEnd.returned = .raised → true = true)) := by
  have hr : (run (step true ⟨1, none, .block, 1⟩) { producer := initial ⟨1, none, .block, 1⟩ 0 }
      [.recorder (.turn 0 0), .leave .returned, .interrupt, .exit 7]).any
      (fun r => r.finishedAt = some 7 ∧ r.place = .left .returned .returned) = true := by decide +kernel
  obtain ⟨r, hr, hend⟩ := (Option.any_eq_true _ _).mp hr
  obtain ⟨hfinished, hleft⟩ := of_decide_eq_true hend
  exact ⟨r, hr, hfinished, finalised_iff hr hleft⟩

/-- A poll that raises, and a consumer that is cancelled. -/
theorem failed_poll_unfinished :
    ∃ r, run (step true ⟨1, none, .block, 1⟩) { producer := initial ⟨1, none, .block, 1⟩ 0 }
        [.recorder (.turn 0 0), .recorder .fail, .leave .cancelled, .exit 7] = some r ∧
      r.place = .left .cancelled .raised ∧ ¬ Finalised true ⟨1, none, .block, 1⟩ r := by
  have hr : (run (step true ⟨1, none, .block, 1⟩) { producer := initial ⟨1, none, .block, 1⟩ 0 }
      [.recorder (.turn 0 0), .recorder .fail, .leave .cancelled, .exit 7]).any
      (fun r => r.place = .left .cancelled .raised ∧ r.finishedAt = none) = true := by decide +kernel
  obtain ⟨r, hr, hend⟩ := (Option.any_eq_true _ _).mp hr
  obtain ⟨hleft, hfinished⟩ := of_decide_eq_true hend
  exact ⟨r, hr, hleft, fun h => by simpa [hfinished] using h.finished⟩

end Recording

end SartoriusLib.Recorder
