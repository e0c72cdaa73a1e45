import SartoriusLib.Lib.Run
import SartoriusLib.Streaming.Stream
import SartoriusLib.Transport.Serial
import Mathlib.Algebra.Order.Field.Rat
import Mathlib.Tactic.Linarith
import Mathlib.Tactic.Positivity

/-!
# Entering a stream again

A session that could not be entered ought to be as before, and an entry ought to count its requests from its own
start. The diary below keeps what each attempt to enter left behind and when each request was made.
-/

namespace SartoriusLib.StreamingSession

open Lib

variable {W : Type} {T : Transport W} {m : Moment}

/-! ## The diary -/

/-- An attempt to enter a session that no earlier entry holds. -/
structure Attempt where
  raised : Bool
  /-- The next `__aenter__` is not refused as a second one. -/
  enterable : Bool
  deriving DecidableEq, Repr

/-- The `n`-th request of an entry. -/
structure Request where
  entry : Rat
  n : Nat
  asked : Rat
  requested : Rat
  deriving DecidableEq, Repr

structure Diary (W : Type) where
  attached : Attached W
  /-- The time of the entry that holds the session, and the number of its requests. -/
  live : Option (Rat × Nat) := none
  attempts : List Attempt := []
  requests : List Request := []

/-- `__anext__` goes to `_poll_sample`. -/
def Stream.polls (s : Stream) : Bool := s.entered ∧ s.pending = none ∧ s.mode = .poll

/-- The ticks that `__anext__` takes. -/
def Stream.ticks (s : Stream) : Nat := if s.polls ∧ s.rateHz ≠ none then 1 else 0

namespace Diary

def attempt (d : Diary W) (raised : Bool) (a : Attached W) : Diary W :=
  { d with attached := a, attempts := d.attempts ++ [⟨raised, !a.stream.entered⟩] }

/-- A request of the entry that holds the session. -/
def request (d : Diary W) (now : Rat) : Diary W :=
  match d.live with
  | none => d
  | some (entry, n) =>
      { d with live := some (entry, n + 1),
               requests := d.requests ++ [⟨entry, n, now, d.attached.stream.requestTime now⟩] }

/-- One call, with what is to be noted of it. -/
def step (T : Transport W) (d : Diary W) : Event W → Option (Diary W)
  | .enter m =>
      let (result, a) := (aenter T m).exec d.attached
      match d.live with
      | some _ => some { d with attached := a }
      | none =>
          match result with
          | .ok _ => some { d.attempt false a with live := some (m.now, 0) }
          | .error _ => some (d.attempt true a)
  | .next m =>
      let (_, a) := (anext T m).exec d.attached
      let noted := if d.attached.stream.polls then d.request m.now else d
      some { noted with attached := a }
  | .exit => some { d with attached := { d.attached with stream := aexit d.attached.stream }, live := none }
  | .others h => some { d with attached := { d.attached with host := h } }

/-- An attempt that raised left the session enterable, and every request was made at its own time of its entry. -/
structure Reusable (rateHz : Option Rat) (d : Diary W) : Prop where
  retried : ∀ attempt ∈ d.attempts, attempt.raised = true → attempt.enterable = true
  scheduled : ∀ r ∈ d.requests, ∀ rate ∈ rateHz, r.requested = max r.asked (r.entry + r.n / rate)

instance (rateHz : Option Rat) (d : Diary W) : Decidable (d.Reusable rateHz) :=
  decidable_of_iff
    ((∀ attempt ∈ d.attempts, attempt.raised = true → attempt.enterable = true) ∧
      ∀ r ∈ d.requests, ∀ rate ∈ rateHz, r.requested = max r.asked (r.entry + r.n / rate))
    ⟨fun ⟨hr, hs⟩ => ⟨hr, hs⟩, fun h => ⟨h.retried, h.scheduled⟩⟩

/-- No attempt to enter raises, and no request is late on account of the ticks of earlier entries: there were none,
or the target that counts them has passed. -/
def Unspoiled (T : Transport W) (d : Diary W) : Event W → Prop
  | .enter m => d.live = none → Admits T m d.attached
  | .next m =>
      d.attached.stream.polls = true → ∀ entry n, d.live = some (entry, n) →
        d.attached.stream.tick = n ∨ d.attached.stream.target ≤ m.now
  | .exit | .others _ => True

/-! ## What holds of every diary -/

/-- The entry that holds the session is the last one that began, and its requests are among the ticks. -/
structure Kept (rateHz : Option Rat) (mode : StreamMode) (d : Diary W) : Prop where
  rate : d.attached.stream.rateHz = rateHz
  kind : d.attached.stream.mode = mode
  positive : mode = .poll → ∃ rate, rateHz = some rate ∧ 0 < rate
  held : ∀ entry n, d.live = some (entry, n) →
    d.attached.stream.entered = true ∧ d.attached.stream.start = entry ∧ n ≤ d.attached.stream.tick
  free : d.live = none → d.attached.stream.entered = false

variable {rateHz : Option Rat} {mode : StreamMode} {d d' : Diary W} {e : Event W}

/-- Entering a session that is held changes nothing. -/
theorem Kept.enter_held (h : d.Kept rateHz mode) {entry : Rat} {n : Nat} (hl : d.live = some (entry, n)) :
    d.step T (.enter m) = some d := by
  have hx : (aenter T m).exec d.attached = _ := aenter_active (h.held entry n hl).1
  simp only [step, hx, hl]
  rw [← hl]

/-- What an attempt to enter a free session does to the diary. -/
theorem Kept.enter_free (h : d.Kept rateHz mode) (hl : d.live = none) (hs : d.step T (.enter m) = some d') :
    (∃ host, ¬ Admits T m d.attached ∧
      d' = d.attempt true { stream := d.attached.stream.begun m.now, host }) ∨
    ∃ pending host, Admits T m d.attached ∧
      d' = { d.attempt false { stream := { d.attached.stream.begun m.now with pending }, host } with
             live := some (m.now, 0) } := by
  have he := aenter_entered T m d.attached
  rcases hx : (aenter T m).exec d.attached with ⟨r, a⟩
  simp only [step, hx, hl] at hs
  rw [hx] at he
  cases he with
  | active e hactive => rw [h.free hl] at hactive; cases hactive
  | refused e host _ hn => exact .inl ⟨host, hn, (Option.some.inj hs).symm⟩
  | poll _ _ ha => exact .inr ⟨d.attached.stream.pending, d.attached.host, ha, (Option.some.inj hs).symm⟩
  | autoprint reading host _ _ ha => exact .inr ⟨_, host, ha, (Option.some.inj hs).symm⟩

/-- An iteration leaves the entry as it is, and takes a tick when it makes a request. -/
theorem next_stream (T : Transport W) (m : Moment) (a : Attached W) :
    ∃ pending host, ((anext T m).exec a).2 =
      { stream := { a.stream with pending, tick := a.stream.tick + a.stream.ticks }, host } := by
  have hn := anext_advanced T m a
  rcases hx : (anext T m).exec a with ⟨r, a'⟩
  rw [hx] at hn
  dsimp only at hn ⊢
  cases hn with
  | refused e h =>
      have ht : a.stream.ticks = 0 := by rcases h with h | ⟨-, h⟩ <;> simp [Stream.ticks, Stream.polls, h]
      exact ⟨a.stream.pending, a.host, by rw [ht]; rfl⟩
  | pending sample h hp =>
      have ht : a.stream.ticks = 0 := by simp [Stream.ticks, Stream.polls, hp]
      exact ⟨none, a.host, by rw [ht]; rfl⟩
  | raised e host h hp hm =>
      have ht : a.stream.ticks = 0 := by simp [Stream.ticks, Stream.polls, hm]
      exact ⟨a.stream.pending, host, by rw [ht]; rfl⟩
  | line reading host h hp hm =>
      have ht : a.stream.ticks = 0 := by simp [Stream.ticks, Stream.polls, hm]
      exact ⟨a.stream.pending, host, by rw [ht]; rfl⟩
  | failed e host h hp hm hr =>
      have ht : a.stream.ticks = 1 := by simp [Stream.ticks, Stream.polls, h, hp, hm, hr]
      exact ⟨a.stream.pending, host, by rw [ht]⟩
  | polled reading host h hp hm hr =>
      have ht : a.stream.ticks = 1 := by simp [Stream.ticks, Stream.polls, h, hp, hm, hr]
      exact ⟨a.stream.pending, host, by rw [ht]⟩

/-! ## The schedule -/

/-- The request of tick `tick` is the `n`-th of its entry when the ticks agree, or else when both targets have
passed. -/
theorem requested_iff {rate start asked : Rat} (hrate : 0 < rate) {n tick : Nat} (hle : n ≤ tick) :
    max asked (start + tick / rate) = max asked (start + n / rate) ↔ tick = n ∨ start + tick / rate ≤ asked := by
  constructor
  · intro h
    rcases hle.eq_or_lt with heq | hlt
    · exact .inl heq.symm
    right
    have hcast : (n : Rat) / rate < tick / rate := by
      exact div_lt_div_of_pos_right (Nat.cast_lt.mpr hlt) hrate
    by_contra hasked
    have hasked := not_le.mp hasked
    rw [max_eq_right hasked.le] at h
    rcases max_choice asked (start + n / rate) with hmax | hmax <;> linarith
  · rintro (rfl | hpast)
    · rfl
    have hcast : (n : Rat) / rate ≤ tick / rate :=
      div_le_div_of_nonneg_right (Nat.cast_le.mpr hle) hrate.le
    rw [max_eq_left hpast, max_eq_left (by linarith)]

theorem requestTime_eq_max (s : Stream) (now : Rat) : s.requestTime now = max now s.target := by
  simp only [Stream.requestTime]
  split
  · exact (max_eq_right (le_of_lt ‹_›)).symm
  · exact (max_eq_left (not_lt.mp ‹_›)).symm

theorem target_eq {s : Stream} {rate : Rat} (hr : s.rateHz = some rate) :
    s.target = s.start + s.tick / rate := by
  simp only [Stream.target, Stream.period, hr, Option.getD_some]
  rw [mul_one_div]

/-! ## One call -/

theorem Kept.positive_rate (h : d.Kept rateHz mode) (hp : d.attached.stream.polls = true) :
    ∃ rate, rateHz = some rate ∧ 0 < rate := by
  have hm : d.attached.stream.mode = .poll := by
    simp only [Stream.polls, decide_eq_true_eq] at hp
    exact hp.2.2
  exact h.positive (h.kind.symm.trans hm)

/-- The diary after an iteration. -/
theorem step_next (hs : d.step T (.next m) = some d') :
    ∃ pending host,
      d' = { (if d.attached.stream.polls then d.request m.now else d) with
             attached :=
               { stream :=
                   { d.attached.stream with
                     pending, tick := d.attached.stream.tick + d.attached.stream.ticks },
                 host } } := by
  obtain ⟨pending, host, hx⟩ := next_stream T m d.attached
  refine ⟨pending, host, ?_⟩
  rw [← hx]
  exact (Option.some.inj hs).symm

/-- A request is at its own time exactly when the ticks of earlier entries do not delay it. -/
theorem Kept.scheduled_iff (h : d.Kept rateHz mode) (hp : d.attached.stream.polls = true) {entry now : Rat}
    {n : Nat} (hl : d.live = some (entry, n)) :
    (∀ rate ∈ rateHz, d.attached.stream.requestTime now = max now (entry + n / rate)) ↔
      d.attached.stream.tick = n ∨ d.attached.stream.target ≤ now := by
  obtain ⟨rate, rfl, hrate⟩ := h.positive_rate hp
  obtain ⟨-, rfl, hle⟩ := h.held entry n hl
  have ht := target_eq h.rate
  simp only [Option.mem_def, Option.some.injEq, forall_eq', requestTime_eq_max, ht]
  exact requested_iff hrate hle

theorem reusable_request (hok : d.Reusable rateHz) {entry : Rat} {n : Nat} (hl : d.live = some (entry, n))
    (now : Rat) (a : Attached W) :
    Reusable rateHz { d.request now with attached := a } ↔
      ∀ rate ∈ rateHz, d.attached.stream.requestTime now = max now (entry + n / rate) := by
  have hr : d.request now =
      { d with live := some (entry, n + 1),
               requests := d.requests ++ [⟨entry, n, now, d.attached.stream.requestTime now⟩] } := by
    simp only [request, hl]
  rw [hr]
  constructor
  · exact fun h => h.scheduled _ (List.mem_append_right _ (List.mem_singleton_self _))
  · intro h
    refine ⟨hok.retried, fun r hin => ?_⟩
    rcases List.mem_append.mp hin with hin | hin
    · exact hok.scheduled r hin
    · rw [List.mem_singleton.mp hin]
      exact h

/-- A step notes what is in order exactly when it is unspoiled. -/
theorem Kept.step_iff (h : d.Kept rateHz mode) (hok : d.Reusable rateHz) (hs : d.step T e = some d') :
    d'.Reusable rateHz ↔ d.Unspoiled T e := by
  cases e with
  | enter m =>
      cases hl : d.live with
      | some entry =>
          rw [h.enter_held hl] at hs
          cases hs
          exact iff_of_true hok fun hnone => by rw [hl] at hnone; cases hnone
      | none =>
          rcases h.enter_free hl hs with ⟨host, hn, rfl⟩ | ⟨pending, host, ha, rfl⟩
          · refine iff_of_false (fun hok' => ?_) fun hg => hn (hg hl)
            have hlast := hok'.retried ⟨true, false⟩ (List.mem_append_right _ (List.mem_singleton_self _)) rfl
            cases hlast
          · refine iff_of_true ⟨fun attempt hin hraised => ?_, hok.scheduled⟩ fun _ => ha
            rcases List.mem_append.mp hin with hin | hin
            · exact hok.retried attempt hin hraised
            · rw [List.mem_singleton.mp hin] at hraised
              cases hraised
  | next m =>
      obtain ⟨pending, host, rfl⟩ := step_next hs
      by_cases hp : d.attached.stream.polls = true
      · simp only [hp, if_true]
        cases hl : d.live with
        | none =>
            have hfree := h.free hl
            simp [Stream.polls, hfree] at hp
        | some live =>
            obtain ⟨entry, n⟩ := live
            rw [reusable_request hok hl, h.scheduled_iff hp hl]
            simp only [Unspoiled, hp, hl, Option.some.injEq, Prod.mk.injEq, true_implies, and_imp]
            constructor
            · rintro hg _ _ rfl rfl
              exact hg
            · exact fun hg => hg entry n rfl rfl
      · rw [if_neg hp]
        exact iff_of_true ⟨hok.retried, hok.scheduled⟩ fun hp' => absurd hp' hp
  | exit =>
      cases hs
      exact iff_of_true ⟨hok.retried, hok.scheduled⟩ trivial
  | others host =>
      cases hs
      exact iff_of_true ⟨hok.retried, hok.scheduled⟩ trivial

/-- What is noted stays noted. -/
theorem step_grows (hs : d.step T e = some d') : d.attempts <+: d'.attempts ∧ d.requests <+: d'.requests := by
  cases e with
  | enter m =>
      simp only [step] at hs
      split at hs
      · cases hs
        exact ⟨List.prefix_rfl, List.prefix_rfl⟩
      · split at hs <;> cases hs <;> exact ⟨List.prefix_append _ _, List.prefix_rfl⟩
  | next m =>
      obtain ⟨pending, host, rfl⟩ := step_next hs
      dsimp only
      split
      · unfold request
        split
        · exact ⟨List.prefix_rfl, List.prefix_rfl⟩
        · exact ⟨List.prefix_rfl, List.prefix_append _ _⟩
      · exact ⟨List.prefix_rfl, List.prefix_rfl⟩
  | exit =>
      cases hs
      exact ⟨List.prefix_rfl, List.prefix_rfl⟩
  | others host =>
      cases hs
      exact ⟨List.prefix_rfl, List.prefix_rfl⟩

theorem Reusable.before (hs : d.step T e = some d') (h : d'.Reusable rateHz) : d.Reusable rateHz where
  retried attempt hin := h.retried attempt ((step_grows hs).1.subset hin)
  scheduled r hin := h.scheduled r ((step_grows hs).2.subset hin)

/-- A step in order keeps the diary in step with the session. -/
theorem Kept.step (h : d.Kept rateHz mode) (hok : d'.Reusable rateHz) (hs : d.step T e = some d') :
    d'.Kept rateHz mode := by
  cases e with
  | enter m =>
      cases hl : d.live with
      | some entry =>
          rw [h.enter_held hl] at hs
          exact Option.some.inj hs ▸ h
      | none =>
          rcases h.enter_free hl hs with ⟨host, hn, rfl⟩ | ⟨pending, host, ha, rfl⟩
          · have hlast := hok.retried ⟨true, false⟩ (List.mem_append_right _ (List.mem_singleton_self _)) rfl
            cases hlast
          · exact
              { rate := h.rate
                kind := h.kind
                positive := h.positive
                held := by
                  rintro entry n ⟨⟩
                  exact ⟨rfl, rfl, Nat.zero_le _⟩
                free := fun hnone => nomatch hnone }
  | next m =>
      obtain ⟨pending, host, rfl⟩ := step_next hs
      by_cases hp : d.attached.stream.polls = true
      · obtain ⟨rate, hrate, -⟩ := h.positive_rate hp
        have ht : d.attached.stream.ticks = 1 := by simp [Stream.ticks, hp, h.rate, hrate]
        simp only [hp, if_true, ht]
        cases hl : d.live with
        | none =>
            have hfree := h.free hl
            simp [Stream.polls, hfree] at hp
        | some live =>
            obtain ⟨entry, n⟩ := live
            obtain ⟨hentered, hstart, hle⟩ := h.held entry n hl
            exact
              { rate := h.rate
                kind := h.kind
                positive := h.positive
                held := by
                  simp only [request, hl]
                  rintro entry n ⟨⟩
                  exact ⟨hentered, hstart, Nat.succ_le_succ hle⟩
                free := by simp [request, hl] }
      · rw [if_neg hp]
        exact
          { rate := h.rate
            kind := h.kind
            positive := h.positive
            held := fun entry n hl => by
              obtain ⟨hentered, hstart, hle⟩ := h.held entry n hl
              exact ⟨hentered, hstart, Nat.le_add_right_of_le hle⟩
            free := h.free }
  | exit =>
      cases hs
      exact
        { rate := h.rate
          kind := h.kind
          positive := h.positive
          held := fun _ _ hl => nomatch hl
          free := fun _ => rfl }
  | others host =>
      cases hs
      exact { h with }

end Diary

/-! ## Every sequence of calls -/

theorem reusable_iff {temporaryAutoprint confirm : Bool} {rateHz : Option Rat} {mode : StreamMode} {s : Stream}
    {h : Host W} {es : List (Event W)} {d : Diary W} (hs : init rateHz mode temporaryAutoprint confirm = .ok s)
    (hr : run (Diary.step T) { attached := ⟨s, h⟩ } es = some d) :
    d.Reusable rateHz ↔ Guarded (Diary.step T) (Diary.Unspoiled T) { attached := ⟨s, h⟩ } es := by
  obtain ⟨rfl, hrate⟩ := init_ok hs
  have hkept : Diary.Kept rateHz mode
      { attached := ⟨{ rateHz, mode, temporaryAutoprint, confirm }, h⟩ : Diary W } :=
    { rate := rfl
      kind := rfl
      positive := hrate
      held := fun _ _ hl => nomatch hl
      free := fun _ => rfl }
  have hok : Diary.Reusable rateHz
      { attached := ⟨{ rateHz, mode, temporaryAutoprint, confirm }, h⟩ : Diary W } :=
    { retried := fun _ hin => nomatch hin
      scheduled := fun _ hin => nomatch hin }
  exact run_iff_guarded (fun _ _ _ hs hok => hok.before hs) (fun _ _ _ h hok hs => h.step_iff hok hs)
    (fun _ _ _ h hok hs => h.step hok hs) hkept hok hr

/-- An SBI session, in autoprint or not, whose device answers two print commands. -/
def pollingHost (autoprintActive : Bool) : Host SerialState where
  world :=
    { settings := { port := "COM3" },
      line := List.replicate 2 [.chunk (encodeAsciiReplace "+     12.5 g  \r\n".toList)] }
  session :=
    { active := .sbi, sbi := some { id := 0, autoprintActive }, serialSettings := some { port := "COM3" } }
  nextId := 1

/-- A session that polls once in a second. -/
def pollingStream : Stream where
  rateHz := some 1
  mode := .poll
  temporaryAutoprint := false
  confirm := false

/-- A call at the time `now`. -/
def momentAt (now : Rat) : Moment := ⟨now, ⟨0, 0, 0, 0⟩, (1, []), []⟩

/-- The second entry asks for its first sample when the ticks of the first have passed. -/
theorem reusable_iff_late :
    ∃ d, run (Diary.step serialTransport) { attached := ⟨pollingStream, pollingHost false⟩ }
        [.enter (momentAt 0), .next (momentAt 0), .exit, .enter (momentAt 5), .next (momentAt 7)] = some d ∧
      d.requests = [⟨0, 0, 0, 0⟩, ⟨5, 0, 7, 7⟩] ∧
      (d.Reusable (some 1) ↔
        Guarded (Diary.step serialTransport) (Diary.Unspoiled serialTransport)
          { attached := ⟨pollingStream, pollingHost false⟩ }
          [.enter (momentAt 0), .next (momentAt 0), .exit, .enter (momentAt 5), .next (momentAt 7)]) := by
  have hr : (run (Diary.step serialTransport) { attached := ⟨pollingStream, pollingHost false⟩ }
      [.enter (momentAt 0), .next (momentAt 0), .exit, .enter (momentAt 5), .next (momentAt 7)]).any
      (fun d => d.requests = [⟨0, 0, 0, 0⟩, ⟨5, 0, 7, 7⟩]) = true := by decide +kernel
  obtain ⟨d, hd, hrequests⟩ := (Option.any_eq_true _ _).mp hr
  have hs : init (some 1) .poll false false = .ok pollingStream := by decide +kernel
  exact ⟨d, hd, of_decide_eq_true hrequests, reusable_iff hs hd⟩

/-- An entry that was refused while autoprint was active is not possible afterwards, and the first sample of a second
entry is requested one second after it was asked for. -/
theorem reentry_spoiled :
    (∃ d, run (Diary.step serialTransport) { attached := ⟨pollingStream, pollingHost true⟩ }
        [.enter (momentAt 0), .others (pollingHost false), .enter (momentAt 1)] = some d ∧ ¬ d.Reusable (some 1)) ∧
    ∃ d, run (Diary.step serialTransport) { attached := ⟨pollingStream, pollingHost false⟩ }
        [.enter (momentAt 0), .next (momentAt 0), .exit, .enter (momentAt 10), .next (momentAt 10)] = some d ∧
      d.requests = [⟨0, 0, 0, 0⟩, ⟨10, 0, 10, 11⟩] ∧ ¬ d.Reusable (some 1) := by
  have hrefused : (run (Diary.step serialTransport) { attached := ⟨pollingStream, pollingHost true⟩ }
      [.enter (momentAt 0), .others (pollingHost false), .enter (momentAt 1)]).any
      (fun d => ¬ d.Reusable (some 1)) = true := by decide +kernel
  have hlate : (run (Diary.step serialTransport) { attached := ⟨pollingStream, pollingHost false⟩ }
      [.enter (momentAt 0), .next (momentAt 0), .exit, .enter (momentAt 10), .next (momentAt 10)]).any
      (fun d => d.requests = [⟨0, 0, 0, 0⟩, ⟨10, 0, 10, 11⟩] ∧ ¬ d.Reusable (some 1)) = true := by decide +kernel
  obtain ⟨d, hd, hne⟩ := (Option.any_eq_true _ _).mp hrefused
  obtain ⟨d', hd', hne'⟩ := (Option.any_eq_true _ _).mp hlate
  exact ⟨⟨d, hd, of_decide_eq_true hne⟩, d', hd', of_decide_eq_true hne'⟩

end SartoriusLib.StreamingSession
