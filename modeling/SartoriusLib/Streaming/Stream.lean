import SartoriusLib.Streaming.Sample
import SartoriusLib.Streaming.StreamSession

/-!
# The streaming session

One session is entered, iterated and left any number of times. Between two of its calls the balance belongs to the
other callers. The clock of the event loop counts seconds; `timeout` is in the clocks of the reads.
-/

namespace SartoriusLib.StreamingSession

open Lib

variable {W α : Type}

def StreamMode.value : StreamMode → String
  | .poll => "poll"
  | .autoprint => "autoprint"

/-! ## Samples -/

/-- `timedelta(seconds=seconds)`, to the microsecond. -/
def timedelta (seconds : Rat) : Int := PyFloat.roundHalfEven (seconds * 10 ^ 6)

/-- `_sample_from_reading`. -/
def sampleFromReading (device : String) (reading : Reading) (t : PollTiming) (mode : StreamMode) : Sample :=
  let latency : Rat := (t.receivedAt - t.requestedAt) / 10 ^ 6
  { device, reading := some reading, tMonoNs := (t.sentNs + t.recvNs) / 2,
    tUtc := t.requestedAt + timedelta (latency / 2), requestedAt := t.requestedAt, receivedAt := t.receivedAt,
    latencyS := latency, protocol := some reading.protocol, metadata := [("mode", mode.value)] }

/-- `_device_name`. -/
def deviceName (h : Host W) : String := (h.info.map fun info => String.ofList info.model).getD "balance"

/-! ## The session -/

structure Stream where
  rateHz : Option Rat
  mode : StreamMode
  temporaryAutoprint : Bool
  confirm : Bool
  entered : Bool := false
  tick : Nat := 0
  start : Rat := 0
  pending : Option Sample := none
  deriving DecidableEq, Repr

/-- `__init__`. -/
def init (rateHz : Option Rat) (mode : StreamMode) (temporaryAutoprint confirm : Bool) : Except Exc Stream :=
  if mode = .poll ∧ rateHz.all (· ≤ 0) then .error (.valueError "poll stream requires rate_hz > 0")
  else .ok { rateHz, mode, temporaryAutoprint, confirm }

theorem init_ok {rateHz : Option Rat} {mode : StreamMode} {temporaryAutoprint confirm : Bool} {s : Stream}
    (hs : init rateHz mode temporaryAutoprint confirm = .ok s) :
    s = { rateHz, mode, temporaryAutoprint, confirm } ∧ (mode = .poll → ∃ rate, rateHz = some rate ∧ 0 < rate) := by
  simp only [init] at hs
  split at hs
  · cases hs
  next hn =>
    refine ⟨(Except.ok.inj hs).symm, fun hm => ?_⟩
    cases rateHz with
    | none => simp [hm] at hn
    | some rate => exact ⟨rate, rfl, by simpa [hm] using hn⟩

namespace Stream

def period (s : Stream) : Rat := 1 / s.rateHz.getD 0

/-- The time for which the next request is scheduled. -/
def target (s : Stream) : Rat := s.start + s.tick * s.period

/-- The time of the request of a sample that is asked for at `now`; `sleep_until` wakes at its deadline. -/
def requestTime (s : Stream) (now : Rat) : Rat := if now < s.target then s.target else now

end Stream

/-- A session with its balance. -/
structure Attached (W : Type) where
  stream : Stream
  host : Host W

def onHost (m : Py (Host W) α) : Py (Attached W) α :=
  Prog.zoom Attached.host (fun h a => { a with host := h }) m

def modifyStream (f : Stream → Stream) : Py (Attached W) Unit := modify fun a => { a with stream := f a.stream }

/-- When a call is made: the clock, the instants around its request and the clocks of its reads. -/
structure Moment where
  now : Rat
  timing : PollTiming
  first : ReadClock
  later : List ReadClock

/-- A reading, with the instants that were read before and after it. -/
def readSample (T : Transport W) (mode : StreamMode) (m : Moment) : Py (Attached W) Sample := do
  let reading ← onHost (nextReading T mode m.first m.later)
  pure (sampleFromReading (deviceName (← get).host) reading m.timing mode)

/-- `_poll_sample`; the sleep is in `requestTime`. -/
def pollSample (T : Transport W) (m : Moment) : Py (Attached W) Sample := do
  if (← get).stream.rateHz = none then throw .assertionError
  else do
    modifyStream fun s => { s with tick := s.tick + 1 }
    readSample T .poll m

/-- The rest of `__aenter__`: what the mode asks of the balance, and the first line of an autoprint stream. -/
def enterMode (T : Transport W) (m : Moment) : Py (Attached W) Unit := do
  let a ← get
  match a.stream.mode with
  | .autoprint =>
      if a.host.session.active ≠ .sbi then
        raise .protocolUnsupportedError "autoprint stream requires an SBI session"
          { protocol := some a.host.session.active.value }
      else if a.stream.temporaryAutoprint then
        if ¬ a.stream.confirm then
          raise .confirmationRequiredError
            "temporary autoprint mutates persistent output settings; pass confirm=True"
            { protocol := some "sbi", extra := [("safety", .text SafetyTier.persistent.name)] }
        else
          -- `NotImplementedError` is a `RuntimeError`
          throw (.runtimeError ("temporary SBI autoprint configuration needs a verified " ++
            "SBI parameter-write command; use mode='autoprint' with autoprint already enabled"))
      else do
        let sample ← readSample T .autoprint m
        modifyStream fun s => { s with pending := some sample }
  | .poll =>
      if a.host.session.sbiAutoprintActive then
        raise .autoprintActiveError
          ("SBI autoprint is active; stream(mode='poll') would leave the continuous output buffered. " ++
            "Use stream(mode='autoprint') to consume already-enabled autoprint.")
          { protocol := some "sbi",
            extra := [("autoprint_active", .flag true), ("mode", .text a.stream.mode.value)] }
      else pure ()

/-- The session after the first two assignments of `__aenter__`. -/
def Stream.begun (s : Stream) (now : Rat) : Stream := { s with entered := true, start := now }

/-- `__aenter__`. -/
def aenter (T : Transport W) (m : Moment) : Py (Attached W) Unit := do
  if (← get).stream.entered then throw (.runtimeError "StreamingSession is already active")
  else do
    modifyStream fun s => s.begun m.now
    enterMode T m

/-- `__aexit__`. -/
def aexit (s : Stream) : Stream := { s with entered := false, pending := none }

/-- `__anext__`. -/
def anext (T : Transport W) (m : Moment) : Py (Attached W) Sample := do
  let s := (← get).stream
  if ¬ s.entered then throw (.runtimeError "StreamingSession must be entered before iteration")
  else
    match s.pending with
    | some sample => do
        modifyStream fun s => { s with pending := none }
        pure sample
    | none =>
        match s.mode with
        | .autoprint => readSample T .autoprint m
        | .poll => pollSample T m

inductive Event (W : Type) where
  | enter (m : Moment)
  | next (m : Moment)
  | exit
  /-- Other callers leave the balance as `h`. -/
  | others (h : Host W)

/-! ## What a call does -/

variable {T : Transport W} {m : Moment} {a : Attached W}

/-- `__aenter__` of an inactive session does not raise. -/
def Admits (T : Transport W) (m : Moment) (a : Attached W) : Prop :=
  match a.stream.mode with
  | .autoprint =>
      a.host.session.active = .sbi ∧ a.stream.temporaryAutoprint = false ∧
        ∃ reading, ((nextReading T .autoprint m.first m.later).exec a.host).1 = .ok reading
  | .poll => a.host.session.sbiAutoprintActive = false

/-- The outcomes of `__aenter__`. -/
inductive Entered (T : Transport W) (m : Moment) (a : Attached W) : Except Exc Unit → Attached W → Prop where
  | active (e : Exc) (h : a.stream.entered = true) : Entered T m a (.error e) a
  | refused (e : Exc) (host : Host W) (h : a.stream.entered = false) (hn : ¬ Admits T m a) :
      Entered T m a (.error e) { stream := a.stream.begun m.now, host }
  | poll (h : a.stream.entered = false) (hm : a.stream.mode = .poll) (ha : Admits T m a) :
      Entered T m a (.ok ()) { a with stream := a.stream.begun m.now }
  | autoprint (reading : Reading) (host : Host W) (h : a.stream.entered = false) (hm : a.stream.mode = .autoprint)
      (ha : Admits T m a) :
      Entered T m a (.ok ())
        { stream :=
            { a.stream.begun m.now with
              pending := some (sampleFromReading (deviceName host) reading m.timing .autoprint) },
          host }

/-- A sample is read from the balance, or the read raises. -/
theorem readSample_cases (T : Transport W) (mode : StreamMode) (m : Moment) (a : Attached W) :
    (∃ e host, (nextReading T mode m.first m.later).exec a.host = (.error e, host) ∧
      (readSample T mode m).exec a = (.error e, { a with host })) ∨
    (∃ reading host, (nextReading T mode m.first m.later).exec a.host = (.ok reading, host) ∧
      (readSample T mode m).exec a =
        (.ok (sampleFromReading (deviceName host) reading m.timing mode), { a with host })) := by
  rcases hr : (nextReading T mode m.first m.later).exec a.host with ⟨e | reading, host⟩
  · left
    refine ⟨e, host, rfl, ?_⟩
    simp only [readSample, onHost, Prog.exec_bind, Prog.exec_zoom, hr]
  · right
    refine ⟨reading, host, rfl, ?_⟩
    simp only [readSample, onHost, Prog.exec_bind, Prog.exec_zoom, hr, Prog.exec_get, Prog.exec_pure]

theorem exec_modifyStream (f : Stream → Stream) (a : Attached W) :
    (modifyStream f).exec a = (.ok (), { a with stream := f a.stream }) := rfl

theorem aenter_active (h : a.stream.entered = true) :
    (aenter T m).exec a = (.error (.runtimeError "StreamingSession is already active"), a) := by
  simp only [aenter, Prog.exec_bind, Prog.exec_get, h, if_true, Prog.exec_throw]

theorem aenter_inactive (h : a.stream.entered = false) :
    (aenter T m).exec a = (enterMode T m).exec { a with stream := a.stream.begun m.now } := by
  simp only [aenter, Prog.exec_bind, Prog.exec_get, h, Bool.false_eq_true, if_false, exec_modifyStream]

/-- The rest of `__aenter__` in poll mode touches nothing. -/
theorem enterMode_poll (T : Transport W) (m : Moment) (hm : a.stream.mode = .poll) :
    (∃ e, a.host.session.sbiAutoprintActive = true ∧ (enterMode T m).exec a = (.error e, a)) ∨
      a.host.session.sbiAutoprintActive = false ∧ (enterMode T m).exec a = (.ok (), a) := by
  simp only [enterMode, Prog.exec_bind, Prog.exec_get, hm]
  split
  · exact .inl ⟨_, ‹_›, rfl⟩
  · exact .inr ⟨Bool.eq_false_iff.mpr ‹_›, rfl⟩

/-- In autoprint mode it keeps the first sample, or raises. -/
theorem enterMode_autoprint (T : Transport W) (m : Moment) (hm : a.stream.mode = .autoprint) :
    (∃ e host, ¬ Admits T m a ∧ (enterMode T m).exec a = (.error e, { a with host })) ∨
      ∃ reading host, Admits T m a ∧ (enterMode T m).exec a =
        (.ok (), { stream :=
                     { a.stream with
                       pending := some (sampleFromReading (deviceName host) reading m.timing .autoprint) },
                   host }) := by
  simp only [enterMode, Prog.exec_bind, Prog.exec_get, hm, Admits]
  split
  · next hs => exact .inl ⟨_, a.host, fun h => hs h.1, rfl⟩
  next hs =>
  split
  · next ht =>
      have hn : ¬ a.stream.temporaryAutoprint = false := fun h => by simp [h] at ht
      split
      · exact .inl ⟨_, a.host, fun h => hn h.2.1, rfl⟩
      · exact .inl ⟨_, a.host, fun h => hn h.2.1, rfl⟩
  next ht =>
  rcases readSample_cases T .autoprint m a with ⟨e, host, hr, hx⟩ | ⟨reading, host, hr, hx⟩
  · left
    refine ⟨e, host, fun h => ?_, ?_⟩
    · obtain ⟨-, -, reading, h⟩ := h
      rw [hr] at h
      cases h
    · simp only [Prog.exec_bind, hx]
  · right
    refine ⟨reading, host, ⟨not_not.mp hs, Bool.eq_false_iff.mpr ht, reading, by rw [hr]⟩, ?_⟩
    simp only [Prog.exec_bind, hx, exec_modifyStream, hm]

theorem aenter_entered (T : Transport W) (m : Moment) (a : Attached W) :
    Entered T m a ((aenter T m).exec a).1 ((aenter T m).exec a).2 := by
  by_cases he : a.stream.entered = true
  · rw [aenter_active he]
    exact .active _ he
  have he : a.stream.entered = false := Bool.eq_false_iff.mpr he
  rw [aenter_inactive he]
  cases hm : a.stream.mode with
  | poll =>
      rcases enterMode_poll T m (a := { a with stream := a.stream.begun m.now }) hm with ⟨e, hp, hx⟩ | ⟨hp, hx⟩
      · rw [hx]
        exact .refused e a.host he (by simpa [Admits, hm] using hp)
      · rw [hx]
        exact .poll he hm (by simpa [Admits, hm] using hp)
  | autoprint =>
      rcases enterMode_autoprint T m (a := { a with stream := a.stream.begun m.now }) hm with
        ⟨e, host, hn, hx⟩ | ⟨reading, host, ha, hx⟩
      · rw [hx]
        exact .refused e host he hn
      · rw [hx]
        exact .autoprint reading host he hm ha

/-- The outcomes of `__anext__`. -/
inductive Advanced (T : Transport W) (m : Moment) (a : Attached W) : Except Exc Sample → Attached W → Prop where
  | refused (e : Exc) (h : a.stream.entered = false ∨ a.stream.mode = .poll ∧ a.stream.rateHz = none) :
      Advanced T m a (.error e) a
  | pending (sample : Sample) (h : a.stream.entered = true) (hp : a.stream.pending = some sample) :
      Advanced T m a (.ok sample) { a with stream := { a.stream with pending := none } }
  | raised (e : Exc) (host : Host W) (h : a.stream.entered = true) (hp : a.stream.pending = none)
      (hm : a.stream.mode = .autoprint) : Advanced T m a (.error e) { a with host }
  | line (reading : Reading) (host : Host W) (h : a.stream.entered = true) (hp : a.stream.pending = none)
      (hm : a.stream.mode = .autoprint) :
      Advanced T m a (.ok (sampleFromReading (deviceName host) reading m.timing .autoprint)) { a with host }
  | failed (e : Exc) (host : Host W) (h : a.stream.entered = true) (hp : a.stream.pending = none)
      (hm : a.stream.mode = .poll) (hr : a.stream.rateHz ≠ none) :
      Advanced T m a (.error e) { stream := { a.stream with tick := a.stream.tick + 1 }, host }
  | polled (reading : Reading) (host : Host W) (h : a.stream.entered = true) (hp : a.stream.pending = none)
      (hm : a.stream.mode = .poll) (hr : a.stream.rateHz ≠ none) :
      Advanced T m a (.ok (sampleFromReading (deviceName host) reading m.timing .poll))
        { stream := { a.stream with tick := a.stream.tick + 1 }, host }

theorem anext_entered (h : a.stream.entered = true) (hp : a.stream.pending = none) :
    (anext T m).exec a =
      match a.stream.mode with
      | .autoprint => (readSample T .autoprint m).exec a
      | .poll => (pollSample T m).exec a := by
  simp only [anext, Prog.exec_bind, Prog.exec_get, h, not_true_eq_false, if_false, hp]
  cases a.stream.mode <;> rfl

/-- A request takes a tick, whether or not its poll raises. -/
theorem pollSample_exec (hr : a.stream.rateHz ≠ none) :
    (pollSample T m).exec a =
      (readSample T .poll m).exec { a with stream := { a.stream with tick := a.stream.tick + 1 } } := by
  simp only [pollSample, Prog.exec_bind, Prog.exec_get, hr, if_false, exec_modifyStream]

theorem anext_advanced (T : Transport W) (m : Moment) (a : Attached W) :
    Advanced T m a ((anext T m).exec a).1 ((anext T m).exec a).2 := by
  by_cases he : a.stream.entered = true
  · cases hp : a.stream.pending with
    | some sample =>
        have hx : (anext T m).exec a = (.ok sample, { a with stream := { a.stream with pending := none } }) := by
          simp only [anext, Prog.exec_bind, Prog.exec_get, he, not_true_eq_false, if_false, hp, exec_modifyStream,
            Prog.exec_pure]
        rw [hx]
        exact .pending sample he hp
    | none =>
        rw [anext_entered he hp]
        cases hm : a.stream.mode with
        | autoprint =>
            rcases readSample_cases T .autoprint m a with ⟨e, host, -, hx⟩ | ⟨reading, host, -, hx⟩
            · simp only [hx]
              exact .raised e host he hp hm
            · simp only [hx]
              exact .line reading host he hp hm
        | poll =>
            by_cases hr : a.stream.rateHz = none
            · have hx : (pollSample T m).exec a = (.error .assertionError, a) := by
                simp only [pollSample, Prog.exec_bind, Prog.exec_get, hr, if_true, Prog.exec_throw]
              simp only [hx]
              exact .refused _ (.inr ⟨hm, hr⟩)
            dsimp only
            rw [pollSample_exec hr]
            rcases readSample_cases T .poll m { a with stream := { a.stream with tick := a.stream.tick + 1 } } with
              ⟨e, host, -, hx⟩ | ⟨reading, host, -, hx⟩
            · simp only [hx]
              exact .failed e host he hp hm hr
            · simp only [hx]
              exact .polled reading host he hp hm hr
  · have he : a.stream.entered = false := Bool.eq_false_iff.mpr he
    have hx : (anext T m).exec a =
        (.error (.runtimeError "StreamingSession must be entered before iteration"), a) := by
      simp only [anext, Prog.exec_bind, Prog.exec_get, he, Bool.false_eq_true, not_false_eq_true, if_true,
        Prog.exec_throw]
    rw [hx]
    exact .refused _ (.inl he)

end SartoriusLib.StreamingSession
