import SartoriusLib.Transport.Base

/-!
# The serial transport

`SerialTransport` reads chunks from the port and keeps the bytes that a call did not use. The line is a
list of phases, one between each two discards of the input buffer; a phase lists what the receive calls of
that phase meet.
-/

namespace SartoriusLib

/-- What one receive call on the port meets. -/
inductive Rx where
  | chunk (b : Bytes)
  /-- The deadline of the read passes first. -/
  | expire
  | closed (reason : String)
  | fault (reason : String)
  | cancel
  deriving DecidableEq, Repr

/-- How a send call, or the opening of the port, ends. -/
inductive PortOutcome where
  | ok
  | expire
  | closed (reason : String)
  | fault (reason : String)
  | cancel
  deriving DecidableEq, Repr

structure SerialState where
  settings : SerialSettings
  isOpen : Bool := true
  pushback : Bytes := []
  line : List (List Rx) := []
  /-- The outcomes of the next send calls; a send call beyond them succeeds. -/
  sends : List PortOutcome := []
  opens : List PortOutcome := []
  /-- What was given to the port to send. -/
  sent : List Bytes := []
  /-- The bytes that the port has delivered. -/
  received : Bytes := []
  deriving DecidableEq, Repr

namespace SerialTransport

def label (s : SerialState) : String := s.settings.port

def requirePort : Py SerialState Unit := do
  let s ← get
  if s.isOpen then pure ()
  else raise .connectionError s!"{label s} is not open" { port := some (label s) }

/-- How a receive loop ends. -/
inductive ReadEnd where
  | complete
  | expired
  | closed (reason : String)
  | fault (reason : String)
  | cancelled
  deriving DecidableEq, Repr

/-- The receive loop: chunks are appended until the buffer has what the call needs. A line with nothing
more to come lets the deadline pass. -/
def receiveLoop (enough : Bytes → Bool) : Bytes → List Rx → ReadEnd × Bytes × List Rx
  | buf, [] => if enough buf then (.complete, buf, []) else (.expired, buf, [])
  | buf, e :: rest =>
      if enough buf then (.complete, buf, e :: rest)
      else match e with
        | .chunk b => receiveLoop enough (buf ++ b) rest
        | .expire => (.expired, buf, rest)
        | .closed reason => (.closed reason, buf, rest)
        | .fault reason => (.fault reason, buf, rest)
        | .cancel => (.cancelled, buf, rest)

/-- The phase that is being received. -/
def phase (s : SerialState) : List Rx := s.line.headD []

/-- A read that takes `take buf` off the front of a buffer that is `enough`. On a timeout the bytes are
pushed back; on any other failure they are lost with the call. -/
def readWith (enough : Bytes → Bool) (take : Bytes → Nat) (onTimeout : SerialState → Bytes → Exc) :
    Py SerialState Bytes := do
  requirePort
  Lib.Prog.ofFun fun s =>
    let (stop, buf, rest) := receiveLoop enough s.pushback (phase s)
    let s' := { s with pushback := [], line := rest :: s.line.tail,
                       received := s.received ++ buf.drop s.pushback.length }
    let context : ErrorContext := { port := some (label s), extra := [("phase", .text "read")] }
    match stop with
    | .complete => (.ok (buf.take (take buf)), { s' with pushback := buf.drop (take buf) })
    | .expired => (.error (onTimeout s buf), { s' with pushback := buf })
    | .closed reason =>
        (.error (.sartorius ⟨.connectionError, s!"read on {label s} failed: {reason}", context⟩), s')
    | .fault reason =>
        (.error (.sartorius ⟨.transportError, s!"read on {label s} failed: {reason}", context⟩), s')
    | .cancelled => (.error .cancelled, s')

/-- Nothing received is a transient, a partial read a timeout. -/
def readExactTimeout (n : Nat) (timeout : Rat) (s : SerialState) (buf : Bytes) : Exc :=
  let context : ErrorContext :=
    { port := some (label s),
      extra := [("phase", .text "read"), ("requested", .int n), ("received", .int buf.length)] }
  if buf.length = 0 then
    .sartorius ⟨.transientTransportError,
      s!"read_exact({n}) on {label s} got 0 bytes after {reprSeconds timeout}s", context⟩
  else
    .sartorius ⟨.timeoutError,
      s!"read_exact({n}) on {label s} timed out after {reprSeconds timeout}s (got {buf.length}/{n} bytes)",
      context⟩

def readExact (n : Nat) (timeout : Rat) : Py SerialState Bytes :=
  if n = 0 then do
    requirePort
    pure []
  else readWith (fun buf => n ≤ buf.length) (fun _ => n) (readExactTimeout n timeout)

def readUntilTimeout (separator : Bytes) (timeout : Rat) (s : SerialState) (_buf : Bytes) : Exc :=
  .sartorius ⟨.timeoutError,
    s!"read_until({bytesRepr separator}) on {label s} timed out after {reprSeconds timeout}s",
    { port := some (label s), extra := [("phase", .text "read")] }⟩

def readUntil (separator : Bytes) (timeout : Rat) : Py SerialState Bytes :=
  readWith (fun buf => (Bytes.find separator buf).isSome)
    (fun buf => (Bytes.find separator buf).getD 0 + separator.length) (readUntilTimeout separator timeout)

/-- The bytes up to the next silence, at most `maxBytes` of them when that is positive. A failure of the port
ends the call like a silence does. -/
def readAvailable (_idleTimeout : Rat) (maxBytes : Option Int) : Py SerialState Bytes := do
  requirePort
  Lib.Prog.ofFun fun s =>
    let cap := (maxBytes.filter (0 < ·)).map Int.toNat
    let (stop, buf, rest) := receiveLoop (fun buf => cap.any (· ≤ buf.length)) s.pushback (phase s)
    let s' := { s with pushback := [], line := rest :: s.line.tail,
                       received := s.received ++ buf.drop s.pushback.length }
    match stop, cap with
    | .cancelled, _ => (.error .cancelled, s')
    | _, some cap =>
        if cap < buf.length then (.ok (buf.take cap), { s' with pushback := buf.drop cap }) else (.ok buf, s')
    | _, none => (.ok buf, s')

def writeTimeout (timeout : Rat) (s : SerialState) : Exc :=
  .sartorius ⟨.timeoutError, s!"write on {label s} timed out after {reprSeconds timeout}s",
    { port := some (label s), extra := [("phase", .text "write")] }⟩

def write (data : Bytes) (timeout : Rat) : Py SerialState Unit := do
  requirePort
  Lib.Prog.ofFun fun s =>
    let s' := { s with sends := s.sends.tail, sent := s.sent ++ [data] }
    let context : ErrorContext := { port := some (label s), extra := [("phase", .text "write")] }
    match s.sends.headD .ok with
    | .ok => (.ok (), s')
    | .expire => (.error (writeTimeout timeout s), s')
    | .closed reason =>
        (.error (.sartorius ⟨.connectionError, s!"write on {label s} failed: {reason}", context⟩), s')
    | .fault reason =>
        (.error (.sartorius ⟨.transportError, s!"write on {label s} failed: {reason}", context⟩), s')
    | .cancel => (.error .cancelled, s')

/-- The next phase begins with what the port delivers after the discard. -/
def drainInput : Py SerialState Unit :=
  modify fun s => { s with pushback := [], line := if s.isOpen then s.line.tail else s.line }

/-- `close`, when the `aclose` of the port ends as given: a `SerialError` of it is suppressed, for the port is
detached by then. -/
def closeWith (aclose : PortOutcome) : Py SerialState Unit := do
  let s ← get
  if s.isOpen then
    modify fun s => { s with isOpen := false, pushback := [] }
    match aclose with
    | .ok | .closed _ | .fault _ => pure ()
    | .expire | .cancel => throw .cancelled
  else pure ()

/-- The `close` of an `aclose` that no cancellation ends. -/
def close : Py SerialState Unit := modify fun s => { s with isOpen := false, pushback := [] }

def openPort : Py SerialState Unit := do
  let s ← get
  if s.isOpen then
    raise .connectionError s!"{label s} is already open" { port := some (label s) }
  else
    Lib.Prog.ofFun fun s =>
      let s' := { s with opens := s.opens.tail }
      let context : ErrorContext := { port := some (label s) }
      match s.opens.headD .ok with
      | .ok => (.ok (), { s' with isOpen := true, line := s.line.tail })
      | .closed reason =>
          (.error (.sartorius ⟨.connectionError, s!"could not open {label s}: {reason}", context⟩), s')
      | .fault reason =>
          (.error (.sartorius ⟨.transportError, s!"backend error opening {label s}: {reason}", context⟩), s')
      | .expire | .cancel => (.error .cancelled, s')

/-- The settings survive a failed open. -/
def reopen (baudrate : Option Nat) (parity : Option Parity) (stopbits : Option StopBits) :
    Py SerialState Unit := do
  close
  modify fun s => { s with settings := s.settings.override baudrate parity stopbits }
  openPort

end SerialTransport

/-- `SerialTransport` as a transport. -/
def serialTransport : Transport SerialState where
  label := SerialTransport.label
  write := SerialTransport.write
  readExact := SerialTransport.readExact
  readUntil := SerialTransport.readUntil
  drainInput := SerialTransport.drainInput
  reopen := SerialTransport.reopen

def serialPort : OwnedTransport SerialState :=
  { serialTransport with
    isOpen := SerialState.isOpen
    openPort := SerialTransport.openPort
    close := SerialTransport.close }

theorem serialPort_closes : serialPort.Closes where
  closed _ := rfl
  raised _ _ h := by cases h

namespace SerialTransport

open Lib

/-! ## What arrives before the deadline -/

/-- The bytes that receive calls deliver before the first event that is not a chunk. -/
def arrived : List Rx → Bytes
  | .chunk b :: rest => b ++ arrived rest
  | _ => []

/-- Only data and silence: no port fault and no cancellation. -/
def Quiet (phase : List Rx) : Prop := ∀ e ∈ phase, e = .expire ∨ ∃ b, e = .chunk b

/-- On a quiet line a receive loop ends with the bytes it needs or with all that arrived. -/
theorem receiveLoop_quiet (enough : Bytes → Bool) (buf : Bytes) {phase : List Rx} (h : Quiet phase) :
    ∃ stop got rest, receiveLoop enough buf phase = (stop, buf ++ got, rest) ∧ Quiet rest ∧
      ((stop = .complete ∧ enough (buf ++ got) = true ∧ arrived phase = got ++ arrived rest) ∨
        (stop = .expired ∧ enough (buf ++ got) = false ∧ arrived phase = got)) := by
  induction phase generalizing buf with
  | nil =>
      cases hbuf : enough buf with
      | true => exact ⟨.complete, [], [], by simp [receiveLoop, hbuf], h, .inl ⟨rfl, by simpa, rfl⟩⟩
      | false => exact ⟨.expired, [], [], by simp [receiveLoop, hbuf], h, .inr ⟨rfl, by simpa, rfl⟩⟩
  | cons e phase ih =>
      cases hbuf : enough buf with
      | true =>
          exact ⟨.complete, [], e :: phase, by simp [receiveLoop, hbuf], h, .inl ⟨rfl, by simpa, rfl⟩⟩
      | false =>
          have hrest : Quiet phase := fun e' he' => h e' (List.mem_cons_of_mem _ he')
          rcases h e List.mem_cons_self with rfl | ⟨b, rfl⟩
          · exact ⟨.expired, [], phase, by simp [receiveLoop, hbuf], hrest, .inr ⟨rfl, by simpa, rfl⟩⟩
          · obtain ⟨stop, got, rest, hrun, hq, hend⟩ := ih (buf ++ b) hrest
            refine ⟨stop, b ++ got, rest, ?_, hq, ?_⟩
            · simp only [receiveLoop, hbuf, Bool.false_eq_true, if_false, hrun, List.append_assoc]
            · rw [List.append_assoc] at hend
              rcases hend with ⟨rfl, he, ha⟩ | ⟨rfl, he, ha⟩
              · exact .inl ⟨rfl, he, by simp [arrived, ha]⟩
              · exact .inr ⟨rfl, he, by simp [arrived, ha]⟩

/-- What the calls of the current phase can read. -/
def pending (s : SerialState) : Bytes := s.pushback ++ arrived (phase s)

/-- `s'` is `s` after a read: only the current phase has changed. -/
structure Received (s s' : SerialState) : Prop where
  settings : s'.settings = s.settings
  isOpen : s'.isOpen = s.isOpen
  later : s'.line.tail = s.line.tail
  sends : s'.sends = s.sends
  sent : s'.sent = s.sent
  quiet : Quiet (phase s')

variable {s : SerialState}

theorem Received.refl (hq : Quiet (phase s)) : Received s s := ⟨rfl, rfl, rfl, rfl, rfl, hq⟩

theorem Received.trans {s₁ s₂ s₃ : SerialState} (h : Received s₁ s₂) (h' : Received s₂ s₃) :
    Received s₁ s₃ where
  settings := h'.settings.trans h.settings
  isOpen := h'.isOpen.trans h.isOpen
  later := h'.later.trans h.later
  sends := h'.sends.trans h.sends
  sent := h'.sent.trans h.sent
  quiet := h'.quiet

theorem exec_requirePort (hopen : s.isOpen = true) : requirePort.exec s = (.ok (), s) := by
  rw [requirePort, Prog.exec_bind_ok (Prog.exec_get s), if_pos hopen, Prog.exec_pure]

/-- A read on a quiet line returns the front of what is pending, or times out with all of it. -/
theorem readWith_quiet (enough : Bytes → Bool) (take : Bytes → Nat) (onTimeout : SerialState → Bytes → Exc)
    (hstable : ∀ a b, enough a = true →
      enough (a ++ b) = true ∧ take (a ++ b) = take a ∧ take a ≤ a.length)
    (hopen : s.isOpen = true) (hq : Quiet (phase s)) :
    ∃ s', Received s s' ∧
      (enough (pending s) = true →
        (readWith enough take onTimeout).exec s = (.ok ((pending s).take (take (pending s))), s') ∧
          pending s' = (pending s).drop (take (pending s))) ∧
      (enough (pending s) = false →
        (readWith enough take onTimeout).exec s = (.error (onTimeout s (pending s)), s')) := by
  obtain ⟨stop, got, rest, hrun, hrest, hend⟩ := receiveLoop_quiet enough s.pushback hq
  rcases hend with ⟨rfl, he, ha⟩ | ⟨rfl, he, ha⟩
  · have hpending : pending s = (s.pushback ++ got) ++ arrived rest := by simp [pending, ha]
    obtain ⟨he', ht, hle⟩ := hstable _ (arrived rest) he
    refine ⟨{ s with pushback := (s.pushback ++ got).drop (take (s.pushback ++ got)),
                     line := rest :: s.line.tail,
                     received := s.received ++ (s.pushback ++ got).drop s.pushback.length },
      ⟨rfl, rfl, rfl, rfl, rfl, hrest⟩, fun _ => ⟨?_, ?_⟩, ?_⟩
    · rw [readWith, Prog.exec_bind_ok (exec_requirePort hopen), Prog.exec_ofFun]
      simp only [hrun, hpending, ht]
      rw [List.take_append_of_le_length hle]
    · rw [hpending, ht, List.drop_append_of_le_length hle]
      rfl
    · intro hc
      rw [hpending, he'] at hc
      cases hc
  · have hpending : pending s = s.pushback ++ got := by simp [pending, ha]
    refine ⟨{ s with pushback := s.pushback ++ got, line := rest :: s.line.tail,
                     received := s.received ++ (s.pushback ++ got).drop s.pushback.length },
      ⟨rfl, rfl, rfl, rfl, rfl, hrest⟩, fun hc => ?_, fun _ => ?_⟩
    · rw [hpending, he] at hc
      cases hc
    · rw [readWith, Prog.exec_bind_ok (exec_requirePort hopen), Prog.exec_ofFun, hpending]
      simp only [hrun]

theorem readExact_quiet (n : Nat) (timeout : Rat) (hopen : s.isOpen = true) (hq : Quiet (phase s)) :
    ∃ s', Received s s' ∧
      (n ≤ (pending s).length →
        (readExact n timeout).exec s = (.ok ((pending s).take n), s') ∧
          pending s' = (pending s).drop n) ∧
      ((pending s).length < n →
        (readExact n timeout).exec s = (.error (readExactTimeout n timeout s (pending s)), s')) := by
  by_cases hn : n = 0
  · refine ⟨s, .refl hq, fun _ => ?_, fun h => absurd h (by omega)⟩
    simp [readExact, hn, Prog.exec_map, exec_requirePort hopen]
  · obtain ⟨s', hs', hok, herr⟩ := readWith_quiet (fun buf => n ≤ buf.length) (fun _ => n)
      (readExactTimeout n timeout)
      (fun a b h => by
        have h : n ≤ a.length := by simpa using h
        exact ⟨by simpa using by omega, rfl, h⟩) hopen hq
    refine ⟨s', hs', fun h => ?_, fun h => ?_⟩
    · rw [readExact, if_neg hn]
      exact hok (by simpa using h)
    · rw [readExact, if_neg hn]
      exact herr (by simpa using h)

theorem find_append {sep a : Bytes} (b : Bytes) {i : Nat}
    (h : Bytes.find sep a = some i) :
    Bytes.find sep (a ++ b) = some i ∧ i + sep.length ≤ a.length := by
  induction a generalizing i with
  | nil =>
      unfold Bytes.find at h
      split_ifs at h with hsep
      cases h
      subst hsep
      cases b <;> exact ⟨rfl, le_rfl⟩
  | cons x a ih =>
      simp only [Bytes.find, List.cons_append] at h ⊢
      by_cases hp : sep.isPrefixOf (x :: a) = true
      · rw [if_pos hp, Option.some.injEq] at h
        have hpre := List.isPrefixOf_iff_prefix.mp hp
        have hpre' : sep.isPrefixOf (x :: (a ++ b)) = true :=
          List.isPrefixOf_iff_prefix.mpr (hpre.trans (List.prefix_append (x :: a) b))
        rw [if_pos hpre']
        exact ⟨by rw [h], by simpa [← h] using hpre.length_le⟩
      · rw [if_neg hp] at h
        obtain ⟨j, hj, rfl⟩ := Option.map_eq_some_iff.mp h
        obtain ⟨hfind, hle⟩ := ih hj
        have hnot : ¬ sep.isPrefixOf (x :: (a ++ b)) = true := by
          intro hc
          have hpre := List.isPrefixOf_iff_prefix.mp hc
          rw [← List.cons_append] at hpre
          exact hp (List.isPrefixOf_iff_prefix.mpr
            (List.prefix_of_prefix_length_le hpre (List.prefix_append (x :: a) b)
              (by simp only [List.length_cons]; omega)))
        rw [if_neg hnot, hfind]
        exact ⟨rfl, by simp only [List.length_cons]; omega⟩

theorem readUntil_quiet (sep : Bytes) (timeout : Rat) (hopen : s.isOpen = true)
    (hq : Quiet (phase s)) :
    ∃ s', Received s s' ∧
      (∀ i, Bytes.find sep (pending s) = some i →
        (readUntil sep timeout).exec s = (.ok ((pending s).take (i + sep.length)), s') ∧
          pending s' = (pending s).drop (i + sep.length)) ∧
      (Bytes.find sep (pending s) = none →
        (readUntil sep timeout).exec s = (.error (readUntilTimeout sep timeout s (pending s)), s')) := by
  obtain ⟨s', hs', hok, herr⟩ := readWith_quiet (fun buf => (Bytes.find sep buf).isSome)
    (fun buf => (Bytes.find sep buf).getD 0 + sep.length) (readUntilTimeout sep timeout)
    (fun a b h => by
      obtain ⟨i, hi⟩ := Option.isSome_iff_exists.mp h
      obtain ⟨hi', hle⟩ := find_append b hi
      simp [hi, hi', hle]) hopen hq
  refine ⟨s', hs', fun i hi => ?_, fun hn => herr (by simp [hn])⟩
  have hread := hok (by simp [hi])
  rw [hi] at hread
  exact hread

/-! ## No byte is invented -/

/-- A receive loop keeps its buffer and appends to it; it is complete only with what the call needs. -/
theorem receiveLoop_append (enough : Bytes → Bool) (buf : Bytes) (phase : List Rx) :
    ∃ stop got rest, receiveLoop enough buf phase = (stop, buf ++ got, rest) ∧
      (stop = .complete → enough (buf ++ got) = true) := by
  induction phase generalizing buf with
  | nil =>
      unfold receiveLoop
      split
      · exact ⟨.complete, [], [], by simp, fun _ => by simpa⟩
      · exact ⟨.expired, [], [], by simp, fun h => by cases h⟩
  | cons e phase ih =>
      unfold receiveLoop
      split
      · exact ⟨.complete, [], e :: phase, by simp, fun _ => by simpa⟩
      · cases e with
        | chunk b =>
            obtain ⟨stop, got, rest, hrun, hend⟩ := ih (buf ++ b)
            rw [List.append_assoc] at hrun hend
            exact ⟨stop, b ++ got, rest, hrun, hend⟩
        | expire => exact ⟨.expired, [], phase, by simp, fun h => by cases h⟩
        | closed reason => exact ⟨.closed reason, [], phase, by simp, fun h => by cases h⟩
        | fault reason => exact ⟨.fault reason, [], phase, by simp, fun h => by cases h⟩
        | cancel => exact ⟨.cancelled, [], phase, by simp, fun h => by cases h⟩

theorem exec_requirePort_ok {u : Unit} {s' : SerialState} (h : requirePort.exec s = (.ok u, s')) : s' = s := by
  rw [requirePort, Prog.exec_bind_ok (Prog.exec_get s)] at h
  split at h
  · exact (Prod.mk.inj h).2.symm
  · cases h

/-- `s'` is `s` after a read that returned `out`: what was pushed back and what the port delivered is what
the read returned and what it pushed back. -/
structure Took (out : Bytes) (s s' : SerialState) : Prop where
  bytes : ∃ got, s'.received = s.received ++ got ∧ s.pushback ++ got = out ++ s'.pushback
  sent : s'.sent = s.sent
  later : s'.line.tail = s.line.tail

theorem Took.refl (s : SerialState) : Took [] s s := ⟨⟨[], by simp, by simp⟩, rfl, rfl⟩

theorem Took.trans {a b : Bytes} {s₁ s₂ s₃ : SerialState} (h : Took a s₁ s₂) (h' : Took b s₂ s₃) :
    Took (a ++ b) s₁ s₃ := by
  obtain ⟨got, hr, hp⟩ := h.bytes
  obtain ⟨got', hr', hp'⟩ := h'.bytes
  refine ⟨⟨got ++ got', by rw [hr', hr, List.append_assoc], ?_⟩, h'.sent.trans h.sent,
    h'.later.trans h.later⟩
  rw [← List.append_assoc, hp, List.append_assoc, hp', List.append_assoc]

theorem readWith_took {enough : Bytes → Bool} {take : Bytes → Nat} {onTimeout : SerialState → Bytes → Exc}
    {out : Bytes} {s' : SerialState} (h : (readWith enough take onTimeout).exec s = (.ok out, s')) :
    Took out s s' := by
  obtain ⟨u, t, hport, hread⟩ := Prog.exec_bind_eq_ok.mp h
  obtain rfl := exec_requirePort_ok hport
  obtain ⟨stop, got, rest, hrun, -⟩ := receiveLoop_append enough t.pushback (phase t)
  rw [Prog.exec_ofFun] at hread
  simp only [hrun] at hread
  split at hread <;> cases hread
  exact ⟨⟨got, by simp, (List.take_append_drop _ _).symm⟩, rfl, rfl⟩

theorem readExact_took {n : Nat} {timeout : Rat} {out : Bytes} {s' : SerialState}
    (h : (readExact n timeout).exec s = (.ok out, s')) : Took out s s' := by
  unfold readExact at h
  split at h
  · obtain ⟨u, t, hport, hpure⟩ := Prog.exec_bind_eq_ok.mp h
    obtain rfl := exec_requirePort_ok hport
    cases hpure
    exact .refl _
  · exact readWith_took h

theorem write_ok {data : Bytes} {timeout : Rat} {u : Unit} {s' : SerialState}
    (h : (write data timeout).exec s = (.ok u, s')) :
    s' = { s with sends := s.sends.tail, sent := s.sent ++ [data] } ∧ s.sends.headD .ok = .ok := by
  obtain ⟨u, t, hport, hsend⟩ := Prog.exec_bind_eq_ok.mp h
  obtain rfl := exec_requirePort_ok hport
  rw [Prog.exec_ofFun] at hsend
  dsimp only at hsend
  split at hsend <;> cases hsend
  exact ⟨rfl, ‹_›⟩

/-! ## Only a write sends -/

theorem requirePort_sent : Prog.Leaves SerialState.sent requirePort :=
  Prog.Leaves.get.bind fun _ => .ite (fun _ => .pure _) fun _ => .throw _

theorem readWith_sent (enough : Bytes → Bool) (take : Bytes → Nat) (onTimeout : SerialState → Bytes → Exc) :
    Prog.Leaves SerialState.sent (readWith enough take onTimeout) := by
  refine requirePort_sent.bind fun _ s => ?_
  rw [Prog.exec_ofFun]
  rcases receiveLoop enough s.pushback (phase s) with ⟨stop, buf, rest⟩
  cases stop <;> rfl

theorem exec_requirePort_closed {s : SerialState} (hclosed : s.isOpen = false) :
    requirePort.exec s =
      (.error (.sartorius ⟨.connectionError, s!"{label s} is not open", { port := some (label s) }⟩), s) := by
  rw [requirePort, Prog.exec_bind_ok (Prog.exec_get s), if_neg (by simp [hclosed])]
  rfl

/-- However `aclose` ends, the transport is left as `close` leaves it, and only a cancellation is raised. -/
theorem closeWith_close {s : SerialState} (aclose : PortOutcome) (hpush : s.isOpen = false → s.pushback = []) :
    ((closeWith aclose).exec s).2 = (close.exec s).2 ∧
      (aclose ≠ .expire → aclose ≠ .cancel → (closeWith aclose).exec s = close.exec s) := by
  unfold closeWith close
  rw [Prog.exec_bind_ok (Prog.exec_get s), Prog.exec_modify]
  cases hopen : s.isOpen with
  | false =>
      have hsame : ({ s with isOpen := false, pushback := [] } : SerialState) = s := by
        cases s
        simp_all
      rw [if_neg Bool.false_ne_true, hsame]
      exact ⟨rfl, fun _ _ => rfl⟩
  | true =>
      rw [if_pos rfl]
      cases aclose with
      | ok | closed _ | fault _ => exact ⟨rfl, fun _ _ => rfl⟩
      | expire => exact ⟨rfl, fun h _ => absurd rfl h⟩
      | cancel => exact ⟨rfl, fun _ h => absurd rfl h⟩

/-- A port whose next opening fails is not reopened. -/
theorem reopen_fails {s : SerialState} {baudrate : Option Nat} {parity : Option Parity} {stopbits : Option StopBits}
    (hopens : s.opens.headD .ok ≠ .ok) :
    ∃ e s', (drainInput >>= fun _ => reopen baudrate parity stopbits).exec s = (.error e, s') := by
  simp only [drainInput, reopen, close, openPort, Prog.exec_bind, Prog.exec_modify, Prog.exec_get,
    Bool.false_eq_true, if_false, Prog.exec_ofFun]
  cases hhead : s.opens.headD .ok with
  | ok => exact absurd hhead hopens
  | _ => exact ⟨_, _, rfl⟩

theorem openPort_sent : Prog.Leaves SerialState.sent openPort := by
  refine Prog.Leaves.get.bind fun _ => .ite (fun _ => .throw _) fun _ s => ?_
  rw [Prog.exec_ofFun]
  dsimp only
  split <;> rfl

end SerialTransport

theorem serialTransport_onlyWrites : serialTransport.OnlyWrites SerialState.sent where
  readExact _ _ :=
    .ite (fun _ => SerialTransport.requirePort_sent.bind fun _ => .pure _) fun _ =>
      SerialTransport.readWith_sent _ _ _
  readUntil _ _ := SerialTransport.readWith_sent _ _ _
  drainInput := .modify fun _ => rfl
  reopen _ _ _ :=
    Lib.Prog.Leaves.bind (.modify fun _ => rfl) fun _ => Lib.Prog.Leaves.bind (.modify fun _ => rfl) fun _ =>
      SerialTransport.openPort_sent

/-- The port of a `SerialTransport`. -/
def serialPortState : serialTransport.PortState where
  sent := SerialState.sent
  closed s := !s.isOpen
  stuck s := s.opens.headD .ok ≠ .ok
  onlyWrites := serialTransport_onlyWrites
  write_closed hclosed := by
    rw [show serialTransport.write = SerialTransport.write from rfl, SerialTransport.write,
      Lib.Prog.exec_bind_error (SerialTransport.exec_requirePort_closed (by simpa using hclosed))]
  readUntil_closed hclosed :=
    ⟨_, _, Lib.Prog.exec_bind_error (SerialTransport.exec_requirePort_closed (by simpa using hclosed)), rfl⟩
  reopen_stuck _ _ _ hstuck := SerialTransport.reopen_fails (of_decide_eq_true hstuck)

end SartoriusLib
