import SartoriusLib.Transport.Serial
import SartoriusLib.Protocol.Sbi.Framing
import SartoriusLib.Protocol.Xbpi.Client

/-!
# Protocol auto-detection

Drain, sniff for autoprint, probe xBPI, probe SBI, fail clearly. The probes of `detectProtocol` catch timeouts
and protocol errors. A serial port on which nothing at all arrives raises a transient transport error
instead, as does the parser on a frame that is too short to have a body; neither is caught.
-/

namespace SartoriusLib.Detect

open SartoriusLib Lib

structure DetectionResult where
  protocol : ProtocolKind
  autoprintActive : Bool := false
  pendingLines : List Bytes := []
  deriving DecidableEq, Repr

def xbpiProbeOpcode : Int := 0x02

variable {W : Type}

/-- The loop of the passive sniff. Its list holds the time that remains at each test of the deadline that
finds the deadline ahead. -/
def sniffLoop (T : Transport W) : List Rat → Py W (Bool × List Bytes)
  | [] => pure (false, [])
  | remaining :: later => do
      let line ← exceptClasses [.timeoutError] (some <$> T.readUntil Sbi.lineTerminator remaining)
        fun _ => pure none
      match line with
      | none => pure (false, [])
      | some raw => if Sbi.isAutoprintLine raw then pure (true, [raw]) else sniffLoop T later

def sniffForAutoprint (T : Transport W) (sniffWindow : Rat) (clock : List Rat) :
    Py W (Bool × List Bytes) :=
  if sniffWindow ≤ 0 then pure (false, []) else sniffLoop T clock

def probeXbpi (T : Transport W) (timeout : Rat) (srcSbn dstSbn : Int) : Py W Bool := do
  let request ← liftExcept (Xbpi.buildCommand xbpiProbeOpcode [] srcSbn dstSbn)
  exceptClasses [.timeoutError, .protocolError]
    (do
      T.write request timeout
      let raw ← Xbpi.readRaw T timeout
      let _ ← liftExcept (Xbpi.parseFrame raw)
      pure true)
    fun _ => pure false

def probeSbiTokens (T : Transport W) (timeout : Rat) : List Bytes → Py W Bool
  | [] => pure false
  | token :: later => do
      let answered ← exceptClasses [.timeoutError, .protocolError]
        (do
          T.write token timeout
          let _ ← T.readUntil Sbi.lineTerminator timeout
          pure true)
        fun _ => do
          suppress T.drainInput
          pure false
      if answered then pure true else probeSbiTokens T timeout later

def probeSbi (T : Transport W) (timeout : Rat) : Py W Bool :=
  probeSbiTokens T timeout [Sbi.TOKEN_TYPE, Sbi.TOKEN_PRINT]

def noDevice (label : String) (timeout sniffWindow : Rat) : SartoriusError where
  cls := .sartoriusError
  message := s!"auto-detect: no responsive xBPI or SBI device on {textRepr label} " ++
    s!"(sniff {reprSeconds sniffWindow}s, probe timeout {reprSeconds timeout}s)"
  context := { port := some label, commandName := some "auto_detect",
               extra := [("sniff_window_s", .seconds sniffWindow), ("probe_timeout_s", .seconds timeout)] }

/-- The active probes of a line without autoprint. -/
def probeInTurn (T : Transport W) (label : String) (timeout sniffWindow : Rat) (srcSbn dstSbn : Int) :
    Py W DetectionResult := do
  if ← probeXbpi T timeout srcSbn dstSbn then pure { protocol := .xbpi }
  else do
    suppress T.drainInput
    if ← probeSbi T timeout then pure { protocol := .sbi }
    else throw (.sartorius (noDevice label timeout sniffWindow))

def detectProtocol (T : Transport W) (timeout sniffWindow : Rat) (srcSbn dstSbn : Int) (clock : List Rat) :
    Py W DetectionResult := do
  let label := T.label (← get)
  let (autoprint, sniffed) ← sniffForAutoprint T sniffWindow clock
  if autoprint then
    pure { protocol := .sbi, autoprintActive := true, pendingLines := sniffed }
  else do
    suppress T.drainInput
    probeInTurn T label timeout sniffWindow srcSbn dstSbn

/-! ## What the line delivers to each probe -/

/-- The first complete lines of a payload, at most `n` of them. -/
def crlfLines : Nat → Bytes → List Bytes
  | 0, _ => []
  | n + 1, data =>
      match Bytes.find Sbi.lineTerminator data with
      | none => []
      | some i => data.take (i + 2) :: crlfLines n (data.drop (i + 2))

/-- A valid xBPI frame lies at the front of the data. -/
def FrameIn (data : Bytes) : Prop :=
  ∃ b rest, data = b :: rest ∧ b.toNat ≤ rest.length ∧ Xbpi.IsFrame (b :: rest.take b.toNat)

/-- A length byte and at least one more byte arrived, and the length byte is not one of a frame without a
body that is complete. -/
def Spoken (data : Bytes) : Prop :=
  ∃ b rest, data = b :: rest ∧ rest ≠ [] ∧ (3 ≤ b.toNat ∨ rest.length < b.toNat)

/-- The probe's addresses are bytes. -/
def SbnsFit (srcSbn dstSbn : Int) : Prop := (0 ≤ srcSbn ∧ srcSbn ≤ 255) ∧ (0 ≤ dstSbn ∧ dstSbn ≤ 255)

open SerialTransport

/-- An open port on which bytes arrive or do not, without faults; a write succeeds or times out. -/
structure Faultless (s : SerialState) : Prop where
  isOpen : s.isOpen = true
  quiet : ∀ p ∈ s.line, Quiet p
  sends : ∀ o ∈ s.sends, o = .ok ∨ o = .expire

/-- The bytes that arrive after `i` discards of the input. -/
def arrivesAt (s : SerialState) (i : Nat) : Bytes := arrived ((s.line.drop i).headD [])

def AutoprintSniffed (sniffWindow : Rat) (clock : List Rat) (s : SerialState) : Prop :=
  0 < sniffWindow ∧ ∃ l ∈ crlfLines clock.length (pending s), Sbi.isAutoprintLine l = true

def FrameAnswered (srcSbn dstSbn : Int) (s : SerialState) : Prop :=
  SbnsFit srcSbn dstSbn ∧ s.sends.getD 0 .ok = .ok ∧ FrameIn (arrivesAt s 1)

/-- One of the two SBI tokens was sent and answered with a complete line. -/
def SbiAnswered (s : SerialState) : Prop :=
  ∃ i, (i = 1 ∨ i = 2) ∧ s.sends.getD i .ok = .ok ∧
    (Bytes.find Sbi.lineTerminator (arrivesAt s (i + 1))).isSome

/-- What the documentation of detection promises of one run: no timeout, protocol error or transient of a
probe escapes; without autoprint and without a frame the SBI probe is made, and an answer to it resolves the
protocol. -/
structure FallsThrough (timeout sniffWindow : Rat) (srcSbn dstSbn : Int) (clock : List Rat)
    (s : SerialState) : Prop where
  contained : ∀ e s', (detectProtocol serialTransport timeout sniffWindow srcSbn dstSbn clock).exec s =
    (.error (.sartorius e), s') → ∀ c ∈ [ErrorClass.timeoutError, .protocolError, .transientTransportError],
      e.cls.issubclass c = false
  continues : ¬ AutoprintSniffed sniffWindow clock s → ¬ FrameAnswered srcSbn dstSbn s →
    Sbi.TOKEN_TYPE ∈
      ((detectProtocol serialTransport timeout sniffWindow srcSbn dstSbn clock).exec s).2.sent.drop
        s.sent.length
  resolved : ¬ AutoprintSniffed sniffWindow clock s → ¬ FrameAnswered srcSbn dstSbn s → SbiAnswered s →
    ((detectProtocol serialTransport timeout sniffWindow srcSbn dstSbn clock).exec s).1 =
      .ok { protocol := .sbi }

/-! ## One probe after the other -/

section Probes

variable {s : SerialState} (timeout : Rat)

theorem lineTerminator_length : Sbi.lineTerminator.length = 2 := rfl

/-- A line that has been read is followed by what is pending after it. -/
theorem sniffLoop_quiet (clock : List Rat) (hopen : s.isOpen = true) (hq : Quiet (phase s)) :
    ∃ s', Received s s' ∧ (sniffLoop serialTransport clock).exec s =
      (.ok (match (crlfLines clock.length (pending s)).find? Sbi.isAutoprintLine with
        | some l => (true, [l])
        | none => (false, [])), s') := by
  induction clock generalizing s with
  | nil => exact ⟨s, .refl hq, rfl⟩
  | cons remaining clock ih =>
      obtain ⟨s', hs', hok, herr⟩ := readUntil_quiet Sbi.lineTerminator remaining hopen hq
      cases hfind : Bytes.find Sbi.lineTerminator (pending s) with
      | none =>
          refine ⟨s', hs', ?_⟩
          have hread := herr hfind
          have hline : (exceptClasses [.timeoutError]
              (some <$> serialTransport.readUntil Sbi.lineTerminator remaining) fun _ => pure none).exec s =
              (.ok none, s') := by
            rw [exec_exceptClasses, Prog.exec_map]
            simp only [serialTransport, hread, readUntilTimeout]
            rfl
          rw [sniffLoop, Prog.exec_bind_ok hline]
          simp [crlfLines, hfind]
      | some i =>
          obtain ⟨hread, hpending⟩ := hok i hfind
          have hline : (exceptClasses [.timeoutError]
              (some <$> serialTransport.readUntil Sbi.lineTerminator remaining) fun _ => pure none).exec s =
              (.ok (some ((pending s).take (i + 2))), s') := by
            rw [exec_exceptClasses, Prog.exec_map]
            simp only [serialTransport, hread]
            rfl
          rw [sniffLoop, Prog.exec_bind_ok hline]
          by_cases hauto : Sbi.isAutoprintLine ((pending s).take (i + 2)) = true
          · refine ⟨s', hs', ?_⟩
            simp [crlfLines, hfind, hauto]
          · obtain ⟨s'', hs'', hrun⟩ := ih (hs'.isOpen.trans hopen) hs'.quiet
            refine ⟨s'', hs'.trans hs'', ?_⟩
            rw [hpending, lineTerminator_length] at hrun
            simpa [crlfLines, hfind, hauto] using hrun

/-- The state after a discard of the input. -/
def drained (s : SerialState) : SerialState := { s with pushback := [], line := s.line.tail }

theorem exec_drainInput (hopen : s.isOpen = true) :
    (suppress serialTransport.drainInput).exec s = (.ok (), drained s) := by
  rw [suppress, exec_exceptClasses]
  simp [serialTransport, drainInput, drained, hopen]

/-- `s'` is `s` after a probe wrote `data`. -/
structure Wrote (data : Bytes) (s s' : SerialState) : Prop where
  isOpen : s'.isOpen = s.isOpen
  later : s'.line.tail = s.line.tail
  sends : s'.sends = s.sends.tail
  sent : s'.sent = s.sent ++ [data]

theorem Wrote.received {data : Bytes} {s₁ s₂ : SerialState} (h : Wrote data s s₁) (h' : Received s₁ s₂) :
    Wrote data s s₂ :=
  ⟨h'.isOpen.trans h.isOpen, h'.later.trans h.later, h'.sends.trans h.sends, h'.sent.trans h.sent⟩

theorem exec_write_ok (data : Bytes) (hopen : s.isOpen = true) (h : s.sends.headD .ok = .ok) :
    ∃ s', Wrote data s s' ∧ s'.line = s.line ∧ s'.pushback = s.pushback ∧
      (serialTransport.write data timeout).exec s = (.ok (), s') := by
  refine ⟨{ s with sends := s.sends.tail, sent := s.sent ++ [data] }, ⟨rfl, rfl, rfl, rfl⟩, rfl, rfl, ?_⟩
  simp only [serialTransport, SerialTransport.write]
  rw [Prog.exec_bind_ok (exec_requirePort hopen), Prog.exec_ofFun]
  simp only [h]

theorem exec_write_expire (data : Bytes) (hopen : s.isOpen = true) (h : s.sends.headD .ok = .expire) :
    ∃ s', Wrote data s s' ∧
      (serialTransport.write data timeout).exec s = (.error (writeTimeout timeout s), s') := by
  refine ⟨{ s with sends := s.sends.tail, sent := s.sent ++ [data] }, ⟨rfl, rfl, rfl, rfl⟩, ?_⟩
  simp only [serialTransport, SerialTransport.write]
  rw [Prog.exec_bind_ok (exec_requirePort hopen), Prog.exec_ofFun]
  simp only [h]

/-- A valid frame is more than a length byte. -/
theorem FrameIn.spoken {data : Bytes} (h : FrameIn data) : Spoken data := by
  obtain ⟨b, rest, rfl, hb, hframe⟩ := h
  have hsize := hframe.size
  simp only [Xbpi.minFrameSize, List.length_cons, List.length_take, Nat.min_eq_left hb] at hsize
  refine ⟨b, rest, rfl, ?_, .inl (by omega)⟩
  rintro rfl
  simp only [List.length_nil] at hb
  omega

/-- The two reads of a frame take a length byte and that many bytes, or time out. -/
theorem readRaw_quiet (hopen : s.isOpen = true) (hq : Quiet (phase s)) :
    ∃ s', Received s s' ∧
      (pending s = [] →
        (Xbpi.readRaw serialTransport timeout).exec s = (.error (readExactTimeout 1 timeout s []), s')) ∧
      (∀ b rest, pending s = b :: rest → rest.length < b.toNat →
        (Xbpi.readRaw serialTransport timeout).exec s =
          (.error (readExactTimeout b.toNat timeout s rest), s')) ∧
      (∀ b rest, pending s = b :: rest → b.toNat ≤ rest.length →
        (Xbpi.readRaw serialTransport timeout).exec s = (.ok (b :: rest.take b.toNat), s') ∧
          pending s' = rest.drop b.toNat) := by
  obtain ⟨s₁, hs₁, hok₁, herr₁⟩ := readExact_quiet 1 timeout hopen hq
  cases hdata : pending s with
  | nil =>
      have hread := herr₁ (by simp [hdata])
      refine ⟨s₁, hs₁, fun _ => ?_, (fun _ _ h => by cases h), (fun _ _ h => by cases h)⟩
      rw [hdata] at hread
      exact Prog.exec_bind_error hread
  | cons b rest =>
      obtain ⟨hread₁, hpending₁⟩ := hok₁ (by simp [hdata])
      rw [hdata] at hread₁ hpending₁
      have hfirst : (serialTransport.readExact 1 timeout).exec s = (.ok [b], s₁) := hread₁
      obtain ⟨s₂, hs₂, hok₂, herr₂⟩ := readExact_quiet b.toNat timeout (hs₁.isOpen.trans hopen) hs₁.quiet
      rw [hpending₁] at hok₂ herr₂
      have hlabel : label s₁ = label s := congrArg SerialSettings.port hs₁.settings
      refine ⟨s₂, hs₁.trans hs₂, (fun h => by cases h), ?_, ?_⟩
      · rintro _ _ ⟨rfl, rfl⟩ hlt
        have hread₂ := herr₂ (by simpa using hlt)
        rw [Xbpi.readRaw, Prog.exec_bind_ok hfirst]
        refine Prog.exec_bind_error ?_
        simpa [readExactTimeout, hlabel, serialTransport] using hread₂
      · rintro _ _ ⟨rfl, rfl⟩ hle
        obtain ⟨hread₂, hpending₂⟩ := hok₂ (by simpa using hle)
        refine ⟨?_, by simpa using hpending₂⟩
        rw [Xbpi.readRaw, Prog.exec_bind_ok hfirst]
        have hsecond : (serialTransport.readExact b.toNat timeout).exec s₁ = (.ok (rest.take b.toNat), s₂) := by
          simpa [serialTransport] using hread₂
        exact Prog.exec_bind_ok hsecond

/-- The probe of a request that was sent is decided by the bytes it read. -/
theorem probeXbpi_read {srcSbn dstSbn : Int} {request : Bytes} {s₁ s₂ : SerialState}
    {got : Except Exc Bytes} (hreq : Xbpi.buildCommand xbpiProbeOpcode [] srcSbn dstSbn = .ok request)
    (hwrite : (serialTransport.write request timeout).exec s = (.ok (), s₁))
    (hread : (Xbpi.readRaw serialTransport timeout).exec s₁ = (got, s₂)) :
    (probeXbpi serialTransport timeout srcSbn dstSbn).exec s =
      match got.bind fun raw => (Xbpi.parseFrame raw).mapError .sartorius with
      | .ok _ => (.ok true, s₂)
      | .error e =>
          if [ErrorClass.timeoutError, .protocolError].any e.isinstance then (.ok false, s₂)
          else (.error e, s₂) := by
  rw [probeXbpi, hreq, Prog.exec_bind_ok (exec_liftExcept_ok request s), exec_exceptClasses,
    Prog.exec_bind_ok hwrite]
  cases got with
  | error e =>
      rw [Prog.exec_bind_error hread]
      rfl
  | ok raw =>
      rw [Prog.exec_bind_ok hread]
      simp only [Except.bind]
      cases Xbpi.parseFrame raw with
      | ok f => rfl
      | error e => rfl

/-- What the xBPI probe makes of the bytes that arrive after its request. -/
theorem probeXbpi_answer {srcSbn dstSbn : Int} {request : Bytes} (hopen : s.isOpen = true)
    (hq : Quiet (phase s)) (hpush : s.pushback = [])
    (hreq : Xbpi.buildCommand xbpiProbeOpcode [] srcSbn dstSbn = .ok request)
    (hsend : s.sends.headD .ok = .ok) :
    ∃ s', Wrote request s s' ∧
      (¬ Spoken (arrived (phase s)) → ∃ e : SartoriusError, e.cls = .transientTransportError ∧
        (probeXbpi serialTransport timeout srcSbn dstSbn).exec s = (.error (.sartorius e), s')) ∧
      (Spoken (arrived (phase s)) → ¬ FrameIn (arrived (phase s)) →
        (probeXbpi serialTransport timeout srcSbn dstSbn).exec s = (.ok false, s')) ∧
      (FrameIn (arrived (phase s)) →
        (probeXbpi serialTransport timeout srcSbn dstSbn).exec s = (.ok true, s')) := by
  obtain ⟨s₁, hs₁, hline, hpb, hwrite⟩ := exec_write_ok timeout request hopen hsend
  have hphase : phase s₁ = phase s := by rw [phase, phase, hline]
  have hpending : pending s₁ = arrived (phase s) := by rw [pending, hpb, hpush, hphase]; rfl
  obtain ⟨s₂, hs₂, hnone, hshort, hfull⟩ :=
    readRaw_quiet timeout (hs₁.isOpen.trans hopen) (by rwa [hphase])
  rw [hpending] at hnone hshort hfull
  refine ⟨s₂, hs₁.received hs₂, ?_⟩
  rcases hdata : arrived (phase s) with _ | ⟨b, rest⟩
  · -- nothing arrives
    rw [probeXbpi_read timeout hreq hwrite (hnone hdata)]
    refine ⟨fun _ => ⟨_, rfl, rfl⟩, ?_, ?_⟩
    · rintro ⟨_, _, h, _⟩
      cases h
    · rintro ⟨_, _, h, _⟩
      cases h
  · rcases Nat.lt_or_ge rest.length b.toNat with hlt | hle
    · -- the frame is not complete
      rw [probeXbpi_read timeout hreq hwrite (hshort b rest hdata hlt)]
      have hframe : ¬ FrameIn (b :: rest) := by
        rintro ⟨_, _, ⟨rfl, rfl⟩, hle, _⟩
        omega
      cases rest with
      | nil =>
          refine ⟨fun _ => ⟨_, rfl, rfl⟩, ?_, fun h => absurd h hframe⟩
          rintro ⟨_, _, ⟨rfl, rfl⟩, h, _⟩
          exact absurd rfl h
      | cons c rest =>
          refine ⟨fun h => absurd ⟨b, c :: rest, rfl, by simp, .inr hlt⟩ h, fun _ _ => rfl, ?_⟩
          exact fun h => absurd h hframe
    · rw [probeXbpi_read timeout hreq hwrite (hfull b rest hdata hle).1]
      have hlen : (b :: rest.take b.toNat).length = b.toNat + 1 := by
        rw [List.length_cons, List.length_take, Nat.min_eq_left hle]
      have hframe : FrameIn (b :: rest) ↔ Xbpi.IsFrame (b :: rest.take b.toNat) := by
        constructor
        · rintro ⟨_, _, ⟨rfl, rfl⟩, _, h⟩
          exact h
        · exact fun h => ⟨b, rest, rfl, hle, h⟩
      have hspoken : Spoken (b :: rest) ↔ 3 ≤ b.toNat := by
        constructor
        · rintro ⟨_, _, ⟨rfl, rfl⟩, _, h | h⟩
          · exact h
          · omega
        · intro h
          refine ⟨b, rest, rfl, ?_, .inl h⟩
          rintro rfl
          simp only [List.length_nil] at hle
          omega
      rw [hframe, hspoken]
      cases hparse : Xbpi.parseFrame (b :: rest.take b.toNat) with
      | ok f =>
          have hf := (Xbpi.parseFrame_eq_ok_iff.mp hparse).1
          have hsize := hf.size
          rw [hlen, Xbpi.minFrameSize] at hsize
          exact ⟨fun h => absurd (by omega) h, fun _ h => absurd hf h,
            fun _ => by simp [Except.bind, hparse, Except.mapError]⟩
      | error e =>
          have hcls := Xbpi.parseFrame_error hparse
          rw [hlen, Xbpi.minFrameSize] at hcls
          have hnot : ¬ Xbpi.IsFrame (b :: rest.take b.toNat) := by
            intro h
            rw [Xbpi.parseFrame_eq_ok_iff.mpr ⟨h, rfl⟩] at hparse
            cases hparse
          simp only [Except.bind, hparse, Except.mapError]
          refine ⟨fun h => ⟨e, ?_, ?_⟩, fun h _ => ?_, fun h => absurd h hnot⟩
          · rw [hcls, if_pos (by omega)]
          · rw [if_pos (by omega)] at hcls
            simp [hcls]
            decide
          · rw [if_neg (by omega)] at hcls
            simp [hcls]
            decide

/-- A request that could not be sent in time is no answer. -/
theorem probeXbpi_unsent {srcSbn dstSbn : Int} {request : Bytes} (hopen : s.isOpen = true)
    (hreq : Xbpi.buildCommand xbpiProbeOpcode [] srcSbn dstSbn = .ok request)
    (hsend : s.sends.headD .ok = .expire) :
    ∃ s', Wrote request s s' ∧
      (probeXbpi serialTransport timeout srcSbn dstSbn).exec s = (.ok false, s') := by
  obtain ⟨s₁, hs₁, hwrite⟩ := exec_write_expire timeout request hopen hsend
  refine ⟨s₁, hs₁, ?_⟩
  rw [probeXbpi, hreq, Prog.exec_bind_ok (exec_liftExcept_ok request s), exec_exceptClasses,
    Prog.exec_bind_error hwrite]
  rfl

/-- The probe's frame is built from addresses that are bytes; otherwise the codec refuses them. -/
theorem probeXbpi_built {srcSbn dstSbn : Int} :
    (SbnsFit srcSbn dstSbn ∧ ∃ request, Xbpi.buildCommand xbpiProbeOpcode [] srcSbn dstSbn = .ok request) ∨
      (¬ SbnsFit srcSbn dstSbn ∧ ∃ e : SartoriusError, e.cls = .frameError ∧
        (probeXbpi serialTransport timeout srcSbn dstSbn).exec s = (.error (.sartorius e), s)) := by
  cases hreq : Xbpi.buildCommand xbpiProbeOpcode [] srcSbn dstSbn with
  | ok request =>
      obtain ⟨-, hsrc, hdst, -⟩ := Xbpi.buildCommand_eq_ok hreq
      exact .inl ⟨⟨hsrc, hdst⟩, request, rfl⟩
  | error e =>
      refine .inr ⟨?_, e, Xbpi.buildCommand_error hreq, ?_⟩
      · rintro ⟨hsrc, hdst⟩
        obtain ⟨frame, hframe⟩ := Xbpi.buildCommand_fits [] (by decide : (0 : Int) ≤ xbpiProbeOpcode ∧ _)
          hsrc hdst (by decide)
        rw [hframe] at hreq
        cases hreq
      · rw [probeXbpi, hreq]
        exact Prog.exec_bind_error (exec_liftExcept_error e s)

/-- A token is answered when it could be sent and a complete line came back. -/
def TokenAnswered (s : SerialState) : Prop :=
  s.sends.headD .ok = .ok ∧ (Bytes.find Sbi.lineTerminator (arrived (phase s))).isSome

/-- One round of the SBI probe; an unanswered token is followed by a discard. -/
theorem probeSbiTokens_cons (token : Bytes) (later : List Bytes) (hopen : s.isOpen = true)
    (hq : Quiet (phase s)) (hpush : s.pushback = [])
    (hsend : s.sends.headD .ok = .ok ∨ s.sends.headD .ok = .expire) :
    ∃ s', Wrote token s s' ∧
      (TokenAnswered s → (probeSbiTokens serialTransport timeout (token :: later)).exec s = (.ok true, s')) ∧
      (¬ TokenAnswered s → (probeSbiTokens serialTransport timeout (token :: later)).exec s =
        (probeSbiTokens serialTransport timeout later).exec (drained s')) := by
  rcases hsend with hsend | hsend
  · obtain ⟨s₁, hs₁, hline, hpb, hwrite⟩ := exec_write_ok timeout token hopen hsend
    have hphase : phase s₁ = phase s := by rw [phase, phase, hline]
    have hpending : pending s₁ = arrived (phase s) := by rw [pending, hpb, hpush, hphase]; rfl
    have hopen₁ : s₁.isOpen = true := hs₁.isOpen.trans hopen
    obtain ⟨s₂, hs₂, hok, herr⟩ :=
      readUntil_quiet Sbi.lineTerminator timeout hopen₁ (by rwa [hphase])
    rw [hpending] at hok herr
    refine ⟨s₂, hs₁.received hs₂, ?_, ?_⟩
    · rintro ⟨-, hfound⟩
      obtain ⟨i, hi⟩ := Option.isSome_iff_exists.mp hfound
      have hread : (serialTransport.readUntil Sbi.lineTerminator timeout).exec s₁ = _ := (hok i hi).1
      refine (Prog.exec_bind_ok (show Prog.exec _ s = (.ok true, s₂) from ?_)).trans rfl
      rw [exec_exceptClasses, Prog.exec_bind_ok hwrite, Prog.exec_bind_ok hread]
      rfl
    · intro hnot
      have hnone : Bytes.find Sbi.lineTerminator (arrived (phase s)) = none :=
        Option.not_isSome_iff_eq_none.mp fun h => hnot ⟨hsend, h⟩
      have hread : (serialTransport.readUntil Sbi.lineTerminator timeout).exec s₁ = _ := herr hnone
      refine (Prog.exec_bind_ok (show Prog.exec _ s = (.ok false, drained s₂) from ?_)).trans rfl
      rw [exec_exceptClasses, Prog.exec_bind_ok hwrite, Prog.exec_bind_error hread]
      exact Prog.exec_bind_ok (exec_drainInput (hs₂.isOpen.trans hopen₁))
  · obtain ⟨s₁, hs₁, hwrite⟩ := exec_write_expire timeout token hopen hsend
    refine ⟨s₁, hs₁, ?_, fun _ => ?_⟩
    · rintro ⟨h, -⟩
      rw [hsend] at h
      cases h
    · refine (Prog.exec_bind_ok (show Prog.exec _ s = (.ok false, drained s₁) from ?_)).trans rfl
      rw [exec_exceptClasses, Prog.exec_bind_error hwrite]
      exact Prog.exec_bind_ok (exec_drainInput (hs₁.isOpen.trans hopen))

theorem Faultless.head (hs : Faultless s) : Quiet (phase s) := by
  rw [phase]
  cases h : s.line with
  | nil => exact fun e he => by cases he
  | cons p line => exact hs.quiet p (by simp [h])

theorem Faultless.send (hs : Faultless s) :
    s.sends.headD .ok = .ok ∨ s.sends.headD .ok = .expire := by
  cases h : s.sends with
  | nil => exact .inl rfl
  | cons o sends => exact hs.sends o (by simp [h])

/-- A discard after a write leaves the rest of the line and of the outcomes. -/
theorem Faultless.next {data : Bytes} {s' : SerialState} (hs : Faultless s) (h : Wrote data s s') :
    Faultless (drained s') where
  isOpen := h.isOpen.trans hs.isOpen
  quiet p hp := hs.quiet p (List.mem_of_mem_tail (h.later ▸ hp))
  sends o ho := hs.sends o (List.mem_of_mem_tail (h.sends ▸ ho))

theorem Faultless.drained {s' : SerialState} (hs : Faultless s) (h : Received s s') :
    Faultless (drained s') where
  isOpen := h.isOpen.trans hs.isOpen
  quiet p hp := hs.quiet p (List.mem_of_mem_tail (h.later ▸ hp))
  sends o ho := hs.sends o (h.sends ▸ ho)

/-- The SBI token with number `i` was sent and answered with a complete line, by a line that is discarded
before each token but the first. -/
def AnsweredAt (s : SerialState) (i : Nat) : Prop :=
  s.sends.getD i .ok = .ok ∧ (Bytes.find Sbi.lineTerminator (arrivesAt s i)).isSome

/-- After a write and a discard the outcomes and the line are one further. -/
theorem answeredAt_next {data : Bytes} {s' : SerialState} (h : Wrote data s s') (i : Nat) :
    AnsweredAt (drained s') i ↔ AnsweredAt s (i + 1) := by
  have hline : (drained s').line = s.line.tail := h.later
  have hsends : (drained s').sends = s.sends.tail := h.sends
  simp only [AnsweredAt, arrivesAt, hline, hsends]
  rw [← List.drop_one, ← List.drop_one, List.drop_drop, Nat.add_comm 1 i]
  simp [List.getD_eq_getElem?_getD]

/-- Both tokens of the SBI probe, from a discarded input. -/
theorem probeSbi_quiet (hs : Faultless s) (hpush : s.pushback = []) :
    ∃ found s', (probeSbi serialTransport timeout).exec s = (.ok found, s') ∧
      (found = true ↔ AnsweredAt s 0 ∨ AnsweredAt s 1) ∧
      ∃ more, s'.sent = s.sent ++ Sbi.TOKEN_TYPE :: more := by
  have hat : ∀ s : SerialState, TokenAnswered s ↔ AnsweredAt s 0 := by
    intro s
    cases hl : s.line <;> cases ho : s.sends <;> simp [TokenAnswered, AnsweredAt, arrivesAt, phase, hl, ho]
  obtain ⟨s₁, hs₁, hyes₁, hno₁⟩ :=
    probeSbiTokens_cons timeout Sbi.TOKEN_TYPE [Sbi.TOKEN_PRINT] hs.isOpen hs.head hpush hs.send
  by_cases h₁ : TokenAnswered s
  · exact ⟨true, s₁, hyes₁ h₁, by simp [(hat s).mp h₁], [], hs₁.sent⟩
  · have hs' := hs.next hs₁
    obtain ⟨s₂, hs₂, hyes₂, hno₂⟩ :=
      probeSbiTokens_cons timeout Sbi.TOKEN_PRINT [] hs'.isOpen hs'.head rfl hs'.send
    have hnext : TokenAnswered (drained s₁) ↔ AnsweredAt s 1 := (hat _).trans (answeredAt_next hs₁ 0)
    have h₁' : ¬ AnsweredAt s 0 := fun h => h₁ ((hat s).mpr h)
    have hsent : s₂.sent = s.sent ++ [Sbi.TOKEN_TYPE, Sbi.TOKEN_PRINT] := by
      rw [hs₂.sent]
      show s₁.sent ++ _ = _
      rw [hs₁.sent]
      simp
    by_cases h₂ : TokenAnswered (drained s₁)
    · exact ⟨true, s₂, (hno₁ h₁).trans (hyes₂ h₂), by simp [hnext.mp h₂], _, hsent⟩
    · have h₂' : ¬ AnsweredAt s 1 := fun h => h₂ (hnext.mpr h)
      exact ⟨false, drained s₂, (hno₁ h₁).trans (hno₂ h₂), by simp [h₁', h₂'], _, hsent⟩

end Probes

/-! ## The whole detection -/

section Detection

variable {s : SerialState} (timeout sniffWindow : Rat) (srcSbn dstSbn : Int) (clock : List Rat)

theorem sniff_quiet (hs : Faultless s) :
    ∃ s', Received s s' ∧
      (AutoprintSniffed sniffWindow clock s →
        ∃ l, (sniffForAutoprint serialTransport sniffWindow clock).exec s = (.ok (true, [l]), s')) ∧
      (¬ AutoprintSniffed sniffWindow clock s →
        (sniffForAutoprint serialTransport sniffWindow clock).exec s = (.ok (false, []), s')) := by
  by_cases hw : sniffWindow ≤ 0
  · refine ⟨s, .refl hs.head, fun h => absurd hw (not_le.mpr h.1), fun _ => ?_⟩
    rw [sniffForAutoprint, if_pos hw, Prog.exec_pure]
  · obtain ⟨s', hs', hrun⟩ := sniffLoop_quiet clock hs.isOpen hs.head
    have hsniff : sniffForAutoprint serialTransport sniffWindow clock = sniffLoop serialTransport clock :=
      if_neg hw
    rw [← hsniff] at hrun
    cases hfind : (crlfLines clock.length (pending s)).find? Sbi.isAutoprintLine with
    | none =>
        rw [hfind] at hrun
        refine ⟨s', hs', ?_, fun _ => hrun⟩
        rintro ⟨-, l, hl, hauto⟩
        exact absurd hauto (List.find?_eq_none.mp hfind l hl)
    | some l =>
        rw [hfind] at hrun
        refine ⟨s', hs', fun _ => ⟨l, hrun⟩, fun h => absurd ?_ h⟩
        exact ⟨not_le.mp hw, l, List.mem_of_find?_eq_some hfind, List.find?_some hfind⟩

theorem detect_sniffed (hs : Faultless s) (h : AutoprintSniffed sniffWindow clock s) :
    ∃ l, ((detectProtocol serialTransport timeout sniffWindow srcSbn dstSbn clock).exec s).1 =
      .ok { protocol := .sbi, autoprintActive := true, pendingLines := [l] } := by
  obtain ⟨s', -, hyes, -⟩ := sniff_quiet sniffWindow clock hs
  obtain ⟨l, hl⟩ := hyes h
  refine ⟨l, ?_⟩
  rw [detectProtocol, Prog.exec_bind_ok (Prog.exec_get s), Prog.exec_bind_ok hl]
  rfl

/-- Without autoprint the probes run from the discarded input. -/
theorem detect_unsniffed (hs : Faultless s) (h : ¬ AutoprintSniffed sniffWindow clock s) :
    ∃ s', Received s s' ∧
      (detectProtocol serialTransport timeout sniffWindow srcSbn dstSbn clock).exec s =
        (probeInTurn serialTransport (label s) timeout sniffWindow srcSbn dstSbn).exec (drained s') := by
  obtain ⟨s', hs', -, hno⟩ := sniff_quiet sniffWindow clock hs
  refine ⟨s', hs', ?_⟩
  rw [detectProtocol, Prog.exec_bind_ok (Prog.exec_get s), Prog.exec_bind_ok (hno h)]
  exact Prog.exec_bind_ok (exec_drainInput (hs'.isOpen.trans hs.isOpen))

/-- After an xBPI probe without a frame the SBI probe is made and decides. -/
theorem probeInTurn_unframed {s₁ s₂ : SerialState} {request : Bytes} (label : String) (hs : Faultless s₁)
    (hsent : Wrote request s₁ s₂)
    (hprobe : (probeXbpi serialTransport timeout srcSbn dstSbn).exec s₁ = (.ok false, s₂)) :
    ∃ result s₃, (probeInTurn serialTransport label timeout sniffWindow srcSbn dstSbn).exec s₁ =
        (result, s₃) ∧
      Sbi.TOKEN_TYPE ∈ s₃.sent.drop s₁.sent.length ∧
      (AnsweredAt s₁ 1 ∨ AnsweredAt s₁ 2 → result = .ok { protocol := .sbi }) ∧
      (¬ (AnsweredAt s₁ 1 ∨ AnsweredAt s₁ 2) →
        result = .error (.sartorius (noDevice label timeout sniffWindow))) := by
  obtain ⟨found, s₃, hprobeSbi, hfound, more, hmore⟩ := probeSbi_quiet timeout (hs.next hsent) rfl
  rw [answeredAt_next hsent, answeredAt_next hsent] at hfound
  have hdrained : (drained s₂).sent = s₁.sent ++ [request] := hsent.sent
  have htoken : Sbi.TOKEN_TYPE ∈ s₃.sent.drop s₁.sent.length := by
    rw [hmore, hdrained, List.append_assoc, List.drop_left]
    simp
  have hexec : (probeInTurn serialTransport label timeout sniffWindow srcSbn dstSbn).exec s₁ =
      (if found then pure { protocol := .sbi }
        else throw (.sartorius (noDevice label timeout sniffWindow)) :
        Py SerialState DetectionResult).exec s₃ := by
    rw [probeInTurn, Prog.exec_bind_ok hprobe]
    refine (Prog.exec_bind_ok (exec_drainInput (hsent.isOpen.trans hs.isOpen))).trans ?_
    exact Prog.exec_bind_ok hprobeSbi
  cases found with
  | true =>
      refine ⟨.ok { protocol := .sbi }, s₃, hexec.trans rfl, htoken, fun _ => rfl, fun h => ?_⟩
      exact absurd (hfound.mp rfl) h
  | false =>
      refine ⟨_, s₃, hexec.trans rfl, htoken, fun h => ?_, fun _ => rfl⟩
      cases hfound.mpr h

/-- The xBPI probe finds a frame, or gives up, or lets an exception through. -/
theorem probeXbpi_cases {s₁ : SerialState} (hs : Faultless s₁) (hpush : s₁.pushback = []) :
    ((SbnsFit srcSbn dstSbn ∧ s₁.sends.headD .ok = .ok ∧ FrameIn (arrived (phase s₁))) ∧
      ∃ s₂, (probeXbpi serialTransport timeout srcSbn dstSbn).exec s₁ = (.ok true, s₂)) ∨
    ((SbnsFit srcSbn dstSbn ∧ (s₁.sends.headD .ok = .expire ∨ Spoken (arrived (phase s₁)))) ∧
      ¬ (SbnsFit srcSbn dstSbn ∧ s₁.sends.headD .ok = .ok ∧ FrameIn (arrived (phase s₁))) ∧
      ∃ s₂ request, Wrote request s₁ s₂ ∧
        (probeXbpi serialTransport timeout srcSbn dstSbn).exec s₁ = (.ok false, s₂)) ∨
    (¬ (SbnsFit srcSbn dstSbn ∧ (s₁.sends.headD .ok = .expire ∨ Spoken (arrived (phase s₁)))) ∧
      ∃ (e : SartoriusError) (s₂ : SerialState),
        (e.cls = .transientTransportError ∨ e.cls = .frameError) ∧
        (probeXbpi serialTransport timeout srcSbn dstSbn).exec s₁ = (.error (.sartorius e), s₂)) := by
  rcases probeXbpi_built timeout with ⟨hfit, request, hreq⟩ | ⟨hfit, e, he, hrun⟩
  · rcases hs.send with hsend | hsend
    · obtain ⟨s₂, hw, hsilent, hfalse, htrue⟩ := probeXbpi_answer timeout hs.isOpen hs.head hpush hreq hsend
      by_cases hframe : FrameIn (arrived (phase s₁))
      · exact .inl ⟨⟨hfit, hsend, hframe⟩, s₂, htrue hframe⟩
      · by_cases hspoken : Spoken (arrived (phase s₁))
        · exact .inr (.inl ⟨⟨hfit, .inr hspoken⟩, fun h => hframe h.2.2, s₂, request, hw,
            hfalse hspoken hframe⟩)
        · obtain ⟨e, he, hrun⟩ := hsilent hspoken
          refine .inr (.inr ⟨?_, e, s₂, .inl he, hrun⟩)
          rintro ⟨-, h | h⟩
          · rw [hsend] at h
            cases h
          · exact hspoken h
    · obtain ⟨s₂, hw, hrun⟩ := probeXbpi_unsent timeout hs.isOpen hreq hsend
      refine .inr (.inl ⟨⟨hfit, .inl hsend⟩, ?_, s₂, request, hw, hrun⟩)
      rintro ⟨-, h, -⟩
      rw [hsend] at h
      cases h
  · exact .inr (.inr ⟨fun h => hfit h.1, e, s₁, .inr he, hrun⟩)

/-- What is left for the probes after the discard of a sniffed line. -/
theorem drained_sniffed {s' : SerialState} (h : Received s s') :
    arrived (phase (drained s')) = arrivesAt s 1 ∧ (drained s').sends = s.sends ∧
      (drained s').sent = s.sent ∧ ∀ i, AnsweredAt (drained s') i ↔
        s.sends.getD i .ok = .ok ∧ (Bytes.find Sbi.lineTerminator (arrivesAt s (i + 1))).isSome := by
  have hline : (drained s').line = s.line.drop 1 := by rw [List.drop_one]; exact h.later
  refine ⟨by rw [phase, hline]; rfl, h.sends, h.sent, fun i => ?_⟩
  have hsends : (drained s').sends = s.sends := h.sends
  rw [AnsweredAt, arrivesAt, hline, hsends, List.drop_drop, Nat.add_comm 1 i]
  rfl

/-- Detection keeps its promise exactly when it sniffs autoprint, or when the probe's addresses are bytes and
either its write times out or the device says more than the length byte of a frame without a body. -/
theorem fallsThrough_iff (hs : Faultless s) :
    FallsThrough timeout sniffWindow srcSbn dstSbn clock s ↔
      AutoprintSniffed sniffWindow clock s ∨
        (SbnsFit srcSbn dstSbn ∧ (s.sends.getD 0 .ok = .expire ∨ Spoken (arrivesAt s 1))) := by
  by_cases hauto : AutoprintSniffed sniffWindow clock s
  · obtain ⟨l, hl⟩ := detect_sniffed timeout sniffWindow srcSbn dstSbn clock hs hauto
    refine ⟨fun _ => .inl hauto, fun _ => ⟨?_, fun h => absurd hauto h, fun h => absurd hauto h⟩⟩
    intro e s' h
    rw [h] at hl
    cases hl
  · obtain ⟨s₀, hs₀, hrun⟩ :=
      detect_unsniffed timeout sniffWindow srcSbn dstSbn clock hs hauto
    obtain ⟨harrived, hsends, hsent, hanswered⟩ := drained_sniffed hs₀
    have hhead : s.sends.getD 0 .ok = (drained s₀).sends.headD .ok := by
      rw [hsends]
      cases s.sends <;> rfl
    have hframed : FrameAnswered srcSbn dstSbn s ↔ SbnsFit srcSbn dstSbn ∧
        (drained s₀).sends.headD .ok = .ok ∧ FrameIn (arrived (phase (drained s₀))) := by
      rw [FrameAnswered, hhead, harrived]
    have hsbi : SbiAnswered s ↔ AnsweredAt (drained s₀) 1 ∨ AnsweredAt (drained s₀) 2 := by
      rw [hanswered, hanswered]
      constructor
      · rintro ⟨_, rfl | rfl, h⟩
        · exact .inl h
        · exact .inr h
      · rintro (h | h)
        · exact ⟨1, .inl rfl, h⟩
        · exact ⟨2, .inr rfl, h⟩
    rw [hhead, ← harrived, or_iff_right hauto]
    rcases probeXbpi_cases timeout srcSbn dstSbn (hs.drained hs₀) rfl
      with ⟨hframe, s₂, hprobe⟩ | ⟨hgood, hframe, s₂, request, hw, hprobe⟩ | ⟨hbad, e, s₂, he, hprobe⟩
    · have hresult : (detectProtocol serialTransport timeout sniffWindow srcSbn dstSbn clock).exec s =
          (.ok { protocol := .xbpi }, s₂) := by
        rw [hrun, probeInTurn, Prog.exec_bind_ok hprobe]
        rfl
      refine ⟨fun _ => ⟨hframe.1, .inr hframe.2.2.spoken⟩, fun _ => ⟨?_, ?_, ?_⟩⟩
      · intro e s' h
        rw [hresult] at h
        cases h
      · exact fun _ h => absurd (hframed.mpr hframe) h
      · exact fun _ h => absurd (hframed.mpr hframe) h
    · obtain ⟨result, s₃, hresult, htoken, hyes, hno⟩ :=
        probeInTurn_unframed timeout sniffWindow srcSbn dstSbn (label s) (hs.drained hs₀) hw hprobe
      rw [hsent] at htoken
      refine ⟨fun _ => hgood, fun _ => ⟨?_, fun _ _ => ?_, fun _ _ h => ?_⟩⟩
      · intro e s' h c hc
        rw [hrun, hresult, Prod.mk.injEq] at h
        by_cases hanswer : AnsweredAt (drained s₀) 1 ∨ AnsweredAt (drained s₀) 2
        · rw [hyes hanswer] at h
          cases h.1
        · rw [hno hanswer] at h
          cases h.1
          simp only [List.mem_cons, List.not_mem_nil, or_false] at hc
          rcases hc with rfl | rfl | rfl <;> rfl
      · rw [hrun, hresult]
        exact htoken
      · rw [hrun, hresult]
        exact hyes (hsbi.mp h)
    · refine ⟨fun h => ?_, fun h => absurd h hbad⟩
      have hresult := hrun.trans (Prog.exec_bind_error hprobe)
      have hc := h.contained e s₂ hresult
      rcases he with he | he
      · have := hc .transientTransportError (by simp)
        rw [he] at this
        cases this
      · have := hc .protocolError (by simp)
        rw [he] at this
        cases this

/-- A device that answers the SBI probe only. -/
def sbiOnly : SerialState where
  settings := { port := "COM3" }
  line := [[], [], [.chunk (encodeAsciiReplace "BCE224I-1S\r\n".toList)]]

theorem sbiOnly_faultless : Faultless sbiOnly where
  isOpen := rfl
  quiet := by
    intro p hp e he
    simp only [sbiOnly, List.mem_cons, List.not_mem_nil, or_false] at hp
    rcases hp with rfl | rfl | rfl
    · cases he
    · cases he
    · exact .inr ⟨_, List.mem_singleton.mp he⟩
  sends := fun o ho => by cases ho

/-- Silence after the xBPI request escapes as a transient, although the SBI probe would be answered. -/
theorem silence_escapes :
    Faultless sbiOnly ∧ SbiAnswered sbiOnly ∧ ¬ FallsThrough 1 (1 / 4) 1 9 [1 / 4] sbiOnly := by
  have hanswer : SbiAnswered sbiOnly := ⟨1, .inl rfl, rfl, by decide⟩
  have hauto : ¬ AutoprintSniffed (1 / 4) [1 / 4] sbiOnly := by
    rintro ⟨-, l, hl, -⟩
    cases hl
  have hframe : ¬ FrameAnswered 1 9 sbiOnly := by
    rintro ⟨-, -, _, _, h, -⟩
    cases h
  have hraises : ((detectProtocol serialTransport 1 (1 / 4) 1 9 [1 / 4]).exec sbiOnly).1.isOk = false := by
    decide +kernel
  refine ⟨sbiOnly_faultless, hanswer, fun h => ?_⟩
  rw [h.resolved hauto hframe hanswer] at hraises
  cases hraises

/-- A device whose first byte announces a frame that stays incomplete is resolved as SBI. -/
def partialFrame : SerialState :=
  { sbiOnly with line := [[], [.chunk [0x10, 0x41]], [.chunk (encodeAsciiReplace "BCE224I-1S\r\n".toList)]] }

theorem partialFrame_faultless : Faultless partialFrame where
  isOpen := rfl
  quiet := by
    intro p hp e he
    simp only [partialFrame, List.mem_cons, List.not_mem_nil, or_false] at hp
    rcases hp with rfl | rfl | rfl
    · cases he
    · exact .inr ⟨_, List.mem_singleton.mp he⟩
    · exact .inr ⟨_, List.mem_singleton.mp he⟩
  sends := fun o ho => by cases ho

theorem fallsThrough_iff_partialFrame : FallsThrough 1 (1 / 4) 1 9 [1 / 4] partialFrame :=
  (fallsThrough_iff 1 (1 / 4) 1 9 [1 / 4] partialFrame_faultless).mpr
    (.inr ⟨⟨by decide, by decide⟩, .inr ⟨0x10, [0x41], rfl, by decide, .inr (by decide)⟩⟩)

end Detection

end SartoriusLib.Detect
