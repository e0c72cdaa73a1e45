import SartoriusLib.Lib.Run
import SartoriusLib.Lib.Resumption
import SartoriusLib.Devices.Dispatch
import SartoriusLib.Streaming.Stream

/-!
# Concurrent callers

Several tasks call one balance. A caller is not interrupted between two calls on a client: its checks come
before it waits for the lock of the client, and what it does with an answer comes before any other task runs.
The calls on one client are served in the order in which they were made.
-/

namespace SartoriusLib

open Lib Session

/-- A balance with the SBI clients that its session had before. -/
structure Shared (W : Type) where
  host : Host W
  replaced : List Sbi.SbiClient := []

/-- A call that holds the lock of the client with the identity `client`. -/
inductive ClientCall where
  | xbpi (client : Nat) (request : Bytes) (timeout : Rat) (commandName : String) (opcode : Option Int)
  | sbi (client : Nat) (request : Bytes) (timeout : Rat) (commandName : String) (sbiToken : Bytes)
      (expectLines : Nat)
  | readLine (client : Nat) (timeout : Rat)
  | refresh (client : Nat) (clock : List Rat)
  /-- The part of `configure_protocol` under the lock; `old` is the session as it was before the wait. -/
  | configure (client : Nat) (r : Balance.SwitchRequest) (old : Session)

namespace ClientCall

def client : ClientCall → Nat
  | xbpi client .. => client
  | sbi client .. => client
  | readLine client _ => client
  | refresh client _ => client
  | configure client .. => client

@[reducible] def Answer : ClientCall → Type
  | xbpi .. => Xbpi.XbpiFrame
  | sbi .. => Sbi.SbiReply
  | readLine .. => Sbi.SbiReply
  | refresh .. => Bool
  | configure .. => Unit

end ClientCall

variable {W : Type} {α : Type}

/-- A caller of the balance. -/
abbrev Caller (W α : Type) : Type := Async Exc (Shared W) ClientCall.Answer α

def onHost (m : Py (Host W) α) : Py (Shared W) α := Prog.zoom Shared.host (fun h s => { s with host := h }) m

namespace Shared

def xbpiDisposed (s : Shared W) (client : Nat) : Bool :=
  s.host.retired.contains client || s.host.session.xbpi.any fun c => c.id = client ∧ c.disposed

/-- The client, disposed when it was retired. -/
def retire (s : Shared W) (c : Sbi.SbiClient) : Sbi.SbiClient :=
  { c with disposed := c.disposed || s.host.retired.contains c.id }

/-- The SBI client with the identity `client`, which the session has or had. -/
def sbi? (s : Shared W) (client : Nat) : Option Sbi.SbiClient :=
  (s.host.session.sbi.filter (·.id = client)).or (s.replaced.find? (·.id = client))

end Shared

/-- A call on the SBI client with the identity `client`, which the session has or had. -/
def withSbi (client : Nat) (m : Py (Sbi.SbiLink W) α) : Py (Shared W) α :=
  Prog.ofFun fun s =>
    match s.host.session.sbi.filter (·.id = client) with
    | some c => (onHost (onSbi (s.retire c) m)).exec s
    | none =>
        match s.replaced.find? (·.id = client) with
        | some c =>
            let (result, link) := m.exec { client := s.retire c, world := s.host.world }
            (result, { host := { s.host with world := link.world },
                       replaced := s.replaced.map fun d => if d.id = client then link.client else d })
        | none => (.error .assertionError, s)

theorem withSbi_none {s : Shared W} {client : Nat} (h : s.sbi? client = none) (m : Py (Sbi.SbiLink W) α) :
    (withSbi client m).exec s = (.error .assertionError, s) := by
  obtain ⟨hcurrent, hreplaced⟩ := Option.or_eq_none_iff.mp h
  rw [withSbi, Prog.exec_ofFun, hcurrent, hreplaced]

/-- A call on a client that the session has or had. -/
theorem withSbi_some {s : Shared W} {client : Nat} {c : Sbi.SbiClient} (h : s.sbi? client = some c)
    (m : Py (Sbi.SbiLink W) α) :
    ((withSbi client m).exec s).1 = (m.exec ⟨s.retire c, s.host.world⟩).1 ∧
      ((withSbi client m).exec s).2.host.world = (m.exec ⟨s.retire c, s.host.world⟩).2.world := by
  rw [withSbi, Prog.exec_ofFun]
  rcases hcurrent : s.host.session.sbi.filter (·.id = client) with _ | d
  · have hreplaced : s.replaced.find? (·.id = client) = some c := by simpa [Shared.sbi?, hcurrent] using h
    simp only [hcurrent, hreplaced, and_self]
  · obtain rfl : d = c := by simpa [Shared.sbi?, hcurrent] using h
    rw [hcurrent]
    exact ⟨rfl, rfl⟩

/-- A switch whose caller saw the session `old`; an SBI client that it replaces stays with its callers. -/
def performSwitch (T : Transport W) (r : Balance.SwitchRequest) (old : Session) : Py (Shared W) Unit := do
  let s ← get
  onHost (Balance.switchProtocol T r
    { old with srcSbn := s.host.session.srcSbn, dstSbn := s.host.session.dstSbn })
  modify fun t => { t with replaced := s.host.session.sbi.toList ++ t.replaced }

theorem exec_performSwitch (T : Transport W) (r : Balance.SwitchRequest) (old : Session) (s : Shared W) :
    (performSwitch T r old).exec s =
      match (Balance.switchProtocol T r
        { old with srcSbn := s.host.session.srcSbn, dstSbn := s.host.session.dstSbn }).exec s.host with
      | (.ok u, h) => (.ok u, { host := h, replaced := s.host.session.sbi.toList ++ s.replaced })
      | (.error e, h) => (.error e, { s with host := h }) := by
  rw [performSwitch, Prog.exec_bind_ok (Prog.exec_get s), Prog.exec_bind, onHost, Prog.exec_zoom]
  cases (Balance.switchProtocol T r
    { old with srcSbn := s.host.session.srcSbn, dstSbn := s.host.session.dstSbn }).exec s.host with
  | mk result h => cases result <;> rfl

def ClientCall.perform (T : Transport W) : (c : ClientCall) → Py (Shared W) c.Answer
  | .xbpi client request timeout commandName opcode => do
      let s ← get
      onHost (onWorld (Xbpi.executeLocked T (s.xbpiDisposed client) request timeout commandName opcode))
  | .sbi client request timeout commandName sbiToken expectLines =>
      withSbi client (Sbi.executeLocked T request timeout commandName (some sbiToken) expectLines)
  | .readLine client timeout => withSbi client (Sbi.readLine T timeout)
  | .refresh client clock => withSbi client (Sbi.refreshAutoprintState T clock)
  | .configure _ r old => performSwitch T r old

/-! ## The calls of a session -/

namespace Caller

/-- What a caller does without waiting. -/
def here (m : Py (Host W) α) : Caller W α := Async.lift (onHost m)

theorem here_bind_ok {m : Py (Host W) α} {s : Shared W} {a : α} {h : Host W} (hm : m.exec s.host = (.ok a, h))
    {β : Type} (f : α → Caller W β) : (here m >>= f) s = f a { s with host := h } :=
  Async.lift_bind_ok (by rw [onHost, Prog.exec_zoom, hm]) f

theorem here_bind_error {m : Py (Host W) α} {s : Shared W} {e : Exc} {h : Host W}
    (hm : m.exec s.host = (.error e, h)) {β : Type} (f : α → Caller W β) :
    (here m >>= f) s = (.done (.error e), { s with host := h }) :=
  Async.lift_bind_error (by rw [onHost, Prog.exec_zoom, hm]) f

def ask (c : ClientCall) : Caller W c.Answer := Async.call c

/-- `XbpiProtocolClient.execute`. -/
def xbpiExecute (client : Nat) (request : Bytes) (timeout : Rat) (commandName : String) (opcode : Option Int) :
    Caller W Xbpi.XbpiFrame :=
  ask (.xbpi client request timeout commandName opcode)

/-- `SbiProtocolClient.execute`. -/
def sbiExecute (client : Nat) (request : Bytes) (timeout : Rat) (commandName : String) (sbiToken : Bytes)
    (expectLines : Int) : Caller W Sbi.SbiReply :=
  if expectLines < 0 then throw (.valueError s!"expect_lines must be >= 0, got {expectLines}")
  else ask (.sbi client request timeout commandName sbiToken expectLines.toNat)

/-- `SbiProtocolClient.read_line`. -/
def readLine (client : Nat) (timeout : Rat) : Caller W Sbi.SbiReply := ask (.readLine client timeout)

section Dispatch

variable {Req Resp : Type}

def executeXbpi (command : Command Req Resp) (request : Req) (timeout : Option Rat) : Caller W Resp := do
  let s := (← here get).session
  match command.xbpi with
  | none =>
      here (raise .protocolUnsupportedError s!"{command.name}: xBPI variant missing at dispatch"
        { commandName := some command.name, protocol := some "xbpi" })
  | some variant =>
      match s.xbpi with
      | none =>
          here (raise .sartoriusError s!"{command.name}: session in XBPI mode but no xBPI client wired"
            { commandName := some command.name })
      | some client => do
          let requestBytes ← here (liftExc (variant.encode s.context request))
          let frame ← tryCatch
            (xbpiExecute client.id requestBytes (timeout.getD s.defaultTimeout) command.name (some variant.opcode))
            fun e => here (xbpiRefused command e)
          here (modifySession (·.setAvailability command.name .supported))
          here (liftExc (variant.decode frame s.context))

def sbiExchange (client : Nat) (request : Bytes) (timeout : Rat) (commandName : String) (sbiToken : Bytes)
    (expectLines : Int) : Caller W Sbi.SbiReply := do
  if (← here get).session.sbiAutoprintActive ∧ 0 < expectLines then
    throw (.sartorius (autoprintActiveError commandName (some sbiToken)))
  else do
    let reply ← sbiExecute client request timeout commandName sbiToken expectLines
    if replyIsSurpriseAutoprint (← here get).session.sbi reply sbiToken then do
      here (modifySession fun s => { s with sbi := s.sbi.map (·.markAutoprintActive reply.raw) })
      throw (.sartorius (autoprintActiveError commandName (some sbiToken)))
    else pure reply

def executeSbi (command : Command Req Resp) (request : Req) (timeout : Option Rat) : Caller W Resp := do
  let s := (← here get).session
  match command.sbi with
  | none =>
      here (raise .protocolUnsupportedError s!"{command.name}: SBI variant missing at dispatch"
        { commandName := some command.name, protocol := some "sbi" })
  | some variant =>
      match s.sbi with
      | none =>
          here (raise .sartoriusError s!"{command.name}: session in SBI mode but no SBI client wired"
            { commandName := some command.name })
      | some client => do
          let requestBytes ← here (liftExc (variant.encode s.context request))
          let reply ← sbiExchange client.id requestBytes (timeout.getD s.defaultTimeout) command.name
            variant.token variant.expectLines
          here (modifySession (·.setAvailability command.name .supported))
          here (liftExc (variant.decode reply s.context))

def execute (command : Command Req Resp) (request : Req) (confirm : Bool) (timeout : Option Rat) :
    Caller W Resp := do
  let s := (← here get).session
  here (liftExcept s.checkState)
  here (liftExcept (s.gateSafety command confirm))
  here (liftExcept (s.gateProtocol command))
  here (liftExcept (s.gateKnownDenied command))
  here (gatePriors command)
  match s.active with
  | .xbpi => executeXbpi command request timeout
  | .sbi => executeSbi command request timeout
  | .auto => here (raise .sartoriusError "unreachable: session has no active protocol")

def cachedExecute (command : Command Req Resp) (request : Req) (wrap : Resp → CachedValue) (cacheKey : String)
    (confirm : Bool) (timeout : Option Rat) : Caller W CachedValue := do
  if CapabilityBit.configCounter ∉ (← here get).session.capabilities then do
    let result ← wrap <$> execute command request confirm timeout
    here (serve cacheKey result (← here get).world)
  else do
    let counter ← execute Commands.CONFIG_COUNTER () false timeout
    let h ← here get
    let fresh : Caller W CachedValue := do
      let result ← wrap <$> execute command request confirm timeout
      here (modifySession fun s => { s with resultCache := s.resultCache.set cacheKey (counter, result) })
      here (modify fun h' => { h' with origins := h'.origins.set cacheKey h.world })
      here (serve cacheKey result h.world)
    match h.session.resultCache.get? cacheKey with
    | some (snapshot, value) =>
        if snapshot = counter then here (serve cacheKey value ((h.origins.get? cacheKey).getD h.world)) else fresh
    | none => fresh

end Dispatch

def executeRawXbpi (opcode : Int) (args : Bytes) (confirm : Bool) (timeout : Option Rat) :
    Caller W Xbpi.XbpiFrame := do
  let s := (← here get).session
  here (liftExcept s.checkState)
  if s.active ≠ .xbpi then
    here (raise .protocolUnsupportedError s!"raw_xbpi: session is in {s.active.value.toUpper} mode"
      { opcode := some opcode, protocol := some s.active.value })
  else
    match s.xbpi with
    | none =>
        here (raise .sartoriusError "raw_xbpi: session in XBPI mode but no xBPI client wired"
          { opcode := some opcode, protocol := some "xbpi" })
    | some client =>
        if opcode ∉ Commands.safeReadOnlyOpcodes ∧ ¬ confirm then
          here (raise .confirmationRequiredError
            (s!"raw_xbpi: opcode 0x{hex02 opcode} is not on the read-only safe-list; " ++
              "pass confirm=True to proceed")
            { opcode := some opcode, protocol := some "xbpi", extra := [("safe_listed", .flag false)] })
        else do
          let requestBytes ← here (liftExcept (Xbpi.buildCommand opcode args s.srcSbn s.dstSbn))
          xbpiExecute client.id requestBytes (timeout.getD s.defaultTimeout) s!"raw_xbpi[0x{hex02 opcode}]"
            (some opcode)

def executeRawSbi (command : Sbi.SbiCommand) (confirm : Bool) (timeout : Option Rat) (expectLines : Int) :
    Caller W Sbi.SbiReply := do
  let s := (← here get).session
  here (liftExcept s.checkState)
  if s.active ≠ .sbi then
    here (raise .protocolUnsupportedError s!"raw_sbi: session is in {s.active.value.toUpper} mode"
      { protocol := some s.active.value })
  else
    match s.sbi with
    | none =>
        here (raise .sartoriusError "raw_sbi: session in SBI mode but no SBI client wired"
          { protocol := some "sbi" })
    | some client => do
        let token ← here (liftExc (Sbi.normalizeToken command))
        if token ∉ Sbi.sbiReadOnlyTokens ∧ ¬ confirm then
          here (raise .confirmationRequiredError
            (s!"raw_sbi: token {bytesRepr token} is not on the read-only safe-list; " ++
              "pass confirm=True to proceed")
            { sbiToken := some token, protocol := some "sbi", extra := [("safe_listed", .flag false)] })
        else sbiExchange client.id token (timeout.getD s.defaultTimeout) "raw_sbi" token expectLines

def refreshSbiAutoprintState (clock : List Rat) : Caller W Bool := do
  let client ← here
    (requireSbi "refresh_sbi_autoprint_state" "refresh_sbi_autoprint_state requires an SBI session")
  ask (.refresh client.id clock)

def readSbiLine (timeout : Option Rat) : Caller W Sbi.SbiReply := do
  let s := (← here get).session
  let client ← here (requireSbi "read_sbi_line" s!"read_sbi_line: session is in {s.active.value.toUpper} mode")
  readLine client.id (timeout.getD s.defaultTimeout)

/-- `self._sbi.name`, which is looked up anew at each use. -/
def currentSbi (name : String) : Caller W Sbi.SbiClient := do
  match (← here get).session.sbi with
  | some client => pure client
  | none => throw (.attributeError s!"'NoneType' object has no attribute '{name}'")

def readAutoprintLoop : List Rat → Rat → Caller W Reading
  | later, remaining => do
      let client ← currentSbi "read_line"
      let reply ← readLine client.id remaining
      match Sbi.requireReading reply with
      | .ok reading => do
          let _ ← currentSbi "mark_autoprint_active"
          here (modifySession fun s => { s with sbi := s.sbi.map (·.markAutoprintActive) })
          pure reading
      | .error e =>
          match later with
          | [] => throw (.sartorius e)
          | next :: later => readAutoprintLoop later next

def readSbiAutoprintReading (remaining : Rat) (clock : List Rat) : Caller W Reading := do
  let s := (← here get).session
  let _ ← here (requireSbi "read_sbi_autoprint_reading"
    s!"read_sbi_autoprint_reading: session is in {s.active.value.toUpper} mode")
  readAutoprintLoop clock remaining

def poll (remaining : Rat) (clock : List Rat) : Caller W Reading := do
  if (← here get).session.sbiAutoprintActive then readSbiAutoprintReading remaining clock
  else execute Commands.READ_NET () false none

def readNet (hires : Int) (remaining : Rat) (clock : List Rat) : Caller W Reading :=
  if hires = 0 then poll remaining clock else execute Commands.READ_NET_HIRES hires false none

def readAutoprintSample : List StreamingSession.ReadClock → StreamingSession.ReadClock → Caller W Reading
  | [], (remaining, clock) => readSbiAutoprintReading remaining clock
  | next :: later, (remaining, clock) =>
      tryCatch (readSbiAutoprintReading remaining clock) fun e =>
        if [ErrorClass.parseError].any e.isinstance then readAutoprintSample later next else throw e

def nextReading (mode : StreamingSession.StreamMode) (first : StreamingSession.ReadClock)
    (later : List StreamingSession.ReadClock) : Caller W Reading :=
  match mode with
  | .poll => poll first.1 first.2
  | .autoprint => readAutoprintSample later first

def readSample (mode : StreamingSession.StreamMode) (m : StreamingSession.Moment) :
    Caller W Sample := do
  let reading ← nextReading mode m.first m.later
  pure (StreamingSession.sampleFromReading (StreamingSession.deviceName (← here get)) reading m.timing mode)

/-- `StreamingSession.__aenter__`: the sample that the stream keeps then. -/
def aenter (s : StreamingSession.Stream) (m : StreamingSession.Moment) :
    Caller W (Option Sample) := do
  let session := (← here get).session
  if s.entered then throw (.runtimeError "StreamingSession is already active")
  else
    match s.mode with
    | .autoprint =>
        if session.active ≠ .sbi then
          here (raise .protocolUnsupportedError "autoprint stream requires an SBI session"
            { protocol := some session.active.value })
        else if s.temporaryAutoprint then
          if ¬ s.confirm then
            here (raise .confirmationRequiredError
              "temporary autoprint mutates persistent output settings; pass confirm=True"
              { protocol := some "sbi", extra := [("safety", .text SafetyTier.persistent.name)] })
          else
            throw (.runtimeError ("temporary SBI autoprint configuration needs a verified " ++
              "SBI parameter-write command; use mode='autoprint' with autoprint already enabled"))
        else do
          let sample ← readSample .autoprint m
          pure (some sample)
    | .poll =>
        if session.sbiAutoprintActive then
          here (raise .autoprintActiveError
            ("SBI autoprint is active; stream(mode='poll') would leave the continuous output buffered. " ++
              "Use stream(mode='autoprint') to consume already-enabled autoprint.")
            { protocol := some "sbi",
              extra := [("autoprint_active", .flag true), ("mode", .text s.mode.value)] })
        else pure s.pending

/-- `StreamingSession.__anext__`; a poll begins when its sleep is over. -/
def anext (s : StreamingSession.Stream) (m : StreamingSession.Moment) : Caller W Sample :=
  if ¬ s.entered then throw (.runtimeError "StreamingSession must be entered before iteration")
  else
    match s.pending with
    | some sample => pure sample
    | none =>
        match s.mode with
        | .autoprint => readSample .autoprint m
        | .poll => if s.rateHz = none then throw .assertionError else readSample .poll m

/-- The stream is entered and asked for its first sample. -/
def stream (s : StreamingSession.Stream) (entry first : StreamingSession.Moment) :
    Caller W Sample := do
  let pending ← aenter s entry
  anext { s.begun entry.now with pending } first

/-- The client whose lock `configure_protocol` takes. -/
def activeLock (s : Session) : Option Nat :=
  match s.active, s.xbpi with
  | .xbpi, some client => some client.id
  | _, _ => s.sbi.map (·.id)

/-- `configure_protocol` up to the identification at its end: `none` when that follows. The identification holds no
lock from one read to the next; to the other callers its reads are calls of their own. -/
def configureProtocol (r : Balance.SwitchRequest) : Caller W (Option DeviceInfo) := do
  if r.target = .auto then
    here (raise .validationError "configure_protocol: target must be XBPI or SBI, not AUTO"
      { commandName := some "configure_protocol", extra := [("target", .text "auto")] })
  else if ¬ r.confirm then
    here (raise .confirmationRequiredError "configure_protocol is DANGEROUS; pass confirm=True to execute"
      { commandName := some "configure_protocol", extra := [("target", .text r.target.value)] })
  else do
    let h ← here get
    here (liftExcept h.session.checkState)
    if r.target = h.session.active ∧ r.noFramingChange then pure h.info
    else if h.session.xbpi.isNone ∧ h.session.sbi.isNone then throw .assertionError
    else
      match activeLock h.session with
      | none =>
          here (raise .sartoriusError "configure_protocol: active protocol has no client lock"
            { commandName := some "configure_protocol" })
      | some client => do
          let _ ← ask (.configure client r h.session)
          pure none

end Caller

/-! ## Alone -/

/-- The clients of the session are in use. -/
def Live (h : Host W) : Prop :=
  (∀ i, h.session.frame.xbpi = some i → i ∉ h.retired) ∧ ∀ i, h.session.frame.sbi = some i → i ∉ h.retired

theorem Live.of_frame {h h' : Host W} (hl : Live h) (hframe : h'.session.frame = h.session.frame)
    (hretired : h'.retired = h.retired) : Live h' := by
  rw [Live, hframe, hretired]
  exact hl

variable {T : Transport W} {β : Type}

/-- From `s` the caller `m`, alone, does what the program `p` does. -/
def Alone (T : Transport W) (m : Caller W α) (p : Py (Host W) α) (s : Shared W) : Prop :=
  (m.alone (ClientCall.perform T)).exec s = (onHost p).exec s

namespace Alone

open Prog

variable {s : Shared W} {m : Caller W α} {p : Py (Host W) α}

theorem here (p : Py (Host W) α) (s : Shared W) : Alone T (Caller.here p) p s := by
  rw [Alone, Caller.here, Async.alone_lift]

theorem pure (a : α) (s : Shared W) : Alone T (Pure.pure a) (Pure.pure a) s := rfl

theorem throw (e : Exc) (s : Shared W) : Alone T (MonadExcept.throw e) (MonadExcept.throw e : Py (Host W) α) s := rfl

theorem bind {f : α → Caller W β} {g : α → Py (Host W) β} (hm : Alone T m p s)
    (hf : ∀ a h, p.exec s.host = (.ok a, h) → Alone T (f a) (g a) { s with host := h }) :
    Alone T (m >>= f) (p >>= g) s := by
  rw [Alone, onHost, exec_zoom] at hm
  rw [Alone, Async.alone_bind, onHost, exec_zoom]
  rcases hp : p.exec s.host with ⟨e | a, h⟩
  · rw [hp] at hm
    rw [exec_bind_error hm, exec_bind_error hp]
  · rw [hp] at hm
    rw [exec_bind_ok hm, exec_bind_ok hp]
    exact hf a h hp

theorem get_bind {f : Host W → Caller W β} {g : Host W → Py (Host W) β} (hf : Alone T (f s.host) (g s.host) s) :
    Alone T (Caller.here get >>= f) (get >>= g) s :=
  bind (here get s) fun a h hget => by cases hget; exact hf

theorem map (f : α → β) (hm : Alone T m p s) : Alone T (f <$> m) (f <$> p) s := by
  rw [← bind_pure_comp f p]
  exact bind hm fun a h _ => pure (f a) _

theorem tryCatch {k : Exc → Caller W α} {q : Exc → Py (Host W) α} (hm : Alone T m p s)
    (hk : ∀ e h, p.exec s.host = (.error e, h) → Alone T (k e) (q e) { s with host := h }) :
    Alone T (MonadExcept.tryCatch m k) (MonadExcept.tryCatch p q) s := by
  rw [Alone, onHost, exec_zoom] at hm
  rw [Alone, Async.alone_tryCatch, exec_tryCatch, hm, onHost, exec_zoom, exec_tryCatch]
  rcases hp : p.exec s.host with ⟨e | a, h⟩
  · exact hk e h hp
  · rfl

theorem ite {c : Prop} [Decidable c] {n : Caller W α} {q : Py (Host W) α} (hm : c → Alone T m p s)
    (hn : ¬ c → Alone T n q s) : Alone T (if c then m else n) (if c then p else q) s := by
  split
  · exact hm ‹_›
  · exact hn ‹_›

end Alone

theorem Shared.retire_eq {s : Shared W} {c : Sbi.SbiClient} (h : c.id ∉ s.host.retired) : s.retire c = c := by
  simp [retire, h]

/-- A call on the client that the session has. -/
theorem withSbi_session {s : Shared W} {c : Sbi.SbiClient} (hsbi : s.host.session.sbi = some c)
    (m : Py (Sbi.SbiLink W) α) : (withSbi c.id m).exec s = (onHost (onSbi (s.retire c) m)).exec s := by
  simp [withSbi, hsbi, Option.filter]

theorem withSbi_current {s : Shared W} {c : Sbi.SbiClient} (hsbi : s.host.session.sbi = some c)
    (hlive : c.id ∉ s.host.retired) (m : Py (Sbi.SbiLink W) α) :
    (withSbi c.id m).exec s = (onHost (onSbi c m)).exec s := by
  rw [withSbi_session hsbi, Shared.retire_eq hlive]

namespace Caller

open Prog

variable {s : Shared W}

theorem alone_xbpiExecute {client : XbpiClient} (hxbpi : s.host.session.xbpi = some client)
    (hlive : client.id ∉ s.host.retired) (request : Bytes) (timeout : Rat) (commandName : String)
    (opcode : Option Int) :
    Alone T (xbpiExecute client.id request timeout commandName opcode)
      (onWorld (Xbpi.executeLocked T client.disposed request timeout commandName opcode)) s := by
  have hdisposed : s.xbpiDisposed client.id = client.disposed := by
    simp [Shared.xbpiDisposed, hxbpi, hlive]
  have hask : (xbpiExecute client.id request timeout commandName opcode).alone (ClientCall.perform T) =
      ClientCall.perform T (.xbpi client.id request timeout commandName opcode) := Async.alone_call _
  rw [Alone, hask, ClientCall.perform, exec_bind_ok (exec_get s), hdisposed]

theorem exec_onSbi_throw {h : Host W} {client : Sbi.SbiClient} (hsbi : h.session.sbi = some client) (e : Exc) :
    (onSbi client (throw e : Py (Sbi.SbiLink W) α)).exec h = (.error e, h) := by
  show (Except.error e, { h with session := { h.session with sbi := some client } }) = (Except.error e, h)
  rw [← hsbi]

theorem alone_sbiExecute {client : Sbi.SbiClient} (hsbi : s.host.session.sbi = some client)
    (hlive : client.id ∉ s.host.retired) (request : Bytes) (timeout : Rat) (commandName : String)
    (sbiToken : Bytes) (expectLines : Int) :
    Alone T (sbiExecute client.id request timeout commandName sbiToken expectLines)
      (onSbi client (Sbi.execute T request timeout commandName (some sbiToken) expectLines)) s := by
  by_cases hn : expectLines < 0
  · rw [Alone, sbiExecute, Sbi.execute, if_pos hn, if_pos hn, Async.alone_throw, onHost, exec_zoom,
      exec_onSbi_throw hsbi, exec_throw]
  · have hask : (ask (.sbi client.id request timeout commandName sbiToken expectLines.toNat)).alone
        (ClientCall.perform T) = ClientCall.perform T (.sbi client.id request timeout commandName sbiToken
          expectLines.toNat) := Async.alone_call _
    rw [Alone, sbiExecute, Sbi.execute, if_neg hn, if_neg hn, hask, ClientCall.perform,
      withSbi_current hsbi hlive]

section Dispatch

variable {Req Resp : Type}

theorem exec_liftExcept_keeps {x : Except SartoriusError α} {h h' : Host W} {a : α}
    (hx : (liftExcept x : Py (Host W) α).exec h = (.ok a, h')) : h' = h := by
  cases x <;> cases hx
  rfl

theorem exec_liftExc_keeps {x : Except Exc α} {h h' : Host W} {a : α}
    (hx : (liftExc x : Py (Host W) α).exec h = (.ok a, h')) : h' = h := by
  cases x <;> cases hx
  rfl

theorem alone_executeXbpi (hlive : Live s.host) (command : Command Req Resp) (request : Req)
    (timeout : Option Rat) :
    Alone T (executeXbpi command request timeout) (SartoriusLib.executeXbpi T command request timeout) s := by
  refine Alone.get_bind ?_
  cases command.xbpi with
  | none => exact Alone.here _ s
  | some variant =>
      cases hxbpi : s.host.session.xbpi with
      | none => simp only [hxbpi]; exact Alone.here _ s
      | some client =>
          simp only [hxbpi]
          refine (Alone.here _ s).bind fun requestBytes h hencode => ?_
          obtain rfl : h = s.host := exec_liftExc_keeps hencode
          have hretired : client.id ∉ s.host.retired := hlive.1 client.id (by simp [Session.frame, hxbpi])
          refine ((alone_xbpiExecute hxbpi hretired _ _ _ _).tryCatch fun e h _ => Alone.here _ _).bind
            fun frame h _ => ?_
          exact (Alone.here _ _).bind fun _ h _ => Alone.here _ _

theorem alone_sbiExchange {client : Sbi.SbiClient} (hsbi : s.host.session.sbi = some client)
    (hlive : client.id ∉ s.host.retired) (request : Bytes) (timeout : Rat) (commandName : String)
    (sbiToken : Bytes) (expectLines : Int) :
    Alone T (sbiExchange client.id request timeout commandName sbiToken expectLines)
      (SartoriusLib.sbiExchange T client request timeout commandName sbiToken expectLines) s := by
  refine Alone.get_bind (Alone.ite (fun _ => Alone.throw _ _) fun _ => ?_)
  refine (alone_sbiExecute hsbi hlive _ _ _ _ _).bind fun reply h _ => Alone.get_bind ?_
  exact Alone.ite (fun _ => (Alone.here _ _).bind fun _ h _ => Alone.throw _ _) fun _ => Alone.pure _ _

theorem alone_executeSbi (hlive : Live s.host) (command : Command Req Resp) (request : Req)
    (timeout : Option Rat) :
    Alone T (executeSbi command request timeout) (SartoriusLib.executeSbi T command request timeout) s := by
  refine Alone.get_bind ?_
  cases command.sbi with
  | none => exact Alone.here _ s
  | some variant =>
      cases hsbi : s.host.session.sbi with
      | none => simp only [hsbi]; exact Alone.here _ s
      | some client =>
          simp only [hsbi]
          refine (Alone.here _ s).bind fun requestBytes h hencode => ?_
          obtain rfl : h = s.host := exec_liftExc_keeps hencode
          have hretired : client.id ∉ s.host.retired := hlive.2 client.id (by simp [Session.frame, hsbi])
          refine (alone_sbiExchange hsbi hretired _ _ _ _ _).bind fun reply h _ => ?_
          exact (Alone.here _ _).bind fun _ h _ => Alone.here _ _

theorem alone_execute (hlive : Live s.host) (command : Command Req Resp) (request : Req) (confirm : Bool)
    (timeout : Option Rat) :
    Alone T (execute command request confirm timeout) (SartoriusLib.execute T command request confirm timeout) s := by
  refine Alone.get_bind ((Alone.here _ s).bind fun _ h₁ h => ?_)
  obtain rfl := exec_liftExcept_keeps h
  refine (Alone.here _ s).bind fun _ h₂ h => ?_
  obtain rfl := exec_liftExcept_keeps h
  refine (Alone.here _ s).bind fun _ h₃ h => ?_
  obtain rfl := exec_liftExcept_keeps h
  refine (Alone.here _ s).bind fun _ h₄ h => ?_
  obtain rfl := exec_liftExcept_keeps h
  refine (Alone.here _ s).bind fun _ h₅ h => ?_
  have hkeeps := gatePriors_keeps (K := fun _ : W => True) command s.host ⟨rfl, rfl, trivial⟩
  rw [h] at hkeeps
  have hlive' : Live h₅ := hlive.of_frame hkeeps.1 hkeeps.2.1
  cases s.host.session.active with
  | xbpi => exact alone_executeXbpi hlive' command request timeout
  | sbi => exact alone_executeSbi hlive' command request timeout
  | auto => exact Alone.here _ _

theorem alone_cachedExecute (hlive : Live s.host) (command : Command Req Resp) (request : Req)
    (wrap : Resp → CachedValue) (cacheKey : String) (confirm : Bool) (timeout : Option Rat) :
    Alone T (cachedExecute command request wrap cacheKey confirm timeout)
      (SartoriusLib.cachedExecute T command request wrap cacheKey confirm timeout) s := by
  refine Alone.get_bind (Alone.ite (fun _ => ?_) fun _ => ?_)
  · exact ((alone_execute hlive command request confirm timeout).map wrap).bind fun result h _ =>
      Alone.get_bind (Alone.here _ _)
  · refine (alone_execute hlive Commands.CONFIG_COUNTER () false timeout).bind fun counter h hcounter => ?_
    have hkeeps := configCounter_keeps (Transport.keeps_true T s.host.session.active) timeout s.host
      ⟨rfl, rfl, trivial⟩
    rw [readConfigCounter, hcounter] at hkeeps
    have hlive' : Live h := hlive.of_frame hkeeps.1 hkeeps.2.1
    refine Alone.get_bind ?_
    have hfresh : Alone T
        (do
          let result ← wrap <$> execute command request confirm timeout
          here (modifySession fun s => { s with resultCache := s.resultCache.set cacheKey (counter, result) })
          here (modify fun h' => { h' with origins := h'.origins.set cacheKey h.world })
          here (serve cacheKey result h.world))
        (do
          let result ← wrap <$> SartoriusLib.execute T command request confirm timeout
          modifySession fun s => { s with resultCache := s.resultCache.set cacheKey (counter, result) }
          modify fun h' => { h' with origins := h'.origins.set cacheKey h.world }
          serve cacheKey result h.world) { s with host := h } :=
      ((alone_execute hlive' command request confirm timeout).map wrap).bind fun result h _ =>
        (Alone.here _ _).bind fun _ h _ => (Alone.here _ _).bind fun _ h _ => Alone.here _ _
    cases h.session.resultCache.get? cacheKey with
    | none => exact hfresh
    | some entry => exact Alone.ite (fun _ => Alone.here _ _) fun _ => hfresh

end Dispatch

theorem alone_executeRawXbpi (hlive : Live s.host) (opcode : Int) (args : Bytes) (confirm : Bool)
    (timeout : Option Rat) :
    Alone T (executeRawXbpi opcode args confirm timeout)
      (SartoriusLib.executeRawXbpi T opcode args confirm timeout) s := by
  refine Alone.get_bind ((Alone.here _ s).bind fun _ h hcheck => ?_)
  obtain rfl := exec_liftExcept_keeps hcheck
  refine Alone.ite (fun _ => Alone.here _ _) fun _ => ?_
  cases hxbpi : s.host.session.xbpi with
  | none => exact Alone.here _ _
  | some client =>
      refine Alone.ite (fun _ => Alone.here _ _) fun _ => (Alone.here _ _).bind fun requestBytes h hbuild => ?_
      obtain rfl := exec_liftExcept_keeps hbuild
      exact alone_xbpiExecute hxbpi (hlive.1 client.id (by simp [Session.frame, hxbpi])) _ _ _ _

theorem alone_executeRawSbi (hlive : Live s.host) (command : Sbi.SbiCommand) (confirm : Bool)
    (timeout : Option Rat) (expectLines : Int) :
    Alone T (executeRawSbi command confirm timeout expectLines)
      (SartoriusLib.executeRawSbi T command confirm timeout expectLines) s := by
  refine Alone.get_bind ((Alone.here _ s).bind fun _ h hcheck => ?_)
  obtain rfl := exec_liftExcept_keeps hcheck
  refine Alone.ite (fun _ => Alone.here _ _) fun _ => ?_
  cases hsbi : s.host.session.sbi with
  | none => exact Alone.here _ _
  | some client =>
      refine (Alone.here _ _).bind fun token h htoken => Alone.ite (fun _ => Alone.here _ _) fun _ => ?_
      obtain rfl : h = s.host := exec_liftExc_keeps htoken
      exact alone_sbiExchange hsbi (hlive.2 client.id (by simp [Session.frame, hsbi])) _ _ _ _ _

/-! ### Unsolicited lines -/

theorem requireSbi_ok {name refusal : String} {client : Sbi.SbiClient} {h h' : Host W}
    (hrun : (requireSbi name refusal).exec h = (.ok client, h')) : h' = h ∧ h.session.sbi = some client := by
  rw [requireSbi, exec_bind_ok (exec_get h)] at hrun
  dsimp only at hrun
  split at hrun
  · cases hrun
  · split at hrun
    · cases hrun
    · rename_i c hsbi
      cases hrun
      exact ⟨rfl, hsbi⟩

theorem alone_readLine {client : Sbi.SbiClient} (hsbi : s.host.session.sbi = some client)
    (hlive : client.id ∉ s.host.retired) (timeout : Rat) :
    Alone T (readLine client.id timeout) (onSbi client (Sbi.readLine T timeout)) s := by
  have hask : (readLine client.id timeout).alone (ClientCall.perform T) =
      ClientCall.perform T (.readLine client.id timeout) := Async.alone_call _
  rw [Alone, hask, ClientCall.perform, withSbi_current hsbi hlive]

theorem alone_refreshSbiAutoprintState (hlive : Live s.host) (clock : List Rat) :
    Alone T (refreshSbiAutoprintState clock) (SartoriusLib.refreshSbiAutoprintState T clock) s := by
  refine (Alone.here _ s).bind fun client h hrequire => ?_
  obtain ⟨rfl, hsbi⟩ := requireSbi_ok hrequire
  have hask : (ask (.refresh client.id clock)).alone (ClientCall.perform T) =
      ClientCall.perform T (.refresh client.id clock) := Async.alone_call _
  rw [Alone, hask, ClientCall.perform,
    withSbi_current hsbi (hlive.2 client.id (by simp [Session.frame, hsbi]))]

theorem alone_readSbiLine (hlive : Live s.host) (timeout : Option Rat) :
    Alone T (readSbiLine timeout) (SartoriusLib.readSbiLine T timeout) s := by
  refine Alone.get_bind ((Alone.here _ s).bind fun client h hrequire => ?_)
  obtain ⟨rfl, hsbi⟩ := requireSbi_ok hrequire
  exact alone_readLine hsbi (hlive.2 client.id (by simp [Session.frame, hsbi])) _

/-- The host after a call on its SBI client. -/
abbrev afterSbi (h : Host W) (link : Sbi.SbiLink W) : Host W :=
  { h with world := link.world, session := { h.session with sbi := some link.client } }

theorem alone_currentSbi {client : Sbi.SbiClient} (hsbi : s.host.session.sbi = some client) (name : String) :
    ((currentSbi name).alone (ClientCall.perform T)).exec s = (.ok client, s) := by
  rw [currentSbi, Async.alone_bind, here, Async.alone_lift, onHost, exec_bind_ok (exec_zoom _ _ _ _)]
  dsimp only [exec_get]
  rw [hsbi]
  rfl

/-- One round of an autoprint read: the lookup of the client, its line, and what follows the line. -/
theorem alone_round {client : Sbi.SbiClient} (hsbi : s.host.session.sbi = some client)
    (hlive : client.id ∉ s.host.retired) (remaining : Rat) {f : Sbi.SbiReply → Caller W α}
    {g : Sbi.SbiReply → Py (Sbi.SbiLink W) α}
    (hf : ∀ reply link, (Sbi.readLine T remaining).exec ⟨client, s.host.world⟩ = (.ok reply, link) →
      Alone T (f reply) (onSbi link.client (g reply)) { s with host := afterSbi s.host link }) :
    Alone T (currentSbi "read_line" >>= fun c => readLine c.id remaining >>= f)
      (onSbi client (Sbi.readLine T remaining >>= g)) s := by
  have hread := alone_readLine (T := T) hsbi hlive remaining
  rw [Alone, onHost, exec_zoom, onSbi, exec_ofFun] at hread
  rw [Alone, Async.alone_bind, exec_bind_ok (alone_currentSbi hsbi _), Async.alone_bind, onHost, exec_zoom, onSbi,
    exec_ofFun]
  rcases hline : (Sbi.readLine T remaining).exec ⟨client, s.host.world⟩ with ⟨e | reply, link⟩
  · rw [hline] at hread
    rw [exec_bind_error hread, exec_bind_error hline]
  · rw [hline] at hread
    rw [exec_bind_ok hread, exec_bind_ok hline]
    exact hf reply link hline

theorem alone_markRead (reading : Reading) (link : Sbi.SbiLink W) :
    Alone T
      (do
        let _ ← currentSbi "mark_autoprint_active"
        here (modifySession fun s => { s with sbi := s.sbi.map (·.markAutoprintActive) })
        pure reading)
      (onSbi link.client (do
        Sbi.modifyClient (·.markAutoprintActive)
        pure reading)) { s with host := afterSbi s.host link } := by
  rw [Alone, Async.alone_bind, exec_bind_ok (alone_currentSbi rfl _)]
  rfl

/-- The rounds of an autoprint read take the lock again for each line. -/
theorem alone_readAutoprintLoop (later : List Rat) (remaining : Rat) {client : Sbi.SbiClient}
    (hsbi : s.host.session.sbi = some client) (hlive : client.id ∉ s.host.retired) :
    Alone T (readAutoprintLoop later remaining) (onSbi client (SartoriusLib.readAutoprintLoop T later remaining))
      s := by
  induction later generalizing remaining s client with
  | nil =>
      rw [readAutoprintLoop, SartoriusLib.readAutoprintLoop]
      refine alone_round hsbi hlive remaining fun reply link hline => ?_
      cases Sbi.requireReading reply with
      | ok reading => exact alone_markRead reading link
      | error e => rfl
  | cons next later ih =>
      rw [readAutoprintLoop, SartoriusLib.readAutoprintLoop]
      refine alone_round hsbi hlive remaining fun reply link hline => ?_
      cases Sbi.requireReading reply with
      | ok reading => exact alone_markRead reading link
      | error e =>
          have hid : link.client.id = client.id := by
            have hkeeps := Sbi.readLine_keeps (Transport.keeps_true T .sbi) remaining "sbi_autoprint"
              ⟨client, s.host.world⟩ ⟨rfl, trivial⟩
            rw [hline] at hkeeps
            exact hkeeps.1
          exact ih next rfl (hid ▸ hlive)

theorem alone_readSbiAutoprintReading (hlive : Live s.host) (remaining : Rat) (clock : List Rat) :
    Alone T (readSbiAutoprintReading remaining clock)
      (SartoriusLib.readSbiAutoprintReading T remaining clock) s := by
  refine Alone.get_bind ((Alone.here _ s).bind fun client h hrequire => ?_)
  obtain ⟨rfl, hsbi⟩ := requireSbi_ok hrequire
  exact alone_readAutoprintLoop _ _ hsbi (hlive.2 client.id (by simp [Session.frame, hsbi]))

theorem alone_poll (hlive : Live s.host) (remaining : Rat) (clock : List Rat) :
    Alone T (poll remaining clock) (Balance.poll T remaining clock) s :=
  Alone.get_bind (Alone.ite (fun _ => alone_readSbiAutoprintReading hlive _ _) fun _ =>
    alone_execute hlive _ _ _ _)

theorem alone_readNet (hlive : Live s.host) (hires : Int) (remaining : Rat) (clock : List Rat) :
    Alone T (readNet hires remaining clock) (Balance.readNet T hires remaining clock) s :=
  Alone.ite (fun _ => alone_poll hlive _ _) fun _ => alone_execute hlive _ _ _ _

theorem alone_readAutoprintSample (hlive : Live s.host) (later : List StreamingSession.ReadClock)
    (first : StreamingSession.ReadClock) :
    Alone T (readAutoprintSample later first) (StreamingSession.readAutoprintSample T later first) s := by
  induction later generalizing s first with
  | nil => exact alone_readSbiAutoprintReading hlive _ _
  | cons next later ih =>
      refine (alone_readSbiAutoprintReading hlive first.1 first.2).tryCatch fun e h hread =>
        Alone.ite (fun _ => ?_) fun _ => Alone.throw _ _
      have hkeeps := readSbiAutoprintReading_keeps (Transport.keeps_true T s.host.session.active) first.1 first.2
        s.host ⟨rfl, rfl, trivial⟩
      rw [hread] at hkeeps
      exact ih (hlive.of_frame hkeeps.1 hkeeps.2.1) next

theorem alone_nextReading (hlive : Live s.host) (mode : StreamingSession.StreamMode)
    (first : StreamingSession.ReadClock) (later : List StreamingSession.ReadClock) :
    Alone T (nextReading mode first later) (StreamingSession.nextReading T mode first later) s := by
  cases mode with
  | poll => exact alone_poll hlive _ _
  | autoprint => exact alone_readAutoprintSample hlive later first

/-- A read of a sample, alone, with the stream beside the balance. -/
theorem alone_readSample (hlive : Live s.host) (stream : StreamingSession.Stream) (mode : StreamingSession.StreamMode)
    (m : StreamingSession.Moment) :
    ((readSample mode m).alone (ClientCall.perform T)).exec s =
      (((StreamingSession.readSample T mode m).exec ⟨stream, s.host⟩).1,
        { s with host := ((StreamingSession.readSample T mode m).exec ⟨stream, s.host⟩).2.host }) := by
  have hread := alone_nextReading (T := T) hlive mode m.first m.later
  rw [Alone, onHost, exec_zoom] at hread
  rw [readSample, Async.alone_bind]
  rcases StreamingSession.readSample_cases T mode m ⟨stream, s.host⟩ with
    ⟨e, h, hx, hsample⟩ | ⟨reading, h, hx, hsample⟩
  · rw [hx] at hread
    rw [exec_bind_error hread, hsample]
  · rw [hx] at hread
    rw [exec_bind_ok hread, hsample]
    rfl

/-- An entry that nobody interrupts is `__aenter__`. -/
theorem alone_aenter (hlive : Live s.host) (stream : StreamingSession.Stream) (m : StreamingSession.Moment) :
    ((aenter stream m).alone (ClientCall.perform T)).exec s =
      (((StreamingSession.aenter T m).exec ⟨stream, s.host⟩).1.map fun _ =>
          ((StreamingSession.aenter T m).exec ⟨stream, s.host⟩).2.stream.pending,
        { s with host := ((StreamingSession.aenter T m).exec ⟨stream, s.host⟩).2.host }) := by
  rw [aenter, Async.alone_bind,
    exec_bind_ok (show ((here get).alone (ClientCall.perform T)).exec s = (.ok s.host, s) from rfl)]
  by_cases hentered : stream.entered = true
  · rw [StreamingSession.aenter_active hentered]
    simp only [hentered, if_true]
    rfl
  rw [StreamingSession.aenter_inactive (Bool.eq_false_iff.mpr hentered)]
  simp only [hentered, Bool.false_eq_true, if_false]
  rw [StreamingSession.enterMode, exec_bind_ok (exec_get _)]
  have hmode : (stream.begun m.now).mode = stream.mode := rfl
  cases hm : stream.mode with
  | poll =>
      simp only [hmode, hm]
      by_cases hprints : s.host.session.sbiAutoprintActive = true
      · simp only [hprints, if_true]
        rfl
      · simp only [hprints, Bool.false_eq_true, if_false]
        rfl
  | autoprint =>
      simp only [hmode, hm]
      by_cases hactive : s.host.session.active = .sbi
      · by_cases htemporary : stream.temporaryAutoprint = true
        · have hbegun : (stream.begun m.now).temporaryAutoprint = true := htemporary
          have hconfirm : (stream.begun m.now).confirm = stream.confirm := rfl
          cases hc : stream.confirm <;> simp [hactive, htemporary, hbegun, hconfirm, hc] <;> rfl
        · have hbegun : (stream.begun m.now).temporaryAutoprint = false := Bool.eq_false_iff.mpr htemporary
          simp only [hactive, htemporary, hbegun, ne_eq, not_true_eq_false, Bool.false_eq_true, if_false]
          have hread := alone_readSample (T := T) hlive (stream.begun m.now) .autoprint m
          rw [Async.alone_bind, exec_bind, exec_bind, hread]
          rcases (StreamingSession.readSample T .autoprint m).exec ⟨stream.begun m.now, s.host⟩ with ⟨e | sample, a⟩
          · rfl
          · rfl
      · simp only [hactive, ne_eq, not_false_eq_true, if_true]
        rfl

/-- An iteration that nobody interrupts is `__anext__`. -/
theorem alone_anext (hlive : Live s.host) (stream : StreamingSession.Stream) (m : StreamingSession.Moment) :
    ((anext stream m).alone (ClientCall.perform T)).exec s =
      (((StreamingSession.anext T m).exec ⟨stream, s.host⟩).1,
        { s with host := ((StreamingSession.anext T m).exec ⟨stream, s.host⟩).2.host }) := by
  by_cases hentered : stream.entered = true
  swap
  · simp only [anext, StreamingSession.anext, exec_bind_ok (exec_get _), hentered, Bool.false_eq_true,
      not_false_eq_true, if_true]
    rfl
  cases hpending : stream.pending with
  | some sample =>
      simp only [anext, StreamingSession.anext, exec_bind_ok (exec_get _), hentered, not_true_eq_false, if_false,
        hpending]
      rfl
  | none =>
      rw [StreamingSession.anext_entered hentered hpending]
      simp only [anext, hentered, not_true_eq_false, if_false, hpending]
      cases hm : stream.mode with
      | autoprint => exact alone_readSample hlive stream .autoprint m
      | poll =>
          by_cases hrate : stream.rateHz = none
          · simp only [hrate, if_true, StreamingSession.pollSample, exec_bind_ok (exec_get _)]
            rfl
          · have hpoll := StreamingSession.pollSample_exec (T := T) (m := m) (a := ⟨stream, s.host⟩) hrate
            simp only [hrate, if_false, hpoll]
            exact alone_readSample hlive { stream with tick := stream.tick + 1 } .poll m

theorem hasActiveLock_eq (s : Session) : Balance.hasActiveLock s = (activeLock s).isSome := by
  unfold Balance.hasActiveLock activeLock
  cases s.active <;> cases s.xbpi <;> simp

/-- A switch that nobody interrupts, and the identification behind it, are `configure_protocol`. -/
theorem alone_configureProtocol (r : Balance.SwitchRequest) (s : Shared W) :
    (Balance.configureProtocol T r).exec s.host =
      match ((configureProtocol r).alone (ClientCall.perform T)).exec s with
      | (.ok (some info), t) => (.ok info, t.host)
      | (.ok none, t) => (Balance.identify T).exec t.host
      | (.error e, t) => (.error e, t.host) := by
  rw [configureProtocol, Balance.configureProtocol]
  by_cases htarget : r.target = .auto
  · rw [if_pos htarget, if_pos htarget]; rfl
  rw [if_neg htarget, if_neg htarget]
  by_cases hconfirm : ¬ r.confirm
  · rw [if_pos hconfirm, if_pos hconfirm]; rfl
  rw [if_neg hconfirm, if_neg hconfirm, exec_bind_ok (exec_get s.host), Async.alone_bind,
    exec_bind_ok (show ((here get).alone (ClientCall.perform T)).exec s = (.ok s.host, s) from rfl)]
  cases hstate : s.host.session.checkState with
  | error e => rfl
  | ok u =>
  rw [exec_bind_ok (exec_liftExcept_ok u s.host), Async.alone_bind,
    exec_bind_ok (show ((here (liftExcept (.ok u))).alone (ClientCall.perform T)).exec s = (.ok u, s) from rfl)]
  by_cases hsame : r.target = s.host.session.active ∧ r.noFramingChange
  · rw [if_pos hsame, if_pos hsame, Async.alone_pure, exec_pure]
    cases s.host.info <;> rfl
  rw [if_neg hsame, if_neg hsame]
  by_cases hnone : s.host.session.xbpi.isNone ∧ s.host.session.sbi.isNone
  · rw [if_pos hnone, if_pos hnone]; rfl
  rw [if_neg hnone, if_neg hnone, hasActiveLock_eq]
  cases hlock : activeLock s.host.session with
  | none => rfl
  | some client =>
      have hask : (ask (.configure client r s.host.session)).alone (ClientCall.perform T) =
          performSwitch T r s.host.session := Async.alone_call _
      dsimp only [Option.isSome_some]
      rw [if_neg (by simp), Async.alone_bind, hask, exec_bind, exec_bind, exec_performSwitch]
      cases (Balance.switchProtocol T r s.host.session).exec s.host with
      | mk result h => cases result <;> rfl

end Caller

end SartoriusLib
