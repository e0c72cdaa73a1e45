import SartoriusLib.Lib.Run
import SartoriusLib.Devices.Callers

/-!
# The interleavings of callers

A system is a balance with the tasks that wait for an answer. Its steps start a task, serve the call of a waiting
task or cancel one that waits. Every step is logged.
-/

namespace SartoriusLib

open Lib

variable {W : Type}

/-- A call on the balance. -/
inductive Path : Type 1 where
  | execute {Req Resp : Type} (command : Command Req Resp) (request : Req) (confirm : Bool)
      (timeout : Option Rat)
  | cachedExecute {Req Resp : Type} (command : Command Req Resp) (request : Req) (wrap : Resp → CachedValue)
      (cacheKey : String) (confirm : Bool) (timeout : Option Rat)
  | executeRawXbpi (opcode : Int) (args : Bytes) (confirm : Bool) (timeout : Option Rat)
  | executeRawSbi (command : Sbi.SbiCommand) (confirm : Bool) (timeout : Option Rat) (expectLines : Int)
  | readSbiLine (timeout : Option Rat)
  | readSbiAutoprintReading (remaining : Rat) (clock : List Rat)
  | refreshSbiAutoprintState (clock : List Rat)
  | poll (remaining : Rat) (clock : List Rat)
  | readNet (hires : Int) (remaining : Rat) (clock : List Rat)
  /-- A stream is entered and asked for its first sample. -/
  | stream (s : StreamingSession.Stream) (entry first : StreamingSession.Moment)
  /-- A stream that was entered before is asked for a sample. -/
  | nextSample (s : StreamingSession.Stream) (m : StreamingSession.Moment)
  | configureProtocol (r : Balance.SwitchRequest)

namespace Path

/-- The task of a call, without the value that it returns. -/
def caller : Path → Caller W Unit
  | execute command request confirm timeout => do
      let _ ← Caller.execute command request confirm timeout
  | cachedExecute command request wrap cacheKey confirm timeout => do
      let _ ← Caller.cachedExecute command request wrap cacheKey confirm timeout
  | executeRawXbpi opcode args confirm timeout => do
      let _ ← Caller.executeRawXbpi opcode args confirm timeout
  | executeRawSbi command confirm timeout expectLines => do
      let _ ← Caller.executeRawSbi command confirm timeout expectLines
  | readSbiLine timeout => do
      let _ ← Caller.readSbiLine timeout
  | readSbiAutoprintReading remaining clock => do
      let _ ← Caller.readSbiAutoprintReading remaining clock
  | refreshSbiAutoprintState clock => do
      let _ ← Caller.refreshSbiAutoprintState clock
  | poll remaining clock => do
      let _ ← Caller.poll remaining clock
  | readNet hires remaining clock => do
      let _ ← Caller.readNet hires remaining clock
  | stream s entry first => do
      let _ ← Caller.stream s entry first
  | nextSample s m => do
      let _ ← Caller.anext s m
  | configureProtocol r => do
      let _ ← Caller.configureProtocol r

/-- The call dispatches to the device; `configure_protocol` is a lifecycle operation. -/
def dispatches : Path → Bool
  | configureProtocol _ => false
  | _ => true

end Path

/-- A task of a caller. -/
abbrev CallerTask (W : Type) : Type := Resumption Exc (Shared W) ClientCall.Answer Unit

/-- A task that waits; it is late when it is a dispatch that began on a broken session. -/
structure Waiting (W : Type) where
  task : CallerTask W
  late : Bool

def Waiting.client? (w : Waiting W) : Option Nat :=
  match w.task with
  | .done _ => none
  | .ask c _ _ => some c.client

/-- One step of a task: the call that was served, if any, and how the task ended, if it did. -/
structure Entry (W : Type) where
  late : Bool
  call : Option ClientCall
  before : Shared W
  after : Shared W
  ended : Option (Except Exc Unit)

structure System (W : Type) where
  shared : Shared W
  /-- In the order in which the calls were made. -/
  waiting : List (Waiting W) := []
  log : List (Entry W) := []

inductive Event : Type 1 where
  | start (path : Path)
  | serve (i : Nat)
  | cancel (i : Nat)

/-! ## What happens without a client call -/

/-- What only a call on a client changes. -/
structure Fixed (W : Type) where
  world : W
  frame : Session.Frame
  retired : List Nat
  nextId : Nat

def Host.fixed (h : Host W) : Fixed W where
  world := h.world
  frame := h.session.frame
  retired := h.retired
  nextId := h.nextId

def Shared.fixed (s : Shared W) : Fixed W := s.host.fixed

/-- Autoprint output was found in a reply. -/
def Shared.marked (s : Shared W) (raw : Bytes) : Shared W :=
  let session := s.host.session
  { s with host := { s.host with session := { session with sbi := session.sbi.map (·.markAutoprintActive raw) } } }

def IsConnectionError (e : Exc) : Prop := e.isinstance .connectionError = true

/-- An exchange of SBI lines, whose reply is looked at for autoprint output. -/
def ClientCall.isExchange : ClientCall → Bool
  | .sbi .. => true
  | _ => false

/-- The answers that end a caller: a connection error, and a reply in which autoprint output is found. -/
inductive Ends : (c : ClientCall) → Except Exc c.Answer → Shared W → Exc → Shared W → Prop where
  | connection {c : ClientCall} {e : Exc} {s : Shared W} (h : IsConnectionError e) : Ends c (.error e) s e s
  | surprise {client : Nat} {request : Bytes} {timeout : Rat} {commandName : String} {sbiToken : Bytes}
      {expectLines : Nat} {reply : Sbi.SbiReply} {s : Shared W}
      (h : replyIsSurpriseAutoprint s.host.session.sbi reply sbiToken = true) :
      Ends (.sbi client request timeout commandName sbiToken expectLines) (.ok reply) s
        (.sartorius (autoprintActiveError commandName (some sbiToken))) (s.marked reply.raw)

/-- The classes for which some caller handles an error. -/
def handledClasses : List ErrorClass :=
  [.timeoutError, .parseError, .unsupportedCommandError, .operationNotApplicableError]

theorem IsConnectionError.not_handled {e : Exc} (h : IsConnectionError e) {cls : ErrorClass}
    (hcls : cls ∈ handledClasses) : e.isinstance cls = false := by
  have hclass (d : ErrorClass) : d.issubclass .connectionError = true → d.issubclass cls = false := by
    rcases (by simpa [handledClasses] using hcls : cls = .timeoutError ∨ cls = .parseError ∨
      cls = .unsupportedCommandError ∨ cls = .operationNotApplicableError) with rfl | rfl | rfl | rfl <;>
      cases d <;> decide
  cases e with
  | sartorius e => exact hclass e.cls h
  | _ => rfl

theorem Ends.not_handled {c : ClientCall} {x : Except Exc c.Answer} {s s' : Shared W} {e : Exc}
    (h : Ends c x s e s') {cls : ErrorClass} (hcls : cls ∈ handledClasses) : e.isinstance cls = false := by
  cases h with
  | connection he => exact he.not_handled hcls
  | surprise =>
      have hall : ∀ cls ∈ handledClasses, ErrorClass.autoprintActiveError.issubclass cls = false := by decide
      exact hall cls hcls

section Callers

open Prog

variable {α : Type}

theorem modifySession_fixed (f : Session → Session) (hf : ∀ s, (f s).frame = s.frame) :
    Leaves Host.fixed (modifySession f : Py (Host W) Unit) :=
  .modify fun h => by simp only [Host.fixed, hf h.session]

theorem markAutoprintActive_fixed (pending : Bytes) :
    Leaves Host.fixed (modifySession (W := W) fun s =>
      { s with sbi := s.sbi.map fun c => c.markAutoprintActive pending }) :=
  modifySession_fixed _ fun s => by cases h : s.sbi <;> simp [Session.frame, h]

theorem liftExc_fixed (x : Except Exc α) : Leaves Host.fixed (liftExc x : Py (Host W) α) := by
  cases x <;> exact fun _ => rfl

theorem liftExcept_fixed (x : Except SartoriusError α) : Leaves Host.fixed (liftExcept x : Py (Host W) α) := by
  cases x <;> exact fun _ => rfl

theorem gatePriors_fixed {Req Resp : Type} (command : Command Req Resp) :
    Leaves Host.fixed (gatePriors command : Py (Host W) Unit) :=
  Leaves.get.bind fun _ => .ite (fun _ => .pure _) fun _ => .ite (fun _ => .throw _) fun _ =>
    .ite (fun _ => .pure _) fun _ => (modifySession_fixed _ (by intro _; rfl)).bind fun _ => Leaves.get.bind fun _ =>
      .ite (fun _ => .throw _) fun _ => .pure _

theorem xbpiRefused_fixed {Req Resp : Type} (command : Command Req Resp) (e : Exc) :
    Leaves Host.fixed (xbpiRefused command e : Py (Host W) α) := by
  unfold xbpiRefused
  cases e with
  | sartorius err =>
      exact .ite
        (fun _ => .ite (fun _ => .throw _) fun _ => (modifySession_fixed _ (by intro _; rfl)).bind fun _ => .throw _)
        fun _ => .ite (fun _ => (modifySession_fixed _ (by intro _; rfl)).bind fun _ => .throw _) fun _ => .throw _
  | _ => exact .throw _

theorem serve_fixed (cacheKey : String) (value : CachedValue) (origin : W) :
    Leaves Host.fixed (serve cacheKey value origin) :=
  Leaves.bind (.modify fun _ => rfl) fun _ => .pure _

theorem requireSbi_fixed (name refusal : String) :
    Leaves Host.fixed (requireSbi name refusal : Py (Host W) Sbi.SbiClient) := by
  refine Leaves.get.bind fun h => .ite (fun _ => .throw _) fun _ => ?_
  split
  · exact .throw _
  · exact .pure _

/-- The caller leaves alone what is not its own to change, and the answers that end callers end it. -/
abbrev Obeys (m : Caller W α) : Prop := Async.Obeys Shared.fixed Ends m

namespace Caller

theorem here_obeys {m : Py (Host W) α} (hm : Leaves Host.fixed m) : Obeys (here m) :=
  .lift fun s => hm s.host

theorem raise_obeys (cls : ErrorClass) (message : String) (context : ErrorContext) :
    Obeys (here (raise cls message context) : Caller W α) :=
  here_obeys (.throw _)

theorem ask_obeys {c : ClientCall} (hc : c.isExchange = false) : Obeys (ask c : Caller W c.Answer) := by
  refine .call fun x s e s' h => ?_
  cases h with
  | connection => exact ⟨rfl, rfl⟩
  | surprise => cases hc

/-- What follows the reply to an exchange. -/
theorem surpriseTest_obeys (commandName : String) (sbiToken : Bytes) (reply : Sbi.SbiReply) :
    Obeys (do
      if replyIsSurpriseAutoprint (← here get).session.sbi reply sbiToken then do
        here (modifySession fun s => { s with sbi := s.sbi.map (·.markAutoprintActive reply.raw) })
        throw (.sartorius (autoprintActiveError commandName (some sbiToken)))
      else pure reply : Caller W Sbi.SbiReply) :=
  (here_obeys .get).bind fun _ =>
    .ite (fun _ => (here_obeys (markAutoprintActive_fixed reply.raw)).bind fun _ => .throw _) fun _ => .pure _

theorem sbiExchange_obeys (client : Nat) (request : Bytes) (timeout : Rat) (commandName : String)
    (sbiToken : Bytes) (expectLines : Int) :
    Obeys (sbiExchange client request timeout commandName sbiToken expectLines : Caller W _) := by
  refine (here_obeys .get).bind fun _ => .ite (fun _ => .throw _) fun _ => ?_
  unfold sbiExecute
  split
  · exact Async.Obeys.bind (.throw _) fun reply => surpriseTest_obeys commandName sbiToken reply
  · refine fun s => ⟨rfl, fun x s => ?_⟩
    cases x with
    | error e =>
        refine ⟨rfl, trivial, fun e' s' h => ?_⟩
        cases h
        exact ⟨rfl, rfl⟩
    | ok reply =>
        obtain ⟨hsame, hrest⟩ := surpriseTest_obeys commandName sbiToken reply s
        refine ⟨hsame, hrest, fun e' s' h => ?_⟩
        cases h with
        | surprise hsurprise =>
            have hmarked : ((do
                if replyIsSurpriseAutoprint (← here get).session.sbi reply sbiToken then do
                  here (modifySession fun s => { s with sbi := s.sbi.map (·.markAutoprintActive reply.raw) })
                  throw (.sartorius (autoprintActiveError commandName (some sbiToken)))
                else pure reply : Caller W Sbi.SbiReply)) s =
                (.done (.error (.sartorius (autoprintActiveError commandName (some sbiToken)))),
                  s.marked reply.raw) := by
              rw [here_bind_ok (exec_get s.host), if_pos hsurprise]
              rfl
            exact ⟨congrArg Prod.fst hmarked, congrArg Prod.snd hmarked⟩

section Dispatch

variable {Req Resp : Type}

/-- The errors that end a caller are none of those that say something about the command. -/
theorem xbpiRefused_ends (command : Command Req Resp) {e : Exc}
    (hunsupported : e.isinstance .unsupportedCommandError = false)
    (hinapplicable : e.isinstance .operationNotApplicableError = false) (s : Shared W) :
    (here (xbpiRefused command e) : Caller W α) s = (.done (.error e), s) := by
  cases e with
  | sartorius err =>
      simp only [Exc.isinstance_sartorius] at hunsupported hinapplicable
      simp only [xbpiRefused, hunsupported, hinapplicable, Bool.false_eq_true, if_false]
      rfl
  | _ => rfl

theorem executeXbpi_obeys (command : Command Req Resp) (request : Req) (timeout : Option Rat) :
    Obeys (executeXbpi command request timeout : Caller W Resp) := by
  refine (here_obeys .get).bind fun h => ?_
  split
  · exact raise_obeys _ _ _
  rename_i variant _
  dsimp only
  split
  · exact raise_obeys _ _ _
  rename_i client _
  refine (here_obeys (liftExc_fixed _)).bind fun requestBytes => ?_
  have hcall : Obeys (tryCatch (ask (.xbpi client.id requestBytes (timeout.getD h.session.defaultTimeout)
      command.name (some variant.opcode))) fun e => here (xbpiRefused command e) : Caller W _) :=
    .tryCatch (ask_obeys rfl) (fun e => here_obeys (xbpiRefused_fixed command e)) fun c x s e s' h =>
      xbpiRefused_ends command (h.not_handled (by decide)) (h.not_handled (by decide)) s'
  refine Async.Obeys.bind hcall fun _ => ?_
  exact (here_obeys (modifySession_fixed _ (by intro _; rfl))).bind fun _ => here_obeys (liftExc_fixed _)

theorem executeSbi_obeys (command : Command Req Resp) (request : Req) (timeout : Option Rat) :
    Obeys (executeSbi command request timeout : Caller W Resp) := by
  refine (here_obeys .get).bind fun h => ?_
  split
  · exact raise_obeys _ _ _
  dsimp only
  split
  · exact raise_obeys _ _ _
  exact (here_obeys (liftExc_fixed _)).bind fun _ => (sbiExchange_obeys _ _ _ _ _ _).bind fun _ =>
    (here_obeys (modifySession_fixed _ (by intro _; rfl))).bind fun _ => here_obeys (liftExc_fixed _)

theorem execute_obeys (command : Command Req Resp) (request : Req) (confirm : Bool) (timeout : Option Rat) :
    Obeys (execute command request confirm timeout : Caller W Resp) := by
  refine (here_obeys .get).bind fun h => (here_obeys (liftExcept_fixed _)).bind fun _ =>
    (here_obeys (liftExcept_fixed _)).bind fun _ => (here_obeys (liftExcept_fixed _)).bind fun _ =>
      (here_obeys (liftExcept_fixed _)).bind fun _ => (here_obeys (gatePriors_fixed command)).bind fun _ => ?_
  split
  · exact executeXbpi_obeys command request timeout
  · exact executeSbi_obeys command request timeout
  · exact raise_obeys _ _ _

theorem cachedExecute_obeys (command : Command Req Resp) (request : Req) (wrap : Resp → CachedValue)
    (cacheKey : String) (confirm : Bool) (timeout : Option Rat) :
    Obeys (cachedExecute command request wrap cacheKey confirm timeout : Caller W CachedValue) := by
  have hrun := (execute_obeys (W := W) command request confirm timeout).map wrap
  refine (here_obeys .get).bind fun _ => .ite
    (fun _ => hrun.bind fun _ => (here_obeys .get).bind fun _ => here_obeys (serve_fixed _ _ _)) fun _ => ?_
  refine (execute_obeys _ _ _ _).bind fun counter => (here_obeys .get).bind fun h => ?_
  have hfresh := hrun.bind fun result =>
    (here_obeys (modifySession_fixed (fun s =>
      { s with resultCache := s.resultCache.set cacheKey (counter, result) }) fun _ => rfl)).bind fun _ =>
    (here_obeys (Leaves.modify (f := Host.fixed) (g := fun h' : Host W =>
      { h' with origins := h'.origins.set cacheKey h.world }) fun _ => rfl)).bind fun _ =>
    here_obeys (serve_fixed cacheKey result h.world)
  dsimp only
  split
  · exact .ite (fun _ => here_obeys (serve_fixed _ _ _)) fun _ => hfresh
  · exact hfresh

end Dispatch

theorem executeRawXbpi_obeys (opcode : Int) (args : Bytes) (confirm : Bool) (timeout : Option Rat) :
    Obeys (executeRawXbpi opcode args confirm timeout : Caller W _) := by
  refine (here_obeys .get).bind fun h => (here_obeys (liftExcept_fixed _)).bind fun _ =>
    .ite (fun _ => raise_obeys _ _ _) fun _ => ?_
  split
  · exact raise_obeys _ _ _
  · exact .ite (fun _ => raise_obeys _ _ _) fun _ => (here_obeys (liftExcept_fixed _)).bind fun _ => ask_obeys rfl

theorem executeRawSbi_obeys (command : Sbi.SbiCommand) (confirm : Bool) (timeout : Option Rat) (expectLines : Int) :
    Obeys (executeRawSbi command confirm timeout expectLines : Caller W _) := by
  refine (here_obeys .get).bind fun h => (here_obeys (liftExcept_fixed _)).bind fun _ =>
    .ite (fun _ => raise_obeys _ _ _) fun _ => ?_
  split
  · exact raise_obeys _ _ _
  · exact (here_obeys (liftExc_fixed _)).bind fun _ =>
      .ite (fun _ => raise_obeys _ _ _) fun _ => sbiExchange_obeys _ _ _ _ _ _

theorem refreshSbiAutoprintState_obeys (clock : List Rat) :
    Obeys (refreshSbiAutoprintState clock : Caller W Bool) :=
  (here_obeys (requireSbi_fixed _ _)).bind fun _ => ask_obeys rfl

theorem readSbiLine_obeys (timeout : Option Rat) : Obeys (readSbiLine timeout : Caller W _) :=
  (here_obeys .get).bind fun _ => (here_obeys (requireSbi_fixed _ _)).bind fun _ => ask_obeys rfl

theorem currentSbi_obeys (name : String) : Obeys (currentSbi name : Caller W _) := by
  refine (here_obeys .get).bind fun h => ?_
  split
  · exact .pure _
  · exact .throw _

theorem readAutoprintLoop_obeys (later : List Rat) (remaining : Rat) :
    Obeys (readAutoprintLoop later remaining : Caller W Reading) := by
  have hmark (reading : Reading) : Obeys (do
      let _ ← currentSbi "mark_autoprint_active"
      here (modifySession fun s => { s with sbi := s.sbi.map (·.markAutoprintActive) })
      pure reading : Caller W Reading) :=
    (currentSbi_obeys _).bind fun _ =>
      (here_obeys (markAutoprintActive_fixed [])).bind fun _ => .pure _
  induction later generalizing remaining with
  | nil =>
      rw [readAutoprintLoop]
      refine (currentSbi_obeys _).bind fun _ => Async.Obeys.bind (ask_obeys rfl) fun reply => ?_
      cases Sbi.requireReading reply with
      | ok reading => exact hmark reading
      | error e => exact .throw _
  | cons next later ih =>
      rw [readAutoprintLoop]
      refine (currentSbi_obeys _).bind fun _ => Async.Obeys.bind (ask_obeys rfl) fun reply => ?_
      cases Sbi.requireReading reply with
      | ok reading => exact hmark reading
      | error e => exact ih next

theorem readSbiAutoprintReading_obeys (remaining : Rat) (clock : List Rat) :
    Obeys (readSbiAutoprintReading remaining clock : Caller W Reading) :=
  (here_obeys .get).bind fun _ => (here_obeys (requireSbi_fixed _ _)).bind fun _ => readAutoprintLoop_obeys _ _

theorem poll_obeys (remaining : Rat) (clock : List Rat) :
    Obeys (poll remaining clock : Caller W Reading) :=
  (here_obeys .get).bind fun _ => .ite (fun _ => readSbiAutoprintReading_obeys _ _) fun _ => execute_obeys _ _ _ _

theorem readAutoprintSample_obeys (later : List StreamingSession.ReadClock) (first : StreamingSession.ReadClock) :
    Obeys (readAutoprintSample later first : Caller W Reading) := by
  induction later generalizing first with
  | nil => exact readSbiAutoprintReading_obeys _ _
  | cons next later ih =>
      refine .tryCatch (readSbiAutoprintReading_obeys _ _) (fun e => ?_) fun c x s e s' h => ?_
      · split
        · exact ih next
        · exact .throw _
      · have hparse : e.isinstance .parseError = false := h.not_handled (by decide)
        simp only [List.any_cons, List.any_nil, hparse, Bool.or_self, Bool.false_eq_true, if_false]
        rfl

theorem nextReading_obeys (mode : StreamingSession.StreamMode) (first : StreamingSession.ReadClock)
    (later : List StreamingSession.ReadClock) :
    Obeys (nextReading mode first later : Caller W Reading) := by
  cases mode with
  | poll => exact poll_obeys _ _
  | autoprint => exact readAutoprintSample_obeys later first

theorem readSample_obeys (mode : StreamingSession.StreamMode) (m : StreamingSession.Moment) :
    Obeys (readSample mode m : Caller W Sample) :=
  (nextReading_obeys _ _ _).bind fun _ => (here_obeys .get).bind fun _ => .pure _

theorem aenter_obeys (stream : StreamingSession.Stream) (m : StreamingSession.Moment) :
    Obeys (aenter stream m : Caller W (Option Sample)) := by
  refine (here_obeys .get).bind fun h => .ite (fun _ => .throw _) fun _ => ?_
  cases stream.mode with
  | poll => exact .ite (fun _ => raise_obeys _ _ _) fun _ => .pure _
  | autoprint =>
      exact .ite (fun _ => raise_obeys _ _ _) fun _ =>
        .ite (fun _ => .ite (fun _ => raise_obeys _ _ _) fun _ => .throw _) fun _ =>
          (readSample_obeys _ _).bind fun _ => .pure _

theorem anext_obeys (stream : StreamingSession.Stream) (m : StreamingSession.Moment) :
    Obeys (anext stream m : Caller W Sample) := by
  refine .ite (fun _ => .throw _) fun _ => ?_
  cases stream.pending with
  | some sample => exact .pure _
  | none =>
      cases stream.mode with
      | autoprint => exact readSample_obeys _ _
      | poll => exact .ite (fun _ => .throw _) fun _ => readSample_obeys _ _

theorem stream_obeys (stream : StreamingSession.Stream) (entry first : StreamingSession.Moment) :
    Obeys (Caller.stream stream entry first : Caller W Sample) :=
  (aenter_obeys _ _).bind fun _ => anext_obeys _ _

theorem configureProtocol_obeys (r : Balance.SwitchRequest) :
    Obeys (configureProtocol r : Caller W _) := by
  refine .ite (fun _ => raise_obeys _ _ _) fun _ => .ite (fun _ => raise_obeys _ _ _) fun _ =>
    (here_obeys .get).bind fun h => (here_obeys (liftExcept_fixed _)).bind fun _ => .ite (fun _ => .pure _) fun _ =>
      .ite (fun _ => .throw _) fun _ => ?_
  split
  · exact raise_obeys _ _ _
  · exact Async.Obeys.bind (ask_obeys rfl) fun _ => .pure _

end Caller

theorem Path.caller_obeys (path : Path) : Obeys (path.caller : Caller W Unit) := by
  cases path with
  | execute command request confirm timeout => exact (Caller.execute_obeys _ _ _ _).bind fun _ => .pure _
  | cachedExecute command request wrap cacheKey confirm timeout =>
      exact (Caller.cachedExecute_obeys _ _ _ _ _ _).bind fun _ => .pure _
  | executeRawXbpi opcode args confirm timeout => exact (Caller.executeRawXbpi_obeys _ _ _ _).bind fun _ => .pure _
  | executeRawSbi command confirm timeout expectLines =>
      exact (Caller.executeRawSbi_obeys _ _ _ _).bind fun _ => .pure _
  | readSbiLine timeout => exact (Caller.readSbiLine_obeys _).bind fun _ => .pure _
  | readSbiAutoprintReading remaining clock =>
      exact (Caller.readSbiAutoprintReading_obeys _ _).bind fun _ => .pure _
  | refreshSbiAutoprintState clock => exact (Caller.refreshSbiAutoprintState_obeys _).bind fun _ => .pure _
  | poll remaining clock => exact (Caller.poll_obeys _ _).bind fun _ => .pure _
  | readNet hires remaining clock =>
      exact Async.Obeys.bind (.ite (fun _ => Caller.poll_obeys _ _) fun _ => Caller.execute_obeys _ _ _ _)
        fun _ => .pure _
  | stream s entry first => exact (Caller.stream_obeys _ _ _).bind fun _ => .pure _
  | nextSample s m => exact (Caller.anext_obeys _ _).bind fun _ => .pure _
  | configureProtocol r => exact (Caller.configureProtocol_obeys r).bind fun _ => .pure _

end Callers

namespace System

/-- A step of a task that leaves `task` and `after`. -/
def advance (s : System W) (late : Bool) (call : Option ClientCall) (task : CallerTask W) (after : Shared W) :
    System W :=
  match task with
  | .done result =>
      { s with shared := after,
               log := s.log ++ [{ late, call, before := s.shared, after, ended := some result }] }
  | .ask .. =>
      { s with shared := after, waiting := s.waiting ++ [{ task, late }],
               log := s.log ++ [{ late, call, before := s.shared, after, ended := none }] }

/-- No call before place `i` waits for the lock of the client. -/
def isFirst (s : System W) (i client : Nat) : Bool := (s.waiting.take i).all fun w => w.client? ≠ some client

def broken (s : Shared W) : Bool := s.host.session.state = .broken

def step (T : Transport W) (s : System W) : Event → Option (System W)
  | .start path =>
      let (task, after) := path.caller s.shared
      some (s.advance (path.dispatches ∧ broken s.shared) none task after)
  | .serve i =>
      match s.waiting[i]? with
      | none => none
      | some w =>
          match w.task with
          | .done _ => none
          | .ask c next after =>
              if s.isFirst i c.client then
                let (answer, t) := (c.perform T).exec s.shared
                some ({ s with waiting := s.waiting.eraseIdx i }.advance w.late (some c) (next answer t)
                  (after answer t))
              else none
  | .cancel i =>
      if i < s.waiting.length then some { s with waiting := s.waiting.eraseIdx i } else none

/-! ## What a step does -/

variable {s s' : System W} {T : Transport W}

theorem mem_waiting_advance {late : Bool} {call : Option ClientCall} {task : CallerTask W} {after : Shared W}
    {w : Waiting W} (h : w ∈ (s.advance late call task after).waiting) : w ∈ s.waiting ∨ w = { task, late } := by
  cases task with
  | done result => exact .inl h
  | ask c next k =>
      rcases List.mem_append.mp h with h | h
      · exact .inl h
      · exact .inr (List.mem_singleton.mp h)

/-- The entry of a step. -/
def entry (before : Shared W) (late : Bool) (call : Option ClientCall) (task : CallerTask W) (after : Shared W) :
    Entry W :=
  { late, call, before, after, ended := match task with | .done result => some result | .ask .. => none }

theorem entry_ended {before after : Shared W} {late : Bool} {call : Option ClientCall} {task : CallerTask W}
    {r : Except Exc Unit} (h : (entry before late call task after).ended = some r) : task = .done r := by
  cases task with
  | done result => exact congrArg Resumption.done (Option.some.inj h)
  | ask c next k => cases h

theorem log_advance (late : Bool) (call : Option ClientCall) (task : CallerTask W) (after : Shared W) :
    (s.advance late call task after).log = s.log ++ [entry s.shared late call task after] := by
  cases task <;> rfl

theorem step_serve {i : Nat} (h : step T s (.serve i) = some s') :
    ∃ late c next after, s.waiting[i]? = some { task := .ask c next after, late } ∧
      s' = { s with waiting := s.waiting.eraseIdx i }.advance late (some c)
        (next ((c.perform T).exec s.shared).1 ((c.perform T).exec s.shared).2)
        (after ((c.perform T).exec s.shared).1 ((c.perform T).exec s.shared).2) := by
  simp only [step] at h
  split at h
  · cases h
  · rename_i w hw
    split at h
    · cases h
    · rename_i c next after htask
      split at h
      · obtain rfl := Option.some.inj h
        obtain ⟨task, late⟩ := w
        subst htask
        exact ⟨late, c, next, after, hw, rfl⟩
      · cases h

end System

end SartoriusLib
