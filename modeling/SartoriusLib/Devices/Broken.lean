import SartoriusLib.Devices.Interleaving
import SartoriusLib.Devices.Switching
import SartoriusLib.Transport.Serial

/-!
# A broken session

The checks of a call refuse a broken session. A call that has passed its checks is not stopped while it waits, and
the reads of unsolicited lines make no such check at all.
-/

namespace SartoriusLib

open Lib Prog

variable {W : Type}

/-- The refusal of a broken session. -/
def brokenError : SartoriusError where
  cls := .connectionError
  message := "session is BROKEN after a failed lifecycle operation; " ++
    "close this session and re-open via open_device(...) to recover"
  context := { extra := [("session_state", .text "broken")] }

theorem checkState_broken {s : Session} (h : s.state = .broken) : s.checkState = .error brokenError := by
  simp [Session.checkState, h, brokenError, SessionState.value]

/-! ## The checks -/

namespace Caller

variable {s : Shared W}

section Checked

variable {Req Resp : Type}

theorem execute_broken (h : s.host.session.state = .broken) (command : Command Req Resp) (request : Req)
    (confirm : Bool) (timeout : Option Rat) :
    execute command request confirm timeout s = (.done (.error (.sartorius brokenError)), s) := by
  rw [execute, here_bind_ok (exec_get s.host), checkState_broken h,
    here_bind_error (exec_liftExcept_error brokenError s.host)]

theorem cachedExecute_broken (h : s.host.session.state = .broken) (command : Command Req Resp) (request : Req)
    (wrap : Resp → CachedValue) (cacheKey : String) (confirm : Bool) (timeout : Option Rat) :
    cachedExecute command request wrap cacheKey confirm timeout s =
      (.done (.error (.sartorius brokenError)), s) := by
  rw [cachedExecute, here_bind_ok (exec_get s.host)]
  split
  · exact Async.bind_of_done (Async.bind_of_done (execute_broken h command request confirm timeout) _) _
  · exact Async.bind_of_done (execute_broken h _ _ _ _) _

end Checked

theorem executeRawXbpi_broken (h : s.host.session.state = .broken) (opcode : Int) (args : Bytes) (confirm : Bool)
    (timeout : Option Rat) :
    executeRawXbpi opcode args confirm timeout s = (.done (.error (.sartorius brokenError)), s) := by
  rw [executeRawXbpi, here_bind_ok (exec_get s.host), checkState_broken h,
    here_bind_error (exec_liftExcept_error brokenError s.host)]

theorem executeRawSbi_broken (h : s.host.session.state = .broken) (command : Sbi.SbiCommand) (confirm : Bool)
    (timeout : Option Rat) (expectLines : Int) :
    executeRawSbi command confirm timeout expectLines s = (.done (.error (.sartorius brokenError)), s) := by
  rw [executeRawSbi, here_bind_ok (exec_get s.host), checkState_broken h,
    here_bind_error (exec_liftExcept_error brokenError s.host)]

/-- A configuration is refused as well, if not for an earlier reason. -/
theorem configureProtocol_broken (h : s.host.session.state = .broken) (r : Balance.SwitchRequest) :
    ∃ e, configureProtocol r s = (.done (.error e), s) := by
  unfold configureProtocol
  split
  · exact ⟨_, rfl⟩
  split
  · exact ⟨_, rfl⟩
  · refine ⟨.sartorius brokenError, ?_⟩
    rw [here_bind_ok (exec_get s.host), checkState_broken h,
      here_bind_error (exec_liftExcept_error brokenError s.host)]

end Caller

/-! ## The reads of unsolicited lines -/

/-- A call that writes nothing. -/
def ClientCall.reads : ClientCall → Prop
  | .readLine .. | .refresh .. => True
  | _ => False

/-- The caller only reads. -/
abbrev Reads {α : Type} (m : Caller W α) : Prop := m.Only ClientCall.reads

namespace Caller

variable {α : Type}

theorem here_reads (m : Py (Host W) α) : Reads (here m) := .lift _

theorem readLine_reads (client : Nat) (timeout : Rat) : Reads (readLine client timeout : Caller W _) := .call trivial

theorem currentSbi_reads (name : String) : Reads (currentSbi name : Caller W _) := by
  refine (here_reads _).bind fun h => ?_
  split
  · exact .pure _
  · exact .throw _

theorem readAutoprintLoop_reads (later : List Rat) (remaining : Rat) :
    Reads (readAutoprintLoop later remaining : Caller W Reading) := by
  have hmark (reading : Reading) : Reads (do
      let _ ← currentSbi "mark_autoprint_active"
      here (modifySession fun s => { s with sbi := s.sbi.map (·.markAutoprintActive) })
      pure reading : Caller W Reading) :=
    (currentSbi_reads _).bind fun _ => (here_reads _).bind fun _ => .pure _
  induction later generalizing remaining with
  | nil =>
      rw [readAutoprintLoop]
      refine (currentSbi_reads _).bind fun _ => (readLine_reads _ _).bind fun reply => ?_
      cases Sbi.requireReading reply with
      | ok reading => exact hmark reading
      | error e => exact .throw _
  | cons next later ih =>
      rw [readAutoprintLoop]
      refine (currentSbi_reads _).bind fun _ => (readLine_reads _ _).bind fun reply => ?_
      cases Sbi.requireReading reply with
      | ok reading => exact hmark reading
      | error e => exact ih next

theorem readSbiAutoprintReading_reads (remaining : Rat) (clock : List Rat) :
    Reads (readSbiAutoprintReading remaining clock : Caller W Reading) :=
  (here_reads _).bind fun _ => (here_reads _).bind fun _ => readAutoprintLoop_reads _ _

theorem readSbiLine_reads (timeout : Option Rat) : Reads (readSbiLine timeout : Caller W _) :=
  (here_reads _).bind fun _ => (here_reads _).bind fun _ => readLine_reads _ _

theorem refreshSbiAutoprintState_reads (clock : List Rat) : Reads (refreshSbiAutoprintState clock : Caller W _) :=
  (here_reads _).bind fun _ => .call trivial

theorem readAutoprintSample_reads (later : List StreamingSession.ReadClock) (first : StreamingSession.ReadClock) :
    Reads (readAutoprintSample later first : Caller W Reading) := by
  induction later generalizing first with
  | nil => exact readSbiAutoprintReading_reads _ _
  | cons next later ih =>
      refine .tryCatch (readSbiAutoprintReading_reads _ _) fun e => ?_
      split
      · exact ih next
      · exact .throw _

theorem readAutoprint_reads (m : StreamingSession.Moment) : Reads (readSample .autoprint m : Caller W Sample) :=
  (readAutoprintSample_reads _ _).bind fun _ => (here_reads _).bind fun _ => .pure _

theorem anext_reads (stream : StreamingSession.Stream) (hmode : stream.mode = .autoprint)
    (m : StreamingSession.Moment) : Reads (anext stream m : Caller W Sample) := by
  unfold anext
  split
  · exact .throw _
  cases stream.pending with
  | some sample => exact .pure _
  | none =>
      rw [hmode]
      exact readAutoprint_reads m

/-! ### They wait for a line -/

variable {s : Shared W} {client : Sbi.SbiClient}

theorem currentSbi_apply (hsbi : s.host.session.sbi = some client) (name : String) :
    (currentSbi name : Caller W _) s = (.done (.ok client), s) := by
  rw [currentSbi, here_bind_ok (Prog.exec_get s.host)]
  simp only [hsbi]
  rfl

theorem readAutoprintLoop_waits (hsbi : s.host.session.sbi = some client) (later : List Rat) (remaining : Rat) :
    (readAutoprintLoop later remaining s : _ × Shared W).1.waits := by
  unfold readAutoprintLoop
  rw [Async.bind_apply, currentSbi_apply hsbi]
  exact Async.bind_waits (Async.call_waits _ _) _

theorem readSbiAutoprintReading_waits (hactive : s.host.session.active = .sbi)
    (hsbi : s.host.session.sbi = some client) (remaining : Rat) (clock : List Rat) :
    (readSbiAutoprintReading remaining clock s : _ × Shared W).1.waits := by
  rw [readSbiAutoprintReading, here_bind_ok (Prog.exec_get s.host),
    here_bind_ok (exec_requireSbi hactive hsbi _ _)]
  exact readAutoprintLoop_waits hsbi _ _

theorem readSbiLine_waits (hactive : s.host.session.active = .sbi) (hsbi : s.host.session.sbi = some client)
    (timeout : Option Rat) : (readSbiLine timeout s : _ × Shared W).1.waits := by
  rw [readSbiLine, here_bind_ok (Prog.exec_get s.host), here_bind_ok (exec_requireSbi hactive hsbi _ _)]
  exact Async.call_waits _ _

theorem refreshSbiAutoprintState_waits (hactive : s.host.session.active = .sbi)
    (hsbi : s.host.session.sbi = some client) (clock : List Rat) :
    (refreshSbiAutoprintState clock s : _ × Shared W).1.waits := by
  rw [refreshSbiAutoprintState, here_bind_ok (exec_requireSbi hactive hsbi _ _)]
  exact Async.call_waits _ _

theorem readAutoprintSample_waits (hactive : s.host.session.active = .sbi)
    (hsbi : s.host.session.sbi = some client) (later : List StreamingSession.ReadClock)
    (first : StreamingSession.ReadClock) : (readAutoprintSample later first s : _ × Shared W).1.waits := by
  cases later with
  | nil => exact readSbiAutoprintReading_waits hactive hsbi _ _
  | cons next later => exact Async.tryCatch_waits (readSbiAutoprintReading_waits hactive hsbi _ _) _

end Caller

/-! ## Calls on a broken session -/

/-- What becomes of a refused call: it has raised a connection error, or it waits for a line. -/
structure Refusing {α : Type} (t : Resumption Exc (Shared W) ClientCall.Answer α) : Prop where
  only : t.Only ClientCall.reads
  ended : ∀ r, t = .done r → ∃ e, r = .error e ∧ IsConnectionError e

namespace Refusing

variable {α β : Type} {m : Caller W α} {s : Shared W}

theorem of_waits (hm : Reads m) (hwaits : (m s).1.waits) : Refusing (m s).1 where
  only := hm s
  ended r hr := by
    rw [hr] at hwaits
    exact hwaits.elim

theorem broken (hm : m s = (.done (.error (.sartorius brokenError)), s)) : Refusing (m s).1 := by
  rw [hm]
  exact ⟨trivial, fun r hr => ⟨_, (Resumption.done.inj hr).symm, rfl⟩⟩

/-- What follows a refused call only reads. -/
theorem bind (hm : Refusing (m s).1) {f : α → Caller W β} (hf : ∀ a, Reads (f a)) : Refusing ((m >>= f) s).1 := by
  refine ⟨Async.bind_only hm.only hf _, fun r hr => ?_⟩
  rw [Async.bind_apply] at hr
  cases ht : (m s).1 with
  | done result =>
      obtain ⟨e, rfl, he⟩ := hm.ended result ht
      rw [ht] at hr
      exact ⟨e, (Resumption.done.inj hr).symm, he⟩
  | ask c next after =>
      rw [ht] at hr
      cases hr

end Refusing

/-- The session reads unsolicited lines. -/
def Session.readsLines (s : Session) : Bool := s.active = .sbi && s.sbi.isSome

theorem Session.readsLines_iff {s : Session} :
    s.readsLines = true ↔ s.active = .sbi ∧ ∃ client, s.sbi = some client := by
  simp [readsLines, Option.isSome_iff_exists]

/-- An entered stream whose next sample comes from the balance. -/
def StreamingSession.Stream.asks (s : StreamingSession.Stream) : Bool :=
  s.pending.isNone && (s.mode = .autoprint || s.rateHz.isSome)

/-- The call finds what it looks for before it looks at the state of the session: a read of unsolicited lines an
SBI client, and a stream the mode of the session that it is for. -/
def Path.admitted (s : Session) : Path → Bool
  | .readSbiLine _ | .readSbiAutoprintReading .. | .refreshSbiAutoprintState _ => s.readsLines
  | .stream t .. =>
      !t.entered && t.asks &&
        match t.mode with
        | .poll => !s.sbiAutoprintActive
        | .autoprint => s.readsLines && !t.temporaryAutoprint
  | .nextSample t _ =>
      t.entered && t.asks &&
        match t.mode with
        | .poll => true
        | .autoprint => s.readsLines
  | _ => true

namespace Caller

variable {s : Shared W} (hbroken : s.host.session.state = .broken)
include hbroken

theorem poll_refusing (remaining : Rat) (clock : List Rat) :
    Refusing ((poll remaining clock : Caller W Reading) s).1 := by
  by_cases hauto : s.host.session.sbiAutoprintActive = true
  · obtain ⟨hactive, hflag⟩ : s.host.session.active = .sbi ∧ s.host.session.sbi.any (·.autoprintActive) = true := by
      simpa [Session.sbiAutoprintActive] using hauto
    obtain ⟨client, hsbi, -⟩ : ∃ c, s.host.session.sbi = some c ∧ c.autoprintActive = true := by
      simpa [Option.any_eq_true] using hflag
    have hpoll : (poll remaining clock : Caller W _) s = readSbiAutoprintReading remaining clock s := by
      rw [poll, here_bind_ok (Prog.exec_get s.host), if_pos hauto]
    rw [hpoll]
    exact .of_waits (readSbiAutoprintReading_reads _ _) (readSbiAutoprintReading_waits hactive hsbi _ _)
  · refine .broken ?_
    rw [poll, here_bind_ok (Prog.exec_get s.host), if_neg hauto]
    exact execute_broken hbroken _ _ _ _

theorem readSample_refusing (mode : StreamingSession.StreamMode)
    (hlines : mode = .autoprint → s.host.session.readsLines = true) (m : StreamingSession.Moment) :
    Refusing ((readSample mode m : Caller W Sample) s).1 := by
  have hread : Refusing ((nextReading mode m.first m.later : Caller W Reading) s).1 := by
    cases mode with
    | poll => exact poll_refusing hbroken _ _
    | autoprint =>
        obtain ⟨hactive, client, hsbi⟩ := Session.readsLines_iff.mp (hlines rfl)
        exact .of_waits (readAutoprintSample_reads _ _) (readAutoprintSample_waits hactive hsbi _ _)
  exact hread.bind fun _ => (here_reads _).bind fun _ => .pure _

/-- A stream that asks the balance, in the mode that its entry wants. -/
theorem anext_refusing (stream : StreamingSession.Stream) (hentered : stream.entered = true)
    (hasks : stream.asks = true) (hlines : stream.mode = .autoprint → s.host.session.readsLines = true)
    (m : StreamingSession.Moment) : Refusing ((anext stream m : Caller W Sample) s).1 := by
  obtain ⟨hpending, hrate⟩ : stream.pending = none ∧ (stream.mode = .autoprint ∨ stream.rateHz.isSome = true) := by
    simpa [StreamingSession.Stream.asks] using hasks
  have hanext : (anext stream m : Caller W Sample) = readSample stream.mode m := by
    rw [anext, if_neg (by simp [hentered]), hpending]
    cases hmode : stream.mode with
    | autoprint => rfl
    | poll => exact if_neg fun hnone => by simp [hmode, hnone] at hrate
  rw [hanext]
  exact readSample_refusing hbroken _ hlines m

theorem stream_refusing {stream : StreamingSession.Stream} (hentered : stream.entered = false)
    (hasks : stream.asks = true) (hpoll : stream.mode = .poll → s.host.session.sbiAutoprintActive = false)
    (hauto : stream.mode = .autoprint → s.host.session.readsLines = true ∧ stream.temporaryAutoprint = false)
    (entry first : StreamingSession.Moment) :
    Refusing ((Caller.stream stream entry first : Caller W Sample) s).1 := by
  cases hmode : stream.mode with
  | poll =>
      have hentry : (aenter stream entry : Caller W _) s = (.done (.ok stream.pending), s) := by
        rw [aenter, here_bind_ok (Prog.exec_get s.host), if_neg (by simp [hentered]), hmode]
        exact congrFun (if_neg (by simp [hpoll hmode])) s
      rw [Caller.stream, Async.bind_apply, hentry]
      exact anext_refusing hbroken { stream.begun entry.now with pending := stream.pending } rfl hasks
        (fun h => by rw [show stream.mode = .autoprint from h] at hmode; cases hmode) first
  | autoprint =>
      obtain ⟨hlines, htemporary⟩ := hauto hmode
      obtain ⟨hactive, -⟩ := Session.readsLines_iff.mp hlines
      have hentry : (aenter stream entry : Caller W _) s =
          (readSample .autoprint entry >>= fun sample => pure (some sample) : Caller W _) s := by
        rw [aenter, here_bind_ok (Prog.exec_get s.host), if_neg (by simp [hentered]), hmode]
        exact congrFun ((if_neg (by simp [hactive])).trans (if_neg (by simp [htemporary]))) s
      have hrefusing : Refusing ((aenter stream entry : Caller W _) s).1 := by
        rw [hentry]
        exact (readSample_refusing hbroken .autoprint (fun _ => hlines) entry).bind fun _ => .pure _
      exact hrefusing.bind fun pending => anext_reads { stream.begun entry.now with pending } hmode first

end Caller

/-- A call that begins on a broken session is refused, if it makes the check or finds what it looks for. -/
theorem Path.caller_refusing {s : Shared W} (hbroken : s.host.session.state = .broken) {path : Path}
    (hpath : path.dispatches = true) (hadmitted : path.admitted s.host.session = true) :
    Refusing (path.caller s).1 := by
  cases path with
  | execute command request confirm timeout =>
      exact (Refusing.broken (Caller.execute_broken hbroken _ _ _ _)).bind fun _ => .pure _
  | cachedExecute command request wrap cacheKey confirm timeout =>
      exact (Refusing.broken (Caller.cachedExecute_broken hbroken _ _ _ _ _ _)).bind fun _ => .pure _
  | executeRawXbpi opcode args confirm timeout =>
      exact (Refusing.broken (Caller.executeRawXbpi_broken hbroken _ _ _ _)).bind fun _ => .pure _
  | executeRawSbi command confirm timeout expectLines =>
      exact (Refusing.broken (Caller.executeRawSbi_broken hbroken _ _ _ _)).bind fun _ => .pure _
  | readSbiLine timeout =>
      obtain ⟨hactive, client, hsbi⟩ := Session.readsLines_iff.mp hadmitted
      exact (Refusing.of_waits (Caller.readSbiLine_reads _) (Caller.readSbiLine_waits hactive hsbi _)).bind
        fun _ => .pure _
  | readSbiAutoprintReading remaining clock =>
      obtain ⟨hactive, client, hsbi⟩ := Session.readsLines_iff.mp hadmitted
      exact (Refusing.of_waits (Caller.readSbiAutoprintReading_reads _ _)
        (Caller.readSbiAutoprintReading_waits hactive hsbi _ _)).bind fun _ => .pure _
  | refreshSbiAutoprintState clock =>
      obtain ⟨hactive, client, hsbi⟩ := Session.readsLines_iff.mp hadmitted
      exact (Refusing.of_waits (Caller.refreshSbiAutoprintState_reads _)
        (Caller.refreshSbiAutoprintState_waits hactive hsbi _)).bind fun _ => .pure _
  | poll remaining clock => exact (Caller.poll_refusing hbroken _ _).bind fun _ => .pure _
  | readNet hires remaining clock =>
      refine Refusing.bind ?_ fun _ => .pure _
      rw [Caller.readNet]
      split
      · exact Caller.poll_refusing hbroken _ _
      · exact .broken (Caller.execute_broken hbroken _ _ _ _)
  | stream stream entry first =>
      simp only [admitted, Bool.and_eq_true, Bool.not_eq_true'] at hadmitted
      obtain ⟨⟨hentered, hasks⟩, hmode⟩ := hadmitted
      refine Refusing.bind (Caller.stream_refusing hbroken hentered hasks (fun h => ?_) (fun h => ?_) _ _)
        fun _ => .pure _
      · simpa [h] using hmode
      · simpa [h] using hmode
  | nextSample stream m =>
      simp only [admitted, Bool.and_eq_true] at hadmitted
      obtain ⟨⟨hentered, hasks⟩, hmode⟩ := hadmitted
      refine Refusing.bind (Caller.anext_refusing hbroken _ hentered hasks (fun h => ?_) _) fun _ => .pure _
      simpa [h] using hmode
  | configureProtocol r => cases hpath

/-! ## Calls under the lock -/

section Locked

open Prog

variable {T : Transport W} {s : Shared W} {α : Type}

namespace ClientCall

/-- The call has nothing to write, or its client was disposed, or the port is closed, for a switch stuck. -/
def silent (P : T.PortState) (s : Shared W) : ClientCall → Bool
  | .xbpi client .. => s.xbpiDisposed client || P.closed s.host.world
  | .sbi client .. => (s.sbi? client).all fun c => (s.retire c).disposed || P.closed s.host.world
  | .readLine .. | .refresh .. => true
  | .configure .. => P.stuck s.host.world

/-- A read for which no line is queued, of a port that is closed, or whose client was disposed. -/
def fails (P : T.PortState) (s : Shared W) : ClientCall → Bool
  | .readLine client _ =>
      (s.sbi? client).any fun c => (s.retire c).disposed || c.pendingLines.isEmpty && P.closed s.host.world
  | .refresh client clock =>
      (s.sbi? client).any fun c => (s.retire c).disposed || !clock.isEmpty && P.closed s.host.world
  | _ => false

end ClientCall

/-! ### A read that fails -/

variable {P : T.PortState}

theorem readLine_fails (link : Sbi.SbiLink W) (timeout : Rat)
    (h : link.client.disposed = true ∨ link.client.pendingLines = [] ∧ P.closed link.world = true) :
    ∃ e link', (Sbi.readLine T timeout).exec link = (.error e, link') ∧ IsConnectionError e := by
  by_cases hdisposed : link.client.disposed = true
  · exact ⟨_, link, exec_bind_error (Sbi.raiseIfDisposed_disposed hdisposed _ _), rfl⟩
  · obtain ⟨hqueue, hclosed⟩ := h.resolve_left hdisposed
    obtain ⟨e, w, hread, he⟩ := P.readUntil_closed hclosed
    refine ⟨e, { link with world := w }, ?_, he⟩
    rw [Sbi.readLine, exec_bind_ok (Sbi.raiseIfDisposed_live hdisposed _ _), exec_bind_ok (exec_get link), hqueue]
    exact exec_bind_error (by rw [Sbi.onTransport, exec_zoom, hread])

theorem refreshAutoprintState_fails (link : Sbi.SbiLink W) (clock : List Rat)
    (h : link.client.disposed = true ∨ clock ≠ [] ∧ P.closed link.world = true) :
    ∃ e link', (Sbi.refreshAutoprintState T clock).exec link = (.error e, link') ∧ IsConnectionError e := by
  by_cases hdisposed : link.client.disposed = true
  · exact ⟨_, link, exec_bind_error (Sbi.raiseIfDisposed_disposed hdisposed _ _), rfl⟩
  · obtain ⟨hclock, hclosed⟩ := h.resolve_left hdisposed
    cases clock with
    | nil => exact absurd rfl hclock
    | cons remaining later =>
        obtain ⟨e, w, hread, he⟩ := P.readUntil_closed hclosed
        have hclass : e.isinstance .timeoutError = false := IsConnectionError.not_handled he (by decide)
        let cleared : Sbi.SbiClient := { link.client with pendingLines := [], autoprintActive := false }
        have hline : (Sbi.onTransport (T.readUntil Sbi.lineTerminator remaining)).exec ⟨cleared, link.world⟩ =
            (.error e, ⟨cleared, w⟩) := by
          rw [Sbi.onTransport, exec_zoom, hread]
        have hsniff : (Sbi.sniffLines T 4 (remaining :: later)).exec ⟨cleared, link.world⟩ =
            (.error e, ⟨cleared, w⟩) := by
          rw [Sbi.sniffLines, exec_bind_ok (exec_get _), if_pos (by simp [cleared])]
          refine exec_bind_error ?_
          rw [exec_exceptClasses, exec_map, hline]
          simp [hclass]
        refine ⟨e, ⟨cleared, w⟩, ?_, he⟩
        rw [Sbi.refreshAutoprintState, exec_bind_ok (Sbi.raiseIfDisposed_live hdisposed _ _),
          exec_bind_ok (show (Sbi.modifyClient _).exec link = (.ok (), ⟨cleared, link.world⟩) from rfl)]
        exact exec_bind_error hsniff

theorem ClientCall.perform_fails {c : ClientCall} (h : c.fails P s = true) :
    ∃ e t, (c.perform T).exec s = (.error e, t) ∧ IsConnectionError e := by
  cases c with
  | readLine client timeout =>
      obtain ⟨c, hc, hfails⟩ := (Option.any_eq_true _ _).mp h
      obtain ⟨e, link, hrun, he⟩ := readLine_fails (P := P) ⟨s.retire c, s.host.world⟩ timeout
        (by simpa [Shared.retire, List.isEmpty_iff] using hfails)
      obtain ⟨hanswer, -⟩ := withSbi_some hc (Sbi.readLine T timeout)
      rw [hrun] at hanswer
      exact ⟨e, _, Prod.ext hanswer rfl, he⟩
  | refresh client clock =>
      obtain ⟨c, hc, hfails⟩ := (Option.any_eq_true _ _).mp h
      obtain ⟨e, link, hrun, he⟩ := refreshAutoprintState_fails (P := P) ⟨s.retire c, s.host.world⟩
        clock (by simpa [List.isEmpty_iff] using hfails)
      obtain ⟨hanswer, -⟩ := withSbi_some hc (Sbi.refreshAutoprintState T clock)
      rw [hrun] at hanswer
      exact ⟨e, _, Prod.ext hanswer rfl, he⟩
  | _ => cases h

/-! ### A call that is silent -/

/-- Nothing is harmless to write without a protocol, so this is about the reads alone. -/
theorem Transport.OnlyWrites.keeps {sent : W → List Bytes} (hT : T.OnlyWrites sent) (x : List Bytes) :
    T.Keeps (fun w => sent w = x) .auto where
  write hdata := nomatch hdata
  readExact n timeout := (hT.readExact n timeout).keeps x
  readUntil separator timeout := (hT.readUntil separator timeout).keeps x
  drainInput := hT.drainInput.keeps x

/-- A switch that does not get its port back only reopens it once more. -/
theorem switchProtocol_silent (P : T.PortState) (r : Balance.SwitchRequest) (old : Session) {h : Host W}
    (hstuck : P.stuck h.world = true) :
    P.sent ((Balance.switchProtocol T r old).exec h).2.world = P.sent h.world := by
  have hreopen : Leaves P.sent (T.drainInput >>= fun _ => T.reopen r.baudrate r.parity r.stopbits) :=
    P.onlyWrites.drainInput.bind fun _ => P.onlyWrites.reopen _ _ _
  have hrollback : Keeps (fun g : Host W => P.sent g.world = P.sent h.world)
      (Balance.rollbackConfigureProtocol T old.serialSettings r.target) := by
    cases old.serialSettings with
    | none => exact .modify fun _ hg => hg
    | some settings =>
        exact Keeps.exceptException (fun g hg => (P.onlyWrites.reopen _ _ _ g.world).trans hg) fun _ =>
          Keeps.bind (.modify fun _ hg => hg) fun _ => .throw _
  obtain ⟨e, w, hinstall, hw⟩ : ∃ e w, (Balance.installClients T r old).exec h =
      (.error e, { h with world := w }) ∧ P.sent w = P.sent h.world := by
    have hsent := hreopen h.world
    obtain ⟨e, w, hfails⟩ := P.reopen_stuck r.baudrate r.parity r.stopbits hstuck
    rw [hfails] at hsent
    rw [exec_bind] at hfails
    rw [Balance.installClients, exec_bind, onWorld, exec_zoom]
    rcases hdrain : T.drainInput.exec h.world with ⟨e' | u, w'⟩
    · rw [hdrain] at hfails
      cases hfails
      exact ⟨_, _, rfl, hsent⟩
    · rw [hdrain] at hfails
      dsimp only at hfails ⊢
      rw [exec_bind, onWorld, exec_zoom]
      dsimp only
      rw [hfails]
      exact ⟨_, _, rfl, hsent⟩
  rw [Balance.switchProtocol, exec_exceptException, hinstall]
  dsimp only
  split
  · exact (hrollback.bind fun _ => .throw _) _ hw
  · exact hw

theorem ClientCall.perform_silent {c : ClientCall} (h : c.silent P s = true) :
    P.sent ((c.perform T).exec s).2.host.world = P.sent s.host.world := by
  have hreads := P.onlyWrites.keeps (P.sent s.host.world)
  have hsbi {β : Type} {client : Nat} {m : Py (Sbi.SbiLink W) β}
      (hm : ∀ c, s.sbi? client = some c →
        P.sent (m.exec ⟨s.retire c, s.host.world⟩).2.world = P.sent s.host.world) :
      P.sent ((withSbi client m).exec s).2.host.world = P.sent s.host.world := by
    cases hc : s.sbi? client with
    | none => rw [withSbi_none hc]
    | some c => rw [(withSbi_some hc m).2, hm c hc]
  cases c with
  | xbpi client request timeout commandName opcode =>
      rw [perform, exec_bind_ok (exec_get s)]
      by_cases hdisposed : s.xbpiDisposed client = true
      · rw [hdisposed]
        rfl
      · have hclosed : P.closed s.host.world = true := by
          simpa [silent, hdisposed] using h
        exact Xbpi.executeLocked_reads hreads rfl (P.write_closed hclosed) _ _ _
  | sbi client request timeout commandName sbiToken expectLines =>
      refine hsbi fun c hc => ?_
      have hsilent : (s.retire c).disposed = true ∨ P.closed s.host.world = true := by
        simpa [silent, hc] using h
      rcases hsilent with hdisposed | hclosed
      · rw [Sbi.executeLocked, exec_bind_error (Sbi.raiseIfDisposed_disposed hdisposed _ _)]
      · exact (Sbi.executeLocked_reads (i := c.id) (s := ⟨s.retire c, _⟩) hreads ⟨rfl, rfl⟩
          (P.write_closed hclosed) _ _ _).2
  | readLine client timeout =>
      exact hsbi fun c _ =>
        (Sbi.readLine_keeps (i := c.id) hreads timeout "sbi_autoprint" ⟨s.retire c, _⟩ ⟨rfl, rfl⟩).2
  | refresh client clock =>
      exact hsbi fun c _ =>
        (Sbi.refreshAutoprintState_keeps (i := c.id) hreads clock ⟨s.retire c, _⟩ ⟨rfl, rfl⟩).2
  | configure client r old =>
      have hsent := switchProtocol_silent P r
        { old with srcSbn := s.host.session.srcSbn, dstSbn := s.host.session.dstSbn } h
      rw [perform, exec_performSwitch]
      rcases hrun : (Balance.switchProtocol T r
        { old with srcSbn := s.host.session.srcSbn, dstSbn := s.host.session.dstSbn }).exec s.host with ⟨e | u, g⟩
      · rw [hrun] at hsent
        exact hsent
      · rw [hrun] at hsent
        exact hsent

end Locked

/-! ## Runs -/

variable {T : Transport W} {P : T.PortState} {sent : W → List Bytes} {s s' : System W}

/-- The step is none of a broken session's: the call that it belongs to began on a broken session and ends with
a connection error, if it ends, and a step that finds the session broken sends nothing. -/
structure Entry.Refused (sent : W → List Bytes) (e : Entry W) : Prop where
  raises : e.late = true → ∀ r, e.ended = some r → ∃ x, r = .error x ∧ IsConnectionError x
  silent : System.broken e.before = true → sent e.after.host.world = sent e.before.host.world

namespace System

/-- On a broken session the call is silent, and it fails if it began there. -/
def spares (P : T.PortState) (s : Shared W) (w : Waiting W) : Bool :=
  match w.task with
  | .done _ => true
  | .ask c _ _ => (!broken s || c.silent P s) && (!w.late || c.fails P s)

/-- On a broken session no call begins that does not find what it looks for, no call that waited gets to a port that
takes data, and a call that began there gets to no line. -/
def Spares (P : T.PortState) (s : System W) : Event → Prop
  | .start path => broken s.shared = true → path.admitted s.shared.host.session = true
  | .serve i => ∀ w ∈ s.waiting[i]?, spares P s.shared w = true
  | .cancel _ => True

instance decidableSpares (P : T.PortState) (s : System W) : ∀ e, Decidable (Spares P s e)
  | .start path =>
      inferInstanceAs (Decidable (broken s.shared = true → path.admitted s.shared.host.session = true))
  | .serve i => inferInstanceAs (Decidable (∀ w ∈ s.waiting[i]?, spares P s.shared w = true))
  | .cancel _ => isTrue trivial

theorem spares_ask {s : Shared W} {c : ClientCall} {next : Except Exc c.Answer → Shared W → CallerTask W}
    {after : Except Exc c.Answer → Shared W → Shared W} {late : Bool}
    (h : spares P s { task := .ask c next after, late } = true) :
    (broken s = true → c.silent P s = true) ∧ (late = true → c.fails P s = true) := by
  rw [spares, Bool.and_eq_true] at h
  constructor
  · intro hbroken
    simpa [hbroken] using h.1
  · intro hlate
    simpa [hlate] using h.2

/-- Whoever waits leaves the port alone until it is served, and a call that began on a broken session is on its
way to a connection error. -/
structure Refuses (sent : W → List Bytes) (s : System W) : Prop where
  obeys : ∀ w ∈ s.waiting, w.task.Obeys Shared.fixed Ends
  late : ∀ w ∈ s.waiting, w.late = true → w.task.Only ClientCall.reads
  log : ∀ e ∈ s.log, e.Refused sent

theorem Refuses.advance (h : Refuses sent s) {late : Bool} {call : Option ClientCall} {task : CallerTask W}
    {after : Shared W} (hobeys : task.Obeys Shared.fixed Ends) (hlate : late = true → task.Only ClientCall.reads)
    (hentry : (entry s.shared late call task after).Refused sent) :
    Refuses sent (s.advance late call task after) where
  obeys w hw := by
    rcases mem_waiting_advance hw with hw | rfl
    · exact h.obeys w hw
    · exact hobeys
  late w hw := by
    rcases mem_waiting_advance hw with hw | rfl
    · exact h.late w hw
    · exact hlate
  log e he := by
    rw [log_advance] at he
    rcases List.mem_append.mp he with he | he
    · exact h.log e he
    · exact List.mem_singleton.mp he ▸ hentry

theorem Refuses.erase (h : Refuses sent s) (i : Nat) : Refuses sent { s with waiting := s.waiting.eraseIdx i } where
  obeys w hw := h.obeys w (List.mem_of_mem_eraseIdx hw)
  late w hw := h.late w (List.mem_of_mem_eraseIdx hw)
  log := h.log

/-- A step from a state in which all calls are refused. -/
theorem Refuses.step {e : Event} (h : Refuses P.sent s) (hspares : Spares P s e)
    (hstep : step T s e = some s') : Refuses P.sent s' := by
  cases e with
  | start path =>
      obtain rfl := Option.some.inj hstep
      obtain ⟨hsame, hobeys⟩ := path.caller_obeys s.shared
      have hrefusing (hlate : decide (path.dispatches = true ∧ broken s.shared = true) = true) :
          Refusing (path.caller s.shared).1 := by
        obtain ⟨hpath, hbroken⟩ := of_decide_eq_true hlate
        exact path.caller_refusing (of_decide_eq_true hbroken) hpath (hspares hbroken)
      refine h.advance hobeys (fun hlate => (hrefusing hlate).only) ⟨fun hlate r hr => ?_, fun _ => ?_⟩
      · exact (hrefusing hlate).ended r (entry_ended hr)
      · exact congrArg (fun f => P.sent f.world) hsame
  | serve i =>
      obtain ⟨late, c, next, after, hi, rfl⟩ := step_serve hstep
      have hmem := List.mem_of_getElem? hi
      obtain ⟨hsilent, hfails⟩ := spares_ask (hspares _ hi)
      obtain ⟨hsame, hobeys, hends⟩ :=
        h.obeys _ hmem ((c.perform T).exec s.shared).1 ((c.perform T).exec s.shared).2
      refine (h.erase i).advance hobeys (fun hlate => ?_) ⟨fun hlate r hr => ?_, fun hbroken => ?_⟩
      · exact (h.late _ hmem hlate).2 _ _
      · obtain ⟨x, t, hrun, hx⟩ := ClientCall.perform_fails (hfails hlate)
        have hnext := entry_ended hr
        rw [hrun] at hends hnext
        rw [(hends x t (.connection hx)).1] at hnext
        exact ⟨x, (Resumption.done.inj hnext).symm, hx⟩
      · exact (congrArg (fun f => P.sent f.world) hsame).trans (ClientCall.perform_silent (hsilent hbroken))
  | cancel i =>
      simp only [System.step] at hstep
      split at hstep
      · exact Option.some.inj hstep ▸ h.erase i
      · cases hstep

/-- In a run that spares the broken session the session refuses every call from the moment it breaks, and no call
that waited sends anything. -/
theorem refused_run (P : T.PortState) {es : List Event} (hwaiting : s.waiting = []) (hlog : s.log = [])
    (hspares : Guarded (step T) (Spares P) s es) (hrun : run (step T) s es = some s') :
    ∀ e ∈ s'.log, e.Refused P.sent := by
  have hstart : Refuses P.sent s := ⟨by simp [hwaiting], by simp [hwaiting], by simp [hlog]⟩
  exact (run_invariant (fun _ _ _ h hg hs => h.step hg hs) hstart hspares hrun).log

/-! ### A switch that fails -/

/-- A session on a device in autoprint, with the lines `pendingLines` queued; the port comes back once. -/
def autoprintHost (pendingLines : List Bytes) : Host SerialState where
  world := { settings := { port := "COM3" }, opens := [.ok, .fault "busy"] }
  session :=
    { active := .sbi, sbi := some { id := 0, autoprintActive := true, pendingLines },
      serialSettings := some { port := "COM3" } }
  nextId := 1

def toXbpi : Balance.SwitchRequest where
  target := .xbpi
  confirm := true

/-- A stream of autoprint lines. -/
def printedLines : StreamingSession.Stream where
  rateHz := none
  mode := .autoprint
  temporaryAutoprint := false
  confirm := false

def anyMoment : StreamingSession.Moment where
  now := 0
  timing := { requestedAt := 0, sentNs := 0, recvNs := 0, receivedAt := 0 }
  first := (1, [])
  later := []

/-- A switch, a poll, a tare and a stream. -/
def switchThenPoll : List Event :=
  [.start (.configureProtocol toXbpi), .serve 0, .start (.poll 1 []), .serve 0,
    .start (.execute Commands.TARE () false none), .start (.stream printedLines anyMoment anyMoment), .serve 0]

/-- The switch breaks the session. Nothing is queued and the port is closed, so all that begins then is refused. -/
theorem refused_run_closed :
    ∃ s', run (step serialTransport) { shared := { host := autoprintHost [] } } switchThenPoll = some s' ∧
      s'.log.length = 7 ∧ broken s'.shared = true ∧ ∀ e ∈ s'.log, e.Refused SerialState.sent := by
  have hrun : (run (step serialTransport) { shared := { host := autoprintHost [] } } switchThenPoll).any
      (fun s' => s'.log.length = 7 ∧ broken s'.shared = true) = true := by
    decide +kernel
  obtain ⟨s', hs', hend⟩ := (Option.any_eq_true _ _).mp hrun
  obtain ⟨hlength, hbroken⟩ := of_decide_eq_true hend
  have hspares : Guarded (step serialTransport) (Spares serialPortState)
      { shared := { host := autoprintHost [] } } switchThenPoll := by
    decide +kernel
  exact ⟨s', hs', hlength, hbroken, refused_run serialPortState rfl rfl hspares hs'⟩

/-- Two switches that both wait, and a poll. -/
def switchesThenPoll : List Event :=
  [.start (.configureProtocol toXbpi), .start (.configureProtocol toXbpi), .serve 0, .serve 0,
    .start (.poll 1 []), .serve 0]

def queuedLine : Bytes := encodeAsciiReplace "+     12.5 g  \r\n".toList

/-- The first switch breaks the session, the second writes to the port all the same, and the line that is queued
is a reading for the poll. -/
theorem queued_line_read :
    ∃ s', run (step serialTransport) { shared := { host := autoprintHost [queuedLine] } } switchesThenPoll =
        some s' ∧
      (∃ e ∈ s'.log, e.late = true ∧ e.ended = some (.ok ())) ∧
      ∃ e ∈ s'.log, broken e.before = true ∧ e.after.host.world.sent ≠ e.before.host.world.sent := by
  have hrun : (run (step serialTransport) { shared := { host := autoprintHost [queuedLine] } }
      switchesThenPoll).any
      (fun s' => (∃ e ∈ s'.log, e.late = true ∧ e.ended = some (.ok ())) ∧
        ∃ e ∈ s'.log, broken e.before = true ∧ e.after.host.world.sent ≠ e.before.host.world.sent) = true := by
    decide +kernel
  obtain ⟨s', hs', hend⟩ := (Option.any_eq_true _ _).mp hrun
  exact ⟨s', hs', of_decide_eq_true hend⟩

end System

end SartoriusLib
