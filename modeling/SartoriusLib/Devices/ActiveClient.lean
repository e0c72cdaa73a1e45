import SartoriusLib.Devices.Interleaving
import SartoriusLib.Devices.NewClient

/-!
# Calls on the active client

Whatever a caller does, each call that it makes is on the client that is active when it begins to wait, and a switch
of the protocol keeps the session that it saw then.
-/

namespace SartoriusLib

open Lib Prog Caller

variable {W : Type} {α β : Type} {s t : Shared W}

/-! ## The client that is active -/

theorem activeLock_of_wiring {s t : Session} (h : s.wiring = t.wiring) : activeLock s = activeLock t := by
  simp only [Session.wiring, Prod.mk.injEq] at h
  obtain ⟨hactive, hxbpi, hsbi⟩ := h
  unfold activeLock
  rw [hactive, hsbi]
  cases t.active with
  | xbpi =>
      cases hs : s.xbpi with
      | none =>
          rw [hs, Option.map_none, eq_comm, Option.map_eq_none_iff] at hxbpi
          rw [hxbpi]
      | some c =>
          rw [hs, Option.map_some, eq_comm, Option.map_eq_some_iff] at hxbpi
          obtain ⟨d, hd, hid⟩ := hxbpi
          simp only [hd, hid]
  | sbi => rfl
  | auto => rfl

theorem activeLock_xbpi {s : Session} {c : XbpiClient} (hactive : s.active = .xbpi) (hc : s.xbpi = some c) :
    activeLock s = some c.id := by
  rw [activeLock, hactive, hc]

theorem activeLock_sbi {s : Session} {c : Sbi.SbiClient} (hactive : s.active = .sbi) (hc : s.sbi = some c) :
    activeLock s = some c.id := by
  rw [activeLock, hactive, hc]
  rfl

/-- The SBI client of the session, when it has one, is the active one. -/
def SbiLeads (s : Shared W) : Prop := ∀ c, s.host.session.sbi = some c → activeLock s.host.session = some c.id

/-- The session that a switch saw before it waited. -/
def ClientCall.seen? : ClientCall → Option Session
  | .configure _ _ old => some old
  | _ => none

/-- The call is on the active client, and a switch saw the clients that the session has. -/
def Stands (c : ClientCall) (s : Shared W) : Prop :=
  activeLock s.host.session = some c.client ∧ ∀ old, c.seen? = some old → old.wiring = s.host.session.wiring

theorem wiring_of_fixed (h : t.fixed = s.fixed) : t.host.session.wiring = s.host.session.wiring :=
  Session.wiring_of_frame (congrArg Fixed.frame h)

theorem SbiLeads.of_wiring (hs : SbiLeads s) (h : t.host.session.wiring = s.host.session.wiring) : SbiLeads t := by
  intro c hc
  have hid : s.host.session.sbi.map (·.id) = some c.id := by
    have hsbi := congrArg (fun w => w.2.2) h
    simpa only [Session.wiring, hc, Option.map_some] using hsbi.symm
  obtain ⟨d, hd, hdc⟩ := Option.map_eq_some_iff.mp hid
  rw [activeLock_of_wiring h, hs d hd, hdc]

theorem Stands.of_wiring {c : ClientCall} (hc : Stands c s)
    (h : t.host.session.wiring = s.host.session.wiring) : Stands c t :=
  ⟨(activeLock_of_wiring h).trans hc.1, fun old hold => (hc.2 old hold).trans h.symm⟩

/-! ## On which client a caller calls -/

/-- The caller makes each call on the client that is active then, if no SBI client that leads is ever passed over. -/
abbrev OnActive (m : Caller W α) (s : Shared W) : Prop := Async.Asks SbiLeads Stands m s

namespace Caller

theorem here_onActive {m : Py (Host W) α} (hm : Leaves Host.fixed m) : OnActive (here m) s :=
  .lift fun hs => hs.of_wiring (wiring_of_fixed (hm s.host))

theorem here_bind_onActive {m : Py (Host W) α} {f : α → Caller W β} (hm : Leaves Host.fixed m)
    (hf : ∀ a h, m.exec s.host = (.ok a, h) → h.fixed = s.host.fixed → OnActive (f a) { s with host := h }) :
    OnActive (here m >>= f) s := by
  refine .lift_bind (fun hs => hs.of_wiring (wiring_of_fixed (hm s.host))) fun a t ht => ?_
  rw [onHost, exec_zoom] at ht
  rcases hrun : m.exec s.host with ⟨result, h⟩
  rw [hrun] at ht
  cases ht
  exact hf a h hrun (by simpa only [hrun] using hm s.host)

theorem get_bind_onActive {f : Host W → Caller W α} (hf : OnActive (f s.host) s) :
    OnActive (here get >>= f) s := by
  refine here_bind_onActive .get fun a h hget _ => ?_
  cases hget
  exact hf

theorem raise_onActive (cls : ErrorClass) (message : String) (context : ErrorContext) :
    OnActive (here (raise cls message context) : Caller W α) s :=
  here_onActive (.throw _)

theorem ask_onActive {c : ClientCall} (hc : c.seen? = none) (hactive : activeLock s.host.session = some c.client) :
    OnActive (ask c : Caller W c.Answer) s :=
  .call ⟨hactive, fun _ hold => by rw [hc] at hold; cases hold⟩

theorem sbiExchange_onActive {client : Nat} (hactive : activeLock s.host.session = some client) (request : Bytes)
    (timeout : Rat) (commandName : String) (sbiToken : Bytes) (expectLines : Int) :
    OnActive (sbiExchange client request timeout commandName sbiToken expectLines : Caller W _) s := by
  refine get_bind_onActive (.ite (fun _ => .throw _) fun _ => Async.Asks.bind ?_ fun reply t _ => ?_)
  · exact .ite (fun _ => .throw _) fun _ => ask_onActive rfl hactive
  · exact get_bind_onActive (.ite
      (fun _ => here_bind_onActive (markAutoprintActive_fixed reply.raw) fun _ _ _ _ => .throw _) fun _ => .pure _)

section Dispatch

variable {Req Resp : Type}

theorem executeXbpi_onActive (hactive : s.host.session.active = .xbpi) (command : Command Req Resp) (request : Req)
    (timeout : Option Rat) : OnActive (executeXbpi command request timeout : Caller W Resp) s := by
  refine get_bind_onActive ?_
  split
  · exact raise_onActive _ _ _
  dsimp only
  split
  · exact raise_onActive _ _ _
  rename_i client hclient
  refine here_bind_onActive (liftExc_fixed _) fun requestBytes h _ hsame => ?_
  have hlock : activeLock h.session = some client.id :=
    (activeLock_of_wiring (Session.wiring_of_frame (congrArg Fixed.frame hsame))).trans
      (activeLock_xbpi hactive hclient)
  refine Async.Asks.bind (.tryCatch (ask_onActive rfl hlock) fun e t _ => here_onActive (xbpiRefused_fixed command e))
    fun frame t _ => ?_
  exact here_bind_onActive (modifySession_fixed _ (by intro _; rfl)) fun _ _ _ _ => here_onActive (liftExc_fixed _)

theorem executeSbi_onActive (hactive : s.host.session.active = .sbi) (command : Command Req Resp) (request : Req)
    (timeout : Option Rat) : OnActive (executeSbi command request timeout : Caller W Resp) s := by
  refine get_bind_onActive ?_
  split
  · exact raise_onActive _ _ _
  dsimp only
  split
  · exact raise_onActive _ _ _
  rename_i client hclient
  refine here_bind_onActive (liftExc_fixed _) fun requestBytes h _ hsame => ?_
  have hlock : activeLock h.session = some client.id :=
    (activeLock_of_wiring (Session.wiring_of_frame (congrArg Fixed.frame hsame))).trans
      (activeLock_sbi hactive hclient)
  refine Async.Asks.bind (sbiExchange_onActive hlock _ _ _ _ _) fun reply t _ => ?_
  exact here_bind_onActive (modifySession_fixed _ (by intro _; rfl)) fun _ _ _ _ => here_onActive (liftExc_fixed _)

theorem execute_onActive (command : Command Req Resp) (request : Req) (confirm : Bool) (timeout : Option Rat) :
    OnActive (execute command request confirm timeout : Caller W Resp) s := by
  refine get_bind_onActive (here_bind_onActive (liftExcept_fixed _) fun _ h₁ _ e₁ => ?_)
  refine here_bind_onActive (liftExcept_fixed _) fun _ h₂ _ e₂ => ?_
  refine here_bind_onActive (liftExcept_fixed _) fun _ h₃ _ e₃ => ?_
  refine here_bind_onActive (liftExcept_fixed _) fun _ h₄ _ e₄ => ?_
  refine here_bind_onActive (gatePriors_fixed command) fun _ h₅ _ e₅ => ?_
  have hsame : h₅.fixed = s.host.fixed := e₅.trans (e₄.trans (e₃.trans (e₂.trans e₁)))
  have hactive : h₅.session.active = s.host.session.active := congrArg (fun f => f.frame.active) hsame
  split
  · rename_i hxbpi
    exact executeXbpi_onActive (hactive.trans hxbpi) command request timeout
  · rename_i hsbi
    exact executeSbi_onActive (hactive.trans hsbi) command request timeout
  · exact raise_onActive _ _ _

theorem cachedExecute_onActive (command : Command Req Resp) (request : Req) (wrap : Resp → CachedValue)
    (cacheKey : String) (confirm : Bool) (timeout : Option Rat) :
    OnActive (cachedExecute command request wrap cacheKey confirm timeout : Caller W CachedValue) s := by
  have hrun (t : Shared W) : OnActive (wrap <$> execute command request confirm timeout : Caller W CachedValue) t :=
    (execute_onActive command request confirm timeout).map wrap
  refine get_bind_onActive (.ite (fun _ => ?_) fun _ => ?_)
  · exact (hrun s).bind fun _ _ _ => get_bind_onActive (here_onActive (serve_fixed _ _ _))
  refine (execute_onActive _ _ _ _).bind fun counter t _ => get_bind_onActive ?_
  have hfresh := (hrun t).bind fun result u _ =>
    here_bind_onActive (s := u) (f := fun _ => do
        here (modify fun h' => { h' with origins := h'.origins.set cacheKey t.host.world })
        here (serve cacheKey result t.host.world))
      (modifySession_fixed (fun s =>
        { s with resultCache := s.resultCache.set cacheKey (counter, result) }) fun _ => rfl)
      fun _ _ _ _ => here_bind_onActive (.modify fun _ => rfl) fun _ _ _ _ =>
        here_onActive (serve_fixed cacheKey result t.host.world)
  dsimp only
  split
  · exact .ite (fun _ => here_onActive (serve_fixed _ _ _)) fun _ => hfresh
  · exact hfresh

end Dispatch

theorem executeRawXbpi_onActive (opcode : Int) (args : Bytes) (confirm : Bool) (timeout : Option Rat) :
    OnActive (executeRawXbpi opcode args confirm timeout : Caller W _) s := by
  refine get_bind_onActive (here_bind_onActive (liftExcept_fixed _) fun _ h₁ _ e₁ => ?_)
  refine .ite (fun _ => raise_onActive _ _ _) fun hactive => ?_
  split
  · exact raise_onActive _ _ _
  rename_i client hclient
  refine .ite (fun _ => raise_onActive _ _ _) fun _ => here_bind_onActive (liftExcept_fixed _) fun _ h₂ _ e₂ => ?_
  have hsame : h₂.session.wiring = s.host.session.wiring :=
    Session.wiring_of_frame (congrArg Fixed.frame (e₂.trans e₁))
  exact ask_onActive rfl ((activeLock_of_wiring hsame).trans (activeLock_xbpi (not_not.mp hactive) hclient))

theorem executeRawSbi_onActive (command : Sbi.SbiCommand) (confirm : Bool) (timeout : Option Rat) (expectLines : Int) :
    OnActive (executeRawSbi command confirm timeout expectLines : Caller W _) s := by
  refine get_bind_onActive (here_bind_onActive (liftExcept_fixed _) fun _ h₁ _ e₁ => ?_)
  refine .ite (fun _ => raise_onActive _ _ _) fun hactive => ?_
  split
  · exact raise_onActive _ _ _
  rename_i client hclient
  refine here_bind_onActive (liftExc_fixed _) fun token h₂ _ e₂ => .ite (fun _ => raise_onActive _ _ _) fun _ => ?_
  have hsame : h₂.session.wiring = s.host.session.wiring :=
    Session.wiring_of_frame (congrArg Fixed.frame (e₂.trans e₁))
  exact sbiExchange_onActive ((activeLock_of_wiring hsame).trans (activeLock_sbi (not_not.mp hactive) hclient))
    _ _ _ _ _

theorem requireSbi_bind_onActive {name refusal : String} {f : Sbi.SbiClient → Caller W α}
    (hf : ∀ client, SbiLeads s → activeLock s.host.session = some client.id → OnActive (f client) s) :
    OnActive (here (requireSbi name refusal) >>= f) s := by
  refine here_bind_onActive (requireSbi_fixed name refusal) fun client h hrun _ => ?_
  obtain ⟨rfl, hclient⟩ := requireSbi_ok hrun
  have hactive : s.host.session.active = .sbi := by
    by_contra hne
    rw [requireSbi, exec_bind_ok (exec_get s.host), if_pos hne] at hrun
    cases hrun
  exact hf client (fun c hc => activeLock_sbi hactive hc) (activeLock_sbi hactive hclient)

theorem refreshSbiAutoprintState_onActive (clock : List Rat) :
    OnActive (refreshSbiAutoprintState clock : Caller W Bool) s :=
  requireSbi_bind_onActive fun _ _ hactive => ask_onActive rfl hactive

theorem readSbiLine_onActive (timeout : Option Rat) : OnActive (readSbiLine timeout : Caller W _) s :=
  get_bind_onActive (requireSbi_bind_onActive fun _ _ hactive => ask_onActive rfl hactive)

theorem currentSbi_bind_onActive {name : String} {f : Sbi.SbiClient → Caller W α} (hleads : SbiLeads s)
    (hf : ∀ client, activeLock s.host.session = some client.id → OnActive (f client) s) :
    OnActive (currentSbi name >>= f) s := by
  cases hclient : s.host.session.sbi with
  | none =>
      have hthrow : currentSbi name s =
          (.done (.error (.attributeError s!"'NoneType' object has no attribute '{name}'")), s) := by
        rw [currentSbi, here_bind_ok (exec_get s.host), hclient]
        rfl
      rw [OnActive, Async.Asks, Async.bind_of_done hthrow]
      exact ⟨le_rfl, trivial⟩
  | some client =>
      have hpure : currentSbi name s = (.done (.ok client), s) := by
        rw [currentSbi, here_bind_ok (exec_get s.host), hclient]
        rfl
      rw [OnActive, Async.Asks, Async.bind_apply, hpure]
      exact hf client (hleads client hclient)

/-- A later round looks the client up again, and it leads as long as it led at the start. -/
theorem readAutoprintLoop_onActive (later : List Rat) (remaining : Rat) (hleads : SbiLeads s) :
    OnActive (readAutoprintLoop later remaining : Caller W Reading) s := by
  have hmark (reading : Reading) (t : Shared W) (ht : SbiLeads t) : OnActive (do
      let _ ← currentSbi "mark_autoprint_active"
      here (modifySession fun s => { s with sbi := s.sbi.map (·.markAutoprintActive) })
      pure reading : Caller W Reading) t :=
    currentSbi_bind_onActive ht fun _ _ =>
      here_bind_onActive (markAutoprintActive_fixed []) fun _ _ _ _ => .pure _
  induction later generalizing remaining s with
  | nil =>
      rw [readAutoprintLoop]
      refine currentSbi_bind_onActive hleads fun client hactive =>
        Async.Asks.bind (ask_onActive rfl hactive) fun reply t ht => ?_
      cases Sbi.requireReading reply with
      | ok reading => exact hmark reading t (ht hleads)
      | error e => exact .throw _
  | cons next later ih =>
      rw [readAutoprintLoop]
      refine currentSbi_bind_onActive hleads fun client hactive =>
        Async.Asks.bind (ask_onActive rfl hactive) fun reply t ht => ?_
      cases Sbi.requireReading reply with
      | ok reading => exact hmark reading t (ht hleads)
      | error e => exact ih next (ht hleads)

theorem readSbiAutoprintReading_onActive (remaining : Rat) (clock : List Rat) :
    OnActive (readSbiAutoprintReading remaining clock : Caller W Reading) s :=
  get_bind_onActive (requireSbi_bind_onActive fun _ hleads _ => readAutoprintLoop_onActive _ _ hleads)

theorem poll_onActive (remaining : Rat) (clock : List Rat) :
    OnActive (poll remaining clock : Caller W Reading) s :=
  get_bind_onActive (.ite (fun _ => readSbiAutoprintReading_onActive _ _) fun _ => execute_onActive _ _ _ _)

theorem readAutoprintSample_onActive (later : List StreamingSession.ReadClock) (first : StreamingSession.ReadClock) :
    OnActive (readAutoprintSample later first : Caller W Reading) s := by
  induction later generalizing first s with
  | nil => exact readSbiAutoprintReading_onActive _ _
  | cons next later ih =>
      refine .tryCatch (readSbiAutoprintReading_onActive _ _) fun e t _ => ?_
      exact .ite (fun _ => ih next) fun _ => .throw _

theorem readSample_onActive (mode : StreamingSession.StreamMode) (m : StreamingSession.Moment) :
    OnActive (readSample mode m : Caller W Sample) s := by
  have hread : OnActive (nextReading mode m.first m.later : Caller W Reading) s := by
    cases mode with
    | poll => exact poll_onActive _ _
    | autoprint => exact readAutoprintSample_onActive _ _
  exact hread.bind fun _ t _ => get_bind_onActive (.pure _)

theorem aenter_onActive (stream : StreamingSession.Stream) (m : StreamingSession.Moment) :
    OnActive (aenter stream m : Caller W (Option Sample)) s := by
  refine get_bind_onActive (.ite (fun _ => .throw _) fun _ => ?_)
  cases stream.mode with
  | poll => exact .ite (fun _ => raise_onActive _ _ _) fun _ => .pure _
  | autoprint =>
      exact .ite (fun _ => raise_onActive _ _ _) fun _ =>
        .ite (fun _ => .ite (fun _ => raise_onActive _ _ _) fun _ => .throw _) fun _ =>
          (readSample_onActive _ _).bind fun _ _ _ => .pure _

theorem anext_onActive (stream : StreamingSession.Stream) (m : StreamingSession.Moment) :
    OnActive (anext stream m : Caller W Sample) s := by
  refine .ite (fun _ => .throw _) fun _ => ?_
  cases stream.pending with
  | some sample => exact .pure _
  | none =>
      cases stream.mode with
      | autoprint => exact readSample_onActive _ _
      | poll => exact .ite (fun _ => .throw _) fun _ => readSample_onActive _ _

theorem stream_onActive (stream : StreamingSession.Stream) (entry first : StreamingSession.Moment) :
    OnActive (Caller.stream stream entry first : Caller W Sample) s :=
  (aenter_onActive _ _).bind fun _ _ _ => anext_onActive _ _

/-- A switch waits for the lock of the client that is active when it looks, and keeps the session that it saw. -/
theorem configureProtocol_onActive (r : Balance.SwitchRequest) :
    OnActive (configureProtocol r : Caller W _) s := by
  refine .ite (fun _ => raise_onActive _ _ _) fun _ => .ite (fun _ => raise_onActive _ _ _) fun _ => ?_
  refine get_bind_onActive (here_bind_onActive (liftExcept_fixed _) fun _ h _ hsame => ?_)
  refine .ite (fun _ => .pure _) fun _ => .ite (fun _ => .throw _) fun _ => ?_
  split
  · exact raise_onActive _ _ _
  rename_i client hclient
  have hwiring : h.session.wiring = s.host.session.wiring :=
    Session.wiring_of_frame (congrArg Fixed.frame hsame)
  refine Async.Asks.bind (.call ⟨(activeLock_of_wiring hwiring).trans hclient, fun old hold => ?_⟩)
    fun _ _ _ => .pure _
  cases hold
  exact hwiring.symm

end Caller

theorem Path.caller_onActive (path : Path) (s : Shared W) : OnActive path.caller s := by
  cases path with
  | execute command request confirm timeout =>
      exact (Caller.execute_onActive command request confirm timeout).bind fun _ _ _ => .pure _
  | cachedExecute command request wrap cacheKey confirm timeout =>
      exact (Caller.cachedExecute_onActive command request wrap cacheKey confirm timeout).bind fun _ _ _ => .pure _
  | executeRawXbpi opcode args confirm timeout =>
      exact (Caller.executeRawXbpi_onActive opcode args confirm timeout).bind fun _ _ _ => .pure _
  | executeRawSbi command confirm timeout expectLines =>
      exact (Caller.executeRawSbi_onActive command confirm timeout expectLines).bind fun _ _ _ => .pure _
  | readSbiLine timeout => exact (Caller.readSbiLine_onActive timeout).bind fun _ _ _ => .pure _
  | readSbiAutoprintReading remaining clock =>
      exact (Caller.readSbiAutoprintReading_onActive remaining clock).bind fun _ _ _ => .pure _
  | refreshSbiAutoprintState clock =>
      exact (Caller.refreshSbiAutoprintState_onActive clock).bind fun _ _ _ => .pure _
  | poll remaining clock => exact (Caller.poll_onActive remaining clock).bind fun _ _ _ => .pure _
  | readNet hires remaining clock =>
      exact Async.Asks.bind (.ite (fun _ => Caller.poll_onActive _ _) fun _ => Caller.execute_onActive _ _ _ _)
        fun _ _ _ => .pure _
  | stream s entry first => exact (Caller.stream_onActive s entry first).bind fun _ _ _ => .pure _
  | nextSample s m => exact (Caller.anext_onActive s m).bind fun _ _ _ => .pure _
  | configureProtocol r => exact (Caller.configureProtocol_onActive r).bind fun _ _ _ => .pure _

end SartoriusLib
