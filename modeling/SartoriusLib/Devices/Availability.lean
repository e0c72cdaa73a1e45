import SartoriusLib.Devices.Gates
import SartoriusLib.Lib.Run
import SartoriusLib.Transport.Serial

/-!
# Availability follows the response table

A call over xBPI that passes its gates sends one request. What the device answers decides the availability of
the command, by the table of the documentation, except that a reply is counted as a success before it is
decoded.
-/

namespace SartoriusLib

open Lib Prog

variable {W Req Resp : Type} {T : Transport W}

/-! ## One call -/

/-- What an exception of the client says about the command. -/
def refusedAs (command : Command Req Resp) : Exc → Option Availability
  | .sartorius err =>
      if err.cls.issubclass .unsupportedCommandError then
        if command.parameterized then none else some .unsupported
      else if err.cls.issubclass .operationNotApplicableError then some .inapplicable
      else none
  | _ => none

namespace Session

/-- The availability `a` of the command, when there is one. -/
def record (s : Session) (commandName : String) (a : Option Availability) : Session :=
  match a with
  | some a => s.setAvailability commandName a
  | none => s

theorem availabilityOf_setAvailability (s : Session) (name name' : String) (a : Availability) :
    (s.setAvailability name a).availabilityOf name' = if name' = name then a else s.availabilityOf name' := by
  simp only [availabilityOf, setAvailability, Dict.get?_set]
  split <;> rfl

theorem availabilityOf_record (s : Session) (name name' : String) (a : Option Availability) :
    (s.record name a).availabilityOf name' = if name' = name then a.getD (s.availabilityOf name')
      else s.availabilityOf name' := by
  cases a with
  | none => simp [record]
  | some a => exact availabilityOf_setAvailability s name name' a

end Session

/-- What the caller of a refused command gets. -/
def refusalError (command : Command Req Resp) : Exc → Exc
  | .sartorius err =>
      if err.cls.issubclass .unsupportedCommandError ∧ command.parameterized then indexError command err.context
      else .sartorius err
  | e => e

theorem exec_xbpiRefused {α : Type} (command : Command Req Resp) (e : Exc) (h : Host W) :
    (xbpiRefused command e : Py (Host W) α).exec h =
      (.error (refusalError command e),
        { h with session := h.session.record command.name (refusedAs command e) }) := by
  unfold xbpiRefused
  cases e with
  | sartorius err =>
      simp only [refusedAs, refusalError]
      split_ifs <;> first | rfl | simp_all
  | _ => rfl

/-- The priors touch nothing but the record of the warnings. -/
theorem exec_gatePriors (command : Command Req Resp) (h : Host W) :
    ∃ p, ((gatePriors command).exec h).2 = { h with session := { h.session with warnedPriors := p } } := by
  rw [gatePriors, exec_bind_ok (exec_get h)]
  dsimp only
  split_ifs
  · exact ⟨h.session.warnedPriors, rfl⟩
  · exact ⟨h.session.warnedPriors, rfl⟩
  · exact ⟨h.session.warnedPriors, rfl⟩
  · refine ⟨command.name :: h.session.warnedPriors, ?_⟩
    simp only [modifySession, exec_bind, exec_modify, exec_get]
    split <;> rfl

/-- The request of a call whose gates are open and that can be encoded. -/
def requestOf (command : Command Req Resp) (request : Req) (confirm : Bool) (h : Host W) :
    Option (XbpiVariant Req Resp × XbpiClient × Bytes) :=
  if Gate.firstFailing h.session command confirm = none ∧ ((gatePriors command).exec h).1.isOk = true then
    match command.xbpi, h.session.xbpi with
    | some variant, some client =>
        match variant.encode h.session.context request with
        | .ok data => some (variant, client, data)
        | .error _ => none
    | _, _ => none
  else none

theorem requestOf_eq_some {command : Command Req Resp} {request : Req} {confirm : Bool} {h : Host W}
    {variant : XbpiVariant Req Resp} {client : XbpiClient} {data : Bytes}
    (hsent : requestOf command request confirm h = some (variant, client, data)) :
    command.xbpi = some variant ∧ h.session.xbpi = some client ∧
      variant.encode h.session.context request = .ok data := by
  unfold requestOf at hsent
  split_ifs at hsent
  split at hsent
  · rename_i hx hc
    split at hsent
    · rename_i hdata
      cases hsent
      exact ⟨hx, hc, hdata⟩
    · cases hsent
  · cases hsent

/-- A call whose gates are open sends what its variant encodes. -/
theorem requestOf_passes {command : Command Req Resp} {request : Req} {confirm : Bool} {h : Host W}
    {variant : XbpiVariant Req Resp} {client : XbpiClient} {data : Bytes}
    (hpasses : ∀ g : Gate, g.passes h.session command confirm = true)
    (hpriors : ((gatePriors command).exec h).1.isOk = true) (hx : command.xbpi = some variant)
    (hc : h.session.xbpi = some client) (hdata : variant.encode h.session.context request = .ok data) :
    requestOf command request confirm h = some (variant, client, data) := by
  have hfirst : Gate.firstFailing h.session command confirm = none := by
    rw [Gate.firstFailing, List.find?_eq_none]
    intro g _
    simp [hpasses g]
  simp only [requestOf, if_pos (And.intro hfirst hpriors), hx, hc, hdata]

/-- A request exists only when no gate fails. -/
theorem requestOf_open {command : Command Req Resp} {request : Req} {confirm : Bool} {h : Host W}
    {sent : XbpiVariant Req Resp × XbpiClient × Bytes} (hsent : requestOf command request confirm h = some sent) :
    Gate.firstFailing h.session command confirm = none := by
  unfold requestOf at hsent
  split_ifs at hsent with hopen
  exact hopen.1

theorem gates_open {s : Session} {command : Command Req Resp} {confirm : Bool}
    (h : Gate.firstFailing s command confirm = none) (g : Gate) : g.passes s command confirm = true := by
  have := List.find?_eq_none.mp h g (by cases g <;> decide)
  simpa using this

/-- A call that sends nothing raises, and changes nothing but the record of the warnings. -/
theorem execute_unsent {command : Command Req Resp} {request : Req} {confirm : Bool} {h : Host W}
    (hactive : h.session.active = .xbpi) (hnone : requestOf command request confirm h = none)
    (timeout : Option Rat) :
    ∃ e p, (execute T command request confirm timeout).exec h =
      (.error e, { h with session := { h.session with warnedPriors := p } }) := by
  cases hgate : Gate.firstFailing h.session command confirm with
  | some g =>
      obtain ⟨e, -, hrun⟩ := execute_firstFailing T command request confirm timeout h hgate
      exact ⟨_, h.session.warnedPriors, hrun⟩
  | none =>
  obtain ⟨p, hp⟩ := exec_gatePriors command h
  rcases hpriors : (gatePriors command).exec h with ⟨e | ⟨⟩, h'⟩
  · have hend : h' = { h with session := { h.session with warnedPriors := p } } := by rw [← hp, hpriors]
    subst hend
    refine ⟨e, p, ?_⟩
    rw [execute, exec_bind_ok (exec_get h),
      exec_guard_passes Gate.checkState_guards (gates_open hgate Gate.state),
      exec_guard_passes Gate.gateSafety_guards (gates_open hgate Gate.safety),
      exec_guard_passes Gate.gateProtocol_guards (gates_open hgate Gate.protocol),
      exec_guard_passes Gate.gateKnownDenied_guards (gates_open hgate Gate.knownDenied)]
    exact exec_bind_error hpriors
  · have hend : h' = { h with session := { h.session with warnedPriors := p } } := by rw [← hp, hpriors]
    subst hend
    rw [execute_open T request timeout (fun g _ => gates_open hgate g) hpriors, hactive]
    dsimp only
    rw [executeXbpi, exec_bind_ok (exec_get _)]
    have hok : ((gatePriors command).exec h).1.isOk = true := by rw [hpriors]; rfl
    rw [requestOf, if_pos ⟨hgate, hok⟩] at hnone
    cases hx : command.xbpi with
    | none => exact ⟨_, p, rfl⟩
    | some variant =>
        cases hc : h.session.xbpi with
        | none => exact ⟨_, p, rfl⟩
        | some client =>
            rw [hx, hc] at hnone
            dsimp only at hnone
            cases hdata : variant.encode h.session.context request with
            | error e =>
                refine ⟨e, p, exec_bind_error ?_⟩
                show (liftExc (variant.encode h.session.context request)).exec _ = _
                rw [hdata]
                rfl
            | ok data => rw [hdata] at hnone; cases hnone

/-- The exchange of a call that sends `data` with `client`. -/
def exchangeOf (T : Transport W) (command : Command Req Resp) (timeout : Option Rat) (h : Host W)
    (variant : XbpiVariant Req Resp) (client : XbpiClient) (data : Bytes) : Except Exc Xbpi.XbpiFrame × W :=
  (Xbpi.executeLocked T client.disposed data (timeout.getD h.session.defaultTimeout) command.name
    (some variant.opcode)).exec h.world

theorem executeXbpi_sent {command : Command Req Resp} {request : Req} {h : Host W}
    {variant : XbpiVariant Req Resp} {client : XbpiClient} {data : Bytes} (hx : command.xbpi = some variant)
    (hc : h.session.xbpi = some client) (hdata : variant.encode h.session.context request = .ok data)
    (timeout : Option Rat) :
    (executeXbpi T command request timeout).exec h =
      match exchangeOf T command timeout h variant client data with
      | (.ok frame, w) =>
          (variant.decode frame h.session.context,
            { h with world := w, session := h.session.setAvailability command.name .supported })
      | (.error e, w) =>
          (.error (refusalError command e),
            { h with world := w, session := h.session.record command.name (refusedAs command e) }) := by
  have hencode : (liftExc (variant.encode h.session.context request) : Py (Host W) Bytes).exec h =
      (.ok data, h) := by
    rw [hdata]
    rfl
  rw [executeXbpi, exec_bind_ok (exec_get h)]
  simp only [hx, hc]
  rw [exec_bind_ok hencode, exec_bind, exec_tryCatch]
  simp only [onWorld, exec_zoom, exchangeOf]
  rcases (Xbpi.executeLocked T client.disposed data (timeout.getD h.session.defaultTimeout)
    command.name (some variant.opcode)).exec h.world with ⟨e | frame, w⟩
  · simp only [exec_xbpiRefused]
  · cases hdec : variant.decode frame h.session.context with
    | ok resp => simp only [modifySession, exec_bind, exec_modify, hdec, liftExc, exec_pure]
    | error e => simp only [modifySession, exec_bind, exec_modify, hdec, liftExc, exec_throw]

/-- A call that sends a request ends as the exchange says. -/
theorem execute_sent {command : Command Req Resp} {request : Req} {confirm : Bool} {h : Host W}
    (hactive : h.session.active = .xbpi) {variant : XbpiVariant Req Resp} {client : XbpiClient} {data : Bytes}
    (hsent : requestOf command request confirm h = some (variant, client, data)) (timeout : Option Rat) :
    ∃ p, (execute T command request confirm timeout).exec h =
      match exchangeOf T command timeout h variant client data with
      | (.ok frame, w) =>
          (variant.decode frame h.session.context,
            { h with world := w,
                     session := { h.session with warnedPriors := p }.setAvailability command.name .supported })
      | (.error e, w) =>
          (.error (refusalError command e),
            { h with world := w,
                     session := { h.session with warnedPriors := p }.record command.name
                       (refusedAs command e) }) := by
  unfold requestOf at hsent
  split_ifs at hsent with hopen
  obtain ⟨hgate, hok⟩ := hopen
  obtain ⟨p, hp⟩ := exec_gatePriors command h
  rcases hpriors : (gatePriors command).exec h with ⟨e | ⟨⟩, h'⟩
  · rw [hpriors] at hok
    cases hok
  have hend : h' = { h with session := { h.session with warnedPriors := p } } := by rw [← hp, hpriors]
  subst hend
  refine ⟨p, ?_⟩
  rw [execute_open T request timeout (fun g _ => gates_open hgate g) hpriors, hactive]
  split at hsent
  · rename_i variant' client' hx hc
    split at hsent
    · rename_i data' hdata
      cases hsent
      exact executeXbpi_sent (T := T) (h := { h with session := { h.session with warnedPriors := p } }) hx hc
        hdata timeout
    · cases hsent
  · cases hsent

/-- A call that returned has sent its request and decoded the frame of the reply. -/
theorem execute_accepted {command : Command Req Resp} {request : Req} {confirm : Bool} {timeout : Option Rat}
    {h h' : Host W} {resp : Resp} (hactive : h.session.active = .xbpi)
    (hrun : (execute T command request confirm timeout).exec h = (.ok resp, h')) :
    ∃ variant client data p frame w, requestOf command request confirm h = some (variant, client, data) ∧
      exchangeOf T command timeout h variant client data = (.ok frame, w) ∧
      variant.decode frame h.session.context = .ok resp ∧
      h' = { h with world := w,
                    session := { h.session with warnedPriors := p }.setAvailability command.name .supported } := by
  cases hsent : requestOf command request confirm h with
  | none =>
      obtain ⟨e, p, herror⟩ := execute_unsent (T := T) hactive hsent timeout
      rw [herror] at hrun
      cases hrun
  | some sent =>
      obtain ⟨variant, client, data⟩ := sent
      obtain ⟨p, hexec⟩ := execute_sent (T := T) hactive hsent timeout
      rw [hrun] at hexec
      rcases hexchange : exchangeOf T command timeout h variant client data with ⟨e | frame, w⟩
      · rw [hexchange] at hexec
        cases hexec
      · rw [hexchange, Prod.mk.injEq] at hexec
        exact ⟨variant, client, data, p, frame, w, rfl, hexchange, hexec.1.symm, hexec.2⟩

/-! ## The response table -/

/-- The documented effect of a response on the availability of its command. -/
def documented (command : Command Req Resp) (variant : XbpiVariant Req Resp) (ctx : CommandContext) :
    Xbpi.Response → Option Availability
  | .reply frame => if (variant.decode frame ctx).isOk then some .supported else none
  | .refusal code =>
      if code = 0x04 then (if command.parameterized then none else some .unsupported)
      else if code = 0x06 then some .inapplicable
      else none
  | .failed => none

/-- A refusal is recorded as documented, by its code. -/
theorem refusedAs_makeRefusal (command : Command Req Resp) (variant : XbpiVariant Req Resp) (ctx : CommandContext)
    (code : Nat) (frame : Xbpi.XbpiFrame) (opcode : Option Int) :
    refusedAs command (.sartorius (Xbpi.makeRefusal code frame command.name opcode)) =
      documented command variant ctx (.refusal code) := by
  simp only [refusedAs, Xbpi.makeRefusal, documented, Xbpi.errorClassOf]
  split <;> simp_all [ErrorClass.issubclass, ErrorClass.reaches, ErrorClass.bases]

/-- An exception that is no refusal is not recorded. -/
theorem refusedAs_none (command : Command Req Resp) {e : Exc} (h : e.isinstance .commandRejectedError = false) :
    refusedAs command e = none := by
  cases e with
  | sartorius err =>
      rw [Exc.isinstance_sartorius] at h
      simp only [refusedAs]
      cases hcls : err.cls <;> rw [hcls] at h <;> first | rfl | cases h
  | _ => rfl

/-- A call of `Session.execute`. -/
structure ExecCall where
  {Req Resp : Type}
  command : Command Req Resp
  request : Req
  confirm : Bool := false
  timeout : Option Rat := none

namespace ExecCall

def perform (T : Transport W) (c : ExecCall) (h : Host W) : Host W :=
  ((execute T c.command c.request c.confirm c.timeout).exec h).2

/-- The response to the request `data`. -/
def responseTo (T : Transport W) (c : ExecCall) (h : Host W) (variant : XbpiVariant c.Req c.Resp)
    (client : XbpiClient) (data : Bytes) : Xbpi.Response :=
  Xbpi.responseOf ((Xbpi.sendRaw T client.disposed data (c.timeout.getD h.session.defaultTimeout)
    c.command.name (some variant.opcode)).exec h.world).1

/-- What the documentation makes of the call. -/
def documents (T : Transport W) (c : ExecCall) (h : Host W) : Option Availability :=
  match requestOf c.command c.request c.confirm h with
  | none => none
  | some (variant, client, data) =>
      documented c.command variant h.session.context (c.responseTo T h variant client data)

/-- A reply that is a frame can be decoded. -/
def Decodes (T : Transport W) (c : ExecCall) (h : Host W) : Prop :=
  ∀ variant client data frame, requestOf c.command c.request c.confirm h = some (variant, client, data) →
    c.responseTo T h variant client data = .reply frame →
    (variant.decode frame h.session.context).isOk = true

/-- What the session records of the end of an exchange. -/
def recorded (c : ExecCall) : Except Exc Xbpi.XbpiFrame → Option Availability
  | .ok _ => some .supported
  | .error e => refusedAs c.command e

/-- What is recorded is what the table says, unless a reply cannot be decoded. -/
theorem recorded_eq (hT : Xbpi.NoRefusals T) (c : ExecCall) (h : Host W) (variant : XbpiVariant c.Req c.Resp)
    (client : XbpiClient) (data : Bytes)
    (hdec : ∀ frame, c.responseTo T h variant client data = .reply frame →
      (variant.decode frame h.session.context).isOk = true) :
    c.recorded (exchangeOf T c.command c.timeout h variant client data).1 =
      documented c.command variant h.session.context (c.responseTo T h variant client data) := by
  have hresponse := Xbpi.executeLocked_response hT client.disposed data
    (c.timeout.getD h.session.defaultTimeout) c.command.name (some variant.opcode) h.world
  cases hr : c.responseTo T h variant client data with
  | reply frame =>
      have hok := hdec frame hr
      rw [responseTo] at hr
      rw [hr] at hresponse
      rw [exchangeOf, hresponse, documented, if_pos hok]
      rfl
  | refusal code =>
      rw [responseTo] at hr
      rw [hr] at hresponse
      obtain ⟨frame, hrefused⟩ := hresponse
      rw [exchangeOf, hrefused]
      exact refusedAs_makeRefusal c.command variant h.session.context code frame _
  | failed =>
      rw [responseTo] at hr
      rw [hr] at hresponse
      obtain ⟨e, hfailed, hno⟩ := hresponse
      rw [exchangeOf, hfailed]
      exact refusedAs_none c.command hno

/-- A reply that is a frame can be decoded, or its command is known to be supported. -/
def Counted (T : Transport W) (c : ExecCall) (h : Host W) : Prop :=
  c.Decodes T h ∨ h.session.availabilityOf c.command.name = .supported

/-- A call leaves the session alone but for the availability of its command and the record of the warnings. -/
theorem perform_session (T : Transport W) (c : ExecCall) {h : Host W} (hactive : h.session.active = .xbpi) :
    ∃ p a, (c.perform T h).session = { h.session with warnedPriors := p }.record c.command.name a ∧
      match requestOf c.command c.request c.confirm h with
      | none => a = none
      | some (variant, client, data) =>
          a = c.recorded (exchangeOf T c.command c.timeout h variant client data).1 := by
  cases hsent : requestOf c.command c.request c.confirm h with
  | none =>
      obtain ⟨e, p, hrun⟩ := execute_unsent (T := T) hactive hsent c.timeout
      exact ⟨p, none, by rw [perform, hrun]; rfl, rfl⟩
  | some sent =>
      obtain ⟨variant, client, data⟩ := sent
      obtain ⟨p, hrun⟩ := execute_sent (T := T) hactive hsent c.timeout
      refine ⟨p, _, ?_, rfl⟩
      rw [perform, hrun]
      rcases exchangeOf T c.command c.timeout h variant client data with ⟨e | frame, w⟩ <;> rfl

/-- The availability follows the table in one call. -/
theorem perform_availability (hT : Xbpi.NoRefusals T) (c : ExecCall) {h : Host W}
    (hactive : h.session.active = .xbpi) (hg : c.Counted T h) (name : String) :
    (c.perform T h).session.availabilityOf name =
      if name = c.command.name then (c.documents T h).getD (h.session.availabilityOf name)
      else h.session.availabilityOf name := by
  obtain ⟨p, a, hsession, ha⟩ := c.perform_session T hactive
  have hafter : (c.perform T h).session.availabilityOf name =
      if name = c.command.name then a.getD (h.session.availabilityOf name)
      else h.session.availabilityOf name := by
    rw [hsession, Session.availabilityOf_record]
    rfl
  rw [hafter]
  by_cases hname : name = c.command.name
  swap
  · rw [if_neg hname, if_neg hname]
  rw [if_pos hname, if_pos hname]
  cases hsent : requestOf c.command c.request c.confirm h with
  | none =>
      rw [hsent] at ha
      rw [ha, documents, hsent]
  | some sent =>
      obtain ⟨variant, client, data⟩ := sent
      rw [hsent] at ha
      dsimp only at ha
      rw [ha, documents, hsent]
      dsimp only
      rcases hg with hdec | hknown
      · rw [recorded_eq hT c h variant client data fun frame => hdec variant client data frame hsent]
      · by_cases hdec : ∀ frame, c.responseTo T h variant client data = .reply frame →
            (variant.decode frame h.session.context).isOk = true
        · rw [recorded_eq hT c h variant client data hdec]
        · simp only [not_forall] at hdec
          obtain ⟨frame, hreply, hundec⟩ := hdec
          have hresponse := Xbpi.executeLocked_response hT client.disposed data
            (c.timeout.getD h.session.defaultTimeout) c.command.name (some variant.opcode) h.world
          rw [responseTo] at hreply
          rw [hreply] at hresponse
          rw [responseTo, hreply, exchangeOf, hresponse, documented, if_neg hundec, hname]
          exact hknown.symm

end ExecCall

/-! ## Every run -/

/-- A session with the availability that the documentation gives each command. -/
structure TableRun (W : Type) where
  host : Host W
  table : String → Availability

namespace TableRun

def step (T : Transport W) (s : TableRun W) (c : ExecCall) : Option (TableRun W) :=
  some
    { host := c.perform T s.host,
      table := fun name =>
        if name = c.command.name then (c.documents T s.host).getD (s.table name) else s.table name }

/-- The session of the run is in xBPI mode and agrees with the table. -/
structure Follows (s : TableRun W) : Prop where
  active : s.host.session.active = .xbpi
  agrees : ∀ name, s.host.session.availabilityOf name = s.table name

theorem step_follows (hT : Xbpi.NoRefusals T) (s : TableRun W) (c : ExecCall) (s' : TableRun W) (hs : s.Follows)
    (hg : c.Counted T s.host) (h : step T s c = some s') : s'.Follows := by
  cases h
  constructor
  · obtain ⟨p, a, hsession, -⟩ := c.perform_session T hs.active
    dsimp only
    rw [hsession]
    cases a <;> exact hs.active
  · intro name
    dsimp only
    rw [c.perform_availability hT hs.active hg, hs.agrees name]

/-- A command that is recorded as unsupported is refused without a trace. -/
theorem refused_of_unsupported (T : Transport W) (c : ExecCall) {h : Host W}
    (hun : h.session.availabilityOf c.command.name = .unsupported) :
    ∃ e, (execute T c.command c.request c.confirm c.timeout).exec h = (.error e, h) := by
  have hdenied : Gate.passes h.session c.command c.confirm Gate.knownDenied = false := by
    unfold Session.availabilityOf at hun
    cases hget : h.session.availability.get? c.command.name with
    | none => rw [hget] at hun; cases hun
    | some a =>
        rw [hget] at hun
        obtain rfl : a = .unsupported := hun
        simp [Gate.passes, hget]
  cases hgate : Gate.firstFailing h.session c.command c.confirm with
  | none =>
      rw [gates_open hgate Gate.knownDenied] at hdenied
      cases hdenied
  | some g =>
      obtain ⟨e, -, hrun⟩ := execute_firstFailing T c.command c.request c.confirm c.timeout h hgate
      exact ⟨_, hrun⟩

/-- In every run in which each new reply can be decoded the session agrees with the table, and commands that the
device denied are refused without a trace. -/
theorem availability_run (hT : Xbpi.NoRefusals T) {s s' : TableRun W} {calls : List ExecCall} (hs : s.Follows)
    (hg : Guarded (step T) (fun s c => c.Counted T s.host) s calls) (h : run (step T) s calls = some s') :
    (∀ name, s'.host.session.availabilityOf name = s'.table name) ∧
      ∀ c : ExecCall, s'.table c.command.name = .unsupported →
        ∃ e, (execute T c.command c.request c.confirm c.timeout).exec s'.host = (.error e, s'.host) := by
  have hend : s'.Follows := run_invariant (step_follows hT) hs hg h
  exact ⟨hend.agrees, fun c hc => refused_of_unsupported T c ((hend.agrees _).trans hc)⟩

/-- The serial transport raises transport errors only. -/
theorem serialTransport_noRefusals : Xbpi.NoRefusals serialTransport where
  write := by
    intro data timeout s e h
    simp only [serialTransport, SerialTransport.write, SerialTransport.requirePort] at h
    by_cases hopen : s.isOpen = true
    · simp only [exec_bind, exec_get, hopen, if_true, exec_pure, exec_ofFun] at h
      split at h <;> cases h <;> rfl
    · simp only [exec_bind, exec_get, hopen] at h
      cases h
      rfl
  readExact := by
    intro n timeout s e h
    simp only [serialTransport, SerialTransport.readExact, SerialTransport.readWith,
      SerialTransport.requirePort] at h
    by_cases hopen : s.isOpen = true
    · split_ifs at h with hn
      · simp only [exec_bind, exec_get, hopen, if_true, exec_pure] at h
        cases h
      · simp only [exec_bind, exec_get, hopen, if_true, exec_pure, exec_ofFun] at h
        split at h
        · cases h
        · cases h
          unfold SerialTransport.readExactTimeout
          split <;> rfl
        · cases h; rfl
        · cases h; rfl
        · cases h; rfl
    · split_ifs at h with hn
      all_goals
        simp only [exec_bind, exec_get, hopen] at h
        cases h
        rfl

/-- A session that has heard nothing yet, before a device that answers 0xBA with two bytes. -/
def talkative : TableRun SerialState where
  host :=
    { world := { settings := { port := "COM3" }, line := [[.chunk (Xbpi.assembleFrame 0x21 [0x01, 0x02])]] },
      session := { active := .xbpi, xbpi := some { id := 0 }, capabilities := [.configCounter] } }
  table _ := .unknown

def readCounter : ExecCall where
  command := Commands.CONFIG_COUNTER
  request := ()

/-- A device that knows no such command. -/
def ignorant : TableRun SerialState where
  host :=
    { world := { settings := { port := "COM3" }, line := [[.chunk (Xbpi.assembleFrame 0x01 [0x04])]] },
      session := { active := .xbpi, xbpi := some { id := 0 }, capabilities := [.configCounter] } }
  table _ := .unknown

theorem availability_run_ignorant : ∃ s', run (step serialTransport) ignorant [readCounter] = some s' ∧
    s'.table "config_counter" = .unsupported ∧
    (∀ name, s'.host.session.availabilityOf name = s'.table name) ∧
      ∀ c : ExecCall, s'.table c.command.name = .unsupported →
        ∃ e, (execute serialTransport c.command c.request c.confirm c.timeout).exec s'.host =
          (.error e, s'.host) := by
  have hdec : readCounter.Decodes serialTransport ignorant.host := by
    intro variant client data frame hsent hreply
    have hrefused : readCounter.documents serialTransport ignorant.host = some .unsupported := by decide +kernel
    rw [ExecCall.documents, hsent] at hrefused
    dsimp only at hrefused
    rw [hreply, documented] at hrefused
    split at hrefused <;> cases hrefused
  have hguard : Guarded (step serialTransport) (fun s c => c.Counted serialTransport s.host) ignorant
      [readCounter] := ⟨.inl hdec, fun _ _ => trivial⟩
  exact ⟨_, rfl, by decide +kernel,
    availability_run serialTransport_noRefusals ⟨rfl, fun _ => rfl⟩ hguard rfl⟩

/-- A reply that cannot be decoded makes its command supported. -/
theorem undecodable_recorded : ¬ ∀ s', run (step serialTransport) talkative [readCounter] = some s' →
    ∀ name, s'.host.session.availabilityOf name = s'.table name := by
  intro h
  have := h _ rfl "config_counter"
  revert this
  decide +kernel

end TableRun

end SartoriusLib
