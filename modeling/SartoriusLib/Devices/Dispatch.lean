import SartoriusLib.Devices.Gates
import SartoriusLib.Devices.Balance

/-!
# What a dispatch leaves alone

A command never changes the protocol, the client objects, the serial settings or the state of the session. A
property of the world that survives the writing of harmless data survives every command that is sent without
a confirmation: the typed commands are held back by the safety gate, the raw calls by their safe-lists.
-/

namespace SartoriusLib

open Lib Session

/-! ## Harmless data -/

/-- The opcodes that are sent without a confirmation: the safe-list, tare and zero. -/
def unconfirmedOpcodes : List Int := Commands.safeReadOnlyOpcodes ++ [0x14, 0x18]

def unconfirmedTokens : List Bytes := Sbi.sbiReadOnlyTokens ++ [Sbi.TOKEN_TARE, Sbi.TOKEN_ZERO]

/-- What may be written without a confirmation over each protocol. -/
inductive Unconfirmed : ProtocolKind → Bytes → Prop where
  | frame {opcode srcSbn dstSbn : Int} {args data : Bytes} (hop : opcode ∈ unconfirmedOpcodes)
      (hdata : Xbpi.buildCommand opcode args srcSbn dstSbn = .ok data) : Unconfirmed .xbpi data
  | token {data : Bytes} (hdata : data ∈ unconfirmedTokens) : Unconfirmed .sbi data

/-- A frame has one opcode only. -/
theorem buildCommand_opcode_inj {op op' src src' dst dst' : Int} {args args' data : Bytes}
    (h : Xbpi.buildCommand op args src dst = .ok data)
    (h' : Xbpi.buildCommand op' args' src' dst' = .ok data) : op = op' := by
  obtain ⟨⟨h₀, h₁⟩, -⟩ := Xbpi.buildCommand_eq_ok h
  obtain ⟨⟨h₀', h₁'⟩, -⟩ := Xbpi.buildCommand_eq_ok h'
  have hbyte : some (Xbpi.toByte op) = some (Xbpi.toByte op') :=
    (Xbpi.buildCommand_opcode h).symm.trans (Xbpi.buildCommand_opcode h')
  rw [← Xbpi.toByte_toNat h₀ h₁, Option.some.inj hbyte, Xbpi.toByte_toNat h₀' h₁']

/-- However a harmless frame was built, its opcode is harmless. -/
theorem Unconfirmed.opcode {op src dst : Int} {args data : Bytes} (h : Unconfirmed .xbpi data)
    (hdata : Xbpi.buildCommand op args src dst = .ok data) : op ∈ unconfirmedOpcodes := by
  cases h with
  | frame hop hframe => exact buildCommand_opcode_inj hframe hdata ▸ hop

/-! ## A property of the world -/

variable {W : Type}

/-- Every operation of the transport keeps `K`, as long as harmless data of the protocol `p` is written. -/
structure Transport.Keeps (T : Transport W) (K : W → Prop) (p : ProtocolKind) : Prop where
  write : ∀ {data}, Unconfirmed p data → ∀ timeout, Prog.Keeps K (T.write data timeout)
  readExact : ∀ n timeout, Prog.Keeps K (T.readExact n timeout)
  readUntil : ∀ separator timeout, Prog.Keeps K (T.readUntil separator timeout)
  drainInput : Prog.Keeps K T.drainInput

theorem Transport.keeps_true (T : Transport W) (p : ProtocolKind) : T.Keeps (fun _ => True) p where
  write _ _ := fun _ _ => trivial
  readExact _ _ := fun _ _ => trivial
  readUntil _ _ := fun _ _ => trivial
  drainInput := fun _ _ => trivial

def OnlyUnconfirmed (p : ProtocolKind) (l : Logged W) : Prop := ∀ data ∈ l.written, Unconfirmed p data

theorem Logged.lift_keeps {α : Type} (p : ProtocolKind) (m : Py W α) :
    Prog.Keeps (OnlyUnconfirmed p) (Logged.lift m) :=
  fun _ hl => hl

theorem logged_keeps (T : Transport W) (p : ProtocolKind) : (logged T).Keeps (OnlyUnconfirmed p) p where
  write := by
    intro data hdata timeout
    refine Prog.Keeps.bind (Prog.Keeps.modify fun l hl b hb => ?_) fun _ => Logged.lift_keeps p _
    rcases List.mem_append.mp hb with hb | hb
    · exact hl b hb
    · exact List.mem_singleton.mp hb ▸ hdata
  readExact _ _ := Logged.lift_keeps p _
  readUntil _ _ := Logged.lift_keeps p _
  drainInput := Logged.lift_keeps p _

variable {T : Transport W} {K : W → Prop} {p : ProtocolKind} {i : Nat}

section Clients

open Prog

/-- What the reads keep, a call keeps when its write does. -/
theorem Xbpi.executeLocked_reads (hT : T.Keeps K p) {request : Bytes} {timeout : Rat} {w : W} (hw : K w)
    (hwrite : K ((T.write request timeout).exec w).2) (disposed : Bool) (commandName : String)
    (opcode : Option Int) : K ((Xbpi.executeLocked T disposed request timeout commandName opcode).exec w).2 := by
  have hread : Keeps K (Xbpi.readRaw T timeout) :=
    (hT.readExact 1 timeout).bind fun _ => (hT.readExact _ timeout).bind fun _ => .pure _
  rw [Xbpi.executeLocked]
  split
  · exact hw
  · rw [exec_bind]
    rcases hrun : (T.write request timeout).exec w with ⟨e | u, w'⟩
    · rw [hrun] at hwrite
      exact hwrite
    · rw [hrun] at hwrite
      refine Keeps.bind hread (fun raw => ?_) w' hwrite
      cases Xbpi.parseFrame raw with
      | error e => exact (Keeps.exceptException hT.drainInput fun _ => .pure _).bind fun _ => .throw _
      | ok frame => exact Keeps.liftExcept _

theorem Xbpi.executeLocked_keeps (hT : T.Keeps K p) {request : Bytes} (hreq : Unconfirmed p request)
    (disposed : Bool) (timeout : Rat) (commandName : String) (opcode : Option Int) :
    Keeps K (Xbpi.executeLocked T disposed request timeout commandName opcode) :=
  fun w hw => executeLocked_reads hT hw (hT.write hreq timeout w hw) disposed commandName opcode

namespace Sbi

@[simp] theorem SbiClient.markAutoprintActive_id (c : SbiClient) (pending : Bytes) :
    (c.markAutoprintActive pending).id = c.id := by
  unfold markAutoprintActive queuePendingFront
  split_ifs with hempty hline
  · rfl
  · cases splitLines pending <;> rfl
  · rfl

/-- The client is the object `i`, and the world is in `K`. -/
abbrev AtClient (i : Nat) (K : W → Prop) (s : SbiLink W) : Prop := s.client.id = i ∧ K s.world

theorem onTransport_keeps {α : Type} {m : Py W α} (hm : Keeps K m) : Keeps (AtClient i K) (onTransport m) :=
  fun s hs => ⟨hs.1, hm s.world hs.2⟩

theorem modifyClient_keeps (f : SbiClient → SbiClient) (hf : ∀ c, (f c).id = c.id) :
    Keeps (AtClient i K) (modifyClient f) :=
  .modify fun s hs => ⟨(hf s.client).trans hs.1, hs.2⟩

theorem raiseIfDisposed_keeps (commandName : String) (sbiToken : Option Bytes) :
    Keeps (AtClient i K) (raiseIfDisposed commandName sbiToken) :=
  Keeps.get.bind fun _ => .ite (fun _ => .throw _) fun _ => .pure _

theorem parseOrDrain_keeps (hT : T.Keeps K p) (raw : Bytes) (commandName : String) (sbiToken : Option Bytes) :
    Keeps K (parseOrDrain T raw commandName sbiToken) := by
  rw [parseOrDrain]
  cases parseReply raw with
  | error e => exact (Keeps.exceptException hT.drainInput fun _ => .pure _).bind fun _ => .throw _
  | ok reply =>
      dsimp only
      cases replyRefusal reply commandName sbiToken with
      | some e => exact .throw _
      | none => exact .pure _

theorem readLines_keeps (hT : T.Keeps K p) (timeout : Rat) (n : Nat) : Keeps K (readLines T timeout n) := by
  induction n with
  | zero => exact .pure _
  | succ n ih => exact (hT.readUntil _ _).bind fun _ => ih.bind fun _ => .pure _

theorem executeLocked_reads (hT : T.Keeps K p) {request : Bytes} {timeout : Rat} {s : SbiLink W}
    (hs : AtClient i K s) (hwrite : K ((T.write request timeout).exec s.world).2) (commandName : String)
    (sbiToken : Option Bytes) (expectLines : Nat) :
    AtClient i K ((executeLocked T request timeout commandName sbiToken expectLines).exec s).2 := by
  rw [executeLocked]
  by_cases hdisposed : s.client.disposed = true
  · rw [exec_bind_error (raiseIfDisposed_disposed hdisposed _ _)]
    exact hs
  · rw [exec_bind_ok (raiseIfDisposed_live hdisposed _ _), exec_bind, onTransport, exec_zoom]
    rcases hrun : (T.write request timeout).exec s.world with ⟨e | u, w⟩
    · rw [hrun] at hwrite
      exact ⟨hs.1, hwrite⟩
    · rw [hrun] at hwrite
      refine Keeps.ite (I := AtClient i K) (fun _ => .pure _) (fun _ => ?_) ⟨s.client, w⟩ ⟨hs.1, hwrite⟩
      exact (onTransport_keeps (readLines_keeps hT timeout _)).bind fun _ =>
        onTransport_keeps (parseOrDrain_keeps hT _ _ _)

theorem execute_keeps (hT : T.Keeps K p) {request : Bytes} (hreq : Unconfirmed p request) (timeout : Rat)
    (commandName : String) (sbiToken : Option Bytes) (expectLines : Int) :
    Keeps (AtClient i K) (execute T request timeout commandName sbiToken expectLines) := by
  rw [execute]
  exact .ite (fun _ => .throw _) fun _ => fun s hs =>
    executeLocked_reads hT hs (hT.write hreq timeout s.world hs.2) commandName sbiToken _

theorem readLine_keeps (hT : T.Keeps K p) (timeout : Rat) (commandName : String) :
    Keeps (AtClient i K) (readLine T timeout commandName) := by
  refine (raiseIfDisposed_keeps _ _).bind fun _ => Keeps.get.bind fun s => ?_
  cases s.client.pendingLines with
  | nil =>
      exact (onTransport_keeps (hT.readUntil _ _)).bind fun _ => onTransport_keeps (parseOrDrain_keeps hT _ _ _)
  | cons raw later =>
      exact (modifyClient_keeps _ (by intro _; rfl)).bind fun _ => onTransport_keeps (parseOrDrain_keeps hT _ _ _)

theorem sniffLines_keeps (hT : T.Keeps K p) (maxLines : Nat) (clock : List Rat) :
    Keeps (AtClient i K) (sniffLines T maxLines clock) := by
  induction clock with
  | nil => exact .pure _
  | cons remaining clock ih =>
      refine Keeps.get.bind fun s => .ite (fun _ => ?_) fun _ => .pure _
      have hread : Keeps (AtClient i K) (exceptClasses [.timeoutError]
          (some <$> onTransport (T.readUntil lineTerminator remaining)) fun _ => pure none) :=
        Keeps.exceptClasses ((onTransport_keeps (hT.readUntil _ _)).map _) fun _ => .pure _
      refine hread.bind fun line => ?_
      cases line with
      | none => exact .pure _
      | some raw =>
          exact (modifyClient_keeps _ (by intro _; rfl)).bind fun _ =>
            .ite (fun _ => modifyClient_keeps _ (by intro _; rfl)) fun _ => ih

theorem refreshAutoprintState_keeps (hT : T.Keeps K p) (clock : List Rat) :
    Keeps (AtClient i K) (refreshAutoprintState T clock) :=
  (raiseIfDisposed_keeps _ _).bind fun _ => (modifyClient_keeps _ (by intro _; rfl)).bind fun _ =>
    (sniffLines_keeps hT _ clock).bind fun _ => Keeps.get.bind fun _ => .pure _

end Sbi

end Clients

/-! ## The session -/

/-- The part of a session that only a change of the protocol touches; a client is known by its identity. -/
structure Session.Frame where
  active : ProtocolKind
  xbpi : Option Nat
  sbi : Option Nat
  serialSettings : Option SerialSettings
  state : SessionState
  deriving DecidableEq, Repr

def Session.frame (s : Session) : Session.Frame where
  active := s.active
  xbpi := s.xbpi.map (·.id)
  sbi := s.sbi.map (·.id)
  serialSettings := s.serialSettings
  state := s.state

section Dispatch

open Prog

variable {Req Resp α : Type}

/-- The protocol is that of `v`, the client objects are those of `v` and so on; the clients of `gone` are
disposed, and the world is in `K`. -/
abbrev AtFrame (v : Session.Frame) (gone : List Nat) (K : W → Prop) (h : Host W) : Prop :=
  h.session.frame = v ∧ h.retired = gone ∧ K h.world

variable {v : Session.Frame} {gone : List Nat}

theorem onWorld_keeps {m : Py W α} (hm : Keeps K m) : Keeps (AtFrame v gone K) (onWorld m) :=
  fun h hh => ⟨hh.1, hh.2.1, hm h.world hh.2.2⟩

theorem modifySession_keeps (f : Session → Session) (hf : ∀ s, (f s).frame = s.frame) :
    Keeps (AtFrame v gone K) (modifySession f) :=
  .modify fun h hh => ⟨(hf h.session).trans hh.1, hh.2⟩

theorem onSbi_keeps {c : Sbi.SbiClient} {m : Py (Sbi.SbiLink W) α} (hc : v.sbi = some c.id)
    (hm : Keeps (Sbi.AtClient c.id K) m) : Keeps (AtFrame v gone K) (onSbi c m) := by
  intro h hh
  obtain ⟨hid, hworld⟩ := hm { client := c, world := h.world } ⟨rfl, hh.2.2⟩
  refine ⟨?_, hh.2.1, hworld⟩
  rw [← hh.1] at hc ⊢
  simp only [Session.frame] at hc ⊢
  simp only [onSbi, Prog.exec_ofFun, Option.map_some, hid, hc]

theorem liftExc_keeps {σ : Type} {I : σ → Prop} (x : Except Exc α) : Keeps I (liftExc x : Py σ α) := by
  cases x <;> exact fun _ hs => hs

/-- What follows a check may use that the check returned. -/
theorem liftExcept_bind_keeps {σ β : Type} {I : σ → Prop} {x : Except SartoriusError α} {f : α → Py σ β}
    (h : ∀ a, x = .ok a → Keeps I (f a)) : Keeps I (liftExcept x >>= f) := by
  cases x with
  | error e => exact fun _ hs => hs
  | ok a => exact h a rfl

theorem liftExc_bind_keeps {σ β : Type} {I : σ → Prop} {x : Except Exc α} {f : α → Py σ β}
    (h : ∀ a, x = .ok a → Keeps I (f a)) : Keeps I (liftExc x >>= f) := by
  cases x with
  | error e => exact fun _ hs => hs
  | ok a => exact h a rfl

/-- The requests that a command encodes are harmless. -/
structure Harmless (command : Command Req Resp) (request : Req) : Prop where
  xbpi : ∀ variant, command.xbpi = some variant → ∀ ctx data, variant.encode ctx request = .ok data →
    Unconfirmed .xbpi data
  sbi : ∀ variant, command.sbi = some variant → ∀ ctx data, variant.encode ctx request = .ok data →
    Unconfirmed .sbi data

theorem xbpiRefused_keeps (command : Command Req Resp) (e : Exc) :
    Keeps (AtFrame v gone K) (xbpiRefused command e : Py (Host W) α) := by
  unfold xbpiRefused
  cases e with
  | sartorius err =>
      exact .ite
        (fun _ => .ite (fun _ => .throw _) fun _ => (modifySession_keeps _ (by intro _; rfl)).bind fun _ => .throw _)
        fun _ => .ite (fun _ => (modifySession_keeps _ (by intro _; rfl)).bind fun _ => .throw _) fun _ => .throw _
  | _ => exact .throw _

theorem gatePriors_keeps (command : Command Req Resp) :
    Keeps (AtFrame v gone K) (gatePriors command) :=
  Keeps.get.bind fun _ => .ite (fun _ => .pure _) fun _ => .ite (fun _ => .throw _) fun _ =>
    .ite (fun _ => .pure _) fun _ => (modifySession_keeps _ (by intro _; rfl)).bind fun _ =>
      Keeps.get.bind fun _ => .ite (fun _ => .throw _) fun _ => .pure _

theorem executeXbpi_keeps (hT : T.Keeps K v.active) (hv : v.active = .xbpi) {command : Command Req Resp}
    {request : Req} (hharm : Harmless command request) (timeout : Option Rat) :
    Keeps (AtFrame v gone K) (executeXbpi T command request timeout) := by
  rw [hv] at hT
  refine Keeps.get.bind fun h => ?_
  split
  · exact Keeps.raise _ _ _
  · rename_i variant hvariant
    dsimp only
    split
    · exact Keeps.raise _ _ _
    · refine liftExc_bind_keeps fun data hdata => ?_
      have hcall := Xbpi.executeLocked_keeps hT (hharm.xbpi variant hvariant _ data hdata)
      exact ((onWorld_keeps (hcall _ _ _ _)).tryCatch fun e => xbpiRefused_keeps command e).bind fun frame =>
        (modifySession_keeps _ (by intro _; rfl)).bind fun _ => liftExc_keeps _

theorem sbiExchange_keeps (hT : T.Keeps K v.active) {client : Sbi.SbiClient} (hc : v.sbi = some client.id)
    {request : Bytes} (hreq : Unconfirmed v.active request) (timeout : Rat) (commandName : String)
    (sbiToken : Bytes) (expectLines : Int) :
    Keeps (AtFrame v gone K) (sbiExchange T client request timeout commandName sbiToken expectLines) := by
  refine Keeps.get.bind fun _ => .ite (fun _ => .throw _) fun _ => ?_
  refine (onSbi_keeps hc (Sbi.execute_keeps hT hreq _ _ _ _)).bind fun reply => Keeps.get.bind fun _ => ?_
  refine .ite (fun _ => (modifySession_keeps _ fun s => ?_).bind fun _ => .throw _) fun _ => .pure _
  cases h : s.sbi <;> simp [Session.frame, h]

theorem executeSbi_keeps (hT : T.Keeps K v.active) (hv : v.active = .sbi) {command : Command Req Resp}
    {request : Req} (hharm : Harmless command request) (timeout : Option Rat) :
    Keeps (AtFrame v gone K) (executeSbi T command request timeout) := by
  refine Keeps.get_bind fun h hh => ?_
  split
  · exact Keeps.raise _ _ _
  · rename_i variant hvariant
    dsimp only
    split
    · exact Keeps.raise _ _ _
    · rename_i client hclient
      have hc : v.sbi = some client.id := by rw [← hh.1, Session.frame, hclient]; rfl
      refine liftExc_bind_keeps fun data hdata => ?_
      have hreq : Unconfirmed v.active data := hv ▸ hharm.sbi variant hvariant _ data hdata
      exact (sbiExchange_keeps hT hc hreq _ _ _ _).bind fun reply =>
        (modifySession_keeps _ (by intro _; rfl)).bind fun _ => liftExc_keeps _

/-- Without a confirmation the safety gate passes the first two tiers only. -/
theorem gateSafety_unconfirmed {s : Session} {command : Command Req Resp}
    (h : s.gateSafety command false = .ok ()) : command.safety = .readOnly ∨ command.safety = .stateful := by
  unfold gateSafety at h
  split at h
  · assumption
  · cases h

/-- A command without a confirmation writes nothing harmful, when those of the first two tiers are harmless. -/
theorem execute_keeps (hT : T.Keeps K v.active) (command : Command Req Resp) (request : Req)
    (hharm : command.safety = .readOnly ∨ command.safety = .stateful → Harmless command request)
    (timeout : Option Rat) :
    Keeps (AtFrame v gone K) (execute T command request false timeout) := by
  refine Keeps.get_bind fun h hh => liftExcept_bind_keeps fun _ _ => liftExcept_bind_keeps fun _ hsafety =>
    liftExcept_bind_keeps fun _ _ => liftExcept_bind_keeps fun _ _ => (gatePriors_keeps command).bind fun _ => ?_
  have hreq := hharm (gateSafety_unconfirmed hsafety)
  obtain ⟨rfl, -⟩ := hh
  split
  · exact executeXbpi_keeps hT ‹_› hreq timeout
  · exact executeSbi_keeps hT ‹_› hreq timeout
  · exact Keeps.raise _ _ _

/-! ## The commands -/

theorem frameOf_unconfirmed {opcode : Int} {args data : Bytes} {ctx : CommandContext}
    (hop : opcode ∈ unconfirmedOpcodes) (h : Commands.frameOf opcode args ctx = .ok data) :
    Unconfirmed .xbpi data := by
  rw [Commands.frameOf, Commands.lift] at h
  cases hb : Xbpi.buildCommand opcode args ctx.srcSbn ctx.dstSbn with
  | error e => rw [hb] at h; cases h
  | ok frame =>
      rw [hb] at h
      cases h
      exact .frame hop hb

/-- A command over xBPI without arguments. -/
theorem Harmless.noArgs {command : Command Req Resp} {opcode : Int}
    {decode : Xbpi.XbpiFrame → CommandContext → Except Exc Resp}
    (hx : command.xbpi = some (Commands.noArgs opcode decode)) (hop : opcode ∈ unconfirmedOpcodes)
    (hs : command.sbi = none) (request : Req) : Harmless command request where
  xbpi := by
    intro variant hvariant ctx data h
    cases hx.symm.trans hvariant
    exact frameOf_unconfirmed hop h
  sbi := by
    intro variant hvariant
    cases hs.symm.trans hvariant

/-- A command over xBPI with one argument. -/
theorem Harmless.oneArg {command : Command Req Resp} {opcode : Int} {arg : Req → Int}
    {decode : Xbpi.XbpiFrame → CommandContext → Except Exc Resp}
    (hx : command.xbpi = some (Commands.oneArg opcode arg decode)) (hop : opcode ∈ unconfirmedOpcodes)
    (hs : command.sbi = none) (request : Req) : Harmless command request where
  xbpi := by
    intro variant hvariant ctx data h
    cases hx.symm.trans hvariant
    simp only [Commands.oneArg, bind, Except.bind] at h
    split at h
    · cases h
    · exact frameOf_unconfirmed hop h
  sbi := by
    intro variant hvariant
    cases hs.symm.trans hvariant

/-- A command over both protocols. -/
theorem Harmless.both {command : Command Req Resp} {opcode : Int} {token : Bytes} {expectLines : Int}
    {decode : Xbpi.XbpiFrame → CommandContext → Except Exc Resp}
    {decode' : Sbi.SbiReply → CommandContext → Except Exc Resp}
    (hx : command.xbpi = some (Commands.noArgs opcode decode)) (hop : opcode ∈ unconfirmedOpcodes)
    (hs : command.sbi = some (Commands.tokenVariant token expectLines decode'))
    (htoken : token ∈ unconfirmedTokens) (request : Req) : Harmless command request where
  xbpi := by
    intro variant hvariant ctx data h
    cases hx.symm.trans hvariant
    exact frameOf_unconfirmed hop h
  sbi := by
    intro variant hvariant ctx data h
    cases hs.symm.trans hvariant
    cases h
    exact .token htoken

/-- A command that wants a confirmation is not sent without one. -/
theorem execute_keeps_of_needsConfirm (hT : T.Keeps K v.active) (command : Command Req Resp) (request : Req)
    (hsafety : ¬ (command.safety = .readOnly ∨ command.safety = .stateful)) (timeout : Option Rat) :
    Keeps (AtFrame v gone K) (execute T command request false timeout) :=
  execute_keeps hT command request (fun h => absurd h hsafety) timeout

theorem configCounter_keeps (hT : T.Keeps K v.active) (timeout : Option Rat) :
    Keeps (AtFrame v gone K) (readConfigCounter T timeout) :=
  execute_keeps hT _ _ (fun _ => .noArgs rfl (by decide) rfl _) _

theorem serve_keeps (cacheKey : String) (value : CachedValue) (origin : W) :
    Keeps (AtFrame v gone K) (serve cacheKey value origin) :=
  Keeps.bind (.modify fun _ hh => hh) fun _ => .pure _

theorem cachedExecute_keeps (hT : T.Keeps K v.active) (command : Command Req Resp) (request : Req)
    (hharm : Harmless command request) (wrap : Resp → CachedValue) (cacheKey : String) (timeout : Option Rat) :
    Keeps (AtFrame v gone K) (cachedExecute T command request wrap cacheKey false timeout) := by
  have hrun : Keeps (AtFrame v gone K) (wrap <$> execute T command request false timeout) :=
    (execute_keeps hT command request (fun _ => hharm) timeout).map wrap
  refine Keeps.get.bind fun h => .ite (fun _ => hrun.bind fun _ => Keeps.get.bind fun _ => serve_keeps _ _ _)
    fun _ => ?_
  refine (configCounter_keeps hT timeout).bind fun counter => Keeps.get.bind fun h => ?_
  have hfresh : Keeps (AtFrame v gone K) (do
      let result ← wrap <$> execute T command request false timeout
      modifySession fun s => { s with resultCache := s.resultCache.set cacheKey (counter, result) }
      modify fun h' => { h' with origins := h'.origins.set cacheKey h.world }
      serve cacheKey result h.world) :=
    hrun.bind fun _ => (modifySession_keeps _ (by intro _; rfl)).bind fun _ =>
      Keeps.bind (.modify fun _ hh => hh) fun _ => serve_keeps _ _ _
  dsimp only
  split
  · exact .ite (fun _ => serve_keeps _ _ _) fun _ => hfresh
  · exact hfresh

/-! ## Raw calls -/

theorem executeRawXbpi_keeps (hT : T.Keeps K v.active) (opcode : Int) (args : Bytes)
    (timeout : Option Rat) : Keeps (AtFrame v gone K) (executeRawXbpi T opcode args false timeout) := by
  refine Keeps.get_bind fun h hh => liftExcept_bind_keeps fun _ _ => .ite (fun _ => Keeps.raise _ _ _)
    fun hactive => ?_
  have hv : v.active = .xbpi := hh.1 ▸ not_not.mp hactive
  rw [hv] at hT
  split
  · exact Keeps.raise _ _ _
  · refine .ite (fun _ => Keeps.raise _ _ _) fun hsafe => liftExcept_bind_keeps fun data hdata => ?_
    have hop : opcode ∈ Commands.safeReadOnlyOpcodes := by simpa using hsafe
    exact onWorld_keeps (Xbpi.executeLocked_keeps hT (.frame (List.mem_append_left _ hop) hdata) _ _ _ _)

theorem executeRawSbi_keeps (hT : T.Keeps K v.active) (command : Sbi.SbiCommand) (timeout : Option Rat)
    (expectLines : Int) : Keeps (AtFrame v gone K) (executeRawSbi T command false timeout expectLines) := by
  refine Keeps.get_bind fun h hh => liftExcept_bind_keeps fun _ _ => .ite (fun _ => Keeps.raise _ _ _)
    fun hactive => ?_
  have hv : v.active = .sbi := hh.1 ▸ not_not.mp hactive
  split
  · exact Keeps.raise _ _ _
  · rename_i client hclient
    have hc : v.sbi = some client.id := by rw [← hh.1, Session.frame, hclient]; rfl
    refine liftExc_bind_keeps fun token _ => .ite (fun _ => Keeps.raise _ _ _) fun hsafe => ?_
    have htoken : token ∈ Sbi.sbiReadOnlyTokens := by simpa using hsafe
    have hreq : Unconfirmed v.active token := hv ▸ .token (List.mem_append_left _ htoken)
    exact sbiExchange_keeps hT hc hreq _ _ _ _

/-- The client that `requireSbi` finds is the one of the session. -/
theorem requireSbi_bind_keeps (name refusal : String) {f : Sbi.SbiClient → Py (Host W) α}
    (hf : ∀ c, v.sbi = some c.id → Keeps (AtFrame v gone K) (f c)) :
    Keeps (AtFrame v gone K) (requireSbi name refusal >>= f) := by
  intro h hh
  rw [requireSbi]
  by_cases hactive : h.session.active = .sbi
  · cases hclient : h.session.sbi with
    | none => simpa [Prog.exec_bind, hactive, hclient] using hh
    | some c =>
        have hc : v.sbi = some c.id := by rw [← hh.1, Session.frame, hclient]; rfl
        simpa [Prog.exec_bind, hactive, hclient] using hf c hc h hh
  · simpa [Prog.exec_bind, hactive] using hh

theorem readAutoprintLoop_keeps (hT : T.Keeps K p) (clock : List Rat) (remaining : Rat) :
    Keeps (Sbi.AtClient i K) (readAutoprintLoop T clock remaining) := by
  induction clock generalizing remaining with
  | nil =>
      rw [readAutoprintLoop]
      refine (Sbi.readLine_keeps hT _ _).bind fun reply => ?_
      cases Sbi.requireReading reply with
      | ok reading => exact (Sbi.modifyClient_keeps _ fun c => by simp).bind fun _ => .pure _
      | error e => exact .throw _
  | cons next clock ih =>
      rw [readAutoprintLoop]
      refine (Sbi.readLine_keeps hT _ _).bind fun reply => ?_
      cases Sbi.requireReading reply with
      | ok reading => exact (Sbi.modifyClient_keeps _ fun c => by simp).bind fun _ => .pure _
      | error e => exact ih next

theorem readSbiAutoprintReading_keeps (hT : T.Keeps K v.active) (remaining : Rat) (clock : List Rat) :
    Keeps (AtFrame v gone K) (readSbiAutoprintReading T remaining clock) :=
  Keeps.get.bind fun _ => requireSbi_bind_keeps _ _ fun _ hc =>
    onSbi_keeps hc (readAutoprintLoop_keeps hT clock remaining)

theorem refreshSbiAutoprintState_keeps (hT : T.Keeps K v.active) (clock : List Rat) :
    Keeps (AtFrame v gone K) (refreshSbiAutoprintState T clock) :=
  requireSbi_bind_keeps _ _ fun _ hc => onSbi_keeps hc (Sbi.refreshAutoprintState_keeps hT clock)

end Dispatch

end SartoriusLib
