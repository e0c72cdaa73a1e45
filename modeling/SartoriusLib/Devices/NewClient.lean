import SartoriusLib.Devices.Switching

/-!
# The client of a switch

A switch of the protocol makes one new client, whose identity no client had before.
-/

namespace SartoriusLib

open Lib Prog

variable {W α : Type} {T : Transport W} {f : W → Bool} {h h' : Host W}

/-- No operation of the transport changes `f`. -/
structure Transport.Fixes (T : Transport W) (f : W → Bool) : Prop where
  write : ∀ data timeout, Leaves f (T.write data timeout)
  readExact : ∀ n timeout, Leaves f (T.readExact n timeout)
  readUntil : ∀ separator timeout, Leaves f (T.readUntil separator timeout)
  drainInput : Leaves f T.drainInput
  reopen : ∀ baudrate parity stopbits, Leaves f (T.reopen baudrate parity stopbits)

theorem Transport.Fixes.keeps (hT : T.Fixes f) (v : Bool) (p : ProtocolKind) : T.Keeps (fun w => f w = v) p where
  write _ timeout := (hT.write _ timeout).keeps v
  readExact n timeout := (hT.readExact n timeout).keeps v
  readUntil separator timeout := (hT.readUntil separator timeout).keeps v
  drainInput := hT.drainInput.keeps v

theorem Transport.Fixes.xbpi (hT : T.Fixes f) (disposed : Bool) (request : Bytes) (timeout : Rat)
    (commandName : String) (opcode : Option Int) :
    Leaves f (Xbpi.executeLocked T disposed request timeout commandName opcode) :=
  .of_keeps fun v w hw => Xbpi.executeLocked_reads (hT.keeps v .xbpi) hw
    ((hT.write request timeout).keeps v w hw) disposed commandName opcode

/-! ## Only the world changes -/

/-- The session is that of `h`, and so are the clients. -/
structure OnlyWorld (f : W → Bool) (h h' : Host W) : Prop where
  session : h'.session = h.session
  info : h'.info = h.info
  retired : h'.retired = h.retired
  nextId : h'.nextId = h.nextId
  world : f h'.world = f h.world

theorem OnlyWorld.refl (f : W → Bool) (h : Host W) : OnlyWorld f h h := ⟨rfl, rfl, rfl, rfl, rfl⟩

theorem onWorld_onlyWorld {m : Py W α} (hm : Leaves f m) : Keeps (OnlyWorld f h) (onWorld m) :=
  fun s hs => ⟨hs.session, hs.info, hs.retired, hs.nextId, (hm s.world).trans hs.world⟩

namespace Balance

/-- The new SBI client is the same object after a call on it. -/
theorem onNewSbi_onlyWorld {c : Sbi.SbiClient} {m : Py (Sbi.SbiLink W) α}
    (hm : ∀ v, Keeps (Sbi.AtClient c.id fun w => f w = v) m) :
    Triple (OnlyWorld f h) (onNewSbi c m) (fun c' s => c'.id = c.id ∧ OnlyWorld f h s) fun _ _ => True := by
  intro s hs
  obtain ⟨hid, hworld⟩ := hm (f s.world) ⟨c, s.world⟩ ⟨rfl, rfl⟩
  rw [onNewSbi, exec_ofFun]
  rcases hrun : m.exec ⟨c, s.world⟩ with ⟨e | a, link⟩
  · trivial
  · rw [hrun] at hid hworld
    exact ⟨hid, hs.session, hs.info, hs.retired, hs.nextId, hworld.trans hs.world⟩

/-- The new client of a switch to `target`, by its identity. -/
inductive Made (n : Nat) : ProtocolKind → Option XbpiClient × Option Sbi.SbiClient → Prop where
  | xbpi (c : XbpiClient) (hid : c.id = n) : Made n .xbpi (some c, none)
  | sbi (c : Sbi.SbiClient) {target : ProtocolKind} (htarget : target ≠ .xbpi) (hid : c.id = n) :
      Made n target (none, some c)

theorem newClients_made (hT : T.Fixes f) (target : ProtocolKind) (srcSbn dstSbn : Int) (timeout : Rat)
    (clock : List Rat) :
    Triple (OnlyWorld f h) (newClients T target srcSbn dstSbn timeout clock)
      (fun clients s => Made h.nextId target clients ∧ OnlyWorld f { h with nextId := h.nextId + 1 } s)
      fun _ _ => True := by
  have hfresh : Triple (OnlyWorld f h) (freshId : Py (Host W) Nat)
      (fun id s => id = h.nextId ∧ OnlyWorld f { h with nextId := h.nextId + 1 } s) fun _ _ => True := by
    intro s hs
    rw [freshId, exec_bind_ok (exec_get s)]
    exact ⟨hs.nextId, hs.session, hs.info, hs.retired, congrArg (· + 1) hs.nextId, hs.world⟩
  have hverify : Keeps (OnlyWorld f { h with nextId := h.nextId + 1 }) (verifyXbpi T srcSbn dstSbn timeout) :=
    (liftExc_keeps _).bind fun _ => (onWorld_onlyWorld (hT.xbpi _ _ _ _ _)).bind fun _ => .pure _
  have hsniff : ∀ i v, Keeps (Sbi.AtClient i fun w => f w = v) (Sbi.detectAutoprint T clock) := fun i v =>
    (Sbi.raiseIfDisposed_keeps _ _).bind fun _ => (Sbi.sniffLines_keeps (hT.keeps v .sbi) _ _).bind fun _ =>
      Keeps.get.bind fun _ => .pure _
  have htoken : Unconfirmed .sbi Sbi.TOKEN_TYPE := .token (by decide)
  have hprobe : ∀ i v, Keeps (Sbi.AtClient i fun w => f w = v) (Sbi.execute T Sbi.TOKEN_TYPE timeout
      "configure_protocol_verify" (some Sbi.TOKEN_TYPE) 1) := fun i v =>
    Sbi.execute_keeps (hT.keeps v .sbi) htoken _ _ _ _
  refine hfresh.bind fun id s hs => ?_
  obtain ⟨rfl, hs⟩ := hs
  by_cases htarget : target = .xbpi
  · subst htarget
    rw [if_pos rfl]
    refine (hverify.triple.conseq (fun _ => id) (fun _ _ => id) fun _ _ _ => trivial).bind
      (fun _ => .pure fun s hs => ⟨.xbpi _ rfl, hs⟩) s hs
  · rw [if_neg htarget]
    refine Triple.bind (onNewSbi_onlyWorld (hsniff _)) (fun client => ?_) s hs
    rintro s ⟨hid, hs⟩
    by_cases hauto : client.autoprintActive = true
    · rw [if_pos hauto]
      exact ⟨.sbi client htarget hid, hs⟩
    · rw [if_neg hauto]
      exact (onNewSbi_onlyWorld (hprobe _)).bind
        (fun client' => .pure fun s hs => ⟨.sbi client' htarget (hs.1.trans hid), hs.2⟩) s hs

end Balance

/-! ## The clients that a session has -/

/-- The protocol and the clients, which a switch changes together. -/
def Session.wiring (s : Session) : ProtocolKind × Option Nat × Option Nat :=
  (s.active, s.xbpi.map (·.id), s.sbi.map (·.id))

theorem Session.wiring_of_frame {s t : Session} (h : s.frame = t.frame) : s.wiring = t.wiring := by
  simp only [Session.frame, Session.Frame.mk.injEq] at h
  simp only [Session.wiring, h.1, h.2.1, h.2.2.1]

/-- The identities of the clients. -/
def Session.clients (s : Session) : List Nat := s.xbpi.toList.map (·.id) ++ s.sbi.toList.map (·.id)

theorem Session.clients_eq (s : Session) : s.clients = s.wiring.2.1.toList ++ s.wiring.2.2.toList := by
  simp only [Session.clients, Session.wiring, Option.toList_map]

theorem Session.clients_of_wiring {s t : Session} (h : s.wiring = t.wiring) : s.clients = t.clients := by
  rw [Session.clients_eq, h, ← Session.clients_eq]

namespace Balance

variable {r : SwitchRequest} {old : Session}

/-- The session has the clients that it has in `h`, none was disposed, and no identity is given back. -/
structure Wired (h h' : Host W) : Prop where
  wiring : h'.session.wiring = h.session.wiring
  retired : h'.retired = h.retired
  nextId : h.nextId ≤ h'.nextId

theorem Wired.refl (h : Host W) : Wired h h := ⟨rfl, rfl, le_rfl⟩

/-- The session has one client, whose identity is new, and the clients of `old` are disposed. -/
structure Rewired (old : Session) (h h' : Host W) : Prop where
  client : ∃ n, h.nextId ≤ n ∧ n < h'.nextId ∧
    (h'.session.wiring = (.xbpi, some n, none) ∨ h'.session.wiring = (.sbi, none, some n))
  retired : h'.retired = old.clients ++ h.retired

theorem onWorld_wired (m : Py W α) : Keeps (Wired h) (onWorld m) := fun _ hs => ⟨hs.wiring, hs.retired, hs.nextId⟩

theorem markBroken_wired : Keeps (Wired h) (modifySession (·.markBroken) : Py (Host W) Unit) :=
  .modify fun _ hs => ⟨hs.wiring, hs.retired, hs.nextId⟩

theorem newClients_wired (T : Transport W) (target : ProtocolKind) (srcSbn dstSbn : Int) (timeout : Rat)
    (clock : List Rat) :
    Triple (Wired h) (newClients T target srcSbn dstSbn timeout clock)
      (fun clients s => ∃ n, h.nextId ≤ n ∧ n < s.nextId ∧ Made n target clients ∧ Wired h s)
      fun _ => Wired h := by
  have hid : Keeps (Wired h) (freshId : Py (Host W) Nat) :=
    Keeps.get.bind fun _ => Keeps.bind (.modify fun _ hs => ⟨hs.wiring, hs.retired, Nat.le_succ_of_le hs.nextId⟩)
      fun _ => .pure _
  have hnew {c : Sbi.SbiClient} {β : Type} {m : Py (Sbi.SbiLink W) β} : Keeps (Wired h) (onNewSbi c m) :=
    fun _ hs => ⟨hs.wiring, hs.retired, hs.nextId⟩
  have hverify : Keeps (Wired h) (verifyXbpi T srcSbn dstSbn timeout) :=
    (liftExc_keeps _).bind fun _ => (onWorld_wired _).bind fun _ => .pure _
  have hkeeps : Keeps (Wired h) (newClients T target srcSbn dstSbn timeout clock) := by
    refine hid.bind fun id => .ite (fun _ => hverify.bind fun _ => .pure _) fun _ => ?_
    exact hnew.bind fun client => .ite (fun _ => .pure _) fun _ => hnew.bind fun _ => .pure _
  -- which client it is does not depend on the transport
  have hT : T.Fixes fun _ => true := by constructor <;> intros <;> exact fun _ => rfl
  intro s hs
  have hafter := hkeeps s hs
  have hmade := newClients_made (h := s) hT target srcSbn dstSbn timeout clock s (.refl _ s)
  rcases hrun : (newClients T target srcSbn dstSbn timeout clock).exec s with ⟨e | clients, s'⟩
  · rw [hrun] at hafter
    exact hafter
  · rw [hrun] at hafter hmade
    obtain ⟨hclient, hworld⟩ := hmade
    exact ⟨s.nextId, hs.nextId, hworld.nextId ▸ Nat.lt_succ_self _, hclient, hafter⟩

theorem Made.wiring {n : Nat} {target : ProtocolKind} {clients : Option XbpiClient × Option Sbi.SbiClient}
    (hmade : Made n target clients) {s s' : Session} {settings : Option SerialSettings}
    (hreplace : s.replaceClients clients.1 clients.2 target settings = .ok s') :
    s'.wiring = (.xbpi, some n, none) ∨ s'.wiring = (.sbi, none, some n) := by
  have hauto : target ≠ .auto := by
    rintro rfl
    cases hreplace
  obtain rfl := replaceClients_ok hreplace
  cases hmade with
  | xbpi c hid => exact .inl (by simp only [Session.wiring, Option.map_some, Option.map_none, hid])
  | sbi c htarget hid =>
      refine .inr ?_
      cases target with
      | xbpi => exact absurd rfl htarget
      | sbi => simp only [Session.wiring, Option.map_some, Option.map_none, hid]
      | auto => exact absurd rfl hauto

theorem installClients_wired (T : Transport W) (r : SwitchRequest) (old : Session) (h : Host W) :
    Triple (Wired h) (installClients T r old) (fun _ => Rewired old h) (fun _ => Wired h) := by
  refine (onWorld_wired _).triple.bind fun _ => (onWorld_wired _).triple.bind fun _ =>
    (newClients_wired T _ _ _ _ _).bind fun clients => ?_
  rintro s ⟨n, hge, hlt, hmade, hs⟩
  dsimp only
  rw [exec_bind_ok (exec_get s)]
  cases hreplace : s.session.replaceClients clients.1 clients.2 r.target
      (old.serialSettings.map (·.override r.baudrate r.parity r.stopbits)) with
  | error e => exact hs
  | ok session => exact ⟨⟨n, hge, hlt, hmade.wiring hreplace⟩, congrArg (_ ++ ·) hs.retired⟩

/-- A switch that returns has given the session its new client, and one that raises has changed no client. -/
theorem switchProtocol_wired (T : Transport W) (r : SwitchRequest) (old : Session) (h : Host W) :
    Triple (Wired h) (switchProtocol T r old) (fun _ => Rewired old h) (fun _ => Wired h) := by
  have hrollback : Keeps (Wired h) (rollbackConfigureProtocol T old.serialSettings r.target) := by
    cases old.serialSettings with
    | none => exact markBroken_wired
    | some settings =>
        exact Keeps.exceptException (onWorld_wired _) fun _ => markBroken_wired.bind fun _ => .throw _
  intro s hs
  rcases hrun : (switchProtocol T r old).exec s with ⟨e | u, s'⟩
  · obtain ⟨e₀, s₀, hinstall, hend⟩ := exec_reraise_error hrun
    have hs₀ : Wired h s₀ := (installClients_wired T r old h).error hs hinstall
    rcases hend with rfl | rfl
    · exact hs₀
    · exact hrollback s₀ hs₀
  · exact (installClients_wired T r old h).ok hs (exec_reraise_ok hrun)

end Balance

end SartoriusLib
