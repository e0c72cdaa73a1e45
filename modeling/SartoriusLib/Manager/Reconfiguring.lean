import SartoriusLib.Devices.NewClient
import SartoriusLib.Manager.Opening

/-!
# What a reconfiguration does to the clients

A call of `configure_protocol` or `set_baud_rate` that returns has disposed the clients of its session and given
it a new one, or it has not changed them.
-/

namespace SartoriusLib

open Lib Prog

variable {W α : Type} {T : Transport W} {f : W → Bool} {h h' : Host W}

theorem executeRawXbpi_onlyWorld (hT : T.Fixes f) (opcode : Int) (args : Bytes) (confirm : Bool)
    (timeout : Option Rat) : Keeps (OnlyWorld f h) (executeRawXbpi T opcode args confirm timeout) := by
  refine Keeps.get.bind fun s => (Keeps.liftExcept _).bind fun _ => .ite (fun _ => Keeps.raise _ _ _) fun _ => ?_
  cases s.session.xbpi with
  | none => exact Keeps.raise _ _ _
  | some client =>
      exact .ite (fun _ => Keeps.raise _ _ _) fun _ => (Keeps.liftExcept _).bind fun _ =>
        onWorld_onlyWorld (hT.xbpi _ _ _ _ _)

namespace Balance

/-! ## The two calls -/

open Manager

/-- The session has a new client, and its old ones are disposed. -/
structure Switched (f : W → Bool) (h h' : Host W) : Prop where
  client : ∃ client : Client, client.id = h.nextId ∧ Holds client h'.session
  retired : h'.retired = h.session.xbpi.toList.map (·.id) ++ h.session.sbi.toList.map (·.id) ++ h.retired
  nextId : h'.nextId = h.nextId + 1
  world : f h'.world = f h.world

/-- The clients are what they were. -/
structure SameClients (f : W → Bool) (h h' : Host W) : Prop where
  frame : h'.session.frame = h.session.frame
  retired : h'.retired = h.retired
  nextId : h'.nextId = h.nextId
  world : f h'.world = f h.world

theorem SameClients.refl (f : W → Bool) (h : Host W) : SameClients f h h := ⟨rfl, rfl, rfl, rfl⟩

theorem Made.holds {n : Nat} {target : ProtocolKind} {clients : Option XbpiClient × Option Sbi.SbiClient}
    (hmade : Made n target clients) {s s' : Session} {settings : Option SerialSettings}
    (hreplace : s.replaceClients clients.1 clients.2 target settings = .ok s') :
    ∃ client : Client, client.id = n ∧ Holds client s' := by
  have hauto : target ≠ .auto := by
    rintro rfl
    cases hreplace
  obtain rfl := replaceClients_ok hreplace
  cases hmade with
  | xbpi c hid => exact ⟨.xbpi c, hid, rfl, rfl, rfl⟩
  | sbi c htarget hid =>
      cases target with
      | xbpi => exact absurd rfl htarget
      | sbi => exact ⟨.sbi c, hid, rfl, rfl, rfl⟩
      | auto => exact absurd rfl hauto

theorem installClients_switched (hT : T.Fixes f) (r : SwitchRequest) (h : Host W) :
    Triple (OnlyWorld f h) (installClients T r h.session) (fun _ => Switched f h) fun _ _ => True := by
  have hworld : ∀ {m : Py W Unit}, Leaves f m →
      Triple (OnlyWorld f h) (onWorld m) (fun _ => OnlyWorld f h) fun _ _ => True := fun hm =>
    (onWorld_onlyWorld hm).triple.conseq (fun _ => id) (fun _ _ => id) fun _ _ _ => trivial
  refine (hworld hT.drainInput).bind fun _ => (hworld (hT.reopen _ _ _)).bind fun _ =>
    (newClients_made hT _ _ _ _ _).bind fun clients => ?_
  rintro s ⟨hmade, hs⟩
  dsimp only
  rw [exec_bind_ok (exec_get s)]
  cases hreplace : s.session.replaceClients clients.1 clients.2 r.target
      (h.session.serialSettings.map (·.override r.baudrate r.parity r.stopbits)) with
  | error e => trivial
  | ok session =>
      exact
        { client := hmade.holds hreplace
          retired := congrArg (_ ++ ·) hs.retired
          nextId := hs.nextId
          world := hs.world }

theorem identify_same (hT : T.Fixes f) (h : Host W) : SameClients f h ((identify T).exec h).2 := by
  obtain ⟨hframe, hretired, hworld⟩ :=
    identify_keeps (v := h.session.frame) (hT.keeps (f h.world) h.session.active) h ⟨rfl, rfl, rfl⟩
  exact ⟨hframe, hretired, identify_nextId T h, hworld⟩

theorem Switched.identified (hs : Switched f h h') {h'' : Host W} (hid : SameClients f h' h'') : Switched f h h'' where
  client := by
    obtain ⟨client, hclient, hholds⟩ := hs.client
    exact ⟨client, hclient, hholds.of_frame hid.frame⟩
  retired := hid.retired.trans hs.retired
  nextId := hid.nextId.trans hs.nextId
  world := hid.world.trans hs.world

/-- A call that returns has passed its checks. -/
theorem configureProtocol_checked {r : SwitchRequest} {info : DeviceInfo}
    (hrun : (configureProtocol T r).exec h = (.ok info, h')) :
    Switches r h ∨ (r.target = h.session.active ∧ r.noFramingChange = true) := by
  by_cases hsame : r.target = h.session.active ∧ r.noFramingChange = true
  · exact .inr hsame
  rw [configureProtocol] at hrun
  by_cases htarget : r.target = .auto
  · rw [if_pos htarget] at hrun
    cases hrun
  by_cases hconfirm : r.confirm = true
  swap
  · rw [if_neg htarget, if_pos hconfirm] at hrun
    cases hrun
  rw [if_neg htarget, if_neg (not_not.mpr hconfirm), exec_bind_ok (exec_get h)] at hrun
  cases hstate : h.session.state with
  | broken =>
      obtain ⟨_, _, hcheck, -⟩ := exec_bind_eq_ok.mp hrun
      simp [Session.checkState, hstate] at hcheck
  | operational =>
      rw [exec_bind_ok (exec_checkState hstate), if_neg hsame] at hrun
      by_cases hlock : hasActiveLock h.session = true
      · exact .inl ⟨htarget, hconfirm, hstate, hsame, hlock⟩
      · rw [if_pos hlock] at hrun
        split_ifs at hrun <;> cases hrun

/-- A call that returns: whatever changes the protocol or the framing makes a new client. -/
theorem configureProtocol_returns (hT : T.Fixes f) {r : SwitchRequest} {info : DeviceInfo}
    (hrun : (configureProtocol T r).exec h = (.ok info, h')) :
    ¬ (r.target = h.session.active ∧ r.noFramingChange = true) ∧ Switched f h h' ∨
      (r.target = h.session.active ∧ r.noFramingChange = true) ∧ SameClients f h h' := by
  have hend : ∀ g, (configureProtocol T r).exec h = (identify T).exec g → h' = ((identify T).exec g).2 := by
    intro g heq
    rw [← heq, hrun]
  rcases configureProtocol_checked hrun with hs | hsame
  · rw [configureProtocol_switches hs] at hrun
    obtain ⟨⟨⟩, h₁, hswitch, hidentify⟩ := exec_bind_eq_ok.mp hrun
    have hswitched := (installClients_switched hT r h).ok (.refl f h) (exec_reraise_ok hswitch)
    have hid := identify_same hT h₁
    rw [hidentify] at hid
    exact .inl ⟨hs.change, hswitched.identified hid⟩
  · refine .inr ⟨hsame, ?_⟩
    by_cases hi : OnlyIdentifies r h
    · rw [hend h (configureProtocol_onlyIdentifies hi)]
      exact identify_same hT h
    · have hsame : ((configureProtocol T r).exec h).2 = h :=
        configureProtocol_otherwise (fun hs => hs.change hsame) hi
      rw [hrun] at hsame
      obtain rfl : h' = h := hsame
      exact .refl f h'

/-- A call that returns has made a new client: it changes the framing. -/
theorem setBaudRate_returns (hT : T.Fixes f) {wireCode : Int} {baudrate : Nat} {r : SwitchRequest}
    {info : DeviceInfo} (hrun : (setBaudRate T wireCode baudrate r).exec h = (.ok info, h')) : Switched f h h' := by
  rw [setBaudRate, exec_bind_ok (exec_get h)] at hrun
  by_cases hconfirm : ¬ r.confirm = true
  · rw [if_pos hconfirm] at hrun
    cases hrun
  by_cases hactive : h.session.active ≠ .xbpi
  · rw [if_neg hconfirm, if_pos hactive] at hrun
    cases hrun
  by_cases hcode : ¬ (0 ≤ wireCode ∧ wireCode ≤ maxU8)
  · rw [if_neg hconfirm, if_neg hactive, if_pos hcode] at hrun
    cases hrun
  rw [if_neg hconfirm, if_neg hactive, if_neg hcode] at hrun
  obtain ⟨⟨⟩, h₁, hsend, hrun⟩ := exec_bind_eq_ok.mp hrun
  have honly : OnlyWorld f h h₁ := by
    have hkeeps : Keeps (OnlyWorld f h) (suppress do
        let args ← liftExc (Commands.tlvU8 wireCode)
        let _ ← executeRawXbpi T 0x5C args true r.timeout) :=
      Keeps.suppress ((liftExc_keeps _).bind fun _ => (executeRawXbpi_onlyWorld hT _ _ _ _).bind fun _ => .pure _)
    have := hkeeps h (.refl f h)
    rwa [hsend] at this
  rcases configureProtocol_returns hT hrun with ⟨-, hs⟩ | ⟨⟨-, hframing⟩, -⟩
  · exact
      { client := by
          obtain ⟨client, hid, hholds⟩ := hs.client
          exact ⟨client, hid.trans honly.nextId, hholds⟩
        retired := by rw [hs.retired, honly.session, honly.retired]
        nextId := by rw [hs.nextId, honly.nextId]
        world := hs.world.trans honly.world }
  · simp [SwitchRequest.noFramingChange] at hframing

end Balance

end SartoriusLib
