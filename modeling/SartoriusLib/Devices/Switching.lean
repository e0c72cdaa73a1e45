import SartoriusLib.Devices.Confirm

/-!
# A protocol switch is all or nothing

Until the new client is installed, whatever goes wrong leaves the session as it was or breaks it. After that
comes an identification, and when it fails nothing is undone.
-/

namespace SartoriusLib.Balance

open Lib Prog

variable {W : Type} {T : Transport W} {r : SwitchRequest} {h h' h₁ : Host W}

/-- The protocol, the clients, the settings and what was recorded are as before, and no client was disposed. -/
structure Untouched (h h' : Host W) : Prop where
  active : h'.session.active = h.session.active
  xbpi : h'.session.xbpi.map (·.id) = h.session.xbpi.map (·.id)
  sbi : h'.session.sbi.map (·.id) = h.session.sbi.map (·.id)
  serialSettings : h'.session.serialSettings = h.session.serialSettings
  availability : h'.session.availability = h.session.availability
  resultCache : h'.session.resultCache = h.session.resultCache
  retired : h'.retired = h.retired

theorem Untouched.of_eq (hs : h'.session = h.session) (hr : h'.retired = h.retired) : Untouched h h' := by
  constructor <;> first | exact hr | rw [hs]

def AllOrNothing (T : Transport W) (r : SwitchRequest) (h : Host W) : Prop :=
  ∀ e h', (configureProtocol T r).exec h = (.error e, h') →
    Untouched h h' ∨ h'.session.state = .broken

/-! ## Up to the installation -/

/-- The session is that of `h`, and so are the disposed clients. -/
def Before (h h' : Host W) : Prop := h'.session = h.session ∧ h'.retired = h.retired

theorem onWorld_before {α : Type} (m : Py W α) : Keeps (Before h) (onWorld m) := fun _ hs => hs

theorem onNewSbi_before {α : Type} (c : Sbi.SbiClient) (m : Py (Sbi.SbiLink W) α) :
    Keeps (Before h) (onNewSbi c m) := fun _ hs => hs

theorem newClients_before (target : ProtocolKind) (srcSbn dstSbn : Int) (timeout : Rat) (clock : List Rat) :
    Keeps (Before h) (newClients T target srcSbn dstSbn timeout clock) := by
  have hid : Keeps (Before h) (freshId : Py (Host W) Nat) :=
    Keeps.get.bind fun _ => Keeps.bind (.modify fun _ hs => hs) fun _ => .pure _
  have hverify : Keeps (Before h) (verifyXbpi T srcSbn dstSbn timeout) :=
    (liftExc_keeps _).bind fun _ => (onWorld_before _).bind fun _ => .pure _
  refine hid.bind fun id => .ite (fun _ => hverify.bind fun _ => .pure _) fun _ => ?_
  exact (onNewSbi_before _ _).bind fun client => .ite (fun _ => .pure _) fun _ =>
    (onNewSbi_before _ _).bind fun _ => .pure _

/-- The old clients are disposed, and the session starts with an empty record. -/
structure Installed (old : Session) (h h' : Host W) : Prop where
  state : h'.session.state = h.session.state
  availability : h'.session.availability = []
  retired : h'.retired = old.xbpi.toList.map (·.id) ++ old.sbi.toList.map (·.id) ++ h.retired

theorem replaceClients_ok {s s' : Session} {xbpi : Option XbpiClient} {sbi : Option Sbi.SbiClient}
    {active : ProtocolKind} {serialSettings : Option SerialSettings}
    (hreplace : s.replaceClients xbpi sbi active serialSettings = .ok s') :
    s' = { s with xbpi, sbi, active, serialSettings := serialSettings.or s.serialSettings,
                  availability := [], warnedPriors := [], resultCache := [] } := by
  unfold Session.replaceClients at hreplace
  split_ifs at hreplace
  exact (Except.ok.inj hreplace).symm

/-- The installation of the new clients cannot fail halfway. -/
theorem install_replaces (T : Transport W) (r : SwitchRequest) (old : Session) (h : Host W) :
    Triple (Before h) (installClients T r old)
      (fun _ h₁ => ∃ s xbpi sbi session, Before h s ∧
        s.session.replaceClients xbpi sbi r.target
          (old.serialSettings.map (·.override r.baudrate r.parity r.stopbits)) = .ok session ∧
        h₁ = { s with session,
                      retired := old.xbpi.toList.map (·.id) ++ old.sbi.toList.map (·.id) ++ s.retired })
      (fun _ => Before h) := by
  refine (onWorld_before _).triple.bind fun _ => (onWorld_before _).triple.bind fun _ =>
    (newClients_before _ _ _ _ _).triple.bind fun clients => Triple.get_bind fun s hs => ?_
  rintro _ rfl
  rename_i s
  cases hreplace : s.session.replaceClients clients.1 clients.2 r.target
      (old.serialSettings.map (·.override r.baudrate r.parity r.stopbits)) with
  | error e =>
      rw [exec_bind]
      exact hs
  | ok session =>
      rw [exec_bind]
      exact ⟨s, _, _, session, hs, hreplace, rfl⟩

theorem install_triple (T : Transport W) (r : SwitchRequest) (old : Session) (h : Host W) :
    Triple (Before h) (installClients T r old) (fun _ => Installed old h) (fun _ => Before h) := by
  refine (install_replaces T r old h).conseq (fun _ hs => hs) (fun _ h₁ hinst => ?_) fun _ _ hs => hs
  obtain ⟨s, xbpi, sbi, session, hs, hreplace, rfl⟩ := hinst
  obtain rfl := replaceClients_ok hreplace
  exact ⟨by rw [← hs.1], rfl, by rw [← hs.2]⟩

/-- A rollback ends where the call began or in a broken session. -/
theorem rollback_keeps (settings : Option SerialSettings) (target : ProtocolKind) {s : Host W}
    (hs : Before h s) :
    Before h ((rollbackConfigureProtocol T settings target).exec s).2 ∨
      ((rollbackConfigureProtocol T settings target).exec s).2.session.state = .broken := by
  cases settings with
  | none => exact .inr rfl
  | some settings =>
      have hreopen := onWorld_before (h := h)
        (T.reopen (some settings.baudrate) (some settings.parity) (some settings.stopbits)) s hs
      rw [rollbackConfigureProtocol, exceptException, exec_tryCatch]
      rcases hrun : (onWorld (T.reopen (some settings.baudrate) (some settings.parity)
        (some settings.stopbits))).exec s with ⟨e | ⟨⟩, s'⟩
      · rw [hrun] at hreopen
        cases he : e.isException with
        | true => exact .inr (by simp [he, exec_bind, modifySession, Session.markBroken])
        | false => exact .inl (by simpa [he] using hreopen)
      · rw [hrun] at hreopen
        exact .inl hreopen

/-- A switch that raises leaves the session as it was, or breaks it. -/
theorem switchProtocol_error {e : Exc} (old : Session)
    (hrun : (switchProtocol T r old).exec h = (.error e, h')) :
    Before h h' ∨ h'.session.state = .broken := by
  obtain ⟨e₀, s, hinstall, hend⟩ := exec_reraise_error hrun
  have hs : Before h s := (install_triple T r old h).error ⟨rfl, rfl⟩ hinstall
  rcases hend with rfl | rfl
  · exact .inl hs
  · exact rollback_keeps old.serialSettings r.target hs

/-- A switch that returns has installed the new clients. -/
theorem switchProtocol_ok (old : Session) (hrun : (switchProtocol T r old).exec h = (.ok (), h')) :
    Installed old h h' :=
  (install_triple T r old h).ok ⟨rfl, rfl⟩ (exec_reraise_ok hrun)

/-! ## What the call comes to -/

/-- The call passes its checks and changes the protocol or the framing. -/
structure Switches (r : SwitchRequest) (h : Host W) : Prop where
  target : r.target ≠ .auto
  confirm : r.confirm = true
  state : h.session.state = .operational
  change : ¬ (r.target = h.session.active ∧ r.noFramingChange = true)
  lock : hasActiveLock h.session = true

/-- The call passes its checks, asks for what is there already, and the balance is not identified yet. -/
structure OnlyIdentifies (r : SwitchRequest) (h : Host W) : Prop where
  target : r.target ≠ .auto
  confirm : r.confirm = true
  state : h.session.state = .operational
  same : r.target = h.session.active ∧ r.noFramingChange = true
  info : h.info = none

theorem exec_checkState (hs : h.session.state = .operational) :
    (liftExcept h.session.checkState : Py (Host W) Unit).exec h = (.ok (), h) := by
  rw [Session.checkState, hs, if_neg (by decide)]
  rfl

theorem configureProtocol_switches (hs : Switches r h) :
    (configureProtocol T r).exec h = (do switchProtocol T r h.session; identify T).exec h := by
  have hclients : ¬ (h.session.xbpi.isNone = true ∧ h.session.sbi.isNone = true) := by
    rintro ⟨hx, hb⟩
    have := hs.lock
    simp [hasActiveLock, Option.isNone_iff_eq_none.mp hx, Option.isNone_iff_eq_none.mp hb] at this
  rw [configureProtocol, if_neg hs.target, if_neg (by simp [hs.confirm]), exec_bind_ok (exec_get h),
    exec_bind_ok (exec_checkState hs.state), if_neg hs.change, if_neg hclients, if_neg (by simp [hs.lock])]

theorem configureProtocol_onlyIdentifies (hs : OnlyIdentifies r h) :
    (configureProtocol T r).exec h = (identify T).exec h := by
  rw [configureProtocol, if_neg hs.target, if_neg (by simp [hs.confirm]), exec_bind_ok (exec_get h),
    exec_bind_ok (exec_checkState hs.state), if_pos hs.same, hs.info]

/-- In every other case the call ends where it began. -/
theorem configureProtocol_otherwise (hs : ¬ Switches r h) (hi : ¬ OnlyIdentifies r h) :
    ((configureProtocol T r).exec h).2 = h := by
  rw [configureProtocol]
  by_cases htarget : r.target = .auto
  · rw [if_pos htarget]; rfl
  rw [if_neg htarget]
  by_cases hconfirm : r.confirm = true
  swap
  · rw [if_pos hconfirm]; rfl
  rw [if_neg (not_not.mpr hconfirm), exec_bind_ok (exec_get h)]
  cases hstate : h.session.state with
  | broken => simp [exec_bind, Session.checkState, hstate]
  | operational =>
  rw [exec_bind_ok (exec_checkState hstate)]
  by_cases hsame : r.target = h.session.active ∧ r.noFramingChange = true
  · rw [if_pos hsame]
    cases hinfo : h.info with
    | some info => rfl
    | none => exact absurd ⟨htarget, hconfirm, hstate, hsame, hinfo⟩ hi
  rw [if_neg hsame]
  have hlock : ¬ hasActiveLock h.session = true := fun hl => hs ⟨htarget, hconfirm, hstate, hsame, hl⟩
  split_ifs
  · rfl
  · rfl

/-- An identification keeps the protocol and the clients, however it ends. -/
theorem identify_frame {result : Except Exc DeviceInfo} (hrun : (identify T).exec h = (result, h')) :
    h'.session.frame = h.session.frame ∧ h'.retired = h.retired := by
  have := identify_keeps (Transport.keeps_true T h.session.active) h ⟨rfl, rfl, trivial⟩
  rw [hrun] at this
  exact ⟨this.1, this.2.1⟩

/-- Where a switch took place the identification that follows it succeeds, and an identification in place that
fails has recorded nothing. -/
structure IdentifiesOrRecordsNothing (T : Transport W) (r : SwitchRequest) (h : Host W) : Prop where
  switched : Switches r h → ∀ h₁, (switchProtocol T r h.session).exec h = (.ok (), h₁) →
    ∃ info h₂, (identify T).exec h₁ = (.ok info, h₂)
  inPlace : OnlyIdentifies r h → ∀ e h₁, (identify T).exec h = (.error e, h₁) →
    h₁.session.availability = h.session.availability ∧ h₁.session.resultCache = h.session.resultCache

theorem Installed.retired_ne (hs : Switches r h) (hi : Installed h.session h h₁) : h₁.retired ≠ h.retired := by
  intro heq
  have hlen := congrArg List.length (hi.retired.symm.trans heq)
  have hlock := hs.lock
  simp only [List.length_append, List.length_map] at hlen
  cases hx : h.session.xbpi <;> cases hb : h.session.sbi <;> simp [hasActiveLock, hx, hb] at hlock hlen

/-- Behind a switch that took place only a successful identification is all or nothing. -/
theorem AllOrNothing.identified (hall : AllOrNothing T r h) (hs : Switches r h)
    (hswitch : (switchProtocol T r h.session).exec h = (.ok (), h₁)) :
    ∃ info h₂, (identify T).exec h₁ = (.ok info, h₂) := by
  have hinst := switchProtocol_ok h.session hswitch
  rcases hrun : (identify T).exec h₁ with ⟨e | info, h₂⟩
  · obtain ⟨hframe, hretired⟩ := identify_frame hrun
    have hcall : (configureProtocol T r).exec h = (.error e, h₂) := by
      rw [configureProtocol_switches hs, exec_bind_ok hswitch, hrun]
    rcases hall e h₂ hcall with hsame | hbroken
    · exact absurd (hretired.symm.trans hsame.retired) (hinst.retired_ne hs)
    · have hstate : h₂.session.state = h₁.session.state := congrArg Session.Frame.state hframe
      rw [hbroken, hinst.state, hs.state] at hstate
      cases hstate
  · exact ⟨info, h₂, rfl⟩

/-- The configuration of the protocol is all or nothing exactly when no identification fails behind it. -/
theorem allOrNothing_iff (T : Transport W) (r : SwitchRequest) (h : Host W) :
    AllOrNothing T r h ↔ IdentifiesOrRecordsNothing T r h := by
  constructor
  · intro hall
    constructor
    · exact fun hs h₁ hswitch => hall.identified hs hswitch
    · intro hi e h₁ hrun
      obtain ⟨hframe, -⟩ := identify_frame hrun
      rcases hall e h₁ ((configureProtocol_onlyIdentifies hi).trans hrun) with hsame | hbroken
      · exact ⟨hsame.availability, hsame.resultCache⟩
      · have hstate : h₁.session.state = h.session.state := congrArg Session.Frame.state hframe
        rw [hbroken, hi.state] at hstate
        cases hstate
  · intro hid e h₁ hcall
    by_cases hs : Switches r h
    · rw [configureProtocol_switches hs] at hcall
      rcases hswitch : (switchProtocol T r h.session).exec h with ⟨e₀ | ⟨⟩, h₀⟩
      · rw [exec_bind_error hswitch] at hcall
        cases hcall
        rcases switchProtocol_error h.session hswitch with hbefore | hbroken
        · exact .inl (.of_eq hbefore.1 hbefore.2)
        · exact .inr hbroken
      · obtain ⟨info, h₂, hrun⟩ := hid.switched hs h₀ hswitch
        rw [exec_bind_ok hswitch, hrun] at hcall
        cases hcall
    · by_cases hi : OnlyIdentifies r h
      · rw [configureProtocol_onlyIdentifies hi] at hcall
        obtain ⟨hframe, hretired⟩ := identify_frame hcall
        obtain ⟨havail, hcache⟩ := hid.inPlace hi e h₁ hcall
        exact .inl
          { active := congrArg Session.Frame.active hframe
            xbpi := congrArg Session.Frame.xbpi hframe
            sbi := congrArg Session.Frame.sbi hframe
            serialSettings := congrArg Session.Frame.serialSettings hframe
            availability := havail
            resultCache := hcache
            retired := hretired }
      · have hend := configureProtocol_otherwise (T := T) hs hi
        rw [hcall] at hend
        obtain rfl : h₁ = h := hend
        exact .inl (.of_eq rfl rfl)

/-! ## A device in autoprint -/

/-- While the device prints on its own no identification succeeds. -/
theorem identify_autoprint (hstate : h.session.state = .operational)
    (hauto : h.session.sbiAutoprintActive = true) (havail : h.session.availability = []) :
    ∃ e h', (identify T).exec h = (.error e, h') := by
  obtain ⟨hactive, hflag⟩ : h.session.active = .sbi ∧ h.session.sbi.any (·.autoprintActive) = true := by
    simpa [Session.sbiAutoprintActive] using hauto
  obtain ⟨client, hclient, -⟩ : ∃ c, h.session.sbi = some c ∧ c.autoprintActive = true := by
    simpa [Option.any_eq_true] using hflag
  have hgates : ∀ g, g ≠ Gate.priors → Gate.passes h.session Commands.READ_MODEL false g = true := by
    intro g hg
    cases g <;> simp_all [Gate.passes, Commands.READ_MODEL]
  have hpriors : (gatePriors Commands.READ_MODEL).exec h = (.ok (), h) := exec_gatePriors_ok ⟨rfl, rfl⟩
  have hexchange : (sbiExchange T client Sbi.TOKEN_TYPE h.session.defaultTimeout "read_model" Sbi.TOKEN_TYPE
      1).exec h = (.error (.sartorius (autoprintActiveError "read_model" (some Sbi.TOKEN_TYPE))), h) := by
    rw [sbiExchange, exec_bind_ok (exec_get h), if_pos ⟨hauto, by decide⟩]
    rfl
  have hrefused : (execute T Commands.READ_MODEL () false none).exec h =
      (.error (.sartorius (autoprintActiveError "read_model" (some Sbi.TOKEN_TYPE))), h) := by
    rw [execute_open T () none hgates hpriors, hactive]
    dsimp only
    rw [executeSbi, exec_bind_ok (exec_get h)]
    simp only [Commands.READ_MODEL, hclient]
    have hencode : (liftExc ((Commands.sbiIdentityTextVariant Sbi.TOKEN_TYPE).encode h.session.context ()) :
        Py (Host W) Bytes).exec h = (.ok Sbi.TOKEN_TYPE, h) := rfl
    rw [exec_bind_ok hencode]
    exact exec_bind_error hexchange
  refine ⟨.sartorius (autoprintActiveError "read_model" (some Sbi.TOKEN_TYPE)), h, ?_⟩
  rw [identify, exec_bind_ok (exec_get h), if_pos hactive]
  exact exec_bind_error hrefused

/-- A switch to a device in autoprint is installed and reported as failed. -/
theorem autoprint_not_allOrNothing (hs : Switches r h)
    (hswitch : (switchProtocol T r h.session).exec h = (.ok (), h₁))
    (hauto : h₁.session.sbiAutoprintActive = true) : ¬ AllOrNothing T r h := by
  intro hall
  have hinst := switchProtocol_ok h.session hswitch
  obtain ⟨e, h₂, hrun⟩ := identify_autoprint (T := T) (hinst.state.trans hs.state) hauto hinst.availability
  obtain ⟨info, h₃, hok⟩ := hall.identified hs hswitch
  rw [hrun] at hok
  cases hok

/-- An xBPI session whose device prints a weight on its own after the port was reopened. -/
def printingHost : Host SerialState where
  world :=
    { settings := { port := "COM3" },
      line := [[], [], [.chunk (encodeAsciiReplace "+     12.5 g  \r\n".toList)]] }
  session := { active := .xbpi, xbpi := some { id := 0 }, serialSettings := some { port := "COM3" } }
  nextId := 1

def toSbi : SwitchRequest where
  target := .sbi
  confirm := true
  clock := [1 / 4]

theorem switch_to_autoprint : ¬ AllOrNothing serialTransport toSbi printingHost := by
  have hs : Switches toSbi printingHost := ⟨by decide, rfl, rfl, by decide, rfl⟩
  have hend : (match (switchProtocol serialTransport toSbi printingHost.session).exec printingHost with
      | (.ok (), h₁) => h₁.session.sbiAutoprintActive
      | _ => false) = true := by
    decide +kernel
  split at hend
  · rename_i h₁ hswitch
    exact autoprint_not_allOrNothing hs hswitch hend
  · cases hend

end SartoriusLib.Balance
