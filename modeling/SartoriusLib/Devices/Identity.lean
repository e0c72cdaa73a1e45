import SartoriusLib.Devices.Frame
import SartoriusLib.Devices.Invalidation

/-!
# The probe of the configuration counter

`identify` asks the device for its configuration counter to learn whether it has one. The request passes the
gates of every command: a strict session without the capability refuses it, and so does a session that has been
told once that the command is unknown. In both cases the capability is left out unasked.
-/

namespace SartoriusLib

open Lib Prog

variable {W : Type} {T : Transport W} {Req Resp : Type}

/-- The priors let a call pass when they match, and when the session is not strict and no warning filter turns
the warning into an exception. -/
theorem gatePriors_passes {command : Command Req Resp} {h : Host W} (hwarnings : h.warnings ≠ .error)
    (hpass : Gate.priors.passes h.session command false = true) :
    ((gatePriors command).exec h).1 = .ok () := by
  rw [gatePriors, exec_bind_ok (exec_get h)]
  dsimp only
  split_ifs with hmatch hstrict hwarned
  · rfl
  · -- a strict session passes a match only
    refine absurd ?_ hmatch
    simp only [Gate.passes, hstrict, Bool.true_eq_false, false_or, decide_eq_true_eq] at hpass
    simp only [Session.familyOk, Session.capsOk, Capability.contains, decide_eq_true_eq, List.all_eq_true]
    exact ⟨hpass.1, .inr hpass.2⟩
  · rfl
  · rw [modifySession, exec_bind_ok (exec_modify _ h), exec_bind_ok (exec_get _), if_neg hwarnings]
    rfl

namespace Balance

/-! ## The reads before the probe -/

/-- The reads of the identity that come before the probe. -/
def identityReads (T : Transport W) : Py (Host W) (Text × Text × Bytes × Bytes × Int) := do
  let model ← execute T Commands.READ_MODEL () false none
  let manufacturer ← execute T Commands.READ_MANUFACTURER () false none
  let software ← execute T Commands.READ_SW_VERSION () false none
  let factoryNumber ← execute T Commands.READ_FACTORY_NUMBER () false none
  let sbn ← execute T Commands.READ_SBN () false none
  pure (model, manufacturer, software, factoryNumber, sbn)

/-- The host when the probe is made. -/
def probeHost (T : Transport W) (h : Host W) : Host W := ((identityReads T).exec h).2

/-- What comes after the reads. -/
def identityOf (T : Transport W) (settings : SerialSettings) :
    Text × Text × Bytes × Bytes × Int → Py (Host W) DeviceInfo
  | (model, manufacturer, software, factoryNumber, sbn) => do
      let family := classifyFamily model
      let observed ← probeDispatchCapabilities T
      let capabilities := (familyDefaultCapabilities family).union observed
      modifySession (·.updateIdentity family capabilities)
      let (capacity, increment) ← ignoringWarnings do
        let capacity ← optionalQuantity (capacity T 0)
        let increment ← optionalQuantity (increment T 0)
        pure (capacity, increment)
      let info : DeviceInfo :=
        { manufacturer := if manufacturer = [] then none else some manufacturer, model, serial := none,
          factoryNumber := some (.blob factoryNumber),
          software := if software = [] then none else some (bytesHex software), family,
          protocol := (← get).session.active, capacity, increment, sbn := some sbn,
          serialSettings := settings, capabilities }
      modify fun h => { h with info := some info }
      pure info

theorem identifyXbpi_eq (T : Transport W) (settings : SerialSettings) :
    identifyXbpi T settings = identityReads T >>= identityOf T settings := by
  simp only [identifyXbpi, identityReads, identityOf, bind_assoc, pure_bind]

/-- The device answers a request for its configuration counter with a body of one byte. -/
def AnswersCounter (T : Transport W) (h : Host W) : Prop :=
  ∃ client data raw frame, h.session.xbpi = some client ∧
    Xbpi.buildCommand 0xBA [] h.session.srcSbn h.session.dstSbn = .ok data ∧
    ((Xbpi.sendRaw T client.disposed data h.session.defaultTimeout "config_counter" (some 0xBA)).exec
      h.world).1 = .ok raw ∧
    Xbpi.parseFrame raw = .ok frame ∧ frame.subtype ≠ Xbpi.errorSubtype ∧ frame.body.length = 1

/-- The gates let the probe pass. -/
def ProbeAllowed (s : Session) : Prop :=
  s.availability.get? "config_counter" ≠ some .unsupported ∧
    (s.strict = false ∨ CapabilityBit.configCounter ∈ s.capabilities)

/-! ## The session when the probe is made -/

/-- `s'` is `s` but for the record of the warnings and the availability of other commands than the probe. -/
def Unprobed (s s' : Session) : Prop :=
  ∃ p a, s' = { s with warnedPriors := p, availability := a } ∧
    a.get? "config_counter" = s.availability.get? "config_counter"

theorem Unprobed.trans {s₁ s₂ s₃ : Session} (h : Unprobed s₁ s₂) (h' : Unprobed s₂ s₃) : Unprobed s₁ s₃ := by
  obtain ⟨p, a, rfl, ha⟩ := h
  obtain ⟨p', a', rfl, ha'⟩ := h'
  exact ⟨p', a', rfl, ha'.trans ha⟩

theorem Unprobed.allowed {s s' : Session} (h : Unprobed s s') : ProbeAllowed s' ↔ ProbeAllowed s := by
  obtain ⟨p, a, rfl, ha⟩ := h
  simp only [ProbeAllowed, ha]

/-- A read that returned. -/
theorem execute_unprobed {command : Command Req Resp} {request : Req} {confirm : Bool} {timeout : Option Rat}
    {h h' : Host W} {resp : Resp} (hname : command.name ≠ "config_counter") (hactive : h.session.active = .xbpi)
    (hrun : (execute T command request confirm timeout).exec h = (.ok resp, h')) :
    Unprobed h.session h'.session ∧ h'.warnings = h.warnings ∧ h'.session.active = .xbpi := by
  obtain ⟨variant, client, data, p, frame, w, -, -, -, rfl⟩ := execute_accepted hactive hrun
  refine ⟨⟨p, _, rfl, ?_⟩, rfl, hactive⟩
  exact Dict.get?_set_ne _ (Ne.symm hname) _

/-- When the reads have returned, the session is operational and the probe's gates stand as they did before. -/
theorem identityReads_returned {h h' : Host W} {r : Text × Text × Bytes × Bytes × Int}
    (hactive : h.session.active = .xbpi) (hrun : (identityReads T).exec h = (.ok r, h')) :
    Unprobed h.session h'.session ∧ h'.session.active = .xbpi ∧ h.session.state = .operational := by
  obtain ⟨model, h₁, hmodel, hrun⟩ := exec_bind_eq_ok.mp hrun
  obtain ⟨manufacturer, h₂, hmanufacturer, hrun⟩ := exec_bind_eq_ok.mp hrun
  obtain ⟨software, h₃, hsoftware, hrun⟩ := exec_bind_eq_ok.mp hrun
  obtain ⟨factoryNumber, h₄, hfactory, hrun⟩ := exec_bind_eq_ok.mp hrun
  obtain ⟨sbn, h₅, hsbn, hrun⟩ := exec_bind_eq_ok.mp hrun
  cases hrun
  obtain ⟨hs₁, -, ha₁⟩ := execute_unprobed (by decide) hactive hmodel
  obtain ⟨hs₂, -, ha₂⟩ := execute_unprobed (by decide) ha₁ hmanufacturer
  obtain ⟨hs₃, -, ha₃⟩ := execute_unprobed (by decide) ha₂ hsoftware
  obtain ⟨hs₄, -, ha₄⟩ := execute_unprobed (by decide) ha₃ hfactory
  obtain ⟨hs₅, -, ha₅⟩ := execute_unprobed (by decide) ha₄ hsbn
  obtain ⟨variant, client, data, p, frame, w, hsent, -⟩ := execute_accepted hactive hmodel
  have hstate : Gate.state.passes h.session Commands.READ_MODEL false = true :=
    gates_open (requestOf_open hsent) Gate.state
  exact ⟨hs₁.trans (hs₂.trans (hs₃.trans (hs₄.trans hs₅))), ha₅, by simpa [Gate.passes] using hstate⟩

/-! ## The probe -/

/-- A probe returns exactly when its gates are open and the device answers. -/
theorem probe_returns_iff {h : Host W} (hactive : h.session.active = .xbpi)
    (hstate : h.session.state = .operational) (hwarnings : h.warnings ≠ .error) :
    (∃ n h', (execute T Commands.CONFIG_COUNTER () false none).exec h = (.ok n, h')) ↔
      ProbeAllowed h.session ∧ AnswersCounter T h := by
  constructor
  · rintro ⟨n, h', hrun⟩
    obtain ⟨variant, client', data', p, frame, w, hsent, hexchange, hdecode, -⟩ := execute_accepted hactive hrun
    obtain ⟨hx, hclient', hdata'⟩ := requestOf_eq_some hsent
    cases hx
    have hopen := gates_open (requestOf_open hsent)
    have hdenied := hopen Gate.knownDenied
    have hpriors := hopen Gate.priors
    obtain ⟨raw, hraw, hparse, hsub⟩ := Xbpi.executeLocked_eq_ok.mp (congrArg Prod.fst hexchange)
    refine ⟨⟨of_decide_eq_true hdenied, ?_⟩, client', data', raw, frame, hclient',
      Device.buildCommand_of_frameOf hdata', hraw, hparse, hsub, ?_⟩
    · simpa [Gate.passes, Commands.CONFIG_COUNTER] using hpriors
    · simp only [Commands.configCounterVariant, Commands.noArgs] at hdecode
      split at hdecode
      · rename_i hbody
        simp [hbody]
      · cases hdecode
  · rintro ⟨⟨hdenied, hpriors⟩, client', data', raw, frame, hclient', hdata', hraw, hparse, hsub, hbody⟩
    have hpasses : ∀ g : Gate, g.passes h.session Commands.CONFIG_COUNTER false = true := by
      intro g
      cases g with
      | state => simpa [Gate.passes] using hstate
      | safety => rfl
      | protocol => simp [Gate.passes, hactive, Commands.CONFIG_COUNTER]
      | knownDenied => exact decide_eq_true hdenied
      | priors => simpa [Gate.passes, Commands.CONFIG_COUNTER] using hpriors
    have hencode : Commands.configCounterVariant.encode h.session.context () = .ok data' := by
      show Commands.frameOf 0xBA [] h.session.context = .ok data'
      rw [Commands.frameOf, Commands.lift]
      show (Xbpi.buildCommand 0xBA [] h.session.srcSbn h.session.dstSbn).mapError Exc.sartorius = .ok data'
      rw [hdata']
      rfl
    have hpriorsOk : ((gatePriors Commands.CONFIG_COUNTER).exec h).1.isOk = true := by
      rw [gatePriors_passes hwarnings (hpasses .priors)]
      rfl
    have hsent : requestOf Commands.CONFIG_COUNTER () false h =
        some (Commands.configCounterVariant, client', data') :=
      requestOf_passes hpasses hpriorsOk rfl hclient' hencode
    obtain ⟨p, hexec⟩ := execute_sent (T := T) hactive hsent none
    have hexchange : (exchangeOf T Commands.CONFIG_COUNTER none h Commands.configCounterVariant client' data').1 =
        .ok frame := Xbpi.executeLocked_eq_ok.mpr ⟨raw, hraw, hparse, hsub⟩
    obtain ⟨counter, hcounter⟩ := List.length_eq_one_iff.mp hbody
    have hdecode : Commands.configCounterVariant.decode frame h.session.context = .ok counter.toNat := by
      simp only [Commands.configCounterVariant, Commands.noArgs, hcounter]
    rcases hrun : exchangeOf T Commands.CONFIG_COUNTER none h Commands.configCounterVariant client' data'
      with ⟨r, w⟩
    rw [hrun] at hexchange hexec
    obtain rfl : r = .ok frame := hexchange
    dsimp only at hexec
    rw [hdecode] at hexec
    exact ⟨_, _, hexec⟩

/-! ## The capabilities afterwards -/

/-- What an identification may change: the identity that the balance and the session hold. -/
def identityHeld (h : Host W) : Option DeviceInfo × BalanceFamily × Capability × Option FirmwareVersion :=
  (h.info, h.session.family, h.session.capabilities, h.session.firmware)

/-- A call leaves the identity and the protocol. -/
theorem apart_identity : Apart fun h : Host W => (identityHeld h, h.session.active) where
  world _ _ := rfl
  sbi _ _ := rfl
  availability _ _ := rfl
  warnedPriors _ _ := rfl
  resultCache _ _ := rfl
  log _ _ _ := rfl
  warnings _ _ := rfl

/-- What the probe observed. -/
theorem probeDispatchCapabilities_returned {h h' : Host W} {observed : Capability}
    (hactive : h.session.active = .xbpi) (hrun : (probeDispatchCapabilities T).exec h = (.ok observed, h')) :
    h'.session.active = .xbpi ∧ (CapabilityBit.configCounter ∈ observed ↔
      ∃ n h'', (execute T Commands.CONFIG_COUNTER () false none).exec { h with warnings := .ignore } =
        (.ok n, h'')) := by
  have hkeeps : h'.session.active = h.session.active := by
    have := apart_identity.probeDispatchCapabilities (T := T) h
    rw [hrun] at this
    exact congrArg Prod.snd this
  refine ⟨hkeeps.trans hactive, ?_⟩
  rw [probeDispatchCapabilities, exec_bind_ok (exec_get h), if_neg (by simp [hactive]), ignoringWarnings,
    exec_ofFun] at hrun
  rw [exec_exceptClasses] at hrun
  rcases hexec : (execute T Commands.CONFIG_COUNTER () false none).exec { h with warnings := .ignore }
    with ⟨e | n, h''⟩
  · rw [exec_bind_error hexec] at hrun
    dsimp only at hrun
    split at hrun
    · cases hrun
      simp
    · cases hrun
  · rw [exec_bind_ok hexec] at hrun
    cases hrun
    simp

/-- No family has the counter by default. -/
theorem configCounter_observed (family : BalanceFamily) (observed : Capability) :
    CapabilityBit.configCounter ∈ (familyDefaultCapabilities family).union observed ↔
      CapabilityBit.configCounter ∈ observed := by
  cases family <;> simp [familyDefaultCapabilities, Capability.union]

/-- After an identification the capability is there exactly when the probe was allowed and answered. -/
theorem identify_configCounter {h h' : Host W} {info : DeviceInfo} (hactive : h.session.active = .xbpi)
    (hrun : (identify T).exec h = (.ok info, h')) :
    CapabilityBit.configCounter ∈ h'.session.capabilities ↔
      ProbeAllowed h.session ∧ AnswersCounter T (probeHost T h) := by
  rw [identify, exec_bind_ok (exec_get h), if_neg (by simp [hactive]), identifyXbpi_eq] at hrun
  obtain ⟨⟨model, manufacturer, software, factoryNumber, sbn⟩, hp, hreads, hrun⟩ := exec_bind_eq_ok.mp hrun
  have hprobe : probeHost T h = hp := congrArg Prod.snd hreads
  obtain ⟨hunprobed, hactive', hstate⟩ := identityReads_returned hactive hreads
  obtain ⟨observed, h₁, hobserved, hrun⟩ := exec_bind_eq_ok.mp hrun
  obtain ⟨hactive₁, hmem⟩ := probeDispatchCapabilities_returned hactive' hobserved
  obtain ⟨⟨⟩, _, hupdate, hrun⟩ := exec_bind_eq_ok.mp hrun
  cases hupdate
  obtain ⟨⟨q, q'⟩, h₂, hmetrology, hrun⟩ := exec_bind_eq_ok.mp hrun
  have hcapable : h₂.session.capabilities = (familyDefaultCapabilities (classifyFamily model)).union observed := by
    have := apart_identity.metrology (T := T) { h₁ with
      session := h₁.session.updateIdentity (classifyFamily model)
        ((familyDefaultCapabilities (classifyFamily model)).union observed) }
    rw [hmetrology] at this
    exact congrArg (fun x => x.1.2.2.1) this
  have hcapabilities : h'.session.capabilities = h₂.session.capabilities := by
    cases hrun
    rfl
  rw [hcapabilities, hcapable, configCounter_observed, hmem, hprobe, ← hunprobed.allowed]
  obtain ⟨p, a, hsession, -⟩ := hunprobed
  refine probe_returns_iff (T := T) (h := { hp with warnings := .ignore }) hactive' ?_ (by simp)
  rw [hsession]
  exact hstate

/-- What is observed is what the device answers exactly when the probe is allowed, or when there is nothing to
observe. -/
theorem identify_observes_iff {h h' : Host W} {info : DeviceInfo} (hactive : h.session.active = .xbpi)
    (hrun : (identify T).exec h = (.ok info, h')) :
    (CapabilityBit.configCounter ∈ h'.session.capabilities ↔ AnswersCounter T (probeHost T h)) ↔
      ProbeAllowed h.session ∨ ¬ AnswersCounter T (probeHost T h) := by
  rw [identify_configCounter hactive hrun]
  by_cases hanswers : AnswersCounter T (probeHost T h) <;> simp [hanswers]

/-- A device that reports its address and, for every other request, the letters of a model. -/
def cubis : Device Unit where
  report _ opcode _ := if opcode = 0x71 then (0x21, [0x09]) else (0x21, [0x4D, 0x53, 0x45])
  change c _ := c
  counted _ _ := false
  report_size _ _ _ := by split <;> simp
  uncounted _ _ _ _ _ _ := rfl

def cubisHost (strict : Bool) : Host (DeviceLine Unit) where
  world := { device := { config := () } }
  session := { active := .xbpi, xbpi := some { id := 0 }, strict }

/-- Every device of this kind answers a request for its counter. -/
theorem cubis_answers (strict : Bool) :
    AnswersCounter cubis.transport (probeHost cubis.transport (cubisHost strict)) := by
  refine ⟨{ id := 0 }, [0x04, 0x01, 0x09, 0xBA, 0xC8], Xbpi.assembleFrame 0x21 [0x00], _, ?_, ?_, ?_,
    Xbpi.parseFrame_assembleFrame _ (by decide), ?_, ?_⟩
  all_goals cases strict <;> decide +kernel

theorem identify_observes_cubis : ∃ info h', (identify cubis.transport).exec (cubisHost false) = (.ok info, h') ∧
    ((CapabilityBit.configCounter ∈ h'.session.capabilities ↔
        AnswersCounter cubis.transport (probeHost cubis.transport (cubisHost false))) ↔
      ProbeAllowed (cubisHost false).session ∨
        ¬ AnswersCounter cubis.transport (probeHost cubis.transport (cubisHost false))) := by
  have hok : ((identify cubis.transport).exec (cubisHost false)).1.isOk = true := by decide +kernel
  rcases hrun : (identify cubis.transport).exec (cubisHost false) with ⟨e | info, h'⟩
  · rw [hrun] at hok
    cases hok
  · exact ⟨info, h', rfl, identify_observes_iff rfl hrun⟩

/-- A strict session does not ask, and leaves out a capability that the device has. -/
theorem strict_probe_refused : ∃ info h', (identify cubis.transport).exec (cubisHost true) = (.ok info, h') ∧
    AnswersCounter cubis.transport (probeHost cubis.transport (cubisHost true)) ∧
    CapabilityBit.configCounter ∉ h'.session.capabilities := by
  have hok : ((identify cubis.transport).exec (cubisHost true)).1.isOk = true := by decide +kernel
  have hmissing : CapabilityBit.configCounter ∉
      ((identify cubis.transport).exec (cubisHost true)).2.session.capabilities := by decide +kernel
  rcases hrun : (identify cubis.transport).exec (cubisHost true) with ⟨e | info, h'⟩
  · rw [hrun] at hok
    cases hok
  · rw [hrun] at hmissing
    exact ⟨info, h', rfl, cubis_answers true, hmissing⟩

/-! ## An identification is made whole or not at all -/

/-- The part of an identification before the metrology reads. -/
def identitySettled (T : Transport W) : Py (Host W) Unit := do
  let (model, _, _, _, _) ← identityReads T
  let observed ← probeDispatchCapabilities T
  modifySession (·.updateIdentity (classifyFamily model)
    ((familyDefaultCapabilities (classifyFamily model)).union observed))

/-- The host when the capacity is read, with the warnings of the priors ignored. -/
def capacityHost (T : Transport W) (h : Host W) : Host W :=
  { ((identitySettled T).exec h).2 with warnings := .ignore }

def incrementHost (T : Transport W) (h : Host W) : Host W := ((capacity T 0).exec (capacityHost T h)).2

/-- A library error leaves the identity that the balance and the session held; a return installs one identity in both.
Over xBPI a metrology value is missing exactly when its read failed, and SBI has none. -/
structure IdentifiesWhole (T : Transport W) (h : Host W) : Prop where
  failed : ∀ e h', (identify T).exec h = (.error e, h') → e.isinstance .sartoriusError = true →
    identityHeld h' = identityHeld h
  installed : ∀ info h', (identify T).exec h = (.ok info, h') →
    h'.info = some info ∧ info.family = h'.session.family ∧ info.capabilities = h'.session.capabilities
  metrology : ∀ info h', (identify T).exec h = (.ok info, h') → h.session.active ≠ .sbi →
    info.capacity = ((capacity T 0).exec (capacityHost T h)).1.toOption ∧
      info.increment = ((increment T 0).exec (incrementHost T h)).1.toOption
  sbi : ∀ info h', (identify T).exec h = (.ok info, h') → h.session.active = .sbi →
    info.capacity = none ∧ info.increment = none

/-- No library error comes out of the program. -/
abbrev Contained {α : Type} (m : Py (Host W) α) : Prop :=
  Triple (fun _ => True) m (fun _ _ => True) fun e _ => ¬ e.isinstance .sartoriusError = true

theorem Contained.bind {α β : Type} {m : Py (Host W) α} {k : α → Py (Host W) β} (hm : Contained m)
    (hk : ∀ a, Contained (k a)) : Contained (m >>= k) := Triple.bind hm hk

theorem Contained.get_bind {α : Type} {k : Host W → Py (Host W) α} (hk : ∀ h, Contained (k h)) :
    Contained (get >>= k) :=
  Triple.get_bind fun h _ => (hk h).conseq (fun _ _ => trivial) (fun _ _ h => h) fun _ _ h => h

theorem contained_pure {α : Type} (a : α) : Contained (pure a : Py (Host W) α) := Triple.pure fun _ _ => trivial

theorem contained_modify (k : Host W → Host W) : Contained (modify k) := Triple.modify fun _ _ => trivial

theorem contained_catch {α : Type} (m : Py (Host W) α) (a : α) :
    Contained (exceptClasses [.sartoriusError] m fun _ => pure a) := by
  intro h _
  rw [exec_exceptClasses]
  rcases m.exec h with ⟨e | a, h'⟩
  · dsimp only
    split_ifs with hcaught
    · trivial
    · simpa using hcaught
  · trivial

theorem contained_ignoringWarnings {α : Type} {m : Py (Host W) α} (hm : Contained m) :
    Contained (ignoringWarnings m) := by
  intro h _
  have := hm { h with warnings := .ignore } trivial
  rw [ignoringWarnings, exec_ofFun]
  rcases hrun : m.exec { h with warnings := .ignore } with ⟨e | a, h'⟩ <;> rw [hrun] at this <;> exact this

/-- After the reads nothing raises a library error: the probe and the metrology catch theirs. -/
theorem identityOf_contained (settings : SerialSettings) (r : Text × Text × Bytes × Bytes × Int) :
    Contained (identityOf T settings r) := by
  obtain ⟨model, manufacturer, software, factoryNumber, sbn⟩ := r
  have hprobe : Contained (probeDispatchCapabilities T) := by
    refine Contained.get_bind fun h => ?_
    split
    · exact contained_pure _
    · exact contained_ignoringWarnings (contained_catch _ _)
  have hmetrology : Contained (ignoringWarnings do
      let capacity ← optionalQuantity (capacity T 0)
      let increment ← optionalQuantity (increment T 0)
      pure (capacity, increment)) :=
    contained_ignoringWarnings <| (contained_catch _ _).bind fun _ => (contained_catch _ _).bind fun _ =>
      contained_pure _
  exact hprobe.bind fun _ => (contained_modify _).bind fun _ => hmetrology.bind fun _ =>
    Contained.get_bind fun _ => (contained_modify _).bind fun _ => contained_pure _

theorem optionalQuantity_returned {m : Py (Host W) Quantity} {h h' : Host W} {q : Option Quantity}
    (hrun : (optionalQuantity m).exec h = (.ok q, h')) : q = (m.exec h).1.toOption ∧ h' = (m.exec h).2 := by
  rw [optionalQuantity, exec_exceptClasses, exec_map] at hrun
  rcases hm : m.exec h with ⟨e | a, t⟩
  · rw [hm] at hrun
    dsimp only at hrun
    split at hrun
    · cases hrun
      exact ⟨rfl, rfl⟩
    · cases hrun
  · rw [hm] at hrun
    cases hrun
    exact ⟨rfl, rfl⟩

theorem identityHeld_leaves {α : Type} {m : Py (Host W) α}
    (hm : Leaves (fun h : Host W => (identityHeld h, h.session.active)) m) : Leaves identityHeld m :=
  fun h => congrArg Prod.fst (hm h)

theorem execute_identityHeld (command : Command Req Resp) (request : Req) (confirm : Bool) (timeout : Option Rat) :
    Leaves identityHeld (execute T command request confirm timeout) :=
  identityHeld_leaves (apart_identity.execute _ _ _ _)

theorem identityReads_identityHeld : Leaves identityHeld (identityReads T) :=
  (execute_identityHeld _ _ _ _).bind fun _ => (execute_identityHeld _ _ _ _).bind fun _ =>
    (execute_identityHeld _ _ _ _).bind fun _ => (execute_identityHeld _ _ _ _).bind fun _ =>
      (execute_identityHeld _ _ _ _).bind fun _ => .pure _

/-- The reads of an identification over SBI. -/
def identityReadsSbi (T : Transport W) : Py (Host W) (Text × Bytes × Bytes) := do
  let model ← execute T Commands.READ_MODEL () false none
  let serialBytes ← execute T Commands.READ_FACTORY_NUMBER () false none
  let softwareBytes ← execute T Commands.READ_SW_VERSION () false none
  pure (model, serialBytes, softwareBytes)

theorem identityReadsSbi_identityHeld : Leaves identityHeld (identityReadsSbi T) :=
  (execute_identityHeld _ _ _ _).bind fun _ => (execute_identityHeld _ _ _ _).bind fun _ =>
    (execute_identityHeld _ _ _ _).bind fun _ => .pure _

/-- Whatever an identification over SBI comes to, its reads came to, or it installed what they returned. -/
theorem exec_identifySbi (settings : SerialSettings) (h : Host W) :
    (∃ e, (identityReadsSbi T).exec h = (.error e, ((identifySbi T settings).exec h).2) ∧
      ((identifySbi T settings).exec h).1 = .error e) ∨
    ∃ info h', (identifySbi T settings).exec h = (.ok info, h') ∧ h'.info = some info ∧
      info.family = h'.session.family ∧ info.capabilities = h'.session.capabilities ∧
      info.capacity = none ∧ info.increment = none := by
  rw [identifySbi, identityReadsSbi, exec_bind, exec_bind]
  rcases (execute T Commands.READ_MODEL () false none).exec h with ⟨e | model, h₁⟩
  · exact .inl ⟨e, rfl, rfl⟩
  dsimp only
  rw [exec_bind, exec_bind]
  rcases (execute T Commands.READ_FACTORY_NUMBER () false none).exec h₁ with ⟨e | serialBytes, h₂⟩
  · exact .inl ⟨e, rfl, rfl⟩
  dsimp only
  rw [exec_bind, exec_bind]
  rcases (execute T Commands.READ_SW_VERSION () false none).exec h₂ with ⟨e | softwareBytes, h₃⟩
  · exact .inl ⟨e, rfl, rfl⟩
  · exact .inr ⟨_, _, rfl, rfl, rfl, rfl, rfl, rfl⟩

/-- An identification over xBPI that returned. -/
theorem identifyXbpi_returned {settings : SerialSettings} {h h' : Host W} {info : DeviceInfo}
    (hrun : (identifyXbpi T settings).exec h = (.ok info, h')) :
    (h'.info = some info ∧ info.family = h'.session.family ∧ info.capabilities = h'.session.capabilities) ∧
      info.capacity = ((capacity T 0).exec (capacityHost T h)).1.toOption ∧
      info.increment = ((increment T 0).exec (incrementHost T h)).1.toOption := by
  rw [identifyXbpi_eq] at hrun
  obtain ⟨⟨model, manufacturer, software, factoryNumber, sbn⟩, hp, hreads, hrun⟩ := exec_bind_eq_ok.mp hrun
  obtain ⟨observed, h₁, hobserved, hrun⟩ := exec_bind_eq_ok.mp hrun
  obtain ⟨⟨⟩, h₂, hupdate, hrun⟩ := exec_bind_eq_ok.mp hrun
  obtain ⟨⟨q, q'⟩, h₃, hmetrology, hrun⟩ := exec_bind_eq_ok.mp hrun
  have hsettled : (identitySettled T).exec h = (.ok (), h₂) := by
    rw [identitySettled, exec_bind_ok hreads]
    dsimp only
    rw [exec_bind_ok hobserved]
    exact hupdate
  have hleft : (identityHeld h₃, h₃.session.active) = (identityHeld h₂, h₂.session.active) := by
    have := apart_identity.metrology (T := T) h₂
    rwa [hmetrology] at this
  have hidentity : h₃.session.family = classifyFamily model ∧ h₃.session.capabilities =
      (familyDefaultCapabilities (classifyFamily model)).union observed := by
    cases hupdate
    exact ⟨congrArg (·.1.2.1) hleft, congrArg (·.1.2.2.1) hleft⟩
  have hq : q = ((capacity T 0).exec (capacityHost T h)).1.toOption ∧
      q' = ((increment T 0).exec (incrementHost T h)).1.toOption := by
    have hhost : capacityHost T h = { h₂ with warnings := .ignore } := by rw [capacityHost, hsettled]
    rw [incrementHost, hhost]
    rcases hboth : (do
        let capacity ← optionalQuantity (capacity T 0)
        let increment ← optionalQuantity (increment T 0)
        pure (capacity, increment) : Py (Host W) _).exec { h₂ with warnings := .ignore } with ⟨e | both, h₄⟩
    · rw [ignoringWarnings, exec_ofFun, hboth] at hmetrology
      cases hmetrology
    · rw [ignoringWarnings, exec_ofFun, hboth] at hmetrology
      cases hmetrology
      obtain ⟨c, h₅, hcapacity, hboth⟩ := exec_bind_eq_ok.mp hboth
      obtain ⟨i, h₆, hincrement, hboth⟩ := exec_bind_eq_ok.mp hboth
      cases hboth
      obtain ⟨hc, hh₅⟩ := optionalQuantity_returned hcapacity
      obtain ⟨hi, -⟩ := optionalQuantity_returned hincrement
      exact ⟨hc, by rw [hi, hh₅]⟩
  cases hrun
  exact ⟨⟨rfl, hidentity.1.symm, hidentity.2.symm⟩, hq⟩

theorem identify_whole (T : Transport W) (h : Host W) : IdentifiesWhole T h := by
  have hidentify : ∀ settings, h.session.serialSettings.getD placeholderSerialSettings = settings →
      (identify T).exec h = if h.session.active = .sbi then (identifySbi T settings).exec h
        else (identifyXbpi T settings).exec h := by
    rintro settings rfl
    rw [identify, exec_bind_ok (exec_get h)]
    dsimp only
    by_cases hactive : h.session.active = .sbi
    · rw [if_pos hactive, if_pos hactive]
    · rw [if_neg hactive, if_neg hactive]
  obtain ⟨settings, hsettings⟩ : ∃ settings, h.session.serialSettings.getD placeholderSerialSettings = settings :=
    ⟨_, rfl⟩
  have hrun := hidentify settings hsettings
  by_cases hactive : h.session.active = .sbi
  · rw [if_pos hactive] at hrun
    rcases exec_identifySbi (T := T) settings h with ⟨e₀, hreads, herror⟩ | ⟨info₀, h₀, hok, hinstalled⟩
    · have herr : ∀ info h', (identify T).exec h ≠ (.ok info, h') := by
        intro info h' hcontra
        rw [hrun] at hcontra
        rw [hcontra] at herror
        cases herror
      refine ⟨fun e h' hh _ => ?_, fun info h' hh => absurd hh (herr info h'),
        fun info h' hh => absurd hh (herr info h'), fun info h' hh => absurd hh (herr info h')⟩
      have := identityReadsSbi_identityHeld (T := T) h
      rw [hreads] at this
      rw [hrun] at hh
      rwa [hh] at this
    · have hret : ∀ info h', (identify T).exec h = (.ok info, h') → info₀ = info ∧ h₀ = h' := by
        intro info h' hh
        rw [hrun, hok] at hh
        cases hh
        exact ⟨rfl, rfl⟩
      refine ⟨fun e h' hh _ => ?_, fun info h' hh => ?_, fun info h' hh hne => absurd hactive hne,
        fun info h' hh _ => ?_⟩
      · rw [hrun, hok] at hh
        cases hh
      · obtain ⟨rfl, rfl⟩ := hret info h' hh
        exact ⟨hinstalled.1, hinstalled.2.1, hinstalled.2.2.1⟩
      · obtain ⟨rfl, rfl⟩ := hret info h' hh
        exact hinstalled.2.2.2
  · rw [if_neg hactive] at hrun
    refine ⟨fun e h' hh hlib => ?_, fun info h' hh => (identifyXbpi_returned (hrun.symm.trans hh)).1,
      fun info h' hh _ => (identifyXbpi_returned (hrun.symm.trans hh)).2, fun info h' hh hsbi => absurd hsbi hactive⟩
    -- the library error is that of a read
    rw [hrun, identifyXbpi_eq, exec_bind] at hh
    have hleft := identityReads_identityHeld (T := T) h
    rcases hreads : (identityReads T).exec h with ⟨e₀ | r, h₁⟩
    · rw [hreads] at hh hleft
      cases hh
      exact hleft
    · rw [hreads] at hh
      exact absurd hlib ((identityOf_contained settings r).error trivial hh)

/-- A balance that answers the three identity tokens of SBI. -/
def sbiBalance : Host SerialState where
  world := { settings := { port := "/dev/ttyUSB0" },
             line := [[.chunk [0x42, 0x43, 0x45, 0x0D, 0x0A], .chunk [0x30, 0x31, 0x0D, 0x0A],
                       .chunk [0x30, 0x30, 0x0D, 0x0A]]] }
  session := { active := .sbi, sbi := some { id := 0 } }

/-- Its identification has no capacity, and no read of one failed: the three tokens are all that was sent. -/
theorem sbiBalance_capacity : ∃ info h', (identify serialTransport).exec sbiBalance = (.ok info, h') ∧
    info.capacity = none ∧ h'.world.sent = [Sbi.TOKEN_TYPE, Sbi.TOKEN_SERIAL, Sbi.TOKEN_SOFTWARE] := by
  have hsent : ((identify serialTransport).exec sbiBalance).2.world.sent =
      [Sbi.TOKEN_TYPE, Sbi.TOKEN_SERIAL, Sbi.TOKEN_SOFTWARE] := by decide +kernel
  have hok : ((identify serialTransport).exec sbiBalance).1.isOk = true := by decide +kernel
  have hsbi : (identify serialTransport).exec sbiBalance =
      (identifySbi serialTransport placeholderSerialSettings).exec sbiBalance := rfl
  rw [hsbi] at hsent hok ⊢
  rcases exec_identifySbi placeholderSerialSettings sbiBalance with ⟨e, -, herror⟩ |
    ⟨info, h', hrun, -, -, -, hcapacity, -⟩
  · rw [herror] at hok
    cases hok
  · rw [hrun] at hsent
    exact ⟨info, h', hrun, hcapacity, hsent⟩

end Balance

end SartoriusLib
