import SartoriusLib.Devices.Balance

/-!
# The gates of a dispatch

`execute` passes five gates before it writes. The first gate that does not pass decides the exception, and
then the call has done nothing at all.
-/

namespace SartoriusLib

open Lib Session

/-- The gates, in the order in which they fire. -/
inductive Gate where
  | state
  | safety
  | protocol
  | knownDenied
  | priors
  deriving DecidableEq, Repr

namespace Gate

def order : List Gate := [state, safety, protocol, knownDenied, priors]

variable {Req Resp : Type}

/-- The condition of a gate. -/
def passes (s : Session) (command : Command Req Resp) (confirm : Bool) : Gate → Bool
  | state => s.state = .operational
  | safety => command.safety = .readOnly ∨ command.safety = .stateful ∨ confirm
  | protocol => if s.active = .xbpi then command.xbpi.isSome else command.sbi.isSome
  | knownDenied => s.availability.get? command.name ≠ some .unsupported
  | priors =>
      s.strict = false ∨
        ((command.familyHints = [] ∨ s.family ∈ command.familyHints) ∧
          ∀ c ∈ command.capabilityHints, c ∈ s.capabilities)

/-- The exception of a gate. -/
def errorClass : Gate → ErrorClass
  | state => .connectionError
  | safety => .confirmationRequiredError
  | protocol => .protocolUnsupportedError
  | knownDenied => .unsupportedCommandError
  | priors => .capabilityError

def firstFailing (s : Session) (command : Command Req Resp) (confirm : Bool) : Option Gate :=
  order.find? fun g => !g.passes s command confirm

/-! ## One gate at a time -/

variable {s : Session} {command : Command Req Resp} {confirm : Bool}

/-- A pure gate is open when its condition holds, and raises its exception otherwise. -/
def Guards (gate : Except SartoriusError Unit) (g : Gate) (s : Session) (command : Command Req Resp)
    (confirm : Bool) : Prop :=
  if g.passes s command confirm then gate = .ok () else ∃ e, e.cls = g.errorClass ∧ gate = .error e

theorem checkState_guards : Guards s.checkState state s command confirm := by
  cases h : s.state with
  | operational => simp [Guards, passes, checkState, h]
  | broken => simp [Guards, passes, checkState, errorClass, h]

theorem gateSafety_guards : Guards (s.gateSafety command confirm) safety s command confirm := by
  unfold Guards gateSafety
  cases hs : command.safety <;> cases confirm <;> simp [passes, errorClass, hs]

theorem gateProtocol_guards : Guards (s.gateProtocol command) protocol s command confirm := by
  unfold Guards gateProtocol
  by_cases ha : s.active = .xbpi
  · cases hx : command.xbpi <;> simp [passes, errorClass, ha, hx]
  · cases hx : command.sbi <;> simp [passes, errorClass, ha, hx]

theorem gateKnownDenied_guards : Guards (s.gateKnownDenied command) knownDenied s command confirm := by
  unfold Guards gateKnownDenied
  by_cases h : s.availability.get? command.name = some .unsupported <;> simp [passes, errorClass, h]

/-- The last gate raises its exception, and else lets the call through or turns a warning into one. -/
theorem gatePriors_fails {W : Type} {h : Host W} (hfail : priors.passes h.session command confirm = false) :
    ∃ e, e.cls = priors.errorClass ∧ (gatePriors command).exec h = (.error (.sartorius e), h) := by
  have hstrict : h.session.strict = true := by
    cases hs : h.session.strict with
    | true => rfl
    | false => simp [passes, hs] at hfail
  have hpriors : ¬ (h.session.familyOk command = true ∧ h.session.capsOk command = true) := by
    rintro ⟨hf, hc⟩
    have hf : command.familyHints = [] ∨ h.session.family ∈ command.familyHints := by
      simpa [familyOk] using hf
    have hc : ∀ c ∈ command.capabilityHints, c ∈ h.session.capabilities := by
      rcases (by simpa [capsOk] using hc : command.capabilityHints = [] ∨ _) with hn | hc
      · simp [hn]
      · simpa [Capability.contains] using hc
    have hpass : priors.passes h.session command confirm = true := decide_eq_true (.inr ⟨hf, hc⟩)
    rw [hpass] at hfail
    cases hfail
  refine ⟨h.session.priorsError command, rfl, ?_⟩
  rw [gatePriors, Prog.exec_bind_ok (Prog.exec_get h), if_neg hpriors, if_pos hstrict]
  rfl

end Gate

/-! ## The dispatch -/

section Dispatch

variable {W Req Resp : Type}

open Gate

theorem exec_requireSbi {h : Host W} {client : Sbi.SbiClient} (hactive : h.session.active = .sbi)
    (hsbi : h.session.sbi = some client) (name refusal : String) :
    (requireSbi name refusal).exec h = (.ok client, h) := by
  rw [requireSbi, Prog.exec_bind_ok (Prog.exec_get h), if_neg (by simp [hactive]), hsbi]
  rfl

theorem exec_guard_fails {gate : Except SartoriusError Unit} {g : Gate} {s : Session}
    {command : Command Req Resp} {confirm : Bool} (hg : Guards gate g s command confirm)
    (hfail : g.passes s command confirm = false) {h : Host W} (m : Unit → Py (Host W) Resp) :
    ∃ e, e.cls = g.errorClass ∧ (liftExcept gate >>= m).exec h = (.error (.sartorius e), h) := by
  rw [Guards, hfail] at hg
  obtain ⟨e, he, rfl⟩ := hg
  exact ⟨e, he, Prog.exec_bind_error (exec_liftExcept_error e h)⟩

theorem exec_guard_passes {gate : Except SartoriusError Unit} {g : Gate} {s : Session}
    {command : Command Req Resp} {confirm : Bool} (hg : Guards gate g s command confirm)
    (hpass : g.passes s command confirm = true) {h : Host W} (m : Unit → Py (Host W) Resp) :
    (liftExcept gate >>= m).exec h = (m ()).exec h := by
  rw [Guards, if_pos hpass] at hg
  rw [hg]
  exact Prog.exec_bind_ok (exec_liftExcept_ok () h)

theorem exec_gatePriors_ok {command : Command Req Resp} {h : Host W}
    (hpriors : h.session.familyOk command = true ∧ h.session.capsOk command = true) :
    (gatePriors command).exec h = (.ok (), h) := by
  rw [gatePriors, Prog.exec_bind_ok (Prog.exec_get h), if_pos hpriors]
  rfl

/-- A call whose gates are open goes to the client of the active protocol. -/
theorem execute_open (T : Transport W) {command : Command Req Resp} (request : Req) {confirm : Bool}
    (timeout : Option Rat) {h h' : Host W}
    (hpass : ∀ g, g ≠ Gate.priors → g.passes h.session command confirm = true)
    (hpriors : (gatePriors command).exec h = (.ok (), h')) :
    (execute T command request confirm timeout).exec h =
      (match h.session.active with
        | .xbpi => executeXbpi T command request timeout
        | .sbi => executeSbi T command request timeout
        | .auto => raise .sartoriusError "unreachable: session has no active protocol").exec h' := by
  rw [execute, Prog.exec_bind_ok (Prog.exec_get h),
    exec_guard_passes checkState_guards (hpass Gate.state (by decide)),
    exec_guard_passes gateSafety_guards (hpass Gate.safety (by decide)),
    exec_guard_passes gateProtocol_guards (hpass Gate.protocol (by decide)),
    exec_guard_passes gateKnownDenied_guards (hpass Gate.knownDenied (by decide))]
  exact (Prog.exec_bind_ok hpriors).trans (by cases h.session.active <;> rfl)

/-- The first gate that fails raises its exception and leaves everything as it was. -/
theorem execute_firstFailing (T : Transport W) (command : Command Req Resp) (request : Req) (confirm : Bool)
    (timeout : Option Rat) (h : Host W) {g : Gate} (hg : firstFailing h.session command confirm = some g) :
    ∃ e, e.cls = g.errorClass ∧
      (execute T command request confirm timeout).exec h = (.error (.sartorius e), h) := by
  rw [execute, Prog.exec_bind_ok (Prog.exec_get h)]
  cases h₁ : Gate.state.passes h.session command confirm with
  | false =>
      obtain rfl : g = Gate.state := by simpa [firstFailing, order, h₁, eq_comm] using hg
      exact exec_guard_fails checkState_guards h₁ _
  | true =>
  rw [exec_guard_passes checkState_guards h₁]
  cases h₂ : Gate.safety.passes h.session command confirm with
  | false =>
      obtain rfl : g = Gate.safety := by simpa [firstFailing, order, h₁, h₂, eq_comm] using hg
      exact exec_guard_fails gateSafety_guards h₂ _
  | true =>
  rw [exec_guard_passes gateSafety_guards h₂]
  cases h₃ : Gate.protocol.passes h.session command confirm with
  | false =>
      obtain rfl : g = Gate.protocol := by simpa [firstFailing, order, h₁, h₂, h₃, eq_comm] using hg
      exact exec_guard_fails gateProtocol_guards h₃ _
  | true =>
  rw [exec_guard_passes gateProtocol_guards h₃]
  cases h₄ : Gate.knownDenied.passes h.session command confirm with
  | false =>
      obtain rfl : g = Gate.knownDenied := by simpa [firstFailing, order, h₁, h₂, h₃, h₄, eq_comm] using hg
      exact exec_guard_fails gateKnownDenied_guards h₄ _
  | true =>
  rw [exec_guard_passes gateKnownDenied_guards h₄]
  cases h₅ : Gate.priors.passes h.session command confirm with
  | false =>
      obtain rfl : g = Gate.priors := by simpa [firstFailing, order, h₁, h₂, h₃, h₄, h₅, eq_comm] using hg
      obtain ⟨e, he, hrun⟩ := gatePriors_fails h₅
      exact ⟨e, he, Prog.exec_bind_error hrun⟩
  | true => simp [firstFailing, order, h₁, h₂, h₃, h₄, h₅] at hg

/-- A call writes bytes only if every gate passes; when a gate does not, the first such gate decides the
exception, and no byte is written and no state is changed. -/
theorem execute_gates (T : Transport W) (command : Command Req Resp) (request : Req) (confirm : Bool)
    (timeout : Option Rat) (h : Host (Logged W)) :
    (((execute (logged T) command request confirm timeout).exec h).2.world.written ≠ h.world.written →
      ∀ g, Gate.passes h.session command confirm g = true) ∧
    (∀ g, firstFailing h.session command confirm = some g →
      ∃ e, e.cls = g.errorClass ∧
        (execute (logged T) command request confirm timeout).exec h = (.error (.sartorius e), h)) := by
  refine ⟨fun hwrote => ?_, fun g hg => execute_firstFailing (logged T) command request confirm timeout h hg⟩
  cases hg : firstFailing h.session command confirm with
  | none =>
      intro g
      have hall := List.find?_eq_none.mp hg g (by cases g <;> decide)
      simpa using hall
  | some g =>
      obtain ⟨e, -, hrun⟩ := execute_firstFailing (logged T) command request confirm timeout h hg
      rw [hrun] at hwrote
      exact absurd rfl hwrote

end Dispatch

end SartoriusLib
