import SartoriusLib.Devices.Identity
import SartoriusLib.Devices.OpeningTrace
import SartoriusLib.Transport.Responder
import SartoriusLib.Transport.Scripted

/-!
# A balance over a script

A balance that is opened on a scripted transport gets its replies from the script: a command whose request has a
reply returns what the reply decodes to, and a command whose request has none fails.
-/

namespace SartoriusLib

open Lib Prog

/-! ## The opening -/

namespace Factory

theorem exec_ensureOpen_closed {o : Opening ScriptedState} (hclosed : o.host.world.fake.isOpen = false) :
    (ensureOpen scriptedTransport).exec o =
      (.ok (), { o with host := { o.host with
        world := { o.host.world with fake := { o.host.world.fake with isOpen := true } } } }) := by
  rw [ensureOpen, exec_bind_ok (exec_get o), if_neg (by simp [scriptedTransport, hclosed])]
  simp only [onPort, onHost, onWorld, exec_zoom, scriptedTransport, ScriptedTransport.openPort]
  rw [exec_bind_ok (exec_get _), if_neg (by simp [hclosed])]
  rfl

/-- The session of a balance that was told to speak xBPI. -/
def xbpiSession (r : OpenRequest) (id : Nat) : Session where
  xbpi := some { id, defaultTimeout := r.timeout }
  active := .xbpi
  srcSbn := r.srcSbn
  dstSbn := r.dstSbn
  strict := r.strict
  defaultTimeout := r.timeout
  serialSettings := some r.settings

/-- A balance that is told to speak xBPI is built without a word on the line. -/
theorem exec_buildBalance_xbpi {W : Type} (T : Transport W) {r : OpenRequest} (hprotocol : r.protocol = .xbpi)
    (o : Opening W) :
    ∃ o', (buildBalance T r).exec o = (.ok (), o') ∧ o'.host.session = xbpiSession r o.host.nextId ∧
      o'.host.world = o.host.world ∧ o'.recoverableErrorCount = 0 := by
  have hresolve : (onPort (resolveProtocol T r)).exec o = (.ok (.xbpi, none), o) := by
    rw [resolveProtocol, if_pos (by rw [hprotocol]; decide), hprotocol]
    rfl
  have hid : (onHost Balance.freshId).exec o =
      (.ok o.host.nextId, { o with host := { o.host with nextId := o.host.nextId + 1 } }) := rfl
  have hclients : (liftExcept (buildClients .xbpi o.host.nextId r.timeout) : Py (Opening W) _) =
      pure (some { id := o.host.nextId, defaultTimeout := r.timeout }, none) := rfl
  have hsbi : (onHost (primed T none none r.clock) : Py (Opening W) _) = pure none := rfl
  rw [buildBalance, exec_bind_ok hresolve]
  dsimp only
  rw [exec_bind_ok hid, hclients, pure_bind]
  dsimp only
  rw [hsbi, pure_bind, exec_bind_ok (exec_modify _ _), exec_bind_ok (exec_get _),
    if_neg (by simp [newBalance, Session.sbiAutoprintActive])]
  exact ⟨_, rfl, rfl, rfl, rfl⟩

end Factory

/-! ## The commands -/

/-- An operational balance between the default addresses, on an open transport with the script of `m`. -/
structure Ready (m : Dict Bytes Bytes) (h : Host ScriptedState) : Prop where
  world : Replays m h.world
  active : h.session.active = .xbpi
  client : ∃ c, h.session.xbpi = some c ∧ c.disposed = false
  srcSbn : h.session.srcSbn = 0x01
  dstSbn : h.session.dstSbn = 0x09
  operational : h.session.state = .operational
  known : ∀ name, h.session.availability.get? name ≠ some .unsupported

section Commands

variable {m : Dict Bytes Bytes} {h : Host ScriptedState} {Req Resp : Type}

theorem Ready.warnings (hr : Ready m h) (a : WarningAction) : Ready m { h with warnings := a } :=
  ⟨hr.world, hr.active, hr.client, hr.srcSbn, hr.dstSbn, hr.operational, hr.known⟩

/-- A call leaves the balance ready when it makes a command available or learns nothing of it. -/
theorem Ready.wrote (hr : Ready m h) (data : List Bytes) (p : List String) (name : String) :
    Ready m { h with world := h.world.wrote data, session := { h.session with warnedPriors := p } } ∧
      Ready m { h with world := h.world.wrote data,
                       session := { h.session with warnedPriors := p }.setAvailability name .supported } := by
  refine ⟨⟨hr.world.wrote data, hr.active, hr.client, hr.srcSbn, hr.dstSbn, hr.operational, hr.known⟩,
    ⟨hr.world.wrote data, hr.active, hr.client, hr.srcSbn, hr.dstSbn, hr.operational, fun name' => ?_⟩⟩
  simp only [Session.setAvailability, Dict.get?_set]
  split
  · exact fun h => by cases h
  · exact hr.known name'

/-- A request in the default addresses. -/
def Encodes (variant : XbpiVariant Req Resp) (request : Req) (data : Bytes) : Prop :=
  ∀ ctx : CommandContext, ctx.srcSbn = 0x01 → ctx.dstSbn = 0x09 → variant.encode ctx request = .ok data

/-- A command whose request has a reply returns what the reply decodes to. -/
theorem execute_answered (hr : Ready m h) (hframes : ∀ e ∈ m, e.2 = [] ∨ Xbpi.IsFrame e.2)
    (command : Command Req Resp) (request : Req) {variant : XbpiVariant Req Resp} {data : Bytes}
    (hx : command.xbpi = some variant) (hsafety : command.safety = .readOnly)
    (hpriors : command.familyHints = [] ∧ command.capabilityHints = []) (hdata : Encodes variant request data)
    {subtype : UInt8} {body : Bytes} (hreply : m.get? data = some (Xbpi.assembleFrame subtype body))
    (hsize : body.length ≤ 252) (haccepted : subtype ≠ Xbpi.errorSubtype) {resp : Resp}
    (hdec : ∀ frame ctx, frame.body = body → variant.decode frame ctx = .ok resp) :
    ∃ h', (execute scriptedTransport.toTransport command request false none).exec h = (.ok resp, h') ∧ Ready m h' := by
  obtain ⟨client, hclient, hlive⟩ := hr.client
  have hencode := hdata h.session.context hr.srcSbn hr.dstSbn
  have hpasses : ∀ g : Gate, g.passes h.session command false = true := by
    rintro (- | - | - | - | -)
    · simp [Gate.passes, hr.operational]
    · simp [Gate.passes, hsafety]
    · simp [Gate.passes, hr.active, hx]
    · simp [Gate.passes, hr.known]
    · simp [Gate.passes, hpriors]
  have hwarned : ((gatePriors command).exec h).1.isOk = true := by
    rw [exec_gatePriors_ok ⟨by simp [Session.familyOk, hpriors.1], by simp [Session.capsOk, hpriors.2]⟩]
    rfl
  obtain ⟨p, hrun⟩ := execute_sent (T := scriptedTransport.toTransport) hr.active
    (requestOf_passes hpasses hwarned hx hclient hencode) none
  have hne : Xbpi.assembleFrame subtype body ≠ [] := by
    rw [← List.length_pos_iff, Xbpi.assembleFrame_length]
    omega
  have hreplayed : Xbpi.replayed m h.world.fake.label data h.session.defaultTimeout command.name
      (some variant.opcode) = .ok (Xbpi.Reply.frame ⟨subtype, body, hsize⟩) :=
    (Xbpi.replayed_reply hreply hne _ _ _ _).trans (Xbpi.frameReply_accepted (r := ⟨subtype, body, hsize⟩) _ _ haccepted)
  rw [exchangeOf, hlive, Option.getD_none, Xbpi.exec_executeLocked_scripted hr.world hframes, hreplayed] at hrun
  exact ⟨_, hrun.trans (Prod.ext (hdec _ _ (Xbpi.Reply.frame_body _)) rfl), (hr.wrote [data] p command.name).2⟩

/-- A command whose request has no reply fails with an error of the library. -/
theorem execute_unanswered (hr : Ready m h) (hframes : ∀ e ∈ m, e.2 = [] ∨ Xbpi.IsFrame e.2)
    (hwarnings : h.warnings ≠ .error) (command : Command Req Resp) (request : Req) {variant : XbpiVariant Req Resp}
    {data : Bytes} (hx : command.xbpi = some variant) (hdata : Encodes variant request data)
    (hsilent : m.get? data = none) :
    ∃ e h', (execute scriptedTransport.toTransport command request false none).exec h = (.error (.sartorius e), h') ∧
      Ready m h' ∧ h'.warnings = h.warnings := by
  cases hgate : Gate.firstFailing h.session command false with
  | some g =>
      obtain ⟨e, -, hrun⟩ := execute_firstFailing scriptedTransport.toTransport command request false none h hgate
      exact ⟨e, h, hrun, hr, rfl⟩
  | none =>
      obtain ⟨client, hclient, hlive⟩ := hr.client
      have hwarned : ((gatePriors command).exec h).1.isOk = true := by
        rw [gatePriors_passes hwarnings (gates_open hgate Gate.priors)]
        rfl
      obtain ⟨p, hrun⟩ := execute_sent (T := scriptedTransport.toTransport) hr.active
        (requestOf_passes (gates_open hgate) hwarned hx hclient (hdata h.session.context hr.srcSbn hr.dstSbn)) none
      rw [exchangeOf, hlive, Option.getD_none, Xbpi.exec_executeLocked_scripted hr.world hframes, Xbpi.replayed,
        hsilent] at hrun
      exact ⟨_, _, hrun, (hr.wrote [data] p command.name).1, rfl⟩

end Commands

end SartoriusLib
