import SartoriusLib.Devices.Cache
import SartoriusLib.Devices.Identity
import SartoriusLib.Protocol.Detect
import SartoriusLib.Transport.Responder

/-!
# A change of the bus address

On a multidrop link a device answers the frames that carry its address, and no others. `write_sbn_address` sends the
new address to the old one, reads the address back and lets the session follow. The session follows last, so the read
goes to an address that the device no longer has.
-/

namespace SartoriusLib

open Lib Prog

/-- A device on a multidrop link: the addresses it takes, the code of its refusal of another one, its answers to other
requests, and the answers that the line loses. -/
structure Multidrop where
  accepts : UInt8 → Bool
  refusal : UInt8
  report : Bytes → Xbpi.Reply
  lost : Nat → Bool

/-- The address of the device, and how many frames were on the line. -/
structure Station where
  sbn : UInt8
  heard : Nat := 0

namespace Multidrop

variable (B : Multidrop)

/-- The answer to a frame that carries the address. -/
def reply (s : Station) (data : Bytes) : Xbpi.Reply :=
  if data.getD 3 0 = 0x72 then
    if B.accepts (data.getD 5 0) then { subtype := 0x00, body := [], fits := by decide }
    else { subtype := Xbpi.errorSubtype, body := [B.refusal], fits := by simp }
  else if data.getD 3 0 = 0x71 then { subtype := 0x21, body := [s.sbn], fits := by simp }
  else B.report data

def device : Xbpi.Responder Station where
  answer s data := if data.getD 2 0 = s.sbn ∧ B.lost s.heard = false then some (B.reply s data) else none
  next s data :=
    { sbn := if data.getD 2 0 = s.sbn ∧ data.getD 3 0 = 0x72 ∧ B.accepts (data.getD 5 0) then data.getD 5 0 else s.sbn,
      heard := s.heard + 1 }

variable {B}

theorem device_answer {s : Station} {data : Bytes} (haddress : data.getD 2 0 = s.sbn) (hlost : B.lost s.heard = false) :
    B.device.answer s data = some (B.reply s data) := if_pos ⟨haddress, hlost⟩

variable (B)

/-- The frames of the session carry the address of the device. -/
def Addresses (h : Host (Xbpi.Line Station)) : Prop := h.session.dstSbn = h.world.device.sbn.toNat

/-- A session over xBPI on the link, whose frames carry the address of the device. -/
structure Linked (h : Host (Xbpi.Line Station)) : Prop where
  active : h.session.active = .xbpi
  client : ∃ c, h.session.xbpi = some c ∧ c.disposed = false
  operational : h.session.state = .operational
  allowed : h.session.availability.get? "read_sbn" ≠ some .unsupported
  src : 0 ≤ h.session.srcSbn ∧ h.session.srcSbn ≤ 255
  addresses : Addresses h
  quiet : h.world.out = []

/-- The device takes the address, and its answer is not lost. -/
def Acknowledged (B : Multidrop) (new : UInt8) (h : Host (Xbpi.Line Station)) : Prop :=
  B.accepts new = true ∧ B.lost h.world.device.heard = false

/-- A change of the address to `new`, of which the session is told. -/
def readdress (B : Multidrop) (new : UInt8) (timeout : Option Rat) : Py (Host (Xbpi.Line Station)) Int :=
  Balance.writeSbnAddress B.device.transport new.toNat true timeout true

/-- An acknowledged change leaves the session at the address of the device, returns nothing but the new address, and
returns it unless the answer to the read is lost. -/
structure KeepsReachable (B : Multidrop) (new : UInt8) (timeout : Option Rat) (h : Host (Xbpi.Line Station)) :
    Prop where
  returned : Acknowledged B new h → ∀ r h', (readdress B new timeout).exec h = (.ok r, h') →
    r = new.toNat ∧ h'.session.dstSbn = new.toNat ∧ Addresses h'
  raised : Acknowledged B new h → ∀ e h', (readdress B new timeout).exec h = (.error e, h') → Addresses h'
  readBack : Acknowledged B new h → B.lost (h.world.device.heard + 1) = false →
    ∃ r h', (readdress B new timeout).exec h = (.ok r, h')

variable {B} {h : Host (Xbpi.Line Station)}

theorem toByte_toNat (x : UInt8) : Xbpi.toByte (x.toNat : Int) = x := by simp [Xbpi.toByte]

theorem byte_range (x : UInt8) : 0 ≤ (x.toNat : Int) ∧ (x.toNat : Int) ≤ 255 := by
  have := x.toNat_lt
  omega

/-- The bytes of a frame that a device on the link looks at. -/
theorem frame_bytes {ctx : CommandContext} {opcode : Int} {args data : Bytes}
    (hdata : Commands.frameOf opcode args ctx = .ok data) :
    data.getD 2 0 = Xbpi.toByte ctx.dstSbn ∧ data.getD 3 0 = Xbpi.toByte opcode ∧
      (1 < args.length → data.getD 5 0 = args.getD 1 0) := by
  obtain ⟨-, -, -, -, chk, rfl⟩ := Xbpi.buildCommand_eq_ok (Device.buildCommand_of_frameOf hdata)
  refine ⟨rfl, rfl, fun hlen => ?_⟩
  simp [List.getD_eq_getElem?_getD, List.getElem?_append_left hlen]

/-- Whatever the session sends next is answered, unless the answer is lost. -/
theorem Addresses.answered (haddress : Addresses h) {opcode : Int} {args data : Bytes}
    (hdata : Commands.frameOf opcode args h.session.context = .ok data) (hlost : B.lost h.world.device.heard = false) :
    ∃ r, B.device.answer h.world.device data = some r := by
  refine ⟨_, device_answer ?_ hlost⟩
  rw [(frame_bytes hdata).1]
  show Xbpi.toByte h.session.dstSbn = _
  rw [haddress, toByte_toNat]

theorem Linked.dst_range (hl : Linked h) : 0 ≤ h.session.dstSbn ∧ h.session.dstSbn ≤ 255 := by
  rw [hl.addresses]
  exact byte_range _

/-! ## The write -/

/-- A confirmed raw call is one exchange. -/
theorem Linked.exec_executeRawXbpi (hl : Linked h) {opcode : Int} {args data : Bytes}
    (hdata : Commands.frameOf opcode args h.session.context = .ok data) (timeout : Option Rat) :
    ∃ t name, (executeRawXbpi B.device.transport opcode args true timeout).exec h =
      (((Xbpi.executeLocked B.device.transport false data t name (some opcode)).exec h.world).1,
        { h with
          world := ((Xbpi.executeLocked B.device.transport false data t name (some opcode)).exec h.world).2 }) := by
  obtain ⟨client, hclient, hlive⟩ := hl.client
  refine ⟨timeout.getD h.session.defaultTimeout, s!"raw_xbpi[0x{hex02 opcode}]", ?_⟩
  have hstate : h.session.checkState = .ok () := by simp [Session.checkState, hl.operational]
  have hbuild : Xbpi.buildCommand opcode args h.session.srcSbn h.session.dstSbn = .ok data :=
    Device.buildCommand_of_frameOf hdata
  rw [executeRawXbpi, exec_bind_ok (exec_get h)]
  dsimp only
  rw [hstate, exec_bind_ok (exec_liftExcept_ok () h),
    if_neg (by simp [hl.active]), hclient]
  dsimp only
  rw [if_neg (by simp), hbuild, exec_bind_ok (exec_liftExcept_ok data h), hlive]
  exact exec_zoom _ _ _ h

/-- The host when the change has been acknowledged. -/
def moved (new : UInt8) (h : Host (Xbpi.Line Station)) : Host (Xbpi.Line Station) :=
  { h with world := { device := { sbn := new, heard := h.world.device.heard + 1 } } }

theorem Linked.exec_write (hl : Linked h) {new : UInt8} (hack : Acknowledged B new h) (timeout : Option Rat) :
    ∃ frame, (executeRawXbpi B.device.transport 0x72 [0x21, new] true timeout).exec h = (.ok frame, moved new h) := by
  have haddress : Xbpi.toByte h.session.dstSbn = h.world.device.sbn := by rw [hl.addresses, toByte_toNat]
  have hsrc : 0 ≤ h.session.context.srcSbn ∧ h.session.context.srcSbn ≤ 255 := hl.src
  obtain ⟨data, hdata⟩ := Device.frameOf_fits 0x72 [0x21, new] (by omega) hsrc hl.dst_range (by simp)
  obtain ⟨hdst, hopcode, harg⟩ := frame_bytes hdata
  replace hdst : data.getD 2 0 = h.world.device.sbn := hdst.trans haddress
  replace hopcode : data.getD 3 0 = 0x72 := hopcode
  replace harg : data.getD 5 0 = new := harg (by simp)
  obtain ⟨t, name, hraw⟩ := hl.exec_executeRawXbpi (B := B) hdata timeout
  have hanswer := device_answer (B := B) hdst hack.2
  rw [B.device.exec_executeLocked_answered t name (some 0x72) hl.quiet hanswer] at hraw
  have hreply : B.reply h.world.device data = { subtype := 0x00, body := [], fits := by decide } := by
    rw [reply, if_pos hopcode, if_pos (by rw [harg]; exact hack.1)]
  have hnext : B.device.next h.world.device data = { sbn := new, heard := h.world.device.heard + 1 } := by
    simp only [device, hdst, hopcode, harg, hack.1, and_self, if_true]
  rw [hreply, hnext, Xbpi.frameReply_accepted _ _ (by decide)] at hraw
  exact ⟨_, hraw⟩

/-! ## The read of the address -/

theorem Linked.moved_requestOf (hl : Linked h) (new : UInt8) :
    ∃ client data, client.disposed = false ∧ requestOf Commands.READ_SBN () false (moved new h) =
        some (Commands.readSbnVariant, client, data) ∧
      data.getD 2 0 = h.world.device.sbn ∧ data.getD 3 0 = 0x71 := by
  obtain ⟨client, hclient, hlive⟩ := hl.client
  have hsrc : 0 ≤ h.session.context.srcSbn ∧ h.session.context.srcSbn ≤ 255 := hl.src
  obtain ⟨data, hdata⟩ := Device.frameOf_fits 0x71 [] (by omega) hsrc hl.dst_range (by simp)
  obtain ⟨hdst, hopcode, -⟩ := frame_bytes hdata
  have hpasses : ∀ g : Gate, g.passes (moved new h).session Commands.READ_SBN false = true := by
    intro g
    cases g with
    | state => exact decide_eq_true hl.operational
    | safety => rfl
    | protocol => simp [Gate.passes, moved, hl.active, Commands.READ_SBN]
    | knownDenied => exact decide_eq_true hl.allowed
    | priors => simp [Gate.passes, Commands.READ_SBN]
  refine ⟨client, data, hlive, requestOf_passes hpasses ?_ rfl hclient hdata, ?_, hopcode⟩
  · rw [gatePriors, exec_bind_ok (exec_get _), if_pos (by simp [Session.familyOk, Session.capsOk, Commands.READ_SBN])]
    rfl
  · rw [hdst]
    show Xbpi.toByte h.session.dstSbn = _
    rw [hl.addresses, toByte_toNat]

/-- The read is answered when the device still has the old address and its answer is not lost. -/
theorem Linked.exec_read_answered (hl : Linked h) {new : UInt8} (hsame : new = h.world.device.sbn)
    (hlost : B.lost (h.world.device.heard + 1) = false) (timeout : Option Rat) :
    ∃ h', (execute B.device.transport Commands.READ_SBN () false timeout).exec (moved new h) = (.ok new.toNat, h') ∧
      h'.world.device.sbn = new := by
  obtain ⟨client, data, hlive, hsent, hdst, hopcode⟩ := hl.moved_requestOf new
  obtain ⟨p, hexec⟩ := execute_sent (T := B.device.transport) (h := moved new h) hl.active hsent timeout
  have hanswer := device_answer (B := B) (s := (moved new h).world.device) (hdst.trans hsame.symm) hlost
  have hreply : B.reply (moved new h).world.device data = { subtype := 0x21, body := [new], fits := by simp } := by
    rw [reply, if_neg (by rw [hopcode]; decide), if_pos hopcode]
    rfl
  have hnext : (B.device.next (moved new h).world.device data).sbn = new := by
    simp only [device, hopcode]
    rw [if_neg (by simp)]
    rfl
  rw [exchangeOf, hlive, B.device.exec_executeLocked_answered _ _ _ rfl hanswer, hreply,
    Xbpi.frameReply_accepted _ _ (by simp [Xbpi.errorSubtype])] at hexec
  exact ⟨_, hexec, hnext⟩

/-- The read is not answered when the device has left the address of the session, or when its answer is lost. -/
theorem Linked.exec_read_silent (hl : Linked h) {new : UInt8}
    (hsilent : new ≠ h.world.device.sbn ∨ B.lost (h.world.device.heard + 1) = true) (timeout : Option Rat) :
    ∃ e h', (execute B.device.transport Commands.READ_SBN () false timeout).exec (moved new h) = (.error e, h') ∧
      h'.world.device.sbn = new ∧ h'.session.dstSbn = h.session.dstSbn := by
  obtain ⟨client, data, hlive, hsent, hdst, hopcode⟩ := hl.moved_requestOf new
  obtain ⟨p, hexec⟩ := execute_sent (T := B.device.transport) (h := moved new h) hl.active hsent timeout
  have hanswer : B.device.answer (moved new h).world.device data = none := by
    refine if_neg ?_
    rintro ⟨haddress, hlost⟩
    rcases hsilent with hne | hlost'
    · exact hne (haddress.symm.trans hdst)
    · exact absurd hlost (by simpa [moved] using hlost')
  have hnext : (B.device.next (moved new h).world.device data).sbn = new := by
    simp only [device, hopcode]
    rw [if_neg (by simp)]
    rfl
  rw [exchangeOf, hlive, B.device.exec_executeLocked_silent _ _ _ rfl hanswer] at hexec
  have hrecord : ∀ (s : Session) a, (s.record "read_sbn" a).dstSbn = s.dstSbn := by
    intro s a
    cases a <;> rfl
  exact ⟨_, _, hexec, hnext, hrecord _ _⟩

/-! ## The whole change -/

/-- After the acknowledgement the session follows when the read has returned. -/
theorem Linked.exec_readdress (hl : Linked h) {new : UInt8} (hack : Acknowledged B new h) (timeout : Option Rat) :
    (readdress B new timeout).exec h =
      match (execute B.device.transport Commands.READ_SBN () false timeout).exec (moved new h) with
      | (.ok r, h') => (.ok r, { h' with session := { h'.session with dstSbn := new.toNat } })
      | (.error e, h') => (.error e, h') := by
  obtain ⟨frame, hwrite⟩ := hl.exec_write hack timeout
  have hrange := byte_range new
  have hargs : (liftExc (Commands.tlvU8 (new.toNat : Int)) : Py (Host (Xbpi.Line Station)) Bytes).exec h =
      (.ok [0x21, new], h) := by
    rw [Device.tlvU8_fits hrange, toByte_toNat]
    rfl
  rw [readdress, Balance.writeSbnAddress, exec_bind_ok (exec_get h)]
  dsimp only
  rw [if_neg (by simp), if_neg (by rw [Balance.maxU8]; omega), if_neg (by simp [hl.active]), exec_bind_ok hargs,
    exec_bind_ok hwrite, exec_bind]
  rcases (execute B.device.transport Commands.READ_SBN () false timeout).exec (moved new h) with ⟨e | r, h'⟩ <;> rfl

/-- An acknowledged change to another address ends with an error, and the session keeps the old address. -/
theorem Linked.readdress_strands (hl : Linked h) {new : UInt8} (hack : Acknowledged B new h)
    (hne : new ≠ h.world.device.sbn) (timeout : Option Rat) :
    ∃ e h', (readdress B new timeout).exec h = (.error e, h') ∧ ¬ Addresses h' := by
  obtain ⟨e, h', hread, hsbn, hdst⟩ := hl.exec_read_silent (B := B) (.inl hne) timeout
  refine ⟨e, h', by rw [hl.exec_readdress hack, hread], fun haddress => ?_⟩
  rw [Addresses, hdst, hl.addresses, hsbn] at haddress
  exact hne (UInt8.toNat_inj.mp (by omega))

theorem keepsReachable_iff (hl : Linked h) (new : UInt8) (timeout : Option Rat) :
    KeepsReachable B new timeout h ↔ (Acknowledged B new h → new = h.world.device.sbn) := by
  constructor
  · intro hk hack
    by_contra hne
    obtain ⟨e, h', hrun, hstranded⟩ := hl.readdress_strands hack hne timeout
    exact hstranded (hk.raised hack e h' hrun)
  · intro hsame
    have hanswered : Acknowledged B new h → B.lost (h.world.device.heard + 1) = false →
        ∃ h', (readdress B new timeout).exec h = (.ok new.toNat, h') ∧ h'.session.dstSbn = new.toNat ∧
          Addresses h' := by
      intro hack hlost
      obtain ⟨h', hread, hsbn⟩ := hl.exec_read_answered (hsame hack) hlost timeout
      exact ⟨_, by rw [hl.exec_readdress hack, hread], rfl, by rw [Addresses, hsbn]⟩
    have hlostRead : Acknowledged B new h → B.lost (h.world.device.heard + 1) = true →
        ∃ e h', (readdress B new timeout).exec h = (.error e, h') ∧ Addresses h' := by
      intro hack hlost
      have hsilent : new ≠ h.world.device.sbn ∨ B.lost (h.world.device.heard + 1) = true := .inr hlost
      obtain ⟨e, h', hread, hsbn, hdst⟩ := hl.exec_read_silent hsilent timeout
      refine ⟨e, h', by rw [hl.exec_readdress hack, hread], ?_⟩
      rw [Addresses, hdst, hl.addresses, hsbn, ← hsame hack]
    refine ⟨fun hack r h' hrun => ?_, fun hack e h' hrun => ?_, fun hack hlost => ?_⟩
    · cases hlost : B.lost (h.world.device.heard + 1) with
      | false =>
          obtain ⟨h₁, hok, hdst, haddress⟩ := hanswered hack hlost
          cases hok.symm.trans hrun
          exact ⟨rfl, hdst, haddress⟩
      | true =>
          obtain ⟨e, h₁, herror, -⟩ := hlostRead hack hlost
          cases herror.symm.trans hrun
    · cases hlost : B.lost (h.world.device.heard + 1) with
      | false =>
          obtain ⟨h₁, hok, -⟩ := hanswered hack hlost
          cases hok.symm.trans hrun
      | true =>
          obtain ⟨e', h₁, herror, haddress⟩ := hlostRead hack hlost
          cases herror.symm.trans hrun
          exact haddress
    · obtain ⟨h', hok, -⟩ := hanswered hack hlost
      exact ⟨_, h', hok⟩

/-- A device at the address 0x09 that takes every address, on a line that loses nothing. -/
def obliging : Multidrop where
  accepts _ := true
  refusal := 0x03
  report _ := { subtype := 0x00, body := [], fits := by decide }
  lost _ := false

def obligingHost : Host (Xbpi.Line Station) where
  world := { device := { sbn := 0x09 } }
  session := { active := .xbpi, xbpi := some { id := 0 } }

theorem obligingHost_linked : Linked obligingHost :=
  ⟨rfl, ⟨_, rfl, rfl⟩, rfl, by decide, by decide, rfl, rfl⟩

theorem keepsReachable_iff_obliging : KeepsReachable obliging 0x09 none obligingHost ↔
    (Acknowledged obliging 0x09 obligingHost → (0x09 : UInt8) = obligingHost.world.device.sbn) :=
  keepsReachable_iff obligingHost_linked 0x09 none

/-- The change of 0x09 to 0x05 leaves the session at 0x09. -/
theorem stranded_at_nine : Linked obligingHost ∧ ¬ KeepsReachable obliging 0x05 none obligingHost := by
  refine ⟨obligingHost_linked, fun hk => ?_⟩
  have hack : Acknowledged obliging 0x05 obligingHost := ⟨rfl, rfl⟩
  obtain ⟨e, h', hrun, hstranded⟩ := obligingHost_linked.readdress_strands hack (by decide) none
  exact hstranded (hk.raised hack e h' hrun)

end Multidrop

end SartoriusLib
