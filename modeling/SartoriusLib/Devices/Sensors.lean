import SartoriusLib.Devices.Cache
import SartoriusLib.Devices.Frame
import SartoriusLib.Protocol.Detect
import SartoriusLib.Transport.Responder

/-!
# The map of the temperature sensors

A device answers a request for a sensor by its index alone. The probe goes through the indices in their order: a
reading or the sentinel counts, 0x03 is an empty slot, 0x10, 0x11 and 0x04 end the list, and anything else raises.
-/

namespace SartoriusLib.Balance

open Lib Prog

/-! ## The layout -/

/-- What the answer for an index means to the probe. -/
inductive Slot where
  | answered
  | absent
  | ended
  | failed
  deriving DecidableEq, Repr

def slot : Option Xbpi.Reply → Slot
  | none => .failed
  | some r =>
      if r.subtype = Xbpi.errorSubtype then
        match r.body with
        | [code] => if code = 0x03 then .absent else if code = 0x10 ∨ code = 0x11 ∨ code = 0x04 then .ended else .failed
        | _ => .failed
      else if r.body.take 4 = Commands.temperatureSentinel ∨ r.body.length = 5 then .answered
      else .failed

/-- The device with the answers of a layout. -/
def sensorArray (layout : Nat → Option Xbpi.Reply) : Xbpi.Responder Unit where
  answer _ data := if data.getD 3 0 = 0x76 then layout (data.getD 5 0).toNat else none
  next _ _ := ()

variable (layout : Nat → Option Xbpi.Reply)

/-- No index from `first` to before `i` ends the list. -/
def Reached (first i : Nat) : Prop := ∀ j, first ≤ j → j < i → slot (layout j) ≠ .ended

/-- What the probe finds of `n` indices from `i` on; a slot that fails leaves nothing. -/
def walk : Nat → Nat → Option (List Int)
  | 0, _ => some []
  | n + 1, i =>
      match slot (layout i) with
      | .answered => (walk n (i + 1)).map ((i : Int) :: ·)
      | .absent => walk n (i + 1)
      | .ended => some []
      | .failed => none

variable {layout}

theorem Reached.start (i : Nat) : Reached layout i i := fun j hj hlt => absurd hlt (by omega)

/-- An index further on is reached exactly when the first one does not end the list. -/
theorem reached_succ {first i : Nat} (hlt : first < i) :
    Reached layout first i ↔ slot (layout first) ≠ .ended ∧ Reached layout (first + 1) i := by
  constructor
  · exact fun h => ⟨h first (Nat.le_refl _) hlt, fun j hj hji => h j (by omega) hji⟩
  · rintro ⟨hfirst, h⟩ j hj hji
    rcases Nat.eq_or_lt_of_le hj with rfl | hj
    · exact hfirst
    · exact h j hj hji

/-- The indices of a list are those that answered among the `n` from `i` on, each before the end of the list. -/
structure Found (layout : Nat → Option Xbpi.Reply) (n i : Nat) (ts : List Int) : Prop where
  increasing : ts.Pairwise (· < ·)
  mem : ∀ k, k ∈ ts ↔ ∃ j : Nat, k = j ∧ i ≤ j ∧ j < i + n ∧ slot (layout j) = .answered ∧ Reached layout i j

/-- The first index does not answer and does not end the list. -/
theorem Found.skip {n i : Nat} {ts : List Int} (h : Found layout n (i + 1) ts) (hslot : slot (layout i) = .absent) :
    Found layout (n + 1) i ts where
  increasing := h.increasing
  mem k := by
    rw [h.mem]
    constructor
    · rintro ⟨j, rfl, hij, hjn, hj, hreach⟩
      exact ⟨j, rfl, by omega, by omega, hj, (reached_succ (by omega)).mpr ⟨by simp [hslot], hreach⟩⟩
    · rintro ⟨j, rfl, hij, hjn, hj, hreach⟩
      rcases Nat.eq_or_lt_of_le hij with rfl | hij
      · rw [hslot] at hj
        cases hj
      · exact ⟨j, rfl, hij, by omega, hj, ((reached_succ hij).mp hreach).2⟩

/-- The first index answers. -/
theorem Found.cons {n i : Nat} {ts : List Int} (h : Found layout n (i + 1) ts) (hslot : slot (layout i) = .answered) :
    Found layout (n + 1) i ((i : Int) :: ts) where
  increasing := by
    refine List.pairwise_cons.mpr ⟨fun k hk => ?_, h.increasing⟩
    obtain ⟨j, rfl, hij, -⟩ := (h.mem k).mp hk
    omega
  mem k := by
    rw [List.mem_cons, h.mem]
    constructor
    · rintro (rfl | ⟨j, rfl, hij, hjn, hj, hreach⟩)
      · exact ⟨i, rfl, Nat.le_refl _, by omega, hslot, .start i⟩
      · exact ⟨j, rfl, by omega, by omega, hj, (reached_succ (by omega)).mpr ⟨by simp [hslot], hreach⟩⟩
    · rintro ⟨j, rfl, hij, hjn, hj, hreach⟩
      rcases Nat.eq_or_lt_of_le hij with rfl | hij
      · exact .inl rfl
      · exact .inr ⟨j, rfl, hij, by omega, hj, ((reached_succ hij).mp hreach).2⟩

theorem walk_found {n i : Nat} {ts : List Int} (h : walk layout n i = some ts) : Found layout n i ts := by
  induction n generalizing i ts with
  | zero =>
      cases h
      refine ⟨.nil, fun k => ⟨fun hk => absurd hk List.not_mem_nil, ?_⟩⟩
      rintro ⟨j, -, hij, hjn, -⟩
      omega
  | succ n ih =>
      rw [walk] at h
      cases hslot : slot (layout i) with
      | answered =>
          simp only [hslot, Option.map_eq_some_iff] at h
          obtain ⟨ts', hts', rfl⟩ := h
          exact (ih hts').cons hslot
      | absent =>
          simp only [hslot] at h
          exact (ih h).skip hslot
      | ended =>
          simp only [hslot, Option.some.injEq] at h
          subst h
          refine ⟨.nil, fun k => ⟨fun hk => absurd hk List.not_mem_nil, ?_⟩⟩
          rintro ⟨j, -, hij, -, hj, hreach⟩
          rcases Nat.eq_or_lt_of_le hij with rfl | hij
          · rw [hslot] at hj
            cases hj
          · exact absurd hslot (hreach i (Nat.le_refl _) hij)
      | failed =>
          simp only [hslot] at h
          cases h

/-- Nothing is left exactly when a slot before the end of the list fails. -/
theorem walk_eq_none {n i : Nat} : walk layout n i = none ↔
    ∃ j, i ≤ j ∧ j < i + n ∧ slot (layout j) = .failed ∧ Reached layout i j := by
  induction n generalizing i with
  | zero =>
      refine ⟨fun h => by simp [walk] at h, ?_⟩
      rintro ⟨j, hij, hjn, -⟩
      omega
  | succ n ih =>
      have hlater : slot (layout i) ≠ .ended → slot (layout i) ≠ .failed →
          ((∃ j, i + 1 ≤ j ∧ j < i + 1 + n ∧ slot (layout j) = .failed ∧ Reached layout (i + 1) j) ↔
            ∃ j, i ≤ j ∧ j < i + (n + 1) ∧ slot (layout j) = .failed ∧ Reached layout i j) := by
        intro hended hfailed
        constructor
        · rintro ⟨j, hij, hjn, hj, hreach⟩
          exact ⟨j, by omega, by omega, hj, (reached_succ (by omega)).mpr ⟨hended, hreach⟩⟩
        · rintro ⟨j, hij, hjn, hj, hreach⟩
          rcases Nat.eq_or_lt_of_le hij with rfl | hij
          · exact absurd hj hfailed
          · exact ⟨j, hij, by omega, hj, ((reached_succ hij).mp hreach).2⟩
      rw [walk]
      cases hslot : slot (layout i) with
      | answered =>
          simp only [Option.map_eq_none_iff, ih]
          exact hlater (by simp [hslot]) (by simp [hslot])
      | absent =>
          simp only [ih]
          exact hlater (by simp [hslot]) (by simp [hslot])
      | ended =>
          refine ⟨fun h => absurd h (by simp), ?_⟩
          rintro ⟨j, hij, -, hj, hreach⟩
          rcases Nat.eq_or_lt_of_le hij with rfl | hij
          · rw [hslot] at hj
            cases hj
          · exact absurd hslot (hreach i (Nat.le_refl _) hij)
      | failed => exact ⟨fun _ => ⟨i, Nat.le_refl _, by omega, hslot, .start i⟩, fun _ => rfl⟩

/-! ## One probe -/

/-- A linked session over xBPI whose gates let the read pass. -/
structure Ready (h : Host (Xbpi.Line Unit)) : Prop where
  active : h.session.active = .xbpi
  client : ∃ c, h.session.xbpi = some c ∧ c.disposed = false
  operational : h.session.state = .operational
  allowed : h.session.availability.get? "read_temperature" ≠ some .unsupported
  priors : CapabilityBit.temperatureSensors ∈ h.session.capabilities ∨
    (h.session.strict = false ∧ h.warnings ≠ .error)
  sbns : Detect.SbnsFit h.session.srcSbn h.session.dstSbn
  quiet : h.world.out = []

variable {h h' : Host (Xbpi.Line Unit)}

theorem Ready.gatePriors_isOk (hr : Ready h) : ((gatePriors Commands.READ_TEMPERATURE).exec h).1.isOk = true := by
  rw [gatePriors, exec_bind_ok (exec_get h)]
  dsimp only
  split_ifs with hmatch hstrict hwarned
  · rfl
  · rcases hr.priors with hcap | ⟨hlenient, -⟩
    · exact absurd ⟨rfl, by simpa [Session.capsOk, Capability.contains, Commands.READ_TEMPERATURE] using hcap⟩ hmatch
    · rw [hlenient] at hstrict
      cases hstrict
  · rfl
  · rcases hr.priors with hcap | ⟨-, hwarnings⟩
    · exact absurd ⟨rfl, by simpa [Session.capsOk, Capability.contains, Commands.READ_TEMPERATURE] using hcap⟩ hmatch
    · rw [modifySession, exec_bind_ok (exec_modify _ h), exec_bind_ok (exec_get _), if_neg hwarnings]
      rfl

theorem Ready.passes (hr : Ready h) (g : Gate) : g.passes h.session Commands.READ_TEMPERATURE false = true := by
  cases g with
  | state => simpa [Gate.passes] using hr.operational
  | safety => rfl
  | protocol => simp [Gate.passes, hr.active, Commands.READ_TEMPERATURE]
  | knownDenied => exact decide_eq_true hr.allowed
  | priors =>
      rcases hr.priors with hcap | ⟨hlenient, -⟩
      · simp [Gate.passes, Commands.READ_TEMPERATURE, hcap]
      · simp [Gate.passes, hlenient]

/-- A session that is ready sends its request, and the device answers with the slot of the index. -/
theorem Ready.sent (hr : Ready h) (layout : Nat → Option Xbpi.Reply) {i : Nat} (hi : i ≤ 255) :
    ∃ client data, client.disposed = false ∧
      requestOf Commands.READ_TEMPERATURE (i : Int) false h = some (Commands.temperatureVariant, client, data) ∧
      (sensorArray layout).answer () data = layout i := by
  obtain ⟨client, hclient, hlive⟩ := hr.client
  have hsrc : 0 ≤ h.session.context.srcSbn ∧ h.session.context.srcSbn ≤ 255 := hr.sbns.1
  obtain ⟨data, hdata⟩ := Device.frameOf_fits 0x76 [0x21, Xbpi.toByte i] (by omega) hsrc hr.sbns.2 (by simp)
  refine ⟨client, data, hlive, requestOf_passes hr.passes hr.gatePriors_isOk rfl hclient ?_, ?_⟩
  · simp only [Commands.temperatureVariant, Commands.oneArg, id, Device.tlvU8_fits (n := i) (by omega)]
    exact hdata
  · obtain ⟨-, -, -, -, chk, rfl⟩ := Xbpi.buildCommand_eq_ok (Device.buildCommand_of_frameOf hdata)
    have hbyte : (Xbpi.toByte (i : Int)).toNat = i := by
      have hvalue : ((Xbpi.toByte (i : Int)).toNat : Int) = i := Xbpi.toByte_toNat (by omega) (by omega)
      omega
    show (if Xbpi.toByte 0x76 = 0x76 then layout (Xbpi.toByte (i : Int)).toNat else none) = layout i
    rw [if_pos (by decide), hbyte]

/-- What a probe comes to, by its slot. -/
def Probed (i : Int) : Slot → Except Exc TemperatureReading → Prop
  | .answered, r => ∃ reading, r = .ok reading ∧ reading.sensor = i
  | .absent, r => ∃ e, r = .error e ∧ e.isinstance .valueOutOfRangeError = true
  | .ended, r => ∃ e, r = .error e ∧ e.isinstance .valueOutOfRangeError = false ∧
      e.isinstance .indexOutOfRangeError = true
  | .failed, r => ∃ e, r = .error e ∧ e.isinstance .valueOutOfRangeError = false ∧
      e.isinstance .indexOutOfRangeError = false ∧ e.isinstance .unsupportedCommandError = false

/-- The record of a probe does not close a gate. -/
theorem Ready.recorded (hr : Ready h) (p : List String) {a : Option Availability} (ha : a ≠ some .unsupported) :
    Ready { h with world := { device := () },
                   session := { h.session with warnedPriors := p }.record "read_temperature" a } := by
  cases a with
  | none => exact ⟨hr.active, hr.client, hr.operational, hr.allowed, hr.priors, hr.sbns, rfl⟩
  | some a =>
      refine ⟨hr.active, hr.client, hr.operational, ?_, hr.priors, hr.sbns, rfl⟩
      simpa [Session.record, Session.setAvailability, Dict.get?_set] using ha

/-- The reading with the sensor it was asked of. -/
def numbered (i : Int) (raw : TemperatureReading) : TemperatureReading := { raw with sensor := i }

/-- What the session makes of a refusal is what the slot says. -/
theorem refusal_probed {r : Xbpi.Reply} {code : UInt8} (hsub : r.subtype = Xbpi.errorSubtype) (hbody : r.body = [code])
    (i : Int) {err : SartoriusError} (hcls : err.cls = Xbpi.errorClassOf code.toNat) :
    Probed i (slot (some r)) (.error (refusalError Commands.READ_TEMPERATURE (.sartorius err))) := by
  have hcode : ∀ n : UInt8, code.toNat = n.toNat → code = n := fun n => UInt8.toNat_inj.mp
  have hslot : slot (some r) =
      if code = 0x03 then .absent else if code = 0x10 ∨ code = 0x11 ∨ code = 0x04 then .ended else .failed := by
    rw [slot, if_pos hsub, hbody]
  obtain ⟨cls, message, context⟩ := err
  rw [hslot]
  unfold Xbpi.errorClassOf at hcls
  split at hcls <;> obtain rfl : cls = _ := hcls
  · obtain rfl := hcode 0x03 ‹_›
    exact ⟨_, rfl, rfl⟩
  · obtain rfl := hcode 0x04 ‹_›
    exact ⟨_, rfl, rfl, rfl⟩
  · obtain rfl := hcode 0x06 ‹_›
    exact ⟨_, rfl, rfl, rfl, rfl⟩
  · obtain rfl := hcode 0x07 ‹_›
    exact ⟨_, rfl, rfl, rfl, rfl⟩
  · obtain rfl := hcode 0x10 ‹_›
    exact ⟨_, rfl, rfl, rfl⟩
  · obtain rfl := hcode 0x11 ‹_›
    exact ⟨_, rfl, rfl, rfl⟩
  · rename_i h3 h4 _ _ h10 h11
    rw [if_neg (by rintro rfl; exact h3 rfl),
      if_neg (by rintro (rfl | rfl | rfl); exacts [h10 rfl, h11 rfl, h4 rfl])]
    exact ⟨_, rfl, rfl, rfl, rfl⟩

theorem garbled_probed {r : Xbpi.Reply} (hsub : r.subtype = Xbpi.errorSubtype) (hlen : r.body.length ≠ 1) (i : Int)
    {err : SartoriusError} (hcls : err.cls = .parseError) :
    Probed i (slot (some r)) (.error (refusalError Commands.READ_TEMPERATURE (.sartorius err))) := by
  obtain ⟨cls, message, context⟩ := err
  obtain rfl : cls = _ := hcls
  have hslot : slot (some r) = .failed := by
    rw [slot, if_pos hsub]
    split
    · rename_i hbody
      simp [hbody] at hlen
    · rfl
  rw [hslot]
  exact ⟨_, rfl, rfl, rfl, rfl⟩

/-- A reply that is no refusal is a reading, the sentinel, or cannot be decoded. -/
theorem decode_probed {r : Xbpi.Reply} (hsub : r.subtype ≠ Xbpi.errorSubtype) (i : Int) (ctx : CommandContext) :
    Probed i (slot (some r)) ((Commands.temperatureVariant.decode r.frame ctx).map (numbered i)) := by
  simp only [slot, if_neg hsub, Commands.temperatureVariant, Commands.oneArg, Xbpi.Reply.frame_body]
  by_cases hsentinel : r.body.take 4 = Commands.temperatureSentinel
  · simp only [hsentinel, true_or, if_true]
    exact ⟨_, rfl, rfl⟩
  · simp only [hsentinel, false_or, if_false, Commands.lift, Xbpi.decodeTypedFloatBody]
    by_cases hlen : r.body.length = 5
    · simp only [hlen, if_true, ne_eq, not_true_eq_false, if_false]
      exact ⟨_, rfl, rfl⟩
    · simp only [hlen, if_false, ne_eq, not_false_eq_true, if_true]
      exact ⟨_, rfl, rfl, rfl, rfl⟩

/-- No exception of a parameterized read makes it unsupported. -/
theorem refusedAs_supported (e : Exc) : refusedAs Commands.READ_TEMPERATURE e ≠ some .unsupported := by
  cases e with
  | sartorius err =>
      simp only [refusedAs, Commands.READ_TEMPERATURE, if_true]
      split_ifs <;> simp
  | _ => simp [refusedAs]

theorem Ready.temperature (hr : Ready h) (layout : Nat → Option Xbpi.Reply) {i : Nat} (hi : i ≤ 255) :
    ∃ r h', (Balance.temperature (sensorArray layout).transport i).exec h = (r, h') ∧ Ready h' ∧
      Probed i (slot (layout i)) r := by
  obtain ⟨client, data, hlive, hsent, hanswer⟩ := hr.sent layout hi
  obtain ⟨p, hexec⟩ := execute_sent (T := (sensorArray layout).transport) hr.active hsent none
  rw [exchangeOf, hlive] at hexec
  have herror : ∀ e w, (execute (sensorArray layout).transport Commands.READ_TEMPERATURE (i : Int) false none).exec h =
      (.error e, w) → (Balance.temperature (sensorArray layout).transport i).exec h = (.error e, w) :=
    fun e w hrun => exec_bind_error hrun
  cases hlayout : layout i with
  | none =>
      rw [hlayout] at hanswer
      rw [(sensorArray layout).exec_executeLocked_silent _ _ _ hr.quiet hanswer] at hexec
      exact ⟨_, _, herror _ _ hexec, hr.recorded p (refusedAs_supported _), _, rfl, rfl, rfl, rfl⟩
  | some r =>
      rw [hlayout] at hanswer
      rw [(sensorArray layout).exec_executeLocked_answered _ _ _ hr.quiet hanswer] at hexec
      by_cases hsub : r.subtype = Xbpi.errorSubtype
      · by_cases hlen : r.body.length = 1
        · obtain ⟨code, hbody⟩ := List.length_eq_one_iff.mp hlen
          rw [Xbpi.frameReply_coded _ _ hsub hbody] at hexec
          exact ⟨_, _, herror _ _ hexec, hr.recorded p (refusedAs_supported _), refusal_probed hsub hbody i rfl⟩
        · obtain ⟨e, hreply, hcls⟩ := Xbpi.frameReply_garbled Commands.READ_TEMPERATURE.name
            (some Commands.temperatureVariant.opcode) hsub hlen
          rw [hreply] at hexec
          exact ⟨_, _, herror _ _ hexec, hr.recorded p (refusedAs_supported _), garbled_probed hsub hlen i hcls⟩
      · rw [Xbpi.frameReply_accepted _ _ hsub] at hexec
        change _ = (Commands.temperatureVariant.decode r.frame h.session.context, _) at hexec
        refine ⟨_, _, ?_, hr.recorded p (a := some .supported) (by simp), decode_probed hsub i h.session.context⟩
        rw [Balance.temperature, exec_bind, hexec]
        cases Commands.temperatureVariant.decode r.frame h.session.context <;> rfl

/-! ## The loop -/

/-- The probe ends as the walk over the layout does. -/
theorem Ready.discoverLoop (hr : Ready h) (layout : Nat → Option Xbpi.Reply) {n i : Nat} (hn : i + n ≤ 256) :
    (∃ ts h', walk layout n i = some ts ∧
      (Balance.discoverLoop (sensorArray layout).transport n i).exec h = (.ok ts, h')) ∨
    (walk layout n i = none ∧
      ∃ e h', (Balance.discoverLoop (sensorArray layout).transport n i).exec h = (.error e, h')) := by
  induction n generalizing i h with
  | zero => exact .inl ⟨[], h, rfl, rfl⟩
  | succ n ih =>
      obtain ⟨r, h₁, hrun, hr₁, hprobed⟩ := hr.temperature layout (i := i) (by omega)
      have hlater := ih hr₁ (i := i + 1) (by omega)
      rw [walk, Balance.discoverLoop, exec_bind, exec_tryCatch]
      cases hslot : slot (layout i) with
      | answered =>
          rw [hslot] at hprobed
          obtain ⟨reading, rfl, hsensor⟩ := hprobed
          rw [exec_bind_ok hrun]
          dsimp only [exec_pure]
          rcases hlater with ⟨ts, h₂, hts, hloop⟩ | ⟨hnone, e, h₂, hloop⟩
          · exact .inl ⟨i :: ts, h₂, by rw [hts]; rfl, by rw [← hsensor]; exact exec_bind_ok (hsensor ▸ hloop)⟩
          · exact .inr ⟨by rw [hnone]; rfl, e, h₂, exec_bind_error hloop⟩
      | absent =>
          rw [hslot] at hprobed
          obtain ⟨e, rfl, habsent⟩ := hprobed
          rw [exec_bind_error hrun]
          dsimp only
          rw [if_pos habsent]
          dsimp only [exec_pure]
          rcases hlater with ⟨ts, h₂, hts, hloop⟩ | ⟨hnone, e, h₂, hloop⟩
          · exact .inl ⟨ts, h₂, hts, exec_bind_ok hloop⟩
          · exact .inr ⟨hnone, e, h₂, exec_bind_error hloop⟩
      | ended =>
          rw [hslot] at hprobed
          obtain ⟨e, rfl, habsent, hended⟩ := hprobed
          rw [exec_bind_error hrun]
          dsimp only
          rw [if_neg (by simp [habsent]), if_pos (.inl hended)]
          exact .inl ⟨[], h₁, rfl, rfl⟩
      | failed =>
          rw [hslot] at hprobed
          obtain ⟨e, rfl, habsent, hended, hunknown⟩ := hprobed
          rw [exec_bind_error hrun]
          dsimp only
          rw [if_neg (by simp [habsent]), if_neg (by simp [hended, hunknown])]
          exact .inr ⟨rfl, e, h₁, rfl⟩

section

variable {W : Type} {T : Transport W}

theorem apart_info : Apart (Host.info : Host W → Option DeviceInfo) where
  world _ _ := rfl
  sbi _ _ := rfl
  availability _ _ := rfl
  warnedPriors _ _ := rfl
  resultCache _ _ := rfl
  log _ _ _ := rfl
  warnings _ _ := rfl

theorem discoverLoop_info (n : Nat) (sensor : Int) : Leaves Host.info (Balance.discoverLoop T n sensor) :=
  Leaves.of_keeps fun v => discoverLoop_keeps (fun sensor =>
    ((apart_info.execute Commands.READ_TEMPERATURE sensor false none).keeps v).bind fun _ => .pure _) n sensor

/-- The read of a temperature is not known to be unsupported. -/
def Supported (h : Host W) : Prop := h.session.availability.get? "read_temperature" ≠ some .unsupported

theorem temperature_supported (sensor : Int) : Keeps Supported (Balance.temperature T sensor) := by
  refine Keeps.bind (fun h hh => ?_) fun _ => .pure _
  have hrecord : ∀ w p (a : Option Availability), a ≠ some .unsupported →
      Supported { h with world := w,
                         session := { h.session with warnedPriors := p }.record "read_temperature" a } := by
    intro w p a ha
    cases a with
    | none => exact hh
    | some a => simpa [Supported, Session.record, Session.setAvailability, Dict.get?_set] using ha
  by_cases hactive : h.session.active = .xbpi
  · cases hsent : requestOf Commands.READ_TEMPERATURE sensor false h with
    | none =>
        obtain ⟨e, p, hrun⟩ := execute_unsent (T := T) hactive hsent none
        rw [hrun]
        exact hh
    | some sent =>
        obtain ⟨variant, client, data⟩ := sent
        obtain ⟨p, hrun⟩ := execute_sent (T := T) hactive hsent none
        rw [hrun]
        rcases exchangeOf T Commands.READ_TEMPERATURE none h variant client data with ⟨e | frame, w⟩
        · exact hrecord w p _ (refusedAs_supported e)
        · exact hrecord w p (some .supported) (by simp)
  · -- the command has no SBI variant
    cases hgate : Gate.firstFailing h.session Commands.READ_TEMPERATURE false with
    | none =>
        have hprotocol := gates_open hgate Gate.protocol
        simp [Gate.passes, hactive, Commands.READ_TEMPERATURE] at hprotocol
    | some g =>
        obtain ⟨e, -, hrun⟩ := execute_firstFailing T Commands.READ_TEMPERATURE sensor false none h hgate
        rw [hrun]
        exact hh

end

/-! ## The map -/

/-- A discovery of the indices up to `maxIndex` on a device with the layout: a list that is exact, or an error that
leaves the identity, and in no case an unsupported command. -/
structure Maps (layout : Nat → Option Xbpi.Reply) (maxIndex : Nat) (h : Host (Xbpi.Line Unit)) : Prop where
  returns : Ready h → (∀ j ≤ maxIndex, Reached layout 0 j → slot (layout j) ≠ .failed) →
    ∃ ts h', (discoverTemperatureSensors (sensorArray layout).transport maxIndex).exec h = (.ok ts, h') ∧
      ts.Pairwise (· < ·) ∧
      (∀ k, k ∈ ts ↔ ∃ j : Nat, k = j ∧ j ≤ maxIndex ∧ slot (layout j) = .answered ∧ Reached layout 0 j) ∧
      h'.info = h.info.map fun i => { i with temperatureSensorIndices := some ts }
  raises : Ready h → (∃ j ≤ maxIndex, Reached layout 0 j ∧ slot (layout j) = .failed) →
    ∃ e h', (discoverTemperatureSensors (sensorArray layout).transport maxIndex).exec h = (.error e, h')
  unchanged : ∀ e h', (discoverTemperatureSensors (sensorArray layout).transport maxIndex).exec h = (.error e, h') →
    h'.info = h.info
  supported : Supported h →
    Supported ((discoverTemperatureSensors (sensorArray layout).transport maxIndex).exec h).2

/-- The loop, and then the update of the identity. -/
theorem exec_discoverTemperatureSensors {W : Type} (T : Transport W) (maxIndex : Nat) (h : Host W) :
    (discoverTemperatureSensors T maxIndex).exec h =
      match (Balance.discoverLoop T (maxIndex + 1) 0).exec h with
      | (.error e, h') => (.error e, h')
      | (.ok ts, h') =>
          (.ok ts, { h' with info := h'.info.map fun i => { i with temperatureSensorIndices := some ts } }) := by
  rw [discoverTemperatureSensors, if_neg (by omega), Int.toNat_natCast, exec_bind]
  rcases (Balance.discoverLoop T (maxIndex + 1) 0).exec h with ⟨e | ts, h'⟩ <;> rfl

theorem discoverTemperatureSensors_maps (layout : Nat → Option Xbpi.Reply) {maxIndex : Nat} (hmax : maxIndex ≤ 255)
    (h : Host (Xbpi.Line Unit)) : Maps layout maxIndex h := by
  have hrun := exec_discoverTemperatureSensors (sensorArray layout).transport maxIndex h
  have hinfo := discoverLoop_info (T := (sensorArray layout).transport) (maxIndex + 1) 0 h
  have hsupported := discoverLoop_keeps (temperature_supported (T := (sensorArray layout).transport)) (maxIndex + 1) 0 h
  have hwalk := fun hr : Ready h => hr.discoverLoop layout (n := maxIndex + 1) (i := 0) (by omega)
  rcases hloop : (Balance.discoverLoop (sensorArray layout).transport (maxIndex + 1) 0).exec h with ⟨e | ts, h'⟩
  · rw [hloop] at hrun hinfo hsupported
    -- the walk fails as well
    have hnone : Ready h → walk layout (maxIndex + 1) 0 = none := by
      intro hr
      rcases hwalk hr with ⟨ts, h₂, -, hloop'⟩ | ⟨hnone, -⟩
      · exact absurd (hloop.symm.trans hloop') (by simp)
      · exact hnone
    refine ⟨fun hr hall => ?_, fun _ _ => ⟨e, h', hrun⟩, fun e' h'' herror => ?_, fun hh => ?_⟩
    · obtain ⟨j, -, hj, hfailed, hreach⟩ := walk_eq_none.mp (hnone hr)
      exact absurd hfailed (hall j (by omega) hreach)
    · rw [hrun] at herror
      cases herror
      exact hinfo
    · rw [hrun]
      exact hsupported hh
  · rw [hloop] at hrun hinfo hsupported
    have hsome : Ready h → walk layout (maxIndex + 1) 0 = some ts := by
      intro hr
      rcases hwalk hr with ⟨ts', h₂, hts', hloop'⟩ | ⟨-, e, h₂, hloop'⟩
      · cases hloop.symm.trans hloop'
        exact hts'
      · exact absurd (hloop.symm.trans hloop') (by simp)
    refine ⟨fun hr _ => ?_, fun hr hfailed => ?_, fun e' h'' herror => ?_, fun hh => ?_⟩
    · have hfound := walk_found (hsome hr)
      refine ⟨ts, _, hrun, hfound.increasing, fun k => (hfound.mem k).trans ?_,
        congrArg (Option.map fun i : DeviceInfo => { i with temperatureSensorIndices := some ts }) hinfo⟩
      constructor
      · rintro ⟨j, hk, -, hj, hanswered, hreach⟩
        exact ⟨j, hk, by omega, hanswered, hreach⟩
      · rintro ⟨j, hk, hj, hanswered, hreach⟩
        exact ⟨j, hk, by omega, by omega, hanswered, hreach⟩
    · obtain ⟨j, hj, hreach, hfailed⟩ := hfailed
      have hnone : walk layout (maxIndex + 1) 0 = none :=
        walk_eq_none.mpr ⟨j, Nat.zero_le _, by omega, hfailed, hreach⟩
      rw [hsome hr] at hnone
      cases hnone
    · rw [hrun] at herror
      cases herror
    · rw [hrun]
      exact hsupported hh

/-- Sensors at 0, 1 and 3, the sentinel at 2, and an unknown opcode from 4 on. -/
def sparseLayout : Nat → Option Xbpi.Reply
  | 0 | 1 | 3 => some { subtype := 0x35, body := [0x41, 0xB8, 0x00, 0x00, 0x01], fits := by decide }
  | 2 => some { subtype := 0x35, body := [0x7F, 0xFF, 0xFF, 0xFF, 0x00], fits := by decide }
  | _ => some { subtype := 0x01, body := [0x04], fits := by decide }

def sparseHost : Host (Xbpi.Line Unit) where
  world := { device := () }
  session := { active := .xbpi, xbpi := some { id := 0 } }

theorem discoverTemperatureSensors_maps_sparse : Ready sparseHost ∧ Maps sparseLayout 8 sparseHost :=
  ⟨⟨rfl, ⟨_, rfl, rfl⟩, rfl, by decide, .inr ⟨rfl, by decide⟩, ⟨by decide, by decide⟩, rfl⟩,
    discoverTemperatureSensors_maps sparseLayout (by decide) sparseHost⟩

end SartoriusLib.Balance
