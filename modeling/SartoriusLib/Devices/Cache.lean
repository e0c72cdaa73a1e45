import SartoriusLib.Devices.Availability
import SartoriusLib.Devices.Confirm
import SartoriusLib.Protocol.Xbpi.Codec
import SartoriusLib.Transport.Responder

/-!
# The result cache and the counter of the device

The device counts its configuration changes in one byte, and a cached value is served again while that byte is
the same. So a value is current unless a positive multiple of 256 changes was counted since the counter of its
entry was read.
-/

namespace SartoriusLib

open Lib Prog

/-! ## The device -/

/-- What a request can change. -/
inductive Change where
  | write (index value : UInt8)
  | save
  | reload
  deriving DecidableEq, Repr

/-- The indices whose writes are not counted. -/
def uncountedIndices : List UInt8 := [13, 50]

/-- The report that a change may alter without being counted. -/
def Change.Owns (x : Change) (opcode arg : UInt8) : Prop :=
  ∃ index value, x = .write index value ∧ index ∈ uncountedIndices ∧ opcode = 0x55 ∧ arg = index

/-- A device with configurations `C`. Every read is answered from the configuration, and a change that is not
counted alters no report but that of the parameter it writes. -/
structure Device (C : Type) where
  report : C → UInt8 → UInt8 → UInt8 × Bytes
  change : C → Change → C
  counted : C → Change → Bool
  report_size : ∀ c opcode arg, (report c opcode arg).2.length ≤ 252
  uncounted : ∀ c x, counted c x = false → ∀ opcode arg, ¬ x.Owns opcode arg →
    report (change c x) opcode arg = report c opcode arg

/-- The device at work: `ticks` counts its changes, and `panel` lists, for each request to come, the
configurations that are set on the front panel before the request arrives, each of them a counted change. -/
structure DeviceState (C : Type) where
  config : C
  ticks : Nat := 0
  panel : List (List C) := []

/-- A device with the line to the host. -/
abbrev DeviceLine (C : Type) := Xbpi.Line (DeviceState C)

namespace Device

variable {C : Type}

/-- The changes at the front panel before the next request. -/
def front (w : DeviceState C) : DeviceState C :=
  { w with
    config := (w.panel.headD []).getLastD w.config
    ticks := w.ticks + (w.panel.headD []).length
    panel := w.panel.tail }

def ack : UInt8 × Bytes := (0x00, [])

def apply (D : Device C) (x : Change) (w : DeviceState C) : DeviceState C :=
  { w with config := D.change w.config x, ticks := w.ticks + if D.counted w.config x then 1 else 0 }

/-- The subtype and the body of the reply to a request, and what the request changes. -/
def handle (D : Device C) (opcode : UInt8) (args : Bytes) (w : DeviceState C) :
    (UInt8 × Bytes) × DeviceState C :=
  if opcode = 0xBA then ((0x21, [UInt8.ofNat w.ticks]), w)
  else if opcode = 0x56 then (ack, D.apply (.write (args.getD 1 0) (args.getD 3 0)) w)
  else if opcode = 0x47 then (ack, D.apply .save w)
  else if opcode = 0x46 then (ack, D.apply .reload w)
  else (D.report w.config opcode (args.getD 1 0), w)

/-- The reply to the frame `data`, after what happens on the front panel. -/
def answer (D : Device C) (data : Bytes) (w : DeviceState C) : (UInt8 × Bytes) × DeviceState C :=
  D.handle (data.getD 3 0) ((data.drop 4).dropLast) (front w)

theorem handle_size (D : Device C) (opcode : UInt8) (args : Bytes) (w : DeviceState C) :
    (D.handle opcode args w).1.2.length ≤ 252 := by
  unfold handle
  split_ifs
  · simp
  · simp [ack]
  · simp [ack]
  · simp [ack]
  · exact D.report_size _ _ _

def reply (D : Device C) (data : Bytes) (w : DeviceState C) : Xbpi.Reply where
  subtype := (D.answer data w).1.1
  body := (D.answer data w).1.2
  fits := D.handle_size _ _ _

/-- Every frame is answered. -/
def responder (D : Device C) : Xbpi.Responder (DeviceState C) where
  answer w data := some (D.reply data w)
  next w data := (D.answer data w).2

/-- The device at the other end of the line. -/
abbrev transport (D : Device C) : Transport (DeviceLine C) := D.responder.transport

/-- The frame of the reply to `data`. -/
def replyFrame (D : Device C) (data : Bytes) (w : DeviceState C) : Xbpi.XbpiFrame :=
  Xbpi.frameOf (Xbpi.assembleFrame (D.answer data w).1.1 (D.answer data w).1.2)

theorem exec_executeLocked (D : Device C) (data : Bytes) (timeout : Rat) (commandName : String)
    (opcode : Option Int) {l : DeviceLine C} (hout : l.out = []) :
    (Xbpi.executeLocked D.transport false data timeout commandName opcode).exec l =
      ((Xbpi.frameReply (D.replyFrame data l.device) commandName opcode).mapError .sartorius,
        { device := (D.answer data l.device).2 }) := by
  have hanswer : D.responder.answer l.device data = some (D.reply data l.device) := rfl
  have hframe : (D.reply data l.device).frame = D.replyFrame data l.device := rfl
  have hnext : D.responder.next l.device data = (D.answer data l.device).2 := rfl
  rw [transport, D.responder.exec_executeLocked_answered timeout commandName opcode hout hanswer, hframe, hnext]

/-! ## What time does to the reports -/

/-- The device later on: it has counted more changes, or it reports the same but for what is `own`. -/
structure Later (D : Device C) (own : UInt8 → UInt8 → Prop) (w w' : DeviceState C) : Prop where
  ticks : w.ticks ≤ w'.ticks
  same : w'.ticks = w.ticks → ∀ opcode arg, ¬ own opcode arg →
    D.report w'.config opcode arg = D.report w.config opcode arg

/-- No report is excepted. -/
abbrev nothing : UInt8 → UInt8 → Prop := fun _ _ => False

variable {D : Device C} {own : UInt8 → UInt8 → Prop} {w w' w'' : DeviceState C}

theorem Later.refl : D.Later own w w := ⟨le_rfl, fun _ _ _ _ => rfl⟩

theorem Later.trans (h : D.Later own w w') (h' : D.Later own w' w'') : D.Later own w w'' where
  ticks := h.ticks.trans h'.ticks
  same := by
    intro heq opcode arg hown
    have h₁ := h.ticks
    have h₂ := h'.ticks
    rw [h'.same (by omega) opcode arg hown, h.same (by omega) opcode arg hown]

theorem front_later (D : Device C) (own : UInt8 → UInt8 → Prop) : D.Later own w (front w) where
  ticks := Nat.le_add_right _ _
  same := by
    intro heq opcode arg _
    have hnone : (w.panel.headD []) = [] := List.eq_nil_of_length_eq_zero (by simpa [front] using heq)
    simp only [front, hnone, List.getLastD_nil]

theorem apply_later (D : Device C) (x : Change) : D.Later x.Owns w (D.apply x w) where
  ticks := Nat.le_add_right _ _
  same := by
    intro heq opcode arg hown
    have hcounted : D.counted w.config x = false := by
      cases hc : D.counted w.config x with
      | false => rfl
      | true => simp [apply, hc] at heq
    exact D.uncounted w.config x hcounted opcode arg hown

/-! ## Requests -/

theorem answer_frame (D : Device C) {opcode src dst : Int} {args data : Bytes} (w : DeviceState C)
    (hdata : Xbpi.buildCommand opcode args src dst = .ok data) :
    D.answer data w = D.handle (Xbpi.toByte opcode) args (front w) := by
  obtain ⟨-, -, -, -, chk, rfl⟩ := Xbpi.buildCommand_eq_ok hdata
  simp [answer]

theorem answer_counter (D : Device C) {src dst : Int} {data : Bytes} (w : DeviceState C)
    (hdata : Xbpi.buildCommand 0xBA [] src dst = .ok data) :
    D.answer data w = ((0x21, [UInt8.ofNat (front w).ticks]), front w) :=
  D.answer_frame w hdata

theorem answer_read (D : Device C) {opcode src dst : Int} {args data : Bytes} (w : DeviceState C)
    (hdata : Xbpi.buildCommand opcode args src dst = .ok data)
    (hop : opcode ∈ ([0x0C, 0x0D, 0x55] : List Int)) :
    D.answer data w = (D.report (front w).config (Xbpi.toByte opcode) (args.getD 1 0), front w) := by
  rw [D.answer_frame w hdata]
  simp only [List.mem_cons, List.not_mem_nil, or_false] at hop
  rcases hop with rfl | rfl | rfl <;> rfl

theorem answer_change (D : Device C) {opcode src dst : Int} {args data : Bytes} (w : DeviceState C)
    (hdata : Xbpi.buildCommand opcode args src dst = .ok data) (x : Change)
    (hx : (opcode = 0x56 ∧ x = .write (args.getD 1 0) (args.getD 3 0)) ∨ (opcode = 0x47 ∧ x = .save) ∨
      (opcode = 0x46 ∧ x = .reload)) :
    D.answer data w = (ack, D.apply x (front w)) := by
  rw [D.answer_frame w hdata]
  rcases hx with ⟨rfl, rfl⟩ | ⟨rfl, rfl⟩ | ⟨rfl, rfl⟩ <;> rfl

/-! ## A command on the device -/

variable {Req Resp : Type}

/-- Nothing of the host changed that a cached read depends on, the device apart. -/
structure SameCache (h h' : Host (DeviceLine C)) : Prop where
  active : h'.session.active = h.session.active
  resultCache : h'.session.resultCache = h.session.resultCache
  origins : h'.origins = h.origins
  served : h'.served = h.served

theorem SameCache.record {h : Host (DeviceLine C)} (w : DeviceLine C) (p : List String) (name : String)
    (a : Option Availability) :
    SameCache h { h with world := w, session := { h.session with warnedPriors := p }.record name a } := by
  cases a <;> exact ⟨rfl, rfl, rfl, rfl⟩

/-- A command raises before it sends anything, or gets the reply to its request. -/
theorem execute_device (D : Device C) {h : Host (DeviceLine C)} (hactive : h.session.active = .xbpi)
    (hout : h.world.out = []) (command : Command Req Resp) (request : Req) (confirm : Bool)
    (timeout : Option Rat) :
    ∃ result h', (execute D.transport command request confirm timeout).exec h = (result, h') ∧ SameCache h h' ∧
      ((h'.world = h.world ∧ ∃ e, result = .error e) ∨
        ∃ variant data, command.xbpi = some variant ∧
          variant.encode h.session.context request = .ok data ∧
          h'.world = { device := (D.answer data h.world.device).2 } ∧
          match Xbpi.frameReply (D.replyFrame data h.world.device) command.name (some variant.opcode) with
          | .ok frame => result = variant.decode frame h.session.context
          | .error _ => ∃ e, result = .error e) := by
  cases hsent : requestOf command request confirm h with
  | none =>
      obtain ⟨e, p, hrun⟩ := execute_unsent (T := D.transport) hactive hsent timeout
      exact ⟨.error e, _, hrun, ⟨rfl, rfl, rfl, rfl⟩, .inl ⟨rfl, e, rfl⟩⟩
  | some sent =>
      obtain ⟨variant, client, data⟩ := sent
      obtain ⟨p, hrun⟩ := execute_sent (T := D.transport) hactive hsent timeout
      obtain ⟨hx, -, hdata⟩ := requestOf_eq_some hsent
      rw [exchangeOf] at hrun
      cases hdisposed : client.disposed with
      | true =>
          rw [hdisposed] at hrun
          refine ⟨_, _, hrun, SameCache.record _ p command.name _, .inl ⟨rfl, _, rfl⟩⟩
      | false =>
          rw [hdisposed, D.exec_executeLocked data _ _ _ hout] at hrun
          cases hframe : Xbpi.frameReply (D.replyFrame data h.world.device) command.name (some variant.opcode) with
          | ok frame =>
              rw [hframe] at hrun
              refine ⟨_, _, hrun, SameCache.record _ p command.name (some .supported), .inr ⟨variant, data,
                hx, hdata, rfl, ?_⟩⟩
              rw [hframe]
          | error e =>
              rw [hframe] at hrun
              refine ⟨_, _, hrun, SameCache.record _ p command.name _, .inr ⟨variant, data, hx,
                hdata, rfl, ?_⟩⟩
              rw [hframe]
              exact ⟨_, rfl⟩

end Device

/-! ## The cached reads -/

/-- The reads that go through the cache. -/
inductive CachedRead where
  | parameter (index : Int)
  | capacity (area : Int)
  | increment (area : Int)
  deriving DecidableEq, Repr

namespace CachedRead

def cacheKey : CachedRead → String
  | parameter index => Balance.cacheKeyParameter index
  | capacity area => s!"capacity:{area}"
  | increment area => s!"increment:{area}"

def opcode : CachedRead → Int
  | parameter _ => 0x55
  | capacity _ => 0x0C
  | increment _ => 0x0D

def arg : CachedRead → Int
  | parameter index => index
  | capacity area => area
  | increment area => area

def decode (r : CachedRead) (frame : Xbpi.XbpiFrame) : Except Exc CachedValue :=
  let ctx : CommandContext := { protocol := .xbpi }
  match r with
  | parameter _ => CachedValue.parameter <$> Commands.readParameterDecode frame ctx
  | capacity _ => CachedValue.quantity <$> (Commands.metrologyVariant 0x0C).decode frame ctx
  | increment _ => CachedValue.quantity <$> (Commands.metrologyVariant 0x0D).decode frame ctx

theorem opcode_mem (r : CachedRead) : r.opcode ∈ ([0x0C, 0x0D, 0x55] : List Int) := by
  cases r <;> simp [opcode]

def stem : CachedRead → String
  | parameter _ => "parameter:"
  | capacity _ => "capacity:"
  | increment _ => "increment:"

theorem cacheKey_toList (r : CachedRead) : r.cacheKey.toList = r.stem.toList ++ r.arg.repr.toList := by
  cases r <;> simp [cacheKey, Balance.cacheKeyParameter, toString, stem, arg]

def initial : CachedRead → Char
  | parameter _ => 'p'
  | capacity _ => 'c'
  | increment _ => 'i'

theorem head?_cacheKey (r : CachedRead) : r.cacheKey.toList.head? = some r.initial := by
  rw [cacheKey_toList]
  cases r <;> simp [stem, initial]

/-- Different reads have different keys. -/
theorem cacheKey_injective {r r' : CachedRead} (h : r.cacheKey = r'.cacheKey) : r = r' := by
  have hinitial : some r.initial = some r'.initial := by rw [← head?_cacheKey, ← head?_cacheKey, h]
  have harg : r.stem = r'.stem → r.arg = r'.arg := by
    intro hstem
    have hlist := congrArg String.toList h
    rw [cacheKey_toList, cacheKey_toList, hstem] at hlist
    exact intRepr_injective (String.toList_inj.mp (List.append_cancel_left hlist))
  cases r with
  | parameter index =>
      cases r' with
      | parameter index' => exact congrArg parameter (harg rfl)
      | capacity area => exact absurd hinitial (by simp [initial])
      | increment area => exact absurd hinitial (by simp [initial])
  | capacity area =>
      cases r' with
      | parameter index => exact absurd hinitial (by simp [initial])
      | capacity area' => exact congrArg capacity (harg rfl)
      | increment area => exact absurd hinitial (by simp [initial])
  | increment area =>
      cases r' with
      | parameter index => exact absurd hinitial (by simp [initial])
      | capacity area => exact absurd hinitial (by simp [initial])
      | increment area' => exact congrArg increment (harg rfl)

end CachedRead

namespace Device

variable {C Req Resp : Type} {D : Device C} {r : CachedRead}

/-- The value that the device would report for a read; there is none when it refuses the read or the reply
cannot be decoded. -/
def reported (D : Device C) (r : CachedRead) (c : C) : Option CachedValue :=
  let reply := D.report c (Xbpi.toByte r.opcode) (Xbpi.toByte r.arg)
  let frame := Xbpi.frameOf (Xbpi.assembleFrame reply.1 reply.2)
  if frame.subtype = Xbpi.errorSubtype then none else (r.decode frame).toOption

/-- A value was current when it was returned, or 256 changes, 512 or so on had been counted since its counter
was read. -/
def Current (D : Device C) (r : CachedRead) (s : Served (DeviceLine C)) : Prop :=
  D.reported r s.now.device.config = some s.value ∨
    (s.origin.device.ticks < s.now.device.ticks ∧ 256 ∣ s.now.device.ticks - s.origin.device.ticks)

/-- Each entry of the cache was read at a known count of the changes, and is current at that count. -/
structure Coherent (D : Device C) (h : Host (DeviceLine C)) : Prop where
  active : h.session.active = .xbpi
  out : h.world.out = []
  entries : ∀ r counter value, h.session.resultCache.get? r.cacheKey = some (counter, value) →
    (0 ≤ r.arg ∧ r.arg ≤ 255) ∧ ∃ origin, h.origins.get? r.cacheKey = some origin ∧
      counter = origin.device.ticks % 256 ∧ origin.device.ticks ≤ h.world.device.ticks ∧
      (h.world.device.ticks = origin.device.ticks → D.reported r h.world.device.config = some value)
  served : ∀ s ∈ h.served, ∃ r : CachedRead, s.cacheKey = r.cacheKey ∧ D.Current r s

/-- Time passes for the host. -/
structure Advanced (D : Device C) (h h' : Host (DeviceLine C)) : Prop where
  same : SameCache h h'
  out : h'.world.out = []
  later : D.Later nothing h.world.device h'.world.device

theorem SameCache.advanced {h h' : Host (DeviceLine C)} (hsame : SameCache h h') (hworld : h'.world = h.world)
    (hout : h.world.out = []) : D.Advanced h h' where
  same := hsame
  out := hworld ▸ hout
  later := hworld ▸ .refl

theorem reported_later {w w' : DeviceState C} {own : UInt8 → UInt8 → Prop} (hl : D.Later own w w')
    (hr : ¬ own (Xbpi.toByte r.opcode) (Xbpi.toByte r.arg)) (heq : w'.ticks = w.ticks) :
    D.reported r w'.config = D.reported r w.config := by
  unfold reported
  rw [hl.same heq _ _ hr]

theorem Coherent.advance {h h' : Host (DeviceLine C)} (hc : D.Coherent h) (ha : D.Advanced h h') :
    D.Coherent h' where
  active := ha.same.active.trans hc.active
  out := ha.out
  entries := by
    intro r counter value hget
    rw [ha.same.resultCache] at hget
    obtain ⟨harg, origin, horigin, hcounter, hle, hvalue⟩ := hc.entries r counter value hget
    refine ⟨harg, origin, by rw [ha.same.origins]; exact horigin, hcounter, hle.trans ha.later.ticks, ?_⟩
    intro heq
    have hlater := ha.later.ticks
    rw [reported_later ha.later not_false (by omega)]
    exact hvalue (by omega)
  served := by
    rw [ha.same.served]
    exact hc.served

/-- An execution that fetches the read `r`: whatever happens time passes, and a value is the current one. -/
def Fetches (D : Device C) (r : CachedRead) (m : Py (Host (DeviceLine C)) CachedValue) : Prop :=
  ∀ h, h.session.active = .xbpi → h.world.out = [] → ∃ result h', m.exec h = (result, h') ∧ D.Advanced h h' ∧
    ∀ v, result = .ok v → (0 ≤ r.arg ∧ r.arg ≤ 255) ∧ D.reported r h'.world.device.config = some v

theorem buildCommand_of_frameOf {opcode : Int} {args data : Bytes} {ctx : CommandContext}
    (h : Commands.frameOf opcode args ctx = .ok data) :
    Xbpi.buildCommand opcode args ctx.srcSbn ctx.dstSbn = .ok data := by
  rw [Commands.frameOf, Commands.lift] at h
  cases hb : Xbpi.buildCommand opcode args ctx.srcSbn ctx.dstSbn with
  | error e =>
      rw [hb] at h
      cases h
  | ok frame =>
      rw [hb] at h
      cases h
      rfl

theorem encodeTlv_of_tlvU8 {n : Int} {args : Bytes} (h : Commands.tlvU8 n = .ok args) :
    (0 ≤ n ∧ n ≤ 255) ∧ args = [0x21, Xbpi.toByte n] := by
  rw [Commands.tlvU8, Commands.lift] at h
  cases ht : Xbpi.encodeTlv Commands.tlvU8Tag (.int n) with
  | error e =>
      rw [ht] at h
      cases h
  | ok out =>
      rw [ht] at h
      cases h
      exact Xbpi.encodeTlv_u8 ht

theorem tlvU8_fits {n : Int} (h : 0 ≤ n ∧ n ≤ 255) : Commands.tlvU8 n = .ok [0x21, Xbpi.toByte n] := by
  rw [Commands.tlvU8, Commands.lift, Commands.tlvU8Tag, Xbpi.encodeTlv_u8_fits h]
  rfl

theorem frameOf_fits {ctx : CommandContext} (opcode : Int) (args : Bytes) (hop : 0 ≤ opcode ∧ opcode ≤ 255)
    (hsrc : 0 ≤ ctx.srcSbn ∧ ctx.srcSbn ≤ 255) (hdst : 0 ≤ ctx.dstSbn ∧ ctx.dstSbn ≤ 255)
    (hargs : args.length ≤ 251) : ∃ data, Commands.frameOf opcode args ctx = .ok data := by
  obtain ⟨data, hdata⟩ := Xbpi.buildCommand_fits args hop hsrc hdst hargs
  exact ⟨data, by rw [Commands.frameOf, hdata]; rfl⟩

theorem encode_oneArg {opcode arg : Int} {decode : Xbpi.XbpiFrame → CommandContext → Except Exc Resp}
    {ctx : CommandContext} {data : Bytes} (h : (Commands.oneArg opcode id decode).encode ctx arg = .ok data) :
    (0 ≤ arg ∧ arg ≤ 255) ∧
      Xbpi.buildCommand opcode [0x21, Xbpi.toByte arg] ctx.srcSbn ctx.dstSbn = .ok data := by
  simp only [Commands.oneArg, bind, Except.bind] at h
  cases ht : Commands.tlvU8 (id arg) with
  | error e =>
      rw [ht] at h
      cases h
  | ok args =>
      rw [ht] at h
      obtain ⟨hrange, rfl⟩ := encodeTlv_of_tlvU8 ht
      exact ⟨hrange, buildCommand_of_frameOf h⟩

theorem encode_writeParameter {request : Commands.WriteParameterRequest} {ctx : CommandContext} {data : Bytes}
    (h : Commands.writeParameterVariant.encode ctx request = .ok data) :
    (0 ≤ request.index ∧ request.index ≤ 255) ∧ (0 ≤ request.value ∧ request.value ≤ 255) ∧
      Xbpi.buildCommand 0x56 [0x21, Xbpi.toByte request.index, 0x21, Xbpi.toByte request.value] ctx.srcSbn
        ctx.dstSbn = .ok data := by
  simp only [Commands.writeParameterVariant, bind, Except.bind] at h
  cases hi : Commands.tlvU8 request.index with
  | error e =>
      rw [hi] at h
      cases h
  | ok index =>
      cases hv : Commands.tlvU8 request.value with
      | error e =>
          rw [hi, hv] at h
          cases h
      | ok value =>
          rw [hi, hv] at h
          obtain ⟨hindex, rfl⟩ := encodeTlv_of_tlvU8 hi
          obtain ⟨hvalue, rfl⟩ := encodeTlv_of_tlvU8 hv
          exact ⟨hindex, hvalue, buildCommand_of_frameOf h⟩

/-- A reply that is a frame and no refusal. -/
theorem reported_of_reply {w : DeviceState C} {data : Bytes} {name : String} {opcode : Option Int}
    {frame : Xbpi.XbpiFrame} {c : C} {value : CachedValue}
    (hanswer : (D.answer data w).1 = D.report c (Xbpi.toByte r.opcode) (Xbpi.toByte r.arg))
    (hframe : Xbpi.frameReply (D.replyFrame data w) name opcode = .ok frame)
    (hvalue : r.decode frame = .ok value) : D.reported r c = some value := by
  obtain ⟨rfl, hsub⟩ := Xbpi.frameReply_eq_ok hframe
  rw [replyFrame, hanswer] at hsub hvalue
  simp only [reported, if_neg hsub, hvalue]
  rfl

theorem fetches_oneArg {command : Command Int Resp} {decode : Xbpi.XbpiFrame → CommandContext → Except Exc Resp}
    {wrap : Resp → CachedValue} (hx : command.xbpi = some (Commands.oneArg r.opcode id decode))
    (hdecode : ∀ frame ctx, wrap <$> decode frame ctx = r.decode frame) :
    D.Fetches r (wrap <$> execute D.transport command r.arg false none) := by
  intro h hactive hout
  obtain ⟨result, h', hrun, hsame, hcase⟩ := D.execute_device hactive hout command r.arg false none
  have hmap : (wrap <$> execute D.transport command r.arg false none).exec h = (wrap <$> result, h') := by
    rw [exec_map, hrun]
    cases result <;> rfl
  rcases hcase with ⟨hworld, e, rfl⟩ | ⟨variant, data, hvariant, hdata, hworld, hresult⟩
  · exact ⟨_, h', hmap, hsame.advanced hworld hout, fun v hv => by cases hv⟩
  · rw [hx] at hvariant
    cases hvariant
    obtain ⟨hrange, hframe⟩ := encode_oneArg hdata
    have hanswer := D.answer_read h.world.device hframe r.opcode_mem
    rw [hanswer] at hworld
    refine ⟨_, h', hmap, ⟨hsame, by rw [hworld], ?_⟩, fun v hv => ⟨hrange, ?_⟩⟩
    · rw [hworld]
      exact front_later D _
    · cases hreply : Xbpi.frameReply (D.replyFrame data h.world.device) command.name (some r.opcode) with
      | error e =>
          simp only [Commands.oneArg, hreply] at hresult
          obtain ⟨e, rfl⟩ := hresult
          cases hv
      | ok frame =>
          simp only [Commands.oneArg, hreply] at hresult
          rw [hresult, hdecode] at hv
          rw [hworld]
          exact reported_of_reply (congrArg Prod.fst hanswer) hreply hv

/-! ## The counter -/

theorem exec_readConfigCounter (D : Device C) {h : Host (DeviceLine C)} (hactive : h.session.active = .xbpi)
    (hout : h.world.out = []) :
    ∃ result h', (readConfigCounter D.transport none).exec h = (result, h') ∧ D.Advanced h h' ∧
      ∀ n, result = .ok n → n = h'.world.device.ticks % 256 := by
  obtain ⟨result, h', hrun, hsame, hcase⟩ := D.execute_device hactive hout Commands.CONFIG_COUNTER () false none
  refine ⟨result, h', hrun, ?_⟩
  rcases hcase with ⟨hworld, e, rfl⟩ | ⟨variant, data, hvariant, hdata, hworld, hresult⟩
  · exact ⟨hsame.advanced hworld hout, fun n hn => by cases hn⟩
  · cases hvariant
    have hanswer := D.answer_counter h.world.device (buildCommand_of_frameOf hdata)
    rw [hanswer] at hworld
    refine ⟨⟨hsame, by rw [hworld], ?_⟩, fun n hn => ?_⟩
    · rw [hworld]
      exact front_later D _
    · have hframe : Xbpi.frameReply (D.replyFrame data h.world.device) Commands.CONFIG_COUNTER.name
          (some Commands.configCounterVariant.opcode) = .ok (D.replyFrame data h.world.device) := by
        rw [Xbpi.frameReply, if_neg]
        rw [replyFrame, hanswer, Xbpi.frameOf_assembleFrame_subtype]
        show (0x21 : UInt8) ≠ Xbpi.errorSubtype
        decide
      rw [hframe] at hresult
      simp only [Commands.configCounterVariant, Commands.noArgs, replyFrame, hanswer,
        Xbpi.frameOf_assembleFrame_body] at hresult
      rw [hresult] at hn
      cases hn
      rw [hworld]
      exact UInt8.toNat_ofNat'

/-! ## The cache -/

theorem Coherent.serve {h : Host (DeviceLine C)} (hc : D.Coherent h) {value : CachedValue} {origin : DeviceLine C}
    (hcurrent : D.Current r { cacheKey := r.cacheKey, value, origin, now := h.world }) :
    D.Coherent ((serve r.cacheKey value origin).exec h).2 where
  active := hc.active
  out := hc.out
  entries := hc.entries
  served := by
    intro s hs
    cases List.mem_append.mp hs with
    | inl hs => exact hc.served s hs
    | inr hs =>
        obtain rfl := List.mem_singleton.mp hs
        exact ⟨r, rfl, hcurrent⟩

/-- A new entry, with the world in which its counter was read. -/
theorem Coherent.store {h : Host (DeviceLine C)} (hc : D.Coherent h) {value : CachedValue} {origin : DeviceLine C}
    (hrange : 0 ≤ r.arg ∧ r.arg ≤ 255) (hle : origin.device.ticks ≤ h.world.device.ticks)
    (hvalue : D.reported r h.world.device.config = some value) :
    D.Coherent { h with
      session := { h.session with
        resultCache := h.session.resultCache.set r.cacheKey (origin.device.ticks % 256, value) }
      origins := h.origins.set r.cacheKey origin } where
  active := hc.active
  out := hc.out
  entries := by
    intro r' counter value' hget
    simp only [Dict.get?_set] at hget ⊢
    by_cases hkey : r'.cacheKey = r.cacheKey
    · rw [if_pos hkey] at hget ⊢
      cases hget
      obtain rfl := CachedRead.cacheKey_injective hkey
      exact ⟨hrange, origin, rfl, rfl, hle, fun _ => hvalue⟩
    · rw [if_neg hkey] at hget ⊢
      exact hc.entries r' counter value' hget
  served := hc.served

/-- A value that is fetched enters the cache with the counter that was read before it. -/
theorem fetched_coherent {m : Py (Host (DeviceLine C)) CachedValue} (hfetch : D.Fetches r m)
    {h : Host (DeviceLine C)} (hc : D.Coherent h) :
    D.Coherent ((do
      let result ← m
      modifySession fun s =>
        { s with resultCache := s.resultCache.set r.cacheKey (h.world.device.ticks % 256, result) }
      modify fun h' => { h' with origins := h'.origins.set r.cacheKey h.world }
      serve r.cacheKey result h.world : Py (Host (DeviceLine C)) CachedValue).exec h).2 := by
  obtain ⟨result, h', hrun, hadvanced, hvalue⟩ := hfetch h hc.active hc.out
  have hc' := hc.advance hadvanced
  cases result with
  | error e =>
      rw [exec_bind_error hrun]
      exact hc'
  | ok v =>
      obtain ⟨hrange, hreported⟩ := hvalue v rfl
      rw [exec_bind_ok hrun]
      exact (hc'.store hrange hadvanced.later.ticks hreported).serve (.inl hreported)

theorem cachedExecute_coherent {command : Command Req Resp} {request : Req} {wrap : Resp → CachedValue}
    (hfetch : D.Fetches r (wrap <$> execute D.transport command request false none)) :
    Keeps D.Coherent (cachedExecute D.transport command request wrap r.cacheKey false none) := by
  intro h hc
  rw [cachedExecute, exec_bind_ok (exec_get h)]
  by_cases hcapable : CapabilityBit.configCounter ∉ h.session.capabilities
  · rw [if_pos hcapable]
    obtain ⟨result, h', hrun, hadvanced, hvalue⟩ := hfetch h hc.active hc.out
    cases result with
    | error e =>
        rw [exec_bind_error hrun]
        exact hc.advance hadvanced
    | ok v =>
        rw [exec_bind_ok hrun, exec_bind_ok (exec_get h')]
        exact (hc.advance hadvanced).serve (.inl (hvalue v rfl).2)
  · rw [if_neg hcapable]
    obtain ⟨counter, h₁, hcounter, hadvanced, hn⟩ := D.exec_readConfigCounter hc.active hc.out
    have hc₁ := hc.advance hadvanced
    cases counter with
    | error e =>
        rw [exec_bind_error hcounter]
        exact hc₁
    | ok n =>
        obtain rfl := hn n rfl
        rw [exec_bind_ok hcounter, exec_bind_ok (exec_get h₁)]
        dsimp only
        cases hget : h₁.session.resultCache.get? r.cacheKey with
        | none => exact fetched_coherent hfetch hc₁
        | some entry =>
            obtain ⟨snapshot, value⟩ := entry
            dsimp only
            by_cases hsame : snapshot = h₁.world.device.ticks % 256
            · rw [if_pos hsame]
              obtain ⟨-, origin, horigin, hsnapshot, hle, hcurrent⟩ := hc₁.entries r snapshot value hget
              rw [horigin]
              refine hc₁.serve ?_
              by_cases hticks : h₁.world.device.ticks = origin.device.ticks
              · exact .inl (hcurrent hticks)
              · -- the byte is the same although the count is not
                refine .inr ⟨Nat.lt_of_le_of_ne hle (Ne.symm hticks), ?_⟩
                have hmod : origin.device.ticks % 256 = h₁.world.device.ticks % 256 := hsnapshot ▸ hsame
                exact Nat.dvd_of_mod_eq_zero (Nat.sub_mod_eq_zero_of_mod_eq hmod.symm)
            · rw [if_neg hsame]
              exact fetched_coherent hfetch hc₁

/-! ## Reads and writes -/

theorem readParameter_coherent (index : Int) : Keeps D.Coherent (Balance.readParameter D.transport index) := by
  refine Keeps.bind (cachedExecute_coherent (r := .parameter index) (fetches_oneArg rfl fun _ _ => rfl)) fun value => ?_
  cases value with
  | parameter entry => exact .pure _
  | quantity q => exact .throw _

theorem getDisplayUnit_coherent : Keeps D.Coherent (Balance.getDisplayUnit D.transport) :=
  Keeps.map _ ((readParameter_coherent _).bind fun _ => .pure _)

theorem metrologyRead_coherent {command : Command Int Quantity} {area : Int}
    (hfetch : D.Fetches r (CachedValue.quantity <$> execute D.transport command area false none)) :
    Keeps D.Coherent (Balance.metrologyRead D.transport command area r.cacheKey) := by
  refine Keeps.bind (cachedExecute_coherent hfetch) fun value => ?_
  cases value with
  | parameter p => exact .throw _
  | quantity raw =>
      exact .ite (fun _ => .pure _) fun _ =>
        Keeps.exceptClasses (getDisplayUnit_coherent.bind fun _ => .pure _) fun _ => .pure _

theorem capacity_coherent (area : Int) : Keeps D.Coherent (Balance.capacity D.transport area) :=
  metrologyRead_coherent (r := .capacity area) (fetches_oneArg rfl fun _ _ => rfl)

theorem increment_coherent (area : Int) : Keeps D.Coherent (Balance.increment D.transport area) :=
  metrologyRead_coherent (r := .increment area) (fetches_oneArg rfl fun _ _ => rfl)

/-- The entries that are kept after a change are those of reports that it cannot alter uncounted. -/
theorem Coherent.changed {h h' : Host (DeviceLine C)} (hc : D.Coherent h) {x : Change} (hsame : SameCache h h')
    (hworld : h'.world = { device := D.apply x (front h.world.device) }) (cache : Dict String (Nat × CachedValue))
    (hkept : ∀ (r : CachedRead) counter value, cache.get? r.cacheKey = some (counter, value) →
      h.session.resultCache.get? r.cacheKey = some (counter, value) ∧
        ((0 ≤ r.arg ∧ r.arg ≤ 255) → ¬ x.Owns (Xbpi.toByte r.opcode) (Xbpi.toByte r.arg))) :
    D.Coherent { h' with session := { h'.session with resultCache := cache } } where
  active := hsame.active.trans hc.active
  out := by
    show h'.world.out = []
    rw [hworld]
  entries := by
    intro r counter value hget
    obtain ⟨hold, hown⟩ := hkept r counter value hget
    obtain ⟨hrange, origin, horigin, hcounter, hle, hvalue⟩ := hc.entries r counter value hold
    have hlater := (front_later D x.Owns (w := h.world.device)).trans (apply_later D x)
    have hdevice : h'.world.device = D.apply x (front h.world.device) := by rw [hworld]
    rw [← hdevice] at hlater
    have hticks := hlater.ticks
    refine ⟨hrange, origin, by rw [hsame.origins]; exact horigin, hcounter, hle.trans hticks, fun heq => ?_⟩
    have heq : h'.world.device.ticks = origin.device.ticks := heq
    rw [reported_later hlater (hown hrange) (by omega)]
    exact hvalue (by omega)
  served := by
    intro s hs
    have hs : s ∈ h'.served := hs
    rw [hsame.served] at hs
    exact hc.served s hs

theorem Coherent.cleared {h : Host (DeviceLine C)} (hc : D.Coherent h) : D.Coherent
    { h with session := h.session.invalidateCache none } where
  active := hc.active
  out := hc.out
  entries := fun r counter value hget => by cases hget
  served := hc.served

/-- A command that only changes the device raises before it is sent, or is acknowledged. -/
theorem execute_change (D : Device C) {h : Host (DeviceLine C)} (hactive : h.session.active = .xbpi)
    (hout : h.world.out = []) (command : Command Req Unit) (request : Req) (confirm : Bool)
    {variant : XbpiVariant Req Unit} (hx : command.xbpi = some variant) {x : Change}
    (hdecode : ∀ frame ctx, variant.decode frame ctx = .ok ())
    (hanswer : ∀ data, variant.encode h.session.context request = .ok data →
      D.answer data h.world.device = (ack, D.apply x (front h.world.device))) :
    ∃ result h', (execute D.transport command request confirm none).exec h = (result, h') ∧ SameCache h h' ∧
      ((∃ e, result = .error e) ∧ h'.world = h.world ∨
        result = .ok () ∧ h'.world = { device := D.apply x (front h.world.device) } ∧
          ∃ data, variant.encode h.session.context request = .ok data) := by
  obtain ⟨result, h', hrun, hsame, hcase⟩ := D.execute_device hactive hout command request confirm none
  refine ⟨result, h', hrun, hsame, ?_⟩
  rcases hcase with ⟨hworld, herror⟩ | ⟨variant', data, hvariant, hdata, hworld, hresult⟩
  · exact .inl ⟨herror, hworld⟩
  · cases hx.symm.trans hvariant
    have hreply := hanswer data hdata
    have hframe : Xbpi.frameReply (D.replyFrame data h.world.device) command.name (some variant.opcode) =
        .ok (D.replyFrame data h.world.device) := by
      rw [Xbpi.frameReply, if_neg]
      rw [replyFrame, hreply, Xbpi.frameOf_assembleFrame_subtype]
      show (0x00 : UInt8) ≠ Xbpi.errorSubtype
      decide
    rw [hframe] at hresult
    dsimp only at hresult
    rw [hdecode] at hresult
    exact .inr ⟨hresult, by rw [hworld, hreply], data, hdata⟩

theorem menu_coherent {command : Command Unit Unit} {opcode : Int} {x : Change} (confirm : Bool)
    (hx : command.xbpi = some (Commands.ackOnly opcode))
    (hchange : (opcode = 0x47 ∧ x = .save) ∨ (opcode = 0x46 ∧ x = .reload)) :
    Keeps D.Coherent (do
      execute D.transport command () confirm none
      modifySession (·.invalidateCache none)) := by
  intro h hc
  obtain ⟨result, h', hrun, hsame, hcase⟩ := D.execute_change hc.active hc.out command () (x := x) confirm hx
    (fun _ _ => rfl) fun data hdata => D.answer_change h.world.device (buildCommand_of_frameOf hdata) x (.inr hchange)
  rcases hcase with ⟨⟨e, rfl⟩, hworld⟩ | ⟨rfl, hworld, -⟩
  · rw [exec_bind_error hrun]
    exact hc.advance (hsame.advanced hworld hc.out)
  · rw [exec_bind_ok hrun]
    exact hc.changed hsame hworld [] fun r counter value hget => by cases hget

theorem writeParameter_coherent (index value : Int) (confirm : Bool) :
    Keeps D.Coherent (Balance.writeParameter D.transport index value confirm) := by
  intro h hc
  obtain ⟨result, h', hrun, hsame, hcase⟩ := D.execute_change hc.active hc.out Commands.WRITE_PARAMETER
    (⟨index, value⟩ : Commands.WriteParameterRequest) (x := .write (Xbpi.toByte index) (Xbpi.toByte value))
    confirm rfl (fun _ _ => rfl) fun data hdata => by
      obtain ⟨-, -, hframe⟩ := encode_writeParameter hdata
      exact D.answer_change h.world.device hframe _ (.inl ⟨rfl, rfl⟩)
  rcases hcase with ⟨⟨e, rfl⟩, hworld⟩ | ⟨rfl, hworld, data, hdata⟩
  · rw [Balance.writeParameter, exec_bind_error hrun]
    exact hc.advance (hsame.advanced hworld hc.out)
  · obtain ⟨hindex, -, -⟩ := encode_writeParameter hdata
    rw [Balance.writeParameter, exec_bind_ok hrun]
    refine hc.changed hsame hworld _ fun r counter value' hget => ?_
    have hget : (h'.session.resultCache.pop (Balance.cacheKeyParameter index)).get? r.cacheKey =
      some (counter, value') := hget
    rw [Dict.get?_pop, hsame.resultCache] at hget
    split at hget
    · cases hget
    · rename_i hkey
      refine ⟨hget, fun hrange => ?_⟩
      rintro ⟨i, v, hx, -, hopcode, harg⟩
      cases hx
      cases r with
      | parameter index' =>
          have hsame : index' = index := Xbpi.toByte_inj hrange hindex harg
          exact hkey (congrArg Balance.cacheKeyParameter hsame)
      | capacity area => cases hopcode
      | increment area => cases hopcode

/-! ## Runs -/

/-- The calls that read through the cache or write what it holds. -/
def cachedCall : Balance.Call → Bool
  | .readParameter _ | .getTyped _ | .capacity _ | .increment _ | .writeParameter .. | .setTyped ..
  | .saveMenu _ | .reloadMenu _ => true
  | _ => false

theorem perform_coherent {c : Balance.Call} (hc : cachedCall c = true) : Keeps D.Coherent (c.perform D.transport) := by
  cases c with
  | readParameter index => exact (readParameter_coherent index).map _
  | getTyped index => exact Keeps.map _ ((readParameter_coherent index).bind fun _ => .pure _)
  | capacity area => exact (capacity_coherent area).map _
  | increment area => exact (increment_coherent area).map _
  | writeParameter index value confirm => exact writeParameter_coherent index value confirm
  | setTyped index wire confirm =>
      refine Keeps.bind ?_ fun value => writeParameter_coherent index value confirm
      cases wire with
      | ok value => exact .pure _
      | error e => exact .throw _
  | saveMenu confirm => exact menu_coherent confirm rfl (.inl ⟨rfl, rfl⟩)
  | reloadMenu confirm => exact menu_coherent confirm rfl (.inr ⟨rfl, rfl⟩)
  | _ => cases hc

theorem runCalls_coherent {calls : List Balance.Call} (hcalls : ∀ c ∈ calls, cachedCall c = true)
    {h : Host (DeviceLine C)} (hc : D.Coherent h) : D.Coherent (Balance.runCalls D.transport calls h) := by
  induction calls generalizing h with
  | nil => exact hc
  | cons c calls ih =>
      exact ih (fun c' hc' => hcalls c' (List.mem_cons_of_mem _ hc'))
        (perform_coherent (hcalls c List.mem_cons_self) h hc)

/-- A balance whose cache is still empty. -/
structure Fresh (h : Host (DeviceLine C)) : Prop where
  active : h.session.active = .xbpi
  out : h.world.out = []
  resultCache : h.session.resultCache = []
  served : h.served = []

/-- In every run of cached reads, parameter writes and menu calls, whatever happens on the front panel, each
value that was returned was the one that the device reported, or else a positive multiple of 256 changes had
been counted since the counter of its entry was read. -/
theorem served_current (D : Device C) {calls : List Balance.Call} (hcalls : ∀ c ∈ calls, cachedCall c = true)
    {h : Host (DeviceLine C)} (hfresh : Fresh h) :
    ∀ s ∈ (Balance.runCalls D.transport calls h).served, ∃ r : CachedRead, s.cacheKey = r.cacheKey ∧
      D.Current r s := by
  have hstart : D.Coherent h := by
    refine ⟨hfresh.active, hfresh.out, fun r counter value hget => ?_, fun s hs => ?_⟩
    · rw [hfresh.resultCache] at hget
      cases hget
    · rw [hfresh.served] at hs
      cases hs
  exact (runCalls_coherent hcalls hstart).served

/-- A device whose only parameter value is its configuration, and whose every write is counted. -/
def oneParameter : Device UInt8 where
  report c _ _ := (0x21, [c, 0x21, 0xFF])
  change c x := match x with
    | .write _ value => value
    | _ => c
  counted _ _ := true
  report_size _ _ _ := by simp
  uncounted _ _ h := by cases h

/-- Parameter 7 is 1, until at the third request the front panel has made 256 changes and left it at 2. -/
def wrappingHost : Host (DeviceLine UInt8) where
  world := { device := { config := 1, panel := [[], [], List.replicate 255 1 ++ [2]] } }
  session := { active := .xbpi, xbpi := some { id := 0 }, capabilities := [.configCounter, .parameterTable] }

/-- A device with the filter row beside its other parameters; the write of an uncounted row is not counted. -/
def filterRow : Device (UInt8 × UInt8) where
  report c opcode arg := (0x21, [if opcode = 0x55 ∧ arg = 13 then c.2 else c.1, 0x21, 0xFF])
  change c x := match x with
    | .write index value => if index = 13 then (c.1, value) else if index = 50 then c else (value, c.2)
    | _ => c
  counted _ x := match x with
    | .write index _ => index ∉ uncountedIndices
    | _ => true
  report_size _ _ _ := by simp
  uncounted c x h opcode arg hother := by
    cases x with
    | save => cases h
    | reload => cases h
    | write index value =>
        have hindex : index ∈ uncountedIndices := by simpa using h
        by_cases hrow : index = 13
        · have harg : ¬ (opcode = 0x55 ∧ arg = 13) := fun hown =>
            hother ⟨index, value, rfl, hindex, hown.1, hown.2.trans hrow.symm⟩
          simp [hrow, harg]
        · have hfifty : index = 50 := by simpa [uncountedIndices, hrow] using hindex
          simp [hfifty]

def filterHost : Host (DeviceLine (UInt8 × UInt8)) where
  world := { device := { config := (1, 3), panel := [[], [], [(1, 4)]] } }
  session := { active := .xbpi, xbpi := some { id := 0 }, capabilities := [.configCounter, .parameterTable] }

/-- The filter row and another one are read before and after a write of the filter row. -/
def readWriteRead : List Balance.Call :=
  [.readParameter 13, .readParameter 7, .writeParameter 13 5 true, .readParameter 13, .readParameter 7]

/-- A row of that device, as it is decoded. -/
def filterEntry (value : UInt8) : CachedValue :=
  .parameter { index := -1, current := value.toNat, max := 255, raw := [value, 0x21, 0xFF] }

/-- The front panel changes the filter row before it is written, and the write itself is not counted: the second read
of the row is a new one, while the other row is served from the cache. -/
theorem served_current_filter :
    (Balance.runCalls filterRow.transport readWriteRead filterHost).served.map (fun s => (s.now.device.ticks, s.value)) =
        [(0, filterEntry 3), (1, filterEntry 1), (1, filterEntry 5), (1, filterEntry 1)] ∧
      ∀ s ∈ (Balance.runCalls filterRow.transport readWriteRead filterHost).served,
        ∃ r : CachedRead, s.cacheKey = r.cacheKey ∧ filterRow.Current r s :=
  ⟨by decide +kernel, served_current filterRow (by decide) ⟨rfl, rfl, rfl, rfl⟩⟩

/-- The second read is served from the cache although the device now reports 2. -/
theorem stale_after_wrap : ∃ s ∈
    (Balance.runCalls oneParameter.transport [.readParameter 7, .readParameter 7] wrappingHost).served,
    s.cacheKey = (CachedRead.parameter 7).cacheKey ∧
      oneParameter.reported (.parameter 7) s.now.device.config ≠ some s.value := by
  have hstale : ((Balance.runCalls oneParameter.transport [.readParameter 7, .readParameter 7] wrappingHost).served.any
      fun s => s.cacheKey = (CachedRead.parameter 7).cacheKey ∧
        oneParameter.reported (.parameter 7) s.now.device.config ≠ some s.value) = true := by
    decide +kernel
  simpa using hstale

end Device

end SartoriusLib
