import SartoriusLib.Devices.ScriptedBalance
import SartoriusLib.Testing.Lines

/-!
# Scripts of an identity

`build_identify_script` makes a script that answers the requests of an identification. A balance that is opened on it
has the identity that the script was made of.
-/

namespace SartoriusLib.Testing

open SartoriusLib Lib Prog Factory

/-! ## The script -/

/-- `_rx`; the length has to fit into its byte. -/
def rx (subtype : UInt8) (body : Bytes) : Except Exc Bytes :=
  if body.length ≤ 252 then .ok (Xbpi.assembleFrame subtype body)
  else .error (.valueError "bytes must be in range(0, 256)")

/-- `_ascii_blob`. -/
def asciiBlob (subtype : UInt8) (size : Nat) (text : Text) : Except Exc Bytes :=
  match encodeAscii text with
  | some body => rx subtype (body ++ List.replicate (size - body.length) 0x00)
  | none => .error .unicodeEncodeError

/-- `_short_data_u8`. -/
def shortDataU8 (value : Int) : Except Exc Bytes :=
  if 0 ≤ value ∧ value ≤ 255 then rx 0x21 [Xbpi.toByte value]
  else .error (.valueError "bytes must be in range(0, 256)")

/-- `build_command(opcode)`. -/
def tx (opcode : Int) : Except Exc Bytes := Commands.lift (Xbpi.buildCommand opcode [])

/-- The arguments of `build_identify_script`. -/
structure IdentifyArgs where
  model : Text := "MSE1203S-100-DR".toList
  manufacturer : Text := "Sartorius".toList
  software : Bytes := [0x00, 0x39, 0x21, 0x00, 0x39, 0x01, 0x39, 0x01, 0x00, 0x01]
  factoryNumber : Bytes := [0x00, 0x31, 0x80, 0x11, 0x65]
  sbn : Int := 0x00
  deriving DecidableEq, Repr

def buildIdentifyScript (a : IdentifyArgs) : Except Exc (Dict Bytes Bytes) := do
  let model ← asciiBlob 0x54 20 a.model
  let manufacturer ← asciiBlob 0x50 16 a.manufacturer
  let software ← rx 0x4A a.software
  let factoryNumber ← rx 0x45 a.factoryNumber
  let sbn ← shortDataU8 a.sbn
  pure [(← tx 0x02, model), (← tx 0x07, manufacturer), (← tx 0x00, software), (← tx 0x01, factoryNumber),
    (← tx 0x71, sbn)]

/-! ## What the script holds -/

/-- A text that a blob gives back: it has no blanks at its ends and no zero at the last place. -/
structure Printed (t : Text) : Prop where
  trimmed : Text.Trimmed t
  noZero : ∀ c ∈ t.getLast?, c.toNat ≠ 0

/-- The body of a blob of at least `size` bytes. -/
def blobBody (size : Nat) (text : Text) : Bytes :=
  encodeAsciiReplace text ++ List.replicate (size - (encodeAsciiReplace text).length) 0x00

theorem asciiBlob_eq_ok {subtype : UInt8} {size : Nat} {text : Text} {frame : Bytes}
    (h : asciiBlob subtype size text = .ok frame) :
    (∀ c ∈ text, c.toNat < 128) ∧ (blobBody size text).length ≤ 252 ∧
      frame = Xbpi.assembleFrame subtype (blobBody size text) := by
  unfold asciiBlob encodeAscii at h
  split_ifs at h with hascii
  · have hchars : ∀ c ∈ text, c.toNat < 128 := by simpa using hascii
    have hbody : encodeAsciiReplace text = text.map fun c => UInt8.ofNat c.toNat :=
      List.map_congr_left fun c hc => if_pos (hchars c hc)
    rw [← hbody] at h
    dsimp only [rx] at h
    split_ifs at h with hlength
    exact ⟨hchars, hlength, (Except.ok.inj h).symm⟩

theorem rstrip_append_replicate {chars : Bytes} {x : UInt8} (hx : x ∈ chars) (b : Bytes) (n : Nat) :
    Bytes.rstrip chars (b ++ List.replicate n x) = Bytes.rstrip chars b := by
  rw [Bytes.rstrip, List.reverse_append, List.reverse_replicate, List.dropWhile_append_of_pos]
  · rfl
  · intro y hy
    rw [List.eq_of_mem_replicate hy]
    exact decide_eq_true hx

theorem rstrip_append_singleton {chars : Bytes} {x : UInt8} (hx : x ∉ chars) (b : Bytes) :
    Bytes.rstrip chars (b ++ [x]) = b ++ [x] := by
  simp [Bytes.rstrip, hx]

theorem decodeAsciiReplace_encode {text : Text} (hascii : ∀ c ∈ text, c.toNat < 128) :
    decodeAsciiReplace (encodeAsciiReplace text) = text := by
  rw [decodeAsciiReplace, encodeAsciiReplace, List.map_map]
  refine (List.map_congr_left fun c hc => ?_).trans (List.map_id text)
  have hc' := hascii c hc
  have hvalue : (UInt8.ofNat c.toNat).toNat = c.toNat := by
    rw [UInt8.toNat_ofNat']
    omega
  have hlt : UInt8.ofNat c.toNat < 128 := by
    rw [UInt8.lt_iff_toNat_lt, hvalue]
    exact hc'
  rw [Function.comp_apply, if_pos hc', if_pos hlt, hvalue, Char.ofNat_toNat]
  rfl

/-- A text is what its blob decodes to. -/
theorem decodeAsciiBlob_blobBody {text : Text} (hascii : ∀ c ∈ text, c.toNat < 128) (ht : Printed text) (size : Nat) :
    Commands.decodeAsciiBlob (blobBody size text) = text := by
  have hkept : Bytes.rstrip [0x00, 0x20] (encodeAsciiReplace text) = encodeAsciiReplace text := by
    rcases List.eq_nil_or_concat' text with rfl | ⟨init, c, rfl⟩
    · rfl
    have hc : c.toNat < 128 := hascii c (by simp)
    have hbyte : encodeAsciiReplace (init ++ [c]) = encodeAsciiReplace init ++ [UInt8.ofNat c.toNat] := by
      simp [encodeAsciiReplace, hc]
    have hvalue : (UInt8.ofNat c.toNat).toNat = c.toNat := by
      rw [UInt8.toNat_ofNat']
      omega
    rw [hbyte]
    refine rstrip_append_singleton (fun hmem => ?_) _
    rcases List.mem_cons.mp hmem with h | h
    · -- a zero at the end would be stripped
      refine ht.noZero c (by simp) ?_
      rw [← hvalue, h]
      rfl
    · -- and so would a blank
      have hspace : c = ' ' := by
        rw [← Char.ofNat_toNat c, ← hvalue, List.mem_singleton.mp h]
        rfl
      refine Text.strip_ne_of_endsSpace (c := c) (t := init) ?_ ht.trimmed
      rw [hspace]
      decide
  rw [Commands.decodeAsciiBlob, blobBody, rstrip_append_replicate (by decide), hkept,
    decodeAsciiReplace_encode hascii]
  exact ht.trimmed

/-- The entries of the script. -/
def entries (a : IdentifyArgs) : Dict Bytes Bytes :=
  [([0x04, 0x01, 0x09, 0x02, 0x10], Xbpi.assembleFrame 0x54 (blobBody 20 a.model)),
   ([0x04, 0x01, 0x09, 0x07, 0x15], Xbpi.assembleFrame 0x50 (blobBody 16 a.manufacturer)),
   ([0x04, 0x01, 0x09, 0x00, 0x0E], Xbpi.assembleFrame 0x4A a.software),
   ([0x04, 0x01, 0x09, 0x01, 0x0F], Xbpi.assembleFrame 0x45 a.factoryNumber),
   ([0x04, 0x01, 0x09, 0x71, 0x7F], Xbpi.assembleFrame 0x21 [Xbpi.toByte a.sbn])]

/-- What the arguments of a script that was built satisfy. -/
structure Buildable (a : IdentifyArgs) : Prop where
  model : (∀ c ∈ a.model, c.toNat < 128) ∧ (blobBody 20 a.model).length ≤ 252
  manufacturer : (∀ c ∈ a.manufacturer, c.toNat < 128) ∧ (blobBody 16 a.manufacturer).length ≤ 252
  software : a.software.length ≤ 252
  factoryNumber : a.factoryNumber.length ≤ 252
  sbn : 0 ≤ a.sbn ∧ a.sbn ≤ 255

theorem rx_eq_ok {subtype : UInt8} {body frame : Bytes} (h : rx subtype body = .ok frame) :
    body.length ≤ 252 ∧ frame = Xbpi.assembleFrame subtype body := by
  unfold rx at h
  split_ifs at h with hlength
  exact ⟨hlength, (Except.ok.inj h).symm⟩

theorem buildIdentifyScript_eq_ok {a : IdentifyArgs} {m : Dict Bytes Bytes} (h : buildIdentifyScript a = .ok m) :
    Buildable a ∧ m = entries a := by
  rw [buildIdentifyScript] at h
  cases hmodel : asciiBlob 0x54 20 a.model with
  | error e => rw [hmodel] at h; cases h
  | ok model =>
  cases hmanufacturer : asciiBlob 0x50 16 a.manufacturer with
  | error e => rw [hmodel, hmanufacturer] at h; cases h
  | ok manufacturer =>
  cases hsoftware : rx 0x4A a.software with
  | error e => rw [hmodel, hmanufacturer, hsoftware] at h; cases h
  | ok software =>
  cases hfactory : rx 0x45 a.factoryNumber with
  | error e => rw [hmodel, hmanufacturer, hsoftware, hfactory] at h; cases h
  | ok factoryNumber =>
  cases hsbn : shortDataU8 a.sbn with
  | error e => rw [hmodel, hmanufacturer, hsoftware, hfactory, hsbn] at h; cases h
  | ok sbn =>
  rw [hmodel, hmanufacturer, hsoftware, hfactory, hsbn] at h
  obtain ⟨hascii, hsize, rfl⟩ := asciiBlob_eq_ok hmodel
  obtain ⟨hascii', hsize', rfl⟩ := asciiBlob_eq_ok hmanufacturer
  obtain ⟨hsoftwareSize, rfl⟩ := rx_eq_ok hsoftware
  obtain ⟨hfactorySize, rfl⟩ := rx_eq_ok hfactory
  unfold shortDataU8 at hsbn
  split_ifs at hsbn with hbyte
  obtain ⟨-, rfl⟩ := rx_eq_ok hsbn
  exact ⟨⟨⟨hascii, hsize⟩, ⟨hascii', hsize'⟩, hsoftwareSize, hfactorySize, hbyte⟩, (Except.ok.inj h).symm⟩

theorem entries_frames {a : IdentifyArgs} (ha : Buildable a) : ∀ e ∈ entries a, e.2 = [] ∨ Xbpi.IsFrame e.2 := by
  intro e he
  simp only [entries, List.mem_cons, List.not_mem_nil, or_false] at he
  rcases he with rfl | rfl | rfl | rfl | rfl
  · exact .inr (Xbpi.assembleFrame_isFrame _ ha.model.2)
  · exact .inr (Xbpi.assembleFrame_isFrame _ ha.manufacturer.2)
  · exact .inr (Xbpi.assembleFrame_isFrame _ ha.software)
  · exact .inr (Xbpi.assembleFrame_isFrame _ ha.factoryNumber)
  · exact .inr (Xbpi.assembleFrame_isFrame _ (by simp))

/-! ## The identification -/

/-- The identity that a script was made of. -/
def identity (a : IdentifyArgs) (settings : SerialSettings) : DeviceInfo :=
  { manufacturer := if a.manufacturer = [] then none else some a.manufacturer, model := a.model, serial := none,
    factoryNumber := some (.blob a.factoryNumber),
    software := if a.software = [] then none else some (bytesHex a.software), family := classifyFamily a.model,
    protocol := .xbpi, capacity := none, increment := none, sbn := some a.sbn, serialSettings := settings,
    capabilities := familyDefaultCapabilities (classifyFamily a.model) }

section Identification

variable {a : IdentifyArgs} {h : Host ScriptedState}

theorem caught_sartoriusError (e : SartoriusError) :
    ([.sartoriusError] : List ErrorClass).any (Exc.sartorius e).isinstance = true := by
  show (e.cls.issubclass .sartoriusError || false) = true
  cases e.cls <;> rfl

/-- A request without arguments between the default addresses. -/
theorem encodes_noArgs {Resp : Type} (opcode : Int) {data : Bytes} (hdata : Xbpi.buildCommand opcode [] = .ok data)
    (decode : Xbpi.XbpiFrame → CommandContext → Except Exc Resp) :
    Encodes (Commands.noArgs opcode decode) () data := by
  intro ctx hsrc hdst
  show Commands.lift (Xbpi.buildCommand opcode [] ctx.srcSbn ctx.dstSbn) = .ok data
  rw [hsrc, hdst]
  exact congrArg Commands.lift hdata

/-- The reads of an identification are answered. -/
theorem identityReads_answered (ha : Buildable a) (hmodel : Printed a.model) (hmanufacturer : Printed a.manufacturer)
    (hr : Ready (entries a) h) :
    ∃ h', (Balance.identityReads scriptedTransport.toTransport).exec h =
      (.ok (a.model, a.manufacturer, a.software, a.factoryNumber, a.sbn), h') ∧ Ready (entries a) h' := by
  have hframes := entries_frames ha
  have htext : ∀ {size : Nat} {text : Text}, (∀ c ∈ text, c.toNat < 128) → Printed text →
      ∀ frame : Xbpi.XbpiFrame, frame.body = blobBody size text →
        (Except.ok (Commands.decodeAsciiBlob frame.body) : Except Exc Text) = .ok text := by
    intro size text hascii hprinted frame hbody
    rw [hbody, decodeAsciiBlob_blobBody hascii hprinted]
  have hbyte : ∀ frame : Xbpi.XbpiFrame, frame.body = [Xbpi.toByte a.sbn] →
      (Except.ok ((frame.body.headD 0).toNat : Int) : Except Exc Int) = .ok a.sbn := by
    intro frame hbody
    rw [hbody, List.headD_cons, Xbpi.toByte_toNat ha.sbn.1 ha.sbn.2]
  obtain ⟨h₁, hrun₁, hr₁⟩ := execute_answered hr hframes Commands.READ_MODEL () rfl rfl ⟨rfl, rfl⟩
    (encodes_noArgs 0x02 rfl _) rfl ha.model.2 (by decide) (fun frame _ => htext ha.model.1 hmodel frame)
  obtain ⟨h₂, hrun₂, hr₂⟩ := execute_answered hr₁ hframes Commands.READ_MANUFACTURER () rfl rfl ⟨rfl, rfl⟩
    (encodes_noArgs 0x07 rfl _) rfl ha.manufacturer.2 (by decide)
    (fun frame _ => htext ha.manufacturer.1 hmanufacturer frame)
  obtain ⟨h₃, hrun₃, hr₃⟩ := execute_answered hr₂ hframes Commands.READ_SW_VERSION () rfl rfl ⟨rfl, rfl⟩
    (encodes_noArgs 0x00 rfl _) rfl ha.software (by decide) (fun _ _ => congrArg Except.ok)
  obtain ⟨h₄, hrun₄, hr₄⟩ := execute_answered hr₃ hframes Commands.READ_FACTORY_NUMBER () rfl rfl ⟨rfl, rfl⟩
    (encodes_noArgs 0x01 rfl _) rfl ha.factoryNumber (by decide) (fun _ _ => congrArg Except.ok)
  obtain ⟨h₅, hrun₅, hr₅⟩ := execute_answered hr₄ hframes Commands.READ_SBN () rfl rfl ⟨rfl, rfl⟩
    (encodes_noArgs 0x71 rfl _) rfl (by simp) (by decide) (fun frame _ => hbyte frame)
  rw [Balance.identityReads, exec_bind_ok hrun₁, exec_bind_ok hrun₂, exec_bind_ok hrun₃, exec_bind_ok hrun₄,
    exec_bind_ok hrun₅]
  exact ⟨h₅, rfl, hr₅⟩

/-- A request with the argument zero between the default addresses. -/
theorem encodes_oneArg {Resp : Type} {opcode : Int} {data : Bytes}
    (hdata : Xbpi.buildCommand opcode [0x21, 0x00] = .ok data)
    (decode : Xbpi.XbpiFrame → CommandContext → Except Exc Resp) :
    Encodes (Commands.oneArg opcode id decode) 0 data := by
  intro ctx hsrc hdst
  show Commands.lift (Xbpi.buildCommand opcode [0x21, 0x00] ctx.srcSbn ctx.dstSbn) = .ok data
  rw [hsrc, hdst]
  exact congrArg Commands.lift hdata

/-- The script has no reply to the request for the counter. -/
theorem counter_unanswered (ha : Buildable a) (hr : Ready (entries a) h) (hwarnings : h.warnings ≠ .error) :
    ∃ e h', (execute scriptedTransport.toTransport Commands.CONFIG_COUNTER () false none).exec h =
      (.error (.sartorius e), h') ∧ Ready (entries a) h' ∧ h'.warnings = h.warnings := by
  have hdata : Encodes Commands.configCounterVariant () [0x04, 0x01, 0x09, 0xBA, 0xC8] := encodes_noArgs 0xBA rfl _
  exact execute_unanswered hr (entries_frames ha) hwarnings Commands.CONFIG_COUNTER () rfl hdata rfl

/-- It has none to a metrology read either, be it cached or not. -/
theorem metrology_unanswered (ha : Buildable a) (hr : Ready (entries a) h) (hwarnings : h.warnings ≠ .error)
    {command : Command Int Quantity} {variant : XbpiVariant Int Quantity} {data : Bytes}
    (hx : command.xbpi = some variant) (hdata : Encodes variant 0 data) (hsilent : (entries a).get? data = none)
    (cacheKey : String) :
    ∃ h', (Balance.optionalQuantity (Balance.metrologyRead scriptedTransport.toTransport command 0 cacheKey)).exec h =
      (.ok none, h') ∧ Ready (entries a) h' ∧ h'.warnings = h.warnings := by
  obtain ⟨e, h', hcached, hr'⟩ : ∃ e h', (cachedExecute scriptedTransport.toTransport command 0 .quantity cacheKey false
      none).exec h = (.error (.sartorius e), h') ∧ Ready (entries a) h' ∧ h'.warnings = h.warnings := by
    rw [cachedExecute, exec_bind_ok (exec_get h)]
    split_ifs
    · obtain ⟨e, h', hrun, hr'⟩ := counter_unanswered ha hr hwarnings
      exact ⟨e, h', exec_bind_error hrun, hr'⟩
    · obtain ⟨e, h', hrun, hr'⟩ := execute_unanswered hr (entries_frames ha) hwarnings command 0 hx hdata hsilent
      refine ⟨e, h', exec_bind_error ?_, hr'⟩
      rw [exec_map, hrun]
  refine ⟨h', ?_, hr'⟩
  rw [Balance.optionalQuantity, exec_exceptClasses, exec_map, Balance.metrologyRead, exec_bind_error hcached]
  dsimp only
  rw [if_pos (caught_sartoriusError e)]
  rfl

theorem exec_ignoringWarnings {W α : Type} {m : Py (Host W) α} {h h' : Host W} {r : Except Exc α}
    (hrun : m.exec { h with warnings := .ignore } = (r, h')) :
    (ignoringWarnings m).exec h = (r, { h' with warnings := h.warnings }) := by
  rw [ignoringWarnings, exec_ofFun, hrun]

/-- An identification over the script finds the identity that it was made of. -/
theorem identifyXbpi_script (ha : Buildable a) (hmodel : Printed a.model) (hmanufacturer : Printed a.manufacturer)
    (hr : Ready (entries a) h) (settings : SerialSettings) :
    ∃ h', (Balance.identifyXbpi scriptedTransport.toTransport settings).exec h = (.ok (identity a settings), h') ∧
      h'.info = some (identity a settings) ∧ Ready (entries a) h' := by
  obtain ⟨h₁, hreads, hr₁⟩ := identityReads_answered ha hmodel hmanufacturer hr
  obtain ⟨h₂, hprobe, hr₂⟩ : ∃ h', (Balance.probeDispatchCapabilities scriptedTransport.toTransport).exec h₁ =
      (.ok [], h') ∧ Ready (entries a) h' := by
    obtain ⟨e, h', hrun, hr', -⟩ := counter_unanswered ha (hr₁.warnings .ignore) (by simp)
    refine ⟨_, ?_, hr'.warnings h₁.warnings⟩
    rw [Balance.probeDispatchCapabilities, exec_bind_ok (exec_get h₁), if_neg (not_not.mpr hr₁.active)]
    refine exec_ignoringWarnings ?_
    rw [exec_exceptClasses, exec_bind_error hrun]
    dsimp only
    rw [if_pos (caught_sartoriusError e)]
    rfl
  have hmetrology : ∀ {h : Host ScriptedState}, Ready (entries a) h → h.warnings = .ignore →
      ∃ h', (do
          let capacity ← Balance.optionalQuantity (Balance.capacity scriptedTransport.toTransport 0)
          let increment ← Balance.optionalQuantity (Balance.increment scriptedTransport.toTransport 0)
          pure (capacity, increment) : Py (Host ScriptedState) _).exec h = (.ok (none, none), h') ∧
        Ready (entries a) h' := by
    intro h hr hwarnings
    have hcapacity : Encodes (Commands.metrologyVariant 0x0C) 0 [0x06, 0x01, 0x09, 0x0C, 0x21, 0x00, 0x3D] :=
      encodes_oneArg rfl _
    have hincrement : Encodes (Commands.metrologyVariant 0x0D) 0 [0x06, 0x01, 0x09, 0x0D, 0x21, 0x00, 0x3E] :=
      encodes_oneArg rfl _
    have hx : Commands.READ_CAPACITY.xbpi = some (Commands.metrologyVariant 0x0C) := rfl
    have hx' : Commands.READ_INCREMENT.xbpi = some (Commands.metrologyVariant 0x0D) := rfl
    obtain ⟨h', hrun, hr', hw⟩ := metrology_unanswered ha hr (by simp [hwarnings]) hx hcapacity rfl
      s!"capacity:{(0 : Int)}"
    obtain ⟨h'', hrun', hr'', -⟩ := metrology_unanswered ha hr' (by simp [hw, hwarnings]) hx' hincrement rfl
      s!"increment:{(0 : Int)}"
    refine ⟨h'', ?_, hr''⟩
    rw [Balance.capacity, exec_bind_ok hrun, Balance.increment, exec_bind_ok hrun', exec_pure]
  obtain ⟨h₄, hread, hr₄⟩ := hmetrology (h := { h₂ with
    session := h₂.session.updateIdentity (classifyFamily a.model) (familyDefaultCapabilities (classifyFamily a.model)),
    warnings := .ignore }) ⟨hr₂.world, hr₂.active, hr₂.client, hr₂.srcSbn, hr₂.dstSbn, hr₂.operational, hr₂.known⟩
    rfl
  have hunion : ∀ c : Capability, Capability.union c [] = c := fun c => List.append_nil c
  have hquantities := exec_ignoringWarnings (h := { h₂ with
    session := h₂.session.updateIdentity (classifyFamily a.model) (familyDefaultCapabilities (classifyFamily a.model)) })
    hread
  rw [Balance.identifyXbpi_eq, exec_bind_ok hreads, Balance.identityOf, exec_bind_ok hprobe]
  dsimp only
  rw [hunion, modifySession, exec_bind_ok (exec_modify _ _), exec_bind_ok hquantities]
  dsimp only
  rw [exec_bind_ok (exec_get _), exec_bind_ok (exec_modify _ _), exec_pure]
  dsimp only
  rw [hr₄.active]
  exact ⟨_, rfl, rfl, hr₄.world, hr₄.active, hr₄.client, hr₄.srcSbn, hr₄.dstSbn, hr₄.operational, hr₄.known⟩

end Identification

/-! ## The opening -/

/-- A balance that is opened on a script that `build_identify_script` made has the identity of its arguments, with the
family and the capabilities that its model implies, and is left open and ready; no retry was needed. -/
theorem openDevice_identifies {a : IdentifyArgs} {m : Dict Bytes Bytes} (hm : buildIdentifyScript a = .ok m)
    (hmodel : Printed a.model) (hmanufacturer : Printed a.manufacturer) {r : OpenRequest}
    (hprotocol : r.protocol = .xbpi) (hidentify : r.identify = true) (hsrc : r.srcSbn = 0x01) (hdst : r.dstSbn = 0x09)
    {o : Opening ScriptedState} {label : String}
    (hworld : o.host.world = { fake := { label := label }, script := scriptOf m }) :
    ∃ o', (openDevice scriptedTransport r).exec o = (.ok (), o') ∧
      o'.host.info = some (identity a r.settings) ∧ Ready m o'.host ∧ o'.recoverableErrorCount = 0 := by
  obtain ⟨ha, rfl⟩ := buildIdentifyScript_eq_ok hm
  have hopen := exec_ensureOpen_closed (o := o) (by rw [hworld])
  obtain ⟨o₁, hbuild, hsession, hsame, hcount⟩ := exec_buildBalance_xbpi scriptedTransport.toTransport hprotocol
    { o with host := { o.host with world := { o.host.world with fake := { o.host.world.fake with isOpen := true } } } }
  have hr : Ready (entries a) o₁.host := by
    refine ⟨?_, by rw [hsession]; rfl, ⟨_, by rw [hsession]; rfl, rfl⟩, by rw [hsession]; exact hsrc,
      by rw [hsession]; exact hdst, by rw [hsession]; rfl, by rw [hsession]; exact fun _ h => by cases h⟩
    rw [hsame, hworld]
    exact ⟨rfl, rfl, rfl, rfl, rfl⟩
  obtain ⟨h', hrun, hinfo, hr'⟩ := identifyXbpi_script ha hmodel hmanufacturer hr r.settings
  have hidentified : (Balance.identify scriptedTransport.toTransport).exec o₁.host =
      (.ok (identity a r.settings), h') := by
    rw [Balance.identify, exec_bind_ok (exec_get _), hsession]
    exact hrun
  have hattempt : (identifyWithColdOpenRetry scriptedTransport.toTransport coldOpenMaxRetries).exec o₁ =
      (.ok (), { o₁ with host := h', identified := o₁.identified + 1 }) := by
    rw [coldOpenMaxRetries, identifyWithColdOpenRetry, exec_attemptIdentify, hidentified]
  refine ⟨{ o₁ with host := h', identified := o₁.identified + 1 }, ?_, hinfo, hr', hcount⟩
  rw [openDevice, exec_bind_ok hopen, closingOnError, exec_tryCatch, exec_bind_ok hbuild, if_pos hidentify, hattempt]

/-- A balance before it is opened on the script of the defaults. -/
def unopened : Opening ScriptedState where
  host := { world := { script := scriptOf (entries {}) }, session := { active := .xbpi } }

theorem openDevice_identifies_default :
    ∃ o', (openDevice scriptedTransport { settings := { port := "fake://test" } }).exec unopened = (.ok (), o') ∧
      o'.host.info = some (identity {} { port := "fake://test" }) ∧ Ready (entries {}) o'.host ∧
      o'.recoverableErrorCount = 0 :=
  openDevice_identifies (a := {}) (m := entries {}) rfl ⟨rfl, by simp⟩ ⟨rfl, by simp⟩ rfl rfl rfl rfl rfl

end SartoriusLib.Testing
