import Mathlib.Algebra.Ring.Nat
import SartoriusLib.Text

/-!
# xBPI frame codec

`buildCommand` assembles a host to balance frame, `parseFrame` validates and decomposes a balance to host
frame. The length byte counts every byte after it, the checksum included.
-/

namespace SartoriusLib.Xbpi

open SartoriusLib

def hostSbnDefault : Int := 0x01

def balanceSbnDefault : Int := 0x09

/-- Balance to host marker byte. -/
def rxMarker : UInt8 := 0x41

/-- Length, marker, subtype and checksum. -/
def minFrameSize : Nat := 4

def maxLength : Nat := 0xFF

def maxByte : Int := 0xFF

/-- A validated balance to host frame. -/
structure XbpiFrame where
  length : Nat
  marker : UInt8
  subtype : UInt8
  body : Bytes
  checksum : UInt8
  raw : Bytes
  deriving DecidableEq, Repr

/-- `sum(data) & 0xFF`. -/
def checksum (data : Bytes) : UInt8 := UInt8.ofNat ((data.map UInt8.toNat).sum % 256)

def requireByte (value : Int) (name : String) : Except SartoriusError Unit :=
  if 0 ≤ value ∧ value ≤ maxByte then .ok ()
  else .error
    { cls := .frameError, message := s!"{name} out of range (0..255): {value}",
      context := { extra := [(name, .int value)] } }

/-- The byte of an integer that `requireByte` accepted. -/
def toByte (value : Int) : UInt8 := UInt8.ofNat value.toNat

def buildCommand (opcode : Int) (args : Bytes) (srcSbn : Int := hostSbnDefault)
    (dstSbn : Int := balanceSbnDefault) : Except SartoriusError Bytes := do
  requireByte opcode "opcode"
  requireByte srcSbn "src_sbn"
  requireByte dstSbn "dst_sbn"
  let payload := [toByte srcSbn, toByte dstSbn, toByte opcode] ++ args
  let length := payload.length + 1
  if length > maxLength then
    .error
      { cls := .frameError, message := s!"frame too long: {length + 1} bytes (max 256)",
        context := { opcode := some opcode, extra := [("length", .int length)] } }
  else
    let preChk := UInt8.ofNat length :: payload
    .ok (preChk ++ [checksum preChk])

/-- The underrun of a frame is a transient of the transport, not a framing error: the device drops the
first bytes of a reply while its port settles. -/
def parseFrame (data : Bytes) : Except SartoriusError XbpiFrame :=
  if data.length < minFrameSize then
    .error
      { cls := .transientTransportError,
        message := s!"frame too short: got {data.length} bytes (min {minFrameSize})",
        context := { rawResponse := some data } }
  else
    let length := (data.getD 0 0).toNat
    let expectedTotal := length + 1
    if data.length ≠ expectedTotal then
      .error
        { cls := .frameError,
          message := s!"frame length mismatch: length byte says {expectedTotal} bytes, got {data.length}",
          context := { rawResponse := some data,
                       extra := [("declared_length", .int length), ("buffer_size", .int data.length)] } }
    else
      let marker := data.getD 1 0
      if marker ≠ rxMarker then
        .error
          { cls := .frameError,
            message := s!"bad marker byte 0x{hex02 marker.toNat} (expected 0x{hex02 rxMarker.toNat})",
            context := { rawResponse := some data, extra := [("marker", .int marker.toNat)] } }
      else
        let chk := data.getLastD 0
        let expectedChk := checksum data.dropLast
        if chk ≠ expectedChk then
          .error
            { cls := .frameError,
              message := s!"bad checksum 0x{hex02 chk.toNat} (expected 0x{hex02 expectedChk.toNat})",
              context := { rawResponse := some data,
                           extra := [("checksum", .int chk.toNat),
                                     ("expected_checksum", .int expectedChk.toNat)] } }
        else
          .ok { length, marker, subtype := data.getD 2 0, body := (data.drop 3).dropLast, checksum := chk,
                raw := data }

/-! ## What the codec accepts -/

theorem requireByte_eq_ok {value : Int} {name : String} (h : requireByte value name = .ok ()) :
    0 ≤ value ∧ value ≤ 255 := by
  by_contra hc
  simp [requireByte, maxByte, hc] at h

theorem requireByte_ok {value : Int} {name : String} (h : 0 ≤ value ∧ value ≤ 255) :
    requireByte value name = .ok () :=
  if_pos h

theorem toByte_toNat {value : Int} (h₀ : 0 ≤ value) (h₁ : value ≤ 255) :
    ((toByte value).toNat : Int) = value := by
  have hlt : value.toNat < 256 := by omega
  simp only [toByte, UInt8.toNat_ofNat', Nat.mod_eq_of_lt hlt]
  omega

/-- The arguments of an assembled command fit, and its frame is laid out as documented. -/
theorem buildCommand_eq_ok {opcode srcSbn dstSbn : Int} {args frame : Bytes}
    (h : buildCommand opcode args srcSbn dstSbn = .ok frame) :
    (0 ≤ opcode ∧ opcode ≤ 255) ∧ (0 ≤ srcSbn ∧ srcSbn ≤ 255) ∧ (0 ≤ dstSbn ∧ dstSbn ≤ 255) ∧
      args.length ≤ 251 ∧
      ∃ chk, frame = UInt8.ofNat (args.length + 4) :: toByte srcSbn :: toByte dstSbn :: toByte opcode ::
        (args ++ [chk]) := by
  simp only [buildCommand, bind, Except.bind] at h
  rcases h₁ : requireByte opcode "opcode" with e | ⟨⟩ <;> rw [h₁] at h <;> simp only [reduceCtorEq] at h
  rcases h₂ : requireByte srcSbn "src_sbn" with e | ⟨⟩ <;> rw [h₂] at h <;> simp only [reduceCtorEq] at h
  rcases h₃ : requireByte dstSbn "dst_sbn" with e | ⟨⟩ <;> rw [h₃] at h <;> simp only [reduceCtorEq] at h
  split at h
  · cases h
  · rename_i hlen
    simp only [List.cons_append, List.nil_append, List.length_cons, maxLength] at hlen
    refine ⟨requireByte_eq_ok h₁, requireByte_eq_ok h₂, requireByte_eq_ok h₃, by omega, ?_⟩
    simp only [List.cons_append, List.nil_append, List.length_cons, Except.ok.injEq] at h
    exact ⟨_, h.symm⟩

/-- Byte-sized header fields and short arguments make a frame. -/
theorem buildCommand_fits (args : Bytes) {opcode srcSbn dstSbn : Int} (hop : 0 ≤ opcode ∧ opcode ≤ 255)
    (hsrc : 0 ≤ srcSbn ∧ srcSbn ≤ 255) (hdst : 0 ≤ dstSbn ∧ dstSbn ≤ 255) (hargs : args.length ≤ 251) :
    ∃ frame, buildCommand opcode args srcSbn dstSbn = .ok frame := by
  have hlen : ¬ (args.length + 1 + 1 + 1 + 1 > maxLength) := by rw [maxLength]; omega
  simp only [buildCommand, requireByte_ok hop, requireByte_ok hsrc, requireByte_ok hdst, bind, Except.bind,
    List.cons_append, List.nil_append, List.length_cons, if_neg hlen]
  exact ⟨_, rfl⟩

/-- The codec refuses with a framing error only. -/
theorem buildCommand_error {opcode srcSbn dstSbn : Int} {args : Bytes} {e : SartoriusError}
    (h : buildCommand opcode args srcSbn dstSbn = .error e) : e.cls = .frameError := by
  simp only [buildCommand, requireByte, bind, Except.bind] at h
  split_ifs at h <;> cases h <;> rfl

/-- The opcode byte of a command frame. -/
theorem buildCommand_opcode {opcode srcSbn dstSbn : Int} {args frame : Bytes}
    (h : buildCommand opcode args srcSbn dstSbn = .ok frame) : frame[3]? = some (toByte opcode) := by
  obtain ⟨-, -, -, -, chk, rfl⟩ := buildCommand_eq_ok h
  rfl

/-- A frame too short to have a body raises the transient, any other bad frame a framing error. -/
theorem parseFrame_error {data : Bytes} {e : SartoriusError} (h : parseFrame data = .error e) :
    e.cls = if data.length < minFrameSize then .transientTransportError else .frameError := by
  unfold parseFrame at h
  dsimp only at h
  split_ifs at h with h₀ h₁ h₂ h₃ <;> cases h <;> simp [h₀]

/-- What a byte string must be to be accepted as a frame. -/
structure IsFrame (data : Bytes) : Prop where
  size : minFrameSize ≤ data.length
  declared : data.length = (data.getD 0 0).toNat + 1
  marked : data.getD 1 0 = rxMarker
  summed : data.getLastD 0 = checksum data.dropLast

/-- Two frames at the front of the same bytes are the same. -/
theorem IsFrame.eq_of_prefix {a b c d : Bytes} (ha : IsFrame a) (hb : IsFrame b) (h : a ++ c = b ++ d) :
    a = b ∧ c = d := by
  have hhead : a.getD 0 0 = b.getD 0 0 := by
    have hap : 0 < a.length := Nat.lt_of_lt_of_le (by decide) ha.size
    have hbp : 0 < b.length := Nat.lt_of_lt_of_le (by decide) hb.size
    have hget := congrArg (fun l : Bytes => l.getD 0 0) h
    simpa [List.getD_eq_getElem?_getD, List.getElem?_append_left hap, List.getElem?_append_left hbp]
      using hget
  exact List.append_inj h (by rw [ha.declared, hb.declared, hhead])

/-- The parts of an accepted frame. -/
def frameOf (data : Bytes) : XbpiFrame :=
  { length := (data.getD 0 0).toNat, marker := data.getD 1 0, subtype := data.getD 2 0,
    body := (data.drop 3).dropLast, checksum := data.getLastD 0, raw := data }

theorem parseFrame_eq_ok_iff {data : Bytes} {f : XbpiFrame} :
    parseFrame data = .ok f ↔ IsFrame data ∧ f = frameOf data := by
  unfold parseFrame
  dsimp only
  split_ifs with h₀ h₁ h₂ h₃
  · simp only [false_iff]
    exact fun h => absurd h.1.size (by omega)
  · simp only [false_iff]
    exact fun h => h₁ h.1.declared
  · simp only [false_iff]
    exact fun h => h₂ h.1.marked
  · simp only [false_iff]
    exact fun h => h₃ h.1.summed
  · simp only [Except.ok.injEq]
    exact ⟨fun h => ⟨⟨by omega, not_not.mp h₁, not_not.mp h₂, not_not.mp h₃⟩, h.symm⟩,
      fun h => h.2.symm⟩

theorem checksum_getLastD (pre : Bytes) :
    (pre ++ [checksum pre]).getLastD 0 = checksum (pre ++ [checksum pre]).dropLast := by
  rw [List.dropLast_concat, List.getLastD_concat]

/-- The balance to host frame with a subtype and a body. -/
def assembleFrame (subtype : UInt8) (body : Bytes) : Bytes :=
  let pre := UInt8.ofNat (body.length + 3) :: rxMarker :: subtype :: body
  pre ++ [checksum pre]

theorem assembleFrame_length (subtype : UInt8) (body : Bytes) :
    (assembleFrame subtype body).length = body.length + 4 := by
  simp [assembleFrame]

theorem assembleFrame_isFrame (subtype : UInt8) {body : Bytes} (h : body.length ≤ 252) :
    IsFrame (assembleFrame subtype body) where
  size := by rw [assembleFrame_length]; simp [minFrameSize]
  declared := by
    rw [assembleFrame_length]
    simp [assembleFrame, Nat.mod_eq_of_lt (show body.length + 3 < 256 by omega)]
  marked := rfl
  summed := checksum_getLastD _

theorem parseFrame_assembleFrame (subtype : UInt8) {body : Bytes} (h : body.length ≤ 252) :
    parseFrame (assembleFrame subtype body) = .ok (frameOf (assembleFrame subtype body)) :=
  parseFrame_eq_ok_iff.mpr ⟨assembleFrame_isFrame subtype h, rfl⟩

@[simp] theorem frameOf_assembleFrame_subtype (subtype : UInt8) (body : Bytes) :
    (frameOf (assembleFrame subtype body)).subtype = subtype := rfl

@[simp] theorem frameOf_assembleFrame_body (subtype : UInt8) (body : Bytes) :
    (frameOf (assembleFrame subtype body)).body = body := by
  simp [frameOf, assembleFrame]

end SartoriusLib.Xbpi
