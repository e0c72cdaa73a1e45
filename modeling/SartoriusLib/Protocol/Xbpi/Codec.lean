import SartoriusLib.Protocol.Xbpi.Framing

/-!
# The grammar of the frames

Both directions of the codec as one grammar: what `buildCommand` assembles and from which inputs, what
`parseFrame` accepts and what it hands back, and that no frame is one byte away from another of its length.
-/

namespace SartoriusLib.Xbpi

open SartoriusLib

/-! ## The checksum -/

theorem checksum_toNat (data : Bytes) : (checksum data).toNat = (data.map UInt8.toNat).sum % 256 := by
  simp [checksum]

theorem checksum_append (a b : Bytes) : checksum (a ++ b) = checksum a + checksum b := by
  apply UInt8.toNat_inj.mp
  rw [UInt8.toNat_add, checksum_toNat, checksum_toNat, checksum_toNat, List.map_append, List.sum_append]
  omega

theorem checksum_singleton (b : UInt8) : checksum [b] = b := by
  apply UInt8.toNat_inj.mp
  rw [checksum_toNat]
  have := UInt8.toNat_lt b
  simp [Nat.mod_eq_of_lt this]

/-- A byte string with the same checksum at every place but one is the same at that place. -/
theorem checksum_byte_inj {pre post : Bytes} {x y : UInt8}
    (h : checksum (pre ++ x :: post) = checksum (pre ++ y :: post)) : x = y := by
  have hsplit : ∀ b, checksum (pre ++ b :: post) = checksum pre + (b + checksum post) := by
    intro b
    rw [checksum_append, ← List.singleton_append, checksum_append, checksum_singleton]
  rw [hsplit, hsplit] at h
  exact UInt8.add_left_inj _ |>.mp (UInt8.add_right_inj _ |>.mp h)

/-! ## Commands -/

/-- The inputs that fit a frame. -/
structure Fits (opcode srcSbn dstSbn : Int) (args : Bytes) : Prop where
  opcode : 0 ≤ opcode ∧ opcode ≤ 255
  srcSbn : 0 ≤ srcSbn ∧ srcSbn ≤ 255
  dstSbn : 0 ≤ dstSbn ∧ dstSbn ≤ 255
  args : args.length ≤ 251

/-- The bytes of a command before its checksum. -/
def commandHead (opcode srcSbn dstSbn : Int) (args : Bytes) : Bytes :=
  UInt8.ofNat (args.length + 4) :: toByte srcSbn :: toByte dstSbn :: toByte opcode :: args

variable {opcode srcSbn dstSbn opcode' srcSbn' dstSbn' : Int} {args args' frame : Bytes}

theorem buildCommand_of_fits (h : Fits opcode srcSbn dstSbn args) :
    buildCommand opcode args srcSbn dstSbn =
      .ok (commandHead opcode srcSbn dstSbn args ++ [checksum (commandHead opcode srcSbn dstSbn args)]) := by
  have hargs := h.args
  have hlen : ¬ (args.length + 1 + 1 + 1 + 1 > maxLength) := by rw [maxLength]; omega
  simp only [buildCommand, requireByte_ok h.opcode, requireByte_ok h.srcSbn, requireByte_ok h.dstSbn, bind,
    Except.bind, List.cons_append, List.nil_append, List.length_cons, if_neg hlen, commandHead]

theorem fits_of_buildCommand (h : buildCommand opcode args srcSbn dstSbn = .ok frame) :
    Fits opcode srcSbn dstSbn args := by
  obtain ⟨hop, hsrc, hdst, hargs, -⟩ := buildCommand_eq_ok h
  exact ⟨hop, hsrc, hdst, hargs⟩

/-- A command says its length in its first byte and its sum in its last. -/
theorem commandHead_framed (h : Fits opcode srcSbn dstSbn args) :
    ∃ first mid, commandHead opcode srcSbn dstSbn args = first :: mid ∧ first.toNat = mid.length + 1 := by
  have hargs := h.args
  refine ⟨_, _, rfl, ?_⟩
  simp only [List.length_cons, UInt8.toNat_ofNat']
  omega

theorem toByte_inj {a b : Int} (ha : 0 ≤ a ∧ a ≤ 255) (hb : 0 ≤ b ∧ b ≤ 255) (h : toByte a = toByte b) :
    a = b := by
  rw [← toByte_toNat ha.1 ha.2, ← toByte_toNat hb.1 hb.2, h]

/-- Different inputs make different frames. -/
theorem buildCommand_inj (h : buildCommand opcode args srcSbn dstSbn = .ok frame)
    (h' : buildCommand opcode' args' srcSbn' dstSbn' = .ok frame) :
    opcode = opcode' ∧ args = args' ∧ srcSbn = srcSbn' ∧ dstSbn = dstSbn' := by
  have hf := fits_of_buildCommand h
  have hf' := fits_of_buildCommand h'
  rw [buildCommand_of_fits hf, Except.ok.injEq] at h
  rw [buildCommand_of_fits hf', Except.ok.injEq] at h'
  have heq := congrArg List.dropLast (h.trans h'.symm)
  rw [List.dropLast_concat, List.dropLast_concat, commandHead, commandHead] at heq
  injection heq with _ heq
  injection heq with hsrc heq
  injection heq with hdst heq
  injection heq with hop hargs
  exact ⟨toByte_inj hf.opcode hf'.opcode hop, hargs, toByte_inj hf.srcSbn hf'.srcSbn hsrc,
    toByte_inj hf.dstSbn hf'.dstSbn hdst⟩

/-- Any other input is a framing error. -/
theorem buildCommand_of_not_fits (h : ¬ Fits opcode srcSbn dstSbn args) :
    ∃ e, buildCommand opcode args srcSbn dstSbn = .error e ∧ e.cls = .frameError := by
  cases hbuild : buildCommand opcode args srcSbn dstSbn with
  | ok frame => exact absurd (fits_of_buildCommand hbuild) h
  | error e => exact ⟨e, rfl, buildCommand_error hbuild⟩

/-! ## Replies -/

/-- Length, marker, subtype, body and the sum of what comes before. -/
def Layout (data : Bytes) (subtype : UInt8) (body : Bytes) : Prop :=
  ∃ length chk, data = length :: rxMarker :: subtype :: (body ++ [chk]) ∧ length.toNat + 1 = data.length ∧
    chk.toNat = ((length :: rxMarker :: subtype :: body).map UInt8.toNat).sum % 256

variable {data : Bytes}

/-- A frame is its first three bytes, its body and its last byte. -/
theorem IsFrame.split (h : IsFrame data) :
    ∃ length subtype body, data = length :: rxMarker :: subtype :: (body ++ [data.getLastD 0]) := by
  have hsize := h.size
  have hmarked := h.marked
  match data with
  | [] | [_] | [_, _] | [_, _, _] => simp [minFrameSize] at hsize
  | length :: marker :: subtype :: x :: rest =>
      obtain rfl : marker = rxMarker := hmarked
      obtain ⟨body, chk, hrest⟩ := List.eq_nil_or_concat (x :: rest) |>.resolve_left (by simp)
      refine ⟨length, subtype, body, ?_⟩
      rw [hrest, List.concat_eq_append, ← List.cons_append, ← List.cons_append, ← List.cons_append,
        List.getLastD_concat]
      simp only [List.cons_append]

theorem IsFrame.layout (h : IsFrame data) : Layout data (frameOf data).subtype (frameOf data).body := by
  obtain ⟨length, subtype, body, hdata⟩ := h.split
  have hdeclared := h.declared
  have hsummed := h.summed
  rw [hdata] at hdeclared
  have hbody : (frameOf data).body = body := by
    rw [hdata]
    simp [frameOf]
  have hsubtype : (frameOf data).subtype = subtype := by
    rw [hdata]
    rfl
  have hinit : data.dropLast = length :: rxMarker :: subtype :: body := by
    rw [hdata, ← List.cons_append, ← List.cons_append, ← List.cons_append, List.dropLast_concat]
  rw [hinit] at hsummed
  refine ⟨length, data.getLastD 0, by rw [hsubtype, hbody]; exact hdata, ?_, ?_⟩
  · rw [hdata]
    simpa using hdeclared.symm
  · rw [hsubtype, hbody, hsummed, checksum_toNat]

theorem Layout.isFrame {subtype : UInt8} {body : Bytes} (h : Layout data subtype body) : IsFrame data := by
  obtain ⟨length, chk, rfl, hlength, hchk⟩ := h
  refine ⟨by simp [minFrameSize], by simpa using hlength.symm, rfl, ?_⟩
  rw [← List.cons_append, ← List.cons_append, ← List.cons_append, List.getLastD_concat, List.dropLast_concat]
  exact UInt8.toNat_inj.mp (hchk.trans (checksum_toNat _).symm)

/-- The frames are the byte strings with the documented layout. -/
theorem isFrame_iff_layout : IsFrame data ↔ ∃ subtype body, Layout data subtype body :=
  ⟨fun h => ⟨_, _, h.layout⟩, fun ⟨_, _, h⟩ => h.isFrame⟩

/-- The parts of a frame make the frame. -/
theorem IsFrame.reassemble (h : IsFrame data) :
    assembleFrame (frameOf data).subtype (frameOf data).body = data := by
  obtain ⟨length, chk, hdata, hlength, hchk⟩ := h.layout
  have hfirst : UInt8.ofNat ((frameOf data).body.length + 3) = length := by
    apply UInt8.toNat_inj.mp
    have hlen := congrArg List.length hdata
    have := UInt8.toNat_lt length
    simp only [List.length_cons, List.length_append, List.length_nil] at hlen
    rw [UInt8.toNat_ofNat']
    omega
  have hlast : checksum (length :: rxMarker :: (frameOf data).subtype :: (frameOf data).body) = chk :=
    UInt8.toNat_inj.mp ((checksum_toNat _).trans hchk.symm)
  simp only [assembleFrame, hfirst, hlast]
  exact hdata.symm

/-! ## One byte changed -/

/-- Two frames that agree everywhere but at one place agree there. -/
theorem IsFrame.byte_inj {pre post : Bytes} {x y : UInt8} (h : IsFrame (pre ++ x :: post))
    (h' : IsFrame (pre ++ y :: post)) : x = y := by
  cases pre with
  | nil =>
      -- the length byte
      have hx := h.declared
      have hy := h'.declared
      simp only [List.nil_append, List.length_cons, List.getD_cons_zero] at hx hy
      exact UInt8.toNat_inj.mp (by omega)
  | cons p pre =>
      have hx := h.summed
      have hy := h'.summed
      rcases List.eq_nil_or_concat post with rfl | ⟨mid, z, rfl⟩
      · -- the checksum
        rw [List.getLastD_concat, List.dropLast_concat] at hx hy
        exact hx.trans hy.symm
      · rw [List.concat_eq_append, ← List.cons_append, ← List.append_assoc, List.getLastD_concat,
          List.dropLast_concat] at hx hy
        exact checksum_byte_inj (hx.symm.trans hy)

/-- A frame in which one byte was changed is no frame. -/
theorem IsFrame.not_set {i : Nat} {b : UInt8} (h : IsFrame data) (hi : i < data.length) (hb : b ≠ data[i]) :
    ¬ IsFrame (data.set i b) := by
  intro h'
  have hsplit : data = data.take i ++ data[i] :: data.drop (i + 1) := by
    rw [← List.drop_eq_getElem_cons hi, List.take_append_drop]
  rw [hsplit] at h
  rw [List.set_eq_take_append_cons_drop, if_pos hi] at h'
  exact hb (h'.byte_inj h)

theorem parseFrame_of_not_isFrame (h : ¬ IsFrame data) : ∃ e, parseFrame data = .error e := by
  cases hparse : parseFrame data with
  | ok f => exact absurd (parseFrame_eq_ok_iff.mp hparse).1 h
  | error e => exact ⟨e, rfl⟩

/-- The frame codec: which inputs make a command and how it is laid out, which byte strings are accepted as a
reply, and that a change of one byte is noticed. -/
theorem frameCodec :
    ((∀ opcode srcSbn dstSbn args, Fits opcode srcSbn dstSbn args → ∃ first mid last,
        buildCommand opcode args srcSbn dstSbn = .ok (first :: (mid ++ [last])) ∧
        first.toNat + 1 = (first :: (mid ++ [last])).length ∧
        last.toNat = ((first :: mid).map UInt8.toNat).sum % 256) ∧
      (∀ opcode srcSbn dstSbn args opcode' srcSbn' dstSbn' args' frame,
        buildCommand opcode args srcSbn dstSbn = .ok frame →
        buildCommand opcode' args' srcSbn' dstSbn' = .ok frame →
        opcode = opcode' ∧ args = args' ∧ srcSbn = srcSbn' ∧ dstSbn = dstSbn') ∧
      (∀ opcode srcSbn dstSbn args, ¬ Fits opcode srcSbn dstSbn args →
        ∃ e, buildCommand opcode args srcSbn dstSbn = .error e ∧ e.cls = .frameError)) ∧
    ((∀ data, (∃ f, parseFrame data = .ok f) ↔ 4 ≤ data.length ∧ ∃ subtype body, Layout data subtype body) ∧
      (∀ data f, parseFrame data = .ok f → f.marker = rxMarker ∧ Layout data f.subtype f.body ∧
        assembleFrame f.subtype f.body = data)) ∧
    (∀ data f, parseFrame data = .ok f → ∀ i b, ∀ hi : i < data.length, b ≠ data[i] →
      ∃ e, parseFrame (data.set i b) = .error e) := by
  refine ⟨⟨?_, ?_, ?_⟩, ⟨?_, ?_⟩, ?_⟩
  · intro opcode srcSbn dstSbn args h
    obtain ⟨first, mid, hhead, hfirst⟩ := commandHead_framed h
    refine ⟨first, mid, checksum (first :: mid), ?_, ?_, checksum_toNat _⟩
    · rw [buildCommand_of_fits h, hhead, List.cons_append]
    · simp [hfirst]
  · intro opcode srcSbn dstSbn args opcode' srcSbn' dstSbn' args' frame h h'
    exact buildCommand_inj h h'
  · intro opcode srcSbn dstSbn args h
    exact buildCommand_of_not_fits h
  · intro data
    constructor
    · rintro ⟨f, hf⟩
      have hframe := (parseFrame_eq_ok_iff.mp hf).1
      exact ⟨hframe.size, isFrame_iff_layout.mp hframe⟩
    · rintro ⟨-, hlayout⟩
      exact ⟨frameOf data, parseFrame_eq_ok_iff.mpr ⟨isFrame_iff_layout.mpr hlayout, rfl⟩⟩
  · intro data f hf
    obtain ⟨hframe, rfl⟩ := parseFrame_eq_ok_iff.mp hf
    exact ⟨hframe.marked, hframe.layout, hframe.reassemble⟩
  · intro data f hf i b hi hb
    exact parseFrame_of_not_isFrame ((parseFrame_eq_ok_iff.mp hf).1.not_set hi hb)

end SartoriusLib.Xbpi
