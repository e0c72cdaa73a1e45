import Mathlib.Algebra.Ring.Nat
import SartoriusLib.Text

/-!
# xBPI TLV records

Request arguments and parts of reply bodies are tag-length-value records; the tag determines the size of
the value.
-/

namespace SartoriusLib.Xbpi

open SartoriusLib

/-- `TLV_TAG_SIZES`: the known tags with the size of their value. -/
def tlvTagSizes : Nat → Option Nat
  | 0x11 => some 1
  | 0x12 => some 2
  | 0x14 => some 4
  | 0x21 => some 1
  | 0x22 => some 2
  | 0x24 => some 4
  | _ => none

/-- The value of a record to encode. -/
inductive TlvValue where
  | int (n : Int)
  | bytes (b : Bytes)
  deriving DecidableEq, Repr

def encodeTlv (tag : Nat) (value : TlvValue) : Except SartoriusError Bytes :=
  match tlvTagSizes tag with
  | none =>
      .error { cls := .frameError, message := s!"unknown TLV tag 0x{hex02 tag}",
               context := { extra := [("tag", .int tag)] } }
  | some size =>
      match value with
      | .int n =>
          if n < 0 then
            .error { cls := .frameError, message := s!"TLV value must be non-negative (got {n})",
                     context := { extra := [("tag", .int tag), ("value", .int n)] } }
          else if 256 ^ size ≤ n.toNat then
            .error { cls := .frameError,
                     message := s!"TLV value {n} does not fit in {size} byte(s) for tag 0x{hex02 tag}",
                     context := { extra := [("tag", .int tag), ("value", .int n)] } }
          else .ok (UInt8.ofNat tag :: Bytes.ofNatBE size n.toNat)
      | .bytes b =>
          if b.length ≠ size then
            .error { cls := .frameError,
                     message := s!"TLV value for tag 0x{hex02 tag} must be {size} byte(s), got {b.length}",
                     context := { extra := [("tag", .int tag), ("value_len", .int b.length)] } }
          else .ok (UInt8.ofNat tag :: b)

/-- The record at `offset`: its tag, its value and the offset after it. -/
def decodeTlv (data : Bytes) (offset : Nat) : Except SartoriusError (UInt8 × Bytes × Nat) :=
  if data.length ≤ offset then
    .error { cls := .frameError, message := "TLV sequence truncated at tag position",
             context := { extra := [("offset", .int offset), ("total", .int data.length)] } }
  else
    let tag := data.getD offset 0
    match tlvTagSizes tag.toNat with
    | none =>
        .error { cls := .frameError, message := s!"unknown TLV tag 0x{hex02 tag.toNat} at offset {offset}",
                 context := { extra := [("tag", .int tag.toNat), ("offset", .int offset)] } }
    | some size =>
        let valueStart := offset + 1
        let valueEnd := valueStart + size
        if data.length < valueEnd then
          .error { cls := .frameError,
                   message := s!"TLV value for tag 0x{hex02 tag.toNat} truncated (needed {size} bytes, have {data.length - valueStart})",
                   context := { extra := [("tag", .int tag.toNat), ("offset", .int offset)] } }
        else .ok (tag, (data.drop valueStart).take size, valueEnd)

/-- The loop of `parse_tlv_sequence`, which each record leaves nearer to the end of the body. -/
def parseTlvLoop (body : Bytes) : Nat → Nat → Except SartoriusError (List (UInt8 × Bytes))
  | 0, _ => .ok []
  | fuel + 1, offset =>
      if offset < body.length then
        match decodeTlv body offset with
        | .error e => .error e
        | .ok (tag, value, offset) => (parseTlvLoop body fuel offset).map ((tag, value) :: ·)
      else .ok []

/-- One round of the loop for each byte is enough: every record has a tag byte. -/
def parseTlvSequence (body : Bytes) : Except SartoriusError (List (UInt8 × Bytes)) :=
  parseTlvLoop body body.length 0

/-- `tlv_value_as_int`. -/
def tlvValueAsInt (value : Bytes) : Nat := Bytes.toNatBE value

/-! ## Records of the declared sizes -/

/-- A record whose value has the size of its tag. -/
def IsRecord (r : UInt8 × Bytes) : Prop := tlvTagSizes r.1.toNat = some r.2.length

/-- The concatenation of records. -/
def concatRecords (rs : List (UInt8 × Bytes)) : Bytes := rs.flatMap fun r => r.1 :: r.2

@[simp] theorem concatRecords_nil : concatRecords [] = [] := rfl

theorem concatRecords_cons (r : UInt8 × Bytes) (rs : List (UInt8 × Bytes)) :
    concatRecords (r :: rs) = r.1 :: (r.2 ++ concatRecords rs) := rfl

theorem decodeTlv_record {r : UInt8 × Bytes} (h : IsRecord r) (pre rest : Bytes) :
    decodeTlv (pre ++ r.1 :: (r.2 ++ rest)) pre.length =
      .ok (r.1, r.2, pre.length + 1 + r.2.length) := by
  have htag : (pre ++ r.1 :: (r.2 ++ rest)).getD pre.length 0 = r.1 := by
    simp [List.getD_eq_getElem?_getD]
  unfold decodeTlv
  rw [if_neg (by simp)]
  simp only [htag, show tlvTagSizes r.1.toNat = some r.2.length from h]
  rw [if_neg (by simp; omega)]
  simp [List.drop_append, List.drop_eq_nil_of_le]

theorem parseTlvLoop_records {rs : List (UInt8 × Bytes)} (h : ∀ r ∈ rs, IsRecord r) (pre : Bytes) :
    ∀ fuel, (concatRecords rs).length ≤ fuel →
      parseTlvLoop (pre ++ concatRecords rs) fuel pre.length = .ok rs := by
  induction rs generalizing pre with
  | nil => intro fuel _; cases fuel <;> simp [parseTlvLoop]
  | cons r rs ih =>
      intro fuel hfuel
      rw [concatRecords_cons] at hfuel ⊢
      cases fuel with
      | zero => simp at hfuel
      | succ fuel =>
          have hsplit : pre ++ r.1 :: (r.2 ++ concatRecords rs) =
              (pre ++ r.1 :: r.2) ++ concatRecords rs := by simp
          have hlen : pre.length + 1 + r.2.length = (pre ++ r.1 :: r.2).length := by simp; omega
          have htail := ih (fun r' hr' => h r' (List.mem_cons_of_mem _ hr')) (pre ++ r.1 :: r.2) fuel
            (by simp only [List.length_cons, List.length_append] at hfuel; omega)
          simp only [parseTlvLoop, decodeTlv_record (h r List.mem_cons_self)]
          rw [if_pos (by simp), hlen, hsplit, htail]
          rfl

/-- A body of whole records is read back as these records. -/
theorem parseTlvSequence_concatRecords {rs : List (UInt8 × Bytes)} (h : ∀ r ∈ rs, IsRecord r) :
    parseTlvSequence (concatRecords rs) = .ok rs :=
  parseTlvLoop_records h [] _ (Nat.le_refl _)

theorem ofNatBE_length (size n : Nat) : (Bytes.ofNatBE size n).length = size := by
  induction size generalizing n with
  | zero => rfl
  | succ size ih => simp [Bytes.ofNatBE, ih]

/-- A one-byte argument record. -/
theorem encodeTlv_u8 {n : Int} {out : Bytes} (h : encodeTlv 0x21 (.int n) = .ok out) :
    (0 ≤ n ∧ n ≤ 255) ∧ out = [0x21, UInt8.ofNat n.toNat] := by
  simp only [encodeTlv, tlvTagSizes] at h
  split_ifs at h with h₀ h₁
  refine ⟨by omega, ?_⟩
  have hlt : n.toNat < 256 := by omega
  cases h
  simp [Bytes.ofNatBE, Nat.mod_eq_of_lt hlt]

/-- A value that fits into a byte has a one-byte encoding. -/
theorem encodeTlv_u8_fits {n : Int} (h : 0 ≤ n ∧ n ≤ 255) :
    encodeTlv 0x21 (.int n) = .ok [0x21, UInt8.ofNat n.toNat] := by
  have hneg : ¬ n < 0 := by omega
  have hbig : ¬ 256 ^ 1 ≤ n.toNat := by omega
  have hlt : n.toNat < 256 := by omega
  rw [encodeTlv]
  simp only [tlvTagSizes]
  rw [if_neg hneg, if_neg hbig]
  simp [Bytes.ofNatBE, Nat.mod_eq_of_lt hlt]

/-! ## The bodies that are read -/

/-- A record that is read has the size of its tag, and the offset after it is further on. -/
theorem decodeTlv_eq_ok {data value : Bytes} {offset next : Nat} {tag : UInt8}
    (h : decodeTlv data offset = .ok (tag, value, next)) :
    IsRecord (tag, value) ∧ next = offset + 1 + value.length ∧ next ≤ data.length ∧
      data.drop offset = tag :: (value ++ data.drop next) := by
  unfold decodeTlv at h
  split_ifs at h with hoffset
  rcases hsize : tlvTagSizes (data.getD offset 0).toNat with _ | size <;> simp only [hsize] at h
  · cases h
  · split_ifs at h with hend
    simp only [Except.ok.injEq, Prod.mk.injEq] at h
    obtain ⟨rfl, rfl, rfl⟩ := h
    have hlt : offset < data.length := by omega
    have hlength : ((data.drop (offset + 1)).take size).length = size := by
      rw [List.length_take, List.length_drop]
      omega
    refine ⟨by rw [IsRecord, hlength, hsize], by rw [hlength], by omega, ?_⟩
    have hvalue : (data.drop (offset + 1)).take size ++ data.drop (offset + 1 + size) = data.drop (offset + 1) := by
      rw [← List.drop_drop (i := size), List.take_append_drop]
    rw [List.drop_eq_getElem_cons hlt, ← List.getElem_eq_getD (h := hlt) 0, hvalue]

theorem decodeTlv_error {data : Bytes} {offset : Nat} {e : SartoriusError}
    (h : decodeTlv data offset = .error e) : e.cls = .frameError := by
  unfold decodeTlv at h
  split_ifs at h
  · cases h
    rfl
  · dsimp only at h
    split at h
    · cases h
      rfl
    · split_ifs at h
      cases h
      rfl

/-- The loop `while offset < len(body)` ends with an outcome. -/
inductive LoopEnds (body : Bytes) : Nat → Except SartoriusError (List (UInt8 × Bytes)) → Prop where
  | done {offset : Nat} (h : ¬ offset < body.length) : LoopEnds body offset (.ok [])
  | raised {offset : Nat} {e : SartoriusError} (h : offset < body.length)
      (hdecode : decodeTlv body offset = .error e) : LoopEnds body offset (.error e)
  | round {offset next : Nat} {tag : UInt8} {value : Bytes}
      {outcome : Except SartoriusError (List (UInt8 × Bytes))} (h : offset < body.length)
      (hdecode : decodeTlv body offset = .ok (tag, value, next)) (hrest : LoopEnds body next outcome) :
      LoopEnds body offset (outcome.map ((tag, value) :: ·))

/-- With a round for each byte that is left the loop ends. -/
theorem parseTlvLoop_ends (body : Bytes) (fuel : Nat) :
    ∀ offset, body.length ≤ fuel + offset → LoopEnds body offset (parseTlvLoop body fuel offset) := by
  induction fuel with
  | zero => exact fun offset h => .done (by omega)
  | succ fuel ih =>
      intro offset h
      unfold parseTlvLoop
      split
      · rename_i hlt
        cases hdecode : decodeTlv body offset with
        | error e => exact .raised hlt hdecode
        | ok r =>
            obtain ⟨tag, value, next⟩ := r
            have hnext := (decodeTlv_eq_ok hdecode).2.1
            exact .round hlt hdecode (ih next (by omega))
      · exact .done ‹_›

/-- The records of an outcome are what the body holds from the offset on. -/
def Holds (body : Bytes) (offset : Nat) : Except SartoriusError (List (UInt8 × Bytes)) → Prop
  | .ok rs => (∀ r ∈ rs, IsRecord r) ∧ concatRecords rs = body.drop offset
  | .error e => e.cls = .frameError

theorem LoopEnds.holds {body : Bytes} {offset : Nat} {outcome : Except SartoriusError (List (UInt8 × Bytes))}
    (h : LoopEnds body offset outcome) : Holds body offset outcome := by
  induction h with
  | done h =>
      refine ⟨fun r hr => (List.not_mem_nil hr).elim, ?_⟩
      rw [List.drop_eq_nil_of_le (by omega)]
      rfl
  | raised h hdecode => exact decodeTlv_error hdecode
  | round h hdecode hrest ih =>
      rename_i outcome
      obtain ⟨hrecord, -, -, hdrop⟩ := decodeTlv_eq_ok hdecode
      cases outcome with
      | error e => exact ih
      | ok rs =>
          obtain ⟨hrs, hconcat⟩ := ih
          refine ⟨?_, ?_⟩
          · intro r hr
            rcases List.mem_cons.mp hr with rfl | hr
            · exact hrecord
            · exact hrs r hr
          · rw [concatRecords_cons, hconcat, hdrop]

theorem parseTlvSequence_ends (body : Bytes) : LoopEnds body 0 (parseTlvSequence body) :=
  parseTlvLoop_ends body body.length 0 (by omega)

/-- A body that is read is the concatenation of its records. -/
theorem parseTlvSequence_eq_ok {body : Bytes} {rs : List (UInt8 × Bytes)} (h : parseTlvSequence body = .ok rs) :
    (∀ r ∈ rs, IsRecord r) ∧ concatRecords rs = body := by
  have hrecords := (parseTlvSequence_ends body).holds
  rw [h] at hrecords
  exact hrecords

theorem parseTlvSequence_error {body : Bytes} {e : SartoriusError} (h : parseTlvSequence body = .error e) :
    e.cls = .frameError := by
  have hrecords := (parseTlvSequence_ends body).holds
  rw [h] at hrecords
  exact hrecords

/-- The bodies that are refused are those that are no concatenation of records. -/
theorem parseTlvSequence_error_iff {body : Bytes} :
    (∃ e, parseTlvSequence body = .error e) ↔
      ¬ ∃ rs : List (UInt8 × Bytes), (∀ r ∈ rs, IsRecord r) ∧ concatRecords rs = body := by
  constructor
  · rintro ⟨e, he⟩ ⟨rs, hrs, rfl⟩
    rw [parseTlvSequence_concatRecords hrs] at he
    cases he
  · intro hno
    cases hparse : parseTlvSequence body with
    | ok rs => exact absurd ⟨rs, parseTlvSequence_eq_ok hparse⟩ hno
    | error e => exact ⟨e, rfl⟩

/-! ## Both directions -/

/-- `encode_tlv` of each record, concatenated. -/
def encodeRecords : List (UInt8 × Bytes) → Except SartoriusError Bytes
  | [] => .ok []
  | r :: rs =>
      match encodeTlv r.1.toNat (.bytes r.2) with
      | .error e => .error e
      | .ok out => (encodeRecords rs).map (out ++ ·)

theorem encodeTlv_record {r : UInt8 × Bytes} (h : IsRecord r) :
    encodeTlv r.1.toNat (.bytes r.2) = .ok (r.1 :: r.2) := by
  simp [encodeTlv, show tlvTagSizes r.1.toNat = some r.2.length from h]

theorem encodeRecords_eq {rs : List (UInt8 × Bytes)} (h : ∀ r ∈ rs, IsRecord r) :
    encodeRecords rs = .ok (concatRecords rs) := by
  induction rs with
  | nil => rfl
  | cons r rs ih =>
      rw [encodeRecords, encodeTlv_record (h r List.mem_cons_self),
        ih fun r' hr' => h r' (List.mem_cons_of_mem _ hr')]
      rfl

theorem toNatBE_concat (b : Bytes) (x : UInt8) :
    Bytes.toNatBE (b ++ [x]) = Bytes.toNatBE b * 256 + x.toNat := by
  simp [Bytes.toNatBE]

/-- A number that fits is read back from its bytes. -/
theorem toNatBE_ofNatBE {size n : Nat} (h : n < 256 ^ size) : Bytes.toNatBE (Bytes.ofNatBE size n) = n := by
  induction size generalizing n with
  | zero =>
      have : n = 0 := by simpa using h
      rw [this]
      rfl
  | succ size ih =>
      have hdiv : n / 256 < 256 ^ size := by
        rw [Nat.div_lt_iff_lt_mul (by decide), ← Nat.pow_succ]
        exact h
      rw [Bytes.ofNatBE, toNatBE_concat, ih hdiv, UInt8.toNat_ofNat']
      omega

theorem tlvTagSizes_byte {tag size : Nat} (h : tlvTagSizes tag = some size) :
    tlvTagSizes (UInt8.ofNat tag).toNat = some size := by
  unfold tlvTagSizes at h
  split at h <;> first | exact h | cases h

/-- The numbers that a known tag can carry, and what is read back of them. -/
theorem encodeTlv_int {tag size : Nat} (hsize : tlvTagSizes tag = some size) (n : Int) :
    ((∃ e, encodeTlv tag (.int n) = .error e) ↔ n < 0 ∨ (256 ^ size : Nat) ≤ n) ∧
      ∀ out, encodeTlv tag (.int n) = .ok out → ∃ value,
        decodeTlv out 0 = .ok (UInt8.ofNat tag, value, out.length) ∧ (tlvValueAsInt value : Int) = n := by
  simp only [encodeTlv, hsize]
  by_cases hneg : n < 0
  · simp [hneg]
  by_cases hbig : 256 ^ size ≤ n.toNat
  · simp only [if_neg hneg, if_pos hbig]
    refine ⟨⟨fun _ => .inr (by omega), fun _ => ⟨_, rfl⟩⟩, ?_⟩
    intro out hout
    cases hout
  · simp only [if_neg hneg, if_neg hbig]
    refine ⟨⟨?_, fun h => ?_⟩, ?_⟩
    · rintro ⟨e, he⟩
      cases he
    · omega
    · intro out hout
      cases hout
      have hrecord : IsRecord (UInt8.ofNat tag, Bytes.ofNatBE size n.toNat) := by
        rw [IsRecord, ofNatBE_length]
        exact tlvTagSizes_byte hsize
      have hdecode := decodeTlv_record hrecord [] []
      simp only [List.nil_append, List.append_nil, List.length_nil] at hdecode
      refine ⟨Bytes.ofNatBE size n.toNat, ?_, ?_⟩
      · rw [hdecode, List.length_cons]
        simp [Nat.add_comm]
      · rw [tlvValueAsInt, toNatBE_ofNatBE (by omega)]
        omega

/-- The record codec: what was encoded is read back, what is read is what was encoded, and nothing else is
read. -/
theorem tlvCodec :
    (∀ rs : List (UInt8 × Bytes), (∀ r ∈ rs, IsRecord r) →
      ∃ body, encodeRecords rs = .ok body ∧ parseTlvSequence body = .ok rs) ∧
    (∀ body, (∃ e, parseTlvSequence body = .error e ∧ e.cls = .frameError) ∨
      ∃ rs, parseTlvSequence body = .ok rs ∧ encodeRecords rs = .ok body) ∧
    (∀ body, (∃ e, parseTlvSequence body = .error e) ↔
      ¬ ∃ rs : List (UInt8 × Bytes), (∀ r ∈ rs, IsRecord r) ∧ concatRecords rs = body) ∧
    (∀ body, LoopEnds body 0 (parseTlvSequence body)) ∧
    (∀ tag size n, tlvTagSizes tag = some size →
      ((∃ e, encodeTlv tag (.int n) = .error e) ↔ n < 0 ∨ (256 ^ size : Nat) ≤ n) ∧
      ∀ out, encodeTlv tag (.int n) = .ok out → ∃ value,
        decodeTlv out 0 = .ok (UInt8.ofNat tag, value, out.length) ∧ (tlvValueAsInt value : Int) = n) := by
  refine ⟨?_, ?_, fun body => parseTlvSequence_error_iff, parseTlvSequence_ends, ?_⟩
  · intro rs hrs
    exact ⟨concatRecords rs, encodeRecords_eq hrs, parseTlvSequence_concatRecords hrs⟩
  · intro body
    cases hparse : parseTlvSequence body with
    | error e => exact .inl ⟨e, rfl, parseTlvSequence_error hparse⟩
    | ok rs =>
        obtain ⟨hrs, hconcat⟩ := parseTlvSequence_eq_ok hparse
        exact .inr ⟨rs, rfl, hconcat ▸ encodeRecords_eq hrs⟩
  · intro tag size n hsize
    exact encodeTlv_int hsize n

end SartoriusLib.Xbpi
