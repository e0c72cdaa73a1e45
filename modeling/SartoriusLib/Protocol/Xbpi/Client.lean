import SartoriusLib.Transport.Base
import SartoriusLib.Protocol.Xbpi.Parser

/-!
# The xBPI client

One exchange writes a request, reads the length byte and then the rest of the reply, and maps an error
reply to a typed exception. The input is discarded when the reply is not a frame, and in no other case.
-/

namespace SartoriusLib.Xbpi

open SartoriusLib Lib

/-- Subtype byte of a refusal. -/
def errorSubtype : UInt8 := 0x01

def errorCodeReasons : List (Nat × String) :=
  [(0x03, "value out of range"), (0x04, "unknown opcode"), (0x06, "operation not applicable"),
   (0x07, "invalid or missing args"), (0x10, "index out of range"),
   (0x11, "unknown (BCE variant of 0x10)")]

/-- The exception class of an error code. -/
def errorClassOf : Nat → ErrorClass
  | 0x03 => .valueOutOfRangeError
  | 0x04 => .unsupportedCommandError
  | 0x06 => .operationNotApplicableError
  | 0x07 => .missingArgsError
  | 0x10 | 0x11 => .indexOutOfRangeError
  | _ => .commandRejectedError

def makeRefusal (code : Nat) (frame : XbpiFrame) (commandName : String) (opcode : Option Int) :
    SartoriusError :=
  let reason := (errorCodeReasons.lookup code).getD s!"unknown (0x{hex02 code})"
  let name := match opcode with
    | none => ""
    | some op => if commandName = "" then s!"opcode=0x{hex02 op}" else commandName
  let lead := if name = "" then "xBPI " else s!"xBPI {name}: "
  { cls := errorClassOf code,
    message := s!"{lead}device returned error 0x{hex02 code} ({reason})",
    context :=
      { commandName := if commandName = "" then none else some commandName, opcode,
        rawResponse := some frame.raw, protocol := some "xbpi",
        extra := [("error_code", .int code), ("reason", .text reason)] } }

/-- A refusal is a rejected command, whatever its code. -/
theorem errorClassOf_rejected (code : Nat) :
    (errorClassOf code).issubclass .commandRejectedError = true := by
  unfold errorClassOf
  split <;> rfl

def disposedError (commandName : String) (opcode : Option Int) : SartoriusError where
  cls := .connectionError
  message := "xBPI client was retired during protocol reconfiguration; " ++
    "retry the command against the active session"
  context := { commandName := if commandName = "" then none else some commandName, opcode,
               protocol := some "xbpi", extra := [("client_disposed", .flag true)] }

variable {W : Type}

/-- The two reads of a reply; a transport that returns from `readExact 1` returns one byte. -/
def readRaw (T : Transport W) (timeout : Rat) : Py W Bytes := do
  let lengthByte ← T.readExact 1 timeout
  let rest ← T.readExact (lengthByte.headD 0).toNat timeout
  pure (lengthByte ++ rest)

/-- A validated frame, or the refusal it carries. -/
def frameReply (frame : XbpiFrame) (commandName : String) (opcode : Option Int) :
    Except SartoriusError XbpiFrame :=
  if frame.subtype = errorSubtype then
    match decodeErrorBody frame.body with
    | .ok body => .error (makeRefusal body.code frame commandName opcode)
    | .error e => .error e
  else .ok frame

/-- `_execute_locked` of a client that is or is not `disposed`. -/
def executeLocked (T : Transport W) (disposed : Bool) (request : Bytes) (timeout : Rat)
    (commandName : String) (opcode : Option Int) : Py W XbpiFrame := do
  if disposed then throw (.sartorius (disposedError commandName opcode))
  else do
    T.write request timeout
    let raw ← readRaw T timeout
    match parseFrame raw with
    | .error e => do
        exceptException T.drainInput fun _ => pure ()
        throw (.sartorius e)
    | .ok frame => liftExcept (frameReply frame commandName opcode)

/-- What a call returns is a frame of the bytes it read, and no refusal. -/
theorem frameReply_eq_ok {frame f : XbpiFrame} {commandName : String} {opcode : Option Int}
    (h : frameReply frame commandName opcode = .ok f) : f = frame ∧ frame.subtype ≠ errorSubtype := by
  unfold frameReply at h
  split at h
  · split at h <;> cases h
  · rename_i hs
    exact ⟨(Except.ok.inj h).symm, hs⟩

/-- A frame with the error subtype raises, whatever its body. -/
theorem frameReply_refused {frame : XbpiFrame} (h : frame.subtype = errorSubtype) (commandName : String)
    (opcode : Option Int) : ∃ e, frameReply frame commandName opcode = .error e := by
  unfold frameReply
  rw [if_pos h]
  cases decodeErrorBody frame.body with
  | ok body => exact ⟨_, rfl⟩
  | error e => exact ⟨e, rfl⟩

/-! ## What a request comes to -/

/-- The answer to a request: a frame, a refusal with its code, or nothing that can be told apart from silence. -/
inductive Response where
  | reply (frame : XbpiFrame)
  | refusal (code : Nat)
  | failed
  deriving DecidableEq, Repr

def responseOf (raw : Except Exc Bytes) : Response :=
  match raw with
  | .error _ => .failed
  | .ok raw =>
      match parseFrame raw with
      | .error _ => .failed
      | .ok frame =>
          if frame.subtype = errorSubtype then
            match decodeErrorBody frame.body with
            | .ok body => .refusal body.code
            | .error _ => .failed
          else .reply frame

/-- The write of the request and the two reads. -/
def sendRaw (T : Transport W) (disposed : Bool) (request : Bytes) (timeout : Rat) (commandName : String)
    (opcode : Option Int) : Py W Bytes := do
  if disposed then throw (.sartorius (disposedError commandName opcode))
  else do
    T.write request timeout
    readRaw T timeout

/-- What comes after the bytes of the reply. -/
def handleRaw (T : Transport W) (raw : Bytes) (commandName : String) (opcode : Option Int) : Py W XbpiFrame :=
  match parseFrame raw with
  | .error e => do
      exceptException T.drainInput fun _ => pure ()
      throw (.sartorius e)
  | .ok frame => liftExcept (frameReply frame commandName opcode)

theorem executeLocked_eq (T : Transport W) (disposed : Bool) (request : Bytes) (timeout : Rat)
    (commandName : String) (opcode : Option Int) :
    executeLocked T disposed request timeout commandName opcode =
      (do handleRaw T (← sendRaw T disposed request timeout commandName opcode) commandName opcode) := by
  cases disposed with
  | true => rfl
  | false => exact (bind_assoc (T.write request timeout) _ _).symm

/-- No operation of the transport raises what stands for a refusal of the device. -/
structure NoRefusals (T : Transport W) : Prop where
  write : ∀ data timeout w e, ((T.write data timeout).exec w).1 = .error e →
    e.isinstance .commandRejectedError = false
  readExact : ∀ n timeout w e, ((T.readExact n timeout).exec w).1 = .error e →
    e.isinstance .commandRejectedError = false

variable {T : Transport W}

theorem sendRaw_error (hT : NoRefusals T) {disposed : Bool} {request : Bytes} {timeout : Rat}
    {commandName : String} {opcode : Option Int} {w w' : W} {e : Exc}
    (h : (sendRaw T disposed request timeout commandName opcode).exec w = (.error e, w')) :
    e.isinstance .commandRejectedError = false := by
  cases disposed with
  | true =>
      cases h
      rfl
  | false =>
      simp only [sendRaw, Bool.false_eq_true, if_false, readRaw] at h
      rcases hw : (T.write request timeout).exec w with ⟨e₁ | ⟨⟩, w₁⟩
      · rw [Prog.exec_bind_error hw] at h
        cases h
        exact hT.write request timeout w _ (by rw [hw])
      rw [Prog.exec_bind_ok hw] at h
      rcases hr : (T.readExact 1 timeout).exec w₁ with ⟨e₂ | b, w₂⟩
      · rw [Prog.exec_bind_error hr] at h
        cases h
        exact hT.readExact 1 timeout w₁ _ (by rw [hr])
      rw [Prog.exec_bind_ok hr] at h
      rcases hr' : (T.readExact (b.headD 0).toNat timeout).exec w₂ with ⟨e₃ | rest, w₃⟩
      · rw [Prog.exec_bind_error hr'] at h
        cases h
        exact hT.readExact _ timeout w₂ _ (by rw [hr'])
      · rw [Prog.exec_bind_ok hr'] at h
        cases h

/-- A reply that is not a frame raises a transport or framing error, or the drain was cancelled. -/
theorem handleRaw_malformed {raw : Bytes} {e : SartoriusError} (hraw : parseFrame raw = .error e)
    (commandName : String) (opcode : Option Int) (w : W) :
    ∃ e', ((handleRaw T raw commandName opcode).exec w).1 = .error e' ∧
      e'.isinstance .commandRejectedError = false := by
  have hcls : (Exc.sartorius e).isinstance .commandRejectedError = false := by
    rw [Exc.isinstance_sartorius, parseFrame_error hraw]
    split <;> rfl
  rw [handleRaw, hraw]
  dsimp only
  rw [Prog.exec_bind, exec_exceptException]
  rcases T.drainInput.exec w with ⟨e₁ | ⟨⟩, w₁⟩
  · cases he : e₁.isException with
    | true => exact ⟨.sartorius e, by simp [he], hcls⟩
    | false =>
        obtain rfl : e₁ = .cancelled := by cases e₁ <;> simp_all [Exc.isException]
        exact ⟨.cancelled, by simp [Exc.isException], rfl⟩
  · exact ⟨.sartorius e, rfl, hcls⟩

/-- An exchange returns the frame that it read, unless that is a refusal. -/
theorem executeLocked_eq_ok {disposed : Bool} {request : Bytes} {timeout : Rat} {commandName : String}
    {opcode : Option Int} {w : W} {frame : XbpiFrame} :
    ((executeLocked T disposed request timeout commandName opcode).exec w).1 = .ok frame ↔
      ∃ raw, ((sendRaw T disposed request timeout commandName opcode).exec w).1 = .ok raw ∧
        parseFrame raw = .ok frame ∧ frame.subtype ≠ errorSubtype := by
  rw [executeLocked_eq]
  rcases hsend : (sendRaw T disposed request timeout commandName opcode).exec w with ⟨e | raw, w'⟩
  · rw [Prog.exec_bind_error hsend]
    simp
  rw [Prog.exec_bind_ok hsend]
  cases hparse : parseFrame raw with
  | error e =>
      obtain ⟨e', herror, -⟩ := handleRaw_malformed (T := T) hparse commandName opcode w'
      rw [herror]
      simp [hparse]
  | ok frame' =>
      simp only [handleRaw, hparse]
      by_cases hsub : frame'.subtype = errorSubtype
      · obtain ⟨e, he⟩ := frameReply_refused hsub commandName opcode
        simp only [he, exec_liftExcept_error, reduceCtorEq, Except.ok.injEq, exists_eq_left', hparse, false_iff]
        rintro ⟨rfl, hne⟩
        exact hne hsub
      · simp only [frameReply, if_neg hsub, exec_liftExcept_ok, Except.ok.injEq, exists_eq_left', hparse]
        exact ⟨fun h => ⟨h, h ▸ hsub⟩, fun h => h.1⟩

/-- What an exchange ends with is decided by the response. -/
theorem executeLocked_response (hT : NoRefusals T) (disposed : Bool) (request : Bytes) (timeout : Rat)
    (commandName : String) (opcode : Option Int) (w : W) :
    match responseOf ((sendRaw T disposed request timeout commandName opcode).exec w).1 with
    | .reply frame => ((executeLocked T disposed request timeout commandName opcode).exec w).1 = .ok frame
    | .refusal code => ∃ frame, ((executeLocked T disposed request timeout commandName opcode).exec w).1 =
        .error (.sartorius (makeRefusal code frame commandName opcode))
    | .failed => ∃ e, ((executeLocked T disposed request timeout commandName opcode).exec w).1 = .error e ∧
        e.isinstance .commandRejectedError = false := by
  rw [executeLocked_eq]
  rcases hraw : (sendRaw T disposed request timeout commandName opcode).exec w with ⟨e | raw, w'⟩
  · rw [Prog.exec_bind_error hraw]
    exact ⟨e, rfl, sendRaw_error hT hraw⟩
  · rw [Prog.exec_bind_ok hraw]
    simp only [responseOf]
    cases hparse : parseFrame raw with
    | error e => exact handleRaw_malformed hparse commandName opcode w'
    | ok frame =>
        simp only [handleRaw, hparse, frameReply]
        by_cases hsub : frame.subtype = errorSubtype
        · simp only [if_pos hsub]
          cases hbody : decodeErrorBody frame.body with
          | ok body => exact ⟨frame, rfl⟩
          | error e =>
              refine ⟨.sartorius e, rfl, ?_⟩
              rw [Exc.isinstance_sartorius, decodeErrorBody_error hbody]
              rfl
        · simp only [if_neg hsub]
          rfl

/-! ## An exchange over a buffer -/

section Buffer

/-- A transport in the states `hold data` returns what a read asks for from the front of `data`. -/
def ReadsFrom (T : Transport W) (hold : Bytes → W) : Prop :=
  ∀ data n timeout, n ≤ data.length → (T.readExact n timeout).exec (hold data) = (.ok (data.take n), hold (data.drop n))

variable {hold : Bytes → W} {request frame : Bytes} {timeout : Rat} {w w' : W} (commandName : String)
  (opcode : Option Int)

/-- The two reads of a frame that is there. -/
theorem ReadsFrom.exec_readRaw (hT : ReadsFrom T hold) (hframe : IsFrame frame) (timeout : Rat) :
    (readRaw T timeout).exec (hold frame) = (.ok frame, hold []) := by
  have hdeclared := hframe.declared
  have hsize := hframe.size
  cases frame with
  | nil => simp [minFrameSize] at hsize
  | cons b rest =>
      simp only [List.length_cons, List.getD_cons_zero, Nat.add_right_cancel_iff] at hdeclared
      have hfirst : (T.readExact 1 timeout).exec (hold (b :: rest)) = (.ok [b], hold rest) :=
        hT (b :: rest) 1 timeout (by simp)
      have hrest : (T.readExact b.toNat timeout).exec (hold rest) = (.ok rest, hold []) := by
        rw [hT rest b.toNat timeout (by omega), ← hdeclared, List.take_length, List.drop_length]
      rw [readRaw, Prog.exec_bind_ok hfirst]
      exact Prog.exec_bind_ok hrest

/-- A request that is answered returns the frame, or raises the refusal that the frame carries. -/
theorem ReadsFrom.exec_answered (hT : ReadsFrom T hold) (hframe : IsFrame frame)
    (hwrite : (T.write request timeout).exec w = (.ok (), hold frame)) :
    (executeLocked T false request timeout commandName opcode).exec w =
      ((frameReply (frameOf frame) commandName opcode).mapError .sartorius, hold []) := by
  rw [executeLocked, if_neg Bool.false_ne_true, Prog.exec_bind_ok hwrite]
  refine (Prog.exec_bind_ok (hT.exec_readRaw hframe timeout)).trans ?_
  rw [parseFrame_eq_ok_iff.mpr ⟨hframe, rfl⟩]
  dsimp only
  cases frameReply (frameOf frame) commandName opcode <;> rfl

/-- A request that is not answered raises what the first read raises. -/
theorem exec_executeLocked_unanswered {e : Exc} (hwrite : (T.write request timeout).exec w = (.ok (), w'))
    (hread : (T.readExact 1 timeout).exec w' = (.error e, w')) :
    (executeLocked T false request timeout commandName opcode).exec w = (.error e, w') := by
  rw [executeLocked, if_neg Bool.false_ne_true, Prog.exec_bind_ok hwrite]
  exact Prog.exec_bind_error (Prog.exec_bind_error hread)

end Buffer

end SartoriusLib.Xbpi
