import SartoriusLib.Transport.Traced
import SartoriusLib.Protocol.Xbpi.Stream

/-!
# The discard after a reply that is refused

An exchange whose reply is not a frame discards the input before its exception leaves. A frame with the error
subtype raises as well, whether its code is known, unknown or missing, and nothing is discarded: what came
behind it is read by the next exchange.
-/

namespace SartoriusLib.Xbpi

open SartoriusLib Lib

/-- A reply that is not a frame, or that is a frame with the error subtype. -/
def RefusedOrCorrupt (raw : Bytes) : Prop :=
  match parseFrame raw with
  | .error _ => True
  | .ok frame => frame.subtype = errorSubtype

variable {W : Type} (T : Transport W)

/-- The reply that an exchange reads. -/
def replyRead (disposed : Bool) (request : Bytes) (timeout : Rat) (commandName : String)
    (opcode : Option Int) (w : W) : Except Exc Bytes :=
  ((sendRaw (traced T) disposed request timeout commandName opcode).exec ⟨w, []⟩).1

/-- The exchange that reads a refused or corrupt reply raises, and the last thing it did is to discard the
input. -/
def CleanAfter (disposed : Bool) (request : Bytes) (timeout : Rat) (commandName : String)
    (opcode : Option Int) (w : W) : Prop :=
  ∀ raw, replyRead T disposed request timeout commandName opcode w = .ok raw → RefusedOrCorrupt raw →
    (∃ e, ((executeLocked (traced T) disposed request timeout commandName opcode).exec ⟨w, []⟩).1 =
      .error e) ∧
    ((executeLocked (traced T) disposed request timeout commandName opcode).exec ⟨w, []⟩).2.events.getLast? =
      some .drained

/-! ## The trace of an exchange -/

theorem readRaw_emits (timeout : Rat) :
    Prog.Emits Traced.events (Xbpi.readRaw (traced T) timeout) fun _ es => OnlyReads es := by
  unfold Xbpi.readRaw
  refine (readExact_emits T 1 timeout).bind (fun e es h => h ▸ .bytes _ _) fun lengthByte es h => ?_
  obtain rfl := h
  refine (readExact_emits T _ timeout).bind (fun e es h => ?_) fun rest es h => ?_
  · exact h ▸ (OnlyReads.bytes _ _).append (.bytes _ _)
  obtain rfl := h
  exact .pure ((OnlyReads.bytes _ _).append (.bytes _ _))

/-- Up to its reply an exchange discards nothing. -/
theorem sendRaw_emits (disposed : Bool) (request : Bytes) (timeout : Rat) (commandName : String)
    (opcode : Option Int) :
    Prog.Emits Traced.events (sendRaw (traced T) disposed request timeout commandName opcode)
      fun _ es => LineEvent.drained ∉ es := by
  unfold sendRaw
  split
  · exact .throw List.not_mem_nil
  · refine (write_emits T request timeout).bind (fun _ _ h => by simp [h]) fun _ _ h => ?_
    obtain rfl := h
    refine (readRaw_emits T timeout).conseq fun _ es h => ?_
    simpa using h.drains

/-- Only a reply that is not a frame is followed by a discard. -/
theorem handleRaw_emits (raw : Bytes) (commandName : String) (opcode : Option Int) :
    Prog.Emits Traced.events (handleRaw (traced T) raw commandName opcode) fun r es =>
      match parseFrame raw with
      | .error _ => (∃ e, r = .error e) ∧ es = [.drained]
      | .ok frame => r = (frameReply frame commandName opcode).mapError .sartorius ∧ es = [] := by
  unfold handleRaw
  cases parseFrame raw with
  | ok frame => exact Emits.liftExcept ⟨rfl, rfl⟩
  | error e =>
      have hdrain : Prog.Emits Traced.events (exceptException (traced T).drainInput fun _ => pure ())
          fun _ es => es = [.drained] :=
        Emits.exceptException (drainInput_emits T) (fun _ _ h => h) (fun _ _ h _ => h)
          fun _ es h _ => .pure (by rw [List.append_nil]; exact h)
      exact hdrain.bind (fun e es h => ⟨⟨e, rfl⟩, h⟩) fun _ es h => .throw ⟨⟨_, rfl⟩, by simp [h]⟩

/-- The input is discarded as promised exactly when the reply is no frame with the error subtype. -/
theorem cleanAfter_iff (disposed : Bool) (request : Bytes) (timeout : Rat) (commandName : String)
    (opcode : Option Int) (w : W) :
    CleanAfter T disposed request timeout commandName opcode w ↔
      ∀ raw frame, replyRead T disposed request timeout commandName opcode w = .ok raw →
        parseFrame raw = .ok frame → frame.subtype ≠ errorSubtype := by
  obtain ⟨sent, hsent, hnone⟩ := sendRaw_emits T disposed request timeout commandName opcode ⟨w, []⟩
  rw [List.nil_append] at hsent
  constructor
  · intro h raw frame hraw hparse herror
    have hrefused : RefusedOrCorrupt raw := by
      rw [RefusedOrCorrupt, hparse]
      exact herror
    obtain ⟨-, hlast⟩ := h raw hraw hrefused
    obtain ⟨es, hes, hhandled⟩ := handleRaw_emits T raw commandName opcode
      ((sendRaw (traced T) disposed request timeout commandName opcode).exec ⟨w, []⟩).2
    rw [hparse] at hhandled
    rw [executeLocked_eq, Prog.exec_bind_ok (Prod.ext hraw rfl), hes, hhandled.2, List.append_nil, hsent] at hlast
    exact hnone (List.mem_of_getLast? hlast)
  · intro h raw hraw hrefused
    obtain ⟨es, hes, hhandled⟩ := handleRaw_emits T raw commandName opcode
      ((sendRaw (traced T) disposed request timeout commandName opcode).exec ⟨w, []⟩).2
    rw [executeLocked_eq, Prog.exec_bind_ok (Prod.ext hraw rfl)]
    cases hparse : parseFrame raw with
    | ok frame =>
        rw [RefusedOrCorrupt, hparse] at hrefused
        exact absurd hrefused (h raw frame hraw hparse)
    | error e =>
        rw [hparse] at hhandled
        refine ⟨hhandled.1, ?_⟩
        rw [hes, hhandled.2]
        exact List.getLast?_concat

/-! ## What the next exchange reads -/

section Port

open SerialTransport

variable {s : SerialState} (request : Bytes) (timeout : Rat) (commandName : String) (opcode : Option Int)

/-- On an open port an exchange whose reply is a frame ends as that frame says, and leaves what followed it. -/
theorem executeLocked_frame {raw following : Bytes} (hraw : IsFrame raw) (hopen : s.isOpen = true)
    (hq : Quiet (phase s)) (hsend : s.sends.headD .ok = .ok) (hpending : pending s = raw ++ following) :
    ∃ s', (executeLocked serialTransport false request timeout commandName opcode).exec s =
        ((frameReply (frameOf raw) commandName opcode).mapError .sartorius, s') ∧
      s'.isOpen = true ∧ Quiet (phase s') ∧ s'.sends = s.sends.tail ∧ pending s' = following := by
  have hwrite : (serialTransport.write request timeout).exec s =
      (.ok (), { s with sends := s.sends.tail, sent := s.sent ++ [request] }) := by
    simp only [serialTransport, SerialTransport.write]
    rw [Prog.exec_bind_ok (exec_requirePort hopen), Prog.exec_ofFun]
    simp only [hsend]
  obtain ⟨s', hread, hs', hrest⟩ := readRaw_frame
    (s := { s with sends := s.sends.tail, sent := s.sent ++ [request] }) timeout hraw hopen hq hpending
  refine ⟨s', ?_, hs'.isOpen.trans hopen, hs'.quiet, hs'.sends, hrest⟩
  rw [executeLocked, if_neg (by simp), Prog.exec_bind_ok hwrite, Prog.exec_bind_ok hread,
    parseFrame_eq_ok_iff.mpr ⟨hraw, rfl⟩]
  dsimp only
  cases frameReply (frameOf raw) commandName opcode <;> rfl

/-- A frame that came behind an error reply is returned to the next exchange, whatever that one asked. -/
theorem executeLocked_stale {refused stale : Bytes} (rest : Bytes) (hrefused : IsFrame refused)
    (herror : (frameOf refused).subtype = errorSubtype) (hstale : IsFrame stale)
    (hreply : (frameOf stale).subtype ≠ errorSubtype) (hopen : s.isOpen = true) (hq : Quiet (phase s))
    (hsend : s.sends.headD .ok = .ok) (hsend' : s.sends.tail.headD .ok = .ok)
    (hpending : pending s = refused ++ (stale ++ rest)) (request' : Bytes) :
    ∃ e s', (executeLocked serialTransport false request timeout commandName opcode).exec s = (.error e, s') ∧
      ((executeLocked serialTransport false request' timeout commandName opcode).exec s').1 =
        .ok (frameOf stale) := by
  obtain ⟨s', hrun, hopen', hq', hsends, hpending'⟩ :=
    executeLocked_frame request timeout commandName opcode hrefused hopen hq hsend hpending
  obtain ⟨e, he⟩ := frameReply_refused herror commandName opcode
  obtain ⟨s'', hrun', -⟩ :=
    executeLocked_frame request' timeout commandName opcode hstale hopen' hq' (hsends ▸ hsend') hpending'
  refine ⟨.sartorius e, s', by rw [hrun, he]; rfl, ?_⟩
  rw [hrun', frameReply, if_neg hreply]
  rfl

/-- A port on which the refusal of an unknown opcode is followed by another frame. -/
def refusedThenStale : SerialState where
  settings := { port := "COM3" }
  line := [[.chunk (assembleFrame 0x01 [0x04] ++ assembleFrame 0x21 [0x07])]]

/-- The refusal leaves the frame behind it to the next request. -/
theorem refusal_not_drained :
    ¬ CleanAfter serialTransport false [0x04, 0x01, 0x09, 0x02, 0x10] 1 "read_model" (some 0x02)
        refusedThenStale ∧
      ∃ e s', (executeLocked serialTransport false [0x04, 0x01, 0x09, 0x02, 0x10] 1 "read_model"
          (some 0x02)).exec refusedThenStale = (.error e, s') ∧
        ((executeLocked serialTransport false [0x04, 0x01, 0x09, 0x03, 0x11] 1 "read_model"
          (some 0x02)).exec s').1 = .ok (frameOf (assembleFrame 0x21 [0x07])) := by
  have hrefused : IsFrame (assembleFrame 0x01 [0x04]) := assembleFrame_isFrame _ (by decide)
  have hreply : replyRead serialTransport false [0x04, 0x01, 0x09, 0x02, 0x10] 1 "read_model" (some 0x02)
      refusedThenStale = .ok (assembleFrame 0x01 [0x04]) := by
    decide +kernel
  have hlast : ((executeLocked (traced serialTransport) false [0x04, 0x01, 0x09, 0x02, 0x10] 1 "read_model"
      (some 0x02)).exec ⟨refusedThenStale, []⟩).2.events.getLast? ≠ some .drained := by
    decide +kernel
  constructor
  · intro h
    refine hlast (h _ hreply ?_).2
    rw [RefusedOrCorrupt, parseFrame_eq_ok_iff.mpr ⟨hrefused, rfl⟩]
    rfl
  · refine executeLocked_stale _ 1 _ _ [] hrefused rfl (assembleFrame_isFrame _ (by decide))
      (by decide) rfl ?_ rfl rfl rfl _
    intro e he
    exact .inr ⟨_, List.mem_singleton.mp he⟩

end Port

end SartoriusLib.Xbpi
