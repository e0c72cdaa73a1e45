import SartoriusLib.Protocol.Xbpi.Client

/-!
# A device at the end of the line

A device hears the frames that are written and answers each of them with one frame, or with nothing. A read takes
the bytes of its answers in their order and finds nothing where it did not answer.
-/

namespace SartoriusLib.Xbpi

open Lib Prog

/-- The reply to a frame; its body fits into a frame. -/
structure Reply where
  subtype : UInt8
  body : Bytes
  fits : body.length ≤ 252

def Reply.frame (r : Reply) : XbpiFrame := frameOf (assembleFrame r.subtype r.body)

@[simp] theorem Reply.frame_subtype (r : Reply) : r.frame.subtype = r.subtype := rfl

@[simp] theorem Reply.frame_body (r : Reply) : r.frame.body = r.body := by
  simp [frame, frameOf, assembleFrame]

section

variable {r : Reply} (commandName : String) (opcode : Option Int)

theorem frameReply_accepted (hsub : r.subtype ≠ errorSubtype) :
    frameReply r.frame commandName opcode = .ok r.frame := if_neg hsub

theorem frameReply_coded {code : UInt8} (hsub : r.subtype = errorSubtype) (hbody : r.body = [code]) :
    frameReply r.frame commandName opcode = .error (makeRefusal code.toNat r.frame commandName opcode) := by
  rw [frameReply, Reply.frame_subtype, if_pos hsub, Reply.frame_body, hbody, decodeErrorBody_singleton]

/-- A refusal without a code is a parse error. -/
theorem frameReply_garbled (hsub : r.subtype = errorSubtype) (hlen : r.body.length ≠ 1) :
    ∃ e, frameReply r.frame commandName opcode = .error e ∧ e.cls = .parseError := by
  rw [frameReply, Reply.frame_subtype, if_pos hsub, Reply.frame_body]
  cases hbody : decodeErrorBody r.body with
  | ok body => simp [decodeErrorBody, hlen] at hbody
  | error e => exact ⟨e, rfl, decodeErrorBody_error hbody⟩

end

structure Responder (S : Type) where
  answer : S → Bytes → Option Reply
  next : S → Bytes → S

/-- The state of the device, and the bytes of its answers that have not been read. -/
structure Line (S : Type) where
  device : S
  out : Bytes := []

theorem Line.quiet {S : Type} {l : Line S} (hout : l.out = []) : ({ device := l.device } : Line S) = l := by
  rw [← hout]

namespace Responder

variable {S : Type}

/-- A read of `n` bytes that found `received` of them. -/
def starved (n : Nat) (timeout : Rat) (received : Nat) : Exc :=
  .sartorius
    { cls := if received = 0 then .transientTransportError else .timeoutError,
      message := s!"read_exact({n}) got {received} bytes after {reprSeconds timeout}s" }

def transport (D : Responder S) : Transport (Line S) where
  label _ := "device"
  write data _ := modify fun l =>
    { device := D.next l.device data,
      out := l.out ++ ((D.answer l.device data).map fun r => assembleFrame r.subtype r.body).getD [] }
  readExact n timeout := ofFun fun l =>
    if n ≤ l.out.length then (.ok (l.out.take n), { l with out := l.out.drop n })
    else (.error (starved n timeout l.out.length), l)
  readUntil _ timeout := ofFun fun l => (.error (starved 1 timeout l.out.length), l)
  drainInput := modify fun l => { l with out := [] }
  reopen _ _ _ := pure ()

variable (D : Responder S) (timeout : Rat) {l : Line S}

theorem exec_write (data : Bytes) (hout : l.out = []) :
    (D.transport.write data timeout).exec l = (.ok (), { device := D.next l.device data, out :=
      ((D.answer l.device data).map fun r => assembleFrame r.subtype r.body).getD [] }) := by
  simp [transport, hout]

theorem readsFrom (device : S) : ReadsFrom D.transport (Line.mk device) := by
  intro data n timeout hn
  simp [transport, hn]

/-- A request that is answered returns the frame, or raises the refusal that the frame carries. -/
theorem exec_executeLocked_answered {data : Bytes} {r : Reply} (commandName : String) (opcode : Option Int)
    (hout : l.out = []) (hanswer : D.answer l.device data = some r) :
    (executeLocked D.transport false data timeout commandName opcode).exec l =
      ((frameReply r.frame commandName opcode).mapError .sartorius, { device := D.next l.device data }) := by
  have hwrite := D.exec_write timeout data hout
  rw [hanswer] at hwrite
  exact (D.readsFrom _).exec_answered commandName opcode (assembleFrame_isFrame _ r.fits) hwrite

/-- A request that is not answered raises what a read on a silent line raises. -/
theorem exec_executeLocked_silent {data : Bytes} (commandName : String) (opcode : Option Int)
    (hout : l.out = []) (hanswer : D.answer l.device data = none) :
    (executeLocked D.transport false data timeout commandName opcode).exec l =
      (.error (starved 1 timeout 0), { device := D.next l.device data }) := by
  have hwrite := D.exec_write timeout data hout
  rw [hanswer] at hwrite
  have hread : (D.transport.readExact 1 timeout).exec { device := D.next l.device data } =
      (.error (starved 1 timeout 0), { device := D.next l.device data }) := by
    simp [transport]
  exact exec_executeLocked_unanswered commandName opcode hwrite hread

end Responder

end SartoriusLib.Xbpi
