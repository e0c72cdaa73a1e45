import SartoriusLib.Lib.Dict
import SartoriusLib.Protocol.Xbpi.Client
import SartoriusLib.Transport.Fake

/-!
# The scripted transport

The fake transport in full: a script says what each write queues for the reads that follow, and every write is
recorded. A script whose replies are frames makes a device that answers each request with its reply, however often and
in whatever order the requests come.
-/

namespace SartoriusLib

open Lib Prog

/-- Bytes, or a sequence of them that is joined. -/
inductive ScriptedBytes where
  | bytes (b : Bytes)
  | parts (l : List Bytes)
  deriving DecidableEq, Repr

/-- `_normalize_reply`. -/
def ScriptedBytes.normalize : ScriptedBytes → Bytes
  | bytes b => b
  | parts l => l.flatten

/-- A reply of the script; a callable receives the write. -/
inductive ScriptedReply where
  | value (v : ScriptedBytes)
  | callable (f : Bytes → ScriptedBytes)

/-- What a reply queues behind the write of `payload`. -/
def ScriptedReply.queued : ScriptedReply → Bytes → Bytes
  | value v, _ => v.normalize
  | callable f, payload => (f payload).normalize

structure ScriptedState where
  fake : FakeState := {}
  script : Dict Bytes ScriptedReply := []
  writes : List Bytes := []
  forceWriteTimeout : Bool := false
  lastReopenBaud : Option Nat := none
  lastReopenParity : Option Parity := none
  lastReopenStopbits : Option StopBits := none
  reopenCount : Nat := 0
  forceReopenError : Bool := false

namespace ScriptedTransport

def onFake {α : Type} (m : Py FakeState α) : Py ScriptedState α :=
  zoom ScriptedState.fake (fun f s => { s with fake := f }) m

def openPort : Py ScriptedState Unit := do
  let s ← get
  if s.fake.isOpen then raise .connectionError s!"{s.fake.label} is already open" { port := some s.fake.label }
  else modify fun s => { s with fake := { s.fake with isOpen := true } }

def close : Py ScriptedState Unit := modify fun s => { s with fake := { s.fake with isOpen := false } }

/-- Closes, records the settings and opens again; a forced error leaves the transport closed. -/
def reopen (baudrate : Option Nat) (parity : Option Parity) (stopbits : Option StopBits) : Py ScriptedState Unit := do
  close
  modify fun s =>
    { s with
      reopenCount := s.reopenCount + 1
      lastReopenBaud := baudrate.or s.lastReopenBaud
      lastReopenParity := parity.or s.lastReopenParity
      lastReopenStopbits := stopbits.or s.lastReopenStopbits }
  let s ← get
  if s.forceReopenError then
    raise .connectionError s!"forced reopen error on {s.fake.label}" { port := some s.fake.label }
  else openPort

def write (data : Bytes) (timeout : Rat) : Py ScriptedState Unit := do
  onFake FakeTransport.ensureOpen
  let s ← get
  if s.forceWriteTimeout then
    raise .timeoutError s!"write on {s.fake.label} timed out after {reprSeconds timeout}s (forced)"
      { port := some s.fake.label, extra := [("phase", .text "write")] }
  else
    modify fun s =>
      { s with
        writes := s.writes ++ [data]
        fake := { s.fake with
          readBuffer := s.fake.readBuffer ++ ((s.script.get? data).map fun reply => reply.queued data).getD [] } }

end ScriptedTransport

/-- `FakeTransport`. -/
def scriptedTransport : OwnedTransport ScriptedState where
  label s := s.fake.label
  write := ScriptedTransport.write
  readExact n timeout := ScriptedTransport.onFake (FakeTransport.readExact n timeout)
  readUntil separator timeout := ScriptedTransport.onFake (FakeTransport.readUntil separator timeout)
  drainInput := ScriptedTransport.onFake FakeTransport.drainInput
  reopen := ScriptedTransport.reopen
  isOpen s := s.fake.isOpen
  openPort := ScriptedTransport.openPort
  close := ScriptedTransport.close

/-! ## Scripts of whole frames -/

/-- The script of a mapping, as a fixture gives it. -/
def scriptOf (m : Dict Bytes Bytes) : Dict Bytes ScriptedReply := m.map fun e => (e.1, .value (.bytes e.2))

theorem get?_scriptOf (m : Dict Bytes Bytes) (payload : Bytes) :
    ((scriptOf m).get? payload).map (fun reply => reply.queued payload) = m.get? payload := by
  induction m with
  | nil => rfl
  | cons e m ih =>
      rw [scriptOf, List.map_cons, Dict.get?_cons, Dict.get?_cons]
      split
      · rfl
      · exact ih

/-- An open transport on the script of `m`, with nothing left to read and nothing forced. -/
structure Replays (m : Dict Bytes Bytes) (s : ScriptedState) : Prop where
  script : s.script = scriptOf m
  isOpen : s.fake.isOpen = true
  readBuffer : s.fake.readBuffer = []
  forceReadTimeout : s.fake.forceReadTimeout = false
  forceWriteTimeout : s.forceWriteTimeout = false

/-- The transport after more writes. -/
def ScriptedState.wrote (s : ScriptedState) (data : List Bytes) : ScriptedState := { s with writes := s.writes ++ data }

/-- The transport with these bytes to read. -/
def ScriptedState.holding (s : ScriptedState) (data : Bytes) : ScriptedState :=
  { s with fake := { s.fake with readBuffer := data } }

theorem ScriptedState.holding_nil {s : ScriptedState} (h : s.fake.readBuffer = []) : s.holding [] = s := by
  rw [holding, ← h]

theorem Replays.wrote {m : Dict Bytes Bytes} {s : ScriptedState} (h : Replays m s) (data : List Bytes) :
    Replays m (s.wrote data) :=
  ⟨h.script, h.isOpen, h.readBuffer, h.forceReadTimeout, h.forceWriteTimeout⟩

namespace Xbpi

/-- What the exchange of a request comes to; a request without a reply is as one that is not in the script. -/
def replayed (m : Dict Bytes Bytes) (label : String) (request : Bytes) (timeout : Rat) (commandName : String)
    (opcode : Option Int) : Except SartoriusError XbpiFrame :=
  match (m.get? request).getD [] with
  | [] =>
      .error ⟨.timeoutError, s!"read_exact(1) on {label} timed out after {reprSeconds timeout}s",
        { port := some label, extra := [("phase", .text "read")] }⟩
  | b :: rest => frameReply (frameOf (b :: rest)) commandName opcode

variable {m : Dict Bytes Bytes} {s : ScriptedState}

theorem replayed_reply {request reply : Bytes} (h : m.get? request = some reply) (hne : reply ≠ []) (label : String)
    (timeout : Rat) (commandName : String) (opcode : Option Int) :
    replayed m label request timeout commandName opcode = frameReply (frameOf reply) commandName opcode := by
  rw [replayed, h]
  cases reply with
  | nil => exact absurd rfl hne
  | cons b rest => rfl

theorem exec_readExact_holding (h : Replays m s) (data : Bytes) (n : Nat) (timeout : Rat) :
    (scriptedTransport.readExact n timeout).exec (s.holding data) =
      if n ≤ data.length then (.ok (data.take n), s.holding (data.drop n))
      else (.error (FakeTransport.timeoutError s.fake
        s!"read_exact({n}) on {s.fake.label} timed out after {reprSeconds timeout}s"), s.holding data) := by
  have hopen : FakeTransport.ensureOpen.exec { s.fake with readBuffer := data } =
      (.ok (), { s.fake with readBuffer := data }) := by
    rw [FakeTransport.ensureOpen, exec_bind_ok (exec_get _), if_pos h.isOpen]
    rfl
  simp only [scriptedTransport, ScriptedTransport.onFake, exec_zoom, FakeTransport.readExact, ScriptedState.holding]
  rw [exec_bind_ok hopen, exec_bind_ok (exec_get _), if_neg (by simp [h.forceReadTimeout])]
  by_cases hn : n ≤ data.length
  · rw [if_pos hn, if_neg (by simpa using hn), FakeTransport.sliceEnd, if_neg (by omega), Int.toNat_natCast,
      Nat.min_eq_left hn]
    rfl
  · rw [if_neg hn, if_pos (by simpa using hn)]
    rfl

theorem exec_write_scripted (h : Replays m s) (data : Bytes) (timeout : Rat) :
    (scriptedTransport.write data timeout).exec s = (.ok (), (s.wrote [data]).holding ((m.get? data).getD [])) := by
  have hopen : (ScriptedTransport.onFake FakeTransport.ensureOpen).exec s = (.ok (), s) := by
    rw [ScriptedTransport.onFake, exec_zoom, FakeTransport.ensureOpen, exec_bind_ok (exec_get _), if_pos h.isOpen]
    rfl
  have hqueued : ((s.script.get? data).map fun reply => reply.queued data) = m.get? data := by
    rw [h.script, get?_scriptOf]
  simp only [scriptedTransport, ScriptedTransport.write]
  rw [exec_bind_ok hopen, exec_bind_ok (exec_get _), if_neg (by simp [h.forceWriteTimeout]), exec_modify, hqueued,
    h.readBuffer, List.nil_append]
  rfl

theorem scripted_readsFrom (h : Replays m s) : ReadsFrom scriptedTransport.toTransport s.holding := by
  intro data n timeout hn
  rw [show scriptedTransport.toTransport.readExact = scriptedTransport.readExact from rfl, exec_readExact_holding h,
    if_pos hn]

/-- A request that has a reply is answered with its frame, and any other runs into the timeout; nothing is left to
read. -/
theorem exec_executeLocked_scripted (h : Replays m s) (hframes : ∀ e ∈ m, e.2 = [] ∨ IsFrame e.2) (request : Bytes)
    (timeout : Rat) (commandName : String) (opcode : Option Int) :
    (executeLocked scriptedTransport.toTransport false request timeout commandName opcode).exec s =
      ((replayed m s.fake.label request timeout commandName opcode).mapError .sartorius, s.wrote [request]) := by
  have hwrote := h.wrote [request]
  have hwrite := exec_write_scripted h request timeout
  rw [replayed]
  rcases hreply : (m.get? request).getD [] with - | ⟨b, rest⟩ <;> rw [hreply] at hwrite
  · have hread : (scriptedTransport.readExact 1 timeout).exec ((s.wrote [request]).holding []) =
        (.error (FakeTransport.timeoutError s.fake
          s!"read_exact(1) on {s.fake.label} timed out after {reprSeconds timeout}s"), s.wrote [request]) := by
      rw [exec_readExact_holding hwrote, if_neg (by simp), ScriptedState.holding_nil hwrote.readBuffer]
      rfl
    rw [ScriptedState.holding_nil hwrote.readBuffer] at hwrite hread
    exact exec_executeLocked_unanswered commandName opcode hwrite hread
  · have hframe : IsFrame (b :: rest) := by
      cases hget : m.get? request with
      | none => simp [hget] at hreply
      | some reply =>
          obtain rfl : reply = b :: rest := by simpa [hget] using hreply
          exact (hframes _ (Dict.mem_of_get? hget)).resolve_left (List.cons_ne_nil b rest)
    rw [(scripted_readsFrom hwrote).exec_answered commandName opcode hframe hwrite,
      ScriptedState.holding_nil hwrote.readBuffer]

end Xbpi

end SartoriusLib
