import SartoriusLib.Lib.Run
import SartoriusLib.Protocol.Xbpi.Client
import SartoriusLib.Transport.Serial

/-!
# Requests and replies of the xBPI client

Calls queue for the client's lock and are served one after the other. The device answers each request with
one frame, in order, and its bytes reach the host whenever they do: during the call that asked, during a
later call, or never. `Paired` says that no call returns the answer to another call's request.
-/

namespace SartoriusLib.Xbpi.Pairing

open SartoriusLib Lib SerialTransport

/-- A call of `execute`. -/
structure Call where
  id : Nat
  request : Bytes
  timeout : Option Rat := none
  commandName : String := ""
  opcode : Option Int := none
  deriving DecidableEq, Repr

/-- The client with its transport, its waiting callers and the bytes between it and the device. -/
structure PairState where
  serial : SerialState
  defaultTimeout : Rat := 1
  disposed : Bool := false
  /-- The callers that wait for the lock, first come first served. -/
  waiting : List Call := []
  /-- The bytes of answers that the port has not delivered yet. -/
  flight : Bytes := []
  /-- The device's answer to each call that returned, with the frame it returned. -/
  returned : List (Bytes × XbpiFrame) := []
  deriving DecidableEq, Repr

/-- What happens while a call holds the lock. -/
structure Exchange where
  /-- The device's answer to the request. -/
  answer : Bytes
  /-- How the send call ends. -/
  send : PortOutcome := .ok
  /-- The request of a failed send reached the device all the same. -/
  heard : Bool := false
  /-- What the receive calls meet. -/
  receives : List Rx
  /-- How many more bytes had arrived when the input was discarded. -/
  discarded : Nat := 0
  deriving DecidableEq, Repr

inductive Event where
  /-- A task calls `execute`. -/
  | arrive (call : Call)
  /-- The task of the call is cancelled while it waits for the lock. -/
  | abandon (id : Nat)
  /-- The first waiting call gets the lock, makes its exchange and releases the lock. -/
  | serve (exchange : Exchange)
  | dispose
  deriving DecidableEq, Repr

/-- The transport at the start of an exchange. -/
def startOf (s : SerialState) (x : Exchange) : SerialState :=
  { s with line := [x.receives, []], sends := [x.send], sent := [], received := [] }

/-- The exchange of a call, up to what it did to the transport. -/
def exchange (s : PairState) (call : Call) (x : Exchange) : Except Exc XbpiFrame × SerialState :=
  (executeLocked serialTransport s.disposed call.request (call.timeout.getD s.defaultTimeout)
    call.commandName call.opcode).exec (startOf s.serial x)

/-- What is in flight when the port has taken the request. -/
def flightDuring (s : PairState) (x : Exchange) (sent : List Bytes) : Bytes :=
  if sent ≠ [] ∧ (x.send = .ok ∨ x.heard) then s.flight ++ x.answer else s.flight

/-- A step exists only if the device sends well-formed frames and the port delivers only what is in flight. -/
def step (s : PairState) : Event → Option PairState
  | .arrive call => some { s with waiting := s.waiting ++ [call] }
  | .abandon id => some { s with waiting := s.waiting.filter (·.id ≠ id) }
  | .dispose => some { s with disposed := true }
  | .serve x =>
      match s.waiting with
      | [] => none
      | call :: waiting =>
          let (result, serial) := exchange s call x
          let flight := flightDuring s x serial.sent
          if (parseFrame x.answer).isOk ∧ serial.received.isPrefixOf flight then
            some
              { s with
                serial, waiting,
                -- the line loses a phase when the input is discarded
                flight := flight.drop
                  (serial.received.length + if serial.line.length < 2 then x.discarded else 0)
                returned := match result with
                  | .ok f => s.returned ++ [(x.answer, f)]
                  | .error _ => s.returned }
          else none

/-- Every frame that was returned is the device's answer to that very call. -/
def Paired (s : PairState) : Prop := ∀ p ∈ s.returned, p.2 = frameOf p.1

/-- When a call is served, no byte of an earlier answer is still to come or kept in the pushback. -/
def Settled (s : PairState) : Event → Prop
  | .serve _ => s.flight = [] ∧ s.serial.pushback = []
  | _ => True

/-! ## One exchange -/

theorem readRaw_took {timeout : Rat} {raw : Bytes} {s s' : SerialState}
    (h : (readRaw serialTransport timeout).exec s = (.ok raw, s')) : Took raw s s' := by
  obtain ⟨b, t, hfirst, h⟩ := Prog.exec_bind_eq_ok.mp h
  obtain ⟨rest, u, hsecond, h⟩ := Prog.exec_bind_eq_ok.mp h
  cases h
  have hfirst : (SerialTransport.readExact 1 timeout).exec s = (.ok b, t) := hfirst
  have hsecond : (SerialTransport.readExact (b.headD 0).toNat timeout).exec t = (.ok rest, s') := hsecond
  exact (readExact_took hfirst).trans (readExact_took hsecond)

/-- An exchange that returns a frame has read it. -/
theorem executeLocked_took {disposed : Bool} {request : Bytes} {timeout : Rat} {name : String}
    {opcode : Option Int} {f : XbpiFrame} {s s' : SerialState}
    (h : (executeLocked serialTransport disposed request timeout name opcode).exec s = (.ok f, s')) :
    ∃ raw t, IsFrame raw ∧ f = frameOf raw ∧ s.sends.headD .ok = .ok ∧
      t = { s with sends := s.sends.tail, sent := s.sent ++ [request] } ∧ Took raw t s' := by
  unfold executeLocked at h
  split at h
  · cases h
  · obtain ⟨u, t, hwrite, h⟩ := Prog.exec_bind_eq_ok.mp h
    obtain ⟨raw, t', hread, h⟩ := Prog.exec_bind_eq_ok.mp h
    have hwrite : (SerialTransport.write request timeout).exec s = (.ok u, t) := hwrite
    cases hparse : parseFrame raw with
    | error e =>
        simp only [hparse] at h
        obtain ⟨_, _, _, h⟩ := Prog.exec_bind_eq_ok.mp h
        cases h
    | ok frame =>
        simp only [hparse] at h
        cases hreply : frameReply frame name opcode with
        | error e =>
            rw [hreply] at h
            cases h
        | ok f' =>
            rw [hreply, exec_liftExcept_ok] at h
            obtain ⟨rfl, rfl⟩ : f' = f ∧ t' = s' := by simpa using h
            obtain ⟨rfl, -⟩ := frameReply_eq_ok hreply
            obtain ⟨hframe, hf⟩ := parseFrame_eq_ok_iff.mp hparse
            obtain ⟨ht, hsend⟩ := write_ok hwrite
            exact ⟨raw, t, hframe, hf, hsend, ht, readRaw_took hread⟩

/-- With nothing outstanding, the frame that an exchange returns is the answer to its own request, and
afterwards nothing is outstanding again. -/
theorem exchange_settled {s : PairState} {call : Call} {x : Exchange} {f : XbpiFrame} {serial : SerialState}
    (hflight : s.flight = []) (hpush : s.serial.pushback = []) (hanswer : IsFrame x.answer)
    (h : exchange s call x = (.ok f, serial))
    (hreceived : serial.received <+: flightDuring s x serial.sent) :
    f = frameOf x.answer ∧ flightDuring s x serial.sent = serial.received ∧ serial.pushback = [] := by
  obtain ⟨raw, t, hframe, rfl, hsend, rfl, htook⟩ := executeLocked_took h
  obtain ⟨got, hgot, hbytes⟩ := htook.bytes
  have hsent : serial.sent = [call.request] := htook.sent
  have hok : x.send = .ok := hsend
  have hduring : flightDuring s x serial.sent = x.answer := by
    simp [flightDuring, hsent, hok, hflight]
  obtain ⟨late, hlate⟩ := hduring ▸ hreceived
  have hgot : serial.received = got := hgot
  have hbytes : got = raw ++ serial.pushback := by
    have : s.serial.pushback ++ got = raw ++ serial.pushback := hbytes
    rwa [hpush, List.nil_append] at this
  have hsame : raw ++ (serial.pushback ++ late) = x.answer ++ [] := by
    rw [← List.append_assoc, ← hbytes, ← hgot, hlate, List.append_nil]
  obtain ⟨rfl, hrest⟩ := hframe.eq_of_prefix hanswer hsame
  obtain ⟨hp, hl⟩ := List.append_eq_nil_iff.mp hrest
  exact ⟨rfl, by rw [hduring, hgot, hbytes, hp, List.append_nil], hp⟩

/-! ## Every run -/

/-- What a served call does to the state. -/
theorem step_serve {s s' : PairState} {x : Exchange} (h : step s (.serve x) = some s') :
    ∃ call waiting result serial, s.waiting = call :: waiting ∧ exchange s call x = (result, serial) ∧
      IsFrame x.answer ∧ serial.received <+: flightDuring s x serial.sent ∧
      s'.serial = serial ∧ s'.waiting = waiting ∧
      s'.flight = (flightDuring s x serial.sent).drop
        (serial.received.length + if serial.line.length < 2 then x.discarded else 0) ∧
      s'.returned = match result with
        | .ok f => s.returned ++ [(x.answer, f)]
        | .error _ => s.returned := by
  simp only [step] at h
  split at h
  · cases h
  · rename_i call waiting hwaiting
    split at h
    · rename_i hvalid
      obtain rfl := Option.some.inj h
      obtain ⟨hanswer, hreceived⟩ := hvalid
      obtain ⟨f, hf⟩ : ∃ f, parseFrame x.answer = .ok f := by
        cases hp : parseFrame x.answer with
        | ok f => exact ⟨f, rfl⟩
        | error e => rw [hp] at hanswer; cases hanswer
      exact ⟨call, waiting, _, _, hwaiting, rfl, (parseFrame_eq_ok_iff.mp hf).1,
        List.isPrefixOf_iff_prefix.mp hreceived, rfl, rfl, rfl, rfl⟩
    · cases h

theorem paired_step (s : PairState) (e : Event) (s' : PairState) (hs : Paired s) (hg : Settled s e)
    (h : step s e = some s') : Paired s' := by
  cases e with
  | arrive call => cases h; exact hs
  | abandon id => cases h; exact hs
  | dispose => cases h; exact hs
  | serve x =>
      obtain ⟨call, waiting, result, serial, -, hx, hanswer, hreceived, -, -, -, hreturned⟩ := step_serve h
      cases result with
      | error e =>
          intro p hp
          rw [hreturned] at hp
          exact hs p hp
      | ok f =>
          intro p hp
          rw [hreturned, List.mem_append, List.mem_singleton] at hp
          rcases hp with hp | rfl
          · exact hs p hp
          · exact (exchange_settled hg.1 hg.2 hanswer hx hreceived).1

/-- In every run in which no answer is outstanding when a call is served, every frame that is returned is the
answer to its own request. -/
theorem paired_run {s s' : PairState} {es : List Event} (hs : Paired s) (hg : Guarded step Settled s es)
    (h : run step s es = some s') : Paired s' :=
  run_invariant paired_step hs hg h

/-- A call that returns its frame leaves nothing outstanding to the next one. -/
theorem settled_of_returned {s s' : PairState} {x : Exchange} (hg : Settled s (.serve x))
    (h : step s (.serve x) = some s') (hreturned : s'.returned ≠ s.returned) (x' : Exchange) :
    Settled s' (.serve x') := by
  obtain ⟨call, waiting, result, serial, -, hx, hanswer, hreceived, hserial, -, hflight, hret⟩ := step_serve h
  cases result with
  | error e => exact absurd hret hreturned
  | ok f =>
      obtain ⟨-, hall, hpush⟩ := exchange_settled hg.1 hg.2 hanswer hx hreceived
      refine ⟨?_, by rw [hserial]; exact hpush⟩
      rw [hflight, hall]
      exact List.drop_of_length_le (Nat.le_add_right _ _)

/-- A client on an open port, with nothing outstanding. -/
def idle : PairState where
  serial := { settings := { port := "COM3" } }

def readModel : Call where
  id := 1
  request := [0x04, 0x01, 0x09, 0x02, 0x10]
  commandName := "read_model"
  opcode := some 0x02

def readSerial : Call where
  id := 2
  request := [0x04, 0x01, 0x09, 0x03, 0x11]
  commandName := "read_serial"
  opcode := some 0x03

def modelAnswer : Bytes := assembleFrame 0x21 [0x4D]

def serialAnswer : Bytes := assembleFrame 0x21 [0x53]

def modelExchange : Exchange where
  answer := modelAnswer
  receives := [.chunk modelAnswer]

/-- The answer comes in two parts. -/
def serialExchange : Exchange where
  answer := serialAnswer
  receives := [.chunk (serialAnswer.take 3), .chunk (serialAnswer.drop 3)]

/-- Two calls wait for the lock, and the answer to each arrives in time. -/
def answeredRun : List Event :=
  [.arrive readModel, .arrive readSerial, .serve modelExchange, .serve serialExchange]

theorem paired_run_answered : ∃ s', run step idle answeredRun = some s' ∧
    s'.returned.map Prod.fst = [modelAnswer, serialAnswer] ∧ Paired s' := by
  have hidle : Paired idle := fun p hp => by cases hp
  have hguard : Guarded step Settled idle answeredRun := by
    refine ⟨trivial, fun s₁ h₁ => ⟨trivial, fun s₂ h₂ => ?_⟩⟩
    cases h₁
    cases h₂
    refine ⟨⟨rfl, rfl⟩, fun s₃ h₃ => ⟨?_, fun _ _ => trivial⟩⟩
    refine settled_of_returned (x := modelExchange) ⟨rfl, rfl⟩ h₃ (fun hsame => ?_) _
    have hone := congrArg (Option.map fun s : PairState => s.returned.length) h₃
    rw [Option.map_some, hsame] at hone
    revert hone
    decide +kernel
  obtain ⟨s', hrun, hreturned⟩ := Option.map_eq_some_iff.mp
    (show (run step idle answeredRun).map (fun s => s.returned.map Prod.fst) = some [modelAnswer, serialAnswer] by
      decide +kernel)
  exact ⟨s', hrun, hreturned, paired_run hidle hguard hrun⟩

/-- A reply that arrives after its caller gave up is returned to the next caller. -/
theorem late_reply_misread : ¬ ∀ es s', run step idle es = some s' → Paired s' := by
  intro h
  have hrun : (run step idle
      [.arrive readModel, .arrive readSerial, .serve { answer := modelAnswer, receives := [.expire] },
        .serve { answer := serialAnswer, receives := [.chunk modelAnswer] }]).map (·.returned) =
      some [(serialAnswer, frameOf modelAnswer)] := by
    decide +kernel
  obtain ⟨s', hs', hreturned⟩ := Option.map_eq_some_iff.mp hrun
  have := h _ s' hs' (serialAnswer, frameOf modelAnswer) (by rw [hreturned]; simp)
  revert this
  decide +kernel

end SartoriusLib.Xbpi.Pairing
