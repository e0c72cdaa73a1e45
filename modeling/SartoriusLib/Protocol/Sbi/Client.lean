import SartoriusLib.Protocol.Sbi.Parser
import SartoriusLib.Transport.Base

/-!
# The SBI client

One exchange writes a token and reads the number of lines that the command is known to answer with. Lines
that belong to the autoprint stream are kept in a queue for the next read.
-/

namespace SartoriusLib.Sbi

open SartoriusLib Lib

/-- The mutable part of a client; `id` is the identity of the object. -/
structure SbiClient where
  id : Nat
  defaultTimeout : Rat := 1
  pendingLines : List Bytes := []
  autoprintActive : Bool := false
  disposed : Bool := false
  deriving DecidableEq, Repr

/-- A client together with the world of its transport. -/
structure SbiLink (W : Type) where
  client : SbiClient
  world : W

namespace SbiClient

def dispose (c : SbiClient) : SbiClient := { c with disposed := true }

/-- A buffer without a terminator is queued as one chunk. -/
def queuePendingFront (c : SbiClient) (raw : Bytes) : SbiClient :=
  if raw = [] then c
  else if ¬ Bytes.endsWith raw [0x0A] then { c with pendingLines := raw :: c.pendingLines }
  else match splitLines raw with
    | .ok lines => { c with pendingLines := lines ++ c.pendingLines }
    | .error _ => c

/-- `mark_autoprint_active(pending=...)`. -/
def markAutoprintActive (c : SbiClient) (pending : Bytes := []) : SbiClient :=
  { c with autoprintActive := true }.queuePendingFront pending

end SbiClient

variable {W : Type}

/-- A transport operation of a client. -/
def onTransport {α : Type} (m : Py W α) : Py (SbiLink W) α :=
  Prog.zoom SbiLink.world (fun w s => { s with world := w }) m

def modifyClient (f : SbiClient → SbiClient) : Py (SbiLink W) Unit :=
  modify fun s => { s with client := f s.client }

def disposedError (commandName : String) (sbiToken : Option Bytes) : SartoriusError where
  cls := .connectionError
  message := "SBI client was retired during protocol reconfiguration; " ++
    "retry the command against the active session"
  context := { commandName := if commandName = "" then none else some commandName, sbiToken,
               protocol := some "sbi", extra := [("client_disposed", .flag true)] }

def raiseIfDisposed (commandName : String) (sbiToken : Option Bytes) : Py (SbiLink W) Unit := do
  let s ← get
  if s.client.disposed then throw (.sartorius (disposedError commandName sbiToken)) else pure ()

theorem exec_raiseIfDisposed (commandName : String) (sbiToken : Option Bytes) (s : SbiLink W) :
    (raiseIfDisposed commandName sbiToken).exec s =
      if s.client.disposed then (.error (.sartorius (disposedError commandName sbiToken)), s) else (.ok (), s) := by
  rw [raiseIfDisposed, Prog.exec_bind_ok (Prog.exec_get s)]
  split <;> rfl

theorem raiseIfDisposed_disposed {s : SbiLink W} (h : s.client.disposed = true) (commandName : String)
    (sbiToken : Option Bytes) :
    (raiseIfDisposed commandName sbiToken).exec s = (.error (.sartorius (disposedError commandName sbiToken)), s) := by
  rw [exec_raiseIfDisposed, if_pos h]

theorem raiseIfDisposed_live {s : SbiLink W} (h : ¬ s.client.disposed = true) (commandName : String)
    (sbiToken : Option Bytes) : (raiseIfDisposed commandName sbiToken).exec s = (.ok (), s) := by
  rw [exec_raiseIfDisposed, if_neg h]

/-- The first refusal among the lines of a reply. -/
def replyRefusal (reply : SbiReply) (commandName : String) (sbiToken : Option Bytes) :
    Option SartoriusError :=
  (reply.lines.find? fun line => line.kind = .refusal).map fun line =>
    let name := if commandName = "" then describeToken (sbiToken.getD []) else commandName
    { cls := .commandRejectedError,
      message := s!"SBI {name}: device rejected command ({String.ofList line.text})",
      context := { commandName := if commandName = "" then none else some commandName, sbiToken,
                   rawResponse := some reply.raw, protocol := some "sbi",
                   extra := [("reason", .text (String.ofList line.text))] } }

def parseOrDrain (T : Transport W) (raw : Bytes) (commandName : String) (sbiToken : Option Bytes) :
    Py W SbiReply :=
  match parseReply raw with
  | .error e => do
      exceptException T.drainInput fun _ => pure ()
      throw (.sartorius e)
  | .ok reply =>
      match replyRefusal reply commandName sbiToken with
      | some e => throw (.sartorius e)
      | none => pure reply

/-- The reads of a reply, one line after the other. -/
def readLines (T : Transport W) (timeout : Rat) : Nat → Py W (List Bytes)
  | 0 => pure []
  | n + 1 => do
      let line ← T.readUntil lineTerminator timeout
      let later ← readLines T timeout n
      pure (line :: later)

def executeLocked (T : Transport W) (request : Bytes) (timeout : Rat) (commandName : String)
    (sbiToken : Option Bytes) (expectLines : Nat) : Py (SbiLink W) SbiReply := do
  raiseIfDisposed commandName sbiToken
  onTransport (T.write request timeout)
  if expectLines = 0 then pure { lines := [], raw := [] }
  else do
    let chunks ← onTransport (readLines T timeout expectLines)
    onTransport (parseOrDrain T chunks.flatten commandName sbiToken)

def execute (T : Transport W) (request : Bytes) (timeout : Rat) (commandName : String)
    (sbiToken : Option Bytes) (expectLines : Int) : Py (SbiLink W) SbiReply :=
  if expectLines < 0 then throw (.valueError s!"expect_lines must be >= 0, got {expectLines}")
  else executeLocked T request timeout commandName sbiToken expectLines.toNat

def readLine (T : Transport W) (timeout : Rat) (commandName : String := "sbi_autoprint") :
    Py (SbiLink W) SbiReply := do
  raiseIfDisposed commandName none
  match (← get).client.pendingLines with
  | raw :: later => do
      modifyClient fun c => { c with pendingLines := later }
      onTransport (parseOrDrain T raw commandName none)
  | [] => do
      let raw ← onTransport (T.readUntil lineTerminator timeout)
      onTransport (parseOrDrain T raw commandName none)

/-- The loop of a passive sniff; its list holds the time that remains at each test of the deadline that finds
the deadline ahead. -/
def sniffLines (T : Transport W) (maxLines : Nat) : List Rat → Py (SbiLink W) Unit
  | [] => pure ()
  | remaining :: later => do
      let s ← get
      if s.client.pendingLines.length < maxLines then do
        let line ← exceptClasses [.timeoutError]
          (some <$> onTransport (T.readUntil lineTerminator remaining)) fun _ => pure none
        match line with
        | none => pure ()
        | some raw => do
            modifyClient fun c => { c with pendingLines := c.pendingLines ++ [raw] }
            if isAutoprintLine raw then modifyClient fun c => { c with autoprintActive := true }
            else sniffLines T maxLines later
      else pure ()

def detectAutoprint (T : Transport W) (clock : List Rat) : Py (SbiLink W) Bool := do
  raiseIfDisposed "detect_autoprint" none
  sniffLines T 4 clock
  pure (← get).client.autoprintActive

/-- The queued lines are discarded before the sniff. -/
def refreshAutoprintState (T : Transport W) (clock : List Rat) : Py (SbiLink W) Bool := do
  raiseIfDisposed "refresh_autoprint_state" none
  modifyClient fun c => { c with pendingLines := [], autoprintActive := false }
  sniffLines T 4 clock
  pure (← get).client.autoprintActive

end SartoriusLib.Sbi
