import SartoriusLib.Devices.OpeningTrace

/-!
# What a request writes to the line

An exchange of a client gives its request to the line and nothing else, whatever the reply; a gate that refuses a
request gives nothing to it.
-/

namespace SartoriusLib

open Lib Prog Factory

variable {W : Type}

/-! ## xBPI -/

/-- An exchange of a live client gives its request to the line, and nothing else. -/
theorem Xbpi.executeLocked_writes (T : Transport W) {disposed : Bool} (hlive : disposed = false) (request : Bytes)
    (timeout : Rat) (commandName : String) (opcode : Option Int) :
    Prog.Emits Traced.events (Xbpi.executeLocked (traced T) disposed request timeout commandName opcode)
      fun _ es => writes es = [request] := by
  subst hlive
  rw [Xbpi.executeLocked, if_neg Bool.false_ne_true]
  refine (write_emits T request timeout).bind (fun _ _ h => by rw [h]; rfl) fun _ es h => ?_
  subst h
  refine (Xbpi.readRaw_emits T timeout).bind (fun _ _ h => by simp [h.writes]) fun raw es h => ?_
  cases Xbpi.parseFrame raw with
  | ok frame => exact Emits.liftExcept (by simp [h.writes])
  | error e =>
      refine Prog.Emits.bind (drainInput_silent T) (fun _ _ h' => by simp [h', h.writes]) fun _ _ h' => .throw ?_
      simp [h', h.writes]

/-- The session is as it was, and `frames` were given to the line. -/
structure Sends (frames : List Bytes) (h h' : Host (Traced W)) : Prop where
  session : h'.session = h.session
  writes : writes h'.world.events = writes h.world.events ++ frames

theorem Sends.refl (h : Host (Traced W)) : Sends [] h h := ⟨rfl, (List.append_nil _).symm⟩

theorem Sends.trans {frames later : List Bytes} {h h' h'' : Host (Traced W)} (hs : Sends frames h h')
    (hs' : Sends later h' h'') : Sends (frames ++ later) h h'' :=
  ⟨hs'.session.trans hs.session, by rw [hs'.writes, hs.writes, List.append_assoc]⟩

/-- The frame of a raw request, if the session lets the request through. -/
def asked (s : Session) (confirm : Bool) (opcode : Int) (args : Bytes) : List Bytes :=
  if s.active = .xbpi ∧ (opcode ∈ Commands.safeReadOnlyOpcodes ∨ confirm = true) then
    (Xbpi.buildCommand opcode args s.srcSbn s.dstSbn).toOption.toList
  else []

theorem executeRawXbpi_sends (T : Transport W) {h : Host (Traced W)} (hs : Opened h.session) (opcode : Int)
    (args : Bytes) (confirm : Bool) (timeout : Option Rat) :
    Sends (asked h.session confirm opcode args) h
      ((executeRawXbpi (traced T) opcode args confirm timeout).exec h).2 := by
  have hstate : h.session.checkState = .ok () := by rw [Session.checkState, if_neg (by simp [hs.operational])]
  rw [executeRawXbpi, exec_bind_ok (exec_get h)]
  dsimp only
  rw [hstate, exec_bind_ok (exec_liftExcept_ok _ _)]
  by_cases hactive : h.session.active = .xbpi
  · obtain ⟨client, hclient, hlive⟩ := hs.client hactive
    rw [if_neg (not_not.mpr hactive), hclient]
    dsimp only
    by_cases hgate : opcode ∈ Commands.safeReadOnlyOpcodes ∨ confirm = true
    · rw [if_neg (by tauto), asked, if_pos ⟨hactive, hgate⟩]
      cases hbuild : Xbpi.buildCommand opcode args h.session.srcSbn h.session.dstSbn with
      | error e => exact .refl h
      | ok request =>
          rw [exec_bind_ok (exec_liftExcept_ok _ _)]
          obtain ⟨es, hes, hwrites⟩ := Xbpi.executeLocked_writes T hlive request (timeout.getD h.session.defaultTimeout)
            s!"raw_xbpi[0x{hex02 opcode}]" (some opcode) h.world
          refine ⟨rfl, ?_⟩
          simp only [onWorld, exec_zoom]
          rw [hes, writes_append, hwrites]
          rfl
    · rw [if_pos (by tauto), asked, if_neg (by tauto)]
      exact .refl h
  · rw [if_pos hactive, asked, if_neg (by tauto)]
    exact .refl h

/-- A raw request that returns was sent. -/
theorem executeRawXbpi_asked {T : Transport W} {h : Host W} {opcode : Int} {args : Bytes} {confirm : Bool}
    {timeout : Option Rat} {frame : Xbpi.XbpiFrame}
    (hrun : ((executeRawXbpi T opcode args confirm timeout).exec h).1 = .ok frame) :
    ∃ request, asked h.session confirm opcode args = [request] := by
  rw [executeRawXbpi, exec_bind_ok (exec_get h)] at hrun
  dsimp only at hrun
  cases hstate : h.session.checkState with
  | error e =>
      rw [hstate, exec_bind_error (exec_liftExcept_error _ _)] at hrun
      cases hrun
  | ok u =>
      rw [hstate, exec_bind_ok (exec_liftExcept_ok _ _)] at hrun
      split at hrun
      · cases hrun
      rename_i hactive
      split at hrun
      · cases hrun
      split at hrun
      · cases hrun
      rename_i hgate
      cases hbuild : Xbpi.buildCommand opcode args h.session.srcSbn h.session.dstSbn with
      | error e =>
          rw [hbuild, exec_bind_error (exec_liftExcept_error _ _)] at hrun
          cases hrun
      | ok request => exact ⟨request, by rw [asked, if_pos ⟨not_not.mp hactive, by tauto⟩, hbuild]; rfl⟩

theorem asked_length (s : Session) (confirm : Bool) (opcode : Int) (args : Bytes) :
    (asked s confirm opcode args).length ≤ 1 := by
  rw [asked]
  split
  · cases (Xbpi.buildCommand opcode args s.srcSbn s.dstSbn).toOption <;> simp
  · exact Nat.zero_le _

/-! ## SBI -/

namespace Sbi

variable (T : Transport W)

theorem readLines_emits (timeout : Rat) (n : Nat) :
    Prog.Emits Traced.events (readLines (traced T) timeout n) fun _ es => OnlyReads es := by
  induction n with
  | zero => exact .pure .nil
  | succ n ih =>
      rw [readLines]
      refine (readUntil_emits T _ timeout).bind (fun _ _ h => h ▸ .line _) fun line es h => ?_
      subst h
      refine ih.bind (fun _ _ h => (OnlyReads.line _).append h) fun later es h => ?_
      refine .pure ?_
      rw [List.append_nil]
      exact (OnlyReads.line _).append h

theorem parseOrDrain_silent (raw : Bytes) (commandName : String) (sbiToken : Option Bytes) :
    Silent Traced.events (parseOrDrain (traced T) raw commandName sbiToken) := by
  unfold parseOrDrain
  cases parseReply raw with
  | error e =>
      exact (drainInput_silent T).bind fun _ => .throw _
  | ok reply =>
      dsimp only
      cases replyRefusal reply commandName sbiToken with
      | some e => exact .throw _
      | none => exact .pure _

theorem raiseIfDisposed_silent (commandName : String) (sbiToken : Option Bytes) :
    Silent (fun s : SbiLink (Traced W) => s.world.events) (raiseIfDisposed commandName sbiToken) := by
  refine Silent.get.bind fun s => ?_
  split
  · exact .throw _
  · exact .pure _

/-- An SBI exchange gives at most its token to the line, and gives it if it returns. -/
theorem execute_writes (request : Bytes) (timeout : Rat) (commandName : String) (sbiToken : Option Bytes)
    (expectLines : Int) :
    Prog.Emits (fun s : SbiLink (Traced W) => s.world.events)
      (execute (traced T) request timeout commandName sbiToken expectLines) fun result es =>
        writes es <+: [request] ∧ ∀ reply, result = .ok reply → writes es = [request] := by
  unfold execute
  split
  · exact .throw ⟨List.nil_prefix, fun _ h => by cases h⟩
  refine Prog.Emits.bind (raiseIfDisposed_silent commandName sbiToken)
    (fun _ es h => ⟨by simp [h], fun _ h => by cases h⟩) fun _ es hes => ?_
  have hwrite : Prog.Emits (fun s : SbiLink (Traced W) => s.world.events)
      (onTransport ((traced T).write request timeout)) fun _ es => writes es = [request] :=
    Prog.Emits.zoom (fun _ _ => rfl) ((write_emits T request timeout).conseq fun _ _ h => by rw [h]; rfl)
  refine hwrite.bind (fun _ later h => ⟨by simp [hes, h], fun _ h => by cases h⟩) fun _ written hwritten => ?_
  have hrest : Silent (fun s : SbiLink (Traced W) => s.world.events)
      (if expectLines.toNat = 0 then pure { lines := [], raw := [] }
      else do
        let chunks ← onTransport (readLines (traced T) timeout expectLines.toNat)
        onTransport (parseOrDrain (traced T) chunks.flatten commandName sbiToken)) := by
    split
    · exact .pure _
    · refine Silent.bind (Prog.Emits.zoom (fun _ _ => rfl)
        ((readLines_emits T timeout _).conseq fun _ _ h => h.writes)) fun chunks => ?_
      exact Prog.Emits.zoom (fun _ _ => rfl) (parseOrDrain_silent T _ _ _)
  refine hrest.conseq fun _ later hlater => ?_
  simp [hes, hwritten, hlater]

end Sbi

/-- What an SBI exchange of a session sends. -/
theorem sbiExchange_line (T : Transport W) (client : Sbi.SbiClient) (request : Bytes) (timeout : Rat)
    (commandName : String) (sbiToken : Bytes) (expectLines : Int) (h : Host (Traced W)) :
    ∃ sent,
      writes ((sbiExchange (traced T) client request timeout commandName sbiToken expectLines).exec h).2.world.events
        = writes h.world.events ++ sent ∧
      ((sbiExchange (traced T) client request timeout commandName sbiToken expectLines).exec h).2.session.active =
        h.session.active ∧ sent <+: [request] ∧
      ∀ reply, ((sbiExchange (traced T) client request timeout commandName sbiToken expectLines).exec h).1 = .ok reply →
        sent = [request] := by
  rw [sbiExchange, exec_bind_ok (exec_get h)]
  split
  · exact ⟨[], (List.append_nil _).symm, rfl, List.nil_prefix, fun _ h => by cases h⟩
  obtain ⟨es, hes, hbegins, hreturned⟩ := Sbi.execute_writes T request timeout commandName (some sbiToken) expectLines
    { client := client, world := h.world }
  have hexec : (onSbi client (Sbi.execute (traced T) request timeout commandName (some sbiToken) expectLines)).exec h =
      (((Sbi.execute (traced T) request timeout commandName (some sbiToken) expectLines).exec
          { client := client, world := h.world }).1,
        { h with
          world := ((Sbi.execute (traced T) request timeout commandName (some sbiToken) expectLines).exec
            { client := client, world := h.world }).2.world
          session := { h.session with sbi := some ((Sbi.execute (traced T) request timeout commandName (some sbiToken)
            expectLines).exec { client := client, world := h.world }).2.client } }) := rfl
  rcases hrun : (Sbi.execute (traced T) request timeout commandName (some sbiToken) expectLines).exec
    { client := client, world := h.world } with ⟨e | reply, s⟩ <;> rw [hrun] at hes hreturned hexec
  · rw [exec_bind_error hexec]
    exact ⟨writes es, by rw [← writes_append, ← hes], rfl, hbegins, fun _ h => by cases h⟩
  · rw [exec_bind_ok hexec, exec_bind_ok (exec_get _)]
    split
    · exact ⟨writes es, by rw [← writes_append, ← hes]; rfl, rfl, hbegins, fun _ h => by cases h⟩
    · exact ⟨writes es, by rw [← writes_append, ← hes]; rfl, rfl, hbegins, fun _ _ => hreturned reply rfl⟩

end SartoriusLib
