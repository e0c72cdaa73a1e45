import SartoriusLib.Protocol.Detect
import SartoriusLib.Protocol.Xbpi.Drain

/-!
# What detection does to the line

Detection listens first and writes only when it heard no autoprint. What it writes is at most its three
read-only probes in their order, each of them behind a discard of the input. All of it is stated about the
trace of the calls, over a transport whose calls may end in any way.
-/

namespace SartoriusLib.Detect

open SartoriusLib Lib

/-! ## The account of a trace -/

/-- The lines that were read before anything was discarded or written. -/
def sniffed : List LineEvent → List Bytes
  | .readLine (some line) :: es => line :: sniffed es
  | .readLine none :: es => sniffed es
  | _ => []

/-- The autoprint lines among them. -/
def recognised (es : List LineEvent) : List Bytes := (sniffed es).filter Sbi.isAutoprintLine

/-- The probes that detection may send, in their order; without a request to send it sends nothing. -/
def probes (srcSbn dstSbn : Int) : List Bytes :=
  match Xbpi.buildCommand xbpiProbeOpcode [] srcSbn dstSbn with
  | .ok readModel => [readModel, Sbi.TOKEN_TYPE, Sbi.TOKEN_PRINT]
  | .error _ => []

/-- Since the write before it the input was discarded ahead of each write. -/
def DrainsFirst (es : List LineEvent) : Prop :=
  ∀ before data later, es = before ++ .wrote data :: later →
    ∃ earlier since, before = earlier ++ .drained :: since ∧ writes since = []

/-- Detection was passive and bounded, and its result is what it heard. -/
structure Passive (srcSbn dstSbn : Int) (result : Except Exc DetectionResult) (es : List LineEvent) : Prop where
  silent : recognised es ≠ [] → writes es = []
  bounded : writes es <+: probes srcSbn dstSbn
  settings : LineEvent.reopened ∉ es
  drains : DrainsFirst es
  atMostOne : (recognised es).length ≤ 1
  reports : recognised es ≠ [] → ∃ d, result = .ok d
  resolved : ∀ d, result = .ok d → d.protocol ≠ .auto
  autoprint : ∀ d, result = .ok d → (d.autoprintActive = true ↔ recognised es ≠ [])
  pendingLines : ∀ d, result = .ok d → d.pendingLines = recognised es

/-! ## Traces of probes -/

/-- After a discard of the input: the tokens sent in turn, each read after, the next one behind a discard. -/
inductive Sent : List Bytes → List LineEvent → Prop where
  | nothing {tokens} : Sent tokens []
  | last {token tokens reads} : OnlyReads reads → Sent (token :: tokens) (.wrote token :: reads)
  | next {token tokens reads es} : OnlyReads reads → Sent tokens es →
      Sent (token :: tokens) (.wrote token :: reads ++ .drained :: es)

theorem Sent.writes_prefix {tokens : List Bytes} {es : List LineEvent} (h : Sent tokens es) :
    writes es <+: tokens := by
  induction h with
  | nothing => exact List.nil_prefix
  | last hreads => simp [hreads.writes]
  | next hreads _ ih => simpa [hreads.writes] using ih

theorem Sent.settings {tokens : List Bytes} {es : List LineEvent} (h : Sent tokens es) :
    LineEvent.reopened ∉ es := by
  induction h with
  | nothing => exact List.not_mem_nil
  | last hreads => simpa using hreads.settings
  | next hreads _ ih => simpa using ⟨hreads.settings, ih⟩

theorem DrainsFirst.of_writes {es : List LineEvent} (h : writes es = []) : DrainsFirst es := by
  rintro before data later rfl
  simp at h

theorem DrainsFirst.append {es later : List LineEvent} (h : DrainsFirst es) (h' : DrainsFirst later) :
    DrainsFirst (es ++ later) := by
  intro before data rest heq
  rcases List.append_eq_append_iff.mp heq with ⟨middle, rfl, hlater⟩ | ⟨middle, hes, hrest⟩
  · obtain ⟨earlier, since, rfl, hsince⟩ := h' middle data rest hlater
    exact ⟨es ++ earlier, since, (List.append_assoc ..).symm, hsince⟩
  · cases middle with
    | nil =>
        obtain ⟨earlier, since, hnil, -⟩ := h' [] data rest hrest.symm
        simp at hnil
    | cons e middle =>
        obtain ⟨rfl, -⟩ := List.cons.inj hrest
        exact h before data middle hes

/-- One probe behind a discard. -/
theorem DrainsFirst.probe {reads : List LineEvent} (hreads : OnlyReads reads) (token : Bytes) :
    DrainsFirst (.drained :: .wrote token :: reads) := by
  intro before data later heq
  match before with
  | [] => cases heq
  | [e] =>
      obtain ⟨rfl, -⟩ := List.cons.inj heq
      exact ⟨[], [], rfl, rfl⟩
  | e :: e' :: before =>
      simp only [List.cons_append, List.cons.injEq] at heq
      have hnone := hreads.writes
      rw [heq.2.2] at hnone
      simp at hnone

theorem Sent.drainsFirst {tokens : List Bytes} {es : List LineEvent} (h : Sent tokens es) :
    DrainsFirst (.drained :: es) := by
  induction h with
  | nothing => exact .of_writes rfl
  | last hreads => exact .probe hreads _
  | next hreads _ ih => exact (DrainsFirst.probe hreads _).append ih

/-! ## The sniff -/

/-- The events of a sniff: lines of which only the last one can be autoprint. -/
inductive Heard : Bool × List Bytes → List LineEvent → Prop where
  | stopped : Heard (false, []) []
  | silence : Heard (false, []) [.readLine none]
  | found {line} : Sbi.isAutoprintLine line = true → Heard (true, [line]) [.readLine (some line)]
  | ambiguous {line result es} : Sbi.isAutoprintLine line = false → Heard result es →
      Heard result (.readLine (some line) :: es)

theorem Heard.reads {result : Bool × List Bytes} {es : List LineEvent} (h : Heard result es) : OnlyReads es := by
  induction h with
  | stopped => exact .nil
  | silence => exact .line none
  | found _ => exact .line _
  | ambiguous _ _ ih => exact (OnlyReads.line _).append ih

/-- What follows a sniff without a read is not part of it. -/
theorem Heard.recognised {result : Bool × List Bytes} {es : List LineEvent} (h : Heard result es)
    (later : List LineEvent) (hlater : sniffed later = []) :
    recognised (es ++ later) = result.2 ∧ (result.1 = true ↔ result.2 ≠ []) := by
  induction h with
  | stopped => simp [Detect.recognised, hlater]
  | silence => simp [Detect.recognised, sniffed, hlater]
  | found hauto => simp [Detect.recognised, sniffed, hlater, hauto]
  | ambiguous hauto _ ih => simpa [Detect.recognised, sniffed, hauto] using ih

/-- A sniff ends with its result, or with an exception after lines that were not autoprint. -/
def Sniffs : Except Exc (Bool × List Bytes) → List LineEvent → Prop
  | .ok result, es => Heard result es ∧ result.2.length ≤ 1
  | .error _, es => Heard (false, []) es

variable {W : Type} (T : Transport W)

theorem sniffLoop_emits (clock : List Rat) : Prog.Emits Traced.events (sniffLoop (traced T) clock) Sniffs := by
  induction clock with
  | nil => exact .pure ⟨.stopped, Nat.zero_le 1⟩
  | cons remaining clock ih =>
      have hline : Prog.Emits Traced.events
          (exceptClasses [.timeoutError] (some <$> (traced T).readUntil Sbi.lineTerminator remaining)
            fun _ => pure none)
          fun r es => match r with
            | .ok line => es = [.readLine line]
            | .error _ => es = [.readLine none] := by
        refine Emits.exceptClasses
          (Prog.Emits.map (R := fun r es => match r with
            | .ok line => es = [.readLine line]
            | .error _ => es = [.readLine none]) (readUntil_emits T _ _) (fun _ _ h => h) fun _ _ h => h)
          (fun _ _ h => h) (fun _ _ h _ => h) fun _ es h _ => .pure ?_
        rw [List.append_nil]
        exact h
      refine hline.bind (fun _ es h => h ▸ .silence) fun line es h => ?_
      obtain rfl : es = [.readLine line] := h
      cases line with
      | none => exact .pure ⟨.silence, Nat.zero_le 1⟩
      | some raw =>
          dsimp only
          split
          · rename_i hauto
            exact .pure ⟨.found hauto, Nat.le_refl 1⟩
          · rename_i hauto
            have hauto := Bool.eq_false_iff.mpr hauto
            refine ih.conseq fun r later hlater => ?_
            cases r with
            | ok result => exact ⟨.ambiguous hauto hlater.1, hlater.2⟩
            | error e => exact Heard.ambiguous hauto hlater

theorem sniffForAutoprint_emits (sniffWindow : Rat) (clock : List Rat) :
    Prog.Emits Traced.events (sniffForAutoprint (traced T) sniffWindow clock) Sniffs := by
  unfold sniffForAutoprint
  split
  · exact .pure ⟨.stopped, Nat.zero_le 1⟩
  · exact sniffLoop_emits T clock

/-! ## The probes -/

theorem drain_emits : Prog.Emits Traced.events (suppress (traced T).drainInput) fun _ es => es = [.drained] :=
  Emits.suppress (drainInput_emits T)

/-- The xBPI probe sends its request and reads, or has no request to send. -/
theorem probeXbpi_emits (timeout : Rat) (srcSbn dstSbn : Int) :
    Prog.Emits Traced.events (probeXbpi (traced T) timeout srcSbn dstSbn) fun r es =>
      match Xbpi.buildCommand xbpiProbeOpcode [] srcSbn dstSbn with
      | .ok request => ∃ reads, OnlyReads reads ∧ es = .wrote request :: reads
      | .error e => r = .error (.sartorius e) ∧ es = [] := by
  unfold probeXbpi
  cases Xbpi.buildCommand xbpiProbeOpcode [] srcSbn dstSbn with
  | error e => exact Prog.Emits.throw ⟨rfl, rfl⟩
  | ok request =>
      have hprobe : Prog.Emits Traced.events
          (do
            (traced T).write request timeout
            let raw ← Xbpi.readRaw (traced T) timeout
            let _ ← liftExcept (Xbpi.parseFrame raw)
            Pure.pure true : Py (Traced W) Bool)
          fun _ es => ∃ reads, OnlyReads reads ∧ es = .wrote request :: reads := by
        refine (write_emits T request timeout).bind (fun _ _ h => ⟨[], .nil, h⟩) fun _ _ h => ?_
        obtain rfl := h
        refine (Xbpi.readRaw_emits T timeout).bind (fun _ es h => ⟨es, h, rfl⟩) fun raw es h => ?_
        refine (Emits.liftExcept (P := fun _ later => later = []) rfl).bind ?_ fun _ later hlater => ?_
        · rintro _ _ rfl
          exact ⟨es, h, by simp⟩
        · obtain rfl := hlater
          exact .pure ⟨es, h, by simp⟩
      refine Emits.exceptClasses hprobe (fun _ _ h => h) (fun _ _ h _ => h) fun _ es h _ => .pure ?_
      simpa using h

theorem probeSbiTokens_emits (timeout : Rat) (tokens : List Bytes) :
    Prog.Emits Traced.events (probeSbiTokens (traced T) timeout tokens) fun _ es => Sent tokens es := by
  induction tokens with
  | nil => exact .pure .nothing
  | cons token tokens ih =>
      -- a token that was not answered has been followed by a discard of the input
      have hanswer : Prog.Emits Traced.events
          (exceptClasses [.timeoutError, .protocolError]
            (do
              (traced T).write token timeout
              let _ ← (traced T).readUntil Sbi.lineTerminator timeout
              Pure.pure true)
            fun _ => do
              suppress (traced T).drainInput
              Pure.pure false : Py (Traced W) Bool)
          fun r es => ∃ reads, OnlyReads reads ∧ match r with
            | .ok false => es = .wrote token :: reads ++ [.drained]
            | .ok true => es = .wrote token :: reads
            | .error _ => es = .wrote token :: reads ∨ es = .wrote token :: reads ++ [.drained] := by
        have hsend : Prog.Emits Traced.events
            (do
              (traced T).write token timeout
              let _ ← (traced T).readUntil Sbi.lineTerminator timeout
              Pure.pure true : Py (Traced W) Bool)
            fun r es => r ≠ .ok false ∧ ∃ reads, OnlyReads reads ∧ es = .wrote token :: reads := by
          refine (write_emits T token timeout).bind (fun _ _ h => ⟨nofun, [], .nil, h⟩) fun _ _ h => ?_
          obtain rfl := h
          refine (readUntil_emits T _ timeout).bind (fun _ es h => ⟨nofun, es, h ▸ .line _, rfl⟩) fun raw es h => ?_
          exact .pure ⟨nofun, es, h ▸ .line _, by simp⟩
        refine Emits.exceptClasses hsend ?_ ?_ ?_
        · rintro (_ | _) es ⟨hne, reads, hreads, hes⟩
          · exact absurd rfl hne
          · exact ⟨reads, hreads, hes⟩
        · rintro e es ⟨-, reads, hreads, hes⟩ -
          exact ⟨reads, hreads, .inl hes⟩
        · rintro e es ⟨-, reads, hreads, rfl⟩ -
          refine (drain_emits T).bind (fun _ _ h => ⟨reads, hreads, .inr (h ▸ rfl)⟩) fun _ _ h => ?_
          exact .pure ⟨reads, hreads, by simp [h]⟩
      refine hanswer.bind ?_ ?_
      · rintro e es ⟨reads, hreads, rfl | rfl⟩
        · exact .last hreads
        · exact .next hreads .nothing
      · rintro (_ | _) es ⟨reads, hreads, hes⟩
        · refine ih.conseq fun r later hlater => ?_
          simpa [hes] using Sent.next hreads hlater
        · refine Prog.Emits.pure ?_
          simpa [hes] using Sent.last hreads

/-! ## The whole detection -/

/-- After a sniff without autoprint: the probes, each behind a discard, and a protocol or an exception. -/
theorem probeInTurn_emits (label : String) (timeout sniffWindow : Rat) (srcSbn dstSbn : Int) :
    Prog.Emits Traced.events (probeInTurn (traced T) label timeout sniffWindow srcSbn dstSbn) fun r es =>
      Sent (probes srcSbn dstSbn) es ∧
        ∀ d, r = .ok d → d.protocol ≠ .auto ∧ d.autoprintActive = false ∧ d.pendingLines = [] := by
  have hxbpi := probeXbpi_emits T timeout srcSbn dstSbn
  unfold probeInTurn probes
  cases hrequest : Xbpi.buildCommand xbpiProbeOpcode [] srcSbn dstSbn with
  | error e =>
      rw [hrequest] at hxbpi
      refine hxbpi.bind ?_ ?_
      · rintro _ _ ⟨-, rfl⟩
        exact ⟨.nothing, nofun⟩
      · rintro _ _ ⟨h, -⟩
        cases h
  | ok request =>
      rw [hrequest] at hxbpi
      refine hxbpi.bind ?_ ?_
      · rintro _ _ ⟨reads, hreads, rfl⟩
        exact ⟨.last hreads, nofun⟩
      rintro found _ ⟨reads, hreads, rfl⟩
      cases found with
      | true =>
          refine Prog.Emits.pure ⟨?_, ?_⟩
          · simpa using Sent.last hreads
          · rintro d h
            cases h
            exact ⟨nofun, rfl, rfl⟩
      | false =>
          refine (drain_emits T).bind (fun e es h => ⟨h ▸ .next hreads .nothing, nofun⟩) fun _ _ h => ?_
          obtain rfl := h
          refine (probeSbiTokens_emits T timeout _).bind (fun e es h => ?_) fun answered es h => ?_
          · refine ⟨?_, nofun⟩
            simpa using Sent.next hreads h
          · cases answered with
            | true =>
                refine Prog.Emits.pure ⟨?_, ?_⟩
                · simpa using Sent.next hreads h
                · rintro d h
                  cases h
                  exact ⟨nofun, rfl, rfl⟩
            | false =>
                refine Prog.Emits.throw ⟨?_, nofun⟩
                simpa using Sent.next hreads h

/-- A trace of a sniff and, if nothing was recognised, of probes. -/
theorem passive_of_probes {srcSbn dstSbn : Int} {r : Except Exc DetectionResult} {heard es : List LineEvent}
    (hheard : Heard (false, []) heard) (hes : Sent (probes srcSbn dstSbn) es)
    (hr : ∀ d, r = .ok d → d.protocol ≠ .auto ∧ d.autoprintActive = false ∧ d.pendingLines = []) :
    Passive srcSbn dstSbn r (heard ++ .drained :: es) := by
  obtain ⟨hnone, -⟩ := hheard.recognised (.drained :: es) rfl
  have hwrites : writes (heard ++ .drained :: es) = writes es := by simp [hheard.reads.writes]
  refine ⟨fun h => absurd hnone h, hwrites ▸ hes.writes_prefix, ?_, ?_, by simp [hnone],
    fun h => absurd hnone h, fun d h => (hr d h).1, fun d h => ?_, fun d h => ?_⟩
  · simpa using ⟨hheard.reads.settings, hes.settings⟩
  · exact (DrainsFirst.of_writes hheard.reads.writes).append hes.drainsFirst
  · simp [(hr d h).2.1, hnone]
  · rw [hnone, (hr d h).2.2]

/-- Whatever the line does, detection is passive and bounded. -/
theorem detectProtocol_passive (T : Transport W) (timeout sniffWindow : Rat) (srcSbn dstSbn : Int)
    (clock : List Rat) (w : W) :
    Passive srcSbn dstSbn
      ((detectProtocol (traced T) timeout sniffWindow srcSbn dstSbn clock).exec ⟨w, []⟩).1
      ((detectProtocol (traced T) timeout sniffWindow srcSbn dstSbn clock).exec ⟨w, []⟩).2.events := by
  have hrun : Prog.Emits Traced.events (detectProtocol (traced T) timeout sniffWindow srcSbn dstSbn clock)
      (Passive srcSbn dstSbn) := by
    refine Prog.Emits.get_bind fun s => ?_
    refine (sniffForAutoprint_emits T sniffWindow clock).bind ?_ ?_
    · intro e heard hheard
      obtain ⟨hnone, -⟩ := hheard.recognised [] rfl
      rw [List.append_nil] at hnone
      have hwrites := hheard.reads.writes
      exact ⟨fun h => absurd hnone h, hwrites ▸ List.nil_prefix, hheard.reads.settings, .of_writes hwrites,
        by simp [hnone], fun h => absurd hnone h, nofun, nofun, nofun⟩
    · rintro ⟨autoprint, lines⟩ heard ⟨hheard, hlines⟩
      cases autoprint with
      | true =>
          obtain ⟨hlast, hauto⟩ := hheard.recognised [] rfl
          rw [List.append_nil] at hlast
          have hwrites := hheard.reads.writes
          refine Prog.Emits.pure ?_
          rw [List.append_nil]
          refine ⟨fun _ => hwrites, hwrites ▸ List.nil_prefix, hheard.reads.settings, .of_writes hwrites,
            hlast ▸ hlines, fun _ => ⟨_, rfl⟩, ?_, ?_, ?_⟩
          · rintro d h
            cases h
            nofun
          · rintro d h
            cases h
            rw [hlast]
            exact hauto
          · rintro d h
            cases h
            exact hlast.symm
      | false =>
          have hempty : lines = [] := by
            have := (hheard.recognised [] rfl).2
            simpa using this
          subst hempty
          refine (drain_emits T).bind (fun e es h => ?_) fun _ _ h => ?_
          · obtain rfl := h
            exact passive_of_probes hheard .nothing nofun
          · obtain rfl := h
            refine (probeInTurn_emits T _ timeout sniffWindow srcSbn dstSbn).conseq fun r es h => ?_
            exact passive_of_probes hheard h.1 h.2
  obtain ⟨es, hes, hpassive⟩ := hrun ⟨w, []⟩
  rw [List.nil_append] at hes
  rw [hes]
  exact hpassive

end SartoriusLib.Detect
