import SartoriusLib.Devices.Delivery
import SartoriusLib.Devices.Interleaving

/-!
# Autoprint output in place of a reply

The flag is looked at before the lock is taken, and the reply after it is given back. A reply in which autoprint
output is found ends the call, and its lines go to the front of the queue; only the client that the session has
then is asked, and only while its flag is off.
-/

namespace SartoriusLib

open Lib Prog Sbi

namespace Sbi

/-! ## The lines of a record -/

/-- A line of the record is autoprint output. -/
def autoprintIn (raw : Bytes) : Bool := (linesOf raw).any isAutoprintLine

/-- The lines of records are those of their concatenation. -/
theorem linesOf_records {records : List Bytes} (h : ∀ r ∈ records, Complete r) :
    linesOf records.flatten = records.flatMap linesOf := by
  obtain ⟨ls, hls, hlines⟩ : ∃ ls : List Bytes, (∀ l ∈ ls, IsLine l) ∧ records.flatten = ls.flatten ∧
      records.flatMap linesOf = ls := by
    induction records with
    | nil => exact ⟨[], by simp, rfl, rfl⟩
    | cons r records ih =>
        obtain ⟨later, hlater, hflat, hmap⟩ := ih fun r' hr' => h r' (List.mem_cons_of_mem _ hr')
        obtain ⟨ls, rfl, hls⟩ := h r List.mem_cons_self
        refine ⟨ls ++ later, fun l hl => (List.mem_append.mp hl).elim (hls l) (hlater l), ?_, ?_⟩
        · rw [List.flatten_cons, hflat, List.flatten_append]
        · rw [List.flatMap_cons, hmap, linesOf_flatten hls]
  rw [hlines.1, hlines.2, linesOf_flatten hls]

theorem autoprintActive_markAutoprintActive (c : SbiClient) (raw : Bytes) :
    (c.markAutoprintActive raw).autoprintActive = true := by
  simp only [SbiClient.markAutoprintActive, SbiClient.queuePendingFront]
  split
  · rfl
  · split
    · rfl
    · cases splitLines raw with
      | ok lines => rfl
      | error e => rfl

end Sbi

/-! ## Steps that read a reply -/

variable {W : Type}

/-- The name and the token of a command that expects a reply and does not print. -/
def ClientCall.query? : ClientCall → Option (String × Bytes)
  | .sbi _ _ _ commandName sbiToken expectLines =>
      if 0 < expectLines ∧ sbiToken ≠ TOKEN_PRINT then some (commandName, sbiToken) else none
  | _ => none

theorem ClientCall.query?_eq {call : ClientCall} {name : String} {token : Bytes}
    (h : call.query? = some (name, token)) :
    ∃ client request timeout expectLines,
      call = .sbi client request timeout name token expectLines ∧ 0 < expectLines ∧ token ≠ TOKEN_PRINT := by
  unfold query? at h
  split at h
  · split at h
    · rename_i hquery
      cases h
      exact ⟨_, _, _, _, rfl, hquery⟩
    · cases h
  · cases h

namespace Entry

/-- The records that the step took from the port. -/
def taken (e : Entry (Recorded W)) : List Bytes :=
  e.after.host.world.records.drop e.before.host.world.records.length

/-- The call has raised, its lines are at the front of the queue, and a poll will read them. -/
def Surprised (e : Entry (Recorded W)) (name : String) (token : Bytes) : Prop :=
  e.ended = some (.error (.sartorius (autoprintActiveError name (some token)))) ∧
    ∃ c c', e.before.host.session.sbi = some c ∧ e.after.host.session.sbi = some c' ∧
      c'.autoprintActive = true ∧ c'.pendingLines = e.taken.flatMap linesOf ++ c.pendingLines

/-- Autoprint output is not taken for the reply to a command. -/
def Faithful (e : Entry (Recorded W)) : Prop :=
  ∀ call name token, e.call = some call → call.query? = some (name, token) → e.taken.any autoprintIn = true →
    e.Surprised name token

end Entry

/-! ## One exchange -/

namespace Shared

theorem sbi?_id {s : Shared W} {client : Nat} {c : SbiClient} (h : s.sbi? client = some c) : c.id = client := by
  rcases Option.or_eq_some_iff.mp h with h | ⟨-, h⟩
  · simpa using (Option.filter_eq_some_iff.mp h).2
  · simpa using List.find?_some h

end Shared

section Exchange

variable {T : Transport W} {s : Shared (Recorded W)}

/-- The lines of a reply have all come, they parse, and no refusal is among them. -/
def decodes : Except Exc Bytes → Bool
  | .ok raw => (parseReply raw).isOk && !refusedIn raw
  | .error _ => false

/-- If autoprint output comes in place of the reply, then the client is the one that the session has, its flag is
off, and the reply decodes. -/
def ClientCall.undisturbed (T : Transport W) (s : Shared (Recorded W)) : ClientCall → Bool
  | .sbi client request timeout commandName sbiToken expectLines =>
      (s.sbi? client).all fun c =>
        let (reply, link) := (replyRecord (recorded T) request timeout commandName (some sbiToken) expectLines).exec
          ⟨s.retire c, s.host.world⟩
        (link.world.records.drop s.host.world.records.length).any autoprintIn →
          s.host.session.sbi = some c ∧ c.autoprintActive = false ∧ decodes reply
  | _ => true

/-- A reply in which the surprise test finds autoprint output. -/
theorem exec_surprise (hT : LineTransport T) {client : Nat} {request : Bytes} {timeout : Rat} {name : String}
    {token : Bytes} {expectLines : Nat} (hlines : 0 < expectLines) (htoken : token ≠ TOKEN_PRINT)
    (hcalm : (ClientCall.sbi client request timeout name token expectLines).undisturbed T s = true)
    {answer : Except Exc SbiReply} {t : Shared (Recorded W)}
    (hrun : ((ClientCall.sbi client request timeout name token expectLines).perform (recorded T)).exec s = (answer, t))
    (htaken : (t.host.world.records.drop s.host.world.records.length).any autoprintIn = true) :
    ∃ c reply, s.host.session.sbi = some c ∧ t.host.session.sbi = some (s.retire c) ∧ answer = .ok reply ∧
      replyIsSurpriseAutoprint t.host.session.sbi reply token = true ∧ Complete reply.raw ∧
      linesOf reply.raw = (t.host.world.records.drop s.host.world.records.length).flatMap linesOf := by
  cases hc : s.sbi? client with
  | none =>
      rw [ClientCall.perform, withSbi_none hc] at hrun
      cases hrun
      simp at htaken
  | some c =>
      rcases hx : (executeLocked (recorded T) request timeout name (some token) expectLines).exec
        ⟨s.retire c, s.host.world⟩ with ⟨x, link⟩
      obtain ⟨hanswer, hworld⟩ := withSbi_some hc (executeLocked (recorded T) request timeout name (some token)
        expectLines)
      rw [ClientCall.perform] at hrun
      rw [hrun, hx] at hanswer hworld
      simp only [ClientCall.undisturbed, hc, Option.all_some] at hcalm
      cases executeLocked_cases hT hlines.ne' hx with
      | inl hnone =>
          obtain ⟨e, hreply, -⟩ := hnone
          rw [hreply] at hcalm
          rw [hworld] at htaken
          simp [htaken, decodes] at hcalm
      | inr hsome =>
          obtain ⟨raw, u, hreply, hverdict, hclient, hrecords⟩ := hsome
          rw [hreply] at hcalm
          have htook : t.host.world.records = u.world.records := (congrArg Recorded.records hworld).trans hrecords
          rw [htook] at htaken ⊢
          simp only [htaken, decodes, true_imp_iff, decide_eq_true_eq] at hcalm
          obtain ⟨hsbi, hflag, hdecodes⟩ := hcalm
          obtain ⟨hsame, taken, hmore, hflat, hcomplete⟩ := replyRecord_ok hT hreply
          cases hverdict with
          | refused hrefused => simp [hrefused] at hdecodes
          | unparsed hparse =>
              rw [hparse] at hdecodes
              cases hdecodes
          | @reply reply hparse _ =>
              obtain rfl := Shared.sbi?_id hc
              have hsession : t.host.session.sbi = some (s.retire c) := by
                rw [withSbi_session hsbi, onHost, Prog.exec_zoom, onSbi, Prog.exec_ofFun, hx] at hrun
                cases hrun
                exact congrArg some (hclient.trans hsame)
              have hlinesOf : linesOf raw = (u.world.records.drop s.host.world.records.length).flatMap linesOf := by
                rw [hmore, List.drop_left, ← hflat, linesOf_records hcomplete]
              refine ⟨c, reply, hsbi, hsession, hanswer, ?_, ?_, ?_⟩
              · have hany : (reply.lines.map SbiLine.raw).any isAutoprintLine = true := by
                  rw [raw_of_parseReply hparse, hlinesOf, List.any_flatMap]
                  exact htaken
                rw [List.any_map] at hany
                rw [hsession]
                simpa [replyIsSurpriseAutoprint, Shared.retire, hflag, htoken] using hany
              · rw [parseReply_raw hparse, ← hflat]
                exact .flatten hcomplete
              · rw [parseReply_raw hparse, hlinesOf]

end Exchange

/-! ## Runs -/

namespace System

variable {T : Transport W} {s s' : System (Recorded W)}

/-- The waiting call, if it is a command that expects a reply, is served undisturbed. -/
def undisturbed (T : Transport W) (s : Shared (Recorded W)) (w : Waiting (Recorded W)) : Bool :=
  match w.task with
  | .done _ => true
  | .ask call _ _ => call.query?.isNone || call.undisturbed T s

def Undisturbed (T : Transport W) (s : System (Recorded W)) : Event → Prop
  | .serve i => ∀ w ∈ s.waiting[i]?, undisturbed T s.shared w = true
  | .start _ | .cancel _ => True

instance decidableUndisturbed (T : Transport W) (s : System (Recorded W)) : ∀ e, Decidable (Undisturbed T s e)
  | .serve i => inferInstanceAs (Decidable (∀ w ∈ s.waiting[i]?, undisturbed T s.shared w = true))
  | .start _ => isTrue trivial
  | .cancel _ => isTrue trivial

/-- Whoever waits ends when autoprint output is found in its reply, and so has every call that found some. -/
structure Faithful (s : System (Recorded W)) : Prop where
  obeys : ∀ w ∈ s.waiting, w.task.Obeys Shared.fixed Ends
  log : ∀ e ∈ s.log, e.Faithful

theorem Faithful.advance (h : Faithful s) {late : Bool} {call : Option ClientCall} {task : CallerTask (Recorded W)}
    {after : Shared (Recorded W)} (hobeys : task.Obeys Shared.fixed Ends)
    (hentry : (entry s.shared late call task after).Faithful) : Faithful (s.advance late call task after) where
  obeys w hw := by
    rcases mem_waiting_advance hw with hw | rfl
    · exact h.obeys w hw
    · exact hobeys
  log e he := by
    rw [log_advance] at he
    rcases List.mem_append.mp he with he | he
    · exact h.log e he
    · exact List.mem_singleton.mp he ▸ hentry

theorem Faithful.erase (h : Faithful s) (i : Nat) : Faithful { s with waiting := s.waiting.eraseIdx i } where
  obeys w hw := h.obeys w (List.mem_of_mem_eraseIdx hw)
  log := h.log

/-- A call that is served undisturbed. -/
theorem faithful_served (hT : LineTransport T) {before : Shared (Recorded W)} {late : Bool} {call : ClientCall}
    {next : Except Exc call.Answer → Shared (Recorded W) → CallerTask (Recorded W)}
    {after : Except Exc call.Answer → Shared (Recorded W) → Shared (Recorded W)}
    (hobeys : Resumption.Obeys Shared.fixed Ends (.ask call next after))
    (hcalm : undisturbed T before { task := .ask call next after, late } = true) {x : Except Exc call.Answer}
    {t : Shared (Recorded W)} (hrun : (call.perform (recorded T)).exec before = (x, t)) :
    (entry before late (some call) (next x t) (after x t)).Faithful := by
  intro call' name token hcall hquery htaken
  obtain rfl : call = call' := Option.some.inj hcall
  simp only [undisturbed, hquery, Option.isNone_some, Bool.false_or] at hcalm
  obtain ⟨client, request, timeout, expectLines, rfl, hlines, htoken⟩ := ClientCall.query?_eq hquery
  obtain ⟨hsame, -, hends⟩ := hobeys x t
  have hworld : (after x t).host.world = t.host.world := congrArg Fixed.world hsame
  simp only [Entry.taken, entry, hworld] at htaken
  obtain ⟨c, reply, hsbi, hsbi', rfl, hsurprise, hcomplete, hlinesOf⟩ :=
    exec_surprise hT hlines htoken hcalm hrun htaken
  obtain ⟨hdone, hafter⟩ := hends _ _ (.surprise hsurprise)
  refine ⟨?_, c, (before.retire c).markAutoprintActive reply.raw, hsbi, ?_, ?_, ?_⟩
  · simp only [entry, hdone]
  · simp only [entry, hafter, Shared.marked, hsbi', Option.map_some]
  · exact autoprintActive_markAutoprintActive _ _
  · rw [pendingLines_markAutoprintActive hcomplete, hlinesOf]
    simp only [Entry.taken, entry, hworld, Shared.retire]

theorem Faithful.step (hT : LineTransport T) {e : Event} (h : Faithful s) (hcalm : Undisturbed T s e)
    (hstep : step (recorded T) s e = some s') : Faithful s' := by
  cases e with
  | start path =>
      obtain rfl := Option.some.inj hstep
      exact h.advance (path.caller_obeys s.shared).2 fun call name token hcall => nomatch hcall
  | serve i =>
      obtain ⟨late, call, next, after, hi, rfl⟩ := step_serve hstep
      have hobeys := h.obeys _ (List.mem_of_getElem? hi)
      exact (h.erase i).advance (hobeys _ _).2.1 (faithful_served hT hobeys (hcalm _ hi) rfl)
  | cancel i =>
      simp only [System.step] at hstep
      split at hstep
      · exact Option.some.inj hstep ▸ h.erase i
      · cases hstep

/-- Over a serial port, in a run whose commands are served undisturbed, each command that finds autoprint output
raises and keeps the lines for a poll. -/
theorem faithful_run {s s' : System (Recorded SerialState)} {es : List Event} (hwaiting : s.waiting = [])
    (hlog : s.log = []) (hcalm : Guarded (step (recorded serialTransport)) (Undisturbed serialTransport) s es)
    (hrun : run (step (recorded serialTransport)) s es = some s') : ∀ e ∈ s'.log, e.Faithful := by
  have hstart : Faithful s := ⟨by simp [hwaiting], by simp [hlog]⟩
  exact (run_invariant (fun _ _ _ h hg hs => h.step serialTransport_lines hg hs) hstart hcalm hrun).log

/-- A session on a port on which two lines of autoprint output arrive. -/
def printingHost : Host (Recorded SerialState) where
  world :=
    { world :=
        { settings := { port := "COM3" },
          line := [["+    1.50 g  \r\n", "+    2.50 g  \r\n"].map fun l => .chunk (encodeAsciiReplace l.toList)] } }
  session := { active := .sbi, sbi := some { id := 0 } }
  nextId := 1

/-- `raw_sbi` with the token for the type of the weigher. -/
def askType : Path := .executeRawSbi (.bytes TOKEN_TYPE) false none 1

/-- The lines answer a command, and are then polled. -/
theorem faithful_run_poll :
    ∃ s', run (step (recorded serialTransport)) { shared := { host := printingHost } }
        [.start askType, .serve 0, .start (.poll 1 []), .serve 0] = some s' ∧
      (∃ e ∈ s'.log, e.ended = some (.error (.sartorius (autoprintActiveError "raw_sbi" (some TOKEN_TYPE))))) ∧
      (∃ e ∈ s'.log, e.ended = some (.ok ())) ∧ ∀ e ∈ s'.log, e.Faithful := by
  have hrun : (run (step (recorded serialTransport)) { shared := { host := printingHost } }
      [.start askType, .serve 0, .start (.poll 1 []), .serve 0]).any
      (fun s' => (∃ e ∈ s'.log,
          e.ended = some (.error (.sartorius (autoprintActiveError "raw_sbi" (some TOKEN_TYPE))))) ∧
        ∃ e ∈ s'.log, e.ended = some (.ok ())) = true := by
    decide +kernel
  obtain ⟨s', hs', hend⟩ := (Option.any_eq_true _ _).mp hrun
  obtain ⟨hraised, hpolled⟩ := of_decide_eq_true hend
  have hcalm : Guarded (step (recorded serialTransport)) (Undisturbed serialTransport)
      { shared := { host := printingHost } } [.start askType, .serve 0, .start (.poll 1 []), .serve 0] := by
    decide +kernel
  exact ⟨s', hs', hraised, hpolled, faithful_run rfl rfl hcalm hs'⟩

/-- Of two commands that wait for the lock the first is surprised, and the second takes autoprint output for its
reply. -/
theorem second_unsurprised :
    ∃ s', run (step (recorded serialTransport)) { shared := { host := printingHost } }
        [.start askType, .start askType, .serve 0, .serve 0] = some s' ∧ ¬ ∀ e ∈ s'.log, e.Faithful := by
  have hrun : (run (step (recorded serialTransport)) { shared := { host := printingHost } }
      [.start askType, .start askType, .serve 0, .serve 0]).any
      (fun s' => ∃ e ∈ s'.log, e.call.bind ClientCall.query? = some ("raw_sbi", TOKEN_TYPE) ∧
        e.taken.any autoprintIn = true ∧ e.ended = some (.ok ())) = true := by
    decide +kernel
  obtain ⟨s', hs', hend⟩ := (Option.any_eq_true _ _).mp hrun
  obtain ⟨e, he, hquery, htaken, hended⟩ := of_decide_eq_true hend
  refine ⟨s', hs', fun hall => ?_⟩
  obtain ⟨call, hcall, hname⟩ := Option.bind_eq_some_iff.mp hquery
  obtain ⟨hraised, -⟩ := hall e he call _ _ hcall hname htaken
  rw [hended] at hraised
  cases hraised

end System

end SartoriusLib
