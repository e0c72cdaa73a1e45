import SartoriusLib.Lib.Run
import SartoriusLib.Protocol.Sbi.Records
import SartoriusLib.Devices.Gates

/-!
# Delivery of weight lines

Lines enter the queue of an SBI client at both ends and leave it as replies and readings. A run of calls
delivers each weight line once and in order, as long as no record holds several of them where a single reading
is taken, and no line overtakes one that is queued.
-/

namespace SartoriusLib

open Lib Sbi

variable {W : Type} {T : Transport W}

namespace Sbi

/-! ## Sniffing -/

/-- A read of the sniff takes a record, times out or fails. -/
theorem exec_sniffRead (timeout : Rat) (s : SbiLink (Recorded W)) :
    (exceptClasses [.timeoutError] (some <$> onTransport ((recorded T).readUntil lineTerminator timeout))
      fun _ => pure none).exec s =
      match (T.readUntil lineTerminator timeout).exec s.world.world with
      | (.ok raw, w) => (.ok (some raw), ⟨s.client, ⟨w, s.world.records ++ [raw]⟩⟩)
      | (.error e, w) =>
          (if [ErrorClass.timeoutError].any e.isinstance then .ok none else .error e,
            ⟨s.client, ⟨w, s.world.records⟩⟩) := by
  simp only [exec_exceptClasses, Prog.exec_map, onTransport, Prog.exec_zoom, exec_recorded_readUntil]
  rcases (T.readUntil lineTerminator timeout).exec s.world.world with ⟨e | raw, w⟩
  · dsimp only
    split <;> rfl
  · rfl

theorem sniffLines_moves {maxLines : Nat} {clock : List Rat} {s s' : SbiLink (Recorded W)} {result : Except Exc Unit}
    (h : (sniffLines (recorded T) maxLines clock).exec s = (result, s')) : Moves s [] s' := by
  induction clock generalizing s with
  | nil =>
      cases h
      exact Moves.still rfl rfl
  | cons remaining later ih =>
      rw [sniffLines, Prog.exec_bind_ok (Prog.exec_get s)] at h
      split at h
      · rw [Prog.exec_bind, exec_sniffRead] at h
        rcases hread : (T.readUntil lineTerminator remaining).exec s.world.world with ⟨e | raw, w⟩
        · rw [hread] at h
          dsimp only at h
          by_cases htimeout : [ErrorClass.timeoutError].any e.isinstance = true
          · rw [if_pos htimeout] at h
            cases h
            exact Moves.still rfl rfl
          · rw [if_neg htimeout] at h
            cases h
            exact Moves.still rfl rfl
        · rw [hread] at h
          dsimp only [modifyClient] at h
          rw [Prog.exec_bind_ok (Prog.exec_modify _ _)] at h
          have hpush : Moves s [] ⟨{ s.client with pendingLines := s.client.pendingLines ++ [raw] },
              ⟨w, s.world.records ++ [raw]⟩⟩ := by
            refine ⟨[raw], rfl, ?_⟩
            simp only [SbiClient.queued, List.flatMap_append]
            exact Passes.push _ _
          split at h
          · cases h
            exact hpush.then_still rfl rfl
          · exact hpush.trans (ih h)
      · cases h
        exact Moves.still rfl rfl

theorem detectAutoprint_moves {clock : List Rat} {s s' : SbiLink (Recorded W)} {result : Except Exc Bool}
    (h : (detectAutoprint (recorded T) clock).exec s = (result, s')) : Moves s [] s' := by
  rw [detectAutoprint, Prog.exec_bind, exec_raiseIfDisposed] at h
  cases hd : s.client.disposed with
  | true =>
      rw [hd] at h
      cases h
      exact Moves.still rfl rfl
  | false =>
      rw [hd] at h
      simp only [Bool.false_eq_true, if_false, Prog.exec_bind] at h
      rcases hs : (sniffLines (recorded T) 4 clock).exec s with ⟨e | u, t⟩
      · rw [hs] at h
        cases h
        exact sniffLines_moves hs
      · rw [hs] at h
        cases h
        exact sniffLines_moves hs

/-! ## Readings of the stream -/

/-- A call that takes one reading loses nothing of the record. -/
def Whole (raw : Bytes) : Prop :=
  (weightReadings raw).length ≤ 1 ∧ (refusedIn raw = true → weightReadings raw = [])

instance (raw : Bytes) : Decidable (Whole raw) := inferInstanceAs (Decidable (_ ∧ _))

theorem head_of_requireReading {raw : Bytes} {reply : SbiReply} {reading : Reading}
    (hparse : parseReply raw = .ok reply) (hreading : requireReading reply = .ok reading) :
    (weightReadings raw).head? = some reading := by
  rw [← readings_of_parseReply hparse, List.head?_filterMap]
  unfold requireReading at hreading
  cases hfind : reply.lines.findSome? SbiLine.reading with
  | none =>
      rw [hfind] at hreading
      cases hreading
  | some r =>
      rw [hfind] at hreading
      cases hreading
      rfl

theorem requireReading_ok {raw : Bytes} {reply : SbiReply} {reading : Reading} (hparse : parseReply raw = .ok reply)
    (hreading : requireReading reply = .ok reading) (hwhole : Whole raw) : weightReadings raw = [reading] := by
  have hhead := head_of_requireReading hparse hreading
  have hlength := hwhole.1
  cases hw : weightReadings raw with
  | nil =>
      rw [hw] at hhead
      cases hhead
  | cons first later =>
      rw [hw] at hhead hlength
      cases hhead
      cases later with
      | nil => rfl
      | cons second later => simp at hlength

theorem requireReading_error {raw : Bytes} {reply : SbiReply} {e : SartoriusError} (hparse : parseReply raw = .ok reply)
    (hreading : requireReading reply = .error e) : weightReadings raw = [] := by
  have hreadings := readings_of_parseReply hparse
  unfold requireReading at hreading
  cases hfind : reply.lines.findSome? SbiLine.reading with
  | some r =>
      rw [hfind] at hreading
      cases hreading
  | none =>
      rw [hfind] at hreading
      rw [← hreadings, List.filterMap_eq_nil_iff]
      exact List.findSome?_eq_none_iff.mp hfind

/-- The record that ends the loop of a read from the stream. -/
def decisiveRecord (T : Transport W) : List Rat → Rat → Py (SbiLink W) Bytes
  | later, remaining => do
      let raw ← nextRecord T remaining "sbi_autoprint"
      match later with
      | [] => pure raw
      | next :: later => if passedOver raw then decisiveRecord T later next else pure raw

/-- The outcome reports a record that does not parse. -/
def unparsed {α : Type} : Except Exc α → Bool
  | .ok _ => false
  | .error e => e.isinstance .parseError || e.isinstance .frameError

theorem unparsed_of_requireReading {α : Type} {reply : SbiReply} {e : SartoriusError}
    (h : requireReading reply = .error e) : unparsed (.error (.sartorius e) : Except Exc α) = true := by
  unfold requireReading at h
  split at h
  · cases h
  · cases h
    rfl

theorem parseLine_error {raw : Bytes} {e : SartoriusError} (h : parseLine raw = .error e) : e.cls = .parseError := by
  unfold parseLine at h
  split at h
  · cases h
    rfl
  · dsimp only at h
    split_ifs at h
    cases hweight : parseWeightLine raw with
    | ok r =>
        rw [hweight] at h
        cases h
    | error e' =>
        rw [hweight] at h
        cases h
        unfold parseWeightLine at hweight
        dsimp only at hweight
        split at hweight
        · cases hweight
        · split at hweight
          · cases hweight
            rfl
          · cases hweight

theorem mapM_parseLine_error {ls : List Bytes} {e : SartoriusError} (h : ls.mapM parseLine = .error e) :
    e.cls = .parseError := by
  induction ls with
  | nil => cases h
  | cons l ls ih =>
      rw [List.mapM_cons] at h
      cases hl : parseLine l with
      | error e' =>
          rw [hl] at h
          cases h
          exact parseLine_error hl
      | ok line =>
          cases hls : ls.mapM parseLine with
          | error e' =>
              rw [hl, hls] at h
              cases h
              exact ih hls
          | ok later =>
              rw [hl, hls] at h
              cases h

theorem unparsed_of_parseReply {α : Type} {raw : Bytes} {e : SartoriusError} (h : parseReply raw = .error e) :
    unparsed (.error (.sartorius e) : Except Exc α) = true := by
  rw [unparsed, Bool.or_eq_true]
  rcases parseReply_cases h with ⟨e', hsplit, he⟩ | ⟨ls, -, ⟨e', hmap, he⟩ | ⟨lines, -, he⟩⟩
  · cases he
    have hcls := splitLinesLoop_error hsplit
    exact .inr (by rw [Exc.isinstance_sartorius, hcls]; rfl)
  · cases he
    have hcls := mapM_parseLine_error hmap
    exact .inl (by rw [Exc.isinstance_sartorius, hcls]; rfl)
  · cases he

/-! ## Steps of a client -/

section Steps

/-- A read of a line hands out the readings of the record that it takes, or loses the record. -/
theorem readLine_moves (hT : LineTransport T) {s s' : SbiLink (Recorded W)} {timeout : Rat} {commandName : String}
    {result : Except Exc SbiReply} (h : (readLine (recorded T) timeout commandName).exec s = (result, s')) :
    (∃ e, (nextRecord (recorded T) timeout commandName).exec s = (.error e, s') ∧ result = .error e) ∨
      ∃ raw t, (nextRecord (recorded T) timeout commandName).exec s = (.ok raw, t) ∧ Verdict raw result ∧
        Moves s (weightReadings raw) s' ∧ ∀ reply, parseReply raw = .ok reply → s' = t := by
  rw [exec_readLine, Prog.exec_bind] at h
  rcases hnext : (nextRecord (recorded T) timeout commandName).exec s with ⟨e | raw, t⟩
  · rw [hnext] at h
    cases h
    exact .inl ⟨e, rfl, rfl⟩
  · rw [hnext] at h
    rcases hdone : (parseOrDrain (recorded T) raw commandName none).exec t.world with ⟨verdict, w⟩
    simp only [onTransport, Prog.exec_zoom, hdone, Prod.mk.injEq] at h
    obtain ⟨rfl, rfl⟩ := h
    obtain ⟨hverdict, hrecords, hsame⟩ := parseOrDrain_verdict hT hdone
    refine .inr ⟨raw, t, rfl, hverdict, (nextRecord_moves hnext).then_still hrecords rfl, fun reply hparse => ?_⟩
    rw [hsame reply hparse]

theorem decisiveRecord_here {s s' : SbiLink W} {later : List Rat} {remaining : Rat} {raw : Bytes}
    (hnext : (nextRecord T remaining "sbi_autoprint").exec s = (.ok raw, s')) (hpass : passedOver raw = false) :
    (decisiveRecord T later remaining).exec s = (.ok raw, s') := by
  cases later with
  | nil => rw [decisiveRecord, Prog.exec_bind_ok hnext, Prog.exec_pure]
  | cons next later =>
      rw [decisiveRecord, Prog.exec_bind_ok hnext]
      simp [hpass]

section Loop

variable {later : List Rat} {remaining : Rat} {s s' : SbiLink (Recorded W)}

theorem lineFails_moves (hT : LineTransport T) {e : Exc}
    (hline : (readLine (recorded T) remaining "sbi_autoprint").exec s = (.error e, s'))
    (hparsed : unparsed (.error e : Except Exc Reading) = false)
    (hwhole : ∀ raw t, (decisiveRecord (recorded T) later remaining).exec s = (.ok raw, t) → Whole raw) :
    Moves s [] s' := by
  cases readLine_moves hT hline with
  | inl hnone =>
      obtain ⟨e', hnext, -⟩ := hnone
      exact nextRecord_moves hnext
  | inr hsome =>
      obtain ⟨raw, t, hnext, hverdict, hmoves, -⟩ := hsome
      cases hverdict with
      | refused hrefused =>
          have hpass : passedOver raw = false := by
            unfold passedOver
            split <;> simp [hrefused]
          rw [(hwhole raw t (decisiveRecord_here hnext hpass)).2 hrefused] at hmoves
          exact hmoves
      | unparsed hparse =>
          rw [unparsed_of_parseReply hparse] at hparsed
          cases hparsed

theorem lineReturns_moves (hT : LineTransport T) {reply : SbiReply}
    (hline : (readLine (recorded T) remaining "sbi_autoprint").exec s = (.ok reply, s')) :
    ∃ raw, (nextRecord (recorded T) remaining "sbi_autoprint").exec s = (.ok raw, s') ∧
      parseReply raw = .ok reply ∧ refusedIn raw = false ∧ Moves s (weightReadings raw) s' := by
  cases readLine_moves hT hline with
  | inl hnone =>
      obtain ⟨e, -, he⟩ := hnone
      cases he
  | inr hsome =>
      obtain ⟨raw, t, hnext, hverdict, hmoves, hsame⟩ := hsome
      cases hverdict with
      | reply hparse hrefused =>
          rw [← hsame reply hparse] at hnext
          exact ⟨raw, hnext, hparse, hrefused, hmoves⟩

theorem firstReading_moves {raw : Bytes} {reply : SbiReply} {reading : Reading}
    (hnext : (nextRecord (recorded T) remaining "sbi_autoprint").exec s = (.ok raw, s'))
    (hparse : parseReply raw = .ok reply) (hmoves : Moves s (weightReadings raw) s')
    (hreading : requireReading reply = .ok reading)
    (hwhole : ∀ raw t, (decisiveRecord (recorded T) later remaining).exec s = (.ok raw, t) → Whole raw) :
    Moves s [reading] ⟨s'.client.markAutoprintActive, s'.world⟩ := by
  have hsome : weightReadings raw ≠ [] := by
    intro hempty
    have hhead := head_of_requireReading hparse hreading
    rw [hempty] at hhead
    cases hhead
  have hpass : passedOver raw = false := by simp [passedOver, hparse, hsome]
  rw [requireReading_ok hparse hreading (hwhole raw s' (decisiveRecord_here hnext hpass))] at hmoves
  exact hmoves.then_still rfl rfl

/-- A read from the stream hands out the reading of the record that ends its loop, when that is whole. -/
theorem readAutoprintLoop_moves (hT : LineTransport T) {result : Except Exc Reading}
    (h : (readAutoprintLoop (recorded T) later remaining).exec s = (result, s')) (hparsed : unparsed result = false)
    (hwhole : ∀ raw t, (decisiveRecord (recorded T) later remaining).exec s = (.ok raw, t) → Whole raw) :
    Moves s result.toOption.toList s' := by
  induction later generalizing remaining s with
  | nil =>
      rw [readAutoprintLoop, Prog.exec_bind] at h
      rcases hline : (readLine (recorded T) remaining "sbi_autoprint").exec s with ⟨e | reply, t⟩
      · rw [hline] at h
        cases h
        exact lineFails_moves hT hline hparsed hwhole
      · rw [hline] at h
        obtain ⟨raw, hnext, hparse, hrefused, hmoves⟩ := lineReturns_moves hT hline
        cases hreading : requireReading reply with
        | ok reading =>
            simp only [hreading] at h
            cases h
            exact firstReading_moves hnext hparse hmoves hreading hwhole
        | error e =>
            simp only [hreading] at h
            cases h
            rw [unparsed_of_requireReading hreading] at hparsed
            cases hparsed
  | cons next later ih =>
      rw [readAutoprintLoop, Prog.exec_bind] at h
      rcases hline : (readLine (recorded T) remaining "sbi_autoprint").exec s with ⟨e | reply, t⟩
      · rw [hline] at h
        cases h
        exact lineFails_moves hT hline hparsed hwhole
      · rw [hline] at h
        obtain ⟨raw, hnext, hparse, hrefused, hmoves⟩ := lineReturns_moves hT hline
        cases hreading : requireReading reply with
        | ok reading =>
            simp only [hreading] at h
            cases h
            exact firstReading_moves hnext hparse hmoves hreading hwhole
        | error e =>
            simp only [hreading] at h
            have hempty := requireReading_error hparse hreading
            have hpass : passedOver raw = true := by simp [passedOver, hparse, hrefused, hempty]
            rw [hempty] at hmoves
            refine hmoves.trans (ih h fun raw' t' hdecisive => hwhole raw' t' ?_)
            rw [decisiveRecord, Prog.exec_bind_ok hnext]
            simpa [hpass] using hdecisive

end Loop

/-! ## Replies -/

/-- The records that answer a request, as one payload. -/
def replyRecord (T : Transport W) (request : Bytes) (timeout : Rat) (commandName : String)
    (sbiToken : Option Bytes) (expectLines : Nat) : Py (SbiLink W) Bytes := do
  raiseIfDisposed commandName sbiToken
  onTransport (T.write request timeout)
  let chunks ← onTransport (readLines T timeout expectLines)
  pure chunks.flatten

section Replies

variable {request : Bytes} {timeout : Rat} {commandName : String} {sbiToken : Option Bytes} {expectLines : Nat}

theorem executeLocked_eq (h : expectLines ≠ 0) :
    executeLocked T request timeout commandName sbiToken expectLines =
      (replyRecord T request timeout commandName sbiToken expectLines >>= fun raw =>
        onTransport (parseOrDrain T raw commandName sbiToken)) := by
  simp only [executeLocked, replyRecord, if_neg h, bind_assoc, pure_bind]

theorem raiseIfDisposed_ok {s s' : SbiLink W} {u : Unit}
    (h : (raiseIfDisposed commandName sbiToken).exec s = (.ok u, s')) : s' = s := by
  rw [exec_raiseIfDisposed] at h
  split at h
  · cases h
  · cases h
    rfl

/-- The reply is what the transport returned, and the queue is not touched. -/
theorem replyRecord_ok (hT : LineTransport T) {s s' : SbiLink (Recorded W)} {raw : Bytes}
    (h : (replyRecord (recorded T) request timeout commandName sbiToken expectLines).exec s = (.ok raw, s')) :
    s'.client = s.client ∧
      ∃ taken, s'.world.records = s.world.records ++ taken ∧ taken.flatten = raw ∧ ∀ r ∈ taken, Complete r := by
  obtain ⟨_, s₁, hcheck, h⟩ := Prog.exec_bind_eq_ok.mp h
  obtain ⟨_, s₂, hwrite, h⟩ := Prog.exec_bind_eq_ok.mp h
  obtain ⟨chunks, s₃, hread, h⟩ := Prog.exec_bind_eq_ok.mp h
  cases h
  obtain rfl : s₁ = s := raiseIfDisposed_ok hcheck
  simp only [onTransport, Prog.exec_zoom, Prod.mk.injEq] at hwrite hread
  obtain ⟨-, rfl⟩ := hwrite
  obtain ⟨hread, rfl⟩ := hread
  obtain ⟨hrecords, hcomplete⟩ := readLines_recorded hT (Prod.ext hread rfl)
  exact ⟨rfl, chunks, hrecords, rfl, hcomplete⟩

/-- A reply of one line that does not come leaves the account as it was. -/
theorem replyRecord_error {s s' : SbiLink (Recorded W)} {e : Exc}
    (h : (replyRecord (recorded T) request timeout commandName sbiToken 1).exec s = (.error e, s')) :
    Moves s [] s' := by
  rw [replyRecord, Prog.exec_bind, exec_raiseIfDisposed] at h
  cases hd : s.client.disposed with
  | true =>
      rw [hd] at h
      cases h
      exact Moves.still rfl rfl
  | false =>
      rw [hd] at h
      simp only [Bool.false_eq_true, if_false, Prog.exec_bind, onTransport, Prog.exec_zoom] at h
      rcases hw : ((recorded T).write request timeout).exec s.world with ⟨e | u, w⟩
      · rw [hw] at h
        cases h
        exact Moves.still (congrArg (fun r => r.2.records) hw).symm rfl
      · rw [hw] at h
        simp only [readLines, Prog.exec_bind, exec_recorded_readUntil] at h
        rcases hr : (T.readUntil lineTerminator timeout).exec w.world with ⟨e | line, w'⟩
        · rw [hr] at h
          cases h
          exact Moves.still (congrArg (fun r => r.2.records) hw).symm rfl
        · rw [hr] at h
          cases h

/-- A call that returns lines has read them. -/
theorem execute_ok {s s' : SbiLink W} {expectLines : Int} {reply : SbiReply}
    (h : (execute T request timeout commandName sbiToken expectLines).exec s = (.ok reply, s'))
    (hlines : reply.lines ≠ []) :
    expectLines.toNat ≠ 0 ∧
      (executeLocked T request timeout commandName sbiToken expectLines.toNat).exec s = (.ok reply, s') := by
  unfold execute at h
  split at h
  · cases h
  · refine ⟨fun hzero => hlines ?_, h⟩
    rw [hzero, executeLocked] at h
    obtain ⟨_, s₁, -, h⟩ := Prog.exec_bind_eq_ok.mp h
    obtain ⟨_, s₂, -, h⟩ := Prog.exec_bind_eq_ok.mp h
    cases h
    rfl

theorem lines_of_surprise {client : Option SbiClient} {reply : SbiReply} {token : Bytes}
    (h : replyIsSurpriseAutoprint client reply token = true) : reply.lines ≠ [] := by
  intro hempty
  cases client with
  | none => cases h
  | some c =>
      unfold replyIsSurpriseAutoprint at h
      dsimp only at h
      rw [hempty] at h
      split_ifs at h
      cases h

theorem executeLocked_cases (hT : LineTransport T) {s s' : SbiLink (Recorded W)} {result : Except Exc SbiReply}
    (hlines : expectLines ≠ 0)
    (h : (executeLocked (recorded T) request timeout commandName sbiToken expectLines).exec s = (result, s')) :
    (∃ e, (replyRecord (recorded T) request timeout commandName sbiToken expectLines).exec s = (.error e, s') ∧
      result = .error e) ∨
    ∃ raw t, (replyRecord (recorded T) request timeout commandName sbiToken expectLines).exec s = (.ok raw, t) ∧
      Verdict raw result ∧ s'.client = t.client ∧ s'.world.records = t.world.records := by
  rw [executeLocked_eq hlines, Prog.exec_bind] at h
  rcases hreply : (replyRecord (recorded T) request timeout commandName sbiToken expectLines).exec s with ⟨e | raw, t⟩
  · rw [hreply] at h
    cases h
    exact .inl ⟨e, rfl, rfl⟩
  · rw [hreply] at h
    rcases hdone : (parseOrDrain (recorded T) raw commandName sbiToken).exec t.world with ⟨verdict, w⟩
    simp only [onTransport, Prog.exec_zoom, hdone, Prod.mk.injEq] at h
    obtain ⟨rfl, rfl⟩ := h
    obtain ⟨hverdict, hrecords, -⟩ := parseOrDrain_verdict hT hdone
    exact .inr ⟨raw, t, rfl, hverdict, rfl, hrecords⟩

/-- What a print command hands out enters and leaves at once. -/
theorem printed_moves (hT : LineTransport T) {s t s' : SbiLink (Recorded W)} {raw : Bytes}
    (hreply : (replyRecord (recorded T) request timeout commandName sbiToken expectLines).exec s = (.ok raw, t))
    (hclient : s'.client = t.client) (hrecords : s'.world.records = t.world.records)
    (horder : weightReadings raw = [] ∨ s.client.queued = []) : Moves s (weightReadings raw) s' := by
  obtain ⟨hsame, taken, htaken, rfl, hcomplete⟩ := replyRecord_ok hT hreply
  refine ⟨taken, hrecords.trans htaken, ?_⟩
  rw [hclient, hsame, ← weightReadings_records hcomplete]
  exact Passes.overtake horder

theorem queued_markAutoprintActive {c : SbiClient} {raw : Bytes} (h : Complete raw) :
    (c.markAutoprintActive raw).queued = weightReadings raw ++ c.queued := by
  rw [SbiClient.queued, pendingLines_markAutoprintActive h, List.flatMap_append]
  obtain ⟨ls, rfl, hls⟩ := h
  rw [linesOf_flatten hls, weightReadings_flatten hls, SbiClient.queued]

/-- A reply that turns out to be autoprint output goes to the front of the queue. -/
theorem surprise_moves (hT : LineTransport T) {s t s' : SbiLink (Recorded W)} {raw : Bytes}
    (hreply : (replyRecord (recorded T) request timeout commandName sbiToken expectLines).exec s = (.ok raw, t))
    (hclient : s'.client = t.client.markAutoprintActive raw) (hrecords : s'.world.records = t.world.records)
    (horder : weightReadings raw = [] ∨ s.client.queued = []) : Moves s [] s' := by
  obtain ⟨hsame, taken, htaken, rfl, hcomplete⟩ := replyRecord_ok hT hreply
  refine ⟨taken, hrecords.trans htaken, ?_⟩
  rw [hclient, queued_markAutoprintActive (.flatten hcomplete), hsame, ← weightReadings_records hcomplete]
  exact Passes.pushFront horder

end Replies

end Steps

end Sbi

/-! ## Calls on a session -/

namespace Delivery

/-- The calls of a session in SBI mode that take lines. -/
inductive LineCall where
  | detect (clock : List Rat)
  | readLine (timeout : Option Rat)
  /-- What `execute` and `raw_sbi` do after their gates. -/
  | exchange (request : Bytes) (timeout : Rat) (commandName : String) (sbiToken : Bytes) (expectLines : Int)
  | poll (remaining : Rat) (clock : List Rat)

/-- The readings that a call hands to its caller. -/
def perform (T : Transport W) (client : SbiClient) : LineCall → Py (Host W) (List Reading)
  | .detect clock => do
      let _ ← onSbi client (detectAutoprint T clock)
      pure []
  | .readLine timeout => do
      let reply ← readSbiLine T timeout
      pure (reply.lines.filterMap SbiLine.reading)
  | .exchange request timeout commandName sbiToken expectLines => do
      let reply ← sbiExchange T client request timeout commandName sbiToken expectLines
      pure (reply.lines.filterMap SbiLine.reading)
  | .poll remaining clock => do
      let reading ← Balance.poll T remaining clock
      pure [reading]

/-- The exchange is refused because of autoprint, or its reply turns out to be autoprint output. -/
def surprised (T : Transport W) (h : Host W) (client : SbiClient) (request : Bytes) (timeout : Rat)
    (commandName : String) (sbiToken : Bytes) (expectLines : Int) : Bool :=
  if h.session.sbiAutoprintActive ∧ 0 < expectLines then true
  else
    match (onSbi client (Sbi.execute T request timeout commandName (some sbiToken) expectLines)).exec h with
    | (.ok reply, h') => replyIsSurpriseAutoprint h'.session.sbi reply sbiToken
    | (.error _, _) => false

/-- The calls that a sequence consists of: any of them, but of the exchanges only those that meet autoprint. -/
def LineCall.admitted (T : Transport W) (h : Host W) (client : SbiClient) : LineCall → Bool
  | .exchange request timeout commandName sbiToken expectLines =>
      surprised T h client request timeout commandName sbiToken expectLines
  | _ => true

/-- A session with the readings that its callers have got. -/
structure State (W : Type) where
  host : Host (Recorded W)
  handed : List Reading := []

/-- Before the first call: nothing is read yet. -/
def start (h : Host W) : State W where
  host := { h with world := { world := h.world }, origins := [], served := [] }

/-- One call; a sequence ends with a record that does not parse. -/
def step (T : Transport W) (d : State W) (call : LineCall) : Option (State W) :=
  match d.host.session.sbi with
  | none => none
  | some client =>
      if call.admitted (recorded T) d.host client then
        match (perform (recorded T) client call).exec d.host with
        | (.ok readings, h) => some { host := h, handed := d.handed ++ readings }
        | (.error e, h) => if unparsed (.error e : Except Exc Unit) then none else some { d with host := h }
      else none

/-- The weight readings handed out and those still queued are those of the records read, in their order. -/
def Delivered (d : State W) : Prop :=
  d.handed ++ (d.host.session.sbi.elim [] SbiClient.queued) = d.host.world.records.flatMap weightReadings

/-- The record that `m` takes satisfies `P`. -/
def OnRecord (m : Py (SbiLink W) Bytes) (s : SbiLink W) (P : Bytes → Prop) : Prop :=
  match m.exec s with
  | (.ok raw, _) => P raw
  | (.error _, _) => True

instance (m : Py (SbiLink W) Bytes) (s : SbiLink W) (P : Bytes → Prop) [DecidablePred P] :
    Decidable (OnRecord m s P) :=
  match h : m.exec s with
  | (.ok raw, _) => decidable_of_iff (P raw) (by simp [OnRecord, h])
  | (.error _, _) => isTrue (by simp [OnRecord, h])

theorem OnRecord.holds {m : Py (SbiLink W) Bytes} {s : SbiLink W} {P : Bytes → Prop} (h : OnRecord m s P) :
    ∀ raw t, m.exec s = (.ok raw, t) → P raw := by
  intro raw t hm
  rw [OnRecord, hm] at h
  exact h

/-- A record of which one reading is taken has no other, a refusal comes without a reading, and no reading
passes one that is queued. -/
def Orderly (T : Transport W) (h : Host W) (client : SbiClient) : LineCall → Prop
  | .detect _ => True
  | .readLine timeout =>
      OnRecord (nextRecord T (timeout.getD h.session.defaultTimeout) "sbi_autoprint") ⟨client, h.world⟩ fun raw =>
        refusedIn raw = true → weightReadings raw = []
  | .exchange request timeout commandName sbiToken expectLines =>
      h.session.sbiAutoprintActive = true ∨
        OnRecord (replyRecord T request timeout commandName (some sbiToken) expectLines.toNat) ⟨client, h.world⟩
          fun raw => weightReadings raw = [] ∨ client.queued = []
  | .poll remaining clock =>
      if h.session.sbiAutoprintActive then OnRecord (decisiveRecord T clock remaining) ⟨client, h.world⟩ Whole
      else
        Gate.firstFailing h.session Commands.READ_NET false = none →
          OnRecord (replyRecord T TOKEN_PRINT h.session.defaultTimeout Commands.READ_NET.name (some TOKEN_PRINT) 1)
            ⟨client, h.world⟩ fun raw => Whole raw ∧ (weightReadings raw = [] ∨ client.queued = [])

instance (T : Transport W) (h : Host W) (client : SbiClient) (call : LineCall) :
    Decidable (Orderly T h client call) := by
  cases call <;> unfold Orderly <;> infer_instance

def Guard (T : Transport W) (d : State W) (call : LineCall) : Prop :=
  ∀ client, d.host.session.sbi = some client → Orderly (recorded T) d.host client call

instance (T : Transport W) (d : State W) (call : LineCall) : Decidable (Guard T d call) :=
  inferInstanceAs (Decidable (∀ client ∈ d.host.session.sbi, Orderly (recorded T) d.host client call))

instance (d : State W) : Decidable (Delivered d) := inferInstanceAs (Decidable (_ = _))

/-! ## One call -/

/-- From `h` to `h'` the session gave out `given` and kept the rest. -/
def Accounts (h : Host (Recorded W)) (client : SbiClient) (given : List Reading) (h' : Host (Recorded W)) : Prop :=
  h'.session.active = .sbi ∧
    ∃ client', h'.session.sbi = some client' ∧ Moves ⟨client, h.world⟩ given ⟨client', h'.world⟩

section Calls

variable {h h' : Host (Recorded W)} {client : SbiClient}

theorem exec_onSbi {α : Type} {h : Host W} {m : Py (SbiLink W) α} {result : Except Exc α} {s : SbiLink W}
    (hm : m.exec ⟨client, h.world⟩ = (result, s)) :
    (onSbi client m).exec h =
      (result, { h with world := s.world, session := { h.session with sbi := some s.client } }) := by
  rw [onSbi, Prog.exec_ofFun, hm]

theorem detect_accounts {clock : List Rat} {result : Except Exc (List Reading)} (hactive : h.session.active = .sbi)
    (hrun : (perform (recorded T) client (.detect clock)).exec h = (result, h')) :
    Accounts h client (result.toOption.getD []) h' := by
  rcases hd : (detectAutoprint (recorded T) clock).exec ⟨client, h.world⟩ with ⟨found, s⟩
  rw [perform, Prog.exec_bind, exec_onSbi hd] at hrun
  cases found with
  | error e =>
      cases hrun
      exact ⟨hactive, s.client, rfl, detectAutoprint_moves hd⟩
  | ok b =>
      cases hrun
      exact ⟨hactive, s.client, rfl, detectAutoprint_moves hd⟩

theorem readLine_accounts (hT : LineTransport T) {timeout : Option Rat} {result : Except Exc (List Reading)}
    (hactive : h.session.active = .sbi) (hsbi : h.session.sbi = some client)
    (hrun : (perform (recorded T) client (.readLine timeout)).exec h = (result, h'))
    (hparsed : unparsed result = false) (horder : Orderly (recorded T) h client (.readLine timeout)) :
    Accounts h client (result.toOption.getD []) h' := by
  rcases hline : (readLine (recorded T) (timeout.getD h.session.defaultTimeout)).exec ⟨client, h.world⟩ with ⟨r, s⟩
  simp only [perform, readSbiLine, Prog.exec_bind, Prog.exec_get, exec_requireSbi hactive hsbi,
    exec_onSbi hline] at hrun
  cases readLine_moves hT hline with
  | inl hnone =>
      obtain ⟨e, hnext, rfl⟩ := hnone
      cases hrun
      exact ⟨hactive, s.client, rfl, nextRecord_moves hnext⟩
  | inr hsome =>
      obtain ⟨raw, t, hnext, hverdict, hmoves, -⟩ := hsome
      cases hverdict with
      | reply hparse hrefused =>
          cases hrun
          refine ⟨hactive, s.client, rfl, ?_⟩
          simp only [Except.toOption, Option.getD_some, readings_of_parseReply hparse]
          exact hmoves
      | refused hrefused =>
          cases hrun
          simp only [Orderly, OnRecord, hnext] at horder
          rw [horder hrefused] at hmoves
          exact ⟨hactive, s.client, rfl, hmoves⟩
      | unparsed hparse =>
          cases hrun
          rw [unparsed_of_parseReply hparse] at hparsed
          cases hparsed

theorem exchange_accounts (hT : LineTransport T) {request : Bytes} {timeout : Rat} {commandName : String}
    {sbiToken : Bytes} {expectLines : Int} {result : Except Exc (List Reading)} (hactive : h.session.active = .sbi)
    (hsbi : h.session.sbi = some client)
    (hrun : (perform (recorded T) client (.exchange request timeout commandName sbiToken expectLines)).exec h =
      (result, h'))
    (hmet : surprised (recorded T) h client request timeout commandName sbiToken expectLines = true)
    (horder : Orderly (recorded T) h client (.exchange request timeout commandName sbiToken expectLines)) :
    Accounts h client (result.toOption.getD []) h' := by
  rw [perform, Prog.exec_bind, sbiExchange, Prog.exec_bind_ok (Prog.exec_get h)] at hrun
  by_cases hrefused : h.session.sbiAutoprintActive = true ∧ 0 < expectLines
  · rw [if_pos hrefused] at hrun
    cases hrun
    exact ⟨hactive, client, hsbi, Moves.still rfl rfl⟩
  · rcases hx : (Sbi.execute (recorded T) request timeout commandName (some sbiToken) expectLines).exec
      ⟨client, h.world⟩ with ⟨r, s⟩
    rw [if_neg hrefused, Prog.exec_bind, exec_onSbi hx] at hrun
    rw [surprised, if_neg hrefused, exec_onSbi hx] at hmet
    cases r with
    | error e => cases hmet
    | ok reply =>
        simp only [Prog.exec_bind, Prog.exec_get] at hrun
        dsimp only at hmet
        rw [if_pos hmet] at hrun
        cases hrun
        obtain ⟨hlines, hx⟩ := execute_ok hx (lines_of_surprise hmet)
        cases executeLocked_cases hT hlines hx with
        | inl hnone =>
            obtain ⟨e, -, he⟩ := hnone
            cases he
        | inr hsome =>
            obtain ⟨raw, t, hreply, hverdict, hclient, hrecords⟩ := hsome
            cases hverdict with
            | reply hparse _ =>
                have hfree : weightReadings raw = [] ∨ client.queued = [] := by
                  cases horder with
                  | inl hflag => exact absurd ⟨hflag, by omega⟩ hrefused
                  | inr horder => simpa only [OnRecord, hreply] using horder
                refine ⟨hactive, _, rfl, surprise_moves hT hreply ?_ hrecords hfree⟩
                rw [← hclient, parseReply_raw hparse]

/-- A print command that the gates let through. -/
theorem exec_print (hactive : h.session.active = .sbi) (hsbi : h.session.sbi = some client)
    (hflag : h.session.sbiAutoprintActive = false)
    (hgates : Gate.firstFailing h.session Commands.READ_NET false = none) {r : Except Exc SbiReply}
    {s : SbiLink (Recorded W)}
    (hx : (executeLocked (recorded T) TOKEN_PRINT h.session.defaultTimeout Commands.READ_NET.name
      (some TOKEN_PRINT) 1).exec ⟨client, h.world⟩ = (r, s)) :
    ∃ h', h'.session.active = .sbi ∧ h'.session.sbi = some s.client ∧ h'.world = s.world ∧
      (execute (recorded T) Commands.READ_NET () false none).exec h =
        (r.bind fun reply => (requireReading reply).mapError .sartorius, h') := by
  have hall : ∀ g : Gate, g.passes h.session Commands.READ_NET false = true := by
    intro g
    have hpass := List.find?_eq_none.mp hgates g (by cases g <;> decide)
    simpa using hpass
  have hpriors : (gatePriors Commands.READ_NET).exec h = (.ok (), h) := exec_gatePriors_ok ⟨rfl, rfl⟩
  have hexchange : (Sbi.execute (recorded T) TOKEN_PRINT h.session.defaultTimeout Commands.READ_NET.name
      (some TOKEN_PRINT) 1).exec ⟨client, h.world⟩ = (r, s) := hx
  have hprint : ∀ c reply, replyIsSurpriseAutoprint (some c) reply TOKEN_PRINT = false := by
    intro c reply
    simp [replyIsSurpriseAutoprint]
  have hdispatch : (sbiExchange (recorded T) client TOKEN_PRINT h.session.defaultTimeout Commands.READ_NET.name
      TOKEN_PRINT 1).exec h =
      (r, { h with world := s.world, session := { h.session with sbi := some s.client } }) := by
    rw [sbiExchange, Prog.exec_bind_ok (Prog.exec_get h), if_neg (by simp [hflag]), Prog.exec_bind,
      exec_onSbi hexchange]
    cases r with
    | error e => rfl
    | ok reply =>
        simp only [Prog.exec_bind, Prog.exec_get, hprint]
        rfl
  rw [execute_open (recorded T) () none (fun g _ => hall g) hpriors, hactive]
  rw [executeSbi, Prog.exec_bind_ok (Prog.exec_get h)]
  simp only [Commands.READ_NET, Commands.sbiPrintWeightVariant, Commands.tokenVariant, hsbi, liftExc, pure_bind]
    at hdispatch ⊢
  cases r with
  | error e =>
      refine ⟨{ h with world := s.world, session := { h.session with sbi := some s.client } }, hactive, rfl, rfl, ?_⟩
      exact Prog.exec_bind_error hdispatch
  | ok reply =>
      refine ⟨{ h with world := s.world, session :=
        { h.session with sbi := some s.client }.setAvailability "read_net" .supported }, hactive, rfl, rfl, ?_⟩
      refine (Prog.exec_bind_ok hdispatch).trans ?_
      cases hreading : requireReading reply with
      | error e =>
          simp only [hreading, Commands.lift, Except.bind]
          rfl
      | ok reading =>
          simp only [hreading, Commands.lift, Except.bind]
          rfl

theorem poll_accounts (hT : LineTransport T) {remaining : Rat} {clock : List Rat}
    {result : Except Exc (List Reading)} (hactive : h.session.active = .sbi) (hsbi : h.session.sbi = some client)
    (hrun : (perform (recorded T) client (.poll remaining clock)).exec h = (result, h'))
    (hparsed : unparsed result = false) (horder : Orderly (recorded T) h client (.poll remaining clock)) :
    Accounts h client (result.toOption.getD []) h' := by
  rw [perform, Prog.exec_bind, Balance.poll, Prog.exec_bind_ok (Prog.exec_get h)] at hrun
  rw [Orderly] at horder
  cases hflag : h.session.sbiAutoprintActive with
  | true =>
      rw [hflag, if_pos rfl] at hrun horder
      rcases hloop : (readAutoprintLoop (recorded T) clock remaining).exec ⟨client, h.world⟩ with ⟨r, s⟩
      have hmoves := readAutoprintLoop_moves hT hloop
      simp only [readSbiAutoprintReading, Prog.exec_bind, Prog.exec_get, exec_requireSbi hactive hsbi,
        exec_onSbi hloop] at hrun
      cases r with
      | error e =>
          cases hrun
          exact ⟨hactive, s.client, rfl, hmoves hparsed horder.holds⟩
      | ok reading =>
          cases hrun
          exact ⟨hactive, s.client, rfl, hmoves rfl horder.holds⟩
  | false =>
      rw [hflag, if_neg (by decide)] at hrun horder
      cases hgate : Gate.firstFailing h.session Commands.READ_NET false with
      | some g =>
          obtain ⟨e, -, hfail⟩ := execute_firstFailing (recorded T) Commands.READ_NET () false none h hgate
          rw [hfail] at hrun
          cases hrun
          exact ⟨hactive, client, hsbi, Moves.still rfl rfl⟩
      | none =>
          rcases hx : (executeLocked (recorded T) TOKEN_PRINT h.session.defaultTimeout Commands.READ_NET.name
            (some TOKEN_PRINT) 1).exec ⟨client, h.world⟩ with ⟨r, s⟩
          obtain ⟨h₁, hactive₁, hsbi₁, hworld₁, hprint⟩ := exec_print hactive hsbi hflag hgate hx
          rw [hprint] at hrun
          cases executeLocked_cases hT (by decide) hx with
          | inl hnone =>
              obtain ⟨e, hreply, rfl⟩ := hnone
              cases hrun
              refine ⟨hactive₁, s.client, hsbi₁, ?_⟩
              rw [hworld₁]
              exact replyRecord_error hreply
          | inr hsome =>
              obtain ⟨raw, t, hreply, hverdict, hclient, hrecords⟩ := hsome
              obtain ⟨hwhole, hfree⟩ := (horder hgate).holds _ _ hreply
              have hmoves := printed_moves hT hreply hclient hrecords hfree
              cases hverdict with
              | refused hrefused =>
                  cases hrun
                  rw [hwhole.2 hrefused] at hmoves
                  refine ⟨hactive₁, s.client, hsbi₁, ?_⟩
                  rw [hworld₁]
                  exact hmoves
              | unparsed hparse =>
                  cases hrun
                  rw [unparsed_of_parseReply hparse] at hparsed
                  cases hparsed
              | @reply reply hparse _ =>
                  cases hreading : requireReading reply with
                  | error e =>
                      simp only [hreading, Except.bind, Except.mapError] at hrun
                      cases hrun
                      rw [unparsed_of_requireReading hreading] at hparsed
                      cases hparsed
                  | ok reading =>
                      simp only [hreading, Except.bind, Except.mapError] at hrun
                      cases hrun
                      rw [requireReading_ok hparse hreading hwhole] at hmoves
                      refine ⟨hactive₁, s.client, hsbi₁, ?_⟩
                      rw [hworld₁]
                      exact hmoves

end Calls

/-! ## Runs -/

/-- The session is in SBI mode and its account is in order. -/
def Inv (d : State W) : Prop :=
  d.host.session.active = .sbi ∧ (∃ client, d.host.session.sbi = some client) ∧ Delivered d

theorem Accounts.inv {d : State W} {client : SbiClient} {given : List Reading} {h' : Host (Recorded W)}
    (hsbi : d.host.session.sbi = some client) (hd : Delivered d) (h : Accounts d.host client given h') :
    Inv { host := h', handed := d.handed ++ given } := by
  obtain ⟨hactive, client', hsbi', taken, hrecords, hpass⟩ := h
  refine ⟨hactive, ⟨client', hsbi'⟩, ?_⟩
  rw [Delivered, hsbi] at hd
  have haccount := hpass.account hd
  simp only at hrecords
  rw [Delivered, hsbi', hrecords, List.flatMap_append]
  exact haccount

theorem step_inv (hT : LineTransport T) {d d' : State W} {call : LineCall} (hd : Inv d) (hguard : Guard T d call)
    (h : step T d call = some d') : Inv d' := by
  obtain ⟨hactive, ⟨client, hsbi⟩, hdelivered⟩ := hd
  have horder := hguard client hsbi
  unfold step at h
  rw [hsbi] at h
  dsimp only at h
  split at h
  · rename_i hadmitted
    rcases hrun : (perform (recorded T) client call).exec d.host with ⟨result, h'⟩
    have haccounts : unparsed result = false → Accounts d.host client (result.toOption.getD []) h' := by
      intro hparsed
      cases call with
      | detect clock => exact detect_accounts hactive hrun
      | readLine timeout => exact readLine_accounts hT hactive hsbi hrun hparsed horder
      | exchange request timeout commandName sbiToken expectLines =>
          exact exchange_accounts hT hactive hsbi hrun hadmitted horder
      | poll remaining clock => exact poll_accounts hT hactive hsbi hrun hparsed horder
    rw [hrun] at h
    cases result with
    | ok readings =>
        cases h
        exact (haccounts rfl).inv hsbi hdelivered
    | error e =>
        dsimp only at h
        split at h
        · cases h
        · rename_i hparsed
          cases h
          have hinv := (haccounts (Bool.eq_false_iff.mpr hparsed)).inv hsbi hdelivered
          simpa only [Except.toOption, Option.getD_none, List.append_nil] using hinv
  · cases h

/-- Over a serial port, in every sequence of calls whose steps are orderly, each weight line read from the port
is handed out or still queued, once and in the order of arrival. -/
theorem delivered_run {h : Host SerialState} {client : SbiClient} (hactive : h.session.active = .sbi)
    (hsbi : h.session.sbi = some client) (hfresh : client.pendingLines = []) {calls : List LineCall}
    {d : State SerialState}
    (hguard : Guarded (step serialTransport) (Guard serialTransport) (start h) calls)
    (hrun : run (step serialTransport) (start h) calls = some d) : Delivered d := by
  have hstart : Inv (start h) := by
    refine ⟨hactive, ⟨client, hsbi⟩, ?_⟩
    simp [Delivered, start, hsbi, SbiClient.queued, hfresh]
  exact (run_invariant (fun _ _ _ => step_inv serialTransport_lines) hstart hguard hrun).2.2

/-- A session on a port on which `lines` arrive. -/
def hostWith (lines : List String) : Host SerialState where
  world := { settings := { port := "COM3" }, line := [lines.map fun l => .chunk ((encodeAscii l.toList).getD [])] }
  session := { active := .sbi, sbi := some { id := 0 } }

/-- Autoprint output answers a tare, and is then polled. -/
theorem delivered_run_surprise :
    ∃ d, run (step serialTransport) (start (hostWith ["+    1.50 g  \r\n", "+    2.50 g  \r\n"]))
      [.exchange TOKEN_TARE 1 "raw_sbi" TOKEN_TARE 1, .poll 1 [], .readLine none] = some d ∧ Delivered d := by
  have hguard : Guarded (step serialTransport) (Guard serialTransport)
      (start (hostWith ["+    1.50 g  \r\n", "+    2.50 g  \r\n"]))
      [.exchange TOKEN_TARE 1 "raw_sbi" TOKEN_TARE 1, .poll 1 [], .readLine none] := by
    decide +kernel
  have hruns : (run (step serialTransport) (start (hostWith ["+    1.50 g  \r\n", "+    2.50 g  \r\n"]))
      [.exchange TOKEN_TARE 1 "raw_sbi" TOKEN_TARE 1, .poll 1 [], .readLine none]).isSome = true := by
    decide +kernel
  obtain ⟨d, hd⟩ := Option.isSome_iff_exists.mp hruns
  exact ⟨d, hd, delivered_run rfl rfl rfl hguard hd⟩

/-- The second line of a polled record is lost, and a print command passes a queued overload. -/
theorem lost_and_overtaken :
    (∃ d, run (step serialTransport) (start (hostWith ["+    1.50 g  \r\n", "+    2.50 g  \n+    3.50 g  \r\n"]))
      [.detect [1/4], .poll 1 [], .poll 1 []] = some d ∧ ¬ Delivered d) ∧
    ∃ d, run (step serialTransport) (start (hostWith ["Over\r\n", "+    1.50 g  \r\n"]))
      [.detect [1/4], .poll 1 []] = some d ∧ ¬ Delivered d := by
  have hlost : ((run (step serialTransport)
      (start (hostWith ["+    1.50 g  \r\n", "+    2.50 g  \n+    3.50 g  \r\n"]))
      [.detect [1/4], .poll 1 [], .poll 1 []]).any fun d => ! decide (Delivered d)) = true := by
    decide +kernel
  have hovertaken : ((run (step serialTransport) (start (hostWith ["Over\r\n", "+    1.50 g  \r\n"]))
      [.detect [1/4], .poll 1 []]).any fun d => ! decide (Delivered d)) = true := by
    decide +kernel
  constructor
  · obtain ⟨d, hd, hnot⟩ := (Option.any_eq_true _ _).mp hlost
    exact ⟨d, hd, by simpa using hnot⟩
  · obtain ⟨d, hd, hnot⟩ := (Option.any_eq_true _ _).mp hovertaken
    exact ⟨d, hd, by simpa using hnot⟩

end Delivery

end SartoriusLib
