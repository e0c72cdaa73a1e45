import SartoriusLib.Lib.Fifo
import SartoriusLib.Protocol.Sbi.Client
import SartoriusLib.Transport.Reads

/-!
# The weight lines that a client takes in and gives out

A record is what one `read_until` returns; it may hold several lines. The client's queue is accounted for in
weight readings: those that it held and read are those that it gave out and keeps.
-/

namespace SartoriusLib.Sbi

open SartoriusLib Lib

/-! ## Records -/

def IsLine (l : Bytes) : Prop := ∃ b : Bytes, l = b ++ [0x0A] ∧ ∀ x ∈ b, x ≠ 0x0A

/-- A record that ends with its last line. -/
def Complete (raw : Bytes) : Prop := ∃ ls : List Bytes, raw = ls.flatten ∧ ∀ l ∈ ls, IsLine l

/-- The weight readings of a record, line by line. -/
def weightReadings (raw : Bytes) : List Reading :=
  match splitLines raw with
  | .ok lines => lines.filterMap fun l => (parseLine l).toOption.bind SbiLine.reading
  | .error _ => []

theorem Complete.append {a b : Bytes} (ha : Complete a) (hb : Complete b) : Complete (a ++ b) := by
  obtain ⟨ls, rfl, hls⟩ := ha
  obtain ⟨ls', rfl, hls'⟩ := hb
  refine ⟨ls ++ ls', by simp, fun l hl => ?_⟩
  cases List.mem_append.mp hl with
  | inl hl => exact hls l hl
  | inr hl => exact hls' l hl

theorem Complete.flatten {records : List Bytes} (h : ∀ r ∈ records, Complete r) : Complete records.flatten := by
  induction records with
  | nil => exact ⟨[], rfl, by simp⟩
  | cons r records ih =>
      rw [List.flatten_cons]
      exact (h r List.mem_cons_self).append (ih fun r' hr' => h r' (List.mem_cons_of_mem _ hr'))

/-- Every payload is a sequence of lines and a rest without a terminator. -/
theorem exists_lines (raw : Bytes) :
    ∃ (ls : List Bytes) (tail : Bytes), raw = ls.flatten ++ tail ∧ (∀ l ∈ ls, IsLine l) ∧ ∀ x ∈ tail, x ≠ 0x0A := by
  induction raw with
  | nil => exact ⟨[], [], rfl, by simp, by simp⟩
  | cons x raw ih =>
      obtain ⟨ls, tail, rfl, hls, htail⟩ := ih
      by_cases hx : x = 0x0A
      · refine ⟨[0x0A] :: ls, tail, by simp [hx], fun l hl => ?_, htail⟩
        cases hl with
        | head => exact ⟨[], rfl, by simp⟩
        | tail _ hl => exact hls l hl
      · cases ls with
        | nil =>
            refine ⟨[], x :: tail, rfl, by simp, fun y hy => ?_⟩
            cases hy with
            | head => exact hx
            | tail _ hy => exact htail y hy
        | cons l ls =>
            obtain ⟨b, rfl, hb⟩ := hls l List.mem_cons_self
            refine ⟨(x :: b ++ [0x0A]) :: ls, tail, by simp, fun l hl => ?_, htail⟩
            cases hl with
            | head =>
                refine ⟨x :: b, rfl, fun y hy => ?_⟩
                cases hy with
                | head => exact hx
                | tail _ hy => exact hb y hy
            | tail _ hl => exact hls l (List.mem_cons_of_mem _ hl)

/-- A rest without a terminator does not end with one. -/
theorem not_ends {a tail : Bytes} (hne : tail ≠ []) (htail : ∀ x ∈ tail, x ≠ 0x0A) : ¬ [0x0A] <:+ a ++ tail := by
  intro hends
  rcases List.suffix_or_suffix_of_suffix hends (List.suffix_append a tail) with h | h
  · exact htail _ (h.subset List.mem_cons_self) rfl
  · rcases List.suffix_cons_iff.mp h with rfl | h
    · exact htail _ List.mem_cons_self rfl
    · exact hne (List.suffix_nil.mp h)

theorem complete_of_terminated (b : Bytes) : Complete (b ++ [0x0A]) := by
  obtain ⟨ls, tail, heq, hls, htail⟩ := exists_lines (b ++ [0x0A])
  by_cases hne : tail = []
  · exact ⟨ls, by rw [heq, hne, List.append_nil], hls⟩
  · exact absurd (heq ▸ List.suffix_append b [0x0A]) (not_ends hne htail)

theorem Complete.ends {raw : Bytes} (h : Complete raw) (hne : raw ≠ []) : [0x0A] <:+ raw := by
  obtain ⟨ls, rfl, hls⟩ := h
  rcases List.eq_nil_or_concat ls with rfl | ⟨init, l, rfl⟩
  · exact absurd rfl hne
  · obtain ⟨b, rfl, -⟩ := hls l (by simp)
    exact ⟨init.flatten ++ b, by simp⟩

theorem splitLinesLoop_unterminated (raw cur : Bytes) {tail : Bytes} (hne : tail ≠ []) (htail : ∀ x ∈ tail, x ≠ 0x0A) :
    ∃ e, splitLinesLoop raw cur tail = .error e := by
  induction tail generalizing cur with
  | nil => exact absurd rfl hne
  | cons x tail ih =>
      rw [splitLinesLoop, if_neg (htail x List.mem_cons_self)]
      cases tail with
      | nil => exact ⟨_, rfl⟩
      | cons y tail => exact ih (x :: cur) (by simp) fun z hz => htail z (List.mem_cons_of_mem _ hz)

/-- A payload that ends before a terminator is refused. -/
theorem splitLines_unterminated {ls : List Bytes} {tail : Bytes} (hls : ∀ l ∈ ls, IsLine l) (hne : tail ≠ [])
    (htail : ∀ x ∈ tail, x ≠ 0x0A) : ∃ e, splitLines (ls.flatten ++ tail) = .error e := by
  have hloop (raw : Bytes) : ∃ e, splitLinesLoop raw [] (ls.flatten ++ tail) = .error e := by
    induction ls with
    | nil => exact splitLinesLoop_unterminated raw [] hne htail
    | cons l ls ih =>
        obtain ⟨b, rfl, hb⟩ := hls l List.mem_cons_self
        obtain ⟨e, he⟩ := ih fun l' hl' => hls l' (List.mem_cons_of_mem _ hl')
        have hflat : ((b ++ [0x0A]) :: ls).flatten ++ tail = b ++ 0x0A :: (ls.flatten ++ tail) := by simp
        exact ⟨e, by rw [hflat, splitLinesLoop_line raw [] b _ hb, he]; rfl⟩
  exact hloop _

/-- The pieces of a split are the lines of the payload. -/
theorem splitLines_eq_ok {raw : Bytes} {ls : List Bytes} (h : splitLines raw = .ok ls) :
    ls.flatten = raw ∧ ∀ l ∈ ls, IsLine l := by
  obtain ⟨ls', tail, rfl, hls, htail⟩ := exists_lines raw
  cases tail with
  | nil =>
      rw [List.append_nil, splitLines_flatten hls] at h
      cases h
      exact ⟨(List.append_nil _).symm, hls⟩
  | cons x tail =>
      obtain ⟨e, he⟩ := splitLines_unterminated hls (List.cons_ne_nil x tail) htail
      rw [he] at h
      cases h

theorem splitLines_line {l : Bytes} (h : IsLine l) : splitLines l = .ok [l] := by
  have hsplit : splitLines [l].flatten = .ok [l] := splitLines_flatten (by simpa [IsLine] using h)
  simpa using hsplit

/-- The readings of a record are those of its lines. -/
theorem weightReadings_flatten {ls : List Bytes} (h : ∀ l ∈ ls, IsLine l) :
    weightReadings ls.flatten = ls.flatMap weightReadings := by
  have hline : ∀ l ∈ ls, weightReadings l = ((parseLine l).toOption.bind SbiLine.reading).toList := by
    intro l hl
    rw [weightReadings, splitLines_line (h l hl)]
    cases hr : (parseLine l).toOption.bind SbiLine.reading <;> simp [hr]
  rw [weightReadings, splitLines_flatten h]
  dsimp only
  rw [List.filterMap_eq_flatMap_toList]
  exact List.flatMap_congr fun l hl => (hline l hl).symm

/-- What does not split counts as one line. -/
def linesOf (raw : Bytes) : List Bytes :=
  match splitLines raw with
  | .ok ls => ls
  | .error _ => [raw]

theorem linesOf_flatten {ls : List Bytes} (h : ∀ l ∈ ls, IsLine l) : linesOf ls.flatten = ls := by
  rw [linesOf, splitLines_flatten h]

theorem weightReadings_append {a b : Bytes} (ha : Complete a) (hb : Complete b) :
    weightReadings (a ++ b) = weightReadings a ++ weightReadings b := by
  obtain ⟨ls, rfl, hls⟩ := ha
  obtain ⟨ls', rfl, hls'⟩ := hb
  have hboth : ∀ l ∈ ls ++ ls', IsLine l := by
    intro l hl
    cases List.mem_append.mp hl with
    | inl hl => exact hls l hl
    | inr hl => exact hls' l hl
  rw [← List.flatten_append, weightReadings_flatten hboth, weightReadings_flatten hls, weightReadings_flatten hls',
    List.flatMap_append]

theorem weightReadings_records {records : List Bytes} (h : ∀ r ∈ records, Complete r) :
    weightReadings records.flatten = records.flatMap weightReadings := by
  induction records with
  | nil => rfl
  | cons r records ih =>
      have hlater : ∀ r' ∈ records, Complete r' := fun r' hr' => h r' (List.mem_cons_of_mem _ hr')
      rw [List.flatten_cons, List.flatMap_cons, weightReadings_append (h r List.mem_cons_self) (.flatten hlater),
        ih hlater]

theorem mapM_parseLine_readings {ls : List Bytes} {lines : List SbiLine} (h : ls.mapM parseLine = .ok lines) :
    lines.filterMap SbiLine.reading = ls.filterMap fun l => (parseLine l).toOption.bind SbiLine.reading := by
  induction ls generalizing lines with
  | nil =>
      cases h
      rfl
  | cons l ls ih =>
      rw [List.mapM_cons] at h
      cases hl : parseLine l with
      | error e =>
          rw [hl] at h
          cases h
      | ok line =>
          cases hls : ls.mapM parseLine with
          | error e =>
              rw [hl, hls] at h
              cases h
          | ok later =>
              rw [hl, hls] at h
              cases h
              simp [hl, ih hls, List.filterMap_cons, Except.toOption]

/-- What the two stages of a parse say. -/
theorem parseReply_cases {raw : Bytes} {result : Except SartoriusError SbiReply} (h : parseReply raw = result) :
    (∃ e, splitLines raw = .error e ∧ result = .error e) ∨
      ∃ ls, splitLines raw = .ok ls ∧
        ((∃ e, ls.mapM parseLine = .error e ∧ result = .error e) ∨
          ∃ lines, ls.mapM parseLine = .ok lines ∧ result = .ok { lines, raw }) := by
  unfold parseReply at h
  cases hsplit : splitLines raw with
  | error e =>
      rw [hsplit] at h
      exact .inl ⟨e, rfl, h.symm⟩
  | ok ls =>
      rw [hsplit] at h
      simp only [bind, Except.bind] at h
      cases hmap : ls.mapM parseLine with
      | error e =>
          rw [hmap] at h
          exact .inr ⟨ls, rfl, .inl ⟨e, hmap, h.symm⟩⟩
      | ok lines =>
          rw [hmap] at h
          exact .inr ⟨ls, rfl, .inr ⟨lines, hmap, h.symm⟩⟩

theorem parseReply_eq_ok {raw : Bytes} {reply : SbiReply} (h : parseReply raw = .ok reply) :
    ∃ ls lines, splitLines raw = .ok ls ∧ ls.mapM parseLine = .ok lines ∧ reply = { lines, raw } := by
  rcases parseReply_cases h with ⟨e, -, he⟩ | ⟨ls, hsplit, ⟨e, -, he⟩ | ⟨lines, hmap, hreply⟩⟩
  · cases he
  · cases he
  · exact ⟨ls, lines, hsplit, hmap, Except.ok.inj hreply⟩

/-- A parsed reply has the readings of its record. -/
theorem readings_of_parseReply {raw : Bytes} {reply : SbiReply} (h : parseReply raw = .ok reply) :
    reply.lines.filterMap SbiLine.reading = weightReadings raw := by
  obtain ⟨ls, lines, hsplit, hmap, rfl⟩ := parseReply_eq_ok h
  rw [weightReadings, hsplit]
  exact mapM_parseLine_readings hmap

theorem parseReply_raw {raw : Bytes} {reply : SbiReply} (h : parseReply raw = .ok reply) : reply.raw = raw := by
  obtain ⟨ls, lines, -, -, rfl⟩ := parseReply_eq_ok h
  rfl

theorem parseLine_raw {raw : Bytes} {line : SbiLine} (h : parseLine raw = .ok line) : line.raw = raw := by
  unfold parseLine at h
  split at h
  · cases h
  · dsimp only at h
    split_ifs at h
    · exact Except.ok.inj h ▸ rfl
    · exact Except.ok.inj h ▸ rfl
    · exact Except.ok.inj h ▸ rfl
    · cases hr : parseWeightLine raw with
      | error e =>
          rw [hr] at h
          cases h
      | ok r =>
          rw [hr] at h
          exact Except.ok.inj h ▸ rfl
    · exact Except.ok.inj h ▸ rfl

theorem mapM_parseLine_raw {ls : List Bytes} {lines : List SbiLine} (h : ls.mapM parseLine = .ok lines) :
    lines.map SbiLine.raw = ls := by
  induction ls generalizing lines with
  | nil =>
      cases h
      rfl
  | cons l ls ih =>
      rw [List.mapM_cons] at h
      cases hl : parseLine l with
      | error e =>
          rw [hl] at h
          cases h
      | ok line =>
          cases hls : ls.mapM parseLine with
          | error e =>
              rw [hl, hls] at h
              cases h
          | ok later =>
              rw [hl, hls] at h
              cases h
              rw [List.map_cons, parseLine_raw hl, ih hls]

/-- A parsed reply has the lines of its record. -/
theorem raw_of_parseReply {raw : Bytes} {reply : SbiReply} (h : parseReply raw = .ok reply) :
    reply.lines.map SbiLine.raw = linesOf raw := by
  obtain ⟨ls, lines, hsplit, hmap, rfl⟩ := parseReply_eq_ok h
  rw [linesOf, hsplit]
  exact mapM_parseLine_raw hmap

/-- A payload is split into its lines, and a payload that ends before a terminator is refused. The lines of a reply
make up its record. -/
theorem splitLines_partition (raw : Bytes) :
    (∀ ls, splitLines raw = .ok ls → ls.flatten = raw ∧ ∀ l ∈ ls, IsLine l) ∧
    (∀ e, splitLines raw = .error e → e.cls = .frameError) ∧
    ((∃ e, splitLines raw = .error e) ↔ raw ≠ [] ∧ ¬ [0x0A] <:+ raw) ∧
    ∀ reply, parseReply raw = .ok reply → (reply.lines.map SbiLine.raw).flatten = reply.raw := by
  refine ⟨fun ls => splitLines_eq_ok, fun e => splitLinesLoop_error, ?_, fun reply hparse => ?_⟩
  · obtain ⟨ls, tail, rfl, hls, htail⟩ := exists_lines raw
    constructor
    · rintro ⟨e, he⟩
      cases tail with
      | nil =>
          rw [List.append_nil, splitLines_flatten hls] at he
          cases he
      | cons x tail =>
          exact ⟨by simp, not_ends (List.cons_ne_nil x tail) htail⟩
    · rintro ⟨hne, hends⟩
      cases tail with
      | nil =>
          rw [List.append_nil] at hne hends
          exact absurd (Complete.ends ⟨ls, rfl, hls⟩ hne) hends
      | cons x tail => exact splitLines_unterminated hls (List.cons_ne_nil x tail) htail
  · obtain ⟨ls, lines, hsplit, -, -⟩ := parseReply_eq_ok hparse
    rw [raw_of_parseReply hparse, linesOf, hsplit, parseReply_raw hparse]
    exact (splitLines_eq_ok hsplit).1

/-- A line of the record is a refusal. -/
def refusedIn (raw : Bytes) : Bool :=
  match parseReply raw with
  | .ok reply => reply.lines.any fun line => line.kind = .refusal
  | .error _ => false

/-- The record parses, and there is neither a refusal nor a reading in it. -/
def passedOver (raw : Bytes) : Bool :=
  match parseReply raw with
  | .ok _ => !refusedIn raw && (weightReadings raw).isEmpty
  | .error _ => false

/-! ## The records of a transport -/

section Records

variable {W : Type}

/-- A world with the records that its transport returned. -/
structure Recorded (W : Type) where
  world : W
  records : List Bytes := []

def Recorded.lift {α : Type} (m : Py W α) : Py (Recorded W) α :=
  Prog.zoom Recorded.world (fun w r => { r with world := w }) m

def recorded (T : Transport W) : Transport (Recorded W) where
  label r := T.label r.world
  write data timeout := Recorded.lift (T.write data timeout)
  readExact n timeout := Recorded.lift (T.readExact n timeout)
  readUntil separator timeout := do
    let record ← Recorded.lift (T.readUntil separator timeout)
    modify fun r => { r with records := r.records ++ [record] }
    pure record
  drainInput := Recorded.lift T.drainInput
  reopen baudrate parity stopbits := Recorded.lift (T.reopen baudrate parity stopbits)

/-- Records end with their last line, and a drain of the input raises nothing. -/
structure LineTransport (T : Transport W) : Prop where
  complete : ∀ timeout w raw w', (T.readUntil lineTerminator timeout).exec w = (.ok raw, w') → Complete raw
  drains : ∀ w, ∃ w', T.drainInput.exec w = (.ok (), w')

theorem serialTransport_lines : LineTransport serialTransport where
  complete timeout s raw s' h := by
    obtain ⟨-, -, hends⟩ := SerialTransport.readUntil_conserved h trivial
    obtain ⟨b, rfl⟩ := hends.1
    have hlast : b ++ lineTerminator = (b ++ [0x0D]) ++ [0x0A] := by simp [lineTerminator]
    rw [hlast]
    exact complete_of_terminated _
  drains s := ⟨_, rfl⟩

variable {T : Transport W}

theorem exec_recorded_readUntil (separator : Bytes) (timeout : Rat) (r : Recorded W) :
    ((recorded T).readUntil separator timeout).exec r =
      match (T.readUntil separator timeout).exec r.world with
      | (.ok record, w) => (.ok record, { world := w, records := r.records ++ [record] })
      | (.error e, w) => (.error e, { r with world := w }) := by
  simp only [recorded, Recorded.lift, Prog.exec_bind, Prog.exec_zoom]
  rcases (T.readUntil separator timeout).exec r.world with ⟨_ | _, _⟩ <;> rfl

theorem readLines_recorded (hT : LineTransport T) {timeout : Rat} {n : Nat} {r r' : Recorded W} {chunks : List Bytes}
    (h : (readLines (recorded T) timeout n).exec r = (.ok chunks, r')) :
    r'.records = r.records ++ chunks ∧ ∀ c ∈ chunks, Complete c := by
  induction n generalizing r chunks with
  | zero =>
      cases h
      simp
  | succ n ih =>
      rw [readLines, Prog.exec_bind_eq_ok] at h
      obtain ⟨line, t, hline, h⟩ := h
      rw [Prog.exec_bind_eq_ok] at h
      obtain ⟨later, t', hlater, h⟩ := h
      cases h
      obtain ⟨hrecords, hcomplete⟩ := ih hlater
      rw [exec_recorded_readUntil] at hline
      rcases hread : (T.readUntil lineTerminator timeout).exec r.world with ⟨e | line', w⟩
      · rw [hread] at hline
        cases hline
      · rw [hread] at hline
        cases hline
        refine ⟨by simp [hrecords], fun c hc => ?_⟩
        cases hc with
        | head => exact hT.complete _ _ _ _ hread
        | tail _ hc => exact hcomplete c hc

/-! ## The account of a client -/

/-- The weight readings in the queue. -/
def SbiClient.queued (c : SbiClient) : List Reading := c.pendingLines.flatMap weightReadings

/-- Autoprint output that was found goes to the front of the queue, line by line. -/
theorem pendingLines_markAutoprintActive {c : SbiClient} {raw : Bytes} (h : Complete raw) :
    (c.markAutoprintActive raw).pendingLines = linesOf raw ++ c.pendingLines := by
  obtain ⟨ls, rfl, hls⟩ := h
  rw [linesOf_flatten hls]
  rcases List.eq_nil_or_concat ls with rfl | ⟨init, l, rfl⟩
  · rfl
  · rw [List.concat_eq_append] at hls ⊢
    obtain ⟨b, hb, -⟩ := hls l (by simp)
    have hflat : (init ++ [l]).flatten = (init.flatten ++ b) ++ [0x0A] := by simp [hb]
    have hends : Bytes.endsWith (init ++ [l]).flatten [0x0A] = true := by
      rw [hflat, Bytes.endsWith, List.isSuffixOf_iff_suffix]
      exact List.suffix_append _ _
    have hne : (init ++ [l]).flatten ≠ [] := by simp [hflat]
    simp only [SbiClient.markAutoprintActive, SbiClient.queuePendingFront, if_neg hne, hends, not_true_eq_false,
      if_false, splitLines_flatten hls]

/-- From `s` to `s'` the client gave out `given`: nothing it held or read is lost, and the order is kept. -/
def Moves (s : SbiLink (Recorded W)) (given : List Reading) (s' : SbiLink (Recorded W)) : Prop :=
  ∃ taken, s'.world.records = s.world.records ++ taken ∧
    Passes s.client.queued (taken.flatMap weightReadings) given s'.client.queued

variable {s s' s'' : SbiLink (Recorded W)} {given given' : List Reading}

theorem Moves.still (hrecords : s'.world.records = s.world.records)
    (hqueue : s'.client.pendingLines = s.client.pendingLines) : Moves s [] s' := by
  refine ⟨[], by simp [hrecords], ?_⟩
  rw [SbiClient.queued, SbiClient.queued, hqueue]
  exact Passes.refl _

theorem Moves.trans (h : Moves s given s') (h' : Moves s' given' s'') : Moves s (given ++ given') s'' := by
  obtain ⟨taken, hrecords, hpass⟩ := h
  obtain ⟨taken', hrecords', hpass'⟩ := h'
  refine ⟨taken ++ taken', by rw [hrecords', hrecords, List.append_assoc], ?_⟩
  rw [List.flatMap_append]
  exact hpass.trans hpass'

theorem Moves.then_still (h : Moves s given s') (hrecords : s''.world.records = s'.world.records)
    (hqueue : s''.client.pendingLines = s'.client.pendingLines) : Moves s given s'' := by
  have htrans := h.trans (Moves.still hrecords hqueue)
  rwa [List.append_nil] at htrans

/-! ### Reads of one record -/

/-- The record that a read of a line takes: the first of the queue, or else the next of the transport. -/
def nextRecord (T : Transport W) (timeout : Rat) (commandName : String) : Py (SbiLink W) Bytes := do
  raiseIfDisposed commandName none
  match (← get).client.pendingLines with
  | raw :: later => do
      modifyClient fun c => { c with pendingLines := later }
      pure raw
  | [] => onTransport (T.readUntil lineTerminator timeout)

theorem exec_readLine (T : Transport W) (timeout : Rat) (commandName : String) (s : SbiLink W) :
    (readLine T timeout commandName).exec s =
      (nextRecord T timeout commandName >>= fun raw => onTransport (parseOrDrain T raw commandName none)).exec s := by
  unfold readLine nextRecord
  rw [Prog.exec_bind, Prog.exec_bind, Prog.exec_bind, exec_raiseIfDisposed]
  cases hd : s.client.disposed with
  | true => rfl
  | false =>
      simp only [Bool.false_eq_true, if_false, Prog.exec_bind, Prog.exec_get]
      cases hp : s.client.pendingLines with
      | cons raw later => rfl
      | nil => simp only [Prog.exec_bind]

theorem nextRecord_moves {timeout : Rat} {commandName : String} {result : Except Exc Bytes}
    (h : (nextRecord (recorded T) timeout commandName).exec s = (result, s')) :
    Moves s (result.toOption.elim [] weightReadings) s' := by
  rw [nextRecord, Prog.exec_bind, exec_raiseIfDisposed] at h
  cases hd : s.client.disposed with
  | true =>
      rw [hd] at h
      cases h
      exact Moves.still rfl rfl
  | false =>
      rw [hd] at h
      simp only [Bool.false_eq_true, if_false, Prog.exec_bind, Prog.exec_get] at h
      cases hp : s.client.pendingLines with
      | cons raw later =>
          rw [hp] at h
          cases h
          refine ⟨[], by simp, ?_⟩
          simp only [SbiClient.queued, hp, List.flatMap_cons, List.flatMap_nil]
          exact Passes.pop _ _
      | nil =>
          rw [hp] at h
          simp only [onTransport, Prog.exec_zoom, exec_recorded_readUntil] at h
          rcases hread : (T.readUntil lineTerminator timeout).exec s.world.world with ⟨e | raw, w⟩
          · rw [hread] at h
            cases h
            exact Moves.still rfl rfl
          · rw [hread] at h
            cases h
            refine ⟨[raw], rfl, ?_⟩
            simp only [SbiClient.queued, hp, List.flatMap_cons, List.flatMap_nil, List.append_nil]
            exact Passes.overtake (.inr rfl)

/-- What becomes of a record that a call has taken. -/
inductive Verdict (raw : Bytes) : Except Exc SbiReply → Prop where
  | reply {r : SbiReply} (h : parseReply raw = .ok r) (hrefused : refusedIn raw = false) : Verdict raw (.ok r)
  | refused {e : Exc} (h : refusedIn raw = true) : Verdict raw (.error e)
  | unparsed {e : SartoriusError} (h : parseReply raw = .error e) : Verdict raw (.error (.sartorius e))

theorem replyRefusal_isSome (r : SbiReply) (commandName : String) (sbiToken : Option Bytes) :
    (replyRefusal r commandName sbiToken).isSome = r.lines.any fun line => line.kind = .refusal := by
  rw [replyRefusal, Option.isSome_map]
  cases hany : r.lines.any fun line => decide (line.kind = .refusal) with
  | true =>
      rw [List.find?_isSome]
      simpa using hany
  | false =>
      rw [Bool.eq_false_iff, Ne, List.find?_isSome]
      simpa using hany

theorem parseOrDrain_verdict (hT : LineTransport T) {raw : Bytes} {commandName : String} {sbiToken : Option Bytes}
    {r r' : Recorded W} {result : Except Exc SbiReply}
    (h : (parseOrDrain (recorded T) raw commandName sbiToken).exec r = (result, r')) :
    Verdict raw result ∧ r'.records = r.records ∧ ∀ reply, parseReply raw = .ok reply → r' = r := by
  unfold parseOrDrain at h
  cases hparse : parseReply raw with
  | error e =>
      obtain ⟨w, hw⟩ := hT.drains r.world
      have hdrain : (recorded T).drainInput.exec r = (.ok (), { r with world := w }) := by
        simp [recorded, Recorded.lift, hw]
      rw [hparse] at h
      simp only [Prog.exec_bind, exec_exceptException, hdrain] at h
      cases h
      exact ⟨.unparsed hparse, rfl, by simp⟩
  | ok reply =>
      have hrefused := replyRefusal_isSome reply commandName sbiToken
      rw [hparse] at h
      dsimp only at h
      cases hr : replyRefusal reply commandName sbiToken with
      | some e =>
          rw [hr] at h hrefused
          cases h
          refine ⟨.refused ?_, rfl, fun _ _ => rfl⟩
          rw [refusedIn, hparse]
          exact hrefused.symm
      | none =>
          rw [hr] at h hrefused
          cases h
          refine ⟨.reply hparse ?_, rfl, fun _ _ => rfl⟩
          rw [refusedIn, hparse]
          exact hrefused.symm

end Records

end SartoriusLib.Sbi
