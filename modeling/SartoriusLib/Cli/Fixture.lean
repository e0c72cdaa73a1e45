import SartoriusLib.Cli.Diagnostics
import SartoriusLib.Devices.ScriptedBalance
import SartoriusLib.Testing.Fixtures

/-!
# Fixtures in place of a port

With `--fixture` a command talks to the script of a fixture file. The parser is chosen by the first request of the
text, and a snapshot of a fixture prints what the fixture says of each opcode.
-/

namespace SartoriusLib.Cli

open SartoriusLib Lib Prog Factory

/-! ## The choice of the parser -/

/-- `_looks_like_sbi_fixture`, on the lines of the text. -/
def looksLikeSbiLines : List Text → Bool
  | [] => false
  | raw :: lines =>
      let line := Text.strip (raw.takeWhile (· ≠ '#'))
      let payload := Text.strip (line.drop 1)
      if ¬ line.startsWith ['>'] then looksLikeSbiLines lines
      else if payload = [] then looksLikeSbiLines lines
      else if (Text.upper payload).startsWith ['E', 'S', 'C'] then true
      else (Text.lower (payload.filter (· ≠ ' '))).startsWith ['1', 'b']

def looksLikeSbiFixture (text : Text) : Bool := looksLikeSbiLines (Text.splitlines text)

/-- `load_fixture_transport`, with the text of the file at `path`. -/
def loadFixtureTransport (path : String) (text : Text) : Except Exc ScriptedState := do
  let script ← if looksLikeSbiFixture text then Testing.parseSbiFixture text else Testing.parseXbpiFixture text
  pure { fake := { label := s!"fixture://{path}" }, script := scriptOf script }

section Choice

open Testing

variable {R : Type} {N : Spelling R}

theorem looksLikeSbiLines_filler {line : Text} (h : Filler line) (lines : List Text) :
    looksLikeSbiLines (line :: lines) = looksLikeSbiLines lines := by
  rw [looksLikeSbiLines, h.trimmed]
  rfl

/-- What follows the marker of a line. -/
theorem Marked.content {marker : Char} {payload line : Text} (h : Marked marker payload line)
    (hmarker : marker = '>' ∨ marker = '<') (hpayload : ∀ c ∈ payload, c ≠ '#') :
    ∃ rest, Text.strip (line.takeWhile (· ≠ '#')) = marker :: rest ∧ Text.strip rest = Text.strip payload := by
  obtain ⟨rest, hline, htoken, hrest⟩ := h.trimmed hmarker hpayload
  have hne : marker ≠ ' ' := by rcases hmarker with rfl | rfl <;> decide
  refine ⟨rest, hline, ?_⟩
  cases rest with
  | nil => simpa [hne] using hrest
  | cons c rest =>
      obtain rfl : c = ' ' := by
        by_contra hc
        simp [hne, hc] at htoken
      have hdrop : ((marker :: ' ' :: rest).dropWhile (· ≠ ' ')).drop 1 = rest := by simp [hne]
      rw [hdrop] at hrest
      rw [← hrest, Text.strip, Text.strip, ← List.singleton_append, Text.lstrip_append (by simp [Text.isSpace])]

/-- The first request of a text decides. -/
theorem looksLikeSbiLines_request {payload line : Text} (h : Marked '>' payload line) (hhash : ∀ c ∈ payload, c ≠ '#')
    (hne : Text.strip payload ≠ []) (lines : List Text) :
    looksLikeSbiLines (line :: lines) = ((Text.upper (Text.strip payload)).startsWith ['E', 'S', 'C'] ||
      (Text.lower ((Text.strip payload).filter (· ≠ ' '))).startsWith ['1', 'b']) := by
  obtain ⟨rest, hline, hrest⟩ := Marked.content h (.inl rfl) hhash
  have hmarker : Text.startsWith ('>' :: rest) ['>'] = true := by simp [Text.startsWith]
  rw [looksLikeSbiLines, hline, List.drop_succ_cons, List.drop_zero, hrest, if_neg (not_not.mpr hmarker), if_neg hne]
  cases (Text.upper (Text.strip payload)).startsWith ['E', 'S', 'C'] <;> rfl

theorem upperChar_eq_S {c : Char} (h : Text.upperChar c = 'S') : Text.hexValue c = none ∧ Text.isSpace c = false := by
  have hcases : c = 's' ∨ c = 'ſ' ∨ c = 'S' := by
    unfold Text.upperChar at h
    split_ifs at h with hlower hlong
    · have hall : ∀ n < 123, 97 ≤ n → Char.ofNat (n - 32) = 'S' → n = 115 := by decide
      have hs := hall c.toNat (Nat.lt_succ_of_le hlower.2) hlower.1 h
      exact .inl (by rw [← Char.ofNat_toNat c, hs])
    · exact .inr (.inl (by rw [← Char.ofNat_toNat c, hlong]))
    · exact .inr (.inr h)
  rcases hcases with rfl | rfl | rfl <;> decide

theorem lowerChar_eq {c d : Char} (h : Text.lowerChar c = d) : c = d ∨ 65 ≤ c.toNat ∧ c.toNat + 32 = d.toNat := by
  unfold Text.lowerChar at h
  split_ifs at h with hupper
  · have hall : ∀ n < 91, (Char.ofNat (n + 32)).toNat = n + 32 := by decide
    exact .inr ⟨hupper.1, by rw [← h, hall c.toNat (Nat.lt_succ_of_le hupper.2)]⟩
  · exact .inl h

theorem spells_hexValue {b : Bytes} {t : Text} (h : Text.Spells b t) : ∀ c ∈ t, Text.hexValue c ≠ none := by
  induction h with
  | nil => exact fun _ h => absurd h List.not_mem_nil
  | @cons x hi lo b t hhi hlo _ ih =>
      have hx := x.toNat_lt
      intro c hc
      rcases List.mem_cons.mp hc with rfl | hc
      · simp [(Text.hexValue_digit (by omega) hhi).1]
      rcases List.mem_cons.mp hc with rfl | hc
      · simp [(Text.hexValue_digit (by omega) hlo).1]
      · exact ih c hc

/-- Digits do not spell `ESC`, and they begin with `1b` only behind the length 0x1B. -/
theorem hexPayload_not_sbi {tx : Bytes} {payload : Text} (h : Text.Spells tx (payload.filter (!Text.isSpace ·)))
    (hfirst : tx.head? ≠ some 0x1B) :
    ((Text.upper payload).startsWith ['E', 'S', 'C'] ||
      (Text.lower (payload.filter (· ≠ ' '))).startsWith ['1', 'b']) = false := by
  rw [Bool.or_eq_false_iff, Bool.eq_false_iff, Bool.eq_false_iff]
  constructor
  · intro hstarts
    rcases payload with - | ⟨c₀, - | ⟨c₁, rest⟩⟩
    · simp [Text.upper, Text.startsWith] at hstarts
    · simp [Text.upper, Text.startsWith] at hstarts
    · have hS : Text.upperChar c₁ = 'S' := by
        simp only [Text.upper, Text.startsWith, List.map_cons, List.isPrefixOf, Bool.and_eq_true, beq_iff_eq] at hstarts
        exact hstarts.2.1.symm
      obtain ⟨hnone, hspace⟩ := upperChar_eq_S hS
      exact spells_hexValue h c₁ (List.mem_filter.mpr ⟨by simp, by rw [hspace]; rfl⟩) hnone
  · intro hstarts
    have hdigits : payload.filter (!Text.isSpace ·) = (payload.filter (· ≠ ' ')).filter (!Text.isSpace ·) := by
      rw [List.filter_filter]
      refine List.filter_congr fun c _ => ?_
      by_cases hc : c = ' '
      · subst hc
        decide
      · simp [hc]
    rw [hdigits] at h
    rcases hcompact : payload.filter (· ≠ ' ') with - | ⟨c₀, - | ⟨c₁, rest⟩⟩ <;> rw [hcompact] at hstarts h
    · simp [Text.lower, Text.startsWith] at hstarts
    · simp [Text.lower, Text.startsWith] at hstarts
    · simp only [Text.lower, Text.startsWith, List.map_cons, List.isPrefixOf, Bool.and_eq_true, beq_iff_eq] at hstarts
      have h₀ : c₀ = '1' := by
        have h49 : '1'.toNat = 49 := rfl
        rcases lowerChar_eq hstarts.1.symm with h | ⟨h, h'⟩
        · exact h
        · omega
      have h₁ : Text.hexValue c₁ = some 11 ∧ Text.isSpace c₁ = false := by
        rcases lowerChar_eq hstarts.2.1.symm with rfl | ⟨-, h'⟩
        · decide
        · have h98 : 'b'.toNat = 98 := rfl
          have hB : c₁ = 'B' := by rw [← Char.ofNat_toNat c₁, show c₁.toNat = 66 by omega]
          subst hB
          decide
      have hspace : Text.isSpace '1' = false := by decide
      have hvalue : Text.hexValue '1' = some 1 := by decide
      rw [h₀, List.filter_cons_of_pos (by rw [hspace]; rfl), List.filter_cons_of_pos (by rw [h₁.2]; rfl)] at h
      have htx := h.fromHex
      simp only [Text.fromHex, hvalue, h₁.1, Option.map_eq_some_iff] at htx
      obtain ⟨later, -, rfl⟩ := htx
      exact hfirst rfl

/-- The first request of some items, if they have any. -/
def FirstRequest (P : Bytes → Prop) (items : List (Item R)) : Prop :=
  items = [] ∨ ∃ tx later, items = .request tx :: later ∧ P tx

theorem itemsOf_firstRequest {P : Bytes → Prop} {m : List (Bytes × List R)} (h : ∀ e ∈ m.head?, P e.1) :
    FirstRequest P (itemsOf m) := by
  cases m with
  | nil => exact .inl rfl
  | cons e m => exact .inr ⟨e.1, _, rfl, h e rfl⟩

/-- A text whose first request is not taken for SBI. -/
theorem looksLikeSbiLines_hex {items : List (Item Bytes)} {lines : List Text} (hlines : hexSpelling.Lines items lines)
    (hfirst : FirstRequest (fun tx => tx.head? ≠ some 0x1B) items) : looksLikeSbiLines lines = false := by
  induction hlines with
  | nil => rfl
  | filler hline _ ih =>
      rw [looksLikeSbiLines_filler hline]
      exact ih hfirst
  | item hline _ _ =>
      rcases hfirst with h | ⟨tx, later, hitems, htx⟩
      · cases h
      cases hitems
      obtain ⟨payload, hspelled, hmarked⟩ := hline
      obtain ⟨hhash, hne, -⟩ := xbpiFormat_reads.request hspelled
      have hdigits : Text.Spells tx ((Text.strip payload).filter (!Text.isSpace ·)) := by
        rw [Text.filter_strip]
        exact hspelled.2
      rw [looksLikeSbiLines_request hmarked hhash hne]
      exact hexPayload_not_sbi hdigits htx

theorem looksLikeSbiLines_sbi {items : List (Item Text)} {lines : List Text} (hlines : sbiSpelling.Lines items lines)
    (hfirst : ∃ tx later, items = .request tx :: later) : looksLikeSbiLines lines = true := by
  induction hlines with
  | nil => exact absurd hfirst (by simp)
  | filler hline _ ih =>
      rw [looksLikeSbiLines_filler hline]
      exact ih hfirst
  | item hline _ _ =>
      obtain ⟨tx, later, hitems⟩ := hfirst
      cases hitems
      obtain ⟨payload, hspelled, hmarked⟩ := hline
      obtain ⟨hhash, hne, -⟩ := sbiFormat_reads.request hspelled
      obtain ⟨body, -, rfl, -, -⟩ := hspelled
      have hstrip : Text.strip ("ESC ".toList ++ body) = 'E' :: 'S' :: 'C' :: Text.rstrip (' ' :: body) := by
        have htext : "ESC ".toList ++ body = 'E' :: 'S' :: 'C' :: ' ' :: body := rfl
        rw [htext, Text.strip, Text.lstrip_cons (by decide), Text.rstrip_cons (by decide),
          Text.rstrip_cons (by decide), Text.rstrip_cons (by decide)]
      rw [looksLikeSbiLines_request hmarked hhash hne, hstrip]
      rfl

/-- A rendered xBPI fixture is loaded as its mapping, unless its first request has the length 0x1B. -/
theorem loadFixtureTransport_xbpi {m : Dict Bytes Bytes} {text : Text} (h : RendersXbpi m text)
    (hfirst : ∀ e ∈ m.head?, e.1.head? ≠ some 0x1B) (path : String) :
    loadFixtureTransport path text = .ok { fake := { label := s!"fixture://{path}" }, script := scriptOf m } := by
  obtain ⟨blocks, rfl, hrenders⟩ := h
  obtain ⟨lines, hlines, hwritten⟩ := hrenders.written
  have hblocks : ∀ e ∈ blocks.head?, e.1.head? ≠ some 0x1B := by
    intro e he
    exact hfirst (e.1, e.2.flatten) (by rw [List.head?_map, Option.mem_def.mp he]; rfl)
  have hchoice : looksLikeSbiFixture text = false := by
    rw [looksLikeSbiFixture, hwritten.splitlines]
    exact looksLikeSbiLines_hex hlines (itemsOf_firstRequest hblocks)
  have hparse : parseXbpiFixture text = .ok (blocks.map fun e => (e.1, e.2.flatten)) := by
    rw [parseXbpiFixture, xbpiFormat_reads.parse hrenders]
    simp [replyOf, List.flatMap_id]
  rw [loadFixtureTransport, hchoice, if_neg Bool.false_ne_true, hparse]
  rfl

/-- A rendered SBI fixture is loaded with the lines of its replies trimmed. -/
theorem loadFixtureTransport_sbi {m : List (Bytes × List Text)} {text : Text} (h : sbiSpelling.Renders m text)
    (hne : m ≠ []) (path : String) :
    loadFixtureTransport path text = .ok
      { fake := { label := s!"fixture://{path}" },
        script := scriptOf (m.map fun e => (e.1, replyOf (fun line => wireLine (Text.strip line)) e.2)) } := by
  obtain ⟨lines, hlines, hwritten⟩ := h.written
  have hitems : ∃ tx later, itemsOf m = .request tx :: later := by
    cases m with
    | nil => exact absurd rfl hne
    | cons e m => exact ⟨e.1, _, rfl⟩
  have hchoice : looksLikeSbiFixture text = true := by
    rw [looksLikeSbiFixture, hwritten.splitlines]
    exact looksLikeSbiLines_sbi hlines hitems
  have hparse : parseSbiFixture text = _ := sbiFormat_reads.parse h
  rw [loadFixtureTransport, hchoice, if_pos rfl, hparse]
  rfl

end Choice

/-! ## The replay -/

section Replay

variable {β : Type}

def notSafeListed (opcode : Int) : SartoriusError where
  cls := .confirmationRequiredError
  message := s!"raw_xbpi: opcode 0x{hex02 opcode} is not on the read-only safe-list; " ++
    "pass confirm=True to proceed"
  context := { opcode := some opcode, protocol := some "xbpi", extra := [("safe_listed", .flag false)] }

/-- What the fixture of `m` says of a raw request. -/
def answer (m : Dict Bytes Bytes) (label : String) (timeout : Rat) (confirm : Bool) (opcode : Int) (args : Bytes) :
    Except SartoriusError Xbpi.XbpiFrame :=
  if opcode ∉ Commands.safeReadOnlyOpcodes ∧ ¬ confirm then .error (notSafeListed opcode)
  else
    match Xbpi.buildCommand opcode args with
    | .error e => .error e
    | .ok request => Xbpi.replayed m label request timeout s!"raw_xbpi[0x{hex02 opcode}]" (some opcode)

/-- The result that is printed of an outcome. -/
def resultOf (entry : Entry) (fields : Xbpi.XbpiFrame → Entry) : Except SartoriusError Xbpi.XbpiFrame → Entry
  | .ok frame => entry ++ fields frame
  | .error e => entry ++ errorFields e

variable {m : Dict Bytes Bytes}

/-- A balance that speaks xBPI between the default addresses. -/
structure Speaks (s : Session) : Prop where
  opened : Opened s
  active : s.active = .xbpi
  srcSbn : s.srcSbn = 0x01
  dstSbn : s.dstSbn = 0x09

theorem exec_executeRawXbpi_scripted {h : Host ScriptedState} (hs : Speaks h.session) (hworld : Replays m h.world)
    (hframes : ∀ e ∈ m, e.2 = [] ∨ Xbpi.IsFrame e.2) (opcode : Int) (args : Bytes) (confirm : Bool) (timeout : Rat) :
    (executeRawXbpi scriptedTransport.toTransport opcode args confirm (some timeout)).exec h =
      ((answer m h.world.fake.label timeout confirm opcode args).mapError .sartorius,
        { h with world := h.world.wrote (framesOf confirm [(opcode, args)]) }) := by
  have hstate : h.session.checkState = .ok () := by rw [Session.checkState, if_neg (by simp [hs.opened.operational])]
  obtain ⟨client, hclient, hlive⟩ := hs.opened.client hs.active
  have hcommand : Xbpi.buildCommand opcode args h.session.srcSbn h.session.dstSbn = Xbpi.buildCommand opcode args := by
    rw [hs.srcSbn, hs.dstSbn]
    rfl
  rw [executeRawXbpi, exec_bind_ok (exec_get h)]
  dsimp only
  rw [hstate, exec_bind_ok (exec_liftExcept_ok _ _), if_neg (not_not.mpr hs.active), hclient]
  dsimp only
  by_cases hgate : opcode ∉ Commands.safeReadOnlyOpcodes ∧ ¬ confirm = true
  · rw [if_pos hgate, answer, if_pos hgate, framesOf, List.filter_cons_of_neg (by simpa using hgate)]
    simp [ScriptedState.wrote, Except.mapError, notSafeListed, raise]
  · rw [if_neg hgate, answer, if_neg hgate, framesOf, List.filter_cons_of_pos (by simp; tauto), hcommand]
    cases hbuild : Xbpi.buildCommand opcode args with
    | error e =>
        have hframe : requestFrame opcode args = none := by rw [requestFrame, hbuild]; rfl
        rw [exec_bind_error (exec_liftExcept_error e h)]
        simp [hframe, ScriptedState.wrote, Except.mapError]
    | ok request =>
        have hframe : requestFrame opcode args = some request := by rw [requestFrame, hbuild]; rfl
        have hlocked := Xbpi.exec_executeLocked_scripted hworld hframes request timeout
          s!"raw_xbpi[0x{hex02 opcode}]" (some opcode)
        rw [exec_bind_ok (exec_liftExcept_ok _ _), hlive, onWorld, exec_zoom, Option.getD_some, hlocked]
        simp [hframe]

/-- The results of a loop over a fixture are what the fixture says, one for each request. -/
theorem exec_recordEach_scripted (hframes : ∀ e ∈ m, e.2 = [] ∨ Xbpi.IsFrame e.2) (timeout : Rat) (confirm : Bool)
    (request : β → Int × Bytes) (entry : β → Entry) (fields : Xbpi.XbpiFrame → Entry) (items : List β) :
    ∀ {h : Host ScriptedState}, Speaks h.session → Replays m h.world →
      (recordEach (fun item => recorded (entry item) fields
        (executeRawXbpi scriptedTransport.toTransport (request item).1 (request item).2 confirm (some timeout)))
          items).exec h =
        (.ok (items.map fun item => resultOf (entry item) fields
          (answer m h.world.fake.label timeout confirm (request item).1 (request item).2)),
          { h with world := h.world.wrote (framesOf confirm (items.map request)) }) := by
  induction items with
  | nil =>
      intro h _ _
      simp [recordEach, framesOf, ScriptedState.wrote]
  | cons item later ih =>
      intro h hs hworld
      have hrequest := exec_executeRawXbpi_scripted hs hworld hframes (request item).1 (request item).2 confirm timeout
      have hitem : (recorded (entry item) fields (executeRawXbpi scriptedTransport.toTransport (request item).1
          (request item).2 confirm (some timeout))).exec h =
          (.ok (resultOf (entry item) fields
            (answer m h.world.fake.label timeout confirm (request item).1 (request item).2)),
            { h with world := h.world.wrote (framesOf confirm [request item]) }) := by
        rw [recorded, exec_tryCatch, exec_map, hrequest]
        cases answer m h.world.fake.label timeout confirm (request item).1 (request item).2 <;> rfl
      have hlater := ih (h := { h with world := h.world.wrote (framesOf confirm [request item]) }) hs (hworld.wrote _)
      have hframesOf : framesOf confirm ((item :: later).map request) =
          framesOf confirm [request item] ++ framesOf confirm (later.map request) := by
        rw [framesOf, framesOf, framesOf, ← List.filterMap_append, ← List.filter_append]
        rfl
      rw [recordEach, exec_bind_ok hitem, exec_bind_ok hlater, hframesOf]
      simp [ScriptedState.wrote]

/-- An opening that neither detects nor identifies only opens the port. -/
theorem exec_openDevice_xbpi {W : Type} (T : OwnedTransport W) {r : OpenRequest} (hprotocol : r.protocol = .xbpi)
    (hidentify : r.identify = false) (hsrc : r.srcSbn = 0x01) (hdst : r.dstSbn = 0x09) {o o₁ : Opening W}
    (hopen : (ensureOpen T).exec o = (.ok (), o₁)) :
    ∃ o', (openDevice T r).exec o = (.ok (), o') ∧ Speaks o'.host.session ∧ o'.host.world = o₁.host.world := by
  obtain ⟨o', hbuild, hsession, hworld, -⟩ := exec_buildBalance_xbpi T.toTransport hprotocol o₁
  have hactive : o'.host.session.active = .xbpi := by
    rw [hsession]
    rfl
  obtain ⟨hopened, hsrc', hdst'⟩ := buildBalance_opened hbuild
  refine ⟨o', ?_, ⟨hopened, hactive, hsrc'.trans hsrc, hdst'.trans hdst⟩, hworld⟩
  rw [openDevice, exec_bind_ok hopen, closingOnError, exec_tryCatch, exec_bind_ok hbuild,
    if_neg (by rw [hidentify]; exact Bool.false_ne_true)]
  rfl

theorem exec_withBalance {W α : Type} {T : OwnedTransport W} {a : OpenArgs} {body : Py (Host W) α}
    {o o₁ : Opening W} {x : α} {h : Host W} {w : W} (hopen : (openDevice T a.request).exec o = (.ok (), o₁))
    (hbody : body.exec o₁.host = (.ok x, h)) (hclose : T.close.exec h.world = (.ok (), w)) :
    (withBalance T a body).exec o = (.ok x, { o₁ with host := { h with world := w } }) := by
  have hwork : (closingOnError T (Factory.onHost body)).exec o₁ = (.ok x, { o₁ with host := h }) := by
    rw [closingOnError, exec_tryCatch, Factory.onHost, exec_zoom, hbody]
  have hclosed : (onPort T.close).exec { o₁ with host := h } = (.ok (), { o₁ with host := { h with world := w } }) := by
    rw [onPort, Factory.onHost, onWorld, exec_zoom, exec_zoom, hclose]
  rw [withBalance, withDevice, exec_bind_ok hopen, exec_bind_ok hwork, exec_bind_ok hclosed, exec_pure]

/-- What a snapshot finds in the fixture of `m`. -/
def snapshotResults (m : Dict Bytes Bytes) (label : String) (timeout : Rat) (only : Option (List Int)) : List Entry :=
  (snapshotOpcodes only).map fun opcode =>
    resultOf (opcodeEntry opcode) snapshotFields (answer m label timeout false opcode [])

/-- A snapshot of a fixture succeeds, and prints for each opcode what the fixture says of it: the fields of its reply,
the error that the reply stands for, the timeout of a request without a reply, or the refusal of an opcode that is not
on the safe-list. The port is closed again, with the frames of the requests written to it. -/
theorem snapshot_replays {m : Dict Bytes Bytes} {text : Text} (hm : Testing.RendersXbpi m text)
    (hfirst : ∀ e ∈ m.head?, e.1.head? ≠ some 0x1B) (hframes : ∀ e ∈ m, e.2 = [] ∨ Xbpi.IsFrame e.2) (path : String)
    {a : OpenArgs} (hprotocol : a.protocol = .xbpi) (only : Option (List Int)) :
    ∃ w, loadFixtureTransport path text = .ok w ∧ ∀ t : Terminal ScriptedState, t.opening.host.world = w →
      ∃ t', (snapshotMain scriptedTransport a only none).exec t = (.ok 0, t') ∧ t'.stderr = t.stderr ∧
        t'.stdout = t.stdout ++ snapshotText (snapshotResults m s!"fixture://{path}" a.timeout only) ∧
        t'.opening.host.world =
          w.wrote (framesOf false ((snapshotOpcodes only).map fun opcode => (opcode, []))) := by
  refine ⟨_, loadFixtureTransport_xbpi hm hfirst path, fun t hworld => ?_⟩
  obtain ⟨o₁, hopen, hspeaks, hsame⟩ := exec_openDevice_xbpi scriptedTransport (r := a.request) hprotocol rfl rfl rfl
    (exec_ensureOpen_closed (o := t.opening) (by rw [hworld]))
  have hreplays : Replays m o₁.host.world := by
    rw [hsame, hworld]
    exact ⟨rfl, rfl, rfl, rfl, rfl⟩
  have hprobe := exec_recordEach_scripted hframes a.timeout false (fun opcode => (opcode, [])) opcodeEntry
    snapshotFields (snapshotOpcodes only) hspeaks hreplays
  have hlabel : o₁.host.world.fake.label = s!"fixture://{path}" := by rw [hsame, hworld]
  rw [hlabel] at hprobe
  obtain ⟨o₂, hsnapshot, hworld₂⟩ : ∃ o₂, (withBalance scriptedTransport a
      (probeAll scriptedTransport.toTransport a.timeout (snapshotOpcodes only))).exec t.opening =
        (.ok (snapshotResults m s!"fixture://{path}" a.timeout only), o₂) ∧
      o₂.host.world = t.opening.host.world.wrote
        (framesOf false ((snapshotOpcodes only).map fun opcode => (opcode, []))) := by
    refine ⟨_, exec_withBalance hopen hprobe rfl, ?_⟩
    rw [hsame, hworld]
    rfl
  have hopening : (onOpening (withBalance scriptedTransport a
      (probeAll scriptedTransport.toTransport a.timeout (snapshotOpcodes only)))).exec t =
        (.ok (snapshotResults m s!"fixture://{path}" a.timeout only), { t with opening := o₂ }) := by
    rw [onOpening, exec_zoom, hsnapshot]
  rw [snapshotMain, runCli, exec_tryCatch, exec_bind_ok hopening]
  exact ⟨_, rfl, rfl, rfl, hworld₂.trans (by rw [hworld])⟩

/-- A fixture with a request and its reply. -/
def addressText : Text := "> 04 01 09 71 7f\n< 04 41 21 00 66\n".toList

theorem addressText_renders :
    Testing.RendersXbpi [([0x04, 0x01, 0x09, 0x71, 0x7F], [0x04, 0x41, 0x21, 0x00, 0x66])] addressText := by
  refine ⟨[([0x04, 0x01, 0x09, 0x71, 0x7F], [[0x04, 0x41, 0x21, 0x00, 0x66]])], rfl, by decide,
    ["> 04 01 09 71 7f".toList, "< 04 41 21 00 66".toList], ?_, ?_⟩
  · refine .item ⟨"04 01 09 71 7f".toList, ⟨by decide, ?_⟩, [], [], .nil, .inl rfl, rfl⟩ <|
      .item ⟨"04 41 21 00 66".toList, ?_, [], [], .nil, .inl rfl, rfl⟩ .nil
    · exact .cons (.inl rfl) (.inl rfl) <| .cons (.inl rfl) (.inl rfl) <| .cons (.inl rfl) (.inl rfl) <|
        .cons (.inl rfl) (.inl rfl) <| .cons (.inl rfl) (.inl rfl) .nil
    · exact .cons (.inl rfl) (.inl rfl) <| .cons (.inl rfl) (.inl rfl) <| .cons (.inl rfl) (.inl rfl) <|
        .cons (.inl rfl) (.inl rfl) <| .cons (.inl rfl) (.inl rfl) .nil
  · exact .lf (Text.unbroken_of_all (by decide)) <| .lf (Text.unbroken_of_all (by decide)) .nil

/-- The arguments of a snapshot of that fixture. -/
def addressArgs : OpenArgs where
  settings := { port := "fixture" }
  protocol := .xbpi

theorem snapshot_replays_address :
    ∃ w, loadFixtureTransport "address.txt" addressText = .ok w ∧
      ∀ t : Terminal ScriptedState, t.opening.host.world = w →
        ∃ t', (snapshotMain scriptedTransport addressArgs none none).exec t = (.ok 0, t') ∧ t'.stderr = t.stderr ∧
          t'.stdout = t.stdout ++ snapshotText (snapshotResults
            [([0x04, 0x01, 0x09, 0x71, 0x7F], [0x04, 0x41, 0x21, 0x00, 0x66])] "fixture://address.txt" 1 none) ∧
          t'.opening.host.world =
            w.wrote (framesOf false ((snapshotOpcodes none).map fun opcode => (opcode, []))) :=
  snapshot_replays addressText_renders (by simp)
    (by
      intro e he
      obtain rfl := List.mem_singleton.mp he
      exact .inr ⟨by decide, by decide, by decide, by decide⟩)
    "address.txt" rfl none

end Replay

end SartoriusLib.Cli
