import SartoriusLib.Lib.Dict
import SartoriusLib.Protocol.Sbi.Framing
import SartoriusLib.Testing.Lines

/-!
# Fixture files

A fixture is a text of `>` lines with requests and `<` lines with replies, which is read into the script of a fake
transport. Both formats trim their lines: between hexadecimal digits this loses nothing, and from a line of an SBI
reply it takes the blanks at the ends.
-/

namespace SartoriusLib.Testing

open Lib

/-! ## The parsers -/

def fixtureError (lineno : Nat) (message : String) (extra : List (String × Extra)) : Exc :=
  .sartorius
    { cls := .validationError, message := s!"fixture line {lineno}: {message}",
      context := { extra := ("line", .int lineno) :: extra } }

/-- `repr(t)`. -/
def quoted (t : Text) : String := textRepr (String.ofList t)

/-- `_decode_hex_tokens`. -/
def decodeHexTokens (payload : Text) (lineno : Nat) : Except Exc Bytes :=
  let compact := Text.join [] (Text.split payload)
  if compact.length % 2 ≠ 0 then
    .error (fixtureError lineno s!"odd hex length in {quoted payload}" [("payload", .text (String.ofList payload))])
  else
    match Text.fromHex compact with
    | some b => .ok b
    | none =>
        .error (fixtureError lineno s!"invalid hex in {quoted payload}" [("payload", .text (String.ofList payload))])

/-- `_sbi_line`. -/
def sbiLine (text : Text) : Bytes :=
  let raw := encodeAsciiReplace text
  if Bytes.endsWith raw Sbi.lineTerminator then raw
  else Bytes.rstrip Sbi.lineTerminator raw ++ Sbi.lineTerminator

/-- What tells the two formats apart. -/
structure Format where
  /-- What a request is called in the error of an empty one. -/
  request : String
  tx : Text → Nat → Except Exc Bytes
  rx : Text → Nat → Except Exc Bytes

/-- The script so far, and the request that a reply belongs to. -/
structure Script where
  mapping : Dict Bytes Bytes := []
  current : Option Bytes := none
  deriving DecidableEq, Repr

/-- `mapping.setdefault(tx, b"")`, with `tx` as the request of the replies that follow. -/
def Script.request (s : Script) (tx : Bytes) : Script where
  mapping := if (s.mapping.get? tx).isSome then s.mapping else s.mapping.set tx []
  current := some tx

/-- `mapping[tx] = mapping[tx] + rx`. -/
def Script.reply (s : Script) (tx rx : Bytes) : Script :=
  { s with mapping := s.mapping.set tx ((s.mapping.get? tx).getD [] ++ rx) }

def Format.readLine (f : Format) (s : Script) (lineno : Nat) (raw : Text) : Except Exc Script :=
  let line := Text.strip (raw.takeWhile (· ≠ '#'))
  if line = [] then .ok s
  else
    let marker := line.takeWhile (· ≠ ' ')
    let payload := Text.strip ((line.dropWhile (· ≠ ' ')).drop 1)
    if marker = ['>'] then
      if payload = [] then .error (fixtureError lineno s!"empty {f.request} payload" [])
      else (f.tx payload lineno).map s.request
    else if marker = ['<'] then
      match s.current with
      | none => .error (fixtureError lineno "'<' reply before any '>' request" [])
      | some tx => (f.rx payload lineno).map (s.reply tx)
    else
      .error (fixtureError lineno s!"unrecognised marker {quoted marker} (expected '>' or '<')"
        [("marker", .text (String.ofList marker))])

def Format.readLines (f : Format) : Script → Nat → List Text → Except Exc Script
  | s, _, [] => .ok s
  | s, lineno, raw :: lines => do f.readLines (← f.readLine s lineno raw) (lineno + 1) lines

def Format.parse (f : Format) (text : Text) : Except Exc (Dict Bytes Bytes) :=
  (f.readLines {} 1 (Text.splitlines text)).map Script.mapping

def xbpiFormat : Format where
  request := "TX"
  tx := decodeHexTokens
  rx payload lineno := if payload = [] then .ok [] else decodeHexTokens payload lineno

def sbiFormat : Format where
  request := "SBI TX"
  tx payload lineno :=
    match Sbi.normalizeToken (.text payload) with
    | .ok token => .ok token
    | .error _ =>
        .error (fixtureError lineno s!"invalid SBI token {quoted payload}"
          [("payload", .text (String.ofList payload))])
  rx payload _ := .ok (sbiLine payload)

def parseXbpiFixture (text : Text) : Except Exc (Dict Bytes Bytes) := xbpiFormat.parse text

def parseSbiFixture (text : Text) : Except Exc (Dict Bytes Bytes) := sbiFormat.parse text

/-! ## Rendered fixtures -/

/-- Nothing, or a comment up to the end of the line. -/
def IsComment (t : Text) : Prop := t = [] ∨ ∃ rest, t = '#' :: rest

/-- A blank line, or a line with nothing but a comment. -/
def Filler (line : Text) : Prop := ∃ indent comment, Text.Blank indent ∧ IsComment comment ∧ line = indent ++ comment

/-- A line with a marker, one space and a payload. -/
def Marked (marker : Char) (payload line : Text) : Prop :=
  ∃ indent comment, Text.Blank indent ∧ IsComment comment ∧ line = indent ++ (marker :: ' ' :: payload ++ comment)

section Rendering

/-- How the requests and the parts of the replies are written as payloads. -/
structure Spelling (R : Type) where
  request : Bytes → Text → Prop
  reply : R → Text → Prop

inductive Item (R : Type) where
  | request (tx : Bytes)
  | reply (part : R)

variable {R : Type} (N : Spelling R)

/-- The line of an item. -/
def Spelling.Line : Item R → Text → Prop
  | .request tx, line => ∃ payload, N.request tx payload ∧ Marked '>' payload line
  | .reply part, line => ∃ payload, N.reply part payload ∧ Marked '<' payload line

/-- The lines of the items in their order, with comments and blank lines anywhere. -/
inductive Spelling.Lines : List (Item R) → List Text → Prop where
  | nil : Spelling.Lines [] []
  | filler {items : List (Item R)} {line : Text} {lines : List Text} : Filler line → Spelling.Lines items lines →
      Spelling.Lines items (line :: lines)
  | item {item : Item R} {items : List (Item R)} {line : Text} {lines : List Text} : N.Line item line →
      Spelling.Lines items lines → Spelling.Lines (item :: items) (line :: lines)

/-- The items of a mapping whose replies come in parts. -/
def itemsOf (m : List (Bytes × List R)) : List (Item R) :=
  m.flatMap fun e => .request e.1 :: e.2.map .reply

/-- A text that renders the mapping. -/
structure Spelling.Renders (m : List (Bytes × List R)) (text : Text) : Prop where
  nodup : (m.map Prod.fst).Nodup
  written : ∃ lines, N.Lines (itemsOf m) lines ∧ Text.Written lines text

end Rendering

/-! ## One line -/

theorem IsComment.takeWhile {t : Text} (h : IsComment t) : t.takeWhile (· ≠ '#') = [] := by
  rcases h with rfl | ⟨rest, rfl⟩ <;> simp

theorem Blank.ne_hash {t : Text} (h : Text.Blank t) : ∀ c ∈ t, c ≠ '#' := by
  rintro c hc rfl
  exact absurd (h _ hc) (by decide)

/-- A line up to its comment. -/
theorem takeWhile_comment {t comment : Text} (ht : ∀ c ∈ t, c ≠ '#') (hcomment : IsComment comment) :
    (t ++ comment).takeWhile (· ≠ '#') = t := by
  rw [List.takeWhile_append_of_pos (by simpa using ht), hcomment.takeWhile, List.append_nil]

theorem Filler.trimmed {line : Text} (h : Filler line) : Text.strip (line.takeWhile (· ≠ '#')) = [] := by
  obtain ⟨indent, comment, hindent, hcomment, rfl⟩ := h
  rw [takeWhile_comment (Blank.ne_hash hindent) hcomment, Text.strip_blank hindent]

/-- What a marked line is cut into. -/
theorem Marked.trimmed {marker : Char} {payload line : Text} (h : Marked marker payload line)
    (hmarker : marker = '>' ∨ marker = '<') (hpayload : ∀ c ∈ payload, c ≠ '#') :
    ∃ rest, Text.strip (line.takeWhile (· ≠ '#')) = marker :: rest ∧
      (marker :: rest).takeWhile (· ≠ ' ') = [marker] ∧
      Text.strip (((marker :: rest).dropWhile (· ≠ ' ')).drop 1) = Text.strip payload := by
  obtain ⟨indent, comment, hindent, hcomment, rfl⟩ := h
  have hspace : Text.isSpace marker = false := by rcases hmarker with rfl | rfl <;> decide
  have hne : marker ≠ ' ' ∧ marker ≠ '#' := by rcases hmarker with rfl | rfl <;> decide
  have hline : (indent ++ (marker :: ' ' :: payload ++ comment)).takeWhile (· ≠ '#') =
      indent ++ (marker :: ' ' :: payload ++ []) := by
    rw [← List.append_assoc, takeWhile_comment _ hcomment, List.append_nil]
    intro c hc
    rcases List.mem_append.mp hc with hc | hc
    · exact Blank.ne_hash hindent c hc
    rcases List.mem_cons.mp hc with rfl | hc
    · exact hne.2
    rcases List.mem_cons.mp hc with rfl | hc
    · decide
    · exact hpayload c hc
  refine ⟨Text.rstrip (' ' :: payload), ?_, ?_⟩
  · rw [hline, Text.strip_append hindent .nil, Text.strip, Text.lstrip_cons hspace, Text.rstrip_cons hspace]
  · by_cases hblank : Text.Blank payload
    · have hall : Text.Blank (' ' :: payload) := by
        intro c hc
        rcases List.mem_cons.mp hc with rfl | hc
        · decide
        · exact hblank c hc
      rw [hall.rstrip, Text.strip_blank hblank]
      simp [hne.1, Text.strip, Text.lstrip, Text.rstrip]
    · rw [Text.rstrip_cons_of_not_blank ' ' hblank]
      simp [hne.1, Text.strip_rstrip]

section Reading

variable {R : Type} {N : Spelling R} {f : Format} {decode : R → Bytes}

/-- The format reads what is spelled, whatever the line number. -/
structure Reads (f : Format) (N : Spelling R) (decode : R → Bytes) : Prop where
  request : ∀ {tx payload}, N.request tx payload → (∀ c ∈ payload, c ≠ '#') ∧ Text.strip payload ≠ [] ∧
    ∀ lineno, f.tx (Text.strip payload) lineno = .ok tx
  reply : ∀ {part payload}, N.reply part payload → (∀ c ∈ payload, c ≠ '#') ∧
    ∀ lineno, f.rx (Text.strip payload) lineno = .ok (decode part)

/-- What an item does to the script; a reply needs a request. -/
def advance (decode : R → Bytes) (s : Script) : Item R → Option Script
  | .request tx => some (s.request tx)
  | .reply part => s.current.map fun tx => s.reply tx (decode part)

theorem Reads.readLine (hf : Reads f N decode) {item : Item R} {line : Text} (hline : N.Line item line) {s s' : Script}
    (hs : advance decode s item = some s') (lineno : Nat) : f.readLine s lineno line = .ok s' := by
  cases item with
  | request tx =>
      obtain ⟨payload, hspelled, hmarked⟩ := hline
      obtain ⟨hhash, hne, htx⟩ := hf.request hspelled
      obtain ⟨rest, hstrip, hmarker, hpayload⟩ := hmarked.trimmed (.inl rfl) hhash
      cases hs
      simp only [Format.readLine, hstrip, hmarker, hpayload, if_true, if_neg hne, htx]
      rfl
  | reply part =>
      obtain ⟨payload, hspelled, hmarked⟩ := hline
      obtain ⟨hhash, hrx⟩ := hf.reply hspelled
      obtain ⟨rest, hstrip, hmarker, hpayload⟩ := hmarked.trimmed (.inr rfl) hhash
      obtain ⟨tx, hcurrent, rfl⟩ := Option.map_eq_some_iff.mp hs
      simp only [Format.readLine, hstrip, hmarker, hpayload, hcurrent, hrx]
      rfl

theorem readLine_filler {line : Text} (hline : Filler line) (s : Script) (lineno : Nat) :
    f.readLine s lineno line = .ok s := by
  simp only [Format.readLine, hline.trimmed, if_true]

/-- The lines of a list of items do what the items do. -/
theorem Reads.readLines (hf : Reads f N decode) {items : List (Item R)} {lines : List Text}
    (hlines : N.Lines items lines) :
    ∀ {s s' : Script} (lineno : Nat), items.foldlM (advance decode) s = some s' →
      f.readLines s lineno lines = .ok s' := by
  induction hlines with
  | nil =>
      intro s s' lineno hs
      cases hs
      rfl
  | filler hline _ ih =>
      intro s s' lineno hs
      rw [Format.readLines, readLine_filler hline]
      exact ih (lineno + 1) hs
  | item hline _ ih =>
      intro s s' lineno hs
      rw [List.foldlM_cons] at hs
      obtain ⟨s₁, hs₁, hs⟩ := Option.bind_eq_some_iff.mp hs
      rw [Format.readLines, hf.readLine hline hs₁]
      exact ih (lineno + 1) hs

/-! ## The whole text -/

/-- The reply whose parts were read. -/
def replyOf (decode : R → Bytes) (parts : List R) : Bytes := parts.flatMap decode

theorem advance_replies {d : Dict Bytes Bytes} {tx : Bytes} (hnew : tx ∉ d.keys) (parts : List R) :
    ∀ rx, (parts.map Item.reply).foldlM (advance decode) { mapping := d ++ [(tx, rx)], current := some tx } =
      some { mapping := d ++ [(tx, rx ++ replyOf decode parts)], current := some tx } := by
  induction parts with
  | nil =>
      intro rx
      simp [replyOf]
  | cons part parts ih =>
      intro rx
      have hreply : ({ mapping := d ++ [(tx, rx)], current := some tx } : Script).reply tx (decode part) =
          { mapping := d ++ [(tx, rx ++ decode part)], current := some tx } := by
        rw [← Dict.set_of_notMem hnew]
        simp only [Script.reply, Dict.get?_set_self, Option.getD_some, Dict.set_set]
        rw [Dict.set_of_notMem hnew]
      rw [List.map_cons, List.foldlM_cons, advance]
      simp only [Option.map_some, Option.bind_eq_bind, Option.bind_some, hreply]
      rw [ih, replyOf, replyOf, List.flatMap_cons, List.append_assoc]

theorem advance_request {s : Script} {tx : Bytes} (hnew : tx ∉ s.mapping.keys) (parts : List R) :
    (.request tx :: parts.map Item.reply).foldlM (advance decode) s =
      some { mapping := s.mapping ++ [(tx, replyOf decode parts)], current := some tx } := by
  have hrequest : s.request tx = { mapping := s.mapping ++ [(tx, [])], current := some tx } := by
    rw [Script.request, (Dict.get?_eq_none_iff _ _).mpr hnew, ← Dict.set_of_notMem hnew]
    rfl
  rw [List.foldlM_cons, advance, hrequest]
  exact advance_replies hnew parts []

/-- The script of a list of items is the mapping that they render. -/
theorem advance_itemsOf {m : List (Bytes × List R)} :
    ∀ {s : Script}, (s.mapping.keys ++ m.map Prod.fst).Nodup → ∃ s', (itemsOf m).foldlM (advance decode) s = some s' ∧
      s'.mapping = s.mapping ++ m.map fun e => (e.1, replyOf decode e.2) := by
  induction m with
  | nil =>
      intro s _
      exact ⟨s, rfl, by simp⟩
  | cons e m ih =>
      intro s hnodup
      have hnew : e.1 ∉ s.mapping.keys := fun hmem =>
        (List.nodup_append.mp hnodup).2.2 _ hmem _ (by simp) rfl
      have hlater : ((s.mapping ++ [(e.1, replyOf decode e.2)] : Dict Bytes Bytes).keys ++ m.map Prod.fst).Nodup := by
        simpa [Dict.keys] using hnodup
      obtain ⟨s', hs', hmapping⟩ := ih
        (s := { mapping := s.mapping ++ [(e.1, replyOf decode e.2)], current := some e.1 }) hlater
      refine ⟨s', ?_, by rw [hmapping]; simp⟩
      rw [itemsOf, List.flatMap_cons, List.foldlM_append, advance_request hnew]
      exact hs'

/-- A format reads a text that renders a mapping as that mapping. -/
theorem Reads.parse (hf : Reads f N decode) {m : List (Bytes × List R)} {text : Text} (h : N.Renders m text) :
    f.parse text = .ok (m.map fun e => (e.1, replyOf decode e.2)) := by
  obtain ⟨lines, hlines, hwritten⟩ := h.written
  have hnodup : (Dict.keys ({} : Script).mapping ++ Dict.keys m).Nodup := by simpa [Dict.keys] using h.nodup
  obtain ⟨s', hs', hmapping⟩ := advance_itemsOf (m := m) hnodup
  rw [Format.parse, hwritten.splitlines, hf.readLines hlines 1 hs']
  exact congrArg Except.ok hmapping

end Reading

/-! ## xBPI -/

/-- Hexadecimal digits, with blanks anywhere between them. -/
def hexSpelling : Spelling Bytes where
  request tx payload := tx ≠ [] ∧ Text.Spells tx (payload.filter (!Text.isSpace ·))
  reply rx payload := Text.Spells rx (payload.filter (!Text.isSpace ·))

/-- A text that renders the mapping, each reply split over any number of lines. -/
def RendersXbpi (m : Dict Bytes Bytes) (text : Text) : Prop :=
  ∃ blocks : List (Bytes × List Bytes), m = blocks.map (fun e => (e.1, e.2.flatten)) ∧ hexSpelling.Renders blocks text

theorem spells_ne_hash {b : Bytes} {payload : Text} (h : Text.Spells b (payload.filter (!Text.isSpace ·))) :
    ∀ c ∈ payload, c ≠ '#' := by
  rintro c hc rfl
  exact (h.chars '#' (List.mem_filter.mpr ⟨hc, by decide⟩)).2 rfl

theorem decodeHexTokens_spells {b : Bytes} {payload : Text} (h : Text.Spells b (payload.filter (!Text.isSpace ·)))
    (lineno : Nat) : decodeHexTokens (Text.strip payload) lineno = .ok b := by
  have hcompact : Text.join [] (Text.split (Text.strip payload)) = payload.filter (!Text.isSpace ·) := by
    rw [Text.join_split, Text.filter_strip]
  rw [decodeHexTokens, hcompact, h.fromHex, if_neg (by rw [h.length]; omega)]

theorem xbpiFormat_reads : Reads xbpiFormat hexSpelling id where
  request := by
    rintro tx payload ⟨hne, hspells⟩
    refine ⟨spells_ne_hash hspells, fun hempty => ?_, decodeHexTokens_spells hspells⟩
    have hfilter := Text.filter_strip payload
    rw [hempty] at hfilter
    rw [← hfilter] at hspells
    cases hspells
    exact hne rfl
  reply := by
    intro part payload hspells
    refine ⟨spells_ne_hash hspells, fun lineno => ?_⟩
    show (if Text.strip payload = [] then .ok [] else decodeHexTokens (Text.strip payload) lineno) = .ok part
    split_ifs with hempty
    · have hfilter := Text.filter_strip payload
      rw [hempty] at hfilter
      replace hspells : Text.Spells part (payload.filter (!Text.isSpace ·)) := hspells
      rw [← hfilter] at hspells
      cases hspells
      rfl
    · exact decodeHexTokens_spells hspells lineno

/-! ## SBI -/

/-- A character of a line of SBI. -/
def IsPrintable (c : Char) : Prop := 0x20 ≤ c.toNat ∧ c.toNat ≤ 0x7E

/-- A line on the wire. -/
def wireLine (line : Text) : Bytes := encodeAsciiReplace line ++ Sbi.lineTerminator

/-- Tokens as `ESC` and their text, and the lines of the replies as they are. -/
def sbiSpelling : Spelling Text where
  request token payload := ∃ body : Text, token = 0x1B :: encodeAsciiReplace body ∧ payload = "ESC ".toList ++ body ∧
    (∀ c ∈ body, IsPrintable c ∧ c ≠ '#') ∧ Text.Trimmed body
  reply line payload := payload = line ∧ ∀ c ∈ line, IsPrintable c ∧ c ≠ '#'

theorem printable_bytes {t : Text} (ht : ∀ c ∈ t, IsPrintable c) :
    ∀ x ∈ encodeAsciiReplace t, x ∉ Sbi.lineTerminator := by
  intro x hx hterminator
  obtain ⟨c, hc, rfl⟩ := List.mem_map.mp hx
  obtain ⟨hlow, hhigh⟩ := ht c hc
  rw [if_pos (by omega)] at hterminator
  have hvalue : (UInt8.ofNat c.toNat).toNat = c.toNat := by
    rw [UInt8.toNat_ofNat']
    omega
  have hcases : UInt8.ofNat c.toNat = 0x0D ∨ UInt8.ofNat c.toNat = 0x0A := by
    simpa [Sbi.lineTerminator] using hterminator
  rcases hcases with h | h <;> rw [h] at hvalue <;> simp at hvalue <;> omega

theorem rstrip_of_notMem {chars b : Bytes} (h : ∀ x ∈ b, x ∉ chars) : Bytes.rstrip chars b = b := by
  rw [Bytes.rstrip, ← List.reverse_inj, List.reverse_reverse]
  cases hb : b.reverse with
  | nil => rfl
  | cons x rest =>
      have hx : x ∉ chars := h x (List.mem_reverse.mp (by rw [hb]; exact List.mem_cons_self))
      simp [hx]

theorem encodeAscii_printable {t : Text} (ht : ∀ c ∈ t, IsPrintable c) :
    encodeAscii ('\x1b' :: t) = some (0x1B :: encodeAsciiReplace t) := by
  have hall : ∀ c ∈ t, c.toNat < 128 := fun c hc => by
    have := (ht c hc).2
    omega
  have hbytes : encodeAsciiReplace t = t.map fun c => UInt8.ofNat c.toNat :=
    List.map_congr_left fun c hc => if_pos (hall c hc)
  rw [encodeAscii, if_pos (by simpa using hall), hbytes]
  rfl

/-- The readable form of a token. -/
theorem normalizeToken_readable {body : Text} (hbody : ∀ c ∈ body, IsPrintable c) (htrimmed : Text.Trimmed body) :
    Sbi.normalizeToken (.text (Text.strip ("ESC ".toList ++ body))) = .ok (0x1B :: encodeAsciiReplace body) := by
  have hstrip : Text.strip ("ESC ".toList ++ body) = 'E' :: 'S' :: 'C' :: Text.rstrip (' ' :: body) := by
    rw [Text.strip]
    show Text.rstrip (Text.lstrip ('E' :: 'S' :: 'C' :: ' ' :: body)) = _
    rw [Text.lstrip_cons (by decide), Text.rstrip_cons (by decide), Text.rstrip_cons (by decide),
      Text.rstrip_cons (by decide)]
  have hrest : Text.lstrip (Text.rstrip (' ' :: body)) = body := by
    by_cases hblank : Text.Blank body
    · obtain rfl : body = [] := by rw [← htrimmed, Text.strip_blank hblank]
      rfl
    · have hright : Text.rstrip body = body := by
        conv_lhs => rw [← htrimmed.lstrip]
        exact htrimmed
      rw [Text.rstrip_cons_of_not_blank ' ' hblank, hright]
      exact (Text.lstrip_append (s := [' ']) (by simp [Text.isSpace])).trans htrimmed.lstrip
  have htoken : Sbi.textToken (Text.strip ("ESC ".toList ++ body)) = .ok (0x1B :: encodeAsciiReplace body) := by
    rw [Sbi.textToken, Text.strip_strip, hstrip]
    have hstarts :
        Text.startsWith (Text.upper ('E' :: 'S' :: 'C' :: Text.rstrip (' ' :: body))) "ESC".toList = true := by
      rfl
    simp only [hstarts, if_true, List.drop_succ_cons, List.drop_zero, hrest, encodeAscii_printable hbody]
  have hrstrip :
      Bytes.rstrip Sbi.lineTerminator (0x1B :: encodeAsciiReplace body) = 0x1B :: encodeAsciiReplace body := by
    refine rstrip_of_notMem fun x hx => ?_
    rcases List.mem_cons.mp hx with rfl | hx
    · decide
    · exact printable_bytes hbody x hx
  simp only [Sbi.normalizeToken, htoken, bind, Except.bind, hrstrip]
  rw [if_neg (by simp), if_neg (by simp [Sbi.ESC])]

/-- A printable line gets its terminator. -/
theorem sbiLine_printable {t : Text} (ht : ∀ c ∈ t, IsPrintable c) : sbiLine t = wireLine t := by
  have hbytes := printable_bytes ht
  have hends : Bytes.endsWith (encodeAsciiReplace t) Sbi.lineTerminator = false := by
    rw [Bool.eq_false_iff]
    intro h
    exact hbytes 0x0A ((List.isSuffixOf_iff_suffix.mp h).subset (by decide)) (by decide)
  rw [sbiLine, hends]
  simp only [Bool.false_eq_true, if_false]
  rw [rstrip_of_notMem hbytes, wireLine]

theorem sbiFormat_reads : Reads sbiFormat sbiSpelling fun line => wireLine (Text.strip line) where
  request := by
    rintro token payload ⟨body, rfl, rfl, hbody, htrimmed⟩
    refine ⟨?_, ?_, fun lineno => ?_⟩
    · intro c hc
      rcases List.mem_append.mp hc with hc | hc
      · rintro rfl
        exact absurd hc (by decide)
      · exact (hbody c hc).2
    · intro hempty
      exact absurd (Text.mem_strip (t := "ESC ".toList ++ body) (c := 'E') (by simp) (by decide)) (by rw [hempty]; simp)
    · simp only [sbiFormat, normalizeToken_readable (fun c hc => (hbody c hc).1) htrimmed]
  reply := by
    rintro part payload ⟨rfl, hline⟩
    refine ⟨fun c hc => (hline c hc).2, fun lineno => ?_⟩
    exact congrArg Except.ok (sbiLine_printable fun c hc => (hline c ((Text.strip_sublist _).subset hc)).1)

/-! ## The replay -/

/-- The lines of a reply as they are, and as they are read. -/
theorem length_replyOf_strip (lines : List Text) :
    (replyOf (fun line => wireLine (Text.strip line)) lines).length ≤ (replyOf wireLine lines).length := by
  induction lines with
  | nil => exact Nat.le_refl _
  | cons line lines ih =>
      have hline := (Text.strip_sublist line).length_le
      simp only [replyOf, List.flatMap_cons, List.length_append, wireLine, encodeAsciiReplace, List.length_map] at ih ⊢
      omega

/-- A reply comes back as it was exactly when no line of it begins or ends with a blank. -/
theorem replyOf_strip_iff (lines : List Text) :
    replyOf (fun line => wireLine (Text.strip line)) lines = replyOf wireLine lines ↔
      ∀ line ∈ lines, Text.Trimmed line := by
  induction lines with
  | nil => exact ⟨fun _ _ h => absurd h List.not_mem_nil, fun _ => rfl⟩
  | cons line lines ih =>
      rw [List.forall_mem_cons, ← ih]
      constructor
      · intro h
        have hsub := Text.strip_sublist line
        have hlater := length_replyOf_strip lines
        have hlength := congrArg List.length h
        simp only [replyOf, List.flatMap_cons, List.length_append, wireLine, encodeAsciiReplace, List.length_map]
          at hlength hlater
        have hline : Text.strip line = line := hsub.eq_of_length (by have := hsub.length_le; omega)
        refine ⟨hline, ?_⟩
        simp only [replyOf, List.flatMap_cons, hline] at h
        exact List.append_cancel_left h
      · rintro ⟨hline, hlater⟩
        simp only [replyOf, List.flatMap_cons] at hlater ⊢
        rw [hline, hlater]

/-- A text that renders an xBPI mapping is read as the mapping. A text that renders an SBI mapping is read as the
mapping with the lines of its replies trimmed, and so as the mapping itself exactly when no line begins or ends with a
blank. -/
theorem fixtures_replay :
    (∀ m text, RendersXbpi m text → parseXbpiFixture text = .ok m) ∧
    (∀ m text, sbiSpelling.Renders m text → parseSbiFixture text =
      .ok (m.map fun e => (e.1, replyOf (fun line => wireLine (Text.strip line)) e.2))) ∧
    (∀ m text, sbiSpelling.Renders m text →
      (parseSbiFixture text = .ok (m.map fun e => (e.1, replyOf wireLine e.2)) ↔
        ∀ e ∈ m, ∀ line ∈ e.2, Text.Trimmed line)) := by
  have hsbi : ∀ m text, sbiSpelling.Renders m text → parseSbiFixture text =
      .ok (m.map fun e => (e.1, replyOf (fun line => wireLine (Text.strip line)) e.2)) :=
    fun m text h => sbiFormat_reads.parse h
  refine ⟨?_, hsbi, fun m text h => ?_⟩
  · rintro m text ⟨blocks, rfl, h⟩
    rw [parseXbpiFixture, xbpiFormat_reads.parse h]
    simp [replyOf, List.flatMap_id]
  · rw [hsbi m text h, Except.ok.injEq, List.map_inj_left]
    refine forall₂_congr fun e he => ?_
    rw [Prod.mk.injEq, ← replyOf_strip_iff]
    simp

/-- A request with a comment behind it, a blank line, and a reply in two parts. -/
def splitText : Text := "> 71 # read\n\n< 2 1\n< 0A\n".toList

theorem splitText_renders : RendersXbpi [([0x71], [0x21, 0x0A])] splitText := by
  refine ⟨[([0x71], [[0x21], [0x0A]])], rfl, by decide,
    ["> 71 # read".toList, [], "< 2 1".toList, "< 0A".toList], ?_, ?_⟩
  · refine .item ⟨"71 ".toList, ⟨by decide, .cons (.inl rfl) (.inl rfl) .nil⟩, [], "# read".toList, .nil,
      .inr ⟨_, rfl⟩, rfl⟩ <| .filler ⟨[], [], .nil, .inl rfl, rfl⟩ <|
      .item ⟨"2 1".toList, .cons (.inl rfl) (.inl rfl) .nil, [], [], .nil, .inl rfl, rfl⟩ <|
      .item ⟨"0A".toList, .cons (.inl rfl) (.inr rfl) .nil, [], [], .nil, .inl rfl, rfl⟩ .nil
  · exact .lf (Text.unbroken_of_all (by decide)) <| .lf (Text.unbroken_of_all (by decide)) <|
      .lf (Text.unbroken_of_all (by decide)) <| .lf (Text.unbroken_of_all (by decide)) .nil

/-- A print request whose reply is the line. -/
def weightText (line : Text) : Text := "> ESC P\n< ".toList ++ line ++ ['\n']

theorem weightText_renders (line : Text)
    (hline : (line.all fun c => (0x20 ≤ c.toNat ∧ c.toNat ≤ 0x7E) ∧ c ≠ '#') = true)
    (hbreak : ("< ".toList ++ line).all (fun c => !Text.isLineBreak c) = true) :
    sbiSpelling.Renders [([0x1B, 0x50], [line])] (weightText line) := by
  refine ⟨by simp, ["> ESC P".toList, "< ".toList ++ line], ?_,
    .lf (Text.unbroken_of_all (by decide)) (.lf (Text.unbroken_of_all hbreak) .nil)⟩
  refine .item ⟨"ESC P".toList, ⟨['P'], rfl, rfl, ?_, rfl⟩, [], [], .nil, .inl rfl, rfl⟩ <|
    .item ⟨line, ⟨rfl, ?_⟩, [], [], .nil, .inl rfl, (List.append_nil _).symm⟩ .nil
  · intro c hc
    obtain rfl := List.mem_singleton.mp hc
    exact ⟨⟨by decide, by decide⟩, by decide⟩
  · intro c hc
    show (0x20 ≤ c.toNat ∧ c.toNat ≤ 0x7E) ∧ c ≠ '#'
    exact of_decide_eq_true (List.all_eq_true.mp hline c hc)

/-- A weight without blanks around it. -/
def trimmedLine : Text := "+     0.00 g".toList

theorem fixtures_replay_split :
    parseXbpiFixture splitText = .ok [([0x71], [0x21, 0x0A])] ∧
      parseSbiFixture (weightText trimmedLine) = .ok [([0x1B, 0x50], wireLine trimmedLine)] := by
  have hrenders := weightText_renders trimmedLine (by decide) (by decide)
  refine ⟨fixtures_replay.1 _ _ splitText_renders, ((fixtures_replay.2.2 _ _ hrenders).mpr ?_).trans (by decide)⟩
  intro e he line hline
  obtain rfl := List.mem_singleton.mp he
  obtain rfl := List.mem_singleton.mp hline
  rfl

/-- A weight in a line of a fixed width. -/
def paddedLine : Text := "+     0.00 g  ".toList

/-- The blanks at the end of the line are lost. -/
theorem padded_reply_trimmed : ∃ text, sbiSpelling.Renders [([0x1B, 0x50], [paddedLine])] text ∧
    parseSbiFixture text ≠ .ok [([0x1B, 0x50], wireLine paddedLine)] := by
  have hrenders := weightText_renders paddedLine (by decide) (by decide)
  refine ⟨_, hrenders, ?_⟩
  rw [parseSbiFixture, sbiFormat_reads.parse hrenders]
  intro h
  have hlength := congrArg (fun r => (r.toOption.getD []).map fun e => e.2.length) h
  exact absurd hlength (by decide)

end SartoriusLib.Testing
