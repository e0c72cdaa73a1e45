import SartoriusLib.Lib.Regex
import SartoriusLib.Protocol.Sbi.Tables

/-!
# SBI line codec

Normalisation of command tokens, splitting of a payload into lines, and the test that tells an unsolicited
weight line from a command reply.
-/

namespace SartoriusLib.Sbi

open SartoriusLib Lib

def lineTerminator : Bytes := [0x0D, 0x0A]

/-! ## Character classes -/

def isDigit (c : Char) : Bool := '0' ≤ c ∧ c ≤ '9'

def isLetter (c : Char) : Bool := ('A' ≤ c ∧ c ≤ 'Z') ∨ ('a' ≤ c ∧ c ≤ 'z')

/-- `[A-Za-z0-9 ]`. -/
def isIdChar (c : Char) : Bool := isLetter c || isDigit c || c == ' '

/-- `[+-]`. -/
def isSignChar (c : Char) : Bool := c == '+' || c == '-'

/-- `[A-Za-zµ/_\.]`. -/
def isUnitChar (c : Char) : Bool := isLetter c || c == 'µ' || c == '/' || c == '_' || c == '.'

/-- `\d+(?:\.\d*)?|\.\d+`. -/
def numberRe {ν : Type} : Re ν :=
  .alt (.seq (.some isDigit) (.opt (.seq (.chr '.') (.many isDigit)))) (.seq (.chr '.') (.some isDigit))

/-- The regular expression of an autoprint line. -/
def autoprintRe : Re Unit :=
  .seq (.many Text.isSpace) <| .seq (.opt (.chr '?')) <| .seq (.many Text.isSpace) <|
  .seq (.opt (.seq (.one isLetter) (.seq (.rep isIdChar 0 (some 5)) (.some Text.isSpace)))) <|
  .seq (.opt (.one isSignChar)) <| .seq (.many Text.isSpace) <| .seq numberRe <|
  .seq (.many Text.isSpace) <| .seq (.many isUnitChar) (.many Text.isSpace)

def bareNumberRe : Re Unit := .seq (.many Text.isSpace) <| .seq numberRe (.many Text.isSpace)

def autoprintSpecials : List Text :=
  ["CAL. EXT.".toList, "CAL. INT.".toList, "CAL.INT.".toList, "H".toList, "HH".toList, "HIGH".toList,
   "HI".toList, "L".toList, "LL".toList, "LOW".toList]

def minFormattedWeightBodyChars : Nat := 14

/-! ## Tokens -/

/-- A command as the caller writes it. -/
inductive SbiCommand where
  | bytes (b : Bytes)
  | text (t : Text)
  deriving DecidableEq, Repr

/-- The token of a readable form such as `"ESC P"`, before the terminator is stripped. -/
def textToken (command : Text) : Except Exc Bytes :=
  let text := Text.strip command
  let text :=
    if Text.startsWith (Text.upper text) "ESC".toList then '\x1b' :: Text.lstrip (text.drop 3) else text
  match encodeAscii text with
  | some token => .ok token
  | none => .error .unicodeEncodeError

def normalizeToken (command : SbiCommand) : Except Exc Bytes := do
  let token ← match command with
    | .bytes b => .ok b
    | .text t => textToken t
  let token := Bytes.rstrip lineTerminator token
  if token = [] then
    .error (.sartorius { cls := .validationError, message := "SBI command token cannot be empty",
                         context := { protocol := some "sbi" } })
  else if ¬ ESC.isPrefixOf token then
    .error (.sartorius { cls := .validationError, message := "SBI command token must start with ESC",
                         context := { protocol := some "sbi", sbiToken := some token,
                                      extra := [("token", .text (bytesHex token))] } })
  else .ok token

/-- `build_command(command, terminator=...)`. -/
def buildCommand (command : SbiCommand) (terminator : Bytes := []) : Except Exc Bytes :=
  (normalizeToken command).map (· ++ terminator)

/-! ## Lines -/

def stripLineTerminator (line : Bytes) : Bytes :=
  if Bytes.endsWith line lineTerminator then line.take (line.length - 2)
  else if Bytes.endsWith line [0x0A] then Bytes.rstrip [0x0D] line.dropLast
  else line

/-- The loop of `split_lines`; `cur` holds the bytes since the last line, reversed. -/
def splitLinesLoop (raw : Bytes) : Bytes → Bytes → Except SartoriusError (List Bytes)
  | [], [] => .ok []
  | _ :: _, [] =>
      .error { cls := .frameError, message := "SBI payload ended before a line terminator",
               context := { rawResponse := some raw, protocol := some "sbi" } }
  | cur, x :: rest =>
      if x = 0x0A then (splitLinesLoop raw [] rest).map ((x :: cur).reverse :: ·)
      else splitLinesLoop raw (x :: cur) rest

def splitLines (raw : Bytes) : Except SartoriusError (List Bytes) := splitLinesLoop raw [] raw

/-- `" ".join(text.upper().split())` without a leading `STAT `, as both line classifiers normalise it. -/
def statusMarker (text : Text) : Text :=
  let marker := Text.join " ".toList (Text.split (Text.upper text))
  if Text.startsWith marker "STAT ".toList then
    Text.strip (Text.removePrefix marker "STAT ".toList)
  else marker

def isAutoprintLine (line : Bytes) : Bool :=
  let body := decodeAsciiReplace (stripLineTerminator line)
  let text := Text.strip body
  if text = [] then false
  else if (bareNumberRe.fullmatch body).isSome ∧
      (body = text ∨ body.length < minFormattedWeightBodyChars) then false
  else (autoprintRe.fullmatch body).isSome || autoprintSpecials.contains (statusMarker text)

/-! ## Lines end at their first terminator -/

theorem splitLinesLoop_line (raw cur l rest : Bytes) (h : ∀ x ∈ l, x ≠ 0x0A) :
    splitLinesLoop raw cur (l ++ 0x0A :: rest) =
      (splitLinesLoop raw [] rest).map ((cur.reverse ++ l ++ [0x0A]) :: ·) := by
  induction l generalizing cur with
  | nil => simp [splitLinesLoop]
  | cons x l ih =>
      have hx : x ≠ 0x0A := h x List.mem_cons_self
      rw [List.cons_append, splitLinesLoop, if_neg hx, ih _ fun y hy => h y (List.mem_cons_of_mem _ hy)]
      simp

/-- A payload of complete lines is split into these lines. -/
theorem splitLines_flatten {ls : List Bytes} (h : ∀ l ∈ ls, ∃ b : Bytes, l = b ++ [0x0A] ∧ ∀ x ∈ b, x ≠ 0x0A) :
    splitLines ls.flatten = .ok ls := by
  have hloop : ∀ raw, splitLinesLoop raw [] ls.flatten = .ok ls := by
    intro raw
    induction ls with
    | nil => rfl
    | cons l ls ih =>
        obtain ⟨b, rfl, hb⟩ := h l List.mem_cons_self
        have hflat : ((b ++ [0x0A]) :: ls).flatten = b ++ 0x0A :: ls.flatten := by simp
        rw [hflat, splitLinesLoop_line raw [] b _ hb, ih fun l' hl' => h l' (List.mem_cons_of_mem _ hl')]
        simp [Except.map]
  exact hloop _

theorem splitLinesLoop_error {raw cur rest : Bytes} {e : SartoriusError}
    (h : splitLinesLoop raw cur rest = .error e) : e.cls = .frameError := by
  induction rest generalizing cur with
  | nil =>
      cases cur with
      | nil => cases h
      | cons x cur =>
          cases h
          rfl
  | cons x rest ih =>
      rw [splitLinesLoop] at h
      split at h
      · cases hrest : splitLinesLoop raw [] rest with
        | ok ls =>
            rw [hrest] at h
            cases h
        | error e' =>
            rw [hrest] at h
            cases h
            exact ih hrest
      · exact ih h

end SartoriusLib.Sbi
