import SartoriusLib.Errors

/-!
# Text and byte-string operations

The operations of `str` and `bytes` that the library uses, on lists of characters and of bytes.
-/

namespace SartoriusLib

/-- A Python `str`. -/
abbrev Text : Type := List Char

namespace Text

/-- `str.isspace` of one character; also the class `\s` of a pattern. -/
def isSpace (c : Char) : Bool :=
  (0x09 ≤ c.toNat && c.toNat ≤ 0x0D) || (0x1C ≤ c.toNat && c.toNat ≤ 0x20) || c.toNat == 0x85 ||
  c.toNat == 0xA0 || c.toNat == 0x1680 || (0x2000 ≤ c.toNat && c.toNat ≤ 0x200A) ||
  c.toNat == 0x2028 || c.toNat == 0x2029 || c.toNat == 0x202F || c.toNat == 0x205F ||
  c.toNat == 0x3000

def lstrip (t : Text) : Text := t.dropWhile isSpace

def rstrip (t : Text) : Text := (t.reverse.dropWhile isSpace).reverse

/-- `t.strip()`. -/
def strip (t : Text) : Text := rstrip (lstrip t)

/-- `str.upper` of one character, exact on ASCII; `ſ` is the only other character whose upper case
takes part in a comparison of the library. -/
def upperChar (c : Char) : Char :=
  if 'a' ≤ c ∧ c ≤ 'z' then Char.ofNat (c.toNat - 32) else if c.toNat = 0x17F then 'S' else c

def upper (t : Text) : Text := t.map upperChar

/-- `str.lower` of one character, exact on ASCII. -/
def lowerChar (c : Char) : Char :=
  if 'A' ≤ c ∧ c ≤ 'Z' then Char.ofNat (c.toNat + 32) else c

def lower (t : Text) : Text := t.map lowerChar

/-- The words of `t.split()`; `cur` is the word being read, reversed. -/
def splitLoop : Text → Text → List Text
  | cur, [] => if cur = [] then [] else [cur.reverse]
  | cur, c :: t =>
      if isSpace c then (if cur = [] then splitLoop [] t else cur.reverse :: splitLoop [] t)
      else splitLoop (c :: cur) t

def split (t : Text) : List Text := splitLoop [] t

/-- `sep.join(parts)`. -/
def join (sep : Text) (parts : List Text) : Text := List.intercalate sep parts

def startsWith (t p : Text) : Bool := p.isPrefixOf t

/-- `t.removeprefix(p)`. -/
def removePrefix (t p : Text) : Text := if t.startsWith p then t.drop p.length else t

/-! ## The characters that stripping and splitting keep -/

section Characters

variable {c : Char} {t : Text}

theorem forall_false_of_any {p : Char → Bool} {t : Text} (h : t.any p = false) : ∀ c ∈ t, p c = false := by
  simpa using h

theorem forall_forall_false_of_any {p : Char → Bool} {ts : List Text} (h : (ts.any fun t => t.any p) = false) :
    ∀ t ∈ ts, ∀ c ∈ t, p c = false := by
  simpa using h

theorem mem_dropWhile {p : Char → Bool} (h : c ∈ t) (hc : p c = false) : c ∈ t.dropWhile p := by
  induction t with
  | nil => exact h
  | cons x t ih =>
      rw [List.dropWhile_cons]
      split
      · rcases List.mem_cons.mp h with rfl | h
        · simp_all
        · exact ih h
      · exact h

theorem mem_strip (h : c ∈ t) (hc : isSpace c = false) : c ∈ strip t :=
  List.mem_reverse.mpr (mem_dropWhile (List.mem_reverse.mpr (mem_dropWhile h hc)) hc)

theorem mem_splitLoop (hc : isSpace c = false) :
    ∀ cur, c ∈ cur ∨ c ∈ t → ∃ w ∈ splitLoop cur t, c ∈ w := by
  induction t with
  | nil =>
      rintro cur (h | h)
      · exact ⟨cur.reverse, by rw [splitLoop, if_neg (List.ne_nil_of_mem h)]; simp, by simpa using h⟩
      · cases h
  | cons x t ih =>
      intro cur h
      unfold splitLoop
      split
      · have hx : c ≠ x := by rintro rfl; simp_all
        rcases h with h | h
        · exact ⟨cur.reverse, by rw [if_neg (List.ne_nil_of_mem h)]; simp, by simpa using h⟩
        · obtain ⟨w, hw, hcw⟩ := ih [] (.inr ((List.mem_cons.mp h).resolve_left hx))
          exact ⟨w, by split <;> simp [hw], hcw⟩
      · refine ih _ ?_
        rcases h with h | h
        · exact .inl (List.mem_cons_of_mem _ h)
        · exact (List.mem_cons.mp h).imp (fun h => by simp [h]) fun h => h

theorem mem_join {sep w : Text} {ws : List Text} (hw : w ∈ ws) (h : c ∈ w) : c ∈ join sep ws := by
  unfold join
  induction ws with
  | nil => cases hw
  | cons v ws ih =>
      cases ws with
      | nil =>
          obtain rfl := List.mem_singleton.mp hw
          simpa [List.intercalate] using h
      | cons u ws =>
          rw [List.intercalate_cons_cons]
          rcases List.mem_cons.mp hw with rfl | hw
          · simp [h]
          · simp [ih hw]

theorem splitLoop_head : ∀ cur, cur ≠ [] → ∃ v ws, splitLoop cur t = (cur.reverse ++ v) :: ws := by
  induction t with
  | nil => exact fun cur hcur => ⟨[], [], by simp [splitLoop, hcur]⟩
  | cons x t ih =>
      intro cur hcur
      unfold splitLoop
      split
      · exact ⟨[], splitLoop [] t, by rw [List.append_nil]⟩
      · obtain ⟨v, ws, h⟩ := ih (x :: cur) (by simp)
        exact ⟨x :: v, ws, by rw [h]; simp⟩

/-- The words of a text that starts with a word start with the same character. -/
theorem join_split_head (hc : isSpace c = false) (sep : Text) :
    ∃ v, join sep (split (c :: t)) = c :: v := by
  have hsplit : split (c :: t) = splitLoop [c] t := by simp [split, splitLoop, hc]
  obtain ⟨v, ws, h⟩ := splitLoop_head (t := t) [c] (by simp)
  rw [hsplit, h]
  cases ws with
  | nil => exact ⟨v, by simp [join, List.intercalate]⟩
  | cons w ws => exact ⟨_, by rw [join, List.intercalate_cons_cons]; rfl⟩

theorem rstrip_cons (hc : isSpace c = false) : rstrip (c :: t) = c :: rstrip t := by
  simp only [rstrip, List.reverse_cons]
  rw [List.dropWhile_append]
  split
  · simp_all
  · simp

theorem rstrip_append_cons (hc : isSpace c = false) (s : Text) : rstrip (s ++ c :: t) = s ++ c :: rstrip t := by
  simp only [rstrip, List.reverse_append, List.reverse_cons, List.append_assoc]
  rw [List.dropWhile_append]
  split
  · simp_all
  · simp

/-- The first word of a text, and the words after the blank that ends it. -/
theorem split_word {w : Text} (hw : ∀ x ∈ w, isSpace x = false) (hne : w ≠ []) (hc : isSpace c = true) :
    split (w ++ c :: t) = w :: split t := by
  suffices h : ∀ cur, cur ++ w ≠ [] → splitLoop cur (w ++ c :: t) = (cur.reverse ++ w) :: splitLoop [] t by
    exact h [] (by simpa using hne)
  clear hne
  induction w with
  | nil =>
      intro cur hcur
      have hcur : cur ≠ [] := by simpa using hcur
      simp [splitLoop, hc, hcur]
  | cons x w ih =>
      intro cur _
      rw [List.cons_append, splitLoop, if_neg (by simp [hw x List.mem_cons_self]),
        ih (fun y hy => hw y (List.mem_cons_of_mem _ hy)) _ (by simp)]
      simp

/-- Blanks before the first word do not count. -/
theorem split_blanks {b : Text} (hb : ∀ x ∈ b, isSpace x = true) : split (b ++ t) = split t := by
  induction b with
  | nil => rfl
  | cons x b ih =>
      rw [List.cons_append, split, splitLoop, if_pos (hb x List.mem_cons_self), if_pos rfl]
      exact ih fun y hy => hb y (List.mem_cons_of_mem _ hy)

theorem lstrip_append {s : Text} (hs : ∀ x ∈ s, isSpace x = true) : lstrip (s ++ t) = lstrip t :=
  List.dropWhile_append_of_pos hs

theorem lstrip_cons (hc : isSpace c = false) : lstrip (c :: t) = c :: t := by
  simp [lstrip, hc]

/-- A text that starts with a blank is stripped. -/
theorem strip_ne_of_startsSpace (hc : isSpace c = true) : strip (c :: t) ≠ c :: t := by
  intro h
  have hlead : lstrip (c :: t) = lstrip t := List.dropWhile_cons_of_pos hc
  have hshort : (strip (c :: t)).length ≤ t.length := by
    rw [strip, hlead, rstrip, List.length_reverse]
    refine Nat.le_trans (List.dropWhile_suffix _).length_le ?_
    rw [List.length_reverse]
    exact (List.dropWhile_suffix _).length_le
  rw [h, List.length_cons] at hshort
  omega

/-- A text that ends in a blank is not stripped. -/
theorem strip_ne_of_endsSpace (hc : isSpace c = true) : strip (t ++ [c]) ≠ t ++ [c] := by
  intro h
  have hrev : (lstrip (t ++ [c])).reverse.dropWhile isSpace = c :: t.reverse := by
    rw [← List.reverse_inj]
    simpa [strip, rstrip] using h
  have := List.head?_dropWhile_not isSpace (lstrip (t ++ [c])).reverse
  rw [hrev] at this
  simp [hc] at this

end Characters

end Text

/-! ## ASCII -/

/-- `b.decode("ascii", errors="replace")`. -/
def decodeAsciiReplace (b : Bytes) : Text :=
  b.map fun x => if x < 128 then Char.ofNat x.toNat else Char.ofNat 0xFFFD

/-- `b.decode("ascii")`. -/
def decodeAscii (b : Bytes) : Option Text :=
  if b.all (· < 128) then some (b.map fun x => Char.ofNat x.toNat) else none

/-- `t.encode("ascii", errors="strict")`. -/
def encodeAscii (t : Text) : Option Bytes :=
  if t.all (fun c => c.toNat < 128) then some (t.map fun c => UInt8.ofNat c.toNat) else none

/-- `t.encode("ascii", errors="replace")`. -/
def encodeAsciiReplace (t : Text) : Bytes :=
  t.map fun c => if c.toNat < 128 then UInt8.ofNat c.toNat else 0x3F

/-! ## Byte strings -/

namespace Bytes

/-- `b.find(sep)`: the first position at which `sep` occurs. -/
def find (sep : Bytes) : Bytes → Option Nat
  | [] => if sep = [] then some 0 else none
  | x :: b => if sep.isPrefixOf (x :: b) then some 0 else (find sep b).map (· + 1)

def endsWith (b suffix : Bytes) : Bool := suffix.isSuffixOf b

/-- `b.rstrip(chars)`. -/
def rstrip (chars : Bytes) (b : Bytes) : Bytes := (b.reverse.dropWhile (· ∈ chars)).reverse

/-- `int.from_bytes(b, "big")`. -/
def toNatBE (b : Bytes) : Nat := b.foldl (fun n x => n * 256 + x.toNat) 0

/-- `n.to_bytes(size, "big")`, for an `n` that fits. -/
def ofNatBE : Nat → Nat → Bytes
  | 0, _ => []
  | size + 1, n => ofNatBE size (n / 256) ++ [UInt8.ofNat (n % 256)]

end Bytes

/-! ## Formatting of numbers -/

/-- `f"{n:02x}"`. -/
def hex02 (n : Int) : String :=
  let digits := String.ofList (Nat.toDigits 16 n.natAbs)
  let body := if digits.length < 2 && 0 ≤ n then "0" ++ digits else digits
  if n < 0 then "-" ++ body else body

/-- The character of a byte in `repr(b)`. -/
def byteRepr (quote : Char) (x : UInt8) : List Char :=
  if x = 0x5C then ['\\', '\\']
  else if x = 0x09 then ['\\', 't']
  else if x = 0x0A then ['\\', 'n']
  else if x = 0x0D then ['\\', 'r']
  else if Char.ofNat x.toNat = quote then ['\\', quote]
  else if 0x20 ≤ x ∧ x < 0x7F then [Char.ofNat x.toNat]
  else ['\\', 'x'] ++ (hex02 x.toNat).toList

/-- `repr(b)`. -/
def bytesRepr (b : Bytes) : String :=
  let quote := if 0x27 ∈ b ∧ 0x22 ∉ b then '"' else '\''
  String.ofList (['b', quote] ++ b.flatMap (byteRepr quote) ++ [quote])

/-- `repr(s)` of a text without quotes, backslashes and control characters. -/
def textRepr (s : String) : String := "'" ++ s ++ "'"

/-- `repr(l)` of a list of such texts. -/
def textsRepr (l : List String) : String := "[" ++ String.intercalate ", " (l.map textRepr) ++ "]"

/-- `b.hex()`. -/
def bytesHex (b : Bytes) : String := String.join (b.map fun x => hex02 x.toNat)

theorem natRepr_injective {m n : Nat} (h : m.repr = n.repr) : m = n := by
  have hvalue := congrArg (fun s : String => Nat.ofDigitChars 10 s.toList 0) h
  simpa using hvalue

/-- A number is known by its decimal text. -/
theorem intRepr_injective {a b : Int} (h : a.repr = b.repr) : a = b := by
  have hsign : ∀ m n : Nat, m.repr ≠ "-" ++ n.repr := by
    intro m n hmn
    have hmem : '-' ∈ m.repr.toList := by rw [hmn]; simp
    rw [Nat.toList_repr] at hmem
    exact absurd (Nat.isDigit_of_mem_toDigits (by decide) (by decide) hmem) (by decide)
  rw [Int.repr_eq_if, Int.repr_eq_if] at h
  split at h <;> split at h
  · have := natRepr_injective h
    omega
  · exact absurd h (hsign _ _)
  · exact absurd h.symm (hsign _ _)
  · have := natRepr_injective (String.append_right_inj "-" |>.mp h)
    omega

end SartoriusLib
