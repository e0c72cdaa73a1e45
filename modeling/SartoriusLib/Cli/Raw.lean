import SartoriusLib.Cli.Diagnostics

/-!
# The raw command

`sarto-raw` sends one opcode or one token that its caller spelled out. What is not on a safe-list is sent with a
confirmation only; the tokens of the command line are read after the port is open.
-/

namespace SartoriusLib.Cli

open SartoriusLib Lib Prog Factory

variable {W α : Type}

/-! ## Numbers on the command line -/

/-- The digits of a number to the base 16, with single underscores between them; `digit` says that the last character
was one. -/
def hexNumber : Bool → Nat → Text → Option Nat
  | digit, value, [] => if digit then some value else none
  | digit, value, c :: t =>
      if c = '_' then (if digit then hexNumber false value t else none)
      else
        match Text.hexValue c with
        | some d => hexNumber true (16 * value + d) t
        | none => none

/-- An underscore may stand behind the prefix. -/
def hexAfterPrefix (t : Text) : Option Nat :=
  if t.startsWith "0x".toList ∨ t.startsWith "0X".toList then hexNumber false 0 (Text.removePrefix (t.drop 2) ['_'])
  else hexNumber false 0 t

/-- The zeros of the scripts that have decimal digits of their own; the other nine stand behind each. -/
def zeroDigits : List Nat :=
  [0x0660, 0x06F0, 0x07C0, 0x0966, 0x09E6, 0x0A66, 0x0AE6, 0x0B66, 0x0BE6, 0x0C66, 0x0CE6, 0x0D66, 0x0DE6, 0x0E50,
   0x0ED0, 0x0F20, 0x1040, 0x1090, 0x17E0, 0x1810, 0x1946, 0x19D0, 0x1A80, 0x1A90, 0x1B50, 0x1BB0, 0x1C40, 0x1C50,
   0xA620, 0xA8D0, 0xA900, 0xA9D0, 0xA9F0, 0xAA50, 0xABF0, 0xFF10, 0x104A0, 0x10D30, 0x11066, 0x110F0, 0x11136,
   0x111D0, 0x112F0, 0x11450, 0x114D0, 0x11650, 0x116C0, 0x11730, 0x118E0, 0x11950, 0x11C50, 0x11D50, 0x11DA0,
   0x11F50, 0x16A60, 0x16AC0, 0x16B50, 0x1D7CE, 0x1D7D8, 0x1D7E2, 0x1D7EC, 0x1D7F6, 0x1E140, 0x1E2F0, 0x1E4F0,
   0x1E950, 0x1FBF0]

/-- What `int` reads of a character when its text is not ASCII. -/
def numeralChar (c : Char) : Char :=
  if Text.isSpace c then ' '
  else if c.toNat < 0x80 then c
  else
    match zeroDigits.find? fun first => first ≤ c.toNat ∧ c.toNat < first + 10 with
    | some first => Char.ofNat ('0'.toNat + (c.toNat - first))
    | none => '?'

/-- The numeral without the blanks around it, in ASCII. -/
def numeral (t : Text) : Text :=
  let t := if t.all fun c => c.toNat < 0x80 then t else t.map numeralChar
  ((t.dropWhile isAsciiSpace).reverse.dropWhile isAsciiSpace).reverse

/-- `int(t, 16)`. -/
def intBase16 (t : Text) : Option Int :=
  match numeral t with
  | '-' :: t => (hexAfterPrefix t).map fun n => -(n : Int)
  | '+' :: t => (hexAfterPrefix t).map fun n => (n : Int)
  | t => (hexAfterPrefix t).map fun n => (n : Int)

def rawError (message : String) : Exc := .sartorius { cls := .validationError, message }

/-- `_parse_opcode_byte`. -/
def parseOpcodeByte (token : Text) : Except Exc Int :=
  let cleaned := (Text.lower token).removePrefix "0x".toList
  if cleaned = [] then .error (rawError s!"--xbpi: empty opcode token {textRepr (String.ofList token)}")
  else
    match intBase16 cleaned with
    | none => .error (rawError s!"--xbpi: invalid opcode hex {textRepr (String.ofList token)}")
    | some value =>
        if isByte value then .ok value
        else .error (rawError s!"--xbpi: opcode {textRepr (String.ofList token)} must fit in one byte (0x00..0xFF)")

/-- `_parse_arg_tokens`. -/
def parseArgTokens (tokens : List Text) : Except Exc Bytes :=
  let cleaned := tokens.flatMap fun token =>
    ((Text.lower token).removePrefix "0x".toList).filter fun c => c ≠ ':' ∧ c ≠ ','
  if cleaned = [] then .ok []
  else if cleaned.length % 2 ≠ 0 then
    .error (rawError s!"--xbpi: hex argument length must be even, got {cleaned.length} chars")
  else
    match hexBytes cleaned with
    | some b => .ok b
    | none => .error (rawError s!"--xbpi: invalid hex argument {textsRepr (tokens.map String.ofList)}")

/-! ## The command -/

/-- The request of a command line: `--xbpi` with at least one token, or `--sbi`. -/
inductive RawRequest where
  | xbpi (opcode : Text) (args : List Text)
  | sbi (token : Text)
  deriving DecidableEq, Repr

structure RawArgs where
  request : RawRequest
  confirm : Bool := false
  expectLines : Int := 1
  deriving DecidableEq, Repr

/-- `_run_xbpi`, up to what it prints. -/
def runXbpi (T : Transport W) (timeout : Rat) (confirm : Bool) (opcode : Text) (args : List Text) :
    Py (Host W) Unit := do
  let opcode ← liftExc (parseOpcodeByte opcode)
  let args ← liftExc (parseArgTokens args)
  let _ ← executeRawXbpi T opcode args confirm (some timeout)

/-- `_run_sbi`, up to what it prints. -/
def runSbi (T : Transport W) (timeout : Rat) (confirm : Bool) (expectLines : Int) (token : Text) :
    Py (Host W) Unit := do
  let _ ← executeRawSbi T (.text token) confirm (some timeout) expectLines

def runRaw (T : Transport W) (timeout : Rat) (r : RawArgs) : Py (Host W) Unit :=
  match r.request with
  | .xbpi opcode args => runXbpi T timeout r.confirm opcode args
  | .sbi token => runSbi T timeout r.confirm r.expectLines token

/-- A protocol that was asked for must be that of the request. -/
def protocolConflict (a : OpenArgs) (r : RawArgs) : Option Exc :=
  match r.request, a.protocol with
  | .xbpi .., .sbi => some (rawError "--xbpi requires an xBPI session; pass --protocol xbpi or auto.")
  | .sbi .., .xbpi => some (rawError "--sbi requires an SBI session; pass --protocol sbi or auto.")
  | _, _ => none

def rawBody (T : OwnedTransport W) (a : OpenArgs) (r : RawArgs) : Py (Terminal W) Int :=
  match protocolConflict a r with
  | some e => throw e
  | none => do
      onOpening (withBalance T a (runRaw T.toTransport a.timeout r))
      pure 0

def rawMain (T : OwnedTransport W) (a : OpenArgs) (r : RawArgs) : Py (Terminal W) Int := runCli (rawBody T a r)

/-! ## The gate -/

/-- The frame that the tokens of a command line spell, safe-listed or confirmed. -/
def AuthorisedXbpi (confirm : Bool) (opcode : Text) (args : List Text) (data : Bytes) : Prop :=
  ∃ n b, parseOpcodeByte opcode = .ok n ∧ parseArgTokens args = .ok b ∧ requestFrame n b = some data ∧
    (n ∈ Commands.safeReadOnlyOpcodes ∨ confirm = true)

/-- The token that a command line spells, safe-listed or confirmed. -/
def AuthorisedSbi (confirm : Bool) (token : Text) (data : Bytes) : Prop :=
  Sbi.normalizeToken (.text token) = .ok data ∧ (data ∈ Sbi.sbiReadOnlyTokens ∨ confirm = true)

def Authorised (r : RawArgs) : Bytes → Prop :=
  match r.request with
  | .xbpi opcode args => AuthorisedXbpi r.confirm opcode args
  | .sbi token => AuthorisedSbi r.confirm token

/-- At most one request, an authorised one, and exactly one if the work returned. -/
structure OneRequest (authorised : Bytes → Prop) (result : Except Exc α) (sent : List Bytes) : Prop where
  atMostOne : sent.length ≤ 1
  authorised : ∀ data ∈ sent, authorised data
  returned : ∀ a, result = .ok a → sent.length = 1

/-- The account of a body on a new balance that makes one request. -/
def MakesOne (authorised : Bytes → Prop) (body : Py (Host (Traced W)) α) (h : Host (Traced W)) : Prop :=
  ∃ sent, writes (body.exec h).2.world.events = writes h.world.events ++ sent ∧
    (body.exec h).2.session.active = h.session.active ∧ OneRequest authorised (body.exec h).1 sent

section MakesOne

variable {authorised : Bytes → Prop} {body : Py (Host (Traced W)) α} {h : Host (Traced W)}

theorem MakesOne.raised {e : Exc} (hbody : body.exec h = (.error e, h)) : MakesOne authorised body h := by
  rw [MakesOne, hbody]
  exact ⟨[], (List.append_nil _).symm, rfl, Nat.zero_le _, fun _ h => absurd h List.not_mem_nil, fun _ h => by cases h⟩

theorem MakesOne.congr {body' : Py (Host (Traced W)) α} (hbody : body.exec h = body'.exec h)
    (hmakes : MakesOne authorised body' h) : MakesOne authorised body h := by
  rw [MakesOne, hbody]
  exact hmakes

theorem MakesOne.discard (hbody : MakesOne authorised body h) : MakesOne authorised (discard body) h := by
  obtain ⟨sent, hwrites, hactive, hone⟩ := hbody
  rw [MakesOne, exec_discard]
  rcases hrun : body.exec h with ⟨e | a, h'⟩ <;> rw [hrun] at hwrites hactive hone
  · exact ⟨sent, hwrites, hactive, hone.atMostOne, hone.authorised, fun _ h => by cases h⟩
  · exact ⟨sent, hwrites, hactive, hone.atMostOne, hone.authorised, fun _ _ => hone.returned a rfl⟩

end MakesOne

/-- The frames of a request that passed its gate. -/
theorem mem_asked {s : Session} (hsrc : s.srcSbn = 0x01) (hdst : s.dstSbn = 0x09) {confirm : Bool} {opcode : Int}
    {args data : Bytes} (h : data ∈ asked s confirm opcode args) :
    requestFrame opcode args = some data ∧ (opcode ∈ Commands.safeReadOnlyOpcodes ∨ confirm = true) := by
  rw [asked, hsrc, hdst] at h
  split at h
  · rename_i hgate
    exact ⟨Option.mem_toList.mp h, hgate.2⟩
  · cases h

theorem runXbpi_makesOne (T : Transport W) (timeout : Rat) (confirm : Bool) (opcode : Text) (args : List Text)
    {h : Host (Traced W)} (hs : Opened h.session) (hsrc : h.session.srcSbn = 0x01) (hdst : h.session.dstSbn = 0x09) :
    MakesOne (AuthorisedXbpi confirm opcode args) (runXbpi (traced T) timeout confirm opcode args) h := by
  rw [runXbpi]
  cases hopcode : parseOpcodeByte opcode with
  | error e => exact .raised rfl
  | ok n =>
      cases hargs : parseArgTokens args with
      | error e => exact .raised rfl
      | ok b =>
          have hsends := executeRawXbpi_sends T hs n b confirm (some timeout)
          have hone : MakesOne (AuthorisedXbpi confirm opcode args)
              (executeRawXbpi (traced T) n b confirm (some timeout)) h := by
            refine ⟨_, hsends.writes, congrArg Session.active hsends.session, asked_length _ _ _ _, ?_,
              fun frame hok => ?_⟩
            · exact fun data hdata => ⟨n, b, hopcode, hargs, mem_asked hsrc hdst hdata⟩
            · obtain ⟨request, hasked⟩ := executeRawXbpi_asked hok
              rw [hasked]
              rfl
          exact .congr rfl hone.discard

theorem executeRawSbi_makesOne (T : Transport W) (timeout : Rat) (confirm : Bool) (expectLines : Int) (token : Text)
    {h : Host (Traced W)} (hs : Opened h.session) :
    MakesOne (AuthorisedSbi confirm token)
      (executeRawSbi (traced T) (.text token) confirm (some timeout) expectLines) h := by
  have hstate : h.session.checkState = .ok () := by rw [Session.checkState, if_neg (by simp [hs.operational])]
  rw [MakesOne, executeRawSbi, exec_bind_ok (exec_get h)]
  dsimp only
  rw [hstate, exec_bind_ok (exec_liftExcept_ok _ _)]
  by_cases hactive : h.session.active = .sbi
  · rw [if_neg (not_not.mpr hactive)]
    cases h.session.sbi with
    | none => exact MakesOne.raised rfl
    | some client =>
        cases htoken : Sbi.normalizeToken (.text token) with
        | error e => exact MakesOne.raised rfl
        | ok data =>
            dsimp only
            have hbind : ∀ f : Bytes → Py (Host (Traced W)) Sbi.SbiReply, (liftExc (.ok data) >>= f) = f data :=
              fun _ => rfl
            rw [hbind]
            by_cases hgate : data ∉ Sbi.sbiReadOnlyTokens ∧ ¬ confirm = true
            · rw [if_pos hgate]
              exact MakesOne.raised rfl
            · rw [if_neg hgate]
              obtain ⟨sent, hwrites, hkept, hbegins, hreturned⟩ := sbiExchange_line T client data
                ((some timeout).getD h.session.defaultTimeout) "raw_sbi" data expectLines h
              refine ⟨sent, hwrites, hkept, hbegins.length_le, fun x hx => ?_, fun reply hok => ?_⟩
              · obtain rfl := List.mem_singleton.mp (hbegins.subset hx)
                exact ⟨htoken, by tauto⟩
              · rw [hreturned reply hok]
                rfl
  · rw [if_pos hactive]
    exact MakesOne.raised rfl

/-- The raw command sends at most one request behind the probes of its opening: the one its tokens spell, and without a
confirmation only what is on a safe-list; the exit code 0 means that it was sent. -/
theorem raw_oneRequest (T : OwnedTransport W) (a : OpenArgs) (r : RawArgs) (t : Terminal (Traced W)) :
    ∃ probed sent, writes (lineOf ((rawMain (tracedPort T) a r).exec t).2.opening) =
        writes (lineOf t.opening) ++ (probed ++ sent) ∧
      probed <+: probesOf a.request ∧ sent.length ≤ 1 ∧ (∀ data ∈ sent, Authorised r data) ∧
      (((rawMain (tracedPort T) a r).exec t).1 = .ok 0 → sent.length = 1) := by
  have hwork : ∀ h, Opened h.session → h.session.srcSbn = 0x01 → h.session.dstSbn = 0x09 →
      MakesOne (Authorised r) (runRaw (tracedPort T).toTransport a.timeout r) h := by
    intro h hs hsrc hdst
    unfold runRaw Authorised
    cases r.request with
    | xbpi opcode args => exact runXbpi_makesOne T.toTransport a.timeout r.confirm opcode args hs hsrc hdst
    | sbi token =>
        exact .congr rfl (executeRawSbi_makesOne T.toTransport a.timeout r.confirm r.expectLines token hs).discard
  obtain ⟨probed, sent, hline, hprobed, hsent⟩ :=
    withBalance_ran (P := fun _ => OneRequest (Authorised r)) T a hwork t.opening
  have hsome : sent.length ≤ 1 ∧ ∀ data ∈ sent, Authorised r data := by
    rcases hsent with ⟨rfl, -⟩ | ⟨result, hone, -⟩
    · exact ⟨Nat.zero_le _, fun _ h => absurd h List.not_mem_nil⟩
    · exact ⟨hone.atMostOne, hone.authorised⟩
  obtain ⟨hopening, -, -, hcode⟩ := runCli_body (rawBody (tracedPort T) a r) t
  rw [rawMain, hopening]
  unfold rawBody at hcode ⊢
  cases hconflict : protocolConflict a r with
  | some e =>
      rw [hconflict] at hcode
      exact ⟨[], [], (List.append_nil _).symm, List.nil_prefix, Nat.zero_le _, fun _ h => absurd h List.not_mem_nil,
        fun h => absurd (hcode h) (by simp)⟩
  | none =>
      rw [hconflict] at hcode
      dsimp only at hcode ⊢
      have hexec : (onOpening (withBalance (tracedPort T) a (runRaw (tracedPort T).toTransport a.timeout r))).exec t =
        (((withBalance (tracedPort T) a (runRaw (tracedPort T).toTransport a.timeout r)).exec t.opening).1,
          { t with opening := ((withBalance (tracedPort T) a (runRaw (tracedPort T).toTransport a.timeout r)).exec
            t.opening).2 }) := rfl
      rcases hrun : (withBalance (tracedPort T) a (runRaw (tracedPort T).toTransport a.timeout r)).exec t.opening
        with ⟨e | u, o⟩ <;> rw [hrun] at hexec hline hsent
      · rw [exec_bind_error hexec] at hcode ⊢
        exact ⟨probed, sent, hline, hprobed, hsome.1, hsome.2, fun h => absurd (hcode h) (by simp)⟩
      · rw [exec_bind_ok hexec] at hcode ⊢
        refine ⟨probed, sent, hline, hprobed, hsome.1, hsome.2, fun _ => ?_⟩
        rcases hsent with ⟨-, e, he⟩ | ⟨result, hone, hok⟩
        · cases he
        · exact hone.returned u (hok u rfl)

end SartoriusLib.Cli
