import SartoriusLib.Transport.Reads

/-!
# The fake transport

`FakeTransport` stands in for the serial one in tests. Both are compared with one abstract account of a call:
what it returns or raises on the bytes that are there, and which bytes it keeps.
-/

namespace SartoriusLib

open Lib

/-- A read, or the discard of the input. -/
inductive InputCall where
  | read (c : ReadCall)
  | drainInput
  deriving DecidableEq, Repr

/-- The part of a fake transport that its input operations use. -/
structure FakeState where
  label : String := "fake://test"
  isOpen : Bool := false
  readBuffer : Bytes := []
  forceReadTimeout : Bool := false
  deriving DecidableEq, Repr

namespace FakeTransport

def ensureOpen : Py FakeState Unit := do
  let f ← get
  if f.isOpen then pure ()
  else raise .connectionError s!"{f.label} is not open" { port := some f.label }

/-- Where the slice `buffer[:k]` ends. -/
def sliceEnd (k : Int) (length : Nat) : Nat := if k < 0 then length - k.natAbs else min k.toNat length

/-- The first `n` bytes, taken out of the buffer. -/
def takeOut (n : Nat) : Py FakeState Bytes :=
  Prog.ofFun fun f => (.ok (f.readBuffer.take n), { f with readBuffer := f.readBuffer.drop n })

def timeoutError (f : FakeState) (message : String) : Exc :=
  .sartorius ⟨.timeoutError, message, { port := some f.label, extra := [("phase", .text "read")] }⟩

def readExact (n : Int) (timeout : Rat) : Py FakeState Bytes := do
  ensureOpen
  let f ← get
  if f.forceReadTimeout then
    throw (timeoutError f s!"read_exact({n}) on {f.label} timed out after {reprSeconds timeout}s (forced)")
  else if (f.readBuffer.length : Int) < n then
    throw (timeoutError f s!"read_exact({n}) on {f.label} timed out after {reprSeconds timeout}s")
  else takeOut (sliceEnd n f.readBuffer.length)

def readUntil (separator : Bytes) (timeout : Rat) : Py FakeState Bytes := do
  ensureOpen
  let f ← get
  if f.forceReadTimeout then
    throw (timeoutError f s!"read_until on {f.label} timed out after {reprSeconds timeout}s (forced)")
  else
    match Bytes.find separator f.readBuffer with
    | none =>
        throw (timeoutError f
          s!"read_until({bytesRepr separator}) on {f.label} timed out after {reprSeconds timeout}s")
    | some idx => takeOut (idx + separator.length)

def readAvailable (_idleTimeout : Rat) (maxBytes : Option Int) : Py FakeState Bytes := do
  ensureOpen
  let f ← get
  match maxBytes with
  | none => takeOut f.readBuffer.length
  | some m =>
      if (f.readBuffer.length : Int) ≤ m then takeOut f.readBuffer.length
      else takeOut (sliceEnd m f.readBuffer.length)

def drainInput : Py FakeState Unit := modify fun f => { f with readBuffer := [] }

/-- A discard returns nothing. -/
def perform : InputCall → Py FakeState Bytes
  | .read (.exact n timeout) => readExact n timeout
  | .read (.until separator timeout) => readUntil separator timeout
  | .read (.available idleTimeout maxBytes) => readAvailable idleTimeout maxBytes
  | .drainInput => do
      drainInput
      pure []

end FakeTransport

namespace SerialTransport

def performInput : InputCall → Py SerialState Bytes
  | .read c => perform c
  | .drainInput => do
      drainInput
      pure []

end SerialTransport

/-! ## What a call comes to -/

/-- The bytes that a call returns, or the class that it raises, and the bytes that it keeps. -/
abbrev Effect : Type := Except (Option ErrorClass) Bytes × Bytes

/-- `data` is split after `n` bytes. -/
def Effect.split (data : Bytes) (n : Nat) : Effect := (.ok (data.take n), data.drop n)

def Effect.raises (data : Bytes) (cls : ErrorClass) : Effect := (.error (some cls), data)

def untilEffect (separator data : Bytes) : Effect :=
  match Bytes.find separator data with
  | none => .raises data .timeoutError
  | some i => .split data (i + separator.length)

def serialEffect : InputCall → Bytes → Effect
  | .read (.exact n _), data =>
      if n ≤ 0 then .split data 0
      else if n ≤ data.length then .split data n.toNat
      else .raises data (if data = [] then .transientTransportError else .timeoutError)
  | .read (.until separator _), data => untilEffect separator data
  | .read (.available _ maxBytes), data => .split data (((maxBytes.filter (0 < ·)).map Int.toNat).getD data.length)
  | .drainInput, _ => (.ok [], [])

def fakeEffect : InputCall → Bytes → Effect
  | .read (.exact n _), data =>
      if (data.length : Int) < n then .raises data .timeoutError
      else .split data (FakeTransport.sliceEnd n data.length)
  | .read (.until separator _), data => untilEffect separator data
  | .read (.available _ maxBytes), data =>
      match maxBytes with
      | none => .split data data.length
      | some m =>
          if (data.length : Int) ≤ m then .split data data.length
          else .split data (FakeTransport.sliceEnd m data.length)
  | .drainInput, _ => (.ok [], [])

/-- The bytes or the class of the exception. -/
def classified (result : Except Exc Bytes) : Except (Option ErrorClass) Bytes := result.mapError Exc.cls?

/-! ## Where the two agree -/

/-- The calls on which the two transports do the same: not a read of one or more bytes where there are none, not
a read of a negative number of bytes where there are more than that, and not a limit below one where there are
any. -/
def Alike : InputCall → Bytes → Prop
  | .read (.exact n _), data => (0 < n → data ≠ []) ∧ (n < 0 → data.length ≤ n.natAbs)
  | .read (.until _ _), _ => True
  | .read (.available _ maxBytes), data => ∀ m, maxBytes = some m → m ≤ 0 → data = []
  | .drainInput, _ => True

theorem Effect.split_inj {data : Bytes} {m n : Nat} (hm : m ≤ data.length) (hn : n ≤ data.length) :
    Effect.split data m = Effect.split data n ↔ m = n := by
  constructor
  · intro h
    have hlength := congrArg List.length (Prod.mk.inj h).2
    rw [List.length_drop, List.length_drop] at hlength
    omega
  · rintro rfl
    rfl

theorem Effect.split_of_length_le {data : Bytes} {m : Nat} (hm : data.length ≤ m) :
    Effect.split data m = Effect.split data data.length := by
  rw [Effect.split, Effect.split, List.take_of_length_le hm, List.drop_eq_nil_of_le hm, List.take_length,
    List.drop_length]

theorem exactEffect_eq_iff (n : Int) (timeout : Rat) (data : Bytes) :
    serialEffect (.read (.exact n timeout)) data = fakeEffect (.read (.exact n timeout)) data ↔
      Alike (.read (.exact n timeout)) data := by
  simp only [serialEffect, fakeEffect, Alike, FakeTransport.sliceEnd]
  by_cases hneg : n < 0
  · rw [if_pos (by omega), if_neg (by omega), if_pos hneg, Effect.split_inj (by omega) (by omega)]
    omega
  by_cases hzero : n = 0
  · subst hzero
    simp
  by_cases hfits : n ≤ data.length
  · have hdata : data ≠ [] := by
      rintro rfl
      simp only [List.length_nil] at hfits
      omega
    rw [if_neg (by omega), if_pos hfits, if_neg (by omega), if_neg hneg, Nat.min_eq_left (by omega)]
    simp [hdata, hneg]
  · have hpos : ¬ n ≤ 0 := by omega
    have hshort : (data.length : Int) < n := by omega
    rw [if_neg hpos, if_neg hfits, if_pos hshort]
    by_cases hdata : data = []
    · simp only [hdata, Effect.raises, if_true]
      exact iff_of_false (by simp) fun h => h.1 (by omega) rfl
    · rw [if_neg hdata]
      exact iff_of_true rfl ⟨fun _ => hdata, fun h => absurd h hneg⟩

theorem availableEffect_eq_iff (idleTimeout : Rat) (maxBytes : Option Int) (data : Bytes) :
    serialEffect (.read (.available idleTimeout maxBytes)) data =
        fakeEffect (.read (.available idleTimeout maxBytes)) data ↔
      Alike (.read (.available idleTimeout maxBytes)) data := by
  cases maxBytes with
  | none => simp [serialEffect, fakeEffect, Alike]
  | some m =>
      simp only [serialEffect, fakeEffect, Alike, FakeTransport.sliceEnd, Option.some.injEq, forall_eq']
      by_cases hpos : 0 < m
      · simp only [Option.filter, decide_eq_true hpos, if_true, Option.map_some, Option.getD_some]
        by_cases hall : (data.length : Int) ≤ m
        · rw [if_pos hall, Effect.split_of_length_le (by omega)]
          exact iff_of_true rfl fun h => absurd h (by omega)
        · rw [if_neg hall, if_neg (by omega), Nat.min_eq_left (by omega)]
          exact iff_of_true rfl fun h => absurd h (by omega)
      · simp only [Option.filter, decide_eq_false hpos, Bool.false_eq_true, if_false, Option.map_none,
          Option.getD_none]
        by_cases hall : (data.length : Int) ≤ m
        · rw [if_pos hall]
          exact iff_of_true rfl fun _ => List.eq_nil_of_length_eq_zero (by omega)
        · have hempty : data = [] ↔ data.length = 0 := List.length_eq_zero_iff.symm
          rw [if_neg hall, hempty]
          by_cases hneg : m < 0
          · rw [if_pos hneg, Effect.split_inj le_rfl (by omega)]
            omega
          · rw [if_neg hneg, Effect.split_inj le_rfl (by omega)]
            omega

theorem effect_eq_iff (c : InputCall) (data : Bytes) : serialEffect c data = fakeEffect c data ↔ Alike c data := by
  cases c with
  | drainInput => exact iff_of_true rfl trivial
  | read c =>
      cases c with
      | exact n timeout => exact exactEffect_eq_iff n timeout data
      | «until» separator timeout => exact iff_of_true rfl trivial
      | available idleTimeout maxBytes => exact availableEffect_eq_iff idleTimeout maxBytes data

/-! ## The fake transport has its effect -/

namespace FakeTransport

/-- An open fake transport whose timeouts are not forced. -/
structure Ready (f : FakeState) : Prop where
  isOpen : f.isOpen = true
  unforced : f.forceReadTimeout = false

variable {f : FakeState}

theorem exec_ensureOpen (h : f.isOpen = true) : ensureOpen.exec f = (.ok (), f) := by
  rw [ensureOpen, Prog.exec_bind_ok (Prog.exec_get f), if_pos h, Prog.exec_pure]

theorem perform_effect (hf : Ready f) (c : InputCall) :
    classified ((perform c).exec f).1 = (fakeEffect c f.readBuffer).1 ∧
      ((perform c).exec f).2 = { f with readBuffer := (fakeEffect c f.readBuffer).2 } := by
  have hget : ∀ {α : Type} (k : FakeState → Py FakeState α),
      (do ensureOpen; let f ← get; k f).exec f = (k f).exec f := by
    intro α k
    rw [Prog.exec_bind_ok (exec_ensureOpen hf.isOpen), Prog.exec_bind_ok (Prog.exec_get f)]
  cases c with
  | drainInput => exact ⟨rfl, rfl⟩
  | read c =>
      cases c with
      | exact n timeout =>
          rw [perform, readExact, hget, if_neg (by simp [hf.unforced]), fakeEffect]
          split
          · exact ⟨rfl, rfl⟩
          · exact ⟨rfl, rfl⟩
      | «until» separator timeout =>
          rw [perform, readUntil, hget, if_neg (by simp [hf.unforced]), fakeEffect, untilEffect]
          split
          · exact ⟨rfl, rfl⟩
          · exact ⟨rfl, rfl⟩
      | available idleTimeout maxBytes =>
          rw [perform, readAvailable, hget]
          cases maxBytes with
          | none => exact ⟨rfl, rfl⟩
          | some m =>
              simp only [fakeEffect]
              split
              · exact ⟨rfl, rfl⟩
              · exact ⟨rfl, rfl⟩

end FakeTransport

/-! ## The serial transport has its effect -/

namespace SerialTransport

/-- An open port whose input has all been received by the system. -/
structure Still (s : SerialState) : Prop where
  isOpen : s.isOpen = true
  chunks : ∀ e ∈ phase s, ∃ b, e = .chunk b
  silent : ∀ p ∈ s.line.tail, p = []

variable {s s' : SerialState}

theorem Still.quiet (h : Still s) : Quiet (phase s) := fun e he => .inr (h.chunks e he)

theorem arrived_of_chunks {phase : List Rx} (h : ∀ e ∈ phase, ∃ b, e = .chunk b) : arrived phase = delivered phase := by
  induction phase with
  | nil => rfl
  | cons e phase ih =>
      obtain ⟨b, rfl⟩ := h e List.mem_cons_self
      have hrest := ih fun e' he' => h e' (List.mem_cons_of_mem _ he')
      simpa [arrived, delivered] using hrest

/-- What a read leaves is what there was without what it returned. -/
theorem Still.conserved (h : Still s) {out : Bytes} {events : List Rx} (hc : Conserved out events s s')
    (hr : Received s s') : Still s' ∧ out ++ pending s' = pending s := by
  have hline := hc.line
  have hchunks : ∀ e ∈ phase s', ∃ b, e = .chunk b := by
    intro e he
    exact h.chunks e (hline ▸ List.mem_append_right _ he)
  refine ⟨⟨hr.isOpen.trans h.isOpen, hchunks, by rw [hr.later]; exact h.silent⟩, ?_⟩
  rw [pending, pending, arrived_of_chunks h.chunks, arrived_of_chunks hchunks, hline, ← List.append_assoc, hc.bytes,
    List.append_assoc]
  simp [delivered]

/-- A read that returned the front of what there was leaves the rest. -/
theorem Still.after_return (h : Still s) {c : ReadCall} {n : Nat} (hr : Received s s')
    (hrun : (perform c).exec s = (.ok ((pending s).take n), s')) : Still s' ∧ pending s' = (pending s).drop n := by
  obtain ⟨events, hc, -⟩ := perform_conserved hrun trivial
  obtain ⟨hstill, hbytes⟩ := h.conserved hc hr
  have hwhole : (pending s).take n ++ pending s' = (pending s).take n ++ (pending s).drop n := by
    rw [List.take_append_drop]
    exact hbytes
  exact ⟨hstill, List.append_cancel_left hwhole⟩

/-- A read that timed out leaves what there was. -/
theorem Still.after_timeout (h : Still s) {c : ReadCall} {e : Exc} (hr : Received s s')
    (hrun : (perform c).exec s = (.error e, s')) (he : Settled (.error e)) : Still s' ∧ pending s' = pending s := by
  obtain ⟨events, hc, -⟩ := perform_conserved hrun he
  exact h.conserved hc hr

theorem readExactTimeout_cls (n : Nat) (timeout : Rat) (buf : Bytes) :
    (readExactTimeout n timeout s buf).cls? =
      some (if buf = [] then .transientTransportError else .timeoutError) := by
  unfold readExactTimeout
  by_cases hbuf : buf = []
  · simp [hbuf, Exc.cls?]
  · simp [hbuf, Exc.cls?]

theorem settled_of_cls {e : Exc} (h : e.cls? = some .transientTransportError ∨ e.cls? = some .timeoutError) :
    Settled (.error e) := by
  cases e with
  | sartorius err =>
      simp only [Exc.cls?, Option.some.injEq] at h
      rcases h with h | h <;> simp only [Settled, Exc.isinstance_sartorius, h]
      · exact .inr rfl
      · exact .inl rfl
  | _ => simp [Exc.cls?] at h

/-- What a call of `performInput` does to an input that is still. -/
def HasEffect (c : InputCall) (s : SerialState) : Prop :=
  classified ((performInput c).exec s).1 = (serialEffect c (pending s)).1 ∧
    pending ((performInput c).exec s).2 = (serialEffect c (pending s)).2 ∧ Still ((performInput c).exec s).2

theorem HasEffect.of_return {c : ReadCall} {n : Nat} (h : Still s) (hr : Received s s')
    (hrun : (perform c).exec s = (.ok ((pending s).take n), s'))
    (heffect : serialEffect (.read c) (pending s) = .split (pending s) n) : HasEffect (.read c) s := by
  obtain ⟨hstill, hpending⟩ := h.after_return hr hrun
  rw [HasEffect, heffect, performInput, hrun]
  exact ⟨rfl, hpending, hstill⟩

theorem HasEffect.of_timeout {c : ReadCall} {e : Exc} {cls : ErrorClass} (h : Still s) (hr : Received s s')
    (hrun : (perform c).exec s = (.error e, s')) (he : e.cls? = some cls)
    (hcls : cls = .transientTransportError ∨ cls = .timeoutError)
    (heffect : serialEffect (.read c) (pending s) = .raises (pending s) cls) : HasEffect (.read c) s := by
  have hsettled : Settled (.error e) := settled_of_cls (by rw [he]; simpa using hcls)
  obtain ⟨hstill, hpending⟩ := h.after_timeout hr hrun hsettled
  rw [HasEffect, heffect, performInput, hrun]
  exact ⟨by simp [classified, Except.mapError, he, Effect.raises], hpending, hstill⟩

theorem exact_hasEffect (h : Still s) (n : Int) (timeout : Rat) : HasEffect (.read (.exact n timeout)) s := by
  by_cases hn : n ≤ 0
  · refine .of_return (n := 0) h (.refl h.quiet) ?_ (by rw [serialEffect, if_pos hn])
    rw [perform, readExactInt, if_pos hn, Prog.exec_bind_ok (exec_requirePort h.isOpen), List.take_zero, Prog.exec_pure]
  · obtain ⟨s', hr, hok, herr⟩ := readExact_quiet n.toNat timeout h.isOpen h.quiet
    have hperform : perform (.exact n timeout) = readExact n.toNat timeout := by
      rw [perform, readExactInt, if_neg hn]
    by_cases hfits : n ≤ (pending s).length
    · refine .of_return h hr (by rw [hperform]; exact (hok (by omega)).1) ?_
      rw [serialEffect, if_neg hn, if_pos hfits]
    · refine .of_timeout h hr (by rw [hperform]; exact herr (by omega)) (readExactTimeout_cls _ _ _) ?_ ?_
      · split
        · exact .inl rfl
        · exact .inr rfl
      · rw [serialEffect, if_neg hn, if_neg hfits]

theorem until_hasEffect (h : Still s) (separator : Bytes) (timeout : Rat) :
    HasEffect (.read (.until separator timeout)) s := by
  obtain ⟨s', hr, hok, herr⟩ := readUntil_quiet separator timeout h.isOpen h.quiet
  cases hfind : Bytes.find separator (pending s) with
  | none =>
      refine .of_timeout h hr (herr hfind) rfl (.inr rfl) ?_
      rw [serialEffect, untilEffect, hfind]
  | some i =>
      refine .of_return h hr (hok i hfind).1 ?_
      rw [serialEffect, untilEffect, hfind]

/-- On a quiet line `readAvailable` returns what is pending, up to its limit. -/
theorem readAvailable_quiet (idleTimeout : Rat) (maxBytes : Option Int) (hopen : s.isOpen = true)
    (hq : Quiet (phase s)) :
    ∃ s', Received s s' ∧ (readAvailable idleTimeout maxBytes).exec s =
      (.ok ((pending s).take (((maxBytes.filter (0 < ·)).map Int.toNat).getD (pending s).length)), s') := by
  generalize hcap : (maxBytes.filter (0 < ·)).map Int.toNat = cap
  obtain ⟨stop, got, rest, hloop, hrest, hend⟩ :=
    receiveLoop_quiet (fun buf => cap.any (· ≤ buf.length)) s.pushback hq
  rw [readAvailable, Prog.exec_bind_ok (exec_requirePort hopen), Prog.exec_ofFun]
  simp only [hcap, hloop]
  have hexact : ∀ (t : SerialState) (out : Bytes), t.settings = s.settings ∧ t.isOpen = s.isOpen ∧
      t.line = rest :: s.line.tail ∧ t.sends = s.sends ∧ t.sent = s.sent →
      out = (pending s).take (cap.getD (pending s).length) →
      ∃ s', Received s s' ∧ ((.ok out, t) : Except Exc Bytes × SerialState) =
        (.ok ((pending s).take (cap.getD (pending s).length)), s') := by
    rintro t out ⟨hsettings, hisOpen, hline, hsends, hsent⟩ rfl
    refine ⟨t, ⟨hsettings, hisOpen, by rw [hline]; rfl, hsends, hsent, ?_⟩, rfl⟩
    rw [phase, hline]
    exact hrest
  rcases hend with ⟨rfl, he, ha⟩ | ⟨rfl, he, ha⟩
  · -- the limit was reached
    cases cap with
    | none => cases he
    | some n =>
        have hle : n ≤ (s.pushback ++ got).length := by simpa using he
        have htake : (pending s).take n = (s.pushback ++ got).take n := by
          rw [pending, ha, ← List.append_assoc, List.take_append_of_le_length hle]
        dsimp only
        split_ifs with hlt
        · exact hexact _ _ ⟨rfl, rfl, rfl, rfl, rfl⟩ htake.symm
        · refine hexact _ _ ⟨rfl, rfl, rfl, rfl, rfl⟩ ?_
          rw [Option.getD_some, htake, List.take_of_length_le (by omega)]
  · -- the line went quiet
    have hpending : pending s = s.pushback ++ got := by rw [pending, ha]
    cases cap with
    | none =>
        refine hexact _ _ ⟨rfl, rfl, rfl, rfl, rfl⟩ ?_
        rw [Option.getD_none, List.take_length, hpending]
    | some n =>
        have hlt : (s.pushback ++ got).length < n := by simpa using he
        dsimp only
        rw [if_neg (by omega)]
        refine hexact _ _ ⟨rfl, rfl, rfl, rfl, rfl⟩ ?_
        rw [Option.getD_some, hpending, List.take_of_length_le (by omega)]

theorem drainInput_hasEffect (h : Still s) : HasEffect .drainInput s := by
  have hrun : (performInput .drainInput).exec s = (.ok [], { s with pushback := [], line := s.line.tail }) := by
    have hdrain : drainInput.exec s = (.ok (), { s with pushback := [], line := s.line.tail }) := by
      simp [drainInput, h.isOpen]
    rw [performInput, Prog.exec_bind_ok hdrain, Prog.exec_pure]
  have hphase : s.line.tail.headD [] = [] := by
    cases hline : s.line.tail with
    | nil => rfl
    | cons p rest => exact h.silent p (hline ▸ List.mem_cons_self)
  rw [HasEffect, hrun]
  refine ⟨rfl, ?_, h.isOpen, ?_, ?_⟩
  · rw [pending, phase, hphase]
    rfl
  · intro e he
    rw [phase, hphase] at he
    cases he
  · exact fun p hp => h.silent p (List.mem_of_mem_tail hp)

theorem performInput_hasEffect (h : Still s) (c : InputCall) : HasEffect c s := by
  cases c with
  | drainInput => exact drainInput_hasEffect h
  | read c =>
      cases c with
      | exact n timeout => exact exact_hasEffect h n timeout
      | «until» separator timeout => exact until_hasEffect h separator timeout
      | available idleTimeout maxBytes =>
          obtain ⟨s', hr, hrun⟩ := readAvailable_quiet idleTimeout maxBytes h.isOpen h.quiet
          exact .of_return h hr hrun rfl

end SerialTransport

/-! ## Both transports side by side -/

open SerialTransport FakeTransport

/-- The call does the same on both transports: the same bytes or the same class of exception, and the same
bytes kept. -/
def SameCall (c : InputCall) (f : FakeState) (s : SerialState) : Prop :=
  classified ((FakeTransport.perform c).exec f).1 = classified ((performInput c).exec s).1 ∧
    ((FakeTransport.perform c).exec f).2.readBuffer = pending ((performInput c).exec s).2

/-- Every call of a sequence does the same on both transports. -/
def SameCalls : List InputCall → FakeState → SerialState → Prop
  | [], _, _ => True
  | c :: calls, f, s =>
      SameCall c f s ∧ SameCalls calls ((FakeTransport.perform c).exec f).2 ((performInput c).exec s).2

/-- Every call of a sequence is one on which the transports agree, with the bytes that are there before it. -/
def AllAlike : List InputCall → FakeState → Prop
  | [], _ => True
  | c :: calls, f => Alike c f.readBuffer ∧ AllAlike calls ((FakeTransport.perform c).exec f).2

/-- Two open transports with the same bytes, all of them received. -/
structure Matched (f : FakeState) (s : SerialState) : Prop where
  fake : Ready f
  serial : Still s
  bytes : f.readBuffer = pending s

variable {f : FakeState} {s : SerialState}

theorem sameCall_iff (h : Matched f s) (c : InputCall) : SameCall c f s ↔ Alike c f.readBuffer := by
  obtain ⟨hfake, hfakeKept⟩ := perform_effect h.fake c
  obtain ⟨hserial, hserialKept, -⟩ := performInput_hasEffect h.serial c
  rw [SameCall, hfake, hserial, hfakeKept, hserialKept, ← h.bytes, ← effect_eq_iff, Prod.ext_iff]
  exact and_congr eq_comm eq_comm

theorem SameCall.matched {c : InputCall} (h : Matched f s) (hsame : SameCall c f s) :
    Matched ((FakeTransport.perform c).exec f).2 ((performInput c).exec s).2 := by
  obtain ⟨-, -, hstill⟩ := performInput_hasEffect h.serial c
  refine ⟨?_, hstill, hsame.2⟩
  rw [(perform_effect h.fake c).2]
  exact ⟨h.fake.isOpen, h.fake.unforced⟩

/-- A sequence of calls does the same on both transports exactly when each of its calls is one on which they
agree. -/
theorem sameCalls_iff (calls : List InputCall) (h : Matched f s) : SameCalls calls f s ↔ AllAlike calls f := by
  induction calls generalizing f s with
  | nil => exact Iff.rfl
  | cons c calls ih =>
      constructor
      · rintro ⟨hsame, hrest⟩
        exact ⟨(sameCall_iff h c).mp hsame, (ih (hsame.matched h)).mp hrest⟩
      · rintro ⟨halike, hrest⟩
        have hsame := (sameCall_iff h c).mpr halike
        exact ⟨hsame, (ih (hsame.matched h)).mpr hrest⟩

/-- Two open transports with the bytes `data`. -/
def fakeWith (data : Bytes) : FakeState := { isOpen := true, readBuffer := data }

def portWith (data : Bytes) : SerialState := { settings := { port := "COM3" }, line := [[.chunk data]] }

theorem matched_with (data : Bytes) : Matched (fakeWith data) (portWith data) := by
  refine ⟨⟨rfl, rfl⟩, ⟨rfl, ?_, ?_⟩, by simp [fakeWith, portWith, pending, phase, arrived]⟩
  · intro e he
    exact ⟨data, List.mem_singleton.mp he⟩
  · intro p hp
    cases hp

theorem sameCalls_iff_reply :
    SameCalls [.read (.exact 1 1), .read (.exact 4 1), .drainInput] (fakeWith [0x04, 0x41]) (portWith [0x04, 0x41]) ↔
      AllAlike [.read (.exact 1 1), .read (.exact 4 1), .drainInput] (fakeWith [0x04, 0x41]) :=
  sameCalls_iff _ (matched_with [0x04, 0x41])

/-- Where nothing has arrived the fake transport times out and the serial one raises its transient; a limit of
no bytes is no limit to the serial one. -/
theorem silence_differs :
    (Matched (fakeWith []) (portWith []) ∧ ¬ SameCalls [.read (.exact 1 1)] (fakeWith []) (portWith [])) ∧
    (Matched (fakeWith [0x31]) (portWith [0x31]) ∧
      ¬ SameCalls [.read (.available 1 (some 0))] (fakeWith [0x31]) (portWith [0x31])) := by
  refine ⟨⟨matched_with [], ?_⟩, ⟨matched_with [0x31], ?_⟩⟩
  · rintro ⟨⟨h, -⟩, -⟩
    revert h
    decide +kernel
  · rintro ⟨⟨h, -⟩, -⟩
    revert h
    decide +kernel

end SartoriusLib
