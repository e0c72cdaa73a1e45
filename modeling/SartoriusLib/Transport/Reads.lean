import SartoriusLib.Transport.Serial

/-!
# What the reads take from the line

The three reads share one pushback buffer. Whatever the calls ask for, and however the port cuts the bytes into
chunks, nothing is lost, repeated or put in another order between the calls.
-/

namespace SartoriusLib

open Lib

/-- A read of a transport; a size may be any integer. -/
inductive ReadCall where
  | exact (n : Int) (timeout : Rat)
  | until (separator : Bytes) (timeout : Rat)
  | available (idleTimeout : Rat) (maxBytes : Option Int)
  deriving DecidableEq, Repr

/-! ## The first occurrence of a separator -/

theorem Bytes.find_eq_some {sep b : Bytes} {i : Nat} (h : Bytes.find sep b = some i) :
    b.take i ++ sep <+: b ∧ (b.take i).length = i ∧ ∀ q, q ++ sep <+: b → i ≤ q.length := by
  induction b generalizing i with
  | nil =>
      unfold Bytes.find at h
      split_ifs at h with hsep
      cases h
      exact ⟨by simp [hsep], rfl, fun q _ => Nat.zero_le _⟩
  | cons x b ih =>
      unfold Bytes.find at h
      split_ifs at h with hp
      · cases h
        exact ⟨List.isPrefixOf_iff_prefix.mp hp, rfl, fun q _ => Nat.zero_le _⟩
      · obtain ⟨j, hj, rfl⟩ := Option.map_eq_some_iff.mp h
        obtain ⟨hpre, hlength, hfirst⟩ := ih hj
        refine ⟨?_, by simp [hlength], ?_⟩
        · rw [List.take_succ_cons, List.cons_append, List.cons_prefix_cons]
          exact ⟨rfl, hpre⟩
        · intro q hq
          cases q with
          | nil => exact absurd (List.isPrefixOf_iff_prefix.mpr hq) hp
          | cons y q =>
              rw [List.cons_append, List.cons_prefix_cons] at hq
              exact Nat.succ_le_succ (hfirst q hq.2)

/-- What ends in the separator, and no shorter beginning of it does. -/
def EndsFirst (sep out : Bytes) : Prop := sep <:+ out ∧ ∀ p, p <+: out → sep <:+ p → p = out

/-- The bytes up to the first occurrence of the separator and including it. -/
theorem Bytes.take_find {sep b : Bytes} {i : Nat} (h : Bytes.find sep b = some i) :
    EndsFirst sep (b.take (i + sep.length)) := by
  obtain ⟨hpre, hlength, hfirst⟩ := Bytes.find_eq_some h
  have htake : b.take (i + sep.length) = b.take i ++ sep := by
    obtain ⟨post, hpost⟩ := hpre
    conv_lhs => rw [← hpost]
    rw [List.take_append_of_le_length (by simp [hlength])]
    exact List.take_of_length_le (by simp [hlength])
  rw [htake]
  refine ⟨List.suffix_append _ _, ?_⟩
  rintro p hp ⟨q, rfl⟩
  have hle := hfirst q (hp.trans hpre)
  exact hp.eq_of_length_le (by simp [hlength, hle])

namespace SerialTransport

/-- `n <= 0` asks for nothing. -/
def readExactInt (n : Int) (timeout : Rat) : Py SerialState Bytes :=
  if n ≤ 0 then do
    requirePort
    pure []
  else readExact n.toNat timeout

def perform : ReadCall → Py SerialState Bytes
  | .exact n timeout => readExactInt n timeout
  | .until separator timeout => readUntil separator timeout
  | .available idleTimeout maxBytes => readAvailable idleTimeout maxBytes

/-- The calls one after the other; a call that raises does not end the run. -/
def runReads : List ReadCall → SerialState → List (Except Exc Bytes) × SerialState
  | [], s => ([], s)
  | c :: calls, s =>
      let (result, s) := (perform c).exec s
      let (results, s) := runReads calls s
      (result :: results, s)

/-! ## One call -/

/-- The bytes of the chunks. -/
def delivered (events : List Rx) : Bytes :=
  events.flatMap fun e => match e with
    | .chunk b => b
    | _ => []

/-- A receive loop appends the chunks that it took off the line. -/
theorem receiveLoop_delivered (enough : Bytes → Bool) (buf : Bytes) (phase : List Rx) :
    ∃ stop events rest, receiveLoop enough buf phase = (stop, buf ++ delivered events, rest) ∧
      phase = events ++ rest ∧ (stop = .complete → enough (buf ++ delivered events) = true) := by
  induction phase generalizing buf with
  | nil =>
      unfold receiveLoop
      split
      · exact ⟨.complete, [], [], by simp [delivered], rfl, fun _ => by simpa [delivered]⟩
      · exact ⟨.expired, [], [], by simp [delivered], rfl, fun h => by cases h⟩
  | cons e phase ih =>
      unfold receiveLoop
      split
      · exact ⟨.complete, [], e :: phase, by simp [delivered], rfl, fun _ => by simpa [delivered]⟩
      · cases e with
        | chunk b =>
            obtain ⟨stop, events, rest, hrun, hphase, hend⟩ := ih (buf ++ b)
            rw [List.append_assoc] at hrun hend
            exact ⟨stop, .chunk b :: events, rest, hrun, by rw [hphase]; rfl, hend⟩
        | expire => exact ⟨.expired, [.expire], phase, by simp [delivered], rfl, fun h => by cases h⟩
        | closed reason =>
            exact ⟨.closed reason, [.closed reason], phase, by simp [delivered], rfl, fun h => by cases h⟩
        | fault reason =>
            exact ⟨.fault reason, [.fault reason], phase, by simp [delivered], rfl, fun h => by cases h⟩
        | cancel => exact ⟨.cancelled, [.cancel], phase, by simp [delivered], rfl, fun h => by cases h⟩

/-- The call returned, or its deadline passed. -/
def Settled : Except Exc Bytes → Prop
  | .ok _ => True
  | .error e => e.isinstance .timeoutError = true ∨ e.isinstance .transientTransportError = true

/-- A failure of the port is no timeout. -/
theorem not_settled {cls : ErrorClass} (h : cls = .connectionError ∨ cls = .transportError) (message : String)
    (context : ErrorContext) : ¬ Settled (.error (.sartorius ⟨cls, message, context⟩)) := by
  rcases h with rfl | rfl <;> rintro (h | h) <;> cases h

/-- What a call hands to its caller. -/
def returned : Except Exc Bytes → Bytes
  | .ok out => out
  | .error _ => []

/-- What a call that returned promised. -/
def Meets : ReadCall → Except Exc Bytes → Prop
  | .exact n _, .ok out => 0 ≤ n → (out.length : Int) = n
  | .until separator _, .ok out => EndsFirst separator out
  | _, _ => True

/-- From `s` to `s'` the line delivered `events`, and the callers got `out`. -/
structure Conserved (out : Bytes) (events : List Rx) (s s' : SerialState) : Prop where
  line : phase s = events ++ phase s'
  bytes : out ++ s'.pushback = s.pushback ++ delivered events
  received : s'.received = s.received ++ delivered events

variable {s s' : SerialState}

theorem Conserved.refl (s : SerialState) : Conserved [] [] s s := ⟨rfl, by simp [delivered], by simp [delivered]⟩

theorem Conserved.trans {a b : Bytes} {es es' : List Rx} {s₁ s₂ s₃ : SerialState}
    (h : Conserved a es s₁ s₂) (h' : Conserved b es' s₂ s₃) : Conserved (a ++ b) (es ++ es') s₁ s₃ where
  line := by rw [h.line, h'.line, List.append_assoc]
  bytes := by
    rw [List.append_assoc, h'.bytes, ← List.append_assoc, h.bytes, List.append_assoc]
    simp [delivered]
  received := by
    rw [h'.received, h.received, List.append_assoc]
    simp [delivered]

/-- A call that settled found the port open. -/
theorem exec_requirePort_bind {f : Unit → Py SerialState Bytes} {result : Except Exc Bytes}
    (hrun : (requirePort >>= f).exec s = (result, s')) (hresult : Settled result) :
    (f ()).exec s = (result, s') := by
  cases hopen : s.isOpen with
  | true =>
      rw [Prog.exec_bind_ok (exec_requirePort hopen)] at hrun
      exact hrun
  | false =>
      have hclosed : requirePort.exec s =
          (.error (.sartorius ⟨.connectionError, s!"{label s} is not open", { port := some (label s) }⟩), s) := by
        rw [requirePort, Prog.exec_bind_ok (Prog.exec_get s), if_neg (by simp [hopen]), exec_raise]
      rw [Prog.exec_bind_error hclosed] at hrun
      cases hrun
      exact absurd hresult (not_settled (.inl rfl) _ _)

/-- A read loses nothing when it returns or times out. -/
theorem readWith_conserved {enough : Bytes → Bool} {take : Bytes → Nat}
    {onTimeout : SerialState → Bytes → Exc} {result : Except Exc Bytes}
    (hrun : (readWith enough take onTimeout).exec s = (result, s')) (hresult : Settled result) :
    ∃ events, Conserved (returned result) events s s' ∧
      ∀ out, result = .ok out → ∃ buf, enough buf = true ∧ out = buf.take (take buf) := by
  replace hrun := exec_requirePort_bind hrun hresult
  obtain ⟨stop, events, rest, hloop, hphase, hend⟩ := receiveLoop_delivered enough s.pushback (phase s)
  rw [Prog.exec_ofFun] at hrun
  simp only [hloop] at hrun
  refine ⟨events, ?_⟩
  cases stop with
  | complete =>
      cases hrun
      refine ⟨⟨hphase, List.take_append_drop _ _, by simp⟩, fun out hout => ?_⟩
      cases hout
      exact ⟨_, hend rfl, rfl⟩
  | expired =>
      cases hrun
      exact ⟨⟨hphase, rfl, by simp⟩, fun out hout => by cases hout⟩
  | closed reason =>
      cases hrun
      exact absurd hresult (not_settled (.inl rfl) _ _)
  | fault reason =>
      cases hrun
      exact absurd hresult (not_settled (.inr rfl) _ _)
  | cancelled =>
      cases hrun
      rcases hresult with h | h <;> cases h

theorem readExactInt_conserved {n : Int} {timeout : Rat} {result : Except Exc Bytes}
    (hrun : (readExactInt n timeout).exec s = (result, s')) (hresult : Settled result) :
    ∃ events, Conserved (returned result) events s s' ∧ Meets (.exact n timeout) result := by
  unfold readExactInt at hrun
  split_ifs at hrun with hn
  · replace hrun := exec_requirePort_bind hrun hresult
    cases hrun
    refine ⟨[], .refl s, fun hzero => ?_⟩
    simp only [List.length_nil]
    omega
  · unfold readExact at hrun
    rw [if_neg (by omega)] at hrun
    obtain ⟨events, hconserved, hout⟩ := readWith_conserved hrun hresult
    refine ⟨events, hconserved, ?_⟩
    cases result with
    | error e => trivial
    | ok out =>
        intro _
        obtain ⟨buf, henough, rfl⟩ := hout out rfl
        simp only [decide_eq_true_eq] at henough
        rw [List.length_take]
        omega

theorem readUntil_conserved {separator : Bytes} {timeout : Rat} {result : Except Exc Bytes}
    (hrun : (readUntil separator timeout).exec s = (result, s')) (hresult : Settled result) :
    ∃ events, Conserved (returned result) events s s' ∧ Meets (.until separator timeout) result := by
  obtain ⟨events, hconserved, hout⟩ := readWith_conserved hrun hresult
  refine ⟨events, hconserved, ?_⟩
  cases result with
  | error e => trivial
  | ok out =>
      obtain ⟨buf, henough, rfl⟩ := hout out rfl
      obtain ⟨i, hi⟩ := Option.isSome_iff_exists.mp henough
      rw [hi]
      exact Bytes.take_find hi

theorem readAvailable_conserved (idleTimeout : Rat) {maxBytes : Option Int} {result : Except Exc Bytes}
    (hrun : (readAvailable idleTimeout maxBytes).exec s = (result, s')) (hresult : Settled result) :
    ∃ events, Conserved (returned result) events s s' := by
  replace hrun := exec_requirePort_bind hrun hresult
  obtain ⟨stop, events, rest, hloop, hphase, -⟩ :=
    receiveLoop_delivered (fun buf => ((maxBytes.filter (0 < ·)).map Int.toNat).any (· ≤ buf.length)) s.pushback
      (phase s)
  rw [Prog.exec_ofFun] at hrun
  simp only [hloop] at hrun
  refine ⟨events, ?_⟩
  split at hrun
  · cases hrun
    rcases hresult with h | h <;> cases h
  · split_ifs at hrun
    · cases hrun
      exact ⟨hphase, List.take_append_drop _ _, by simp⟩
    · cases hrun
      exact ⟨hphase, by simp [returned], by simp⟩
  · cases hrun
    exact ⟨hphase, by simp [returned], by simp⟩

theorem perform_conserved {c : ReadCall} {result : Except Exc Bytes} (hrun : (perform c).exec s = (result, s'))
    (hresult : Settled result) : ∃ events, Conserved (returned result) events s s' ∧ Meets c result := by
  cases c with
  | exact n timeout => exact readExactInt_conserved hrun hresult
  | «until» separator timeout => exact readUntil_conserved hrun hresult
  | available idleTimeout maxBytes =>
      obtain ⟨events, hconserved⟩ := readAvailable_conserved idleTimeout hrun hresult
      refine ⟨events, hconserved, ?_⟩
      cases result <;> trivial

/-! ## A run -/

/-- In a run whose calls return or time out, what the calls returned and what is pushed back at the end is what
was pushed back at the start and the chunks that arrived; a read of `n` bytes returned `n` bytes, and a read up
to a separator the shortest text that ends in it. -/
theorem runReads_conserved {s s' : SerialState} {calls : List ReadCall} {results : List (Except Exc Bytes)}
    (hrun : runReads calls s = (results, s')) (hsettled : ∀ r ∈ results, Settled r) :
    (∃ events, phase s = events ++ phase s' ∧ s'.received = s.received ++ delivered events ∧
      results.flatMap returned ++ s'.pushback = s.pushback ++ delivered events) ∧
    List.Forall₂ Meets calls results := by
  suffices h : (∃ events, Conserved (results.flatMap returned) events s s') ∧ List.Forall₂ Meets calls results by
    obtain ⟨⟨events, hconserved⟩, hmeets⟩ := h
    exact ⟨⟨events, hconserved.line, hconserved.received, hconserved.bytes⟩, hmeets⟩
  induction calls generalizing s results with
  | nil =>
      cases hrun
      exact ⟨⟨[], .refl _⟩, .nil⟩
  | cons c calls ih =>
      rw [runReads] at hrun
      rcases hcall : (perform c).exec s with ⟨result, t⟩
      rcases hrest : runReads calls t with ⟨results', u⟩
      simp only [hcall, hrest, Prod.mk.injEq] at hrun
      obtain ⟨rfl, rfl⟩ := hrun
      obtain ⟨events, hconserved, hmeets⟩ := perform_conserved hcall (hsettled result List.mem_cons_self)
      obtain ⟨⟨events', hconserved'⟩, hmeets'⟩ :=
        ih hrest fun r hr => hsettled r (List.mem_cons_of_mem _ hr)
      exact ⟨⟨events ++ events', hconserved.trans hconserved'⟩, .cons hmeets hmeets'⟩

/-- A line on which a separator is cut in two. -/
def splitLine : SerialState :=
  { settings := { port := "COM3" }, line := [[.chunk [0x31, 0x0D], .chunk [0x0A, 0x32], .chunk [0x33]]] }

def splitCalls : List ReadCall := [.until [0x0D, 0x0A] 1, .exact 3 1, .available 1 (some 1), .exact (-1) 1]

theorem runReads_conserved_split :
    (∃ events, phase splitLine = events ++ phase (runReads splitCalls splitLine).2 ∧
      (runReads splitCalls splitLine).2.received = splitLine.received ++ delivered events ∧
      (runReads splitCalls splitLine).1.flatMap returned ++ (runReads splitCalls splitLine).2.pushback =
        splitLine.pushback ++ delivered events) ∧
    List.Forall₂ Meets splitCalls (runReads splitCalls splitLine).1 := by
  refine runReads_conserved rfl ?_
  have hresults : (runReads splitCalls splitLine).1 =
      [.ok [0x31, 0x0D, 0x0A], .error (readExactTimeout 3 1 splitLine [0x32, 0x33]), .ok [0x32], .ok []] := rfl
  rw [hresults]
  simp [Settled, readExactTimeout]
  decide

end SerialTransport

end SartoriusLib
