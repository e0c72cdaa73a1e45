import SartoriusLib.Transport.Reads

/-!
# Reads that do not return

A read moves the pushback into a buffer of its own. When its deadline passes it puts the buffer back. When the port
fails, or the task is cancelled, it does not, and what was buffered is lost with the call. `read_available` returns
what it has when the port fails, and is only ended by a cancellation.
-/

namespace SartoriusLib

open Lib

namespace ReadCall

/-- The bytes are all that the call waits for. -/
def enough : ReadCall → Bytes → Bool
  | .exact n _, buf => n ≤ buf.length
  | .until separator _, buf => (Bytes.find separator buf).isSome
  | .available _ maxBytes, buf => ((maxBytes.filter (0 < ·)).map Int.toNat).any (· ≤ buf.length)

/-- The call ends here without a result, and not because of its deadline. -/
def brokenBy : ReadCall → Rx → Bool
  | _, .cancel => true
  | .available .., _ => false
  | _, .closed _ => true
  | _, .fault _ => true
  | _, _ => false

end ReadCall

namespace SerialTransport

/-- The call takes the chunks off the line, waits for more, and is ended by `x`. -/
structure Interrupted (c : ReadCall) (s : SerialState) (chunks : List Bytes) (x : Rx) : Prop where
  isOpen : s.isOpen = true
  line : ∃ rest, phase s = chunks.map Rx.chunk ++ x :: rest
  broken : c.brokenBy x = true
  waits : ∀ n ≤ chunks.length, c.enough (s.pushback ++ (chunks.take n).flatten) = false

/-- What the call had buffered then. -/
def buffered (s : SerialState) (chunks : List Bytes) : Bytes := s.pushback ++ chunks.flatten

/-- The reads that follow, the last of which returns, get these bytes and then what arrives, as long as they return or
time out. -/
def Delivers (buf : Bytes) (s : SerialState) : Prop :=
  ∀ calls results out s', runReads calls s = (results ++ [.ok out], s') → (∀ r ∈ results, Settled r) →
    ∃ events, phase s = events ++ phase s' ∧
      results.flatMap returned ++ out ++ s'.pushback = buf ++ delivered events

/-! ## The receive loop -/

/-- How the loop ends at an event that is no chunk. -/
def endOf : Rx → ReadEnd
  | .chunk _ => .complete
  | .expire => .expired
  | .closed reason => .closed reason
  | .fault reason => .fault reason
  | .cancel => .cancelled

/-- A loop that still waits after the chunks ends at the event after them. -/
theorem receiveLoop_waits {enough : Bytes → Bool} {buf : Bytes} {chunks : List Bytes} {x : Rx} (rest : List Rx)
    (hx : endOf x ≠ .complete) (hwaits : ∀ n ≤ chunks.length, enough (buf ++ (chunks.take n).flatten) = false) :
    receiveLoop enough buf (chunks.map Rx.chunk ++ x :: rest) = (endOf x, buf ++ chunks.flatten, rest) := by
  induction chunks generalizing buf with
  | nil =>
      have hbuf : enough buf = false := by simpa using hwaits 0 (Nat.zero_le _)
      cases x with
      | chunk b => exact absurd rfl hx
      | _ => simp [receiveLoop, hbuf, endOf]
  | cons b chunks ih =>
      have hbuf : enough buf = false := by simpa using hwaits 0 (Nat.zero_le _)
      have hlater : ∀ n ≤ chunks.length, enough (buf ++ b ++ (chunks.take n).flatten) = false := by
        intro n hn
        simpa [List.append_assoc] using hwaits (n + 1) (Nat.succ_le_succ hn)
      simp only [List.map_cons, List.cons_append, receiveLoop, hbuf, Bool.false_eq_true, if_false]
      rw [ih hlater, List.flatten_cons, List.append_assoc]

/-- A loop that neither completes nor expires waited after each of its chunks. -/
theorem receiveLoop_broken {enough : Bytes → Bool} {buf buf' : Bytes} {line rest : List Rx} {stop : ReadEnd}
    (h : receiveLoop enough buf line = (stop, buf', rest)) (hc : stop ≠ .complete) (he : stop ≠ .expired) :
    ∃ (chunks : List Bytes) (x : Rx), line = chunks.map Rx.chunk ++ x :: rest ∧ stop = endOf x ∧
      buf' = buf ++ chunks.flatten ∧
      ∀ n ≤ chunks.length, enough (buf ++ (chunks.take n).flatten) = false := by
  induction line generalizing buf with
  | nil =>
      unfold receiveLoop at h
      split at h
      · exact absurd (congrArg Prod.fst h).symm hc
      · exact absurd (congrArg Prod.fst h).symm he
  | cons e line ih =>
      unfold receiveLoop at h
      split at h
      · exact absurd (congrArg Prod.fst h).symm hc
      next hbuf =>
        have hbuf : enough buf = false := Bool.eq_false_iff.mpr hbuf
        have hnone : ∀ n ≤ ([] : List Bytes).length, enough (buf ++ (([] : List Bytes).take n).flatten) = false := by
          simpa using hbuf
        cases e with
        | chunk b =>
            obtain ⟨chunks, x, rfl, hstop, rfl, hwaits⟩ := ih h
            refine ⟨b :: chunks, x, rfl, hstop, by simp [List.append_assoc], fun n hn => ?_⟩
            cases n with
            | zero => simpa using hbuf
            | succ n => simpa [List.append_assoc] using hwaits n (Nat.le_of_succ_le_succ hn)
        | expire => exact absurd (congrArg Prod.fst h).symm he
        | closed reason =>
            cases h
            exact ⟨[], _, rfl, rfl, by simp, hnone⟩
        | fault reason =>
            cases h
            exact ⟨[], _, rfl, rfl, by simp, hnone⟩
        | cancel =>
            cases h
            exact ⟨[], _, rfl, rfl, by simp, hnone⟩

/-! ## One call -/

variable {c : ReadCall} {s : SerialState} {chunks : List Bytes} {x : Rx}

/-- A call that lost its buffer. -/
structure Lost (c : ReadCall) (s : SerialState) : Prop where
  unsettled : ¬ Settled ((perform c).exec s).1
  isOpen : ((perform c).exec s).2.isOpen = true
  pushback : ((perform c).exec s).2.pushback = []

theorem not_settled_cancelled : ¬ Settled (.error .cancelled) := by
  rintro (h | h) <;> cases h

/-- `read_exact` and `read_until` that are ended by a failure or a cancellation. -/
theorem readWith_lost (enough : Bytes → Bool) (take : Bytes → Nat) (onTimeout : SerialState → Bytes → Exc)
    {rest : List Rx} (ho : s.isOpen = true) (hline : phase s = chunks.map Rx.chunk ++ x :: rest)
    (hwaits : ∀ n ≤ chunks.length, enough (s.pushback ++ (chunks.take n).flatten) = false)
    (hx : endOf x ≠ .complete ∧ endOf x ≠ .expired) :
    ¬ Settled ((readWith enough take onTimeout).exec s).1 ∧
      ((readWith enough take onTimeout).exec s).2.isOpen = true ∧
      ((readWith enough take onTimeout).exec s).2.pushback = [] := by
  have hloop := receiveLoop_waits rest hx.1 hwaits
  rw [readWith, Prog.exec_bind_ok (exec_requirePort ho), Prog.exec_ofFun, hline, hloop]
  cases x with
  | chunk b => exact absurd rfl hx.1
  | expire => exact absurd rfl hx.2
  | closed reason => exact ⟨not_settled (.inl rfl) _ _, ho, rfl⟩
  | fault reason => exact ⟨not_settled (.inr rfl) _ _, ho, rfl⟩
  | cancel => exact ⟨not_settled_cancelled, ho, rfl⟩

theorem Interrupted.lost (h : Interrupted c s chunks x) : Lost c s := by
  obtain ⟨rest, hline⟩ := h.line
  cases c with
  | exact n timeout =>
      have hn : ¬ n ≤ 0 := by
        have hwaits := h.waits 0 (Nat.zero_le _)
        simp only [ReadCall.enough, decide_eq_false_iff_not] at hwaits
        omega
      have hwaits : ∀ k ≤ chunks.length,
          (fun buf : Bytes => decide (n.toNat ≤ buf.length)) (s.pushback ++ (chunks.take k).flatten) = false := by
        intro k hk
        have hk := h.waits k hk
        simp only [ReadCall.enough, decide_eq_false_iff_not] at hk ⊢
        omega
      have hx : endOf x ≠ .complete ∧ endOf x ≠ .expired := by
        have hb := h.broken
        cases x <;> simp [ReadCall.brokenBy, endOf] at hb ⊢
      have hlost := readWith_lost (fun buf => decide (n.toNat ≤ buf.length)) (fun _ => n.toNat)
        (readExactTimeout n.toNat timeout) h.isOpen hline hwaits hx
      have hperform : perform (.exact n timeout) =
          readWith (fun buf => n.toNat ≤ buf.length) (fun _ => n.toNat) (readExactTimeout n.toNat timeout) := by
        rw [perform, readExactInt, if_neg hn, readExact, if_neg (by omega)]
      exact ⟨hperform ▸ hlost.1, hperform ▸ hlost.2.1, hperform ▸ hlost.2.2⟩
  | «until» separator timeout =>
      have hx : endOf x ≠ .complete ∧ endOf x ≠ .expired := by
        have hb := h.broken
        cases x <;> simp [ReadCall.brokenBy, endOf] at hb ⊢
      obtain ⟨hu, ho, hp⟩ := readWith_lost _ (fun buf => (Bytes.find separator buf).getD 0 + separator.length)
        (readUntilTimeout separator timeout) h.isOpen hline h.waits hx
      exact ⟨hu, ho, hp⟩
  | available idleTimeout maxBytes =>
      obtain rfl : x = .cancel := by
        have hb := h.broken
        cases x <;> simp [ReadCall.brokenBy] at hb ⊢
      have hloop := receiveLoop_waits (x := .cancel) rest (by simp [endOf]) h.waits
      have hexec : (perform (.available idleTimeout maxBytes)).exec s =
          (.error .cancelled,
            { s with pushback := [], line := rest :: s.line.tail,
                     received := s.received ++ (s.pushback ++ chunks.flatten).drop s.pushback.length }) := by
        rw [perform, readAvailable, Prog.exec_bind_ok (exec_requirePort h.isOpen), Prog.exec_ofFun, hline]
        have hloop : receiveLoop
            (fun buf => ((maxBytes.filter (0 < ·)).map Int.toNat).any (· ≤ buf.length)) s.pushback
            (chunks.map Rx.chunk ++ .cancel :: rest) = (.cancelled, s.pushback ++ chunks.flatten, rest) := hloop
        simp only [hloop]
      exact ⟨hexec ▸ not_settled_cancelled, hexec ▸ h.isOpen, hexec ▸ rfl⟩

/-- `read_exact` and `read_until` that neither return nor time out. -/
theorem readWith_broken {enough : Bytes → Bool} {take : Bytes → Nat} {onTimeout : SerialState → Bytes → Exc}
    (ho : s.isOpen = true) (htimeout : ∀ s buf, Settled (.error (onTimeout s buf)))
    (hun : ¬ Settled ((readWith enough take onTimeout).exec s).1) :
    ∃ (chunks : List Bytes) (x : Rx), (∃ rest, phase s = chunks.map Rx.chunk ++ x :: rest) ∧
      (endOf x ≠ .complete ∧ endOf x ≠ .expired) ∧
      ∀ n ≤ chunks.length, enough (s.pushback ++ (chunks.take n).flatten) = false := by
  rcases hloop : receiveLoop enough s.pushback (phase s) with ⟨stop, buf, rest⟩
  rw [readWith, Prog.exec_bind_ok (exec_requirePort ho), Prog.exec_ofFun] at hun
  simp only [hloop] at hun
  have hend : stop ≠ .complete ∧ stop ≠ .expired := by
    constructor
    · rintro rfl
      exact hun trivial
    · rintro rfl
      exact hun (htimeout s buf)
  obtain ⟨chunks, x, hline, rfl, -, hwaits⟩ := receiveLoop_broken hloop hend.1 hend.2
  exact ⟨chunks, x, ⟨rest, hline⟩, hend, hwaits⟩

theorem brokenBy_of_endOf (hc : ∀ idle maxBytes, c ≠ .available idle maxBytes)
    (hx : endOf x ≠ .complete ∧ endOf x ≠ .expired) : c.brokenBy x = true := by
  cases c with
  | available idle maxBytes => exact absurd rfl (hc idle maxBytes)
  | _ => cases x <;> simp [ReadCall.brokenBy, endOf] at hx ⊢

theorem settled_readExactTimeout (n : Nat) (timeout : Rat) (s : SerialState) (buf : Bytes) :
    Settled (.error (readExactTimeout n timeout s buf)) := by
  unfold readExactTimeout
  split
  · exact .inr rfl
  · exact .inl rfl

theorem interrupted_of_unsettled (ho : s.isOpen = true) (hun : ¬ Settled ((perform c).exec s).1) :
    ∃ chunks x, Interrupted c s chunks x := by
  cases c with
  | exact n timeout =>
      by_cases hn : n ≤ 0
      · rw [perform, readExactInt, if_pos hn, Prog.exec_bind_ok (exec_requirePort ho)] at hun
        exact absurd trivial hun
      · rw [perform, readExactInt, if_neg hn, readExact, if_neg (by omega)] at hun
        obtain ⟨chunks, x, hline, hx, hwaits⟩ := readWith_broken ho (settled_readExactTimeout _ timeout) hun
        refine ⟨chunks, x, ho, hline, brokenBy_of_endOf (by simp) hx, fun k hk => ?_⟩
        have hk := hwaits k hk
        simp only [ReadCall.enough, decide_eq_false_iff_not] at hk ⊢
        omega
  | «until» separator timeout =>
      obtain ⟨chunks, x, hline, hx, hwaits⟩ := readWith_broken ho (fun s buf => .inl rfl) hun
      exact ⟨chunks, x, ho, hline, brokenBy_of_endOf (by simp) hx, hwaits⟩
  | available idleTimeout maxBytes =>
      rcases hloop : receiveLoop
        (fun buf => ((maxBytes.filter (0 < ·)).map Int.toNat).any (· ≤ buf.length)) s.pushback (phase s)
        with ⟨stop, buf, rest⟩
      rw [perform, readAvailable, Prog.exec_bind_ok (exec_requirePort ho), Prog.exec_ofFun] at hun
      simp only [hloop] at hun
      split at hun
      · obtain ⟨chunks, x, hline, hstop, -, hwaits⟩ := receiveLoop_broken hloop (by simp) (by simp)
        obtain rfl : x = .cancel := by
          cases x <;> simp [endOf] at hstop ⊢
        exact ⟨chunks, .cancel, ho, ⟨rest, hline⟩, rfl, hwaits⟩
      · split_ifs at hun <;> exact absurd trivial hun
      · exact absurd trivial hun

/-! ## The reads that follow -/

/-- With nothing pushed back, later reads deliver what arrives later and nothing before it. -/
theorem delivers_iff {buf : Bytes} (ho : s.isOpen = true) (hp : s.pushback = []) : Delivers buf s ↔ buf = [] := by
  constructor
  · intro h
    have hnone : runReads [.exact 0 0] s = ([] ++ [.ok []], s) := by
      rw [runReads, perform, readExactInt, if_pos (le_refl 0), Prog.exec_bind_ok (exec_requirePort ho)]
      rfl
    obtain ⟨events, hline, hbytes⟩ := h _ _ _ _ hnone (by simp)
    have hempty : buf ++ delivered events = [] := by
      rw [← hbytes, hp]
      rfl
    exact (List.append_eq_nil_iff.mp hempty).1
  · rintro rfl calls results out s' hrun hsettled
    have hall : ∀ r ∈ results ++ [.ok out], Settled r := by
      intro r hr
      rcases List.mem_append.mp hr with hr | hr
      · exact hsettled r hr
      · obtain rfl := List.mem_singleton.mp hr
        trivial
    obtain ⟨⟨events, hline, -, hbytes⟩, -⟩ := runReads_conserved hrun hall
    refine ⟨events, hline, ?_⟩
    rw [List.flatMap_append, hp] at hbytes
    simpa [returned] using hbytes

/-- What a call had buffered when it was ended is delivered by the reads that follow. -/
def Keeps (c : ReadCall) (s : SerialState) : Prop :=
  ∀ chunks x, Interrupted c s chunks x → Delivers (buffered s chunks) ((perform c).exec s).2

/-- Nothing is buffered at the place where the line ends the call. -/
def Unbuffered (c : ReadCall) (s : SerialState) : Prop :=
  ∀ chunks x, Interrupted c s chunks x → buffered s chunks = []

/-- A read on an open port that neither returns nor times out was ended, while it waited for more, by a failure or a
cancellation. It keeps its bytes exactly when it has none: the reads that follow deliver what arrives after it. -/
theorem keeps_iff (c : ReadCall) (s : SerialState) :
    (Keeps c s ↔ Unbuffered c s) ∧
      (s.isOpen = true → (¬ Settled ((perform c).exec s).1 ↔ ∃ chunks x, Interrupted c s chunks x)) ∧
      ∀ chunks x, Interrupted c s chunks x →
        ((perform c).exec s).2.isOpen = true ∧ Delivers [] ((perform c).exec s).2 ∧
          (buffered s chunks ≠ [] → ¬ Delivers (buffered s chunks) ((perform c).exec s).2) := by
  have hlost : ∀ {chunks x buf}, Interrupted c s chunks x → (Delivers buf ((perform c).exec s).2 ↔ buf = []) :=
    fun h => delivers_iff h.lost.isOpen h.lost.pushback
  refine ⟨⟨?_, ?_⟩, ?_, ?_⟩
  · intro hkeeps chunks x h
    exact (hlost h).mp (hkeeps chunks x h)
  · intro hnone chunks x h
    exact (hlost h).mpr (hnone chunks x h)
  · intro ho
    exact ⟨interrupted_of_unsettled ho, fun ⟨chunks, x, h⟩ => h.lost.unsettled⟩
  · intro chunks x h
    exact ⟨h.lost.isOpen, (hlost h).mpr rfl, fun hne hd => hne ((hlost h).mp hd)⟩

/-- A task is cancelled in the middle of a line of which one byte was pushed back and one has arrived. -/
def cutLine : SerialState :=
  { settings := { port := "COM3" }, pushback := [0x30], line := [[.chunk [0x31], .cancel, .chunk [0x32]]] }

theorem cut_line_loses :
    Interrupted (.until [0x0D] 1) cutLine [[0x31]] .cancel ∧ buffered cutLine [[0x31]] = [0x30, 0x31] ∧
      (runReads [.until [0x0D] 1, .available 1 none] cutLine).1 = [.error .cancelled, .ok [0x32]] ∧
      ¬ Keeps (.until [0x0D] 1) cutLine := by
  have h : Interrupted (.until [0x0D] 1) cutLine [[0x31]] .cancel := by
    refine ⟨rfl, ⟨[.chunk [0x32]], rfl⟩, rfl, fun n hn => ?_⟩
    match n, hn with
    | 0, _ => rfl
    | 1, _ => rfl
  refine ⟨h, rfl, rfl, fun hkeeps => ?_⟩
  have hnone := (delivers_iff h.lost.isOpen h.lost.pushback).mp (hkeeps _ _ h)
  cases hnone

end SerialTransport

end SartoriusLib
