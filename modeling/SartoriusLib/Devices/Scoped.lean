import SartoriusLib.Devices.RequestTrace

/-!
# Work between an opening and a close

A command or a maintenance helper opens a balance, does its work and closes the port again, whatever the work
raised: after it the port is closed, and the line saw the probes of the opening and then what the work sent.
-/

namespace SartoriusLib.Factory

open Lib Prog

variable {W α : Type}

/-- `bal = await open_device(...)`, and then `try: body finally: await bal.close()`. -/
def withDevice (T : OwnedTransport W) (r : OpenRequest) (body : Py (Host W) α) : Py (Opening W) α := do
  openDevice T r
  let result ← closingOnError T (onHost body)
  onPort T.close
  pure result

theorem closingOnError_ok {T : OwnedTransport W} {m : Py (Opening W) α} {o o' : Opening W} {a : α}
    (h : (closingOnError T m).exec o = (.ok a, o')) : m.exec o = (.ok a, o') := by
  rw [closingOnError, exec_tryCatch] at h
  rcases hm : m.exec o with ⟨e | b, o₁⟩
  · rw [hm] at h
    obtain ⟨u, o₂, -, h⟩ := exec_bind_eq_ok.mp h
    cases h
  · rw [hm] at h
    exact h

/-- Whatever happens, the port is closed at the end. -/
theorem withDevice_closes {T : OwnedTransport W} (hT : Reliable T) (r : OpenRequest) (body : Py (Host W) α)
    (o : Opening W) : T.isOpen ((withDevice T r body).exec o).2.host.world = false := by
  rw [withDevice]
  rcases hopen : (openDevice T r).exec o with ⟨e | u, o₁⟩
  · rw [exec_bind_error hopen]
    exact openDevice_closes hT hopen
  rw [exec_bind_ok hopen]
  have hrun := exec_closingOnError hT (onHost body) o₁
  rcases hbody : (onHost body).exec o₁ with ⟨e | result, o₂⟩ <;> rw [hbody] at hrun
  · rw [exec_bind_error hrun]
    exact hT.closed _
  · have hclose : (onPort T.close).exec o₂ = (.ok (), portClosed T o₂) := Prod.ext (hT.closes _) rfl
    rw [exec_bind_ok hrun, exec_bind_ok hclose]
    exact hT.closed _

/-! ## The line -/

/-- What an opening makes of its request. -/
structure NewBalance (r : OpenRequest) (h : Host W) : Prop where
  serialSettings : h.session.serialSettings = some r.settings
  active : r.protocol ≠ .auto → h.session.active = r.protocol
  info : h.info = none

theorem buildBalance_new {T : Transport W} {r : OpenRequest} {o o₁ : Opening W}
    (h : (buildBalance T r).exec o = (.ok (), o₁)) : NewBalance r o₁.host := by
  obtain ⟨⟨protocol, detection⟩, o₂, hresolve, h⟩ := exec_bind_eq_ok.mp h
  obtain ⟨id, o₃, -, h⟩ := exec_bind_eq_ok.mp h
  obtain ⟨⟨xbpi, sbi⟩, o₄, -, h⟩ := exec_bind_eq_ok.mp h
  obtain ⟨sbi', o₅, -, h⟩ := exec_bind_eq_ok.mp h
  rw [exec_bind_ok (exec_modify _ o₅), exec_bind_ok (exec_get _)] at h
  split at h
  · cases h
  cases h
  refine ⟨rfl, fun hprotocol => ?_, rfl⟩
  rw [resolveProtocol, if_pos hprotocol] at hresolve
  cases hresolve
  rfl

/-- What work returned, it returned on a new balance. -/
theorem withDevice_returned {T : OwnedTransport W} {r : OpenRequest} (hidentify : r.identify = false)
    {body : Py (Host W) α} {o o' : Opening W} {a : α} (h : (withDevice T r body).exec o = (.ok a, o')) :
    ∃ g g', NewBalance r g ∧ body.exec g = (.ok a, g') ∧ o'.host.session = g'.session ∧ o'.host.info = g'.info := by
  obtain ⟨⟨⟩, o₁, hopen, h⟩ := exec_bind_eq_ok.mp h
  obtain ⟨result, o₂, hbody, h⟩ := exec_bind_eq_ok.mp h
  obtain ⟨⟨⟩, o₃, hclose, h⟩ := exec_bind_eq_ok.mp h
  cases h
  obtain ⟨⟨⟩, o₀, -, hopen⟩ := exec_bind_eq_ok.mp hopen
  obtain ⟨⟨⟩, o₁', hbuild, hrest⟩ := exec_bind_eq_ok.mp (closingOnError_ok hopen)
  rw [if_neg (by simp [hidentify])] at hrest
  cases hrest
  have hwork := closingOnError_ok hbody
  rw [onHost, exec_zoom, Prod.mk.injEq] at hwork
  obtain rfl : ((onPort T.close).exec o₂).2 = o' := by rw [hclose]
  exact ⟨o₁.host, o₂.host, buildBalance_new hbuild, Prod.ext hwork.1 (congrArg Opening.host hwork.2), rfl, rfl⟩

/-- What the line saw: the probes of the opening, and then what the work sent. `P` says what that is,
for the protocol that was found and with how the work ended. -/
def Ran (r : OpenRequest) (P : ProtocolKind → Except Exc α → List Bytes → Prop) (o : Opening (Traced W))
    (outcome : Except Exc α × Opening (Traced W)) : Prop :=
  ∃ probed sent, writes (lineOf outcome.2) = writes (lineOf o) ++ (probed ++ sent) ∧ probed <+: probesOf r ∧
    ((sent = [] ∧ ∃ e, outcome.1 = .error e) ∨
      ∃ result, P outcome.2.host.session.active result sent ∧ ∀ a, outcome.1 = .ok a → result = .ok a)

section Closing

variable (T : OwnedTransport W)

/-- A close writes nothing, whatever it raises. -/
theorem close_line (o : Opening (Traced W)) :
    lineOf ((onPort (tracedPort T).close).exec o).2 = lineOf o ∧
      ((onPort (tracedPort T).close).exec o).2.host.session = o.host.session := ⟨rfl, rfl⟩

theorem closingOnError_line (m : Py (Opening (Traced W)) α) (o : Opening (Traced W)) :
    lineOf ((closingOnError (tracedPort T) m).exec o).2 = lineOf (m.exec o).2 ∧
      ((closingOnError (tracedPort T) m).exec o).2.host.session = (m.exec o).2.host.session ∧
      ∀ a, ((closingOnError (tracedPort T) m).exec o).1 = .ok a → (m.exec o).1 = .ok a := by
  rw [closingOnError, exec_tryCatch]
  rcases m.exec o with ⟨e | a, o'⟩
  · dsimp only
    obtain ⟨hline, hsession⟩ := close_line T o'
    rcases hclose : (onPort (tracedPort T).close).exec o' with ⟨e' | u, o''⟩
    · rw [hclose] at hline hsession
      rw [exec_bind_error hclose]
      exact ⟨hline, hsession, fun _ h => by cases h⟩
    · rw [hclose] at hline hsession
      rw [exec_bind_ok hclose]
      exact ⟨hline, hsession, fun _ h => by cases h⟩
  · exact ⟨rfl, rfl, fun _ h => h⟩

theorem ensureOpen_line (o : Opening (Traced W)) : lineOf ((ensureOpen (tracedPort T)).exec o).2 = lineOf o := by
  rw [ensureOpen, exec_bind_ok (exec_get o)]
  split <;> rfl

/-- An opening that does not identify writes a beginning of its probes, and returns a new balance. -/
theorem openDevice_line {r : OpenRequest} (hidentify : r.identify = false) (o : Opening (Traced W)) :
    (∃ probed, writes (lineOf ((openDevice (tracedPort T) r).exec o).2) = writes (lineOf o) ++ probed ∧
      probed <+: probesOf r) ∧
    (((openDevice (tracedPort T) r).exec o).1 = .ok () →
      Opened ((openDevice (tracedPort T) r).exec o).2.host.session ∧
      ((openDevice (tracedPort T) r).exec o).2.host.session.srcSbn = r.srcSbn ∧
      ((openDevice (tracedPort T) r).exec o).2.host.session.dstSbn = r.dstSbn) := by
  have hopen := ensureOpen_line T o
  rw [openDevice]
  rcases hensure : (ensureOpen (tracedPort T)).exec o with ⟨e | u, o₁⟩
  · rw [hensure] at hopen
    rw [exec_bind_error hensure]
    exact ⟨⟨[], by rw [hopen, List.append_nil], List.nil_prefix⟩, fun h => by cases h⟩
  rw [hensure] at hopen
  rw [exec_bind_ok hensure]
  have hbody : (do
      buildBalance (tracedPort T).toTransport r
      if r.identify then identifyWithColdOpenRetry (tracedPort T).toTransport coldOpenMaxRetries else pure () :
        Py (Opening (Traced W)) Unit) = buildBalance (traced T.toTransport) r := by
    simp only [hidentify, Bool.false_eq_true, if_false]
    exact bind_pure_unit
  rw [hbody]
  obtain ⟨hline, hsession, hok⟩ := closingOnError_line T (buildBalance (traced T.toTransport) r) o₁
  obtain ⟨es, hes, hbegins⟩ := buildBalance_writes T.toTransport r o₁
  refine ⟨⟨writes es, ?_, hbegins⟩, fun h => ?_⟩
  · rw [hline, ← hopen, hes, writes_append]
  · rw [hsession]
    exact buildBalance_opened (Prod.ext (hok () h) rfl)

/-- Either the opening failed, or the work was done on a new balance and the port was closed behind it. -/
theorem withDevice_cases {r : OpenRequest} (hidentify : r.identify = false) (body : Py (Host (Traced W)) α)
    (o : Opening (Traced W)) :
    ∃ probed, probed <+: probesOf r ∧
      ((writes (lineOf ((withDevice (tracedPort T) r body).exec o).2) = writes (lineOf o) ++ probed ∧
        ∃ e, ((withDevice (tracedPort T) r body).exec o).1 = .error e) ∨
      ∃ h : Host (Traced W), Opened h.session ∧ h.session.srcSbn = r.srcSbn ∧ h.session.dstSbn = r.dstSbn ∧
        writes h.world.events = writes (lineOf o) ++ probed ∧
        lineOf ((withDevice (tracedPort T) r body).exec o).2 = (body.exec h).2.world.events ∧
        ((withDevice (tracedPort T) r body).exec o).2.host.session = (body.exec h).2.session ∧
        ∀ a, ((withDevice (tracedPort T) r body).exec o).1 = .ok a → (body.exec h).1 = .ok a) := by
  obtain ⟨⟨probed, hprobed, hbegins⟩, hopened⟩ := openDevice_line T hidentify o
  refine ⟨probed, hbegins, ?_⟩
  rw [withDevice]
  rcases hopen : (openDevice (tracedPort T) r).exec o with ⟨e | u, o₁⟩
  · rw [hopen] at hprobed
    rw [exec_bind_error hopen]
    exact .inl ⟨hprobed, e, rfl⟩
  rw [hopen] at hprobed hopened
  obtain ⟨hs, hsrc, hdst⟩ := hopened rfl
  rw [exec_bind_ok hopen]
  refine .inr ⟨o₁.host, hs, hsrc, hdst, hprobed, ?_⟩
  obtain ⟨hline, hsession, hok⟩ := closingOnError_line T (onHost body) o₁
  rcases hrun : (closingOnError (tracedPort T) (onHost body)).exec o₁ with ⟨e | result, o₂⟩
  · rw [hrun] at hline hsession
    rw [exec_bind_error hrun]
    exact ⟨hline, hsession, fun _ h => by cases h⟩
  rw [hrun] at hline hsession hok
  rw [exec_bind_ok hrun]
  obtain ⟨hclosed, hkept⟩ := close_line T o₂
  rcases hclose : (onPort (tracedPort T).close).exec o₂ with ⟨e | u, o₃⟩
  · rw [hclose] at hclosed hkept
    rw [exec_bind_error hclose]
    exact ⟨hclosed.trans hline, hkept.trans hsession, fun _ h => by cases h⟩
  · rw [hclose] at hclosed hkept
    rw [exec_bind_ok hclose]
    exact ⟨hclosed.trans hline, hkept.trans hsession, fun b hb => by cases hb; exact hok result rfl⟩

/-- Work on a balance that is opened for it and closed behind it. -/
theorem withDevice_ran {r : OpenRequest} (hidentify : r.identify = false)
    {P : ProtocolKind → Except Exc α → List Bytes → Prop} {body : Py (Host (Traced W)) α}
    (hbody : ∀ h, Opened h.session → h.session.srcSbn = r.srcSbn → h.session.dstSbn = r.dstSbn →
      ∃ sent, writes (body.exec h).2.world.events = writes h.world.events ++ sent ∧
        (body.exec h).2.session.active = h.session.active ∧ P h.session.active (body.exec h).1 sent)
    (o : Opening (Traced W)) : Ran r P o ((withDevice (tracedPort T) r body).exec o) := by
  obtain ⟨probed, hbegins, ⟨hline, hfailed⟩ | ⟨h, hs, hsrc, hdst, hprobed, hline, hsession, hok⟩⟩ :=
    withDevice_cases T hidentify body o
  · exact ⟨probed, [], by rw [List.append_nil, hline], hbegins, .inl ⟨rfl, hfailed⟩⟩
  · obtain ⟨sent, hsent, hactive, hP⟩ := hbody h hs hsrc hdst
    refine ⟨probed, sent, ?_, hbegins, .inr ⟨_, ?_, hok⟩⟩
    · rw [hline, hsent, hprobed, List.append_assoc]
    · rw [hsession, hactive]
      exact hP

end Closing

end SartoriusLib.Factory
