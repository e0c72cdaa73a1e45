import SartoriusLib.Devices.ActiveClient
import SartoriusLib.Transport.Serial

/-!
# One exchange at a time

A client serves one call at a time, and calls on two clients exclude each other only as long as all that hold a lock
hold that of the active client. A switch that gets its turn after another one holds the lock of a client that is no
longer active.
-/

namespace SartoriusLib

open Lib Prog Caller

variable {W : Type} {T : Transport W}

/-- A task that waits for the answer to a call. -/
structure Pending (W : Type) where
  call : ClientCall
  next : Except Exc call.Answer → Shared W → CallerTask W
  after : Except Exc call.Answer → Shared W → Shared W

def Pending.task (p : Pending W) : CallerTask W := .ask p.call p.next p.after

def Pending.client (p : Pending W) : Nat := p.call.client

/-- `_raise_if_disposed`, the first thing under the lock of a client; a switch does not look. -/
def ClientCall.refused (s : Shared W) : ClientCall → Bool
  | .xbpi client .. => s.xbpiDisposed client
  | .configure .. => false
  | c => s.host.retired.contains c.client || (s.sbi? c.client).any (·.disposed)

/-- A balance with the tasks that wait for the lock of a client and those that hold one. A busy call has made its
check and is between its first and its last operation on the port; what it does is put down at its end. -/
structure Traffic (W : Type) where
  shared : Shared W
  /-- In the order in which they began to wait. -/
  waiting : List (Pending W) := []
  busy : List (Pending W) := []

namespace Traffic

inductive Event : Type 1 where
  | start (path : Path)
  | enter (i : Nat)
  | finish (i : Nat)
  | cancel (i : Nat)

/-- A task that has come to its end or to its next call. -/
def settle (s : Traffic W) (task : CallerTask W) (after : Shared W) : Traffic W :=
  match task with
  | .done _ => { s with shared := after }
  | .ask call next k => { s with shared := after, waiting := s.waiting ++ [{ call, next, after := k }] }

/-- The call of `p` is performed, and its task runs on. -/
def answer (T : Transport W) (s : Traffic W) (p : Pending W) : Traffic W :=
  let (x, t) := (p.call.perform T).exec s.shared
  s.settle (p.next x t) (p.after x t)

/-- The lock of the client is free, and no call before place `i` waits for it. -/
def free (s : Traffic W) (i client : Nat) : Bool := (s.waiting.take i ++ s.busy).all fun p => p.client ≠ client

def step (T : Transport W) (s : Traffic W) : Event → Option (Traffic W)
  | .start path =>
      let (task, after) := path.caller s.shared
      some (s.settle task after)
  | .enter i =>
      match s.waiting[i]? with
      | none => none
      | some p =>
          if s.free i p.client then
            let rest := { s with waiting := s.waiting.eraseIdx i }
            if p.call.refused s.shared then some (rest.answer T p) else some { rest with busy := s.busy ++ [p] }
          else none
  | .finish i =>
      match s.busy[i]? with
      | none => none
      | some p => some ({ s with busy := s.busy.eraseIdx i }.answer T p)
  | .cancel i => if i < s.waiting.length then some { s with waiting := s.waiting.eraseIdx i } else none

/-- One exchange at a time: at most one call holds a lock, its client is the active one and is in use, and only the
end of such a call tells of bytes that moved. -/
structure Exclusive (T : Transport W) (s : Traffic W) : Prop where
  single : s.busy.length ≤ 1
  active : ∀ p ∈ s.busy,
    activeLock s.shared.host.session = some p.client ∧ p.client ∉ s.shared.host.retired
  quiet : ∀ e s', step T s e = some s' → (∀ i, e ≠ .finish i) → s'.shared.host.world = s.shared.host.world

/-- A switch that gets its turn gets the lock of the client that is active then. -/
def InTurn (s : Traffic W) : Event → Bool
  | .enter i =>
      (s.waiting[i]?).all fun p => p.call.seen?.isNone || activeLock s.shared.host.session = some p.client
  | _ => true

/-- Nobody has called yet, the clients of the session are in use, and every identity belongs to a client that was
made. -/
structure Begins (s : Traffic W) : Prop where
  waiting : s.waiting = []
  busy : s.busy = []
  inUse : ∀ i ∈ s.shared.host.session.clients, i ∉ s.shared.host.retired
  made : ∀ i ∈ s.shared.host.session.clients ++ s.shared.host.retired, i < s.shared.host.nextId

end Traffic

/-! ## What a call does to the clients -/

theorem activeLock_mem {s : Session} {i : Nat} (h : activeLock s = some i) : i ∈ s.clients := by
  unfold activeLock at h
  rw [Session.clients, List.mem_append]
  split at h
  · rename_i client _ hxbpi
    cases h
    exact .inl (by simp [hxbpi])
  · obtain ⟨c, hc, rfl⟩ := Option.map_eq_some_iff.mp h
    exact .inr (by simp [hc])

theorem withSbi_wired {α : Type} (client : Nat) {m : Py (Sbi.SbiLink W) α}
    (hm : ∀ i, Keeps (Sbi.AtClient i fun _ => True) m) (s : Shared W) :
    Balance.Wired s.host ((withSbi client m).exec s).2.host := by
  rw [withSbi, exec_ofFun]
  rcases hcurrent : s.host.session.sbi.filter (·.id = client) with _ | c
  · rw [hcurrent]
    cases hreplaced : s.replaced.find? (·.id = client) with
    | none => exact .refl _
    | some c => exact ⟨rfl, rfl, le_rfl⟩
  · obtain ⟨hc, -⟩ := Option.filter_eq_some_iff.mp hcurrent
    have hid := (hm c.id ⟨s.retire c, s.host.world⟩ ⟨rfl, trivial⟩).1
    rw [hcurrent]
    refine ⟨?_, rfl, le_rfl⟩
    simp only [onHost, exec_zoom, onSbi, exec_ofFun, Session.wiring, Option.map_some, hc, hid]

/-- A call leaves the clients alone, or it is a switch that replaces those that its caller saw. -/
theorem ClientCall.perform_wired (T : Transport W) (c : ClientCall) (s : Shared W) :
    Balance.Wired s.host ((c.perform T).exec s).2.host ∨
      ∃ old, c.seen? = some old ∧ Balance.Rewired old s.host ((c.perform T).exec s).2.host := by
  have hT := Transport.keeps_true T .sbi
  cases c with
  | xbpi client request timeout commandName opcode =>
      rw [perform, exec_bind_ok (exec_get s), onHost, exec_zoom]
      exact .inl (Balance.onWorld_wired _ s.host (.refl _))
  | sbi client request timeout commandName sbiToken expectLines =>
      exact .inl (withSbi_wired client (fun i link hlink => Sbi.executeLocked_reads hT hlink trivial _ _ _) s)
  | readLine client timeout => exact .inl (withSbi_wired client (fun i => Sbi.readLine_keeps hT _ _) s)
  | refresh client clock => exact .inl (withSbi_wired client (fun i => Sbi.refreshAutoprintState_keeps hT _) s)
  | configure client r old =>
      have hswitch := Balance.switchProtocol_wired T r
        { old with srcSbn := s.host.session.srcSbn, dstSbn := s.host.session.dstSbn } s.host s.host (.refl _)
      rw [perform, exec_performSwitch]
      generalize (Balance.switchProtocol T r
        { old with srcSbn := s.host.session.srcSbn, dstSbn := s.host.session.dstSbn }).exec s.host = run at hswitch ⊢
      obtain ⟨e | u, h⟩ := run
      · exact .inl hswitch
      · exact .inr ⟨old, rfl, hswitch.client, hswitch.retired⟩

/-- A call that is refused moves no byte. -/
theorem ClientCall.perform_refused (T : Transport W) {c : ClientCall} {s : Shared W} (h : c.refused s = true) :
    ((c.perform T).exec s).2.host.world = s.host.world := by
  have hsbi {α : Type} {client : Nat} {m : Py (Sbi.SbiLink W) α}
      (hrefused : (s.host.retired.contains client || (s.sbi? client).any (·.disposed)) = true)
      (hm : ∀ link : Sbi.SbiLink W, link.client.disposed = true → (m.exec link).2.world = link.world) :
      ((withSbi client m).exec s).2.host.world = s.host.world := by
    cases hc : s.sbi? client with
    | none => rw [withSbi_none hc]
    | some c =>
        have hid : c.id = client := by
          rcases Option.or_eq_some_iff.mp hc with hcurrent | ⟨-, hreplaced⟩
          · simpa using (Option.filter_eq_some_iff.mp hcurrent).2
          · simpa using List.find?_some hreplaced
        rw [(withSbi_some hc m).2]
        refine hm ⟨s.retire c, s.host.world⟩ ?_
        simpa [Shared.retire, hc, hid, or_comm] using hrefused
  cases c with
  | xbpi client request timeout commandName opcode =>
      rw [perform, exec_bind_ok (exec_get s), onHost, exec_zoom]
      rw [show s.xbpiDisposed client = true from h]
      rfl
  | sbi client request timeout commandName sbiToken expectLines =>
      refine hsbi h fun link hlink => ?_
      rw [Sbi.executeLocked, exec_bind_error (Sbi.raiseIfDisposed_disposed hlink _ _)]
  | readLine client timeout =>
      refine hsbi h fun link hlink => ?_
      rw [Sbi.readLine, exec_bind_error (Sbi.raiseIfDisposed_disposed hlink _ _)]
  | refresh client clock =>
      refine hsbi h fun link hlink => ?_
      rw [Sbi.refreshAutoprintState, exec_bind_error (Sbi.raiseIfDisposed_disposed hlink _ _)]
  | configure client r old => cases h

/-- A switch is never refused. -/
theorem ClientCall.seen?_of_refused {c : ClientCall} {s : Shared W} (h : c.refused s = true) : c.seen? = none := by
  cases c with
  | configure client r old => cases h
  | _ => rfl

/-- A call that is not refused is on a client in use, unless it is a switch. -/
theorem ClientCall.notMem_retired {c : ClientCall} {s : Shared W} (h : c.refused s = false) (hc : c.seen? = none) :
    c.client ∉ s.host.retired := by
  have hcontains : s.host.retired.contains c.client = false := by
    cases c with
    | configure client r old => cases hc
    | xbpi client request timeout commandName opcode => exact (Bool.or_eq_false_iff.mp h).1
    | sbi client request timeout commandName sbiToken expectLines => exact (Bool.or_eq_false_iff.mp h).1
    | readLine client timeout => exact (Bool.or_eq_false_iff.mp h).1
    | refresh client clock => exact (Bool.or_eq_false_iff.mp h).1
  intro hmem
  rw [List.contains_iff_mem.mpr hmem] at hcontains
  cases hcontains

/-! ## The invariant -/

/-- The task keeps to what is its own, and every call that it makes will be on the client that is active then. -/
structure Pending.Resumes (p : Pending W) (t : Shared W) : Prop where
  obeys : p.task.Obeys Shared.fixed Ends
  asks : ∃ s, p.task.Asks SbiLeads Stands s ∧ SbiLeads s ≤ SbiLeads t

theorem Pending.Resumes.mono {p : Pending W} {s t : Shared W} (h : p.Resumes s) (hle : SbiLeads s ≤ SbiLeads t) :
    p.Resumes t := by
  obtain ⟨hobeys, u, hasks, hus⟩ := h
  exact ⟨hobeys, u, hasks, hus.trans hle⟩

theorem Balance.Wired.of_fixed {s t : Shared W} (h : t.fixed = s.fixed) : Balance.Wired s.host t.host where
  wiring := wiring_of_fixed h
  retired := congrArg Fixed.retired h
  nextId := (congrArg Fixed.nextId h).ge

theorem Balance.Rewired.leads {old : Session} {s t : Shared W} (h : Balance.Rewired old s.host t.host) :
    SbiLeads t := by
  obtain ⟨n, -, -, hwiring⟩ := h.client
  intro c hc
  rcases hwiring with hxbpi | hsbi
  · have hnone := congrArg (fun w => w.2.2) hxbpi
    simp [Session.wiring, hc] at hnone
  · exact activeLock_sbi (congrArg Prod.fst hsbi) hc

namespace Traffic

variable {s s' : Traffic W}

/-- The calls that hold a lock hold that of the active client; one that waits for another lock waits for a client
that is disposed. -/
structure Sound (s : Traffic W) : Prop where
  inUse : ∀ i ∈ s.shared.host.session.clients, i ∉ s.shared.host.retired
  made : ∀ i ∈ s.shared.host.session.clients ++ s.shared.host.retired, i < s.shared.host.nextId
  waiting : ∀ p ∈ s.waiting, p.Resumes s.shared ∧ (Stands p.call s.shared ∨ p.client ∈ s.shared.host.retired)
  busy : ∀ p ∈ s.busy, p.Resumes s.shared ∧ Stands p.call s.shared
  single : s.busy.length ≤ 1

theorem Begins.sound (h : Begins s) : Sound s where
  inUse := h.inUse
  made := h.made
  waiting p hp := by rw [h.waiting] at hp; cases hp
  busy p hp := by rw [h.busy] at hp; cases hp
  single := by rw [h.busy]; exact Nat.zero_le 1

/-- The clients are as they were. -/
theorem Sound.wired (h : Sound s) {t : Shared W} (ht : Balance.Wired s.shared.host t.host) :
    Sound { s with shared := t } := by
  have hclients := Session.clients_of_wiring ht.wiring
  have hleads : SbiLeads s.shared ≤ SbiLeads t := fun hs => hs.of_wiring ht.wiring
  refine ⟨fun i hi => ?_, fun i hi => ?_, fun p hp => ?_, fun p hp => ?_, h.single⟩
  · rw [hclients] at hi
    rw [ht.retired]
    exact h.inUse i hi
  · rw [hclients, ht.retired] at hi
    exact (h.made i hi).trans_le ht.nextId
  · obtain ⟨hresumes, hplace⟩ := h.waiting p hp
    exact ⟨hresumes.mono hleads, hplace.imp (·.of_wiring ht.wiring) (ht.retired ▸ ·)⟩
  · obtain ⟨hresumes, hstands⟩ := h.busy p hp
    exact ⟨hresumes.mono hleads, hstands.of_wiring ht.wiring⟩

/-- A switch that saw the clients of the session has replaced them, and all that wait are too late. -/
theorem Sound.rewired (h : Sound s) {t : Shared W} {old : Session} (hbusy : s.busy = [])
    (hold : old.wiring = s.shared.host.session.wiring) (ht : Balance.Rewired old s.shared.host t.host) :
    Sound { s with shared := t } := by
  have hclients := Session.clients_of_wiring hold
  have hretired : t.host.retired = s.shared.host.session.clients ++ s.shared.host.retired := by
    rw [ht.retired, hclients]
  obtain ⟨n, hge, hlt, hwiring⟩ := ht.client
  have hnew : t.host.session.clients = [n] := by
    rw [Session.clients_eq]
    rcases hwiring with hw | hw <;> rw [hw] <;> rfl
  refine ⟨fun i hi => ?_, fun i hi => ?_, fun p hp => ?_, fun p hp => ?_, h.single⟩
  · rw [hnew, List.mem_singleton] at hi
    subst hi
    rw [hretired]
    exact fun hmem => absurd (h.made i hmem) hge.not_gt
  · rw [hnew, hretired, List.singleton_append] at hi
    rcases List.mem_cons.mp hi with rfl | hi
    · exact hlt
    · exact (h.made i hi).trans (hge.trans_lt hlt)
  · obtain ⟨hresumes, hplace⟩ := h.waiting p hp
    refine ⟨hresumes.mono fun _ => ht.leads, .inr ?_⟩
    rw [hretired, List.mem_append]
    exact hplace.imp (fun hstands => activeLock_mem hstands.1) id
  · rw [hbusy] at hp
    cases hp

theorem Sound.settle (h : Sound s) {task : CallerTask W} {after : Shared W} (hsame : after.fixed = s.shared.fixed)
    (hobeys : task.Obeys Shared.fixed Ends) (hasks : task.Asks SbiLeads Stands after) :
    Sound (s.settle task after) := by
  have hafter : Sound { s with shared := after } := h.wired (.of_fixed hsame)
  cases task with
  | done result => exact hafter
  | ask call next k =>
      refine { hafter with waiting := fun p hp => ?_ }
      rcases List.mem_append.mp hp with hp | hp
      · exact hafter.waiting p hp
      · obtain rfl := List.mem_singleton.mp hp
        exact ⟨⟨hobeys, after, hasks, le_rfl⟩, .inl hasks.1⟩

/-- The answer to a call, which is a switch only when its turn has come. -/
theorem Sound.answer (h : Sound s) {p : Pending W} (hp : p.Resumes s.shared)
    (hswitch : ∀ old, p.call.seen? = some old → s.busy = [] ∧ old.wiring = s.shared.host.session.wiring) :
    Sound (s.answer T p) := by
  have hafter : Sound { s with shared := ((p.call.perform T).exec s.shared).2 } ∧
      SbiLeads s.shared ≤ SbiLeads ((p.call.perform T).exec s.shared).2 := by
    rcases p.call.perform_wired T s.shared with hwired | ⟨old, hseen, hrewired⟩
    · exact ⟨h.wired hwired, fun hs => hs.of_wiring hwired.wiring⟩
    · obtain ⟨hbusy, hold⟩ := hswitch old hseen
      exact ⟨h.rewired hbusy hold hrewired, fun _ => hrewired.leads⟩
  obtain ⟨hobeys, u, hasks, hle⟩ := hp
  obtain ⟨hsame, hnext, -⟩ := hobeys ((p.call.perform T).exec s.shared).1 ((p.call.perform T).exec s.shared).2
  obtain ⟨-, hrest⟩ := hasks.2 ((p.call.perform T).exec s.shared).1 _ (hle.trans hafter.2)
  exact hafter.1.settle hsame hnext hrest

theorem Sound.eraseWaiting (h : Sound s) (i : Nat) : Sound { s with waiting := s.waiting.eraseIdx i } :=
  { h with waiting := fun p hp => h.waiting p (List.mem_of_mem_eraseIdx hp) }

/-- The only busy call ends. -/
theorem Sound.eraseBusy (h : Sound s) {i : Nat} {p : Pending W} (hi : s.busy[i]? = some p) :
    Sound { s with busy := s.busy.eraseIdx i } ∧ s.busy.eraseIdx i = [] := by
  have hlt : i < s.busy.length := (List.getElem?_eq_some_iff.mp hi).1
  have hnil : s.busy.eraseIdx i = [] := by
    rw [← List.length_eq_zero_iff, List.length_eraseIdx_of_lt hlt]
    exact Nat.sub_eq_zero_of_le h.single
  refine ⟨{ h with busy := fun p hp => ?_, single := ?_ }, hnil⟩
  · rw [hnil] at hp
    cases hp
  · rw [hnil]
    exact Nat.zero_le 1

/-- A call on the active client gets the lock only when nobody holds one. -/
theorem Sound.busy_eq_nil (h : Sound s) {i client : Nat} (hfree : s.free i client = true)
    (hactive : activeLock s.shared.host.session = some client) : s.busy = [] := by
  refine List.eq_nil_iff_forall_not_mem.mpr fun q hq => ?_
  have hne := List.all_eq_true.mp hfree q (List.mem_append_right _ hq)
  have hq' := (h.busy q hq).2.1
  rw [hactive] at hq'
  exact of_decide_eq_true hne (Option.some.inj hq').symm

/-! ## What a step does -/

theorem settle_shared (task : CallerTask W) (after : Shared W) : (s.settle task after).shared = after := by
  cases task <;> rfl

theorem step_enter {i : Nat} (h : step T s (.enter i) = some s') :
    ∃ p, s.waiting[i]? = some p ∧ s.free i p.client = true ∧
      ((p.call.refused s.shared = true ∧ s' = { s with waiting := s.waiting.eraseIdx i }.answer T p) ∨
        (p.call.refused s.shared = false ∧
          s' = { s with waiting := s.waiting.eraseIdx i, busy := s.busy ++ [p] })) := by
  simp only [step] at h
  split at h
  · cases h
  rename_i p hp
  split_ifs at h with hfree hrefused
  · exact ⟨p, hp, hfree, .inl ⟨hrefused, (Option.some.inj h).symm⟩⟩
  · exact ⟨p, hp, hfree, .inr ⟨Bool.not_eq_true _ ▸ hrefused, (Option.some.inj h).symm⟩⟩

theorem step_finish {i : Nat} (h : step T s (.finish i) = some s') :
    ∃ p, s.busy[i]? = some p ∧ s' = { s with busy := s.busy.eraseIdx i }.answer T p := by
  simp only [step] at h
  split at h
  · cases h
  · rename_i p hp
    exact ⟨p, hp, (Option.some.inj h).symm⟩

theorem step_cancel {i : Nat} (h : step T s (.cancel i) = some s') :
    s' = { s with waiting := s.waiting.eraseIdx i } := by
  simp only [step] at h
  split_ifs at h
  exact (Option.some.inj h).symm

/-- A call that gets its turn at the lock and is not refused is on the active client. -/
theorem Sound.stands (h : Sound s) {i : Nat} {p : Pending W} (hp : s.waiting[i]? = some p)
    (hrefused : p.call.refused s.shared = false) (hturn : InTurn s (.enter i) = true) : Stands p.call s.shared := by
  obtain ⟨-, hstands | hretired⟩ := h.waiting p (List.mem_of_getElem? hp)
  · exact hstands
  cases hseen : p.call.seen? with
  | none => exact absurd hretired (ClientCall.notMem_retired hrefused hseen)
  | some old =>
      simp only [InTurn, hp, Option.all_some, hseen, Option.isNone_some, Bool.false_or] at hturn
      exact absurd hretired (h.inUse _ (activeLock_mem (of_decide_eq_true hturn)))

theorem Sound.step {e : Event} (h : Sound s) (hturn : InTurn s e = true) (hstep : step T s e = some s') :
    Sound s' := by
  cases e with
  | start path =>
      obtain rfl := Option.some.inj hstep
      obtain ⟨hsame, hobeys⟩ := path.caller_obeys s.shared
      exact h.settle hsame hobeys (path.caller_onActive s.shared).2
  | enter i =>
      obtain ⟨p, hp, hfree, ⟨hrefused, rfl⟩ | ⟨hrefused, rfl⟩⟩ := step_enter hstep
      · refine (h.eraseWaiting i).answer (h.waiting p (List.mem_of_getElem? hp)).1 fun old hold => ?_
        rw [ClientCall.seen?_of_refused hrefused] at hold
        cases hold
      · have hstands := h.stands hp hrefused hturn
        have hresumes := (h.waiting p (List.mem_of_getElem? hp)).1
        have hnil := h.busy_eq_nil hfree hstands.1
        refine { h.eraseWaiting i with busy := fun q hq => ?_, single := ?_ }
        · rw [hnil, List.nil_append, List.mem_singleton] at hq
          subst hq
          exact ⟨hresumes, hstands⟩
        · rw [hnil]
          exact Nat.le_refl 1
  | finish i =>
      obtain ⟨p, hp, rfl⟩ := step_finish hstep
      obtain ⟨hresumes, hstands⟩ := h.busy p (List.mem_of_getElem? hp)
      obtain ⟨hrest, hnil⟩ := h.eraseBusy hp
      exact hrest.answer hresumes fun old hold => ⟨hnil, hstands.2 old hold⟩
  | cancel i =>
      obtain rfl := step_cancel hstep
      exact h.eraseWaiting i

theorem Sound.quiet {e : Event} (h : Sound s) (hstep : Traffic.step T s e = some s') (he : ∀ i, e ≠ .finish i) :
    s'.shared.host.world = s.shared.host.world := by
  cases e with
  | start path =>
      obtain rfl := Option.some.inj hstep
      rw [settle_shared]
      exact congrArg Fixed.world (path.caller_obeys s.shared).1
  | enter i =>
      obtain ⟨p, hp, -, ⟨hrefused, rfl⟩ | ⟨-, rfl⟩⟩ := step_enter hstep
      · have hobeys := (h.waiting p (List.mem_of_getElem? hp)).1.obeys
        obtain ⟨hsame, -⟩ := hobeys ((p.call.perform T).exec s.shared).1 ((p.call.perform T).exec s.shared).2
        rw [Traffic.answer, settle_shared]
        exact (congrArg Fixed.world hsame).trans (ClientCall.perform_refused T hrefused)
      · rfl
  | finish i => exact absurd rfl (he i)
  | cancel i =>
      obtain rfl := step_cancel hstep
      rfl

theorem Sound.exclusive (T : Transport W) (h : Sound s) : Exclusive T s where
  single := h.single
  active p hp := by
    obtain ⟨-, hstands⟩ := h.busy p hp
    exact ⟨hstands.1, h.inUse _ (activeLock_mem hstands.1)⟩
  quiet _ _ hstep he := h.quiet hstep he

/-- In a run in which every switch gets the lock of the client that is active then, one call at a time exchanges bytes
with the port, and no client that was replaced does. -/
theorem exclusive_run {es : List Event} (hs : Begins s) (hturns : Guarded (step T) (fun s e => InTurn s e = true) s es)
    (hrun : run (step T) s es = some s') : Exclusive T s' :=
  (run_invariant (fun _ _ _ h hg hstep => h.step hg hstep) hs.sound hturns hrun).exclusive T

/-- A session in xBPI mode on a device that was set to print SBI lines by itself; the line arrives when the port is
opened again. -/
def switchedHost : Host SerialState where
  world :=
    { settings := { port := "COM3" },
      line := [[], [], [.chunk (encodeAsciiReplace "+    1.50 g  \r\n".toList)]] }
  session := { active := .xbpi, xbpi := some { id := 0 }, serialSettings := some { port := "COM3" } }
  nextId := 1

def toSbi : Path := .configureProtocol { target := .sbi, confirm := true, clock := [1 / 4] }

/-- `raw_sbi` with the token for the tare, which nothing answers. -/
def sendTare : Path := .executeRawSbi (.bytes Sbi.TOKEN_TARE) true none 0

theorem switchedHost_begins : Begins { shared := { host := switchedHost } } where
  waiting := rfl
  busy := rfl
  inUse := by decide
  made := by decide

/-- A switch, and a tare on the new client. -/
theorem exclusive_run_tare :
    ∃ s', run (step serialTransport) { shared := { host := switchedHost } }
        [.start toSbi, .enter 0, .finish 0, .start sendTare, .enter 0] = some s' ∧
      s'.busy.map Pending.client = [1] ∧ Exclusive serialTransport s' := by
  have hrun : (run (step serialTransport) { shared := { host := switchedHost } }
      [.start toSbi, .enter 0, .finish 0, .start sendTare, .enter 0]).any
      (fun s' => s'.busy.map Pending.client = [1]) = true := by
    decide +kernel
  obtain ⟨s', hs', hend⟩ := (Option.any_eq_true _ _).mp hrun
  have hturns : Guarded (step serialTransport) (fun s e => InTurn s e = true) { shared := { host := switchedHost } }
      [.start toSbi, .enter 0, .finish 0, .start sendTare, .enter 0] := by
    decide +kernel
  exact ⟨s', hs', of_decide_eq_true hend, exclusive_run switchedHost_begins hturns hs'⟩

/-- Of two switches that wait the first replaces the client. The second gets the lock of the old client, and while it
drains and reopens the port a tare is written through the new one. -/
theorem stale_switch_overlaps :
    ∃ s', run (step serialTransport) { shared := { host := switchedHost } }
        [.start toSbi, .start toSbi, .enter 0, .finish 0, .enter 0, .start sendTare, .enter 0] = some s' ∧
      s'.busy.map Pending.client = [0, 1] ∧ ¬ Exclusive serialTransport s' := by
  have hrun : (run (step serialTransport) { shared := { host := switchedHost } }
      [.start toSbi, .start toSbi, .enter 0, .finish 0, .enter 0, .start sendTare, .enter 0]).any
      (fun s' => s'.busy.map Pending.client = [0, 1]) = true := by
    decide +kernel
  obtain ⟨s', hs', hend⟩ := (Option.any_eq_true _ _).mp hrun
  have hbusy : s'.busy.map Pending.client = [0, 1] := of_decide_eq_true hend
  refine ⟨s', hs', hbusy, fun hexclusive => ?_⟩
  have hsingle := hexclusive.single
  rw [← List.length_map (f := Pending.client), hbusy] at hsingle
  exact absurd hsingle (by decide)

end Traffic

end SartoriusLib
