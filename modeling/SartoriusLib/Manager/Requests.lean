import SartoriusLib.Manager.Dispatch
import Mathlib.Data.List.Induction

/-!
# The request of each device

`execute` finds the request of a balance through the names by balance: not by the name that the task is at, but by
the name under which the balance was registered last. The ledger below keeps which operations were done.
-/

namespace SartoriusLib.Manager

open Lib

variable {Req α : Type}

/-! ## The ledger -/

/-- An operation that is done: for which name, on which balance, with which request. -/
structure Operation (Req α : Type) where
  member : String
  balance : Nat
  request : Option Req
  outcome : Except Exc α

/-- The entry that an outcome gets; an exception of another kind gets none. -/
def resultOf : Except Exc α → Option (DeviceResult α)
  | .ok value => some (.success value)
  | .error (.sartorius e) => some (.failure e)
  | .error _ => none

structure Ledger (Req α : Type) where
  dispatch : Dispatch Req α
  operations : List (Operation Req α) := []

namespace Ledger

open Dispatch

/-- The operation that a step ends. -/
def note (l : Ledger Req α) : Dispatch.Event α → List (Operation Req α)
  | .finish i outcome =>
      match l.dispatch.tasks[i]? with
      | some (.busy member balance request _) => [{ member, balance, request, outcome }]
      | _ => []
  | _ => []

def step (l : Ledger Req α) (ev : Dispatch.Event α) : Option (Ledger Req α) :=
  (l.dispatch.step ev).map fun dispatch => { dispatch, operations := l.operations ++ l.note ev }

/-! ## What an operation is for -/

/-- The balance of this name, with the request that the call has for it. -/
def Own (op : Op Req) (devices : Dict String DeviceEntry) (member : String) (balance : Nat)
    (request : Option Req) : Prop :=
  ∃ entry, devices.get? member = some entry ∧ balance = entry.balance ∧ op.request entry.balance = .ok request

/-- The name can have its turn. -/
def Answers (op : Op Req) (devices : Dict String DeviceEntry) (name : String) : Prop :=
  ∃ balance request, Own op devices name balance request

/-- A task at its next member: it has the request of this member, or the name has no turn. -/
theorem next_cases (d : Dispatch Req α) (members : List String) :
    (∃ task, d.next members = .ok task ∧ task.members = members ∧
      ∀ member balance request later, task = .busy member balance request later →
        Own d.op d.devices member balance request) ∨
    ∃ x, d.next members = .error x ∧ ∃ name ∈ members, ¬ Answers d.op d.devices name := by
  cases members with
  | nil => exact .inl ⟨.over, rfl, rfl, fun _ _ _ _ h => nomatch h⟩
  | cons member later =>
      cases hentry : d.devices.get? member with
      | none =>
          refine .inr ⟨.name member, by simp [Dispatch.next, hentry], member, List.mem_cons_self, ?_⟩
          rintro ⟨_, _, entry, hentry', -⟩
          rw [hentry] at hentry'
          cases hentry'
      | some entry =>
          cases hrequest : d.op.request entry.balance with
          | error x =>
              refine .inr ⟨x, by simp [Dispatch.next, hentry, hrequest, Except.map], member, List.mem_cons_self, ?_⟩
              rintro ⟨_, request, entry', hentry', -, hrequest'⟩
              rw [hentry] at hentry'
              cases hentry'
              rw [hrequest] at hrequest'
              cases hrequest'
          | ok request =>
              refine .inl ⟨_, next_cons hentry hrequest, rfl, fun _ _ _ _ h => ?_⟩
              cases h
              exact ⟨entry, hentry, rfl, hrequest⟩

/-! ## The names that remain -/

/-- The names that the tasks have not answered. -/
def remaining (tasks : List (Task Req)) : List String := tasks.flatMap Task.members

/-- One task apart from the others. -/
theorem remaining_perm {tasks : List (Task Req)} {i : Nat} {task : Task Req} (h : tasks[i]? = some task) :
    (remaining tasks).Perm (task.members ++ remaining (tasks.eraseIdx i)) := by
  induction tasks generalizing i with
  | nil => cases h
  | cons first tasks ih =>
      cases i with
      | zero =>
          cases h
          exact List.Perm.refl _
      | succ i =>
          have hrest : (remaining tasks).Perm (task.members ++ remaining (tasks.eraseIdx i)) := ih h
          simp only [remaining, List.flatMap_cons, List.eraseIdx_cons_succ] at hrest ⊢
          refine (hrest.append_left first.members).trans ?_
          rw [← List.append_assoc, ← List.append_assoc]
          exact List.perm_append_comm.append_right _

theorem remaining_set {tasks : List (Task Req)} {i : Nat} {task : Task Req} (h : tasks[i]? = some task)
    (task' : Task Req) :
    (remaining (tasks.set i task')).Perm (task'.members ++ remaining (tasks.eraseIdx i)) := by
  have hi : i < tasks.length := (List.getElem?_eq_some_iff.mp h).1
  have hset : (tasks.set i task')[i]? = some task' := by simp [hi]
  have hperm := remaining_perm hset
  rwa [List.eraseIdx_set_eq] at hperm

/-! ## What the ledger shows -/

/-- The registry and the operation stay what they were, every operation was the own one of its name, and while nothing
has escaped each name was done once, with its entry, or still has its turn. -/
structure Audited (op : Op Req) (devices : Dict String DeviceEntry) (names : List String) (l : Ledger Req α) :
    Prop where
  opFixed : l.dispatch.op = op
  devicesFixed : l.dispatch.devices = devices
  known : ∀ o ∈ l.operations, o.member ∈ names
  own : ∀ o ∈ l.operations, Own op devices o.member o.balance o.request
  busy : ∀ member balance request later, .busy member balance request later ∈ l.dispatch.tasks →
    Own op devices member balance request
  once : l.dispatch.escaped = none →
    (l.operations.map Operation.member ++ remaining l.dispatch.tasks).Perm names
  entries : l.dispatch.escaped = none →
    ∀ o ∈ l.operations, ∃ r, resultOf o.outcome = some r ∧ l.dispatch.results.get? o.member = some r
  escaped : l.dispatch.escaped ≠ none →
    (∀ task ∈ l.dispatch.tasks, task = .over) ∧
      ((∃ o ∈ l.operations, resultOf o.outcome = none) ∨ ∃ name ∈ names, ¬ Answers op devices name)

variable {op : Op Req} {devices : Dict String DeviceEntry} {names members : List String} {l l' : Ledger Req α}
  {d : Dispatch Req α} {operations : List (Operation Req α)} {i : Nat} {task : Task Req}

/-- The task group ends. -/
theorem Audited.fail (hop : d.op = op) (hdevices : d.devices = devices)
    (hknown : ∀ o ∈ operations, o.member ∈ names)
    (hown : ∀ o ∈ operations, Own op devices o.member o.balance o.request) (i : Nat) (x : Escape)
    (hcause : (∃ o ∈ operations, resultOf o.outcome = none) ∨ ∃ name ∈ names, ¬ Answers op devices name) :
    Audited op devices names { dispatch := d.fail i x, operations } where
  opFixed := hop
  devicesFixed := hdevices
  known := hknown
  own := hown
  busy member balance request later hin := by
    obtain ⟨_, -, h⟩ := List.mem_map.mp hin
    cases h
  once h := nomatch h
  entries h := nomatch h
  escaped _ := by
    refine ⟨fun task hin => ?_, hcause⟩
    obtain ⟨_, -, rfl⟩ := List.mem_map.mp hin
    rfl

/-- A task moves on to `members`, after the operations that are done. -/
theorem Audited.moveOn (hop : d.op = op) (hdevices : d.devices = devices)
    (hown : ∀ o ∈ operations, Own op devices o.member o.balance o.request)
    (hbusy : ∀ member balance request later, .busy member balance request later ∈ d.tasks →
      Own op devices member balance request)
    (hescaped : d.escaped = none) (htask : d.tasks[i]? = some task)
    (honce : (operations.map Operation.member ++ (members ++ remaining (d.tasks.eraseIdx i))).Perm names)
    (hentries : ∀ o ∈ operations, ∃ r, resultOf o.outcome = some r ∧ d.results.get? o.member = some r) :
    Audited op devices names { dispatch := d.moveOn i members, operations } := by
  have hknown : ∀ o ∈ operations, o.member ∈ names := fun o ho =>
    honce.subset (List.mem_append_left _ (List.mem_map_of_mem ho))
  rcases next_cases d members with ⟨task', hnext, hmembers, hnew⟩ | ⟨x, hnext, name, hname, hlost⟩
  · rw [Dispatch.moveOn, hnext]
    exact
      { opFixed := hop
        devicesFixed := hdevices
        known := hknown
        own := hown
        busy := fun member balance request later hin => by
          rcases List.mem_or_eq_of_mem_set hin with hin | heq
          · exact hbusy member balance request later hin
          · exact hop ▸ hdevices ▸ hnew member balance request later heq.symm
        once := fun _ => by
          have hset := remaining_set htask task'
          rw [hmembers] at hset
          exact (hset.append_left _).trans honce
        entries := fun _ => hentries
        escaped := fun h => absurd hescaped h }
  · rw [Dispatch.moveOn, hnext]
    have hin : name ∈ names :=
      honce.subset (List.mem_append_right _ (List.mem_append_left _ hname))
    exact .fail hop hdevices hknown hown i x (.inr ⟨name, hin, hop ▸ hdevices ▸ hlost⟩)

/-- A task that still has something to do shows that nothing has escaped. -/
theorem Audited.running (h : Audited op devices names l) (htask : l.dispatch.tasks[i]? = some task)
    (hne : task ≠ .over) : l.dispatch.escaped = none := by
  by_contra hescaped
  exact hne ((h.escaped hescaped).1 task (List.mem_of_getElem? htask))

theorem Audited.start (h : Audited op devices names l) (htask : l.dispatch.tasks[i]? = some (.ready members)) :
    Audited op devices names { dispatch := l.dispatch.moveOn i members, operations := l.operations } := by
  have hescaped := h.running htask (by simp)
  refine .moveOn h.opFixed h.devicesFixed h.own h.busy hescaped htask ?_ (h.entries hescaped)
  have hperm := remaining_perm htask
  exact (hperm.symm.append_left _).trans (h.once hescaped)

/-- An operation that is done, with an entry for its name. -/
theorem Audited.finish (h : Audited op devices names l) (hnames : names.Nodup) {member : String} {balance : Nat}
    {request : Option Req} {later : List String} {outcome : Except Exc α} {r : DeviceResult α}
    (htask : l.dispatch.tasks[i]? = some (.busy member balance request later)) (hr : resultOf outcome = some r)
    (errors : List SartoriusError) :
    Audited op devices names
      { dispatch := { l.dispatch with results := l.dispatch.results.set member r, errors }.moveOn i later,
        operations := l.operations ++ [{ member, balance, request, outcome }] } := by
  have hescaped := h.running htask (by simp)
  have honce : (l.operations.map Operation.member ++ (member :: later ++
      remaining (l.dispatch.tasks.eraseIdx i))).Perm names :=
    ((remaining_perm htask).symm.append_left _).trans (h.once hescaped)
  refine .moveOn (d := { l.dispatch with results := l.dispatch.results.set member r, errors }) h.opFixed h.devicesFixed
    (fun o ho => ?_) h.busy hescaped htask ?_ fun o ho => ?_
  · rcases List.mem_append.mp ho with ho | ho
    · exact h.own o ho
    · rw [List.mem_singleton.mp ho]
      exact h.busy member balance request later (List.mem_of_getElem? htask)
  · simpa [List.append_assoc] using honce
  · rcases List.mem_append.mp ho with ho | ho
    · -- no name is done twice
      have hne : o.member ≠ member := by
        intro heq
        have hdisjoint := (List.nodup_append.mp (honce.nodup_iff.mpr hnames)).2.2
        exact hdisjoint o.member (List.mem_map_of_mem ho) member (by simp) heq
      obtain ⟨r', hr', hget⟩ := h.entries hescaped o ho
      exact ⟨r', hr', by rw [Dict.get?_set_ne _ hne]; exact hget⟩
    · rw [List.mem_singleton.mp ho]
      exact ⟨r, hr, Dict.get?_set_self ..⟩

theorem Audited.step (h : Audited op devices names l) (hnames : names.Nodup) {ev : Dispatch.Event α}
    (hmove : ev.IsMove) (hs : l.step ev = some l') : Audited op devices names l' := by
  obtain ⟨d', hd', rfl⟩ := Option.map_eq_some_iff.mp hs
  cases ev with
  | registry c => cases hmove
  | start i =>
      rw [Dispatch.step] at hd'
      split at hd'
      · cases hd'
        simpa [note] using h.start ‹_›
      · cases hd'
  | finish i outcome =>
      rw [Dispatch.step] at hd'
      split at hd'
      · rename_i member balance request later htask
        have hnote : l.note (.finish i outcome) = [{ member, balance, request, outcome }] := by
          simp only [note, htask]
        rw [hnote]
        -- an exception of another kind ends the group
        have hforeign : ∀ x, resultOf outcome = none → Audited op devices names
            { dispatch := l.dispatch.fail i x,
              operations := l.operations ++ [{ member, balance, request, outcome }] } := by
          intro x hnone
          have hescaped := h.running htask (by simp)
          refine .fail h.opFixed h.devicesFixed (fun o ho => ?_) (fun o ho => ?_) i x
            (.inl ⟨_, List.mem_append_right _ (List.mem_singleton_self _), hnone⟩)
          · rcases List.mem_append.mp ho with ho | ho
            · exact h.known o ho
            · rw [List.mem_singleton.mp ho]
              refine (h.once hescaped).subset (List.mem_append_right _ ?_)
              exact (remaining_perm htask).symm.subset (by simp [Task.members])
          · rcases List.mem_append.mp ho with ho | ho
            · exact h.own o ho
            · rw [List.mem_singleton.mp ho]
              exact h.busy member balance request later (List.mem_of_getElem? htask)
        cases outcome with
        | ok value =>
            cases hd'
            exact h.finish hnames htask rfl _
        | error e =>
            cases e with
            | sartorius e =>
                cases hd'
                exact h.finish hnames htask rfl _
            | _ =>
                cases hd'
                exact hforeign _ rfl
      · cases hd'

theorem Audited.run (h : Audited op devices names l) (hnames : names.Nodup) {events : List (Dispatch.Event α)}
    (hmoves : ∀ ev ∈ events, ev.IsMove) (hr : run Ledger.step l events = some l') : Audited op devices names l' := by
  induction events generalizing l with
  | nil => exact Option.some.inj hr ▸ h
  | cons ev events ih =>
      obtain ⟨t, ht, hr⟩ := run_cons_eq_some.mp hr
      have hnext := h.step hnames (hmoves ev List.mem_cons_self) ht
      exact ih hnext (fun ev' hin => hmoves ev' (List.mem_cons_of_mem _ hin)) hr

/-! ## The beginning -/

/-- A name that joins its group joins the names. -/
theorem flatMap_set_perm (groups : Dict String (List String)) (k n : String) :
    ((groups.set k ((groups.get? k).getD [] ++ [n])).flatMap Prod.snd).Perm (groups.flatMap Prod.snd ++ [n]) := by
  induction groups with
  | nil => simp [Dict.set]
  | cons group groups ih =>
      obtain ⟨k', ms⟩ := group
      rw [Dict.get?_cons]
      by_cases hk : k = k'
      · subst hk
        simp only [Dict.set, if_true, Option.getD_some, List.flatMap_cons, List.append_assoc]
        exact List.perm_append_comm.append_left ms
      · simp only [Dict.set, hk, if_false, List.flatMap_cons, List.append_assoc]
        exact ih.append_left ms

theorem groupsOf_perm {groups groups' : Dict String (List String)}
    (h : groupsOf devices names groups = .ok groups') :
    (groups'.flatMap Prod.snd).Perm (groups.flatMap Prod.snd ++ names) := by
  induction names generalizing groups with
  | nil =>
      cases h
      simp
  | cons name names ih =>
      rw [groupsOf] at h
      split at h
      · cases h
      · have hperm := (ih h).trans ((flatMap_set_perm groups _ name).append_right names)
        simpa [List.append_assoc] using hperm

theorem Audited.dispatch {d : Dispatch Req α} (h : Manager.dispatch op devices names = .ok d) :
    Audited op devices names { dispatch := d } := by
  rw [Manager.dispatch] at h
  cases hgroups : groupsOf devices names [] with
  | error x =>
      rw [hgroups] at h
      cases h
  | ok groups =>
      rw [hgroups] at h
      cases h
      exact
        { opFixed := rfl
          devicesFixed := rfl
          known := fun _ ho => by cases ho
          own := fun _ ho => by cases ho
          busy := fun member balance request later hin => by
            obtain ⟨_, -, h⟩ := List.mem_map.mp hin
            cases h
          once := fun _ => by
            have hperm := groupsOf_perm hgroups
            simpa [remaining, List.flatMap_map, Task.members] using hperm
          entries := fun _ _ ho => by cases ho
          escaped := fun h => absurd rfl h }

/-! ## The name of a balance -/

/-- The entry that was registered last for the balance. -/
def lastFor (devices : Dict String DeviceEntry) (b : Nat) : Option DeviceEntry :=
  (devices.reverse.find? fun e => e.2.balance = b).map Prod.snd

theorem nameByBalanceId_get? (devices : Dict String DeviceEntry) (b : Nat) :
    (nameByBalanceId devices).get? b = (lastFor devices b).map DeviceEntry.name := by
  induction devices using List.reverseRecOn with
  | nil => rfl
  | append_singleton devices e ih =>
      have hset : nameByBalanceId (devices ++ [e]) = (nameByBalanceId devices).set e.2.balance e.2.name := by
        simp [nameByBalanceId, List.foldl_append]
      rw [hset, Dict.get?_set, lastFor, List.reverse_append, List.reverse_singleton, List.singleton_append,
        List.find?_cons]
      by_cases hb : b = e.2.balance
      · simp [hb]
      · have hb' : ¬ e.2.balance = b := fun h => hb h.symm
        simpa [hb, hb', lastFor] using ih

/-- The name whose request the balance gets has the request of this name. -/
def Agrees (devices : Dict String DeviceEntry) (requestsByName : Dict String Req) (name : String) : Prop :=
  ∀ entry, devices.get? name = some entry →
    ∃ last, lastFor devices entry.balance = some last ∧ requestsByName.get? last.name = requestsByName.get? name

variable {requestsByName : Dict String Req} {commandName name : String} {entry : DeviceEntry} {request : Req}

/-- The operation of a name, in terms of the registry. -/
theorem request_eq_ok_iff {b : Nat} {request : Option Req} :
    (Op.execute commandName requestsByName (nameByBalanceId devices)).request b = .ok request ↔
      ∃ last r, lastFor devices b = some last ∧ requestsByName.get? last.name = some r ∧ request = some r := by
  rw [Op.request, nameByBalanceId_get?]
  cases hlast : lastFor devices b with
  | none => simp
  | some last =>
      cases hr : requestsByName.get? last.name with
      | none => simp [hr]
      | some r => simp [hr, eq_comm]

theorem agrees_iff (hentry : devices.get? name = some entry) (hrequest : requestsByName.get? name = some request) :
    Agrees devices requestsByName name ↔
      (Op.execute commandName requestsByName (nameByBalanceId devices)).request entry.balance = .ok (some request) := by
  rw [request_eq_ok_iff]
  constructor
  · intro h
    obtain ⟨last, hlast, hsame⟩ := h entry hentry
    exact ⟨last, request, hlast, hsame.trans hrequest, rfl⟩
  · rintro ⟨last, r, hlast, hr, heq⟩ entry' hentry'
    cases hentry.symm.trans hentry'
    cases heq
    exact ⟨last, hlast, hr.trans hrequest.symm⟩

/-! ## Every run of a call -/

/-- Each name was done once, on its own balance and with its own request, and has the entry of that outcome. -/
structure Addressed (devices : Dict String DeviceEntry) (requestsByName : Dict String Req) (l : Ledger Req α) :
    Prop where
  each : ∀ name entry request, devices.get? name = some entry → requestsByName.get? name = some request →
    ∃ outcome result,
      l.operations.filter (fun o => o.member = name) = [⟨name, entry.balance, some request, outcome⟩] ∧
        resultOf outcome = some result ∧ l.dispatch.results.get? name = some result
  only : ∀ o ∈ l.operations, o.member ∈ Dict.keys requestsByName

theorem filter_member {operations : List (Operation Req α)} (hn : (operations.map Operation.member).Nodup)
    {o : Operation Req α} (ho : o ∈ operations) : operations.filter (fun o' => o'.member = o.member) = [o] := by
  induction operations with
  | nil => cases ho
  | cons first operations ih =>
      obtain ⟨hfresh, hrest⟩ := List.nodup_cons.mp hn
      rcases List.mem_cons.mp ho with rfl | ho
      · have hnone : operations.filter (fun o' => o'.member = o.member) = [] := by
          rw [List.filter_eq_nil_iff]
          intro o' ho' heq
          exact hfresh (of_decide_eq_true heq ▸ List.mem_map_of_mem ho')
        simp [hnone]
      · have hne : ¬ first.member = o.member := fun heq => hfresh (heq ▸ List.mem_map_of_mem ho)
        simpa [hne] using ih hrest ho

/-- Where nothing is pending the tasks are over. -/
theorem remaining_of_pending {d : Dispatch Req α} (h : d.pending = 0) : remaining d.tasks = [] := by
  rw [remaining, List.flatMap_eq_nil_iff]
  intro task htask
  have hsize : task.size = 0 := List.sum_eq_zero_iff_forall_eq_nat.mp h _ (List.mem_map_of_mem htask)
  cases task <;> simp [Task.size, Task.members] at hsize ⊢

/-- A task that is not over can take a step. -/
theorem step_of_pending (h : 0 < l.dispatch.pending) : ∃ ev l', ev.IsMove ∧ l.step ev = some l' := by
  obtain ⟨size, hsize, hpos⟩ : ∃ size ∈ l.dispatch.tasks.map Task.size, 0 < size := by
    by_contra hnone
    have hzero : (l.dispatch.tasks.map Task.size).sum = 0 :=
      List.sum_eq_zero_iff_forall_eq_nat.mpr fun size hsize => by
        by_contra hne
        exact hnone ⟨size, hsize, Nat.pos_of_ne_zero hne⟩
    rw [Dispatch.pending, hzero] at h
    exact absurd h (lt_irrefl 0)
  obtain ⟨task, hin, rfl⟩ := List.mem_map.mp hsize
  obtain ⟨i, htask⟩ := List.mem_iff_getElem?.mp hin
  cases task with
  | ready members => exact ⟨.start i, _, trivial, by rw [step, Dispatch.step, htask]; rfl⟩
  | busy member balance request later =>
      exact ⟨.finish i (.error .cancelled), _, trivial, by rw [step, Dispatch.step, htask]; rfl⟩
  | «over» => exact absurd hpos (lt_irrefl 0)

/-- At the end of a call every name got its own request exactly when the names that the lookup finds have the
requests that they stand for, and the operations raised nothing else than errors of the library. -/
theorem Audited.addressed_iff
    (h : Audited (.execute commandName requestsByName (nameByBalanceId devices)) devices (Dict.keys requestsByName) l)
    (hnames : (Dict.keys requestsByName).Nodup) (hknown : ∀ n ∈ Dict.keys requestsByName, (devices.get? n).isSome)
    (hend : l.dispatch.pending = 0) :
    Addressed devices requestsByName l ↔
      (∀ n ∈ Dict.keys requestsByName, Agrees devices requestsByName n) ∧
        ∀ o ∈ l.operations, ∃ r, resultOf o.outcome = some r := by
  have hrequests : ∀ n ∈ Dict.keys requestsByName, ∃ entry request,
      devices.get? n = some entry ∧ requestsByName.get? n = some request := by
    intro n hn
    obtain ⟨entry, hentry⟩ := Option.isSome_iff_exists.mp (hknown n hn)
    obtain ⟨request, hrequest⟩ := Option.isSome_iff_exists.mp ((Dict.get?_isSome_iff requestsByName n).mpr hn)
    exact ⟨entry, request, hentry, hrequest⟩
  constructor
  · intro ha
    constructor
    · intro n hn
      obtain ⟨entry, request, hentry, hrequest⟩ := hrequests n hn
      obtain ⟨outcome, result, hfilter, -, -⟩ := ha.each n entry request hentry hrequest
      have hin : (⟨n, entry.balance, some request, outcome⟩ : Operation Req α) ∈ l.operations :=
        List.mem_of_mem_filter (hfilter ▸ List.mem_singleton_self _)
      obtain ⟨entry', hentry', -, hown⟩ := h.own _ hin
      cases hentry.symm.trans hentry'
      exact (agrees_iff hentry hrequest).mpr hown
    · intro o ho
      obtain ⟨entry, request, hentry, hrequest⟩ := hrequests o.member (ha.only o ho)
      obtain ⟨outcome, result, hfilter, hresult, -⟩ := ha.each o.member entry request hentry hrequest
      have hin : o ∈ l.operations.filter (fun o' => o'.member = o.member) :=
        List.mem_filter.mpr ⟨ho, decide_eq_true rfl⟩
      rw [hfilter, List.mem_singleton] at hin
      exact ⟨result, by rw [hin]; exact hresult⟩
  · rintro ⟨hagrees, hlibrary⟩
    have hescaped : l.dispatch.escaped = none := by
      by_contra hescaped
      rcases (h.escaped hescaped).2 with ⟨o, ho, hnone⟩ | ⟨n, hn, hlost⟩
      · obtain ⟨r, hr⟩ := hlibrary o ho
        rw [hnone] at hr
        cases hr
      · obtain ⟨entry, request, hentry, hrequest⟩ := hrequests n hn
        exact hlost ⟨entry.balance, some request, entry, hentry, rfl,
          (agrees_iff hentry hrequest).mp (hagrees n hn)⟩
    have honce := h.once hescaped
    rw [remaining_of_pending hend, List.append_nil] at honce
    refine ⟨fun n entry request hentry hrequest => ?_, h.known⟩
    have hn : n ∈ Dict.keys requestsByName :=
      (Dict.get?_isSome_iff requestsByName n).mp (Option.isSome_iff_exists.mpr ⟨request, hrequest⟩)
    obtain ⟨o, ho, rfl⟩ := List.mem_map.mp (honce.symm.subset hn)
    obtain ⟨result, hresult, hget⟩ := h.entries hescaped o ho
    obtain ⟨entry', hentry', hbalance, hown⟩ := h.own o ho
    cases hentry.symm.trans hentry'
    have hrequest' : o.request = some request :=
      Except.ok.inj (hown.symm.trans ((agrees_iff hentry hrequest).mp (hagrees _ hn)))
    refine ⟨o.outcome, result, ?_, hresult, hget⟩
    rw [filter_member (honce.nodup_iff.mpr hnames) ho, ← hbalance, ← hrequest']

/-- A call of `execute` for registered names. While it runs some task can go on, with one step less to come, and when
it is over every name got its own request exactly under the condition above. -/
theorem execute_addressed_iff (commandName : String) (hnames : (Dict.keys requestsByName).Nodup)
    (hknown : ∀ n ∈ Dict.keys requestsByName, (devices.get? n).isSome) :
    ∃ d₀ : Dispatch Req α, Manager.execute devices commandName requestsByName = .ok d₀ ∧
      ∀ events l, (∀ ev ∈ events, Dispatch.Event.IsMove ev) → Lib.run step { dispatch := d₀ } events = some l →
        (0 < l.dispatch.pending → ∃ ev l', ev.IsMove ∧ l.step ev = some l') ∧
        (∀ ev l', ev.IsMove → l.step ev = some l' → l'.dispatch.pending < l.dispatch.pending) ∧
        (l.dispatch.pending = 0 →
          (Addressed devices requestsByName l ↔
            (∀ n ∈ Dict.keys requestsByName, Agrees devices requestsByName n) ∧
              ∀ o ∈ l.operations, ∃ r, resultOf o.outcome = some r)) := by
  obtain ⟨d₀, hbegin, -⟩ := @begin_known _ α devices (.execute commandName requestsByName) hknown
  have hbegin : Manager.execute devices commandName requestsByName = .ok d₀ := hbegin
  refine ⟨d₀, hbegin, fun events l hmoves hr => ⟨step_of_pending,
    fun ev l' hmove hs => ?_, fun hend => ?_⟩⟩
  · obtain ⟨d', hd', rfl⟩ := Option.map_eq_some_iff.mp hs
    exact step_pending hmove hd'
  · have hfind : (Dict.keys requestsByName).find? (fun n => (devices.get? n).isNone) = none := by
      rw [List.find?_eq_none]
      intro n hn
      simpa [Option.isSome_iff_ne_none] using hknown n hn
    rw [Manager.execute, hfind] at hbegin
    exact ((Audited.dispatch hbegin).run hnames hmoves hr).addressed_iff hnames hknown hend

/-- Two commands for two balances on one port. -/
theorem execute_addressed_iff_two : ∃ (d₀ : Dispatch Nat Nat) (l : Ledger Nat Nat),
    Manager.execute threeDevices "tare" [("a", 10), ("b", 20)] = .ok d₀ ∧
      Lib.run step { dispatch := d₀ } [.start 0, .finish 0 (.ok 1), .finish 0 (.ok 2)] = some l ∧
      l.dispatch.pending = 0 ∧
      (Addressed threeDevices [("a", 10), ("b", 20)] l ↔
        (∀ n ∈ ["a", "b"], Agrees threeDevices [("a", 10), ("b", 20)] n) ∧
          ∀ o ∈ l.operations, ∃ r, resultOf o.outcome = some r) := by
  obtain ⟨d₀, hbegin, hruns⟩ := @execute_addressed_iff Nat Nat threeDevices [("a", 10), ("b", 20)] "tare"
    (by decide) (by decide)
  have hsame : (Manager.execute threeDevices "tare" [("a", 10), ("b", 20)] : Except Escape (Dispatch Nat Nat)) =
      .ok twoTares := rfl
  obtain rfl : d₀ = twoTares := Except.ok.inj (hbegin.symm.trans hsame)
  have hmoves : ∀ ev ∈ ([.start 0, .finish 0 (.ok 1), .finish 0 (.ok 2)] : List (Dispatch.Event Nat)), ev.IsMove := by
    simp [Event.IsMove]
  exact ⟨_, _, hsame, rfl, rfl, (hruns _ _ hmoves rfl).2.2 rfl⟩

/-- One balance under two names. -/
def oneBalance : Dict String DeviceEntry :=
  [("a", { name := "a", balance := 0, portKey := none }), ("b", { name := "b", balance := 0, portKey := none })]

/-- The balance is sent the request of "b" twice. -/
theorem shared_balance_misaddressed : ∃ (d₀ : Dispatch Nat Nat) (l : Ledger Nat Nat),
    Manager.execute oneBalance "tare" [("a", 10), ("b", 20)] = .ok d₀ ∧
      Lib.run step { dispatch := d₀ } [.start 0, .start 1, .finish 0 (.ok 1), .finish 1 (.ok 2)] = some l ∧
      l.operations = [⟨"a", 0, some 20, .ok 1⟩, ⟨"b", 0, some 20, .ok 2⟩] ∧
      ¬ Addressed oneBalance [("a", 10), ("b", 20)] l := by
  refine ⟨_, _, rfl, rfl, rfl, fun h => ?_⟩
  obtain ⟨outcome, result, hfilter, -⟩ := h.each "a" _ 10 rfl rfl
  have hrequest : ([⟨"a", 0, some 20, .ok 1⟩] : List (Operation Nat Nat)) = [⟨"a", 0, some 10, outcome⟩] := hfilter
  simp at hrequest

end Ledger

end SartoriusLib.Manager
