import SartoriusLib.Manager.Bookkeeping
import SartoriusLib.Streaming.Sample

/-!
# Polls while the registry changes

`poll` and `execute` run one task for each port, and a task looks its next balance up when the one before it is
done. Nothing keeps the registry as it was in the meantime, and a name that is gone ends the whole call.
-/

namespace SartoriusLib.Manager

open Lib Prog

/-! ## The registry, as others see it -/

/-- What a call of the manager does to the registry at one instant. -/
inductive Commit where
  | register (entry : DeviceEntry)
  | unregister (name : String)
  deriving DecidableEq, Repr

def Commit.apply (devices : Dict String DeviceEntry) : Commit → Option (Dict String DeviceEntry)
  | .register entry => if (devices.get? entry.name).isSome then none else some (devices.set entry.name entry)
  | .unregister name => if (devices.get? name).isSome then some (devices.pop name) else none

section Commits

variable {V : Type} {U : PortTransport V} {a : AddRequest} {b : Nat} {d : DeviceEntry} {p₀ p p' : Process V}

/-- The commits that lead from one registry to the other. -/
def Committed (devices devices' : Dict String DeviceEntry) : Prop :=
  ∃ commits, run Commit.apply devices commits = some devices'

theorem Committed.refl (devices : Dict String DeviceEntry) : Committed devices devices := ⟨[], rfl⟩

theorem Committed.trans {devices devices' devices'' : Dict String DeviceEntry} (h : Committed devices devices')
    (h' : Committed devices' devices'') : Committed devices devices'' := by
  obtain ⟨commits, hrun⟩ := h
  obtain ⟨commits', hrun'⟩ := h'
  refine ⟨commits ++ commits', ?_⟩
  rw [run_append, hrun]
  exact hrun'

theorem Committed.register {devices : Dict String DeviceEntry} (h : devices.get? d.name = none) :
    Committed devices (devices.set d.name d) :=
  ⟨[.register d], by simp [run, Commit.apply, h]⟩

theorem Committed.drop {devices : Dict String DeviceEntry} (h : Committed devices p.manager.devices)
    (hd : p.manager.devices.get? d.name = some d) (hdrop : Dropped d p p') : Committed devices p'.manager.devices := by
  obtain ⟨commits, hrun⟩ := h
  refine ⟨commits ++ [.unregister d.name], ?_⟩
  rw [run_append, hrun, hdrop.devices.1]
  simp [run, Commit.apply, hd]

/-- A call changes the registry by commits. -/
theorem perform_committed (U : PortTransport V) {c : Call} (hpossible : c.Possible p) (h : Tables p) :
    Committed p.manager.devices ((c.perform U).exec p).2.manager.devices := by
  cases c with
  | add a =>
      have hspec := add_spec U (a := a) hpossible h.serving
      rw [Call.perform, exec_discard]
      rcases hrun : (add U a).exec p with ⟨x | b, p'⟩
      · rw [(hspec.error rfl hrun).manager]
        exact .refl _
      · rcases hspec.ok rfl hrun with ⟨-, haccepts, rfl⟩ | ⟨k, e, hr⟩
        · exact Committed.register (d := { name := a.name, balance := b, portKey := none }) haccepts.free
        · rw [hr.devices]
          exact Committed.register (d := { name := a.name, balance := b, portKey := some k }) hr.accepts.free
  | remove name =>
      have hspec := remove_spec U name h.toServed
      rw [Call.perform]
      rcases hrun : (remove U name).exec p with ⟨x | ⟨⟩, p'⟩
      · obtain rfl := hspec.error rfl hrun
        exact .refl _
      · obtain ⟨d, hd, hdrop⟩ := hspec.ok rfl hrun
        obtain rfl := h.name name d hd
        exact (Committed.refl _).drop hd hdrop
  | close =>
      rw [Call.perform]
      rcases close_spec U (I := fun p' => Tables p' ∧ Committed p.manager.devices p'.manager.devices)
        (fun _ hp => hp.1.toServed) (fun p₁ d p₂ hp hd hdrop => ⟨hp.1.dropped hd hdrop, hp.2.drop hd hdrop⟩)
        ⟨h, .refl _⟩ with hsame | ⟨q, hend, ⟨-, hcommitted⟩, -⟩
      · rw [hsame]
        exact .refl _
      · rw [hend]
        exact hcommitted

theorem step_committed {c : Call} (h : Tables p) (hstep : step U p c = some p') :
    Committed p.manager.devices p'.manager.devices := by
  unfold step at hstep
  split at hstep
  · cases hstep
    exact perform_committed U ‹_› h
  · cases hstep

/-- So does a run of calls, in whatever state earlier calls have left the manager. -/
theorem calls_committed {earlier calls : List Call} (hnew : p₀.manager = {})
    (hearlier : run (step U) p₀ earlier = some p) (hrun : run (step U) p calls = some p') :
    Committed p.manager.devices p'.manager.devices := by
  have hkept : Kept p := run_invariant' (fun _ _ _ h hs => (step_kept h hs).1) (kept_new hnew) hearlier
  have hone : ∀ q c q', Kept q ∧ Committed p.manager.devices q.manager.devices → step U q c = some q' →
      Kept q' ∧ Committed p.manager.devices q'.manager.devices :=
    fun _ _ _ h hs => ⟨(step_kept h.1 hs).1, h.2.trans (step_committed h.1.toTables hs)⟩
  exact (run_invariant' hone ⟨hkept, .refl _⟩ hrun).2

end Commits

/-! ## The dispatch -/

inductive ErrorPolicy where
  | raise
  | ret
  deriving DecidableEq, Repr

variable {Req α : Type}

/-- An exception that a dispatch does not turn into a result. -/
inductive Escape where
  /-- `KeyError`: no such name. -/
  | name (name : String)
  /-- `KeyError`: no such balance. -/
  | balance (b : Nat)
  | raised (e : Exc)
  deriving DecidableEq, Repr

/-- What a dispatch awaits for each balance. -/
inductive Op (Req : Type) where
  | poll
  | execute (commandName : String) (requestsByName : Dict String Req) (nameByBalanceId : Dict Nat String)

/-- `_run_group`: the balance that it waits for, and the members that come after it. -/
inductive Task (Req : Type) where
  | ready (members : List String)
  | busy (member : String) (balance : Nat) (request : Option Req) (later : List String)
  | over
  deriving DecidableEq, Repr

def Task.member : Task Req → Option String
  | .busy member _ _ _ => some member
  | _ => none

def Task.isOver : Task Req → Bool
  | .over => true
  | _ => false

/-- A dispatch under way, and the registry as it is now. -/
structure Dispatch (Req α : Type) where
  op : Op Req
  devices : Dict String DeviceEntry
  tasks : List (Task Req)
  results : Dict String (DeviceResult α) := []
  errors : List SartoriusError := []
  escaped : Option Escape := none
  /-- The members whose operation was cancelled. -/
  cancelled : List String := []

def Op.label : Op Req → String
  | .poll => "poll"
  | .execute commandName _ _ => commandName

/-- The request that the balance gets. -/
def Op.request : Op Req → Nat → Except Escape (Option Req)
  | .poll, _ => .ok none
  | .execute _ requestsByName nameByBalanceId, b =>
      match nameByBalanceId.get? b with
      | none => .error (.balance b)
      | some name =>
          match requestsByName.get? name with
          | none => .error (.name name)
          | some request => .ok (some request)

namespace Dispatch

/-- The loop of `_run_group`, up to the next balance that it waits for. -/
def next (d : Dispatch Req α) : List String → Except Escape (Task Req)
  | [] => .ok .over
  | member :: later =>
      match d.devices.get? member with
      | none => .error (.name member)
      | some entry => (d.op.request entry.balance).map fun request => .busy member entry.balance request later

/-- The task group cancels the other tasks. -/
def fail (d : Dispatch Req α) (i : Nat) (x : Escape) : Dispatch Req α :=
  { d with
    tasks := d.tasks.map fun _ => .over
    escaped := some x
    cancelled := (d.tasks.eraseIdx i).filterMap Task.member }

def moveOn (d : Dispatch Req α) (i : Nat) (members : List String) : Dispatch Req α :=
  match d.next members with
  | .ok task => { d with tasks := d.tasks.set i task }
  | .error x => d.fail i x

inductive Event (α : Type) where
  | registry (c : Commit)
  /-- The task runs for the first time. -/
  | start (i : Nat)
  /-- What the task waits for is done. -/
  | finish (i : Nat) (outcome : Except Exc α)

def step (d : Dispatch Req α) : Event α → Option (Dispatch Req α)
  | .registry c => (c.apply d.devices).map fun devices => { d with devices }
  | .start i =>
      match d.tasks[i]? with
      | some (.ready members) => some (d.moveOn i members)
      | _ => none
  | .finish i outcome =>
      match d.tasks[i]? with
      | some (.busy member _ _ later) =>
          match outcome with
          | .ok value => some ({ d with results := d.results.set member (.success value) }.moveOn i later)
          | .error (.sartorius e) =>
              some ({ d with results := d.results.set member (.failure e), errors := d.errors ++ [e] }.moveOn i later)
          | .error e => some (d.fail i (.raised e))
      | _ => none

theorem run_registry {commits : List Commit} {d : Dispatch Req α} {devices : Dict String DeviceEntry}
    (h : run Commit.apply d.devices commits = some devices) :
    run step d (commits.map .registry) = some { d with devices } := by
  induction commits generalizing d with
  | nil =>
      cases h
      rfl
  | cons c commits ih =>
      obtain ⟨between, hstep, hrest⟩ := run_cons_eq_some.mp h
      rw [List.map_cons, run, step, hstep]
      exact ih hrest

/-- What the manager is asked for while the dispatch is under way is a row of its events. -/
theorem calls_are_events {V : Type} {U : PortTransport V} {p₀ p p' : Process V} {earlier calls : List Call}
    {d : Dispatch Req α} (hnew : p₀.manager = {}) (hearlier : run (Manager.step U) p₀ earlier = some p)
    (hrun : run (Manager.step U) p calls = some p') (hdevices : d.devices = p.manager.devices) :
    ∃ commits : List Commit, run step d (commits.map .registry) = some { d with devices := p'.manager.devices } := by
  obtain ⟨commits, hcommits⟩ := calls_committed hnew hearlier hrun
  exact ⟨commits, run_registry (hdevices ▸ hcommits)⟩

/-- What the call raises. -/
inductive Raised where
  /-- The exception group of the task group. -/
  | unhandled (x : Escape)
  | failed (message : String) (errors : List SartoriusError)
  deriving DecidableEq, Repr

/-- How the call ends, once its tasks are over. -/
def outcome (policy : ErrorPolicy) (d : Dispatch Req α) : Option (Except Raised (Dict String (DeviceResult α))) :=
  if d.tasks.all Task.isOver then
    match d.escaped with
    | some x => some (.error (.unhandled x))
    | none =>
        if policy = .raise ∧ d.errors ≠ [] then
          some (.error (.failed s!"manager.{d.op.label}: one or more balances failed" d.errors))
        else some (.ok d.results)
  else none

end Dispatch

/-- The names of each port, in their order. -/
def groupsOf (devices : Dict String DeviceEntry) :
    List String → Dict String (List String) → Except Escape (Dict String (List String))
  | [], groups => .ok groups
  | n :: names, groups =>
      match devices.get? n with
      | none => .error (.name n)
      | some entry =>
          let portKey := entry.portKey.getD s!"solo:{n}"
          groupsOf devices names (groups.set portKey ((groups.get? portKey).getD [] ++ [n]))

def dispatch (op : Op Req) (devices : Dict String DeviceEntry) (targets : List String) :
    Except Escape (Dispatch Req α) := do
  let groups ← groupsOf devices targets []
  pure { op, devices, tasks := groups.map fun group => .ready group.2 }

def resolveNames (devices : Dict String DeviceEntry) : Option (List String) → Except Escape (List String)
  | none => .ok (Dict.keys devices)
  | some names =>
      let unknown := (names.filter fun n => (devices.get? n).isNone).mergeSort
      if unknown ≠ [] then
        .error (.raised (.sartorius ⟨.validationError, s!"manager: unknown balance name(s) {textsRepr unknown}",
          { extra := [("unknown", .texts unknown)] }⟩))
      else .ok names

/-- A call of `poll` or `execute`. -/
inductive Invocation (Req : Type) where
  | poll (names : Option (List String))
  | execute (commandName : String) (requestsByName : Dict String Req)

def poll (devices : Dict String DeviceEntry) (names : Option (List String)) : Except Escape (Dispatch Req α) := do
  let targets ← resolveNames devices names
  dispatch .poll devices targets

def nameByBalanceId (devices : Dict String DeviceEntry) : Dict Nat String :=
  devices.foldl (fun names entry => names.set entry.2.balance entry.2.name) []

def execute (devices : Dict String DeviceEntry) (commandName : String) (requestsByName : Dict String Req) :
    Except Escape (Dispatch Req α) :=
  match (Dict.keys requestsByName).find? fun name => (devices.get? name).isNone with
  | some name =>
      .error (.raised (.sartorius ⟨.validationError, s!"manager.execute: no balance named {textRepr name}",
        { commandName := some commandName, extra := [("name", .text name)] }⟩))
  | none => dispatch (.execute commandName requestsByName (nameByBalanceId devices)) devices (Dict.keys requestsByName)

def Invocation.begin (devices : Dict String DeviceEntry) : Invocation Req → Except Escape (Dispatch Req α)
  | .poll names => Manager.poll devices names
  | .execute commandName requestsByName => Manager.execute devices commandName requestsByName

/-- The names that the call is for. -/
def Invocation.names (devices : Dict String DeviceEntry) : Invocation Req → List String
  | .poll names => names.getD (Dict.keys devices)
  | .execute _ requestsByName => Dict.keys requestsByName

/-! ## The names that are looked up -/

/-- The members that a task has not answered yet. -/
def Task.members : Task Req → List String
  | .ready members => members
  | .busy member _ _ later => member :: later
  | .over => []

/-- How many steps the task can still take. -/
def Task.size : Task Req → Nat
  | .ready members => members.length + 1
  | .busy _ _ _ later => later.length + 1
  | .over => 0

theorem Task.isOver_iff {task : Task Req} : task.isOver = true ↔ task = .over := by
  cases task <;> simp [Task.isOver]

namespace Dispatch

variable {devices : Dict String DeviceEntry} {d d' d₀ : Dispatch Req α} {i : Nat} {task task' : Task Req}
  {names members : List String}

/-- The balance has a request: it was registered when the call began, under a name that was asked for. -/
def Knows : Op Req → Nat → Prop
  | .poll, _ => True
  | .execute _ requestsByName nameByBalanceId, b =>
      ∃ name request, nameByBalanceId.get? b = some name ∧ requestsByName.get? name = some request

/-- The next member is registered, and its balance has a request. -/
def Finds (d : Dispatch Req α) (members : List String) : Prop :=
  ∀ member ∈ members.head?, ∃ entry, d.devices.get? member = some entry ∧ Knows d.op entry.balance

/-- A task finds the next of its members in the registry, and what it waited for has raised no foreign exception. -/
def Spared (d : Dispatch Req α) : Event α → Prop
  | .registry _ => True
  | .start i => ∀ members, d.tasks[i]? = some (.ready members) → d.Finds members
  | .finish i outcome => ∀ member b request later, d.tasks[i]? = some (.busy member b request later) →
      (∀ e, outcome = .error e → ∃ error, e = .sartorius error) ∧ d.Finds later

theorem knows_iff {op : Op Req} {b : Nat} : Knows op b ↔ ∃ request, op.request b = .ok request := by
  cases op with
  | poll => simp [Knows, Op.request]
  | execute commandName requestsByName nameByBalanceId =>
      rw [Knows, Op.request]
      cases hname : nameByBalanceId.get? b with
      | none => simp
      | some name => cases hrequest : requestsByName.get? name <;> simp [hrequest]

theorem next_cons {member : String} {later : List String} {entry : DeviceEntry} {request : Option Req}
    (hentry : d.devices.get? member = some entry) (hrequest : d.op.request entry.balance = .ok request) :
    d.next (member :: later) = .ok (.busy member entry.balance request later) := by
  simp [next, hentry, hrequest, Except.map]

/-- A task moves on when it finds its next member. -/
theorem next_finds (h : d.Finds members) :
    ∃ task, d.next members = .ok task ∧ task.members = members ∧ task.size ≤ members.length := by
  cases members with
  | nil => exact ⟨.over, rfl, rfl, le_rfl⟩
  | cons member later =>
      obtain ⟨entry, hentry, hknows⟩ := h member rfl
      obtain ⟨request, hrequest⟩ := knows_iff.mp hknows
      exact ⟨_, next_cons hentry hrequest, rfl, le_rfl⟩

theorem finds_of_next (h : d.next members = .ok task) : d.Finds members := by
  cases members with
  | nil => simp [Finds]
  | cons member later =>
      rw [next] at h
      cases hentry : d.devices.get? member with
      | none =>
          rw [hentry] at h
          cases h
      | some entry =>
          rw [hentry] at h
          cases hrequest : d.op.request entry.balance with
          | error x => simp [hrequest, Except.map] at h
          | ok request =>
              rintro _ ⟨⟩
              exact ⟨entry, hentry, knows_iff.mpr ⟨request, hrequest⟩⟩

theorem moveOn_finds (h : d.Finds members) : ∃ task, d.moveOn i members = { d with tasks := d.tasks.set i task } ∧
    task.members = members ∧ task.size ≤ members.length := by
  obtain ⟨task, hnext, hmembers, hsize⟩ := next_finds h
  exact ⟨task, by rw [moveOn, hnext], hmembers, hsize⟩

/-- The exception ends every task, and the call. -/
theorem fail_outcome (policy : ErrorPolicy) (d : Dispatch Req α) (i : Nat) (x : Escape) :
    (d.fail i x).outcome policy = some (.error (.unhandled x)) := by
  have hover : (d.fail i x).tasks.all Task.isOver = true := by simp [fail, Task.isOver]
  rw [outcome, if_pos hover]
  rfl

theorem moveOn_fails (h : ¬ d.Finds members) (policy : ErrorPolicy) :
    ∃ x, (d.moveOn i members).outcome policy = some (.error (.unhandled x)) := by
  rw [moveOn]
  cases hnext : d.next members with
  | ok task => exact absurd (finds_of_next hnext) h
  | error x => exact ⟨x, fail_outcome policy d i x⟩

/-! ## What a call promises -/

def pending (d : Dispatch Req α) : Nat := (d.tasks.map Task.size).sum

/-- The call has not raised and cancels nothing, and where its tasks are over it returns a result with an entry for
every name. -/
structure Survives (names : List String) (d : Dispatch Req α) : Prop where
  raises : ∀ x, d.outcome .ret ≠ some (.error x)
  cancelled : d.cancelled = []
  returns : d.pending = 0 → ∃ results, d.outcome .ret = some (.ok results)
  answered : ∀ results, d.outcome .ret = some (.ok results) → ∀ n ∈ names,
    ∃ r, results.get? n = some r ∧ ((∃ value, r = .success value) ∨ ∃ e, r = .failure e)

/-- No exception has escaped, and a name that has no entry yet still has its turn. -/
structure Sound (names : List String) (d : Dispatch Req α) : Prop where
  escaped : d.escaped = none
  cancelled : d.cancelled = []
  covers : ∀ n ∈ names, (∃ r, d.results.get? n = some r) ∨ ∃ task ∈ d.tasks, n ∈ task.members
  entries : ∀ n r, d.results.get? n = some r → (∃ value, r = .success value) ∨ ∃ e, r = .failure e

theorem Sound.outcome (h : Sound names d) :
    d.outcome .ret = if d.tasks.all Task.isOver then some (.ok d.results) else none := by
  rw [Dispatch.outcome, h.escaped]
  simp

theorem Sound.survives (h : Sound names d) : Survives names d where
  raises x := by
    rw [h.outcome]
    split <;> simp
  cancelled := h.cancelled
  returns hpending := by
    have hover : d.tasks.all Task.isOver = true := by
      rw [List.all_eq_true]
      intro task htask
      have hsize : task.size = 0 :=
        List.sum_eq_zero_iff_forall_eq_nat.mp hpending _ (List.mem_map_of_mem htask)
      cases task <;> simp [Task.size, Task.isOver] at hsize ⊢
    exact ⟨d.results, by rw [h.outcome, if_pos hover]⟩
  answered results hresults n hn := by
    rw [h.outcome] at hresults
    split at hresults
    · rename_i hover
      cases hresults
      rcases h.covers n hn with ⟨r, hr⟩ | ⟨task, htask, hmember⟩
      · exact ⟨r, hr, h.entries n r hr⟩
      · have := List.all_eq_true.mp hover task htask
        rw [Task.isOver_iff] at this
        rw [this] at hmember
        cases hmember
    · cases hresults

/-- A task that moves on: what it had to answer is answered, or still to come. -/
theorem Sound.set {results : Dict String (DeviceResult α)} {errors : List SartoriusError} (h : Sound names d)
    (htask : d.tasks[i]? = some task)
    (hcovers : ∀ n ∈ task.members, (∃ r, results.get? n = some r) ∨ n ∈ task'.members)
    (hkept : ∀ n r, d.results.get? n = some r → ∃ r', results.get? n = some r')
    (hentries : ∀ n r, results.get? n = some r → (∃ value, r = .success value) ∨ ∃ e, r = .failure e) :
    Sound names { d with results, errors, tasks := d.tasks.set i task' } where
  escaped := h.escaped
  cancelled := h.cancelled
  covers n hn := by
    rcases h.covers n hn with ⟨r, hr⟩ | ⟨other, hother, hmember⟩
    · exact .inl (hkept n r hr)
    · obtain ⟨j, hj, rfl⟩ := List.mem_iff_getElem.mp hother
      by_cases hij : i = j
      · subst hij
        rw [List.getElem?_eq_getElem hj, Option.some.injEq] at htask
        rw [htask] at hmember
        rcases hcovers n hmember with hr | hmember
        · exact .inl hr
        · exact .inr ⟨task', List.mem_of_getElem? (i := i) (by simp [hj]), hmember⟩
      · refine .inr ⟨d.tasks[j], List.mem_of_getElem? (i := j) ?_, hmember⟩
        rw [List.getElem?_set_ne hij, List.getElem?_eq_getElem hj]
  entries := hentries

/-! ## Every step -/

theorem spared_ok {member : String} {b : Nat} {request : Option Req} {later : List String} {value : α}
    (htask : d.tasks[i]? = some (.busy member b request later)) (hfinds : d.Finds later) :
    d.Spared (.finish i (.ok value)) := by
  intro member' b' request' later' htask'
  rw [htask] at htask'
  cases htask'
  exact ⟨fun _ he => (by cases he), hfinds⟩

/-- A step of a task: it begins, or what it waited for is done. -/
def Event.IsMove : Event α → Prop
  | .registry _ => False
  | _ => True

theorem Sound.start (h : Sound names d) (htask : d.tasks[i]? = some (.ready members)) (hfinds : d.Finds members) :
    Sound names (d.moveOn i members) := by
  obtain ⟨task', hmove, hmembers, -⟩ := moveOn_finds (i := i) hfinds
  rw [hmove]
  exact h.set htask (fun n hn => .inr (by rw [hmembers]; exact hn)) (fun n r hr => ⟨r, hr⟩) h.entries

theorem Sound.finish {member : String} {b : Nat} {request : Option Req} {later : List String}
    {result : DeviceResult α} {errors : List SartoriusError} (h : Sound names d)
    (htask : d.tasks[i]? = some (.busy member b request later)) (hfinds : d.Finds later)
    (hresult : (∃ value, result = .success value) ∨ ∃ e, result = .failure e) :
    Sound names ({ d with results := d.results.set member result, errors }.moveOn i later) := by
  obtain ⟨task', hmove, hmembers, -⟩ :=
    moveOn_finds (i := i) (d := { d with results := d.results.set member result, errors }) hfinds
  rw [hmove]
  refine h.set htask (fun n hn => ?_) (fun n r hr => ?_) fun n r hr => ?_
  · rcases List.mem_cons.mp hn with rfl | hn
    · exact .inl ⟨result, Dict.get?_set_self ..⟩
    · exact .inr (by rw [hmembers]; exact hn)
  · rw [Dict.get?_set]
    split
    · exact ⟨result, rfl⟩
    · exact ⟨r, hr⟩
  · rw [Dict.get?_set] at hr
    split at hr
    · cases hr
      exact hresult
    · exact h.entries n r hr

theorem step_sound {ev : Event α} (h : Sound names d) (hg : d.Spared ev) (hstep : d.step ev = some d') :
    Sound names d' := by
  cases ev with
  | registry c =>
      obtain ⟨devices, -, rfl⟩ := Option.map_eq_some_iff.mp hstep
      exact ⟨h.escaped, h.cancelled, h.covers, h.entries⟩
  | start i =>
      rw [step] at hstep
      split at hstep
      · cases hstep
        exact h.start ‹_› (hg _ ‹_›)
      · cases hstep
  | finish i outcome =>
      rw [step] at hstep
      split at hstep
      · rename_i member b request later htask
        obtain ⟨hforeign, hfinds⟩ := hg member b request later htask
        cases outcome with
        | ok value =>
            cases hstep
            exact h.finish htask hfinds (.inl ⟨value, rfl⟩)
        | error e =>
            obtain ⟨e, rfl⟩ := hforeign e rfl
            cases hstep
            exact h.finish htask hfinds (.inr ⟨e, rfl⟩)
      · cases hstep

/-- A step that is not spared ends the call with an exception. -/
theorem step_raises {ev : Event α} (hg : ¬ d.Spared ev) (hstep : d.step ev = some d') :
    ∃ x, d'.outcome .ret = some (.error (.unhandled x)) := by
  cases ev with
  | registry c => exact absurd trivial hg
  | start i =>
      rw [step] at hstep
      split at hstep
      · rename_i members htask
        cases hstep
        refine moveOn_fails (fun hfinds => hg fun members' htask' => ?_) .ret
        rw [htask] at htask'
        cases htask'
        exact hfinds
      · cases hstep
  | finish i outcome =>
      rw [step] at hstep
      split at hstep
      · rename_i member b request later htask
        have hspared : (∀ e, outcome = .error e → ∃ error, e = .sartorius error) → ¬ d.Finds later := by
          refine fun hforeign hfinds => hg fun member' b' request' later' htask' => ?_
          rw [htask] at htask'
          cases htask'
          exact ⟨hforeign, hfinds⟩
        cases outcome with
        | ok value =>
            cases hstep
            have hlost : ¬ d.Finds later := hspared fun e he => by cases he
            exact moveOn_fails (d := { d with results := d.results.set member (.success value) }) hlost .ret
        | error e =>
            cases e with
            | sartorius e =>
                cases hstep
                have hlost : ¬ d.Finds later := hspared fun _ he => ⟨e, (Except.error.inj he).symm⟩
                exact moveOn_fails
                  (d := { d with results := d.results.set member (.failure e), errors := d.errors ++ [e] }) hlost .ret
            | _ =>
                cases hstep
                exact ⟨_, fail_outcome .ret d i _⟩
      · cases hstep

/-! ## Every step brings the end nearer -/

theorem sum_set_size {tasks : List (Task Req)} (task' : Task Req) (h : tasks[i]? = some task) :
    ((tasks.set i task').map Task.size).sum + task.size = (tasks.map Task.size).sum + task'.size := by
  induction tasks generalizing i with
  | nil => cases h
  | cons first tasks ih =>
      cases i with
      | zero =>
          cases h
          simp only [List.set_cons_zero, List.map_cons, List.sum_cons]
          omega
      | succ i =>
          have := ih h
          simp only [List.set_cons_succ, List.map_cons, List.sum_cons]
          omega

theorem pending_fail (d : Dispatch Req α) (i : Nat) (x : Escape) : (d.fail i x).pending = 0 := by
  simp [pending, fail, Task.size]

theorem pending_pos (htask : d.tasks[i]? = some task) (hsize : 0 < task.size) : 0 < d.pending := by
  have hsum := sum_set_size .over htask
  have hover : (Task.over : Task Req).size = 0 := rfl
  rw [pending]
  omega

theorem pending_moveOn {d₁ : Dispatch Req α} (htasks : d₁.tasks = d.tasks) (htask : d.tasks[i]? = some task)
    (hsize : members.length < task.size) : (d₁.moveOn i members).pending < d.pending := by
  by_cases hfinds : d₁.Finds members
  · obtain ⟨task', hmove, -, hle⟩ := moveOn_finds (i := i) hfinds
    have hsum := sum_set_size task' htask
    rw [hmove]
    simp only [pending, htasks]
    omega
  · rw [moveOn]
    cases hnext : d₁.next members with
    | ok task => exact absurd (finds_of_next hnext) hfinds
    | error x =>
        dsimp only
        rw [pending_fail]
        exact pending_pos htask (Nat.zero_lt_of_lt hsize)

/-- Every step of a task leaves fewer of them. -/
theorem step_pending {ev : Event α} (hmove : ev.IsMove) (hstep : d.step ev = some d') : d'.pending < d.pending := by
  cases ev with
  | registry c => cases hmove
  | start i =>
      rw [step] at hstep
      split at hstep
      · cases hstep
        exact pending_moveOn rfl ‹_› (Nat.lt_succ_self _)
      · cases hstep
  | finish i outcome =>
      rw [step] at hstep
      split at hstep
      · rename_i member b request later htask
        have hsize : later.length < (Task.busy member b request later).size := Nat.lt_succ_self _
        cases outcome with
        | ok value =>
            cases hstep
            exact pending_moveOn rfl htask hsize
        | error e =>
            cases e with
            | sartorius e =>
                cases hstep
                exact pending_moveOn rfl htask hsize
            | _ =>
                cases hstep
                rw [pending_fail]
                exact pending_pos htask (Nat.zero_lt_of_lt hsize)
      · cases hstep

/-! ## Every run -/

theorem groupsOf_known (groups : Dict String (List String)) (h : ∀ n ∈ names, (devices.get? n).isSome) :
    ∃ groups', groupsOf devices names groups = .ok groups' ∧
      ∀ n, (n ∈ names ∨ ∃ k ms, groups.get? k = some ms ∧ n ∈ ms) → ∃ k ms, groups'.get? k = some ms ∧ n ∈ ms := by
  induction names generalizing groups with
  | nil =>
      refine ⟨groups, rfl, fun n hn => hn.resolve_left ?_⟩
      exact List.not_mem_nil
  | cons name names ih =>
      obtain ⟨entry, hentry⟩ := Option.isSome_iff_exists.mp (h name List.mem_cons_self)
      obtain ⟨groups', hgroups, hcovers⟩ := ih (groups.set (entry.portKey.getD s!"solo:{name}")
        ((groups.get? (entry.portKey.getD s!"solo:{name}")).getD [] ++ [name]))
        fun n hn => h n (List.mem_cons_of_mem _ hn)
      refine ⟨groups', by rw [groupsOf, hentry]; exact hgroups, fun n hn => hcovers n ?_⟩
      rcases hn with hn | ⟨k, ms, hk, hmem⟩
      · rcases List.mem_cons.mp hn with rfl | hn
        · exact .inr ⟨_, _, Dict.get?_set_self .., List.mem_append_right _ List.mem_cons_self⟩
        · exact .inl hn
      · by_cases hsame : k = entry.portKey.getD s!"solo:{name}"
        · subst hsame
          exact .inr ⟨_, _, Dict.get?_set_self .., List.mem_append_left _ (by rw [hk]; exact hmem)⟩
        · exact .inr ⟨k, ms, by rw [Dict.get?_set_ne _ hsame, hk], hmem⟩

theorem dispatch_known (op : Op Req) (h : ∀ n ∈ names, (devices.get? n).isSome) :
    ∃ d₀ : Dispatch Req α, dispatch op devices names = .ok d₀ ∧ Sound names d₀ := by
  obtain ⟨groups, hgroups, hcovers⟩ := groupsOf_known [] h
  refine ⟨_, by rw [dispatch, hgroups]; rfl, rfl, rfl, fun n hn => .inr ?_, fun _ _ hr => by cases hr⟩
  obtain ⟨k, ms, hk, hmem⟩ := hcovers n (.inl hn)
  exact ⟨.ready ms, List.mem_map.mpr ⟨(k, ms), Dict.mem_of_get? hk, rfl⟩, hmem⟩

/-- A call for registered names begins. -/
theorem begin_known {call : Invocation Req} (h : ∀ n ∈ call.names devices, (devices.get? n).isSome) :
    ∃ d₀ : Dispatch Req α, call.begin devices = .ok d₀ ∧ Sound (call.names devices) d₀ := by
  cases call with
  | poll names =>
      have hresolve : resolveNames devices names = .ok ((Invocation.poll names : Invocation Req).names devices) := by
        cases names with
        | none => rfl
        | some names =>
            have hunknown : names.filter (fun n => (devices.get? n).isNone) = [] := by
              rw [List.filter_eq_nil_iff]
              intro n hn
              simpa [Option.isSome_iff_ne_none] using h n hn
            simp [resolveNames, hunknown, Invocation.names]
      obtain ⟨d₀, hd₀, hsound⟩ := dispatch_known (α := α) .poll h
      exact ⟨d₀, by rw [Invocation.begin, Manager.poll, hresolve]; exact hd₀, hsound⟩
  | execute commandName requestsByName =>
      have hfind : (Dict.keys requestsByName).find? (fun name => (devices.get? name).isNone) = none := by
        rw [List.find?_eq_none]
        intro n hn
        simpa [Option.isSome_iff_ne_none] using h n hn
      obtain ⟨d₀, hd₀, hsound⟩ := dispatch_known (α := α) (.execute commandName requestsByName
        (nameByBalanceId devices)) h
      exact ⟨d₀, by rw [Invocation.begin, Manager.execute, hfind]; exact hd₀, hsound⟩

/-- A call for registered names survives every run in which a task finds the next of its members registered, with a
request for its balance, and the operations raise only errors of the library; a step that breaks this breaks the call.
No run has more steps of its tasks than are pending. -/
theorem dispatch_survives {call : Invocation Req}
    (hknown : ∀ n ∈ call.names devices, (devices.get? n).isSome) :
    ∃ d₀ : Dispatch Req α, call.begin devices = .ok d₀ ∧
      ∀ events d, Guarded step Spared d₀ events → run step d₀ events = some d →
        Survives (call.names devices) d ∧ ∀ ev d', d.step ev = some d' →
          (Survives (call.names devices) d' ↔ d.Spared ev) ∧ (ev.IsMove → d'.pending < d.pending) := by
  obtain ⟨d₀, hbegin, hsound⟩ := begin_known (α := α) hknown
  refine ⟨d₀, hbegin, fun events d hg hrun => ?_⟩
  have hd : Sound (call.names devices) d := run_invariant (fun _ _ _ h hg hs => step_sound h hg hs) hsound hg hrun
  refine ⟨hd.survives, fun ev d' hstep => ⟨⟨fun hs => ?_, fun hg => (step_sound hd hg hstep).survives⟩,
    fun hmove => step_pending hmove hstep⟩⟩
  by_contra hg
  obtain ⟨x, hx⟩ := step_raises hg hstep
  exact hs.raises _ hx

/-- Two balances share a port, and the third has its own. -/
def threeDevices : Dict String DeviceEntry :=
  [("a", { name := "a", balance := 0, portKey := some "COM3" }),
    ("b", { name := "b", balance := 1, portKey := some "COM3" }),
    ("c", { name := "c", balance := 2, portKey := some "COM4" })]

/-- A command for two balances on one port. -/
def twoTares : Dispatch Nat Nat where
  op := .execute "tare" [("a", 10), ("b", 20)] (nameByBalanceId threeDevices)
  devices := threeDevices
  tasks := [.ready ["a", "b"]]

/-- "a" is removed while its command is executed. -/
theorem dispatch_survives_removal : ∃ d : Dispatch Nat Nat,
    (Invocation.execute "tare" [("a", 10), ("b", 20)]).begin threeDevices = .ok twoTares ∧
      run step twoTares [.start 0, .registry (.unregister "a"), .finish 0 (.ok 1), .finish 0 (.ok 2)] = some d ∧
      Survives ["a", "b"] d := by
  have hguarded : Guarded step Spared twoTares
      [.start 0, .registry (.unregister "a"), .finish 0 (.ok 1), .finish 0 (.ok 2)] := by
    refine ⟨?_, ?_⟩
    · rintro _ ⟨⟩ _ ⟨⟩
      exact ⟨_, rfl, _, _, rfl, rfl⟩
    rintro _ ⟨⟩
    refine ⟨trivial, ?_⟩
    rintro _ ⟨⟩
    refine ⟨spared_ok rfl ?_, ?_⟩
    · rintro _ ⟨⟩
      exact ⟨_, rfl, _, _, rfl, rfl⟩
    rintro _ ⟨⟩
    refine ⟨spared_ok rfl ?_, fun _ _ => trivial⟩
    rintro _ ⟨⟩
  have hknown : ∀ n ∈ (Invocation.execute "tare" [("a", 10), ("b", 20)]).names threeDevices,
      (threeDevices.get? n).isSome := by
    decide
  obtain ⟨d₀, hbegin, hruns⟩ := dispatch_survives (α := Nat) hknown
  have hsame : (Invocation.execute "tare" [("a", 10), ("b", 20)]).begin threeDevices = .ok twoTares := rfl
  obtain rfl : d₀ = twoTares := Except.ok.inj (hbegin.symm.trans hsame)
  exact ⟨_, hsame, rfl, (hruns _ _ hguarded rfl).1⟩

/-- "b" is removed before its turn: the call raises, and the poll of "c" is cancelled. -/
theorem removal_cancels : ∃ d₀ d : Dispatch Unit Nat,
    (Invocation.poll none).begin threeDevices = .ok d₀ ∧
      run step d₀ [.start 0, .start 1, .registry (.unregister "b"), .finish 0 (.ok 1)] = some d ∧
      d.outcome .ret = some (.error (.unhandled (.name "b"))) ∧ d.cancelled = ["c"] ∧
      ¬ Survives (Dict.keys threeDevices) d :=
  ⟨_, _, rfl, rfl, rfl, rfl, fun hs => hs.raises _ rfl⟩

end Dispatch

end SartoriusLib.Manager
