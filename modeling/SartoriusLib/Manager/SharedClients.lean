import SartoriusLib.Manager.Bookkeeping
import SartoriusLib.Manager.Reconfiguring

/-!
# A shared client and a switch

The balances on a port share its client. A switch gives its own session a new client and disposes the shared
one: the other balances on the port are left with it, and so is everybody who is added later.
-/

namespace SartoriusLib.Manager

open Lib Prog

variable {V : Type} {U : PortTransport V} {a : AddRequest} {k : String} {e : PortEntry} {b : Nat} {d : DeviceEntry}
  {p p' p₀ : Process V}

/-! ## Calls on managed balances -/

inductive Event where
  | call (c : Call)
  | configureProtocol (name : String) (r : SartoriusLib.Balance.SwitchRequest)
  | setBaudRate (name : String) (wireCode : Int) (baudrate : Nat) (r : SartoriusLib.Balance.SwitchRequest)

/-- A call on the balance `get(name)` that returns. -/
def onManaged {α : Type} (name : String) (m : Py (Host (SerialState ⊕ V)) α) (p : Process V) : Option (Process V) :=
  match p.manager.devices.get? name with
  | none => none
  | some d =>
      match (onBalance d.balance m).exec p with
      | (.ok _, p') => some p'
      | (.error _, _) => none

def manage (U : PortTransport V) (p : Process V) : Event → Option (Process V)
  | .call c => step U p c
  | .configureProtocol name r =>
      onManaged name (SartoriusLib.Balance.configureProtocol (eitherPort U).toTransport r) p
  | .setBaudRate name wireCode baudrate r =>
      onManaged name (SartoriusLib.Balance.setBaudRate (eitherPort U).toTransport wireCode baudrate r) p

/-- The clients that a session refers to. -/
def clientIds (s : Session) : List Nat := s.xbpi.toList.map (·.id) ++ s.sbi.toList.map (·.id)

/-- On each port one client is held by everybody, and it is not disposed. -/
def LiveClients (p : Process V) : Prop :=
  ∀ n d k, On p n d k → ∃ client : Client, client.id ∉ p.retired ∧
    ∀ n' d', On p n' d' k → Holds client (p.balances d'.balance).session

/-- No other balance on a port refers to a client of `b`. -/
def Alone (p : Process V) (b : Nat) : Prop :=
  ∀ n d k, On p n d k → d.balance ≠ b →
    ∀ i ∈ clientIds (p.balances d.balance).session, i ∉ clientIds (p.balances b).session

/-- An `add` that passes the checks and does not identify its balance, on a port that the manager has. -/
structure Reuses (p : Process V) (a : AddRequest) (e : PortEntry) : Prop where
  accepts : Accepts p a
  port : ∃ k, a.portKey = some k ∧ p.manager.ports.get? k = some e
  protocol : e.protocol = some a.protocol
  unidentified : a.identify = false

/-- A switch is for a balance that is alone with its clients, and a balance is added unidentified only where the
client of the port is not disposed. -/
def Spared (p : Process V) : Event → Prop
  | .call (.add a) => ∀ e client, Reuses p a e → e.client = some client → client.id ∉ p.retired
  | .call _ => True
  | .configureProtocol name r => ∀ d, p.manager.devices.get? name = some d →
      (r.target = (p.balances d.balance).session.active ∧ r.noFramingChange = true) ∨ Alone p d.balance
  | .setBaudRate name _ _ _ => ∀ d, p.manager.devices.get? name = some d → Alone p d.balance

/-! ## What a call on a balance changes -/

theorem onEither_fixes {α : Type} (serial : Py SerialState α) (own : Py V α) :
    Leaves (fun w => (serialOpen w).isSome) (onEither serial own) := by
  intro w
  cases w <;> rfl

/-- A transport is of its class for good. -/
theorem eitherPort_fixes (U : PortTransport V) :
    (eitherPort U).toTransport.Fixes fun w => (serialOpen w).isSome where
  write _ _ := onEither_fixes _ _
  readExact _ _ := onEither_fixes _ _
  readUntil _ _ := onEither_fixes _ _
  drainInput := onEither_fixes _ _
  reopen _ _ _ := onEither_fixes _ _

/-- A call on the balance `b` has changed its session only. -/
structure Reconfigured (b : Nat) (p p' : Process V) : Prop where
  manager : p'.manager = p.manager
  nextTransport : p'.nextTransport = p.nextTransport
  nextBalance : p'.nextBalance = p.nextBalance
  others : ∀ b', b' ≠ b → p'.balances b' = p.balances b'
  serial : ∀ t, (serialOpen (p'.transports t)).isSome = (serialOpen (p.transports t)).isSome

/-- The session of `b` holds a new client. -/
structure Renewed (b : Nat) (p p' : Process V) : Prop where
  client : ∃ client : Client, client.id = p.nextClient ∧ Holds client (p'.balances b).session
  retired : p'.retired = clientIds (p.balances b).session ++ p.retired
  nextClient : p'.nextClient = p.nextClient + 1

structure Unchanged (b : Nat) (p p' : Process V) : Prop where
  frame : (p'.balances b).session.frame = (p.balances b).session.frame
  retired : p'.retired = p.retired
  nextClient : p'.nextClient = p.nextClient

theorem clientIds_frame {s s' : Session} (h : s'.frame = s.frame) : clientIds s' = clientIds s := by
  have hx : s'.xbpi.map (·.id) = s.xbpi.map (·.id) := congrArg Session.Frame.xbpi h
  have hb : s'.sbi.map (·.id) = s.sbi.map (·.id) := congrArg Session.Frame.sbi h
  unfold clientIds
  rw [← Option.toList_map, ← Option.toList_map, hx, hb, Option.toList_map, Option.toList_map]

theorem Holds.clientIds {client : Client} {s : Session} (h : Holds client s) : clientIds s = [client.id] := by
  unfold Manager.clientIds
  rw [← Option.toList_map, ← Option.toList_map, h.xbpi, h.sbi]
  cases client <;> rfl

theorem onManaged_eq_some {α : Type} {name : String} {m : Py (Host (SerialState ⊕ V)) α}
    (h : onManaged name m p = some p') : ∃ d x host, p.manager.devices.get? name = some d ∧
      m.exec (p.hostOf (p.balances d.balance)) = (.ok x, host) ∧
      p' = { p.store (p.balances d.balance).transport host with
        balances := Function.update p.balances d.balance ((p.balances d.balance).after host) } := by
  unfold onManaged at h
  cases hd : p.manager.devices.get? name with
  | none =>
      rw [hd] at h
      cases h
  | some d =>
      rw [hd] at h
      rcases hrun : m.exec (p.hostOf (p.balances d.balance)) with ⟨e | x, host⟩
      · simp only [onBalance, exec_ofFun, hrun] at h
        cases h
      · simp only [onBalance, exec_ofFun, hrun, Option.some.injEq] at h
        exact ⟨d, x, host, rfl, hrun, h.symm⟩

section Stored

variable {host : Host (SerialState ⊕ V)}
  (hp : p' = { p.store (p.balances b).transport host with
    balances := Function.update p.balances b ((p.balances b).after host) })

include hp

theorem reconfigured_of_stored (hworld : (serialOpen host.world).isSome =
    (serialOpen (p.hostOf (p.balances b)).world).isSome) : Reconfigured b p p' := by
  subst hp
  refine ⟨rfl, rfl, rfl, fun b' hb => Function.update_of_ne hb _ _, fun t => ?_⟩
  show (serialOpen (Function.update p.transports (p.balances b).transport host.world t)).isSome = _
  by_cases ht : t = (p.balances b).transport
  · rw [ht, Function.update_self]
    exact hworld
  · rw [Function.update_of_ne ht]

theorem renewed_of_stored (hs : SartoriusLib.Balance.Switched (fun w => (serialOpen w).isSome)
    (p.hostOf (p.balances b)) host) : Renewed b p p' := by
  subst hp
  obtain ⟨client, hid, hholds⟩ := hs.client
  refine ⟨⟨client, hid, ?_⟩, ?_, hs.nextId⟩
  · simpa [Balance.after] using hholds
  · refine hs.retired.trans (congrArg (· ++ p.retired) ?_)
    exact clientIds_frame (current_frame p (p.balances b).session)

theorem unchanged_of_stored (hs : SartoriusLib.Balance.SameClients (fun w => (serialOpen w).isSome)
    (p.hostOf (p.balances b)) host) : Unchanged b p p' := by
  subst hp
  refine ⟨?_, hs.retired, hs.nextId⟩
  have hframe : host.session.frame = (p.balances b).session.frame := hs.frame.trans (current_frame p _)
  simpa [Balance.after] using hframe

end Stored

/-! ## The invariant -/

/-- The clients have identities of their own, and a client of a port that is not disposed is held by everybody
on it. -/
structure Live (p : Process V) : Prop extends Tables p where
  old : ∀ i ∈ p.retired, i < p.nextClient
  known : ∀ b < p.nextBalance, ∀ i ∈ clientIds (p.balances b).session, i < p.nextClient
  made : ∀ k e client, p.manager.ports.get? k = some e → e.client = some client → client.id < p.nextClient
  given : ∀ k e client, p.manager.ports.get? k = some e → e.client = some client → client.id ∉ p.retired →
    ∀ n d, On p n d k → Holds client (p.balances d.balance).session
  live : LiveClients p

/-- No call was made yet, and the identities of the clients are below their counter. -/
structure Numbered (p : Process V) : Prop where
  manager : p.manager = {}
  retired : ∀ i ∈ p.retired, i < p.nextClient
  balances : ∀ b < p.nextBalance, ∀ i ∈ clientIds (p.balances b).session, i < p.nextClient

theorem Numbered.live (h : Numbered p) : Live p := by
  have hports : p.manager.ports = [] := by rw [h.manager]
  have hdevices : p.manager.devices = [] := by rw [h.manager]
  refine ⟨tables_new h.manager, h.retired, h.balances, ?_, ?_, ?_⟩
  all_goals simp [hports, hdevices, LiveClients, On]

theorem Live.unregistered (h : Live p) (hu : Unregistered p p') : Live p' := by
  have hon {n d k} : On p' n d k ↔ On p n d k := by rw [On, On, hu.manager]
  exact
    { h.toTables.unregistered hu with
      old := fun i hi => (h.old i (hu.retired ▸ hi)).trans_le hu.nextClient
      known := fun b hb i hi => by
        rw [hu.nextBalance] at hb
        rw [hu.balances] at hi
        exact (h.known b hb i hi).trans_le hu.nextClient
      made := fun k e client he hclient => by
        rw [hu.manager] at he
        exact (h.made k e client he hclient).trans_le hu.nextClient
      given := fun k e client he hclient hlive n d hd => by
        rw [hu.manager] at he
        rw [hu.retired] at hlive
        rw [hu.balances]
        exact h.given k e client he hclient hlive n d (hon.mp hd)
      live := fun n d k hd => by
        obtain ⟨client, hlive, hall⟩ := h.live n d k (hon.mp hd)
        refine ⟨client, by rwa [hu.retired], fun n' d' hd' => ?_⟩
        rw [hu.balances]
        exact hall n' d' (hon.mp hd') }

theorem Live.prebuilt (h : Live p) (hp : Prebuilt a b p p') (hb : b < p.nextBalance) : Live p' := by
  have htables := h.toTables.prebuilt hp hb
  have hon {n d k} : On p' n d k ↔ On p n d k := hp.on
  obtain ⟨-, -, rfl⟩ := hp
  exact
    { htables with
      old := h.old
      known := h.known
      made := h.made
      given := fun k e client he hclient hlive n d hd => h.given k e client he hclient hlive n d (hon.mp hd)
      live := fun n d k hd => by
        obtain ⟨client, hlive, hall⟩ := h.live n d k (hon.mp hd)
        exact ⟨client, hlive, fun n' d' hd' => hall n' d' (hon.mp hd')⟩ }

theorem Live.dropped (h : Live p) (hd : p.manager.devices.get? d.name = some d) (hdrop : Dropped d p p') :
    Live p' := by
  obtain ⟨hretired, -, hnextBalance, hnextClient, hbalances⟩ := hdrop.objects
  have hget {k e} (he : p'.manager.ports.get? k = some e) :
      ∃ e₀, p.manager.ports.get? k = some e₀ ∧ e = e₀.without d.name := by
    obtain ⟨e₀, he₀, heq, -⟩ := (hdrop.get? h.toTables hd k e).mp he
    exact ⟨e₀, he₀, heq⟩
  exact
    { h.toTables.dropped hd hdrop with
      old := by rw [hretired, hnextClient]; exact h.old
      known := by rw [hnextBalance, hnextClient, hbalances]; exact h.known
      made := fun k e client he hclient => by
        obtain ⟨e₀, he₀, rfl⟩ := hget he
        rw [hnextClient]
        exact h.made k e₀ client he₀ hclient
      given := fun k e client he hclient hlive n d' hd' => by
        obtain ⟨e₀, he₀, rfl⟩ := hget he
        rw [hretired] at hlive
        rw [hbalances]
        exact h.given k e₀ client he₀ hclient hlive n d' (hdrop.on.mp hd').2
      live := fun n d' k hd' => by
        obtain ⟨client, hlive, hall⟩ := h.live n d' k (hdrop.on.mp hd').2
        refine ⟨client, by rwa [hretired], fun n' d₁ hd₁ => ?_⟩
        rw [hbalances]
        exact hall n' d₁ (hdrop.on.mp hd₁).2 }

theorem Live.setClosed (h : Live p) : Live (setClosed p) :=
  ⟨h.toTables.setClosed, h.old, h.known, h.made, h.given, h.live⟩

/-- The client that a port gives to a new balance: everybody on the port holds it already. -/
theorem Registered.shares (h : Live p) (hr : Registered a k e b p p')
    (hspared : ∀ e client, Reuses p a e → e.client = some client → client.id ∉ p.retired) :
    ∃ client, e.client = some client ∧ client.id < p'.nextClient ∧ client.id ∉ p.retired ∧
      ∀ n d, On p n d k → Holds client (p.balances d.balance).session := by
  obtain ⟨client, hclient, -⟩ := hr.serving.client
  refine ⟨client, hclient, ?_⟩
  cases hr.origin with
  | found he =>
      have hlive : client.id ∉ p.retired := by
        cases hidentify : a.identify with
        | true => exact hr.live hidentify client hclient
        | false => exact hspared e client ⟨hr.accepts, ⟨k, hr.key, he⟩, hr.protocol, hidentify⟩ hclient
      exact ⟨(h.made k e client he hclient).trans_le hr.nextClient, hlive, h.given k e client he hclient hlive⟩
  | made he hrefs hnew hown hfresh =>
      obtain ⟨hle, hlt⟩ := hfresh client hclient
      refine ⟨hlt, fun hmem => absurd (h.old _ hmem) (Nat.not_lt.mpr hle), fun n d hd => ?_⟩
      obtain ⟨e', he', -⟩ := h.port n d k hd.1 hd.2
      rw [he] at he'
      cases he'

theorem Live.registered (h : Live p) (hr : Registered a k e b p p')
    (hspared : ∀ e client, Reuses p a e → e.client = some client → client.id ∉ p.retired) : Live p' := by
  obtain ⟨client, hclient, hid, hlive, hall⟩ := hr.shares h hspared
  have hold : ∀ n d k', On p n d k' → p'.balances d.balance = p.balances d.balance := fun n d k' hd =>
    hr.others _ (hr.new.1 ▸ (h.balances n d hd.1).ne)
  -- everybody on the port of the new balance
  have hport : ∀ n d, On p' n d k → Holds client (p'.balances d.balance).session := by
    intro n d hd
    rcases hr.on.mp hd with ⟨-, rfl, -⟩ | hd
    · exact hr.holds client hclient
    · rw [hold n d k hd]
      exact hall n d hd
  have hother : ∀ n d k', k' ≠ k → On p' n d k' → On p n d k' := by
    intro n d k' hk hd
    rcases hr.on.mp hd with ⟨-, -, hkey⟩ | hd
    · exact absurd (Option.some.inj hkey).symm hk
    · exact hd
  exact
    { h.toTables.registered hr with
      old := fun i hi => (h.old i (hr.retired ▸ hi)).trans_le hr.nextClient
      known := fun b' hb' i hi => by
        by_cases hb : b' = b
        · subst hb
          rw [(hr.holds client hclient).clientIds, List.mem_singleton] at hi
          exact hi ▸ hid
        · rw [hr.others b' hb] at hi
          have hlt : b' < p.nextBalance := by
            have := hr.new
            omega
          exact (h.known b' hlt i hi).trans_le hr.nextClient
      made := fun k' e' client' he' hclient' => by
        rcases hr.get?_cases he' with ⟨-, rfl⟩ | ⟨-, he'⟩
        · obtain rfl : client = client' := Option.some.inj (hclient.symm.trans hclient')
          exact hid
        · exact (h.made k' e' client' he' hclient').trans_le hr.nextClient
      given := fun k' e' client' he' hclient' hlive' n d hd => by
        rcases hr.get?_cases he' with ⟨rfl, rfl⟩ | ⟨hk, he'⟩
        · obtain rfl : client = client' := Option.some.inj (hclient.symm.trans hclient')
          exact hport n d hd
        · rw [hr.retired] at hlive'
          rw [hold n d k' (hother n d k' hk hd)]
          exact h.given k' e' client' he' hclient' hlive' n d (hother n d k' hk hd)
      live := fun n d k' hd => by
        by_cases hk : k' = k
        · subst hk
          exact ⟨client, by rwa [hr.retired], hport⟩
        · obtain ⟨client', hlive', hall'⟩ := h.live n d k' (hother n d k' hk hd)
          refine ⟨client', by rwa [hr.retired], fun n' d' hd' => ?_⟩
          rw [hold n' d' k' (hother n' d' k' hk hd')]
          exact hall' n' d' (hother n' d' k' hk hd') }

/-! ## A call on a balance -/

theorem Reconfigured.on (hc : Reconfigured b p p') {n : String} : On p' n d k ↔ On p n d k := by
  rw [On, On, hc.manager]

theorem Tables.reconfigured (h : Tables p) (hc : Reconfigured b p p') : Tables p' := by
  have hserving {e} (hs : Serving p e) : Serving p' e :=
    ⟨hs.client, hs.transport.trans_eq hc.nextTransport.symm, fun howns => by
      rw [hc.serial]
      exact hs.serial howns⟩
  constructor
  · constructor
    · rw [hc.manager]
      exact h.names
    · rw [hc.manager]
      exact h.name
    · intro n d k
      rw [hc.manager]
      intro hd hkey
      obtain ⟨e, he, hs⟩ := h.port n d k hd hkey
      exact ⟨e, he, hserving hs⟩
  · rw [hc.manager, hc.nextBalance]
    exact h.balances
  · rw [hc.manager]
    exact fun k e he => hserving (h.serving k e he)
  · rw [hc.manager]
    exact h.used
  · simp only [On, hc.manager]
    exact h.refs
  · rw [hc.manager]
    exact h.apart

/-- A session that was only used. -/
theorem Live.unchanged (h : Live p) (hc : Reconfigured b p p') (hu : Unchanged b p p') : Live p' := by
  have hframe : ∀ b', (p'.balances b').session.frame = (p.balances b').session.frame := by
    intro b'
    by_cases hb : b' = b
    · rw [hb]
      exact hu.frame
    · rw [hc.others b' hb]
  exact
    { h.toTables.reconfigured hc with
      old := by rw [hu.retired, hu.nextClient]; exact h.old
      known := fun b' hb' i hi => by
        rw [hc.nextBalance] at hb'
        rw [clientIds_frame (hframe b')] at hi
        exact (h.known b' hb' i hi).trans_eq hu.nextClient.symm
      made := by rw [hc.manager, hu.nextClient]; exact h.made
      given := fun k e client he hclient hlive n d hd => by
        rw [hc.manager] at he
        rw [hu.retired] at hlive
        exact (h.given k e client he hclient hlive n d (hc.on.mp hd)).of_frame (hframe _)
      live := fun n d k hd => by
        obtain ⟨client, hlive, hall⟩ := h.live n d k (hc.on.mp hd)
        exact ⟨client, by rwa [hu.retired], fun n' d' hd' => (hall n' d' (hc.on.mp hd')).of_frame (hframe _)⟩ }

/-- The balances on a port hold one client, so a balance that is alone with its own is alone on the port. -/
theorem LiveClients.alone (h : LiveClients p) (halone : Alone p b) {n n' : String} {d' : DeviceEntry}
    (hd : On p n d k) (hb : d.balance = b) (hd' : On p n' d' k) : d'.balance = b := by
  by_contra hne
  obtain ⟨client, -, hall⟩ := h n d k hd
  refine halone n' d' k hd' hne client.id ?_ ?_
  · rw [(hall n' d' hd').clientIds]
    exact List.mem_cons_self
  · rw [← hb, (hall n d hd).clientIds]
    exact List.mem_cons_self

/-- A switch for a balance that is alone with its clients: it has the port for itself, or is on none. -/
theorem Live.renewed (h : Live p) (hc : Reconfigured b p p') (hr : Renewed b p p') (hb : b < p.nextBalance)
    (halone : Alone p b) : Live p' := by
  obtain ⟨fresh, hfresh, hholds⟩ := hr.client
  have hknown := h.known b hb
  have hretired : ∀ i, i ∈ p'.retired ↔ i ∈ clientIds (p.balances b).session ∨ i ∈ p.retired := by
    intro i
    rw [hr.retired, List.mem_append]
  have hold : ∀ i ∈ p'.retired, i < p.nextClient := by
    intro i hi
    rcases (hretired i).mp hi with hi | hi
    · exact hknown i hi
    · exact h.old i hi
  exact
    { h.toTables.reconfigured hc with
      old := fun i hi => by
        rw [hr.nextClient]
        exact Nat.lt_succ_of_lt (hold i hi)
      known := fun b' hlt i hi => by
        rw [hc.nextBalance] at hlt
        rw [hr.nextClient]
        by_cases hb' : b' = b
        · rw [hb', hholds.clientIds, List.mem_singleton, hfresh] at hi
          exact hi ▸ Nat.lt_succ_self _
        · rw [hc.others b' hb'] at hi
          exact Nat.lt_succ_of_lt (h.known b' hlt i hi)
      made := fun k e client he hclient => by
        rw [hc.manager] at he
        rw [hr.nextClient]
        exact Nat.lt_succ_of_lt (h.made k e client he hclient)
      given := fun k e client he hclient hlive n d hd => by
        rw [hc.manager] at he
        rw [hretired, not_or] at hlive
        have hall := h.given k e client he hclient hlive.2 n d (hc.on.mp hd)
        have hne : d.balance ≠ b := by
          intro heq
          rw [heq] at hall
          rw [hall.clientIds, List.mem_singleton] at hlive
          exact hlive.1 rfl
        rw [hc.others _ hne]
        exact hall
      live := fun n d k hd => by
        have hd := hc.on.mp hd
        by_cases hself : d.balance = b
        · refine ⟨fresh, fun hmem => absurd (hold _ hmem) (Nat.not_lt.mpr hfresh.ge), fun n' d' hd' => ?_⟩
          rw [h.live.alone halone hd hself (hc.on.mp hd')]
          exact hholds
        · obtain ⟨client, hlive, hall⟩ := h.live n d k hd
          refine ⟨client, ?_, fun n' d' hd' => ?_⟩
          · rw [hretired, not_or]
            refine ⟨fun hmem => halone n d k hd hself client.id ?_ hmem, hlive⟩
            rw [(hall n d hd).clientIds]
            exact List.mem_cons_self
          · have hd' := hc.on.mp hd'
            have hne : d'.balance ≠ b := fun heq => hself (h.live.alone halone hd' heq hd)
            rw [hc.others _ hne]
            exact hall n' d' hd' }

theorem perform_live (U : PortTransport V) {c : Call} (hpossible : c.Possible p) (hg : Spared p (.call c))
    (h : Live p) : Live ((c.perform U).exec p).2 := by
  cases c with
  | add a =>
      have hspec := add_spec U (a := a) hpossible h.serving
      rw [Call.perform, exec_discard]
      rcases hrun : (add U a).exec p with ⟨x | b, p'⟩
      · exact h.unregistered (hspec.error rfl hrun)
      · rcases hspec.ok rfl hrun with hp | ⟨k, e, hr⟩
        · have hexists : a.source.Exists p := hpossible
          rw [hp.source] at hexists
          exact h.prebuilt hp hexists
        · exact h.registered hr hg
  | remove name =>
      have hspec := remove_spec U name h.toServed
      rw [Call.perform]
      rcases hrun : (remove U name).exec p with ⟨x | ⟨⟩, p'⟩
      · obtain rfl := hspec.error rfl hrun
        exact h
      · obtain ⟨d, hd, hdrop⟩ := hspec.ok rfl hrun
        obtain rfl := h.name name d hd
        exact h.dropped hd hdrop
  | close =>
      rw [Call.perform]
      rcases close_spec U (fun _ hp => hp.toServed) (fun p₁ d p₂ hp hd hdrop => hp.dropped hd hdrop) h with
        hsame | ⟨q, hend, hlive, -⟩
      · rw [hsame]
        exact h
      · rw [hend]
        exact hlive.setClosed

theorem manage_live {ev : Event} (h : Live p) (hg : Spared p ev) (hstep : manage U p ev = some p') : Live p' := by
  cases ev with
  | call c =>
      rw [manage, step] at hstep
      split at hstep
      · cases hstep
        exact perform_live U ‹_› hg h
      · cases hstep
  | configureProtocol name r =>
      obtain ⟨d, info, host, hd, hrun, hp⟩ := onManaged_eq_some hstep
      rcases SartoriusLib.Balance.configureProtocol_returns (eitherPort_fixes U) hrun with
        ⟨hchange, hs⟩ | ⟨-, hs⟩
      · have halone : Alone p d.balance := (hg d hd).resolve_left hchange
        exact h.renewed (reconfigured_of_stored hp hs.world) (renewed_of_stored hp hs) (h.balances name d hd) halone
      · exact h.unchanged (reconfigured_of_stored hp hs.world) (unchanged_of_stored hp hs)
  | setBaudRate name wireCode baudrate r =>
      obtain ⟨d, info, host, hd, hrun, hp⟩ := onManaged_eq_some hstep
      have hs := SartoriusLib.Balance.setBaudRate_returns (eitherPort_fixes U) hrun
      exact h.renewed (reconfigured_of_stored hp hs.world) (renewed_of_stored hp hs) (h.balances name d hd) (hg d hd)

/-- A switch leaves a client that another balance on a port holds disposed. -/
theorem Renewed.disposes (hc : Reconfigured b p p') (hr : Renewed b p p') (hlive : LiveClients p') : Alone p b := by
  intro n d k hd hne i hi hmem
  obtain ⟨client, hclient, hall⟩ := hlive n d k (hc.on.mpr hd)
  have hholds := hall n d (hc.on.mpr hd)
  rw [hc.others _ hne] at hholds
  rw [hholds.clientIds, List.mem_singleton] at hi
  rw [hr.retired, List.mem_append, ← hi] at hclient
  exact hclient (.inl hmem)

theorem switch_spared {ev : Event} (hcall : ∀ c, ev ≠ .call c) (hstep : manage U p ev = some p')
    (hlive : LiveClients p') : Spared p ev := by
  cases ev with
  | call c => exact absurd rfl (hcall c)
  | configureProtocol name r =>
      obtain ⟨d, info, host, hd, hrun, hp⟩ := onManaged_eq_some hstep
      intro d' hd'
      obtain rfl : d = d' := Option.some.inj (hd.symm.trans hd')
      rcases SartoriusLib.Balance.configureProtocol_returns (eitherPort_fixes U) hrun with ⟨-, hs⟩ | ⟨hsame, -⟩
      · exact .inr ((renewed_of_stored hp hs).disposes (reconfigured_of_stored hp hs.world) hlive)
      · exact .inl hsame
  | setBaudRate name wireCode baudrate r =>
      obtain ⟨d, info, host, hd, hrun, hp⟩ := onManaged_eq_some hstep
      intro d' hd'
      obtain rfl : d = d' := Option.some.inj (hd.symm.trans hd')
      have hs := SartoriusLib.Balance.setBaudRate_returns (eitherPort_fixes U) hrun
      exact (renewed_of_stored hp hs).disposes (reconfigured_of_stored hp hs.world) hlive

/-- Where a switch is made only by a balance that is alone with its clients, and a balance is added unidentified
only to a port whose client is not disposed, the balances on a port always hold one client that is alive; any
other switch ends that. -/
theorem clients_stay_live {events : List Event} (hp : Numbered p₀) (hg : Guarded (manage U) Spared p₀ events)
    (hrun : run (manage U) p₀ events = some p) :
    LiveClients p ∧ ∀ ev p', (∀ c, ev ≠ .call c) → manage U p ev = some p' → (LiveClients p' ↔ Spared p ev) := by
  have hlive : Live p := run_invariant (fun _ _ _ h hg hs => manage_live h hg hs) hp.live hg hrun
  exact ⟨hlive.live, fun ev p' hcall hstep => ⟨switch_spared hcall hstep, fun hg => (manage_live hlive hg hstep).live⟩⟩

/-- A balance on "COM3" whose device answers in SBI once it is asked to. -/
def switchable : AddRequest :=
  { onCom3 "a" with
    line := [[], [], [], [.expire, .chunk (encodeAsciiReplace "MSE225S\r\n".toList),
      .chunk (encodeAsciiReplace "MSE225S\r\n".toList), .chunk (encodeAsciiReplace "30105813\r\n".toList),
      .chunk (encodeAsciiReplace "01-70-05\r\n".toList)]] }

theorem freshProcess_numbered : Numbered freshProcess where
  manager := rfl
  retired _ hi := by cases hi
  balances b hb := absurd hb (Nat.not_lt_zero b)

/-- The only balance on the port is switched. -/
theorem clients_stay_live_sole : ∃ p, run (manage serialOnly) freshProcess
    [.call (.add switchable), .configureProtocol "a" SartoriusLib.Balance.toSbi] = some p ∧
      p.retired = [0] ∧ LiveClients p := by
  have hadded : (manage serialOnly freshProcess (.call (.add switchable))).map (·.manager.devices) =
      some [("a", { name := "a", balance := 0, portKey := some "COM3" })] := by
    decide +kernel
  have hswitched : (run (manage serialOnly) freshProcess
      [.call (.add switchable), .configureProtocol "a" SartoriusLib.Balance.toSbi]).map (·.retired) = some [0] := by
    decide +kernel
  have hguarded : Guarded (manage serialOnly) Spared freshProcess
      [.call (.add switchable), .configureProtocol "a" SartoriusLib.Balance.toSbi] := by
    constructor
    · rintro e client ⟨-, ⟨k, -, hport⟩, -⟩
      cases hport
    · intro p₁ hstep
      rw [hstep] at hadded
      have hdevices : p₁.manager.devices = [("a", { name := "a", balance := 0, portKey := some "COM3" })] :=
        Option.some.inj hadded
      have hbalance : ∀ n d, p₁.manager.devices.get? n = some d → d.balance = 0 := by
        intro n d hd
        have hmem := Dict.mem_of_get? hd
        rw [hdevices, List.mem_singleton] at hmem
        cases hmem
        rfl
      refine ⟨fun d hd => .inr fun n d' k hd' hne => absurd ?_ hne, fun _ _ => trivial⟩
      rw [hbalance "a" d hd, hbalance n d' hd'.1]
  obtain ⟨p, hrun, hretired⟩ := Option.map_eq_some_iff.mp hswitched
  exact ⟨p, hrun, hretired, (clients_stay_live freshProcess_numbered hguarded hrun).1⟩

/-- A switch of one of two balances on a port disposes the client of the other. -/
theorem sibling_disposed : ∃ p, Numbered freshProcess ∧ run (manage serialOnly) freshProcess
    [.call (.add switchable), .call (.add (onCom3 "b")), .configureProtocol "a" SartoriusLib.Balance.toSbi] = some p ∧
      ¬ LiveClients p := by
  have hend : (run (manage serialOnly) freshProcess [.call (.add switchable), .call (.add (onCom3 "b")),
      .configureProtocol "a" SartoriusLib.Balance.toSbi]).map
        (fun p => (p.manager.devices.get? "b", clientIds (p.balances 1).session, p.retired)) =
      some (some { name := "b", balance := 1, portKey := some "COM3" }, [0], [0]) := by
    decide +kernel
  obtain ⟨p, hrun, heq⟩ := Option.map_eq_some_iff.mp hend
  obtain ⟨hd, hids, hretired⟩ : _ ∧ _ ∧ _ := by simpa only [Prod.mk.injEq] using heq
  refine ⟨p, freshProcess_numbered, hrun, fun hlive => ?_⟩
  have hb : On p "b" { name := "b", balance := 1, portKey := some "COM3" } "COM3" := ⟨hd, rfl⟩
  obtain ⟨client, hclient, hall⟩ := hlive _ _ _ hb
  have hid := (hall _ _ hb).clientIds.symm.trans hids
  rw [hretired, List.cons.inj hid |>.1] at hclient
  exact hclient List.mem_cons_self

end SartoriusLib.Manager
