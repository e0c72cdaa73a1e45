import SartoriusLib.Lib.Run
import SartoriusLib.Manager.Outcomes

/-!
# The books of the manager

The ports are those of the registered balances, the references of a port are their names, and they share its
client. A serial port of the manager is open exactly as long as somebody refers to it.
-/

namespace SartoriusLib.Manager

open Lib Prog

variable {V : Type} {U : PortTransport V} {a : AddRequest} {k : String} {e : PortEntry} {b : Nat} {d : DeviceEntry}
  {p p' p₀ : Process V}

/-- The balance `n` is on the port `k`. -/
def On (p : Process V) (n : String) (d : DeviceEntry) (k : String) : Prop :=
  p.manager.devices.get? n = some d ∧ d.portKey = some k

/-- The two tables fit each other. -/
structure Tables (p : Process V) : Prop extends Served p where
  balances : ∀ n d, p.manager.devices.get? n = some d → d.balance < p.nextBalance
  serving : ∀ k e, p.manager.ports.get? k = some e → Serving p e
  used : ∀ k e, p.manager.ports.get? k = some e → e.refs ≠ []
  refs : ∀ k e, p.manager.ports.get? k = some e → ∀ n, n ∈ e.refs ↔ ∃ d, On p n d k
  apart : ∀ k e k' e', p.manager.ports.get? k = some e → p.manager.ports.get? k' = some e' →
    e.ownsTransport = true → e'.ownsTransport = true → e.transport = e'.transport → k = k'

/-- The balances hold the client of their port, and the serial ports of the manager are open. -/
structure Kept (p : Process V) : Prop extends Tables p where
  shared : ∀ n d k e client, On p n d k → p.manager.ports.get? k = some e → e.client = some client →
    Holds client (p.balances d.balance).session
  opens : ∀ k e, p.manager.ports.get? k = some e → e.ownsTransport = true →
    serialOpen (p.transports e.transport) = some true

theorem Serving.grows (h : Serving p e) (hg : Grows p p') (hs : StaysOpen p p') : Serving p' e :=
  ⟨h.client, h.transport.trans_le hg.nextTransport, fun howns => hs.serial _ h.transport (h.serial howns)⟩

theorem tables_new (h : p.manager = {}) : Tables p := by
  have hports : p.manager.ports = [] := by rw [h]
  have hdevices : p.manager.devices = [] := by rw [h]
  constructor
  · constructor <;> simp [hdevices, Dict.keys]
  all_goals simp [hports, hdevices, On]

theorem kept_new (h : p.manager = {}) : Kept p := by
  have hports : p.manager.ports = [] := by rw [h]
  refine ⟨tables_new h, ?_, ?_⟩ <;> simp [hports]

/-! ## One lemma for each outcome -/

theorem Tables.unregistered (h : Tables p) (hu : Unregistered p p') : Tables p' where
  names := by rw [hu.manager]; exact h.names
  name := by rw [hu.manager]; exact h.name
  port n d k := by
    rw [hu.manager]
    intro hd hkey
    obtain ⟨e, he, hserving⟩ := h.port n d k hd hkey
    exact ⟨e, he, hserving.grows hu.toGrows hu.stays⟩
  balances n d := by
    rw [hu.manager]
    exact fun hd => (h.balances n d hd).trans_eq hu.nextBalance.symm
  serving k e := by
    rw [hu.manager]
    exact fun he => (h.serving k e he).grows hu.toGrows hu.stays
  used := by rw [hu.manager]; exact h.used
  refs := by simp only [On, hu.manager]; exact h.refs
  apart := by rw [hu.manager]; exact h.apart

theorem Kept.unregistered (h : Kept p) (hu : Unregistered p p') : Kept p' where
  toTables := h.toTables.unregistered hu
  shared n d k e client := by
    simp only [On, hu.manager]
    intro hd he hclient
    rw [hu.balances]
    exact h.shared n d k e client hd he hclient
  opens k e := by
    rw [hu.manager]
    exact fun he howns => hu.stays.opens _ (h.serving k e he).transport (h.opens k e he howns)

/-- Behind a registration under the name `n'`. -/
theorem on_set {n n' : String} {d d' : DeviceEntry} (hfree : p.manager.devices.get? n' = none)
    (hdevices : p'.manager.devices = p.manager.devices.set n' d') :
    On p' n d k ↔ (n = n' ∧ d = d' ∧ d'.portKey = some k) ∨ On p n d k := by
  unfold On
  rw [hdevices, Dict.get?_set]
  by_cases hn : n = n'
  · subst hn
    rw [if_pos rfl, hfree]
    constructor
    · rintro ⟨hd, hkey⟩
      cases hd
      exact .inl ⟨rfl, rfl, hkey⟩
    · rintro (⟨-, rfl, hkey⟩ | ⟨hd, -⟩)
      · exact ⟨rfl, hkey⟩
      · cases hd
  · rw [if_neg hn]
    simp [hn]

theorem get?_set_cases {n n' : String} {d d' : DeviceEntry}
    (hdevices : p'.manager.devices = p.manager.devices.set n' d') (hd : p'.manager.devices.get? n = some d) :
    (n = n' ∧ d = d') ∨ p.manager.devices.get? n = some d := by
  rw [hdevices, Dict.get?_set] at hd
  split at hd
  · exact .inl ⟨‹_›, (Option.some.inj hd).symm⟩
  · exact .inr hd

theorem Prebuilt.on (hp : Prebuilt a b p p') {n : String} : On p' n d k ↔ On p n d k := by
  obtain ⟨-, haccepts, rfl⟩ := hp
  refine (on_set haccepts.free rfl).trans ⟨?_, .inr⟩
  rintro (⟨-, -, hkey⟩ | hon)
  · cases hkey
  · exact hon

theorem Tables.prebuilt (h : Tables p) (hp : Prebuilt a b p p') (hb : b < p.nextBalance) : Tables p' := by
  have hon {n d k} : On p' n d k ↔ On p n d k := hp.on
  obtain ⟨-, -, rfl⟩ := hp
  exact
    { names := Dict.nodup_keys_set h.names _ _
      name := fun n d hd => by
        rcases get?_set_cases rfl hd with ⟨rfl, rfl⟩ | hd
        · rfl
        · exact h.name n d hd
      port := fun n d k hd hkey => by
        obtain ⟨hd, hkey⟩ := hon.mp ⟨hd, hkey⟩
        obtain ⟨e, he, hserving⟩ := h.port n d k hd hkey
        exact ⟨e, he, hserving.client, hserving.transport, hserving.serial⟩
      balances := fun n d hd => by
        rcases get?_set_cases rfl hd with ⟨-, rfl⟩ | hd
        · exact hb
        · exact h.balances n d hd
      serving := fun k e he => ⟨(h.serving k e he).client, (h.serving k e he).transport, (h.serving k e he).serial⟩
      used := h.used
      refs := fun k e he n => by
        rw [h.refs k e he n]
        simp only [hon]
      apart := h.apart }

theorem Kept.prebuilt (h : Kept p) (hp : Prebuilt a b p p') (hb : b < p.nextBalance) : Kept p' := by
  have htables := h.toTables.prebuilt hp hb
  have hon {n d k} : On p' n d k ↔ On p n d k := hp.on
  obtain ⟨-, -, rfl⟩ := hp
  exact ⟨htables, fun n d k e client hd he hclient => h.shared n d k e client (hon.mp hd) he hclient, h.opens⟩

/-- The names on the port before the registration. -/
theorem Registered.refs (h : Tables p) (hr : Registered a k e b p p') (n : String) :
    n ∈ e.refs ↔ ∃ d, On p n d k := by
  cases hr.origin with
  | found he => exact h.refs k e he n
  | made he hrefs =>
      rw [hrefs]
      refine ⟨fun hmem => (by cases hmem), fun ⟨d, hd, hkey⟩ => ?_⟩
      obtain ⟨e', he', -⟩ := h.port n d k hd hkey
      rw [he] at he'
      cases he'

theorem Registered.on (hr : Registered a k e b p p') {n k' : String} :
    On p' n d k' ↔ (n = a.name ∧ d = { name := a.name, balance := b, portKey := some k } ∧ some k = some k') ∨
      On p n d k' :=
  on_set hr.accepts.free hr.devices

theorem Registered.get?_cases (hr : Registered a k e b p p') {k' : String} {e' : PortEntry}
    (he' : p'.manager.ports.get? k' = some e') :
    (k' = k ∧ e' = { e with refs := e.refs.insert a.name }) ∨ (k' ≠ k ∧ p.manager.ports.get? k' = some e') := by
  rw [hr.ports, Dict.get?_set] at he'
  split at he'
  · exact .inl ⟨‹_›, (Option.some.inj he').symm⟩
  · exact .inr ⟨‹_›, he'⟩

theorem Tables.registered (h : Tables p) (hr : Registered a k e b p p') : Tables p' := by
  have hon {n d k'} : On p' n d k' ↔ _ := hr.on
  have hget : ∀ k' e', p'.manager.ports.get? k' = some e' → _ := fun k' e' => hr.get?_cases
  have hserving : ∀ k' e', p'.manager.ports.get? k' = some e' → Serving p' e' := by
    intro k' e' he'
    rcases hget k' e' he' with ⟨rfl, rfl⟩ | ⟨-, he'⟩
    · exact ⟨hr.serving.client, hr.serving.transport, hr.serving.serial⟩
    · exact (h.serving k' e' he').grows hr.toGrows hr.stays
  -- the serial port of the entry is not one of another entry
  have halone : ∀ k' e', k' ≠ k → p.manager.ports.get? k' = some e' → e'.ownsTransport = true →
      e.ownsTransport = true → e'.transport ≠ e.transport := by
    intro k' e' hne he' howns' howns heq
    cases hr.origin with
    | found he => exact hne (h.apart k' e' k e he' he howns' howns heq)
    | made he hrefs hnew =>
        have hlt := (h.serving k' e' he').transport
        rw [heq, (hnew howns).1] at hlt
        exact lt_irrefl _ hlt
  exact
    { names := hr.devices ▸ Dict.nodup_keys_set h.names _ _
      name := fun n d hd => by
        rcases get?_set_cases hr.devices hd with ⟨rfl, rfl⟩ | hd
        · rfl
        · exact h.name n d hd
      port := fun n d k' hd hkey => by
        obtain ⟨e', he'⟩ : ∃ e', p'.manager.ports.get? k' = some e' := by
          rw [hr.ports, Dict.get?_set]
          by_cases hk : k' = k
          · exact ⟨_, if_pos hk⟩
          · rw [if_neg hk]
            rcases hon.mp ⟨hd, hkey⟩ with ⟨-, -, hsame⟩ | ⟨hd, hkey⟩
            · exact absurd (Option.some.inj hsame).symm hk
            · obtain ⟨e', he', -⟩ := h.port n d k' hd hkey
              exact ⟨e', he'⟩
        exact ⟨e', he', hserving k' e' he'⟩
      balances := fun n d hd => by
        rcases get?_set_cases hr.devices hd with ⟨-, rfl⟩ | hd
        · exact hr.new.2 ▸ Nat.lt_succ_self b
        · have := h.balances n d hd
          have := hr.new
          omega
      serving := hserving
      used := fun k' e' he' => by
        rcases hget k' e' he' with ⟨-, rfl⟩ | ⟨-, he'⟩
        · exact List.ne_nil_of_mem (List.mem_insert_self ..)
        · exact h.used k' e' he'
      refs := fun k' e' he' n => by
        simp only [hon]
        rcases hget k' e' he' with ⟨rfl, rfl⟩ | ⟨hne, he'⟩
        · rw [List.mem_insert_iff, hr.refs h n]
          constructor
          · rintro (rfl | ⟨d, hd⟩)
            · exact ⟨_, .inl ⟨rfl, rfl, rfl⟩⟩
            · exact ⟨d, .inr hd⟩
          · rintro ⟨d, ⟨rfl, -⟩ | hd⟩
            · exact .inl rfl
            · exact .inr ⟨d, hd⟩
        · rw [h.refs k' e' he' n]
          constructor
          · rintro ⟨d, hd⟩
            exact ⟨d, .inr hd⟩
          · rintro ⟨d, ⟨-, -, hkey⟩ | hd⟩
            · exact absurd (Option.some.inj hkey).symm hne
            · exact ⟨d, hd⟩
      apart := fun k₁ e₁ k₂ e₂ he₁ he₂ howns₁ howns₂ heq => by
        rcases hget k₁ e₁ he₁ with ⟨rfl, rfl⟩ | ⟨hne₁, he₁⟩ <;> rcases hget k₂ e₂ he₂ with ⟨rfl, rfl⟩ | ⟨hne₂, he₂⟩
        · rfl
        · exact absurd heq.symm (halone k₂ e₂ hne₂ he₂ howns₂ howns₁)
        · exact absurd heq (halone k₁ e₁ hne₁ he₁ howns₁ howns₂)
        · exact h.apart k₁ e₁ k₂ e₂ he₁ he₂ howns₁ howns₂ heq }

theorem Kept.registered (h : Kept p) (hr : Registered a k e b p p') : Kept p' where
  toTables := h.toTables.registered hr
  shared n d k' e' client hd he' hclient := by
    rcases hr.on.mp hd with ⟨-, rfl, hkey⟩ | hd
    · obtain rfl := Option.some.inj hkey
      rcases hr.get?_cases he' with ⟨-, rfl⟩ | ⟨hne, -⟩
      · exact hr.holds client hclient
      · exact absurd rfl hne
    · rw [hr.others _ (hr.new.1 ▸ (h.balances n d hd.1).ne)]
      rcases hr.get?_cases he' with ⟨rfl, rfl⟩ | ⟨-, he'⟩
      · cases hr.origin with
        | found he => exact h.shared n d k' e client hd he hclient
        | made he =>
            obtain ⟨e', he', -⟩ := h.port n d k' hd.1 hd.2
            rw [he] at he'
            cases he'
      · exact h.shared n d k' e' client hd he' hclient
  opens k' e' he' howns := by
    rcases hr.get?_cases he' with ⟨rfl, rfl⟩ | ⟨-, he'⟩
    · exact hr.opens howns
    · exact hr.stays.opens _ (h.serving k' e' he').transport (h.opens k' e' he' howns)

/-- The entry without the name `n`. -/
def PortEntry.without (e : PortEntry) (n : String) : PortEntry := { e with refs := e.refs.filter (· ≠ n) }

/-- A device that goes takes its name off its port, and a port without names goes with it. -/
theorem Dropped.get? (h : Tables p) (hd : p.manager.devices.get? d.name = some d) (hdrop : Dropped d p p')
    (k' : String) (e' : PortEntry) : p'.manager.ports.get? k' = some e' ↔
      ∃ e, p.manager.ports.get? k' = some e ∧ e' = e.without d.name ∧ e'.refs ≠ [] := by
  have hother : ∀ k' e, d.portKey ≠ some k' → p.manager.ports.get? k' = some e → e.without d.name = e := by
    intro k' e hne he
    have hrefs : e.refs.filter (· ≠ d.name) = e.refs := by
      refine List.filter_eq_self.mpr fun n hn => ?_
      obtain ⟨d', hd', hkey⟩ := (h.refs k' e he n).mp hn
      have hname : n ≠ d.name := by
        rintro rfl
        rw [hd] at hd'
        cases hd'
        exact hne hkey
      simpa using hname
    rw [PortEntry.without, hrefs]
  have hsame : d.portKey ≠ some k' → (p.manager.ports.get? k' = some e' ↔
      ∃ e, p.manager.ports.get? k' = some e ∧ e' = e.without d.name ∧ e'.refs ≠ []) := by
    intro hne
    constructor
    · exact fun he' => ⟨e', he', (hother k' e' hne he').symm, h.used k' e' he'⟩
    · rintro ⟨e, he, rfl, -⟩
      rwa [hother k' e hne he]
  cases hdrop with
  | solo hkey hp =>
      rw [hp]
      exact hsame (by rw [hkey]; simp)
  | kept k e hkey he hrefs hp =>
      rw [hp]
      show (p.manager.ports.set k (e.without d.name)).get? k' = some e' ↔ _
      rw [Dict.get?_set]
      by_cases hk : k' = k
      · subst hk
        rw [if_pos rfl, he]
        constructor
        · intro heq
          cases heq
          exact ⟨e, rfl, rfl, hrefs⟩
        · rintro ⟨e₀, he₀, rfl, -⟩
          cases he₀
          rfl
      · rw [if_neg hk]
        exact hsame fun heq => hk (Option.some.inj (heq.symm.trans hkey))
  | last k e hkey he hrefs htorn =>
      rw [htorn.ports, Dict.get?_pop]
      by_cases hk : k' = k
      · subst hk
        rw [if_pos rfl]
        refine ⟨fun heq => (by cases heq), ?_⟩
        rintro ⟨e₀, he₀, rfl, hne⟩
        rw [he] at he₀
        cases he₀
        exact absurd hrefs hne
      · rw [if_neg hk]
        exact hsame fun heq => hk (Option.some.inj (heq.symm.trans hkey))

/-- The objects are what they were, but for the serial port of a last reference. -/
theorem Dropped.objects (hdrop : Dropped d p p') :
    p'.retired = p.retired ∧ p'.nextTransport = p.nextTransport ∧ p'.nextBalance = p.nextBalance ∧
      p'.nextClient = p.nextClient ∧ p'.balances = p.balances := by
  cases hdrop with
  | solo hkey hp => rw [hp]; exact ⟨rfl, rfl, rfl, rfl, rfl⟩
  | kept k e hkey he hrefs hp => rw [hp]; exact ⟨rfl, rfl, rfl, rfl, rfl⟩
  | last k e hkey he hrefs htorn =>
      exact ⟨htorn.retired, htorn.nextTransport, htorn.nextBalance, htorn.nextClient, htorn.balances⟩

/-- A serial port stays as it is, unless its last reference goes, and then it is closed. -/
theorem Dropped.stays_or_closes (hdrop : Dropped d p p') (t : Nat) :
    serialOpen (p'.transports t) = serialOpen (p.transports t) ∨
      serialOpen (p'.transports t) = some false ∧ ∃ k e, p.manager.ports.get? k = some e ∧
        e.refs.filter (· ≠ d.name) = [] ∧ e.ownsTransport = true ∧ e.transport = t := by
  cases hdrop with
  | solo hkey hp => rw [hp]; exact .inl rfl
  | kept k e hkey he hrefs hp => rw [hp]; exact .inl rfl
  | last k e hkey he hrefs htorn =>
      by_cases ht : e.ownsTransport = true ∧ e.transport = t
      · obtain ⟨howns, rfl⟩ := ht
        exact .inr ⟨htorn.closes howns, k, e, he, hrefs, howns, rfl⟩
      · exact .inl (congrArg _ (htorn.others t fun howns heq => ht ⟨howns, heq.symm⟩))

/-- The last reference closes the serial port. -/
theorem Dropped.closes (h : Tables p) (hd : p.manager.devices.get? d.name = some d) (hdrop : Dropped d p p')
    (he : p.manager.ports.get? k = some e) (hrefs : (e.without d.name).refs = [])
    (howns : e.ownsTransport = true) : serialOpen (p'.transports e.transport) = some false := by
  have hgone : p'.manager.ports.get? k ≠ some e := by
    intro hstill
    obtain ⟨e₁, he₁, heq, hne⟩ := (hdrop.get? h hd k e).mp hstill
    obtain rfl : e₁ = e := Option.some.inj (he₁.symm.trans he)
    exact hne (heq ▸ hrefs)
  cases hdrop with
  | solo hkey hp =>
      rw [hp] at hgone
      exact absurd he hgone
  | kept k₀ e₀ hkey he₀ hrefs₀ hp =>
      by_cases hk : k = k₀
      · subst hk
        rw [he] at he₀
        cases he₀
        exact absurd hrefs hrefs₀
      · rw [hp] at hgone
        exact absurd ((Dict.get?_set_ne _ hk _).trans he) hgone
  | last k₀ e₀ hkey he₀ hrefs₀ htorn =>
      by_cases hk : k = k₀
      · subst hk
        rw [he] at he₀
        cases he₀
        exact htorn.closes howns
      · rw [htorn.ports, Dict.get?_pop, if_neg hk] at hgone
        exact absurd he hgone

theorem Dropped.on (hdrop : Dropped d p p') {n : String} {d' : DeviceEntry} :
    On p' n d' k ↔ n ≠ d.name ∧ On p n d' k := by
  unfold On
  rw [hdrop.devices.1, Dict.get?_pop]
  by_cases hn : n = d.name <;> simp [hn]

/-- A serial port that is still used stays as it is. -/
theorem Dropped.stays (h : Tables p) (hd : p.manager.devices.get? d.name = some d) (hdrop : Dropped d p p')
    {e' : PortEntry} (he' : p'.manager.ports.get? k = some e') (howns : e'.ownsTransport = true) :
    serialOpen (p'.transports e'.transport) = serialOpen (p.transports e'.transport) := by
  obtain ⟨e, he, rfl, hrefs⟩ := (hdrop.get? h hd k e').mp he'
  rcases hdrop.stays_or_closes e.transport with hsame | ⟨-, k₀, e₀, he₀, hlast, howns₀, ht⟩
  · exact hsame
  · obtain rfl := h.apart k₀ e₀ k e he₀ he howns₀ howns ht
    rw [he] at he₀
    cases he₀
    exact absurd hlast hrefs

theorem Tables.dropped (h : Tables p) (hd : p.manager.devices.get? d.name = some d) (hdrop : Dropped d p p') :
    Tables p' := by
  have hget := hdrop.get? h hd
  obtain ⟨-, hnextTransport, hnextBalance, -, -⟩ := hdrop.objects
  have hdevices : ∀ n d', p'.manager.devices.get? n = some d' → p.manager.devices.get? n = some d' := by
    intro n d' hd'
    rw [hdrop.devices.1, Dict.get?_pop] at hd'
    split at hd'
    · cases hd'
    · exact hd'
  have hserving : ∀ k' e', p'.manager.ports.get? k' = some e' → Serving p' e' := by
    intro k' e' he'
    obtain ⟨e, he, rfl, -⟩ := (hget k' e').mp he'
    have hs := h.serving k' e he
    refine ⟨hs.client, hs.transport.trans_eq hnextTransport.symm, fun howns => ?_⟩
    rw [hdrop.stays h hd he' howns]
    exact hs.serial howns
  exact
    { names := hdrop.devices.1 ▸ Dict.nodup_keys_pop h.names _
      name := fun n d' hd' => h.name n d' (hdevices n d' hd')
      port := fun n d' k' hd' hkey => by
        obtain ⟨hn, hd', -⟩ := hdrop.on.mp ⟨hd', hkey⟩
        obtain ⟨e, he, -⟩ := h.port n d' k' hd' hkey
        have hmem : n ∈ (e.without d.name).refs :=
          List.mem_filter.mpr ⟨(h.refs k' e he n).mpr ⟨d', hd', hkey⟩, by simpa using hn⟩
        have he' := (hget k' (e.without d.name)).mpr ⟨e, he, rfl, List.ne_nil_of_mem hmem⟩
        exact ⟨_, he', hserving k' _ he'⟩
      balances := fun n d' hd' => (h.balances n d' (hdevices n d' hd')).trans_eq hnextBalance.symm
      serving := hserving
      used := fun k' e' he' => by
        obtain ⟨-, -, -, hrefs⟩ := (hget k' e').mp he'
        exact hrefs
      refs := fun k' e' he' n => by
        obtain ⟨e, he, rfl, -⟩ := (hget k' e').mp he'
        simp only [hdrop.on]
        rw [PortEntry.without, List.mem_filter, h.refs k' e he n]
        constructor
        · rintro ⟨⟨d', hd'⟩, hn⟩
          exact ⟨d', by simpa using hn, hd'⟩
        · rintro ⟨d', hn, hd'⟩
          exact ⟨⟨d', hd'⟩, by simpa using hn⟩
      apart := fun k₁ e₁ k₂ e₂ he₁ he₂ howns₁ howns₂ heq => by
        obtain ⟨e₁', he₁', rfl, -⟩ := (hget k₁ e₁).mp he₁
        obtain ⟨e₂', he₂', rfl, -⟩ := (hget k₂ e₂).mp he₂
        exact h.apart k₁ e₁' k₂ e₂' he₁' he₂' howns₁ howns₂ heq }

theorem Kept.dropped (h : Kept p) (hd : p.manager.devices.get? d.name = some d) (hdrop : Dropped d p p') :
    Kept p' where
  toTables := h.toTables.dropped hd hdrop
  shared n d' k' e' client hd' he' hclient := by
    obtain ⟨e, he, rfl, -⟩ := (hdrop.get? h.toTables hd k' e').mp he'
    rw [hdrop.objects.2.2.2.2]
    exact h.shared n d' k' e client (hdrop.on.mp hd').2 he hclient
  opens k' e' he' howns := by
    rw [hdrop.stays h.toTables hd he' howns]
    obtain ⟨e, he, rfl, -⟩ := (hdrop.get? h.toTables hd k' e').mp he'
    exact h.opens k' e he howns

theorem Tables.setClosed (h : Tables p) : Tables (setClosed p) where
  names := h.names
  name := h.name
  port n d k hd hkey := by
    obtain ⟨e, he, hs⟩ := h.port n d k hd hkey
    exact ⟨e, he, hs.client, hs.transport, hs.serial⟩
  balances := h.balances
  serving k e he := ⟨(h.serving k e he).client, (h.serving k e he).transport, (h.serving k e he).serial⟩
  used := h.used
  refs := h.refs
  apart := h.apart

theorem Kept.setClosed (h : Kept p) : Kept (setClosed p) :=
  ⟨h.toTables.setClosed, h.shared, h.opens⟩

/-! ## The serial ports -/

/-- The manager opened the serial port `t` for an entry that it still has. -/
def Owns (p : Process V) (t : Nat) : Prop :=
  ∃ k e, p.manager.ports.get? k = some e ∧ e.ownsTransport = true ∧ e.transport = t

theorem Kept.owns_open (h : Kept p) {t : Nat} (hown : Owns p t) : serialOpen (p.transports t) = some true := by
  obtain ⟨k, e, he, howns, rfl⟩ := hown
  exact h.opens k e he howns

/-- A serial port that the manager had or made since `p₀` is still in use, or it is closed. -/
def Settled (p₀ p : Process V) : Prop :=
  ∀ t, Owns p₀ t ∨ (p₀.nextTransport ≤ t ∧ t < p.nextTransport) →
    Owns p t ∨ serialOpen (p.transports t) = some false

theorem settled_refl (p : Process V) : Settled p p := by
  rintro t (hown | ⟨hle, hlt⟩)
  · exact .inl hown
  · exact absurd hle (Nat.not_le.mpr hlt)

theorem Settled.dropped (hs : Settled p₀ p) (h : Tables p) (hd : p.manager.devices.get? d.name = some d)
    (hdrop : Dropped d p p') : Settled p₀ p' := by
  intro t ht
  rw [hdrop.objects.2.1] at ht
  rcases hs t ht with ⟨k, e, he, howns, rfl⟩ | hclosed
  · by_cases hrefs : (e.without d.name).refs = []
    · exact .inr (hdrop.closes h hd he hrefs howns)
    · exact .inl ⟨k, e.without d.name, (hdrop.get? h hd k _).mpr ⟨e, he, rfl, hrefs⟩, howns, rfl⟩
  · rcases hdrop.stays_or_closes t with hsame | ⟨hclosed', -⟩
    · exact .inr (hsame.trans hclosed)
    · exact .inr hclosed'

theorem Unregistered.settled (hu : Unregistered p p') : Settled p p' := by
  rintro t (hown | ⟨hle, hlt⟩)
  · exact .inl (by rwa [Owns, hu.manager])
  · exact .inr (hu.fresh t hle hlt)

theorem Registered.settled (hr : Registered a k e b p p') : Settled p p' := by
  rintro t (⟨k', e', he', howns, rfl⟩ | ⟨hle, hlt⟩)
  · refine .inl ?_
    by_cases hk : k' = k
    · subst hk
      cases hr.origin with
      | found he =>
          rw [he] at he'
          cases he'
          exact ⟨k', { e with refs := e.refs.insert a.name }, by rw [hr.ports, Dict.get?_set_self], howns, rfl⟩
      | made he =>
          rw [he] at he'
          cases he'
    · exact ⟨k', e', by rw [hr.ports, Dict.get?_set_ne _ hk]; exact he', howns, rfl⟩
  · cases hr.origin with
    | found he hsame => omega
    | made he hrefs hnew hown =>
        cases howns : e.ownsTransport with
        | false => have := hown howns; omega
        | true =>
            obtain ⟨ht, hnext⟩ := hnew howns
            exact .inl ⟨k, { e with refs := e.refs.insert a.name }, by rw [hr.ports, Dict.get?_set_self], howns,
              by show e.transport = t; omega⟩

/-! ## Every call -/

theorem perform_kept (U : PortTransport V) {c : Call} (hpossible : c.Possible p) (h : Kept p) :
    Kept ((c.perform U).exec p).2 ∧ Settled p ((c.perform U).exec p).2 := by
  cases c with
  | add a =>
      have hspec := add_spec U (a := a) hpossible h.serving
      rw [Call.perform, exec_discard]
      rcases hrun : (add U a).exec p with ⟨x | b, p'⟩
      · have hu := hspec.error rfl hrun
        exact ⟨h.unregistered hu, hu.settled⟩
      · rcases hspec.ok rfl hrun with hp | ⟨k, e, hr⟩
        · have hb : b < p.nextBalance := by
            have hexists : a.source.Exists p := hpossible
            rw [hp.source] at hexists
            exact hexists
          refine ⟨h.prebuilt hp hb, ?_⟩
          rw [hp.process]
          exact settled_refl p
        · exact ⟨h.registered hr, hr.settled⟩
  | remove name =>
      have hspec := remove_spec U name h.toServed
      rw [Call.perform]
      rcases hrun : (remove U name).exec p with ⟨x | ⟨⟩, p'⟩
      · obtain rfl := hspec.error rfl hrun
        exact ⟨h, settled_refl _⟩
      · obtain ⟨d, hd, hdrop⟩ := hspec.ok rfl hrun
        obtain rfl := h.name name d hd
        exact ⟨h.dropped hd hdrop, (settled_refl p).dropped h.toTables hd hdrop⟩
  | close =>
      rw [Call.perform]
      rcases close_spec U (I := fun p' => Kept p' ∧ Settled p p') (fun _ hp => hp.1.toServed)
        (fun p₁ d p₂ hp hd hdrop => ⟨hp.1.dropped hd hdrop, hp.2.dropped hp.1.toTables hd hdrop⟩)
        ⟨h, settled_refl p⟩ with hsame | ⟨q, hend, ⟨hkept, hsettled⟩, -⟩
      · rw [hsame]
        exact ⟨h, settled_refl p⟩
      · rw [hend]
        exact ⟨hkept.setClosed, hsettled⟩

theorem step_kept {c : Call} (h : Kept p) (hstep : step U p c = some p') : Kept p' ∧ Settled p p' := by
  unfold step at hstep
  split at hstep
  · cases hstep
    exact perform_kept U ‹_› h
  · cases hstep

/-- What the registry says is true. -/
structure Books (p : Process V) : Prop where
  /-- The ports are those of the devices. -/
  ports : ∀ k, k ∈ Dict.keys p.manager.ports ↔ ∃ n d, On p n d k
  /-- The references of a port are the names of the balances on it. -/
  refs : ∀ k e, p.manager.ports.get? k = some e → ∀ n, n ∈ e.refs ↔ ∃ d, On p n d k
  /-- The balances on a port dispatch through its one client. -/
  client : ∀ k e, p.manager.ports.get? k = some e → ∃ client, e.client = some client ∧
    e.protocol = some client.protocol ∧ ∀ n d, On p n d k → Holds client (p.balances d.balance).session

theorem Kept.books (h : Kept p) : Books p where
  ports k := by
    rw [← Dict.get?_isSome_iff, Option.isSome_iff_exists]
    constructor
    · rintro ⟨e, he⟩
      obtain ⟨n, hn⟩ := List.exists_mem_of_ne_nil _ (h.used k e he)
      obtain ⟨d, hd⟩ := (h.refs k e he n).mp hn
      exact ⟨n, d, hd⟩
    · rintro ⟨n, d, hd, hkey⟩
      obtain ⟨e, he, -⟩ := h.port n d k hd hkey
      exact ⟨e, he⟩
  refs := h.refs
  client k e he := by
    obtain ⟨client, hclient, hprotocol⟩ := (h.serving k e he).client
    exact ⟨client, hclient, hprotocol, fun n d hd => h.shared n d k e client hd he hclient⟩

/-- After every call of every run the books are right, the serial ports that the manager had or made are open
exactly where an entry refers to them, and an `add` that failed has registered nothing. -/
theorem books_balance {calls : List Call} {c : Call} (hnew : p₀.manager = {})
    (hrun : run (step U) p₀ calls = some p) (hstep : step U p c = some p') :
    Books p' ∧
      (∀ t, Owns p t ∨ Owns p' t ∨ (p.nextTransport ≤ t ∧ t < p'.nextTransport) →
        (serialOpen (p'.transports t) = some true ↔ Owns p' t)) ∧
      ∀ a x, c = .add a → ((add U a).exec p).1 = .error x →
        p'.manager.devices = p.manager.devices ∧ p'.manager.ports = p.manager.ports := by
  have hkept : Kept p := run_invariant' (fun _ _ _ h hs => (step_kept h hs).1) (kept_new hnew) hrun
  obtain ⟨hkept', hsettled⟩ := step_kept hkept hstep
  refine ⟨hkept'.books, fun t ht => ⟨fun hopen => ?_, hkept'.owns_open⟩, ?_⟩
  · rcases or_left_comm.mp ht with hown | ht
    · exact hown
    · rcases hsettled t ht with hown | hclosed
      · exact hown
      · rw [hclosed] at hopen
        cases hopen
  · rintro a x rfl hfail
    unfold step at hstep
    split at hstep
    · cases hstep
      have hspec := add_spec U (a := a) ‹_› hkept.serving
      rw [Call.perform, exec_discard]
      rcases hadd : (add U a).exec p with ⟨y | b, p₁⟩
      · have hu := hspec.error rfl hadd
        exact ⟨by rw [hu.manager], by rw [hu.manager]⟩
      · rw [hadd] at hfail
        cases hfail
    · cases hstep

/-- A process in which no transport has a class of the caller's. -/
def serialOnly : PortTransport Empty where
  label := nofun
  write _ _ := pure ()
  readExact _ _ := pure []
  readUntil _ _ := pure []
  drainInput := pure ()
  reopen _ _ _ := pure ()
  isOpen := nofun
  openPort := pure ()
  close := pure ()

def freshProcess : Process Empty where
  transports _ := .inl { settings := { port := "" }, isOpen := false }
  balances _ := { transport := 0, session := { active := .xbpi } }
  sbiClients id := { id }

/-- A balance on the port "COM3", not identified. -/
def onCom3 (name : String) : AddRequest where
  name
  source := .path "COM3"
  identify := false

/-- Two balances share a port, and one of them goes. -/
theorem books_balance_shared : ∃ p p', run (step serialOnly) freshProcess
      [.add (onCom3 "a"), .add { onCom3 "c" with identify := true }, .add (onCom3 "b")] = some p ∧
    step serialOnly p (.remove "a") = some p' ∧ Dict.keys p'.manager.devices = ["b"] ∧ Books p' := by
  have hsome : (run (step serialOnly) freshProcess
      [.add (onCom3 "a"), .add { onCom3 "c" with identify := true }, .add (onCom3 "b"), .remove "a"]).map
      (fun p => Dict.keys p.manager.devices) = some ["b"] := by decide +kernel
  obtain ⟨p', hrun', hkeys⟩ := Option.map_eq_some_iff.mp hsome
  obtain ⟨p, hrun, hlast⟩ := Option.bind_eq_some_iff.mp ((@run_append _ _ (step serialOnly) freshProcess
    [.add (onCom3 "a"), .add { onCom3 "c" with identify := true }, .add (onCom3 "b")] [.remove "a"]).symm.trans hrun')
  obtain ⟨_, hstep, hend⟩ := run_cons_eq_some.mp hlast
  cases hend
  exact ⟨p, p', hrun, hstep, hkeys, (books_balance rfl hrun hstep).1⟩

end SartoriusLib.Manager
