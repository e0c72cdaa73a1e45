import SartoriusLib.Devices.Cache
import SartoriusLib.Registry.Parameters

/-!
# The typed accessors

The getters and setters of the balance are the reads and writes of a store: its menu has a running setting for each
parameter and a saved one. The accessors go through the cache of the session, and still each getter returns what the
last setter wrote.
-/

namespace SartoriusLib

open Lib Prog Registry

variable {W : Type}

/-! ## The accessors -/

inductive Accessor where
  | filterMode | displayUnit | autoZero | isocalMode | tareBehavior | menuAccess
  deriving DecidableEq, Repr

namespace Accessor

/-- `_TYPED_ACCESSOR_INDICES`. -/
def index : Accessor → Int
  | filterMode => 1
  | displayUnit => 7
  | autoZero => 6
  | isocalMode => 15
  | tareBehavior => 5
  | menuAccess => 40

/-- `_validate_accessor_registry`. -/
theorem hasSpec (a : Accessor) : (getParameterSpec a.index).isSome := by
  cases a <;> decide

def spec (a : Accessor) : ParameterSpec := (getParameterSpec a.index).get a.hasSpec

theorem getParameterSpec_index (a : Accessor) : getParameterSpec a.index = some a.spec :=
  (Option.some_get a.hasSpec).symm

theorem spec_index (a : Accessor) : a.spec.index = a.index := (getParameterSpec_wellFormed a.getParameterSpec_index).1

end Accessor

/-- A typed value for a parameter, as a setter takes it. -/
inductive Assignment where
  | filterMode (mode : Argument FilterMode)
  | displayUnit (unit : Argument MeasurementUnit)
  | autoZero (mode : Argument AutoZeroMode)
  | isocalMode (mode : Argument IsoCalMode)
  | tareBehavior (mode : Argument TareBehavior)
  | menuAccess (mode : Argument MenuAccessMode)

namespace Assignment

def accessor : Assignment → Accessor
  | filterMode _ => .filterMode
  | displayUnit _ => .displayUnit
  | autoZero _ => .autoZero
  | isocalMode _ => .isocalMode
  | tareBehavior _ => .tareBehavior
  | menuAccess _ => .menuAccess

/-- The error of a resolver as an exception. -/
def raising {α : Type} (r : Except SartoriusError α) : Except Exc α := r.mapError .sartorius

/-- The value that the setter resolves its argument to; a code of a unit is not looked up. -/
def resolved : Assignment → Except Exc Setting
  | filterMode mode => Registry.filterMode.setting <$> raising (resolveFilterMode mode)
  | displayUnit (.int n) => .ok (.int n)
  | displayUnit (.member u) => .unit <$> raising (resolveUnit (.inl u))
  | displayUnit (.text t) => .unit <$> raising (resolveUnit (.inr t))
  | autoZero mode => autoZeroMode.setting <$> raising (resolveAutoZero mode)
  | isocalMode mode => isoCalMode.setting <$> raising (resolveIsocalMode mode)
  | tareBehavior mode => Registry.tareBehavior.setting <$> raising (resolveTareBehavior mode)
  | menuAccess mode => menuAccessMode.setting <$> raising (resolveMenuAccess mode)

/-- The code that the setter writes. -/
def wire (x : Assignment) : Except Exc Int := do
  let value ← x.resolved
  x.accessor.spec.encode value

end Assignment

namespace Balance

/-- A getter: the raw value and its decoder. -/
def getSetting (T : Transport W) (a : Accessor) : Py (Host W) Setting := do
  let current ← getTyped T a.spec.index
  pure (a.spec.decode current)

/-- A setter: the value is resolved and encoded before anything is sent. -/
def assign (T : Transport W) (x : Assignment) (confirm : Bool) : Py (Host W) Unit :=
  setTyped T x.accessor.spec.index x.wire confirm

def getFilterMode (T : Transport W) : Py (Host W) Setting := getSetting T .filterMode

def setFilterMode (T : Transport W) (mode : Argument FilterMode) (confirm : Bool) : Py (Host W) Unit :=
  assign T (.filterMode mode) confirm

def setDisplayUnit (T : Transport W) (unit : Argument MeasurementUnit) (confirm : Bool) : Py (Host W) Unit :=
  assign T (.displayUnit unit) confirm

def getAutoZero (T : Transport W) : Py (Host W) Setting := getSetting T .autoZero

def setAutoZero (T : Transport W) (mode : Argument AutoZeroMode) (confirm : Bool) : Py (Host W) Unit :=
  assign T (.autoZero mode) confirm

def getIsocalMode (T : Transport W) : Py (Host W) Setting := getSetting T .isocalMode

def setIsocalMode (T : Transport W) (mode : Argument IsoCalMode) (confirm : Bool) : Py (Host W) Unit :=
  assign T (.isocalMode mode) confirm

def getTareBehavior (T : Transport W) : Py (Host W) Setting := getSetting T .tareBehavior

def setTareBehavior (T : Transport W) (mode : Argument TareBehavior) (confirm : Bool) : Py (Host W) Unit :=
  assign T (.tareBehavior mode) confirm

def getMenuAccess (T : Transport W) : Py (Host W) Setting := getSetting T .menuAccess

def setMenuAccess (T : Transport W) (mode : Argument MenuAccessMode) (confirm : Bool) : Py (Host W) Unit :=
  assign T (.menuAccess mode) confirm

end Balance

/-- A call that reads the menu or changes it. -/
inductive MenuCall where
  | get (a : Accessor)
  | set (x : Assignment) (confirm : Bool)
  | readParameter (index : Int)
  | writeParameter (index value : Int) (confirm : Bool)
  | saveMenu (confirm : Bool)
  | reloadMenu (confirm : Bool)

/-- What a call returns. -/
inductive MenuAnswer where
  | setting (value : Setting)
  | current (n : Nat)
  | done
  deriving DecidableEq, Repr

open Balance in
def MenuCall.perform (T : Transport W) : MenuCall → Py (Host W) MenuAnswer
  | get .filterMode => .setting <$> getFilterMode T
  | get .displayUnit => (fun u => .setting (.unit u)) <$> getDisplayUnit T
  | get .autoZero => .setting <$> getAutoZero T
  | get .isocalMode => .setting <$> getIsocalMode T
  | get .tareBehavior => .setting <$> getTareBehavior T
  | get .menuAccess => .setting <$> getMenuAccess T
  | set (.filterMode mode) confirm => (fun _ => .done) <$> setFilterMode T mode confirm
  | set (.displayUnit unit) confirm => (fun _ => .done) <$> setDisplayUnit T unit confirm
  | set (.autoZero mode) confirm => (fun _ => .done) <$> setAutoZero T mode confirm
  | set (.isocalMode mode) confirm => (fun _ => .done) <$> setIsocalMode T mode confirm
  | set (.tareBehavior mode) confirm => (fun _ => .done) <$> setTareBehavior T mode confirm
  | set (.menuAccess mode) confirm => (fun _ => .done) <$> setMenuAccess T mode confirm
  | readParameter index => (fun entry => .current entry.current) <$> Balance.readParameter T index
  | writeParameter index value confirm => (fun _ => .done) <$> Balance.writeParameter T index value confirm
  | saveMenu confirm => (fun _ => .done) <$> Balance.saveMenu T confirm
  | reloadMenu confirm => (fun _ => .done) <$> Balance.reloadMenu T confirm

/-- The outcomes of some calls, one after the other, and the host that they leave. -/
def MenuCall.runCalls (T : Transport W) : List MenuCall → Host W → List (Except Exc MenuAnswer) × Host W
  | [], h => ([], h)
  | c :: calls, h =>
      let (outcome, h) := (c.perform T).exec h
      let (outcomes, h) := runCalls T calls h
      (outcome :: outcomes, h)

/-! ## The store -/

/-- The running settings, which the parameters show, and the saved ones. -/
structure Menu where
  running : UInt8 → UInt8
  saved : UInt8 → UInt8

namespace Menu

def step (m : Menu) : Change → Menu
  | .write index value => { m with running := Function.update m.running index value }
  | .save => { m with saved := m.running }
  | .reload => { m with running := m.saved }

/-- The code of a parameter. -/
def current (m : Menu) (index : Int) : Nat := (m.running (Xbpi.toByte index)).toNat

/-- The change that a call asks for; a setter may refuse its argument. -/
def changeOf : MenuCall → Except Exc (Option Change)
  | .set x _ => (fun code => some (.write (Xbpi.toByte x.accessor.index) (Xbpi.toByte code))) <$> x.wire
  | .writeParameter index value _ => .ok (some (.write (Xbpi.toByte index) (Xbpi.toByte value)))
  | .saveMenu _ => .ok (some .save)
  | .reloadMenu _ => .ok (some .reload)
  | .get _ | .readParameter _ => .ok none

/-- What the store answers to a call. -/
def answerOf (m : Menu) : MenuCall → MenuAnswer
  | .get a => .setting (a.spec.decode (m.current a.index))
  | .readParameter index => .current (m.current index)
  | _ => .done

/-- What a call may do: it fails and changes nothing, or it is answered and its change is made. -/
inductive Serves (m : Menu) (c : MenuCall) : Except Exc MenuAnswer → Menu → Prop
  | refused (e : Exc) : Serves m c (.error e) m
  | answered {x : Option Change} (h : changeOf c = .ok x) : Serves m c (.ok (m.answerOf c)) (x.elim m m.step)

/-- The outcomes of a run of the store. -/
inductive Runs : Menu → List MenuCall → List (Except Exc MenuAnswer) → Menu → Prop
  | nil (m : Menu) : Runs m [] [] m
  | cons {m m' m'' : Menu} {c : MenuCall} {calls : List MenuCall} {outcome : Except Exc MenuAnswer}
      {outcomes : List (Except Exc MenuAnswer)} (first : m.Serves c outcome m') (rest : Runs m' calls outcomes m'') :
      Runs m (c :: calls) (outcome :: outcomes) m''

end Menu

/-! ## The accessors are one read and one write -/

theorem perform_get (T : Transport W) (a : Accessor) :
    (MenuCall.get a).perform T = .setting <$> Balance.getSetting T a := by
  cases a with
  | displayUnit =>
      show (fun u => MenuAnswer.setting (.unit u)) <$> Balance.getDisplayUnit T = _
      rw [Balance.getDisplayUnit, Balance.getSetting, ← comp_map, map_bind, ← bind_pure_comp]
      rfl
  | _ => rfl

theorem perform_set (T : Transport W) (x : Assignment) (confirm : Bool) :
    (MenuCall.set x confirm).perform T = (fun _ => .done) <$> Balance.assign T x confirm := by
  cases x <;> rfl

/-! ## A device with a menu -/

namespace Device

variable {C : Type} {D : Device C} {menu : C → Menu} {m : Menu} {h : Host (DeviceLine C)}

/-- The parameters of the device are its running settings, and it makes every change that it is asked for. -/
structure HasMenu (D : Device C) (menu : C → Menu) : Prop where
  reads : ∀ c index value, 0 ≤ index ∧ index ≤ 255 → D.reported (.parameter index) c = some value →
    ∃ entry, value = .parameter entry ∧ entry.current = (menu c).current index
  changes : ∀ c x, menu (D.change c x) = (menu c).step x

/-- Nobody is at the front panel, and each cached parameter is the current one. -/
structure Mirrors (menu : C → Menu) (m : Menu) (h : Host (DeviceLine C)) : Prop where
  active : h.session.active = .xbpi
  out : h.world.out = []
  panel : h.world.device.panel = []
  config : menu h.world.device.config = m
  entries : ∀ index counter value,
    h.session.resultCache.get? (Balance.cacheKeyParameter index) = some (counter, value) →
      (0 ≤ index ∧ index ≤ 255) ∧ ∃ entry, value = .parameter entry ∧ entry.current = m.current index

theorem front_quiet {w : DeviceState C} (hpanel : w.panel = []) : front w = w := by
  obtain ⟨config, ticks, panel⟩ := w
  cases hpanel
  rfl

/-- Where the configuration of the device and the cache stay, so does the mirror. -/
theorem Mirrors.same {h' : Host (DeviceLine C)} (hm : Mirrors menu m h) (hsame : SameCache h h')
    (hworld : h'.world = h.world) : Mirrors menu m h' where
  active := hsame.active.trans hm.active
  out := hworld ▸ hm.out
  panel := hworld ▸ hm.panel
  config := hworld ▸ hm.config
  entries := fun index counter value hget => hm.entries index counter value (hsame.resultCache ▸ hget)

/-- A read of a parameter on the wire. -/
theorem fetch_mirrors (hmenu : D.HasMenu menu) (hm : Mirrors menu m h) (index : Int) :
    ∃ result h', (CachedValue.parameter <$> execute D.transport Commands.READ_PARAMETER index false none).exec h =
      (result, h') ∧ SameCache h h' ∧ h'.world = h.world ∧
      ∀ value, result = .ok value → (0 ≤ index ∧ index ≤ 255) ∧
        ∃ entry, value = .parameter entry ∧ entry.current = m.current index := by
  obtain ⟨result, h', hrun, hsame, hcase⟩ :=
    D.execute_device hm.active hm.out Commands.READ_PARAMETER index false none
  have hmap : (CachedValue.parameter <$> execute D.transport Commands.READ_PARAMETER index false none).exec h =
      (CachedValue.parameter <$> result, h') := by
    rw [exec_map, hrun]
    cases result <;> rfl
  rcases hcase with ⟨hworld, e, rfl⟩ | ⟨variant, data, hvariant, hdata, hworld, hresult⟩
  · exact ⟨_, h', hmap, hsame, hworld, fun value hvalue => by cases hvalue⟩
  · cases hvariant
    obtain ⟨hrange, hframe⟩ := encode_oneArg hdata
    have hanswer := D.answer_read h.world.device hframe (by decide)
    rw [front_quiet hm.panel] at hanswer
    rw [hanswer] at hworld
    refine ⟨_, h', hmap, hsame, hworld.trans (Xbpi.Line.quiet hm.out), fun value hvalue => ⟨hrange, ?_⟩⟩
    cases hreply : Xbpi.frameReply (D.replyFrame data h.world.device) Commands.READ_PARAMETER.name (some 0x55) with
    | error e =>
        simp only [Commands.oneArg, hreply] at hresult
        obtain ⟨e, rfl⟩ := hresult
        cases hvalue
    | ok frame =>
        simp only [Commands.oneArg, hreply] at hresult
        rw [hresult] at hvalue
        have hreported : D.reported (.parameter index) h.world.device.config = some value :=
          reported_of_reply (congrArg Prod.fst hanswer) hreply hvalue
        have hentry := hmenu.reads _ _ _ hrange hreported
        rwa [hm.config] at hentry

theorem counter_mirrors (D : Device C) (hm : Mirrors menu m h) :
    ∃ result h', (readConfigCounter D.transport none).exec h = (result, h') ∧ SameCache h h' ∧
      h'.world = h.world := by
  obtain ⟨result, h', hrun, hsame, hcase⟩ := D.execute_device hm.active hm.out Commands.CONFIG_COUNTER () false none
  refine ⟨result, h', hrun, hsame, ?_⟩
  rcases hcase with ⟨hworld, -⟩ | ⟨variant, data, hvariant, hdata, hworld, -⟩
  · exact hworld
  · cases hvariant
    rw [hworld, D.answer_counter h.world.device (buildCommand_of_frameOf hdata), front_quiet hm.panel]
    exact Xbpi.Line.quiet hm.out

/-- What a read of a parameter returns. -/
def Shows (m : Menu) (index : Int) (value : CachedValue) : Prop :=
  ∃ entry, value = .parameter entry ∧ entry.current = m.current index

theorem serve_mirrors (key : String) (value : CachedValue) (origin : DeviceLine C) :
    Triple (Mirrors menu m) (serve key value origin) (fun v h => v = value ∧ Mirrors menu m h)
      (fun _ => Mirrors menu m) :=
  fun _ hm => ⟨rfl, hm.active, hm.out, hm.panel, hm.config, hm.entries⟩

theorem parameterKey_injective {index index' : Int}
    (h : Balance.cacheKeyParameter index = Balance.cacheKeyParameter index') : index = index' := by
  have hread : CachedRead.parameter index = CachedRead.parameter index' := CachedRead.cacheKey_injective h
  injection hread

/-- A value from the wire enters the cache. -/
theorem fresh_mirrors (hmenu : D.HasMenu menu) (index : Int) (counter : Nat) (origin : DeviceLine C) :
    Triple (Mirrors menu m)
      (do
        let result ← CachedValue.parameter <$> execute D.transport Commands.READ_PARAMETER index false none
        modifySession fun s =>
          { s with resultCache := s.resultCache.set (Balance.cacheKeyParameter index) (counter, result) }
        modify fun h' => { h' with origins := h'.origins.set (Balance.cacheKeyParameter index) origin }
        serve (Balance.cacheKeyParameter index) result origin)
      (fun value h => Shows m index value ∧ Mirrors menu m h) (fun _ => Mirrors menu m) := by
  refine Triple.bind (Q := fun value h => ((0 ≤ index ∧ index ≤ 255) ∧ Shows m index value) ∧ Mirrors menu m h) ?_ ?_
  · intro h hm
    obtain ⟨result, h', hrun, hsame, hworld, hvalue⟩ := fetch_mirrors hmenu hm index
    rw [hrun]
    cases result with
    | error e => exact hm.same hsame hworld
    | ok value => exact ⟨hvalue value rfl, hm.same hsame hworld⟩
  · rintro value h ⟨⟨hrange, hshows⟩, hm⟩
    refine ⟨hshows, hm.active, hm.out, hm.panel, hm.config, fun index' counter' value' hget => ?_⟩
    have hget : (h.session.resultCache.set (Balance.cacheKeyParameter index) (counter, value)).get?
        (Balance.cacheKeyParameter index') = some (counter', value') := hget
    rw [Dict.get?_set] at hget
    split at hget
    · rename_i hkey
      cases hget
      obtain rfl := parameterKey_injective hkey
      exact ⟨hrange, hshows⟩
    · exact hm.entries index' counter' value' hget

/-- A read of a parameter returns the running setting, from the wire or from the cache. -/
theorem readParameter_mirrors (hmenu : D.HasMenu menu) (index : Int) :
    Triple (Mirrors menu m) (Balance.readParameter D.transport index)
      (fun entry h => entry.current = m.current index ∧ Mirrors menu m h) (fun _ => Mirrors menu m) := by
  refine Triple.bind (Q := fun value h => Shows m index value ∧ Mirrors menu m h) ?_ ?_
  · refine Triple.get_bind fun h₀ hm₀ => ?_
    split
    · -- without a counter every read goes to the wire
      refine Triple.bind (Q := fun value h => Shows m index value ∧ Mirrors menu m h) ?_ fun value => ?_
      · rintro _ rfl
        obtain ⟨result, h', hrun, hsame, hworld, hvalue⟩ := fetch_mirrors hmenu hm₀ index
        rw [hrun]
        cases result with
        | error e => exact hm₀.same hsame hworld
        | ok value => exact ⟨(hvalue value rfl).2, hm₀.same hsame hworld⟩
      · refine Triple.get_bind fun h₁ hm₁ => ?_
        rintro h rfl
        exact ⟨hm₁.1, (serve_mirrors _ _ _ h hm₁.2).2⟩
    · refine Triple.bind (Q := fun _ => Mirrors menu m) ?_ fun counter => Triple.get_bind fun h₁ hm₁ => ?_
      · rintro _ rfl
        obtain ⟨result, h', hrun, hsame, hworld⟩ := counter_mirrors D hm₀
        rw [hrun]
        cases result <;> exact hm₀.same hsame hworld
      · have hfresh := fun h (heq : h = h₁) => fresh_mirrors hmenu index counter h₁.world h (heq ▸ hm₁)
        dsimp only
        cases hget : h₁.session.resultCache.get? (Balance.cacheKeyParameter index) with
        | none => exact hfresh
        | some entry =>
            obtain ⟨snapshot, value⟩ := entry
            dsimp only
            split
            · rintro h rfl
              exact ⟨(hm₁.entries index snapshot value hget).2, (serve_mirrors _ _ _ h hm₁).2⟩
            · exact hfresh
  · intro value
    cases value with
    | quantity q => exact Triple.throw fun _ hm => hm.2
    | parameter entry =>
        refine Triple.pure fun h hm => ⟨?_, hm.2⟩
        obtain ⟨entry', hentry, hcurrent⟩ := hm.1
        cases hentry
        exact hcurrent

/-- After a change the mirror shows the changed menu, if what is still in the cache was not altered. -/
theorem Mirrors.changed (hmenu : D.HasMenu menu) (hm : Mirrors menu m h) {h' : Host (DeviceLine C)} {x : Change}
    (hsame : SameCache h h') (hworld : h'.world = { device := D.apply x (front h.world.device) })
    (cache : Dict String (Nat × CachedValue))
    (hkept : ∀ index counter value, cache.get? (Balance.cacheKeyParameter index) = some (counter, value) →
      h.session.resultCache.get? (Balance.cacheKeyParameter index) = some (counter, value) ∧
        ((0 ≤ index ∧ index ≤ 255) → (m.step x).current index = m.current index)) :
    Mirrors menu (m.step x) { h' with session := { h'.session with resultCache := cache } } where
  active := hsame.active.trans hm.active
  out := by
    show h'.world.out = []
    rw [hworld]
  panel := by
    rw [hworld, front_quiet hm.panel]
    exact hm.panel
  config := by
    rw [hworld, front_quiet hm.panel]
    exact (hmenu.changes _ _).trans (by rw [hm.config])
  entries := by
    intro index counter value hget
    obtain ⟨hold, hstays⟩ := hkept index counter value hget
    obtain ⟨hrange, entry, hvalue, hcurrent⟩ := hm.entries index counter value hold
    exact ⟨hrange, entry, hvalue, hcurrent.trans (hstays hrange).symm⟩

theorem writeParameter_mirrors (hmenu : D.HasMenu menu) (index value : Int) (confirm : Bool) :
    Triple (Mirrors menu m) (Balance.writeParameter D.transport index value confirm)
      (fun _ => Mirrors menu (m.step (.write (Xbpi.toByte index) (Xbpi.toByte value)))) (fun _ => Mirrors menu m) := by
  intro h hm
  obtain ⟨result, h', hrun, hsame, hcase⟩ := D.execute_change hm.active hm.out Commands.WRITE_PARAMETER
    (⟨index, value⟩ : Commands.WriteParameterRequest) confirm (x := .write (Xbpi.toByte index) (Xbpi.toByte value)) rfl
    (fun _ _ => rfl) fun data hdata => by
      obtain ⟨-, -, hframe⟩ := encode_writeParameter hdata
      exact D.answer_change h.world.device hframe _ (.inl ⟨rfl, rfl⟩)
  rcases hcase with ⟨⟨e, rfl⟩, hworld⟩ | ⟨rfl, hworld, data, hdata⟩
  · rw [Balance.writeParameter, exec_bind_error hrun]
    exact hm.same hsame hworld
  · obtain ⟨hindex, -, -⟩ := encode_writeParameter hdata
    rw [Balance.writeParameter, exec_bind_ok hrun]
    refine hm.changed hmenu hsame hworld _ fun index' counter value' hget => ?_
    have hget : (h'.session.resultCache.pop (Balance.cacheKeyParameter index)).get?
      (Balance.cacheKeyParameter index') = some (counter, value') := hget
    rw [Dict.get?_pop, hsame.resultCache] at hget
    split at hget
    · cases hget
    · rename_i hkey
      refine ⟨hget, fun hrange => ?_⟩
      have hne : Xbpi.toByte index' ≠ Xbpi.toByte index := fun heq =>
        hkey (congrArg Balance.cacheKeyParameter (Xbpi.toByte_inj hrange hindex heq))
      show (Function.update m.running _ _ _).toNat = _
      rw [Function.update_of_ne hne]
      rfl

theorem menu_mirrors (hmenu : D.HasMenu menu) {command : Command Unit Unit} {opcode : Int} {x : Change} (confirm : Bool)
    (hx : command.xbpi = some (Commands.ackOnly opcode))
    (hchange : (opcode = 0x47 ∧ x = .save) ∨ (opcode = 0x46 ∧ x = .reload)) :
    Triple (Mirrors menu m)
      (do
        execute D.transport command () confirm none
        modifySession (·.invalidateCache none))
      (fun _ => Mirrors menu (m.step x)) (fun _ => Mirrors menu m) := by
  intro h hm
  obtain ⟨result, h', hrun, hsame, hcase⟩ := D.execute_change hm.active hm.out command () (x := x) confirm hx
    (fun _ _ => rfl) fun data hdata => D.answer_change h.world.device (buildCommand_of_frameOf hdata) x (.inr hchange)
  rcases hcase with ⟨⟨e, rfl⟩, hworld⟩ | ⟨rfl, hworld, -⟩
  · rw [exec_bind_error hrun]
    exact hm.same hsame hworld
  · rw [exec_bind_ok hrun]
    exact hm.changed hmenu hsame hworld [] fun _ _ _ hget => by cases hget

/-! ## The accessors refine the store -/

/-- A call is answered as the store answers, and leaves the menu that the store leaves. -/
def AnsweredAs (menu : C → Menu) (m : Menu) (c : MenuCall) (answer : MenuAnswer) (h : Host (DeviceLine C)) : Prop :=
  answer = m.answerOf c ∧ ∃ x, Menu.changeOf c = .ok x ∧ Mirrors menu (x.elim m m.step) h

theorem map_triple {α : Type} {c : MenuCall} {prog : Py (Host (DeviceLine C)) α} {f : α → MenuAnswer}
    (h : Triple (Mirrors menu m) prog (fun a => AnsweredAs menu m c (f a)) fun _ => Mirrors menu m) :
    Triple (Mirrors menu m) (f <$> prog) (AnsweredAs menu m c) fun _ => Mirrors menu m := by
  rw [← bind_pure_comp]
  exact h.bind fun a => Triple.pure fun _ hq => hq

theorem getSetting_mirrors (hmenu : D.HasMenu menu) (a : Accessor) :
    Triple (Mirrors menu m) (Balance.getSetting D.transport a)
      (fun value h => value = a.spec.decode (m.current a.index) ∧ Mirrors menu m h) (fun _ => Mirrors menu m) := by
  rw [Balance.getSetting, a.spec_index]
  refine Triple.bind (Q := fun n h => n = m.current a.index ∧ Mirrors menu m h) ?_ fun n => ?_
  · refine (readParameter_mirrors hmenu a.index).bind fun entry => Triple.pure fun _ hq => hq
  · exact Triple.pure fun h hq => ⟨by rw [hq.1], hq.2⟩

theorem assign_mirrors (hmenu : D.HasMenu menu) (x : Assignment) (confirm : Bool) :
    Triple (Mirrors menu m) (Balance.assign D.transport x confirm)
      (fun _ => AnsweredAs menu m (.set x confirm) .done) (fun _ => Mirrors menu m) := by
  rw [Balance.assign, Balance.setTyped, x.accessor.spec_index]
  cases hwire : x.wire with
  | error e => exact Triple.bind (Q := fun _ _ => False) (Triple.throw fun _ hm => hm) fun _ _ hfalse => hfalse.elim
  | ok code =>
      have hchange : Menu.changeOf (.set x confirm) =
          .ok (some (.write (Xbpi.toByte x.accessor.index) (Xbpi.toByte code))) := by
        rw [Menu.changeOf, hwire]
        rfl
      show Triple _ (pure code >>= fun value => Balance.writeParameter D.transport x.accessor.index value confirm) _ _
      rw [pure_bind]
      exact (writeParameter_mirrors hmenu x.accessor.index code confirm).conseq (fun _ hm => hm)
        (fun _ h hq => ⟨rfl, _, hchange, hq⟩) fun _ _ hr => hr

theorem perform_triple (hmenu : D.HasMenu menu) (c : MenuCall) :
    Triple (Mirrors menu m) (c.perform D.transport) (AnsweredAs menu m c) fun _ => Mirrors menu m := by
  cases c with
  | get a =>
      rw [perform_get]
      exact map_triple ((getSetting_mirrors hmenu a).conseq (fun _ hm => hm)
        (fun value h hq => ⟨congrArg MenuAnswer.setting hq.1, none, rfl, hq.2⟩) fun _ _ hr => hr)
  | set x confirm =>
      rw [perform_set]
      exact map_triple (assign_mirrors hmenu x confirm)
  | readParameter index =>
      exact map_triple ((readParameter_mirrors hmenu index).conseq (fun _ hm => hm)
        (fun entry h hq => ⟨congrArg MenuAnswer.current hq.1, none, rfl, hq.2⟩) fun _ _ hr => hr)
  | writeParameter index value confirm =>
      exact map_triple ((writeParameter_mirrors hmenu index value confirm).conseq (fun _ hm => hm)
        (fun _ h hq => ⟨rfl, some _, rfl, hq⟩) fun _ _ hr => hr)
  | saveMenu confirm =>
      exact map_triple ((menu_mirrors hmenu confirm rfl (.inl ⟨rfl, rfl⟩)).conseq (fun _ hm => hm)
        (fun _ h hq => ⟨rfl, some .save, rfl, hq⟩) fun _ _ hr => hr)
  | reloadMenu confirm =>
      exact map_triple ((menu_mirrors hmenu confirm rfl (.inr ⟨rfl, rfl⟩)).conseq (fun _ hm => hm)
        (fun _ h hq => ⟨rfl, some .reload, rfl, hq⟩) fun _ _ hr => hr)

/-- What a call leaves: the store served it, and the host mirrors the store. -/
theorem perform_serves (hmenu : D.HasMenu menu) (c : MenuCall) (hm : Mirrors menu m h) :
    ∃ m', m.Serves c ((c.perform D.transport).exec h).1 m' ∧ Mirrors menu m' ((c.perform D.transport).exec h).2 := by
  have htriple := perform_triple (m := m) hmenu c
  rcases hrun : (c.perform D.transport).exec h with ⟨e | answer, h'⟩
  · exact ⟨m, .refused e, htriple.error hm hrun⟩
  · obtain ⟨rfl, x, hx, hm'⟩ := htriple.ok hm hrun
    exact ⟨_, .answered hx, hm'⟩

theorem runCalls_runs (hmenu : D.HasMenu menu) (calls : List MenuCall) (hm : Mirrors menu m h) :
    ∃ m', Menu.Runs m calls (MenuCall.runCalls D.transport calls h).1 m' ∧
      Mirrors menu m' (MenuCall.runCalls D.transport calls h).2 := by
  induction calls generalizing m h with
  | nil => exact ⟨m, .nil m, hm⟩
  | cons c calls ih =>
      obtain ⟨m₁, hserves, hm₁⟩ := perform_serves hmenu c hm
      obtain ⟨m', hruns, hm'⟩ := ih hm₁
      exact ⟨m', .cons hserves hruns, hm'⟩

/-- A balance with nobody at its front panel whose cache is still empty. -/
structure Untouched (h : Host (DeviceLine C)) : Prop where
  active : h.session.active = .xbpi
  out : h.world.out = []
  panel : h.world.device.panel = []
  resultCache : h.session.resultCache = []

theorem Untouched.mirrors (hh : Untouched h) : Mirrors menu (menu h.world.device.config) h :=
  ⟨hh.active, hh.out, hh.panel, rfl, fun index counter value hget => by
    rw [hh.resultCache] at hget
    cases hget⟩

/-- Every run of getters and setters, raw reads and writes of parameters, saves and reloads is a run of the store:
each call fails and changes nothing or is answered as the store answers, although the reads go through the cache,
and the menu of the device is that of the store at the end. -/
theorem accessors_refine_menu (hmenu : D.HasMenu menu) (calls : List MenuCall) (hh : Untouched h) :
    Menu.Runs (menu h.world.device.config) calls (MenuCall.runCalls D.transport calls h).1
      (menu (MenuCall.runCalls D.transport calls h).2.world.device.config) := by
  obtain ⟨m', hruns, hm'⟩ := runCalls_runs hmenu calls hh.mirrors
  rw [hm'.config]
  exact hruns

/-! ## The last setter -/

/-- A call that may change the parameter of an accessor. -/
def touches (a : Accessor) : MenuCall → Bool
  | .set x _ => x.accessor = a
  | .writeParameter index _ _ => Xbpi.toByte index = Xbpi.toByte a.index
  | .reloadMenu _ => true
  | .get _ | .readParameter _ | .saveMenu _ => false

theorem accessor_of_index {a b : Accessor} (h : Xbpi.toByte a.index = Xbpi.toByte b.index) : a = b := by
  cases a <;> cases b <;> first | rfl | exact absurd h (by decide)

/-- What does not touch a parameter leaves it. -/
theorem serves_current {m m' : Menu} {c : MenuCall} {outcome : Except Exc MenuAnswer} {a : Accessor}
    (h : m.Serves c outcome m') (hc : touches a c = false) : m'.current a.index = m.current a.index := by
  cases h with
  | refused e => rfl
  | answered hx =>
      cases c with
      | get b => cases hx; rfl
      | readParameter index => cases hx; rfl
      | saveMenu confirm => cases hx; rfl
      | reloadMenu confirm => cases hc
      | writeParameter index value confirm =>
          cases hx
          have hne : Xbpi.toByte a.index ≠ Xbpi.toByte index := fun heq =>
            absurd heq.symm (of_decide_eq_false hc)
          exact congrArg UInt8.toNat (Function.update_of_ne hne _ _)
      | set x confirm =>
          have hother : x.accessor ≠ a := of_decide_eq_false hc
          cases hwire : x.wire with
          | error e =>
              rw [Menu.changeOf, hwire] at hx
              cases hx
          | ok code =>
              rw [Menu.changeOf, hwire] at hx
              cases hx
              have hne : Xbpi.toByte a.index ≠ Xbpi.toByte x.accessor.index := fun heq =>
                hother (accessor_of_index heq).symm
              exact congrArg UInt8.toNat (Function.update_of_ne hne _ _)

theorem runs_current {m m' : Menu} {calls : List MenuCall} {outcomes : List (Except Exc MenuAnswer)} {a : Accessor}
    (h : Menu.Runs m calls outcomes m') (hcalls : ∀ c ∈ calls, touches a c = false) :
    m'.current a.index = m.current a.index := by
  induction h with
  | nil m => rfl
  | cons first rest ih =>
      rw [ih fun c hc => hcalls c (List.mem_cons_of_mem _ hc)]
      exact serves_current first (hcalls _ List.mem_cons_self)

/-- An acknowledged setter leaves the code that it encoded. -/
theorem serves_set {m m' : Menu} {x : Assignment} {confirm : Bool} {answer : MenuAnswer}
    (h : m.Serves (.set x confirm) (.ok answer) m') :
    ∃ code, x.wire = .ok code ∧ m'.current x.accessor.index = (Xbpi.toByte code).toNat := by
  cases h with
  | answered hx =>
      cases hwire : x.wire with
      | error e =>
          rw [Menu.changeOf, hwire] at hx
          cases hx
      | ok code =>
          rw [Menu.changeOf, hwire] at hx
          cases hx
          exact ⟨code, rfl, congrArg UInt8.toNat (Function.update_self ..)⟩

/-- The value that a getter shows for a setter's value: a code stands for its unit. -/
def shown : Setting → Setting
  | .int n => .unit (displayUnitCodeToUnit n.toNat)
  | value => value

theorem setting_of {E : Type} [DecidableEq E] {cls : EnumClass E} {spec : ParameterSpec}
    (hspec : spec.enum = some cls.erase) (hzero : 0 ∈ cls.erase.values) (e : E) : (cls.setting e).Of spec := by
  rw [Setting.Of, hspec]
  refine ⟨_, ?_, rfl⟩
  cases hfind : cls.members.find? fun m => m.2.2 = e with
  | none => exact hzero
  | some entry =>
      have hmem : (entry.1, entry.2.1) ∈ cls.erase.members :=
        List.mem_map_of_mem (f := fun m => (m.1, m.2.1)) (List.mem_of_find?_eq_some hfind)
      exact List.mem_map_of_mem (f := Prod.snd) hmem

theorem map_eq_ok {α β : Type} {f : α → β} {r : Except Exc α} {b : β} (h : f <$> r = .ok b) : ∃ a, b = f a := by
  cases r with
  | error e => cases h
  | ok a =>
      cases h
      exact ⟨a, rfl⟩

theorem resolved_of {x : Assignment} {value : Setting} (h : x.resolved = .ok value) :
    value.Of x.accessor.spec ∨ x.accessor = .displayUnit ∧ ∃ n, value = .int n := by
  cases x with
  | filterMode mode =>
      obtain ⟨e, rfl⟩ := map_eq_ok h
      exact .inl (setting_of rfl (by decide) e)
  | autoZero mode =>
      obtain ⟨e, rfl⟩ := map_eq_ok h
      exact .inl (setting_of rfl (by decide) e)
  | isocalMode mode =>
      obtain ⟨e, rfl⟩ := map_eq_ok h
      exact .inl (setting_of rfl (by decide) e)
  | tareBehavior mode =>
      obtain ⟨e, rfl⟩ := map_eq_ok h
      exact .inl (setting_of rfl (by decide) e)
  | menuAccess mode =>
      obtain ⟨e, rfl⟩ := map_eq_ok h
      exact .inl (setting_of rfl (by decide) e)
  | displayUnit unit =>
      cases unit with
      | int n =>
          cases h
          exact .inr ⟨rfl, n, rfl⟩
      | member u =>
          obtain ⟨e, rfl⟩ := map_eq_ok h
          exact .inl ⟨e, rfl⟩
      | text t =>
          obtain ⟨e, rfl⟩ := map_eq_ok h
          exact .inl ⟨e, rfl⟩

/-- The code that is written decodes to the value that was given. -/
theorem wire_decodes {x : Assignment} {code : Int} (h : x.wire = .ok code) :
    ∃ value, x.resolved = .ok value ∧ x.accessor.spec.decode (Xbpi.toByte code).toNat = shown value := by
  rw [Assignment.wire] at h
  cases hvalue : x.resolved with
  | error e =>
      rw [hvalue] at h
      cases h
  | ok value =>
      rw [hvalue] at h
      have hencode : x.accessor.spec.encode value = .ok code := h
      refine ⟨value, rfl, ?_⟩
      rcases resolved_of hvalue with hof | ⟨haccessor, n, rfl⟩
      · obtain ⟨-, ⟨hlow, hhigh⟩, hdecode⟩ :=
          (ParameterSpec.encode_eq_ok x.accessor.getParameterSpec_index hof).mp hencode
        have hshown : shown value = value := by
          rw [Setting.Of] at hof
          split at hof
          · obtain ⟨u, rfl⟩ := hof
            rfl
          · obtain ⟨k, -, rfl⟩ := hof
            rfl
        have hbyte : (Xbpi.toByte code).toNat = code.toNat := by
          have := Xbpi.toByte_toNat hlow hhigh
          omega
        rw [hbyte, hdecode, hshown]
      · rw [haccessor] at hencode ⊢
        have hunit : (if 1 ≤ n ∧ n < 25 then Except.ok n
            else .error (.valueError s!"display-unit code {n} out of range (1..24)") : Except Exc Int) = .ok code :=
          hencode
        split at hunit
        · rename_i hrange
          cases hunit
          have hbyte : (Xbpi.toByte code).toNat = code.toNat := by
            have : ((Xbpi.toByte code).toNat : Int) = code := Xbpi.toByte_toNat (by omega) (by omega)
            omega
          rw [hbyte]
          rfl
        · cases hunit

/-- A getter that answers returns the value of the last setter that was acknowledged, whatever was called before,
as long as nothing else touches the parameter in between. -/
theorem get_returns_last_set (hmenu : D.HasMenu menu) {h₀ h₁ h₂ : Host (DeviceLine C)} (hh : Untouched h₀)
    (before between : List MenuCall) (x : Assignment) (confirm : Bool)
    (hbetween : ∀ c ∈ between, touches x.accessor c = false) {ack answer : MenuAnswer}
    (hset : ((MenuCall.set x confirm).perform D.transport).exec (MenuCall.runCalls D.transport before h₀).2 =
      (.ok ack, h₁))
    (hget : ((MenuCall.get x.accessor).perform D.transport).exec (MenuCall.runCalls D.transport between h₁).2 =
      (.ok answer, h₂)) :
    ∃ value, x.resolved = .ok value ∧ answer = .setting (shown value) := by
  obtain ⟨m₀, -, hm₀⟩ := runCalls_runs hmenu before (show Mirrors menu _ h₀ from hh.mirrors)
  obtain ⟨m₁, hserves, hm₁⟩ := perform_serves hmenu (.set x confirm) hm₀
  rw [hset] at hserves hm₁
  obtain ⟨code, hwire, hcurrent⟩ := serves_set hserves
  obtain ⟨m₂, hruns, hm₂⟩ := runCalls_runs hmenu between hm₁
  have hstays := runs_current hruns hbetween
  obtain ⟨hanswer, -⟩ := (perform_triple hmenu (.get x.accessor)).ok hm₂ hget
  obtain ⟨value, hresolved, hdecode⟩ := wire_decodes hwire
  refine ⟨value, hresolved, ?_⟩
  rw [hanswer, Menu.answerOf, hstays, hcurrent, hdecode]

/-- A device whose configuration is its menu. -/
def menuDevice : Device Menu where
  report c _ arg := (0x21, [c.running arg, 0x21, 0xFF])
  change c x := c.step x
  counted _ _ := true
  report_size _ _ _ := by simp
  uncounted _ _ h := by cases h

theorem menuDevice_reported (c : Menu) (index : Int) :
    menuDevice.reported (.parameter index) c = some (.parameter
      { index := -1, current := c.current index, max := 255, raw := [c.running (Xbpi.toByte index), 0x21, 0xFF] }) :=
  rfl

theorem menuDevice_hasMenu : menuDevice.HasMenu id where
  reads := by
    intro c index value _ hvalue
    rw [menuDevice_reported] at hvalue
    cases hvalue
    exact ⟨_, rfl, rfl⟩
  changes _ _ := rfl

/-- The filter is 1 in the running menu and in the saved one. -/
def menuHost : Host (DeviceLine Menu) where
  world := { device := { config := { running := fun _ => 1, saved := fun _ => 1 } } }
  session := { active := .xbpi, xbpi := some { id := 0 }, capabilities := [.configCounter, .parameterTable] }

theorem menuHost_untouched : Untouched menuHost := ⟨rfl, rfl, rfl, rfl⟩

/-- Reads around a write, a save and a reload. -/
def menuCalls : List MenuCall :=
  [.get .filterMode, .set (.filterMode (.text "very unstable".toList)) true, .get .filterMode, .reloadMenu true,
   .get .filterMode]

theorem accessors_refine_menu_filter :
    (MenuCall.runCalls menuDevice.transport menuCalls menuHost).1 =
        [.ok (.setting (.member "FilterMode" 1)), .ok .done, .ok (.setting (.member "FilterMode" 4)), .ok .done,
          .ok (.setting (.member "FilterMode" 1))] ∧
      Menu.Runs (id menuHost.world.device.config) menuCalls (MenuCall.runCalls menuDevice.transport menuCalls menuHost).1
        (id (MenuCall.runCalls menuDevice.transport menuCalls menuHost).2.world.device.config) :=
  ⟨by decide +kernel, accessors_refine_menu menuDevice_hasMenu menuCalls menuHost_untouched⟩

theorem get_returns_last_set_filter :
    ∃ value, (Assignment.filterMode (.text "very unstable".toList)).resolved = .ok value ∧
      MenuAnswer.setting (.member "FilterMode" 4) = .setting (shown value) := by
  have hset : ((MenuCall.set (.filterMode (.text "very unstable".toList)) true).perform menuDevice.transport |>.exec
      (MenuCall.runCalls menuDevice.transport [.get .filterMode] menuHost).2).1 = .ok .done := by
    decide +kernel
  refine get_returns_last_set menuDevice_hasMenu menuHost_untouched [.get .filterMode] [.get .displayUnit]
    (.filterMode (.text "very unstable".toList)) true (by decide) (Prod.ext hset rfl) (Prod.ext ?_ rfl)
  decide +kernel

end Device

end SartoriusLib
