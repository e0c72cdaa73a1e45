import SartoriusLib.Devices.RequestTrace

/-!
# An opening only reads

The probes of a detection and the reads of an identification, its retries included, are requests of the read-only
safe-lists: whatever the device answers, `open_device` gives nothing else to the line.
-/

namespace SartoriusLib

open Lib Prog

variable {W : Type}

/-- A request that is on the safe-list of its protocol. -/
inductive ReadOnlyRequest : Bytes → Prop where
  | frame {opcode srcSbn dstSbn : Int} {args data : Bytes} (hopcode : opcode ∈ Commands.safeReadOnlyOpcodes)
      (hdata : Xbpi.buildCommand opcode args srcSbn dstSbn = .ok data) : ReadOnlyRequest data
  | token {data : Bytes} (hdata : data ∈ Sbi.sbiReadOnlyTokens) : ReadOnlyRequest data

/-! ## Programs that write only what is allowed -/

/-- Whatever `m` gives to the line is in `R`. -/
def WritesOnly {σ α : Type} (trace : σ → List LineEvent) (R : Bytes → Prop) (m : Py σ α) : Prop :=
  Prog.Emits trace m fun _ es => ∀ data ∈ writes es, R data

namespace WritesOnly

variable {σ α β : Type} {trace : σ → List LineEvent} {R : Bytes → Prop}

theorem of_silent {m : Py σ α} (h : Silent trace m) : WritesOnly trace R m := by
  refine Prog.Emits.conseq h fun _ es hes data hdata => ?_
  rw [hes] at hdata
  cases hdata

theorem pure (a : α) : WritesOnly trace R (pure a : Py σ α) := of_silent (.pure a)

theorem throw (e : Exc) : WritesOnly trace R (throw e : Py σ α) := of_silent (.throw e)

theorem raise (cls : ErrorClass) (message : String) (context : ErrorContext) :
    WritesOnly trace R (raise cls message context : Py σ α) := throw _

theorem modify {f : σ → σ} (h : ∀ s, trace (f s) = trace s) : WritesOnly trace R (modify f : Py σ PUnit) :=
  of_silent (.modify h)

/-- What is added behind an allowed part of the trace. -/
theorem append {m : Py σ α} {es : List LineEvent} (hm : WritesOnly trace R m) (hes : ∀ data ∈ writes es, R data) :
    Prog.Emits trace m fun _ later => ∀ data ∈ writes (es ++ later), R data := by
  refine Prog.Emits.conseq hm fun _ later hlater data hdata => ?_
  rw [writes_append] at hdata
  cases List.mem_append.mp hdata with
  | inl hdata => exact hes data hdata
  | inr hdata => exact hlater data hdata

theorem bind {m : Py σ α} {f : α → Py σ β} (hm : WritesOnly trace R m) (hf : ∀ a, WritesOnly trace R (f a)) :
    WritesOnly trace R (m >>= f) :=
  Prog.Emits.bind hm (fun _ _ h => h) fun a _ h => (hf a).append h

theorem get_bind {f : σ → Py σ β} (h : ∀ s, WritesOnly trace R (f s)) : WritesOnly trace R (MonadState.get >>= f) :=
  Prog.Emits.get_bind h

theorem map {m : Py σ α} (f : α → β) (hm : WritesOnly trace R m) : WritesOnly trace R (f <$> m) :=
  Prog.Emits.map hm (fun _ _ h => h) fun _ _ h => h

theorem tryCatch {m : Py σ α} {h : Exc → Py σ α} (hm : WritesOnly trace R m) (hh : ∀ e, WritesOnly trace R (h e)) :
    WritesOnly trace R (tryCatch m h) :=
  Prog.Emits.tryCatch hm (fun _ _ h => h) fun e _ he => (hh e).append he

theorem exceptClasses {classes : List ErrorClass} {m : Py σ α} {h : Exc → Py σ α} (hm : WritesOnly trace R m)
    (hh : ∀ e, WritesOnly trace R (h e)) : WritesOnly trace R (exceptClasses classes m h) :=
  Emits.exceptClasses hm (fun _ _ h => h) (fun _ _ h _ => h) fun e _ he _ => (hh e).append he

theorem exceptException {m : Py σ α} {h : Exc → Py σ α} (hm : WritesOnly trace R m)
    (hh : ∀ e, WritesOnly trace R (h e)) : WritesOnly trace R (exceptException m h) :=
  Emits.exceptException hm (fun _ _ h => h) (fun _ _ h _ => h) fun e _ he _ => (hh e).append he

theorem ite {c : Prop} [Decidable c] {m n : Py σ α} (hm : c → WritesOnly trace R m) (hn : ¬ c → WritesOnly trace R n) :
    WritesOnly trace R (if c then m else n) := by
  split
  · exact hm ‹_›
  · exact hn ‹_›

theorem liftExcept (x : Except SartoriusError α) : WritesOnly trace R (liftExcept x : Py σ α) := by
  cases x with
  | ok a => exact pure a
  | error e => exact throw _

theorem liftExc (x : Except Exc α) : WritesOnly trace R (liftExc x : Py σ α) := by
  cases x with
  | ok a => exact pure a
  | error e => exact throw e

/-- A pure function that may raise, and what follows its value. -/
theorem liftExc_bind {x : Except Exc α} {f : α → Py σ β} (h : ∀ a, x = .ok a → WritesOnly trace R (f a)) :
    WritesOnly trace R (SartoriusLib.liftExc x >>= f) := by
  cases x with
  | error e => exact throw e
  | ok a => exact h a rfl

end WritesOnly

variable {α : Type} {R : Bytes → Prop}

/-- The trace of a balance. -/
abbrev hostLine (h : Host (Traced W)) : List LineEvent := h.world.events

theorem WritesOnly.onWorld {m : Py (Traced W) α} (hm : WritesOnly Traced.events R m) :
    WritesOnly hostLine R (SartoriusLib.onWorld m) :=
  Prog.Emits.zoom (fun _ _ => rfl) hm

theorem WritesOnly.onHost {m : Py (Host (Traced W)) α} (hm : WritesOnly hostLine R m) :
    WritesOnly Factory.lineOf R (Factory.onHost m) :=
  Prog.Emits.zoom (fun _ _ => rfl) hm

theorem WritesOnly.onSbi (client : Sbi.SbiClient) {m : Py (Sbi.SbiLink (Traced W)) α}
    (hm : WritesOnly (fun s : Sbi.SbiLink (Traced W) => s.world.events) R m) :
    WritesOnly hostLine R (SartoriusLib.onSbi client m) := by
  intro h
  obtain ⟨es, hes, hR⟩ := hm { client := client, world := h.world }
  exact ⟨es, hes, hR⟩

theorem WritesOnly.modifySession (f : Session → Session) :
    WritesOnly hostLine R (modifySession f : Py (Host (Traced W)) Unit) :=
  .modify fun _ => rfl

theorem WritesOnly.ignoringWarnings {m : Py (Host (Traced W)) α} (hm : WritesOnly hostLine R m) :
    WritesOnly hostLine R (SartoriusLib.ignoringWarnings m) := by
  intro h
  obtain ⟨es, hes, hR⟩ := hm { h with warnings := .ignore }
  exact ⟨es, hes, hR⟩

/-! ## Exchanges -/

section Exchanges

variable (T : Transport W)

theorem Xbpi.executeLocked_writesOnly (disposed : Bool) {request : Bytes} (hrequest : R request) (timeout : Rat)
    (commandName : String) (opcode : Option Int) :
    WritesOnly Traced.events R (executeLocked (traced T) disposed request timeout commandName opcode) := by
  cases disposed with
  | true => exact .throw _
  | false =>
      refine Prog.Emits.conseq (executeLocked_writes T rfl request timeout commandName opcode) ?_
      intro _ es hes data hdata
      rw [hes, List.mem_singleton] at hdata
      rwa [hdata]

theorem Sbi.execute_writesOnly {request : Bytes} (hrequest : R request) (timeout : Rat) (commandName : String)
    (sbiToken : Option Bytes) (expectLines : Int) :
    WritesOnly (fun s : SbiLink (Traced W) => s.world.events) R
      (execute (traced T) request timeout commandName sbiToken expectLines) := by
  refine Prog.Emits.conseq (execute_writes T request timeout commandName sbiToken expectLines) ?_
  rintro _ es ⟨hes, -⟩ data hdata
  rwa [List.mem_singleton.mp (hes.subset hdata)]

theorem sbiExchange_writesOnly (client : Sbi.SbiClient) {request : Bytes} (hrequest : R request) (timeout : Rat)
    (commandName : String) (sbiToken : Bytes) (expectLines : Int) :
    WritesOnly hostLine R (sbiExchange (traced T) client request timeout commandName sbiToken expectLines) := by
  refine .get_bind fun h => .ite (fun _ => .throw _) fun _ => ?_
  refine (WritesOnly.onSbi client (Sbi.execute_writesOnly T hrequest _ _ _ _)).bind fun reply => ?_
  refine .get_bind fun h' => .ite (fun _ => ?_) fun _ => .pure _
  exact (WritesOnly.modifySession _).bind fun _ => .throw _

end Exchanges

/-! ## Commands -/

section Commands

variable {Req Resp : Type} (T : Transport W)

/-- The requests of a command are on the safe-lists. -/
structure ReadsOnly (command : Command Req Resp) : Prop where
  xbpi : ∀ variant, command.xbpi = some variant → ∀ ctx request data, variant.encode ctx request = .ok data →
    ReadOnlyRequest data
  sbi : ∀ variant, command.sbi = some variant → ∀ ctx request data, variant.encode ctx request = .ok data →
    ReadOnlyRequest data

theorem frameOf_readOnly {opcode : Int} {args data : Bytes} {ctx : CommandContext}
    (hopcode : opcode ∈ Commands.safeReadOnlyOpcodes) (h : Commands.frameOf opcode args ctx = .ok data) :
    ReadOnlyRequest data := by
  rw [Commands.frameOf, Commands.lift] at h
  cases hbuild : Xbpi.buildCommand opcode args ctx.srcSbn ctx.dstSbn with
  | error e =>
      rw [hbuild] at h
      cases h
  | ok frame =>
      rw [hbuild] at h
      cases h
      exact .frame hopcode hbuild

/-- A command over xBPI without arguments; its token over SBI, if it has one, is on the safe-list. -/
theorem ReadsOnly.noArgs {command : Command Req Resp} {opcode : Int}
    {decode : Xbpi.XbpiFrame → CommandContext → Except Exc Resp}
    (hxbpi : command.xbpi = some (Commands.noArgs opcode decode)) (hopcode : opcode ∈ Commands.safeReadOnlyOpcodes)
    (hsbi : ∀ variant, command.sbi = some variant → ∀ ctx request data, variant.encode ctx request = .ok data →
      data ∈ Sbi.sbiReadOnlyTokens) : ReadsOnly command where
  xbpi := by
    intro variant hvariant ctx request data h
    cases hxbpi.symm.trans hvariant
    exact frameOf_readOnly hopcode h
  sbi variant hvariant ctx request data h := .token (hsbi variant hvariant ctx request data h)

/-- A command over xBPI with one argument. -/
theorem ReadsOnly.oneArg {command : Command Req Resp} {opcode : Int} {arg : Req → Int}
    {decode : Xbpi.XbpiFrame → CommandContext → Except Exc Resp}
    (hxbpi : command.xbpi = some (Commands.oneArg opcode arg decode))
    (hopcode : opcode ∈ Commands.safeReadOnlyOpcodes) (hsbi : command.sbi = none) : ReadsOnly command where
  xbpi := by
    intro variant hvariant ctx request data h
    cases hxbpi.symm.trans hvariant
    simp only [Commands.oneArg, bind, Except.bind] at h
    split at h
    · cases h
    · exact frameOf_readOnly hopcode h
  sbi := by
    intro variant hvariant
    cases hsbi.symm.trans hvariant

theorem xbpiRefused_writesOnly (command : Command Req Resp) (e : Exc) :
    WritesOnly hostLine R (xbpiRefused command e : Py (Host (Traced W)) α) := by
  unfold xbpiRefused
  cases e with
  | sartorius err =>
      refine .ite (fun _ => .ite (fun _ => .throw _) fun _ => ?_) fun _ => .ite (fun _ => ?_) fun _ => .throw _
      · exact (WritesOnly.modifySession _).bind fun _ => .throw _
      · exact (WritesOnly.modifySession _).bind fun _ => .throw _
  | _ => exact .throw _

theorem gatePriors_writesOnly (command : Command Req Resp) :
    WritesOnly hostLine R (gatePriors command : Py (Host (Traced W)) Unit) :=
  .get_bind fun _ => .ite (fun _ => .pure _) fun _ => .ite (fun _ => .throw _) fun _ => .ite (fun _ => .pure _)
    fun _ => (WritesOnly.modifySession _).bind fun _ => .get_bind fun _ => .ite (fun _ => .throw _) fun _ => .pure _

theorem executeXbpi_writesOnly {command : Command Req Resp} {request : Req}
    (hrequest : ∀ variant, command.xbpi = some variant → ∀ ctx data, variant.encode ctx request = .ok data → R data)
    (timeout : Option Rat) : WritesOnly hostLine R (executeXbpi (traced T) command request timeout) := by
  refine .get_bind fun h => ?_
  split
  · exact .raise _ _ _
  rename_i variant hvariant
  dsimp only
  split
  · exact .raise _ _ _
  refine .liftExc_bind fun data hdata => ?_
  refine WritesOnly.bind ?_ fun frame => (WritesOnly.modifySession _).bind fun _ => ?_
  · refine .tryCatch (.onWorld ?_) (xbpiRefused_writesOnly command)
    exact Xbpi.executeLocked_writesOnly T _ (hrequest variant hvariant _ data hdata) _ _ _
  · exact .liftExc _

theorem executeSbi_writesOnly {command : Command Req Resp} {request : Req}
    (hrequest : ∀ variant, command.sbi = some variant → ∀ ctx data, variant.encode ctx request = .ok data → R data)
    (timeout : Option Rat) : WritesOnly hostLine R (executeSbi (traced T) command request timeout) := by
  refine .get_bind fun h => ?_
  split
  · exact .raise _ _ _
  rename_i variant hvariant
  dsimp only
  split
  · exact .raise _ _ _
  refine .liftExc_bind fun data hdata => ?_
  refine (sbiExchange_writesOnly T _ (hrequest variant hvariant _ data hdata) _ _ _ _).bind fun reply => ?_
  exact (WritesOnly.modifySession _).bind fun _ => .liftExc _

/-- A command gives nothing but its request to the line. -/
theorem execute_writesOnly {command : Command Req Resp} {request : Req}
    (hxbpi : ∀ variant, command.xbpi = some variant → ∀ ctx data, variant.encode ctx request = .ok data → R data)
    (hsbi : ∀ variant, command.sbi = some variant → ∀ ctx data, variant.encode ctx request = .ok data → R data)
    (confirm : Bool) (timeout : Option Rat) :
    WritesOnly hostLine R (execute (traced T) command request confirm timeout) := by
  refine .get_bind fun h => (WritesOnly.liftExcept _).bind fun _ => (WritesOnly.liftExcept _).bind fun _ => ?_
  refine (WritesOnly.liftExcept _).bind fun _ => (WritesOnly.liftExcept _).bind fun _ => ?_
  refine (gatePriors_writesOnly command).bind fun _ => ?_
  split
  · exact executeXbpi_writesOnly T hxbpi timeout
  · exact executeSbi_writesOnly T hsbi timeout
  · exact .raise _ _ _

theorem ReadsOnly.execute {command : Command Req Resp} (h : ReadsOnly command) (request : Req) (confirm : Bool)
    (timeout : Option Rat) :
    WritesOnly hostLine ReadOnlyRequest (SartoriusLib.execute (traced T) command request confirm timeout) :=
  execute_writesOnly T (fun variant hv ctx data hd => h.xbpi variant hv ctx request data hd)
    (fun variant hv ctx data hd => h.sbi variant hv ctx request data hd) confirm timeout

/-- A read through the cache asks for the generation counter first. -/
theorem ReadsOnly.cachedExecute {command : Command Req Resp} (h : ReadsOnly command) (request : Req)
    (wrap : Resp → CachedValue) (cacheKey : String) (confirm : Bool) (timeout : Option Rat) :
    WritesOnly hostLine ReadOnlyRequest
      (SartoriusLib.cachedExecute (traced T) command request wrap cacheKey confirm timeout) := by
  have hcounter : ReadsOnly Commands.CONFIG_COUNTER := .noArgs rfl (by decide) (by intro _ h; cases h)
  have hserve : ∀ (key : String) (value : CachedValue) (origin : Traced W),
      WritesOnly hostLine ReadOnlyRequest (serve key value origin) := by
    intro key value origin
    refine WritesOnly.bind (.modify fun h' => ?_) fun _ => .pure value
    rfl
  have hresult : WritesOnly hostLine ReadOnlyRequest
      (wrap <$> SartoriusLib.execute (traced T) command request confirm timeout) :=
    (h.execute T request confirm timeout).map wrap
  refine .get_bind fun h₀ => .ite (fun _ => hresult.bind fun _ => .get_bind fun _ => hserve _ _ _) fun _ => ?_
  refine (hcounter.execute T () false timeout).bind fun counter => .get_bind fun h₁ => ?_
  have hfresh : WritesOnly hostLine ReadOnlyRequest (do
      let result ← wrap <$> SartoriusLib.execute (traced T) command request confirm timeout
      modifySession fun s => { s with resultCache := s.resultCache.set cacheKey (counter, result) }
      modify fun h' => { h' with origins := h'.origins.set cacheKey h₁.world }
      serve cacheKey result h₁.world : Py (Host (Traced W)) CachedValue) := by
    refine hresult.bind fun result => (WritesOnly.modifySession _).bind fun _ => ?_
    refine WritesOnly.bind (.modify fun h' => ?_) fun _ => hserve cacheKey result h₁.world
    rfl
  dsimp only
  split
  · exact .ite (fun _ => hserve _ _ _) fun _ => hfresh
  · exact hfresh

end Commands

/-! ## The identification -/

namespace Balance

variable (T : Transport W)

theorem readModel_readsOnly : ReadsOnly Commands.READ_MODEL := by
  refine .noArgs rfl (by decide) ?_
  intro variant hvariant ctx request data h
  cases hvariant
  cases h
  decide

theorem readSwVersion_readsOnly : ReadsOnly Commands.READ_SW_VERSION := by
  refine .noArgs rfl (by decide) ?_
  intro variant hvariant ctx request data h
  cases hvariant
  cases h
  decide

theorem readFactoryNumber_readsOnly : ReadsOnly Commands.READ_FACTORY_NUMBER := by
  refine .noArgs rfl (by decide) ?_
  intro variant hvariant ctx request data h
  cases hvariant
  cases h
  decide

theorem identifySbi_writesOnly (settings : SerialSettings) :
    WritesOnly hostLine ReadOnlyRequest (identifySbi (traced T) settings) := by
  refine (readModel_readsOnly.execute T () false none).bind fun model => ?_
  refine (readFactoryNumber_readsOnly.execute T () false none).bind fun serialBytes => ?_
  refine (readSwVersion_readsOnly.execute T () false none).bind fun softwareBytes => ?_
  refine (WritesOnly.modifySession _).bind fun _ => .get_bind fun h => ?_
  refine WritesOnly.bind (.modify fun h' => ?_) fun _ => .pure _
  rfl

theorem probeDispatchCapabilities_writesOnly :
    WritesOnly hostLine ReadOnlyRequest (probeDispatchCapabilities (traced T)) := by
  have hcounter : ReadsOnly Commands.CONFIG_COUNTER := .noArgs rfl (by decide) (by intro _ h; cases h)
  refine .get_bind fun h => .ite (fun _ => .pure _) fun _ => .ignoringWarnings ?_
  exact .exceptClasses ((hcounter.execute T () false none).bind fun _ => .pure _) fun _ => .pure _

theorem readParameter_writesOnly (index : Int) :
    WritesOnly hostLine ReadOnlyRequest (readParameter (traced T) index) := by
  have hread : ReadsOnly Commands.READ_PARAMETER := .oneArg rfl (by decide) rfl
  refine (hread.cachedExecute T index .parameter _ false none).bind fun value => ?_
  cases value with
  | parameter entry => exact .pure _
  | quantity q => exact .throw _

/-- A metrology read falls back on the unit of the display. -/
theorem metrologyRead_writesOnly {command : Command Int Quantity} (hread : ReadsOnly command) (area : Int)
    (cacheKey : String) : WritesOnly hostLine ReadOnlyRequest (metrologyRead (traced T) command area cacheKey) := by
  refine (hread.cachedExecute T area .quantity cacheKey false none).bind fun value => ?_
  cases value with
  | parameter entry => exact .throw _
  | quantity raw =>
      refine .ite (fun _ => .pure _) fun _ => .exceptClasses ?_ fun _ => .pure _
      refine WritesOnly.bind (.map _ ?_) fun unit => .pure _
      exact (readParameter_writesOnly T displayUnitIndex).bind fun entry => .pure _

theorem optionalQuantity_writesOnly {m : Py (Host (Traced W)) Quantity}
    (hm : WritesOnly hostLine ReadOnlyRequest m) : WritesOnly hostLine ReadOnlyRequest (optionalQuantity m) :=
  .exceptClasses (.map _ hm) fun _ => .pure _

theorem identifyXbpi_writesOnly (settings : SerialSettings) :
    WritesOnly hostLine ReadOnlyRequest (identifyXbpi (traced T) settings) := by
  have hmanufacturer : ReadsOnly Commands.READ_MANUFACTURER := .noArgs rfl (by decide) (by intro _ h; cases h)
  have hsbn : ReadsOnly Commands.READ_SBN := .noArgs rfl (by decide) (by intro _ h; cases h)
  have hmetrology : WritesOnly hostLine ReadOnlyRequest (do
      let capacity ← optionalQuantity (capacity (traced T) 0)
      let increment ← optionalQuantity (increment (traced T) 0)
      pure (capacity, increment) : Py (Host (Traced W)) (Option Quantity × Option Quantity)) := by
    refine (optionalQuantity_writesOnly (metrologyRead_writesOnly T (.oneArg rfl (by decide) rfl) _ _)).bind ?_
    intro capacity
    refine (optionalQuantity_writesOnly (metrologyRead_writesOnly T (.oneArg rfl (by decide) rfl) _ _)).bind ?_
    exact fun increment => .pure _
  refine (readModel_readsOnly.execute T () false none).bind fun model => ?_
  refine (hmanufacturer.execute T () false none).bind fun manufacturer => ?_
  refine (readSwVersion_readsOnly.execute T () false none).bind fun software => ?_
  refine (readFactoryNumber_readsOnly.execute T () false none).bind fun factoryNumber => ?_
  refine (hsbn.execute T () false none).bind fun sbn => (probeDispatchCapabilities_writesOnly T).bind fun observed => ?_
  refine (WritesOnly.modifySession _).bind fun _ => (WritesOnly.ignoringWarnings hmetrology).bind ?_
  rintro ⟨capacity, increment⟩
  refine .get_bind fun h => WritesOnly.bind (.modify fun h' => ?_) fun _ => .pure _
  rfl

/-- An identification gives nothing but its reads to the line. -/
theorem identify_writesOnly : WritesOnly hostLine ReadOnlyRequest (identify (traced T)) :=
  .get_bind fun _ => .ite (fun _ => identifySbi_writesOnly T _) fun _ => identifyXbpi_writesOnly T _

end Balance

/-! ## The opening -/

namespace Factory

variable (T : Transport W)

end Factory

end SartoriusLib
