import SartoriusLib.Devices.Balance

/-!
# What a call leaves alone

A call through the session works on the transport and on the SBI client, and it records what it learnt: the
availability of its command, the warnings, the cache. Whatever of a balance depends on none of these is the same
after the call, however it ends.
-/

namespace SartoriusLib

open Lib Prog

variable {W Req Resp α τ : Type} {T : Transport W} {f : Host W → τ}

/-- `f` depends on nothing that a call works on. -/
structure Apart (f : Host W → τ) : Prop where
  world : ∀ h w, f { h with world := w } = f h
  sbi : ∀ h c, f { h with session := { h.session with sbi := c } } = f h
  availability : ∀ h a, f { h with session := { h.session with availability := a } } = f h
  warnedPriors : ∀ h p, f { h with session := { h.session with warnedPriors := p } } = f h
  resultCache : ∀ h c, f { h with session := { h.session with resultCache := c } } = f h
  log : ∀ h origins served, f { h with origins, served } = f h
  warnings : ∀ h a, f { h with warnings := a } = f h

theorem liftExc_leaves (x : Except Exc α) : Leaves f (liftExc x) := by cases x <;> exact fun _ => rfl

theorem liftExcept_leaves (x : Except SartoriusError α) : Leaves f (liftExcept x) := by
  cases x <;> exact fun _ => rfl

theorem exceptClasses_leaves {classes : List ErrorClass} {m : Py (Host W) α} {handle : Exc → Py (Host W) α}
    (hm : Leaves f m) (hh : ∀ e, Leaves f (handle e)) : Leaves f (exceptClasses classes m handle) :=
  Leaves.tryCatch hm fun e => .ite (fun _ => hh e) fun _ => .throw e

namespace Apart

variable (hf : Apart f)
include hf

theorem onWorld (m : Py W α) : Leaves f (onWorld m) := fun h => hf.world h _

theorem onSbi (c : Sbi.SbiClient) (m : Py (Sbi.SbiLink W) α) : Leaves f (onSbi c m) := fun h =>
  (hf.sbi { h with world := (m.exec { client := c, world := h.world }).2.world } _).trans (hf.world h _)

theorem setAvailability (name : String) (a : Availability) :
    Leaves f (modifySession (·.setAvailability name a)) := fun h => hf.availability h _

theorem gatePriors (command : Command Req Resp) : Leaves f (gatePriors command) :=
  Leaves.get.bind fun _ => .ite (fun _ => .pure _) fun _ => .ite (fun _ => .throw _) fun _ =>
    .ite (fun _ => .pure _) fun _ => Leaves.bind (fun h => hf.warnedPriors h _) fun _ =>
      Leaves.get.bind fun _ => .ite (fun _ => .throw _) fun _ => .pure _

theorem xbpiRefused (command : Command Req Resp) (e : Exc) : Leaves f (xbpiRefused command e : Py (Host W) α) := by
  unfold SartoriusLib.xbpiRefused
  cases e with
  | sartorius err =>
      exact .ite (fun _ => .ite (fun _ => .throw _) fun _ => (hf.setAvailability _ _).bind fun _ => .throw _)
        fun _ => .ite (fun _ => (hf.setAvailability _ _).bind fun _ => .throw _) fun _ => .throw _
  | _ => exact .throw _

theorem executeXbpi (command : Command Req Resp) (request : Req) (timeout : Option Rat) :
    Leaves f (executeXbpi T command request timeout) := by
  refine Leaves.get.bind fun h => ?_
  cases command.xbpi with
  | none => exact .throw _
  | some variant =>
      dsimp only
      cases h.session.xbpi with
      | none => exact .throw _
      | some client =>
          exact (liftExc_leaves _).bind fun _ =>
            (Leaves.tryCatch (hf.onWorld _) fun e => hf.xbpiRefused command e).bind fun _ =>
              (hf.setAvailability _ _).bind fun _ => liftExc_leaves _

theorem sbiExchange (client : Sbi.SbiClient) (request : Bytes) (timeout : Rat) (commandName : String)
    (sbiToken : Bytes) (expectLines : Int) :
    Leaves f (sbiExchange T client request timeout commandName sbiToken expectLines) :=
  Leaves.get.bind fun _ => .ite (fun _ => .throw _) fun _ => (hf.onSbi _ _).bind fun _ =>
    Leaves.get.bind fun _ => .ite (fun _ => Leaves.bind (fun h => hf.sbi h _) fun _ => .throw _) fun _ => .pure _

theorem executeSbi (command : Command Req Resp) (request : Req) (timeout : Option Rat) :
    Leaves f (executeSbi T command request timeout) := by
  refine Leaves.get.bind fun h => ?_
  cases command.sbi with
  | none => exact .throw _
  | some variant =>
      dsimp only
      cases h.session.sbi with
      | none => exact .throw _
      | some client =>
          exact (liftExc_leaves _).bind fun _ => (hf.sbiExchange _ _ _ _ _ _).bind fun _ =>
            (hf.setAvailability _ _).bind fun _ => liftExc_leaves _

theorem execute (command : Command Req Resp) (request : Req) (confirm : Bool) (timeout : Option Rat) :
    Leaves f (execute T command request confirm timeout) := by
  refine Leaves.get.bind fun h => (liftExcept_leaves _).bind fun _ => (liftExcept_leaves _).bind fun _ =>
    (liftExcept_leaves _).bind fun _ => (liftExcept_leaves _).bind fun _ => (hf.gatePriors command).bind fun _ => ?_
  cases h.session.active with
  | xbpi => exact hf.executeXbpi _ _ _
  | sbi => exact hf.executeSbi _ _ _
  | auto => exact .throw _

theorem serve (cacheKey : String) (value : CachedValue) (origin : W) : Leaves f (serve cacheKey value origin) :=
  Leaves.bind (.modify fun h => hf.log h _ _) fun _ => .pure _

theorem cachedExecute (command : Command Req Resp) (request : Req) (wrap : Resp → CachedValue)
    (cacheKey : String) (confirm : Bool) (timeout : Option Rat) :
    Leaves f (cachedExecute T command request wrap cacheKey confirm timeout) := by
  have hfetch := (hf.execute (T := T) command request confirm timeout).map wrap
  refine Leaves.get.bind fun _ => .ite
    (fun _ => hfetch.bind fun _ => Leaves.get.bind fun _ => hf.serve _ _ _)
    fun _ => (hf.execute _ _ _ _).bind fun counter => Leaves.get.bind fun h => ?_
  have hfresh : Leaves f (do
      let result ← wrap <$> SartoriusLib.execute T command request confirm timeout
      modifySession fun s => { s with resultCache := s.resultCache.set cacheKey (counter, result) }
      modify fun h' => { h' with origins := h'.origins.set cacheKey h.world }
      SartoriusLib.serve cacheKey result h.world) :=
    hfetch.bind fun _ => Leaves.bind (fun h => hf.resultCache h _) fun _ =>
      Leaves.bind (.modify fun h => hf.log h _ _) fun _ => hf.serve _ _ _
  dsimp only
  cases h.session.resultCache.get? cacheKey with
  | none => exact hfresh
  | some entry => exact .ite (fun _ => hf.serve _ _ _) fun _ => hfresh

/-! ## The reads of the metrology and of the identity -/

theorem getDisplayUnit : Leaves f (Balance.getDisplayUnit T) := by
  refine Leaves.map _ (Leaves.bind (Leaves.bind (hf.cachedExecute _ _ _ _ _ _) fun value => ?_) fun _ => .pure _)
  cases value with
  | parameter entry => exact .pure _
  | quantity q => exact .throw _

theorem metrologyRead (command : Command Int Quantity) (area : Int) (cacheKey : String) :
    Leaves f (Balance.metrologyRead T command area cacheKey) := by
  refine Leaves.bind (hf.cachedExecute _ _ _ _ _ _) fun value => ?_
  cases value with
  | parameter p => exact .throw _
  | quantity raw =>
      exact .ite (fun _ => .pure _) fun _ =>
        exceptClasses_leaves (hf.getDisplayUnit.bind fun _ => .pure _) fun _ => .pure _

theorem ignoringWarnings {m : Py (Host W) α} (hm : Leaves f m) : Leaves f (ignoringWarnings m) := fun h =>
  calc f { (m.exec { h with warnings := .ignore }).2 with warnings := h.warnings }
      = f (m.exec { h with warnings := .ignore }).2 := hf.warnings _ _
    _ = f { h with warnings := .ignore } := hm _
    _ = f h := hf.warnings _ _

theorem probeDispatchCapabilities : Leaves f (Balance.probeDispatchCapabilities T) :=
  Leaves.get.bind fun _ => .ite (fun _ => .pure _) fun _ => hf.ignoringWarnings
    (exceptClasses_leaves ((hf.execute _ _ _ _).bind fun _ => .pure _) fun _ => .pure _)

/-- The two metrology reads of an identification. -/
theorem metrology : Leaves f (SartoriusLib.ignoringWarnings do
    let capacity ← Balance.optionalQuantity (Balance.capacity T 0)
    let increment ← Balance.optionalQuantity (Balance.increment T 0)
    pure (capacity, increment)) :=
  hf.ignoringWarnings <| (exceptClasses_leaves ((hf.metrologyRead _ _ _).map _) fun _ => .pure _).bind fun _ =>
    (exceptClasses_leaves ((hf.metrologyRead _ _ _).map _) fun _ => .pure _).bind fun _ => .pure _

end Apart

end SartoriusLib
