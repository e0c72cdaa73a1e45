import SartoriusLib.Devices.Cache

/-!
# A write and the cached entry of its parameter

An acknowledged write drops the cached entry of its parameter. A write that raises after its request was sent
leaves the entry, so that the next read returns it whenever the counter of the device is the one the entry was
stored under, and a write of `p13` or `p50` does not change that counter.
-/

namespace SartoriusLib

open Lib Prog

variable {W : Type} {Req Resp : Type}

/-! ## What a command adds to the log of the writes -/

/-- What an exchange sends is its request. -/
theorem Xbpi.executeLocked_sent {T : Transport W} {sent : W → List Bytes} (hT : T.OnlyWrites sent)
    (request : Bytes) (timeout : Rat) (commandName : String) (opcode : Option Int) (w : W) :
    sent ((Xbpi.executeLocked T false request timeout commandName opcode).exec w).2 =
      sent ((T.write request timeout).exec w).2 := by
  have hread : Leaves sent (Xbpi.readRaw T timeout) :=
    (hT.readExact 1 timeout).bind fun _ => (hT.readExact _ timeout).bind fun _ => .pure _
  rw [Xbpi.executeLocked, if_neg (by simp)]
  rcases hwrite : (T.write request timeout).exec w with ⟨e | ⟨⟩, w'⟩
  · rw [exec_bind_error hwrite]
  · rw [exec_bind_ok hwrite]
    refine Leaves.bind hread (fun raw => ?_) w'
    cases Xbpi.parseFrame raw with
    | ok frame => exact .of_keeps fun v => Keeps.liftExcept _
    | error e =>
        refine Leaves.bind (.of_keeps fun v => ?_) fun _ => .throw _
        exact Keeps.exceptException (hT.drainInput.keeps v) fun _ => .pure _

/-- A command that returned has sent its request, and the device is known to support it. -/
theorem execute_returned {T : Transport W} {command : Command Req Resp} {request : Req} {confirm : Bool}
    {timeout : Option Rat} {h h' : Host (Logged W)} {resp : Resp} (hactive : h.session.active = .xbpi)
    (hrun : (execute (logged T) command request confirm timeout).exec h = (.ok resp, h')) :
    ∃ variant data p, command.xbpi = some variant ∧ variant.encode h.session.context request = .ok data ∧
      h'.world.written = h.world.written ++ [data] ∧
      h'.session = { h.session with warnedPriors := p }.setAvailability command.name .supported := by
  obtain ⟨variant, client, data, p, frame, w, hsent, hexchange, -, rfl⟩ := execute_accepted hactive hrun
  obtain ⟨hx, -, hdata⟩ := requestOf_eq_some hsent
  refine ⟨variant, data, p, hx, hdata, ?_, rfl⟩
  rw [exchangeOf] at hexchange
  cases hdisposed : client.disposed with
  | true =>
      rw [hdisposed] at hexchange
      cases hexchange
  | false =>
      rw [hdisposed] at hexchange
      have hwritten := Xbpi.executeLocked_sent (logged_onlyWrites T) data
        (timeout.getD h.session.defaultTimeout) command.name (some variant.opcode) h.world
      rw [hexchange] at hwritten
      exact hwritten

/-! ## The two ways of a cached read -/

namespace Balance

variable {T : Transport W} {h h' : Host (Logged W)} {index : Int}

/-- The request for the value of a parameter. -/
def parameterRequest (s : Session) (index : Int) : Except Exc Bytes :=
  (Commands.oneArg 0x55 id Commands.readParameterDecode).encode s.context index

/-- A read of the parameter that returns has asked the device for its value. -/
def Refetches (T : Transport W) (index : Int) (h : Host (Logged W)) : Prop :=
  ∀ entry h', (readParameter (logged T) index).exec h = (.ok entry, h') →
    ∃ data, parameterRequest h.session index = .ok data ∧
      data ∈ h'.world.written.drop h.world.written.length

/-- What the cache holds under the parameter was stored under the counter that the device reports now. -/
def Hits (T : Transport W) (index : Int) (h : Host (Logged W)) : Prop :=
  ∃ n entry, h.session.resultCache.get? (cacheKeyParameter index) = some (n, .parameter entry) ∧
    ((readConfigCounter (logged T) none).exec h).1 = .ok n

/-- The counter is read with its own request, and the cache stays. -/
theorem readConfigCounter_returned (hactive : h.session.active = .xbpi) {n : Nat}
    (hrun : (readConfigCounter (logged T) none).exec h = (.ok n, h')) :
    h'.session.resultCache = h.session.resultCache ∧ h'.session.context = h.session.context ∧
      h'.session.active = .xbpi ∧ ∃ data, h'.world.written = h.world.written ++ [data] ∧
        Xbpi.buildCommand 0xBA [] h.session.srcSbn h.session.dstSbn = .ok data := by
  obtain ⟨variant, data, p, hx, hdata, hwritten, hsession⟩ := execute_returned hactive hrun
  cases hx
  exact ⟨by rw [hsession]; rfl, by rw [hsession]; rfl, by rw [hsession]; exact hactive, data, hwritten,
    Device.buildCommand_of_frameOf hdata⟩

/-- A hit is returned without asking the device for the value. -/
theorem readParameter_hit (hactive : h.session.active = .xbpi)
    (hcap : CapabilityBit.configCounter ∈ h.session.capabilities) (hhit : Hits T index h) :
    ¬ Refetches T index h := by
  obtain ⟨n, entry, hget, hcounter⟩ := hhit
  rcases hrun : (readConfigCounter (logged T) none).exec h with ⟨result, h₁⟩
  rw [hrun] at hcounter
  obtain rfl : result = .ok n := hcounter
  obtain ⟨hcache, -, -, data, hwritten, hdata⟩ := readConfigCounter_returned hactive hrun
  intro hrefetches
  have hread : (readParameter (logged T) index).exec h = (.ok { entry with index },
      { h₁ with
        served := h₁.served ++ [{ cacheKey := cacheKeyParameter index, value := .parameter entry,
                                  origin := (h₁.origins.get? (cacheKeyParameter index)).getD h₁.world,
                                  now := h₁.world }] }) := by
    rw [readParameter, cachedExecute, exec_bind, exec_bind_ok (exec_get h), if_neg (not_not.mpr hcap),
      exec_bind_ok hrun, exec_bind_ok (exec_get h₁)]
    simp only [hcache, hget, if_true, serve, exec_bind_ok (exec_modify _ _), exec_pure]
  obtain ⟨request, hrequest, hmem⟩ := hrefetches _ _ hread
  dsimp only at hmem
  rw [hwritten, List.drop_left, List.mem_singleton] at hmem
  subst hmem
  exact absurd (buildCommand_opcode_inj (Device.encode_oneArg hrequest).2 hdata) (by decide)

/-- Without a hit a read that returns has asked the device. -/
theorem readParameter_miss (hactive : h.session.active = .xbpi)
    (hcap : CapabilityBit.configCounter ∈ h.session.capabilities) (hmiss : ¬ Hits T index h) :
    Refetches T index h := by
  intro entry h' hread
  obtain ⟨value, h₃, hcached, hvalue⟩ := exec_bind_eq_ok.mp hread
  rw [cachedExecute, exec_bind_ok (exec_get h), if_neg (not_not.mpr hcap)] at hcached
  obtain ⟨n, h₁, hcounter, hcached⟩ := exec_bind_eq_ok.mp hcached
  obtain ⟨hcache, hcontext, hactive₁, request, hwritten, -⟩ := readConfigCounter_returned hactive hcounter
  rw [exec_bind_ok (exec_get h₁)] at hcached
  have hfetch : ∀ {m : Py (Host (Logged W)) CachedValue},
      m = (do
        let result ← CachedValue.parameter <$> execute (logged T) Commands.READ_PARAMETER index false none
        modifySession fun s =>
          { s with resultCache := s.resultCache.set (cacheKeyParameter index) (n, result) }
        modify fun h' => { h' with origins := h'.origins.set (cacheKeyParameter index) h₁.world }
        serve (cacheKeyParameter index) result h₁.world) →
      m.exec h₁ = (.ok value, h₃) → ∃ data, parameterRequest h.session index = .ok data ∧
        data ∈ h₃.world.written.drop h.world.written.length := by
    rintro _ rfl hrun
    obtain ⟨result, h₂, hresult, hrun⟩ := exec_bind_eq_ok.mp hrun
    rw [← bind_pure_comp] at hresult
    obtain ⟨resp, h₂', hexec, hpure⟩ := exec_bind_eq_ok.mp hresult
    cases hpure
    obtain ⟨variant, data, p, hx, hdata, hwritten₂, -⟩ := execute_returned hactive₁ hexec
    cases hx
    obtain rfl : _ = h₃ := congrArg Prod.snd hrun
    rw [hcontext] at hdata
    refine ⟨data, hdata, ?_⟩
    show data ∈ h₂.world.written.drop h.world.written.length
    rw [hwritten₂, hwritten, List.append_assoc, List.drop_left]
    simp
  have hdone : h'.world = h₃.world := by
    cases value with
    | parameter e => cases hvalue; rfl
    | quantity q => cases hvalue
  rw [hdone]
  dsimp only at hcached
  cases hget : h₁.session.resultCache.get? (cacheKeyParameter index) with
  | none =>
      rw [hget] at hcached
      exact hfetch rfl hcached
  | some cached =>
      obtain ⟨snapshot, old⟩ := cached
      rw [hget] at hcached
      dsimp only at hcached
      by_cases hsame : snapshot = n
      · rw [if_pos hsame] at hcached
        cases hcached
        cases value with
        | quantity q => cases hvalue
        | parameter e =>
            refine absurd ⟨n, e, ?_, by rw [hcounter]⟩ hmiss
            rw [← hcache, hget, hsame]
      · rw [if_neg hsame] at hcached
        exact hfetch rfl hcached

/-! ## After a write -/

/-- The device's reply to the write, sent with `client` as `data`, is a frame without the error subtype. -/
def Acknowledged (T : Transport W) (client : XbpiClient) (data : Bytes) (h : Host (Logged W)) : Prop :=
  ∃ raw frame, ((Xbpi.sendRaw (logged T) client.disposed data h.session.defaultTimeout
      Commands.WRITE_PARAMETER.name (some 0x56)).exec h.world).1 = .ok raw ∧
    Xbpi.parseFrame raw = .ok frame ∧ frame.subtype ≠ Xbpi.errorSubtype

/-- The exchange of a write returns a frame exactly when the write is acknowledged. -/
theorem exchangeOf_write (client : XbpiClient) (data : Bytes) :
    (∃ frame, (exchangeOf (logged T) Commands.WRITE_PARAMETER none h Commands.writeParameterVariant client
      data).1 = .ok frame) ↔ Acknowledged T client data h := by
  rw [Acknowledged, exists_comm]
  exact exists_congr fun frame => Xbpi.executeLocked_eq_ok

/-- The read after a write asks the device exactly when the write was acknowledged, or what the cache held was
stored under a counter that the device does not report to that read. -/
theorem refetches_after_write_iff (hactive : h.session.active = .xbpi)
    (hcap : CapabilityBit.configCounter ∈ h.session.capabilities) {value : Int} {confirm : Bool}
    {variant : XbpiVariant Commands.WriteParameterRequest Unit} {client : XbpiClient} {data : Bytes}
    (hsent : requestOf Commands.WRITE_PARAMETER ⟨index, value⟩ confirm h = some (variant, client, data)) :
    Refetches T index ((writeParameter (logged T) index value confirm).exec h).2 ↔
      Acknowledged T client data h ∨
        ∀ n entry, h.session.resultCache.get? (cacheKeyParameter index) = some (n, .parameter entry) →
          ((readConfigCounter (logged T) none).exec
            ((writeParameter (logged T) index value confirm).exec h).2).1 ≠ .ok n := by
  obtain ⟨hx, -, -⟩ := requestOf_eq_some hsent
  cases hx
  obtain ⟨p, hexec⟩ := execute_sent (T := logged T) hactive hsent none
  have hack := exchangeOf_write (T := T) (h := h) client data
  rcases hexchange : exchangeOf (logged T) Commands.WRITE_PARAMETER none h Commands.writeParameterVariant client
    data with ⟨e | frame, w⟩
  · -- the exception leaves the cache as it was
    rw [hexchange] at hexec hack
    dsimp only at hexec
    have hnot : ¬ Acknowledged T client data h := fun h => by
      obtain ⟨frame, hframe⟩ := hack.mpr h
      cases hframe
    obtain ⟨after, hafter, hcache, hactive', hcap'⟩ : ∃ after,
        (execute (logged T) Commands.WRITE_PARAMETER ⟨index, value⟩ confirm none).exec h =
          (.error (refusalError Commands.WRITE_PARAMETER e), after) ∧
        after.session.resultCache = h.session.resultCache ∧ after.session.active = .xbpi ∧
        CapabilityBit.configCounter ∈ after.session.capabilities := by
      refine ⟨_, hexec, ?_⟩
      cases refusedAs Commands.WRITE_PARAMETER e <;> exact ⟨rfl, hactive, hcap⟩
    rw [writeParameter, exec_bind_error hafter, or_iff_right hnot, ← hcache]
    constructor
    · intro hrefetches n entry hget hcounter
      exact readParameter_hit hactive' hcap' ⟨n, entry, hget, hcounter⟩ hrefetches
    · intro hmiss
      refine readParameter_miss hactive' hcap' ?_
      rintro ⟨n, entry, hget, hcounter⟩
      exact hmiss n entry hget hcounter
  · -- the acknowledged write has dropped the entry
    rw [hexchange] at hexec hack
    refine ⟨fun _ => .inl (hack.mp ⟨frame, rfl⟩), fun _ => ?_⟩
    rw [writeParameter, exec_bind_ok hexec]
    refine readParameter_miss hactive hcap ?_
    rintro ⟨n, entry, hget, -⟩
    have hget : (h.session.resultCache.pop (cacheKeyParameter index)).get? (cacheKeyParameter index) =
      some (n, .parameter entry) := hget
    rw [Dict.get?_pop, if_pos rfl] at hget
    cases hget

/-- The counter stands at 1, and parameter 13 is 1 of at most 3. -/
def counterReply : Bytes := Xbpi.assembleFrame 0x21 [0x01]

def parameterReply : Bytes := Xbpi.assembleFrame 0x21 [0x01, 0x21, 0x03]

/-- A device that is asked for parameter 13 first, and then meets `acknowledgement` after a write. -/
def p13Host (acknowledgement : Rx) : Host (Logged SerialState) where
  world :=
    { world :=
        { settings := { port := "COM3" },
          line := [[.chunk counterReply, .chunk parameterReply, acknowledgement, .chunk counterReply]] } }
  session := { active := .xbpi, xbpi := some { id := 0 }, capabilities := [.parameterTable, .configCounter] }

def p13Read (acknowledgement : Rx) : Host (Logged SerialState) :=
  ((readParameter (logged serialTransport) 13).exec (p13Host acknowledgement)).2

theorem refetches_after_write_p13 :
    Refetches serialTransport 13
        ((writeParameter (logged serialTransport) 13 2 true).exec
          (p13Read (.chunk (Xbpi.assembleFrame 0x00 [])))).2 ↔
      Acknowledged serialTransport { id := 0 } [0x08, 0x01, 0x09, 0x56, 0x21, 0x0D, 0x21, 0x02, 0xB9]
          (p13Read (.chunk (Xbpi.assembleFrame 0x00 []))) ∨
        ∀ n entry, (p13Read (.chunk (Xbpi.assembleFrame 0x00 []))).session.resultCache.get?
            (cacheKeyParameter 13) = some (n, .parameter entry) →
          ((readConfigCounter (logged serialTransport) none).exec
            ((writeParameter (logged serialTransport) 13 2 true).exec
              (p13Read (.chunk (Xbpi.assembleFrame 0x00 [])))).2).1 ≠ .ok n :=
  refetches_after_write_iff (by decide +kernel) (by decide +kernel)
    (rfl : _ = some (Commands.writeParameterVariant, _, _))

/-- The acknowledgement is lost, the counter does not move, and the next read returns what was cached before
the write. -/
theorem lost_acknowledgement_keeps :
    ((requestOf Commands.WRITE_PARAMETER ⟨13, 2⟩ true (p13Read .expire)).isSome ∧
      ((writeParameter (logged serialTransport) 13 2 true).exec (p13Read .expire)).1.isOk = false) ∧
    ¬ Refetches serialTransport 13
      ((writeParameter (logged serialTransport) 13 2 true).exec (p13Read .expire)).2 := by
  refine ⟨⟨by decide +kernel, by decide +kernel⟩, readParameter_hit (by decide +kernel) (by decide +kernel) ?_⟩
  exact ⟨1, { index := -1, current := 1, max := 3, raw := [0x01, 0x21, 0x03] }, by decide +kernel,
    by decide +kernel⟩

end Balance

end SartoriusLib
