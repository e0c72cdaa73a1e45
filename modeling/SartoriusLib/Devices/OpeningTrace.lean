import SartoriusLib.Devices.Factory
import SartoriusLib.Protocol.Passive

/-!
# What an opening writes to the line

An opening without identification writes nothing but the probes of the detection, and those only when it is asked
to detect. The session it builds is operational, on a live client of the protocol that was found.
-/

namespace SartoriusLib

open Lib Prog

variable {W : Type}

/-- A port that keeps the calls that were made of it while it was open. -/
def tracedPort (T : OwnedTransport W) : OwnedTransport (Traced W) where
  toTransport := traced T.toTransport
  isOpen t := T.isOpen t.world
  openPort := Prog.zoom Traced.world (fun w t => { t with world := w }) T.openPort
  close := Prog.zoom Traced.world (fun w t => { t with world := w }) T.close

/-! ## Silence -/

/-- A program that writes nothing to the line. -/
def Silent {σ α : Type} (trace : σ → List LineEvent) (m : Py σ α) : Prop :=
  Prog.Emits trace m fun _ es => writes es = []

namespace Silent

variable {σ α β : Type} {trace : σ → List LineEvent}

theorem pure (a : α) : Silent trace (pure a : Py σ α) := Prog.Emits.pure rfl

theorem throw (e : Exc) : Silent trace (throw e : Py σ α) := Prog.Emits.throw rfl

theorem get : Silent trace (get : Py σ σ) := fun _ => ⟨[], (List.append_nil _).symm, rfl⟩

theorem modify {f : σ → σ} (h : ∀ s, trace (f s) = trace s) : Silent trace (modify f : Py σ PUnit) :=
  Prog.Emits.modify h rfl

theorem bind {m : Py σ α} {f : α → Py σ β} (hm : Silent trace m) (hf : ∀ a, Silent trace (f a)) :
    Silent trace (m >>= f) := by
  refine Prog.Emits.bind hm (fun _ _ h => h) fun a es h => ?_
  refine (hf a).conseq fun _ later hlater => ?_
  rw [writes_append, h, hlater, List.append_nil]

theorem exceptClasses {classes : List ErrorClass} {m : Py σ α} {h : Exc → Py σ α} (hm : Silent trace m)
    (hh : ∀ e, Silent trace (h e)) : Silent trace (exceptClasses classes m h) := by
  refine Emits.exceptClasses hm (fun _ _ h => h) (fun _ _ h _ => h) fun e es hes _ => ?_
  refine (hh e).conseq fun _ later hlater => ?_
  rw [writes_append, hes, hlater, List.append_nil]

theorem exceptException {m : Py σ α} {h : Exc → Py σ α} (hm : Silent trace m) (hh : ∀ e, Silent trace (h e)) :
    Silent trace (exceptException m h) := by
  refine Emits.exceptException hm (fun _ _ h => h) (fun _ _ h _ => h) fun e es hes _ => ?_
  refine (hh e).conseq fun _ later hlater => ?_
  rw [writes_append, hes, hlater, List.append_nil]

end Silent

/-- The discard behind a bad reply. -/
theorem drainInput_silent (T : Transport W) :
    Silent Traced.events (exceptException (traced T).drainInput fun _ => pure ()) :=
  .exceptException ((drainInput_emits T).conseq fun _ _ h => h.symm ▸ writes_drained []) fun _ => .pure _

section Probes

variable (T : Transport W)

/-- Whatever detection writes is a beginning of its three probes. -/
theorem detectProtocol_writes (timeout sniffWindow : Rat) (srcSbn dstSbn : Int) (clock : List Rat) :
    Prog.Emits Traced.events (Detect.detectProtocol (traced T) timeout sniffWindow srcSbn dstSbn clock)
      fun _ es => writes es <+: Detect.probes srcSbn dstSbn := by
  refine Prog.Emits.get_bind fun s => ?_
  refine (Detect.sniffForAutoprint_emits T sniffWindow clock).bind ?_ ?_
  · intro e heard hheard
    rw [hheard.reads.writes]
    exact List.nil_prefix
  · rintro ⟨autoprint, lines⟩ heard ⟨hheard, -⟩
    have hnone : writes heard = [] := hheard.reads.writes
    cases autoprint with
    | true =>
        refine Prog.Emits.pure ?_
        rw [List.append_nil, hnone]
        exact List.nil_prefix
    | false =>
        refine (Detect.drain_emits T).bind (fun e es h => ?_) fun _ _ h => ?_
        · obtain rfl := h
          simp [hnone]
        · obtain rfl := h
          refine (Detect.probeInTurn_emits T _ timeout sniffWindow srcSbn dstSbn).conseq fun r es h => ?_
          obtain ⟨hsent, -⟩ := h
          simpa [hnone] using hsent.writes_prefix

theorem modifyClient_silent (f : Sbi.SbiClient → Sbi.SbiClient) :
    Silent (fun s : Sbi.SbiLink (Traced W) => s.world.events) (Sbi.modifyClient f) :=
  Silent.modify fun _ => rfl

/-- The sniff of a client only listens. -/
theorem detectAutoprint_silent (clock : List Rat) :
    Silent (fun s : Sbi.SbiLink (Traced W) => s.world.events) (Sbi.detectAutoprint (traced T) clock) := by
  have hsniff : ∀ clock, Silent (fun s : Sbi.SbiLink (Traced W) => s.world.events)
      (Sbi.sniffLines (traced T) 4 clock) := by
    intro clock
    induction clock with
    | nil => exact .pure _
    | cons remaining later ih =>
        rw [Sbi.sniffLines]
        refine Silent.get.bind fun s => ?_
        split
        · have hline : Silent (fun s : Sbi.SbiLink (Traced W) => s.world.events)
              (Sbi.onTransport ((traced T).readUntil Sbi.lineTerminator remaining)) := by
            refine Prog.Emits.zoom (fun _ _ => rfl) ((readUntil_emits T _ _).conseq fun _ es h => ?_)
            rw [h]
            rfl
          refine (Silent.exceptClasses ?_ fun _ => .pure _).bind fun line => ?_
          · rw [← bind_pure_comp]
            exact hline.bind fun _ => .pure _
          · cases line with
            | none => exact .pure _
            | some raw =>
                refine (modifyClient_silent _).bind fun _ => ?_
                split
                · exact modifyClient_silent _
                · exact ih
        · exact .pure _
  refine Silent.bind ?_ fun _ => (hsniff clock).bind fun _ => Silent.get.bind fun _ => .pure _
  refine Silent.get.bind fun s => ?_
  split
  · exact .throw _
  · exact .pure _

end Probes

/-! ## The opening -/

namespace Factory

/-- A session on a balance that was just opened, before any command. -/
structure Opened (s : Session) : Prop where
  operational : s.state = .operational
  resolved : s.active ≠ .auto
  client : s.active = .xbpi → ∃ c, s.xbpi = some c ∧ c.disposed = false

/-- The probes that an opening may send. -/
def probesOf (r : OpenRequest) : List Bytes :=
  if r.protocol = .auto then Detect.probes r.srcSbn r.dstSbn else []

variable {r : OpenRequest}

abbrev lineOf (o : Opening (Traced W)) : List LineEvent := o.host.world.events

theorem resolveProtocol_writes (T : Transport W) (r : OpenRequest) :
    Prog.Emits lineOf (onPort (resolveProtocol (traced T) r)) fun _ es => writes es <+: probesOf r := by
  have hresolve : Prog.Emits Traced.events (resolveProtocol (traced T) r) fun _ es => writes es <+: probesOf r := by
    unfold resolveProtocol probesOf
    split
    · exact .pure List.nil_prefix
    · rename_i hauto
      rw [if_pos (not_not.mp hauto)]
      refine (detectProtocol_writes T _ _ _ _ _).bind (fun _ _ h => h) fun _ es h => .pure ?_
      rwa [List.append_nil]
  have hhost : Prog.Emits (fun h : Host (Traced W) => h.world.events) (onWorld (resolveProtocol (traced T) r))
      fun _ es => writes es <+: probesOf r := Prog.Emits.zoom (fun _ _ => rfl) hresolve
  exact Prog.Emits.zoom (fun _ _ => rfl) hhost

theorem primed_silent (T : Transport W) (client : Option Sbi.SbiClient) (detection : Option Detect.DetectionResult)
    (clock : List Rat) :
    Silent (fun h : Host (Traced W) => h.world.events) (primed (traced T) client detection clock) := by
  unfold primed
  cases client with
  | none => exact .pure _
  | some client =>
      have hprime : Silent (fun h : Host (Traced W) => h.world.events)
          (primeSbiAutoprintState (traced T) client detection clock) := by
        unfold primeSbiAutoprintState
        cases detection with
        | some detection => exact .pure _
        | none =>
            intro h
            obtain ⟨es, hes, hsilent⟩ := detectAutoprint_silent T clock { client := client, world := h.world }
            exact ⟨es, hes, hsilent⟩
      show Silent _ (some <$> _)
      rw [← bind_pure_comp]
      exact hprime.bind fun _ => .pure _

/-- What comes before the identification writes a beginning of the probes. -/
theorem buildBalance_writes (T : Transport W) (r : OpenRequest) :
    Prog.Emits lineOf (buildBalance (traced T) r) fun _ es => writes es <+: probesOf r := by
  refine (resolveProtocol_writes T r).bind (fun _ _ h => h) ?_
  rintro ⟨protocol, detection⟩ es hes
  have hrest : Silent lineOf (do
      let id ← onHost Balance.freshId
      let clients ← liftExcept (buildClients protocol id r.timeout)
      let sbi ← onHost (primed (traced T) clients.2 detection r.clock)
      modify fun o => newBalance o
        { xbpi := clients.1, sbi, active := protocol, srcSbn := r.srcSbn, dstSbn := r.dstSbn, strict := r.strict,
          defaultTimeout := r.timeout, serialSettings := some r.settings }
      if r.identify ∧ (← get).host.session.sbiAutoprintActive then throw (.sartorius autoprintRefusal)
      else pure () : Py (Opening (Traced W)) Unit) := by
    have hid : Silent (fun h : Host (Traced W) => h.world.events) Balance.freshId :=
      fun _ => ⟨[], (List.append_nil _).symm, rfl⟩
    refine Silent.bind (Prog.Emits.zoom (fun _ _ => rfl) hid) fun id => ?_
    refine Silent.bind (Emits.liftExcept rfl) fun clients => ?_
    refine Silent.bind (Prog.Emits.zoom (fun _ _ => rfl) (primed_silent T clients.2 detection r.clock)) fun sbi => ?_
    have hnew : ∀ session, Silent lineOf (modify fun o => newBalance o session : Py (Opening (Traced W)) PUnit) :=
      fun session => Silent.modify fun _ => rfl
    refine (hnew _).bind fun _ => Silent.get.bind fun o => ?_
    split
    · exact .throw _
    · exact .pure _
  refine hrest.conseq fun _ later hlater => ?_
  rwa [writes_append, hlater, List.append_nil]

/-- The session of a new balance. -/
theorem buildBalance_opened {T : Transport W} {o o₁ : Opening W} (h : (buildBalance T r).exec o = (.ok (), o₁)) :
    Opened o₁.host.session ∧ o₁.host.session.srcSbn = r.srcSbn ∧ o₁.host.session.dstSbn = r.dstSbn := by
  obtain ⟨⟨protocol, detection⟩, o₂, -, h⟩ := exec_bind_eq_ok.mp h
  obtain ⟨id, o₃, -, h⟩ := exec_bind_eq_ok.mp h
  obtain ⟨⟨xbpi, sbi⟩, o₄, hclients, h⟩ := exec_bind_eq_ok.mp h
  obtain ⟨sbi', o₅, -, h⟩ := exec_bind_eq_ok.mp h
  rw [exec_bind_ok (exec_modify _ o₅), exec_bind_ok (exec_get _)] at h
  split at h
  · cases h
  cases h
  refine ⟨⟨rfl, ?_, ?_⟩, rfl, rfl⟩
  · cases protocol with
    | auto => cases hclients
    | xbpi => exact ProtocolKind.noConfusion
    | sbi => exact ProtocolKind.noConfusion
  · rintro rfl
    cases hclients
    exact ⟨_, rfl, rfl⟩

end Factory

end SartoriusLib
