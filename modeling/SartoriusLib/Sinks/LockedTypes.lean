import SartoriusLib.Sinks.Schema

/-!
# The types that the schema lock infers

Every column of a sample row has one type. The lock infers that type from the first batch unless the
batch has no value in the column, so a later value fits its column unless the column was empty and is not
one of text.
-/

namespace SartoriusLib.Sinks

open SartoriusLib Lib

/-! ## The columns of a sample row -/

/-- The columns of a row in order, with the type of their values. -/
def columnTypes : List (String × PyType) :=
  [("device", .str), ("t_mono_ns", .int), ("t_utc", .str), ("t_midpoint_mono_ns", .int),
   ("requested_at", .str), ("received_at", .str), ("latency_s", .float), ("value", .float), ("unit", .str),
   ("sign", .str), ("stable", .int), ("overload", .int), ("underload", .int), ("decimals", .int),
   ("sequence", .int), ("protocol", .str), ("raw", .str), ("error_type", .str), ("error_message", .str)]

theorem columnTypes_nodup : (columnTypes.map Prod.fst).Nodup := by decide

theorem keys_timingCells (s : Sample) : Dict.keys (timingCells s) =
    ["device", "t_mono_ns", "t_utc", "t_midpoint_mono_ns", "requested_at", "received_at", "latency_s"] :=
  rfl

theorem keys_readingCells (s : Sample) : Dict.keys (readingCells s) =
    ["value", "unit", "sign", "stable", "overload", "underload", "decimals", "sequence", "protocol",
     "raw"] := by
  rcases s with ⟨_, _ | r⟩ <;> rfl

theorem keys_errorCells (s : Sample) : Dict.keys (errorCells s) = ["error_type", "error_message"] := by
  rcases s with ⟨_, _, _, _, _, _, _, _, _, _ | e⟩ <;> rfl

theorem sampleToRow_eq (s : Sample) :
    sampleToRow s = timingCells s ++ readingCells s ++ errorCells s := by
  have hreading : Dict.update (timingCells s) (readingCells s) = timingCells s ++ readingCells s := by
    refine Dict.update_of_disjoint ?_ ?_
    · rw [keys_readingCells]; decide
    · rw [keys_readingCells, keys_timingCells]; decide
  rw [sampleToRow, hreading, Dict.update_of_disjoint]
  · rw [keys_errorCells]; decide
  · rw [keys_errorCells, Dict.keys_append, keys_readingCells, keys_timingCells]; decide

theorem keys_sampleToRow (s : Sample) : Dict.keys (sampleToRow s) = columnTypes.map Prod.fst := by
  rw [sampleToRow_eq, Dict.keys_append, Dict.keys_append, keys_timingCells, keys_readingCells,
    keys_errorCells]
  rfl

theorem columnTypes_unique {c : String} {t t' : PyType} (h : (c, t) ∈ columnTypes)
    (h' : (c, t') ∈ columnTypes) : t = t' := by
  have := List.inj_on_of_nodup_map columnTypes_nodup h h' rfl
  exact congrArg Prod.snd this

/-- A cell is empty or of the type of its column. -/
def WellTyped (e : String × Cell) : Prop :=
  ∃ t, (e.1, t) ∈ columnTypes ∧ (e.2 = .none ∨ e.2.type? = some t)

theorem WellTyped.of_type {c : String} {t : PyType} {v : Cell} (hc : (c, t) ∈ columnTypes)
    (hv : v = .none ∨ v.type? = some t) : WellTyped (c, v) :=
  ⟨t, hc, hv⟩

theorem ofOption_wellTyped {α : Type} {f : α → Cell} {x : Option α} {c : String} {t : PyType}
    (hc : (c, t) ∈ columnTypes) (hf : ∀ a, (f a).type? = some t) : WellTyped (c, ofOption f x) :=
  ⟨t, hc, by cases x <;> simp [ofOption, hf]⟩

theorem timingCells_wellTyped (s : Sample) : ∀ e ∈ timingCells s, WellTyped e := by
  intro e he
  simp only [timingCells, List.mem_cons, List.not_mem_nil, or_false] at he
  rcases he with rfl | rfl | rfl | rfl | rfl | rfl | rfl
  · exact .of_type (t := .str) (by decide) (.inr rfl)
  · exact .of_type (t := .int) (by decide) (.inr rfl)
  · exact .of_type (t := .str) (by decide) (.inr rfl)
  · exact ofOption_wellTyped (by decide) fun _ => rfl
  · exact .of_type (t := .str) (by decide) (.inr rfl)
  · exact .of_type (t := .str) (by decide) (.inr rfl)
  · exact .of_type (t := .float) (by decide) (.inr rfl)

theorem asDict_wellTyped (r : Reading) : ∀ e ∈ asDict r, WellTyped e := by
  intro e he
  simp only [asDict, List.mem_cons, List.not_mem_nil, or_false] at he
  rcases he with rfl | rfl | rfl | rfl | rfl | rfl | rfl | rfl | rfl | rfl
  · exact ofOption_wellTyped (by decide) fun _ => rfl
  · exact .of_type (t := .str) (by decide) (.inr rfl)
  · exact .of_type (t := .str) (by decide) (.inr rfl)
  · exact .of_type (t := .int) (by decide) (.inr rfl)
  · exact .of_type (t := .int) (by decide) (.inr rfl)
  · exact .of_type (t := .int) (by decide) (.inr rfl)
  · exact ofOption_wellTyped (by decide) fun _ => rfl
  · exact ofOption_wellTyped (by decide) fun _ => rfl
  · exact .of_type (t := .str) (by decide) (.inr rfl)
  · exact .of_type (t := .str) (by decide) (.inr rfl)

theorem readingCells_wellTyped (s : Sample) : ∀ e ∈ readingCells s, WellTyped e := by
  unfold readingCells
  cases s.reading with
  | some r => exact asDict_wellTyped r
  | none =>
      intro e he
      simp only [List.mem_cons, List.not_mem_nil, or_false] at he
      rcases he with rfl | rfl | rfl | rfl | rfl | rfl | rfl | rfl | rfl | rfl
      · exact .of_type (t := .float) (by decide) (.inl rfl)
      · exact .of_type (t := .str) (by decide) (.inl rfl)
      · exact .of_type (t := .str) (by decide) (.inl rfl)
      · exact .of_type (t := .int) (by decide) (.inl rfl)
      · exact .of_type (t := .int) (by decide) (.inl rfl)
      · exact .of_type (t := .int) (by decide) (.inl rfl)
      · exact .of_type (t := .int) (by decide) (.inl rfl)
      · exact .of_type (t := .int) (by decide) (.inl rfl)
      · exact ofOption_wellTyped (by decide) fun _ => rfl
      · exact .of_type (t := .str) (by decide) (.inl rfl)

theorem errorCells_wellTyped (s : Sample) : ∀ e ∈ errorCells s, WellTyped e := by
  unfold errorCells
  intro e he
  cases hs : s.error <;> simp only [hs, List.mem_cons, List.not_mem_nil, or_false] at he <;>
    rcases he with rfl | rfl
  · exact .of_type (t := .str) (by decide) (.inl rfl)
  · exact .of_type (t := .str) (by decide) (.inl rfl)
  · exact .of_type (t := .str) (by decide) (.inr rfl)
  · exact .of_type (t := .str) (by decide) (.inr rfl)

theorem sampleToRow_wellTyped (s : Sample) : ∀ e ∈ sampleToRow s, WellTyped e := by
  intro e he
  rw [sampleToRow_eq, List.mem_append, List.mem_append] at he
  rcases he with (he | he) | he
  · exact timingCells_wellTyped s e he
  · exact readingCells_wellTyped s e he
  · exact errorCells_wellTyped s e he

/-- The cell of a column of a row. -/
theorem cell_wellTyped {s : Sample} {c : String} {t : PyType} {v : Cell} (hc : (c, t) ∈ columnTypes)
    (h : Dict.get? (sampleToRow s) c = some v) : v = .none ∨ v.type? = some t := by
  obtain ⟨t', hc', hv⟩ := sampleToRow_wellTyped s _ (Dict.mem_of_get? h)
  rwa [← columnTypes_unique hc' hc]

theorem cell_isSome {s : Sample} {c : String} {t : PyType} (hc : (c, t) ∈ columnTypes) :
    ∃ v, Dict.get? (sampleToRow s) c = some v := by
  rw [← Option.isSome_iff_exists, Dict.get?_isSome_iff, keys_sampleToRow]
  exact List.mem_map_of_mem hc

/-! ## What the lock infers -/

theorem widen_self (t : PyType) : widen (some t) t = t := by simp [widen]

/-- A column whose values have one type is inferred as that type, unless it has no value. -/
theorem inferLoop_uniform {c : String} {t : PyType} {rows : List Row}
    (h : ∀ row ∈ rows, ∃ v, Dict.get? row c = some v ∧ (v = .none ∨ v.type? = some t)) :
    ∀ acc : Option PyType × Bool, (acc.1 = none ∨ acc.1 = some t) →
      (inferLoop c acc rows).1 =
        if acc.1 = none ∧ ∀ row ∈ rows, Dict.get? row c = some .none then none else some t := by
  induction rows with
  | nil =>
      rintro ⟨_, nullable⟩ (rfl | rfl) <;> simp [inferLoop]
  | cons row rows ih =>
      have ih := ih fun r hr => h r (List.mem_cons_of_mem _ hr)
      obtain ⟨v, hv, ht⟩ := h row List.mem_cons_self
      rintro ⟨inferred, nullable⟩ hacc
      simp only [inferLoop, hv]
      rcases ht with rfl | ht
      · simp only [Cell.type?]
        rw [ih (inferred, true) hacc]
        simp [hv]
      · have hne : v ≠ .none := by rintro rfl; cases ht
        have hwiden : widen inferred t = t := by
          rcases hacc with rfl | rfl
          · rfl
          · exact widen_self t
        simp only [ht, hwiden]
        rw [ih (some t, nullable) (.inr rfl)]
        simp [hv, hne]

theorem inferColumn_pythonType {c : String} {t : PyType} {rows : List Row}
    (h : ∀ row ∈ rows, ∃ v, Dict.get? row c = some v ∧ (v = .none ∨ v.type? = some t)) :
    (inferColumn c rows).pythonType =
      if ∀ row ∈ rows, Dict.get? row c = some .none then .str else t := by
  have hloop := inferLoop_uniform h (none, false) (.inl rfl)
  simp only [true_and] at hloop
  unfold inferColumn
  rcases hres : inferLoop c (none, false) rows with ⟨_ | u, nullable⟩ <;> rw [hres] at hloop
  · split at hloop
    · rw [if_pos ‹_›]
    · cases hloop
  · split at hloop
    · cases hloop
    · rw [if_neg ‹_›]
      exact Option.some.inj hloop

/-! ## Locking and projecting sample rows -/

theorem insertKeys_of_subset {ks keys : List String} (h : ∀ k ∈ ks, k ∈ keys) :
    ks.foldl (fun ks k => if k ∈ ks then ks else ks ++ [k]) keys = keys := by
  induction ks with
  | nil => rfl
  | cons k ks ih =>
      rw [List.foldl_cons, if_pos (h k List.mem_cons_self)]
      exact ih fun k' hk' => h k' (List.mem_cons_of_mem _ hk')

theorem insertKeys_of_nodup {ks keys : List String} (h : (keys ++ ks).Nodup) :
    ks.foldl (fun ks k => if k ∈ ks then ks else ks ++ [k]) keys = keys ++ ks := by
  induction ks generalizing keys with
  | nil => simp
  | cons k ks ih =>
      have hk : k ∉ keys := fun hk =>
        (List.nodup_append.mp h).2.2 k hk k List.mem_cons_self rfl
      have happend : keys ++ k :: ks = (keys ++ [k]) ++ ks := by simp
      rw [List.foldl_cons, if_neg hk, ih (happend ▸ h), happend]

/-- The keys of a batch are the columns of a row. -/
theorem orderedKeys_samples {samples : List Sample} (h : samples ≠ []) :
    orderedKeys (samples.map sampleToRow) = columnTypes.map Prod.fst := by
  obtain ⟨s, samples, rfl⟩ := List.exists_cons_of_ne_nil h
  have hrest : ∀ ss : List Sample, (ss.map sampleToRow).foldl
      (fun keys row => (Dict.keys row).foldl (fun ks k => if k ∈ ks then ks else ks ++ [k]) keys)
      (columnTypes.map Prod.fst) = columnTypes.map Prod.fst := by
    intro ss
    induction ss with
    | nil => rfl
    | cons s ss ih =>
        rw [List.map_cons, List.foldl_cons, keys_sampleToRow, insertKeys_of_subset fun _ hk => hk, ih]
  rw [orderedKeys, List.map_cons, List.foldl_cons, keys_sampleToRow,
    insertKeys_of_nodup (by simpa using columnTypes_nodup), List.nil_append, hrest]

def lockedColumns (first : List Sample) : List ColumnSpec :=
  (columnTypes.map Prod.fst).map fun c => inferColumn c (first.map sampleToRow)

/-- The lock that a first batch leaves. -/
def lockedFor (first : List Sample) : SchemaLock :=
  { columns := some (lockedColumns first), names := columnTypes.map Prod.fst }

theorem lock_samples {first : List Sample} (h : first ≠ []) :
    SchemaLock.lock {} (first.map sampleToRow) = .ok (lockedFor first) := by
  rw [SchemaLock.lock, if_neg (by simp), if_neg (by simpa using h), orderedKeys_samples h]
  rfl

/-- The row that a locked sink writes for a sample. -/
def projected (first : List Sample) (s : Sample) : Row :=
  Dict.update ((lockedColumns first).map fun spec => (spec.name, .none)) (sampleToRow s)

theorem project_sample (first : List Sample) (s : Sample) :
    (lockedFor first).project (sampleToRow s) = .ok (projected first s, lockedFor first) := by
  have hfold : ∀ row : Row, (∀ e ∈ row, e.1 ∈ (lockedFor first).names) → ∀ d : Row,
      row.foldl (fun (acc : Row × SchemaLock) e =>
          if e.1 ∈ acc.2.names then (acc.1.set e.1 e.2, acc.2)
          else if e.1 ∈ acc.2.unknownWarned then acc
          else (acc.1, { acc.2 with unknownWarned := acc.2.unknownWarned ++ [e.1] }))
        (d, lockedFor first) = (Dict.update d row, lockedFor first) := by
    intro row
    induction row with
    | nil => exact fun _ d => rfl
    | cons e row ih =>
        intro h d
        rw [List.foldl_cons]
        simp only [h e List.mem_cons_self, if_true]
        exact ih (fun e' he' => h e' (List.mem_cons_of_mem _ he')) _
  have hnames : ∀ e ∈ sampleToRow s, e.1 ∈ (lockedFor first).names := by
    intro e he
    rw [show (lockedFor first).names = Dict.keys (sampleToRow s) from (keys_sampleToRow s).symm]
    exact List.mem_map_of_mem he
  simp only [SchemaLock.project, lockedFor, Except.ok.injEq]
  exact hfold _ hnames _

theorem writeMany_locked (first batch : List Sample) :
    writeMany (lockedFor first) batch = .ok (batch.map (projected first), lockedFor first) := by
  have hfold : ∀ (ss : List Sample) (rows : List Row), (ss.map sampleToRow).foldlM
      (fun (acc : List Row × SchemaLock) row => (acc.2.project row).bind fun r =>
        (.ok (acc.1 ++ [r.1], r.2) : Except Exc _)) (rows, lockedFor first) =
        .ok (rows ++ ss.map (projected first), lockedFor first) := by
    intro ss
    induction ss with
    | nil => intro rows; simp [pure, Except.pure]
    | cons s ss ih =>
        intro rows
        rw [List.map_cons, List.foldlM_cons, project_sample]
        exact (ih _).trans (by simp)
  unfold writeMany
  split
  · subst batch; rfl
  · exact hfold batch []

theorem writeMany_first {first : List Sample} (h : first ≠ []) :
    writeMany {} first = .ok (first.map (projected first), lockedFor first) := by
  have hlocked := writeMany_locked first first
  rw [writeMany, if_neg h] at hlocked ⊢
  simpa [lock_samples h, bind, Except.bind, lockedFor] using hlocked

/-- All batches of a recording, written one after the other. -/
def writeAll (l : SchemaLock) (batches : List (List Sample)) : Except Exc (List Row × SchemaLock) :=
  batches.foldlM
    (fun (acc : List Row × SchemaLock) batch => do
      let (rows, l) ← writeMany acc.2 batch
      .ok (acc.1 ++ rows, l))
    ([], l)

theorem writeAll_first {first : List Sample} (h : first ≠ []) (batches : List (List Sample)) :
    ∃ rows, writeAll {} (first :: batches) = .ok (rows, lockedFor first) := by
  have hrest : ∀ rows : List Row, ∃ rows', batches.foldlM
      (fun (acc : List Row × SchemaLock) batch => (writeMany acc.2 batch).bind fun r =>
        (.ok (acc.1 ++ r.1, r.2) : Except Exc _)) (rows, lockedFor first) =
        .ok (rows', lockedFor first) := by
    induction batches with
    | nil => exact fun rows => ⟨rows, rfl⟩
    | cons b batches ih =>
        intro rows
        rw [List.foldlM_cons, writeMany_locked]
        exact ih _
  rw [writeAll, List.foldlM_cons, writeMany_first h]
  exact hrest _

/-! ## Soundness of the lock -/

theorem inferColumn_name (c : String) (rows : List Row) : (inferColumn c rows).name = c := by
  unfold inferColumn
  split <;> rfl

/-- A projected row has the cells of its sample. -/
theorem get?_projected (first : List Sample) (s : Sample) {c : String} {t : PyType}
    (hc : (c, t) ∈ columnTypes) :
    Dict.get? (projected first s) c = Dict.get? (sampleToRow s) c := by
  have hkeys := keys_sampleToRow s
  exact Dict.get?_update_of_mem _ (hkeys ▸ columnTypes_nodup)
    (by rw [hkeys]; exact List.mem_map_of_mem hc)

theorem lockedColumn_pythonType (first : List Sample) {c : String} {t : PyType}
    (hc : (c, t) ∈ columnTypes) :
    (inferColumn c (first.map sampleToRow)).pythonType =
      if ∀ f ∈ first, Dict.get? (sampleToRow f) c = some .none then .str else t := by
  rw [inferColumn_pythonType (t := t)]
  · simp
  · intro row hrow
    obtain ⟨f, -, rfl⟩ := List.mem_map.mp hrow
    obtain ⟨v, hv⟩ := cell_isSome (s := f) hc
    exact ⟨v, hv, cell_wellTyped hc hv⟩

/-- One column fits a later value unless it was empty in the first batch and is not of text. -/
theorem column_fits_iff (first : List Sample) (s : Sample) {c : String} {t : PyType}
    (hc : (c, t) ∈ columnTypes) {v : Cell} (hv : Dict.get? (sampleToRow s) c = some v) :
    v.Fits (inferColumn c (first.map sampleToRow)).pythonType ↔
      (t ≠ .str → (∀ f ∈ first, Dict.get? (sampleToRow f) c = some .none) → v = .none) := by
  rw [lockedColumn_pythonType first hc]
  have htype := cell_wellTyped hc hv
  split
  · rename_i hempty
    constructor
    · rintro (h | h | ⟨-, h⟩) hne -
      · exact h
      · exact htype.resolve_right fun h' => hne (Option.some.inj (h'.symm.trans h))
      · cases h
    · intro h
      by_cases hstr : t = .str
      · exact htype.imp id fun h' => .inl (hstr ▸ h')
      · exact .inl (h hstr hempty)
  · rename_i hempty
    exact ⟨fun _ _ h => absurd h hempty, fun _ => htype.imp id .inl⟩

/-- Whatever was written before, every cell of a later row fits its column exactly when no column without
text that was empty in the first batch has a value in the row. -/
theorem laterRow_fits_iff {first : List Sample} (h : first ≠ []) (batches : List (List Sample)) :
    ∃ rows l cols, writeAll {} (first :: batches) = .ok (rows, l) ∧ l.columns = some cols ∧
      ∀ s : Sample, ∃ row, l.project (sampleToRow s) = .ok (row, l) ∧
        ((∀ spec ∈ cols, ∃ v, Dict.get? row spec.name = some v ∧ v.Fits spec.pythonType) ↔
          ∀ c t, (c, t) ∈ columnTypes → t ≠ .str →
            (∀ f ∈ first, Dict.get? (sampleToRow f) c = some .none) →
              Dict.get? (sampleToRow s) c = some .none) := by
  obtain ⟨rows, hrows⟩ := writeAll_first h batches
  refine ⟨rows, lockedFor first, lockedColumns first, hrows, rfl, fun s =>
    ⟨projected first s, project_sample first s, ?_⟩⟩
  constructor
  · intro hfits c t hc hne hempty
    obtain ⟨v, hv, hfit⟩ := hfits (inferColumn c (first.map sampleToRow))
      (List.mem_map_of_mem (List.mem_map_of_mem hc))
    rw [inferColumn_name, get?_projected first s hc] at hv
    rw [hv, (column_fits_iff first s hc hv).mp hfit hne hempty]
  · intro hempty spec hspec
    obtain ⟨c, hc, rfl⟩ := List.mem_map.mp hspec
    obtain ⟨⟨c, t⟩, hct, rfl⟩ := List.mem_map.mp hc
    obtain ⟨v, hv⟩ := cell_isSome (s := s) hct
    refine ⟨v, by rw [inferColumn_name, get?_projected first s hct, hv],
      (column_fits_iff first s hct hv).mpr fun hne hf => ?_⟩
    have := hempty c t hct hne hf
    rw [hv] at this
    exact Option.some.inj this

/-- A poll that failed. -/
def failedSample : Sample :=
  { device := "a", reading := none, tMonoNs := 1, tUtc := ⟨"u"⟩, requestedAt := ⟨"q"⟩, receivedAt := ⟨"r"⟩,
    latencyS := .fin 0, protocol := some .xbpi, error := some ⟨"m", "E", "x"⟩ }

/-- A poll that read one gram. -/
def gramSample : Sample :=
  { failedSample with
    error := none
    reading := some
      { value := some (.fin 1), unit := .g, sign := .positive, stable := true, overload := false,
        underload := false, decimals := some 0, sequence := none, statusFlags := [], protocol := .xbpi,
        raw := [] } }

theorem laterRow_fits_iff_failed :
    ∃ rows l cols, writeAll {} [[failedSample], [gramSample]] = .ok (rows, l) ∧ l.columns = some cols ∧
      ∀ s : Sample, ∃ row, l.project (sampleToRow s) = .ok (row, l) ∧
        ((∀ spec ∈ cols, ∃ v, Dict.get? row spec.name = some v ∧ v.Fits spec.pythonType) ↔
          ∀ c t, (c, t) ∈ columnTypes → t ≠ .str →
            (∀ f ∈ [failedSample], Dict.get? (sampleToRow f) c = some .none) →
              Dict.get? (sampleToRow s) c = some .none) :=
  laterRow_fits_iff (List.cons_ne_nil failedSample []) [[gramSample]]

/-- After a first batch of one failure, the value of a later reading does not fit its column. -/
theorem failedFirst_misfit :
    ∃ rows l cols row, writeAll {} [[failedSample]] = .ok (rows, l) ∧ l.columns = some cols ∧
      l.project (sampleToRow gramSample) = .ok (row, l) ∧
      ∃ spec ∈ cols, ∃ v, Dict.get? row spec.name = some v ∧ ¬ v.Fits spec.pythonType := by
  obtain ⟨rows, hrows⟩ := writeAll_first (List.cons_ne_nil failedSample []) []
  refine ⟨rows, _, lockedColumns [failedSample], _, hrows, rfl, project_sample _ _,
    ⟨"value", .str, true⟩, by decide +kernel, .float (.fin 1), by decide +kernel, by decide⟩

end SartoriusLib.Sinks
