import BlockAudit.Config.Files
import BlockAudit.Proofs.Except
import BlockAudit.Proofs.Value.Lookup

namespace BlockAudit.ScanConfig

def Refused (es : List Entry) (f : Failure) : Prop :=
  (∃ e, f = .config e) ∨ f = .fault .numberTooLarge ∧
    ∃ negative, Value.lookup? "workers" es = some (.float (.infinite negative))

variable {es : List Entry}

theorem refused_config (e : ConfigError) : Refused es (.config e) := Or.inl ⟨e, rfl⟩

theorem errorsIn_readSeverity (es : List Entry) (key : String) (v : Value) :
    ErrorsIn (Refused es) (readSeverity key v) := by
  unfold readSeverity
  split
  · exact errorsIn_ok _
  · exact errorsIn_error (refused_config _)

theorem errorsIn_readExclude (v : Value) : ErrorsIn (Refused es) (readExclude v) := by
  unfold readExclude
  split
  · exact errorsIn_ok _
  · exact errorsIn_ok _
  · exact errorsIn_error (refused_config _)

theorem errorsIn_overrideEntries (v : Value) : ErrorsIn (Refused es) (overrideEntries v) := by
  unfold overrideEntries
  split
  · exact errorsIn_ok _
  · split
    · exact errorsIn_ok _
    · exact errorsIn_error (refused_config _)

theorem errorsIn_readOverrides (done : List (String × Severity)) (entries : List Entry) :
    ErrorsIn (Refused es) (readOverrides done entries) := by
  induction entries generalizing done with
  | nil => exact errorsIn_ok _
  | cons e entries ih => exact (errorsIn_readSeverity _ _ _).bind fun s => ih _

theorem integer?_eq_error {v : Value} {f : Fault} (h : v.integer? = .error f) :
    f = .numberTooLarge ∧ ∃ negative, v = .float (.infinite negative) := by
  unfold Value.integer? at h
  split at h <;> cases h
  exact ⟨rfl, _, rfl⟩

theorem errorsIn_readWorkers (es : List Entry) {v : Value} (h : Value.lookup? "workers" es = some v) :
    ErrorsIn (Refused es) (readWorkers v) := by
  unfold readWorkers
  split
  · next f hf =>
    obtain ⟨rfl, negative, rfl⟩ := integer?_eq_error hf
    exact errorsIn_error (Or.inr ⟨rfl, negative, h⟩)
  · exact errorsIn_error (refused_config _)
  · split
    · exact errorsIn_error (refused_config _)
    · exact errorsIn_ok _

theorem errorsIn_readWorkers_bind {g : Nat → Except Failure ScanConfig}
    (hg : ∀ n, ErrorsIn (Refused es) (g n)) :
    ErrorsIn (Refused es)
      (match Value.lookup? "workers" es with
      | some v => readWorkers v >>= g
      | none => pure 1 >>= g) := by
  split
  · next v hv => exact (errorsIn_readWorkers _ hv).bind hg
  · exact (errorsIn_ok 1).bind hg

theorem errorsIn_ofEntries (es : List Entry) : ErrorsIn (Refused es) (ofEntries es) := by
  refine (errorsIn_overrideEntries _).bind fun overrides => ?_
  refine (errorsIn_readExclude _).bind fun exclude => ?_
  refine (errorsIn_readOverrides _ _).bind fun severities => ?_
  dsimp only
  split
  · exact (errorsIn_readSeverity _ _ _).bind fun severity =>
      errorsIn_readWorkers_bind fun n => errorsIn_ok _
  · exact (errorsIn_ok Severity.low).bind fun severity =>
      errorsIn_readWorkers_bind fun n => errorsIn_ok _

theorem errorsIn_merged (c : ScanConfig) (exclude : List String) (minimumSeverity workers : Value) :
    ErrorsIn (Refused [(.str "workers", workers)]) (c.merged exclude minimumSeverity workers) := by
  have hcount : ∀ g : Nat → Except Failure ScanConfig,
      (∀ n, ErrorsIn (Refused [(.str "workers", workers)]) (g n)) →
      ErrorsIn (Refused [(.str "workers", workers)])
        (if workers.isNull = true then pure c.workers >>= g else readWorkers workers >>= g) := by
    intro g hg
    split
    · exact (errorsIn_ok _).bind hg
    · exact (errorsIn_readWorkers _ rfl).bind hg
  unfold merged
  dsimp only
  split
  · exact (errorsIn_ok c.minimumSeverity).bind fun _ => hcount _ fun _ => errorsIn_ok _
  · exact (errorsIn_readSeverity _ _ _).bind fun _ => hcount _ fun _ => errorsIn_ok _

theorem lookup?_without_workers (es : List Entry) :
    Value.lookup? "workers" (Value.without "workers" es) = none := by
  rw [Value.lookup?_without, if_pos rfl]

/-- The workers are read last. -/
theorem ofEntries_eq (es : List Entry) : ofEntries es =
    ofEntries (Value.without "workers" es) >>= fun c =>
      match Value.lookup? "workers" es with
      | some v => (readWorkers v).map fun n => { c with workers := n }
      | none => .ok c := by
  have hother : ∀ name, "workers" ≠ name →
      Value.lookup? name (Value.without "workers" es) = Value.lookup? name es :=
    fun name hname => by rw [Value.lookup?_without, if_neg hname]
  unfold ofEntries Value.get
  rw [hother "severity_overrides" (by decide), hother "exclude" (by decide),
    hother "minimum_severity" (by decide), lookup?_without_workers]
  generalize Value.lookup? "workers" es = workers?
  cases overrideEntries ((Value.lookup? "severity_overrides" es).getD .null) with
  | error f => rfl
  | ok overrides =>
    cases readExclude ((Value.lookup? "exclude" es).getD .null) with
    | error f => rfl
    | ok exclude =>
      simp only [ok_bind]
      cases readOverrides [] overrides with
      | error f => rfl
      | ok severities =>
        simp only [ok_bind]
        cases Value.lookup? "minimum_severity" es with
        | none =>
          cases workers? with
          | none => rfl
          | some v => cases readWorkers v <;> rfl
        | some v =>
          dsimp only
          generalize readSeverity "minimum_severity" v = severity
          cases severity with
          | error f => rfl
          | ok severity =>
            cases workers? with
            | none => rfl
            | some v => cases readWorkers v <;> rfl

theorem readWorkers_eq_fault_iff {v : Value} {f : Fault} : readWorkers v = .error (.fault f) ↔
    f = .numberTooLarge ∧ ∃ negative, v = .float (.infinite negative) := by
  constructor
  · intro h
    unfold readWorkers at h
    split at h
    · next g hg =>
      cases h
      exact integer?_eq_error hg
    · cases h
    · split at h <;> cases h
  · rintro ⟨rfl, negative, rfl⟩
    rfl

theorem ofEntries_ne_fault {f : Fault} (h : Value.lookup? "workers" es = none) :
    ofEntries es ≠ .error (.fault f) := by
  intro hf
  rcases errorsIn_ofEntries es _ hf with ⟨e, he⟩ | ⟨-, negative, hworkers⟩
  · cases he
  · cases h.symm.trans hworkers

theorem ofEntries_eq_fault_iff {f : Fault} : ofEntries es = .error (.fault f) ↔
    f = .numberTooLarge ∧
      (∃ negative, Value.lookup? "workers" es = some (.float (.infinite negative))) ∧
      ∃ c, ofEntries (Value.without "workers" es) = .ok c := by
  rw [ofEntries_eq, bind_eq_error]
  constructor
  · rintro (h | ⟨c, hc, h⟩)
    · exact absurd h (ofEntries_ne_fault (lookup?_without_workers es))
    · cases hv : Value.lookup? "workers" es with
      | none =>
        rw [hv] at h
        cases h
      | some v =>
        rw [hv] at h
        obtain ⟨rfl, negative, rfl⟩ := readWorkers_eq_fault_iff.mp (map_eq_error.mp h)
        exact ⟨rfl, ⟨negative, rfl⟩, c, hc⟩
  · rintro ⟨rfl, ⟨negative, hv⟩, c, hc⟩
    refine Or.inr ⟨c, hc, ?_⟩
    rw [hv]
    rfl

end BlockAudit.ScanConfig
