import FederationObservatory.Observatory.Proofs.Keys
import FederationObservatory.Observatory.Proofs.References

/-!
# Stored migrations

A stage event updates the stage, the outcome and the history of a migration one by one, while
`MigrationRecord::validate` computes the outcome it expects from the stage. The two agree on every
path through the stage machine but one: a migration that comes back from `OutcomeUnknown` to
`RevalidationRequired` keeps the unknown outcome.
-/

namespace FederationObservatory

namespace MigrationRecord

variable {r : MigrationRecord}

/-! ## Validation of the history -/

/-- The event may stand in the history, after `previous` if there is one. -/
structure Follows (r : MigrationRecord) (previous : Option MigrationStageEvent)
    (event : MigrationStageEvent) : Prop where
  generationSet : event.generation.isSet = true
  generation : event.generation ≤ r.generation
  sequence : ∀ p, previous = some p → p.sequence < event.sequence
  stage : ∀ p, previous = some p → MigrationStage.isAcceptableEvent p.stage event.stage = true

theorem validateEvents_cons {previous : Option MigrationStageEvent} {event : MigrationStageEvent}
    {events : List MigrationStageEvent} :
    r.validateEvents previous (event :: events) = .ok () ↔
      r.Follows previous event ∧ r.validateEvents (some event) events = .ok () := by
  cases previous with
  | none =>
    simp only [validateEvents, bind_eq_ok, failIf_eq_ok, exists_const, Bool.not_eq_false',
      Generation.newerThan_eq_false]
    constructor
    · rintro ⟨hset, hgeneration, hrest⟩
      refine ⟨⟨hset, hgeneration, ?_, ?_⟩, hrest⟩
      · intro p hp
        cases hp
      · intro p hp
        cases hp
    · rintro ⟨h, hrest⟩
      exact ⟨h.generationSet, h.generation, hrest⟩
  | some p =>
    simp only [validateEvents, bind_eq_ok, failIf_eq_ok, exists_const, Bool.not_eq_false',
      Generation.newerThan_eq_false, decide_eq_false_iff_not]
    constructor
    · rintro ⟨hset, hgeneration, hsequence, hstage, hrest⟩
      refine ⟨⟨hset, hgeneration, ?_, ?_⟩, hrest⟩
      · intro q hq
        obtain rfl := Option.some.inj hq
        exact UInt64.not_le.mp hsequence
      · intro q hq
        obtain rfl := Option.some.inj hq
        exact hstage
    · rintro ⟨h, hrest⟩
      exact ⟨h.generationSet, h.generation, UInt64.not_le.mpr (h.sequence p rfl), h.stage p rfl,
        hrest⟩

/-- A history grows by an event that may follow its last one. -/
theorem validateEvents_concat (previous : Option MigrationStageEvent)
    (events : List MigrationStageEvent) (event : MigrationStageEvent) :
    r.validateEvents previous (events ++ [event]) = .ok () ↔
      r.validateEvents previous events = .ok () ∧
        r.Follows (events.getLast?.or previous) event := by
  induction events generalizing previous with
  | nil =>
    rw [List.nil_append, validateEvents_cons]
    simp [validateEvents, pure, Except.pure]
  | cons first events ih =>
    rw [List.cons_append, validateEvents_cons, validateEvents_cons, ih, and_assoc]
    have hlast : (first :: events).getLast?.or previous = events.getLast?.or (some first) := by
      cases hevents : events.getLast? with
      | none => simp [List.getLast?_eq_none_iff.mp hevents]
      | some last => simp [List.getLast?_cons, hevents]
    rw [hlast]

/-! ## Validation of the record -/

/-- The checks of `MigrationRecord::validate` that a stage event does not touch. -/
def validHeader (r : MigrationRecord) : Prop :=
  r.id.empty = false ∧ r.generation.isSet = true ∧ r.workload.empty = false ∧
    r.workloadGeneration.isSet = true ∧ r.federation.empty = false ∧
    (r.source.empty = false ∧ r.destination.empty = false) ∧ r.source ≠ r.destination ∧
    ¬(r.supersedes = r.id ∧ r.supersedes.empty = false)

/-- What `MigrationRecord::validate` checks. -/
structure Valid (r : MigrationRecord) : Prop where
  header : r.validHeader
  length : r.stageEvents.length ≤ maxStageEventsPerMigration
  events : r.validateEvents none r.stageEvents = .ok ()
  last : ∀ last, r.lastEvent = some last → last.stage = r.stage
  outcome : r.outcome = r.stage.expectedOutcome

theorem validate_eq_ok {u : Unit} : r.validate = .ok u ↔ r.Valid := by
  have hsupersedes : (r.supersedes = r.id → r.supersedes.empty = true) ↔
      ¬(r.supersedes = r.id ∧ r.supersedes.empty = false) := by
    cases r.supersedes.empty <;> simp
  have hvalid : r.validate = .ok u ↔
      r.validHeader ∧ r.stageEvents.length ≤ maxStageEventsPerMigration ∧
        r.validateEvents none r.stageEvents = .ok () ∧
        (∀ last, r.lastEvent = some last → last.stage = r.stage) ∧
        r.outcome = r.stage.expectedOutcome := by
    unfold validHeader
    rw [← hsupersedes]
    cases hlast : r.lastEvent with
    | none =>
      simp only [validate, hlast, bind_eq_ok, failIf_eq_ok, exists_const, Bool.not_eq_false',
        Bool.or_eq_false_iff, beq_eq_false_iff_ne, decide_eq_false_iff_not, Nat.not_lt,
        bne_eq_false_iff_eq, Bool.and_eq_false_imp, beq_iff_eq]
      grind
    | some last =>
      simp only [validate, hlast, bind_eq_ok, failIf_eq_ok, exists_const, Bool.not_eq_false',
        Bool.or_eq_false_iff, beq_eq_false_iff_ne, decide_eq_false_iff_not, Nat.not_lt,
        bne_eq_false_iff_eq, Bool.and_eq_false_imp, beq_iff_eq]
      grind
  rw [hvalid]
  constructor
  · intro ⟨hheader, hlength, hevents, hlast, houtcome⟩
    exact ⟨hheader, hlength, hevents, hlast, houtcome⟩
  · intro h
    exact ⟨h.header, h.length, h.events, h.last, h.outcome⟩

/-! ## A stage event -/

variable (r : MigrationRecord) (clock : Clock) (ctx : PublicationContext)
  (event : MigrationStageEvent)

@[simp] theorem stage_append : (r.append clock ctx event).stage = event.stage := by
  unfold append
  cases event.stage <;> rfl

@[simp] theorem stageEvents_append :
    (r.append clock ctx event).stageEvents = r.stageEvents ++ [event] := by
  unfold append
  cases event.stage <;> rfl

@[simp] theorem id_append : (r.append clock ctx event).id = r.id := by
  unfold append
  cases event.stage <;> rfl

@[simp] theorem generation_append : (r.append clock ctx event).generation = r.generation := by
  unfold append
  cases event.stage <;> rfl

@[simp] theorem validHeader_append : (r.append clock ctx event).validHeader ↔ r.validHeader := by
  unfold append
  cases event.stage <;> exact Iff.rfl

/-- `RevalidationRequired` leaves the outcome, every other stage sets the one it is checked
    against. -/
theorem outcome_append : (r.append clock ctx event).outcome =
    if event.stage = .revalidationRequired then r.outcome else event.stage.expectedOutcome := by
  unfold append
  cases event.stage <;> rfl

variable {r clock ctx event}

theorem events_append (hvalid : r.Valid) (hset : event.generation.isSet = true)
    (hgeneration : event.generation = r.generation)
    (hsequence : r.sequenceRegresses event.sequence = false)
    (hstage : MigrationStage.isAcceptableEvent r.stage event.stage = true) :
    (r.append clock ctx event).validateEvents none (r.stageEvents ++ [event]) = .ok () := by
  rw [validateEvents_congr (r := r) (id_append r clock ctx event)
    (generation_append r clock ctx event), validateEvents_concat]
  refine ⟨hvalid.events, hset, ?_, ?_, ?_⟩
  · rw [hgeneration]
    exact UInt64.le_refl _
  · intro p hp
    rw [Option.or_none] at hp
    have hlast : r.lastEvent = some p := hp
    unfold sequenceRegresses at hsequence
    rw [hlast] at hsequence
    exact UInt64.not_le.mp (of_decide_eq_false hsequence)
  · intro p hp
    rw [Option.or_none] at hp
    rw [hvalid.last p hp]
    exact hstage

/-- An accepted stage event leaves a valid migration valid, unless it takes it from
    `OutcomeUnknown` to `RevalidationRequired`. -/
theorem valid_append_iff (hvalid : r.Valid) (hset : event.generation.isSet = true)
    (hgeneration : event.generation = r.generation)
    (hsequence : r.sequenceRegresses event.sequence = false)
    (hstage : MigrationStage.isAcceptableEvent r.stage event.stage = true)
    (hopen : r.stage.isTerminal = false)
    (hlength : r.stageEvents.length < maxStageEventsPerMigration) :
    (r.append clock ctx event).Valid ↔
      ¬(r.stage = .outcomeUnknown ∧ event.stage = .revalidationRequired) := by
  have houtcome : (r.append clock ctx event).outcome = event.stage.expectedOutcome ↔
      ¬(r.stage = .outcomeUnknown ∧ event.stage = .revalidationRequired) := by
    rw [outcome_append, hvalid.outcome]
    by_cases hevent : event.stage = .revalidationRequired
    · rw [if_pos hevent, hevent]
      revert hopen
      cases r.stage <;> decide
    · rw [if_neg hevent]
      simp [hevent]
  constructor
  · intro h
    have hexpected := h.outcome
    rw [stage_append] at hexpected
    exact houtcome.mp hexpected
  · intro h
    constructor
    case header => exact (validHeader_append r clock ctx event).mpr hvalid.header
    case length =>
      rw [stageEvents_append, List.length_append, List.length_singleton]
      exact hlength
    case events =>
      rw [stageEvents_append]
      exact events_append hvalid hset hgeneration hsequence hstage
    case last =>
      intro last hlast
      unfold lastEvent at hlast
      rw [stageEvents_append, List.getLast?_concat] at hlast
      obtain rfl := Option.some.inj hlast
      exact (stage_append r clock ctx event).symm
    case outcome =>
      rw [stage_append]
      exact houtcome.mpr h

/-- The annotations of a record are not checked. -/
theorem Valid.annotated (h : r.Valid) (c : Currentness) (t : ObservationStamp) :
    ({ r with currentness := c, stamp := t } : MigrationRecord).Valid := by
  refine ⟨h.header, h.length, ?_, h.last, h.outcome⟩
  refine (validateEvents_congr (r := r) ?_ ?_ none r.stageEvents).trans h.events
  · rfl
  · rfl

theorem Valid.superseded (h : r.Valid) : r.superseded.Valid := by
  unfold MigrationRecord.superseded
  split
  · exact h.annotated .stale r.stamp
  · exact h

end MigrationRecord

/-! ## One call -/

variable {s : Impl} {clock : Clock} {ctx : PublicationContext}

/-- Every stored migration validates. -/
def Impl.MigrationsValid (s : Impl) : Prop :=
  ∀ (id : MigrationId) (record : MigrationRecord), s.migrations[id]? = some record →
    record.validate = .ok ()

/-- The call is an accepted stage event that takes a migration from `OutcomeUnknown` to
    `RevalidationRequired`. -/
def Operation.ReentersRevalidation (s : Impl) : Operation → Prop
  | .submit _ ctx (.publish (.publishMigrationStage migration generation stage _)) =>
    (∃ check, Admitted s ctx check) ∧ AcceptsStage s ctx migration generation stage ∧
      stage = .revalidationRequired ∧
      (s.migrations[migration]?).map (·.stage) = some .outcomeUnknown
  | _ => False

/-- The lookups after an accepted stage event. -/
theorem lookup_publishMigrationStage {migration : MigrationId} {generation : MigrationGeneration}
    {stage : MigrationStage} {detail : Text} {record : MigrationRecord}
    (hmigration : s.migrations[migration]? = some record) (id : MigrationId) :
    ((Publication.publishMigrationStage migration generation stage detail).written s clock
        ctx).migrations[id]? =
      if migration = id then
        some (record.append clock ctx (.ofPublication clock ctx generation stage detail))
      else s.migrations[id]? := by
  simp only [Publication.written, hmigration]
  exact Std.TreeMap.getElem?_insert.trans (by simp only [Std.LawfulEqOrd.compare_eq_iff_eq]; rfl)

/-- The event of an accepted stage publication leaves the record valid, unless it re-enters the
    revalidation. -/
theorem valid_stage_iff {migration : MigrationId} {generation : MigrationGeneration}
    {stage : MigrationStage} {detail : Text} {record : MigrationRecord} (hvalid : record.Valid)
    (hmigration : s.migrations[migration]? = some record)
    (haccepts : AcceptsStage s ctx migration generation stage) :
    (record.append clock ctx (.ofPublication clock ctx generation stage detail)).Valid ↔
      ¬(record.stage = .outcomeUnknown ∧ stage = .revalidationRequired) := by
  obtain ⟨stored, hstored, hset, hgeneration, -, -, hsequence, hstage, hopen, hlength⟩ := haccepts
  obtain rfl := Option.some.inj (hstored.symm.trans hmigration)
  exact MigrationRecord.valid_append_iff hvalid hset hgeneration.symm hsequence hstage hopen hlength

/-- The annotations the runtime writes to a migration. -/
def MigrationRecord.annotate (r : MigrationRecord) (c : Currentness) (t : ObservationStamp) :
    MigrationRecord :=
  { r with currentness := c, stamp := t }

theorem MigrationRecord.superseded_eq (r : MigrationRecord) :
    ∃ c, r.superseded = r.annotate c r.stamp := by
  unfold MigrationRecord.superseded
  split
  · exact ⟨.stale, rfl⟩
  · exact ⟨r.currentness, rfl⟩

/-- Where a stored migration comes from: it was there, it was published or restored, up to its
    annotations, or an event was appended. -/
inductive MigrationStep (s : Impl) (operation : Operation) (id : MigrationId) :
    MigrationRecord → Prop where
  | kept {r : MigrationRecord} (hstored : s.migrations[id]? = some r) (c : Currentness)
      (t : ObservationStamp) : MigrationStep s operation id (r.annotate c t)
  | published {clock : Clock} {ctx : PublicationContext} {check : AuthorityCheck}
      {r : MigrationRecord}
      (hsubmit : operation = .submit clock ctx (.publish (.publishMigration r)))
      (hadmitted : Admitted s ctx check)
      (haccepts : AcceptsMigration s ctx r check.duplicateSequence) (hid : r.id = id)
      (c : Currentness) : MigrationStep s operation id (r.annotate c (stampFor clock ctx))
  | appended {clock : Clock} {ctx : PublicationContext} {check : AuthorityCheck}
      {generation : MigrationGeneration} {stage : MigrationStage} {detail : Text}
      {r : MigrationRecord}
      (hsubmit : operation =
        .submit clock ctx (.publish (.publishMigrationStage id generation stage detail)))
      (hadmitted : Admitted s ctx check) (haccepts : AcceptsStage s ctx id generation stage)
      (hstored : s.migrations[id]? = some r) :
    MigrationStep s operation id
      (r.append clock ctx (.ofPublication clock ctx generation stage detail))
  | restored {d : DurableState} {r : MigrationRecord} (hrestores : operation.restores s = some d)
      (hr : r ∈ d.migrations) (hid : r.id = id) :
    MigrationStep s operation id (r.annotate .stale r.stamp)

theorem MigrationStep.of_publishMigration {published record : MigrationRecord}
    {check : AuthorityCheck} {id : MigrationId} (hadmitted : Admitted s ctx check)
    (haccepts : AcceptsMigration s ctx published check.duplicateSequence)
    (h : (s.recordMigration clock ctx published).migrations[id]? = some record) :
    MigrationStep s (.submit clock ctx (.publish (.publishMigration published))) id record := by
  rw [lookup_recordMigration] at h
  simp only at h
  by_cases hid : published.id = id
  · rw [if_pos hid] at h
    split at h
    · rw [Option.map_some] at h
      obtain rfl := Option.some.inj h
      obtain ⟨c, hc⟩ := (published.accept clock ctx).superseded_eq
      rw [hc]
      exact .published rfl hadmitted haccepts hid c
    · obtain rfl := Option.some.inj h
      exact .published rfl hadmitted haccepts hid .current
  · rw [if_neg hid] at h
    split at h
    · obtain ⟨r, hr, rfl⟩ := Option.map_eq_some_iff.mp h
      obtain ⟨c, hc⟩ := r.superseded_eq
      rw [hc]
      exact .kept hr c r.stamp
    · exact .kept h record.currentness record.stamp

/-- What a call does to a stored migration. -/
theorem Operation.migrationStep {operation : Operation} {id : MigrationId}
    {record : MigrationRecord} (h : (operation.next s).migrations[id]? = some record) :
    MigrationStep s operation id record := by
  cases hrestores : operation.restores s with
  | some d =>
    rw [next_of_restores hrestores] at h
    obtain ⟨r, hr, hid, rfl⟩ := exists_of_restored (k := .migration) h
    exact .restored hrestores hr hid
  | none =>
    have hstep := Operation.recordStep hrestores .migration id
    generalize hfound : (s.table .migration)[id]? = found at hstep
    rw [show ((operation.next s).table .migration)[id]? = some record from h] at hstep
    cases hstep with
    | unchanged => exact .kept hfound record.currentness record.stamp
    | swept key' old =>
      unfold sweep
      split
      · exact .kept hfound .stale old.stamp
      · exact .kept hfound old.currentness old.stamp
    | @written clock ctx p check hsubmit hadmitted haccepts _ _ _ _ =>
      subst hsubmit
      rw [collections_of_accepts hadmitted haccepts] at h
      by_cases hkind : RecordKind.migration ≠ p.kind
      · have hsame := Publication.table_written s clock ctx p hkind
        exact .kept ((congrArg (·[id]?) hsame).symm.trans h) record.currentness record.stamp
      cases p with
      | publishMigration published => exact .of_publishMigration hadmitted haccepts h
      | publishMigrationStage migration generation stage detail =>
        have haccepts' : AcceptsStage s ctx migration generation stage := haccepts
        obtain ⟨stored, hmigration, -⟩ := haccepts'
        rw [lookup_publishMigrationStage hmigration] at h
        by_cases hid : migration = id
        · subst hid
          rw [if_pos rfl] at h
          rw [← Option.some.inj h]
          exact .appended rfl hadmitted haccepts hmigration
        · rw [if_neg hid] at h
          exact .kept h record.currentness record.stamp
      | _ => exact absurd (by intro heq; cases heq) hkind

theorem migrationsValid_next {operation : Operation} (hvalid : s.MigrationsValid)
    (hkeeps : ¬operation.ReentersRevalidation s) : (operation.next s).MigrationsValid := by
  intro id record hrecord
  refine MigrationRecord.validate_eq_ok.mpr ?_
  have hold : ∀ r, s.migrations[id]? = some r → r.Valid :=
    fun r hr => MigrationRecord.validate_eq_ok.mp (hvalid id r hr)
  cases Operation.migrationStep hrecord with
  | kept hstored c t => exact (hold _ hstored).annotated c t
  | @published clock ctx _ r _ _ haccepts _ c =>
    exact (MigrationRecord.validate_eq_ok.mp haccepts.2.1).annotated c (stampFor clock ctx)
  | @appended _ _ check _ _ _ r hsubmit hadmitted haccepts hstored =>
    refine (valid_stage_iff (hold _ hstored) hstored haccepts).mpr ?_
    intro ⟨hunknown, hrevalidation⟩
    subst hsubmit
    refine hkeeps ⟨⟨check, hadmitted⟩, haccepts, hrevalidation, ?_⟩
    rw [hstored]
    exact congrArg some hunknown
  | @restored _ r hrestores hr _ =>
    have hmigration := ((valid_of_restores hrestores).migrations r hr).1
    exact (MigrationRecord.validate_eq_ok.mp hmigration).annotated .stale r.stamp

/-- A stage event that re-enters the revalidation leaves an invalid migration. -/
theorem not_migrationsValid_of_reenters {operation : Operation} (hvalid : s.MigrationsValid)
    (h : operation.ReentersRevalidation s) : ¬(operation.next s).MigrationsValid := by
  intro hnext
  cases operation with
  | submit clock ctx request =>
    cases request with
    | registerPublisher => exact h
    | publish p =>
      cases p with
      | publishMigrationStage migration generation stage detail =>
        obtain ⟨⟨check, hadmitted⟩, haccepts, hrevalidation, hunknown⟩ := h
        obtain ⟨stored, hmigration, hstage⟩ := Option.map_eq_some_iff.mp hunknown
        have hcollections := @collections_of_accepts s clock ctx
          (.publishMigrationStage migration generation stage detail) check hadmitted haccepts
        have hlookup := @lookup_publishMigrationStage s clock ctx migration generation stage detail
          stored hmigration migration
        rw [if_pos rfl] at hlookup
        have happended := hnext migration _ (by rw [hcollections]; exact hlookup)
        exact (valid_stage_iff (MigrationRecord.validate_eq_ok.mp (hvalid _ _ hmigration))
          hmigration haccepts).mp (MigrationRecord.validate_eq_ok.mp happended)
          ⟨hstage, hrevalidation⟩
      | _ => exact h
  | _ => exact h

/-! ## Checkpoints -/

theorem Reachable.linkedAt_migration (h : Reachable s) : s.LinkedAt .migration := by
  induction h with
  | new bounds =>
    intro at' record hrecord
    rw [show (Impl.new bounds).table .migration = ∅ from rfl, Std.TreeMap.getElem?_emptyc]
      at hrecord
    cases hrecord
  | @next s _ operation ih =>
    cases hrestores : operation.restores s with
    | none =>
      refine linkedAt_next ih hrestores fun hk => ?_
      cases hk
    | some d =>
      rw [next_of_restores hrestores]
      intro at' record hrecord reference hreference
      obtain ⟨r, hr, -, rfl⟩ := exists_of_restored hrecord
      obtain ⟨-, hworkload, hsource, hdestination⟩ := (valid_of_restores hrestores).migrations r hr
      change reference ∈ [(⟨.workload, r.workload⟩ : Reference), ⟨.cluster, r.source⟩,
        ⟨.cluster, r.destination⟩] at hreference
      simp only [List.mem_cons, List.not_mem_nil, or_false] at hreference
      rcases hreference with rfl | rfl | rfl
      · exact resolves_restored_iff.mpr hworkload
      · exact resolves_restored_iff.mpr hsource
      · exact resolves_restored_iff.mpr hdestination

/-- No check of a save fails on a migration: neither on the record and its references, nor on a
    repeated identifier, nor on its currentness. -/
structure Impl.MigrationsSave (s : Impl) (now : TimestampNanos) : Prop where
  validate : (s.saved now).migrations.forM (s.saved now).validateMigration = .ok ()
  unique : DurableState.uniqueIds ((s.saved now).migrations.map (·.id)) "migrations" = .ok ()
  normalized : (s.saved now).migrations.forM
    (DurableState.recordIsNormalized "migration" (·.id.value)) = .ok ()

theorem migrationsSave (hreachable : Reachable s) (hvalid : s.MigrationsValid)
    (now : TimestampNanos) : s.MigrationsSave now := by
  have hmem : ∀ r ∈ (s.saved now).migrations,
      ∃ (id : MigrationId) (stored : MigrationRecord),
        s.migrations[id]? = some stored ∧ r = DurableState.demote stored := by
    intro r hr
    have hcollection := collection_saved s now .migration
    rw [show (s.saved now).collection .migration = (s.saved now).migrations from rfl] at hcollection
    rw [hcollection] at hr
    obtain ⟨stored, hstored, rfl⟩ := List.mem_map.mp hr
    obtain ⟨id, hid⟩ := Tables.mem_values_iff.mp hstored
    exact ⟨id, stored, hid, rfl⟩
  constructor
  case validate =>
    refine forM_eq_ok.mpr fun r hr => DurableState.validateMigration_eq_ok.mpr ?_
    obtain ⟨id, stored, hstored, rfl⟩ := hmem r hr
    have hrecord := MigrationRecord.validate_eq_ok.mp (hvalid id stored hstored)
    have hlinked := hreachable.linkedAt_migration id stored hstored
    have hnames := fun (k : RecordKind) (id : k.Key) =>
      @names_saved_iff s hreachable.filed now k id
    have hsame : DurableState.demote stored = stored.superseded := rfl
    have hworkload : stored.superseded.workload = stored.workload := by
      unfold MigrationRecord.superseded
      split <;> rfl
    have hsource : stored.superseded.source = stored.source := by
      unfold MigrationRecord.superseded
      split <;> rfl
    have hdestination : stored.superseded.destination = stored.destination := by
      unfold MigrationRecord.superseded
      split <;> rfl
    rw [hsame, hworkload, hsource, hdestination]
    refine ⟨MigrationRecord.validate_eq_ok.mpr hrecord.superseded, ?_, ?_, ?_⟩
    · exact (hnames .workload _).mpr (hlinked ⟨.workload, stored.workload⟩ List.mem_cons_self)
    · exact (hnames .cluster _).mpr (hlinked ⟨.cluster, stored.source⟩
        (List.mem_cons_of_mem _ List.mem_cons_self))
    · exact (hnames .cluster _).mpr (hlinked ⟨.cluster, stored.destination⟩
        (List.mem_cons_of_mem _ (List.mem_cons_of_mem _ List.mem_cons_self)))
  case unique =>
    exact DurableState.uniqueIds_eq_ok.mpr (nodup_saved hreachable.filed now .migration)
  case normalized =>
    refine forM_eq_ok.mpr fun r hr => ?_
    obtain ⟨id, stored, -, rfl⟩ := hmem r hr
    unfold DurableState.recordIsNormalized
    rw [if_neg (DurableState.currentness_demote (ρ := RecordKind.Record .migration) stored)]

/-! ## Runs -/

/-- Every stored migration validates, and is no reason for a checkpoint to be refused, in every
    state of a run, exactly when no call of the run takes a migration from `OutcomeUnknown` to
    `RevalidationRequired`. -/
theorem migrations_validate_iff (bounds : Bounds) (operations : List Operation) :
    (∀ before, before <+: operations → ((Impl.new bounds).run before).MigrationsValid ∧
        ∀ now, ((Impl.new bounds).run before).MigrationsSave now) ↔
      (Impl.new bounds).Along (fun s operation => ¬operation.ReentersRevalidation s)
        operations := by
  constructor
  · intro h
    refine Runs.along_iff_before.mpr fun before operation hstart hreenters => ?_
    have hbefore := (h before ((List.prefix_append before [operation]).trans hstart)).1
    have hafter := (h (before ++ [operation]) hstart).1
    rw [Impl.run, Runs.run_concat] at hafter
    exact not_migrationsValid_of_reenters hbefore hreenters hafter
  · intro h before hstart
    obtain ⟨rest, rfl⟩ := hstart
    have hstart : (Impl.new bounds).MigrationsValid := by
      intro id record hrecord
      rw [show (Impl.new bounds).migrations = ∅ from rfl, Std.TreeMap.getElem?_emptyc] at hrecord
      cases hrecord
    have hvalid : ((Impl.new bounds).run before).MigrationsValid :=
      Runs.invariant (fun t operation hkeeps ht => migrationsValid_next ht hkeeps)
        ((Runs.along_append _ _).mp h).1 hstart
    exact ⟨hvalid, migrationsSave ((Reachable.new bounds).run before) hvalid⟩

namespace Deployment

/-- A stage event of a migration. -/
def stageEvent (sequence : UInt64) (id : String) (stage : MigrationStage) : Operation :=
  publish sequence (.publishMigrationStage ⟨.ofString id⟩ ⟨1⟩ stage [])

/-- A migration whose outcome became unknown and which is then to be revalidated. -/
def revalidated : Impl :=
  loaded.run [publish 8 (.publishMigration (migration "first")),
    stageEvent 9 "first" .outcomeUnknown, stageEvent 10 "first" .revalidationRequired]

end Deployment

/-- The migration does not validate: its stage is `RevalidationRequired`, its outcome unknown. -/
theorem migration_not_valid : ¬∀ s : Impl, Reachable s → s.MigrationsValid := by
  intro h
  have hvalid := h Deployment.revalidated (Deployment.reachable_loaded.run _)
  have hstored : (Deployment.revalidated.migrations[(Deployment.migration "first").id]?).map
      (fun record => (record.stage, record.outcome)) = some (.revalidationRequired, .unknown) := by
    decide +kernel
  obtain ⟨record, hrecord, hfields⟩ := Option.map_eq_some_iff.mp hstored
  have houtcome := (MigrationRecord.validate_eq_ok.mp (hvalid _ record hrecord)).outcome
  obtain ⟨hstage, hunknown⟩ := Prod.mk.injEq .. |>.mp hfields
  rw [hstage, hunknown] at houtcome
  cases houtcome

end FederationObservatory
