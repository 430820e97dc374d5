import FederationObservatory.Observatory.Proofs.Migrations
import FederationObservatory.Observatory.Proofs.Newest
import FederationObservatory.Observatory.Proofs.Snapshots

/-!
# Superseded migrations

There are two views of what is superseded. `migration_analysis` scans the migrations of the workload
for one that names the migration. `publish_migration_stage` looks at an index with one entry for a
workload, which every later supersession overwrites, and which a restore fills in the order of its
file. The views agree while the entry of a workload names every migration of it that is superseded.
-/

namespace FederationObservatory

variable {s : Impl} {clock : Clock} {ctx : PublicationContext}

/-! ## The two views -/

/-- What a migration says about supersession: its workload, and what it supersedes. -/
def MigrationRecord.link (record : MigrationRecord) : WorkloadId × MigrationId :=
  (record.workload, record.supersedes)

/-- The link of a stored migration. -/
def Impl.link (s : Impl) (id : MigrationId) : Option (WorkloadId × MigrationId) :=
  (s.migrations[id]?).map MigrationRecord.link

/-- The index names every stored migration that another one of its workload supersedes. -/
def Impl.Guarded (s : Impl) : Prop :=
  ∀ (by' superseded : MigrationId) (workload : WorkloadId) (next : MigrationId),
    s.link by' = some (workload, superseded) → superseded.empty = false →
    s.link superseded = some (workload, next) →
    s.supersededMigrations[workload]? = some superseded

/-- A stage event is refused, and the migration stays as it is. -/
def Impl.RefusesStages (s : Impl) (migration : MigrationId) : Prop :=
  ∀ (clock : Clock) (ctx : PublicationContext) (generation : MigrationGeneration)
    (stage : MigrationStage) (detail : Text),
    (∃ e, (publishMigrationStage s clock ctx migration generation stage detail).result = .error e) ∧
      (publishMigrationStage s clock ctx migration generation stage
        detail).state.migrations[migration]? = s.migrations[migration]?

/-- No migration that the analysis reports as superseded accepts a stage event. -/
def Impl.ClosesSuperseded (s : Impl) : Prop :=
  ∀ migration, migrationAnalysisSuperseded s migration = .ok true → s.RefusesStages migration

/-- The index closes a migration. -/
theorem refusesStages_of_index {migration : MigrationId} {record : MigrationRecord}
    (hstored : s.migrations[migration]? = some record)
    (hindex : s.supersededMigrations[record.workload]? = some migration) :
    s.RefusesStages migration := by
  intro clock ctx generation stage detail
  have hdeclines : ∀ check, Admitted s ctx check →
      ¬(Publication.publishMigrationStage migration generation stage detail).Accepts s ctx
        check.duplicateSequence := by
    intro check _ ⟨record', hstored', _, _, _, hopen, _⟩
    obtain rfl := Option.some.inj (hstored.symm.trans hstored')
    exact hopen hindex
  refine ⟨?_, ?_⟩
  · unfold publishMigrationStage
    rcases checkAuthority_cases s ctx with ⟨e, hgate, -⟩ | ⟨check, hgate, -⟩
    · rw [hgate]
      exact ⟨_, rfl⟩
    · rw [hgate]
      simp only [bind, Except.bind, hstored, hindex, if_true]
      iterate 4
        split
        · exact ⟨_, rfl⟩
      exact ⟨_, rfl⟩
  · have hcollections := @Publication.collections_of_not_accepts s clock ctx _ hdeclines
    change ((Publication.publishMigrationStage migration generation stage detail).run s clock
      ctx).state.migrations[migration]? = _
    rw [hcollections]

/-- What the analysis reports as superseded is stored, and so is a migration of its workload that
    supersedes it. -/
theorem exists_of_superseded (hfiled : s.Filed) {migration : MigrationId}
    (h : migrationAnalysisSuperseded s migration = .ok true) :
    ∃ (record : MigrationRecord) (by' : MigrationId), s.migrations[migration]? = some record ∧
      s.link by' = some (record.workload, migration) := by
  unfold migrationAnalysisSuperseded at h
  split at h
  · cases h
  · rename_i record hfind
    have hfound := Option.filter_eq_some_iff.mp hfind
    have hid : record.id = migration := of_decide_eq_true hfound.2
    have hmem : record ∈ (buildSnapshot s {}).records .migration :=
      List.mem_of_find?_eq_some hfound.1
    obtain ⟨at', hat⟩ := mem_table_of_mem_snapshot hmem
    have hkey : at' = migration := (hfiled .migration at' record hat).symm.trans hid
    subst hkey
    have hsuperseded := Except.ok.inj h
    unfold FederationSnapshot.supersededBy at hsuperseded
    split at hsuperseded
    · rename_i candidate hcandidate
      have hlinks := List.find?_some hcandidate
      rw [decide_eq_true_eq] at hlinks
      have hmem' : candidate ∈ (buildSnapshot s {}).records .migration :=
        List.mem_of_find?_eq_some hcandidate
      obtain ⟨by', hby⟩ := mem_table_of_mem_snapshot hmem'
      refine ⟨record, by', hat, ?_⟩
      rw [Impl.link, show s.migrations[by']? = some candidate from hby, Option.map_some,
        MigrationRecord.link, hlinks.1, hlinks.2, hid]
    · cases hsuperseded

/-- Every stored migration has an identifier. -/
def Impl.MigrationsNamed (s : Impl) : Prop := ∀ id : MigrationId, s.link id ≠ none → id.empty = false

theorem closesSuperseded_of_guarded (hfiled : s.Filed) (h : s.Guarded) (hnamed : s.MigrationsNamed) :
    s.ClosesSuperseded := by
  intro migration hsuperseded
  obtain ⟨record, by', hstored, hby⟩ := exists_of_superseded hfiled hsuperseded
  have hlink : s.link migration = some (record.workload, record.supersedes) := by
    rw [Impl.link, hstored]
    rfl
  refine refusesStages_of_index hstored ?_
  refine h by' migration record.workload record.supersedes hby (hnamed migration ?_) hlink
  rw [hlink]
  exact Option.some_ne_none _

/-! ## One call -/

theorem link_superseded (record : MigrationRecord) : record.superseded.link = record.link := by
  unfold MigrationRecord.superseded
  split <;> rfl

theorem link_append (record : MigrationRecord) (event : MigrationStageEvent) :
    (record.append clock ctx event).link = record.link := by
  unfold MigrationRecord.append
  cases event.stage <;> rfl

/-- The migration a call publishes. -/
def Operation.migrates : Operation → Option (Arrival MigrationRecord)
  | .submit clock ctx (.publish (.publishMigration record)) => some ⟨clock, ctx, record⟩
  | _ => none

/-- The migration is published and recorded. -/
def Arrival.MigrationRecorded (a : Arrival MigrationRecord) (s : Impl) : Prop :=
  ∃ check, Admitted s a.ctx check ∧ AcceptsMigration s a.ctx a.record check.duplicateSequence

theorem migrates_eq_some {operation : Operation} {a : Arrival MigrationRecord} :
    operation.migrates = some a ↔
      operation = .submit a.clock a.ctx (.publish (.publishMigration a.record)) := by
  constructor
  · intro h
    unfold Operation.migrates at h
    split at h
    · obtain rfl := Option.some.inj h
      rfl
    · cases h
  · intro h
    subst h
    rfl

/-- The entry of the index that a recorded migration leaves for its workload. -/
def Impl.entryAfter (s : Impl) (record : MigrationRecord) : Option MigrationId :=
  if record.supersedes.empty then s.supersededMigrations[record.workload]?
  else some record.supersedes

/-- A call that records a migration. -/
theorem recordMigration_next {operation : Operation} {a : Arrival MigrationRecord}
    (hmigrates : operation.migrates = some a) (hrecorded : a.MigrationRecorded s) :
    (∀ id, (operation.next s).link id = if a.record.id = id then some a.record.link else s.link id) ∧
      ∀ workload : WorkloadId, (operation.next s).supersededMigrations[workload]? =
        if a.record.workload = workload then s.entryAfter a.record
        else s.supersededMigrations[workload]? := by
  obtain ⟨check, hadmitted, haccepts⟩ := hrecorded
  obtain ⟨detail, hrun⟩ := @Publication.run_of_accepts s a.clock a.ctx (.publishMigration a.record)
    check hadmitted haccepts
  have hnext : operation.next s = ((Publication.publishMigration a.record).run s a.clock
      a.ctx).state := by
    rw [migrates_eq_some.mp hmigrates]
    rfl
  rw [hnext, hrun]
  constructor
  · intro id
    change ((s.recordMigration a.clock a.ctx a.record).migrations[id]?).map _ = _
    rw [lookup_recordMigration]
    have hstored : ((if a.record.id = id then some (a.record.accept a.clock a.ctx)
        else s.migrations[id]?).map MigrationRecord.link) =
          if a.record.id = id then some a.record.link else s.link id := by
      split <;> rfl
    simp only
    split
    · rw [Option.map_map]
      refine Eq.trans ?_ hstored
      congr 1
      funext record
      exact link_superseded record
    · exact hstored
  · intro workload
    change (s.recordMigration a.clock a.ctx a.record).supersededMigrations[workload]? = _
    unfold Impl.recordMigration Impl.entryAfter
    cases hempty : a.record.supersedes.empty with
    | true =>
      simp only [if_true]
      split
      · rename_i heq
        rw [heq]
        rfl
      · rfl
    | false =>
      simp only [Bool.false_eq_true, if_false]
      rw [Std.TreeMap.getElem?_insert]
      simp only [Std.LawfulEqOrd.compare_eq_iff_eq]
      rfl

/-- A publication that records no migration leaves every link. -/
theorem link_written {p : Publication} {duplicate : Bool} (haccepts : p.Accepts s ctx duplicate)
    (hmigration : ∀ r, p ≠ .publishMigration r) (id : MigrationId) :
    ((p.written s clock ctx).migrations[id]?).map MigrationRecord.link = s.link id := by
  by_cases hkind : RecordKind.migration = p.kind
  · cases p with
    | publishMigration r => exact absurd rfl (hmigration r)
    | publishMigrationStage migration generation stage detail =>
      have hstage : AcceptsStage s ctx migration generation stage := haccepts
      obtain ⟨record, hrecord, -⟩ := hstage
      rw [lookup_publishMigrationStage hrecord]
      split
      · rename_i heq
        subst heq
        rw [Impl.link, hrecord, Option.map_some, link_append, Option.map_some]
      · rfl
    | _ => cases hkind
  · have htable := p.table_written s clock ctx hkind
    change (((p.written s clock ctx).table .migration)[id]?).map _ = _
    rw [htable]
    rfl

/-- A call that records no migration. -/
theorem links_next {operation : Operation} (hrestores : operation.restores s = none)
    (h : ∀ a, operation.migrates = some a → ¬a.MigrationRecorded s) :
    (∀ id, (operation.next s).link id = s.link id) ∧
      (operation.next s).supersededMigrations = s.supersededMigrations := by
  constructor
  · intro id
    cases operation with
    | submit clock ctx request =>
      change ((request.run s clock ctx).state.migrations[id]?).map _ = _
      rcases request.model_run clock ctx with
        ⟨hsame, -⟩ | ⟨p, check, rfl, hadmitted, haccepts, hwritten, -⟩
      · rw [hsame]
        rfl
      · rw [hwritten]
        refine link_written haccepts ?_ id
        intro r hp
        subst hp
        exact h ⟨clock, ctx, r⟩ rfl ⟨check, hadmitted, haccepts⟩
    | _ =>
      have htable := Operation.table_next (k := .migration) hrestores rfl
        fun _ _ _ hsubmit => by cases hsubmit
      exact congrArg
        (fun table : RecordKind.migration.Table => (table[id]?).map MigrationRecord.link) htable
  · refine Operation.index_next Indices.supersededMigrations hrestores ?_
    intro clock ctx p check hsubmit hadmitted haccepts
    refine p.supersededMigrations_written s clock ctx ?_
    intro r hp
    subst hp
    exact h ⟨clock, ctx, r⟩ (migrates_eq_some.mpr hsubmit) ⟨check, hadmitted, haccepts⟩

/-! ## Restores -/

/-- What the last migration of a workload in the file that supersedes one names. -/
def DurableState.lastSuperseded (d : DurableState) (workload : WorkloadId) : Option MigrationId :=
  ((d.migrations.filter fun r => decide (r.workload = workload) && !r.supersedes.empty).getLast?).map
    (·.supersedes)

theorem superseded_foldl_restoreMigration (migrations : List MigrationRecord) (index : Indices)
    (workload : WorkloadId) :
    (migrations.foldl restoreMigration index).supersededMigrations[workload]? =
      (((migrations.filter fun r =>
        decide (r.workload = workload) && !r.supersedes.empty).getLast?).map (·.supersedes)).or
          index.supersededMigrations[workload]? := by
  induction migrations using List.reverseRecOn with
  | nil => rfl
  | append_singleton migrations record ih =>
    rw [List.foldl_append, List.filter_append]
    simp only [List.foldl_cons, List.foldl_nil, restoreMigration]
    cases hempty : record.supersedes.empty with
    | true =>
      have hfilter : [record].filter (fun r =>
          decide (r.workload = workload) && !r.supersedes.empty) = [] := by simp [hempty]
      rw [hfilter, List.append_nil]
      simpa using ih
    | false =>
      simp only [Bool.false_eq_true, if_false]
      rw [Std.TreeMap.getElem?_insert]
      by_cases hworkload : record.workload = workload
      · simp [hworkload, hempty]
      · have hfilter : [record].filter (fun r =>
            decide (r.workload = workload) && !r.supersedes.empty) = [] := by simp [hworkload]
        rw [hfilter, List.append_nil, if_neg (by simpa using hworkload)]
        exact ih

theorem supersededMigrations_restored (s : Impl) (d : DurableState) (workload : WorkloadId) :
    (restoredState s d).supersededMigrations[workload]? = d.lastSuperseded workload := by
  have hfold := superseded_foldl_restoreMigration d.migrations {} workload
  rw [Std.TreeMap.getElem?_emptyc, Option.or_none] at hfold
  exact hfold

theorem link_restored {s : Impl} {d : DurableState} {id : MigrationId}
    {link : WorkloadId × MigrationId} (h : (restoredState s d).link id = some link) :
    ∃ record ∈ d.migrations, record.id = id ∧ record.link = link := by
  obtain ⟨stored, hstored, rfl⟩ := Option.map_eq_some_iff.mp h
  obtain ⟨r, hr, hkey, rfl⟩ := exists_of_restored (k := .migration) hstored
  exact ⟨r, hr, hkey, rfl⟩

/-! ## Runs -/

/-- The call leaves a stored migration that another one of its workload supersedes, and that the
    index does not name: it records a migration whose entry names another one, or it restores a
    file whose last supersession in the workload names another one. -/
def Operation.Unguards (s : Impl) (operation : Operation) : Prop :=
  (∃ a, operation.migrates = some a ∧ a.MigrationRecorded s ∧
    ∃ by' superseded, by' ≠ a.record.id ∧ s.link by' = some (a.record.workload, superseded) ∧
      superseded.empty = false ∧
      (superseded = a.record.id ∨ ∃ next, s.link superseded = some (a.record.workload, next)) ∧
      s.entryAfter a.record ≠ some superseded) ∨
  ∃ d, operation.restores s = some d ∧
    ∃ r ∈ d.migrations, ∃ r' ∈ d.migrations, r.supersedes.empty = false ∧ r.supersedes = r'.id ∧
      r.workload = r'.workload ∧ d.lastSuperseded r.workload ≠ some r.supersedes

theorem guarded_restored {d : DurableState}
    (h : ∀ r ∈ d.migrations, ∀ r' ∈ d.migrations, r.supersedes.empty = false →
      r.supersedes = r'.id → r.workload = r'.workload →
      d.lastSuperseded r.workload = some r.supersedes) : (restoredState s d).Guarded := by
  intro by' superseded workload next hby hnonempty hsuperseded
  obtain ⟨r, hr, -, hlink⟩ := link_restored hby
  obtain ⟨r', hr', hid, hlink'⟩ := link_restored hsuperseded
  obtain ⟨hworkload, hsupersedes⟩ := Prod.mk.inj hlink
  obtain ⟨hworkload', -⟩ := Prod.mk.inj hlink'
  rw [supersededMigrations_restored, ← hworkload, ← hsupersedes]
  rw [← hsupersedes] at hnonempty hid
  exact h r hr r' hr' hnonempty hid.symm (hworkload.trans hworkload'.symm)

theorem guarded_record {operation : Operation} {a : Arrival MigrationRecord} (h : s.Guarded)
    (hmigrates : operation.migrates = some a) (hrecorded : a.MigrationRecorded s)
    (hkeeps : ¬operation.Unguards s) : (operation.next s).Guarded := by
  obtain ⟨hlinks, hindex⟩ := recordMigration_next hmigrates hrecorded
  intro by' superseded workload next hby hnonempty hsuperseded
  rw [hindex]
  rw [hlinks] at hby hsuperseded
  by_cases hself : a.record.id = by'
  · -- the recorded migration itself: the entry names what it supersedes
    rw [if_pos hself] at hby
    obtain ⟨hworkload, hsupersedes⟩ := Prod.mk.inj (Option.some.inj hby)
    rw [if_pos hworkload, Impl.entryAfter, hsupersedes, hnonempty]
    rfl
  · rw [if_neg hself] at hby
    by_cases hworkload : a.record.workload = workload
    · subst hworkload
      rw [if_pos rfl]
      by_contra hentry
      refine hkeeps (.inl ⟨a, hmigrates, hrecorded, by', superseded, Ne.symm hself, hby, hnonempty,
        ?_, hentry⟩)
      by_cases hid : a.record.id = superseded
      · exact .inl hid.symm
      · rw [if_neg hid] at hsuperseded
        exact .inr ⟨next, hsuperseded⟩
    · rw [if_neg hworkload]
      have hid : a.record.id ≠ superseded := by
        intro hid
        rw [if_pos hid] at hsuperseded
        exact hworkload (Prod.mk.inj (Option.some.inj hsuperseded)).1
      rw [if_neg hid] at hsuperseded
      exact h by' superseded workload next hby hnonempty hsuperseded

theorem guarded_next {operation : Operation} (hkeeps : ¬operation.Unguards s) (h : s.Guarded) :
    (operation.next s).Guarded := by
  cases hrestores : operation.restores s with
  | some d =>
    rw [next_of_restores hrestores]
    refine guarded_restored fun r hr r' hr' hnonempty hid hworkload => ?_
    by_contra hlast
    exact hkeeps (.inr ⟨d, hrestores, r, hr, r', hr', hnonempty, hid, hworkload, hlast⟩)
  | none =>
    by_cases hrecorded : ∃ a, operation.migrates = some a ∧ a.MigrationRecorded s
    · obtain ⟨a, hmigrates, hrecorded⟩ := hrecorded
      exact guarded_record h hmigrates hrecorded hkeeps
    · obtain ⟨hlinks, hindex⟩ := links_next hrestores
        fun a hmigrates hrecorded' => hrecorded ⟨a, hmigrates, hrecorded'⟩
      intro by' superseded workload next hby hnonempty hsuperseded
      rw [hlinks] at hby hsuperseded
      rw [hindex]
      exact h by' superseded workload next hby hnonempty hsuperseded

theorem named_next (h : s.MigrationsNamed) (operation : Operation) :
    (operation.next s).MigrationsNamed := by
  have hvalid : ∀ r : MigrationRecord, r.validate = .ok () → r.id.empty = false := by
    intro r hr
    simp only [MigrationRecord.validate, bind_eq_ok, failIf_eq_ok, exists_const] at hr
    exact hr.1
  intro id hid
  cases hrestores : operation.restores s with
  | some d =>
    rw [next_of_restores hrestores] at hid
    obtain ⟨link, hlink⟩ := Option.ne_none_iff_exists'.mp hid
    obtain ⟨r, hr, rfl, -⟩ := link_restored hlink
    exact hvalid r ((valid_of_restores hrestores).migrations r hr).1
  | none =>
    by_cases hrecorded : ∃ a, operation.migrates = some a ∧ a.MigrationRecorded s
    · obtain ⟨a, hmigrates, hrecorded⟩ := hrecorded
      rw [(recordMigration_next hmigrates hrecorded).1] at hid
      by_cases hself : a.record.id = id
      · obtain ⟨_, _, haccepts⟩ := hrecorded
        rw [← hself]
        exact hvalid a.record haccepts.2.1
      · rw [if_neg hself] at hid
        exact h id hid
    · rw [(links_next hrestores fun a hmigrates hrecorded' =>
        hrecorded ⟨a, hmigrates, hrecorded'⟩).1] at hid
      exact h id hid

theorem Reachable.migrationsNamed (h : Reachable s) : s.MigrationsNamed := by
  induction h with
  | new bounds =>
    intro id hid
    exact absurd rfl hid
  | next _ operation ih => exact named_next ih operation

/-- In every state of a run of which no call leaves a superseded migration that the index does not
    name, no migration that the analysis reports as superseded accepts a stage event or changes with
    one. -/
theorem superseded_migrations_closed (bounds : Bounds) (operations : List Operation)
    (h : (Impl.new bounds).Along (fun s operation => ¬operation.Unguards s) operations)
    (before : List Operation) (hstart : before <+: operations) :
    ((Impl.new bounds).run before).ClosesSuperseded := by
  obtain ⟨rest, rfl⟩ := hstart
  have hstart : (Impl.new bounds).Guarded := by
    intro by' superseded workload next hby
    cases hby
  have hguarded : ((Impl.new bounds).run before).Guarded :=
    Runs.invariant (fun t operation hkeeps ht => guarded_next hkeeps ht)
      ((Runs.along_append _ _).mp h).1 hstart
  have hreachable : Reachable ((Impl.new bounds).run before) := (Reachable.new bounds).run before
  exact closesSuperseded_of_guarded hreachable.filed hguarded hreachable.migrationsNamed

theorem not_unguards_of_other {operation : Operation} (hrestores : operation.restores s = none)
    (hmigrates : operation.migrates = none) : ¬operation.Unguards s := by
  intro hunguards
  rcases hunguards with ⟨a, ha, -⟩ | ⟨d, hd, -⟩
  · rw [hmigrates] at ha
    cases ha
  · rw [hrestores] at hd
    cases hd

/-- Where nothing is superseded, the first supersession is guarded. -/
theorem not_unguards_of_none {operation : Operation} (hrestores : operation.restores s = none)
    (h : s.migrations.values.all (fun r => r.supersedes.empty) = true) :
    ¬operation.Unguards s := by
  intro hunguards
  rcases hunguards with ⟨a, -, -, by', superseded, -, hby, hnonempty, -⟩ | ⟨d, hd, -⟩
  · obtain ⟨r, hr, hlink⟩ := Option.map_eq_some_iff.mp hby
    have hempty := List.all_eq_true.mp h r (Tables.mem_values_iff.mpr ⟨by', hr⟩)
    rw [(Prod.mk.inj hlink).2, hnonempty] at hempty
    cases hempty
  · rw [hrestores] at hd
    cases hd

namespace Deployment

/-- A migration that supersedes another one. -/
def superseding (id supersedes : String) : MigrationRecord :=
  { migration id with supersedes := ⟨.ofString supersedes⟩ }

/-- The deployment with its workload, from its start. -/
def fullOperations : List Operation := operations ++ workloadOperations

/-- A migration, and a second one that supersedes it. -/
def supersession : List Operation :=
  [publish 8 (.publishMigration (migration "first")),
   publish 9 (.publishMigration (superseding "second" "first"))]

/-- And a third one that supersedes the second. -/
def chain : Impl :=
  loaded.run (supersession ++ [publish 10 (.publishMigration (superseding "third" "second"))])

end Deployment

/-- In the deployment the first migration is superseded and closed. -/
theorem superseded_migrations_closed_deployment :
    migrationAnalysisSuperseded
        ((Impl.new {}).run (Deployment.fullOperations ++ Deployment.supersession))
        (Deployment.migration "first").id = .ok true ∧
      ((Impl.new {}).run
        (Deployment.fullOperations ++ Deployment.supersession)).ClosesSuperseded := by
  refine ⟨by decide +kernel, ?_⟩
  refine superseded_migrations_closed {} _ ?_ _ (List.prefix_refl _)
  refine (Runs.along_append _ _).mpr ⟨?_, ?_⟩
  · exact ⟨not_unguards_of_other rfl rfl, not_unguards_of_other rfl rfl,
      not_unguards_of_other rfl rfl, not_unguards_of_other rfl rfl, not_unguards_of_other rfl rfl,
      not_unguards_of_other rfl rfl, not_unguards_of_other rfl rfl, trivial⟩
  · exact ⟨not_unguards_of_none rfl (by decide +kernel),
      not_unguards_of_none rfl (by decide +kernel), trivial⟩

/-- After a second supersession in the workload the first migration, which the analysis still
    reports as superseded, accepts stage events again. -/
theorem superseded_migration_reopens : ¬∀ s : Impl, Reachable s → s.ClosesSuperseded := by
  intro h
  have hclosed := h Deployment.chain (Deployment.reachable_loaded.run _)
    (Deployment.migration "first").id (by decide +kernel)
  obtain ⟨⟨e, herror⟩, -⟩ := hclosed {} (Deployment.context 11) ⟨1⟩ .sourceQuiescing []
  have hok : (publishMigrationStage Deployment.chain {} (Deployment.context 11)
      (Deployment.migration "first").id ⟨1⟩ .sourceQuiescing []).result.toOption.isSome = true := by
    decide +kernel
  rw [herror] at hok
  cases hok

end FederationObservatory
