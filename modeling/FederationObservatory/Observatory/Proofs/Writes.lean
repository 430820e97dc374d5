import FederationObservatory.Observatory.Proofs.Settlement

/-!
# What an accepted publication writes

Every lookup after an accepted publication is the lookup before it, or one of the records of
`Written`. Invariants of the stored records are checked against that relation once, whatever the
operation was.
-/

namespace FederationObservatory

open StoredRecord (key)

/-! ## Lookups after a store -/

namespace Impl

variable (s : Impl) (k : RecordKind) (at' : k.Key) (record : k.Record)

theorem lookup_store_self : ((s.store k at' record).table k)[at']? = some record := by
  simp only [store, Collections.table_setTable_self]
  exact Std.TreeMap.getElem?_insert_self

/-- A store changes one collection. -/
theorem table_store_of_ne {k k' : RecordKind} (h : k' ≠ k) (at' : k.Key) (record : k.Record) :
    (s.store k at' record).table k' = s.table k' :=
  Collections.table_setTable_of_ne _ _ h

/-- A store changes one lookup. -/
theorem lookup_store (k' : RecordKind) (key' : k'.Key) :
    ((s.store k at' record).table k')[key']? = (s.table k')[key']? ∨
      ∃ h : k' = k, h ▸ key' = at' ∧
        ((s.store k at' record).table k')[key']? = some (h ▸ record) := by
  by_cases hk : k' = k
  · subst hk
    by_cases hkey : at' = key'
    · subst hkey
      exact .inr ⟨rfl, rfl, s.lookup_store_self k' at' record⟩
    · refine .inl ?_
      simp only [store, Collections.table_setTable_self, Std.TreeMap.getElem?_insert,
        Std.LawfulEqOrd.compare_eq_iff_eq, hkey, if_false]
  · exact .inl (by rw [s.table_store_of_ne hk])

/-- Of two stores under one key the second one counts. -/
theorem lookup_store_store (record' : k.Record) (k' : RecordKind) (key' : k'.Key) :
    (((s.store k at' record).store k at' record').table k')[key']? =
      ((s.store k at' record').table k')[key']? := by
  by_cases hk : k' = k
  · subst hk
    simp only [store, Collections.table_setTable_self, Std.TreeMap.getElem?_insert]
    split <;> rfl
  · simp only [store, Collections.table_setTable_of_ne _ _ hk]

end Impl

/-! ## The records of an accepted publication -/

namespace RecordKind

/-- The generation that orders the records of a collection, as its 64-bit value. Workload classes
    and portability assessments have none. -/
def generation : (k : RecordKind) → k.Record → UInt64
  | .federation, r => r.generation.value
  | .site, r => r.generation.value
  | .cluster, r => r.generation.value
  | .acceleratorClass, r => r.capabilityGeneration.value
  | .runtime, r => r.generation.value
  | .backend, r => r.generation.value
  | .domain, r => r.topologyGeneration.value
  | .policy, r => r.generation.value
  | .artifact, r => r.generation.value
  | .workloadClass, _ => 0
  | .workload, r => r.generation.value
  | .placement, r => r.generation.value
  | .migration, r => r.generation.value
  | .portability, _ => 0

@[simp] theorem generation_accepted (k : RecordKind) (clock : Clock) (ctx : PublicationContext)
    (record : k.Record) : k.generation (accepted clock ctx record) = k.generation record := by
  cases k <;> rfl

end RecordKind

/-- The records an accepted publication may leave where there was `old`. -/
inductive Written (s : Impl) (clock : Clock) (ctx : PublicationContext) :
    Publication → (k : RecordKind) → Option k.Record → k.Record → Prop where
  | registered {p : Publication} {k : RecordKind} {old : Option k.Record} (record : k.Record)
      (hk : k ≠ .cluster)
      (hold : ∀ o, old = some o → k.generation o ≤ k.generation record) :
    Written s clock ctx p k old (accepted clock ctx record)
  | registeredCluster {old : Option ClusterRecord} (record : ClusterRecord)
      (hold : ∀ o, old = some o → o.generation ≤ record.generation) :
    Written s clock ctx (.registerCluster record) .cluster old
      (accepted (k := .cluster) clock ctx record)
  | advancedCluster {old : Option ClusterRecord} (record : ClusterRecord)
      (previous : ClusterGeneration)
      (hold : ∀ o, old = some o → o.generation < record.generation) :
    Written s clock ctx (.registerCluster record) .cluster old
      (ClusterRecord.advanced (accepted (k := .cluster) clock ctx record) previous
        record.generation)
  | retired (record : ClusterRecord) (cluster : ClusterId) (generation : ClusterGeneration)
      (reason : Text) (hgeneration : generation.isSet = true → record.generation ≤ generation) :
    Written s clock ctx (.retireCluster cluster generation reason) .cluster (some record)
      (record.retire clock ctx generation reason)
  | capabilities (record : ClusterRecord) (cluster : ClusterId)
      (clusterGeneration : ClusterGeneration)
      (generation : AcceleratorCapabilityGeneration) (capabilities : CapabilitySet)
      (hgeneration : record.capabilityGeneration ≤ generation) :
    Written s clock ctx
      (.publishCapability cluster clusterGeneration generation capabilities) .cluster (some record)
      ((record.advanceTo clusterGeneration).withCapabilities clock ctx generation capabilities)
  | capacity (record : ClusterRecord) (cluster : ClusterId) (clusterGeneration : ClusterGeneration)
      (generation : CapacityGeneration) (pools accepted : List CapacityPool)
      (hgeneration : record.capacityGeneration ≤ generation) :
    Written s clock ctx (.publishCapacity cluster clusterGeneration generation pools) .cluster
      (some record)
      ((record.advanceTo clusterGeneration).withCapacity clock ctx generation accepted)
  | placement {old : Option PlacementRecord} (record : PlacementRecord) (supersedesLatest : Bool)
      (hold : ∀ o, old = some o → o.generation < record.generation) :
    Written s clock ctx (.publishPlacement record) .placement old
      (record.accept clock ctx supersedesLatest)
  | migration {old : Option MigrationRecord} (record : MigrationRecord)
      (hold : ∀ o, old = some o → o.generation < record.generation)
      (final : MigrationRecord)
      (hfinal : final = record.accept clock ctx ∨ final = (record.accept clock ctx).superseded) :
    Written s clock ctx (.publishMigration record) .migration old final
  | superseded (record previous : MigrationRecord) :
    Written s clock ctx (.publishMigration record) .migration (some previous) previous.superseded
  | stage (record : MigrationRecord) (migration : MigrationId) (generation : MigrationGeneration)
      (stage : MigrationStage) (detail : Text) (event : MigrationStageEvent) :
    Written s clock ctx (.publishMigrationStage migration generation stage detail) .migration
      (some record) (record.append clock ctx event)
  | portability {old : Option PortabilityAssessment} (record : PortabilityAssessment) :
    Written s clock ctx (.publishPortability record) .portability old (record.accept clock ctx)

/-- A store of a record that may be written. -/
theorem written_store {s : Impl} {clock : Clock} {ctx : PublicationContext} {p : Publication}
    {k : RecordKind} {at' : k.Key} {record : k.Record}
    (h : Written s clock ctx p k ((s.table k)[at']?) record) (k' : RecordKind) (key' : k'.Key) :
    ((s.store k at' record).table k')[key']? = (s.table k')[key']? ∨
      ∃ r, ((s.store k at' record).table k')[key']? = some r ∧
        Written s clock ctx p k' ((s.table k')[key']?) r := by
  rcases s.lookup_store k at' record k' key' with hsame | ⟨rfl, rfl, hnew⟩
  · exact .inl hsame
  · exact .inr ⟨record, hnew, h⟩

/-- The registered record may be written. -/
theorem written_register {s : Impl} {clock : Clock} {ctx : PublicationContext} {p : Publication}
    (k : RecordKind) {tag : GenerationTag} {record : k.Record} {extra : Status} {limit : Nat}
    {generationOf : k.Record → Generation tag} {duplicate : Bool}
    (h : AcceptsStructural k s record extra limit generationOf duplicate) (hk : k ≠ .cluster)
    (hgeneration : ∀ a b : k.Record,
      generationOf a ≤ generationOf b → k.generation a ≤ k.generation b) :
    Written s clock ctx p k ((s.table k)[key record]?) (accepted clock ctx record) := by
  refine .registered record hk ?_
  intro o ho
  exact hgeneration _ _ ((acceptsStructural_of_some ho).mp h).2.2.2.2

theorem written_registerCluster {s : Impl} {clock : Clock} {ctx : PublicationContext}
    {record : ClusterRecord} {extra : Status} {limit : Nat} {duplicate : Bool}
    (h : AcceptsStructural .cluster s record extra limit (fun r : ClusterRecord => r.generation)
      duplicate) (k : RecordKind) (key' : k.Key) :
    ((s.registerCluster clock ctx record).table k)[key']? = (s.table k)[key']? ∨
      ∃ r, ((s.registerCluster clock ctx record).table k)[key']? = some r ∧
        Written s clock ctx (.registerCluster record) k ((s.table k)[key']?) r := by
  have hold : ∀ o, (s.table .cluster)[key (ρ := ClusterRecord) record]? = some o →
      o.generation ≤ record.generation :=
    fun o ho => ((acceptsStructural_of_some ho).mp h).2.2.2.2
  unfold Impl.registerCluster
  split
  · rename_i hadvances
    simp only [Impl.advancesCluster, Bool.and_eq_true, Generation.newerThan_eq_true] at hadvances
    have hwritten : Written s clock ctx (.registerCluster record) .cluster
        ((s.table .cluster)[record.id]?)
        (ClusterRecord.advanced (accepted (k := .cluster) clock ctx record)
          (s.clusterGeneration record.id) record.generation) := by
      refine .advancedCluster record _ ?_
      intro o ho
      have hprevious : s.clusterGeneration record.id = o.generation := by
        unfold Impl.clusterGeneration
        rw [show s.clusters[record.id]? = some o from ho]
      rw [← hprevious]
      exact hadvances.2
    have hlookup := s.lookup_store_store .cluster record.id
      (accepted (k := .cluster) clock ctx record)
      (ClusterRecord.advanced (accepted (k := .cluster) clock ctx record)
        (s.clusterGeneration record.id) record.generation) k key'
    rcases written_store hwritten k key' with hsame | ⟨r, hr, hw⟩
    · exact .inl (hlookup.trans hsame)
    · exact .inr ⟨r, hlookup.trans hr, hw⟩
  · exact written_store (.registeredCluster record hold) k key'

/-- The clusters after one was registered. -/
theorem lookup_registerCluster (s : Impl) (clock : Clock) (ctx : PublicationContext)
    (record : ClusterRecord) (cluster : ClusterId) :
    (s.registerCluster clock ctx record).clusters[cluster]? =
      if record.id = cluster then
        some (if s.advancesCluster record then
          ClusterRecord.advanced (accepted (k := .cluster) clock ctx record)
            (s.clusterGeneration record.id) record.generation
        else accepted (k := .cluster) clock ctx record)
      else s.clusters[cluster]? := by
  have hstore : ∀ (t : Impl) (r : ClusterRecord),
      (t.store .cluster record.id r).clusters[cluster]? =
        if record.id = cluster then some r else t.clusters[cluster]? := by
    intro t r
    exact Std.TreeMap.getElem?_insert.trans (by simp only [Std.LawfulEqOrd.compare_eq_iff_eq]; rfl)
  unfold Impl.registerCluster
  split
  · rename_i hadvances
    refine (hstore _ _).trans ?_
    split
    · rfl
    · rename_i hid
      exact (hstore s _).trans (if_neg hid)
  · exact hstore s _

/-- The placements after one was recorded. -/
theorem placements_recordPlacement {s : Impl} {clock : Clock} {ctx : PublicationContext}
    (record : PlacementRecord) (id : PlacementId) :
    (s.recordPlacement clock ctx record).placements[id]? =
      if record.id = id then
        some (record.accept clock ctx (s.latestPlacementIsNewer record))
      else s.placements[id]? := by
  change (s.placements.insert _ _)[id]? = _
  rw [Std.TreeMap.getElem?_insert]
  simp only [Std.LawfulEqOrd.compare_eq_iff_eq]

/-- The lookups after a migration was recorded. -/
theorem lookup_recordMigration (s : Impl) (clock : Clock) (ctx : PublicationContext)
    (record : MigrationRecord) (key' : MigrationId) :
    (s.recordMigration clock ctx record).migrations[key']? =
      let stored := if record.id = key' then some (record.accept clock ctx) else s.migrations[key']?
      if !record.supersedes.empty ∧ record.supersedes = key' then
        stored.map MigrationRecord.superseded
      else stored := by
  have hstore : (s.store .migration record.id (record.accept clock ctx)).migrations[key']? =
      if record.id = key' then some (record.accept clock ctx) else s.migrations[key']? := by
    simp only [Impl.store, Collections.setTable, Collections.table, Std.TreeMap.getElem?_insert,
      Std.LawfulEqOrd.compare_eq_iff_eq]
  unfold Impl.recordMigration
  cases hempty : record.supersedes.empty with
  | true => simpa using hstore
  | false =>
    simp only [Bool.false_eq_true, if_false, Bool.not_false, true_and,
      Std.TreeMap.getElem?_modify, Std.LawfulEqOrd.compare_eq_iff_eq, hstore]
    split
    · rename_i heq
      rw [← heq] at hstore ⊢
      rw [hstore]
    · rfl

theorem table_recordMigration (s : Impl) (clock : Clock) (ctx : PublicationContext)
    (record : MigrationRecord) {k : RecordKind} (hk : k ≠ .migration) :
    (s.recordMigration clock ctx record).table k = s.table k := by
  unfold Impl.recordMigration
  split <;> cases k <;> first | rfl | exact absurd rfl hk

theorem written_recordMigration {s : Impl} {clock : Clock} {ctx : PublicationContext}
    {record : MigrationRecord}
    (hold : ∀ old, s.migrations[record.id]? = some old → old.generation < record.generation)
    (k : RecordKind) (key' : k.Key) :
    ((s.recordMigration clock ctx record).table k)[key']? = (s.table k)[key']? ∨
      ∃ r, ((s.recordMigration clock ctx record).table k)[key']? = some r ∧
        Written s clock ctx (.publishMigration record) k ((s.table k)[key']?) r := by
  by_cases hk : k = .migration
  · subst hk
    have hlookup := lookup_recordMigration s clock ctx record key'
    change (s.recordMigration clock ctx record).migrations[key']? = s.migrations[key']? ∨
      ∃ r, (s.recordMigration clock ctx record).migrations[key']? = some r ∧
        Written s clock ctx (.publishMigration record) .migration s.migrations[key']? r
    rw [hlookup]
    by_cases hid : record.id = key'
    · subst hid
      simp only [if_true]
      split
      · exact .inr ⟨_, rfl, .migration record hold _ (.inr rfl)⟩
      · exact .inr ⟨_, rfl, .migration record hold _ (.inl rfl)⟩
    · simp only [hid, if_false]
      split
      · -- the migration that is superseded: it is marked, whether it was current or not
        cases hprevious : s.migrations[key']? with
        | none => exact .inl rfl
        | some previous => exact .inr ⟨_, rfl, .superseded record previous⟩
      · exact .inl rfl
  · exact .inl (by rw [table_recordMigration s clock ctx record hk])

/-- Every lookup after an accepted publication is the one before it, or a record the publication
    may write. -/
theorem Publication.lookup_written {s : Impl} {clock : Clock} {ctx : PublicationContext}
    {duplicate : Bool} (p : Publication) (h : p.Accepts s ctx duplicate) (k : RecordKind)
    (key' : k.Key) :
    ((p.written s clock ctx).table k)[key']? = (s.table k)[key']? ∨
      ∃ r, ((p.written s clock ctx).table k)[key']? = some r ∧
        Written s clock ctx p k ((s.table k)[key']?) r := by
  cases p with
  | registerFederation r =>
    exact written_store (written_register .federation h (by decide) fun _ _ hle => hle) k key'
  | registerSite r =>
    exact written_store (written_register .site h (by decide) fun _ _ hle => hle) k key'
  | registerCluster r => exact written_registerCluster h k key'
  | registerAcceleratorClass r =>
    exact written_store (written_register .acceleratorClass h (by decide) fun _ _ hle => hle) k key'
  | registerRuntime r =>
    exact written_store (written_register .runtime h (by decide) fun _ _ hle => hle) k key'
  | registerBackend r =>
    exact written_store (written_register .backend h (by decide) fun _ _ hle => hle) k key'
  | registerDomain r =>
    exact written_store (written_register .domain h (by decide) fun _ _ hle => hle) k key'
  | registerPolicy r =>
    exact written_store (written_register .policy h (by decide) fun _ _ hle => hle) k key'
  | registerArtifact r =>
    exact written_store (written_register .artifact h (by decide) fun _ _ hle => hle) k key'
  | registerWorkloadClass r =>
    exact written_store (written_register .workloadClass h (by decide) fun _ _ hle => hle) k key'
  | registerWorkload r =>
    exact written_store (written_register .workload h (by decide) fun _ _ hle => hle) k key'
  | retireCluster cluster generation reason =>
    obtain ⟨record, hcluster, hgeneration, -⟩ := h
    simp only [written, hcluster]
    refine @written_store s clock ctx _ .cluster cluster _ ?_ k key'
    rw [show (s.table .cluster)[cluster]? = some record from hcluster]
    exact .retired record cluster generation reason hgeneration
  | publishCapability cluster clusterGeneration generation capabilities =>
    obtain ⟨-, record, hcluster, -, -, -, hgeneration, -⟩ := h
    simp only [written, hcluster]
    have hwritten : Written s clock ctx
        (.publishCapability cluster clusterGeneration generation capabilities) .cluster
        ((s.table .cluster)[cluster]?)
        ((record.advanceTo clusterGeneration).withCapabilities clock ctx generation
          capabilities) := by
      rw [show (s.table .cluster)[cluster]? = some record from hcluster]
      exact .capabilities record cluster clusterGeneration generation capabilities hgeneration
    unfold Impl.storeAdvanced
    split
    · have hlookup := s.lookup_store_store .cluster cluster (record.advanceTo clusterGeneration)
        ((record.advanceTo clusterGeneration).withCapabilities clock ctx generation capabilities)
        k key'
      rcases written_store hwritten k key' with hsame | ⟨r, hr, hw⟩
      · exact .inl (hlookup.trans hsame)
      · exact .inr ⟨r, hlookup.trans hr, hw⟩
    · exact written_store hwritten k key'
  | publishCapacity cluster clusterGeneration generation pools =>
    obtain ⟨-, record, hcluster, -, -, -, -, hgeneration, -⟩ := h
    simp only [written, hcluster]
    refine @written_store s clock ctx _ .cluster cluster _ ?_ k key'
    rw [show (s.table .cluster)[cluster]? = some record from hcluster]
    exact .capacity record cluster clusterGeneration generation pools _ hgeneration
  | publishPlacement record =>
    exact @written_store s clock ctx (.publishPlacement record) .placement record.id _
      (.placement record _ fun o ho => (h.2.2.2.2.1 o ho).2) k key'
  | publishMigration record =>
    exact written_recordMigration (fun o ho => (h.2.2.2.2.1 o ho).2) k key'
  | publishMigrationStage migration generation stage detail =>
    obtain ⟨record, hmigration, -⟩ := h
    simp only [written, hmigration]
    refine @written_store s clock ctx _ .migration migration _ ?_ k key'
    rw [show (s.table .migration)[migration]? = some record from hmigration]
    exact .stage record migration generation stage detail _
  | publishPortability record =>
    exact @written_store s clock ctx (.publishPortability record) .portability _ _
      (.portability record) k key'

/-! ## What a publication leaves alone -/

namespace Publication

/-- The collection a publication writes. -/
def kind : Publication → RecordKind
  | .registerFederation _ => .federation
  | .registerSite _ => .site
  | .registerCluster _ => .cluster
  | .registerAcceleratorClass _ => .acceleratorClass
  | .registerRuntime _ => .runtime
  | .registerBackend _ => .backend
  | .registerDomain _ => .domain
  | .registerPolicy _ => .policy
  | .registerArtifact _ => .artifact
  | .registerWorkloadClass _ => .workloadClass
  | .registerWorkload _ => .workload
  | .retireCluster .. => .cluster
  | .publishCapability .. => .cluster
  | .publishCapacity .. => .cluster
  | .publishPlacement _ => .placement
  | .publishMigration _ => .migration
  | .publishMigrationStage .. => .migration
  | .publishPortability _ => .portability

theorem table_written (s : Impl) (clock : Clock) (ctx : PublicationContext) (p : Publication)
    {k : RecordKind} (h : k ≠ p.kind) : (p.written s clock ctx).table k = s.table k := by
  cases p with
  | registerCluster r =>
    have hstore := s.table_store_of_ne (k := .cluster) h
    simp only [written, Impl.registerCluster]
    split
    · exact (Impl.table_store_of_ne _ (k := .cluster) h _ _).trans (hstore _ _)
    · exact hstore _ _
  | retireCluster cluster generation reason =>
    simp only [written]
    split
    · exact s.table_store_of_ne (k := .cluster) h _ _
    · rfl
  | publishCapability cluster clusterGeneration generation capabilities =>
    simp only [written]
    split
    · refine (Impl.table_store_of_ne _ (k := .cluster) h _ _).trans ?_
      unfold Impl.storeAdvanced
      split
      · exact s.table_store_of_ne (k := .cluster) h _ _
      · rfl
    · rfl
  | publishCapacity cluster clusterGeneration generation pools =>
    simp only [written]
    split
    · exact s.table_store_of_ne (k := .cluster) h _ _
    · rfl
  | publishMigration record => exact table_recordMigration s clock ctx record h
  | publishMigrationStage migration generation stage detail =>
    simp only [written]
    split
    · exact s.table_store_of_ne (k := .migration) h _ _
    · rfl
  | publishPlacement record => exact s.table_store_of_ne (k := .placement) h _ _
  | publishPortability record => exact s.table_store_of_ne (k := .portability) h _ _
  | registerFederation r => exact s.table_store_of_ne (k := .federation) h _ _
  | registerSite r => exact s.table_store_of_ne (k := .site) h _ _
  | registerAcceleratorClass r => exact s.table_store_of_ne (k := .acceleratorClass) h _ _
  | registerRuntime r => exact s.table_store_of_ne (k := .runtime) h _ _
  | registerBackend r => exact s.table_store_of_ne (k := .backend) h _ _
  | registerDomain r => exact s.table_store_of_ne (k := .domain) h _ _
  | registerPolicy r => exact s.table_store_of_ne (k := .policy) h _ _
  | registerArtifact r => exact s.table_store_of_ne (k := .artifact) h _ _
  | registerWorkloadClass r => exact s.table_store_of_ne (k := .workloadClass) h _ _
  | registerWorkload r => exact s.table_store_of_ne (k := .workload) h _ _

/-- Only placements change which placement is the latest one. -/
theorem latestPlacement_written (s : Impl) (clock : Clock) (ctx : PublicationContext)
    {p : Publication} (h : p.kind ≠ .placement) :
    (p.written s clock ctx).latestPlacement = s.latestPlacement := by
  cases p with
  | registerCluster r =>
    simp only [written, Impl.registerCluster]
    split <;> rfl
  | retireCluster cluster generation reason =>
    simp only [written]
    split <;> rfl
  | publishCapability cluster clusterGeneration generation capabilities =>
    simp only [written, Impl.storeAdvanced]
    split
    · split <;> rfl
    · rfl
  | publishCapacity cluster clusterGeneration generation pools =>
    simp only [written]
    split <;> rfl
  | publishMigration record =>
    simp only [written, Impl.recordMigration]
    split <;> rfl
  | publishMigrationStage migration generation stage detail =>
    simp only [written]
    split <;> rfl
  | publishPlacement record => exact absurd rfl h
  | _ => rfl

/-- Only migrations change which migrations are superseded. -/
theorem supersededMigrations_written (s : Impl) (clock : Clock) (ctx : PublicationContext)
    {p : Publication} (h : ∀ r, p ≠ .publishMigration r) :
    (p.written s clock ctx).supersededMigrations = s.supersededMigrations := by
  cases p with
  | registerCluster r =>
    simp only [written, Impl.registerCluster]
    split <;> rfl
  | retireCluster cluster generation reason =>
    simp only [written]
    split <;> rfl
  | publishCapability cluster clusterGeneration generation capabilities =>
    simp only [written, Impl.storeAdvanced]
    split
    · split <;> rfl
    · rfl
  | publishCapacity cluster clusterGeneration generation pools =>
    simp only [written]
    split <;> rfl
  | publishMigration record => exact absurd rfl (h record)
  | publishMigrationStage migration generation stage detail =>
    simp only [written]
    split <;> rfl
  | _ => rfl

/-- The key a publication writes under. -/
def key : (p : Publication) → p.kind.Key
  | .registerFederation record => record.id
  | .registerSite record => record.id
  | .registerCluster record => record.id
  | .registerAcceleratorClass record => record.id
  | .registerRuntime record => record.id
  | .registerBackend record => record.id
  | .registerDomain record => record.id
  | .registerPolicy record => record.id
  | .registerArtifact record => record.id
  | .registerWorkloadClass record => record.id
  | .registerWorkload record => record.id
  | .retireCluster cluster _ _ => cluster
  | .publishCapability cluster _ _ _ => cluster
  | .publishCapacity cluster _ _ _ => cluster
  | .publishPlacement record => record.id
  | .publishMigration record => record.id
  | .publishMigrationStage migration _ _ _ => migration
  | .publishPortability record => ⟨record.workload, record.destination⟩

end Publication

end FederationObservatory
