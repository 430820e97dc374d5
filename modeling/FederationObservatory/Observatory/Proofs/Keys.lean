import FederationObservatory.Observatory.Proofs.Records
import FederationObservatory.Observatory.Proofs.Restore

/-!
# Records and their keys

Every record is stored under its own key. A capture of the collections therefore repeats no key,
and names exactly the records that are stored.
-/

namespace FederationObservatory

open StoredRecord (key)

/-- Every record is stored under its own key. -/
def Collections.Filed (c : Collections) : Prop :=
  ∀ (k : RecordKind) (at' : k.Key) (record : k.Record), (c.table k)[at']? = some record →
    key record = at'

variable {s : Impl} {clock : Clock} {ctx : PublicationContext}

/-! ## One call -/

theorem key_accepted {k : RecordKind} (record : k.Record) :
    key (accepted clock ctx record) = key record := by
  unfold accepted
  rw [StoredRecord.key_withStamp, StoredRecord.key_withCurrentness]

theorem key_advanceTo (record : ClusterRecord) (generation : ClusterGeneration) :
    (record.advanceTo generation).id = record.id := by
  unfold ClusterRecord.advanceTo
  split <;> rfl

theorem key_superseded (record : MigrationRecord) : record.superseded.id = record.id := by
  unfold MigrationRecord.superseded
  split <;> rfl

theorem key_append (record : MigrationRecord) (event : MigrationStageEvent) :
    (record.append clock ctx event).id = record.id := by
  unfold MigrationRecord.append
  cases event.stage <;> rfl

theorem filed_store (h : s.Filed) {k : RecordKind} {at' : k.Key} {record : k.Record}
    (hkey : key record = at') : (s.store k at' record).Filed := by
  intro k' key' record' hrecord
  rcases s.lookup_store k at' record k' key' with hsame | ⟨rfl, hat, hnew⟩
  · rw [hsame] at hrecord
    exact h k' key' record' hrecord
  · rw [hnew] at hrecord
    obtain rfl := Option.some.inj hrecord
    exact hkey.trans hat.symm

theorem filed_recordMigration (h : s.Filed) (record : MigrationRecord) :
    (s.recordMigration clock ctx record).Filed := by
  intro k key' record' hrecord
  by_cases hk : k = .migration
  · subst hk
    have hlookup := (lookup_recordMigration s clock ctx record key').symm.trans hrecord
    simp only at hlookup
    have hstored : ∀ {r : MigrationRecord},
        (if record.id = key' then some (record.accept clock ctx) else s.migrations[key']?) =
          some r → r.id = key' := by
      intro r hr
      split at hr
      · rename_i hid
        obtain rfl := Option.some.inj hr
        exact hid
      · exact h .migration key' r hr
    split at hlookup
    · obtain ⟨r, hr, rfl⟩ := Option.map_eq_some_iff.mp hlookup
      exact (key_superseded r).trans (hstored hr)
    · exact hstored hlookup
  · rw [table_recordMigration s clock ctx record hk] at hrecord
    exact h k key' record' hrecord

theorem Publication.filed_written (h : s.Filed) (p : Publication) :
    (p.written s clock ctx).Filed := by
  cases p with
  | registerCluster r =>
    have hregistered : (s.register clock ctx .cluster r).Filed :=
      filed_store (k := .cluster) h (key_accepted (k := .cluster) r)
    simp only [written, Impl.registerCluster]
    split
    · exact filed_store (k := .cluster) hregistered rfl
    · exact hregistered
  | retireCluster cluster generation reason =>
    simp only [written]
    split
    · rename_i record hcluster
      exact filed_store (k := .cluster) h (h .cluster cluster record hcluster)
    · exact h
  | publishCapability cluster clusterGeneration generation capabilities =>
    simp only [written]
    split
    · rename_i record hcluster
      have hkey : (record.advanceTo clusterGeneration).id = cluster :=
        (key_advanceTo record clusterGeneration).trans (h .cluster cluster record hcluster)
      have hadvanced : (s.storeAdvanced cluster record clusterGeneration).Filed := by
        unfold Impl.storeAdvanced
        split
        · exact filed_store (k := .cluster) h hkey
        · exact h
      exact filed_store (k := .cluster) hadvanced hkey
    · exact h
  | publishCapacity cluster clusterGeneration generation pools =>
    simp only [written]
    split
    · rename_i record hcluster
      exact filed_store (k := .cluster) h
        ((key_advanceTo record clusterGeneration).trans (h .cluster cluster record hcluster))
    · exact h
  | publishMigration r => exact filed_recordMigration h r
  | publishMigrationStage migration generation stage detail =>
    simp only [written]
    split
    · rename_i record hmigration
      exact filed_store (k := .migration) h
        ((key_append record _).trans (h .migration migration record hmigration))
    · exact h
  | publishPlacement r => exact filed_store (k := .placement) h rfl
  | publishPortability r => exact filed_store (k := .portability) h rfl
  | registerFederation r => exact filed_store h (key_accepted (k := .federation) r)
  | registerSite r => exact filed_store h (key_accepted (k := .site) r)
  | registerAcceleratorClass r => exact filed_store h (key_accepted (k := .acceleratorClass) r)
  | registerRuntime r => exact filed_store h (key_accepted (k := .runtime) r)
  | registerBackend r => exact filed_store h (key_accepted (k := .backend) r)
  | registerDomain r => exact filed_store h (key_accepted (k := .domain) r)
  | registerPolicy r => exact filed_store h (key_accepted (k := .policy) r)
  | registerArtifact r => exact filed_store h (key_accepted (k := .artifact) r)
  | registerWorkloadClass r => exact filed_store h (key_accepted (k := .workloadClass) r)
  | registerWorkload r => exact filed_store h (key_accepted (k := .workload) r)

theorem filed_next (h : s.Filed) (operation : Operation) : (operation.next s).Filed := by
  intro k at' record hrecord
  cases hrestores : operation.restores s with
  | some d =>
    rw [next_of_restores hrestores] at hrecord
    obtain ⟨r, -, hkey, rfl⟩ := exists_of_restored hrecord
    exact (key_restoredRecord k r).trans hkey
  | none =>
    have hstep := Operation.recordStep hrestores k at'
    generalize hfound : (s.table k)[at']? = found at hstep
    rw [hrecord] at hstep
    cases hstep with
    | unchanged => exact h k at' record hfound
    | written hsubmit hadmitted haccepts hwritten =>
      subst hsubmit
      rw [collections_of_accepts hadmitted haccepts] at hrecord
      exact Publication.filed_written h _ k at' record hrecord
    | swept key' old =>
      refine Eq.trans ?_ (h k at' old hfound)
      unfold sweep
      split
      · exact StoredRecord.key_withCurrentness _ _
      · rfl
    | invalidated reason old => exact h .cluster at' old hfound

theorem Reachable.filed (h : Reachable s) : s.Filed := by
  induction h with
  | new bounds =>
    intro k at' record hrecord
    have hempty : (Impl.new bounds).table k = ∅ := by cases k <;> rfl
    rw [hempty, Std.TreeMap.getElem?_emptyc] at hrecord
    cases hrecord
  | next _ operation ih => exact filed_next ih operation

/-! ## Captures -/

/-- The record a save writes of a stored record. -/
def savedRecord : (k : RecordKind) → k.Record → k.Record
  | .cluster, record => DurableState.normalizeCluster record
  | .federation, record => DurableState.demote record
  | .site, record => DurableState.demote record
  | .placement, record => DurableState.demote record
  | .migration, record => DurableState.demote record
  | .portability, record => DurableState.demote record
  | _, record => record

/-- The durable state a save encodes. -/
def Impl.saved (s : Impl) (now : TimestampNanos) : DurableState :=
  (captureDurableState s now).normalizeForPersistence

theorem normalizeCluster_idem (record : ClusterRecord) :
    DurableState.normalizeCluster (DurableState.normalizeCluster record) =
      DurableState.normalizeCluster record := by
  unfold DurableState.normalizeCluster
  cases record.currentness <;> rfl

theorem collection_saved (s : Impl) (now : TimestampNanos) (k : RecordKind) :
    (s.saved now).collection k = (s.table k).values.map (savedRecord k) := by
  cases k with
  | cluster =>
    change ((s.clusters.values.map _).map _) = _
    rw [List.map_map]
    refine List.map_congr_left fun record _ => ?_
    exact normalizeCluster_idem record
  | federation => rfl
  | site => rfl
  | placement => rfl
  | migration => rfl
  | portability => rfl
  | _ => exact (List.map_id _).symm

theorem key_savedRecord (k : RecordKind) (record : k.Record) :
    key (savedRecord k record) = key record := by
  cases k with
  | federation => exact DurableState.key_demote (ρ := RecordKind.Record .federation) record
  | site => exact DurableState.key_demote (ρ := RecordKind.Record .site) record
  | placement => exact DurableState.key_demote (ρ := RecordKind.Record .placement) record
  | migration => exact DurableState.key_demote (ρ := RecordKind.Record .migration) record
  | portability => exact DurableState.key_demote (ρ := RecordKind.Record .portability) record
  | _ => rfl

/-- A save repeats no key. -/
theorem nodup_saved (h : s.Filed) (now : TimestampNanos) (k : RecordKind) :
    (((s.saved now).collection k).map key).Nodup := by
  have hkeys : ((s.table k).values.map fun record => key (savedRecord k record)) =
      (s.table k).keys := by
    refine Tables.map_values_eq_keys fun at' record hrecord => ?_
    rw [key_savedRecord]
    exact h k at' record hrecord
  rw [collection_saved, List.map_map]
  exact hkeys ▸ Std.TreeMap.nodup_keys

/-- A save names the records that are stored. -/
theorem names_saved_iff (h : s.Filed) (now : TimestampNanos) {k : RecordKind} {id : k.Key} :
    (s.saved now).Names k id ↔ id ∈ s.table k := by
  rw [Std.TreeMap.mem_iff_isSome_getElem?, Option.isSome_iff_exists]
  unfold DurableState.Names
  rw [collection_saved]
  constructor
  · intro ⟨record, hrecord, hkey⟩
    obtain ⟨stored, hstored, rfl⟩ := List.mem_map.mp hrecord
    obtain ⟨at', hat⟩ := Tables.mem_values_iff.mp hstored
    have hid : at' = id := by
      rw [← h k at' stored hat, ← key_savedRecord k stored]
      exact hkey
    exact ⟨stored, hid ▸ hat⟩
  · intro ⟨stored, hstored⟩
    refine ⟨savedRecord k stored, List.mem_map.mpr ⟨stored, ?_, rfl⟩, ?_⟩
    · exact Tables.mem_values_iff.mpr ⟨id, hstored⟩
    · rw [key_savedRecord]
      exact h k id stored hstored

end FederationObservatory
