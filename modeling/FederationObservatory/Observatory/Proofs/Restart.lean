import FederationObservatory.Observatory.Proofs.LatestPlacement
import FederationObservatory.Observatory.Proofs.SaveLoad
import FederationObservatory.Observatory.Proofs.Supersession

/-!
# Indices across a restart

Two indices are not saved: the latest placement of a workload, and the migration of a workload that
was superseded. A restore rebuilds them from the records in the order of the file, which is the
order of their observation times and, among equal times, of their identifiers. What was accepted
in another order comes out differently.
-/

namespace FederationObservatory

open Sorting StoredRecord
open DurableState (weak_historyLt linear_historyLt)

/-- The place of a placement in a file. -/
def PlacementRecord.moment (record : PlacementRecord) : TimestampNanos × PlacementId :=
  (record.stamp.observedAt, record.id)

/-- The place of a migration in a file. -/
def MigrationRecord.moment (record : MigrationRecord) : TimestampNanos × MigrationId :=
  (record.stamp.observedAt, record.id)

/-- Stage events of the migration are refused because it was superseded. -/
def Impl.Superseded (s : Impl) (migration : MigrationId) : Prop :=
  ∃ record, s.migrations[migration]? = some record ∧
    s.supersededMigrations[record.workload]? = some migration

/-- The indices of `t` are those of `s`, and so are the decisions that rest on them. -/
structure IndicesKept (s t : Impl) : Prop where
  latest : ∀ workload : WorkloadId, t.latestPlacement[workload]? = s.latestPlacement[workload]?
  superseded : ∀ migration, t.Superseded migration ↔ s.Superseded migration
  newer : ∀ record, t.latestPlacementIsNewer record = s.latestPlacementIsNewer record

/-- Of the placements of a workload, the one that comes last in a file. -/
def Impl.PlacedLast (s : Impl) (workload : WorkloadId) (id : PlacementId) : Prop :=
  ∃ record, s.placements[id]? = some record ∧ record.workload = workload ∧
    ∀ (id' : PlacementId) (other : PlacementRecord), s.placements[id']? = some other →
      other.workload = workload → historyLt record.moment other.moment = false

/-- The latest placement of a workload is the one of its placements that comes last in a file. -/
def Impl.LatestObserved (s : Impl) : Prop :=
  ∀ (workload : WorkloadId) (id : PlacementId), s.latestPlacement[workload]? = some id →
    s.PlacedLast workload id

/-- Of the migrations of a workload that supersede one, the one that comes last in a file supersedes
    the given migration. -/
def Impl.NamedLast (s : Impl) (workload : WorkloadId) (superseded : MigrationId) : Prop :=
  ∃ (id : MigrationId) (record : MigrationRecord), s.migrations[id]? = some record ∧
    record.link = (workload, superseded) ∧ superseded.empty = false ∧
    ∀ (id' : MigrationId) (other : MigrationRecord), s.migrations[id']? = some other →
      other.workload = workload → other.supersedes.empty = false →
      historyLt record.moment other.moment = false

/-- The index names a migration exactly when the supersession that comes last in a file does. -/
def Impl.SupersessionObserved (s : Impl) : Prop :=
  ∀ (migration : MigrationId) (record : MigrationRecord),
    s.migrations[migration]? = some record →
    (s.supersededMigrations[record.workload]? = some migration ↔
      s.NamedLast record.workload migration)

/-! ## The placement loop -/

/-- What comes later in a file was not observed earlier. -/
theorem observedAt_le_of_historyLt {tag : IdTag} {a b : TimestampNanos × StrongId tag}
    (h : historyLt b a = false) : a.1 ≤ b.1 := by
  unfold historyLt at h
  by_cases htime : b.1 = a.1
  · exact htime ▸ Int64.le_refl _
  · rw [if_pos htime] at h
    exact Int64.not_lt.mp (of_decide_eq_false h)

/-- In the order of a file every placement becomes the latest one of its workload. -/
theorem latest_foldl_restorePlacement {placements : List PlacementRecord}
    (hsorted : placements.Pairwise fun a b => historyLt b.moment a.moment = false)
    (hnodup : (placements.map (·.id)).Nodup) (workload : WorkloadId) :
    (placements.foldl restorePlacement (∅, ∅)).1[workload]? =
      ((placements.filter fun r => decide (r.workload = workload)).getLast?).map (·.id) := by
  induction placements using List.reverseRecOn generalizing workload with
  | nil => simp
  | append_singleton before record ih =>
    obtain ⟨hbefore, -, hlast⟩ := List.pairwise_append.mp hsorted
    rw [List.map_append] at hnodup
    have hnodup' := (List.nodup_append.mp hnodup).1
    have hindex := ih hbefore hnodup'
    have htable := placements_restorePlacement before (∅, ∅)
    rw [List.foldl_append, List.foldl_cons, List.foldl_nil]
    generalize before.foldl restorePlacement (∅, ∅) = index at hindex htable
    have hround : (restorePlacement index record).1 = index.1.insert record.workload record.id := by
      simp only [restorePlacement]
      refine if_pos ?_
      rw [hindex record.workload]
      cases hfound : (before.filter fun r => decide (r.workload = record.workload)).getLast? with
      | none => rfl
      | some latest =>
        -- the latest one so far was not observed later
        have hmem := (List.mem_filter.mp (List.mem_of_getLast? hfound)).1
        have hstored : index.2[latest.id]? = some (restoredRecord .placement latest) := by
          rw [htable]
          exact Tables.getElem?_emplaceAll_of_nodup (f := key (ρ := PlacementRecord)) hnodup' hmem
        have hle := observedAt_le_of_historyLt (hlast latest hmem record List.mem_cons_self)
        simp only [Option.map_some, Std.TreeMap.getD_eq_getD_getElem?, hstored, Option.getD_some]
        exact decide_eq_true hle
    rw [hround, Std.TreeMap.getElem?_insert, List.filter_append]
    by_cases hsame : record.workload = workload
    · simp [hsame]
    · simp [hsame, hindex workload]

/-! ## What a restart reads -/

variable {s t : Impl}

/-- What a load of the file that was saved reads. -/
def Impl.reloaded (s : Impl) (now : TimestampNanos) : DurableState :=
  (captureDurableState s now).written.readBack

section Reloaded

variable (now : TimestampNanos)

/-- The standing of a placement: its workload, its moment and its generation. -/
def PlacementRecord.standing (record : PlacementRecord) :
    WorkloadId × (TimestampNanos × PlacementId) × PlacementGeneration :=
  (record.workload, record.moment, record.generation)

/-- The standing of a migration: its link and its moment. -/
def MigrationRecord.standing (record : MigrationRecord) :
    (WorkloadId × MigrationId) × (TimestampNanos × MigrationId) :=
  (record.link, record.moment)

theorem PlacementRecord.standing_eq {a b : PlacementRecord} (h : a.standing = b.standing) :
    a.workload = b.workload ∧ a.moment = b.moment ∧ a.generation = b.generation :=
  ⟨congrArg (·.1) h, congrArg (·.2.1) h, congrArg (·.2.2) h⟩

theorem MigrationRecord.standing_eq {a b : MigrationRecord} (h : a.standing = b.standing) :
    a.link = b.link ∧ a.moment = b.moment :=
  ⟨congrArg (·.1) h, congrArg (·.2) h⟩

theorem standing_demote_placement (record : PlacementRecord) :
    (DurableState.demote record).standing = record.standing := by
  unfold DurableState.demote
  split <;> rfl

theorem standing_demote_migration (record : MigrationRecord) :
    (DurableState.demote record).standing = record.standing := by
  unfold DurableState.demote
  split <;> rfl

/-- A file holds the records that are stored. -/
theorem mem_collection_reloaded {k : RecordKind} {record : k.Record} :
    record ∈ (s.reloaded now).collection k ↔
      ∃ (at' : k.Key) (stored : k.Record), (s.table k)[at']? = some stored ∧
        k.readBack (savedRecord k stored) = record := by
  have hcollection : (s.reloaded now).collection k =
      ((s.saved now).sorted.collection k).map k.readBack :=
    DurableState.collection_readBack _ k
  simp only [hcollection, List.mem_map,
    (DurableState.perm_collection_sorted (s.saved now) k).mem_iff, collection_saved,
    Tables.mem_values_iff]
  constructor
  · rintro ⟨_, ⟨stored, ⟨at', hstored⟩, rfl⟩, rfl⟩
    exact ⟨at', stored, hstored, rfl⟩
  · rintro ⟨at', stored, hstored, rfl⟩
    exact ⟨_, ⟨stored, ⟨at', hstored⟩, rfl⟩, rfl⟩

theorem nodup_reloaded (hfiled : s.Filed) (k : RecordKind) :
    (((s.reloaded now).collection k).map key).Nodup :=
  (DurableState.keys_readBack_sorted (s.saved now) k).nodup_iff.mpr (nodup_saved hfiled now k)

theorem sorted_placements_reloaded :
    (s.reloaded now).placements.Pairwise fun a b => historyLt b.moment a.moment = false := by
  change ((stableSort _ (s.saved now).placements).map PlacementRecord.readBack).Pairwise _
  rw [List.pairwise_map]
  exact (weak_historyLt.comap PlacementRecord.moment).pairwise (s.saved now).placements

theorem sorted_migrations_reloaded :
    (s.reloaded now).migrations.Pairwise fun a b => historyLt b.moment a.moment = false := by
  change ((stableSort _ (s.saved now).migrations).map MigrationRecord.readBack).Pairwise _
  rw [List.pairwise_map]
  exact (weak_historyLt.comap MigrationRecord.moment).pairwise (s.saved now).migrations

/-- A placement in the file is stored with the same standing. -/
theorem stored_of_placement_reloaded (hfiled : s.Filed) {record : PlacementRecord}
    (h : record ∈ (s.reloaded now).placements) :
    ∃ stored, s.placements[record.id]? = some stored ∧ stored.standing = record.standing := by
  obtain ⟨at', stored, hstored, rfl⟩ := (mem_collection_reloaded (k := .placement) now).mp h
  have hid : stored.id = at' := hfiled .placement at' stored hstored
  have hstanding : (DurableState.demote stored).readBack.standing = stored.standing :=
    standing_demote_placement stored
  have hkept : (DurableState.demote stored).readBack.id = at' :=
    (congrArg (fun standing => standing.2.1.2) hstanding).trans hid
  exact ⟨stored, hkept ▸ hstored, hstanding.symm⟩

theorem placement_reloaded_of_stored {id : PlacementId} {stored : PlacementRecord}
    (h : s.placements[id]? = some stored) :
    ∃ record ∈ (s.reloaded now).placements, record.standing = stored.standing :=
  ⟨(DurableState.demote stored).readBack,
    (mem_collection_reloaded (k := .placement) now).mpr ⟨id, stored, h, rfl⟩,
    standing_demote_placement stored⟩

/-- A migration in the file is stored with the same standing. -/
theorem stored_of_migration_reloaded (hfiled : s.Filed) {record : MigrationRecord}
    (h : record ∈ (s.reloaded now).migrations) :
    ∃ stored, s.migrations[record.id]? = some stored ∧ stored.standing = record.standing := by
  obtain ⟨at', stored, hstored, rfl⟩ := (mem_collection_reloaded (k := .migration) now).mp h
  have hid : stored.id = at' := hfiled .migration at' stored hstored
  have hstanding : (DurableState.demote stored).readBack.standing = stored.standing :=
    standing_demote_migration stored
  have hkept : (DurableState.demote stored).readBack.id = at' :=
    (congrArg (fun standing => standing.2.2) hstanding).trans hid
  exact ⟨stored, hkept ▸ hstored, hstanding.symm⟩

theorem migration_reloaded_of_stored {id : MigrationId} {stored : MigrationRecord}
    (h : s.migrations[id]? = some stored) :
    ∃ record ∈ (s.reloaded now).migrations, record.standing = stored.standing :=
  ⟨(DurableState.demote stored).readBack,
    (mem_collection_reloaded (k := .migration) now).mpr ⟨id, stored, h, rfl⟩,
    standing_demote_migration stored⟩

/-- After a restart the latest placement of a workload is the one that came last in the file. -/
theorem latestPlacement_reloaded (hfiled : s.Filed) {workload : WorkloadId} {id : PlacementId} :
    (restoredState t (s.reloaded now)).latestPlacement[workload]? = some id ↔
      s.PlacedLast workload id := by
  have hnodup := nodup_reloaded now hfiled .placement
  have hfold := latest_foldl_restorePlacement (sorted_placements_reloaded now) hnodup workload
  change (restoredState t (s.reloaded now)).latestPlacement[workload]? = _ at hfold
  have hseparated : ∀ a ∈ (s.reloaded now).placements, ∀ b ∈ (s.reloaded now).placements,
      historyLt a.moment b.moment = false → historyLt b.moment a.moment = false → a = b := by
    intro a ha b hb hab hba
    have hmoment := linear_historyLt.antisymm a.moment b.moment hab hba
    exact List.inj_on_of_nodup_map hnodup ha hb (congrArg Prod.snd hmoment)
  simp only [hfold, Option.map_eq_some_iff, getLast?_filter_eq_some
    (weak_historyLt.comap PlacementRecord.moment) (sorted_placements_reloaded now) hseparated,
    decide_eq_true_eq]
  constructor
  · rintro ⟨record, ⟨hmem, hworkload, hlast⟩, rfl⟩
    obtain ⟨stored, hstored, hstanding⟩ := stored_of_placement_reloaded now hfiled hmem
    obtain ⟨hkept, hmoment, -⟩ := PlacementRecord.standing_eq hstanding
    refine ⟨stored, hstored, hkept.trans hworkload, fun id' other hother hsame => ?_⟩
    obtain ⟨other', hmem', hstanding'⟩ := placement_reloaded_of_stored now hother
    obtain ⟨hkept', hmoment', -⟩ := PlacementRecord.standing_eq hstanding'
    rw [hmoment, ← hmoment']
    exact hlast other' hmem' (hkept'.trans hsame)
  · rintro ⟨stored, hstored, hworkload, hlast⟩
    obtain ⟨record, hmem, hstanding⟩ := placement_reloaded_of_stored now hstored
    obtain ⟨hkept, hmoment, -⟩ := PlacementRecord.standing_eq hstanding
    have hid : stored.id = id := hfiled .placement id stored hstored
    refine ⟨record, ⟨hmem, hkept.trans hworkload, ?_⟩, (congrArg Prod.snd hmoment).trans hid⟩
    intro other hother hsame
    obtain ⟨stored', hstored', hstanding'⟩ := stored_of_placement_reloaded now hfiled hother
    obtain ⟨hkept', hmoment', -⟩ := PlacementRecord.standing_eq hstanding'
    rw [hmoment, ← hmoment']
    exact hlast _ stored' hstored' (hkept'.trans hsame)

/-- After a restart the index names what the last supersession of the file names. -/
theorem supersededMigrations_reloaded (hfiled : s.Filed) {workload : WorkloadId}
    {superseded : MigrationId} :
    (restoredState t (s.reloaded now)).supersededMigrations[workload]? = some superseded ↔
      s.NamedLast workload superseded := by
  have hnodup := nodup_reloaded now hfiled .migration
  have hseparated : ∀ a ∈ (s.reloaded now).migrations, ∀ b ∈ (s.reloaded now).migrations,
      historyLt a.moment b.moment = false → historyLt b.moment a.moment = false → a = b := by
    intro a ha b hb hab hba
    have hmoment := linear_historyLt.antisymm a.moment b.moment hab hba
    exact List.inj_on_of_nodup_map hnodup ha hb (congrArg Prod.snd hmoment)
  simp only [supersededMigrations_restored, DurableState.lastSuperseded, Option.map_eq_some_iff,
    getLast?_filter_eq_some (weak_historyLt.comap MigrationRecord.moment)
      (sorted_migrations_reloaded now) hseparated,
    Bool.and_eq_true, decide_eq_true_eq, Bool.not_eq_true', and_imp]
  constructor
  · rintro ⟨record, ⟨hmem, ⟨hworkload, hnamed⟩, hlast⟩, rfl⟩
    obtain ⟨stored, hstored, hstanding⟩ := stored_of_migration_reloaded now hfiled hmem
    obtain ⟨hlink, hmoment⟩ := MigrationRecord.standing_eq hstanding
    refine ⟨record.id, stored, hstored, ?_, hnamed, fun id' other hother hsame hnamed' => ?_⟩
    · rw [hlink, ← hworkload]
      rfl
    · obtain ⟨other', hmem', hstanding'⟩ := migration_reloaded_of_stored now hother
      obtain ⟨hlink', hmoment'⟩ := MigrationRecord.standing_eq hstanding'
      obtain ⟨hworkload', hsupersedes⟩ := Prod.ext_iff.mp hlink'
      rw [hmoment, ← hmoment']
      exact hlast other' hmem' (hworkload'.trans hsame)
        ((congrArg StrongId.empty hsupersedes).trans hnamed')
  · rintro ⟨id, stored, hstored, hlink, hnamed, hlast⟩
    obtain ⟨record, hmem, hstanding⟩ := migration_reloaded_of_stored now hstored
    obtain ⟨hkept, hmoment⟩ := MigrationRecord.standing_eq hstanding
    obtain ⟨hworkload, hsupersedes⟩ := Prod.ext_iff.mp (hkept.trans hlink)
    refine ⟨record, ⟨hmem, ⟨hworkload, ?_⟩, ?_⟩, hsupersedes⟩
    · exact (congrArg StrongId.empty hsupersedes).trans hnamed
    · intro other hother hsame hnamed'
      obtain ⟨stored', hstored', hstanding'⟩ := stored_of_migration_reloaded now hfiled hother
      obtain ⟨hlink', hmoment'⟩ := MigrationRecord.standing_eq hstanding'
      obtain ⟨hworkload', hsupersedes'⟩ := Prod.ext_iff.mp hlink'
      rw [hmoment, ← hmoment']
      exact hlast _ stored' hstored' (hworkload'.trans hsame)
        ((congrArg StrongId.empty hsupersedes').trans hnamed')

/-- The records a decision reads keep their standing. -/
theorem placement_restarted (hfiled : s.Filed) {id : PlacementId} {stored : PlacementRecord}
    (h : s.placements[id]? = some stored) :
    ∃ record, (restoredState t (s.reloaded now)).placements[id]? = some record ∧
      record.standing = stored.standing := by
  obtain ⟨record, hmem, hstanding⟩ := placement_reloaded_of_stored now h
  have hlookup := lookup_restored (s := t) (nodup_reloaded now hfiled .placement) hmem
  obtain ⟨-, hmoment, -⟩ := PlacementRecord.standing_eq hstanding
  have hid : record.id = id :=
    (congrArg Prod.snd hmoment).trans (hfiled .placement id stored h)
  exact ⟨restoredRecord .placement record, hid ▸ hlookup, hstanding⟩

theorem migration_restarted_iff (hfiled : s.Filed) {id : MigrationId} {workload : WorkloadId} :
    (∃ record, (restoredState t (s.reloaded now)).migrations[id]? = some record ∧
        record.workload = workload) ↔
      ∃ record, s.migrations[id]? = some record ∧ record.workload = workload := by
  constructor
  · rintro ⟨restored, hrestored, rfl⟩
    obtain ⟨record, hmem, rfl, rfl⟩ := exists_of_restored (k := .migration) hrestored
    obtain ⟨stored, hstored, hstanding⟩ := stored_of_migration_reloaded now hfiled hmem
    exact ⟨stored, hstored, congrArg (·.1.1) hstanding⟩
  · rintro ⟨stored, hstored, rfl⟩
    obtain ⟨record, hmem, hstanding⟩ := migration_reloaded_of_stored now hstored
    have hlookup := lookup_restored (s := t) (nodup_reloaded now hfiled .migration) hmem
    obtain ⟨hlink, hmoment⟩ := MigrationRecord.standing_eq hstanding
    have hid : record.id = id :=
      (congrArg Prod.snd hmoment).trans (hfiled .migration id stored hstored)
    exact ⟨restoredRecord .migration record, hid ▸ hlookup, congrArg Prod.fst hlink⟩

/-- A migration is closed after a restart if the last supersession of its workload names it. -/
theorem superseded_restarted_iff (hfiled : s.Filed) {migration : MigrationId}
    {record : MigrationRecord} (hstored : s.migrations[migration]? = some record) :
    (restoredState t (s.reloaded now)).Superseded migration ↔
      s.NamedLast record.workload migration := by
  rw [← supersededMigrations_reloaded (t := t) now hfiled]
  constructor
  · intro ⟨restored, hrestored, hindex⟩
    obtain ⟨record', hstored', hworkload⟩ :=
      (migration_restarted_iff now hfiled).mp ⟨restored, hrestored, rfl⟩
    obtain rfl := Option.some.inj (hstored.symm.trans hstored')
    rwa [hworkload]
  · intro hindex
    obtain ⟨restored, hrestored, hworkload⟩ :=
      (migration_restarted_iff (t := t) now hfiled).mpr ⟨record, hstored, rfl⟩
    exact ⟨restored, hrestored, hworkload ▸ hindex⟩

end Reloaded

theorem superseded_iff {migration : MigrationId} {record : MigrationRecord}
    (hstored : s.migrations[migration]? = some record) :
    s.Superseded migration ↔ s.supersededMigrations[record.workload]? = some migration := by
  constructor
  · intro ⟨record', hstored', hindex⟩
    obtain rfl := Option.some.inj (hstored.symm.trans hstored')
    exact hindex
  · intro hindex
    exact ⟨record, hstored, hindex⟩

/-! ## The indices before and after -/

/-- The index after a restart is the one before, where that one is in the order of a file. -/
theorem latestPlacement_restarted (hs : Reachable s) (h : s.LatestObserved) (now : TimestampNanos)
    (workload : WorkloadId) :
    (restoredState t (s.reloaded now)).latestPlacement[workload]? =
      s.latestPlacement[workload]? := by
  cases hlatest : s.latestPlacement[workload]? with
  | some id => exact (latestPlacement_reloaded now hs.filed).mpr (h workload id hlatest)
  | none =>
    by_contra hsome
    obtain ⟨id, hid⟩ := Option.ne_none_iff_exists'.mp hsome
    -- the placement of the file is stored, and so its workload has a latest one
    obtain ⟨stored, hstored, rfl, -⟩ := (latestPlacement_reloaded now hs.filed).mp hid
    have hindexed := hs.indexed id stored hstored
    rw [Std.TreeMap.mem_iff_isSome_getElem?, hlatest] at hindexed
    cases hindexed

/-- The comparison of a placement with the latest one of its workload comes out the same. -/
theorem latestPlacementIsNewer_restarted (hs : Reachable s) (h : s.LatestObserved)
    (now : TimestampNanos) (record : PlacementRecord) :
    (restoredState t (s.reloaded now)).latestPlacementIsNewer record =
      s.latestPlacementIsNewer record := by
  unfold Impl.latestPlacementIsNewer
  rw [latestPlacement_restarted hs h]
  cases hlatest : s.latestPlacement[record.workload]? with
  | none => rfl
  | some id =>
    obtain ⟨stored, hstored, -⟩ := h record.workload id hlatest
    obtain ⟨restored, hrestored, hstanding⟩ := placement_restarted (t := t) now hs.filed hstored
    obtain ⟨-, hmoment, hgeneration⟩ := PlacementRecord.standing_eq hstanding
    have htime : restored.stamp.observedAt = stored.stamp.observedAt := congrArg Prod.fst hmoment
    simp only [hstored, hrestored, htime, hgeneration]

theorem indicesKept_iff (hs : Reachable s) (now : TimestampNanos) :
    IndicesKept s (restoredState t (s.reloaded now)) ↔
      s.LatestObserved ∧ s.SupersessionObserved := by
  constructor
  · intro h
    refine ⟨fun workload id hlatest => ?_, fun migration record hstored => ?_⟩
    · rw [← h.latest workload] at hlatest
      exact (latestPlacement_reloaded now hs.filed).mp hlatest
    · rw [← superseded_iff hstored, ← h.superseded migration]
      exact superseded_restarted_iff now hs.filed hstored
  · intro ⟨hlatest, hsuperseded⟩
    refine ⟨latestPlacement_restarted hs hlatest now, fun migration => ?_,
      latestPlacementIsNewer_restarted hs hlatest now⟩
    cases hstored : s.migrations[migration]? with
    | some record =>
      rw [superseded_restarted_iff now hs.filed hstored, superseded_iff hstored]
      exact (hsuperseded migration record hstored).symm
    | none =>
      refine iff_of_false ?_ ?_
      · intro ⟨restored, hrestored, _⟩
        obtain ⟨record, hrecord, -⟩ :=
          (migration_restarted_iff now hs.filed).mp ⟨restored, hrestored, rfl⟩
        exact absurd (hstored.symm.trans hrecord) (by simp)
      · intro ⟨record, hrecord, _⟩
        exact absurd (hstored.symm.trans hrecord) (by simp)

/-- What a load of a saved file leaves. -/
theorem loadState_of_saved (hs : Reachable s) {now : TimestampNanos} {image : ByteCodec.Bytes}
    (hsave : (saveState s now).1 = .ok image) (hload : (loadState t (some image)).1 = .ok ()) :
    (loadState t (some image)).2 = restoredState t (s.reloaded now) := by
  have hsaved : saveDurableState (captureDurableState s now) s.bounds = .ok image := hsave
  unfold loadState at hload ⊢
  cases hread : loadDurableState (some image) t.bounds with
  | error e =>
    rw [hread] at hload
    cases hload
  | ok d =>
    obtain rfl := eq_of_load hs.validate_bounds hsaved hread
    rw [hread] at hload
    simp only [restore] at hload ⊢
    split at hload
    · cases hload
    · rfl

/-- A restart keeps the indices exactly when they are those of the order of a file: the latest
    placement of every workload is the one observed last, and the superseded migration of a workload
    is the one that the supersession observed last names. -/
theorem restart_keeps_indices_iff (hs : Reachable s) {now : TimestampNanos}
    {image : ByteCodec.Bytes} (hsave : (saveState s now).1 = .ok image)
    (hload : (loadState t (some image)).1 = .ok ()) :
    IndicesKept s (loadState t (some image)).2 ↔ s.LatestObserved ∧ s.SupersessionObserved := by
  rw [loadState_of_saved hs hsave hload]
  exact indicesKept_iff hs now

namespace Deployment

/-- The deployment with two placements of its workload. -/
def twicePlaced (second : TimestampNanos) : Impl := loaded.run (placementOperations second)

theorem reachable_twicePlaced (second : TimestampNanos) : Reachable (twicePlaced second) :=
  reachable_loaded.run _

theorem latestObserved_twicePlaced : (twicePlaced 500).LatestObserved := by
  intro workload' id hlatest
  have hentries : (twicePlaced 500).latestPlacement.toList =
      [(workload.id, (placement "first").id)] := by decide +kernel
  have hentry := Std.TreeMap.mem_toList_iff_getElem?_eq_some.mpr hlatest
  rw [hentries, List.mem_singleton] at hentry
  obtain ⟨rfl, rfl⟩ := Prod.ext_iff.mp hentry
  have hfirst : ((twicePlaced 500).placements[(placement "first").id]?).map
      PlacementRecord.standing =
        some (workload.id, (1000, (placement "first").id), ⟨1⟩) := by decide +kernel
  have hlast : (twicePlaced 500).placements.values.all (fun other =>
      !historyLt (1000, (placement "first").id) other.moment) = true := by decide +kernel
  obtain ⟨record, hrecord, hstanding⟩ := Option.map_eq_some_iff.mp hfirst
  refine ⟨record, hrecord, congrArg (·.1) hstanding, fun id' other hother _ => ?_⟩
  have hmoment : record.moment = (1000, (placement "first").id) := congrArg (·.2.1) hstanding
  have hbefore := List.all_eq_true.mp hlast other (Tables.mem_values_iff.mpr ⟨id', hother⟩)
  rw [hmoment]
  simpa using hbefore

theorem supersessionObserved_twicePlaced : (twicePlaced 500).SupersessionObserved := by
  intro migration record hstored
  have hnone : (twicePlaced 500).migrations.isEmpty = true := by decide +kernel
  rw [Std.TreeMap.getElem?_of_isEmpty hnone] at hstored
  cases hstored

end Deployment

/-- In the deployment the older placement comes second, and a restart keeps the index. -/
theorem restart_keeps_indices_deployment :
    ∃ image, (saveState (Deployment.twicePlaced 500) 0).1 = .ok image ∧
      (loadState (Impl.new {}) (some image)).1 = .ok () ∧
      IndicesKept (Deployment.twicePlaced 500) (loadState (Impl.new {}) (some image)).2 := by
  obtain ⟨image, hsave, -⟩ := exists_saved (captureDurableState (Deployment.twicePlaced 500) 0)
    (Deployment.twicePlaced 500).bounds (by decide +kernel) (by decide +kernel) (by decide +kernel)
  have hload := loadState_of_restores (restores_of_save (t := Impl.new {})
    (Deployment.reachable_twicePlaced 500) (by decide +kernel) hsave (by decide +kernel)
    (by decide +kernel))
  refine ⟨image, hsave, congrArg Prod.fst hload, ?_⟩
  exact (restart_keeps_indices_iff (Deployment.reachable_twicePlaced 500) hsave
    (congrArg Prod.fst hload)).mpr
      ⟨Deployment.latestObserved_twicePlaced, Deployment.supersessionObserved_twicePlaced⟩

/-- A placement without a stamp of its own is stored as history. It was observed last, and a restart
    makes it the latest one. -/
theorem restart_changes_latest :
    ¬∀ (s t : Impl) (now : TimestampNanos) (image : ByteCodec.Bytes), Reachable s →
      (saveState s now).1 = .ok image → (loadState t (some image)).1 = .ok () →
      IndicesKept s (loadState t (some image)).2 := by
  intro h
  obtain ⟨image, hsave, -⟩ := exists_saved (captureDurableState (Deployment.twicePlaced 2000) 0)
    (Deployment.twicePlaced 2000).bounds (by decide +kernel) (by decide +kernel) (by decide +kernel)
  have hload := loadState_of_restores (restores_of_save (t := Impl.new {})
    (Deployment.reachable_twicePlaced 2000) (by decide +kernel) hsave (by decide +kernel)
    (by decide +kernel))
  have hkept := h (Deployment.twicePlaced 2000) (Impl.new {}) 0 image
    (Deployment.reachable_twicePlaced 2000) hsave (congrArg Prod.fst hload)
  have hlatest := hkept.latest Deployment.workload.id
  rw [hload] at hlatest
  have hbefore : (Deployment.twicePlaced 2000).latestPlacement[Deployment.workload.id]? =
      some (Deployment.placement "first").id := by decide +kernel
  have hafter : (restoredState (Impl.new {}) (captureDurableState (Deployment.twicePlaced 2000)
      0).written.readBack).latestPlacement[Deployment.workload.id]? =
        some (Deployment.placement "second").id := by decide +kernel
  have hsame := (hafter.symm.trans hlatest).trans hbefore
  revert hsame
  decide

end FederationObservatory
