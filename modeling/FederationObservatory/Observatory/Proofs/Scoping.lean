import FederationObservatory.Observatory.Proofs.Clusters

/-!
# Federation scoping

A capability, capacity, placement or migration publication names the federation it is made under,
and `check_federation` compares the generation it names with the current one. Placements and
migrations must name that federation themselves. The cluster a capability or capacity publication is
about is not compared with it, nor is a placement or migration that is replaced or superseded.
-/

namespace FederationObservatory

variable {s : Impl} {clock : Clock} {ctx : PublicationContext}

/-! ## Scope -/

/-- The federation a record belongs to. -/
def RecordKind.owner : (k : RecordKind) → k.Record → Option FederationId
  | .federation, r => some r.id
  | .site, r => some r.federation
  | .cluster, r => some r.federation
  | .domain, r => some r.federation
  | .placement, r => some r.federation
  | .migration, r => some r.federation
  | .portability, r => some r.federation
  | _, _ => none

/-- The record belongs to the federation of the context, whose generation, if the context names one,
    is the current one. -/
structure Impl.InScope (s : Impl) (ctx : PublicationContext) (k : RecordKind) (record : k.Record) :
    Prop where
  owner : k.owner record = some ctx.federation
  generation : ctx.federationGeneration.isSet = true → ∀ id f, k.owner record = some id →
    s.federations[id]? = some f → f.generation = ctx.federationGeneration

/-- The publications that are made under a federation. -/
def Publication.isScoped : Publication → Bool
  | .publishCapability .. | .publishCapacity .. | .publishPlacement _ | .publishMigration _ => true
  | _ => false

/-- Every record the publication touches is in scope, before and after it: the one it writes, and
    whatever else differs. -/
structure Publication.Confined (p : Publication) (s t : Impl) (ctx : PublicationContext) :
    Prop where
  target : ∀ record, (s.table p.kind)[p.key]? = some record ∨
    (t.table p.kind)[p.key]? = some record → s.InScope ctx p.kind record
  changed : ∀ (k : RecordKind) (at' : k.Key) (record : k.Record),
    (t.table k)[at']? ≠ (s.table k)[at']? →
    (s.table k)[at']? = some record ∨ (t.table k)[at']? = some record → s.InScope ctx k record

/-- What the publication finds stored belongs to the federation: the cluster it is about, the
    placement or migration it replaces, the current migration it supersedes. -/
def Publication.FindsOwn (s : Impl) (federation : FederationId) : Publication → Prop
  | .publishCapability cluster _ _ _ | .publishCapacity cluster _ _ _ =>
    ∀ r, s.clusters[cluster]? = some r → r.federation = federation
  | .publishPlacement record =>
    ∀ old, s.placements[record.id]? = some old → old.federation = federation
  | .publishMigration record =>
    (∀ old, s.migrations[record.id]? = some old → old.federation = federation) ∧
      ∀ old, record.supersedes.empty = false → s.migrations[record.supersedes]? = some old →
        old.currentness = .current → old.federation = federation
  | _ => True

/-! ## One publication -/

/-- The generation a context names is the current one of its federation. -/
theorem inScope_of_checkFederation (h : checkFederation s ctx = .ok ()) {k : RecordKind}
    {record : k.Record} (howner : k.owner record = some ctx.federation) :
    s.InScope ctx k record := by
  refine ⟨howner, ?_⟩
  intro hset id f hid hf
  obtain rfl := Option.some.inj (howner.symm.trans hid)
  unfold checkFederation at h
  rw [hf] at h
  simp only at h
  split at h
  · cases h
  · rename_i hsame
    by_contra hne
    exact hsame ⟨hset, Ne.symm hne⟩

section Accepted

variable {p : Publication} {check : AuthorityCheck}

theorem lookup_next (hadmitted : Admitted s ctx check)
    (haccepts : p.Accepts s ctx check.duplicateSequence) (k : RecordKind) (at' : k.Key) :
    (((Operation.submit clock ctx (.publish p)).next s).table k)[at']? =
      ((p.written s clock ctx).table k)[at']? := by
  rw [collections_of_accepts hadmitted haccepts]

/-- A lookup that a publication changed is in its collection. -/
theorem kind_of_ne {k : RecordKind} {at' : k.Key}
    (hne : ((p.written s clock ctx).table k)[at']? ≠ (s.table k)[at']?) : k = p.kind := by
  by_contra hk
  exact hne (congrArg (·[at']?) (Publication.table_written s clock ctx p hk))

/-- A publication that writes one record, which it has checked to be of its federation or which
    keeps the federation it had, is confined exactly when what it finds there is in scope. -/
theorem confined_iff_of_one (hadmitted : Admitted s ctx check)
    (haccepts : p.Accepts s ctx check.duplicateSequence) (hcheck : checkFederation s ctx = .ok ())
    {new : p.kind.Record} (hnew : ((p.written s clock ctx).table p.kind)[p.key]? = some new)
    (hsame : ∀ at' : p.kind.Key, at' ≠ p.key →
      ((p.written s clock ctx).table p.kind)[at']? = (s.table p.kind)[at']?)
    (howner : p.kind.owner new = some ctx.federation ∨
      ∃ old, (s.table p.kind)[p.key]? = some old ∧ p.kind.owner new = p.kind.owner old) :
    p.Confined s ((Operation.submit clock ctx (.publish p)).next s) ctx ↔
      ∀ old, (s.table p.kind)[p.key]? = some old → p.kind.owner old = some ctx.federation := by
  constructor
  · intro h old hold
    exact (h.target old (.inl hold)).owner
  · intro h
    have hwritten : p.kind.owner new = some ctx.federation := by
      rcases howner with howner | ⟨old, hold, howner⟩
      · exact howner
      · exact howner.trans (h old hold)
    have htarget : ∀ record, (s.table p.kind)[p.key]? = some record ∨
        (((Operation.submit clock ctx (.publish p)).next s).table p.kind)[p.key]? = some record →
        s.InScope ctx p.kind record := by
      rintro record (hrecord | hrecord)
      · exact inScope_of_checkFederation hcheck (h record hrecord)
      · rw [lookup_next hadmitted haccepts] at hrecord
        obtain rfl := Option.some.inj (hnew.symm.trans hrecord)
        exact inScope_of_checkFederation hcheck hwritten
    refine ⟨htarget, ?_⟩
    intro k at' record hne hrecord
    rw [lookup_next hadmitted haccepts] at hne
    obtain rfl := kind_of_ne hne
    by_cases hat : at' = p.key
    · subst hat
      exact htarget record hrecord
    · exact absurd (hsame at' hat) hne

end Accepted

/-- The cluster keeps its federation. -/
theorem confined_publishCapability_iff {check : AuthorityCheck} {cluster : ClusterId}
    {clusterGeneration : ClusterGeneration} {generation : AcceleratorCapabilityGeneration}
    {capabilities : CapabilitySet} (hadmitted : Admitted s ctx check)
    (haccepts : AcceptsCapability s ctx cluster clusterGeneration generation) :
    (Publication.publishCapability cluster clusterGeneration generation capabilities).Confined s
        ((Operation.submit clock ctx (.publish (.publishCapability cluster clusterGeneration
          generation capabilities))).next s) ctx ↔
      ∀ r, s.clusters[cluster]? = some r → r.federation = ctx.federation := by
  have ⟨hcheck, r, hstored, _⟩ := haccepts
  have hlookup := @lookup_publishCapability s clock ctx cluster clusterGeneration generation
    capabilities r hstored
  refine (confined_iff_of_one
    (p := .publishCapability cluster clusterGeneration generation capabilities) hadmitted haccepts
    hcheck ((hlookup cluster).trans (if_pos rfl))
    (fun at' hat => (hlookup at').trans (if_neg (Ne.symm hat))) (.inr ⟨r, hstored, ?_⟩)).trans ?_
  · exact congrArg (fun frame => some frame.2.2.1) (frame_advanceTo r clusterGeneration).1
  · exact forall₂_congr fun old _ => Option.some_inj

theorem confined_publishCapacity_iff {check : AuthorityCheck} {cluster : ClusterId}
    {clusterGeneration : ClusterGeneration} {generation : CapacityGeneration}
    {pools : List CapacityPool} (hadmitted : Admitted s ctx check)
    (haccepts : AcceptsCapacity s ctx cluster clusterGeneration generation pools) :
    (Publication.publishCapacity cluster clusterGeneration generation pools).Confined s
        ((Operation.submit clock ctx (.publish (.publishCapacity cluster clusterGeneration
          generation pools))).next s) ctx ↔
      ∀ r, s.clusters[cluster]? = some r → r.federation = ctx.federation := by
  have ⟨hcheck, r, hstored, _⟩ := haccepts
  have hlookup := @lookup_publishCapacity s clock ctx cluster clusterGeneration generation pools r
    hstored
  refine (confined_iff_of_one (p := .publishCapacity cluster clusterGeneration generation pools)
    hadmitted haccepts hcheck ((hlookup cluster).trans (if_pos rfl))
    (fun at' hat => (hlookup at').trans (if_neg (Ne.symm hat))) (.inr ⟨r, hstored, ?_⟩)).trans ?_
  · exact congrArg (fun frame => some frame.2.2.1) (frame_advanceTo r clusterGeneration).1
  · exact forall₂_congr fun old _ => Option.some_inj

/-- The placement names the federation of the context. -/
theorem confined_publishPlacement_iff {check : AuthorityCheck} {record : PlacementRecord}
    (hadmitted : Admitted s ctx check)
    (haccepts : AcceptsPlacement s ctx record check.duplicateSequence) :
    (Publication.publishPlacement record).Confined s
        ((Operation.submit clock ctx (.publish (.publishPlacement record))).next s) ctx ↔
      ∀ old, s.placements[record.id]? = some old → old.federation = ctx.federation := by
  have ⟨hcheck, _, hplacement, _⟩ := haccepts
  have hfederation : record.federation = ctx.federation := by
    unfold checkPlacement at hplacement
    by_contra hne
    rw [if_pos hne] at hplacement
    cases hplacement
  have hlookup := @placements_recordPlacement s clock ctx record
  refine (confined_iff_of_one (p := .publishPlacement record) hadmitted haccepts hcheck
    ((hlookup record.id).trans (if_pos rfl))
    (fun at' hat => (hlookup at').trans (if_neg (Ne.symm hat))) (.inl ?_)).trans ?_
  · exact congrArg some hfederation
  · exact forall₂_congr fun old _ => Option.some_inj

theorem federation_superseded (r : MigrationRecord) : r.superseded.federation = r.federation := by
  unfold MigrationRecord.superseded
  split <;> rfl

/-- The lookups that recording a migration changes: its own, and that of a current migration it
    supersedes. -/
theorem recordMigration_cases (record : MigrationRecord) (id : MigrationId) :
    ((s.recordMigration clock ctx record).migrations[id]? = s.migrations[id]? ∧
        ∀ old, record.supersedes = id → record.supersedes.empty = false →
          s.migrations[id]? = some old → old.currentness ≠ .current) ∨
      (record.id = id ∧ ∃ r, (s.recordMigration clock ctx record).migrations[id]? = some r ∧
        r.federation = record.federation) ∨
      ∃ old, record.supersedes = id ∧ record.supersedes.empty = false ∧ record.id ≠ id ∧
        s.migrations[id]? = some old ∧ old.currentness = .current ∧
        (s.recordMigration clock ctx record).migrations[id]? = some old.superseded := by
  have hlookup := lookup_recordMigration s clock ctx record id
  simp only at hlookup
  by_cases hid : record.id = id
  · refine .inr (.inl ⟨hid, ?_⟩)
    rw [if_pos hid] at hlookup
    split at hlookup
    · exact ⟨_, hlookup, federation_superseded _⟩
    · exact ⟨_, hlookup, rfl⟩
  · rw [if_neg hid] at hlookup
    by_cases hsupersedes : !record.supersedes.empty ∧ record.supersedes = id
    · rw [if_pos hsupersedes] at hlookup
      cases hold : s.migrations[id]? with
      | none =>
        rw [hold, Option.map_none] at hlookup
        exact .inl ⟨hlookup, fun old _ _ h => by cases h⟩
      | some old =>
        rw [hold, Option.map_some] at hlookup
        by_cases hcurrent : old.currentness = .current
        · exact .inr (.inr ⟨old, hsupersedes.2, by simpa using hsupersedes.1, hid, rfl, hcurrent,
            hlookup⟩)
        · rw [MigrationRecord.superseded, if_neg hcurrent] at hlookup
          refine .inl ⟨hlookup, fun old' _ _ hold' => ?_⟩
          rwa [← Option.some.inj hold']
    · rw [if_neg hsupersedes] at hlookup
      exact .inl ⟨hlookup, fun _ hat hnonempty => absurd ⟨by simp [hnonempty], hat⟩ hsupersedes⟩

theorem superseded_ne {old : MigrationRecord} (h : old.currentness = .current) :
    old.superseded ≠ old := by
  intro heq
  have hstale : old.superseded.currentness = old.currentness := by rw [heq]
  rw [MigrationRecord.superseded, if_pos h, h] at hstale
  cases hstale

/-- The migration names the federation of the context; the one it supersedes need not. -/
theorem confined_publishMigration_iff {check : AuthorityCheck} {record : MigrationRecord}
    (hadmitted : Admitted s ctx check)
    (haccepts : AcceptsMigration s ctx record check.duplicateSequence) :
    (Publication.publishMigration record).Confined s
        ((Operation.submit clock ctx (.publish (.publishMigration record))).next s) ctx ↔
      (Publication.publishMigration record).FindsOwn s ctx.federation := by
  have ⟨hcheck, _, hmigration, _⟩ := haccepts
  have hfederation : record.federation = ctx.federation := by
    simp only [checkMigration, bind_eq_ok, failIf_eq_ok, exists_const] at hmigration
    simpa using hmigration.1
  have hnext : ∀ id : MigrationId,
      ((Operation.submit clock ctx (.publish (.publishMigration record))).next s).migrations[id]? =
        (s.recordMigration clock ctx record).migrations[id]? :=
    lookup_next (p := .publishMigration record) hadmitted haccepts .migration
  have hcases := @recordMigration_cases s clock ctx record
  constructor
  · intro h
    have hown : ∀ old, s.migrations[record.id]? = some old → old.federation = ctx.federation :=
      fun old hold => Option.some.inj (h.target old (.inl hold)).owner
    refine ⟨hown, ?_⟩
    intro old hsupersedes hold hcurrent
    rcases hcases record.supersedes with ⟨-, hstale⟩ | ⟨hid, -⟩ | ⟨old', -, -, -, hold', -, hafter⟩
    · exact absurd hcurrent (hstale old rfl hsupersedes hold)
    · exact hown old (hid ▸ hold)
    · obtain rfl := Option.some.inj (hold.symm.trans hold')
      refine Option.some.inj (h.changed .migration record.supersedes old ?_ (.inl hold)).owner
      intro hunchanged
      have hafter' := (hnext record.supersedes).trans hafter
      exact superseded_ne hcurrent (Option.some.inj (hafter'.symm.trans (hunchanged.trans hold)))
  · rintro ⟨hown, hsuperseded⟩
    have hscope : ∀ r : MigrationRecord, r.federation = ctx.federation →
        s.InScope ctx .migration r :=
      fun r hr => inScope_of_checkFederation hcheck (k := .migration) (congrArg some hr)
    -- before and after, whatever is touched belongs to the federation
    have htouched : ∀ (id : MigrationId) (r : MigrationRecord),
        record.id = id ∨ (s.recordMigration clock ctx record).migrations[id]? ≠ s.migrations[id]? →
        s.migrations[id]? = some r ∨
          (s.recordMigration clock ctx record).migrations[id]? = some r →
        r.federation = ctx.federation := by
      intro id r htouched hr
      rcases hcases id with ⟨hsame, -⟩ | ⟨rfl, r', hr', hsame⟩ | ⟨old, rfl, hnonempty, -, hold, hcurrent,
        hafter⟩
      · have hid : record.id = id := htouched.resolve_right fun hne => hne hsame
        rw [hsame, or_self, ← hid] at hr
        exact hown r hr
      · rcases hr with hr | hr
        · exact hown r hr
        · obtain rfl := Option.some.inj (hr'.symm.trans hr)
          exact hsame.trans hfederation
      · have hfound := hsuperseded old hnonempty hold hcurrent
        rcases hr with hr | hr
        · obtain rfl := Option.some.inj (hold.symm.trans hr)
          exact hfound
        · obtain rfl := Option.some.inj (hafter.symm.trans hr)
          exact (federation_superseded old).trans hfound
    refine ⟨?_, ?_⟩
    · intro r hr
      exact hscope r (htouched record.id r (.inl rfl) (hr.imp_right (hnext record.id).symm.trans))
    · intro k at' r hne hr
      rw [lookup_next (p := .publishMigration record) hadmitted haccepts] at hne hr
      obtain rfl : k = .migration := kind_of_ne (p := .publishMigration record) hne
      exact hscope r (htouched at' r (.inr hne) hr)

/-- An applied capability, capacity, placement or migration publication stays within the federation
    it is made under exactly when what it finds stored belongs to that federation. -/
theorem publication_confined_iff {p : Publication} (hscoped : p.isScoped = true)
    (happlied : (p.run s clock ctx).Applied) :
    p.Confined s ((Operation.submit clock ctx (.publish p)).next s) ctx ↔
      p.FindsOwn s ctx.federation := by
  obtain ⟨check, _, hadmitted, haccepts, -⟩ := Publication.accepted_of_applied happlied
  cases p with
  | publishCapability cluster clusterGeneration generation capabilities =>
    exact confined_publishCapability_iff hadmitted haccepts
  | publishCapacity cluster clusterGeneration generation pools =>
    exact confined_publishCapacity_iff hadmitted haccepts
  | publishPlacement record => exact confined_publishPlacement_iff hadmitted haccepts
  | publishMigration record => exact confined_publishMigration_iff hadmitted haccepts
  | _ => cases hscoped

/-- The deployment's capacity is published under its own federation. -/
theorem publication_confined_deployment :
    (Publication.publishCapacity Deployment.cluster.id {} ⟨1⟩ []).Confined Deployment.state
      ((Deployment.publish 5 (.publishCapacity Deployment.cluster.id {} ⟨1⟩ [])).next
        Deployment.state) (Deployment.context 5) := by
  refine (@publication_confined_iff Deployment.state {} (Deployment.context 5) _ rfl
    (by decide +kernel)).mpr ?_
  intro r hr
  have hfederation : ∀ r ∈ Deployment.state.clusters[Deployment.cluster.id]?,
      r.federation = (Deployment.context 5).federation := by
    decide +kernel
  exact hfederation r hr

namespace Deployment

/-- A second federation, which owns nothing. -/
def neighbour : FederationRecord := { federation with id := ⟨.ofString "neighbour"⟩ }

/-- The deployment with the second federation. -/
def shared : Impl := state.run [publish 5 (.registerFederation neighbour)]

theorem reachable_shared : Reachable shared := reachable_state.run _

/-- A context under the second federation. -/
def neighbourContext : PublicationContext := { context 6 with federation := neighbour.id }

end Deployment

/-- A capacity publication under the second federation changes the cluster of the first. -/
theorem publication_not_confined :
    ¬∀ (s : Impl) (clock : Clock) (ctx : PublicationContext) (p : Publication), Reachable s →
      p.isScoped = true → (p.run s clock ctx).Applied →
      p.Confined s ((Operation.submit clock ctx (.publish p)).next s) ctx := by
  intro h
  have hconfined := h Deployment.shared {} Deployment.neighbourContext
    (.publishCapacity Deployment.cluster.id {} ⟨1⟩ []) Deployment.reachable_shared rfl
    (by decide +kernel)
  have howner : ∃ r, Deployment.shared.clusters[Deployment.cluster.id]? = some r ∧
      r.federation ≠ Deployment.neighbour.id := by
    refine ⟨(Deployment.shared.clusters[Deployment.cluster.id]?).getD {}, ?_, ?_⟩
    · decide +kernel
    · decide +kernel
  obtain ⟨r, hr, hother⟩ := howner
  exact hother (Option.some.inj (hconfined.target r (.inl hr)).owner)

end FederationObservatory
