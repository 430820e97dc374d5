import FederationObservatory.Observatory.Proofs.Acceptance

/-!
# Publications settle

One lemma for each operation: once the gate let it through, it writes what `written` says exactly
when its condition holds, and otherwise leaves the model alone. `Publication.run_settles` collects
them; the properties of runs need nothing else of the operations' bodies.
-/

namespace FederationObservatory

open StoredRecord (key publishedDigest)

/-- An operation that passed the gate writes `written` exactly when `accepts` holds. -/
def Settles (s : Impl) (clock : Clock) (ctx : PublicationContext) (check : AuthorityCheck)
    (accepts : Prop) (written : Impl) (disposition : IngestDisposition) (o : Outcome) : Prop :=
  (accepts ∧ ∃ detail, o = .ok (finish written clock ctx check.authority disposition detail)) ∨
    (¬accepts ∧ Declined s clock ctx check o)

section Settles

variable {s : Impl} {clock : Clock} {ctx : PublicationContext} {check : AuthorityCheck}
  {accepts : Prop} {written : Impl} {disposition : IngestDisposition}

theorem Settles.refuse {t : Impl} (hs : s.SameModel t) {code : ErrorCode} {detail : Text}
    (h : ¬accepts) : Settles s clock ctx check accepts written disposition
      (.error (refuse t code detail (some ctx.key))) :=
  .inr ⟨h, .refused hs code detail⟩

theorem Settles.keep {d : IngestDisposition} {detail : Text} (h : ¬accepts) (hd : d ≠ .applied) :
    Settles s clock ctx check accepts written disposition
      (.ok (finish s clock ctx check.authority d detail)) :=
  .inr ⟨h, .kept d hd detail⟩

theorem Settles.write {detail : Text} (h : accepts) :
    Settles s clock ctx check accepts written disposition
      (.ok (finish written clock ctx check.authority disposition detail)) :=
  .inl ⟨h, detail, rfl⟩

/-- A test an operation makes on its way. -/
theorem Settles.ite {c : Prop} [Decidable c] {yes no : Outcome}
    (hyes : c → Settles s clock ctx check accepts written disposition yes)
    (hno : ¬c → Settles s clock ctx check accepts written disposition no) :
    Settles s clock ctx check accepts written disposition (if c then yes else no) := by
  by_cases h : c
  · rw [if_pos h]
    exact hyes h
  · rw [if_neg h]
    exact hno h

end Settles

variable {s : Impl} {clock : Clock} {ctx : PublicationContext} {check : AuthorityCheck}

theorem acceptsStructural_of_none {k : RecordKind} {tag : GenerationTag} {record : k.Record}
    {extra : Status} {limit : Nat} {generationOf : k.Record → Generation tag} {duplicate : Bool}
    (h : (s.table k)[key record]? = none) :
    AcceptsStructural k s record extra limit generationOf duplicate ↔
      StoredRecord.validate record = .ok () ∧ extra = .ok () ∧ duplicate = false ∧
        (s.table k).size < limit := by
  simp only [AcceptsStructural, h]

theorem acceptsStructural_of_some {k : RecordKind} {tag : GenerationTag} {record old : k.Record}
    {extra : Status} {limit : Nat} {generationOf : k.Record → Generation tag} {duplicate : Bool}
    (h : (s.table k)[key record]? = some old) :
    AcceptsStructural k s record extra limit generationOf duplicate ↔
      StoredRecord.validate record = .ok () ∧ extra = .ok () ∧ duplicate = false ∧
        publishedDigest old ≠ publishedDigest record ∧ generationOf old ≤ generationOf record := by
  simp only [AcceptsStructural, h]

theorem registerStructural_settles (k : RecordKind) {tag : GenerationTag} (record : k.Record)
    (label : String) (extra : k.Record → Status) (limit : Nat)
    (generationOf : k.Record → Generation tag) (hcheck : checkAuthority s ctx = .ok check) :
    Settles s clock ctx check
      (AcceptsStructural k s record (extra record) limit generationOf check.duplicateSequence)
      (s.register clock ctx k record) .applied
      (registerStructural k s clock ctx record label extra limit generationOf) := by
  unfold registerStructural
  rw [hcheck]
  simp only [bind, Except.bind]
  cases hvalid : StoredRecord.validate record with
  | error e => exact .refuse (.refl s) fun h => by cases hvalid.symm.trans h.1
  | ok u =>
    cases hextra : extra record with
    | error e => exact .refuse (.refl s) fun h => by cases h.2.1
    | ok u =>
      cases hstored : (s.table k)[key record]? with
      | none =>
        rw [acceptsStructural_of_none hstored]
        simp only [Option.any_none, Bool.false_eq_true, if_false]
        split
        · rename_i hdup
          exact .refuse (.refl s) (by simp [hdup])
        · rename_i hdup
          split
          · rename_i hlimit
            exact .refuse s.sameModel_countBoundsRejection (by simp only [not_and]; omega)
          · rename_i hlimit
            exact .write ⟨hvalid, trivial, by simpa using hdup, by simpa using hlimit⟩
      | some old =>
        rw [acceptsStructural_of_some hstored]
        simp only [Option.any_some, decide_eq_true_eq]
        split
        · rename_i hdigest
          exact .keep (by simp [hdigest]) (by decide)
        · rename_i hdigest
          split
          · rename_i hdup
            exact .refuse (.refl s) (by simp [hdup])
          · rename_i hdup
            split
            · rename_i hnewer
              refine .keep ?_ (by decide)
              rintro ⟨-, -, -, -, hle⟩
              rw [Generation.newerThan_eq_true] at hnewer
              exact UInt64.not_le.mpr hnewer hle
            · rename_i hnewer
              refine .write ⟨hvalid, trivial, by simpa using hdup, hdigest, ?_⟩
              exact Generation.newerThan_eq_false.mp (by simpa using hnewer)

theorem retireCluster_settles (cluster : ClusterId) (generation : ClusterGeneration)
    (reason : Text) (hcheck : checkAuthority s ctx = .ok check) :
    Settles s clock ctx check (AcceptsRetirement s cluster generation)
      (Publication.written s clock ctx (.retireCluster cluster generation reason)) .applied
      (retireCluster s clock ctx cluster generation reason) := by
  unfold retireCluster AcceptsRetirement
  rw [hcheck]
  simp only [bind, Except.bind, Publication.written]
  cases hcluster : s.clusters[cluster]? with
  | none => exact .refuse (.refl s) (by simp)
  | some record =>
    simp only [Option.some.injEq, exists_eq_left']
    split
    · rename_i hold
      refine .refuse (.refl s) ?_
      rintro ⟨hle, -⟩
      rw [Bool.and_eq_true, Generation.olderThan_eq_true] at hold
      exact UInt64.not_le.mpr hold.2 (hle hold.1)
    · rename_i hold
      split
      · rename_i hretired
        exact .keep (by simp [hretired]) (by decide)
      · rename_i hretired
        refine .write ⟨?_, hretired⟩
        intro hset
        apply Generation.olderThan_eq_false.mp
        simpa [hset] using hold

theorem registerCluster_settles (record : ClusterRecord)
    (hcheck : checkAuthority s ctx = .ok check) :
    Settles s clock ctx check
      (AcceptsStructural .cluster s record (checkCluster s record) s.bounds.maxClusters
        (·.generation) check.duplicateSequence)
      (s.registerCluster clock ctx record) .applied (registerCluster s clock ctx record) := by
  have hstructural := @registerStructural_settles s clock ctx check .cluster _ record "cluster"
    (checkCluster s) s.bounds.maxClusters (fun r : ClusterRecord => r.generation) hcheck
  unfold registerCluster
  rcases hstructural with ⟨haccepts, detail, hrun⟩ | ⟨hnot, hdeclined⟩
  · -- the record that was just stored is the one the second part finds
    have hfind : (finish (s.register clock ctx .cluster record) clock ctx check.authority .applied
        detail).2.clusters[record.id]? = some (accepted (k := .cluster) clock ctx record) :=
      Std.TreeMap.getElem?_insert_self
    refine .inl ⟨haccepts, detail, ?_⟩
    rw [hrun]
    simp only [bind, Except.bind, finish_disposition, true_and, hfind, Impl.registerCluster,
      Impl.advancesCluster, Bool.and_eq_true]
    split
    · rfl
    · rfl
  · refine .inr ⟨hnot, ?_⟩
    generalize registerStructural .cluster s clock ctx record "cluster" (checkCluster s)
      s.bounds.maxClusters (fun r : ClusterRecord => r.generation) = o at hdeclined
    cases hdeclined with
    | refused hs code text => exact .refused hs code text
    | kept disposition hd text =>
      simp only [bind, Except.bind, finish_disposition, hd, false_and, if_false]
      exact .kept disposition hd text

theorem not_older {tag : GenerationTag} {g stored : Generation tag}
    (h : ¬(g.isSet && g.olderThan stored) = true) (hset : g.isSet = true) : stored ≤ g := by
  apply Generation.olderThan_eq_false.mp
  simpa [hset] using h

theorem not_accepts_of_older {tag : GenerationTag} {g stored : Generation tag}
    (h : (g.isSet && g.olderThan stored) = true) : ¬(g.isSet = true → stored ≤ g) := by
  intro hle
  rw [Bool.and_eq_true, Generation.olderThan_eq_true] at h
  exact UInt64.not_le.mpr h.2 (hle h.1)

theorem publishCapability_settles (cluster : ClusterId) (clusterGeneration : ClusterGeneration)
    (capabilityGeneration : AcceleratorCapabilityGeneration) (capabilities : CapabilitySet)
    (hcheck : checkAuthority s ctx = .ok check) :
    Settles s clock ctx check
      (AcceptsCapability s ctx cluster clusterGeneration capabilityGeneration)
      (Publication.written s clock ctx
        (.publishCapability cluster clusterGeneration capabilityGeneration capabilities))
      .applied
      (publishCapability s clock ctx cluster clusterGeneration capabilityGeneration
        capabilities) := by
  unfold publishCapability AcceptsCapability
  rw [hcheck]
  simp only [bind, Except.bind, Publication.written]
  cases hfederation : checkFederation s ctx with
  | error e => exact .refuse (.refl s) (by simp)
  | ok u =>
    cases hcluster : s.clusters[cluster]? with
    | none => exact .refuse (.refl s) (by simp)
    | some record =>
      simp only [true_and, Option.some.injEq, exists_eq_left']
      apply Settles.ite
      · intro hretired
        exact .refuse (.refl s) (by simp [hretired])
      · intro hretired
        apply Settles.ite
        · intro hset
          exact .refuse (.refl s) (by simp at hset; simp [hset])
        · intro hset
          apply Settles.ite
          · intro hold
            exact .refuse (.refl s) fun h => not_accepts_of_older hold h.2.2.1
          · intro hold
            apply Settles.ite
            · intro hcapability
              refine .refuse (.refl s) fun h => ?_
              rw [Generation.olderThan_eq_true] at hcapability
              exact UInt64.not_le.mpr hcapability h.2.2.2.1
            · intro hcapability
              apply Settles.ite
              · intro hestablished
                apply Settles.ite
                · exact fun _ => .keep (fun h => h.2.2.2.2 hestablished) (by decide)
                · exact fun _ => .refuse (.refl s) fun h => h.2.2.2.2 hestablished
              · intro hestablished
                -- every key of a capability set is valid
                have hkeys : (capabilities.entries.any fun entry => !entry.key.valid) = false := by
                  rw [List.any_eq_false]
                  intro entry hentry
                  simp [capabilities.valid entry hentry]
                simp only [hkeys, Bool.false_eq_true, if_false]
                refine .write ⟨hretired, by simpa using hset, not_older hold, ?_, hestablished⟩
                exact Generation.olderThan_eq_false.mp (by simpa using hcapability)

theorem publishCapacity_settles (cluster : ClusterId) (clusterGeneration : ClusterGeneration)
    (capacityGeneration : CapacityGeneration) (pools : List CapacityPool)
    (hcheck : checkAuthority s ctx = .ok check) :
    Settles s clock ctx check
      (AcceptsCapacity s ctx cluster clusterGeneration capacityGeneration pools)
      (Publication.written s clock ctx
        (.publishCapacity cluster clusterGeneration capacityGeneration pools))
      .applied
      (publishCapacity s clock ctx cluster clusterGeneration capacityGeneration pools) := by
  unfold publishCapacity AcceptsCapacity
  rw [hcheck]
  simp only [bind, Except.bind, Publication.written]
  cases hfederation : checkFederation s ctx with
  | error e => exact .refuse (.refl s) (by simp)
  | ok u =>
    cases hcluster : s.clusters[cluster]? with
    | none => exact .refuse (.refl s) (by simp)
    | some record =>
      simp only [true_and, Option.some.injEq, exists_eq_left']
      apply Settles.ite
      · intro hretired
        exact .refuse (.refl s) (by simp [hretired])
      · intro hretired
        apply Settles.ite
        · intro hset
          exact .refuse (.refl s) (by simp at hset; simp [hset])
        · intro hset
          apply Settles.ite
          · intro hcount
            exact .refuse s.sameModel_countBoundsRejection fun h => by omega
          · intro hcount
            apply Settles.ite
            · intro hold
              exact .refuse (.refl s) fun h => not_accepts_of_older hold h.2.2.2.1
            · intro hold
              apply Settles.ite
              · intro hcapacity
                refine .refuse (.refl s) fun h => ?_
                rw [Generation.olderThan_eq_true] at hcapacity
                exact UInt64.not_le.mpr hcapacity h.2.2.2.2.1
              · intro hcapacity
                cases hpools : pools.forM (checkPool s) with
                | error e => exact .refuse (.refl s) (by simp)
                | ok u =>
                  simp only [true_and]
                  apply Settles.ite
                  · intro hrepeat
                    exact .refuse (.refl s) (by simp [hrepeat])
                  · intro hrepeat
                    apply Settles.ite
                    · intro htotal
                      exact .refuse (.refl s) (by simp [htotal])
                    · intro htotal
                      apply Settles.ite
                      · intro hestablished
                        have hnot := not_not_intro hestablished
                        apply Settles.ite
                        · exact fun _ => .keep (fun h => hnot h.2.2.2.2.2.2.2) (by decide)
                        · exact fun _ => .refuse (.refl s) fun h => hnot h.2.2.2.2.2.2.2
                      · intro hestablished
                        refine .write ⟨hretired, by simpa using hset, by omega, not_older hold,
                          ?_, by simpa using hrepeat, htotal, hestablished⟩
                        exact Generation.olderThan_eq_false.mp (by simpa using hcapacity)

theorem exists_of_any {ρ : Type} {existing : Option ρ} {p : ρ → Bool}
    (h : existing.any p = true) : ∃ old, existing = some old ∧ p old = true := by
  cases existing with
  | none => simp at h
  | some old => exact ⟨old, rfl, h⟩

/-- The chain `publish_placement` and `publish_migration` share once their references check:
    repetition, reused sequence, newer, same generation, full. -/
theorem history_settles {κ ρ : Type} [StoredRecord κ ρ] {tag : GenerationTag}
    (generationOf : ρ → Generation tag) (existing : Option ρ) (record : ρ) {size limit : Nat}
    {written : Impl} {disposition : IngestDisposition} {o : Outcome}
    (repeated reused newer same full : Text)
    (ho : ∃ detail, o = .ok (finish written clock ctx check.authority disposition detail)) :
    Settles s clock ctx check
      (check.duplicateSequence = false ∧
        (∀ old, existing = some old →
          publishedDigest old ≠ publishedDigest record ∧ generationOf old < generationOf record) ∧
        size < limit)
      written disposition
      (if existing.any fun old => publishedDigest old = publishedDigest record then
        .ok (finish s clock ctx check.authority .duplicate repeated)
      else if check.duplicateSequence then
        .error (refuse s .conflict reused (some ctx.key))
      else if existing.any fun old => (generationOf old).newerThan (generationOf record) then
        .ok (finish s clock ctx check.authority .superseded newer)
      else if existing.any fun old => generationOf old = generationOf record then
        .error (refuse s .conflict same (some ctx.key))
      else if limit ≤ size then
        .error (refuse s.countBoundsRejection .boundExceeded full (some ctx.key))
      else o) := by
  split
  · rename_i hdigest
    obtain ⟨old, hold, heq⟩ := exists_of_any hdigest
    exact .keep (fun h => (h.2.1 old hold).1 (by simpa using heq)) (by decide)
  rename_i hdigest
  split
  · rename_i hdup
    exact .refuse (.refl s) (by simp [hdup])
  rename_i hdup
  split
  · rename_i hnewer
    obtain ⟨old, hold, hlt⟩ := exists_of_any hnewer
    refine .keep (fun h => ?_) (by decide)
    rw [Generation.newerThan_eq_true] at hlt
    exact UInt64.lt_asymm hlt (h.2.1 old hold).2
  rename_i hnewer
  split
  · rename_i hequal
    obtain ⟨old, hold, heq⟩ := exists_of_any hequal
    refine .refuse (.refl s) fun h => ?_
    have hlt := (h.2.1 old hold).2
    rw [of_decide_eq_true heq] at hlt
    exact UInt64.lt_irrefl _ hlt
  rename_i hequal
  split
  · exact .refuse s.sameModel_countBoundsRejection fun h => by omega
  refine .inl ⟨⟨by simpa using hdup, ?_, by omega⟩, ho⟩
  rintro old rfl
  simp only [Option.any_some, decide_eq_true_eq] at hdigest hequal
  simp only [Option.any_some, Bool.not_eq_true, Generation.newerThan_eq_false] at hnewer
  exact ⟨hdigest, UInt64.lt_of_le_of_ne hnewer fun heq => hequal (Generation.ext heq)⟩

theorem publishPlacement_settles (record : PlacementRecord)
    (hcheck : checkAuthority s ctx = .ok check) :
    Settles s clock ctx check (AcceptsPlacement s ctx record check.duplicateSequence)
      (s.recordPlacement clock ctx record)
      (Publication.disposition s (.publishPlacement record))
      (publishPlacement s clock ctx record) := by
  unfold publishPlacement AcceptsPlacement
  rw [hcheck]
  simp only [bind, Except.bind, Publication.disposition]
  cases hfederation : checkFederation s ctx with
  | error e => exact .refuse (.refl s) (by simp)
  | ok u =>
    cases hvalid : record.validate with
    | error e => exact .refuse (.refl s) (by simp)
    | ok u =>
      cases hreferences : checkPlacement s ctx record with
      | error e => exact .refuse (.refl s) (by simp)
      | ok u =>
        simp only [true_and]
        refine history_settles (fun r : PlacementRecord => r.generation) _ record _ _ _ _ _ ?_
        split
        · exact ⟨_, rfl⟩
        · exact ⟨_, rfl⟩

theorem publishMigration_settles (record : MigrationRecord)
    (hcheck : checkAuthority s ctx = .ok check) :
    Settles s clock ctx check (AcceptsMigration s ctx record check.duplicateSequence)
      (s.recordMigration clock ctx record) .applied (publishMigration s clock ctx record) := by
  unfold publishMigration AcceptsMigration
  rw [hcheck]
  simp only [bind, Except.bind]
  cases hfederation : checkFederation s ctx with
  | error e => exact .refuse (.refl s) (by simp)
  | ok u =>
    cases hvalid : record.validate with
    | error e => exact .refuse (.refl s) (by simp)
    | ok u =>
      cases hreferences : checkMigration s ctx record with
      | error e => exact .refuse (.refl s) (by simp)
      | ok u =>
        simp only [true_and]
        exact history_settles (fun r : MigrationRecord => r.generation) _ record _ _ _ _ _
          ⟨_, rfl⟩

theorem publishMigrationStage_settles (migration : MigrationId) (generation : MigrationGeneration)
    (stage : MigrationStage) (detail : Text) (hcheck : checkAuthority s ctx = .ok check) :
    Settles s clock ctx check (AcceptsStage s ctx migration generation stage)
      (Publication.written s clock ctx (.publishMigrationStage migration generation stage detail))
      .applied (publishMigrationStage s clock ctx migration generation stage detail) := by
  unfold publishMigrationStage AcceptsStage
  rw [hcheck]
  simp only [bind, Except.bind, Publication.written]
  cases hmigration : s.migrations[migration]? with
  | none => exact .refuse (.refl s) (by simp)
  | some record =>
    simp only [Option.some.injEq, exists_eq_left']
    apply Settles.ite
    · intro hset
      exact .refuse (.refl s) (by simp at hset; simp [hset])
    intro hset
    apply Settles.ite
    · intro hold
      refine .refuse (.refl s) ?_
      rintro ⟨-, rfl, -⟩
      simp [Generation.olderThan] at hold
    intro hold
    apply Settles.ite
    · intro hnewer
      refine .refuse (.refl s) ?_
      rintro ⟨-, rfl, -⟩
      simp [Generation.newerThan] at hnewer
    intro hnewer
    have hgeneration : record.generation = generation := by
      rw [Bool.not_eq_true, Generation.olderThan_eq_false] at hold
      rw [Bool.not_eq_true, Generation.newerThan_eq_false] at hnewer
      exact Generation.ext (UInt64.le_antisymm hold hnewer)
    apply Settles.ite
    · intro hretired
      exact .refuse (.refl s) (by simp [hretired])
    intro hretired
    apply Settles.ite
    · intro hsuperseded
      exact .refuse (.refl s) (by simp [hsuperseded])
    intro hsuperseded
    apply Settles.ite
    · intro hsequence
      exact .refuse s.sameModel_countSequenceRegression (by simp [hsequence])
    intro hsequence
    apply Settles.ite
    · intro hstage
      exact .refuse (.refl s) (by simp at hstage; simp [hstage])
    intro hstage
    apply Settles.ite
    · intro hterminal
      apply Settles.ite
      · exact fun _ => .keep (by simp [hterminal]) (by decide)
      · exact fun _ => .refuse (.refl s) (by simp [hterminal])
    intro hterminal
    apply Settles.ite
    · exact fun hbound => .refuse s.sameModel_countBoundsRejection fun h => by omega
    intro hbound
    exact .write ⟨by simpa using hset, hgeneration, hretired, hsuperseded, by simpa using hsequence,
      by simpa using hstage, by simpa using hterminal, by omega⟩

theorem publishPortability_settles (record : PortabilityAssessment)
    (hcheck : checkAuthority s ctx = .ok check) :
    Settles s clock ctx check (AcceptsPortability s ctx record)
      (Publication.written s clock ctx (.publishPortability record)) .applied
      (publishPortability s clock ctx record) := by
  unfold publishPortability AcceptsPortability
  rw [hcheck]
  simp only [bind, Except.bind, Publication.written]
  cases hvalid : record.validate with
  | error e => exact .refuse (.refl s) (by simp)
  | ok u =>
    cases hworkload : s.workloads.contains record.workload with
    | false => exact .refuse (.refl s) (by simp)
    | true =>
      cases hcluster : s.clusters.contains record.destination with
      | false => exact .refuse (.refl s) (by simp)
      | true =>
        simp only [Bool.not_true, Bool.false_eq_true, if_false, true_and]
        cases hexisting : s.portability[(⟨record.workload, record.destination⟩ : PortabilityKey)]? with
        | none =>
          simp only [Option.any_none, Bool.false_eq_true, if_false, and_true]
          split
          · exact .refuse s.sameModel_countBoundsRejection (by omega)
          · exact .write (by omega)
        | some old =>
          simp only [Option.any_some, decide_eq_true_eq, reduceCtorEq, and_false, if_false]
          split
          · rename_i hdigest
            exact .keep (by simp [hdigest]) (by decide)
          rename_i hdigest
          split
          · rename_i hnewer
            exact .keep (by simp [hnewer]) (by decide)
          rename_i hnewer
          exact .write ⟨hdigest, by simpa using hnewer⟩

/-- Every publication that passed the gate writes when its condition holds, and is declined
    otherwise. -/
theorem Publication.run_settles (p : Publication) (hcheck : checkAuthority s ctx = .ok check) :
    Settles s clock ctx check (p.Accepts s ctx check.duplicateSequence)
      (p.written s clock ctx) (p.disposition s) (p.run s clock ctx) := by
  cases p with
  | registerFederation r => exact registerStructural_settles .federation r _ (fun _ => .ok ()) _ _ hcheck
  | registerSite r => exact registerStructural_settles .site r _ (checkSite s) _ _ hcheck
  | registerCluster r => exact registerCluster_settles r hcheck
  | registerAcceleratorClass r => exact registerStructural_settles .acceleratorClass r _ (fun _ => .ok ()) _ _ hcheck
  | registerRuntime r => exact registerStructural_settles .runtime r _ (fun _ => .ok ()) _ _ hcheck
  | registerBackend r => exact registerStructural_settles .backend r _ (checkBackend s) _ _ hcheck
  | registerDomain r => exact registerStructural_settles .domain r _ (checkDomain s) _ _ hcheck
  | registerPolicy r => exact registerStructural_settles .policy r _ (fun _ => .ok ()) _ _ hcheck
  | registerArtifact r => exact registerStructural_settles .artifact r _ (fun _ => .ok ()) _ _ hcheck
  | registerWorkloadClass r => exact registerStructural_settles .workloadClass r _ (fun _ => .ok ()) _ _ hcheck
  | registerWorkload r => exact registerStructural_settles .workload r _ (checkWorkload s) _ _ hcheck
  | retireCluster cluster generation reason =>
    exact retireCluster_settles cluster generation reason hcheck
  | publishCapability cluster clusterGeneration capabilityGeneration capabilities =>
    exact publishCapability_settles cluster clusterGeneration capabilityGeneration capabilities
      hcheck
  | publishCapacity cluster clusterGeneration capacityGeneration pools =>
    exact publishCapacity_settles cluster clusterGeneration capacityGeneration pools hcheck
  | publishPlacement r => exact publishPlacement_settles r hcheck
  | publishMigration r => exact publishMigration_settles r hcheck
  | publishMigrationStage migration generation stage detail =>
    exact publishMigrationStage_settles migration generation stage detail hcheck
  | publishPortability r => exact publishPortability_settles r hcheck

/-- A publication the gate refuses is refused. -/
theorem run_of_gate_error (p : Publication) {r : Error × Impl}
    (h : checkAuthority s ctx = .error r) : p.run s clock ctx = .error r := by
  cases p <;>
    simp only [Publication.run, registerFederation, registerSite, registerCluster,
      registerAcceleratorClass, registerRuntime, registerBackend, registerDomain, registerPolicy,
      registerArtifact, registerWorkloadClass, registerWorkload, registerStructural,
      retireCluster, publishCapability, publishCapacity, publishPlacement, publishMigration,
      publishMigrationStage, publishPortability, h, bind, Except.bind]

end FederationObservatory
