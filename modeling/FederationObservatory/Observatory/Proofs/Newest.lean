import FederationObservatory.Misc.Arrivals
import FederationObservatory.Observatory.Proofs.Records

/-!
# The newest observation

Observations arrive in any order. A stored portability assessment, and the latest placement of a
workload, is compared with a new one by the time it was observed, but of the new one by the stamp
its record came with, which the publisher may have left at its default: the stamp of the publication
is only written when it is stored.
-/

namespace FederationObservatory

open Arrivals

variable {s : Impl} {clock : Clock} {ctx : PublicationContext}

/-- A record as it is published. -/
structure Arrival (ρ : Type) where
  clock : Clock
  ctx : PublicationContext
  record : ρ
  deriving DecidableEq

namespace Arrival

/-- When it was observed. -/
def observed {ρ : Type} (a : Arrival ρ) : Int := a.ctx.observedAt.toInt

/-- The observation time of the stamp the record comes with. -/
def claimed {κ ρ : Type} [StoredRecord κ ρ] (a : Arrival ρ) : Int :=
  (StoredRecord.stamp a.record).observedAt.toInt

end Arrival

theorem toInt_ne_zero {t : TimestampNanos} : t.toInt ≠ 0 ↔ t ≠ 0 := by
  rw [ne_eq, ne_eq, ← Int64.toInt_inj]
  rfl

/-- A stamp has the time of its context, where there is one. -/
theorem observedAt_stampFor (h : ctx.observedAt.toInt ≠ 0) :
    (stampFor clock ctx).observedAt = ctx.observedAt := by
  simp only [stampFor, PublicationContext.observedOr]
  rw [if_pos (toInt_ne_zero.mp h)]

/-! ## Portability -/

/-- The assessment of a pair that a call publishes. -/
def Operation.assesses (pair : PortabilityKey) : Operation → Option (Arrival PortabilityAssessment)
  | .submit clock ctx (.publish (.publishPortability record)) =>
    if (⟨record.workload, record.destination⟩ : PortabilityKey) = pair then
      some ⟨clock, ctx, record⟩
    else none
  | _ => none

theorem assesses_submit (clock : Clock) (ctx : PublicationContext) (record : PortabilityAssessment) :
    (Operation.submit clock ctx (.publish (.publishPortability record))).assesses
      ⟨record.workload, record.destination⟩ = some ⟨clock, ctx, record⟩ := by
  simp [Operation.assesses]

/-- The call does not restore, and an assessment of the pair that it publishes is not refused. -/
def Operation.Assesses (pair : PortabilityKey) (s : Impl) (operation : Operation) : Prop :=
  operation.restores s = none ∧ ∀ a, operation.assesses pair = some a →
    ∃ r, (publishPortability s a.clock a.ctx a.record).result = .ok r

/-- An assessment as it is stored. -/
def Arrival.assessment (a : Arrival PortabilityAssessment) : PortabilityAssessment :=
  a.record.accept a.clock a.ctx

/-- An assessment that is not refused is recorded, unless the stored one has its digest or is
    newer. -/
theorem acceptsPortability_of_ok {record : PortabilityAssessment} {r : IngestResult}
    (h : (publishPortability s clock ctx record).result = .ok r) :
    AcceptsPortability s ctx record ∨
      ∃ old, s.portability[(⟨record.workload, record.destination⟩ : PortabilityKey)]? = some old ∧
        (old.digest = record.digest ∨ old.newerThan record ctx = true) := by
  rcases checkAuthority_cases s ctx with ⟨e, hgate, -⟩ | ⟨check, hgate, -⟩
  · rw [publishPortability, hgate] at h
    cases h
  rw [publishPortability, hgate] at h
  simp only [bind, Except.bind] at h
  split at h
  · cases h
  rename_i hvalid
  split at h
  · cases h
  rename_i hworkload
  split at h
  · cases h
  rename_i hcluster
  split at h
  · rename_i hdigest
    obtain ⟨old, hold, hsame⟩ := exists_of_any hdigest
    exact .inr ⟨old, hold, .inl (by simpa using hsame)⟩
  rename_i hdigest
  split at h
  · rename_i hnewer
    obtain ⟨old, hold, hsame⟩ := exists_of_any hnewer
    exact .inr ⟨old, hold, .inr hsame⟩
  rename_i hnewer
  split at h
  · cases h
  rename_i hroom
  refine .inl ⟨hvalid, by simpa using hworkload, by simpa using hcluster, ?_⟩
  cases hold : s.portability[(⟨record.workload, record.destination⟩ : PortabilityKey)]? with
  | none =>
    simp only [hold, and_true, not_le] at hroom
    exact hroom
  | some old =>
    simp only [hold, Option.any_some, decide_eq_true_eq] at hdigest hnewer
    exact ⟨hdigest, by simpa using hnewer⟩

/-- Of two different assessments the stored one stays exactly when the time the new one claims is
    not later. -/
theorem newerThan_assessment {k a : Arrival PortabilityAssessment} (hk : k.observed ≠ 0)
    (htie : k.observed ≠ a.claimed) :
    k.assessment.newerThan a.record a.ctx = decide (¬k.observed < a.claimed) := by
  have hstamp : k.assessment.stamp.observedAt = k.ctx.observedAt := observedAt_stampFor hk
  have hne : k.ctx.observedAt ≠ a.record.stamp.observedAt := by
    intro heq
    exact htie (congrArg Int64.toInt heq)
  unfold PortabilityAssessment.newerThan
  rw [hstamp, beq_false_of_ne hne, Bool.false_and, Bool.or_false, decide_eq_decide,
    Int64.lt_iff_toInt_lt]
  change a.claimed < k.observed ↔ _
  omega

/-- The lookup of a pair after an assessment of it that was not refused. -/
theorem lookup_publishPortability {pair : PortabilityKey} {a : Arrival PortabilityAssessment}
    {kept : Option (Arrival PortabilityAssessment)} {r : IngestResult}
    (hpair : (⟨a.record.workload, a.record.destination⟩ : PortabilityKey) = pair)
    (hresult : (publishPortability s a.clock a.ctx a.record).result = .ok r)
    (hstored : s.portability[pair]? = kept.map Arrival.assessment)
    (hkept : ∀ k, kept = some k → k.observed ≠ 0 ∧ k.observed ≠ a.claimed ∧
      k.assessment.digest ≠ a.record.digest) :
    (publishPortability s a.clock a.ctx a.record).state.portability[pair]? =
      (keep Arrival.observed Arrival.claimed kept a).map Arrival.assessment := by
  subst hpair
  let p : Publication := .publishPortability a.record
  change (p.run s a.clock a.ctx).state.portability[_]? = _
  rcases acceptsPortability_of_ok hresult with haccepts | ⟨old, hold, hdeclined⟩
  · have hinstalled : keep Arrival.observed Arrival.claimed kept a = some a := by
      cases kept with
      | none => rfl
      | some k =>
        obtain ⟨hk, htie, -⟩ := hkept k rfl
        have hold := haccepts.2.2.2
        rw [hstored, Option.map_some] at hold
        have hnewer := hold.2
        rw [newerThan_assessment hk htie, decide_eq_false_iff_not, not_not] at hnewer
        rw [keep_some, if_pos hnewer]
    obtain ⟨check, hadmitted⟩ : ∃ check, Admitted s a.ctx check := by
      cases hrun : p.run s a.clock a.ctx with
      | error e =>
        rw [show publishPortability s a.clock a.ctx a.record = .error e from hrun] at hresult
        cases hresult
      | ok q => exact Publication.admitted_of_ok hrun
    have hcollections := @collections_of_accepts s a.clock a.ctx p check hadmitted haccepts
    change (p.run s a.clock a.ctx).state.toCollections = _ at hcollections
    rw [hcollections, hinstalled]
    exact Std.TreeMap.getElem?_insert_self
  · cases kept with
    | none =>
      rw [hstored] at hold
      cases hold
    | some k =>
      obtain ⟨hk, htie, hdigest⟩ := hkept k rfl
      obtain rfl := Option.some.inj (hstored.symm.trans hold)
      have hnewer : k.assessment.newerThan a.record a.ctx = true :=
        hdeclined.resolve_left hdigest
      have hdeclines : ∀ check, Admitted s a.ctx check →
          ¬p.Accepts s a.ctx check.duplicateSequence := by
        intro check _ haccepts
        have hold' := haccepts.2.2.2
        rw [hold] at hold'
        exact Bool.false_ne_true (hold'.2.symm.trans hnewer)
      rw [Publication.collections_of_not_accepts hdeclines, hstored]
      rw [newerThan_assessment hk htie, decide_eq_true_eq] at hnewer
      rw [keep_some, if_neg hnewer]

/-- Every other call that does not restore leaves the assessment of the pair. -/
theorem lookup_portability_next {pair : PortabilityKey} {operation : Operation}
    (hrestores : operation.restores s = none) (hassesses : operation.assesses pair = none) :
    (operation.next s).portability[pair]? = s.portability[pair]? := by
  by_cases hpublishes : ∃ clock ctx r, operation = .submit clock ctx (.publish (.publishPortability r))
  · obtain ⟨clock, ctx, r, rfl⟩ := hpublishes
    have hpair : (⟨r.workload, r.destination⟩ : PortabilityKey) ≠ pair := by
      intro heq
      simp only [Operation.assesses, heq, if_true] at hassesses
      cases hassesses
    change ((Request.publish (.publishPortability r)).run s clock ctx).state.portability[pair]? = _
    rcases (Request.publish (.publishPortability r)).model_run (s := s) clock ctx with
      ⟨hsame, -⟩ | ⟨p, _, hp, -, -, hwritten, -⟩
    · rw [hsame]
    · obtain rfl := Request.publish.inj hp
      rw [hwritten]
      change (s.portability.insert _ _)[pair]? = _
      rw [Std.TreeMap.getElem?_insert, if_neg]
      rwa [Std.LawfulEqOrd.compare_eq_iff_eq]
  · have htable : (operation.next s).table .portability = s.table .portability := by
      refine Operation.table_next hrestores rfl ?_
      intro clock ctx p hsubmit hkind
      cases p with
      | publishPortability r => exact hpublishes ⟨clock, ctx, r, hsubmit⟩
      | _ => cases hkind
    exact congrArg (fun table : RecordKind.portability.Table => table[pair]?) htable

/-- Assessments with different digests: no later one has the digest of an earlier one as it is
    stored. -/
def DifferentAssessments (arrivals : List (Arrival PortabilityAssessment)) : Prop :=
  arrivals.Pairwise fun a b => a.assessment.digest ≠ b.record.digest

/-- The assessment of the pair over a run is what is kept of those that arrived. -/
theorem lookup_portability_run {pair : PortabilityKey} {operations : List Operation}
    {before : List (Arrival PortabilityAssessment)}
    (h : s.Along (Operation.Assesses pair) operations)
    (htimed : Timed Arrival.observed Arrival.claimed 0
      (before ++ operations.filterMap (Operation.assesses pair)))
    (hdifferent : DifferentAssessments
      (before ++ operations.filterMap (Operation.assesses pair)))
    (hstored : s.portability[pair]? =
      (before.foldl (keep Arrival.observed Arrival.claimed) none).map Arrival.assessment) :
    (s.run operations).portability[pair]? =
      ((before ++ operations.filterMap (Operation.assesses pair)).foldl
        (keep Arrival.observed Arrival.claimed) none).map Arrival.assessment := by
  induction operations generalizing s before with
  | nil =>
    rw [List.filterMap_nil, List.append_nil]
    exact hstored
  | cons operation operations ih =>
    obtain ⟨⟨hrestores, hresult⟩, hrest⟩ := h
    cases hassesses : operation.assesses pair with
    | none =>
      rw [List.filterMap_cons_none hassesses] at htimed hdifferent ⊢
      refine ih hrest htimed hdifferent ?_
      rw [lookup_portability_next hrestores hassesses, hstored]
    | some a =>
      rw [List.filterMap_cons_some hassesses] at htimed hdifferent ⊢
      have hsubmit : operation = .submit a.clock a.ctx (.publish (.publishPortability a.record)) ∧
          (⟨a.record.workload, a.record.destination⟩ : PortabilityKey) = pair := by
        unfold Operation.assesses at hassesses
        split at hassesses
        · split at hassesses
          · rename_i hpair
            obtain rfl := Option.some.inj hassesses
            exact ⟨rfl, hpair⟩
          · cases hassesses
        · cases hassesses
      obtain ⟨hsubmit, hpair⟩ := hsubmit
      obtain ⟨r, hr⟩ := hresult a hassesses
      rw [List.append_cons] at htimed hdifferent ⊢
      refine ih hrest htimed hdifferent ?_
      rw [List.foldl_append]
      rw [hsubmit]
      refine lookup_publishPortability hpair hr hstored ?_
      -- what is kept arrived before, and so differs from `a` in time and content
      intro k hk
      have hmem : k ∈ before := (mem_of_foldl_keep hk).resolve_left (by simp)
      rw [List.append_assoc] at htimed hdifferent
      refine ⟨htimed.ne_default k (List.mem_append_left _ hmem), htimed.claimed_ne hmem, ?_⟩
      exact (List.pairwise_append.mp hdifferent).2.2 k hmem a List.mem_cons_self

/-- The stored assessment of the pair is the newest one of those that arrived. -/
def Impl.StoresNewest (s : Impl) (pair : PortabilityKey)
    (arrivals : List (Arrival PortabilityAssessment)) : Prop :=
  ∃ a ∈ arrivals, (∀ b ∈ arrivals, b.observed ≤ a.observed) ∧
    s.portability[pair]? = some a.assessment

/-- The newest arrival comes with a stamp that is later than all that came before were observed, and
    none that came after comes with a stamp later than the newest was observed. With times after the
    epoch: the newest one comes first, or carries its stamp. -/
def NewestClaims {κ ρ : Type} [StoredRecord κ ρ] (arrivals : List (Arrival ρ)) : Prop :=
  ∃ before a after, arrivals = before ++ a :: after ∧
    (∀ b ∈ before, b.observed < a.observed ∧ b.observed < a.claimed) ∧
    ∀ b ∈ after, b.observed < a.observed ∧ b.claimed < a.observed

/-- Two arrivals at one time are one arrival. -/
theorem eq_of_observed_eq {ρ : Type} {claimed : Arrival ρ → Int} {arrivals : List (Arrival ρ)}
    (h : Timed Arrival.observed claimed 0 arrivals) {a b : Arrival ρ} (ha : a ∈ arrivals)
    (hb : b ∈ arrivals) (heq : a.observed = b.observed) : a = b := by
  obtain ⟨before, after, rfl⟩ := List.append_of_mem ha
  rcases List.mem_append.mp hb with hb | hb
  · exact absurd heq.symm (h.ne_of_mem_before hb)
  · rcases List.mem_cons.mp hb with rfl | hb
    · rfl
    · exact absurd heq (h.ne_of_mem_after hb)

/-- In a run that starts without an assessment of the pair, and that publishes assessments of it
    with different contents and observation times, none of which is refused, the newest one is
    stored at the end exactly when its own stamp lets it be seen as the newest. -/
theorem newest_assessment_stored_iff {pair : PortabilityKey} {operations : List Operation}
    {arrivals : List (Arrival PortabilityAssessment)}
    (harrivals : operations.filterMap (Operation.assesses pair) = arrivals)
    (hnone : s.portability[pair]? = none)
    (hassesses : s.Along (Operation.Assesses pair) operations)
    (htimed : Timed Arrival.observed Arrival.claimed 0 arrivals)
    (hdifferent : DifferentAssessments arrivals) :
    (s.run operations).StoresNewest pair arrivals ↔ NewestClaims arrivals := by
  subst harrivals
  have hstored := @lookup_portability_run s pair operations [] hassesses htimed hdifferent hnone
  rw [List.nil_append] at hstored
  generalize operations.filterMap (Operation.assesses pair) = arrivals at *
  constructor
  · intro ⟨a, ha, hnewest, hlookup⟩
    rw [hlookup] at hstored
    obtain ⟨k, hk, hassessment⟩ := Option.map_eq_some_iff.mp hstored.symm
    have hkmem : k ∈ arrivals := (mem_of_foldl_keep hk).resolve_left (by simp)
    have hobserved : k.observed = a.observed := by
      have hstamp := congrArg (fun r => r.stamp.observedAt) hassessment
      change (stampFor k.clock k.ctx).observedAt = (stampFor a.clock a.ctx).observedAt at hstamp
      rw [observedAt_stampFor (htimed.ne_default k hkmem),
        observedAt_stampFor (htimed.ne_default a ha)] at hstamp
      exact congrArg Int64.toInt hstamp
    obtain rfl := eq_of_observed_eq htimed hkmem ha hobserved
    obtain ⟨before, after, hsplit⟩ := (kept_newest_iff htimed).mp ⟨hk, hnewest⟩
    exact ⟨before, k, after, hsplit⟩
  · intro ⟨before, a, after, hsplit⟩
    obtain ⟨hkept, hnewest⟩ := (kept_newest_iff htimed).mpr ⟨before, after, hsplit⟩
    refine ⟨a, ?_, hnewest, ?_⟩
    · exact (mem_of_foldl_keep hkept).resolve_left (by simp)
    · rw [hstored, hkept, Option.map_some]

namespace Deployment

/-- A context with its own observation time. -/
def contextAt (sequence : UInt64) (observedAt : TimestampNanos) : PublicationContext :=
  { context sequence with observedAt }

def publishAt (sequence : UInt64) (observedAt : TimestampNanos) (publication : Publication) :
    Operation :=
  .submit {} (contextAt sequence observedAt) (.publish publication)

/-- Two assessments of the workload, the second one observed at the given time. -/
def assessments (second : TimestampNanos) : List Operation :=
  [publishAt 8 1000 (.publishPortability (assessment .portableDirect)),
   publishAt 9 second (.publishPortability (assessment .notPortableState))]

def assessmentArrivals (second : TimestampNanos) : List (Arrival PortabilityAssessment) :=
  [⟨{}, contextAt 8 1000, assessment .portableDirect⟩,
   ⟨{}, contextAt 9 second, assessment .notPortableState⟩]

def assessmentKey : PortabilityKey := ⟨workload.id, standby.id⟩

end Deployment

/-- Neither assessment of the deployment is refused. -/
theorem assesses_deployment (second : TimestampNanos)
    (hfirst : (publishPortability Deployment.loaded {} (Deployment.contextAt 8 1000)
      (Deployment.assessment .portableDirect)).result.toOption.isSome = true)
    (hsecond : (publishPortability (Deployment.loaded.run ((Deployment.assessments second).take 1))
      {} (Deployment.contextAt 9 second)
      (Deployment.assessment .notPortableState)).result.toOption.isSome = true) :
    Deployment.loaded.Along (Operation.Assesses Deployment.assessmentKey)
      (Deployment.assessments second) := by
  refine ⟨⟨rfl, ?_⟩, ⟨rfl, ?_⟩, trivial⟩
  · intro a ha
    have hassesses := assesses_submit {} (Deployment.contextAt 8 1000)
      (Deployment.assessment .portableDirect)
    obtain rfl := Option.some.inj (hassesses.symm.trans ha)
    exact eq_ok_of_isSome hfirst
  · intro a ha
    have hassesses := assesses_submit {} (Deployment.contextAt 9 second)
      (Deployment.assessment .notPortableState)
    obtain rfl := Option.some.inj (hassesses.symm.trans ha)
    exact eq_ok_of_isSome hsecond

theorem timed_assessmentArrivals (second : TimestampNanos) (h : second.toInt ≠ 0)
    (hne : second.toInt ≠ 1000) :
    Timed Arrival.observed Arrival.claimed 0 (Deployment.assessmentArrivals second) := by
  refine ⟨?_, ?_, ?_⟩
  · simpa [Deployment.assessmentArrivals, Arrival.observed, Deployment.contextAt] using hne.symm
  · simp only [Deployment.assessmentArrivals, List.forall_mem_cons]
    exact ⟨by decide, h, by simp⟩
  · simp only [Deployment.assessmentArrivals, List.forall_mem_cons]
    exact ⟨.inl rfl, .inl rfl, by simp⟩

/-- In the deployment the older assessment comes second, and the newest one stays. -/
theorem newest_assessment_stored_deployment :
    (Deployment.loaded.run (Deployment.assessments 500)).StoresNewest Deployment.assessmentKey
      (Deployment.assessmentArrivals 500) := by
  refine (newest_assessment_stored_iff (s := Deployment.loaded) (by decide +kernel)
    (by decide +kernel) ?_ ?_ ?_).mpr ?_
  · exact assesses_deployment 500 (by decide +kernel) (by decide +kernel)
  · exact timed_assessmentArrivals 500 (by decide) (by decide)
  · unfold DifferentAssessments
    decide +kernel
  · refine ⟨[], _, [_], rfl, by simp, ?_⟩
    simp only [List.forall_mem_singleton]
    decide

/-- The newest assessment comes second, without a stamp of its own, and is turned away. -/
theorem newest_assessment_lost :
    ¬∀ (s : Impl) (pair : PortabilityKey) (operations : List Operation)
      (arrivals : List (Arrival PortabilityAssessment)), Reachable s →
      operations.filterMap (Operation.assesses pair) = arrivals → arrivals ≠ [] →
      s.portability[pair]? = none → s.Along (Operation.Assesses pair) operations →
      Timed Arrival.observed Arrival.claimed 0 arrivals → DifferentAssessments arrivals →
      (s.run operations).StoresNewest pair arrivals := by
  intro h
  obtain ⟨a, ha, hnewest, hstored⟩ := h Deployment.loaded Deployment.assessmentKey
    (Deployment.assessments 2000) (Deployment.assessmentArrivals 2000)
    Deployment.reachable_loaded (by decide +kernel) (by decide) (by decide +kernel)
    (assesses_deployment 2000 (by decide +kernel) (by decide +kernel))
    (timed_assessmentArrivals 2000 (by decide) (by decide))
    (by unfold DifferentAssessments; decide +kernel)
  have hfirst : ((Deployment.loaded.run (Deployment.assessments
      2000)).portability[Deployment.assessmentKey]?).map (·.stamp.observedAt) = some 1000 := by
    decide +kernel
  rw [hstored, Option.map_some, Option.some_inj] at hfirst
  have hsecond := hnewest ⟨{}, Deployment.contextAt 9 2000, Deployment.assessment .notPortableState⟩
    (List.mem_cons_of_mem _ List.mem_cons_self)
  simp only [Deployment.assessmentArrivals, List.mem_cons, List.not_mem_nil, or_false] at ha
  rcases ha with rfl | rfl
  · exact absurd hsecond (by decide)
  · exact absurd hfirst (by decide)

end FederationObservatory
