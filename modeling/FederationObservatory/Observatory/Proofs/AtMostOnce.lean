import FederationObservatory.Observatory.Proofs.Publishers

/-!
# At-most-once application

A boot identity's accepted sequence numbers increase, so a sequence at or below the watermark
should not be applied. The gate refuses what is below; what is equal is left to each operation, and
five of them do not look: retirement, capabilities, capacity, stage events and portability. This
module says exactly when a sequence is applied a second time.
-/

namespace FederationObservatory

/-! ## Reused sequences -/

/-- The operations that write whatever the sequence, with the condition under which they do. The
    others refuse a sequence that is the watermark. -/
def Publication.AcceptsReused (s : Impl) (ctx : PublicationContext) : Publication → Prop
  | .retireCluster cluster generation _ => AcceptsRetirement s cluster generation
  | .publishCapability cluster clusterGeneration capabilityGeneration _ =>
    AcceptsCapability s ctx cluster clusterGeneration capabilityGeneration
  | .publishCapacity cluster clusterGeneration capacityGeneration pools =>
    AcceptsCapacity s ctx cluster clusterGeneration capacityGeneration pools
  | .publishMigrationStage migration generation stage _ =>
    AcceptsStage s ctx migration generation stage
  | .publishPortability record => AcceptsPortability s ctx record
  | _ => False

theorem Publication.accepts_true_iff {s : Impl} {ctx : PublicationContext} {p : Publication} :
    p.Accepts s ctx true ↔ p.AcceptsReused s ctx := by
  cases p with
  | publishPlacement record =>
    refine iff_of_false ?_ id
    rintro ⟨-, -, -, hduplicate, -⟩
    cases hduplicate
  | publishMigration record =>
    refine iff_of_false ?_ id
    rintro ⟨-, -, -, hduplicate, -⟩
    cases hduplicate
  | retireCluster | publishCapability | publishCapacity | publishMigrationStage
  | publishPortability => exact Iff.rfl
  | _ =>
    refine iff_of_false ?_ id
    rintro ⟨-, -, hduplicate, -⟩
    cases hduplicate

theorem Publication.disposition_of_acceptsReused {s : Impl} {ctx : PublicationContext}
    {p : Publication} (h : p.AcceptsReused s ctx) : p.disposition s = .applied := by
  cases p with
  | publishPlacement record => exact absurd h id
  | _ => rfl

/-- A valid context at the current epoch re-uses the accepted sequence of its unfenced boot
    identity, and the operation is one of the five and would write. -/
def ReusesSequence (s : Impl) (ctx : PublicationContext) : Request → Prop
  | .registerPublisher => False
  | .publish p => ∃ authority, s.publishers[ctx.key]? = some authority ∧
      ctx.validate = .ok () ∧ authority.fenced = false ∧
      ctx.coordinatorEpoch = s.coordinatorEpoch ∧ authority.watermark.isZero = false ∧
      ctx.sequence = authority.watermark ∧ p.AcceptsReused s ctx

variable {s : Impl} {clock : Clock} {ctx : PublicationContext}

theorem applied_of_reusesSequence {p : Publication} (h : ReusesSequence s ctx (.publish p)) :
    (p.run s clock ctx).Applied := by
  obtain ⟨authority, hkey, hvalid, hfenced, hepoch, hzero, hsequence, haccepts⟩ := h
  have hadmitted : Admitted s ctx ⟨authority, true⟩ := by
    refine ⟨hvalid, hkey, hfenced, hepoch, ?_, ?_⟩
    · rw [hsequence]
      exact UInt64.le_refl _
    · simp [hsequence, hzero]
  obtain ⟨detail, hrun⟩ := @Publication.run_of_accepts s clock ctx p _ hadmitted
    (Publication.accepts_true_iff.mpr haccepts)
  rw [hrun, p.disposition_of_acceptsReused haccepts]
  exact ⟨_, rfl, rfl⟩

/-- An accepted publication at the watermark re-uses the sequence. -/
theorem reusesSequence_of_accepts {p : Publication} {check : AuthorityCheck}
    (hadmitted : Admitted s ctx check) (haccepts : p.Accepts s ctx check.duplicateSequence)
    (hle : ctx.sequence ≤ check.authority.watermark)
    (hzero : check.authority.watermark.isZero = false) : ReusesSequence s ctx (.publish p) := by
  have heq : ctx.sequence = check.authority.watermark :=
    Sequence.ext (UInt64.le_antisymm hle hadmitted.sequence)
  have hduplicate : check.duplicateSequence = true := by
    rw [hadmitted.duplicate]
    simp [heq, hzero]
  rw [hduplicate] at haccepts
  exact ⟨check.authority, hadmitted.registered, hadmitted.valid, hadmitted.notFenced,
    hadmitted.epoch, hzero, heq, Publication.accepts_true_iff.mp haccepts⟩

/-- A sequence at or below the watermark is not applied, and no record changes, exactly when it is
    not reused for one of the five operations. -/
theorem not_applied_iff (request : Request) {authority : PublisherAuthority}
    (hkey : s.publishers[ctx.key]? = some authority)
    (hzero : authority.watermark.isZero = false) (hle : ctx.sequence ≤ authority.watermark) :
    (¬(request.run s clock ctx).Applied ∧
        (request.run s clock ctx).state.toCollections = s.toCollections) ↔
      ¬ReusesSequence s ctx request := by
  cases request with
  | registerPublisher =>
    simp only [Request.run, ReusesSequence, not_false_eq_true, iff_true]
    rcases registerPublisher_cases s clock ctx with
      ⟨r, hrun, hr⟩ | ⟨check, detail, -, hrun⟩ | ⟨_, -, hunknown, -⟩
    · rw [hrun]
      refine ⟨?_, hr.collections⟩
      rintro ⟨_, hresult, -⟩
      cases hresult
    · rw [hrun]
      refine ⟨?_, rfl⟩
      rintro ⟨r, hresult, happlied⟩
      obtain rfl := Except.ok.inj hresult
      cases happlied
    · rw [hkey] at hunknown
      cases hunknown
  | publish p =>
    constructor
    · rintro ⟨hnot, -⟩ hreuses
      exact hnot (applied_of_reusesSequence hreuses)
    · intro hnot
      simp only [Request.run]
      rcases p.run_cases s clock ctx with
        ⟨r, hrun, hr⟩ | ⟨check, disposition, detail, -, hd, hrun⟩ |
          ⟨check, detail, hadmitted, haccepts, -⟩
      · rw [hrun]
        refine ⟨?_, hr.collections⟩
        rintro ⟨_, hresult, -⟩
        cases hresult
      · rw [hrun]
        refine ⟨?_, rfl⟩
        rintro ⟨r, hresult, happlied⟩
        obtain rfl := Except.ok.inj hresult
        exact hd happlied
      · obtain rfl : authority = check.authority :=
          Option.some.inj (hkey.symm.trans hadmitted.registered)
        exact absurd (reusesSequence_of_accepts hadmitted haccepts hle hzero) hnot

/-! ## Runs -/

/-- The boot identity and sequence a call applies, if it applies one. -/
def Operation.applies (s : Impl) : Operation → Option (PublisherKey × Sequence)
  | .submit clock ctx request =>
    match (request.run s clock ctx).result with
    | .ok r => if r.disposition = .applied then some (ctx.key, ctx.sequence) else none
    | .error _ => none
  | _ => none

/-- What a run applies, in order. -/
def appliedTriples (s : Impl) : List Operation → List (PublisherKey × Sequence)
  | [] => []
  | operation :: operations =>
    (operation.applies s).toList ++ appliedTriples (operation.next s) operations

/-- The durable state has every boot identity at its watermark or above. -/
def KeepsWatermarks (s : Impl) (d : DurableState) : Prop :=
  ∀ (key : PublisherKey) (a : PublisherAuthority), s.publishers[key]? = some a →
    ∃ b, (restoredPublishers d)[key]? = some b ∧ a.watermark ≤ b.watermark

/-- The call does not reuse a sequence, and if it restores a state, that state keeps the
    watermarks. -/
def Operation.KeepsSequences (s : Impl) : Operation → Prop
  | .submit _ ctx request => ¬ReusesSequence s ctx request
  | operation => ∀ d, operation.restores s = some d → KeepsWatermarks s d

/-- The sequence is at or below the watermark of the boot identity. -/
def Consumed (s : Impl) (triple : PublisherKey × Sequence) : Prop :=
  ∃ a, s.publishers[triple.1]? = some a ∧ triple.2 ≤ a.watermark

theorem Consumed.next {operation : Operation} (h : operation.KeepsSequences s)
    {triple : PublisherKey × Sequence} (hconsumed : Consumed s triple) :
    Consumed (operation.next s) triple := by
  obtain ⟨a, ha, hle⟩ := hconsumed
  cases hrestores : operation.restores s with
  | none =>
    obtain ⟨b, hb, hevolves⟩ := (operation.entryStep hrestores triple.1).evolves a ha
    exact ⟨b, hb, UInt64.le_trans hle hevolves.watermark⟩
  | some d =>
    have hkeeps : KeepsWatermarks s d := by
      cases operation with
      | submit clock ctx request => cases hrestores
      | _ => exact h d hrestores
    obtain ⟨b, hb, hab⟩ := hkeeps triple.1 a ha
    rw [next_of_restores hrestores]
    exact ⟨b, hb, UInt64.le_trans hle hab⟩

/-- What a call applies was not consumed before it, and is afterwards. -/
theorem applies_fresh {operation : Operation} (h : operation.KeepsSequences s)
    {triple : PublisherKey × Sequence} (happlies : operation.applies s = some triple) :
    ¬Consumed s triple ∧ Consumed (operation.next s) triple := by
  cases operation with
  | submit clock ctx request =>
    have hnot : ¬ReusesSequence s ctx request := h
    simp only [Operation.applies] at happlies
    split at happlies
    · rename_i r hresult
      split at happlies
      · rename_i happlied
        obtain rfl := Option.some.inj happlies
        simp only [Operation.next]
        cases request with
        | registerPublisher =>
          simp only [Request.run] at hresult ⊢
          rcases registerPublisher_cases s clock ctx with
            ⟨_, hrun, -⟩ | ⟨check, detail, -, hrun⟩ | ⟨_, hvalid, hunknown, -, -, hrun⟩
          · rw [hrun] at hresult
            cases hresult
          · rw [hrun] at hresult
            rw [← Except.ok.inj hresult] at happlied
            cases happlied
          · constructor
            · rintro ⟨a, ha, -⟩
              rw [hunknown] at ha
              cases ha
            · rw [hrun]
              refine ⟨.register clock ctx, Std.TreeMap.getElem?_insert_self, ?_⟩
              simp only [PublisherAuthority.register, sequence_pos_of_validate hvalid, if_true]
              exact UInt64.le_refl _
        | publish p =>
          simp only [Request.run] at hresult ⊢
          rcases p.run_cases s clock ctx with
            ⟨_, hrun, -⟩ | ⟨check, _, _, -, hd, hrun⟩ | ⟨check, detail, hadmitted, haccepts, hrun⟩
          · rw [hrun] at hresult
            cases hresult
          · rw [hrun] at hresult
            rw [← Except.ok.inj hresult] at happlied
            exact absurd happlied hd
          · constructor
            · rintro ⟨a, ha, hle⟩
              obtain rfl : a = check.authority :=
                Option.some.inj (ha.symm.trans hadmitted.registered)
              refine hnot (reusesSequence_of_accepts hadmitted haccepts hle ?_)
              have hpos := sequence_pos_of_validate hadmitted.valid
              simp only [Sequence.isZero, beq_eq_false_iff_ne]
              exact UInt64.pos_iff_ne_zero.mp (UInt64.lt_of_lt_of_le hpos hle)
            · rw [hrun]
              refine ⟨check.authority.settle clock ctx (p.disposition s), ?_, ?_⟩
              · rw [Outcome.state, finish_publishers, if_pos rfl]
              · rw [settle_watermark _ _ _ _ hadmitted.sequence]
                exact UInt64.le_refl _
      · cases happlies
    · cases happlies
  | _ => cases happlies

/-- Along a run that keeps its sequences nothing is applied twice, nor anything that was consumed
    before the run. -/
theorem appliedTriples_nodup (operations : List Operation)
    (h : s.Along (fun s operation => operation.KeepsSequences s) operations) :
    (appliedTriples s operations).Nodup ∧
      ∀ triple ∈ appliedTriples s operations, ¬Consumed s triple := by
  induction operations generalizing s with
  | nil => exact ⟨List.nodup_nil, by simp [appliedTriples]⟩
  | cons operation operations ih =>
    obtain ⟨hnodup, hfresh⟩ := ih h.2
    have htail : ∀ triple ∈ appliedTriples (operation.next s) operations, ¬Consumed s triple :=
      fun triple hmem hconsumed => hfresh triple hmem (hconsumed.next h.1)
    simp only [appliedTriples]
    cases happlies : operation.applies s with
    | none => exact ⟨hnodup, htail⟩
    | some triple =>
      obtain ⟨hnew, hconsumed⟩ := applies_fresh h.1 happlies
      simp only [Option.toList_some, List.singleton_append, List.nodup_cons, List.mem_cons,
        forall_eq_or_imp]
      exact ⟨⟨fun hmem => hfresh triple hmem hconsumed, hnodup⟩, hnew, htail⟩

/-- At-most-once application. For a registered boot identity with a non-zero watermark and a
    sequence that is not above it, no request is applied and no record changes exactly when the
    sequence is not reused for one of the five operations. And over every run whose calls do not
    reuse a sequence, and whose restores keep the watermarks, no boot identity and sequence is
    applied twice. -/
theorem applied_at_most_once (bounds : Bounds) (s : Impl) :
    (∀ (clock : Clock) (ctx : PublicationContext) (request : Request)
      (authority : PublisherAuthority), s.publishers[ctx.key]? = some authority →
      authority.watermark.isZero = false → ctx.sequence ≤ authority.watermark →
      ((¬(request.run s clock ctx).Applied ∧
          (request.run s clock ctx).state.toCollections = s.toCollections) ↔
        ¬ReusesSequence s ctx request)) ∧
    ∀ (operations : List Operation),
      (Impl.new bounds).Along (fun s operation => operation.KeepsSequences s) operations →
      (appliedTriples (Impl.new bounds) operations).Nodup :=
  ⟨fun _ _ request _ hkey hzero hle => not_applied_iff request hkey hzero hle,
    fun operations h => (appliedTriples_nodup operations h).1⟩

/-- In the deployment a repetition of the last sequence is not applied, and the run that built the
    deployment applied no sequence twice. -/
theorem applied_at_most_once_deployment :
    (¬((Request.publish (.registerSite Deployment.site)).run Deployment.state {}
          (Deployment.context 4)).Applied ∧
        ((Request.publish (.registerSite Deployment.site)).run Deployment.state {}
          (Deployment.context 4)).state.toCollections = Deployment.state.toCollections) ∧
      (appliedTriples (Impl.new {}) Deployment.operations).Nodup := by
  refine ⟨?_, (applied_at_most_once {} Deployment.state).2 Deployment.operations ?_⟩
  · have hkey : (Deployment.state.publishers[(Deployment.context 4).key]?).map (·.watermark) =
        some ⟨4⟩ := by decide +kernel
    obtain ⟨authority, hauthority, hwatermark⟩ := Option.map_eq_some_iff.mp hkey
    refine ((applied_at_most_once {} Deployment.state).1 _ _ _ authority hauthority ?_ ?_).mpr ?_
    · rw [hwatermark]
      decide
    · rw [hwatermark]
      decide
    · rintro ⟨_, -, -, -, -, -, -, hfalse⟩
      exact hfalse
  · refine ⟨id, ?_, ?_, ?_, trivial⟩ <;> rintro ⟨_, -, -, -, -, -, -, hfalse⟩ <;> exact hfalse

/-- A sequence is applied twice: the deployment's cluster was registered under sequence 4, and is
    retired under sequence 4 as well. -/
theorem applied_twice :
    ¬∀ (s : Impl) (clock : Clock) (ctx : PublicationContext) (request : Request)
      (authority : PublisherAuthority), Reachable s → s.publishers[ctx.key]? = some authority →
      authority.watermark.isZero = false → ctx.sequence ≤ authority.watermark →
      ¬(request.run s clock ctx).Applied ∧
        (request.run s clock ctx).state.toCollections = s.toCollections := by
  intro h
  have hkey : (Deployment.state.publishers[(Deployment.context 4).key]?).map (·.watermark) =
      some ⟨4⟩ := by decide +kernel
  obtain ⟨authority, hauthority, hwatermark⟩ := Option.map_eq_some_iff.mp hkey
  refine (h Deployment.state {} (Deployment.context 4)
    (.publish (.retireCluster Deployment.cluster.id {} (.ofString "drained"))) authority
    Deployment.reachable_state hauthority (by rw [hwatermark]; decide)
    (by rw [hwatermark]; decide)).1 ?_
  decide +kernel

end FederationObservatory
