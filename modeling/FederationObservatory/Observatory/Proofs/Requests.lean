import FederationObservatory.Observatory.Proofs.Settlement

/-!
# Requests

What a request can do to the state, whatever it is; that a refusal is atomic; and that a stale
coordinator epoch is refused.
-/

namespace FederationObservatory

variable {s : Impl} {clock : Clock} {ctx : PublicationContext}

/-! ## Case analysis -/

/-- A publication is refused, recognised as nothing new, or accepted. -/
theorem Publication.run_cases (s : Impl) (clock : Clock) (ctx : PublicationContext)
    (p : Publication) :
    (∃ r, p.run s clock ctx = .error r ∧ s.Preserved r.2) ∨
      (∃ check disposition detail, Admitted s ctx check ∧ disposition ≠ .applied ∧
        p.run s clock ctx = .ok (finish s clock ctx check.authority disposition detail)) ∨
      ∃ check detail, Admitted s ctx check ∧ p.Accepts s ctx check.duplicateSequence ∧
        p.run s clock ctx =
          .ok (finish (p.written s clock ctx) clock ctx check.authority (p.disposition s)
            detail) := by
  rcases checkAuthority_cases s ctx with ⟨r, hgate, hpreserved, -⟩ | ⟨check, hgate, hadmitted⟩
  · exact .inl ⟨r, run_of_gate_error p hgate, hpreserved⟩
  · rcases @Publication.run_settles s clock ctx check p hgate with ⟨haccepts, detail, hrun⟩ | ⟨-, hdeclined⟩
    · exact .inr (.inr ⟨check, detail, hadmitted, haccepts, hrun⟩)
    · generalize p.run s clock ctx = o at hdeclined
      cases hdeclined with
      | refused hs code detail =>
        exact .inl ⟨_, rfl, refuse_preserved hs code detail (some ctx.key) false⟩
      | kept disposition hd detail =>
        exact .inr (.inl ⟨check, disposition, detail, hadmitted, hd, rfl⟩)

/-- A publication that is admitted and accepted writes. -/
theorem Publication.run_of_accepts {p : Publication} {check : AuthorityCheck}
    (hadmitted : Admitted s ctx check) (haccepts : p.Accepts s ctx check.duplicateSequence) :
    ∃ detail, p.run s clock ctx =
      .ok (finish (p.written s clock ctx) clock ctx check.authority (p.disposition s) detail) := by
  rcases @Publication.run_settles s clock ctx check p (checkAuthority_eq_ok.mpr hadmitted) with
    ⟨-, hrun⟩ | ⟨hnot, -⟩
  · exact hrun
  · exact absurd haccepts hnot

/-- A publication that is not accepted changes no record. -/
theorem Publication.collections_of_not_accepts {p : Publication}
    (h : ∀ check, Admitted s ctx check → ¬p.Accepts s ctx check.duplicateSequence) :
    (p.run s clock ctx).state.toCollections = s.toCollections := by
  rcases p.run_cases s clock ctx with
    ⟨r, hrun, hr⟩ | ⟨_, _, _, -, -, hrun⟩ | ⟨check, _, hadmitted, haccepts, -⟩
  · rw [hrun]
    exact hr.collections
  · rw [hrun]
    rfl
  · exact absurd haccepts (h check hadmitted)

/-- An accepted publication passed the gate. -/
theorem Publication.admitted_of_ok {p : Publication} {r : IngestResult} {t : Impl}
    (h : p.run s clock ctx = .ok (r, t)) : ∃ check, Admitted s ctx check := by
  rcases p.run_cases s clock ctx with
    ⟨r', hrun, -⟩ | ⟨check, _, _, hadmitted, -⟩ | ⟨check, _, hadmitted, -⟩
  · rw [hrun] at h
    cases h
  · exact ⟨check, hadmitted⟩
  · exact ⟨check, hadmitted⟩

/-- The room `register_publisher` needs for an unknown boot identity. -/
def Impl.hasRoomFor (s : Impl) (federation : FederationId) : Prop :=
  s.publishers.size < s.bounds.maxPublishers ∧
    s.publishersInFederation federation < s.bounds.maxPublishersPerFederation

/-- The state after an unknown boot identity was registered. -/
def Impl.withPublisher (s : Impl) (clock : Clock) (ctx : PublicationContext) : Impl :=
  { s with
    publishers := s.publishers.insert ctx.key (.register clock ctx)
    snapshotGeneration := s.snapshotGeneration.next
    stats := { s.stats with
      publisherRegistrations := s.stats.publisherRegistrations + 1
      publicationsApplied := s.stats.publicationsApplied + 1 } }

/-- A registration of a publisher is refused, revives a known boot identity, or creates an unknown
    one. -/
theorem registerPublisher_cases (s : Impl) (clock : Clock) (ctx : PublicationContext) :
    (∃ r, registerPublisher s clock ctx = .error r ∧ s.Preserved r.2) ∨
      (∃ check detail, Admitted s ctx check ∧ registerPublisher s clock ctx =
        .ok (finish s clock ctx (check.authority.revive ctx) .duplicate detail)) ∨
      ∃ r, ctx.validate = .ok () ∧ s.publishers[ctx.key]? = none ∧
        s.hasRoomFor ctx.federation ∧ r.disposition = .applied ∧
        registerPublisher s clock ctx = .ok (r, s.withPublisher clock ctx) := by
  unfold registerPublisher
  cases hvalid : ctx.validate with
  | error e => exact .inl ⟨_, rfl, .refl s⟩
  | ok u =>
    cases hkey : s.publishers[ctx.key]? with
    | some authority =>
      simp only
      split
      · exact .inl ⟨_, rfl, refuse_preserved (.refl s) _ _ _ _⟩
      rename_i hfenced
      split
      · exact .inl ⟨_, rfl, refuse_preserved (.refl s) _ _ _ _⟩
      rename_i hepoch
      split
      · exact .inl ⟨_, rfl, refuse_preserved s.sameModel_countSequenceRegression _ _ _ _⟩
      rename_i hsequence
      exact .inr (.inl ⟨⟨authority, ctx.sequence == authority.watermark &&
        !authority.watermark.isZero⟩, _, ⟨hvalid, hkey, by simpa using hfenced,
        by simpa using hepoch, UInt64.not_lt.mp hsequence, rfl⟩, rfl⟩)
    | none =>
      simp only
      split
      · exact .inl ⟨_, rfl, s.sameModel_countBoundsRejection.preserved⟩
      rename_i hpublishers
      split
      · exact .inl ⟨_, rfl, s.sameModel_countBoundsRejection.preserved⟩
      rename_i hfederation
      exact .inr (.inr ⟨_, trivial, trivial, ⟨by omega, by omega⟩, rfl, rfl⟩)

/-- The request was applied. -/
def Outcome.Applied (o : Outcome) : Prop := ∃ r, o.result = .ok r ∧ r.disposition = .applied

theorem Outcome.applied_iff {o : Outcome} :
    o.Applied ↔ o.result.toOption.map (·.disposition) = some .applied := by
  unfold Applied
  cases o.result with
  | error e => simp [Except.toOption]
  | ok r => simp [Except.toOption]

instance (o : Outcome) : Decidable o.Applied := decidable_of_iff _ Outcome.applied_iff.symm

/-- An applied publication was admitted and accepted. -/
theorem Publication.accepted_of_applied {p : Publication} (h : (p.run s clock ctx).Applied) :
    ∃ check detail, Admitted s ctx check ∧ p.Accepts s ctx check.duplicateSequence ∧
      p.run s clock ctx =
        .ok (finish (p.written s clock ctx) clock ctx check.authority (p.disposition s) detail) := by
  obtain ⟨r, hresult, happlied⟩ := h
  rcases p.run_cases s clock ctx with
    ⟨_, hrun, -⟩ | ⟨_, _, _, -, hd, hrun⟩ | ⟨check, detail, hadmitted, haccepts, hrun⟩
  · rw [hrun] at hresult
    cases hresult
  · rw [hrun] at hresult
    rw [← Except.ok.inj hresult] at happlied
    exact absurd happlied hd
  · exact ⟨check, detail, hadmitted, haccepts, hrun⟩

/-! ## Refusals -/

/-- A request that is refused preserves the state. -/
theorem request_preserved_of_error (request : Request) {e : Error}
    (h : (request.run s clock ctx).result = .error e) :
    s.Preserved (request.run s clock ctx).state := by
  cases request with
  | registerPublisher =>
    change (registerPublisher s clock ctx).result = .error e at h
    change s.Preserved (registerPublisher s clock ctx).state
    rcases registerPublisher_cases s clock ctx with
      ⟨r, hrun, ht⟩ | ⟨_, _, -, hrun⟩ | ⟨_, -, -, -, -, hrun⟩
    · rw [hrun]
      exact ht
    · rw [hrun] at h
      cases h
    · rw [hrun] at h
      cases h
  | publish p =>
    change (p.run s clock ctx).result = .error e at h
    change s.Preserved (p.run s clock ctx).state
    rcases p.run_cases s clock ctx with
      ⟨r, hrun, ht⟩ | ⟨_, _, _, -, -, hrun⟩ | ⟨_, _, -, -, hrun⟩
    · rw [hrun]
      exact ht
    · rw [hrun] at h
      cases h
    · rw [hrun] at h
      cases h

theorem restore_of_error {d : DurableState} {e : Error} (h : (restore s d).1 = .error e) :
    (restore s d).2 = s := by
  unfold restore at h ⊢
  split at h
  · rfl
  · cases h

theorem loadState_of_error {file : Option ByteCodec.Bytes} {e : Error}
    (h : (loadState s file).1 = .error e) : (loadState s file).2 = s := by
  unfold loadState at h ⊢
  split at h
  · rfl
  · exact restore_of_error h

/-- Refusal is atomic: a registration, retirement, publication or restore that returns an error
    leaves every record, every index, every authority but for its rejection counter, the epoch and
    the snapshot generation as they were. -/
theorem refusal_atomic (s : Impl) :
    (∀ (clock : Clock) (ctx : PublicationContext) (request : Request) (e : Error),
      (request.run s clock ctx).result = .error e →
        s.Preserved (request.run s clock ctx).state) ∧
    (∀ (d : DurableState) (e : Error), (restore s d).1 = .error e → (restore s d).2 = s) ∧
    ∀ (file : Option ByteCodec.Bytes) (e : Error),
      (loadState s file).1 = .error e → (loadState s file).2 = s :=
  ⟨fun _ _ request _ h => request_preserved_of_error request h, fun _ _ h => restore_of_error h,
    fun _ _ h => loadState_of_error h⟩

/-- A retirement of an unknown cluster, the restore of a state of another format and the load of an
    empty file are refused, and atomic. -/
theorem refusal_atomic_deployment :
    Deployment.state.Preserved
        ((Request.publish (.retireCluster ⟨.ofString "other"⟩ {} [])).run Deployment.state {}
          (Deployment.context 5)).state ∧
      (restore Deployment.state { formatVersion := 2 }).2 = Deployment.state ∧
      (loadState Deployment.state (some [])).2 = Deployment.state := by
  refine ⟨(refusal_atomic _).1 _ _ _
      ⟨.notFound, .ofString "cluster is not registered", []⟩ ?_,
    (refusal_atomic _).2.1 _
      ⟨.unsupportedVersion, .ofString "unsupported durable state format version", .ofNat 2⟩ ?_,
    (refusal_atomic _).2.2 _ ⟨.corruptState, .ofString "durable state is empty", []⟩ ?_⟩
  · decide +kernel
  · decide +kernel
  · decide +kernel

/-! ## Stale epochs -/

/-- An unknown boot identity is registered whenever there is room for it: the epoch of the context
    is not looked at. -/
theorem registerPublisher_of_room (hvalid : ctx.validate = .ok ())
    (hunknown : s.publishers[ctx.key]? = none) (hroom : s.hasRoomFor ctx.federation) :
    ∃ r, registerPublisher s clock ctx = .ok (r, s.withPublisher clock ctx) ∧
      r.sequenceGap = if 1 < ctx.sequence.value then ctx.sequence.value - 1 else 0 := by
  have hpublishers := Nat.not_le.mpr hroom.1
  have hfederation := Nat.not_le.mpr hroom.2
  simp only [registerPublisher, hvalid, hunknown, hpublishers, hfederation, if_false]
  refine ⟨_, rfl, ?_⟩
  simp only [PublisherAuthority.register, if_pos (sequence_pos_of_validate hvalid)]

/-- A publication under another epoch does not pass the gate. -/
theorem publication_error_of_staleEpoch (p : Publication)
    (hstale : ctx.coordinatorEpoch ≠ s.coordinatorEpoch) :
    ∃ r, p.run s clock ctx = .error r ∧ s.Preserved r.2 := by
  rcases checkAuthority_cases s ctx with ⟨r, hgate, hpreserved, -⟩ | ⟨check, -, hadmitted⟩
  · exact ⟨r, run_of_gate_error p hgate, hpreserved⟩
  · exact absurd hadmitted.epoch hstale

/-- A request under another epoch than the coordinator's is refused, without an effect, exactly
    when it is not the registration of an unknown boot identity for which there is room. -/
theorem staleEpoch_refused_iff (s : Impl) (clock : Clock) (ctx : PublicationContext)
    (request : Request) (hstale : ctx.coordinatorEpoch ≠ s.coordinatorEpoch) :
    ((∃ e, (request.run s clock ctx).result = .error e) ∧
        s.Preserved (request.run s clock ctx).state) ↔
      ¬(request = .registerPublisher ∧ ctx.validate = .ok () ∧ s.publishers[ctx.key]? = none ∧
        s.hasRoomFor ctx.federation) := by
  cases request with
  | publish p =>
    obtain ⟨r, hrun, hpreserved⟩ := @publication_error_of_staleEpoch s clock ctx p hstale
    simp only [Request.run, hrun, reduceCtorEq, false_and, not_false_eq_true, iff_true]
    exact ⟨⟨r.1, rfl⟩, hpreserved⟩
  | registerPublisher =>
    simp only [Request.run, true_and]
    rcases registerPublisher_cases s clock ctx with
      ⟨r, hrun, ht⟩ | ⟨check, _, hadmitted, -⟩ | ⟨r, hvalid, hunknown, hroom, -, hrun⟩
    · rw [hrun]
      constructor
      · rintro - ⟨hvalid, hunknown, hroom⟩
        obtain ⟨r', hrun', -⟩ := @registerPublisher_of_room s clock ctx hvalid hunknown hroom
        rw [hrun] at hrun'
        cases hrun'
      · exact fun _ => ⟨⟨r.1, rfl⟩, ht⟩
    · exact absurd hadmitted.epoch hstale
    · rw [hrun]
      constructor
      · rintro ⟨⟨e, he⟩, -⟩
        cases he
      · exact fun h => absurd ⟨hvalid, hunknown, hroom⟩ h

/-- A context of the deployment's publisher under an epoch that is not the coordinator's. -/
def Deployment.staleContext (boot : BootGeneration) : PublicationContext :=
  { Deployment.context 5 with boot, coordinatorEpoch := ⟨7⟩ }

/-- A known boot identity that registers again under another epoch is refused. -/
theorem staleEpoch_refused_deployment :
    (∃ e, (Request.registerPublisher.run Deployment.state {}
        (Deployment.staleContext ⟨1⟩)).result = .error e) ∧
      Deployment.state.Preserved
        (Request.registerPublisher.run Deployment.state {} (Deployment.staleContext ⟨1⟩)).state :=
  (staleEpoch_refused_iff Deployment.state {} (Deployment.staleContext ⟨1⟩) .registerPublisher
    (by decide +kernel)).mpr (by
      rintro ⟨-, -, hunknown, -⟩
      exact absurd hunknown (by decide +kernel))

/-- Stale epochs are not refused throughout: an unknown boot identity that carries epoch 7 while
    the coordinator is at epoch 1 is registered. -/
theorem staleEpoch_not_refused :
    ¬∀ (s : Impl) (clock : Clock) (ctx : PublicationContext) (request : Request), Reachable s →
      ctx.coordinatorEpoch ≠ s.coordinatorEpoch →
      (∃ e, (request.run s clock ctx).result = .error e) ∧
        s.Preserved (request.run s clock ctx).state := by
  intro h
  obtain ⟨⟨e, he⟩, -⟩ := h Deployment.state {} (Deployment.staleContext ⟨2⟩) .registerPublisher
    Deployment.reachable_state (by decide +kernel)
  have hok : ((Request.registerPublisher.run Deployment.state {}
      (Deployment.staleContext ⟨2⟩)).result.toOption.map (·.disposition)) = some .applied := by
    decide +kernel
  rw [he] at hok
  cases hok

end FederationObservatory
