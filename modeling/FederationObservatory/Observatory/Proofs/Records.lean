import FederationObservatory.Observatory.Proofs.Publishers
import FederationObservatory.Observatory.Proofs.Writes

/-!
# The stored records over a call

What a call that does not restore can do to one stored record, whatever the call: a fence sweeps it,
an invalidation marks it, an accepted publication replaces it, and nothing takes it out.
-/

namespace FederationObservatory

/-- The collections `fence_publisher` visits. -/
def RecordKind.swept : RecordKind → Bool
  | .cluster | .federation | .site | .domain => true
  | _ => false

/-- What a call does to one lookup. -/
inductive RecordStep (s : Impl) (operation : Operation) :
    (k : RecordKind) → Option k.Record → Option k.Record → Prop where
  | unchanged {k : RecordKind} (found : Option k.Record) : RecordStep s operation k found found
  | written {clock : Clock} {ctx : PublicationContext} {p : Publication} {check : AuthorityCheck}
      (hsubmit : operation = .submit clock ctx (.publish p)) (hadmitted : Admitted s ctx check)
      (haccepts : p.Accepts s ctx check.duplicateSequence) {k : RecordKind}
      {found : Option k.Record} {record : k.Record}
      (h : Written s clock ctx p k found record) : RecordStep s operation k found (some record)
  | swept {k : RecordKind} (key : PublisherKey) (record : k.Record) :
    RecordStep s operation k (some record) (some (sweep key record))
  | invalidated (reason : Text) (record : ClusterRecord) :
    RecordStep s operation .cluster (some record) (some (record.invalidated reason))

variable {s : Impl}

theorem RecordStep.of_collections {operation : Operation} {t : Impl}
    (h : t.toCollections = s.toCollections) (k : RecordKind) (at' : k.Key) :
    RecordStep s operation k (s.table k)[at']? (t.table k)[at']? := by
  rw [h]
  exact .unchanged _

theorem RecordStep.of_submit (clock : Clock) (ctx : PublicationContext) (request : Request)
    (k : RecordKind) (at' : k.Key) :
    RecordStep s (.submit clock ctx request) k (s.table k)[at']?
      ((request.run s clock ctx).state.table k)[at']? := by
  cases request with
  | registerPublisher =>
    simp only [Request.run]
    rcases registerPublisher_cases s clock ctx with
      ⟨r, hrun, hr⟩ | ⟨_, _, -, hrun⟩ | ⟨_, -, -, -, -, hrun⟩
    · rw [hrun]
      exact .of_collections hr.collections k at'
    · rw [hrun]
      exact .unchanged _
    · rw [hrun]
      exact .unchanged _
  | publish p =>
    simp only [Request.run]
    rcases p.run_cases s clock ctx with
      ⟨r, hrun, hr⟩ | ⟨_, _, _, -, -, hrun⟩ | ⟨check, detail, hadmitted, haccepts, hrun⟩
    · rw [hrun]
      exact .of_collections hr.collections k at'
    · rw [hrun]
      exact .unchanged _
    · rw [hrun]
      change RecordStep s _ k _ ((p.written s clock ctx).table k)[at']?
      rcases @Publication.lookup_written s clock ctx _ p haccepts k at' with hsame | ⟨r, hr, hwritten⟩
      · rw [hsame]
        exact .unchanged _
      · rw [hr]
        exact .written rfl hadmitted haccepts hwritten

/-- The lookups after a fence of a registered boot identity. -/
theorem lookup_applyFence (key : PublisherKey) (a : PublisherAuthority) (reason : Text)
    (k : RecordKind) (at' : k.Key) :
    ((s.applyFence key a reason).table k)[at']? =
      if k.swept then ((s.table k)[at']?).map (sweep key) else (s.table k)[at']? := by
  cases k with
  | cluster => exact Std.TreeMap.getElem?_map
  | federation => exact Std.TreeMap.getElem?_map
  | site => exact Std.TreeMap.getElem?_map
  | domain => exact Std.TreeMap.getElem?_map
  | _ => rfl

theorem RecordStep.of_fence (publisher : PublisherId) (boot : BootGeneration) (reason : Text)
    (k : RecordKind) (at' : k.Key) :
    RecordStep s (.fencePublisher publisher boot reason) k (s.table k)[at']?
      ((fencePublisher s publisher boot reason).2.table k)[at']? := by
  rcases fencePublisher_cases s publisher boot reason with ⟨e, hrun⟩ | ⟨-, hrun⟩ | ⟨a, -, hrun⟩
  · rw [hrun]
    exact .unchanged _
  · rw [hrun]
    exact .unchanged _
  · rw [hrun, lookup_applyFence]
    split
    · cases (s.table k)[at']? with
      | none => exact .unchanged none
      | some record => exact .swept _ record
    · exact .unchanged _

/-- What a call that does not restore does to a lookup. -/
theorem Operation.recordStep {operation : Operation} (h : operation.restores s = none)
    (k : RecordKind) (at' : k.Key) :
    RecordStep s operation k (s.table k)[at']? ((operation.next s).table k)[at']? := by
  cases operation with
  | submit clock ctx request => exact .of_submit clock ctx request k at'
  | fencePublisher publisher boot reason => exact .of_fence publisher boot reason k at'
  | invalidateDynamicEvidence reason =>
    cases k with
    | cluster =>
      change RecordStep s _ .cluster s.clusters[at']?
        (s.clusters.map fun _ record => record.invalidated reason)[at']?
      rw [Std.TreeMap.getElem?_map]
      cases s.clusters[at']? with
      | none => exact .unchanged none
      | some record => exact .invalidated reason record
    | _ => exact .unchanged _
  | saveState now => exact .unchanged _
  | loadState file =>
    rw [loadState_next_of_none h]
    exact .unchanged _
  | restore d =>
    rw [restore_next_of_none h]
    exact .unchanged _

/-- The records after an accepted publication are the ones it writes. -/
theorem collections_of_accepts {clock : Clock} {ctx : PublicationContext} {p : Publication} {check : AuthorityCheck}
    (hadmitted : Admitted s ctx check) (haccepts : p.Accepts s ctx check.duplicateSequence) :
    ((Operation.submit clock ctx (.publish p)).next s).toCollections =
      (p.written s clock ctx).toCollections := by
  obtain ⟨detail, hrun⟩ := @Publication.run_of_accepts s clock ctx p check hadmitted haccepts
  change (p.run s clock ctx).state.toCollections = _
  rw [hrun]
  rfl

/-! ## What a call leaves alone -/

/-- Neither the registration of a publisher nor a publication that is not accepted changes a record
    or an index. -/
theorem Request.model_run (clock : Clock) (ctx : PublicationContext) (request : Request) :
    ((request.run s clock ctx).state.toCollections = s.toCollections ∧
        (request.run s clock ctx).state.toIndices = s.toIndices) ∨
      ∃ p check, request = .publish p ∧ Admitted s ctx check ∧
        p.Accepts s ctx check.duplicateSequence ∧
        (request.run s clock ctx).state.toCollections = (p.written s clock ctx).toCollections ∧
        (request.run s clock ctx).state.toIndices = (p.written s clock ctx).toIndices := by
  cases request with
  | registerPublisher =>
    refine .inl ?_
    simp only [Request.run]
    rcases registerPublisher_cases s clock ctx with
      ⟨r, hrun, hr⟩ | ⟨_, _, -, hrun⟩ | ⟨_, -, -, -, -, hrun⟩
    · rw [hrun]
      exact ⟨hr.collections, hr.indices⟩
    · rw [hrun]
      exact ⟨rfl, rfl⟩
    · rw [hrun]
      exact ⟨rfl, rfl⟩
  | publish p =>
    simp only [Request.run]
    rcases p.run_cases s clock ctx with
      ⟨r, hrun, hr⟩ | ⟨_, _, _, -, -, hrun⟩ | ⟨check, detail, hadmitted, haccepts, hrun⟩
    · rw [hrun]
      exact .inl ⟨hr.collections, hr.indices⟩
    · rw [hrun]
      exact .inl ⟨rfl, rfl⟩
    · rw [hrun]
      exact .inr ⟨p, check, rfl, hadmitted, haccepts, rfl, rfl⟩

/-- A collection that fences do not visit is changed by its own publications only. -/
theorem Operation.table_next {operation : Operation} (hrestores : operation.restores s = none)
    {k : RecordKind} (hk : k.swept = false)
    (hother : ∀ clock ctx p, operation = .submit clock ctx (.publish p) → k ≠ p.kind) :
    (operation.next s).table k = s.table k := by
  cases operation with
  | submit clock ctx request =>
    change (request.run s clock ctx).state.table k = _
    rcases request.model_run clock ctx with ⟨hsame, -⟩ | ⟨p, _, rfl, -, -, hwritten, -⟩
    · rw [hsame]
    · rw [hwritten, p.table_written s clock ctx (hother clock ctx p rfl)]
  | fencePublisher publisher boot reason =>
    change (FederationObservatory.fencePublisher s publisher boot reason).2.table k = _
    rcases fencePublisher_cases s publisher boot reason with ⟨e, hrun⟩ | ⟨-, hrun⟩ | ⟨a, -, hrun⟩
    · rw [hrun]
    · rw [hrun]
      rfl
    · rw [hrun]
      cases k <;> first | rfl | cases hk
  | invalidateDynamicEvidence reason => cases k <;> first | rfl | cases hk
  | saveState now => rfl
  | loadState file => rw [loadState_next_of_none hrestores]
  | restore d => rw [restore_next_of_none hrestores]

/-- The indices are changed by accepted publications only. -/
theorem Operation.index_next {α : Type} (index : Indices → α) {operation : Operation}
    (hrestores : operation.restores s = none)
    (hwritten : ∀ clock ctx p check, operation = .submit clock ctx (.publish p) →
      Admitted s ctx check → p.Accepts s ctx check.duplicateSequence →
      index (p.written s clock ctx).toIndices = index s.toIndices) :
    index (operation.next s).toIndices = index s.toIndices := by
  cases operation with
  | submit clock ctx request =>
    change index (request.run s clock ctx).state.toIndices = _
    rcases request.model_run clock ctx with ⟨-, hsame⟩ | ⟨p, check, rfl, hadmitted, haccepts, -, hindices⟩
    · rw [hsame]
    · rw [hindices]
      exact hwritten clock ctx p check rfl hadmitted haccepts
  | fencePublisher publisher boot reason =>
    change index (FederationObservatory.fencePublisher s publisher boot reason).2.toIndices = _
    rcases fencePublisher_cases s publisher boot reason with ⟨e, hrun⟩ | ⟨-, hrun⟩ | ⟨a, -, hrun⟩
    · rw [hrun]
    · rw [hrun]
      rfl
    · rw [hrun]
      rfl
  | invalidateDynamicEvidence reason => rfl
  | saveState now => rfl
  | loadState file => rw [loadState_next_of_none hrestores]
  | restore d => rw [restore_next_of_none hrestores]

/-- The latest placements are changed by placements only. -/
theorem Operation.latestPlacement_next {operation : Operation}
    (hrestores : operation.restores s = none)
    (h : ∀ clock ctx p, operation = .submit clock ctx (.publish p) → p.kind ≠ .placement) :
    (operation.next s).latestPlacement = s.latestPlacement :=
  Operation.index_next Indices.latestPlacement hrestores fun clock ctx p _ hsubmit _ _ =>
    p.latestPlacement_written s clock ctx (h clock ctx p hsubmit)

end FederationObservatory
