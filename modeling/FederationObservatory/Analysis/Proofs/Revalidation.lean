import FederationObservatory.Analysis.Migration
import FederationObservatory.Analysis.Proofs.Rows
import FederationObservatory.Observatory.Proofs.Migrations

/-!
# Outstanding revalidation

`RevalidationRequired` sets a flag that no stage event clears, and the analysis reports a
revalidation as outstanding as long as the flag is set. The report is right exactly as long as the
migration does not leave the revalidation.
-/

namespace FederationObservatory

/-! ## Records -/

namespace MigrationRecord

/-- The last recorded stage, `OutcomeUnknown` aside. -/
def lastKnownStage (r : MigrationRecord) : Option MigrationStage :=
  ((r.stageEvents.map (·.stage)).filter (· ≠ .outcomeUnknown)).getLast?

/-- The migration is at `RevalidationRequired`, or at `OutcomeUnknown` and came from there. -/
def Awaiting (r : MigrationRecord) : Prop :=
  r.stage = .revalidationRequired ∨
    r.stage = .outcomeUnknown ∧ r.lastKnownStage = some .revalidationRequired

/-- The flag is set only while the revalidation lasts. -/
def PendingWhileAwaiting (r : MigrationRecord) : Prop :=
  r.revalidationPending = true →
    (r.stage = .revalidationRequired ∨ r.stage = .outcomeUnknown) ∧
      r.lastKnownStage = some .revalidationRequired

variable {r : MigrationRecord}

theorem PendingWhileAwaiting.awaiting (h : r.PendingWhileAwaiting)
    (houtstanding : r.revalidationOutstanding = true) : r.Awaiting := by
  rcases Bool.or_eq_true_iff.mp houtstanding with hpending | hstage
  · obtain ⟨hstage | hstage, hlast⟩ := h hpending
    · exact .inl hstage
    · exact .inr ⟨hstage, hlast⟩
  · exact .inl (eq_of_beq hstage)

variable (r) (clock : Clock) (ctx : PublicationContext) (event : MigrationStageEvent)

/-- A stage event sets the flag or leaves it. -/
@[simp] theorem revalidationPending_append :
    (r.append clock ctx event).revalidationPending =
      (r.revalidationPending || event.stage == .revalidationRequired) := by
  unfold append
  cases event.stage <;> simp [enter]

theorem lastKnownStage_append :
    (r.append clock ctx event).lastKnownStage =
      if event.stage = .outcomeUnknown then r.lastKnownStage else some event.stage := by
  unfold lastKnownStage
  rw [stageEvents_append, List.map_append, List.filter_append]
  by_cases hstage : event.stage = .outcomeUnknown
  · rw [if_pos hstage]
    simp [hstage]
  · rw [if_neg hstage]
    simp [hstage]

variable {r clock ctx event}

/-- The events that do not leave the revalidation. -/
theorem pendingWhileAwaiting_append (h : r.PendingWhileAwaiting)
    (hstage : r.revalidationPending = true →
      event.stage = .revalidationRequired ∨ event.stage = .outcomeUnknown) :
    (r.append clock ctx event).PendingWhileAwaiting := by
  intro hpending
  rw [revalidationPending_append] at hpending
  rw [stage_append, lastKnownStage_append]
  by_cases hold : r.revalidationPending = true
  · refine ⟨hstage hold, ?_⟩
    split
    · exact (h hold).2
    · next hknown => rw [(hstage hold).resolve_right hknown]
  · rw [Bool.not_eq_true] at hold
    rw [hold, Bool.false_or] at hpending
    have hevent := eq_of_beq hpending
    rw [hevent]
    exact ⟨.inl rfl, rfl⟩

/-- An event that leaves the revalidation while the flag is set. -/
theorem not_awaiting_append (hrevalidation : event.stage ≠ .revalidationRequired)
    (hunknown : event.stage ≠ .outcomeUnknown) : ¬(r.append clock ctx event).Awaiting := by
  rintro (hstage | ⟨hstage, -⟩)
  · rw [stage_append] at hstage
    exact hrevalidation hstage
  · rw [stage_append] at hstage
    exact hunknown hstage

end MigrationRecord

/-! ## States and calls -/

/-- Whatever analysis is made of the stored migration, that of `migration_analysis` among them, a
    revalidation is reported as outstanding only while the migration awaits it. -/
def Impl.RevalidationDischarged (formatDouble : Double → Text) (s : Impl) (id : MigrationId) :
    Prop :=
  ∀ r : MigrationRecord, s.migrations[id]? = some r →
    (∀ inputs : MigrationAnalysisInputs, inputs.migration = some r →
      (analyzeMigration inputs).revalidationOutstanding = true → r.Awaiting) ∧
    ∀ analysis, migrationAnalysis formatDouble s id = .ok analysis →
      analysis.revalidationOutstanding = true → r.Awaiting

/-- The call brings a record of the migration with the flag set, as a publication or from a
    checkpoint. -/
def Operation.BringsPending (s : Impl) (id : MigrationId) (operation : Operation) : Prop :=
  (∃ clock ctx r, operation = .submit clock ctx (.publish (.publishMigration r)) ∧ r.id = id ∧
    r.revalidationPending = true) ∨
  ∃ d, operation.restores s = some d ∧
    ∃ r ∈ d.migrations, r.id = id ∧ r.revalidationPending = true

/-- The call is an accepted stage event that takes the migration, with the flag set, to another
    stage than `RevalidationRequired` and `OutcomeUnknown`. -/
def Operation.LeavesRevalidation (s : Impl) (id : MigrationId) : Operation → Prop
  | .submit _ ctx (.publish (.publishMigrationStage migration generation stage _)) =>
    migration = id ∧ (∃ check, Admitted s ctx check) ∧
      AcceptsStage s ctx migration generation stage ∧
      stage ≠ .revalidationRequired ∧ stage ≠ .outcomeUnknown ∧
      (s.migrations[migration]?).map (·.revalidationPending) = some true
  | _ => False

variable {s : Impl} {clock : Clock} {ctx : PublicationContext} {id : MigrationId}

theorem revalidationOutstanding_analyzeMigration {r : MigrationRecord}
    {inputs : MigrationAnalysisInputs} (h : inputs.migration = some r) :
    (analyzeMigration inputs).revalidationOutstanding = r.revalidationOutstanding := by
  unfold analyzeMigration
  rw [h]

/-- The query analyzes the stored record. -/
theorem Reachable.migrationAnalysis_eq_ok (h : Reachable s) {formatDouble : Double → Text}
    {analysis : MigrationAnalysis} {r : MigrationRecord}
    (hanalysis : migrationAnalysis formatDouble s id = .ok analysis)
    (hstored : s.migrations[id]? = some r) :
    analysis.revalidationOutstanding = r.revalidationOutstanding := by
  unfold migrationAnalysis at hanalysis
  rcases Option.eq_none_or_eq_some ((buildSnapshot s {}).find .migration id) with
    hfind | ⟨record, hfind⟩
  · rw [hfind] at hanalysis
    cases hanalysis
  · rw [hfind] at hanalysis
    obtain ⟨hmem, hkey⟩ := (h.ordered {}).find_eq_some.mp hfind
    obtain ⟨id', hrecord⟩ := mem_table_of_mem_snapshot hmem
    have hid : id' = id := (h.filed .migration id' record hrecord).symm.trans hkey
    rw [hid] at hrecord
    obtain rfl : record = r := Option.some.inj (hrecord.symm.trans hstored)
    obtain rfl := Except.ok.inj hanalysis
    rfl

/-- The flag of the stored migration is set only while the revalidation lasts. -/
def Impl.PendingWhileAwaiting (s : Impl) (id : MigrationId) : Prop :=
  ∀ r : MigrationRecord, s.migrations[id]? = some r → r.PendingWhileAwaiting

theorem Impl.PendingWhileAwaiting.discharged (h : s.PendingWhileAwaiting id)
    (hreachable : Reachable s) (formatDouble : Double → Text) :
    s.RevalidationDischarged formatDouble id := by
  intro r hstored
  refine ⟨?_, ?_⟩
  · intro inputs hinputs houtstanding
    rw [revalidationOutstanding_analyzeMigration hinputs] at houtstanding
    exact (h r hstored).awaiting houtstanding
  · intro analysis hanalysis houtstanding
    rw [hreachable.migrationAnalysis_eq_ok hanalysis hstored] at houtstanding
    exact (h r hstored).awaiting houtstanding

/-- Nothing but a stage event that leaves the revalidation separates the flag from it. -/
theorem pendingWhileAwaiting_next {operation : Operation} (h : s.PendingWhileAwaiting id)
    (hbrings : ¬operation.BringsPending s id) (hleaves : ¬operation.LeavesRevalidation s id) :
    (operation.next s).PendingWhileAwaiting id := by
  intro record hrecord
  cases Operation.migrationStep hrecord with
  | kept hstored =>
    have hold := h _ hstored
    exact fun hpending => hold hpending
  | @published clock ctx _ r hsubmit _ _ hid =>
    intro hpending
    exact absurd (.inl ⟨clock, ctx, r, hsubmit, hid, hpending⟩) hbrings
  | @appended _ _ check _ stage _ r hsubmit hadmitted haccepts hstored =>
    refine MigrationRecord.pendingWhileAwaiting_append (h _ hstored) fun hpending => ?_
    by_contra hstage
    obtain ⟨hrevalidation, hunknown⟩ := not_or.mp hstage
    subst hsubmit
    exact hleaves ⟨rfl, ⟨check, hadmitted⟩, haccepts, hrevalidation, hunknown, by
      rw [hstored, Option.map_some, hpending]⟩
  | @restored d r hrestores hr hid =>
    intro hpending
    exact absurd (.inr ⟨d, hrestores, r, hr, hid, hpending⟩) hbrings

/-- A stage event that leaves the revalidation while the flag is set. -/
theorem not_discharged_of_leaves {operation : Operation} (formatDouble : Double → Text)
    (h : operation.LeavesRevalidation s id) :
    ¬(operation.next s).RevalidationDischarged formatDouble id := by
  intro hnext
  cases operation with
  | submit clock ctx request =>
    cases request with
    | registerPublisher => exact h
    | publish p =>
      cases p with
      | publishMigrationStage migration generation stage detail =>
        obtain ⟨rfl, ⟨check, hadmitted⟩, haccepts, hrevalidation, hunknown, hflag⟩ := h
        obtain ⟨stored, hmigration, hpending⟩ := Option.map_eq_some_iff.mp hflag
        have hcollections := @collections_of_accepts s clock ctx
          (.publishMigrationStage migration generation stage detail) check hadmitted haccepts
        have hlookup := @lookup_publishMigrationStage s clock ctx migration generation stage detail
          stored hmigration migration
        rw [if_pos rfl, ← hcollections] at hlookup
        refine MigrationRecord.not_awaiting_append hrevalidation hunknown
          ((hnext _ hlookup).1 { migration := some _ } rfl ?_)
        rw [revalidationOutstanding_analyzeMigration rfl, MigrationRecord.revalidationOutstanding,
          MigrationRecord.revalidationPending_append, hpending]
        rfl
      | _ => exact h
  | _ => exact h

/-- A migration that was published without the flag is stored without it. -/
theorem pendingWhileAwaiting_of_applied {record : MigrationRecord}
    (hpending : record.revalidationPending = false)
    (happlied : ((Publication.publishMigration record).run s clock ctx).Applied) :
    ((Publication.publishMigration record).run s clock ctx).state.PendingWhileAwaiting
      record.id := by
  obtain ⟨check, _, hadmitted, haccepts, -⟩ := Publication.accepted_of_applied happlied
  have hcollections := @collections_of_accepts s clock ctx _ check hadmitted haccepts
  intro r hstored hflag
  have hlookup : (s.recordMigration clock ctx record).migrations[record.id]? = some r := by
    rw [← hstored]
    exact (congrArg (fun c : Collections => c.migrations[record.id]?) hcollections).symm
  rw [lookup_recordMigration] at hlookup
  simp only [if_true] at hlookup
  split at hlookup
  · rw [Option.map_some, Option.some.injEq] at hlookup
    obtain ⟨c, hc⟩ := (record.accept clock ctx).superseded_eq
    rw [← hlookup, hc] at hflag
    cases hpending.symm.trans hflag
  · rw [Option.some.injEq] at hlookup
    rw [← hlookup] at hflag
    cases hpending.symm.trans hflag

/-! ## Runs -/

/-- After a migration was published without the flag, a revalidation is reported as outstanding only
    while the migration awaits it, in every state of a run, exactly when no stage event of the run
    takes the migration out of the revalidation. -/
theorem revalidation_discharged_iff (formatDouble : Double → Text) (hreachable : Reachable s)
    {record : MigrationRecord} (hpending : record.revalidationPending = false)
    (happlied : ((Publication.publishMigration record).run s clock ctx).Applied)
    {operations : List Operation}
    (hkeeps : ((Publication.publishMigration record).run s clock ctx).state.Along
      (fun t operation => ¬operation.BringsPending t record.id) operations) :
    (∀ before, before <+: operations →
      (((Publication.publishMigration record).run s clock ctx).state.run
        before).RevalidationDischarged formatDouble record.id) ↔
      ((Publication.publishMigration record).run s clock ctx).state.Along
        (fun t operation => ¬operation.LeavesRevalidation t record.id) operations := by
  have hstart := pendingWhileAwaiting_of_applied hpending happlied
  have hnext : Reachable ((Publication.publishMigration record).run s clock ctx).state :=
    hreachable.next (.submit clock ctx (.publish (.publishMigration record)))
  generalize ((Publication.publishMigration record).run s clock ctx).state = t at *
  constructor
  · intro h
    refine Runs.along_iff_before.mpr fun before operation hbefore hleaves => ?_
    have hafter := h (before ++ [operation]) hbefore
    rw [Impl.run, Runs.run_concat] at hafter
    exact not_discharged_of_leaves formatDouble hleaves hafter
  · rintro h before ⟨rest, rfl⟩
    have hboth := Runs.along_and.mpr ⟨hkeeps, h⟩
    have hpendingWhile : (t.run before).PendingWhileAwaiting record.id :=
      Runs.invariant (I := fun u : Impl => u.PendingWhileAwaiting record.id)
        (fun u operation hgood hu => pendingWhileAwaiting_next hu hgood.1 hgood.2)
        ((Runs.along_append _ _).mp hboth).1 hstart
    exact hpendingWhile.discharged (hnext.run before) formatDouble

namespace Deployment

/-- Stage events that go through the revalidation. -/
def revalidationEvents : List Operation :=
  [stageEvent 9 "first" .outcomeUnknown, stageEvent 10 "first" .revalidationRequired]

end Deployment

theorem revalidation_discharged_deployment :
    (((Publication.publishMigration (Deployment.migration "first")).run Deployment.loaded {}
      (Deployment.context 8)).state.run Deployment.revalidationEvents).RevalidationDischarged
        (fun _ => []) (Deployment.migration "first").id := by
  have hstep : ∀ (t : Impl) (operation : Operation), operation ∈ Deployment.revalidationEvents →
      ¬operation.BringsPending t (Deployment.migration "first").id ∧
        ¬operation.LeavesRevalidation t (Deployment.migration "first").id := by
    intro t operation hmem
    simp only [Deployment.revalidationEvents, List.mem_cons, List.not_mem_nil, or_false] at hmem
    refine ⟨?_, ?_⟩
    · rintro (⟨_, _, _, heq, -⟩ | ⟨_, hrestores, -⟩)
      · rcases hmem with rfl | rfl <;> cases heq
      · rcases hmem with rfl | rfl <;> cases hrestores
    · rcases hmem with rfl | rfl
      · rintro ⟨-, -, -, -, hunknown, -⟩
        exact hunknown rfl
      · rintro ⟨-, -, -, hrevalidation, -⟩
        exact hrevalidation rfl
  have happlied : ((Publication.publishMigration (Deployment.migration "first")).run
      Deployment.loaded {} (Deployment.context 8)).Applied :=
    Outcome.applied_iff.mpr (by decide +kernel)
  refine (revalidation_discharged_iff (fun _ => []) Deployment.reachable_loaded (by decide)
    happlied ?_).mpr ?_ _ (List.prefix_refl _)
  · refine Runs.along_iff_before.mpr fun before operation hbefore => (hstep _ _ ?_).1
    exact hbefore.subset (List.mem_append_right _ (List.mem_singleton_self _))
  · refine Runs.along_iff_before.mpr fun before operation hbefore => (hstep _ _ ?_).2
    exact hbefore.subset (List.mem_append_right _ (List.mem_singleton_self _))

/-- A migration that went through the revalidation and was committed: its revalidation is still
    reported as outstanding. -/
theorem committed_revalidation_outstanding :
    (Deployment.migration "first").revalidationPending = false ∧
      ¬(Deployment.revalidated.run
        [Deployment.stageEvent 11 "first" .committed]).RevalidationDischarged (fun _ => [])
          (Deployment.migration "first").id := by
  refine ⟨by decide, ?_⟩
  intro h
  have hstored : ((Deployment.revalidated.run
      [Deployment.stageEvent 11 "first" .committed]).migrations[
        (Deployment.migration "first").id]?).map
      (fun r => (r.stage, r.revalidationPending)) = some (.committed, true) := by
    decide +kernel
  obtain ⟨r, hr, hfields⟩ := Option.map_eq_some_iff.mp hstored
  obtain ⟨hstage, hpending⟩ := Prod.mk.injEq .. |>.mp hfields
  have hawaiting := (h r hr).1 { migration := some r } rfl (by
    rw [revalidationOutstanding_analyzeMigration rfl, MigrationRecord.revalidationOutstanding,
      hpending]
    rfl)
  rcases hawaiting with hrevalidation | ⟨hunknown, -⟩
  · cases hstage.symm.trans hrevalidation
  · cases hstage.symm.trans hunknown

end FederationObservatory
