import FederationObservatory.Observatory.Proofs.Migrations

/-!
# Stage events

The history of a stored migration grows by accepted stage events, and comes whole with a published
or a restored record. A stage event is not appended to a terminal migration; a record may bring the
terminal event twice, because a stage may follow itself. And the sequences of the history are those
of whoever published the events, so that a publisher with a lower counter cannot go on with a
migration another one has moved.
-/

namespace FederationObservatory

namespace MigrationRecord

variable {r : MigrationRecord}

/-- The number of terminal events in a history. -/
def terminalEvents (events : List MigrationStageEvent) : Nat :=
  events.countP fun event => event.stage.isTerminal

/-- There is at most one terminal event, and no event after it. -/
structure TerminalOnce (events : List MigrationStageEvent) : Prop where
  once : terminalEvents events ≤ 1
  last : ∀ before event after, events = before ++ event :: after →
    event.stage.isTerminal = true → after = []

/-- What may follow a terminal stage is the stage itself. -/
theorem isTerminal_of_acceptable {source target : MigrationStage}
    (h : MigrationStage.isAcceptableEvent source target = true) (hsource : source.isTerminal = true) :
    target.isTerminal = true := by
  revert h hsource
  cases source <;> cases target <;> decide

/-- In a history that validates, only a terminal event follows a terminal one. -/
theorem terminal_after {previous : Option MigrationStageEvent} {events before after : List MigrationStageEvent}
    {event next : MigrationStageEvent} (h : r.validateEvents previous events = .ok ())
    (hevents : events = before ++ event :: next :: after) (hterminal : event.stage.isTerminal = true) :
    next.stage.isTerminal = true := by
  induction before generalizing previous events with
  | nil =>
    rw [hevents, List.nil_append, validateEvents_cons, validateEvents_cons] at h
    exact isTerminal_of_acceptable (h.2.1.stage event rfl) hterminal
  | cons first before ih =>
    rw [hevents, List.cons_append, validateEvents_cons] at h
    exact ih h.2 rfl

/-- A history that validates has its terminal event once if it has it no more than once. -/
theorem terminalOnce_of_valid {previous : Option MigrationStageEvent}
    {events : List MigrationStageEvent} (h : r.validateEvents previous events = .ok ())
    (hcount : terminalEvents events ≤ 1) : TerminalOnce events := by
  refine ⟨hcount, ?_⟩
  intro before event after hevents hterminal
  cases after with
  | nil => rfl
  | cons next after =>
    have hnext := terminal_after h hevents hterminal
    simp only [hevents, terminalEvents, List.countP_append, List.countP_cons, hterminal, hnext,
      if_true] at hcount
    omega

/-- A history whose terminal event is recorded once and whose last event is not terminal has no
    terminal event. -/
theorem terminalEvents_eq_zero {events : List MigrationStageEvent} (h : TerminalOnce events)
    (hlast : ∀ event, events.getLast? = some event → event.stage.isTerminal = false) :
    terminalEvents events = 0 := by
  rw [terminalEvents, List.countP_eq_zero]
  intro event hevent hterminal
  obtain ⟨before, after, hevents⟩ := List.append_of_mem hevent
  have hafter := h.last before event after hevents hterminal
  rw [hafter] at hevents
  have hnot := hlast event (by rw [hevents, List.getLast?_concat])
  rw [hterminal] at hnot
  cases hnot

theorem terminalOnce_append {events : List MigrationStageEvent} (event : MigrationStageEvent)
    (h : TerminalOnce events)
    (hlast : ∀ event, events.getLast? = some event → event.stage.isTerminal = false) :
    TerminalOnce (events ++ [event]) := by
  have hzero := terminalEvents_eq_zero h hlast
  have hnone : ∀ e ∈ events, e.stage.isTerminal = false := by
    intro e he
    have hcount := List.countP_eq_zero.mp hzero e he
    exact Bool.eq_false_iff.mpr hcount
  constructor
  · have hone : terminalEvents [event] ≤ 1 := List.countP_le_length
    have hsum : terminalEvents (events ++ [event]) = terminalEvents events + terminalEvents [event] :=
      List.countP_append
    omega
  · intro before e after hevents hterminal
    -- a terminal event is not among the old ones, so it is the new one, at the end
    cases hafter : after.reverse with
    | nil => exact List.reverse_eq_nil_iff.mp hafter
    | cons last rest =>
      have hsplit : after = rest.reverse ++ [last] := by
        rw [← List.reverse_reverse after, hafter, List.reverse_cons]
      rw [hsplit, ← List.cons_append, ← List.append_assoc] at hevents
      have hold := (List.append_inj' hevents rfl).1
      have hmem : e ∈ events := by
        rw [hold]
        exact List.mem_append_right _ List.mem_cons_self
      rw [hnone e hmem] at hterminal
      cases hterminal

end MigrationRecord

variable {s : Impl}

/-! ## What every stored migration satisfies -/

/-- The generation of a stored migration is set, and its stage is the one of its last event. -/
structure MigrationRecord.Recorded (r : MigrationRecord) : Prop where
  generationSet : r.generation.isSet = true
  last : ∀ last, r.lastEvent = some last → last.stage = r.stage

theorem MigrationRecord.Recorded.of_validate {r : MigrationRecord} (h : r.validate = .ok ()) :
    r.Recorded :=
  have hvalid := validate_eq_ok.mp h
  ⟨hvalid.header.2.1, hvalid.last⟩

theorem Reachable.recorded (h : Reachable s) :
    ∀ (id : MigrationId) (r : MigrationRecord), s.migrations[id]? = some r → r.Recorded := by
  induction h with
  | new bounds =>
    intro id r hr
    rw [show (Impl.new bounds).migrations = ∅ from rfl, Std.TreeMap.getElem?_emptyc] at hr
    cases hr
  | @next s _ operation ih =>
    intro id r hr
    cases Operation.migrationStep hr with
    | kept hstored c t =>
      have hrecorded := ih id _ hstored
      exact ⟨hrecorded.generationSet, hrecorded.last⟩
    | @published _ _ _ r _ _ haccepts _ c =>
      have hrecorded := MigrationRecord.Recorded.of_validate haccepts.2.1
      exact ⟨hrecorded.generationSet, hrecorded.last⟩
    | @appended clock ctx _ generation stage detail r _ _ _ hstored =>
      constructor
      · rw [MigrationRecord.generation_append]
        exact (ih id r hstored).generationSet
      · intro last hlast
        unfold MigrationRecord.lastEvent at hlast
        rw [MigrationRecord.stageEvents_append, List.getLast?_concat] at hlast
        obtain rfl := Option.some.inj hlast
        exact (MigrationRecord.stage_append ..).symm
    | @restored _ r hrestores hmem _ =>
      have hvalid := ((valid_of_restores hrestores).migrations r hmem).1
      have hrecorded := MigrationRecord.Recorded.of_validate hvalid
      exact ⟨hrecorded.generationSet, hrecorded.last⟩

/-! ## Terminal events -/

/-- The terminal event of every stored migration is recorded once. -/
def Impl.TerminalOnce (s : Impl) : Prop :=
  ∀ (id : MigrationId) (r : MigrationRecord), s.migrations[id]? = some r →
    MigrationRecord.TerminalOnce r.stageEvents

/-- The call brings a migration whose history has more than one terminal event: an accepted record
    of `publish_migration`, or a record of a durable state that is restored. -/
def Operation.RepeatsTerminal (s : Impl) (operation : Operation) : Prop :=
  (∃ clock ctx r check, operation = .submit clock ctx (.publish (.publishMigration r)) ∧
      Admitted s ctx check ∧ AcceptsMigration s ctx r check.duplicateSequence ∧
      1 < MigrationRecord.terminalEvents r.stageEvents) ∨
    ∃ d, operation.restores s = some d ∧
      ∃ r ∈ d.migrations, 1 < MigrationRecord.terminalEvents r.stageEvents

theorem terminalOnce_next (hreachable : Reachable s) (h : s.TerminalOnce) {operation : Operation}
    (hkeeps : ¬operation.RepeatsTerminal s) : (operation.next s).TerminalOnce := by
  intro id r hr
  cases Operation.migrationStep hr with
  | kept hstored c t =>
    have honce := h id _ hstored
    exact honce
  | @published clock ctx check r hsubmit hadmitted haccepts _ c =>
    have hcount : MigrationRecord.terminalEvents r.stageEvents ≤ 1 := by
      by_contra hmany
      exact hkeeps (.inl ⟨clock, ctx, r, check, hsubmit, hadmitted, haccepts, by omega⟩)
    exact MigrationRecord.terminalOnce_of_valid
      (MigrationRecord.validate_eq_ok.mp haccepts.2.1).events hcount
  | @appended clock ctx _ generation stage detail r _ _ haccepts hstored =>
    rw [MigrationRecord.stageEvents_append]
    refine MigrationRecord.terminalOnce_append _ (h id r hstored) ?_
    intro event hevent
    obtain ⟨stored, hstored', -, -, -, -, -, -, hopen, -⟩ := haccepts
    obtain rfl := Option.some.inj (hstored'.symm.trans hstored)
    rw [(hreachable.recorded id stored hstored).last event hevent]
    exact hopen
  | @restored d r hrestores hmem _ =>
    have hcount : MigrationRecord.terminalEvents r.stageEvents ≤ 1 := by
      by_contra hmany
      exact hkeeps (.inr ⟨d, hrestores, r, hmem, by omega⟩)
    have hvalid := ((valid_of_restores hrestores).migrations r hmem).1
    exact MigrationRecord.terminalOnce_of_valid (MigrationRecord.validate_eq_ok.mp hvalid).events
      hcount

/-- An accepted migration is stored with its history. -/
theorem stageEvents_of_published {clock : Clock} {ctx : PublicationContext} {r : MigrationRecord}
    {check : AuthorityCheck} (hadmitted : Admitted s ctx check)
    (haccepts : AcceptsMigration s ctx r check.duplicateSequence) :
    ∃ record, ((Operation.submit clock ctx (.publish (.publishMigration r))).next s).migrations[r.id]? =
      some record ∧ record.stageEvents = r.stageEvents := by
  have hcollections := @collections_of_accepts s clock ctx (.publishMigration r) check hadmitted
    haccepts
  rw [hcollections]
  have hlookup := lookup_recordMigration s clock ctx r r.id
  simp only [if_true] at hlookup
  split at hlookup
  · obtain ⟨c, hc⟩ := (r.accept clock ctx).superseded_eq
    refine ⟨_, hlookup, ?_⟩
    rw [hc]
    rfl
  · exact ⟨_, hlookup, rfl⟩

/-- What was brought is stored, with both terminal events. -/
theorem not_terminalOnce_of_repeats {operation : Operation} (h : operation.RepeatsTerminal s) :
    ¬(operation.next s).TerminalOnce := by
  intro honce
  rcases h with ⟨clock, ctx, r, check, rfl, hadmitted, haccepts, hmany⟩ | ⟨d, hrestores, r, hr, hmany⟩
  · obtain ⟨record, hrecord, hevents⟩ := stageEvents_of_published hadmitted haccepts
    have hcount := (honce r.id record hrecord).once
    rw [hevents] at hcount
    omega
  · have hvalid := valid_of_restores hrestores
    have hlookup := @lookup_restored s d .migration (hvalid.unique .migration (by decide)) r hr
    rw [← next_of_restores hrestores] at hlookup
    have hcount : MigrationRecord.terminalEvents r.stageEvents ≤ 1 := (honce r.id _ hlookup).once
    omega

/-- The terminal event of every stored migration is recorded once, in every state of a run, exactly
    when no call of the run brings a migration that records it twice. -/
theorem terminal_recorded_once_iff (bounds : Bounds) (operations : List Operation) :
    (∀ before, before <+: operations → ((Impl.new bounds).run before).TerminalOnce) ↔
      (Impl.new bounds).Along (fun s operation => ¬operation.RepeatsTerminal s) operations := by
  constructor
  · intro h
    refine Runs.along_iff_before.mpr fun before operation hstart hrepeats => ?_
    have hafter := h (before ++ [operation]) hstart
    rw [Impl.run, Runs.run_concat] at hafter
    exact not_terminalOnce_of_repeats hrepeats hafter
  · intro h before hbefore
    obtain ⟨rest, rfl⟩ := hbefore
    have hempty : (Impl.new bounds).TerminalOnce := by
      intro id r hr
      rw [show (Impl.new bounds).migrations = ∅ from rfl, Std.TreeMap.getElem?_emptyc] at hr
      cases hr
    have hinvariant : Reachable ((Impl.new bounds).run before) ∧
        ((Impl.new bounds).run before).TerminalOnce :=
      Runs.invariant (I := fun s => Reachable s ∧ s.TerminalOnce)
        (fun t operation hkeeps ht => ⟨ht.1.next operation, terminalOnce_next ht.1 ht.2 hkeeps⟩)
        ((Runs.along_append _ _).mp h).1 ⟨Reachable.new bounds, hempty⟩
    exact hinvariant.2

namespace Deployment

/-- A commit event. -/
def commit (sequence : UInt64) : MigrationStageEvent :=
  { generation := ⟨1⟩, stage := .committed, sequence := ⟨sequence⟩ }

/-- A migration that was committed twice. -/
def committedTwice : MigrationRecord :=
  { migration "first" with
    stage := .committed
    outcome := .committed
    stageEvents := [commit 1, commit 2] }

end Deployment

/-- A record with two commit events is accepted and stored. -/
theorem terminal_recorded_twice : ¬∀ s : Impl, Reachable s → s.TerminalOnce := by
  intro h
  have honce := h (Deployment.loaded.run
    [Deployment.publish 8 (.publishMigration Deployment.committedTwice)])
    (Deployment.reachable_loaded.run _)
  have hstored : ((Deployment.loaded.run
      [Deployment.publish 8 (.publishMigration Deployment.committedTwice)]).migrations[
        Deployment.committedTwice.id]?).map
      (fun record => MigrationRecord.terminalEvents record.stageEvents) = some 2 := by
    decide +kernel
  obtain ⟨record, hrecord, hcount⟩ := Option.map_eq_some_iff.mp hstored
  have hle := (honce _ record hrecord).once
  omega

/-! ## Progress -/

/-- The last event of the migration, if there is one, came with a smaller sequence. -/
def MigrationRecord.PrecededBy (r : MigrationRecord) (sequence : Sequence) : Prop :=
  ∀ last, r.lastEvent = some last → last.sequence < sequence

theorem sequenceRegresses_eq_false {r : MigrationRecord} {sequence : Sequence} :
    r.sequenceRegresses sequence = false ↔ r.PrecededBy sequence := by
  unfold MigrationRecord.sequenceRegresses MigrationRecord.PrecededBy
  cases r.lastEvent with
  | none => simp
  | some last =>
    simp only [decide_eq_false_iff_not, Option.some.injEq, forall_eq']
    exact UInt64.not_le

/-- A boot identity with an unused sequence moves an open migration on exactly when the last event
    of the migration came with a smaller sequence, whoever published it. -/
theorem stage_applied_iff (hreachable : Reachable s) (clock : Clock) {ctx : PublicationContext}
    {migration : MigrationId} {r : MigrationRecord} {stage : MigrationStage} (detail : Text)
    {a : PublisherAuthority} (hstored : s.migrations[migration]? = some r)
    (hsuperseded : s.supersededMigrations[r.workload]? ≠ some migration)
    (hretired : r.currentness ≠ .retired) (hopen : r.stage.isTerminal = false)
    (hroom : r.stageEvents.length < maxStageEventsPerMigration)
    (hvalid : ctx.validate = .ok ()) (hregistered : s.publishers[ctx.key]? = some a)
    (hlive : a.live = true ∧ a.fenced = false) (hepoch : ctx.coordinatorEpoch = s.coordinatorEpoch)
    (hsequence : a.watermark < ctx.sequence)
    (htransition : MigrationStage.isValidTransition r.stage stage = true) :
    (publishMigrationStage s clock ctx migration r.generation stage detail).Applied ↔
      r.PrecededBy ctx.sequence := by
  rw [← sequenceRegresses_eq_false]
  constructor
  · intro happlied
    obtain ⟨_, _, -, haccepts, -⟩ := Publication.accepted_of_applied
      (p := .publishMigrationStage migration r.generation stage detail) happlied
    obtain ⟨stored, hstored', -, -, -, -, hregresses, -⟩ := haccepts
    obtain rfl := Option.some.inj (hstored'.symm.trans hstored)
    exact hregresses
  · intro hregresses
    have hadmitted : Admitted s ctx
        ⟨a, ctx.sequence == a.watermark && !a.watermark.isZero⟩ :=
      ⟨hvalid, hregistered, hlive.2, hepoch, UInt64.le_of_lt hsequence, rfl⟩
    have hacceptable : MigrationStage.isAcceptableEvent r.stage stage = true := by
      rw [MigrationStage.isAcceptableEvent, htransition, Bool.or_true]
    have hset := (hreachable.recorded migration r hstored).generationSet
    have haccepts : AcceptsStage s ctx migration r.generation stage :=
      ⟨r, hstored, hset, rfl, hretired, hsuperseded, hregresses, hacceptable, hopen, hroom⟩
    obtain ⟨_, hrun⟩ := @Publication.run_of_accepts s clock ctx
      (.publishMigrationStage migration r.generation stage detail) _ hadmitted haccepts
    change publishMigrationStage s clock ctx migration r.generation stage detail = _ at hrun
    rw [hrun]
    exact ⟨_, rfl, rfl⟩

namespace Deployment

/-- The deployment's publisher after a restart of its process. -/
def restarted (sequence : UInt64) : PublicationContext := { context sequence with boot := ⟨2⟩ }

/-- A migration moved on by the first process, at sequence 9, and its replacement. -/
def handedOver : Impl :=
  loaded.run [publish 8 (.publishMigration (migration "first")),
    stageEvent 9 "first" .sourceQuiescing, .submit {} (restarted 1) .registerPublisher]

theorem reachable_handedOver : Reachable handedOver := reachable_loaded.run _

/-- The migration that was moved on. -/
def moved : MigrationRecord := (handedOver.migrations[(migration "first").id]?).getD {}

theorem lookup_moved : handedOver.migrations[(migration "first").id]? = some moved := by
  decide +kernel

end Deployment

/-- The first process goes on at its next sequence. -/
theorem stage_applied_deployment :
    Deployment.moved.PrecededBy ⟨10⟩ ∧
      (publishMigrationStage Deployment.handedOver {} (Deployment.context 10)
        (Deployment.migration "first").id Deployment.moved.generation .stateCaptured
        []).Applied := by
  have hpreceded : Deployment.moved.PrecededBy ⟨10⟩ :=
    sequenceRegresses_eq_false.mp (by decide +kernel)
  refine ⟨hpreceded, ?_⟩
  exact (stage_applied_iff Deployment.reachable_handedOver {} [] Deployment.lookup_moved
    (by decide +kernel) (by decide +kernel) (by decide +kernel) (by decide +kernel)
    (by decide +kernel)
    (by decide +kernel : Deployment.handedOver.publishers[(Deployment.context 10).key]? =
      some ((Deployment.handedOver.publishers[(Deployment.context 10).key]?).getD {}))
    (by decide +kernel) (by decide +kernel) (by decide +kernel) (by decide +kernel)).mpr hpreceded

/-- The replacement process does not: its own second sequence is smaller than the last event's. -/
theorem stage_refused_after_restart :
    ¬∀ (s : Impl) (clock : Clock) (ctx : PublicationContext) (migration : MigrationId)
      (r : MigrationRecord) (stage : MigrationStage) (detail : Text) (a : PublisherAuthority),
      Reachable s → s.migrations[migration]? = some r →
      s.supersededMigrations[r.workload]? ≠ some migration → r.currentness ≠ .retired →
      r.stage.isTerminal = false → r.stageEvents.length < maxStageEventsPerMigration →
      ctx.validate = .ok () → s.publishers[ctx.key]? = some a → a.live = true ∧ a.fenced = false →
      ctx.coordinatorEpoch = s.coordinatorEpoch → a.watermark < ctx.sequence →
      MigrationStage.isValidTransition r.stage stage = true →
      (publishMigrationStage s clock ctx migration r.generation stage detail).Applied := by
  intro h
  have happlied := h Deployment.handedOver {} (Deployment.restarted 2)
    (Deployment.migration "first").id Deployment.moved .stateCaptured []
    ((Deployment.handedOver.publishers[(Deployment.restarted 2).key]?).getD {})
    Deployment.reachable_handedOver Deployment.lookup_moved (by decide +kernel)
    (by decide +kernel) (by decide +kernel) (by decide +kernel) (by decide +kernel)
    (by decide +kernel) (by decide +kernel) (by decide +kernel) (by decide +kernel)
    (by decide +kernel)
  revert happlied
  decide +kernel

end FederationObservatory
