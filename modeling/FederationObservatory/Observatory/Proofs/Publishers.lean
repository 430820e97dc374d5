import FederationObservatory.Observatory.Proofs.Requests

/-!
# The publisher table over a run

No call but a restore takes an entry out of the publisher table, lowers a watermark or lifts a
fence; a restore replaces the table by the one of its durable state.
-/

namespace FederationObservatory

/-! ## Restores -/

/-- The durable state a call swaps in, if it does. -/
def Operation.restores (s : Impl) : Operation → Option DurableState
  | .restore d =>
    match d.validate s.bounds with
    | .ok () => some d
    | .error _ => none
  | .loadState file =>
    match loadDurableState file s.bounds with
    | .ok d =>
      match d.validate s.bounds with
      | .ok () => some d
      | .error _ => none
    | .error _ => none
  | _ => none

theorem restore_cases (s : Impl) (d : DurableState) :
    ((Operation.restore d).restores s = some d ∧ restore s d = (.ok (), restoredState s d)) ∨
      ((Operation.restore d).restores s = none ∧ (restore s d).2 = s) := by
  simp only [Operation.restores, restore]
  cases d.validate s.bounds with
  | ok u => exact .inl ⟨rfl, rfl⟩
  | error e => exact .inr ⟨rfl, rfl⟩

theorem loadState_cases (s : Impl) (file : Option ByteCodec.Bytes) :
    (∃ d, (Operation.loadState file).restores s = some d ∧
        loadState s file = (.ok (), restoredState s d)) ∨
      ((Operation.loadState file).restores s = none ∧ (loadState s file).2 = s) := by
  simp only [Operation.restores, loadState]
  cases loadDurableState file s.bounds with
  | error e => exact .inr ⟨rfl, rfl⟩
  | ok d =>
    rcases restore_cases s d with ⟨hrestores, hrun⟩ | ⟨hrestores, hrun⟩
    · exact .inl ⟨d, hrestores, hrun⟩
    · exact .inr ⟨hrestores, hrun⟩

theorem loadState_of_restores {t : Impl} {file : Option ByteCodec.Bytes}
    {d : DurableState} (h : (Operation.loadState file).restores t = some d) :
    loadState t file = (.ok (), restoredState t d) := by
  rcases loadState_cases t file with ⟨loaded, hrestores, hrun⟩ | ⟨hrestores, -⟩
  · obtain rfl := Option.some.inj (hrestores.symm.trans h)
    exact hrun
  · cases hrestores.symm.trans h

theorem next_of_restores {s : Impl} {operation : Operation} {d : DurableState}
    (h : operation.restores s = some d) : operation.next s = restoredState s d := by
  cases operation with
  | restore d' =>
    rcases restore_cases s d' with ⟨hrestores, hrun⟩ | ⟨hrestores, -⟩
    · obtain rfl := Option.some.inj (hrestores.symm.trans h)
      exact congrArg Prod.snd hrun
    · cases hrestores.symm.trans h
  | loadState file => exact congrArg Prod.snd (loadState_of_restores h)
  | submit clock ctx request => cases h
  | fencePublisher publisher boot reason => cases h
  | invalidateDynamicEvidence reason => cases h
  | saveState now => cases h

theorem restore_next_of_none {s : Impl} {d : DurableState}
    (h : (Operation.restore d).restores s = none) : (Operation.restore d).next s = s := by
  rcases restore_cases s d with ⟨hrestores, -⟩ | ⟨-, hrun⟩
  · cases hrestores.symm.trans h
  · exact hrun

theorem loadState_next_of_none {s : Impl} {file : Option ByteCodec.Bytes}
    (h : (Operation.loadState file).restores s = none) :
    (Operation.loadState file).next s = s := by
  rcases loadState_cases s file with ⟨d, hrestores, -⟩ | ⟨-, hrun⟩
  · cases hrestores.symm.trans h
  · exact hrun

/-! ## Entries -/

/-- How the entry of one boot identity may change while no restore replaces it. -/
structure PublisherAuthority.Evolves (a b : PublisherAuthority) : Prop where
  publisher : b.publisher = a.publisher
  boot : b.boot = a.boot
  watermark : a.watermark ≤ b.watermark
  fenced : a.fenced = true → b.fenced = true

theorem PublisherAuthority.Evolves.refl (a : PublisherAuthority) : a.Evolves a :=
  ⟨rfl, rfl, UInt64.le_refl _, id⟩

/-- The entry names the key it is stored under. -/
def PublisherAuthority.Names (a : PublisherAuthority) (key : PublisherKey) : Prop :=
  a.publisher = key.publisher ∧ a.boot = key.boot

/-- What a call does to one entry: it evolves, or it is created under its own key. -/
structure EntryStep (key : PublisherKey) (before after : Option PublisherAuthority) : Prop where
  evolves : ∀ a, before = some a → ∃ b, after = some b ∧ a.Evolves b
  names : before = none → ∀ b, after = some b → b.Names key

theorem EntryStep.refl (key : PublisherKey) (o : Option PublisherAuthority) :
    EntryStep key o o :=
  ⟨fun a h => ⟨a, h, .refl a⟩, fun hnone b hsome => by rw [hnone] at hsome; cases hsome⟩

theorem EntryStep.some {key : PublisherKey} {a b : PublisherAuthority} (h : a.Evolves b) :
    EntryStep key (.some a) (.some b) := by
  refine ⟨?_, fun hnone => by cases hnone⟩
  rintro a' ha
  obtain rfl := Option.some.inj ha
  exact ⟨b, rfl, h⟩

theorem EntryStep.of_preserved {s t : Impl} (h : s.Preserved t) (key : PublisherKey) :
    EntryStep key s.publishers[key]? t.publishers[key]? := by
  have hkey := h.publishers key
  cases hs : s.publishers[key]? with
  | none =>
    rw [hs] at hkey
    rw [Option.map_eq_none_iff.mp hkey]
    exact .refl key none
  | some a =>
    rw [hs] at hkey
    obtain ⟨b, hb, hab⟩ := Option.map_eq_some_iff.mp hkey
    rw [hb]
    have hfields := PublisherAuthority.mk.injEq .. |>.mp hab
    exact .some ⟨hfields.1, hfields.2.1, by rw [hfields.2.2.2.2.1]; exact UInt64.le_refl _,
      fun hfenced => by rw [hfields.2.2.2.2.2.2.2.2.2.2.2.2.1]; exact hfenced⟩

/-- The authority that `finish` settles evolves. -/
theorem evolves_settle {a : PublisherAuthority} {clock : Clock} {ctx : PublicationContext}
    {disposition : IngestDisposition} : a.Evolves (a.settle clock ctx disposition) := by
  refine ⟨rfl, rfl, ?_, id⟩
  simp only [PublisherAuthority.settle]
  split
  · rename_i hlt
    exact UInt64.le_of_lt hlt
  · exact UInt64.le_refl _

theorem EntryStep.of_finish {s w : Impl} {clock : Clock} {ctx : PublicationContext}
    {a b : PublisherAuthority} {disposition : IngestDisposition} (detail : Text)
    (hw : w.publishers = s.publishers) (ha : s.publishers[ctx.key]? = .some a)
    (hab : a.Evolves (b.settle clock ctx disposition)) (key : PublisherKey) :
    EntryStep key s.publishers[key]?
      (finish w clock ctx b disposition detail).2.publishers[key]? := by
  rw [finish_publishers]
  split
  · rename_i hkey
    rw [← hkey, ha]
    exact .some hab
  · rw [hw]
    exact .refl key _

/-- What only a restore or a save changes. -/
structure Impl.SameSettings (s t : Impl) : Prop where
  coordinatorEpoch : t.coordinatorEpoch = s.coordinatorEpoch
  bounds : t.bounds = s.bounds
  saveSequence : t.saveSequence = s.saveSequence
  aggregateFindings : t.aggregateFindings = s.aggregateFindings

theorem Impl.Preserved.settings {s t : Impl} (h : s.Preserved t) : s.SameSettings t :=
  ⟨h.coordinatorEpoch, h.bounds, h.saveSequence, h.aggregateFindings⟩

/-- What a write of records leaves alone. -/
structure Impl.SameControl (s t : Impl) : Prop extends Impl.SameSettings s t where
  publishers : t.publishers = s.publishers

theorem Publication.written_control (s : Impl) (clock : Clock) (ctx : PublicationContext)
    (p : Publication) : s.SameControl (p.written s clock ctx) := by
  cases p with
  | registerCluster r =>
    simp only [written, Impl.registerCluster]
    split <;> exact ⟨⟨rfl, rfl, rfl, rfl⟩, rfl⟩
  | retireCluster cluster generation reason =>
    simp only [written]
    split <;> exact ⟨⟨rfl, rfl, rfl, rfl⟩, rfl⟩
  | publishCapability cluster clusterGeneration generation capabilities =>
    simp only [written, Impl.storeAdvanced]
    split
    · split <;> exact ⟨⟨rfl, rfl, rfl, rfl⟩, rfl⟩
    · exact ⟨⟨rfl, rfl, rfl, rfl⟩, rfl⟩
  | publishCapacity cluster clusterGeneration generation pools =>
    simp only [written]
    split <;> exact ⟨⟨rfl, rfl, rfl, rfl⟩, rfl⟩
  | publishMigration r =>
    simp only [written, Impl.recordMigration]
    split <;> exact ⟨⟨rfl, rfl, rfl, rfl⟩, rfl⟩
  | publishMigrationStage migration generation stage detail =>
    simp only [written]
    split <;> exact ⟨⟨rfl, rfl, rfl, rfl⟩, rfl⟩
  | _ => exact ⟨⟨rfl, rfl, rfl, rfl⟩, rfl⟩

theorem EntryStep.of_submit (s : Impl) (clock : Clock) (ctx : PublicationContext)
    (request : Request) (key : PublisherKey) :
    EntryStep key s.publishers[key]? (request.run s clock ctx).state.publishers[key]? := by
  cases request with
  | publish p =>
    simp only [Request.run]
    rcases p.run_cases s clock ctx with
      ⟨r, hrun, hr⟩ | ⟨check, _, detail, hadmitted, -, hrun⟩ |
        ⟨check, detail, hadmitted, -, hrun⟩
    · rw [hrun]
      exact .of_preserved hr key
    · rw [hrun]
      exact .of_finish detail rfl hadmitted.registered evolves_settle key
    · rw [hrun]
      exact .of_finish detail (p.written_control s clock ctx).publishers hadmitted.registered
        evolves_settle key
  | registerPublisher =>
    simp only [Request.run]
    rcases registerPublisher_cases s clock ctx with
      ⟨r, hrun, hr⟩ | ⟨check, detail, hadmitted, hrun⟩ | ⟨r, -, hunknown, -, -, hrun⟩
    · rw [hrun]
      exact .of_preserved hr key
    · rw [hrun]
      have hrevive : check.authority.Evolves
          ((check.authority.revive ctx).settle clock ctx .duplicate) :=
        ⟨rfl, rfl, (evolves_settle : check.authority.Evolves
          (check.authority.settle clock ctx .duplicate)).watermark, id⟩
      exact .of_finish detail rfl hadmitted.registered hrevive key
    · rw [hrun]
      simp only [Outcome.state, Impl.withPublisher, Std.TreeMap.getElem?_insert,
        Std.LawfulEqOrd.compare_eq_iff_eq]
      split
      · rename_i hkey
        rw [← hkey, hunknown]
        refine ⟨fun a ha => by (cases ha), fun _ b hb => ?_⟩
        obtain rfl := Option.some.inj hb
        exact ⟨rfl, rfl⟩
      · exact .refl key _

/-- A fence is refused, recorded for an unknown boot identity, or applied to a registered one. -/
theorem fencePublisher_cases (s : Impl) (publisher : PublisherId) (boot : BootGeneration)
    (reason : Text) :
    (∃ e, fencePublisher s publisher boot reason = (.error e, s)) ∨
      (s.publishers[(⟨publisher, boot⟩ : PublisherKey)]? = none ∧
        fencePublisher s publisher boot reason =
          (.ok (), s.recordFence ⟨publisher, boot⟩ reason)) ∨
      ∃ a, s.publishers[(⟨publisher, boot⟩ : PublisherKey)]? = some a ∧
        fencePublisher s publisher boot reason =
          (.ok (), s.applyFence ⟨publisher, boot⟩ a reason) := by
  unfold fencePublisher
  split
  · exact .inl ⟨_, rfl⟩
  · simp only
    cases s.publishers[(⟨publisher, boot⟩ : PublisherKey)]? with
    | none => exact .inr (.inl ⟨rfl, rfl⟩)
    | some a => exact .inr (.inr ⟨a, rfl, rfl⟩)

theorem evolves_fence (a : PublisherAuthority) (reason : Text) : a.Evolves (a.fence reason) := by
  unfold PublisherAuthority.fence
  split
  · exact ⟨rfl, rfl, UInt64.le_refl _, id⟩
  · exact ⟨rfl, rfl, UInt64.le_refl _, fun _ => rfl⟩

theorem EntryStep.of_fence (s : Impl) (publisher : PublisherId) (boot : BootGeneration)
    (reason : Text) (key : PublisherKey) :
    EntryStep key s.publishers[key]?
      (fencePublisher s publisher boot reason).2.publishers[key]? := by
  rcases fencePublisher_cases s publisher boot reason with
    ⟨e, hrun⟩ | ⟨hunknown, hrun⟩ | ⟨a, hknown, hrun⟩
  · rw [hrun]
    exact .refl key _
  · rw [hrun]
    simp only [Impl.recordFence, Std.TreeMap.getElem?_insert, Std.LawfulEqOrd.compare_eq_iff_eq]
    split
    · rename_i hkey
      rw [← hkey, hunknown]
      refine ⟨fun a ha => by (cases ha), fun _ b hb => ?_⟩
      obtain rfl := Option.some.inj hb
      exact ⟨rfl, rfl⟩
    · exact .refl key _
  · rw [hrun]
    simp only [Impl.applyFence, Std.TreeMap.getElem?_insert, Std.LawfulEqOrd.compare_eq_iff_eq]
    split
    · rename_i hkey
      rw [← hkey, hknown]
      exact .some (evolves_fence a reason)
    · exact .refl key _

/-- No call but a restore takes an entry out, lowers a watermark or lifts a fence. -/
theorem Operation.entryStep {s : Impl} (operation : Operation)
    (h : operation.restores s = none) (key : PublisherKey) :
    EntryStep key s.publishers[key]? (operation.next s).publishers[key]? := by
  cases operation with
  | submit clock ctx request => exact .of_submit s clock ctx request key
  | fencePublisher publisher boot reason => exact .of_fence s publisher boot reason key
  | invalidateDynamicEvidence reason =>
    simp only [next, FederationObservatory.invalidateDynamicEvidence, Std.TreeMap.getElem?_map]
    cases hkey : s.publishers[key]? with
    | none => exact .refl key none
    | some a =>
      refine .some ?_
      simp only [PublisherAuthority.invalidated]
      split
      · exact .refl a
      · exact ⟨rfl, rfl, UInt64.le_refl _, id⟩
  | saveState now => exact .refl key _
  | loadState file =>
    rw [loadState_next_of_none h]
    exact .refl key _
  | restore d =>
    rw [restore_next_of_none h]
    exact .refl key _

/-! ## Epoch and bounds -/

/-- A request changes neither the coordinator epoch nor the bounds. -/
theorem Request.run_settings (s : Impl) (clock : Clock) (ctx : PublicationContext)
    (request : Request) : s.SameSettings (request.run s clock ctx).state := by
  cases request with
  | publish p =>
    simp only [run]
    rcases p.run_cases s clock ctx with
      ⟨r, hrun, hr⟩ | ⟨_, _, _, -, -, hrun⟩ | ⟨_, _, -, -, hrun⟩
    · rw [hrun]
      exact hr.settings
    · rw [hrun]
      exact ⟨rfl, rfl, rfl, rfl⟩
    · rw [hrun]
      obtain ⟨hepoch, hbounds, hsequence, hfindings⟩ :=
        (p.written_control s clock ctx).toSameSettings
      exact ⟨hepoch, hbounds, hsequence, hfindings⟩
  | registerPublisher =>
    simp only [run]
    rcases registerPublisher_cases s clock ctx with
      ⟨r, hrun, hr⟩ | ⟨_, _, -, hrun⟩ | ⟨_, -, -, -, -, hrun⟩
    · rw [hrun]
      exact hr.settings
    · rw [hrun]
      exact ⟨rfl, rfl, rfl, rfl⟩
    · rw [hrun]
      exact ⟨rfl, rfl, rfl, rfl⟩

theorem fencePublisher_settings (s : Impl) (publisher : PublisherId) (boot : BootGeneration)
    (reason : Text) : s.SameSettings (fencePublisher s publisher boot reason).2 := by
  rcases fencePublisher_cases s publisher boot reason with ⟨e, hrun⟩ | ⟨-, hrun⟩ | ⟨a, -, hrun⟩ <;>
    rw [hrun] <;> exact ⟨rfl, rfl, rfl, rfl⟩

/-- No call but a restore changes the coordinator epoch. -/
theorem coordinatorEpoch_next {s : Impl} {operation : Operation}
    (h : operation.restores s = none) :
    (operation.next s).coordinatorEpoch = s.coordinatorEpoch := by
  cases operation with
  | submit clock ctx request => exact (request.run_settings s clock ctx).coordinatorEpoch
  | fencePublisher publisher boot reason =>
    exact (fencePublisher_settings s publisher boot reason).coordinatorEpoch
  | invalidateDynamicEvidence reason => rfl
  | saveState now => rfl
  | loadState file => rw [loadState_next_of_none h]
  | restore d => rw [restore_next_of_none h]

/-- The bounds are those of the construction. -/
theorem bounds_next (s : Impl) (operation : Operation) : (operation.next s).bounds = s.bounds := by
  cases hrestores : operation.restores s with
  | some d =>
    rw [next_of_restores hrestores]
    rfl
  | none =>
    cases operation with
    | submit clock ctx request => exact (request.run_settings s clock ctx).bounds
    | fencePublisher publisher boot reason =>
      exact (fencePublisher_settings s publisher boot reason).bounds
    | invalidateDynamicEvidence reason => rfl
    | saveState now => rfl
    | loadState file => rw [loadState_next_of_none hrestores]
    | restore d => rw [restore_next_of_none hrestores]

theorem Reachable.validate_bounds {s : Impl} (h : Reachable s) : s.bounds.validate = .ok () := by
  induction h with
  | new bounds => exact Impl.validate_bounds_new bounds
  | next _ operation ih => rw [bounds_next, ih]

/-! ## Keys -/

/-- Every entry of the publisher table names the key it is stored under. -/
def Impl.Keyed (s : Impl) : Prop :=
  ∀ (key : PublisherKey) (a : PublisherAuthority), s.publishers[key]? = some a → a.Names key

theorem keyed_restoredState (s : Impl) (d : DurableState) : (restoredState s d).Keyed := by
  intro key a ha
  obtain ⟨watermark, -, rfl, rfl⟩ := Tables.exists_of_emplaceAll ha
  exact ⟨rfl, rfl⟩

theorem Impl.Keyed.next {s : Impl} (h : s.Keyed) (operation : Operation) :
    (operation.next s).Keyed := by
  cases hrestores : operation.restores s with
  | some d =>
    rw [next_of_restores hrestores]
    exact keyed_restoredState s d
  | none =>
    intro key b hb
    have hstep := operation.entryStep hrestores key
    cases hbefore : s.publishers[key]? with
    | none => exact hstep.names hbefore b hb
    | some a =>
      obtain ⟨b', hb', hevolves⟩ := hstep.evolves a hbefore
      obtain rfl := Option.some.inj (hb'.symm.trans hb)
      have hnames := h key a hbefore
      exact ⟨hevolves.publisher.trans hnames.1, hevolves.boot.trans hnames.2⟩

theorem Reachable.keyed {s : Impl} (h : Reachable s) : s.Keyed := by
  induction h with
  | new bounds =>
    intro key a ha
    rw [show (Impl.new bounds).publishers = ∅ from rfl, Std.TreeMap.getElem?_emptyc] at ha
    cases ha
  | next _ operation ih => exact ih.next operation

end FederationObservatory
