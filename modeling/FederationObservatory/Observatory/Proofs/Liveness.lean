import FederationObservatory.Observatory.Proofs.Publishers

/-!
# Liveness of publishers

`Current` is documented as evidence published by a live publisher of the current epoch. Liveness is
lost by a restore and by an invalidation and is given by `register_publisher`; but the gate does
not ask for it. This module says which publications are applied for a live publisher.
-/

namespace FederationObservatory

variable {s : Impl} {key : PublisherKey}

/-! ## Registration since the last reset -/

/-- The call takes liveness away from every boot identity. -/
def Operation.Resets (s : Impl) : Operation → Prop
  | .invalidateDynamicEvidence _ => True
  | operation => operation.restores s ≠ none

/-- The call registers the boot identity under the current epoch. -/
def Operation.Registers (key : PublisherKey) (s : Impl) : Operation → Prop
  | .submit clock ctx .registerPublisher =>
    ctx.key = key ∧ ctx.coordinatorEpoch = s.coordinatorEpoch ∧
      ∃ r, (registerPublisher s clock ctx).result = .ok r
  | _ => False

/-- The boot identity registered under the epoch that was current then, and nothing took liveness
    away since. -/
def Impl.RegisteredSince (start : Impl) (operations : List Operation) (key : PublisherKey) : Prop :=
  ∃ before registration after, operations = before ++ registration :: after ∧
    Operation.Registers key (start.run before) registration ∧
    (start.run (before ++ [registration])).Along (fun s operation => ¬operation.Resets s) after

/-- The last call registers the boot identity, or it was registered before it and the call does not
    reset. -/
theorem registeredSince_concat {start : Impl} {operations : List Operation}
    {operation : Operation} :
    start.RegisteredSince (operations ++ [operation]) key ↔
      Operation.Registers key (start.run operations) operation ∨
        (start.RegisteredSince operations key ∧ ¬operation.Resets (start.run operations)) := by
  constructor
  · rintro ⟨before, registration, after, hoperations, hregisters, halong⟩
    rcases List.eq_nil_or_concat' after with rfl | ⟨after, last, rfl⟩
    · obtain ⟨rfl, hlast⟩ := List.append_inj' hoperations rfl
      obtain rfl : operation = registration := by simpa using hlast
      exact .inl hregisters
    · have hsplit : operations ++ [operation] = (before ++ registration :: after) ++ [last] := by
        simpa using hoperations
      obtain ⟨rfl, hlast⟩ := List.append_inj' hsplit rfl
      obtain rfl : operation = last := by simpa using hlast
      obtain ⟨halong, hresets, -⟩ := (Runs.along_append _ _).mp halong
      refine .inr ⟨⟨before, registration, after, rfl, hregisters, halong⟩, ?_⟩
      rw [Impl.run, ← Runs.run_append, List.append_assoc] at hresets
      exact hresets
  · rintro (hregisters | ⟨⟨before, registration, after, rfl, hregisters, halong⟩, hresets⟩)
    · exact ⟨operations, operation, [], rfl, hregisters, trivial⟩
    · refine ⟨before, registration, after ++ [operation], by simp, hregisters, ?_⟩
      refine (Runs.along_append _ _).mpr ⟨halong, ?_, trivial⟩
      rw [Impl.run, ← Runs.run_append, List.append_assoc]
      exact hresets

/-! ## What a call does to liveness -/

theorem restores_of_not_resets {operation : Operation} (h : ¬operation.Resets s) :
    operation.restores s = none := by
  cases operation with
  | loadState file => simpa [Operation.Resets] using h
  | restore d => simpa [Operation.Resets] using h
  | _ => rfl

/-- What of an authority decides whether it is live under an epoch. -/
def PublisherAuthority.SameStanding (a b : PublisherAuthority) : Prop :=
  b.fenced = a.fenced ∧ b.live = a.live ∧ b.epoch = a.epoch

/-- How an unfenced entry may come about by a call that does not reset: the call registered it under
    the current epoch; or the entry was there with the same standing; or it was created under
    another epoch. -/
inductive StandingStep (key : PublisherKey) (s : Impl) (operation : Operation)
    (b : PublisherAuthority) : Prop where
  | registered (h : operation.Registers key s) (hlive : b.live = true)
      (hepoch : b.epoch = s.coordinatorEpoch)
  | kept (h : ¬operation.Registers key s) {a : PublisherAuthority}
      (ha : s.publishers[key]? = some a) (hab : a.SameStanding b)
  | created (h : ¬operation.Registers key s) (hunknown : s.publishers[key]? = none)
      (hepoch : b.epoch ≠ s.coordinatorEpoch)

theorem StandingStep.of_preserved {operation : Operation} {t : Impl} {b : PublisherAuthority}
    (h : ¬operation.Registers key s) (hpreserved : s.Preserved t)
    (hb : t.publishers[key]? = some b) : StandingStep key s operation b := by
  have hlookup := hpreserved.lookup (fun a => (a.fenced, a.live, a.epoch)) (fun _ => rfl) key
  rw [hb] at hlookup
  obtain ⟨a, ha, hab⟩ := Option.map_eq_some_iff.mp hlookup.symm
  obtain ⟨hfenced, hlive, hepoch⟩ := by simpa only [Prod.mk.injEq] using hab
  exact .kept h ha ⟨hfenced.symm, hlive.symm, hepoch.symm⟩

theorem StandingStep.of_finish {operation : Operation} {w : Impl} {clock : Clock}
    {ctx : PublicationContext} {a b : PublisherAuthority} {disposition : IngestDisposition}
    (detail : Text) (h : ¬operation.Registers key s) (hw : w.publishers = s.publishers)
    (ha : s.publishers[ctx.key]? = some a)
    (hb : (finish w clock ctx a disposition detail).2.publishers[key]? = some b) :
    StandingStep key s operation b := by
  rw [finish_publishers] at hb
  split at hb
  · rename_i hkey
    obtain rfl := Option.some.inj hb
    rw [hkey] at ha
    exact .kept h ha ⟨rfl, rfl, rfl⟩
  · rw [hw] at hb
    exact .kept h hb ⟨rfl, rfl, rfl⟩

theorem StandingStep.of_publish {clock : Clock} {ctx : PublicationContext} {p : Publication}
    {b : PublisherAuthority}
    (hb : ((Operation.submit clock ctx (.publish p)).next s).publishers[key]? = some b) :
    StandingStep key s (.submit clock ctx (.publish p)) b := by
  simp only [Operation.next, Request.run] at hb
  rcases p.run_cases s clock ctx with
    ⟨r, hrun, hr⟩ | ⟨check, _, detail, hadmitted, -, hrun⟩ | ⟨check, detail, hadmitted, -, hrun⟩
  · rw [hrun] at hb
    exact .of_preserved id hr hb
  · rw [hrun] at hb
    exact .of_finish detail id rfl hadmitted.registered hb
  · rw [hrun] at hb
    exact .of_finish detail id (p.written_control s clock ctx).publishers hadmitted.registered hb

theorem StandingStep.of_registerPublisher {clock : Clock} {ctx : PublicationContext}
    {b : PublisherAuthority}
    (hb : ((Operation.submit clock ctx .registerPublisher).next s).publishers[key]? = some b) :
    StandingStep key s (.submit clock ctx .registerPublisher) b := by
  simp only [Operation.next, Request.run] at hb
  rcases registerPublisher_cases s clock ctx with
    ⟨r, hrun, hr⟩ | ⟨check, detail, hadmitted, hrun⟩ | ⟨r, -, hunknown, -, -, hrun⟩
  · rw [hrun] at hb
    refine .of_preserved ?_ hr hb
    rintro ⟨-, -, r', hr'⟩
    rw [hrun] at hr'
    cases hr'
  · rw [hrun, Outcome.state, finish_publishers] at hb
    split at hb
    · rename_i hkey
      obtain rfl := Option.some.inj hb
      refine .registered ⟨hkey, hadmitted.epoch, ?_⟩ rfl hadmitted.epoch
      rw [hrun]
      exact ⟨_, rfl⟩
    · rename_i hkey
      exact .kept (fun h => hkey h.1) hb ⟨rfl, rfl, rfl⟩
  · rw [hrun] at hb
    simp only [Outcome.state, Impl.withPublisher, Std.TreeMap.getElem?_insert,
      Std.LawfulEqOrd.compare_eq_iff_eq] at hb
    split at hb
    · rename_i hkey
      obtain rfl := Option.some.inj hb
      by_cases hepoch : ctx.coordinatorEpoch = s.coordinatorEpoch
      · refine .registered ⟨hkey, hepoch, ?_⟩ rfl hepoch
        rw [hrun]
        exact ⟨_, rfl⟩
      · -- the registration of an unknown boot identity does not look at the epoch
        refine .created (fun h => hepoch h.2.1) ?_ hepoch
        rw [← hkey, hunknown]
    · rename_i hkey
      exact .kept (fun h => hkey h.1) hb ⟨rfl, rfl, rfl⟩

theorem StandingStep.of_fence {publisher : PublisherId} {boot : BootGeneration} {reason : Text}
    {b : PublisherAuthority}
    (hb : ((Operation.fencePublisher publisher boot reason).next s).publishers[key]? = some b)
    (hfenced : b.fenced = false) :
    StandingStep key s (.fencePublisher publisher boot reason) b := by
  simp only [Operation.next] at hb
  rcases fencePublisher_cases s publisher boot reason with
    ⟨e, hrun⟩ | ⟨-, hrun⟩ | ⟨a, -, hrun⟩
  · rw [hrun] at hb
    exact .kept id hb ⟨rfl, rfl, rfl⟩
  · rw [hrun] at hb
    simp only [Impl.recordFence, Std.TreeMap.getElem?_insert,
      Std.LawfulEqOrd.compare_eq_iff_eq] at hb
    split at hb
    · rw [← Option.some.inj hb] at hfenced
      cases hfenced
    · exact .kept id hb ⟨rfl, rfl, rfl⟩
  · rw [hrun] at hb
    simp only [Impl.applyFence, Std.TreeMap.getElem?_insert,
      Std.LawfulEqOrd.compare_eq_iff_eq] at hb
    split at hb
    · rw [← Option.some.inj hb, PublisherAuthority.fence] at hfenced
      split at hfenced
      · rename_i htrue
        exact absurd (hfenced.symm.trans htrue) (by decide)
      · cases hfenced
    · exact .kept id hb ⟨rfl, rfl, rfl⟩

theorem Operation.standingStep {operation : Operation} (hresets : ¬operation.Resets s)
    {b : PublisherAuthority} (hb : (operation.next s).publishers[key]? = some b)
    (hfenced : b.fenced = false) : StandingStep key s operation b := by
  have hrestores := restores_of_not_resets hresets
  cases operation with
  | submit clock ctx request =>
    cases request with
    | registerPublisher => exact .of_registerPublisher hb
    | publish p => exact .of_publish hb
  | fencePublisher publisher boot reason => exact .of_fence hb hfenced
  | invalidateDynamicEvidence reason => exact absurd trivial hresets
  | saveState now => exact .kept id hb ⟨rfl, rfl, rfl⟩
  | loadState file =>
    rw [loadState_next_of_none hrestores] at hb
    exact .kept id hb ⟨rfl, rfl, rfl⟩
  | restore d =>
    rw [restore_next_of_none hrestores] at hb
    exact .kept id hb ⟨rfl, rfl, rfl⟩

/-- After a reset no unfenced boot identity is live. -/
theorem not_live_of_resets {operation : Operation} (hresets : operation.Resets s)
    {b : PublisherAuthority} (hb : (operation.next s).publishers[key]? = some b)
    (hfenced : b.fenced = false) : b.live = false := by
  cases hrestores : operation.restores s with
  | some d =>
    rw [next_of_restores hrestores] at hb
    obtain ⟨w, -, -, rfl⟩ := Tables.exists_of_emplaceAll hb
    rfl
  | none =>
    cases operation with
    | invalidateDynamicEvidence reason =>
      simp only [Operation.next, invalidateDynamicEvidence, Std.TreeMap.getElem?_map] at hb
      obtain ⟨a, -, rfl⟩ := Option.map_eq_some_iff.mp hb
      unfold PublisherAuthority.invalidated at hfenced ⊢
      split at hfenced
      · rename_i htrue
        exact absurd (hfenced.symm.trans htrue) (by decide)
      · simp [*]
    | _ => exact absurd hrestores hresets

/-! ## Runs -/

/-- What registration since the last reset says about the publisher table after a run. -/
structure Impl.Standing (start : Impl) (operations : List Operation) (key : PublisherKey) :
    Prop where
  known : start.RegisteredSince operations key →
    ∃ a, (start.run operations).publishers[key]? = some a
  live : ∀ a, (start.run operations).publishers[key]? = some a → a.fenced = false →
    ((a.live = true ∧ a.epoch = (start.run operations).coordinatorEpoch) ↔
      start.RegisteredSince operations key)

theorem not_resets_of_registers {operation : Operation} (h : operation.Registers key s) :
    ¬operation.Resets s := by
  cases operation with
  | submit clock ctx request => exact fun hresets => hresets rfl
  | _ => exact absurd h id

theorem registered_known {clock : Clock} {ctx : PublicationContext} {r : IngestResult}
    (h : (registerPublisher s clock ctx).result = .ok r) :
    ∃ a, (registerPublisher s clock ctx).state.publishers[ctx.key]? = some a := by
  rcases registerPublisher_cases s clock ctx with
    ⟨_, hrun, -⟩ | ⟨_, _, -, hrun⟩ | ⟨_, -, -, -, -, hrun⟩
  · rw [hrun] at h
    cases h
  · rw [hrun, Outcome.state, finish_publishers, if_pos rfl]
    exact ⟨_, rfl⟩
  · rw [hrun]
    exact ⟨_, Std.TreeMap.getElem?_insert_self⟩

theorem Impl.Standing.concat {start : Impl} {operations : List Operation}
    (h : start.Standing operations key) (operation : Operation) :
    start.Standing (operations ++ [operation]) key := by
  have hrun : start.run (operations ++ [operation]) = operation.next (start.run operations) :=
    Runs.run_concat operation
  constructor
  · intro hsince
    rw [hrun]
    rcases registeredSince_concat.mp hsince with hregisters | ⟨hsince, hresets⟩
    · cases operation with
      | submit clock ctx request =>
        cases request with
        | registerPublisher =>
          obtain ⟨rfl, -, r, hr⟩ := hregisters
          exact registered_known hr
        | publish p => exact absurd hregisters id
      | _ => exact absurd hregisters id
    · obtain ⟨a, ha⟩ := h.known hsince
      obtain ⟨b, hb, -⟩ :=
        (operation.entryStep (restores_of_not_resets hresets) key).evolves a ha
      exact ⟨b, hb⟩
  · intro b hb hfenced
    rw [hrun] at hb ⊢
    rw [registeredSince_concat]
    by_cases hresets : operation.Resets (start.run operations)
    · simp only [not_live_of_resets hresets hb hfenced, Bool.false_eq_true, false_and, hresets,
        not_true_eq_false, and_false, or_false, false_iff]
      exact fun hregisters => not_resets_of_registers hregisters hresets
    · rw [coordinatorEpoch_next (restores_of_not_resets hresets)]
      cases Operation.standingStep hresets hb hfenced with
      | registered hregisters hlive hepoch =>
        exact ⟨fun _ => .inl hregisters, fun _ => ⟨hlive, hepoch⟩⟩
      | kept hregisters ha hab =>
        obtain ⟨hsame, hlive, hepoch⟩ := hab
        rw [hlive, hepoch, h.live _ ha (hsame.symm.trans hfenced)]
        simp only [hregisters, hresets, not_false_eq_true, and_true, false_or]
      | created hregisters hunknown hepoch =>
        constructor
        · exact fun hlive => absurd hlive.2 hepoch
        · rintro (hregisters' | ⟨hsince, -⟩)
          · exact absurd hregisters' hregisters
          · obtain ⟨a, ha⟩ := h.known hsince
            rw [hunknown] at ha
            cases ha

end FederationObservatory
