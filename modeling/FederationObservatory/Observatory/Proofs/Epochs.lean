import FederationObservatory.Observatory.Proofs.Publishers

/-!
# Coordinator epochs

A restore takes the epoch after the one its durable state was written under, whatever epoch the
observatory was at. This module says for which restores that is an advance, and what an advance
gives: a publication of an earlier epoch is refused for ever.
-/

namespace FederationObservatory

variable {s : Impl}

/-! ## One restore -/

/-- The epoch of a restore is above the one its state was written under, unless that is the
    largest one. -/
theorem lt_nextEpoch_iff (d : DurableState) :
    d.writtenByEpoch < d.nextEpoch ↔ d.writtenByEpoch.value ≠ 0xFFFFFFFFFFFFFFFF := by
  unfold DurableState.nextEpoch
  split
  · exact Generation.lt_next_iff _
  · rename_i hset
    have hzero : d.writtenByEpoch.value = 0 := by simpa [Generation.isSet] using hset
    simp [Generation.lt_def, hzero]

/-- It is above another epoch exactly when that is not above the one the state was written
    under. -/
theorem lt_nextEpoch_iff_le {d : DurableState}
    (h : d.writtenByEpoch.value ≠ 0xFFFFFFFFFFFFFFFF) (epoch : CoordinatorEpoch) :
    epoch < d.nextEpoch ↔ epoch ≤ d.writtenByEpoch := by
  unfold DurableState.nextEpoch
  split
  · exact Generation.lt_next_iff_le h epoch
  · rename_i hset
    have hzero : d.writtenByEpoch.value = 0 := by simpa [Generation.isSet] using hset
    rw [Generation.lt_def, Generation.le_def, hzero, UInt64.lt_iff_toNat_lt,
      UInt64.le_iff_toNat_le]
    exact Nat.lt_succ_iff

/-! ## Runs -/

/-- If the call restores a state, that state was not written under an epoch below the current one,
    nor under the largest one. -/
def Operation.KeepsEpochs (s : Impl) (operation : Operation) : Prop :=
  ∀ d, operation.restores s = some d →
    s.coordinatorEpoch ≤ d.writtenByEpoch ∧ d.writtenByEpoch.value ≠ 0xFFFFFFFFFFFFFFFF

/-- After every restore of a run the epoch is above the one the restored state was written under
    and above every epoch before, and from then on a publication under one of these is refused. -/
def Impl.RestoresSupersede (start : Impl) (operations : List Operation) : Prop :=
  ∀ (before : List Operation) (operation : Operation) (d : DurableState),
    before ++ [operation] <+: operations → operation.restores (start.run before) = some d →
    d.writtenByEpoch < (start.run (before ++ [operation])).coordinatorEpoch ∧
      ∀ earlier, earlier <+: before →
        (start.run earlier).coordinatorEpoch <
            (start.run (before ++ [operation])).coordinatorEpoch ∧
          ∀ later, before ++ [operation] <+: later → later <+: operations →
            ∀ (clock : Clock) (ctx : PublicationContext) (p : Publication),
              ctx.coordinatorEpoch = (start.run earlier).coordinatorEpoch →
              ∃ e, (p.run (start.run later) clock ctx).result = .error e

theorem coordinatorEpoch_le_next {operation : Operation} (h : operation.KeepsEpochs s) :
    s.coordinatorEpoch.value.toNat ≤ (operation.next s).coordinatorEpoch.value.toNat := by
  cases hrestores : operation.restores s with
  | none => rw [coordinatorEpoch_next hrestores]
  | some d =>
    obtain ⟨hle, hmax⟩ := h d hrestores
    rw [next_of_restores hrestores]
    exact UInt64.le_iff_toNat_le.mp
      (Generation.le_of_lt ((lt_nextEpoch_iff_le hmax s.coordinatorEpoch).mpr hle))

/-- No restore re-admits an old epoch exactly when every restored state was written under an epoch
    that is not below the current one and not the largest one. -/
theorem restores_supersede_iff (bounds : Bounds) (operations : List Operation) :
    (Impl.new bounds).RestoresSupersede operations ↔
      (Impl.new bounds).Along (fun s operation => operation.KeepsEpochs s) operations := by
  generalize Impl.new bounds = start
  have hafter : ∀ {before : List Operation} {operation : Operation} {d : DurableState},
      operation.restores (start.run before) = some d →
      (start.run (before ++ [operation])).coordinatorEpoch = d.nextEpoch := by
    intro before operation d hrestores
    rw [Impl.run, Runs.run_concat, ← Impl.run, next_of_restores hrestores]
    rfl
  constructor
  · intro h
    refine Runs.along_iff_before.mpr fun before operation hstart d hrestores => ?_
    obtain ⟨hwritten, hearlier⟩ := h before operation d hstart hrestores
    have hcurrent := (hearlier before (List.prefix_refl _)).1
    rw [hafter hrestores] at hwritten hcurrent
    have hmax := (lt_nextEpoch_iff d).mp hwritten
    exact ⟨(lt_nextEpoch_iff_le hmax _).mp hcurrent, hmax⟩
  · intro h before operation d hstart hrestores
    obtain ⟨hle, hmax⟩ := Runs.along_iff_before.mp h before operation hstart d hrestores
    have hmonotone : ∀ {l l' : List Operation}, l <+: l' → l' <+: operations →
        (start.run l).coordinatorEpoch ≤ (start.run l').coordinatorEpoch := by
      intro l l' hl hl'
      exact UInt64.le_iff_toNat_le.mpr (Runs.monotone
        (fun t : Impl => t.coordinatorEpoch.value.toNat) (fun _ _ => coordinatorEpoch_le_next) h
        hl hl')
    have hbefore : before <+: operations :=
      (List.prefix_append before [operation]).trans hstart
    have hless : ∀ earlier, earlier <+: before → (start.run earlier).coordinatorEpoch <
        (start.run (before ++ [operation])).coordinatorEpoch := by
      intro earlier hearlier
      rw [hafter hrestores, lt_nextEpoch_iff_le hmax]
      exact Generation.le_trans (hmonotone hearlier hbefore) hle
    refine ⟨?_, fun earlier hearlier => ⟨hless earlier hearlier, ?_⟩⟩
    · rw [hafter hrestores]
      exact (lt_nextEpoch_iff d).mpr hmax
    · intro later hlater hlater' clock ctx p hctx
      have hstale : ctx.coordinatorEpoch ≠ (start.run later).coordinatorEpoch := by
        intro heq
        rw [hctx] at heq
        have hlt := UInt64.lt_of_lt_of_le (hless earlier hearlier) (hmonotone hlater hlater')
        rw [heq] at hlt
        exact UInt64.lt_irrefl _ hlt
      obtain ⟨r, hrun, -⟩ := @publication_error_of_staleEpoch _ clock ctx p hstale
      exact ⟨r.1, by rw [hrun]; rfl⟩

/-- An older durable state takes the observatory back: after a restore of a state of epoch 5 it is
    at epoch 6, and after one of epoch 1 it is at epoch 2. -/
theorem restore_readmits_epoch :
    ¬∀ (bounds : Bounds) (operations : List Operation),
      (Impl.new bounds).RestoresSupersede operations := by
  intro h
  let first : Operation := .restore { writtenByEpoch := ⟨5⟩ }
  let second : Operation := .restore { writtenByEpoch := ⟨1⟩ }
  obtain ⟨-, hearlier⟩ := h {} [first, second] [first] second { writtenByEpoch := ⟨1⟩ }
    (List.prefix_refl _) (by decide +kernel)
  have hlt := (hearlier [first] (List.prefix_refl _)).1
  exact absurd hlt (by decide +kernel)

end FederationObservatory
