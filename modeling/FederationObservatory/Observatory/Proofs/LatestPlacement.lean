import FederationObservatory.Observatory.Proofs.Newest
import FederationObservatory.Observatory.Proofs.Snapshots

/-!
# The latest placement of a workload

A placement becomes the latest one of its workload, and current, when the stamp its record came with
is not older than the latest one. The one that was the latest before stays current.
-/

namespace FederationObservatory

open Arrivals

variable {s : Impl} {clock : Clock} {ctx : PublicationContext}

/-! ## Indexed placements -/

/-- The workload of a stored placement has a latest placement. -/
def Impl.Indexed (s : Impl) : Prop :=
  ∀ (id : PlacementId) (record : PlacementRecord), s.placements[id]? = some record →
    record.workload ∈ s.latestPlacement

/-- Only a latest placement can be newer. -/
theorem mem_latest_of_newer {record : PlacementRecord}
    (h : s.latestPlacementIsNewer record = true) : record.workload ∈ s.latestPlacement := by
  rw [Std.TreeMap.mem_iff_isSome_getElem?]
  unfold Impl.latestPlacementIsNewer at h
  split at h
  · cases h
  · rename_i latest hlatest
    rw [hlatest]
    rfl

/-- The latest placement of a workload after one was recorded. -/
theorem latestPlacement_recordPlacement (record : PlacementRecord) (workload : WorkloadId) :
    (s.recordPlacement clock ctx record).latestPlacement[workload]? =
      if record.workload = workload ∧ s.latestPlacementIsNewer record = false then some record.id
      else s.latestPlacement[workload]? := by
  change (if s.latestPlacementIsNewer record then _ else _ : Std.TreeMap WorkloadId PlacementId)[workload]? = _
  cases hnewer : s.latestPlacementIsNewer record with
  | true =>
    have hmem := mem_latest_of_newer hnewer
    rw [if_pos rfl, Std.TreeMap.getElem?_insertIfNew, if_neg, if_neg]
    · simp
    · intro ⟨_, hnot⟩
      exact hnot hmem
  | false =>
    rw [if_neg Bool.false_ne_true, Std.TreeMap.getElem?_insert]
    simp only [Std.LawfulEqOrd.compare_eq_iff_eq, and_true]

/-- A round of the restore loop adds the workload to the index, and takes none out. -/
theorem mem_restorePlacement {index : Std.TreeMap WorkloadId PlacementId × RecordKind.Table .placement}
    {record : PlacementRecord} {workload : WorkloadId}
    (h : record.workload = workload ∨ workload ∈ index.1) :
    workload ∈ (restorePlacement index record).1 := by
  have hinsert : workload ∈ index.1.insert record.workload record.id := by
    rw [Std.TreeMap.mem_insert, Std.LawfulEqOrd.compare_eq_iff_eq]
    exact h
  simp only [restorePlacement]
  split
  · exact hinsert
  · rename_i id hid
    split
    · exact hinsert
    · -- it is only kept out by a latest placement of its workload
      rcases h with rfl | hmem
      · rw [Std.TreeMap.mem_iff_isSome_getElem?, hid]
        rfl
      · exact hmem

theorem mem_foldl_restorePlacement {placements : List PlacementRecord}
    {index : Std.TreeMap WorkloadId PlacementId × RecordKind.Table .placement}
    {workload : WorkloadId}
    (h : workload ∈ index.1 ∨ ∃ record ∈ placements, record.workload = workload) :
    workload ∈ (placements.foldl restorePlacement index).1 := by
  induction placements generalizing index with
  | nil =>
    rcases h with hmem | ⟨record, hrecord, -⟩
    · exact hmem
    · cases hrecord
  | cons record placements ih =>
    apply ih
    rcases h with hmem | ⟨record', hrecord, hworkload⟩
    · exact .inl (mem_restorePlacement (.inr hmem))
    · rcases List.mem_cons.mp hrecord with rfl | hrecord
      · exact .inl (mem_restorePlacement (.inl hworkload))
      · exact .inr ⟨record', hrecord, hworkload⟩

theorem indexed_restored (s : Impl) (d : DurableState) : (restoredState s d).Indexed := by
  intro id record hrecord
  obtain ⟨r, hr, -, hrestored⟩ := exists_of_restored (k := .placement) hrecord
  have hworkload : record.workload = r.workload := by rw [← hrestored]; rfl
  rw [hworkload]
  exact mem_foldl_restorePlacement (.inr ⟨r, hr, rfl⟩)

/-- The placement a call publishes. -/
def Operation.places : Operation → Option (Arrival PlacementRecord)
  | .submit clock ctx (.publish (.publishPlacement record)) => some ⟨clock, ctx, record⟩
  | _ => none

/-- The placement is published and recorded. -/
def Arrival.Recorded (a : Arrival PlacementRecord) (s : Impl) : Prop :=
  ∃ check, Admitted s a.ctx check ∧ AcceptsPlacement s a.ctx a.record check.duplicateSequence

theorem places_eq_some {operation : Operation} {a : Arrival PlacementRecord} :
    operation.places = some a ↔
      operation = .submit a.clock a.ctx (.publish (.publishPlacement a.record)) := by
  constructor
  · intro h
    unfold Operation.places at h
    split at h
    · obtain rfl := Option.some.inj h
      rfl
    · cases h
  · intro h
    subst h
    rfl

/-- A call that records a placement. -/
theorem recordPlacement_next {operation : Operation} {a : Arrival PlacementRecord}
    (hplaces : operation.places = some a) (hrecorded : a.Recorded s) :
    (operation.next s).placements = (s.recordPlacement a.clock a.ctx a.record).placements ∧
      (operation.next s).latestPlacement =
        (s.recordPlacement a.clock a.ctx a.record).latestPlacement := by
  obtain ⟨check, hadmitted, haccepts⟩ := hrecorded
  rw [places_eq_some.mp hplaces]
  obtain ⟨detail, hrun⟩ := @Publication.run_of_accepts s a.clock a.ctx (.publishPlacement a.record)
    check hadmitted haccepts
  change ((Publication.publishPlacement a.record).run s a.clock a.ctx).state.placements = _ ∧
    ((Publication.publishPlacement a.record).run s a.clock a.ctx).state.latestPlacement = _
  rw [hrun]
  exact ⟨rfl, rfl⟩

/-- A call that records no placement. -/
theorem placements_next {operation : Operation} (hrestores : operation.restores s = none)
    (h : ∀ a, operation.places = some a → ¬a.Recorded s) :
    (operation.next s).placements = s.placements ∧
      (operation.next s).latestPlacement = s.latestPlacement := by
  cases hplaces : operation.places with
  | none =>
    have hother : ∀ clock ctx p, operation = .submit clock ctx (.publish p) →
        p.kind ≠ .placement := by
      intro clock ctx p hsubmit hkind
      subst hsubmit
      cases p with
      | publishPlacement record => cases hplaces
      | _ => cases hkind
    constructor
    · exact Operation.table_next (k := .placement) hrestores rfl fun clock ctx p hsubmit =>
        (hother clock ctx p hsubmit).symm
    · exact Operation.latestPlacement_next hrestores hother
  | some a =>
    rw [places_eq_some.mp hplaces]
    change ((Request.publish (.publishPlacement a.record)).run s a.clock a.ctx).state.placements =
      _ ∧ ((Request.publish (.publishPlacement a.record)).run s a.clock
        a.ctx).state.latestPlacement = _
    rcases (Request.publish (.publishPlacement a.record)).model_run (s := s) a.clock a.ctx with
      ⟨hcollections, hindices⟩ | ⟨p, check, hp, hadmitted, haccepts, -⟩
    · rw [hcollections, hindices]
      exact ⟨rfl, rfl⟩
    · obtain rfl := Request.publish.inj hp
      exact absurd ⟨check, hadmitted, haccepts⟩ (h a hplaces)

theorem indexed_next (h : s.Indexed) (operation : Operation) : (operation.next s).Indexed := by
  cases hrestores : operation.restores s with
  | some d =>
    rw [next_of_restores hrestores]
    exact indexed_restored s d
  | none =>
    intro id record hrecord
    by_cases hrecorded : ∃ a, operation.places = some a ∧ a.Recorded s
    · obtain ⟨a, hplaces, hrecorded⟩ := hrecorded
      obtain ⟨hplacements, hlatest⟩ := recordPlacement_next hplaces hrecorded
      rw [hplacements, placements_recordPlacement] at hrecord
      rw [hlatest, Std.TreeMap.mem_iff_isSome_getElem?, latestPlacement_recordPlacement]
      split
      · rfl
      · rename_i hkept
        rw [← Std.TreeMap.mem_iff_isSome_getElem?]
        split at hrecord
        · obtain rfl := Option.some.inj hrecord
          cases hnewer : s.latestPlacementIsNewer a.record with
          | false => exact absurd ⟨rfl, hnewer⟩ hkept
          | true =>
            have hmem : a.record.workload ∈ s.latestPlacement := mem_latest_of_newer hnewer
            exact hmem
        · exact h id record hrecord
    · obtain ⟨hplacements, hlatest⟩ := placements_next hrestores
        fun a hplaces hrecorded' => hrecorded ⟨a, hplaces, hrecorded'⟩
      rw [hplacements] at hrecord
      rw [hlatest]
      exact h id record hrecord

theorem Reachable.indexed (h : Reachable s) : s.Indexed := by
  induction h with
  | new bounds =>
    intro id record hrecord
    rw [show (Impl.new bounds).placements = ∅ from rfl, Std.TreeMap.getElem?_emptyc] at hrecord
    cases hrecord
  | next _ operation ih => exact indexed_next ih operation

/-! ## Arrivals -/

/-- The call does not restore. A placement of the workload that it publishes is recorded, and one of
    another workload has none of the identifiers. -/
def Operation.Places (workload : WorkloadId) (ids : List PlacementId) (s : Impl)
    (operation : Operation) : Prop :=
  operation.restores s = none ∧ ∀ a, operation.places = some a →
    (a.record.workload = workload → a.Recorded s) ∧
      (a.record.workload ≠ workload → a.record.id ∉ ids)

/-- The placements of a workload that a sequence of calls publishes. -/
def placementArrivals (workload : WorkloadId) (operations : List Operation) :
    List (Arrival PlacementRecord) :=
  (operations.filterMap Operation.places).filter fun a => a.record.workload = workload

/-- A placement as it is stored, after what arrived before it. -/
def Arrival.placement (a : Arrival PlacementRecord) (kept : Option (Arrival PlacementRecord)) :
    PlacementRecord :=
  a.record.accept a.clock a.ctx (!installs Arrival.observed Arrival.claimed kept a)

/-- What is kept of the placements that arrived. -/
def keptPlacement (arrivals : List (Arrival PlacementRecord)) : Option (Arrival PlacementRecord) :=
  arrivals.foldl (keep Arrival.observed Arrival.claimed) none

theorem keptPlacement_concat (arrivals : List (Arrival PlacementRecord))
    (a : Arrival PlacementRecord) :
    keptPlacement (arrivals ++ [a]) =
      keep Arrival.observed Arrival.claimed (keptPlacement arrivals) a :=
  List.foldl_append

/-- The placements of a workload that are stored are those that arrived, and the latest one is the
    one that is kept. -/
structure Impl.Placed (s : Impl) (workload : WorkloadId) (arrivals : List (Arrival PlacementRecord)) :
    Prop where
  latest : s.latestPlacement[workload]? = (keptPlacement arrivals).map (·.record.id)
  stored : ∀ before a, before ++ [a] <+: arrivals →
    s.placements[a.record.id]? = some (a.placement (keptPlacement before))
  noOther : ∀ (id : PlacementId) (record : PlacementRecord), s.placements[id]? = some record →
    record.workload = workload → ∃ a ∈ arrivals, a.record.id = id

/-- Of the latest placement and a new one, the latest one is newer exactly when the time the new one
    claims is not later. -/
theorem latestPlacementIsNewer_eq {workload : WorkloadId} {arrivals : List (Arrival PlacementRecord)}
    {a : Arrival PlacementRecord} (h : s.Placed workload arrivals)
    (hworkload : a.record.workload = workload)
    (htimed : Timed Arrival.observed Arrival.claimed 0 (arrivals ++ [a])) :
    s.latestPlacementIsNewer a.record =
      !installs Arrival.observed Arrival.claimed (keptPlacement arrivals) a := by
  subst hworkload
  unfold Impl.latestPlacementIsNewer
  rw [h.latest]
  cases hkept : keptPlacement arrivals with
  | none => rfl
  | some k =>
    have hmem : k ∈ arrivals := (mem_of_foldl_keep hkept).resolve_left (by simp)
    obtain ⟨before, after, rfl⟩ := List.append_of_mem hmem
    have hstart : before ++ [k] <+: before ++ k :: after := ⟨after, by simp⟩
    have hk : k.ctx.observedAt.toInt ≠ 0 := htimed.ne_default k (List.mem_append_left _ hmem)
    have hne : k.ctx.observedAt ≠ a.record.stamp.observedAt := by
      intro heq
      exact htimed.claimed_ne hmem (congrArg Int64.toInt heq)
    simp only [Option.map_some, h.stored before k hstart, Arrival.placement,
      PlacementRecord.accept, observedAt_stampFor hk, beq_false_of_ne hne, Bool.false_and,
      Bool.or_false, installs, Int64.lt_iff_toInt_lt]
    rw [← decide_not, decide_eq_decide]
    change a.claimed < k.observed ↔ ¬k.observed < a.claimed
    have hclaimed : k.observed ≠ a.claimed := htimed.claimed_ne hmem
    omega

/-- A placement of the workload is recorded. -/
theorem placed_record {workload : WorkloadId} {arrivals : List (Arrival PlacementRecord)}
    {operation : Operation} {a : Arrival PlacementRecord} (h : s.Placed workload arrivals)
    (hplaces : operation.places = some a) (hrecorded : a.Recorded s)
    (hworkload : a.record.workload = workload)
    (htimed : Timed Arrival.observed Arrival.claimed 0 (arrivals ++ [a]))
    (hids : ∀ b ∈ arrivals, b.record.id ≠ a.record.id) :
    (operation.next s).Placed workload (arrivals ++ [a]) := by
  obtain ⟨hplacements, hlatest⟩ := recordPlacement_next hplaces hrecorded
  have hnewer := latestPlacementIsNewer_eq h hworkload htimed
  constructor
  case latest =>
    rw [hlatest, latestPlacement_recordPlacement, hnewer, keptPlacement_concat]
    unfold keep
    cases hinstalls : installs Arrival.observed Arrival.claimed (keptPlacement arrivals) a with
    | true => simp [hworkload]
    | false => simpa using h.latest
  case stored =>
    intro before b hstart
    rw [hplacements, placements_recordPlacement]
    rcases List.prefix_concat_iff.mp hstart with hlast | hearlier
    · obtain ⟨rfl, hsame⟩ := List.append_inj' hlast rfl
      obtain rfl := (List.cons.inj hsame).1
      rw [if_pos rfl, hnewer]
      rfl
    · have hb : b ∈ arrivals := hearlier.subset (List.mem_append_right _ List.mem_cons_self)
      rw [if_neg (hids b hb).symm]
      exact h.stored before b hearlier
  case noOther =>
    intro id record hrecord hrecordWorkload
    rw [hplacements, placements_recordPlacement] at hrecord
    split at hrecord
    · rename_i hid
      exact ⟨a, List.mem_append_right _ List.mem_cons_self, hid⟩
    · obtain ⟨b, hb, hid⟩ := h.noOther id record hrecord hrecordWorkload
      exact ⟨b, List.mem_append_left _ hb, hid⟩

/-- Nothing changes for the workload: no placement is recorded, or one of another workload under
    another identifier. -/
theorem placed_next {workload : WorkloadId} {arrivals : List (Arrival PlacementRecord)}
    {operation : Operation} (h : s.Placed workload arrivals)
    (hrestores : operation.restores s = none)
    (hother : ∀ a, operation.places = some a → a.record.workload ≠ workload ∧
      a.record.id ∉ arrivals.map (·.record.id)) :
    (operation.next s).Placed workload arrivals := by
  by_cases hrecorded : ∃ a, operation.places = some a ∧ a.Recorded s
  · obtain ⟨a, hplaces, hrecorded⟩ := hrecorded
    obtain ⟨hplacements, hlatest⟩ := recordPlacement_next hplaces hrecorded
    obtain ⟨hworkload, hid⟩ := hother a hplaces
    constructor
    case latest =>
      rw [hlatest, latestPlacement_recordPlacement, if_neg fun hsame => hworkload hsame.1]
      exact h.latest
    case stored =>
      intro before b hstart
      have hb : b ∈ arrivals := hstart.subset (List.mem_append_right _ List.mem_cons_self)
      rw [hplacements, placements_recordPlacement, if_neg]
      · exact h.stored before b hstart
      · intro hsame
        exact hid (List.mem_map.mpr ⟨b, hb, hsame.symm⟩)
    case noOther =>
      intro id record hrecord hrecordWorkload
      rw [hplacements, placements_recordPlacement] at hrecord
      split at hrecord
      · obtain rfl := Option.some.inj hrecord
        exact absurd hrecordWorkload hworkload
      · exact h.noOther id record hrecord hrecordWorkload
  · obtain ⟨hplacements, hlatest⟩ := placements_next hrestores
      fun a hplaces hrecorded' => hrecorded ⟨a, hplaces, hrecorded'⟩
    refine ⟨?_, ?_, ?_⟩
    · rw [hlatest]
      exact h.latest
    · rw [hplacements]
      exact h.stored
    · rw [hplacements]
      exact h.noOther

/-- The placements of the workload over a run. -/
theorem placed_run {workload : WorkloadId} {operations : List Operation}
    {before : List (Arrival PlacementRecord)} {ids : List PlacementId}
    (h : s.Along (Operation.Places workload ids) operations)
    (htimed : Timed Arrival.observed Arrival.claimed 0
      (before ++ placementArrivals workload operations))
    (hids : ((before ++ placementArrivals workload operations).map (·.record.id)).Nodup)
    (hmem : ∀ a ∈ before ++ placementArrivals workload operations, a.record.id ∈ ids)
    (hplaced : s.Placed workload before) :
    (s.run operations).Placed workload (before ++ placementArrivals workload operations) := by
  induction operations generalizing s before with
  | nil =>
    rw [show placementArrivals workload [] = [] from rfl, List.append_nil]
    exact hplaced
  | cons operation operations ih =>
    obtain ⟨⟨hrestores, hplaces⟩, hrest⟩ := h
    by_cases harrives : ∃ a, operation.places = some a ∧ a.record.workload = workload
    · obtain ⟨a, ha, hworkload⟩ := harrives
      have hcons : placementArrivals workload (operation :: operations) =
          a :: placementArrivals workload operations := by
        simp [placementArrivals, ha, hworkload]
      rw [hcons, List.append_cons] at htimed hids hmem ⊢
      refine ih hrest htimed hids hmem ?_
      refine placed_record hplaced ha ((hplaces a ha).1 hworkload) hworkload htimed.left ?_
      intro b hb heq
      rw [List.append_assoc, List.map_append] at hids
      have hdisjoint := (List.nodup_append.mp hids).2.2
      exact hdisjoint _ (List.mem_map_of_mem hb) _ (List.mem_map_of_mem List.mem_cons_self) heq
    · have hcons : placementArrivals workload (operation :: operations) =
          placementArrivals workload operations := by
        unfold placementArrivals
        cases ha : operation.places with
        | none => rw [List.filterMap_cons_none ha]
        | some a =>
          have hworkload : a.record.workload ≠ workload := fun heq => harrives ⟨a, ha, heq⟩
          rw [List.filterMap_cons_some ha, List.filter_cons_of_neg (by simpa using hworkload)]
      rw [hcons] at htimed hids hmem ⊢
      refine ih hrest htimed hids hmem ?_
      refine placed_next hplaced hrestores ?_
      intro a ha
      have hworkload : a.record.workload ≠ workload := fun heq => harrives ⟨a, ha, heq⟩
      refine ⟨hworkload, ?_⟩
      intro hcontra
      obtain ⟨b, hb, heq⟩ := List.mem_map.mp hcontra
      exact (hplaces a ha).2 hworkload (heq ▸ hmem b (List.mem_append_left _ hb))

/-! ## Explanations -/

theorem laterCurrentPlacement_of_not {workload : WorkloadId} {r : PlacementRecord}
    (h : ¬(r.workload = workload ∧ r.currentness = .current)) (latest : Option PlacementRecord) :
    laterCurrentPlacement workload latest r = latest := by
  unfold laterCurrentPlacement
  by_cases hworkload : r.workload = workload
  · rw [if_neg (not_not.mpr hworkload), if_pos fun hcurrent => h ⟨hworkload, hcurrent⟩]
  · rw [if_pos hworkload]

/-- The only current placement of the workload is found. -/
theorem latestCurrentPlacement_eq_some {workload : WorkloadId} {placements : List PlacementRecord}
    {record : PlacementRecord} (hmem : record ∈ placements) (hworkload : record.workload = workload)
    (hcurrent : record.currentness = .current)
    (hunique : ∀ r ∈ placements, r.workload = workload → r.currentness = .current → r = record) :
    latestCurrentPlacement workload placements = some record := by
  have hself : ∀ latest : Option PlacementRecord, latest = none ∨ latest = some record →
      laterCurrentPlacement workload latest record = some record := by
    intro latest hlatest
    unfold laterCurrentPlacement
    rw [if_neg (not_not.mpr hworkload), if_neg (not_not.mpr hcurrent)]
    rcases hlatest with rfl | rfl <;> simp
  have hfold : ∀ latest : Option PlacementRecord, latest = none ∨ latest = some record →
      latest = some record ∨ record ∈ placements →
      placements.foldl (laterCurrentPlacement workload) latest = some record := by
    clear hmem
    induction placements with
    | nil =>
      intro latest _ hmem
      exact hmem.resolve_right (by simp)
    | cons r placements ih =>
      intro latest hlatest hmem
      rw [List.foldl_cons]
      have hrest := ih fun r' hr' => hunique r' (List.mem_cons_of_mem _ hr')
      by_cases hr : r.workload = workload ∧ r.currentness = .current
      · obtain rfl := hunique r List.mem_cons_self hr.1 hr.2
        rw [hself latest hlatest]
        exact hrest _ (.inr rfl) (.inl rfl)
      · rw [laterCurrentPlacement_of_not hr]
        refine hrest latest hlatest (hmem.imp_right fun hmem => ?_)
        rcases List.mem_cons.mp hmem with rfl | hmem
        · exact absurd ⟨hworkload, hcurrent⟩ hr
        · exact hmem
  exact hfold none (.inl rfl) (.inr hmem)

theorem latestCurrentPlacement_eq_none {workload : WorkloadId} {placements : List PlacementRecord}
    (h : ∀ r ∈ placements, r.workload = workload → r.currentness ≠ .current) :
    latestCurrentPlacement workload placements = none := by
  unfold latestCurrentPlacement
  induction placements with
  | nil => rfl
  | cons r placements ih =>
    rw [List.foldl_cons, laterCurrentPlacement_of_not fun hr => h r List.mem_cons_self hr.1 hr.2]
    exact ih fun r' hr' => h r' (List.mem_cons_of_mem _ hr')

/-- `explain_latest_placement` explains this placement. -/
def Impl.Explains (s : Impl) (workload : WorkloadId) (id : PlacementId) : Prop :=
  ∀ {ε : Type} (explainPlacement : PlacementId → Result ε),
    explainLatestPlacement explainPlacement s workload = explainPlacement id

/-- The only current placement of a workload is explained exactly when a snapshot reaches it. -/
theorem explains_iff (hfiled : s.Filed) {workload : WorkloadId} {id : PlacementId}
    {record : PlacementRecord} (hstored : s.placements[id]? = some record)
    (hworkload : record.workload = workload) (hcurrent : record.currentness = .current)
    (hunique : ∀ (id' : PlacementId) (r : PlacementRecord), s.placements[id']? = some r →
      r.workload = workload → r.currentness = .current → id' = id) :
    s.Explains workload id ↔
      s.recordsBefore .placement id * snapshotRecordBytes ≤ s.bounds.maxSnapshotBytes := by
  have hmem := mem_snapshot_iff hfiled (k := .placement) hstored
  rw [← hmem]
  have honly : ∀ r ∈ (buildSnapshot s {}).records .placement, r.workload = workload →
      r.currentness = .current → r = record := by
    intro r hr hw hc
    obtain ⟨id', hid'⟩ := mem_table_of_mem_snapshot hr
    obtain rfl := hunique id' r hid' hw hc
    exact Option.some.inj (hid'.symm.trans hstored)
  constructor
  · intro hexplains
    by_contra hcut
    have hnone := @latestCurrentPlacement_eq_none workload ((buildSnapshot s {}).records .placement)
      (fun r hr hw hc => hcut (honly r hr hw hc ▸ hr))
    have herror := hexplains (fun id => Except.ok id)
    unfold explainLatestPlacement at herror
    rw [hnone] at herror
    cases herror
  · intro hincluded ε explainPlacement
    unfold explainLatestPlacement
    rw [latestCurrentPlacement_eq_some hincluded hworkload hcurrent honly]
    have hid : record.id = id := hfiled .placement id record hstored
    exact congrArg explainPlacement hid

/-! ## Runs -/

/-- A stored placement is current. -/
def Impl.IsCurrent (s : Impl) (id : PlacementId) : Prop :=
  (s.placements[id]?).map (·.currentness) = some .current

/-- Of the placements that arrived the newest one, and no other, is current; it is the latest one of
    the workload, and it is what `explain_latest_placement` explains. -/
def Impl.NewestIsCurrent (s : Impl) (workload : WorkloadId)
    (arrivals : List (Arrival PlacementRecord)) : Prop :=
  ∃ a ∈ arrivals, (∀ b ∈ arrivals, b.observed ≤ a.observed) ∧ s.IsCurrent a.record.id ∧
    (∀ b ∈ arrivals, b ≠ a → ¬s.IsCurrent b.record.id) ∧
    s.latestPlacement[workload]? = some a.record.id ∧ s.Explains workload a.record.id

/-- The newest arrival comes first, and none that comes after it has a stamp later than the newest
    was observed. -/
def FirstIsNewest {κ ρ : Type} [StoredRecord κ ρ] (a : Arrival ρ) (rest : List (Arrival ρ)) : Prop :=
  ∀ b ∈ rest, b.observed < a.observed ∧ b.claimed < a.observed

/-- A placement is current exactly when it was kept as it arrived. -/
theorem isCurrent_iff {workload : WorkloadId} {arrivals : List (Arrival PlacementRecord)}
    (h : s.Placed workload arrivals) (before : List (Arrival PlacementRecord))
    (a : Arrival PlacementRecord) (hstart : before ++ [a] <+: arrivals) :
    s.IsCurrent a.record.id ↔
      installs Arrival.observed Arrival.claimed (keptPlacement before) a = true := by
  unfold Impl.IsCurrent
  rw [h.stored before a hstart]
  cases hinstalls : installs Arrival.observed Arrival.claimed (keptPlacement before) a with
  | true => simp [Arrival.placement, PlacementRecord.accept, hinstalls]
  | false => simp [Arrival.placement, PlacementRecord.accept, hinstalls]

section FirstArrival

variable {workload : WorkloadId} {a : Arrival PlacementRecord}
  {rest : List (Arrival PlacementRecord)}

theorem isCurrent_first (h : s.Placed workload (a :: rest)) : s.IsCurrent a.record.id :=
  (isCurrent_iff h [] a ⟨rest, rfl⟩).mpr rfl

/-- No later placement is current exactly when none claims to be newer than the first. -/
theorem not_isCurrent_iff (h : s.Placed workload (a :: rest))
    (htimed : Timed Arrival.observed Arrival.claimed 0 (a :: rest)) :
    (∀ b ∈ rest, ¬s.IsCurrent b.record.id) ↔ ∀ b ∈ rest, b.claimed < a.observed := by
  rw [← not_installs_iff htimed]
  constructor
  · intro hnone before b hstart
    have hb : b ∈ rest := hstart.subset (List.mem_append_right _ List.mem_cons_self)
    have hcurrent := isCurrent_iff h (a :: before) b (List.cons_prefix_cons.mpr ⟨rfl, hstart⟩)
    exact Bool.eq_false_iff.mpr fun hinstalls => hnone b hb (hcurrent.mpr hinstalls)
  · intro hnone b hb
    obtain ⟨before, after, rfl⟩ := List.append_of_mem hb
    have hstart : before ++ [b] <+: before ++ b :: after := ⟨after, by simp⟩
    have hcurrent := isCurrent_iff h (a :: before) b (List.cons_prefix_cons.mpr ⟨rfl, hstart⟩)
    intro hcontra
    have hinstalls := hcurrent.mp hcontra
    exact Bool.false_ne_true ((hnone before b hstart).symm.trans hinstalls)

/-- The first placement, if no other is current, is explained exactly when a snapshot reaches it. -/
theorem explains_first_iff (hfiled : s.Filed) (h : s.Placed workload (a :: rest))
    (hworkload : a.record.workload = workload) (hnone : ∀ b ∈ rest, ¬s.IsCurrent b.record.id) :
    s.Explains workload a.record.id ↔
      s.recordsBefore .placement a.record.id * snapshotRecordBytes ≤ s.bounds.maxSnapshotBytes := by
  have hstored := h.stored [] a ⟨rest, rfl⟩
  refine explains_iff hfiled hstored hworkload rfl ?_
  intro id r hr hw hc
  obtain ⟨b, hb, rfl⟩ := h.noOther id r hr hw
  rcases List.mem_cons.mp hb with rfl | hb
  · rfl
  · exact absurd (by rw [Impl.IsCurrent, hr, Option.map_some, hc]) (hnone b hb)

end FirstArrival

theorem newestIsCurrent_iff (hfiled : s.Filed) {workload : WorkloadId}
    {arrivals : List (Arrival PlacementRecord)} (h : s.Placed workload arrivals)
    (hworkload : ∀ a ∈ arrivals, a.record.workload = workload)
    (htimed : Timed Arrival.observed Arrival.claimed 0 arrivals) :
    s.NewestIsCurrent workload arrivals ↔
      ∃ a rest, arrivals = a :: rest ∧ FirstIsNewest a rest ∧
        s.recordsBefore .placement a.record.id * snapshotRecordBytes ≤
          s.bounds.maxSnapshotBytes := by
  constructor
  · intro ⟨a, ha, hnewest, _, hothers, _, hexplains⟩
    obtain ⟨first, rest, rfl⟩ := List.exists_cons_of_ne_nil (List.ne_nil_of_mem ha)
    -- the first one is current, so it is the newest
    have hfirst : first = a := by
      by_contra hne
      exact hothers first List.mem_cons_self hne (isCurrent_first h)
    subst hfirst
    have hne : ∀ b ∈ rest, first.observed ≠ b.observed := fun b hb =>
      List.rel_of_pairwise_cons htimed.distinct hb
    have hnone : ∀ b ∈ rest, ¬s.IsCurrent b.record.id := by
      intro b hb
      refine hothers b (List.mem_cons_of_mem _ hb) ?_
      intro heq
      exact hne b hb (by rw [heq])
    have hclaims := (not_isCurrent_iff h htimed).mp hnone
    refine ⟨first, rest, rfl, fun b hb => ⟨?_, hclaims b hb⟩, ?_⟩
    · exact lt_of_le_of_ne (hnewest b (List.mem_cons_of_mem _ hb)) (hne b hb).symm
    · exact (explains_first_iff hfiled h (hworkload first List.mem_cons_self) hnone).mp hexplains
  · intro ⟨a, rest, hsplit, hfirst, hreached⟩
    subst hsplit
    have hnone := (not_isCurrent_iff h htimed).mpr fun b hb => (hfirst b hb).2
    refine ⟨a, List.mem_cons_self, ?_, isCurrent_first h, ?_, ?_, ?_⟩
    · intro b hb
      rcases List.mem_cons.mp hb with rfl | hb
      · exact le_refl _
      · exact (hfirst b hb).1.le
    · intro b hb hne
      exact hnone b ((List.mem_cons.mp hb).resolve_left hne)
    · have hkept : keptPlacement (a :: rest) = some a :=
        foldl_keep_of_le fun b hb => (hfirst b hb).2.le
      rw [h.latest, hkept, Option.map_some]
    · exact (explains_first_iff hfiled h (hworkload a List.mem_cons_self) hnone).mpr hreached

/-- Without a placement of the workload there is none that arrived. -/
theorem placed_of_none (hindexed : s.Indexed) {workload : WorkloadId}
    (h : s.latestPlacement[workload]? = none) : s.Placed workload [] := by
  refine ⟨h, ?_, ?_⟩
  · intro before a hstart
    simp at hstart
  · intro id record hrecord hworkload
    have hmem := hindexed id record hrecord
    rw [hworkload, Std.TreeMap.mem_iff_isSome_getElem?, h] at hmem
    cases hmem

/-- The workload of an arrival. -/
theorem workload_of_mem {workload : WorkloadId} {operations : List Operation}
    {a : Arrival PlacementRecord} (h : a ∈ placementArrivals workload operations) :
    a.record.workload = workload := by
  unfold placementArrivals at h
  simpa using (List.mem_filter.mp h).2

/-- In a run that starts without a placement of the workload, and that records placements of it with
    different identifiers and observation times, the newest one is at the end the only current one,
    the latest one and the explained one, exactly when it comes first, no later one claims to be
    newer, and a snapshot reaches it. -/
theorem newest_placement_current_iff (hreachable : Reachable s) {workload : WorkloadId}
    {operations : List Operation} {arrivals : List (Arrival PlacementRecord)}
    (harrivals : placementArrivals workload operations = arrivals)
    (hnone : s.latestPlacement[workload]? = none)
    (hplaces : s.Along (Operation.Places workload (arrivals.map (·.record.id))) operations)
    (htimed : Timed Arrival.observed Arrival.claimed 0 arrivals)
    (hids : (arrivals.map (·.record.id)).Nodup) :
    (s.run operations).NewestIsCurrent workload arrivals ↔
      ∃ a rest, arrivals = a :: rest ∧ FirstIsNewest a rest ∧
        (s.run operations).recordsBefore .placement a.record.id * snapshotRecordBytes ≤
          (s.run operations).bounds.maxSnapshotBytes := by
  have hworkload : ∀ a ∈ arrivals, a.record.workload = workload := by
    intro a ha
    rw [← harrivals] at ha
    exact workload_of_mem ha
  have hplaced : (s.run operations).Placed workload arrivals := by
    subst harrivals
    have hrun := @placed_run s workload operations [] _ hplaces htimed hids
      (fun a ha => List.mem_map_of_mem ha) (placed_of_none hreachable.indexed hnone)
    simpa using hrun
  exact newestIsCurrent_iff (hreachable.run operations).filed hplaced hworkload htimed

/-- A placement that checks, under an identifier that is not stored, is recorded. -/
theorem recorded_of_fresh {a : Arrival PlacementRecord}
    (hgate : (checkAuthority s a.ctx).toOption.map (·.duplicateSequence) = some false)
    (hchecks : checkFederation s a.ctx = .ok () ∧ a.record.validate = .ok () ∧
      checkPlacement s a.ctx a.record = .ok ())
    (hfresh : s.placements.contains a.record.id = false ∧
      s.placements.size < s.bounds.maxPlacementHistory) : a.Recorded s := by
  obtain ⟨check, hcheck, hduplicate⟩ := Option.map_eq_some_iff.mp hgate
  have hok : checkAuthority s a.ctx = .ok check := by
    cases hauthority : checkAuthority s a.ctx with
    | error e =>
      rw [hauthority] at hcheck
      cases hcheck
    | ok check' =>
      rw [hauthority] at hcheck
      exact congrArg Except.ok (Option.some.inj hcheck)
  refine ⟨check, checkAuthority_eq_ok.mp hok, hchecks.1, hchecks.2.1, hchecks.2.2, hduplicate, ?_,
    hfresh.2⟩
  intro old hold
  rw [Std.TreeMap.getElem?_eq_none_of_contains_eq_false hfresh.1] at hold
  cases hold

namespace Deployment

/-- A placement of the workload. -/
def placement (id : String) : PlacementRecord :=
  { id := ⟨.ofString id⟩, generation := ⟨1⟩, workload := workload.id, workloadGeneration := ⟨1⟩,
    federation := federation.id, selected := cluster.id }

/-- Two placements of the workload, the second one observed at the given time. -/
def placementOperations (second : TimestampNanos) : List Operation :=
  [publishAt 8 1000 (.publishPlacement (placement "first")),
   publishAt 9 second (.publishPlacement (placement "second"))]

def firstPlacement : Arrival PlacementRecord := ⟨{}, contextAt 8 1000, placement "first"⟩

def secondPlacement (second : TimestampNanos) : Arrival PlacementRecord :=
  ⟨{}, contextAt 9 second, placement "second"⟩

/-- The deployment after its first placement. -/
def placed : Impl := loaded.run [publishAt 8 1000 (.publishPlacement (placement "first"))]

end Deployment

/-- Both placements of the deployment are recorded. -/
theorem places_deployment (second : TimestampNanos)
    (hsecond : (Deployment.secondPlacement second).Recorded Deployment.placed) :
    Deployment.loaded.Along (Operation.Places Deployment.workload.id
        ([Deployment.firstPlacement, Deployment.secondPlacement second].map (·.record.id)))
      (Deployment.placementOperations second) := by
  refine ⟨⟨rfl, ?_⟩, ⟨rfl, ?_⟩, trivial⟩
  · intro a ha
    obtain rfl := Option.some.inj ha
    refine ⟨fun _ => ?_, fun hne => absurd rfl hne⟩
    exact recorded_of_fresh (by decide +kernel) (by decide +kernel) (by decide +kernel)
  · intro a ha
    obtain rfl := Option.some.inj ha
    exact ⟨fun _ => hsecond, fun hne => absurd rfl hne⟩

theorem timed_placements (second : TimestampNanos) (h : second.toInt ≠ 0)
    (hne : second.toInt ≠ 1000) :
    Timed Arrival.observed Arrival.claimed 0
      [Deployment.firstPlacement, Deployment.secondPlacement second] := by
  refine ⟨?_, ?_, ?_⟩
  · refine List.pairwise_pair.mpr ?_
    intro heq
    exact hne heq.symm
  · simp only [List.forall_mem_cons]
    exact ⟨by decide, h, by simp⟩
  · simp only [List.forall_mem_cons]
    exact ⟨.inl rfl, .inl rfl, by simp⟩

/-- In the deployment the older placement comes second, and the newest one stays current. -/
theorem newest_placement_current_deployment :
    (Deployment.loaded.run (Deployment.placementOperations 500)).NewestIsCurrent
      Deployment.workload.id [Deployment.firstPlacement, Deployment.secondPlacement 500] := by
  refine (newest_placement_current_iff Deployment.reachable_loaded (by decide +kernel)
    (by decide +kernel) ?_ ?_ (by decide +kernel)).mpr ?_
  · refine places_deployment 500 ?_
    exact recorded_of_fresh (by decide +kernel) (by decide +kernel) (by decide +kernel)
  · exact timed_placements 500 (by decide) (by decide)
  · refine ⟨_, _, rfl, ?_, by decide +kernel⟩
    simp only [FirstIsNewest, List.forall_mem_singleton]
    decide

/-- The newest placement comes second, without a stamp of its own, and is stored as history. -/
theorem newest_placement_not_current :
    ¬∀ (s : Impl) (workload : WorkloadId) (operations : List Operation)
      (arrivals : List (Arrival PlacementRecord)), Reachable s →
      placementArrivals workload operations = arrivals → arrivals ≠ [] →
      s.latestPlacement[workload]? = none →
      s.Along (Operation.Places workload (arrivals.map (·.record.id))) operations →
      Timed Arrival.observed Arrival.claimed 0 arrivals →
      (arrivals.map (·.record.id)).Nodup →
      (s.run operations).NewestIsCurrent workload arrivals := by
  intro h
  have hplaces := places_deployment 2000 (recorded_of_fresh (by decide +kernel) (by decide +kernel)
    (by decide +kernel))
  obtain ⟨a, ha, hnewest, hcurrent, -⟩ := h Deployment.loaded Deployment.workload.id
    (Deployment.placementOperations 2000)
    [Deployment.firstPlacement, Deployment.secondPlacement 2000] Deployment.reachable_loaded
    (by decide +kernel) (by decide) (by decide +kernel) hplaces
    (timed_placements 2000 (by decide) (by decide)) (by decide +kernel)
  have hstale : ((Deployment.loaded.run (Deployment.placementOperations
      2000)).placements[(Deployment.placement "second").id]?).map (·.currentness) =
        some .stale := by
    decide +kernel
  have hsecond := hnewest (Deployment.secondPlacement 2000)
    (List.mem_cons_of_mem _ List.mem_cons_self)
  simp only [List.mem_cons, List.not_mem_nil, or_false] at ha
  rcases ha with rfl | rfl
  · exact absurd hsecond (by decide)
  · have hcontra := hstale.symm.trans hcurrent
    cases hcontra

end FederationObservatory
