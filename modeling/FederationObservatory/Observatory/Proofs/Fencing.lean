import FederationObservatory.Observatory.Proofs.Records
import FederationObservatory.Observatory.Proofs.Restore

/-!
# Fencing

A fence on a boot identity is permanent: it survives every call, and the durable state of any
state in which it stands carries it. What it withdraws is less than the source's comment says:
the sweep visits four of the fourteen collections.
-/

namespace FederationObservatory

/-! ## States after a fence -/

/-- The durable states that hold what an observatory captured: the capture itself, and what a load
    of the file it was saved to gives. -/
inductive CapturedFrom (s : Impl) : DurableState → Prop where
  | capture (now : TimestampNanos) : CapturedFrom s (captureDurableState s now)
  | file {now : TimestampNanos} {image : ByteCodec.Bytes} {d : DurableState}
      (hsave : (saveState s now).1 = .ok image)
      (hload : loadDurableState (some image) s.bounds = .ok d) : CapturedFrom s d

/-- The states later than a given one. A call that restores may restore only what was captured in a
    later state; it may do so in any observatory with these bounds, so that a restart of the
    process is covered. -/
inductive Later (start : Impl) : Impl → Prop where
  | refl : Later start start
  | next {s : Impl} (h : Later start s) {operation : Operation}
      (hrestores : operation.restores s = none) : Later start (operation.next s)
  | restored {s captured : Impl} (h : Later start captured) (hbounds : s.bounds = captured.bounds)
      {d : DurableState} (hd : CapturedFrom captured d) {operation : Operation}
      (hrestores : operation.restores s = some d) : Later start (operation.next s)

/-- The boot identity is registered and fenced. -/
def Impl.Fenced (s : Impl) (key : PublisherKey) : Prop :=
  ∃ a, s.publishers[key]? = some a ∧ a.fenced = true

/-- The durable state has a watermark of the boot identity, and only fenced ones. -/
structure DurableState.Fenced (d : DurableState) (key : PublisherKey) : Prop where
  recorded : ∃ w ∈ d.publisherWatermarks, w.key = key
  fenced : ∀ w ∈ d.publisherWatermarks, w.key = key → w.fenced = true

variable {s : Impl} {key : PublisherKey}

theorem fenced_of_fencePublisher {publisher : PublisherId} {boot : BootGeneration} {reason : Text}
    (h : (fencePublisher s publisher boot reason).1 = .ok ()) :
    (fencePublisher s publisher boot reason).2.Fenced ⟨publisher, boot⟩ := by
  rcases fencePublisher_cases s publisher boot reason with
    ⟨e, hrun⟩ | ⟨-, hrun⟩ | ⟨a, -, hrun⟩
  · rw [hrun] at h
    cases h
  · rw [hrun]
    exact ⟨_, Std.TreeMap.getElem?_insert_self, rfl⟩
  · rw [hrun]
    refine ⟨_, Std.TreeMap.getElem?_insert_self, ?_⟩
    unfold PublisherAuthority.fence
    split
    · assumption
    · rfl

theorem Impl.Fenced.next {operation : Operation} (h : s.Fenced key)
    (hrestores : operation.restores s = none) : (operation.next s).Fenced key := by
  obtain ⟨a, ha, hfenced⟩ := h
  obtain ⟨b, hb, hevolves⟩ := (operation.entryStep hrestores key).evolves a ha
  exact ⟨b, hb, hevolves.fenced hfenced⟩

/-! ## The fence in durable states -/

theorem PublisherAuthority.Names.key_toWatermark {a : PublisherAuthority} (h : a.Names key) :
    a.toWatermark.key = key :=
  PublisherKey.ext h.1 h.2

/-- A capture has a watermark of every boot identity that is registered. -/
theorem recorded_capture {a : PublisherAuthority} (hkeyed : s.Keyed)
    (ha : s.publishers[key]? = some a) (now : TimestampNanos) :
    a.toWatermark ∈ (captureDurableState s now).publisherWatermarks ∧ a.toWatermark.key = key :=
  ⟨List.mem_map_of_mem (Tables.mem_values_iff.mpr ⟨key, ha⟩), (hkeyed key a ha).key_toWatermark⟩

/-- A capture keeps the fence. -/
theorem Impl.Fenced.capture (h : s.Fenced key) (hkeyed : s.Keyed) (now : TimestampNanos) :
    (captureDurableState s now).Fenced key := by
  obtain ⟨a, ha, hfenced⟩ := h
  refine ⟨⟨a.toWatermark, recorded_capture hkeyed ha now⟩, ?_⟩
  intro w hw hkey
  obtain ⟨b, hb, rfl⟩ := List.mem_map.mp hw
  obtain ⟨key', hb⟩ := Tables.mem_values_iff.mp hb
  -- the entry names its key, so the two keys are one and the entry is the fenced one
  obtain rfl : key' = key := (hkeyed key' b hb).key_toWatermark.symm.trans hkey
  obtain rfl := Option.some.inj (hb.symm.trans ha)
  exact hfenced

theorem DurableState.Fenced.of_perm {d d' : DurableState} (h : d.Fenced key)
    (hperm : d'.publisherWatermarks.Perm d.publisherWatermarks) : d'.Fenced key := by
  obtain ⟨⟨w, hw, hkey⟩, hfenced⟩ := h
  exact ⟨⟨w, hperm.mem_iff.mpr hw, hkey⟩, fun w hw => hfenced w (hperm.mem_iff.mp hw)⟩

/-- Whatever was captured keeps the fence, in memory or through the file. -/
theorem Impl.Fenced.captured (h : s.Fenced key) (hkeyed : s.Keyed)
    (hbounds : s.bounds.validate = .ok ()) {d : DurableState} (hd : CapturedFrom s d) :
    d.Fenced key := by
  cases hd with
  | capture now => exact h.capture hkeyed now
  | @file now image d hsave hload =>
    obtain ⟨-, hdecode⟩ := loadDurableState_eq_ok.mp hload
    obtain ⟨-, -, hperm⟩ := decode_of_save hbounds hsave hdecode
    exact (h.capture hkeyed now).of_perm hperm

/-- A restore registers every boot identity that has a watermark. -/
theorem known_restored {d : DurableState} {w : PublisherWatermark}
    (hw : w ∈ d.publisherWatermarks) : ∃ a, (restoredState s d).publishers[w.key]? = some a :=
  Tables.exists_emplaceAll_of_mem PublisherWatermark.key (·.toAuthority d.writtenByEpoch) hw

/-- A restore of a durable state with the fence has the fence. -/
theorem DurableState.Fenced.restored {d : DurableState} (h : d.Fenced key) :
    (restoredState s d).Fenced key := by
  obtain ⟨⟨w, hw, rfl⟩, hfenced⟩ := h
  obtain ⟨a, ha⟩ := known_restored (s := s) hw
  obtain ⟨w', hw', hkey, rfl⟩ := Tables.exists_of_emplaceAll ha
  exact ⟨_, ha, hfenced w' hw' hkey⟩

/-- What holds of every later state: the fence stands, the table is keyed, the bounds are valid. -/
theorem Later.fenced {start t : Impl} (hlater : Later start t) (hfenced : start.Fenced key)
    (hkeyed : start.Keyed) (hbounds : start.bounds.validate = .ok ()) :
    t.Fenced key ∧ t.Keyed ∧ t.bounds.validate = .ok () := by
  induction hlater with
  | refl => exact ⟨hfenced, hkeyed, hbounds⟩
  | next _ hrestores ih =>
    obtain ⟨hfenced, hkeyed, hbounds⟩ := ih
    exact ⟨hfenced.next hrestores, hkeyed.next _, by rw [bounds_next, hbounds]⟩
  | @restored s captured _ hsame d hd operation hrestores ih =>
    obtain ⟨hfenced, hkeyed, hbounds⟩ := ih
    refine ⟨?_, ?_, by rw [bounds_next, hsame, hbounds]⟩
    · rw [next_of_restores hrestores]
      exact (hfenced.captured hkeyed hbounds hd).restored
    · rw [next_of_restores hrestores]
      exact keyed_restoredState s d

/-! ## Permanence -/

/-- Every request of a fenced boot identity is refused. -/
theorem request_error_of_fenced {ctx : PublicationContext} (h : s.Fenced ctx.key) (clock : Clock)
    (request : Request) : ∃ e, (request.run s clock ctx).result = .error e := by
  obtain ⟨a, ha, hfenced⟩ := h
  have hnot : ∀ check, ¬Admitted s ctx check := by
    intro check hadmitted
    obtain rfl := Option.some.inj (ha.symm.trans hadmitted.registered)
    rw [hadmitted.notFenced] at hfenced
    cases hfenced
  cases request with
  | publish p =>
    rcases p.run_cases s clock ctx with ⟨r, hrun, -⟩ | ⟨check, _, _, hadmitted, -⟩ |
      ⟨check, _, hadmitted, -⟩
    · exact ⟨r.1, by rw [Request.run, hrun]; rfl⟩
    · exact absurd hadmitted (hnot check)
    · exact absurd hadmitted (hnot check)
  | registerPublisher =>
    rcases registerPublisher_cases s clock ctx with ⟨r, hrun, -⟩ | ⟨check, _, hadmitted, -⟩ |
      ⟨_, -, hunknown, -⟩
    · exact ⟨r.1, by rw [Request.run, hrun]; rfl⟩
    · exact absurd hadmitted (hnot check)
    · rw [ha] at hunknown
      cases hunknown

/-- A fence is permanent: in every state later than a successful fence, every request of the fenced
    boot identity is refused and changes no record, index or watermark. -/
theorem fence_permanent {s t : Impl} (hs : Reachable s) {publisher : PublisherId}
    {boot : BootGeneration} {reason : Text}
    (hfence : (fencePublisher s publisher boot reason).1 = .ok ())
    (hlater : Later (fencePublisher s publisher boot reason).2 t) (clock : Clock)
    (ctx : PublicationContext) (hpublisher : ctx.publisher = publisher) (hboot : ctx.boot = boot)
    (request : Request) :
    (∃ e, (request.run t clock ctx).result = .error e) ∧
      t.Preserved (request.run t clock ctx).state := by
  have hstart : Reachable (fencePublisher s publisher boot reason).2 :=
    hs.next (.fencePublisher publisher boot reason)
  have hkey : ctx.key = ⟨publisher, boot⟩ := PublisherKey.ext hpublisher hboot
  obtain ⟨hfenced, -, -⟩ :=
    hlater.fenced (fenced_of_fencePublisher hfence) hstart.keyed hstart.validate_bounds
  rw [← hkey] at hfenced
  obtain ⟨e, he⟩ := request_error_of_fenced hfenced clock request
  exact ⟨⟨e, he⟩, request_preserved_of_error request he⟩

/-- The deployment after its publisher was fenced. -/
def Deployment.fenced : Impl :=
  (fencePublisher Deployment.state (Deployment.context 5).publisher (Deployment.context 5).boot
    (.ofString "replaced")).2

/-- The deployment fenced and restored from its own capture. -/
def Deployment.fencedRestored : Impl :=
  (Operation.restore (captureDurableState Deployment.fenced 0)).next Deployment.fenced

/-- After the fence and a restore the publisher can neither register nor publish. -/
theorem fence_permanent_deployment :
    (∃ e, (Request.registerPublisher.run Deployment.fencedRestored {}
        (Deployment.context 5)).result = .error e) ∧
      Deployment.fencedRestored.Preserved
        (Request.registerPublisher.run Deployment.fencedRestored {} (Deployment.context 5)).state := by
  have hvalid : (captureDurableState Deployment.fenced 0).validate Deployment.fenced.bounds =
      .ok () := by decide +kernel
  have hlater : Later Deployment.fenced Deployment.fencedRestored :=
    .restored .refl rfl (.capture 0) (by simp only [Operation.restores, hvalid])
  exact fence_permanent Deployment.reachable_state (by decide +kernel) hlater {}
    (Deployment.context 5) rfl rfl .registerPublisher

/-! ## Withdrawal -/

/-- The record is current evidence of the boot identity. -/
def CurrentOf (key : PublisherKey) {k : RecordKind} (record : k.Record) : Prop :=
  (StoredRecord.stamp record).publisher = key.publisher ∧
    (StoredRecord.stamp record).publisherBoot = key.boot ∧
    StoredRecord.currentness record = .current

/-- No stored record is current evidence of the boot identity. -/
def Impl.Withdrawn (s : Impl) (key : PublisherKey) : Prop :=
  ∀ (k : RecordKind) (at' : k.Key) (record : k.Record), (s.table k)[at']? = some record →
    ¬CurrentOf key record

theorem not_currentOf_sweep (key : PublisherKey) {k : RecordKind} (record : k.Record) :
    ¬CurrentOf key (sweep key record) := by
  unfold sweep
  split
  · rintro ⟨-, -, hcurrent⟩
    rw [StoredRecord.currentness_withCurrentness] at hcurrent
    cases hcurrent
  · rename_i hnot
    exact hnot

theorem currentOf_of_sweep {key key' : PublisherKey} {k : RecordKind} {record : k.Record}
    (h : CurrentOf key (sweep key' record)) : CurrentOf key record := by
  unfold sweep at h
  split at h
  · obtain ⟨-, -, hcurrent⟩ := h
    rw [StoredRecord.currentness_withCurrentness] at hcurrent
    cases hcurrent
  · exact h

/-- What a publication writes is evidence of its own context, except that a superseded migration
    stops being current. -/
theorem currentOf_written {clock : Clock} {ctx : PublicationContext} {p : Publication}
    {k : RecordKind} {old : Option k.Record} {record : k.Record}
    (h : Written s clock ctx p k old record) (hcurrent : CurrentOf key record) :
    ctx.key = key := by
  have hstamp : StoredRecord.stamp record = stampFor clock ctx → ctx.key = key := by
    intro hstamp
    rw [CurrentOf, hstamp] at hcurrent
    exact PublisherKey.ext hcurrent.1 hcurrent.2.1
  have hsuperseded : ∀ r : MigrationRecord, ¬CurrentOf (k := .migration) key r.superseded := by
    rintro r ⟨-, -, hcurrent⟩
    change r.superseded.currentness = .current at hcurrent
    unfold MigrationRecord.superseded at hcurrent
    split at hcurrent
    · cases hcurrent
    · contradiction
  cases h with
  | registered record hk => exact hstamp (StoredRecord.stamp_withStamp _ _)
  | migration record hold final hfinal =>
    rcases hfinal with rfl | rfl
    · exact hstamp rfl
    · exact absurd hcurrent (hsuperseded _)
  | superseded record previous => exact absurd hcurrent (hsuperseded previous)
  | _ => exact hstamp rfl

theorem not_currentOf_invalidated (reason : Text) (record : ClusterRecord) :
    ¬CurrentOf (k := .cluster) key (record.invalidated reason) := by
  rintro ⟨-, -, hcurrent⟩
  change (if record.currentness = .retired then _ else _) = Currentness.current at hcurrent
  split at hcurrent <;> cases hcurrent

/-- A record is current evidence of a fenced boot identity only if it was so before the call. -/
theorem Impl.Withdrawn.next {operation : Operation} (h : s.Withdrawn key) (hfenced : s.Fenced key)
    (hrestores : operation.restores s = none) : (operation.next s).Withdrawn key := by
  intro k at' record hrecord hcurrent
  have hstep := Operation.recordStep hrestores k at'
  rw [hrecord] at hstep
  generalize hfound : (s.table k)[at']? = found at hstep
  cases hstep with
  | unchanged => exact h k at' record hfound hcurrent
  | written hsubmit hadmitted haccepts hwritten =>
    -- the publication would have to be one of the fenced boot identity
    obtain ⟨a, ha, hfenced⟩ := hfenced
    rw [← currentOf_written hwritten hcurrent, hadmitted.registered] at ha
    rw [← Option.some.inj ha, hadmitted.notFenced] at hfenced
    cases hfenced
  | swept key' old => exact h k at' old hfound (currentOf_of_sweep hcurrent)
  | invalidated reason old => exact not_currentOf_invalidated reason old hcurrent

/-- Nothing is current after a restore. -/
theorem withdrawn_restoredState (s : Impl) (d : DurableState) (key : PublisherKey) :
    (restoredState s d).Withdrawn key := by
  rintro k at' record hrecord ⟨-, -, hcurrent⟩
  rw [show (restoredState s d).toCollections = restoredCollections d from rfl,
    restoredCollections_table] at hrecord
  obtain ⟨old, -, -, rfl⟩ := Tables.exists_of_emplaceAll hrecord
  exact currentness_restoredRecord k old hcurrent

/-- A restore, if the call is one, keeps the boot identity fenced. -/
def Operation.KeepsFence (key : PublisherKey) (s : Impl) (operation : Operation) : Prop :=
  ∀ d, operation.restores s = some d → d.Fenced key

/-- Along a run that keeps the fence nothing becomes current evidence of the fenced boot
    identity. -/
theorem Impl.Withdrawn.run {operations : List Operation} (h : s.Withdrawn key)
    (hfenced : s.Fenced key) (halong : s.Along (Operation.KeepsFence key) operations) :
    (s.run operations).Withdrawn key := by
  refine (Runs.invariant (I := fun t => t.Withdrawn key ∧ t.Fenced key) ?_ halong ⟨h, hfenced⟩).1
  rintro t operation hkeeps ⟨hwithdrawn, hfenced⟩
  cases hrestores : operation.restores t with
  | none => exact ⟨hwithdrawn.next hfenced hrestores, hfenced.next hrestores⟩
  | some d =>
    rw [next_of_restores hrestores]
    exact ⟨withdrawn_restoredState t d key, (hkeeps d hrestores).restored⟩

/-- A fence of a registered boot identity withdraws its evidence, then and after every run that
    keeps the fence, exactly when it had no current record outside the four collections that are
    swept. -/
theorem fence_withdraws_iff {s : Impl} {publisher : PublisherId} {boot : BootGeneration}
    {reason : Text} {a : PublisherAuthority}
    (ha : s.publishers[(⟨publisher, boot⟩ : PublisherKey)]? = some a)
    (hfence : (fencePublisher s publisher boot reason).1 = .ok ()) :
    (∀ operations,
        (fencePublisher s publisher boot reason).2.Along
          (Operation.KeepsFence ⟨publisher, boot⟩) operations →
        ((fencePublisher s publisher boot reason).2.run operations).Withdrawn
          ⟨publisher, boot⟩) ↔
      ∀ (k : RecordKind) (at' : k.Key) (record : k.Record), k.swept = false →
        (s.table k)[at']? = some record → ¬CurrentOf ⟨publisher, boot⟩ record := by
  have hlookup : ∀ (k : RecordKind) (at' : k.Key),
      ((fencePublisher s publisher boot reason).2.table k)[at']? =
        if k.swept then ((s.table k)[at']?).map (sweep ⟨publisher, boot⟩)
        else (s.table k)[at']? := by
    intro k at'
    rcases fencePublisher_cases s publisher boot reason with
      ⟨e, hrun⟩ | ⟨hunknown, -⟩ | ⟨a, -, hrun⟩
    · rw [hrun] at hfence
      cases hfence
    · rw [ha] at hunknown
      cases hunknown
    · rw [hrun]
      exact lookup_applyFence _ a reason k at'
  constructor
  · intro h k at' record hswept hrecord
    refine h [] trivial k at' record ?_
    change ((fencePublisher s publisher boot reason).2.table k)[at']? = some record
    rw [hlookup, hswept]
    exact hrecord
  · intro h operations halong
    refine Impl.Withdrawn.run ?_ (fenced_of_fencePublisher hfence) halong
    intro k at' record hrecord
    rw [hlookup] at hrecord
    cases hswept : k.swept with
    | true =>
      rw [hswept, if_pos rfl] at hrecord
      obtain ⟨old, -, rfl⟩ := Option.map_eq_some_iff.mp hrecord
      exact not_currentOf_sweep _ old
    | false =>
      rw [hswept] at hrecord
      exact h k at' record hswept hrecord

/-- The deployment's publisher has registered a federation, a site and a cluster, which are all
    swept. -/
theorem fence_withdraws_deployment :
    Deployment.fenced.Withdrawn (Deployment.context 5).key ∧
      (Deployment.fenced.run [Deployment.register 5]).Withdrawn (Deployment.context 5).key := by
  have hkey : (Deployment.state.publishers[(Deployment.context 5).key]?).isSome := by
    decide +kernel
  obtain ⟨a, ha⟩ := Option.isSome_iff_exists.mp hkey
  have hnone : ∀ (k : RecordKind) (at' : k.Key) (record : k.Record), k.swept = false →
      (Deployment.state.table k)[at']? = some record →
      ¬CurrentOf (Deployment.context 5).key record := by
    intro k at' record hswept hrecord
    have hempty : (Deployment.state.table k).isEmpty = true := by
      cases k <;> first | exact absurd hswept (by decide) | decide +kernel
    rw [Std.TreeMap.getElem?_of_isEmpty hempty] at hrecord
    cases hrecord
  have hfence : (fencePublisher Deployment.state (Deployment.context 5).publisher
      (Deployment.context 5).boot (.ofString "replaced")).1 = .ok () := by decide +kernel
  have hwithdrawn := (fence_withdraws_iff ha hfence).mpr hnone
  refine ⟨hwithdrawn [] trivial, hwithdrawn [Deployment.register 5] ⟨?_, trivial⟩⟩
  intro d hrestores
  cases hrestores

/-- A fence does not withdraw all evidence: a runtime the fenced publisher registered is current
    after the fence. -/
theorem fence_leaves_runtime_current :
    ¬∀ (s : Impl) (publisher : PublisherId) (boot : BootGeneration) (reason : Text), Reachable s →
      (s.publishers[(⟨publisher, boot⟩ : PublisherKey)]?).isSome →
      (fencePublisher s publisher boot reason).1 = .ok () →
      (fencePublisher s publisher boot reason).2.Withdrawn ⟨publisher, boot⟩ := by
  intro h
  let s := Deployment.state.run [Deployment.publish 5 (.registerRuntime Deployment.runtime)]
  have hwithdrawn := h s (Deployment.context 5).publisher (Deployment.context 5).boot
    (.ofString "replaced") (Deployment.reachable_state.run _) (by decide +kernel)
    (by decide +kernel)
  have hlookup : ((fencePublisher s (Deployment.context 5).publisher (Deployment.context 5).boot
      (.ofString "replaced")).2.runtimes[Deployment.runtime.id]?).map
        (fun r => (r.stamp.publisher, r.stamp.publisherBoot, r.currentness)) =
      some ((Deployment.context 5).publisher, (Deployment.context 5).boot, .current) := by
    decide +kernel
  obtain ⟨record, hrecord, hfields⟩ := Option.map_eq_some_iff.mp hlookup
  obtain ⟨hpublisher, hboot, hcurrent⟩ := by simpa only [Prod.mk.injEq] using hfields
  exact hwithdrawn .runtime Deployment.runtime.id record hrecord ⟨hpublisher, hboot, hcurrent⟩

end FederationObservatory
