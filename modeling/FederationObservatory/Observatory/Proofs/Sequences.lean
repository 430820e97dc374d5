import FederationObservatory.Observatory.Proofs.Publishers

/-!
# Sequence accounting

The watermark of a boot identity and the number of gaps in its stream of sequences, over a run.
`finish` counts the gap it reports. The first registration of a boot identity does not go through
`finish`: it reports its gap and does not count it.
-/

namespace FederationObservatory

variable {s : Impl} {clock : Clock} {ctx : PublicationContext} {key : PublisherKey}

/-! ## What is reported -/

/-- The watermark of a boot identity; an unknown one has accepted nothing. -/
def Impl.watermarkOf (s : Impl) (key : PublisherKey) : Sequence :=
  ((s.publishers[key]?).map (·.watermark)).getD {}

/-- The gaps counted for a boot identity. -/
def Impl.gapsOf (s : Impl) (key : PublisherKey) : Nat := ((s.publishers[key]?).map (·.gaps)).getD 0

/-- The sequence and the reported gap of an accepted call of a boot identity. -/
def Operation.reports (key : PublisherKey) (s : Impl) : Operation → Option (Sequence × UInt64)
  | .submit clock ctx request =>
    match (request.run s clock ctx).result with
    | .ok r => if ctx.key = key then some (ctx.sequence, r.sequenceGap) else none
    | .error _ => none
  | _ => none

/-- What the accepted calls of a boot identity add up to. -/
structure Tally where
  /-- The sum of the reported gaps, and one for each call with an advancing sequence. -/
  advanced : Nat := 0
  /-- The number of calls that reported a gap. -/
  gaps : Nat := 0

/-- Count one call, made at a watermark. -/
def Tally.count (tally : Tally) (watermark : Sequence) : Option (Sequence × UInt64) → Tally
  | none => tally
  | some (sequence, gap) =>
    { advanced := tally.advanced + if watermark < sequence then gap.toNat + 1 else 0
      gaps := tally.gaps + if gap ≠ 0 then 1 else 0 }

/-- One call, with the tally of a boot identity next to the state. -/
def tallyNext (key : PublisherKey) (current : Impl × Tally) (operation : Operation) :
    Impl × Tally :=
  (operation.next current.1,
    current.2.count (current.1.watermarkOf key) (operation.reports key current.1))

/-- The tally of a boot identity over a run. -/
def Impl.tally (s : Impl) (key : PublisherKey) (operations : List Operation) : Tally :=
  (Runs.run (tallyNext key) (s, {}) operations).2

/-! ## One call -/

/-- The call registers the boot identity for the first time. -/
def Operation.RegistersFirst (key : PublisherKey) (s : Impl) : Operation → Prop
  | .submit _ ctx .registerPublisher =>
    ctx.key = key ∧ ctx.validate = .ok () ∧ s.publishers[key]? = none ∧
      s.hasRoomFor ctx.federation
  | _ => False

/-- What a call does to the account of a boot identity, next to what it reports. -/
inductive SequenceStep (key : PublisherKey) (s : Impl) (operation : Operation) (t : Impl) :
    Option (Sequence × UInt64) → Prop where
  | silent (hwatermark : t.watermarkOf key = s.watermarkOf key)
      (hgaps : t.gapsOf key = s.gapsOf key) (hfirst : ¬operation.RegistersFirst key s) :
    SequenceStep key s operation t none
  | accepted {sequence : Sequence} {gap : UInt64} (hle : s.watermarkOf key ≤ sequence)
      (hwatermark : t.watermarkOf key = sequence)
      (hgap : gap = if s.watermarkOf key < sequence then
        sequence.value - (s.watermarkOf key).value - 1 else 0)
      (hgaps : ¬operation.RegistersFirst key s →
        t.gapsOf key = s.gapsOf key + if gap ≠ 0 then 1 else 0)
      (hfirst : operation.RegistersFirst key s → t.gapsOf key = s.gapsOf key) :
    SequenceStep key s operation t (some (sequence, gap))

theorem account_of_entry {t : Impl} (h : t.publishers[key]? = s.publishers[key]?) :
    t.watermarkOf key = s.watermarkOf key ∧ t.gapsOf key = s.gapsOf key := by
  unfold Impl.watermarkOf Impl.gapsOf
  rw [h]
  exact ⟨rfl, rfl⟩

theorem account_of_preserved {t : Impl} (h : s.Preserved t) :
    t.watermarkOf key = s.watermarkOf key ∧ t.gapsOf key = s.gapsOf key := by
  unfold Impl.watermarkOf Impl.gapsOf
  rw [h.lookup (·.watermark) (fun _ => rfl) key, h.lookup (·.gaps) (fun _ => rfl) key]
  exact ⟨rfl, rfl⟩

theorem account_of_some {a : PublisherAuthority} (h : s.publishers[key]? = some a) :
    s.watermarkOf key = a.watermark ∧ s.gapsOf key = a.gaps := by
  unfold Impl.watermarkOf Impl.gapsOf
  rw [h]
  exact ⟨rfl, rfl⟩

theorem account_of_none (h : s.publishers[key]? = none) :
    s.watermarkOf key = {} ∧ s.gapsOf key = 0 := by
  unfold Impl.watermarkOf Impl.gapsOf
  rw [h]
  exact ⟨rfl, rfl⟩

/-- A call of another boot identity reports nothing for this one. -/
theorem reports_of_ne {request : Request} (h : ctx.key ≠ key) :
    (Operation.submit clock ctx request).reports key s = none := by
  simp only [Operation.reports, if_neg h]
  split <;> rfl

theorem reports_of_ok {request : Request} {r : IngestResult} {t : Impl}
    (hrun : request.run s clock ctx = .ok (r, t)) (h : ctx.key = key) :
    (Operation.submit clock ctx request).reports key s = some (ctx.sequence, r.sequenceGap) := by
  simp only [Operation.reports, hrun, Outcome.result, if_pos h]

theorem reports_of_error {request : Request} {r : Error × Impl}
    (hrun : request.run s clock ctx = .error r) :
    (Operation.submit clock ctx request).reports key s = none := by
  simp only [Operation.reports, hrun, Outcome.result]

theorem not_registersFirst_of_ne {request : Request} (h : ctx.key ≠ key) :
    ¬(Operation.submit clock ctx request).RegistersFirst key s := by
  cases request with
  | registerPublisher => exact fun hfirst => h hfirst.1
  | publish p => exact id

theorem not_registersFirst_of_known {request : Request} {a : PublisherAuthority}
    (h : s.publishers[ctx.key]? = some a) :
    ¬(Operation.submit clock ctx request).RegistersFirst key s := by
  cases request with
  | registerPublisher =>
    rintro ⟨rfl, -, hunknown, -⟩
    rw [h] at hunknown
    cases hunknown
  | publish p => exact id

/-- A refused request. -/
theorem SequenceStep.of_error {request : Request} {r : Error × Impl}
    (hrun : request.run s clock ctx = .error r) (hpreserved : s.Preserved r.2)
    (key : PublisherKey) :
    SequenceStep key s (.submit clock ctx request)
      ((Operation.submit clock ctx request).next s)
      ((Operation.submit clock ctx request).reports key s) := by
  have hnext : (Operation.submit clock ctx request).next s = r.2 := by
    rw [Operation.next, hrun]
    rfl
  rw [reports_of_error hrun, hnext]
  obtain ⟨hwatermark, hgaps⟩ := @account_of_preserved s key _ hpreserved
  refine .silent hwatermark hgaps ?_
  -- a first registration is not refused
  cases request with
  | registerPublisher =>
    rintro ⟨rfl, hvalid, hunknown, hroom⟩
    obtain ⟨r', hok, -⟩ := @registerPublisher_of_room s clock ctx hvalid hunknown hroom
    cases hok.symm.trans hrun
  | publish p => exact id

/-- A request of a known boot identity that ends in `finish`. -/
theorem SequenceStep.of_finish {w : Impl} {a b : PublisherAuthority} {request : Request}
    {disposition : IngestDisposition} {detail : Text} (hw : w.publishers = s.publishers)
    (ha : s.publishers[ctx.key]? = some a) (hwatermark : b.watermark = a.watermark)
    (hgaps : b.gaps = a.gaps) (hle : a.watermark ≤ ctx.sequence)
    (hrun : request.run s clock ctx = .ok (finish w clock ctx b disposition detail))
    (key : PublisherKey) :
    SequenceStep key s (.submit clock ctx request)
      ((Operation.submit clock ctx request).next s)
      ((Operation.submit clock ctx request).reports key s) := by
  have hnext : (Operation.submit clock ctx request).next s =
      (finish w clock ctx b disposition detail).2 := by
    rw [Operation.next, hrun]
    rfl
  have hentry := finish_publishers w clock ctx b disposition detail key
  rw [hnext]
  by_cases hkey : ctx.key = key
  · subst hkey
    rw [if_pos rfl] at hentry
    obtain ⟨hbefore, hcounted⟩ := account_of_some ha
    obtain ⟨hafter, hcount⟩ := account_of_some hentry
    have hunknown := @not_registersFirst_of_known s clock ctx ctx.key request a ha
    rw [reports_of_ok hrun rfl]
    refine .accepted (hbefore ▸ hle) ?_ ?_ (fun _ => ?_) (fun hfirst => absurd hfirst hunknown)
    · rw [hafter]
      exact settle_watermark clock ctx b disposition (hwatermark ▸ hle)
    · rw [hbefore, ← hwatermark]
      rfl
    · rw [hcount, hcounted, ← hgaps]
      rfl
  · rw [if_neg hkey, hw] at hentry
    obtain ⟨hsame, hcount⟩ := account_of_entry hentry
    rw [reports_of_ne hkey]
    exact .silent hsame hcount (not_registersFirst_of_ne hkey)

theorem firstGap_eq {sequence : Sequence} (hpos : ({} : Sequence) < sequence) :
    (if 1 < sequence.value then sequence.value - 1 else 0) =
      sequence.value - ({} : Sequence).value - 1 := by
  have hzero : sequence.value - ({} : Sequence).value = sequence.value :=
    UInt64.sub_zero _
  rw [hzero]
  split
  · rfl
  · rename_i hone
    have hlt : 0 < sequence.value.toNat := UInt64.lt_iff_toNat_lt.mp hpos
    have hle : sequence.value.toNat ≤ 1 := UInt64.le_iff_toNat_le.mp (UInt64.not_lt.mp hone)
    have hvalue : sequence.value = 1 := UInt64.toNat_inj.mp (by simpa using (by omega))
    rw [hvalue]
    rfl

/-- The first registration of a boot identity: the gap is what `finish` would report, but it is not
    counted. -/
theorem SequenceStep.of_first (hvalid : ctx.validate = .ok ())
    (hunknown : s.publishers[ctx.key]? = none) (hroom : s.hasRoomFor ctx.federation)
    (clock : Clock) (key : PublisherKey) :
    SequenceStep key s (.submit clock ctx .registerPublisher)
      ((Operation.submit clock ctx .registerPublisher).next s)
      ((Operation.submit clock ctx .registerPublisher).reports key s) := by
  obtain ⟨r, hregister, hgap⟩ := @registerPublisher_of_room s clock ctx hvalid hunknown hroom
  have hrun : Request.registerPublisher.run s clock ctx = .ok (r, s.withPublisher clock ctx) :=
    hregister
  have hnext : (Operation.submit clock ctx .registerPublisher).next s =
      s.withPublisher clock ctx := by
    rw [Operation.next, hrun]
    rfl
  have hpos := sequence_pos_of_validate hvalid
  have hentry : (s.withPublisher clock ctx).publishers[key]? =
      if ctx.key = key then some (.register clock ctx) else s.publishers[key]? :=
    Std.TreeMap.getElem?_insert.trans (by simp only [Std.LawfulEqOrd.compare_eq_iff_eq])
  rw [hnext]
  by_cases hkey : ctx.key = key
  · subst hkey
    rw [if_pos rfl] at hentry
    obtain ⟨hbefore, hcounted⟩ := account_of_none hunknown
    obtain ⟨hafter, hcount⟩ := account_of_some hentry
    rw [reports_of_ok hrun rfl]
    refine .accepted ?_ ?_ ?_ (fun hnot => absurd ⟨rfl, hvalid, hunknown, hroom⟩ hnot) (fun _ => ?_)
    · rw [hbefore]
      exact UInt64.zero_le
    · rw [hafter]
      exact if_pos hpos
    · rw [hgap, hbefore, if_pos hpos]
      exact firstGap_eq hpos
    · rw [hcount, hcounted]
      rfl
  · rw [if_neg hkey] at hentry
    obtain ⟨hsame, hcount⟩ := account_of_entry hentry
    rw [reports_of_ne hkey]
    exact .silent hsame hcount (not_registersFirst_of_ne hkey)

/-- A fence counts nothing; one of an unknown boot identity records that it accepted nothing. -/
theorem account_fence (publisher : PublisherId) (boot : BootGeneration) (reason : Text) :
    (fencePublisher s publisher boot reason).2.watermarkOf key = s.watermarkOf key ∧
      (fencePublisher s publisher boot reason).2.gapsOf key = s.gapsOf key := by
  have hinsert : ∀ a : PublisherAuthority,
      (s.publishers.insert ⟨publisher, boot⟩ a)[key]? =
        if (⟨publisher, boot⟩ : PublisherKey) = key then some a else s.publishers[key]? := by
    intro a
    exact Std.TreeMap.getElem?_insert.trans (by simp only [Std.LawfulEqOrd.compare_eq_iff_eq])
  rcases fencePublisher_cases s publisher boot reason with
    ⟨e, hrun⟩ | ⟨hunknown, hrun⟩ | ⟨a, hknown, hrun⟩
  · rw [hrun]
    exact ⟨rfl, rfl⟩
  · rw [hrun]
    by_cases hkey : (⟨publisher, boot⟩ : PublisherKey) = key
    · subst hkey
      obtain ⟨hbefore, hcounted⟩ := account_of_none hunknown
      obtain ⟨hafter, hcount⟩ := account_of_some (s := s.recordFence ⟨publisher, boot⟩ reason)
        ((hinsert _).trans (if_pos rfl))
      exact ⟨hafter.trans hbefore.symm, hcount.trans hcounted.symm⟩
    · exact account_of_entry ((hinsert _).trans (if_neg hkey))
  · rw [hrun]
    by_cases hkey : (⟨publisher, boot⟩ : PublisherKey) = key
    · subst hkey
      obtain ⟨hbefore, hcounted⟩ := account_of_some hknown
      obtain ⟨hafter, hcount⟩ := account_of_some (s := s.applyFence ⟨publisher, boot⟩ a reason)
        ((hinsert _).trans (if_pos rfl))
      have hfence : (a.fence reason).watermark = a.watermark ∧ (a.fence reason).gaps = a.gaps := by
        unfold PublisherAuthority.fence
        split <;> exact ⟨rfl, rfl⟩
      exact ⟨hafter.trans (hfence.1.trans hbefore.symm),
        hcount.trans (hfence.2.trans hcounted.symm)⟩
    · exact account_of_entry ((hinsert _).trans (if_neg hkey))

theorem account_invalidate (reason : Text) :
    (invalidateDynamicEvidence s reason).watermarkOf key = s.watermarkOf key ∧
      (invalidateDynamicEvidence s reason).gapsOf key = s.gapsOf key := by
  have hentry : (invalidateDynamicEvidence s reason).publishers[key]? =
      (s.publishers[key]?).map PublisherAuthority.invalidated :=
    Std.TreeMap.getElem?_map
  have hsame : ∀ a : PublisherAuthority,
      a.invalidated.watermark = a.watermark ∧ a.invalidated.gaps = a.gaps := by
    intro a
    unfold PublisherAuthority.invalidated
    split <;> exact ⟨rfl, rfl⟩
  unfold Impl.watermarkOf Impl.gapsOf
  rw [hentry]
  cases s.publishers[key]? with
  | none => exact ⟨rfl, rfl⟩
  | some a => exact hsame a

/-- What a call that does not restore does to the account of a boot identity. -/
theorem Operation.sequenceStep {operation : Operation} (hrestores : operation.restores s = none)
    (key : PublisherKey) :
    SequenceStep key s operation (operation.next s) (operation.reports key s) := by
  cases operation with
  | submit clock ctx request =>
    cases request with
    | registerPublisher =>
      obtain ⟨r, hrun, hpreserved⟩ | ⟨check, detail, hadmitted, hrun⟩ |
        ⟨-, hvalid, hunknown, hroom, -⟩ := registerPublisher_cases s clock ctx
      · have hrun' : Request.registerPublisher.run s clock ctx = .error r := hrun
        exact .of_error hrun' hpreserved key
      · have hrun' : Request.registerPublisher.run s clock ctx =
          .ok (finish s clock ctx (check.authority.revive ctx) .duplicate detail) := hrun
        exact .of_finish (b := check.authority.revive ctx) rfl hadmitted.registered rfl rfl
          hadmitted.sequence hrun' key
      · exact .of_first hvalid hunknown hroom clock key
    | publish p =>
      obtain ⟨r, hrun, hpreserved⟩ | ⟨check, disposition, detail, hadmitted, -, hrun⟩ |
        ⟨check, detail, hadmitted, -, hrun⟩ := p.run_cases s clock ctx
      · have hrun' : (Request.publish p).run s clock ctx = .error r := hrun
        exact .of_error hrun' hpreserved key
      · have hrun' : (Request.publish p).run s clock ctx =
          .ok (finish s clock ctx check.authority disposition detail) := hrun
        exact .of_finish rfl hadmitted.registered rfl rfl hadmitted.sequence hrun' key
      · have hrun' : (Request.publish p).run s clock ctx =
          .ok (finish (p.written s clock ctx) clock ctx check.authority (p.disposition s) detail) :=
          hrun
        exact .of_finish (p.written_control s clock ctx).publishers hadmitted.registered rfl rfl
          hadmitted.sequence hrun' key
  | fencePublisher publisher boot reason =>
    have haccount := @account_fence s key publisher boot reason
    exact .silent haccount.1 haccount.2 id
  | invalidateDynamicEvidence reason =>
    have haccount := @account_invalidate s key reason
    exact .silent haccount.1 haccount.2 id
  | saveState now => exact .silent rfl rfl id
  | loadState file =>
    rw [loadState_next_of_none hrestores]
    exact .silent rfl rfl id
  | restore d =>
    rw [restore_next_of_none hrestores]
    exact .silent rfl rfl id

/-! ## Runs -/

/-- The watermark is what the accepted calls advanced it to, and the gaps are those they
    reported. -/
structure Accounted (key : PublisherKey) (current : Impl × Tally) : Prop where
  watermark : (current.1.watermarkOf key).value.toNat = current.2.advanced
  gaps : current.1.gapsOf key = current.2.gaps

/-- The first registration of the boot identity skips sequences. -/
def Operation.RegistersPast (key : PublisherKey) (s : Impl) : Operation → Prop
  | .submit clock ctx .registerPublisher =>
    (Operation.submit clock ctx .registerPublisher).RegistersFirst key s ∧ 1 < ctx.sequence.value
  | _ => False

/-- From the gap to what the watermark advances by. -/
theorem advance_eq {watermark sequence : Sequence} {gap : UInt64} (hle : watermark ≤ sequence)
    (hgap : gap = if watermark < sequence then sequence.value - watermark.value - 1 else 0) :
    sequence.value.toNat =
      watermark.value.toNat + if watermark < sequence then gap.toNat + 1 else 0 := by
  have hle' : watermark.value.toNat ≤ sequence.value.toNat := UInt64.le_iff_toNat_le.mp hle
  by_cases hlt : watermark < sequence
  · have hlt' : watermark.value.toNat < sequence.value.toNat := UInt64.lt_iff_toNat_lt.mp hlt
    have hdifference := UInt64.toNat_sub_of_le _ _ hle
    have hone : (1 : UInt64) ≤ sequence.value - watermark.value := by
      rw [UInt64.le_iff_toNat_le, hdifference]
      change 1 ≤ _
      omega
    rw [if_pos hlt] at hgap ⊢
    rw [hgap, UInt64.toNat_sub_of_le _ _ hone, hdifference]
    change _ = _ + (_ - 1 + 1)
    omega
  · have hge : ¬watermark.value.toNat < sequence.value.toNat :=
      fun h => hlt (UInt64.lt_iff_toNat_lt.mpr h)
    rw [if_neg hlt]
    omega

/-- A first registration reports a gap exactly when it skips sequences. -/
theorem gap_ne_zero_iff {operation : Operation} {sequence : Sequence} {gap : UInt64}
    (hfirst : operation.RegistersFirst key s)
    (hreports : operation.reports key s = some (sequence, gap)) :
    gap ≠ 0 ↔ operation.RegistersPast key s := by
  unfold Operation.RegistersFirst at hfirst
  split at hfirst
  · rename_i clock ctx
    obtain ⟨rfl, hvalid, hunknown, hroom⟩ := hfirst
    obtain ⟨r, hregister, hgap⟩ := @registerPublisher_of_room s clock ctx hvalid hunknown hroom
    have hrun : Request.registerPublisher.run s clock ctx = .ok (r, s.withPublisher clock ctx) :=
      hregister
    obtain ⟨-, rfl⟩ := Prod.mk.inj (Option.some.inj ((reports_of_ok hrun rfl).symm.trans hreports))
    have hpast : Operation.RegistersPast ctx.key s (.submit clock ctx .registerPublisher) ↔
        1 < ctx.sequence.value :=
      ⟨fun h => h.2, fun h => ⟨⟨rfl, hvalid, hunknown, hroom⟩, h⟩⟩
    rw [hpast, hgap]
    split
    · rename_i hlt
      refine ⟨fun _ => hlt, fun _ hzero => ?_⟩
      have hle : (1 : UInt64) ≤ ctx.sequence.value := UInt64.le_of_lt hlt
      have hsub := UInt64.toNat_sub_of_le _ _ hle
      have hlt' : 1 < ctx.sequence.value.toNat := UInt64.lt_iff_toNat_lt.mp hlt
      rw [hzero] at hsub
      change 0 = _ - 1 at hsub
      omega
    · rename_i hlt
      exact ⟨fun h => absurd rfl h, fun h => absurd h hlt⟩
  · cases hfirst

/-- A call that does not restore keeps the account exactly when it is not a first registration that
    skips sequences. -/
theorem accounted_next_iff {operation : Operation} {tally : Tally}
    (hrestores : operation.restores s = none) (h : Accounted key (s, tally)) :
    Accounted key (tallyNext key (s, tally) operation) ↔ ¬operation.RegistersPast key s := by
  have hpast : operation.RegistersPast key s → operation.RegistersFirst key s := by
    unfold Operation.RegistersPast
    split
    · exact fun h => h.1
    · exact False.elim
  have hstep := Operation.sequenceStep hrestores key
  obtain ⟨hwatermark, hgaps⟩ := h
  unfold tallyNext
  simp only
  simp only at hwatermark hgaps
  generalize hreports : operation.reports key s = report at hstep ⊢
  cases hstep with
  | silent hwatermark' hgaps' hnot =>
    refine ⟨fun _ h => hnot (hpast h), fun _ => ⟨?_, ?_⟩⟩
    · exact (congrArg (fun w : Sequence => w.value.toNat) hwatermark').trans hwatermark
    · exact hgaps'.trans hgaps
  | @accepted sequence gap hle hwatermark' hgap hcounted hfirst =>
    have hadvanced : ((operation.next s).watermarkOf key).value.toNat =
        (tally.count (s.watermarkOf key) (some (sequence, gap))).advanced := by
      rw [hwatermark', advance_eq hle hgap, hwatermark]
      rfl
    by_cases hregisters : operation.RegistersFirst key s
    · rw [← gap_ne_zero_iff hregisters hreports, not_not]
      have hsame := hfirst hregisters
      constructor
      · intro haccounted
        have hcount : (operation.next s).gapsOf key = tally.gaps + if gap ≠ 0 then 1 else 0 :=
          haccounted.gaps
        by_contra hne
        rw [if_pos hne] at hcount
        omega
      · intro hzero
        refine ⟨hadvanced, ?_⟩
        simp only [Tally.count, hzero, ne_eq, not_true_eq_false, if_false, Nat.add_zero]
        exact hsame.trans hgaps
    · refine ⟨fun _ h => hregisters (hpast h), fun _ => ⟨hadvanced, ?_⟩⟩
      rw [hcounted hregisters, hgaps]
      rfl

theorem watermarkOf_le_next {operation : Operation} (hrestores : operation.restores s = none)
    (key : PublisherKey) : s.watermarkOf key ≤ (operation.next s).watermarkOf key := by
  have hstep := Operation.sequenceStep hrestores key
  generalize operation.reports key s = report at hstep
  cases hstep with
  | silent hwatermark => exact hwatermark ▸ UInt64.le_refl _
  | accepted hle hwatermark => exact hwatermark ▸ hle

/-- Over every run without a restore and for every boot identity: the watermark never decreases, and
    watermark and gaps are what the accepted calls reported, in every state of the run, exactly when
    the boot identity is not registered for the first time under a sequence other than the first. -/
theorem sequences_accounted_iff (bounds : Bounds) (key : PublisherKey) {operations : List Operation}
    (hrestores : (Impl.new bounds).Along (fun s operation => operation.restores s = none)
      operations) :
    ((∀ before after, before <+: after → after <+: operations →
        ((Impl.new bounds).run before).watermarkOf key ≤
          ((Impl.new bounds).run after).watermarkOf key) ∧
      ∀ before, before <+: operations →
        Accounted key ((Impl.new bounds).run before, (Impl.new bounds).tally key before)) ↔
      (Impl.new bounds).Along (fun s operation => ¬operation.RegistersPast key s) operations := by
  have hstate : ∀ before, (Impl.new bounds).run before =
      (Runs.run (tallyNext key) (Impl.new bounds, {}) before).1 :=
    fun before => (Runs.run_map (f := Prod.fst) (s := (Impl.new bounds, ({} : Tally)))
      fun _ _ => rfl).symm
  have hmonotone : ∀ before after, before <+: after → after <+: operations →
      ((Impl.new bounds).run before).watermarkOf key ≤
        ((Impl.new bounds).run after).watermarkOf key := by
    intro before after hbefore hafter
    exact UInt64.le_iff_toNat_le.mpr
      (Runs.monotone (fun s : Impl => (s.watermarkOf key).value.toNat)
        (fun t operation hcall => UInt64.le_iff_toNat_le.mp (watermarkOf_le_next hcall key))
        hrestores hbefore hafter)
  have hempty : Accounted key (Impl.new bounds, {}) := by
    obtain ⟨hwatermark, hgaps⟩ := @account_of_none (Impl.new bounds) key
      Std.TreeMap.getElem?_emptyc
    exact ⟨by rw [hwatermark]; rfl, hgaps⟩
  have hrun := Runs.invariant_iff
    (P := fun current operation => operation.RegistersPast key current.1)
    hempty ((Runs.along_map (f := Prod.fst) fun _ _ => rfl).mpr hrestores)
    (fun current operation hcall haccounted hgood =>
      (accounted_next_iff hcall haccounted).mpr hgood)
    (fun current operation hcall haccounted hbad hnext =>
      (accounted_next_iff hcall haccounted).mp hnext hbad)
  refine Iff.trans ?_ (hrun.trans (Runs.along_map (f := Prod.fst)
    (R := fun s (operation : Operation) => ¬operation.RegistersPast key s) fun _ _ => rfl))
  constructor
  · intro h before hbefore
    have haccounted := h.2 before hbefore
    rw [hstate before] at haccounted
    exact haccounted
  · intro h
    refine ⟨hmonotone, fun before hbefore => ?_⟩
    rw [hstate before]
    exact h before hbefore

/-- The deployment's publisher registers under its first sequence. -/
theorem sequences_accounted_deployment :
    Accounted (Deployment.context 1).key (Deployment.state,
      (Impl.new {}).tally (Deployment.context 1).key Deployment.operations) := by
  have hrestores : (Impl.new {}).Along (fun s operation => operation.restores s = none)
      Deployment.operations :=
    ⟨rfl, rfl, rfl, rfl, trivial⟩
  have hregisters : (Impl.new {}).Along
      (fun s operation => ¬operation.RegistersPast (Deployment.context 1).key s)
      Deployment.operations :=
    ⟨fun h => absurd h.2 (by decide), id, id, id, trivial⟩
  exact ((sequences_accounted_iff {} _ hrestores).mpr hregisters).2 _ (List.prefix_refl _)

/-- A boot identity that registers under sequence 5 reports a gap of 4 that is not counted. -/
theorem registration_gap_not_counted :
    ¬∀ (bounds : Bounds) (key : PublisherKey) (operations : List Operation),
      (Impl.new bounds).Along (fun s operation => operation.restores s = none) operations →
      Accounted key ((Impl.new bounds).run operations, (Impl.new bounds).tally key operations) := by
  intro h
  have haccounted := h {} (Deployment.context 5).key [Deployment.register 5] ⟨rfl, trivial⟩
  have hcounted : ((Impl.new {}).run [Deployment.register 5]).gapsOf (Deployment.context 5).key =
      0 := by
    decide +kernel
  have hreported : ((Impl.new {}).tally (Deployment.context 5).key [Deployment.register 5]).gaps =
      1 := by
    decide +kernel
  have hgaps := haccounted.gaps
  rw [hcounted, hreported] at hgaps
  cases hgaps

end FederationObservatory
