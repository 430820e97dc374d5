import FederationObservatory.Analysis.Proofs.Pools
import FederationObservatory.Analysis.Stranded
import FederationObservatory.Misc.Loops

/-!
# Stranded capacity is a partition of idle capacity

The report has one finding for each pool that is selected, and its sums are exact: every part of a
ledger is below the nominal capacity, so a part can only overflow where the nominal capacity, whose
sum is checked, has overflowed before it.
-/

namespace FederationObservatory

open Loops Sorting

/-! ## Ledgers -/

theorem checkedSub_eq_some {a b c : UInt64} :
    checkedSub a b = some c ↔ b.toNat ≤ a.toNat ∧ c.toNat = a.toNat - b.toNat := by
  unfold checkedSub
  split
  · rename_i h
    have hlt := UInt64.lt_iff_toNat_lt.mp h
    simp only [reduceCtorEq, false_iff, not_and]
    omega
  · rename_i h
    have hle : b.toNat ≤ a.toNat := by
      have := mt UInt64.lt_iff_toNat_lt.mpr h
      omega
    have hsub := UInt64.toNat_sub_of_le a b (UInt64.le_iff_toNat_le.mpr hle)
    rw [Option.some.injEq, ← UInt64.toNat_inj, hsub]
    constructor
    · intro h
      exact ⟨hle, h.symm⟩
    · rintro ⟨-, h⟩
      exact h.symm

theorem checkedSub_of_le {a b : UInt64} (h : b.toNat ≤ a.toNat) :
    checkedSub a b = some (a - b) := by
  rw [checkedSub, if_neg]
  rw [UInt64.lt_iff_toNat_lt]
  omega

theorem CapacityLedger.fromComponents_eq_ok {nominal offline allocated reserved draining unusable :
    UInt64} {l : CapacityLedger}
    (h : fromComponents nominal offline allocated reserved draining unusable = .ok l) :
    ∃ committed idle,
      checkedSumFrom 0 [offline, allocated, reserved, draining, unusable] = some committed ∧
        checkedSub nominal committed = some idle ∧
        l = ⟨nominal, offline, allocated, reserved, draining, unusable, idle⟩ := by
  -- the function is unfolded apart from its arguments: applied to them, the definition would have
  -- the kernel compute the checked sum
  obtain ⟨f, hf⟩ : ∃ f, f = fromComponents := ⟨_, rfl⟩
  rw [← hf] at h
  delta fromComponents at hf
  subst hf
  beta_reduce at h
  generalize hcommitted : checkedSumFrom 0 [offline, allocated, reserved, draining, unusable] =
    committed at h
  cases committed with
  | none => cases h
  | some committed =>
    dsimp only at h
    generalize hidle : checkedSub nominal committed = idle at h
    cases idle with
    | none => cases h
    | some idle =>
      cases h
      exact ⟨committed, idle, rfl, hidle, rfl⟩

/-- The parts of a ledger that closes add up to the nominal capacity. -/
theorem CapacityLedger.nominal_eq_sum {l : CapacityLedger} (h : l.validate = .ok ()) :
    l.nominal.toNat = l.offline.toNat + l.allocated.toNat + l.reserved.toNat + l.draining.toNat +
      l.unusable.toNat + l.idle.toNat := by
  simp only [validate, bind_eq_ok, failIf_eq_ok, bne_eq_false_iff_eq] at h
  obtain ⟨rebuilt, hrebuilt, hidle⟩ := h
  obtain ⟨committed, idle, hcommitted, hsub, rfl⟩ := fromComponents_eq_ok hrebuilt
  obtain ⟨-, hsum⟩ := checkedSumFrom_eq_some.mp hcommitted
  obtain ⟨hle, hdiff⟩ := checkedSub_eq_some.mp hsub
  simp only [List.map_cons, List.map_nil, List.sum_cons, List.sum_nil, UInt64.toNat_zero] at hsum
  have hsame : idle = l.idle := hidle
  rw [← hsame]
  omega

/-! ## Breakdowns -/

/-- The sum of the amounts of a tally. -/
def ReasonTally.sum (tally : ReasonTally) : Nat :=
  (StrandingReason.enumerators.map fun reason => (tally.get reason).toNat).sum

/-- All of an amount under one reason. -/
def ReasonTally.single (reason : StrandingReason) (amount : UInt64) : ReasonTally :=
  ⟨Function.update (fun _ => 0) reason amount⟩

theorem ReasonTally.sum_empty : ({} : ReasonTally).sum = 0 := rfl

theorem ReasonTally.sum_single (reason : StrandingReason) (amount : UInt64) :
    (single reason amount).sum = amount.toNat := by
  cases reason <;> simp [sum, single, get, StrandingReason.enumerators]

theorem ReasonTally.add_empty (reason : StrandingReason) (amount : UInt64) :
    ({} : ReasonTally).add reason amount = .ok (single reason amount) := by
  rw [add_of_lt (by simpa using amount.toNat_lt)]
  simp [single]

/-- Adding an amount once for each reason does not overflow. -/
theorem ReasonTally.foldlM_add_ok (amount : UInt64) {reasons : List StrandingReason}
    (hnodup : reasons.Nodup) {tally : ReasonTally}
    (hzero : ∀ reason ∈ reasons, tally.amounts reason = 0) :
    ∃ tally', reasons.foldlM (fun (tally : ReasonTally) reason => tally.add reason amount) tally =
      (.ok tally' : Result ReasonTally) := by
  induction reasons generalizing tally with
  | nil => exact ⟨tally, rfl⟩
  | cons reason reasons ih =>
    obtain ⟨hfresh, hnodup⟩ := List.nodup_cons.mp hnodup
    have hfits : (tally.amounts reason).toNat + amount.toNat < 2 ^ 64 := by
      rw [hzero reason List.mem_cons_self]
      simpa using amount.toNat_lt
    rw [List.foldlM_cons, add_of_lt hfits]
    refine ih hnodup ?_
    intro r hr
    have hne : r ≠ reason := by
      rintro rfl
      exact hfresh hr
    simpa [hne] using hzero r (List.mem_cons_of_mem _ hr)

theorem ReasonTally.nodup_nonZero (tally : ReasonTally) : (tally.nonZero.map Prod.fst).Nodup := by
  have hperm := (perm_stableSort (fun a b => decide (a.1.precedence < b.1.precedence))
    ((StrandingReason.enumerators.map fun reason => (reason, tally.amounts reason)).filter
      fun entry => entry.2 != 0)).map Prod.fst
  refine hperm.nodup_iff.mpr ?_
  refine List.Nodup.sublist (List.filter_sublist.map Prod.fst) ?_
  rw [List.map_map]
  exact StrandingReason.nodup_enumerators

/-- The breakdown of a pool: all of the idle capacity is usable, or unknown, or stranded for the
    primary reason. -/
structure Partitions (idle : UInt64) (eligibility : PoolEligibility)
    (breakdown : EligibilityBreakdown) : Prop where
  idle_eq : breakdown.idle = idle
  usable_eq : breakdown.usable = if eligibility.decided && eligibility.eligible then idle else 0
  unknown_eq : breakdown.unknown = if eligibility.decided then 0 else idle
  strandedBy_eq : breakdown.strandedByPrimaryReason =
    if eligibility.decided && !eligibility.eligible then .single eligibility.primary idle else {}

theorem eligibilityBreakdown_ok (idle : UInt64) (eligibility : PoolEligibility) :
    ∃ breakdown, eligibilityBreakdown idle eligibility = .ok breakdown ∧
      Partitions idle eligibility breakdown := by
  unfold eligibilityBreakdown
  cases hdecided : eligibility.decided with
  | false =>
    refine ⟨{ idle, unknown := idle }, rfl, ?_⟩
    exact ⟨rfl, by simp [hdecided], by simp [hdecided], by simp [hdecided]⟩
  | true =>
    cases heligible : eligibility.eligible with
    | true =>
      refine ⟨{ idle, usable := idle }, rfl, ?_⟩
      exact ⟨rfl, by simp [hdecided, heligible], by simp [hdecided], by simp [heligible]⟩
    | false =>
      obtain ⟨occurrences, hoccurrences⟩ := @ReasonTally.foldlM_add_ok idle _
        eligibility.occurrences.nodup_nonZero {} fun _ _ => rfl
      refine ⟨{ idle, strandedByPrimaryReason := .single eligibility.primary idle,
                reasonOccurrences := occurrences }, ?_, ?_⟩
      · simp only [Bool.and_false, Bool.false_eq_true, if_false, Bool.not_true,
          ReasonTally.add_empty, hoccurrences]
        rfl
      · exact ⟨rfl, by simp [heligible], by simp [hdecided], by simp [hdecided, heligible]⟩

section Partition

variable {idle : UInt64} {eligibility : PoolEligibility} {breakdown : EligibilityBreakdown}

theorem Partitions.sum_eq (h : Partitions idle eligibility breakdown) :
    breakdown.usable.toNat + breakdown.unknown.toNat + breakdown.strandedByPrimaryReason.sum =
      idle.toNat := by
  rw [h.usable_eq, h.unknown_eq, h.strandedBy_eq]
  cases eligibility.decided <;> cases eligibility.eligible <;>
    simp [ReasonTally.sum_single, ReasonTally.sum_empty]

theorem Partitions.stranded_eq (h : Partitions idle eligibility breakdown) :
    breakdown.stranded.toNat = breakdown.strandedByPrimaryReason.sum := by
  have hsum := h.sum_eq
  rw [← h.idle_eq] at hsum
  have husable : checkedSub breakdown.idle breakdown.usable =
      some (breakdown.idle - breakdown.usable) := checkedSub_of_le (by omega)
  have hrest : (breakdown.idle - breakdown.usable).toNat =
      breakdown.idle.toNat - breakdown.usable.toNat := (checkedSub_eq_some.mp husable).2
  have hunknown : checkedSub (breakdown.idle - breakdown.usable) breakdown.unknown =
      some (breakdown.idle - breakdown.usable - breakdown.unknown) := checkedSub_of_le (by omega)
  rw [EligibilityBreakdown.stranded, husable, Option.bind_some, hunknown, Option.getD_some,
    (checkedSub_eq_some.mp hunknown).2]
  omega

end Partition

/-! ## Sums -/

/-- The amounts a summary keeps. -/
inductive CapacityField where
  | nominal | offline | allocated | reserved | draining | unusable | idle | usable | stranded
  | unknown
  deriving DecidableEq, Repr

def CapacitySummary.get (summary : CapacitySummary) : CapacityField → UInt64
  | .nominal => summary.nominal
  | .offline => summary.offline
  | .allocated => summary.allocated
  | .reserved => summary.reserved
  | .draining => summary.draining
  | .unusable => summary.unusable
  | .idle => summary.idle
  | .usable => summary.usable
  | .stranded => summary.stranded
  | .unknown => summary.unknown

def StrandedCapacityFinding.get (finding : StrandedCapacityFinding) : CapacityField → UInt64
  | .nominal => finding.ledger.nominal
  | .offline => finding.ledger.offline
  | .allocated => finding.ledger.allocated
  | .reserved => finding.ledger.reserved
  | .draining => finding.ledger.draining
  | .unusable => finding.ledger.unusable
  | .idle => finding.ledger.idle
  | .usable => finding.breakdown.usable
  | .stranded => finding.breakdown.stranded
  | .unknown => finding.breakdown.unknown

/-- The sum of a field over findings. -/
def fieldSum (field : CapacityField) (findings : List StrandedCapacityFinding) : Nat :=
  (findings.map fun finding => (finding.get field).toNat).sum

theorem fieldSum_append (field : CapacityField) (l l' : List StrandedCapacityFinding) :
    fieldSum field (l ++ l') = fieldSum field l + fieldSum field l' := by
  rw [fieldSum, List.map_append, List.sum_append]
  rfl

theorem fieldSum_singleton (field : CapacityField) (finding : StrandedCapacityFinding) :
    fieldSum field [finding] = (finding.get field).toNat := by
  simp [fieldSum]

theorem fieldSum_perm (field : CapacityField) {l l' : List StrandedCapacityFinding}
    (h : l.Perm l') : fieldSum field l = fieldSum field l' :=
  (h.map _).sum_eq

/-- A finding whose parts add up: the ledger closes and the breakdown splits the idle capacity. -/
structure StrandedCapacityFinding.Closed (finding : StrandedCapacityFinding) : Prop where
  ledger : finding.ledger.nominal.toNat =
    finding.ledger.offline.toNat + finding.ledger.allocated.toNat + finding.ledger.reserved.toNat +
      finding.ledger.draining.toNat + finding.ledger.unusable.toNat + finding.ledger.idle.toNat
  idle : finding.breakdown.usable.toNat + finding.breakdown.stranded.toNat +
    finding.breakdown.unknown.toNat = finding.ledger.idle.toNat

theorem StrandedCapacityFinding.Closed.get_le {finding : StrandedCapacityFinding}
    (h : finding.Closed) (field : CapacityField) :
    (finding.get field).toNat ≤ finding.ledger.nominal.toNat := by
  have hledger := h.ledger
  have hidle := h.idle
  cases field <;> simp only [get] <;> omega

theorem fieldSum_le {findings : List StrandedCapacityFinding}
    (h : ∀ finding ∈ findings, finding.Closed) (field : CapacityField) :
    fieldSum field findings ≤ fieldSum .nominal findings := by
  unfold fieldSum
  apply List.sum_le_sum
  intro finding hmem
  exact (h finding hmem).get_le field

theorem toNat_saturatingAdd {a b : UInt64} (h : a.toNat + b.toNat < 2 ^ 64) :
    (saturatingAdd a b).toNat = a.toNat + b.toNat := by
  rw [saturatingAdd, checkedAdd_of_lt h, Option.getD_some, toNat_add_of_lt h]

/-- What a counter shows of an amount: the amount itself, or the most it can hold. -/
def saturate (n : Nat) : Nat := min (2 ^ 64 - 1) n

theorem saturate_of_lt {n : Nat} (h : n < 2 ^ 64) : saturate n = n := by
  unfold saturate
  omega

theorem saturate_le (n : Nat) : saturate n ≤ n := Nat.min_le_right _ _

theorem saturate_add (n m : Nat) : saturate (saturate n + m) = saturate (n + m) := by
  unfold saturate
  omega

theorem toNat_saturatingAdd_eq (a b : UInt64) :
    (saturatingAdd a b).toNat = saturate (a.toNat + b.toNat) := by
  by_cases h : a.toNat + b.toNat < 2 ^ 64
  · rw [toNat_saturatingAdd h, saturate_of_lt h]
  · rw [saturatingAdd, checkedAdd_of_le (Nat.not_lt.mp h), Option.getD_none, saturate]
    have hmost : (0xFFFFFFFFFFFFFFFF : UInt64).toNat = 2 ^ 64 - 1 := by decide
    omega

/-- The summary has the exact sums over the findings, which all close. -/
structure CapacitySummary.Sums (summary : CapacitySummary)
    (findings : List StrandedCapacityFinding) : Prop where
  exact : ∀ field, (summary.get field).toNat = fieldSum field findings
  closed : ∀ finding ∈ findings, finding.Closed

/-- The nominal capacity of the findings can be counted. -/
def NominalFits (findings : List StrandedCapacityFinding) : Prop :=
  fieldSum .nominal findings < 2 ^ 64

/-- The error of the one sum that is checked. -/
def nominalOverflow : Error :=
  ⟨.capacityInconsistent, .ofString "stranded report nominal overflowed", []⟩

/-- A finding whose nominal capacity can be counted is, and each field that does not saturate is
    then the exact sum. -/
theorem CapacitySummary.count_of_lt (summary : CapacitySummary) {finding : StrandedCapacityFinding}
    (h : (summary.get .nominal).toNat + (finding.get .nominal).toNat < 2 ^ 64) :
    ∃ s', summary.count finding = .ok s' ∧
      ∀ field, (summary.get field).toNat + (finding.get field).toNat < 2 ^ 64 →
        (s'.get field).toNat = (summary.get field).toNat + (finding.get field).toNat := by
  have hcount : ∃ s', summary.count finding = .ok s' ∧
      s'.nominal = summary.nominal + finding.ledger.nominal ∧
      s'.offline = saturatingAdd summary.offline finding.ledger.offline ∧
      s'.allocated = saturatingAdd summary.allocated finding.ledger.allocated ∧
      s'.reserved = saturatingAdd summary.reserved finding.ledger.reserved ∧
      s'.draining = saturatingAdd summary.draining finding.ledger.draining ∧
      s'.unusable = saturatingAdd summary.unusable finding.ledger.unusable ∧
      s'.idle = saturatingAdd summary.idle finding.ledger.idle ∧
      s'.usable = saturatingAdd summary.usable finding.breakdown.usable ∧
      s'.stranded = saturatingAdd summary.stranded finding.breakdown.stranded ∧
      s'.unknown = saturatingAdd summary.unknown finding.breakdown.unknown := by
    have hnominal : summary.nominal.toNat + finding.ledger.nominal.toNat < 2 ^ 64 := h
    unfold CapacitySummary.count
    rw [checkedAdd_of_lt hnominal]
    exact ⟨_, rfl, rfl, rfl, rfl, rfl, rfl, rfl, rfl, rfl, rfl, rfl⟩
  obtain ⟨s', hs', hnominal, hoffline, hallocated, hreserved, hdraining, hunusable, hidle, husable,
    hstranded, hunknown⟩ := hcount
  refine ⟨s', hs', ?_⟩
  intro field hfits
  cases field with
  | nominal => exact (congrArg _ hnominal).trans (toNat_add_of_lt hfits)
  | offline => exact (congrArg _ hoffline).trans (toNat_saturatingAdd hfits)
  | allocated => exact (congrArg _ hallocated).trans (toNat_saturatingAdd hfits)
  | reserved => exact (congrArg _ hreserved).trans (toNat_saturatingAdd hfits)
  | draining => exact (congrArg _ hdraining).trans (toNat_saturatingAdd hfits)
  | unusable => exact (congrArg _ hunusable).trans (toNat_saturatingAdd hfits)
  | idle => exact (congrArg _ hidle).trans (toNat_saturatingAdd hfits)
  | usable => exact (congrArg _ husable).trans (toNat_saturatingAdd hfits)
  | stranded => exact (congrArg _ hstranded).trans (toNat_saturatingAdd hfits)
  | unknown => exact (congrArg _ hunknown).trans (toNat_saturatingAdd hfits)

/-- No sum saturates, since the nominal sum would overflow before. -/
theorem CapacitySummary.collects_count {summary : CapacitySummary}
    {findings : List StrandedCapacityFinding} (h : summary.Sums findings)
    {finding : StrandedCapacityFinding} (hfinding : finding.Closed) :
    Collects CapacitySummary.Sums NominalFits nominalOverflow (summary.count finding)
      (findings ++ [finding]) := by
  have hclosed : ∀ f ∈ findings ++ [finding], f.Closed := by
    intro f hf
    rcases List.mem_append.mp hf with hf | hf
    · exact h.closed f hf
    · rw [List.mem_singleton.mp hf]
      exact hfinding
  have hnominal : fieldSum .nominal (findings ++ [finding]) =
      summary.nominal.toNat + finding.ledger.nominal.toNat := by
    rw [fieldSum_append, fieldSum_singleton, ← h.exact .nominal]
    rfl
  constructor
  · intro hfits
    have hsum : ∀ field, (summary.get field).toNat + (finding.get field).toNat < 2 ^ 64 := by
      intro field
      have hle := fieldSum_le hclosed field
      rw [fieldSum_append, fieldSum_singleton, ← h.exact field] at hle
      exact hle.trans_lt hfits
    obtain ⟨s', hs', hcounted⟩ := summary.count_of_lt (hsum .nominal)
    refine ⟨s', hs', ?_, hclosed⟩
    intro field
    rw [fieldSum_append, fieldSum_singleton, ← h.exact field]
    exact hcounted field (hsum field)
  · intro hfits
    unfold CapacitySummary.count
    rw [checkedAdd_of_le (by rw [← hnominal]; exact Nat.le_of_not_lt hfits)]
    rfl

theorem fieldSum_split {findings : List StrandedCapacityFinding}
    (h : ∀ finding ∈ findings, finding.Closed) :
    fieldSum .usable findings + fieldSum .stranded findings + fieldSum .unknown findings =
      fieldSum .idle findings := by
  induction findings with
  | nil => rfl
  | cons finding findings ih =>
    have hidle : (finding.get .usable).toNat + (finding.get .stranded).toNat +
        (finding.get .unknown).toNat = (finding.get .idle).toNat :=
      (h finding List.mem_cons_self).idle
    have htail := ih fun f hf => h f (List.mem_cons_of_mem _ hf)
    have hcons : ∀ field, fieldSum field (finding :: findings) =
        (finding.get field).toNat + fieldSum field findings := by
      intro field
      rw [fieldSum, List.map_cons, List.sum_cons]
      rfl
    simp only [hcons]
    omega

/-- A report with exact sums closes. -/
theorem StrandedCapacityReport.closes_of_sums {report : StrandedCapacityReport}
    {findings : List StrandedCapacityFinding} (h : report.summary.Sums findings)
    (hfits : NominalFits findings) : report.closes = true := by
  have hsplit := fieldSum_split h.closed
  have hidle := (fieldSum_le h.closed .idle).trans_lt hfits
  have husable : report.summary.usable.toNat = fieldSum .usable findings := h.exact .usable
  have hstranded : report.summary.stranded.toNat = fieldSum .stranded findings := h.exact .stranded
  have hunknown : report.summary.unknown.toNat = fieldSum .unknown findings := h.exact .unknown
  have hidle_eq : report.summary.idle.toNat = fieldSum .idle findings := h.exact .idle
  have hfirst : report.summary.usable.toNat + report.summary.stranded.toNat < 2 ^ 64 := by omega
  have hsum := toNat_add_of_lt hfirst
  have hsecond : (report.summary.usable + report.summary.stranded).toNat +
      report.summary.unknown.toNat < 2 ^ 64 := by omega
  rw [closes, checkedAdd_of_lt hfirst, Option.bind_some, checkedAdd_of_lt hsecond, Option.any_some,
    beq_iff_eq, ← UInt64.toNat_inj, toNat_add_of_lt hsecond]
  omega

/-! ## The loops -/

section Loop

variable (formatDouble : Double → Text) (snapshot : FederationSnapshot)
  (request : StrandedCapacityRequest) (subject : StrandedSubject)

/-- What the finding about a pool says. -/
structure FindingOf (cluster : ClusterRecord) (pool : CapacityPool)
    (finding : StrandedCapacityFinding) : Prop where
  cluster_eq : finding.cluster = cluster.id
  site_eq : finding.site = cluster.site
  pool_eq : finding.pool = pool.poolId
  kind_eq : finding.kind = pool.kind
  ledger_eq : finding.ledger = pool.ledger
  partitions : Partitions pool.ledger.idle
    (evaluatePool formatDouble (poolInputs snapshot subject cluster pool)) finding.breakdown

theorem strandedFinding_ok (cluster : ClusterRecord) (pool : CapacityPool) :
    ∃ finding, strandedFinding formatDouble snapshot request subject cluster pool = .ok finding ∧
      FindingOf formatDouble snapshot subject cluster pool finding := by
  obtain ⟨breakdown, hbreakdown, hpartitions⟩ := eligibilityBreakdown_ok pool.ledger.idle
    (evaluatePool formatDouble (poolInputs snapshot subject cluster pool))
  unfold strandedFinding
  dsimp only
  rw [hbreakdown]
  exact ⟨_, rfl, rfl, rfl, rfl, rfl, rfl, hpartitions⟩

/-- The finding about a pool; there always is one. -/
def poolFinding (cluster : ClusterRecord) (pool : CapacityPool) : StrandedCapacityFinding :=
  match strandedFinding formatDouble snapshot request subject cluster pool with
  | .ok finding => finding
  | .error _ => {}

theorem strandedFinding_eq (cluster : ClusterRecord) (pool : CapacityPool) :
    strandedFinding formatDouble snapshot request subject cluster pool =
      .ok (poolFinding formatDouble snapshot request subject cluster pool) := by
  obtain ⟨finding, hfinding, -⟩ :=
    strandedFinding_ok formatDouble snapshot request subject cluster pool
  simp only [poolFinding, hfinding]

theorem findingOf_poolFinding (cluster : ClusterRecord) (pool : CapacityPool) :
    FindingOf formatDouble snapshot subject cluster pool
      (poolFinding formatDouble snapshot request subject cluster pool) := by
  obtain ⟨finding, hfinding, hspec⟩ :=
    strandedFinding_ok formatDouble snapshot request subject cluster pool
  simpa only [poolFinding, hfinding] using hspec

variable {formatDouble snapshot subject} in
theorem FindingOf.closed {cluster : ClusterRecord} {pool : CapacityPool}
    {finding : StrandedCapacityFinding}
    (h : FindingOf formatDouble snapshot subject cluster pool finding)
    (hledger : pool.ledger.validate = .ok ()) : finding.Closed where
  ledger := by
    rw [h.ledger_eq]
    exact pool.ledger.nominal_eq_sum hledger
  idle := by
    have hsum := h.partitions.sum_eq
    rw [← h.partitions.stranded_eq] at hsum
    rw [h.ledger_eq]
    omega

/-- What the loops keep: the findings so far and their sums. -/
structure StrandedState.Holds (state : StrandedState) (findings : List StrandedCapacityFinding) :
    Prop where
  findings_eq : state.findings = findings
  sums : state.summary.Sums findings

theorem addPool_eq (cluster : ClusterRecord) (state : StrandedState) (pool : CapacityPool) :
    StrandedState.addPool formatDouble snapshot request subject cluster state pool =
      (state.summary.count (poolFinding formatDouble snapshot request subject cluster pool)).map
        (state.withFinding (poolFinding formatDouble snapshot request subject cluster pool)) := by
  unfold StrandedState.addPool
  rw [strandedFinding_eq, Loops.ok_bind, Loops.bind_pure]

theorem collects_addPool (cluster : ClusterRecord) {pool : CapacityPool}
    (hledger : pool.ledger.validate = .ok ()) {state : StrandedState}
    {findings : List StrandedCapacityFinding} (h : state.Holds findings) :
    Collects StrandedState.Holds NominalFits nominalOverflow
      (StrandedState.addPool formatDouble snapshot request subject cluster state pool)
      (findings ++ [poolFinding formatDouble snapshot request subject cluster pool]) := by
  have hclosed := (findingOf_poolFinding formatDouble snapshot request subject cluster pool).closed
    hledger
  rw [addPool_eq]
  refine (CapacitySummary.collects_count h.sums hclosed).map _ ?_
  intro summary hsums
  exact ⟨by rw [StrandedState.withFinding, h.findings_eq], hsums⟩

theorem nominalFits_of_append (l l' : List StrandedCapacityFinding) (h : NominalFits (l ++ l')) :
    NominalFits l := by
  unfold NominalFits at h ⊢
  rw [fieldSum_append] at h
  omega

theorem nominalFits_nil : NominalFits [] := by
  unfold NominalFits
  exact Nat.two_pow_pos 64

/-- Whether the loop over the clusters gets to the pools of a cluster. -/
def StrandedCapacityRequest.selects (cluster : ClusterRecord) : Bool :=
  request.concerns cluster && !request.excludes cluster

/-- The findings about the pools of a cluster. -/
def clusterFindings (cluster : ClusterRecord) : List StrandedCapacityFinding :=
  if request.selects cluster then
    (request.pools cluster).map (poolFinding formatDouble snapshot request subject cluster)
  else []

theorem collects_addCluster {cluster : ClusterRecord}
    (hledgers : ∀ pool ∈ cluster.capacityPools, pool.ledger.validate = .ok ())
    {state : StrandedState} {findings : List StrandedCapacityFinding} (h : state.Holds findings)
    (hfits : NominalFits findings) :
    Collects StrandedState.Holds NominalFits nominalOverflow
      (StrandedState.addCluster formatDouble snapshot request subject state cluster)
      (findings ++ clusterFindings formatDouble snapshot request subject cluster) := by
  unfold StrandedState.addCluster clusterFindings StrandedCapacityRequest.selects
  by_cases hconcerns : request.concerns cluster = true
  · by_cases hexcludes : request.excludes cluster = true
    · simp only [hconcerns, hexcludes, Bool.not_true, Bool.false_eq_true, if_false, if_true,
        Bool.and_false, List.append_nil]
      exact ⟨fun _ => ⟨_, rfl, h.findings_eq, h.sums⟩, fun hnot => absurd hfits hnot⟩
    · simp only [hconcerns, hexcludes, Bool.not_true, Bool.false_eq_true, if_false, Bool.not_false,
        Bool.and_self, if_true, Loops.bind_pure]
      rw [List.map_eq_flatMap]
      have hpools : Collects StrandedState.Holds NominalFits nominalOverflow
          ((request.pools cluster).foldlM
            (StrandedState.addPool formatDouble snapshot request subject cluster) state)
          (findings ++ (request.pools cluster).flatMap fun pool =>
            [poolFinding formatDouble snapshot request subject cluster pool]) := by
        refine collects_foldlM nominalFits_of_append ?_ h hfits
        intro s l pool hpool hs _
        exact collects_addPool formatDouble snapshot request subject cluster
          (hledgers pool (List.mem_filter.mp hpool).1) hs
      exact hpools.map _ fun s hs => ⟨hs.findings_eq, hs.sums⟩
  · simp only [hconcerns, Bool.not_false, if_true, Bool.false_and, Bool.false_eq_true, if_false,
      List.append_nil]
    exact ⟨fun _ => ⟨_, rfl, h⟩, fun hnot => absurd hfits hnot⟩

/-- The loop over the clusters fails exactly if the nominal capacity of the findings overflows. -/
theorem collects_addClusters
    (hledgers : ∀ cluster ∈ snapshot.records .cluster, ∀ pool ∈ ClusterRecord.capacityPools cluster,
      pool.ledger.validate = .ok ()) :
    Collects StrandedState.Holds NominalFits nominalOverflow
      ((snapshot.records .cluster).foldlM
        (StrandedState.addCluster formatDouble snapshot request subject) {})
      ((snapshot.records .cluster).flatMap
        (clusterFindings formatDouble snapshot request subject)) := by
  have hstart : StrandedState.Holds {} [] := by
    refine ⟨rfl, ?_, by simp⟩
    intro field
    cases field <;> rfl
  have hloop := collects_foldlM nominalFits_of_append
    (fun s l cluster hcluster hs hl => collects_addCluster formatDouble snapshot request subject
      (hledgers cluster hcluster) hs hl) hstart nominalFits_nil
  simpa using hloop

end Loop

end FederationObservatory
