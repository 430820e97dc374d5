import FederationObservatory.Analysis.Proofs.Domains

/-!
# Fragmentation conserves capacity

The aggregates of a fragmentation finding are those of the stranded capacity report it groups, and
the classification follows from them.
-/

namespace FederationObservatory

open Grouping Sorting

/-! ## The loop over the rows -/

def FragmentationFinding.aggregate (finding : FragmentationFinding) : DomainField → UInt64
  | .nominal => finding.aggregateNominal
  | .usable => finding.aggregateUsable
  | .stranded => finding.aggregateStranded
  | .unknown => finding.aggregateUnknown

/-- The sum of a field over domain rows. -/
def rowSum (field : DomainField) (rows : List DomainCapacity) : Nat :=
  (rows.map fun row => (row.get field).toNat).sum

theorem rowSum_append_singleton (field : DomainField) (rows : List DomainCapacity)
    (row : DomainCapacity) :
    rowSum field (rows ++ [row]) = rowSum field rows + (row.get field).toNat := by
  simp [rowSum]

/-- A row that a group of the required size fits into. -/
def DomainCapacity.holds (required : UInt64) (row : DomainCapacity) : Bool :=
  decide (required ≤ row.usable)

/-- What one round of the loop over the rows does. -/
structure FragmentationFinding.Adds (finding : FragmentationFinding) (row : DomainCapacity)
    (finding' : FragmentationFinding) : Prop where
  aggregate : ∀ field, finding'.aggregate field =
    saturatingAdd (finding.aggregate field) (row.get field)
  largest : finding'.largestLegalGroup =
    if finding.largestLegalGroup < row.usable then row.usable else finding.largestLegalGroup
  count : finding'.legalDomainCount =
    if finding.requiredPerGroup ≠ 0 ∧ finding.requiredPerGroup ≤ row.usable then
      finding.legalDomainCount + 1
    else finding.legalDomainCount
  domains : finding'.domains = finding.domains ++ [row]
  federation : finding'.federation = finding.federation
  required : finding'.requiredPerGroup = finding.requiredPerGroup
  kind : finding'.requiredDomainKind = finding.requiredDomainKind
  reasons : finding'.strandedByReason = finding.strandedByReason

theorem FragmentationFinding.adds (finding : FragmentationFinding) (row : DomainCapacity) :
    finding.Adds row (finding.addDomain row) := by
  obtain ⟨add, hadd⟩ : ∃ add, add = saturatingAdd := ⟨_, rfl⟩
  unfold FragmentationFinding.addDomain
  rw [← hadd]
  constructor
  case aggregate =>
    rw [← hadd]
    intro field
    cases field <;> rfl
  all_goals rfl

/-- What the loop has made of the rows so far, but for the sums. -/
structure FragmentationFinding.Scans (start finding : FragmentationFinding)
    (rows : List DomainCapacity) : Prop where
  le_largest : ∀ row ∈ rows, row.usable ≤ finding.largestLegalGroup
  largest : finding.largestLegalGroup = 0 ∨ ∃ row ∈ rows, row.usable = finding.largestLegalGroup
  domains : finding.domains = rows
  federation : finding.federation = start.federation
  required : finding.requiredPerGroup = start.requiredPerGroup
  kind : finding.requiredDomainKind = start.requiredDomainKind
  reasons : finding.strandedByReason = start.strandedByReason

theorem FragmentationFinding.Scans.add {start finding : FragmentationFinding}
    {rows : List DomainCapacity} (h : start.Scans finding rows) (row : DomainCapacity) :
    start.Scans (finding.addDomain row) (rows ++ [row]) := by
  have hadds := finding.adds row
  constructor
  case le_largest =>
    intro r hr
    rw [hadds.largest, UInt64.le_iff_toNat_le]
    have hold : ∀ r ∈ rows, r.usable.toNat ≤ finding.largestLegalGroup.toNat := fun r hr =>
      UInt64.le_iff_toNat_le.mp (h.le_largest r hr)
    split
    · rename_i hlt
      have hlt := UInt64.lt_iff_toNat_lt.mp hlt
      rcases List.mem_append.mp hr with hr | hr
      · have := hold r hr
        omega
      · rw [List.mem_singleton.mp hr]
    · rename_i hnot
      rw [UInt64.lt_iff_toNat_lt] at hnot
      rcases List.mem_append.mp hr with hr | hr
      · exact hold r hr
      · rw [List.mem_singleton.mp hr]
        omega
  case largest =>
    rw [hadds.largest]
    split
    · exact .inr ⟨row, by simp, rfl⟩
    · rcases h.largest with hzero | ⟨r, hr, heq⟩
      · exact .inl hzero
      · exact .inr ⟨r, List.mem_append_left _ hr, heq⟩
  case domains => rw [hadds.domains, h.domains]
  case federation => rw [hadds.federation, h.federation]
  case required => rw [hadds.required, h.required]
  case kind => rw [hadds.kind, h.kind]
  case reasons => rw [hadds.reasons, h.reasons]

theorem FragmentationFinding.scans_foldl {start : FragmentationFinding}
    (hstart : start.Scans start []) (rows : List DomainCapacity) :
    start.Scans (rows.foldl FragmentationFinding.addDomain start) rows := by
  induction rows using List.reverseRecOn with
  | nil => exact hstart
  | append_singleton rows row ih =>
    rw [List.foldl_append]
    exact ih.add row

/-- The sums are exact, and so is the number of rows that hold a group. -/
structure FragmentationFinding.Totals (start finding : FragmentationFinding)
    (rows : List DomainCapacity) : Prop extends start.Scans finding rows where
  aggregate : ∀ field, (finding.aggregate field).toNat = rowSum field rows
  count : start.requiredPerGroup ≠ 0 →
    finding.legalDomainCount.toNat = rows.countP (DomainCapacity.holds start.requiredPerGroup)

/-- A row that holds a group that is not empty has something usable. -/
theorem countP_holds_le {required : UInt64} (h : required ≠ 0) (rows : List DomainCapacity) :
    rows.countP (DomainCapacity.holds required) ≤ rowSum .usable rows := by
  induction rows using List.reverseRecOn with
  | nil => rfl
  | append_singleton rows row ih =>
    have hpos : 0 < required.toNat := by
      rcases Nat.eq_zero_or_pos required.toNat with hzero | hpos
      · exact absurd (UInt64.toNat_inj.mp hzero) h
      · exact hpos
    rw [List.countP_append, rowSum_append_singleton, List.countP_singleton]
    split
    · rename_i hholds
      have hle := UInt64.le_iff_toNat_le.mp (of_decide_eq_true hholds)
      have husable : (row.get .usable).toNat = row.usable.toNat := rfl
      omega
    · omega

theorem FragmentationFinding.Totals.add {start finding : FragmentationFinding}
    {rows : List DomainCapacity} (h : start.Totals finding rows) {row : DomainCapacity}
    (hfits : ∀ field, rowSum field (rows ++ [row]) < 2 ^ 64) :
    start.Totals (finding.addDomain row) (rows ++ [row]) := by
  have hadds := finding.adds row
  refine ⟨h.toScans.add row, ?aggregate, ?count⟩
  case aggregate =>
    intro field
    have hfield := hfits field
    rw [rowSum_append_singleton, ← h.aggregate field] at hfield
    rw [hadds.aggregate, rowSum_append_singleton, ← h.aggregate field]
    exact toNat_saturatingAdd hfield
  case count =>
    intro hrequired
    have hcount := countP_holds_le hrequired (rows ++ [row])
    have husable := hfits .usable
    rw [List.countP_append, List.countP_singleton] at hcount ⊢
    rw [hadds.count, h.required]
    by_cases hholds : start.requiredPerGroup ≤ row.usable
    · have hdecide : DomainCapacity.holds start.requiredPerGroup row = true := decide_eq_true hholds
      rw [if_pos ⟨hrequired, hholds⟩]
      rw [hdecide, if_pos rfl] at hcount ⊢
      rw [toNat_add_of_lt (by rw [h.count hrequired]; exact hcount.trans_lt husable),
        h.count hrequired]
      rfl
    · have hdecide : DomainCapacity.holds start.requiredPerGroup row = false :=
        decide_eq_false hholds
      rw [if_neg fun hboth => hholds hboth.2, hdecide, h.count hrequired]
      rfl

theorem FragmentationFinding.totals_foldl {start : FragmentationFinding}
    (hstart : start.Totals start []) {rows : List DomainCapacity}
    (hfits : ∀ field, rowSum field rows < 2 ^ 64) :
    start.Totals (rows.foldl FragmentationFinding.addDomain start) rows := by
  induction rows using List.reverseRecOn with
  | nil => exact hstart
  | append_singleton rows row ih =>
    rw [List.foldl_append]
    refine (ih ?_).add hfits
    intro field
    have hfield := hfits field
    rw [rowSum_append_singleton] at hfield
    omega

/-! ## The rows split the report -/

section Rows

variable {snapshot : FederationSnapshot} {federation : FederationId}

theorem groups_start :
    GroupingState.Groups snapshot (registeredDomains snapshot federation)
      { domains := registeredDomains snapshot federation } [] where
  keyed := by
    intro d c hc
    obtain ⟨record, -, hid, rfl⟩ := getElem?_registeredDomains hc
    exact hid
  amounts := by
    intro field d c hc
    obtain ⟨record, -, -, rfl⟩ := getElem?_registeredDomains hc
    cases field <;> rfl
  covers := by simp
  origin := fun d c hc => .inl ⟨c, hc⟩
  clusters := by
    intro d c hc cluster
    constructor
    · intro hmem
      exact .inl ⟨c, hc, hmem⟩
    · rintro (⟨c₀, hc₀, hmem⟩ | ⟨row, hrow, -⟩)
      · rw [Option.some.inj (hc.symm.trans hc₀)]
        exact hmem
      · cases hrow
  kept := fun d c₀ hc₀ => ⟨c₀, hc₀⟩

theorem GroupingState.Groups.rowSum_values {start : DomainMap} {state : GroupingState}
    {rows : List StrandedCapacityFinding} (h : state.Groups snapshot start rows)
    {field : DomainField} (hfits : (rows.map (amountOf field)).sum < 2 ^ 64) :
    rowSum field state.domains.values = (rows.map (amountOf field)).sum := by
  have hvalues : ∀ c ∈ state.domains.values,
      (c.get field).toNat = weight (groupOf snapshot) (amountOf field) rows c.domain := by
    intro c hc
    obtain ⟨d, hd⟩ := Tables.mem_values_iff.mp hc
    rw [h.exact hfits hd, h.keyed d c hd]
  have hkeys : state.domains.values.map DomainCapacity.domain = state.domains.keys :=
    Tables.map_values_eq_keys h.keyed
  have hrows : state.domains.values.map (fun c => (c.get field).toNat) =
      state.domains.keys.map (weight (groupOf snapshot) (amountOf field) rows) := by
    rw [← hkeys, List.map_map]
    exact List.map_congr_left hvalues
  rw [rowSum, hrows]
  refine sum_weight _ _ Std.TreeMap.nodup_keys ?_
  intro row hrow
  obtain ⟨c, hc⟩ := h.covers row hrow
  rw [← hkeys]
  exact List.mem_map.mpr ⟨c, Tables.mem_values_iff.mpr ⟨_, hc⟩, h.keyed _ _ hc⟩

end Rows

/-! ## The finding -/

section Finding

variable {formatDouble : Double → Text} {snapshot : FederationSnapshot} {federation : FederationId}
  {workloadClass : WorkloadClassId} {kind : ResourceKind}

/-- The finding before the rows are added up. -/
def fragmentationStart (snapshot : FederationSnapshot) (federation : FederationId)
    (workloadClass : WorkloadClassId) (kind : ResourceKind) (workload : WorkloadRecord)
    (state : GroupingState) : FragmentationFinding :=
  { federation := fragmentationFederation snapshot federation
    federationGeneration := snapshot.generation
    workloadClass
    kind
    requiredPerGroup := workload.requiredAccelerators.toUInt64
    requiredDomainKind := workload.requiredDomainKind
    strandedByReason := state.strandedByReason }

/-- What the end of the analysis keeps of the loop over the rows. -/
structure FragmentationFinding.Finishes (total finding : FragmentationFinding) : Prop where
  aggregate : ∀ field, finding.aggregate field = total.aggregate field
  largest : finding.largestLegalGroup = total.largestLegalGroup
  count : finding.legalDomainCount = total.legalDomainCount
  domains : finding.domains.Perm total.domains
  federation : finding.federation = total.federation
  required : finding.requiredPerGroup = total.requiredPerGroup
  kind : finding.requiredDomainKind = total.requiredDomainKind
  classification : finding.classification = total.classify

theorem finishes_fragmentationFinding (workload : WorkloadRecord) (report : StrandedCapacityReport)
    (state : GroupingState) :
    (state.domains.values.foldl FragmentationFinding.addDomain
        (fragmentationStart snapshot federation workloadClass kind workload state)).Finishes
      (fragmentationFinding snapshot federation workloadClass kind workload report state) := by
  unfold fragmentationFinding fragmentationStart
  dsimp only
  generalize state.domains.values.foldl FragmentationFinding.addDomain _ = total
  constructor
  case aggregate =>
    intro field
    cases field <;> rfl
  case domains => exact perm_stableSort _ _
  all_goals rfl

/-- What an analysis that succeeds has gone through. -/
structure Analyzed (formatDouble : Double → Text) (snapshot : FederationSnapshot)
    (federation : FederationId) (workloadClass : WorkloadClassId) (kind : ResourceKind)
    (workload : WorkloadRecord) (report : StrandedCapacityReport) (state : GroupingState)
    (finding : FragmentationFinding) : Prop where
  selected : selectWorkload snapshot workloadClass = some workload
  reported : analyzeStrandedCapacity formatDouble snapshot
    (fragmentationRequest snapshot federation workloadClass kind) = .ok report
  grouped : report.findings.foldlM (GroupingState.add snapshot)
    { domains := registeredDomains snapshot (fragmentationFederation snapshot federation) } =
      .ok state
  finished : finding =
    fragmentationFinding snapshot federation workloadClass kind workload report state

theorem exists_analyzed {finding : FragmentationFinding}
    (h : analyzeFragmentation formatDouble snapshot federation workloadClass kind = .ok finding) :
    ∃ workload report state, Analyzed formatDouble snapshot federation workloadClass kind workload
      report state finding := by
  unfold analyzeFragmentation at h
  cases hworkload : selectWorkload snapshot workloadClass with
  | none =>
    rw [hworkload] at h
    cases h
  | some workload =>
    rw [hworkload] at h
    obtain ⟨report, hreport, h⟩ := bind_eq_ok.mp h
    obtain ⟨state, hstate, h⟩ := bind_eq_ok.mp h
    cases h
    exact ⟨workload, report, state, hworkload, hreport, hstate, rfl⟩

/-- The nominal sum of the grouped findings fits, and so do the others. -/
theorem Analyzed.sum_lt {workload : WorkloadRecord} {report : StrandedCapacityReport}
    {state : GroupingState} {finding : FragmentationFinding}
    (h : Analyzed formatDouble snapshot federation workloadClass kind workload report state finding)
    (hledgers : LedgersClose snapshot) :
    report.Covers (selectedFindings formatDouble snapshot
        (fragmentationRequest snapshot federation workloadClass kind)) ∧
      ∀ field, (report.findings.map (amountOf field)).sum < 2 ^ 64 := by
  rcases analyzeStrandedCapacity_cases formatDouble
      (fragmentationRequest snapshot federation workloadClass kind) hledgers with
    ⟨-, herror⟩ | ⟨-, -, herror⟩ | ⟨-, report', hreport', hcovers⟩
  · rw [h.reported] at herror
    cases herror
  · rw [h.reported] at herror
    cases herror
  · rw [h.reported] at hreport'
    cases hreport'
    refine ⟨hcovers, ?_⟩
    intro field
    rw [sum_amountOf, fieldSum_perm _ hcovers.perm]
    exact (fieldSum_le hcovers.sums.closed _).trans_lt hcovers.fits

theorem Analyzed.groups {workload : WorkloadRecord} {report : StrandedCapacityReport}
    {state : GroupingState} {finding : FragmentationFinding}
    (h : Analyzed formatDouble snapshot federation workloadClass kind workload report state
      finding) :
    state.Groups snapshot
      (registeredDomains snapshot (fragmentationFederation snapshot federation))
      report.findings :=
  groups_start.foldlM h.grouped

theorem scans_start (workload : WorkloadRecord) (state : GroupingState) :
    (fragmentationStart snapshot federation workloadClass kind workload state).Scans
      (fragmentationStart snapshot federation workloadClass kind workload state) [] := by
  constructor
  case le_largest => simp
  case largest => exact .inl rfl
  all_goals rfl

/-- The rows of the finding are those of the map. -/
theorem Analyzed.scans {workload : WorkloadRecord} {report : StrandedCapacityReport}
    {state : GroupingState} {finding : FragmentationFinding}
    (h : Analyzed formatDouble snapshot federation workloadClass kind workload report state
      finding) :
    ∃ total : FragmentationFinding, total.Finishes finding ∧
      (fragmentationStart snapshot federation workloadClass kind workload state).Scans total
        state.domains.values :=
  ⟨_, h.finished ▸ finishes_fragmentationFinding workload report state,
    FragmentationFinding.scans_foldl (scans_start workload state) _⟩

/-- The totals are theirs. -/
theorem Analyzed.totals {workload : WorkloadRecord} {report : StrandedCapacityReport}
    {state : GroupingState} {finding : FragmentationFinding}
    (h : Analyzed formatDouble snapshot federation workloadClass kind workload report state finding)
    (hledgers : LedgersClose snapshot) :
    ∃ total : FragmentationFinding, total.Finishes finding ∧
      (fragmentationStart snapshot federation workloadClass kind workload state).Totals total
        state.domains.values := by
  refine ⟨_, h.finished ▸ finishes_fragmentationFinding workload report state, ?_⟩
  refine FragmentationFinding.totals_foldl ?_ ?_
  · refine ⟨scans_start workload state, ?_, ?_⟩
    · intro field
      cases field <;> rfl
    · intro _
      rfl
  · intro field
    rw [h.groups.rowSum_values ((h.sum_lt hledgers).2 field)]
    exact (h.sum_lt hledgers).2 field

/-- A row is no larger than all of them together. -/
theorem get_le_rowSum {field : DomainField} {rows : List DomainCapacity} {row : DomainCapacity}
    (h : row ∈ rows) : (row.get field).toNat ≤ rowSum field rows :=
  List.le_sum_of_mem (List.mem_map.mpr ⟨row, h, rfl⟩)

/-- Where a group has a size, some row holds one exactly if the largest does. -/
theorem FragmentationFinding.Scans.le_largest_iff {start total : FragmentationFinding}
    {rows : List DomainCapacity} (h : start.Scans total rows)
    (hrequired : start.requiredPerGroup ≠ 0) :
    start.requiredPerGroup ≤ total.largestLegalGroup ↔
      ∃ row ∈ rows, start.requiredPerGroup ≤ row.usable := by
  constructor
  · intro hle
    rcases h.largest with hzero | ⟨row, hrow, heq⟩
    · rw [hzero] at hle
      exact absurd (UInt64.le_antisymm hle UInt64.zero_le) hrequired
    · exact ⟨row, hrow, heq ▸ hle⟩
  · rintro ⟨row, hrow, hle⟩
    exact UInt64.le_trans hle (h.le_largest row hrow)

/-- Where a group has a size, the classification is a shortage exactly if the usable capacity is too
    small, and none exactly if some row holds a group. -/
theorem FragmentationFinding.Totals.classify_iff {start total : FragmentationFinding}
    {rows : List DomainCapacity} (h : start.Totals total rows)
    (hrequired : start.requiredPerGroup ≠ 0) :
    (total.classify = .capacityShortage ↔ total.aggregateUsable < start.requiredPerGroup) ∧
      (total.classify = .none ↔ ∃ row ∈ rows, start.requiredPerGroup ≤ row.usable) := by
  have hrows := h.le_largest_iff hrequired
  rw [← h.required] at hrequired hrows ⊢
  rw [← hrows]
  -- the capacity that a row offers is part of the aggregate
  have hshort : total.aggregateUsable < total.requiredPerGroup →
      ¬ total.requiredPerGroup ≤ total.largestLegalGroup := by
    intro hlt hle
    obtain ⟨row, hrow, hle⟩ := hrows.mp hle
    have hsum : (row.get .usable).toNat ≤ rowSum .usable rows := get_le_rowSum hrow
    rw [← h.aggregate .usable] at hsum
    have hlt := UInt64.lt_iff_toNat_lt.mp hlt
    have hle := UInt64.le_iff_toNat_le.mp hle
    have hfield : (row.get .usable).toNat = row.usable.toNat := rfl
    have haggregate : (total.aggregate .usable).toNat = total.aggregateUsable.toNat := rfl
    omega
  unfold FragmentationFinding.classify
  dsimp only
  rw [if_neg hrequired]
  by_cases hlt : total.aggregateUsable < total.requiredPerGroup
  · rw [if_pos hlt]
    exact ⟨iff_of_true rfl hlt, iff_of_false nofun (hshort hlt)⟩
  · rw [if_neg hlt]
    by_cases hle : total.requiredPerGroup ≤ total.largestLegalGroup
    · rw [if_pos hle]
      exact ⟨iff_of_false nofun hlt, iff_of_true rfl hle⟩
    · rw [if_neg hle]
      refine ⟨iff_of_false ?_ hlt, iff_of_false ?_ hle⟩
      · repeat' split
        all_goals nofun
      · repeat' split
        all_goals nofun

/-- A finding that conserves the capacity of a report. -/
structure FragmentationFinding.Conserves (finding : FragmentationFinding)
    (report : StrandedCapacityReport) : Prop where
  /-- The aggregates are those of the report. -/
  reported : ∀ field, finding.aggregate field = report.summary.get field.toCapacityField
  /-- They are the exact sums over the rows. -/
  summed : ∀ field, (finding.aggregate field).toNat = rowSum field finding.domains
  /-- The largest group is the largest usable capacity of a row. -/
  le_largest : ∀ row ∈ finding.domains, row.usable ≤ finding.largestLegalGroup
  largest : finding.domains = [] ∧ finding.largestLegalGroup = 0 ∨
    ∃ row ∈ finding.domains, row.usable = finding.largestLegalGroup
  count : finding.requiredPerGroup ≠ 0 → finding.legalDomainCount.toNat =
    finding.domains.countP fun row => decide (finding.requiredPerGroup ≤ row.usable)
  shortage : finding.requiredPerGroup ≠ 0 →
    (finding.classification = .capacityShortage ↔
      finding.aggregateUsable < finding.requiredPerGroup)
  none : finding.requiredPerGroup ≠ 0 →
    (finding.classification = .none ↔
      ∃ row ∈ finding.domains, finding.requiredPerGroup ≤ row.usable)

theorem rowSum_perm {field : DomainField} {rows rows' : List DomainCapacity}
    (h : rows.Perm rows') : rowSum field rows = rowSum field rows' :=
  (h.map _).sum_eq

/-- The totals of the rows conserve what the rows split. -/
theorem FragmentationFinding.Totals.conserves {start total finding : FragmentationFinding}
    {rows : List DomainCapacity} {report : StrandedCapacityReport} (h : start.Totals total rows)
    (hfinishes : total.Finishes finding)
    (hreport : ∀ field, rowSum field rows = (report.summary.get field.toCapacityField).toNat) :
    finding.Conserves report := by
  have hperm : finding.domains.Perm rows := h.domains ▸ hfinishes.domains
  have hrequired : finding.requiredPerGroup = start.requiredPerGroup :=
    hfinishes.required.trans h.required
  constructor
  case reported =>
    intro field
    rw [hfinishes.aggregate, ← UInt64.toNat_inj, h.aggregate, hreport]
  case summed =>
    intro field
    rw [hfinishes.aggregate, h.aggregate, rowSum_perm hperm]
  case le_largest =>
    intro row hrow
    rw [hfinishes.largest]
    exact h.le_largest row (hperm.mem_iff.mp hrow)
  case largest =>
    rw [hfinishes.largest]
    rcases h.largest with hzero | ⟨row, hrow, heq⟩
    · -- if nothing is usable, any row will do
      cases hdomains : finding.domains with
      | nil => exact .inl ⟨rfl, hzero⟩
      | cons row rest =>
        have hrow : row ∈ rows := hperm.mem_iff.mp (hdomains ▸ List.mem_cons_self)
        have hle := h.le_largest row hrow
        rw [hzero] at hle ⊢
        exact .inr ⟨row, List.mem_cons_self, UInt64.le_antisymm hle UInt64.zero_le⟩
    · exact .inr ⟨row, hperm.mem_iff.mpr hrow, heq⟩
  case count =>
    intro hne
    rw [hrequired] at hne ⊢
    rw [hfinishes.count, h.count hne, hperm.countP_eq]
    rfl
  case shortage =>
    intro hne
    rw [hrequired] at hne ⊢
    rw [hfinishes.classification, (h.classify_iff hne).1]
    exact iff_of_eq (congrArg (· < start.requiredPerGroup) (hfinishes.aggregate .usable).symm)
  case none =>
    intro hne
    rw [hrequired] at hne ⊢
    rw [hfinishes.classification, (h.classify_iff hne).2]
    simp only [hperm.mem_iff]

/-- Fragmentation conserves capacity. -/
theorem fragmentation_conserves (hledgers : LedgersClose snapshot) {finding : FragmentationFinding}
    (h : analyzeFragmentation formatDouble snapshot federation workloadClass kind = .ok finding) :
    ∃ report,
      analyzeStrandedCapacity formatDouble snapshot
        { federation := finding.federation, workloadClass, kind } = .ok report ∧
      finding.Conserves report := by
  obtain ⟨workload, report, state, hanalyzed⟩ := exists_analyzed h
  obtain ⟨total, hfinishes, htotals⟩ := hanalyzed.totals hledgers
  obtain ⟨hcovers, hfits⟩ := hanalyzed.sum_lt hledgers
  have hfederation : finding.federation = fragmentationFederation snapshot federation :=
    hfinishes.federation.trans htotals.federation
  refine ⟨report, hfederation ▸ hanalyzed.reported, htotals.conserves hfinishes ?_⟩
  intro field
  rw [hanalyzed.groups.rowSum_values (hfits field), sum_amountOf, hcovers.sums.exact,
    fieldSum_perm _ hcovers.perm]

end Finding

/-- A snapshot of a cluster with eight idle accelerators and of a workload that asks for two. -/
def pairSnapshot : FederationSnapshot :=
  { buildSnapshot {} {} with
    records := fun k =>
      match k with
      | .cluster => [onePoolCluster]
      | .acceleratorClass => [{ id := ⟨.ofString "a1"⟩ }]
      | .workload =>
        [{ id := ⟨.ofString "w1"⟩, workloadClass := ⟨.ofString "wc"⟩, requiredAccelerators := 2 }]
      | _ => [] }

theorem fragmentation_conserves_pair :
    LedgersClose pairSnapshot ∧
      ∃ finding,
        analyzeFragmentation (fun _ => []) pairSnapshot {} ⟨.ofString "wc"⟩ .accelerator =
          .ok finding ∧
        finding.requiredPerGroup ≠ 0 ∧ finding.classification = .none ∧
        finding.aggregateUsable = 8 ∧
        ∃ report,
          analyzeStrandedCapacity (fun _ => []) pairSnapshot
            { federation := finding.federation, workloadClass := ⟨.ofString "wc"⟩,
              kind := .accelerator } = .ok report ∧
          finding.Conserves report := by
  have hledgers : LedgersClose pairSnapshot := by
    intro cluster hcluster pool hpool
    rw [List.mem_singleton.mp hcluster] at hpool
    rw [List.mem_singleton.mp hpool]
    rfl
  refine ⟨hledgers, ?_⟩
  have hrun : ((analyzeFragmentation (fun _ => []) pairSnapshot {} ⟨.ofString "wc"⟩
      .accelerator).toOption.map fun finding =>
        (finding.requiredPerGroup, finding.classification, finding.aggregateUsable)) =
      some (2, .none, 8) := by
    decide +kernel
  cases hfinding : analyzeFragmentation (fun _ => []) pairSnapshot {} ⟨.ofString "wc"⟩
      .accelerator with
  | error e =>
    rw [hfinding] at hrun
    cases hrun
  | ok finding =>
    rw [hfinding] at hrun
    simp only [Except.toOption, Option.map_some, Option.some.injEq, Prod.mk.injEq] at hrun
    obtain ⟨hrequired, hnone, husable⟩ := hrun
    exact ⟨finding, rfl, by rw [hrequired]; decide, hnone, husable,
      fragmentation_conserves hledgers hfinding⟩

end FederationObservatory
