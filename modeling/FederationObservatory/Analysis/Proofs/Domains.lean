import FederationObservatory.Analysis.Fragmentation
import FederationObservatory.Analysis.Proofs.Partition
import FederationObservatory.Misc.Grouping
import FederationObservatory.Misc.Tables

/-!
# Grouping capacity by domain

Every finding is counted in the row of its domain and in no other, so the rows split the report. A
row saturates only where the findings add up to more than a counter holds.
-/

namespace FederationObservatory

open Grouping Sorting

/-! ## Amounts of a row -/

/-- The amounts a domain row keeps. -/
inductive DomainField where
  | nominal | usable | stranded | unknown
  deriving DecidableEq, Repr

/-- The field of a report's summary. -/
def DomainField.toCapacityField : DomainField → CapacityField
  | .nominal => .nominal
  | .usable => .usable
  | .stranded => .stranded
  | .unknown => .unknown

def DomainCapacity.get (capacity : DomainCapacity) : DomainField → UInt64
  | .nominal => capacity.nominal
  | .usable => capacity.usable
  | .stranded => capacity.stranded
  | .unknown => capacity.unknown

/-- The domain whose row a finding is counted in. -/
def groupOf (snapshot : FederationSnapshot) (row : StrandedCapacityFinding) : DomainId :=
  (domainChoice snapshot row).domain

/-- The amount of a finding. -/
def amountOf (field : DomainField) (row : StrandedCapacityFinding) : Nat :=
  (row.get field.toCapacityField).toNat

theorem sum_amountOf (field : DomainField) (rows : List StrandedCapacityFinding) :
    (rows.map (amountOf field)).sum = fieldSum field.toCapacityField rows := rfl

theorem DomainCapacity.toNat_get_count (capacity : DomainCapacity) (row : StrandedCapacityFinding)
    (field : DomainField) :
    ((capacity.count row).get field).toNat =
      saturate ((capacity.get field).toNat + amountOf field row) := by
  obtain ⟨counted, hcounted, hnominal, husable, hstranded, hunknown⟩ :
      ∃ counted, capacity.count row = counted ∧
        counted.nominal = saturatingAdd capacity.nominal row.ledger.nominal ∧
        counted.usable = saturatingAdd capacity.usable row.breakdown.usable ∧
        counted.stranded = saturatingAdd capacity.stranded row.breakdown.stranded ∧
        counted.unknown = saturatingAdd capacity.unknown row.breakdown.unknown :=
    ⟨_, rfl, rfl, rfl, rfl, rfl⟩
  rw [hcounted]
  cases field with
  | nominal => exact (congrArg _ hnominal).trans (toNat_saturatingAdd_eq _ _)
  | usable => exact (congrArg _ husable).trans (toNat_saturatingAdd_eq _ _)
  | stranded => exact (congrArg _ hstranded).trans (toNat_saturatingAdd_eq _ _)
  | unknown => exact (congrArg _ hunknown).trans (toNat_saturatingAdd_eq _ _)

theorem DomainCapacity.domain_count (capacity : DomainCapacity) (row : StrandedCapacityFinding) :
    (capacity.count row).domain = capacity.domain := by
  -- named, so that the saturating sums are not computed when the rows are compared
  obtain ⟨add, hadd⟩ : ∃ add, add = saturatingAdd := ⟨_, rfl⟩
  unfold DomainCapacity.count
  rw [← hadd]

theorem DomainCapacity.mem_clusters_count {capacity : DomainCapacity}
    {row : StrandedCapacityFinding} {cluster : ClusterId} :
    cluster ∈ (capacity.count row).clusters ↔
      cluster ∈ capacity.clusters ∨ cluster = row.cluster := by
  unfold DomainCapacity.count
  dsimp only
  split
  · rename_i hmem
    constructor
    · exact .inl
    · rintro (h | rfl)
      · exact h
      · exact hmem
  · rw [(perm_stableSort _ _).mem_iff, List.mem_append, List.mem_singleton]

/-! ## Registered domains -/

/-- A domain that the analysis starts with. -/
def Registered (snapshot : FederationSnapshot) (federation : FederationId) (record : DomainRecord) :
    Prop :=
  record ∈ snapshot.records .domain ∧ (federation.empty = true ∨ record.federation = federation)

theorem getElem?_registeredDomains {snapshot : FederationSnapshot} {federation : FederationId}
    {d : DomainId} {c : DomainCapacity} (h : (registeredDomains snapshot federation)[d]? = some c) :
    ∃ record, Registered snapshot federation record ∧ record.id = d ∧ c = record.capacity := by
  unfold registeredDomains at h
  unfold Registered
  generalize (snapshot.records .domain : List DomainRecord) = records at h
  induction records using List.reverseRecOn with
  | nil => simp at h
  | append_singleton records record ih =>
    rw [List.foldl_append, List.foldl_cons, List.foldl_nil] at h
    split at h
    · obtain ⟨found, ⟨hmem, hfederation⟩, hid, hc⟩ := ih h
      exact ⟨found, ⟨List.mem_append_left _ hmem, hfederation⟩, hid, hc⟩
    · rename_i hfederation
      rw [Std.TreeMap.getElem?_insert] at h
      split at h
      · rename_i hkey
        have hfed : federation.empty = true ∨ record.federation = federation := by
          simpa [Decidable.or_iff_not_imp_left] using hfederation
        exact ⟨record, ⟨by simp, hfed⟩, by simpa using hkey, (Option.some.inj h).symm⟩
      · obtain ⟨found, ⟨hmem, hfed⟩, hid, hc⟩ := ih h
        exact ⟨found, ⟨List.mem_append_left _ hmem, hfed⟩, hid, hc⟩

/-! ## The loop over the findings -/

/-- What the loop has done with the findings so far. -/
structure GroupingState.Groups (snapshot : FederationSnapshot) (start : DomainMap)
    (state : GroupingState) (rows : List StrandedCapacityFinding) : Prop where
  keyed : ∀ (d : DomainId) (c : DomainCapacity), state.domains[d]? = some c → c.domain = d
  amounts : ∀ field (d : DomainId) (c : DomainCapacity), state.domains[d]? = some c →
    (c.get field).toNat = saturate (weight (groupOf snapshot) (amountOf field) rows d)
  covers : ∀ row ∈ rows, ∃ c, state.domains[groupOf snapshot row]? = some c
  origin : ∀ (d : DomainId) (c : DomainCapacity), state.domains[d]? = some c →
    (∃ c₀, start[d]? = some c₀) ∨ ∃ row ∈ rows, groupOf snapshot row = d
  clusters : ∀ (d : DomainId) (c : DomainCapacity), state.domains[d]? = some c →
    ∀ cluster, cluster ∈ c.clusters ↔
      (∃ c₀ : DomainCapacity, start[d]? = some c₀ ∧ cluster ∈ c₀.clusters) ∨
        ∃ row ∈ rows, groupOf snapshot row = d ∧ row.cluster = cluster
  kept : ∀ (d : DomainId) (c₀ : DomainCapacity), start[d]? = some c₀ →
    ∃ c, state.domains[d]? = some c

theorem GroupingState.domains_add {snapshot : FederationSnapshot} {state state' : GroupingState}
    {row : StrandedCapacityFinding} (h : GroupingState.add snapshot state row = .ok state') :
    state'.domains = state.domains.insert (groupOf snapshot row)
      ((state.domains.row (domainChoice snapshot row) row.site).count row) := by
  unfold GroupingState.add at h
  dsimp only at h
  obtain ⟨tally, -, hstate⟩ := bind_eq_ok.mp h
  cases hstate
  rfl

section Step

variable {snapshot : FederationSnapshot} {start : DomainMap} {state state' : GroupingState}
  {rows : List StrandedCapacityFinding} {row : StrandedCapacityFinding}

/-- The row a finding is counted in, before it is. -/
theorem GroupingState.Groups.row_spec (h : state.Groups snapshot start rows)
    (row : StrandedCapacityFinding) :
    (state.domains.row (domainChoice snapshot row) row.site).domain = groupOf snapshot row ∧
      (∀ field, ((state.domains.row (domainChoice snapshot row) row.site).get field).toNat =
        saturate (weight (groupOf snapshot) (amountOf field) rows (groupOf snapshot row))) ∧
      ∀ cluster, cluster ∈ (state.domains.row (domainChoice snapshot row) row.site).clusters ↔
        (∃ c₀ : DomainCapacity, start[groupOf snapshot row]? = some c₀ ∧ cluster ∈ c₀.clusters) ∨
          ∃ r ∈ rows, groupOf snapshot r = groupOf snapshot row ∧ r.cluster = cluster := by
  cases hlookup : state.domains[groupOf snapshot row]? with
  | some c =>
    have hrow : state.domains.row (domainChoice snapshot row) row.site = c := by
      have hlookup' : state.domains[(domainChoice snapshot row).domain]? = some c := hlookup
      rw [DomainMap.row, hlookup', Option.getD_some]
    rw [hrow]
    exact ⟨h.keyed _ _ hlookup, fun field => h.amounts field _ _ hlookup,
      h.clusters _ _ hlookup⟩
  | none =>
    have hrow : state.domains.row (domainChoice snapshot row) row.site =
        { domain := groupOf snapshot row, kind := (domainChoice snapshot row).kind,
          site := row.site } := by
      have hlookup' : state.domains[(domainChoice snapshot row).domain]? = none := hlookup
      rw [DomainMap.row, hlookup', Option.getD_none]
      rfl
    have hfresh : ∀ r ∈ rows, groupOf snapshot r ≠ groupOf snapshot row := by
      intro r hr heq
      obtain ⟨c, hc⟩ := h.covers r hr
      rw [heq, hlookup] at hc
      cases hc
    have hstart : ∀ c₀, start[groupOf snapshot row]? ≠ some c₀ := by
      intro c₀ hc₀
      obtain ⟨c, hc⟩ := h.kept _ _ hc₀
      rw [hlookup] at hc
      cases hc
    rw [hrow]
    refine ⟨rfl, ?_, ?_⟩
    · intro field
      have hzero : weight (groupOf snapshot) (amountOf field) rows (groupOf snapshot row) = 0 := by
        rw [weight, List.filter_eq_nil_iff.mpr (by simpa using hfresh)]
        rfl
      rw [hzero]
      cases field <;> rfl
    · intro cluster
      constructor
      · intro hmem
        cases hmem
      · rintro (⟨c₀, hc₀, -⟩ | ⟨r, hr, heq, -⟩)
        · exact absurd hc₀ (hstart c₀)
        · exact absurd heq (hfresh r hr)

/-- One finding more. -/
theorem GroupingState.Groups.add (h : state.Groups snapshot start rows)
    (hadd : GroupingState.add snapshot state row = .ok state') :
    state'.Groups snapshot start (rows ++ [row]) := by
  have hdomains := GroupingState.domains_add hadd
  obtain ⟨hdomain, hamounts, hclusters⟩ := h.row_spec row
  have hlookup : ∀ d : DomainId, state'.domains[d]? =
      if groupOf snapshot row = d then
        some ((state.domains.row (domainChoice snapshot row) row.site).count row)
      else state.domains[d]? := by
    intro d
    rw [hdomains, Std.TreeMap.getElem?_insert]
    by_cases heq : groupOf snapshot row = d
    · simp [heq]
    · simp [heq]
  have hweight : ∀ field (d : DomainId),
      weight (groupOf snapshot) (amountOf field) (rows ++ [row]) d =
        weight (groupOf snapshot) (amountOf field) rows d +
          if groupOf snapshot row = d then amountOf field row else 0 := by
    intro field d
    rw [weight_append, weight_singleton]
  constructor
  case keyed =>
    intro d c hc
    rw [hlookup] at hc
    split at hc
    · rename_i heq
      rw [← Option.some.inj hc, ← heq, DomainCapacity.domain_count]
      exact hdomain
    · exact h.keyed d c hc
  case amounts =>
    intro field d c hc
    rw [hlookup] at hc
    rw [hweight]
    split at hc
    · rename_i heq
      subst heq
      rw [← Option.some.inj hc, if_pos rfl, DomainCapacity.toNat_get_count, hamounts field,
        saturate_add]
    · rename_i hne
      rw [if_neg hne, Nat.add_zero]
      exact h.amounts field d c hc
  case covers =>
    intro r hr
    rw [hlookup]
    split
    · exact ⟨_, rfl⟩
    · rename_i hne
      rcases List.mem_append.mp hr with hr | hr
      · exact h.covers r hr
      · exact absurd (congrArg (groupOf snapshot) (List.mem_singleton.mp hr).symm) hne
  case origin =>
    intro d c hc
    rw [hlookup] at hc
    split at hc
    · rename_i heq
      exact .inr ⟨row, by simp, heq⟩
    · rcases h.origin d c hc with hstart | ⟨r, hr, heq⟩
      · exact .inl hstart
      · exact .inr ⟨r, List.mem_append_left _ hr, heq⟩
  case clusters =>
    intro d c hc cluster
    rw [hlookup] at hc
    split at hc
    · rename_i heq
      subst heq
      rw [← Option.some.inj hc, DomainCapacity.mem_clusters_count, hclusters]
      simp only [List.mem_append, List.mem_singleton, or_and_right, exists_or, exists_eq_left,
        true_and, or_assoc, eq_comm (a := cluster)]
    · rename_i hne
      rw [h.clusters d c hc cluster]
      simp only [List.mem_append, List.mem_singleton, or_and_right, exists_or, exists_eq_left, hne,
        false_and, or_false]
  case kept =>
    intro d c₀ hc₀
    rw [hlookup]
    split
    · exact ⟨_, rfl⟩
    · exact h.kept d c₀ hc₀

/-- The whole loop. -/
theorem GroupingState.Groups.foldlM {more : List StrandedCapacityFinding}
    (h : state.Groups snapshot start rows)
    (hadd : more.foldlM (GroupingState.add snapshot) state = .ok state') :
    state'.Groups snapshot start (rows ++ more) := by
  induction more generalizing state rows with
  | nil =>
    cases hadd
    rw [List.append_nil]
    exact h
  | cons row more ih =>
    rw [List.foldlM_cons] at hadd
    obtain ⟨next, hnext, hrest⟩ := bind_eq_ok.mp hadd
    have hsplit : rows ++ row :: more = rows ++ [row] ++ more := by simp
    rw [hsplit]
    exact ih (h.add hnext) hrest

/-- Nothing saturates where the findings can be counted. -/
theorem GroupingState.Groups.exact (h : state.Groups snapshot start rows) {field : DomainField}
    (hfits : (rows.map (amountOf field)).sum < 2 ^ 64) {d : DomainId} {c : DomainCapacity}
    (hc : state.domains[d]? = some c) :
    (c.get field).toNat = weight (groupOf snapshot) (amountOf field) rows d := by
  rw [h.amounts field d c hc, saturate_of_lt ((weight_le _ _ _ _).trans_lt hfits)]

end Step

end FederationObservatory
