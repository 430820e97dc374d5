import FederationObservatory.Analysis.Stranded

/-!
# Federation fragmentation

`analyze_fragmentation` (`analysis.cpp`): the findings of a stranded capacity report, grouped by the
placement domain of their clusters, and what keeps a group of the required size from being formed.
-/

namespace FederationObservatory

open Sorting

/-- `FragmentationClass`. -/
inductive FragmentationClass where
  | none | capacityShortage | physicalFragmentation | compatibilityFragmentation
  | policyFragmentation | topologyFragmentation | siteFragmentation | mixed | unknown
  deriving DecidableEq, Repr

/-- `DomainCapacity`. -/
structure DomainCapacity where
  domain : DomainId := {}
  kind : DomainKind := .unknown
  site : SiteId := {}
  nominal : UInt64 := 0
  usable : UInt64 := 0
  stranded : UInt64 := 0
  unknown : UInt64 := 0
  clusters : List ClusterId := []
  deriving DecidableEq, Repr

/-- `FragmentationFinding`. -/
structure FragmentationFinding where
  federation : FederationId := {}
  federationGeneration : FederationGeneration := {}
  workloadClass : WorkloadClassId := {}
  kind : ResourceKind := .accelerator
  requiredDomainKind : DomainKind := .unknown
  requiredPerGroup : UInt64 := 0
  aggregateNominal : UInt64 := 0
  aggregateUsable : UInt64 := 0
  aggregateStranded : UInt64 := 0
  aggregateUnknown : UInt64 := 0
  largestLegalGroup : UInt64 := 0
  largestDomain : DomainId := {}
  legalDomainCount : UInt64 := 0
  classification : FragmentationClass := .unknown
  domains : List DomainCapacity := []
  strandedByReason : ReasonTally := {}
  capacityGeneration : CapacityGeneration := {}
  capabilityGeneration : AcceleratorCapabilityGeneration := {}
  topologyGeneration : TopologyGeneration := {}
  currentness : Currentness := .unknown
  precision : Precision := .unknown
  evidenceClass : EvidenceClass := .unknown
  evidence : EvidenceList := {}

/-! ## Grouping -/

/-- The map of the domains while the findings are grouped. -/
abbrev DomainMap := Std.TreeMap DomainId DomainCapacity

/-- A registered domain, before any capacity is counted. -/
def DomainRecord.capacity (record : DomainRecord) : DomainCapacity :=
  { domain := record.id, kind := record.kind, site := record.site, clusters := record.clusters }

/-- The loop over the registered domains. -/
def registeredDomains (snapshot : FederationSnapshot) (federation : FederationId) : DomainMap :=
  (snapshot.records .domain).foldl
    (fun (domains : DomainMap) (record : DomainRecord) =>
      if !federation.empty && record.federation != federation then domains
      else domains.insert record.id record.capacity) ∅

/-- The domain of a finding's cluster. A cluster without one is its own domain. -/
structure DomainChoice where
  domain : DomainId
  kind : DomainKind := .cluster
  synthesized : Bool := false
  deriving DecidableEq, Repr

def domainChoice (snapshot : FederationSnapshot) (row : StrandedCapacityFinding) : DomainChoice :=
  match (snapshot.find .cluster row.cluster).filter fun cluster => !cluster.domain.empty with
  | some cluster =>
    { domain := cluster.domain
      kind := ((snapshot.find .domain cluster.domain).map DomainRecord.kind).getD .cluster }
  | none => { domain := ⟨row.cluster.value⟩, synthesized := true }

/-- The row with one finding more. -/
def DomainCapacity.count (capacity : DomainCapacity) (row : StrandedCapacityFinding) :
    DomainCapacity :=
  { capacity with
    nominal := saturatingAdd capacity.nominal row.ledger.nominal
    usable := saturatingAdd capacity.usable row.breakdown.usable
    stranded := saturatingAdd capacity.stranded row.breakdown.stranded
    unknown := saturatingAdd capacity.unknown row.breakdown.unknown
    clusters :=
      if row.cluster ∈ capacity.clusters then capacity.clusters
      else stableSort less (capacity.clusters ++ [row.cluster]) }

/-- The row a finding is counted in, new if there is none. -/
def DomainMap.row (domains : DomainMap) (choice : DomainChoice) (site : SiteId) : DomainCapacity :=
  (domains[choice.domain]?).getD { domain := choice.domain, kind := choice.kind, site }

/-- The loop over the findings keeps these. -/
structure GroupingState where
  domains : DomainMap
  synthesized : Bool := false
  strandedByReason : ReasonTally := {}

/-- The body of the loop over the findings. -/
def GroupingState.add (snapshot : FederationSnapshot) (state : GroupingState)
    (row : StrandedCapacityFinding) : Result GroupingState := do
  let choice := domainChoice snapshot row
  let capacity := (state.domains.row choice row.site).count row
  let strandedByReason ← row.breakdown.strandedByPrimaryReason.nonZero.foldlM
    (fun (tally : ReasonTally) entry => tally.add entry.1 entry.2) state.strandedByReason
  pure
    { domains := state.domains.insert choice.domain capacity
      synthesized := state.synthesized || choice.synthesized
      strandedByReason }

/-! ## Aggregation -/

/-- The body of the loop over the map. -/
def FragmentationFinding.addDomain (finding : FragmentationFinding) (capacity : DomainCapacity) :
    FragmentationFinding :=
  { finding with
    aggregateNominal := saturatingAdd finding.aggregateNominal capacity.nominal
    aggregateUsable := saturatingAdd finding.aggregateUsable capacity.usable
    aggregateStranded := saturatingAdd finding.aggregateStranded capacity.stranded
    aggregateUnknown := saturatingAdd finding.aggregateUnknown capacity.unknown
    largestLegalGroup :=
      if finding.largestLegalGroup < capacity.usable then capacity.usable
      else finding.largestLegalGroup
    largestDomain :=
      if finding.largestLegalGroup < capacity.usable then capacity.domain
      else finding.largestDomain
    legalDomainCount :=
      if finding.requiredPerGroup ≠ 0 ∧ finding.requiredPerGroup ≤ capacity.usable then
        finding.legalDomainCount + 1
      else finding.legalDomainCount
    domains := finding.domains ++ [capacity] }

/-- The kinds of reasons the classification tells apart. -/
inductive ReasonNature where
  | policy | topology | compatibility | other
  deriving DecidableEq, Repr

/-- The `switch` over the reasons. -/
def StrandingReason.nature : StrandingReason → ReasonNature
  | .siteRestriction | .policyRestriction => .policy
  | .topologyConstraint | .partitionGeometry | .missingInterconnectFeature => .topology
  | .none | .unknown | .isolationRequirement | .missingLocalStorageState
  | .memoryInsufficient => .other
  | _ => .compatibility

/-- The classification. -/
def FragmentationFinding.classify (finding : FragmentationFinding) : FragmentationClass :=
  let natures := finding.strandedByReason.nonZero.map fun entry => entry.1.nature
  let policy := decide (ReasonNature.policy ∈ natures)
  let topology := decide (ReasonNature.topology ∈ natures)
  let compatibility := decide (ReasonNature.compatibility ∈ natures)
  if finding.requiredPerGroup = 0 then .unknown
  else if finding.aggregateUsable < finding.requiredPerGroup then .capacityShortage
  else if finding.requiredPerGroup ≤ finding.largestLegalGroup then .none
  else if finding.requiredDomainKind = .federation ∧ policy then .siteFragmentation
  else if policy && (compatibility || topology) then .mixed
  else if policy then .policyFragmentation
  else if compatibility && topology then .mixed
  else if compatibility then .compatibilityFragmentation
  else if topology then .topologyFragmentation
  else .physicalFragmentation

section Analysis

variable (formatDouble : Double → Text) (snapshot : FederationSnapshot) (federation : FederationId)
  (workloadClass : WorkloadClassId) (kind : ResourceKind)

/-- The federation a finding is about. -/
def fragmentationFederation : FederationId :=
  if federation.empty then snapshot.federation else federation

/-- The request for the report that is grouped. -/
def fragmentationRequest : StrandedCapacityRequest :=
  { federation := fragmentationFederation snapshot federation, workloadClass, kind }

/-- What is left of the analysis once the findings are grouped. -/
def fragmentationFinding (workload : WorkloadRecord) (report : StrandedCapacityReport)
    (state : GroupingState) : FragmentationFinding :=
  let start : FragmentationFinding :=
    { federation := fragmentationFederation snapshot federation
      federationGeneration := snapshot.generation
      workloadClass
      kind
      requiredPerGroup := workload.requiredAccelerators.toUInt64
      requiredDomainKind := workload.requiredDomainKind
      strandedByReason := state.strandedByReason }
  let finding := state.domains.values.foldl FragmentationFinding.addDomain start
  let evidence := report.evidence.items.foldl
    (fun (evidence : EvidenceList) ref =>
      match evidence.add ref with
      | .ok evidence => evidence
      | .error _ => evidence) {}
  { finding with
    domains := stableSort (fun a b => less a.domain b.domain) finding.domains
    classification := finding.classify
    capacityGeneration :=
      (((snapshot.records .cluster).head?).map ClusterRecord.capacityGeneration).getD {}
    precision := report.precision
    evidenceClass := report.evidenceClass
    currentness := if snapshot.snapshotGeneration = {} then .unknown else .current
    evidence := evidence.addIgnoringStatus .derivedAnalysis report.evidenceClass
      (.ofString "fragmentation-analysis") .derived
      (Text.ofString "grouped usable capacity into " ++ Text.ofNat finding.domains.length ++
        Text.ofString " placement domains" ++
        if state.synthesized then
          Text.ofString ("; clusters that publish no domain were treated as their own " ++
            "cluster-scoped domain")
        else []) }

/-- `analyze_fragmentation`. -/
def analyzeFragmentation : Result FragmentationFinding :=
  match selectWorkload snapshot workloadClass with
  | none =>
    .error ⟨.notFound, .ofString "no workload generation is registered for this workload class",
      workloadClass.value⟩
  | some workload => do
    let report ← analyzeStrandedCapacity formatDouble snapshot
      (fragmentationRequest snapshot federation workloadClass kind)
    let state ← report.findings.foldlM (GroupingState.add snapshot)
      { domains := registeredDomains snapshot (fragmentationFederation snapshot federation) }
    pure (fragmentationFinding snapshot federation workloadClass kind workload report state)

end Analysis

end FederationObservatory
