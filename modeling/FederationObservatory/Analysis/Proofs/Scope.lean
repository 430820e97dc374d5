import FederationObservatory.Analysis.Proofs.Rows

/-!
# Groups that may be used together

A workload says where the members of a group have to be: in one cluster, in one site, inside a
domain, in one failure domain. The analysis of fragmentation takes every placement domain for such a
place.
-/

namespace FederationObservatory

open Grouping

/-- A cluster inside a domain: it names the domain, or the domain lists it. -/
def ClusterRecord.Inside (snapshot : FederationSnapshot) (domain : DomainId)
    (cluster : ClusterRecord) : Prop :=
  cluster.domain = domain ∨
    ∃ record ∈ snapshot.records .domain, DomainRecord.id record = domain ∧
      cluster.id ∈ DomainRecord.clusters record

/-- Clusters that a group of the workload may be spread over. -/
structure CoResident (snapshot : FederationSnapshot) (workload : WorkloadRecord)
    (members : List ClusterRecord) : Prop where
  mem : members ⊆ snapshot.records .cluster
  cluster : workload.requiredDomainKind = .cluster → ∀ a ∈ members, ∀ b ∈ members, a.id = b.id
  site : workload.requiredDomainKind = .site → ∀ a ∈ members, ∀ b ∈ members, a.site = b.site
  domain : workload.requiredDomain.empty = false →
    ∀ a ∈ members, a.Inside snapshot workload.requiredDomain
  failureDomain : workload.requireSingleFailureDomain = true →
    ∀ a ∈ members, ∀ b ∈ members, a.failureDomain = b.failureDomain

theorem coResident_nil (snapshot : FederationSnapshot) (workload : WorkloadRecord) :
    CoResident snapshot workload [] := by
  constructor <;> simp

section Scope

variable {formatDouble : Double → Text} {snapshot : FederationSnapshot} {federation : FederationId}
  {workloadClass : WorkloadClassId} {kind : ResourceKind} {workload : WorkloadRecord}
  {report : StrandedCapacityReport} {state : GroupingState} {finding : FragmentationFinding}

end Scope

end FederationObservatory
