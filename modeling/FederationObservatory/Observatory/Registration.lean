import FederationObservatory.Observatory.Authority

/-!
# Structural registration

`register_structural` and its instances (`observatory.cpp`): validate, check cross references,
deduplicate by content digest, fence on generation, apply. Registering a cluster under a newer
generation also clears what was observed of the previous incarnation. Retirement is here too.
-/

namespace FederationObservatory

open StoredRecord (key publishedDigest withStamp withCurrentness)

/-- The refusal that passes on a failed check: "message (detail)". -/
def refuseStatus (s : Impl) (ctx : PublicationContext) (e : Error) : Error × Impl :=
  refuse s e.code (e.message ++ .ofString " (" ++ e.detail ++ .ofString ")") (some ctx.key)

/-- The record as it is stored when it is accepted: current, and stamped by its publication. -/
def accepted {k : RecordKind} (clock : Clock) (ctx : PublicationContext) (record : k.Record) :
    k.Record :=
  withStamp (stampFor clock ctx) (withCurrentness .current record)

/-- Write one record. -/
def Impl.store (s : Impl) (k : RecordKind) (key : k.Key) (record : k.Record) : Impl :=
  { s with toCollections := s.toCollections.setTable k ((s.table k).insert key record) }

/-- `snapshot_generation_ = snapshot_generation_.next()`. -/
def Impl.advanceSnapshot (s : Impl) : Impl :=
  { s with snapshotGeneration := s.snapshotGeneration.next }

/-- `Impl::register_structural`. -/
def registerStructural (k : RecordKind) {tag : GenerationTag} (s : Impl) (clock : Clock)
    (ctx : PublicationContext) (record : k.Record) (label : String) (extra : k.Record → Status)
    (limit : Nat) (generationOf : k.Record → Generation tag) : Outcome := do
  let check ← checkAuthority s ctx
  match StoredRecord.validate record with
  | .error e => .error (refuseStatus s ctx e)
  | .ok () =>
  match extra record with
  | .error e => .error (refuseStatus s ctx e)
  | .ok () =>
  let stored := (s.table k)[key record]?
  if stored.any fun old => publishedDigest old = publishedDigest record then
    .ok (finish s clock ctx check.authority .duplicate
      (.ofString ("identical " ++ label ++ " re-publication was suppressed")))
  else if check.duplicateSequence then
    .error (refuse s .conflict
      (.ofString "sequence " ++ ctx.sequence.toText ++
        .ofString (" was already accepted with different " ++ label ++ " content"))
      (some ctx.key))
  else
    match stored with
    | none =>
      if limit ≤ (s.table k).size then
        .error (refuse s.countBoundsRejection .boundExceeded
          (.ofString ("the " ++ label ++ " bound is exhausted")) (some ctx.key))
      else
        .ok (finish (s.store k (key record) (accepted clock ctx record)).advanceSnapshot clock ctx
          check.authority .applied)
    | some old =>
      if (generationOf old).newerThan (generationOf record) then
        .ok (finish s clock ctx check.authority .superseded
          (.ofString ("stored " ++ label ++ " generation ") ++ (generationOf old).toText ++
            .ofString " is newer than the published " ++ (generationOf record).toText))
      else
        .ok (finish (s.store k (key record) (accepted clock ctx record)).advanceSnapshot clock ctx
          check.authority .applied)

/-! ## Cross references -/

/-- A reference that must be registered. -/
def checkRegistered (registered : Bool) (message : String) {tag : IdTag} (id : StrongId tag) :
    Status :=
  failIf (!registered) .notFound message id.value

@[simp] theorem checkRegistered_eq_ok {registered : Bool} {message : String} {tag : IdTag}
    {id : StrongId tag} {u : Unit} :
    checkRegistered registered message id = .ok u ↔ registered = true := by
  simp [checkRegistered, failIf_eq_ok]

def checkSite (s : Impl) (candidate : SiteRecord) : Status :=
  checkRegistered (s.federations.contains candidate.federation)
    "site references an unregistered federation" candidate.federation

def checkBackend (s : Impl) (candidate : BackendRecord) : Status :=
  checkRegistered (s.runtimes.contains candidate.runtime)
    "backend references an unregistered runtime" candidate.runtime

def checkDomain (s : Impl) (candidate : DomainRecord) : Status := do
  checkRegistered (s.federations.contains candidate.federation)
    "domain references an unregistered federation" candidate.federation
  candidate.clusters.forM fun id =>
    checkRegistered (s.clusters.contains id) "domain references an unregistered cluster" id

def checkWorkload (s : Impl) (candidate : WorkloadRecord) : Status := do
  checkRegistered (s.workloadClasses.contains candidate.workloadClass)
    "workload references an unregistered workload class" candidate.workloadClass
  checkRegistered (candidate.artifact.empty || s.artifacts.contains candidate.artifact)
    "workload references an unregistered artifact" candidate.artifact
  checkRegistered (candidate.policy.empty || s.policies.contains candidate.policy)
    "workload references an unregistered policy" candidate.policy
  candidate.acceptableAcceleratorClasses.forM fun id =>
    checkRegistered (s.acceleratorClasses.contains id)
      "workload references an unregistered accelerator class" id

def checkCluster (s : Impl) (candidate : ClusterRecord) : Status := do
  checkRegistered (s.federations.contains candidate.federation)
    "cluster references an unregistered federation" candidate.federation
  checkRegistered (s.sites.contains candidate.site) "cluster references an unregistered site"
    candidate.site
  candidate.acceleratorClasses.forM fun id =>
    checkRegistered (s.acceleratorClasses.contains id)
      "cluster references an unregistered accelerator class" id
  candidate.runtimes.forM fun id =>
    checkRegistered (s.runtimes.contains id) "cluster references an unregistered runtime" id
  candidate.backends.forM fun id =>
    checkRegistered (s.backends.contains id) "cluster references an unregistered backend" id
  checkRegistered (candidate.domain.empty || s.domains.contains candidate.domain)
    "cluster references an unregistered domain" candidate.domain

/-! ## Operations -/

def registerFederation (s : Impl) (clock : Clock) (ctx : PublicationContext)
    (record : FederationRecord) : Outcome :=
  registerStructural .federation s clock ctx record "federation" (fun _ => .ok ())
    s.bounds.maxFederations (·.generation)

def registerSite (s : Impl) (clock : Clock) (ctx : PublicationContext) (record : SiteRecord) :
    Outcome :=
  registerStructural .site s clock ctx record "site" (checkSite s) s.bounds.maxSites
    (·.generation)

def registerAcceleratorClass (s : Impl) (clock : Clock) (ctx : PublicationContext)
    (record : AcceleratorClassRecord) : Outcome :=
  registerStructural .acceleratorClass s clock ctx record "accelerator class" (fun _ => .ok ())
    s.bounds.maxAcceleratorClasses (·.capabilityGeneration)

def registerRuntime (s : Impl) (clock : Clock) (ctx : PublicationContext)
    (record : RuntimeRecord) : Outcome :=
  registerStructural .runtime s clock ctx record "runtime" (fun _ => .ok ()) s.bounds.maxRuntimes
    (·.generation)

def registerBackend (s : Impl) (clock : Clock) (ctx : PublicationContext)
    (record : BackendRecord) : Outcome :=
  registerStructural .backend s clock ctx record "backend" (checkBackend s) s.bounds.maxBackends
    (·.generation)

def registerDomain (s : Impl) (clock : Clock) (ctx : PublicationContext)
    (record : DomainRecord) : Outcome :=
  registerStructural .domain s clock ctx record "domain" (checkDomain s) s.bounds.maxDomains
    (·.topologyGeneration)

def registerPolicy (s : Impl) (clock : Clock) (ctx : PublicationContext)
    (record : PolicyRecord) : Outcome :=
  registerStructural .policy s clock ctx record "policy" (fun _ => .ok ()) s.bounds.maxPolicies
    (·.generation)

def registerArtifact (s : Impl) (clock : Clock) (ctx : PublicationContext)
    (record : ArtifactRecord) : Outcome :=
  registerStructural .artifact s clock ctx record "artifact" (fun _ => .ok ())
    s.bounds.maxArtifacts (·.generation)

/-- A workload class has no generation: none is ever newer. -/
def registerWorkloadClass (s : Impl) (clock : Clock) (ctx : PublicationContext)
    (record : WorkloadClassRecord) : Outcome :=
  registerStructural .workloadClass s clock ctx record "workload class" (fun _ => .ok ())
    s.bounds.maxWorkloadClasses (fun _ => ({} : FederationGeneration))

def registerWorkload (s : Impl) (clock : Clock) (ctx : PublicationContext)
    (record : WorkloadRecord) : Outcome :=
  registerStructural .workload s clock ctx record "workload" (checkWorkload s)
    s.bounds.maxWorkloads (·.generation)

/-- A cluster whose generation advanced: what was observed of the previous incarnation is not
    evidence about this one. -/
def ClusterRecord.advanced (record : ClusterRecord) (previous incoming : ClusterGeneration) :
    ClusterRecord :=
  { record with
    capacityPools := []
    readiness := .unknown
    evidence := record.evidence.addIgnoringStatus .derivedAnalysis record.stamp.evidenceClass
      (.ofString "observatory") .derived
      (.ofString "cluster generation advanced from " ++ previous.toText ++ .ofString " to " ++
        incoming.toText ++ .ofString ("; dynamic capacity and readiness evidence was cleared and " ++
          "must be republished")) }

/-- The generation of the stored cluster, unset when there is none. -/
def Impl.clusterGeneration (s : Impl) (cluster : ClusterId) : ClusterGeneration :=
  match s.clusters[cluster]? with
  | some record => record.generation
  | none => {}

/-- `Impl::register_cluster`. -/
def registerCluster (s : Impl) (clock : Clock) (ctx : PublicationContext)
    (record : ClusterRecord) : Outcome := do
  let previous := s.clusterGeneration record.id
  let (result, t) ← registerStructural .cluster s clock ctx record "cluster" (checkCluster s)
    s.bounds.maxClusters (·.generation)
  if result.disposition = .applied ∧ previous.isSet ∧ record.generation.newerThan previous then
    match t.clusters[record.id]? with
    | some stored =>
      .ok (result, (t.store .cluster record.id
        (stored.advanced previous record.generation)).advanceSnapshot)
    | none => .ok (result, t)
  else .ok (result, t)

/-- What `retire_cluster` writes to the cluster. -/
def ClusterRecord.retire (record : ClusterRecord) (clock : Clock) (ctx : PublicationContext)
    (generation : ClusterGeneration) (reason : Text) : ClusterRecord :=
  { record with
    generation := if generation.isSet then generation else record.generation.next
    currentness := .retired
    readiness := .retired
    capacityGeneration := record.capacityGeneration.next
    stamp := stampFor clock ctx
    evidence := record.evidence.addIgnoringStatus .clusterController ctx.evidenceClass
      ctx.publisher.value ctx.precision (.ofString "cluster retired: " ++ reason) }

/-- `Impl::retire_cluster`. -/
def retireCluster (s : Impl) (clock : Clock) (ctx : PublicationContext) (cluster : ClusterId)
    (generation : ClusterGeneration) (reason : Text) : Outcome := do
  let check ← checkAuthority s ctx
  match s.clusters[cluster]? with
  | none =>
    .error (refuse s .notFound (.ofString "cluster is not registered") (some ctx.key))
  | some record =>
    if generation.isSet && generation.olderThan record.generation then
      .error (refuse s .staleGeneration
        (.ofString "retirement targets cluster generation " ++ generation.toText ++
          .ofString " but the current generation is " ++ record.generation.toText)
        (some ctx.key))
    else if record.currentness = .retired then
      .ok (finish s clock ctx check.authority .duplicate
        (.ofString "cluster was already retired"))
    else
      let t := (s.store .cluster cluster (record.retire clock ctx generation reason)).advanceSnapshot
      .ok (finish
        { t with stats := { t.stats with clusterRetirements := t.stats.clusterRetirements + 1 } }
        clock ctx check.authority .applied
        (.ofString ("cluster retired; its history is preserved and late evidence for the previous " ++
          "generation is refused")))

end FederationObservatory
