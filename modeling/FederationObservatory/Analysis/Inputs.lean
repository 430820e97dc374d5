import FederationObservatory.Analysis.Compatibility
import FederationObservatory.Analysis.Portability

/-!
# Inputs of the assessors

`collect_assessment_inputs` and `portability_inputs_for` (`observatory.cpp`): the records of a
snapshot that an assessment is made from, and the two queries over them.
-/

namespace FederationObservatory

section Inputs

variable (snapshot : FederationSnapshot)

/-- The artifact of a workload. -/
def workloadArtifact (workload : Option WorkloadRecord) : Option ArtifactRecord :=
  workload.bind fun record => snapshot.find .artifact record.artifact

/-- The policy of a workload that names one. -/
def workloadPolicy (workload : Option WorkloadRecord) : Option PolicyRecord :=
  workload.bind fun record =>
    if record.policy.empty then none else snapshot.find .policy record.policy

/-- The accelerator class that a workload is assessed on: the first it accepts, or else the first
    of the cluster that is registered. -/
def assessedAcceleratorClass (workload : Option WorkloadRecord) (cluster : ClusterRecord) :
    Option AcceleratorClassRecord :=
  ((workload.bind fun record => record.acceptableAcceleratorClasses.head?).bind
    (snapshot.find .acceleratorClass)).or (firstAcceleratorClass snapshot cluster)

/-- The runtime that a workload is assessed on: the first of the cluster, if it is registered. -/
def assessedRuntime (cluster : ClusterRecord) : Option RuntimeRecord :=
  cluster.runtimes.head?.bind (snapshot.find .runtime)

/-- `collect_assessment_inputs`. -/
def collectAssessmentInputs (clusterId : ClusterId) (workloadId : WorkloadId) :
    CompatibilityInputs :=
  match snapshot.find .cluster clusterId with
  | none => {}
  | some cluster =>
    let workload := snapshot.find .workload workloadId
    let acceleratorClass := assessedAcceleratorClass snapshot workload cluster
    let runtime := assessedRuntime snapshot cluster
    { workload
      artifact := workloadArtifact snapshot workload
      cluster := some cluster
      acceleratorClass
      clusterRuntime := runtime
      policy := workloadPolicy snapshot workload
      effectiveCapabilities := some (assessmentCapabilities cluster acceleratorClass runtime)
      compatibilityGeneration := cluster.compatibilityGeneration
      targetCurrentness := cluster.currentness }

/-- The cluster that hosts a workload now, by the latest of its current placements. -/
def hostingCluster (workloadId : WorkloadId) : Option ClusterRecord :=
  (latestCurrentPlacement workloadId (snapshot.records .placement)).bind fun placement =>
    snapshot.find .cluster placement.selected

/-- `portability_inputs_for`. -/
def portabilityInputsFor (workloadId : WorkloadId) (destinationId : ClusterId) :
    PortabilityInputs :=
  let workload := snapshot.find .workload workloadId
  let source := hostingCluster snapshot workloadId
  let subject : PortabilityInputs :=
    { workload
      artifact := workloadArtifact snapshot workload
      policy := workloadPolicy snapshot workload
      sourceCluster := source
      sourceRuntime := source.bind (assessedRuntime snapshot)
      sourceAcceleratorClass := source.bind (firstAcceleratorClass snapshot) }
  match snapshot.find .cluster destinationId with
  | none => subject
  | some destination =>
    let acceleratorClass := assessedAcceleratorClass snapshot workload destination
    let runtime := assessedRuntime snapshot destination
    { subject with
      destinationCluster := some destination
      destinationRuntime := runtime
      destinationAcceleratorClass := acceleratorClass
      destinationCapabilities :=
        some (portabilityCapabilities destination acceleratorClass runtime)
      federation := destination.federation
      federationGeneration := snapshot.generation }

end Inputs

section Queries

variable (formatDouble : Double → Text) (s : Impl)

/-- `FederationObservatory::compatibility`. -/
def compatibility (cluster : ClusterId) (workload : WorkloadId) :
    Result CompatibilityAssessment := do
  let snapshot := buildSnapshot s {}
  failIf (snapshot.find .cluster cluster).isNone .notFound "cluster is not registered" cluster.value
  failIf (snapshot.find .workload workload).isNone .notFound "workload is not registered"
    workload.value
  pure (assessCompatibility formatDouble (collectAssessmentInputs snapshot cluster workload))

/-- `FederationObservatory::evaluate_portability`. -/
def evaluatePortability (workload : WorkloadId) (destination : ClusterId) :
    Result PortabilityAssessment := do
  let snapshot := buildSnapshot s {}
  failIf (snapshot.find .workload workload).isNone .notFound "workload is not registered"
    workload.value
  failIf (snapshot.find .cluster destination).isNone .notFound
    "destination cluster is not registered" destination.value
  pure (assessPortability formatDouble (portabilityInputsFor snapshot workload destination))

end Queries

end FederationObservatory
