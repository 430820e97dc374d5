import FederationObservatory.Misc.Runs
import FederationObservatory.Observatory.Durable

/-!
# Operations and runs

The public surface of `FederationObservatory` as one type of requests (everything that takes a
`PublicationContext`) and one type of operations, so that a property of every operation and of
every run is one statement.
-/

namespace FederationObservatory

/-- A registration or publication, `register_publisher` apart. -/
inductive Publication where
  | registerFederation (record : FederationRecord)
  | registerSite (record : SiteRecord)
  | registerCluster (record : ClusterRecord)
  | registerAcceleratorClass (record : AcceleratorClassRecord)
  | registerRuntime (record : RuntimeRecord)
  | registerBackend (record : BackendRecord)
  | registerDomain (record : DomainRecord)
  | registerPolicy (record : PolicyRecord)
  | registerArtifact (record : ArtifactRecord)
  | registerWorkloadClass (record : WorkloadClassRecord)
  | registerWorkload (record : WorkloadRecord)
  | retireCluster (cluster : ClusterId) (generation : ClusterGeneration) (reason : Text)
  | publishCapability (cluster : ClusterId) (clusterGeneration : ClusterGeneration)
      (capabilityGeneration : AcceleratorCapabilityGeneration) (capabilities : CapabilitySet)
  | publishCapacity (cluster : ClusterId) (clusterGeneration : ClusterGeneration)
      (capacityGeneration : CapacityGeneration) (pools : List CapacityPool)
  | publishPlacement (record : PlacementRecord)
  | publishMigration (record : MigrationRecord)
  | publishMigrationStage (migration : MigrationId) (generation : MigrationGeneration)
      (stage : MigrationStage) (detail : Text)
  | publishPortability (record : PortabilityAssessment)
  deriving DecidableEq

/-- Run a publication. -/
def Publication.run (s : Impl) (clock : Clock) (ctx : PublicationContext) : Publication → Outcome
  | .registerFederation record => FederationObservatory.registerFederation s clock ctx record
  | .registerSite record => FederationObservatory.registerSite s clock ctx record
  | .registerCluster record => FederationObservatory.registerCluster s clock ctx record
  | .registerAcceleratorClass record =>
    FederationObservatory.registerAcceleratorClass s clock ctx record
  | .registerRuntime record => FederationObservatory.registerRuntime s clock ctx record
  | .registerBackend record => FederationObservatory.registerBackend s clock ctx record
  | .registerDomain record => FederationObservatory.registerDomain s clock ctx record
  | .registerPolicy record => FederationObservatory.registerPolicy s clock ctx record
  | .registerArtifact record => FederationObservatory.registerArtifact s clock ctx record
  | .registerWorkloadClass record =>
    FederationObservatory.registerWorkloadClass s clock ctx record
  | .registerWorkload record => FederationObservatory.registerWorkload s clock ctx record
  | .retireCluster cluster generation reason =>
    FederationObservatory.retireCluster s clock ctx cluster generation reason
  | .publishCapability cluster clusterGeneration capabilityGeneration capabilities =>
    FederationObservatory.publishCapability s clock ctx cluster clusterGeneration
      capabilityGeneration capabilities
  | .publishCapacity cluster clusterGeneration capacityGeneration pools =>
    FederationObservatory.publishCapacity s clock ctx cluster clusterGeneration
      capacityGeneration pools
  | .publishPlacement record => FederationObservatory.publishPlacement s clock ctx record
  | .publishMigration record => FederationObservatory.publishMigration s clock ctx record
  | .publishMigrationStage migration generation stage detail =>
    FederationObservatory.publishMigrationStage s clock ctx migration generation stage detail
  | .publishPortability record => FederationObservatory.publishPortability s clock ctx record

/-- Everything that takes a `PublicationContext`. -/
inductive Request where
  | registerPublisher
  | publish (publication : Publication)
  deriving DecidableEq

/-- Run a request. -/
def Request.run (s : Impl) (clock : Clock) (ctx : PublicationContext) : Request → Outcome
  | .registerPublisher => FederationObservatory.registerPublisher s clock ctx
  | .publish publication => publication.run s clock ctx

/-- One call on an observatory. A load names the content of its file. -/
inductive Operation where
  | submit (clock : Clock) (ctx : PublicationContext) (request : Request)
  | fencePublisher (publisher : PublisherId) (boot : BootGeneration) (reason : Text)
  | invalidateDynamicEvidence (reason : Text)
  | saveState (now : TimestampNanos)
  | loadState (file : Option ByteCodec.Bytes)
  | restore (state : DurableState)

/-- The state after one call. -/
def Operation.next (s : Impl) : Operation → Impl
  | .submit clock ctx request => (request.run s clock ctx).state
  | .fencePublisher publisher boot reason =>
    (FederationObservatory.fencePublisher s publisher boot reason).2
  | .invalidateDynamicEvidence reason =>
    FederationObservatory.invalidateDynamicEvidence s reason
  | .saveState now => (FederationObservatory.saveState s now).2
  | .loadState file => (FederationObservatory.loadState s file).2
  | .restore state => (FederationObservatory.restore s state).2

/-- The state after a sequence of calls. -/
def Impl.run (s : Impl) (operations : List Operation) : Impl := Runs.run Operation.next s operations

/-- Every call of a sequence satisfies `P` in the state it is made in. -/
def Impl.Along (P : Impl → Operation → Prop) (s : Impl) (operations : List Operation) : Prop :=
  Runs.Along Operation.next P s operations

/-- The states an observatory can be in. -/
inductive Reachable : Impl → Prop where
  | new (bounds : Bounds) : Reachable (Impl.new bounds)
  | next {s : Impl} (h : Reachable s) (operation : Operation) : Reachable (operation.next s)

theorem Reachable.run {s : Impl} (h : Reachable s) (operations : List Operation) :
    Reachable (s.run operations) := by
  induction operations generalizing s with
  | nil => exact h
  | cons operation operations ih => exact ih (h.next operation)

theorem Reachable.along {s : Impl} (h : Reachable s) (operations : List Operation) :
    s.Along (fun s _ => Reachable s) operations := by
  induction operations generalizing s with
  | nil => trivial
  | cons operation operations ih => exact ⟨h, ih (h.next operation)⟩

/-! ## A small deployment

One publisher boot identity that registers a federation, a site and a cluster. -/

namespace Deployment

def federation : FederationRecord :=
  { id := ⟨.ofString "fed"⟩, generation := ⟨1⟩, coordinatorEpoch := ⟨1⟩ }

def site : SiteRecord :=
  { id := ⟨.ofString "site"⟩, generation := ⟨1⟩, federation := federation.id }

def cluster : ClusterRecord :=
  { id := ⟨.ofString "cluster"⟩, generation := ⟨1⟩, epoch := ⟨1⟩, federation := federation.id,
    site := site.id }

def runtime : RuntimeRecord := { id := ⟨.ofString "runtime"⟩, generation := ⟨1⟩ }

/-- A context of the publisher's first boot, under the first coordinator epoch. -/
def context (sequence : UInt64) : PublicationContext :=
  { publisher := ⟨.ofString "agent"⟩, boot := ⟨1⟩, coordinatorEpoch := ⟨1⟩,
    federation := federation.id, sequence := ⟨sequence⟩, observedAt := 1000 }

/-- A publication at a sequence. -/
def publish (sequence : UInt64) (publication : Publication) : Operation :=
  .submit {} (context sequence) (.publish publication)

/-- The publisher registers. -/
def register (sequence : UInt64) : Operation := .submit {} (context sequence) .registerPublisher

/-- The deployment: sequences 1 to 4. -/
def operations : List Operation :=
  [register 1, publish 2 (.registerFederation federation), publish 3 (.registerSite site),
   publish 4 (.registerCluster cluster)]

def state : Impl := (Impl.new {}).run operations

theorem reachable_state : Reachable state := (Reachable.new {}).run operations

/-! A workload to place and move, and a second cluster to move it to. -/

def workloadClass : WorkloadClassRecord := { id := ⟨.ofString "class"⟩ }

def workload : WorkloadRecord :=
  { id := ⟨.ofString "workload"⟩, generation := ⟨1⟩, workloadClass := workloadClass.id }

def standby : ClusterRecord := { cluster with id := ⟨.ofString "standby"⟩ }

/-- Sequences 5 to 7. -/
def workloadOperations : List Operation :=
  [publish 5 (.registerWorkloadClass workloadClass), publish 6 (.registerWorkload workload),
   publish 7 (.registerCluster standby)]

/-- The deployment with its workload. -/
def loaded : Impl := state.run workloadOperations

theorem reachable_loaded : Reachable loaded := reachable_state.run workloadOperations

/-- A migration of the workload to the second cluster. -/
def migration (id : String) : MigrationRecord :=
  { id := ⟨.ofString id⟩, generation := ⟨1⟩, workload := workload.id, workloadGeneration := ⟨1⟩,
    federation := federation.id, source := cluster.id, destination := standby.id }

/-- An assessment of moving the workload to the second cluster. -/
def assessment (overall : PortabilityOutcome) : PortabilityAssessment :=
  { workload := workload.id, workloadGeneration := ⟨1⟩, destination := standby.id, overall }

end Deployment

end FederationObservatory
