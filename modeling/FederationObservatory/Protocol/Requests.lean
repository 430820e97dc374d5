import FederationObservatory.Protocol.Messages

/-!
# Requests

The other half of the payload codecs of `protocol.cpp`: the requests a client encodes and the
replies it decodes. What is sent follows the fields of the message; what an encoder does with a
string that is too long is the business of its caller.
-/

namespace FederationObservatory

open ByteCodec

/-! ## Requests -/

/-- `encode_publication_context`. -/
def encodePublicationContext (context : PublicationContext) : Writer :=
  Put.seq
    [encId context.publisher, encGen context.boot, encGen context.coordinatorEpoch,
     encId context.federation, encGen context.federationGeneration, encSequence context.sequence,
     Encoder.i64 context.observedAt, encEnum context.precision, encEnum context.evidenceClass,
     encEnum context.provenance, encGen context.evidenceGeneration]

def encodeHello (value : HelloRequest) : Writer :=
  Put.seq [Encoder.u16 value.protocol, Encoder.str value.clientVersion, encId value.publisher]

def encodeRegisterPublisher (value : RegisterPublisherRequest) : Writer :=
  Put.seq [encodePublicationContext value.context, Encoder.str value.role]

def encodeFence (value : FenceRequest) : Writer :=
  Put.seq
    [encId value.publisher, encGen value.boot, Encoder.str value.reason, Encoder.str value.token]

namespace Publication

/-- The type a publication is sent under. -/
def type : Publication → MessageType
  | .registerFederation _ => .registerFederation
  | .registerSite _ => .registerSite
  | .registerCluster _ => .registerCluster
  | .registerAcceleratorClass _ => .registerAcceleratorClass
  | .registerRuntime _ => .registerRuntime
  | .registerBackend _ => .registerBackend
  | .registerDomain _ => .registerDomain
  | .registerPolicy _ => .registerPolicy
  | .registerArtifact _ => .registerArtifact
  | .registerWorkloadClass _ => .registerWorkloadClass
  | .registerWorkload _ => .registerWorkload
  | .retireCluster _ _ _ => .retireCluster
  | .publishCapability _ _ _ _ => .publishCapability
  | .publishCapacity _ _ _ _ => .publishCapacity
  | .publishPlacement _ => .publishPlacement
  | .publishMigration _ => .publishMigration
  | .publishMigrationStage _ _ _ _ => .publishMigrationStage
  | .publishPortability _ => .publishPortability

/-- What follows the context. -/
def encode : Publication → Writer
  | .registerFederation record => encodeFederation record
  | .registerSite record => encodeSite record
  | .registerCluster record => encodeCluster record
  | .registerAcceleratorClass record => encodeAcceleratorClass record
  | .registerRuntime record => encodeRuntime record
  | .registerBackend record => encodeBackend record
  | .registerDomain record => encodeDomain record
  | .registerPolicy record => encodePolicy record
  | .registerArtifact record => encodeArtifact record
  | .registerWorkloadClass record => encodeWorkloadClass record
  | .registerWorkload record => encodeWorkload record
  | .retireCluster cluster generation reason =>
    Put.seq [encId cluster, encGen generation, Encoder.str reason]
  | .publishCapability cluster clusterGeneration capabilityGeneration capabilities =>
    Put.seq
      [encId cluster, encGen clusterGeneration, encGen capabilityGeneration,
       encodeCapabilitySet capabilities]
  | .publishCapacity cluster clusterGeneration capacityGeneration pools =>
    Put.seq
      [encId cluster, encGen clusterGeneration, encGen capacityGeneration,
       encCounted encodeCapacityPool pools]
  | .publishPlacement record => encodePlacement record
  | .publishMigration record => encodeMigration record
  | .publishMigrationStage migration generation stage detail =>
    Put.seq [encId migration, encGen generation, encEnum stage, Encoder.str detail]
  | .publishPortability record => encodePortability record

end Publication

/-- `encode_publication`, and the encoders of the publications that are not records. -/
def encodePublication (context : PublicationContext) (publication : Publication) : Writer :=
  encodePublicationContext context ++ publication.encode

/-! ## Queries -/

def encodeExpectedCapability (value : ExpectedCapability) : Writer :=
  Put.seq
    [encId value.cluster, encodeCapabilityRef value.key, encodeCapabilityValue value.value,
     encEnum value.comparator]

/-- The intended state of a drift query. -/
def encodeIntendedState (value : IntendedFederationState) : Writer :=
  Put.seq
    [encId value.federation, encGen value.generation, encCounted encId value.expectedSites,
     encCounted encId value.expectedClusters,
     encCounted encodeExpectedCapability value.expectedCapabilities,
     encCounted (fun entry => Put.seq [encId entry.1, Encoder.str entry.2])
       value.expectedRuntimeVersions,
     encCounted (fun entry => Put.seq [encId entry.1, encodeLedger entry.2])
       value.expectedCapacity,
     encGen value.expectedPolicyGeneration, encEnum value.precision, encEnum value.evidenceClass]

namespace Query

/-- The type a query is sent under. -/
def type : Query → MessageType
  | .health => .queryHealth
  | .bounds => .queryBounds
  | .snapshot _ _ _ => .querySnapshot
  | .placement _ _ _ => .queryPlacement
  | .rejection _ _ => .queryRejection
  | .strandedCapacity _ _ _ _ _ _ => .queryStrandedCapacity
  | .fragmentation _ _ _ => .queryFragmentation
  | .compatibility _ _ => .queryCompatibility
  | .portability _ _ _ => .queryPortability
  | .migration _ => .queryMigration
  | .mismatch _ _ _ _ _ _ => .queryMismatch
  | .drift _ _ _ _ _ => .queryDrift

/-- What is sent. A drift query always carries an intended state: where it announces none,
    `unannounced` is what the caller left in its place. -/
def encode (unannounced : IntendedFederationState) : Query → Writer
  | .health => []
  | .bounds => []
  | .snapshot federation maxRecords includeHistory =>
    Put.seq [encId federation, Encoder.u64 maxRecords, Encoder.boolean includeHistory]
  | .placement id workload latestByWorkload =>
    Put.seq [encId id, encId workload, Encoder.boolean latestByWorkload]
  | .rejection id candidate => Put.seq [encId id, encId candidate]
  | .strandedCapacity federation workloadClass kind cluster acceleratorClass includeStale =>
    Put.seq
      [encId federation, encId workloadClass, encEnum kind, encId cluster, encId acceleratorClass,
       Encoder.boolean includeStale]
  | .fragmentation federation workloadClass kind =>
    Put.seq [encId federation, encId workloadClass, encEnum kind]
  | .compatibility cluster workload => Put.seq [encId cluster, encId workload]
  | .portability workload destination evaluate =>
    Put.seq [encId workload, encId destination, Encoder.boolean evaluate]
  | .migration id => encId id
  | .mismatch federation key custom window kind includeStale =>
    Put.seq
      [encId federation, Encoder.u16 key, encId custom, Encoder.i64 window.start,
       Encoder.i64 window.stop, encEnum kind, Encoder.boolean includeStale]
  | .drift federation intended behaviorWindowSupplied beforeWindow afterWindow =>
    Put.seq
      [encId federation, Encoder.boolean intended.isSome,
       encodeIntendedState (intended.getD unannounced), Encoder.boolean behaviorWindowSupplied,
       Encoder.i64 beforeWindow.start, Encoder.i64 beforeWindow.stop, Encoder.i64 afterWindow.start,
       Encoder.i64 afterWindow.stop]

end Query

/-! ## Replies -/

/-- `Decoder::text_block`. -/
def decTextBlock : Reader Text := do
  let length ← Decoder.u32
  Get.failIf (decide (maxFrameBytes < length.toNat))
    ⟨.oversizedPayload, .ofString "encoded text block exceeds the frame bound", []⟩
  Decoder.raw length.toNat

/-- The error codes in the order of their declaration. -/
def ErrorCode.declared : List ErrorCode :=
  [.ok, .invalidArgument, .notFound, .alreadyExists, .conflict, .boundExceeded,
   .capacityInconsistent, .staleGeneration, .staleEpoch, .staleBoot, .fencedPublisher,
   .sequenceRegression, .sequenceGap, .protocolViolation, .connectionClosed, .oversizedPayload,
   .integrityFailure, .unsupportedVersion, .unsupportedOperation, .invalidTransition,
   .corruptState, .notReady, .backpressure, .shuttingDown, .internal]

/-- The dispositions in the order of their declaration. -/
def IngestDisposition.declared : List IngestDisposition :=
  [.applied, .duplicate, .superseded, .deferred]

/-- A byte that stands for one of some declared values. -/
def decDeclared {α : Type} (declared : List α) (message : String) : Reader α := do
  let value ← Decoder.u8
  match declared[value.toNat]? with
  | some a => pure a
  | none => Get.fail ⟨.protocolViolation, .ofString message, []⟩

def decodeHelloReply : Reader HelloReply := do
  let protocol ← Decoder.u16
  let serverVersion ← Decoder.str
  let epoch ← decGen .coordinatorEpoch
  let coordinatorId ← Decoder.str
  pure { protocol, serverVersion, epoch, coordinatorId }

def decodePublicationAck : Reader IngestResult := do
  let disposition ←
    decDeclared IngestDisposition.declared "reply carries an invalid ingest disposition"
  let code ← decDeclared ErrorCode.declared "reply carries an invalid error code"
  let detail ← Decoder.str
  let watermark ← decSequence
  let sequenceGap ← Decoder.u64
  pure { disposition, code, detail, watermark, sequenceGap }

def decodeField : Reader WireField := do
  let name ← Decoder.str
  let value ← Decoder.str
  pure { name, value }

def decodeRow : Reader (List WireField) :=
  decCounted 64 "reply row carries too many fields" (pushBack decodeField) []

def decodeReply : Reader ReplyPayload := do
  let code ← decDeclared ErrorCode.declared "reply carries an invalid error code"
  let message ← Decoder.str
  let detail ← decTextBlock
  let digest ← Decoder.str
  let text ← decTextBlock
  let rows ← decCounted 65536 "reply carries too many rows" (pushBack decodeRow) []
  pure { code, message, detail, digest, text, rows }

end FederationObservatory
