import FederationObservatory.Observatory.Operations
import FederationObservatory.Protocol.Frame
import FederationObservatory.RecordsCodec.Decode

/-!
# Messages

The payload codecs of `protocol.cpp`: the requests a coordinator decodes and the replies it encodes.
A decoder stops where its message ends; whether anything is left over is for its caller to ask.
-/

namespace FederationObservatory

open ByteCodec Sorting

/-! ## Fields -/

/-- An identifier that may be empty. -/
def decOptionalId (tag : IdTag) (message : String) : Reader (StrongId tag) := do
  let text ← Decoder.str
  Get.failIf (!text.isEmpty && !isValidIdentifier text)
    ⟨.protocolViolation, .ofString message, []⟩
  pure ⟨text⟩

/-- An identifier that may not be empty. -/
def decRequiredId (tag : IdTag) (message : String) : Reader (StrongId tag) := do
  let text ← Decoder.str
  Get.failIf (text.isEmpty || !isValidIdentifier text) ⟨.protocolViolation, .ofString message, []⟩
  pure ⟨text⟩

/-- An enumerator, with a message of its own for a value out of range. -/
def decEnumerator (E : Type) [WireEnum E] (message : String) : Reader E := do
  let value ← Decoder.u8
  match (WireEnum.enumerators : List E)[value.toNat]? with
  | some e => pure e
  | none => Get.fail ⟨.protocolViolation, .ofString message, []⟩

/-- `decode_publication_context`. -/
def decodePublicationContext : Reader PublicationContext := do
  let publisher ← decOptionalId .publisher "publication context carries a malformed publisher"
  let boot ← decGen .boot
  let coordinatorEpoch ← decGen .coordinatorEpoch
  let federation ← decOptionalId .federation "publication context carries a malformed federation"
  let federationGeneration ← decGen .federation
  let sequence ← decSequence
  let observedAt ← Decoder.i64
  let precision ← decEnumerator Precision "publication context carries an invalid precision"
  let evidenceClass ←
    decEnumerator EvidenceClass "publication context carries an invalid evidence class"
  let provenance ← decEnumerator Provenance "publication context carries an invalid provenance"
  let evidenceGeneration ← decGen .evidence
  let context : PublicationContext :=
    { publisher, boot, coordinatorEpoch, federation, federationGeneration, sequence, observedAt,
      precision, evidenceClass, provenance, evidenceGeneration }
  Get.ofExcept (context.validate.mapError fun e =>
    ⟨.protocolViolation, .ofString "publication context is not valid", e.message⟩)
  pure context

/-! ## Requests -/

/-- `HelloRequest`. -/
structure HelloRequest where
  protocol : UInt16 := protocolVersion
  clientVersion : Text := []
  publisher : PublisherId := {}
  deriving DecidableEq, Repr

/-- `kMaxBannerLength`. -/
def maxBannerLength : Nat := 128

def decodeHello : Reader HelloRequest := do
  let protocol ← Decoder.u16
  let clientVersion ← Decoder.str
  Get.failIf (decide (maxBannerLength < clientVersion.length))
    ⟨.boundExceeded, .ofString "client version banner is too long", []⟩
  let publisher ← decOptionalId .publisher "HELLO carries a malformed publisher identifier"
  Get.failIf (protocol != protocolVersion)
    ⟨.unsupportedVersion, .ofString "unsupported protocol version", .ofNat protocol.toNat⟩
  pure { protocol, clientVersion, publisher }

/-- `RegisterPublisherRequest`. -/
structure RegisterPublisherRequest where
  context : PublicationContext := {}
  role : Text := []
  deriving DecidableEq, Repr

def decodeRegisterPublisher : Reader RegisterPublisherRequest := do
  let context ← decodePublicationContext
  let role ← Decoder.str
  pure { context, role }

/-- `FenceRequest`. -/
structure FenceRequest where
  publisher : PublisherId := {}
  boot : BootGeneration := {}
  reason : Text := []
  token : Text := []
  deriving DecidableEq, Repr

def decodeFence : Reader FenceRequest := do
  let publisher ← decOptionalId .publisher "FENCE carries a malformed publisher identifier"
  let boot ← decGen .boot
  let reason ← Decoder.str
  let token ← Decoder.str
  pure { publisher, boot, reason, token }

/-- What a publication of any kind is decoded to. -/
structure PublicationRequest where
  context : PublicationContext
  publication : Publication

/-- The decoders of the record publications: the context and then the record. -/
def decodePublicationOf {α : Type} (decode : Reader α) (publish : α → Publication) :
    Reader PublicationRequest := do
  let context ← decodePublicationContext
  let record ← decode
  pure { context, publication := publish record }

def decodeRetireCluster : Reader PublicationRequest := do
  let context ← decodePublicationContext
  let cluster ← decRequiredId .cluster "RETIRE_CLUSTER carries a malformed cluster id"
  let generation ← decGen .cluster
  let reason ← Decoder.str
  pure { context, publication := .retireCluster cluster generation reason }

def decodeMigrationStage : Reader PublicationRequest := do
  let context ← decodePublicationContext
  let migration ← decRequiredId .migration "migration stage carries a malformed migration id"
  let generation ← decGen .migration
  let stage ← decEnumerator MigrationStage "migration stage event carries an invalid stage"
  let detail ← Decoder.str
  pure { context, publication := .publishMigrationStage migration generation stage detail }

def decodeCapabilityPublication : Reader PublicationRequest := do
  let context ← decodePublicationContext
  let cluster ← decRequiredId .cluster "capability publication carries a malformed cluster"
  let clusterGeneration ← decGen .cluster
  let capabilityGeneration ← decGen .acceleratorCapability
  let capabilities ← decodeCapabilitySet maxCapabilityEntriesPerPublication
  pure
    { context
      publication :=
        .publishCapability cluster clusterGeneration capabilityGeneration capabilities }

def decodeCapacityPublication : Reader PublicationRequest := do
  let context ← decodePublicationContext
  let cluster ← decRequiredId .cluster "capacity publication carries a malformed cluster"
  let clusterGeneration ← decGen .cluster
  let capacityGeneration ← decGen .capacity
  let pools ← decCounted maxPoolsPerCluster "capacity publication declares too many pools"
    (pushBack decodeCapacityPool) []
  pure { context, publication := .publishCapacity cluster clusterGeneration capacityGeneration pools }

/-! ## Queries -/

/-- `TimeWindow`. -/
structure TimeWindow where
  start : TimestampNanos := 0
  stop : TimestampNanos := 0
  deriving DecidableEq, Repr

/-- `TimeWindow::contains`. A bound that is zero is none. -/
def TimeWindow.contains (window : TimeWindow) (t : TimestampNanos) : Bool :=
  (window.start = 0 || decide (window.start ≤ t)) && (window.stop = 0 || decide (t < window.stop))

/-- `IntendedFederationState::ExpectedCapability`. -/
structure ExpectedCapability where
  cluster : ClusterId := {}
  key : CapabilityRef := {}
  value : CapabilityValue := .unknown
  comparator : CapabilityComparator := .present
  deriving DecidableEq

/-- `IntendedFederationState`, without the evidence, which is not sent. -/
structure IntendedFederationState where
  federation : FederationId := {}
  generation : FederationGeneration := {}
  expectedSites : List SiteId := []
  expectedClusters : List ClusterId := []
  expectedCapabilities : List ExpectedCapability := []
  expectedRuntimeVersions : List (ClusterId × Text) := []
  expectedCapacity : List (ClusterId × CapacityLedger) := []
  expectedPolicyGeneration : PolicyGeneration := {}
  precision : Precision := .unknown
  evidenceClass : EvidenceClass := .unknown
  deriving DecidableEq

/-- `IntendedFederationState::validate`. -/
def IntendedFederationState.validate (state : IntendedFederationState) : Status := do
  failIf state.federation.empty .invalidArgument "intended federation state has no federation"
  failIf (!state.generation.isSet) .invalidArgument "intended federation state has no generation"
    state.federation.value
  failIf (hasDuplicates state.expectedSites) .invalidArgument "intended state repeats a site"
    state.federation.value
  failIf (hasDuplicates state.expectedClusters) .invalidArgument
    "intended state repeats a cluster" state.federation.value
  state.expectedCapabilities.forM fun expected => do
    failIf expected.cluster.empty .invalidArgument "intended capability has no cluster"
      state.federation.value
    failIf (!expected.key.valid) .invalidArgument "intended capability key is not valid"
      expected.key.toText
  state.expectedRuntimeVersions.forM fun (cluster, version) => do
    failIf cluster.empty .invalidArgument "intended runtime version has no cluster"
      state.federation.value
    failIf version.isEmpty .invalidArgument "intended runtime version is empty" cluster.value
  state.expectedCapacity.forM fun (cluster, ledger) => do
    failIf cluster.empty .invalidArgument "intended capacity has no cluster" state.federation.value
    ledger.validate.mapError fun e =>
      ⟨.capacityInconsistent,
        .ofString "intended capacity ledger does not satisfy the accounting identity",
        cluster.value ++ .ofString ": " ++ e.message⟩
  failIf (decide (65536 < state.expectedClusters.length ∨ 65536 < state.expectedSites.length ∨
      65536 < state.expectedCapabilities.length)) .boundExceeded
    "intended federation state exceeds a configured bound" state.federation.value

/-- The queries, with what each one carries. The capability key of a mismatch query is any value up
    to the last enumerator. -/
inductive Query where
  | health
  | bounds
  | snapshot (federation : FederationId) (maxRecords : UInt64) (includeHistory : Bool)
  | placement (placement : PlacementId) (workload : WorkloadId) (latestByWorkload : Bool)
  | rejection (placement : PlacementId) (candidate : ClusterId)
  | strandedCapacity (federation : FederationId) (workloadClass : WorkloadClassId)
      (kind : ResourceKind) (cluster : ClusterId) (acceleratorClass : AcceleratorClassId)
      (includeStale : Bool)
  | fragmentation (federation : FederationId) (workloadClass : WorkloadClassId)
      (kind : ResourceKind)
  | compatibility (cluster : ClusterId) (workload : WorkloadId)
  | portability (workload : WorkloadId) (destination : ClusterId) (evaluate : Bool)
  | migration (migration : MigrationId)
  | mismatch (federation : FederationId) (key : UInt16) (custom : CapabilityKeyId)
      (window : TimeWindow) (kind : ResourceKind) (includeStale : Bool)
  | drift (federation : FederationId) (intended : Option IntendedFederationState)
      (behaviorWindowSupplied : Bool) (beforeWindow afterWindow : TimeWindow)
  deriving DecidableEq

def decodeSnapshotQuery : Reader Query := do
  let federation ← decOptionalId .federation "snapshot query carries a malformed federation"
  let maxRecords ← Decoder.u64
  let includeHistory ← Decoder.boolean
  pure (.snapshot federation maxRecords includeHistory)

def decodePlacementQuery : Reader Query := do
  let placement ← decOptionalId .placement "placement query carries a malformed placement id"
  let workload ← decOptionalId .workload "placement query carries a malformed workload id"
  let latestByWorkload ← Decoder.boolean
  pure (.placement placement workload latestByWorkload)

def decodeRejectionQuery : Reader Query := do
  let placement ← decRequiredId .placement "rejection query carries a malformed placement id"
  let candidate ← decRequiredId .cluster "rejection query carries a malformed cluster id"
  pure (.rejection placement candidate)

def decodeStrandedQuery : Reader Query := do
  let federation ← decOptionalId .federation "stranded query carries a malformed federation"
  let workloadClass ←
    decOptionalId .workloadClass "stranded query carries a malformed workload class"
  let kind ← decEnumerator ResourceKind "stranded query carries an invalid resource kind"
  let cluster ← decOptionalId .cluster "stranded query carries a malformed cluster"
  let acceleratorClass ←
    decOptionalId .acceleratorClass "stranded query carries a malformed accelerator class"
  let includeStale ← Decoder.boolean
  pure (.strandedCapacity federation workloadClass kind cluster acceleratorClass includeStale)

def decodeFragmentationQuery : Reader Query := do
  let federation ← decOptionalId .federation "fragmentation query carries a malformed federation"
  let workloadClass ←
    decRequiredId .workloadClass "fragmentation query carries a malformed workload class"
  let kind ← decEnumerator ResourceKind "fragmentation query carries an invalid resource kind"
  pure (.fragmentation federation workloadClass kind)

def decodeCompatibilityQuery : Reader Query := do
  let cluster ← decRequiredId .cluster "compatibility query carries a malformed cluster"
  let workload ← decRequiredId .workload "compatibility query carries a malformed workload"
  pure (.compatibility cluster workload)

def decodePortabilityQuery : Reader Query := do
  let workload ← decRequiredId .workload "portability query carries a malformed workload"
  let destination ← decRequiredId .cluster "portability query carries a malformed destination"
  let evaluate ← Decoder.boolean
  pure (.portability workload destination evaluate)

def decodeMigrationQuery : Reader Query := do
  let migration ← decRequiredId .migration "migration query carries a malformed migration id"
  pure (.migration migration)

def decodeMismatchQuery : Reader Query := do
  let federation ← decOptionalId .federation "mismatch query carries a malformed federation"
  let key ← Decoder.u16
  let custom ← Decoder.str
  Get.failIf (decide (CapabilityKey.custom.code < key))
    ⟨.protocolViolation, .ofString "mismatch query carries an invalid capability key", []⟩
  Get.failIf (!custom.isEmpty && !isValidIdentifier custom)
    ⟨.protocolViolation, .ofString "mismatch query carries a malformed custom capability key", []⟩
  let start ← Decoder.i64
  let stop ← Decoder.i64
  Get.failIf (start != 0 && stop != 0 && decide (stop < start))
    ⟨.protocolViolation, .ofString "mismatch query window is inverted", []⟩
  let kind ← decEnumerator ResourceKind "mismatch query carries an invalid resource kind"
  let includeStale ← Decoder.boolean
  pure (.mismatch federation key ⟨custom⟩ { start, stop } kind includeStale)

/-- One of the counted loops of `decode_drift_query`. -/
def decExpectations {α : Type} (limit : Nat) (tooMany : String) (decode : Reader α) :
    Reader (List α) :=
  decCounted limit tooMany (pushBack decode) []

def decExpectedCluster : Reader ClusterId :=
  decRequiredId .cluster "drift query carries a malformed cluster id"

def decExpectedCapability : Reader ExpectedCapability := do
  let cluster ← decExpectedCluster
  let key ← decodeCapabilityRef
  let value ← decodeCapabilityValue
  let comparator ←
    decEnumerator CapabilityComparator "drift query carries an invalid capability comparator"
  pure { cluster, key, value, comparator }

/-- The intended state of a drift query. -/
def decodeIntendedState : Reader IntendedFederationState := do
  let federation ←
    decOptionalId .federation "drift query carries a malformed intended federation"
  let generation ← decGen .federation
  let expectedSites ← decExpectations 65536 "drift query declares too many site ids"
    (decRequiredId .site "drift query carries a malformed site id")
  let expectedClusters ← decExpectations 65536 "drift query declares too many cluster ids"
    decExpectedCluster
  let expectedCapabilities ←
    decExpectations 4096 "drift query declares too many expected capabilities"
      decExpectedCapability
  let expectedRuntimeVersions ←
    decExpectations 65536 "drift query declares too many runtime expectations" do
      let cluster ← decExpectedCluster
      let version ← Decoder.str
      pure (cluster, version)
  let expectedCapacity ←
    decExpectations 65536 "drift query declares too many capacity expectations" do
      let cluster ← decExpectedCluster
      let ledger ← decodeLedger
      pure (cluster, ledger)
  let expectedPolicyGeneration ← decGen .policy
  let precision ← decEnumerator Precision "drift query carries an invalid precision"
  let evidenceClass ← decEnumerator EvidenceClass "drift query carries an invalid evidence class"
  pure
    { federation, generation, expectedSites, expectedClusters, expectedCapabilities,
      expectedRuntimeVersions, expectedCapacity, expectedPolicyGeneration, precision,
      evidenceClass }

/-- `decode_drift_query`. The intended state is always sent, and dropped unless it is announced. -/
def decodeDriftQuery : Reader Query := do
  let federation ← decOptionalId .federation "drift query carries a malformed federation"
  let haveIntended ← Decoder.boolean
  let intended ← decodeIntendedState
  let behaviorWindowSupplied ← Decoder.boolean
  let beforeStart ← Decoder.i64
  let beforeStop ← Decoder.i64
  let afterStart ← Decoder.i64
  let afterStop ← Decoder.i64
  Get.ofExcept (if haveIntended then
      intended.validate.mapError fun e =>
        ⟨.protocolViolation, .ofString "drift query intended state is not valid", e.message⟩
    else pure ())
  pure (.drift federation (if haveIntended then some intended else none) behaviorWindowSupplied
    ⟨beforeStart, beforeStop⟩ ⟨afterStart, afterStop⟩)

/-! ## Replies -/

/-- `HelloReply`. -/
structure HelloReply where
  protocol : UInt16 := protocolVersion
  serverVersion : Text := []
  epoch : CoordinatorEpoch := {}
  coordinatorId : Text := []
  deriving DecidableEq, Repr

def encodeHelloReply (value : HelloReply) : Writer :=
  Put.seq
    [Encoder.u16 value.protocol, Encoder.str value.serverVersion, encGen value.epoch,
     Encoder.str value.coordinatorId]

/-- `Encoder::text_block`. -/
def encTextBlock (v : Text) : Writer :=
  if maxFrameBytes < v.length then
    [.failure ⟨.oversizedPayload, .ofString "encoded text block exceeds the frame bound", []⟩]
  else [.guarded (leBytes 4 v.length ++ v)]

/-- The value of an error code on the wire: the order of the declaration. -/
def ErrorCode.code : ErrorCode → UInt8
  | .ok => 0
  | .invalidArgument => 1
  | .notFound => 2
  | .alreadyExists => 3
  | .conflict => 4
  | .boundExceeded => 5
  | .capacityInconsistent => 6
  | .staleGeneration => 7
  | .staleEpoch => 8
  | .staleBoot => 9
  | .fencedPublisher => 10
  | .sequenceRegression => 11
  | .sequenceGap => 12
  | .protocolViolation => 13
  | .connectionClosed => 14
  | .oversizedPayload => 15
  | .integrityFailure => 16
  | .unsupportedVersion => 17
  | .unsupportedOperation => 18
  | .invalidTransition => 19
  | .corruptState => 20
  | .notReady => 21
  | .backpressure => 22
  | .shuttingDown => 23
  | .internal => 24

def IngestDisposition.code : IngestDisposition → UInt8
  | .applied => 0
  | .duplicate => 1
  | .superseded => 2
  | .deferred => 3

/-- `encode` of a `PublicationAck`, which has the fields of an `IngestResult`. -/
def encodePublicationAck (value : IngestResult) : Writer :=
  Put.seq
    [Encoder.u8 value.disposition.code, Encoder.u8 value.code.code, Encoder.str value.detail,
     encSequence value.watermark, Encoder.u64 value.sequenceGap]

/-- `WireField`. -/
structure WireField where
  name : Text
  value : Text
  deriving DecidableEq, Repr

/-- `ReplyPayload`; a row is a list of fields. -/
structure ReplyPayload where
  code : ErrorCode := .ok
  message : Text := []
  detail : Text := []
  digest : Text := []
  text : Text := []
  rows : List (List WireField) := []
  deriving DecidableEq, Repr

def encodeField (field : WireField) : Writer :=
  Put.seq [Encoder.str field.name, Encoder.str field.value]

def encodeReply (value : ReplyPayload) : Writer :=
  Put.seq
    [Encoder.u8 value.code.code, Encoder.str value.message, encTextBlock value.detail,
     Encoder.str value.digest, encTextBlock value.text,
     encCounted (encCounted encodeField) value.rows]

end FederationObservatory
