import FederationObservatory.Protocol.Messages

/-!
# Dispatch

`Impl::dispatch` (`coordinator.cpp`), the one place where a frame becomes an operation on the
observatory, and the two paths that lead to it: the loop of a connection, which hands over every
frame that `decode_frame` accepts, and `handle_frame`, which first asks for the `Request` flag.

What a query answers is the business of the observatory; it is a parameter here.
-/

namespace FederationObservatory

open ByteCodec

namespace MessageType

/-- `to_string`. -/
def toText : MessageType → Text
  | invalid => .ofString "INVALID"
  | hello => .ofString "HELLO"
  | helloAck => .ofString "HELLO_ACK"
  | heartbeat => .ofString "HEARTBEAT"
  | heartbeatAck => .ofString "HEARTBEAT_ACK"
  | registerPublisher => .ofString "REGISTER_PUBLISHER"
  | registerFederation => .ofString "REGISTER_FEDERATION"
  | registerSite => .ofString "REGISTER_SITE"
  | registerCluster => .ofString "REGISTER_CLUSTER"
  | registerAcceleratorClass => .ofString "REGISTER_ACCELERATOR_CLASS"
  | registerRuntime => .ofString "REGISTER_RUNTIME"
  | registerBackend => .ofString "REGISTER_BACKEND"
  | registerDomain => .ofString "REGISTER_DOMAIN"
  | registerPolicy => .ofString "REGISTER_POLICY"
  | registerArtifact => .ofString "REGISTER_ARTIFACT"
  | registerWorkloadClass => .ofString "REGISTER_WORKLOAD_CLASS"
  | registerWorkload => .ofString "REGISTER_WORKLOAD"
  | publishCapability => .ofString "PUBLISH_CAPABILITY"
  | publishCapacity => .ofString "PUBLISH_CAPACITY"
  | publishPlacement => .ofString "PUBLISH_PLACEMENT"
  | publishMigration => .ofString "PUBLISH_MIGRATION"
  | publishMigrationStage => .ofString "PUBLISH_MIGRATION_STAGE"
  | publishPortability => .ofString "PUBLISH_PORTABILITY"
  | retireCluster => .ofString "RETIRE_CLUSTER"
  | fencePublisher => .ofString "FENCE_PUBLISHER"
  | querySnapshot => .ofString "QUERY_SNAPSHOT"
  | queryPlacement => .ofString "QUERY_PLACEMENT"
  | queryRejection => .ofString "QUERY_REJECTION"
  | queryStrandedCapacity => .ofString "QUERY_STRANDED_CAPACITY"
  | queryFragmentation => .ofString "QUERY_FRAGMENTATION"
  | queryCompatibility => .ofString "QUERY_COMPATIBILITY"
  | queryPortability => .ofString "QUERY_PORTABILITY"
  | queryMigration => .ofString "QUERY_MIGRATION"
  | queryMismatch => .ofString "QUERY_MISMATCH"
  | queryDrift => .ofString "QUERY_DRIFT"
  | queryHealth => .ofString "QUERY_HEALTH"
  | queryBounds => .ofString "QUERY_BOUNDS"
  | reply => .ofString "REPLY"
  | failure => .ofString "FAILURE"
  | shutdown => .ofString "SHUTDOWN"

/-- The switch over the registrations (but that of a publisher) and publications: what each one is
    decoded with. `is_registration` and `is_publication` hold of these types. -/
def publicationDecoder : MessageType → Option (Reader PublicationRequest)
  | registerFederation => some (decodePublicationOf decodeFederation .registerFederation)
  | registerSite => some (decodePublicationOf decodeSite .registerSite)
  | registerCluster => some (decodePublicationOf decodeCluster .registerCluster)
  | registerAcceleratorClass =>
    some (decodePublicationOf decodeAcceleratorClass .registerAcceleratorClass)
  | registerRuntime => some (decodePublicationOf decodeRuntime .registerRuntime)
  | registerBackend => some (decodePublicationOf decodeBackend .registerBackend)
  | registerDomain => some (decodePublicationOf decodeDomain .registerDomain)
  | registerPolicy => some (decodePublicationOf decodePolicy .registerPolicy)
  | registerArtifact => some (decodePublicationOf decodeArtifact .registerArtifact)
  | registerWorkloadClass => some (decodePublicationOf decodeWorkloadClass .registerWorkloadClass)
  | registerWorkload => some (decodePublicationOf decodeWorkload .registerWorkload)
  | publishPlacement => some (decodePublicationOf decodePlacement .publishPlacement)
  | publishMigration => some (decodePublicationOf decodeMigration .publishMigration)
  | publishPortability => some (decodePublicationOf decodePortability .publishPortability)
  | publishCapability => some decodeCapabilityPublication
  | publishCapacity => some decodeCapacityPublication
  | publishMigrationStage => some decodeMigrationStage
  | retireCluster => some decodeRetireCluster
  | _ => none

/-- The switch over the queries, the types for which `is_query` holds. Two of them carry nothing. -/
def queryDecoder : MessageType → Option (Reader Query)
  | queryHealth => some (pure .health)
  | queryBounds => some (pure .bounds)
  | querySnapshot => some decodeSnapshotQuery
  | queryPlacement => some decodePlacementQuery
  | queryRejection => some decodeRejectionQuery
  | queryStrandedCapacity => some decodeStrandedQuery
  | queryFragmentation => some decodeFragmentationQuery
  | queryCompatibility => some decodeCompatibilityQuery
  | queryPortability => some decodePortabilityQuery
  | queryMigration => some decodeMigrationQuery
  | queryMismatch => some decodeMismatchQuery
  | queryDrift => some decodeDriftQuery
  | _ => none

end MessageType

/-! ## Replies -/

/-- `frame_flag(FrameFlags::Reply)`. -/
def replyFlag : UInt8 := 2

/-- `Encoder::take`: what was written, whether or not it failed. -/
def taken (p : Writer) : Bytes := (p.encode {}).buffer

/-- `make_reply`. -/
def makeReply (request : Frame) (payload : ReplyPayload) : Frame :=
  match (encodeReply payload).image with
  | .ok bytes =>
    { type := if payload.code = .ok then MessageType.reply.code else MessageType.failure.code
      flags := replyFlag
      requestId := request.requestId
      payload := bytes }
  | .error _ =>
    { type := MessageType.failure.code
      flags := replyFlag
      requestId := request.requestId
      payload := taken (encodeReply
        { code := .internal, message := .ofString "the coordinator could not encode its reply" }) }

/-- `make_error_reply`. -/
def makeErrorReply (request : Frame) (e : Error) : Frame :=
  makeReply request { code := e.code, message := e.message, detail := e.detail }

/-- `make_publication_reply`. -/
def makePublicationReply (request : Frame) (result : Result IngestResult) : Frame :=
  match result with
  | .error e => makeErrorReply request e
  | .ok ack =>
    { type := MessageType.reply.code
      flags := replyFlag
      requestId := request.requestId
      payload := taken (encodePublicationAck ack) }

/-! ## The coordinator -/

/-- `CoordinatorConfig`, as far as `validate` and `dispatch` read it. -/
structure CoordinatorConfig where
  bindHost : Text := .ofString "127.0.0.1"
  bounds : Bounds := {}
  workerThreads : Nat := 1
  acceptThreads : Nat := 1
  pollMillis : Int := 50
  allowFence : Bool := true
  adminToken : Text := []
  maxConnections : Nat := 256

/-- `CoordinatorConfig::validate`. -/
def CoordinatorConfig.validate (config : CoordinatorConfig) : Status := do
  failIf config.bindHost.isEmpty .invalidArgument "coordinator bind host is empty"
  config.bounds.validate
  failIf (config.workerThreads == 0 || decide (64 < config.workerThreads)) .invalidArgument
    "worker thread count must be between 1 and 64"
  failIf (config.acceptThreads == 0 || decide (8 < config.acceptThreads)) .invalidArgument
    "accept thread count must be between 1 and 8"
  failIf (decide (config.pollMillis < 1) || decide (5000 < config.pollMillis)) .invalidArgument
    "poll quantum must be between 1 and 5000 milliseconds"
  failIf (config.maxConnections == 0 || decide (config.bounds.maxConnections < config.maxConnections))
    .invalidArgument "max_connections must be between 1 and the configured connection bound"

/-- `FederationCoordinator::Impl`, as far as `dispatch` reads and writes it. The version is the one
    the build was configured with. -/
structure Coordinator where
  config : CoordinatorConfig
  observatory : Impl
  coordinatorId : Text := []
  serverVersion : Text := []
  shutdownRequested : Bool := false

/-- The observatory's answers to queries. They do not change it. -/
abbrev Answers := CoordinatorConfig → Impl → Query → Result ReplyPayload

namespace Coordinator

variable (answers : Answers) (c : Coordinator) (clock : Clock) (frame : Frame)

/-- Run a decoder over the payload of a frame. -/
def decode {α : Type} (reader : Reader α) : Result (α × Cursor) :=
  reader (Decoder.start frame.payload c.config.bounds.maxFrameBytes)

/-- A refusal: nothing happens but that it is reported. -/
def refuse (e : Error) : Frame × Coordinator := (makeErrorReply frame e, c)

def serveHello : Frame × Coordinator :=
  match c.decode frame decodeHello with
  | .error e => c.refuse frame e
  | .ok (_, cursor) =>
    if cursor.rest ≠ [] then
      c.refuse frame ⟨.protocolViolation, .ofString "HELLO carries trailing bytes", []⟩
    else
      ({ type := MessageType.helloAck.code
         flags := replyFlag
         requestId := frame.requestId
         payload := taken (encodeHelloReply
           { serverVersion := c.serverVersion
             epoch := c.observatory.coordinatorEpoch
             coordinatorId := c.coordinatorId }) }, c)

def serveHeartbeat : Frame × Coordinator :=
  ({ type := MessageType.heartbeatAck.code, flags := replyFlag, requestId := frame.requestId }, c)

/-- A request to the observatory that was decoded. -/
def submit (ctx : PublicationContext) (request : Request) : Frame × Coordinator :=
  let outcome := request.run c.observatory clock ctx
  (makePublicationReply frame outcome.result, { c with observatory := outcome.state })

def serveRegisterPublisher : Frame × Coordinator :=
  match c.decode frame decodeRegisterPublisher with
  | .error e => c.refuse frame e
  | .ok (request, _) => c.submit clock frame request.context .registerPublisher

def serveFencePublisher : Frame × Coordinator :=
  if !c.config.allowFence then
    c.refuse frame
      ⟨.unsupportedOperation, .ofString "this coordinator does not accept remote fences", []⟩
  else
    match c.decode frame decodeFence with
    | .error e => c.refuse frame e
    | .ok (request, _) =>
      if !c.config.adminToken.isEmpty && request.token != c.config.adminToken then
        c.refuse frame
          ⟨.unsupportedOperation, .ofString "administrative token does not match", []⟩
      else
        let (fenced, observatory) :=
          fencePublisher c.observatory request.publisher request.boot request.reason
        match fenced with
        | .error e => ({ c with observatory }).refuse frame e
        | .ok () =>
          (makeReply frame
            { message := .ofString "publisher boot identity fenced"
              text := .ofString "fenced publisher " ++ request.publisher.value ++
                .ofString " boot " ++ request.boot.toText },
            { c with observatory })

def servePublication (reader : Reader PublicationRequest) : Frame × Coordinator :=
  match c.decode frame reader with
  | .error e => c.refuse frame e
  | .ok (request, _) => c.submit clock frame request.context (.publish request.publication)

/-- The reply to a query has the code `Ok`. -/
def serveQuery (reader : Reader Query) : Frame × Coordinator :=
  match c.decode frame reader with
  | .error e => c.refuse frame e
  | .ok (query, _) =>
    match answers c.config c.observatory query with
    | .error e => c.refuse frame e
    | .ok payload => (makeReply frame { payload with code := .ok }, c)

def serveShutdown : Frame × Coordinator :=
  (makeReply frame
    { message := .ofString "shutdown acknowledged; the coordinator will stop after this reply" },
    { c with shutdownRequested := true })

/-- A type that nothing is done about. `to_string` of a value that is not declared is `INVALID`. -/
def notAccepted (type : Option MessageType) : Error :=
  ⟨.protocolViolation, .ofString "message type is not accepted here",
    (type.getD .invalid).toText⟩

/-- `Impl::dispatch`. The two switches have a case for every type they are entered with, so that
    their errors for unsupported types are not reached. -/
def dispatch : Frame × Coordinator :=
  match MessageType.ofCode frame.type with
  | some .hello => c.serveHello frame
  | some .heartbeat => c.serveHeartbeat frame
  | some .registerPublisher => c.serveRegisterPublisher clock frame
  | some .fencePublisher => c.serveFencePublisher frame
  | some .shutdown => c.serveShutdown frame
  | type =>
    match type.bind MessageType.publicationDecoder with
    | some reader => c.servePublication clock frame reader
    | none =>
      match type.bind MessageType.queryDecoder with
      | some reader => c.serveQuery answers frame reader
      | none => c.refuse frame (notAccepted type)

end Coordinator

end FederationObservatory
