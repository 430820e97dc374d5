import FederationObservatory.Coordinator.Dispatch
import FederationObservatory.Protocol.Requests
import FederationObservatory.RecordsCodec.Transfer

/-!
# Messages through their codecs

For every request, query and reply: what its decoder asks of a message whose encoding it reads, and
what it makes of it. A record comes back as its own codec gives it back, everything else as it was
sent. The decoder consumes what was written and nothing behind it.
-/

namespace FederationObservatory

open ByteCodec Sorting

/-! ## Fields -/

/-- What a decoder accepts of an identifier that may not be empty. -/
def StrongId.Valid {tag : IdTag} (id : StrongId tag) : Prop := isValidIdentifier id.value = true
  deriving Decidable

theorem StrongId.Valid.storable {tag : IdTag} {id : StrongId tag} (h : id.Valid) : id.Storable := by
  have hvalid : isValidIdentifier id.value = true := h
  simp [StrongId.Storable, hvalid]

instance {tag : IdTag} (id : StrongId tag) (message : String) :
    Readable (encId id) (decOptionalId tag message) id.Storable id := by
  refine ⟨?_⟩
  rw [← List.append_nil (encId id)]
  exact ((Decoder.reads_str id.value).bind (Reads.failIf (Reads.pure id))).congr
    (by simp [StrongId.Storable])

instance {tag : IdTag} (id : StrongId tag) (message : String) :
    Readable (encId id) (decRequiredId tag message) id.Valid id := by
  refine ⟨?_⟩
  rw [← List.append_nil (encId id)]
  refine ((Decoder.reads_str id.value).bind (Reads.failIf (Reads.pure id))).congr ?_
  cases h : id.value with
  | nil => simp [StrongId.Valid, isValidIdentifier, h]
  | cons b bs => simp [StrongId.Valid, h]

instance {E : Type} [WireEnum E] (e : E) (message : String) :
    Readable (encEnum e) (decEnumerator E message) True e := by
  refine ⟨?_⟩
  rw [← List.append_nil (encEnum e)]
  refine ((Decoder.reads_u8 (WireEnum.code e)).bind (Q := True) ?_).congr (by simp)
  simp only [WireEnum.getElem?_code]
  exact Reads.pure e

/-- A byte that stands for one of some declared values. -/
theorem reads_declared {α : Type} {declared : List α} {code : UInt8} {a : α} (message : String)
    (h : declared[code.toNat]? = some a) :
    Reads (Encoder.u8 code) (decDeclared declared message) True a := by
  rw [← List.append_nil (Encoder.u8 code)]
  refine ((Decoder.reads_u8 code).bind (Q := True) ?_).congr (by simp)
  simp only [h]
  exact Reads.pure a

instance (code : ErrorCode) (message : String) :
    Readable (Encoder.u8 code.code) (decDeclared ErrorCode.declared message) True code := by
  refine ⟨reads_declared message ?_⟩
  cases code <;> rfl

instance (disposition : IngestDisposition) (message : String) :
    Readable (Encoder.u8 disposition.code) (decDeclared IngestDisposition.declared message) True
      disposition := by
  refine ⟨reads_declared message ?_⟩
  cases disposition <;> rfl

instance (v : Text) : Readable (encTextBlock v) decTextBlock True v := by
  refine ⟨?_⟩
  by_cases hlen : maxFrameBytes < v.length
  · intro bs hbs
    simp only [encTextBlock, if_pos hlen] at hbs
    exact absurd hbs (by simp [Put.image, Put.encode, ByteCodec.Encoder.write])
  · have hfit : v.length < 2 ^ 32 := by
      have : maxFrameBytes < 2 ^ 32 := by decide
      omega
    have hn : (UInt32.ofNat v.length).toNat = v.length := UInt32.toNat_ofNat_of_lt' hfit
    have hsplit : Reads (Encoder.u32 (UInt32.ofNat v.length) ++ [.guarded v]) decTextBlock True v := by
      refine ((Decoder.reads_u32 _).bind (Reads.failIf (b := v) (Q := True) ?_)).congr ?_
      · rw [hn]
        exact Reads.take (Put.image_guarded v)
      · rw [hn]
        simp [hlen]
    intro bs hbs
    refine hsplit bs ?_
    rw [Put.image_append_eq_ok]
    refine ⟨leBytes 4 v.length, v, ?_, Put.image_guarded v, ?_⟩
    · rw [Encoder.u32, hn]
      exact Put.image_plain _
    · simp only [encTextBlock, if_neg hlen, Put.image_guarded] at hbs
      exact (Except.ok.inj hbs).symm

/-! ## Requests -/

/-- A valid context names its publisher and its federation. -/
theorem PublicationContext.valid_ids {context : PublicationContext}
    (h : context.validate = .ok ()) : context.publisher.Valid ∧ context.federation.Valid := by
  simp only [validate, bind_eq_ok, failIf_eq_ok, exists_const, Bool.or_eq_false_iff,
    Bool.not_eq_false'] at h
  exact h.2.2.2.2.2

instance (context : PublicationContext) :
    Readable (encodePublicationContext context) decodePublicationContext
      (context.validate = .ok ()) context := by
  refine ⟨?_⟩
  unfold encodePublicationContext decodePublicationContext
  apply Reads.congr
  · repeat apply Reads.field Readable.reads
    exact Reads.ofExcept (a := ()) (fun _ _ => rfl) (Reads.pure context)
  · simp only [true_and, and_true, mapError_eq_ok]
    constructor
    · rintro ⟨-, -, hvalid⟩
      exact hvalid
    · intro hvalid
      obtain ⟨hpublisher, hfederation⟩ := PublicationContext.valid_ids hvalid
      exact ⟨hpublisher.storable, hfederation.storable, hvalid⟩

/-- What `decode_hello` accepts. -/
def HelloRequest.Storable (value : HelloRequest) : Prop :=
  value.clientVersion.length ≤ maxBannerLength ∧ value.publisher.Storable ∧
    value.protocol = protocolVersion
  deriving Decidable

instance (value : HelloRequest) :
    Readable (encodeHello value) decodeHello value.Storable value := by
  refine ⟨?_⟩
  unfold encodeHello decodeHello
  apply Reads.congr
  · iterate 2 apply Reads.field Readable.reads
    apply Reads.failIf
    apply Reads.field Readable.reads
    exact Reads.failIf (Reads.pure value)
  · simp [HelloRequest.Storable]

instance (value : RegisterPublisherRequest) :
    Readable (encodeRegisterPublisher value) decodeRegisterPublisher
      (value.context.validate = .ok ()) value := by
  refine ⟨?_⟩
  unfold encodeRegisterPublisher decodeRegisterPublisher
  apply Reads.congr
  · repeat apply Reads.field Readable.reads
    exact Reads.pure value
  · simp

instance (value : FenceRequest) :
    Readable (encodeFence value) decodeFence value.publisher.Storable value := by
  refine ⟨?_⟩
  unfold encodeFence decodeFence
  apply Reads.congr
  · repeat apply Reads.field Readable.reads
    exact Reads.pure value
  · simp

/-! ## Publications -/

namespace Publication

/-- What the decoder of a publication accepts, next to its context. -/
def Storable : Publication → Prop
  | .registerFederation record => record.Storable
  | .registerSite record => record.Storable
  | .registerCluster record => record.Storable
  | .registerAcceleratorClass record => record.Storable
  | .registerRuntime record => record.Storable
  | .registerBackend record => record.Storable
  | .registerDomain record => record.Storable
  | .registerPolicy record => record.Storable
  | .registerArtifact record => record.Storable
  | .registerWorkloadClass record => record.Storable
  | .registerWorkload record => record.Storable
  | .retireCluster cluster _ _ => cluster.Valid
  | .publishCapability cluster _ _ capabilities => cluster.Valid ∧ capabilities.Storable
  | .publishCapacity cluster _ _ pools =>
    cluster.Valid ∧ pools.length ≤ maxPoolsPerCluster ∧ ∀ pool ∈ pools, pool.Storable
  | .publishPlacement record => record.Storable
  | .publishMigration record => record.Storable
  | .publishMigrationStage migration _ _ _ => migration.Valid
  | .publishPortability record => record.Storable

/-- The publication as it is read back: a record as its codec gives it back. -/
def readBack : Publication → Publication
  | .registerFederation record => .registerFederation record.readBack
  | .registerSite record => .registerSite record.readBack
  | .registerCluster record => .registerCluster record.readBack
  | .registerAcceleratorClass record => .registerAcceleratorClass record.readBack
  | .registerRuntime record => .registerRuntime record.readBack
  | .registerBackend record => .registerBackend record.readBack
  | .registerDomain record => .registerDomain record.readBack
  | .registerPolicy record => .registerPolicy record.readBack
  | .registerArtifact record => .registerArtifact record.readBack
  | .registerWorkloadClass record => .registerWorkloadClass record.readBack
  | .registerWorkload record => .registerWorkload record.readBack
  | .publishCapability cluster clusterGeneration capabilityGeneration capabilities =>
    .publishCapability cluster clusterGeneration capabilityGeneration capabilities.readBack
  | .publishCapacity cluster clusterGeneration capacityGeneration pools =>
    .publishCapacity cluster clusterGeneration capacityGeneration (pools.map CapacityPool.readBack)
  | .publishPlacement record => .publishPlacement record.readBack
  | .publishMigration record => .publishMigration record.readBack
  | .publishPortability record => .publishPortability record.readBack
  | publication => publication

end Publication

/-- A context and a record. -/
theorem reads_publicationOf {α : Type} {p : Writer} {decode : Reader α} {P : Prop} {a : α}
    (publish : α → Publication) (context : PublicationContext) (h : Reads p decode P a) :
    Reads (encodePublicationContext context ++ p) (decodePublicationOf decode publish)
      (context.validate = .ok () ∧ P) { context, publication := publish a } := by
  have hrecord : Reads (p ++ Put.seq [])
      (do let record ← decode; pure ({ context, publication := publish record } : PublicationRequest))
      P { context, publication := publish a } :=
    (h.bind (Reads.pure ({ context, publication := publish a } : PublicationRequest))).congr
      (by simp)
  rw [Put.seq_nil, List.append_nil] at hrecord
  exact Reads.bind Readable.reads hrecord

/-- The decoder a publication is read with, on what was sent. -/
theorem reads_publication (context : PublicationContext) (publication : Publication) :
    ∃ reader, publication.type.publicationDecoder = some reader ∧
      Reads (encodePublication context publication) reader
        (context.validate = .ok () ∧ publication.Storable)
        { context, publication := publication.readBack } := by
  cases publication with
  | retireCluster cluster generation reason =>
    refine ⟨_, rfl, Reads.bind Readable.reads ?_⟩
    apply Reads.congr
    · repeat apply Reads.field Readable.reads
      exact Reads.pure _
    · simp [Publication.Storable]
  | publishCapability cluster clusterGeneration capabilityGeneration capabilities =>
    refine ⟨_, rfl, Reads.bind Readable.reads ?_⟩
    apply Reads.congr
    · repeat apply Reads.field Readable.reads
      exact Reads.pure _
    · simp [Publication.Storable]
  | publishCapacity cluster clusterGeneration capacityGeneration pools =>
    refine ⟨_, rfl, Reads.bind Readable.reads ?_⟩
    apply Reads.congr
    · iterate 3 apply Reads.field Readable.reads
      refine Reads.field (reads_counted (by decide) _ pools ?_ fun pool => Readable.reads)
        (Reads.pure _)
      exact fun pool => (inferInstance : NonemptyImage (encodeCapacityPool pool)).nonempty
    · simp [Publication.Storable]
  | publishMigrationStage migration generation stage detail =>
    refine ⟨_, rfl, Reads.bind Readable.reads ?_⟩
    apply Reads.congr
    · repeat apply Reads.field Readable.reads
      exact Reads.pure _
    · simp [Publication.Storable]
  | registerFederation record =>
    exact ⟨_, rfl, reads_publicationOf _ context (RecordKind.reads .federation record)⟩
  | registerSite record =>
    exact ⟨_, rfl, reads_publicationOf _ context (RecordKind.reads .site record)⟩
  | registerCluster record =>
    exact ⟨_, rfl, reads_publicationOf _ context (RecordKind.reads .cluster record)⟩
  | registerAcceleratorClass record =>
    exact ⟨_, rfl, reads_publicationOf _ context (RecordKind.reads .acceleratorClass record)⟩
  | registerRuntime record =>
    exact ⟨_, rfl, reads_publicationOf _ context (RecordKind.reads .runtime record)⟩
  | registerBackend record =>
    exact ⟨_, rfl, reads_publicationOf _ context (RecordKind.reads .backend record)⟩
  | registerDomain record =>
    exact ⟨_, rfl, reads_publicationOf _ context (RecordKind.reads .domain record)⟩
  | registerPolicy record =>
    exact ⟨_, rfl, reads_publicationOf _ context (RecordKind.reads .policy record)⟩
  | registerArtifact record =>
    exact ⟨_, rfl, reads_publicationOf _ context (RecordKind.reads .artifact record)⟩
  | registerWorkloadClass record =>
    exact ⟨_, rfl, reads_publicationOf _ context (RecordKind.reads .workloadClass record)⟩
  | registerWorkload record =>
    exact ⟨_, rfl, reads_publicationOf _ context (RecordKind.reads .workload record)⟩
  | publishPlacement record =>
    exact ⟨_, rfl, reads_publicationOf _ context (RecordKind.reads .placement record)⟩
  | publishMigration record =>
    exact ⟨_, rfl, reads_publicationOf _ context (RecordKind.reads .migration record)⟩
  | publishPortability record =>
    exact ⟨_, rfl, reads_publicationOf _ context (RecordKind.reads .portability record)⟩

/-! ## Queries -/

/-- What the decoder of a drift query accepts of an expected capability. -/
def ExpectedCapability.Storable (value : ExpectedCapability) : Prop :=
  value.cluster.Valid ∧ value.key.Storable ∧ value.value.Storable
  deriving Decidable

def ExpectedCapability.readBack (value : ExpectedCapability) : ExpectedCapability :=
  { value with value := value.value.readBack }

instance (value : ExpectedCapability) :
    Readable (encodeExpectedCapability value) decExpectedCapability value.Storable
      value.readBack := by
  refine ⟨?_⟩
  unfold encodeExpectedCapability decExpectedCapability decExpectedCluster
  apply Reads.congr
  · repeat apply Reads.field Readable.reads
    exact Reads.pure _
  · simp [ExpectedCapability.Storable]

instance (value : ExpectedCapability) : NonemptyImage (encodeExpectedCapability value) :=
  inferInstanceAs (NonemptyImage (Put.seq _))

namespace IntendedFederationState

/-- What the decoder of a drift query accepts of an intended state, announced or not. -/
def Storable (state : IntendedFederationState) : Prop :=
  state.federation.Storable ∧
    (state.expectedSites.length ≤ 65536 ∧ ∀ site ∈ state.expectedSites, site.Valid) ∧
    (state.expectedClusters.length ≤ 65536 ∧ ∀ cluster ∈ state.expectedClusters, cluster.Valid) ∧
    (state.expectedCapabilities.length ≤ 4096 ∧
      ∀ expected ∈ state.expectedCapabilities, expected.Storable) ∧
    (state.expectedRuntimeVersions.length ≤ 65536 ∧
      ∀ entry ∈ state.expectedRuntimeVersions, entry.1.Valid) ∧
    (state.expectedCapacity.length ≤ 65536 ∧
      ∀ entry ∈ state.expectedCapacity, entry.1.Valid ∧ entry.2.validate = .ok ())

/-- The state as it is read back: the values of its capabilities as their codec gives them back. -/
def readBack (state : IntendedFederationState) : IntendedFederationState :=
  { state with
    expectedCapabilities := state.expectedCapabilities.map ExpectedCapability.readBack }

/-- The check does not look at the values. -/
theorem validate_readBack (state : IntendedFederationState) :
    state.readBack.validate = state.validate := by
  unfold validate readBack
  simp only [List.forM_eq_forM, List.forM_map, List.length_map]
  rfl

end IntendedFederationState

theorem reads_expectedVersion (entry : ClusterId × Text) :
    Reads (Put.seq [encId entry.1, Encoder.str entry.2])
      (do
        let cluster ← decExpectedCluster
        let version ← Decoder.str
        pure (cluster, version)) entry.1.Valid entry := by
  unfold decExpectedCluster
  apply Reads.congr
  · repeat apply Reads.field Readable.reads
    exact Reads.pure entry
  · simp

theorem reads_expectedCapacity (entry : ClusterId × CapacityLedger) :
    Reads (Put.seq [encId entry.1, encodeLedger entry.2])
      (do
        let cluster ← decExpectedCluster
        let ledger ← decodeLedger
        pure (cluster, ledger)) (entry.1.Valid ∧ entry.2.validate = .ok ()) entry := by
  unfold decExpectedCluster
  apply Reads.congr
  · repeat apply Reads.field Readable.reads
    exact Reads.pure entry
  · simp

/-- One of the lists of an intended state. -/
theorem reads_expectations {α : Type} {enc : α → Writer} {dec : Reader α} {P : α → Prop}
    {g : α → α} {limit : Nat} (hlimit : limit < 2 ^ 32) (tooMany : String) (values : List α)
    [hne : ∀ x, NonemptyImage (enc x)] (hdec : ∀ x, Reads (enc x) dec (P x) (g x)) :
    Reads (encCounted enc values) (decExpectations limit tooMany dec)
      (values.length ≤ limit ∧ ∀ x ∈ values, P x) (values.map g) :=
  reads_counted hlimit tooMany values (fun x => (hne x).nonempty) hdec

instance (state : IntendedFederationState) :
    Readable (encodeIntendedState state) decodeIntendedState state.Storable state.readBack := by
  refine ⟨?_⟩
  have hlimit : 65536 < 2 ^ 32 := by decide
  have hids {tag : IdTag} (tooMany message : String) (ids : List (StrongId tag)) :
      Reads (encCounted encId ids)
        (decExpectations 65536 tooMany (decRequiredId tag message))
        (ids.length ≤ 65536 ∧ ∀ id ∈ ids, id.Valid) ids := by
    have h := reads_expectations hlimit tooMany ids
      (fun id => (Readable.reads : Reads (encId id) (decRequiredId tag message) id.Valid id))
    rwa [List.map_id'] at h
  have hcapabilities := fun tooMany =>
    reads_expectations (by decide : 4096 < 2 ^ 32) tooMany state.expectedCapabilities
      (fun value => (Readable.reads : Reads (encodeExpectedCapability value)
        decExpectedCapability value.Storable value.readBack))
  have hversions := fun tooMany =>
    reads_expectations hlimit tooMany state.expectedRuntimeVersions reads_expectedVersion
  have hcapacity := fun tooMany =>
    reads_expectations hlimit tooMany state.expectedCapacity reads_expectedCapacity
  simp only [List.map_id'] at hversions hcapacity
  unfold encodeIntendedState decodeIntendedState
  apply Reads.congr
  · iterate 2 apply Reads.field Readable.reads
    apply Reads.field (hids _ _ _)
    apply Reads.field (hids _ _ _)
    apply Reads.field (hcapabilities _)
    apply Reads.field (hversions _)
    apply Reads.field (hcapacity _)
    repeat apply Reads.field Readable.reads
    exact Reads.pure _
  · simp [IntendedFederationState.Storable]

/-- A window that is open at an end, or not inverted. -/
def TimeWindow.Ordered (window : TimeWindow) : Prop :=
  (window.start != 0 && window.stop != 0 && decide (window.stop < window.start)) = false
  deriving Decidable

namespace Query

/-- What the decoder of a query accepts. The intended state of a drift query is read whether or not
    it is announced, and checked only if it is. -/
def Storable (unannounced : IntendedFederationState) : Query → Prop
  | .health => True
  | .bounds => True
  | .snapshot federation _ _ => federation.Storable
  | .placement id workload _ => id.Storable ∧ workload.Storable
  | .rejection id candidate => id.Valid ∧ candidate.Valid
  | .strandedCapacity federation workloadClass _ cluster acceleratorClass _ =>
    federation.Storable ∧ workloadClass.Storable ∧ cluster.Storable ∧ acceleratorClass.Storable
  | .fragmentation federation workloadClass _ => federation.Storable ∧ workloadClass.Valid
  | .compatibility cluster workload => cluster.Valid ∧ workload.Valid
  | .portability workload destination _ => workload.Valid ∧ destination.Valid
  | .migration id => id.Valid
  | .mismatch federation key custom window _ _ =>
    federation.Storable ∧ key ≤ CapabilityKey.custom.code ∧ custom.Storable ∧ window.Ordered
  | .drift federation intended _ _ _ =>
    federation.Storable ∧ (intended.getD unannounced).Storable ∧
      ∀ state, intended = some state → state.validate = .ok ()

/-- The query as it is read back. -/
def readBack : Query → Query
  | .drift federation intended behaviorWindowSupplied beforeWindow afterWindow =>
    .drift federation (intended.map IntendedFederationState.readBack) behaviorWindowSupplied
      beforeWindow afterWindow
  | query => query

end Query

/-- The decoder a query is read with, on what was sent. -/
theorem reads_query (unannounced : IntendedFederationState) (query : Query) :
    ∃ reader, query.type.queryDecoder = some reader ∧
      Reads (query.encode unannounced) reader (query.Storable unannounced) query.readBack := by
  cases query with
  | health => exact ⟨_, rfl, Reads.pure _⟩
  | bounds => exact ⟨_, rfl, Reads.pure _⟩
  | migration id =>
    refine ⟨_, rfl, ?_⟩
    have h : Reads (Put.seq [encId id]) decodeMigrationQuery (id.Valid ∧ True)
        (.migration id) := Reads.field Readable.reads (Reads.pure _)
    rw [Put.seq_cons, Put.seq_nil, List.append_nil, and_true] at h
    exact h
  | mismatch federation key custom window kind includeStale =>
    refine ⟨_, rfl, ?_⟩
    unfold decodeMismatchQuery
    apply Reads.congr
    · iterate 2 apply Reads.field Readable.reads
      apply Reads.field (Decoder.reads_str custom.value)
      iterate 2 apply Reads.failIf
      iterate 2 apply Reads.field Readable.reads
      apply Reads.failIf
      repeat apply Reads.field Readable.reads
      exact Reads.pure _
    · simp [Query.Storable, TimeWindow.Ordered, StrongId.Storable]
  | drift federation intended behaviorWindowSupplied beforeWindow afterWindow =>
    refine ⟨_, rfl, ?_⟩
    unfold decodeDriftQuery
    cases intended with
    | none =>
      apply Reads.congr
      · repeat apply Reads.field Readable.reads
        exact Reads.ofExcept (a := ()) (fun _ _ => rfl) (Reads.pure (Query.drift federation none _ _ _))
      · simp [Query.Storable, pure, Except.pure]
    | some state =>
      apply Reads.congr
      · repeat apply Reads.field Readable.reads
        exact Reads.ofExcept (a := ()) (fun _ _ => rfl)
          (Reads.pure (Query.drift federation (some state.readBack) _ _ _))
      · simp [Query.Storable, mapError_eq_ok, IntendedFederationState.validate_readBack]
  | _ =>
    refine ⟨_, rfl, ?_⟩
    apply Reads.congr
    · repeat apply Reads.field Readable.reads
      exact Reads.pure _
    · simp [Query.Storable]

/-! ## Replies -/

instance (value : HelloReply) : Readable (encodeHelloReply value) decodeHelloReply True value := by
  refine ⟨?_⟩
  unfold encodeHelloReply decodeHelloReply
  apply Reads.congr
  · repeat apply Reads.field Readable.reads
    exact Reads.pure value
  · simp

instance (value : IngestResult) :
    Readable (encodePublicationAck value) decodePublicationAck True value := by
  refine ⟨?_⟩
  unfold encodePublicationAck decodePublicationAck
  apply Reads.congr
  · repeat apply Reads.field Readable.reads
    exact Reads.pure value
  · simp

instance (field : WireField) : NonemptyImage (encodeField field) :=
  inferInstanceAs (NonemptyImage (Put.seq _))

instance {α : Type} (enc : α → Writer) (values : List α) : NonemptyImage (encCounted enc values) :=
  ⟨(Encoder.nonempty_word 4 _ (by decide)).append_left _⟩

instance (field : WireField) : Readable (encodeField field) decodeField True field := by
  refine ⟨?_⟩
  unfold encodeField decodeField
  apply Reads.congr
  · repeat apply Reads.field Readable.reads
    exact Reads.pure field
  · simp

instance (row : List WireField) :
    Readable (encCounted encodeField row) decodeRow (row.length ≤ 64) row := by
  have h := reads_counted (by decide : 64 < 2 ^ 32) "reply row carries too many fields" row
    (fun field => (inferInstance : NonemptyImage (encodeField field)).nonempty)
    (fun field => (Readable.reads : Reads (encodeField field) decodeField True field))
  rw [List.map_id'] at h
  exact ⟨h.congr (by simp)⟩

/-- What `decode_reply` accepts. -/
def ReplyPayload.Storable (value : ReplyPayload) : Prop :=
  value.rows.length ≤ 65536 ∧ ∀ row ∈ value.rows, row.length ≤ 64
  deriving Decidable

instance (value : ReplyPayload) : Readable (encodeReply value) decodeReply value.Storable value := by
  refine ⟨?_⟩
  have hrows := reads_counted (by decide : 65536 < 2 ^ 32) "reply carries too many rows" value.rows
    (fun row => (inferInstance : NonemptyImage (encCounted encodeField row)).nonempty)
    (fun row => (Readable.reads : Reads (encCounted encodeField row) decodeRow (row.length ≤ 64) row))
  rw [List.map_id'] at hrows
  unfold encodeReply decodeReply
  apply Reads.congr
  · iterate 5 apply Reads.field Readable.reads
    apply Reads.field hrows
    exact Reads.pure value
  · simp [ReplyPayload.Storable]

end FederationObservatory
