import FederationObservatory.RecordsCodec.Decode
import FederationObservatory.StateStore.DurableState

/-!
# State images

The file format of `state_store.cpp`: a 48-byte header (magic, version, flags, payload length,
checksum, a reserved word, save sequence, epoch) and a payload of counted collections. The loader
reads back the publisher watermarks the writer wrote, whatever the other collections hold.
-/

namespace FederationObservatory

open ByteCodec Sorting

/-! ## Writer -/

/-- `kStateMagic`. -/
def stateMagic : Bytes := Text.ofString "FOSTATE1"

/-- `kStateHeaderSize`. -/
def stateHeaderSize : Nat := 48

/-- `kStateFlagsNone`. -/
def stateFlagsNone : UInt32 := 0

/-- `encode_watermark`. -/
def encodeWatermark (value : PublisherWatermark) : Writer :=
  .seq
    [encId value.publisher,
     encGen value.boot,
     encSequence value.watermark,
     Encoder.boolean value.fenced,
     Encoder.str value.fencedReason,
     Encoder.i64 value.lastSeen]

/-- One finding of the payload. -/
def encodeFinding (finding : AggregateFindingRecord) : Writer :=
  .seq
    [Encoder.str finding.kind,
     Encoder.str finding.subject,
     Encoder.str finding.digest,
     Encoder.i64 finding.generatedAt,
     encGen finding.snapshotGeneration,
     encEnum finding.precision,
     encEnum finding.evidenceClass]

/-- The order of placements and migrations in a file: by observation time, then by id. -/
def historyLt {tag : IdTag} (a b : TimestampNanos × StrongId tag) : Bool :=
  if a.1 ≠ b.1 then decide (a.1 < b.1) else less a.2 b.2

/-- The sorts of `encode_durable_state`. -/
def DurableState.sorted (d : DurableState) : DurableState :=
  { d with
    placements := stableSort
      (fun a b => historyLt (a.stamp.observedAt, a.id) (b.stamp.observedAt, b.id)) d.placements
    migrations := stableSort
      (fun a b => historyLt (a.stamp.observedAt, a.id) (b.stamp.observedAt, b.id)) d.migrations
    publisherWatermarks := stableSort PublisherWatermark.lt d.publisherWatermarks
    aggregateFindings := stableSort AggregateFindingRecord.lt d.aggregateFindings }

/-- The payload of an image. -/
def encodePayload (d : DurableState) : Writer :=
  .seq
    [Encoder.u32 stateFormatVersion,
     encGen d.writtenByEpoch,
     Encoder.u64 d.saveSequence,
     Encoder.i64 d.savedAt,
     encCounted encodeFederation d.federations,
     encCounted encodeSite d.sites,
     encCounted encodeCluster d.clusters,
     encCounted encodeAcceleratorClass d.acceleratorClasses,
     encCounted encodeRuntime d.runtimes,
     encCounted encodeBackend d.backends,
     encCounted encodeDomain d.domains,
     encCounted encodePolicy d.policies,
     encCounted encodeArtifact d.artifacts,
     encCounted encodeWorkloadClass d.workloadClasses,
     encCounted encodeWorkload d.workloads,
     encCounted encodePlacement d.placements,
     encCounted encodeMigration d.migrations,
     encCounted encodePortability d.portability,
     encCounted encodeWatermark d.publisherWatermarks,
     encCounted encodeFinding d.aggregateFindings]

/-- The header in front of a payload. -/
def encodeHeader (d : DurableState) (body : Bytes) : Bytes :=
  stateMagic ++ leBytes 4 stateFormatVersion.toNat ++ leBytes 4 stateFlagsNone.toNat ++
    leBytes 8 body.length ++ leBytes 4 (crc32 body).toNat ++ leBytes 4 0 ++
    leBytes 8 d.saveSequence.toNat ++ leBytes 8 d.writtenByEpoch.value.toNat

/-- `encode_durable_state`. -/
def encodeDurableState (state : DurableState) (bounds : Bounds) : Result Bytes :=
  let normalized := state.normalizeForPersistence.sorted
  match (encodePayload normalized).image with
  | .error e => .error e
  | .ok body =>
    if bounds.maxPersistenceBytes < body.length then
      fail .boundExceeded "durable state exceeds the configured persistence bound"
        (.ofNat body.length)
    else .ok (encodeHeader normalized body ++ body)

/-! ## Loader -/

/-- `decode_watermark`. -/
def decodeWatermark : Reader PublisherWatermark := do
  let publisher ← Decoder.str
  Get.failIf (!publisher.isEmpty && !isValidIdentifier publisher)
    ⟨.corruptState, .ofString "publisher watermark has an invalid publisher id", []⟩
  let boot ← decGen .boot
  let watermark ← decSequence
  let fenced ← Decoder.boolean
  let fencedReason ← Decoder.str
  let lastSeen ← Decoder.i64
  pure { publisher := ⟨publisher⟩, boot, watermark, fenced, fencedReason, lastSeen }

/-- An enumerator of a finding, with the loader's own error. -/
def decFindingEnum (E : Type) [WireEnum E] (message : String) : Reader E := do
  let value ← Decoder.u8
  match (WireEnum.enumerators : List E)[value.toNat]? with
  | some e => pure e
  | none => Get.fail ⟨.corruptState, .ofString message, []⟩

/-- One round of the findings loop. -/
def decodeFinding : Reader AggregateFindingRecord := do
  let kind ← Decoder.str
  let subject ← Decoder.str
  let digest ← Decoder.str
  let generatedAt ← Decoder.i64
  let snapshotGeneration ← decGen .snapshot
  let precision ← decFindingEnum Precision "durable state carries an invalid precision"
  let evidenceClass ←
    decFindingEnum EvidenceClass "durable state carries an invalid evidence class"
  pure { kind, subject, digest, generatedAt, snapshotGeneration, precision, evidenceClass }

/-- `read_count`. -/
def readCount (limit : Nat) (what : String) : Reader UInt32 := do
  let count ← Decoder.u32
  Get.failIf (decide (limit < count.toNat))
    ⟨.boundExceeded, .ofString "durable state declares too many " ++ .ofString what,
      .ofNat count.toNat⟩
  pure count

/-- `read_records`. -/
def readRecords {α : Type} (limit : Nat) (what : String) (decode : Reader α) :
    Reader (List α) := do
  let count ← readCount limit what
  Get.loop count.toNat (pushBack decode) []

/-- The payload fields, in the order of `decode_durable_state`. -/
def decodePayload (bounds : Bounds) : Reader DurableState := do
  let version ← Decoder.u32
  Get.failIf (version != stateFormatVersion)
    ⟨.unsupportedVersion, .ofString "unsupported durable payload version", []⟩
  let writtenByEpoch ← decGen .coordinatorEpoch
  let saveSequence ← Decoder.u64
  let savedAt ← Decoder.i64
  let federations ← readRecords bounds.maxFederations "federations" decodeFederation
  let sites ← readRecords bounds.maxSites "sites" decodeSite
  let clusters ← readRecords bounds.maxClusters "clusters" decodeCluster
  let acceleratorClasses ←
    readRecords bounds.maxAcceleratorClasses "accelerator classes" decodeAcceleratorClass
  let runtimes ← readRecords bounds.maxRuntimes "runtimes" decodeRuntime
  let backends ← readRecords bounds.maxBackends "backends" decodeBackend
  let domains ← readRecords bounds.maxDomains "domains" decodeDomain
  let policies ← readRecords bounds.maxPolicies "policies" decodePolicy
  let artifacts ← readRecords bounds.maxArtifacts "artifacts" decodeArtifact
  let workloadClasses ←
    readRecords bounds.maxWorkloadClasses "workload classes" decodeWorkloadClass
  let workloads ← readRecords bounds.maxWorkloads "workloads" decodeWorkload
  let placements ← readRecords bounds.maxPlacementHistory "placements" decodePlacement
  let migrations ← readRecords bounds.maxMigrationHistory "migrations" decodeMigration
  let portability ←
    readRecords bounds.maxPortabilityRecords "portability records" decodePortability
  let publisherWatermarks ←
    readRecords bounds.maxPublishers "publisher watermarks" decodeWatermark
  let aggregateFindings ←
    readRecords bounds.maxAggregateFindings "aggregate findings" decodeFinding
  pure
    { formatVersion := stateFormatVersion, writtenByEpoch, saveSequence, savedAt, federations,
      sites, clusters, acceleratorClasses, runtimes, backends, domains, policies, artifacts,
      workloadClasses, workloads, placements, migrations, portability, publisherWatermarks,
      aggregateFindings }

/-- `decode_durable_state`. -/
def decodeDurableState (data : Bytes) (bounds : Bounds) : Result DurableState := do
  failIf data.isEmpty .corruptState "durable state is empty"
  failIf (decide (data.length < stateHeaderSize)) .corruptState
    "durable state is truncated before the header"
  failIf (data.take 8 != stateMagic) .corruptState "durable state magic does not match"
  failIf (decide (bounds.maxPersistenceBytes < data.length)) .boundExceeded
    "durable state exceeds the configured persistence bound"
  failIf (readWord 4 data 8 != stateFormatVersion.toNat) .unsupportedVersion
    "unsupported durable state format version" (.ofNat (readWord 4 data 8))
  failIf (readWord 4 data 12 != stateFlagsNone.toNat) .corruptState
    "durable state carries unknown flags"
  failIf (readWord 4 data 28 != 0) .corruptState "durable state reserved field is not zero"
  failIf (readWord 8 data 16 != data.length - stateHeaderSize) .corruptState
    "durable state payload length does not match the header"
    (.ofString "declared=" ++ .ofNat (readWord 8 data 16) ++ .ofString " actual=" ++
      .ofNat (data.length - stateHeaderSize))
  let body := data.drop stateHeaderSize
  failIf (readWord 4 data 24 != (crc32 body).toNat) .integrityFailure
    "durable state checksum does not match"
    (.ofString "expected=" ++ Text.hexDigest64 (UInt64.ofNat (readWord 4 data 24)) ++
      .ofString " actual=" ++ Text.hexDigest64 (crc32 body).toUInt64)
  let (state, rest) ← decodePayload bounds (Decoder.start body bounds.maxPersistenceBytes)
  failIf (!rest.rest.isEmpty) .corruptState "durable state carries trailing bytes"
    (.ofNat rest.rest.length)
  state.validate bounds
  pure state

/-! ## Files

A file that does not exist is `none`; operations on it are atomic. -/

/-- `save_durable_state`: the bytes that replace the file. -/
def saveDurableState (state : DurableState) (bounds : Bounds) : Result Bytes := do
  let normalized := state.normalizeForPersistence
  normalized.validate bounds
  encodeDurableState normalized bounds

/-- `read_file_bounded`. -/
def readFileBounded (file : Option Bytes) (maxBytes : Nat) : Result Bytes :=
  match file with
  | none => fail .notFound "could not open file for reading"
  | some bytes =>
    if maxBytes < bytes.length then fail .boundExceeded "file exceeds the configured bound"
    else .ok bytes

/-- `load_durable_state`. -/
def loadDurableState (file : Option Bytes) (bounds : Bounds) : Result DurableState := do
  let image ← readFileBounded file bounds.maxPersistenceBytes
  decodeDurableState image bounds

/-! ## What a saved image gives back -/

theorem frames_watermark (value : PublisherWatermark) :
    Frames (encodeWatermark value) decodeWatermark (· = value) := by
  refine Frames.field (Decoder.frames_str _) ?_
  rintro publisher rfl
  refine Frames.failIf fun _ => ?_
  refine (frames_gen value.boot).field ?_
  rintro boot rfl
  refine (frames_sequence value.watermark).field ?_
  rintro watermark rfl
  refine (Decoder.frames_boolean value.fenced).field ?_
  rintro fenced rfl
  refine (Decoder.frames_str value.fencedReason).field ?_
  rintro reason rfl
  refine (Decoder.frames_i64 value.lastSeen).field ?_
  rintro lastSeen rfl
  exact Frames.pure rfl

instance (value : PublisherWatermark) : NonemptyImage (encodeWatermark value) :=
  inferInstanceAs (NonemptyImage (Put.seq _))

theorem frames_findingEnum {E : Type} [WireEnum E] (e : E) (message : String) :
    Frames (encEnum e) (decFindingEnum E message) (· = e) := by
  rw [← List.append_nil (encEnum e)]
  refine (Decoder.frames_u8 _).bind ?_
  rintro v rfl
  simp only [WireEnum.getElem?_code]
  exact Frames.pure rfl

instance (finding : AggregateFindingRecord) : NonemptyImage (encodeFinding finding) :=
  inferInstanceAs (NonemptyImage (Put.seq _))

theorem frames_finding (finding : AggregateFindingRecord) :
    Frames (encodeFinding finding) decodeFinding (· = finding) := by
  refine (Decoder.frames_str finding.kind).field ?_
  rintro kind rfl
  refine (Decoder.frames_str finding.subject).field ?_
  rintro subject rfl
  refine (Decoder.frames_str finding.digest).field ?_
  rintro digest rfl
  refine (Decoder.frames_i64 finding.generatedAt).field ?_
  rintro generatedAt rfl
  refine (frames_gen finding.snapshotGeneration).field ?_
  rintro snapshotGeneration rfl
  refine (frames_findingEnum finding.precision _).field ?_
  rintro precision rfl
  refine (frames_findingEnum finding.evidenceClass _).field ?_
  rintro evidenceClass rfl
  exact Frames.pure rfl

theorem readRecords_eq {α : Type} (limit : Nat) (what : String) (decode : Reader α) :
    readRecords limit what decode = (do
      let count ← Decoder.u32
      Get.failIf (decide (limit < count.toNat))
        ⟨.boundExceeded, .ofString "durable state declares too many " ++ .ofString what,
          .ofNat count.toNat⟩
      Get.loop count.toNat (pushBack decode) []) := by
  simp [readRecords, readCount, bind_assoc]

instance {α : Type} (enc : α → Writer) (dec : Reader α) (limit : Nat) (what : String)
    (values : List α) [hne : ∀ x, NonemptyImage (enc x)] [∀ x, Framed (enc x) dec] :
    Framed (encCounted enc values) (readRecords limit what dec) := by
  rw [readRecords_eq]
  exact .of (frames_countedLoop (P := fun _ _ => True) limit _ values []
    (fun x => (hne x).nonempty) (fun _ _ _ _ => Framed.frames) trivial)

/-- A collection whose elements read back as written reads back as written. -/
theorem frames_readRecords {α : Type} {enc : α → Writer} {dec : Reader α} (limit : Nat)
    (what : String) (values : List α) [hne : ∀ x, NonemptyImage (enc x)]
    (hdec : ∀ x, Frames (enc x) dec (· = x)) :
    Frames (encCounted enc values) (readRecords limit what dec) (· = values) := by
  rw [readRecords_eq]
  -- the accumulator and the elements still to come make up the whole list
  refine (frames_countedLoop (P := fun xs acc => acc ++ xs = values) limit _ values []
    (fun x => (hne x).nonempty) ?_ rfl).mono ?_
  · intro x xs acc h
    rw [← List.append_nil (enc x)]
    refine (hdec x).bind ?_
    rintro a rfl
    exact Frames.pure (by simpa using h)
  · intro acc h
    simpa using h

/-- What the loader gives back of a payload whatever the record collections hold. -/
structure DurableState.SameAuthority (d d' : DurableState) : Prop where
  writtenByEpoch : d'.writtenByEpoch = d.writtenByEpoch
  saveSequence : d'.saveSequence = d.saveSequence
  publisherWatermarks : d'.publisherWatermarks = d.publisherWatermarks

theorem frames_payload (d : DurableState) (bounds : Bounds) :
    Frames (encodePayload d) (decodePayload bounds) d.SameAuthority := by
  refine (Decoder.frames_u32 _).field fun _ _ => Frames.failIf fun _ => ?_
  refine (frames_gen d.writtenByEpoch).field ?_
  rintro writtenByEpoch rfl
  refine (Decoder.frames_u64 d.saveSequence).field ?_
  rintro saveSequence rfl
  refine (Decoder.frames_i64 d.savedAt).field fun _ _ => ?_
  iterate 14 refine Frames.field Framed.frames fun _ _ => ?_
  refine (frames_readRecords _ _ d.publisherWatermarks frames_watermark).field ?_
  rintro watermarks rfl
  refine (frames_readRecords _ _ d.aggregateFindings frames_finding).field fun _ _ => ?_
  exact Frames.pure ⟨rfl, rfl, rfl⟩

theorem length_encodeHeader (d : DurableState) (body : Bytes) :
    (encodeHeader d body).length = stateHeaderSize := by
  have hmagic : stateMagic.length = 8 := by decide
  simp [encodeHeader, length_leBytes, hmagic, stateHeaderSize]

theorem loadDurableState_eq_ok {d : DurableState} {bounds : Bounds} {image : Bytes} :
    loadDurableState (some image) bounds = .ok d ↔
      image.length ≤ bounds.maxPersistenceBytes ∧ decodeDurableState image bounds = .ok d := by
  unfold loadDurableState readFileBounded
  by_cases h : image.length ≤ bounds.maxPersistenceBytes
  · simp [h, Nat.not_lt.mpr h, bind_eq_ok]
  · simp [h, Nat.lt_of_not_le h, bind_eq_ok, fail]

/-- The watermark table, the epoch and the save sequence survive the file: they are written as
    captured, up to the order of the table, and a successful load gives them back. -/
theorem decode_of_save {d d' : DurableState} {bounds : Bounds} {image : Bytes}
    (hbounds : bounds.validate = .ok ()) (hsave : saveDurableState d bounds = .ok image)
    (hload : decodeDurableState image bounds = .ok d') :
    d'.writtenByEpoch = d.writtenByEpoch ∧ d'.saveSequence = d.saveSequence ∧
      d'.publisherWatermarks.Perm d.publisherWatermarks := by
  obtain ⟨-, -, hencode⟩ := bind_eq_ok.mp hsave
  unfold encodeDurableState at hencode
  simp only at hencode
  split at hencode
  · exact absurd hencode (by simp)
  rename_i body hbody
  split at hencode
  · exact absurd hencode (by simp [fail])
  rename_i hsize
  obtain rfl := Except.ok.inj hencode
  -- an accepted body is below the persistence limit, and so describable by 32-bit counts
  have hlen : body.length < 2 ^ 32 := by
    have hmax := Bounds.maxPersistenceBytes_le hbounds
    have : FederationObservatory.maxPersistenceBytes < 2 ^ 32 := by decide
    omega
  simp only [decodeDurableState, bind_eq_ok] at hload
  obtain ⟨-, -, -, -, -, -, -, -, -, -, -, -, -, -, -, -, -, -, ⟨state, rest⟩, hpayload, -, -, -, -,
    hstate⟩ := hload
  have hdrop : ∀ n : DurableState,
      (encodeHeader n body ++ body).drop stateHeaderSize = body := by
    intro n
    rw [← length_encodeHeader n body, List.drop_left]
  rw [hdrop] at hpayload
  have hstart : Decoder.start body bounds.maxPersistenceBytes = ⟨body ++ [], false⟩ := by
    have htake : body.take bounds.maxPersistenceBytes = body := List.take_of_length_le (by omega)
    simp [Decoder.start, htake, hsize]
  rw [hstart] at hpayload
  obtain ⟨-, hsame⟩ := frames_payload _ bounds body hbody hlen [] false state rest hpayload
  obtain rfl : state = d' := by simpa [pure, Except.pure] using hstate
  refine ⟨hsame.writtenByEpoch, hsame.saveSequence, ?_⟩
  rw [hsame.publisherWatermarks]
  exact perm_stableSort _ _

end FederationObservatory
