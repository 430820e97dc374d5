import FederationObservatory.Foundation.Codec

/-!
# Frames

The framing of `protocol.cpp`: a 28-byte header (magic, version, type, flags, three reserved bytes,
request id, payload length, payload checksum) and a payload. The header holds the payload length in
32 bits, while the bound on a payload is a `size_t`.
-/

namespace FederationObservatory

open ByteCodec

/-- `MessageType`: the declared enumerators. -/
inductive MessageType where
  | invalid
  | hello
  | helloAck
  | heartbeat
  | heartbeatAck
  | registerPublisher
  | registerFederation
  | registerSite
  | registerCluster
  | registerAcceleratorClass
  | registerRuntime
  | registerBackend
  | registerDomain
  | registerPolicy
  | registerArtifact
  | registerWorkloadClass
  | registerWorkload
  | publishCapability
  | publishCapacity
  | publishPlacement
  | publishMigration
  | publishMigrationStage
  | publishPortability
  | retireCluster
  | fencePublisher
  | querySnapshot
  | queryPlacement
  | queryRejection
  | queryStrandedCapacity
  | queryFragmentation
  | queryCompatibility
  | queryPortability
  | queryMigration
  | queryMismatch
  | queryDrift
  | queryHealth
  | queryBounds
  | reply
  | failure
  | shutdown
  deriving DecidableEq, Repr

namespace MessageType

/-- The value of an enumerator. -/
def code : MessageType → UInt16
  | invalid => 0
  | hello => 1
  | helloAck => 2
  | heartbeat => 3
  | heartbeatAck => 4
  | registerPublisher => 10
  | registerFederation => 11
  | registerSite => 12
  | registerCluster => 13
  | registerAcceleratorClass => 14
  | registerRuntime => 15
  | registerBackend => 16
  | registerDomain => 17
  | registerPolicy => 18
  | registerArtifact => 19
  | registerWorkloadClass => 20
  | registerWorkload => 21
  | publishCapability => 30
  | publishCapacity => 31
  | publishPlacement => 32
  | publishMigration => 33
  | publishMigrationStage => 34
  | publishPortability => 35
  | retireCluster => 36
  | fencePublisher => 37
  | querySnapshot => 50
  | queryPlacement => 51
  | queryRejection => 52
  | queryStrandedCapacity => 53
  | queryFragmentation => 54
  | queryCompatibility => 55
  | queryPortability => 56
  | queryMigration => 57
  | queryMismatch => 58
  | queryDrift => 59
  | queryHealth => 60
  | queryBounds => 61
  | reply => 100
  | failure => 101
  | shutdown => 102

/-- The enumerators, in the order of their declaration. -/
def all : List MessageType :=
  [invalid, hello, helloAck, heartbeat, heartbeatAck, registerPublisher, registerFederation,
   registerSite, registerCluster, registerAcceleratorClass, registerRuntime, registerBackend,
   registerDomain, registerPolicy, registerArtifact, registerWorkloadClass, registerWorkload,
   publishCapability, publishCapacity, publishPlacement, publishMigration, publishMigrationStage,
   publishPortability, retireCluster, fencePublisher, querySnapshot, queryPlacement,
   queryRejection, queryStrandedCapacity, queryFragmentation, queryCompatibility, queryPortability,
   queryMigration, queryMismatch, queryDrift, queryHealth, queryBounds, reply, failure, shutdown]

/-- The enumerator of a value, if one is declared. -/
def ofCode (raw : UInt16) : Option MessageType := all.find? fun type => type.code == raw

theorem ofCode_code (type : MessageType) : ofCode type.code = some type := by
  cases type <;> rfl

end MessageType

/-- `kProtocolVersion`. -/
def protocolVersion : UInt16 := 1

/-- `kFrameHeaderSize`. -/
def frameHeaderSize : Nat := 28

/-- `kProtocolMagic`. -/
def protocolMagic : Bytes := Text.ofString "FOBS"

/-- `Frame`. The enumeration has a fixed underlying type, so a type is any 16-bit value. -/
structure Frame where
  type : UInt16 := MessageType.invalid.code
  flags : UInt8 := 0
  requestId : UInt64 := 0
  payload : Bytes := []
  deriving DecidableEq, Repr

/-- `known_message_type`: a value in the range of the enumeration, declared or not. -/
def knownMessageType (raw : UInt16) : Bool :=
  decide (MessageType.hello.code ≤ raw) && decide (raw ≤ MessageType.shutdown.code) &&
    raw != MessageType.invalid.code

/-- The header of a frame. The length of the payload is cast to 32 bits. -/
def Frame.header (frame : Frame) : Bytes :=
  protocolMagic ++ (leBytes 2 protocolVersion.toNat ++ (leBytes 2 frame.type.toNat ++
    ([frame.flags] ++ ([0, 0, 0] ++ (leBytes 8 frame.requestId.toNat ++
      (leBytes 4 (UInt32.ofNat frame.payload.length).toNat ++
        leBytes 4 (crc32 frame.payload).toNat))))))

/-- `encode_frame`. -/
def encodeFrame (frame : Frame) (bounds : Bounds) : Result Bytes := do
  failIf (!knownMessageType frame.type) .protocolViolation "unknown message type in outgoing frame"
  failIf (decide (bounds.maxFrameBytes < frame.payload.length)) .oversizedPayload
    "outgoing frame payload exceeds the frame bound" (.ofNat frame.payload.length)
  pure (frame.header ++ frame.payload)

/-- `decode_frame`; a buffer that is `none` is a null pointer. -/
def decodeFrame (buffer : Option Bytes) (bounds : Bounds) : Result Frame :=
  match buffer with
  | none => fail .protocolViolation "frame buffer is null"
  | some data => do
    failIf (decide (data.length < frameHeaderSize)) .protocolViolation
      "frame is truncated before the header" (.ofNat data.length)
    failIf (data.take 4 != protocolMagic) .protocolViolation "frame magic does not match"
    failIf (readWord 2 data 4 != protocolVersion.toNat) .unsupportedVersion
      "unsupported protocol version" (.ofNat (readWord 2 data 4))
    failIf (!knownMessageType (UInt16.ofNat (readWord 2 data 6))) .protocolViolation
      "unknown message type" (.ofNat (readWord 2 data 6))
    failIf ((data.drop 9).take 3 != [0, 0, 0]) .protocolViolation
      "frame reserved bytes are not zero"
    failIf (decide (bounds.maxFrameBytes < readWord 4 data 20)) .oversizedPayload
      "frame declares a payload beyond the frame bound" (.ofNat (readWord 4 data 20))
    failIf (data.length != frameHeaderSize + readWord 4 data 20) .protocolViolation
      "frame length does not match the declared payload"
      (.ofString "declared=" ++ .ofNat (readWord 4 data 20) ++ .ofString " available=" ++
        .ofNat (data.length - frameHeaderSize))
    let payload := (data.drop frameHeaderSize).take (readWord 4 data 20)
    failIf (readWord 4 data 24 != (crc32 payload).toNat) .integrityFailure
      "frame payload checksum does not match"
    pure
      { type := UInt16.ofNat (readWord 2 data 6)
        flags := UInt8.ofNat (readWord 1 data 8)
        requestId := UInt64.ofNat (readWord 8 data 12)
        payload }

/-! ## What is accepted -/

theorem length_protocolMagic : protocolMagic.length = 4 := by decide

theorem Frame.length_header (frame : Frame) : frame.header.length = frameHeaderSize := by
  simp [header, length_protocolMagic, frameHeaderSize]

theorem type_ne_invalid {frame : Frame} (h : knownMessageType frame.type = true) :
    (frame.type != MessageType.invalid.code) = true := by
  simp only [knownMessageType, Bool.and_eq_true] at h
  exact h.2

theorem encodeFrame_eq_ok {frame : Frame} {bounds : Bounds} {image : Bytes} :
    encodeFrame frame bounds = .ok image ↔
      knownMessageType frame.type = true ∧ frame.payload.length ≤ bounds.maxFrameBytes ∧
        image = frame.header ++ frame.payload := by
  simp only [encodeFrame, bind_eq_ok, failIf_eq_ok, exists_const, Bool.not_eq_false',
    decide_eq_false_iff_not, Nat.not_lt, pure, Except.pure, Except.ok.injEq, eq_comm (b := image)]

/-- The bytes of a header are split at the ends of its fields. -/
structure HeaderBytes where
  magic : Bytes
  version : Bytes
  type : Bytes
  flags : UInt8
  reserved : Bytes
  requestId : Bytes
  length : Bytes
  checksum : Bytes
  length_magic : magic.length = 4
  length_version : version.length = 2
  length_type : type.length = 2
  length_reserved : reserved.length = 3
  length_requestId : requestId.length = 8
  length_length : length.length = 4
  length_checksum : checksum.length = 4

namespace HeaderBytes

/-- The bytes in order, followed by a payload. -/
def followedBy (h : HeaderBytes) (payload : Bytes) : Bytes :=
  h.magic ++ (h.version ++ (h.type ++ ([h.flags] ++ (h.reserved ++ (h.requestId ++
    (h.length ++ (h.checksum ++ payload)))))))

theorem length_followedBy (h : HeaderBytes) (payload : Bytes) :
    (h.followedBy payload).length = frameHeaderSize + payload.length := by
  simp only [followedBy, List.length_append, List.length_cons, List.length_nil, h.length_magic,
    h.length_version, h.length_type, h.length_reserved, h.length_requestId, h.length_length,
    h.length_checksum, frameHeaderSize]
  omega

/-- A byte string that is long enough starts with a header. -/
theorem exists_followedBy {data : Bytes} (hlength : frameHeaderSize ≤ data.length) :
    ∃ (h : HeaderBytes) (payload : Bytes), data = h.followedBy payload := by
  have hsplit : ∀ (n : Nat) (l : Bytes), n ≤ l.length → ∃ a b, l = a ++ b ∧ a.length = n :=
    fun n l hn => ⟨l.take n, l.drop n, (List.take_append_drop n l).symm, List.length_take_of_le hn⟩
  simp only [frameHeaderSize] at hlength
  obtain ⟨magic, data, rfl, hmagic⟩ := hsplit 4 data (by omega)
  simp only [List.length_append] at hlength
  obtain ⟨version, data, rfl, hversion⟩ := hsplit 2 data (by omega)
  simp only [List.length_append] at hlength
  obtain ⟨type, data, rfl, htype⟩ := hsplit 2 data (by omega)
  simp only [List.length_append] at hlength
  obtain ⟨flags, data, rfl, hflags⟩ := hsplit 1 data (by omega)
  obtain ⟨flag, rfl⟩ := List.length_eq_one_iff.mp hflags
  simp only [List.length_append, List.length_cons, List.length_nil] at hlength
  obtain ⟨reserved, data, rfl, hreserved⟩ := hsplit 3 data (by omega)
  simp only [List.length_append] at hlength
  obtain ⟨requestId, data, rfl, hrequestId⟩ := hsplit 8 data (by omega)
  simp only [List.length_append] at hlength
  obtain ⟨length, data, rfl, hlen⟩ := hsplit 4 data (by omega)
  simp only [List.length_append] at hlength
  obtain ⟨checksum, data, rfl, hchecksum⟩ := hsplit 4 data (by omega)
  exact ⟨⟨magic, version, type, flag, reserved, requestId, length, checksum, hmagic, hversion,
    htype, hreserved, hrequestId, hlen, hchecksum⟩, data, rfl⟩

variable (h : HeaderBytes) (payload : Bytes)

theorem take_magic : (h.followedBy payload).take 4 = h.magic := List.take_left' h.length_magic

theorem take_reserved : ((h.followedBy payload).drop 9).take 3 = h.reserved := by
  have hsplit : h.followedBy payload = (h.magic ++ (h.version ++ (h.type ++ [h.flags]))) ++
      (h.reserved ++ (h.requestId ++ (h.length ++ (h.checksum ++ payload)))) := by
    simp only [followedBy, List.append_assoc]
  have hlength : (h.magic ++ (h.version ++ (h.type ++ [h.flags]))).length = 9 := by
    simp [h.length_magic, h.length_version, h.length_type]
  rw [hsplit, List.drop_left' hlength]
  exact List.take_left' h.length_reserved

theorem drop_header : (h.followedBy payload).drop frameHeaderSize = payload := by
  have hlength : (h.followedBy []).length = frameHeaderSize := by
    rw [length_followedBy]
    rfl
  have hsplit : h.followedBy payload = h.followedBy [] ++ payload := by
    simp only [followedBy, List.append_assoc, List.append_nil]
  rw [hsplit, ← hlength, List.drop_left]

theorem readWord_version : readWord 2 (h.followedBy payload) 4 = leValue h.version := by
  rw [followedBy, readWord_skip (i := 0) h.length_magic, readWord_field h.length_version]

theorem readWord_type : readWord 2 (h.followedBy payload) 6 = leValue h.type := by
  rw [followedBy, readWord_skip (i := 2) h.length_magic,
    readWord_skip (i := 0) h.length_version, readWord_field h.length_type]

theorem readWord_flags : readWord 1 (h.followedBy payload) 8 = h.flags.toNat := by
  rw [followedBy, readWord_skip (i := 4) h.length_magic,
    readWord_skip (i := 2) h.length_version, readWord_skip (i := 0) h.length_type,
    readWord_field (List.length_singleton)]
  rfl

theorem readWord_requestId : readWord 8 (h.followedBy payload) 12 = leValue h.requestId := by
  rw [followedBy, readWord_skip (i := 8) h.length_magic,
    readWord_skip (i := 6) h.length_version, readWord_skip (i := 4) h.length_type,
    readWord_skip (n := 1) (i := 3) List.length_singleton,
    readWord_skip (i := 0) h.length_reserved, readWord_field h.length_requestId]

theorem readWord_length : readWord 4 (h.followedBy payload) 20 = leValue h.length := by
  rw [followedBy, readWord_skip (i := 16) h.length_magic,
    readWord_skip (i := 14) h.length_version, readWord_skip (i := 12) h.length_type,
    readWord_skip (n := 1) (i := 11) List.length_singleton,
    readWord_skip (i := 8) h.length_reserved, readWord_skip (i := 0) h.length_requestId,
    readWord_field h.length_length]

theorem readWord_checksum : readWord 4 (h.followedBy payload) 24 = leValue h.checksum := by
  rw [followedBy, readWord_skip (i := 20) h.length_magic,
    readWord_skip (i := 18) h.length_version, readWord_skip (i := 16) h.length_type,
    readWord_skip (n := 1) (i := 15) List.length_singleton,
    readWord_skip (i := 12) h.length_reserved, readWord_skip (i := 4) h.length_requestId,
    readWord_skip (i := 0) h.length_length, readWord_field h.length_checksum]

/-- The frame a header declares. -/
def frame : Frame :=
  { type := UInt16.ofNat (leValue h.type), flags := h.flags,
    requestId := UInt64.ofNat (leValue h.requestId), payload }

/-- The header says what `decode_frame` expects of it. -/
structure Accepts (bounds : Bounds) : Prop where
  magic : h.magic = protocolMagic
  version : leValue h.version = protocolVersion.toNat
  known : knownMessageType (h.frame payload).type = true
  reserved : h.reserved = [0, 0, 0]
  bounded : leValue h.length ≤ bounds.maxFrameBytes
  length : payload.length = leValue h.length
  checksum : leValue h.checksum = (crc32 payload).toNat

theorem decodeFrame_followedBy {bounds : Bounds} {frame : Frame} :
    decodeFrame (some (h.followedBy payload)) bounds = .ok frame ↔
      h.Accepts payload bounds ∧ frame = h.frame payload := by
  have hflags : UInt8.ofNat h.flags.toNat = h.flags := UInt8.ofNat_toNat
  simp only [decodeFrame, bind_eq_ok, failIf_eq_ok, exists_const, length_followedBy, take_magic,
    take_reserved, drop_header, readWord_version, readWord_type, readWord_flags,
    readWord_requestId, readWord_length, readWord_checksum, hflags, bne_eq_false_iff_eq,
    Bool.not_eq_false', decide_eq_false_iff_not, Nat.not_lt, Nat.le_add_right, true_and,
    Nat.add_left_cancel_iff, pure, Except.pure, Except.ok.injEq]
  constructor
  · rintro ⟨hmagic, hversion, hknown, hreserved, hbounded, hlength, hchecksum, hframe⟩
    rw [← hlength, List.take_length] at hchecksum hframe
    exact ⟨⟨hmagic, hversion, hknown, hreserved, hbounded, hlength, hchecksum⟩, hframe.symm⟩
  · rintro ⟨haccepts, rfl⟩
    refine ⟨haccepts.magic, haccepts.version, haccepts.known, haccepts.reserved, haccepts.bounded,
      haccepts.length, ?_⟩
    rw [← haccepts.length, List.take_length]
    exact ⟨haccepts.checksum, rfl⟩

end HeaderBytes

/-- The fields of the header of a frame. -/
def Frame.headerBytes (frame : Frame) : HeaderBytes where
  magic := protocolMagic
  version := leBytes 2 protocolVersion.toNat
  type := leBytes 2 frame.type.toNat
  flags := frame.flags
  reserved := [0, 0, 0]
  requestId := leBytes 8 frame.requestId.toNat
  length := leBytes 4 (UInt32.ofNat frame.payload.length).toNat
  checksum := leBytes 4 (crc32 frame.payload).toNat
  length_magic := length_protocolMagic
  length_version := length_leBytes 2 _
  length_type := length_leBytes 2 _
  length_reserved := rfl
  length_requestId := length_leBytes 8 _
  length_length := length_leBytes 4 _
  length_checksum := length_leBytes 4 _

theorem Frame.header_append (frame : Frame) (payload : Bytes) :
    frame.header ++ payload = frame.headerBytes.followedBy payload := by
  simp only [header, HeaderBytes.followedBy, headerBytes, List.append_assoc]

/-- `decode_frame` accepts the images of the frames whose length a header can hold. -/
theorem decodeFrame_eq_ok {data : Bytes} {bounds : Bounds} {frame : Frame} :
    decodeFrame (some data) bounds = .ok frame ↔
      knownMessageType frame.type = true ∧ frame.payload.length ≤ bounds.maxFrameBytes ∧
        frame.payload.length < 2 ^ 32 ∧ data = frame.header ++ frame.payload := by
  constructor
  · intro hdecode
    have hlong : frameHeaderSize ≤ data.length := by
      simp only [decodeFrame, bind_eq_ok, failIf_eq_ok, exists_const, decide_eq_false_iff_not,
        Nat.not_lt] at hdecode
      exact hdecode.1
    obtain ⟨h, payload, rfl⟩ := HeaderBytes.exists_followedBy hlong
    obtain ⟨haccepts, rfl⟩ := (h.decodeFrame_followedBy payload).mp hdecode
    have hshort : leValue h.length < 2 ^ 32 := by
      have hlt := leValue_lt h.length
      rwa [h.length_length] at hlt
    have hlength := haccepts.length
    refine ⟨haccepts.known, ?_, ?_, ?_⟩
    · exact hlength.trans_le haccepts.bounded
    · exact hlength.trans_lt hshort
    · -- every field of the header is the one that is written
      have hword : ∀ {k v : Nat} {field : Bytes}, field.length = k → leValue field = v →
          field = leBytes k v := by
        intro k v field hk hv
        rw [← hk, ← hv, leBytes_leValue]
      have htype : leValue h.type < 2 ^ 16 := by
        have hlt := leValue_lt h.type
        rwa [h.length_type] at hlt
      have hrequest : leValue h.requestId < 2 ^ 64 := by
        have hlt := leValue_lt h.requestId
        rwa [h.length_requestId] at hlt
      rw [Frame.header_append]
      simp only [HeaderBytes.followedBy, Frame.headerBytes, HeaderBytes.frame]
      rw [← haccepts.magic, ← haccepts.reserved,
        ← hword h.length_version haccepts.version,
        ← hword h.length_type (UInt16.toNat_ofNat_of_lt' htype).symm,
        ← hword h.length_requestId (UInt64.toNat_ofNat_of_lt' hrequest).symm,
        ← hword h.length_checksum haccepts.checksum,
        ← hword h.length_length (v := (UInt32.ofNat payload.length).toNat) ?_]
      rw [hlength, UInt32.toNat_ofNat_of_lt' hshort]
  · rintro ⟨hknown, hbounded, hshort, rfl⟩
    have hlength : (UInt32.ofNat frame.payload.length).toNat = frame.payload.length :=
      UInt32.toNat_ofNat_of_lt' hshort
    have htype : leValue (leBytes 2 frame.type.toNat) = frame.type.toNat :=
      leValue_leBytes 2 _ frame.type.toNat_lt
    have hrequest : leValue (leBytes 8 frame.requestId.toNat) = frame.requestId.toNat :=
      leValue_leBytes 8 _ frame.requestId.toNat_lt
    have hdeclared : leValue (leBytes 4 (UInt32.ofNat frame.payload.length).toNat) =
        frame.payload.length := by
      rw [hlength, leValue_leBytes 4 _ hshort]
    have hframe : frame.headerBytes.frame frame.payload = frame := by
      simp only [HeaderBytes.frame, Frame.headerBytes, htype, hrequest, UInt16.ofNat_toNat,
        UInt64.ofNat_toNat]
    rw [Frame.header_append, HeaderBytes.decodeFrame_followedBy, hframe]
    refine ⟨⟨rfl, ?_, ?_, rfl, ?_, hdeclared.symm, ?_⟩, rfl⟩
    · exact leValue_leBytes 2 _ protocolVersion.toNat_lt
    · rw [hframe]
      exact hknown
    · exact hdeclared.trans_le hbounded
    · exact leValue_leBytes 4 _ (crc32 frame.payload).toNat_lt

/-! ## The codec as a whole -/

/-- `decode_frame` refuses the bytes. -/
def FrameRejected (bounds : Bounds) (data : Bytes) : Prop :=
  ∃ e, decodeFrame (some data) bounds = .error e

theorem frameRejected_iff {bounds : Bounds} {data : Bytes} :
    FrameRejected bounds data ↔ ∀ frame, decodeFrame (some data) bounds ≠ .ok frame := by
  unfold FrameRejected
  cases decodeFrame (some data) bounds <;> simp

/-- A frame that was accepted under validated bounds fits its header. -/
theorem length_payload_lt {frame : Frame} {bounds : Bounds} {image : Bytes}
    (hbounds : bounds.validate = .ok ()) (hencode : encodeFrame frame bounds = .ok image) :
    frame.payload.length < 2 ^ 32 := by
  obtain ⟨-, hbounded, -⟩ := encodeFrame_eq_ok.mp hencode
  have hmax := (Bounds.maxFrameBytes_within hbounds).2
  have : FederationObservatory.maxFrameBytes < 2 ^ 32 := by decide
  omega

/-- Two frames under one header have payloads of one length and one checksum. -/
theorem Frame.payload_of_header_eq {a b : Frame} (h : a.header = b.header)
    (ha : a.payload.length < 2 ^ 32) (hb : b.payload.length < 2 ^ 32) :
    a.payload.length = b.payload.length ∧ crc32 a.payload = crc32 b.payload := by
  have hfields : ∀ f : Frame, readWord 4 f.header 20 = (UInt32.ofNat f.payload.length).toNat ∧
      readWord 4 f.header 24 = (crc32 f.payload).toNat := by
    intro f
    have hheader : f.header = f.headerBytes.followedBy [] := by
      rw [← Frame.header_append, List.append_nil]
    rw [hheader, HeaderBytes.readWord_length, HeaderBytes.readWord_checksum]
    exact ⟨leValue_leBytes 4 _ (UInt32.toNat_lt _), leValue_leBytes 4 _ (UInt32.toNat_lt _)⟩
  obtain ⟨hlength, hchecksum⟩ := hfields a
  rw [h, (hfields b).1, UInt32.toNat_ofNat_of_lt' ha, UInt32.toNat_ofNat_of_lt' hb] at hlength
  rw [h, (hfields b).2] at hchecksum
  exact ⟨hlength.symm, UInt32.toNat_inj.mp hchecksum.symm⟩

/-- The bytes after the header of an accepted frame are its payload. -/
theorem frame_of_decode {frame decoded : Frame} {bounds : Bounds} {payload : Bytes}
    (h : decodeFrame (some (frame.header ++ payload)) bounds = .ok decoded)
    (hshort : frame.payload.length < 2 ^ 32) :
    payload.length = frame.payload.length ∧ crc32 payload = crc32 frame.payload := by
  obtain ⟨-, -, hdecoded, hdata⟩ := decodeFrame_eq_ok.mp h
  obtain ⟨hheader, rfl⟩ := List.append_inj hdata (by rw [Frame.length_header, Frame.length_header])
  obtain ⟨hlength, hchecksum⟩ := Frame.payload_of_header_eq hheader hshort hdecoded
  exact ⟨hlength.symm, hchecksum.symm⟩

/-- A frame whose payload is shorter than 2^32 bytes, as every frame is that is accepted under
    validated bounds, is decoded as it was encoded, and nothing else is decoded: no truncation or
    extension of it, no payload of another checksum under its header, and nothing with another
    magic, another version or a reserved byte that is not zero. -/
theorem frame_codec (bounds : Bounds) :
    (∀ frame image, encodeFrame frame bounds = .ok image →
      (bounds.validate = .ok () → frame.payload.length < 2 ^ 32) ∧
      (frame.payload.length < 2 ^ 32 →
        decodeFrame (some image) bounds = .ok frame ∧
        (∀ data, data <+: image → data ≠ image → FrameRejected bounds data) ∧
        (∀ data, image <+: data → data ≠ image → FrameRejected bounds data) ∧
        ∀ payload, crc32 payload ≠ crc32 frame.payload →
          FrameRejected bounds (image.take frameHeaderSize ++ payload))) ∧
    (∀ data frame, decodeFrame (some data) bounds = .ok frame →
      encodeFrame frame bounds = .ok data) ∧
    ∀ data, (data.take 4 ≠ protocolMagic ∨ readWord 2 data 4 ≠ protocolVersion.toNat ∨
      (data.drop 9).take 3 ≠ [0, 0, 0]) → FrameRejected bounds data := by
  refine ⟨?_, ?_, ?_⟩
  · intro frame image hencode
    refine ⟨fun hbounds => length_payload_lt hbounds hencode, fun hshort => ?_⟩
    obtain ⟨hknown, hbounded, rfl⟩ := encodeFrame_eq_ok.mp hencode
    refine ⟨decodeFrame_eq_ok.mpr ⟨hknown, hbounded, hshort, rfl⟩, ?_, ?_, ?_⟩
    · intro data hstart hne
      refine frameRejected_iff.mpr fun decoded hdecode => hne ?_
      have hlong : frame.header.length ≤ data.length := by
        obtain ⟨-, -, -, rfl⟩ := decodeFrame_eq_ok.mp hdecode
        simp [Frame.length_header]
      obtain ⟨payload, rfl⟩ := List.prefix_of_prefix_length_le (List.prefix_append _ _) hstart hlong
      have hpayload := (List.prefix_append_right_inj _).mp hstart
      rw [hpayload.eq_of_length (frame_of_decode hdecode hshort).1]
    · rintro data ⟨extra, rfl⟩ hne
      refine frameRejected_iff.mpr fun decoded hdecode => hne ?_
      rw [List.append_assoc] at hdecode
      have hlength := (frame_of_decode hdecode hshort).1
      rw [List.length_append] at hlength
      rw [List.eq_nil_of_length_eq_zero (l := extra) (by omega), List.append_nil]
    · intro payload hchecksum
      rw [List.take_left' frame.length_header]
      refine frameRejected_iff.mpr fun decoded hdecode => hchecksum ?_
      exact (frame_of_decode hdecode hshort).2
  · intro data frame hdecode
    obtain ⟨hknown, hbounded, -, rfl⟩ := decodeFrame_eq_ok.mp hdecode
    exact encodeFrame_eq_ok.mpr ⟨hknown, hbounded, rfl⟩
  · intro data hbad
    refine frameRejected_iff.mpr fun frame hdecode => ?_
    obtain ⟨-, -, -, rfl⟩ := decodeFrame_eq_ok.mp hdecode
    rw [Frame.header_append, HeaderBytes.take_magic, HeaderBytes.readWord_version,
      HeaderBytes.take_reserved] at hbad
    rcases hbad with h | h | h
    · exact h rfl
    · exact h (leValue_leBytes 2 _ protocolVersion.toNat_lt)
    · exact h rfl

/-- A heartbeat. -/
def Frame.heartbeat : Frame :=
  { type := MessageType.heartbeat.code, flags := 1, requestId := 7 }

/-- A heartbeat comes through, and is refused with a byte more. -/
theorem frame_codec_heartbeat :
    decodeFrame (some Frame.heartbeat.header) {} = .ok Frame.heartbeat ∧
      FrameRejected {} (Frame.heartbeat.header ++ [0]) := by
  have hencode : encodeFrame Frame.heartbeat {} = .ok Frame.heartbeat.header := by decide +kernel
  obtain ⟨hdecode, -, hextension, -⟩ := ((frame_codec {}).1 _ _ hencode).2 (by decide)
  exact ⟨hdecode, hextension _ (List.prefix_append _ _) (by decide +kernel)⟩

/-- Bounds that were not validated accept a payload of 2^32 bytes, of which the header says that it
    is empty. -/
theorem long_frame_not_decoded :
    ¬∀ (bounds : Bounds) (frame : Frame) (image : Bytes),
      encodeFrame frame bounds = .ok image → decodeFrame (some image) bounds = .ok frame := by
  intro h
  have hlength : (List.replicate (2 ^ 32) (0 : UInt8)).length = 2 ^ 32 := List.length_replicate
  generalize List.replicate (2 ^ 32) (0 : UInt8) = payload at hlength
  have hdecode := h { maxFrameBytes := 2 ^ 32 } { type := MessageType.hello.code, payload } _
    (encodeFrame_eq_ok.mpr ⟨(by decide : knownMessageType MessageType.hello.code = true), hlength.le, rfl⟩)
  obtain ⟨-, -, hshort, -⟩ := decodeFrame_eq_ok.mp hdecode
  exact absurd hlength hshort.ne

end FederationObservatory
