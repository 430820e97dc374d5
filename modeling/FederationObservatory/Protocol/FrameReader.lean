import FederationObservatory.Protocol.Frame

/-!
# Reading frames from a socket

`FrameReader::next` fills one buffer in two loops, the header and then the payload, and keeps what
it has when a poll times out. The bytes behind what it has are those of earlier frames.
-/

namespace FederationObservatory

open ByteCodec

/-! ## The socket -/

/-- What a socket hands out in turn: the bytes that arrived together, none of them when a poll times
    out, or a failure. -/
abbrev Socket := List (Result Bytes)

/-- `kMaxTransferChunk`. -/
def maxTransferChunk : Nat := 1048576

/-- `Socket::read_some`. What arrived beyond the request stays. -/
def Socket.readSome (socket : Socket) (length : Nat) : Result Bytes × Socket :=
  if length = 0 then (.ok [], socket)
  else
    match socket with
    | [] => (.ok [], [])
    | .error e :: rest => (.error e, rest)
    | .ok bytes :: rest =>
      let chunk := min length maxTransferChunk
      if bytes.length ≤ chunk then (.ok bytes, rest)
      else (.ok (bytes.take chunk), .ok (bytes.drop chunk) :: rest)

/-! ## The reader -/

/-- `FrameReader`: a buffer that only grows, and how much of it belongs to the next frame. -/
structure FrameReader where
  buffer : Bytes := []
  buffered : Nat := 0
  deriving DecidableEq, Repr

/-- `buffer_.resize`, when the buffer is shorter. -/
def FrameReader.grow (reader : FrameReader) (size : Nat) : FrameReader :=
  { reader with buffer := reader.buffer ++ List.replicate (size - reader.buffer.length) 0 }

/-- Bytes that were read into the buffer behind those it holds. -/
def FrameReader.receive (reader : FrameReader) (bytes : Bytes) : FrameReader where
  buffer := reader.buffer.take reader.buffered ++ bytes ++
    reader.buffer.drop (reader.buffered + bytes.length)
  buffered := reader.buffered + bytes.length

/-- One of the two loops of `next`: read until `total` bytes are buffered, which gives `true`, or a
    poll times out. -/
def FrameReader.fill (total : Nat) (reader : FrameReader) (socket : Socket) :
    Result Bool × FrameReader × Socket :=
  if reader.buffered < total then
    match socket.readSome (total - reader.buffered) with
    | (.error e, rest) => (.error e, reader, rest)
    | (.ok [], rest) => (.ok false, reader, rest)
    | (.ok (b :: bs), rest) => fill total (reader.receive (b :: bs)) rest
  else (.ok true, reader, socket)
termination_by total - reader.buffered
decreasing_by
  simp only [receive, List.length_cons]
  omega

/-- The second loop of `next` and what follows it. -/
def FrameReader.nextPayload (bounds : Bounds) (total : Nat) (reader : FrameReader)
    (socket : Socket) : Result Frame × FrameReader × Socket :=
  match (reader.grow total).fill total socket with
  | (.error e, reader, socket) => (.error e, reader, socket)
  | (.ok false, reader, socket) => (.ok {}, reader, socket)
  | (.ok true, reader, socket) =>
    (decodeFrame (some (reader.buffer.take total)) bounds, { reader with buffered := 0 }, socket)

/-- `FrameReader::next`. A poll that times out is a frame of type `Invalid`. -/
def FrameReader.next (bounds : Bounds) (reader : FrameReader) (socket : Socket) :
    Result Frame × FrameReader × Socket :=
  match (reader.grow frameHeaderSize).fill frameHeaderSize socket with
  | (.error e, reader, socket) => (.error e, reader, socket)
  | (.ok false, reader, socket) => (.ok {}, reader, socket)
  | (.ok true, reader, socket) =>
    let payloadLength := readWord 4 reader.buffer 20
    if bounds.maxFrameBytes < payloadLength then
      (fail .oversizedPayload "frame declares a payload beyond the frame bound"
        (.ofNat payloadLength), reader, socket)
    else reader.nextPayload bounds (frameHeaderSize + payloadLength) socket

/-- The results of a number of calls of `next`, one after the other. -/
def FrameReader.calls (bounds : Bounds) : Nat → FrameReader → Socket →
    List (Result Frame) × FrameReader × Socket
  | 0, reader, socket => ([], reader, socket)
  | n + 1, reader, socket =>
    let (result, reader, socket) := reader.next bounds socket
    let (results, reader, socket) := calls bounds n reader socket
    (result :: results, reader, socket)

/-- The frames among the results that are not of type `Invalid`. -/
def delivered (results : List (Result Frame)) : List Frame :=
  (results.filterMap Except.toOption).filter fun frame => frame.type != MessageType.invalid.code

/-! ## What the buffer holds -/

/-- A read without a failure takes bytes from the front of what arrives. It takes none when a poll
    times out or nothing arrives any more. -/
theorem readSome_arrivals (arrivals : List Bytes) {length : Nat} (hlength : 0 < length) :
    ∃ bytes rest, Socket.readSome (arrivals.map .ok) length = (.ok bytes, rest.map .ok) ∧
      bytes ++ rest.flatten = arrivals.flatten ∧ bytes.length ≤ length ∧
      rest.count [] ≤ arrivals.count [] ∧
      (bytes = [] → rest.count [] < arrivals.count [] ∨ rest = []) := by
  have hpos : 0 < maxTransferChunk := by decide
  cases arrivals with
  | nil => exact ⟨[], [], by simp [Socket.readSome, Nat.ne_of_gt hlength]⟩
  | cons first rest =>
    simp only [Socket.readSome, Nat.ne_of_gt hlength, if_false, List.map_cons]
    by_cases hfits : first.length ≤ min length maxTransferChunk
    · refine ⟨first, rest, if_pos hfits, rfl, hfits.trans (Nat.min_le_left _ _),
        List.count_le_count_cons, ?_⟩
      rintro rfl
      left
      simp
    · have hlonger : min length maxTransferChunk < first.length := Nat.lt_of_not_le hfits
      have hdrop : first.drop (min length maxTransferChunk) ≠ [] := by
        rw [ne_eq, List.drop_eq_nil_iff]
        omega
      have htake : first.take (min length maxTransferChunk) ≠ [] := by
        rw [ne_eq, List.take_eq_nil_iff]
        rintro (hzero | rfl)
        · omega
        · exact absurd hlonger (Nat.not_lt_zero _)
      refine ⟨_, _ :: rest, if_neg hfits, ?_, ?_, ?_, fun hempty => absurd hempty htake⟩
      · rw [List.flatten_cons, ← List.append_assoc, List.take_append_drop, List.flatten_cons]
      · rw [List.length_take]
        omega
      · rw [List.count_cons_of_ne hdrop]
        exact List.count_le_count_cons

namespace FrameReader

/-- The reader holds the first bytes of a frame. -/
structure Holds (reader : FrameReader) (held : Bytes) : Prop where
  buffered : reader.buffered = held.length
  start : held <+: reader.buffer

variable {reader : FrameReader} {held : Bytes}

theorem Holds.grow (h : reader.Holds held) (size : Nat) : (reader.grow size).Holds held :=
  ⟨h.buffered, h.start.trans (List.prefix_append _ _)⟩

theorem le_length_grow (reader : FrameReader) (size : Nat) :
    size ≤ (reader.grow size).buffer.length := by
  simp only [FrameReader.grow, List.length_append, List.length_replicate]
  omega

theorem Holds.receive (h : reader.Holds held) (bytes : Bytes) :
    (reader.receive bytes).Holds (held ++ bytes) := by
  have htake : reader.buffer.take reader.buffered = held := by
    rw [h.buffered]
    exact (List.prefix_iff_eq_take.mp h.start).symm
  refine ⟨?_, ?_⟩
  · simp only [FrameReader.receive, h.buffered, List.length_append]
  · simp only [FrameReader.receive, htake]
    exact List.prefix_append _ _

theorem length_receive (h : reader.Holds held) {bytes : Bytes}
    (hroom : held.length + bytes.length ≤ reader.buffer.length) :
    (reader.receive bytes).buffer.length = reader.buffer.length := by
  simp only [FrameReader.receive, List.length_append, List.length_take, List.length_drop, h.buffered]
  omega

/-- A loop moves bytes from the front of what arrives to the end of what is held, until enough are
    held or a poll times out. -/
theorem fill_spec {total : Nat} (h : reader.Holds held) (hroom : total ≤ reader.buffer.length)
    (arrivals : List Bytes) :
    ∃ filled reader' held' arrivals',
      reader.fill total (arrivals.map .ok) = (.ok filled, reader', arrivals'.map .ok) ∧
      reader'.Holds held' ∧ held' ++ arrivals'.flatten = held ++ arrivals.flatten ∧
      held'.length ≤ max total held.length ∧ (filled = true ↔ total ≤ held'.length) ∧
      arrivals'.count [] ≤ arrivals.count [] ∧
      (filled = false → arrivals'.count [] < arrivals.count [] ∨ arrivals' = []) := by
  induction hneed : total - reader.buffered using Nat.strong_induction_on
    generalizing reader held arrivals with
  | _ need ih =>
    have hbuffered := h.buffered
    by_cases hmore : reader.buffered < total
    · obtain ⟨bytes, rest, hread, hstream, hshort, hcount, hnone⟩ :=
        readSome_arrivals arrivals (Nat.sub_pos_of_lt hmore)
      cases bytes with
      | nil =>
        refine ⟨false, reader, held, rest, ?_, h, ?_, ?_, ?_, hcount, fun _ => hnone rfl⟩
        · rw [FrameReader.fill, if_pos hmore, hread]
        · rw [← hstream, List.nil_append]
        · exact Nat.le_max_right _ _
        · simp only [Bool.false_eq_true, false_iff]
          omega
      | cons b bs =>
        have hlength : (b :: bs).length = bs.length + 1 := rfl
        have hreceived := @length_receive _ _ h (b :: bs) (by omega)
        have hbuffered' : (reader.receive (b :: bs)).buffered =
            reader.buffered + (b :: bs).length := rfl
        obtain ⟨filled, reader', held', arrivals', hfill, hholds, hstream', hmax, hfilled, hcount',
          hnone'⟩ := ih _ (by omega) (h.receive (b :: bs)) (by omega) rest rfl
        refine ⟨filled, reader', held', arrivals', ?_, hholds, ?_, ?_, hfilled,
          hcount'.trans hcount, fun hfalse => ?_⟩
        · rw [FrameReader.fill, if_pos hmore, hread]
          exact hfill
        · rw [hstream', List.append_assoc, hstream]
        · rw [List.length_append] at hmax
          omega
        · exact (hnone' hfalse).imp_left fun hless => hless.trans_le hcount
    · refine ⟨true, reader, held, arrivals, ?_, h, rfl, Nat.le_max_right _ _, ?_, Nat.le_refl _,
        fun hfalse => by cases hfalse⟩
      · rw [FrameReader.fill, if_neg hmore]
      · simp only [true_iff]
        omega

end FrameReader

/-! ## One call -/

/-- The images of frames, one after the other. -/
def streamOf (frames : List Frame) : Bytes :=
  (frames.map fun frame => frame.header ++ frame.payload).flatten

theorem streamOf_cons (frame : Frame) (frames : List Frame) :
    streamOf (frame :: frames) = frame.header ++ frame.payload ++ streamOf frames := by
  simp [streamOf]

namespace FrameReader

/-- The reader holds a part of the first of the frames that are still to come. -/
def Reading (reader : FrameReader) (arrivals : List Bytes) (frames : List Frame) : Prop :=
  ∃ held, reader.Holds held ∧ held ++ arrivals.flatten = streamOf frames ∧
    held.length ≤ (streamOf (frames.take 1)).length

variable {reader : FrameReader} {bounds : Bounds} {arrivals : List Bytes}

/-- Where nothing is to come, a call times out. -/
theorem next_of_nil (h : reader.Reading arrivals []) :
    ∃ reader' arrivals', reader.next bounds (arrivals.map .ok) =
        (.ok {}, reader', arrivals'.map .ok) ∧
      reader'.Reading arrivals' [] ∧ arrivals'.count [] ≤ arrivals.count [] := by
  obtain ⟨held, hholds, hstream, -⟩ := h
  obtain ⟨filled, reader', held', arrivals', hfill, hholds', hstream', -, hfilled, hcount, -⟩ :=
    fill_spec (hholds.grow frameHeaderSize) (reader.le_length_grow _) arrivals
  have hempty := hstream'.trans hstream
  obtain rfl : held' = [] := (List.append_eq_nil_iff.mp hempty).1
  obtain rfl : filled = false := by
    cases filled with
    | false => rfl
    | true => exact absurd (hfilled.mp rfl) (by decide)
  refine ⟨reader', arrivals', ?_, ⟨[], hholds', hempty, Nat.le_refl _⟩, hcount⟩
  rw [next, hfill]

/-- Bytes that are held are the first ones of the frame, if they are not too many. -/
theorem held_start {frame : Frame} {frames : List Frame} {held : Bytes}
    (hstream : held ++ arrivals.flatten = streamOf (frame :: frames))
    (hshort : held.length ≤ (frame.header ++ frame.payload).length) :
    held <+: frame.header ++ frame.payload := by
  rw [streamOf_cons] at hstream
  exact List.prefix_of_prefix_length_le (hstream ▸ List.prefix_append _ _)
    (List.prefix_append _ _) hshort

/-- A frame is not left over when everything arrived. -/
theorem arrivals_ne_nil {frame : Frame} {frames : List Frame} {held : Bytes} {total : Nat}
    (hstream : held ++ arrivals.flatten = streamOf (frame :: frames)) (hfew : held.length < total)
    (htotal : total ≤ (frame.header ++ frame.payload).length) : arrivals ≠ [] := by
  rintro rfl
  have hlength := congrArg List.length hstream
  rw [streamOf_cons] at hlength
  simp only [List.flatten_nil, List.append_nil, List.length_append] at hlength htotal
  omega

/-- Where a frame is to come, a call times out or returns it. -/
theorem next_of_cons {frame : Frame} {frames : List Frame}
    (h : reader.Reading arrivals (frame :: frames))
    (hbounded : frame.payload.length ≤ bounds.maxFrameBytes)
    (hshort : frame.payload.length < 2 ^ 32) (hknown : knownMessageType frame.type = true) :
    (∃ reader' arrivals', reader.next bounds (arrivals.map .ok) =
        (.ok {}, reader', arrivals'.map .ok) ∧
      reader'.Reading arrivals' (frame :: frames) ∧ arrivals'.count [] < arrivals.count []) ∨
    ∃ reader' arrivals', reader.next bounds (arrivals.map .ok) =
        (.ok frame, reader', arrivals'.map .ok) ∧
      reader'.Reading arrivals' frames ∧ arrivals'.count [] ≤ arrivals.count [] := by
  obtain ⟨held, hholds, hstream, hwithin⟩ := h
  have himage : streamOf ((frame :: frames).take 1) = frame.header ++ frame.payload := by
    simp [streamOf]
  have htotal : (frame.header ++ frame.payload).length =
      frameHeaderSize + frame.payload.length := by
    rw [List.length_append, frame.length_header]
  rw [himage, htotal] at hwithin
  obtain ⟨filled, reader₁, held₁, arrivals₁, hfill₁, hholds₁, hstream₁, hmax₁, hfilled₁, hcount₁,
    hnone₁⟩ := fill_spec (hholds.grow frameHeaderSize) (reader.le_length_grow _) arrivals
  rw [hstream] at hstream₁
  have hwithin₁ : held₁.length ≤ (frame.header ++ frame.payload).length := by omega
  cases filled with
  | false =>
    left
    have hfew : held₁.length < frameHeaderSize := by simpa using hfilled₁
    have hsome := arrivals_ne_nil hstream₁ hfew (by omega)
    refine ⟨reader₁, arrivals₁, ?_, ⟨held₁, hholds₁, hstream₁, himage ▸ hwithin₁⟩,
      (hnone₁ rfl).resolve_right hsome⟩
    rw [next, hfill₁]
  | true =>
    -- the header is there, and with it the length of the payload
    have henough : frame.header.length ≤ held₁.length := by
      rw [frame.length_header]
      exact hfilled₁.mp rfl
    have hstart₁ := held_start hstream₁ hwithin₁
    obtain ⟨tail, htail⟩ := (List.prefix_of_prefix_length_le (List.prefix_append _ _) hstart₁
      henough).trans hholds₁.start
    have hword : readWord 4 reader₁.buffer 20 = frame.payload.length := by
      rw [← htail, Frame.header_append, HeaderBytes.readWord_length]
      simp only [Frame.headerBytes]
      rw [leValue_leBytes 4 _ (UInt32.toNat_lt _), UInt32.toNat_ofNat_of_lt' hshort]
    obtain ⟨filled, reader₂, held₂, arrivals₂, hfill₂, hholds₂, hstream₂, hmax₂, hfilled₂, hcount₂,
      hnone₂⟩ := fill_spec (hholds₁.grow (frameHeaderSize + frame.payload.length))
        (reader₁.le_length_grow _) arrivals₁
    rw [hstream₁] at hstream₂
    have hwithin₂ : held₂.length ≤ (frame.header ++ frame.payload).length := by omega
    have hnext : reader.next bounds (arrivals.map .ok) =
        reader₁.nextPayload bounds (frameHeaderSize + frame.payload.length)
          (arrivals₁.map .ok) := by
      rw [next, hfill₁]
      simp only [hword]
      exact if_neg (Nat.not_lt.mpr hbounded)
    rw [hnext, nextPayload, hfill₂]
    cases filled with
    | false =>
      left
      have hfew : held₂.length < frameHeaderSize + frame.payload.length := by simpa using hfilled₂
      have hsome := arrivals_ne_nil hstream₂ hfew (by omega)
      refine ⟨reader₂, arrivals₂, rfl, ⟨held₂, hholds₂, hstream₂, himage ▸ hwithin₂⟩, ?_⟩
      exact ((hnone₂ rfl).resolve_right hsome).trans_le hcount₁
    | true =>
      right
      have hlength : held₂.length = (frame.header ++ frame.payload).length := by
        have henough := hfilled₂.mp rfl
        omega
      obtain rfl : held₂ = frame.header ++ frame.payload :=
        (held_start hstream₂ hwithin₂).eq_of_length hlength
      have htake : reader₂.buffer.take (frameHeaderSize + frame.payload.length) =
          frame.header ++ frame.payload := by
        rw [← htotal]
        exact (List.prefix_iff_eq_take.mp hholds₂.start).symm
      refine ⟨{ reader₂ with buffered := 0 }, arrivals₂, ?_, ⟨[], ⟨rfl, List.nil_prefix⟩, ?_, ?_⟩,
        hcount₂.trans hcount₁⟩
      · simp only [htake]
        rw [decodeFrame_eq_ok.mpr ⟨hknown, hbounded, hshort, rfl⟩]
      · rw [streamOf_cons] at hstream₂
        exact List.append_cancel_left hstream₂
      · exact Nat.zero_le _

/-! ## Any number of calls -/

theorem delivered_timeout (results : List (Result Frame)) :
    delivered (.ok {} :: results) = delivered results := rfl

theorem delivered_cons {frame : Frame} (h : knownMessageType frame.type = true)
    (results : List (Result Frame)) :
    delivered (.ok frame :: results) = frame :: delivered results := by
  simp only [delivered, List.filterMap_cons, Except.toOption]
  exact List.filter_cons_of_pos (type_ne_invalid h)

/-- The calls return the frames from the front. A call that returns none uses up a timeout. -/
theorem calls_spec {frames : List Frame}
    (hframes : ∀ frame ∈ frames, knownMessageType frame.type = true ∧
      frame.payload.length ≤ bounds.maxFrameBytes ∧ frame.payload.length < 2 ^ 32)
    (h : reader.Reading arrivals frames) (n : Nat) :
    ∃ results reader' arrivals' rest,
      reader.calls bounds n (arrivals.map .ok) = (results, reader', arrivals'.map .ok) ∧
      (∀ result ∈ results, ∃ frame, result = .ok frame) ∧ delivered results ++ rest = frames ∧
      reader'.Reading arrivals' rest ∧ (frames.length + arrivals.count [] ≤ n → rest = []) := by
  induction n generalizing reader arrivals frames with
  | zero =>
    refine ⟨[], reader, arrivals, frames, rfl, by simp, rfl, h, fun henough => ?_⟩
    exact List.eq_nil_of_length_eq_zero (by omega)
  | succ n ih =>
    cases frames with
    | nil =>
      obtain ⟨reader₁, arrivals₁, hnext, hreading, -⟩ := @next_of_nil _ bounds _ h
      obtain ⟨results, reader', arrivals', rest, hcalls, hok, hdelivered, hrest, -⟩ :=
        ih hframes hreading
      refine ⟨.ok {} :: results, reader', arrivals', rest, ?_, ?_, ?_, hrest, fun _ => ?_⟩
      · simp only [calls, hnext, hcalls]
      · simpa using hok
      · rw [delivered_timeout, hdelivered]
      · exact (List.append_eq_nil_iff.mp hdelivered).2
    | cons frame frames =>
      obtain ⟨hknown, hbounded, hshort⟩ := hframes frame List.mem_cons_self
      rcases next_of_cons h hbounded hshort hknown with
        ⟨reader₁, arrivals₁, hnext, hreading, hcount⟩ | ⟨reader₁, arrivals₁, hnext, hreading, hcount⟩
      · obtain ⟨results, reader', arrivals', rest, hcalls, hok, hdelivered, hrest, hall⟩ :=
          ih hframes hreading
        refine ⟨.ok {} :: results, reader', arrivals', rest, ?_, ?_, ?_, hrest, fun henough => ?_⟩
        · simp only [calls, hnext, hcalls]
        · simpa using hok
        · rw [delivered_timeout, hdelivered]
        · exact hall (by omega)
      · obtain ⟨results, reader', arrivals', rest, hcalls, hok, hdelivered, hrest, hall⟩ :=
          ih (fun f hf => hframes f (List.mem_cons_of_mem frame hf)) hreading
        refine ⟨.ok frame :: results, reader', arrivals', rest, ?_, ?_, ?_, hrest, fun henough => ?_⟩
        · simp only [calls, hnext, hcalls]
        · simpa using hok
        · rw [delivered_cons hknown, List.cons_append, hdelivered]
        · rw [List.length_cons] at henough
          exact hall (by omega)

end FrameReader

/-- The stream of encoded frames is that of their images. -/
theorem streamOf_eq {bounds : Bounds} {frames : List Frame} {images : List Bytes}
    (h : List.Forall₂ (fun frame image => encodeFrame frame bounds = .ok image) frames images) :
    images.flatten = streamOf frames ∧
      ∀ frame ∈ frames, ∃ image, encodeFrame frame bounds = .ok image := by
  induction h with
  | nil => simp [streamOf]
  | @cons frame image frames images himage _ ih =>
    refine ⟨?_, List.forall_mem_cons.mpr ⟨⟨image, himage⟩, ih.2⟩⟩
    obtain ⟨-, -, rfl⟩ := encodeFrame_eq_ok.mp himage
    rw [List.flatten_cons, ih.1, streamOf_cons]

/-- However the images of frames arrive, the calls of `next` return the frames in order and nothing
    else; after one call for every frame and every timeout they have returned all of them, and the
    reader holds nothing. -/
theorem frames_reassembled {bounds : Bounds} (hbounds : bounds.validate = .ok ())
    {frames : List Frame} {images : List Bytes}
    (hencode : List.Forall₂ (fun frame image => encodeFrame frame bounds = .ok image) frames images)
    (arrivals : List Bytes) (harrivals : arrivals.flatten = images.flatten) (n : Nat) :
    ∃ results reader socket,
      FrameReader.calls bounds n {} (arrivals.map .ok) = (results, reader, socket) ∧
      (∀ result ∈ results, ∃ frame, result = .ok frame) ∧ delivered results <+: frames ∧
      (frames.length + arrivals.count [] ≤ n →
        delivered results = frames ∧ reader.buffered = 0 ∧ ∀ read ∈ socket, read = .ok []) := by
  obtain ⟨hstream, hencoded⟩ := streamOf_eq hencode
  have hframes : ∀ frame ∈ frames, knownMessageType frame.type = true ∧
      frame.payload.length ≤ bounds.maxFrameBytes ∧ frame.payload.length < 2 ^ 32 := by
    intro frame hmem
    obtain ⟨image, himage⟩ := hencoded frame hmem
    obtain ⟨hknown, hbounded, -⟩ := encodeFrame_eq_ok.mp himage
    exact ⟨hknown, hbounded, length_payload_lt hbounds himage⟩
  have hreading : FrameReader.Reading {} arrivals frames :=
    ⟨[], ⟨rfl, List.nil_prefix⟩, harrivals.trans hstream, Nat.zero_le _⟩
  obtain ⟨results, reader, arrivals', rest, hcalls, hok, hdelivered, hrest, hall⟩ :=
    FrameReader.calls_spec hframes hreading n
  refine ⟨results, reader, _, hcalls, hok, ⟨rest, hdelivered⟩, fun henough => ?_⟩
  obtain rfl := hall henough
  obtain ⟨held, hholds, hempty, -⟩ := hrest
  obtain ⟨rfl, hflatten⟩ := List.append_eq_nil_iff.mp hempty
  refine ⟨by rw [← hdelivered, List.append_nil], hholds.buffered, ?_⟩
  intro read hread
  obtain ⟨bytes, hbytes, rfl⟩ := List.mem_map.mp hread
  rw [List.flatten_eq_nil_iff.mp hflatten bytes hbytes]

/-- Two heartbeats that arrive in three parts and after a timeout. -/
theorem frames_reassembled_heartbeats :
    ∃ results reader socket,
      FrameReader.calls {} 3 {} ([Frame.heartbeat.header.take 5, [],
        Frame.heartbeat.header.drop 5 ++ Frame.heartbeat.header.take 1,
        Frame.heartbeat.header.drop 1].map .ok) = (results, reader, socket) ∧
      delivered results = [Frame.heartbeat, Frame.heartbeat] := by
  have hencode : encodeFrame Frame.heartbeat {} = .ok Frame.heartbeat.header := by decide +kernel
  obtain ⟨results, reader, socket, hcalls, -, -, hall⟩ :=
    frames_reassembled (by decide) (.cons hencode (.cons hencode .nil))
      [Frame.heartbeat.header.take 5, [],
        Frame.heartbeat.header.drop 5 ++ Frame.heartbeat.header.take 1,
        Frame.heartbeat.header.drop 1] (by decide +kernel) 3
  exact ⟨results, reader, socket, hcalls, (hall (by decide +kernel)).1⟩

end FederationObservatory
