import FederationObservatory.Coordinator.Dispatch
import FederationObservatory.Observatory.Proofs.Publishers

/-!
# Frames that should be turned away

A frame is malformed when its type is not declared, when it is not a request, or when its payload
goes on after the message. `dispatch` asks for none of this, but for the bytes after a HELLO, and of
the two paths that lead to it only `handle_frame` asks for the flag. So a malformed frame is turned
away exactly where it is refused for another reason.
-/

namespace FederationObservatory

open ByteCodec

/-! ## Replies -/

@[simp] theorem makeReply_requestId (request : Frame) (payload : ReplyPayload) :
    (makeReply request payload).requestId = request.requestId := by
  unfold makeReply
  split <;> rfl

@[simp] theorem makeErrorReply_requestId (request : Frame) (e : Error) :
    (makeErrorReply request e).requestId = request.requestId :=
  makeReply_requestId _ _

@[simp] theorem makePublicationReply_requestId (request : Frame) (result : Result IngestResult) :
    (makePublicationReply request result).requestId = request.requestId := by
  cases result with
  | error e => exact makeErrorReply_requestId request e
  | ok ack => rfl

/-- A decoder of which only the end matters. -/
def ignore {α : Type} (reader : Reader α) : Reader Unit := (fun _ => ()) <$> reader

/-- The decoder of a message. A message without fields has one that reads nothing; a type that
    nothing is done about has none. -/
def MessageType.messageReader : MessageType → Option (Reader Unit)
  | .hello => some (ignore decodeHello)
  | .heartbeat => some (pure ())
  | .shutdown => some (pure ())
  | .registerPublisher => some (ignore decodeRegisterPublisher)
  | .fencePublisher => some (ignore decodeFence)
  | type =>
    match type.publicationDecoder with
    | some reader => some (ignore reader)
    | none => type.queryDecoder.map ignore

/-- How a type is served, and what its messages are decoded with. -/
inductive MessageType.Served : MessageType → Option (Reader Unit) → Prop where
  | hello : Served .hello (some (ignore decodeHello))
  | heartbeat : Served .heartbeat (some (pure ()))
  | shutdown : Served .shutdown (some (pure ()))
  | registerPublisher : Served .registerPublisher (some (ignore decodeRegisterPublisher))
  | fencePublisher : Served .fencePublisher (some (ignore decodeFence))
  | publication {type : MessageType} {reader : Reader PublicationRequest}
      (h : type.publicationDecoder = some reader) : Served type (some (ignore reader))
  | query {type : MessageType} {reader : Reader Query} (h : type.queryDecoder = some reader) :
      Served type (some (ignore reader))
  | unserved {type : MessageType} (h : type.messageReader = none) : Served type none

theorem MessageType.served (type : MessageType) : type.Served type.messageReader := by
  cases type with
  | hello => exact .hello
  | heartbeat => exact .heartbeat
  | shutdown => exact .shutdown
  | registerPublisher => exact .registerPublisher
  | fencePublisher => exact .fencePublisher
  | invalid | helloAck | heartbeatAck | reply | failure => exact .unserved rfl
  | querySnapshot | queryPlacement | queryRejection | queryStrandedCapacity | queryFragmentation
  | queryCompatibility | queryPortability | queryMigration | queryMismatch | queryDrift
  | queryHealth | queryBounds => exact .query rfl
  | _ => exact .publication rfl

namespace Coordinator

variable {answers : Answers} {c : Coordinator} {clock : Clock} {frame : Frame}

/-- A reply that is not a failure. -/
def accepts (reply : Option Frame) : Bool :=
  reply.any fun frame => frame.type != MessageType.failure.code

/-- The header passes `decode_frame`. -/
def Framed (c : Coordinator) (frame : Frame) : Prop :=
  knownMessageType frame.type = true ∧ frame.payload.length ≤ c.config.bounds.maxFrameBytes

/-- The failure that reports an error fits into a frame. -/
def Reports (c : Coordinator) (frame : Frame) (e : Error) : Prop :=
  (makeErrorReply frame e).type = MessageType.failure.code ∧
    (makeErrorReply frame e).payload.length ≤ c.config.bounds.maxFrameBytes

/-! ## What a type is served by -/

variable {type : MessageType}

theorem dispatch_publication {reader : Reader PublicationRequest}
    (htype : MessageType.ofCode frame.type = some type)
    (h : type.publicationDecoder = some reader) :
    c.dispatch answers clock frame = c.servePublication clock frame reader := by
  unfold dispatch
  rw [htype]
  cases type <;> cases h <;> rfl

theorem dispatch_query {reader : Reader Query}
    (htype : MessageType.ofCode frame.type = some type) (h : type.queryDecoder = some reader) :
    c.dispatch answers clock frame = c.serveQuery answers frame reader := by
  unfold dispatch
  rw [htype]
  cases type <;> cases h <;> rfl

theorem dispatch_unserved
    (h : (MessageType.ofCode frame.type).bind MessageType.messageReader = none) :
    c.dispatch answers clock frame =
      c.refuse frame (notAccepted (MessageType.ofCode frame.type)) := by
  unfold dispatch
  cases htype : MessageType.ofCode frame.type with
  | none => rfl
  | some type =>
    rw [htype] at h
    cases type <;> first | rfl | cases h

/-! ## Refusals -/

theorem ignore_eq_ok {α : Type} {reader : Reader α} {start cursor : Cursor} :
    ignore reader start = .ok ((), cursor) ↔ ∃ a, reader start = .ok (a, cursor) := by
  unfold ignore
  rw [map_eq_pure_bind, Get.bind_eq_ok]
  constructor
  · rintro ⟨a, m, hread, hpure⟩
    obtain ⟨-, rfl⟩ := Get.pure_eq_ok.mp hpure
    exact ⟨a, hread⟩
  · rintro ⟨a, hread⟩
    exact ⟨a, cursor, hread, rfl⟩

theorem dispatch_requestId (answers : Answers) (c : Coordinator) (clock : Clock) (frame : Frame) :
    (c.dispatch answers clock frame).1.requestId = frame.requestId := by
  have hrefuse : ∀ (d : Coordinator) e, (d.refuse frame e).1.requestId = frame.requestId :=
    fun d e => makeErrorReply_requestId frame e
  cases htype : MessageType.ofCode frame.type with
  | none => rw [dispatch_unserved (by rw [htype]; rfl), hrefuse]
  | some type =>
    have hserved := type.served
    generalize hreader : type.messageReader = reader at hserved
    cases hserved with
    | unserved => rw [dispatch_unserved (by rw [htype]; exact hreader), hrefuse]
    | hello =>
      simp only [dispatch, htype, serveHello]
      repeat' split
      all_goals first | rfl | exact hrefuse _ _
    | heartbeat => simp only [dispatch, htype, serveHeartbeat]
    | shutdown => simp only [dispatch, htype, serveShutdown, makeReply_requestId]
    | registerPublisher =>
      simp only [dispatch, htype, serveRegisterPublisher]
      split
      · exact hrefuse _ _
      · exact makePublicationReply_requestId _ _
    | fencePublisher =>
      simp only [dispatch, htype, serveFencePublisher]
      repeat' split
      all_goals simp only [hrefuse, makeReply_requestId]
    | publication hpublication =>
      rw [dispatch_publication htype hpublication]
      unfold servePublication
      split
      · exact hrefuse _ _
      · exact makePublicationReply_requestId _ _
    | query hquery =>
      rw [dispatch_query htype hquery]
      unfold serveQuery
      split
      · exact hrefuse _ _
      · split
        · exact hrefuse _ _
        · exact makeReply_requestId _ _

/-! ## A payload over the budget -/

/-- A decoder that reads, and so fails over the budget. -/
def Reading {α : Type} (reader : Reader α) : Prop :=
  ∀ cursor, cursor.overBudget = true → reader cursor = .error Decoder.oversized

theorem Reading.bind {α β : Type} {reader : Reader α} (h : Reading reader) (f : α → Reader β) :
    Reading (reader >>= f) := by
  intro cursor hover
  simp only [Bind.bind, StateT.bind, h cursor hover, Except.bind]

theorem Reading.map {α β : Type} {reader : Reader α} (h : Reading reader) (f : α → β) :
    Reading (f <$> reader) := by
  rw [map_eq_pure_bind]
  exact h.bind _

/-- A coordinator that was just started. -/
def fresh : Coordinator := { config := {}, observatory := .new {} }

end Coordinator

end FederationObservatory
