import FederationObservatory.Foundation.Codec
import FederationObservatory.Foundation.Evidence

/-!
# Field codecs

The helpers at the top of `records_codec.cpp`: identifiers, generations, enumerators, text
vectors, sorted vectors and counted loops. `Framed p d` says that the reader `d` frames the writer
`p`; it is a class, so that the framing of a record follows from that of its fields.
-/

namespace FederationObservatory

open ByteCodec Sorting

/-- `kCollectionLimit`. -/
def collectionLimit : Nat := 4194304

/-! ## Writers -/

def encId {tag : IdTag} (id : StrongId tag) : Writer := Encoder.str id.value

def encGen {tag : GenerationTag} (g : Generation tag) : Writer := Encoder.u64 g.value

def encSequence (q : Sequence) : Writer := Encoder.u64 q.value

def encEnum {E : Type} [WireEnum E] (e : E) : Writer := Encoder.u8 (WireEnum.code e)

/-- A count and then the elements. -/
def encCounted {α : Type} (enc : α → Writer) (values : List α) : Writer :=
  Encoder.size values.length ++ values.flatMap enc

/-- `enc_text_vector`: sorted, without repetitions. -/
def encTextVector (values : List Text) : Writer :=
  encCounted Encoder.str (unique (stableSort less values))

/-- `enc_vector`: sorted by the element's `operator<`. -/
def encVector {α : Type} (lt : α → α → Bool) (enc : α → Writer) (values : List α) : Writer :=
  encCounted enc (stableSort lt values)

/-- A vector of identifiers. -/
def encIds {tag : IdTag} (ids : List (StrongId tag)) : Writer := encVector less encId ids

/-! ## Readers -/

/-- `dec_id`. -/
def decId (tag : IdTag) : Reader (StrongId tag) := do
  let text ← Decoder.str
  Get.failIf (!text.isEmpty && !isValidIdentifier text)
    ⟨.protocolViolation, .ofString "encoded identifier is not valid", .ofString tag.name⟩
  pure ⟨text⟩

def decGen (tag : GenerationTag) : Reader (Generation tag) := Generation.mk <$> Decoder.u64

def decSequence : Reader Sequence := Sequence.mk <$> Decoder.u64

/-- `dec_enum`. -/
def decEnum (E : Type) [WireEnum E] (what : String) : Reader E := do
  let value ← Decoder.u8
  match (WireEnum.enumerators : List E)[value.toNat]? with
  | some e => pure e
  | none => Get.fail ⟨.protocolViolation,
      .ofString "encoded " ++ .ofString what ++ .ofString " is out of range", []⟩

/-- A count, its bound, and a loop over an accumulator. -/
def decCounted {σ : Type} (limit : Nat) (tooMany : String) (body : σ → Reader σ) (init : σ) :
    Reader σ := do
  let count ← Decoder.u32
  Get.failIf (decide (limit < count.toNat)) ⟨.boundExceeded, .ofString tooMany, []⟩
  Get.loop count.toNat body init

/-- The body of a loop that appends. -/
def pushBack {α : Type} (dec : Reader α) (values : List α) : Reader (List α) := do
  let value ← dec
  pure (values ++ [value])

/-- `dec_vector`. -/
def decVector {α : Type} (limit : Nat) (dec : Reader α) : Reader (List α) :=
  decCounted limit "encoded collection exceeds the permitted size" (pushBack dec) []

/-- A vector of identifiers. -/
def decIds (tag : IdTag) : Reader (List (StrongId tag)) := decVector collectionLimit (decId tag)

/-- `dec_text_vector`. -/
def decTextVector (limit : Nat) : Reader (List Text) := do
  let values ← decCounted limit "encoded string collection exceeds the permitted size"
    (pushBack Decoder.str) []
  let values := stableSort less values
  Get.failIf (adjacentFind values)
    ⟨.protocolViolation, .ofString "encoded string collection contains duplicates", []⟩
  pure values

/-- The check every record decoder ends with. -/
def decChecked (message : String) (status : Status) : Reader Unit :=
  Get.ofExcept (status.mapError fun e => ⟨.protocolViolation, .ofString message, e.message⟩)

/-! ## Framing -/

/-- The reader stops where the writer's image ends. -/
class Framed {α : Type} (p : Writer) (d : Reader α) : Prop where
  frames : Frames p d fun _ => True

/-- The writer's image is never empty. -/
class NonemptyImage (p : Writer) : Prop where
  nonempty : Put.Nonempty p

instance (v : UInt8) : NonemptyImage (Encoder.u8 v) := ⟨Encoder.nonempty_word 1 _ (by decide)⟩
instance (v : UInt16) : NonemptyImage (Encoder.u16 v) := ⟨Encoder.nonempty_word 2 _ (by decide)⟩
instance (v : Text) : NonemptyImage (Encoder.str v) := ⟨Encoder.nonempty_str v⟩

instance {tag : IdTag} (id : StrongId tag) : NonemptyImage (encId id) :=
  inferInstanceAs (NonemptyImage (Encoder.str id.value))

instance {tag : GenerationTag} (g : Generation tag) : NonemptyImage (encGen g) :=
  ⟨Encoder.nonempty_word 8 _ (by decide)⟩

instance {E : Type} [WireEnum E] (e : E) : NonemptyImage (encEnum e) :=
  inferInstanceAs (NonemptyImage (Encoder.u8 _))

instance (p : Writer) (ps : List Writer) [NonemptyImage p] : NonemptyImage (Put.seq (p :: ps)) :=
  ⟨NonemptyImage.nonempty.append_left _⟩

theorem Framed.of {α : Type} {p : Writer} {d : Reader α} {Q : α → Prop} (h : Frames p d Q) :
    Framed p d := ⟨h.mono fun _ _ => trivial⟩

instance (v : UInt8) : Framed (Encoder.u8 v) Decoder.u8 := .of (Decoder.frames_u8 v)
instance (v : UInt16) : Framed (Encoder.u16 v) Decoder.u16 := .of (Decoder.frames_u16 v)
instance (v : UInt32) : Framed (Encoder.u32 v) Decoder.u32 := .of (Decoder.frames_u32 v)
instance (v : UInt64) : Framed (Encoder.u64 v) Decoder.u64 := .of (Decoder.frames_u64 v)
instance (v : Int64) : Framed (Encoder.i64 v) Decoder.i64 := .of (Decoder.frames_i64 v)
instance (v : Double) : Framed (Encoder.f64 v) Decoder.f64 := .of (Decoder.frames_f64 v)
instance (v : Bool) : Framed (Encoder.boolean v) Decoder.boolean := .of (Decoder.frames_boolean v)
instance (v : Text) : Framed (Encoder.str v) Decoder.str := .of (Decoder.frames_str v)

theorem frames_id {tag : IdTag} (id : StrongId tag) : Frames (encId id) (decId tag) (· = id) := by
  rw [← List.append_nil (encId id)]
  refine (Decoder.frames_str id.value).bind ?_
  rintro text rfl
  exact Frames.failIf fun _ => Frames.pure rfl

theorem frames_gen {tag : GenerationTag} (g : Generation tag) :
    Frames (encGen g) (decGen tag) (· = g) := by
  refine Decoder.frames_map _ (Decoder.frames_u64 g.value) ?_
  rintro v rfl
  rfl

theorem frames_sequence (q : Sequence) : Frames (encSequence q) decSequence (· = q) := by
  refine Decoder.frames_map _ (Decoder.frames_u64 q.value) ?_
  rintro v rfl
  rfl

theorem frames_enum {E : Type} [WireEnum E] (e : E) (what : String) :
    Frames (encEnum e) (decEnum E what) (· = e) := by
  rw [← List.append_nil (encEnum e)]
  refine (Decoder.frames_u8 _).bind ?_
  rintro v rfl
  simp only [WireEnum.getElem?_code]
  exact Frames.pure rfl

instance {tag : IdTag} (id : StrongId tag) : Framed (encId id) (decId tag) := .of (frames_id id)

instance {tag : GenerationTag} (g : Generation tag) : Framed (encGen g) (decGen tag) :=
  .of (frames_gen g)

instance (q : Sequence) : Framed (encSequence q) decSequence := .of (frames_sequence q)

instance {E : Type} [WireEnum E] (e : E) (what : String) : Framed (encEnum e) (decEnum E what) :=
  .of (frames_enum e what)

/-- A counted loop frames a counted list. The count fits 32 bits because every element takes at
    least one byte of an image below 4 GiB. -/
theorem frames_countedLoop {β σ : Type} {enc : β → Writer} {body : σ → Reader σ}
    {P : List β → σ → Prop} (limit : Nat) (tooMany : UInt32 → Error) (xs : List β) (init : σ)
    (hne : ∀ x, Put.Nonempty (enc x))
    (hbody : ∀ x xs acc, P (x :: xs) acc → Frames (enc x) (body acc) (P xs)) (h : P xs init) :
    Frames (encCounted enc xs)
      (do
        let count ← Decoder.u32
        Get.failIf (decide (limit < count.toNat)) (tooMany count)
        Get.loop count.toNat body init)
      (P []) := by
  intro bs hbs hlen
  obtain ⟨bcount, bxs, hcount, hxs, rfl⟩ := Put.image_append_eq_ok.mp hbs
  have hle : xs.length ≤ bxs.length := Put.length_le_of_flatMap xs (fun x _ => hne x) hxs
  have hfit : xs.length < 2 ^ 32 := by
    rw [List.length_append] at hlen
    omega
  refine Frames.bind (Decoder.frames_u32 _) ?_ _ hbs hlen
  rintro count rfl
  refine Frames.failIf fun _ => ?_
  rw [UInt32.toNat_ofNat_of_lt' hfit]
  exact Frames.loop hbody xs init h

instance {β σ : Type} (enc : β → Writer) (body : σ → Reader σ) (limit : Nat) (tooMany : String)
    (xs : List β) (init : σ) [hne : ∀ x, NonemptyImage (enc x)]
    [hbody : ∀ x acc, Framed (enc x) (body acc)] :
    Framed (encCounted enc xs) (decCounted limit tooMany body init) :=
  .of (frames_countedLoop (P := fun _ _ => True) limit _ xs init (fun x => (hne x).nonempty)
    (fun x _ acc _ => (hbody x acc).frames) trivial)

instance {α : Type} (p : Writer) (dec : Reader α) (values : List α) [h : Framed p dec] :
    Framed p (pushBack dec values) := by
  rw [← List.append_nil p]
  exact ⟨h.frames.bind fun _ _ => Frames.pure trivial⟩

instance {α : Type} (lt : α → α → Bool) (enc : α → Writer) (dec : Reader α) (limit : Nat)
    (values : List α) [∀ x, NonemptyImage (enc x)] [∀ x, Framed (enc x) dec] :
    Framed (encVector lt enc values) (decVector limit dec) :=
  inferInstanceAs (Framed (encCounted enc _) (decCounted limit _ (pushBack dec) []))

instance {tag : IdTag} (ids : List (StrongId tag)) : Framed (encIds ids) (decIds tag) :=
  inferInstanceAs (Framed (encVector _ _ _) (decVector _ _))

instance (values : List Text) (limit : Nat) :
    Framed (encTextVector values) (decTextVector limit) := by
  refine ⟨?_⟩
  rw [← List.append_nil (encTextVector values)]
  refine Frames.bind (P := fun _ => True) ?_ fun _ _ => Frames.failIf fun _ => Frames.pure trivial
  have : Framed (encCounted Encoder.str (unique (stableSort less values)))
    (decCounted limit "encoded string collection exceeds the permitted size"
      (pushBack Decoder.str) []) := inferInstance
  exact this.frames

/-- The last step of a record decoder. -/
theorem frames_checked {α : Type} (message : String) (status : Status) (value : α) :
    Frames (Put.seq []) (decChecked message status >>= fun _ => pure value) fun _ => True :=
  Frames.ofExcept fun _ _ => Frames.pure trivial

/-! ## Reading -/

/-- The reader reads the writer's image as `a` when `P` holds, and fails otherwise. -/
class Readable {α : Type} (p : Writer) (d : Reader α) (P : outParam Prop) (a : outParam α) :
    Prop where
  reads : Reads p d P a

instance (v : UInt8) : Readable (Encoder.u8 v) Decoder.u8 True v := ⟨Decoder.reads_u8 v⟩
instance (v : UInt16) : Readable (Encoder.u16 v) Decoder.u16 True v := ⟨Decoder.reads_u16 v⟩
instance (v : UInt32) : Readable (Encoder.u32 v) Decoder.u32 True v := ⟨Decoder.reads_u32 v⟩
instance (v : UInt64) : Readable (Encoder.u64 v) Decoder.u64 True v := ⟨Decoder.reads_u64 v⟩
instance (v : Int64) : Readable (Encoder.i64 v) Decoder.i64 True v := ⟨Decoder.reads_i64 v⟩
instance (v : Double) : Readable (Encoder.f64 v) Decoder.f64 True v := ⟨Decoder.reads_f64 v⟩
instance (v : Bool) : Readable (Encoder.boolean v) Decoder.boolean True v := ⟨Decoder.reads_boolean v⟩
instance (v : Text) : Readable (Encoder.str v) Decoder.str True v := ⟨Decoder.reads_str v⟩

/-- What `dec_id` accepts: an empty identifier, or a valid one. -/
def StrongId.Storable {tag : IdTag} (id : StrongId tag) : Prop :=
  (!id.value.isEmpty && !isValidIdentifier id.value) = false
  deriving Decidable

instance {tag : IdTag} (id : StrongId tag) : Readable (encId id) (decId tag) id.Storable id := by
  refine ⟨?_⟩
  rw [← List.append_nil (encId id)]
  exact ((Decoder.reads_str id.value).bind (Reads.failIf (Reads.pure id))).congr
    (by simp [StrongId.Storable])

instance {tag : GenerationTag} (g : Generation tag) : Readable (encGen g) (decGen tag) True g :=
  ⟨(Decoder.reads_u64 g.value).map Generation.mk⟩

instance (q : Sequence) : Readable (encSequence q) decSequence True q :=
  ⟨(Decoder.reads_u64 q.value).map Sequence.mk⟩

instance {E : Type} [WireEnum E] (e : E) (what : String) :
    Readable (encEnum e) (decEnum E what) True e := by
  refine ⟨?_⟩
  rw [← List.append_nil (encEnum e)]
  refine ((Decoder.reads_u8 (WireEnum.code e)).bind (Q := True) ?_).congr (by simp)
  simp only [WireEnum.getElem?_code]
  exact Reads.pure e

/-- A count and the loop it announces. The count has to fit 32 bits, as it does in an image below
    4 GiB, of which an element takes at least one byte. -/
theorem reads_fittingLoop {β σ : Type} {enc : β → Writer} {body : σ → Reader σ} {P : Prop} {a : σ}
    (limit : Nat) (tooMany : UInt32 → Error) {xs : List β} {init : σ}
    (hne : ∀ x, Put.Nonempty (enc x))
    (h : Reads (xs.flatMap enc) (Get.loop xs.length body init) P a) :
    Reads (encCounted enc xs)
      (do
        let count ← Decoder.u32
        Get.failIf (decide (limit < count.toNat)) (tooMany count)
        Get.loop count.toNat body init)
      ((xs.length ≤ limit ∧ xs.length < 2 ^ 32) ∧ P) a := by
  by_cases hfit : xs.length < 2 ^ 32
  · have hn : (UInt32.ofNat xs.length).toNat = xs.length := UInt32.toNat_ofNat_of_lt' hfit
    refine (Reads.bind (Decoder.reads_u32 _) (Reads.failIf (Q := P) (b := a) ?_)).congr ?_
    · rw [hn]
      exact h
    · rw [hn, decide_eq_false_iff_not, Nat.not_lt, true_and, and_iff_left hfit]
  · intro bs hbs rest
    obtain ⟨bcount, bxs, hcount, hxs, rfl⟩ := Put.image_append_eq_ok.mp hbs
    have hle : xs.length ≤ bxs.length := Put.length_le_of_flatMap xs (fun x _ => hne x) hxs
    refine ⟨fun hP => absurd hP.1.2 hfit, fun hlen => ?_⟩
    rw [List.length_append] at hlen
    omega

theorem reads_countedLoop {β σ : Type} {enc : β → Writer} {body : σ → Reader σ} {P : Prop} {a : σ}
    {limit : Nat} (hlimit : limit < 2 ^ 32) (tooMany : UInt32 → Error) {xs : List β} {init : σ}
    (hne : ∀ x, Put.Nonempty (enc x))
    (h : Reads (xs.flatMap enc) (Get.loop xs.length body init) P a) :
    Reads (encCounted enc xs)
      (do
        let count ← Decoder.u32
        Get.failIf (decide (limit < count.toNat)) (tooMany count)
        Get.loop count.toNat body init)
      (xs.length ≤ limit ∧ P) a :=
  (reads_fittingLoop limit tooMany hne h).congr
    (and_congr_left fun _ => ⟨And.left, fun hle => ⟨hle, Nat.lt_of_le_of_lt hle hlimit⟩⟩)

/-- A counted list. -/
theorem reads_counted {α β : Type} {enc : β → Writer} {dec : Reader α} {P : β → Prop} {g : β → α}
    {limit : Nat} (hlimit : limit < 2 ^ 32) (tooMany : String) (xs : List β)
    (hne : ∀ x, Put.Nonempty (enc x)) (hdec : ∀ x, Reads (enc x) dec (P x) (g x)) :
    Reads (encCounted enc xs) (decCounted limit tooMany (pushBack dec) [])
      (xs.length ≤ limit ∧ ∀ x ∈ xs, P x) (xs.map g) :=
  reads_countedLoop hlimit _ hne (Reads.loop_append hdec xs [])

/-- A sorted vector. -/
theorem reads_vector {α β : Type} {enc : β → Writer} {dec : Reader α} {P : β → Prop} {g : β → α}
    (lt : β → β → Bool) {limit : Nat} (hlimit : limit < 2 ^ 32) (xs : List β)
    (hne : ∀ x, Put.Nonempty (enc x)) (hdec : ∀ x, Reads (enc x) dec (P x) (g x)) :
    Reads (encVector lt enc xs) (decVector limit dec)
      (xs.length ≤ limit ∧ ∀ x ∈ xs, P x) ((stableSort lt xs).map g) := by
  refine (reads_counted hlimit _ (stableSort lt xs) hne hdec).congr ?_
  simp only [length_stableSort, (perm_stableSort lt xs).mem_iff]

/-- What `dec_vector` accepts of identifiers. -/
def StorableIds {tag : IdTag} (ids : List (StrongId tag)) : Prop :=
  ids.length ≤ collectionLimit ∧ ∀ id ∈ ids, id.Storable
  deriving Decidable

instance {tag : IdTag} (ids : List (StrongId tag)) :
    Readable (encIds ids) (decIds tag) (StorableIds ids) (stableSort less ids) := by
  have hlimit : collectionLimit < 2 ^ 32 := by decide
  have h := reads_vector less hlimit ids (fun id => Encoder.nonempty_str id.value)
    (fun id => (Readable.reads : Reads (encId id) (decId tag) id.Storable id))
  rw [List.map_id'] at h
  exact ⟨h⟩

theorem reads_textVector {limit : Nat} (hlimit : limit < 2 ^ 32) (values : List Text) :
    Reads (encTextVector values) (decTextVector limit)
      ((unique (stableSort less values)).length ≤ limit) (unique (stableSort less values)) := by
  have hread := reads_counted hlimit "encoded string collection exceeds the permitted size"
    (unique (stableSort less values)) Encoder.nonempty_str Decoder.reads_str
  rw [List.map_id'] at hread
  rw [← List.append_nil (encTextVector values)]
  refine (hread.bind (Reads.failIf (b := unique (stableSort less values)) (Q := True) ?_)).congr ?_
  · rw [stableSort_unique]
    exact Reads.pure _
  · rw [stableSort_unique, adjacentFind_unique]
    simp

instance (values : List Text) :
    Readable (encTextVector values) (decTextVector maxValueSetEntries)
      ((unique (stableSort less values)).length ≤ maxValueSetEntries)
      (unique (stableSort less values)) :=
  ⟨reads_textVector (by decide) values⟩

instance (values : List Text) :
    Readable (encTextVector values) (decTextVector 64)
      ((unique (stableSort less values)).length ≤ 64) (unique (stableSort less values)) :=
  ⟨reads_textVector (by decide) values⟩

/-- Read a value and hand it to a fallible operation. -/
theorem reads_then {α β : Type} {p : Writer} {dec : Reader α} {P : Prop} {a : α} {b : β}
    {f : α → Result β} (h : Reads p dec P a) (hb : ∀ b', f a = .ok b' → b' = b) :
    Reads p (do let value ← dec; Get.ofExcept (f value)) (P ∧ f a = .ok b) b := by
  rw [← List.append_nil p]
  have hcheck := (Reads.ofExcept (p := []) hb (Reads.pure b)).congr (Q := f a = .ok b) (by simp)
  rw [bind_pure] at hcheck
  exact h.bind hcheck

/-- The last step of a record decoder. -/
theorem reads_checked {α : Type} (message : String) (status : Status) (value : α) :
    Reads (Put.seq []) (decChecked message status >>= fun _ => pure value) (status = .ok ())
      value := by
  refine (Reads.ofExcept (a := ()) (fun _ _ => rfl) (Reads.pure value)).congr ?_
  cases status with
  | error e => simp [Except.mapError]
  | ok u => simp [Except.mapError]

end FederationObservatory
