import FederationObservatory.Misc.Text

/-!
# Errors, identities and generations

`errors.hpp` and `ids.hpp`. An identifier and a generation carry a phantom tag, so that a
cluster identifier cannot stand where a site identifier is expected; the tags are the source's
`FO_DEFINE_ID_TAG` and `FO_DEFINE_GENERATION_TAG` lists. Generations are 64-bit values and
saturate at the top instead of wrapping.
-/

namespace FederationObservatory

/-! ## Errors -/

/-- `ErrorCode` (`errors.hpp`). -/
inductive ErrorCode where
  | ok | invalidArgument | notFound | alreadyExists | conflict | boundExceeded
  | capacityInconsistent | staleGeneration | staleEpoch | staleBoot | fencedPublisher
  | sequenceRegression | sequenceGap | protocolViolation | connectionClosed | oversizedPayload
  | integrityFailure | unsupportedVersion | unsupportedOperation | invalidTransition
  | corruptState | notReady | backpressure | shuttingDown | internal
  deriving DecidableEq, Repr

/-- The stable spelling of a code. -/
def ErrorCode.toText : ErrorCode → Text
  | .ok => .ofString "OK"
  | .invalidArgument => .ofString "INVALID_ARGUMENT"
  | .notFound => .ofString "NOT_FOUND"
  | .alreadyExists => .ofString "ALREADY_EXISTS"
  | .conflict => .ofString "CONFLICT"
  | .boundExceeded => .ofString "BOUND_EXCEEDED"
  | .capacityInconsistent => .ofString "CAPACITY_INCONSISTENT"
  | .staleGeneration => .ofString "STALE_GENERATION"
  | .staleEpoch => .ofString "STALE_EPOCH"
  | .staleBoot => .ofString "STALE_BOOT"
  | .fencedPublisher => .ofString "FENCED_PUBLISHER"
  | .sequenceRegression => .ofString "SEQUENCE_REGRESSION"
  | .sequenceGap => .ofString "SEQUENCE_GAP"
  | .protocolViolation => .ofString "PROTOCOL_VIOLATION"
  | .connectionClosed => .ofString "CONNECTION_CLOSED"
  | .oversizedPayload => .ofString "OVERSIZED_PAYLOAD"
  | .integrityFailure => .ofString "INTEGRITY_FAILURE"
  | .unsupportedVersion => .ofString "UNSUPPORTED_VERSION"
  | .unsupportedOperation => .ofString "UNSUPPORTED_OPERATION"
  | .invalidTransition => .ofString "INVALID_TRANSITION"
  | .corruptState => .ofString "CORRUPT_STATE"
  | .notReady => .ofString "NOT_READY"
  | .backpressure => .ofString "BACKPRESSURE"
  | .shuttingDown => .ofString "SHUTTING_DOWN"
  | .internal => .ofString "INTERNAL"

/-- `Error`: a classified failure. -/
structure Error where
  code : ErrorCode
  message : Text
  detail : Text := []
  deriving DecidableEq, Repr

/-- `Error::to_string`: "code: message (detail)". -/
def Error.toText (e : Error) : Text :=
  e.code.toText
    ++ (if e.message.isEmpty then [] else .ofString ": " ++ e.message)
    ++ (if e.detail.isEmpty then [] else .ofString " (" ++ e.detail ++ .ofString ")")

/-- `Result<T>`. -/
abbrev Result (α : Type) := Except Error α

/-- `Status`: the outcome of an operation that has no value to return. -/
abbrev Status := Result Unit

/-- `fail`: a failed status. -/
def fail {α : Type} (code : ErrorCode) (message : String) (detail : Text := []) : Result α :=
  .error ⟨code, .ofString message, detail⟩

/-- The status of one check: fail when the test says so. -/
def failIf (test : Bool) (code : ErrorCode) (message : String) (detail : Text := []) : Status :=
  if test then fail code message detail else .ok ()

theorem failIf_eq_ok {test : Bool} {code : ErrorCode} {message : String} {detail : Text}
    {u : Unit} : failIf test code message detail = .ok u ↔ test = false := by
  cases test <;> simp [failIf, fail]

/-- A chain of checks passes when each of them does. -/
theorem bind_eq_ok {α β : Type} {x : Result α} {f : α → Result β} {b : β} :
    (x >>= f) = .ok b ↔ ∃ a, x = .ok a ∧ f a = .ok b := by
  cases x with
  | error e => simp [bind, Except.bind]
  | ok a => simp [bind, Except.bind]

theorem eq_ok_of_isSome {α : Type} {r : Result α} (h : r.toOption.isSome = true) :
    ∃ a, r = .ok a := by
  cases r with
  | error e => cases h
  | ok a => exact ⟨a, rfl⟩

/-- One check for every element of a list. -/
theorem forM_eq_ok {α : Type} {xs : List α} {check : α → Status} {u : Unit} :
    xs.forM check = .ok u ↔ ∀ x ∈ xs, check x = .ok () := by
  induction xs with
  | nil => simp [pure, Except.pure]
  | cons x xs ih =>
    rw [List.forM_eq_forM] at ih ⊢
    rw [List.forM_cons, bind_eq_ok]
    simp only [ih, List.mem_cons, forall_eq_or_imp]
    constructor
    · rintro ⟨⟨⟩, hx, hxs⟩
      exact ⟨hx, hxs⟩
    · rintro ⟨hx, hxs⟩
      exact ⟨(), hx, hxs⟩

theorem mapError_eq_ok {α : Type} {x : Result α} {f : Error → Error} {a : α} :
    x.mapError f = .ok a ↔ x = .ok a := by
  cases x <;> simp [Except.mapError]

/-! ## Identifiers -/

/-- The identifier tags of `ids.hpp`. -/
inductive IdTag where
  | federation | site | cluster | acceleratorClass | runtime | backend | artifact | workload
  | workloadClass | placement | migration | publisher | policy | capabilityKey | domain | node
  | resourcePool
  deriving DecidableEq, Repr

/-- `Tag::name`, which the identifier errors carry. -/
def IdTag.name : IdTag → String
  | .federation => "FederationIdTag"
  | .site => "SiteIdTag"
  | .cluster => "ClusterIdTag"
  | .acceleratorClass => "AcceleratorClassIdTag"
  | .runtime => "RuntimeIdTag"
  | .backend => "BackendIdTag"
  | .artifact => "ArtifactIdTag"
  | .workload => "WorkloadIdTag"
  | .workloadClass => "WorkloadClassIdTag"
  | .placement => "PlacementIdTag"
  | .migration => "MigrationIdTag"
  | .publisher => "PublisherIdTag"
  | .policy => "PolicyIdTag"
  | .capabilityKey => "CapabilityKeyIdTag"
  | .domain => "DomainIdTag"
  | .node => "NodeIdTag"
  | .resourcePool => "ResourcePoolIdTag"

/-- `kMaxIdentifierLength`. -/
def maxIdentifierLength : Nat := 96

/-- The identifier alphabet: letters, digits and a little punctuation. -/
def isIdentifierByte (c : UInt8) : Bool :=
  (97 ≤ c && c ≤ 122) || (65 ≤ c && c ≤ 90) || (48 ≤ c && c ≤ 57) ||
    c == 46 || c == 95 || c == 45 || c == 58 || c == 64 || c == 47 || c == 43 || c == 61

/-- `is_valid_identifier`. -/
def isValidIdentifier (text : Text) : Bool :=
  !text.isEmpty && decide (text.length ≤ maxIdentifierLength) && text.all isIdentifierByte

/-- `StrongId<Tag>`. -/
@[ext] structure StrongId (tag : IdTag) where
  value : Text := []
  deriving DecidableEq, Repr

namespace StrongId

variable {tag : IdTag}

instance : LawfulBEq (StrongId tag) := inferInstance

/-- `StrongId::empty`. -/
def empty (id : StrongId tag) : Bool := id.value.isEmpty

/-- Identifiers are compared as byte strings. -/
instance : Ord (StrongId tag) := ⟨fun a b => compare a.value b.value⟩

theorem compare_eq (a b : StrongId tag) : compare a b = compare a.value b.value := rfl

instance : Std.TransOrd (StrongId tag) where
  eq_swap {a b} := @Std.OrientedCmp.eq_swap Text compare _ a.value b.value
  isLE_trans {a b c} := @Std.TransCmp.isLE_trans Text compare _ a.value b.value c.value

instance : Std.LawfulEqOrd (StrongId tag) where
  compare_self {a} := @Std.ReflCmp.compare_self Text compare _ a.value
  eq_of_compare h := StrongId.ext (Std.LawfulEqOrd.eq_of_compare h)

/-- `operator<`. -/
def lt (a b : StrongId tag) : Bool := compare a b == .lt

end StrongId

abbrev FederationId := StrongId .federation
abbrev SiteId := StrongId .site
abbrev ClusterId := StrongId .cluster
abbrev AcceleratorClassId := StrongId .acceleratorClass
abbrev RuntimeId := StrongId .runtime
abbrev BackendId := StrongId .backend
abbrev ArtifactId := StrongId .artifact
abbrev WorkloadId := StrongId .workload
abbrev WorkloadClassId := StrongId .workloadClass
abbrev PlacementId := StrongId .placement
abbrev MigrationId := StrongId .migration
abbrev PublisherId := StrongId .publisher
abbrev PolicyId := StrongId .policy
abbrev CapabilityKeyId := StrongId .capabilityKey
abbrev DomainId := StrongId .domain
abbrev ResourcePoolId := StrongId .resourcePool

/-- `render_id`. -/
def renderId {tag : IdTag} (id : StrongId tag) : Text :=
  if id.empty then .ofString "<none>" else id.value

/-! ## Generations -/

/-- The generation tags of `ids.hpp`. -/
inductive GenerationTag where
  | federation | site | cluster | clusterEpoch | acceleratorCapability | runtime | backend
  | artifact | workload | placement | migration | policy | compatibility | capacity | topology
  | evidence | coordinatorEpoch | snapshot | boot | publisher
  deriving DecidableEq, Repr

/-- `Generation<Tag>`. Zero means unset. -/
@[ext] structure Generation (tag : GenerationTag) where
  value : UInt64 := 0
  deriving DecidableEq, Repr

namespace Generation

variable {tag : GenerationTag}

/-- `Generation::is_set`. -/
def isSet (g : Generation tag) : Bool := g.value != 0

/-- `Generation::next`: the successor, saturating at the largest 64-bit value. -/
def next (g : Generation tag) : Generation tag :=
  if g.value = 0xFFFFFFFFFFFFFFFF then g else ⟨g.value + 1⟩

/-- `Generation::newer_than`. -/
def newerThan (g other : Generation tag) : Bool := decide (other.value < g.value)

/-- `Generation::older_than`. -/
def olderThan (g other : Generation tag) : Bool := decide (g.value < other.value)

/-- `Generation::to_string`. -/
def toText (g : Generation tag) : Text := .ofNat g.value.toNat

instance : LE (Generation tag) := ⟨fun a b => a.value ≤ b.value⟩
instance : LT (Generation tag) := ⟨fun a b => a.value < b.value⟩

theorem le_def {a b : Generation tag} : a ≤ b ↔ a.value ≤ b.value := Iff.rfl
theorem lt_def {a b : Generation tag} : a < b ↔ a.value < b.value := Iff.rfl

instance (a b : Generation tag) : Decidable (a ≤ b) := inferInstanceAs (Decidable (a.value ≤ b.value))
instance (a b : Generation tag) : Decidable (a < b) := inferInstanceAs (Decidable (a.value < b.value))

instance : Ord (Generation tag) := ⟨fun a b => compare a.value b.value⟩

instance : Std.TransOrd (Generation tag) where
  eq_swap {a b} := @Std.OrientedCmp.eq_swap UInt64 compare _ a.value b.value
  isLE_trans {a b c} := @Std.TransCmp.isLE_trans UInt64 compare _ a.value b.value c.value

instance : Std.LawfulEqOrd (Generation tag) where
  compare_self {a} := @Std.ReflCmp.compare_self UInt64 compare _ a.value
  eq_of_compare h := Generation.ext (Std.LawfulEqOrd.eq_of_compare h)

theorem le_refl (a : Generation tag) : a ≤ a := UInt64.le_refl _

theorem le_trans {a b c : Generation tag} (hab : a ≤ b) (hbc : b ≤ c) : a ≤ c :=
  UInt64.le_trans hab hbc

theorem newerThan_eq_true {a b : Generation tag} : a.newerThan b = true ↔ b < a := by
  simp [newerThan, lt_def]

theorem olderThan_eq_true {a b : Generation tag} : a.olderThan b = true ↔ a < b := by
  simp [olderThan, lt_def]

theorem newerThan_eq_false {a b : Generation tag} : a.newerThan b = false ↔ a ≤ b := by
  simp [newerThan, le_def]

theorem olderThan_eq_false {a b : Generation tag} : a.olderThan b = false ↔ b ≤ a := by
  simp [olderThan, le_def]

theorem le_of_lt {a b : Generation tag} (h : a < b) : a ≤ b := UInt64.le_of_lt h

/-- Below the largest value the successor is one more. -/
theorem toNat_value_next {g : Generation tag} (h : g.value ≠ 0xFFFFFFFFFFFFFFFF) :
    g.next.value.toNat = g.value.toNat + 1 := by
  have hlt : g.value.toNat < 2 ^ 64 := g.value.toNat_lt
  have hne : g.value.toNat ≠ 0xFFFFFFFFFFFFFFFF := by
    intro he
    apply h
    apply UInt64.toNat_inj.mp
    simpa using he
  rw [next, if_neg h, UInt64.toNat_add]
  simp
  omega

theorem lt_next_iff_le {g : Generation tag} (h : g.value ≠ 0xFFFFFFFFFFFFFFFF)
    (other : Generation tag) : other < g.next ↔ other ≤ g := by
  rw [lt_def, le_def, UInt64.lt_iff_toNat_lt, UInt64.le_iff_toNat_le, toNat_value_next h]
  omega

theorem lt_next_iff (g : Generation tag) : g < g.next ↔ g.value ≠ 0xFFFFFFFFFFFFFFFF := by
  constructor
  · intro hlt h
    rw [next, if_pos h] at hlt
    exact UInt64.lt_irrefl _ hlt
  · intro h
    exact (lt_next_iff_le h g).mpr (le_refl g)

theorem le_next (g : Generation tag) : g ≤ g.next := by
  by_cases h : g.value = 0xFFFFFFFFFFFFFFFF
  · rw [next, if_pos h]
    exact le_refl g
  · exact le_of_lt ((lt_next_iff g).mpr h)

end Generation

abbrev FederationGeneration := Generation .federation
abbrev SiteGeneration := Generation .site
abbrev ClusterGeneration := Generation .cluster
abbrev ClusterEpoch := Generation .clusterEpoch
abbrev AcceleratorCapabilityGeneration := Generation .acceleratorCapability
abbrev RuntimeGeneration := Generation .runtime
abbrev BackendGeneration := Generation .backend
abbrev ArtifactGeneration := Generation .artifact
abbrev WorkloadGeneration := Generation .workload
abbrev PlacementGeneration := Generation .placement
abbrev MigrationGeneration := Generation .migration
abbrev PolicyGeneration := Generation .policy
abbrev CompatibilityGeneration := Generation .compatibility
abbrev CapacityGeneration := Generation .capacity
abbrev TopologyGeneration := Generation .topology
abbrev EvidenceGeneration := Generation .evidence
abbrev CoordinatorEpoch := Generation .coordinatorEpoch
abbrev SnapshotGeneration := Generation .snapshot
abbrev BootGeneration := Generation .boot

/-! ## Sequences and timestamps -/

/-- `Sequence`: the per-publisher event counter. -/
@[ext] structure Sequence where
  value : UInt64 := 0
  deriving DecidableEq, Repr

namespace Sequence

/-- `Sequence::is_zero`. -/
def isZero (q : Sequence) : Bool := q.value == 0

/-- `Sequence::to_string`. -/
def toText (q : Sequence) : Text := .ofNat q.value.toNat

instance : LE Sequence := ⟨fun a b => a.value ≤ b.value⟩
instance : LT Sequence := ⟨fun a b => a.value < b.value⟩
instance (a b : Sequence) : Decidable (a ≤ b) := inferInstanceAs (Decidable (a.value ≤ b.value))
instance (a b : Sequence) : Decidable (a < b) := inferInstanceAs (Decidable (a.value < b.value))

theorem le_def {a b : Sequence} : a ≤ b ↔ a.value ≤ b.value := Iff.rfl
theorem lt_def {a b : Sequence} : a < b ↔ a.value < b.value := Iff.rfl

end Sequence

/-- `TimestampNanos`: nanoseconds since the Unix epoch, or zero. -/
abbrev TimestampNanos := Int64

end FederationObservatory
