import FederationObservatory.Misc.Sorting
import FederationObservatory.Foundation.Bounds

/-!
# Evidence

`evidence.hpp`: the enumerations that classify a piece of evidence, one reference to it, and the
bounded, sorted, deduplicated list of references that every record carries.
-/

namespace FederationObservatory

open Sorting

/-! ## Enumerations -/

/-- An enumeration of the source: its enumerators in the order of their values, which run from
    zero without gaps, and the value of each. -/
class WireEnum (E : Type) where
  enumerators : List E
  code : E → UInt8
  getElem?_code : ∀ e, enumerators[(code e).toNat]? = some e

namespace WireEnum

variable {E : Type} [WireEnum E]

/-- `enum_max`: the largest value. -/
def maxCode (E : Type) [WireEnum E] : Nat := (enumerators : List E).length - 1

/-- Enumerators are compared by their values. -/
def codeLt (a b : E) : Bool := decide (code a < code b)

instance : Ord E := ⟨compareOn code⟩

instance : Std.TransOrd E := inferInstanceAs (Std.TransCmp (compareOn (code : E → UInt8)))

theorem code_injective : Function.Injective (code : E → UInt8) := by
  intro a b h
  have ha := getElem?_code a
  rw [h, getElem?_code b] at ha
  simpa using ha.symm

theorem linear_codeLt : Linear (codeLt : E → E → Bool) := by
  refine ⟨⟨?_, ?_⟩, ?_⟩
  · intro a b c hab hbc
    simp only [codeLt, decide_eq_false_iff_not, UInt8.not_lt] at hab hbc ⊢
    exact UInt8.le_trans hab hbc
  · intro a b
    simp only [codeLt, decide_eq_false_iff_not, UInt8.not_lt]
    exact UInt8.le_total _ _
  · intro a b hab hba
    simp only [codeLt, decide_eq_false_iff_not, UInt8.not_lt] at hab hba
    exact code_injective (UInt8.le_antisymm hba hab)

end WireEnum

/-- `Tri`: "we do not know" is not "no". -/
inductive Tri where
  | no | unknown | yes
  deriving DecidableEq, Repr

instance : WireEnum Tri where
  enumerators := [.no, .unknown, .yes]
  code e := UInt8.ofNat e.ctorIdx
  getElem?_code e := by cases e <;> rfl

/-- `Precision`, from strongest to weakest. -/
inductive Precision where
  | exact | aggregated | sampled | derived | inferred | ambiguous | unknown
  deriving DecidableEq, Repr

instance : WireEnum Precision where
  enumerators := [.exact, .aggregated, .sampled, .derived, .inferred, .ambiguous, .unknown]
  code e := UInt8.ofNat e.ctorIdx
  getElem?_code e := by cases e <;> rfl

def Precision.toText : Precision → Text
  | .exact => .ofString "EXACT"
  | .aggregated => .ofString "AGGREGATED"
  | .sampled => .ofString "SAMPLED"
  | .derived => .ofString "DERIVED"
  | .inferred => .ofString "INFERRED"
  | .ambiguous => .ofString "AMBIGUOUS"
  | .unknown => .ofString "UNKNOWN"

/-- `precision_rank`: larger means weaker. -/
def Precision.rank (precision : Precision) : Nat := precision.ctorIdx

/-- `weakest`. -/
def Precision.weakest (a b : Precision) : Precision := if b.rank ≤ a.rank then a else b

theorem Precision.rank_weakest (a b : Precision) : (a.weakest b).rank = max a.rank b.rank := by
  unfold weakest
  split <;> omega

/-- `ReasonBasis`: who stated a reason. -/
inductive ReasonBasis where
  | observed | derived | inferred | unattributed
  deriving DecidableEq, Repr

instance : WireEnum ReasonBasis where
  enumerators := [.observed, .derived, .inferred, .unattributed]
  code e := UInt8.ofNat e.ctorIdx
  getElem?_code e := by cases e <;> rfl

def ReasonBasis.toText : ReasonBasis → Text
  | .observed => .ofString "OBSERVED"
  | .derived => .ofString "DERIVED"
  | .inferred => .ofString "INFERRED"
  | .unattributed => .ofString "UNATTRIBUTED"

/-- `EvidenceClass`. -/
inductive EvidenceClass where
  | real | synthetic | unsupported | unknown
  deriving DecidableEq, Repr

instance : WireEnum EvidenceClass where
  enumerators := [.real, .synthetic, .unsupported, .unknown]
  code e := UInt8.ofNat e.ctorIdx
  getElem?_code e := by cases e <;> rfl

def EvidenceClass.toText : EvidenceClass → Text
  | .real => .ofString "REAL"
  | .synthetic => .ofString "SYNTHETIC"
  | .unsupported => .ofString "UNSUPPORTED"
  | .unknown => .ofString "UNKNOWN"

/-- `evidence_class_rank`: larger means weaker. -/
def EvidenceClass.rank (cls : EvidenceClass) : Nat := cls.ctorIdx

/-- `weaker`. -/
def EvidenceClass.weaker (a b : EvidenceClass) : EvidenceClass := if b.rank ≤ a.rank then a else b

theorem EvidenceClass.rank_weaker (a b : EvidenceClass) :
    (a.weaker b).rank = max a.rank b.rank := by
  unfold weaker
  split <;> omega

/-- `Provenance`: where a piece of evidence came from. -/
inductive Provenance where
  | hostProbe | toolchainProbe | artifactInspection | federationController | clusterController
  | scheduler | runtimeRegistry | hardwareCapabilityRegistry | artifactRegistry
  | migrationRuntime | resourceBroker | externalInventory | syntheticBackend | importedTrace
  | derivedAnalysis | publisherReport | unknown
  deriving DecidableEq, Repr

instance : WireEnum Provenance where
  enumerators :=
    [.hostProbe, .toolchainProbe, .artifactInspection, .federationController, .clusterController,
     .scheduler, .runtimeRegistry, .hardwareCapabilityRegistry, .artifactRegistry,
     .migrationRuntime, .resourceBroker, .externalInventory, .syntheticBackend, .importedTrace,
     .derivedAnalysis, .publisherReport, .unknown]
  code e := UInt8.ofNat e.ctorIdx
  getElem?_code e := by cases e <;> rfl

/-! ## Evidence references -/

/-- `EvidenceRef`: one traceable piece of evidence. -/
structure EvidenceRef where
  source : Provenance := .unknown
  evidenceClass : EvidenceClass := .unknown
  sourceId : Text := []
  generation : EvidenceGeneration := {}
  precision : Precision := .unknown
  detail : Text := []
  deriving DecidableEq, Repr

/-- `operator<` on references: the first of these fields that differs decides. -/
def EvidenceRef.lt (a b : EvidenceRef) : Bool :=
  if a.source ≠ b.source then WireEnum.codeLt a.source b.source
  else if a.sourceId ≠ b.sourceId then less a.sourceId b.sourceId
  else if a.generation ≠ b.generation then less a.generation b.generation
  else if a.evidenceClass ≠ b.evidenceClass then WireEnum.codeLt a.evidenceClass b.evidenceClass
  else if a.precision ≠ b.precision then WireEnum.codeLt a.precision b.precision
  else less a.detail b.detail

/-- The order of references is a strict order. -/
theorem EvidenceRef.weak_lt : Weak EvidenceRef.lt :=
  Weak.lex WireEnum.linear_codeLt <| Weak.lex linear_less <| Weak.lex linear_less <|
    Weak.lex WireEnum.linear_codeLt <| Weak.lex WireEnum.linear_codeLt <|
      weak_less.comap EvidenceRef.detail

/-- The shortening `EvidenceList::add` applies to a reference. -/
def EvidenceRef.truncated (ref : EvidenceRef) : EvidenceRef :=
  { ref with
    sourceId := Text.truncateWithMarker ref.sourceId maxIdentifierLength
    detail := Text.truncateWithMarker ref.detail 512 }

theorem EvidenceRef.truncated_truncated (ref : EvidenceRef) :
    ref.truncated.truncated = ref.truncated := by
  simp only [truncated, Text.truncateWithMarker_idem]

theorem EvidenceRef.pairwise_nil : ([] : List EvidenceRef).Pairwise (fun a b => b.lt a = false) :=
  List.Pairwise.nil

theorem EvidenceRef.nodup_nil : ([] : List EvidenceRef).Nodup := List.nodup_nil

theorem EvidenceRef.truncated_nil : ∀ ref ∈ ([] : List EvidenceRef), ref.truncated = ref := by simp

/-- `EvidenceList`: a bounded list of references, shortened, sorted and without repetitions. -/
structure EvidenceList where
  items : List EvidenceRef := []
  limit : Nat := defaultEvidencePerFinding
  sorted : items.Pairwise (fun a b => b.lt a = false) := by exact EvidenceRef.pairwise_nil
  nodup : items.Nodup := by exact EvidenceRef.nodup_nil
  truncated : ∀ ref ∈ items, ref.truncated = ref := by exact EvidenceRef.truncated_nil
  deriving DecidableEq, Repr

namespace EvidenceList

/-- `EvidenceList::add`. The list is left as it was when it is full. -/
def add (list : EvidenceList) (ref : EvidenceRef) : Result EvidenceList :=
  let ref' := ref.truncated
  if hnew : ref' ∈ list.items then .ok list
  else if list.limit ≤ list.items.length then
    fail .boundExceeded "evidence list is full"
      (Text.ofNat list.limit ++ .ofString " references retained")
  else
    .ok { list with
      items := stableSort EvidenceRef.lt (list.items ++ [ref'])
      sorted := EvidenceRef.weak_lt.pairwise _
      nodup := by
        rw [(perm_stableSort _ _).nodup_iff, List.nodup_append_comm]
        exact List.nodup_cons.mpr ⟨hnew, list.nodup⟩
      truncated := by
        intro r hr
        rw [(perm_stableSort _ _).mem_iff, List.mem_append, List.mem_singleton] at hr
        rcases hr with hr | rfl
        · exact list.truncated r hr
        · exact ref.truncated_truncated }

/-- A caller that ignores the status of `add` keeps whatever the list then is. -/
def addIgnoringStatus (list : EvidenceList) (source : Provenance) (cls : EvidenceClass)
    (sourceId : Text) (precision : Precision) (detail : Text) : EvidenceList :=
  match list.add { source, evidenceClass := cls, sourceId, precision, detail } with
  | .ok list => list
  | .error _ => list

/-- `EvidenceList::set_limit`. -/
def setLimit (list : EvidenceList) (limit : Nat) : EvidenceList := { list with limit }

end EvidenceList

end FederationObservatory
