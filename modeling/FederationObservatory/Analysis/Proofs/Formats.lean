import FederationObservatory.Analysis.Pools
import FederationObservatory.Analysis.Compatibility
import FederationObservatory.Analysis.Portability

/-!
# Format evidence

What the capabilities of a target say of the formats and of the compiler target of an artifact, as
the three evaluators read it.
-/

namespace FederationObservatory

open Sorting
open CompatibilityInputs (anyOfRequirement artifactRequirements equalsRequirement)

/-- What the entry under a key says of a text: published, something else published, or nothing to
    compare with. -/
def formatEvidence (set : CapabilitySet) (key : CapabilityKey) (value : Text) : Tri :=
  match (set.find { key }).map CapabilityEntry.value with
  | some (.text published) => triFromBool (decide (published = value))
  | some (.textSet published) => triFromBool (decide (value ∈ published))
  | _ => .unknown

theorem triFromBool_inj {a b : Bool} : triFromBool a = triFromBool b ↔ a = b := by
  cases a <;> cases b <;> decide

/-! ## Pools -/

/-- What the outcomes of one check amount to. -/
def PoolOutcome.evidence : List PoolOutcome → Tri
  | [] => .yes
  | .failure _ _ :: _ => .no
  | .undecided _ :: _ => .unknown

theorem PoolOutcome.evidence_requireText {effective : CapabilitySet} {value : Text}
    (hvalue : value ≠ []) (key : CapabilityKey) (reason : StrandingReason) (label : String) :
    evidence (requireText effective value key reason label) =
      formatEvidence effective key value := by
  unfold requireText formatEvidence
  dsimp only
  rw [if_neg (by simpa using hvalue)]
  cases hfind : effective.find { key } with
  | none => rfl
  | some entry =>
    simp only [Option.map_some]
    cases hentry : entry.value with
    | text published =>
      by_cases heq : published = value <;> simp [heq, evidence, triFromBool]
    | textSet published =>
      by_cases hmem : value ∈ published <;> simp [hmem, evidence, triFromBool]
    | _ => rfl

theorem PoolOutcome.requireText_eq_nil_iff {effective : CapabilitySet} {value : Text}
    {key : CapabilityKey} {reason : StrandingReason} {label : String} :
    requireText effective value key reason label = [] ↔
      value = [] ∨ formatEvidence effective key value = .yes := by
  by_cases hvalue : value = []
  · subst hvalue
    simp [requireText]
  · rw [← evidence_requireText hvalue key reason label, or_iff_right hvalue]
    cases requireText effective value key reason label with
    | nil => simp [evidence]
    | cons outcome rest => cases outcome <;> simp [evidence]

/-! ## Compatibility -/

/-- A published value that `Equals` and `AnyOf` can compare with a text. -/
def CapabilityValue.isTextual : CapabilityValue → Bool
  | .text _ | .textSet _ => true
  | _ => false

section Requirements

variable {formatDouble : Double → Text} {set : CapabilitySet} {key : CapabilityKey} {value : Text}

/-- The text that a value keeps of a text. -/
def shortened (value : Text) : Text :=
  if maxStringFieldBytes < value.length then Text.truncateWithMarker value maxStringFieldBytes
  else value

theorem shortened_of_le (h : value.length ≤ maxStringFieldBytes) : shortened value = value :=
  if_neg (Nat.not_lt.mpr h)

theorem satisfied_of_find {requirement : CapabilityRequirement} {entry : CapabilityEntry}
    (h : set.find requirement.key = some entry) :
    (evaluateRequirement formatDouble requirement set).satisfied =
      if entry.value.known then (evaluatePublished formatDouble entry.value requirement).1
      else .unknown := by
  unfold evaluateRequirement
  rw [h]
  dsimp only
  split <;> rfl

/-- `Equals` compares a required text with texts and sets of texts only. -/
theorem publishedEquals_text (published : CapabilityValue) :
    publishedEquals published (.text value) =
      match published with
      | .text p => some (decide (p = value))
      | .textSet p => some (decide (value ∈ p))
      | _ => none := by
  cases published <;>
    simp [publishedEquals, compareNumericPairs, CapabilityValue.isIntegral,
      CapabilityValue.isNumber, CapabilityValue.isText, CapabilityValue.asText,
      CapabilityValue.isTextSet, CapabilityValue.asTextSet, CapabilityValue.isBoolean,
      textSetContains, beq_eq_decide]

/-- `Equals` reads a text like the other evaluators. -/
theorem satisfied_equalsRequirement (rationale : String) :
    (evaluateRequirement formatDouble (equalsRequirement key value rationale) set).satisfied =
      formatEvidence set key (shortened value) := by
  have hvalue : CapabilityValue.ofText value = .text (shortened value) := rfl
  unfold formatEvidence equalsRequirement
  rw [hvalue]
  cases hfind : set.find { key } with
  | none =>
    unfold evaluateRequirement
    dsimp only
    rw [hfind]
    rfl
  | some entry =>
    rw [satisfied_of_find hfind, Option.map_some, evaluatePublished, evaluateEquals,
      publishedEquals_text]
    cases entry.value <;> rfl

theorem ofTextSet_singleton {published : CapabilityValue} :
    CapabilityValue.ofTextSet [value] = .ok published ↔
      value.length ≤ 256 ∧ published = .textSet [value] := by
  simp only [CapabilityValue.ofTextSet, bind_eq_ok, failIf_eq_ok, forM_eq_ok, exists_const,
    List.forall_mem_singleton, decide_eq_false_iff_not, Nat.not_lt]
  constructor
  · rintro ⟨-, hlength, hpure⟩
    cases hpure
    exact ⟨hlength, rfl⟩
  · rintro ⟨hlength, rfl⟩
    exact ⟨Nat.succ_le_of_lt (by decide), hlength, rfl⟩

/-- The requirement `AnyOf` can be stated of a text that a value set has room for. -/
theorem anyOfRequirement_eq (rationale : String) :
    anyOfRequirement key value rationale =
      if value.length ≤ 256 then
        some
          { key := { key }, comparator := .anyOf, value := .textSet [value]
            rationale := .ofString rationale }
      else none := by
  unfold anyOfRequirement
  by_cases hlength : value.length ≤ 256
  · rw [if_pos hlength, ofTextSet_singleton.mpr ⟨hlength, rfl⟩]
  · rw [if_neg hlength]
    cases hset : CapabilityValue.ofTextSet [value] with
    | error e => rfl
    | ok published => exact absurd (ofTextSet_singleton.mp hset).1 hlength

/-- `AnyOf` looks for a required text in texts and sets of texts, and finds it nowhere else. -/
theorem evaluateAnyOf_textSet (published : CapabilityValue) :
    (evaluateAnyOf published (.textSet [value])).1 =
      match published with
      | .text p => triFromBool (decide (p = value))
      | .textSet p => triFromBool (decide (value ∈ p))
      | _ => .no := by
  cases published with
  | text p =>
    by_cases heq : p = value <;>
      simp [evaluateAnyOf, CapabilityValue.isText, CapabilityValue.asText,
        CapabilityValue.isTextSet, CapabilityValue.asTextSet, heq, triFromBool]
  | textSet p =>
    by_cases hmem : value ∈ p <;>
      simp [evaluateAnyOf, CapabilityValue.isText, CapabilityValue.isTextSet,
        CapabilityValue.asTextSet, textSetContains, hmem, triFromBool]
  | _ => rfl

/-- `AnyOf` takes a value that it cannot compare for a mismatch. -/
theorem satisfied_anyOfRequirement {requirement : CapabilityRequirement} {rationale : String}
    (h : anyOfRequirement key value rationale = some requirement) :
    (evaluateRequirement formatDouble requirement set).satisfied =
      if (set.find { key }).any fun entry => entry.value.known && !entry.value.isTextual then .no
      else formatEvidence set key value := by
  rw [anyOfRequirement_eq, Option.ite_none_right_eq_some] at h
  obtain ⟨-, h⟩ := h
  cases h
  unfold formatEvidence
  cases hfind : set.find { key } with
  | none =>
    unfold evaluateRequirement
    dsimp only
    rw [hfind]
    rfl
  | some entry =>
    rw [satisfied_of_find hfind, Option.map_some, Option.any_some, evaluatePublished]
    dsimp only
    rw [evaluateAnyOf_textSet]
    cases entry.value <;> rfl

end Requirements

/-! ## Agreement -/

/-- What an artifact declares and the three evaluators look for. -/
inductive FormatSubject where
  | format | kernelFormat | compilerTarget
  deriving DecidableEq, Repr

def FormatSubject.key : FormatSubject → CapabilityKey
  | .format => .artifactFormats
  | .kernelFormat => .kernelFormat
  | .compilerTarget => .compilerTarget

def FormatSubject.value (artifact : ArtifactRecord) : FormatSubject → Text
  | .format => artifact.format
  | .kernelFormat => artifact.kernelFormat
  | .compilerTarget => artifact.compilerTarget

/-- How `evaluate_pool` classifies it. -/
def poolEvidence (set : CapabilitySet) (artifact : ArtifactRecord) : FormatSubject → Tri
  | .format => PoolOutcome.evidence (PoolOutcome.requireText set artifact.format .artifactFormats
      .artifactIncompatibility "artifact format")
  | .kernelFormat => PoolOutcome.evidence (PoolOutcome.requireText set artifact.kernelFormat
      .kernelFormat .artifactIncompatibility "kernel format")
  | .compilerTarget => PoolOutcome.evidence (PoolOutcome.requireText set artifact.compilerTarget
      .compilerTarget .missingCompilerTarget "compiler target")

def CompatibilityOutcome.evidence : CompatibilityOutcome → Tri
  | .compatible => .yes
  | .unknownCompatibility => .unknown
  | _ => .no

/-- How `assess_compatibility` classifies it, where it has a check of it. -/
def compatibilityEvidence (formatDouble : Double → Text) (set : CapabilitySet)
    (artifact : ArtifactRecord) (subject : FormatSubject) : Option Tri :=
  let inputs : CompatibilityInputs :=
    { artifact := some artifact, effectiveCapabilities := some set }
  (((artifactRequirements artifact).filter fun requirement =>
      requirement.key = { key := subject.key }).map fun requirement =>
        (inputs.requirementCheck formatDouble requirement true).outcome.evidence).head?

def PortabilityOutcome.evidence : PortabilityOutcome → Tri
  | .portableDirect => .yes
  | .unknown => .unknown
  | _ => .no

/-- How `assess_portability` classifies it; the compiler target where the architectures differ. -/
def portabilityEvidence (set : CapabilitySet) (artifact : ArtifactRecord)
    (destination : ClusterRecord) (subject : FormatSubject) : Option Tri :=
  let inputs : PortabilityInputs :=
    { artifact := some artifact, destinationCapabilities := some set }
  match subject with
  | .format => (inputs.artifactFormat destination).head?.map fun result => result.outcome.evidence
  | .kernelFormat => some (inputs.kernel destination).outcome.evidence
  | .compilerTarget => some ((inputs.compilerTargetSupport artifact).elim .unknown triFromBool)

section Agreement

variable {formatDouble : Double → Text} {set : CapabilitySet} {artifact : ArtifactRecord}
  {destination : ClusterRecord}

theorem poolEvidence_eq {subject : FormatSubject} (h : subject.value artifact ≠ []) :
    poolEvidence set artifact subject =
      formatEvidence set subject.key (subject.value artifact) := by
  cases subject <;> exact PoolOutcome.evidence_requireText h _ _ _

theorem elim_destinationSupportsText (set : CapabilitySet) (key : CapabilityKey) (value : Text) :
    (destinationSupportsText (some set) key value).elim .unknown triFromBool =
      formatEvidence set key value := by
  unfold destinationSupportsText formatEvidence
  rw [Option.bind_some]
  cases set.find { key } with
  | none => rfl
  | some entry =>
    dsimp only [Option.map_some]
    cases entry.value with
    | text published => simp [beq_eq_decide]
    | textSet published => simp
    | _ => rfl

theorem portabilityEvidence_eq {subject : FormatSubject} (h : subject.value artifact ≠ []) :
    portabilityEvidence set artifact destination subject =
      some (formatEvidence set subject.key (subject.value artifact)) := by
  have hempty : (subject.value artifact).isEmpty = false := List.isEmpty_eq_false_iff.mpr h
  rw [← elim_destinationSupportsText]
  cases subject with
  | format =>
    have hfilter : (some artifact).filter (fun artifact => !artifact.format.isEmpty) =
        some artifact := by
      rw [Option.filter_some, if_pos]
      simpa [FormatSubject.value] using h
    simp only [portabilityEvidence, PortabilityInputs.artifactFormat, hfilter, FormatSubject.key,
      FormatSubject.value]
    rcases destinationSupportsText (some set) .artifactFormats artifact.format with
      _ | (_ | _) <;> rfl
  | kernelFormat =>
    have hfilter : (some artifact).filter (fun artifact => !artifact.kernelFormat.isEmpty) =
        some artifact := by
      rw [Option.filter_some, if_pos]
      simpa [FormatSubject.value] using h
    simp only [portabilityEvidence, PortabilityInputs.kernel, hfilter, FormatSubject.key,
      FormatSubject.value]
    rcases destinationSupportsText (some set) .kernelFormat artifact.kernelFormat with
      _ | (_ | _) <;> rfl
  | compilerTarget =>
    have hempty : artifact.compilerTarget.isEmpty = false := hempty
    simp only [portabilityEvidence, PortabilityInputs.compilerTargetSupport, hempty,
      FormatSubject.key, FormatSubject.value]
    rfl

theorem evidence_requirementOutcome {requirement : CapabilityRequirement}
    (h : requirement.optional = false) (satisfied : Tri) :
    (CompatibilityInputs.requirementOutcome requirement satisfied).evidence = satisfied := by
  cases satisfied with
  | no =>
    unfold CompatibilityInputs.requirementOutcome
    dsimp only
    rw [h, if_neg Bool.false_ne_true]
    cases requirement.key.key <;> rfl
  | _ => rfl

/-- The requirements of an artifact, by their keys. -/
theorem filter_artifactRequirements (h : ∀ subject : FormatSubject, subject.value artifact ≠ [])
    (subject : FormatSubject) :
    ((artifactRequirements artifact).filter fun requirement =>
        requirement.key = { key := subject.key }) =
      match subject with
      | .format => (anyOfRequirement .artifactFormats artifact.format "artifact format").toList
      | .kernelFormat =>
        [equalsRequirement .kernelFormat artifact.kernelFormat "artifact kernel format"]
      | .compilerTarget =>
        [equalsRequirement .compilerTarget artifact.compilerTarget "artifact compiler target"] := by
  have hformat : artifact.format.isEmpty = false := List.isEmpty_eq_false_iff.mpr (h .format)
  have hkernel : artifact.kernelFormat.isEmpty = false :=
    List.isEmpty_eq_false_iff.mpr (h .kernelFormat)
  have hcompiler : artifact.compilerTarget.isEmpty = false :=
    List.isEmpty_eq_false_iff.mpr (h .compilerTarget)
  unfold artifactRequirements
  rw [hformat, hkernel, hcompiler, anyOfRequirement_eq]
  by_cases hlength : artifact.format.length ≤ 256
  · rw [if_pos hlength]
    cases subject <;> rfl
  · rw [if_neg hlength]
    cases subject <;> rfl

theorem outcome_requirementCheck (inputs : CompatibilityInputs)
    (h : inputs.effectiveCapabilities = some set) (requirement : CapabilityRequirement)
    (fromArtifact : Bool) :
    (inputs.requirementCheck formatDouble requirement fromArtifact).outcome =
      CompatibilityInputs.requirementOutcome requirement
        (evaluateRequirement formatDouble requirement set).satisfied := by
  unfold CompatibilityInputs.requirementCheck
  rw [h]

/-- `assess_compatibility` has no check of a long format, and takes a value that is not textual for a
    mismatch. -/
theorem compatibilityEvidence_eq (h : ∀ subject : FormatSubject, subject.value artifact ≠ [])
    (hbound : ∀ subject : FormatSubject, (subject.value artifact).length ≤ maxStringFieldBytes)
    (subject : FormatSubject) :
    compatibilityEvidence formatDouble set artifact subject =
      if subject = .format then
        if artifact.format.length ≤ 256 then
          some (if (set.find { key := .artifactFormats }).any fun entry =>
              entry.value.known && !entry.value.isTextual then .no
            else formatEvidence set .artifactFormats artifact.format)
        else none
      else some (formatEvidence set subject.key (subject.value artifact)) := by
  unfold compatibilityEvidence
  dsimp only
  rw [filter_artifactRequirements h]
  cases subject with
  | format =>
    rw [if_pos rfl]
    have hrequirement := @anyOfRequirement_eq .artifactFormats artifact.format "artifact format"
    by_cases hlength : artifact.format.length ≤ 256
    · rw [if_pos hlength] at hrequirement ⊢
      have hsatisfied := @satisfied_anyOfRequirement formatDouble set _ _ _ _ hrequirement
      rw [← hsatisfied]
      dsimp only
      rw [hrequirement, Option.toList_some, List.map_singleton, List.head?_cons,
        outcome_requirementCheck _ rfl, evidence_requirementOutcome rfl]
    · rw [if_neg hlength] at hrequirement ⊢
      dsimp only
      rw [hrequirement]
      rfl
  | kernelFormat =>
    rw [if_neg nofun, List.map_singleton, List.head?_cons, outcome_requirementCheck _ rfl,
      evidence_requirementOutcome rfl]
    refine congrArg some ((satisfied_equalsRequirement _).trans ?_)
    exact congrArg (formatEvidence set .kernelFormat) (shortened_of_le (hbound .kernelFormat))
  | compilerTarget =>
    rw [if_neg nofun, List.map_singleton, List.head?_cons, outcome_requirementCheck _ rfl,
      evidence_requirementOutcome rfl]
    refine congrArg some ((satisfied_equalsRequirement _).trans ?_)
    exact congrArg (formatEvidence set .compilerTarget) (shortened_of_le (hbound .compilerTarget))

/-- A value that is known and not textual decides nothing. -/
theorem formatEvidence_of_not_textual {key : CapabilityKey} {value : Text}
    (h : ((set.find { key }).any fun entry => entry.value.known && !entry.value.isTextual) = true) :
    formatEvidence set key value = .unknown := by
  unfold formatEvidence
  cases hfind : set.find { key } with
  | none => rfl
  | some entry =>
    rw [hfind, Option.any_some] at h
    rw [Option.map_some]
    cases hvalue : entry.value with
    | text published =>
      rw [hvalue] at h
      cases h
    | textSet published =>
      rw [hvalue] at h
      cases h
    | _ => rfl

end Agreement

/-- The three evaluators agree on what the target says of the formats and the compiler target of an
    artifact exactly if its format fits into a value set, and the target publishes its artifact
    formats as text, as a set of texts, or not at all. -/
theorem evaluators_agree_iff (formatDouble : Double → Text) (set : CapabilitySet)
    (artifact : ArtifactRecord) (destination : ClusterRecord)
    (h : ∀ subject : FormatSubject, subject.value artifact ≠ [])
    (hbound : ∀ subject : FormatSubject, (subject.value artifact).length ≤ maxStringFieldBytes) :
    (∀ subject,
      compatibilityEvidence formatDouble set artifact subject =
        some (poolEvidence set artifact subject) ∧
      portabilityEvidence set artifact destination subject =
        some (poolEvidence set artifact subject)) ↔
      artifact.format.length ≤ 256 ∧
        ∀ entry, set.find { key := .artifactFormats } = some entry →
          entry.value.known = true → entry.value.isTextual = true := by
  have hsubject : ∀ subject : FormatSubject,
      (compatibilityEvidence formatDouble set artifact subject =
          some (poolEvidence set artifact subject) ∧
        portabilityEvidence set artifact destination subject =
          some (poolEvidence set artifact subject)) ↔
        compatibilityEvidence formatDouble set artifact subject =
          some (formatEvidence set subject.key (subject.value artifact)) := by
    intro subject
    rw [poolEvidence_eq (h subject), portabilityEvidence_eq (h subject)]
    exact and_iff_left rfl
  rw [forall_congr' hsubject]
  simp only [compatibilityEvidence_eq h hbound]
  have htextual : ((set.find { key := .artifactFormats }).any fun entry =>
      entry.value.known && !entry.value.isTextual) = false ↔
        ∀ entry, set.find { key := .artifactFormats } = some entry →
          entry.value.known = true → entry.value.isTextual = true := by
    cases set.find { key := .artifactFormats } <;> simp
  rw [← htextual]
  constructor
  · intro hagree
    have hformat := hagree .format
    rw [if_pos rfl] at hformat
    by_cases hlength : artifact.format.length ≤ 256
    · rw [if_pos hlength] at hformat
      refine ⟨hlength, Bool.eq_false_iff.mpr fun hany => ?_⟩
      rw [if_pos hany] at hformat
      have hunknown : formatEvidence set FormatSubject.format.key
          (FormatSubject.format.value artifact) = .unknown :=
        formatEvidence_of_not_textual hany
      rw [hunknown] at hformat
      cases hformat
    · rw [if_neg hlength] at hformat
      cases hformat
  · rintro ⟨hlength, hany⟩ subject
    rw [if_pos hlength, if_neg (Bool.eq_false_iff.mp hany)]
    cases subject <;> rfl

/-- A capability set with one entry. -/
def CapabilitySet.ofEntry (key : CapabilityKey) (value : CapabilityValue) : CapabilitySet :=
  (({} : CapabilitySet).put { key := { key }, value }).toOption.getD {}

/-- An artifact that declares all of its formats. -/
def formattedArtifact : ArtifactRecord :=
  { format := .ofString "onnx"
    kernelFormat := .ofString "ptx"
    compilerTarget := .ofString "sm_90" }

theorem evaluators_agree_onnx :
    formattedArtifact.format.length ≤ 256 ∧ ∀ subject,
      compatibilityEvidence (fun _ => [])
          (.ofEntry .artifactFormats (.textSet [.ofString "onnx"])) formattedArtifact subject =
        some (poolEvidence (.ofEntry .artifactFormats (.textSet [.ofString "onnx"]))
          formattedArtifact subject) ∧
      portabilityEvidence (.ofEntry .artifactFormats (.textSet [.ofString "onnx"]))
          formattedArtifact {} subject =
        some (poolEvidence (.ofEntry .artifactFormats (.textSet [.ofString "onnx"]))
          formattedArtifact subject) := by
  refine ⟨by decide, (evaluators_agree_iff _ _ formattedArtifact {} ?_ ?_).mpr ⟨by decide, ?_⟩⟩
  · intro subject
    cases subject <;> decide
  · intro subject
    cases subject <;> decide
  · intro entry hentry _
    have hvalue : ((CapabilitySet.ofEntry .artifactFormats (.textSet [.ofString "onnx"])).find
        { key := .artifactFormats }).map CapabilityEntry.value =
          some (.textSet [.ofString "onnx"]) := by
      decide
    rw [hentry, Option.map_some, Option.some.injEq] at hvalue
    rw [hvalue]
    rfl

/-- A target that publishes a boolean under its artifact formats: nothing to compare with for two of
    the evaluators, a mismatch for the third. -/
theorem format_evidence_disagrees :
    ¬∀ (formatDouble : Double → Text) (set : CapabilitySet) (artifact : ArtifactRecord)
      (destination : ClusterRecord),
      (∀ subject : FormatSubject, subject.value artifact ≠ []) →
      (∀ subject : FormatSubject, (subject.value artifact).length ≤ maxStringFieldBytes) →
      ∀ subject,
        compatibilityEvidence formatDouble set artifact subject =
          some (poolEvidence set artifact subject) ∧
        portabilityEvidence set artifact destination subject =
          some (poolEvidence set artifact subject) := by
  intro h
  have hagree := h (fun _ => []) (.ofEntry .artifactFormats (.boolean true)) formattedArtifact {}
    (by intro subject; cases subject <;> decide) (by intro subject; cases subject <;> decide)
    .format
  exact absurd hagree.1 (by decide)

end FederationObservatory
