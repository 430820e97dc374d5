import FederationObservatory.Model.Records
import FederationObservatory.Model.Requirements
import FederationObservatory.Observatory.Queries

/-!
# Effective capabilities

What an evaluator takes the capabilities of a target to be: the entries of the accelerator class,
of the cluster and of the runtime are put into one set, in this order, and the status of every `put`
is ignored. `merge_capabilities` (`analysis.cpp`) gives the set the limit of the cluster's own;
`collect_assessment_inputs` and `portability_inputs_for` (`observatory.cpp`) leave it at the default.
-/

namespace FederationObservatory

namespace CapabilitySet

/-- `put`, by a caller that ignores the status. -/
def putIgnoringStatus (set : CapabilitySet) (entry : CapabilityEntry) : CapabilitySet :=
  match set.put entry with
  | .ok set => set
  | .error _ => set

/-- One of the loops that put the entries of a record. -/
def putAll (set : CapabilitySet) (entries : List CapabilityEntry) : CapabilitySet :=
  entries.foldl putIgnoringStatus set

/-- `CapabilitySet::set_limit`, on an empty set. -/
def withLimit (limit : Nat) : CapabilitySet := { limit }

/-- The three loops. -/
def overlay (set : CapabilitySet) (cluster : ClusterRecord)
    (acceleratorClass : Option AcceleratorClassRecord) (runtime : Option RuntimeRecord) :
    CapabilitySet :=
  let set := set.putAll ((acceleratorClass.map fun record => record.capabilities.entries).getD [])
  let set := set.putAll cluster.capabilities.entries
  set.putAll ((runtime.map fun record => record.capabilities.entries).getD [])

end CapabilitySet

section Effective

variable (cluster : ClusterRecord) (acceleratorClass : Option AcceleratorClassRecord)
  (runtime : Option RuntimeRecord)

/-- `merge_capabilities`. -/
def mergeCapabilities : CapabilitySet :=
  (CapabilitySet.withLimit cluster.capabilities.limit).overlay cluster acceleratorClass runtime

/-- The set `collect_assessment_inputs` fills. -/
def assessmentCapabilities : CapabilitySet := ({} : CapabilitySet).overlay cluster acceleratorClass runtime

/-- The set `portability_inputs_for` fills. -/
def portabilityCapabilities : CapabilitySet := ({} : CapabilitySet).overlay cluster acceleratorClass runtime

end Effective

/-! ## Records of a snapshot -/

/-- `primary_runtime`: the first of the cluster's runtimes that is registered. -/
def primaryRuntime (snapshot : FederationSnapshot) (cluster : ClusterRecord) :
    Option RuntimeRecord :=
  cluster.runtimes.findSome? (snapshot.find .runtime)

/-- The loop over the accelerator classes of a cluster, which stops at the first that is
    registered. -/
def firstAcceleratorClass (snapshot : FederationSnapshot) (cluster : ClusterRecord) :
    Option AcceleratorClassRecord :=
  cluster.acceleratorClasses.findSome? (snapshot.find .acceleratorClass)

/-! ## Records -/

/-- `PolicyRecord::permits_site`. -/
def PolicyRecord.permitsSite (policy : PolicyRecord) (site : SiteId) : Tri :=
  if site ∈ policy.deniedSites then .no
  else if policy.allowedSites.isEmpty then .yes
  else if site ∈ policy.allowedSites then .yes else .no

/-- `PolicyRecord::permits_cluster`. -/
def PolicyRecord.permitsCluster (policy : PolicyRecord) (cluster : ClusterId) : Tri :=
  if cluster ∈ policy.deniedClusters then .no
  else if policy.allowedClusters.isEmpty then .yes
  else if cluster ∈ policy.allowedClusters then .yes else .no

/-- `ArtifactRecord::targets_architecture`. -/
def ArtifactRecord.targetsArchitecture (artifact : ArtifactRecord) (architecture : Text) : Bool :=
  artifact.targetArchitectures.contains architecture

/-- `is_code_bearing`, which each of the three evaluators has a copy of. -/
def ArtifactKind.isCodeBearing : ArtifactKind → Bool
  | .executableBinary | .sharedLibrary | .deviceImage | .containerImage => true
  | _ => false

/-- `tri_and`. -/
def triAnd (a b : Tri) : Tri :=
  if a = .no ∨ b = .no then .no
  else if a = .unknown ∨ b = .unknown then .unknown
  else .yes

/-- `to_string`. -/
def Readiness.toText : Readiness → Text
  | .unknown => .ofString "UNKNOWN"
  | .ready => .ofString "READY"
  | .notReady => .ofString "NOT_READY"
  | .draining => .ofString "DRAINING"
  | .retired => .ofString "RETIRED"

/-- `join_strings`. -/
def joinStrings (values : List Text) (separator : Text) : Text := separator.intercalate values

/-- `render_id`, of a text. -/
def renderText (text : Text) : Text := if text.isEmpty then .ofString "<none>" else text

/-- `CapabilityRequirement::to_string`. -/
def CapabilityRequirement.toText (formatDouble : Double → Text)
    (requirement : CapabilityRequirement) : Text :=
  requirement.key.toText ++ Text.ofString " " ++ Text.ofString requirement.comparator.name ++
    (if requirement.value.known then Text.ofString " " ++ requirement.value.toText formatDouble
      else []) ++
    (if requirement.optional then Text.ofString " [optional]" else []) ++
    (if requirement.rationale.isEmpty then []
      else Text.ofString " (" ++ requirement.rationale ++ Text.ofString ")")

/-- A loop that adds references one by one and ignores what `add` says. -/
def EvidenceList.addEach (list : EvidenceList) (refs : List EvidenceRef) : EvidenceList :=
  refs.foldl
    (fun list ref =>
      match list.add ref with
      | .ok list => list
      | .error _ => list)
    list

end FederationObservatory
