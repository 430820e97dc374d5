import FederationObservatory.Model.Capability

/-!
# Evaluating requirements

`capability.cpp`: the accessors of a capability value, the comparisons they feed, and
`evaluate_requirement`, which decides one requirement against one set of capabilities.
`format_double`, the rendering of a floating-point number in the text of a verdict, is a parameter.
-/

namespace FederationObservatory

open Sorting

/-! ## Conversions to double -/

namespace Double

/-- A sign and a magnitude below 2^64 as a double, rounded to nearest, ties to even. -/
def ofMagnitude (negative : Bool) (m : Nat) : Double :=
  let sign : Nat := if negative then 2 ^ 63 else 0
  if m = 0 then ⟨0⟩
  else
    let e := m.log2
    if e ≤ 52 then ⟨UInt64.ofNat (sign + (e + 1022) * 2 ^ 52 + m * 2 ^ (52 - e))⟩
    else
      -- a carry out of the significand goes into the exponent
      let unit := 2 ^ (e - 52)
      let q := m / unit
      let r := m % unit
      let up := if unit < 2 * r ∨ 2 * r = unit ∧ q % 2 = 1 then 1 else 0
      ⟨UInt64.ofNat (sign + (e + 1022) * 2 ^ 52 + (q + up))⟩

/-- `static_cast<double>(std::int64_t)`. -/
def ofInt64 (v : Int64) : Double := ofMagnitude (decide (v < 0)) v.toInt.natAbs

/-- `static_cast<double>(std::uint64_t)`. -/
def ofUInt64 (v : UInt64) : Double := ofMagnitude false v.toNat

end Double

example : Double.ofInt64 (-3) = ⟨0xC008000000000000⟩ := by decide
example : Double.ofUInt64 0xFFFFFFFFFFFFFFFF = ⟨0x43F0000000000000⟩ := by decide +kernel

/-! ## Accessors -/

namespace CapabilityValue

def known (v : CapabilityValue) : Bool := v.index != 0

def isBoolean : CapabilityValue → Bool
  | .boolean _ => true
  | _ => false

/-- Both integral alternatives. -/
def isIntegral : CapabilityValue → Bool
  | .integer _ | .unsignedInteger _ => true
  | _ => false

def isNumber : CapabilityValue → Bool
  | .number _ => true
  | _ => false

def isText : CapabilityValue → Bool
  | .text _ => true
  | _ => false

def isTextSet : CapabilityValue → Bool
  | .textSet _ => true
  | _ => false

def asBoolean (v : CapabilityValue) (fallback : Bool) : Bool :=
  match v with
  | .boolean b => b
  | _ => fallback

/-- `as_unsigned`: a negative value is not one. -/
def asUnsigned (v : CapabilityValue) (fallback : UInt64) : UInt64 :=
  match v with
  | .unsignedInteger u => u
  | .integer i => if i < 0 then fallback else i.toUInt64
  | _ => fallback

def asNumber (v : CapabilityValue) (fallback : Double) : Double :=
  match v with
  | .number d => d
  | .integer i => .ofInt64 i
  | .unsignedInteger u => .ofUInt64 u
  | _ => fallback

def asText : CapabilityValue → Text
  | .text v => v
  | _ => []

def asTextSet : CapabilityValue → List Text
  | .textSet v => v
  | _ => []

/-- `CapabilityValue::to_string`. -/
def toText (formatDouble : Double → Text) : CapabilityValue → Text
  | .unknown => .ofString "UNKNOWN"
  | .boolean v => .ofString (if v then "true" else "false")
  | .integer v => .ofString (toString v.toInt)
  | .unsignedInteger v => .ofNat v.toNat
  | .number v => formatDouble v
  | .text v => v
  | .textSet v => .ofString "[" ++ (.ofString ", " : Text).intercalate v ++ .ofString "]"

end CapabilityValue

/-! ## Comparisons -/

/-- `Comparison`: an order, and whether the two values were comparable at all. -/
structure Comparison where
  comparable : Bool := false
  order : Int := 0
  deriving DecidableEq, Repr

/-- The order of two values under a test for "less". -/
def Comparison.of {α : Type} (lt : α → α → Bool) (a b : α) : Comparison :=
  ⟨true, if lt a b then -1 else if lt b a then 1 else 0⟩

/-- `compare_numeric_pairs`. -/
def compareNumericPairs (a b : CapabilityValue) : Comparison :=
  if a.isIntegral && b.isIntegral then
    if 0 ≤ a.asInteger 0 ∧ 0 ≤ b.asInteger 0 then
      .of (fun x y : UInt64 => decide (x < y)) (a.asUnsigned 0) (b.asUnsigned 0)
    else .of (fun x y : Int64 => decide (x < y)) (a.asInteger 0) (b.asInteger 0)
  else if (a.isIntegral || a.isNumber) && (b.isIntegral || b.isNumber) then
    .of Double.lt (if a.isNumber then a.asNumber {} else .ofInt64 (a.asInteger 0))
      (if b.isNumber then b.asNumber {} else .ofInt64 (b.asInteger 0))
  else {}

/-- `text_set_contains`. -/
def textSetContains (set : List Text) (needle : Text) : Bool := set.contains needle

/-- The number a text starts with, in wrapping arithmetic, and the rest of the text. -/
def versionNumber (n : UInt64) : Text → UInt64 × Text
  | [] => (n, [])
  | c :: text =>
    if 48 ≤ c ∧ c ≤ 57 then versionNumber (n * 10 + (c - 48).toUInt64) text else (n, c :: text)

theorem length_versionNumber_le (n : UInt64) (text : Text) :
    (versionNumber n text).2.length ≤ text.length := by
  induction text generalizing n with
  | nil => simp [versionNumber]
  | cons c text ih =>
    unfold versionNumber
    split
    · exact Nat.le_succ_of_le (ih _)
    · exact Nat.le_refl _

/-- `compare_version_strings`: a missing number counts as zero, and characters are signed. -/
def compareVersionStrings (a b : Text) : Int :=
  if a.isEmpty && b.isEmpty then 0
  else
    let na := versionNumber 0 a
    let nb := versionNumber 0 b
    if na.1 ≠ nb.1 then if na.1 < nb.1 then -1 else 1
    else
      let ca := na.2.headD 0
      let cb := nb.2.headD 0
      if ca ≠ cb then
        -- a missing component sorts before a present one
        if ca = 0 then -1
        else if cb = 0 then 1
        else if ca = 46 then -1
        else if cb = 46 then 1
        else if ca.toInt8 < cb.toInt8 then -1 else 1
      else compareVersionStrings na.2.tail nb.2.tail
termination_by a.length + b.length
decreasing_by
  rename_i hmore _ _
  have ha := length_versionNumber_le 0 a
  have hb := length_versionNumber_le 0 b
  simp only [Bool.and_eq_true, List.isEmpty_iff, not_and_or, ← List.length_eq_zero_iff] at hmore
  simp only [List.length_tail]
  omega

/-! ## Requirements -/

/-- `CapabilitySet::find`. -/
def CapabilitySet.find (set : CapabilitySet) (key : CapabilityRef) : Option CapabilityEntry :=
  set.entries.find? fun entry => entry.key = key

/-- `to_string`. -/
def CapabilityComparator.name : CapabilityComparator → String
  | .present => "PRESENT"
  | .absent => "ABSENT"
  | .equals => "EQUALS"
  | .notEquals => "NOT_EQUALS"
  | .atLeast => "AT_LEAST"
  | .atMost => "AT_MOST"
  | .anyOf => "ANY_OF"
  | .allOf => "ALL_OF"

/-- `tri_from_bool`. -/
def triFromBool (value : Bool) : Tri := if value then .yes else .no

/-- `tri_not`. -/
def triNot : Tri → Tri
  | .no => .yes
  | .unknown => .unknown
  | .yes => .no

/-- `CapabilityCheck`. -/
structure CapabilityCheck where
  requirement : CapabilityRequirement := {}
  observed : CapabilityValue := .unknown
  satisfied : Tri := .unknown
  detail : Text := []
  deriving DecidableEq

/-- Whether the published value is the required one, where `Equals` can compare the two. -/
def publishedEquals (published required : CapabilityValue) : Option Bool :=
  let numeric := compareNumericPairs published required
  if numeric.comparable then some (numeric.order == 0)
  else if published.isText && required.isText then some (published.asText == required.asText)
  else if published.isTextSet && required.isText then
    some (textSetContains published.asTextSet required.asText)
  else if published.isBoolean && required.isBoolean then
    some (published.asBoolean false == required.asBoolean true)
  else none

/-- The order of the published value and the required bound, where there is one. -/
def publishedOrder (published required : CapabilityValue) : Option Int :=
  let numeric := compareNumericPairs published required
  if numeric.comparable then some numeric.order
  else if published.isText && required.isText then
    some (compareVersionStrings published.asText required.asText)
  else none

section Evaluate

variable (formatDouble : Double → Text)

/-- "published v satisfies w", with the words between for a bound. -/
def comparisonDetail (published required : CapabilityValue) (result : Bool) (words : Text) : Text :=
  .ofString "published " ++ published.toText formatDouble ++
    .ofString (if result then " satisfies " else " violates ") ++ words ++
    required.toText formatDouble

/-- The branches of `Equals` and `NotEquals`. -/
def evaluateEquals (published required : CapabilityValue) (negated : Bool) : Tri × Text :=
  match publishedEquals published required with
  | none => (.unknown, .ofString "published value and required value are not comparable")
  | some equal =>
    let result := if negated then !equal else equal
    (triFromBool result, comparisonDetail formatDouble published required result [])

/-- The branches of `AtLeast` and `AtMost`. -/
def evaluateBound (published required : CapabilityValue) (comparator : CapabilityComparator) :
    Tri × Text :=
  match publishedOrder published required with
  | none => (.unknown, .ofString "published value and required bound are not orderable")
  | some order =>
    let result := if comparator = .atLeast then decide (0 ≤ order) else decide (order ≤ 0)
    (triFromBool result, comparisonDetail formatDouble published required result
      (.ofString (comparator.name ++ " ")))

/-- The branch of `AnyOf`: the first alternative that matches decides. -/
def evaluateAnyOf (published required : CapabilityValue) : Tri × Text :=
  if required.isTextSet then
    let found := required.asTextSet.find? fun candidate =>
      (published.isText && published.asText == candidate) ||
        (published.isTextSet && textSetContains published.asTextSet candidate)
    match found with
    | none => (.no, .ofString "published value matches none of the allowed alternatives")
    | some _ => (.yes, .ofString (if published.isText then
        "published value matches an allowed alternative"
        else "published value set intersects the allowed alternatives"))
  else (.unknown, .ofString "ANY_OF requires a required value set")

/-- The branch of `AllOf`: the first member that is missing decides. -/
def evaluateAllOf (published required : CapabilityValue) : Tri × Text :=
  if required.isTextSet then
    if published.isTextSet then
      match required.asTextSet.find? fun candidate =>
          !textSetContains published.asTextSet candidate with
      | some candidate => (.no, .ofString "published value set is missing " ++ candidate)
      | none => (.yes, .ofString "published value set contains every required member")
    else (.no, .ofString "published value is not a set")
  else (.unknown, .ofString "ALL_OF requires a required value set")

/-- The `switch` on the comparator, for a value that is known. -/
def evaluatePublished (published : CapabilityValue) (requirement : CapabilityRequirement) :
    Tri × Text :=
  match requirement.comparator with
  | .present =>
    if published.isBoolean then
      let satisfied := triFromBool (published.asBoolean false)
      (satisfied, .ofString (if satisfied = .yes then "published and enabled"
        else "published but disabled"))
    else (.yes, .ofString "published")
  | .absent =>
    if published.isBoolean then
      let satisfied := triNot (triFromBool (published.asBoolean true))
      (satisfied, .ofString (if satisfied = .yes then "published and disabled"
        else "published and enabled"))
    else (.no, .ofString "published with a value")
  | .equals => evaluateEquals formatDouble published requirement.value false
  | .notEquals => evaluateEquals formatDouble published requirement.value true
  | .atLeast => evaluateBound formatDouble published requirement.value .atLeast
  | .atMost => evaluateBound formatDouble published requirement.value .atMost
  | .anyOf => evaluateAnyOf published requirement.value
  | .allOf => evaluateAllOf published requirement.value

/-- `evaluate_requirement`. -/
def evaluateRequirement (requirement : CapabilityRequirement) (observed : CapabilitySet) :
    CapabilityCheck :=
  match observed.find requirement.key with
  | none =>
    match requirement.comparator with
    | .absent =>
      { requirement := requirement, satisfied := .yes
        detail := .ofString "capability is not published, as required" }
    | .present =>
      { requirement := requirement, satisfied := .no
        detail := .ofString "capability is not published" }
    | _ =>
      { requirement := requirement, satisfied := .unknown
        detail := .ofString "capability not published; requirement cannot be evaluated" }
  | some entry =>
    if entry.value.known then
      let verdict := evaluatePublished formatDouble entry.value requirement
      { requirement := requirement, observed := entry.value, satisfied := verdict.1
        detail := verdict.2 }
    else
      { requirement := requirement, observed := entry.value, satisfied := .unknown
        detail := .ofString "capability is published without a known value" }

end Evaluate

end FederationObservatory
