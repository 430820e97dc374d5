import FederationObservatory.Foundation.Evidence

/-!
# Capacity

`capacity.hpp`: the ledger that splits the nominal capacity of a pool into disjoint parts, and the
pool. All sums are checked 64-bit sums (`codec.hpp`).
-/

namespace FederationObservatory

open Sorting

/-! ## Checked arithmetic -/

/-- `checked_add`. -/
def checkedAdd (a b : UInt64) : Option UInt64 :=
  if 0xFFFFFFFFFFFFFFFF - b < a then none else some (a + b)

/-- `checked_sub`. -/
def checkedSub (a b : UInt64) : Option UInt64 := if a < b then none else some (a - b)

/-- A running checked sum. -/
def checkedSumFrom (total : UInt64) : List UInt64 → Option UInt64
  | [] => some total
  | v :: vs => do checkedSumFrom (← checkedAdd total v) vs

theorem checkedAdd_eq_some {a b c : UInt64} :
    checkedAdd a b = some c ↔ a.toNat + b.toNat < 2 ^ 64 ∧ c.toNat = a.toNat + b.toNat := by
  have ha : a.toNat < 2 ^ 64 := a.toNat_lt
  have hb : b.toNat < 2 ^ 64 := b.toNat_lt
  have hsub : (0xFFFFFFFFFFFFFFFF - b : UInt64).toNat = 2 ^ 64 - 1 - b.toNat := by
    rw [UInt64.toNat_sub_of_le _ _ (by
      rw [UInt64.le_iff_toNat_le]; simp; omega)]
    simp
  unfold checkedAdd
  by_cases hlt : 0xFFFFFFFFFFFFFFFF - b < a
  · rw [if_pos hlt]
    rw [UInt64.lt_iff_toNat_lt, hsub] at hlt
    simp only [reduceCtorEq, false_iff, not_and]
    omega
  · rw [if_neg hlt]
    rw [UInt64.lt_iff_toNat_lt, hsub] at hlt
    have hsum : (a + b).toNat = a.toNat + b.toNat := by
      rw [UInt64.toNat_add]
      omega
    constructor
    · intro h
      obtain rfl := Option.some.inj h
      exact ⟨by omega, hsum⟩
    · rintro ⟨-, hc⟩
      rw [← hsum] at hc
      exact congrArg some (UInt64.toNat_inj.mp hc.symm)

/-- A checked sum is the sum, when that fits. -/
theorem checkedSumFrom_eq_some {total : UInt64} {vs : List UInt64} {c : UInt64} :
    checkedSumFrom total vs = some c ↔
      total.toNat + (vs.map UInt64.toNat).sum < 2 ^ 64 ∧
        c.toNat = total.toNat + (vs.map UInt64.toNat).sum := by
  induction vs generalizing total with
  | nil =>
    have ht : total.toNat < 2 ^ 64 := total.toNat_lt
    simp only [checkedSumFrom, Option.some.injEq, List.map_nil, List.sum_nil, Nat.add_zero]
    constructor
    · rintro rfl
      exact ⟨ht, rfl⟩
    · rintro ⟨-, hc⟩
      exact (UInt64.toNat_inj.mp hc).symm
  | cons v vs ih =>
    simp only [checkedSumFrom, Option.bind_eq_bind, Option.bind_eq_some_iff, checkedAdd_eq_some, ih,
      List.map_cons, List.sum_cons]
    constructor
    · rintro ⟨m, ⟨-, hm⟩, hlt, hc⟩
      omega
    · rintro ⟨hlt, hc⟩
      have hv : total.toNat + v.toNat < 2 ^ 64 := by omega
      refine ⟨total + v, ⟨hv, ?_⟩, ?_⟩
      · rw [UInt64.toNat_add]
        omega
      · rw [UInt64.toNat_add]
        omega

/-- The order of the terms does not matter. -/
theorem checkedSumFrom_perm (total : UInt64) {vs ws : List UInt64} (h : vs.Perm ws) :
    checkedSumFrom total vs = checkedSumFrom total ws := by
  have hsum : (vs.map UInt64.toNat).sum = (ws.map UInt64.toNat).sum := (h.map _).sum_eq
  ext c
  simp only [checkedSumFrom_eq_some, hsum]

/-! ## Ledgers -/

/-- `ResourceKind`. -/
inductive ResourceKind where
  | accelerator | memoryBytes | custom
  deriving DecidableEq, Repr

instance : WireEnum ResourceKind where
  enumerators := [.accelerator, .memoryBytes, .custom]
  code e := UInt8.ofNat e.ctorIdx
  getElem?_code e := by cases e <;> rfl

/-- `CapacityLedger`. -/
structure CapacityLedger where
  nominal : UInt64 := 0
  offline : UInt64 := 0
  allocated : UInt64 := 0
  reserved : UInt64 := 0
  draining : UInt64 := 0
  unusable : UInt64 := 0
  idle : UInt64 := 0
  deriving DecidableEq, Repr

namespace CapacityLedger

/-- `CapacityLedger::from_components`: what is idle is what is left of the nominal capacity. -/
def fromComponents (nominal offline allocated reserved draining unusable : UInt64) :
    Result CapacityLedger :=
  match checkedSumFrom 0 [offline, allocated, reserved, draining, unusable] with
  | none => fail .capacityInconsistent "capacity accounting overflowed"
  | some committed =>
    match checkedSub nominal committed with
    | none => fail .capacityInconsistent "capacity components exceed nominal capacity"
        (.ofString "nominal=" ++ Text.ofNat nominal.toNat ++
          .ofString " components=" ++ Text.ofNat committed.toNat)
    | some idle => .ok { nominal, offline, allocated, reserved, draining, unusable, idle }

/-- `CapacityLedger::validate`. -/
def validate (l : CapacityLedger) : Status := do
  let rebuilt ← fromComponents l.nominal l.offline l.allocated l.reserved l.draining l.unusable
  failIf (rebuilt.idle != l.idle) .capacityInconsistent "capacity ledger does not close"
    (.ofString "idle=" ++ Text.ofNat l.idle.toNat ++
      .ofString " expected=" ++ Text.ofNat rebuilt.idle.toNat)

end CapacityLedger

/-! ## Pools -/

/-- `CapacityPool`. -/
structure CapacityPool where
  poolId : ResourcePoolId := {}
  kind : ResourceKind := .accelerator
  acceleratorClass : AcceleratorClassId := {}
  customName : Text := []
  ledger : CapacityLedger := {}
  generation : CapacityGeneration := {}
  precision : Precision := .unknown
  evidenceClass : EvidenceClass := .unknown
  evidence : EvidenceList := {}
  deriving DecidableEq, Repr

namespace CapacityPool

/-- `operator==`: everything but the evidence. -/
def eq (a b : CapacityPool) : Bool :=
  a.poolId == b.poolId && a.kind == b.kind && a.acceleratorClass == b.acceleratorClass &&
    a.customName == b.customName && a.ledger == b.ledger && a.generation == b.generation &&
    a.precision == b.precision && a.evidenceClass == b.evidenceClass

/-- The order of pools: by identifier, then kind, then accelerator class. -/
def compareKeys : CapacityPool → CapacityPool → Ordering :=
  compareLex (compareOn poolId) (compareLex (compareOn kind) (compareOn acceleratorClass))

/-- `operator<`. -/
def lt (a b : CapacityPool) : Bool := compareKeys a b == .lt

instance : Std.TransCmp compareKeys :=
  inferInstanceAs (Std.TransCmp
    (compareLex (compareOn poolId) (compareLex (compareOn kind) (compareOn acceleratorClass))))

theorem lt_eq_false {a b : CapacityPool} : lt b a = false ↔ (compareKeys a b).isLE = true := by
  unfold lt
  rw [@Std.OrientedCmp.eq_swap _ compareKeys _ b a]
  cases compareKeys a b <;> simp [Ordering.swap]

theorem weak_lt : Weak lt := by
  constructor
  · intro a b c hab hbc
    rw [lt_eq_false] at hab hbc ⊢
    exact Std.TransCmp.isLE_trans hab hbc
  · intro a b
    rw [lt_eq_false, lt_eq_false]
    rw [@Std.OrientedCmp.eq_swap _ compareKeys _ b a]
    cases compareKeys a b <;> simp [Ordering.swap]

/-- Sorting pools twice is sorting them once. -/
theorem stableSort_idem (pools : List CapacityPool) :
    stableSort lt (stableSort lt pools) = stableSort lt pools :=
  weak_lt.idem pools

end CapacityPool

end FederationObservatory
