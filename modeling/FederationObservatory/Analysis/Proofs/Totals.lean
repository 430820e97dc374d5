import FederationObservatory.Analysis.Drift
import FederationObservatory.Analysis.Proofs.Stranded

/-!
# The total ledger of a cluster

`ClusterRecord::total_ledger` adds the ledgers of the pools of one kind. Every part of a ledger that
closes is below its nominal capacity, so the nominal capacity is the first sum to overflow, and the
total closes again.
-/

namespace FederationObservatory

open Loops

/-- The parts that a ledger accounts for. -/
inductive LedgerPart where
  | nominal | offline | allocated | reserved | draining | unusable | idle
  deriving DecidableEq, Repr

namespace CapacityLedger

def part (l : CapacityLedger) : LedgerPart → UInt64
  | .nominal => l.nominal
  | .offline => l.offline
  | .allocated => l.allocated
  | .reserved => l.reserved
  | .draining => l.draining
  | .unusable => l.unusable
  | .idle => l.idle

/-- The parts add up to the nominal capacity. -/
def Closes (l : CapacityLedger) : Prop :=
  l.nominal.toNat = l.offline.toNat + l.allocated.toNat + l.reserved.toNat + l.draining.toNat +
    l.unusable.toNat + l.idle.toNat

theorem part_le_nominal {l : CapacityLedger} (h : l.Closes) (part : LedgerPart) :
    (l.part part).toNat ≤ l.nominal.toNat := by
  unfold Closes at h
  cases part <;> simp only [CapacityLedger.part] <;> omega

/-- A ledger is the sum of others, part by part. -/
def IsSum (total : CapacityLedger) (ledgers : List CapacityLedger) : Prop :=
  ∀ part, (total.part part).toNat = (ledgers.map fun l => (l.part part).toNat).sum

theorem isSum_nil : IsSum {} [] := by
  intro part
  cases part <;> rfl

theorem isSum_singleton (l : CapacityLedger) : IsSum l [l] := by
  intro part
  simp

/-- A sum may stand for what it is the sum of. -/
theorem IsSum.trans {total sum : CapacityLedger} {first rest : List CapacityLedger}
    (htotal : IsSum total (sum :: rest)) (hsum : IsSum sum first) : IsSum total (first ++ rest) := by
  intro part
  rw [htotal part, List.map_cons, List.sum_cons, hsum part, List.map_append, List.sum_append]

/-- Components that leave something of the nominal capacity make a ledger that closes. -/
theorem fromComponents_of_le {nominal offline allocated reserved draining unusable : UInt64}
    (h : offline.toNat + allocated.toNat + reserved.toNat + draining.toNat + unusable.toNat ≤
      nominal.toNat) :
    ∃ idle, fromComponents nominal offline allocated reserved draining unusable =
        .ok ⟨nominal, offline, allocated, reserved, draining, unusable, idle⟩ ∧
      idle.toNat = nominal.toNat - (offline.toNat + allocated.toNat + reserved.toNat +
        draining.toNat + unusable.toNat) := by
  have hnominal : nominal.toNat < 2 ^ 64 := nominal.toNat_lt
  have hsum : (0 : UInt64).toNat +
      (List.map UInt64.toNat [offline, allocated, reserved, draining, unusable]).sum =
        offline.toNat + allocated.toNat + reserved.toNat + draining.toNat + unusable.toNat := by
    simp only [List.map_cons, List.map_nil, List.sum_cons, List.sum_nil, UInt64.toNat_zero]
    omega
  have hcommitted : ∃ committed,
      checkedSumFrom 0 [offline, allocated, reserved, draining, unusable] = some committed ∧
        committed.toNat = offline.toNat + allocated.toNat + reserved.toNat + draining.toNat +
          unusable.toNat := by
    refine ⟨UInt64.ofNat (offline.toNat + allocated.toNat + reserved.toNat + draining.toNat +
      unusable.toNat), checkedSumFrom_eq_some.mpr ?_, ?_⟩
    · rw [hsum, UInt64.toNat_ofNat']
      omega
    · rw [UInt64.toNat_ofNat']
      omega
  obtain ⟨committed, hcommitted, hvalue⟩ := hcommitted
  have hidle := checkedSub_of_le (a := nominal) (b := committed) (by omega)
  refine ⟨nominal - committed, ?_, ?_⟩
  · -- as in `fromComponents_eq_ok`, the definition is unfolded apart from its arguments
    obtain ⟨f, hf⟩ : ∃ f, f = fromComponents := ⟨_, rfl⟩
    rw [← hf]
    delta fromComponents at hf
    subst hf
    beta_reduce
    rw [hcommitted]
    dsimp only
    rw [hidle]
  · rw [UInt64.toNat_sub_of_le _ _ (UInt64.le_iff_toNat_le.mpr (by omega)), hvalue]

theorem validate_of_closes {l : CapacityLedger} (h : l.Closes) : l.validate = .ok () := by
  have hle : l.offline.toNat + l.allocated.toNat + l.reserved.toNat + l.draining.toNat +
      l.unusable.toNat ≤ l.nominal.toNat := by
    unfold Closes at h
    omega
  obtain ⟨idle, hrebuilt, hidle⟩ := fromComponents_of_le hle
  have hsame : idle = l.idle := by
    rw [← UInt64.toNat_inj, hidle]
    unfold Closes at h
    omega
  unfold validate
  rw [hrebuilt, hsame]
  exact failIf_eq_ok.mpr (by simp)

end CapacityLedger

/-! ## One pool -/

namespace ClusterRecord

open CapacityLedger

variable {total : CapacityLedger} {pool : CapacityPool}

/-- The definition, unfolded apart from its arguments as in `fromComponents_eq_ok`. -/
theorem addLedger_eq (cluster : ClusterRecord) (kind : ResourceKind) (total : CapacityLedger)
    (pool : CapacityPool) :
    cluster.addLedger kind total pool =
      match (do
        let nominal ← checkedAdd total.nominal pool.ledger.nominal
        let offline ← checkedAdd total.offline pool.ledger.offline
        let allocated ← checkedAdd total.allocated pool.ledger.allocated
        let reserved ← checkedAdd total.reserved pool.ledger.reserved
        let draining ← checkedAdd total.draining pool.ledger.draining
        let unusable ← checkedAdd total.unusable pool.ledger.unusable
        pure (fromComponents nominal offline allocated reserved draining unusable) :
          Option (Result CapacityLedger)) with
      | none =>
        fail .capacityInconsistent "capacity total overflowed"
          (cluster.id.value ++ .ofString " " ++ kind.toText)
      | some rebuilt => rebuilt := by
  obtain ⟨f, hf⟩ : ∃ f, f = addLedger := ⟨_, rfl⟩
  rw [← hf]
  delta addLedger at hf
  subst hf
  beta_reduce
  rfl

/-- What a round adds, where the nominal capacities fit. -/
theorem addLedger_of_lt (cluster : ClusterRecord) (kind : ResourceKind) (htotal : total.Closes)
    (hpool : pool.ledger.Closes)
    (hfits : total.nominal.toNat + pool.ledger.nominal.toNat < 2 ^ 64) :
    ∃ sum, cluster.addLedger kind total pool = .ok sum ∧ sum.Closes ∧
      sum.IsSum [total, pool.ledger] := by
  have hfit : ∀ part, (total.part part).toNat + (pool.ledger.part part).toNat < 2 ^ 64 := by
    intro part
    have h := part_le_nominal htotal part
    have h' := part_le_nominal hpool part
    omega
  have hpart := fun part => toNat_add_of_lt (hfit part)
  have hnominal : (total.nominal + pool.ledger.nominal).toNat = _ := hpart .nominal
  have hoffline : (total.offline + pool.ledger.offline).toNat = _ := hpart .offline
  have hallocated : (total.allocated + pool.ledger.allocated).toNat = _ := hpart .allocated
  have hreserved : (total.reserved + pool.ledger.reserved).toNat = _ := hpart .reserved
  have hdraining : (total.draining + pool.ledger.draining).toNat = _ := hpart .draining
  have hunusable : (total.unusable + pool.ledger.unusable).toNat = _ := hpart .unusable
  simp only [CapacityLedger.part] at hnominal hoffline hallocated hreserved hdraining hunusable
  unfold Closes at htotal hpool
  obtain ⟨idle, hrebuilt, hidle⟩ := @fromComponents_of_le (total.nominal + pool.ledger.nominal)
    (total.offline + pool.ledger.offline) (total.allocated + pool.ledger.allocated)
    (total.reserved + pool.ledger.reserved) (total.draining + pool.ledger.draining)
    (total.unusable + pool.ledger.unusable) (by omega)
  refine ⟨⟨total.nominal + pool.ledger.nominal, total.offline + pool.ledger.offline,
    total.allocated + pool.ledger.allocated, total.reserved + pool.ledger.reserved,
    total.draining + pool.ledger.draining, total.unusable + pool.ledger.unusable, idle⟩, ?_, ?_, ?_⟩
  · have hn := checkedAdd_of_lt hfits
    have ho := checkedAdd_of_lt (a := total.offline) (b := pool.ledger.offline) (by omega)
    have ha := checkedAdd_of_lt (a := total.allocated) (b := pool.ledger.allocated) (by omega)
    have hr := checkedAdd_of_lt (a := total.reserved) (b := pool.ledger.reserved) (by omega)
    have hd := checkedAdd_of_lt (a := total.draining) (b := pool.ledger.draining) (by omega)
    have hu := checkedAdd_of_lt (a := total.unusable) (b := pool.ledger.unusable) (by omega)
    -- the ledger is built by a function of which nothing but this is known
    rw [addLedger_eq]
    generalize fromComponents = build at hrebuilt ⊢
    rw [hn, ho, ha, hr, hd, hu]
    exact hrebuilt
  · unfold Closes
    dsimp only
    omega
  · intro part
    rw [List.map_cons, List.map_cons, List.map_nil, List.sum_cons, List.sum_cons, List.sum_nil,
      Nat.add_zero]
    cases part with
    | idle =>
      simp only [CapacityLedger.part]
      omega
    | nominal => exact hpart .nominal
    | offline => exact hpart .offline
    | allocated => exact hpart .allocated
    | reserved => exact hpart .reserved
    | draining => exact hpart .draining
    | unusable => exact hpart .unusable

/-- A round fails where the nominal capacities do not fit. -/
theorem addLedger_of_le (cluster : ClusterRecord) (kind : ResourceKind)
    (hexceeds : 2 ^ 64 ≤ total.nominal.toNat + pool.ledger.nominal.toNat) :
    ∃ e, cluster.addLedger kind total pool = .error e := by
  rw [addLedger_eq, checkedAdd_of_le hexceeds]
  exact ⟨_, rfl⟩

/-! ## All pools -/

/-- The loop over the pools: it fails where the nominal capacities overflow, and else adds up every
    part. -/
theorem foldlM_addLedger (cluster : ClusterRecord) (kind : ResourceKind)
    {pools : List CapacityPool} (hpools : ∀ pool ∈ pools, pool.ledger.Closes)
    (htotal : total.Closes) :
    if total.nominal.toNat + (pools.map fun pool => pool.ledger.nominal.toNat).sum < 2 ^ 64 then
      ∃ sum, pools.foldlM (cluster.addLedger kind) total = .ok sum ∧ sum.Closes ∧
        sum.IsSum (total :: pools.map CapacityPool.ledger)
    else ∃ e, pools.foldlM (cluster.addLedger kind) total = .error e := by
  induction pools generalizing total with
  | nil =>
    rw [if_pos (by simpa using total.nominal.toNat_lt)]
    exact ⟨total, rfl, htotal, isSum_singleton total⟩
  | cons pool pools ih =>
    have hrest := fun p hp => hpools p (List.mem_cons_of_mem pool hp)
    rw [List.map_cons, List.sum_cons, ← Nat.add_assoc, List.foldlM_cons]
    by_cases hfits : total.nominal.toNat + pool.ledger.nominal.toNat < 2 ^ 64
    · obtain ⟨sum, hround, hcloses, hsum⟩ :=
        addLedger_of_lt cluster kind htotal (hpools pool (by simp)) hfits
      rw [hround]
      have hnominal : sum.nominal.toNat = _ := hsum .nominal
      simp only [CapacityLedger.part, List.map_cons, List.map_nil, List.sum_cons, List.sum_nil,
        Nat.add_zero] at hnominal
      rw [← hnominal]
      have hloop := ih hrest hcloses
      split at hloop
      · rename_i hlt
        rw [if_pos hlt]
        obtain ⟨result, hresult, hresultCloses, hresultSum⟩ := hloop
        exact ⟨result, hresult, hresultCloses, hresultSum.trans hsum⟩
      · rename_i hge
        rw [if_neg hge]
        exact hloop
    · rw [if_neg (by omega)]
      obtain ⟨e, hround⟩ := @addLedger_of_le total pool cluster kind (by omega)
      exact ⟨e, by rw [hround]; rfl⟩

/-- The total fails exactly where the sum of the nominal capacities does not fit in 64 bits. Otherwise
    it is the sum, part by part, and closes. -/
theorem totalLedger_exact {cluster : ClusterRecord} {kind : ResourceKind}
    (hledgers : ∀ pool ∈ cluster.capacityPools, pool.ledger.validate = .ok ()) :
    let pools := cluster.capacityPools.filter fun pool => pool.kind = kind
    ((∃ e, cluster.totalLedger kind = .error e) ↔
        2 ^ 64 ≤ (pools.map fun pool => pool.ledger.nominal.toNat).sum) ∧
      ∀ total, cluster.totalLedger kind = .ok total →
        total.IsSum (pools.map CapacityPool.ledger) ∧ total.validate = .ok () := by
  intro pools
  have hcloses : ∀ pool ∈ pools, pool.ledger.Closes := fun pool hpool =>
    nominal_eq_sum (hledgers pool (List.mem_of_mem_filter hpool))
  have hloop := foldlM_addLedger cluster kind hcloses (show Closes {} from rfl)
  rw [show ({} : CapacityLedger).nominal.toNat = 0 from rfl, Nat.zero_add] at hloop
  have hrun : pools.foldlM (cluster.addLedger kind) {} = cluster.totalLedger kind := rfl
  simp only [hrun] at hloop
  split at hloop
  · rename_i hlt
    obtain ⟨sum, hrun, hsumCloses, hsum⟩ := hloop
    rw [hrun]
    refine ⟨iff_of_false ?_ (by omega), ?_⟩
    · rintro ⟨e, he⟩
      cases he
    · intro total htotal
      obtain rfl := Except.ok.inj htotal
      exact ⟨hsum.trans isSum_nil, validate_of_closes hsumCloses⟩
  · rename_i hge
    refine ⟨iff_of_true hloop (by omega), ?_⟩
    intro total htotal
    obtain ⟨e, he⟩ := hloop
    rw [he] at htotal
    cases htotal

theorem totalLedger_exact_two :
    let pool : UInt64 → CapacityPool := fun n =>
      { ledger := { nominal := n, allocated := 1, idle := n - 1 } }
    let cluster : ClusterRecord := { capacityPools := [pool 3, pool 5] }
    (∀ pool ∈ cluster.capacityPools, pool.ledger.validate = .ok ()) ∧
      ∀ total, cluster.totalLedger .accelerator = .ok total →
        total.IsSum [(pool 3).ledger, (pool 5).ledger] ∧ total.validate = .ok () := by
  intro pool cluster
  have hledgers : ∀ pool ∈ cluster.capacityPools, pool.ledger.validate = .ok () := by decide
  exact ⟨hledgers, (@totalLedger_exact cluster .accelerator hledgers).2⟩

end ClusterRecord

end FederationObservatory
