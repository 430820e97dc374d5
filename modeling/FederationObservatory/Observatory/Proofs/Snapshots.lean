import FederationObservatory.Observatory.Queries
import FederationObservatory.Observatory.Proofs.Keys

/-!
# What a snapshot includes

Of the records that belong to a snapshot, over all its collections, it includes those that come
first: as many as the budget has room for, and one more.
-/

namespace FederationObservatory

open StoredRecord (key)

variable {s : Impl}

/-! ## The account -/

/-- How many records fit into a budget. -/
def snapshotRoom (budget : Nat) : Nat := budget / snapshotRecordBytes

/-- The account after a number of records. -/
def SnapshotAccount.ofCount (budget n : Nat) : SnapshotAccount :=
  { estimate := min n (snapshotRoom budget + 1) * snapshotRecordBytes
    compatible := decide (n ≤ snapshotRoom budget)
    truncated := decide (snapshotRoom budget < n) }

theorem fits_iff (budget n : Nat) : n * snapshotRecordBytes ≤ budget ↔ n ≤ snapshotRoom budget := by
  unfold snapshotRoom
  exact (Nat.le_div_iff_mul_le (by decide)).symm

theorem ofCount_add {budget n : Nat} (h : n ≤ snapshotRoom budget) :
    (SnapshotAccount.ofCount budget n).add budget = SnapshotAccount.ofCount budget (n + 1) := by
  have hestimate : (SnapshotAccount.ofCount budget n).estimate + snapshotRecordBytes =
      (n + 1) * snapshotRecordBytes := by
    rw [SnapshotAccount.ofCount, Nat.min_eq_left (by omega), Nat.add_mul, Nat.one_mul]
  unfold SnapshotAccount.add
  rw [hestimate]
  by_cases hfits : n + 1 ≤ snapshotRoom budget
  · rw [if_pos ((fits_iff budget _).mpr hfits)]
    simp only [SnapshotAccount.ofCount, Nat.min_eq_left (show n + 1 ≤ snapshotRoom budget + 1 by omega),
      h, hfits, decide_true, SnapshotAccount.mk.injEq, true_and]
    simp only [decide_eq_decide]
    omega
  · rw [if_neg fun hle => hfits ((fits_iff budget _).mp hle)]
    simp only [SnapshotAccount.ofCount, Nat.min_eq_left (show n + 1 ≤ snapshotRoom budget + 1 by omega),
      hfits, decide_false, SnapshotAccount.mk.injEq, true_and]
    simp only [Bool.true_eq, decide_eq_true_eq]
    omega

theorem ofCount_of_lt {budget n m : Nat} (h : snapshotRoom budget < n) (hle : n ≤ m) :
    SnapshotAccount.ofCount budget m = SnapshotAccount.ofCount budget n := by
  simp only [SnapshotAccount.ofCount, SnapshotAccount.mk.injEq, decide_eq_decide]
  refine ⟨?_, by omega, by omega⟩
  rw [Nat.min_eq_right (by omega), Nat.min_eq_right (by omega)]

/-- Of the records that belong, the first ones are included. -/
theorem appendRecords_ofCount {ρ : Type} (budget n : Nat) (belongs : ρ → Bool)
    (records : List ρ) :
    appendRecords budget belongs records (.ofCount budget n) =
      ((records.filter belongs).take (snapshotRoom budget + 1 - n),
        .ofCount budget (n + (records.filter belongs).length)) := by
  induction records generalizing n with
  | nil => simp [appendRecords]
  | cons record records ih =>
    rw [appendRecords]
    cases hbelongs : belongs record with
    | false =>
      rw [Bool.false_and, if_neg Bool.false_ne_true, ih, List.filter_cons_of_neg (by simp [hbelongs])]
    | true =>
      rw [Bool.true_and, List.filter_cons_of_pos hbelongs]
      by_cases hroom : n ≤ snapshotRoom budget
      · have hcompatible : (SnapshotAccount.ofCount budget n).compatible = true :=
          decide_eq_true hroom
        rw [if_pos hcompatible, ofCount_add hroom, ih,
          show snapshotRoom budget + 1 - n = (snapshotRoom budget + 1 - (n + 1)) + 1 by omega,
          List.take_succ_cons, List.length_cons, Nat.add_assoc, Nat.add_comm 1]
      · have hcompatible : (SnapshotAccount.ofCount budget n).compatible ≠ true := by
          simpa [SnapshotAccount.ofCount] using hroom
        rw [if_neg hcompatible, ih, show snapshotRoom budget + 1 - n = 0 by omega]
        rw [List.take_zero, List.take_zero]
        rw [ofCount_of_lt (n := n) (by omega) (Nat.le_add_right n _),
          ofCount_of_lt (n := n) (by omega) (Nat.le_add_right n _)]

/-! ## The records that belong -/

/-- The records of a collection that belong to a snapshot. -/
def Impl.belonging (s : Impl) (restrictTo : FederationId) (k : RecordKind) : List k.Record :=
  (s.table k).values.filter (k.belongs restrictTo)

/-- The number of records of some collections that belong to a snapshot. -/
def Impl.belongingCount (s : Impl) (restrictTo : FederationId) (kinds : List RecordKind) : Nat :=
  (kinds.map fun k => (s.belonging restrictTo k).length).sum

theorem mem_belonging {restrictTo : FederationId} {k : RecordKind} {record : k.Record} :
    record ∈ s.belonging restrictTo k ↔
      (∃ id : k.Key, (s.table k)[id]? = some record) ∧ k.belongs restrictTo record = true := by
  rw [Impl.belonging, List.mem_filter, Tables.mem_values_iff]

/-- The records of a collection are in the order of their keys. -/
theorem pairwise_belonging (hfiled : s.Filed) (restrictTo : FederationId) (k : RecordKind) :
    (s.belonging restrictTo k).Pairwise fun a b => Sorting.less (key a) (key b) = true := by
  refine List.Pairwise.filter _ ?_
  have hkeys : (s.table k).values.map key = (s.table k).keys :=
    Tables.map_values_eq_keys (hfiled k)
  have hordered : ((s.table k).values.map key).Pairwise fun a b => compare a b = .lt :=
    hkeys ▸ Std.TreeMap.ordered_keys
  refine (List.pairwise_map.mp hordered).imp fun {a b} hlt => ?_
  simp [Sorting.less, hlt]

theorem snapshotAccount_eq (restrictTo : FederationId) (kinds : List RecordKind) :
    s.snapshotAccount restrictTo kinds =
      .ofCount s.bounds.maxSnapshotBytes (s.belongingCount restrictTo kinds) := by
  have hfold : ∀ n, kinds.foldl (fun account k => (s.appendTable restrictTo k account).2)
      (.ofCount s.bounds.maxSnapshotBytes n) =
        .ofCount s.bounds.maxSnapshotBytes (n + s.belongingCount restrictTo kinds) := by
    induction kinds with
    | nil => intro n; rfl
    | cons k kinds ih =>
      intro n
      rw [List.foldl_cons, Impl.appendTable, appendRecords_ofCount, ih]
      rw [Impl.belongingCount, Impl.belongingCount, List.map_cons, List.sum_cons, Nat.add_assoc]
      rfl
  have hstart : (SnapshotAccount.ofCount s.bounds.maxSnapshotBytes 0) = {} := by
    simp [SnapshotAccount.ofCount]
  rw [Impl.snapshotAccount, ← hstart, hfold, Nat.zero_add]

/-- A collection of a snapshot: those of its records that belong, as long as there is room after the
    collections before it. -/
theorem includedRecords_eq (hfiled : s.Filed) (restrictTo : FederationId) (k : RecordKind) :
    s.includedRecords restrictTo k =
      (s.belonging restrictTo k).take (snapshotRoom s.bounds.maxSnapshotBytes + 1 -
        s.belongingCount restrictTo (snapshotOrder.takeWhile (· ≠ k))) := by
  unfold Impl.includedRecords
  rw [Impl.appendTable, snapshotAccount_eq, appendRecords_ofCount]
  -- the records are appended in order, so the sort has nothing to do
  refine Sorting.stableSort_eq_self ?_
  exact ((pairwise_belonging hfiled restrictTo k).imp Sorting.less_asymm).sublist
    (List.take_sublist _ _)

/-- The number of records that belong to a snapshot and come before a key. -/
def Impl.belongingBefore (s : Impl) (restrictTo : FederationId) (k : RecordKind) (id : k.Key) :
    Nat :=
  s.belongingCount restrictTo (snapshotOrder.takeWhile (· ≠ k)) +
    ((s.belonging restrictTo k).filter fun record => Sorting.less (key record) id).length

/-- A record that belongs is included exactly when the budget has room for those that come before
    it. -/
theorem mem_includedRecords_iff (hfiled : s.Filed) {restrictTo : FederationId} {k : RecordKind}
    {record : k.Record} (h : record ∈ s.belonging restrictTo k) :
    record ∈ s.includedRecords restrictTo k ↔
      s.belongingBefore restrictTo k (key record) * snapshotRecordBytes ≤
        s.bounds.maxSnapshotBytes := by
  rw [fits_iff, includedRecords_eq hfiled,
    Sorting.mem_take_iff (pairwise_belonging hfiled restrictTo k) h]
  unfold Impl.belongingBefore
  omega

/-! ## Unrestricted snapshots -/

theorem belongs_empty (k : RecordKind) (record : k.Record) : k.belongs {} record = true := by
  cases k <;> rfl

theorem belonging_empty (k : RecordKind) : s.belonging {} k = (s.table k).values :=
  List.filter_eq_self.mpr fun record _ => belongs_empty k record

/-- The number of records of some collections. -/
def Impl.recordCount (s : Impl) (kinds : List RecordKind) : Nat :=
  (kinds.map fun k => (s.table k).size).sum

theorem belongingCount_empty (kinds : List RecordKind) :
    s.belongingCount {} kinds = s.recordCount kinds := by
  unfold Impl.belongingCount Impl.recordCount
  refine congrArg List.sum (List.map_congr_left fun k _ => ?_)
  rw [belonging_empty, Tables.values_eq_map_toList, List.length_map, Std.TreeMap.length_toList]

/-- The number of records that come before a record in a snapshot. -/
def Impl.recordsBefore (s : Impl) (k : RecordKind) (id : k.Key) : Nat :=
  s.recordCount (snapshotOrder.takeWhile (· ≠ k)) +
    ((s.table k).keys.filter fun other => compare other id == .lt).length

theorem belongingBefore_empty (hfiled : s.Filed) (k : RecordKind) (id : k.Key) :
    s.belongingBefore {} k id = s.recordsBefore k id := by
  unfold Impl.belongingBefore Impl.recordsBefore
  rw [belongingCount_empty, belonging_empty, ← Tables.map_values_eq_keys (hfiled k),
    List.filter_map, List.length_map]
  rfl

/-- The records of an unrestricted snapshot are stored. -/
theorem mem_table_of_mem_snapshot {k : RecordKind} {record : k.Record}
    (h : record ∈ (buildSnapshot s {}).records k) :
    ∃ id : k.Key, (s.table k)[id]? = some record := by
  have hmem := (Sorting.perm_stableSort _ _).mem_iff.mp h
  rw [Impl.appendTable, snapshotAccount_eq, appendRecords_ofCount] at hmem
  exact (mem_belonging.mp (List.mem_of_mem_take hmem)).1

/-- A stored record is in the unrestricted snapshot exactly when the budget has room for those that
    come before it. -/
theorem mem_snapshot_iff (hfiled : s.Filed) {k : RecordKind} {id : k.Key} {record : k.Record}
    (h : (s.table k)[id]? = some record) :
    record ∈ (buildSnapshot s {}).records k ↔
      s.recordsBefore k id * snapshotRecordBytes ≤ s.bounds.maxSnapshotBytes := by
  have hkey := hfiled k id record h
  rw [← belongingBefore_empty hfiled, ← hkey]
  exact mem_includedRecords_iff hfiled (mem_belonging.mpr ⟨⟨id, h⟩, belongs_empty k record⟩)

/-! ## Completeness -/

theorem belongingCount_append (restrictTo : FederationId) (before after : List RecordKind) :
    s.belongingCount restrictTo (before ++ after) =
      s.belongingCount restrictTo before + s.belongingCount restrictTo after := by
  simp [Impl.belongingCount]

/-- The collections that are appended before one, it, and those after it. -/
theorem snapshotOrder_split (k : RecordKind) :
    ∃ after, snapshotOrder = snapshotOrder.takeWhile (· ≠ k) ++ k :: after := by
  cases k <;> exact ⟨_, rfl⟩

theorem takeWhile_snapshotOrder {before : List RecordKind} {k : RecordKind}
    (h : before ++ [k] <+: snapshotOrder) : snapshotOrder.takeWhile (· ≠ k) = before := by
  obtain ⟨after, horder⟩ := h
  have hnodup : (before ++ [k] ++ after).Nodup := horder ▸ by decide
  rw [List.append_assoc, List.nodup_append] at hnodup
  have hbefore : ∀ k' ∈ before, decide (k' ≠ k) = true := by
    intro k' hk'
    exact decide_eq_true (hnodup.2.2 k' hk' k (by simp))
  rw [← horder, List.append_assoc, List.takeWhile_append_of_pos hbefore]
  simp

/-- A record that belongs is not among those that come before it. -/
theorem belongingBefore_lt {restrictTo : FederationId} {k : RecordKind} {record : k.Record}
    (h : record ∈ s.belonging restrictTo k) :
    s.belongingBefore restrictTo k (key record) < s.belongingCount restrictTo snapshotOrder := by
  obtain ⟨after, horder⟩ := snapshotOrder_split k
  have hcount : s.belongingCount restrictTo snapshotOrder =
      s.belongingCount restrictTo (snapshotOrder.takeWhile (· ≠ k)) +
        ((s.belonging restrictTo k).length + s.belongingCount restrictTo after) := by
    conv_lhs => rw [horder, belongingCount_append]
    simp only [Impl.belongingCount, List.map_cons, List.sum_cons]
  have hfewer : ((s.belonging restrictTo k).filter fun r => Sorting.less (key r) (key record)).length <
      (s.belonging restrictTo k).length := by
    refine List.length_filter_lt_length_iff_exists.mpr ⟨record, h, ?_⟩
    rw [Sorting.less_self]
    exact Bool.false_ne_true
  rw [hcount]
  unfold Impl.belongingBefore
  omega

/-- A record that belongs is missing from the snapshot. -/
def FederationSnapshot.Misses (snapshot : FederationSnapshot) (s : Impl)
    (restrictTo : FederationId) : Prop :=
  ∃ (k : RecordKind) (id : k.Key) (record : k.Record), (s.table k)[id]? = some record ∧
    k.belongs restrictTo record = true ∧ record ∉ snapshot.records k

/-- If no record is missing, the collections up to any of them fit. -/
theorem belongingCount_le_of_not_misses (hfiled : s.Filed) {restrictTo : FederationId}
    (h : ¬(buildSnapshot s restrictTo).Misses s restrictTo) {kinds : List RecordKind}
    (hkinds : kinds <+: snapshotOrder) :
    s.belongingCount restrictTo kinds ≤ snapshotRoom s.bounds.maxSnapshotBytes + 1 := by
  induction kinds using List.reverseRecOn with
  | nil => exact Nat.zero_le _
  | append_singleton before k ih =>
    have hbefore := ih ((List.prefix_append before [k]).trans hkinds)
    have hall : s.belonging restrictTo k ⊆ s.includedRecords restrictTo k := by
      intro record hrecord
      by_contra hmissing
      obtain ⟨⟨id, hstored⟩, hbelongs⟩ := mem_belonging.mp hrecord
      exact h ⟨k, id, record, hstored, hbelongs, hmissing⟩
    have hnodup : (s.belonging restrictTo k).Nodup :=
      (pairwise_belonging hfiled restrictTo k).imp fun {a b} hlt heq => by
        rw [heq, Sorting.less_self] at hlt
        cases hlt
    have hlength := (List.subperm_of_subset hnodup hall).length_le
    rw [includedRecords_eq hfiled, takeWhile_snapshotOrder hkinds, List.length_take] at hlength
    have hlast : s.belongingCount restrictTo [k] = (s.belonging restrictTo k).length := by
      simp [Impl.belongingCount]
    rw [belongingCount_append, hlast]
    omega

/-- A record is missing exactly when more records belong than the budget has room for, and one
    more. -/
theorem misses_iff (hfiled : s.Filed) (restrictTo : FederationId) :
    (buildSnapshot s restrictTo).Misses s restrictTo ↔
      snapshotRoom s.bounds.maxSnapshotBytes + 1 < s.belongingCount restrictTo snapshotOrder := by
  constructor
  · rintro ⟨k, id, record, hstored, hbelongs, hmissing⟩
    have hrecord := mem_belonging.mpr ⟨⟨id, hstored⟩, hbelongs⟩
    have hcut := mt (mem_includedRecords_iff hfiled hrecord).mpr hmissing
    rw [fits_iff] at hcut
    have hlt := belongingBefore_lt hrecord
    omega
  · intro hmany
    by_contra hnone
    have hfits := belongingCount_le_of_not_misses hfiled hnone (List.prefix_refl snapshotOrder)
    omega

/-- What a snapshot of a state promises: its records are the stored ones, each once, the accessors
    find exactly these, and it says so when one is missing. -/
structure FederationSnapshot.Shows (snapshot : FederationSnapshot) (s : Impl)
    (restrictTo : FederationId) : Prop where
  stored : ∀ (k : RecordKind), ∀ record ∈ snapshot.records k,
    (s.table k)[key record]? = some record ∧ k.belongs restrictTo record = true
  once : ∀ k : RecordKind, ((snapshot.records k).map key).Nodup
  found : ∀ (k : RecordKind) [DecidableEq k.Key] (id : k.Key),
    (snapshot.find k id).isSome = true ↔ ∃ record ∈ snapshot.records k, key record = id
  truncated : snapshot.truncated = true ↔ snapshot.Misses s restrictTo

/-- The included records are in the order the binary search of the accessors needs. -/
theorem pairwise_includedRecords (hfiled : s.Filed) (restrictTo : FederationId) (k : RecordKind) :
    (s.includedRecords restrictTo k).Pairwise fun a b =>
      Sorting.less (key a) (key b) = true := by
  rw [includedRecords_eq hfiled]
  exact (pairwise_belonging hfiled restrictTo k).sublist (List.take_sublist _ _)

theorem truncated_iff (restrictTo : FederationId) :
    (buildSnapshot s restrictTo).truncated = true ↔
      snapshotRoom s.bounds.maxSnapshotBytes < s.belongingCount restrictTo snapshotOrder := by
  change (s.snapshotAccount restrictTo snapshotOrder).truncated = true ↔ _
  rw [snapshotAccount_eq]
  simp only [SnapshotAccount.ofCount, decide_eq_true_eq]

/-- A snapshot keeps its promises exactly when the records that belong to it are not one more than
    its budget has room for: the record that overflows the budget is included, and reported as
    missing. -/
theorem snapshot_shows_iff (hreachable : Reachable s) (restrictTo : FederationId) :
    (buildSnapshot s restrictTo).Shows s restrictTo ↔
      s.belongingCount restrictTo snapshotOrder ≠
        s.bounds.maxSnapshotBytes / snapshotRecordBytes + 1 := by
  have hfiled := hreachable.filed
  have hmisses := misses_iff hfiled restrictTo
  have htruncated := truncated_iff (s := s) restrictTo
  change _ ↔ _ ≠ snapshotRoom s.bounds.maxSnapshotBytes + 1
  constructor
  · intro hshows
    have hsame := htruncated.symm.trans (hshows.truncated.trans hmisses)
    omega
  · intro hcount
    refine ⟨?_, ?_, ?_, ?_⟩
    · intro k record hrecord
      have hmem : record ∈ s.belonging restrictTo k := by
        change record ∈ s.includedRecords restrictTo k at hrecord
        rw [includedRecords_eq hfiled] at hrecord
        exact List.mem_of_mem_take hrecord
      obtain ⟨⟨id, hstored⟩, hbelongs⟩ := mem_belonging.mp hmem
      obtain rfl := hfiled k id record hstored
      exact ⟨hstored, hbelongs⟩
    · intro k
      refine List.pairwise_map.mpr ((pairwise_includedRecords hfiled restrictTo k).imp ?_)
      intro a b hlt heq
      rw [heq, Sorting.less_self] at hlt
      cases hlt
    · intro k _ id
      rw [Option.isSome_iff_exists]
      exact exists_congr fun record =>
        Sorting.find?_filter_eq_some (pairwise_includedRecords hfiled restrictTo k)
    · rw [htruncated, hmisses]
      omega

/-- The deployment with its workload has few records. -/
theorem snapshot_shows_deployment :
    (buildSnapshot Deployment.loaded {}).Shows Deployment.loaded {} :=
  (snapshot_shows_iff Deployment.reachable_loaded {}).mpr (by decide +kernel)

namespace Deployment

/-- The deployment with its workload under the smallest snapshot budget, which has room for five
    records. -/
def cramped : Impl :=
  (Impl.new { maxSnapshotBytes := 1024 }).run (operations ++ workloadOperations)

theorem reachable_cramped : Reachable cramped := (Reachable.new _).run _

end Deployment

/-- A snapshot of six records under a budget for five has all of them and is truncated. -/
theorem snapshot_truncated_though_complete :
    ¬∀ (s : Impl) (restrictTo : FederationId), Reachable s →
      (buildSnapshot s restrictTo).Shows s restrictTo := by
  intro h
  have hshows := h Deployment.cramped {} Deployment.reachable_cramped
  have hmisses := hshows.truncated.mp (by decide +kernel)
  rw [misses_iff Deployment.reachable_cramped.filed] at hmisses
  revert hmisses
  decide +kernel

/-! ## Precision -/

/-- A fold that keeps the weaker of two is at least as weak as where it starts and as everything it
    meets. -/
theorem rank_le_foldl {α β : Type} {rank : α → Nat} {op : α → α → α}
    (hop : ∀ a b, rank (op a b) = max (rank a) (rank b)) (f : β → α) (l : List β) (start : α) :
    rank start ≤ rank (l.foldl (fun a b => op a (f b)) start) ∧
      ∀ b ∈ l, rank (f b) ≤ rank (l.foldl (fun a b => op a (f b)) start) := by
  induction l generalizing start with
  | nil => simp
  | cons c l ih =>
    obtain ⟨hstart, hmem⟩ := ih (op start (f c))
    rw [hop] at hstart
    rw [List.foldl_cons]
    refine ⟨by omega, ?_⟩
    intro b hb
    rcases List.mem_cons.mp hb with rfl | hb
    · omega
    · exact hmem b hb

/-- The stamp is not stronger than what is said of its precision and evidence class. -/
def ObservationStamp.NotStronger (stamp : ObservationStamp) (subject : SnapshotSubject) : Prop :=
  stamp.precision.rank ≤ subject.precision.rank ∧
    stamp.evidenceClass.rank ≤ subject.evidenceClass.rank
  deriving Decidable

/-- An unrestricted snapshot is weakened by every cluster. -/
theorem notStronger_weaken {restrictTo : FederationId} (hall : restrictTo.empty = true)
    (subject : SnapshotSubject) {clusters : List ClusterRecord} {cluster : ClusterRecord}
    (h : cluster ∈ clusters) : cluster.stamp.NotStronger (subject.weaken restrictTo clusters) := by
  cases clusters with
  | nil => cases h
  | cons first rest =>
    simp only [SnapshotSubject.weaken, hall, if_true]
    constructor
    · have hfold := (rank_le_foldl Precision.rank_weakest (fun c : ClusterRecord => c.stamp.precision)
        (first :: rest) first.stamp.precision).2 cluster h
      rw [Precision.rank_weakest]
      omega
    · have hfold := (rank_le_foldl EvidenceClass.rank_weaker
        (fun c : ClusterRecord => c.stamp.evidenceClass) (first :: rest)
        first.stamp.evidenceClass).2 cluster h
      rw [EvidenceClass.rank_weaker]
      omega

/-- The clusters do not weaken a restricted one. -/
theorem weaken_restricted {restrictTo : FederationId} (hrestricted : restrictTo.empty = false)
    (subject : SnapshotSubject) (clusters : List ClusterRecord) :
    subject.weaken restrictTo clusters = subject := by
  cases clusters with
  | nil => rfl
  | cons first rest => simp only [SnapshotSubject.weaken, hrestricted, Bool.false_eq_true, if_false]

theorem notStronger_unknown (stamp : ObservationStamp) : stamp.NotStronger {} := by
  constructor
  · cases stamp.precision <;> decide
  · cases stamp.evidenceClass <;> decide

/-- A snapshot does not overstate the evidence of any cluster it includes. -/
def FederationSnapshot.Pessimistic (snapshot : FederationSnapshot) : Prop :=
  ∀ cluster ∈ snapshot.records .cluster,
    ObservationStamp.NotStronger (ClusterRecord.stamp cluster) snapshot.toSnapshotSubject

/-- The stamp of the federation is at least as weak as that of every cluster of the federation for
    which a snapshot has room. -/
def Impl.FederationIsWeakest (s : Impl) (id : FederationId) : Prop :=
  ∀ (federation : FederationRecord) (at' : ClusterId) (cluster : ClusterRecord),
    s.federations[id]? = some federation → s.clusters[at']? = some cluster →
    cluster.federation = id →
    s.belongingBefore id .cluster at' * snapshotRecordBytes ≤ s.bounds.maxSnapshotBytes →
    cluster.stamp.NotStronger (federation.subject id)

/-- A snapshot never overstates its clusters, exactly when it is unrestricted or restricted to a
    federation that is stamped at least as weak as they are. -/
theorem snapshot_pessimistic_iff (hreachable : Reachable s) (restrictTo : FederationId) :
    (buildSnapshot s restrictTo).Pessimistic ↔
      restrictTo.empty = true ∨ s.FederationIsWeakest restrictTo := by
  have hfiled := hreachable.filed
  cases hall : restrictTo.empty with
  | true =>
    simp only [true_or, iff_true]
    intro cluster hcluster
    exact notStronger_weaken hall _ hcluster
  | false =>
    simp only [Bool.false_eq_true, false_or]
    have hsubject : (buildSnapshot s restrictTo).toSnapshotSubject =
        (s.federations[restrictTo]?).elim {} (·.subject restrictTo) := by
      change (s.snapshotSubject restrictTo).weaken restrictTo _ = _
      rw [weaken_restricted hall, Impl.snapshotSubject, if_neg (Bool.not_eq_true _ ▸ hall)]
      cases s.federations[restrictTo]? <;> rfl
    have hmem : ∀ {at' : ClusterId} {cluster : ClusterRecord}, s.clusters[at']? = some cluster →
        cluster.federation = restrictTo →
        (cluster ∈ (buildSnapshot s restrictTo).records .cluster ↔
          s.belongingBefore restrictTo .cluster at' * snapshotRecordBytes ≤
            s.bounds.maxSnapshotBytes) := by
      intro at' cluster hstored hfederation
      obtain rfl := hfiled .cluster at' cluster hstored
      refine mem_includedRecords_iff hfiled (k := .cluster) (mem_belonging.mpr ⟨⟨_, hstored⟩, ?_⟩)
      simp [RecordKind.belongs, hfederation]
    unfold FederationSnapshot.Pessimistic
    rw [hsubject]
    constructor
    · intro h federation at' cluster hfederation hstored hbelongs hroom
      have hcluster := h cluster ((hmem hstored hbelongs).mpr hroom)
      rw [hfederation] at hcluster
      exact hcluster
    · intro h cluster hcluster
      cases hfederation : s.federations[restrictTo]? with
      | none => exact notStronger_unknown _
      | some federation =>
        have hrecord : cluster ∈ s.belonging restrictTo .cluster := by
          change cluster ∈ s.includedRecords restrictTo .cluster at hcluster
          rw [includedRecords_eq hfiled] at hcluster
          exact List.mem_of_mem_take hcluster
        obtain ⟨⟨at', hstored⟩, hbelongs⟩ := mem_belonging.mp hrecord
        have hsame : ClusterRecord.federation cluster = restrictTo := by
          simpa [RecordKind.belongs, hall] using hbelongs
        exact h federation at' cluster hfederation hstored hsame
          ((hmem hstored hsame).mp hcluster)

/-- The deployment's publisher stamps everything alike. -/
theorem snapshot_pessimistic_deployment :
    (buildSnapshot Deployment.loaded {}).Pessimistic ∧
      (buildSnapshot Deployment.loaded Deployment.federation.id).Pessimistic := by
  refine ⟨(snapshot_pessimistic_iff Deployment.reachable_loaded {}).mpr (.inl rfl),
    (snapshot_pessimistic_iff Deployment.reachable_loaded _).mpr (.inr ?_)⟩
  intro federation at' cluster hfederation hcluster _ _
  have hstamps : ∀ f ∈ Deployment.loaded.federations.values,
      ∀ c ∈ Deployment.loaded.clusters.values,
        c.stamp.NotStronger (f.subject Deployment.federation.id) := by
    decide +kernel
  exact hstamps federation (Tables.mem_values_iff.mpr ⟨_, hfederation⟩) cluster
    (Tables.mem_values_iff.mpr ⟨_, hcluster⟩)

namespace Deployment

/-- The deployment with a second cluster, which was only inferred. -/
def inferred : Impl :=
  state.run [.submit {} { context 5 with precision := .inferred } (.publish (.registerCluster standby))]

theorem reachable_inferred : Reachable inferred := reachable_state.run _

end Deployment

/-- A snapshot of the federation calls itself exact, with the inferred cluster in it. -/
theorem snapshot_overstates :
    ¬∀ (s : Impl) (restrictTo : FederationId), Reachable s →
      (buildSnapshot s restrictTo).Pessimistic := by
  intro h
  have hpessimistic := h Deployment.inferred Deployment.federation.id Deployment.reachable_inferred
  revert hpessimistic
  unfold FederationSnapshot.Pessimistic
  decide +kernel

/-! ## Snapshot generations -/

/-- What a call does to the snapshot generation: it keeps it together with the records, or moves
    it on. -/
inductive SnapshotStep (s t : Impl) : Prop where
  | kept (hrecords : t.toCollections = s.toCollections)
      (h : t.snapshotGeneration = s.snapshotGeneration)
  | advanced (h : s.snapshotGeneration.next ≤ t.snapshotGeneration)

/-- Registering a cluster under a newer generation moves the snapshot generation twice. -/
theorem snapshotGeneration_registerCluster (s : Impl) (clock : Clock) (ctx : PublicationContext)
    (record : ClusterRecord) :
    s.snapshotGeneration.next ≤ (s.registerCluster clock ctx record).snapshotGeneration := by
  unfold Impl.registerCluster
  split
  · exact Generation.le_next _
  · exact Generation.le_refl _

theorem snapshotGeneration_recordMigration (s : Impl) (clock : Clock) (ctx : PublicationContext)
    (record : MigrationRecord) :
    (s.recordMigration clock ctx record).snapshotGeneration = s.snapshotGeneration.next := by
  unfold Impl.recordMigration
  split <;> rfl

theorem snapshotGeneration_storeAdvanced (s : Impl) (cluster : ClusterId) (record : ClusterRecord)
    (generation : ClusterGeneration) :
    (s.storeAdvanced cluster record generation).snapshotGeneration = s.snapshotGeneration := by
  unfold Impl.storeAdvanced
  split <;> rfl

/-- What an accepted publication writes, it writes under a later snapshot generation. -/
theorem snapshotGeneration_written {clock : Clock} {ctx : PublicationContext} {p : Publication}
    {duplicate : Bool} (h : p.Accepts s ctx duplicate) :
    s.snapshotGeneration.next ≤ (p.written s clock ctx).snapshotGeneration := by
  cases p with
  | registerCluster record => exact snapshotGeneration_registerCluster s clock ctx record
  | publishMigration record =>
    exact (snapshotGeneration_recordMigration s clock ctx record) ▸ Generation.le_refl _
  | retireCluster cluster generation reason =>
    obtain ⟨record, hstored, -⟩ := h
    simp only [Publication.written, hstored]
    exact Generation.le_refl _
  | publishCapability cluster clusterGeneration generation capabilities =>
    obtain ⟨-, record, hstored, -⟩ := h
    simp only [Publication.written, hstored]
    change _ ≤ (s.storeAdvanced cluster record clusterGeneration).snapshotGeneration.next
    rw [snapshotGeneration_storeAdvanced]
    exact Generation.le_refl _
  | publishCapacity cluster clusterGeneration generation pools =>
    obtain ⟨-, record, hstored, -⟩ := h
    simp only [Publication.written, hstored]
    exact Generation.le_refl _
  | publishMigrationStage migration generation stage detail =>
    obtain ⟨record, hstored, -⟩ := h
    simp only [Publication.written, hstored]
    exact Generation.le_refl _
  | _ => exact Generation.le_refl _

theorem SnapshotStep.of_preserved {t : Impl} (h : s.Preserved t) : SnapshotStep s t :=
  .kept h.collections h.snapshotGeneration

theorem SnapshotStep.of_request (clock : Clock) (ctx : PublicationContext) (request : Request) :
    SnapshotStep s (request.run s clock ctx).state := by
  cases request with
  | registerPublisher =>
    change SnapshotStep s (registerPublisher s clock ctx).state
    obtain ⟨r, hrun, hpreserved⟩ | ⟨check, detail, -, hrun⟩ | ⟨r, -, -, -, -, hrun⟩ :=
      registerPublisher_cases s clock ctx
    · rw [hrun]
      exact .of_preserved hpreserved
    · rw [hrun]
      exact .kept rfl rfl
    · rw [hrun]
      exact .advanced (Generation.le_refl _)
  | publish p =>
    change SnapshotStep s (p.run s clock ctx).state
    obtain ⟨r, hrun, hpreserved⟩ | ⟨check, disposition, detail, -, -, hrun⟩ |
      ⟨check, detail, -, haccepts, hrun⟩ := p.run_cases s clock ctx
    · rw [hrun]
      exact .of_preserved hpreserved
    · rw [hrun]
      exact .kept rfl rfl
    · rw [hrun]
      exact .advanced (snapshotGeneration_written haccepts)

/-- Every call, restores included. -/
theorem Operation.snapshotStep (s : Impl) (operation : Operation) :
    SnapshotStep s (operation.next s) := by
  cases hrestores : operation.restores s with
  | some d =>
    rw [next_of_restores hrestores]
    exact .advanced (Generation.le_refl _)
  | none =>
    cases operation with
    | submit clock ctx request => exact .of_request clock ctx request
    | fencePublisher publisher boot reason =>
      change SnapshotStep s (FederationObservatory.fencePublisher s publisher boot reason).2
      rcases fencePublisher_cases s publisher boot reason with
        ⟨e, hrun⟩ | ⟨-, hrun⟩ | ⟨authority, -, hrun⟩
      · rw [hrun]
        exact .kept rfl rfl
      · rw [hrun]
        exact .kept rfl rfl
      · rw [hrun]
        exact .advanced (Generation.le_refl _)
    | invalidateDynamicEvidence reason => exact .advanced (Generation.le_refl _)
    | saveState now => exact .kept rfl rfl
    | loadState file =>
      rw [loadState_next_of_none hrestores]
      exact .kept rfl rfl
    | restore d =>
      rw [restore_next_of_none hrestores]
      exact .kept rfl rfl

theorem SnapshotStep.le {t : Impl} (h : SnapshotStep s t) :
    s.snapshotGeneration ≤ t.snapshotGeneration := by
  cases h with
  | kept hrecords h => exact h ▸ Generation.le_refl _
  | advanced h => exact Generation.le_trans (Generation.le_next _) h

/-- Below saturation a call that changes a record moves the snapshot generation on. -/
theorem SnapshotStep.lt {t : Impl} (h : SnapshotStep s t)
    (hroom : s.snapshotGeneration.value ≠ 0xFFFFFFFFFFFFFFFF)
    (hchanged : t.toCollections ≠ s.toCollections) :
    s.snapshotGeneration < t.snapshotGeneration := by
  cases h with
  | kept hrecords h => exact absurd hrecords hchanged
  | advanced h =>
    exact UInt64.lt_of_lt_of_le ((Generation.lt_next_iff _).mpr hroom) h

/-- A run that ends at the snapshot generation it began with, below saturation, ends with the
    records it began with. -/
theorem collections_run_of_snapshotGeneration (operations : List Operation)
    (hroom : s.snapshotGeneration.value ≠ 0xFFFFFFFFFFFFFFFF)
    (hsame : (s.run operations).snapshotGeneration = s.snapshotGeneration) :
    (s.run operations).toCollections = s.toCollections := by
  induction operations generalizing s with
  | nil => rfl
  | cons operation operations ih =>
    have hstep := operation.snapshotStep s
    have hrest : (operation.next s).snapshotGeneration ≤
        ((operation.next s).run operations).snapshotGeneration :=
      Runs.invariant (P := fun _ _ => True)
        (I := fun t : Impl => (operation.next s).snapshotGeneration ≤ t.snapshotGeneration)
        (fun t (call : Operation) _ ht => Generation.le_trans ht (call.snapshotStep t).le)
        (Runs.along_of_forall fun _ _ => trivial) (Generation.le_refl _)
    -- the generation after the first call lies between two equal ones
    have hfirst : (operation.next s).snapshotGeneration = s.snapshotGeneration :=
      Generation.ext (UInt64.le_antisymm (hsame ▸ hrest) hstep.le)
    have hrecords : (operation.next s).toCollections = s.toCollections := by
      by_contra hchanged
      have hlt := hstep.lt hroom hchanged
      rw [hfirst] at hlt
      exact UInt64.lt_irrefl _ hlt
    exact (ih (hfirst ▸ hroom) (hsame.trans hfirst.symm)).trans hrecords

/-- In every run two states with one snapshot generation, below saturation, have the same records,
    and every call that changes a record moves the snapshot generation on. -/
theorem snapshotGeneration_identifies (s : Impl) (operations : List Operation) :
    (∀ before after, before <+: operations → after <+: operations →
      (s.run before).snapshotGeneration = (s.run after).snapshotGeneration →
      (s.run before).snapshotGeneration.value ≠ 0xFFFFFFFFFFFFFFFF →
      (s.run before).toCollections = (s.run after).toCollections) ∧
    s.Along (fun t operation => t.snapshotGeneration.value ≠ 0xFFFFFFFFFFFFFFFF →
      (operation.next t).toCollections ≠ t.toCollections →
      t.snapshotGeneration < (operation.next t).snapshotGeneration) operations := by
  constructor
  · intro before after hbefore hafter hsame hroom
    -- of two prefixes of one run, one continues the other
    rcases List.prefix_or_prefix_of_prefix hbefore hafter with ⟨rest, rfl⟩ | ⟨rest, rfl⟩
    · have hrun : s.run (before ++ rest) = (s.run before).run rest := Runs.run_append before rest
      rw [hrun] at hsame ⊢
      exact (collections_run_of_snapshotGeneration rest hroom hsame.symm).symm
    · have hrun : s.run (after ++ rest) = (s.run after).run rest := Runs.run_append after rest
      rw [hrun] at hsame hroom ⊢
      exact collections_run_of_snapshotGeneration rest (hsame ▸ hroom) hsame
  · exact Runs.along_iff_before.mpr fun before operation _ hroom hchanged =>
      (operation.snapshotStep _).lt hroom hchanged

end FederationObservatory
