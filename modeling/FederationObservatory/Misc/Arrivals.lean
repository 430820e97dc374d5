import Mathlib

/-!
# Arrivals

Things that were observed at one time and arrive in another order. Of the arrivals one is kept; an
arrival replaces the kept one when the time it claims is later than the time of the kept one. What
it claims need not be its own time: it may be a default that says nothing.
-/

namespace Arrivals

section Timed

variable {α ι : Type}

/-- Arrivals at different times, none of them the default, that each claim their own time or the
    default. -/
structure Timed (time claimed : α → ι) (default : ι) (l : List α) : Prop where
  distinct : l.Pairwise fun a b => time a ≠ time b
  ne_default : ∀ a ∈ l, time a ≠ default
  claims : ∀ a ∈ l, claimed a = default ∨ claimed a = time a

variable {time claimed : α → ι} {default : ι} {l before after : List α} {a b : α}

namespace Timed

theorem tail (h : Timed time claimed default (a :: l)) : Timed time claimed default l :=
  ⟨h.distinct.of_cons, fun b hb => h.ne_default b (List.mem_cons_of_mem _ hb),
    fun b hb => h.claims b (List.mem_cons_of_mem _ hb)⟩

theorem left (h : Timed time claimed default (before ++ after)) :
    Timed time claimed default before :=
  ⟨(List.pairwise_append.mp h.distinct).1, fun a ha => h.ne_default a (List.mem_append_left _ ha),
    fun a ha => h.claims a (List.mem_append_left _ ha)⟩

theorem right (h : Timed time claimed default (before ++ after)) :
    Timed time claimed default after :=
  ⟨(List.pairwise_append.mp h.distinct).2.1,
    fun a ha => h.ne_default a (List.mem_append_right _ ha),
    fun a ha => h.claims a (List.mem_append_right _ ha)⟩

theorem ne_of_mem_before (h : Timed time claimed default (before ++ a :: after))
    (hb : b ∈ before) : time b ≠ time a :=
  (List.pairwise_append.mp h.distinct).2.2 b hb a List.mem_cons_self

theorem ne_of_mem_after (h : Timed time claimed default (before ++ a :: after))
    (hb : b ∈ after) : time a ≠ time b :=
  List.rel_of_pairwise_cons (List.pairwise_append.mp h.distinct).2.1 hb

/-- No arrival claims the time of one that came before it. -/
theorem claimed_ne (h : Timed time claimed default (before ++ a :: after)) (hb : b ∈ before) :
    time b ≠ claimed a := by
  have hmem : a ∈ before ++ a :: after := List.mem_append_right _ List.mem_cons_self
  rcases h.claims a hmem with hclaim | hclaim
  · rw [hclaim]
    exact h.ne_default b (List.mem_append_left _ hb)
  · rw [hclaim]
    exact h.ne_of_mem_before hb

end Timed

end Timed

variable {α ι : Type} [LinearOrder ι]

/-- Is an arrival kept, given what is kept already? -/
def installs (time claimed : α → ι) (kept : Option α) (a : α) : Bool :=
  match kept with
  | none => true
  | some k => decide (time k < claimed a)

/-- What is kept after an arrival. -/
def keep (time claimed : α → ι) (kept : Option α) (a : α) : Option α :=
  if installs time claimed kept a then some a else kept

variable {time claimed : α → ι} {default : ι} {l before after : List α} {a b k : α}

@[simp] theorem keep_none : keep time claimed none a = some a := rfl

theorem keep_some :
    keep time claimed (some k) a = if time k < claimed a then some a else some k := by
  simp [keep, installs]

/-- What is kept was kept before, or arrived. -/
theorem mem_of_foldl_keep {kept : Option α} (h : l.foldl (keep time claimed) kept = some a) :
    kept = some a ∨ a ∈ l := by
  induction l generalizing kept with
  | nil => exact .inl h
  | cons b l ih =>
    rcases ih h with hkept | hmem
    · unfold keep at hkept
      split at hkept
      · obtain rfl := Option.some.inj hkept
        exact .inr List.mem_cons_self
      · exact .inl hkept
    · exact .inr (List.mem_cons_of_mem _ hmem)

/-- Something is kept once something arrived. -/
theorem exists_foldl_keep (l : List α) (a : α) :
    ∃ k, l.foldl (keep time claimed) (some a) = some k := by
  induction l generalizing a with
  | nil => exact ⟨a, rfl⟩
  | cons b l ih =>
    rw [List.foldl_cons, keep_some]
    split
    · exact ih b
    · exact ih a

/-- What is kept stays while nothing claims to be newer. -/
theorem foldl_keep_of_le (h : ∀ b ∈ l, claimed b ≤ time a) :
    l.foldl (keep time claimed) (some a) = some a := by
  induction l with
  | nil => rfl
  | cons b l ih =>
    have hb : ¬time a < claimed b := not_lt.mpr (h b List.mem_cons_self)
    rw [List.foldl_cons, keep_some, if_neg hb]
    exact ih fun c hc => h c (List.mem_cons_of_mem _ hc)

/-- Where every arrival claims its own time, the first of the latest ones is kept. -/
theorem kept_latest_iff :
    l.foldl (keep time time) none = some a ↔
      ∃ before after, l = before ++ a :: after ∧ (∀ b ∈ before, time b < time a) ∧
        ∀ b ∈ after, time b ≤ time a := by
  constructor
  · intro h
    induction l using List.reverseRecOn generalizing a with
    | nil => cases h
    | append_singleton l b ih =>
      rw [List.foldl_append, List.foldl_cons, List.foldl_nil] at h
      cases hkept : l.foldl (keep time time) none with
      | none =>
        have hl : l = [] := by
          cases l with
          | nil => rfl
          | cons c l =>
            obtain ⟨k, hk⟩ := @exists_foldl_keep _ _ _ time time l c
            rw [List.foldl_cons, keep_none, hk] at hkept
            cases hkept
        rw [hkept, keep_none, Option.some.injEq] at h
        subst hl h
        exact ⟨[], [], rfl, by simp, by simp⟩
      | some k =>
        obtain ⟨before, after, hl, hbefore, hafter⟩ := ih hkept
        rw [hkept, keep_some] at h
        split at h
        · next hlt =>
          obtain rfl := Option.some.inj h
          refine ⟨l, [], rfl, ?_, by simp⟩
          intro c hc
          rw [hl, List.mem_append, List.mem_cons] at hc
          rcases hc with hc | rfl | hc
          · exact (hbefore c hc).trans hlt
          · exact hlt
          · exact (hafter c hc).trans_lt hlt
        · next hle =>
          obtain rfl := Option.some.inj h
          refine ⟨before, after ++ [b], by rw [hl, List.append_assoc, List.cons_append], hbefore, ?_⟩
          intro c hc
          rcases List.mem_append.mp hc with hc | hc
          · exact hafter c hc
          · rw [List.mem_singleton.mp hc]
            exact not_lt.mp hle
  · rintro ⟨before, after, rfl, hbefore, hafter⟩
    rw [List.foldl_append, List.foldl_cons]
    have hinstalled : keep time time (before.foldl (keep time time) none) a = some a := by
      cases hfirst : before.foldl (keep time time) none with
      | none => rfl
      | some k =>
        have hk : k ∈ before := (mem_of_foldl_keep hfirst).resolve_left (by simp)
        rw [keep_some, if_pos (hbefore k hk)]
    rw [hinstalled]
    exact foldl_keep_of_le hafter

/-- What is kept, if it is later than the default, is only replaced by such. -/
theorem default_lt_of_foldl_keep (h : Timed time claimed default l) (hb : default < time b)
    (hkept : l.foldl (keep time claimed) (some b) = some k) : default < time k := by
  induction l generalizing b with
  | nil =>
    obtain rfl := Option.some.inj hkept
    exact hb
  | cons c l ih =>
    rw [List.foldl_cons, keep_some] at hkept
    split at hkept
    · rename_i hlt
      refine ih h.tail ?_ hkept
      rcases h.claims c List.mem_cons_self with hclaim | hclaim
      · exact absurd (hb.trans (hclaim ▸ hlt)) (lt_irrefl _)
      · exact hb.trans (hclaim ▸ hlt)
    · exact ih h.tail hb hkept

/-- What is kept is later than the default if any arrival was. -/
theorem default_lt_kept (h : Timed time claimed default l) (hb : b ∈ l) (hlt : default < time b) :
    ∃ k, l.foldl (keep time claimed) none = some k ∧ default < time k := by
  obtain ⟨before, after, rfl⟩ := List.append_of_mem hb
  rw [List.foldl_append, List.foldl_cons]
  have hlater : ∀ c : α, default < time c →
      ∃ k, after.foldl (keep time claimed) (some c) = some k ∧ default < time k := by
    intro c hc
    obtain ⟨k, hk⟩ := @exists_foldl_keep _ _ _ time claimed after c
    exact ⟨k, hk, default_lt_of_foldl_keep h.right.tail hc hk⟩
  cases hfirst : before.foldl (keep time claimed) none with
  | none => exact hlater b hlt
  | some c =>
    rw [keep_some]
    split
    · exact hlater b hlt
    · rename_i hle
      -- the arrival is turned away only by something later than what it claims
      apply hlater
      have hc : c ∈ before := (mem_of_foldl_keep hfirst).resolve_left (by simp)
      have hclaimed : default ≤ claimed b := by
        rcases h.claims b hb with hclaim | hclaim
        · exact hclaim.ge
        · exact hclaim ▸ hlt.le
      exact lt_of_le_of_ne (hclaimed.trans (not_lt.mp hle)) (h.left.ne_default c hc).symm

/-- The newest arrival is kept at the end exactly when it claims to be newer than all that came
    before it, and none that came after it claims to be newer. -/
theorem kept_newest_iff (h : Timed time claimed default l) :
    (l.foldl (keep time claimed) none = some a ∧ ∀ b ∈ l, time b ≤ time a) ↔
      ∃ before after, l = before ++ a :: after ∧
        (∀ b ∈ before, time b < time a ∧ time b < claimed a) ∧
        ∀ b ∈ after, time b < time a ∧ claimed b < time a := by
  constructor
  · intro ⟨hkept, hnewest⟩
    have hmem : a ∈ l := (mem_of_foldl_keep hkept).resolve_left (by simp)
    obtain ⟨before, after, rfl⟩ := List.append_of_mem hmem
    have hbefore : ∀ b ∈ before, time b < time a := by
      intro b hb
      exact lt_of_le_of_ne (hnewest b (List.mem_append_left _ hb)) (h.ne_of_mem_before hb)
    have hafter : ∀ b ∈ after, time b < time a := by
      intro b hb
      exact lt_of_le_of_ne (hnewest b (List.mem_append_right _ (List.mem_cons_of_mem _ hb)))
        (h.ne_of_mem_after hb).symm
    -- nothing after `a` has its time, so once `a` is not kept it does not come back
    have hlost : ∀ l' : List α, (∀ b ∈ l', b ∈ after) → ∀ c : Option α, c ≠ some a →
        l'.foldl (keep time claimed) c ≠ some a := by
      intro l' hl' c hc heq
      rcases mem_of_foldl_keep heq with hcontra | hcontra
      · exact hc hcontra
      · exact lt_irrefl _ (hafter a (hl' a hcontra))
    rw [List.foldl_append, List.foldl_cons] at hkept
    have hinstalled : keep time claimed (before.foldl (keep time claimed) none) a = some a := by
      by_contra hne
      exact hlost after (fun _ hb => hb) _ hne hkept
    refine ⟨before, after, rfl, fun b hb => ⟨hbefore b hb, ?_⟩, fun b hb => ⟨hafter b hb, ?_⟩⟩
    · by_contra hle
      rcases h.claims a hmem with hclaim | hclaim
      · have hdefault : default < time b :=
          lt_of_le_of_ne (hclaim ▸ not_lt.mp hle) (h.left.ne_default b hb).symm
        obtain ⟨k, hk, hlt⟩ := default_lt_kept h.left hb hdefault
        have hkmem : k ∈ before := (mem_of_foldl_keep hk).resolve_left (by simp)
        rw [hk, keep_some, if_neg (hclaim ▸ hlt.not_gt), Option.some_inj] at hinstalled
        exact h.ne_of_mem_before hkmem (congrArg time hinstalled)
      · exact hle (hclaim ▸ hbefore b hb)
    · rw [hinstalled] at hkept
      obtain ⟨first, rest, rfl⟩ := List.append_of_mem hb
      rw [List.foldl_append, List.foldl_cons] at hkept
      have hstays : first.foldl (keep time claimed) (some a) = some a := by
        by_contra hne
        refine hlost (b :: rest) (fun c hc => List.mem_append_right _ hc) _ hne ?_
        exact hkept
      rw [hstays] at hkept
      have hnot : ¬time a < claimed b := by
        intro hlt
        rw [keep_some, if_pos hlt] at hkept
        refine hlost rest (fun c hc => List.mem_append_right _ (List.mem_cons_of_mem _ hc)) _ ?_
          hkept
        intro heq
        exact (hafter b hb).ne (congrArg time (Option.some.inj heq))
      have hsplit : Timed time claimed default ((before ++ a :: first) ++ b :: rest) := by
        rw [List.append_assoc]
        exact h
      refine lt_of_le_of_ne (not_lt.mp hnot) ?_
      exact (hsplit.claimed_ne (List.mem_append_right _ List.mem_cons_self)).symm
  · intro ⟨before, after, hl, hbefore, hafter⟩
    subst hl
    constructor
    · rw [List.foldl_append, List.foldl_cons]
      have hinstalled : keep time claimed (before.foldl (keep time claimed) none) a = some a := by
        cases hfirst : before.foldl (keep time claimed) none with
        | none => rfl
        | some k =>
          have hk : k ∈ before := (mem_of_foldl_keep hfirst).resolve_left (by simp)
          rw [keep_some, if_pos (hbefore k hk).2]
      rw [hinstalled]
      exact foldl_keep_of_le fun b hb => (hafter b hb).2.le
    · intro b hb
      rcases List.mem_append.mp hb with hb | hb
      · exact (hbefore b hb).1.le
      · rcases List.mem_cons.mp hb with rfl | hb
        · exact le_refl _
        · exact (hafter b hb).1.le

/-- Next to the first arrival none is kept exactly when none claims to be newer. -/
theorem not_installs_iff (h : Timed time claimed default (a :: l)) :
    (∀ before b, before ++ [b] <+: l →
        installs time claimed (before.foldl (keep time claimed) (some a)) b = false) ↔
      ∀ b ∈ l, claimed b < time a := by
  have hle : (∀ before b, before ++ [b] <+: l →
      installs time claimed (before.foldl (keep time claimed) (some a)) b = false) →
        ∀ b ∈ l, claimed b ≤ time a := by
    clear h
    intro hnone
    induction l with
    | nil => intro b hb; cases hb
    | cons c l ih =>
      have hc : claimed c ≤ time a := by
        have hfirst := hnone [] c ⟨l, rfl⟩
        simpa [installs] using hfirst
      intro b hb
      rcases List.mem_cons.mp hb with rfl | hb
      · exact hc
      · refine ih ?_ b hb
        intro before d hstart
        have hlater := hnone (c :: before) d (List.cons_prefix_cons.mpr ⟨rfl, hstart⟩)
        rwa [List.foldl_cons, keep_some, if_neg (not_lt.mpr hc)] at hlater
  constructor
  · intro hnone b hb
    refine lt_of_le_of_ne (hle hnone b hb) ?_
    obtain ⟨before, after, rfl⟩ := List.append_of_mem hb
    have hsplit : Timed time claimed default ((a :: before) ++ b :: after) := h
    exact (hsplit.claimed_ne List.mem_cons_self).symm
  · intro hlt before b hstart
    have hbefore : ∀ c ∈ before, claimed c ≤ time a := fun c hc =>
      (hlt c (hstart.subset (List.mem_append_left _ hc))).le
    have hb : b ∈ l := hstart.subset (List.mem_append_right _ List.mem_cons_self)
    rw [foldl_keep_of_le hbefore]
    simpa [installs] using (hlt b hb).le

end Arrivals
