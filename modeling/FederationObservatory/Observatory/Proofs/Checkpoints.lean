import FederationObservatory.Observatory.Checkpoints
import FederationObservatory.Observatory.Proofs.Fencing

/-!
# Checkpoints of several threads

The sequence of a save is read under one lock and incremented under another, and the file is written
under none. Two calls that overlap can carry one sequence, and the older capture can be the one that
is renamed last. Calls that do not overlap leave the newest capture in the file.
-/

namespace FederationObservatory

/-! ## The order of captures -/

/-- A capture was taken before another. -/
structure Capture.Before (c d : Capture) : Prop where
  ticket : c.ticket < d.ticket
  sequence : c.state.saveSequence < d.state.saveSequence
  fences : c.fences ⊆ d.fences

/-- The fences recorded before a capture are in it. -/
def Capture.KeepsFences (c : Capture) : Prop := ∀ key ∈ c.fences, c.state.Fenced key

namespace Checkpoints

variable {T : Type} [DecidableEq T] {s : Checkpoints T}

/-- Successful saves carry different sequences. When all calls have returned, the file holds the
    last of their captures, and no fence recorded before one of them is missing from it. -/
structure Ordered (s : Checkpoints T) : Prop where
  distinct : (s.saved.map fun c => c.state.saveSequence).Nodup
  newest : s.Returned → ∀ c ∈ s.saved, (∀ d ∈ s.saved, d.ticket ≤ c.ticket) → s.Holds c
  fences : s.Returned → ∀ c ∈ s.saved, ∀ key ∈ c.fences,
    ∃ d ∈ s.saved, s.Holds d ∧ d.state.Fenced key

/-- A capture starts while no call is under way, and the save sequence can be incremented. -/
def Undisturbed (s : Checkpoints T) : CheckpointStep T → Prop
  | .capture _ _ => s.Returned ∧ s.observatory.saveSequence.toNat + 1 < UInt64.size
  | _ => True

/-- A capture that is newer than everything saved. -/
structure Newest (s : Checkpoints T) (c : Capture) : Prop where
  taken : c.ticket < s.taken
  fences : c.fences ⊆ s.fences
  kept : c.KeepsFences
  before : ∀ d ∈ s.saved, d.Before c

/-- What holds of the one call under way. -/
def Fits (s : Checkpoints T) : SaveCall → Prop
  | .captured c => s.Newest c ∧
      c.state.saveSequence.toNat = s.observatory.saveSequence.toNat + 1
  | .counted c => s.Newest c ∧ c.state.saveSequence = s.observatory.saveSequence
  | .written c => s.Newest c ∧ c.state.saveSequence = s.observatory.saveSequence ∧
      ∃ image, saveDurableState c.state s.observatory.bounds = .ok image ∧
        s.temporary = some image
  | _ => True

/-- A saved capture lies in the past. -/
structure Past (s : Checkpoints T) (c : Capture) : Prop where
  taken : c.ticket < s.taken
  sequence : c.state.saveSequence ≤ s.observatory.saveSequence
  fences : c.fences ⊆ s.fences
  kept : c.KeepsFences

/-- What holds while no two calls overlap. -/
structure Serial (s : Checkpoints T) : Prop where
  keyed : s.observatory.Keyed
  fenced : ∀ key ∈ s.fences, s.observatory.Fenced key
  alone : ∀ t, s.calls t ≠ .idle → ∀ u, u ≠ t → s.calls u = .idle
  fits : ∀ t, s.Fits (s.calls t)
  past : ∀ c ∈ s.saved, s.Past c
  sorted : s.saved.Pairwise Capture.Before
  held : ∀ c, s.saved.getLast? = some c → s.Holds c

theorem serial_start {observatory : Impl} (h : observatory.Keyed)
    (file temporary : Option ByteCodec.Bytes) :
    (start observatory file temporary : Checkpoints T).Serial where
  keyed := h
  fenced _ hkey := absurd hkey List.not_mem_nil
  alone _ ht := absurd rfl ht
  fits _ := trivial
  past _ hc := absurd hc List.not_mem_nil
  sorted := .nil
  held _ hc := by cases hc

/-- The last save is the newest. -/
theorem Serial.eq_or_before (h : s.Serial) {c d : Capture} (hc : c ∈ s.saved)
    (hd : s.saved.getLast? = some d) : c = d ∨ c.Before d := by
  have hsorted := h.sorted
  obtain ⟨earlier, hsaved⟩ := List.getLast?_eq_some_iff.mp hd
  rw [hsaved] at hc hsorted
  rcases List.mem_append.mp hc with hearlier | hlast
  · exact .inr ((List.pairwise_append.mp hsorted).2.2 c hearlier d (List.mem_singleton_self d))
  · exact .inl (List.mem_singleton.mp hlast)

theorem Serial.ordered (h : s.Serial) : s.Ordered where
  distinct := List.pairwise_map.mpr (h.sorted.imp fun hbefore => UInt64.ne_of_lt hbefore.sequence)
  newest _ c hc hmax := by
    have hd := List.getLast?_eq_getLast_of_ne_nil (List.ne_nil_of_mem hc)
    generalize s.saved.getLast (List.ne_nil_of_mem hc) = d at hd
    rcases h.eq_or_before hc hd with rfl | hbefore
    · exact h.held c hd
    · have hle := hmax d (List.mem_of_getLast? hd)
      have hlt := hbefore.ticket
      omega
  fences _ c hc key hkey := by
    have hd := List.getLast?_eq_getLast_of_ne_nil (List.ne_nil_of_mem hc)
    generalize s.saved.getLast (List.ne_nil_of_mem hc) = d at hd
    have hmem := List.mem_of_getLast? hd
    refine ⟨d, hmem, h.held d hd, (h.past d hmem).kept key ?_⟩
    rcases h.eq_or_before hc hd with rfl | hbefore
    · exact hkey
    · exact hbefore.fences hkey

/-! ## One step -/

/-- The observatory moves on and more fences are recorded. -/
theorem Serial.observe (h : s.Serial) {observatory : Impl} {fences : List PublisherKey}
    (hsame : s.observatory.SameSettings observatory) (hkeyed : observatory.Keyed)
    (hmore : s.fences ⊆ fences) (hfenced : ∀ key ∈ fences, observatory.Fenced key) :
    { s with observatory, fences }.Serial := by
  have hnewest : ∀ {c}, s.Newest c → Newest { s with observatory, fences } c := fun hc =>
    ⟨hc.taken, List.Subset.trans hc.fences hmore, hc.kept, hc.before⟩
  refine ⟨hkeyed, hfenced, h.alone, fun t => ?_, fun c hc => ?_, h.sorted, fun c hc => ?_⟩
  · have hfits := h.fits t
    dsimp only
    cases hcall : s.calls t with
    | captured c =>
      rw [hcall] at hfits
      exact ⟨hnewest hfits.1, by rw [hsame.saveSequence]; exact hfits.2⟩
    | counted c =>
      rw [hcall] at hfits
      exact ⟨hnewest hfits.1, by rw [hsame.saveSequence]; exact hfits.2⟩
    | written c =>
      rw [hcall] at hfits
      obtain ⟨hc, hsequence, hsaved⟩ := hfits
      refine ⟨hnewest hc, ?_, ?_⟩
      · rw [hsame.saveSequence]
        exact hsequence
      · rw [hsame.bounds]
        exact hsaved
    | idle => trivial
    | replaced c => trivial
    | cleaning => trivial
  · obtain ⟨htaken, hsequence, hfences, hkept⟩ := h.past c hc
    refine ⟨htaken, ?_, List.Subset.trans hfences hmore, hkept⟩
    rw [hsame.saveSequence]
    exact hsequence
  · unfold Holds
    rw [hsame.bounds]
    exact h.held c hc

section Moves

variable {t : T} {call : SaveCall}

theorem alone_update (h : ∀ u, u ≠ t → s.calls u = .idle) (v : T)
    (hv : Function.update s.calls t call v ≠ .idle) (u : T) (hu : u ≠ v) :
    Function.update s.calls t call u = .idle := by
  by_cases hvt : v = t
  · rw [Function.update_of_ne (hvt ▸ hu)]
    exact h u (hvt ▸ hu)
  · rw [Function.update_of_ne hvt] at hv
    exact absurd (h v hvt) hv

theorem fits_update {s' : Checkpoints T} (h : ∀ u, u ≠ t → s.calls u = .idle)
    (hcall : s'.Fits call) (v : T) : s'.Fits (Function.update s.calls t call v) := by
  by_cases hv : v = t
  · rw [hv, Function.update_self]
    exact hcall
  · rw [Function.update_of_ne hv, h v hv]
    trivial

/-- The one call under way moves on, and neither the observatory nor the file changes. -/
theorem Serial.move (h : s.Serial) (ht : s.calls t ≠ .idle) (temporary : Option ByteCodec.Bytes)
    (hcall : Fits { s.setCall t call with temporary } call) :
    { s.setCall t call with temporary }.Serial :=
  ⟨h.keyed, h.fenced, alone_update (h.alone t ht), fits_update (h.alone t ht) hcall, fun c hc =>
    ⟨(h.past c hc).taken, (h.past c hc).sequence, (h.past c hc).fences, (h.past c hc).kept⟩,
    h.sorted, h.held⟩

end Moves

theorem Serial.capture (h : s.Serial) {t : T} (hreturned : s.Returned)
    (hroom : s.observatory.saveSequence.toNat + 1 < UInt64.size) (now : TimestampNanos) :
    (s.next (.capture t now)).Serial := by
  have hsequence : (s.observatory.saveSequence + 1).toNat =
      s.observatory.saveSequence.toNat + 1 := by
    rw [UInt64.toNat_add, Nat.mod_eq_of_lt]
    · rfl
    · exact hroom
  have hcapture : (Capture.mk s.taken s.fences (captureDurableState s.observatory now)).KeepsFences :=
    fun key hkey => (h.fenced key hkey).capture h.keyed now
  simp only [next, hreturned t]
  refine ⟨h.keyed, h.fenced, alone_update fun u _ => hreturned u,
    fits_update (fun u _ => hreturned u) ?_, fun c hc => ?_, h.sorted, h.held⟩
  · refine ⟨⟨Nat.lt_succ_self _, List.Subset.refl _, hcapture, fun d hd => ?_⟩, hsequence⟩
    obtain ⟨htaken, hpast, hfences, -⟩ := h.past d hd
    refine ⟨htaken, UInt64.lt_iff_toNat_lt.mpr ?_, hfences⟩
    have hle := UInt64.le_iff_toNat_le.mp hpast
    change _ < (s.observatory.saveSequence + 1).toNat
    omega
  · obtain ⟨htaken, hpast, hfences, hkept⟩ := h.past c hc
    exact ⟨Nat.lt_succ_of_lt htaken, hpast, hfences, hkept⟩

theorem Serial.count (h : s.Serial) {t : T} {c : Capture} (ht : s.calls t = .captured c) :
    (s.next (.count t)).Serial := by
  have hfits := h.fits t
  rw [ht] at hfits
  obtain ⟨hnewest, hsequence⟩ := hfits
  have hothers := h.alone t (by rw [ht]; nofun)
  have hnext : s.observatory.saveSequence + 1 = c.state.saveSequence := by
    apply UInt64.toNat_inj.mp
    have hlt := c.state.saveSequence.toNat_lt
    rw [UInt64.toNat_add, hsequence, Nat.mod_eq_of_lt]
    · rfl
    · change s.observatory.saveSequence.toNat + 1 < 2 ^ 64
      omega
  simp only [next, ht]
  refine ⟨h.keyed, h.fenced, alone_update hothers, fits_update hothers ?_, fun d hd => ?_, h.sorted,
    h.held⟩
  · exact ⟨⟨hnewest.taken, hnewest.fences, hnewest.kept, hnewest.before⟩, hnext.symm⟩
  · obtain ⟨htaken, -, hfences, hkept⟩ := h.past d hd
    refine ⟨htaken, ?_, hfences, hkept⟩
    change d.state.saveSequence ≤ s.observatory.saveSequence + 1
    rw [hnext]
    exact UInt64.le_of_lt (hnewest.before d hd).sequence

theorem Serial.replace (h : s.Serial) {t : T} {c : Capture} (ht : s.calls t = .written c) :
    (s.next (.replace t)).Serial := by
  have hfits := h.fits t
  rw [ht] at hfits
  obtain ⟨hnewest, hsequence, image, hsaved, htemporary⟩ := hfits
  have hothers := h.alone t (by rw [ht]; nofun)
  simp only [next, ht, htemporary]
  refine ⟨h.keyed, h.fenced, alone_update hothers, fits_update hothers trivial, fun d hd => ?_, ?_,
    fun d hd => ?_⟩
  · rcases List.mem_append.mp hd with hbefore | hlast
    · obtain ⟨htaken, hpast, hfences, hkept⟩ := h.past d hbefore
      exact ⟨htaken, hpast, hfences, hkept⟩
    · obtain rfl := List.mem_singleton.mp hlast
      exact ⟨hnewest.taken, UInt64.le_of_eq hsequence, hnewest.fences, hnewest.kept⟩
  · refine List.pairwise_append.mpr ⟨h.sorted, List.pairwise_singleton _ _, fun d hd e he => ?_⟩
    rw [List.mem_singleton.mp he]
    exact hnewest.before d hd
  · rw [List.getLast?_concat, Option.some.injEq] at hd
    exact ⟨image, hd ▸ hsaved, rfl⟩

theorem Serial.next (h : s.Serial) {step : CheckpointStep T} (hstep : s.Undisturbed step) :
    (s.next step).Serial := by
  cases step with
  | submit clock ctx request =>
    have hkept : ∀ key ∈ s.fences, (request.run s.observatory clock ctx).state.Fenced key := by
      intro key hkey
      exact @Impl.Fenced.next _ _ (.submit clock ctx request) (h.fenced key hkey) rfl
    exact h.observe (request.run_settings _ clock ctx)
      (h.keyed.next (.submit clock ctx request)) (List.Subset.refl _) hkept
  | fence publisher boot reason =>
    have hkept : ∀ key ∈ s.fences,
        (fencePublisher s.observatory publisher boot reason).2.Fenced key := by
      intro key hkey
      exact @Impl.Fenced.next _ _ (.fencePublisher publisher boot reason) (h.fenced key hkey) rfl
    have hsame := fencePublisher_settings s.observatory publisher boot reason
    have hkeyed := h.keyed.next (.fencePublisher publisher boot reason)
    simp only [Checkpoints.next]
    cases houtcome : (fencePublisher s.observatory publisher boot reason).1 with
    | error e => exact h.observe hsame hkeyed (List.Subset.refl _) hkept
    | ok u =>
      refine h.observe hsame hkeyed (List.subset_append_left _ _) ?_
      exact List.forall_mem_append.mpr
        ⟨hkept, List.forall_mem_singleton.mpr (fenced_of_fencePublisher houtcome)⟩
  | capture t now => exact h.capture hstep.1 hstep.2 now
  | count t =>
    cases ht : s.calls t with
    | captured c => exact h.count ht
    | _ => simpa only [Checkpoints.next, ht] using h
  | write t =>
    cases ht : s.calls t with
    | counted c =>
      have hfits := h.fits t
      rw [ht] at hfits
      obtain ⟨hnewest, hsequence⟩ := hfits
      simp only [Checkpoints.next, ht]
      cases hsaved : saveDurableState c.state s.observatory.bounds with
      | ok image =>
        exact h.move (by rw [ht]; nofun) (some image)
          ⟨⟨hnewest.taken, hnewest.fences, hnewest.kept, hnewest.before⟩, hsequence, image, hsaved,
            rfl⟩
      | error e => exact h.move (by rw [ht]; nofun) s.temporary trivial
    | _ => simpa only [Checkpoints.next, ht] using h
  | writeFails t left =>
    cases ht : s.calls t with
    | counted c =>
      simp only [Checkpoints.next, ht]
      cases saveDurableState c.state s.observatory.bounds with
      | ok image => exact h.move (by rw [ht]; nofun) left trivial
      | error e => exact h.move (by rw [ht]; nofun) s.temporary trivial
    | _ => simpa only [Checkpoints.next, ht] using h
  | replace t =>
    cases ht : s.calls t with
    | written c => exact h.replace ht
    | _ => simpa only [Checkpoints.next, ht] using h
  | replaceFails t =>
    cases ht : s.calls t with
    | written c =>
      simp only [Checkpoints.next, ht]
      exact h.move (by rw [ht]; nofun) s.temporary trivial
    | _ => simpa only [Checkpoints.next, ht] using h
  | clean t =>
    cases ht : s.calls t with
    | cleaning =>
      simp only [Checkpoints.next, ht]
      exact h.move (by rw [ht]; nofun) none trivial
    | _ => simpa only [Checkpoints.next, ht] using h
  | finish t =>
    cases ht : s.calls t with
    | replaced c =>
      simp only [Checkpoints.next, ht]
      have hmove : ({ s with calls := Function.update s.calls t .idle } : Checkpoints T).Serial :=
        h.move (by rw [ht]; nofun) s.temporary trivial
      exact hmove.observe ⟨rfl, rfl, rfl, rfl⟩ h.keyed (List.Subset.refl _) h.fenced
    | _ => simpa only [Checkpoints.next, ht] using h

/-! ## Every run -/

/-- In a run in which no capture is taken while a call of `save_state` is under way, checkpoints are
    ordered in every state. -/
theorem checkpoints_ordered {observatory : Impl} (hreachable : Reachable observatory)
    (file temporary : Option ByteCodec.Bytes) {steps : List (CheckpointStep T)}
    (hsteps : Runs.Along Checkpoints.next Undisturbed (start observatory file temporary) steps)
    {before : List (CheckpointStep T)} (hbefore : before <+: steps) :
    (Runs.run Checkpoints.next (start observatory file temporary) before).Ordered := by
  obtain ⟨after, rfl⟩ := hbefore
  have hrun := ((Runs.along_append before after).mp hsteps).1
  have hserial := Runs.invariant (fun _ _ hstep h => Serial.next h hstep) hrun
    (serial_start hreachable.keyed file temporary)
  exact hserial.ordered

/-! Two threads of a new observatory, and a fence. -/

def fenceAgent : CheckpointStep Bool := .fence ⟨.ofString "agent"⟩ ⟨1⟩ (.ofString "replaced")

/-- What follows the capture in a call that succeeds. -/
def completion (thread : Bool) : List (CheckpointStep Bool) :=
  [.count thread, .write thread, .replace thread, .finish thread]

def afterSteps (steps : List (CheckpointStep Bool)) : Checkpoints Bool :=
  Runs.run Checkpoints.next (start (Impl.new {}) none none) steps

/-- A call, and the fence after it. -/
def firstSave : List (CheckpointStep Bool) :=
  .capture false 0 :: completion false ++ [fenceAgent]

/-- A second call after them. -/
def serialSaves : List (CheckpointStep Bool) :=
  firstSave ++ .capture true 1 :: completion true

def isIdle : SaveCall → Bool
  | .idle => true
  | _ => false

theorem returned_firstSave : (afterSteps firstSave).Returned := by
  have hidle : ∀ thread, isIdle ((afterSteps firstSave).calls thread) = true := by decide +kernel
  intro thread
  have hthread := hidle thread
  cases hcall : (afterSteps firstSave).calls thread with
  | idle => rfl
  | _ => rw [hcall] at hthread; cases hthread

/-- Both calls succeed. -/
theorem checkpoints_ordered_serialSaves :
    (afterSteps serialSaves).Ordered ∧
      (afterSteps serialSaves).saved.map (fun c => c.state.saveSequence) = [1, 2] := by
  refine ⟨checkpoints_ordered (.new {}) none none ?_ (List.prefix_refl serialSaves), by
    decide +kernel⟩
  refine (Runs.along_append _ _).mpr ⟨?_, ⟨returned_firstSave, by decide +kernel⟩, ?_⟩
  · exact ⟨⟨fun _ => rfl, by decide +kernel⟩, trivial, trivial, trivial, trivial, trivial, trivial⟩
  · exact ⟨trivial, trivial, trivial, trivial, trivial⟩

/-- The second call captures the fence and completes before the first goes on. -/
def overlappingSaves : List (CheckpointStep Bool) :=
  .capture false 0 :: fenceAgent :: .capture true 1 :: completion true ++ completion false

/-- Both calls succeed with the sequence 1, and the file is the capture without the fence: it is not
    as long as the image of the newer one. -/
theorem overlappingSaves_regress :
    ¬((afterSteps overlappingSaves).saved.map fun c => c.state.saveSequence).Nodup ∧
      ¬∀ c ∈ (afterSteps overlappingSaves).saved,
        (∀ d ∈ (afterSteps overlappingSaves).saved, d.ticket ≤ c.ticket) →
          (afterSteps overlappingSaves).Holds c := by
  refine ⟨by decide +kernel, fun hnewest => ?_⟩
  have hlength : ∀ c ∈ (afterSteps overlappingSaves).saved,
      (∀ d ∈ (afterSteps overlappingSaves).saved, d.ticket ≤ c.ticket) →
        (saveDurableState c.state (afterSteps overlappingSaves).observatory.bounds).toOption.map
          List.length = (afterSteps overlappingSaves).file.map List.length := by
    intro c hc hmax
    obtain ⟨image, hsaved, hfile⟩ := hnewest c hc hmax
    rw [hsaved, hfile]
    rfl
  exact absurd hlength (by decide +kernel)

end Checkpoints

end FederationObservatory
