import FederationObservatory.Observatory.Proofs.Epochs
import FederationObservatory.Observatory.Proofs.Fencing
import FederationObservatory.Observatory.Proofs.SaveLoad

/-!
# The life of a coordinator

`coordinator.cpp`: a coordinator owns an observatory and one state file. `start` loads the file,
which advances the epoch in memory; `stop` saves it. Nothing is written in between, so that a
process that is lost leaves the file, and with it the epoch of the next start, as it was.
-/

namespace FederationObservatory

open ByteCodec

/-! ## Model -/

/-- `FederationCoordinator`, with the file under `state_path`, which exists. -/
structure FederationCoordinator where
  bounds : Bounds
  file : Bytes
  observatory : Impl
  running : Bool := false
  /-- How many starts have succeeded. -/
  incarnation : Nat := 0

/-- What happens to a coordinator. Threads, queue and sockets are left out; a queued item that is
    answered without being applied is not an event. -/
inductive LifecycleEvent where
  /-- `start`; the listener may not be bound. -/
  | start (bound : Bool)
  | submit (clock : Clock) (ctx : PublicationContext) (request : Request)
  | fencePublisher (publisher : PublisherId) (boot : BootGeneration) (reason : Text)
  | stop (now : TimestampNanos)
  /-- The process is lost, or exits after a stop, and another one takes its place. -/
  | crash

namespace FederationCoordinator

def new (bounds : Bounds) (file : Bytes) : FederationCoordinator :=
  { bounds, file, observatory := Impl.new bounds }

/-- `FederationCoordinator::start`. -/
def start (c : FederationCoordinator) (bound : Bool) : FederationCoordinator :=
  if c.running then c
  else
    match c.bounds.validate with
    | .error _ => c
    | .ok () =>
      match loadState c.observatory (some c.file) with
      | (.error _, _) => c
      | (.ok (), s) =>
        if bound then
          { c with observatory := s, running := true, incarnation := c.incarnation + 1 }
        else { c with observatory := s }

/-- `Impl::dispatch` of a frame that changes the observatory. -/
def dispatch (c : FederationCoordinator) (operation : Operation) : FederationCoordinator :=
  if c.running then { c with observatory := operation.next c.observatory } else c

/-- `FederationCoordinator::stop`: a save that fails is only logged. -/
def stop (c : FederationCoordinator) (now : TimestampNanos) : FederationCoordinator :=
  if c.running then
    { c with
      file := match (saveState c.observatory now).1 with
        | .ok image => image
        | .error _ => c.file
      observatory := (saveState c.observatory now).2
      running := false }
  else c

def crash (c : FederationCoordinator) : FederationCoordinator :=
  { c with observatory := Impl.new c.bounds, running := false }

/-- One event. -/
def next (c : FederationCoordinator) : LifecycleEvent → FederationCoordinator
  | .start bound => c.start bound
  | .submit clock ctx request => c.dispatch (.submit clock ctx request)
  | .fencePublisher publisher boot reason => c.dispatch (.fencePublisher publisher boot reason)
  | .stop now => c.stop now
  | .crash => c.crash

/-- A sequence of events. -/
def run (c : FederationCoordinator) (events : List LifecycleEvent) : FederationCoordinator :=
  Runs.run next c events

def epoch (c : FederationCoordinator) : CoordinatorEpoch := c.observatory.coordinatorEpoch

end FederationCoordinator

/-! ## Orderly lives -/

/-- A process is only lost when it is not running, and a stop saves, under an epoch that has a
    successor. -/
def LifecycleEvent.Orderly (c : FederationCoordinator) : LifecycleEvent → Prop
  | .crash => c.running = false
  | .stop now => c.running = true →
      (∃ image, (saveState c.observatory now).1 = .ok image) ∧
        c.epoch.value ≠ 0xFFFFFFFFFFFFFFFF
  | _ => True

/-- The boot identity is registered. -/
def Impl.Knows (s : Impl) (key : PublisherKey) : Prop := ∃ a, s.publishers[key]? = some a

namespace FederationCoordinator

/-- The observatory is one of the coordinator's bounds. -/
structure Sound (c : FederationCoordinator) : Prop where
  reachable : Reachable c.observatory
  bounds : c.observatory.bounds = (Impl.new c.bounds).bounds

/-- `t` comes after `c`, a running coordinator: in the same incarnation it has the same epoch, in
    another one a higher one, and between two incarnations the file promises as much. -/
structure Follows (c t : FederationCoordinator) : Prop where
  sound : t.Sound
  incarnation : c.incarnation ≤ t.incarnation
  same : t.running = true → t.incarnation = c.incarnation → t.epoch = c.epoch
  later : t.running = true → c.incarnation < t.incarnation → c.epoch < t.epoch
  known : t.running = true → ∀ key, c.observatory.Knows key → t.observatory.Knows key
  file : t.running = false → ∀ d,
    loadDurableState (some t.file) (Impl.new t.bounds).bounds = .ok d →
      c.epoch ≤ d.writtenByEpoch ∧ d.writtenByEpoch.value ≠ 0xFFFFFFFFFFFFFFFF ∧
        ∀ key, c.observatory.Knows key → ∃ w ∈ d.publisherWatermarks, w.key = key

variable {c t : FederationCoordinator}

/-- A start leaves the coordinator as it is, or loads the file. -/
theorem start_cases (c : FederationCoordinator) (bound : Bool) :
    c.start bound = c ∨ c.running = false ∧ ∃ d,
      (Operation.loadState (some c.file)).restores c.observatory = some d ∧
        loadDurableState (some c.file) c.observatory.bounds = .ok d ∧
        c.start bound =
          if bound then { c with observatory := restoredState c.observatory d, running := true,
                                 incarnation := c.incarnation + 1 }
          else { c with observatory := restoredState c.observatory d } := by
  unfold start
  by_cases hrunning : c.running = true
  · exact .inl (if_pos hrunning)
  · rw [if_neg hrunning]
    cases hbounds : c.bounds.validate with
    | error e => exact .inl rfl
    | ok u =>
      cases hload : loadDurableState (some c.file) c.observatory.bounds with
      | error e => exact .inl (by simp only [loadState, hload])
      | ok d =>
        cases hvalid : d.validate c.observatory.bounds with
        | error e => exact .inl (by simp only [loadState, hload, restore, hvalid])
        | ok u =>
          refine .inr ⟨by simpa using hrunning, d, ?_, rfl, ?_⟩
          · simp only [Operation.restores, hload, hvalid]
          · simp only [loadState, hload, restore, hvalid]

theorem start_of_restores (hstopped : c.running = false) (hbounds : c.bounds.validate = .ok ())
    {d : DurableState}
    (h : (Operation.loadState (some c.file)).restores c.observatory = some d) :
    c.start true =
      { c with observatory := restoredState c.observatory d, running := true,
               incarnation := c.incarnation + 1 } := by
  have hload := loadState_of_restores h
  simp only [start, hstopped, Bool.false_eq_true, if_false, hbounds, hload, if_true]

theorem sound_new (bounds : Bounds) (file : Bytes) : (new bounds file).Sound :=
  ⟨.new bounds, rfl⟩

theorem Sound.next (h : c.Sound) (event : LifecycleEvent) : (c.next event).Sound := by
  have hdispatch : ∀ operation, (c.dispatch operation).Sound := by
    intro operation
    unfold dispatch
    split
    · exact ⟨h.reachable.next operation, (bounds_next _ operation).trans h.bounds⟩
    · exact h
  cases event with
  | start bound =>
    rcases c.start_cases bound with hsame | ⟨-, d, hrestores, -, hstart⟩
    · exact (congrArg Sound hsame).mpr h
    · have hnext := next_of_restores hrestores
      have hreachable := h.reachable.next (.loadState (some c.file))
      rw [hnext] at hreachable
      change (c.start bound).Sound
      rw [hstart]
      split
      · exact ⟨hreachable, h.bounds⟩
      · exact ⟨hreachable, h.bounds⟩
  | submit clock ctx request => exact hdispatch _
  | fencePublisher publisher boot reason => exact hdispatch _
  | stop now =>
    change (c.stop now).Sound
    unfold stop
    split
    · exact ⟨h.reachable.next (.saveState now), h.bounds⟩
    · exact h
  | crash => exact ⟨.new c.bounds, rfl⟩

/-- A dispatched operation stays within the incarnation. -/
theorem Follows.dispatch (h : c.Follows t) {operation : Operation}
    (hrestores : operation.restores t.observatory = none)
    (hsound : (t.dispatch operation).Sound) : c.Follows (t.dispatch operation) := by
  unfold FederationCoordinator.dispatch at hsound ⊢
  split at hsound
  · rename_i hrunning
    rw [if_pos hrunning]
    have hepoch : (operation.next t.observatory).coordinatorEpoch = t.epoch :=
      coordinatorEpoch_next hrestores
    refine ⟨hsound, h.incarnation, ?_, ?_, ?_, ?_⟩
    · intro _ hsame
      exact hepoch.trans (h.same hrunning hsame)
    · intro _ hlater
      change c.epoch < (operation.next t.observatory).coordinatorEpoch
      rw [hepoch]
      exact h.later hrunning hlater
    · intro _ key hknown
      obtain ⟨a, ha⟩ := h.known hrunning key hknown
      obtain ⟨b, hb, -⟩ := (operation.entryStep hrestores key).evolves a ha
      exact ⟨b, hb⟩
    · intro hstopped
      cases hrunning.symm.trans hstopped
  · rename_i hrunning
    rw [if_neg hrunning]
    exact h

/-- A start makes good what the file promises. -/
theorem Follows.start (h : c.Follows t) (bound : Bool) : c.Follows (t.start bound) := by
  have hsound : (t.start bound).Sound := h.sound.next (.start bound)
  rcases t.start_cases bound with hsame | ⟨hstopped, d, -, hload, hstart⟩
  · rw [hsame]
    exact h
  · rw [h.sound.bounds] at hload
    obtain ⟨hepoch, hmax, hknown⟩ := h.file hstopped d hload
    rw [hstart] at hsound ⊢
    cases bound with
    | false =>
      refine ⟨hsound, h.incarnation, ?_, ?_, ?_, ?_⟩
      · intro hrunning
        cases hstopped.symm.trans hrunning
      · intro hrunning
        cases hstopped.symm.trans hrunning
      · intro hrunning
        cases hstopped.symm.trans hrunning
      · exact fun _ => h.file hstopped
    | true =>
      refine ⟨hsound, Nat.le_succ_of_le h.incarnation, ?_, ?_, ?_, ?_⟩
      · intro _ hsame
        have hle := h.incarnation
        change t.incarnation + 1 = c.incarnation at hsame
        omega
      · intro _ _
        exact (lt_nextEpoch_iff_le hmax c.epoch).mpr hepoch
      · intro _ key hkey
        obtain ⟨w, hw, rfl⟩ := hknown key hkey
        exact known_restored hw
      · intro hrunning
        cases hrunning

/-- A stop that saves writes down what it leaves. -/
theorem Follows.stop (h : c.Follows t) {now : TimestampNanos}
    (horderly : LifecycleEvent.Orderly t (.stop now)) : c.Follows (t.stop now) := by
  have hsound : (t.stop now).Sound := h.sound.next (.stop now)
  unfold FederationCoordinator.stop at hsound ⊢
  split at hsound
  · rename_i hrunning
    rw [if_pos hrunning]
    obtain ⟨⟨image, hsave⟩, hmax⟩ := horderly hrunning
    refine ⟨hsound, h.incarnation, ?_, ?_, ?_, ?_⟩
    · intro hnot
      cases hnot
    · intro hnot
      cases hnot
    · intro hnot
      cases hnot
    · intro _ d hload
      simp only [hsave] at hload
      rw [← h.sound.bounds] at hload
      obtain ⟨-, hdecode⟩ := loadDurableState_eq_ok.mp hload
      obtain ⟨hwritten, -, hperm⟩ :=
        decode_of_save h.sound.reachable.validate_bounds hsave hdecode
      change d.writtenByEpoch = t.epoch at hwritten
      refine ⟨?_, hwritten ▸ hmax, ?_⟩
      · rw [hwritten]
        rcases Nat.lt_or_eq_of_le h.incarnation with hlater | hsame
        · exact Generation.le_of_lt (h.later hrunning hlater)
        · rw [h.same hrunning hsame.symm]
          exact Generation.le_refl _
      · intro key hkey
        obtain ⟨a, ha⟩ := h.known hrunning key hkey
        obtain ⟨hmem, hname⟩ := recorded_capture h.sound.reachable.keyed ha now
        exact ⟨a.toWatermark, hperm.mem_iff.mpr hmem, hname⟩
  · rename_i hrunning
    rw [if_neg hrunning]
    exact h

theorem Follows.next (h : c.Follows t) {event : LifecycleEvent} (horderly : event.Orderly t) :
    c.Follows (t.next event) := by
  have hsound := h.sound.next event
  cases event with
  | start bound => exact h.start bound
  | submit clock ctx request => exact h.dispatch rfl hsound
  | fencePublisher publisher boot reason => exact h.dispatch rfl hsound
  | stop now => exact h.stop horderly
  | crash =>
    have hstopped : t.running = false := horderly
    refine ⟨hsound, h.incarnation, ?_, ?_, ?_, ?_⟩
    · intro hnot
      cases hnot
    · intro hnot
      cases hnot
    · intro hnot
      cases hnot
    · exact fun _ => h.file hstopped

theorem Follows.refl (h : c.Sound) (hrunning : c.running = true) : c.Follows c :=
  ⟨h, Nat.le_refl _, fun _ _ => rfl, fun _ hlt => absurd hlt (Nat.lt_irrefl _),
    fun _ _ hknown => hknown, fun hstopped => by cases hrunning.symm.trans hstopped⟩

/-- Whenever the coordinator runs in two incarnations of a life, the epochs differ, and a
    publication whose context carries the epoch of the first is refused in the second: as
    `StaleEpoch`, if the context is one of a boot identity that the first incarnation knew and the
    second has not fenced. -/
def EpochsUnique (c : FederationCoordinator) (events : List LifecycleEvent) : Prop :=
  ∀ before later, before <+: later → later <+: events →
    (c.run before).running = true → (c.run later).running = true →
    (c.run before).incarnation ≠ (c.run later).incarnation →
    (c.run before).epoch ≠ (c.run later).epoch ∧
      ∀ (clock : Clock) (ctx : PublicationContext) (p : Publication),
        ctx.coordinatorEpoch = (c.run before).epoch →
        ∃ e, (p.run (c.run later).observatory clock ctx).result = .error e ∧
          (ctx.validate = .ok () → (c.run before).observatory.Knows ctx.key →
            ¬(c.run later).observatory.Fenced ctx.key → e.code = .staleEpoch)

end FederationCoordinator

/-- A valid context of a registered boot identity that is not fenced is refused as stale. -/
theorem publication_staleEpoch {s : Impl} {clock : Clock} {ctx : PublicationContext}
    (p : Publication) (hstale : ctx.coordinatorEpoch ≠ s.coordinatorEpoch)
    (hvalid : ctx.validate = .ok ()) (hknown : s.Knows ctx.key) (hfenced : ¬s.Fenced ctx.key) :
    ∃ r, p.run s clock ctx = .error r ∧ r.1.code = .staleEpoch := by
  obtain ⟨a, ha⟩ := hknown
  have hopen : a.fenced = false := by
    by_contra hclosed
    exact hfenced ⟨a, ha, by simpa using hclosed⟩
  have hgate : ∃ r, checkAuthority s ctx = .error r ∧ r.1.code = .staleEpoch := by
    simp only [checkAuthority, hvalid, ha, hopen, Bool.false_eq_true, if_false, if_pos hstale]
    exact ⟨_, rfl, rfl⟩
  obtain ⟨r, hgate, hcode⟩ := hgate
  exact ⟨r, run_of_gate_error p hgate, hcode⟩

/-- In every orderly life no two incarnations run under one epoch, and what was built for one is
    refused by every later one. -/
theorem epochs_unique_of_orderly (bounds : Bounds) (file : Bytes) {events : List LifecycleEvent}
    (h : Runs.Along FederationCoordinator.next (fun c event => event.Orderly c)
      (FederationCoordinator.new bounds file) events) :
    (FederationCoordinator.new bounds file).EpochsUnique events := by
  rintro before later ⟨middle, rfl⟩ ⟨rest, rfl⟩ hbefore hlater hother
  obtain ⟨⟨hfirst, hmiddle⟩, -⟩ :=
    ((Runs.along_append _ _).mp h).imp_left (Runs.along_append _ _).mp
  have hsound : ((FederationCoordinator.new bounds file).run before).Sound :=
    Runs.invariant (fun t event _ ht => ht.next event) hfirst
      (FederationCoordinator.sound_new bounds file)
  have hfollows : ((FederationCoordinator.new bounds file).run before).Follows
      ((FederationCoordinator.new bounds file).run (before ++ middle)) := by
    rw [FederationCoordinator.run, FederationCoordinator.run, Runs.run_append]
    exact Runs.invariant (fun t event horderly ht => ht.next horderly) hmiddle
      (.refl hsound hbefore)
  have hlt := hfollows.later hlater (Nat.lt_of_le_of_ne hfollows.incarnation hother)
  have hne : ((FederationCoordinator.new bounds file).run before).epoch ≠
      ((FederationCoordinator.new bounds file).run (before ++ middle)).epoch := by
    intro hsame
    rw [hsame] at hlt
    exact UInt64.lt_irrefl _ hlt
  refine ⟨hne, fun clock ctx p hctx => ?_⟩
  have hstale : ctx.coordinatorEpoch ≠
      ((FederationCoordinator.new bounds file).run (before ++ middle)).epoch := hctx ▸ hne
  by_cases hcontext : ctx.validate = .ok () ∧
      ((FederationCoordinator.new bounds file).run before).observatory.Knows ctx.key ∧
      ¬((FederationCoordinator.new bounds file).run (before ++ middle)).observatory.Fenced ctx.key
  · obtain ⟨hvalid, hknown, hfenced⟩ := hcontext
    obtain ⟨r, hrun, hcode⟩ := @publication_staleEpoch _ clock ctx p hstale hvalid
      (hfollows.known hlater _ hknown) hfenced
    exact ⟨r.1, by rw [hrun]; rfl, fun _ _ _ => hcode⟩
  · obtain ⟨r, hrun, -⟩ := @publication_error_of_staleEpoch _ clock ctx p hstale
    exact ⟨r.1, by rw [hrun]; rfl,
      fun hvalid hknown hfenced => absurd ⟨hvalid, hknown, hfenced⟩ hcontext⟩

namespace Deployment

/-- The observatory after a start from the file of a new one. -/
def reopened : Impl :=
  restoredState (Impl.new {}) (captureDurableState (Impl.new {}) 0).written.readBack

/-- A start from that file, in a new process. -/
theorem start_first {image : Bytes} (h : (saveState (Impl.new {}) 0).1 = .ok image) (n : Nat) :
    FederationCoordinator.start ⟨{}, image, Impl.new {}, false, n⟩ true =
      ⟨{}, image, reopened, true, n + 1⟩ := by
  have hbounds : ({} : Bounds).validate = .ok () := by decide
  have hrestores : (Operation.loadState (some image)).restores (Impl.new {}) =
      some (captureDurableState (Impl.new {}) 0).written.readBack :=
    restores_of_save (.new {}) rfl h (by decide +kernel) (by decide +kernel)
  exact FederationCoordinator.start_of_restores rfl hbounds hrestores

/-- The file that a stop leaves after that start loads as well. -/
theorem start_again {image : Bytes} (h : (saveState reopened 0).1 = .ok image) :
    FederationCoordinator.start ⟨{}, image, (saveState reopened 0).2, false, 1⟩ true =
      ⟨{}, image, restoredState (saveState reopened 0).2
        (captureDurableState reopened 0).written.readBack, true, 2⟩ := by
  have hbounds : ({} : Bounds).validate = .ok () := by decide
  have hreachable : Reachable reopened := (Reachable.new {}).next
    (.restore (captureDurableState (Impl.new {}) 0).written.readBack)
  have hrestores : (Operation.loadState (some image)).restores (saveState reopened 0).2 =
      some (captureDurableState reopened 0).written.readBack :=
    restores_of_save hreachable rfl h (by decide +kernel) (by decide +kernel)
  exact FederationCoordinator.start_of_restores rfl hbounds hrestores

end Deployment

/-- A coordinator that is stopped and started again has another epoch. -/
theorem epochs_unique_deployment :
    ∃ image, (saveState (Impl.new {}) 0).1 = .ok image ∧
      ((FederationCoordinator.new {} image).run [.start true]).epoch ≠
        ((FederationCoordinator.new {} image).run [.start true, .stop 0, .start true]).epoch := by
  obtain ⟨image, hsave⟩ := eq_ok_of_isSome (r := (saveState (Impl.new {}) 0).1) (by decide +kernel)
  obtain ⟨image', hsave'⟩ := eq_ok_of_isSome (r := (saveState Deployment.reopened 0).1)
    (by decide +kernel)
  have hfirst : (FederationCoordinator.new {} image).run [.start true] =
      ⟨{}, image, Deployment.reopened, true, 1⟩ := Deployment.start_first hsave 0
  have hstopped : (FederationCoordinator.stop ⟨{}, image, Deployment.reopened, true, 1⟩ 0) =
      ⟨{}, image', (saveState Deployment.reopened 0).2, false, 1⟩ := by
    simp only [FederationCoordinator.stop, hsave', if_true]
  have hagain := Deployment.start_again hsave'
  have hsplit : (FederationCoordinator.new {} image).run [.start true, .stop 0, .start true] =
      (((FederationCoordinator.new {} image).run [.start true]).stop 0).start true := rfl
  have hepoch : Deployment.reopened.coordinatorEpoch.value ≠ 0xFFFFFFFFFFFFFFFF := by
    decide +kernel
  have horderly : Runs.Along FederationCoordinator.next (fun c event => event.Orderly c)
      (FederationCoordinator.new {} image) [.start true, .stop 0, .start true] := by
    refine ⟨trivial, ?_, trivial, trivial⟩
    change LifecycleEvent.Orderly ((FederationCoordinator.new {} image).run [.start true]) (.stop 0)
    rw [hfirst]
    exact fun _ => ⟨⟨image', hsave'⟩, hepoch⟩
  have hunique := epochs_unique_of_orderly {} image horderly [.start true]
    [.start true, .stop 0, .start true] (List.prefix_append _ _) (List.prefix_refl _)
  refine ⟨image, hsave, (hunique ?_ ?_ ?_).1⟩
  · rw [hfirst]
  · rw [hsplit, hfirst, hstopped, hagain]
  · rw [hsplit, hfirst, hstopped, hagain]
    exact (Nat.succ_ne_self 1).symm

/-- A coordinator that is lost and started again has the same epoch. -/
theorem crash_reuses_epoch :
    ¬∀ (bounds : Bounds) (file : Bytes) (events : List LifecycleEvent),
      (FederationCoordinator.new bounds file).EpochsUnique events := by
  intro h
  obtain ⟨image, hsave⟩ := eq_ok_of_isSome (r := (saveState (Impl.new {}) 0).1) (by decide +kernel)
  have hfirst : (FederationCoordinator.new {} image).run [.start true] =
      ⟨{}, image, Deployment.reopened, true, 1⟩ := Deployment.start_first hsave 0
  have hagain : (FederationCoordinator.new {} image).run [.start true, .crash, .start true] =
      ⟨{}, image, Deployment.reopened, true, 2⟩ := by
    have hsplit : (FederationCoordinator.new {} image).run [.start true, .crash, .start true] =
        (((FederationCoordinator.new {} image).run [.start true]).crash).start true := rfl
    rw [hsplit, hfirst]
    exact Deployment.start_first hsave 1
  have hunique := h {} image [.start true, .crash, .start true] [.start true]
    [.start true, .crash, .start true] (List.prefix_append _ _) (List.prefix_refl _)
  rw [hfirst, hagain] at hunique
  exact (hunique rfl rfl (Nat.succ_ne_self 1).symm).1 rfl

end FederationObservatory
