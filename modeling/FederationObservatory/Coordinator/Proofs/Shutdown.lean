import FederationObservatory.Coordinator.Queue

/-!
# Workers at shutdown

`stop` stores `stopping` and calls `notify_all` without holding `queue_mutex`. A worker that tested
the predicate before the store and parks after the notification is not woken by it.
-/

namespace FederationObservatory

namespace Ingest

open Relation

variable {C W σ : Type} [DecidableEq C] [DecidableEq W] {depth : Nat}
  {dispatch : σ → Frame → Frame × σ} {s t : Ingest C W σ}

/-! ## Stranded workers -/

/-- No connection thread calls `notify_one` any more. -/
def Quiet (depth : Nat) (dispatch : σ → Frame → Frame × σ) (s : Ingest C W σ) : Prop :=
  ∀ t, ReflTransGen (Step depth dispatch) s t → ∀ c item, t.connections c ≠ .pushed item

/-- `stop` waits in a join while a worker is parked, the queue is empty and no notification is to
    come. -/
structure Stranded (depth : Nat) (dispatch : σ → Frame → Frame × σ) (s : Ingest C W σ) : Prop where
  joining : s.stop = .joining
  queue : s.queue = []
  parked : ∃ w, s.workers w = .parked
  quiet : Quiet depth dispatch s

/-- `notify_all` is not called between a worker's test of the predicate and its parking. -/
def Announced (s t : Ingest C W σ) : Prop :=
  s.stop = .stored → t.stop = .notified → ∀ w, s.workers w ≠ .parking

/-- `stop` has called `notify_all`. -/
def Notified (s : Ingest C W σ) : Prop := s.stop ≠ .idle ∧ s.stop ≠ .stored

/-- Once `stop` is called, `stopping` is set; once it has notified the workers, none of them parks
    any more. -/
structure Released (s : Ingest C W σ) : Prop where
  stopping : s.stop ≠ .idle → s.stopping = true
  awake : s.Notified → ∀ w, s.workers w ≠ .parking ∧ s.workers w ≠ .parked

omit [DecidableEq C] [DecidableEq W] in
theorem released_start (observatory : σ) : (start observatory : Ingest C W σ).Released where
  stopping h := absurd rfl h
  awake h := absurd rfl h.1

omit [DecidableEq C] in
theorem wake_ne_parked (state : WorkerState C) : wake state ≠ .parked := by
  cases state <;> simp [wake]

omit [DecidableEq C] in
theorem wake_eq_parking {state : WorkerState C} : wake state = .parking ↔ state = .parking := by
  cases state <;> simp [wake]

omit [DecidableEq C] in
/-- A worker that moves to a state in which it is not about to park keeps the invariant. -/
theorem Released.setWorker (h : s.Released) (w : W) (state : WorkerState C)
    (hparking : state ≠ .parking) (hparked : state ≠ .parked) : (s.setWorker w state).Released where
  stopping := h.stopping
  awake hnotified v := by
    by_cases hv : v = w
    · subst hv
      simp only [Ingest.setWorker, Function.update_self]
      exact ⟨hparking, hparked⟩
    · simp only [Ingest.setWorker, Function.update_of_ne hv]
      exact h.awake hnotified v

/-- A step that meets the condition keeps the invariant. -/
theorem Released.step (h : s.Released) (hstep : Step depth dispatch s t) (hannounced : Announced s t) :
    t.Released := by
  rcases hstep with hstep | hstep
  · cases hstep with
    | notifyAll hstop =>
      refine ⟨fun _ => h.stopping (by simp [hstop]), fun _ w => ?_⟩
      have hparking := hannounced hstop rfl w
      exact ⟨fun hw => hparking (wake_eq_parking.mp hw), wake_ne_parked _⟩
    | drain item rest hstop _ _ =>
      have hnotified : s.Notified := by simp [Notified, hstop]
      exact ⟨fun _ => h.stopping hnotified.1, fun _ => h.awake hnotified⟩
    | answerDrained item hstop =>
      have hnotified : s.Notified := by simp [Notified, hstop]
      exact ⟨fun _ => h.stopping hnotified.1, fun _ => h.awake hnotified⟩
    | drained hstop _ _ =>
      have hnotified : s.Notified := by simp [Notified, hstop]
      exact ⟨fun _ => h.stopping hnotified.1, fun _ => h.awake hnotified⟩
    | testFails w _ _ hrunning =>
      -- the predicate is false only before `stopping` is stored
      refine ⟨h.stopping, fun hnotified => ?_⟩
      exact absurd (h.stopping hnotified.1) (by simp [hrunning])
    | park w hw =>
      refine ⟨h.stopping, fun hnotified => ?_⟩
      exact absurd hw (h.awake hnotified w).1
    | notifyOne c item w _ _ =>
      have hconnection : (s.setConnection c (.waiting item)).Released := ⟨h.stopping, h.awake⟩
      exact hconnection.setWorker w .ready (by simp) (by simp)
    | lockWorker w _ _ =>
      have hset := h.setWorker w .locked (by simp) (by simp)
      exact ⟨hset.stopping, hset.awake⟩
    | take w item rest _ _ =>
      have hset := h.setWorker w (.taken item) (by simp) (by simp)
      exact ⟨hset.stopping, hset.awake⟩
    | finish w _ _ _ =>
      have hset := h.setWorker w .finished (by simp) (by simp)
      exact ⟨hset.stopping, hset.awake⟩
    | dispatch w item _ =>
      have hset := h.setWorker w (.dispatched item (dispatch s.observatory item.frame).1)
        (by simp) (by simp)
      exact ⟨hset.stopping, hset.awake⟩
    | complete w item reply _ =>
      have hset := h.setWorker w .ready (by simp) (by simp)
      exact ⟨hset.stopping, hset.awake⟩
    | poll | leave | lock | hasRoom | refuse | answerRefused | push | notifyNone | resume | hangUp =>
      exact ⟨h.stopping, h.awake⟩
  · cases hstep with
    | wakeUp w _ => exact h.setWorker w .ready (by simp) (by simp)
    | store hstop => exact ⟨fun _ => rfl, fun hnotified => absurd rfl hnotified.2⟩
    | timeout | receive | close => exact ⟨h.stopping, h.awake⟩

/-- If `notify_all` is never called between a worker's test and its parking, no state is reached in
    which `stop` waits for a worker that nobody wakes. -/
theorem worker_not_stranded {observatory : σ}
    (hrun : ReflTransGen (fun s t : Ingest C W σ => Step depth dispatch s t ∧ Announced s t)
      (start observatory) s) : ¬s.Stranded depth dispatch := by
  have hreleased : s.Released := by
    induction hrun with
    | refl => exact released_start observatory
    | tail _ hstep ih => exact ih.step hstep.1 hstep.2
  intro hstranded
  obtain ⟨w, hw⟩ := hstranded.parked
  have hnotified : s.Notified := by simp [Notified, hstranded.joining]
  exact (hreleased.awake hnotified w).2 hw

/-- The one worker parks, and `stop` is called only then. -/
theorem worker_not_stranded_parked :
    ∃ s : Ingest (Fin 1) (Fin 1) Unit,
      ReflTransGen (fun s t : Ingest (Fin 1) (Fin 1) Unit =>
        Step 1 (fun _ frame => (frame, ())) s t ∧ Announced s t) (start ()) s ∧
      s.stop = .joining ∧ ¬s.Stranded 1 (fun _ frame => (frame, ())) := by
  let dispatch : Unit → Frame → Frame × Unit := fun _ frame => (frame, ())
  let s₁ : Ingest (Fin 1) (Fin 1) Unit :=
    { (start ()).setWorker 0 .locked with queueMutex := some (.worker 0) }
  let s₂ := s₁.setWorker 0 .parking
  let s₃ : Ingest (Fin 1) (Fin 1) Unit := { s₂.setWorker 0 .parked with queueMutex := none }
  let s₄ : Ingest (Fin 1) (Fin 1) Unit := { s₃ with stop := .stored, stopping := true }
  let s₅ : Ingest (Fin 1) (Fin 1) Unit :=
    { s₄ with stop := .notified, workers := fun w => wake (s₄.workers w) }
  let s₆ : Ingest (Fin 1) (Fin 1) Unit := { s₅ with stop := .joining }
  have h₁ : Step 1 dispatch (start ()) s₁ := .inl (.lockWorker 0 rfl rfl)
  have h₂ : Step 1 dispatch s₁ s₂ := .inl (.testFails 0 rfl rfl rfl)
  have h₃ : Step 1 dispatch s₂ s₃ := .inl (.park 0 rfl)
  have h₄ : Step 1 dispatch s₃ s₄ := .inr (.store rfl)
  have h₅ : Step 1 dispatch s₄ s₅ := .inl (.notifyAll rfl)
  have h₆ : Step 1 dispatch s₅ s₆ := .inl (.drained rfl rfl rfl)
  have hnotify : Announced s₄ s₅ := by
    intro _ _ w
    have hw : s₄.workers w = .parked := by
      rw [Subsingleton.elim w 0]
      rfl
    rw [hw]
    nofun
  have hrun : ReflTransGen (fun s t => Step 1 dispatch s t ∧ Announced s t) (start ()) s₆ :=
    (((((ReflTransGen.single ⟨h₁, nofun⟩).tail ⟨h₂, nofun⟩).tail ⟨h₃, nofun⟩).tail
      ⟨h₄, nofun⟩).tail ⟨h₅, hnotify⟩).tail ⟨h₆, nofun⟩
  exact ⟨s₆, hrun, rfl, worker_not_stranded hrun⟩

/-! ## A worker that is stranded -/

/-- No connection thread is about to queue an item or to notify a worker, and none will be. -/
structure Silent (s : Ingest C W σ) : Prop where
  stopping : s.stopping = true
  connections : ∀ c item, s.connections c ≠ .admitted item ∧ s.connections c ≠ .pushed item

omit [DecidableEq W] in
theorem Silent.setConnection (h : s.Silent) (c : C) (state : ConnectionState C)
    (hstate : ∀ item, state ≠ .admitted item ∧ state ≠ .pushed item) :
    (s.setConnection c state).Silent where
  stopping := h.stopping
  connections d item := by
    by_cases hd : d = c
    · subst hd
      simp only [Ingest.setConnection, Function.update_self]
      exact hstate item
    · simp only [Ingest.setConnection, Function.update_of_ne hd]
      exact h.connections d item

theorem Silent.step (h : s.Silent) (hstep : Step depth dispatch s t) : t.Silent := by
  rcases hstep with hstep | hstep
  · cases hstep with
    | hasRoom _ _ _ _ hrunning => exact absurd h.stopping (by simp [hrunning])
    | push c item hc => exact absurd hc (h.connections c item).1
    | notifyOne c item _ hc _ => exact absurd hc (h.connections c item).2
    | notifyNone c item hc _ => exact absurd hc (h.connections c item).2
    | poll c _ _ | leave c _ _ | resume c _ _ _ _ _ | hangUp c _ _ _ _ =>
      exact h.setConnection c _ (by simp)
    | lock c item _ _ =>
      have hset := h.setConnection c (.locked item) (by simp)
      exact ⟨hset.stopping, hset.connections⟩
    | refuse c item _ _ =>
      have hset := h.setConnection c (.refused item) (by simp)
      exact ⟨hset.stopping, hset.connections⟩
    | answerRefused c _ _ =>
      have hset := h.setConnection c .idle (by simp)
      exact ⟨hset.stopping, hset.connections⟩
    | lockWorker | take | finish | testFails | park | dispatch | complete | notifyAll | drain
    | answerDrained | drained => exact ⟨h.stopping, h.connections⟩
  · cases hstep with
    | timeout c _ | close c _ => exact h.setConnection c _ (by simp)
    | receive c frame _ =>
      have hset := h.setConnection c (.received ⟨s.received.length, c, frame⟩) (by simp)
      exact ⟨hset.stopping, hset.connections⟩
    | wakeUp => exact ⟨h.stopping, h.connections⟩
    | store => exact ⟨rfl, h.connections⟩

theorem Silent.quiet (h : s.Silent) : Quiet depth dispatch s := by
  intro t hreach
  have hsilent : t.Silent := by
    induction hreach with
    | refl => exact h
    | tail _ hstep ih => exact ih.step hstep
  exact fun c item => (hsilent.connections c item).2

/-- The one worker tests the predicate, `stop` stores `stopping` and notifies, the worker parks, and
    `stop` finds the queue empty. -/
theorem worker_stranded :
    ¬∀ s : Ingest (Fin 1) (Fin 1) Unit,
      s.Reachable 1 (fun _ frame => (frame, ())) →
        ¬s.Stranded 1 (fun _ frame => (frame, ())) := by
  let dispatch : Unit → Frame → Frame × Unit := fun _ frame => (frame, ())
  let s₁ : Ingest (Fin 1) (Fin 1) Unit :=
    { (start ()).setWorker 0 .locked with queueMutex := some (.worker 0) }
  let s₂ := s₁.setWorker 0 .parking
  let s₃ : Ingest (Fin 1) (Fin 1) Unit := { s₂ with stop := .stored, stopping := true }
  let s₄ : Ingest (Fin 1) (Fin 1) Unit :=
    { s₃ with stop := .notified, workers := fun w => wake (s₃.workers w) }
  let s₅ : Ingest (Fin 1) (Fin 1) Unit := { s₄.setWorker 0 .parked with queueMutex := none }
  let s₆ : Ingest (Fin 1) (Fin 1) Unit := { s₅ with stop := .joining }
  have h₁ : Step 1 dispatch (start ()) s₁ := .inl (.lockWorker 0 rfl rfl)
  have h₂ : Step 1 dispatch s₁ s₂ := .inl (.testFails 0 rfl rfl rfl)
  have h₃ : Step 1 dispatch s₂ s₃ := .inr (.store rfl)
  have h₄ : Step 1 dispatch s₃ s₄ := .inl (.notifyAll rfl)
  have h₅ : Step 1 dispatch s₄ s₅ := .inl (.park 0 rfl)
  have h₆ : Step 1 dispatch s₅ s₆ := .inl (.drained rfl rfl rfl)
  have hreach : s₆.Reachable 1 dispatch :=
    ⟨(), (((((ReflTransGen.single h₁).tail h₂).tail h₃).tail h₄).tail h₅).tail h₆⟩
  have hsilent : s₆.Silent := ⟨rfl, fun c item => by simp [s₆, s₅, s₄, s₃, s₂, s₁, start,
    Ingest.setWorker]⟩
  intro h
  exact h s₆ hreach ⟨rfl, rfl, ⟨0, rfl⟩, hsilent.quiet⟩

end Ingest

end FederationObservatory
