import FederationObservatory.Coordinator.Proofs.WorkQueue

/-!
# The threads come to an end

While an item is queued, a worker is awake or a connection thread is about to wake one. The steps the
threads take by themselves lower a measure, and where none is left every received frame is answered.
-/

namespace FederationObservatory

section States

variable {C : Type}

/-- The connection thread stands in a section under `queue_mutex`. -/
def ConnectionState.Holding : ConnectionState C → Prop
  | .locked _ | .admitted _ => True
  | _ => False

def WorkerState.Holding : WorkerState C → Prop
  | .locked | .parking => True
  | _ => False

/-- The worker will look at the queue by itself. -/
def WorkerState.Awake : WorkerState C → Prop
  | .parked | .finished => False
  | _ => True

/-- More than the steps a connection thread takes, with the workers it wakes and the items it
    queues, before it reads again. -/
def ConnectionState.work : ConnectionState C → Nat
  | .closed => 0
  | .reading => 1
  | .idle => 2
  | .waiting _ | .refused _ => 3
  | .pushed _ => 7
  | .admitted _ => 12
  | .locked _ => 13
  | .received _ => 14

/-- The steps a worker takes until it parks, when it finds the queue empty. -/
def WorkerState.work : WorkerState C → Nat
  | .parked | .finished => 0
  | .parking => 1
  | .locked => 2
  | .ready => 3
  | .dispatched _ _ => 4
  | .taken _ => 5

/-- The steps `stop` takes, with those of the workers it wakes, until it joins them. -/
def StopState.work (workers : Nat) : StopState C → Nat
  | .idle | .joining => 0
  | .notified => 1
  | .holding _ => 2
  | .stored => 2 + 3 * workers

end States

namespace Ingest

open Relation Threads

variable {C W σ : Type} [DecidableEq C] [DecidableEq W] {depth : Nat}
  {dispatch : σ → Frame → Frame × σ} {s t : Ingest C W σ}

/-! ## The mutex -/

def Holds (s : Ingest C W σ) : Owner C W → Prop
  | .connection c => (s.connections c).Holding
  | .worker w => (s.workers w).Holding

theorem holds_update_connection (s : Ingest C W σ) (c : C) (state : ConnectionState C)
    (o : Owner C W) (ho : o ≠ .connection c) : (s.setConnection c state).Holds o ↔ s.Holds o := by
  cases o with
  | connection d =>
    have hd : d ≠ c := fun heq => ho (heq ▸ rfl)
    simp only [Holds, setConnection, Function.update_of_ne hd]
  | worker w => exact Iff.rfl

theorem holds_update_worker (s : Ingest C W σ) (w : W) (state : WorkerState C)
    (o : Owner C W) (ho : o ≠ .worker w) : (s.setWorker w state).Holds o ↔ s.Holds o := by
  cases o with
  | connection d => exact Iff.rfl
  | worker v =>
    have hv : v ≠ w := fun heq => ho (heq ▸ rfl)
    simp only [Holds, setWorker, Function.update_of_ne hv]

theorem holds_connection_self (s : Ingest C W σ) (c : C) (state : ConnectionState C) :
    (s.setConnection c state).Holds (.connection c) ↔ state.Holding := by
  simp only [Holds, setConnection, Function.update_self]

theorem holds_worker_self (s : Ingest C W σ) (w : W) (state : WorkerState C) :
    (s.setWorker w state).Holds (.worker w) ↔ state.Holding := by
  simp only [Holds, setWorker, Function.update_self]

/-- A connection thread that moves without entering or leaving a guarded section. -/
theorem holds_setConnection (c : C) (state : ConnectionState C)
    (hstate : state.Holding ↔ (s.connections c).Holding) (o : Owner C W) :
    (s.setConnection c state).Holds o ↔ s.Holds o := by
  by_cases ho : o = .connection c
  · subst ho
    rw [holds_connection_self]
    exact hstate
  · exact holds_update_connection s c state o ho

theorem holds_setWorker (w : W) (state : WorkerState C)
    (hstate : state.Holding ↔ (s.workers w).Holding) (o : Owner C W) :
    (s.setWorker w state).Holds o ↔ s.Holds o := by
  by_cases ho : o = .worker w
  · subst ho
    rw [holds_worker_self]
    exact hstate
  · exact holds_update_worker s w state o ho

theorem owned_step (h : Owned s.queueMutex s.Holds) (hstep : Step depth dispatch s t) :
    Owned t.queueMutex t.Holds := by
  rcases hstep with hstep | hstep
  · cases hstep with
    | poll c hc _ | leave c hc _ | hasRoom c item hc _ _ | answerRefused c item hc
    | notifyNone c item hc _ | resume c item _ hc _ _ | hangUp c item _ hc _ =>
      exact h.keep (holds_setConnection c _ (by rw [hc]; rfl))
    | lock c item hc hfree =>
      rw [hfree] at h
      exact h.acquire ((holds_connection_self s c _).mpr trivial)
        (holds_update_connection s c (.locked item))
    | refuse c item hc _ =>
      exact h.release (o := .connection c) (by simp [Holds, hc, ConnectionState.Holding])
        (mt (holds_connection_self s c _).mp id) (holds_update_connection s c (.refused item))
    | push c item hc =>
      exact h.release (o := .connection c) (by simp [Holds, hc, ConnectionState.Holding])
        (mt (holds_connection_self s c _).mp id) (holds_update_connection s c (.pushed item))
    | notifyOne c item w hc hw =>
      have hconnection := h.keep (holds_setConnection c (.waiting item) (by rw [hc]; rfl))
      refine hconnection.keep (holds_setWorker w .ready ?_)
      rw [show (s.setConnection c (.waiting item)).workers w = .parked from hw]
      rfl
    | lockWorker w hw hfree =>
      rw [hfree] at h
      exact h.acquire ((holds_worker_self s w _).mpr trivial) (holds_update_worker s w .locked)
    | take w item rest hw _ =>
      exact h.release (o := .worker w) (by simp [Holds, hw, WorkerState.Holding])
        (mt (holds_worker_self s w _).mp id) (holds_update_worker s w (.taken item))
    | finish w hw _ _ =>
      exact h.release (o := .worker w) (by simp [Holds, hw, WorkerState.Holding])
        (mt (holds_worker_self s w _).mp id) (holds_update_worker s w .finished)
    | park w hw =>
      exact h.release (o := .worker w) (by simp [Holds, hw, WorkerState.Holding])
        (mt (holds_worker_self s w _).mp id) (holds_update_worker s w .parked)
    | testFails w hw _ _ => exact h.keep (holds_setWorker w .parking (by rw [hw]; rfl))
    | dispatch w item hw =>
      exact h.keep (holds_setWorker w (.dispatched item (dispatch s.observatory item.frame).1)
        (by rw [hw]; rfl))
    | complete w item reply hw => exact h.keep (holds_setWorker w .ready (by rw [hw]; rfl))
    | notifyAll _ =>
      refine h.keep fun o => ?_
      cases o with
      | connection c => exact Iff.rfl
      | worker w =>
        simp only [Holds]
        cases s.workers w <;> exact Iff.rfl
    | drain | answerDrained | drained => exact h
  · cases hstep with
    | timeout c hc | close c hc | receive c frame hc =>
      exact h.keep (holds_setConnection c _ (by rw [hc]; rfl))
    | wakeUp w hw => exact h.keep (holds_setWorker w .ready (by rw [hw]; rfl))
    | store _ => exact h

/-! ## The queue is served -/

/-- A worker looks at the queue by itself, or a connection thread is about to wake one. -/
def Serving (s : Ingest C W σ) : Prop :=
  (∃ w, (s.workers w).Awake) ∨ ∃ c item, s.connections c = .pushed item

/-- What holds of the queue, the workers and the mutex in every reachable state. -/
structure Guarded (s : Ingest C W σ) : Prop where
  owned : Owned s.queueMutex s.Holds
  parking : ∀ w, s.workers w = .parking → s.queue = []
  finished : ∀ w, s.workers w = .finished →
    s.stopping = true ∧ s.queue = [] ∧ ∀ c item, s.connections c ≠ .admitted item
  serving : s.queue ≠ [] → s.Serving

theorem guarded_start (observatory : σ) : (start observatory : Ingest C W σ).Guarded where
  owned o := by cases o <;> simp [start, Holds, ConnectionState.Holding, WorkerState.Holding]
  parking w h := rfl
  finished w h := by simp [start] at h
  serving h := absurd rfl h

theorem Serving.setConnection (h : s.Serving) (c : C) (state : ConnectionState C)
    (hc : ∀ item, s.connections c ≠ .pushed item) : (s.setConnection c state).Serving := by
  refine h.imp_right ?_
  rintro ⟨d, item, hd⟩
  have hne : d ≠ c := by
    rintro rfl
    exact hc item hd
  exact ⟨d, item, by simp only [Ingest.setConnection, Function.update_of_ne hne, hd]⟩

theorem serving_setWorker (s : Ingest C W σ) (w : W) (state : WorkerState C) (h : state.Awake) :
    (s.setWorker w state).Serving :=
  .inl ⟨w, by simpa only [Ingest.setWorker, Function.update_self] using h⟩

namespace Guarded

variable (h : s.Guarded)
include h

theorem not_holds_of_free (hfree : s.queueMutex = none) (o : Owner C W) : ¬s.Holds o := by
  rw [← h.owned o, hfree]
  simp

/-- No two threads are in a guarded section at once. -/
theorem connection_worker {c : C} {w : W} (hc : (s.connections c).Holding)
    (hw : (s.workers w).Holding) : False := by
  have heq := h.owned.eq (.connection c) (.worker w) hc hw
  cases heq

theorem worker_worker {v w : W} (hv : (s.workers v).Holding) (hw : (s.workers w).Holding) : v = w := by
  have heq := h.owned.eq (.worker v) (.worker w) hv hw
  cases heq
  rfl

/-- The queue of a worker that is about to park stays empty: what is queued is queued under the
    mutex, which the worker holds. -/
theorem parking_step (hstep : Step depth dispatch s t) (w : W) (hw : t.workers w = .parking) :
    t.queue = [] := by
  have hold : s.workers w = .parking → (s.workers w).Holding := by
    intro hw
    rw [hw]
    trivial
  have hmoved : ∀ {v : W} {state : WorkerState C} {workers : W → WorkerState C},
      Function.update workers v state w = .parking → state ≠ .parking → workers w = .parking := by
    intro v state workers hparking hstate
    by_cases hv : w = v
    · subst hv
      rw [Function.update_self] at hparking
      exact absurd hparking hstate
    · rwa [Function.update_of_ne hv] at hparking
  rcases hstep with hstep | hstep
  · cases hstep with
    | push c item hc =>
      exact absurd (hold hw) fun hholding =>
        h.connection_worker (c := c) (by rw [hc]; trivial) hholding
    | take v item rest hv hqueue =>
      have hs := hmoved hw (by simp)
      have heq : v = w := h.worker_worker (by rw [hv]; trivial) (hold hs)
      subst heq
      rw [hv] at hs
      cases hs
    | drain item rest _ hfree _ => exact absurd (hold hw) (h.not_holds_of_free hfree (.worker w))
    | testFails v _ hqueue _ => exact hqueue
    | notifyOne _ _ v _ _ | lockWorker v _ _ | finish v _ _ _ | park v _ | dispatch v _ _
    | complete v _ _ _ => exact h.parking w (hmoved hw (by simp))
    | notifyAll _ =>
      refine h.parking w ?_
      cases hstate : s.workers w <;> simp_all [wake]
    | poll | leave | lock | hasRoom | refuse | answerRefused | notifyNone | resume | hangUp
    | answerDrained | drained => exact h.parking w hw
  · cases hstep with
    | wakeUp v _ => exact h.parking w (hmoved hw (by simp))
    | timeout | receive | close | store => exact h.parking w hw

/-- Nothing is queued once a worker has finished: `stopping` was set, and no connection thread was
    between its test and its push. -/
theorem finished_step (hstep : Step depth dispatch s t) (w : W) (hw : t.workers w = .finished) :
    t.stopping = true ∧ t.queue = [] ∧ ∀ c item, t.connections c ≠ .admitted item := by
  have hworker : ∀ {v : W} {state : WorkerState C} {workers : W → WorkerState C},
      Function.update workers v state w = .finished → state ≠ .finished →
      workers w = .finished := by
    intro v state workers hfinished hstate
    by_cases hv : w = v
    · subst hv
      rw [Function.update_self] at hfinished
      exact absurd hfinished hstate
    · rwa [Function.update_of_ne hv] at hfinished
  have hconnection : ∀ {d : C} {state : ConnectionState C},
      (∀ c item, s.connections c ≠ .admitted item) → (∀ item, state ≠ .admitted item) →
      ∀ c item, Function.update s.connections d state c ≠ .admitted item := by
    intro d state hnone hstate c item
    by_cases hc : c = d
    · subst hc
      rw [Function.update_self]
      exact hstate item
    · rw [Function.update_of_ne hc]
      exact hnone c item
  rcases hstep with hstep | hstep
  · cases hstep with
    | poll c | leave c | lock c | refuse c | answerRefused c | notifyNone c | resume c | hangUp c =>
      obtain ⟨hstopping, hqueue, hnone⟩ := h.finished w hw
      exact ⟨hstopping, hqueue, hconnection hnone (by simp)⟩
    | hasRoom c item _ _ hrunning =>
      obtain ⟨hstopping, -⟩ := h.finished w hw
      rw [hrunning] at hstopping
      cases hstopping
    | push c item hc => exact absurd hc ((h.finished w hw).2.2 c item)
    | notifyOne c _ v _ _ =>
      obtain ⟨hstopping, hqueue, hnone⟩ := h.finished w (hworker hw (by simp))
      exact ⟨hstopping, hqueue, hconnection hnone (by simp)⟩
    | take v item rest _ hqueue =>
      obtain ⟨-, hempty, -⟩ := h.finished w (hworker hw (by simp))
      rw [hqueue] at hempty
      cases hempty
    | drain item rest _ _ hqueue =>
      obtain ⟨-, hempty, -⟩ := h.finished w hw
      rw [hqueue] at hempty
      cases hempty
    | finish v hv hqueue hstopping =>
      refine ⟨hstopping, hqueue, fun c item hc => ?_⟩
      have hc : s.connections c = .admitted item := hc
      exact h.connection_worker (c := c) (w := v) (by rw [hc]; trivial) (by rw [hv]; trivial)
    | lockWorker v _ _ | testFails v _ _ _ | park v _ | dispatch v _ _ | complete v _ _ _ =>
      exact h.finished w (hworker hw (by simp))
    | notifyAll _ =>
      refine h.finished w ?_
      cases hstate : s.workers w <;> simp_all [wake]
    | answerDrained | drained => exact h.finished w hw
  · cases hstep with
    | timeout c | receive c | close c =>
      obtain ⟨hstopping, hqueue, hnone⟩ := h.finished w hw
      exact ⟨hstopping, hqueue, hconnection hnone (by simp)⟩
    | wakeUp v _ => exact h.finished w (hworker hw (by simp))
    | store _ => exact ⟨rfl, (h.finished w hw).2⟩

/-- A queue that holds something is served after every step: a worker goes to sleep only when it is
    empty, and a connection thread that has queued an item wakes a worker unless none sleeps. -/
theorem serving_step [Nonempty W] (hstep : Step depth dispatch s t) (hqueue : t.queue ≠ []) :
    t.Serving := by
  rcases hstep with hstep | hstep
  · cases hstep with
    | poll c hc _ | leave c hc _ | hasRoom c item hc _ _ | answerRefused c item hc
    | resume c item _ hc _ _ | hangUp c item _ hc _ | lock c item hc _ | refuse c item hc _ =>
      exact (h.serving hqueue).setConnection c _ (by simp [hc])
    | push c item hc => exact .inr ⟨c, item, by simp [Ingest.setConnection]⟩
    | notifyOne c item w _ _ => exact serving_setWorker _ w .ready trivial
    | notifyNone c item hc hnone =>
      refine .inl ⟨Classical.arbitrary W, ?_⟩
      have hfinished : s.workers (Classical.arbitrary W) ≠ .finished :=
        fun hw => hqueue (h.finished _ hw).2.1
      have hparked := hnone (Classical.arbitrary W)
      simp only [Ingest.setConnection]
      cases hstate : s.workers (Classical.arbitrary W) <;> simp_all [WorkerState.Awake]
    | lockWorker w _ _ => exact serving_setWorker s w .locked trivial
    | take w item _ _ _ => exact serving_setWorker s w (.taken item) trivial
    | testFails w _ _ _ => exact serving_setWorker s w .parking trivial
    | dispatch w item _ =>
      exact serving_setWorker s w (.dispatched item (dispatch s.observatory item.frame).1) trivial
    | complete w _ _ _ => exact serving_setWorker s w .ready trivial
    | finish _ _ hempty _ => exact absurd hempty hqueue
    | park w hw => exact absurd (h.parking w hw) hqueue
    | notifyAll _ =>
      refine (h.serving hqueue).imp_left ?_
      rintro ⟨w, hw⟩
      refine ⟨w, ?_⟩
      cases hstate : s.workers w <;> simp_all [wake, WorkerState.Awake]
    | drain item rest _ _ hcons => exact h.serving (by simp [hcons])
    | answerDrained | drained => exact h.serving hqueue
  · cases hstep with
    | timeout c hc | receive c _ hc | close c hc =>
      exact (h.serving hqueue).setConnection c _ (by simp [hc])
    | wakeUp w _ => exact serving_setWorker s w .ready trivial
    | store _ => exact h.serving hqueue

theorem step [Nonempty W] (hstep : Step depth dispatch s t) : t.Guarded where
  owned := owned_step h.owned hstep
  parking := h.parking_step hstep
  finished := h.finished_step hstep
  serving := h.serving_step hstep

end Guarded

theorem Reachable.guarded [Nonempty W] (hs : s.Reachable depth dispatch) : s.Guarded := by
  obtain ⟨observatory, hrun⟩ := hs
  exact invariant (fun _ _ hstep h => Guarded.step h hstep) hrun (guarded_start observatory)

/-! ## The steps of the threads come to an end -/

section Progress

variable [Fintype C] [Fintype W]

/-- What is left to do. -/
def work (s : Ingest C W σ) : Nat :=
  ∑ c, (s.connections c).work + ∑ w, (s.workers w).work + 4 * s.queue.length +
    s.stop.work (Fintype.card W)

theorem sum_wake_le (workers : W → WorkerState C) :
    ∑ w, (wake (workers w)).work ≤ ∑ w, (workers w).work + 3 * Fintype.card W := by
  have hone : ∀ state : WorkerState C, (wake state).work ≤ state.work + 3 := by
    intro state
    cases state <;> simp [wake, WorkerState.work]
  calc ∑ w, (wake (workers w)).work ≤ ∑ w, ((workers w).work + 3) :=
        Finset.sum_le_sum fun w _ => hone (workers w)
    _ = ∑ w, (workers w).work + 3 * Fintype.card W := by
        rw [Finset.sum_add_distrib, Finset.sum_const, Finset.card_univ, smul_eq_mul, mul_comm 3]

/-- Every step the threads take by themselves leaves less to do. -/
theorem work_lt (hstep : Internal depth dispatch s t) : t.work < s.work := by
  have hconnection := sum_update_add ConnectionState.work s.connections
  have hworker := sum_update_add WorkerState.work s.workers
  simp only [work]
  cases hstep with
  | poll c hc _ =>
    have h := hconnection c .reading
    simp only [setConnection, hc, ConnectionState.work] at h ⊢
    omega
  | leave c hc _ | hangUp c _ _ hc _ =>
    have h := hconnection c .closed
    simp only [setConnection, hc, ConnectionState.work] at h ⊢
    omega
  | lock c item hc _ =>
    have h := hconnection c (.locked item)
    simp only [setConnection, hc, ConnectionState.work] at h ⊢
    omega
  | hasRoom c item hc _ _ =>
    have h := hconnection c (.admitted item)
    simp only [setConnection, hc, ConnectionState.work] at h ⊢
    omega
  | refuse c item hc _ =>
    have h := hconnection c (.refused item)
    simp only [setConnection, hc, ConnectionState.work] at h ⊢
    omega
  | answerRefused c _ hc | resume c _ _ hc _ _ =>
    have h := hconnection c .idle
    simp only [setConnection, answer, hc, ConnectionState.work] at h ⊢
    omega
  | push c item hc =>
    have h := hconnection c (.pushed item)
    simp only [setConnection, hc, ConnectionState.work, List.length_append,
      List.length_singleton] at h ⊢
    omega
  | notifyOne c item w hc hw =>
    have h := hconnection c (.waiting item)
    have h' := hworker w .ready
    simp only [setConnection, setWorker, hc, hw, ConnectionState.work, WorkerState.work] at h h' ⊢
    omega
  | notifyNone c item hc _ =>
    have h := hconnection c (.waiting item)
    simp only [setConnection, hc, ConnectionState.work] at h ⊢
    omega
  | lockWorker w hw _ =>
    have h := hworker w .locked
    simp only [setWorker, hw, WorkerState.work] at h ⊢
    omega
  | take w item rest hw hqueue =>
    have h := hworker w (.taken item)
    simp only [setWorker, hw, hqueue, WorkerState.work, List.length_cons] at h ⊢
    omega
  | finish w hw _ _ =>
    have h := hworker w .finished
    simp only [setWorker, hw, WorkerState.work] at h ⊢
    omega
  | testFails w hw _ _ =>
    have h := hworker w .parking
    simp only [setWorker, hw, WorkerState.work] at h ⊢
    omega
  | park w hw =>
    have h := hworker w .parked
    simp only [setWorker, hw, WorkerState.work] at h ⊢
    omega
  | dispatch w item hw =>
    have h := hworker w (.dispatched item (dispatch s.observatory item.frame).1)
    simp only [setWorker, hw, WorkerState.work] at h ⊢
    omega
  | complete w item reply hw =>
    have h := hworker w .ready
    simp only [setWorker, answer, hw, WorkerState.work] at h ⊢
    omega
  | notifyAll hstop =>
    have h := sum_wake_le s.workers
    simp only [hstop, StopState.work]
    omega
  | drain item rest hstop _ hqueue =>
    simp only [hstop, hqueue, StopState.work, List.length_cons]
    omega
  | answerDrained item hstop =>
    simp only [answer, hstop, StopState.work]
    omega
  | drained hstop _ _ =>
    simp only [hstop, StopState.work]
    omega

/-- No thread can take a step by itself. -/
def Settled (depth : Nat) (dispatch : σ → Frame → Frame × σ) (s : Ingest C W σ) : Prop :=
  ∀ t, ¬Internal depth dispatch s t

namespace Settled

variable (h : s.Settled depth dispatch)
include h

omit [Fintype C] [Fintype W]

/-- Whoever holds the mutex can go on. -/
theorem free (hguarded : s.Guarded) : s.queueMutex = none := by
  cases hmutex : s.queueMutex with
  | none => rfl
  | some o =>
    have hholds := (hguarded.owned o).mp hmutex
    cases o with
    | connection c =>
      cases hc : s.connections c with
      | locked item =>
        by_cases hroom : s.queue.length < depth ∧ s.stopping = false
        · exact absurd (.hasRoom c item hc hroom.1 hroom.2) (h _)
        · refine absurd (.refuse c item hc ?_) (h _)
          simp only [not_and_or, not_lt, Bool.not_eq_false] at hroom
          exact hroom
      | admitted item => exact absurd (.push c item hc) (h _)
      | idle | reading | received | refused | pushed | waiting | closed =>
        simp [Holds, hc, ConnectionState.Holding] at hholds
    | worker w =>
      cases hw : s.workers w with
      | locked =>
        cases hqueue : s.queue with
        | nil =>
          cases hstopping : s.stopping with
          | false => exact absurd (.testFails w hw hqueue hstopping) (h _)
          | true => exact absurd (.finish w hw hqueue hstopping) (h _)
        | cons item rest => exact absurd (.take w item rest hw hqueue) (h _)
      | parking => exact absurd (.park w hw) (h _)
      | ready | parked | taken | dispatched | finished =>
        simp [Holds, hw, WorkerState.Holding] at hholds

theorem not_awake (hguarded : s.Guarded) (w : W) : ¬(s.workers w).Awake := by
  have hfree := h.free hguarded
  have hholds := hguarded.not_holds_of_free hfree (.worker w)
  intro hawake
  cases hw : s.workers w with
  | ready => exact h _ (.lockWorker w hw hfree)
  | taken item => exact h _ (.dispatch w item hw)
  | dispatched item reply => exact h _ (.complete w item reply hw)
  | locked | parking => simp [Holds, hw, WorkerState.Holding] at hholds
  | parked | finished => simp [hw, WorkerState.Awake] at hawake

theorem not_pushed (c : C) (item : WorkItem C) : s.connections c ≠ .pushed item := by
  intro hc
  by_cases hnone : ∀ w, s.workers w ≠ .parked
  · exact h _ (.notifyNone c item hc hnone)
  · simp only [not_forall, not_not] at hnone
    obtain ⟨w, hw⟩ := hnone
    exact h _ (.notifyOne c item w hc hw)

theorem queue_nil (hguarded : s.Guarded) : s.queue = [] := by
  by_contra hqueue
  rcases hguarded.serving hqueue with ⟨w, hw⟩ | ⟨c, item, hc⟩
  · exact h.not_awake hguarded w hw
  · exact h.not_pushed c item hc

theorem inHand_nil (hguarded : s.Guarded) (c : C) : (s.connections c).inHand = [] := by
  have hfree := h.free hguarded
  have hholds := hguarded.not_holds_of_free hfree (.connection c)
  cases hc : s.connections c with
  | received item => exact absurd (.lock c item hc hfree) (h _)
  | refused item => exact absurd (.answerRefused c item hc) (h _)
  | locked | admitted => simp [Holds, hc, ConnectionState.Holding] at hholds
  | idle | reading | pushed | waiting | closed => rfl

theorem held_nil (hguarded : s.Guarded) (w : W) : (s.workers w).held = [] := by
  have hawake := h.not_awake hguarded w
  cases hw : s.workers w with
  | taken | dispatched => simp [hw, WorkerState.Awake] at hawake
  | ready | locked | parking | parked | finished => rfl

theorem stop_nil : s.stop.held = [] := by
  cases hstop : s.stop with
  | holding item => exact absurd (.answerDrained item hstop) (h _)
  | idle | stored | notified | joining => rfl

end Settled

/-- Where the threads can go no further, every frame that was received is answered. -/
theorem Settled.answered (h : s.Settled depth dispatch) (hguarded : s.Guarded) (hexact : s.Exact)
    {item : WorkItem C} (hitem : item ∈ s.received) : item ∈ s.answered := by
  have htally := hexact.tally item
  simp only [tally, h.inHand_nil hguarded, h.held_nil hguarded, h.stop_nil, h.queue_nil hguarded,
    List.count_nil, Finset.sum_const_zero, Nat.add_zero, Nat.zero_add] at htally
  exact List.count_pos_iff.mp (htally ▸ List.count_pos_iff.mpr hitem)

end Progress

end Ingest

end FederationObservatory
