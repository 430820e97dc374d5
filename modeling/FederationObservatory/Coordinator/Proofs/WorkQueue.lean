import FederationObservatory.Coordinator.Queue
import FederationObservatory.Misc.Threads
import Mathlib.Data.List.Nodup

/-!
# Every frame is answered once

An item is in one place at a time: in the hand of its connection thread, in the queue, with a
worker, with `stop`, or answered. What is in these places is what was received, and what the workers
have dispatched is what they hold or have replied.
-/

namespace FederationObservatory

/-! ## Where an item is -/

section Places

variable {C : Type}

/-- The item of a connection thread that has not been answered or queued. -/
def ConnectionState.inHand : ConnectionState C → List (WorkItem C)
  | .received item | .locked item | .admitted item | .refused item => [item]
  | _ => []

/-- The item a connection thread is concerned with. -/
def ConnectionState.active : ConnectionState C → Option (WorkItem C)
  | .received item | .locked item | .admitted item | .refused item | .pushed item
  | .waiting item => some item
  | _ => none

/-- The item a worker has taken from the queue and not answered. -/
def WorkerState.held : WorkerState C → List (WorkItem C)
  | .taken item | .dispatched item _ => [item]
  | _ => []

/-- What a worker has dispatched and not answered. -/
def WorkerState.result : WorkerState C → List (WorkItem C × Frame)
  | .dispatched item reply => [(item, reply)]
  | _ => []

theorem WorkerState.mem_result {state : WorkerState C} {item : WorkItem C} {reply : Frame} :
    (item, reply) ∈ state.result ↔ state = .dispatched item reply := by
  cases state <;> simp [WorkerState.result, eq_comm]

def StopState.held : StopState C → List (WorkItem C)
  | .holding item => [item]
  | _ => []

/-- The dispatch an answer comes from. -/
def replied : WorkItem C × Answer → Option (WorkItem C × Frame)
  | (item, .reply reply) => some (item, reply)
  | _ => none

end Places

namespace Ingest

open Relation Threads

variable {C W σ : Type} [Fintype C] [Fintype W] [DecidableEq C] [DecidableEq W] {depth : Nat}
  {dispatch : σ → Frame → Frame × σ} {s t : Ingest C W σ}

/-- The items that have an answer. -/
def answered (s : Ingest C W σ) : List (WorkItem C) := s.answers.map Prod.fst

/-- How often an item is in one of the places. -/
def tally (s : Ingest C W σ) (item : WorkItem C) : Nat :=
  ∑ c, (s.connections c).inHand.count item + s.queue.count item +
    ∑ w, (s.workers w).held.count item + s.stop.held.count item + s.answered.count item

/-- How often a dispatch is held by a worker or answered. -/
def results (s : Ingest C W σ) (p : WorkItem C × Frame) : Nat :=
  ∑ w, (s.workers w).result.count p + (s.answers.filterMap replied).count p

/-- A step moves items between the places, and into them only what is received. -/
theorem tally_step (hstep : Step depth dispatch s t) (i : WorkItem C) :
    t.tally i + s.received.count i = s.tally i + t.received.count i := by
  have hconnection := sum_update_add (fun state => state.inHand.count i) s.connections
  have hworker := sum_update_add (fun state => state.held.count i) s.workers
  have hwake : ∀ w, (wake (s.workers w)).held = (s.workers w).held := by
    intro w
    cases s.workers w <;> rfl
  simp only [tally, answered]
  rcases hstep with hstep | hstep
  · cases hstep with
    | poll c hc _ =>
      have h := hconnection c .reading
      simp only [setConnection, hc, ConnectionState.inHand] at h ⊢
      omega
    | leave c hc _ =>
      have h := hconnection c .closed
      simp only [setConnection, hc, ConnectionState.inHand] at h ⊢
      omega
    | lock c item hc _ =>
      have h := hconnection c (.locked item)
      simp only [setConnection, hc, ConnectionState.inHand] at h ⊢
      omega
    | hasRoom c item hc _ _ =>
      have h := hconnection c (.admitted item)
      simp only [setConnection, hc, ConnectionState.inHand] at h ⊢
      omega
    | refuse c item hc _ =>
      have h := hconnection c (.refused item)
      simp only [setConnection, hc, ConnectionState.inHand] at h ⊢
      omega
    | answerRefused c item hc =>
      have h := hconnection c .idle
      simp only [setConnection, answer, hc, ConnectionState.inHand, List.count_nil, List.map_append,
        List.map_cons, List.map_nil, List.count_append] at h ⊢
      omega
    | push c item hc =>
      have h := hconnection c (.pushed item)
      simp only [setConnection, hc, ConnectionState.inHand, List.count_nil,
        List.count_append] at h ⊢
      omega
    | notifyOne c item w hc hw =>
      have h := hconnection c (.waiting item)
      have h' := hworker w .ready
      simp only [setConnection, setWorker, hc, hw, ConnectionState.inHand,
        WorkerState.held] at h h' ⊢
      omega
    | notifyNone c item hc _ =>
      have h := hconnection c (.waiting item)
      simp only [setConnection, hc, ConnectionState.inHand] at h ⊢
      omega
    | resume c item _ hc _ _ =>
      have h := hconnection c .idle
      simp only [setConnection, hc, ConnectionState.inHand] at h ⊢
      omega
    | hangUp c item _ hc _ =>
      have h := hconnection c .closed
      simp only [setConnection, hc, ConnectionState.inHand] at h ⊢
      omega
    | lockWorker w hw _ =>
      have h := hworker w .locked
      simp only [setWorker, hw, WorkerState.held] at h ⊢
      omega
    | take w item rest hw hqueue =>
      have h := hworker w (.taken item)
      simp only [setWorker, hw, hqueue, WorkerState.held, List.count_nil,
        List.count_cons] at h ⊢
      omega
    | finish w hw _ _ =>
      have h := hworker w .finished
      simp only [setWorker, hw, WorkerState.held] at h ⊢
      omega
    | testFails w hw _ _ =>
      have h := hworker w .parking
      simp only [setWorker, hw, WorkerState.held] at h ⊢
      omega
    | park w hw =>
      have h := hworker w .parked
      simp only [setWorker, hw, WorkerState.held] at h ⊢
      omega
    | dispatch w item hw =>
      have h := hworker w (.dispatched item (dispatch s.observatory item.frame).1)
      simp only [setWorker, hw, WorkerState.held] at h ⊢
      omega
    | complete w item reply hw =>
      have h := hworker w .ready
      simp only [setWorker, answer, hw, WorkerState.held, List.count_nil, List.map_append,
        List.map_cons, List.map_nil, List.count_append] at h ⊢
      omega
    | notifyAll hstop => simp only [hstop, StopState.held, hwake]
    | drain item rest hstop _ hqueue =>
      simp only [hstop, hqueue, StopState.held, List.count_nil, List.count_cons]
      omega
    | answerDrained item hstop =>
      simp only [answer, hstop, StopState.held, List.count_nil, List.map_append, List.map_cons,
        List.map_nil, List.count_append]
      omega
    | drained hstop _ _ => simp only [hstop, StopState.held]
  · cases hstep with
    | timeout c hc =>
      have h := hconnection c .idle
      simp only [setConnection, hc, ConnectionState.inHand] at h ⊢
      omega
    | receive c frame hc =>
      have h := hconnection c (.received ⟨s.received.length, c, frame⟩)
      simp only [setConnection, hc, ConnectionState.inHand, List.count_nil,
        List.count_append] at h ⊢
      omega
    | close c hc =>
      have h := hconnection c .closed
      simp only [setConnection, hc, ConnectionState.inHand] at h ⊢
      omega
    | wakeUp w hw =>
      have h := hworker w .ready
      simp only [setWorker, hw, WorkerState.held] at h ⊢
      omega
    | store hstop => simp only [hstop, StopState.held]

/-- What is dispatched is held by the worker that dispatched it, until it is answered. -/
theorem results_step (hstep : Step depth dispatch s t) (p : WorkItem C × Frame) :
    t.results p + s.dispatches.count p = s.results p + t.dispatches.count p := by
  have hworker := sum_update_add (fun state => state.result.count p) s.workers
  have hwake : ∀ w, (wake (s.workers w)).result = (s.workers w).result := by
    intro w
    cases s.workers w <;> rfl
  simp only [results]
  rcases hstep with hstep | hstep
  · cases hstep with
    | poll | leave | lock | hasRoom | refuse | push | notifyNone | resume | hangUp | drain
    | drained => rfl
    | answerRefused c item _ | answerDrained item _ =>
      simp [setConnection, answer, replied, List.filterMap_cons]
    | notifyOne c item w _ hw =>
      have h := hworker w .ready
      simp only [setConnection, setWorker, hw, WorkerState.result] at h ⊢
      omega
    | lockWorker w hw _ =>
      have h := hworker w .locked
      simp only [setWorker, hw, WorkerState.result] at h ⊢
      omega
    | take w item rest hw _ =>
      have h := hworker w (.taken item)
      simp only [setWorker, hw, WorkerState.result] at h ⊢
      omega
    | finish w hw _ _ =>
      have h := hworker w .finished
      simp only [setWorker, hw, WorkerState.result] at h ⊢
      omega
    | testFails w hw _ _ =>
      have h := hworker w .parking
      simp only [setWorker, hw, WorkerState.result] at h ⊢
      omega
    | park w hw =>
      have h := hworker w .parked
      simp only [setWorker, hw, WorkerState.result] at h ⊢
      omega
    | dispatch w item hw =>
      have h := hworker w (.dispatched item (dispatch s.observatory item.frame).1)
      simp only [setWorker, hw, WorkerState.result, List.count_nil, List.count_append] at h ⊢
      omega
    | complete w item reply hw =>
      have h := hworker w .ready
      simp only [setWorker, answer, hw, WorkerState.result, List.count_nil, List.filterMap_append,
        List.filterMap_cons, List.filterMap_nil, replied, List.count_append] at h ⊢
      omega
    | notifyAll hstop => simp only [hwake]
  · cases hstep with
    | timeout | receive | close | store => rfl
    | wakeUp w hw =>
      have h := hworker w .ready
      simp only [setWorker, hw, WorkerState.result] at h ⊢
      omega

/-! ## What a step does to a connection's item and to the history -/

/-- The item a connection thread is concerned with changes when it receives one and when it has been
    answered. -/
theorem active_step (hstep : Step depth dispatch s t) (c : C) :
    (t.connections c).active = (s.connections c).active ∨
      ((s.connections c).active = none ∧
        ∃ frame, (t.connections c).active = some ⟨s.received.length, c, frame⟩ ∧
          t.received = s.received ++ [⟨s.received.length, c, frame⟩]) ∨
      ∃ item, (s.connections c).active = some item ∧ (t.connections c).active = none ∧
        item ∈ t.answered := by
  have hmove : ∀ {d : C} {state : ConnectionState C} (connections : C → ConnectionState C),
      state.active = (connections d).active →
      (Function.update connections d state c).active = (connections c).active := by
    intro d state connections hstate
    by_cases hc : c = d
    · subst hc
      rw [Function.update_self, hstate]
    · rw [Function.update_of_ne hc]
  have hrelease : ∀ (d : C) (state : ConnectionState C) (item : WorkItem C),
      (s.connections d).active = some item → state.active = none → item ∈ t.answered →
      t.connections = Function.update s.connections d state →
      (t.connections c).active = (s.connections c).active ∨
        ∃ item, (s.connections c).active = some item ∧ (t.connections c).active = none ∧
          item ∈ t.answered := by
    intro d state item hitem hstate hanswered hconnections
    by_cases hc : c = d
    · subst hc
      exact .inr ⟨item, hitem, by rw [hconnections, Function.update_self, hstate], hanswered⟩
    · exact .inl (by rw [hconnections, Function.update_of_ne hc])
  rcases hstep with hstep | hstep
  · cases hstep with
    | poll d hd _ | leave d hd _ | lock d item hd _ | hasRoom d item hd _ _ | refuse d item hd _
    | push d item hd | notifyOne d item w hd _ | notifyNone d item hd _ =>
      exact .inl (hmove s.connections (by rw [hd]; rfl))
    | answerRefused d item hd =>
      refine (hrelease d .idle item (by rw [hd]; rfl) rfl ?_ rfl).imp_right .inr
      simp [answered, answer]
    | resume d item a hd hanswer _ =>
      exact (hrelease d .idle item (by rw [hd]; rfl) rfl
        (List.mem_map_of_mem hanswer) rfl).imp_right .inr
    | hangUp d item a hd hanswer =>
      exact (hrelease d .closed item (by rw [hd]; rfl) rfl
        (List.mem_map_of_mem hanswer) rfl).imp_right .inr
    | lockWorker | take | finish | testFails | park | dispatch | complete | notifyAll | drain
    | answerDrained | drained => exact .inl rfl
  · cases hstep with
    | timeout d hd | close d hd => exact .inl (hmove s.connections (by rw [hd]; rfl))
    | receive d frame hd =>
      by_cases hc : c = d
      · subst hc
        refine .inr (.inl ⟨by rw [hd]; rfl, frame, ?_, rfl⟩)
        simp [setConnection, ConnectionState.active]
      · refine .inl ?_
        simp only [setConnection, Function.update_of_ne hc]
    | wakeUp | store => exact .inl rfl

theorem received_step (hstep : Step depth dispatch s t) :
    t.received = s.received ∨
      ∃ c frame, (s.connections c).active = none ∧
        (t.connections c).active = some ⟨s.received.length, c, frame⟩ ∧
        t.received = s.received ++ [⟨s.received.length, c, frame⟩] := by
  rcases hstep with hstep | hstep
  · cases hstep <;> exact .inl rfl
  · cases hstep with
    | receive c frame hc =>
      refine .inr ⟨c, frame, by rw [hc]; rfl, ?_, rfl⟩
      simp [setConnection, ConnectionState.active]
    | timeout | close | wakeUp | store => exact .inl rfl

theorem dispatches_step (hstep : Step depth dispatch s t) :
    t.dispatches = s.dispatches ∨
      ∃ w item, s.workers w = .taken item ∧
        t.dispatches = s.dispatches ++ [(item, (dispatch s.observatory item.frame).1)] ∧
        t.received = s.received := by
  rcases hstep with hstep | hstep
  · cases hstep with
    | dispatch w item hw => exact .inr ⟨w, item, hw, rfl, rfl⟩
    | _ => exact .inl rfl
  · cases hstep <;> exact .inl rfl

theorem answers_step (hstep : Step depth dispatch s t) : s.answers <+: t.answers := by
  rcases hstep with hstep | hstep
  · cases hstep with
    | answerRefused | complete | answerDrained => exact List.prefix_append _ _
    | _ => exact List.prefix_rfl
  · cases hstep <;> exact List.prefix_rfl

/-! ## The invariant -/

/-- What holds of the items in every reachable state. -/
structure Exact (s : Ingest C W σ) : Prop where
  tickets : s.received.map WorkItem.ticket = List.range s.received.length
  tally : ∀ item, s.tally item = s.received.count item
  results : ∀ p, s.results p = s.dispatches.count p
  /-- A connection thread is concerned with the last frame it received. -/
  active : ∀ c item, (s.connections c).active = some item →
    item.connection = c ∧ (s.received.filter (·.connection = c)).getLast? = some item
  /-- It waits until the frame is answered. -/
  pending : ∀ item ∈ s.received, item ∉ s.answered →
    (s.connections item.connection).active = some item
  order : ∀ c, ((s.dispatches.map Prod.fst).filter (·.connection = c)).Sublist
    (s.received.filter (·.connection = c))

theorem exact_start (observatory : σ) : (start observatory : Ingest C W σ).Exact where
  tickets := rfl
  tally item := by simp [Ingest.tally, start, answered, ConnectionState.inHand, WorkerState.held,
    StopState.held]
  results p := by simp [Ingest.results, start, WorkerState.result]
  active c item h := by simp [start, ConnectionState.active] at h
  pending item h := by simp [start] at h
  order c := by simp [start]

namespace Exact

variable (h : s.Exact)
include h

theorem nodup_received : s.received.Nodup := by
  have hnodup : (s.received.map WorkItem.ticket).Nodup := h.tickets ▸ List.nodup_range
  exact hnodup.of_map _

theorem tally_le_one (item : WorkItem C) : s.tally item ≤ 1 := by
  rw [h.tally]
  exact List.nodup_iff_count_le_one.mp h.nodup_received item

theorem nodup_answered : s.answered.Nodup := by
  refine List.nodup_iff_count_le_one.mpr fun item => ?_
  have hle := h.tally_le_one item
  simp only [Ingest.tally] at hle
  omega

theorem mem_received_of_answered {item : WorkItem C} (hitem : item ∈ s.answered) :
    item ∈ s.received := by
  have hpos := List.count_pos_iff.mpr hitem
  have htally := h.tally item
  simp only [Ingest.tally] at htally
  exact List.count_pos_iff.mp (by omega)

/-- An item a worker has taken is received and not answered. -/
theorem of_held {w : W} {item : WorkItem C} (hitem : item ∈ (s.workers w).held) :
    item ∈ s.received ∧ item ∉ s.answered := by
  have hpos : 0 < (s.workers w).held.count item := List.count_pos_iff.mpr hitem
  have hsum : (s.workers w).held.count item ≤ ∑ v, (s.workers v).held.count item :=
    Finset.single_le_sum (f := fun v => (s.workers v).held.count item) (fun _ _ => Nat.zero_le _)
      (Finset.mem_univ w)
  have htally := h.tally item
  have hone := h.tally_le_one item
  simp only [Ingest.tally] at htally hone
  refine ⟨List.count_pos_iff.mp (by omega), fun hanswered => ?_⟩
  have := List.count_pos_iff.mpr hanswered
  omega

theorem eq_of_held {v w : W} {item : WorkItem C} (hv : item ∈ (s.workers v).held)
    (hw : item ∈ (s.workers w).held) : v = w := by
  by_contra hne
  have hv : 0 < (s.workers v).held.count item := List.count_pos_iff.mpr hv
  have hw : 0 < (s.workers w).held.count item := List.count_pos_iff.mpr hw
  have hsum := add_le_sum (f := fun v => (s.workers v).held.count item) hne
  have hone := h.tally_le_one item
  simp only [Ingest.tally] at hone
  omega

/-- A dispatch is held by a worker, or it was answered. -/
theorem of_dispatched {item : WorkItem C} {reply : Frame} (hitem : (item, reply) ∈ s.dispatches) :
    (∃ w, s.workers w = .dispatched item reply) ∨ (item, .reply reply) ∈ s.answers := by
  have hpos := List.count_pos_iff.mpr hitem
  rw [← h.results, Ingest.results] at hpos
  by_cases hanswered : (item, Answer.reply reply) ∈ s.answers
  · exact .inr hanswered
  · left
    have hnone : (s.answers.filterMap replied).count (item, reply) = 0 := by
      refine List.count_eq_zero.mpr fun hmem => hanswered ?_
      obtain ⟨⟨i, a⟩, hia, hreplied⟩ := List.mem_filterMap.mp hmem
      cases a with
      | reply r =>
        simp only [replied, Option.some.injEq, Prod.mk.injEq] at hreplied
        rwa [← hreplied.1, ← hreplied.2]
      | backpressure | shuttingDown => simp [replied] at hreplied
    obtain ⟨w, -, hw⟩ := Finset.exists_ne_zero_of_sum_ne_zero
      (show ∑ w, (s.workers w).result.count (item, reply) ≠ 0 by omega)
    exact ⟨w, WorkerState.mem_result.mp (List.count_pos_iff.mp (Nat.pos_of_ne_zero hw))⟩

theorem mem_dispatches_of_reply {item : WorkItem C} {reply : Frame}
    (hitem : (item, .reply reply) ∈ s.answers) : (item, reply) ∈ s.dispatches := by
  have hmem : (item, reply) ∈ s.answers.filterMap replied :=
    List.mem_filterMap.mpr ⟨_, hitem, rfl⟩
  have hpos := List.count_pos_iff.mpr hmem
  have hresults := h.results (item, reply)
  rw [Ingest.results] at hresults
  exact List.count_pos_iff.mp (by omega)

/-- What a worker is about to dispatch has not been dispatched. -/
theorem not_mem_dispatches_of_taken {w : W} {item : WorkItem C} (hw : s.workers w = .taken item) :
    item ∉ s.dispatches.map Prod.fst := by
  intro hmem
  obtain ⟨⟨i, reply⟩, hdispatched, rfl⟩ := List.mem_map.mp hmem
  have hheld : i ∈ (s.workers w).held := by simp [hw, WorkerState.held]
  rcases h.of_dispatched hdispatched with ⟨v, hv⟩ | hanswered
  · have heq := h.eq_of_held (v := v) (by simp [hv, WorkerState.held]) hheld
    subst heq
    rw [hv] at hw
    cases hw
  · exact (h.of_held hheld).2 (List.mem_map_of_mem hanswered)

/-- The answer of an item tells whether it was dispatched. -/
theorem dispatched_iff {item : WorkItem C} {a : Answer} (hitem : (item, a) ∈ s.answers)
    (reply : Frame) : (item, reply) ∈ s.dispatches ↔ a = .reply reply := by
  constructor
  · intro hdispatched
    rcases h.of_dispatched hdispatched with ⟨w, hw⟩ | hanswered
    · have hheld : item ∈ (s.workers w).held := by simp [hw, WorkerState.held]
      exact absurd (List.mem_map_of_mem hitem) (h.of_held hheld).2
    · exact congrArg Prod.snd (List.inj_on_of_nodup_map h.nodup_answered hitem hanswered rfl)
  · rintro rfl
    exact h.mem_dispatches_of_reply hitem

theorem tickets_step (hstep : Step depth dispatch s t) :
    t.received.map WorkItem.ticket = List.range t.received.length := by
  rcases received_step hstep with hsame | ⟨c, frame, -, -, hreceived⟩
  · rw [hsame, h.tickets]
  · rw [hreceived, List.map_append, h.tickets, List.length_append]
    exact List.range_succ.symm

theorem received_active_step (hstep : Step depth dispatch s t) (c : C) (item : WorkItem C)
    (hitem : (t.connections c).active = some item) :
    item.connection = c ∧ (t.received.filter (·.connection = c)).getLast? = some item := by
  rcases active_step hstep c with hsame | ⟨-, frame, hnew, hreceived⟩ | ⟨_, -, hnone, -⟩
  · rw [hsame] at hitem
    obtain ⟨hconnection, hlast⟩ := h.active c item hitem
    refine ⟨hconnection, ?_⟩
    rcases received_step hstep with hreceived | ⟨d, frame, hd, -, hreceived⟩
    · rw [hreceived, hlast]
    · -- the frame comes in on a connection whose thread has none
      have hne : d ≠ c := by
        rintro rfl
        rw [hd] at hitem
        cases hitem
      rw [hreceived, List.filter_append, List.filter_cons_of_neg (by simpa using hne)]
      simpa using hlast
  · rw [hnew] at hitem
    cases hitem
    refine ⟨rfl, ?_⟩
    rw [hreceived, List.filter_append, List.filter_cons_of_pos (by simp)]
    simp
  · rw [hnone] at hitem
    cases hitem

theorem pending_step (hstep : Step depth dispatch s t) (item : WorkItem C)
    (hitem : item ∈ t.received) (hnone : item ∉ t.answered) :
    (t.connections item.connection).active = some item := by
  have hbefore : item ∉ s.answered :=
    fun hmem => hnone (((answers_step hstep).map Prod.fst).mem hmem)
  have hold : item ∈ s.received → (t.connections item.connection).active = some item := by
    intro hmem
    have hactive := h.pending item hmem hbefore
    rcases active_step hstep item.connection with hsame | ⟨hidle, -⟩ | ⟨other, hother, -, hanswer⟩
    · rw [hsame, hactive]
    · rw [hactive] at hidle
      cases hidle
    · rw [hactive] at hother
      cases hother
      exact absurd hanswer hnone
  rcases received_step hstep with hsame | ⟨c, frame, -, hactive, hreceived⟩
  · exact hold (hsame ▸ hitem)
  · rw [hreceived, List.mem_append, List.mem_singleton] at hitem
    rcases hitem with hitem | rfl
    · exact hold hitem
    · exact hactive

/-- A worker dispatches the last frame of a connection, after those it dispatched before. -/
theorem order_step (hstep : Step depth dispatch s t) (c : C) :
    ((t.dispatches.map Prod.fst).filter (·.connection = c)).Sublist
      (t.received.filter (·.connection = c)) := by
  rcases dispatches_step hstep with hsame | ⟨w, item, hw, hdispatches, hreceived⟩
  · rw [hsame]
    refine (h.order c).trans (List.Sublist.filter _ ?_)
    rcases received_step hstep with hreceived | ⟨d, frame, -, -, hreceived⟩
    · rw [hreceived]
    · rw [hreceived]
      exact List.sublist_append_left _ _
  · rw [hdispatches, hreceived, List.map_append, List.filter_append]
    by_cases hc : item.connection = c
    · have hheld : item ∈ (s.workers w).held := by simp [hw, WorkerState.held]
      obtain ⟨hmem, hnone⟩ := h.of_held hheld
      obtain ⟨-, hlast⟩ := h.active item.connection item (h.pending item hmem hnone)
      rw [hc] at hlast
      obtain ⟨earlier, hreceived⟩ := List.getLast?_eq_some_iff.mp hlast
      have hnew : item ∉ (s.dispatches.map Prod.fst).filter (·.connection = c) :=
        fun hmem => h.not_mem_dispatches_of_taken hw (List.mem_of_mem_filter hmem)
      have horder := h.order c
      rw [hreceived] at horder ⊢
      rw [List.map_cons, List.map_nil, List.filter_cons_of_pos (by simpa using hc), List.filter_nil]
      obtain ⟨front, back, heq, hfront, hback⟩ := List.sublist_append_iff.mp horder
      have hempty : back = [] := by
        rcases List.sublist_singleton.mp hback with hnil | hsingle
        · exact hnil
        · exact absurd (heq ▸ List.mem_append_right front (hsingle ▸ List.mem_singleton_self item)) hnew
      rw [heq, hempty, List.append_nil]
      exact hfront.append_right [item]
    · rw [List.map_cons, List.map_nil, List.filter_cons_of_neg (by simpa using hc), List.filter_nil,
        List.append_nil]
      exact h.order c

theorem step (hstep : Step depth dispatch s t) : t.Exact where
  tickets := h.tickets_step hstep
  tally item := by
    have hstep := tally_step hstep item
    have htally := h.tally item
    omega
  results p := by
    have hstep := results_step hstep p
    have hresults := h.results p
    omega
  active := h.received_active_step hstep
  pending := h.pending_step hstep
  order := h.order_step hstep

end Exact

theorem Reachable.exact (hs : s.Reachable depth dispatch) : s.Exact := by
  obtain ⟨observatory, hrun⟩ := hs
  exact invariant (fun _ _ hstep h => Exact.step h hstep) hrun (exact_start observatory)

end Ingest

end FederationObservatory
