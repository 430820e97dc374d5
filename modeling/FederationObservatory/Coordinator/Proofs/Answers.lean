import FederationObservatory.Coordinator.Proofs.Dispatch
import FederationObservatory.Coordinator.Proofs.Progress

/-!
# What the frames are answered with

The threads of a coordinator with the dispatcher it has: every frame is answered at most once, with
the reply of its one dispatch or with a refusal, and the threads do not come to rest before every
frame is answered.
-/

namespace FederationObservatory

/-- The dispatcher as the workers call it. Its state is the coordinator and the number of frames
    dispatched so far, which tells what the clock shows. -/
def Coordinator.serve (answers : Answers) (clocks : Nat → Clock) (s : Coordinator × Nat)
    (frame : Frame) : Frame × (Coordinator × Nat) :=
  let (reply, coordinator) := s.1.dispatch answers (clocks s.2) frame
  (reply, (coordinator, s.2 + 1))

namespace Ingest

open Relation Threads

variable {C W σ : Type} [Fintype C] [Fintype W] [DecidableEq C] [DecidableEq W] {depth : Nat}
  {dispatch : σ → Frame → Frame × σ} {s t : Ingest C W σ}

/-- An answer is what it should be: the reply of the one dispatch of the frame, or a refusal of a
    frame that is not dispatched. -/
inductive Settles (s : Ingest C W σ) (item : WorkItem C) : Answer → Prop where
  | reply {reply : Frame} (hid : reply.requestId = item.frame.requestId)
      (hone : s.dispatches.filter (·.1 = item) = [(item, reply)]) : Settles s item (.reply reply)
  | backpressure (hnone : item ∉ s.dispatches.map Prod.fst) : Settles s item .backpressure
  | shuttingDown (hnone : item ∉ s.dispatches.map Prod.fst) : Settles s item .shuttingDown

/-- The work queue is exact: what is received is answered once, and in order. -/
structure AnsweredOnce (depth : Nat) (dispatch : σ → Frame → Frame × σ) (s : Ingest C W σ) :
    Prop where
  received : s.received.Nodup
  once : s.answered.Nodup
  answered : ∀ item ∈ s.answered, item ∈ s.received
  settles : ∀ item answer, (item, answer) ∈ s.answers → s.Settles item answer
  dispatched : (s.dispatches.map Prod.fst).Nodup
  order : ∀ c, ((s.dispatches.map Prod.fst).filter (·.connection = c)).Sublist
    (s.received.filter (·.connection = c))
  /-- The threads cannot go on by themselves for ever, -/
  finite : Acc (fun t s => Internal depth dispatch s t) s
  /-- and not rest before every frame is answered. -/
  settled : s.Settled depth dispatch → ∀ item ∈ s.received, item ∈ s.answered

theorem Exact.nodup_dispatched (h : s.Exact) : (s.dispatches.map Prod.fst).Nodup := by
  refine List.nodup_iff_count_le_one.mpr fun item => ?_
  have hnodup := (h.nodup_received.filter (·.connection = item.connection)).sublist
    (h.order item.connection)
  have hcount := List.nodup_iff_count_le_one.mp hnodup item
  rwa [List.count_filter (by simp)] at hcount

/-- An item that is dispatched once has one entry. -/
theorem Exact.filter_dispatches (h : s.Exact) {item : WorkItem C} {reply : Frame}
    (hmem : (item, reply) ∈ s.dispatches) :
    s.dispatches.filter (·.1 = item) = [(item, reply)] := by
  have hnodup := h.nodup_dispatched
  generalize s.dispatches = dispatches at hmem hnodup
  induction dispatches with
  | nil => cases hmem
  | cons p dispatches ih =>
    rw [List.map_cons, List.nodup_cons] at hnodup
    rcases List.mem_cons.mp hmem with rfl | hrest
    · have hnone : dispatches.filter (·.1 = item) = [] := by
        refine List.filter_eq_nil_iff.mpr fun q hq => ?_
        have hne : q.1 ≠ item := fun heq => hnodup.1 (List.mem_map.mpr ⟨q, hq, heq⟩)
        simpa using hne
      rw [List.filter_cons_of_pos (by simp), hnone]
    · have hne : p.1 ≠ item := fun heq => hnodup.1 (heq ▸ List.mem_map_of_mem hrest)
      rw [List.filter_cons_of_neg (by simpa using hne), ih hrest hnodup.2]

/-- Every reply carries the number of its request. -/
theorem Reachable.requestId (hdispatch : ∀ s frame, (dispatch s frame).1.requestId = frame.requestId)
    (hs : s.Reachable depth dispatch) :
    ∀ p ∈ s.dispatches, p.2.requestId = p.1.frame.requestId := by
  obtain ⟨observatory, hrun⟩ := hs
  refine invariant (I := fun s => ∀ p ∈ s.dispatches, p.2.requestId = p.1.frame.requestId)
    (fun s t hstep h => ?_) hrun (by simp [start])
  rcases dispatches_step hstep with hsame | ⟨w, item, -, hdispatches, -⟩
  · rw [hsame]
    exact h
  · rw [hdispatches]
    intro p hp
    rcases List.mem_append.mp hp with hp | hp
    · exact h p hp
    · rw [List.mem_singleton.mp hp]
      exact hdispatch _ _

/-- In every state that the connection threads, the workers and `stop` of a coordinator reach, in
    any order of their steps, every frame has at most one answer: the reply of its one dispatch,
    which carries its number, or a refusal, and then it is not dispatched. The frames of a
    connection are dispatched in the order in which they came in, and the threads do not rest before
    every frame is answered. -/
theorem answered_once [Nonempty W] (answers : Answers) (clocks : Nat → Clock) (depth : Nat)
    {s : Ingest C W (Coordinator × Nat)}
    (hs : s.Reachable depth (Coordinator.serve answers clocks)) :
    s.AnsweredOnce depth (Coordinator.serve answers clocks) := by
  have hexact := hs.exact
  have hserve : ∀ s frame, (Coordinator.serve answers clocks s frame).1.requestId =
      frame.requestId := by
    intro s frame
    exact Coordinator.dispatch_requestId answers s.1 (clocks s.2) frame
  have hid := hs.requestId hserve
  refine
    { received := hexact.nodup_received
      once := hexact.nodup_answered
      answered := fun item => hexact.mem_received_of_answered
      settles := fun item answer hanswer => ?_
      dispatched := hexact.nodup_dispatched
      order := hexact.order
      finite := acc_of_measure work (fun _ _ hstep => work_lt hstep) s
      settled := fun hsettled item hitem => hsettled.answered hs.guarded hexact hitem }
  have hnone : (∀ reply, answer ≠ .reply reply) → item ∉ s.dispatches.map Prod.fst := by
    intro hne hmem
    obtain ⟨⟨i, reply⟩, hdispatched, rfl⟩ := List.mem_map.mp hmem
    exact hne reply ((hexact.dispatched_iff hanswer reply).mp hdispatched)
  cases answer with
  | reply reply =>
    have hmem := hexact.mem_dispatches_of_reply hanswer
    exact .reply (hid _ hmem) (hexact.filter_dispatches hmem)
  | backpressure => exact .backpressure (hnone nofun)
  | shuttingDown => exact .shuttingDown (hnone nofun)

/-- A heartbeat comes in and the one worker serves it. -/
theorem answered_once_heartbeat :
    ∃ s : Ingest (Fin 1) (Fin 1) (Coordinator × Nat),
      s.Reachable 1 (Coordinator.serve (fun _ _ _ => .ok {}) fun _ => {}) ∧
        s.answered.length = 1 ∧
        s.AnsweredOnce 1 (Coordinator.serve (fun _ _ _ => .ok {}) fun _ => {}) := by
  let serve := Coordinator.serve (fun _ _ _ => .ok {}) fun _ => {}
  let item : WorkItem (Fin 1) := ⟨0, 0, .heartbeat⟩
  let s₀ : Ingest (Fin 1) (Fin 1) (Coordinator × Nat) := start (Coordinator.fresh, 0)
  let s₁ := s₀.setConnection 0 .reading
  let s₂ : Ingest (Fin 1) (Fin 1) (Coordinator × Nat) :=
    { s₁.setConnection 0 (.received item) with received := [item] }
  let s₃ : Ingest (Fin 1) (Fin 1) (Coordinator × Nat) :=
    { s₂.setConnection 0 (.locked item) with queueMutex := some (.connection 0) }
  let s₄ := s₃.setConnection 0 (.admitted item)
  let s₅ : Ingest (Fin 1) (Fin 1) (Coordinator × Nat) :=
    { s₄.setConnection 0 (.pushed item) with queueMutex := none, queue := [item] }
  let s₆ := s₅.setConnection 0 (.waiting item)
  let s₇ : Ingest (Fin 1) (Fin 1) (Coordinator × Nat) :=
    { s₆.setWorker 0 .locked with queueMutex := some (.worker 0) }
  let s₈ : Ingest (Fin 1) (Fin 1) (Coordinator × Nat) :=
    { s₇.setWorker 0 (.taken item) with queueMutex := none, queue := [] }
  let outcome := serve s₈.observatory item.frame
  let s₉ : Ingest (Fin 1) (Fin 1) (Coordinator × Nat) :=
    { s₈.setWorker 0 (.dispatched item outcome.1) with
      observatory := outcome.2
      dispatches := [(item, outcome.1)] }
  let s₁₀ := (s₉.setWorker 0 .ready).answer item (.reply outcome.1)
  have h₁ : Step 1 serve s₀ s₁ := .inl (.poll 0 rfl rfl)
  have h₂ : Step 1 serve s₁ s₂ := .inr (.receive 0 .heartbeat rfl)
  have h₃ : Step 1 serve s₂ s₃ := .inl (.lock 0 item rfl rfl)
  have h₄ : Step 1 serve s₃ s₄ := .inl (.hasRoom 0 item rfl Nat.one_pos rfl)
  have h₅ : Step 1 serve s₄ s₅ := .inl (.push 0 item rfl)
  have h₆ : Step 1 serve s₅ s₆ := .inl (.notifyNone 0 item rfl nofun)
  have h₇ : Step 1 serve s₆ s₇ := .inl (.lockWorker 0 rfl rfl)
  have h₈ : Step 1 serve s₇ s₈ := .inl (.take 0 item [] rfl rfl)
  have h₉ : Step 1 serve s₈ s₉ := .inl (.dispatch 0 item rfl)
  have h₁₀ : Step 1 serve s₉ s₁₀ := .inl (.complete 0 item outcome.1 rfl)
  have hreach : s₁₀.Reachable 1 serve :=
    ⟨_, (((((((((ReflTransGen.single h₁).tail h₂).tail h₃).tail h₄).tail h₅).tail h₆).tail
      h₇).tail h₈).tail h₉).tail h₁₀⟩
  exact ⟨s₁₀, hreach, rfl, answered_once _ _ _ hreach⟩

end Ingest

end FederationObservatory
