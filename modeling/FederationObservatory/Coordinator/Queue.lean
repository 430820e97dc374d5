import FederationObservatory.Protocol.Frame
import Mathlib.Logic.Function.Basic
import Mathlib.Logic.Relation

/-!
# The ingest queue

`coordinator.cpp`: connection threads read frames and push them on a bounded queue, ingest workers
take them from it, dispatch them and fulfil the promise a connection thread waits on, and `stop`
answers what is still queued. The threads take their steps in any order. A step is what a thread
does between two points at which another thread may be seen; what it does while it holds
`queue_mutex` is one step unless it looks at `stopping`, which is not written under the mutex.
-/

namespace FederationObservatory

/-- `WorkItem`. The ticket, the number of frames received before this one, tells apart equal frames
    of one connection. -/
structure WorkItem (C : Type) where
  ticket : Nat
  connection : C
  frame : Frame
  deriving DecidableEq

/-- What a frame is answered with. -/
inductive Answer where
  | reply (frame : Frame)
  | backpressure
  | shuttingDown
  deriving DecidableEq

/-- Where a connection thread stands. -/
inductive ConnectionState (C : Type) where
  /-- At the top of its loop, before it looks at `stopping`. -/
  | idle
  /-- In `FrameReader::next`. -/
  | reading
  | received (item : WorkItem C)
  /-- Holds `queue_mutex`, before it tests whether the item may be queued. -/
  | locked (item : WorkItem C)
  /-- Holds `queue_mutex`, the test passed. -/
  | admitted (item : WorkItem C)
  | refused (item : WorkItem C)
  /-- The item is queued, `notify_one` is not called yet. -/
  | pushed (item : WorkItem C)
  /-- In `completion.get()`. -/
  | waiting (item : WorkItem C)
  | closed

/-- Where an ingest worker stands. -/
inductive WorkerState (C : Type) where
  /-- Before it locks `queue_mutex`, at the top of its loop or woken. -/
  | ready
  /-- Holds `queue_mutex`, before it tests the predicate it waits for. -/
  | locked
  /-- Holds `queue_mutex`, the predicate was false. -/
  | parking
  | parked
  | taken (item : WorkItem C)
  | dispatched (item : WorkItem C) (reply : Frame)
  | finished

/-- Where `stop` stands. Once it is joining, what is left of it waits for the other threads. -/
inductive StopState (C : Type) where
  | idle
  /-- `stopping` is stored, `notify_all` is not called yet. -/
  | stored
  /-- At the top of the loop that answers what is queued. -/
  | notified
  | holding (item : WorkItem C)
  | joining

/-- A thread that can hold `queue_mutex` for more than one step. -/
inductive Owner (C W : Type) where
  | connection (c : C)
  | worker (w : W)
  deriving DecidableEq

/-- The threads of a running coordinator and what they share, with the history of the frames they
    received, dispatched and answered. -/
structure Ingest (C W σ : Type) where
  connections : C → ConnectionState C
  workers : W → WorkerState C
  stop : StopState C := .idle
  stopping : Bool := false
  queueMutex : Option (Owner C W) := none
  queue : List (WorkItem C) := []
  observatory : σ
  received : List (WorkItem C) := []
  dispatches : List (WorkItem C × Frame) := []
  answers : List (WorkItem C × Answer) := []

namespace Ingest

variable {C W σ : Type} [DecidableEq C] [DecidableEq W]

/-- The state in which `start` leaves the threads. -/
def start (observatory : σ) : Ingest C W σ where
  connections _ := .idle
  workers _ := .ready
  observatory := observatory

def setConnection (s : Ingest C W σ) (c : C) (state : ConnectionState C) : Ingest C W σ :=
  { s with connections := Function.update s.connections c state }

def setWorker (s : Ingest C W σ) (w : W) (state : WorkerState C) : Ingest C W σ :=
  { s with workers := Function.update s.workers w state }

def answer (s : Ingest C W σ) (item : WorkItem C) (answer : Answer) : Ingest C W σ :=
  { s with answers := s.answers ++ [(item, answer)] }

/-- What `notify_one` and `notify_all` do to a worker. -/
def wake : WorkerState C → WorkerState C
  | .parked => .ready
  | state => state

/-- The answer to an item is not a reply that is dropped because the coordinator stops. -/
def Written (s : Ingest C W σ) : Answer → Prop
  | .reply _ => s.stopping = false
  | _ => True

/-- What the threads do by themselves. `depth` is `max_ingest_queue_depth`. -/
inductive Internal (depth : Nat) (dispatch : σ → Frame → Frame × σ) :
    Ingest C W σ → Ingest C W σ → Prop where
  | poll {s} (c : C) (hc : s.connections c = .idle) (hrunning : s.stopping = false) :
      Internal depth dispatch s (s.setConnection c .reading)
  | leave {s} (c : C) (hc : s.connections c = .idle) (hstopping : s.stopping = true) :
      Internal depth dispatch s (s.setConnection c .closed)
  | lock {s} (c : C) (item : WorkItem C) (hc : s.connections c = .received item)
      (hfree : s.queueMutex = none) :
      Internal depth dispatch s
        { s.setConnection c (.locked item) with queueMutex := some (.connection c) }
  | hasRoom {s} (c : C) (item : WorkItem C) (hc : s.connections c = .locked item)
      (hroom : s.queue.length < depth) (hrunning : s.stopping = false) :
      Internal depth dispatch s (s.setConnection c (.admitted item))
  | refuse {s} (c : C) (item : WorkItem C) (hc : s.connections c = .locked item)
      (hfull : depth ≤ s.queue.length ∨ s.stopping = true) :
      Internal depth dispatch s { s.setConnection c (.refused item) with queueMutex := none }
  | answerRefused {s} (c : C) (item : WorkItem C) (hc : s.connections c = .refused item) :
      Internal depth dispatch s ((s.setConnection c .idle).answer item .backpressure)
  | push {s} (c : C) (item : WorkItem C) (hc : s.connections c = .admitted item) :
      Internal depth dispatch s
        { s.setConnection c (.pushed item) with queueMutex := none, queue := s.queue ++ [item] }
  | notifyOne {s} (c : C) (item : WorkItem C) (w : W) (hc : s.connections c = .pushed item)
      (hw : s.workers w = .parked) :
      Internal depth dispatch s ((s.setConnection c (.waiting item)).setWorker w .ready)
  /-- No worker waits for the notification, which is lost. -/
  | notifyNone {s} (c : C) (item : WorkItem C) (hc : s.connections c = .pushed item)
      (hnone : ∀ w, s.workers w ≠ .parked) :
      Internal depth dispatch s (s.setConnection c (.waiting item))
  | resume {s} (c : C) (item : WorkItem C) (answer : Answer) (hc : s.connections c = .waiting item)
      (hanswer : (item, answer) ∈ s.answers) (hwritten : s.Written answer) :
      Internal depth dispatch s (s.setConnection c .idle)
  /-- The answer is not written: the coordinator stops, or the write fails. -/
  | hangUp {s} (c : C) (item : WorkItem C) (answer : Answer)
      (hc : s.connections c = .waiting item) (hanswer : (item, answer) ∈ s.answers) :
      Internal depth dispatch s (s.setConnection c .closed)
  | lockWorker {s} (w : W) (hw : s.workers w = .ready) (hfree : s.queueMutex = none) :
      Internal depth dispatch s
        { s.setWorker w .locked with queueMutex := some (.worker w) }
  | take {s} (w : W) (item : WorkItem C) (rest : List (WorkItem C)) (hw : s.workers w = .locked)
      (hqueue : s.queue = item :: rest) :
      Internal depth dispatch s
        { s.setWorker w (.taken item) with queueMutex := none, queue := rest }
  | finish {s} (w : W) (hw : s.workers w = .locked) (hqueue : s.queue = [])
      (hstopping : s.stopping = true) :
      Internal depth dispatch s { s.setWorker w .finished with queueMutex := none }
  | testFails {s} (w : W) (hw : s.workers w = .locked) (hqueue : s.queue = [])
      (hrunning : s.stopping = false) :
      Internal depth dispatch s (s.setWorker w .parking)
  | park {s} (w : W) (hw : s.workers w = .parking) :
      Internal depth dispatch s { s.setWorker w .parked with queueMutex := none }
  | dispatch {s} (w : W) (item : WorkItem C) (hw : s.workers w = .taken item) :
      Internal depth dispatch s
        { s.setWorker w (.dispatched item (dispatch s.observatory item.frame).1) with
          observatory := (dispatch s.observatory item.frame).2
          dispatches := s.dispatches ++ [(item, (dispatch s.observatory item.frame).1)] }
  | complete {s} (w : W) (item : WorkItem C) (reply : Frame)
      (hw : s.workers w = .dispatched item reply) :
      Internal depth dispatch s ((s.setWorker w .ready).answer item (.reply reply))
  /-- `notify_all`, which is not called under the mutex. -/
  | notifyAll {s} (hstop : s.stop = .stored) :
      Internal depth dispatch s
        { s with stop := .notified, workers := fun w => wake (s.workers w) }
  | drain {s} (item : WorkItem C) (rest : List (WorkItem C)) (hstop : s.stop = .notified)
      (hfree : s.queueMutex = none) (hqueue : s.queue = item :: rest) :
      Internal depth dispatch s { s with stop := .holding item, queue := rest }
  | answerDrained {s} (item : WorkItem C) (hstop : s.stop = .holding item) :
      Internal depth dispatch s ({ s with stop := .notified }.answer item .shuttingDown)
  | drained {s} (hstop : s.stop = .notified) (hfree : s.queueMutex = none)
      (hqueue : s.queue = []) :
      Internal depth dispatch s { s with stop := .joining }

/-- What happens to the threads: a poll times out, a frame arrives, a connection is closed or
    broken, a worker wakes without a notification, or `stop` is called. -/
inductive External : Ingest C W σ → Ingest C W σ → Prop where
  | timeout {s} (c : C) (hc : s.connections c = .reading) : External s (s.setConnection c .idle)
  | receive {s} (c : C) (frame : Frame) (hc : s.connections c = .reading) :
      External s
        { s.setConnection c (.received ⟨s.received.length, c, frame⟩) with
          received := s.received ++ [⟨s.received.length, c, frame⟩] }
  | close {s} (c : C) (hc : s.connections c = .reading) : External s (s.setConnection c .closed)
  | wakeUp {s} (w : W) (hw : s.workers w = .parked) : External s (s.setWorker w .ready)
  | store {s} (hstop : s.stop = .idle) : External s { s with stop := .stored, stopping := true }

/-- A step of one of the threads. -/
def Step (depth : Nat) (dispatch : σ → Frame → Frame × σ) (s t : Ingest C W σ) : Prop :=
  Internal depth dispatch s t ∨ External s t

/-- A state that the threads reach, in any order of their steps. -/
def Reachable (depth : Nat) (dispatch : σ → Frame → Frame × σ) (s : Ingest C W σ) : Prop :=
  ∃ observatory, Relation.ReflTransGen (Step depth dispatch) (start observatory) s

end Ingest

end FederationObservatory
