import FederationObservatory.Observatory.Operations

/-!
# Checkpoints

`FederationObservatory::save_state` as its callers interleave it: the capture under the shared lock,
the increment under the unique lock, the write of `path + ".tmp"`, the rename, and the count of the
save. Between any two of these another thread may run, publish or fence. All calls are on one path,
and so they share the temporary file.
-/

namespace FederationObservatory

open ByteCodec

/-- What a call captured. `ticket` numbers the captures in the order they were taken; `fences` are
    the boot identities that had been fenced by then. -/
structure Capture where
  ticket : Nat
  fences : List PublisherKey
  state : DurableState

/-- Where a call of `save_state` stands. -/
inductive SaveCall where
  /-- No call. -/
  | idle
  | captured (capture : Capture)
  /-- The save sequence was incremented. -/
  | counted (capture : Capture)
  /-- `write_file` returned. -/
  | written (capture : Capture)
  /-- `atomic_replace_file` returned: the call will report success. -/
  | replaced (capture : Capture)
  /-- A write or a rename failed and `remove_file_if_present` is next. -/
  | cleaning

/-- The observatory, the calls of its threads, the file and its temporary, and what happened:
    the number of captures, the fences and the successful saves. -/
structure Checkpoints (T : Type) where
  observatory : Impl
  calls : T → SaveCall
  file : Option Bytes
  temporary : Option Bytes
  taken : Nat := 0
  fences : List PublisherKey := []
  saved : List Capture := []

/-- One atomic step. A write or a rename may fail for reasons of its own; a failed write leaves
    anything in the temporary file. -/
inductive CheckpointStep (T : Type) where
  | submit (clock : Clock) (ctx : PublicationContext) (request : Request)
  | fence (publisher : PublisherId) (boot : BootGeneration) (reason : Text)
  | capture (thread : T) (now : TimestampNanos)
  | count (thread : T)
  | write (thread : T)
  | writeFails (thread : T) (left : Option Bytes)
  | replace (thread : T)
  | replaceFails (thread : T)
  | clean (thread : T)
  | finish (thread : T)

namespace Checkpoints

variable {T : Type} [DecidableEq T]

/-- No call has been made. -/
def start (observatory : Impl) (file temporary : Option Bytes) : Checkpoints T :=
  { observatory, calls := fun _ => .idle, file, temporary }

def setCall (s : Checkpoints T) (thread : T) (call : SaveCall) : Checkpoints T :=
  { s with calls := Function.update s.calls thread call }

/-- The state after a step. A step of a thread that does not stand before it changes nothing. -/
def next (s : Checkpoints T) : CheckpointStep T → Checkpoints T
  | .submit clock ctx request =>
    { s with observatory := (request.run s.observatory clock ctx).state }
  | .fence publisher boot reason =>
    let (outcome, observatory) := fencePublisher s.observatory publisher boot reason
    { s with
      observatory
      fences := match outcome with
        | .ok () => s.fences ++ [⟨publisher, boot⟩]
        | .error _ => s.fences }
  | .capture thread now =>
    match s.calls thread with
    | .idle =>
      let capture := ⟨s.taken, s.fences, captureDurableState s.observatory now⟩
      { s.setCall thread (.captured capture) with taken := s.taken + 1 }
    | _ => s
  | .count thread =>
    match s.calls thread with
    | .captured capture =>
      { s.setCall thread (.counted capture) with
        observatory := { s.observatory with saveSequence := s.observatory.saveSequence + 1 } }
    | _ => s
  | .write thread =>
    match s.calls thread with
    | .counted capture =>
      match saveDurableState capture.state s.observatory.bounds with
      | .ok image => { s.setCall thread (.written capture) with temporary := some image }
      | .error _ => s.setCall thread .idle
    | _ => s
  | .writeFails thread left =>
    match s.calls thread with
    | .counted capture =>
      match saveDurableState capture.state s.observatory.bounds with
      | .ok _ => { s.setCall thread .cleaning with temporary := left }
      | .error _ => s.setCall thread .idle
    | _ => s
  | .replace thread =>
    match s.calls thread with
    | .written capture =>
      match s.temporary with
      | some image =>
        { s.setCall thread (.replaced capture) with
          file := some image
          temporary := none
          saved := s.saved ++ [capture] }
      -- another call has renamed or removed it
      | none => s.setCall thread .cleaning
    | _ => s
  | .replaceFails thread =>
    match s.calls thread with
    | .written _ => s.setCall thread .cleaning
    | _ => s
  | .clean thread =>
    match s.calls thread with
    | .cleaning => { s.setCall thread .idle with temporary := none }
    | _ => s
  | .finish thread =>
    match s.calls thread with
    | .replaced _ =>
      { s.setCall thread .idle with
        observatory := { s.observatory with
          stats := { s.observatory.stats with
            stateSaves := s.observatory.stats.stateSaves + 1 } } }
    | _ => s

/-- All calls have returned. -/
def Returned (s : Checkpoints T) : Prop := ∀ thread, s.calls thread = .idle

/-- The file is the image of the capture. -/
def Holds (s : Checkpoints T) (capture : Capture) : Prop :=
  ∃ image, saveDurableState capture.state s.observatory.bounds = .ok image ∧ s.file = some image

end Checkpoints

end FederationObservatory
