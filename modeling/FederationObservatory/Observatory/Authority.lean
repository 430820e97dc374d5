import FederationObservatory.Observatory.State

/-!
# Publisher authority

The gate every publication passes through first (`check_authority`), how a publication ends
(`refuse`, `finish`), and the registration and fencing of publisher boot identities.

An operation returns the state next to its outcome, for a refusal as well: a record that was
written before the refusal stays written.
-/

namespace FederationObservatory

/-- The outcome of a publication, with the state it leaves behind. -/
abbrev Outcome := Except (Error × Impl) (IngestResult × Impl)

namespace Outcome

/-- The state after the operation. -/
def state : Outcome → Impl
  | .error (_, s) => s
  | .ok (_, s) => s

/-- What the caller gets. -/
def result : Outcome → Result IngestResult
  | .error (e, _) => .error e
  | .ok (r, _) => .ok r

end Outcome

/-- `Impl::stamp_for`. -/
def stampFor (clock : Clock) (ctx : PublicationContext) : ObservationStamp :=
  { publisher := ctx.publisher
    publisherBoot := ctx.boot
    coordinatorEpoch := ctx.coordinatorEpoch
    evidenceGeneration := ctx.evidenceGeneration
    sequence := ctx.sequence
    observedAt := ctx.observedOr clock.stamp
    precision := ctx.precision
    evidenceClass := ctx.evidenceClass
    provenance := ctx.provenance }

/-- `authority->rejected += 1`. -/
def PublisherAuthority.reject (authority : PublisherAuthority) : PublisherAuthority :=
  { authority with rejected := authority.rejected + 1 }

/-- `Impl::refuse`. -/
def refuse (s : Impl) (code : ErrorCode) (detail : Text) (authority : Option PublisherKey)
    (fenced : Bool := false) : Error × Impl :=
  (⟨code, detail, []⟩,
    { s with
      publishers :=
        match authority with
        | some key => s.publishers.modify key PublisherAuthority.reject
        | none => s.publishers
      stats :=
        { s.stats with
          publicationsRejected := s.stats.publicationsRejected + 1
          publicationsFenced := s.stats.publicationsFenced + if fenced then 1 else 0 } })

/-- `stats.bounds_rejections += 1`. -/
def Impl.countBoundsRejection (s : Impl) : Impl :=
  { s with stats := { s.stats with boundsRejections := s.stats.boundsRejections + 1 } }

/-- `stats.sequence_regressions_rejected += 1`. -/
def Impl.countSequenceRegression (s : Impl) : Impl :=
  { s with
    stats := { s.stats with
      sequenceRegressionsRejected := s.stats.sequenceRegressionsRejected + 1 } }

/-- `AuthorityCheck`, for a publication that passed. -/
structure AuthorityCheck where
  authority : PublisherAuthority
  duplicateSequence : Bool
  deriving DecidableEq, Repr

/-- `Impl::check_authority`. -/
def checkAuthority (s : Impl) (ctx : PublicationContext) :
    Except (Error × Impl) AuthorityCheck :=
  match ctx.validate with
  | .error e => .error (refuse s e.code e.message none)
  | .ok () =>
    match s.publishers[ctx.key]? with
    | none =>
      .error (refuse s .staleBoot
        (.ofString ("publisher boot identity is not registered with this coordinator " ++
          "incarnation; register it first"))
        none true)
    | some authority =>
      if authority.fenced then
        .error (refuse s .fencedPublisher
          (if authority.fencedReason.isEmpty then
            .ofString "publisher boot identity has been fenced"
          else .ofString "publisher boot identity has been fenced: " ++ authority.fencedReason)
          (some ctx.key) true)
      else if ctx.coordinatorEpoch ≠ s.coordinatorEpoch then
        .error (refuse s .staleEpoch
          (.ofString "publication carries coordinator epoch " ++ ctx.coordinatorEpoch.toText ++
            .ofString "; this coordinator is at epoch " ++ s.coordinatorEpoch.toText)
          (some ctx.key))
      else if ctx.sequence < authority.watermark then
        .error (refuse s.countSequenceRegression .sequenceRegression
          (.ofString "sequence " ++ ctx.sequence.toText ++
            .ofString " is older than the accepted watermark " ++ authority.watermark.toText)
          (some ctx.key))
      else
        .ok ⟨authority, ctx.sequence == authority.watermark && !authority.watermark.isZero⟩

/-- The gap `Impl::finish` reports: how many sequence numbers were skipped. -/
def PublisherAuthority.gapTo (authority : PublisherAuthority) (sequence : Sequence) : UInt64 :=
  if authority.watermark < sequence then sequence.value - authority.watermark.value - 1 else 0

/-- What `Impl::finish` writes to the authority. -/
def PublisherAuthority.settle (authority : PublisherAuthority) (clock : Clock)
    (ctx : PublicationContext) (disposition : IngestDisposition) : PublisherAuthority :=
  { authority with
    watermark := if authority.watermark < ctx.sequence then ctx.sequence else authority.watermark
    gaps := authority.gaps + if authority.gapTo ctx.sequence ≠ 0 then 1 else 0
    lastPublicationAt := ctx.observedOr clock.finish
    accepted := authority.accepted + if disposition = .applied then 1 else 0
    duplicates := authority.duplicates + if disposition = .duplicate then 1 else 0 }

/-- What `Impl::finish` writes to the counters. -/
def ObservatoryStats.settle (stats : ObservatoryStats) (gap : UInt64)
    (disposition : IngestDisposition) : ObservatoryStats :=
  { stats with
    sequenceGapsObserved := stats.sequenceGapsObserved + if gap ≠ 0 then 1 else 0
    publicationsApplied := stats.publicationsApplied + if disposition = .applied then 1 else 0
    publicationsDuplicate :=
      stats.publicationsDuplicate + if disposition = .duplicate then 1 else 0
    publicationsSuperseded :=
      stats.publicationsSuperseded + if disposition = .superseded then 1 else 0 }

/-- `Impl::finish`. -/
def finish (s : Impl) (clock : Clock) (ctx : PublicationContext) (authority : PublisherAuthority)
    (disposition : IngestDisposition) (detail : Text := []) : IngestResult × Impl :=
  let gap := authority.gapTo ctx.sequence
  let settled := authority.settle clock ctx disposition
  ({ disposition, code := .ok, detail, watermark := settled.watermark, sequenceGap := gap },
    { s with
      publishers := s.publishers.insert ctx.key settled
      stats := s.stats.settle gap disposition })

/-- `Impl::check_federation`. -/
def checkFederation (s : Impl) (ctx : PublicationContext) : Status :=
  match s.federations[ctx.federation]? with
  | none => fail .notFound "federation is not registered" ctx.federation.value
  | some record =>
    if ctx.federationGeneration.isSet ∧ ctx.federationGeneration ≠ record.generation then
      .error ⟨.staleGeneration,
        .ofString "publication targets federation generation " ++
          ctx.federationGeneration.toText ++ .ofString " but the current generation is " ++
          record.generation.toText,
        ctx.federation.value⟩
    else .ok ()

/-! ## Registration -/

/-- The number of boot identities registered under a federation. -/
def Impl.publishersInFederation (s : Impl) (federation : FederationId) : Nat :=
  s.publishers.values.countP fun authority => authority.federation = federation

/-- The authority `register_publisher` creates for an unknown boot identity. -/
def PublisherAuthority.register (clock : Clock) (ctx : PublicationContext) : PublisherAuthority :=
  { publisher := ctx.publisher
    boot := ctx.boot
    epoch := ctx.coordinatorEpoch
    federation := ctx.federation
    watermark := if ({} : Sequence) < ctx.sequence then ctx.sequence else {}
    registeredAt := ctx.observedOr clock.stamp
    lastPublicationAt := ctx.observedOr clock.stamp
    accepted := 1
    live := true
    evidenceClass := ctx.evidenceClass }

/-- What `register_publisher` writes to an authority it knows. -/
def PublisherAuthority.revive (authority : PublisherAuthority) (ctx : PublicationContext) :
    PublisherAuthority :=
  { authority with
    live := true
    epoch := ctx.coordinatorEpoch
    federation := ctx.federation
    evidenceClass := ctx.evidenceClass }

/-- `Impl::register_publisher`. -/
def registerPublisher (s : Impl) (clock : Clock) (ctx : PublicationContext) : Outcome :=
  match ctx.validate with
  | .error e => .error (e, s)
  | .ok () =>
    match s.publishers[ctx.key]? with
    | some authority =>
      if authority.fenced then
        .error (refuse s .fencedPublisher
          (.ofString "publisher boot identity " ++ ctx.boot.toText ++ .ofString " of publisher " ++
            ctx.publisher.value ++ .ofString (" was fenced and can never be re-registered; a " ++
              "replacement process must present a fresh boot identity"))
          (some ctx.key) true)
      else if ctx.coordinatorEpoch ≠ s.coordinatorEpoch then
        .error (refuse s .staleEpoch
          (.ofString "registration carries coordinator epoch " ++ ctx.coordinatorEpoch.toText)
          (some ctx.key))
      else if ctx.sequence < authority.watermark then
        .error (refuse s.countSequenceRegression .sequenceRegression
          (.ofString "registration sequence regressed") (some ctx.key))
      else
        .ok (finish s clock ctx (authority.revive ctx) .duplicate
          (.ofString "publisher boot identity was already registered and remains live"))
    | none =>
      if s.bounds.maxPublishers ≤ s.publishers.size then
        .error (⟨.boundExceeded, .ofString "publisher bound is exhausted", []⟩,
          s.countBoundsRejection)
      else if s.bounds.maxPublishersPerFederation ≤ s.publishersInFederation ctx.federation then
        .error (⟨.boundExceeded, .ofString "per-federation publisher bound is exhausted",
          ctx.federation.value⟩, s.countBoundsRejection)
      else
        let stored := PublisherAuthority.register clock ctx
        .ok
          ({ disposition := .applied
             code := .ok
             detail := .ofString "publisher boot identity registered"
             watermark := stored.watermark
             sequenceGap :=
               if 1 < stored.watermark.value then stored.watermark.value - 1 else 0 },
           { s with
             publishers := s.publishers.insert ctx.key stored
             snapshotGeneration := s.snapshotGeneration.next
             stats := { s.stats with
               publisherRegistrations := s.stats.publisherRegistrations + 1
               publicationsApplied := s.stats.publicationsApplied + 1 } })

/-! ## Fencing -/

/-- A record of the fenced boot identity that is current becomes stale. -/
def sweep {κ ρ : Type} [StoredRecord κ ρ] (key : PublisherKey) (record : ρ) : ρ :=
  if (StoredRecord.stamp record).publisher = key.publisher ∧
      (StoredRecord.stamp record).publisherBoot = key.boot ∧
      StoredRecord.currentness record = .current then
    StoredRecord.withCurrentness .stale record
  else record

/-- What `fence_publisher` writes to an authority it knows: the first reason is kept. -/
def PublisherAuthority.fence (authority : PublisherAuthority) (reason : Text) :
    PublisherAuthority :=
  if authority.fenced then { authority with live := false }
  else { authority with fenced := true, fencedReason := reason, live := false }

/-- A fence of a boot identity this incarnation has never seen is still recorded. -/
def Impl.recordFence (s : Impl) (key : PublisherKey) (reason : Text) : Impl :=
  { s with
    publishers := s.publishers.insert key
      { publisher := key.publisher, boot := key.boot, epoch := s.coordinatorEpoch, fenced := true,
        fencedReason := reason }
    stats := { s.stats with publisherFences := s.stats.publisherFences + 1 } }

/-- The fence of a registered boot identity. Only four collections are swept. -/
def Impl.applyFence (s : Impl) (key : PublisherKey) (authority : PublisherAuthority)
    (reason : Text) : Impl :=
  { s with
    publishers := s.publishers.insert key (authority.fence reason)
    clusters := s.clusters.map fun _ record => sweep key record
    federations := s.federations.map fun _ record => sweep key record
    sites := s.sites.map fun _ record => sweep key record
    domains := s.domains.map fun _ record => sweep key record
    snapshotGeneration := s.snapshotGeneration.next
    stats := { s.stats with
      publisherFences := s.stats.publisherFences + if authority.fenced then 0 else 1 } }

/-- `Impl::fence_publisher`. -/
def fencePublisher (s : Impl) (publisher : PublisherId) (boot : BootGeneration) (reason : Text) :
    Status × Impl :=
  if publisher.empty || !boot.isSet then
    (fail .invalidArgument "fence requires a publisher and a boot identity", s)
  else
    let key : PublisherKey := ⟨publisher, boot⟩
    match s.publishers[key]? with
    | none => (.ok (), s.recordFence key reason)
    | some authority => (.ok (), s.applyFence key authority reason)

end FederationObservatory
