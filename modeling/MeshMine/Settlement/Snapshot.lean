import MeshMine.Data.WeightedWindow
import MeshMine.Hns.Merkle
import MeshMine.Settlement.Credits

/-!
The accumulator that turns closed sessions into payout snapshots over a window of recent work
(`SnapshotAccumulator` of `meshmine-settlement/src/lib.rs`), and the reference it is compared with:
an accumulator that keeps every session it was given.
-/

namespace MeshMine.Settlement

open MeshMine.Types

structure SnapshotAccumulatorLimits where
  maxRetainedSessions : Nat
  maxRetainedBucketCredits : Nat
  maxRetainedPayloadBytes : Nat
deriving DecidableEq

def SnapshotAccumulatorLimits.default : SnapshotAccumulatorLimits where
  maxRetainedSessions := 100000
  maxRetainedBucketCredits := 1000000
  maxRetainedPayloadBytes := 256 * 1024 * 1024

structure SnapshotAccumulatorCheckpoint where
  networkId : UInt8
  nextSequence : UInt64
  previousSnapshotId : Hash256
  snapshotStepWork : U512
  pplnsWindowWork : U512
  settlementCommitteeId : Hash256
  closedSessions : List ClosedSessionCredits
  newWorkSinceSnapshot : U512
deriving DecidableEq

structure SnapshotAccumulator where
  networkId : UInt8
  nextSequence : UInt64
  previousSnapshotId : Hash256
  snapshotStepWork : Nat
  pplnsWindowWork : Nat
  settlementCommitteeId : Hash256
  closedSessions : List ClosedSessionCredits
  newWorkSinceSnapshot : Nat
  retainedWork : Nat
  retainedBucketCredits : Nat
  retainedPayloadBytes : Nat
  limits : SnapshotAccumulatorLimits
deriving DecidableEq

structure RetentionProjection where
  pruneCount : Nat
  retainedWork : Nat
  retainedSessions : Nat
  retainedBucketCredits : Nat
  retainedPayloadBytes : Nat

def ensureRetentionLimits (limits : SnapshotAccumulatorLimits)
    (retainedSessions retainedBucketCredits retainedPayloadBytes : Nat)
    : Except SettlementError Unit :=
  if limits.maxRetainedSessions < retainedSessions then
    .error .retainedSessionLimit
  else if limits.maxRetainedBucketCredits < retainedBucketCredits then
    .error .retainedBucketCreditLimit
  else if limits.maxRetainedPayloadBytes < retainedPayloadBytes then
    .error .retainedPayloadByteLimit
  else
    .ok ()

namespace SnapshotAccumulator

def newWithLimits (networkId : UInt8) (firstSequence : UInt64) (previousSnapshotId : Hash256)
    (snapshotStepWork pplnsWindowWork : U512) (settlementCommitteeId : Hash256)
    (limits : SnapshotAccumulatorLimits)
    : Except SettlementError SnapshotAccumulator :=
  if snapshotStepWork.toNat = 0 ∨ pplnsWindowWork.toNat = 0 then
    .error .zeroSnapshotThreshold
  else if limits.maxRetainedSessions = 0 ∨ limits.maxRetainedBucketCredits = 0
      ∨ limits.maxRetainedPayloadBytes = 0 then
    .error .zeroAccumulatorLimit
  else
    .ok {
      networkId
      nextSequence := firstSequence
      previousSnapshotId
      snapshotStepWork := snapshotStepWork.toNat
      pplnsWindowWork := pplnsWindowWork.toNat
      settlementCommitteeId
      closedSessions := []
      newWorkSinceSnapshot := 0
      retainedWork := 0
      retainedBucketCredits := 0
      retainedPayloadBytes := 0
      limits
    }

def checkpoint (self : SnapshotAccumulator)
    : Except SettlementError SnapshotAccumulatorCheckpoint := do
  if self.snapshotStepWork ≤ self.newWorkSinceSnapshot then
    throw .invalidAccumulatorCheckpoint
  let snapshotStepWork ← bigToU512 self.snapshotStepWork
  let pplnsWindowWork ← bigToU512 self.pplnsWindowWork
  let newWorkSinceSnapshot ← bigToU512 self.newWorkSinceSnapshot
  return {
    networkId := self.networkId
    nextSequence := self.nextSequence
    previousSnapshotId := self.previousSnapshotId
    snapshotStepWork
    pplnsWindowWork
    settlementCommitteeId := self.settlementCommitteeId
    closedSessions := self.closedSessions
    newWorkSinceSnapshot
  }

variable (sizeOfBucketCredit : Nat)

def restoreSessions (self : SnapshotAccumulator)
    : List ClosedSessionCredits → Except SettlementError SnapshotAccumulator
  | [] => .ok self
  | session :: sessions => do
    if session.totalWork = 0 then
      throw .invalidAccumulatorCheckpoint
    let count ← sessionBucketCreditCount session
    let retainedBucketCredits ← checkedAdd self.retainedBucketCredits count
    let bytes ← sessionPayloadBytes sizeOfBucketCredit session
    let retainedPayloadBytes ← checkedAdd self.retainedPayloadBytes bytes
    restoreSessions
      { self with
        retainedWork := self.retainedWork + session.totalWork
        retainedBucketCredits
        retainedPayloadBytes
        closedSessions := self.closedSessions ++ [session] }
      sessions

/-- The sizes were validated when the sessions were restored, so the `expect` cannot fire and the saturating sum does
not saturate. -/
def pruneRetainedPrefix (self : SnapshotAccumulator) : SnapshotAccumulator :=
  go self self.closedSessions
where
  go (self : SnapshotAccumulator) : List ClosedSessionCredits → SnapshotAccumulator
    | [] => self
    | oldest :: sessions =>
      if self.retainedWork - oldest.totalWork < self.pplnsWindowWork then
        self
      else
        go
          { self with
            retainedWork := self.retainedWork - oldest.totalWork
            retainedBucketCredits :=
              self.retainedBucketCredits - (oldest.work.length + oldest.service.length)
            retainedPayloadBytes :=
              self.retainedPayloadBytes - (sessionPayloadBytes sizeOfBucketCredit oldest).toOption.getD 0
            closedSessions := sessions }
          sessions

/-- The checks of `from_checkpoint` and its loop over the sessions. -/
def restored (checkpoint : SnapshotAccumulatorCheckpoint) (limits : SnapshotAccumulatorLimits)
    : Except SettlementError SnapshotAccumulator := do
  let accumulator ← newWithLimits checkpoint.networkId checkpoint.nextSequence
    checkpoint.previousSnapshotId checkpoint.snapshotStepWork checkpoint.pplnsWindowWork
    checkpoint.settlementCommitteeId limits
  let newWork := checkpoint.newWorkSinceSnapshot.toNat
  if accumulator.snapshotStepWork ≤ newWork
      ∨ (checkpoint.closedSessions.isEmpty ∧ newWork ≠ 0) then
    throw .invalidAccumulatorCheckpoint
  restoreSessions sizeOfBucketCredit accumulator checkpoint.closedSessions

def fromCheckpoint (checkpoint : SnapshotAccumulatorCheckpoint) (limits : SnapshotAccumulatorLimits)
    : Except SettlementError SnapshotAccumulator := do
  let accumulator ← restored sizeOfBucketCredit checkpoint limits
  let accumulator := pruneRetainedPrefix sizeOfBucketCredit accumulator
  ensureRetentionLimits accumulator.limits accumulator.closedSessions.length
    accumulator.retainedBucketCredits accumulator.retainedPayloadBytes
  return { accumulator with newWorkSinceSnapshot := checkpoint.newWorkSinceSnapshot.toNat }

def retentionProjection (self : SnapshotAccumulator) (session : ClosedSessionCredits)
    (sessionWork : Nat)
    : Except SettlementError RetentionProjection := do
  let retainedSessions ← checkedAdd self.closedSessions.length 1
  let count ← sessionBucketCreditCount session
  let retainedBucketCredits ← checkedAdd self.retainedBucketCredits count
  let bytes ← sessionPayloadBytes sizeOfBucketCredit session
  let retainedPayloadBytes ← checkedAdd self.retainedPayloadBytes bytes
  go self.closedSessions
    { pruneCount := 0
      retainedWork := self.retainedWork + sessionWork
      retainedSessions
      retainedBucketCredits
      retainedPayloadBytes }
where
  go : List ClosedSessionCredits → RetentionProjection → Except SettlementError RetentionProjection
    | [], projection => .ok projection
    | oldSession :: sessions, projection => do
      let workWithoutOldest := projection.retainedWork - oldSession.totalWork
      if workWithoutOldest < self.pplnsWindowWork then
        return projection
      let count ← sessionBucketCreditCount oldSession
      let bytes ← sessionPayloadBytes sizeOfBucketCredit oldSession
      go sessions
        { pruneCount := projection.pruneCount + 1
          retainedWork := workWithoutOldest
          retainedSessions := projection.retainedSessions - 1
          retainedBucketCredits := projection.retainedBucketCredits - count
          retainedPayloadBytes := projection.retainedPayloadBytes - bytes }

end SnapshotAccumulator

variable [P : Primitives]

/-- What a snapshot is made from, apart from the sessions: the identity of the chain of snapshots. -/
structure SnapshotContext where
  networkId : UInt8
  nextSequence : UInt64
  previousSnapshotId : Hash256
  pplnsWindowWork : Nat
  settlementCommitteeId : Hash256

def buildSnapshot (context : SnapshotContext) (sessions : List ClosedSessionCredits)
    (session : ClosedSessionCredits) (signerSet : SignatureSet)
    : Except SettlementError PayoutSnapshotV2 := do
  if context.nextSequence.toNat + 1 = 2 ^ 64 then
    throw .arithmeticOverflow
  let (selected, windowWork) :=
    WeightedWindow.select ClosedSessionCredits.totalWork context.pplnsWindowWork (sessions ++ [session])
  let workBuckets ← aggregateWork selected
  let serviceBuckets ← aggregateService selected
  let closeIds := selected.map (·.sessionCloseId)
  let serviceIds := (selected.filter fun s => !s.service.isEmpty).map (·.sessionCloseId)
  -- `first` and `last` exist: the selection holds at least the current session.
  let first := selected.headD session
  let last := selected.getLastD session
  let workWindowTarget ← bigToU512 context.pplnsWindowWork
  let actualWorkInWindow ← bigToU512 windowWork
  return {
    protocolVersion := 2
    networkId := context.networkId
    snapshotSequence := context.nextSequence
    previousSnapshotId := context.previousSnapshotId
    firstSessionCloseId := first.sessionCloseId
    lastSessionCloseId := last.sessionCloseId
    closeAnchorHeight := last.closeAnchorHeight
    workWindowTarget
    actualWorkInWindow
    workBuckets
    serviceBuckets
    shareSetRoot := Hns.merkleRoot closeIds
    serviceSetRoot := Hns.merkleRoot serviceIds
    settlementCommitteeId := context.settlementCommitteeId
    signerSet
  }

namespace SnapshotAccumulator

def context (self : SnapshotAccumulator) : SnapshotContext where
  networkId := self.networkId
  nextSequence := self.nextSequence
  previousSnapshotId := self.previousSnapshotId
  pplnsWindowWork := self.pplnsWindowWork
  settlementCommitteeId := self.settlementCommitteeId

variable (sizeOfBucketCredit : Nat)

def addClosedSession (self : SnapshotAccumulator) (session : ClosedSessionCredits)
    (signerSet : SignatureSet)
    : Except SettlementError (Option PayoutSnapshotV2 × SnapshotAccumulator) := do
  let sessionWork := session.totalWork
  if sessionWork = 0 then
    throw .emptySessionWork
  let projection ← retentionProjection sizeOfBucketCredit self session sessionWork
  ensureRetentionLimits self.limits projection.retainedSessions projection.retainedBucketCredits
    projection.retainedPayloadBytes
  let prospectiveNewWork := self.newWorkSinceSnapshot + sessionWork
  let retained : SnapshotAccumulator := { self with
    closedSessions := (self.closedSessions ++ [session]).drop projection.pruneCount
    retainedWork := projection.retainedWork
    retainedBucketCredits := projection.retainedBucketCredits
    retainedPayloadBytes := projection.retainedPayloadBytes }
  if prospectiveNewWork < self.snapshotStepWork then
    return (none, { retained with newWorkSinceSnapshot := prospectiveNewWork })
  else
    let snapshot ← buildSnapshot self.context self.closedSessions session signerSet
    return (some snapshot, { retained with
      previousSnapshotId := objectId snapshot
      nextSequence := self.nextSequence + 1
      newWorkSinceSnapshot := 0 })

end SnapshotAccumulator

structure ReferenceAccumulator where
  networkId : UInt8
  nextSequence : UInt64
  previousSnapshotId : Hash256
  snapshotStepWork : Nat
  pplnsWindowWork : Nat
  settlementCommitteeId : Hash256
  history : List ClosedSessionCredits
  newWorkSinceSnapshot : Nat

namespace ReferenceAccumulator

def new (networkId : UInt8) (firstSequence : UInt64) (previousSnapshotId : Hash256)
    (snapshotStepWork pplnsWindowWork : U512) (settlementCommitteeId : Hash256)
    : ReferenceAccumulator where
  networkId
  nextSequence := firstSequence
  previousSnapshotId
  snapshotStepWork := snapshotStepWork.toNat
  pplnsWindowWork := pplnsWindowWork.toNat
  settlementCommitteeId
  history := []
  newWorkSinceSnapshot := 0

def context (self : ReferenceAccumulator) : SnapshotContext where
  networkId := self.networkId
  nextSequence := self.nextSequence
  previousSnapshotId := self.previousSnapshotId
  pplnsWindowWork := self.pplnsWindowWork
  settlementCommitteeId := self.settlementCommitteeId

def addClosedSession (self : ReferenceAccumulator) (session : ClosedSessionCredits)
    (signerSet : SignatureSet)
    : Except SettlementError (Option PayoutSnapshotV2 × ReferenceAccumulator) := do
  if session.totalWork = 0 then
    throw .emptySessionWork
  let newWork := self.newWorkSinceSnapshot + session.totalWork
  let history := self.history ++ [session]
  if newWork < self.snapshotStepWork then
    return (none, { self with history, newWorkSinceSnapshot := newWork })
  else
    let snapshot ← buildSnapshot self.context self.history session signerSet
    return (some snapshot, { self with
      history
      previousSnapshotId := objectId snapshot
      nextSequence := self.nextSequence + 1
      newWorkSinceSnapshot := 0 })

def feed (self : ReferenceAccumulator)
    : List (ClosedSessionCredits × SignatureSet) → Except SettlementError (List (Option PayoutSnapshotV2))
  | [] => .ok []
  | (session, signerSet) :: inputs => do
    let (snapshot, self) ← self.addClosedSession session signerSet
    let snapshots ← self.feed inputs
    return snapshot :: snapshots

end ReferenceAccumulator

end MeshMine.Settlement
