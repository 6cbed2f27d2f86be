import MeshMine.Crypto.Signature
import MeshMine.Data.KeyedMap
import Mathlib.Data.Finset.Basic
import Mathlib.Data.List.MinMax
import Mathlib.Data.Prod.Lex

/-!
Admission of peers and gossip objects (`OverlayNode` of `meshmine-network/src/lib.rs`).

A call returns the node with its result, an error included. The program is built with overflow checks, so a score or a
byte count that leaves its range ends a call as well. The other counters are natural numbers; the calls that add to
them compare with a limit of the counter's own type first.

The subtraction on the counters of pending objects is a parameter of the calls. The source's saturates at zero.
-/

namespace MeshMine.Network

open MeshMine.Types Codec Crypto

inductive GossipTopic where
  | parent
  | operator
  | bodyDescriptor
  | maskSession
  | share
  | receiptBatch
  | sessionClose
  | maskOpening
  | payoutSnapshot
  | payoutPlan
  | faultProof
deriving DecidableEq

structure TopicLimit where
  maximumObjectBytes : UInt32
  messagesPerWindow : UInt16

structure OverlayLimits where
  rateWindowMs : UInt64
  maximumTrackedPeers : Nat
  peerInactivityTimeoutMs : UInt64
  maximumPendingObjectsPerPeer : UInt16
  maximumPendingBytesPerPeer : UInt64
  pendingValidationTimeoutMs : UInt64
  maximumSeenObjects : Nat
  maximumOrphanShares : Nat
  maximumRetainedEvents : Nat
  maximumParentFetchDepth : UInt16
  bodyDownloadBytesPerWindow : UInt64
  invalidObjectPenalty : Int
  disconnectScore : Int

structure PeerHello where
  protocolVersion : UInt16
  networkId : UInt8
  transportPubkey : PublicKey
  economicOperatorPubkey : Option PublicKey
  challengeNonce : Hash256
  signature : SignatureBytes

instance : UnsignedObject PeerHello where
  domainTag := "meshmine/peer-hello/v2"
  encodeUnsigned self :=
    Encoder.u16 self.protocolVersion ++ Encoder.u8 self.networkId ++ Encoder.fixed self.transportPubkey
    ++ Encoder.option Encoder.fixed self.economicOperatorPubkey ++ Encoder.fixed self.challengeNonce

structure ObjectEnvelope where
  topic : GossipTopic
  objectId : Hash256
  encodedSize : UInt32
  missingParent : Bool
  parentFetchDepth : UInt16

structure IngressToken where
  objectId : Hash256
  peer : PublicKey
  generation : Nat

inductive IngressDecision where
  | validate (token : IngressToken)
  | alreadyValidated

inductive OverlayEvent where
  | peerAuthenticated (transportPubkey : PublicKey)
  | signatureRejected (objectId : Hash256)
  | validationStarted (objectId : Hash256)
  | validationCompleted (objectId : Hash256)
  | orphanCached (objectId : Hash256)
  | peerPenalized (transportPubkey : PublicKey) (score : Int)
  | peerDisconnected (transportPubkey : PublicKey)

structure PeerState where
  economicOperatorPubkey : Option PublicKey
  lastActivityMs : UInt64
  gossipScore : Int
  availabilityScore : Int
  pendingObjects : Nat
  pendingBytes : Nat
  bodyDownloadBytes : Nat
  windowStartMs : UInt64
  messagesByTopic : AList fun _ : GossipTopic => Nat
  disconnected : Bool

structure PendingObject where
  peer : PublicKey
  size : UInt32
  startedMs : UInt64
  generation : Nat

structure OverlayNode where
  networkId : UInt8
  limits : OverlayLimits
  topicLimits : AList fun _ : GossipTopic => TopicLimit
  peers : AList fun _ : PublicKey => PeerState
  pending : AList fun _ : Hash256 => PendingObject
  seenOrder : List Hash256
  seen : Finset Hash256
  orphans : List Hash256
  events : List OverlayEvent
  droppedEvents : Nat
  evictedPeers : Nat
  expiredValidations : Nat
  nextValidationGeneration : Nat

inductive NetworkError where
  | authentication (message : String)
  | peerUnavailable
  | peerCapacity
  | objectTooLarge
  | rateLimited
  | duplicate
  | invalidSignature
  | pendingBudget
  | parentDepth
  | bodyQuota
  | unknownValidation
  | validationGenerationExhausted

inductive Failure where
  | error (error : NetworkError)
  -- a score or a byte count that leaves its range
  | overflow
  -- Not of the source, where the eviction of orphans goes on.
  | outOfRounds

abbrev Call (α : Type) := EStateM Failure OverlayNode α

def left {α : Type} : EStateM.Result Failure OverlayNode α → OverlayNode
  | .ok _ node => node
  | .error _ node => node

def checkedI32 (value : Int) : Option Int :=
  if -2 ^ 31 ≤ value ∧ value < 2 ^ 31 then some value else none

def saturatingU64 (value : Nat) : Nat :=
  min value (2 ^ 64 - 1)

/-- The `u64::saturating_sub` of two times. -/
def elapsed (nowMs sinceMs : UInt64) : Nat :=
  nowMs.toNat - sinceMs.toNat

def cryptoMessage : CryptoError → String
  | .unsupportedSuite suite => "unsupported signature suite " ++ toString suite.toNat
  | .invalidPublicKey => "invalid Ed25519 public key"
  | .invalidSignatureLength length =>
    "invalid Ed25519 signature length: expected 64, got " ++ toString length
  | .verificationFailed => "Ed25519 signature verification failed"
  | .duplicateSigner => "certificate signer list contains duplicate public keys"

namespace PeerState

def introduce (economicOperatorPubkey : Option PublicKey) (nowMs : UInt64) : PeerState where
  economicOperatorPubkey
  lastActivityMs := nowMs
  gossipScore := 0
  availabilityScore := 0
  pendingObjects := 0
  pendingBytes := 0
  bodyDownloadBytes := 0
  windowStartMs := nowMs
  messagesByTopic := ∅
  disconnected := false

/-- Activity at `nowMs`, which opens a new window when the last one is over. -/
def touch (peer : PeerState) (limits : OverlayLimits) (nowMs : UInt64) : PeerState :=
  let peer := { peer with lastActivityMs := max peer.lastActivityMs nowMs }
  if limits.rateWindowMs.toNat ≤ elapsed nowMs peer.windowStartMs then
    { peer with windowStartMs := nowMs, messagesByTopic := ∅, bodyDownloadBytes := 0 }
  else
    peer

/-- What the counters of a peer lose with a pending object of the given size. -/
def settleWith (sub : Nat → Nat → Nat) (peer : PeerState) (size : UInt32) : PeerState :=
  { peer with
    pendingObjects := sub peer.pendingObjects 1
    pendingBytes := sub peer.pendingBytes size.toNat }

end PeerState

namespace OverlayNode

def new (networkId : UInt8) (limits : OverlayLimits) (topicLimits : AList fun _ : GossipTopic => TopicLimit)
    : OverlayNode where
  networkId
  limits
  topicLimits
  peers := ∅
  pending := ∅
  seenOrder := []
  seen := ∅
  orphans := []
  events := []
  droppedEvents := 0
  evictedPeers := 0
  expiredValidations := 0
  nextValidationGeneration := 0

def pushBoundedEvent (node : OverlayNode) (event : OverlayEvent) : OverlayNode :=
  let maximum := node.limits.maximumRetainedEvents
  if maximum = 0 then
    { node with droppedEvents := saturatingU64 (node.droppedEvents + 1) }
  else if maximum ≤ node.events.length then
    let discard := min ((maximum + 1) / 2) node.events.length
    { node with
      events := node.events.drop discard ++ [event]
      droppedEvents := saturatingU64 (node.droppedEvents + discard) }
  else
    { node with events := node.events ++ [event] }

def setPeer (node : OverlayNode) (key : PublicKey) (peer : PeerState) : OverlayNode :=
  { node with peers := node.peers.insert key peer }

def penalize {α : Type} (peerKey : PublicKey) (error : NetworkError) : Call α := fun node =>
  match node.peers.lookup peerKey with
  | none => .error (.error .peerUnavailable) node
  | some peer =>
    match checkedI32 (peer.gossipScore - node.limits.invalidObjectPenalty) with
    | none => .error .overflow node
    | some score =>
      let disconnected := peer.disconnected || score ≤ node.limits.disconnectScore
      let node := node.setPeer peerKey { peer with gossipScore := score, disconnected }
      let node := node.pushBoundedEvent (.peerPenalized peerKey score)
      let node := if disconnected then node.pushBoundedEvent (.peerDisconnected peerKey) else node
      .error (.error error) node

def evictionCandidate (node : OverlayNode) (nowMs : UInt64) : Option PublicKey :=
  let idle := node.peers.entries.filter fun entry =>
    entry.2.pendingObjects = 0
      ∧ node.limits.peerInactivityTimeoutMs.toNat ≤ elapsed nowMs entry.2.lastActivityMs
  (idle.argmin fun entry => toLex (entry.2.lastActivityMs, entry.1)).map (·.1)

def evictInactivePeer (node : OverlayNode) (nowMs : UInt64) : Option OverlayNode :=
  (node.evictionCandidate nowMs).map fun key =>
    { node with
      peers := node.peers.erase key
      evictedPeers := saturatingU64 (node.evictedPeers + 1) }

/-- The loop makes at most one round for each tracked peer, since the maximum is not zero. -/
def makeRoom (nowMs : UInt64) : Nat → Call Unit
  | 0 => fun node => .ok () node
  | rounds + 1 => fun node =>
    if node.peers.entries.length < node.limits.maximumTrackedPeers then
      .ok () node
    else
      match node.evictInactivePeer nowMs with
      | none => .error (.error .peerCapacity) node
      | some node => makeRoom nowMs rounds node

/-- The loop of `begin_validation` that makes room for an orphan; to pop from an empty queue does nothing. -/
def evictOrphans (maximum : Nat) : Nat → List Hash256 → Option (List Hash256)
  | 0, _ => none
  | rounds + 1, orphans =>
    if maximum ≤ orphans.length then evictOrphans maximum rounds orphans.tail else some orphans

def trimSeen (maximum : Nat) : List Hash256 → Finset Hash256 → List Hash256 × Finset Hash256
  | [], seen => ([], seen)
  | oldest :: rest, seen =>
    if maximum < rest.length + 1 then trimSeen maximum rest (seen.erase oldest) else (oldest :: rest, seen)

def markSeen (node : OverlayNode) (objectId : Hash256) : OverlayNode :=
  let trimmed := trimSeen node.limits.maximumSeenObjects (node.seenOrder ++ [objectId]) (insert objectId node.seen)
  { node with seenOrder := trimmed.1, seen := trimmed.2 }

section

variable (sub : Nat → Nat → Nat)

def expireWith (nowMs : UInt64) (state : OverlayNode × Nat) (entry : (_ : Hash256) × PendingObject)
    : OverlayNode × Nat :=
  let (node, expired) := state
  let ⟨objectId, pending⟩ := entry
  if elapsed nowMs pending.startedMs < node.limits.pendingValidationTimeoutMs.toNat then
    (node, expired)
  else
    let peers := match node.peers.lookup pending.peer with
      | some peer => node.peers.insert pending.peer (peer.settleWith sub pending.size)
      | none => node.peers
    ({ node with pending := node.pending.erase objectId, peers }, saturatingU64 (expired + 1))

def expireStaleValidationsWith (node : OverlayNode) (nowMs : UInt64) : OverlayNode :=
  let (retained, expired) := node.pending.entries.foldl (expireWith sub nowMs) (node, 0)
  { retained with expiredValidations := saturatingU64 (retained.expiredValidations + expired) }

def authenticatePeerWith [Primitives] (hello : PeerHello) (nowMs : UInt64) : Call Unit := fun node =>
  if hello.protocolVersion ≠ 2 ∨ hello.networkId ≠ node.networkId then
    .error (.error (.authentication "network mismatch")) node
  else match verifyObject hello.transportPubkey ed25519Suite hello.signature hello.networkId hello with
  | .error error => .error (.error (.authentication (cryptoMessage error))) node
  | .ok () =>
    let node := node.expireStaleValidationsWith sub nowMs
    match node.peers.lookup hello.transportPubkey with
    | some peer =>
      if peer.disconnected then
        .error (.error .peerUnavailable) node
      else if peer.economicOperatorPubkey ≠ hello.economicOperatorPubkey then
        .error (.error (.authentication "transport identity attempted to change economic identity")) node
      else
        let node := node.setPeer hello.transportPubkey { peer with lastActivityMs := max peer.lastActivityMs nowMs }
        .ok () (node.pushBoundedEvent (.peerAuthenticated hello.transportPubkey))
    | none =>
      if node.limits.maximumTrackedPeers = 0 then
        .error (.error .peerCapacity) node
      else match makeRoom nowMs node.peers.entries.length node with
      | .error failure node => .error failure node
      | .ok () node =>
        let node := node.setPeer hello.transportPubkey (.introduce hello.economicOperatorPubkey nowMs)
        .ok () (node.pushBoundedEvent (.peerAuthenticated hello.transportPubkey))

/-- The end of `begin_validation`: the object takes a slot of the peer's budget. -/
def reserve (peerKey : PublicKey) (peer : PeerState) (envelope : ObjectEnvelope) (nowMs : UInt64)
    : Call IngressDecision := fun node =>
  let generation := node.nextValidationGeneration
  if 2 ^ 64 ≤ generation + 1 then
    .error (.error .validationGenerationExhausted) node
  else
    let node := { node with
      peers := node.peers.insert peerKey { peer with
        pendingObjects := peer.pendingObjects + 1
        pendingBytes := peer.pendingBytes + envelope.encodedSize.toNat }
      nextValidationGeneration := generation + 1
      pending := node.pending.insert envelope.objectId {
        peer := peerKey
        size := envelope.encodedSize
        startedMs := nowMs
        generation } }
    let node := node.pushBoundedEvent (.validationStarted envelope.objectId)
    .ok (.validate { objectId := envelope.objectId, peer := peerKey, generation }) node

/-- The checks of `begin_validation` on an object of a peer within its rate. -/
def screen (rounds : Nat) (peerKey : PublicKey) (peer : PeerState) (envelope : ObjectEnvelope)
    (signatureValid : Bool) (nowMs : UInt64) : Call IngressDecision := fun node =>
  if (node.pending.lookup envelope.objectId).isSome then
    .error (.error .duplicate) node
  else if ¬ signatureValid then
    penalize peerKey .invalidSignature (node.pushBoundedEvent (.signatureRejected envelope.objectId))
  else if envelope.objectId ∈ node.seen then
    .ok .alreadyValidated node
  else if 2 ^ 64 ≤ peer.pendingBytes + envelope.encodedSize.toNat then
    .error (.error .pendingBudget) node
  else if node.limits.maximumPendingObjectsPerPeer.toNat ≤ peer.pendingObjects
      ∨ node.limits.maximumPendingBytesPerPeer.toNat < peer.pendingBytes + envelope.encodedSize.toNat then
    .error (.error .pendingBudget) node
  else if envelope.topic = .share ∧ envelope.missingParent then
    if node.limits.maximumParentFetchDepth < envelope.parentFetchDepth then
      penalize peerKey .parentDepth node
    else match evictOrphans node.limits.maximumOrphanShares rounds node.orphans with
    | none => .error .outOfRounds node
    | some orphans =>
      let node := { node with orphans := orphans ++ [envelope.objectId] }
      reserve peerKey peer envelope nowMs (node.pushBoundedEvent (.orphanCached envelope.objectId))
  else
    reserve peerKey peer envelope nowMs node

def beginValidationWith (rounds : Nat) (peerKey : PublicKey) (envelope : ObjectEnvelope) (signatureValid : Bool)
    (nowMs : UInt64) : Call IngressDecision := fun node =>
  let node := node.expireStaleValidationsWith sub nowMs
  match (node.peers.lookup peerKey).filter fun peer => !peer.disconnected with
  | none => .error (.error .peerUnavailable) node
  | some peer =>
    let peer := peer.touch node.limits nowMs
    let node := node.setPeer peerKey peer
    match node.topicLimits.lookup envelope.topic with
    | none => .error (.error .objectTooLarge) node
    | some topicLimit =>
      if topicLimit.maximumObjectBytes < envelope.encodedSize then
        penalize peerKey .objectTooLarge node
      else
        let messages := (peer.messagesByTopic.lookup envelope.topic).getD 0
        if topicLimit.messagesPerWindow.toNat ≤ messages then
          -- the entry has been made
          .error (.error .rateLimited) <| node.setPeer peerKey
            { peer with messagesByTopic := peer.messagesByTopic.insert envelope.topic messages }
        else
          let peer := { peer with messagesByTopic := peer.messagesByTopic.insert envelope.topic (messages + 1) }
          screen rounds peerKey peer envelope signatureValid nowMs (node.setPeer peerKey peer)

def finishValidationWith (token : IngressToken) (valid : Bool) : Call Unit := fun node =>
  match (node.pending.lookup token.objectId).filter fun pending =>
      pending.peer = token.peer ∧ pending.generation = token.generation with
  | none => .error (.error .unknownValidation) node
  | some pending =>
    let node := { node with pending := node.pending.erase token.objectId }
    match node.peers.lookup pending.peer with
    | none => .error (.error .peerUnavailable) node
    | some peer =>
      let peer := peer.settleWith sub pending.size
      let node := node.setPeer pending.peer peer
      if ¬ valid then
        penalize pending.peer .invalidSignature node
      else match checkedI32 (peer.gossipScore + 1) with
      | none => .error .overflow node
      | some gossipScore =>
        let node := node.setPeer pending.peer { peer with gossipScore }
        .ok () ((node.markSeen token.objectId).pushBoundedEvent (.validationCompleted token.objectId))

end

def requestBodyBytes (peerKey : PublicKey) (bytes : UInt64) (nowMs : UInt64) : Call Unit := fun node =>
  match (node.peers.lookup peerKey).filter fun peer => !peer.disconnected with
  | none => .error (.error .peerUnavailable) node
  | some peer =>
    let peer := peer.touch node.limits nowMs
    if node.limits.bodyDownloadBytesPerWindow.toNat < saturatingU64 (peer.bodyDownloadBytes + bytes.toNat) then
      match checkedI32 (peer.availabilityScore - 1) with
      | none => .error .overflow (node.setPeer peerKey peer)
      | some availabilityScore =>
        .error (.error .bodyQuota) (node.setPeer peerKey { peer with availabilityScore })
    else if 2 ^ 64 ≤ peer.bodyDownloadBytes + bytes.toNat then
      -- The quota compares with the saturated sum, which is never above `u64::MAX`.
      .error .overflow (node.setPeer peerKey peer)
    else
      let peer := { peer with bodyDownloadBytes := peer.bodyDownloadBytes + bytes.toNat }
      match checkedI32 (peer.availabilityScore + 1) with
      | none => .error .overflow (node.setPeer peerKey peer)
      | some availabilityScore => .ok () (node.setPeer peerKey { peer with availabilityScore })

def expireStaleValidations := expireStaleValidationsWith (· - ·)
def authenticatePeer [Primitives] := authenticatePeerWith (· - ·)
def beginValidation := beginValidationWith (· - ·)
def finishValidation := finishValidationWith (· - ·)

end OverlayNode

/-!
### Runs
-/

inductive Request where
  | authenticatePeer (hello : PeerHello) (nowMs : UInt64)
  | beginValidation (peerKey : PublicKey) (envelope : ObjectEnvelope) (signatureValid : Bool) (nowMs : UInt64)
  | finishValidation (token : IngressToken) (valid : Bool)
  | requestBodyBytes (peerKey : PublicKey) (bytes : UInt64) (nowMs : UInt64)

namespace OverlayNode

variable [Primitives]

def serveWith (sub : Nat → Nat → Nat) (node : OverlayNode) : Request → OverlayNode
  | .authenticatePeer hello nowMs => left (authenticatePeerWith sub hello nowMs node)
  | .beginValidation peerKey envelope signatureValid nowMs =>
    left (beginValidationWith sub (node.orphans.length + 1) peerKey envelope signatureValid nowMs node)
  | .finishValidation token valid => left (finishValidationWith sub token valid node)
  | .requestBodyBytes peerKey bytes nowMs => left (requestBodyBytes peerKey bytes nowMs node)

def serve (node : OverlayNode) (request : Request) : OverlayNode :=
  node.serveWith (· - ·) request

def serveAll (node : OverlayNode) (requests : List Request) : OverlayNode :=
  requests.foldl serve node

end OverlayNode

end MeshMine.Network
