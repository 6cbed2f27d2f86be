import MeshMine.Gateway.Basic
import MeshMine.Share.Receipts

/-!
The assignment bundle that Core signs for an operator: one assignment with its whole mining context
(`meshmine-core-link/src/bundle.rs`).
-/

namespace MeshMine.CoreLink

open MeshMine.Types Codec Crypto Hns Handoff Share Gateway Storage
open Except (rejectIf)
open Encoder (fixed u8 u16 u32 u64)

structure AssignmentReplacementV1 where
  previousAssignmentId : Hash256
  creditCutoffMs : UInt64
  previousSubmissionEndMs : UInt64
  reasonCode : UInt16
deriving DecidableEq

structure CoreAssignmentBundleV1 where
  bundleVersion : UInt16
  networkId : UInt8
  bundleSequence : UInt64
  previousBundleId : Hash256
  manifest : GatewayContextManifestV1
  assignment : GatewayAssignmentV1
  session : MaskSessionV2
  parentCertificate : SessionParentCertificateV2
  body : BlockBodyPackageV2
  descriptor : BodyErasureDescriptorV2
  bodyCertificate : BodyAvailabilityCertificateV2
  payoutBucket : PayoutBucketV2
  maskRoster : CommitteeRoster
  availabilityRoster : CommitteeRoster
  settlementRoster : CommitteeRoster
  advertisedDifficulty : UInt32
  replacement : Option AssignmentReplacementV1
  coreSignature : SignatureBytes
deriving DecidableEq

inductive BundleError where
  | crypto (error : CryptoError)
  | handoff (error : HandoffError)
  | gateway (error : GatewayError)
  | share (error : ShareError)
  | body
  | linkage (what : String)

def bundleLimits : DecodeLimits := ⟨8 * 1024 * 1024, 100000⟩

def encodeRoster (roster : CommitteeRoster) : List UInt8 :=
  u16 roster.protocolVersion ++ u8 roster.networkId
    ++ u16 roster.role.code ++ u64 roster.epoch ++ u16 roster.threshold
    ++ Encoder.list fixed roster.members.toList

def CommitteeRole.ofCode (code : UInt16) : Option CommitteeRole :=
  [CommitteeRole.mask, .receipt, .availability, .settlement].find? (·.code = code)

def decodeMembers : Nat → SortedList PublicKey → Decoder (SortedList PublicKey)
  | 0, members => return members
  | count + 1, members => do
    let member ← Decoder.array 32
    if member ∈ members.toList then
      throw (.invalidField "duplicate committee member")
    else
      decodeMembers count (members.insert member)

def decodeRoster : Decoder CommitteeRoster := do
  let protocolVersion ← Decoder.u16
  let networkId ← Decoder.u8
  let code ← Decoder.u16
  match CommitteeRole.ofCode code with
  | none => throw (.invalidField "committee role")
  | some role =>
    let epoch ← Decoder.u64
    let threshold ← Decoder.u16
    let count ← Decoder.length maxCommitteeMembers
    let members ← decodeMembers count .empty
    return { protocolVersion, networkId, role, epoch, threshold, members }

def AssignmentReplacementV1.encode (replacement : AssignmentReplacementV1) : List UInt8 :=
  fixed replacement.previousAssignmentId ++ u64 replacement.creditCutoffMs
    ++ u64 replacement.previousSubmissionEndMs ++ u16 replacement.reasonCode

def AssignmentReplacementV1.decode : Decoder AssignmentReplacementV1 := do
  let previousAssignmentId ← Decoder.array 32
  let creditCutoffMs ← Decoder.u64
  let previousSubmissionEndMs ← Decoder.u64
  let reasonCode ← Decoder.u16
  return { previousAssignmentId, creditCutoffMs, previousSubmissionEndMs, reasonCode }

instance : UnsignedObject CoreAssignmentBundleV1 where
  domainTag := "meshmine/core-assignment-bundle/v1"
  encodeUnsigned self :=
    u16 self.bundleVersion
    ++ (u8 self.networkId
    ++ (u64 self.bundleSequence
    ++ (fixed self.previousBundleId
    ++ (toCanonicalBytes self.manifest
    ++ (toCanonicalBytes self.assignment
    ++ (toCanonicalBytes self.session
    ++ (toCanonicalBytes self.parentCertificate
    ++ (toCanonicalBytes self.body
    ++ (toCanonicalBytes self.descriptor
    ++ (toCanonicalBytes self.bodyCertificate
    ++ (toCanonicalBytes self.payoutBucket
    ++ (encodeRoster self.maskRoster
    ++ (encodeRoster self.availabilityRoster
    ++ (encodeRoster self.settlementRoster
    ++ (u32 self.advertisedDifficulty
    ++ Encoder.option AssignmentReplacementV1.encode self.replacement)))))))))))))))

instance : CanonicalEncode CoreAssignmentBundleV1 where
  encode self := unsignedBytes self ++ Encoder.bytes self.coreSignature

section

variable [P : Primitives]

instance : CanonicalDecode CoreAssignmentBundleV1 where
  decode := do
    let bundleVersion ← Decoder.u16
    let networkId ← Decoder.u8
    let bundleSequence ← Decoder.u64
    let previousBundleId ← Decoder.array 32
    let manifest ← CanonicalDecode.decode
    let assignment ← CanonicalDecode.decode
    let session ← CanonicalDecode.decode
    let parentCertificate ← CanonicalDecode.decode
    let body ← CanonicalDecode.decode
    let descriptor ← CanonicalDecode.decode
    let bodyCertificate ← CanonicalDecode.decode
    let payoutBucket ← CanonicalDecode.decode
    let maskRoster ← decodeRoster
    let availabilityRoster ← decodeRoster
    let settlementRoster ← decodeRoster
    let advertisedDifficulty ← Decoder.u32
    let replacement ← Decoder.option AssignmentReplacementV1.decode
    let coreSignature ← Decoder.bytes maxSignatureBytes
    return {
      bundleVersion, networkId, bundleSequence, previousBundleId, manifest, assignment, session,
      parentCertificate, body, descriptor, bodyCertificate, payoutBucket, maskRoster,
      availabilityRoster, settlementRoster, advertisedDifficulty, replacement, coreSignature }

namespace CoreAssignmentBundleV1

variable (bundle : CoreAssignmentBundleV1)

def validateIdentities : Except BundleError Unit := do
  let assignment := bundle.assignment
  let session := bundle.session
  let parent := bundle.parentCertificate
  let body := bundle.body
  let certificate := bundle.bodyCertificate
  rejectIf (assignment.sessionId ≠ objectId session
    ∨ assignment.bodyPackageId ≠ objectId body
    ∨ assignment.bodyCertificateId ≠ objectId certificate
    ∨ session.parentCertificateId ≠ objectId parent
    ∨ session.parentHash ≠ parent.parentHash
    ∨ body.templateCore.hnsParentHash ≠ parent.parentHash
    ∨ body.templateCore.hnsParentHeight ≠ parent.parentHeight
    ∨ bundle.descriptor.bodyPackageId ≠ objectId body
    ∨ certificate.descriptorId ≠ objectId bundle.descriptor
    ∨ certificate.parentHash ≠ parent.parentHash
    ∨ certificate.parentHeight ≠ parent.parentHeight
    ∨ certificate.consensusValidationResultHash ≠ body.consensusValidationResultHash
    ∨ assignment.payoutBucketId ≠ objectId bundle.payoutBucket
    ∨ assignment.operatorPubkey ≠ body.templateCore.operatorPubkey
    ∨ assignment.operatorPubkey ≠ bundle.payoutBucket.operatorPubkey
    ∨ assignment.gatewayPubkey ≠ bundle.manifest.gatewayPubkey
    ∨ assignment.coreHandoffPubkey ≠ bundle.manifest.coreHandoffPubkey)
    (.linkage "nested object identity")
  rejectIf (body.templateCoreId ≠ objectId body.templateCore) (.linkage "template core ID")

def validateSignatures : Except BundleError Unit := do
  let operator := bundle.assignment.operatorPubkey
  let networkId := bundle.networkId
  (verifyObject operator ed25519Suite bundle.body.operatorSignature networkId bundle.body).mapError .crypto
  (verifyObject operator ed25519Suite bundle.assignment.operatorSignature networkId
    bundle.assignment).mapError .crypto
  (verifyObject operator ed25519Suite bundle.payoutBucket.signature networkId
    bundle.payoutBucket).mapError .crypto
  rejectIf (bundle.maskRoster.role ≠ .mask
    ∨ bundle.maskRoster.id ≠ bundle.session.maskCommitteeId
    ∨ bundle.availabilityRoster.role ≠ .availability
    ∨ bundle.settlementRoster.role ≠ .settlement) (.linkage "committee role or identity")
  (bundle.maskRoster.verify bundle.session.signerSet bundle.session).mapError .share
  (bundle.availabilityRoster.verify bundle.bodyCertificate.signerSet
    bundle.bodyCertificate).mapError .share
  (bundle.settlementRoster.verify bundle.parentCertificate.signerSet
    bundle.parentCertificate).mapError .share

def validateProfile : Except BundleError Unit := do
  let session := bundle.session
  let template := bundle.body.templateCore
  rejectIf (session.assignmentEndMs < session.assignmentStartMs
    ∨ session.submissionEndMs < session.assignmentEndMs
    ∨ session.timedOpenAfterMs < session.submissionEndMs
    ∨ bundle.assignment.ntime < template.minimumNtime
    ∨ bundle.assignment.captureTarget ≠ session.captureTarget
    ∨ bundle.assignment.edgeTarget < session.captureTarget
    ∨ session.accountingTarget ≠ session.captureTarget) (.linkage "session schedule or target")
  let capture ← (deriveCaptureParameters template.bits session.blindBandBitsD).mapError
    fun _ => .linkage "capture profile"
  rejectIf (session.hnsNetworkTarget ≠ capture.networkTarget
    ∨ session.leadingZeroPrefixQ ≠ capture.leadingZeroPrefixQ
    ∨ session.captureTarget ≠ capture.captureTarget) (.linkage "capture profile")
  let target ← (handyTargetFromDifficulty bundle.advertisedDifficulty).mapError .gateway
  rejectIf (target ≠ bundle.assignment.edgeTarget) (.linkage "HandyStratum difficulty")
  rejectIf (template.hnsParentHeight = 0xffffffff) (.linkage "assignment height")
  let assignmentHeight := template.hnsParentHeight + 1
  rejectIf (assignmentHeight < bundle.payoutBucket.activationHeight
    ∨ bundle.payoutBucket.retirementHeight.any (· ≤ assignmentHeight))
    (.linkage "payout bucket activation")

def validateReplacement : Except BundleError Unit :=
  let sequence := bundle.assignment.assignmentSequence
  match bundle.replacement with
  | none =>
    if sequence = 1 then
      rejectIf (bundle.bundleSequence ≠ 1 ∨ bundle.previousBundleId ≠ zeroHash)
        (.linkage "initial bundle sequence")
    else
      .error (.linkage "replacement sequence")
  | some replacement =>
    if 1 < sequence then
      rejectIf (replacement.previousAssignmentId = zeroHash
        ∨ replacement.previousAssignmentId = objectId bundle.assignment
        ∨ bundle.session.assignmentStartMs < replacement.creditCutoffMs
        ∨ replacement.previousSubmissionEndMs < replacement.creditCutoffMs
        ∨ bundle.previousBundleId = zeroHash
        ∨ bundle.bundleSequence ≠ sequence) (.linkage "replacement boundary")
    else
      .error (.linkage "replacement sequence")

def validate (nowMs : UInt64) (pinnedCorePubkey : PublicKey) : Except BundleError Unit := do
  rejectIf (bundle.bundleVersion ≠ 1
    ∨ bundle.networkId ≠ bundle.manifest.networkId
    ∨ bundle.networkId ≠ bundle.assignment.networkId
    ∨ bundle.bundleSequence = 0
    ∨ bundle.coreSignature.length ≠ 64) (.linkage "bundle version, network, or sequence")
  rejectIf (bundle.manifest.coreProtocolVersion ≠ coreV2
    ∨ bundle.manifest.handoffVersion ≠ gatewayHandoffV1
    ∨ bundle.assignment.coreProtocolVersion ≠ coreV2
    ∨ bundle.assignment.handoffVersion ≠ gatewayHandoffV1
    ∨ bundle.session.protocolVersion ≠ coreV2
    ∨ bundle.parentCertificate.protocolVersion ≠ coreV2
    ∨ bundle.body.protocolVersion ≠ coreV2
    ∨ bundle.descriptor.protocolVersion ≠ coreV2
    ∨ bundle.bodyCertificate.protocolVersion ≠ coreV2
    ∨ bundle.payoutBucket.protocolVersion ≠ coreV2) (.linkage "nested protocol version")
  rejectIf (bundle.manifest.coreHandoffPubkey ≠ pinnedCorePubkey
    ∨ bundle.assignment.coreHandoffPubkey ≠ pinnedCorePubkey)
    (.linkage "pinned Core handoff identity")
  (verifyObject pinnedCorePubkey ed25519Suite bundle.coreSignature bundle.networkId
    bundle).mapError .crypto
  (validateContextManifest bundle.manifest nowMs).mapError .handoff
  (validateGatewayAssignment bundle.manifest bundle.assignment).mapError .handoff
  (validateBodyPackage bundle.body).mapError fun _ => .body
  rejectIf (validationResultHash bundle.body.networkId bundle.body.templateCoreId
    bundle.body.coinbaseRaw bundle.body.transactionsRaw ≠ bundle.body.consensusValidationResultHash)
    (.linkage "body validation commitment")
  bundle.validateIdentities
  bundle.validateSignatures
  bundle.validateProfile
  bundle.validateReplacement

def gatewayJob : Except BundleError GatewayJob := do
  let session := bundle.session
  let body := bundle.body
  rejectIf (2 ^ 32 ≤ bundle.assignment.ntime.toNat) (.linkage "assignment nTime")
  return {
    id := gatewayAssignmentJobId bundle.assignment
    assignmentSequence := 0
    previousBlock := session.parentHash
    merkleRoot := body.merkleRoot
    witnessRoot := body.witnessRoot
    treeRoot := body.treeRoot
    reservedRoot := body.reservedRoot
    version := body.templateCore.blockVersion
    bits := body.templateCore.bits
    ntime := UInt32.ofNat bundle.assignment.ntime.toNat
    maskHash := session.maskHash
    leadingZeroPrefixQ := session.leadingZeroPrefixQ
    blindBandBitsD := session.blindBandBitsD
    captureTarget := session.captureTarget
    advertisedDeviceTarget := bundle.assignment.edgeTarget
    advertisedDifficulty := bundle.advertisedDifficulty
    issuedMs := session.assignmentStartMs
    assignmentEndMs := session.assignmentEndMs
    submissionEndMs := session.submissionEndMs
    transactionHashes := body.templateCore.orderedNonCoinbaseTxids }

end CoreAssignmentBundleV1

end

/-!
### A bundle and its replacement
-/

/-- Hashes of the first bytes, with four leading zero bytes, so that every header reaches the targets of the
sample. -/
@[reducible]
def lowHashes : Primitives :=
  { Primitives.fold with
    blake2b256 bytes := ⟨List.replicate 4 0 ++ Bytes.toBE 28 (Primitives.foldHash 1 (bytes.take 320)),
      by rw [List.length_append, Bytes.length_toBE, List.length_replicate]⟩ }

def sampleCommitteeKey : ByteVec 32 := .fill 32 10

def sampleManifest : GatewayContextManifestV1 :=
  @Handoff.sampleManifest lowHashes

def sampleRoster (role : CommitteeRole) : CommitteeRoster where
  protocolVersion := coreV2
  networkId := 2
  role := role
  epoch := 1
  threshold := 1
  members := ⟨[sampleCommitteeKey], List.pairwise_singleton _ _⟩

def sampleCertified {α : Type} [UnsignedObject α] (object : α) : SignatureSet :=
  letI := lowHashes
  { signatureSuite := ed25519Suite, signatures := [signCertificate sampleCommitteeKey 2 object] }

def sampleTemplate : TemplateCoreV2 :=
  { (default : TemplateCoreV2) with
    protocolVersion := coreV2
    networkId := 2
    hnsParentHash := .fill 32 1
    hnsParentHeight := 100
    operatorPubkey := operatorKey
    bits := 0x1d200000 }

def sampleBody : BlockBodyPackageV2 :=
  letI := lowHashes
  let body := { (default : BlockBodyPackageV2) with
    protocolVersion := coreV2
    networkId := 2
    templateCore := sampleTemplate
    templateCoreId := objectId sampleTemplate
    consensusValidationResultHash := validationResultHash 2 (objectId sampleTemplate) [] [] }
  { body with operatorSignature := signObject operatorKey 2 body }

def sampleDescriptor : BodyErasureDescriptorV2 :=
  letI := lowHashes
  { (default : BodyErasureDescriptorV2) with
    protocolVersion := coreV2, networkId := 2, bodyPackageId := objectId sampleBody }

def sampleBodyCertificate : BodyAvailabilityCertificateV2 :=
  letI := lowHashes
  let certificate : BodyAvailabilityCertificateV2 := {
    protocolVersion := coreV2
    networkId := 2
    descriptorId := objectId sampleDescriptor
    parentHash := .fill 32 1
    parentHeight := 100
    consensusValidationResultHash := sampleBody.consensusValidationResultHash
    challengeRound := 1
    challengeTranscriptRoot := .fill 32 12
    signerSet := .emptyEd25519 }
  { certificate with signerSet := sampleCertified certificate }

def sampleParentCertificate : SessionParentCertificateV2 :=
  let certificate : SessionParentCertificateV2 := {
    protocolVersion := coreV2
    networkId := 2
    parentHash := .fill 32 1
    parentHeight := 100
    parentChainwork := .fill 32 1
    observedNtime := 0
    certificateSequence := 1
    previousParentCertificateId := zeroHash
    signerSet := .emptyEd25519 }
  { certificate with signerSet := sampleCertified certificate }

def samplePayoutBucket : PayoutBucketV2 :=
  letI := lowHashes
  let bucket : PayoutBucketV2 := {
    protocolVersion := coreV2
    networkId := 2
    operatorPubkey := operatorKey
    bucketSequence := 1
    hnsAddressVersion := 0
    hnsAddressHash := List.replicate 20 1
    activationHeight := 0
    retirementHeight := none
    signature := [] }
  { bucket with signature := signObject operatorKey 2 bucket }

def sampleSession (startMs : UInt64) : MaskSessionV2 :=
  letI := lowHashes
  let session : MaskSessionV2 := {
    protocolVersion := coreV2
    networkId := 2
    laneId := 0
    sessionSequence := 1
    parentCertificateId := objectId sampleParentCertificate
    parentHash := .fill 32 1
    hnsNetworkTarget := ⟨Bytes.toBE 32 (2 ^ 229), Bytes.length_toBE _ _⟩
    captureTarget := captureTarget 25
    accountingTarget := captureTarget 25
    leadingZeroPrefixQ := 25
    blindBandBitsD := 1
    maskHash := .fill 32 13
    maskCommitmentRoot := .fill 32 14
    maskCommitteeId := (sampleRoster .mask).id
    fastEvalPolicy := 0
    assignmentStartMs := startMs
    assignmentEndMs := startMs + 1000
    submissionEndMs := startMs + 2000
    timedOpenAfterMs := startMs + 3000
    previousSessionId := zeroHash
    signerSet := .emptyEd25519 }
  { session with signerSet := sampleCertified session }

def sampleAssignment (sequence startMs : UInt64) : GatewayAssignmentV1 :=
  letI := lowHashes
  signedAssignment { unsignedAssignment with
    sessionId := objectId (sampleSession startMs)
    bodyPackageId := objectId sampleBody
    bodyCertificateId := objectId sampleBodyCertificate
    payoutBucketId := objectId samplePayoutBucket
    assignmentSequence := sequence
    edgeTarget := ⟨Bytes.toBE 32 (0xffff * 2 ^ 216), Bytes.length_toBE _ _⟩
    captureTarget := captureTarget 25 }

def sampleBundleWith (sequence startMs : UInt64) (previousBundleId : Hash256)
    (replacement : Option AssignmentReplacementV1)
    : CoreAssignmentBundleV1 :=
  letI := lowHashes
  let bundle : CoreAssignmentBundleV1 := {
    bundleVersion := 1
    networkId := 2
    bundleSequence := sequence
    previousBundleId
    manifest := sampleManifest
    assignment := sampleAssignment sequence startMs
    session := sampleSession startMs
    parentCertificate := sampleParentCertificate
    body := sampleBody
    descriptor := sampleDescriptor
    bodyCertificate := sampleBodyCertificate
    payoutBucket := samplePayoutBucket
    maskRoster := sampleRoster .mask
    availabilityRoster := sampleRoster .availability
    settlementRoster := sampleRoster .settlement
    advertisedDifficulty := 1
    replacement
    coreSignature := [] }
  { bundle with coreSignature := signObject coreKey 2 bundle }

def sampleBundle : CoreAssignmentBundleV1 :=
  sampleBundleWith 1 0 zeroHash none

def sampleNextBundle : CoreAssignmentBundleV1 :=
  letI := lowHashes
  sampleBundleWith 2 1500 (objectId sampleBundle)
    (some ⟨objectId sampleBundle.assignment, 1000, 2000, 0⟩)

def sampleReceipt (envelope : GatewayCaptureEnvelopeV1) : GatewayCaptureReceiptV1 :=
  @Handoff.sampleReceipt lowHashes envelope envelope.gatewayReceivedMs captureOutcomeRejected zeroHash

end MeshMine.CoreLink
