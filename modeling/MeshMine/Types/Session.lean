import MeshMine.Types.Gateway
import MeshMine.Types.Payout

/-!
The signed mining context of an assignment: the template, its body package, the erasure descriptor and
availability certificate of the body, the parent certificate and the mask session
(`meshmine-types/src/objects.rs`), with the decoders that a bundle of them goes through.
-/

namespace MeshMine.Types

open Codec
open Encoder (fixed u8 u16 u32 u64 hashes)
open Decoder (array)

structure TemplateCoreV2 where
  protocolVersion : UInt16
  networkId : UInt8
  hnsParentHash : Hash256
  hnsParentHeight : UInt32
  operatorPubkey : PublicKey
  operatorFeeBucketId : Hash256
  payoutSnapshotId : Hash256
  payoutPlanId : Hash256
  planSequence : UInt64
  orderedNonCoinbaseTxids : List Hash256
  orderedClaimIds : List Hash256
  orderedAirdropIds : List Hash256
  blockVersion : UInt32
  bits : UInt32
  minimumNtime : UInt64
  policyCommitment : Hash256
deriving DecidableEq, Inhabited

structure BlockBodyPackageV2 where
  protocolVersion : UInt16
  networkId : UInt8
  templateCore : TemplateCoreV2
  templateCoreId : Hash256
  coinbaseRaw : List UInt8
  transactionsRaw : List (List UInt8)
  merkleRoot : Hash256
  witnessRoot : Hash256
  treeRoot : Hash256
  reservedRoot : Hash256
  blockWeight : UInt32
  blockSigops : UInt32
  minerSubsidy : UInt64
  ordinaryTransactionFees : UInt64
  claimAirdropPrincipal : UInt64
  claimAirdropFees : UInt64
  operatorFeeValue : UInt64
  workServiceSubsidyValue : UInt64
  consensusValidationResultHash : Hash256
  operatorSignature : SignatureBytes
deriving DecidableEq, Inhabited

structure BodyErasureDescriptorV2 where
  protocolVersion : UInt16
  networkId : UInt8
  bodyPackageId : Hash256
  originalSize : UInt32
  dataShards : UInt16
  parityShards : UInt16
  shardSize : UInt32
  shardMerkleRoot : Hash256
  expiryHeight : UInt32
  compression : UInt16
deriving DecidableEq, Inhabited

structure BodyAvailabilityCertificateV2 where
  protocolVersion : UInt16
  networkId : UInt8
  descriptorId : Hash256
  parentHash : Hash256
  parentHeight : UInt32
  consensusValidationResultHash : Hash256
  challengeRound : UInt64
  challengeTranscriptRoot : Hash256
  signerSet : SignatureSet
deriving DecidableEq

structure SessionParentCertificateV2 where
  protocolVersion : UInt16
  networkId : UInt8
  parentHash : Hash256
  parentHeight : UInt32
  parentChainwork : U256
  observedNtime : UInt64
  certificateSequence : UInt64
  previousParentCertificateId : Hash256
  signerSet : SignatureSet
deriving DecidableEq

structure MaskSessionV2 where
  protocolVersion : UInt16
  networkId : UInt8
  laneId : UInt16
  sessionSequence : UInt64
  parentCertificateId : Hash256
  parentHash : Hash256
  hnsNetworkTarget : U256
  captureTarget : U256
  accountingTarget : U256
  leadingZeroPrefixQ : UInt16
  blindBandBitsD : UInt16
  maskHash : Hash256
  maskCommitmentRoot : Hash256
  maskCommitteeId : Hash256
  fastEvalPolicy : UInt16
  assignmentStartMs : UInt64
  assignmentEndMs : UInt64
  submissionEndMs : UInt64
  timedOpenAfterMs : UInt64
  previousSessionId : Hash256
  signerSet : SignatureSet
deriving DecidableEq

def decodeHashes : Decoder (List Hash256) :=
  Decoder.list maxObjectHashes (array 32)

def SignerSignature.decode : Decoder SignerSignature := do
  let signerPubkey ← array 32
  let signature ← Decoder.bytes maxSignatureBytes
  return { signerPubkey, signature }

def SignatureSet.decode : Decoder SignatureSet := do
  let signatureSuite ← Decoder.u16
  let signatures ← Decoder.list maxCertificateSigners SignerSignature.decode
  let set : SignatureSet := { signatureSuite, signatures }
  match set.validateOrder with
  | .error _ => throw (.invalidField "unsorted certificate signers")
  | .ok _ => return set

instance : UnsignedObject TemplateCoreV2 where
  domainTag := "meshmine/template-core/v2"
  encodeUnsigned self :=
    u16 self.protocolVersion ++ u8 self.networkId
    ++ (fixed self.hnsParentHash
    ++ (u32 self.hnsParentHeight
    ++ (fixed self.operatorPubkey
    ++ (fixed self.operatorFeeBucketId
    ++ (fixed self.payoutSnapshotId
    ++ (fixed self.payoutPlanId
    ++ (u64 self.planSequence
    ++ (hashes self.orderedNonCoinbaseTxids
    ++ (hashes self.orderedClaimIds
    ++ (hashes self.orderedAirdropIds
    ++ (u32 self.blockVersion
    ++ (u32 self.bits
    ++ (u64 self.minimumNtime
    ++ fixed self.policyCommitment)))))))))))))

instance : CanonicalEncode TemplateCoreV2 where
  encode self := unsignedBytes self

instance : CanonicalDecode TemplateCoreV2 where
  decode := do
    let protocolVersion ← Decoder.u16
    let networkId ← Decoder.u8
    let hnsParentHash ← array 32
    let hnsParentHeight ← Decoder.u32
    let operatorPubkey ← array 32
    let operatorFeeBucketId ← array 32
    let payoutSnapshotId ← array 32
    let payoutPlanId ← array 32
    let planSequence ← Decoder.u64
    let orderedNonCoinbaseTxids ← decodeHashes
    let orderedClaimIds ← decodeHashes
    let orderedAirdropIds ← decodeHashes
    let blockVersion ← Decoder.u32
    let bits ← Decoder.u32
    let minimumNtime ← Decoder.u64
    let policyCommitment ← array 32
    return {
      protocolVersion, networkId, hnsParentHash, hnsParentHeight, operatorPubkey,
      operatorFeeBucketId, payoutSnapshotId, payoutPlanId, planSequence, orderedNonCoinbaseTxids,
      orderedClaimIds, orderedAirdropIds, blockVersion, bits, minimumNtime, policyCommitment }

instance : UnsignedObject BlockBodyPackageV2 where
  domainTag := "meshmine/body-package/v2"
  encodeUnsigned self :=
    u16 self.protocolVersion ++ u8 self.networkId
    ++ (toCanonicalBytes self.templateCore
    ++ (fixed self.templateCoreId
    ++ (Encoder.bytes self.coinbaseRaw
    ++ (Encoder.list Encoder.bytes self.transactionsRaw
    ++ (fixed self.merkleRoot
    ++ (fixed self.witnessRoot
    ++ (fixed self.treeRoot
    ++ (fixed self.reservedRoot
    ++ (u32 self.blockWeight
    ++ (u32 self.blockSigops
    ++ (u64 self.minerSubsidy
    ++ (u64 self.ordinaryTransactionFees
    ++ (u64 self.claimAirdropPrincipal
    ++ (u64 self.claimAirdropFees
    ++ (u64 self.operatorFeeValue
    ++ (u64 self.workServiceSubsidyValue
    ++ fixed self.consensusValidationResultHash))))))))))))))))

instance : CanonicalEncode BlockBodyPackageV2 where
  encode self := unsignedBytes self ++ Encoder.bytes self.operatorSignature

def BlockBodyPackageV2.validateLinks [Primitives] (package : BlockBodyPackageV2)
    : Except ObjectError Unit :=
  if package.protocolVersion ≠ package.templateCore.protocolVersion
      ∨ package.networkId ≠ package.templateCore.networkId then
    .error (.codec (.invalidField "body and template version/network mismatch"))
  else if objectId package.templateCore ≠ package.templateCoreId then
    .error (.codec (.invalidField "template core ID mismatch"))
  else
    .ok ()

instance [Primitives] : CanonicalDecode BlockBodyPackageV2 where
  decode := do
    let protocolVersion ← Decoder.u16
    let networkId ← Decoder.u8
    let templateCore ← CanonicalDecode.decode (α := TemplateCoreV2)
    let templateCoreId ← array 32
    let coinbaseRaw ← Decoder.bytes maxBodyBytes
    let transactionsRaw ← Decoder.list maxObjectHashes (Decoder.bytes maxBodyBytes)
    let merkleRoot ← array 32
    let witnessRoot ← array 32
    let treeRoot ← array 32
    let reservedRoot ← array 32
    let blockWeight ← Decoder.u32
    let blockSigops ← Decoder.u32
    let minerSubsidy ← Decoder.u64
    let ordinaryTransactionFees ← Decoder.u64
    let claimAirdropPrincipal ← Decoder.u64
    let claimAirdropFees ← Decoder.u64
    let operatorFeeValue ← Decoder.u64
    let workServiceSubsidyValue ← Decoder.u64
    let consensusValidationResultHash ← array 32
    let operatorSignature ← Decoder.bytes maxSignatureBytes
    let package : BlockBodyPackageV2 := {
      protocolVersion, networkId, templateCore, templateCoreId, coinbaseRaw, transactionsRaw,
      merkleRoot, witnessRoot, treeRoot, reservedRoot, blockWeight, blockSigops, minerSubsidy,
      ordinaryTransactionFees, claimAirdropPrincipal, claimAirdropFees, operatorFeeValue,
      workServiceSubsidyValue, consensusValidationResultHash, operatorSignature }
    match package.validateLinks with
    | .error _ => throw (.invalidField "invalid body/template linkage")
    | .ok _ => return package

instance : UnsignedObject BodyErasureDescriptorV2 where
  domainTag := "meshmine/body-erasure/v2"
  encodeUnsigned self :=
    u16 self.protocolVersion ++ u8 self.networkId
    ++ (fixed self.bodyPackageId
    ++ (u32 self.originalSize
    ++ (u16 self.dataShards
    ++ (u16 self.parityShards
    ++ (u32 self.shardSize
    ++ (fixed self.shardMerkleRoot
    ++ (u32 self.expiryHeight
    ++ u16 self.compression)))))))

instance : CanonicalEncode BodyErasureDescriptorV2 where
  encode self := unsignedBytes self

instance : CanonicalDecode BodyErasureDescriptorV2 where
  decode := do
    let protocolVersion ← Decoder.u16
    let networkId ← Decoder.u8
    let bodyPackageId ← array 32
    let originalSize ← Decoder.u32
    let dataShards ← Decoder.u16
    let parityShards ← Decoder.u16
    let shardSize ← Decoder.u32
    let shardMerkleRoot ← array 32
    let expiryHeight ← Decoder.u32
    let compression ← Decoder.u16
    return {
      protocolVersion, networkId, bodyPackageId, originalSize, dataShards, parityShards,
      shardSize, shardMerkleRoot, expiryHeight, compression }

instance : UnsignedObject BodyAvailabilityCertificateV2 where
  domainTag := "meshmine/body-certificate/v2"
  encodeUnsigned self :=
    u16 self.protocolVersion ++ u8 self.networkId
    ++ (fixed self.descriptorId
    ++ (fixed self.parentHash
    ++ (u32 self.parentHeight
    ++ (fixed self.consensusValidationResultHash
    ++ (u64 self.challengeRound
    ++ fixed self.challengeTranscriptRoot)))))

instance : CanonicalEncode BodyAvailabilityCertificateV2 where
  encode self := unsignedBytes self ++ SignatureSet.encode self.signerSet

instance : CanonicalDecode BodyAvailabilityCertificateV2 where
  decode := do
    let protocolVersion ← Decoder.u16
    let networkId ← Decoder.u8
    let descriptorId ← array 32
    let parentHash ← array 32
    let parentHeight ← Decoder.u32
    let consensusValidationResultHash ← array 32
    let challengeRound ← Decoder.u64
    let challengeTranscriptRoot ← array 32
    let signerSet ← SignatureSet.decode
    return {
      protocolVersion, networkId, descriptorId, parentHash, parentHeight,
      consensusValidationResultHash, challengeRound, challengeTranscriptRoot, signerSet }

instance : UnsignedObject SessionParentCertificateV2 where
  domainTag := "meshmine/parent-certificate/v2"
  encodeUnsigned self :=
    u16 self.protocolVersion ++ u8 self.networkId
    ++ (fixed self.parentHash
    ++ (u32 self.parentHeight
    ++ (fixed self.parentChainwork
    ++ (u64 self.observedNtime
    ++ (u64 self.certificateSequence
    ++ fixed self.previousParentCertificateId)))))

instance : CanonicalEncode SessionParentCertificateV2 where
  encode self := unsignedBytes self ++ SignatureSet.encode self.signerSet

instance : CanonicalDecode SessionParentCertificateV2 where
  decode := do
    let protocolVersion ← Decoder.u16
    let networkId ← Decoder.u8
    let parentHash ← array 32
    let parentHeight ← Decoder.u32
    let parentChainwork ← array 32
    let observedNtime ← Decoder.u64
    let certificateSequence ← Decoder.u64
    let previousParentCertificateId ← array 32
    let signerSet ← SignatureSet.decode
    return {
      protocolVersion, networkId, parentHash, parentHeight, parentChainwork, observedNtime,
      certificateSequence, previousParentCertificateId, signerSet }

instance : UnsignedObject MaskSessionV2 where
  domainTag := "meshmine/mask-session/v2"
  encodeUnsigned self :=
    u16 self.protocolVersion ++ u8 self.networkId
    ++ (u16 self.laneId
    ++ (u64 self.sessionSequence
    ++ (fixed self.parentCertificateId
    ++ (fixed self.parentHash
    ++ (fixed self.hnsNetworkTarget
    ++ (fixed self.captureTarget
    ++ (fixed self.accountingTarget
    ++ (u16 self.leadingZeroPrefixQ
    ++ (u16 self.blindBandBitsD
    ++ (fixed self.maskHash
    ++ (fixed self.maskCommitmentRoot
    ++ (fixed self.maskCommitteeId
    ++ (u16 self.fastEvalPolicy
    ++ (u64 self.assignmentStartMs
    ++ (u64 self.assignmentEndMs
    ++ (u64 self.submissionEndMs
    ++ (u64 self.timedOpenAfterMs
    ++ fixed self.previousSessionId)))))))))))))))))

instance : CanonicalEncode MaskSessionV2 where
  encode self := unsignedBytes self ++ SignatureSet.encode self.signerSet

instance : CanonicalDecode MaskSessionV2 where
  decode := do
    let protocolVersion ← Decoder.u16
    let networkId ← Decoder.u8
    let laneId ← Decoder.u16
    let sessionSequence ← Decoder.u64
    let parentCertificateId ← array 32
    let parentHash ← array 32
    let hnsNetworkTarget ← array 32
    let captureTarget ← array 32
    let accountingTarget ← array 32
    let leadingZeroPrefixQ ← Decoder.u16
    let blindBandBitsD ← Decoder.u16
    let maskHash ← array 32
    let maskCommitmentRoot ← array 32
    let maskCommitteeId ← array 32
    let fastEvalPolicy ← Decoder.u16
    let assignmentStartMs ← Decoder.u64
    let assignmentEndMs ← Decoder.u64
    let submissionEndMs ← Decoder.u64
    let timedOpenAfterMs ← Decoder.u64
    let previousSessionId ← array 32
    let signerSet ← SignatureSet.decode
    return {
      protocolVersion, networkId, laneId, sessionSequence, parentCertificateId, parentHash,
      hnsNetworkTarget, captureTarget, accountingTarget, leadingZeroPrefixQ, blindBandBitsD,
      maskHash, maskCommitmentRoot, maskCommitteeId, fastEvalPolicy, assignmentStartMs,
      assignmentEndMs, submissionEndMs, timedOpenAfterMs, previousSessionId, signerSet }

instance : CanonicalEncode PayoutBucketV2 where
  encode self := unsignedBytes self ++ Encoder.bytes self.signature

instance : CanonicalDecode PayoutBucketV2 where
  decode := do
    let protocolVersion ← Decoder.u16
    let networkId ← Decoder.u8
    let operatorPubkey ← array 32
    let bucketSequence ← Decoder.u64
    let hnsAddressVersion ← Decoder.u8
    let hnsAddressHash ← Decoder.bytes maxAddressHashBytes
    let activationHeight ← Decoder.u32
    let retirementHeight ← Decoder.option Decoder.u32
    let signature ← Decoder.bytes maxSignatureBytes
    return {
      protocolVersion, networkId, operatorPubkey, bucketSequence, hnsAddressVersion,
      hnsAddressHash, activationHeight, retirementHeight, signature }

instance : CanonicalDecode GatewayContextManifestV1 where
  decode := do
    let coreProtocolVersion ← Decoder.u16
    let handoffVersion ← Decoder.u16
    let networkId ← Decoder.u8
    let contextSequence ← Decoder.u64
    let previousManifestId ← array 32
    let operatorPubkey ← array 32
    let gatewayPubkey ← array 32
    let coreHandoffPubkey ← array 32
    let validFromMs ← Decoder.u64
    let validUntilMs ← Decoder.u64
    let maximumFrameBytes ← Decoder.u32
    let maximumInFlight ← Decoder.u16
    let operatorSignature ← Decoder.bytes maxSignatureBytes
    return {
      coreProtocolVersion, handoffVersion, networkId, contextSequence, previousManifestId,
      operatorPubkey, gatewayPubkey, coreHandoffPubkey, validFromMs, validUntilMs,
      maximumFrameBytes, maximumInFlight, operatorSignature }

/-!
### Structural checks of a body package (`meshmine-body/src/lib.rs`)
-/

inductive BodyError where
  | templateContextMismatch
  | templateIdMismatch

def validateBodyPackage [Primitives] (package : BlockBodyPackageV2) : Except BodyError Unit :=
  if package.protocolVersion ≠ package.templateCore.protocolVersion
      ∨ package.networkId ≠ package.templateCore.networkId then
    .error .templateContextMismatch
  else if objectId package.templateCore ≠ package.templateCoreId then
    .error .templateIdMismatch
  else
    .ok ()

def validationResultHash [P : Primitives] (networkId : UInt8) (templateCoreId : Hash256)
    (coinbaseRaw : List UInt8) (transactionsRaw : List (List UInt8))
    : Hash256 :=
  domainHash "meshmine/consensus-validation-result/v3"
    (u16 2 ++ u8 networkId ++ fixed templateCoreId
      ++ Encoder.bytes coinbaseRaw ++ Encoder.list Encoder.bytes transactionsRaw)

end MeshMine.Types
