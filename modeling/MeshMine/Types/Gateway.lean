import MeshMine.Codec.RoundTrip
import MeshMine.Types.Common

/-!
The assignments (`meshmine-types/src/objects.rs`) and the signed objects of the gateway-to-Core handoff
(`meshmine-handoff/src/lib.rs`).
-/

namespace MeshMine.Types

open Codec
open Encoder (fixed u8 u16 u32 u64 fixed_append_inj u8_append_inj u16_append_inj u32_append_inj u64_append_inj)
open Decoder (array reads_array reads_u16 reads_u64)

structure AssignmentV2 where
  protocolVersion : UInt16
  networkId : UInt8
  sessionId : Hash256
  bodyPackageId : Hash256
  bodyCertificateId : Hash256
  operatorPubkey : PublicKey
  workerIdHash : Hash256
  payoutBucketId : Hash256
  assignmentSequence : UInt64
  ntime : UInt64
  extraNonce : ByteVec 24
  nonceStart : UInt32
  nonceEnd : UInt32
  nonceStride : UInt32
  edgeTarget : U256
  captureTarget : U256
  telemetryLevel : UInt8
  operatorSignature : SignatureBytes
deriving Inhabited

structure GatewayAssignmentV1 where
  coreProtocolVersion : UInt16
  handoffVersion : UInt16
  networkId : UInt8
  sessionId : Hash256
  bodyPackageId : Hash256
  bodyCertificateId : Hash256
  operatorPubkey : PublicKey
  gatewayPubkey : PublicKey
  coreHandoffPubkey : PublicKey
  workerIdHash : Hash256
  payoutBucketId : Hash256
  assignmentSequence : UInt64
  ntime : UInt64
  extraNonceProfile : UInt16
  observationPolicy : UInt16
  maximumClockSkewMs : UInt64
  extraNoncePrefix : ByteVec 4
  extraNonce2StartBe : ByteVec 4
  extraNonce2EndBe : ByteVec 4
  nonceStart : UInt32
  nonceEnd : UInt32
  nonceStride : UInt32
  edgeTarget : U256
  captureTarget : U256
  telemetryLevel : UInt8
  operatorSignature : SignatureBytes
deriving DecidableEq

structure GatewayContextManifestV1 where
  coreProtocolVersion : UInt16
  handoffVersion : UInt16
  networkId : UInt8
  contextSequence : UInt64
  previousManifestId : Hash256
  operatorPubkey : PublicKey
  gatewayPubkey : PublicKey
  coreHandoffPubkey : PublicKey
  validFromMs : UInt64
  validUntilMs : UInt64
  maximumFrameBytes : UInt32
  maximumInFlight : UInt16
  operatorSignature : SignatureBytes
deriving DecidableEq

structure GatewayCaptureEnvelopeV1 where
  coreProtocolVersion : UInt16
  handoffVersion : UInt16
  networkId : UInt8
  contextManifestId : Hash256
  assignmentId : Hash256
  sessionId : Hash256
  gatewayPubkey : PublicKey
  coreHandoffPubkey : PublicKey
  gatewaySequence : UInt64
  gatewayConnectionId : Hash256
  gatewayReceivedMs : UInt64
  ntime : UInt64
  extraNonce : ByteVec 24
  nonce : UInt32
  rawShareHash : Hash256
  gatewaySignature : SignatureBytes

structure GatewayAssignmentTransitionV1 where
  coreProtocolVersion : UInt16
  handoffVersion : UInt16
  networkId : UInt8
  contextManifestId : Hash256
  gatewayPubkey : PublicKey
  coreHandoffPubkey : PublicKey
  transitionSequence : UInt64
  previousAssignmentId : Hash256
  nextAssignmentId : Hash256
  previousAssignmentLastGatewaySequence : UInt64
  transitionMs : UInt64
  reasonCode : UInt16
  gatewaySignature : SignatureBytes
deriving DecidableEq

structure GatewayCaptureReceiptV1 where
  coreProtocolVersion : UInt16
  handoffVersion : UInt16
  networkId : UInt8
  contextManifestId : Hash256
  assignmentId : Hash256
  captureEnvelopeId : Hash256
  gatewayPubkey : PublicKey
  coreHandoffPubkey : PublicKey
  receiptSequence : UInt64
  coreReceivedMs : UInt64
  outcome : UInt8
  reasonCode : UInt16
  acceptedShareId : Hash256
  coreSignature : SignatureBytes

structure GatewayAssignmentDrainV1 where
  coreProtocolVersion : UInt16
  handoffVersion : UInt16
  networkId : UInt8
  contextManifestId : Hash256
  assignmentId : Hash256
  gatewayPubkey : PublicKey
  coreHandoffPubkey : PublicKey
  lastGatewaySequence : UInt64
  finalCaptureEnvelopeId : Hash256
  drainedMs : UInt64
  gatewaySignature : SignatureBytes
deriving DecidableEq

structure CoreAssignmentDrainReceiptV1 where
  coreProtocolVersion : UInt16
  handoffVersion : UInt16
  networkId : UInt8
  contextManifestId : Hash256
  assignmentId : Hash256
  gatewayDrainId : Hash256
  gatewayPubkey : PublicKey
  coreHandoffPubkey : PublicKey
  acceptedThroughGatewaySequence : UInt64
  receiptSequence : UInt64
  coreReceivedMs : UInt64
  outcome : UInt8
  reasonCode : UInt16
  coreSignature : SignatureBytes

instance : UnsignedObject AssignmentV2 where
  domainTag := "meshmine/assignment/v2"
  encodeUnsigned self :=
    u16 self.protocolVersion
    ++ (u8 self.networkId
    ++ (fixed self.sessionId
    ++ (fixed self.bodyPackageId
    ++ (fixed self.bodyCertificateId
    ++ (fixed self.operatorPubkey
    ++ (fixed self.workerIdHash
    ++ (fixed self.payoutBucketId
    ++ (u64 self.assignmentSequence
    ++ (u64 self.ntime
    ++ (fixed self.extraNonce
    ++ (u32 self.nonceStart
    ++ (u32 self.nonceEnd
    ++ (u32 self.nonceStride
    ++ (fixed self.edgeTarget
    ++ (fixed self.captureTarget
    ++ u8 self.telemetryLevel)))))))))))))))

instance : UnsignedObject GatewayAssignmentV1 where
  domainTag := "meshmine/gateway-assignment/v1"
  encodeUnsigned self :=
    u16 self.coreProtocolVersion
    ++ (u16 self.handoffVersion
    ++ (u8 self.networkId
    ++ (fixed self.sessionId
    ++ (fixed self.bodyPackageId
    ++ (fixed self.bodyCertificateId
    ++ (fixed self.operatorPubkey
    ++ (fixed self.gatewayPubkey
    ++ (fixed self.coreHandoffPubkey
    ++ (fixed self.workerIdHash
    ++ (fixed self.payoutBucketId
    ++ (u64 self.assignmentSequence
    ++ (u64 self.ntime
    ++ (u16 self.extraNonceProfile
    ++ (u16 self.observationPolicy
    ++ (u64 self.maximumClockSkewMs
    ++ (fixed self.extraNoncePrefix
    ++ (fixed self.extraNonce2StartBe
    ++ (fixed self.extraNonce2EndBe
    ++ (u32 self.nonceStart
    ++ (u32 self.nonceEnd
    ++ (u32 self.nonceStride
    ++ (fixed self.edgeTarget
    ++ (fixed self.captureTarget
    ++ u8 self.telemetryLevel)))))))))))))))))))))))

instance : CanonicalEncode GatewayAssignmentV1 where
  encode self := unsignedBytes self ++ Encoder.bytes self.operatorSignature

instance : CanonicalDecode GatewayAssignmentV1 where
  decode := do
    let coreProtocolVersion ← Decoder.u16
    let handoffVersion ← Decoder.u16
    let networkId ← Decoder.u8
    let sessionId ← array 32
    let bodyPackageId ← array 32
    let bodyCertificateId ← array 32
    let operatorPubkey ← array 32
    let gatewayPubkey ← array 32
    let coreHandoffPubkey ← array 32
    let workerIdHash ← array 32
    let payoutBucketId ← array 32
    let assignmentSequence ← Decoder.u64
    let ntime ← Decoder.u64
    let extraNonceProfile ← Decoder.u16
    let observationPolicy ← Decoder.u16
    let maximumClockSkewMs ← Decoder.u64
    let extraNoncePrefix ← array 4
    let extraNonce2StartBe ← array 4
    let extraNonce2EndBe ← array 4
    let nonceStart ← Decoder.u32
    let nonceEnd ← Decoder.u32
    let nonceStride ← Decoder.u32
    let edgeTarget ← array 32
    let captureTarget ← array 32
    let telemetryLevel ← Decoder.u8
    let operatorSignature ← Decoder.bytes maxSignatureBytes
    return {
      coreProtocolVersion, handoffVersion, networkId, sessionId, bodyPackageId,
      bodyCertificateId, operatorPubkey, gatewayPubkey, coreHandoffPubkey, workerIdHash,
      payoutBucketId, assignmentSequence, ntime, extraNonceProfile, observationPolicy,
      maximumClockSkewMs, extraNoncePrefix, extraNonce2StartBe, extraNonce2EndBe, nonceStart,
      nonceEnd, nonceStride, edgeTarget, captureTarget, telemetryLevel, operatorSignature }

instance : UnsignedObject GatewayContextManifestV1 where
  domainTag := "meshmine/gateway-context-manifest/v1"
  encodeUnsigned self :=
    u16 self.coreProtocolVersion
    ++ (u16 self.handoffVersion
    ++ (u8 self.networkId
    ++ (u64 self.contextSequence
    ++ (fixed self.previousManifestId
    ++ (fixed self.operatorPubkey
    ++ (fixed self.gatewayPubkey
    ++ (fixed self.coreHandoffPubkey
    ++ (u64 self.validFromMs
    ++ (u64 self.validUntilMs
    ++ (u32 self.maximumFrameBytes
    ++ u16 self.maximumInFlight))))))))))

instance : CanonicalEncode GatewayContextManifestV1 where
  encode self := unsignedBytes self ++ Encoder.bytes self.operatorSignature

instance : UnsignedObject GatewayCaptureEnvelopeV1 where
  domainTag := "meshmine/gateway-capture-envelope/v1"
  encodeUnsigned self :=
    u16 self.coreProtocolVersion
    ++ (u16 self.handoffVersion
    ++ (u8 self.networkId
    ++ (fixed self.contextManifestId
    ++ (fixed self.assignmentId
    ++ (fixed self.sessionId
    ++ (fixed self.gatewayPubkey
    ++ (fixed self.coreHandoffPubkey
    ++ (u64 self.gatewaySequence
    ++ (fixed self.gatewayConnectionId
    ++ (u64 self.gatewayReceivedMs
    ++ (u64 self.ntime
    ++ (fixed self.extraNonce
    ++ (u32 self.nonce
    ++ fixed self.rawShareHash)))))))))))))

instance : CanonicalEncode GatewayCaptureEnvelopeV1 where
  encode self := unsignedBytes self ++ Encoder.bytes self.gatewaySignature

instance : CanonicalDecode GatewayCaptureEnvelopeV1 where
  decode := do
    let coreProtocolVersion ← Decoder.u16
    let handoffVersion ← Decoder.u16
    let networkId ← Decoder.u8
    let contextManifestId ← array 32
    let assignmentId ← array 32
    let sessionId ← array 32
    let gatewayPubkey ← array 32
    let coreHandoffPubkey ← array 32
    let gatewaySequence ← Decoder.u64
    let gatewayConnectionId ← array 32
    let gatewayReceivedMs ← Decoder.u64
    let ntime ← Decoder.u64
    let extraNonce ← array 24
    let nonce ← Decoder.u32
    let rawShareHash ← array 32
    let gatewaySignature ← Decoder.bytes maxSignatureBytes
    return {
      coreProtocolVersion, handoffVersion, networkId, contextManifestId, assignmentId, sessionId,
      gatewayPubkey, coreHandoffPubkey, gatewaySequence, gatewayConnectionId, gatewayReceivedMs,
      ntime, extraNonce, nonce, rawShareHash, gatewaySignature }

instance : UnsignedObject GatewayAssignmentTransitionV1 where
  domainTag := "meshmine/gateway-assignment-transition/v1"
  encodeUnsigned self :=
    u16 self.coreProtocolVersion
    ++ (u16 self.handoffVersion
    ++ (u8 self.networkId
    ++ (fixed self.contextManifestId
    ++ (fixed self.gatewayPubkey
    ++ (fixed self.coreHandoffPubkey
    ++ (u64 self.transitionSequence
    ++ (fixed self.previousAssignmentId
    ++ (fixed self.nextAssignmentId
    ++ (u64 self.previousAssignmentLastGatewaySequence
    ++ (u64 self.transitionMs
    ++ u16 self.reasonCode))))))))))

instance : CanonicalEncode GatewayAssignmentTransitionV1 where
  encode self := unsignedBytes self ++ Encoder.bytes self.gatewaySignature

instance : UnsignedObject GatewayCaptureReceiptV1 where
  domainTag := "meshmine/gateway-capture-receipt/v1"
  encodeUnsigned self :=
    u16 self.coreProtocolVersion
    ++ (u16 self.handoffVersion
    ++ (u8 self.networkId
    ++ (fixed self.contextManifestId
    ++ (fixed self.assignmentId
    ++ (fixed self.captureEnvelopeId
    ++ (fixed self.gatewayPubkey
    ++ (fixed self.coreHandoffPubkey
    ++ (u64 self.receiptSequence
    ++ (u64 self.coreReceivedMs
    ++ (u8 self.outcome
    ++ (u16 self.reasonCode
    ++ fixed self.acceptedShareId)))))))))))

instance : CanonicalEncode GatewayCaptureReceiptV1 where
  encode self := unsignedBytes self ++ Encoder.bytes self.coreSignature

instance : CanonicalDecode GatewayCaptureReceiptV1 where
  decode := do
    let coreProtocolVersion ← Decoder.u16
    let handoffVersion ← Decoder.u16
    let networkId ← Decoder.u8
    let contextManifestId ← array 32
    let assignmentId ← array 32
    let captureEnvelopeId ← array 32
    let gatewayPubkey ← array 32
    let coreHandoffPubkey ← array 32
    let receiptSequence ← Decoder.u64
    let coreReceivedMs ← Decoder.u64
    let outcome ← Decoder.u8
    let reasonCode ← Decoder.u16
    let acceptedShareId ← array 32
    let coreSignature ← Decoder.bytes maxSignatureBytes
    return {
      coreProtocolVersion, handoffVersion, networkId, contextManifestId, assignmentId,
      captureEnvelopeId, gatewayPubkey, coreHandoffPubkey, receiptSequence, coreReceivedMs,
      outcome, reasonCode, acceptedShareId, coreSignature }

instance : UnsignedObject GatewayAssignmentDrainV1 where
  domainTag := "meshmine/gateway-assignment-drain/v1"
  encodeUnsigned self :=
    u16 self.coreProtocolVersion
    ++ (u16 self.handoffVersion
    ++ (u8 self.networkId
    ++ (fixed self.contextManifestId
    ++ (fixed self.assignmentId
    ++ (fixed self.gatewayPubkey
    ++ (fixed self.coreHandoffPubkey
    ++ (u64 self.lastGatewaySequence
    ++ (fixed self.finalCaptureEnvelopeId
    ++ u64 self.drainedMs))))))))

instance : CanonicalEncode GatewayAssignmentDrainV1 where
  encode self := unsignedBytes self ++ Encoder.bytes self.gatewaySignature

instance : UnsignedObject CoreAssignmentDrainReceiptV1 where
  domainTag := "meshmine/core-assignment-drain-receipt/v1"
  encodeUnsigned self :=
    u16 self.coreProtocolVersion
    ++ (u16 self.handoffVersion
    ++ (u8 self.networkId
    ++ (fixed self.contextManifestId
    ++ (fixed self.assignmentId
    ++ (fixed self.gatewayDrainId
    ++ (fixed self.gatewayPubkey
    ++ (fixed self.coreHandoffPubkey
    ++ (u64 self.acceptedThroughGatewaySequence
    ++ (u64 self.receiptSequence
    ++ (u64 self.coreReceivedMs
    ++ (u8 self.outcome
    ++ u16 self.reasonCode)))))))))))

instance : CanonicalEncode CoreAssignmentDrainReceiptV1 where
  encode self := unsignedBytes self ++ Encoder.bytes self.coreSignature

def GatewayAssignmentV1.acceptsExtraNonce (assignment : GatewayAssignmentV1)
    (extraNonce : ByteVec 24) : Bool :=
  let extraNonce2 := (extraNonce.toList.drop 4).take 4
  assignment.extraNonceProfile = gatewayExtraNonceProfile
    && assignment.extraNonce2StartBe ≤ assignment.extraNonce2EndBe
    && extraNonce.toList.take 4 = assignment.extraNoncePrefix.toList
    && assignment.extraNonce2StartBe.toList ≤ extraNonce2
    && extraNonce2 ≤ assignment.extraNonce2EndBe.toList
    && (extraNonce.toList.drop 8).all (· = 0)

/-!
### The recorded bytes determine the object
-/

theorem GatewayCaptureEnvelopeV1.toCanonicalBytes_inj {a b : GatewayCaptureEnvelopeV1}
    : toCanonicalBytes a = toCanonicalBytes b ↔ a = b := by
  cases a
  cases b
  simp [toCanonicalBytes, CanonicalEncode.encode, unsignedBytes, UnsignedObject.encodeUnsigned, Encoder.bytes_inj]

theorem GatewayCaptureReceiptV1.toCanonicalBytes_inj {a b : GatewayCaptureReceiptV1}
    : toCanonicalBytes a = toCanonicalBytes b ↔ a = b := by
  cases a
  cases b
  simp [toCanonicalBytes, CanonicalEncode.encode, unsignedBytes, UnsignedObject.encodeUnsigned, Encoder.bytes_inj]

theorem GatewayAssignmentV1.toCanonicalBytes_inj {a b : GatewayAssignmentV1}
    : toCanonicalBytes a = toCanonicalBytes b ↔ a = b := by
  cases a
  cases b
  simp [toCanonicalBytes, CanonicalEncode.encode, unsignedBytes, UnsignedObject.encodeUnsigned, Encoder.bytes_inj]

theorem GatewayAssignmentDrainV1.toCanonicalBytes_inj {a b : GatewayAssignmentDrainV1}
    : toCanonicalBytes a = toCanonicalBytes b ↔ a = b := by
  cases a
  cases b
  simp [toCanonicalBytes, CanonicalEncode.encode, unsignedBytes, UnsignedObject.encodeUnsigned, Encoder.bytes_inj]

/-!
### What was recorded is read back
-/

theorem GatewayCaptureEnvelopeV1.decode_toCanonicalBytes {envelope : GatewayCaptureEnvelopeV1}
    {limits : DecodeLimits} (hsignature : envelope.gatewaySignature.length = 64)
    (hlimits : 512 ≤ limits.maxObjectBytes)
    : fromCanonicalBytes (toCanonicalBytes envelope) limits = .ok envelope := by
  apply Decoder.Reads.fromCanonicalBytes
  . unfold toCanonicalBytes CanonicalEncode.encode instCanonicalEncodeGatewayCaptureEnvelopeV1
    unfold unsignedBytes UnsignedObject.encodeUnsigned instUnsignedObjectGatewayCaptureEnvelopeV1
    simp only [List.append_assoc]
    apply (reads_u16 _).bind
    apply (reads_u16 _).bind
    apply (Decoder.reads_u8 _).bind
    apply (reads_array _).bind
    apply (reads_array _).bind
    apply (reads_array _).bind
    apply (reads_array _).bind
    apply (reads_array _).bind
    apply (reads_u64 _).bind
    apply (reads_array _).bind
    apply (reads_u64 _).bind
    apply (reads_u64 _).bind
    apply (reads_array _).bind
    apply (Decoder.reads_u32 _).bind
    apply (reads_array _).bind
    apply Decoder.Reads.map (Decoder.reads_bytes _ _ _)
    . omega
    . unfold maxSignatureBytes
      omega
    . omega
  . have hvarint : Encoder.varint (UInt64.ofNat 64) = [64] := by decide
    simp only [toCanonicalBytes, CanonicalEncode.encode, unsignedBytes, UnsignedObject.encodeUnsigned,
      Encoder.bytes, hsignature, hvarint, List.length_append, Encoder.length_u8, Encoder.length_u16,
      Encoder.length_u32, Encoder.length_u64, Encoder.length_fixed, List.length_singleton]
    omega

end MeshMine.Types
