import MeshMine.Types.Session

/-!
The canonical encoding of payout snapshots (`meshmine-types/src/objects.rs`), and the snapshots that its
decoder returns unchanged.
-/

namespace MeshMine.Types

open Codec
open Decoder (array reads_array reads_u8 reads_u16 reads_bytes)

def WorkBucketLeaf.decode : Decoder WorkBucketLeaf := do
  let bucketId ← array 32
  let operatorPubkey ← array 32
  let hnsAddressVersion ← Decoder.u8
  let hnsAddressHash ← Decoder.bytes maxAddressHashBytes
  let creditedWork ← array 64
  return { bucketId, operatorPubkey, hnsAddressVersion, hnsAddressHash, creditedWork }

def ServiceBucketLeaf.decode : Decoder ServiceBucketLeaf := do
  let bucketId ← array 32
  let operatorPubkey ← array 32
  let hnsAddressVersion ← Decoder.u8
  let hnsAddressHash ← Decoder.bytes maxAddressHashBytes
  let certifiedServiceCredit ← array 64
  return { bucketId, operatorPubkey, hnsAddressVersion, hnsAddressHash, certifiedServiceCredit }

def validateBucketOrder {α : Type} (bucketId : α → Hash256) (values : List α)
    : Except ObjectError Unit :=
  if go values then .error .unsortedBuckets else .ok ()
where
  go : List α → Bool
    | first :: second :: rest => decide (bucketId second ≤ bucketId first) || go (second :: rest)
    | _ => false

theorem validateBucketOrder_go_eq_false {α : Type} {bucketId : α → Hash256} {values : List α}
    (h : (values.map bucketId).Pairwise (· < ·))
    : validateBucketOrder.go bucketId values = false := by
  induction values with
  | nil => rfl
  | cons first values ih =>
    cases values with
    | nil => rfl
    | cons second rest =>
      rw [List.map_cons, List.pairwise_cons] at h
      have hfirst := h.1 (bucketId second) (by simp)
      unfold validateBucketOrder.go
      rw [ih h.2, decide_eq_false (not_le.mpr hfirst)]
      rfl

theorem validateBucketOrder_eq_ok {α : Type} {bucketId : α → Hash256} {values : List α}
    (h : (values.map bucketId).Pairwise (· < ·))
    : validateBucketOrder bucketId values = .ok () := by
  unfold validateBucketOrder
  rw [validateBucketOrder_go_eq_false h]
  rfl

def PayoutSnapshotV2.validate (snapshot : PayoutSnapshotV2) : Except ObjectError Unit := do
  validateBucketOrder WorkBucketLeaf.bucketId snapshot.workBuckets
  validateBucketOrder ServiceBucketLeaf.bucketId snapshot.serviceBuckets
  snapshot.signerSet.validateOrder

instance : CanonicalEncode PayoutSnapshotV2 where
  encode self := unsignedBytes self ++ self.signerSet.encode

instance : CanonicalDecode PayoutSnapshotV2 where
  decode := do
    let protocolVersion ← Decoder.u16
    let networkId ← Decoder.u8
    let snapshotSequence ← Decoder.u64
    let previousSnapshotId ← array 32
    let firstSessionCloseId ← array 32
    let lastSessionCloseId ← array 32
    let closeAnchorHeight ← Decoder.u32
    let workWindowTarget ← array 64
    let actualWorkInWindow ← array 64
    let workBuckets ← Decoder.list maxBuckets WorkBucketLeaf.decode
    let serviceBuckets ← Decoder.list maxBuckets ServiceBucketLeaf.decode
    let shareSetRoot ← array 32
    let serviceSetRoot ← array 32
    let settlementCommitteeId ← array 32
    let signerSet ← SignatureSet.decode
    let result : PayoutSnapshotV2 := {
      protocolVersion, networkId, snapshotSequence, previousSnapshotId, firstSessionCloseId,
      lastSessionCloseId, closeAnchorHeight, workWindowTarget, actualWorkInWindow, workBuckets,
      serviceBuckets, shareSetRoot, serviceSetRoot, settlementCommitteeId, signerSet }
    match result.validate with
    | .error _ => throw (.invalidField "invalid payout snapshot ordering")
    | .ok _ => return result

/-!
### What the decoder returns
-/

variable {limits : DecodeLimits}

theorem WorkBucketLeaf.reads {leaf : WorkBucketLeaf} (h : leaf.hnsAddressHash.length ≤ maxAddressHashBytes)
    (hlimits : leaf.hnsAddressHash.length ≤ limits.maxObjectBytes)
    : Decoder.Reads limits WorkBucketLeaf.decode leaf.encode leaf := by
  unfold WorkBucketLeaf.encode
  simp only [List.append_assoc]
  apply (reads_array _).bind
  apply (reads_array _).bind
  apply (reads_u8 _).bind
  apply (reads_bytes (by unfold maxAddressHashBytes at h; omega) h hlimits).bind
  apply (reads_array _).map

theorem ServiceBucketLeaf.reads {leaf : ServiceBucketLeaf} (h : leaf.hnsAddressHash.length ≤ maxAddressHashBytes)
    (hlimits : leaf.hnsAddressHash.length ≤ limits.maxObjectBytes)
    : Decoder.Reads limits ServiceBucketLeaf.decode leaf.encode leaf := by
  unfold ServiceBucketLeaf.encode
  simp only [List.append_assoc]
  apply (reads_array _).bind
  apply (reads_array _).bind
  apply (reads_u8 _).bind
  apply (reads_bytes (by unfold maxAddressHashBytes at h; omega) h hlimits).bind
  apply (reads_array _).map

theorem SignerSignature.reads {signer : SignerSignature} (h : signer.signature.length ≤ maxSignatureBytes)
    (hlimits : signer.signature.length ≤ limits.maxObjectBytes)
    : Decoder.Reads limits SignerSignature.decode signer.encode signer := by
  have hsize : signer.signature.length < 2 ^ 64 := by
    unfold maxSignatureBytes at h
    omega
  apply (reads_array _).bind
  apply (reads_bytes hsize h hlimits).map

structure SignatureSet.WellFormed (set : SignatureSet) : Prop where
  ordered : set.validateOrder = .ok ()
  count_le : set.signatures.length ≤ maxCertificateSigners
  signature_le : ∀ signer ∈ set.signatures, signer.signature.length ≤ maxSignatureBytes

theorem SignatureSet.reads {set : SignatureSet} (h : set.WellFormed)
    (hitems : set.signatures.length ≤ limits.maxVectorItems)
    (hbytes : ∀ signer ∈ set.signatures, signer.signature.length ≤ limits.maxObjectBytes)
    : Decoder.Reads limits SignatureSet.decode set.encode set := by
  have hcount := h.count_le
  unfold maxCertificateSigners at hcount
  have hsigners : Decoder.Reads limits (Decoder.list maxCertificateSigners SignerSignature.decode)
      (Encoder.list SignerSignature.encode set.signatures) set.signatures := by
    apply Decoder.reads_list _ (by omega) h.count_le hitems
    intro signer hmem
    exact SignerSignature.reads (h.signature_le signer hmem) (hbytes signer hmem)
  unfold SignatureSet.encode
  apply (reads_u16 _).bind
  rw [← List.append_nil (Encoder.list _ _)]
  apply hsigners.bind
  dsimp only
  rw [h.ordered]
  apply Decoder.reads_pure

structure PayoutSnapshotV2.WellFormed (snapshot : PayoutSnapshotV2) : Prop where
  work_ordered : (snapshot.workBuckets.map (·.bucketId)).Pairwise (· < ·)
  service_ordered : (snapshot.serviceBuckets.map (·.bucketId)).Pairwise (· < ·)
  work_le : snapshot.workBuckets.length ≤ maxBuckets
  service_le : snapshot.serviceBuckets.length ≤ maxBuckets
  workAddress_le : ∀ leaf ∈ snapshot.workBuckets, leaf.hnsAddressHash.length ≤ maxAddressHashBytes
  serviceAddress_le : ∀ leaf ∈ snapshot.serviceBuckets, leaf.hnsAddressHash.length ≤ maxAddressHashBytes
  signerSet : snapshot.signerSet.WellFormed

theorem PayoutSnapshotV2.decode_toCanonicalBytes {snapshot : PayoutSnapshotV2} (h : snapshot.WellFormed)
    (hbytes : (toCanonicalBytes snapshot).length ≤ limits.maxObjectBytes)
    (hwork : snapshot.workBuckets.length ≤ limits.maxVectorItems)
    (hservice : snapshot.serviceBuckets.length ≤ limits.maxVectorItems)
    (hsigners : snapshot.signerSet.signatures.length ≤ limits.maxVectorItems)
    : fromCanonicalBytes (toCanonicalBytes snapshot) limits = .ok snapshot := by
  have hvalidate : snapshot.validate = .ok () := by
    unfold PayoutSnapshotV2.validate
    rw [validateBucketOrder_eq_ok h.work_ordered, validateBucketOrder_eq_ok h.service_ordered]
    exact h.signerSet.ordered
  have hlength : (Encoder.list WorkBucketLeaf.encode snapshot.workBuckets).length
        + (Encoder.list ServiceBucketLeaf.encode snapshot.serviceBuckets).length
        + (Encoder.list SignerSignature.encode snapshot.signerSet.signatures).length
      ≤ limits.maxObjectBytes := by
    simp only [toCanonicalBytes, CanonicalEncode.encode, unsignedBytes, UnsignedObject.encodeUnsigned,
      SignatureSet.encode, List.length_append] at hbytes
    omega
  have hworkLeaf : ∀ leaf ∈ snapshot.workBuckets,
      Decoder.Reads limits WorkBucketLeaf.decode leaf.encode leaf := by
    intro leaf hmem
    apply WorkBucketLeaf.reads (h.workAddress_le leaf hmem)
    have hleaf := Encoder.length_le_length_list WorkBucketLeaf.encode hmem
    have haddress := Encoder.length_le_length_bytes leaf.hnsAddressHash
    simp only [WorkBucketLeaf.encode, List.length_append] at hleaf
    omega
  have hserviceLeaf : ∀ leaf ∈ snapshot.serviceBuckets,
      Decoder.Reads limits ServiceBucketLeaf.decode leaf.encode leaf := by
    intro leaf hmem
    apply ServiceBucketLeaf.reads (h.serviceAddress_le leaf hmem)
    have hleaf := Encoder.length_le_length_list ServiceBucketLeaf.encode hmem
    have haddress := Encoder.length_le_length_bytes leaf.hnsAddressHash
    simp only [ServiceBucketLeaf.encode, List.length_append] at hleaf
    omega
  have hsignerSet : Decoder.Reads limits SignatureSet.decode snapshot.signerSet.encode snapshot.signerSet := by
    apply SignatureSet.reads h.signerSet hsigners
    intro signer hmem
    have hsigner := Encoder.length_le_length_list SignerSignature.encode hmem
    have hsignature := Encoder.length_le_length_bytes signer.signature
    simp only [SignerSignature.encode, List.length_append] at hsigner
    omega
  have hmax : maxBuckets < 2 ^ 64 := by decide
  apply Decoder.Reads.fromCanonicalBytes _ hbytes
  unfold toCanonicalBytes CanonicalEncode.encode instCanonicalEncodePayoutSnapshotV2
  unfold unsignedBytes UnsignedObject.encodeUnsigned instUnsignedObjectPayoutSnapshotV2
  simp only [List.append_assoc]
  apply (reads_u16 _).bind
  apply (reads_u8 _).bind
  apply (Decoder.reads_u64 _).bind
  apply (reads_array _).bind
  apply (reads_array _).bind
  apply (reads_array _).bind
  apply (Decoder.reads_u32 _).bind
  apply (reads_array _).bind
  apply (reads_array _).bind
  apply (Decoder.reads_list hworkLeaf (h.work_le.trans_lt hmax) h.work_le hwork).bind
  apply (Decoder.reads_list hserviceLeaf (h.service_le.trans_lt hmax) h.service_le hservice).bind
  apply (reads_array _).bind
  apply (reads_array _).bind
  apply (reads_array _).bind
  rw [← List.append_nil snapshot.signerSet.encode]
  apply hsignerSet.bind
  dsimp only
  rw [hvalidate]
  apply Decoder.reads_pure

end MeshMine.Types
