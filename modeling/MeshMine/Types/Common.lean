import MeshMine.Codec.Basic
import MeshMine.Data.Ordered
import MeshMine.Hns.Header

/-!
What the protocol objects share: signature sets, bucket leaves, object identifiers and the
domain-separated hash (`meshmine-types/src/common.rs`).
-/

namespace MeshMine.Types

open Codec
open Encoder (fixed u8 u16)

abbrev U256 := ByteVec 32
abbrev U512 := ByteVec 64

abbrev PublicKey := ByteVec 32

instance : LawfulBEq PublicKey := inferInstance

def coreV2 : UInt16 := 2
def gatewayHandoffV1 : UInt16 := 1
def gatewayExtraNonceProfile : UInt16 := 1
def gatewayObservationCoreReceiptTime : UInt16 := 1
def gatewayObservationDelegatedSignedTimeV1 : UInt16 := 2
def maxGatewayClockSkewMs : UInt64 := 5 * 60 * 1000
def ed25519Suite : UInt16 := 1
def maxAddressHashBytes : Nat := 64
def maxSignatureBytes : Nat := 128
def maxCertificateSigners : Nat := 4096
def maxObjectHashes : Nat := 100000
def maxBuckets : Nat := 100000
def maxBodyBytes : Nat := 4 * 1024 * 1024

abbrev SignatureBytes := List UInt8

structure SignerSignature where
  signerPubkey : PublicKey
  signature : SignatureBytes
deriving DecidableEq

structure SignatureSet where
  signatureSuite : UInt16
  signatures : List SignerSignature
deriving DecidableEq

def SignatureSet.emptyEd25519 : SignatureSet where
  signatureSuite := ed25519Suite
  signatures := []

inductive ObjectError where
  | codec (error : CodecError)
  | unsortedSigners
  | unsortedBuckets
  | unsortedReceiptEntries
  | receiptLengthMismatch
  | unsortedDagParents
  | nonAsciiDomain
deriving DecidableEq

def SignatureSet.validateOrder (set : SignatureSet) : Except ObjectError Unit :=
  if go set.signatures then .error .unsortedSigners else .ok ()
where
  go : List SignerSignature → Bool
    | first :: second :: rest => decide (second.signerPubkey ≤ first.signerPubkey) || go (second :: rest)
    | _ => false

structure WorkBucketLeaf where
  bucketId : Hash256
  operatorPubkey : PublicKey
  hnsAddressVersion : UInt8
  hnsAddressHash : List UInt8
  creditedWork : U512
deriving DecidableEq

structure ServiceBucketLeaf where
  bucketId : Hash256
  operatorPubkey : PublicKey
  hnsAddressVersion : UInt8
  hnsAddressHash : List UInt8
  certifiedServiceCredit : U512
deriving DecidableEq

def SignerSignature.encode (signer : SignerSignature) : List UInt8 :=
  fixed signer.signerPubkey ++ Encoder.bytes signer.signature

def SignatureSet.encode (set : SignatureSet) : List UInt8 :=
  u16 set.signatureSuite ++ Encoder.list SignerSignature.encode set.signatures

def WorkBucketLeaf.encode (leaf : WorkBucketLeaf) : List UInt8 :=
  fixed leaf.bucketId ++ fixed leaf.operatorPubkey
    ++ u8 leaf.hnsAddressVersion ++ Encoder.bytes leaf.hnsAddressHash
    ++ fixed leaf.creditedWork

def ServiceBucketLeaf.encode (leaf : ServiceBucketLeaf) : List UInt8 :=
  fixed leaf.bucketId ++ fixed leaf.operatorPubkey
    ++ u8 leaf.hnsAddressVersion ++ Encoder.bytes leaf.hnsAddressHash
    ++ fixed leaf.certifiedServiceCredit

def asciiBytes (text : String) : List UInt8 :=
  text.toUTF8.data.toList

def domainHash [P : Primitives] (domain : String) (body : List UInt8) : Hash256 :=
  P.blake2b256 (Encoder.bytes (asciiBytes domain) ++ body)

class UnsignedObject (α : Type) where
  domainTag : String
  encodeUnsigned : α → List UInt8

def unsignedBytes {α : Type} [UnsignedObject α] (object : α) : List UInt8 :=
  UnsignedObject.encodeUnsigned object

def objectId {α : Type} [Primitives] [UnsignedObject α] (object : α) : Hash256 :=
  domainHash (UnsignedObject.domainTag α) (unsignedBytes object)

end MeshMine.Types
