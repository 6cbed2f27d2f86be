import MeshMine.Data.Except
import MeshMine.Types.Common

/-!
Signatures over protocol objects (`meshmine-crypto/src/lib.rs`). A signature covers a context-bound hash
of the object's identifier.
-/

namespace MeshMine.Crypto

open MeshMine.Types Codec
open Except (rejectIf)

inductive CryptoError where
  | unsupportedSuite (suite : UInt16)
  | invalidPublicKey
  | invalidSignatureLength (length : Nat)
  | verificationFailed
  | duplicateSigner
deriving DecidableEq

variable [P : Primitives] {α : Type} [UnsignedObject α]

def signatureMessage (networkId : UInt8) (object : α) : Hash256 :=
  domainHash "meshmine/signature-context/v2"
    (Encoder.u16 coreV2 ++ Encoder.u8 networkId ++ Encoder.bytes (asciiBytes (UnsignedObject.domainTag α))
      ++ Encoder.fixed (objectId object))

def signObject (signingKey : ByteVec 32) (networkId : UInt8) (object : α) : SignatureBytes :=
  (P.ed25519Sign signingKey (signatureMessage networkId object).toList).toList

def verifyMessage (verifyingKey : PublicKey) (signatureSuite : UInt16) (signature : SignatureBytes)
    (message : List UInt8) : Except CryptoError Unit :=
  if signatureSuite ≠ ed25519Suite then
    .error (.unsupportedSuite signatureSuite)
  else if ¬ P.ed25519ValidKey verifyingKey then
    .error .invalidPublicKey
  else if h : signature.length = 64 then
    if P.ed25519Verify verifyingKey message ⟨signature, h⟩ then
      .ok ()
    else
      .error .verificationFailed
  else
    .error (.invalidSignatureLength signature.length)

def verifyObject (verifyingKey : PublicKey) (signatureSuite : UInt16) (signature : SignatureBytes)
    (networkId : UInt8) (object : α) : Except CryptoError Unit :=
  verifyMessage verifyingKey signatureSuite signature (signatureMessage networkId object).toList

def signCertificate (signingKey : ByteVec 32) (networkId : UInt8) (object : α) : SignerSignature where
  signerPubkey := P.ed25519Public signingKey
  signature := signObject signingKey networkId object

def verifyCertificate (signerSet : SignatureSet) (networkId : UInt8) (object : α)
    : Except CryptoError Unit := do
  rejectIf (signerSet.signatureSuite ≠ ed25519Suite) (.unsupportedSuite signerSet.signatureSuite)
  signerSet.validateOrder.mapError fun _ => .duplicateSigner
  let message := (signatureMessage networkId object).toList
  signerSet.signatures.forM fun entry =>
    verifyMessage entry.signerPubkey signerSet.signatureSuite entry.signature message

end MeshMine.Crypto
