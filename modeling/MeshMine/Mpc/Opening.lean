import MeshMine.Codec.RoundTrip
import MeshMine.Crypto.Signature
import MeshMine.Hns.Merkle
import MeshMine.Mpc.Mask
import MeshMine.Storage.Journal

/-!
Opening a shared mask (`timed_open` and `reconstruct_verified` of `meshmine-mpc-api/src/lib.rs`).
-/

namespace MeshMine.Mpc

open MeshMine.Types Codec Storage Hns
open Except (rejectIf)

structure VssSetup where
  sessionBinding : Hash256
  parentHash : Hash256
  maskHash : Hash256
  maskCommitmentRoot : Hash256
  transcriptRoot : Hash256
  leadingZeroPrefixQ : UInt16
  blindBandBitsD : UInt16
  threshold : UInt8
  timedOpenAfterMs : UInt64
  members : List PublicKey
  shareCommitments : List Hash256
deriving DecidableEq

structure OpeningShare where
  sessionBinding : Hash256
  memberPubkey : PublicKey
  x : UInt8
  values : Hash256
  signature : SignatureBytes
deriving DecidableEq

structure OpenedMask where
  mask : Hash256
  openingTranscriptRoot : Hash256
  validOpeningMembers : List PublicKey
deriving DecidableEq

structure TimedOpeningGate where
  timedOpenAfterMs : UInt64
  acceptedBoundaryFixed : Bool

inductive MpcError where
  | invalidThreshold
  | invalidMaskParameters
  | duplicateMember
  | openingTooEarly
  | boundaryNotFixed
  | invalidOpeningBinding
  | invalidOpeningCommitment
  | invalidOpeningSignature
  | insufficientOpeningShares
  | maskHashMismatch
  | maskConstraintViolation
  | missingOpeningMaterial
  | sessionReuse
  | sessionRetired
  | openingMaterialConflict
  | storage (error : StorageError)
  | codec (error : CodecError)
  -- Not of the source, where a setup that finds no mask goes on drawing.
  | outOfRounds
deriving DecidableEq

instance : FromStorageError MpcError := ⟨.storage⟩

section

variable [P : Primitives]

def openingBody (binding : Hash256) (pubkey : PublicKey) (x : UInt8) (values : Hash256) : List UInt8 :=
  Encoder.fixed binding ++ Encoder.fixed pubkey ++ Encoder.u8 x ++ Encoder.fixed values

def openingCommitment (binding : Hash256) (pubkey : PublicKey) (x : UInt8) (values : Hash256) : Hash256 :=
  domainHash "meshmine/opening-share-commitment/v2" (openingBody binding pubkey x values)

def openingMessage (binding : Hash256) (pubkey : PublicKey) (x : UInt8) (values : Hash256) : Hash256 :=
  domainHash "meshmine/mask-opening-share/v2" (openingBody binding pubkey x values)

def OpeningShare.commitment (share : OpeningShare) : Hash256 :=
  openingCommitment share.sessionBinding share.memberPubkey share.x share.values

def OpeningShare.message (share : OpeningShare) : Hash256 :=
  openingMessage share.sessionBinding share.memberPubkey share.x share.values

def verifyOpeningSignature (share : OpeningShare) : Except MpcError Unit :=
  if ¬ P.ed25519ValidKey share.memberPubkey then
    .error .invalidOpeningSignature
  else if h : share.signature.length = 64 then
    rejectIf (¬ P.ed25519Verify share.memberPubkey share.message.toList ⟨share.signature, h⟩)
      .invalidOpeningSignature
  else
    .error .invalidOpeningSignature

/-- What is assumed of ed25519 where genuine signatures have to be accepted. -/
structure SignaturesVerify : Prop where
  validKey : ∀ key, P.ed25519ValidKey (P.ed25519Public key) = true
  verify : ∀ key message, P.ed25519Verify (P.ed25519Public key) message (P.ed25519Sign key message) = true

/-- The loop over the shares; `seenX` holds the points of those before. A setup with fewer commitments than members
makes the source panic; here it is a mismatch. -/
def verifyShares (setup : VssSetup) : List OpeningShare → List UInt8 → Except MpcError Unit
  | [], _ => .ok ()
  | share :: shares, seenX =>
    match setup.members.findIdx? (· = share.memberPubkey) with
    | none => .error .invalidOpeningBinding
    | some memberIndex => do
      rejectIf (share.sessionBinding ≠ setup.sessionBinding ∨ share.x.toNat ≠ memberIndex + 1 ∨ share.x ∈ seenX)
        .invalidOpeningBinding
      rejectIf (setup.shareCommitments[memberIndex]? ≠ some share.commitment) .invalidOpeningCommitment
      verifyOpeningSignature share
      verifyShares setup shares (share.x :: seenX)

def sortByPoint (shares : List OpeningShare) : List OpeningShare :=
  shares.insertionSort fun a b => a.x ≤ b.x

def openedMask (mask : Hash256) (valid : List OpeningShare) : OpenedMask where
  mask := mask
  openingTranscriptRoot := merkleRoot (valid.map (·.commitment))
  validOpeningMembers := valid.map (·.memberPubkey)

def reconstructVerified (setup : VssSetup) (openingShares : List OpeningShare) : Except MpcError OpenedMask := do
  rejectIf (merkleRoot setup.shareCommitments ≠ setup.maskCommitmentRoot) .invalidOpeningCommitment
  verifyShares setup openingShares []
  rejectIf (openingShares.length < setup.threshold.toNat) .insufficientOpeningShares
  let valid := sortByPoint openingShares
  let mask := shamirReconstruct ((valid.take setup.threshold.toNat).map fun share => (share.x, share.values))
  rejectIf (¬ maskConstraintsValid mask setup.leadingZeroPrefixQ.toNat setup.blindBandBitsD.toNat)
    .maskConstraintViolation
  rejectIf (P.blake2b256 (setup.parentHash.toList ++ mask.toList) ≠ setup.maskHash) .maskHashMismatch
  return openedMask mask valid

/-- After its two checks the source repeats the body of `reconstruct_verified`. -/
def timedOpen (setup : VssSetup) (openingShares : List OpeningShare) (gate : TimedOpeningGate) (nowMs : UInt64)
    : Except MpcError OpenedMask := do
  rejectIf (¬ gate.acceptedBoundaryFixed) .boundaryNotFixed
  rejectIf (nowMs < gate.timedOpenAfterMs ∨ nowMs < setup.timedOpenAfterMs) .openingTooEarly
  reconstructVerified setup openingShares

end

def encodeOpeningShare (share : OpeningShare) : List UInt8 :=
  Encoder.fixed share.sessionBinding ++ (Encoder.fixed share.memberPubkey ++ (Encoder.u8 share.x
    ++ (Encoder.fixed share.values ++ Encoder.bytes share.signature)))

def OpeningShare.decode : Decoder OpeningShare := do
  let sessionBinding ← Decoder.array 32
  let memberPubkey ← Decoder.array 32
  let x ← Decoder.u8
  let values ← Decoder.array 32
  let signature ← Decoder.bytes 128
  return { sessionBinding, memberPubkey, x, values, signature }

def decodeOpeningShare (bytes : List UInt8) : Except MpcError OpeningShare :=
  (Decoder.fromCanonicalBytes OpeningShare.decode bytes .default).mapError .codec

theorem decodeOpeningShare_encodeOpeningShare {share : OpeningShare} (h : share.signature.length ≤ 128)
    : decodeOpeningShare (encodeOpeningShare share) = .ok share := by
  have hreads : Decoder.Reads .default OpeningShare.decode (encodeOpeningShare share) share := by
    apply (Decoder.reads_array _).bind
    apply (Decoder.reads_array _).bind
    apply (Decoder.reads_u8 _).bind
    apply (Decoder.reads_array _).bind
    apply (Decoder.reads_bytes (by omega) h _).map
    exact h.trans (by decide)
  have hlength : (encodeOpeningShare share).length ≤ DecodeLimits.default.maxObjectBytes := by
    have hsignature := Encoder.length_bytes_le share.signature
    unfold encodeOpeningShare
    simp only [List.length_append, Encoder.length_fixed, Encoder.length_u8]
    change _ ≤ 4 * 1024 * 1024
    omega
  unfold decodeOpeningShare
  rw [hreads.fromCanonicalBytes hlength]
  rfl

/-!
### Shares that a setup takes
-/

theorem findIdx?_eq_of_nodup {α : Type} [DecidableEq α] {as : List α} (hnodup : as.Nodup) {index : Nat} {a : α}
    (h : as[index]? = some a)
    : as.findIdx? (· = a) = some index := by
  obtain ⟨hlt, heq⟩ := List.getElem?_eq_some_iff.mp h
  rw [List.findIdx?_eq_some_iff_getElem]
  refine ⟨hlt, decide_eq_true heq, ?_⟩
  intro j hj hmem
  have hj' : as[j] = as[index] := by simpa [heq] using hmem
  have := (hnodup.getElem_inj_iff).mp hj'
  omega

variable {shares : List OpeningShare} {mask : Hash256}

theorem shamirReconstruct_sortByPoint (hpoints : (shares.map (·.x)).Nodup) {threshold : Nat}
    (hthreshold : threshold ≤ shares.length) {polynomials : List (List UInt8)}
    (hpolynomials : ∀ coefficients ∈ polynomials, coefficients.length ≤ threshold)
    (hvalues : ∀ share ∈ shares, share.values.toList = polynomials.map fun coefficients => gfEval coefficients share.x)
    (hmask : mask.toList = polynomials.map fun coefficients => gfEval coefficients 0)
    : shamirReconstruct (((sortByPoint shares).take threshold).map fun share => (share.x, share.values)) = mask := by
  have hperm : (sortByPoint shares).Perm shares := List.perm_insertionSort _ _
  apply ByteVec.ext
  rw [hmask]
  apply shamirReconstruct_eq
  . rw [List.map_map]
    apply List.Nodup.sublist ((List.take_sublist _ _).map _)
    exact (hperm.map _).nodup_iff.mpr hpoints
  . rw [← List.length_map (f := fun coefficients => gfEval coefficients 0), ← hmask, mask.length_toList]
  . intro coefficients hmem
    rw [List.length_map, List.length_take, hperm.length_eq, Nat.min_eq_left hthreshold]
    exact hpolynomials coefficients hmem
  . intro share hmem
    obtain ⟨opening, hopening, rfl⟩ := List.mem_map.mp hmem
    exact hvalues opening (hperm.mem_iff.mp (List.mem_of_mem_take hopening))

variable [P : Primitives]

structure VssSetup.Takes (setup : VssSetup) (share : OpeningShare) (index : Nat) : Prop where
  member : setup.members[index]? = some share.memberPubkey
  binding : share.sessionBinding = setup.sessionBinding
  point : share.x.toNat = index + 1
  commitment : setup.shareCommitments[index]? = some share.commitment
  signature : verifyOpeningSignature share = .ok ()

variable {setup : VssSetup}

theorem verifyShares_eq_ok (hmembers : setup.members.Nodup) {seenX : List UInt8}
    (htakes : ∀ share ∈ shares, ∃ index, setup.Takes share index) (hpoints : (shares.map (·.x)).Nodup)
    (hseen : ∀ share ∈ shares, share.x ∉ seenX)
    : verifyShares setup shares seenX = .ok () := by
  induction shares generalizing seenX with
  | nil => rfl
  | cons share shares ih =>
    rw [List.forall_mem_cons] at htakes hseen
    rw [List.map_cons, List.nodup_cons] at hpoints
    obtain ⟨index, htake⟩ := htakes.1
    unfold verifyShares
    rw [findIdx?_eq_of_nodup hmembers htake.member]
    dsimp only
    rw [Except.rejectIf_of_not, Except.rejectIf_of_not, htake.signature]
    . apply ih htakes.2 hpoints.2
      intro other hmem
      rw [List.mem_cons, not_or]
      refine ⟨?_, hseen.2 other hmem⟩
      intro heq
      exact hpoints.1 (List.mem_map.mpr ⟨other, hmem, heq⟩)
    . simp [htake.commitment]
    . simp [htake.binding, htake.point, hseen.1]

theorem reconstructVerified_eq (hroot : merkleRoot setup.shareCommitments = setup.maskCommitmentRoot)
    (hmembers : setup.members.Nodup) (htakes : ∀ share ∈ shares, ∃ index, setup.Takes share index)
    (hpoints : (shares.map (·.x)).Nodup) (hthreshold : setup.threshold.toNat ≤ shares.length)
    (hmask : shamirReconstruct (((sortByPoint shares).take setup.threshold.toNat).map
      fun share => (share.x, share.values)) = mask)
    : reconstructVerified setup shares = (do
      rejectIf (¬ maskConstraintsValid mask setup.leadingZeroPrefixQ.toNat setup.blindBandBitsD.toNat)
        .maskConstraintViolation
      rejectIf (P.blake2b256 (setup.parentHash.toList ++ mask.toList) ≠ setup.maskHash) .maskHashMismatch
      return openedMask mask (sortByPoint shares)) := by
  unfold reconstructVerified
  rw [Except.rejectIf_of_not (by simp [hroot]), verifyShares_eq_ok hmembers htakes hpoints (by simp),
    Except.rejectIf_of_not (by omega)]
  dsimp only
  rw [hmask]
  rfl

end MeshMine.Mpc
