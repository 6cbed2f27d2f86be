import MeshMine.Mpc.Setup

/-!
The setup of a mask session by its members (`meshmine-mpc-api/src/distributed.rs`): every member imports its own output
of the joint computation and publishes a signed commitment, and the commitments are assembled into a setup.

Files and the allowlist are left out: an approved artifact is one whose manifest was valid when its files were checked.
-/

namespace MeshMine.Mpc

open MeshMine.Types Codec Storage Hns
open Except (rejectIf)
open Encoder (fixed u8 u16 u64 hashes)

inductive DistributedSetupError where
  | invalidOutput (text : String)
  | invalidArtifact (text : String)
  | invalidCommittee (text : String)
  | localPartyMismatch
  | invalidContribution (text : String)
  | incompleteContributions
  | durableConflict
  | storage (error : StorageError)
  | mpc (error : MpcError)
deriving DecidableEq

instance : FromStorageError DistributedSetupError := ⟨.storage⟩

structure ArtifactFileIdentity where
  byteLen : UInt64
  blake2b256 : Hash256

def ArtifactFileIdentity.encode (file : ArtifactFileIdentity) : List UInt8 :=
  u64 file.byteLen ++ fixed file.blake2b256

structure MpSpdzArtifactManifest where
  mpSpdzRevision : ByteVec 20
  buildEnvironmentDigest : Hash256
  setupSource : ArtifactFileIdentity
  maskHashCircuit : ArtifactFileIdentity
  bytecode : ArtifactFileIdentity
  schedule : ArtifactFileIdentity
  runtimeBinary : ArtifactFileIdentity
  runtimeLibrary : ArtifactFileIdentity
  leadingZeroPrefixQ : UInt16
  blindBandBitsD : UInt16
  members : UInt8
  threshold : UInt8
  integerBitLength : UInt16
  arithmeticFieldBits : UInt16
  binaryRegisterBits : UInt16
  statisticalSecurityBits : UInt16
  classicDabits : Bool
  preserveMemoryOrder : Bool
  littleEndianBinaryOutput : Bool

structure MpSpdzLocalOutput where
  leadingZeroPrefixQ : UInt16
  blindBandBitsD : UInt16
  members : UInt8
  threshold : UInt8
  parentHash : Hash256
  maskHash : Hash256
  localShare : Hash256

structure DistributedSetupContribution where
  artifactId : Hash256
  publicOutputId : Hash256
  sessionBinding : Hash256
  maskHash : Hash256
  memberPubkey : PublicKey
  x : UInt8
  shareCommitment : Hash256
  signature : SignatureBytes

structure DistributedSetupAssembly where
  setup : VssSetup
  artifactId : Hash256
  publicOutputId : Hash256
  contributionRoot : Hash256

def mpSpdzOutputMagic : UInt64 := 0x4d4d4453

def mpSpdzOutputVersion : UInt64 := 1

/-- The source adds with an overflow check; a sum that overflows is above the limit. -/
def maskBandInvalid (q d : UInt16) : Prop :=
  q = 0 ∨ d = 0 ∨ 256 < q.toNat + d.toNat

instance (q d : UInt16) : Decidable (maskBandInvalid q d) :=
  inferInstanceAs (Decidable (_ ∨ _))

def validateManifest (manifest : MpSpdzArtifactManifest) : Except DistributedSetupError Unit := do
  rejectIf (maskBandInvalid manifest.leadingZeroPrefixQ manifest.blindBandBitsD ∨ manifest.members = 0
    ∨ manifest.threshold = 0 ∨ manifest.members < manifest.threshold ∨ manifest.integerBitLength ≠ 64
    ∨ manifest.arithmeticFieldBits < 128 ∨ manifest.binaryRegisterBits ≠ 64
    ∨ manifest.statisticalSecurityBits < 40 ∨ manifest.classicDabits = false
    ∨ manifest.preserveMemoryOrder = false ∨ manifest.littleEndianBinaryOutput = false)
    (.invalidArtifact "unsupported protocol profile")
  rejectIf ([manifest.setupSource, manifest.maskHashCircuit, manifest.bytecode, manifest.schedule,
    manifest.runtimeBinary, manifest.runtimeLibrary].any fun file => file.byteLen = 0)
    (.invalidArtifact "empty artifact identity")

def validateProfile (request : SetupRequest) (members : List PublicKey) (output : MpSpdzLocalOutput)
    (manifest : MpSpdzArtifactManifest) : Except DistributedSetupError Unit := do
  validateManifest manifest
  rejectIf (output.parentHash ≠ request.parentHash) (.invalidOutput "parent does not match setup request")
  rejectIf (output.leadingZeroPrefixQ ≠ request.leadingZeroPrefixQ ∨ output.blindBandBitsD ≠ request.blindBandBitsD
    ∨ output.members.toNat ≠ members.length ∨ output.threshold ≠ request.threshold)
    (.invalidOutput "profile does not match setup request")
  rejectIf (manifest.leadingZeroPrefixQ ≠ output.leadingZeroPrefixQ ∨ manifest.blindBandBitsD ≠ output.blindBandBitsD
    ∨ manifest.members ≠ output.members ∨ manifest.threshold ≠ output.threshold)
    (.invalidArtifact "compiled profile does not match output")

def adjacentEqual : List PublicKey → Bool
  | first :: second :: rest => first = second || adjacentEqual (second :: rest)
  | _ => false

def evidenceRow (binding : Hash256) : Row :=
  ⟨"mask-setup-evidence-mp-spdz-v1", hexEncode binding.toList⟩

/-- The source's `contribution_key` is the key of the material once more, under another namespace. -/
def contributionRow (binding : Hash256) (member : PublicKey) : Row :=
  ⟨"mask-setup-contribution-mp-spdz-v1", materialKey binding member⟩

def encodeContribution (contribution : DistributedSetupContribution) : List UInt8 :=
  fixed contribution.artifactId ++ fixed contribution.publicOutputId
    ++ fixed contribution.sessionBinding ++ fixed contribution.maskHash
    ++ fixed contribution.memberPubkey ++ u8 contribution.x
    ++ fixed contribution.shareCommitment ++ Encoder.bytes contribution.signature

def encodePublicEvidence (request : SetupRequest) (output : MpSpdzLocalOutput) (artifactId publicOutputId : Hash256)
    : List UInt8 :=
  fixed artifactId ++ fixed publicOutputId ++ fixed request.parentHash
    ++ fixed output.maskHash ++ u16 output.leadingZeroPrefixQ ++ u16 output.blindBandBitsD
    ++ u8 output.members ++ u8 output.threshold

def persistExact (row : Row) (value : List UInt8) : StoreM DistributedSetupError Unit :=
  persist .durableConflict row value

def reserveSession (request : SetupRequest) (binding : Hash256) : StoreM DistributedSetupError Unit := do
  match ← StoreM.get (reservationRow request) with
  | some existing =>
    let retired ← StoreM.get (retiredRow existing)
    StoreM.ofExcept (rejectIf (retired.isSome = true) (.mpc .sessionRetired))
    StoreM.ofExcept (rejectIf (existing ≠ binding.toList) (.mpc .sessionReuse))
  | none =>
    match ← StoreM.putIfAbsent (reservationRow request) binding.toList with
    | true => return ()
    | false =>
      match ← StoreM.get (reservationRow request) with
      | none => StoreM.ofExcept (.error .durableConflict)
      | some existing => StoreM.ofExcept (rejectIf (existing ≠ binding.toList) (.mpc .sessionReuse))

variable [P : Primitives]

def MpSpdzArtifactManifest.artifactId (manifest : MpSpdzArtifactManifest) : Hash256 :=
  domainHash "meshmine/mp-spdz-artifact/v1"
    (fixed manifest.mpSpdzRevision ++ fixed manifest.buildEnvironmentDigest
      ++ manifest.setupSource.encode ++ manifest.maskHashCircuit.encode ++ manifest.bytecode.encode
      ++ manifest.schedule.encode ++ manifest.runtimeBinary.encode ++ manifest.runtimeLibrary.encode
      ++ u16 manifest.leadingZeroPrefixQ ++ u16 manifest.blindBandBitsD
      ++ u8 manifest.members ++ u8 manifest.threshold ++ u16 manifest.integerBitLength
      ++ u16 manifest.arithmeticFieldBits ++ u16 manifest.binaryRegisterBits
      ++ u16 manifest.statisticalSecurityBits ++ u8 manifest.classicDabits.toUInt8
      ++ u8 manifest.preserveMemoryOrder.toUInt8 ++ u8 manifest.littleEndianBinaryOutput.toUInt8
      ++ u64 mpSpdzOutputMagic ++ u64 mpSpdzOutputVersion)

/-- Only `verify_files` makes one, and it validates the manifest first. -/
structure ApprovedMpSpdzArtifact where
  manifest : MpSpdzArtifactManifest
  valid : validateManifest manifest = .ok ()

def ApprovedMpSpdzArtifact.artifactId (artifact : ApprovedMpSpdzArtifact) : Hash256 :=
  artifact.manifest.artifactId

def canonicalMembers (request : SetupRequest) (members : List PublicKey)
    : Except DistributedSetupError (List PublicKey) := do
  rejectIf (members = [] ∨ 255 < members.length ∨ request.threshold = 0
    ∨ members.length < request.threshold.toNat) (.invalidCommittee "invalid size or threshold")
  rejectIf (maskBandInvalid request.leadingZeroPrefixQ request.blindBandBitsD)
    (.invalidCommittee "invalid mask parameters")
  let ordered := members.insertionSort (· ≤ ·)
  rejectIf (adjacentEqual ordered) (.invalidCommittee "duplicate public key")
  rejectIf (¬ ordered.all P.ed25519ValidKey) (.invalidCommittee "invalid Ed25519 public key")
  return ordered

def publicOutputId (request : SetupRequest) (maskHash : Hash256) (manifest : MpSpdzArtifactManifest) : Hash256 :=
  domainHash "meshmine/mp-spdz-public-output/v1"
    (fixed manifest.artifactId ++ u64 mpSpdzOutputMagic ++ u64 mpSpdzOutputVersion
      ++ u16 request.leadingZeroPrefixQ ++ u16 request.blindBandBitsD ++ u8 manifest.members
      ++ u8 request.threshold ++ fixed request.parentHash ++ fixed maskHash ++ u8 1)

def distributedSessionBinding (request : SetupRequest) (maskHash artifactId : Hash256) (members : List PublicKey)
    : Hash256 :=
  domainHash "meshmine/mask-vss-session/mp-spdz/v1"
    (requestBody request maskHash ++ fixed artifactId ++ hashes members)

def distributedTranscriptRoot (binding maskHash commitmentRoot artifactId publicOutputId contributionRoot : Hash256)
    (members : List PublicKey) : Hash256 :=
  domainHash "meshmine/mask-vss-transcript/mp-spdz/v1"
    (fixed binding ++ fixed maskHash ++ fixed commitmentRoot ++ fixed artifactId
      ++ fixed publicOutputId ++ fixed contributionRoot ++ hashes members)

def contributionMessage (contribution : DistributedSetupContribution) : Hash256 :=
  domainHash "meshmine/mask-setup-contribution/mp-spdz/v1"
    (fixed contribution.artifactId ++ fixed contribution.publicOutputId
      ++ fixed contribution.sessionBinding ++ fixed contribution.maskHash
      ++ fixed contribution.memberPubkey ++ u8 contribution.x
      ++ fixed contribution.shareCommitment)

def verifyContributionSignature (contribution : DistributedSetupContribution) : Except DistributedSetupError Unit :=
  if ¬ P.ed25519ValidKey contribution.memberPubkey then
    .error (.invalidContribution "invalid member public key")
  else if h : contribution.signature.length = 64 then
    rejectIf (¬ P.ed25519Verify contribution.memberPubkey (contributionMessage contribution).toList
      ⟨contribution.signature, h⟩) (.invalidContribution "signature verification failed")
  else
    .error (.invalidContribution "invalid signature length")

def signContribution (request : SetupRequest) (artifact : ApprovedMpSpdzArtifact) (maskHash : Hash256)
    (key : SigningKey) (opening : OpeningShare) : DistributedSetupContribution :=
  let contribution : DistributedSetupContribution := {
    artifactId := artifact.artifactId
    publicOutputId := publicOutputId request maskHash artifact.manifest
    sessionBinding := opening.sessionBinding
    maskHash
    memberPubkey := opening.memberPubkey
    x := opening.x
    shareCommitment := opening.commitment
    signature := [] }
  { contribution with signature := (P.ed25519Sign key (contributionMessage contribution).toList).toList }

def importLocalSetupOutput (request : SetupRequest) (members : List PublicKey) (localSigningKey : SigningKey)
    (partyIndex : UInt8) (output : MpSpdzLocalOutput) (artifact : ApprovedMpSpdzArtifact)
    : StoreM DistributedSetupError DistributedSetupContribution := do
  let ordered ← StoreM.ofExcept (canonicalMembers request members)
  StoreM.ofExcept (validateProfile request ordered output artifact.manifest)
  StoreM.ofExcept (rejectIf (ordered[partyIndex.toNat]? ≠ some (P.ed25519Public localSigningKey)) .localPartyMismatch)
  StoreM.ofExcept (rejectIf (partyIndex = 255) .localPartyMismatch)
  let binding := distributedSessionBinding request output.maskHash artifact.artifactId ordered
  let opening := signOpening binding localSigningKey (partyIndex + 1) output.localShare
  let contribution := signContribution request artifact output.maskHash localSigningKey opening
  reserveSession request binding
  persistExact (evidenceRow binding)
    (encodePublicEvidence request output artifact.artifactId contribution.publicOutputId)
  persistExact (materialRow binding opening.memberPubkey) (encodeOpeningShare opening)
  persistExact (contributionRow binding opening.memberPubkey) (encodeContribution contribution)
  return contribution

def loadLocalOpening (binding : Hash256) (member : PublicKey) : StoreM DistributedSetupError OpeningShare := do
  match ← StoreM.get (materialRow binding member) with
  | none => StoreM.ofExcept (.error (.mpc .missingOpeningMaterial))
  | some bytes =>
    let opening ← StoreM.ofExcept ((decodeOpeningShare bytes).mapError .mpc)
    StoreM.ofExcept (rejectIf (opening.sessionBinding ≠ binding ∨ opening.memberPubkey ≠ member)
      (.invalidContribution "stored opening binding mismatch"))
    StoreM.ofExcept ((verifyOpeningSignature opening).mapError .mpc)
    return opening

def collectContributions (contributions : List DistributedSetupContribution)
    : List PublicKey → Nat → List PublicKey → Except DistributedSetupError (List DistributedSetupContribution)
  | [], _, _ => return []
  | member :: members, index, seen => do
    match contributions.find? (·.memberPubkey = member) with
    | none => .error .incompleteContributions
    | some contribution =>
      rejectIf (contribution.memberPubkey ∈ seen ∨ contribution.x.toNat ≠ index + 1)
        (.invalidContribution "duplicate member or wrong Shamir coordinate")
      verifyContributionSignature contribution
      let rest ← collectContributions contributions members (index + 1) (contribution.memberPubkey :: seen)
      return contribution :: rest

/-- The setup from contributions in the order of the members; there is a first one, as a committee is not empty. -/
def assembleOrdered (request : SetupRequest) (ordered : List PublicKey) (artifact : ApprovedMpSpdzArtifact)
    (contributions : List DistributedSetupContribution) : Except DistributedSetupError DistributedSetupAssembly := do
  let artifactId := artifact.artifactId
  let maskHash := (contributions.map (·.maskHash)).headD (ByteVec.zero 32)
  let expectedPublicOutput := publicOutputId request maskHash artifact.manifest
  let expectedBinding := distributedSessionBinding request maskHash artifactId ordered
  rejectIf (contributions.any fun contribution => contribution.artifactId ≠ artifactId
    ∨ contribution.publicOutputId ≠ expectedPublicOutput ∨ contribution.sessionBinding ≠ expectedBinding
    ∨ contribution.maskHash ≠ maskHash) (.invalidContribution "public MPC evidence differs across members")
  let commitments := contributions.map (·.shareCommitment)
  let maskCommitmentRoot := merkleRoot commitments
  let contributionRoot := merkleRoot (contributions.map fun contribution =>
    domainHash "meshmine/mask-setup-contribution/mp-spdz/v1" (encodeContribution contribution))
  return {
    setup := {
      sessionBinding := expectedBinding
      parentHash := request.parentHash
      maskHash
      maskCommitmentRoot
      transcriptRoot := distributedTranscriptRoot expectedBinding maskHash maskCommitmentRoot artifactId
        expectedPublicOutput contributionRoot ordered
      leadingZeroPrefixQ := request.leadingZeroPrefixQ
      blindBandBitsD := request.blindBandBitsD
      threshold := request.threshold
      timedOpenAfterMs := request.timedOpenAfterMs
      members := ordered
      shareCommitments := commitments }
    artifactId
    publicOutputId := expectedPublicOutput
    contributionRoot }

def assembleDistributedSetup (request : SetupRequest) (members : List PublicKey)
    (contributions : List DistributedSetupContribution) (artifact : ApprovedMpSpdzArtifact)
    : Except DistributedSetupError DistributedSetupAssembly := do
  let ordered ← canonicalMembers request members
  rejectIf (contributions.length ≠ ordered.length) .incompleteContributions
  validateManifest artifact.manifest
  rejectIf (artifact.manifest.leadingZeroPrefixQ ≠ request.leadingZeroPrefixQ
    ∨ artifact.manifest.blindBandBitsD ≠ request.blindBandBitsD
    ∨ artifact.manifest.members.toNat ≠ ordered.length ∨ artifact.manifest.threshold ≠ request.threshold)
    (.invalidArtifact "profile does not match request")
  let orderedContributions ← collectContributions contributions ordered 0 []
  assembleOrdered request ordered artifact orderedContributions

end MeshMine.Mpc
