import MeshMine.Mpc.Opening
import MeshMine.Storage.StoreRun

/-!
The setup of a mask session by one coordinator (`DeterministicVssBackend::setup` of
`meshmine-mpc-api/src/lib.rs`): a mask is drawn and shared, and every share is durable before the setup is
published.
-/

namespace MeshMine.Mpc

open MeshMine.Types Codec Storage Hns
open Except (rejectIf)
open Encoder (fixed u8 u16 u64 hashes)
open StoreM (Yields)

abbrev SigningKey := ByteVec 32

structure SetupRequest where
  protocolVersion : UInt16
  networkId : UInt8
  laneId : UInt16
  sessionSequence : UInt64
  parentHash : Hash256
  leadingZeroPrefixQ : UInt16
  blindBandBitsD : UInt16
  threshold : UInt8
  timedOpenAfterMs : UInt64
  deterministicSeed : ByteVec 32

/-!
### Rows
-/

def decimal (n : Nat) : List UInt8 :=
  (Nat.toDigits 10 n).map fun digit => UInt8.ofNat digit.toNat

def logicalSessionKey (request : SetupRequest) : List UInt8 :=
  decimal request.networkId.toNat ++ asciiBytes "/" ++ decimal request.laneId.toNat ++ asciiBytes "/"
    ++ decimal request.sessionSequence.toNat

variable (session : Hash256) (member : PublicKey)

def materialKey : List UInt8 :=
  hexEncode session.toList ++ asciiBytes "/" ++ hexEncode member.toList

def materialRow : Row :=
  ⟨"mask-opening-v2", materialKey session member⟩

def reservationRow (request : SetupRequest) : Row :=
  ⟨"mask-session-reservation-v2", logicalSessionKey request⟩

def retiredRow (binding : List UInt8) : Row :=
  ⟨"mask-session-retired-v2", hexEncode binding⟩

theorem zero_notMem_decimal (n : Nat) : 0 ∉ decimal n := by
  unfold decimal
  rw [List.mem_map]
  rintro ⟨digit, hmem, hzero⟩
  have hdigit := Nat.isDigit_of_mem_toDigits (by omega) (by omega) hmem
  simp only [Char.isDigit, Bool.and_eq_true, decide_eq_true_eq] at hdigit
  have hlow : 48 ≤ digit.toNat := hdigit.1
  have hhigh : digit.toNat ≤ 57 := hdigit.2
  have htoNat := congrArg UInt8.toNat hzero
  rw [UInt8.toNat_ofNat'] at htoNat
  change digit.toNat % 256 = 0 at htoNat
  omega

theorem rowValid_of_notMem {space : String} {key : List UInt8} (hspace : (asciiBytes space).contains 0 = false)
    (hkey : 0 ∉ key)
    : Row.valid ⟨space, key⟩ = true := by
  unfold Row.valid
  rw [hspace, List.contains_eq_mem, decide_eq_false hkey]
  rfl

theorem zero_notMem_materialKey : 0 ∉ materialKey session member := by
  have hslash : 0 ∉ asciiBytes "/" := by decide
  simp [materialKey, zero_notMem_hexEncode, hslash]

theorem valid_materialRow : (materialRow session member).valid = true :=
  rowValid_of_notMem (by decide) (zero_notMem_materialKey session member)

theorem valid_reservationRow (request : SetupRequest) : (reservationRow request).valid = true := by
  have hslash : 0 ∉ asciiBytes "/" := by decide
  apply rowValid_of_notMem (by decide)
  simp [logicalSessionKey, zero_notMem_decimal, hslash]

theorem valid_retiredRow (binding : List UInt8) : (retiredRow binding).valid = true :=
  rowValid_of_notMem (by decide) (zero_notMem_hexEncode binding)

theorem materialKey_inj {session session' : Hash256} {member member' : PublicKey}
    : materialKey session member = materialKey session' member' ↔ session = session' ∧ member = member' := by
  constructor
  . intro h
    obtain ⟨hsession, hmember⟩ := hexEncode_append_inj (by simp [ByteVec.length_toList]) h
    exact ⟨ByteVec.ext hsession, ByteVec.ext hmember⟩
  . rintro ⟨rfl, rfl⟩
    rfl

/-- A row that is there already must hold the same bytes. -/
def persist {E : Type} [FromStorageError E] (conflict : E) (row : Row) (value : List UInt8) : StoreM E Unit := do
  match ← StoreM.putIfAbsent row value with
  | true => return ()
  | false =>
    let existing ← StoreM.get row
    StoreM.ofExcept (rejectIf (existing ≠ some value) conflict)

section

variable {E : Type} [FromStorageError E] {s s' : Store} {conflict : E} {row : Row} {value : List UInt8}

theorem yields_persist
    : Yields (persist conflict row value) s () s'
      ↔ row.valid = true ∧ (s.find row = none ∧ s' = s.apply (.put row value) ∨ s.find row = some value ∧ s' = s) := by
  unfold persist
  rw [StoreM.yields_bind]
  simp only [StoreM.yields_putIfAbsent]
  cases hfind : s.find row with
  | none => simp
  | some bytes =>
    simp only [Option.isNone_some, Bool.false_eq_true, if_false]
    simp [hfind]
    tauto

theorem find_of_yields_persist (h : Yields (persist conflict row value) s () s')
    : s'.find row = some value := by
  rw [yields_persist] at h
  rcases h.2 with ⟨_, rfl⟩ | ⟨hfind, rfl⟩
  . apply Store.find_apply_put
  . exact hfind

theorem find_eq_some_of_yields_persist {other : Row} {bytes : List UInt8}
    (h : Yields (persist conflict row value) s () s') (hfind : s.find other = some bytes)
    : s'.find other = some bytes := by
  rw [yields_persist] at h
  rcases h.2 with ⟨hnone, rfl⟩ | ⟨_, rfl⟩
  . rw [Store.find_apply_of_ne, hfind]
    rintro rfl
    simp [hfind] at hnone
  . exact hfind

end

def persistOpenings : List OpeningShare → StoreM MpcError Unit
  | [] => return ()
  | share :: shares => do
    persist .openingMaterialConflict (materialRow share.sessionBinding share.memberPubkey) (encodeOpeningShare share)
    persistOpenings shares

theorem find_of_yields_persistOpenings {openings : List OpeningShare} {s s' : Store}
    (h : Yields (persistOpenings openings) s () s')
    : (∀ row bytes, s.find row = some bytes → s'.find row = some bytes)
      ∧ ∀ opening ∈ openings, s'.find (materialRow opening.sessionBinding opening.memberPubkey)
        = some (encodeOpeningShare opening) := by
  induction openings generalizing s with
  | nil =>
    obtain ⟨_, rfl⟩ := StoreM.yields_pure.mp h
    simp
  | cons opening openings ih =>
    unfold persistOpenings at h
    rw [StoreM.yields_bind] at h
    obtain ⟨_, t, hpersist, hrest⟩ := h
    obtain ⟨hkeeps, hfind⟩ := ih hrest
    refine ⟨fun row bytes hrow => hkeeps row bytes (find_eq_some_of_yields_persist hpersist hrow), ?_⟩
    rw [List.forall_mem_cons]
    exact ⟨hkeeps _ _ (find_of_yields_persist hpersist), hfind⟩

def loadOpening (binding : Hash256) (member : PublicKey) : StoreM MpcError OpeningShare := do
  match ← StoreM.get (materialRow binding member) with
  | none => StoreM.ofExcept (.error .missingOpeningMaterial)
  | some bytes => StoreM.ofExcept (decodeOpeningShare bytes)

theorem yields_loadOpening {binding : Hash256} {member : PublicKey} {s s' : Store} {share : OpeningShare}
    : Yields (loadOpening binding member) s share s'
      ↔ (materialRow binding member).valid = true
        ∧ (∃ bytes, s.find (materialRow binding member) = some bytes ∧ decodeOpeningShare bytes = .ok share)
        ∧ s' = s := by
  unfold loadOpening
  rw [StoreM.yields_bind]
  simp only [StoreM.yields_get]
  cases hfind : s.find (materialRow binding member) with
  | none => simp
  | some bytes => simp

theorem toNat_index_succ {index : Nat} (h : index < 255) : (index.toUInt8 + 1).toNat = index + 1 := by
  rw [UInt8.toNat_add]
  change (index % 256 + 1) % 256 = index + 1
  omega

section

variable [P : Primitives]

/-!
### Dealing
-/

def validateRequest (request : SetupRequest) (members : List SigningKey) : Except MpcError Unit := do
  rejectIf (members = [] ∨ 255 < members.length ∨ request.threshold = 0
    ∨ members.length < request.threshold.toNat) .invalidThreshold
  rejectIf (¬ maskParametersValid request.leadingZeroPrefixQ.toNat request.blindBandBitsD.toNat)
    .invalidMaskParameters
  rejectIf (¬ (members.map P.ed25519Public).Nodup) .duplicateMember

def vssRngSeed (request : SetupRequest) : Hash256 :=
  domainHash "meshmine/mask-vss-rng/v2"
    (u16 request.protocolVersion ++ u8 request.networkId ++ u16 request.laneId
      ++ u64 request.sessionSequence ++ fixed request.parentHash
      ++ fixed request.deterministicSeed)

def requestBody (request : SetupRequest) (maskHash : Hash256) : List UInt8 :=
  u16 request.protocolVersion ++ u8 request.networkId ++ u16 request.laneId
    ++ u64 request.sessionSequence ++ fixed request.parentHash
    ++ u16 request.leadingZeroPrefixQ ++ u16 request.blindBandBitsD
    ++ u8 request.threshold ++ u64 request.timedOpenAfterMs ++ fixed maskHash

def sessionBinding (request : SetupRequest) (maskHash : Hash256) (members : List PublicKey) : Hash256 :=
  domainHash "meshmine/mask-vss-session/v2" (requestBody request maskHash ++ hashes members)

def setupTranscriptRoot (binding maskHash commitmentRoot : Hash256) (members : List PublicKey) : Hash256 :=
  domainHash "meshmine/mask-vss-transcript/v2"
    (fixed binding ++ fixed maskHash ++ fixed commitmentRoot
      ++ members.flatMap fixed)

def signOpening (binding : Hash256) (key : SigningKey) (x : UInt8) (values : Hash256) : OpeningShare where
  sessionBinding := binding
  memberPubkey := P.ed25519Public key
  x := x
  values := values
  signature := (P.ed25519Sign key (openingMessage binding (P.ed25519Public key) x values).toList).toList

def orderKeys (members : List SigningKey) : List SigningKey :=
  members.insertionSort fun a b => P.ed25519Public a ≤ P.ed25519Public b

def dealOpenings (source : RandomSource) (request : SetupRequest) (ordered : List SigningKey) (binding mask : Hash256)
    (state : source.State) : List OpeningShare :=
  let shares := (shamirSplit source mask request.threshold.toNat ordered.length state).1
  (ordered.zip shares).zipIdx.map fun dealt =>
    signOpening binding dealt.1.1 (dealt.2.toUInt8 + 1) dealt.1.2

def dealMask (source : RandomSource) (request : SetupRequest) (members : List SigningKey) (mask : Hash256)
    (state : source.State) : VssSetup × List OpeningShare :=
  let ordered := orderKeys members
  let orderedPubkeys := ordered.map P.ed25519Public
  let maskHash := P.blake2b256 (request.parentHash.toList ++ mask.toList)
  let binding := sessionBinding request maskHash orderedPubkeys
  let openings := dealOpenings source request ordered binding mask state
  let commitments := openings.map (·.commitment)
  let maskCommitmentRoot := merkleRoot commitments
  ({
    sessionBinding := binding
    parentHash := request.parentHash
    maskHash
    maskCommitmentRoot
    transcriptRoot := setupTranscriptRoot binding maskHash maskCommitmentRoot orderedPubkeys
    leadingZeroPrefixQ := request.leadingZeroPrefixQ
    blindBandBitsD := request.blindBandBitsD
    threshold := request.threshold
    timedOpenAfterMs := request.timedOpenAfterMs
    members := orderedPubkeys
    shareCommitments := commitments }, openings)

def deal (source : RandomSource) (rounds : Nat) (request : SetupRequest) (members : List SigningKey)
    : Option (VssSetup × List OpeningShare) := do
  let (mask, state) ← generateConstrainedMask source request.leadingZeroPrefixQ.toNat request.blindBandBitsD.toNat
    rounds (source.fromSeed (vssRngSeed request))
  return dealMask source request members mask state

/-!
### Durable steps
-/

def refuseRetired (request : SetupRequest) : StoreM MpcError Unit := do
  match ← StoreM.get (reservationRow request) with
  | none => return ()
  | some binding =>
    let retired ← StoreM.get (retiredRow binding)
    StoreM.ofExcept (rejectIf (retired.isSome = true) .sessionRetired)

def setup (source : RandomSource) (rounds : Nat) (request : SetupRequest) (members : List SigningKey)
    : StoreM MpcError VssSetup := do
  StoreM.ofExcept (validateRequest request members)
  refuseRetired request
  let (setup, openings) ← StoreM.ofExcept ((deal source rounds request members).elim (.error .outOfRounds) .ok)
  persist .sessionReuse (reservationRow request) setup.sessionBinding.toList
  persistOpenings openings
  return setup

/-!
### What a setup leaves in the store
-/

theorem yields_setup {source : RandomSource} {rounds : Nat} {request : SetupRequest} {members : List SigningKey}
    {s s' : Store} {result : VssSetup} (h : Yields (setup source rounds request members) s result s')
    : validateRequest request members = .ok ()
      ∧ ∃ openings, deal source rounds request members = some (result, openings)
      ∧ ∀ opening ∈ openings, s'.find (materialRow opening.sessionBinding opening.memberPubkey)
        = some (encodeOpeningShare opening) := by
  unfold setup at h
  simp only [StoreM.yields_bind, StoreM.yields_ofExcept, StoreM.yields_pure] at h
  obtain ⟨_, _, ⟨hvalid, rfl⟩, _, t, _, ⟨result', openings⟩, _, ⟨hdeal, rfl⟩, _, t', _, _, _, hopenings, rfl, rfl⟩ := h
  refine ⟨hvalid, openings, ?_, (find_of_yields_persistOpenings hopenings).2⟩
  exact Except.elim_error_eq_ok hdeal

/-!
### The shares that are dealt
-/

theorem signOpening_verifies (hsigns : SignaturesVerify) (binding : Hash256) (key : SigningKey) (x : UInt8)
    (values : Hash256)
    : verifyOpeningSignature (signOpening binding key x values) = .ok () := by
  have hlength : (signOpening binding key x values).signature.length = 64 := ByteVec.length_toList _
  unfold verifyOpeningSignature
  rw [if_neg (by simpa [signOpening] using hsigns.validKey key), dif_pos hlength]
  apply Except.rejectIf_of_not
  rw [not_not]
  exact hsigns.verify key _

variable {opening : OpeningShare}

theorem mem_dealOpenings {source : RandomSource} {request : SetupRequest} {ordered : List SigningKey}
    {binding mask : Hash256} {state : source.State}
    (h : opening ∈ dealOpenings source request ordered binding mask state)
    : ∃ (index : Nat) (key : SigningKey) (values : Hash256),
      (dealOpenings source request ordered binding mask state)[index]? = some opening
      ∧ ordered[index]? = some key ∧ opening = signOpening binding key (index.toUInt8 + 1) values
      ∧ values.toList = (drawCoefficients source request.threshold.toNat mask.toList state).1.map
          fun coefficients => gfEval coefficients (index.toUInt8 + 1) := by
  obtain ⟨index, hindex⟩ := List.mem_iff_getElem?.mp h
  refine ⟨index, ?_⟩
  have hdealt := hindex
  unfold dealOpenings shamirSplit at hdealt
  simp only [List.getElem?_map, List.getElem?_zipIdx, Option.map_eq_some_iff] at hdealt
  obtain ⟨dealt, ⟨⟨key, values⟩, hzip, rfl⟩, rfl⟩ := hdealt
  rw [List.getElem?_zip_eq_some, List.getElem?_map, Option.map_eq_some_iff] at hzip
  obtain ⟨hkey, index', hrange, rfl⟩ := hzip
  obtain ⟨_, rfl⟩ := List.getElem?_eq_some_iff.mp hrange
  rw [Nat.zero_add] at hindex ⊢
  rw [List.getElem_range] at hindex ⊢
  exact ⟨key, _, hindex, hkey, rfl, rfl⟩

theorem validateRequest_eq_ok {request : SetupRequest} {members : List SigningKey}
    (h : validateRequest request members = .ok ())
    : (members.length ≤ 255 ∧ request.threshold ≠ 0 ∧ request.threshold.toNat ≤ members.length)
      ∧ maskParametersValid request.leadingZeroPrefixQ.toNat request.blindBandBitsD.toNat = true
      ∧ (members.map P.ed25519Public).Nodup := by
  unfold validateRequest at h
  simp only [Except.bind_unit_eq_ok, Except.rejectIf_eq_ok, not_or, not_not] at h
  obtain ⟨⟨_, hlength, hzero, hthreshold⟩, hparameters, hnodup⟩ := h
  exact ⟨⟨by omega, hzero, by omega⟩, hparameters, hnodup⟩

theorem perm_orderKeys (members : List SigningKey) : (orderKeys members).Perm members :=
  List.perm_insertionSort _ _

section

variable {source : RandomSource} {request : SetupRequest} {members : List SigningKey} {mask : Hash256}
  {state : source.State}

theorem nodup_members_dealMask (hnodup : (members.map P.ed25519Public).Nodup)
    : (dealMask source request members mask state).1.members.Nodup :=
  ((perm_orderKeys members).map _).nodup_iff.mpr hnodup

theorem takes_of_mem_dealMask (hsigns : SignaturesVerify) (hlength : members.length ≤ 255)
    (h : opening ∈ (dealMask source request members mask state).2)
    : ∃ index, (dealMask source request members mask state).2[index]? = some opening
      ∧ (dealMask source request members mask state).1.Takes opening index := by
  obtain ⟨index, key, values, hindex, hkey, rfl, hvalues⟩ := mem_dealOpenings h
  refine ⟨index, hindex, ?_⟩
  have hlt : index < members.length := by
    rw [← (perm_orderKeys members).length_eq]
    exact (List.getElem?_eq_some_iff.mp hkey).1
  constructor
  . change ((orderKeys members).map P.ed25519Public)[index]? = _
    rw [List.getElem?_map, hkey]
    rfl
  . rfl
  . exact toNat_index_succ (by omega)
  . change ((dealMask source request members mask state).2.map _)[index]? = _
    rw [List.getElem?_map]
    exact congrArg (Option.map _) hindex
  . exact signOpening_verifies hsigns _ _ _ _

theorem values_of_mem_dealMask (h : opening ∈ (dealMask source request members mask state).2)
    : opening.values.toList = (drawCoefficients source request.threshold.toNat mask.toList state).1.map
        fun coefficients => gfEval coefficients opening.x := by
  obtain ⟨index, key, values, _, _, rfl, hvalues⟩ := mem_dealOpenings h
  exact hvalues

theorem length_signature_of_mem_dealMask (h : opening ∈ (dealMask source request members mask state).2)
    : opening.signature.length = 64 := by
  obtain ⟨index, key, values, _, _, rfl, _⟩ := mem_dealOpenings h
  exact ByteVec.length_toList _

theorem map_memberPubkey_dealMask
    : (dealMask source request members mask state).2.map (·.memberPubkey)
      = (dealMask source request members mask state).1.members := by
  change (dealOpenings ..).map _ = (orderKeys members).map _
  unfold dealOpenings shamirSplit
  rw [List.map_map]
  apply List.ext_getElem
  . simp
  . intro i h h'
    simp [signOpening]

theorem eq_of_point_eq (hsigns : SignaturesVerify) (hlength : members.length ≤ 255) {a b : OpeningShare}
    (ha : a ∈ (dealMask source request members mask state).2) (hb : b ∈ (dealMask source request members mask state).2)
    (h : a.x = b.x)
    : a = b := by
  obtain ⟨i, hi, htakes⟩ := takes_of_mem_dealMask hsigns hlength ha
  obtain ⟨j, hj, htakes'⟩ := takes_of_mem_dealMask hsigns hlength hb
  have hij : i = j := by
    have hpoint := htakes.point
    have hpoint' := htakes'.point
    rw [h] at hpoint
    omega
  rw [hij, hj] at hi
  exact (Option.some.inj hi).symm

end

/-- What the members load after a setup that succeeded, as many as its threshold and in any order, opens the mask that
was drawn for it. -/
theorem timedOpen_of_setup (hsigns : SignaturesVerify) {source : RandomSource} {rounds : Nat} {request : SetupRequest}
    {members : List SigningKey} {s s' : Store} {result : VssSetup}
    (hsetup : Yields (setup source rounds request members) s result s') {shares : List OpeningShare}
    (hgenuine : ∀ share ∈ shares, share.memberPubkey ∈ result.members
      ∧ Yields (loadOpening result.sessionBinding share.memberPubkey) s' share s')
    (hdistinct : shares.Nodup) (hthreshold : result.threshold.toNat ≤ shares.length) (gate : TimedOpeningGate)
    (nowMs : UInt64)
    : ∃ opened state, timedOpen result shares gate nowMs = (do
        rejectIf (¬ gate.acceptedBoundaryFixed) .boundaryNotFixed
        rejectIf (nowMs < gate.timedOpenAfterMs ∨ nowMs < result.timedOpenAfterMs) .openingTooEarly
        return opened)
      ∧ generateConstrainedMask source request.leadingZeroPrefixQ.toNat request.blindBandBitsD.toNat rounds
          (source.fromSeed (vssRngSeed request)) = some (opened.mask, state)
      ∧ P.blake2b256 (request.parentHash.toList ++ opened.mask.toList) = result.maskHash
      ∧ (∀ bit < request.leadingZeroPrefixQ.toNat, getBit opened.mask bit = false)
      ∧ ∃ bit, request.leadingZeroPrefixQ.toNat ≤ bit
        ∧ (bit < if request.blindBandBitsD.toNat = 0 then 256
          else request.leadingZeroPrefixQ.toNat + request.blindBandBitsD.toNat)
        ∧ getBit opened.mask bit = true := by
  obtain ⟨hvalid, openings, hdeal, hdurable⟩ := yields_setup hsetup
  obtain ⟨⟨hlength, hzero, _⟩, hparameters, hnodup⟩ := validateRequest_eq_ok hvalid
  unfold deal at hdeal
  obtain ⟨⟨mask, state⟩, hgenerate, hdeal⟩ := Option.bind_eq_some_iff.mp hdeal
  replace hdeal : dealMask source request members mask state = (result, openings) := Option.some.inj hdeal
  obtain rfl : (dealMask source request members mask state).1 = result := congrArg Prod.fst hdeal
  obtain rfl : (dealMask source request members mask state).2 = openings := congrArg Prod.snd hdeal
  have hconstraints := maskConstraintsValid_of_generate hparameters hgenerate
  have hthreshold0 : request.threshold.toNat ≠ 0 := fun h => hzero (UInt8.toNat_inj.mp h)
  have hdealt : ∀ share ∈ shares, share ∈ (dealMask source request members mask state).2 := by
    intro share hmem
    obtain ⟨hmember, hload⟩ := hgenuine share hmem
    rw [← map_memberPubkey_dealMask, List.mem_map] at hmember
    obtain ⟨opening, hopening, hpubkey⟩ := hmember
    obtain ⟨_, _, htakes⟩ := takes_of_mem_dealMask hsigns hlength hopening
    obtain ⟨_, ⟨bytes, hfind, hdecode⟩, _⟩ := yields_loadOpening.mp hload
    rw [← hpubkey, ← htakes.binding, hdurable opening hopening] at hfind
    rw [← Option.some.inj hfind, decodeOpeningShare_encodeOpeningShare
      (by rw [length_signature_of_mem_dealMask hopening]; omega)] at hdecode
    rwa [← Except.ok.inj hdecode]
  have hroot : merkleRoot (dealMask source request members mask state).1.shareCommitments
      = (dealMask source request members mask state).1.maskCommitmentRoot := rfl
  have hpoints : (shares.map (·.x)).Nodup :=
    hdistinct.map_on fun a ha b hb h => eq_of_point_eq hsigns hlength (hdealt a ha) (hdealt b hb) h
  have hmask := shamirReconstruct_sortByPoint hpoints hthreshold
    (fun coefficients hmem => (length_of_mem_drawCoefficients source hthreshold0 hmem).le)
    (fun share hmem => values_of_mem_dealMask (hdealt share hmem))
    (map_gfEval_zero_drawCoefficients source _ _ _).symm
  have hopen := reconstructVerified_eq hroot (nodup_members_dealMask hnodup)
    (fun share hmem => (takes_of_mem_dealMask hsigns hlength (hdealt share hmem)).imp fun _ h => h.2) hpoints hthreshold
    hmask
  have hconstraints' : ¬ ¬ maskConstraintsValid mask
      (dealMask source request members mask state).1.leadingZeroPrefixQ.toNat
      (dealMask source request members mask state).1.blindBandBitsD.toNat := not_not.mpr hconstraints
  rw [Except.rejectIf_of_not hconstraints', Except.rejectIf_of_not (by simp [dealMask])] at hopen
  obtain ⟨hcleared, hband⟩ := maskConstraintsValid_eq_true hconstraints
  refine ⟨openedMask mask (sortByPoint shares), state, ?_, hgenerate, rfl, hcleared, hband⟩
  unfold timedOpen
  rw [hopen]
  rfl

end

def sampleSource : RandomSource where
  State := Nat
  fromSeed _ := 0
  fillBytes n state := (⟨(List.range n).map fun i => UInt8.ofNat (85 + 3 * state + i), by simp⟩, state + 1)

def sampleRequest : SetupRequest where
  protocolVersion := 2
  networkId := 2
  laneId := 0
  sessionSequence := 1
  parentHash := ByteVec.fill 32 9
  leadingZeroPrefixQ := 8
  blindBandBitsD := 8
  threshold := 2
  timedOpenAfterMs := 1000
  deterministicSeed := ByteVec.fill 32 42

def sampleKeys : List SigningKey :=
  [ByteVec.fill 32 3, ByteVec.fill 32 1, ByteVec.fill 32 2]

theorem signaturesVerify_fold : @SignaturesVerify Primitives.fold :=
  @SignaturesVerify.mk Primitives.fold (fun _ => rfl) fun _ _ => decide_eq_true rfl

def sampleRun : Except MpcError VssSetup × Store :=
  (@setup Primitives.fold sampleSource 1 sampleRequest sampleKeys).run.run ∅

def sampleMask : Hash256 :=
  ⟨0 :: (List.range 31).map fun i => UInt8.ofNat (86 + i), rfl⟩

def sampleDealt : VssSetup × List OpeningShare :=
  @dealMask Primitives.fold sampleSource sampleRequest sampleKeys sampleMask (1 : Nat)

/-- The three keys sort as 1, 2, 3; the third and the first member open. -/
def sampleShares : List OpeningShare :=
  sampleDealt.2.drop 2 ++ sampleDealt.2.take 1

theorem timedOpen_of_setup_sample
    : letI := Primitives.fold
      Yields (setup sampleSource 1 sampleRequest sampleKeys) ∅ sampleDealt.1 sampleRun.2
        ∧ sampleShares.length = 2
        ∧ ∃ opened, timedOpen sampleDealt.1 sampleShares ⟨900, true⟩ 1000 = .ok opened
          ∧ Primitives.blake2b256 (sampleRequest.parentHash.toList ++ opened.mask.toList) = sampleDealt.1.maskHash := by
  have hrun : sampleRun.1 = .ok sampleDealt.1 := by decide +kernel
  have hload : ∀ share ∈ sampleShares, share.memberPubkey ∈ sampleDealt.1.members
      ∧ Yields (loadOpening sampleDealt.1.sessionBinding share.memberPubkey) sampleRun.2 share sampleRun.2 := by
    have hrows : ∀ share ∈ sampleShares, share.memberPubkey ∈ sampleDealt.1.members
        ∧ (materialRow sampleDealt.1.sessionBinding share.memberPubkey).valid = true
        ∧ (sampleRun.2.find (materialRow sampleDealt.1.sessionBinding share.memberPubkey)).map decodeOpeningShare
          = some (.ok share) := by decide +kernel
    intro share hmem
    obtain ⟨hmember, hvalid, hfind⟩ := hrows share hmem
    exact ⟨hmember, yields_loadOpening.mpr ⟨hvalid, Option.map_eq_some_iff.mp hfind, rfl⟩⟩
  have hpair : sampleRun = (.ok sampleDealt.1, sampleRun.2) := by rw [← hrun]
  have hsetup : Yields (@setup Primitives.fold sampleSource 1 sampleRequest sampleKeys) ∅ sampleDealt.1
      sampleRun.2 := hpair
  have hthreshold : sampleDealt.1.threshold.toNat ≤ sampleShares.length := by decide
  have hafter : ¬ (1000 : UInt64) < sampleDealt.1.timedOpenAfterMs := by decide
  obtain ⟨opened, _, hopen, _, hhash, _⟩ := @timedOpen_of_setup Primitives.fold signaturesVerify_fold _ _ _ _ _ _ _
    hsetup _ hload (by decide +kernel) hthreshold ⟨900, true⟩ 1000
  refine ⟨hsetup, by decide, opened, ?_, hhash⟩
  rw [hopen, Except.rejectIf_of_not (by simp), Except.rejectIf_of_not (not_or.mpr ⟨by decide, hafter⟩)]
  rfl

end MeshMine.Mpc
