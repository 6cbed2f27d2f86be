import MeshMine.Mpc.Distributed

/-!
A distributed setup whose members hold shares of one mask: the imports succeed in any order, the assembly does not
depend on the order of members and contributions, and enough openings give the mask back.
-/

namespace MeshMine.Mpc

open MeshMine.Types Codec Storage Hns
open Except (rejectIf rejectIf_of_not ok_bind)

/-!
### The canonical order
-/

variable {members ordered : List PublicKey}

theorem insertionSort_eq_of_perm (hordered : ordered.Pairwise (· ≤ ·)) (h : members.Perm ordered)
    : members.insertionSort (· ≤ ·) = ordered :=
  ((List.perm_insertionSort _ _).trans h).eq_of_pairwise' (List.pairwise_insertionSort _ _) hordered

theorem pairwise_lt_of_adjacentEqual (hordered : ordered.Pairwise (· ≤ ·)) (h : adjacentEqual ordered = false)
    : ordered.Pairwise (· < ·) := by
  induction ordered with
  | nil => exact .nil
  | cons first rest ih =>
    rw [List.pairwise_cons] at hordered
    cases rest with
    | nil => simp
    | cons second rest =>
      simp only [adjacentEqual, Bool.or_eq_false_iff, decide_eq_false_iff_not] at h
      have hrest := ih hordered.2 h.2
      have hlt : first < second := lt_of_le_of_ne (hordered.1 second (by simp)) h.1
      rw [List.pairwise_cons]
      refine ⟨?_, hrest⟩
      intro member hmem
      rw [List.mem_cons] at hmem
      rcases hmem with rfl | hmem
      . exact hlt
      . exact hlt.trans ((List.pairwise_cons.mp hrest).1 member hmem)

def Keeps (s s' : Store) : Prop :=
  ∀ row bytes, s.find row = some bytes → s'.find row = some bytes

variable {s : Store}

theorem Keeps.trans {s' s'' : Store} (h : Keeps s s') (h' : Keeps s' s'') : Keeps s s'' :=
  fun row bytes hfind => h' row bytes (h row bytes hfind)

section

variable [P : Primitives]

theorem canonicalMembers_eq_ok {request : SetupRequest} (h : canonicalMembers request members = .ok ordered)
    : (members ≠ [] ∧ members.length ≤ 255 ∧ request.threshold.toNat ≤ members.length)
      ∧ ordered.Perm members ∧ ordered.Pairwise (· < ·) := by
  unfold canonicalMembers at h
  simp only [Except.bind_unit_eq_ok, Except.rejectIf_eq_ok, not_or, Bool.not_eq_true] at h
  obtain ⟨⟨hne, hlength, _, hthreshold⟩, _, hadjacent, _, hordered⟩ := h
  obtain rfl := Except.ok.inj hordered
  refine ⟨⟨hne, by omega, by omega⟩, List.perm_insertionSort _ _, ?_⟩
  exact pairwise_lt_of_adjacentEqual (List.pairwise_insertionSort _ _) hadjacent

theorem canonicalMembers_eq_of_perm {request : SetupRequest}
    (hordered : canonicalMembers request ordered = .ok ordered) (h : members.Perm ordered)
    : canonicalMembers request members = .ok ordered := by
  obtain ⟨_, _, hpairwise⟩ := canonicalMembers_eq_ok hordered
  have hsort := insertionSort_eq_of_perm (hpairwise.imp le_of_lt) h
  have hsort' := insertionSort_eq_of_perm (hpairwise.imp le_of_lt) (.refl ordered)
  have hnil : members = [] ↔ ordered = [] := by
    rw [← List.length_eq_zero_iff, h.length_eq, List.length_eq_zero_iff]
  rw [← hordered]
  unfold canonicalMembers
  rw [hsort, hsort']
  simp only [hnil, h.length_eq]

/-!
### One mask, shared
-/

/-- What the members of a distributed setup have in common. The keys are listed in the canonical order of their public
keys, and the shares are the values of one polynomial for each byte of the mask. -/
structure DistributedMask where
  request : SetupRequest
  keys : List SigningKey
  artifact : ApprovedMpSpdzArtifact
  maskHash : Hash256
  mask : Hash256
  polynomials : List (List UInt8)
  committee : canonicalMembers request (keys.map P.ed25519Public) = .ok (keys.map P.ed25519Public)
  prefixBits : artifact.manifest.leadingZeroPrefixQ = request.leadingZeroPrefixQ
  bandBits : artifact.manifest.blindBandBitsD = request.blindBandBitsD
  memberCount : artifact.manifest.members.toNat = keys.length
  threshold : artifact.manifest.threshold = request.threshold
  constants : mask.toList = polynomials.map fun coefficients => gfEval coefficients 0
  degree : ∀ coefficients ∈ polynomials, coefficients.length ≤ request.threshold.toNat

namespace DistributedMask

variable (d : DistributedMask)

def pubkeys : List PublicKey :=
  d.keys.map P.ed25519Public

abbrev Party := Fin d.keys.length

variable (party : d.Party)

def pubkey : PublicKey :=
  P.ed25519Public (d.keys.get party)

def point : UInt8 :=
  party.val.toUInt8 + 1

def share : Hash256 :=
  ⟨d.polynomials.map fun coefficients => gfEval coefficients (d.point party), by
    rw [List.length_map, ← List.length_map (f := fun coefficients => gfEval coefficients 0), ← d.constants,
      d.mask.length_toList]⟩

def output : MpSpdzLocalOutput where
  leadingZeroPrefixQ := d.request.leadingZeroPrefixQ
  blindBandBitsD := d.request.blindBandBitsD
  members := d.artifact.manifest.members
  threshold := d.request.threshold
  parentHash := d.request.parentHash
  maskHash := d.maskHash
  localShare := d.share party

def binding : Hash256 :=
  distributedSessionBinding d.request d.maskHash d.artifact.artifactId d.pubkeys

def opening : OpeningShare :=
  signOpening d.binding (d.keys.get party) (d.point party) (d.share party)

def contribution : DistributedSetupContribution :=
  signContribution d.request d.artifact d.maskHash (d.keys.get party) (d.opening party)

def contributions : List DistributedSetupContribution :=
  (List.finRange d.keys.length).map d.contribution

def evidence : List UInt8 :=
  Encoder.fixed d.artifact.artifactId ++ Encoder.fixed (publicOutputId d.request d.maskHash d.artifact.manifest)
    ++ Encoder.fixed d.request.parentHash ++ Encoder.fixed d.maskHash ++ Encoder.u16 d.request.leadingZeroPrefixQ
    ++ Encoder.u16 d.request.blindBandBitsD ++ Encoder.u8 d.artifact.manifest.members
    ++ Encoder.u8 d.request.threshold

theorem length_keys_le : d.keys.length ≤ 255 := by
  have h := (canonicalMembers_eq_ok d.committee).1.2.1
  rwa [List.length_map] at h

theorem length_pubkeys : d.pubkeys.length = d.keys.length :=
  List.length_map _

theorem canonicalMembers_eq (h : members.Perm d.pubkeys)
    : canonicalMembers d.request members = .ok d.pubkeys :=
  canonicalMembers_eq_of_perm d.committee h

theorem nodup_pubkeys : d.pubkeys.Nodup :=
  (canonicalMembers_eq_ok d.committee).2.2.imp ne_of_lt

theorem getElem?_pubkeys : d.pubkeys[party.val]? = some (d.pubkey party) := by
  unfold pubkeys pubkey
  rw [List.getElem?_map, List.getElem?_eq_getElem party.isLt]
  rfl

theorem pubkey_inj {party party' : d.Party} (h : d.pubkey party = d.pubkey party') : party = party' := by
  have hget := d.getElem?_pubkeys party'
  rw [← h, ← d.getElem?_pubkeys party] at hget
  have hlt : party'.val < d.pubkeys.length := by
    rw [d.length_pubkeys]
    exact party'.isLt
  exact (Fin.ext ((List.getElem?_inj hlt d.nodup_pubkeys).mp hget)).symm

theorem toNat_point : (d.point party).toNat = party.val + 1 := by
  have := d.length_keys_le
  exact toNat_index_succ (by omega)

/-!
### Imports
-/

inductive Writes : Row → List UInt8 → Prop
  | reservation : Writes (reservationRow d.request) d.binding.toList
  | evidence : Writes (evidenceRow d.binding) d.evidence
  | material (party : d.Party) : Writes (materialRow d.binding (d.pubkey party)) (encodeOpeningShare (d.opening party))
  | contribution (party : d.Party)
    : Writes (contributionRow d.binding (d.pubkey party)) (encodeContribution (d.contribution party))

variable {d} {row : Row} {value : List UInt8}

theorem Writes.unique {row' : Row} {value' : List UInt8} (h : d.Writes row value) (h' : d.Writes row' value')
    (hrow : row = row')
    : value = value' := by
  cases h with
  | reservation =>
    cases h' with
    | reservation => rfl
    | _ => simp [reservationRow, evidenceRow, materialRow, contributionRow] at hrow
  | evidence =>
    cases h' with
    | evidence => rfl
    | _ => simp [reservationRow, evidenceRow, materialRow, contributionRow] at hrow
  | material party =>
    cases h' with
    | material party' =>
      rw [d.pubkey_inj (materialKey_inj.mp (congrArg Row.key hrow)).2]
    | _ => simp [reservationRow, evidenceRow, materialRow, contributionRow] at hrow
  | contribution party =>
    cases h' with
    | contribution party' =>
      rw [d.pubkey_inj (materialKey_inj.mp (congrArg Row.key hrow)).2]
    | _ => simp [reservationRow, evidenceRow, materialRow, contributionRow] at hrow

theorem Writes.ne_retiredRow (h : d.Writes row value) (binding : List UInt8)
    : row ≠ retiredRow binding := by
  cases h <;> simp [reservationRow, evidenceRow, materialRow, contributionRow, retiredRow]

theorem Writes.valid (h : d.Writes row value) : row.valid = true := by
  cases h with
  | reservation => apply valid_reservationRow
  | evidence => exact rowValid_of_notMem (by decide) (zero_notMem_hexEncode _)
  | material party => apply valid_materialRow
  | contribution party => exact rowValid_of_notMem (by decide) (zero_notMem_materialKey _ _)

variable (d)

/-- The session is not retired, and of its rows none holds anything else. -/
structure Ready (s : Store) : Prop where
  agrees : ∀ row value, d.Writes row value → s.find row = none ∨ s.find row = some value
  live : s.find (retiredRow d.binding.toList) = none

variable {d}

theorem Ready.put (hready : d.Ready s) (hwrites : d.Writes row value)
    : d.Ready (s.apply (.put row value)) := by
  constructor
  . intro other bytes hother
    by_cases heq : other = row
    . rw [heq, Store.find_apply_put, hwrites.unique hother heq.symm]
      exact .inr rfl
    . have hkept : (s.apply (.put row value)).find other = s.find other := Store.find_apply_of_ne s heq
      rw [hkept]
      exact hready.agrees other bytes hother
  . exact (Store.find_apply_of_ne s (hwrites.ne_retiredRow _).symm).trans hready.live

theorem Ready.persistExact (hready : d.Ready s) (hwrites : d.Writes row value)
    : ∃ s', StoreM.Yields (persistExact row value) s () s' ∧ d.Ready s' ∧ Keeps s s' := by
  suffices h : ∃ s', StoreM.Yields (Mpc.persistExact row value) s () s' ∧ d.Ready s' by
    obtain ⟨s', hyields, hready'⟩ := h
    exact ⟨s', hyields, hready', fun _ _ => find_eq_some_of_yields_persist hyields⟩
  rcases hready.agrees row value hwrites with hnone | hsome
  . exact ⟨_, yields_persist.mpr ⟨hwrites.valid, .inl ⟨hnone, rfl⟩⟩, hready.put hwrites⟩
  . exact ⟨s, yields_persist.mpr ⟨hwrites.valid, .inr ⟨hsome, rfl⟩⟩, hready⟩

theorem Ready.reserveSession (hready : d.Ready s)
    : ∃ s', StoreM.Yields (reserveSession d.request d.binding) s () s' ∧ d.Ready s' ∧ Keeps s s' := by
  unfold Mpc.reserveSession
  simp only [StoreM.yields_bind, StoreM.yields_get, valid_reservationRow, true_and]
  rcases hready.agrees _ _ .reservation with hnone | hsome
  . refine ⟨s.apply (.put (reservationRow d.request) d.binding.toList), ⟨none, s, ⟨hnone.symm, rfl⟩, ?_⟩,
      hready.put .reservation, ?_⟩
    . simp [hnone, valid_reservationRow]
    . intro row bytes hfind
      refine (Store.find_apply_of_ne s ?_).trans hfind
      rintro rfl
      exact absurd (hfind.symm.trans hnone) (by simp)
  . refine ⟨s, ⟨_, s, ⟨hsome.symm, rfl⟩, ?_⟩, hready, fun _ _ => id⟩
    simp [hready.live, valid_retiredRow]

theorem validateProfile_output
    : validateProfile d.request d.pubkeys (d.output party) d.artifact.manifest = .ok () := by
  have hcount : d.artifact.manifest.members.toNat = d.pubkeys.length := d.memberCount.trans d.length_pubkeys.symm
  unfold validateProfile
  simp [output, d.artifact.valid, d.prefixBits, d.bandBits, d.threshold, hcount, rejectIf]

theorem importLocalSetupOutput_yields (hmembers : members.Perm d.pubkeys) (hready : d.Ready s)
    : ∃ s', StoreM.Yields (importLocalSetupOutput d.request members (d.keys.get party) party.val.toUInt8
        (d.output party) d.artifact) s (d.contribution party) s' ∧ d.Ready s' ∧ Keeps s s'
        ∧ s'.find (materialRow d.binding (d.pubkey party)) = some (encodeOpeningShare (d.opening party)) := by
  have hlength := d.length_keys_le
  have hparty : party.val.toUInt8.toNat = party.val := by
    change party.val % 256 = _
    omega
  obtain ⟨s₁, hreserve, hready₁, hkeeps₁⟩ := hready.reserveSession
  obtain ⟨s₂, hevidence, hready₂, hkeeps₂⟩ := hready₁.persistExact .evidence
  obtain ⟨s₃, hmaterial, hready₃, hkeeps₃⟩ := hready₂.persistExact (.material party)
  obtain ⟨s₄, hcontribution, hready₄, hkeeps₄⟩ := hready₃.persistExact (.contribution party)
  refine ⟨s₄, ?_, hready₄, ((hkeeps₁.trans hkeeps₂).trans hkeeps₃).trans hkeeps₄,
    find_eq_some_of_yields_persist hcontribution (find_of_yields_persist hmaterial)⟩
  unfold importLocalSetupOutput
  simp only [StoreM.yields_bind, StoreM.yields_ofExcept]
  refine ⟨d.pubkeys, s, ⟨d.canonicalMembers_eq hmembers, rfl⟩, (), s,
    ⟨validateProfile_output party, rfl⟩, (), s, ⟨?_, rfl⟩, (), s, ⟨?_, rfl⟩, (), s₁, hreserve, (), s₂, hevidence, (),
    s₃, hmaterial, (), s₄, hcontribution, ?_⟩
  . rw [hparty, rejectIf_of_not]
    simp [d.getElem?_pubkeys, pubkey]
  . apply rejectIf_of_not
    intro h
    have := congrArg UInt8.toNat h
    rw [hparty] at this
    change party.val = 255 at this
    omega
  . exact StoreM.yields_pure.mpr ⟨rfl, rfl⟩

/-!
### The assembly
-/

theorem verifyContributionSignature_contribution (hsigns : SignaturesVerify) (party : d.Party)
    : verifyContributionSignature (d.contribution party) = .ok () := by
  have hlength : (d.contribution party).signature.length = 64 := ByteVec.length_toList _
  have hkey : P.ed25519ValidKey (d.contribution party).memberPubkey = true := hsigns.validKey (d.keys.get party)
  unfold verifyContributionSignature
  rw [if_neg (by simp [hkey]), dif_pos hlength]
  apply rejectIf_of_not
  rw [not_not]
  exact hsigns.verify (d.keys.get party) _

variable {contributions : List DistributedSetupContribution}

theorem find?_contribution (h : contributions.Perm d.contributions) (party : d.Party)
    : contributions.find? (·.memberPubkey = d.pubkey party) = some (d.contribution party) := by
  have hmem : ∀ contribution ∈ contributions, ∃ party, d.contribution party = contribution := by
    intro contribution hcontribution
    obtain ⟨party, _, hparty⟩ := List.mem_map.mp (h.mem_iff.mp hcontribution)
    exact ⟨party, hparty⟩
  cases hfind : contributions.find? (·.memberPubkey = d.pubkey party) with
  | none =>
    rw [List.find?_eq_none] at hfind
    have := hfind (d.contribution party)
      (h.mem_iff.mpr (List.mem_map.mpr ⟨party, List.mem_finRange party, rfl⟩))
    exact absurd (decide_eq_true rfl) this
  | some found =>
    obtain ⟨party', rfl⟩ := hmem found (List.mem_of_find?_eq_some hfind)
    have hpubkey : (d.contribution party').memberPubkey = d.pubkey party := by simpa using List.find?_some hfind
    rw [d.pubkey_inj hpubkey]

theorem collectContributions_eq (hsigns : SignaturesVerify) (h : contributions.Perm d.contributions)
    {parties : List d.Party} {index : Nat} (hindex : parties.map (·.val) = List.range' index parties.length)
    {seen : List PublicKey} (hseen : ∀ pubkey ∈ seen, ∃ party : d.Party, party.val < index ∧ d.pubkey party = pubkey)
    : collectContributions contributions (parties.map d.pubkey) index seen = .ok (parties.map d.contribution) := by
  induction parties generalizing index seen with
  | nil => rfl
  | cons party parties ih =>
    rw [List.map_cons, List.length_cons, List.range'_succ, List.cons.injEq] at hindex
    obtain ⟨rfl, hrest⟩ := hindex
    have hfresh : (d.contribution party).memberPubkey ∉ seen := by
      intro hmem
      obtain ⟨party', hlt, hpubkey⟩ := hseen _ hmem
      rw [d.pubkey_inj hpubkey] at hlt
      omega
    have hpoint : (d.contribution party).x.toNat = party.val + 1 := d.toNat_point party
    rw [List.map_cons, List.map_cons]
    unfold collectContributions
    rw [find?_contribution h party]
    dsimp only
    rw [rejectIf_of_not (by simp [hfresh, hpoint]), verifyContributionSignature_contribution hsigns party]
    rw [ih hrest]
    . rfl
    . intro pubkey hmem
      rw [List.mem_cons] at hmem
      rcases hmem with rfl | hmem
      . exact ⟨party, by omega, rfl⟩
      . obtain ⟨party', hlt, hpubkey⟩ := hseen pubkey hmem
        exact ⟨party', by omega, hpubkey⟩

theorem pubkeys_eq : d.pubkeys = (List.finRange d.keys.length).map d.pubkey := by
  apply List.ext_getElem?
  intro i
  by_cases h : i < d.keys.length
  . rw [d.getElem?_pubkeys ⟨i, h⟩]
    simp [h]
  . simp [pubkeys, h]

variable (d)

def commitments : List Hash256 :=
  d.contributions.map (·.shareCommitment)

def assembly : DistributedSetupAssembly :=
  let outputId := publicOutputId d.request d.maskHash d.artifact.manifest
  let contributionRoot := merkleRoot (d.contributions.map fun contribution =>
    domainHash "meshmine/mask-setup-contribution/mp-spdz/v1" (encodeContribution contribution))
  { setup := {
      sessionBinding := d.binding
      parentHash := d.request.parentHash
      maskHash := d.maskHash
      maskCommitmentRoot := merkleRoot d.commitments
      transcriptRoot := distributedTranscriptRoot d.binding d.maskHash (merkleRoot d.commitments) d.artifact.artifactId
        outputId contributionRoot d.pubkeys
      leadingZeroPrefixQ := d.request.leadingZeroPrefixQ
      blindBandBitsD := d.request.blindBandBitsD
      threshold := d.request.threshold
      timedOpenAfterMs := d.request.timedOpenAfterMs
      members := d.pubkeys
      shareCommitments := d.commitments }
    artifactId := d.artifact.artifactId
    publicOutputId := outputId
    contributionRoot }

variable {d}

theorem headD_maskHash : (d.contributions.map (·.maskHash)).headD (ByteVec.zero 32) = d.maskHash := by
  have hne : d.keys ≠ [] := by
    have h := (canonicalMembers_eq_ok d.committee).1.1
    rwa [ne_eq, List.map_eq_nil_iff] at h
  have hall : ∀ maskHash ∈ d.contributions.map (·.maskHash), maskHash = d.maskHash := by
    simp [contributions, contribution, signContribution]
  cases hcontributions : d.contributions.map (·.maskHash) with
  | nil =>
    have hlength := congrArg List.length hcontributions
    simp [contributions] at hlength
    contradiction
  | cons first rest =>
    rw [List.headD_cons]
    apply hall
    simp [hcontributions]

theorem assembleOrdered_eq
    : assembleOrdered d.request d.pubkeys d.artifact d.contributions = .ok d.assembly := by
  unfold assembleOrdered
  dsimp only
  rw [headD_maskHash, rejectIf_of_not]
  . rfl
  . simp [contributions, contribution, signContribution, opening, signOpening, binding]

theorem assembleDistributedSetup_eq (hsigns : SignaturesVerify) (hmembers : members.Perm d.pubkeys)
    (hcontributions : contributions.Perm d.contributions)
    : assembleDistributedSetup d.request members contributions d.artifact = .ok d.assembly := by
  have hlength : contributions.length = d.pubkeys.length := by
    rw [hcontributions.length_eq, d.length_pubkeys]
    simp [DistributedMask.contributions]
  have hcount : d.artifact.manifest.members.toNat = d.pubkeys.length := d.memberCount.trans d.length_pubkeys.symm
  have hcollect : collectContributions contributions d.pubkeys 0 [] = .ok d.contributions := by
    rw [pubkeys_eq]
    apply collectContributions_eq hsigns hcontributions
    . simp [List.range_eq_range']
    . simp
  unfold assembleDistributedSetup
  rw [d.canonicalMembers_eq hmembers, ok_bind, rejectIf_of_not (by simp [hlength]),
    ok_bind, d.artifact.valid, ok_bind,
    rejectIf_of_not (by simp [d.prefixBits, d.bandBits, d.threshold, hcount]), ok_bind, hcollect,
    ok_bind]
  exact assembleOrdered_eq

/-!
### Openings
-/

theorem takes_opening (hsigns : SignaturesVerify) (party : d.Party)
    : d.assembly.setup.Takes (d.opening party) party := by
  constructor
  . exact d.getElem?_pubkeys party
  . rfl
  . exact d.toNat_point party
  . change ((List.finRange _).map _ |>.map _)[party.val]? = _
    simp [contribution, signContribution]
  . exact signOpening_verifies hsigns _ _ _ _

theorem loadLocalOpening_yields (hsigns : SignaturesVerify) {party : d.Party}
    (h : s.find (materialRow d.binding (d.pubkey party)) = some (encodeOpeningShare (d.opening party)))
    : StoreM.Yields (loadLocalOpening d.binding (d.pubkey party)) s (d.opening party) s := by
  have hlength : (d.opening party).signature.length = 64 := ByteVec.length_toList _
  have hverify : verifyOpeningSignature (d.opening party) = .ok () := signOpening_verifies hsigns _ _ _ _
  unfold loadLocalOpening
  rw [StoreM.yields_bind]
  refine ⟨_, s, StoreM.yields_get.mpr ⟨valid_materialRow _ _, h.symm, rfl⟩, ?_⟩
  simp only [StoreM.yields_bind, StoreM.yields_ofExcept, StoreM.yields_pure,
    decodeOpeningShare_encodeOpeningShare (hlength.le.trans (by decide))]
  refine ⟨d.opening party, s, ⟨rfl, rfl⟩, (), s, ⟨?_, rfl⟩, (), s, ⟨?_, rfl⟩, rfl, rfl⟩
  . apply rejectIf_of_not
    simp [opening, signOpening, pubkey]
  . rw [hverify]
    rfl

variable (d)

/-- One member's import: into which of the stores, and with the members listed in which order. -/
structure LocalImport (ι : Type) where
  party : d.Party
  host : ι
  members : List PublicKey

def LocalImport.run {ι : Type} {d : DistributedMask} (i : d.LocalImport ι)
    : StoreM DistributedSetupError DistributedSetupContribution :=
  importLocalSetupOutput d.request i.members (d.keys.get i.party) i.party.val.toUInt8 (d.output i.party) d.artifact

def importAll {ι : Type} [DecidableEq ι]
    : List (d.LocalImport ι) → (ι → Store)
      → Except DistributedSetupError (List DistributedSetupContribution) × (ι → Store)
  | [], stores => (.ok [], stores)
  | i :: rest, stores =>
    let (result, s) := i.run.run.run (stores i.host)
    let stores := Function.update stores i.host s
    match result with
    | .error error => (.error error, stores)
    | .ok contribution =>
      let (results, stores) := importAll rest stores
      (results.map (contribution :: ·), stores)

variable {d}

theorem importAll_eq {ι : Type} [DecidableEq ι] {imports : List (d.LocalImport ι)}
    (hmembers : ∀ i ∈ imports, i.members.Perm d.pubkeys) {stores : ι → Store} (hready : ∀ host, d.Ready (stores host))
    : ∃ stores', d.importAll imports stores = (.ok (imports.map fun i => d.contribution i.party), stores')
      ∧ (∀ host, Keeps (stores host) (stores' host))
      ∧ ∀ i ∈ imports, (stores' i.host).find (materialRow d.binding (d.pubkey i.party))
        = some (encodeOpeningShare (d.opening i.party)) := by
  induction imports generalizing stores with
  | nil => exact ⟨stores, rfl, fun _ _ _ => id, by simp⟩
  | cons i imports ih =>
    rw [List.forall_mem_cons] at hmembers
    obtain ⟨s, hyields, hs, hkeeps, hmaterial⟩ := importLocalSetupOutput_yields i.party hmembers.1 (hready i.host)
    have hupdate : ∀ host, d.Ready (Function.update stores i.host s host)
        ∧ Keeps (stores host) (Function.update stores i.host s host) := by
      intro host
      by_cases heq : host = i.host
      . rw [heq, Function.update_self]
        exact ⟨hs, hkeeps⟩
      . rw [Function.update_of_ne heq]
        exact ⟨hready host, fun _ _ => id⟩
    obtain ⟨stores', hrest, hkeeps', hmaterials⟩ := ih hmembers.2 fun host => (hupdate host).1
    refine ⟨stores', ?_, fun host => (hupdate host).2.trans (hkeeps' host), ?_⟩
    rotate_left
    . rw [List.forall_mem_cons]
      refine ⟨hkeeps' i.host _ _ ?_, hmaterials⟩
      rwa [Function.update_self]
    have hrun : i.run.run.run (stores i.host) = (.ok (d.contribution i.party), s) := hyields
    unfold importAll
    rw [hrun]
    dsimp only
    rw [hrest]
    rfl

theorem values_opening
    : (d.opening party).values.toList
      = d.polynomials.map fun coefficients => gfEval coefficients (d.opening party).x := rfl

theorem nodup_points {parties : List d.Party} (h : parties.Nodup) : ((parties.map d.opening).map (·.x)).Nodup := by
  rw [List.map_map]
  apply h.map
  intro party party' hpoint
  have htoNat := congrArg UInt8.toNat hpoint
  have hparty : (d.opening party).x.toNat = party.val + 1 := d.toNat_point party
  have hparty' : (d.opening party').x.toNat = party'.val + 1 := d.toNat_point party'
  simp only [Function.comp_apply, hparty, hparty'] at htoNat
  exact Fin.ext (by omega)

/-- The members import their outputs in any order, each with the members in any order and into any of the stores; the
contributions, in any order again, assemble to one setup, and any members that reach the threshold open the mask. -/
theorem importAll_assembles (hsigns : SignaturesVerify) (d : DistributedMask) {ι : Type} [DecidableEq ι]
    {imports : List (d.LocalImport ι)} (hmembers : ∀ i ∈ imports, i.members.Perm d.pubkeys)
    (hparties : (imports.map (·.party)).Perm (List.finRange d.keys.length)) {stores : ι → Store}
    (hready : ∀ host, d.Ready (stores host))
    : ∃ contributions stores', d.importAll imports stores = (.ok contributions, stores')
      ∧ (∀ members contributions', members.Perm d.pubkeys → contributions'.Perm contributions
        → assembleDistributedSetup d.request members contributions' d.artifact = .ok d.assembly)
      ∧ (∀ i ∈ imports, StoreM.Yields (loadLocalOpening d.binding (d.pubkey i.party)) (stores' i.host)
        (d.opening i.party) (stores' i.host))
      ∧ ∀ parties : List d.Party, parties.Nodup → d.request.threshold.toNat ≤ parties.length
        → shamirReconstruct (((sortByPoint (parties.map d.opening)).take d.request.threshold.toNat).map
            fun share => (share.x, share.values)) = d.mask
          ∧ ∀ gate nowMs, timedOpen d.assembly.setup (parties.map d.opening) gate nowMs = (do
            rejectIf (¬ gate.acceptedBoundaryFixed) .boundaryNotFixed
            rejectIf (nowMs < gate.timedOpenAfterMs ∨ nowMs < d.request.timedOpenAfterMs) .openingTooEarly
            rejectIf (¬ maskConstraintsValid d.mask d.request.leadingZeroPrefixQ.toNat d.request.blindBandBitsD.toNat)
              .maskConstraintViolation
            rejectIf (P.blake2b256 (d.request.parentHash.toList ++ d.mask.toList) ≠ d.maskHash) .maskHashMismatch
            return openedMask d.mask (sortByPoint (parties.map d.opening))) := by
  obtain ⟨stores', hrun, _, hmaterials⟩ := importAll_eq hmembers hready
  have hcontributions : (imports.map fun i => d.contribution i.party).Perm d.contributions := by
    have h := hparties.map d.contribution
    rwa [List.map_map] at h
  refine ⟨_, stores', hrun, ?_, fun i hi => loadLocalOpening_yields hsigns (hmaterials i hi), ?_⟩
  . intro members contributions' hmembers' hcontributions'
    exact assembleDistributedSetup_eq hsigns hmembers' (hcontributions'.trans hcontributions)
  . intro parties hnodup hthreshold
    have hlength : d.request.threshold.toNat ≤ (parties.map d.opening).length := by rwa [List.length_map]
    have hmask := shamirReconstruct_sortByPoint (nodup_points hnodup) hlength d.degree
      (by simp [values_opening]) d.constants
    refine ⟨hmask, ?_⟩
    intro gate nowMs
    have hroot : merkleRoot d.assembly.setup.shareCommitments = d.assembly.setup.maskCommitmentRoot := rfl
    have htakes : ∀ share ∈ parties.map d.opening, ∃ index, d.assembly.setup.Takes share index := by
      intro share hmem
      obtain ⟨party, _, rfl⟩ := List.mem_map.mp hmem
      exact ⟨party, takes_opening hsigns party⟩
    unfold timedOpen
    rw [reconstructVerified_eq hroot d.nodup_pubkeys htakes (nodup_points hnodup) hlength hmask]
    rfl

theorem ready_empty : d.Ready ∅ :=
  ⟨fun _ _ _ => .inl rfl, rfl⟩

end DistributedMask

end

def sampleFile : ArtifactFileIdentity :=
  ⟨1, ByteVec.fill 32 1⟩

def sampleArtifact : ApprovedMpSpdzArtifact where
  manifest := {
    mpSpdzRevision := ByteVec.fill 20 6
    buildEnvironmentDigest := ByteVec.fill 32 7
    setupSource := sampleFile
    maskHashCircuit := sampleFile
    bytecode := sampleFile
    schedule := sampleFile
    runtimeBinary := sampleFile
    runtimeLibrary := sampleFile
    leadingZeroPrefixQ := 8
    blindBandBitsD := 8
    members := 3
    threshold := 2
    integerBitLength := 64
    arithmeticFieldBits := 128
    binaryRegisterBits := 64
    statisticalSecurityBits := 40
    classicDabits := true
    preserveMemoryOrder := true
    littleEndianBinaryOutput := true }
  valid := by decide

def sampleDistributed : @DistributedMask Primitives.fold :=
  letI := Primitives.fold
  { request := sampleRequest
    keys := [ByteVec.fill 32 1, ByteVec.fill 32 2, ByteVec.fill 32 3]
    artifact := sampleArtifact
    maskHash := Primitives.blake2b256 (sampleRequest.parentHash.toList ++ sampleMask.toList)
    mask := sampleMask
    polynomials := sampleMask.toList.map fun byte => [byte, byte + 7]
    committee := by decide
    prefixBits := rfl
    bandBits := rfl
    memberCount := rfl
    threshold := rfl
    constants := by decide +kernel
    degree := by decide }

/-- The third, the first and the second member, each into a store of its own. -/
def sampleImports : List (@DistributedMask.LocalImport Primitives.fold sampleDistributed (Fin 3)) :=
  letI := Primitives.fold
  [⟨(2 : Fin 3), 0, [ByteVec.fill 32 3, ByteVec.fill 32 1, ByteVec.fill 32 2]⟩,
    ⟨(0 : Fin 3), 1, [ByteVec.fill 32 1, ByteVec.fill 32 2, ByteVec.fill 32 3]⟩,
    ⟨(1 : Fin 3), 2, [ByteVec.fill 32 2, ByteVec.fill 32 3, ByteVec.fill 32 1]⟩]

def sampleStores : Fin 3 → Store :=
  fun _ => ∅

theorem DistributedMask.importAll_assembles_sample
    : letI := Primitives.fold
      ∃ contributions stores', sampleDistributed.importAll sampleImports sampleStores = (.ok contributions, stores')
        ∧ assembleDistributedSetup sampleRequest [ByteVec.fill 32 2, ByteVec.fill 32 1, ByteVec.fill 32 3] contributions
          sampleArtifact = .ok sampleDistributed.assembly
        ∧ ∃ opened, timedOpen sampleDistributed.assembly.setup
            (([2, 1] : List (Fin 3)).map sampleDistributed.opening) ⟨900, true⟩ 1000 = .ok opened
          ∧ opened.mask = sampleMask := by
  let P := Primitives.fold
  have hmembers : ∀ i ∈ sampleImports, i.members.Perm sampleDistributed.pubkeys := by decide
  have hparties : (sampleImports.map (·.party)).Perm (List.finRange sampleDistributed.keys.length) := by decide
  have hready : ∀ host, sampleDistributed.Ready (sampleStores host) := fun _ => ready_empty
  obtain ⟨contributions, stores', hrun, hassemble, _, hopen⟩ :=
    importAll_assembles signaturesVerify_fold sampleDistributed hmembers hparties hready
  obtain ⟨_, hopen⟩ := hopen [(2 : Fin 3), (1 : Fin 3)] (by decide) (by decide)
  have hconstraints : ¬ ¬ maskConstraintsValid sampleDistributed.mask sampleDistributed.request.leadingZeroPrefixQ.toNat
      sampleDistributed.request.blindBandBitsD.toNat := by decide
  refine ⟨contributions, stores', hrun, hassemble _ _ (by decide) (.refl _),
    openedMask sampleMask (sortByPoint (([2, 1] : List (Fin 3)).map sampleDistributed.opening)), ?_, rfl⟩
  refine (hopen ⟨900, true⟩ 1000).trans ?_
  rw [rejectIf_of_not (by decide), rejectIf_of_not (by decide),
    rejectIf_of_not hconstraints, rejectIf_of_not (fun h => h rfl)]
  rfl

end MeshMine.Mpc
