import MeshMine.Body.Availability
import MeshMine.Data.HashTree

/-!
A body comes back from its shards. The Merkle tree of the descriptor is a `HashTree`, so that an accepted shard is
the one that was encoded at its index, or there is a collision between what the encoder and the verifier have
hashed.
-/

namespace MeshMine.Body

open MeshMine.Types Codec Hns
open Except (rejectIf rejectIf_eq_ok bind_eq_ok bind_unit_eq_ok rejectIf_of_not)

section

variable [P : Primitives]

/-!
### The Merkle tree
-/

def merkleHash : TreeHash Hash256 Hash256 (List UInt8) where
  hash := P.blake2b256
  empty := []
  leaf a := 0 :: a.toList
  node a b := 1 :: a.toList ++ b.toList
  leaf_inj h := by
    injection h with _ h
    exact ByteVec.ext h
  node_inj {a b c d} h := by
    injection h with _ h
    have hlength : a.toList.length = c.toList.length := by
      rw [a.length_toList, c.length_toList]
    obtain ⟨hleft, hright⟩ := List.append_inj h hlength
    exact ⟨ByteVec.ext hleft, ByteVec.ext hright⟩
  leaf_ne_empty a := by simp
  node_ne_empty a b := by simp
  leaf_ne_node a b c := by simp

def merkleTree (leaves : List Hash256) : HashTree Hash256 :=
  .ofLevel leaves.length (leaves.map .leaf)

theorem map_root_pairUp (level : List (HashTree Hash256))
    : (HashTree.pairUp level).map merkleHash.root = merkleLevel (level.map merkleHash.root) := by
  induction level using HashTree.pairUp.induct with
  | case1 => rfl
  | case2 last => rfl
  | case3 left right rest ih =>
    simp only [HashTree.pairUp, List.map_cons, merkleLevel, ih]
    rfl

theorem root_ofLevel (rounds : Nat) (level : List (HashTree Hash256))
    : merkleHash.root (.ofLevel rounds level) = merkleRoot.go rounds (level.map merkleHash.root) := by
  induction rounds generalizing level with
  | zero => cases level <;> rfl
  | succ rounds ih =>
    match level with
    | [] => rfl
    | [_] => rfl
    | first :: second :: rest =>
      have hup := map_root_pairUp (first :: second :: rest)
      simp only [HashTree.ofLevel, List.map_cons, merkleRoot.go] at hup ⊢
      rw [ih, hup]

variable {leaves : List Hash256}

theorem root_merkleTree (leaves : List Hash256)
    : merkleHash.root (merkleTree leaves) = merkleRoot leaves := by
  cases leaves with
  | nil => rfl
  | cons first rest =>
    unfold merkleTree
    rw [root_ofLevel]
    unfold merkleRoot
    simp [Function.comp_def, TreeHash.root, merkleHash]

def merkleMessages (leaves : List Hash256) : List (List UInt8) :=
  merkleHash.messages (merkleTree leaves)

omit P in
theorem leaves_merkleTree (leaves : List Hash256) : (merkleTree leaves).leaves = leaves := by
  unfold merkleTree
  rw [HashTree.leaves_ofLevel (by simp)]
  simp [HashTree.leaves, List.flatMap_map]

theorem merkleRoot_binds {leaves' : List Hash256} (h : merkleRoot leaves = merkleRoot leaves')
    : leaves = leaves' ∨ merkleHash.Collides (merkleMessages leaves') (merkleMessages leaves) := by
  rw [← root_merkleTree, ← root_merkleTree] at h
  rcases TreeHash.root_inj h with hcollides | htree
  . exact .inr hcollides
  . left
    rw [← leaves_merkleTree leaves, htree, leaves_merkleTree]

omit P in
/-- Under a hash that is constant, lists of different lengths collide. -/
theorem merkleRoot_binds_sample
    : letI : Primitives := { Primitives.fold with blake2b256 := fun _ => .zero 32 }
      merkleHash.Collides (merkleMessages [.fill 32 1]) (merkleMessages [.fill 32 2, .fill 32 3]) :=
  letI : Primitives := { Primitives.fold with blake2b256 := fun _ => .zero 32 }
  (@merkleRoot_binds _ [.fill 32 2, .fill 32 3] [.fill 32 1] rfl).resolve_left (by decide)

/-!
### Proofs
-/

/-- The siblings of a proof with the directions of its position. -/
def proofPath : Nat → List Hash256 → List (Bool × Hash256)
  | _, [] => []
  | position, sibling :: siblings => (decide (position % 2 = 1), sibling) :: proofPath (position / 2) siblings

omit P in
theorem map_fst_proofPath (position : Nat) (siblings : List Hash256)
    : (proofPath position siblings).map Prod.fst = HashTree.directions siblings.length position := by
  induction siblings generalizing position with
  | nil => rfl
  | cons sibling siblings ih => simp [proofPath, HashTree.directions, ih]

theorem climbProof_eq (root : Hash256) (position : Nat) (siblings : List Hash256)
    : climbProof root position siblings = merkleHash.climb root (proofPath position siblings) := by
  induction siblings generalizing root position with
  | nil => rfl
  | cons sibling siblings ih =>
    unfold climbProof
    rw [ih]
    rcases Nat.mod_two_eq_zero_or_one position with heven | hodd
    . simp [proofPath, TreeHash.climb, TreeHash.join, merkleHash, merklePair, heven]
    . simp [proofPath, TreeHash.climb, TreeHash.join, merkleHash, merklePair, hodd]

def proofMessages (leaf : Hash256) (proof : ShardProof) : List (List UInt8) :=
  (0 :: leaf.toList) :: merkleHash.climbMessages (P.blake2b256 (0 :: leaf.toList))
    (proofPath proof.shardIndex.toNat proof.siblings)

variable {leaf : Hash256}

theorem leaf_of_verifyProof {proof : ShardProof} (hindex : proof.shardIndex.toNat < leaves.length)
    (h : verifyProof leaf proof (merkleRoot leaves) = true)
    : merkleHash.Collides (merkleMessages leaves) (proofMessages leaf proof)
      ∨ leaves[proof.shardIndex.toNat]? = some leaf := by
  have hne : leaves ≠ [] := List.ne_nil_of_length_pos (by omega)
  unfold verifyProof at h
  rw [decide_eq_true_eq, climbProof_eq, ← root_merkleTree] at h
  rcases TreeHash.opens (H := merkleHash) (a := leaf) h with hcollides | hfollow
  . exact .inl hcollides
  right
  rw [map_fst_proofPath] at hfollow
  have hrounds : (leaves.map HashTree.leaf).length ≤ leaves.length := by simp
  obtain ⟨height, hdepth, hplace⟩ := HashTree.exists_height hrounds (by simpa using hne)
  have hleaves : (merkleTree leaves).HasDepth height := by
    have := hdepth 0 (by simp [HashTree.HasDepth])
    rwa [Nat.zero_add] at this
  -- All leaves have the same depth, so that the proof has as many siblings as the tree has levels.
  have hheight := hleaves.length_eq hfollow
  rw [List.length_reverse, HashTree.length_directions] at hheight
  rw [hheight] at hfollow
  have hat := hplace proof.shardIndex.toNat (by simpa using hindex)
  rw [List.getElem?_map] at hat
  have heq := hat.symm.trans hfollow
  simpa using heq

variable {level : List Hash256} {position : Nat} {digest : Hash256}

theorem merkleLevel_getElem? (h : level[position]? = some digest)
    : (merkleLevel level)[position / 2]? = some
        (if position % 2 = 0 then merklePair digest (level.getD (position ^^^ 1) merkleSentinel)
        else merklePair (level.getD (position ^^^ 1) merkleSentinel) digest) := by
  induction level using merkleLevel.induct generalizing position with
  | case1 => simp at h
  | case2 last =>
    match position with
    | 0 =>
      injection h with h
      subst h
      rfl
    | position + 1 => simp at h
  | case3 left right rest ih =>
    match position with
    | 0 =>
      injection h with h
      subst h
      rfl
    | 1 =>
      injection h with h
      subst h
      rfl
    | position + 2 =>
      have hdiv : (position + 2) / 2 = position / 2 + 1 := by omega
      have hmod : (position + 2) % 2 = position % 2 := by omega
      have hxor : (position + 2) ^^^ 1 = (position ^^^ 1) + 2 := by
        rcases Nat.even_or_odd position with heven | hodd
        . rw [Nat.xor_one_of_even heven, Nat.xor_one_of_even (heven.add even_two)]
        . rw [Nat.xor_one_of_odd hodd, Nat.xor_one_of_odd (hodd.add_even even_two)]
          obtain ⟨half, hhalf⟩ := hodd
          omega
      rw [hdiv, hmod, hxor]
      exact ih h

theorem climbProof_createProof {rounds : Nat} (hrounds : level.length ≤ rounds) (h : level[position]? = some digest)
    : climbProof digest position (createProof.go rounds level position) = merkleRoot.go rounds level := by
  induction rounds generalizing level position digest with
  | zero =>
    have hnil : level = [] := List.length_eq_zero_iff.mp (by omega)
    rw [hnil] at h
    contradiction
  | succ rounds ih =>
    match level with
    | [] => contradiction
    | [only] =>
      match position with
      | 0 =>
        injection h with h
        subst h
        rfl
      | position + 1 => simp at h
    | first :: second :: rest =>
      have hlength := merkleLevel_length (first :: second :: rest)
      simp only [List.length_cons] at hrounds hlength
      simp only [createProof.go, merkleRoot.go, climbProof]
      exact ih (by omega) (merkleLevel_getElem? h)

theorem verifyProof_createProof {index : Nat} (hindex : index < 2 ^ 16) (h : leaves[index]? = some leaf)
    : verifyProof leaf (createProof leaves index) (merkleRoot leaves) = true := by
  have htoNat : (UInt16.ofNat index).toNat = index := UInt16.toNat_ofNat_of_lt' hindex
  have hlevel : (leaves.map fun leaf => P.blake2b256 (0 :: leaf.toList))[index]?
      = some (P.blake2b256 (0 :: leaf.toList)) := by
    rw [List.getElem?_map, h]
    rfl
  unfold verifyProof
  rw [decide_eq_true_eq]
  simp only [createProof, htoNat]
  rw [climbProof_createProof (by simp) hlevel]
  cases leaves with
  | nil => contradiction
  | cons first rest => rfl

/-!
### Shards
-/

def shardLeafInput (bodyId : Hash256) (index : UInt16) (shard : List UInt8) : List UInt8 :=
  Encoder.bytes (asciiBytes shardDomain) ++ (Encoder.fixed bodyId ++ Encoder.u16 index ++ Encoder.bytes shard)

theorem shardLeaf_eq (bodyId : Hash256) (index : UInt16) (shard : List UInt8)
    : shardLeaf bodyId index shard = P.blake2b256 (shardLeafInput bodyId index shard) := rfl

omit P in
theorem shardLeafInput_inj {bodyId : Hash256} {index : UInt16} {shard shard' : List UInt8}
    (hlength : shard.length = shard'.length)
    (h : shardLeafInput bodyId index shard = shardLeafInput bodyId index shard')
    : shard = shard' := by
  unfold shardLeafInput Encoder.bytes at h
  rw [hlength] at h
  simpa using h

def shardLeaves (bodyId : Hash256) (word : List (List UInt8)) : List Hash256 :=
  word.mapIdx fun index shard => shardLeaf bodyId (UInt16.ofNat index) shard

omit P in
theorem length_bodyShard (shardSize : Nat) (body : List UInt8) (index : Nat)
    : (bodyShard shardSize body index).length = shardSize := by
  simp only [bodyShard, List.length_append, List.length_replicate, List.length_take]
  omega

omit P in
theorem flatten_bodyShards (shardSize : Nat) (body : List UInt8) (count : Nat) (h : body.length ≤ count * shardSize)
    : ((List.range count).map (bodyShard shardSize body)).flatten
      = body ++ List.replicate (count * shardSize - body.length) 0 := by
  induction count generalizing body with
  | zero =>
    have hnil : body = [] := List.length_eq_zero_iff.mp (by omega)
    simp [hnil]
  | succ count ih =>
    have hnext : ∀ index, bodyShard shardSize body (index + 1)
        = bodyShard shardSize (body.drop shardSize) index := by
      intro index
      simp [bodyShard, Nat.add_mul, Nat.add_comm]
    rw [List.range_succ_eq_map, List.map_cons, List.map_map, List.flatten_cons]
    have hrest : (List.range count).map (bodyShard shardSize body ∘ Nat.succ)
        = (List.range count).map (bodyShard shardSize (body.drop shardSize)) := by
      apply List.map_congr_left
      intro index _
      exact hnext index
    have hlength : (body.drop shardSize).length ≤ count * shardSize := by
      rw [List.length_drop]
      rw [Nat.add_mul] at h
      omega
    rw [hrest, ih _ hlength]
    rw [Nat.add_mul] at h ⊢
    by_cases hle : shardSize ≤ body.length
    . have hfull : bodyShard shardSize body 0 = body.take shardSize := by
        simp [bodyShard, hle]
      have hpad : count * shardSize - (body.length - shardSize) = count * shardSize + 1 * shardSize - body.length := by
        omega
      rw [hfull, ← List.append_assoc, List.take_append_drop, List.length_drop, hpad]
    . have hlast : bodyShard shardSize body 0 = body ++ List.replicate (shardSize - body.length) 0 := by
        have htake : body.take shardSize = body := List.take_of_length_le (by omega)
        simp [bodyShard, htake]
      have hdrop : body.drop shardSize = [] := List.drop_eq_nil_of_le (by omega)
      have hpad : count * shardSize + 1 * shardSize - body.length
          = (shardSize - body.length) + count * shardSize := by
        omega
      rw [hlast, hdrop, hpad, List.replicate_add]
      simp

/-- A systematic code in which any `data` shards determine the rest. -/
structure ErasureCode.SystematicMds (code : ErasureCode) : Prop where
  encodes : ∀ {data parity : Nat} (size : Nat) {shards word : List (List UInt8)}, code.create data parity = .ok ()
    → shards.length = data + parity → (∀ shard ∈ shards, shard.length = size)
    → code.encode data parity shards = .ok word
    → word.length = data + parity ∧ (∀ shard ∈ word, shard.length = size) ∧ word.take data = shards.take data
  reconstructs : ∀ {data parity : Nat} (size : Nat) {shards word : List (List UInt8)}
    {known : List (Option (List UInt8))}, code.create data parity = .ok ()
    → shards.length = data + parity → (∀ shard ∈ shards, shard.length = size)
    → code.encode data parity shards = .ok word
    → List.Forall₂ (fun bytes shard => ∀ b, bytes = some b → b = shard) known word
    → data ≤ known.countP (·.isSome)
    → code.reconstruct data parity known = .ok (word.map some)

/-- What `encodeBody` has made of a body; `word` are the shards of the code. -/
structure Encoding (code : ErasureCode) (body : List UInt8) (encoded : EncodedBody)
    (word : List (List UInt8)) : Prop where
  total : encoded.descriptor.dataShards.toNat + encoded.descriptor.parityShards.toNat < 2 ^ 16
  created : code.create encoded.descriptor.dataShards.toNat encoded.descriptor.parityShards.toNat = .ok ()
  coded : code.encode encoded.descriptor.dataShards.toNat encoded.descriptor.parityShards.toNat
    ((List.range (encoded.descriptor.dataShards.toNat + encoded.descriptor.parityShards.toNat)).map
      (bodyShard encoded.descriptor.shardSize.toNat body)) = .ok word
  fits : body.length ≤ encoded.descriptor.dataShards.toNat * encoded.descriptor.shardSize.toNat
  original : encoded.descriptor.originalSize.toNat = body.length
  root : encoded.descriptor.shardMerkleRoot
    = merkleRoot (shardLeaves encoded.descriptor.bodyPackageId word)
  shards : encoded.shards = word.mapIdx fun index bytes => {
    index := UInt16.ofNat index
    bytes
    proof := createProof (shardLeaves encoded.descriptor.bodyPackageId word) index }

variable {code : ErasureCode} {body : List UInt8} {encoded : EncodedBody} {word : List (List UInt8)}

theorem encoding_of_encodeBody {protocolVersion : UInt16} {networkId : UInt8} {bodyPackageId : Hash256}
    {dataShards parityShards : UInt16} {expiryHeight : UInt32}
    (h : encodeBody code protocolVersion networkId bodyPackageId body dataShards parityShards expiryHeight
      = .ok encoded)
    : ∃ word, Encoding code body encoded word ∧ encoded.descriptor.bodyPackageId = bodyPackageId
      ∧ encoded.descriptor.dataShards = dataShards := by
  unfold encodeBody at h
  simp only [bind_unit_eq_ok, rejectIf_eq_ok, not_or, not_le, Except.mapError_eq_ok] at h
  obtain ⟨⟨hdata, _⟩, htotal, hbody, hsize, hcreated, h⟩ := h
  obtain ⟨word, hword, h⟩ := bind_eq_ok h
  rw [Except.mapError_eq_ok] at hword
  injection h with h
  subst h
  have hpositive : 0 < dataShards.toNat := by
    rw [Nat.pos_iff_ne_zero]
    intro hzero
    exact hdata (UInt16.toNat_inj.mp hzero)
  generalize hceil : (max body.length 1 + (dataShards.toNat - 1)) / dataShards.toNat = shardSize
    at hsize hword
  have hshardSize : (UInt32.ofNat shardSize).toNat = shardSize := UInt32.toNat_ofNat_of_lt' hsize
  refine ⟨word, ?_, rfl, rfl⟩
  constructor
  case total => exact htotal
  case created => exact hcreated
  case coded =>
    dsimp only
    rw [hshardSize]
    exact hword
  case fits =>
    dsimp only
    rw [hshardSize, ← hceil]
    have hdiv := Nat.lt_mul_div_succ (max body.length 1 + (dataShards.toNat - 1)) hpositive
    rw [Nat.mul_add] at hdiv
    omega
  case original => exact UInt32.toNat_ofNat_of_lt' hbody
  case root => rfl
  case shards => rfl

variable {known : List (Option (List UInt8))}

namespace Encoding

variable (h : Encoding code body encoded word) (hcode : code.SystematicMds)
include h hcode

theorem word_spec
    : word.length = encoded.descriptor.dataShards.toNat + encoded.descriptor.parityShards.toNat
      ∧ (∀ shard ∈ word, shard.length = encoded.descriptor.shardSize.toNat)
      ∧ (word.take encoded.descriptor.dataShards.toNat).flatten.take body.length = body := by
  obtain ⟨hlength, hsizes, hdata⟩ := hcode.encodes encoded.descriptor.shardSize.toNat h.created
    (by simp) (by simp [length_bodyShard]) h.coded
  refine ⟨hlength, hsizes, ?_⟩
  rw [hdata, ← List.map_take, List.take_range, min_eq_left (by omega), flatten_bodyShards _ _ _ h.fits]
  simp

theorem reconstruct_known (hknown : List.Forall₂ (fun bytes shard => ∀ b, bytes = some b → b = shard) known word)
    (hcount : encoded.descriptor.dataShards.toNat ≤ known.countP (·.isSome))
    : code.reconstruct encoded.descriptor.dataShards.toNat encoded.descriptor.parityShards.toNat known
      = .ok (word.map some) := by
  apply hcode.reconstructs encoded.descriptor.shardSize.toNat h.created _ _ h.coded hknown hcount
  . simp
  . simp [length_bodyShard]

end Encoding

/-!
### Accepted shards
-/

def encodeMessages (encoded : EncodedBody) : List (List UInt8) :=
  encoded.shards.map (fun shard => shardLeafInput encoded.descriptor.bodyPackageId shard.index shard.bytes)
    ++ merkleMessages (encoded.shards.map fun shard =>
      shardLeaf encoded.descriptor.bodyPackageId shard.index shard.bytes)

def verifyMessages (descriptor : BodyErasureDescriptorV2) (shard : StoredShard) : List (List UInt8) :=
  shardLeafInput descriptor.bodyPackageId shard.index shard.bytes
    :: proofMessages (shardLeaf descriptor.bodyPackageId shard.index shard.bytes) shard.proof

theorem Encoding.encodeMessages_eq (h : Encoding code body encoded word)
    : encodeMessages encoded
      = word.mapIdx (fun index shard =>
          shardLeafInput encoded.descriptor.bodyPackageId (UInt16.ofNat index) shard)
        ++ merkleMessages (shardLeaves encoded.descriptor.bodyPackageId word) := by
  have hmap : ∀ {α : Type} (f : UInt16 → List UInt8 → α), encoded.shards.map (fun shard => f shard.index shard.bytes)
      = word.mapIdx fun index shard => f (UInt16.ofNat index) shard := by
    intro α f
    rw [h.shards]
    apply List.ext_getElem?
    intro index
    simp [Function.comp_def]
  unfold encodeMessages shardLeaves
  rw [hmap, hmap]

variable {shard : StoredShard}

theorem Encoding.shard_of_verifyShard (h : Encoding code body encoded word) (hcode : code.SystematicMds)
    (hverify : verifyShard encoded.descriptor shard = true)
    (hindex : shard.index.toNat < encoded.descriptor.dataShards.toNat + encoded.descriptor.parityShards.toNat)
    (hlength : shard.bytes.length = encoded.descriptor.shardSize.toNat)
    : merkleHash.Collides (encodeMessages encoded) (verifyMessages encoded.descriptor shard)
      ∨ word[shard.index.toNat]? = some shard.bytes := by
  obtain ⟨hword, hsizes, _⟩ := h.word_spec hcode
  unfold verifyShard at hverify
  simp only [Bool.and_eq_true, decide_eq_true_eq] at hverify
  obtain ⟨⟨⟨hproof, _⟩, _⟩, hverify⟩ := hverify
  rw [h.root] at hverify
  have hleaves : (shardLeaves encoded.descriptor.bodyPackageId word).length = word.length := by
    simp [shardLeaves]
  rw [h.encodeMessages_eq]
  rcases leaf_of_verifyProof (by rw [hproof, hleaves]; omega) hverify with hcollides | hleaf
  . left
    exact hcollides.mono (List.subset_append_right ..) (List.subset_cons_self ..)
  rw [hproof, shardLeaves, List.getElem?_mapIdx] at hleaf
  obtain ⟨genuine, hgenuine, heq⟩ := Option.map_eq_some_iff.mp hleaf
  have htoNat : UInt16.ofNat shard.index.toNat = shard.index := UInt16.ofNat_toNat
  rw [htoNat, shardLeaf_eq, shardLeaf_eq] at heq
  have hmem : shardLeafInput encoded.descriptor.bodyPackageId shard.index genuine
      ∈ word.mapIdx (fun index shard =>
          shardLeafInput encoded.descriptor.bodyPackageId (UInt16.ofNat index) shard)
        ++ merkleMessages (shardLeaves encoded.descriptor.bodyPackageId word) := by
    apply List.mem_append_left
    rw [List.mem_mapIdx]
    obtain ⟨hlt, hget⟩ := List.getElem?_eq_some_iff.mp hgenuine
    exact ⟨shard.index.toNat, hlt, by rw [hget, htoNat]⟩
  rcases TreeHash.eq_or_collides (H := merkleHash) hmem (List.mem_cons_self ..) heq.symm with hcollides | hinput
  . exact .inl hcollides
  right
  have hsize := hsizes genuine (List.mem_of_getElem? hgenuine)
  rw [hgenuine, shardLeafInput_inj (hlength.trans hsize.symm) hinput]

def Known (known : List (Option (List UInt8))) (word : List (List UInt8)) : Prop :=
  known.length = word.length ∧ ∀ (index : Nat) bytes, known[index]? = some (some bytes) → word[index]? = some bytes

omit P in
theorem Known.forall₂ (h : Known known word)
    : List.Forall₂ (fun bytes shard => ∀ b, bytes = some b → b = shard) known word := by
  rw [List.forall₂_iff_get]
  refine ⟨h.1, ?_⟩
  intro index hindex hindex' bytes hbytes
  have hword := h.2 index bytes (by simpa [List.getElem?_eq_getElem hindex] using hbytes)
  rw [List.getElem?_eq_getElem hindex', Option.some.injEq] at hword
  exact hword.symm

omit P in
theorem Known.set {place : Nat} {bytes : List UInt8} (h : Known known word) (hbytes : word[place]? = some bytes)
    : Known (known.set place (some bytes)) word := by
  refine ⟨by simp [h.1], ?_⟩
  intro index other hother
  rw [List.getElem?_set] at hother
  split at hother
  next heq =>
    split at hother
    . rw [← heq, hbytes]
      simpa using hother
    . contradiction
  . exact h.2 index other hother

variable {supplied : List StoredShard}

variable {descriptor : BodyErasureDescriptorV2} {total : Nat} {out : List (Option (List UInt8))}

theorem placeShards_cons
    : placeShards descriptor total (shard :: supplied) known = .ok out
      ↔ shard.index.toNat < total ∧ shard.bytes.length = descriptor.shardSize.toNat
        ∧ known.getD shard.index.toNat none = none ∧ verifyShard descriptor shard = true
        ∧ placeShards descriptor total supplied (known.set shard.index.toNat (some shard.bytes)) = .ok out := by
  rw [placeShards]
  simp [bind_unit_eq_ok, rejectIf_eq_ok]

theorem placeShards_known (hknown : Known known word)
    (hshards : ∀ shard ∈ supplied, verifyShard descriptor shard = true → shard.index.toNat < total
      → shard.bytes.length = descriptor.shardSize.toNat → word[shard.index.toNat]? = some shard.bytes)
    (h : placeShards descriptor total supplied known = .ok out)
    : Known out word := by
  induction supplied generalizing known with
  | nil =>
    injection h with h
    rw [← h]
    exact hknown
  | cons shard supplied ih =>
    rw [List.forall_mem_cons] at hshards
    obtain ⟨hindex, hlength, _, hverify, h⟩ := placeShards_cons.mp h
    exact ih (hknown.set (hshards.1 hverify hindex hlength)) hshards.2 h

omit P in
theorem mapM_map_some (shards : List (List UInt8)) (error : AvailabilityError)
    : (shards.map some).mapM (fun shard => shard.elim (Except.error error) Except.ok) = Except.ok shards := by
  induction shards with
  | nil => rfl
  | cons shard shards ih =>
    rw [List.map_cons, List.mapM_cons, ih]
    rfl

section

variable (h : Encoding code body encoded word) (hcode : code.SystematicMds)

include h hcode

theorem Encoding.reconstructBody_eq (hplaced : placeShards encoded.descriptor
      (encoded.descriptor.dataShards.toNat + encoded.descriptor.parityShards.toNat) supplied
      (List.replicate (encoded.descriptor.dataShards.toNat + encoded.descriptor.parityShards.toNat) none)
      = .ok known) (hknown : Known known word)
    (hcount : encoded.descriptor.dataShards.toNat ≤ known.countP (·.isSome))
    : reconstructBody code encoded.descriptor supplied = .ok body := by
  obtain ⟨hword, _, hbody⟩ := h.word_spec hcode
  have htotal := h.total
  have hlength : body.length ≤ (word.take encoded.descriptor.dataShards.toNat).flatten.length := by
    have := congrArg List.length hbody
    rw [List.length_take] at this
    omega
  have hreconstruct := h.reconstruct_known hcode hknown.forall₂ hcount
  unfold reconstructBody
  simp only [rejectIf_of_not (not_le.mpr htotal), Except.ok_bind, hplaced,
    rejectIf_of_not (not_lt.mpr hcount), h.created, Except.mapError, hreconstruct, ← List.map_take,
    mapM_map_some, h.original, rejectIf_of_not (not_lt.mpr hlength), hbody]
  rfl

/-!
### Genuine shards
-/

theorem Encoding.genuine (hmem : shard ∈ encoded.shards)
    : encoded.shards[shard.index.toNat]? = some shard ∧ word[shard.index.toNat]? = some shard.bytes
      ∧ shard.index.toNat < encoded.descriptor.dataShards.toNat + encoded.descriptor.parityShards.toNat
      ∧ shard.bytes.length = encoded.descriptor.shardSize.toNat
      ∧ verifyShard encoded.descriptor shard = true := by
  obtain ⟨hword, hsizes, _⟩ := h.word_spec hcode
  have htotal := h.total
  rw [h.shards] at hmem ⊢
  obtain ⟨index, hindex, hshard⟩ := List.mem_mapIdx.mp hmem
  have htoNat : (UInt16.ofNat index).toNat = index := UInt16.toNat_ofNat_of_lt' (by change index < 2 ^ 16; omega)
  have hget : word[index]? = some word[index] := List.getElem?_eq_getElem hindex
  have hleaf : (shardLeaves encoded.descriptor.bodyPackageId word)[index]?
      = some (shardLeaf encoded.descriptor.bodyPackageId (UInt16.ofNat index) word[index]) := by
    simp [shardLeaves, hget]
  have hleaves : (UInt16.ofNat (shardLeaves encoded.descriptor.bodyPackageId word).length).toNat = word.length := by
    rw [shardLeaves, List.length_mapIdx]
    exact UInt16.toNat_ofNat_of_lt' (by change word.length < 2 ^ 16; omega)
  subst hshard
  dsimp only
  rw [htoNat]
  refine ⟨by simp [hget], hget, by omega, hsizes _ (List.getElem_mem hindex), ?_⟩
  unfold verifyShard
  simp only [Bool.and_eq_true, decide_eq_true_eq]
  refine ⟨⟨⟨rfl, htotal⟩, hleaves.trans hword⟩, ?_⟩
  rw [h.root]
  exact verifyProof_createProof (by omega) hleaf

theorem Encoding.placeShards_genuine
    (hlength : known.length = encoded.descriptor.dataShards.toNat + encoded.descriptor.parityShards.toNat)
    (hnodup : supplied.Nodup) (hgenuine : ∀ shard ∈ supplied, shard ∈ encoded.shards)
    (hfree : ∀ shard ∈ supplied, known.getD shard.index.toNat none = none)
    : ∃ out, placeShards encoded.descriptor
        (encoded.descriptor.dataShards.toNat + encoded.descriptor.parityShards.toNat) supplied known = .ok out
      ∧ out.countP (·.isSome) = known.countP (·.isSome) + supplied.length := by
  induction supplied generalizing known with
  | nil => exact ⟨known, rfl, rfl⟩
  | cons shard supplied ih =>
    rw [List.nodup_cons] at hnodup
    rw [List.forall_mem_cons] at hgenuine hfree
    obtain ⟨hat, _, hindex, hsize, hverify⟩ := h.genuine hcode hgenuine.1
    have hplace : shard.index.toNat < known.length := by omega
    -- Another genuine shard has another index.
    have hrest : ∀ other ∈ supplied,
        (known.set shard.index.toNat (some shard.bytes)).getD other.index.toNat none = none := by
      intro other hother
      have hne : shard.index.toNat ≠ other.index.toNat := by
        intro heq
        obtain ⟨hat', _⟩ := h.genuine hcode (hgenuine.2 other hother)
        rw [← heq, hat, Option.some.injEq] at hat'
        rw [← hat'] at hother
        exact hnodup.1 hother
      have hold := hfree.2 other hother
      rw [List.getD_eq_getElem?_getD] at hold ⊢
      rw [List.getElem?_set_ne hne]
      exact hold
    obtain ⟨out, hplaced, hcount⟩ := ih (by simpa using hlength) hnodup.2 hgenuine.2 hrest
    refine ⟨out, placeShards_cons.mpr ⟨hindex, hsize, hfree.1, hverify, hplaced⟩, ?_⟩
    have hempty : known[shard.index.toNat] = none := by
      have hold := hfree.1
      rwa [List.getD_eq_getElem?_getD, List.getElem?_eq_getElem hplace, Option.getD_some] at hold
    rw [hcount, List.countP_set hplace, hempty, List.length_cons]
    simp
    omega

end

theorem reconstructBody_encodeBody {protocolVersion : UInt16} {networkId : UInt8} {bodyPackageId : Hash256}
    {dataShards parityShards : UInt16} {expiryHeight : UInt32} (hcode : code.SystematicMds)
    (h : encodeBody code protocolVersion networkId bodyPackageId body dataShards parityShards expiryHeight
      = .ok encoded)
    : (∀ supplied result, reconstructBody code encoded.descriptor supplied = .ok result
        → result = body ∨ merkleHash.Collides (encodeMessages encoded)
          (supplied.flatMap (verifyMessages encoded.descriptor)))
      ∧ ∀ supplied : List StoredShard, supplied.Nodup → (∀ shard ∈ supplied, shard ∈ encoded.shards)
        → dataShards.toNat ≤ supplied.length
        → reconstructBody code encoded.descriptor supplied = .ok body := by
  obtain ⟨word, hencoding, _, hdata⟩ := encoding_of_encodeBody h
  obtain ⟨hword, _⟩ := hencoding.word_spec hcode
  have hstart : Known (List.replicate (encoded.descriptor.dataShards.toNat
      + encoded.descriptor.parityShards.toNat) none) word := by
    refine ⟨by simp [hword], ?_⟩
    intro index bytes hbytes
    simp [List.getElem?_replicate] at hbytes
  constructor
  . intro supplied result hresult
    by_cases hcollides : merkleHash.Collides (encodeMessages encoded)
        (supplied.flatMap (verifyMessages encoded.descriptor))
    . exact .inr hcollides
    left
    have hshards : ∀ shard ∈ supplied, verifyShard encoded.descriptor shard = true
        → shard.index.toNat < encoded.descriptor.dataShards.toNat + encoded.descriptor.parityShards.toNat
        → shard.bytes.length = encoded.descriptor.shardSize.toNat
        → word[shard.index.toNat]? = some shard.bytes := by
      intro shard hmem hverify hindex hlength
      rcases hencoding.shard_of_verifyShard hcode hverify hindex hlength with hshard | hshard
      . exact absurd (hshard.mono (List.Subset.refl _) (fun _ h => List.mem_flatMap.mpr ⟨shard, hmem, h⟩)) hcollides
      . exact hshard
    have hsteps := hresult
    unfold reconstructBody at hsteps
    simp only [bind_unit_eq_ok] at hsteps
    obtain ⟨_, hsteps⟩ := hsteps
    obtain ⟨known, hplaced, hsteps⟩ := bind_eq_ok hsteps
    simp only [bind_unit_eq_ok, rejectIf_eq_ok, not_lt] at hsteps
    have hbody := hencoding.reconstructBody_eq hcode hplaced (placeShards_known hstart hshards hplaced) hsteps.1
    rw [hbody] at hresult
    injection hresult with hresult
    exact hresult.symm
  . intro supplied hnodup hgenuine hcount
    obtain ⟨known, hplaced, hknown⟩ := hencoding.placeShards_genuine hcode (List.length_replicate ..) hnodup
      hgenuine (by
        intro shard _
        rw [List.getD_eq_getElem?_getD, List.getElem?_replicate]
        split <;> rfl)
    apply hencoding.reconstructBody_eq hcode hplaced (placeShards_known hstart _ hplaced)
    . rw [hknown, hdata]
      omega
    . intro shard hmem _ _ _
      exact (hencoding.genuine hcode (hgenuine shard hmem)).2.1

end

/-!
### A body of three bytes
-/

/-- One data shard and copies of it: the simplest code of this kind. -/
def replicationCode : ErasureCode where
  create data _ := if data = 1 then .ok () else .error "one data shard only"
  encode data parity shards := .ok (List.replicate (data + parity) (shards.headD []))
  reconstruct _ _ shards :=
    match shards.filterMap id with
    | [] => .error "too few shards"
    | first :: _ => .ok (shards.map fun _ => some first)

theorem replicationCode_systematicMds
    : replicationCode.SystematicMds := by
  constructor
  . intro data parity size shards word hcreate hlength hsizes hencode
    have hdata : data = 1 := by simpa [replicationCode] using hcreate
    subst hdata
    cases shards with
    | nil =>
      simp at hlength
      omega
    | cons first rest =>
      simp only [replicationCode, List.headD_cons, Except.ok.injEq] at hencode
      subst hencode
      refine ⟨by simp, ?_, ?_⟩
      . intro shard hshard
        rw [List.eq_of_mem_replicate hshard]
        simp at hsizes
        exact hsizes.1
      . simp
  . intro data parity size shards word known hcreate _ _ hencode hknown hcount
    have hdata : data = 1 := by simpa [replicationCode] using hcreate
    subst hdata
    simp only [replicationCode, Except.ok.injEq] at hencode ⊢
    subst hencode
    have hcopies : ∀ bytes, some bytes ∈ known → bytes = shards.headD [] := by
      intro bytes hbytes
      obtain ⟨index, hindex, hget⟩ := List.mem_iff_getElem.mp hbytes
      have hcopy := (List.forall₂_iff_get.mp hknown).2 index hindex (by rw [← hknown.length_eq]; exact hindex)
      simpa using hcopy bytes (by simpa using hget)
    split
    next hnone =>
      obtain ⟨shard, hshard, hsome⟩ := List.countP_pos_iff.mp hcount
      simp [List.filterMap_eq_nil_iff] at hnone
      simp [hnone shard hshard] at hsome
    next first rest hfirst =>
      have hmem : first ∈ known.filterMap id := by
        rw [hfirst]
        exact List.mem_cons_self
      rw [hcopies first (by simpa using hmem), List.map_const', hknown.length_eq, List.length_replicate,
        List.map_replicate]

def sampleBody : Except AvailabilityError EncodedBody :=
  letI := Primitives.fold
  encodeBody replicationCode 2 2 (.fill 32 7) [10, 20, 30] 1 2 100

theorem reconstructBody_encodeBody_sample
    : letI := Primitives.fold
      ∃ encoded last, sampleBody = .ok encoded ∧ encoded.shards.getLast? = some last
        ∧ reconstructBody replicationCode encoded.descriptor [last] = .ok [10, 20, 30] := by
  have hsample : ∃ encoded last, sampleBody = .ok encoded ∧ encoded.shards.getLast? = some last := by
    have hshards : (sampleBody.toOption.bind (·.shards.getLast?)).isSome = true := by decide
    obtain ⟨last, hlast⟩ := Option.isSome_iff_exists.mp hshards
    obtain ⟨encoded, hencoded, hlast⟩ := Option.bind_eq_some_iff.mp hlast
    exact ⟨encoded, last, Except.toOption_eq_some.mp hencoded, hlast⟩
  obtain ⟨encoded, last, hencoded, hlast⟩ := hsample
  refine ⟨encoded, last, hencoded, hlast, ?_⟩
  apply (reconstructBody_encodeBody (P := .fold) replicationCode_systematicMds hencoded).2
  . simp
  . simpa using List.mem_of_getLast? hlast
  . simp

end MeshMine.Body
