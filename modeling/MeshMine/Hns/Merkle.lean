import MeshMine.Hns.Header

/-!
The domain-separated Merkle tree of Handshake (`meshmine-hns/src/merkle.rs`).
-/

namespace MeshMine.Hns

variable [P : Primitives]

def merkleSentinel : Hash256 :=
  P.blake2b256 []

def merklePair (left right : Hash256) : Hash256 :=
  P.blake2b256 (1 :: left.toList ++ right.toList)

def merkleLevel : List Hash256 → List Hash256
  | [] => []
  | [last] => [merklePair last merkleSentinel]
  | left :: right :: rest => merklePair left right :: merkleLevel rest

/-- A level is at least halved per round, so its length bounds the rounds. -/
def merkleRoot (leaves : List Hash256) : Hash256 :=
  match leaves with
  | [] => merkleSentinel
  | _ => go leaves.length (leaves.map fun leaf => P.blake2b256 (0 :: leaf.toList))
where
  go : Nat → List Hash256 → Hash256
    | rounds + 1, first :: second :: rest => go rounds (merkleLevel (first :: second :: rest))
    | _, level => level.headD merkleSentinel

theorem merkleLevel_length (level : List Hash256)
    : (merkleLevel level).length = (level.length + 1) / 2 := by
  fun_induction merkleLevel level with
  | case1 => rfl
  | case2 => simp
  | case3 left right rest ih =>
    simp only [List.length_cons, ih]
    omega

end MeshMine.Hns
