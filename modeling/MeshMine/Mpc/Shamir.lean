import MeshMine.Hns.Header
import MeshMine.Mpc.Galois

/-!
Shares of a mask (`shamir_split` and `shamir_reconstruct` of `meshmine-mpc-api/src/lib.rs`). Every byte of the mask is
shared on its own.

The random generator is third-party code: any source of bytes, started from a seed.
-/

namespace MeshMine.Mpc

structure RandomSource where
  State : Type
  fromSeed : Hash256 → State
  fillBytes : (n : Nat) → State → ByteVec n × State

variable (source : RandomSource)

def drawCoefficients (threshold : Nat) : List UInt8 → source.State → List (List UInt8) × source.State
  | [], state => ([], state)
  | secretByte :: secret, state =>
    let (random, state) := source.fillBytes (threshold - 1) state
    let (rest, state) := drawCoefficients threshold secret state
    ((secretByte :: random.toList) :: rest, state)

theorem length_drawCoefficients (threshold : Nat) (secret : List UInt8) (state : source.State)
    : (drawCoefficients source threshold secret state).1.length = secret.length := by
  induction secret generalizing state with
  | nil => rfl
  | cons secretByte secret ih =>
    unfold drawCoefficients
    dsimp only
    rw [List.length_cons, ih, List.length_cons]

variable {coefficients : List UInt8}

theorem length_of_mem_drawCoefficients {threshold : Nat} (hthreshold : threshold ≠ 0) {secret : List UInt8}
    {state : source.State} (hmem : coefficients ∈ (drawCoefficients source threshold secret state).1)
    : coefficients.length = threshold := by
  induction secret generalizing state with
  | nil => contradiction
  | cons secretByte secret ih =>
    unfold drawCoefficients at hmem
    dsimp only at hmem
    rw [List.mem_cons] at hmem
    rcases hmem with rfl | hmem
    . rw [List.length_cons, ByteVec.length_toList]
      omega
    . exact ih hmem

theorem gfEval_zero (coefficient : UInt8) (coefficients : List UInt8)
    : gfEval (coefficient :: coefficients) 0 = coefficient := by
  unfold gfEval
  rw [List.reverse_cons, List.foldl_append, List.foldl_cons, List.foldl_nil, (additive_gfMul_right _).zero,
    UInt8.zero_xor]

theorem map_gfEval_zero_drawCoefficients (threshold : Nat) (secret : List UInt8) (state : source.State)
    : ((drawCoefficients source threshold secret state).1.map fun coefficients => gfEval coefficients 0) = secret := by
  induction secret generalizing state with
  | nil => rfl
  | cons secretByte secret ih =>
    unfold drawCoefficients
    dsimp only
    rw [List.map_cons, ih, gfEval_zero]

def shamirSplit (secret : Hash256) (threshold shareCount : Nat) (state : source.State)
    : List Hash256 × source.State :=
  let drawn := drawCoefficients source threshold secret.toList state
  let shares := (List.range shareCount).map fun index =>
    ⟨drawn.1.map fun coefficients => gfEval coefficients (index.toUInt8 + 1), by
      rw [List.length_map, length_drawCoefficients, secret.length_toList]⟩
  (shares, drawn.2)

variable (shares : List (UInt8 × Hash256))

def basisAt (index : Nat) (x : UInt8) : UInt8 :=
  shares.zipIdx.foldl (fun basis other =>
    if other.2 = index then basis else gfMul basis (gfDiv other.1.1 (other.1.1 ^^^ x))) 1

def reconstructByte (byteIndex : Nat) : UInt8 :=
  shares.zipIdx.foldl (fun value share =>
    value ^^^ gfMul (share.1.2.toList.getD byteIndex 0) (basisAt shares share.2 share.1.1)) 0

def shamirReconstruct : Hash256 :=
  ⟨(List.range 32).map (reconstructByte shares), by simp⟩

/-!
### Reconstruction
-/

variable {α : Type}

theorem mk_foldl_xor (f : α → UInt8) (as : List α) (start : UInt8)
    : (⟨as.foldl (fun value a => value ^^^ f a) start⟩ : GF256) = ⟨start⟩ + (as.map fun a => ⟨f a⟩).sum := by
  induction as generalizing start with
  | nil => simp
  | cons a as ih =>
    rw [List.foldl_cons, ih, List.map_cons, List.sum_cons, ← add_assoc]
    rfl

theorem mk_foldl_gfMul (skip : α → Prop) [DecidablePred skip] (f : α → UInt8) (as : List α) (start : UInt8)
    : (⟨as.foldl (fun value a => if skip a then value else gfMul value (f a)) start⟩ : GF256)
      = ⟨start⟩ * (as.map fun a => if skip a then 1 else ⟨f a⟩).prod := by
  induction as generalizing start with
  | nil => simp
  | cons a as ih =>
    rw [List.foldl_cons, ih, List.map_cons, List.prod_cons, ← mul_assoc]
    by_cases h : skip a
    . simp [h]
    . rw [if_neg h, if_neg h]
      rfl

theorem map_zipIdx {β : Type} (f : α × Nat → β) (as : List α)
    : as.zipIdx.map f = List.ofFn fun i : Fin as.length => f (as.get i, i) := by
  apply List.ext_getElem
  . simp
  . intro i h h'
    simp

theorem mk_basisAt (i : Fin shares.length)
    : (⟨basisAt shares i (shares.get i).1⟩ : GF256)
      = ∏ j ∈ Finset.univ.erase i,
        (⟨(shares.get j).1⟩ : GF256) / (⟨(shares.get j).1⟩ - ⟨(shares.get i).1⟩) := by
  unfold basisAt
  rw [mk_foldl_gfMul fun other : (UInt8 × Hash256) × Nat => other.2 = i, map_zipIdx, List.prod_ofFn,
    ← Finset.mul_prod_erase _ _ (Finset.mem_univ i)]
  rw [if_pos rfl, one_mul]
  change 1 * _ = _
  rw [one_mul]
  apply Finset.prod_congr rfl
  intro j hj
  rw [if_neg]
  . apply GF256.ext
    simp
  . intro h
    exact Finset.ne_of_mem_erase hj (Fin.ext h)

variable {shares : List (UInt8 × Hash256)}

theorem reconstructByte_eq (hnodup : (shares.map (·.1)).Nodup) (hlength : coefficients.length ≤ shares.length)
    {byteIndex : Nat} (hvalues : ∀ share ∈ shares, share.2.toList.getD byteIndex 0 = gfEval coefficients share.1)
    : reconstructByte shares byteIndex = gfEval coefficients 0 := by
  let x : Fin shares.length → GF256 := fun i => ⟨(shares.get i).1⟩
  have hx : Function.Injective x := by
    intro i j h
    have hbyte : (shares.get i).1 = (shares.get j).1 := congrArg GF256.byte h
    have hget : (shares.map (·.1)).get (i.cast (by simp)) = (shares.map (·.1)).get (j.cast (by simp)) := by
      simpa using hbyte
    have hij := hnodup.injective_get hget
    simpa [Fin.ext_iff] using hij
  have hdegree : (Sharing.polynomial (coefficients.map GF256.mk)).degree < shares.length := by
    apply (Sharing.degree_polynomial _).trans_le
    rw [List.length_map]
    exact_mod_cast hlength
  have hsum := Sharing.eval_zero_eq_sum hx hdegree
  have hsecret : (⟨gfEval coefficients 0⟩ : GF256)
      = (Sharing.polynomial (coefficients.map GF256.mk)).eval 0 := GF256.mk_gfEval coefficients 0
  have hbyte : (⟨reconstructByte shares byteIndex⟩ : GF256) = ⟨gfEval coefficients 0⟩ := by
    unfold reconstructByte
    rw [mk_foldl_xor fun share : (UInt8 × Hash256) × Nat =>
      gfMul (share.1.2.toList.getD byteIndex 0) (basisAt shares share.2 share.1.1), map_zipIdx, List.sum_ofFn,
      hsecret, hsum]
    change 0 + _ = _
    rw [zero_add]
    apply Finset.sum_congr rfl
    intro i _
    rw [← GF256.mk_gfEval, ← mk_basisAt, ← hvalues _ (List.get_mem shares i)]
    rfl
  exact congrArg GF256.byte hbyte

theorem shamirReconstruct_eq (hnodup : (shares.map (·.1)).Nodup) {polynomials : List (List UInt8)}
    (hpolynomials : polynomials.length = 32)
    (hlength : ∀ coefficients ∈ polynomials, coefficients.length ≤ shares.length) (hvalues : ∀ share ∈ shares,
      share.2.toList = polynomials.map fun coefficients => gfEval coefficients share.1)
    : (shamirReconstruct shares).toList = polynomials.map fun coefficients => gfEval coefficients 0 := by
  unfold shamirReconstruct
  apply List.ext_getElem
  . simp [hpolynomials]
  . intro i h h'
    rw [List.getElem_map, List.getElem_map, List.getElem_range]
    apply reconstructByte_eq hnodup
    . exact hlength _ (List.getElem_mem _)
    . intro share hmem
      rw [hvalues share hmem, List.getD_eq_getElem _ _ (by simpa using h'), List.getElem_map]

/-!
### Hiding
-/

/-- A generator that answers each request with the next of the given choices. -/
abbrev givenBytes : RandomSource where
  State := List (List UInt8)
  fromSeed _ := []
  fillBytes n choices := (⟨(choices.headD []).takeD n 0, List.takeD_length ..⟩, choices.tail)

theorem drawCoefficients_givenBytes {threshold : Nat} {secret : List UInt8} {choices : List (List UInt8)}
    (hlength : choices.length = secret.length) (hchoices : ∀ choice ∈ choices, choice.length = threshold - 1)
    : (drawCoefficients givenBytes threshold secret choices).1 = List.zipWith List.cons secret choices := by
  induction secret generalizing choices with
  | nil => rfl
  | cons secretByte secret ih =>
    cases choices with
    | nil => contradiction
    | cons choice choices =>
      rw [List.forall_mem_cons] at hchoices
      have hfirst : choice.takeD (threshold - 1) 0 = choice := by
        rw [← hchoices.1, List.takeD_eq_take _ le_rfl, List.take_length]
      rw [List.zipWith_cons_cons, ← ih (Nat.succ.inj hlength) hchoices.2]
      exact congrArg (fun first => (secretByte :: first) :: _) hfirst

section

variable {threshold shareCount : UInt8} {indices : Finset UInt8}

/-- The choices for which the split of a secret gives the values at the indices. -/
def Produces (threshold shareCount : UInt8) (secret : Hash256) (indices : Finset UInt8) (values : UInt8 → Hash256)
    (choice : Fin 32 → Fin (threshold.toNat - 1) → UInt8) : Prop :=
  let shares := (shamirSplit givenBytes secret threshold.toNat shareCount.toNat
    (List.ofFn fun i => List.ofFn (choice i))).1
  ∀ x ∈ indices, shares[x.toNat - 1]? = some (values x)

variable (hindices : ∀ x ∈ indices, 1 ≤ x ∧ x ≤ shareCount)

include hindices

theorem produces_iff {secret : Hash256} {values : UInt8 → Hash256} {choice : Fin 32 → Fin (threshold.toNat - 1) → UInt8}
    : Produces threshold shareCount secret indices values choice
      ↔ ∀ x ∈ indices, (values x).toList
        = List.ofFn fun i : Fin 32 => gfEval (secret.toList.getD i 0 :: List.ofFn (choice i)) x := by
  apply forall₂_congr
  intro x hx
  obtain ⟨hpos, hle⟩ := hindices x hx
  rw [UInt8.le_iff_toNat_le] at hpos hle
  have hpos : 1 ≤ x.toNat := hpos
  have hpoint : (x.toNat - 1).toUInt8 + 1 = x := by
    apply UInt8.toNat_inj.mp
    rw [UInt8.toNat_add]
    have := x.toNat_lt
    change ((x.toNat - 1) % 2 ^ 8 + 1) % 2 ^ 8 = _
    omega
  have hlength := secret.length_toList
  have hdrawn := @drawCoefficients_givenBytes threshold.toNat secret.toList
    (List.ofFn fun i => List.ofFn (choice i)) (by simp [hlength]) (by simp)
  unfold shamirSplit
  rw [List.getElem?_map, List.getElem?_range (by omega), Option.map_some, Option.some.injEq, eq_comm, ByteVec.ext_iff]
  dsimp only
  rw [hpoint, hdrawn]
  have heq : (List.zipWith List.cons secret.toList (List.ofFn fun i => List.ofFn (choice i))).map (gfEval · x)
      = List.ofFn fun i : Fin 32 => gfEval (secret.toList.getD i 0 :: List.ofFn (choice i)) x := by
    apply List.ext_getElem
    . simp [hlength]
    . intro i h h'
      rw [List.getElem_map, List.getElem_zipWith, List.getElem_ofFn, List.getElem_ofFn,
        List.getD_eq_getElem _ _ (by simpa [hlength] using h')]
  rw [heq]

theorem shamirSplit_hiding (hfew : indices.card < threshold.toNat) (values : UInt8 → Hash256) (secret secret' : Hash256)
    : Nat.card {choice // Produces threshold shareCount secret indices values choice}
      = Nat.card {choice // Produces threshold shareCount secret' indices values choice} := by
  let points : Finset GF256 := indices.image GF256.mk
  have hzero : 0 ∉ points := by
    intro hmem
    obtain ⟨x, hx, hx0⟩ := Finset.mem_image.mp hmem
    have hpos := (hindices x hx).1
    rw [show x = 0 from congrArg GF256.byte hx0] at hpos
    contradiction
  have hcard : points.card ≤ threshold.toNat - 1 := Finset.card_image_le.trans (by omega)
  choose mask hmask using fun i : Fin 32 =>
    Sharing.exists_mask hzero hcard ⟨secret.toList.getD i 0⟩ ⟨secret'.toList.getD i 0⟩
  have hshift : ∀ (i : Fin 32) choice, ∀ x ∈ indices,
      gfEval (secret'.toList.getD i 0 :: List.ofFn fun j => choice j ^^^ (mask i j).byte) x
        = gfEval (secret.toList.getD i 0 :: List.ofFn choice) x := by
    intro i choice x hx
    apply (GF256.mk.injEq ..).mp
    rw [GF256.mk_gfEval, GF256.mk_gfEval, List.map_cons, List.map_cons, List.map_ofFn, List.map_ofFn]
    exact hmask i (fun j => ⟨choice j⟩) ⟨x⟩ (Finset.mem_image_of_mem _ hx)
  let shift (choice : Fin 32 → Fin (threshold.toNat - 1) → UInt8) : Fin 32 → Fin (threshold.toNat - 1) → UInt8 :=
    fun i j => choice i j ^^^ (mask i j).byte
  have hinvolutive : shift.Involutive := by
    intro choice
    funext i j
    simp only [shift]
    rw [UInt8.xor_assoc, UInt8.xor_self, UInt8.xor_zero]
  apply Nat.card_congr
  apply Equiv.subtypeEquiv hinvolutive.toPerm
  intro choice
  change _ ↔ Produces _ _ _ _ _ (shift choice)
  rw [produces_iff hindices, produces_iff hindices]
  apply forall₂_congr
  intro x hx
  simp only [shift, hshift _ _ x hx]

end

def sampleBytes (n : UInt8) : Hash256 := .fill 32 n

theorem shamirSplit_hiding_sample
    : Nat.card {choice // Produces 2 3 (sampleBytes 7) {2} (fun _ => sampleBytes 1) choice}
      = Nat.card {choice // Produces 2 3 (sampleBytes 9) {2} (fun _ => sampleBytes 1) choice} :=
  shamirSplit_hiding (by simp) (by decide) _ _ _

end MeshMine.Mpc
