import Mathlib.Data.List.Induction
import Mathlib.Data.Set.Basic

/-!
Binary hash trees with domain-separated leaves. `TreeHash.opens` is the soundness of a membership path: an
accepted path of any length leads to the leaf at its place in the tree, or two different messages with the same
digest can be read off the tree and the path.
-/

/-- How empty places, leaves and inner nodes are put into messages. -/
structure TreeHash (L D M : Type) where
  hash : M → D
  empty : M
  leaf : L → M
  node : D → D → M
  leaf_inj : ∀ {a b}, leaf a = leaf b → a = b
  node_inj : ∀ {a b c d}, node a b = node c d → a = c ∧ b = d
  leaf_ne_empty : ∀ a, leaf a ≠ empty
  node_ne_empty : ∀ a b, node a b ≠ empty
  leaf_ne_node : ∀ a b c, leaf a ≠ node b c

inductive HashTree (L : Type) where
  | empty
  | leaf (a : L)
  | node (left right : HashTree L)

namespace HashTree

variable {L : Type}

def follow : HashTree L → List Bool → Option (HashTree L)
  | t, [] => some t
  | node left right, right? :: directions => (if right? then right else left).follow directions
  | _, _ :: _ => none

theorem follow_append (t : HashTree L) (first second : List Bool)
    : t.follow (first ++ second) = (t.follow first).bind (·.follow second) := by
  fun_induction follow t first with
  | case1 t => rfl
  | case2 left right right? directions ih => exact ih
  | case3 t right? directions h =>
    cases t with
    | empty => rfl
    | leaf a => rfl
    | node left right => exact absurd rfl (h left right)

/-- All leaves are at the same depth; there may be empty places above. -/
def HasDepth : HashTree L → Nat → Prop
  | empty, _ => True
  | leaf _, depth => depth = 0
  | node _ _, 0 => False
  | node left right, depth + 1 => left.HasDepth depth ∧ right.HasDepth depth

theorem HasDepth.length_eq {t : HashTree L} {depth : Nat} {directions : List Bool} {a : L} (h : t.HasDepth depth)
    (hfollow : t.follow directions = some (leaf a))
    : directions.length = depth := by
  induction directions generalizing t depth with
  | nil =>
    injection hfollow with hfollow
    subst hfollow
    exact h.symm
  | cons right? directions ih =>
    cases t with
    | empty => contradiction
    | leaf b => contradiction
    | node left right =>
      cases depth with
      | zero => contradiction
      | succ depth =>
        cases right? with
        | true => simp [ih h.2 hfollow]
        | false => simp [ih h.1 hfollow]

/-- One level up: an odd last tree is paired with an empty place. -/
def pairUp : List (HashTree L) → List (HashTree L)
  | [] => []
  | [last] => [node last empty]
  | left :: right :: rest => node left right :: pairUp rest

theorem length_pairUp (level : List (HashTree L)) : (pairUp level).length = (level.length + 1) / 2 := by
  fun_induction pairUp level with
  | case1 => simp
  | case2 => simp
  | case3 left right rest ih =>
    simp only [List.length_cons, ih]
    omega

def ofLevel : Nat → List (HashTree L) → HashTree L
  | rounds + 1, first :: second :: rest => ofLevel rounds (pairUp (first :: second :: rest))
  | _, level => level.headD empty

variable {level : List (HashTree L)}

theorem hasDepth_pairUp {depth : Nat} (h : ∀ t ∈ level, t.HasDepth depth)
    : ∀ t ∈ pairUp level, t.HasDepth (depth + 1) := by
  fun_induction pairUp level with
  | case1 => simp
  | case2 last =>
    simp only [List.mem_singleton, forall_eq] at h ⊢
    exact ⟨h, trivial⟩
  | case3 left right rest ih =>
    simp only [List.forall_mem_cons] at h ⊢
    exact ⟨⟨h.1, h.2.1⟩, ih h.2.2⟩

/-- The directions from a place on a level to the top, the last one first. -/
def directions : Nat → Nat → List Bool
  | 0, _ => []
  | height + 1, position => (position % 2 = 1) :: directions height (position / 2)

theorem length_directions (height position : Nat) : (directions height position).length = height := by
  induction height generalizing position with
  | zero => rfl
  | succ height ih => simp [directions, ih]

theorem follow_pairUp {position : Nat} (h : position < level.length)
    : ((pairUp level)[position / 2]?).bind (·.follow [decide (position % 2 = 1)]) = level[position]? := by
  induction level using pairUp.induct generalizing position with
  | case1 => simp at h
  | case2 last =>
    have hzero : position = 0 := by
      simp only [List.length_singleton] at h
      omega
    subst hzero
    rfl
  | case3 left right rest ih =>
    match position with
    | 0 => rfl
    | 1 => rfl
    | position + 2 =>
      have hdiv : (position + 2) / 2 = position / 2 + 1 := by omega
      have hmod : (position + 2) % 2 = position % 2 := by omega
      simp only [List.length_cons] at h
      rw [hdiv, hmod]
      exact ih (by omega)

theorem exists_height {rounds : Nat} (hrounds : level.length ≤ rounds) (hlevel : level ≠ [])
    : ∃ height, (∀ depth, (∀ t ∈ level, t.HasDepth depth) → (ofLevel rounds level).HasDepth (depth + height))
      ∧ ∀ position < level.length,
        (ofLevel rounds level).follow (directions height position).reverse = level[position]? := by
  induction rounds generalizing level with
  | zero => simp_all
  | succ rounds ih =>
    match level with
    | [] => contradiction
    | [only] =>
      refine ⟨0, ?_, ?_⟩
      . intro depth h
        exact h only (List.mem_singleton_self only)
      . intro position hposition
        simp only [List.length_singleton] at hposition
        have hzero : position = 0 := by omega
        subst hzero
        rfl
    | first :: second :: rest =>
      have hlength := length_pairUp (first :: second :: rest)
      simp only [List.length_cons] at hrounds hlength
      have hne : pairUp (first :: second :: rest) ≠ [] := by
        intro hnil
        rw [hnil, List.length_nil] at hlength
        omega
      obtain ⟨height, hdepth, hfollow⟩ := ih (by omega) hne
      refine ⟨height + 1, ?_, ?_⟩
      . intro depth h
        have htop := hdepth (depth + 1) (hasDepth_pairUp h)
        rw [Nat.add_assoc, Nat.add_comm 1] at htop
        exact htop
      . intro position hposition
        have hup := hfollow (position / 2) (by simp only [List.length_cons] at hposition; omega)
        rw [directions, List.reverse_cons, follow_append]
        change ((ofLevel rounds (pairUp (first :: second :: rest))).follow _).bind _ = _
        rw [hup]
        exact follow_pairUp hposition

def leaves : HashTree L → List L
  | empty => []
  | leaf a => [a]
  | node left right => left.leaves ++ right.leaves

theorem leaves_pairUp (level : List (HashTree L)) : (pairUp level).flatMap leaves = level.flatMap leaves := by
  fun_induction pairUp level with
  | case1 => rfl
  | case2 last => simp [leaves]
  | case3 left right rest ih => simp [leaves, ih]

theorem leaves_ofLevel {rounds : Nat} (hrounds : level.length ≤ rounds + 1)
    : (ofLevel rounds level).leaves = level.flatMap leaves := by
  fun_induction ofLevel rounds level with
  | case1 rounds first second rest ih =>
    have hlength := length_pairUp (first :: second :: rest)
    simp only [List.length_cons] at hrounds hlength
    rw [ih (by omega), leaves_pairUp]
  | case2 rounds level h =>
    match rounds, level with
    | _, [] => rfl
    | _, [only] => simp
    | rounds + 1, first :: second :: rest => exact absurd rfl (h _ _ _ _ rfl)

end HashTree

namespace TreeHash

open HashTree

variable {L D M : Type} (H : TreeHash L D M)

def root : HashTree L → D
  | .empty => H.hash H.empty
  | .leaf a => H.hash (H.leaf a)
  | .node left right => H.hash (H.node (root left) (root right))

def messages : HashTree L → List M
  | .empty => [H.empty]
  | .leaf a => [H.leaf a]
  | .node left right => H.node (H.root left) (H.root right) :: (messages left ++ messages right)

def join (right : Bool) (digest sibling : D) : M :=
  if right then H.node sibling digest else H.node digest sibling

def climb (digest : D) (path : List (Bool × D)) : D :=
  path.foldl (fun digest step => H.hash (H.join step.1 digest step.2)) digest

def climbMessages : D → List (Bool × D) → List M
  | _, [] => []
  | digest, step :: path =>
    H.join step.1 digest step.2 :: climbMessages (H.hash (H.join step.1 digest step.2)) path

variable {H}

theorem climb_concat (digest : D) (path : List (Bool × D)) (step : Bool × D)
    : H.climb digest (path ++ [step]) = H.hash (H.join step.1 (H.climb digest path) step.2) := by
  simp [climb]

theorem climbMessages_concat (digest : D) (path : List (Bool × D)) (step : Bool × D)
    : H.climbMessages digest (path ++ [step])
      = H.climbMessages digest path ++ [H.join step.1 (H.climb digest path) step.2] := by
  induction path generalizing digest with
  | nil => rfl
  | cons head path ih => simp [climbMessages, ih, climb]

/-- Two different messages, one of each list, with the same digest. -/
def Collides (H : TreeHash L D M) (first second : List M) : Prop :=
  ∃ x ∈ first, ∃ y ∈ second, x ≠ y ∧ H.hash x = H.hash y

theorem Collides.mono {first first' second second' : List M} (h : H.Collides first second)
    (hfirst : first ⊆ first') (hsecond : second ⊆ second')
    : H.Collides first' second' := by
  obtain ⟨x, hx, y, hy, hne, heq⟩ := h
  exact ⟨x, hfirst hx, y, hsecond hy, hne, heq⟩

theorem eq_or_collides {first second : List M} {x y : M} (hx : x ∈ first) (hy : y ∈ second) (h : H.hash y = H.hash x)
    : H.Collides first second ∨ y = x := by
  by_cases heq : y = x
  . exact .inr heq
  . exact .inl ⟨x, hx, y, hy, Ne.symm heq, h.symm⟩

/-- A root binds the whole tree. -/
theorem root_inj {t t' : HashTree L} (h : H.root t' = H.root t)
    : H.Collides (H.messages t) (H.messages t') ∨ t' = t := by
  induction t generalizing t' with
  | empty =>
    cases t' with
    | empty => exact .inr rfl
    | leaf b => exact .inl ⟨_, List.mem_cons_self, _, List.mem_cons_self, (H.leaf_ne_empty b).symm, h.symm⟩
    | node _ _ => exact .inl ⟨_, List.mem_cons_self, _, List.mem_cons_self, (H.node_ne_empty _ _).symm, h.symm⟩
  | leaf a =>
    cases t' with
    | empty => exact .inl ⟨_, List.mem_cons_self, _, List.mem_cons_self, H.leaf_ne_empty a, h.symm⟩
    | leaf b =>
      refine (eq_or_collides List.mem_cons_self List.mem_cons_self h).imp_right fun heq => ?_
      rw [H.leaf_inj heq]
    | node _ _ => exact .inl ⟨_, List.mem_cons_self, _, List.mem_cons_self, H.leaf_ne_node _ _ _, h.symm⟩
  | node left right ihl ihr =>
    cases t' with
    | empty => exact .inl ⟨_, List.mem_cons_self, _, List.mem_cons_self, H.node_ne_empty _ _, h.symm⟩
    | leaf b => exact .inl ⟨_, List.mem_cons_self, _, List.mem_cons_self, (H.leaf_ne_node _ _ _).symm, h.symm⟩
    | node left' right' =>
      rcases eq_or_collides List.mem_cons_self List.mem_cons_self h with hcollides | heq
      . exact .inl hcollides
      obtain ⟨hleft, hright⟩ := H.node_inj heq
      rcases ihl hleft with hcollides | rfl
      . exact .inl (hcollides.mono (by simp [messages]) (by simp [messages]))
      rcases ihr hright with hcollides | rfl
      . exact .inl (hcollides.mono (by simp [messages]) (by simp [messages]))
      . exact .inr rfl

theorem join_ne_empty (right : Bool) (digest sibling : D) : H.join right digest sibling ≠ H.empty := by
  cases right <;> exact H.node_ne_empty _ _

theorem leaf_ne_join (a : L) (right : Bool) (digest sibling : D) : H.leaf a ≠ H.join right digest sibling := by
  cases right <;> exact H.leaf_ne_node _ _ _

theorem opens {a : L} {path : List (Bool × D)} {t : HashTree L} (h : H.climb (H.hash (H.leaf a)) path = H.root t)
    : H.Collides (H.messages t) (H.leaf a :: H.climbMessages (H.hash (H.leaf a)) path)
      ∨ t.follow (path.map Prod.fst).reverse = some (.leaf a) := by
  induction path using List.reverseRecOn generalizing t with
  | nil =>
    cases t with
    | empty =>
      left
      exact ⟨_, List.mem_singleton_self _, _, List.mem_cons_self .., (H.leaf_ne_empty a).symm, h.symm⟩
    | leaf b =>
      rcases eq_or_collides (List.mem_singleton_self _) (List.mem_cons_self ..) h with hcollides | heq
      . exact .inl hcollides
      . right
        rw [H.leaf_inj heq]
        rfl
    | node left right =>
      left
      exact ⟨_, List.mem_cons_self .., _, List.mem_cons_self .., (H.leaf_ne_node _ _ _).symm, h.symm⟩
  | append_singleton path step ih =>
    rw [climb_concat] at h
    rw [climbMessages_concat]
    have hlast : H.join step.1 (H.climb (H.hash (H.leaf a)) path) step.2
        ∈ H.leaf a :: (H.climbMessages (H.hash (H.leaf a)) path
          ++ [H.join step.1 (H.climb (H.hash (H.leaf a)) path) step.2]) := by
      simp
    have hbelow : H.leaf a :: H.climbMessages (H.hash (H.leaf a)) path
        ⊆ H.leaf a :: (H.climbMessages (H.hash (H.leaf a)) path
          ++ [H.join step.1 (H.climb (H.hash (H.leaf a)) path) step.2]) :=
      List.cons_subset_cons _ (List.subset_append_left ..)
    cases t with
    | empty =>
      left
      exact ⟨_, List.mem_singleton_self _, _, hlast, (join_ne_empty _ _ _).symm, h.symm⟩
    | leaf b =>
      left
      exact ⟨_, List.mem_singleton_self _, _, hlast, leaf_ne_join _ _ _ _, h.symm⟩
    | node left right =>
      rcases eq_or_collides (List.mem_cons_self ..) hlast h with hcollides | heq
      . exact .inl hcollides
      -- The messages agree, so that the climb has come through the child in the last direction.
      obtain ⟨right?, sibling⟩ := step
      cases right? with
      | true =>
        obtain ⟨_, hchild⟩ := H.node_inj heq
        rcases ih hchild with hcollides | hfollow
        . exact .inl (hcollides.mono (by simp [messages]) hbelow)
        . right
          simpa [follow] using hfollow
      | false =>
        obtain ⟨hchild, _⟩ := H.node_inj heq
        rcases ih hchild with hcollides | hfollow
        . exact .inl (hcollides.mono (by simp [messages]) hbelow)
        . right
          simpa [follow] using hfollow

end TreeHash
