import MeshMine.Network.Overlay
import Mathlib.Logic.Relation

/-!
Invariants of the overlay node. Every call is a sequence of a few kinds of changes; what each of them keeps, every
run keeps.
-/

namespace MeshMine.Network

open MeshMine.Types OverlayNode

/-!
### The pending objects of a peer
-/

def pendingOf (pending : AList fun _ : Hash256 => PendingObject) (key : PublicKey) : List PendingObject :=
  (pending.entries.map (·.2)).filter fun object => object.peer = key

def bytesOf (objects : List PendingObject) : Nat :=
  (objects.map (·.size.toNat)).sum

section

variable {pending : AList fun _ : Hash256 => PendingObject} {objectId : Hash256} {object : PendingObject}

theorem pendingOf_perm (h : pending.lookup objectId = some object) (key : PublicKey)
    : (pendingOf pending key).Perm
      ((if object.peer = key then [object] else []) ++ pendingOf (pending.erase objectId) key) := by
  have hperm := ((AList.perm_entries_of_lookup h).map (·.2)).filter fun object => decide (object.peer = key)
  rw [List.map_cons, List.filter_cons] at hperm
  unfold pendingOf
  by_cases hkey : object.peer = key
  . simpa [hkey] using hperm
  . simpa [hkey] using hperm

theorem bytesOf_perm {objects objects' : List PendingObject} (h : objects.Perm objects')
    : bytesOf objects = bytesOf objects' :=
  (h.map _).sum_nat

theorem erase_insert_of_lookup (h : pending.lookup objectId = none) (object : PendingObject)
    : (pending.insert objectId object).erase objectId = pending := by
  apply AList.ext
  rw [AList.entries_erase, AList.entries_insert_of_notMem (AList.lookup_eq_none.mp h)]
  exact List.kerase_cons_eq rfl

end

/-!
### The invariant
-/

structure Counted (limits : OverlayLimits) (peers : AList fun _ : PublicKey => PeerState)
    (pending : AList fun _ : Hash256 => PendingObject) : Prop where
  objects : ∀ key peer, peers.lookup key = some peer → peer.pendingObjects = (pendingOf pending key).length
  bytes : ∀ key peer, peers.lookup key = some peer → peer.pendingBytes = bytesOf (pendingOf pending key)
  objects_le : ∀ key peer, peers.lookup key = some peer →
    peer.pendingObjects ≤ limits.maximumPendingObjectsPerPeer.toNat
  bytes_le : ∀ key peer, peers.lookup key = some peer →
    peer.pendingBytes ≤ limits.maximumPendingBytesPerPeer.toNat
  tracked : ∀ objectId object, pending.lookup objectId = some object → (peers.lookup object.peer).isSome

def PeerCounted (limits : OverlayLimits) (objects : List PendingObject) (peer : PeerState) : Prop :=
  peer.pendingObjects = objects.length ∧ peer.pendingBytes = bytesOf objects
    ∧ peer.pendingObjects ≤ limits.maximumPendingObjectsPerPeer.toNat
    ∧ peer.pendingBytes ≤ limits.maximumPendingBytesPerPeer.toNat

structure OverlayNode.Sound (node : OverlayNode) : Prop where
  counted : Counted node.limits node.peers node.pending
  seen : ∀ objectId, objectId ∈ node.seen ↔ objectId ∈ node.seenOrder
  nodup : node.seenOrder.Nodup
  seen_le : node.seenOrder.length ≤ node.limits.maximumSeenObjects
  disjoint : ∀ objectId ∈ node.seen, node.pending.lookup objectId = none
  generation_lt : ∀ objectId object, node.pending.lookup objectId = some object →
    object.generation < node.nextValidationGeneration
  orphans_le : node.orphans.length ≤ node.limits.maximumOrphanShares

variable {key : PublicKey} {peer : PeerState}

namespace Counted

variable {limits : OverlayLimits} {peers : AList fun _ : PublicKey => PeerState}
  {pending pending' : AList fun _ : Hash256 => PendingObject}

theorem of_peers (hpeers : ∀ key peer, peers.lookup key = some peer → PeerCounted limits (pendingOf pending key) peer)
    (htracked : ∀ objectId object, pending.lookup objectId = some object → (peers.lookup object.peer).isSome)
    : Counted limits peers pending where
  objects key peer h := (hpeers key peer h).1
  bytes key peer h := (hpeers key peer h).2.1
  objects_le key peer h := (hpeers key peer h).2.2.1
  bytes_le key peer h := (hpeers key peer h).2.2.2
  tracked := htracked

variable (h : Counted limits peers pending)

include h

theorem peerCounted (hlookup : peers.lookup key = some peer)
    : PeerCounted limits (pendingOf pending key) peer :=
  ⟨h.objects key peer hlookup, h.bytes key peer hlookup, h.objects_le key peer hlookup, h.bytes_le key peer hlookup⟩

theorem insert (hothers : ∀ key', key ≠ key' → (pendingOf pending key').Perm (pendingOf pending' key'))
    (hpeer : PeerCounted limits (pendingOf pending' key) peer)
    (htracked : ∀ objectId object, pending'.lookup objectId = some object →
      object.peer = key ∨ pending.lookup objectId = some object)
    : Counted limits (peers.insert key peer) pending' := by
  apply of_peers
  . intro key' peer' hlookup
    rcases AList.lookup_insert_eq_some.mp hlookup with ⟨rfl, rfl⟩ | ⟨hne, hlookup⟩
    . exact hpeer
    . have hperm := hothers key' hne.symm
      unfold PeerCounted
      rw [← hperm.length_eq, ← bytesOf_perm hperm]
      exact h.peerCounted hlookup
  . intro objectId object hlookup
    rw [AList.lookup_insert_eq]
    split
    . rfl
    next hne => exact h.tracked objectId object ((htracked objectId object hlookup).resolve_left hne)

theorem update {peer' : PeerState} (hlookup : peers.lookup key = some peer)
    (hobjects : peer'.pendingObjects = peer.pendingObjects) (hbytes : peer'.pendingBytes = peer.pendingBytes)
    : Counted limits (peers.insert key peer') pending := by
  apply h.insert
  . intro key' _
    rfl
  . unfold PeerCounted
    rw [hobjects, hbytes]
    exact h.peerCounted hlookup
  . intro objectId object hpending
    exact .inr hpending

theorem pendingOf_eq_nil (hlookup : peers.lookup key = none)
    : pendingOf pending key = [] := by
  unfold pendingOf
  rw [List.filter_eq_nil_iff]
  intro object hmem hkey
  obtain ⟨⟨objectId, object⟩, hentry, rfl⟩ := List.mem_map.mp hmem
  have htracked := h.tracked objectId object (AList.mem_lookup_iff.mpr hentry)
  rw [of_decide_eq_true hkey, hlookup] at htracked
  contradiction

theorem introduce (hlookup : peers.lookup key = none) (hobjects : peer.pendingObjects = 0)
    (hbytes : peer.pendingBytes = 0)
    : Counted limits (peers.insert key peer) pending := by
  apply h.insert
  . intro key' _
    rfl
  . rw [h.pendingOf_eq_nil hlookup]
    exact ⟨hobjects, hbytes, by omega, by omega⟩
  . intro objectId object hpending
    exact .inr hpending

theorem evict (hlookup : peers.lookup key = some peer) (hobjects : peer.pendingObjects = 0)
    : Counted limits (peers.erase key) pending := by
  apply of_peers
  . intro key' peer' hpeer
    exact h.peerCounted (AList.lookup_erase_eq_some.mp hpeer).2
  . intro objectId object hpending
    rw [AList.lookup_erase_eq]
    split
    next heq =>
      have hlength := (pendingOf_perm hpending key).length_eq
      rw [if_pos heq, ← h.objects key peer hlookup, hobjects] at hlength
      contradiction
    next => exact h.tracked objectId object hpending

theorem reserve {objectId : Hash256} {object : PendingObject} (hlookup : peers.lookup key = some peer)
    (hpending : pending.lookup objectId = none) (hpeer : object.peer = key)
    (hobjects : peer.pendingObjects + 1 ≤ limits.maximumPendingObjectsPerPeer.toNat)
    (hbytes : peer.pendingBytes + object.size.toNat ≤ limits.maximumPendingBytesPerPeer.toNat)
    : Counted limits
      (peers.insert key { peer with
        pendingObjects := peer.pendingObjects + 1
        pendingBytes := peer.pendingBytes + object.size.toNat })
      (pending.insert objectId object) := by
  have hperm := pendingOf_perm (AList.lookup_insert (a := objectId) (b := object) pending)
  rw [erase_insert_of_lookup hpending object, hpeer] at hperm
  obtain ⟨hlength, hsum, _⟩ := h.peerCounted hlookup
  apply h.insert
  . intro key' hne
    simpa [hne] using (hperm key').symm
  . refine ⟨?_, ?_, hobjects, hbytes⟩
    . rw [hlength, (hperm key).length_eq, if_pos rfl]
      rfl
    . rw [hsum, bytesOf_perm (hperm key), if_pos rfl]
      exact Nat.add_comm _ _
  . intro objectId' object' hlookup'
    rcases AList.lookup_insert_eq_some.mp hlookup' with ⟨rfl, rfl⟩ | ⟨_, hlookup'⟩
    . exact .inl hpeer
    . exact .inr hlookup'

variable {objectId : Hash256} {object : PendingObject} {peer : PeerState}
  (hpending : pending.lookup objectId = some object) (hlookup : peers.lookup object.peer = some peer)

include hpending hlookup

theorem pending_of_erase
    : peer.pendingObjects = (pendingOf (pending.erase objectId) object.peer).length + 1
      ∧ peer.pendingBytes = bytesOf (pendingOf (pending.erase objectId) object.peer) + object.size.toNat := by
  have hperm := pendingOf_perm hpending object.peer
  rw [if_pos rfl] at hperm
  rw [h.objects object.peer peer hlookup, h.bytes object.peer peer hlookup, hperm.length_eq, bytesOf_perm hperm]
  exact ⟨rfl, Nat.add_comm _ _⟩

theorem release
    : Counted limits (peers.insert object.peer (peer.settleWith (· - ·) object.size)) (pending.erase objectId) := by
  obtain ⟨hobjects, hbytes⟩ := h.pending_of_erase hpending hlookup
  obtain ⟨_, _, hobjects_le, hbytes_le⟩ := h.peerCounted hlookup
  apply h.insert
  . intro key hne
    simpa [hne] using pendingOf_perm hpending key
  . unfold PeerCounted PeerState.settleWith
    dsimp only
    omega
  . intro objectId' object' hlookup'
    exact .inr (AList.lookup_erase_eq_some.mp hlookup').2

end Counted

/-!
### Changes
-/

/-- All that a call does to a node is made of these. -/
inductive Change : OverlayNode → OverlayNode → Prop
  | record {node node' : OverlayNode} (hlimits : node'.limits = node.limits) (hpeers : node'.peers = node.peers)
      (hpending : node'.pending = node.pending) (horder : node'.seenOrder = node.seenOrder)
      (hseen : node'.seen = node.seen)
      (hgeneration : node'.nextValidationGeneration = node.nextValidationGeneration)
      (horphans : node.orphans.length ≤ node.limits.maximumOrphanShares →
        node'.orphans.length ≤ node.limits.maximumOrphanShares)
      : Change node node'
  | update {node : OverlayNode} {key : PublicKey} {peer peer' : PeerState}
      (hlookup : node.peers.lookup key = some peer) (hobjects : peer'.pendingObjects = peer.pendingObjects)
      (hbytes : peer'.pendingBytes = peer.pendingBytes)
      : Change node (node.setPeer key peer')
  | introduce {node : OverlayNode} {key : PublicKey} {peer : PeerState} (hlookup : node.peers.lookup key = none)
      (hobjects : peer.pendingObjects = 0) (hbytes : peer.pendingBytes = 0)
      : Change node (node.setPeer key peer)
  | evict {node : OverlayNode} {key : PublicKey} {peer : PeerState} (hlookup : node.peers.lookup key = some peer)
      (hobjects : peer.pendingObjects = 0)
      : Change node { node with peers := node.peers.erase key }
  | reserve {node : OverlayNode} {key : PublicKey} {peer : PeerState} {objectId : Hash256} {object : PendingObject}
      (hlookup : node.peers.lookup key = some peer) (hpending : node.pending.lookup objectId = none)
      (hseen : objectId ∉ node.seen) (hpeer : object.peer = key)
      (hgeneration : object.generation = node.nextValidationGeneration)
      (hobjects : peer.pendingObjects + 1 ≤ node.limits.maximumPendingObjectsPerPeer.toNat)
      (hbytes : peer.pendingBytes + object.size.toNat ≤ node.limits.maximumPendingBytesPerPeer.toNat)
      : Change node { node with
          peers := node.peers.insert key { peer with
            pendingObjects := peer.pendingObjects + 1
            pendingBytes := peer.pendingBytes + object.size.toNat }
          pending := node.pending.insert objectId object
          nextValidationGeneration := node.nextValidationGeneration + 1 }
  | release {node : OverlayNode} {objectId : Hash256} {object : PendingObject} {peer : PeerState}
      (hpending : node.pending.lookup objectId = some object) (hlookup : node.peers.lookup object.peer = some peer)
      : Change node { node with
          pending := node.pending.erase objectId
          peers := node.peers.insert object.peer (peer.settleWith (· - ·) object.size) }
  | see {node : OverlayNode} {objectId : Hash256} (hpending : node.pending.lookup objectId = none)
      (hseen : objectId ∉ node.seen)
      : Change node (node.markSeen objectId)

abbrev Changes := Relation.ReflTransGen Change

theorem trimSeen_spec (maximum : Nat) {order : List Hash256} {seen : Finset Hash256}
    (hseen : ∀ objectId, objectId ∈ seen ↔ objectId ∈ order) (hnodup : order.Nodup)
    : (∀ objectId, objectId ∈ (trimSeen maximum order seen).2 ↔ objectId ∈ (trimSeen maximum order seen).1)
      ∧ (trimSeen maximum order seen).1.Nodup
      ∧ (trimSeen maximum order seen).1.length ≤ maximum
      ∧ (trimSeen maximum order seen).1 ⊆ order := by
  induction order generalizing seen with
  | nil =>
    unfold trimSeen
    simpa using hseen
  | cons oldest rest ih =>
    rw [List.nodup_cons] at hnodup
    unfold trimSeen
    split
    next =>
      have hrest : ∀ objectId, objectId ∈ seen.erase oldest ↔ objectId ∈ rest := by
        intro objectId
        rw [Finset.mem_erase, hseen, List.mem_cons]
        constructor
        . rintro ⟨hne, hmem⟩
          exact hmem.resolve_left hne
        . intro hmem
          exact ⟨ne_of_mem_of_not_mem hmem hnodup.1, .inr hmem⟩
      obtain ⟨hseen', hnodup', hlength, hsubset⟩ := ih hrest hnodup.2
      exact ⟨hseen', hnodup', hlength, List.subset_cons_of_subset oldest hsubset⟩
    next h =>
      refine ⟨hseen, List.nodup_cons.mpr hnodup, ?_, List.Subset.refl _⟩
      rw [List.length_cons]
      omega

namespace Change

variable {node node' : OverlayNode}

theorem sound (h : Change node node') (hsound : node.Sound) : node'.Sound := by
  cases h with
  | record hlimits hpeers hpending horder hseen hgeneration horphans =>
    constructor <;> simp only [hlimits, hpeers, hpending, horder, hseen, hgeneration]
    exacts [hsound.counted, hsound.seen, hsound.nodup, hsound.seen_le, hsound.disjoint, hsound.generation_lt,
      horphans hsound.orphans_le]
  | update hlookup hobjects hbytes =>
    exact { hsound with counted := hsound.counted.update hlookup hobjects hbytes }
  | introduce hlookup hobjects hbytes =>
    exact { hsound with counted := hsound.counted.introduce hlookup hobjects hbytes }
  | evict hlookup hobjects => exact { hsound with counted := hsound.counted.evict hlookup hobjects }
  | @reserve _ _ objectId object hlookup hpending hseen hpeer hgeneration hobjects hbytes =>
    refine { hsound with
      counted := hsound.counted.reserve hlookup hpending hpeer hobjects hbytes, disjoint := ?_, generation_lt := ?_ }
    . intro objectId' hmem
      rw [AList.lookup_insert_ne (ne_of_mem_of_not_mem hmem hseen)]
      exact hsound.disjoint objectId' hmem
    . intro objectId' object' hlookup'
      rcases AList.lookup_insert_eq_some.mp hlookup' with ⟨rfl, rfl⟩ | ⟨_, hlookup'⟩
      . exact hgeneration.le.trans_lt (Nat.lt_succ_self _)
      . exact Nat.lt_succ_of_lt (hsound.generation_lt objectId' object' hlookup')
  | @release objectId _ _ hpending hlookup =>
    refine { hsound with
      counted := hsound.counted.release hpending hlookup, disjoint := ?_, generation_lt := ?_ }
    . intro objectId' hmem
      rw [AList.lookup_erase_eq]
      split
      . rfl
      . exact hsound.disjoint objectId' hmem
    . intro objectId' object' hlookup'
      exact hsound.generation_lt objectId' object' (AList.lookup_erase_eq_some.mp hlookup').2
  | @see objectId hpending hseen =>
    have hinsert : ∀ objectId', objectId' ∈ insert objectId node.seen ↔ objectId' ∈ node.seenOrder ++ [objectId] := by
      intro objectId'
      rw [Finset.mem_insert, hsound.seen, List.mem_append, List.mem_singleton]
      exact or_comm
    obtain ⟨hmem, hnodup, hlength, hsubset⟩ := trimSeen_spec node.limits.maximumSeenObjects hinsert (by
      rw [← List.concat_eq_append, List.nodup_concat, ← hsound.seen]
      exact ⟨hseen, hsound.nodup⟩)
    refine { hsound with seen := hmem, nodup := hnodup, seen_le := hlength, disjoint := ?_ }
    intro objectId' hseen'
    have := hsubset ((hmem objectId').mp hseen')
    rw [List.mem_append, List.mem_singleton, ← hsound.seen] at this
    rcases this with hold | rfl
    . exact hsound.disjoint objectId' hold
    . exact hpending

end Change

/-- Objects become pending under new generations only. -/
structure Advances (node node' : OverlayNode) : Prop where
  generation_le : node.nextValidationGeneration ≤ node'.nextValidationGeneration
  pending : ∀ objectId object, node'.pending.lookup objectId = some object →
    node.pending.lookup objectId = some object ∨ node.nextValidationGeneration ≤ object.generation

variable {node : OverlayNode} {node' : OverlayNode}

theorem Advances.of_eq (hpending : node'.pending = node.pending)
    (hgeneration : node'.nextValidationGeneration = node.nextValidationGeneration)
    : Advances node node' := by
  refine ⟨hgeneration.ge, ?_⟩
  rw [hpending]
  intro objectId object h
  exact .inl h

theorem Advances.trans {first second third : OverlayNode} (h : Advances first second) (h' : Advances second third)
    : Advances first third := by
  refine ⟨h.generation_le.trans h'.generation_le, ?_⟩
  intro objectId object hlookup
  rcases h'.pending objectId object hlookup with hlookup | hle
  . exact h.pending objectId object hlookup
  . exact .inr (h.generation_le.trans hle)

theorem Change.advances (h : Change node node') : Advances node node' := by
  cases h with
  | record _ _ hpending _ _ hgeneration => exact .of_eq hpending hgeneration
  | reserve _ _ _ _ hgeneration =>
    refine ⟨Nat.le_succ _, ?_⟩
    intro objectId' object' hlookup
    rcases AList.lookup_insert_eq_some.mp hlookup with ⟨rfl, rfl⟩ | ⟨_, hlookup⟩
    . exact .inr hgeneration.ge
    . exact .inl hlookup
  | release =>
    refine ⟨Nat.le_refl _, ?_⟩
    intro objectId' object' hlookup
    exact .inl (AList.lookup_erase_eq_some.mp hlookup).2
  | _ => exact .of_eq rfl rfl

theorem Changes.advances (h : Changes node node') : Advances node node' := by
  induction h with
  | refl => exact .of_eq rfl rfl
  | tail _ hchange ih => exact ih.trans hchange.advances

theorem Changes.sound (h : Changes node node') (hsound : node.Sound) : node'.Sound := by
  induction h with
  | refl => exact hsound
  | tail _ hchange ih => exact hchange.sound ih

/-!
### Calls
-/

theorem pushBoundedEvent_eq (node : OverlayNode) (event : OverlayEvent)
    : ∃ events droppedEvents, node.pushBoundedEvent event = { node with events, droppedEvents } := by
  unfold pushBoundedEvent
  dsimp only
  split
  . exact ⟨_, _, rfl⟩
  split <;> exact ⟨_, _, rfl⟩

@[simp]
theorem pushBoundedEvent_frame (node : OverlayNode) (event : OverlayEvent)
    : (node.pushBoundedEvent event).limits = node.limits ∧ (node.pushBoundedEvent event).peers = node.peers
      ∧ (node.pushBoundedEvent event).pending = node.pending ∧ (node.pushBoundedEvent event).seen = node.seen := by
  obtain ⟨_, _, h⟩ := pushBoundedEvent_eq node event
  rw [h]
  exact ⟨rfl, rfl, rfl, rfl⟩

theorem pushBoundedEvent_changes (h : Changes node node') (event : OverlayEvent)
    : Changes node (node'.pushBoundedEvent event) := by
  obtain ⟨_, _, heq⟩ := pushBoundedEvent_eq node' event
  rw [heq]
  exact h.tail (.record rfl rfl rfl rfl rfl rfl id)

theorem penalize_changes {α : Type} (node : OverlayNode) (peerKey : PublicKey) (error : NetworkError)
    : Changes node (left (penalize (α := α) peerKey error node)) := by
  unfold penalize
  split
  . exact .refl
  next peer hlookup =>
    split
    . exact .refl
    next score _ =>
      have hset : Changes node (node.setPeer peerKey { peer with
          gossipScore := score, disconnected := peer.disconnected || score ≤ node.limits.disconnectScore }) :=
        .single (.update hlookup rfl rfl)
      have hpenalized := pushBoundedEvent_changes hset (.peerPenalized peerKey score)
      dsimp only [left]
      split
      . exact pushBoundedEvent_changes hpenalized _
      . exact hpenalized

theorem evictInactivePeer_changes {nowMs : UInt64} (h : node.evictInactivePeer nowMs = some node')
    : Changes node node' := by
  unfold evictInactivePeer at h
  obtain ⟨key, hkey, rfl⟩ := Option.map_eq_some_iff.mp h
  unfold evictionCandidate at hkey
  obtain ⟨⟨key, peer⟩, hmin, rfl⟩ := Option.map_eq_some_iff.mp hkey
  have hmem := List.argmin_mem hmin
  rw [List.mem_filter, decide_eq_true_eq] at hmem
  obtain ⟨hentry, hidle, _⟩ := hmem
  have hevict : Changes node { node with peers := node.peers.erase key } :=
    .single (.evict (AList.mem_lookup_iff.mpr hentry) hidle)
  exact hevict.tail (.record rfl rfl rfl rfl rfl rfl id)

theorem makeRoom_changes (nowMs : UInt64) (rounds : Nat) (node : OverlayNode)
    : Changes node (left (makeRoom nowMs rounds node)) := by
  induction rounds generalizing node with
  | zero => exact .refl
  | succ rounds ih =>
    unfold makeRoom
    split
    . exact .refl
    split
    . exact .refl
    next node' hevict => exact (evictInactivePeer_changes hevict).trans (ih node')

theorem makeRoom_lookup (nowMs : UInt64) (rounds : Nat) (h : node.peers.lookup key = none)
    : (left (makeRoom nowMs rounds node)).peers.lookup key = none := by
  induction rounds generalizing node with
  | zero => exact h
  | succ rounds ih =>
    unfold makeRoom
    split
    . exact h
    split
    . exact h
    next node' hevict =>
      apply ih
      unfold evictInactivePeer at hevict
      obtain ⟨key', _, rfl⟩ := Option.map_eq_some_iff.mp hevict
      rw [AList.lookup_erase_eq]
      split
      . rfl
      . exact h

@[simp]
theorem touch_pending (peer : PeerState) (limits : OverlayLimits) (nowMs : UInt64)
    : (peer.touch limits nowMs).pendingObjects = peer.pendingObjects
      ∧ (peer.touch limits nowMs).pendingBytes = peer.pendingBytes := by
  unfold PeerState.touch
  dsimp only
  split <;> exact ⟨rfl, rfl⟩

def SubtractsExactly (sub : Nat → Nat → Nat) : Prop :=
  ∀ a b, b ≤ a → sub a b = a - b

theorem subtractsExactly_sub : SubtractsExactly (· - ·) := by
  intro a b _
  rfl

theorem settleWith_eq {sub : Nat → Nat → Nat} (hsub : SubtractsExactly sub)
    (hsound : node.Sound) {objectId : Hash256} {object : PendingObject}
    (hpending : node.pending.lookup objectId = some object) (hlookup : node.peers.lookup object.peer = some peer)
    : peer.settleWith sub object.size = peer.settleWith (· - ·) object.size := by
  obtain ⟨hobjects, hbytes⟩ := hsound.counted.pending_of_erase hpending hlookup
  unfold PeerState.settleWith
  rw [hsub _ _ (by omega), hsub _ _ (by omega)]

variable {maximum : Nat} {orphans : List Hash256}

section

variable {sub : Nat → Nat → Nat} (hsub : SubtractsExactly sub)

include hsub

theorem foldl_expireWith (nowMs : UInt64) {entries : List ((_ : Hash256) × PendingObject)}
    (expired : Nat) (hsound : node.Sound) (hnodup : entries.NodupKeys)
    (hentries : ∀ entry ∈ entries, node.pending.lookup entry.1 = some entry.2)
    : entries.foldl (expireWith sub nowMs) (node, expired)
        = entries.foldl (expireWith (· - ·) nowMs) (node, expired)
      ∧ Changes node (entries.foldl (expireWith sub nowMs) (node, expired)).1 := by
  induction entries generalizing node expired with
  | nil => exact ⟨rfl, .refl⟩
  | cons entry entries ih =>
    obtain ⟨objectId, object⟩ := entry
    rw [List.nodupKeys_cons] at hnodup
    rw [List.forall_mem_cons] at hentries
    obtain ⟨hpending, hentries⟩ := hentries
    dsimp only at hpending hnodup
    obtain ⟨peer, hlookup⟩ := Option.isSome_iff_exists.mp (hsound.counted.tracked objectId object hpending)
    rw [List.foldl_cons, List.foldl_cons]
    by_cases hyoung : elapsed nowMs object.startedMs < node.limits.pendingValidationTimeoutMs.toNat
    . have hkeep : ∀ sub, expireWith sub nowMs (node, expired) ⟨objectId, object⟩ = (node, expired) := by
        intro sub
        unfold expireWith
        exact if_pos hyoung
      rw [hkeep, hkeep]
      exact ih expired hsound hnodup.2 hentries
    . have hdrop : ∀ sub, SubtractsExactly sub → expireWith sub nowMs (node, expired) ⟨objectId, object⟩
          = ({ node with
            pending := node.pending.erase objectId
            peers := node.peers.insert object.peer (peer.settleWith (· - ·) object.size) },
            saturatingU64 (expired + 1)) := by
        intro sub hsub
        unfold expireWith
        dsimp only
        rw [if_neg hyoung, hlookup]
        dsimp only
        rw [settleWith_eq hsub hsound hpending hlookup]
      rw [hdrop sub hsub, hdrop _ subtractsExactly_sub]
      have hchange : Change node { node with
          pending := node.pending.erase objectId
          peers := node.peers.insert object.peer (peer.settleWith (· - ·) object.size) } :=
        .release hpending hlookup
      obtain ⟨heq, hchanges⟩ := ih (saturatingU64 (expired + 1)) (hchange.sound hsound) hnodup.2 (by
          intro entry hmem
          rw [AList.lookup_erase_eq, if_neg]
          . exact hentries entry hmem
          . intro heq
            apply hnodup.1
            rw [← heq, List.mem_keys]
            exact ⟨entry.2, hmem⟩)
      exact ⟨heq, .head hchange hchanges⟩

variable {node : OverlayNode} (hsound : node.Sound)

include hsound

theorem expireStaleValidationsWith_spec (nowMs : UInt64)
    : node.expireStaleValidationsWith sub nowMs = node.expireStaleValidations nowMs
      ∧ Changes node (node.expireStaleValidationsWith sub nowMs) := by
  obtain ⟨heq, hchanges⟩ := foldl_expireWith hsub nowMs 0 hsound node.pending.nodupKeys (by
    intro entry hmem
    exact AList.mem_lookup_iff.mpr hmem)
  constructor
  . unfold expireStaleValidations expireStaleValidationsWith
    rw [heq]
  . exact hchanges.tail (.record rfl rfl rfl rfl rfl rfl id)

theorem authenticatePeerWith_spec [Primitives] (hello : PeerHello) (nowMs : UInt64)
    : authenticatePeerWith sub hello nowMs node = authenticatePeer hello nowMs node
      ∧ Changes node (left (authenticatePeerWith sub hello nowMs node)) := by
  obtain ⟨heq, hchanges⟩ := expireStaleValidationsWith_spec hsub hsound nowMs
  constructor
  . unfold authenticatePeer authenticatePeerWith
    rw [heq]
    rfl
  . unfold authenticatePeerWith
    split
    . exact .refl
    split
    . exact .refl
    dsimp only
    generalize node.expireStaleValidationsWith sub nowMs = node' at hchanges
    split
    next peer hlookup =>
      split
      . exact hchanges
      split
      . exact hchanges
      . refine pushBoundedEvent_changes (hchanges.tail ?_) _
        exact .update hlookup rfl rfl
    next hlookup =>
      split
      . exact hchanges
      have hroom := makeRoom_changes nowMs node'.peers.entries.length node'
      have habsent := makeRoom_lookup nowMs node'.peers.entries.length hlookup
      split
      next failure node'' hmake =>
        rw [hmake] at hroom
        exact hchanges.trans hroom
      next node'' hmake =>
        rw [hmake] at hroom habsent
        exact pushBoundedEvent_changes ((hchanges.trans hroom).tail (.introduce habsent rfl rfl)) _

variable {peerKey : PublicKey} {peer : PeerState}

omit hsub hsound in
theorem reserve_changes {envelope : ObjectEnvelope} (nowMs : UInt64) (hlookup : node.peers.lookup peerKey = some peer)
    (hpending : node.pending.lookup envelope.objectId = none) (hseen : envelope.objectId ∉ node.seen)
    (hobjects : peer.pendingObjects + 1 ≤ node.limits.maximumPendingObjectsPerPeer.toNat)
    (hbytes : peer.pendingBytes + envelope.encodedSize.toNat ≤ node.limits.maximumPendingBytesPerPeer.toNat)
    : Changes node (left (OverlayNode.reserve peerKey peer envelope nowMs node)) := by
  unfold OverlayNode.reserve
  dsimp only
  split
  . exact .refl
  . let object : PendingObject := ⟨peerKey, envelope.encodedSize, nowMs, node.nextValidationGeneration⟩
    refine pushBoundedEvent_changes (.single ?_) _
    exact @Change.reserve node peerKey peer envelope.objectId object hlookup hpending hseen rfl rfl hobjects hbytes

variable {rounds : Nat} {evicted : List Hash256}

omit hsub hsound in
theorem length_evictOrphans (h : evictOrphans maximum rounds orphans = some evicted)
    : evicted.length < maximum := by
  fun_induction evictOrphans maximum rounds orphans with
  | case1 => contradiction
  | case2 orphans rounds _ ih => exact ih h
  | case3 orphans rounds hroom =>
    injection h with h
    rw [← h]
    omega

omit hsub hsound in
theorem evictOrphans_change (h : evictOrphans node.limits.maximumOrphanShares rounds node.orphans = some evicted)
    (objectId : Hash256)
    : Change node { node with orphans := evicted ++ [objectId] } := by
  apply Change.record
  all_goals try rfl
  intro _
  rw [List.length_append, List.length_singleton]
  exact length_evictOrphans h

omit hsub hsound in
theorem screen_changes (rounds : Nat) (envelope : ObjectEnvelope) (signatureValid : Bool) (nowMs : UInt64)
    (hlookup : node.peers.lookup peerKey = some peer)
    : Changes node (left (screen rounds peerKey peer envelope signatureValid nowMs node)) := by
  unfold screen
  split
  . exact .refl
  next hpending =>
    rw [Option.not_isSome_iff_eq_none] at hpending
    split
    . exact (pushBoundedEvent_changes .refl _).trans (penalize_changes _ _ _)
    split
    . exact .refl
    next hseen =>
      split
      . exact .refl
      split
      . exact .refl
      next hbudget =>
        split
        . split
          . exact penalize_changes _ _ _
          split
          . exact .refl
          next orphans hevict =>
            have hcache := evictOrphans_change hevict envelope.objectId
            refine (pushBoundedEvent_changes (.single hcache) (.orphanCached envelope.objectId)).trans ?_
            apply reserve_changes nowMs
            . simpa using hlookup
            . simpa using hpending
            . simpa using hseen
            . simp only [pushBoundedEvent_frame]
              omega
            . simp only [pushBoundedEvent_frame]
              omega
        . exact reserve_changes nowMs hlookup hpending hseen (by omega) (by omega)

theorem beginValidationWith_spec (rounds : Nat) (peerKey : PublicKey) (envelope : ObjectEnvelope)
    (signatureValid : Bool) (nowMs : UInt64)
    : beginValidationWith sub rounds peerKey envelope signatureValid nowMs node
        = beginValidation rounds peerKey envelope signatureValid nowMs node
      ∧ Changes node (left (beginValidationWith sub rounds peerKey envelope signatureValid nowMs node)) := by
  obtain ⟨heq, hchanges⟩ := expireStaleValidationsWith_spec hsub hsound nowMs
  constructor
  . unfold beginValidation beginValidationWith
    rw [heq]
    rfl
  . unfold beginValidationWith
    dsimp only
    generalize node.expireStaleValidationsWith sub nowMs = node' at hchanges
    split
    . exact hchanges
    next peer hfilter =>
      rw [Option.filter_eq_some_iff] at hfilter
      have htouch : Change node' (node'.setPeer peerKey (peer.touch node'.limits nowMs)) :=
        .update hfilter.1 (by simp) (by simp)
      have hlookup : (node'.setPeer peerKey (peer.touch node'.limits nowMs)).peers.lookup peerKey
          = some (peer.touch node'.limits nowMs) := AList.lookup_insert _
      have hchanges := hchanges.tail htouch
      split
      . exact hchanges
      split
      . exact hchanges.trans (penalize_changes _ _ _)
      split
      . exact hchanges.tail (.update hlookup rfl rfl)
      . refine .trans ?_ (screen_changes rounds envelope signatureValid nowMs (AList.lookup_insert _))
        exact hchanges.tail (.update hlookup rfl rfl)

theorem finishValidationWith_spec (token : IngressToken) (valid : Bool)
    : finishValidationWith sub token valid node = finishValidation token valid node
      ∧ Changes node (left (finishValidationWith sub token valid node)) := by
  unfold finishValidation finishValidationWith
  split
  . exact ⟨rfl, .refl⟩
  next object hfilter =>
    rw [Option.filter_eq_some_iff] at hfilter
    obtain ⟨peer, hlookup⟩ :=
      Option.isSome_iff_exists.mp (hsound.counted.tracked token.objectId object hfilter.1)
    dsimp only
    rw [hlookup]
    dsimp only
    rw [settleWith_eq hsub hsound hfilter.1 hlookup]
    refine ⟨rfl, ?_⟩
    have hrelease : Changes node ({ node with pending := node.pending.erase token.objectId }.setPeer object.peer
        (peer.settleWith (· - ·) object.size)) :=
      .single (.release hfilter.1 hlookup)
    split
    . exact hrelease.trans (penalize_changes _ _ _)
    split
    . exact hrelease
    . refine pushBoundedEvent_changes (.tail (.tail hrelease ?_) (.see ?_ ?_)) _
      . exact .update (AList.lookup_insert _) rfl rfl
      . exact AList.lookup_erase token.objectId node.pending
      . intro hseen
        have := hsound.disjoint token.objectId hseen
        rw [hfilter.1] at this
        contradiction

end

theorem requestBodyBytes_changes (node : OverlayNode) (peerKey : PublicKey) (bytes : UInt64) (nowMs : UInt64)
    : Changes node (left (requestBodyBytes peerKey bytes nowMs node)) := by
  unfold requestBodyBytes
  split
  . exact .refl
  next peer hfilter =>
    rw [Option.filter_eq_some_iff] at hfilter
    dsimp only
    repeat' split
    all_goals exact .single (.update hfilter.1 (by simp) (by simp))

/-!
### Runs
-/

theorem new_sound (networkId : UInt8) (limits : OverlayLimits) (topicLimits : AList fun _ : GossipTopic => TopicLimit)
    : (OverlayNode.new networkId limits topicLimits).Sound := by
  refine ⟨⟨?_, ?_, ?_, ?_, ?_⟩, ?_, List.nodup_nil, Nat.zero_le _, ?_, ?_, Nat.zero_le _⟩
  all_goals simp [OverlayNode.new]

section

variable [Primitives] {node : OverlayNode}

theorem serveWith_spec {sub : Nat → Nat → Nat} (hsub : SubtractsExactly sub) (hsound : node.Sound) (request : Request)
    : node.serveWith sub request = node.serve request ∧ Changes node (node.serveWith sub request) := by
  cases request with
  | authenticatePeer hello nowMs =>
    exact (authenticatePeerWith_spec hsub hsound hello nowMs).imp_left (congrArg left)
  | beginValidation peerKey envelope signatureValid nowMs =>
    exact (beginValidationWith_spec hsub hsound _ peerKey envelope signatureValid nowMs).imp_left (congrArg left)
  | finishValidation token valid =>
    exact (finishValidationWith_spec hsub hsound token valid).imp_left (congrArg left)
  | requestBodyBytes peerKey bytes nowMs => exact ⟨rfl, requestBodyBytes_changes node peerKey bytes nowMs⟩

theorem serveAll_spec (hsound : node.Sound) (requests : List Request)
    : (node.serveAll requests).Sound ∧ Advances node (node.serveAll requests) := by
  induction requests generalizing node with
  | nil => exact ⟨hsound, .of_eq rfl rfl⟩
  | cons request requests ih =>
    obtain ⟨_, hchanges⟩ := serveWith_spec subtractsExactly_sub hsound request
    obtain ⟨hrun, hadvances⟩ := ih (hchanges.sound hsound)
    exact ⟨hrun, hchanges.advances.trans hadvances⟩

end

/-!
### Tokens
-/

def Holds (node : OverlayNode) (token : IngressToken) : Prop :=
  ∃ object, node.pending.lookup token.objectId = some object ∧ object.peer = token.peer
    ∧ object.generation = token.generation

def Completes (node : OverlayNode) (token : IngressToken) (valid : Bool) : Prop :=
  finishValidation token valid node ≠ .error (.error .unknownValidation) node

variable {token : IngressToken} {valid : Bool}

theorem Completes.holds (h : Completes node token valid)
    : Holds node token := by
  unfold Completes finishValidation finishValidationWith at h
  split at h
  . contradiction
  next object hfilter =>
    rw [Option.filter_eq_some_iff, decide_eq_true_eq] at hfilter
    exact ⟨object, hfilter⟩

theorem Advances.not_holds (h : Advances node node')
    (hgeneration : token.generation < node.nextValidationGeneration) (hnot : ¬ Holds node token)
    : ¬ Holds node' token := by
  rintro ⟨object, hlookup, hpeer, heq⟩
  rcases h.pending token.objectId object hlookup with hlookup | hle
  . exact hnot ⟨object, hlookup, hpeer, heq⟩
  . omega

theorem OverlayNode.Sound.generation_lt_of_holds (hsound : node.Sound) (h : Holds node token)
    : token.generation < node.nextValidationGeneration := by
  obtain ⟨object, hlookup, _, heq⟩ := h
  rw [← heq]
  exact hsound.generation_lt token.objectId object hlookup

theorem penalize_pending {α : Type} (node : OverlayNode) (peerKey : PublicKey) (error : NetworkError)
    : (left (penalize (α := α) peerKey error node)).pending = node.pending := by
  unfold penalize
  split
  . rfl
  split
  . rfl
  dsimp only [left]
  split <;> simp [setPeer]

theorem Completes.not_holds (h : Completes node token valid)
    : ¬ Holds (left (finishValidation token valid node)) token := by
  have herased : (left (finishValidation token valid node)).pending = node.pending.erase token.objectId := by
    unfold Completes at h
    unfold finishValidation finishValidationWith at h ⊢
    split
    next hfilter =>
      rw [hfilter] at h
      contradiction
    next object hfilter =>
      dsimp only
      split
      . rfl
      split
      . rw [penalize_pending]
        rfl
      split
      . rfl
      . simp [left, markSeen, setPeer]
  rintro ⟨object, hlookup, _⟩
  rw [herased, AList.lookup_erase] at hlookup
  contradiction

theorem serveAll_invariants [Primitives] (networkId : UInt8) (limits : OverlayLimits)
    (topicLimits : AList fun _ : GossipTopic => TopicLimit) (requests : List Request)
    : let node := (OverlayNode.new networkId limits topicLimits).serveAll requests
      node.Sound
      ∧ (∀ token valid, Completes node token valid →
        Holds node token
        ∧ ∀ later valid',
          ¬ Completes ((left (finishValidation token valid node)).serveAll later) token valid')
      ∧ (∀ earlier rest token, requests = earlier ++ rest →
        Holds ((OverlayNode.new networkId limits topicLimits).serveAll earlier) token → ¬ Holds node token →
        ∀ later valid, ¬ Completes (node.serveAll later) token valid)
      ∧ ∀ sub, SubtractsExactly sub → ∀ request, node.serveWith sub request = node.serve request := by
  intro node
  have hinitial := new_sound networkId limits topicLimits
  have hsound : node.Sound := (serveAll_spec hinitial requests).1
  refine ⟨hsound, ?_, ?_, ?_⟩
  . intro token valid hcompletes
    have hholds := hcompletes.holds
    refine ⟨hholds, ?_⟩
    intro later valid' hagain
    obtain ⟨_, hchanges⟩ := finishValidationWith_spec subtractsExactly_sub hsound token valid
    obtain ⟨_, hadvances⟩ := serveAll_spec (hchanges.sound hsound) later
    refine hadvances.not_holds ?_ hcompletes.not_holds hagain.holds
    exact (hsound.generation_lt_of_holds hholds).trans_le hchanges.advances.generation_le
  . intro earlier rest token hrequests hissued hnot later valid hcompletes
    obtain ⟨hsound', _⟩ := serveAll_spec hinitial earlier
    have hsplit : node = ((OverlayNode.new networkId limits topicLimits).serveAll earlier).serveAll rest := by
      unfold node
      rw [hrequests]
      exact List.foldl_append
    obtain ⟨_, hadvances⟩ := serveAll_spec hsound' rest
    obtain ⟨_, hlater⟩ := serveAll_spec hsound later
    refine hlater.not_holds ?_ hnot hcompletes.holds
    rw [hsplit]
    exact (hsound'.generation_lt_of_holds hissued).trans_le hadvances.generation_le
  . intro sub hsub request
    exact (serveWith_spec hsub hsound request).1

/-!
### The eviction of orphans
-/

theorem exists_evictOrphans {rounds : Nat} (hmaximum : maximum ≠ 0) (hrounds : orphans.length < rounds)
    : ∃ evicted, evictOrphans maximum rounds orphans = some evicted := by
  fun_induction evictOrphans maximum rounds orphans with
  | case1 => omega
  | case2 orphans rounds _ ih =>
    apply ih
    rw [List.length_tail]
    omega
  | case3 rounds orphans => exact ⟨orphans, rfl⟩

def Returns {α : Type} (result : EStateM.Result Failure OverlayNode α) : Prop :=
  ∀ node, result ≠ .error .outOfRounds node

section

variable {node : OverlayNode} {rounds : Nat} {peerKey : PublicKey} {peer : PeerState} {envelope : ObjectEnvelope}
  {signatureValid : Bool} {nowMs : UInt64}

theorem penalize_returns {α : Type} {error : NetworkError} : Returns (penalize (α := α) peerKey error node) := by
  intro node'
  unfold penalize
  split
  . simp
  split <;> simp

theorem reserve_returns : Returns (OverlayNode.reserve peerKey peer envelope nowMs node) := by
  intro node'
  unfold OverlayNode.reserve
  dsimp only
  split <;> simp

theorem screen_returns
    : Returns (screen rounds peerKey peer envelope signatureValid nowMs node)
      ↔ (node.pending.lookup envelope.objectId = none ∧ signatureValid ∧ envelope.objectId ∉ node.seen
          ∧ peer.pendingObjects < node.limits.maximumPendingObjectsPerPeer.toNat
          ∧ peer.pendingBytes + envelope.encodedSize.toNat ≤ node.limits.maximumPendingBytesPerPeer.toNat
          ∧ envelope.topic = .share ∧ envelope.missingParent
          ∧ envelope.parentFetchDepth ≤ node.limits.maximumParentFetchDepth
        → (evictOrphans node.limits.maximumOrphanShares rounds node.orphans).isSome) := by
  have hbytes := node.limits.maximumPendingBytesPerPeer.toNat_lt
  unfold screen
  split
  next h => simp [Returns, ← Option.not_isSome_iff_eq_none, h]
  split
  next h => simp [penalize_returns, h]
  split
  next h => simp [Returns, h]
  split
  next h => exact iff_of_true (by simp [Returns]) (by omega)
  split
  next h => exact iff_of_true (by simp [Returns]) (by omega)
  split
  next hshare =>
    split
    next h => simp [penalize_returns, UInt16.not_le.mpr h]
    next hdepth =>
      split
      next h => simp_all [Returns]
      next h => simp [reserve_returns, h]
  next h => exact iff_of_true reserve_returns (by tauto)

/-!
### Validations that time out
-/

def OverlayNode.stale (node : OverlayNode) (nowMs : UInt64) : List ((_ : Hash256) × PendingObject) :=
  node.pending.entries.filter fun entry =>
    node.limits.pendingValidationTimeoutMs.toNat ≤ elapsed nowMs entry.2.startedMs

def PeerState.release (peer : PeerState) (objects : List PendingObject) : PeerState :=
  { peer with
    pendingObjects := peer.pendingObjects - objects.length
    pendingBytes := peer.pendingBytes - bytesOf objects }

/-- What `begin_validation` reads of a node after the stale validations have been dropped. -/
structure Expired (node : OverlayNode) (stale : List ((_ : Hash256) × PendingObject)) (after : OverlayNode) : Prop where
  limits : after.limits = node.limits
  topicLimits : after.topicLimits = node.topicLimits
  seen : after.seen = node.seen
  orphans : after.orphans = node.orphans
  pending : ∀ objectId, after.pending.lookup objectId = none
    ↔ node.pending.lookup objectId = none ∨ ∃ object, ⟨objectId, object⟩ ∈ stale
  peers : ∀ key, after.peers.lookup key
    = (node.peers.lookup key).map (·.release ((stale.map (·.2)).filter (·.peer = key)))

theorem expired_foldl (entries : List ((_ : Hash256) × PendingObject)) (node : OverlayNode) (n : Nat)
    : Expired node (entries.filter fun entry =>
        node.limits.pendingValidationTimeoutMs.toNat ≤ elapsed nowMs entry.2.startedMs)
        (entries.foldl (expireWith (· - ·) nowMs) (node, n)).1 := by
  induction entries generalizing node n with
  | nil => exact ⟨rfl, rfl, rfl, rfl, by simp, by simp [PeerState.release, bytesOf]⟩
  | cons entry entries ih =>
    obtain ⟨id, object⟩ := entry
    rw [List.foldl_cons]
    dsimp only [expireWith]
    split
    next hfresh =>
      rw [List.filter_cons_of_neg (by simpa using hfresh)]
      exact ih node n
    next hstale =>
      rw [List.filter_cons_of_pos (by simpa using hstale)]
      refine ⟨(ih ..).limits, (ih ..).topicLimits, (ih ..).seen, (ih ..).orphans, ?_, ?_⟩
      . intro objectId
        rw [(ih ..).pending]
        by_cases hid : objectId = id
        . subst hid
          simp
        . simp [AList.lookup_erase_ne hid, hid]
      . intro key
        rw [(ih ..).peers]
        by_cases hkey : object.peer = key
        . subst hkey
          cases hlookup : node.peers.lookup object.peer with
          | none => simp [hlookup]
          | some peer =>
            simp [PeerState.release, PeerState.settleWith, bytesOf, Nat.sub_sub, Nat.add_comm]
        . cases hlookup : node.peers.lookup object.peer with
          | none => simp [hkey]
          | some peer => simp [hkey, AList.lookup_insert_ne (Ne.symm hkey)]

theorem expired_expireStaleValidations (node : OverlayNode)
    : Expired node (node.stale nowMs) (node.expireStaleValidationsWith (· - ·) nowMs) := by
  exact { @expired_foldl nowMs node.pending.entries node 0 with }

/-- A share whose parent is missing passes every check before the cache. The validations of the peer that have timed out
count no more. -/
def CachesOrphan (node : OverlayNode) (peerKey : PublicKey) (envelope : ObjectEnvelope) (signatureValid : Bool)
    (nowMs : UInt64) : Prop :=
  ∃ peer topicLimit, node.peers.lookup peerKey = some peer ∧ peer.disconnected = false
    ∧ node.topicLimits.lookup envelope.topic = some topicLimit ∧ envelope.encodedSize ≤ topicLimit.maximumObjectBytes
    ∧ ((peer.touch node.limits nowMs).messagesByTopic.lookup envelope.topic).getD 0
      < topicLimit.messagesPerWindow.toNat
    ∧ (node.pending.lookup envelope.objectId = none ∨ ∃ object, ⟨envelope.objectId, object⟩ ∈ node.stale nowMs)
    ∧ signatureValid ∧ envelope.objectId ∉ node.seen
    ∧ (let stale := ((node.stale nowMs).map (·.2)).filter (·.peer = peerKey)
      peer.pendingObjects - stale.length < node.limits.maximumPendingObjectsPerPeer.toNat
        ∧ peer.pendingBytes - bytesOf stale + envelope.encodedSize.toNat
          ≤ node.limits.maximumPendingBytesPerPeer.toNat)
    ∧ envelope.topic = .share ∧ envelope.missingParent
    ∧ envelope.parentFetchDepth ≤ node.limits.maximumParentFetchDepth

theorem touch_release (limits : OverlayLimits) (objects : List PendingObject)
    : (peer.release objects).touch limits nowMs = (peer.touch limits nowMs).release objects := by
  unfold PeerState.touch
  dsimp only [PeerState.release]
  split <;> rfl

theorem beginValidation_returns_iff
    : Returns (beginValidation rounds peerKey envelope signatureValid nowMs node)
      ↔ (CachesOrphan node peerKey envelope signatureValid nowMs
        → (evictOrphans node.limits.maximumOrphanShares rounds node.orphans).isSome) := by
  have hexpired := @expired_expireStaleValidations nowMs node
  unfold beginValidation beginValidationWith CachesOrphan
  generalize node.expireStaleValidationsWith (· - ·) nowMs = after at hexpired
  dsimp only
  rw [hexpired.peers]
  split
  next hfilter =>
    apply iff_of_true (by simp [Returns])
    rintro ⟨peer, topicLimit, hlookup, hconnected, _⟩
    simp [hlookup, PeerState.release, hconnected] at hfilter
  next released hfilter =>
  rw [Option.filter_eq_some_iff, Option.map_eq_some_iff] at hfilter
  obtain ⟨⟨peer, hlookup, rfl⟩, hconnected⟩ := hfilter
  have hconnected : peer.disconnected = false := by simpa [PeerState.release] using hconnected
  simp only [setPeer, hexpired.topicLimits, hexpired.limits, touch_release, hlookup, Option.some.injEq,
    exists_and_left, exists_eq_left', hconnected, true_and]
  split
  next htopic => exact iff_of_true (by simp [Returns]) (by simp [htopic])
  next topicLimit htopic =>
  simp only [htopic, Option.some.injEq, exists_eq_left']
  split
  next hsize => exact iff_of_true penalize_returns (by simp [UInt32.not_le.mpr hsize])
  split
  next hrate => exact iff_of_true (by simp [Returns]) fun h => absurd h.2.1 (Nat.not_lt.mpr hrate)
  next hsize hrate =>
    rw [screen_returns, hexpired.pending, hexpired.seen, hexpired.orphans]
    simp only [PeerState.release, not_le] at hrate
    simp [PeerState.release, UInt32.not_lt.mp hsize, hrate]

theorem evictOrphans_zero (rounds : Nat) (orphans : List Hash256) : evictOrphans 0 rounds orphans = none := by
  induction rounds generalizing orphans with
  | zero => rfl
  | succ rounds ih => simp [evictOrphans, ih]

/-- The call ends, for some number of rounds of the eviction, exactly if the cache may hold a share or the call does not
come to the cache. It then ends in one round more than there are orphans. -/
theorem beginValidation_returns
    : ((∃ rounds, Returns (beginValidation rounds peerKey envelope signatureValid nowMs node))
        ↔ node.limits.maximumOrphanShares ≠ 0 ∨ ¬ CachesOrphan node peerKey envelope signatureValid nowMs)
      ∧ ((∃ rounds, Returns (beginValidation rounds peerKey envelope signatureValid nowMs node))
        → ∀ rounds, node.orphans.length < rounds
          → Returns (beginValidation rounds peerKey envelope signatureValid nowMs node)) := by
  simp only [beginValidation_returns_iff]
  by_cases hmaximum : node.limits.maximumOrphanShares = 0
  . simp only [hmaximum, evictOrphans_zero]
    exact ⟨by simp, fun ⟨_, h⟩ _ _ => h⟩
  . have hevict : ∀ rounds, node.orphans.length < rounds
        → (evictOrphans node.limits.maximumOrphanShares rounds node.orphans).isSome := by
      intro rounds hrounds
      obtain ⟨orphans, hevict⟩ := exists_evictOrphans hmaximum hrounds
      exact Option.isSome_of_eq_some hevict
    refine ⟨iff_of_true ⟨_, fun _ => hevict _ (Nat.lt_succ_self _)⟩ (.inl hmaximum), ?_⟩
    exact fun _ rounds hrounds _ => hevict rounds hrounds

end

def sampleLimits : OverlayLimits where
  rateWindowMs := 1000
  maximumTrackedPeers := 2
  peerInactivityTimeoutMs := 100
  maximumPendingObjectsPerPeer := 2
  maximumPendingBytesPerPeer := 64
  pendingValidationTimeoutMs := 50
  maximumSeenObjects := 1
  maximumOrphanShares := 1
  maximumRetainedEvents := 4
  maximumParentFetchDepth := 2
  bodyDownloadBytesPerWindow := 1000
  invalidObjectPenalty := 10
  disconnectScore := -20

def sampleKey : PublicKey := ⟨List.replicate 32 7, by decide⟩

def sampleObject (n : UInt8) : Hash256 := .fill 32 n

def sampleTopics : AList fun _ : GossipTopic => TopicLimit :=
  (∅ : AList fun _ : GossipTopic => TopicLimit).insert .share ⟨64, 8⟩

/-- The first validation expires, its object is taken up again, and the old token is presented. -/
def sampleRequests [Primitives] : List Request :=
  let hello : PeerHello := ⟨2, 1, sampleKey, none, sampleObject 0, []⟩
  [.authenticatePeer { hello with signature := Crypto.signObject sampleKey 1 hello } 10,
    .beginValidation sampleKey ⟨.share, sampleObject 1, 32, true, 1⟩ true 20,
    .beginValidation sampleKey ⟨.share, sampleObject 1, 32, true, 1⟩ true 80,
    .finishValidation ⟨sampleObject 1, sampleKey, 0⟩ true]

theorem serveAll_invariants_sample
    : letI := Primitives.fold
      let node := (OverlayNode.new 1 sampleLimits sampleTopics).serveAll sampleRequests
      node.Sound ∧ node.nextValidationGeneration = 2 ∧ node.pending.keys = [sampleObject 1] := by
  have h : letI := Primitives.fold
      let node := (OverlayNode.new 1 sampleLimits sampleTopics).serveAll sampleRequests
      node.nextValidationGeneration = 2 ∧ node.pending.keys = [sampleObject 1] := by
    decide +kernel
  exact ⟨(@serveAll_invariants Primitives.fold 1 sampleLimits sampleTopics _).1, h⟩

def sampleNode (maximumOrphanShares : Nat) : OverlayNode :=
  { OverlayNode.new 1 { sampleLimits with maximumOrphanShares } sampleTopics with
    peers := (∅ : AList fun _ : PublicKey => PeerState).insert sampleKey (.introduce none 10)
    orphans := [sampleObject 0] }

theorem beginValidation_returns_sample
    : (∃ rounds, Returns (beginValidation rounds sampleKey ⟨.share, sampleObject 1, 32, true, 1⟩ true 20
        (sampleNode 1)))
      ∧ ∃ rounds, Returns (beginValidation rounds sampleKey ⟨.share, sampleObject 1, 32, false, 1⟩ true 20
        (sampleNode 0)) := by
  refine ⟨beginValidation_returns.1.mpr (.inl (by decide)), beginValidation_returns.1.mpr (.inr ?_)⟩
  simp [CachesOrphan]

theorem beginValidation_endless
    : ¬ ∃ rounds, Returns (beginValidation rounds sampleKey ⟨.share, sampleObject 1, 32, true, 1⟩ true 20
        (sampleNode 0)) := by
  rintro ⟨rounds, h⟩
  match rounds with
  | 0 => exact h _ rfl
  | rounds + 1 =>
    -- After the first round the queue is empty, and the next rounds leave it so.
    induction rounds with
    | zero => exact h _ rfl
    | succ rounds ih => exact ih h

end MeshMine.Network
