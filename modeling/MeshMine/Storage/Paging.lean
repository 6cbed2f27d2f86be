import MeshMine.Data.Except
import MeshMine.Data.Paging
import MeshMine.Storage.Journal
import Mathlib.Algebra.GroupWithZero.Nat
import Mathlib.Algebra.Order.BigOperators.Group.List

/-!
The ordered key space all namespaces of a `MemoryStore` share (`storage_key`, `namespace_upper` and the two
scans of `meshmine-storage/src/lib.rs`), and the recovery of a journal page by page (`recover_kind_page`).
-/

namespace MeshMine.Storage

open MeshMine.Types

def storageKey (space key : List UInt8) : Except StorageError (List UInt8) :=
  if space.contains 0 ∨ key.contains 0 then .error .invalidKey else .ok (space ++ 0 :: key)

def namespaceUpper (space : List UInt8) : Except StorageError (List UInt8) :=
  if space.contains 0 then .error .invalidKey else .ok (space ++ [1])

/-- Every row was put under a `storage_key`, and all of them are in memory at once. -/
structure MemoryStore where
  records : List (List UInt8 × List UInt8)
  sorted : records.Pairwise (·.1 < ·.1)
  keyed : ∀ entry ∈ records, ∃ space key, storageKey space key = .ok entry.1
  addressable : (records.map fun entry => entry.1.length + entry.2.length).sum < 2 ^ 64

namespace MemoryStore

/-- The loop over `range`, whose bodies skip a key that does not start with the namespace's. -/
def visit (store : MemoryStore) (start upper : List UInt8) (lowerBound : List UInt8 → Bool)
    : List NamespaceRecord :=
  (store.records.filter fun entry => lowerBound entry.1 && entry.1 < upper).filterMap fun entry =>
    (entry.1.dropPrefix? start).map fun logicalKey => ⟨logicalKey, entry.2⟩

def scanNamespace (store : MemoryStore) (space : List UInt8) (limits : ScanLimits)
    : Except StorageError (List NamespaceRecord) := do
  let start ← storageKey space []
  let upper ← namespaceUpper space
  let records := store.visit start upper fun key => start ≤ key
  if Store.withinLimits limits 0 0 records then .ok records else .error .scanLimit

def scanNamespaceAfter (store : MemoryStore) (space : List UInt8) (exclusiveCursor : Option (List UInt8))
    (limits : ScanLimits)
    : Except StorageError NamespacePage := do
  let start ← storageKey space []
  let lower ← storageKey space (exclusiveCursor.getD [])
  let upper ← namespaceUpper space
  Store.pageRecords limits 0 0 (store.visit start upper fun key =>
    if exclusiveCursor.isSome then lower < key else lower ≤ key)

end MemoryStore

/-!
### The records of one namespace
-/

variable {key stored : List UInt8}

theorem storageKey_eq_ok {space : List UInt8}
    : storageKey space key = .ok stored ↔ 0 ∉ space ∧ 0 ∉ key ∧ stored = space ++ 0 :: key := by
  unfold storageKey
  split
  next h => grind
  next h => simp_all [eq_comm]

theorem storageKey_inj {space space' key' : List UInt8} (h : storageKey space key = .ok stored)
    (h' : storageKey space' key' = .ok stored)
    : space = space' ∧ key = key' := by
  obtain ⟨hspace, hkey, rfl⟩ := storageKey_eq_ok.mp h
  obtain ⟨_, _, heq⟩ := storageKey_eq_ok.mp h'
  simpa using (List.append_cons_inj_of_notMem hspace hkey).mp heq

variable {a b : List UInt8}

theorem append_lt_append_iff {start : List UInt8} : start ++ a < start ++ b ↔ a < b := by
  induction start with
  | nil => rfl
  | cons byte start ih => simp [ih]

variable {cursor : Option (List UInt8)}

namespace MemoryStore

variable {store : MemoryStore} {space : List UInt8} {limits : ScanLimits}

def recordOf (space : List UInt8) (entry : List UInt8 × List UInt8) : Option NamespaceRecord :=
  (entry.1.dropPrefix? (space ++ [0])).map fun logicalKey => ⟨logicalKey, entry.2⟩

def namespaceRecords (store : MemoryStore) (space : List UInt8) : List NamespaceRecord :=
  store.records.filterMap (recordOf space)

variable {record : NamespaceRecord}

theorem recordOf_eq_some {entry : List UInt8 × List UInt8}
    : recordOf space entry = some record ↔ entry = (space ++ 0 :: record.key, record.value) := by
  obtain ⟨stored, value⟩ := entry
  obtain ⟨key, value'⟩ := record
  simp [recordOf, List.dropPrefix?_eq_some_iff, Prod.ext_iff]

theorem mem_namespaceRecords
    : record ∈ store.namespaceRecords space ↔ (space ++ 0 :: record.key, record.value) ∈ store.records := by
  simp [namespaceRecords, recordOf_eq_some]

theorem sorted_namespaceRecords (store : MemoryStore) (space : List UInt8)
    : (store.namespaceRecords space).Pairwise (·.key < ·.key) := by
  apply List.Pairwise.filterMap _ _ store.sorted
  intro a b hlt record hrecord record' hrecord'
  rw [recordOf_eq_some.mp hrecord, recordOf_eq_some.mp hrecord', append_lt_append_iff,
    List.cons_lt_cons_iff] at hlt
  simpa using hlt

theorem storageKey_of_mem (hspace : 0 ∉ space) (hmem : record ∈ store.namespaceRecords space)
    : storageKey space record.key = .ok (space ++ 0 :: record.key) := by
  obtain ⟨other, key, hkey⟩ := store.keyed _ (mem_namespaceRecords.mp hmem)
  obtain ⟨hother, hzero, heq⟩ := storageKey_eq_ok.mp hkey
  obtain ⟨_, _, rfl⟩ := (List.append_cons_inj_of_notMem hother hzero).mp heq.symm
  exact storageKey_eq_ok.mpr ⟨hspace, hzero, rfl⟩

theorem visit_eq {lowerBound : List UInt8 → Bool}
    (hbound : ∀ key, lowerBound (space ++ 0 :: key) = cursor.all (· < key))
    : store.visit (space ++ [0]) (space ++ [1]) lowerBound
      = Paging.after NamespaceRecord.key cursor (store.namespaceRecords space) := by
  unfold visit namespaceRecords Paging.after
  rw [List.filterMap_filter, List.filter_filterMap]
  apply List.filterMap_congr
  intro entry _
  change (if _ then recordOf space entry else none) = _
  cases hrecord : recordOf space entry with
  | none => simp
  | some record =>
    rw [recordOf_eq_some.mp hrecord, hbound,
      decide_eq_true (append_lt_append_iff.mpr (by simp [List.cons_lt_cons_iff])), Bool.and_true]
    rfl

theorem namespaceUpper_eq (hspace : 0 ∉ space) : namespaceUpper space = .ok (space ++ [1]) := by
  simp [namespaceUpper, hspace]

theorem scanNamespace_eq (hspace : 0 ∉ space)
    : store.scanNamespace space limits
      = if Store.withinLimits limits 0 0 (store.namespaceRecords space) then
          .ok (store.namespaceRecords space)
        else
          .error .scanLimit := by
  have hvisit : store.visit (space ++ [0]) (space ++ [1]) (fun key => space ++ [0] ≤ key)
      = store.namespaceRecords space := by
    rw [← @Paging.after_none _ _ _ _ NamespaceRecord.key (store.namespaceRecords space)]
    apply visit_eq
    simp [← List.not_lt, append_lt_append_iff]
  unfold scanNamespace
  rw [storageKey_eq_ok.mpr ⟨hspace, List.not_mem_nil, rfl⟩, namespaceUpper_eq hspace]
  simp only [Except.ok_bind, hvisit]

theorem scanNamespaceAfter_eq (hspace : 0 ∉ space) (hcursor : ∀ key ∈ cursor, 0 ∉ key)
    : store.scanNamespaceAfter space cursor limits
      = Store.pageRecords limits 0 0
          (Paging.after NamespaceRecord.key cursor (store.namespaceRecords space)) := by
  have hlower : 0 ∉ cursor.getD [] := by
    cases cursor <;> simp_all
  unfold scanNamespaceAfter
  rw [storageKey_eq_ok.mpr ⟨hspace, List.not_mem_nil, rfl⟩, storageKey_eq_ok.mpr ⟨hspace, hlower, rfl⟩,
    namespaceUpper_eq hspace]
  simp only [Except.ok_bind]
  rw [visit_eq]
  intro key
  cases cursor <;> simp [← List.not_lt, append_lt_append_iff]

/-!
### Page by page
-/

end MemoryStore

def NamespaceRecord.bytes (record : NamespaceRecord) : Nat :=
  record.key.length + record.value.length

/-- No record is too large for a page of its own. -/
def ScanLimits.Allow (limits : ScanLimits) (records : List NamespaceRecord) : Prop :=
  0 < limits.maximumRecords ∧ ∀ record ∈ records,
    record.value.length ≤ limits.maximumValueBytes ∧ record.bytes ≤ limits.maximumTotalBytes

theorem pageRecords_of_allow {limits : ScanLimits} (count total : Nat) {records : List NamespaceRecord}
    (hallow : limits.Allow records) (hfirst : count = 0 → total = 0)
    (hbytes : total + (records.map (·.bytes)).sum < 2 ^ 64)
    : ∃ page left, Store.pageRecords limits count total records = .ok page ∧ records = page.records ++ left
      ∧ (page.hasMore = false ∧ left = [] ∨ page.hasMore = true ∧ (count = 0 → page.records ≠ [])) := by
  induction records generalizing count total with
  | nil => exact ⟨⟨[], false⟩, [], rfl, rfl, .inl ⟨rfl, rfl⟩⟩
  | cons record records ih =>
    obtain ⟨hrecords, hsizes⟩ := hallow
    obtain ⟨hvalue, htotal⟩ := hsizes record List.mem_cons_self
    rw [List.map_cons, List.sum_cons] at hbytes
    unfold NamespaceRecord.bytes at htotal hbytes
    unfold Store.pageRecords
    dsimp only
    split
    . omega
    . split
      . split
        next => omega
        next hcount => exact ⟨⟨[], true⟩, record :: records, rfl, rfl, .inr ⟨rfl, fun h => absurd h hcount⟩⟩
      . obtain ⟨page, left, hpage, hsplit, hmore⟩ :=
          ih (count + 1) (total + (record.key.length + record.value.length))
            ⟨hrecords, fun record hmem => hsizes record (List.mem_cons_of_mem _ hmem)⟩ (by omega)
            (by unfold NamespaceRecord.bytes; omega)
        refine ⟨{ page with records := record :: page.records }, left, by rw [hpage]; rfl, ?_, ?_⟩
        . rw [hsplit, List.cons_append]
        . rcases hmore with hmore | ⟨hmore, _⟩
          . exact .inl hmore
          . exact .inr ⟨hmore, fun _ => List.cons_ne_nil _ _⟩

namespace MemoryStore

variable {store : MemoryStore} {space : List UInt8} {limits : ScanLimits}

theorem sum_namespaceRecords_lt (store : MemoryStore) (space : List UInt8)
    : ((store.namespaceRecords space).map (·.bytes)).sum < 2 ^ 64 := by
  apply Nat.lt_of_le_of_lt _ store.addressable
  unfold namespaceRecords
  induction store.records with
  | nil => simp
  | cons entry records ih =>
    rw [List.filterMap_cons]
    split
    next =>
      rw [List.map_cons, List.sum_cons]
      omega
    next record hrecord =>
      rw [recordOf_eq_some.mp hrecord, List.map_cons, List.sum_cons, List.map_cons, List.sum_cons]
      simp only [NamespaceRecord.bytes, List.length_append, List.length_cons] at ih ⊢
      omega

/-- One call of a caller that goes on from the last key it got. -/
def nextPage (store : MemoryStore) (space : List UInt8) (limits : ScanLimits) (cursor : Option (List UInt8))
    : Except StorageError (List NamespaceRecord × Option (List UInt8)) :=
  (store.scanNamespaceAfter space cursor limits).map fun page =>
    (page.records, if page.hasMore then page.records.getLast?.map (·.key) else none)

theorem scanNamespaceAfter_of_allow (hspace : 0 ∉ space) (hcursor : ∀ key ∈ cursor, 0 ∉ key)
    (hallow : limits.Allow (store.namespaceRecords space))
    : ∃ page left, store.scanNamespaceAfter space cursor limits = .ok page
      ∧ Paging.after NamespaceRecord.key cursor (store.namespaceRecords space) = page.records ++ left
      ∧ (page.hasMore = false ∧ left = [] ∨ page.hasMore = true ∧ page.records ≠ []) := by
  have hsub : (Paging.after NamespaceRecord.key cursor (store.namespaceRecords space)).Sublist
    (store.namespaceRecords space) := List.filter_sublist
  obtain ⟨page, left, hpage, hsplit, hmore⟩ := pageRecords_of_allow 0 0
    ⟨hallow.1, fun record hmem => hallow.2 record (hsub.subset hmem)⟩ (fun _ => rfl) (by
      have := sum_namespaceRecords_lt store space
      have := (hsub.map (·.bytes)).sum_le_sum (fun _ _ => Nat.zero_le _)
      omega)
  exact ⟨page, left, (scanNamespaceAfter_eq hspace hcursor).trans hpage, hsplit, by simpa using hmore⟩

/-- The rows `rest` lie after a cursor that `storage_key` accepts. -/
def Rests (store : MemoryStore) (space : List UInt8) (cursor : Option (List UInt8))
    (rest : List NamespaceRecord) : Prop :=
  (∀ key ∈ cursor, 0 ∉ key) ∧ rest = Paging.after NamespaceRecord.key cursor (store.namespaceRecords space)

theorem nextPage_advances (hspace : 0 ∉ space) (hallow : limits.Allow (store.namespaceRecords space))
    (cursor : Option (List UInt8)) (rest : List NamespaceRecord) (h : store.Rests space cursor rest)
    : Paging.Advances (store.nextPage space limits) (store.Rests space) cursor rest := by
  obtain ⟨hcursor, rfl⟩ := h
  obtain ⟨page, left, hpage, hsplit, hmore⟩ := scanNamespaceAfter_of_allow hspace hcursor hallow
  refine ⟨page.records, left, _, by rw [nextPage, hpage]; rfl, hsplit, ?_⟩
  rcases hmore with ⟨hmore, hleft⟩ | ⟨hmore, hrecords⟩
  . exact .inl ⟨by simp [hmore], hleft⟩
  . obtain ⟨last, hlast⟩ := Option.isSome_iff_exists.mp (List.getLast?_isSome.mpr hrecords)
    have hmem : last ∈ Paging.after NamespaceRecord.key cursor (store.namespaceRecords space) := by
      rw [hsplit]
      exact List.mem_append_left _ (List.mem_of_getLast? hlast)
    have hzero := storageKey_eq_ok.mp (storageKey_of_mem hspace (List.mem_of_mem_filter hmem))
    refine .inr ⟨last.key, by simp [hmore, hlast], hrecords, by simpa using hzero.2.1, ?_⟩
    exact (Paging.after_last (sorted_namespaceRecords store space) hsplit hlast).symm

end MemoryStore

/-!
### Recovery of a journal
-/

structure RecoveredProtocolRecord where
  kind : ProtocolRecordKind
  durableKey : List UInt8
  value : List UInt8
deriving DecidableEq

structure ProtocolRecovery where
  records : List RecoveredProtocolRecord
  totalValueBytes : Nat
  totalScanBytes : Nat
deriving DecidableEq

structure ProtocolRecoveryPage where
  recovery : ProtocolRecovery
  nextCursor : Option (List UInt8)

def decodeProtocolRecords (kind : ProtocolRecordKind) (scanned : List NamespaceRecord)
    : Except DurableInvariantError ProtocolRecovery :=
  go none ⟨[], 0, 0⟩ scanned
where
  go (previousKey : Option (List UInt8)) (recovery : ProtocolRecovery)
      : List NamespaceRecord → Except DurableInvariantError ProtocolRecovery
    | [] => .ok recovery
    | record :: scanned =>
      let totalScanBytes := recovery.totalScanBytes + record.bytes
      let totalValueBytes := recovery.totalValueBytes + record.value.length
      if previousKey.any (record.key ≤ ·) then
        .error .invalidRecoveryPage
      else
        match hexDecode record.key with
        | none => .error .invalidRecoveryKey
        | some durableKey =>
          if hexEncode durableKey ≠ record.key then
            .error .invalidRecoveryKey
          else if 2 ^ 64 ≤ totalScanBytes ∨ 2 ^ 64 ≤ totalValueBytes then
            .error (.storage .scanLimit)
          else
            go (some record.key)
              ⟨recovery.records ++ [⟨kind, durableKey, record.value⟩], totalValueBytes, totalScanBytes⟩ scanned

def recoverKind (store : MemoryStore) (kind : ProtocolRecordKind) (limits : ScanLimits)
    : Except DurableInvariantError ProtocolRecovery := do
  let scanned ← (store.scanNamespace (asciiBytes kind.space) limits).mapError .storage
  decodeProtocolRecords kind scanned

def recoverKindPage (store : MemoryStore) (kind : ProtocolRecordKind) (exclusiveCursor : Option (List UInt8))
    (limits : ScanLimits)
    : Except DurableInvariantError ProtocolRecoveryPage := do
  let encodedCursor := exclusiveCursor.map hexEncode
  let page ← (store.scanNamespaceAfter (asciiBytes kind.space) encodedCursor limits).mapError .storage
  Except.rejectIf (page.hasMore ∧ page.records = []) .invalidRecoveryPage
  Except.rejectIf (∃ cursor ∈ encodedCursor, ∃ record ∈ page.records.head?, record.key ≤ cursor) .invalidRecoveryPage
  let recovery ← decodeProtocolRecords kind page.records
  if page.hasMore then
    match recovery.records.getLast? with
    | none => .error .invalidRecoveryPage
    | some last => .ok ⟨recovery, some last.durableKey⟩
  else
    .ok ⟨recovery, none⟩

variable {x y : UInt8}

theorem hexDigit_inj (hx : x.toNat < 16) (hy : y.toNat < 16) : hexDigit x = hexDigit y ↔ x.toNat = y.toNat := by
  rw [← UInt8.toNat_inj, toNat_hexDigit hx, toNat_hexDigit hy]
  split <;> split <;> omega

theorem hexDigit_lt_iff (hx : x.toNat < 16) (hy : y.toNat < 16) : hexDigit x < hexDigit y ↔ x.toNat < y.toNat := by
  rw [UInt8.lt_iff_toNat_lt, toNat_hexDigit hx, toNat_hexDigit hy]
  split <;> split <;> omega

theorem hexEncode_lt_iff : hexEncode a < hexEncode b ↔ a < b := by
  induction a generalizing b with
  | nil => cases b <;> simp [hexEncode]
  | cons x a ih =>
    cases b with
    | nil => simp [hexEncode]
    | cons y b =>
      have hx := toNat_halves x
      have hy := toNat_halves y
      simp only [hexEncode_cons, List.cons_lt_cons_iff, ih]
      rw [hexDigit_lt_iff (by omega) (by omega), hexDigit_lt_iff (by omega) (by omega),
        hexDigit_inj (by omega) (by omega), hexDigit_inj (by omega) (by omega), UInt8.lt_iff_toNat_lt,
        ← UInt8.toNat_inj]
      by_cases hlt : a < b <;> simp only [hlt, and_true, and_false, or_false] <;> omega

/-- The row that holds a record. -/
def RecoveredProtocolRecord.row (record : RecoveredProtocolRecord) : NamespaceRecord :=
  ⟨hexEncode record.durableKey, record.value⟩

variable {kind : ProtocolRecordKind} {previousKey : Option (List UInt8)} {recovery recovery' : ProtocolRecovery}

theorem decodeProtocolRecords.go_eq_ok {scanned : List NamespaceRecord}
    (h : go kind previousKey recovery scanned = .ok recovery')
    : ∃ records, recovery'.records = recovery.records ++ records ∧ scanned = records.map (·.row)
      ∧ ∀ record ∈ records, record.kind = kind := by
  induction scanned generalizing previousKey recovery with
  | nil =>
    injection h with h
    exact ⟨[], by simp [h], rfl, by simp⟩
  | cons record scanned ih =>
    unfold go at h
    dsimp only at h
    split at h
    . contradiction
    . split at h
      . contradiction
      next durableKey _ =>
        split at h
        . contradiction
        next hkey =>
          split at h
          . contradiction
          . obtain ⟨records, hrecords, hscanned, hkind⟩ := ih h
            refine ⟨⟨kind, durableKey, record.value⟩ :: records, by simp [hrecords], ?_, by simpa using hkind⟩
            simp [RecoveredProtocolRecord.row, hscanned, not_not.mp hkey]

theorem decodeProtocolRecords.go_row {records : List RecoveredProtocolRecord}
    (hkind : ∀ record ∈ records, record.kind = kind)
    (hsorted : (previousKey.toList ++ records.map (·.row.key)).Pairwise (· < ·))
    (hvalues : recovery.totalValueBytes ≤ recovery.totalScanBytes)
    (hbytes : recovery.totalScanBytes + (records.map (·.row.bytes)).sum < 2 ^ 64)
    : ∃ recovery', go kind previousKey recovery (records.map (·.row)) = .ok recovery'
      ∧ recovery'.records = recovery.records ++ records := by
  induction records generalizing previousKey recovery with
  | nil => exact ⟨recovery, rfl, by simp⟩
  | cons record records ih =>
    rw [List.map_cons, List.sum_cons] at hbytes
    have hsize : record.row.value.length ≤ record.row.bytes := Nat.le_add_left ..
    have hprevious : ¬ previousKey.any (record.row.key ≤ ·) = true := by
      cases previousKey <;> simp_all [← List.not_lt]
    have hsplit : recovery.records ++ record :: records
        = recovery.records ++ [⟨kind, record.durableKey, record.row.value⟩] ++ records := by
      simp [← hkind record List.mem_cons_self, RecoveredProtocolRecord.row]
    have hdecode : hexDecode record.row.key = some record.durableKey := hexDecode_hexEncode _
    unfold go
    rw [List.map_cons]
    dsimp only
    rw [if_neg hprevious, hdecode]
    dsimp only
    rw [if_neg (by simp [RecoveredProtocolRecord.row]), if_neg (by omega), hsplit]
    apply ih
    . exact fun record hmem => hkind record (List.mem_cons_of_mem _ hmem)
    . simpa using (List.pairwise_append.mp hsorted).2.1
    . dsimp only
      omega
    . dsimp only
      omega

namespace MemoryStore

variable {store : MemoryStore} {limits : ScanLimits}

theorem zero_notMem_space (kind : ProtocolRecordKind) : 0 ∉ asciiBytes kind.space := by
  have hall : ∀ kind ∈ ProtocolRecordKind.all, 0 ∉ asciiBytes kind.space := by decide
  exact hall kind (ProtocolRecordKind.mem_all kind)

theorem namespaceRecords_of_recoverKind (h : recoverKind store kind limits = .ok recovery)
    : store.namespaceRecords (asciiBytes kind.space) = recovery.records.map (·.row)
      ∧ ∀ record ∈ recovery.records, record.kind = kind := by
  unfold recoverKind at h
  rw [scanNamespace_eq (zero_notMem_space kind)] at h
  split at h
  . obtain ⟨records, hrecords, hscanned, hkind⟩ := decodeProtocolRecords.go_eq_ok h
    rw [List.nil_append] at hrecords
    rw [hrecords]
    exact ⟨hscanned, hkind⟩
  . contradiction

/-- One call of a caller that goes on from the cursor it got. -/
def nextRecoveryPage (store : MemoryStore) (kind : ProtocolRecordKind) (limits : ScanLimits)
    (cursor : Option (List UInt8))
    : Except DurableInvariantError (List RecoveredProtocolRecord × Option (List UInt8)) :=
  (recoverKindPage store kind cursor limits).map fun page => (page.recovery.records, page.nextCursor)

theorem sorted_of_recoverKind (h : recoverKind store kind limits = .ok recovery)
    : recovery.records.Pairwise (·.durableKey < ·.durableKey) := by
  have hsorted := sorted_namespaceRecords store (asciiBytes kind.space)
  rw [(namespaceRecords_of_recoverKind h).1, List.pairwise_map] at hsorted
  exact hsorted.imp hexEncode_lt_iff.mp

theorem nextRecoveryPage_advances {full : ScanLimits} (h : recoverKind store kind full = .ok recovery)
    (hallow : limits.Allow (store.namespaceRecords (asciiBytes kind.space))) (cursor : Option (List UInt8))
    (rest : List RecoveredProtocolRecord)
    (hrest : rest = Paging.after RecoveredProtocolRecord.durableKey cursor recovery.records)
    : Paging.Advances (store.nextRecoveryPage kind limits)
        (fun cursor rest => rest = Paging.after RecoveredProtocolRecord.durableKey cursor recovery.records)
        cursor rest := by
  obtain ⟨hrows, hkind⟩ := namespaceRecords_of_recoverKind h
  have hafter : Paging.after NamespaceRecord.key (cursor.map hexEncode) (store.namespaceRecords (asciiBytes kind.space))
      = rest.map (·.row) := by
    rw [hrows, hrest, Paging.after, List.filter_map]
    congr 2
    funext record
    cases cursor <;> simp [RecoveredProtocolRecord.row, hexEncode_lt_iff]
  have hcursor : ∀ key ∈ cursor.map hexEncode, 0 ∉ key := by
    simp [zero_notMem_hexEncode]
  obtain ⟨page, left, hpage, hsplit, hmore⟩ :=
    scanNamespaceAfter_of_allow (zero_notMem_space kind) hcursor hallow
  have hsub : page.records.Sublist (store.namespaceRecords (asciiBytes kind.space)) :=
    (List.sublist_append_left _ left).trans (hsplit ▸ List.filter_sublist)
  have hbehind : ¬ ∃ key ∈ cursor.map hexEncode, ∃ record ∈ page.records.head?, record.key ≤ key := by
    rintro ⟨key, hkey, record, hhead, hle⟩
    have hmem := List.mem_append_left left (List.mem_of_mem_head? hhead)
    rw [← hsplit, hkey] at hmem
    exact List.not_lt.mpr hle (by simpa [Paging.after] using (List.mem_filter.mp hmem).2)
  rw [hafter, List.map_eq_append_iff] at hsplit
  obtain ⟨taken, left, hparts, htaken, rfl⟩ := hsplit
  have hdecode : ∃ recovery', decodeProtocolRecords kind page.records = .ok recovery'
      ∧ recovery'.records = taken := by
    have hsorted := (sorted_namespaceRecords store (asciiBytes kind.space)).sublist hsub
    have hbytes := (hsub.map (·.bytes)).sum_le_sum (fun _ _ => Nat.zero_le _)
    have htotal := sum_namespaceRecords_lt store (asciiBytes kind.space)
    rw [← htaken] at hsorted hbytes ⊢
    apply decodeProtocolRecords.go_row _ _ le_rfl
    . simp [Function.comp_def] at hbytes ⊢
      omega
    . intro record hmem
      apply hkind
      apply List.mem_of_mem_filter (p := fun record => cursor.all (· < record.durableKey))
      change record ∈ Paging.after _ _ _
      rw [← hrest, hparts]
      exact List.mem_append_left _ hmem
    . simpa [List.pairwise_map] using hsorted
  obtain ⟨recovery', hdecode, rfl⟩ := hdecode
  have hempty : ¬ (page.hasMore = true ∧ page.records = []) := by
    rcases hmore with ⟨hmore, _⟩ | ⟨_, hrecords⟩ <;> simp_all
  unfold Paging.Advances nextRecoveryPage recoverKindPage
  dsimp only
  rw [hpage]
  simp only [Except.mapError, Except.ok_bind, Except.rejectIf_of_not hempty, Except.rejectIf_of_not hbehind, hdecode]
  rcases hmore with ⟨hmore, hleft⟩ | ⟨hmore, hne⟩
  . exact ⟨_, left, none, by rw [hmore]; rfl, hparts, .inl ⟨rfl, List.map_eq_nil_iff.mp hleft⟩⟩
  . have hne : recovery'.records ≠ [] := by
      rintro hnil
      exact hne (by rw [← htaken, hnil]; rfl)
    obtain ⟨last, hlast⟩ := Option.isSome_iff_exists.mp (List.getLast?_isSome.mpr hne)
    refine ⟨_, left, some last.durableKey, by rw [hmore, hlast]; rfl, hparts, .inr ⟨_, rfl, hne, ?_⟩⟩
    exact (Paging.after_last (sorted_of_recoverKind h) (hrest ▸ hparts) hlast).symm

/-!
### Every page
-/

theorem pages_complete (store : MemoryStore) (limits : ScanLimits)
    : (∀ space, 0 ∉ space → limits.Allow (store.namespaceRecords space)
        → ∃ pages, Paging.collect (store.nextPage space limits) ((store.namespaceRecords space).length + 1) none
              = .ok (some pages)
          ∧ (∀ full records, store.scanNamespace space full = .ok records → pages.flatten = records)
          ∧ pages.flatten.Pairwise (·.key < ·.key)
          ∧ ∀ record, (record ∈ pages.flatten ↔ ∃ stored, (stored, record.value) ∈ store.records
              ∧ storageKey space record.key = .ok stored)
            ∧ ∀ stored other key, storageKey space record.key = .ok stored → storageKey other key = .ok stored
              → other = space)
      ∧ ∀ kind full recovery, limits.Allow (store.namespaceRecords (asciiBytes kind.space))
        → recoverKind store kind full = .ok recovery
        → ∃ pages, Paging.collect (store.nextRecoveryPage kind limits) (recovery.records.length + 1) none
              = .ok (some pages)
          ∧ pages.flatten = recovery.records ∧ recovery.records.Pairwise (·.durableKey < ·.durableKey) := by
  refine ⟨?_, ?_⟩
  . intro space hspace hallow
    obtain ⟨pages, hpages, hflatten⟩ := Paging.collect_of_advances (nextPage_advances hspace hallow)
      ⟨by simp, (Paging.after_none _).symm⟩ (Nat.lt_add_one _)
    refine ⟨pages, hpages, ?_, hflatten ▸ sorted_namespaceRecords store space, ?_⟩
    . intro full records hscan
      rw [scanNamespace_eq hspace] at hscan
      split at hscan
      . injection hscan with hscan
        rw [hflatten, hscan]
      . contradiction
    . intro record
      refine ⟨?_, fun stored other key hstored hother => (storageKey_inj hother hstored).1⟩
      rw [hflatten]
      constructor
      . intro hmem
        exact ⟨_, mem_namespaceRecords.mp hmem, storageKey_of_mem hspace hmem⟩
      . rintro ⟨stored, hmem, hkey⟩
        rw [(storageKey_eq_ok.mp hkey).2.2] at hmem
        exact mem_namespaceRecords.mpr hmem
  . intro kind full recovery hallow hrecover
    obtain ⟨pages, hpages, hflatten⟩ := Paging.collect_of_advances (nextRecoveryPage_advances hrecover hallow)
      (Paging.after_none _).symm (Nat.lt_add_one _)
    exact ⟨pages, hpages, hflatten, sorted_of_recoverKind hrecover⟩

def sampleSpace : List UInt8 :=
  asciiBytes ProtocolRecordKind.payoutBucket.space

/-- Two journal rows behind a row of another namespace. -/
def sampleStore : MemoryStore where
  records := [([97, 0, 98], [1]), (sampleSpace ++ 0 :: hexEncode [1], [2]), (sampleSpace ++ 0 :: hexEncode [2], [3])]
  sorted := by decide
  keyed := by
    have hspace : 0 ∉ sampleSpace := zero_notMem_space _
    simp only [List.forall_mem_cons, List.not_mem_nil, false_implies, implies_true, and_true]
    exact ⟨⟨[97], [98], rfl⟩, ⟨_, _, storageKey_eq_ok.mpr ⟨hspace, zero_notMem_hexEncode _, rfl⟩⟩,
      ⟨_, _, storageKey_eq_ok.mpr ⟨hspace, zero_notMem_hexEncode _, rfl⟩⟩⟩
  addressable := by decide

def sampleLimits : ScanLimits :=
  ⟨1, 8, 64⟩

theorem pages_complete_sampleStore
    : ∃ pages recovered, Paging.collect (sampleStore.nextPage sampleSpace sampleLimits) 3 none = .ok (some pages)
      ∧ pages.flatten.Pairwise (·.key < ·.key)
      ∧ Paging.collect (sampleStore.nextRecoveryPage .payoutBucket sampleLimits) 3 none = .ok (some recovered)
      ∧ recovered.flatten = [⟨.payoutBucket, [1], [2]⟩, ⟨.payoutBucket, [2], [3]⟩] := by
  have hrecords : sampleStore.namespaceRecords sampleSpace = [⟨hexEncode [1], [2]⟩, ⟨hexEncode [2], [3]⟩] := by
    decide
  have hallow : sampleLimits.Allow (sampleStore.namespaceRecords sampleSpace) := by
    rw [hrecords]
    unfold ScanLimits.Allow
    decide
  have hrecover : recoverKind sampleStore .payoutBucket ⟨9, 9, 99⟩
      = .ok ⟨[⟨.payoutBucket, [1], [2]⟩, ⟨.payoutBucket, [2], [3]⟩], 2, 6⟩ := by
    decide
  obtain ⟨hscans, hrecovers⟩ := pages_complete sampleStore sampleLimits
  obtain ⟨pages, hpages, _, hsorted, _⟩ := hscans sampleSpace (zero_notMem_space _) hallow
  obtain ⟨recovered, hrecovered, hflatten, _⟩ := hrecovers .payoutBucket _ _ hallow hrecover
  rw [hrecords] at hpages
  exact ⟨pages, recovered, hpages, hsorted, hrecovered, hflatten⟩

end MemoryStore

end MeshMine.Storage
