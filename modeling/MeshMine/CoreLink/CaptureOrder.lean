import MeshMine.CoreLink.OperatorRuns
import MeshMine.Handoff.CaptureLedger

/-!
The order in which captures are numbered. Core's cursor wants the reception times of an assignment to grow
with the gateway's sequence; the queue hands captures over in another order once a removal has moved the
last one to the front.
-/

namespace MeshMine.CoreLink

open MeshMine.Types Codec Handoff Gateway Storage
open GatewayCaptureCursorV1 (advance_of_exactRetry advance_of_new applyDrain_eq_ok classify_eq_new)

section

variable [P : Primitives]

def Prepared (seen : List Store) (envelope : GatewayCaptureEnvelopeV1) : Prop :=
  ∃ s ∈ seen, ∃ workKey, s.find (spoolEnvelopeRow workKey) = some (toCanonicalBytes envelope)

structure Queued (s : Store) (capture : ForwardedCapture) : Prop where
  short : capture.jobId.length ≤ 64
  row : s.find (captureRow (captureWorkKey capture)) = some (encodeDurableCapture capture)

structure Unnumbered (s : Store) (capture : ForwardedCapture) : Prop extends Queued s capture where
  envelope : s.find (spoolEnvelopeRow (captureWorkKey capture)) = none
  receipt : s.find (spoolReceiptRow (captureWorkKey capture)) = none

/-- No capture of the same job that is still in the queue was received before this one. -/
def Foremost (s : Store) (capture : ForwardedCapture) : Prop :=
  ∀ other, Queued s other → other.jobId = capture.jobId → capture.receivedMs ≤ other.receivedMs

def ReceivedFirst (capture : ForwardedCapture) (rest : List ForwardedCapture) : Prop :=
  ∀ other ∈ rest, other.jobId = capture.jobId → capture.receivedMs ≤ other.receivedMs

theorem foremost_of_receivedFirst : Admits ReceivedFirst Foremost := by
  intro g s capture rest hmirrors hqueue hfirst other hother hjob
  obtain ⟨found, hfound, hrow⟩ := hmirrors.complete _ _ rfl hother.row
  have hstored := hmirrors.stored found hfound
  rw [← hrow, hother.row] at hstored
  injection hstored with hbytes
  have hsame := encodeDurableCapture_inj hother.short (hmirrors.shortCaptures found hfound) hbytes
  rw [hqueue] at hfound
  rcases List.mem_cons.mp hfound with hfront | hbehind
  . rw [hsame, hfront]
  . rw [hsame] at hjob ⊢
    exact hfirst found hbehind hjob

/-!
### What the events change
-/

variable {s s' : Store} {seen : List Store} {now : UInt64}

/-- An event that numbers no capture only takes away, apart from a capture that is received now. -/
structure Narrows (now : UInt64) (s s' : Store) : Prop where
  envelopes : ∀ workKey bytes, s'.find (spoolEnvelopeRow workKey) = some bytes
    → s.find (spoolEnvelopeRow workKey) = some bytes
  head : ∀ assignmentId, headSequence s' assignmentId = headSequence s assignmentId
  queued : ∀ capture, Queued s' capture → Queued s capture ∨ capture.receivedMs = now
  unnumbered : ∀ capture, Unnumbered s' capture → Unnumbered s capture ∨ capture.receivedMs = now

variable {workKey : Hash256} {rows : List Row} {assignmentId : Hash256}

omit P in
theorem Frame.headSequence (h : Frame rows s s') (hrow : captureSequenceRow assignmentId ∉ rows)
    : headSequence s' assignmentId = CoreLink.headSequence s assignmentId := by
  apply headSequence_congr
  apply h _ _ hrow
  simp

theorem Narrows.of_frame (hframe : Frame rows s s') (hsequence : ∀ a, captureSequenceRow a ∉ rows)
    (hcapture : ∀ workKey, captureRow workKey ∈ rows → s'.find (captureRow workKey) = none)
    (hspool : ∀ workKey, spoolEnvelopeRow workKey ∈ rows ∨ spoolReceiptRow workKey ∈ rows
      → s'.find (spoolEnvelopeRow workKey) = none ∧ (s'.find (spoolReceiptRow workKey)).isSome)
    : Narrows now s s' := by
  have hqueued : ∀ capture, Queued s' capture → Queued s capture := by
    intro capture h
    refine ⟨h.short, ?_⟩
    rw [← hframe (captureRow _) (by simp), h.row]
    intro hmem
    have hrow := h.row
    rw [hcapture _ hmem] at hrow
    contradiction
  constructor
  case head =>
    intro a
    exact hframe.headSequence (hsequence a)
  case envelopes =>
    intro workKey bytes hfind
    rwa [← hframe (spoolEnvelopeRow _) (by simp)]
    intro hmem
    rw [(hspool workKey (.inl hmem)).1] at hfind
    contradiction
  case queued => exact fun capture h => .inl (hqueued capture h)
  case unnumbered =>
    intro capture h
    have hrows : ¬ (spoolEnvelopeRow (captureWorkKey capture) ∈ rows
        ∨ spoolReceiptRow (captureWorkKey capture) ∈ rows) := by
      intro hmem
      have hsome := (hspool _ hmem).2
      rw [h.receipt] at hsome
      contradiction
    rw [not_or] at hrows
    refine .inl ⟨hqueued capture h.toQueued, ?_, ?_⟩
    . rw [← hframe (spoolEnvelopeRow _) (by simp) hrows.1, h.envelope]
    . rw [← hframe (spoolReceiptRow _) (by simp) hrows.2, h.receipt]

variable {capture : ForwardedCapture}

theorem Narrows.of_accepts (h : Accepts capture s s') : Narrows capture.receivedMs s s' := by
  have henvelope := fun workKey => h.frame (spoolEnvelopeRow workKey) (by simp) (by simp)
  have hreceipt := fun workKey => h.frame (spoolReceiptRow workKey) (by simp) (by simp)
  have hqueued : ∀ other, Queued s' other → Queued s other ∨ other.receivedMs = capture.receivedMs := by
    intro other hother
    by_cases hkey : captureWorkKey other = captureWorkKey capture
    . have hrow := hother.row
      rw [hkey, h.put, Option.some.injEq] at hrow
      rw [encodeDurableCapture_inj hother.short h.short hrow.symm]
      exact .inr rfl
    . refine .inl ⟨hother.short, ?_⟩
      rw [← h.frame (captureRow _) (by simp)]
      . exact hother.row
      . simp [hkey]
  refine ⟨?_, fun _ => h.frame.headSequence (by simp), hqueued, ?_⟩
  . intro workKey bytes hfind
    rwa [henvelope] at hfind
  . intro other hother
    refine (hqueued other hother.toQueued).imp_left fun hold => ⟨hold, ?_, ?_⟩
    . rw [← henvelope, hother.envelope]
    . rw [← hreceipt, hother.receipt]

/-!
### The order of the numbers
-/

structure InOrder (now : UInt64) (seen : List Store) (s : Store) : Prop where
  current : s ∈ seen
  numbered : ∀ envelope, Prepared seen envelope
    → envelope.gatewaySequence.toNat ≤ headSequence s envelope.assignmentId
  ordered : ∀ envelope envelope', Prepared seen envelope → Prepared seen envelope'
    → envelope.assignmentId = envelope'.assignmentId
    → envelope.gatewaySequence ≤ envelope'.gatewaySequence
    → envelope.gatewayReceivedMs ≤ envelope'.gatewayReceivedMs
  early : ∀ envelope, Prepared seen envelope → envelope.gatewayReceivedMs ≤ now
  queued : ∀ capture, Queued s capture → capture.receivedMs ≤ now
  -- What is numbered next comes after everything numbered so far.
  waiting : ∀ envelope capture, Prepared seen envelope → Unnumbered s capture
    → capture.jobId = hexEncode envelope.assignmentId.toList
    → envelope.gatewayReceivedMs ≤ capture.receivedMs

variable {envelope : GatewayCaptureEnvelopeV1}

omit P in
theorem prepared_append (h : Prepared (seen ++ [s']) envelope)
    : Prepared seen envelope
      ∨ ∃ workKey, s'.find (spoolEnvelopeRow workKey) = some (toCanonicalBytes envelope) := by
  obtain ⟨t, hmem, workKey, hfind⟩ := h
  rcases List.mem_append.mp hmem with hold | hnew
  . exact .inl ⟨t, hold, workKey, hfind⟩
  . rw [List.mem_singleton.mp hnew] at hfind
    exact .inr ⟨workKey, hfind⟩

omit P in
/-- Nothing is prepared in a step that leaves no new envelope row behind. -/
theorem prepared_of_append (hcurrent : s ∈ seen)
    (henvelopes : ∀ workKey bytes, s'.find (spoolEnvelopeRow workKey) = some bytes
      → s.find (spoolEnvelopeRow workKey) = some bytes) (h : Prepared (seen ++ [s']) envelope)
    : Prepared seen envelope := by
  rcases prepared_append h with hold | ⟨workKey, hfind⟩
  . exact hold
  . exact ⟨s, hcurrent, workKey, henvelopes workKey _ hfind⟩

theorem InOrder.narrows (h : InOrder now seen s) (hnarrows : Narrows now s s')
    : InOrder now (seen ++ [s']) s' := by
  have hprepared : ∀ {envelope}, Prepared (seen ++ [s']) envelope → Prepared seen envelope :=
    prepared_of_append h.current hnarrows.envelopes
  constructor
  case current => exact List.mem_append_right _ (List.mem_singleton_self s')
  case numbered =>
    intro envelope henvelope
    rw [hnarrows.head]
    exact h.numbered envelope (hprepared henvelope)
  case ordered =>
    intro envelope envelope' henvelope henvelope'
    exact h.ordered envelope envelope' (hprepared henvelope) (hprepared henvelope')
  case early =>
    intro envelope henvelope
    exact h.early envelope (hprepared henvelope)
  case queued =>
    intro capture hcapture
    cases hnarrows.queued capture hcapture with
    | inl hold => exact h.queued capture hold
    | inr hnew => rw [hnew]
  case waiting =>
    intro envelope capture henvelope hcapture hjob
    cases hnarrows.unnumbered capture hcapture with
    | inl hold => exact h.waiting envelope capture (hprepared henvelope) hold hjob
    | inr hnew =>
      rw [hnew]
      exact h.early envelope (hprepared henvelope)

theorem InOrder.prepare (h : InOrder now seen s) (hforemost : Foremost s capture)
    (hnumbers : Numbers capture envelope s s')
    : InOrder now (seen ++ [s']) s' := by
  obtain ⟨hqueued, hreceipt, habsent, hcarries, hnext, hframe, hput, hhead⟩ := hnumbers
  have hshort : capture.jobId.length ≤ 64 := by
    rw [hcarries.assignment, length_hexEncode, envelope.assignmentId.length_toList]
  have hcaptureRow := fun workKey => hframe (captureRow workKey) (by simp) (by simp)
  have hreceiptRow := fun workKey => hframe (spoolReceiptRow workKey) (by simp) (by simp)
  have henvelopeRow := fun workKey (hne : workKey ≠ captureWorkKey capture) =>
    hframe (spoolEnvelopeRow workKey) (by simp) (by simp [hne])
  have hprepared : ∀ {other}, Prepared (seen ++ [s']) other → Prepared seen other ∨ other = envelope := by
    intro other hother
    rcases prepared_append hother with hold | ⟨workKey, hfind⟩
    . exact .inl hold
    . by_cases hkey : workKey = captureWorkKey capture
      . rw [hkey, hput, Option.some.injEq, GatewayCaptureEnvelopeV1.toCanonicalBytes_inj] at hfind
        exact .inr hfind.symm
      . rw [henvelopeRow workKey hkey] at hfind
        exact .inl ⟨s, h.current, workKey, hfind⟩
  have hold : ∀ other, Prepared seen other → other.assignmentId = envelope.assignmentId
      → other.gatewaySequence < envelope.gatewaySequence
        ∧ other.gatewayReceivedMs ≤ envelope.gatewayReceivedMs := by
    intro other hother hassignment
    constructor
    . have hle := h.numbered other hother
      rw [hassignment] at hle
      rw [UInt64.lt_iff_toNat_lt]
      omega
    . rw [hcarries.receivedMs]
      apply h.waiting other capture hother ⟨⟨hshort, hqueued⟩, habsent, hreceipt⟩
      rw [hassignment]
      exact hcarries.assignment
  have hearly : envelope.gatewayReceivedMs ≤ now := by
    rw [hcarries.receivedMs]
    exact h.queued capture ⟨hshort, hqueued⟩
  have hqueuedBefore : ∀ other, Queued s' other → Queued s other := by
    intro other hother
    exact ⟨hother.short, by rw [← hcaptureRow, hother.row]⟩
  constructor
  case current => exact List.mem_append_right _ (List.mem_singleton_self s')
  case numbered =>
    intro other hother
    by_cases hassignment : other.assignmentId = envelope.assignmentId
    . rw [hassignment, hhead, ← UInt64.le_iff_toNat_le]
      cases hprepared hother with
      | inl hprior => exact UInt64.le_of_lt (hold other hprior hassignment).1
      | inr heq => rw [heq]
    . have hprior : Prepared seen other := by
        apply (hprepared hother).resolve_right
        intro heq
        exact hassignment (by rw [heq])
      rw [hframe.headSequence]
      . exact h.numbered other hprior
      . simp [hassignment]
  case ordered =>
    intro first second hfirst hsecond hassignment hle
    cases hprepared hfirst with
    | inl hfirst =>
      cases hprepared hsecond with
      | inl hsecond => exact h.ordered first second hfirst hsecond hassignment hle
      | inr heq =>
        rw [heq] at hassignment ⊢
        exact (hold first hfirst hassignment).2
    | inr heq =>
      cases hprepared hsecond with
      | inl hsecond =>
        rw [heq] at hassignment hle
        have hlt := (hold second hsecond hassignment.symm).1
        exact absurd hle (UInt64.not_le.mpr hlt)
      | inr heq' => rw [heq, heq']
  case early =>
    intro other hother
    cases hprepared hother with
    | inl hprior => exact h.early other hprior
    | inr heq => rw [heq]; exact hearly
  case queued =>
    intro other hother
    exact h.queued other (hqueuedBefore other hother)
  case waiting =>
    intro first other hfirst hother hjob
    cases hprepared hfirst with
    | inl hprior =>
      apply h.waiting first other hprior ⟨hqueuedBefore other hother.toQueued, ?_, ?_⟩ hjob
      . by_cases hkey : captureWorkKey other = captureWorkKey capture
        . rw [hkey, habsent]
        . rw [← henvelopeRow _ hkey, hother.envelope]
      . rw [← hreceiptRow, hother.receipt]
    | inr heq =>
      rw [heq] at hjob ⊢
      rw [hcarries.receivedMs]
      apply hforemost other (hqueuedBefore other hother.toQueued)
      rw [hjob, hcarries.assignment]

theorem InOrder.step {Ready : Store → Hash256 → Prop} (h : InOrder now seen s)
    (hstep : OperatorStep (Permits now Foremost Ready) s s')
    : InOrder now (seen ++ [s']) s' := by
  obtain ⟨event, hpermits, hhappens⟩ := hstep
  cases hhappens with
  | internal hframe => exact h.narrows (.of_frame hframe (by simp) (by simp) (by simp))
  | accept haccepts =>
    obtain rfl : _ = now := hpermits
    exact h.narrows (.of_accepts haccepts)
  | prepare hnumbers => exact h.prepare hpermits hnumbers
  | @record workKey hframe hput hdelete =>
    refine h.narrows (.of_frame hframe (by simp) (by simp) ?_)
    intro other hother
    obtain rfl : other = workKey := by simpa using hother
    exact ⟨hdelete, hput⟩
  | @acknowledge capture _ hframe hdelete =>
    refine h.narrows (.of_frame hframe (by simp) ?_ (by simp))
    intro other hother
    obtain rfl : other = captureWorkKey capture := by simpa using hother
    exact hdelete
  | drain _ hframe => exact h.narrows (.of_frame hframe (by simp) (by simp) (by simp))

/-!
### Core's cursor over the envelopes of a run
-/

/-- The cursors that Core can hold for an assignment after some of the prepared envelopes. -/
inductive CoreCursor (seen : List Store) (assignmentId : Hash256) : GatewayCaptureCursorV1 → Prop where
  | new : CoreCursor seen assignmentId (.new assignmentId)
  | advance {cursor cursor' : GatewayCaptureCursorV1} {envelope : GatewayCaptureEnvelopeV1}
      (h : CoreCursor seen assignmentId cursor) (hprepared : Prepared seen envelope)
      (hadvance : cursor.advance envelope = .ok cursor')
      : CoreCursor seen assignmentId cursor'
  | drain {cursor cursor' : GatewayCaptureCursorV1} {drain : GatewayAssignmentDrainV1}
      (h : CoreCursor seen assignmentId cursor) (hdrain : cursor.applyDrain drain = .ok cursor')
      : CoreCursor seen assignmentId cursor'

structure LastPrepared (seen : List Store) (cursor : GatewayCaptureCursorV1)
    (envelope : GatewayCaptureEnvelopeV1) : Prop where
  prepared : Prepared seen envelope
  assignment : envelope.assignmentId = cursor.assignmentId
  sequence : envelope.gatewaySequence.toNat + 1 = cursor.nextGatewaySequence.toNat
  receivedMs : envelope.gatewayReceivedMs = cursor.lastGatewayReceivedMs

variable {cursor : GatewayCaptureCursorV1}

theorem CoreCursor.last (h : CoreCursor seen assignmentId cursor) (hnext : 1 < cursor.nextGatewaySequence)
    : ∃ envelope, LastPrepared seen cursor envelope := by
  induction h with
  | new =>
    change (1 : UInt64) < 1 at hnext
    exact absurd hnext (by decide)
  | @advance cursor cursor' envelope _ hprepared hadvance ih =>
    have hadvance' := hadvance
    unfold GatewayCaptureCursorV1.advance at hadvance'
    obtain ⟨decision, hclassify, _⟩ := Except.bind_eq_ok hadvance'
    cases decision with
    | new =>
      have hclassified := classify_eq_new.mp hclassify
      obtain ⟨hassignment, hsequence, _, hms⟩ :=
        advance_of_new hclassify hadvance
      refine ⟨envelope, hprepared, ?_, ?_, hms.symm⟩
      . rw [hassignment, hclassified.assignment]
      . rw [hsequence, hclassified.sequence]
    | exactRetry =>
      rw [advance_of_exactRetry hclassify hadvance] at hnext ⊢
      exact ih hnext
  | @drain cursor cursor' drain _ hdrain ih =>
    rw [applyDrain_eq_ok hdrain] at hnext
    obtain ⟨envelope, hlast⟩ := ih hnext
    refine ⟨envelope, hlast.prepared, ?_, ?_, ?_⟩
    . rw [applyDrain_eq_ok hdrain, hlast.assignment]
    . rw [applyDrain_eq_ok hdrain, hlast.sequence]
    . rw [applyDrain_eq_ok hdrain, hlast.receivedMs]

def Unused (s : Store) : Prop :=
  ∀ row : Row, row.space ∈ captureSpaces → s.find row = none

/-- Submissions come in order of time, and no hand-over takes a capture before an older one of its job. -/
def HandsOverInOrder (o : Operator) (call : OperatorCall) : Prop :=
  o.clock ≤ call.clock o.clock ∧ call.Meets ReceivedFirst (fun _ _ => True) o.gateway o.store

theorem inOrder_start (h : Unused s) : InOrder 0 [s] s := by
  have hprepared : ∀ envelope, ¬ Prepared [s] envelope := by
    rintro envelope ⟨t, hmem, workKey, hfind⟩
    rw [List.mem_singleton.mp hmem, h] at hfind
    . contradiction
    . simp
  have hqueued : ∀ capture, ¬ Queued s capture := by
    intro capture hcapture
    have hrow := hcapture.row
    rw [h] at hrow
    . contradiction
    . simp
  constructor
  case current => exact List.mem_singleton_self s
  case numbered => exact fun envelope henvelope => absurd henvelope (hprepared envelope)
  case ordered => exact fun envelope _ henvelope => absurd henvelope (hprepared envelope)
  case early => exact fun envelope henvelope => absurd henvelope (hprepared envelope)
  case queued => exact fun capture hcapture => absurd hcapture (hqueued capture)
  case waiting => exact fun envelope _ henvelope => absurd henvelope (hprepared envelope)

theorem InOrder.later {now' : UInt64} (h : InOrder now seen s) (hnow : now ≤ now')
    : InOrder now' seen s :=
  { h with
    early := fun envelope henvelope => UInt64.le_trans (h.early envelope henvelope) hnow
    queued := fun capture hcapture => UInt64.le_trans (h.queued capture hcapture) hnow }

theorem Operator.Runs.inOrder {client : OperatorCoreLinkClient} {o : Operator} (hstore : Unused s)
    (hruns : Operator.Runs client HandsOverInOrder (Operator.start s) o)
    : InOrder o.clock o.history o.store := by
  have hkeeps : o.Keeps InOrder (fun _ _ => True) := by
    apply hruns.keeps foremost_of_receivedFirst
    . intro now seen s s' h hstep
      exact h.step hstep
    . intro _ _ _ _ _ _ _ _ _
      trivial
    . intro o call hcall
      exact hcall.2
    . intro o call seen s hcall h
      exact h.later hcall.1
    . refine ⟨?_, inOrder_start hstore, ?_⟩
      . intro g hg
        contradiction
      . intro sending hmem
        contradiction
  exact hkeeps.stores

end

end MeshMine.CoreLink
