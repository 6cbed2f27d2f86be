import MeshMine.Concurrency.Phases
import MeshMine.Mpc.Distributed
import MeshMine.Storage.StoreShared

/-!
The retirement of a mask session (`retire_after_audit` of `meshmine-mpc-api/src/lib.rs`) among setups and imports for
the same session.
-/

namespace MeshMine.Mpc

open MeshMine.Types Codec Storage
open Except (rejectIf)
open StoreM (Obeys Yields)
open StoreM.Obeys (bind_check bind_ofExcept bind_get)

def publicTranscriptRow (binding : Hash256) : Row :=
  ⟨"mask-public-transcript-v2", hexEncode binding.toList⟩

def eraseOpening (binding : Hash256) (member : PublicKey) : StoreM MpcError Unit :=
  StoreM.delete (materialRow binding member)

def eraseOpenings (binding : Hash256) : List PublicKey → StoreM MpcError Unit
  | [] => return ()
  | member :: members => do
    eraseOpening binding member
    eraseOpenings binding members

section

variable [P : Primitives]

def encodePublicTranscript (setup : VssSetup) (opened : OpenedMask) : List UInt8 :=
  Encoder.fixed opened.mask ++ Encoder.fixed setup.maskHash ++ Encoder.fixed setup.transcriptRoot
    ++ Encoder.fixed opened.openingTranscriptRoot

def retireAfterAudit (setup : VssSetup) (opened : OpenedMask) : StoreM MpcError Unit := do
  StoreM.ofExcept (rejectIf (P.blake2b256 (setup.parentHash.toList ++ opened.mask.toList) ≠ setup.maskHash)
    .maskHashMismatch)
  StoreM.ofExcept (rejectIf
    (¬ maskConstraintsValid opened.mask setup.leadingZeroPrefixQ.toNat setup.blindBandBitsD.toNat)
    .maskConstraintViolation)
  persist .openingMaterialConflict (publicTranscriptRow setup.sessionBinding) (encodePublicTranscript setup opened)
  let _ ← StoreM.putIfAbsent (retiredRow setup.sessionBinding.toList) setup.sessionBinding.toList
  eraseOpenings setup.sessionBinding setup.members

/-!
### Calls on one store
-/

/-- The calls for the logical session of `request`, and the calls that remove opening material. -/
inductive MaskCall (request : SetupRequest) where
  | setup (rounds : Nat) (own : SetupRequest) (members : List SigningKey)
      (h : reservationRow own = reservationRow request)
  | importOutput (own : SetupRequest) (members : List PublicKey) (key : SigningKey) (partyIndex : UInt8)
      (output : MpSpdzLocalOutput) (artifact : ApprovedMpSpdzArtifact) (h : reservationRow own = reservationRow request)
  | retire (vss : VssSetup) (opened : OpenedMask)
  | erase (binding : Hash256) (member : PublicKey)

def MaskCall.Removes {request : SetupRequest} : MaskCall request → Prop
  | .setup .. => False
  | .importOutput .. => False
  | .retire .. => True
  | .erase .. => True

def succeeds {E α : Type} (x : StoreM E α) : Program storeMachine Bool :=
  x.run >>= fun result => .pure result.toBool

def MaskCall.program (source : RandomSource) {request : SetupRequest} : MaskCall request → Program storeMachine Bool
  | .setup rounds own members _ => succeeds (Mpc.setup source rounds own members)
  | .importOutput own members key partyIndex output artifact _ =>
    succeeds (importLocalSetupOutput own members key partyIndex output artifact)
  | .retire vss opened => succeeds (retireAfterAudit vss opened)
  | .erase binding member => succeeds (eraseOpening binding member)

end

/-!
### What a call for a retired session can still do
-/

/-- Nothing takes the reservation or the tombstone away, and nothing adds opening material. -/
def sheds (request : SetupRequest) (binding : Hash256) : Rely Store where
  rel s s' := s'.find (reservationRow request) = s.find (reservationRow request)
    ∧ ((s.find (retiredRow binding.toList)).isSome → (s'.find (retiredRow binding.toList)).isSome)
    ∧ ∀ member, s.find (materialRow binding member) = none → s'.find (materialRow binding member) = none
  refl _ := ⟨rfl, id, fun _ => id⟩
  trans h h' := ⟨h'.1.trans h.1, fun hs => h'.2.1 (h.2.1 hs), fun member hs => h'.2.2 member (h.2.2 member hs)⟩

structure Retired (request : SetupRequest) (binding : Hash256) (s : Store) : Prop where
  reserved : s.find (reservationRow request) = some binding.toList
  tombstone : (s.find (retiredRow binding.toList)).isSome
  erased : ∀ member, s.find (materialRow binding member) = none

theorem Retired.sheds {request : SetupRequest} {binding : Hash256} {s s' : Store} (h : Retired request binding s)
    (hs : (sheds request binding).rel s s')
    : Retired request binding s' :=
  ⟨hs.1.trans h.reserved, hs.2.1 h.tombstone, fun member => hs.2.2 member (h.erased member)⟩

section

variable {request : SetupRequest} {binding : Hash256} {s : Store}

theorem sheds_delete (member : PublicKey) (other : Hash256)
    : (sheds request binding).rel s (s.apply (.delete (materialRow other member))) := by
  refine ⟨?_, ?_, ?_⟩
  . apply Store.find_apply_of_ne
    simp [reservationRow, materialRow]
  . intro h
    rwa [Store.find_apply_of_ne]
    simp [retiredRow, materialRow]
  . intro other' h
    rw [Store.find_apply]
    split <;> simp [h]

theorem sheds_put {row : Row} {value : List UInt8} (hreservation : row ≠ reservationRow request)
    (hmaterial : ∀ member, row ≠ materialRow binding member)
    : (sheds request binding).rel s (s.apply (.put row value)) := by
  refine ⟨?_, ?_, ?_⟩
  . exact Store.find_apply_of_ne s hreservation.symm
  . intro h
    rw [Store.find_apply]
    split <;> simp [h]
  . intro member h
    exact (Store.find_apply_of_ne s (hmaterial member).symm).trans h

def anything : Rely Store where
  rel _ _ := True
  refl _ := trivial
  trans _ _ := trivial

section

variable {E : Type} [FromStorageError E] {R : Rely Store} {G : Store → Store → Prop} {row : Row} {value : List UInt8}

theorem obeys_putIfAbsent {Q : Bool → Store → Prop} (hread : ∀ s, G s s)
    (hput : ∀ s, s.find row = none → G s (s.apply (.put row value)))
    (hQ : ∀ absent s s', R.rel s s' → (s.find row).isSome → Q absent s')
    : Obeys R G (StoreM.putIfAbsent row value : StoreM E _) s Q := by
  apply Obeys.applyBatchIfAll hread
  . intro s' _ hconditions
    refine ⟨hput s' (hconditions ⟨row, none⟩ (by simp)), fun s'' hs => hQ _ _ _ hs ?_⟩
    change ((s'.apply (.put row value)).find row).isSome
    rw [Store.find_apply_put]
    rfl
  . rintro s' s'' _ hs ⟨c, hmem, hne⟩
    rw [List.mem_singleton] at hmem
    rw [hmem] at hne
    exact hQ _ _ _ hs (Option.isSome_iff_ne_none.mpr hne)

theorem obeys_persist {conflict : E} (hread : ∀ s, G s s)
    (hput : ∀ s, s.find row = none → G s (s.apply (.put row value)))
    : Obeys R G (persist conflict row value) s fun _ _ => True := by
  apply Obeys.bind
  apply obeys_putIfAbsent hread hput
  intro absent s' s'' _ _
  cases absent with
  | true => exact Obeys.pure fun _ _ => trivial
  | false =>
    apply bind_get hread
    intro s₃ _
    exact Obeys.ofExcept fun _ _ _ _ => trivial

theorem obeys_delete {Q : Unit → Store → Prop} (hread : ∀ s, G s s) (hdelete : ∀ s : Store, G s (s.apply (.delete row)))
    (hQ : ∀ s s' : Store, R.rel (s.apply (.delete row)) s' → Q () s')
    : Obeys R G (StoreM.delete row : StoreM E _) s Q := by
  apply Obeys.bind
  apply Obeys.applyBatchIfAll hread
  . intro s' _ _
    refine ⟨hdelete s', ?_⟩
    intro s'' hs
    exact Obeys.pure fun s₃ hs' => hQ s' s₃ (R.trans hs hs')
  . rintro s' s'' _ _ ⟨c, hmem, _⟩
    contradiction

end

def Sheltered (R : Rely Store) (request : SetupRequest) (binding : Hash256) : Prop :=
  ∀ s s', R.rel s s' → (sheds request binding).rel s s'

variable {α : Type}

theorem obeys_and_stays {E : Type} {R : Rely Store} {x : StoreM E α} {Q : α → Store → Prop} {K : Store → Prop}
    {C : Prop} (h : Obeys R (sheds request binding).rel x s Q) (hR : C → Sheltered R request binding)
    (hK : ∀ a b, (sheds request binding).rel a b → K a → K b) (hs : C → K s)
    : Obeys R (sheds request binding).rel x s fun a s' => Q a s' ∧ (C → K s') := by
  by_cases hC : C
  . apply (h.keep (fun a b hab => hK a b (hR hC a b hab)) (fun a b ha hab => ⟨hK a b hab ha, hab⟩) (hs hC)).mono
    intro a s' h
    exact ⟨h.1, fun _ => h.2⟩
  . apply h.mono
    intro a s' h
    exact ⟨h, fun hC' => absurd hC' hC⟩

theorem eraseOpenings_obeys (R : Rely Store) (other : Hash256) (members : List PublicKey)
    : Obeys R (sheds request binding).rel (eraseOpenings other members) s fun _ s' =>
        Sheltered R request binding ∧ other = binding
          → ∀ member ∈ members, s'.find (materialRow binding member) = none := by
  induction members generalizing s with
  | nil => exact Obeys.pure fun _ _ _ => by simp
  | cons member members ih =>
    apply Obeys.bind
    apply obeys_delete (sheds request binding).refl fun s => sheds_delete member other
    intro s' s'' hs
    have hfirst : Sheltered R request binding ∧ other = binding → s''.find (materialRow binding member) = none := by
      rintro ⟨hR, rfl⟩
      exact (hR _ _ hs).2.2 member (Store.find_apply_delete ..)
    apply (obeys_and_stays ih And.left (fun _ _ hab => hab.2.2 member) hfirst).mono
    rintro _ s₃ ⟨hrest, hfirst⟩ hC
    rw [List.forall_mem_cons]
    exact ⟨hfirst hC, hrest hC⟩

variable {own : SetupRequest}

theorem refuseRetired_obeys (hown : reservationRow own = reservationRow request) (hs : Retired request binding s)
    : Obeys (sheds request binding) (sheds request binding).rel (refuseRetired own) s fun _ _ => False := by
  apply bind_get (sheds request binding).refl
  intro s' hs'
  have hretired := hs.sheds hs'
  rw [hown, hretired.reserved]
  apply bind_get (sheds request binding).refl
  intro s'' hs''
  apply Obeys.ofExcept
  intro _ _ hok
  rw [Except.rejectIf_eq_ok] at hok
  exact absurd (hretired.sheds hs'').tombstone hok

theorem reserveSession_obeys (hown : reservationRow own = reservationRow request) (other : Hash256)
    (hs : Retired request binding s)
    : Obeys (sheds request binding) (sheds request binding).rel (reserveSession own other) s
        fun _ _ => False := by
  apply bind_get (sheds request binding).refl
  intro s' hs'
  have hretired := hs.sheds hs'
  rw [hown, hretired.reserved]
  apply bind_get (sheds request binding).refl
  intro s'' hs''
  apply bind_ofExcept
  intro _ hok
  rw [Except.rejectIf_eq_ok] at hok
  exact absurd (hretired.sheds hs'').tombstone hok

theorem succeeds_obeys {E : Type} {R : Rely Store} {G : Store → Store → Prop} {x : StoreM E α} {Q : Store → Prop}
    (h : Obeys R G x s fun _ => Q)
    : Program.Obeys R G (fun ok s' => ok = true → Q s') (succeeds x) s := by
  apply Program.Obeys.bind
  apply Program.Obeys.mono (Program.Obeys.stable h)
  intro result s' hresult s'' hs hok
  cases result with
  | ok a => exact hresult s'' hs a rfl
  | error e => contradiction

variable [P : Primitives]

theorem retireAfterAudit_obeys (R : Rely Store) (vss : VssSetup) (opened : OpenedMask)
    : Obeys R (sheds request binding).rel (retireAfterAudit vss opened) s fun _ s' =>
        Sheltered R request binding ∧ vss.sessionBinding = binding
          → (∀ member ∈ vss.members, s'.find (materialRow binding member) = none)
            ∧ (s'.find (retiredRow binding.toList)).isSome := by
  apply bind_check
  apply bind_check
  apply Obeys.bind
  have hpersist : ∀ s : Store, s.find (publicTranscriptRow vss.sessionBinding) = none → (sheds request binding).rel s
      (s.apply (.put (publicTranscriptRow vss.sessionBinding) (encodePublicTranscript vss opened))) := by
    intro s _
    apply sheds_put <;> simp [publicTranscriptRow, reservationRow, materialRow]
  apply (obeys_persist (sheds request binding).refl hpersist).mono
  intro _ s₁ _
  apply Obeys.bind
  apply obeys_putIfAbsent (sheds request binding).refl
  . intro s' _
    apply sheds_put <;> simp [retiredRow, reservationRow, materialRow]
  intro _ s' s'' hs hput
  have htombstone : Sheltered R request binding ∧ vss.sessionBinding = binding
      → (s''.find (retiredRow binding.toList)).isSome := by
    rintro ⟨hR, rfl⟩
    exact (hR _ _ hs).2.1 hput
  apply (obeys_and_stays (eraseOpenings_obeys R vss.sessionBinding vss.members) And.left (fun _ _ hab => hab.2.1)
    htombstone).mono
  rintro _ s₃ ⟨herased, htombstone⟩ hC
  exact ⟨herased hC, htombstone hC⟩

theorem setup_obeys {source : RandomSource} {rounds : Nat} {members : List SigningKey}
    (hown : reservationRow own = reservationRow request) (hs : Retired request binding s)
    : Obeys (sheds request binding) (sheds request binding).rel (setup source rounds own members) s
        fun _ _ => False := by
  apply bind_check
  apply Obeys.bind
  exact (refuseRetired_obeys hown hs).mono fun _ _ => False.elim

theorem importLocalSetupOutput_obeys {members : List PublicKey} {key : SigningKey} {partyIndex : UInt8}
    {output : MpSpdzLocalOutput} {artifact : ApprovedMpSpdzArtifact}
    (hown : reservationRow own = reservationRow request) (hs : Retired request binding s)
    : Obeys (sheds request binding) (sheds request binding).rel
        (importLocalSetupOutput own members key partyIndex output artifact) s fun _ _ => False := by
  apply bind_ofExcept
  intro ordered _
  apply bind_check
  apply bind_check
  apply bind_check
  apply Obeys.bind
  exact (reserveSession_obeys hown _ hs).mono fun _ _ => False.elim

/-!
### Runs
-/

def MaskCall.Leaves (binding : Hash256) : MaskCall request → Store → Prop
  | .retire vss _, s => vss.sessionBinding = binding
    → (∀ member ∈ vss.members, s.find (materialRow binding member) = none)
      ∧ (s.find (retiredRow binding.toList)).isSome
  | _, _ => True

theorem MaskCall.obeys_of_removes (R : Rely Store) (source : RandomSource) {c : MaskCall request} (hc : c.Removes)
    : Program.Obeys R (sheds request binding).rel
        (fun ok s' => ok = true → Sheltered R request binding → c.Leaves binding s') (c.program source) s := by
  cases c with
  | setup => contradiction
  | importOutput => contradiction
  | retire vss opened =>
    apply (succeeds_obeys (retireAfterAudit_obeys R vss opened)).mono
    intro ok s' h hok hR hbinding
    exact h hok ⟨hR, hbinding⟩
  | erase other member =>
    have herase : Obeys R (sheds request binding).rel (eraseOpening other member) s fun _ _ => True :=
      obeys_delete (sheds request binding).refl (fun s => sheds_delete member other) fun _ _ _ => trivial
    apply (succeeds_obeys herase).mono
    intro ok s' _ _ _
    trivial

theorem MaskCall.obeys_of_retired (source : RandomSource) (c : MaskCall request) (hs : Retired request binding s)
    : Program.Obeys (sheds request binding) (sheds request binding).rel (fun _ _ => True) (c.program source) s := by
  by_cases hc : c.Removes
  . exact (obeys_of_removes _ source hc).mono fun _ _ _ => trivial
  . cases c with
    | setup rounds own members hown => exact (succeeds_obeys (setup_obeys hown hs)).mono fun _ _ _ => trivial
    | importOutput own members key partyIndex output artifact hown =>
      exact (succeeds_obeys (importLocalSetupOutput_obeys hown hs)).mono fun _ _ _ => trivial
    | retire => exact absurd trivial hc
    | erase => exact absurd trivial hc

def MaskCall.Keeps (binding : Hash256) (c : MaskCall request) (s s' : Store) : Prop :=
  c.Removes → (sheds request binding).rel s s'

theorem maskContract (binding : Hash256) (source : RandomSource)
    : Pool.Contract (fun _ => anything) (MaskCall.Keeps binding) (MaskCall.program source)
        fun _ _ : MaskCall request => True where
  symm _ _ _ := trivial
  respected _ _ _ _ _ _ := trivial
  obeyed c s := by
    by_cases hc : c.Removes
    . apply (MaskCall.obeys_of_removes anything source hc).imp
      . exact fun _ _ h => h
      . exact fun _ _ h _ => h
      . exact fun _ _ _ => trivial
    . exact Program.obeys_of_forall (fun _ _ h => absurd h hc) fun _ _ => trivial

variable {ι : Type} [DecidableEq ι] {source : RandomSource} {pool : Pool ι (MaskCall request) storeMachine Bool}

theorem obeying_of_reaches {s₀ : Store} (h : Pool.Reaches (MaskCall.program source) (.idle s₀) pool)
    (honly : pool.Only MaskCall.Removes)
    : pool.Obeying (sheds request binding) fun _ _ _ _ => True := by
  have hseparate := (maskContract binding source).separate (Pool.separate_idle s₀)
    (Pool.guardedReaches_of_reaches _ _ (fun _ _ => trivial) h)
  intro i thread hthread
  apply (hseparate.obeys i thread hthread).imp
  . exact fun _ _ _ => trivial
  . exact fun _ _ h => h (honly i thread hthread)
  . exact fun _ _ _ => trivial

variable {start : Pool ι (MaskCall request) storeMachine Bool}

theorem onlyReaches_leaves {i : ι} (hobeying : start.Obeying (sheds request binding) fun _ _ _ _ => True)
    (hidle : start.threads i = none) (h : Pool.OnlyReaches (MaskCall.program source) MaskCall.Removes start pool)
    : pool.Obeying (sheds request binding) (fun j c ok s => j = i → ok = true → c.Leaves binding s)
      ∧ (sheds request binding).rel start.state pool.state := by
  induction h with
  | refl =>
    refine ⟨?_, (sheds request binding).refl _⟩
    intro j thread hthread
    apply (hobeying j thread hthread).mono
    rintro _ _ _ rfl
    rw [hidle] at hthread
    contradiction
  | @tail mid pool _ hstep ih =>
    obtain ⟨hmid, hshed⟩ := ih
    obtain ⟨hpool, hstep'⟩ := hmid.step hstep.1 (by
      intro j c hthread
      apply (MaskCall.obeys_of_removes (sheds request binding) source (hstep.2 j _ hthread)).mono
      intro ok s hleaves _ hok
      exact hleaves hok fun _ _ => id)
    exact ⟨hpool, (sheds request binding).trans hshed hstep'⟩

theorem reaches_retired (hobeying : start.Obeying (sheds request binding) fun _ _ _ _ => True)
    (hretired : Retired request binding start.state) (h : Pool.Reaches (MaskCall.program source) start pool)
    : pool.Obeying (sheds request binding) (fun _ _ _ _ => True) ∧ Retired request binding pool.state := by
  induction h with
  | refl => exact ⟨hobeying, hretired⟩
  | tail _ hstep ih =>
    obtain ⟨hmid, hretired⟩ := ih
    obtain ⟨hpool, hshed⟩ := hmid.step hstep fun j c _ => c.obeys_of_retired source hretired
    exact ⟨hpool, hretired.sheds hshed⟩

/-- A retirement that starts on a store where the session is reserved for its binding and all of its material belongs to
the listed members, and that no setup or import of the session runs beside, takes the material away for good: whatever
calls for the session follow, in any interleaving and with crashes. -/
theorem erased_of_retire {s₀ : Store} {start retired later : Pool ι (MaskCall request) storeMachine Bool} {i : ι}
    {vss : VssSetup} {opened : OpenedMask} {log : List (Store × Store)}
    (hstart : Pool.Reaches (MaskCall.program source) (.idle s₀) start) (honly : start.Only MaskCall.Removes)
    (hidle : start.threads i = none)
    (hreserved : start.state.find (reservationRow request) = some vss.sessionBinding.toList)
    (hmembers : ∀ member, start.state.find (materialRow vss.sessionBinding member) ≠ none → member ∈ vss.members)
    (hrun : Pool.OnlyReaches (MaskCall.program source) MaskCall.Removes start retired)
    (hreturned : retired.threads i = some ⟨.retire vss opened, .pure true, log⟩)
    (hlater : Pool.Reaches (MaskCall.program source) retired later) (member : PublicKey)
    : later.state.find (materialRow vss.sessionBinding member) = none := by
  have hstarted : start.Obeying (sheds request vss.sessionBinding) fun _ _ _ _ => True :=
    obeying_of_reaches hstart honly
  obtain ⟨hobeying, hshed⟩ := onlyReaches_leaves hstarted hidle hrun
  obtain ⟨herased, htombstone⟩ := hobeying i _ hreturned retired.state ((sheds ..).refl _) rfl rfl rfl
  have hretired : Retired request vss.sessionBinding retired.state := by
    refine ⟨hshed.1.trans hreserved, htombstone, ?_⟩
    intro other
    by_cases hother : other ∈ vss.members
    . exact herased other hother
    . apply hshed.2.2 other
      by_contra hne
      exact hother (hmembers other hne)
  exact (reaches_retired (hobeying.mono fun _ _ _ _ _ => trivial) hretired hlater).2.erased member

end

def sampleOpened : OpenedMask :=
  ⟨sampleMask, ByteVec.fill 32 8, []⟩

def sampleSetupCall : MaskCall sampleRequest :=
  .setup 1 sampleRequest sampleKeys rfl

def sampleRetireCall : MaskCall sampleRequest :=
  .retire sampleDealt.1 sampleOpened

def sampleProgram : MaskCall sampleRequest → Program storeMachine Bool :=
  @MaskCall.program Primitives.fold sampleSource sampleRequest

@[irreducible]
def sampleLive : Store :=
  Pool.after sampleProgram [sampleSetupCall] ∅

theorem reaches_sampleLive
    : Pool.Reaches sampleProgram (.idle ∅ : Pool Bool (MaskCall sampleRequest) storeMachine Bool)
        (.idle sampleLive) := by
  unfold sampleLive
  exact Pool.reaches_after sampleProgram false [sampleSetupCall] ∅

/-- The setup is run once more and stops after it has looked for a tombstone; the session is retired, and then the
second setup writes the material again. -/
theorem retire_overtaken
    : ∃ (retired later : Pool Bool (MaskCall sampleRequest) storeMachine Bool)
        (log : List (Store × Store)), Pool.Reaches sampleProgram (.idle ∅) retired
      ∧ retired.threads true = some ⟨sampleRetireCall, .pure true, log⟩
      ∧ Pool.Reaches sampleProgram retired later
      ∧ (later.state.find (materialRow sampleDealt.1.sessionBinding (ByteVec.fill 32 1))).isSome := by
  obtain ⟨retired, later, log, hretired, hreturned, hlater, hstate⟩ :=
    @Pool.reaches_overtaken _ _ _ _ _ _ _ sampleProgram 2 sampleSetupCall sampleRetireCall sampleLive false true
      (by decide)
  have hok : ((sampleProgram sampleRetireCall).run ((sampleProgram sampleSetupCall).advance 2 sampleLive).2).1
      = true := by
    decide +kernel
  have hback : (((sampleProgram sampleSetupCall).advance 2 sampleLive).1.run ((sampleProgram sampleRetireCall).run
      ((sampleProgram sampleSetupCall).advance 2 sampleLive).2).2).2.find
        (materialRow sampleDealt.1.sessionBinding (ByteVec.fill 32 1)) |>.isSome := by decide +kernel
  rw [hok] at hreturned
  refine ⟨retired, later, log, reaches_sampleLive.trans hretired, hreturned, hlater, ?_⟩
  rw [hstate]
  exact hback

theorem sampleLive_members (member : PublicKey)
    (h : sampleLive.find (materialRow sampleDealt.1.sessionBinding member) ≠ none)
    : member ∈ sampleDealt.1.members := by
  have hrows : ∀ row ∈ sampleLive.keys, row.space = "mask-opening-v2"
      → ∃ member ∈ sampleDealt.1.members, row = materialRow sampleDealt.1.sessionBinding member := by decide +kernel
  have hmem : materialRow sampleDealt.1.sessionBinding member ∈ sampleLive.keys := by
    apply AList.mem_keys.mp
    exact AList.lookup_isSome.mp (Option.isSome_iff_ne_none.mpr h)
  obtain ⟨other, hother, hrow⟩ := hrows _ hmem rfl
  rwa [(materialKey_inj.mp (congrArg Row.key hrow)).2]

theorem erased_of_retire_sample
    : ∃ (retired later : Pool Bool (MaskCall sampleRequest) storeMachine Bool)
        (log : List (Store × Store)), Pool.Reaches sampleProgram (.idle ∅) retired
      ∧ retired.threads true = some ⟨sampleRetireCall, .pure true, log⟩
      ∧ later.state = ((sampleProgram sampleSetupCall).run retired.state).2
      ∧ later.state.find (materialRow sampleDealt.1.sessionBinding (ByteVec.fill 32 1)) = none := by
  have hidle : (.idle sampleLive : Pool Bool (MaskCall sampleRequest) storeMachine Bool).threads true = none := rfl
  have hremoves : sampleRetireCall.Removes := trivial
  obtain ⟨retired, later, log, hrun, hreturned, hlater, hstate⟩ :=
    @Pool.onlyReaches_then _ _ _ Bool _ _ _ _ sampleProgram _ sampleSetupCall hremoves sampleLive true false (by decide)
  have hok : ((sampleProgram sampleRetireCall).run sampleLive).1 = true := by decide +kernel
  have hreserved : sampleLive.find (reservationRow sampleRequest) = some sampleDealt.1.sessionBinding.toList := by
    decide +kernel
  rw [hok] at hreturned
  refine ⟨retired, later, log, reaches_sampleLive.trans (Pool.reaches_of_onlyReaches hrun), hreturned, hstate, ?_⟩
  exact @erased_of_retire sampleRequest .fold Bool _ sampleSource ∅ _ retired later true sampleDealt.1 sampleOpened log
    reaches_sampleLive (Pool.only_idle _) hidle hreserved sampleLive_members hrun hreturned hlater _

/-!
### Retirement after a crash
-/

theorem exists_yields_eraseOpenings (other : Hash256) (members : List PublicKey) (s : Store)
    : ∃ s', Yields (eraseOpenings other members) s () s' := by
  induction members generalizing s with
  | nil => exact ⟨s, StoreM.yields_pure.mpr ⟨rfl, rfl⟩⟩
  | cons member members ih =>
    obtain ⟨s', herased⟩ := ih (s.apply (.delete (materialRow other member)))
    refine ⟨s', StoreM.yields_bind.mpr ⟨(), _, ?_, herased⟩⟩
    apply StoreM.yields_bind.mpr
    refine ⟨true, _, ?_, StoreM.yields_pure.mpr ⟨rfl, rfl⟩⟩
    exact StoreM.yields_applyBatchIfAll.mpr ⟨by simp, by simp [valid_materialRow], rfl, rfl⟩

section

variable {s : Store} {vss : VssSetup}

/-- The rows of keys that are not members stay as they are. -/
def leavesOthers (vss : VssSetup) : Rely Store where
  rel s s' := ∀ member ∉ vss.members,
    s'.find (materialRow vss.sessionBinding member) = s.find (materialRow vss.sessionBinding member)
  refl _ _ _ := rfl
  trans h h' member hmember := (h' member hmember).trans (h member hmember)

theorem leavesOthers_put {row : Row} {value : List UInt8} (hrow : ∀ member, row ≠ materialRow vss.sessionBinding member)
    : (leavesOthers vss).rel s (s.apply (.put row value)) :=
  fun member _ => Store.find_apply_of_ne s (hrow member).symm

theorem eraseOpenings_leavesOthers {members : List PublicKey} (hmembers : members ⊆ vss.members)
    : Obeys (leavesOthers vss) (leavesOthers vss).rel (eraseOpenings vss.sessionBinding members) s fun _ _ => True := by
  induction members generalizing s with
  | nil => exact Obeys.pure fun _ _ => trivial
  | cons member members ih =>
    rw [List.cons_subset] at hmembers
    apply Obeys.bind
    apply obeys_delete (leavesOthers vss).refl
    . intro s other hother
      apply Store.find_apply_of_ne
      intro hrow
      rw [(materialKey_inj.mp (congrArg Row.key hrow)).2] at hother
      exact hother hmembers.1
    . exact fun _ _ _ => ih hmembers.2

variable [P : Primitives] {opened : OpenedMask} {shares : List OpeningShare} {gate : TimedOpeningGate} {nowMs : UInt64}

theorem timedOpen_audit (h : timedOpen vss shares gate nowMs = .ok opened)
    : P.blake2b256 (vss.parentHash.toList ++ opened.mask.toList) = vss.maskHash
      ∧ maskConstraintsValid opened.mask vss.leadingZeroPrefixQ.toNat vss.blindBandBitsD.toNat := by
  unfold timedOpen reconstructVerified at h
  simp only [Except.bind_unit_eq_ok, Except.rejectIf_eq_ok, not_not] at h
  obtain ⟨_, _, _, _, _, hconstraints, hhash, hopened⟩ := h
  injection hopened with hopened
  rw [← hopened]
  exact ⟨hhash, hconstraints⟩

theorem exists_yields_retireAfterAudit (hopened : timedOpen vss shares gate nowMs = .ok opened)
    : (∃ s', Yields (retireAfterAudit vss opened) s () s')
      ↔ ∀ bytes, s.find (publicTranscriptRow vss.sessionBinding) = some bytes
        → bytes = encodePublicTranscript vss opened := by
  obtain ⟨hhash, hconstraints⟩ := timedOpen_audit hopened
  have hvalid : (publicTranscriptRow vss.sessionBinding).valid :=
    rowValid_of_notMem (by decide) (zero_notMem_hexEncode _)
  have hpersist : (∃ s₁, Yields (persist MpcError.openingMaterialConflict (publicTranscriptRow vss.sessionBinding)
      (encodePublicTranscript vss opened)) s () s₁)
      ↔ ∀ bytes, s.find (publicTranscriptRow vss.sessionBinding) = some bytes
        → bytes = encodePublicTranscript vss opened := by
    simp only [yields_persist, hvalid]
    cases s.find (publicTranscriptRow vss.sessionBinding) <;> simp
  rw [← hpersist]
  simp only [retireAfterAudit, StoreM.yields_bind, StoreM.yields_ofExcept, StoreM.yields_putIfAbsent]
  constructor
  . rintro ⟨_, _, _, ⟨_, rfl⟩, _, _, ⟨_, rfl⟩, _, s₁, hpersist, _⟩
    exact ⟨s₁, hpersist⟩
  . rintro ⟨s₁, hpersist⟩
    obtain ⟨s', herased⟩ := exists_yields_eraseOpenings vss.sessionBinding vss.members _
    refine ⟨s', (), s, ⟨Except.rejectIf_of_not (by simp [hhash]), rfl⟩, (), s, ⟨Except.rejectIf_of_not ?_, rfl⟩, (), s₁,
      hpersist, _, _, ⟨valid_retiredRow _, rfl, rfl⟩, herased⟩
    simp [hconstraints]

theorem retireAfterAudit_leavesOthers
    : Obeys (leavesOthers vss) (leavesOthers vss).rel (retireAfterAudit vss opened) s fun _ _ => True := by
  apply bind_check
  apply bind_check
  apply Obeys.bind
  apply (obeys_persist (leavesOthers vss).refl
    fun s _ => leavesOthers_put (by simp [publicTranscriptRow, materialRow])).mono
  intro _ s₁ _
  apply Obeys.bind
  apply obeys_putIfAbsent (leavesOthers vss).refl
    fun s _ => leavesOthers_put (by simp [retiredRow, materialRow])
  intro _ _ _ _ _
  exact eraseOpenings_leavesOthers (List.Subset.refl _)

/-- However far a retirement came before it crashed, a later one with an accepted opening succeeds and leaves no
material exactly if the first one left no transcript or the transcript of that same opening, and all of the material
belonged to the listed members. -/
theorem retireAfterAudit_of_crash {first : OpenedMask} {crashed : Store} {visited : List Store}
    (hcrash : (retireAfterAudit vss first).run.Executes s visited none crashed)
    (hopened : timedOpen vss shares gate nowMs = .ok opened)
    : (∃ s', Yields (retireAfterAudit vss opened) crashed () s'
        ∧ ∀ member, s'.find (materialRow vss.sessionBinding member) = none)
      ↔ (∀ bytes, crashed.find (publicTranscriptRow vss.sessionBinding) = some bytes
          → bytes = encodePublicTranscript vss opened)
        ∧ ∀ member, s.find (materialRow vss.sessionBinding member) ≠ none → member ∈ vss.members := by
  have hothers : (leavesOthers vss).rel s crashed := (retireAfterAudit_leavesOthers.executes hcrash).1
  have hretry : ∀ s', Yields (retireAfterAudit vss opened) crashed () s' → (leavesOthers vss).rel s s'
      ∧ ∀ member ∈ vss.members, s'.find (materialRow vss.sessionBinding member) = none := by
    intro s' hyields
    have hexecutes := Program.executes_run (retireAfterAudit vss opened).run crashed
    rw [hyields] at hexecutes
    -- The reservation plays no part here, so any request will do.
    obtain ⟨_, hdone⟩ := (@retireAfterAudit_obeys sampleRequest vss.sessionBinding _ _ (sheds ..) vss opened).executes
      hexecutes
    exact ⟨(leavesOthers vss).trans hothers (retireAfterAudit_leavesOthers.executes hexecutes).1,
      (hdone _ rfl () rfl ⟨fun _ _ => id, rfl⟩).1⟩
  constructor
  . rintro ⟨s', hyields, herased⟩
    refine ⟨(exists_yields_retireAfterAudit hopened).mp ⟨s', hyields⟩, ?_⟩
    intro member hne
    by_contra hmember
    exact hne (((hretry s' hyields).1 member hmember).symm.trans (herased member))
  . rintro ⟨htranscript, hmembers⟩
    obtain ⟨s', hyields⟩ := (exists_yields_retireAfterAudit hopened).mpr htranscript
    obtain ⟨hothers', herased⟩ := hretry s' hyields
    refine ⟨s', hyields, ?_⟩
    intro member
    by_cases hmember : member ∈ vss.members
    . exact herased member hmember
    . rw [hothers' member hmember]
      exact not_not.mp (mt (hmembers member) hmember)

end

def sampleCrashed (opened : OpenedMask) : Store :=
  ((@retireAfterAudit .fold sampleDealt.1 opened).run.advance 1 sampleLive).2

def sampleReopened (shares : List OpeningShare) : OpenedMask :=
  @openedMask .fold sampleMask (sortByPoint shares)

theorem retireAfterAudit_of_crash_sample
    : letI := Primitives.fold
      ∃ s', Yields (retireAfterAudit sampleDealt.1 (sampleReopened sampleShares))
          (sampleCrashed (sampleReopened sampleShares)) () s'
        ∧ ∀ member, s'.find (materialRow sampleDealt.1.sessionBinding member) = none := by
  obtain ⟨visited, hcrash⟩ := Program.executes_advance 1
    (@retireAfterAudit .fold sampleDealt.1 (sampleReopened sampleShares)).run sampleLive
  have hopened : @timedOpen .fold sampleDealt.1 sampleShares ⟨900, true⟩ 1000 = .ok (sampleReopened sampleShares) := by
    decide +kernel
  have hfind : (sampleCrashed (sampleReopened sampleShares)).find (publicTranscriptRow sampleDealt.1.sessionBinding)
      = some (encodePublicTranscript sampleDealt.1 (sampleReopened sampleShares)) := by decide +kernel
  refine (@retireAfterAudit_of_crash _ _ .fold _ _ _ _ _ _ _ hcrash hopened).mpr ⟨?_, sampleLive_members⟩
  intro bytes hbytes
  exact Option.some.inj (hbytes.symm.trans hfind)

/-- The first two members open the mask, and their retirement crashes after its first write; the retirement with the
opening of the first and the third member is then refused, and the material stays. -/
theorem retireAfterAudit_conflict
    : letI := Primitives.fold
      ∃ (first later : OpenedMask) (visited : List Store) (crashed : Store),
        timedOpen sampleDealt.1 (sampleDealt.2.take 2) ⟨900, true⟩ 1000 = .ok first
        ∧ timedOpen sampleDealt.1 sampleShares ⟨900, true⟩ 1000 = .ok later
        ∧ (retireAfterAudit sampleDealt.1 first).run.Executes sampleLive visited none crashed
        ∧ ((retireAfterAudit sampleDealt.1 later).run.run crashed).1 = .error .openingMaterialConflict
        ∧ (((retireAfterAudit sampleDealt.1 later).run.run crashed).2.find
          (materialRow sampleDealt.1.sessionBinding (ByteVec.fill 32 1))).isSome := by
  obtain ⟨visited, hcrash⟩ := Program.executes_advance 1
    (@retireAfterAudit .fold sampleDealt.1 (sampleReopened (sampleDealt.2.take 2))).run sampleLive
  exact ⟨_, sampleReopened sampleShares, visited, _, by decide +kernel, by decide +kernel, hcrash, by decide +kernel,
    by decide +kernel⟩

end MeshMine.Mpc
