import VideoInterop.Vulkan.Construction

/-!
# What constructors leave

A constructor keeps a ledger of its handles (`Custody`).  Each call of the device has one
rule for it, and each constructor one lemma: what it owns when it succeeds, and that it
owns nothing when it fails.  The rules of the ledger speak of the newest bundle only, so
that a lemma holds whatever its caller owns besides.

One exit of `create_staged_output_slot` keeps what it should end: the pool, when the list
of descriptor sets is empty.  `constructors_leak_nothing` says that this is all.
-/

namespace VideoInterop.Vulkan.Construction

open VideoInterop (Effect)
open VideoInterop.Effect

/-! ## Custody -/

/-- What a constructor owns.  `lent` are the handles out of pools, with the pool. -/
structure Custody (owned : List (List Handle)) (lent : List (Handle × Handle))
    (s : DeviceState) : Prop where
  /-- The handles owned are those made and not ended. -/
  ledger : Ledger IsDescriptor s.events owned
  /-- The next handles are new. -/
  numbered : ∀ h, s.next ≤ h.number → Unknown s.events h
  /-- Those lent came out of their pools. -/
  lent : ∀ h pool, (h, pool) ∈ lent → .lend h pool ∈ s.events

section
variable {ε α : Type} {owned : List (List Handle)} {b : List Handle} {h : Handle}
  {lent : List (Handle × Handle)} {s : DeviceState} {E : ε → DeviceState → Prop}

theorem Custody.perm {owned' : List (List Handle)} (hs : Custody owned lent s)
    (hperm : owned.Perm owned') : Custody owned' lent s :=
  ⟨hs.ledger.perm hperm, hs.numbered, hs.lent⟩

theorem Custody.blank (hs : Custody owned lent s) : Custody ([] :: owned) lent s :=
  ⟨hs.ledger.blank, hs.numbered, hs.lent⟩

theorem Custody.spent (hs : Custody ([] :: owned) lent s) : Custody owned lent s :=
  ⟨hs.ledger.spent, hs.numbered, hs.lent⟩

/-- Less may be said of what was lent. -/
theorem Custody.forget {lent' : List (Handle × Handle)} (hs : Custody owned lent' s)
    (hsub : lent ⊆ lent') : Custody owned lent s :=
  ⟨hs.ledger, hs.numbered, fun h pool hmem => hs.lent h pool (hsub hmem)⟩

/-- An event that brings no handle. -/
theorem Custody.log {e : HandleEvent Handle} {owned' : List (List Handle)}
    (hs : Custody owned lent s) (hmakes : ∀ h, HandleEvent.makes h e = false)
    (hlends : ∀ h, HandleEvent.lends h e = false)
    (hledger : Ledger IsDescriptor (e :: s.events) owned') :
    Custody owned' lent { s with events := e :: s.events } where
  ledger := hledger
  numbered := by
    intro h hnext e' he'
    cases he' with
    | head => exact ⟨hmakes h, hlends h⟩
    | tail _ he' => exact hs.numbered h hnext e' he'
  lent := fun h pool hmem => .tail _ (hs.lent h pool hmem)

/-- An event that brings the next handle. -/
theorem Custody.bring {e : HandleEvent Handle} {owned' : List (List Handle)}
    (hs : Custody owned lent s) (kind : HandleKind)
    (hbrings : ∀ h, h ≠ ⟨kind, s.next⟩ → HandleEvent.makes h e = false ∧
      HandleEvent.lends h e = false)
    (hledger : Ledger IsDescriptor (e :: s.events) owned') :
    Custody owned' lent { s with next := s.next + 1, events := e :: s.events } where
  ledger := hledger
  numbered := by
    intro h hnext e' he'
    cases he' with
    | head =>
        refine hbrings h ?_
        rintro rfl
        exact absurd hnext (Nat.not_succ_le_self _)
    | tail _ he' => exact hs.numbered h (Nat.le_of_succ_le hnext) e' he'
  lent := fun h pool hmem => .tail _ (hs.lent h pool hmem)

/-! ## Calls -/

/-- A handle that depends on handles of the newest bundle. -/
theorem triple_make {kind : HandleKind} {parents : List Handle} (hparents : ∀ p ∈ parents, p ∈ b) :
    Triple (Custody (b :: owned) lent) (make kind parents)
      (fun h => Custody ((h :: b) :: owned) lent) E := by
  intro s hs
  have hledger := hs.ledger.make (hs.numbered ⟨kind, s.next⟩ (Nat.le_refl _)) hparents
  refine hs.bring kind (fun h hne => ?_) hledger
  exact ⟨by simpa [HandleEvent.makes] using fun heq => hne heq.symm, rfl⟩

theorem triple_makeRoot {kind : HandleKind} :
    Triple (Custody owned lent) (make kind []) (fun h => Custody ([h] :: owned) lent) E :=
  (triple_make (b := []) (by simp)).conseq (fun _ hs => hs.blank)
    (fun _ _ hs => hs) fun _ _ hs => hs

/-- The handle is of the kind that was asked for. -/
theorem triple_kind {kind : HandleKind} {parents : List Handle} {P : DeviceState → Prop}
    {Q : Handle → DeviceState → Prop} (h : Triple P (make kind parents) Q E) :
    Triple P (make kind parents) (fun h s => h.kind = kind ∧ Q h s) E :=
  fun s hs => ⟨rfl, h s hs⟩

theorem triple_expect {ε' : Type} {failure : Option ε'} {e : ε' → ε} {P : DeviceState → Prop} :
    Triple P (expect failure e) (fun _ s => failure = none ∧ P s)
      fun _ s => failure ≠ none ∧ P s := by
  intro s hs
  cases failure with
  | none => exact ⟨rfl, hs⟩
  | some x => exact ⟨nofun, hs⟩

theorem triple_create {kind : HandleKind} {parents : List Handle} {failure : Option VkError}
    {error : VkError → ε} (hparents : ∀ p ∈ parents, p ∈ b) :
    Triple (Custody (b :: owned) lent) (create kind parents failure error)
      (fun h s => failure = none ∧ Custody ((h :: b) :: owned) lent s)
      fun _ s => failure ≠ none ∧ Custody (b :: owned) lent s :=
  .bind triple_expect fun _ => .of_fact fun hnone =>
    (triple_make hparents).onOk fun _ _ hs => ⟨hnone, hs⟩

theorem triple_createRoot {kind : HandleKind} {failure : Option VkError} {error : VkError → ε} :
    Triple (Custody owned lent) (create kind [] failure error)
      (fun h s => failure = none ∧ Custody ([h] :: owned) lent s)
      fun _ s => failure ≠ none ∧ Custody owned lent s :=
  (triple_create (b := []) (by simp)).conseq (fun _ hs => hs.blank) (fun _ _ hs => hs)
    fun _ _ hs => ⟨hs.1, hs.2.spent⟩

/-- The first handle of the newest bundle. -/
theorem triple_destroy :
    Triple (Custody ((h :: b) :: owned) lent) (destroy h : Effect DeviceState ε Unit)
      (fun _ => Custody (b :: owned) lent) E :=
  fun s hs => hs.log (s := s) (fun _ => rfl) (fun _ => rfl) hs.ledger.destroy

/-- The only handle of the newest bundle. -/
theorem triple_destroyLast :
    Triple (Custody ([h] :: owned) lent) (destroy h : Effect DeviceState ε Unit)
      (fun _ => Custody owned lent) E :=
  triple_destroy.onOk fun _ _ hs => hs.spent

theorem triple_take {result : Except ε α} {P : DeviceState → Prop} :
    Triple P (take result) (fun a s => result = .ok a ∧ P s)
      fun _ s => (∀ a, result ≠ .ok a) ∧ P s := by
  intro s hs
  cases result with
  | ok a => exact ⟨rfl, hs⟩
  | error e => exact ⟨nofun, hs⟩

/-- A failure whose cleanup is destroying one handle. -/
theorem triple_orDestroy {φ : Prop} {x : Effect DeviceState ε α}
    {P : DeviceState → Prop} {Q : α → DeviceState → Prop}
    (hx : Triple P x Q fun _ s => φ ∧ Custody ([h] :: owned) lent s) :
    Triple P (onFailure x (destroy h)) Q fun _ s => φ ∧ Custody owned lent s :=
  .onFailure hx fun _ => .of_fact fun hφ =>
    triple_destroyLast.onOk fun _ _ hs => ⟨hφ, hs⟩

/-! ## Images and buffers -/

/-- What the drop of an image ends, in order. -/
def ImageAllocation.bundle (a : ImageAllocation) : List Handle := [a.image, a.memory]

/-- What the drop of a buffer ends, in order. -/
def BufferAllocation.bundle (a : BufferAllocation) : List Handle := [a.buffer, a.memory]

theorem triple_dropImage {a : ImageAllocation} :
    Triple (Custody (a.bundle :: owned) lent) (a.drop : Effect DeviceState ε Unit)
      (fun _ => Custody owned lent) E :=
  .bind triple_destroy fun _ => triple_destroyLast

/-- An image or a buffer, and the memory it is bound to. -/
theorem triple_bindMemory {memory : Handle} {failure : Option VkError} {error : VkError → ε} :
    Triple (Custody ([memory] :: [h] :: owned) lent) (bindMemory h memory failure error)
      (fun _ s => failure = none ∧ Custody ([h, memory] :: owned) lent s)
      fun _ s => failure ≠ none ∧ Custody ([memory] :: [h] :: owned) lent s := by
  refine .bind triple_expect fun _ => .of_fact fun hnone => fun s hs => ⟨hnone, ?_⟩
  exact hs.log (fun _ => rfl) (fun _ => rfl)
    ((hs.ledger.perm (List.Perm.swap _ _ _)).bind (List.mem_singleton_self _))

/-- The calls of `create_local_image_with_flags` succeed. -/
def LocalImageCalls.Succeed (device : DeviceContext) (calls : LocalImageCalls) : Prop :=
  calls.create = none ∧
    (∃ index, selectMemoryType device calls.requirements.memoryTypeBits = .ok index) ∧
    calls.allocate = none ∧ calls.bind = none

theorem triple_createLocalImage {device : DeviceContext} {calls : LocalImageCalls} :
    Triple (Custody owned lent) (createLocalImage device calls)
      (fun a s => calls.Succeed device ∧ Custody (a.bundle :: owned) lent s)
      fun _ s => ¬ calls.Succeed device ∧ Custody owned lent s := by
  refine .bind (triple_createRoot.onError fun _ _ hs => ⟨fun hc => hs.1 hc.1, hs.2⟩)
    fun image => .of_fact fun hcreate => ?_
  refine .bind (triple_orDestroy (triple_take.onError fun _ _ hs =>
    ⟨fun hc => hc.2.1.elim hs.1, hs.2⟩)) fun index => .of_fact fun hindex => ?_
  refine .bind (triple_orDestroy (triple_createRoot.onError fun _ _ hs =>
    ⟨fun hc => hs.1 hc.2.2.1, hs.2⟩)) fun memory => .of_fact fun hallocate => ?_
  refine .bind (.onFailure triple_bindMemory fun _ => .of_fact fun hbind => ?_)
    fun _ => .of_fact fun hbind => ?_
  · refine .bind triple_destroyLast fun _ => ?_
    exact triple_destroyLast.onOk fun _ _ hs => ⟨fun hc => hbind hc.2.2.2, hs⟩
  · exact .pure fun s hs => ⟨⟨hcreate, ⟨index, hindex⟩, hallocate, hbind⟩, hs⟩

/-- The descriptor that an import takes over. -/
theorem triple_allocateImported {fd : Handle} (hfd : IsDescriptor fd) {failure : Option VkError}
    {error : VkError → ε} :
    Triple (Custody ([fd] :: owned) lent) (allocateImported fd failure error)
      (fun memory => Custody ([memory] :: owned) lent) fun _ => Custody owned lent := by
  refine .bind (.onFailure triple_expect fun _ => ?_) fun _ => ?_
  · exact triple_destroyLast.conseq (fun _ hs => hs.2) (fun _ _ hs => hs) fun _ _ hs => hs
  refine .of_fact fun _ => .bind (Q := fun _ => Custody owned lent) ?_ fun _ => triple_makeRoot
  exact fun s hs => (hs.log (fun _ => rfl) (fun _ => rfl) (hs.ledger.pass hfd)).spent

theorem triple_duplicateImportFd {failure : Option String} :
    Triple (Custody owned lent) (duplicateImportFd failure)
      (fun fd s => IsDescriptor fd ∧ Custody ([fd] :: owned) lent s)
      fun _ => Custody owned lent := by
  refine .bind (triple_expect.onError fun _ _ hs => hs.2) fun _ => .of_fact fun _ => ?_
  exact triple_kind triple_makeRoot

theorem triple_importImageMemory {device : DeviceContext} {image : Handle}
    {sourceSize : Option UInt64} {calls : ImportCalls} :
    Triple (Custody ([image] :: owned) lent) (importImageMemory device image sourceSize calls)
      (fun memory => Custody ([image, memory] :: owned) lent)
      fun _ => Custody ([image] :: owned) lent := by
  refine .bind (.failWhen fun _ hs _ => hs) fun _ => ?_
  refine .bind ((Triple.adapt (triple_take.onError fun _ _ hs => hs.2.1)).onOk fun _ _ hs => hs.2.1)
    fun index => ?_
  refine .bind (.adapt triple_duplicateImportFd) fun fd => .of_fact fun hfd => ?_
  refine .bind (triple_allocateImported hfd) fun memory => ?_
  refine .bind (.onFailure triple_bindMemory fun _ => ?_) fun _ => .pure fun s hs => hs.2
  exact triple_destroyLast.conseq (fun _ hs => hs.2) (fun _ _ hs => hs) fun _ _ hs => hs

theorem triple_createDirectImage {device : DeviceContext} {sourceSize : Option UInt64}
    {calls : ImportCalls} :
    Triple (Custody owned lent) (createDirectImage device sourceSize calls)
      (fun a => Custody (a.bundle :: owned) lent) fun _ => Custody owned lent := by
  refine .bind (triple_createRoot.onError fun _ _ hs => hs.2) fun image => .of_fact fun _ => ?_
  refine .bind (.onFailure triple_importImageMemory fun _ => triple_destroyLast) fun memory => ?_
  exact .pure fun s hs => hs

theorem triple_createImportedBuffer {device : DeviceContext} {sourceFd : Int32}
    {bufferSize allocationSize : UInt64} {calls : ImportCalls} :
    Triple (Custody owned lent)
      (createImportedBuffer device sourceFd bufferSize allocationSize calls)
      (fun a => Custody (a.bundle :: owned) lent) fun _ => Custody owned lent := by
  refine .bind (.failWhen fun _ hs _ => hs) fun _ => ?_
  refine .bind (.failWhen fun _ hs _ => hs.1) fun _ => ?_
  refine .bind (Triple.conseq (P := Custody owned lent) triple_createRoot (fun _ hs => hs.1.1)
    (fun _ _ hs => hs) fun _ _ hs => hs.2) fun buffer => .of_fact fun _ => ?_
  refine .bind (.onFailure (.failWhen fun _ hs _ => hs) fun _ => triple_destroyLast) fun _ => ?_
  refine .bind (.onFailure ((Triple.adapt (triple_take.onError fun _ _ hs => hs.2.1)).onOk
    fun _ _ hs => hs.2.1) fun _ => triple_destroyLast) fun index => ?_
  refine .bind (.onFailure (.adapt triple_duplicateImportFd) fun _ => triple_destroyLast)
    fun fd => .of_fact fun hfd => ?_
  refine .bind (.onFailure (triple_allocateImported hfd) fun _ => triple_destroyLast)
    fun memory => ?_
  refine .bind (.onFailure triple_bindMemory fun _ => .of_fact fun _ => ?_)
    fun _ => .pure fun s hs => hs.2
  exact .bind triple_destroyLast fun _ => triple_destroyLast

/-! ## Slots -/

/-- What the drop of a slot's images ends, image by image. -/
def StagedOutputResources.bundles : StagedOutputResources → List (List Handle)
  | rgba view sampled => [view :: sampled.bundle]
  | nv12 sampled => [sampled.bundle]
  | transferYuvPlanes luma chroma => [luma.bundle, chroma.bundle]
  | yuvPlanes lumaView luma chromaView chroma =>
    [lumaView :: luma.bundle, chromaView :: chroma.bundle]

theorem triple_dropResources {resources : StagedOutputResources} :
    Triple (Custody (resources.bundles ++ owned) lent)
      (resources.drop : Effect DeviceState ε Unit) (fun _ => Custody owned lent) E := by
  cases resources with
  | rgba view sampled => exact .bind triple_destroy fun _ => triple_dropImage
  | nv12 sampled => exact triple_dropImage
  | transferYuvPlanes luma chroma => exact .bind triple_dropImage fun _ => triple_dropImage
  | yuvPlanes lumaView luma chromaView chroma =>
      refine .bind triple_destroy fun _ => .bind triple_dropImage fun _ => ?_
      exact .bind triple_destroy fun _ => triple_dropImage

theorem triple_createTransferResources {device : DeviceContext} {strategy : Nv12ImportStrategy}
    {calls : SlotCalls} :
    Triple (Custody owned lent) (createTransferResources device strategy calls)
      (fun resources => Custody (resources.bundles ++ owned) lent) fun _ => Custody owned lent := by
  have htwo : Triple (Custody owned lent)
      (do
        let luma ← createLocalImage device calls.image
        let chroma ← onFailure (createLocalImage device calls.chromaImage) luma.drop
        return StagedOutputResources.transferYuvPlanes luma chroma)
      (fun resources => Custody (resources.bundles ++ owned) lent) fun _ => Custody owned lent := by
    refine .bind (triple_createLocalImage.onError fun _ _ hs => hs.2) fun luma =>
      .of_fact fun _ => ?_
    refine .bind (.onFailure (triple_createLocalImage.onError fun _ _ hs => hs.2) fun _ =>
      triple_dropImage) fun chroma => .of_fact fun _ => ?_
    exact .pure fun s hs => hs.perm (List.Perm.swap _ _ _)
  cases strategy with
  | linearBufferToOptimalNv12 =>
      refine .bind (triple_createLocalImage.onError fun _ _ hs => hs.2) fun sampled => ?_
      exact .pure fun s hs => hs.2
  | directSampledImage => exact htwo
  | directImageToOptimalYuvPlanes => exact htwo
  | linearBufferToOptimalYuvPlanes => exact htwo
  | linearBufferToYuvPlanes => exact htwo
  | linearBufferToRgba => exact htwo

theorem triple_createViewedImage {device : DeviceContext} {image : LocalImageCalls}
    {view : Option VkError} :
    Triple (Custody owned lent) (createViewedImage device image view)
      (fun made s => (image.Succeed device ∧ view = none) ∧
        Custody ((made.2 :: made.1.bundle) :: owned) lent s)
      fun _ s => ¬ (image.Succeed device ∧ view = none) ∧ Custody owned lent s := by
  refine .bind (triple_createLocalImage.onError fun _ _ hs => ⟨fun hc => hs.1 hc.1, hs.2⟩)
    fun a => .of_fact fun himage => ?_
  have hview : Triple (Custody (a.bundle :: owned) lent) (createImageView a.image view)
      (fun h s => view = none ∧ Custody ((h :: a.bundle) :: owned) lent s)
      fun _ s => view ≠ none ∧ Custody (a.bundle :: owned) lent s :=
    triple_create (by simp [ImageAllocation.bundle])
  refine .bind (.onFailure hview fun _ => .of_fact fun hview => ?_) fun h =>
    .pure fun s hs => ⟨⟨himage, hs.1⟩, hs.2⟩
  exact triple_dropImage.onOk fun _ _ hs => ⟨fun hc => hview hc.2, hs⟩

/-- The calls for the images and views of a slot that a pipeline fills succeed. -/
def SlotCalls.Succeed (device : DeviceContext) (calls : SlotCalls) : Nv12ComputeOutput → Prop
  | .rgba => calls.image.Succeed device ∧ calls.view = none
  | .yuvPlanes => (calls.image.Succeed device ∧ calls.view = none) ∧
      calls.chromaImage.Succeed device ∧ calls.chromaView = none

theorem triple_createComputeResources {device : DeviceContext} {output : Nv12ComputeOutput}
    {calls : SlotCalls} :
    Triple (Custody owned lent) (createComputeResources device output calls)
      (fun resources s => calls.Succeed device output ∧
        Custody (resources.bundles ++ owned) lent s)
      fun _ s => ¬ calls.Succeed device output ∧ Custody owned lent s := by
  cases output with
  | rgba => exact .bind triple_createViewedImage fun made => .pure fun s hs => hs
  | yuvPlanes =>
      refine .bind (triple_createViewedImage.onError fun _ _ hs => ⟨fun hc => hs.1 hc.1, hs.2⟩)
        fun luma => .of_fact fun hluma => ?_
      refine .bind (.onFailure triple_createViewedImage fun _ => .of_fact fun hchroma => ?_)
        fun chroma => .of_fact fun hchroma => .pure fun s hs => ?_
      · refine .bind triple_destroy fun _ => ?_
        exact triple_dropImage.onOk fun _ _ hs => ⟨fun hc => hchroma hc.2, hs⟩
      · exact ⟨⟨hluma, hchroma⟩, hs.perm (List.Perm.swap _ _ _)⟩

/-- Handles out of the pool that is the newest bundle. -/
theorem triple_lendList {kind : HandleKind} {pool : Handle} {listed : Listed} :
    Triple (Custody ([pool] :: owned) lent) (lendList kind pool listed)
      (fun hs s => (hs = [] ↔ listed = .empty) ∧
        Custody ([pool] :: owned) (hs.map (·, pool) ++ lent) s) E := by
  cases listed with
  | empty => exact .pure fun s hs => ⟨⟨fun _ => rfl, fun _ => rfl⟩, hs⟩
  | one =>
      intro s hs
      refine ⟨⟨nofun, nofun⟩, ?_⟩
      have hledger := hs.ledger.lend (hs.numbered ⟨kind, s.next⟩ (Nat.le_refl _))
        (List.mem_singleton_self pool)
      have hbring := hs.bring kind (fun h hne => ⟨rfl, by
        simpa [HandleEvent.lends] using fun heq => hne heq.symm⟩) hledger
      refine ⟨hbring.ledger, hbring.numbered, fun h other hmem => ?_⟩
      cases hmem with
      | head => exact .head _
      | tail _ hmem => exact hbring.lent h other hmem

/-- The first of the handles that were lent. -/
theorem Custody.first {pool set : Handle} {hs : List Handle}
    (hc : Custody owned (hs.map (·, pool) ++ lent) s) (hset : hs.head? = some set) :
    Custody owned ((set, pool) :: lent) s := by
  refine hc.forget (List.cons_subset.mpr ⟨?_, List.subset_append_right _ _⟩)
  exact List.mem_append_left _ (List.mem_map.mpr ⟨set, List.mem_of_mem_head? hset, rfl⟩)

/-- What a constructor leaves when it fails: its pool if `φ`, else nothing. -/
def Left (φ : Prop) (owned : List (List Handle)) (lent : List (Handle × Handle))
    (s : DeviceState) : Prop :=
  (φ ∧ ∃ pool, Custody ([pool] :: owned) lent s) ∨ (¬ φ ∧ Custody owned lent s)

theorem triple_allocateStagedSet {pool : Handle} {sets : Except VkError Listed} :
    Triple (Custody ([pool] :: owned) lent) (allocateStagedSet pool sets)
      (fun set s => sets ≠ .ok .empty ∧ Custody ([pool] :: owned) ((set, pool) :: lent) s)
      fun _ => Left (sets = .ok .empty) owned lent := by
  cases sets with
  | error e =>
      refine .bind triple_destroyLast fun _ => .throw fun s hs => .inr ⟨nofun, hs⟩
  | ok listed =>
      refine .bind triple_lendList fun made => .of_fact fun hmade => ?_
      refine (triple_take.onOk fun set s hs => ?_).onError fun _ s hs => ?_
      · have hset := orRefuse_ok.mp hs.1
        refine ⟨?_, hs.2.first hset⟩
        rintro heq
        cases heq
        rw [hmade.mpr rfl] at hset
        cases hset
      · cases made with
        | nil =>
            cases hmade.mp rfl
            exact .inl ⟨rfl, pool, hs.2⟩
        | cons set rest => exact absurd rfl (hs.1 set)

theorem triple_createStagedSet {calls : SlotCalls} :
    Triple (Custody owned lent) (createStagedSet calls)
      (fun made s => ¬ (calls.descriptorPool = none ∧ calls.descriptorSets = .ok .empty) ∧
        Custody ([made.1] :: owned) ((made.2, made.1) :: lent) s)
      fun _ => Left (calls.descriptorPool = none ∧ calls.descriptorSets = .ok .empty)
        owned lent := by
  refine .bind (triple_createRoot.onError fun _ _ hs => .inr ⟨fun hc => hs.1 hc.1, hs.2⟩)
    fun pool => .of_fact fun hpool => ?_
  refine .bind (triple_allocateStagedSet.onError fun _ s hs => ?_) fun set =>
    .pure fun s hs => ⟨fun hc => hs.1 hc.2, hs.2⟩
  rcases hs with ⟨hsets, hs⟩ | ⟨hsets, hs⟩
  · exact .inl ⟨⟨hpool, hsets⟩, hs⟩
  · exact .inr ⟨fun hc => hsets hc.2, hs⟩

/-- The resources go.  A pool that was left stays. -/
theorem triple_dropLeft {φ φ' : Prop} (hφ : φ ↔ φ') {resources : StagedOutputResources} :
    Triple (Left φ (resources.bundles ++ owned) lent)
      (resources.drop : Effect DeviceState ε Unit) (fun _ => Left φ' owned lent) E := by
  rintro s (⟨h, pool, hs⟩ | ⟨h, hs⟩)
  · exact (triple_dropResources.onOk fun _ _ hs => .inl ⟨hφ.mp h, pool, hs⟩) s
      (hs.perm List.perm_middle.symm)
  · exact (triple_dropResources.onOk fun _ _ hs => .inr ⟨fun h' => h (hφ.mpr h'), hs⟩) s hs

/-- The set of a compute slot is asked for, and the list is empty. -/
structure NoSet (device : DeviceContext) (output : Nv12ComputeOutput)
    (pipeline : Option Nv12ComputePipeline) (sourceView : Option BufferView)
    (calls : SlotCalls) : Prop where
  /-- The pipeline writes the output. -/
  pipeline : pipeline.map (·.output) = some output
  /-- The source has a view. -/
  sourceView : sourceView.isSome
  /-- The images and views were made. -/
  made : calls.Succeed device output
  /-- The pool was made. -/
  pool : calls.descriptorPool = none
  /-- No set came out of it. -/
  sets : calls.descriptorSets = .ok .empty

/-- What the drop of a slot ends. -/
def StagedOutputSlot.bundles (slot : StagedOutputSlot) : List (List Handle) :=
  slot.descriptorPool.toList.map ([·]) ++ slot.resources.bundles

/-- The set of a slot, with its pool. -/
def StagedOutputSlot.lending (slot : StagedOutputSlot) : List (Handle × Handle) :=
  match slot.descriptorSet, slot.descriptorPool with
  | some set, some pool => [(set, pool)]
  | _, _ => []

/-- What the caller of the constructor of a slot owns. -/
def StagedOutputSlot.Owned (slot : StagedOutputSlot) (s : DeviceState) : Prop :=
  slot.descriptorSet.isSome = slot.descriptorPool.isSome ∧ Custody slot.bundles slot.lending s

theorem triple_createComputeSlot {device : DeviceContext} {output : Nv12ComputeOutput}
    {pipeline : Option Nv12ComputePipeline} {sourceView : Option BufferView} {calls : SlotCalls} :
    Triple (Custody [] []) (createComputeSlot device output pipeline sourceView calls)
      (fun slot s => ¬ NoSet device output pipeline sourceView calls ∧ slot.Owned s)
      fun _ => Left (NoSet device output pipeline sourceView calls) [] [] := by
  refine .bind (triple_take.onError fun _ _ hs => .inr ⟨fun hno => ?_, hs.2⟩) fun made =>
    .of_fact fun hpipeline => ?_
  · obtain ⟨made, hmade, -⟩ := Option.map_eq_some_iff.mp hno.pipeline
    exact hs.1 made (orRefuse_ok.mpr hmade)
  obtain rfl := orRefuse_ok.mp hpipeline
  refine .bind (triple_take.onError fun _ _ hs => .inr ⟨fun hno => ?_, hs.2⟩) fun view =>
    .of_fact fun hview => ?_
  · obtain ⟨view, hview⟩ := Option.isSome_iff_exists.mp hno.sourceView
    exact hs.1 view (orRefuse_ok.mpr hview)
  obtain rfl := orRefuse_ok.mp hview
  refine .bind (.failWhen fun s hs hne => .inr ⟨fun hno => ?_, hs⟩) fun _ => ?_
  · exact bne_iff_ne.mp hne (Option.some.inj hno.pipeline)
  have houtput {s : DeviceState} (hs : Custody [] [] s ∧ (made.output != output) = false) :
      made.output = output ∧ Custody [] [] s := ⟨by simpa using hs.2, hs.1⟩
  refine .conseq (.of_fact fun houtput => ?_) (fun _ hs => houtput hs) (fun _ _ hs => hs)
    fun _ _ hs => hs
  refine .bind (triple_createComputeResources.onError fun _ _ hs =>
    .inr ⟨fun hno => hs.1 hno.made, hs.2⟩) fun resources => .of_fact fun hmade => ?_
  have hno : calls.descriptorPool = none ∧ calls.descriptorSets = .ok .empty ↔
      NoSet device output (some made) (some view) calls :=
    ⟨fun h => ⟨congrArg some houtput, rfl, hmade, h.1, h.2⟩, fun h => ⟨h.pool, h.sets⟩⟩
  refine .bind (.onFailure triple_createStagedSet fun _ => triple_dropLeft hno) fun set =>
    .of_fact fun hset => ?_
  refine .bind (.onFailure (triple_take.onError fun _ _ hs => hs.2) fun _ => ?_) fun _ =>
    .of_fact fun _ => .pure fun s hs => ⟨fun h => hset (hno.mpr h), rfl, ?_⟩
  rotate_left
  · rw [List.append_nil] at hs
    exact hs
  refine .bind triple_destroyLast fun _ => ?_
  exact triple_dropResources.onOk fun _ _ hs =>
    .inr ⟨fun h => hset (hno.mpr h), hs.forget (List.nil_subset _)⟩

/-- The output of a compute strategy. -/
def computeOutput : Nv12ImportStrategy → Option Nv12ComputeOutput
  | .linearBufferToRgba => some .rgba
  | .linearBufferToYuvPlanes => some .yuvPlanes
  | _ => none

/-- The pool is left behind: the slot is filled by a pipeline, and its list of sets is
empty. -/
def LosesPool (device : DeviceContext) (strategy : Nv12ImportStrategy)
    (pipeline : Option Nv12ComputePipeline) (sourceView : Option BufferView)
    (calls : SlotCalls) : Prop :=
  ∃ output, computeOutput strategy = some output ∧ NoSet device output pipeline sourceView calls

/-- A slot that is filled by copies has no pool to lose. -/
theorem triple_createTransferSlot {device : DeviceContext} {strategy : Nv12ImportStrategy}
    {pipeline : Option Nv12ComputePipeline} {sourceView : Option BufferView} {calls : SlotCalls}
    (hnone : computeOutput strategy = none) :
    Triple (Custody [] [])
      (do
        failWhen (pipeline.isSome || sourceView.isSome)
          "Vulkan NV12 transfer output must not carry compute resources"
        let resources ← createTransferResources device strategy calls
        return (⟨none, none, resources⟩ : StagedOutputSlot))
      (fun slot s => ¬ LosesPool device strategy pipeline sourceView calls ∧ slot.Owned s)
      fun _ => Left (LosesPool device strategy pipeline sourceView calls) [] [] := by
  have hno : ¬ LosesPool device strategy pipeline sourceView calls := by
    rintro ⟨output, hsome, -⟩
    cases hnone.symm.trans hsome
  refine .bind (.failWhen fun _ hs _ => .inr ⟨hno, hs⟩) fun _ => ?_
  refine .bind (triple_createTransferResources.conseq (fun _ hs => hs.1) (fun _ _ hs => hs)
    fun _ _ hs => .inr ⟨hno, hs⟩) fun resources => .pure fun s hs => ⟨hno, rfl, ?_⟩
  rw [List.append_nil] at hs
  exact hs

theorem triple_createStagedOutputSlot {device : DeviceContext} {strategy : Nv12ImportStrategy}
    {pipeline : Option Nv12ComputePipeline} {sourceView : Option BufferView} {calls : SlotCalls} :
    Triple (Custody [] []) (createStagedOutputSlot device strategy pipeline sourceView calls)
      (fun slot s => ¬ LosesPool device strategy pipeline sourceView calls ∧ slot.Owned s)
      fun _ => Left (LosesPool device strategy pipeline sourceView calls) [] [] := by
  have hcompute {output : Nv12ComputeOutput} (houtput : computeOutput strategy = some output) :
      NoSet device output pipeline sourceView calls ↔
        LosesPool device strategy pipeline sourceView calls := by
    refine ⟨fun h => ⟨output, houtput, h⟩, ?_⟩
    rintro ⟨other, hother, h⟩
    cases houtput.symm.trans hother
    exact h
  cases strategy with
  | directSampledImage =>
      have hno : ¬ LosesPool device .directSampledImage pipeline sourceView calls :=
        fun ⟨_, hsome, _⟩ => nomatch hsome
      refine .bind (triple_take.onError fun _ _ hs => .inr ⟨hno, hs.2⟩) fun _ =>
        .of_fact fun _ => ?_
      refine .bind (triple_take.onError fun _ _ hs => .inr ⟨hno, hs.2⟩) fun _ =>
        .of_fact fun _ => ?_
      exact .throw fun s hs => .inr ⟨hno, hs⟩
  | directImageToOptimalYuvPlanes => exact triple_createTransferSlot rfl
  | linearBufferToOptimalNv12 => exact triple_createTransferSlot rfl
  | linearBufferToOptimalYuvPlanes => exact triple_createTransferSlot rfl
  | linearBufferToYuvPlanes =>
      rw [← hcompute rfl]
      exact triple_createComputeSlot
  | linearBufferToRgba =>
      rw [← hcompute rfl]
      exact triple_createComputeSlot

/-- What the drop of a packed slot ends. -/
def PackedOutputSlot.bundles (slot : PackedOutputSlot) : List (List Handle) :=
  [[slot.descriptorPool], slot.storageView :: slot.sampled.bundle]

theorem triple_allocatePackedSet {pool : Handle} {sets : Except VkError Listed} :
    Triple (Custody ([pool] :: owned) lent) (allocatePackedSet pool sets)
      (fun set => Custody ([pool] :: owned) ((set, pool) :: lent))
      fun _ => Custody owned lent := by
  cases sets with
  | error e => exact .bind triple_destroyLast fun _ => .throw fun s hs => hs
  | ok listed =>
      refine .bind triple_lendList fun made => .of_fact fun _ => ?_
      refine (Triple.onFailure triple_take fun _ => ?_).onOk fun set s hs =>
        hs.2.first (orRefuse_ok.mp hs.1)
      refine .of_fact fun _ => triple_destroyLast.onOk fun _ s hs => ?_
      exact hs.forget (List.subset_append_right _ _)

theorem triple_createPackedSet {calls : SlotCalls} :
    Triple (Custody owned lent) (createPackedSet calls)
      (fun made => Custody ([made.1] :: owned) ((made.2, made.1) :: lent))
      fun _ => Custody owned lent := by
  refine .bind (triple_createRoot.onError fun _ _ hs => hs.2) fun pool => .of_fact fun _ => ?_
  exact .bind triple_allocatePackedSet fun set => .pure fun s hs => hs

theorem triple_createPackedOutputSlot {device : DeviceContext} {calls : SlotCalls} :
    Triple (Custody owned lent) (createPackedOutputSlot device calls)
      (fun slot => Custody (slot.bundles ++ owned)
        ((slot.descriptorSet, slot.descriptorPool) :: lent))
      fun _ => Custody owned lent := by
  refine .bind (triple_createViewedImage.onError fun _ _ hs => hs.2) fun made =>
    .of_fact fun _ => ?_
  refine .bind (.onFailure triple_createPackedSet fun _ => ?_) fun set => .pure fun s hs => hs
  exact .bind triple_destroy fun _ => triple_dropImage

/-! ## Pipelines -/

/-- The first handle is destroyed first. -/
def ComputePipeline.bundle (p : ComputePipeline) : List Handle :=
  [p.pipeline, p.pipelineLayout, p.descriptorSetLayout]

theorem triple_makeList {kind : HandleKind} {parents : List Handle} {listed : Listed}
    (hparents : ∀ p ∈ parents, p ∈ b) :
    Triple (Custody (b :: owned) lent) (makeList kind parents listed)
      (fun hs s => hs.length ≤ 1 ∧ Custody ((hs ++ b) :: owned) lent s) E := by
  cases listed with
  | empty => exact .pure fun s hs => ⟨Nat.zero_le _, hs⟩
  | one => exact .bind (triple_make hparents) fun h => .pure fun s hs => ⟨Nat.le_refl _, hs⟩

/-- The first handles of the newest bundle, in order. -/
theorem triple_destroyAll {hs : List Handle} :
    Triple (Custody ((hs ++ b) :: owned) lent) (hs.forM destroy : Effect DeviceState ε PUnit)
      (fun _ => Custody (b :: owned) lent) E := by
  induction hs with
  | nil => exact .pure fun s hs => hs
  | cons h hs ih => exact .bind triple_destroy fun _ => ih

/-- The shader goes, whether there is a pipeline or not. -/
theorem triple_createPipelineOf {name : String} {setLayout layout shader : Handle}
    {calls : PipelineCalls} :
    Triple (Custody ([shader] :: [layout, setLayout] :: owned) lent)
      (createPipelineOf name layout shader calls)
      (fun pipeline => Custody ([pipeline, layout, setLayout] :: owned) lent)
      fun _ => Custody ([setLayout] :: owned) lent := by
  refine .bind ((triple_makeList (b := [layout, setLayout]) (by simp)).conseq
    (fun _ hs => hs.perm (List.Perm.swap _ _ _)) (fun _ _ hs => hs) fun _ _ hs => hs)
    fun made => .of_fact fun hlength => ?_
  refine .bind (triple_destroyLast.conseq (fun _ hs => hs.perm (List.Perm.swap _ _ _))
    (fun _ _ hs => hs) fun _ _ hs => hs) fun _ => ?_
  cases calls.pipelinesFailure with
  | some e =>
      refine .bind triple_destroyAll fun _ => .bind triple_destroy fun _ => ?_
      exact .throw fun s hs => hs
  | none =>
      cases made with
      | nil =>
          refine (Triple.onFailure triple_take fun _ => .of_fact fun _ => triple_destroy).onOk
            fun _ _ hs => nomatch hs.1
      | cons p rest =>
          obtain rfl : rest = [] := List.eq_nil_of_length_eq_zero (by simpa using hlength)
          refine (Triple.onFailure (triple_take.onError fun e s hs => ?_) fun _ =>
            triple_destroy).onOk fun q s hs => ?_
          · exact absurd rfl (hs.1 p)
          · cases hs.1
            exact hs.2

theorem triple_createPipeline {name : String} {size : Nat} {setLayout : Handle}
    {calls : PipelineCalls} :
    Triple (Custody ([setLayout] :: owned) lent) (createPipeline name size setLayout calls)
      (fun p => Custody (p.bundle :: owned) lent) fun _ => Custody ([setLayout] :: owned) lent := by
  refine .bind (.failWhen fun _ hs _ => hs) fun _ => ?_
  refine .bind ((triple_create (b := [setLayout]) (by simp)).conseq (fun _ hs => hs.1)
    (fun _ _ hs => hs) fun _ _ hs => hs.2) fun layout => .of_fact fun _ => ?_
  refine .bind (.onFailure triple_take fun _ => .of_fact fun _ => triple_destroy) fun words =>
    .of_fact fun _ => ?_
  refine .bind (.onFailure triple_createRoot fun _ => .of_fact fun _ => triple_destroy)
    fun shader => .of_fact fun _ => ?_
  exact .bind triple_createPipelineOf fun pipeline => .pure fun s hs => hs

theorem triple_newComputePipeline {name : String} {size : Nat} {calls : PipelineCalls} :
    Triple (Custody owned lent) (ComputePipeline.new name size calls)
      (fun p => Custody (p.bundle :: owned) lent) fun _ => Custody owned lent :=
  .bind (triple_createRoot.onError fun _ _ hs => hs.2) fun _ => .of_fact fun _ =>
    .onFailure triple_createPipeline fun _ => triple_destroyLast

theorem triple_newNv12ComputePipeline {output : Nv12ComputeOutput} {calls : PipelineCalls} :
    Triple (Custody owned lent) (Nv12ComputePipeline.new output calls)
      (fun p => Custody (p.pipeline.bundle :: owned) lent) fun _ => Custody owned lent :=
  .bind triple_newComputePipeline fun _ => .pure fun _ hs => hs

/-! ## Lanes -/

/-- The pool of timestamps, if there is one. -/
def queryBundle (query : Option TimestampQuery) : List (List Handle) :=
  query.toList.map fun query => [⟨.queryPool, query.pool⟩]

/-- What the drop of a lane ends. -/
def SyncLane.bundles (lane : SyncLane) : List (List Handle) :=
  queryBundle lane.lane.timestampQuery ++
    [[lane.releaseFence], [lane.acquireFence], [lane.releasePool], [lane.acquirePool]]

/-- The command buffers of a lane, with their pools. -/
def SyncLane.lending (lane : SyncLane) : List (Handle × Handle) :=
  [(lane.releaseCommand, lane.releasePool), (lane.acquireCommand, lane.acquirePool)]

theorem triple_allocateCommand {pool : Handle} {label : String}
    {commands : Except VkError Listed} :
    Triple (Custody ([pool] :: owned) lent) (allocateCommand pool label commands)
      (fun command => Custody ([pool] :: owned) ((command, pool) :: lent))
      fun _ => Custody ([pool] :: owned) lent := by
  cases commands with
  | error e => exact .throw fun s hs => hs
  | ok listed =>
      refine .bind triple_lendList fun made => .of_fact fun _ => ?_
      refine (triple_take.onOk fun _ _ hs => hs.2.first (orRefuse_ok.mp hs.1)).onError
        fun _ _ hs => hs.2.forget (List.subset_append_right _ _)

theorem triple_reportVideoGpuTiming {status : String} {E : SyncError → DeviceState → Prop} :
    Triple (Custody owned lent) (reportVideoGpuTiming status) (fun _ => Custody owned lent) E :=
  fun _ hs => ⟨hs.ledger, hs.numbered, hs.lent⟩

theorem triple_createTimestampQuery {device : DeviceContext} {failure : Option VkError} :
    Triple (Custody owned lent) (createTimestampQuery device failure)
      (fun query => Custody (queryBundle query ++ owned) lent) fun _ => Custody owned lent := by
  have hnone (status : String) : Triple (Custody owned lent)
      (do
        reportVideoGpuTiming status
        return (none : Option TimestampQuery))
      (fun query => Custody (queryBundle query ++ owned) lent) fun _ => Custody owned lent :=
    .bind triple_reportVideoGpuTiming fun _ => .pure fun s hs => hs
  rw [createTimestampQuery]
  split
  case h_2 => exact hnone "unsupported"
  split
  case h_1 =>
      refine .bind (triple_kind triple_makeRoot) fun pool => .of_fact fun hkind => ?_
      refine .bind triple_reportVideoGpuTiming fun _ => .pure fun s hs => ?_
      cases pool
      cases hkind
      exact hs
  case h_2 | h_3 => exact hnone "failed"
  case h_4 =>
      refine .bind (Q := fun _ => Custody owned lent) ?_ fun _ => .throw fun s hs => hs
      exact fun s hs => ⟨hs.ledger, hs.numbered, hs.lent⟩
  case h_5 => exact .throw fun s hs => hs

theorem triple_newLane {device : DeviceContext} {acquirePool releasePool : Handle}
    {calls : SyncCalls} :
    Triple (Custody [[releasePool], [acquirePool]] [])
      (newLane device acquirePool releasePool calls) (fun lane => Custody lane.bundles lane.lending)
      fun _ => Custody [[releasePool], [acquirePool]] [] := by
  refine .bind (.adapt (triple_allocateCommand.conseq (fun _ hs => hs.perm (List.Perm.swap _ _ _))
    (fun _ _ hs => hs) fun _ _ hs => hs.perm (List.Perm.swap _ _ _))) fun acquireCommand => ?_
  refine .bind (.adapt (triple_allocateCommand.conseq (fun _ hs => hs.perm (List.Perm.swap _ _ _))
    (fun _ _ hs => hs) fun _ _ hs => hs.forget (List.nil_subset _))) fun releaseCommand => ?_
  refine .bind (triple_createRoot.onError fun _ _ hs => hs.2.forget (List.nil_subset _))
    fun acquireFence => .of_fact fun _ => ?_
  refine .bind (.onFailure triple_createRoot fun _ => .of_fact fun _ =>
    triple_destroyLast.onOk fun _ _ hs => hs.forget (List.nil_subset _))
    fun releaseFence => .of_fact fun _ => ?_
  have hquery : Triple (Custody ([releaseFence] :: [acquireFence] :: [[releasePool], [acquirePool]])
        [(releaseCommand, releasePool), (acquireCommand, acquirePool)])
      (if device.videoGpuTimingEnabled then createTimestampQuery device calls.queryPool
        else return none)
      (fun query => Custody (queryBundle query ++
          [[releaseFence], [acquireFence], [releasePool], [acquirePool]])
        [(releaseCommand, releasePool), (acquireCommand, acquirePool)])
      fun _ => Custody ([releaseFence] :: [acquireFence] :: [[releasePool], [acquirePool]])
        [(releaseCommand, releasePool), (acquireCommand, acquirePool)] := by
    cases device.videoGpuTimingEnabled with
    | true => exact triple_createTimestampQuery
    | false => exact .pure fun s hs => hs
  refine .bind (.onFailure hquery fun _ => ?_) fun query => .pure fun s hs => hs
  refine .bind triple_destroyLast fun _ => triple_destroyLast.onOk fun _ _ hs => ?_
  exact hs.forget (List.nil_subset _)

theorem triple_newSyncLane {device : DeviceContext} {calls : SyncCalls} :
    Triple (Custody [] []) (SyncLane.new device calls)
      (fun lane => Custody lane.bundles lane.lending) fun _ => Custody [] [] := by
  refine .bind (.adapt (triple_createRoot.onError fun _ _ hs => hs.2)) fun acquirePool =>
    .of_fact fun _ => ?_
  refine .bind (.onFailure (.adapt (triple_createRoot.onError fun _ _ hs => hs.2)) fun _ =>
    triple_destroyLast) fun releasePool => .of_fact fun _ => ?_
  exact .onFailure triple_newLane fun _ => .bind triple_destroyLast fun _ => triple_destroyLast

/-! ## Runs -/

theorem custody_new (next : Nat) : Custody [] [] (.new next) :=
  ⟨.nil, fun _ _ _ he => absurd he List.not_mem_nil, fun _ _ hmem => absurd hmem List.not_mem_nil⟩

/-- What is owned when a constructor returns was not destroyed. -/
theorem Custody.alive {handles : List Handle} (hs : Custody owned lent s)
    (hhandles : ∀ h ∈ handles, h ∈ owned.flatten ∨ ∃ pool ∈ owned.flatten, (h, pool) ∈ lent) :
    ∀ h ∈ handles, Alive s.events h := by
  intro h hh
  rcases hhandles h hh with howned | ⟨pool, hpool, hlent⟩
  · exact hs.ledger.alive howned
  · exact hs.ledger.alive_lent (hs.lent h pool hlent) hpool

/-- A constructor that owns nothing when it fails. -/
theorem leaksNothing_outcome {x : Effect DeviceState ε α} {handles : α → List Handle}
    {bundles : α → List (List Handle)} {lending : α → List (Handle × Handle)} {next : Nat}
    (hx : Triple (Custody [] []) x (fun a => Custody (bundles a) (lending a))
      fun _ => Custody [] [])
    (hhandles : ∀ a, ∀ h ∈ handles a,
      h ∈ (bundles a).flatten ∨ ∃ pool ∈ (bundles a).flatten, (h, pool) ∈ lending a) :
    LeaksNothing (outcome x handles next) := by
  have hpost := hx _ (custody_new next)
  rw [outcome]
  match x.exec (.new next), hpost with
  | (.ok a, s), hpost => exact hpost.alive (hhandles a)
  | (.error e, s), hpost => exact hpost.ledger.leavesNothing

theorem mem_bundles_resources {resources : StagedOutputResources} {h : Handle}
    (hh : h ∈ resources.handles) : h ∈ resources.bundles.flatten := by
  cases resources <;>
    simpa [StagedOutputResources.handles, StagedOutputResources.bundles, ImageAllocation.handles,
      ImageAllocation.bundle] using hh

theorem StagedOutputSlot.Owned.alive {slot : StagedOutputSlot} (hs : slot.Owned s) :
    ∀ h ∈ slot.handles, Alive s.events h := by
  obtain ⟨pool, set, resources⟩ := slot
  refine hs.2.alive fun h hh => ?_
  rcases List.mem_append.mp hh with hh | hh
  · have hboth : set.isSome = pool.isSome := hs.1
    cases pool with
    | none =>
        obtain rfl : set = none := Option.isNone_iff_eq_none.mp (by simpa using hboth)
        cases hh
    | some pool =>
        obtain ⟨set, rfl⟩ := Option.isSome_iff_exists.mp hboth
        rcases List.mem_cons.mp hh with rfl | hh
        · exact .inl (.head _)
        · cases List.mem_singleton.mp hh
          exact .inr ⟨pool, .head _, .head _⟩
  · refine .inl ?_
    rw [StagedOutputSlot.bundles, List.flatten_append]
    exact List.mem_append_right _ (mem_bundles_resources hh)

/-- The constructor call loses the pool of its slot. -/
def Constructor.LosesPool (device : DeviceContext) : Constructor → Prop
  | createStagedOutputSlot strategy pipeline sourceView calls =>
    Construction.LosesPool device strategy pipeline sourceView calls
  | _ => False

theorem PackedOutputSlot.mem_bundles (slot : PackedOutputSlot) {h : Handle}
    (hh : h ∈ slot.handles) : h ∈ (slot.bundles ++ []).flatten ∨
      ∃ pool ∈ (slot.bundles ++ []).flatten,
        (h, pool) ∈ [(slot.descriptorSet, slot.descriptorPool)] := by
  simp only [PackedOutputSlot.handles, ImageAllocation.handles, List.mem_cons, List.not_mem_nil,
    or_false] at hh
  rcases hh with rfl | rfl | hh
  · exact .inl (.head _)
  · exact .inr ⟨_, .head _, .head _⟩
  · exact .inl (by simpa [PackedOutputSlot.bundles, ImageAllocation.bundle] using .inr hh)

theorem mem_bundle_pipeline {p : ComputePipeline} {h : Handle} (hh : h ∈ p.handles) :
    h ∈ ([p.bundle] : List (List Handle)).flatten := by
  simp only [ComputePipeline.handles, List.mem_cons, List.not_mem_nil, or_false] at hh
  rcases hh with rfl | rfl | rfl <;> simp [ComputePipeline.bundle]

theorem SyncLane.mem_bundles (lane : SyncLane) {h : Handle} (hh : h ∈ lane.handles) :
    h ∈ lane.bundles.flatten ∨ ∃ pool ∈ lane.bundles.flatten, (h, pool) ∈ lane.lending := by
  rcases List.mem_append.mp hh with hh | hh
  · simp only [List.mem_cons, List.not_mem_nil, or_false] at hh
    rcases hh with rfl | rfl | rfl | rfl | rfl | rfl
    case inr.inl => exact .inr ⟨lane.acquirePool, by simp [bundles], .tail _ (.head _)⟩
    case inr.inr.inr.inl => exact .inr ⟨lane.releasePool, by simp [bundles], .head _⟩
    all_goals exact .inl (by simp [bundles])
  · obtain ⟨query, hquery, rfl⟩ := List.mem_map.mp hh
    refine .inl ?_
    rw [bundles, List.flatten_append]
    have hmem : [⟨.queryPool, query.pool⟩] ∈ queryBundle lane.lane.timestampQuery :=
      List.mem_map.mpr ⟨query, hquery, rfl⟩
    exact List.mem_append_left _ (List.mem_flatten.mpr ⟨_, hmem, .head _⟩)

/-- A slot that fails leaves its pool exactly when it loses it. -/
theorem leaksNothing_createStagedOutputSlot {device : DeviceContext}
    {strategy : Nv12ImportStrategy} {pipeline : Option Nv12ComputePipeline}
    {sourceView : Option BufferView} {calls : SlotCalls} {next : Nat} :
    LeaksNothing (outcome (createStagedOutputSlot device strategy pipeline sourceView calls)
        (·.handles) next) ↔
      ¬ LosesPool device strategy pipeline sourceView calls := by
  have hslot : Triple (Custody [] [])
      (createStagedOutputSlot device strategy pipeline sourceView calls)
      (fun slot s => ¬ LosesPool device strategy pipeline sourceView calls ∧ slot.Owned s)
      fun _ => Left (LosesPool device strategy pipeline sourceView calls) [] [] :=
    triple_createStagedOutputSlot
  have hpost := hslot _ (custody_new next)
  rw [outcome]
  match (createStagedOutputSlot device strategy pipeline sourceView calls).exec (.new next),
    hpost with
  | (.ok slot, s), hpost => exact iff_of_true hpost.2.alive hpost.1
  | (.error e, s), .inl ⟨hloses, pool, hs⟩ =>
      exact iff_of_false (hs.ledger.not_leavesNothing (.head _)) fun h => h hloses
  | (.error e, s), .inr ⟨hloses, hs⟩ => exact iff_of_true hs.ledger.leavesNothing hloses

end

/-- **A constructor that fails has ended what it made, and one that succeeds has ended
nothing of what it returns, but for a compute slot that is given no descriptor set: its
pool is left.** -/
theorem constructors_leak_nothing (device : DeviceContext) (next : Nat) (c : Constructor) :
    LeaksNothing (c.run device next) ↔ ¬ c.LosesPool device := by
  cases c with
  | createStagedOutputSlot strategy pipeline sourceView calls =>
      exact leaksNothing_createStagedOutputSlot
  | createPackedOutputSlot calls =>
      refine iff_of_true (leaksNothing_outcome triple_createPackedOutputSlot fun slot h hh =>
        slot.mem_bundles hh) id
  | createImportedBuffer sourceFd bufferSize allocationSize calls =>
      exact iff_of_true (leaksNothing_outcome triple_createImportedBuffer fun a h hh =>
        .inl (by simpa [BufferAllocation.handles, BufferAllocation.bundle] using hh)) id
  | createDirectImage sourceSize calls =>
      exact iff_of_true (leaksNothing_outcome triple_createDirectImage fun a h hh =>
        .inl (by simpa [ImageAllocation.handles, ImageAllocation.bundle] using hh)) id
  | createLocalImage calls =>
      exact iff_of_true (leaksNothing_outcome ((triple_createLocalImage.onOk fun _ _ hs =>
        hs.2).onError fun _ _ hs => hs.2) fun a h hh =>
          .inl (by simpa [ImageAllocation.handles, ImageAllocation.bundle] using hh)) id
  | nv12ComputePipeline output calls =>
      exact iff_of_true (leaksNothing_outcome triple_newNv12ComputePipeline fun p h hh =>
        .inl (mem_bundle_pipeline hh)) id
  | packedComputePipeline calls =>
      exact iff_of_true (leaksNothing_outcome triple_newComputePipeline fun p h hh =>
        .inl (mem_bundle_pipeline hh)) id
  | importedImageSync calls =>
      exact iff_of_true (leaksNothing_outcome triple_newSyncLane fun lane h hh =>
        lane.mem_bundles hh) id

/-- A device with one memory type. -/
def sampleDevice : DeviceContext := ⟨⟨0⟩, 1, 0, [], none, false⟩

/-- Every call for a slot succeeds, and the list of sets is empty. -/
def emptySets : SlotCalls :=
  ⟨⟨none, ⟨4, 1⟩, none, none⟩, none, ⟨none, ⟨4, 1⟩, none, none⟩, none, none, .ok .empty⟩

/-- The pool of such a slot is made and never destroyed. -/
theorem empty_sets_leak :
    ¬ LeaksNothing (Constructor.run sampleDevice 0
      (.createStagedOutputSlot .linearBufferToRgba (some ⟨.rgba, ⟨⟨.descriptorSetLayout, 0⟩,
        ⟨.pipelineLayout, 1⟩, ⟨.pipeline, 2⟩⟩⟩) (some ⟨0⟩) emptySets)) := by
  intro hleft
  have hended := LeavesNothing.ended hleft ⟨.descriptorPool, 3⟩ [] (by decide)
  revert hended
  decide

end VideoInterop.Vulkan.Construction
