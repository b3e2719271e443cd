import VideoInterop.Vulkan.CacheRuns
import VideoInterop.Vulkan.Importer
import VideoInterop.Vulkan.Lane
import VideoInterop.Vulkan.PoolRuns

/-!
# Import variants

An import's strategy says what its source, its slot and its operation must be.  A
source is found under a key that names the strategy, and a slot by a spec that does,
so what the caches and pools hold serves the strategies it is held for:
`ImporterInv`.  Every import keeps this, and the parts of an image it returns serve
one strategy: `ImportedKind.Consistent`.  Such an image never stops the program.
-/

namespace VideoInterop.Vulkan

open VideoInterop (Effect)
open VideoInterop.Effect (Triple Post)

/-! ## What serves a strategy -/

/-- The output of the pipeline of a compute strategy. -/
def Nv12ImportStrategy.output : Nv12ImportStrategy → Option Nv12ComputeOutput
  | .linearBufferToRgba => some .rgba
  | .linearBufferToYuvPlanes => some .yuvPlanes
  | _ => none

/-- The allocation a strategy reads. -/
def CachedNv12SourceAllocation.Serves (strategy : Nv12ImportStrategy) :
    CachedNv12SourceAllocation → Prop
  | .direct _ => strategy = .directSampledImage ∨ strategy = .directImageToOptimalYuvPlanes
  | .compute _ _ => strategy.output.isSome
  | .transfer _ =>
      strategy = .linearBufferToOptimalNv12 ∨ strategy = .linearBufferToOptimalYuvPlanes

/-- The allocation a packed strategy reads. -/
def PackedSourceAllocation.Serves (strategy : PackedImageImportStrategy) :
    PackedSourceAllocation → Prop
  | .direct _ => strategy = .directSampledImage
  | .staged _ _ => strategy = .linearBufferToOptimalBgra

/-- The resources of a slot that a strategy fills.  A pipeline writes through the
views of a slot that its descriptor set is pointed at. -/
def StagedOutputSlot.Serves (strategy : Nv12ImportStrategy) (slot : StagedOutputSlot) : Prop :=
  match slot.resources with
  | .rgba _ _ => strategy = .linearBufferToRgba ∧ slot.descriptorSet.isSome
  | .yuvPlanes _ _ _ _ => strategy = .linearBufferToYuvPlanes ∧ slot.descriptorSet.isSome
  | .nv12 _ => strategy = .linearBufferToOptimalNv12
  | .transferYuvPlanes _ _ =>
    strategy = .directImageToOptimalYuvPlanes ∨ strategy = .linearBufferToOptimalYuvPlanes

/-- The operation of a staging by a strategy. -/
def StagedNv12Operation.Serves (strategy : Nv12ImportStrategy) : StagedNv12Operation → Prop
  | .compute pipeline _ => strategy.output = some pipeline.output
  | .bufferTransfer _ =>
    strategy = .linearBufferToOptimalNv12 ∨ strategy = .linearBufferToOptimalYuvPlanes
  | .imageTransfer => strategy = .directImageToOptimalYuvPlanes

/-- The parts of an image serve one strategy. -/
inductive ImportedKind.Consistent : ImportedKind → Prop
  | directPacked {source : PackedSourceLease}
      (h : source.source.allocation.Serves .directSampledImage) : Consistent (.directPacked source)
  | directBgraScanout {sampled : ImageAllocation} : Consistent (.directBgraScanout sampled)
  | directNv12 {source : Nv12SourceLease}
      (h : source.source.allocation.Serves .directSampledImage) : Consistent (.directNv12 source)
  | stagedPacked {staged : StagedPacked}
      (h : staged.source.source.allocation.Serves .linearBufferToOptimalBgra) :
      Consistent (.stagedPacked staged)
  | stagedNv12 {staged : StagedNv12} (strategy : Nv12ImportStrategy)
      (hsource : staged.source.source.allocation.Serves strategy)
      (hslot : staged.output.slot.resources.Serves strategy)
      (hoperation : staged.operation.Serves strategy) : Consistent (.stagedNv12 staged)

/-! ## Consistent images -/

section
variable {imported : ImportedDmaBufImage} {strategy : Nv12ImportStrategy}

theorem CachedNv12SourceAllocation.Serves.direct {a : CachedNv12SourceAllocation}
    (h : a.Serves strategy)
    (hstrategy : strategy = .directSampledImage ∨ strategy = .directImageToOptimalYuvPlanes) :
    ∃ sampled, a = .direct sampled := by
  cases a with
  | direct sampled => exact ⟨sampled, rfl⟩
  | compute view source => rcases hstrategy with rfl | rfl <;> cases h
  | transfer source => rcases hstrategy with rfl | rfl <;> rcases h with h | h <;> cases h

/-- A strategy that reads a buffer has one. -/
theorem CachedNv12SourceAllocation.Serves.source {a : CachedNv12SourceAllocation}
    (h : a.Serves strategy)
    (hstrategy : strategy ≠ .directSampledImage ∧ strategy ≠ .directImageToOptimalYuvPlanes) :
    ∃ source, a.source = some source := by
  cases a with
  | direct sampled => exact (h.elim hstrategy.1 hstrategy.2).elim
  | compute view source => exact ⟨source, rfl⟩
  | transfer source => exact ⟨source, rfl⟩

/-- The images a pipeline writes. -/
def Nv12ComputeOutput.images : Nv12ComputeOutput → Nat
  | rgba => 1
  | yuvPlanes => 2

/-- A pipeline finds a descriptor set and a view for each image it writes. -/
theorem StagedOutputSlot.Serves.compute {slot : StagedOutputSlot} {output : Nv12ComputeOutput}
    (h : slot.Serves strategy) (houtput : strategy.output = some output) :
    ∃ set, slot.descriptorSet = some set ∧ ∃ views, storageViews slot.resources = .ok views ∧
      views.length = output.images := by
  obtain ⟨device, set, resources⟩ := slot
  cases resources with
  | rgba view sampled =>
    obtain ⟨rfl, hset⟩ := h
    cases houtput
    obtain ⟨set, rfl⟩ := Option.isSome_iff_exists.mp hset
    exact ⟨set, rfl, [view], rfl, rfl⟩
  | yuvPlanes lumaView luma chromaView chroma =>
    obtain ⟨rfl, hset⟩ := h
    cases houtput
    obtain ⟨set, rfl⟩ := Option.isSome_iff_exists.mp hset
    exact ⟨set, rfl, [lumaView, chromaView], rfl, rfl⟩
  | nv12 sampled =>
    cases h
    cases houtput
  | transferYuvPlanes luma chroma => rcases h with rfl | rfl <;> cases houtput

theorem StagedOutputSlot.Serves.bufferTransfer {slot : StagedOutputSlot} (h : slot.Serves strategy)
    (hstrategy : strategy = .linearBufferToOptimalNv12 ∨
      strategy = .linearBufferToOptimalYuvPlanes) :
    (∃ image, slot.sampledImages = .nv12 image) ∨
      ∃ luma chroma, slot.sampledImages = .yuvPlanes luma chroma := by
  obtain ⟨device, set, resources⟩ := slot
  cases resources with
  | rgba view sampled => rcases hstrategy with rfl | rfl <;> cases h.1
  | yuvPlanes lumaView luma chromaView chroma => rcases hstrategy with rfl | rfl <;> cases h.1
  | nv12 sampled => exact .inl ⟨_, rfl⟩
  | transferYuvPlanes luma chroma => exact .inr ⟨_, _, rfl⟩

theorem StagedOutputSlot.Serves.imageTransfer {slot : StagedOutputSlot}
    (h : slot.Serves .directImageToOptimalYuvPlanes) :
    ∃ luma chroma, slot.sampledImages = .yuvPlanes luma chroma := by
  obtain ⟨device, set, resources⟩ := slot
  cases resources with
  | rgba view sampled => cases h.1
  | yuvPlanes lumaView luma chromaView chroma => cases h.1
  | nv12 sampled => cases h
  | transferYuvPlanes luma chroma => exact ⟨_, _, rfl⟩

theorem PackedSourceAllocation.Serves.directImage {a : PackedSourceAllocation}
    (h : a.Serves .directSampledImage) : ∃ sampled, a.directImage = .ok sampled := by
  cases a with
  | direct sampled => exact ⟨sampled, rfl⟩
  | staged view source => cases h

theorem CachedNv12SourceAllocation.Serves.directImage {a : CachedNv12SourceAllocation}
    (h : a.Serves .directSampledImage) : ∃ sampled, a.directImage = .ok sampled := by
  obtain ⟨sampled, rfl⟩ := h.direct (.inl rfl)
  exact ⟨sampled, rfl⟩

theorem ImportedKind.Consistent.image (h : imported.kind.Consistent) :
    ∃ image, imported.image = .ok image := by
  obtain ⟨id, kind, dimensions, modifier⟩ := imported
  cases h with
  | directPacked h =>
    obtain ⟨sampled, hsampled⟩ := h.directImage
    exact ⟨sampled.image, by simp only [ImportedDmaBufImage.image, hsampled, Except.map]⟩
  | directBgraScanout => exact ⟨_, rfl⟩
  | directNv12 h =>
    obtain ⟨sampled, hsampled⟩ := h.directImage
    exact ⟨sampled.image, by simp only [ImportedDmaBufImage.image, hsampled, Except.map]⟩
  | stagedPacked h => exact ⟨_, rfl⟩
  | @stagedNv12 staged strategy hsource hslot hoperation =>
    obtain ⟨source, ⟨⟨slot, spec, device, set, resources⟩, lease⟩, operation⟩ := staged
    cases resources <;> exact ⟨_, rfl⟩

theorem ImportedKind.Consistent.device (h : imported.kind.Consistent) :
    ∃ device, imported.device = .ok device := by
  obtain ⟨id, kind, dimensions, modifier⟩ := imported
  cases h with
  | directPacked h =>
    obtain ⟨sampled, hsampled⟩ := h.directImage
    exact ⟨sampled.device, by simp only [ImportedDmaBufImage.device, hsampled, Except.map]⟩
  | directBgraScanout => exact ⟨_, rfl⟩
  | directNv12 h =>
    obtain ⟨sampled, hsampled⟩ := h.directImage
    exact ⟨sampled.device, by simp only [ImportedDmaBufImage.device, hsampled, Except.map]⟩
  | stagedPacked h => exact ⟨_, rfl⟩
  | stagedNv12 strategy hsource hslot hoperation => exact ⟨_, rfl⟩

/-- The recorder of a plan does not refuse it. -/
def AcquirePlan.Recorded (plan : AcquirePlan) : Prop :=
  ∀ family query, ∃ commands, recordPlan family .success plan query = .ok commands

theorem AcquirePlan.recorded_stagedTransfer {plan : StagedTransferPlan}
    (h : (∃ image, plan.output = .nv12 image) ∨
      ∃ luma chroma, plan.output = .yuvPlanes luma chroma) :
    (AcquirePlan.stagedTransfer plan).Recorded := by
  intro family query
  rcases h with ⟨image, h⟩ | ⟨luma, chroma, h⟩
  · exact ⟨_, by simp only [recordPlan, recordStagedTransferAcquire, transferCopies, h]; rfl⟩
  · exact ⟨_, by simp only [recordPlan, recordStagedTransferAcquire, transferCopies, h]; rfl⟩

theorem AcquirePlan.recorded_stagedImageTransfer {plan : StagedImageTransferPlan}
    (h : ∃ luma chroma, plan.output = .yuvPlanes luma chroma) :
    (AcquirePlan.stagedImageTransfer plan).Recorded := by
  obtain ⟨luma, chroma, h⟩ := h
  exact fun family query => ⟨_, by
    simp only [recordPlan, recordStagedImageTransferAcquire, separateOutputs, h]; rfl⟩

/-- A consistent image has a plan, and its recorder takes it. -/
theorem ImportedKind.Consistent.acquirePlan (h : imported.kind.Consistent) (initialized : Bool) :
    ∃ plan, imported.acquirePlan initialized = .ok plan ∧
      plan.isDirectImage = !imported.isStaged ∧ plan.Recorded := by
  obtain ⟨id, kind, dimensions, modifier⟩ := imported
  cases h with
  | directPacked h =>
    obtain ⟨sampled, hsampled⟩ := h.directImage
    refine ⟨.directImage sampled.image, ?_, rfl, fun _ _ => ⟨_, rfl⟩⟩
    simp only [ImportedDmaBufImage.acquirePlan, hsampled, Except.map]
  | directBgraScanout => exact ⟨_, rfl, rfl, fun _ _ => ⟨_, rfl⟩⟩
  | directNv12 h =>
    obtain ⟨sampled, hsampled⟩ := h.directImage
    refine ⟨.directImage sampled.image, ?_, rfl, fun _ _ => ⟨_, rfl⟩⟩
    simp only [ImportedDmaBufImage.acquirePlan, hsampled, Except.map]
  | @stagedPacked staged h =>
    obtain ⟨⟨⟨sourceId, allocation⟩, lease⟩, output, pipeline, pushConstants⟩ := staged
    cases allocation with
    | direct sampled => cases h
    | staged view source => exact ⟨_, rfl, rfl, fun _ _ => ⟨_, rfl⟩⟩
  | @stagedNv12 staged strategy hsource hslot hoperation =>
    obtain ⟨⟨⟨sourceId, allocation⟩, sourceLease⟩, ⟨⟨slotId, spec, slot⟩, lease⟩, operation⟩ :=
      staged
    cases operation with
    | compute pipeline pushConstants =>
      obtain ⟨set, hset, -⟩ : ∃ set, slot.descriptorSet = some set ∧ _ := hslot.compute hoperation
      have hcompute :
        strategy ≠ .directSampledImage ∧ strategy ≠ .directImageToOptimalYuvPlanes := by
        constructor <;> rintro rfl <;> cases hoperation
      obtain ⟨buffer, hbuffer⟩ : ∃ buffer, allocation.source = some buffer :=
        hsource.source hcompute
      refine ⟨.stagedCompute ⟨buffer.buffer, buffer.size, slot.sampledImages, initialized, set,
        pipeline.pipeline, .nv12 pushConstants, nv12Dispatch dimensions⟩, ?_, rfl,
        fun _ _ => ⟨_, rfl⟩⟩
      simp only [ImportedDmaBufImage.acquirePlan, ImportedDmaBufImage.nv12Plan, hset, hbuffer]
      rfl
    | bufferTransfer layout =>
      have htransfer : strategy ≠ .directSampledImage ∧
          strategy ≠ .directImageToOptimalYuvPlanes := by
        constructor <;> rintro rfl <;> rcases hoperation with h | h <;> cases h
      obtain ⟨buffer, hbuffer⟩ : ∃ buffer, allocation.source = some buffer :=
        hsource.source htransfer
      refine ⟨.stagedTransfer ⟨buffer.buffer, buffer.size, slot.sampledImages, initialized,
        dimensions, layout.planes⟩, ?_, rfl,
        AcquirePlan.recorded_stagedTransfer (hslot.bufferTransfer hoperation)⟩
      simp only [ImportedDmaBufImage.acquirePlan, ImportedDmaBufImage.nv12Plan, hbuffer]
      rfl
    | imageTransfer =>
      cases hoperation
      obtain ⟨sampled, rfl⟩ : ∃ sampled, allocation = .direct sampled := hsource.direct (.inr rfl)
      exact ⟨.stagedImageTransfer ⟨sampled.image, slot.sampledImages, initialized, dimensions⟩, rfl,
        rfl, AcquirePlan.recorded_stagedImageTransfer hslot.imageTransfer⟩

end

/-! ## What creation makes -/

section
variable {strategy : Nv12ImportStrategy} {device : Device}

theorem createCachedNv12Source_serves {span : UInt64} {calls : SourceCalls}
    {a : CachedNv12SourceAllocation} (h : createCachedNv12Source span strategy calls = .ok a) :
    a.Serves strategy := by
  cases strategy with
  | directSampledImage => cases h
  | directImageToOptimalYuvPlanes => cases h
  | linearBufferToOptimalNv12 =>
    obtain ⟨source, -, h⟩ := bind_ok.mp h
    cases h
    exact .inl rfl
  | linearBufferToOptimalYuvPlanes =>
    obtain ⟨source, -, h⟩ := bind_ok.mp h
    cases h
    exact .inr rfl
  | linearBufferToYuvPlanes =>
    obtain ⟨source, -, h⟩ := bind_ok.mp h
    obtain ⟨view, -, h⟩ := bind_ok.mp h
    cases h
    rfl
  | linearBufferToRgba =>
    obtain ⟨source, -, h⟩ := bind_ok.mp h
    obtain ⟨view, -, h⟩ := bind_ok.mp h
    cases h
    rfl

theorem createDirectNv12Source_serves {calls : SourceCalls} {a : CachedNv12SourceAllocation}
    (hstrategy : strategy = .directSampledImage ∨ strategy = .directImageToOptimalYuvPlanes)
    (h : createDirectNv12Source device calls = .ok a) : a.Serves strategy := by
  obtain ⟨sampled, -, h⟩ := bind_ok.mp h
  cases h
  exact hstrategy

theorem createPackedSource_serves {strategy : PackedImageImportStrategy} {size : UInt64}
    {calls : SourceCalls} {a : PackedSourceAllocation}
    (h : Importer.createPackedSource device size strategy calls = .ok a) : a.Serves strategy := by
  cases strategy with
  | directSampledImage =>
    simp only [Importer.createPackedSource, createDirectImage] at h
    cases himage : calls.image with
    | error e =>
      rw [himage] at h
      cases h
    | ok image =>
      rw [himage] at h
      cases h
      rfl
  | linearBufferToOptimalBgra =>
    obtain ⟨source, -, h⟩ := bind_ok.mp h
    obtain ⟨view, -, h⟩ := bind_ok.mp h
    cases h
    rfl

/-- A compute slot has its set and the resources for the output expected. -/
theorem createComputeSlot_ok {expected : Nv12ComputeOutput} {pipeline : Option Nv12ComputePipeline}
    {sourceView : Option BufferView} {calls : SlotCalls} {slot : StagedOutputSlot}
    (h : createComputeSlot device expected pipeline sourceView calls = .ok slot) :
    slot.descriptorSet.isSome ∧
      createComputeResources device expected calls = .ok slot.resources := by
  obtain ⟨pipeline, -, h⟩ := bind_ok.mp h
  obtain ⟨sourceView, -, h⟩ := bind_ok.mp h
  obtain ⟨-, -, h⟩ := bind_ok.mp h
  obtain ⟨resources, hresources, h⟩ := bind_ok.mp h
  obtain ⟨set, -, h⟩ := bind_ok.mp h
  obtain ⟨writes, -, h⟩ := bind_ok.mp h
  cases h
  exact ⟨rfl, hresources⟩

theorem createComputeResources_rgba {calls : SlotCalls} {resources : StagedOutputResources}
    (h : createComputeResources device .rgba calls = .ok resources) :
    ∃ view sampled, resources = .rgba view sampled := by
  obtain ⟨sampled, -, h⟩ := bind_ok.mp h
  obtain ⟨view, -, h⟩ := bind_ok.mp h
  cases h
  exact ⟨view, sampled, rfl⟩

theorem createComputeResources_yuvPlanes {calls : SlotCalls} {resources : StagedOutputResources}
    (h : createComputeResources device .yuvPlanes calls = .ok resources) :
    ∃ lumaView luma chromaView chroma, resources = .yuvPlanes lumaView luma chromaView chroma := by
  obtain ⟨luma, -, h⟩ := bind_ok.mp h
  obtain ⟨lumaView, -, h⟩ := bind_ok.mp h
  obtain ⟨chroma, -, h⟩ := bind_ok.mp h
  obtain ⟨chromaView, -, h⟩ := bind_ok.mp h
  cases h
  exact ⟨lumaView, luma, chromaView, chroma, rfl⟩

theorem createStagedOutputSlot_serves {pipeline : Option Nv12ComputePipeline}
    {sourceView : Option BufferView} {calls : SlotCalls} {slot : StagedOutputSlot}
    (h : createStagedOutputSlot device strategy pipeline sourceView calls = .ok slot) :
    slot.Serves strategy := by
  cases strategy with
  | directSampledImage =>
    obtain ⟨-, -, h⟩ := bind_ok.mp h
    obtain ⟨-, -, h⟩ := bind_ok.mp h
    cases h
  | directImageToOptimalYuvPlanes =>
    obtain ⟨-, -, h⟩ := bind_ok.mp h
    obtain ⟨resources, hresources, h⟩ := bind_ok.mp h
    obtain ⟨luma, -, hresources⟩ := bind_ok.mp hresources
    obtain ⟨chroma, -, hresources⟩ := bind_ok.mp hresources
    cases hresources
    cases h
    exact .inl rfl
  | linearBufferToOptimalNv12 =>
    obtain ⟨-, -, h⟩ := bind_ok.mp h
    obtain ⟨resources, hresources, h⟩ := bind_ok.mp h
    obtain ⟨sampled, -, hresources⟩ := bind_ok.mp hresources
    cases hresources
    cases h
    rfl
  | linearBufferToOptimalYuvPlanes =>
    obtain ⟨-, -, h⟩ := bind_ok.mp h
    obtain ⟨resources, hresources, h⟩ := bind_ok.mp h
    obtain ⟨luma, -, hresources⟩ := bind_ok.mp hresources
    obtain ⟨chroma, -, hresources⟩ := bind_ok.mp hresources
    cases hresources
    cases h
    exact .inr rfl
  | linearBufferToYuvPlanes =>
    obtain ⟨hset, hresources⟩ := createComputeSlot_ok h
    obtain ⟨lumaView, luma, chromaView, chroma, hslot⟩ :=
      createComputeResources_yuvPlanes hresources
    rw [StagedOutputSlot.Serves, hslot]
    exact ⟨rfl, hset⟩
  | linearBufferToRgba =>
    obtain ⟨hset, hresources⟩ := createComputeSlot_ok h
    obtain ⟨view, sampled, hslot⟩ := createComputeResources_rgba hresources
    rw [StagedOutputSlot.Serves, hslot]
    exact ⟨rfl, hset⟩

theorem stagedNv12Operation_serves {dimensions : UInt32 × UInt32} {layout : Nv12SharedObjectLayout}
    {conversion : Nv12Conversion} {pipeline : Option Nv12ComputePipeline}
    {operation : StagedNv12Operation}
    (hpipeline : ∀ p, pipeline = some p → strategy.output = some p.output)
    (h : Importer.stagedNv12Operation dimensions layout conversion pipeline strategy =
      .ok operation) : operation.Serves strategy := by
  have hcompute : ∀ {operation : StagedNv12Operation},
      (do
        let pipeline ← orRefuse pipeline "Vulkan compute NV12 staging is missing its pipeline"
        let pushConstants ← nv12PushConstants dimensions layout conversion
        return .compute pipeline pushConstants : Except String StagedNv12Operation) =
          .ok operation → operation.Serves strategy := by
    intro operation h
    obtain ⟨p, hp, h⟩ := bind_ok.mp h
    obtain ⟨constants, -, h⟩ := bind_ok.mp h
    cases h
    exact hpipeline p (orRefuse_ok.mp hp)
  cases strategy with
  | directSampledImage => cases h
  | directImageToOptimalYuvPlanes => cases h
  | linearBufferToOptimalNv12 =>
    obtain ⟨-, -, h⟩ := bind_ok.mp h
    cases h
    exact .inl rfl
  | linearBufferToOptimalYuvPlanes =>
    obtain ⟨-, -, h⟩ := bind_ok.mp h
    cases h
    exact .inr rfl
  | linearBufferToYuvPlanes => exact hcompute h
  | linearBufferToRgba => exact hcompute h

end

/-! ## Caches and pools -/

/-- Something holds of all entries of a cache. -/
def SourceCache.All {K A : Type} [DecidableEq K] (P : K → A → Prop) (c : SourceCache K A) : Prop :=
  ∀ {key source}, c.entries.fetch key = some source → P key source.allocation

section
variable {K A : Type} [DecidableEq K] [SourceKey K] {P : K → A → Prop} {c : SourceCache K A}
  (key : K) (generation : UInt64) (order : List K)

/-- An insertion keeps what holds of all entries, and of the new source. -/
theorem SourceCache.insert_keeps (source : CachedSource A) (hc : c.All P)
    (hsource : P key source.allocation) :
    (c.insert order key source generation).1.All P ∧
      ∀ lease, (c.insert order key source generation).2 = .ok lease →
        P key lease.source.allocation := by
  rcases c.insert_cases order key source generation with
    ⟨source', c', lease, hfetch, hclaim, hinsert⟩ | ⟨c', error, hevicted, hinsert⟩ |
    ⟨c', c'', lease, -, -, hevicted, -, hclaim, hinsert⟩
  · obtain ⟨-, hentries, -, rfl⟩ := claim_eq_some hclaim
    rw [hinsert]
    refine ⟨fun hkey => hc (hentries ▸ hkey), ?_⟩
    rintro lease ⟨⟩
    exact hc hfetch
  · rw [hinsert]
    exact ⟨fun hkey => hc (hevicted.kept hkey), nofun⟩
  · obtain ⟨-, hentries, -, rfl⟩ := claim_eq_some hclaim
    rw [hinsert]
    refine ⟨fun {key' source'} hkey => ?_, ?_⟩
    · change (c''.entries.put key source).fetch key' = _ at hkey
      rw [FMap.fetch_put, hentries] at hkey
      split at hkey
      · next heq =>
        cases hkey
        exact heq ▸ hsource
      · exact hc (hevicted.kept hkey)
    · rintro lease ⟨⟩
      exact hsource

/-- A claim keeps what holds of all entries, and of a source it makes. -/
theorem SourceCache.claimSource_keeps (created : Except String A) (hc : c.All P)
    (hcreated : ∀ a, created = .ok a → P key a) :
    (c.claimSource key generation order created).1.All P ∧
      ∀ lease, (c.claimSource key generation order created).2 = .ok lease →
        P key lease.source.allocation := by
  rcases c.lookup_cases key generation with ⟨source, c', lease, hfetch, hclaim, hlookup⟩ |
    ⟨error, hlookup⟩ | ⟨-, -, hlookup⟩
  · obtain ⟨-, hentries, -, rfl⟩ := claim_eq_some hclaim
    simp only [claimSource, hlookup]
    refine ⟨fun hkey => hc (hentries ▸ hkey), ?_⟩
    rintro lease ⟨⟩
    exact hc hfetch
  · simp only [claimSource, hlookup]
    exact ⟨hc, nofun⟩
  · simp only [claimSource, hlookup]
    cases created with
    | error error => exact ⟨hc, nofun⟩
    | ok a =>
      exact insert_keeps (c := (c.make a (SourceKey.firstUse K generation)).1) key generation order
        ⟨c.made, a⟩ hc (hcreated a rfl)

end

/-- A claim keeps what holds of all slots of a pool, and of a new slot. -/
theorem OutputPool.run_claim_keeps {S A : Type} [DecidableEq S] {P : S → A → Prop}
    {maxSlots : Nat} {pool : OutputPool S A} (hpool : PoolInv maxSlots pool)
    (hslots : ∀ slot ∈ pool.slots, P slot.spec slot.resources) (name : String) (spec : S)
    (update : A → Except String Unit) (created : Except String A)
    (hcreated : ∀ a, created = .ok a → P spec a) :
    let result := (claim name pool spec update created).run does pool
    PoolInv maxSlots result.2 ∧ (∀ slot ∈ result.2.slots, P slot.spec slot.resources) ∧
      ∀ lease, result.1 = .ok lease → lease.slot.spec = spec ∧ P spec lease.slot.resources := by
  have hsecured := secured_claim hpool name spec update created
  obtain ⟨history, hclaimed⟩ := hsecured.run
  have hkept : ∀ slot ∈ ((claim name pool spec update created).run does pool).2.slots,
      P slot.spec slot.resources := by
    intro slot hslot
    rcases hclaimed.slots slot hslot with hold | ⟨hspec, hnew⟩
    · exact hslots slot hold
    · exact hspec ▸ hcreated _ hnew
  refine ⟨hsecured.run_keeps (fun op s hs hmay => hs.does hmay) hpool, hkept, ?_⟩
  intro lease hlease
  obtain ⟨hspec, hmem, -⟩ := hclaimed.ok lease hlease
  exact ⟨hspec, hspec ▸ hkept _ hmem⟩

/-! ## Importers -/

/-- What the caches and pools of an importer hold serves what it is held for. -/
structure ImporterInv (w : Importer) : Prop where
  /-- A cached NV12 source serves the strategy of its key. -/
  nv12Sources : w.nv12SourceCache.All fun key a => a.Serves key.strategy
  /-- A cached packed source serves the strategy of its key. -/
  packedSources : w.packedSourceCache.All fun key a => a.Serves key.topology.strategy
  /-- The pool of NV12 outputs is in order. -/
  nv12Pool : ∃ maxSlots, PoolInv maxSlots w.nv12OutputPool
  /-- Its slots serve the strategies they were made for. -/
  nv12Slots : ∀ slot ∈ w.nv12OutputPool.slots, slot.resources.Serves slot.spec.2
  /-- The pool of packed outputs is in order. -/
  packedPool : ∃ maxSlots, PoolInv maxSlots w.packedOutputPool
  /-- The shader for RGBA writes RGBA. -/
  rgba : ∀ pipeline, w.nv12RgbaCompute = some pipeline → pipeline.output = .rgba
  /-- The shader for planes writes planes. -/
  planar : ∀ pipeline, w.nv12PlanarCompute = some pipeline → pipeline.output = .yuvPlanes

theorem computePipeline_output {capabilities : List Nv12ModifierCapability}
    {strategy : Nv12ImportStrategy} {output : Nv12ComputeOutput} {created : Except String Pipeline}
    {made : Option Nv12ComputePipeline}
    (h : computePipeline capabilities strategy output created = .ok made) :
    ∀ pipeline, made = some pipeline → pipeline.output = output := by
  rintro pipeline rfl
  rw [computePipeline] at h
  split at h
  · obtain ⟨p, hp, h⟩ := bind_ok.mp h
    cases h
    cases created with
    | error e => cases hp
    | ok created =>
      cases hp
      rfl
  · cases h

theorem ImporterInv.new {device : Device} {maxTexelBufferElements : UInt32}
    {limits : VulkanImportPoolLimits} {nextImportId : UInt64} {calls : NewCalls} {w : Importer}
    (h : Importer.new device maxTexelBufferElements limits nextImportId calls = .ok w) :
    ImporterInv w := by
  obtain ⟨-, -, h⟩ := bind_ok.mp h
  obtain ⟨capabilities, -, h⟩ := bind_ok.mp h
  obtain ⟨rgba, hrgba, h⟩ := bind_ok.mp h
  obtain ⟨planar, hplanar, h⟩ := bind_ok.mp h
  obtain ⟨packed, -, h⟩ := bind_ok.mp h
  cases h
  exact ⟨nofun, nofun, ⟨_, .new _⟩, nofun, ⟨_, .new _⟩, computePipeline_output hrgba,
    computePipeline_output hplanar⟩

namespace Importer

/-- A computation keeps the invariant, and a success meets a condition. -/
def Keeps {α : Type} (x : Effect Importer String α) (Q : α → Prop) : Prop :=
  Triple ImporterInv x (fun a w => ImporterInv w ∧ Q a) fun _ => ImporterInv

/-- A cleanup keeps the invariant and does not fail. -/
def Cleans (x : Effect Importer String Unit) : Prop :=
  Triple ImporterInv x (fun _ => ImporterInv) fun _ _ => False

namespace Keeps

variable {α β : Type} {x : Effect Importer String α} {Q Q' : α → Prop} {R : β → Prop}

theorem pure {a : α} (h : Q a) : Keeps (Pure.pure a) Q := Triple.pure fun _ hw => ⟨hw, h⟩

theorem throw {error : String} : Keeps (MonadExcept.throw error : Effect Importer String α) Q :=
  Triple.throw fun _ hw => hw

theorem bind {f : α → Effect Importer String β} (hx : Keeps x Q) (hf : ∀ a, Q a → Keeps (f a) R) :
    Keeps (x >>= f) R :=
  Triple.bind hx fun a w hw => hf a hw.2 w hw.1

theorem get : Keeps (MonadState.get : Effect Importer String Importer) ImporterInv :=
  fun _ hw => ⟨hw, hw⟩

theorem modify {f : Importer → Importer} (hf : ∀ w, ImporterInv w → ImporterInv (f w)) :
    Keeps (modify f) fun _ => True := fun w hw => ⟨hf w hw, trivial⟩

theorem take {result : Except String α} : Keeps (Importer.take result) fun a => result = .ok a := by
  cases result with
  | ok a => exact pure rfl
  | error error => exact throw

theorem onFailure {cleanup : Effect Importer String Unit} (hx : Keeps x Q) (hc : Cleans cleanup) :
    Keeps (Effect.onFailure x cleanup) Q :=
  Triple.onFailure hx fun _ => hc

end Keeps

/-! ## Imports -/

theorem exec_get (w : Importer) : (get : Effect Importer String Importer).exec w = (.ok w, w) := rfl

theorem exec_modify (f : Importer → Importer) (w : Importer) :
    (modify f : Effect Importer String Unit).exec w = (.ok (), f w) := rfl

theorem exec_take {α : Type} (result : Except String α) (w : Importer) :
    (take result).exec w = (result, w) := by
  cases result <;> rfl

theorem exec_claimCachedSource (streamIncarnation : UInt64) (sourceFd : Int32)
    (topology : Nv12FrameTopology) (strategy : Nv12ImportStrategy)
    (created : Except String CachedNv12SourceAllocation) (calls : Nv12ImportCalls) (w : Importer) :
    (claimCachedSource streamIncarnation sourceFd topology strategy created calls).exec w =
      match verifiedDmabufIdentity sourceFd topology.objectSize calls.probe with
      | .error e => (.error e.toString, w)
      | .ok identity =>
        let claimed := w.nv12SourceCache.claimSource
          ⟨⟨streamIncarnation, identity.device, identity.inode⟩, topology, strategy⟩
          w.sourceCacheClock calls.order created
        (claimed.2, { w with
          nv12SourceCache := claimed.1, sourceCacheClock := w.sourceCacheClock + 1 }) := by
  rw [claimCachedSource]
  simp only [Effect.exec_bind, exec_get, exec_modify, exec_take]
  cases verifiedDmabufIdentity sourceFd topology.objectSize calls.probe <;> rfl

theorem exec_claimNv12Output (dimensions : UInt32 × UInt32) (strategy : Nv12ImportStrategy)
    (pipeline : Option Nv12ComputePipeline) (sourceView : Option BufferView)
    (calls : Nv12ImportCalls) (w : Importer) :
    (claimNv12Output dimensions strategy pipeline sourceView calls).exec w =
      let claimed := (w.nv12OutputPool.claim dimensions strategy sourceView
        (fun slot view => (updateStagedDescriptorSet slot view).map fun _ => ())
        (createStagedOutputSlot w.device strategy pipeline sourceView calls.slot)).run
          OutputPool.does w.nv12OutputPool
      (claimed.1.mapError (·.toString), { w with nv12OutputPool := claimed.2 }) := by
  rw [claimNv12Output]
  simp only [Effect.exec_bind, exec_get, exec_modify, exec_take]

theorem exec_claimPackedOutput (dimensions : UInt32 × UInt32) (calls : PackedImportCalls)
    (w : Importer) :
    (claimPackedOutput dimensions calls).exec w =
      let claimed := (w.packedOutputPool.claim dimensions
        (createPackedOutputSlot w.device calls.slot)).run OutputPool.does w.packedOutputPool
      (claimed.1.mapError (·.toString), { w with packedOutputPool := claimed.2 }) := by
  rw [claimPackedOutput]
  simp only [Effect.exec_bind, exec_get, exec_modify, exec_take]

theorem keeps_takeImportId : Keeps takeImportId fun _ => True := by
  refine Keeps.get.bind fun w hw => ?_
  refine (Keeps.modify fun w hw => ?_).bind fun _ _ => Keeps.pure trivial
  exact ⟨hw.nv12Sources, hw.packedSources, hw.nv12Pool, hw.nv12Slots, hw.packedPool, hw.rgba,
    hw.planar⟩

theorem keeps_claimCachedSource {streamIncarnation : UInt64} {sourceFd : Int32}
    {topology : Nv12FrameTopology} {strategy : Nv12ImportStrategy}
    {created : Except String CachedNv12SourceAllocation} {calls : Nv12ImportCalls}
    (hcreated : ∀ a, created = .ok a → a.Serves strategy) :
    Keeps (claimCachedSource streamIncarnation sourceFd topology strategy created calls)
      fun lease => lease.source.allocation.Serves strategy := by
  intro w hw
  rw [exec_claimCachedSource]
  cases verifiedDmabufIdentity sourceFd topology.objectSize calls.probe with
  | error e => exact hw
  | ok identity =>
    obtain ⟨hsources, hlease⟩ := SourceCache.claimSource_keeps
      ⟨⟨streamIncarnation, identity.device, identity.inode⟩, topology, strategy⟩
      w.sourceCacheClock calls.order created hw.nv12Sources hcreated
    simp only
    generalize w.nv12SourceCache.claimSource _ _ _ _ = claimed at hsources hlease
    obtain ⟨cache, lease⟩ := claimed
    have hw' : ImporterInv { w with
        nv12SourceCache := cache, sourceCacheClock := w.sourceCacheClock + 1 } :=
      ⟨hsources, hw.packedSources, hw.nv12Pool, hw.nv12Slots, hw.packedPool, hw.rgba, hw.planar⟩
    cases lease with
    | error error => exact hw'
    | ok lease => exact ⟨hw', hlease lease rfl⟩

theorem keeps_claimNv12Output {dimensions : UInt32 × UInt32} {strategy : Nv12ImportStrategy}
    {pipeline : Option Nv12ComputePipeline} {sourceView : Option BufferView}
    {calls : Nv12ImportCalls} :
    Keeps (claimNv12Output dimensions strategy pipeline sourceView calls)
      fun lease => lease.slot.spec = (dimensions, strategy) ∧
        lease.slot.resources.Serves strategy := by
  intro w hw
  rw [exec_claimNv12Output]
  obtain ⟨maxSlots, hpool⟩ := hw.nv12Pool
  obtain ⟨hpool', hslots, hlease⟩ := OutputPool.run_claim_keeps
    (P := fun spec resources => resources.Serves spec.2) hpool hw.nv12Slots "NV12 output"
    (dimensions, strategy)
    (updateFor (fun slot view => (updateStagedDescriptorSet slot view).map fun _ => ()) sourceView)
    (createStagedOutputSlot w.device strategy pipeline sourceView calls.slot) fun _ h =>
      createStagedOutputSlot_serves h
  simp only [Nv12OutputPool.claim]
  generalize Program.run _ _ _ = claimed at hpool' hslots hlease
  obtain ⟨lease, pool⟩ := claimed
  have hw' : ImporterInv { w with nv12OutputPool := pool } :=
    ⟨hw.nv12Sources, hw.packedSources, ⟨_, hpool'⟩, hslots, hw.packedPool, hw.rgba, hw.planar⟩
  cases lease with
  | error error => exact hw'
  | ok lease => exact ⟨hw', hlease lease rfl⟩

theorem keeps_claimPackedOutput {dimensions : UInt32 × UInt32} {calls : PackedImportCalls} :
    Keeps (claimPackedOutput dimensions calls) fun lease => lease.slot.spec = dimensions := by
  intro w hw
  rw [exec_claimPackedOutput]
  obtain ⟨maxSlots, hpool⟩ := hw.packedPool
  obtain ⟨hpool', -, hlease⟩ := OutputPool.run_claim_keeps (P := fun _ _ => True) hpool
    (fun _ _ => trivial) "packed output" dimensions (fun _ => .ok ())
    (createPackedOutputSlot w.device calls.slot) fun _ _ => trivial
  simp only [PackedOutputPool.claim]
  generalize Program.run _ _ _ = claimed at hpool' hlease
  obtain ⟨lease, pool⟩ := claimed
  have hw' : ImporterInv { w with packedOutputPool := pool } :=
    ⟨hw.nv12Sources, hw.packedSources, hw.nv12Pool, hw.nv12Slots, ⟨_, hpool'⟩, hw.rgba, hw.planar⟩
  cases lease with
  | error error => exact hw'
  | ok lease => exact ⟨hw', (hlease lease rfl).1⟩

theorem keeps_claimCachedPackedSource {request : PackedImageImport}
    {strategy : PackedImageImportStrategy} {calls : PackedImportCalls} :
    Keeps (claimCachedPackedSource request strategy calls)
      fun lease => lease.source.allocation.Serves strategy := by
  refine Keeps.get.bind fun w hw => Keeps.take.bind fun _ _ => Keeps.take.bind fun identity _ => ?_
  intro w hw
  simp only [Effect.exec_bind, exec_get, exec_modify, exec_take]
  obtain ⟨hsources, hlease⟩ := SourceCache.claimSource_keeps
    ⟨⟨request.streamIncarnation, identity.device, identity.inode⟩,
      ⟨request.dimensions, request.sourceSize, request.modifier, request.plane, request.format,
        strategy⟩⟩
    w.packedSourceCacheClock calls.order
    ((createPackedSource w.device request.sourceSize strategy calls.source).mapError (·.toString))
    hw.packedSources fun a ha => by
      cases hcreated : createPackedSource w.device request.sourceSize strategy calls.source with
      | error error =>
        rw [hcreated] at ha
        cases ha
      | ok created =>
        rw [hcreated] at ha
        cases ha
        exact createPackedSource_serves hcreated
  generalize w.packedSourceCache.claimSource _ _ _ _ = claimed at hsources hlease ⊢
  obtain ⟨cache, lease⟩ := claimed
  have hw' : ImporterInv { w with
      packedSourceCache := cache, packedSourceCacheClock := w.packedSourceCacheClock + 1 } :=
    ⟨hw.nv12Sources, hsources, hw.nv12Pool, hw.nv12Slots, hw.packedPool, hw.rgba, hw.planar⟩
  cases lease with
  | error error => exact hw'
  | ok lease => exact ⟨hw', hlease lease rfl⟩

/-- Dropping leases changes neither entries nor slots. -/
theorem cleans_dropSource {lease : Nv12SourceLease} : Cleans (dropSource lease) := fun _ hw =>
  ⟨hw.nv12Sources, hw.packedSources, hw.nv12Pool, hw.nv12Slots, hw.packedPool, hw.rgba, hw.planar⟩

theorem cleans_dropPackedSource {lease : PackedSourceLease} : Cleans (dropPackedSource lease) :=
  fun _ hw => ⟨hw.nv12Sources, hw.packedSources, hw.nv12Pool, hw.nv12Slots, hw.packedPool, hw.rgba,
    hw.planar⟩

theorem cleans_dropOutput {lease : Nv12OutputLease} : Cleans (dropOutput lease) := by
  intro w hw
  obtain ⟨maxSlots, hpool⟩ := hw.nv12Pool
  exact ⟨hw.nv12Sources, hw.packedSources, ⟨_, hpool.drop lease.lease⟩, hw.nv12Slots,
    hw.packedPool, hw.rgba, hw.planar⟩

theorem cleans_dropPackedOutput {lease : PackedOutputLease} : Cleans (dropPackedOutput lease) := by
  intro w hw
  obtain ⟨maxSlots, hpool⟩ := hw.packedPool
  exact ⟨hw.nv12Sources, hw.packedSources, hw.nv12Pool, hw.nv12Slots,
    ⟨_, hpool.drop lease.lease⟩, hw.rgba, hw.planar⟩

theorem keeps_fromDirectNv12Source {dimensions : UInt32 × UInt32} {layout : Nv12SharedObjectLayout}
    {source : Nv12SourceLease} (hsource : source.source.allocation.Serves .directSampledImage) :
    Keeps (fromDirectNv12Source dimensions layout source) (·.kind.Consistent) := by
  obtain ⟨⟨id, allocation⟩, lease⟩ := source
  cases allocation with
  | direct sampled => exact keeps_takeImportId.bind fun _ _ => Keeps.pure (.directNv12 hsource)
  | compute view source => exact Keeps.throw
  | transfer source => exact Keeps.throw

theorem keeps_createStagedNv12 {streamIncarnation : UInt64} {dimensions : UInt32 × UInt32}
    {sourceFd : Int32} {layout : Nv12SharedObjectLayout} {conversion : Nv12Conversion}
    {strategy : Nv12ImportStrategy} {pipeline : Option Nv12ComputePipeline}
    {calls : Nv12ImportCalls}
    (hpipeline : ∀ p, pipeline = some p → strategy.output = some p.output) :
    Keeps (createStagedNv12 streamIncarnation dimensions sourceFd layout conversion strategy
      pipeline calls) (·.kind.Consistent) := by
  refine Keeps.get.bind fun _ _ => Keeps.take.bind fun span _ => ?_
  refine (keeps_claimCachedSource fun _ => createCachedNv12Source_serves).bind
    fun source hsource => ?_
  refine (Keeps.onFailure keeps_claimNv12Output cleans_dropSource).bind fun output houtput => ?_
  have hclean : Cleans (do dropOutput output; dropSource source) :=
    Triple.bind cleans_dropOutput fun _ => cleans_dropSource
  refine (Keeps.onFailure Keeps.take hclean).bind fun operation hoperation => ?_
  exact keeps_takeImportId.bind fun _ _ => Keeps.pure (.stagedNv12 strategy hsource houtput.2
    (stagedNv12Operation_serves hpipeline hoperation))

theorem keeps_importImageTransfer {streamIncarnation : UInt64} {dimensions : UInt32 × UInt32}
    {sourceFd : Int32} {layout : Nv12SharedObjectLayout} {calls : Nv12ImportCalls} :
    Keeps (importImageTransfer streamIncarnation dimensions sourceFd layout
      .directImageToOptimalYuvPlanes calls) (·.kind.Consistent) := by
  refine Keeps.get.bind fun _ _ => ?_
  refine (keeps_claimCachedSource fun _ => createDirectNv12Source_serves (.inr rfl)).bind
    fun source hsource => ?_
  refine (Keeps.onFailure keeps_claimNv12Output cleans_dropSource).bind fun output houtput => ?_
  exact keeps_takeImportId.bind fun _ _ => Keeps.pure (.stagedNv12 _ hsource houtput.2 rfl)

/-- An NV12 import returns a consistent image, by whichever strategy. -/
theorem keeps_importNv12SharedObject {streamIncarnation : UInt64} {dimensions : UInt32 × UInt32}
    {sourceFd : Int32} {layout : Nv12SharedObjectLayout} {conversion : Nv12Conversion}
    {capability : Nv12ModifierCapability} {calls : Nv12ImportCalls} :
    Keeps (importNv12SharedObject streamIncarnation dimensions sourceFd layout conversion
      capability calls) (·.kind.Consistent) := by
  refine Keeps.get.bind fun _ _ => Keeps.take.bind fun _ _ => ?_
  cases capability.strategy with
  | directSampledImage =>
    refine Keeps.get.bind fun _ _ => ?_
    refine (keeps_claimCachedSource fun _ => createDirectNv12Source_serves (.inl rfl)).bind
      fun source hsource => ?_
    exact Keeps.onFailure (keeps_fromDirectNv12Source hsource) cleans_dropSource
  | directImageToOptimalYuvPlanes => exact keeps_importImageTransfer
  | linearBufferToOptimalNv12 => exact keeps_createStagedNv12 nofun
  | linearBufferToOptimalYuvPlanes => exact keeps_createStagedNv12 nofun
  | linearBufferToYuvPlanes =>
    refine Keeps.get.bind fun w hw => Keeps.take.bind fun pipeline hpipeline => ?_
    refine keeps_createStagedNv12 ?_
    rintro p ⟨⟩
    exact congrArg some (hw.planar _ (orRefuse_ok.mp hpipeline)).symm
  | linearBufferToRgba =>
    refine Keeps.get.bind fun w hw => Keeps.take.bind fun pipeline hpipeline => ?_
    refine keeps_createStagedNv12 ?_
    rintro p ⟨⟩
    exact congrArg some (hw.rgba _ (orRefuse_ok.mp hpipeline)).symm

/-- So does a packed import. -/
theorem keeps_importPackedWithStrategy {request : PackedImageImport}
    {strategy : PackedImageImportStrategy} {calls : PackedImportCalls} :
    Keeps (importPackedWithStrategy request strategy calls) (·.kind.Consistent) := by
  refine keeps_claimCachedPackedSource.bind fun source hsource => ?_
  obtain ⟨⟨id, allocation⟩, lease⟩ := source
  cases strategy with
  | directSampledImage =>
    refine Keeps.onFailure ?_ cleans_dropPackedSource
    cases allocation with
    | direct sampled => exact keeps_takeImportId.bind fun _ _ => Keeps.pure (.directPacked hsource)
    | staged view source => exact Keeps.throw
  | linearBufferToOptimalBgra =>
    refine Keeps.onFailure ?_ cleans_dropPackedSource
    cases allocation with
    | direct sampled => exact Keeps.throw
    | staged view source =>
      refine Keeps.get.bind fun _ _ => Keeps.take.bind fun pipeline _ => ?_
      refine keeps_claimPackedOutput.bind fun output _ => ?_
      refine Keeps.onFailure ?_ cleans_dropPackedOutput
      exact Keeps.take.bind fun _ _ => keeps_takeImportId.bind fun _ _ =>
        Keeps.pure (.stagedPacked hsource)

theorem keeps_newBgraScanout {device : Device} {dimensions : UInt32 × UInt32} {sourceFd : Int32}
    {sourceSize modifier : UInt64} {plane : ImportedPlane} {support : Except String Unit}
    {probe : Except String DmaBufIdentity} {calls : SourceCalls} :
    Keeps (newBgraScanout device dimensions sourceFd sourceSize modifier plane support probe calls)
      (·.kind.Consistent) := by
  refine Keeps.take.bind fun _ _ => Keeps.take.bind fun _ _ => Keeps.take.bind fun _ _ => ?_
  refine Keeps.take.bind fun _ _ => Keeps.take.bind fun sampled _ => ?_
  exact keeps_takeImportId.bind fun _ _ => Keeps.pure .directBgraScanout

end Importer

/-! ## Runs -/

/-- An atomic operation of the release of a lease. -/
inductive ReleaseStep where
  | mark (lease : Nat)
  | clear (lease : Nat)
  | forget (lease : Nat)

/-- The claims after a step of a release. -/
def ReleaseStep.perform (c : Claims) : ReleaseStep → Claims
  | mark lease => c.mark lease
  | clear lease => c.clear lease
  | forget lease => c.forget lease

/-- A call of an importer, or a release of a lease of one of its caches or pools. -/
inductive ImporterCall where
  | importNv12SharedObject (streamIncarnation : UInt64) (dimensions : UInt32 × UInt32)
      (sourceFd : Int32) (layout : Nv12SharedObjectLayout) (conversion : Nv12Conversion)
      (capability : Nv12ModifierCapability) (calls : Nv12ImportCalls)
  | importPackedWithStrategy (request : PackedImageImport) (strategy : PackedImageImportStrategy)
      (calls : PackedImportCalls)
  | newBgraScanout (device : Device) (dimensions : UInt32 × UInt32) (sourceFd : Int32)
      (sourceSize modifier : UInt64) (plane : ImportedPlane) (support : Except String Unit)
      (probe : Except String DmaBufIdentity) (calls : SourceCalls)
  | evictNv12Stream (stream : UInt64)
  | evictPackedStream (stream : UInt64)
  | releaseNv12Source (step : ReleaseStep)
  | releaseNv12Output (step : ReleaseStep)
  | releasePackedSource (step : ReleaseStep)
  | releasePackedOutput (step : ReleaseStep)

namespace Importer

/-- Make a call.  An import returns its image. -/
def perform : ImporterCall → Effect Importer String (Option ImportedDmaBufImage)
  | .importNv12SharedObject streamIncarnation dimensions sourceFd layout conversion capability
      calls =>
    some <$> Importer.importNv12SharedObject streamIncarnation dimensions sourceFd layout conversion
      capability calls
  | .importPackedWithStrategy request strategy calls =>
    some <$> Importer.importPackedWithStrategy request strategy calls
  | .newBgraScanout device dimensions sourceFd sourceSize modifier plane support probe calls =>
    some <$> Importer.newBgraScanout device dimensions sourceFd sourceSize modifier plane support
      probe calls
  | .evictNv12Stream stream => do
    Importer.evictNv12Stream stream
    return none
  | .evictPackedStream stream => do
    Importer.evictPackedStream stream
    return none
  | .releaseNv12Source step => do
    modify fun w => { w with nv12SourceCache := { w.nv12SourceCache with
      claims := step.perform w.nv12SourceCache.claims } }
    return none
  | .releaseNv12Output step => do
    modify fun w => { w with nv12OutputPool := { w.nv12OutputPool with
      claims := step.perform w.nv12OutputPool.claims } }
    return none
  | .releasePackedSource step => do
    modify fun w => { w with packedSourceCache := { w.packedSourceCache with
      claims := step.perform w.packedSourceCache.claims } }
    return none
  | .releasePackedOutput step => do
    modify fun w => { w with packedOutputPool := { w.packedOutputPool with
      claims := step.perform w.packedOutputPool.claims } }
    return none

/-- An importer after a call, with the images returned so far, latest first. -/
def after (run : Importer × List ImportedDmaBufImage) (call : ImporterCall) :
    Importer × List ImportedDmaBufImage :=
  match (perform call).exec run.1 with
  | (.ok (some imported), w) => (w, imported :: run.2)
  | (_, w) => (w, run.2)

theorem keeps_map {α β : Type} {x : Effect Importer String α} {Q : α → Prop} {R : β → Prop}
    {f : α → β} (hx : Keeps x Q) (hf : ∀ a, Q a → R (f a)) : Keeps (f <$> x) R := by
  rw [map_eq_pure_bind]
  exact hx.bind fun a ha => Keeps.pure (hf a ha)

theorem poolInv_perform {S A : Type} {maxSlots : Nat} {pool : OutputPool S A}
    (h : PoolInv maxSlots pool) (step : ReleaseStep) :
    PoolInv maxSlots { pool with claims := step.perform pool.claims } := by
  cases step with
  | mark lease => exact h.release .mark
  | clear lease => exact h.release .clear
  | forget lease => exact h.release .forget

/-- **Every call keeps the invariant and returns a consistent image, if any.** -/
theorem keeps_perform (call : ImporterCall) :
    Keeps (perform call) fun returned => ∀ imported ∈ returned, imported.kind.Consistent := by
  have hsome : ∀ {imported : ImportedDmaBufImage}, imported.kind.Consistent →
      ∀ imported' ∈ some imported, imported'.kind.Consistent := by
    rintro imported h _ ⟨⟩
    exact h
  have hnone : Keeps (pure none) fun returned : Option ImportedDmaBufImage =>
      ∀ imported ∈ returned, imported.kind.Consistent := Keeps.pure fun _ h => nomatch h
  cases call with
  | importNv12SharedObject => exact keeps_map keeps_importNv12SharedObject fun _ => hsome
  | importPackedWithStrategy => exact keeps_map keeps_importPackedWithStrategy fun _ => hsome
  | newBgraScanout => exact keeps_map keeps_newBgraScanout fun _ => hsome
  | evictNv12Stream stream =>
    refine Keeps.bind (Q := fun _ => True) ?_ fun _ _ => hnone
    intro w hw
    have hevicted := w.nv12SourceCache.evicted_evictStream stream
    simp only [Importer.evictNv12Stream, Effect.exec_bind, exec_get, exec_modify, exec_take]
    have hw' : ImporterInv { w with
        nv12SourceCache := (w.nv12SourceCache.evictStream stream).1 } :=
      ⟨fun hkey => hw.nv12Sources (hevicted.kept hkey), hw.packedSources, hw.nv12Pool,
        hw.nv12Slots, hw.packedPool, hw.rgba, hw.planar⟩
    cases evicted "NV12" stream (w.nv12SourceCache.evictStream stream).2.2 with
    | error error => exact hw'
    | ok => exact ⟨hw', trivial⟩
  | evictPackedStream stream =>
    refine Keeps.bind (Q := fun _ => True) ?_ fun _ _ => hnone
    intro w hw
    have hevicted := w.packedSourceCache.evicted_evictStream stream
    simp only [Importer.evictPackedStream, Effect.exec_bind, exec_get, exec_modify, exec_take]
    have hw' : ImporterInv { w with
        packedSourceCache := (w.packedSourceCache.evictStream stream).1 } :=
      ⟨hw.nv12Sources, fun hkey => hw.packedSources (hevicted.kept hkey), hw.nv12Pool,
        hw.nv12Slots, hw.packedPool, hw.rgba, hw.planar⟩
    cases evicted "packed" stream (w.packedSourceCache.evictStream stream).2.2 with
    | error error => exact hw'
    | ok => exact ⟨hw', trivial⟩
  | releaseNv12Source step =>
    refine (Keeps.modify fun w hw => ?_).bind fun _ _ => hnone
    exact ⟨hw.nv12Sources, hw.packedSources, hw.nv12Pool, hw.nv12Slots, hw.packedPool, hw.rgba,
      hw.planar⟩
  | releaseNv12Output step =>
    refine (Keeps.modify fun w hw => ?_).bind fun _ _ => hnone
    obtain ⟨maxSlots, hpool⟩ := hw.nv12Pool
    exact ⟨hw.nv12Sources, hw.packedSources, ⟨_, poolInv_perform hpool step⟩, hw.nv12Slots,
      hw.packedPool, hw.rgba, hw.planar⟩
  | releasePackedSource step =>
    refine (Keeps.modify fun w hw => ?_).bind fun _ _ => hnone
    exact ⟨hw.nv12Sources, hw.packedSources, hw.nv12Pool, hw.nv12Slots, hw.packedPool, hw.rgba,
      hw.planar⟩
  | releasePackedOutput step =>
    refine (Keeps.modify fun w hw => ?_).bind fun _ _ => hnone
    obtain ⟨maxSlots, hpool⟩ := hw.packedPool
    exact ⟨hw.nv12Sources, hw.packedSources, hw.nv12Pool, hw.nv12Slots,
      ⟨_, poolInv_perform hpool step⟩, hw.rgba, hw.planar⟩

/-- What holds of an importer and its images holds after any calls. -/
theorem foldl_after (history : List ImporterCall) (run : Importer × List ImportedDmaBufImage)
    (hw : ImporterInv run.1) (himages : ∀ imported ∈ run.2, imported.kind.Consistent) :
    ImporterInv (history.foldl after run).1 ∧
      ∀ imported ∈ (history.foldl after run).2, imported.kind.Consistent := by
  induction history generalizing run with
  | nil => exact ⟨hw, himages⟩
  | cons call history ih =>
    have hpost := keeps_perform call run.1 hw
    rw [List.foldl_cons]
    refine ih _ ?_ ?_
    · rw [after]
      match (perform call).exec run.1, hpost with
      | (.ok (some imported), w), hpost => exact hpost.1
      | (.ok none, w), hpost => exact hpost.1
      | (.error error, w), hpost => exact hpost
    · rw [after]
      match (perform call).exec run.1, hpost with
      | (.ok (some imported), w), hpost =>
        intro imported' hmem
        rcases List.mem_cons.mp hmem with rfl | hmem
        · exact hpost.2 _ rfl
        · exact himages _ hmem
      | (.ok none, w), hpost => exact himages
      | (.error error, w), hpost => exact himages

end Importer

/-- A compute staging has all its pipeline needs. -/
structure ComputeReady (staged : StagedNv12) (pipeline : Nv12ComputePipeline) : Prop where
  /-- The shader has a view to read. -/
  view : staged.source.source.allocation.computeView.isSome
  /-- The slot's descriptor set can be pointed at any source and at the slot's
  views, one for each image that the pipeline writes. -/
  slot : ∃ set views, staged.output.slot.resources.descriptorSet = some set ∧
    storageViews staged.output.slot.resources.resources = .ok views ∧
      views.length = pipeline.output.images ∧
        ∀ sourceView, updateStagedDescriptorSet staged.output.slot.resources sourceView =
          .ok (⟨set, 0, .uniformTexelBuffer sourceView⟩ ::
            views.mapIdx fun i view => ⟨set, i + 1, .storageImage view⟩)

theorem ImportedKind.Consistent.computeReady {staged : StagedNv12} {pipeline : Nv12ComputePipeline}
    {constants : Nv12PushConstants} (h : (ImportedKind.stagedNv12 staged).Consistent)
    (hcompute : staged.operation = .compute pipeline constants) : ComputeReady staged pipeline := by
  cases h with
  | stagedNv12 strategy hsource hslot hoperation =>
    rw [hcompute] at hoperation
    obtain ⟨set, hset, views, hviews, hlength⟩ := hslot.compute hoperation
    refine ⟨?_, set, views, hset, hviews, hlength, fun sourceView => ?_⟩
    · cases hallocation : staged.source.source.allocation with
      | direct sampled =>
        rw [hallocation] at hsource
        rcases hsource with rfl | rfl <;> cases hoperation
      | compute view source => rfl
      | transfer source =>
        rw [hallocation] at hsource
        rcases hsource with rfl | rfl <;> cases hoperation
    · simp only [updateStagedDescriptorSet, hviews, hset, orRefuse]
      rfl

/-- **Import variants stay consistent**, whatever imports hit, reuse or fail. -/
theorem import_variants {device : Device} {maxTexelBufferElements : UInt32}
    {limits : VulkanImportPoolLimits} {nextImportId : UInt64} {calls : NewCalls} {w : Importer}
    (h : Importer.new device maxTexelBufferElements limits nextImportId calls = .ok w)
    (history : List ImporterCall) :
    let run := history.foldl Importer.after (w, [])
    (∀ key source, run.1.nv12SourceCache.entries.fetch key = some source →
      source.allocation.Serves key.strategy) ∧
    (∀ key source, run.1.packedSourceCache.entries.fetch key = some source →
      source.allocation.Serves key.topology.strategy) ∧
    (∀ slot ∈ run.1.nv12OutputPool.slots, slot.resources.Serves slot.spec.2) ∧
    ∀ imported ∈ run.2,
      (∃ image, imported.image = .ok image) ∧ (∃ device, imported.device = .ok device) ∧
      (∀ initialized, ∃ plan, imported.acquirePlan initialized = .ok plan ∧ plan.Recorded) ∧
      imported.kind.Consistent ∧
      ∀ staged pipeline constants, imported.kind = .stagedNv12 staged →
        staged.operation = .compute pipeline constants → ComputeReady staged pipeline := by
  have hnone : ∀ imported ∈ ([] : List ImportedDmaBufImage), imported.kind.Consistent :=
    fun _ hmem => absurd hmem List.not_mem_nil
  obtain ⟨hw, himages⟩ := Importer.foldl_after history (w, []) (ImporterInv.new h) hnone
  refine ⟨fun _ _ => hw.nv12Sources, fun _ _ => hw.packedSources, hw.nv12Slots, ?_⟩
  intro imported himported
  have hkind := himages imported himported
  refine ⟨hkind.image, hkind.device, fun initialized => ?_, hkind, ?_⟩
  · obtain ⟨plan, hplan, -, hrecorded⟩ := hkind.acquirePlan initialized
    exact ⟨plan, hplan, hrecorded⟩
  · intro staged pipeline constants hstaged hcompute
    exact (hstaged ▸ hkind).computeReady hcompute

/-- The calls of an import that all succeed. -/
def sampleCalls : Nv12ImportCalls where
  probe := .ok ⟨2, 3, 8⟩
  order := []
  source := ⟨.ok ⟨1⟩, .ok ⟨2⟩, .ok ⟨3⟩⟩
  slot := ⟨.ok ⟨4⟩, .ok ⟨5⟩, .ok ⟨6⟩, .ok ⟨7⟩, .ok (), .ok [⟨8⟩]⟩

/-- A device that stages NV12 images into RGBA. -/
def sampleCapability : Nv12ModifierCapability :=
  ⟨0, .linearBufferToRgba, 2, 0, 0x1003, 4, 0x200, (4, 4, 1)⟩

/-- An importer of such a device, its RGBA pipeline made and its planar one refused. -/
def sampleNew : Except String Importer :=
  Importer.new ⟨0⟩ 2 ⟨1, 1, 1, 1⟩ 1
    ⟨.ok [sampleCapability], .ok ⟨1, 2⟩, .ok ⟨3, 4⟩, .error "", .ok ⟨5, 6⟩⟩

/-- An import by compute. -/
def sampleImport : ImporterCall :=
  .importNv12SharedObject 1 (2, 2) 5 ⟨0, 8, #v[⟨4, 2⟩, ⟨0, 2⟩]⟩
    ⟨.bt709, .narrow, .cositedEven, .midpoint⟩ sampleCapability sampleCalls

/-- The images that two such imports return. -/
def sampleImages : List ImportedDmaBufImage :=
  match sampleNew with
  | .ok w => ([sampleImport, sampleImport].foldl Importer.after (w, [])).2
  | .error _ => []

/-- The first import keeps the source claimed, and the second one, of the same object,
fails at that source. -/
theorem import_variants_sample :
    ∃ imported plan, sampleImages = [imported] ∧ imported.acquirePlan false = .ok plan := by
  have hlength : sampleImages.length = 1 := by decide +kernel
  obtain ⟨imported, himages⟩ := List.length_eq_one_iff.mp hlength
  obtain ⟨w, hnew⟩ : ∃ w, sampleNew = .ok w := ⟨_, rfl⟩
  have hrun : ([sampleImport, sampleImport].foldl Importer.after (w, [])).2 = [imported] := by
    rw [← himages, sampleImages, hnew]
  obtain ⟨-, -, -, hvariants⟩ := import_variants hnew [sampleImport, sampleImport]
  obtain ⟨-, -, hplan, -⟩ := hvariants imported (hrun ▸ List.mem_singleton_self _)
  obtain ⟨plan, hplan, -⟩ := hplan false
  exact ⟨imported, plan, himages, hplan⟩

end VideoInterop.Vulkan
