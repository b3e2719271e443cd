import VideoInterop.Vulkan.Admission
import VideoInterop.Vulkan.Record

/-!
# Imported images

What an import makes: sources, the slots it renders into, and the image it returns.
An image is one of five kinds, and a kind goes with one sort of source and one sort
of slot.  The types do not say which: `image`, `device` and `acquirePlan` stop the
program on an image whose parts do not match.  Here they return the text the program
stops with.

Creating a handle can fail.  The results of the calls are arguments.
-/

namespace VideoInterop.Vulkan

/-! ## Sources -/

/-- A device. -/
structure Device where
  /-- Tells it from the others. -/
  id : Nat
deriving DecidableEq

/-- A view of an image. -/
structure ImageView where
  /-- The handle. -/
  handle : Nat
deriving DecidableEq

/-- An image with its memory. -/
structure ImageAllocation where
  /-- The device it was made on. -/
  device : Device
  /-- The image. -/
  image : Image
deriving DecidableEq

/-- A buffer with its memory. -/
structure BufferAllocation where
  /-- The buffer. -/
  buffer : Buffer
  /-- Its length in bytes. -/
  size : UInt64
deriving DecidableEq

/-- The memory of an NV12 source, as its strategy reads it. -/
inductive CachedNv12SourceAllocation where
  | direct (sampled : ImageAllocation)
  | compute (view : BufferView) (source : BufferAllocation)
  | transfer (source : BufferAllocation)
deriving DecidableEq

namespace CachedNv12SourceAllocation

/-- The buffer, unless the source is an image. -/
def source : CachedNv12SourceAllocation → Option BufferAllocation
  | compute _ source => some source
  | transfer source => some source
  | direct _ => none

/-- The view a shader reads, if one does. -/
def computeView : CachedNv12SourceAllocation → Option BufferView
  | compute view _ => some view
  | direct _ | transfer _ => none

end CachedNv12SourceAllocation

/-- The memory of a packed source, sampled as it is or read by a shader. -/
inductive PackedSourceAllocation where
  | direct (allocation : ImageAllocation)
  | staged (view : BufferView) (source : BufferAllocation)
deriving DecidableEq

/-- What the calls that make a source return. -/
structure SourceCalls where
  /-- The imported image. -/
  image : Except VulkanImportError Image
  /-- The imported buffer. -/
  buffer : Except VulkanImportError Buffer
  /-- The view of that buffer. -/
  view : Except VkError BufferView

/-- Name the failure of a call. -/
def called {α : Type} (result : Except VkError α) (what : String) : Except String α :=
  result.mapError fun e => what ++ ": " ++ e.text

/-- `create_direct_image`. -/
def createDirectImage (device : Device) (calls : SourceCalls) :
    Except VulkanImportError ImageAllocation :=
  calls.image.map fun image => ⟨device, image⟩

/-- `create_imported_buffer_with_allocation_size`. -/
def createImportedBuffer (bufferSize : UInt64) (calls : SourceCalls) :
    Except VulkanImportError BufferAllocation :=
  calls.buffer.map fun buffer => ⟨buffer, bufferSize⟩

/-- Make the source of a strategy that reads a buffer. -/
def createCachedNv12Source (sourceBufferSize : UInt64) (strategy : Nv12ImportStrategy)
    (calls : SourceCalls) : Except String CachedNv12SourceAllocation :=
  match strategy with
  | .linearBufferToOptimalNv12 | .linearBufferToOptimalYuvPlanes => do
    let source ← (createImportedBuffer sourceBufferSize calls).mapError (·.toString)
    return .transfer source
  | .linearBufferToYuvPlanes | .linearBufferToRgba => do
    let source ← (createImportedBuffer sourceBufferSize calls).mapError (·.toString)
    let view ← called calls.view "failed to create staged NV12 source view"
    return .compute view source
  | .directSampledImage | .directImageToOptimalYuvPlanes =>
    .error "direct NV12 image cannot be cached as a source buffer"

/-- Make the source of a strategy that reads an image. -/
def createDirectNv12Source (device : Device) (calls : SourceCalls) :
    Except String CachedNv12SourceAllocation := do
  let sampled ← (createDirectImage device calls).mapError (·.toString)
  return .direct sampled

/-- Make the source of a packed image that a shader reads. -/
def createCachedPackedStagedSource (sourceSize : UInt64) (calls : SourceCalls) :
    Except VulkanImportError PackedSourceAllocation := do
  let source ← createImportedBuffer sourceSize calls
  let view ← (called calls.view "failed to create staged packed source view").mapError .other
  return .staged view source

/-! ## Slots -/

/-- The images of an output slot, with the views that are written through. -/
inductive StagedOutputResources where
  | rgba (view : ImageView) (sampled : ImageAllocation)
  | nv12 (sampled : ImageAllocation)
  | transferYuvPlanes (luma chroma : ImageAllocation)
  | yuvPlanes (lumaView : ImageView) (luma : ImageAllocation) (chromaView : ImageView)
      (chroma : ImageAllocation)
deriving DecidableEq

/-- A slot of staged NV12 output. -/
structure StagedOutputSlot where
  /-- The device it was made on. -/
  device : Device
  /-- What a shader is bound to, if one writes it. -/
  descriptorSet : Option DescriptorSet
  /-- Its images and views. -/
  resources : StagedOutputResources
deriving DecidableEq

/-- The images that are sampled once it is written. -/
def StagedOutputSlot.sampledImages (slot : StagedOutputSlot) : StagedSampledImages :=
  match slot.resources with
  | .rgba _ sampled => .rgba sampled.image
  | .nv12 sampled => .nv12 sampled.image
  | .transferYuvPlanes luma chroma => .yuvPlanes luma.image chroma.image
  | .yuvPlanes _ luma _ chroma => .yuvPlanes luma.image chroma.image

/-- A slot of staged packed output. -/
structure PackedOutputSlot where
  /-- The device it was made on. -/
  device : Device
  /-- What the shader is bound to. -/
  descriptorSet : DescriptorSet
  /-- The view it writes through. -/
  storageView : ImageView
  /-- The image that is sampled. -/
  sampled : ImageAllocation
deriving DecidableEq

/-- What an NV12 shader writes. -/
inductive Nv12ComputeOutput where
  | rgba
  | yuvPlanes
deriving DecidableEq

/-- A pipeline that converts NV12. -/
structure Nv12ComputePipeline where
  /-- What it writes. -/
  output : Nv12ComputeOutput
  /-- The pipeline. -/
  pipeline : Pipeline
deriving DecidableEq

/-- A pipeline that unpacks a packed image. -/
structure PackedComputePipeline where
  /-- The pipeline. -/
  pipeline : Pipeline
deriving DecidableEq

/-- What a descriptor is pointed at. -/
inductive Descriptor where
  | uniformTexelBuffer (view : BufferView)
  /-- In the general layout. -/
  | storageImage (view : ImageView)
deriving DecidableEq

/-- `vk::WriteDescriptorSet`. -/
structure DescriptorWrite where
  /-- The set that is written. -/
  set : DescriptorSet
  /-- The place in it. -/
  binding : Nat
  /-- What is bound there. -/
  descriptor : Descriptor
deriving DecidableEq

/-- The views that a compute pipeline writes through. -/
def storageViews : StagedOutputResources → Except String (List ImageView)
  | .rgba view _ => .ok [view]
  | .nv12 _ | .transferYuvPlanes _ _ =>
    .error "Vulkan transfer NV12 output has no compute descriptor set"
  | .yuvPlanes lumaView _ chromaView _ => .ok [lumaView, chromaView]

/-- Point the descriptor set of a slot at a source and at the slot's views. -/
def updateStagedDescriptorSet (slot : StagedOutputSlot) (sourceView : BufferView) :
    Except String (List DescriptorWrite) := do
  let views ← storageViews slot.resources
  let set ← orRefuse slot.descriptorSet
    "Vulkan compute NV12 output is missing its descriptor set"
  return ⟨set, 0, .uniformTexelBuffer sourceView⟩ ::
    views.mapIdx fun i view => ⟨set, i + 1, .storageImage view⟩

/-- `update_packed_descriptor_set`. -/
def updatePackedDescriptorSet (slot : PackedOutputSlot) (sourceView : BufferView) :
    List DescriptorWrite :=
  [⟨slot.descriptorSet, 0, .uniformTexelBuffer sourceView⟩,
    ⟨slot.descriptorSet, 1, .storageImage slot.storageView⟩]

/-- What the calls that make a slot return.  A slot has one image, or one for luma
and one for chroma. -/
structure SlotCalls where
  /-- The only image, or that of the luma plane. -/
  image : Except String Image
  /-- Its view. -/
  view : Except VkError ImageView
  /-- The image of the chroma plane. -/
  chromaImage : Except String Image
  /-- Its view. -/
  chromaView : Except VkError ImageView
  /-- Whether there is a descriptor pool. -/
  descriptorPool : Except VkError Unit
  /-- The descriptor sets out of it. -/
  descriptorSets : Except VkError (List DescriptorSet)

/-- An image of the device's own memory. -/
def createLocalImage (device : Device) (created : Except String Image) :
    Except String ImageAllocation :=
  created.map fun image => ⟨device, image⟩

/-- A view of an output image. -/
def createImageView (created : Except VkError ImageView) : Except String ImageView :=
  called created "failed to create staged output view"

/-- The descriptor set of a slot, from a pool of its own.  `name` is the slot's in
an error. -/
def allocateDescriptorSet (name : String) (calls : SlotCalls) : Except String DescriptorSet := do
  called calls.descriptorPool s!"failed to create staged {name} descriptor pool"
  let sets ← called calls.descriptorSets s!"failed to allocate staged {name} descriptor set"
  orRefuse sets.head? s!"Vulkan returned no staged {name} descriptor set"

/-- The images of a slot that is filled by copies. -/
def createTransferResources (device : Device) (strategy : Nv12ImportStrategy)
    (calls : SlotCalls) : Except String StagedOutputResources := do
  match strategy with
  | .linearBufferToOptimalNv12 =>
    let sampled ← createLocalImage device calls.image
    return .nv12 sampled
  | _ =>
    let luma ← createLocalImage device calls.image
    let chroma ← createLocalImage device calls.chromaImage
    return .transferYuvPlanes luma chroma

/-- The images and views of a slot that a pipeline fills. -/
def createComputeResources (device : Device) (output : Nv12ComputeOutput) (calls : SlotCalls) :
    Except String StagedOutputResources := do
  match output with
  | .rgba =>
    let sampled ← createLocalImage device calls.image
    let view ← createImageView calls.view
    return .rgba view sampled
  | .yuvPlanes =>
    let luma ← createLocalImage device calls.image
    let lumaView ← createImageView calls.view
    let chroma ← createLocalImage device calls.chromaImage
    let chromaView ← createImageView calls.chromaView
    return .yuvPlanes lumaView luma chromaView chroma

/-- Make a slot for a compute strategy whose pipeline has the output expected. -/
def createComputeSlot (device : Device) (expected : Nv12ComputeOutput)
    (pipeline : Option Nv12ComputePipeline) (sourceView : Option BufferView) (calls : SlotCalls) :
    Except String StagedOutputSlot := do
  let pipeline ← orRefuse pipeline "Vulkan compute NV12 output is missing its compute pipeline"
  let sourceView ← orRefuse sourceView
    "Vulkan compute NV12 output is missing its uniform texel-buffer view"
  refuse (pipeline.output != expected) "Vulkan NV12 pipeline/output strategy mismatch"
  let resources ← createComputeResources device expected calls
  let set ← allocateDescriptorSet "NV12" calls
  let slot : StagedOutputSlot := ⟨device, some set, resources⟩
  let _ ← updateStagedDescriptorSet slot sourceView
  return slot

/-- A strategy that samples its source has no slot.  The pipeline and the view are
asked for first. -/
def createDirectSlot (pipeline : Option Nv12ComputePipeline) (sourceView : Option BufferView) :
    Except String StagedOutputSlot := do
  let _ ← orRefuse pipeline "Vulkan compute NV12 output is missing its compute pipeline"
  let _ ← orRefuse sourceView "Vulkan compute NV12 output is missing its uniform texel-buffer view"
  .error "direct NV12 import cannot allocate a compute output slot"

/-- `create_staged_output_slot`. -/
def createStagedOutputSlot (device : Device) (strategy : Nv12ImportStrategy)
    (pipeline : Option Nv12ComputePipeline) (sourceView : Option BufferView) (calls : SlotCalls) :
    Except String StagedOutputSlot :=
  match strategy with
  | .directImageToOptimalYuvPlanes | .linearBufferToOptimalNv12
  | .linearBufferToOptimalYuvPlanes => do
    refuse (pipeline.isSome || sourceView.isSome)
      "Vulkan NV12 transfer output must not carry compute resources"
    let resources ← createTransferResources device strategy calls
    return ⟨device, none, resources⟩
  | .linearBufferToRgba => createComputeSlot device .rgba pipeline sourceView calls
  | .linearBufferToYuvPlanes => createComputeSlot device .yuvPlanes pipeline sourceView calls
  | .directSampledImage => createDirectSlot pipeline sourceView

/-- `create_packed_output_slot`. -/
def createPackedOutputSlot (device : Device) (calls : SlotCalls) :
    Except String PackedOutputSlot := do
  let sampled ← createLocalImage device calls.image
  let storageView ← createImageView calls.view
  let set ← allocateDescriptorSet "packed" calls
  return ⟨device, set, storageView, sampled⟩

/-! ## Images -/

/-- How a source is brought into its output. -/
inductive StagedNv12Operation where
  | compute (pipeline : Nv12ComputePipeline) (pushConstants : Nv12PushConstants)
  | bufferTransfer (layout : Nv12SharedObjectLayout)
  | imageTransfer
deriving DecidableEq

/-- A claim on a cached NV12 source. -/
abbrev Nv12SourceLease := SourceLease CachedNv12SourceAllocation

/-- A claim on a cached packed source. -/
abbrev PackedSourceLease := SourceLease PackedSourceAllocation

/-- A claim on an NV12 output slot. -/
abbrev Nv12OutputLease := OutputLease ((UInt32 × UInt32) × Nv12ImportStrategy) StagedOutputSlot

/-- A claim on a packed output slot. -/
abbrev PackedOutputLease := OutputLease (UInt32 × UInt32) PackedOutputSlot

/-- A staged NV12 import. -/
structure StagedNv12 where
  /-- The source that is read. -/
  source : Nv12SourceLease
  /-- The slot that is written. -/
  output : Nv12OutputLease
  /-- How. -/
  operation : StagedNv12Operation

/-- A staged packed import. -/
structure StagedPacked where
  /-- The source that is read. -/
  source : PackedSourceLease
  /-- The slot that is written. -/
  output : PackedOutputLease
  /-- The pipeline that does it. -/
  pipeline : PackedComputePipeline
  /-- The constants it is given. -/
  pushConstants : PackedPushConstants

/-- The ways an image is imported, with what each holds. -/
inductive ImportedKind where
  | directPacked (source : PackedSourceLease)
  | directBgraScanout (sampled : ImageAllocation)
  | directNv12 (source : Nv12SourceLease)
  | stagedPacked (staged : StagedPacked)
  | stagedNv12 (staged : StagedNv12)

/-- An imported image. -/
structure ImportedDmaBufImage where
  /-- The number of the import. -/
  id : UInt64
  /-- How it was imported. -/
  kind : ImportedKind
  /-- Columns and rows. -/
  dimensions : UInt32 × UInt32
  /-- The modifier of its source. -/
  modifier : UInt64

/-- The text of `unreachable!`. -/
def unreachableText {α : Type} (text : String) : Except String α :=
  .error ("internal error: entered unreachable code: " ++ text)

/-- The image of a packed source that is sampled itself. -/
def PackedSourceAllocation.directImage : PackedSourceAllocation → Except String ImageAllocation
  | .direct allocation => .ok allocation
  | .staged _ _ => unreachableText "direct packed import owns a direct image"

/-- The image of an NV12 source that is sampled itself. -/
def CachedNv12SourceAllocation.directImage :
    CachedNv12SourceAllocation → Except String ImageAllocation
  | .direct sampled => .ok sampled
  | .compute _ _ | .transfer _ => unreachableText "direct NV12 import owns a direct cached image"

namespace ImportedDmaBufImage

/-- The image the renderer samples. -/
def image (imported : ImportedDmaBufImage) : Except String Image :=
  match imported.kind with
  | .directPacked source => source.source.allocation.directImage.map (·.image)
  | .directBgraScanout sampled => .ok sampled.image
  | .directNv12 source => source.source.allocation.directImage.map (·.image)
  | .stagedPacked staged => .ok staged.output.slot.resources.sampled.image
  | .stagedNv12 staged => match staged.output.slot.resources.sampledImages with
    | .rgba image | .nv12 image => .ok image
    | .yuvPlanes luma _ => .ok luma
    | .bgra _ => unreachableText "NV12 output pool cannot contain a BGRA slot"

/-- The device of what is sampled. -/
def device (imported : ImportedDmaBufImage) : Except String Device :=
  match imported.kind with
  | .directPacked source => source.source.allocation.directImage.map (·.device)
  | .directBgraScanout sampled => .ok sampled.device
  | .directNv12 source => source.source.allocation.directImage.map (·.device)
  | .stagedPacked staged => .ok staged.output.slot.resources.device
  | .stagedNv12 staged => .ok staged.output.slot.resources.device

/-- Is the image copied before it is sampled? -/
def isStaged (imported : ImportedDmaBufImage) : Bool :=
  match imported.kind with
  | .stagedPacked _ | .stagedNv12 _ => true
  | _ => false

/-- The plan of a packed staging. -/
def packedPlan (imported : ImportedDmaBufImage) (staged : StagedPacked) (initialized : Bool) :
    Except String AcquirePlan := do
  let source ← match staged.source.source.allocation with
    | .staged _ source => .ok source
    | .direct _ => unreachableText "staged packed import owns a source buffer"
  return .stagedCompute {
    sourceBuffer := source.buffer
    sourceSize := source.size
    output := .bgra staged.output.slot.resources.sampled.image
    outputInitialized := initialized
    descriptorSet := staged.output.slot.resources.descriptorSet
    pipeline := staged.pipeline.pipeline
    pushConstants := .packed staged.pushConstants
    dispatch := (divCeil imported.dimensions.1 16, divCeil imported.dimensions.2 16) }

/-- The plan of an NV12 staging. -/
def nv12Plan (imported : ImportedDmaBufImage) (staged : StagedNv12) (initialized : Bool) :
    Except String AcquirePlan := do
  let output := staged.output.slot.resources.sampledImages
  match staged.operation with
  | .compute pipeline pushConstants =>
    let source ← orRefuse staged.source.source.allocation.source
      "compute NV12 import owns a source buffer"
    let descriptorSet ← orRefuse staged.output.slot.resources.descriptorSet
      "compute NV12 output owns a descriptor set"
    return .stagedCompute {
      sourceBuffer := source.buffer
      sourceSize := source.size
      output := output
      outputInitialized := initialized
      descriptorSet := descriptorSet
      pipeline := pipeline.pipeline
      pushConstants := .nv12 pushConstants
      dispatch := nv12Dispatch imported.dimensions }
  | .bufferTransfer layout =>
    let source ← orRefuse staged.source.source.allocation.source
      "transfer NV12 import owns a source buffer"
    return .stagedTransfer {
      sourceBuffer := source.buffer
      sourceSize := source.size
      output := output
      outputInitialized := initialized
      dimensions := imported.dimensions
      planes := layout.planes }
  | .imageTransfer =>
    let source ← match staged.source.source.allocation with
      | .direct sampled => .ok sampled
      | .compute _ _ | .transfer _ =>
        unreachableText "direct-image NV12 transfer owns an imported image"
    return .stagedImageTransfer {
      sourceImage := source.image
      output := output
      outputInitialized := initialized
      dimensions := imported.dimensions }

/-- How the lane acquires the image.  `initialized` says whether a staging has
filled its slot before. -/
def acquirePlan (imported : ImportedDmaBufImage) (initialized : Bool) :
    Except String AcquirePlan :=
  match imported.kind with
  | .stagedPacked staged => imported.packedPlan staged initialized
  | .stagedNv12 staged => imported.nv12Plan staged initialized
  | .directPacked source => source.source.allocation.directImage.map fun sampled =>
    .directImage sampled.image
  | .directBgraScanout sampled => .ok (.directImage sampled.image)
  | .directNv12 source => source.source.allocation.directImage.map fun sampled =>
    .directImage sampled.image

end ImportedDmaBufImage

end VideoInterop.Vulkan
