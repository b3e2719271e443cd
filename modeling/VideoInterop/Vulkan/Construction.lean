import VideoInterop.Lib.Handles
import VideoInterop.Vulkan.Imported
import VideoInterop.Vulkan.Lane

/-!
# Constructors

What a constructor of the importer makes on the device, and what it ends again when a
later call fails.  A constructor is an effect on the history of the device's handles.
Every call can fail, and a call that returns a list can return an empty one.  A
constructor gets the results of its calls as an argument, `SlotCalls` for example, and
any results are possible.

A local that owns handles is dropped where its scope ends.  Where the code returns
early, `onFailure` says what is ended on the way out, by hand or by the drops.

The numbers of handles are not the driver's.  They tell two handles apart that the
driver gives the same value one after the other.
-/

namespace VideoInterop.Vulkan.Construction

open VideoInterop (Effect)
open VideoInterop.Effect (failWhen expect onFailure)

/-! ## Handles -/

/-- What a handle stands for. -/
inductive HandleKind where
  | image
  | memory
  | buffer
  | imageView
  | descriptorPool
  | descriptorSet
  | descriptorSetLayout
  | pipelineLayout
  | shaderModule
  | pipeline
  | commandPool
  | commandBuffer
  | fence
  | queryPool
  /-- A file descriptor that was duplicated. -/
  | descriptor
deriving DecidableEq

/-- A handle of the device. -/
structure Handle where
  /-- What it stands for. -/
  kind : HandleKind
  /-- Tells it from the others. -/
  number : Nat
deriving DecidableEq

/-- A descriptor is passed on by an import.  Nothing else is. -/
def IsDescriptor (h : Handle) : Prop := h.kind = .descriptor

/-- What the calls of a constructor change.  `next` is the number of the next handle. -/
structure DeviceState where
  /-- The number of the next handle. -/
  next : Nat
  /-- What happened to the handles, latest first. -/
  events : List (HandleEvent Handle)
  /-- Was the device marked as lost? -/
  lost : Bool
  /-- The reports on GPU timing, latest first. -/
  timingReports : List String

/-- Before a constructor is called. -/
def DeviceState.new (next : Nat) : DeviceState := ⟨next, [], false, []⟩

section
variable {ε α : Type}

/-- Record what happened to a handle. -/
def event (e : HandleEvent Handle) : Effect DeviceState ε Unit :=
  modify fun s => { s with events := e :: s.events }

/-- A handle with the next number. -/
def newHandle (kind : HandleKind) : Effect DeviceState ε Handle := do
  let h : Handle := ⟨kind, (← get).next⟩
  modify fun s => { s with next := s.next + 1 }
  return h

/-- A handle that depends on its parents. -/
def make (kind : HandleKind) (parents : List Handle) : Effect DeviceState ε Handle := do
  let h ← newHandle kind
  event (.make h parents)
  return h

/-- A call that makes a handle. -/
def create (kind : HandleKind) (parents : List Handle) (failure : Option VkError)
    (error : VkError → ε) : Effect DeviceState ε Handle := do
  expect failure error
  make kind parents

/-- End a handle. -/
def destroy (h : Handle) : Effect DeviceState ε Unit := event (.destroy h)

/-- A list of handles from a call that was asked for one. -/
inductive Listed where
  | empty
  | one

/-- Handles from a call that returns a list. -/
def makeList (kind : HandleKind) (parents : List Handle) :
    Listed → Effect DeviceState ε (List Handle)
  | .empty => return []
  | .one => return [← make kind parents]

/-- Handles out of a pool. -/
def lendList (kind : HandleKind) (pool : Handle) : Listed → Effect DeviceState ε (List Handle)
  | .empty => return []
  | .one => do
    let h ← newHandle kind
    event (.lend h pool)
    return [h]

/-- Take a result or pass its failure on. -/
def take (result : Except ε α) : Effect DeviceState ε α :=
  match result with
  | .ok a => pure a
  | .error e => throw e

end

/-- The text of a call that failed. -/
def failed (what : String) (e : VkError) : String := what ++ ": " ++ e.text

/-! ## Memory -/

/-- What a device says of itself.  It has at most 32 memory types.  The period of its
timestamps is given if it is finite and positive. -/
structure DeviceContext where
  /-- The device. -/
  device : Device
  /-- How many memory types it has. -/
  memoryTypeCount : Fin 33
  /-- The queue family work is submitted to. -/
  family : QueueFamily
  /-- The valid bits of a timestamp, by queue family. -/
  timestampValidBits : List UInt32
  /-- From ticks to nanoseconds. -/
  timestampPeriod : Option (UInt64 → UInt64)
  /-- Is GPU timing asked for? -/
  videoGpuTimingEnabled : Bool

/-- `vk::MemoryRequirements`. -/
structure MemoryRequirements where
  /-- The bytes needed. -/
  size : UInt64
  /-- The memory types that will do. -/
  memoryTypeBits : UInt32

/-- The first memory type that will do. -/
def selectMemoryType (device : DeviceContext) (bits : UInt32) : Except String Nat :=
  orRefuse ((List.range device.memoryTypeCount).find? fun index =>
    bits &&& (1 <<< index.toUInt32) != 0) "imported Vulkan DMA-BUF has no compatible memory type"

/-- The types that the memory of a file descriptor can have are asked for first. -/
def importedMemoryType (device : DeviceContext) (requirementBits : UInt32)
    (fdProperties : Except VkError UInt32) : Except String Nat := do
  let memoryTypeBits ← called fdProperties "failed to query Vulkan DMA-BUF memory properties"
  selectMemoryType device (requirementBits &&& memoryTypeBits)

/-- The results of importing memory.  A failed duplication has a text. -/
structure ImportCalls where
  /-- The failure of making the image or buffer. -/
  create : Option VkError
  /-- What it asks of its memory. -/
  requirements : MemoryRequirements
  /-- The memory types of the file descriptor. -/
  fdProperties : Except VkError UInt32
  /-- The failure of duplicating it. -/
  duplicate : Option String
  /-- The failure of the allocation that imports it. -/
  allocate : Option VkError
  /-- The failure of binding the memory. -/
  bind : Option VkError

/-- The descriptor an allocation is to take over. -/
def duplicateImportFd (failure : Option String) : Effect DeviceState String Handle := do
  expect failure fun error => "failed to duplicate Vulkan DMA-BUF import fd: " ++ error
  make .descriptor []

section
variable {ε : Type}

/-- `close_unconsumed_fd`. -/
def closeUnconsumedFd (fd : Handle) : Effect DeviceState ε Unit := destroy fd

/-- Allocate memory from a descriptor, which a success takes over. -/
def allocateImported (fd : Handle) (failure : Option VkError) (error : VkError → ε) :
    Effect DeviceState ε Handle := do
  onFailure (expect failure error) (closeUnconsumedFd fd)
  event (.pass fd)
  make .memory []

/-- Bind an image or a buffer to its memory. -/
def bindMemory (h memory : Handle) (failure : Option VkError) (error : VkError → ε) :
    Effect DeviceState ε Unit := do
  expect failure error
  event (.bind h memory)

end

/-! ## Images and buffers -/

/-- An image with its memory. -/
structure ImageAllocation where
  /-- The image. -/
  image : Handle
  /-- The memory it is bound to. -/
  memory : Handle
deriving DecidableEq

/-- A buffer with its memory. -/
structure BufferAllocation where
  /-- The buffer. -/
  buffer : Handle
  /-- The memory it is bound to. -/
  memory : Handle
  /-- Its length in bytes. -/
  size : UInt64
deriving DecidableEq

/-- An image goes before its memory. -/
def ImageAllocation.drop {ε : Type} (a : ImageAllocation) : Effect DeviceState ε Unit := do
  destroy a.image
  destroy a.memory

/-- A buffer goes before its memory. -/
def BufferAllocation.drop {ε : Type} (a : BufferAllocation) : Effect DeviceState ε Unit := do
  destroy a.buffer
  destroy a.memory

/-- `import_image_memory`. -/
def importImageMemory (device : DeviceContext) (image : Handle) (sourceSize : Option UInt64)
    (calls : ImportCalls) : Effect DeviceState VulkanImportError Handle := do
  failWhen (sourceSize.any (· < calls.requirements.size)) (.allocationSize
    (s!"DMA-BUF object size {sourceSize.getD 0} is smaller than Vulkan import requirement " ++
      s!"{calls.requirements.size}"))
  let _ ← ExceptT.adapt .other (take
    (importedMemoryType device calls.requirements.memoryTypeBits calls.fdProperties))
  let duplicate ← ExceptT.adapt .other (duplicateImportFd calls.duplicate)
  let memory ← allocateImported duplicate calls.allocate fun e =>
    .other (failed "failed to import Vulkan DMA-BUF image memory" e)
  onFailure
    (bindMemory image memory calls.bind fun e =>
      .other (failed "failed to bind imported Vulkan DMA-BUF image memory" e))
    (destroy memory)
  return memory

/-- `create_direct_image`. -/
def createDirectImage (device : DeviceContext) (sourceSize : Option UInt64)
    (calls : ImportCalls) : Effect DeviceState VulkanImportError ImageAllocation := do
  let image ← create .image [] calls.create fun e =>
    .other (failed "failed to create Vulkan DMA-BUF import image" e)
  let memory ← onFailure (importImageMemory device image sourceSize calls) (destroy image)
  return ⟨image, memory⟩

/-- `create_imported_buffer_with_allocation_size`. -/
def createImportedBuffer (device : DeviceContext) (sourceFd : Int32)
    (bufferSize allocationSize : UInt64) (calls : ImportCalls) :
    Effect DeviceState VulkanImportError BufferAllocation := do
  failWhen (sourceFd < 0 || bufferSize == 0 || allocationSize == 0)
    (.allocationSize "Vulkan DMA-BUF buffer import requires a valid fd and size")
  failWhen (bufferSize > allocationSize) (.allocationSize
    (s!"Vulkan DMA-BUF source-buffer span {bufferSize} exceeds allocation size " ++
      s!"{allocationSize}"))
  let buffer ← create .buffer [] calls.create fun e =>
    .other (failed "failed to create Vulkan DMA-BUF source buffer" e)
  let requirements := calls.requirements
  onFailure
    (failWhen (requirements.size > allocationSize) (.allocationSize
      (s!"DMA-BUF allocation size {allocationSize} is smaller than Vulkan source-buffer " ++
        s!"requirement {requirements.size} for copy span {bufferSize}")))
    (destroy buffer)
  let _ ← onFailure
    (ExceptT.adapt .other (take
      (importedMemoryType device requirements.memoryTypeBits calls.fdProperties)))
    (destroy buffer)
  let duplicate ← onFailure (ExceptT.adapt .other (duplicateImportFd calls.duplicate))
    (destroy buffer)
  let memory ← onFailure
    (allocateImported duplicate calls.allocate fun e =>
      .other (failed "failed to import Vulkan DMA-BUF source memory" e))
    (destroy buffer)
  onFailure
    (bindMemory buffer memory calls.bind fun e =>
      .other (failed "failed to bind imported Vulkan DMA-BUF source memory" e))
    (do
      destroy memory
      destroy buffer)
  return ⟨buffer, memory, bufferSize⟩

/-- The results of making an image with memory of the device. -/
structure LocalImageCalls where
  /-- The failure of making the image. -/
  create : Option VkError
  /-- What it asks of its memory. -/
  requirements : MemoryRequirements
  /-- The failure of the allocation. -/
  allocate : Option VkError
  /-- The failure of binding the memory. -/
  bind : Option VkError

/-- `create_local_image_with_flags`. -/
def createLocalImage (device : DeviceContext) (calls : LocalImageCalls) :
    Effect DeviceState String ImageAllocation := do
  let image ← create .image [] calls.create (failed "failed to create staged output image")
  let _ ← onFailure (take (selectMemoryType device calls.requirements.memoryTypeBits))
    (destroy image)
  let memory ← onFailure
    (create .memory [] calls.allocate (failed "failed to allocate staged output memory"))
    (destroy image)
  onFailure (bindMemory image memory calls.bind (failed "failed to bind staged output memory"))
    (do
      destroy memory
      destroy image)
  return ⟨image, memory⟩

/-- A view of an output image. -/
def createImageView (image : Handle) (failure : Option VkError) :
    Effect DeviceState String Handle :=
  create .imageView [image] failure (failed "failed to create staged output view")

/-! ## Slots -/

/-- The images of an output slot, with the views that are written through. -/
inductive StagedOutputResources where
  | rgba (view : Handle) (sampled : ImageAllocation)
  | nv12 (sampled : ImageAllocation)
  | transferYuvPlanes (luma chroma : ImageAllocation)
  | yuvPlanes (lumaView : Handle) (luma : ImageAllocation) (chromaView : Handle)
      (chroma : ImageAllocation)
deriving DecidableEq

/-- Views go before their images. -/
def StagedOutputResources.drop {ε : Type} : StagedOutputResources → Effect DeviceState ε Unit
  | rgba view sampled => do
    destroy view
    sampled.drop
  | nv12 sampled => sampled.drop
  | transferYuvPlanes luma chroma => do
    luma.drop
    chroma.drop
  | yuvPlanes lumaView luma chromaView chroma => do
    destroy lumaView
    luma.drop
    destroy chromaView
    chroma.drop

/-- A slot of staged NV12 output. -/
structure StagedOutputSlot where
  /-- The pool of its descriptor set, if a shader writes it. -/
  descriptorPool : Option Handle
  /-- The set out of that pool. -/
  descriptorSet : Option Handle
  /-- Its images and views. -/
  resources : StagedOutputResources
deriving DecidableEq

/-- The pool goes first, then the resources. -/
def StagedOutputSlot.drop {ε : Type} (slot : StagedOutputSlot) : Effect DeviceState ε Unit := do
  if let some pool := slot.descriptorPool then destroy pool
  slot.resources.drop

/-- A slot of staged packed output. -/
structure PackedOutputSlot where
  /-- The pool of its descriptor set. -/
  descriptorPool : Handle
  /-- The set out of that pool. -/
  descriptorSet : Handle
  /-- The view the shader writes through. -/
  storageView : Handle
  /-- The image that is sampled. -/
  sampled : ImageAllocation
deriving DecidableEq

/-- The results of making a slot.  A slot has one image, or one for luma and one for
chroma. -/
structure SlotCalls where
  /-- The only image, or that of the luma plane. -/
  image : LocalImageCalls
  /-- The failure of its view. -/
  view : Option VkError
  /-- The image of the chroma plane. -/
  chromaImage : LocalImageCalls
  /-- The failure of its view. -/
  chromaView : Option VkError
  /-- The failure of the descriptor pool. -/
  descriptorPool : Option VkError
  /-- The descriptor sets out of it. -/
  descriptorSets : Except VkError Listed

/-- The images of a slot that is filled by copies. -/
def createTransferResources (device : DeviceContext) (strategy : Nv12ImportStrategy)
    (calls : SlotCalls) : Effect DeviceState String StagedOutputResources := do
  match strategy with
  | .linearBufferToOptimalNv12 =>
    let sampled ← createLocalImage device calls.image
    return .nv12 sampled
  | _ =>
    let luma ← createLocalImage device calls.image
    let chroma ← onFailure (createLocalImage device calls.chromaImage) luma.drop
    return .transferYuvPlanes luma chroma

/-- An image and its view. -/
def createViewedImage (device : DeviceContext) (image : LocalImageCalls) (view : Option VkError) :
    Effect DeviceState String (ImageAllocation × Handle) := do
  let allocation ← createLocalImage device image
  let view ← onFailure (createImageView allocation.image view) allocation.drop
  return (allocation, view)

/-- The images and views of a slot that a pipeline fills. -/
def createComputeResources (device : DeviceContext) (output : Nv12ComputeOutput)
    (calls : SlotCalls) : Effect DeviceState String StagedOutputResources := do
  match output with
  | .rgba =>
    let (sampled, view) ← createViewedImage device calls.image calls.view
    return .rgba view sampled
  | .yuvPlanes =>
    let (luma, lumaView) ← createViewedImage device calls.image calls.view
    let (chroma, chromaView) ← onFailure
      (createViewedImage device calls.chromaImage calls.chromaView) (do
        destroy lumaView
        luma.drop)
    return .yuvPlanes lumaView luma chromaView chroma

/-- What an import sees of an image, and of a slot. -/
def ImageAllocation.seen (device : Device) (a : ImageAllocation) : Vulkan.ImageAllocation :=
  ⟨device, ⟨a.image.number⟩⟩

/-- The resources as an import sees them, without memory. -/
def StagedOutputResources.seen (device : Device) :
    StagedOutputResources → Vulkan.StagedOutputResources
  | rgba view sampled => .rgba ⟨view.number⟩ (sampled.seen device)
  | nv12 sampled => .nv12 (sampled.seen device)
  | transferYuvPlanes luma chroma => .transferYuvPlanes (luma.seen device) (chroma.seen device)
  | yuvPlanes lumaView luma chromaView chroma =>
    .yuvPlanes ⟨lumaView.number⟩ (luma.seen device) ⟨chromaView.number⟩ (chroma.seen device)

/-- The slot as an import sees it. -/
def StagedOutputSlot.seen (device : Device) (slot : StagedOutputSlot) : Vulkan.StagedOutputSlot :=
  ⟨device, slot.descriptorSet.map fun set => ⟨set.number⟩, slot.resources.seen device⟩

/-- A compute pipeline with its layouts. -/
structure ComputePipeline where
  /-- The layout of its descriptor set. -/
  descriptorSetLayout : Handle
  /-- The layout of its sets and push constants. -/
  pipelineLayout : Handle
  /-- The pipeline. -/
  pipeline : Handle
deriving DecidableEq

/-- A pipeline that converts NV12. -/
structure Nv12ComputePipeline where
  /-- What it writes. -/
  output : Nv12ComputeOutput
  /-- The pipeline with its layouts. -/
  pipeline : ComputePipeline
deriving DecidableEq

/-- The set of a slot, out of its pool.  When the list of sets is empty, the pool is
left as it is. -/
def allocateStagedSet (pool : Handle) (sets : Except VkError Listed) :
    Effect DeviceState String Handle := do
  match sets with
  | .ok listed =>
    let sets ← lendList .descriptorSet pool listed
    take (orRefuse sets.head? "Vulkan returned no staged NV12 descriptor set")
  | .error e =>
    destroy pool
    throw (failed "failed to allocate staged NV12 descriptor set" e)

/-- The pool and the set of a slot. -/
def createStagedSet (calls : SlotCalls) : Effect DeviceState String (Handle × Handle) := do
  let pool ← create .descriptorPool [] calls.descriptorPool
    (failed "failed to create staged NV12 descriptor pool")
  let set ← allocateStagedSet pool calls.descriptorSets
  return (pool, set)

/-- Make a slot for a compute strategy whose pipeline has the output expected. -/
def createComputeSlot (device : DeviceContext) (expected : Nv12ComputeOutput)
    (pipeline : Option Nv12ComputePipeline) (sourceView : Option BufferView) (calls : SlotCalls) :
    Effect DeviceState String StagedOutputSlot := do
  let pipeline ← take (orRefuse pipeline
    "Vulkan compute NV12 output is missing its compute pipeline")
  let sourceView ← take (orRefuse sourceView
    "Vulkan compute NV12 output is missing its uniform texel-buffer view")
  failWhen (pipeline.output != expected) "Vulkan NV12 pipeline/output strategy mismatch"
  let resources ← createComputeResources device expected calls
  let (pool, set) ← onFailure (createStagedSet calls) resources.drop
  let slot : StagedOutputSlot := ⟨some pool, some set, resources⟩
  let _ ← onFailure (take (updateStagedDescriptorSet (slot.seen device.device) sourceView))
    slot.drop
  return slot

/-- A strategy that samples its source has no slot. -/
def createDirectSlot (pipeline : Option Nv12ComputePipeline) (sourceView : Option BufferView) :
    Effect DeviceState String StagedOutputSlot := do
  let _ ← take (orRefuse pipeline "Vulkan compute NV12 output is missing its compute pipeline")
  let _ ← take (orRefuse sourceView
    "Vulkan compute NV12 output is missing its uniform texel-buffer view")
  throw "direct NV12 import cannot allocate a compute output slot"

/-- `create_staged_output_slot`. -/
def createStagedOutputSlot (device : DeviceContext) (strategy : Nv12ImportStrategy)
    (pipeline : Option Nv12ComputePipeline) (sourceView : Option BufferView) (calls : SlotCalls) :
    Effect DeviceState String StagedOutputSlot :=
  match strategy with
  | .directImageToOptimalYuvPlanes | .linearBufferToOptimalNv12
  | .linearBufferToOptimalYuvPlanes => do
    failWhen (pipeline.isSome || sourceView.isSome)
      "Vulkan NV12 transfer output must not carry compute resources"
    let resources ← createTransferResources device strategy calls
    return ⟨none, none, resources⟩
  | .linearBufferToRgba => createComputeSlot device .rgba pipeline sourceView calls
  | .linearBufferToYuvPlanes => createComputeSlot device .yuvPlanes pipeline sourceView calls
  | .directSampledImage => createDirectSlot pipeline sourceView

/-- The set of a packed slot.  Here the pool is destroyed when the list is empty. -/
def allocatePackedSet (pool : Handle) (sets : Except VkError Listed) :
    Effect DeviceState String Handle := do
  match sets with
  | .ok listed =>
    let sets ← lendList .descriptorSet pool listed
    onFailure (take (orRefuse sets.head? "Vulkan returned no staged packed descriptor set"))
      (destroy pool)
  | .error e =>
    destroy pool
    throw (failed "failed to allocate staged packed descriptor set" e)

/-- The pool and the set of a packed slot. -/
def createPackedSet (calls : SlotCalls) : Effect DeviceState String (Handle × Handle) := do
  let pool ← create .descriptorPool [] calls.descriptorPool
    (failed "failed to create staged packed descriptor pool")
  let set ← allocatePackedSet pool calls.descriptorSets
  return (pool, set)

/-- `create_packed_output_slot`, which destroys the pool when it yields no set. -/
def createPackedOutputSlot (device : DeviceContext) (calls : SlotCalls) :
    Effect DeviceState String PackedOutputSlot := do
  let (sampled, storageView) ← createViewedImage device calls.image calls.view
  let (pool, set) ← onFailure (createPackedSet calls) (do
    destroy storageView
    sampled.drop)
  return ⟨pool, set, storageView, sampled⟩

/-! ## Pipelines -/

/-- The results of making a compute pipeline, and the bytes of its embedded shader.
A pipeline can be in the list of a call that failed. -/
structure PipelineCalls where
  /-- The failure of the layout of the set. -/
  descriptorSetLayout : Option VkError
  /-- The failure of the pipeline layout. -/
  pipelineLayout : Option VkError
  /-- The compiled shader. -/
  shaderBytes : List UInt8
  /-- The failure of its module. -/
  shaderModule : Option VkError
  /-- The pipelines that were made. -/
  pipelines : Listed
  /-- The error they came with, if any. -/
  pipelinesFailure : Option VkError

/-- A little-endian word. -/
def wordFromLeBytes (a b c d : UInt8) : UInt32 :=
  a.toUInt32 ||| b.toUInt32 <<< 8 ||| c.toUInt32 <<< 16 ||| d.toUInt32 <<< 24

/-- Whole words, or nothing. -/
def asWords : List UInt8 → Option (List UInt32)
  | [] => some []
  | a :: b :: c :: d :: rest => (asWords rest).map (wordFromLeBytes a b c d :: ·)
  | _ => none

/-- `shader_words` and `packed_shader_words`. -/
def shaderWords (name : String) (bytes : List UInt8) : Except String (List UInt32) :=
  orRefuse (asWords bytes) s!"embedded {name} compute shader has an invalid byte length"

/-- The pipeline of a shader.  The shader is not needed after. -/
def createPipelineOf (name : String) (pipelineLayout shader : Handle) (calls : PipelineCalls) :
    Effect DeviceState String Handle := do
  let pipelines ← makeList .pipeline [pipelineLayout] calls.pipelines
  destroy shader
  match calls.pipelinesFailure with
  | none =>
    onFailure
      (take (orRefuse pipelines.getLast? s!"Vulkan returned no {name} compute pipeline"))
      (destroy pipelineLayout)
  | some e =>
    pipelines.forM destroy
    destroy pipelineLayout
    throw (failed s!"failed to create {name} compute pipeline" e)

/-- The pipeline of one shader, given the layout of its set. -/
def createPipeline (name : String) (pushConstantSize : Nat) (descriptorSetLayout : Handle)
    (calls : PipelineCalls) : Effect DeviceState String ComputePipeline := do
  failWhen (2 ^ 32 ≤ pushConstantSize) s!"{name} push-constant size exceeds u32"
  let pipelineLayout ← create .pipelineLayout [descriptorSetLayout] calls.pipelineLayout
    (failed s!"failed to create {name} pipeline layout")
  let _ ← onFailure (take (shaderWords name calls.shaderBytes)) (destroy pipelineLayout)
  let shader ← onFailure
    (create .shaderModule [] calls.shaderModule (failed s!"failed to create {name} compute shader"))
    (destroy pipelineLayout)
  let pipeline ← createPipelineOf name pipelineLayout shader calls
  return ⟨descriptorSetLayout, pipelineLayout, pipeline⟩

/-- A pipeline with its layouts.  `name` is the pipeline's in an error. -/
def ComputePipeline.new (name : String) (pushConstantSize : Nat) (calls : PipelineCalls) :
    Effect DeviceState String ComputePipeline := do
  let descriptorSetLayout ← create .descriptorSetLayout [] calls.descriptorSetLayout
    (failed s!"failed to create {name} descriptor layout")
  onFailure (createPipeline name pushConstantSize descriptorSetLayout calls)
    (destroy descriptorSetLayout)

/-- Nine words of push constants. -/
def Nv12ComputePipeline.new (output : Nv12ComputeOutput) (calls : PipelineCalls) :
    Effect DeviceState String Nv12ComputePipeline := do
  let pipeline ← ComputePipeline.new "NV12" 36 calls
  return ⟨output, pipeline⟩

/-- Five words of push constants. -/
def PackedComputePipeline.new (calls : PipelineCalls) :
    Effect DeviceState String ComputePipeline :=
  ComputePipeline.new "packed" 20 calls

/-! ## Lanes -/

/-- The results of making a lane. -/
structure SyncCalls where
  /-- The failure of the command pool for acquires. -/
  acquirePool : Option VkError
  /-- The failure of the one for releases. -/
  releasePool : Option VkError
  /-- The command buffers out of the first. -/
  acquireCommands : Except VkError Listed
  /-- The command buffers out of the second. -/
  releaseCommands : Except VkError Listed
  /-- The failure of the fence of acquires. -/
  acquireFence : Option VkError
  /-- The failure of the fence of releases. -/
  releaseFence : Option VkError
  /-- The failure of the timestamp pool. -/
  queryPool : Option VkError

/-- `ImportedImageSync` with the handles it keeps to itself. -/
structure SyncLane where
  /-- The command pool for acquires. -/
  acquirePool : Handle
  /-- The command buffer out of it. -/
  acquireCommand : Handle
  /-- The command pool for releases. -/
  releasePool : Handle
  /-- The command buffer out of it. -/
  releaseCommand : Handle
  /-- Signalled when an acquire is done. -/
  acquireFence : Handle
  /-- Signalled when a release is done. -/
  releaseFence : Handle
  /-- The lane as the renderer uses it. -/
  lane : ImportedImageSync

/-- A command pool of a lane. -/
def createCommandPool (label : String) (failure : Option VkError) :
    Effect DeviceState String Handle :=
  create .commandPool [] failure (failed s!"failed to create Vulkan {label} command pool")

/-- The one command buffer of a pool. -/
def allocateCommand (pool : Handle) (label : String) (commands : Except VkError Listed) :
    Effect DeviceState String Handle := do
  match commands with
  | .ok listed =>
    let commands ← lendList .commandBuffer pool listed
    take (orRefuse commands.head? s!"Vulkan returned no {label} command buffer")
  | .error e => throw (failed s!"failed to allocate Vulkan {label} command buffer" e)

/-- Report on GPU timing. -/
def reportVideoGpuTiming (status : String) : Effect DeviceState SyncError Unit :=
  modify fun s => { s with timingReports := status :: s.timingReports }

/-- Mark the device as lost. -/
def markDeviceLost : Effect DeviceState SyncError Unit := modify fun s => { s with lost := true }

/-- A pool of timestamps, where the device has them.  Running out of memory for it is
no failure. -/
def createTimestampQuery (device : DeviceContext) (failure : Option VkError) :
    Effect DeviceState SyncError (Option TimestampQuery) := do
  let validBits := device.timestampValidBits.getD device.family.toNat 0
  match device.timestampPeriod, (validBits == 0 || validBits > 64 : Bool) with
  | some period, false => match failure with
    | none =>
      let pool ← make .queryPool []
      reportVideoGpuTiming "ready"
      return some ⟨pool.number, period, validBits⟩
    | some .outOfHostMemory | some .outOfDeviceMemory =>
      reportVideoGpuTiming "failed"
      return none
    | some .deviceLost =>
      markDeviceLost
      throw (.lost .other
        (failed "failed to create Vulkan video timestamp pool" .deviceLost))
    | some e => throw (.new .other (failed "failed to create Vulkan video timestamp pool" e))
  | _, _ =>
    reportVideoGpuTiming "unsupported"
    return none

/-- A lane with its two pools. -/
def newLane (device : DeviceContext) (acquirePool releasePool : Handle) (calls : SyncCalls) :
    Effect DeviceState SyncError SyncLane := do
  let acquireCommand ← ExceptT.adapt (.new .other)
    (allocateCommand acquirePool "imported-image acquire" calls.acquireCommands)
  let releaseCommand ← ExceptT.adapt (.new .other)
    (allocateCommand releasePool "imported-image release" calls.releaseCommands)
  let acquireFence ← create .fence [] calls.acquireFence fun e =>
    .new .releaseFenceCreate (failed "failed to create imported-image source fence" e)
  let releaseFence ← onFailure
    (create .fence [] calls.releaseFence fun e =>
      .new .releaseFenceCreate (failed "failed to create imported-image release fence" e))
    (destroy acquireFence)
  let query ← onFailure
    (if device.videoGpuTimingEnabled then createTimestampQuery device calls.queryPool
      else return none)
    (do
      destroy releaseFence
      destroy acquireFence)
  return ⟨acquirePool, acquireCommand, releasePool, releaseCommand, acquireFence, releaseFence,
    (LaneState.new device.family query).lane⟩

/-- `ImportedImageSync::new`. -/
def SyncLane.new (device : DeviceContext) (calls : SyncCalls) :
    Effect DeviceState SyncError SyncLane := do
  let acquirePool ← ExceptT.adapt (.new .other)
    (createCommandPool "imported-image acquire" calls.acquirePool)
  let releasePool ← onFailure
    (ExceptT.adapt (.new .other) (createCommandPool "imported-image release" calls.releasePool))
    (destroy acquirePool)
  onFailure (newLane device acquirePool releasePool calls) (do
    destroy releasePool
    destroy acquirePool)

/-! ## Runs -/

/-- A constructor with its arguments and the results of its calls. -/
inductive Constructor where
  | createStagedOutputSlot (strategy : Nv12ImportStrategy) (pipeline : Option Nv12ComputePipeline)
      (sourceView : Option BufferView) (calls : SlotCalls)
  | createPackedOutputSlot (calls : SlotCalls)
  | createImportedBuffer (sourceFd : Int32) (bufferSize allocationSize : UInt64)
      (calls : ImportCalls)
  | createDirectImage (sourceSize : Option UInt64) (calls : ImportCalls)
  | createLocalImage (calls : LocalImageCalls)
  | nv12ComputePipeline (output : Nv12ComputeOutput) (calls : PipelineCalls)
  | packedComputePipeline (calls : PipelineCalls)
  | importedImageSync (calls : SyncCalls)

/-- The handles an image owns. -/
def ImageAllocation.handles (a : ImageAllocation) : List Handle := [a.image, a.memory]

/-- The handles a buffer owns. -/
def BufferAllocation.handles (a : BufferAllocation) : List Handle := [a.buffer, a.memory]

/-- The handles the images and views of a slot are. -/
def StagedOutputResources.handles : StagedOutputResources → List Handle
  | rgba view sampled => view :: sampled.handles
  | nv12 sampled => sampled.handles
  | transferYuvPlanes luma chroma => luma.handles ++ chroma.handles
  | yuvPlanes lumaView luma chromaView chroma =>
    lumaView :: luma.handles ++ chromaView :: chroma.handles

/-- The handles a slot owns. -/
def StagedOutputSlot.handles (slot : StagedOutputSlot) : List Handle :=
  slot.descriptorPool.toList ++ slot.descriptorSet.toList ++ slot.resources.handles

/-- The handles a packed slot owns. -/
def PackedOutputSlot.handles (slot : PackedOutputSlot) : List Handle :=
  slot.descriptorPool :: slot.descriptorSet :: slot.storageView :: slot.sampled.handles

/-- The handles a pipeline owns. -/
def ComputePipeline.handles (p : ComputePipeline) : List Handle :=
  [p.descriptorSetLayout, p.pipelineLayout, p.pipeline]

/-- The handles a lane owns. -/
def SyncLane.handles (lane : SyncLane) : List Handle :=
  [lane.acquirePool, lane.acquireCommand, lane.releasePool, lane.releaseCommand,
    lane.acquireFence, lane.releaseFence] ++
  lane.lane.timestampQuery.toList.map fun query => ⟨.queryPool, query.pool⟩

/-- The handles of what a constructor returns, if it succeeds, and the events of the
call. -/
def outcome {ε α : Type} (x : Effect DeviceState ε α) (handles : α → List Handle) (next : Nat) :
    Option (List Handle) × List (HandleEvent Handle) :=
  match x.exec (.new next) with
  | (.ok a, s) => (some (handles a), s.events)
  | (.error _, s) => (none, s.events)

/-- Call a constructor on a device whose next handle has the number `next`. -/
def Constructor.run (device : DeviceContext) (next : Nat) :
    Constructor → Option (List Handle) × List (HandleEvent Handle)
  | createStagedOutputSlot strategy pipeline sourceView calls =>
    outcome (Construction.createStagedOutputSlot device strategy pipeline sourceView calls)
      (·.handles) next
  | createPackedOutputSlot calls =>
    outcome (Construction.createPackedOutputSlot device calls) (·.handles) next
  | createImportedBuffer sourceFd bufferSize allocationSize calls =>
    outcome (Construction.createImportedBuffer device sourceFd bufferSize allocationSize calls)
      (·.handles) next
  | createDirectImage sourceSize calls =>
    outcome (Construction.createDirectImage device sourceSize calls) (·.handles) next
  | createLocalImage calls =>
    outcome (Construction.createLocalImage device calls) (·.handles) next
  | nv12ComputePipeline output calls =>
    outcome (Nv12ComputePipeline.new output calls) (·.pipeline.handles) next
  | packedComputePipeline calls => outcome (PackedComputePipeline.new calls) (·.handles) next
  | importedImageSync calls => outcome (SyncLane.new device calls) (·.handles) next

/-- A call that fails leaves nothing of what it made.  What a call returns was not
destroyed. -/
def LeaksNothing : Option (List Handle) × List (HandleEvent Handle) → Prop
  | (some handles, events) => ∀ h ∈ handles, Alive events h
  | (none, events) => LeavesNothing IsDescriptor events

end VideoInterop.Vulkan.Construction
