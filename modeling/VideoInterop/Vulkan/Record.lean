import VideoInterop.Vulkan.Shader

/-!
# Recording an acquire and a release

An imported image tells the synchronization lane how to acquire it: an
`AcquirePlan`.  The lane records a command buffer from the plan, and another for
the release.  The commands here carry what the code puts into them; what the
queue does with them is for later modules.

Beginning and ending a command buffer can fail.  Their results are arguments.
-/

namespace VideoInterop.Vulkan

/-! ## Handles -/

/-- An image. -/
structure Image where
  /-- The handle. -/
  handle : Nat
deriving DecidableEq

/-- A buffer. -/
structure Buffer where
  /-- The handle. -/
  handle : Nat
deriving DecidableEq

/-- A view of a buffer's words. -/
structure BufferView where
  /-- The handle. -/
  handle : Nat
deriving DecidableEq

/-- A descriptor set. -/
structure DescriptorSet where
  /-- The handle. -/
  handle : Nat
deriving DecidableEq

/-- A pipeline with its layout. -/
structure Pipeline where
  /-- The pipeline. -/
  pipeline : Nat
  /-- Its layout. -/
  layout : Nat
deriving DecidableEq

/-- The error codes the code tells apart, and any other by its name. -/
inductive VkError where
  | deviceLost
  | notReady
  | outOfHostMemory
  | outOfDeviceMemory
  | other (name : String)
deriving DecidableEq

/-- A code as error texts show it. -/
def VkError.text : VkError → String
  | deviceLost => "ERROR_DEVICE_LOST"
  | notReady => "NOT_READY"
  | outOfHostMemory => "ERROR_OUT_OF_HOST_MEMORY"
  | outOfDeviceMemory => "ERROR_OUT_OF_DEVICE_MEMORY"
  | other name => name

/-! ## Acquire plans -/

/-- The images a staging fills and the renderer samples. -/
inductive StagedSampledImages where
  | rgba (image : Image)
  | bgra (image : Image)
  | nv12 (image : Image)
  | yuvPlanes (luma chroma : Image)
deriving DecidableEq

/-- The push constants of the packed shader. -/
structure PackedPushConstants where
  /-- Columns. -/
  width : UInt32
  /-- Rows. -/
  height : UInt32
  /-- The first byte of the image. -/
  offset : UInt32
  /-- The bytes from one row to the next. -/
  pitch : UInt32
  /-- The order of the channels. -/
  sourceFormat : UInt32
deriving DecidableEq

/-- The constants of either shader. -/
inductive StagedPushConstants where
  | nv12 (constants : Nv12PushConstants)
  | packed (constants : PackedPushConstants)
deriving DecidableEq

/-- A dispatch that fills the output. -/
structure StagedAcquirePlan where
  /-- The buffer that is read. -/
  sourceBuffer : Buffer
  /-- Its length in bytes. -/
  sourceSize : UInt64
  /-- The images that are written. -/
  output : StagedSampledImages
  /-- Were they written before? -/
  outputInitialized : Bool
  /-- What the shader is bound to. -/
  descriptorSet : DescriptorSet
  /-- The pipeline. -/
  pipeline : Pipeline
  /-- The constants it is given. -/
  pushConstants : StagedPushConstants
  /-- How many work groups. -/
  dispatch : UInt32 × UInt32
deriving DecidableEq

/-- Copies of a buffer that fill the output. -/
structure StagedTransferPlan where
  /-- The buffer that is read. -/
  sourceBuffer : Buffer
  /-- Its length in bytes. -/
  sourceSize : UInt64
  /-- The images that are written. -/
  output : StagedSampledImages
  /-- Were they written before? -/
  outputInitialized : Bool
  /-- Columns and rows. -/
  dimensions : UInt32 × UInt32
  /-- The luma and the chroma plane. -/
  planes : Vector ImportedPlane 2
deriving DecidableEq

/-- Copies of an image that fill the output. -/
structure StagedImageTransferPlan where
  /-- The image that is read. -/
  sourceImage : Image
  /-- The images that are written. -/
  output : StagedSampledImages
  /-- Were they written before? -/
  outputInitialized : Bool
  /-- Columns and rows. -/
  dimensions : UInt32 × UInt32
deriving DecidableEq

/-- What an acquire records. -/
inductive AcquirePlan where
  /-- The image is sampled as it is. -/
  | directImage (image : Image)
  /-- A shader fills the output. -/
  | stagedCompute (plan : StagedAcquirePlan)
  /-- Copies of a buffer fill the output. -/
  | stagedTransfer (plan : StagedTransferPlan)
  /-- Copies of an image fill the output. -/
  | stagedImageTransfer (plan : StagedImageTransferPlan)
deriving DecidableEq

/-! ## Commands -/

/-- The layouts of an image that are used. -/
inductive Layout where
  | undefined
  | general
  | shaderReadOnlyOptimal
  | transferSrcOptimal
  | transferDstOptimal
deriving DecidableEq

/-- An access mask: of those the code uses, each is one access or none. -/
inductive Access where
  | none
  | shaderRead
  | shaderWrite
  | transferRead
  | transferWrite
  | memoryRead
deriving DecidableEq

/-- The pipeline stages that are used. -/
inductive Stage where
  | topOfPipe
  | fragmentShader
  | computeShader
  | transfer
  | allCommands
  | bottomOfPipe
deriving DecidableEq

/-- A queue family index. -/
abbrev QueueFamily := UInt32

/-- `QUEUE_FAMILY_EXTERNAL`, the owner of a dma-buf outside this device. -/
def dmaBufExternalQueueFamily : QueueFamily := 0xFFFFFFFE

/-- `QUEUE_FAMILY_IGNORED`: no change of owner. -/
def queueFamilyIgnored : QueueFamily := 0xFFFFFFFF

/-- A barrier on a buffer. -/
structure BufferBarrier where
  /-- The accesses before it. -/
  srcAccess : Access
  /-- The accesses after it. -/
  dstAccess : Access
  /-- The family that releases the buffer. -/
  srcFamily : QueueFamily
  /-- The family that acquires it. -/
  dstFamily : QueueFamily
  /-- The buffer. -/
  buffer : Buffer
  /-- The bytes from its start. -/
  size : UInt64
deriving DecidableEq

/-- A barrier on an image. -/
structure ImageBarrier where
  /-- The image. -/
  image : Image
  /-- The accesses before it. -/
  srcAccess : Access
  /-- The accesses after it. -/
  dstAccess : Access
  /-- The layout before it. -/
  oldLayout : Layout
  /-- The layout after it. -/
  newLayout : Layout
  /-- The family that releases the image. -/
  srcFamily : QueueFamily
  /-- The family that acquires it. -/
  dstFamily : QueueFamily
deriving DecidableEq

/-- The parts of an image. -/
inductive Aspect where
  | color
  | plane0
  | plane1
deriving DecidableEq

/-- `vk::BufferImageCopy`, of one layer from the image's origin. -/
structure BufferImageCopy where
  /-- The first byte that is read. -/
  bufferOffset : UInt64
  /-- The texels from one row to the next. -/
  bufferRowLength : UInt32
  /-- The rows of a layer, zero for those of the extent. -/
  bufferImageHeight : UInt32
  /-- The part that is written. -/
  aspect : Aspect
  /-- Columns and rows. -/
  extent : UInt32 × UInt32
deriving DecidableEq

/-- `vk::ImageCopy`, of one layer from the origin to the origin. -/
structure ImageCopy where
  /-- The part that is read. -/
  sourceAspect : Aspect
  /-- Columns and rows. -/
  extent : UInt32 × UInt32
deriving DecidableEq

/-- The commands that are recorded. -/
inductive Command where
  | resetQueryPool (pool first count : Nat)
  | writeTimestamp (stage : Stage) (pool query : Nat)
  | pipelineBarrier (source target : Stage) (buffers : List BufferBarrier)
      (images : List ImageBarrier)
  | bindPipeline (pipeline : Nat)
  | bindDescriptorSets (layout : Nat) (set : DescriptorSet)
  | pushConstants (layout : Nat) (constants : StagedPushConstants)
  | dispatch (x y z : UInt32)
  | copyBufferToImage (source : Buffer) (image : Image) (layout : Layout)
      (regions : List BufferImageCopy)
  | copyImage (source : Image) (sourceLayout : Layout) (image : Image) (layout : Layout)
      (regions : List ImageCopy)
deriving DecidableEq

/-! ## Recording -/

/-- What beginning and ending a command buffer fail with. -/
structure RecordResults where
  /-- The failure of the begin. -/
  begun : Option VkError
  /-- The failure of the end. -/
  ended : Option VkError

/-- The results of a recording that succeeds. -/
def RecordResults.success : RecordResults := ⟨none, none⟩

/-- `begin_command`. -/
def beginCommand (results : RecordResults) : Except String Unit :=
  match results.begun with
  | none => .ok ()
  | some e => .error ("failed to begin Vulkan import command buffer: " ++ e.text)

/-- `end_command`. -/
def endCommand (results : RecordResults) : Except String Unit :=
  match results.ended with
  | none => .ok ()
  | some e => .error ("failed to end Vulkan import command buffer: " ++ e.text)

/-- A command buffer around what is put into it. -/
def record (results : RecordResults) (commands : List Command) : Except String (List Command) := do
  beginCommand results
  endCommand results
  return commands

/-- A barrier on the colour of an image, to be filled in. -/
def colorRange (image : Image) : ImageBarrier :=
  ⟨image, .none, .none, .undefined, .undefined, 0, 0⟩

/-- The images of an output, luma first. -/
def stagedOutputImages : StagedSampledImages → List Image
  | .rgba image => [image]
  | .bgra image => [image]
  | .nv12 image => [image]
  | .yuvPlanes luma chroma => [luma, chroma]

section
variable (family : QueueFamily) (results : RecordResults)

/-- Take a source buffer from outside the device. -/
def sourceAcquire (access : Access) (buffer : Buffer) (size : UInt64) : BufferBarrier :=
  ⟨.none, access, dmaBufExternalQueueFamily, family, buffer, size⟩

/-- Give it back. -/
def sourceRelease (access : Access) (buffer : Buffer) (size : UInt64) : BufferBarrier :=
  ⟨access, .none, family, dmaBufExternalQueueFamily, buffer, size⟩

/-- Make an output image writable.  What it held before is kept only if a
staging has filled it. -/
def outputAcquire (initialized : Bool) (access : Access) (layout : Layout) (image : Image) :
    ImageBarrier :=
  { colorRange image with
    srcAccess := if initialized then .shaderRead else .none
    dstAccess := access
    oldLayout := if initialized then .shaderReadOnlyOptimal else .undefined
    newLayout := layout
    srcFamily := queueFamilyIgnored
    dstFamily := queueFamilyIgnored }

/-- Make an output image readable. -/
def outputRelease (access : Access) (layout : Layout) (image : Image) : ImageBarrier :=
  { colorRange image with
    srcAccess := access
    dstAccess := .shaderRead
    oldLayout := layout
    newLayout := .shaderReadOnlyOptimal
    srcFamily := queueFamilyIgnored
    dstFamily := queueFamilyIgnored }

/-- What an acquire has to wait for: the last reader of its output, if any. -/
def outputStage (initialized : Bool) : Stage := if initialized then .fragmentShader else .topOfPipe

/-- Reset the three timestamps and write the first. -/
def startTimestamps : Option Nat → List Command
  | none => []
  | some pool => [.resetQueryPool pool 0 3, .writeTimestamp .topOfPipe pool 0]

/-- Write a later timestamp. -/
def endTimestamp (index : Nat) : Option Nat → List Command
  | none => []
  | some pool => [.writeTimestamp .bottomOfPipe pool index]

/-- Take an image over from its producer. -/
def recordDirectAcquire (image : Image) : Except String (List Command) :=
  -- The producer has filled the image in GENERAL, so its bytes are kept.
  record results [.pipelineBarrier .topOfPipe .fragmentShader []
    [{ colorRange image with
        dstAccess := .shaderRead
        oldLayout := .general
        newLayout := .shaderReadOnlyOptimal
        srcFamily := dmaBufExternalQueueFamily
        dstFamily := family }]]

/-- Take a buffer over, convert it and give it back. -/
def recordStagedAcquire (plan : StagedAcquirePlan) (query : Option Nat) :
    Except String (List Command) :=
  record results <| startTimestamps query ++
    [.pipelineBarrier (outputStage plan.outputInitialized) .computeShader
        [sourceAcquire family .shaderRead plan.sourceBuffer plan.sourceSize]
        ((stagedOutputImages plan.output).map
          (outputAcquire plan.outputInitialized .shaderWrite .general)),
      .bindPipeline plan.pipeline.pipeline,
      .bindDescriptorSets plan.pipeline.layout plan.descriptorSet,
      .pushConstants plan.pipeline.layout plan.pushConstants,
      .dispatch plan.dispatch.1 plan.dispatch.2 1,
      .pipelineBarrier .computeShader .fragmentShader []
        ((stagedOutputImages plan.output).map (outputRelease .shaderWrite .general)),
      .pipelineBarrier .computeShader .bottomOfPipe
        [sourceRelease family .shaderRead plan.sourceBuffer plan.sourceSize] []] ++
    endTimestamp 1 query

/-- `nv12_transfer_region`. -/
def nv12TransferRegion (aspect : Aspect) (bufferOffset : UInt64) (bufferRowLength : UInt32)
    (width height : UInt32) : BufferImageCopy :=
  ⟨bufferOffset, bufferRowLength, 0, aspect, (width, height)⟩

/-- The regions that fill the two planes of an NV12 image. -/
def nv12MultiplanarTransferRegions (plan : StagedTransferPlan) : Vector BufferImageCopy 2 :=
  #v[nv12TransferRegion .plane0 (lumaOf plan.planes).offset (lumaOf plan.planes).pitch
      plan.dimensions.1 plan.dimensions.2,
    nv12TransferRegion .plane1 (chromaOf plan.planes).offset ((chromaOf plan.planes).pitch / 2)
      (plan.dimensions.1 / 2) (plan.dimensions.2 / 2)]

/-- The regions that fill two images, one for each plane. -/
def nv12SeparateTransferRegions (plan : StagedTransferPlan) : Vector BufferImageCopy 2 :=
  #v[nv12TransferRegion .color (lumaOf plan.planes).offset (lumaOf plan.planes).pitch
      plan.dimensions.1 plan.dimensions.2,
    nv12TransferRegion .color (chromaOf plan.planes).offset ((chromaOf plan.planes).pitch / 2)
      (plan.dimensions.1 / 2) (plan.dimensions.2 / 2)]

/-- The copies of a transfer staging, for the outputs it may have. -/
def transferCopies (plan : StagedTransferPlan) : Except String (List Command) :=
  match plan.output with
  | .nv12 image => .ok [.copyBufferToImage plan.sourceBuffer image .transferDstOptimal
      (nv12MultiplanarTransferRegions plan).toList]
  | .yuvPlanes luma chroma =>
    let regions := nv12SeparateTransferRegions plan
    .ok [.copyBufferToImage plan.sourceBuffer luma .transferDstOptimal [lumaOf regions],
      .copyBufferToImage plan.sourceBuffer chroma .transferDstOptimal [chromaOf regions]]
  | .rgba _ | .bgra _ => .error "Vulkan NV12 transfer has a non-planar output"

/-- Take a buffer over, copy its planes and give it back. -/
def recordStagedTransferAcquire (plan : StagedTransferPlan) (query : Option Nat) :
    Except String (List Command) := do
  -- The output is looked at before the command buffer is begun.
  let copies ← transferCopies plan
  record results <| startTimestamps query ++
    [.pipelineBarrier (outputStage plan.outputInitialized) .transfer
        [sourceAcquire family .transferRead plan.sourceBuffer plan.sourceSize]
        ((stagedOutputImages plan.output).map
          (outputAcquire plan.outputInitialized .transferWrite .transferDstOptimal))] ++
    copies ++
    [.pipelineBarrier .transfer .fragmentShader []
        ((stagedOutputImages plan.output).map (outputRelease .transferWrite .transferDstOptimal)),
      .pipelineBarrier .transfer .bottomOfPipe
        [sourceRelease family .transferRead plan.sourceBuffer plan.sourceSize] []] ++
    endTimestamp 1 query

/-- `image_copy_region`. -/
def imageCopyRegion (sourceAspect : Aspect) (width height : UInt32) : ImageCopy :=
  ⟨sourceAspect, (width, height)⟩

/-- The two images a copy between images fills. -/
def separateOutputs : StagedSampledImages → Except String (Image × Image)
  | .yuvPlanes luma chroma => .ok (luma, chroma)
  | _ => .error "Vulkan direct-image NV12 transfer requires separate YUV outputs"

/-- Take an image over, copy its planes and give it back. -/
def recordStagedImageTransferAcquire (plan : StagedImageTransferPlan) (query : Option Nat) :
    Except String (List Command) := do
  let (luma, chroma) ← separateOutputs plan.output
  record results <| startTimestamps query ++
    [.pipelineBarrier (outputStage plan.outputInitialized) .transfer []
        ({ colorRange plan.sourceImage with
            dstAccess := .transferRead
            oldLayout := .general
            newLayout := .transferSrcOptimal
            srcFamily := dmaBufExternalQueueFamily
            dstFamily := family } ::
          [luma, chroma].map
            (outputAcquire plan.outputInitialized .transferWrite .transferDstOptimal)),
      .copyImage plan.sourceImage .transferSrcOptimal luma .transferDstOptimal
        [imageCopyRegion .plane0 plan.dimensions.1 plan.dimensions.2],
      .copyImage plan.sourceImage .transferSrcOptimal chroma .transferDstOptimal
        [imageCopyRegion .plane1 (plan.dimensions.1 / 2) (plan.dimensions.2 / 2)],
      .pipelineBarrier .transfer .fragmentShader []
        ([luma, chroma].map (outputRelease .transferWrite .transferDstOptimal)),
      .pipelineBarrier .transfer .bottomOfPipe []
        [{ colorRange plan.sourceImage with
            srcAccess := .transferRead
            oldLayout := .transferSrcOptimal
            newLayout := .general
            srcFamily := family
            dstFamily := dmaBufExternalQueueFamily }]] ++
    endTimestamp 1 query

/-- The release of a staged import: its source has gone back with the acquire. -/
def recordStagedRelease (query : Option Nat) : Except String (List Command) :=
  record results (endTimestamp 2 query)

/-- Give an image back to its producer. -/
def recordDirectRelease (image : Image) : Except String (List Command) :=
  record results [.pipelineBarrier .allCommands .bottomOfPipe []
    [{ colorRange image with
        srcAccess := .memoryRead
        oldLayout := .shaderReadOnlyOptimal
        newLayout := .general
        srcFamily := family
        dstFamily := dmaBufExternalQueueFamily }]]

end

/-- A recording succeeds if and only if the command buffer is begun and ended. -/
theorem record_ok {results : RecordResults} {commands recorded : List Command} :
    record results commands = .ok recorded ↔
      results.begun = none ∧ results.ended = none ∧ recorded = commands := by
  obtain ⟨_ | e, _ | e'⟩ := results
  · exact ⟨fun h => ⟨rfl, rfl, by cases h; rfl⟩, fun ⟨_, _, h⟩ => h ▸ rfl⟩
  · exact ⟨nofun, nofun⟩
  · exact ⟨nofun, nofun⟩
  · exact ⟨nofun, nofun⟩

end VideoInterop.Vulkan
