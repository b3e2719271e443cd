import VideoInterop.Lib.Effect
import VideoInterop.Vulkan.Imported

/-!
# The importer

An importer holds the two source caches, the two output pools and the pipelines of
the compute stagings.  An import claims a source, and for a staging a slot, and puts
an image together from them.  Its methods are effects, with the results of the calls
they make as arguments.

Imports are given here one after the other.  What runs at once in a cache or a pool
is in `CacheRuns` and `PoolRuns`.
-/

namespace VideoInterop.Vulkan

open VideoInterop (Effect)

/-! ## The importer -/

/-- The limits an importer is made with. -/
structure VulkanImportPoolLimits where
  /-- Of the cache of NV12 sources. -/
  nv12SourceCacheEntries : Nat
  /-- Of the pool of NV12 outputs. -/
  nv12OutputSlots : Nat
  /-- Of the cache of packed sources. -/
  packedSourceCacheEntries : Nat
  /-- Of the pool of packed outputs. -/
  packedOutputSlots : Nat

/-- `VulkanDmaBufImporter`, with the limit of its device on buffer views and the
next import id, which all importers share. -/
structure Importer where
  /-- The device it imports to. -/
  device : Device
  /-- The most words of a buffer view. -/
  maxTexelBufferElements : UInt32
  /-- What the device can do with NV12 images. -/
  nv12Capabilities : List Nv12ModifierCapability
  /-- The slots of NV12 outputs. -/
  nv12OutputPool : Nv12OutputPool StagedOutputSlot
  /-- The NV12 sources. -/
  nv12SourceCache : SourceCache Nv12SourceCacheKey CachedNv12SourceAllocation
  /-- The slots of packed outputs. -/
  packedOutputPool : PackedOutputPool PackedOutputSlot
  /-- The packed sources. -/
  packedSourceCache : SourceCache PackedSourceCacheKey PackedSourceAllocation
  /-- The shader that writes RGBA. -/
  nv12RgbaCompute : Option Nv12ComputePipeline
  /-- The shader that writes planes. -/
  nv12PlanarCompute : Option Nv12ComputePipeline
  /-- The shader that unpacks. -/
  packedBgraCompute : Option PackedComputePipeline
  /-- The generation of the NV12 cache. -/
  sourceCacheClock : UInt64
  /-- The generation of the packed cache. -/
  packedSourceCacheClock : UInt64
  /-- The number of the next import. -/
  nextImportId : UInt64

/-- What the calls of a new importer return: the inventory of capabilities, the
pipelines, and whether packed images can be staged. -/
structure NewCalls where
  /-- The strategies the device can do. -/
  inventory : Except String (List Nv12ModifierCapability)
  /-- The shader that writes RGBA. -/
  rgbaPipeline : Except String Pipeline
  /-- The shader that writes planes. -/
  planarPipeline : Except String Pipeline
  /-- Whether the device can stage packed images. -/
  packedStaging : Except String Unit
  /-- The shader that unpacks. -/
  packedPipeline : Except String Pipeline

/-- `Nv12ComputePipeline::new`. -/
def Nv12ComputePipeline.new (output : Nv12ComputeOutput) (created : Except String Pipeline) :
    Except String Nv12ComputePipeline :=
  created.map fun pipeline => ⟨output, pipeline⟩

/-- The pipeline of a compute strategy, if the inventory has the strategy. -/
def computePipeline (capabilities : List Nv12ModifierCapability) (strategy : Nv12ImportStrategy)
    (output : Nv12ComputeOutput) (created : Except String Pipeline) :
    Except String (Option Nv12ComputePipeline) :=
  if capabilities.any fun capability => capability.strategy = strategy then do
    let pipeline ← Nv12ComputePipeline.new output created
    return some pipeline
  else .ok none

/-- The pipeline of packed stagings, if the device can stage packed images. -/
def packedComputePipeline (support : Except String Unit) (created : Except String Pipeline) :
    Except String (Option PackedComputePipeline) :=
  match support with
  | .ok () => created.map fun pipeline => some ⟨pipeline⟩
  | .error _ => .ok none

/-- `new_with_limits_and_staging_preference`. -/
def Importer.new (device : Device) (maxTexelBufferElements : UInt32)
    (limits : VulkanImportPoolLimits) (nextImportId : UInt64) (calls : NewCalls) :
    Except String Importer := do
  refuse (limits.nv12SourceCacheEntries == 0 || limits.nv12OutputSlots == 0 ||
      limits.packedSourceCacheEntries == 0 || limits.packedOutputSlots == 0)
    "Vulkan import pool limits must be non-zero"
  let nv12Capabilities ← calls.inventory
  let nv12RgbaCompute ← computePipeline nv12Capabilities .linearBufferToRgba .rgba
    calls.rgbaPipeline
  let nv12PlanarCompute ← computePipeline nv12Capabilities .linearBufferToYuvPlanes .yuvPlanes
    calls.planarPipeline
  let packedBgraCompute ← packedComputePipeline calls.packedStaging calls.packedPipeline
  return {
    device := device
    maxTexelBufferElements := maxTexelBufferElements
    nv12Capabilities := nv12Capabilities
    nv12OutputPool := .new limits.nv12OutputSlots
    nv12SourceCache := .new limits.nv12SourceCacheEntries
    packedOutputPool := .new limits.packedOutputSlots
    packedSourceCache := .new limits.packedSourceCacheEntries
    nv12RgbaCompute := nv12RgbaCompute
    nv12PlanarCompute := nv12PlanarCompute
    packedBgraCompute := packedBgraCompute
    sourceCacheClock := 1
    packedSourceCacheClock := 1
    nextImportId := nextImportId }

/-! ## Sources and slots -/

/-- Claim the source of a key.  `created` is what making a source comes to. -/
def SourceCache.claimSource {K A : Type} [DecidableEq K] [SourceKey K] (c : SourceCache K A)
    (key : K) (generation : UInt64) (order : List K) (created : Except String A) :
    SourceCache K A × Except String (SourceLease A) :=
  match c.lookup key generation with
  | (c, .found lease) => (c, .ok lease)
  | (c, .refused error) => (c, .error error)
  | (c, .missing) => match created with
    | .error error => (c, .error error)
    | .ok allocation =>
      let (c, source) := c.make allocation (SourceKey.firstUse K generation)
      c.insert order key source generation

/-- What the calls of an NV12 import return.  `order` is the order in which the map
of the cache lists its keys. -/
structure Nv12ImportCalls where
  /-- What the dma-buf is. -/
  probe : Except String DmaBufIdentity
  /-- The keys in the order of the map, for an eviction. -/
  order : List Nv12SourceCacheKey
  /-- What making a source comes to. -/
  source : SourceCalls
  /-- What making a slot comes to. -/
  slot : SlotCalls

/-- What the calls of a packed import return. -/
structure PackedImportCalls where
  /-- Whether the image can be sampled as it is. -/
  directSupport : Except String Unit
  /-- Whether it can be staged. -/
  stagedSupport : Except String Unit
  /-- What the dma-buf is. -/
  probe : Except String DmaBufIdentity
  /-- The keys in the order of the map, for an eviction. -/
  order : List PackedSourceCacheKey
  /-- What making a source comes to. -/
  source : SourceCalls
  /-- What making a slot comes to. -/
  slot : SlotCalls

namespace Importer

/-- Take a result or pass its failure on. -/
def take {α : Type} (result : Except String α) : Effect Importer String α :=
  match result with
  | .ok a => pure a
  | .error error => throw error

/-- `next_import_id`: zero is left out. -/
def takeImportId : Effect Importer String UInt64 := do
  let id := (← get).nextImportId
  let id := if id = 0 then 1 else id
  modify fun w => { w with nextImportId := id + 1 }
  return id

/-- `claim_cached_source`. -/
def claimCachedSource (streamIncarnation : UInt64) (sourceFd : Int32)
    (topology : Nv12FrameTopology) (strategy : Nv12ImportStrategy)
    (created : Except String CachedNv12SourceAllocation) (calls : Nv12ImportCalls) :
    Effect Importer String Nv12SourceLease := do
  let identity ← take ((verifiedDmabufIdentity sourceFd topology.objectSize calls.probe).mapError
    (·.toString))
  let generation := (← get).sourceCacheClock
  modify fun w => { w with sourceCacheClock := generation + 1 }
  let key : Nv12SourceCacheKey :=
    ⟨⟨streamIncarnation, identity.device, identity.inode⟩, topology, strategy⟩
  let (cache, claimed) := (← get).nv12SourceCache.claimSource key generation calls.order created
  modify fun w => { w with nv12SourceCache := cache }
  take claimed

/-- Drop the lease on an NV12 source. -/
def dropSource (lease : Nv12SourceLease) : Effect Importer String Unit :=
  modify fun w => { w with nv12SourceCache := { w.nv12SourceCache with
    claims := w.nv12SourceCache.claims.drop lease.lease } }

/-- Drop the lease on an NV12 slot. -/
def dropOutput (lease : Nv12OutputLease) : Effect Importer String Unit :=
  modify fun w => { w with nv12OutputPool := { w.nv12OutputPool with
    claims := w.nv12OutputPool.claims.drop lease.lease } }

/-- `claim_nv12_output`. -/
def claimNv12Output (dimensions : UInt32 × UInt32) (strategy : Nv12ImportStrategy)
    (pipeline : Option Nv12ComputePipeline) (sourceView : Option BufferView)
    (calls : Nv12ImportCalls) : Effect Importer String Nv12OutputLease := do
  let w ← get
  let (claimed, pool) := (w.nv12OutputPool.claim dimensions strategy sourceView
    (fun slot view => (updateStagedDescriptorSet slot view).map fun _ => ())
    (createStagedOutputSlot w.device strategy pipeline sourceView calls.slot)).run
      OutputPool.does w.nv12OutputPool
  modify fun w => { w with nv12OutputPool := pool }
  take (claimed.mapError (·.toString))

/-! ## NV12 imports -/

/-- `ImportedDmaBufImage::from_direct_nv12_source`. -/
def fromDirectNv12Source (dimensions : UInt32 × UInt32) (layout : Nv12SharedObjectLayout)
    (source : Nv12SourceLease) : Effect Importer String ImportedDmaBufImage := do
  match source.source.allocation with
  | .direct _ => return ⟨← takeImportId, .directNv12 source, dimensions, layout.modifier⟩
  | _ => throw "Vulkan direct NV12 import received a staged cache entry"

/-- The operation of a staging that reads a buffer. -/
def stagedNv12Operation (dimensions : UInt32 × UInt32) (layout : Nv12SharedObjectLayout)
    (conversion : Nv12Conversion) (pipeline : Option Nv12ComputePipeline)
    (strategy : Nv12ImportStrategy) : Except String StagedNv12Operation :=
  match strategy with
  | .linearBufferToOptimalNv12 | .linearBufferToOptimalYuvPlanes => do
    refuse pipeline.isSome "Vulkan NV12 transfer unexpectedly owns a compute pipeline"
    return .bufferTransfer layout
  | .linearBufferToYuvPlanes | .linearBufferToRgba => do
    let pipeline ← orRefuse pipeline "Vulkan compute NV12 staging is missing its pipeline"
    let pushConstants ← nv12PushConstants dimensions layout conversion
    return .compute pipeline pushConstants
  | .directSampledImage | .directImageToOptimalYuvPlanes =>
    .error "direct NV12 import cannot be constructed as buffer-staged"

/-- The bytes of the buffer of a staging, if its layout is accepted. -/
def stagedSourceSpan (maxTexelBufferElements : UInt32) (dimensions : UInt32 × UInt32)
    (layout : Nv12SharedObjectLayout) (strategy : Nv12ImportStrategy) : Except String UInt64 :=
  match strategy with
  | .linearBufferToOptimalNv12 | .linearBufferToOptimalYuvPlanes => do
    validateTransferLayout dimensions layout
    nv12TransferSourceSpan dimensions layout
  | .linearBufferToYuvPlanes | .linearBufferToRgba => do
    validateStagedLayout maxTexelBufferElements dimensions layout
    nv12ComputeSourceSpan dimensions layout
  | .directSampledImage | .directImageToOptimalYuvPlanes =>
    .error "direct NV12 import cannot use buffer-staged construction"

/-- `create_staged_nv12`: the method, and the function it ends with. -/
def createStagedNv12 (streamIncarnation : UInt64) (dimensions : UInt32 × UInt32)
    (sourceFd : Int32) (layout : Nv12SharedObjectLayout) (conversion : Nv12Conversion)
    (strategy : Nv12ImportStrategy) (pipeline : Option Nv12ComputePipeline)
    (calls : Nv12ImportCalls) : Effect Importer String ImportedDmaBufImage := do
  let span ← take (stagedSourceSpan (← get).maxTexelBufferElements dimensions layout strategy)
  let source ← claimCachedSource streamIncarnation sourceFd (layout.frameTopology dimensions)
    strategy (createCachedNv12Source span strategy calls.source) calls
  let output ← Effect.onFailure
    (claimNv12Output dimensions strategy pipeline source.source.allocation.computeView calls)
    (dropSource source)
  let operation ← Effect.onFailure
    (take (stagedNv12Operation dimensions layout conversion pipeline strategy))
    (do dropOutput output; dropSource source)
  return ⟨← takeImportId, .stagedNv12 ⟨source, output, operation⟩, dimensions, layout.modifier⟩

/-- An import that copies an image into planes. -/
def importImageTransfer (streamIncarnation : UInt64) (dimensions : UInt32 × UInt32)
    (sourceFd : Int32) (layout : Nv12SharedObjectLayout) (strategy : Nv12ImportStrategy)
    (calls : Nv12ImportCalls) : Effect Importer String ImportedDmaBufImage := do
  let created := createDirectNv12Source (← get).device calls.source
  let source ← claimCachedSource streamIncarnation sourceFd (layout.frameTopology dimensions)
    strategy created calls
  let output ← Effect.onFailure (claimNv12Output dimensions strategy none none calls)
    (dropSource source)
  return ⟨← takeImportId, .stagedNv12 ⟨source, output, .imageTransfer⟩, dimensions,
    layout.modifier⟩

/-- The import of a strategy. -/
def importNv12 (streamIncarnation : UInt64) (dimensions : UInt32 × UInt32) (sourceFd : Int32)
    (layout : Nv12SharedObjectLayout) (conversion : Nv12Conversion)
    (strategy : Nv12ImportStrategy) (calls : Nv12ImportCalls) :
    Effect Importer String ImportedDmaBufImage := do
  match strategy with
  | .directSampledImage =>
    let created := createDirectNv12Source (← get).device calls.source
    let source ← claimCachedSource streamIncarnation sourceFd (layout.frameTopology dimensions)
      .directSampledImage created calls
    Effect.onFailure (fromDirectNv12Source dimensions layout source) (dropSource source)
  | .directImageToOptimalYuvPlanes =>
    importImageTransfer streamIncarnation dimensions sourceFd layout
      .directImageToOptimalYuvPlanes calls
  | .linearBufferToOptimalNv12 =>
    createStagedNv12 streamIncarnation dimensions sourceFd layout conversion
      .linearBufferToOptimalNv12 none calls
  | .linearBufferToOptimalYuvPlanes =>
    createStagedNv12 streamIncarnation dimensions sourceFd layout conversion
      .linearBufferToOptimalYuvPlanes none calls
  | .linearBufferToYuvPlanes =>
    let pipeline ← take (orRefuse (← get).nv12PlanarCompute
      "Vulkan NV12 planar staging pipeline is unavailable")
    createStagedNv12 streamIncarnation dimensions sourceFd layout conversion
      .linearBufferToYuvPlanes (some pipeline) calls
  | .linearBufferToRgba =>
    let pipeline ← take (orRefuse (← get).nv12RgbaCompute
      "Vulkan NV12 RGBA staging pipeline is unavailable")
    createStagedNv12 streamIncarnation dimensions sourceFd layout conversion
      .linearBufferToRgba (some pipeline) calls

/-- The checks of an NV12 import. -/
def admitNv12 (capabilities : List Nv12ModifierCapability) (dimensions : UInt32 × UInt32)
    (layout : Nv12SharedObjectLayout) (conversion : Nv12Conversion)
    (capability : Nv12ModifierCapability) : Except String Unit := do
  refuse (!capabilities.any fun admitted => sameNv12Capability admitted capability)
    ("Vulkan NV12 modifier " ++ hexModifier capability.modifier ++
      " capability was not issued by this active-device importer")
  refuse (capability.modifier != layout.modifier)
    "Vulkan NV12 capability modifier does not match frame layout"
  validateNv12ModifierCapability capability dimensions conversion
  validateNv12SharedLayout dimensions layout

/-- `import_nv12_shared_object`. -/
def importNv12SharedObject (streamIncarnation : UInt64) (dimensions : UInt32 × UInt32)
    (sourceFd : Int32) (layout : Nv12SharedObjectLayout) (conversion : Nv12Conversion)
    (capability : Nv12ModifierCapability) (calls : Nv12ImportCalls) :
    Effect Importer String ImportedDmaBufImage := do
  take (admitNv12 (← get).nv12Capabilities dimensions layout conversion capability)
  importNv12 streamIncarnation dimensions sourceFd layout conversion capability.strategy calls

/-! ## Packed imports -/

/-- Make the source of a packed image. -/
def createPackedSource (device : Device) (sourceSize : UInt64)
    (strategy : PackedImageImportStrategy) (calls : SourceCalls) :
    Except VulkanImportError PackedSourceAllocation :=
  match strategy with
  | .directSampledImage => (createDirectImage device calls).map .direct
  | .linearBufferToOptimalBgra => createCachedPackedStagedSource sourceSize calls

/-- The checks of a packed import. -/
def admitPacked (maxTexelBufferElements : UInt32) (request : PackedImageImport)
    (strategy : PackedImageImportStrategy) (calls : PackedImportCalls) : Except String Unit := do
  validateImageInputs request.dimensions request.sourceFd request.plane
  (validatePackedLayout request.dimensions request.sourceSize request.plane).mapError (·.toString)
  match strategy with
  | .directSampledImage => calls.directSupport
  | .linearBufferToOptimalBgra => do
    calls.stagedSupport
    validateStagedPackedLayout maxTexelBufferElements request.sourceSize

/-- `claim_cached_packed_source`. -/
def claimCachedPackedSource (request : PackedImageImport) (strategy : PackedImageImportStrategy)
    (calls : PackedImportCalls) : Effect Importer String PackedSourceLease := do
  take (admitPacked (← get).maxTexelBufferElements request strategy calls)
  let identity ← take ((verifiedDmabufIdentity request.sourceFd request.sourceSize
    calls.probe).mapError (·.toString))
  let key : PackedSourceCacheKey :=
    ⟨⟨request.streamIncarnation, identity.device, identity.inode⟩,
      ⟨request.dimensions, request.sourceSize, request.modifier, request.plane, request.format,
        strategy⟩⟩
  let generation := (← get).packedSourceCacheClock
  modify fun w => { w with packedSourceCacheClock := generation + 1 }
  let created := (createPackedSource (← get).device request.sourceSize strategy
    calls.source).mapError (·.toString)
  let (cache, claimed) := (← get).packedSourceCache.claimSource key generation calls.order created
  modify fun w => { w with packedSourceCache := cache }
  take claimed

/-- Drop the lease on a packed source. -/
def dropPackedSource (lease : PackedSourceLease) : Effect Importer String Unit :=
  modify fun w => { w with packedSourceCache := { w.packedSourceCache with
    claims := w.packedSourceCache.claims.drop lease.lease } }

/-- Drop the lease on a packed slot. -/
def dropPackedOutput (lease : PackedOutputLease) : Effect Importer String Unit :=
  modify fun w => { w with packedOutputPool := { w.packedOutputPool with
    claims := w.packedOutputPool.claims.drop lease.lease } }

/-- `ImportedDmaBufImage::from_direct_packed_source`. -/
def fromDirectPackedSource (request : PackedImageImport) (source : PackedSourceLease) :
    Effect Importer String ImportedDmaBufImage := do
  match source.source.allocation with
  | .direct _ =>
    return ⟨← takeImportId, .directPacked source, request.dimensions, request.modifier⟩
  | .staged _ _ => throw "Vulkan direct packed import received a staged-buffer cache entry"

/-- Claim a packed slot. -/
def claimPackedOutput (dimensions : UInt32 × UInt32) (calls : PackedImportCalls) :
    Effect Importer String PackedOutputLease := do
  let w ← get
  let (claimed, pool) := (w.packedOutputPool.claim dimensions
    (createPackedOutputSlot w.device calls.slot)).run OutputPool.does w.packedOutputPool
  modify fun w => { w with packedOutputPool := pool }
  take (claimed.mapError (·.toString))

/-- The push constants of a packed staging. -/
def packedPushConstants (request : PackedImageImport) : Except String PackedPushConstants := do
  let offset ← orRefuse (tryU32 request.plane.offset) "Vulkan packed offset exceeds u32"
  return {
    width := request.dimensions.1
    height := request.dimensions.2
    offset := offset
    pitch := request.plane.pitch
    sourceFormat := match request.format with
      | .rgba8888 => 0
      | .bgra8888 => 1 }

/-- `create_staged_packed`. -/
def createStagedPacked (request : PackedImageImport) (source : PackedSourceLease)
    (output : PackedOutputLease) (pipeline : PackedComputePipeline) :
    Effect Importer String ImportedDmaBufImage := do
  let pushConstants ← take (packedPushConstants request)
  return ⟨← takeImportId, .stagedPacked ⟨source, output, pipeline, pushConstants⟩,
    request.dimensions, request.modifier⟩

/-- The import of a packed image that has its source. -/
def importStagedPacked (request : PackedImageImport) (source : PackedSourceLease)
    (calls : PackedImportCalls) : Effect Importer String ImportedDmaBufImage := do
  match source.source.allocation with
  | .direct _ => throw "Vulkan staged packed import received a direct-image cache entry"
  | .staged _ _ =>
    let pipeline ← take (orRefuse (← get).packedBgraCompute
      "Vulkan packed BGRA staging pipeline is unavailable")
    let output ← claimPackedOutput request.dimensions calls
    Effect.onFailure (createStagedPacked request source output pipeline) (dropPackedOutput output)

/-- `import_packed_with_strategy`. -/
def importPackedWithStrategy (request : PackedImageImport) (strategy : PackedImageImportStrategy)
    (calls : PackedImportCalls) : Effect Importer String ImportedDmaBufImage := do
  let source ← claimCachedPackedSource request strategy calls
  match strategy with
  | .directSampledImage =>
    Effect.onFailure (fromDirectPackedSource request source) (dropPackedSource source)
  | .linearBufferToOptimalBgra =>
    Effect.onFailure (importStagedPacked request source calls) (dropPackedSource source)

/-! ## Scanout -/

/-- `ImportedDmaBufImage::new_bgra_scanout`. -/
def newBgraScanout (device : Device) (dimensions : UInt32 × UInt32) (sourceFd : Int32)
    (sourceSize modifier : UInt64) (plane : ImportedPlane) (support : Except String Unit)
    (probe : Except String DmaBufIdentity) (calls : SourceCalls) :
    Effect Importer String ImportedDmaBufImage := do
  take (validateImageInputs dimensions sourceFd plane)
  take (refuse (sourceSize == 0) "Vulkan scanout import has a zero allocation size")
  take support
  let _ ← take ((verifiedDmabufIdentity sourceFd sourceSize probe).mapError (·.toString))
  let sampled ← take ((createDirectImage device calls).mapError (·.toString))
  return ⟨← takeImportId, .directBgraScanout sampled, dimensions, modifier⟩

/-! ## Eviction -/

/-- The result of an eviction.  `kind` is the cache's in an error. -/
def evicted (kind : String) (stream : UInt64) (retained : Nat) : Except String Unit :=
  refuse (retained != 0)
    s!"Vulkan {kind} stream {stream} still owns {retained} active cached source(s)"

/-- `evict_nv12_stream`. -/
def evictNv12Stream (stream : UInt64) : Effect Importer String Unit := do
  let (cache, _, retained) := (← get).nv12SourceCache.evictStream stream
  modify fun w => { w with nv12SourceCache := cache }
  take (evicted "NV12" stream retained)

/-- `evict_packed_stream`. -/
def evictPackedStream (stream : UInt64) : Effect Importer String Unit := do
  let (cache, _, retained) := (← get).packedSourceCache.evictStream stream
  modify fun w => { w with packedSourceCache := cache }
  take (evicted "packed" stream retained)

end Importer

end VideoInterop.Vulkan
