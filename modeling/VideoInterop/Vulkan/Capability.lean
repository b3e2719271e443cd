import VideoInterop.Vulkan.ImportVariants

/-!
# Capabilities

The inventory of what a device can do with NV12 images, and the resolution of a
stream against it.  `DeviceAnswers` is what the device says when it is asked, one
field for each query of the source; an inventory is a function of it and of the
staging preference.

The errors of the queries end in the inventory: a query that fails leaves its
candidate out.
-/

namespace VideoInterop.Vulkan

/-! ## What a device answers -/

/-- `vk::Format`, of which the inventory asks about these. -/
inductive Format where
  | r8Unorm
  | r8g8Unorm
  | r8g8b8a8Unorm
  | r32Uint
  | g8B8r8TwoPlane420Unorm
deriving DecidableEq

/-- The number of a format. -/
def Format.asRaw : Format → Nat
  | .r8Unorm => 9
  | .r8g8Unorm => 16
  | .r8g8b8a8Unorm => 37
  | .r32Uint => 98
  | .g8B8r8TwoPlane420Unorm => 1000156003

/-- `IMPORTED_RGBA_FORMAT`. -/
def importedRgbaFormat : Format := .r8g8b8a8Unorm

/-- `IMPORTED_NV12_FORMAT`. -/
def importedNv12Format : Format := .g8B8r8TwoPlane420Unorm

/-- `STAGED_NV12_SOURCE_TEXEL_FORMAT`. -/
def stagedNv12SourceTexelFormat : Format := .r32Uint

/-- The format of an output luma plane. -/
def lumaFormat : Format := .r8Unorm

/-- The format of an output chroma plane. -/
def chromaFormat : Format := .r8g8Unorm

/-- Columns, rows and depth. -/
abbrev Extent3D := UInt32 × UInt32 × UInt32

/-- `vk::QueueFamilyProperties`. -/
structure QueueFamilyProperties where
  /-- What its queues can do. -/
  queueFlags : Flags
  /-- How many there are. -/
  queueCount : UInt32

/-- `vk::DrmFormatModifierPropertiesEXT` -/
structure DrmFormatModifierProperties where
  /-- The modifier. -/
  drmFormatModifier : UInt64
  /-- The memory planes of an image with it. -/
  planeCount : UInt32
  /-- What such an image can be used for. -/
  tilingFeatures : Flags

/-- `vk::FormatProperties`. -/
structure FormatProperties where
  /-- What an image of the device's own can be used for. -/
  optimalTilingFeatures : Flags
  /-- What a buffer view can be used for. -/
  bufferFeatures : Flags

/-- `vk::ExternalMemoryProperties`. -/
structure ExternalMemoryProperties where
  /-- Whether the memory can be imported. -/
  externalMemoryFeatures : Flags
  /-- From which handles. -/
  compatibleHandleTypes : Flags

/-- The answers of a device.  A query that can fail fails with the text of its
`vk::Result`. -/
structure DeviceAnswers where
  /-- The family of the selected queue. -/
  queueFamilyIndex : UInt32
  /-- The families of the device. -/
  queueFamilies : List QueueFamilyProperties
  /-- The modifiers of a format, in the order of the device. -/
  modifiers : Format → List DrmFormatModifierProperties
  /-- The properties of each format. -/
  formatProperties : Format → FormatProperties
  /-- The external properties of a buffer, by its usage. -/
  externalBuffer : Flags → ExternalMemoryProperties
  /-- The extent of an image with optimal tiling, by its usage. -/
  optimalImage : Format → Flags → Except String Extent3D
  /-- The external properties and the extent of an image with a modifier. -/
  modifierImage : Format → UInt64 → Flags → Except String (ExternalMemoryProperties × Extent3D)

/-- Some bit of `other` is set. -/
def Flags.intersects (flags other : Flags) : Bool := flags &&& other != 0

/-- `vk::FormatFeatureFlags::UNIFORM_TEXEL_BUFFER` -/
def featureUniformTexelBuffer : Flags := 0x8

/-- `vk::QueueFlags` -/
def queueGraphics : Flags := 0x1

/-- `VK_QUEUE_COMPUTE_BIT` -/
def queueCompute : Flags := 0x2

/-- `VK_QUEUE_TRANSFER_BIT` -/
def queueTransfer : Flags := 0x4

/-- `vk::BufferUsageFlags` -/
def transferNv12SourceUsage : Flags := 0x1

/-- `STAGED_NV12_SOURCE_USAGE`. -/
def stagedNv12SourceUsage : Flags := 0x4

/-- `vk::ImageUsageFlags`: a transfer source. -/
def directNv12PlaneTransferUsage : Flags := 0x1

/-- Sampled, a transfer source and a transfer destination. -/
def transferNv12OutputUsage : Flags := 0x4 ||| 0x1 ||| 0x2

/-- The same, and storage. -/
def stagedNv12OutputUsage : Flags := 0x4 ||| 0x8 ||| 0x1 ||| 0x2

/-! ## Queries -/

/-- `u32::saturating_mul(2)` -/
def saturatingDouble (n : UInt32) : UInt32 := if n.toNat * 2 < 2 ^ 32 then n * 2 else 0xFFFFFFFF

/-- Renderer policy for NV12 import and staging. -/
inductive Nv12StagingPreference where
  | preferPlanar
  | requirePlanar
  | requireRgba
deriving DecidableEq

variable (device : DeviceAnswers)

/-- The flags of the selected queue family, if it has a queue. -/
def selectedQueueFlags : Flags :=
  ((device.queueFamilies[device.queueFamilyIndex.toNat]?.filter fun properties =>
    0 < properties.queueCount).map QueueFamilyProperties.queueFlags).getD 0

/-- `format_modifiers`: the count of a device fits `usize`. -/
def formatModifiers (format : Format) : Except String (List DrmFormatModifierProperties) :=
  .ok (device.modifiers format)

/-- Memory that can be imported from a DMA-BUF. -/
def validateExternalImport (external : ExternalMemoryProperties) (label : String) :
    Except String Unit :=
  refuse (!Flags.contains external.externalMemoryFeatures externalImportable ||
    !Flags.contains external.compatibleHandleTypes handleTypeDmaBuf)
    (label ++ " is not Vulkan DMA-BUF importable")

/-- `query_external_buffer_properties`. -/
def queryExternalBufferProperties (usage : Flags) (label : String) :
    Except String ExternalMemoryProperties := do
  let external := device.externalBuffer usage
  validateExternalImport external label
  return external

/-- `query_external_modifier_capability`. -/
def queryExternalModifierCapability (format : Format) (modifier : UInt64) (usage : Flags) :
    Except String (ExternalMemoryProperties × Extent3D) :=
  (device.modifierImage format modifier usage).mapError fun result =>
    "Vulkan DMA-BUF modifier " ++ hexModifier modifier ++ " is not importable for format 0x" ++
      hex format.asRaw ++ ": " ++ result

/-- The features and the extent of an optimal image that has the required features. -/
def queryOptimalStagingFormatWithUsage (format : Format) (required usage : Flags) :
    Except String (Flags × Extent3D) := do
  let features := (device.formatProperties format).optimalTilingFeatures
  refuse (!Flags.contains features required)
    ("optimal format 0x" ++ hex format.asRaw ++ " lacks required features 0x" ++
      hex required.toNat ++ " (available=0x" ++ hex features.toNat ++ ")")
  let maxExtent ← (device.optimalImage format usage).mapError fun result =>
    "Vulkan optimal staging format 0x" ++ hex format.asRaw ++ " is unsupported: " ++ result
  return (features, maxExtent)

/-- `query_optimal_staging_format`. -/
def queryOptimalStagingFormat (format : Format) (required : Flags) :
    Except String (Flags × Extent3D) :=
  queryOptimalStagingFormatWithUsage device format required stagedNv12OutputUsage

/-- What a luma and a chroma plane have in common.  A chroma texel stands for two luma
texels in each direction. -/
def planarStaging (luma chroma : Flags × Extent3D) : Flags × Extent3D :=
  (luma.1 &&& chroma.1,
    (min luma.2.1 (saturatingDouble chroma.2.1), min luma.2.2.1 (saturatingDouble chroma.2.2.1), 1))

/-- Ask for both planes. -/
def queryPlanes (required usage : Flags) : Except String (Flags × Extent3D) := do
  let luma ← queryOptimalStagingFormatWithUsage device lumaFormat required usage
  let chroma ← queryOptimalStagingFormatWithUsage device chromaFormat required usage
  return planarStaging luma chroma

/-- `query_transfer_planar_staging_format`. -/
def queryTransferPlanarStagingFormat (required : Flags) : Except String (Flags × Extent3D) :=
  queryPlanes device required transferNv12OutputUsage

/-- `query_planar_staging_format`. -/
def queryPlanarStagingFormat (required : Flags) : Except String (Flags × Extent3D) :=
  queryPlanes device required stagedNv12OutputUsage

/-! ## The inventory -/

/-- The features of the output of a compute staging. -/
def computeOutputFeatures : Flags :=
  featureSampledImage ||| featureSampledImageFilterLinear ||| featureStorageImage |||
    featureTransferSrc ||| featureTransferDst

/-- A candidate for linear images. -/
def linearCapability (linear : DrmFormatModifierProperties) (strategy : Nv12ImportStrategy)
    (external : ExternalMemoryProperties) (output : Flags × Extent3D) : Nv12ModifierCapability where
  modifier := drmFormatModLinear
  strategy := strategy
  modifierPlaneCount := linear.planeCount
  sourceTilingFeatures := linear.tilingFeatures
  sampledTilingFeatures := output.1
  externalFeatures := external.externalMemoryFeatures
  compatibleHandleTypes := external.compatibleHandleTypes
  maxExtent := output.2

/-- `query_linear_nv12_transfer_capability`. -/
def queryLinearNv12TransferCapability (linear : DrmFormatModifierProperties) :
    Except String Nv12ModifierCapability := do
  refuse (!Flags.intersects (selectedQueueFlags device)
      (queueGraphics ||| queueCompute ||| queueTransfer))
    "selected Vulkan queue cannot execute buffer-to-image transfers"
  let external ← queryExternalBufferProperties device transferNv12SourceUsage
    "linear NV12 transfer-source buffer"
  let output ← (queryTransferPlanarStagingFormat device transferPlaneFeatures).mapError fun error =>
    "Vulkan NV12 separate-plane transfer output is unavailable: " ++ error
  return linearCapability linear .linearBufferToOptimalYuvPlanes external output

/-- The output of a compute staging, by the preference. -/
def queryComputeOutput (stagingPreference : Nv12StagingPreference) :
    Except String (Nv12ImportStrategy × Flags × Extent3D) :=
  let planar := queryPlanarStagingFormat device computeOutputFeatures
  let rgba := queryOptimalStagingFormat device importedRgbaFormat computeOutputFeatures
  match stagingPreference with
  | .preferPlanar =>
    match planar with
    | .ok output => .ok (.linearBufferToYuvPlanes, output)
    | .error planarError =>
      (rgba.mapError fun rgbaError =>
        "Vulkan NV12 has neither planar nor RGBA compute staging support: planar=" ++ planarError ++
          "; rgba=" ++ rgbaError).map (Nv12ImportStrategy.linearBufferToRgba, ·)
  | .requirePlanar =>
    (planar.mapError fun error => "required planar NV12 staging is unavailable: " ++ error).map
      (Nv12ImportStrategy.linearBufferToYuvPlanes, ·)
  | .requireRgba =>
    (rgba.mapError fun error => "required RGBA NV12 staging is unavailable: " ++ error).map
      (Nv12ImportStrategy.linearBufferToRgba, ·)

/-- `query_linear_nv12_compute_capability`. -/
def queryLinearNv12ComputeCapability (linear : DrmFormatModifierProperties)
    (stagingPreference : Nv12StagingPreference) : Except String Nv12ModifierCapability := do
  refuse (!Flags.contains (selectedQueueFlags device) queueCompute)
    "selected Vulkan queue cannot execute NV12 compute staging"
  let external ← queryExternalBufferProperties device stagedNv12SourceUsage
    "linear NV12 uniform-texel source buffer"
  refuse (!Flags.contains (device.formatProperties stagedNv12SourceTexelFormat).bufferFeatures
      featureUniformTexelBuffer)
    "Vulkan R32_UINT source buffers lack uniform-texel-buffer support"
  let (strategy, output) ← queryComputeOutput device stagingPreference
  return linearCapability linear strategy external output

/-- `query_linear_nv12_staging_candidates`. -/
def queryLinearNv12StagingCandidates (linear : DrmFormatModifierProperties)
    (stagingPreference : Nv12StagingPreference) : List Nv12ModifierCapability :=
  match stagingPreference with
  | .preferPlanar =>
    match queryLinearNv12TransferCapability device linear with
    | .ok transfer => [transfer]
    | .error _ => (queryLinearNv12ComputeCapability device linear .preferPlanar).toOption.toList
  | .requirePlanar | .requireRgba =>
    (queryLinearNv12ComputeCapability device linear stagingPreference).toOption.toList

/-- The candidate of a modifier whose images are copied into planes. -/
def directImageCandidate (planarOutput : Option (Flags × Extent3D))
    (modifier : DrmFormatModifierProperties) : Option Nv12ModifierCapability := do
  let (sampledTilingFeatures, outputExtent) ← planarOutput
  if modifier.planeCount != 2 || !Flags.contains modifier.tilingFeatures featureTransferSrc then
    none
  else
    let (external, maxExtent) ← ((queryExternalModifierCapability device importedNv12Format
      modifier.drmFormatModifier directNv12PlaneTransferUsage).toOption.filter fun external =>
        Flags.contains external.1.externalMemoryFeatures externalImportable &&
          Flags.contains external.1.compatibleHandleTypes handleTypeDmaBuf)
    return {
      modifier := modifier.drmFormatModifier
      strategy := .directImageToOptimalYuvPlanes
      modifierPlaneCount := modifier.planeCount
      sourceTilingFeatures := modifier.tilingFeatures
      sampledTilingFeatures := sampledTilingFeatures
      externalFeatures := external.externalMemoryFeatures
      compatibleHandleTypes := external.compatibleHandleTypes
      maxExtent := (min maxExtent.1 outputExtent.1, min maxExtent.2.1 outputExtent.2.1,
        min maxExtent.2.2 outputExtent.2.2) }

/-- `inventory_nv12_modifier_capabilities_with_staging_preference` -/
def inventoryNv12ModifierCapabilities (stagingPreference : Nv12StagingPreference) :
    Except String (List Nv12ModifierCapability) := do
  let modifiers ← formatModifiers device importedNv12Format
  let direct :=
    if stagingPreference = .preferPlanar then
      (modifiers.filter fun modifier => modifier.drmFormatModifier != drmFormatModLinear).filterMap
        (directImageCandidate device
          (queryTransferPlanarStagingFormat device transferPlaneFeatures).toOption)
    else []
  let linear :=
    match modifiers.find? fun modifier => modifier.drmFormatModifier == drmFormatModLinear with
    | some linear => queryLinearNv12StagingCandidates device linear stagingPreference
    | none => []
  return direct ++ linear

/-! ## Resolution -/

/-- An image that is to be imported. -/
structure Nv12ResolveRequest where
  /-- Its modifier. -/
  modifier : UInt64
  /-- Columns and rows. -/
  dimensions : UInt32 × UInt32
  /-- How its colours are to be read. -/
  conversion : Nv12Conversion

/-- `{:?}` of a strategy. -/
def Nv12ImportStrategy.debug : Nv12ImportStrategy → String
  | .directSampledImage => "DirectSampledImage"
  | .directImageToOptimalYuvPlanes => "DirectImageToOptimalYuvPlanes"
  | .linearBufferToOptimalNv12 => "LinearBufferToOptimalNv12"
  | .linearBufferToOptimalYuvPlanes => "LinearBufferToOptimalYuvPlanes"
  | .linearBufferToYuvPlanes => "LinearBufferToYuvPlanes"
  | .linearBufferToRgba => "LinearBufferToRgba"

/-- The name of a preference in an error. -/
def Nv12StagingPreference.debug : Nv12StagingPreference → String
  | .preferPlanar => "PreferPlanar"
  | .requirePlanar => "RequirePlanar"
  | .requireRgba => "RequireRgba"

/-- The loop over the candidates: the first that satisfies the stream, or why each
does not. -/
def firstSatisfying (request : Nv12ResolveRequest) :
    List Nv12ModifierCapability → List String → Except (List String) Nv12ModifierCapability
  | [], rejections => .error rejections
  | capability :: rest, rejections =>
    match validateNv12ModifierCapability capability request.dimensions request.conversion with
    | .ok () => .ok capability
    | .error error =>
      firstSatisfying request rest (rejections ++ [capability.strategy.debug ++ ": " ++ error])

/-- `resolve_nv12_modifier_capability`. -/
def resolveNv12ModifierCapability (capabilities : List Nv12ModifierCapability)
    (request : Nv12ResolveRequest) : Except String Nv12ModifierCapability :=
  (firstSatisfying request
    (capabilities.filter fun capability => capability.modifier == request.modifier) []).mapError
      fun rejections =>
        if rejections.isEmpty then
          "Vulkan NV12 modifier " ++ hexModifier request.modifier ++
            " has no active-device import candidate"
        else
          "Vulkan NV12 modifier " ++ hexModifier request.modifier ++
            " has no candidate satisfying this stream: " ++ "; ".intercalate rejections

/-- An importer with the preference it was made with, which only `resolve_nv12`
reads. -/
structure PreferringImporter where
  /-- The importer. -/
  importer : Importer
  /-- The preference it was made with. -/
  stagingPreference : Nv12StagingPreference

/-- `new_with_limits_and_staging_preference`, with the inventory it makes. -/
def PreferringImporter.new (handle : Device) (maxTexelBufferElements : UInt32)
    (limits : VulkanImportPoolLimits) (stagingPreference : Nv12StagingPreference)
    (nextImportId : UInt64) (calls : NewCalls) : Except String PreferringImporter := do
  let importer ← Importer.new handle maxTexelBufferElements limits nextImportId
    { calls with inventory := inventoryNv12ModifierCapabilities device stagingPreference }
  return ⟨importer, stagingPreference⟩

/-- `resolve_nv12`. -/
def PreferringImporter.resolveNv12 (w : PreferringImporter) (request : Nv12ResolveRequest) :
    Except String Nv12ModifierCapability := do
  let capability ← resolveNv12ModifierCapability w.importer.nv12Capabilities request
  let violation := "Vulkan NV12 candidate " ++ capability.strategy.debug ++
    " violates staging policy " ++ w.stagingPreference.debug
  match w.stagingPreference with
  | .preferPlanar => return capability
  | .requirePlanar =>
    if capability.strategy = .linearBufferToYuvPlanes then return capability else throw violation
  | .requireRgba =>
    if capability.strategy = .linearBufferToRgba then return capability else throw violation

end VideoInterop.Vulkan
