import VideoInterop.Vulkan.OutputPool
import VideoInterop.Vulkan.Shader

/-!
# Admission

What an import checks before it touches the device: the capability it was given,
for NV12 images, and the layout and the allocation, for packed ones.  The checks of
an NV12 layout are in `Nv12Layout`.
-/

namespace VideoInterop.Vulkan

/-! ## Capabilities -/

/-- A Vulkan bit mask. -/
abbrev Flags := UInt32

/-- All bits of `required` are set. -/
def Flags.contains (flags required : Flags) : Bool := flags &&& required == required

/-- `vk::FormatFeatureFlags`, of which the code uses these. -/
def featureSampledImage : Flags := 0x1

/-- `VK_FORMAT_FEATURE_STORAGE_IMAGE_BIT` -/
def featureStorageImage : Flags := 0x2

/-- `VK_FORMAT_FEATURE_SAMPLED_IMAGE_FILTER_LINEAR_BIT` -/
def featureSampledImageFilterLinear : Flags := 0x1000

/-- `VK_FORMAT_FEATURE_TRANSFER_SRC_BIT` -/
def featureTransferSrc : Flags := 0x4000

/-- `VK_FORMAT_FEATURE_TRANSFER_DST_BIT` -/
def featureTransferDst : Flags := 0x8000

/-- `VK_FORMAT_FEATURE_MIDPOINT_CHROMA_SAMPLES_BIT` -/
def featureMidpointChromaSamples : Flags := 0x20000

/-- `VK_FORMAT_FEATURE_SAMPLED_IMAGE_YCBCR_CONVERSION_LINEAR_FILTER_BIT` -/
def featureYcbcrConversionLinearFilter : Flags := 0x40000

/-- `VK_FORMAT_FEATURE_COSITED_CHROMA_SAMPLES_BIT` -/
def featureCositedChromaSamples : Flags := 0x800000

/-- `vk::ExternalMemoryFeatureFlags::IMPORTABLE`. -/
def externalImportable : Flags := 0x4

/-- `vk::ExternalMemoryHandleTypeFlags::DMA_BUF_EXT`. -/
def handleTypeDmaBuf : Flags := 0x200

/-- `DRM_FORMAT_MOD_LINEAR` -/
def drmFormatModLinear : UInt64 := 0

/-- What a device can do with NV12 images of a modifier, by one strategy. -/
structure Nv12ModifierCapability where
  /-- The modifier. -/
  modifier : UInt64
  /-- What is done with it. -/
  strategy : Nv12ImportStrategy
  /-- The memory planes of an image with it. -/
  modifierPlaneCount : UInt32
  /-- What the source can be used for. -/
  sourceTilingFeatures : Flags
  /-- What the sampled images can be used for. -/
  sampledTilingFeatures : Flags
  /-- Whether the memory can be imported. -/
  externalFeatures : Flags
  /-- From which handles. -/
  compatibleHandleTypes : Flags
  /-- The largest image. -/
  maxExtent : UInt32 × UInt32 × UInt32
deriving DecidableEq

/-- `same_nv12_capability`: it compares all fields. -/
def sameNv12Capability (left right : Nv12ModifierCapability) : Bool := left = right

/-- The features that sampling an NV12 image needs, with its siting. -/
def Nv12Conversion.requiredDirectFeatures (conversion : Nv12Conversion) : Flags :=
  let siting := match conversion.xOffset, conversion.yOffset with
    | .midpoint, .midpoint => featureMidpointChromaSamples
    | .cositedEven, .cositedEven => featureCositedChromaSamples
    | _, _ => featureMidpointChromaSamples ||| featureCositedChromaSamples
  featureSampledImage ||| featureSampledImageFilterLinear |||
    featureYcbcrConversionLinearFilter ||| siting

/-- A number in hexadecimal, as `{:x}`. -/
def hex (n : Nat) : String := String.ofList (Nat.toDigits 16 n)

/-- A modifier, as `{:#018x}`. -/
def hexModifier (n : UInt64) : String :=
  let digits := Nat.toDigits 16 n.toNat
  "0x" ++ String.ofList (List.replicate (16 - digits.length) '0' ++ digits)

/-- The features of the outputs of a planar transfer. -/
def transferPlaneFeatures : Flags :=
  featureSampledImage ||| featureSampledImageFilterLinear ||| featureTransferSrc |||
    featureTransferDst

/-- Refuse a capability that lacks features of its outputs. -/
def requireFeatures (capability : Nv12ModifierCapability) (required : Flags) (what : String) :
    Except String Unit :=
  refuse (!Flags.contains capability.sampledTilingFeatures required)
    (what ++ " 0x" ++ hex required.toNat ++ " (available=0x" ++
      hex capability.sampledTilingFeatures.toNat ++ ")")

/-- The checks a strategy makes of its capability. -/
def validateStrategyCapability (capability : Nv12ModifierCapability)
    (conversion : Nv12Conversion) : Except String Unit :=
  let modifier := hexModifier capability.modifier
  let planes := capability.modifierPlaneCount
  match capability.strategy with
  | .directSampledImage => do
    refuse (planes != 2) (s!"Vulkan NV12 modifier {modifier} reports {planes} memory plane(s), " ++
      "expected exactly two for direct image import")
    requireFeatures capability conversion.requiredDirectFeatures
      s!"Vulkan NV12 modifier {modifier} lacks required direct sampling/filter/siting features"
  | .directImageToOptimalYuvPlanes => do
    refuse (capability.modifier == drmFormatModLinear)
      "Vulkan direct-image NV12 transfer requires a non-linear modifier"
    refuse (planes != 2) (s!"Vulkan NV12 modifier {modifier} reports {planes} memory plane(s), " ++
      "expected exactly two for direct-image transfer")
    refuse (conversion.model != .bt709)
      "Vulkan direct-image NV12 transfer currently requires BT.709"
    refuse (!Flags.contains capability.sourceTilingFeatures featureTransferSrc)
      "Vulkan direct-image NV12 transfer lacks transfer-source format support"
    requireFeatures capability transferPlaneFeatures
      "Vulkan optimal YUV-plane output lacks required transfer/sampling/filter features"
  | .linearBufferToOptimalNv12 => do
    refuse (capability.modifier != drmFormatModLinear)
      ("Vulkan buffer-to-optimal NV12 transfer only supports linear modifier 0, got " ++ modifier)
    requireFeatures capability
      (conversion.requiredDirectFeatures ||| featureTransferSrc ||| featureTransferDst)
      ("Vulkan optimal multi-planar NV12 output lacks required " ++
        "transfer/sampling/filter/siting features")
  | .linearBufferToOptimalYuvPlanes => do
    refuse (capability.modifier != drmFormatModLinear)
      ("Vulkan buffer-to-optimal YUV-plane transfer only supports linear modifier 0, got " ++
        modifier)
    refuse (conversion.model != .bt709)
      "Vulkan separate-plane NV12 transfer currently requires BT.709"
    requireFeatures capability transferPlaneFeatures
      "Vulkan optimal YUV-plane transfer output lacks required transfer/sampling/filter features"
  | .linearBufferToYuvPlanes | .linearBufferToRgba => do
    refuse (capability.modifier != drmFormatModLinear)
      ("Vulkan raw-buffer NV12 staging only supports linear modifier 0, got " ++ modifier)
    refuse (conversion.model != .bt709) "Vulkan staged NV12 conversion currently requires BT.709"
    requireFeatures capability
      (featureSampledImage ||| featureSampledImageFilterLinear ||| featureStorageImage)
      "Vulkan staged NV12 output lacks required optimal-image features"

/-- `validate_nv12_modifier_capability`. -/
def validateNv12ModifierCapability (capability : Nv12ModifierCapability)
    (dimensions : UInt32 × UInt32) (conversion : Nv12Conversion) : Except String Unit := do
  let (width, height) := dimensions
  let (maxWidth, maxHeight, _) := capability.maxExtent
  refuse (width == 0 || height == 0) "Vulkan NV12 dimensions must be non-zero"
  refuse (width > maxWidth || height > maxHeight)
    s!"Vulkan NV12 dimensions {width}x{height} exceed import limit {maxWidth}x{maxHeight}"
  refuse (!Flags.contains capability.externalFeatures externalImportable ||
      !Flags.contains capability.compatibleHandleTypes handleTypeDmaBuf)
    ("Vulkan NV12 modifier " ++ hexModifier capability.modifier ++ " is not DMA-BUF importable")
  validateStrategyCapability capability conversion

/-! ## Packed images -/

/-- A packed image that is to be imported. -/
structure PackedImageImport where
  /-- The stream. -/
  streamIncarnation : UInt64
  /-- Columns and rows. -/
  dimensions : UInt32 × UInt32
  /-- The descriptor of its dma-buf. -/
  sourceFd : Int32
  /-- The length of that in bytes. -/
  sourceSize : UInt64
  /-- Its modifier. -/
  modifier : UInt64
  /-- Where the pixels are. -/
  plane : ImportedPlane
  /-- The order of their channels. -/
  format : PackedImageFormat

/-- `validate_image_inputs`. -/
def validateImageInputs (dimensions : UInt32 × UInt32) (sourceFd : Int32) (plane : ImportedPlane) :
    Except String Unit := do
  refuse (dimensions.1 == 0 || dimensions.2 == 0)
    "Vulkan imported image dimensions must be non-zero"
  refuse (sourceFd < 0) "Vulkan imported image has an invalid DMA-BUF fd"
  refuse (plane.pitch == 0) "Vulkan imported image has a zero row pitch"

/-- The end of the last row of a packed image. -/
def packedSpan (dimensions : UInt32 × UInt32) (plane : ImportedPlane) (rowBytes : UInt64) :
    Except VulkanImportError UInt64 := do
  let overflow := VulkanImportError.other "Vulkan packed image extent overflow"
  let rows ← orRefuse (checkedMul plane.pitch.toUInt64 (saturatingPred dimensions.2).toUInt64)
    overflow
  orRefuse ((checkedAdd plane.offset rows).bind fun lastRow => checkedAdd lastRow rowBytes) overflow

/-- `validate_packed_layout`. -/
def validatePackedLayout (dimensions : UInt32 × UInt32) (sourceSize : UInt64)
    (plane : ImportedPlane) : Except VulkanImportError Unit := do
  refuse (sourceSize == 0) (.allocationSize "Vulkan packed import has a zero allocation size")
  let rowBytes ← orRefuse (checkedMul dimensions.1.toUInt64 4)
    (.other "Vulkan packed row size overflow")
  let pitch := plane.pitch
  refuse (pitch.toUInt64 < rowBytes)
    (.other s!"Vulkan packed image pitch {pitch} is smaller than row size {rowBytes}")
  let required ← packedSpan dimensions plane rowBytes
  refuse (required > sourceSize) (.allocationSize
    s!"DMA-BUF object size {sourceSize} is smaller than packed image span {required}")

/-- The checks of a packed staging.  The device says how many texels a buffer view
may have. -/
def validateStagedPackedLayout (maxTexelBufferElements : UInt32) (sourceSize : UInt64) :
    Except String Unit := do
  refuse (sourceSize % 4 != 0)
    "Vulkan staged packed allocation size must be four-byte aligned for shader access"
  refuse (sourceSize > 0xFFFFFFFF + 1)
    "Vulkan staged packed allocation exceeds the shader's 32-bit byte-address range"
  let sourceTexelCount := sourceSize / 4
  refuse (sourceTexelCount > maxTexelBufferElements.toUInt64)
    (s!"Vulkan staged packed allocation requires {sourceTexelCount} R32 texels, exceeding " ++
      s!"maxTexelBufferElements {maxTexelBufferElements}")

/-! ## Identities -/

/-- What the kernel says of a dma-buf. -/
structure DmaBufIdentity where
  /-- The device of the inode. -/
  device : UInt64
  /-- The inode. -/
  inode : UInt64
  /-- The length in bytes. -/
  allocationSize : UInt64

/-- The identity of a dma-buf of a declared size.  `probe` is what the kernel
says, or why it says nothing. -/
def verifiedDmabufIdentity (sourceFd : Int32) (declaredSize : UInt64)
    (probe : Except String DmaBufIdentity) : Except VulkanImportError DmaBufIdentity := do
  refuse (sourceFd < 0) (.allocationSizeProbe "Vulkan DMA-BUF identity requires a valid fd")
  match probe with
  | .error error => .error (.allocationSizeProbe ("Vulkan " ++ error))
  | .ok observed =>
    refuse (declaredSize != observed.allocationSize)
      (.allocationSizeMismatch declaredSize observed.allocationSize)
    return observed

end VideoInterop.Vulkan
