import Mathlib
import VideoInterop.Vulkan.Record
import VideoInterop.Vulkan.Staging

/-!
# Transfer staging of NV12

A planar NV12 frame can be staged in two ways.  The shader `nv12_planes.comp`
computes byte addresses and stores normalised colours; a transfer gives the copy
engine a region for each plane, with row lengths and extents in texels.  Which of
the two is used depends on the driver, so `planar_stagings_agree` says that they
write the same bytes.

The copy engine is Vulkan's.  `BufferImageCopy.texelAt` is its addressing formula.
-/

namespace VideoInterop.Vulkan

/-! ## The copy engine -/

/-- The formats of the two plane images. -/
inductive PlaneFormat where
  | r8Unorm
  | r8g8Unorm
deriving DecidableEq

/-- `STAGED_NV12_LUMA_FORMAT`. -/
def stagedNv12LumaFormat : PlaneFormat := .r8Unorm

/-- `STAGED_NV12_CHROMA_FORMAT`. -/
def stagedNv12ChromaFormat : PlaneFormat := .r8g8Unorm

/-- The bytes of a texel. -/
def PlaneFormat.texelSize : PlaneFormat → Nat
  | r8Unorm => 1
  | r8g8Unorm => 2

namespace BufferImageCopy

variable (region : BufferImageCopy) (format : PlaneFormat)

/-- The first byte of a texel in the buffer.  A row length of zero stands for
the width of the region. -/
def texelAt (x y : Nat) : Nat :=
  let rowLength :=
    if region.bufferRowLength = 0 then region.extent.1.toNat else region.bufferRowLength.toNat
  region.bufferOffset.toNat + (y * rowLength + x) * format.texelSize

theorem texelAt_eq (h : region.bufferRowLength ≠ 0) (x y : Nat) :
    region.texelAt format x y = region.bufferOffset.toNat +
      (y * region.bufferRowLength.toNat + x) * format.texelSize := by
  simp only [texelAt, if_neg h]

/-- The copy reads the byte at this address. -/
def Reads (address : Nat) : Prop :=
  ∃ x y i, x < region.extent.1.toNat ∧ y < region.extent.2.toNat ∧ i < format.texelSize ∧
    address = region.texelAt format x y + i

/-- The texels the copy writes at a position of the image: one inside the
region, none outside. -/
def copied (buffer : Nat → BitVec 8) (x y : Int) : List (List (BitVec 8)) :=
  if (0 ≤ x ∧ x < region.extent.1.toNat) ∧ 0 ≤ y ∧ y < region.extent.2.toNat then
    [(List.range format.texelSize).map fun i =>
      buffer (region.texelAt format x.toNat y.toNat + i)]
  else []

end BufferImageCopy

/-- The copies from buffers that a command buffer makes, in order. -/
def bufferCopies (commands : List Command) : List (Buffer × Image × List BufferImageCopy) :=
  commands.filterMap fun
    | .copyBufferToImage source image _ regions => some (source, image, regions)
    | _ => none

/-- What a shader's store leaves in an image.  `unorm8` converts a colour
component to a normalised byte. -/
def PlaneFormat.stored {F : Type} (unorm8 : F → BitVec 8) :
    PlaneFormat → F × F × F × F → List (BitVec 8)
  | r8Unorm, (r, _) => [unorm8 r]
  | r8g8Unorm, (r, g, _) => [unorm8 r, unorm8 g]

/-! ## Regions -/

variable {dimensions : UInt32 × UInt32} {layout : Nv12SharedObjectLayout}

/-- The plan of a transfer from a source with this layout. -/
def transferPlan (buffer : Buffer) (size : UInt64) (output : StagedSampledImages)
    (initialized : Bool) (dimensions : UInt32 × UInt32) (layout : Nv12SharedObjectLayout) :
    StagedTransferPlan :=
  ⟨buffer, size, output, initialized, dimensions, layout.planes⟩

section
variable (h : SharedLayout dimensions layout) (aspect : Aspect)
include h

/-- The luma texels lie where the layout has the luma bytes. -/
theorem SharedLayout.luma_texelAt (x y : Nat) :
    (nv12TransferRegion aspect (lumaOf layout.planes).offset (lumaOf layout.planes).pitch
      dimensions.1 dimensions.2).texelAt .r8Unorm x y = lumaByteAt layout x y := by
  have hne : (lumaOf layout.planes).pitch ≠ 0 := fun hzero => by
    have hpitch := h.luma_pitch
    have hpos := h.width_pos
    rw [hzero] at hpitch
    exact absurd (hpos.trans_le hpitch) (Nat.lt_irrefl 0)
  rw [BufferImageCopy.texelAt_eq _ _ hne, PlaneFormat.texelSize, Nat.mul_one, ← Nat.add_assoc]
  rfl

/-- The chroma texels lie where the layout has the chroma pairs: an even pitch is
a whole number of texels. -/
theorem SharedLayout.chroma_texelAt (x y : Nat) :
    (nv12TransferRegion aspect (chromaOf layout.planes).offset
      ((chromaOf layout.planes).pitch / 2) (dimensions.1 / 2) (dimensions.2 / 2)).texelAt
        .r8g8Unorm x y = chromaByteAt layout x y := by
  have hpitch := h.chroma_pitch
  have hpos := h.width_pos
  have heven := h.width_even
  have hpeven := h.chroma_pitch_even
  have hhalf := half_toNat (chromaOf layout.planes).pitch
  have hne : (chromaOf layout.planes).pitch / 2 ≠ 0 := fun hzero => by
    rw [hzero] at hhalf
    have : (0 : UInt32).toNat = 0 := rfl
    omega
  obtain ⟨rowLength, hrow⟩ : ∃ r, (chromaOf layout.planes).pitch.toNat = 2 * r :=
    ⟨_, (Nat.mul_div_cancel' (Nat.dvd_of_mod_eq_zero hpeven)).symm⟩
  have hat := BufferImageCopy.texelAt_eq (nv12TransferRegion aspect (chromaOf layout.planes).offset
    ((chromaOf layout.planes).pitch / 2) (dimensions.1 / 2) (dimensions.2 / 2)) .r8g8Unorm hne x y
  simp only [nv12TransferRegion, PlaneFormat.texelSize, hhalf, hrow,
    Nat.mul_div_cancel_left _ (show 0 < 2 by decide)] at hat
  rw [nv12TransferRegion, hat, chromaByteAt, hrow]
  ring

/-- The luma copy reads inside the luma plane. -/
theorem SharedLayout.luma_reads {address : Nat}
    (hread : (nv12TransferRegion aspect (lumaOf layout.planes).offset (lumaOf layout.planes).pitch
      dimensions.1 dimensions.2).Reads .r8Unorm address) :
    address < lumaExtent dimensions layout := by
  obtain ⟨x, y, i, hx, hy, hi, rfl⟩ := hread
  have hi : i = 0 := Nat.lt_one_iff.mp hi
  rw [h.luma_texelAt, hi]
  exact lumaByteAt_lt layout hx hy

/-- The chroma copy reads inside the chroma plane. -/
theorem SharedLayout.chroma_reads {address : Nat}
    (hread : (nv12TransferRegion aspect (chromaOf layout.planes).offset
      ((chromaOf layout.planes).pitch / 2) (dimensions.1 / 2) (dimensions.2 / 2)).Reads
        .r8g8Unorm address) :
    address < chromaExtent dimensions layout := by
  obtain ⟨x, y, i, hx, hy, hi, rfl⟩ := hread
  have hi : i < 2 := hi
  have hx : x < dimensions.1.toNat / 2 := half_toNat dimensions.1 ▸ hx
  have hy : y < dimensions.2.toNat / 2 := half_toNat dimensions.2 ▸ hy
  have hlt := h.chromaByteAt_lt hx hy
  rw [h.chroma_texelAt]
  omega

/-- What the luma copy writes. -/
theorem SharedLayout.luma_copied (buffer : Nat → BitVec 8) (x y : Int) :
    (nv12TransferRegion aspect (lumaOf layout.planes).offset (lumaOf layout.planes).pitch
      dimensions.1 dimensions.2).copied .r8Unorm buffer x y =
      if (0 ≤ x ∧ x < dimensions.1.toNat) ∧ 0 ≤ y ∧ y < dimensions.2.toNat then
        [[buffer (lumaByteAt layout x.toNat y.toNat)]] else [] := by
  simp only [BufferImageCopy.copied, h.luma_texelAt]
  rfl

/-- What the chroma copy writes. -/
theorem SharedLayout.chroma_copied (buffer : Nat → BitVec 8) (x y : Int) :
    (nv12TransferRegion aspect (chromaOf layout.planes).offset
      ((chromaOf layout.planes).pitch / 2) (dimensions.1 / 2) (dimensions.2 / 2)).copied
        .r8g8Unorm buffer x y =
      if (0 ≤ x ∧ x < dimensions.1.toNat / 2) ∧ 0 ≤ y ∧ y < dimensions.2.toNat / 2 then
        [[buffer (chromaByteAt layout x.toNat y.toNat),
          buffer (chromaByteAt layout x.toNat y.toNat + 1)]] else [] := by
  have hwidth : (dimensions.1.toNat : Int) / 2 = (dimensions.1 / 2).toNat :=
    congrArg _ (half_toNat dimensions.1).symm
  have hheight : (dimensions.2.toNat : Int) / 2 = (dimensions.2 / 2).toNat :=
    congrArg _ (half_toNat dimensions.2).symm
  simp only [BufferImageCopy.copied, h.chroma_texelAt, hwidth, hheight]
  rfl

end

/-- The copies of a recorded planar transfer: one for each plane. -/
theorem recordStagedTransferAcquire_copies {family : QueueFamily} {results : RecordResults}
    {plan : StagedTransferPlan} {query : Option Nat} {commands : List Command} {luma chroma : Image}
    (houtput : plan.output = .yuvPlanes luma chroma)
    (h : recordStagedTransferAcquire family results plan query = .ok commands) :
    bufferCopies commands =
      [(plan.sourceBuffer, luma, [(nv12SeparateTransferRegions plan)[0]]),
        (plan.sourceBuffer, chroma, [(nv12SeparateTransferRegions plan)[1]])] := by
  rw [recordStagedTransferAcquire, transferCopies, houtput, bind_ok] at h
  obtain ⟨_, hcopies, hrecord⟩ := h
  cases hcopies
  obtain ⟨-, -, rfl⟩ := record_ok.mp hrecord
  cases query <;> rfl

/-! ## Agreement -/

/-- **The two planar stagings agree.**  For a layout that both accept, the
recorded copies and the dispatch write the same texel at every position of the
two plane images, and nothing anywhere else.  The copies, and those into one
two-plane image too, read only bytes of the span the transfer maps. -/
theorem planar_stagings_agree {F : Type} [ShaderFloat F] (unorm8 : F → BitVec 8)
    (hunorm8 : ∀ b : BitVec 8, unorm8 (unorm (b.setWidth 32)) = b) (object : Nat → BitVec 8)
    (conversion : Nv12Conversion) {maxTexelBufferElements : UInt32}
    {dimensions : UInt32 × UInt32} {layout : Nv12SharedObjectLayout}
    (hstaged : validateStagedLayout maxTexelBufferElements dimensions layout = .ok ())
    (htransfer : validateTransferLayout dimensions layout = .ok ())
    {family : QueueFamily} {results : RecordResults} {query : Option Nat} {buffer : Buffer}
    {size : UInt64} {luma chroma : Image} {initialized : Bool} {commands : List Command}
    (hrecord : recordStagedTransferAcquire family results
      (transferPlan buffer size (.yuvPlanes luma chroma) initialized dimensions layout) query =
        .ok commands) :
    ∃ constants span transferSpan stores lumaRegion chromaRegion,
      nv12PushConstants dimensions layout conversion = .ok constants ∧
      nv12ComputeSourceSpan dimensions layout = .ok span ∧
      nv12TransferSourceSpan dimensions layout = .ok transferSpan ∧
      runStaging (nv12PlanesComp (F := F) constants.parameters (sourceView object span))
        dimensions = some stores ∧
      bufferCopies commands =
        [(buffer, luma, [lumaRegion]), (buffer, chroma, [chromaRegion])] ∧
      (∀ x y : Int,
        ((stores.filterMap (placed 1 x y)).map (stagedNv12LumaFormat.stored unorm8) =
            lumaRegion.copied stagedNv12LumaFormat object x y ∧
          (stores.filterMap (placed 2 x y)).map (stagedNv12ChromaFormat.stored unorm8) =
            chromaRegion.copied stagedNv12ChromaFormat object x y) ∧
        ((lumaRegion.copied stagedNv12LumaFormat object x y).length =
            if (0 ≤ x ∧ x < dimensions.1.toNat) ∧ 0 ≤ y ∧ y < dimensions.2.toNat then 1 else 0) ∧
          (chromaRegion.copied stagedNv12ChromaFormat object x y).length =
            if (0 ≤ x ∧ x < dimensions.1.toNat / 2) ∧ 0 ≤ y ∧ y < dimensions.2.toNat / 2 then 1
            else 0) ∧
      (∀ address, lumaRegion.Reads stagedNv12LumaFormat address ∨
        chromaRegion.Reads stagedNv12ChromaFormat address → address < transferSpan.toNat) ∧
      (∀ output address,
        let plan := transferPlan buffer size output initialized dimensions layout
        (nv12MultiplanarTransferRegions plan)[0].Reads stagedNv12LumaFormat address ∨
          (nv12MultiplanarTransferRegions plan)[1].Reads stagedNv12ChromaFormat address →
            address < transferSpan.toNat) ∧
      transferSpan ≤ layout.objectSize := by
  have hstaged := validateStagedLayout_ok.mp hstaged
  have htransfer := validateTransferLayout_ok.mp htransfer
  have hshared := htransfer.toSharedLayout
  obtain ⟨constants, hconstants, hnames⟩ := hstaged.pushConstants_ok conversion
  obtain ⟨stores, hstores, -, hplaced⟩ := hstaged.planes_staged (F := F) object hnames
  have hwithin : max (lumaExtent dimensions layout) (chromaExtent dimensions layout) ≤
      layout.objectSize.toNat := Nat.max_le.mpr ⟨hshared.luma_within, hshared.chroma_within⟩
  have hspan := UInt64.toNat_ofNat_of_lt' (Nat.lt_of_le_of_lt hwithin layout.objectSize.toNat_lt)
  refine ⟨constants, _, _, stores, _, _, hconstants, hstaged.span_ok,
    nv12TransferSourceSpan_ok.mpr ⟨htransfer, hspan⟩, hstores,
    recordStagedTransferAcquire_copies rfl hrecord, ?_, ?_, ?_, ?_⟩
  · intro x y
    obtain ⟨hluma, hchroma⟩ := hplaced x y
    have hluma' := hshared.luma_copied .color object x y
    have hchroma' := hshared.chroma_copied .color object x y
    refine ⟨⟨hluma ▸ Eq.trans ?_ hluma'.symm, hchroma ▸ Eq.trans ?_ hchroma'.symm⟩,
      (congrArg _ hluma').trans ?_, (congrArg _ hchroma').trans ?_⟩
    · split
      · exact congrArg (fun b => [[b]]) (hunorm8 _)
      · rfl
    · split
      · exact congr (congrArg (fun b b' => [[b, b']]) (hunorm8 _)) (hunorm8 _)
      · rfl
    · split <;> rfl
    · split <;> rfl
  · intro address hread
    rw [hspan, lt_max_iff]
    exact hread.imp (hshared.luma_reads .color) (hshared.chroma_reads .color)
  · intro output address plan hread
    rw [hspan, lt_max_iff]
    exact hread.imp (hshared.luma_reads .plane0) (hshared.chroma_reads .plane1)
  · rw [UInt64.le_iff_toNat_le, hspan]
    exact hwithin

/-- A colour component rounded to a normalised byte, in exact arithmetic. -/
def roundUnorm8 (x : Rat) : BitVec 8 := .ofNat 8 (x * 255 + 1 / 2).floor.toNat

theorem roundUnorm8_unorm (b : BitVec 8) : roundUnorm8 (unorm (b.setWidth 32)) = b := by
  have hb := b.isLt
  have hwide : (b.setWidth 32).toNat = b.toNat := by
    rw [BitVec.toNat_setWidth]
    exact Nat.mod_eq_of_lt (by omega)
  have hunorm : unorm (F := Rat) (b.setWidth 32) = (b.toNat : Rat) / 255 := by
    show ((b.setWidth 32).toNat : Rat) / (255.0 : Rat) = _
    rw [hwide]
    norm_num
  have hfloor : ((b.toNat : Rat) / 255 * 255 + 1 / 2).floor = b.toNat := by
    rw [div_mul_cancel₀ _ (by norm_num)]
    show ⌊(b.toNat : Rat) + 1 / 2⌋ = _
    rw [Int.floor_eq_iff, Int.cast_natCast]
    constructor <;> linarith
  rw [roundUnorm8, hunorm, hfloor]
  exact BitVec.eq_of_toNat_eq (by simp)

/-- A four by four image whose planes start at words, as a transfer asks for, with pitches
that are no words. -/
def sampleTransferLayout : Nv12SharedObjectLayout := ⟨0, 36, #v[⟨4, 5⟩, ⟨24, 6⟩]⟩

theorem sampleTransferLayout_shared : SharedLayout (4, 4) sampleTransferLayout := by
  refine ⟨?_, ?_, ?_, ?_, ?_, ?_, ?_, ?_, ?_, .inl ?_⟩ <;> decide

/-- Both stagings fill the last texels of the sample image's planes. -/
theorem planar_stagings_agree_sample : ∃ (constants : Nv12PushConstants) (span : UInt64)
    (stores : List (ImageStore Rat)) (lumaRegion chromaRegion : BufferImageCopy),
    runStaging (nv12PlanesComp constants.parameters (sourceView sampleObject span)) (4, 4) =
      some stores ∧
    ((stores.filterMap (placed 1 3 3)).map (stagedNv12LumaFormat.stored roundUnorm8) =
        lumaRegion.copied stagedNv12LumaFormat sampleObject 3 3 ∧
      (stores.filterMap (placed 2 1 1)).map (stagedNv12ChromaFormat.stored roundUnorm8) =
        chromaRegion.copied stagedNv12ChromaFormat sampleObject 1 1) ∧
    (lumaRegion.copied stagedNv12LumaFormat sampleObject 3 3).length = 1 ∧
    (chromaRegion.copied stagedNv12ChromaFormat sampleObject 1 1).length = 1 := by
  obtain ⟨constants, span, _, stores, lumaRegion, chromaRegion, -, -, -, hstores, -, hagree, -⟩ :=
    planar_stagings_agree roundUnorm8 roundUnorm8_unorm sampleObject sampleConversion
      (validateStagedLayout_ok.mpr
        ⟨sampleTransferLayout_shared, by decide, by decide, by decide⟩ :
          validateStagedLayout 9 (4, 4) sampleTransferLayout = .ok ())
      (validateTransferLayout_ok.mpr ⟨sampleTransferLayout_shared, by decide, by decide⟩)
      (rfl : recordStagedTransferAcquire 0 .success
        (transferPlan ⟨1⟩ 36 (.yuvPlanes ⟨2⟩ ⟨3⟩) false (4, 4) sampleTransferLayout) none = .ok _)
  exact ⟨constants, span, stores, lumaRegion, chromaRegion, hstores,
    ⟨(hagree 3 3).1.1, (hagree 1 1).1.2⟩, (hagree 3 3).2.1, (hagree 1 1).2.2⟩

end VideoInterop.Vulkan
