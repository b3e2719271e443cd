import VideoInterop.Lib.Checks
import VideoInterop.Lib.Integers

/-!
# NV12 layouts

The layout of an NV12 frame in one dma-buf object, and the checks the importer
makes of it: the shared checks, those of a compute staging and those of a
transfer staging.

The code computes with fixed-width integers and checked additions.  What an
accepted layout is, `SharedLayout`, `StagedLayout` and `TransferLayout` say in
unbounded arithmetic; `validateNv12SharedLayout_ok` and its two companions say
that the checks accept exactly those.
-/

namespace VideoInterop.Vulkan

/-! ## Layouts -/

/-- A plane of an imported object. -/
structure ImportedPlane where
  /-- The first byte of the plane. -/
  offset : UInt64
  /-- The bytes from one row to the next. -/
  pitch : UInt32
deriving DecidableEq

/-- The first one of a pair is for the luma plane, `planes[0]`. -/
abbrev lumaOf {α : Type} (pair : Vector α 2) : α := getElem pair 0 Nat.two_pos

/-- The second one is for the chroma plane, `planes[1]`. -/
abbrev chromaOf {α : Type} (pair : Vector α 2) : α := getElem pair 1 Nat.one_lt_two

/-- The layout of an NV12 frame that lies in one object. -/
structure Nv12SharedObjectLayout where
  /-- The modifier of the object. -/
  modifier : UInt64
  /-- Its length in bytes. -/
  objectSize : UInt64
  /-- The luma and the chroma plane. -/
  planes : Vector ImportedPlane 2
deriving DecidableEq

/-- The end of the last row of a plane. -/
def planeEnd (width : UInt32) (plane : ImportedPlane) (rows : UInt32) : Except String UInt64 :=
  orRefuse
    ((checkedAdd plane.offset (plane.pitch.toUInt64 * (saturatingPred rows).toUInt64)).bind
      fun rowStart => checkedAdd rowStart width.toUInt64)
    "Vulkan NV12 plane extent overflow"

/-- The ends of the two planes. -/
def nv12PlaneEnds (dimensions : UInt32 × UInt32) (layout : Nv12SharedObjectLayout) :
    Except String (UInt64 × UInt64) := do
  let lumaEnd ← planeEnd dimensions.1 (lumaOf layout.planes) dimensions.2
  let chromaEnd ← planeEnd dimensions.1 (chromaOf layout.planes) (dimensions.2 / 2)
  return (lumaEnd, chromaEnd)

/-- The checks every NV12 import makes. -/
def validateNv12SharedLayout (dimensions : UInt32 × UInt32) (layout : Nv12SharedObjectLayout) :
    Except String Unit := do
  let (width, height) := dimensions
  refuse (width == 0 || height == 0 || width % 2 != 0 || height % 2 != 0)
    s!"Vulkan NV12 requires positive even coded dimensions, got {width}x{height}"
  refuse (layout.planes.any fun plane => plane.pitch < width)
    s!"Vulkan NV12 plane pitch must be at least coded width {width}"
  refuse ((chromaOf layout.planes).pitch % 2 != 0)
    "Vulkan NV12 chroma pitch must be divisible by two bytes per texel"
  let (lumaEnd, chromaEnd) ← nv12PlaneEnds dimensions layout
  refuse (lumaEnd > layout.objectSize || chromaEnd > layout.objectSize)
    (s!"Vulkan NV12 planes exceed DMA-BUF object size {layout.objectSize} " ++
      s!"(luma_end={lumaEnd}, chroma_end={chromaEnd})")
  refuse (!(lumaEnd ≤ (chromaOf layout.planes).offset ||
      chromaEnd ≤ (lumaOf layout.planes).offset))
    "Vulkan NV12 luma and chroma plane byte ranges overlap"

/-- The bytes a compute staging maps: both planes, rounded up to a word. -/
def nv12ComputeSourceSpan (dimensions : UInt32 × UInt32) (layout : Nv12SharedObjectLayout) :
    Except String UInt64 := do
  validateNv12SharedLayout dimensions layout
  let (lumaEnd, chromaEnd) ← nv12PlaneEnds dimensions layout
  orRefuse ((checkedAdd (max lumaEnd chromaEnd) 3).map fun span => span &&& ~~~3)
    "Vulkan staged NV12 source span alignment overflow"

/-- The checks of a compute staging.  The device says how many texels a buffer
view may have. -/
def validateStagedLayout (maxTexelBufferElements : UInt32) (dimensions : UInt32 × UInt32)
    (layout : Nv12SharedObjectLayout) : Except String Unit := do
  let sourceSpan ← nv12ComputeSourceSpan dimensions layout
  refuse (sourceSpan > 0xFFFFFFFF + 1)
    "Vulkan staged NV12 source span exceeds the shader's 32-bit byte-address range"
  refuse (sourceSpan > layout.objectSize)
    s!"Vulkan staged NV12 source span {sourceSpan} exceeds allocation size {layout.objectSize}"
  let sourceTexelCount := sourceSpan / 4
  refuse (sourceTexelCount > maxTexelBufferElements.toUInt64)
    (s!"Vulkan staged NV12 allocation requires {sourceTexelCount} R32 texels, exceeding " ++
      s!"maxTexelBufferElements {maxTexelBufferElements}")

/-- The checks of a transfer staging. -/
def validateTransferLayout (dimensions : UInt32 × UInt32) (layout : Nv12SharedObjectLayout) :
    Except String Unit := do
  validateNv12SharedLayout dimensions layout
  refuse (layout.objectSize == 0) "Vulkan NV12 transfer source has a zero allocation size"
  refuse (layout.planes.any fun plane => plane.offset % 4 != 0)
    "Vulkan NV12 transfer plane offsets must be four-byte aligned"
  refuse ((chromaOf layout.planes).pitch % 2 != 0)
    "Vulkan NV12 transfer chroma pitch must be divisible by two-byte texels"

/-- The bytes a transfer staging maps: both planes. -/
def nv12TransferSourceSpan (dimensions : UInt32 × UInt32) (layout : Nv12SharedObjectLayout) :
    Except String UInt64 := do
  validateTransferLayout dimensions layout
  let (lumaEnd, chromaEnd) ← nv12PlaneEnds dimensions layout
  return max lumaEnd chromaEnd

/-! ## What is accepted -/

variable {dimensions : UInt32 × UInt32} {layout : Nv12SharedObjectLayout}

/-- The end of the last row of a plane, in unbounded arithmetic. -/
def extent (width : UInt32) (plane : ImportedPlane) (rows : Nat) : Nat :=
  plane.offset.toNat + plane.pitch.toNat * (rows - 1) + width.toNat

/-- The end of the luma plane. -/
def lumaExtent (dimensions : UInt32 × UInt32) (layout : Nv12SharedObjectLayout) : Nat :=
  extent dimensions.1 (lumaOf layout.planes) dimensions.2.toNat

/-- The end of the chroma plane, which has half as many rows of as many bytes. -/
def chromaExtent (dimensions : UInt32 × UInt32) (layout : Nv12SharedObjectLayout) : Nat :=
  extent dimensions.1 (chromaOf layout.planes) (dimensions.2.toNat / 2)

/-- An NV12 layout whose two planes lie apart inside the object. -/
structure SharedLayout (dimensions : UInt32 × UInt32) (layout : Nv12SharedObjectLayout) :
    Prop where
  /-- There is a column. -/
  width_pos : 0 < dimensions.1.toNat
  /-- There is a row. -/
  height_pos : 0 < dimensions.2.toNat
  /-- Columns come in pairs. -/
  width_even : dimensions.1.toNat % 2 = 0
  /-- Rows come in pairs. -/
  height_even : dimensions.2.toNat % 2 = 0
  /-- A luma row fits its pitch. -/
  luma_pitch : dimensions.1.toNat ≤ (lumaOf layout.planes).pitch.toNat
  /-- A chroma row fits its pitch. -/
  chroma_pitch : dimensions.1.toNat ≤ (chromaOf layout.planes).pitch.toNat
  /-- Chroma samples do not straddle the pitch. -/
  chroma_pitch_even : (chromaOf layout.planes).pitch.toNat % 2 = 0
  /-- The luma plane ends in the object. -/
  luma_within : lumaExtent dimensions layout ≤ layout.objectSize.toNat
  /-- The chroma plane ends in the object. -/
  chroma_within : chromaExtent dimensions layout ≤ layout.objectSize.toNat
  /-- One plane ends before the other begins. -/
  disjoint : lumaExtent dimensions layout ≤ (chromaOf layout.planes).offset.toNat ∨
    chromaExtent dimensions layout ≤ (lumaOf layout.planes).offset.toNat

/-- The row start of a plane's last row does not wrap: both factors have 32 bits. -/
theorem pitch_mul_toNat (pitch rows : UInt32) :
    (pitch.toUInt64 * (saturatingPred rows).toUInt64).toNat = pitch.toNat * (rows.toNat - 1) := by
  rw [widening_mul_toNat, saturatingPred_toNat]

theorem planeEnd_ok {width : UInt32} {plane : ImportedPlane} {rows : UInt32} {e : UInt64} :
    planeEnd width plane rows = .ok e ↔ e.toNat = extent width plane rows.toNat := by
  have he := e.toNat_lt
  rw [planeEnd, orRefuse_ok, Option.bind_eq_some_iff, extent]
  constructor
  · rintro ⟨rowStart, hrow, hend⟩
    rw [checkedAdd_eq_some] at hrow hend
    rw [hend, hrow, pitch_mul_toNat, UInt32.toNat_toUInt64]
  · intro h
    have hrow : plane.offset.toNat + plane.pitch.toNat * (rows.toNat - 1) < UInt64.size := by
      show _ < 2 ^ 64
      omega
    refine ⟨.ofNat (plane.offset.toNat + plane.pitch.toNat * (rows.toNat - 1)), ?_, ?_⟩
    · rw [checkedAdd_eq_some, pitch_mul_toNat, UInt64.toNat_ofNat_of_lt' hrow]
    · rw [checkedAdd_eq_some, UInt64.toNat_ofNat_of_lt' hrow, UInt32.toNat_toUInt64, h]

theorem half_toNat (n : UInt32) : (n / 2).toNat = n.toNat / 2 := by
  rw [UInt32.toNat_div]
  rfl

theorem nv12PlaneEnds_ok {ends : UInt64 × UInt64} :
    nv12PlaneEnds dimensions layout = .ok ends ↔
      ends.1.toNat = lumaExtent dimensions layout ∧
        ends.2.toNat = chromaExtent dimensions layout := by
  obtain ⟨lumaEnd, chromaEnd⟩ := ends
  simp only [nv12PlaneEnds, bind_ok, planeEnd_ok, pure_ok, Prod.mk.injEq, half_toNat]
  constructor
  · rintro ⟨_, hluma, _, hchroma, rfl, rfl⟩
    exact ⟨hluma, hchroma⟩
  · rintro ⟨hluma, hchroma⟩
    exact ⟨_, hluma, _, hchroma, rfl, rfl⟩

theorem planes_any (p : ImportedPlane → Bool) :
    layout.planes.any p = false ↔
      p (lumaOf layout.planes) = false ∧ p (chromaOf layout.planes) = false := by
  rw [Vector.any_eq_false]
  constructor
  · intro h
    exact ⟨Bool.eq_false_iff.mpr (h 0 (by decide)), Bool.eq_false_iff.mpr (h 1 (by decide))⟩
  · rintro ⟨h₀, h₁⟩ i hi
    match i, hi with
    | 0, _ => exact Bool.eq_false_iff.mp h₀
    | 1, _ => exact Bool.eq_false_iff.mp h₁

/-- The shared checks accept exactly the shared layouts. -/
theorem validateNv12SharedLayout_ok {u : Unit} :
    validateNv12SharedLayout dimensions layout = .ok u ↔ SharedLayout dimensions layout := by
  have hzero : ∀ n : UInt32, (n == 0) = false ↔ 0 < n.toNat := by
    intro n
    rw [beq_eq_false_iff_ne, ne_eq, ← UInt32.toNat_inj]
    exact Nat.pos_iff_ne_zero.symm
  have heven : ∀ n : UInt32, (n % 2 != 0) = false ↔ n.toNat % 2 = 0 := by
    intro n
    rw [bne_eq_false_iff_eq, ← UInt32.toNat_inj, UInt32.toNat_mod]
    rfl
  rw [validateNv12SharedLayout]
  simp only [bind_ok, refuse_ok, exists_const, nv12PlaneEnds_ok, Bool.or_eq_false_iff, hzero, heven,
    planes_any, decide_eq_false_iff_not, UInt32.lt_iff_toNat_lt, UInt64.lt_iff_toNat_lt,
    UInt64.le_iff_toNat_le, Bool.not_eq_eq_eq_not, Bool.not_false, Bool.or_eq_true,
    decide_eq_true_eq, Nat.not_lt, Prod.exists]
  constructor
  · rintro ⟨⟨⟨⟨hw, hh⟩, hw'⟩, hh'⟩, ⟨hl, hc⟩, he, lumaEnd, chromaEnd, ⟨hluma, hchroma⟩,
      ⟨hle, hce⟩, hdisjoint⟩
    rw [hluma] at hle hdisjoint
    rw [hchroma] at hce hdisjoint
    exact ⟨hw, hh, hw', hh', hl, hc, he, hle, hce, hdisjoint⟩
  · intro h
    have hsize := layout.objectSize.toNat_lt
    have hluma := UInt64.toNat_ofNat_of_lt' (Nat.lt_of_le_of_lt h.luma_within hsize)
    have hchroma := UInt64.toNat_ofNat_of_lt' (Nat.lt_of_le_of_lt h.chroma_within hsize)
    refine ⟨⟨⟨⟨h.width_pos, h.height_pos⟩, h.width_even⟩, h.height_even⟩,
      ⟨h.luma_pitch, h.chroma_pitch⟩, h.chroma_pitch_even, _, _, ⟨hluma, hchroma⟩, ?_, ?_⟩
    · rw [hluma, hchroma]
      exact ⟨h.luma_within, h.chroma_within⟩
    · rw [hluma, hchroma]
      exact h.disjoint

/-- The bytes of both planes, rounded up to whole words. -/
def sourceSpan (dimensions : UInt32 × UInt32) (layout : Nv12SharedObjectLayout) : Nat :=
  (max (lumaExtent dimensions layout) (chromaExtent dimensions layout) + 3) / 4 * 4

/-- Clearing the two low bits rounds down to a word. -/
theorem clear_low_toNat (n : UInt64) : (n &&& ~~~3).toNat = n.toNat / 4 * 4 := by
  have hclear : n.toBitVec &&& ~~~3#64 = (n.toBitVec >>> 2) <<< 2 := by
    ext i hi
    have hthree : (3#64)[i] = decide (i < 2) := Nat.testBit_two_pow_sub_one 2 i
    rw [BitVec.getElem_and, BitVec.getElem_not, hthree, BitVec.getElem_shiftLeft]
    by_cases h : i < 2
    · simp [h]
    · have hback : 2 + (i - 2) = i := by omega
      simp [h, hback, BitVec.getLsbD_eq_getElem hi]
  have hn := n.toBitVec.isLt
  show (n.toBitVec &&& ~~~3#64).toNat = _
  rw [hclear, BitVec.toNat_shiftLeft, BitVec.toNat_ushiftRight, Nat.shiftRight_eq_div_pow,
    Nat.shiftLeft_eq]
  show n.toNat / 2 ^ 2 * 2 ^ 2 % 2 ^ 64 = n.toNat / 4 * 4
  have hn' : n.toNat < 2 ^ 64 := hn
  omega

theorem max_toNat (a b : UInt64) : (max a b).toNat = max a.toNat b.toNat := by
  rw [Nat.max_def]
  show (if a ≤ b then b else a).toNat = _
  simp only [UInt64.le_iff_toNat_le]
  split <;> rfl

theorem nv12ComputeSourceSpan_ok {span : UInt64} :
    nv12ComputeSourceSpan dimensions layout = .ok span ↔
      SharedLayout dimensions layout ∧ span.toNat = sourceSpan dimensions layout := by
  have hspan := span.toNat_lt
  have hthree : (3 : UInt64).toNat = 3 := rfl
  simp only [nv12ComputeSourceSpan, bind_ok, exists_const, validateNv12SharedLayout_ok,
    nv12PlaneEnds_ok, orRefuse_ok, Option.map_eq_some_iff, checkedAdd_eq_some, max_toNat, hthree,
    Prod.exists, sourceSpan]
  refine and_congr_right fun h => ?_
  constructor
  · rintro ⟨lumaEnd, chromaEnd, ⟨hluma, hchroma⟩, end', hend, rfl⟩
    rw [clear_low_toNat, hend, hluma, hchroma]
  · intro hsum
    have hsize := layout.objectSize.toNat_lt
    have hluma := UInt64.toNat_ofNat_of_lt' (Nat.lt_of_le_of_lt h.luma_within hsize)
    have hchroma := UInt64.toNat_ofNat_of_lt' (Nat.lt_of_le_of_lt h.chroma_within hsize)
    have hend : max (lumaExtent dimensions layout) (chromaExtent dimensions layout) + 3 <
        UInt64.size := by
      show _ < 2 ^ 64
      omega
    refine ⟨_, _, ⟨hluma, hchroma⟩,
      .ofNat (max (lumaExtent dimensions layout) (chromaExtent dimensions layout) + 3), ?_, ?_⟩
    · rw [hluma, hchroma]
      exact UInt64.toNat_ofNat_of_lt' hend
    · rw [← UInt64.toNat_inj, clear_low_toNat, UInt64.toNat_ofNat_of_lt' hend, hsum]

/-- A layout a compute staging accepts: its words have 32-bit byte addresses and
fit a buffer view. -/
structure StagedLayout (maxTexelBufferElements : UInt32) (dimensions : UInt32 × UInt32)
    (layout : Nv12SharedObjectLayout) : Prop extends SharedLayout dimensions layout where
  /-- An address in the span has 32 bits. -/
  span_addressable : sourceSpan dimensions layout ≤ 2 ^ 32
  /-- The span ends in the object. -/
  span_within : sourceSpan dimensions layout ≤ layout.objectSize.toNat
  /-- A view can have its words. -/
  span_viewable : sourceSpan dimensions layout / 4 ≤ maxTexelBufferElements.toNat

/-- The checks of a compute staging accept exactly the staged layouts. -/
theorem validateStagedLayout_ok {maxTexelBufferElements : UInt32} :
    validateStagedLayout maxTexelBufferElements dimensions layout = .ok () ↔
      StagedLayout maxTexelBufferElements dimensions layout := by
  have hlimit : ((0xFFFFFFFF + 1 : UInt64)).toNat = 2 ^ 32 := rfl
  have hfour : ∀ span : UInt64, (span / 4).toNat = span.toNat / 4 := fun span => by
    rw [UInt64.toNat_div]
    rfl
  simp only [validateStagedLayout, bind_ok, exists_const, refuse_ok, nv12ComputeSourceSpan_ok,
    decide_eq_false_iff_not, UInt64.lt_iff_toNat_lt, Nat.not_lt, hlimit, hfour,
    UInt32.toNat_toUInt64, gt_iff_lt]
  constructor
  · rintro ⟨span, ⟨hshared, hspan⟩, haddressable, hwithin, hviewable⟩
    rw [hspan] at haddressable hwithin hviewable
    exact ⟨hshared, haddressable, hwithin, hviewable⟩
  · intro h
    have hspan := UInt64.toNat_ofNat_of_lt'
      (Nat.lt_of_le_of_lt h.span_within layout.objectSize.toNat_lt)
    refine ⟨_, ⟨h.toSharedLayout, hspan⟩, ?_⟩
    rw [hspan]
    exact ⟨h.span_addressable, h.span_within, h.span_viewable⟩

/-- A layout a transfer staging accepts: its planes start at whole words. -/
structure TransferLayout (dimensions : UInt32 × UInt32) (layout : Nv12SharedObjectLayout) :
    Prop extends SharedLayout dimensions layout where
  /-- The copy of the luma plane begins at a word. -/
  luma_aligned : (lumaOf layout.planes).offset.toNat % 4 = 0
  /-- The copy of the chroma plane begins at a word. -/
  chroma_aligned : (chromaOf layout.planes).offset.toNat % 4 = 0

/-- The checks of a transfer staging accept exactly the transfer layouts. -/
theorem validateTransferLayout_ok {u : Unit} :
    validateTransferLayout dimensions layout = .ok u ↔ TransferLayout dimensions layout := by
  have hzero : (layout.objectSize == 0) = false ↔ layout.objectSize.toNat ≠ 0 := by
    rw [beq_eq_false_iff_ne, ne_eq, ← UInt64.toNat_inj]
    rfl
  have hfour : ∀ n : UInt64, (n % 4 != 0) = false ↔ n.toNat % 4 = 0 := by
    intro n
    rw [bne_eq_false_iff_eq, ← UInt64.toNat_inj, UInt64.toNat_mod]
    rfl
  have heven : ∀ n : UInt32, (n % 2 != 0) = false ↔ n.toNat % 2 = 0 := by
    intro n
    rw [bne_eq_false_iff_eq, ← UInt32.toNat_inj, UInt32.toNat_mod]
    rfl
  simp only [validateTransferLayout, bind_ok, exists_const, refuse_ok, validateNv12SharedLayout_ok,
    planes_any, hzero, hfour, heven]
  constructor
  · rintro ⟨hshared, -, ⟨hluma, hchroma⟩, -⟩
    exact ⟨hshared, hluma, hchroma⟩
  · intro h
    have hluma : dimensions.1.toNat ≤ lumaExtent dimensions layout := Nat.le_add_left _ _
    have hpos := h.width_pos
    have hwithin := h.luma_within
    exact ⟨h.toSharedLayout, by omega, ⟨h.luma_aligned, h.chroma_aligned⟩, h.chroma_pitch_even⟩

theorem nv12TransferSourceSpan_ok {span : UInt64} :
    nv12TransferSourceSpan dimensions layout = .ok span ↔
      TransferLayout dimensions layout ∧
        span.toNat = max (lumaExtent dimensions layout) (chromaExtent dimensions layout) := by
  simp only [nv12TransferSourceSpan, bind_ok, exists_const, validateTransferLayout_ok,
    nv12PlaneEnds_ok, pure_ok, Prod.exists]
  refine and_congr_right fun h => ?_
  constructor
  · rintro ⟨lumaEnd, chromaEnd, ⟨hluma, hchroma⟩, rfl⟩
    rw [max_toNat, hluma, hchroma]
  · intro hmax
    have hsize := layout.objectSize.toNat_lt
    have hluma := UInt64.toNat_ofNat_of_lt' (Nat.lt_of_le_of_lt h.luma_within hsize)
    have hchroma := UInt64.toNat_ofNat_of_lt' (Nat.lt_of_le_of_lt h.chroma_within hsize)
    refine ⟨_, _, ⟨hluma, hchroma⟩, ?_⟩
    rw [← UInt64.toNat_inj, max_toNat, hluma, hchroma, hmax]

end VideoInterop.Vulkan
