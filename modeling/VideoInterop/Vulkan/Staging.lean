import VideoInterop.Vulkan.Shader

/-!
# Compute staging of NV12

What the compute shaders do with a layout that a compute staging accepts.  The
host checks the layout in exact 64-bit arithmetic, the shaders address it in
wrapping 32-bit arithmetic.  An accepted layout is small enough for the two to
agree (`StagedLayout.lumaAddress_toNat`, `StagedLayout.chromaAddress_toNat`), so every fetch lies in
the view and reads the byte the layout means.
-/

namespace VideoInterop.Vulkan

open VideoInterop.Words (Texels loadPair_eq)

variable {maxTexelBufferElements : UInt32} {dimensions : UInt32 × UInt32}
  {layout : Nv12SharedObjectLayout} {conversion : Nv12Conversion} {object : Nat → BitVec 8}

/-! ## Bounds -/

/-- The address of a luma byte in the object. -/
def lumaByteAt (layout : Nv12SharedObjectLayout) (x y : Nat) : Nat :=
  (lumaOf layout.planes).offset.toNat + y * (lumaOf layout.planes).pitch.toNat + x

/-- The address of the first byte of a chroma pair in the object. -/
def chromaByteAt (layout : Nv12SharedObjectLayout) (cx cy : Nat) : Nat :=
  (chromaOf layout.planes).offset.toNat + cy * (chromaOf layout.planes).pitch.toNat + 2 * cx

/-- A byte of a row lies before the end of the plane's last row. -/
theorem row_lt {width : UInt32} (plane : ImportedPlane) {rows x y : Nat} (hy : y < rows)
    (hx : x < width.toNat) :
    plane.offset.toNat + y * plane.pitch.toNat + x < extent width plane rows := by
  have hrow : plane.pitch.toNat * y ≤ plane.pitch.toNat * (rows - 1) :=
    Nat.mul_le_mul_left _ (by omega)
  rw [extent, Nat.mul_comm y]
  omega

theorem lumaByteAt_lt (layout : Nv12SharedObjectLayout) {x y : Nat} (hx : x < dimensions.1.toNat)
    (hy : y < dimensions.2.toNat) : lumaByteAt layout x y < lumaExtent dimensions layout :=
  row_lt _ hy hx

/-- Both bytes of a chroma pair lie in its plane. -/
theorem SharedLayout.chromaByteAt_lt (h : SharedLayout dimensions layout) {cx cy : Nat}
    (hx : cx < dimensions.1.toNat / 2) (hy : cy < dimensions.2.toNat / 2) :
    chromaByteAt layout cx cy + 1 < chromaExtent dimensions layout := by
  have heven := h.width_even
  exact row_lt (chromaOf layout.planes) hy (x := 2 * cx + 1) (by omega)

theorem extents_le_span (dimensions : UInt32 × UInt32) (layout : Nv12SharedObjectLayout) :
    lumaExtent dimensions layout ≤ sourceSpan dimensions layout ∧
      chromaExtent dimensions layout ≤ sourceSpan dimensions layout := by
  rw [sourceSpan]
  omega

/-- The two planes lie apart, so together they are not longer than the span. -/
theorem SharedLayout.rows_le (h : SharedLayout dimensions layout) :
    (lumaOf layout.planes).pitch.toNat * (dimensions.2.toNat - 1) + dimensions.1.toNat +
      ((chromaOf layout.planes).pitch.toNat * (dimensions.2.toNat / 2 - 1) + dimensions.1.toNat) ≤
      sourceSpan dimensions layout := by
  have hspan := extents_le_span dimensions layout
  have hdisjoint := h.disjoint
  simp only [lumaExtent, chromaExtent, extent] at hspan hdisjoint
  omega

/-- Constants that name an accepted layout. -/
structure Names (p : Parameters) (dimensions : UInt32 × UInt32)
    (layout : Nv12SharedObjectLayout) : Prop where
  /-- The columns. -/
  width : p.width.toNat = dimensions.1.toNat
  /-- The rows. -/
  height : p.height.toNat = dimensions.2.toNat
  /-- The first byte of the luma plane. -/
  yOffset : p.yOffset.toNat = (lumaOf layout.planes).offset.toNat
  /-- Its pitch. -/
  yPitch : p.yPitch.toNat = (lumaOf layout.planes).pitch.toNat
  /-- The first byte of the chroma plane. -/
  uvOffset : p.uvOffset.toNat = (chromaOf layout.planes).offset.toNat
  /-- Its pitch. -/
  uvPitch : p.uvPitch.toNat = (chromaOf layout.planes).pitch.toNat

namespace StagedLayout

variable (h : StagedLayout maxTexelBufferElements dimensions layout)
include h

/-- Two rows of luma and one of chroma fit, so the width is far from negative as
a signed number. -/
theorem width_le : 3 * dimensions.1.toNat ≤ 2 ^ 32 := by
  have hrows := h.rows_le
  have hspan := h.span_addressable
  have heven := h.height_even
  have hpos := h.height_pos
  have hpitch : (lumaOf layout.planes).pitch.toNat * 1 ≤
      (lumaOf layout.planes).pitch.toNat * (dimensions.2.toNat - 1) :=
    Nat.mul_le_mul_left _ (by omega)
  have hwidth := h.luma_pitch
  omega

/-- So is the height: a row has two bytes or more. -/
theorem height_le : 3 * dimensions.2.toNat ≤ 2 ^ 32 := by
  have hrows := h.rows_le
  have hspan := h.span_addressable
  have heven := h.height_even
  have hpos := h.height_pos
  have hwide : 2 ≤ dimensions.1.toNat := by
    have := h.width_pos
    have := h.width_even
    omega
  have hluma : 2 * (dimensions.2.toNat - 1) ≤
      (lumaOf layout.planes).pitch.toNat * (dimensions.2.toNat - 1) :=
    Nat.mul_le_mul_right _ (hwide.trans h.luma_pitch)
  have hchroma : 2 * (dimensions.2.toNat / 2 - 1) ≤
      (chromaOf layout.planes).pitch.toNat * (dimensions.2.toNat / 2 - 1) :=
    Nat.mul_le_mul_right _ (hwide.trans h.chroma_pitch)
  omega

theorem span_ok : nv12ComputeSourceSpan dimensions layout =
    .ok (.ofNat (sourceSpan dimensions layout)) :=
  nv12ComputeSourceSpan_ok.mpr ⟨h.toSharedLayout, UInt64.toNat_ofNat_of_lt'
    (Nat.lt_of_le_of_lt h.span_within layout.objectSize.toNat_lt)⟩

/-- The constants the shaders get. -/
theorem pushConstants_ok (conversion : Nv12Conversion) :
    ∃ c, nv12PushConstants dimensions layout conversion = .ok c ∧
    Names c.parameters dimensions layout := by
  have hspan := extents_le_span dimensions layout
  have haddressable := h.span_addressable
  have hpos := h.width_pos
  simp only [lumaExtent, chromaExtent, extent] at hspan
  have hluma : (lumaOf layout.planes).offset.toNat < 2 ^ 32 := by omega
  have hchroma : (chromaOf layout.planes).offset.toNat < 2 ^ 32 := by omega
  rw [nv12PushConstants, tryU32, if_pos hluma, tryU32, if_pos hchroma]
  refine ⟨_, rfl, rfl, rfl, ?_, rfl, ?_, rfl⟩
  · exact (UInt64.toNat_toUInt32 _).trans (Nat.mod_eq_of_lt hluma)
  · exact (UInt64.toNat_toUInt32 _).trans (Nat.mod_eq_of_lt hchroma)

end StagedLayout

/-! ## Addresses -/

section
variable {p : Parameters} (h : StagedLayout maxTexelBufferElements dimensions layout)
  (hp : Names p dimensions layout)
include h hp

/-- The address of a luma byte does not wrap. -/
theorem StagedLayout.lumaAddress_toNat (pixel : IVec2) (hx : pixel.1.toNat < dimensions.1.toNat)
    (hy : pixel.2.toNat < dimensions.2.toNat) :
    (lumaAddress p pixel).toNat = lumaByteAt layout pixel.1.toNat pixel.2.toNat := by
  have hlt := lumaByteAt_lt layout hx hy
  have hspan := extents_le_span dimensions layout
  have haddressable := h.span_addressable
  simp only [lumaAddress, BitVec.toNat_add, BitVec.toNat_mul, hp.yOffset, hp.yPitch]
  rw [lumaByteAt] at hlt ⊢
  omega

/-- Nor does the address of the byte below it. -/
theorem StagedLayout.nextRow_toNat (pixel : IVec2) (hx : pixel.1.toNat < dimensions.1.toNat)
    (hy : pixel.2.toNat + 1 < dimensions.2.toNat) :
    (lumaAddress p pixel + p.yPitch).toNat =
      lumaByteAt layout pixel.1.toNat (pixel.2.toNat + 1) := by
  have hlt := lumaByteAt_lt layout hx hy
  have hspan := extents_le_span dimensions layout
  have haddressable := h.span_addressable
  rw [BitVec.toNat_add, h.lumaAddress_toNat hp pixel hx (by omega), hp.yPitch]
  simp only [lumaByteAt, Nat.add_mul, Nat.one_mul] at hlt ⊢
  omega

/-- The address of a chroma pair does not wrap. -/
theorem StagedLayout.chromaAddress_toNat (block : IVec2)
    (hx : block.1.toNat < dimensions.1.toNat / 2) (hy : block.2.toNat < dimensions.2.toNat / 2) :
    (chromaAddress p block).toNat = chromaByteAt layout block.1.toNat block.2.toNat := by
  have hlt := h.chromaByteAt_lt hx hy
  have hspan := extents_le_span dimensions layout
  have haddressable := h.span_addressable
  have htwo : (2#32).toNat = 2 := rfl
  simp only [chromaAddress, BitVec.toNat_add, BitVec.toNat_mul, hp.uvOffset, hp.uvPitch, htwo]
  rw [chromaByteAt] at hlt ⊢
  omega

/-- The nearest position inside the chroma plane. -/
def nearest (n : Nat) (x : Int) : Nat := (max 0 (min x (n - 1))).toNat

omit h hp in
theorem nearest_lt {n : Nat} (hn : 0 < n) (x : Int) : nearest n x < n := by
  rw [nearest]
  omega

omit h hp in
/-- The signed clamp to a plane of `n` columns. -/
theorem clampInt_toNat {n : Nat} (hpos : 0 < n) (hlt : n < 2 ^ 31) {extent : BitVec 32}
    (he : extent.toNat = n) (x : BitVec 32) :
    (clampInt x 0#32 (extent - 1#32)).toNat = nearest n x.toInt := by
  have hone : (1#32).toNat = 1 := rfl
  have hpred : (extent - 1#32).toNat = n - 1 := by
    rw [BitVec.toNat_sub, he, hone]
    omega
  have hupper : (extent - 1#32).toInt = n - 1 := by
    rw [BitVec.toInt_eq_toNat_of_lt (by omega), hpred]
    omega
  have hzero : (0#32).toInt = 0 := rfl
  by_cases hneg : x.toInt < 0
  · have hraise : x.slt 0#32 = true := BitVec.slt_iff_toInt_lt.mpr hneg
    have hkeep : ¬ (extent - 1#32).slt 0#32 = true := by
      rw [BitVec.slt_iff_toInt_lt, hupper, hzero]
      omega
    rw [clampInt, if_pos hraise]
    simp only [if_neg hkeep, BitVec.toNat_ofNat, nearest]
    omega
  · have hraise : ¬ x.slt 0#32 = true := by rwa [BitVec.slt_iff_toInt_lt]
    rw [clampInt, if_neg hraise]
    by_cases hle : x.toInt ≤ n - 1
    · have hkeep : ¬ (extent - 1#32).slt x = true := by
        rw [BitVec.slt_iff_toInt_lt, hupper]
        omega
      have hx : (x.toNat : Int) = x.toInt := by
        rw [BitVec.toInt_eq_toNat_cond] at hneg ⊢
        split at hneg <;> omega
      simp only [if_neg hkeep, nearest]
      omega
    · have hcut : (extent - 1#32).slt x = true := by
        rw [BitVec.slt_iff_toInt_lt, hupper]
        omega
      simp only [if_pos hcut, hpred, nearest]
      omega

/-- A clamped chroma position lies in the half-size plane. -/
theorem StagedLayout.clampChroma_toNat (location : IVec2) :
    (clampChroma p location).1.toNat = nearest (dimensions.1.toNat / 2) location.1.toInt ∧
      (clampChroma p location).2.toNat = nearest (dimensions.2.toNat / 2) location.2.toInt := by
  have hwidth := h.width_le
  have hheight := h.height_le
  have hpos := h.width_pos
  have heven := h.width_even
  have hpos' := h.height_pos
  have heven' := h.height_even
  have hhalf : ∀ n : Uint, (n >>> 1).toNat = n.toNat / 2 := fun n => by
    rw [BitVec.toNat_ushiftRight, Nat.shiftRight_eq_div_pow]
  exact ⟨clampInt_toNat (by omega) (by omega) (by rw [hhalf, hp.width]) location.1,
    clampInt_toNat (by omega) (by omega) (by rw [hhalf, hp.height]) location.2⟩

/-! ## Loads -/

omit hp in
/-- A pair load inside the span reads two bytes of the object. -/
theorem StagedLayout.loadPair (object : Nat → BitVec 8) {offset : Uint}
    {a : Nat} (ha : offset.toNat = a)
    (hlt : a + 1 < sourceSpan dimensions layout) :
    (sourceView object (.ofNat (sourceSpan dimensions layout))).loadPair offset =
      some ((object a).setWidth 32, (object (a + 1)).setWidth 32) := by
  subst ha
  have haddressable := h.span_addressable
  have hcount : (sourceView object (.ofNat (sourceSpan dimensions layout))).count =
      sourceSpan dimensions layout / 4 := by
    show (UInt64.ofNat (sourceSpan dimensions layout) / 4).toNat = _
    rw [UInt64.toNat_div, UInt64.toNat_ofNat_of_lt'
      (Nat.lt_of_le_of_lt h.span_within layout.objectSize.toNat_lt)]
    rfl
  refine loadPair_eq (by omega) ?_
  rw [hcount]
  rw [sourceSpan] at hlt ⊢
  omega

end

/-- The luma code of a pixel. -/
def lumaCode (layout : Nv12SharedObjectLayout) (object : Nat → BitVec 8) (x y : Nat) : Uint :=
  (object (lumaByteAt layout x y)).setWidth 32

/-- The two chroma codes at a position of the chroma plane. -/
def chromaCode (layout : Nv12SharedObjectLayout) (object : Nat → BitVec 8) (cx cy : Nat) :
    Uint × Uint :=
  ((object (chromaByteAt layout cx cy)).setWidth 32,
    (object (chromaByteAt layout cx cy + 1)).setWidth 32)

section
variable {F : Type} [ShaderFloat F]

/-- The chroma codes nearest to a location. -/
def chromaNear (dimensions : UInt32 × UInt32) (layout : Nv12SharedObjectLayout)
    (object : Nat → BitVec 8) (location : IVec2) : F × F :=
  let code := chromaCode layout object (nearest (dimensions.1.toNat / 2) location.1.toInt)
    (nearest (dimensions.2.toNat / 2) location.2.toInt)
  (ShaderFloat.ofUint code.1, ShaderFloat.ofUint code.2)

/-- Of the chroma of a block, that of one of its pixels. -/
def pick {α : Type} (x y : Nat) (c : α × α × α × α) : α :=
  if y % 2 = 0 then if x % 2 = 0 then c.1 else c.2.1
  else if x % 2 = 0 then c.2.2.1 else c.2.2.2

/-- The colour `nv12.comp` gives a pixel, from the bytes the layout means. -/
def rgbaColour (p : Parameters) (dimensions : UInt32 × UInt32) (layout : Nv12SharedObjectLayout)
    (object : Nat → BitVec 8) (x y : Nat) : F × F × F × F :=
  convertCode p (ShaderFloat.ofUint (lumaCode layout object x y))
    (pick x y (blockChroma (m := Id) p (chromaNear dimensions layout object)
      (.ofNat 32 (x / 2), .ofNat 32 (y / 2))))

/-- The texel `nv12_planes.comp` gives a luma position. -/
def lumaTexel (layout : Nv12SharedObjectLayout) (object : Nat → BitVec 8) (x y : Nat) :
    F × F × F × F := (unorm (lumaCode layout object x y), 0.0, 0.0, 1.0)

/-- The texel `nv12_planes.comp` gives a chroma position. -/
def chromaTexel (layout : Nv12SharedObjectLayout) (object : Nat → BitVec 8) (cx cy : Nat) :
    F × F × F × F :=
  (unorm (chromaCode layout object cx cy).1, unorm (chromaCode layout object cx cy).2, 0.0, 1.0)

/-- Chroma that can always be read makes a block's chroma that can be computed. -/
theorem blockChroma_some (p : Parameters) (c : IVec2 → F × F) (block : IVec2) :
    blockChroma p (fun location => some (c location)) block =
      some (blockChroma (m := Id) p c block) := by
  simp only [blockChroma]
  split <;> rfl

/-- The pixels of a block, in the order the shaders store them. -/
def pixelsOf (id : Nat × Nat) : List (Nat × Nat) :=
  [(2 * id.1, 2 * id.2), (2 * id.1 + 1, 2 * id.2), (2 * id.1, 2 * id.2 + 1),
    (2 * id.1 + 1, 2 * id.2 + 1)]

/-- The stores of a block into one image. -/
def blockStores (binding : Nat) (colour : Nat → Nat → F × F × F × F) (id : Nat × Nat) :
    List (ImageStore F) :=
  (pixelsOf id).map fun q => ⟨binding, (.ofNat 32 q.1, .ofNat 32 q.2), colour q.1 q.2⟩

/-- A block of the image. -/
def InImage (dimensions : UInt32 × UInt32) (id : Nat × Nat) : Prop :=
  2 * id.1 < dimensions.1.toNat ∧ 2 * id.2 < dimensions.2.toNat

instance (dimensions : UInt32 × UInt32) (id : Nat × Nat) : Decidable (InImage dimensions id) :=
  inferInstanceAs (Decidable (_ ∧ _))

end

section
variable {F : Type} [ShaderFloat F] {p : Parameters}
  (h : StagedLayout maxTexelBufferElements dimensions layout) (hp : Names p dimensions layout)
include h hp

/-- `load_chroma` never fails, and reads the nearest chroma pair of the plane. -/
theorem StagedLayout.loadChroma_eq (location : IVec2) :
    loadChroma p (sourceView object (.ofNat (sourceSpan dimensions layout))) location =
      some (chromaNear (F := F) dimensions layout object location) := by
  have hwidth := h.width_pos
  have heven := h.width_even
  have hheight := h.height_pos
  have heven' := h.height_even
  obtain ⟨hx, hy⟩ := h.clampChroma_toNat hp location
  have hxlt := nearest_lt (n := dimensions.1.toNat / 2) (by omega) location.1.toInt
  have hylt := nearest_lt (n := dimensions.2.toNat / 2) (by omega) location.2.toInt
  have haddress := h.chromaAddress_toNat hp (clampChroma p location)
    (by rw [hx]; exact hxlt) (by rw [hy]; exact hylt)
  rw [hx, hy] at haddress
  have hspan := extents_le_span dimensions layout
  have hlt := h.chromaByteAt_lt hxlt hylt
  rw [loadChroma, h.loadPair object haddress (hlt.trans_le hspan.2)]
  rfl

omit hp in
/-- A luma pair load reads a pixel of an even column and the one to its right. -/
theorem StagedLayout.loadLuma {offset : Uint} {x y : Nat}
    (ho : offset.toNat = lumaByteAt layout x y) (hx : x < dimensions.1.toNat) (he : x % 2 = 0)
    (hy : y < dimensions.2.toNat) :
    (sourceView object (.ofNat (sourceSpan dimensions layout))).loadPair offset =
      some (lumaCode layout object x y, lumaCode layout object (x + 1) y) := by
  have heven := h.width_even
  have hlt := lumaByteAt_lt layout (x := x + 1) (by omega) hy
  have hspan := extents_le_span dimensions layout
  exact h.loadPair object ho (hlt.trans_le hspan.1)

omit h hp in
theorem double_ofNat (n : Nat) : BitVec.ofNat 32 n * 2#32 = .ofNat 32 (2 * n) := by
  refine BitVec.eq_of_toNat_eq ?_
  rw [BitVec.toNat_mul, BitVec.toNat_ofNat, BitVec.toNat_ofNat, BitVec.toNat_ofNat]
  omega

omit h hp in
theorem succ_ofNat (n : Nat) : BitVec.ofNat 32 n + 1#32 = .ofNat 32 (n + 1) :=
  (BitVec.ofNat_add n 1).symm

omit h hp in
theorem ofNat_zero (n : Nat) : BitVec.ofNat 32 n + 0#32 = .ofNat 32 n := BitVec.add_zero _

/-- The two row loads of a block. -/
theorem StagedLayout.loadRows (object : Nat → BitVec 8) {id : Nat × Nat}
    (hid : InImage dimensions id) :
    (sourceView object (.ofNat (sourceSpan dimensions layout))).loadPair
        (lumaAddress p (.ofNat 32 (2 * id.1), .ofNat 32 (2 * id.2))) =
      some (lumaCode layout object (2 * id.1) (2 * id.2),
        lumaCode layout object (2 * id.1 + 1) (2 * id.2)) ∧
    (sourceView object (.ofNat (sourceSpan dimensions layout))).loadPair
        (lumaAddress p (.ofNat 32 (2 * id.1), .ofNat 32 (2 * id.2)) + p.yPitch) =
      some (lumaCode layout object (2 * id.1) (2 * id.2 + 1),
        lumaCode layout object (2 * id.1 + 1) (2 * id.2 + 1)) := by
  obtain ⟨hx, hy⟩ := hid
  have hwidth := h.width_le
  have hheight := h.height_le
  have heven := h.height_even
  have hpixel : ∀ n : Nat, 2 * n < 2 ^ 32 → (BitVec.ofNat 32 (2 * n)).toNat = 2 * n := by
    intro n hn
    rw [BitVec.toNat_ofNat, Nat.mod_eq_of_lt hn]
  have hpx := hpixel id.1 (by omega)
  have hpy := hpixel id.2 (by omega)
  have htop := h.lumaAddress_toNat hp (.ofNat 32 (2 * id.1), .ofNat 32 (2 * id.2))
    (by rw [hpx]; exact hx) (by rw [hpy]; exact hy)
  have hbottom := h.nextRow_toNat hp (.ofNat 32 (2 * id.1), .ofNat 32 (2 * id.2))
    (by rw [hpx]; exact hx) (by rw [hpy]; omega)
  rw [hpx, hpy] at htop hbottom
  exact ⟨h.loadLuma htop hx (by omega) hy, h.loadLuma hbottom hx (by omega) (by omega)⟩

/-- An invocation outside the image returns at once, as long as its pixel is not
negative. -/
theorem StagedLayout.outside_iff {id : Nat × Nat} (hx : 2 * id.1 < 2 ^ 31)
    (hy : 2 * id.2 < 2 ^ 31) :
    (p.width.sle (BitVec.ofNat 32 (2 * id.1)) || p.height.sle (BitVec.ofNat 32 (2 * id.2))) =
      true ↔ ¬ InImage dimensions id := by
  have hwidth := h.width_le
  have hheight := h.height_le
  have hpixel : ∀ n : Nat, 2 * n < 2 ^ 31 → (BitVec.ofNat 32 (2 * n)).toInt = 2 * n := by
    intro n hn
    have hnat : (BitVec.ofNat 32 (2 * n)).toNat = 2 * n := by
      rw [BitVec.toNat_ofNat]
      omega
    rw [BitVec.toInt_eq_toNat_of_lt (by omega), hnat]
    rfl
  have hw : p.width.toInt = dimensions.1.toNat := by
    rw [BitVec.toInt_eq_toNat_of_lt (by rw [hp.width]; omega), hp.width]
  have hh : p.height.toInt = dimensions.2.toNat := by
    rw [BitVec.toInt_eq_toNat_of_lt (by rw [hp.height]; omega), hp.height]
  rw [Bool.or_eq_true, BitVec.sle_iff_toInt_le, BitVec.sle_iff_toInt_le, hpixel _ hx,
    hpixel _ hy, hw, hh, InImage]
  omega

/-- One invocation of `nv12.comp` stores its block, from the bytes the layout
means. -/
theorem StagedLayout.nv12Comp_eq {id : Nat × Nat} (hx : 2 * id.1 < 2 ^ 31)
    (hy : 2 * id.2 < 2 ^ 31) :
    nv12Comp (F := F) p (sourceView object (.ofNat (sourceSpan dimensions layout)))
        (.ofNat 32 id.1, .ofNat 32 id.2) =
      some (if InImage dimensions id then
        blockStores 1 (rgbaColour p dimensions layout object) id else []) := by
  by_cases hid : InImage dimensions id
  · have hinside := mt (h.outside_iff hp hx hy).mp (not_not_intro hid)
    obtain ⟨htop, hbottom⟩ := h.loadRows hp object hid
    simp only [nv12Comp, double_ofNat]
    rw [if_neg hinside, if_pos hid]
    simp only [htop, hbottom, Option.bind_eq_bind, Option.bind_some,
      funext (h.loadChroma_eq hp), blockChroma_some]
    have hodd : ∀ n : Nat, (2 * n + 1) / 2 = n ∧ (2 * n + 1) % 2 = 1 := fun n => by omega
    simp only [blockStores, pixelsOf, List.map_cons, List.map_nil, shift, succ_ofNat, ofNat_zero,
      rgbaColour, pick, Nat.mul_div_cancel_left _ Nat.two_pos, Nat.mul_mod_right, hodd, if_true,
      if_neg Nat.one_ne_zero]
    rfl
  · simp only [nv12Comp, double_ofNat]
    rw [if_pos ((h.outside_iff hp hx hy).mpr hid), if_neg hid]

/-- One invocation of `nv12_planes.comp` stores its block of luma and its chroma
pair, from the bytes the layout means. -/
theorem StagedLayout.nv12PlanesComp_eq {id : Nat × Nat} (hx : 2 * id.1 < 2 ^ 31)
    (hy : 2 * id.2 < 2 ^ 31) :
    nv12PlanesComp (F := F) p (sourceView object (.ofNat (sourceSpan dimensions layout)))
        (.ofNat 32 id.1, .ofNat 32 id.2) =
      some (if InImage dimensions id then
        blockStores 1 (lumaTexel layout object) id ++
          [⟨2, (.ofNat 32 id.1, .ofNat 32 id.2), chromaTexel layout object id.1 id.2⟩]
            else []) := by
  by_cases hid : InImage dimensions id
  · have hinside := mt (h.outside_iff hp hx hy).mp (not_not_intro hid)
    obtain ⟨htop, hbottom⟩ := h.loadRows hp object hid
    obtain ⟨hxlt, hylt⟩ := hid
    have hcx : id.1 < dimensions.1.toNat / 2 := by
      have := h.width_even
      omega
    have hcy : id.2 < dimensions.2.toNat / 2 := by
      have := h.height_even
      omega
    have hblock : ∀ n : Nat, 2 * n < 2 ^ 31 → (BitVec.ofNat 32 n).toNat = n := fun n hn => by
      rw [BitVec.toNat_ofNat]
      omega
    have haddress := h.chromaAddress_toNat hp (.ofNat 32 id.1, .ofNat 32 id.2)
      (by rw [hblock _ hx]; exact hcx) (by rw [hblock _ hy]; exact hcy)
    rw [hblock _ hx, hblock _ hy] at haddress
    have hspan := extents_le_span dimensions layout
    have hchroma := h.loadPair object haddress
      ((h.chromaByteAt_lt hcx hcy).trans_le hspan.2)
    simp only [nv12PlanesComp, double_ofNat]
    rw [if_neg hinside, if_pos ⟨hxlt, hylt⟩]
    simp only [htop, hbottom, hchroma, Option.bind_eq_bind, Option.bind_some]
    simp only [blockStores, pixelsOf, List.map_cons, List.map_nil, shift, succ_ofNat, ofNat_zero]
    rfl
  · simp only [nv12PlanesComp, double_ofNat]
    rw [if_pos ((h.outside_iff hp hx hy).mpr hid), if_neg hid]

end

/-! ## The dispatch -/

section
variable {F : Type}

/-- What a store leaves at a place of an image. -/
def placed (binding : Nat) (x y : Int) (s : ImageStore F) : Option (F × F × F × F) :=
  if s.binding = binding ∧ s.position.1.toInt = x ∧ s.position.2.toInt = y then some s.value
  else none

theorem toInt_ofNat (n : Nat) (hn : n < 2 ^ 31) : (BitVec.ofNat 32 n).toInt = n := by
  have hnat : (BitVec.ofNat 32 n).toNat = n := by
    rw [BitVec.toNat_ofNat]
    omega
  rw [BitVec.toInt_eq_toNat_of_lt (by omega), hnat]

/-- Where each invocation stores at its own id, a place gets the store of its id. -/
theorem ids_placed {ids : List (Nat × Nat)} (hnodup : ids.Nodup)
    (hlt : ∀ id ∈ ids, id.1 < 2 ^ 31 ∧ id.2 < 2 ^ 31) {inside : Nat × Nat → Prop}
    [DecidablePred inside] (hinside : ∀ id, inside id → id ∈ ids)
    (value : Nat × Nat → F × F × F × F) (binding : Nat) (x y : Int) :
    (ids.flatMap fun id => if inside id then
        [(⟨binding, (.ofNat 32 id.1, .ofNat 32 id.2), value id⟩ : ImageStore F)]
        else []).filterMap (placed binding x y) =
      if (0 ≤ x ∧ 0 ≤ y) ∧ inside (x.toNat, y.toNat) then [value (x.toNat, y.toNat)] else [] := by
  have hplaced : ∀ id ∈ ids, (if inside id then
        [(⟨binding, (.ofNat 32 id.1, .ofNat 32 id.2), value id⟩ : ImageStore F)]
        else []).filterMap (placed binding x y) =
      if inside id ∧ x = id.1 ∧ y = id.2 then [value (x.toNat, y.toNat)] else [] := by
    intro id hid
    obtain ⟨hx, hy⟩ := hlt id hid
    by_cases hin : inside id
    · rw [if_pos hin]
      simp only [List.filterMap_cons, List.filterMap_nil, placed, true_and, toInt_ofNat id.1 hx,
        toInt_ofNat id.2 hy]
      by_cases hat : (id.1 : Int) = x ∧ (id.2 : Int) = y
      · obtain ⟨rfl, rfl⟩ := hat
        simp [hin]
      · rw [if_neg hat, if_neg fun hat' => hat ⟨hat'.2.1.symm, hat'.2.2.symm⟩]
    · rw [if_neg hin, if_neg fun hboth => hin hboth.1]
      rfl
  rw [Dispatch.gather hnodup (fun id => if inside id then
      [(⟨binding, (.ofNat 32 id.1, .ofNat 32 id.2), value id⟩ : ImageStore F)] else [])
    (placed binding x y) (x.toNat, y.toNat) ?_]
  · by_cases hin : (0 ≤ x ∧ 0 ≤ y) ∧ inside (x.toNat, y.toNat)
    · have hhome := hinside _ hin.2
      rw [if_pos hhome, hplaced _ hhome, if_pos hin, if_pos]
      exact ⟨hin.2, (Int.toNat_of_nonneg hin.1.1).symm, (Int.toNat_of_nonneg hin.1.2).symm⟩
    · rw [if_neg hin]
      split
      · next hhome =>
        rw [hplaced _ hhome, if_neg]
        rintro ⟨hin', hx, hy⟩
        exact hin ⟨by omega, hin'⟩
      · rfl
  · intro id hid hne
    rw [hplaced id hid, if_neg]
    rintro ⟨-, rfl, rfl⟩
    exact hne rfl

/-- A block stores each of its four pixels once, and no other. -/
theorem blockStores_placed {binding : Nat} {colour : Nat → Nat → F × F × F × F} {id : Nat × Nat}
    (hx : 2 * id.1 + 1 < 2 ^ 31) (hy : 2 * id.2 + 1 < 2 ^ 31) (x y : Int) :
    (blockStores binding colour id).filterMap (placed binding x y) =
      if x / 2 = id.1 ∧ y / 2 = id.2 then [colour x.toNat y.toNat] else [] := by
  obtain ⟨bx, by'⟩ := id
  simp only [blockStores, pixelsOf, List.map_cons, List.map_nil, List.filterMap_cons,
    List.filterMap_nil, placed, true_and, toInt_ofNat (2 * bx) (by omega),
    toInt_ofNat (2 * bx + 1) hx, toInt_ofNat (2 * by') (by omega), toInt_ofNat (2 * by' + 1) hy]
  by_cases hin : x / 2 = bx ∧ y / 2 = by'
  · have hcases : (x = 2 * bx ∨ x = 2 * bx + 1) ∧ (y = 2 * by' ∨ y = 2 * by' + 1) := by omega
    rw [if_pos hin]
    obtain ⟨rfl | rfl, rfl | rfl⟩ := hcases
    all_goals simp
    all_goals rfl
  · rw [if_neg hin]
    repeat rw [if_neg (by omega)]

theorem divCeil_toNat (n : UInt32) : (divCeil n 16).toNat = (n.toNat + 15) / 16 := by
  have hn := n.toNat_lt
  have hsixteen : (16 : UInt32).toNat = 16 := rfl
  have hone : (1 : UInt32).toNat = 1 := rfl
  have hzero : (0 : UInt32).toNat = 0 := rfl
  simp only [divCeil, gt_iff_lt, UInt32.lt_iff_toNat_lt, UInt32.toNat_mod, hsixteen, hzero]
  split
  · rw [UInt32.toNat_add, UInt32.toNat_div, hsixteen, hone]
    omega
  · rw [UInt32.toNat_div, hsixteen]
    omega

/-- The invocations of a staging's dispatch. -/
def blocks (dimensions : UInt32 × UInt32) : List (Nat × Nat) :=
  Dispatch.invocations ((nv12Dispatch dimensions).1.toNat, (nv12Dispatch dimensions).2.toNat)
    (16, 16)

theorem mem_blocks {id : Nat × Nat} : id ∈ blocks dimensions ↔
    id.1 < (dimensions.1.toNat / 2 + 15) / 16 * 16 ∧
      id.2 < (dimensions.2.toNat / 2 + 15) / 16 * 16 := by
  rw [blocks, Dispatch.mem_invocations, nv12Dispatch, divCeil_toNat, divCeil_toNat, half_toNat,
    half_toNat]

variable (h : StagedLayout maxTexelBufferElements dimensions layout)
include h

/-- The pixel of an invocation is not negative, inside the image or not. -/
theorem StagedLayout.block_lt {id : Nat × Nat} (hid : id ∈ blocks dimensions) :
    2 * id.1 + 1 < 2 ^ 31 ∧ 2 * id.2 + 1 < 2 ^ 31 := by
  obtain ⟨hx, hy⟩ := mem_blocks.mp hid
  have hwidth := h.width_le
  have hheight := h.height_le
  omega

/-- The dispatch stores every pixel of the image once, and nothing outside it. -/
theorem StagedLayout.pixels_placed (colour : Nat → Nat → F × F × F × F) (binding : Nat)
    (x y : Int) :
    ((blocks dimensions).flatMap fun id =>
        if InImage dimensions id then blockStores binding colour id else []).filterMap
          (placed binding x y) =
      if (0 ≤ x ∧ x < dimensions.1.toNat) ∧ 0 ≤ y ∧ y < dimensions.2.toNat then
        [colour x.toNat y.toNat] else [] := by
  have hwidth := h.width_even
  have hheight := h.height_even
  have hplaced : ∀ id ∈ blocks dimensions,
      (if InImage dimensions id then blockStores binding colour id else []).filterMap
          (placed binding x y) =
        if InImage dimensions id ∧ x / 2 = id.1 ∧ y / 2 = id.2 then
          [colour x.toNat y.toNat] else [] := by
    intro id hid
    obtain ⟨hx, hy⟩ := h.block_lt hid
    by_cases hin : InImage dimensions id
    · rw [if_pos hin, blockStores_placed hx hy]
      simp only [hin, true_and]
    · rw [if_neg hin, if_neg fun hboth => hin hboth.1]
      rfl
  have hnodup : (blocks dimensions).Nodup := Dispatch.nodup_invocations _ _
  rw [Dispatch.gather hnodup
    (fun id => if InImage dimensions id then blockStores binding colour id else [])
    (placed binding x y) ((x / 2).toNat, (y / 2).toNat) ?_]
  · by_cases hin : (0 ≤ x ∧ x < dimensions.1.toNat) ∧ 0 ≤ y ∧ y < dimensions.2.toNat
    · have hhome : ((x / 2).toNat, (y / 2).toNat) ∈ blocks dimensions := by
        rw [mem_blocks]
        omega
      rw [if_pos hhome, hplaced _ hhome, if_pos hin, if_pos]
      refine ⟨⟨?_, ?_⟩, ?_, ?_⟩ <;> omega
    · rw [if_neg hin]
      split
      · next hhome =>
        rw [hplaced _ hhome, if_neg]
        rintro ⟨⟨hx, hy⟩, hx', hy'⟩
        omega
      · rfl
  · intro id hid hne
    rw [hplaced id hid, if_neg]
    rintro ⟨-, hx, hy⟩
    refine hne (Prod.ext ?_ ?_)
    · simp only [hx, Int.toNat_natCast]
    · simp only [hy, Int.toNat_natCast]

/-- The dispatch stores every chroma position once, and nothing outside the
chroma plane. -/
theorem StagedLayout.chroma_placed (texel : Nat → Nat → F × F × F × F) (binding : Nat)
    (x y : Int) :
    ((blocks dimensions).flatMap fun id =>
        if InImage dimensions id then
          [(⟨binding, (.ofNat 32 id.1, .ofNat 32 id.2), texel id.1 id.2⟩ : ImageStore F)]
        else []).filterMap (placed binding x y) =
      if (0 ≤ x ∧ x < dimensions.1.toNat / 2) ∧ 0 ≤ y ∧ y < dimensions.2.toNat / 2 then
        [texel x.toNat y.toNat] else [] := by
  have hwidth := h.width_even
  have hheight := h.height_even
  have hlt : ∀ id ∈ blocks dimensions, id.1 < 2 ^ 31 ∧ id.2 < 2 ^ 31 := by
    intro id hid
    obtain ⟨hx, hy⟩ := h.block_lt hid
    omega
  have hinside : ∀ id, InImage dimensions id → id ∈ blocks dimensions := by
    rintro id ⟨hx, hy⟩
    rw [mem_blocks]
    omega
  have hnodup : (blocks dimensions).Nodup := Dispatch.nodup_invocations _ _
  rw [ids_placed hnodup hlt hinside fun id => texel id.1 id.2]
  refine if_congr ?_ rfl rfl
  show (0 ≤ x ∧ 0 ≤ y) ∧ 2 * x.toNat < dimensions.1.toNat ∧ 2 * y.toNat < dimensions.2.toNat ↔ _
  omega

end

/-! ## What a staging reads and stores -/

/-- Exact addressing: what the shaders compute in wrapping 32-bit arithmetic is
what the layout means. -/
structure ExactAddresses (p : Parameters) (dimensions : UInt32 × UInt32)
    (layout : Nv12SharedObjectLayout) (span : Nat) : Prop where
  /-- The dimensions are not negative as signed numbers. -/
  width : p.width.toInt = dimensions.1.toNat
  /-- The rows are the image's. -/
  height : p.height.toInt = dimensions.2.toNat
  /-- Nor is the pixel of any invocation. -/
  pixel : ∀ id ∈ blocks dimensions, (BitVec.ofNat 32 id.1 * 2#32).toInt = 2 * id.1 ∧
    (BitVec.ofNat 32 id.2 * 2#32).toInt = 2 * id.2
  /-- The address of a luma byte is exact and lies in the span. -/
  luma : ∀ pixel : IVec2, pixel.1.toNat < dimensions.1.toNat →
    pixel.2.toNat < dimensions.2.toNat →
    (lumaAddress p pixel).toNat = lumaByteAt layout pixel.1.toNat pixel.2.toNat ∧
      lumaByteAt layout pixel.1.toNat pixel.2.toNat < span
  /-- So is the address one row below. -/
  below : ∀ pixel : IVec2, pixel.1.toNat < dimensions.1.toNat →
    pixel.2.toNat + 1 < dimensions.2.toNat →
    (lumaAddress p pixel + p.yPitch).toNat = lumaByteAt layout pixel.1.toNat (pixel.2.toNat + 1)
  /-- The address of a clamped chroma pair is exact, and both bytes lie in the
  span. -/
  chroma : ∀ location : IVec2,
    let cx := nearest (dimensions.1.toNat / 2) location.1.toInt
    let cy := nearest (dimensions.2.toNat / 2) location.2.toInt
    (chromaAddress p (clampChroma p location)).toNat = chromaByteAt layout cx cy ∧
      chromaByteAt layout cx cy + 1 < span
  /-- The texel of a byte of the span is not negative, and is a texel of the view. -/
  texel : ∀ offset : Uint, offset.toNat < span →
    0 ≤ (offset >>> 2).toInt ∧ (offset >>> 2).toInt < span / 4

theorem StagedLayout.exactAddresses {p : Parameters}
    (h : StagedLayout maxTexelBufferElements dimensions layout) (hp : Names p dimensions layout) :
    ExactAddresses p dimensions layout (sourceSpan dimensions layout) := by
  have hwidth := h.width_le
  have hheight := h.height_le
  have hspan := extents_le_span dimensions layout
  have haddressable := h.span_addressable
  constructor
  case width => rw [BitVec.toInt_eq_toNat_of_lt (by rw [hp.width]; omega), hp.width]
  case height => rw [BitVec.toInt_eq_toNat_of_lt (by rw [hp.height]; omega), hp.height]
  case pixel =>
    intro id hid
    obtain ⟨hx, hy⟩ := h.block_lt hid
    rw [double_ofNat, double_ofNat, toInt_ofNat _ (by omega), toInt_ofNat _ (by omega)]
    exact ⟨rfl, rfl⟩
  case luma =>
    intro pixel hx hy
    exact ⟨h.lumaAddress_toNat hp pixel hx hy, (lumaByteAt_lt layout hx hy).trans_le hspan.1⟩
  case below =>
    intro pixel hx hy
    exact h.nextRow_toNat hp pixel hx hy
  case chroma =>
    intro location cx cy
    have hpos := h.width_pos
    have heven := h.width_even
    have hpos' := h.height_pos
    have heven' := h.height_even
    obtain ⟨hx, hy⟩ := h.clampChroma_toNat hp location
    have hxlt : cx < dimensions.1.toNat / 2 := nearest_lt (by omega) _
    have hylt : cy < dimensions.2.toNat / 2 := nearest_lt (by omega) _
    have haddress := h.chromaAddress_toNat hp (clampChroma p location) (by rw [hx]; exact hxlt)
      (by rw [hy]; exact hylt)
    rw [hx, hy] at haddress
    exact ⟨haddress, (h.chromaByteAt_lt hxlt hylt).trans_le hspan.2⟩
  case texel =>
    intro offset hoffset
    have hword : (offset >>> 2).toNat = offset.toNat / 4 := by
      rw [BitVec.toNat_ushiftRight, Nat.shiftRight_eq_div_pow]
    rw [BitVec.toInt_eq_toNat_of_lt (by omega), hword]
    rw [sourceSpan] at hoffset ⊢
    omega

variable (object) in
/-- `nv12_planes.comp` stores every luma and every chroma position once. -/
theorem StagedLayout.planes_staged {F : Type} [ShaderFloat F] {p : Parameters}
    (h : StagedLayout maxTexelBufferElements dimensions layout) (hp : Names p dimensions layout) :
    ∃ stores, runStaging (nv12PlanesComp (F := F) p
        (sourceView object (.ofNat (sourceSpan dimensions layout)))) dimensions = some stores ∧
      (∀ s ∈ stores, s.binding = 1 ∨ s.binding = 2) ∧
      ∀ x y : Int,
        (stores.filterMap (placed 1 x y) =
          if (0 ≤ x ∧ x < dimensions.1.toNat) ∧ 0 ≤ y ∧ y < dimensions.2.toNat then
            [lumaTexel layout object x.toNat y.toNat] else []) ∧
        stores.filterMap (placed 2 x y) =
          if (0 ≤ x ∧ x < dimensions.1.toNat / 2) ∧ 0 ≤ y ∧ y < dimensions.2.toNat / 2 then
            [chromaTexel layout object x.toNat y.toNat] else [] := by
  refine ⟨_, Dispatch.run_eq fun id hid => h.nv12PlanesComp_eq hp ?_ ?_, ?_, ?_⟩
  · exact (Nat.lt_of_succ_lt (h.block_lt hid).1)
  · exact (Nat.lt_of_succ_lt (h.block_lt hid).2)
  · intro s hs
    obtain ⟨id, -, hs⟩ := List.mem_flatMap.mp hs
    split at hs
    · rcases List.mem_append.mp hs with hs | hs
      · obtain ⟨q, -, rfl⟩ := List.mem_map.mp hs
        exact .inl rfl
      · rw [List.mem_singleton.mp hs]
        exact .inr rfl
    · cases hs
  · intro x y
    rw [← h.pixels_placed (lumaTexel layout object) 1 x y,
      ← h.chroma_placed (chromaTexel layout object) 2 x y]
    simp only [List.filterMap_flatMap]
    -- The stores of a block into one image are not stores into the other.
    have hluma : ∀ id, (blockStores (F := F) 1 (lumaTexel layout object) id).filterMap
        (placed 2 x y) = [] := fun id => List.filterMap_eq_nil_iff.mpr fun s hs => by
      obtain ⟨q, -, rfl⟩ := List.mem_map.mp hs
      exact if_neg fun hne => absurd (show (1 : Nat) = 2 from hne.1) (by decide)
    constructor
    · refine List.flatMap_congr fun id _ => ?_
      split
      · rw [List.filterMap_append]
        exact List.append_nil _
      · rfl
    · refine List.flatMap_congr fun id _ => ?_
      split
      · rw [List.filterMap_append, hluma]
        rfl
      · rfl

/-- **A compute staging reads exactly the planes.**  For a layout the staging
accepts, the constants are made, all addresses are exact, and the dispatch of
either shader succeeds.  `nv12.comp` stores every pixel once, with the colour of
its luma byte and the nearest chroma pairs; `nv12_planes.comp` stores every luma
and every chroma position once; neither stores anything else. -/
theorem nv12_compute_staging {F : Type} [ShaderFloat F] (object : Nat → BitVec 8)
    (conversion : Nv12Conversion)
    (h : validateStagedLayout maxTexelBufferElements dimensions layout = .ok ()) :
    ∃ c span, nv12PushConstants dimensions layout conversion = .ok c ∧
      nv12ComputeSourceSpan dimensions layout = .ok span ∧ span ≤ layout.objectSize ∧
      ExactAddresses c.parameters dimensions layout span.toNat ∧
      (∀ id, InImage dimensions id → (blocks dimensions).count id = 1) ∧
      (∃ stores, runStaging (nv12Comp (F := F) c.parameters (sourceView object span)) dimensions =
          some stores ∧ (∀ s ∈ stores, s.binding = 1) ∧
        ∀ x y : Int, stores.filterMap (placed 1 x y) =
          if (0 ≤ x ∧ x < dimensions.1.toNat) ∧ 0 ≤ y ∧ y < dimensions.2.toNat then
            [rgbaColour c.parameters dimensions layout object x.toNat y.toNat] else []) ∧
      ∃ stores, runStaging (nv12PlanesComp (F := F) c.parameters (sourceView object span))
          dimensions = some stores ∧ (∀ s ∈ stores, s.binding = 1 ∨ s.binding = 2) ∧
        ∀ x y : Int,
          (stores.filterMap (placed 1 x y) =
            if (0 ≤ x ∧ x < dimensions.1.toNat) ∧ 0 ≤ y ∧ y < dimensions.2.toNat then
              [lumaTexel layout object x.toNat y.toNat] else []) ∧
          stores.filterMap (placed 2 x y) =
            if (0 ≤ x ∧ x < dimensions.1.toNat / 2) ∧ 0 ≤ y ∧ y < dimensions.2.toNat / 2 then
              [chromaTexel layout object x.toNat y.toNat] else [] := by
  have hstaged : StagedLayout maxTexelBufferElements dimensions layout :=
    validateStagedLayout_ok.mp h
  obtain ⟨c, hc, hnames⟩ := hstaged.pushConstants_ok conversion
  have hspan : (UInt64.ofNat (sourceSpan dimensions layout)).toNat = sourceSpan dimensions layout :=
    UInt64.toNat_ofNat_of_lt' (Nat.lt_of_le_of_lt hstaged.span_within layout.objectSize.toNat_lt)
  refine ⟨c, _, hc, hstaged.span_ok, ?_, ?_, ?_, ?_, ?_⟩
  · rw [UInt64.le_iff_toNat_le, hspan]
    exact hstaged.span_within
  · rw [hspan]
    exact hstaged.exactAddresses hnames
  · intro id hid
    refine List.count_eq_one_of_mem (Dispatch.nodup_invocations _ _) (mem_blocks.mpr ?_)
    obtain ⟨hx, hy⟩ := hid
    have hwidth := hstaged.width_even
    have hheight := hstaged.height_even
    omega
  · refine ⟨_, Dispatch.run_eq fun id hid => hstaged.nv12Comp_eq hnames ?_ ?_, ?_, ?_⟩
    · exact (Nat.lt_of_succ_lt (hstaged.block_lt hid).1)
    · exact (Nat.lt_of_succ_lt (hstaged.block_lt hid).2)
    · intro s hs
      obtain ⟨id, -, hs⟩ := List.mem_flatMap.mp hs
      split at hs
      · obtain ⟨q, -, rfl⟩ := List.mem_map.mp hs
        rfl
      · cases hs
    · exact hstaged.pixels_placed _ 1
  · exact hstaged.planes_staged object hnames

/-- A four by four image, four blocks of it, with unaligned offsets and pitches. -/
def sampleLayout : Nv12SharedObjectLayout := ⟨0, 36, #v[⟨3, 5⟩, ⟨23, 6⟩]⟩

/-- The bytes of the object of the sample image. -/
def sampleObject (address : Nat) : BitVec 8 := .ofNat 8 (4 * address + 10)

/-- Chroma sited left of the luma pairs and midway between rows. -/
def sampleConversion : Nv12Conversion := ⟨.bt709, .narrow, .cositedEven, .midpoint⟩

/-- The constants of the sample image. -/
def sampleConstants : Nv12PushConstants := ⟨4, 4, 3, 5, 23, 6, 0, 0, 1⟩

theorem sampleLayout_staged : StagedLayout 9 (4, 4) sampleLayout := by
  refine ⟨⟨?_, ?_, ?_, ?_, ?_, ?_, ?_, ?_, ?_, .inl ?_⟩, ?_, ?_, ?_⟩ <;> decide

/-- The last block of the sample image: the colour of a pixel between two chroma rows, and
the texel of the chroma plane.  Beside the image nothing is stored. -/
theorem nv12_compute_staging_sample : ∃ span : UInt64,
    nv12ComputeSourceSpan (4, 4) sampleLayout = .ok span ∧
    (∃ stores, runStaging (nv12Comp (F := Rat) sampleConstants.parameters
        (sourceView sampleObject span)) (4, 4) = some stores ∧
      stores.filterMap (placed 1 2 2) =
        [(2807401 / 10220000, 243456737 / 1022000000, 18 / 73, 1)] ∧
      stores.filterMap (placed 1 4 0) = []) ∧
    ∃ stores, runStaging (nv12PlanesComp (F := Rat) sampleConstants.parameters
        (sourceView sampleObject span)) (4, 4) = some stores ∧
      stores.filterMap (placed 2 1 1) =
        [(unorm 134, unorm 138, OfScientific.ofScientific 0 true 1,
          OfScientific.ofScientific 10 true 1)] := by
  obtain ⟨c, span, hc, hspan, -, -, -, ⟨colours, hcolours, -, hcoloured⟩,
      stores, hstores, -, hplaced⟩ :=
    nv12_compute_staging (F := Rat) sampleObject sampleConversion
      (validateStagedLayout_ok.mpr sampleLayout_staged)
  have hsample : nv12PushConstants (4, 4) sampleLayout sampleConversion = .ok sampleConstants := rfl
  rw [hsample] at hc
  cases hc
  refine ⟨span, hspan, ⟨colours, hcolours, ?_, ?_⟩, stores, hstores, ?_⟩
  · rw [hcoloured 2 2, if_pos (by decide)]
    decide +kernel
  · rw [hcoloured 4 0, if_neg (by decide)]
  · rw [(hplaced 1 1).2, if_pos (by decide)]
    rfl

end VideoInterop.Vulkan
