import VideoInterop.Vulkan.Importer
import VideoInterop.Vulkan.Staging

/-!
# Compute staging of packed images

`packed_to_bgra.comp` reads a packed image byte by byte and writes one word for each
pixel.  The host checks the image in exact 64-bit arithmetic, and neither offset nor
pitch need be a multiple of four.  The buffer may be as long as 32-bit addresses
reach.

`PackedLayout` is what the checks accept, in unbounded arithmetic.  A row of an
accepted image takes four bytes a pixel, so its dimensions are far from negative as
signed numbers, and no address wraps (`StagedPackedLayout.pixelAddress_toNat`).
-/

namespace VideoInterop.Vulkan

open VideoInterop.Words (Texels loadByte_eq or_shifts_eq)

/-! ## The shader -/

/-- The push constants of `packed_to_bgra.comp` as the shader reads them. -/
structure PackedParameters where
  /-- `width` -/
  width : Uint
  /-- `height` -/
  height : Uint
  /-- `offset` -/
  offset : Uint
  /-- `pitch` -/
  pitch : Uint
  /-- `source_format` -/
  sourceFormat : Uint

/-- The constants as the shader reads them. -/
def PackedPushConstants.parameters (c : PackedPushConstants) : PackedParameters :=
  ⟨c.width.toBitVec, c.height.toBitVec, c.offset.toBitVec, c.pitch.toBitVec,
    c.sourceFormat.toBitVec⟩

/-- The address of the first byte of a pixel. -/
def pixelAddress (p : PackedParameters) (pixel : IVec2) : Uint :=
  p.offset + pixel.2 * p.pitch + pixel.1 * 4#32

/-- The word of a pixel: packed RGBA has its colours swapped, packed BGRA gets an
opaque fourth byte. -/
def bgra (p : PackedParameters) (c0 c1 c2 c3 : Uint) : Uint :=
  if p.sourceFormat = 0#32 then c2 ||| c1 <<< 8 ||| c0 <<< 16 ||| c3 <<< 24
  else c0 ||| c1 <<< 8 ||| c2 <<< 16 ||| 255#32 <<< 24

/-- One invocation of `packed_to_bgra.comp`. -/
def packedToBgra (p : PackedParameters) (source : Texels) (pixel : IVec2) :
    Option (List (ImageStore Uint)) :=
  if p.width.sle pixel.1 || p.height.sle pixel.2 then some []
  else do
    let offset := pixelAddress p pixel
    let c0 ← source.loadByte offset
    let c1 ← source.loadByte (offset + 1#32)
    let c2 ← source.loadByte (offset + 2#32)
    let c3 ← source.loadByte (offset + 3#32)
    return [⟨1, pixel, (bgra p c0 c1 c2 c3, 0#32, 0#32, 0#32)⟩]

/-- The workgroups of a packed staging: one invocation for each pixel. -/
def packedDispatch (dimensions : UInt32 × UInt32) : UInt32 × UInt32 :=
  (divCeil dimensions.1 16, divCeil dimensions.2 16)

/-- The invocations of a packed staging's dispatch. -/
def pixels (dimensions : UInt32 × UInt32) : List (Nat × Nat) :=
  Dispatch.invocations ((packedDispatch dimensions).1.toNat, (packedDispatch dimensions).2.toNat)
    (16, 16)

/-- The stores of the dispatch. -/
def runPacked (main : IVec2 → Option (List (ImageStore Uint))) (dimensions : UInt32 × UInt32) :
    Option (List (ImageStore Uint)) :=
  Dispatch.run (pixels dimensions) fun id => main (.ofNat 32 id.1, .ofNat 32 id.2)

/-! ## What is accepted -/

/-- A packed image that lies in its object. -/
structure PackedLayout (dimensions : UInt32 × UInt32) (sourceSize : UInt64)
    (plane : ImportedPlane) : Prop where
  /-- The source has a byte. -/
  size_pos : 0 < sourceSize.toNat
  /-- A row fits its pitch. -/
  pitch : 4 * dimensions.1.toNat ≤ plane.pitch.toNat
  /-- The last row ends in the source. -/
  within : plane.offset.toNat + plane.pitch.toNat * (dimensions.2.toNat - 1) +
    4 * dimensions.1.toNat ≤ sourceSize.toNat

theorem packedSpan_ok {dimensions : UInt32 × UInt32} {plane : ImportedPlane}
    {rowBytes span : UInt64} :
    packedSpan dimensions plane rowBytes = .ok span ↔ span.toNat =
      plane.offset.toNat + plane.pitch.toNat * (dimensions.2.toNat - 1) + rowBytes.toNat := by
  have hspan := span.toNat_lt
  simp only [packedSpan, bind_ok, orRefuse_ok, checkedMul_eq_some, Option.bind_eq_some_iff,
    checkedAdd_eq_some, UInt32.toNat_toUInt64, saturatingPred_toNat]
  constructor
  · rintro ⟨rows, hrows, lastRow, hlast, hend⟩
    rw [hend, hlast, hrows]
  · intro h
    have hrows : plane.pitch.toNat * (dimensions.2.toNat - 1) < UInt64.size := by
      show _ < 2 ^ 64
      omega
    have hlast : plane.offset.toNat + plane.pitch.toNat * (dimensions.2.toNat - 1) <
        UInt64.size := by
      show _ < 2 ^ 64
      omega
    refine ⟨_, UInt64.toNat_ofNat_of_lt' hrows,
      .ofNat (plane.offset.toNat + plane.pitch.toNat * (dimensions.2.toNat - 1)), ?_, ?_⟩
    · rw [UInt64.toNat_ofNat_of_lt' hrows]
      exact UInt64.toNat_ofNat_of_lt' hlast
    · rw [UInt64.toNat_ofNat_of_lt' hlast, h]

/-- The checks of a packed image accept exactly the packed layouts. -/
theorem validatePackedLayout_ok {dimensions : UInt32 × UInt32} {sourceSize : UInt64}
    {plane : ImportedPlane} {u : Unit} :
    validatePackedLayout dimensions sourceSize plane = .ok u ↔
      PackedLayout dimensions sourceSize plane := by
  have hzero : (sourceSize == 0) = false ↔ 0 < sourceSize.toNat := by
    rw [beq_eq_false_iff_ne, ne_eq, ← UInt64.toNat_inj]
    exact Nat.pos_iff_ne_zero.symm
  have hfour : (4 : UInt64).toNat = 4 := rfl
  simp only [validatePackedLayout, bind_ok, refuse_ok, exists_const, orRefuse_ok,
    checkedMul_eq_some, packedSpan_ok, hzero, decide_eq_false_iff_not, gt_iff_lt,
    UInt64.lt_iff_toNat_lt, Nat.not_lt, UInt32.toNat_toUInt64, hfour]
  constructor
  · rintro ⟨hsize, rowBytes, hrow, hpitch, span, hspan, hwithin⟩
    rw [hspan] at hwithin
    exact ⟨hsize, by omega, by omega⟩
  · intro h
    have hwidth := dimensions.1.toNat_lt
    have hsize := sourceSize.toNat_lt
    have hpitch := h.pitch
    have hwithin := h.within
    have hrow : dimensions.1.toNat * 4 < UInt64.size := by
      show _ < 2 ^ 64
      omega
    have hspan : plane.offset.toNat + plane.pitch.toNat * (dimensions.2.toNat - 1) +
        dimensions.1.toNat * 4 < UInt64.size := by
      show _ < 2 ^ 64
      omega
    refine ⟨h.size_pos, _, UInt64.toNat_ofNat_of_lt' hrow, ?_,
      .ofNat (plane.offset.toNat + plane.pitch.toNat * (dimensions.2.toNat - 1) +
        dimensions.1.toNat * 4), ?_, ?_⟩
    · rw [UInt64.toNat_ofNat_of_lt' hrow]
      omega
    · rw [UInt64.toNat_ofNat_of_lt' hrow]
      exact UInt64.toNat_ofNat_of_lt' hspan
    · rw [UInt64.toNat_ofNat_of_lt' hspan]
      omega

/-- What the checks of a packed staging accept. -/
theorem validateStagedPackedLayout_ok {maxTexelBufferElements : UInt32}
    {sourceSize : UInt64} {u : Unit} :
    validateStagedPackedLayout maxTexelBufferElements sourceSize = .ok u ↔
      sourceSize.toNat % 4 = 0 ∧ sourceSize.toNat ≤ 2 ^ 32 ∧
        sourceSize.toNat / 4 ≤ maxTexelBufferElements.toNat := by
  have hlimit : ((0xFFFFFFFF + 1 : UInt64)).toNat = 2 ^ 32 := rfl
  have hquarter : (sourceSize / 4).toNat = sourceSize.toNat / 4 := by
    rw [UInt64.toNat_div]
    rfl
  have hword : (sourceSize % 4 != 0) = false ↔ sourceSize.toNat % 4 = 0 := by
    rw [bne_eq_false_iff_eq, ← UInt64.toNat_inj, UInt64.toNat_mod]
    rfl
  simp only [validateStagedPackedLayout, bind_ok, refuse_ok, exists_const, hword,
    decide_eq_false_iff_not, gt_iff_lt, UInt64.lt_iff_toNat_lt, Nat.not_lt, hlimit, hquarter,
    UInt32.toNat_toUInt64]

/-- A packed image that a staging accepts: its words have 32-bit byte addresses and
fit a buffer view. -/
structure StagedPackedLayout (maxTexelBufferElements : UInt32) (dimensions : UInt32 × UInt32)
    (sourceSize : UInt64) (plane : ImportedPlane) : Prop
    extends PackedLayout dimensions sourceSize plane where
  /-- There is a column. -/
  width_pos : 0 < dimensions.1.toNat
  /-- There is a row. -/
  height_pos : 0 < dimensions.2.toNat
  /-- The source is whole words. -/
  words : sourceSize.toNat % 4 = 0
  /-- An address in it has 32 bits. -/
  addressable : sourceSize.toNat ≤ 2 ^ 32
  /-- A view can have its words. -/
  viewable : sourceSize.toNat / 4 ≤ maxTexelBufferElements.toNat

/-! ## Addresses -/

/-- The address of the first byte of a pixel in the object. -/
def pixelByteAt (plane : ImportedPlane) (x y : Nat) : Nat :=
  plane.offset.toNat + y * plane.pitch.toNat + 4 * x

/-- Constants that name a packed image. -/
structure PackedNames (p : PackedParameters) (dimensions : UInt32 × UInt32)
    (plane : ImportedPlane) (format : PackedImageFormat) : Prop where
  /-- The columns. -/
  width : p.width.toNat = dimensions.1.toNat
  /-- The rows. -/
  height : p.height.toNat = dimensions.2.toNat
  /-- The first byte of the image. -/
  offset : p.offset.toNat = plane.offset.toNat
  /-- Its pitch. -/
  pitch : p.pitch.toNat = plane.pitch.toNat
  /-- Zero stands for RGBA. -/
  format : p.sourceFormat = 0#32 ↔ format = .rgba8888

namespace StagedPackedLayout

variable {maxTexelBufferElements : UInt32} {dimensions : UInt32 × UInt32} {sourceSize : UInt64}
  {plane : ImportedPlane}
    (h : StagedPackedLayout maxTexelBufferElements dimensions sourceSize plane)
include h

/-- A row takes four bytes a pixel, and a pitch has 32 bits. -/
theorem width_lt : dimensions.1.toNat < 2 ^ 30 := by
  have hpitch := h.pitch
  have hlt := plane.pitch.toNat_lt
  omega

/-- So there are no more rows than words. -/
theorem height_le : dimensions.2.toNat ≤ 2 ^ 30 := by
  have hwithin := h.within
  have haddressable := h.addressable
  have hwidth := h.width_pos
  have hrows : 4 * (dimensions.2.toNat - 1) ≤ plane.pitch.toNat * (dimensions.2.toNat - 1) :=
    Nat.mul_le_mul_right _ (by have := h.pitch; omega)
  omega

/-- The four bytes of a pixel lie in the object. -/
theorem pixelByteAt_lt {x y : Nat} (hx : x < dimensions.1.toNat) (hy : y < dimensions.2.toNat) :
    pixelByteAt plane x y + 3 < sourceSize.toNat := by
  have hwithin := h.within
  have hrow : y * plane.pitch.toNat ≤ plane.pitch.toNat * (dimensions.2.toNat - 1) := by
    rw [Nat.mul_comm]
    exact Nat.mul_le_mul_left _ (by omega)
  rw [pixelByteAt]
  omega

theorem offset_lt : plane.offset.toNat < 2 ^ 32 := by
  have hlt := h.pixelByteAt_lt h.width_pos h.height_pos
  have haddressable := h.addressable
  rw [pixelByteAt] at hlt
  omega

/-- The constants the shader gets. -/
theorem packedPushConstants_ok {request : PackedImageImport}
    (hdimensions : request.dimensions = dimensions) (hplane : request.plane = plane) :
    ∃ c, Importer.packedPushConstants request = .ok c ∧
      PackedNames c.parameters dimensions plane request.format := by
  subst hdimensions hplane
  rw [Importer.packedPushConstants, tryU32, if_pos h.offset_lt]
  refine ⟨_, rfl, rfl, rfl, ?_, rfl, ?_⟩
  · exact (UInt64.toNat_toUInt32 _).trans (Nat.mod_eq_of_lt h.offset_lt)
  · cases request.format with
    | rgba8888 => exact iff_of_true rfl rfl
    | bgra8888 =>
        have hone : (1#32 : BitVec 32) ≠ 0#32 := by decide
        exact iff_of_false hone (by decide)

variable {p : PackedParameters} {format : PackedImageFormat}
  (hp : PackedNames p dimensions plane format)
include hp

/-- The address of a byte of a pixel does not wrap. -/
theorem pixelAddress_toNat (pixel : IVec2) (hx : pixel.1.toNat < dimensions.1.toNat)
    (hy : pixel.2.toNat < dimensions.2.toNat) {j : Nat} (hj : j < 4) :
    (pixelAddress p pixel + .ofNat 32 j).toNat =
      pixelByteAt plane pixel.1.toNat pixel.2.toNat + j := by
  have hlt := h.pixelByteAt_lt hx hy
  have haddressable := h.addressable
  have hfour : (4#32).toNat = 4 := rfl
  simp only [pixelAddress, BitVec.toNat_add, BitVec.toNat_mul, hp.offset, hp.pitch, hfour,
    BitVec.toNat_ofNat]
  rw [pixelByteAt] at hlt ⊢
  omega

omit hp in
/-- A byte load inside the object reads it. -/
theorem loadByte (object : Nat → BitVec 8) {offset : Uint} {a : Nat} (ha : offset.toNat = a)
    (hlt : a < sourceSize.toNat) :
    (sourceView object sourceSize).loadByte offset = some ((object a).setWidth 32) := by
  subst ha
  have haddressable := h.addressable
  have hwords := h.words
  have hcount : (sourceView object sourceSize).count = sourceSize.toNat / 4 := by
    show (sourceSize / 4).toNat = _
    rw [UInt64.toNat_div]
    rfl
  exact loadByte_eq (by omega) (by rw [hcount]; omega)

end StagedPackedLayout

/-! ## The dispatch -/

/-- The word a pixel gets, from its four bytes. -/
def pixelWord (format : PackedImageFormat) (object : Nat → BitVec 8) (s : Nat) : Uint :=
  match format with
  | .rgba8888 => Words.pack (object (s + 2)) (object (s + 1)) (object s) (object (s + 3))
  | .bgra8888 => Words.pack (object s) (object (s + 1)) (object (s + 2)) 255#8

section
variable {maxTexelBufferElements : UInt32} {dimensions : UInt32 × UInt32} {sourceSize : UInt64}
  {plane : ImportedPlane} {p : PackedParameters} {format : PackedImageFormat}

theorem PackedNames.bgra_eq (hp : PackedNames p dimensions plane format)
    (object : Nat → BitVec 8) (s : Nat) :
    bgra p ((object s).setWidth 32) ((object (s + 1)).setWidth 32)
      ((object (s + 2)).setWidth 32) ((object (s + 3)).setWidth 32) =
        pixelWord format object s := by
  cases format with
  | rgba8888 =>
    rw [bgra, if_pos (hp.format.mpr rfl), or_shifts_eq, pixelWord]
  | bgra8888 =>
    have hsolid : (255#32 : Uint) = (255#8).setWidth 32 := by decide
    have hformat : ¬ p.sourceFormat = 0#32 := fun hzero => nomatch hp.format.mp hzero
    rw [bgra, if_neg hformat, hsolid, or_shifts_eq, pixelWord]

theorem mem_pixels {id : Nat × Nat} : id ∈ pixels dimensions ↔
    id.1 < (dimensions.1.toNat + 15) / 16 * 16 ∧ id.2 < (dimensions.2.toNat + 15) / 16 * 16 := by
  rw [pixels, Dispatch.mem_invocations, packedDispatch, divCeil_toNat, divCeil_toNat]

/-- A pixel of the image. -/
def PixelIn (dimensions : UInt32 × UInt32) (id : Nat × Nat) : Prop :=
  id.1 < dimensions.1.toNat ∧ id.2 < dimensions.2.toNat

instance (dimensions : UInt32 × UInt32) (id : Nat × Nat) : Decidable (PixelIn dimensions id) :=
  inferInstanceAs (Decidable (_ ∧ _))

variable (h : StagedPackedLayout maxTexelBufferElements dimensions sourceSize plane)
  (hp : PackedNames p dimensions plane format)
include h

theorem StagedPackedLayout.pixel_lt {id : Nat × Nat} (hid : id ∈ pixels dimensions) :
    id.1 < 2 ^ 31 ∧ id.2 < 2 ^ 31 := by
  obtain ⟨hx, hy⟩ := mem_pixels.mp hid
  have hwidth := h.width_lt
  have hheight := h.height_le
  omega

include hp

/-- The dimensions are not negative as signed numbers. -/
theorem StagedPackedLayout.dimensions_toInt :
    p.width.toInt = dimensions.1.toNat ∧ p.height.toInt = dimensions.2.toNat := by
  have hwidth := h.width_lt
  have hheight := h.height_le
  rw [BitVec.toInt_eq_toNat_of_lt (by rw [hp.width]; omega),
    BitVec.toInt_eq_toNat_of_lt (by rw [hp.height]; omega), hp.width, hp.height]
  exact ⟨rfl, rfl⟩

/-- The shader's test for a pixel outside the image. -/
theorem StagedPackedLayout.outside_iff {id : Nat × Nat} (hid : id ∈ pixels dimensions) :
    (p.width.sle (.ofNat 32 id.1) || p.height.sle (.ofNat 32 id.2)) = true ↔
      ¬ PixelIn dimensions id := by
  obtain ⟨hx, hy⟩ := h.pixel_lt hid
  obtain ⟨hwidth, hheight⟩ := h.dimensions_toInt hp
  rw [Bool.or_eq_true, BitVec.sle_iff_toInt_le, BitVec.sle_iff_toInt_le, hwidth, hheight,
    toInt_ofNat _ hx, toInt_ofNat _ hy, PixelIn]
  omega

/-- One invocation stores the word of its pixel. -/
theorem StagedPackedLayout.packedToBgra_eq (object : Nat → BitVec 8) {id : Nat × Nat}
    (hid : id ∈ pixels dimensions) :
    packedToBgra p (sourceView object sourceSize) (.ofNat 32 id.1, .ofNat 32 id.2) =
      some (if PixelIn dimensions id then
        [⟨1, (.ofNat 32 id.1, .ofNat 32 id.2),
          (pixelWord format object (pixelByteAt plane id.1 id.2), 0#32, 0#32, 0#32)⟩] else []) := by
  by_cases hin : PixelIn dimensions id
  · obtain ⟨hx, hy⟩ := h.pixel_lt hid
    have hx' : (BitVec.ofNat 32 id.1).toNat = id.1 := by
      rw [BitVec.toNat_ofNat]
      omega
    have hy' : (BitVec.ofNat 32 id.2).toNat = id.2 := by
      rw [BitVec.toNat_ofNat]
      omega
    have hlt := h.pixelByteAt_lt hin.1 hin.2
    have haddress : ∀ j, j < 4 → (pixelAddress p (.ofNat 32 id.1, .ofNat 32 id.2) +
        .ofNat 32 j).toNat = pixelByteAt plane id.1 id.2 + j := by
      intro j hj
      have heq := h.pixelAddress_toNat hp (.ofNat 32 id.1, .ofNat 32 id.2)
        (by rw [hx']; exact hin.1) (by rw [hy']; exact hin.2) hj
      rwa [hx', hy'] at heq
    have hload : ∀ j, j < 4 → (sourceView object sourceSize).loadByte
        (pixelAddress p (.ofNat 32 id.1, .ofNat 32 id.2) + .ofNat 32 j) =
          some ((object (pixelByteAt plane id.1 id.2 + j)).setWidth 32) := fun j hj =>
      h.loadByte object (haddress j hj) (by omega)
    have hfirst := hload 0 (by decide)
    rw [show BitVec.ofNat 32 0 = 0#32 from rfl, BitVec.add_zero, Nat.add_zero] at hfirst
    have hsecond : (sourceView object sourceSize).loadByte (_ + 1#32) = _ := hload 1 (by decide)
    have hthird : (sourceView object sourceSize).loadByte (_ + 2#32) = _ := hload 2 (by decide)
    have hfourth : (sourceView object sourceSize).loadByte (_ + 3#32) = _ := hload 3 (by decide)
    have hinside := mt (h.outside_iff hp hid).mp (not_not_intro hin)
    simp only [packedToBgra]
    rw [if_neg hinside, if_pos hin]
    simp only [hfirst, hsecond, hthird, hfourth, Option.bind_eq_bind, Option.bind_some,
      hp.bgra_eq]
    rfl
  · simp only [packedToBgra]
    rw [if_pos ((h.outside_iff hp hid).mpr hin), if_neg hin]

omit hp in
/-- The dispatch stores every pixel of the image once, and nothing outside it. -/
theorem StagedPackedLayout.pixels_placed (word : Nat × Nat → Uint) (x y : Int) :
    ((pixels dimensions).flatMap fun id => if PixelIn dimensions id then
        [(⟨1, (.ofNat 32 id.1, .ofNat 32 id.2), (word id, 0#32, 0#32, 0#32)⟩ : ImageStore Uint)]
        else []).filterMap (placed 1 x y) =
      if (0 ≤ x ∧ x < dimensions.1.toNat) ∧ 0 ≤ y ∧ y < dimensions.2.toNat then
        [(word (x.toNat, y.toNat), 0#32, 0#32, 0#32)] else [] := by
  have hinside : ∀ id, PixelIn dimensions id → id ∈ pixels dimensions := by
    rintro id ⟨hx, hy⟩
    rw [mem_pixels]
    omega
  have hnodup : (pixels dimensions).Nodup := Dispatch.nodup_invocations _ _
  rw [ids_placed hnodup (fun _ => h.pixel_lt) hinside fun id => (word id, 0#32, 0#32, 0#32)]
  refine if_congr ?_ rfl rfl
  show (0 ≤ x ∧ 0 ≤ y) ∧ x.toNat < dimensions.1.toNat ∧ y.toNat < dimensions.2.toNat ↔ _
  omega

end

/-- Exact addressing of a packed image: what the shader computes in wrapping 32-bit
arithmetic is what the image means. -/
structure ExactPixels (p : PackedParameters) (dimensions : UInt32 × UInt32) (sourceSize : UInt64)
    (plane : ImportedPlane) : Prop where
  /-- The dimensions are not negative as signed numbers. -/
  width : p.width.toInt = dimensions.1.toNat
  /-- The rows are the image's. -/
  height : p.height.toInt = dimensions.2.toNat
  /-- Nor is the pixel of any invocation. -/
  pixel : ∀ id ∈ pixels dimensions,
    (BitVec.ofNat 32 id.1).toInt = id.1 ∧ (BitVec.ofNat 32 id.2).toInt = id.2
  /-- The address of each of a pixel's bytes is exact, and its texel is not negative and
  a texel of the view. -/
  byte : ∀ pixel : IVec2, pixel.1.toNat < dimensions.1.toNat →
    pixel.2.toNat < dimensions.2.toNat → ∀ j < 4,
      let address := pixelAddress p pixel + .ofNat 32 j
      address.toNat = pixelByteAt plane pixel.1.toNat pixel.2.toNat + j ∧
        0 ≤ (address >>> 2).toInt ∧ (address >>> 2).toInt < sourceSize.toNat / 4

theorem StagedPackedLayout.exactPixels {maxTexelBufferElements : UInt32}
    {dimensions : UInt32 × UInt32} {sourceSize : UInt64} {plane : ImportedPlane}
    {p : PackedParameters} {format : PackedImageFormat}
    (h : StagedPackedLayout maxTexelBufferElements dimensions sourceSize plane)
    (hp : PackedNames p dimensions plane format) : ExactPixels p dimensions sourceSize plane := by
  constructor
  case width => exact (h.dimensions_toInt hp).1
  case height => exact (h.dimensions_toInt hp).2
  case pixel =>
    intro id hid
    obtain ⟨hx, hy⟩ := h.pixel_lt hid
    exact ⟨toInt_ofNat _ hx, toInt_ofNat _ hy⟩
  case byte =>
    intro pixel hx hy j hj address
    have haddress : address.toNat = _ := h.pixelAddress_toNat hp pixel hx hy hj
    have hlt := h.pixelByteAt_lt hx hy
    have haddressable := h.addressable
    have hwords := h.words
    have hword : (address >>> 2).toNat = address.toNat / 4 := by
      rw [BitVec.toNat_ushiftRight, Nat.shiftRight_eq_div_pow]
    have hint : (address >>> 2).toInt = (address.toNat / 4 : Nat) := by
      rw [BitVec.toInt_eq_toNat_of_lt (by omega), hword]
    refine ⟨haddress, ?_, ?_⟩
    · omega
    · omega

/-- **A packed staging reads exactly the image.**  For an image the staging accepts,
the constants are made, all addresses are exact, and the dispatch stores every pixel
once, as the word of its four bytes in BGRA order, and nothing else. -/
theorem packed_staging {maxTexelBufferElements : UInt32} {request : PackedImageImport}
    (hwidth : request.dimensions.1 ≠ 0) (hheight : request.dimensions.2 ≠ 0)
    (hlayout : validatePackedLayout request.dimensions request.sourceSize request.plane = .ok ())
    (hstaged : validateStagedPackedLayout maxTexelBufferElements request.sourceSize = .ok ())
    (object : Nat → BitVec 8) :
    ∃ c, Importer.packedPushConstants request = .ok c ∧
      ExactPixels c.parameters request.dimensions request.sourceSize request.plane ∧
      (∀ id, PixelIn request.dimensions id → (pixels request.dimensions).count id = 1) ∧
      ∃ stores, runPacked (packedToBgra c.parameters (sourceView object request.sourceSize))
          request.dimensions = some stores ∧ (∀ s ∈ stores, s.binding = 1) ∧
        ∀ x y : Int, stores.filterMap (placed 1 x y) =
          if (0 ≤ x ∧ x < request.dimensions.1.toNat) ∧ 0 ≤ y ∧ y < request.dimensions.2.toNat then
            [(pixelWord request.format object (pixelByteAt request.plane x.toNat y.toNat),
              0#32, 0#32, 0#32)] else [] := by
  obtain ⟨hwords, haddressable, hviewable⟩ := validateStagedPackedLayout_ok.mp hstaged
  have hpos : ∀ n : UInt32, n ≠ 0 → 0 < n.toNat := fun n hn =>
    Nat.pos_of_ne_zero fun hzero => hn (UInt32.toNat_inj.mp hzero)
  have h : StagedPackedLayout maxTexelBufferElements request.dimensions request.sourceSize
      request.plane :=
    ⟨validatePackedLayout_ok.mp hlayout, hpos _ hwidth, hpos _ hheight, hwords, haddressable,
      hviewable⟩
  obtain ⟨c, hc, hnames⟩ := h.packedPushConstants_ok rfl rfl
  refine ⟨c, hc, h.exactPixels hnames, ?_, _,
    Dispatch.run_eq fun id hid => h.packedToBgra_eq hnames object hid, ?_, ?_⟩
  · intro id hid
    refine List.count_eq_one_of_mem (Dispatch.nodup_invocations _ _) (mem_pixels.mpr ?_)
    obtain ⟨hx, hy⟩ := hid
    omega
  · intro s hs
    obtain ⟨id, -, hs⟩ := List.mem_flatMap.mp hs
    split at hs
    · rw [List.mem_singleton.mp hs]
    · cases hs
  · exact h.pixels_placed fun id => pixelWord request.format object
      (pixelByteAt request.plane id.1 id.2)

/-- Three by two RGBA pixels at odd addresses. -/
def sampleRequest : PackedImageImport := ⟨0, (3, 2), 0, 28, 0, ⟨3, 13⟩, .rgba8888⟩

/-- The last pixels of both rows, one of them across two words, and nothing beside them. -/
theorem packed_staging_sample : ∃ c, Importer.packedPushConstants sampleRequest = .ok c ∧
    ∃ stores, runPacked (packedToBgra c.parameters (sourceView (fun a => .ofNat 8 a) 28)) (3, 2) =
        some stores ∧
      stores.filterMap (placed 1 2 0) = [(0x0e0b0c0d#32, 0#32, 0#32, 0#32)] ∧
      stores.filterMap (placed 1 2 1) = [(0x1b18191a#32, 0#32, 0#32, 0#32)] ∧
      stores.filterMap (placed 1 3 0) = [] := by
  have hwidth : sampleRequest.dimensions.1 ≠ 0 := by decide
  have hlayout : validatePackedLayout (3, 2) 28 ⟨3, 13⟩ = .ok () :=
    validatePackedLayout_ok.mpr ⟨by decide, by decide, by decide⟩
  have hstaged : validateStagedPackedLayout 7 28 = .ok () :=
    validateStagedPackedLayout_ok.mpr ⟨by decide, by decide, by decide⟩
  obtain ⟨c, hc, -, -, stores, hstores, -, hplaced⟩ := packed_staging hwidth (by decide)
    hlayout hstaged fun a => .ofNat 8 a
  refine ⟨c, hc, stores, hstores, ?_, ?_, ?_⟩
  · rw [hplaced 2 0, if_pos (by decide)]
    rfl
  · rw [hplaced 2 1, if_pos (by decide)]
    rfl
  · rw [hplaced 3 0, if_neg (by decide)]

end VideoInterop.Vulkan
