import VideoInterop.Lib.Rows
import VideoInterop.Native.Frame
import VideoInterop.Vulkan.PackedStaging

/-!
# The layout checks compute in exact arithmetic

Four validators decide, with widening products, checked sums and saturating
differences, whether an image lies in its memory.  Each accepts exactly when its
inequalities hold of unbounded numbers, and what an accepted layout means is said
byte by byte, through `Rows`.
-/

namespace VideoInterop.Native

open Vulkan

/-! ## NV12 -/

theorem planeEnd_eq (width : UInt32) (plane : ImportedPlane) (rows : UInt32) :
    planeEnd width plane rows =
      if extent width plane rows.toNat < 2 ^ 64 then .ok (.ofNat (extent width plane rows.toNat))
      else .error "Vulkan NV12 plane extent overflow" := by
  split
  · next h => exact planeEnd_ok.mpr (UInt64.toNat_ofNat_of_lt' h)
  · next h =>
    cases hend : planeEnd width plane rows with
    | ok e =>
      have he := e.toNat_lt
      rw [planeEnd_ok.mp hend] at he
      exact absurd he h
    | error e =>
      rw [planeEnd, orRefuse_error] at hend
      rw [hend.2]

/-- The rows of the luma plane. -/
def lumaRows (dimensions : UInt32 × UInt32) (layout : Nv12SharedObjectLayout) : Rows where
  offset := (lumaOf layout.planes).offset.toNat
  stride := (lumaOf layout.planes).pitch.toNat
  length := dimensions.1.toNat
  count := dimensions.2.toNat

/-- The rows of the chroma plane: half as many, of as many bytes. -/
def chromaRows (dimensions : UInt32 × UInt32) (layout : Nv12SharedObjectLayout) : Rows where
  offset := (chromaOf layout.planes).offset.toNat
  stride := (chromaOf layout.planes).pitch.toNat
  length := dimensions.1.toNat
  count := dimensions.2.toNat / 2

/-- What is exact about the checks of an NV12 layout. -/
structure Nv12Exact (dimensions : UInt32 × UInt32) (layout : Nv12SharedObjectLayout) : Prop where
  /-- Exactly the layouts whose planes lie apart inside the object are accepted. -/
  accepts : validateNv12SharedLayout dimensions layout = .ok () ↔ SharedLayout dimensions layout
  /-- The product of the pitch and the rows does not wrap. -/
  product : ∀ (plane : ImportedPlane) (rows : UInt32),
    (plane.pitch.toUInt64 * (saturatingPred rows).toUInt64).toNat =
      plane.pitch.toNat * (rows.toNat - 1)
  /-- The end of a plane is the exact one, refused only when it does not fit. -/
  stop : ∀ (plane : ImportedPlane) (rows : UInt32),
    planeEnd dimensions.1 plane rows =
      if extent dimensions.1 plane rows.toNat < 2 ^ 64 then
        .ok (.ofNat (extent dimensions.1 plane rows.toNat))
      else .error "Vulkan NV12 plane extent overflow"
  /-- A sum that overflows belongs to a layout outside the object. -/
  overflow : ∀ e, nv12PlaneEnds dimensions layout = .error e →
    2 ^ 64 ≤ lumaExtent dimensions layout ∨ 2 ^ 64 ≤ chromaExtent dimensions layout
  /-- The rows of an accepted layout are inside the object and apart. -/
  rows : validateNv12SharedLayout dimensions layout = .ok () →
    (lumaRows dimensions layout).Within layout.objectSize.toNat ∧
      (chromaRows dimensions layout).Within layout.objectSize.toNat ∧
      Disjoint (lumaRows dimensions layout).bytes (chromaRows dimensions layout).bytes

theorem nv12Exact (dimensions : UInt32 × UInt32) (layout : Nv12SharedObjectLayout) :
    Nv12Exact dimensions layout := by
  constructor
  case accepts => exact validateNv12SharedLayout_ok
  case product => exact fun plane rows => pitch_mul_toNat plane.pitch rows
  case stop => exact planeEnd_eq dimensions.1
  case overflow =>
    intro e h
    have hextent : ∀ plane rows, planeEnd dimensions.1 plane rows = .error e →
        2 ^ 64 ≤ extent dimensions.1 plane rows.toNat := by
      intro plane rows hend
      rw [planeEnd_eq] at hend
      split at hend
      · cases hend
      · next hge => exact Nat.not_lt.mp hge
    simp only [nv12PlaneEnds, bind_error, pure, Except.pure, reduceCtorEq, and_false,
      exists_false, or_false] at h
    cases h with
    | inl hluma => exact .inl (hextent _ _ hluma)
    | inr h =>
      obtain ⟨_, -, hchroma⟩ := h
      have hchroma := hextent _ _ hchroma
      rw [half_toNat] at hchroma
      exact .inr hchroma
  case rows =>
    intro h
    have hlayout := validateNv12SharedLayout_ok.mp h
    exact ⟨Rows.within_of_stop_le hlayout.luma_within, Rows.within_of_stop_le hlayout.chroma_within,
      Rows.disjoint_bytes hlayout.disjoint⟩

/-! ## Packed images -/

/-- The end of the last row of a packed image, in unbounded arithmetic. -/
def packedExtent (dimensions : UInt32 × UInt32) (plane : ImportedPlane) (rowBytes : Nat) : Nat :=
  plane.offset.toNat + plane.pitch.toNat * (dimensions.2.toNat - 1) + rowBytes

theorem packedSpan_eq (dimensions : UInt32 × UInt32) (plane : ImportedPlane) (rowBytes : UInt64) :
    packedSpan dimensions plane rowBytes =
      if packedExtent dimensions plane rowBytes.toNat < 2 ^ 64 then
        .ok (.ofNat (packedExtent dimensions plane rowBytes.toNat))
      else .error (.other "Vulkan packed image extent overflow") := by
  split
  · next h => exact packedSpan_ok.mpr (UInt64.toNat_ofNat_of_lt' h)
  · next h =>
    cases hspan : packedSpan dimensions plane rowBytes with
    | ok span =>
      have hlt := span.toNat_lt
      rw [packedSpan_ok.mp hspan] at hlt
      exact absurd hlt h
    | error e =>
      simp only [packedSpan, bind_error, orRefuse_error] at hspan
      cases hspan with
      | inl hrows => rw [hrows.2]
      | inr hend =>
        obtain ⟨_, -, -, hend⟩ := hend
        rw [hend]

/-- The rows of a packed image, of four bytes a pixel. -/
def packedRows (dimensions : UInt32 × UInt32) (plane : ImportedPlane) : Rows where
  offset := plane.offset.toNat
  stride := plane.pitch.toNat
  length := 4 * dimensions.1.toNat
  count := dimensions.2.toNat

/-- What is exact about the checks of a packed image. -/
structure PackedExact (dimensions : UInt32 × UInt32) (sourceSize : UInt64)
    (plane : ImportedPlane) : Prop where
  /-- Exactly the layouts whose rows fit are accepted. -/
  accepts : validatePackedLayout dimensions sourceSize plane = .ok () ↔
    PackedLayout dimensions sourceSize plane
  /-- The products fit, so neither is refused. -/
  row : ∃ rowBytes, checkedMul dimensions.1.toUInt64 4 = some rowBytes ∧
    rowBytes.toNat = 4 * dimensions.1.toNat
  /-- The one product that is not checked does not overflow. -/
  product : ∃ rows, checkedMul plane.pitch.toUInt64 (saturatingPred dimensions.2).toUInt64 =
      some rows ∧ rows.toNat = plane.pitch.toNat * (dimensions.2.toNat - 1)
  /-- The span is the exact one, refused only when it does not fit. -/
  span : ∀ rowBytes : UInt64, packedSpan dimensions plane rowBytes =
    if packedExtent dimensions plane rowBytes.toNat < 2 ^ 64 then
      .ok (.ofNat (packedExtent dimensions plane rowBytes.toNat))
    else .error (.other "Vulkan packed image extent overflow")
  /-- The rows of an accepted layout are inside the object and apart. -/
  rows : validatePackedLayout dimensions sourceSize plane = .ok () →
    (packedRows dimensions plane).Within sourceSize.toNat

theorem packedExact (dimensions : UInt32 × UInt32) (sourceSize : UInt64) (plane : ImportedPlane) :
    PackedExact dimensions sourceSize plane := by
  constructor
  case accepts => exact validatePackedLayout_ok
  case row =>
    have hwidth := dimensions.1.toNat_lt
    have hrow : (UInt64.ofNat (4 * dimensions.1.toNat)).toNat = 4 * dimensions.1.toNat :=
      UInt64.toNat_ofNat_of_lt' (show _ < 2 ^ 64 by omega)
    refine ⟨_, ?_, hrow⟩
    rw [checkedMul_eq_some, hrow, UInt32.toNat_toUInt64, Nat.mul_comm]
    rfl
  case product =>
    have hproduct := widening_mul_lt plane.pitch (saturatingPred dimensions.2)
    rw [saturatingPred_toNat] at hproduct
    have hrows := UInt64.toNat_ofNat_of_lt' hproduct
    refine ⟨_, ?_, hrows⟩
    rw [checkedMul_eq_some, hrows, UInt32.toNat_toUInt64, UInt32.toNat_toUInt64,
      saturatingPred_toNat]
  case span => exact packedSpan_eq dimensions plane
  case rows => exact fun h => Rows.within_of_stop_le (validatePackedLayout_ok.mp h).within

/-! ## Frames -/

/-- What is exact about the check of a visible rectangle. -/
structure RectExact (rect : Rect) (codedWidth codedHeight : UInt32) : Prop where
  /-- Exactly the rectangles inside the image are accepted. -/
  accepts : rect.validate codedWidth codedHeight = .ok () ↔ RectInside rect codedWidth codedHeight
  /-- A rectangle whose end overflows is not inside. -/
  overflow : rect.validate codedWidth codedHeight = .error .visibleRectOverflow →
    codedWidth.toNat < rect.x.toNat + rect.width.toNat ∨
      codedHeight.toNat < rect.y.toNat + rect.height.toNat

theorem rectExact (rect : Rect) (codedWidth codedHeight : UInt32) :
    RectExact rect codedWidth codedHeight := by
  constructor
  case accepts => exact Rect.validate_ok
  case overflow =>
    intro h
    have hoverflow := (Rect.validate_overflow.mp h).2.2
    have hwidth := codedWidth.toNat_lt
    have hheight := codedHeight.toNat_lt
    omega

/-- What is exact about the check of a binary plane's height. -/
structure HeightExact (data : Bytes) (plane : BinaryPlane) (planes : List BinaryPlane)
    (codedHeight : UInt32) : Prop where
  /-- Exactly the binaries that hold their last row are accepted. -/
  accepts : (BinaryStorage.mk data (plane :: planes)).validateHeight codedHeight = .ok () ↔
    plane.lastRowStart codedHeight < data.list.length
  /-- The product that is not checked does not overflow. -/
  product : (plane.stride.toUInt64 * (saturatingPred codedHeight).toUInt64).toNat =
    plane.stride.toNat * (codedHeight.toNat - 1)
  /-- A refusal is about the exact start of the last row. -/
  refuses : ∀ halt, (BinaryStorage.mk data (plane :: planes)).validateHeight codedHeight =
      .error halt →
    data.list.length ≤ plane.lastRowStart codedHeight ∧
      halt = .refused (.binaryLastRowOutOfBounds
        (.ofNat (min (plane.lastRowStart codedHeight) (2 ^ 64 - 1))) data.len)

theorem heightExact (data : Bytes) (plane : BinaryPlane) (planes : List BinaryPlane)
    (codedHeight : UInt32) : HeightExact data plane planes codedHeight := by
  constructor
  case accepts => exact validateHeight_ok
  case product => exact pitch_mul_toNat plane.stride codedHeight
  case refuses => exact fun _ => validateHeight_error

/-- **The layout checks compute in exact arithmetic.**  Each accepts exactly when its
inequalities hold of unbounded numbers, refuses an overflow only when they fail, and
accepts no row outside its memory. -/
theorem layout_checks_exact :
    (∀ dimensions layout, Nv12Exact dimensions layout) ∧
      (∀ dimensions sourceSize plane, PackedExact dimensions sourceSize plane) ∧
      (∀ rect codedWidth codedHeight, RectExact rect codedWidth codedHeight) ∧
      (∀ data plane planes codedHeight, HeightExact data plane planes codedHeight) ∧
      ∀ frame : FrameDescriptor, frame.validate ≠ .error .crashed :=
  ⟨nv12Exact, packedExact, rectExact, heightExact, FrameDescriptor.validate_ne_crashed⟩

end VideoInterop.Native
