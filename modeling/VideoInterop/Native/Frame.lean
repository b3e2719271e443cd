import VideoInterop.Lib.Checks
import VideoInterop.Lib.Integers

/-!
# Native frames

The frame descriptors a native consumer decodes, and the checks it makes before it
duplicates a file descriptor.
-/

namespace VideoInterop.Native

/-! ## Errors -/

/-- The errors of a validation. -/
inductive ValidationError where
  | zeroCodedSize (width height : UInt32)
  | zeroVisibleSize (width height : UInt32)
  | visibleRectOverflow
  | visibleRectOutOfBounds (x y width height codedWidth codedHeight : UInt32)
  | unsupportedDescriptorVersion (version : UInt32)
  | emptyObjects
  | emptyLayers
  | tooManyEntries (kind : String) (actual maximum : Nat)
  | negativeFd (index : Nat) (fd : Int32)
  | negativeAcquireFence (fd : Int32)
  | emptyBinaryPlanes
  | unsupportedBinaryPlaneCount (count : Nat)
  | zeroBinaryStride
  | binaryOffsetOutOfBounds (offset dataSize : UInt64)
  | binaryLastRowOutOfBounds (offset dataSize : UInt64)
  | binaryStorageRequiresImplicitSync
  | unreferencedObject (index : Nat)
  | zeroObjectSize (index : Nat)
  | invalidFourcc (index : Nat)
  | emptyPlanes (index : Nat)
  | tooManyPlanes (actual maximum : Nat)
  | zeroPitch (layer plane : Nat)
  | invalidObjectIndex (layer plane : Nat) (objectIndex : UInt32) (objectCount : Nat)
  | planeOffsetOutOfBounds (layer plane : Nat) (objectIndex : UInt32) (offset objectSize : UInt64)
deriving DecidableEq

/-! ## Geometry -/

/-- A rectangle of pixels. -/
structure Rect where
  /-- Its first column. -/
  x : UInt32
  /-- Its first row. -/
  y : UInt32
  /-- How many columns. -/
  width : UInt32
  /-- How many rows. -/
  height : UInt32
deriving DecidableEq

/-- `Rect::validate` -/
def Rect.validate (rect : Rect) (codedWidth codedHeight : UInt32) :
    Except ValidationError Unit := do
  refuse (codedWidth == 0 || codedHeight == 0) (.zeroCodedSize codedWidth codedHeight)
  refuse (rect.width == 0 || rect.height == 0) (.zeroVisibleSize rect.width rect.height)
  let right ← orRefuse (checkedAdd32 rect.x rect.width) .visibleRectOverflow
  let bottom ← orRefuse (checkedAdd32 rect.y rect.height) .visibleRectOverflow
  refuse (right > codedWidth || bottom > codedHeight)
    (.visibleRectOutOfBounds rect.x rect.y rect.width rect.height codedWidth codedHeight)

/-! ## Binary storage -/

/-- The plane of a binary. -/
structure BinaryPlane where
  /-- The offset of its first row. -/
  offset : UInt64
  /-- The bytes from one row to the next. -/
  stride : UInt32
deriving DecidableEq

/-- Bytes on the heap. -/
structure BinaryStorage where
  /-- The bytes. -/
  data : Bytes
  /-- The planes, of which there is to be one. -/
  planes : List BinaryPlane
deriving DecidableEq

/-- `BinaryStorage::validate` -/
def BinaryStorage.validate (storage : BinaryStorage) : Except ValidationError Unit :=
  match storage.planes with
  | [] => .error .emptyBinaryPlanes
  | [plane] => do
    refuse (plane.stride == 0) .zeroBinaryStride
    refuse (plane.offset ≥ storage.data.len)
      (.binaryOffsetOutOfBounds plane.offset storage.data.len)
  | planes => .error (.unsupportedBinaryPlaneCount planes.length)

/-- Where the last row of a plane starts. -/
def BinaryPlane.lastRow (plane : BinaryPlane) (codedHeight : UInt32) : Option UInt64 :=
  checkedAdd plane.offset (plane.stride.toUInt64 * (saturatingPred codedHeight).toUInt64)

/-- `BinaryStorage::validate_height` -/
def BinaryStorage.validateHeight (storage : BinaryStorage) (codedHeight : UInt32) :
    Except (Halt ValidationError) Unit :=
  match storage.planes with
  -- `self.planes[0]` of no planes.
  | [] => .error .crashed
  | plane :: _ => do
    let lastRow ← orRefuse (plane.lastRow codedHeight)
      (.refused (.binaryLastRowOutOfBounds (.ofNat (2 ^ 64 - 1)) storage.data.len))
    refuse (lastRow ≥ storage.data.len)
      (.refused (.binaryLastRowOutOfBounds lastRow storage.data.len))

/-! ## Dma-buf storage -/

/-- The memory layout of an object. -/
inductive Modifier where
  | implicit
  | explicit (value : UInt64)
deriving DecidableEq

/-- A memory object. -/
structure Object where
  /-- Its descriptor, which the frame borrows. -/
  fd : Int32
  /-- Its length in bytes. -/
  size : UInt64
  /-- Its modifier. -/
  modifier : Modifier
deriving DecidableEq

/-- A plane of a layer. -/
structure Plane where
  /-- The object it lies in. -/
  objectIndex : UInt32
  /-- The offset of its first row. -/
  offset : UInt64
  /-- The bytes from one row to the next. -/
  pitch : UInt32
deriving DecidableEq

/-- A layer of planes. -/
structure Layer where
  /-- The code of its format. -/
  fourcc : UInt32
  /-- Its planes. -/
  planes : List Plane
deriving DecidableEq

/-- A DMA-BUF image. -/
structure Descriptor where
  /-- The version of the layout. -/
  version : UInt32
  /-- Its memory objects. -/
  objects : List Object
  /-- Its layers. -/
  layers : List Layer
deriving DecidableEq

/-- `AV_DRM_MAX_ENTRIES`. -/
def avDrmMaxEntries : Nat := 4

/-- `Object::validate` -/
def Object.validate (index : Nat) (object : Object) : Except ValidationError Unit := do
  refuse (object.fd < 0) (.negativeFd index object.fd)
  refuse (object.size == 0) (.zeroObjectSize index)

/-- `Plane::validate` -/
def Plane.validate (objects : List Object) (layer index : Nat) (plane : Plane) :
    Except ValidationError Unit := do
  refuse (plane.pitch == 0) (.zeroPitch layer index)
  let object ← orRefuse objects[plane.objectIndex.toNat]?
    (.invalidObjectIndex layer index plane.objectIndex objects.length)
  refuse (plane.offset ≥ object.size)
    (.planeOffsetOutOfBounds layer index plane.objectIndex plane.offset object.size)

/-- `Layer::validate` -/
def Layer.validate (objects : List Object) (index : Nat) (layer : Layer) :
    Except ValidationError Unit := do
  refuse (layer.fourcc == 0) (.invalidFourcc index)
  refuse layer.planes.isEmpty (.emptyPlanes index)
  refuse (layer.planes.length > avDrmMaxEntries)
    (.tooManyEntries "planes in one layer" layer.planes.length avDrmMaxEntries)
  checkEach (Plane.validate objects index) layer.planes

/-- All planes of all layers. -/
def Descriptor.planes (descriptor : Descriptor) : List Plane := descriptor.layers.flatMap (·.planes)

/-- `Descriptor::validate` -/
def Descriptor.validate (descriptor : Descriptor) : Except ValidationError Unit := do
  let ⟨version, objects, layers⟩ := descriptor
  refuse (version != 1) (.unsupportedDescriptorVersion version)
  refuse objects.isEmpty .emptyObjects
  refuse (objects.length > avDrmMaxEntries)
    (.tooManyEntries "objects" objects.length avDrmMaxEntries)
  refuse layers.isEmpty .emptyLayers
  refuse (layers.length > avDrmMaxEntries)
    (.tooManyEntries "layers" layers.length avDrmMaxEntries)
  checkEach Object.validate objects
  checkEach (Layer.validate objects) layers
  let totalPlanes := (layers.map fun layer => layer.planes.length).sum
  refuse (totalPlanes > avDrmMaxEntries) (.tooManyPlanes totalPlanes avDrmMaxEntries)
  let referenced := descriptor.planes.map fun plane => plane.objectIndex.toNat
  match (List.range objects.length).find? fun index => !referenced.contains index with
  | some index => .error (.unreferencedObject index)
  | none => .ok ()

/-! ## Frames -/

/-- A fence. -/
structure SyncFile where
  /-- Its descriptor, which the frame borrows. -/
  acquireFenceFd : Int32
deriving DecidableEq

/-- What to wait for before the image is read. -/
inductive AcquireSync where
  | implicit
  | syncFile (syncFile : SyncFile)
deriving DecidableEq

/-- Where the pixels are. -/
inductive Storage where
  | binary (storage : BinaryStorage)
  | dmaBuf (descriptor : Descriptor)
deriving DecidableEq

/-- `Storage::validate` -/
def Storage.validate : Storage → Except ValidationError Unit
  | .binary storage => storage.validate
  | .dmaBuf descriptor => descriptor.validate

/-- The check of the height, which only binary storage has. -/
def Storage.validateHeight (codedHeight : UInt32) : Storage → Except (Halt ValidationError) Unit
  | .binary storage => storage.validateHeight codedHeight
  | .dmaBuf _ => .ok ()

/-- A frame as it is handed to native code. -/
structure FrameDescriptor where
  /-- The columns, the invisible ones included. -/
  codedWidth : UInt32
  /-- The rows, the invisible ones included. -/
  codedHeight : UInt32
  /-- The part to show. -/
  visibleRect : Rect
  /-- Where the pixels are. -/
  storage : Storage
  /-- What to wait for. -/
  acquireSync : AcquireSync
deriving DecidableEq

/-- The checks of the synchronization, which depend on the storage. -/
def validateSync : Storage → AcquireSync → Except ValidationError Unit
  | .binary _, .implicit => .ok ()
  | .binary _, .syncFile _ => .error .binaryStorageRequiresImplicitSync
  | .dmaBuf _, .implicit => .ok ()
  | .dmaBuf _, .syncFile file =>
    refuse (file.acquireFenceFd < 0) (.negativeAcquireFence file.acquireFenceFd)

/-- `FrameDescriptor::validate` -/
def FrameDescriptor.validate (frame : FrameDescriptor) : Except (Halt ValidationError) Unit := do
  (frame.visibleRect.validate frame.codedWidth frame.codedHeight).mapError .refused
  frame.storage.validate.mapError .refused
  frame.storage.validateHeight frame.codedHeight
  (validateSync frame.storage frame.acquireSync).mapError .refused

/-! ## What is accepted -/

/-- A visible rectangle inside the coded image, in unbounded arithmetic. -/
structure RectInside (rect : Rect) (codedWidth codedHeight : UInt32) : Prop where
  /-- The image has a column. -/
  coded_width_pos : 0 < codedWidth.toNat
  /-- The image has a row. -/
  coded_height_pos : 0 < codedHeight.toNat
  /-- A column is visible. -/
  width_pos : 0 < rect.width.toNat
  /-- A row is visible. -/
  height_pos : 0 < rect.height.toNat
  /-- The visible columns end inside the image. -/
  right : rect.x.toNat + rect.width.toNat ≤ codedWidth.toNat
  /-- The visible rows end inside the image. -/
  bottom : rect.y.toNat + rect.height.toNat ≤ codedHeight.toNat

theorem u32_beq_zero (n : UInt32) : (n == 0) = false ↔ 0 < n.toNat := by
  rw [beq_eq_false_iff_ne, ne_eq, ← UInt32.toNat_inj]
  exact Nat.pos_iff_ne_zero.symm

theorem Rect.validate_ok {rect : Rect} {codedWidth codedHeight : UInt32} {u : Unit} :
    rect.validate codedWidth codedHeight = .ok u ↔ RectInside rect codedWidth codedHeight := by
  simp only [Rect.validate, bind_ok, refuse_ok, exists_const, orRefuse_ok, checkedAdd32_eq_some,
    Bool.or_eq_false_iff, u32_beq_zero, decide_eq_false_iff_not, gt_iff_lt,
    UInt32.lt_iff_toNat_lt, Nat.not_lt]
  constructor
  · intro h
    obtain ⟨⟨hcw, hch⟩, ⟨hw, hh⟩, right, hright, bottom, hbottom, hr, hb⟩ := h
    rw [hright] at hr
    rw [hbottom] at hb
    exact ⟨hcw, hch, hw, hh, hr, hb⟩
  · intro h
    have hright := UInt32.toNat_ofNat_of_lt' (Nat.lt_of_le_of_lt h.right codedWidth.toNat_lt)
    have hbottom := UInt32.toNat_ofNat_of_lt' (Nat.lt_of_le_of_lt h.bottom codedHeight.toNat_lt)
    refine ⟨⟨h.coded_width_pos, h.coded_height_pos⟩, ⟨h.width_pos, h.height_pos⟩, _, hright, _,
      hbottom, ?_, ?_⟩
    · rw [hright]
      exact h.right
    · rw [hbottom]
      exact h.bottom

/-- The sums of a rectangle are refused exactly when they do not fit. -/
theorem Rect.validate_overflow {rect : Rect} {codedWidth codedHeight : UInt32} :
    rect.validate codedWidth codedHeight = .error .visibleRectOverflow ↔
      (0 < codedWidth.toNat ∧ 0 < codedHeight.toNat) ∧
        (0 < rect.width.toNat ∧ 0 < rect.height.toNat) ∧
        (2 ^ 32 ≤ rect.x.toNat + rect.width.toNat ∨ 2 ^ 32 ≤ rect.y.toNat + rect.height.toNat) := by
  simp only [Rect.validate, bind_error, refuse_ok, refuse_error, exists_const, orRefuse_ok,
    orRefuse_error, Bool.or_eq_false_iff, u32_beq_zero, reduceCtorEq, and_false, false_or, and_true,
    or_false, checkedAdd32_eq_none, checkedAdd32_eq_some]
  refine and_congr_right fun _ => and_congr_right fun _ => ?_
  constructor
  · intro h
    cases h with
    | inl h => exact .inl h
    | inr h =>
      obtain ⟨-, -, hbottom⟩ := h
      exact .inr hbottom
  · intro h
    cases Nat.lt_or_ge (rect.x.toNat + rect.width.toNat) (2 ^ 32) with
    | inl hright =>
      exact .inr ⟨_, UInt32.toNat_ofNat_of_lt' hright, h.resolve_left (Nat.not_le.mpr hright)⟩
    | inr hright => exact .inl hright

/-- Where the last row of a plane starts, in unbounded arithmetic. -/
def BinaryPlane.lastRowStart (plane : BinaryPlane) (codedHeight : UInt32) : Nat :=
  plane.offset.toNat + plane.stride.toNat * (codedHeight.toNat - 1)

theorem BinaryPlane.lastRow_eq_some {plane : BinaryPlane} {codedHeight : UInt32} {n : UInt64} :
    plane.lastRow codedHeight = some n ↔ n.toNat = plane.lastRowStart codedHeight := by
  rw [lastRow, checkedAdd_eq_some, widening_mul_toNat, saturatingPred_toNat, lastRowStart]

theorem BinaryPlane.lastRow_eq_none {plane : BinaryPlane} {codedHeight : UInt32} :
    plane.lastRow codedHeight = none ↔ 2 ^ 64 ≤ plane.lastRowStart codedHeight := by
  rw [lastRow, checkedAdd_eq_none, widening_mul_toNat, saturatingPred_toNat, lastRowStart]

section

variable {data : Bytes} {plane : BinaryPlane} {planes : List BinaryPlane} {codedHeight : UInt32}

theorem validateHeight_ok {u : Unit} :
    (BinaryStorage.mk data (plane :: planes)).validateHeight codedHeight = .ok u ↔
      plane.lastRowStart codedHeight < data.list.length := by
  simp only [BinaryStorage.validateHeight, bind_ok, orRefuse_ok, refuse_ok,
    BinaryPlane.lastRow_eq_some, decide_eq_false_iff_not, ge_iff_le, UInt64.le_iff_toNat_le,
    Bytes.len_toNat, Nat.not_le]
  constructor
  · intro h
    obtain ⟨lastRow, hrow, hlt⟩ := h
    rw [← hrow]
    exact hlt
  · intro h
    have hrow := UInt64.toNat_ofNat_of_lt' (Nat.lt_trans h data.length_lt)
    refine ⟨_, hrow, ?_⟩
    rw [hrow]
    exact h

/-- A refusal names where the last row starts, or the largest number when that does
not fit. -/
theorem validateHeight_error {halt : Halt ValidationError}
    (h : (BinaryStorage.mk data (plane :: planes)).validateHeight codedHeight = .error halt) :
    data.list.length ≤ plane.lastRowStart codedHeight ∧
      halt = .refused (.binaryLastRowOutOfBounds
        (.ofNat (min (plane.lastRowStart codedHeight) (2 ^ 64 - 1))) data.len) := by
  have hlength := data.length_lt
  simp only [BinaryStorage.validateHeight, bind_error, orRefuse_ok, orRefuse_error, refuse_error,
    BinaryPlane.lastRow_eq_some, BinaryPlane.lastRow_eq_none, decide_eq_true_eq, ge_iff_le,
    UInt64.le_iff_toNat_le, Bytes.len_toNat] at h
  cases h with
  | inl h =>
    obtain ⟨hoverflow, hhalt⟩ := h
    refine ⟨by omega, ?_⟩
    rw [← hhalt, Nat.min_eq_right (by omega)]
  | inr h =>
    obtain ⟨lastRow, hrow, hle, hhalt⟩ := h
    have hlt := lastRow.toNat_lt
    refine ⟨by omega, ?_⟩
    rw [← hhalt, ← hrow, Nat.min_eq_left (by omega), UInt64.ofNat_toNat]

end

/-- Binary storage that is accepted has its one plane. -/
theorem BinaryStorage.validate_ok {storage : BinaryStorage} {u : Unit} :
    storage.validate = .ok u ↔ ∃ plane, storage.planes = [plane] ∧ 0 < plane.stride.toNat ∧
      plane.offset.toNat < storage.data.list.length := by
  obtain ⟨data, planes⟩ := storage
  cases planes with
  | nil => simp [BinaryStorage.validate]
  | cons plane planes =>
    cases planes with
    | nil =>
      simp only [BinaryStorage.validate, bind_ok, refuse_ok, exists_const, u32_beq_zero,
        decide_eq_false_iff_not, ge_iff_le, UInt64.le_iff_toNat_le, Bytes.len_toNat, Nat.not_le,
        List.cons.injEq, and_true, exists_eq_left']
    | cons plane' planes => simp [BinaryStorage.validate]

/-- No check of a frame reads a plane that is not there. -/
theorem FrameDescriptor.validate_ne_crashed (frame : FrameDescriptor) :
    frame.validate ≠ .error .crashed := by
  intro h
  simp only [FrameDescriptor.validate, bind_error, mapError_ok, mapError_error, reduceCtorEq,
    and_false, exists_false, false_or, or_false] at h
  obtain ⟨_, -, _, hstorage, h⟩ := h
  cases hs : frame.storage with
  | dmaBuf descriptor =>
    rw [hs] at h
    cases h
  | binary storage =>
    rw [hs] at h hstorage
    obtain ⟨plane, hplanes, -⟩ := BinaryStorage.validate_ok.mp hstorage
    obtain ⟨data, planes⟩ := storage
    subst hplanes
    have hhalt := (validateHeight_error h).2
    cases hhalt

end VideoInterop.Native
