import VideoInterop.Schema.Term

/-!
# The validator

The structural checks of descriptors, formats and frames.  A check of a number
returns the number it found, and a check of a list its elements, so that later
checks compute with those; a field that is not there and an operation on a term it is not
defined on raise.
-/

namespace VideoInterop.Schema

/-! ## Refusals -/

/-- A step of the path to a field. -/
inductive Key where
  | field (name : String)
  | index (i : Nat)
deriving DecidableEq

/-- The reasons of the validator's errors. -/
inductive Reason where
  | unsupportedValue (value : Term)
  | invalidDescriptor (value : Term)
  | invalidFrame (value : Term)
  | invalidFormat (value : Term)
  | invalidStorage (value : Term)
  | invalidStorageFormat (value : Term)
  | invalidField (path : List Key) (value : Term)
  | invalidModifier (index : Nat) (modifier : Term)
  | invalidObject (index : Nat) (object : Term)
  | invalidLayer (index : Nat) (layer : Term)
  | invalidPlane (layer index : Nat) (plane : Term)
  | planeOffsetOutOfBounds (layer index offset : Nat)
  | invalidObjectIndex (layer index objectIndex : Nat)
  | visibleRectOutOfBounds (rect : Term) (codedSize : Nat × Nat)
  | invalidVisibleRect (value : Term)
  | invalidAcquireSync (value : Term)
  | binaryFormatRequiresImplicitSync (policy : Term)
  | binaryFormatRequiresOpaqueAlpha (alphaMode : Term)
  | acquireSyncMismatch (kind : String) (expected : Term)
  | remoteLeaseOwner (owner : Term)
  | invalidLease (lease : Term)
  | binaryStorageMustNotHaveLease (lease : Term)
  | binaryStorageRequiresImplicitSync (sync : Term)
  | invalidFrameFormat (value : Term)
  | codedSizeMismatch (actual expected : Term × Term)
  | binaryFormatMismatch (actual expected : Term)
  | storageFormatMismatch (storage format : Term)
  | fourccMismatch (actual expected : Term)
  | modifierMismatch (actual expected : Term)
  | binaryStorageTooSmall (size : Nat) (width height : Term) (stride : Nat)
  | unsupportedBinaryPlanes (planes : Term)
  | invalidBinaryFormat (format : Term)
  | binaryStrideOverflow (width bytesPerPixel : Int)
  | binarySizeOverflow (offset stride height : Int)
  | unsupportedDescriptorVersion (version : Term)
  | invalidStreamModifier (modifier : Term)
  | invalidColorimetry (value : Term)
  | invalidAlphaMode (mode : Term)
  | unreferencedObject (index : Nat)
  | tooManyPlanes (count maximum : Nat)
deriving DecidableEq

/-- A check refuses with a reason, or raises. -/
abbrev Check := Except (Halt Reason)

/-- Refuse with a reason. -/
def reject {α : Type} (reason : Reason) : Check α := .error (.refused reason)

/-- The check accepts exactly when `p` holds, and gives a reason otherwise. -/
def Decides (check : Check Unit) (p : Prop) : Prop :=
  check = .ok () ∧ p ∨ (∃ reason, check = reject reason) ∧ ¬p

theorem Decides.ok_iff {check : Check Unit} {p : Prop} (h : Decides check p) :
    check = .ok () ↔ p := by
  cases h with
  | inl h => exact ⟨fun _ => h.2, fun _ => h.1⟩
  | inr h =>
    obtain ⟨⟨reason, hreason⟩, hp⟩ := h
    exact ⟨fun hok => absurd (hok.symm.trans hreason) nofun, fun hp' => absurd hp' hp⟩

@[simp] theorem reject_bind {α β : Type} (reason : Reason) (f : α → Check β) :
    reject reason >>= f = reject reason := rfl

/-- A check before others. -/
theorem Decides.refuse_bind {c : Bool} {reason : Reason} {f : Unit → Check Unit} {p : Prop}
    (h : c = false → Decides (f ()) p) :
    Decides (refuse c (.refused reason) >>= f) (c = false ∧ p) := by
  cases c with
  | false =>
    simp only [true_and]
    exact h rfl
  | true => exact .inr ⟨⟨reason, rfl⟩, nofun⟩

theorem Decides.congr {check : Check Unit} {p q : Prop} (h : Decides check p) (hpq : p ↔ q) :
    Decides check q := by
  rw [← hpq]
  exact h

theorem decides_refuse {c : Bool} {reason : Reason} :
    Decides (refuse c (.refused reason)) (c = false) := by
  cases c with
  | false => exact .inl ⟨rfl, rfl⟩
  | true => exact .inr ⟨⟨reason, rfl⟩, nofun⟩

/-! ## Fields -/

/-- The largest `int32`. -/
def maxI32 : Nat := 0x7FFFFFFF

/-- The largest `uint32`. -/
def maxU32 : Nat := 0xFFFFFFFF

/-- The largest `uint64`. -/
def maxU64 : Nat := 0xFFFFFFFFFFFFFFFF

/-- The most objects, layers and planes of a descriptor. -/
def maxAvdrmEntries : Nat := 4

/-- An integer from one to `max`. -/
def positiveBounded (value : Term) (max : Nat) (path : List Key) : Check Nat :=
  match value with
  | .int n => if 0 < n ∧ n ≤ max then .ok n.toNat else reject (.invalidField path value)
  | _ => reject (.invalidField path value)

/-- An integer from zero to `max`. -/
def unsignedBounded (value : Term) (max : Nat) (path : List Key) : Check Nat :=
  match value with
  | .int n => if 0 ≤ n ∧ n ≤ max then .ok n.toNat else reject (.invalidField path value)
  | _ => reject (.invalidField path value)

/-- One of the allowed atoms. -/
def member (value : Term) (allowed : List String) (path : List Key) : Check Unit :=
  match value with
  | .atom name => refuse (!allowed.contains name) (.refused (.invalidField path value))
  | _ => reject (.invalidField path value)

/-- A list of one to `max` elements. -/
def boundedNonemptyList (value : Term) (max : Nat) (path : List Key) : Check (List Term) :=
  match value.elements? with
  | some elements =>
    if elements ≠ [] ∧ elements.length ≤ max then .ok elements
    else reject (.invalidField path value)
  | none => reject (.invalidField path value)

/-- A pair of a numerator and a denominator, both positive. -/
def rational (value : Term) (path : List Key) : Check Unit :=
  match value with
  | .tuple (.cons numerator (.cons denominator .nil)) => do
    let _ ← positiveBounded numerator maxU32 (path ++ [.field "numerator"])
    let _ ← positiveBounded denominator maxU32 (path ++ [.field "denominator"])
  | _ => reject (.invalidField path value)

/-- `nil` or a rational. -/
def optionalRational (value : Term) (path : List Key) : Check Unit :=
  if value = .nilAtom then .ok () else rational value path

/-! ## Descriptors -/

/-- `Modifier.valid?`. -/
def modifierValid? : Term → Bool
  | .atom name => name == "implicit"
  | .int n => decide (0 ≤ n ∧ n ≤ maxU64)
  | _ => false

/-- The check of one object, which finds its size. -/
def validateObject (index : Nat) (object : Term) : Check Nat :=
  if object.isStruct "Elixir.VideoInterop.DMABuf.Object" then do
    let _ ← unsignedBounded (← object.field "fd") maxI32
      [.field "objects", .index index, .field "fd"]
    let size ← positiveBounded (← object.field "size") maxU64
      [.field "objects", .index index, .field "size"]
    let modifier ← object.field "modifier"
    refuse (!modifierValid? modifier) (.refused (.invalidModifier index modifier))
    return size
  else reject (.invalidObject index object)

/-- The check of one plane, which finds the index of its object.  Of the objects it
reads the sizes. -/
def validatePlane (sizes : List Nat) (layer index : Nat) (plane : Term) : Check Nat :=
  if plane.isStruct "Elixir.VideoInterop.DMABuf.Plane" then do
    let path := [.field "layers", .index layer, .field "planes", .index index]
    let objectIndex ← unsignedBounded (← plane.field "object_index") maxU32
      (path ++ [.field "object_index"])
    let size ← orRefuse sizes[objectIndex]? (.refused (.invalidObjectIndex layer index objectIndex))
    let offset ← unsignedBounded (← plane.field "offset") maxU64 (path ++ [.field "offset"])
    let _ ← positiveBounded (← plane.field "pitch") maxU32 (path ++ [.field "pitch"])
    refuse (!(offset < size)) (.refused (.planeOffsetOutOfBounds layer index offset))
    return objectIndex
  else reject (.invalidPlane layer index plane)

/-- The check of one layer, which finds the indices of its planes' objects. -/
def validateLayer (sizes : List Nat) (index : Nat) (layer : Term) : Check (List Nat) :=
  if layer.isStruct "Elixir.VideoInterop.DMABuf.Layer" then do
    let _ ← positiveBounded (← layer.field "fourcc") maxU32
      [.field "layers", .index index, .field "fourcc"]
    let planes ← boundedNonemptyList (← layer.field "planes") maxAvdrmEntries
      [.field "layers", .index index, .field "planes"]
    mapEach (validatePlane sizes index) planes
  else reject (.invalidLayer index layer)

/-- Of the layers this reads how many planes each has. -/
def validateTotalPlaneCount (layers : List (List Nat)) : Check Unit :=
  let count := (layers.map List.length).sum
  refuse (!(count ≤ maxAvdrmEntries)) (.refused (.tooManyPlanes count maxAvdrmEntries))

/-- Every object is used by a plane of some layer. -/
def validateReferencedObjects (layers : List (List Nat)) (objects : Nat) : Check Unit :=
  match (List.range objects).find? fun index => !layers.flatten.contains index with
  | none => .ok ()
  | some index => reject (.unreferencedObject index)

/-- The checks of a descriptor: version, objects, layers, and that every object is used. -/
def validateDescriptor (t : Term) : Check Unit :=
  if t.isStruct "Elixir.VideoInterop.DMABuf.Descriptor" then
    match t.fetch "version", t.fetch "objects", t.fetch "layers" with
    | some version, some objects, some layers => do
      refuse (version ≠ .int 1) (.refused (.unsupportedDescriptorVersion version))
      let objects ← boundedNonemptyList objects maxAvdrmEntries
        [.field "descriptor", .field "objects"]
      let layers ← boundedNonemptyList layers maxAvdrmEntries [.field "descriptor", .field "layers"]
      let sizes ← mapEach validateObject objects
      let layers ← mapEach (validateLayer sizes) layers
      validateTotalPlaneCount layers
      validateReferencedObjects layers sizes.length
    | _, _, _ => reject (.invalidDescriptor t)
  else reject (.invalidDescriptor t)

/-! ## Formats -/

/-- The pixel formats of a binary. -/
inductive PixelFormat where
  | rgba8888
  | bgra8888
  | rgb888
  | gray8
  | gray2
  | bw1
deriving DecidableEq

/-- The format an atom names. -/
def PixelFormat.ofTerm : Term → Option PixelFormat
  | .atom "rgba8888" => some .rgba8888
  | .atom "bgra8888" => some .bgra8888
  | .atom "rgb888" => some .rgb888
  | .atom "gray8" => some .gray8
  | .atom "gray2" => some .gray2
  | .atom "bw1" => some .bw1
  | _ => none

/-- A polarity is for `bw1`, and `bw1` needs one. -/
def PixelFormat.polarity? (format : PixelFormat) (polarity : Term) : Bool :=
  match format with
  | .bw1 => polarity == .atom "one_is_black" || polarity == .atom "one_is_white"
  | _ => polarity == .nilAtom

/-- The check of a binary format, which finds its pixel format. -/
def binaryFormat (format : Term) : Check PixelFormat :=
  if format.isStruct "Elixir.VideoInterop.Binary.Format" then
    match (format.fetch "pixel_format").bind PixelFormat.ofTerm, format.fetch "bw1_polarity" with
    | some pixelFormat, some polarity =>
      if pixelFormat.polarity? polarity then .ok pixelFormat
      else reject (.invalidBinaryFormat format)
    | _, _ => reject (.invalidBinaryFormat format)
  else reject (.invalidBinaryFormat format)

/-- A modifier for the whole stream, or `:per_buffer`. -/
def streamModifier (modifier : Term) : Check Unit :=
  if modifier = .atom "per_buffer" then .ok ()
  else refuse (!modifierValid? modifier) (.refused (.invalidStreamModifier modifier))

/-- The checks of a storage format. -/
def validateStorageFormat (format : Term) : Check Unit :=
  if format.isStruct "Elixir.VideoInterop.DMABuf.Format" then do
    let _ ← positiveBounded (← format.field "fourcc") maxU32
      [.field "format", .field "storage", .field "fourcc"]
    streamModifier (← format.field "modifier")
  else if format.isStruct "Elixir.VideoInterop.Binary.Format" then do
    let _ ← binaryFormat format
  else reject (.invalidStorageFormat format)

/-- The acquire policy of a stream. -/
def streamAcquireSync (policy : Term) : Check Unit :=
  member policy ["implicit", "sync_file", "per_frame"] [.field "format", .field "acquire_sync"]

/-- A binary stream has no fence to wait for. -/
def storageAcquireSync (format policy : Term) : Check Unit :=
  if format.isStruct "Elixir.VideoInterop.Binary.Format" then
    refuse (policy ≠ .atom "implicit") (.refused (.binaryFormatRequiresImplicitSync policy))
  else if format.isStruct "Elixir.VideoInterop.DMABuf.Format" then .ok ()
  else .error .crashed

/-- The color primaries. -/
def primaries : List String :=
  ["unspecified", "bt709", "bt470_m", "bt470_bg", "smpte170m", "smpte240m", "film", "bt2020",
    "smpte428", "smpte431", "smpte432", "ebu3213"]

/-- The transfer functions. -/
def transfers : List String :=
  ["unspecified", "bt709", "gamma22", "gamma28", "smpte170m", "smpte240m", "linear", "log",
    "log_sqrt", "iec61966_2_4", "bt1361", "iec61966_2_1", "bt2020_10", "bt2020_12", "smpte2084",
    "smpte428", "arib_std_b67"]

/-- The matrix coefficients. -/
def matrices : List String :=
  ["unspecified", "rgb", "bt709", "fcc", "bt470_bg", "smpte170m", "smpte240m", "ycgco",
    "bt2020_ncl", "bt2020_cl", "smpte2085", "chroma_derived_ncl", "chroma_derived_cl", "ictcp"]

/-- The ranges of the components. -/
def ranges : List String := ["unspecified", "limited", "full"]

/-- The places of a chroma sample. -/
def chromaLocations : List String :=
  ["unspecified", "left", "center", "top_left", "top", "bottom_left", "bottom"]

/-- The interlace modes. -/
def interlaceModes : List String :=
  ["progressive", "interlaced_top_first", "interlaced_bottom_first", "mixed"]

/-- The five fields of a colorimetry, each one of its values. -/
def colorimetry (value : Term) : Check Unit :=
  if value.isStruct "Elixir.VideoInterop.Colorimetry" then do
    let path := [.field "format", .field "colorimetry"]
    member (← value.field "primaries") primaries (path ++ [.field "primaries"])
    member (← value.field "transfer") transfers (path ++ [.field "transfer"])
    member (← value.field "matrix") matrices (path ++ [.field "matrix"])
    member (← value.field "range") ranges (path ++ [.field "range"])
    member (← value.field "chroma_location") chromaLocations (path ++ [.field "chroma_location"])
  else reject (.invalidColorimetry value)

/-- The interlace mode of a format. -/
def interlaceMode (mode : Term) : Check Unit :=
  member mode interlaceModes [.field "format", .field "interlace_mode"]

/-- The alpha mode of a format. -/
def alphaMode (mode : Term) : Check Unit :=
  refuse (!(mode == .atom "opaque" || mode == .atom "straight" || mode == .atom "premultiplied"))
    (.refused (.invalidAlphaMode mode))

/-- The pixel formats with an alpha channel. -/
def hasAlpha (pixelFormat : Term) : Bool :=
  pixelFormat == .atom "rgba8888" || pixelFormat == .atom "bgra8888"

/-- A binary without an alpha channel is opaque. -/
def storageAlphaMode (format mode : Term) : Check Unit :=
  if format.isStruct "Elixir.VideoInterop.Binary.Format" then
    if (format.fetch "pixel_format").any hasAlpha then .ok ()
    else refuse (mode ≠ .atom "opaque") (.refused (.binaryFormatRequiresOpaqueAlpha mode))
  else if format.isStruct "Elixir.VideoInterop.DMABuf.Format" then .ok ()
  else .error .crashed

/-- The checks of a stream format. -/
def validateFormat (format : Term) : Check Unit :=
  if format.isStruct "Elixir.VideoInterop.Format" then do
    let _ ← positiveBounded (← format.field "width") maxU32 [.field "format", .field "width"]
    let _ ← positiveBounded (← format.field "height") maxU32 [.field "format", .field "height"]
    optionalRational (← format.field "framerate") [.field "format", .field "framerate"]
    validateStorageFormat (← format.field "storage")
    streamAcquireSync (← format.field "acquire_sync")
    storageAcquireSync (← format.field "storage") (← format.field "acquire_sync")
    colorimetry (← format.field "colorimetry")
    rational (← format.field "pixel_aspect_ratio") [.field "format", .field "pixel_aspect_ratio"]
    interlaceMode (← format.field "interlace_mode")
    alphaMode (← format.field "alpha_mode")
    storageAlphaMode (← format.field "storage") (← format.field "alpha_mode")
  else reject (.invalidFormat format)

/-! ## Binary storage -/

/-- A product of the width that must fit 32 bits. -/
def checkedStride (width bytesPerPixel : Int) : Check Int :=
  let stride := width * bytesPerPixel
  if stride ≤ maxU32 then .ok stride else reject (.binaryStrideOverflow width bytesPerPixel)

/-- The bytes of a row of `width` pixels. -/
def binaryMinimumStride (width : Int) : PixelFormat → Check Int
  | .rgba8888 | .bgra8888 => checkedStride width 4
  | .rgb888 => checkedStride width 3
  | .gray8 => checkedStride width 1
  | .gray2 => .ok ((width + 3).tdiv 4)
  | .bw1 => .ok ((width + 7).tdiv 8)

/-- The bytes up to the end of the last row, which are not to pass 64 bits. -/
def binaryRequiredBytes (offset stride height rowBytes : Int) : Check Int :=
  let required := offset + stride * (height - 1) + rowBytes
  if required ≤ maxU64 then .ok required else reject (.binarySizeOverflow offset stride height)

/-- What the check of binary storage matches in the storage and its frame. -/
structure BinaryStorage where
  /-- The bytes. -/
  data : Bytes
  /-- The offset of the plane. -/
  offset : Term
  /-- The stride of the plane. -/
  stride : Term
  /-- The coded width of the frame. -/
  width : Term
  /-- The coded height of the frame. -/
  height : Term
  /-- The format of the storage. -/
  format : Term

/-- The match of the head of that check. -/
def BinaryStorage.ofTerms? (storage frame : Term) : Option BinaryStorage := do
  guard (storage.isStruct "Elixir.VideoInterop.Binary")
  let .binary data ← storage.fetch "data" | none
  let .cons plane .nil ← storage.fetch "planes" | none
  guard (plane.isStruct "Elixir.VideoInterop.Binary.Plane")
  let offset ← plane.fetch "offset"
  let stride ← plane.fetch "stride"
  guard (frame.isStruct "Elixir.VideoInterop.Frame")
  let width ← frame.fetch "coded_width"
  let height ← frame.fetch "coded_height"
  let format ← frame.fetch "format"
  guard (format.isStruct "Elixir.VideoInterop.Format")
  let storageFormat ← format.fetch "storage"
  return ⟨data, offset, stride, width, height, storageFormat⟩

/-- `validate_binary_storage` of one plane. -/
def BinaryStorage.validate (storage : BinaryStorage) : Check Unit := do
  let path := [.field "frame", .field "storage", .field "planes", .index 0]
  let pixelFormat ← binaryFormat storage.format
  let offset ← unsignedBounded storage.offset maxU64 (path ++ [.field "offset"])
  let stride ← positiveBounded storage.stride maxU32 (path ++ [.field "stride"])
  let size := storage.data.list.length
  let tooSmall := .binaryStorageTooSmall size storage.width storage.height stride
  let minimumStride ← binaryMinimumStride (← storage.width.integer) pixelFormat
  refuse (!(minimumStride ≤ stride)) (.refused tooSmall)
  let required ← binaryRequiredBytes offset stride (← storage.height.integer) minimumStride
  refuse (!(required ≤ size)) (.refused tooSmall)

/-- The checks of a binary: one plane, whose rows fit the data. -/
def validateBinaryStorage (storage frame : Term) : Check Unit :=
  match BinaryStorage.ofTerms? storage frame with
  | some storage => storage.validate
  | none => do
    let planes ← storage.field "planes"
    reject (.unsupportedBinaryPlanes planes)

/-! ## Frames -/

/-- What the checks ask of the runtime: the name of its node, and what an authority
answers about a resource. -/
structure Runtime where
  /-- The name of this node. -/
  node : String
  /-- Does the authority module know the guard resource? -/
  authority : String → Nat → Bool

/-- `AbandonmentGuard.valid?`. -/
def Runtime.guardValid? (runtime : Runtime) (guard : Term) : Bool :=
  guard.isStruct "Elixir.VideoInterop.AbandonmentGuard" &&
    match guard.fetch "resource", guard.fetch "authority" with
    | some (.reference resource), some (.atom authority) => runtime.authority authority resource
    | _, _ => false

/-- A lease of an owner on this node, with a guard that its authority knows or none. -/
def validateLease (runtime : Runtime) (lease : Term) : Check Unit :=
  if lease.isStruct "Elixir.VideoInterop.Lease" then
    match lease.fetch "owner", lease.fetch "holder", lease.fetch "abandonment_guard" with
    | some (.pid node id), some (.reference _), some guard => do
      refuse (node ≠ runtime.node) (.refused (.remoteLeaseOwner (.pid node id)))
      refuse (!(guard == .nilAtom || runtime.guardValid? guard)) (.refused (.invalidLease lease))
    | _, _, _ => reject (.invalidLease lease)
  else reject (.invalidLease lease)

/-- A visible rectangle inside the coded size. -/
def validateRect (rect : Term) (codedWidth codedHeight : Nat) : Check Unit :=
  if rect.isStruct "Elixir.VideoInterop.Rect" then do
    let path := [.field "frame", .field "visible_rect"]
    let x ← unsignedBounded (← rect.field "x") maxU32 (path ++ [.field "x"])
    let y ← unsignedBounded (← rect.field "y") maxU32 (path ++ [.field "y"])
    let width ← positiveBounded (← rect.field "width") maxU32 (path ++ [.field "width"])
    let height ← positiveBounded (← rect.field "height") maxU32 (path ++ [.field "height"])
    let outOfBounds := .visibleRectOutOfBounds rect (codedWidth, codedHeight)
    refuse (!(x + width ≤ codedWidth)) (.refused outOfBounds)
    refuse (!(y + height ≤ codedHeight)) (.refused outOfBounds)
  else reject (.invalidVisibleRect rect)

/-- `:implicit`, or a fence that is a file descriptor. -/
def validateAcquireSync (sync : Term) : Check Unit :=
  if sync = .atom "implicit" then .ok ()
  else if sync.isStruct "Elixir.VideoInterop.SyncFile" then
    match sync.fetch "acquire_fence_fd" with
    | some fd => do
      let _ ← unsignedBounded fd maxI32
        [.field "frame", .field "acquire_sync", .field "acquire_fence_fd"]
    | none => reject (.invalidAcquireSync sync)
  else reject (.invalidAcquireSync sync)

/-- The checks of a frame's storage. -/
def validateStorage (storage frame : Term) : Check Unit :=
  if storage.isStruct "Elixir.VideoInterop.DMABuf.Descriptor" then validateDescriptor storage
  else if storage.isStruct "Elixir.VideoInterop.Binary" then validateBinaryStorage storage frame
  else reject (.invalidStorage storage)

/-- The coded size of a frame is the size of its format. -/
def matchingDimensions (frame format : Term) : Check Unit := do
  let actual := (← frame.field "coded_width", ← frame.field "coded_height")
  let expected := (← format.field "width", ← format.field "height")
  refuse (actual ≠ expected) (.refused (.codedSizeMismatch actual expected))

/-- The code of the first layer is that of the format. -/
def matchingFourcc (actual expected : Term) : Check Unit :=
  refuse (actual ≠ expected) (.refused (.fourccMismatch actual expected))

/-- The first modifier of the objects that is another. -/
def otherModifier (modifier : Term) : List Term → Check (Option Term)
  | [] => .ok none
  | object :: objects => do
    let actual ← object.field "modifier"
    if actual ≠ modifier then return some actual else otherModifier modifier objects

/-- Every object has the stream's modifier, unless it is `:per_buffer`. -/
def matchingModifier (descriptor modifier : Term) : Check Unit :=
  if modifier = .atom "per_buffer" then .ok ()
  else do
    let objects ← orRefuse (← descriptor.field "objects").elements? .crashed
    match ← otherModifier modifier objects with
    | none => .ok ()
    | some actual => reject (.modifierMismatch actual modifier)

/-- The storage of a frame is of the kind its format names. -/
def matchingStorage (frame format : Term) : Check Unit := do
  let storage ← frame.field "storage"
  let expected ← format.field "storage"
  let mismatch := .storageFormatMismatch storage expected
  if storage.isStruct "Elixir.VideoInterop.DMABuf.Descriptor" &&
      expected.isStruct "Elixir.VideoInterop.DMABuf.Format" then
    match storage.fetch "layers" with
    | some (.cons primary _) =>
      matchingFourcc (← primary.field "fourcc") (← expected.field "fourcc")
      matchingModifier storage (← expected.field "modifier")
    | _ => reject mismatch
  else if storage.isStruct "Elixir.VideoInterop.Binary" &&
      expected.isStruct "Elixir.VideoInterop.Binary.Format" then
    let format := (frame.fetch "format").filter (·.isStruct "Elixir.VideoInterop.Format")
    match format.bind (·.fetch "storage") with
    | some actual =>
      if actual.isStruct "Elixir.VideoInterop.Binary.Format" then
        refuse (actual ≠ expected) (.refused (.binaryFormatMismatch actual expected))
      else reject mismatch
    | none => reject mismatch
  else reject mismatch

/-- The fence of a frame is of the stream's policy. -/
def matchingAcquireSync (actual expected : Term) : Check Unit :=
  if expected = .atom "per_frame" then .ok ()
  else if actual = .atom "implicit" then
    refuse (expected ≠ .atom "implicit") (.refused (.acquireSyncMismatch "implicit" expected))
  else if actual.isStruct "Elixir.VideoInterop.SyncFile" then
    refuse (expected ≠ .atom "sync_file") (.refused (.acquireSyncMismatch "sync_file" expected))
  else .error .crashed

/-- The checks between a frame and a format. -/
def validateFrameAgainstFormatWithoutFrameValidation (frame format : Term) : Check Unit := do
  validateFormat format
  matchingDimensions frame format
  matchingStorage frame format
  matchingAcquireSync (← frame.field "acquire_sync") (← format.field "acquire_sync")

/-- A frame carries a format it matches, or none when it is a descriptor. -/
def validateFrameFormat (frame : Term) : Check Unit := do
  let format ← frame.field "format"
  if format = .nilAtom ∧
      (frame.fetch "storage").any (·.isStruct "Elixir.VideoInterop.DMABuf.Descriptor") then
    .ok ()
  else if format.isStruct "Elixir.VideoInterop.Format" then
    validateFrameAgainstFormatWithoutFrameValidation frame format
  else reject (.invalidFrameFormat format)

/-- A binary has neither lease nor fence; a descriptor has a valid lease. -/
def validateStorageOwnership (runtime : Runtime) (frame : Term) : Check Unit :=
  if (frame.fetch "storage").any (·.isStruct "Elixir.VideoInterop.Binary") then
    if frame.fetch "lease" = some .nilAtom ∧ frame.fetch "acquire_sync" = some (.atom "implicit")
    then .ok ()
    else match (frame.fetch "lease").filter (· ≠ .nilAtom) with
      | some lease => reject (.binaryStorageMustNotHaveLease lease)
      | none => do
        let sync ← frame.field "acquire_sync"
        reject (.binaryStorageRequiresImplicitSync sync)
  else if (frame.fetch "storage").any (·.isStruct "Elixir.VideoInterop.DMABuf.Descriptor") then do
    validateLease runtime (← frame.field "lease")
  else .error .crashed

/-- The checks of a frame. -/
def validateFrame (runtime : Runtime) (frame : Term) : Check Unit :=
  if frame.isStruct "Elixir.VideoInterop.Frame" then do
    let codedWidth ← positiveBounded (← frame.field "coded_width") maxU32
      [.field "frame", .field "coded_width"]
    let codedHeight ← positiveBounded (← frame.field "coded_height") maxU32
      [.field "frame", .field "coded_height"]
    validateRect (← frame.field "visible_rect") codedWidth codedHeight
    validateStorage (← frame.field "storage") frame
    validateAcquireSync (← frame.field "acquire_sync")
    validateFrameFormat frame
    validateStorageOwnership runtime frame
  else reject (.invalidFrame frame)

/-- `VideoInterop.validate`. -/
def validate (runtime : Runtime) (value : Term) : Check Unit :=
  if value.isStruct "Elixir.VideoInterop.DMABuf.Descriptor" then validateDescriptor value
  else if value.isStruct "Elixir.VideoInterop.Frame" then validateFrame runtime value
  else if value.isStruct "Elixir.VideoInterop.Format" then validateFormat value
  else reject (.unsupportedValue value)

end VideoInterop.Schema
