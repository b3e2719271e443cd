import VideoInterop.Lib.Rows
import VideoInterop.Schema.Validator

/-!
# Binary frames

`Frame.binary` builds a frame of a binary and validates it.  Storage is accepted
exactly when its rows fit: `binary_storage_fits` says so of the validator, and of the
frames that are built without a stride.
-/

namespace VideoInterop.Schema

/-! ## Building a frame -/

/-- Why no binary frame is built. -/
inductive BinaryError where
  /-- An option that must be there is not: a `KeyError`. -/
  | missing (key : String)
  /-- "unsupported binary pixel format or width", an `ArgumentError`. -/
  | unsupported (pixelFormat width : Term)
  /-- "invalid binary video frame", an `ArgumentError`. -/
  | invalid (reason : Reason)
  /-- Any other exception. -/
  | crashed

/-- An `ArgumentError` is raised. -/
def BinaryError.isArgumentError : BinaryError → Bool
  | .unsupported .. | .invalid _ => true
  | .missing _ | .crashed => false

/-- `Keyword.fetch!`. -/
def fetchOption (opts : List (String × Term)) (key : String) : Except BinaryError Term :=
  orRefuse (opts.lookup key) (.missing key)

/-- The bytes of a row of a known format. -/
def minimumStride (width : Int) : PixelFormat → Int
  | .rgba8888 | .bgra8888 => width * 4
  | .rgb888 => width * 3
  | .gray8 => width
  | .gray2 => (width + 3).tdiv 4
  | .bw1 => (width + 7).tdiv 8

/-- `minimum_stride!`. -/
def requiredMinimumStride (width pixelFormat : Term) : Except BinaryError Term :=
  match width, PixelFormat.ofTerm pixelFormat with
  | .int n, some format =>
    if 0 < n then .ok (.int (minimumStride n format)) else .error (.unsupported pixelFormat width)
  | _, _ => .error (.unsupported pixelFormat width)

/-- The alpha mode of a format given no other. -/
def defaultAlphaMode (pixelFormat : Term) : Term :=
  if hasAlpha pixelFormat then .atom "premultiplied" else .atom "opaque"

/-- `%Colorimetry{}`. -/
def defaultColorimetry : Term :=
  .ofStruct "Elixir.VideoInterop.Colorimetry"
    [("primaries", .atom "unspecified"), ("transfer", .atom "unspecified"),
      ("matrix", .atom "unspecified"), ("range", .atom "unspecified"),
      ("chroma_location", .atom "unspecified")]

/-- The format of a binary frame. -/
def binaryFrameFormat (width height pixelFormat polarity framerate alphaMode : Term) : Term :=
  .ofStruct "Elixir.VideoInterop.Format"
    [("width", width), ("height", height), ("framerate", framerate),
      ("storage", .ofStruct "Elixir.VideoInterop.Binary.Format"
        [("pixel_format", pixelFormat), ("bw1_polarity", polarity)]),
      ("acquire_sync", .atom "implicit"), ("colorimetry", defaultColorimetry),
      ("pixel_aspect_ratio", .pair (.int 1) (.int 1)), ("interlace_mode", .atom "progressive"),
      ("alpha_mode", alphaMode)]

/-- The visible rectangle of a frame that is visible as a whole. -/
def wholeRect (width height : Term) : Term :=
  .ofStruct "Elixir.VideoInterop.Rect"
    [("x", .int 0), ("y", .int 0), ("width", width), ("height", height)]

/-- One plane from the first byte on. -/
def wholeBinary (data : Bytes) (stride : Term) : Term :=
  .ofStruct "Elixir.VideoInterop.Binary"
    [("data", .binary data),
      ("planes", .ofList [.ofStruct "Elixir.VideoInterop.Binary.Plane"
        [("offset", .int 0), ("stride", stride)]])]

/-- The frame `Frame.binary` builds around its data, before it validates. -/
def binaryFrame (data : Bytes) (width height stride format : Term) : Term :=
  .ofStruct "Elixir.VideoInterop.Frame"
    [("coded_width", width), ("coded_height", height), ("visible_rect", wholeRect width height),
      ("format", format), ("storage", wholeBinary data stride), ("acquire_sync", .atom "implicit"),
      ("lease", .nilAtom)]

/-- `Frame.binary`. -/
def binary (runtime : Runtime) (data : Bytes) (opts : List (String × Term)) :
    Except BinaryError Term := do
  let width ← fetchOption opts "width"
  let height ← fetchOption opts "height"
  let pixelFormat ← fetchOption opts "pixel_format"
  let stride ← match opts.lookup "stride" with
    | some stride => .ok stride
    | none => requiredMinimumStride width pixelFormat
  let polarity := (opts.lookup "bw1_polarity").getD .nilAtom
  let framerate := (opts.lookup "framerate").getD .nilAtom
  let alphaMode := (opts.lookup "alpha_mode").getD (defaultAlphaMode pixelFormat)
  let format := binaryFrameFormat width height pixelFormat polarity framerate alphaMode
  let frame := binaryFrame data width height stride format
  match validate runtime frame with
  | .ok () => return frame
  | .error (.refused reason) => throw (.invalid reason)
  | .error .crashed => throw .crashed

/-! ## Rows -/

/-- The bytes of a row: sub-byte pixels are packed, and the last byte may be part used. -/
def PixelFormat.rowBytes (width : Nat) : PixelFormat → Nat
  | .rgba8888 | .bgra8888 => 4 * width
  | .rgb888 => 3 * width
  | .gray8 => width
  | .gray2 => (width + 3) / 4
  | .bw1 => (width + 7) / 8

/-- The rows of a plane, and what it means that they fit. -/
def storageRows (pixelFormat : PixelFormat) (offset stride width height : Nat) : Rows where
  offset := offset
  stride := stride
  length := pixelFormat.rowBytes width
  count := height

/-- Rows that fit a data block without sharing a byte. -/
structure RowsFit (rows : Rows) (size : Nat) : Prop where
  /-- No byte is in two rows. -/
  apart : rows.Apart
  /-- A row is no longer than the stride. -/
  length : rows.length ≤ rows.stride
  /-- Every byte of a row is inside the data. -/
  within : rows.Within size

variable {pixelFormat : PixelFormat} {offset stride width height : Nat}

theorem PixelFormat.rowBytes_pos (hwidth : 0 < width) : 0 < pixelFormat.rowBytes width := by
  cases pixelFormat <;> simp only [rowBytes] <;> omega

/-- One inequality for each condition. -/
theorem rowsFit_iff {rows : Rows} {size : Nat} (hcount : 0 < rows.count)
    (hlength : 0 < rows.length) :
    RowsFit rows size ↔ rows.length ≤ rows.stride ∧ rows.stop ≤ size := by
  constructor
  · intro h
    exact ⟨h.length, (Rows.within_iff hcount hlength).mp h.within⟩
  · intro h
    exact ⟨Rows.apart_of_length_le h.1, h.1, Rows.within_of_stop_le h.2⟩

/-! ## Numbers -/

theorem positiveBounded_nat (n max : Nat) (path : List Key) :
    positiveBounded (.int n) max path =
      if 0 < n ∧ n ≤ max then .ok n else reject (.invalidField path (.int n)) := by
  simp [positiveBounded]

theorem unsignedBounded_nat (n max : Nat) (path : List Key) :
    unsignedBounded (.int n) max path =
      if n ≤ max then .ok n else reject (.invalidField path (.int n)) := by
  simp [unsignedBounded]

/-- The constructor and the validator compute one row length. -/
theorem minimumStride_nat (width : Nat) (pixelFormat : PixelFormat) :
    minimumStride width pixelFormat = pixelFormat.rowBytes width := by
  have htdiv : ∀ n d : Nat, Int.tdiv (n : Int) d = (n / d : Nat) := fun n d => rfl
  cases pixelFormat <;> simp only [minimumStride, PixelFormat.rowBytes]
  case gray2 => exact htdiv (width + 3) 4
  case bw1 => exact htdiv (width + 7) 8
  all_goals omega

/-- A row length is refused only when it does not fit 32 bits. -/
theorem binaryMinimumStride_eq (pixelFormat : PixelFormat) (hwidth : width ≤ maxU32) :
    (∃ reason, binaryMinimumStride width pixelFormat = reject reason ∧
        maxU32 < pixelFormat.rowBytes width) ∨
      binaryMinimumStride width pixelFormat = .ok (pixelFormat.rowBytes width : Nat) ∧
        pixelFormat.rowBytes width ≤ maxU32 := by
  have hchecked : ∀ k : Nat, (∃ reason, checkedStride width k = reject reason ∧
      maxU32 < k * width) ∨ checkedStride width k = .ok (k * width : Nat) ∧ k * width ≤ maxU32 := by
    intro k
    rw [checkedStride, ← Int.natCast_mul, Nat.mul_comm]
    split
    · next h => exact .inr ⟨rfl, Int.ofNat_le.mp h⟩
    · next h => exact .inl ⟨_, rfl, Nat.not_le.mp fun hle => h (Int.ofNat_le.mpr hle)⟩
  have hrow := minimumStride_nat width pixelFormat
  cases pixelFormat with
  | rgba8888 => exact hchecked 4
  | bgra8888 => exact hchecked 4
  | rgb888 => exact hchecked 3
  | gray8 =>
    have hone := hchecked 1
    rw [Nat.one_mul] at hone
    exact hone
  | gray2 =>
    refine .inr ⟨congrArg _ hrow, ?_⟩
    simp only [PixelFormat.rowBytes, maxU32] at hwidth ⊢
    omega
  | bw1 =>
    refine .inr ⟨congrArg _ hrow, ?_⟩
    simp only [PixelFormat.rowBytes, maxU32] at hwidth ⊢
    omega

/-- The bytes a plane takes are counted exactly. -/
theorem binaryRequiredBytes_eq (hheight : 0 < height) (rowBytes : Nat) :
    binaryRequiredBytes offset stride height rowBytes =
      if offset + stride * (height - 1) + rowBytes ≤ maxU64 then
        .ok ((offset + stride * (height - 1) + rowBytes : Nat) : Int)
      else reject (.binarySizeOverflow offset stride height) := by
  have hpred : (height : Int) - 1 = (height - 1 : Nat) := by omega
  have hsum : (offset : Int) + stride * (height - 1) + rowBytes =
      (offset + stride * (height - 1) + rowBytes : Nat) := by
    rw [hpred]
    push_cast
    rfl
  simp only [binaryRequiredBytes, hsum, Int.ofNat_le]

/-! ## Storage -/

/-- The check of binary storage of a known format, with its numbers in range. -/
theorem BinaryStorage.validate_decides {storage : BinaryStorage}
    (hformat : binaryFormat storage.format = .ok pixelFormat)
    (hoffset : storage.offset = .int offset) (hstride : storage.stride = .int stride)
    (hwidth : storage.width = .int width) (hheight : storage.height = .int height)
    (hoffset_le : offset ≤ maxU64) (hstride_pos : 0 < stride) (hwidth_pos : 0 < width)
    (hwidth_le : width ≤ maxU32) (hheight_pos : 0 < height) :
    Decides storage.validate (stride ≤ maxU32 ∧
      RowsFit (storageRows pixelFormat offset stride width height)
        storage.data.list.length) := by
  have hsize : storage.data.list.length ≤ maxU64 := Nat.le_of_lt_succ storage.data.length_lt
  rw [rowsFit_iff hheight_pos (PixelFormat.rowBytes_pos hwidth_pos)]
  simp only [BinaryStorage.validate, hformat, hoffset, hstride, hwidth, hheight,
    unsignedBounded_nat, positiveBounded_nat, if_pos hoffset_le, Term.integer, Term.int?, orRefuse,
    storageRows, Rows.stop]
  split
  case isFalse h => exact .inr ⟨⟨_, rfl⟩, fun hfit => h ⟨hstride_pos, hfit.1⟩⟩
  case isTrue h =>
    cases binaryMinimumStride_eq pixelFormat hwidth_le with
    | inl hrow =>
      -- A row that does not fit 32 bits does not fit the stride.
      obtain ⟨reason, hrow, hlong⟩ := hrow
      refine .inr ⟨⟨reason, ?_⟩, fun hfit => ?_⟩
      · simp only [ok_bind, hrow, reject_bind]
      · omega
    | inr hrow =>
      obtain ⟨hrow, -⟩ := hrow
      simp only [ok_bind, hrow, binaryRequiredBytes_eq hheight_pos]
      refine (Decides.refuse_bind (p := offset + stride * (height - 1) +
        pixelFormat.rowBytes width ≤ storage.data.list.length) fun _ => ?_).congr ?_
      · split
        · next hsum =>
          refine decides_refuse.congr ?_
          simp only [Bool.not_eq_eq_eq_not, Bool.not_false, decide_eq_true_eq, Int.ofNat_le]
        · exact .inr ⟨⟨_, rfl⟩, by omega⟩
      · simp only [Bool.not_eq_eq_eq_not, Bool.not_false, decide_eq_true_eq, Int.ofNat_le, h.2,
          true_and]

/-- Terms that hold binary storage of one plane, in a frame with a format. -/
structure HoldsBinary (storage frame : Term) (data : Bytes) (offset stride width height : Nat)
    (pixelFormat : PixelFormat) : Prop where
  /-- The storage is a binary. -/
  isBinary : storage.isStruct "Elixir.VideoInterop.Binary" = true
  /-- Its bytes. -/
  holdsData : storage.fetch "data" = some (.binary data)
  /-- Its one plane. -/
  holdsPlane : ∃ plane, storage.fetch "planes" = some (.cons plane .nil) ∧
    plane.isStruct "Elixir.VideoInterop.Binary.Plane" = true ∧
    plane.fetch "offset" = some (.int offset) ∧ plane.fetch "stride" = some (.int stride)
  /-- The frame is one. -/
  isFrame : frame.isStruct "Elixir.VideoInterop.Frame" = true
  /-- The columns of the image. -/
  codedWidth : frame.fetch "coded_width" = some (.int width)
  /-- The rows of the image. -/
  codedHeight : frame.fetch "coded_height" = some (.int height)
  /-- The format's pixels have their polarity, or need none. -/
  holdsFormat : ∃ format storageFormat, frame.fetch "format" = some format ∧
    format.isStruct "Elixir.VideoInterop.Format" = true ∧
    format.fetch "storage" = some storageFormat ∧ binaryFormat storageFormat = .ok pixelFormat

theorem HoldsBinary.ofTerms {storage frame : Term} {data : Bytes}
    (h : HoldsBinary storage frame data offset stride width height pixelFormat) :
    ∃ storageFormat, BinaryStorage.ofTerms? storage frame = some
        ⟨data, .int offset, .int stride, .int width, .int height, storageFormat⟩ ∧
      binaryFormat storageFormat = .ok pixelFormat := by
  obtain ⟨plane, hplanes, hplane, hoffset, hstride⟩ := h.holdsPlane
  obtain ⟨format, storageFormat, hformat, hstruct, hstorage, hbinary⟩ := h.holdsFormat
  refine ⟨storageFormat, ?_, hbinary⟩
  simp [BinaryStorage.ofTerms?, h.isBinary, h.holdsData, hplanes,
    hplane, hoffset, hstride, h.isFrame,
    h.codedWidth, h.codedHeight, hformat, hstruct, hstorage, guard]

/-! ## Options -/

/-- The options of a frame, but for its stride, are valid. -/
structure ValidOptions (opts : List (String × Term)) (width height : Nat)
    (pixelFormat : PixelFormat) : Prop where
  /-- A width is given. -/
  hasWidth : opts.lookup "width" = some (.int width)
  /-- It is positive. -/
  width_pos : 0 < width
  /-- It fits 32 bits. -/
  width_le : width ≤ maxU32
  /-- A height is given. -/
  hasHeight : opts.lookup "height" = some (.int height)
  /-- It is positive. -/
  height_pos : 0 < height
  /-- It fits 32 bits. -/
  height_le : height ≤ maxU32
  /-- The pixel format is a known one. -/
  hasFormat : ∃ t, opts.lookup "pixel_format" = some t ∧ PixelFormat.ofTerm t = some pixelFormat
  /-- The polarity is one the pixel format allows. -/
  polarityValid : pixelFormat.polarity? ((opts.lookup "bw1_polarity").getD .nilAtom) = true
  /-- The frame rate is a rational or not given. -/
  framerateValid : optionalRational ((opts.lookup "framerate").getD .nilAtom)
    [.field "format", .field "framerate"] = .ok ()
  /-- A format without alpha is opaque. -/
  alphaValid : ∀ mode, opts.lookup "alpha_mode" = some mode → mode = .atom "opaque" ∨
    (mode = .atom "straight" ∨ mode = .atom "premultiplied") ∧
      (pixelFormat = .rgba8888 ∨ pixelFormat = .bgra8888)

theorem PixelFormat.ofTerm_alpha {t : Term} (h : PixelFormat.ofTerm t = some pixelFormat) :
    hasAlpha t = true ↔ pixelFormat = .rgba8888 ∨ pixelFormat = .bgra8888 := by
  unfold PixelFormat.ofTerm at h
  split at h <;> cases h <;> decide

/-- The alpha mode of valid options passes its two checks. -/
theorem ValidOptions.alpha {opts : List (String × Term)} {t : Term}
    (h : ValidOptions opts width height pixelFormat)
    (ht : PixelFormat.ofTerm t = some pixelFormat) :
    let mode := (opts.lookup "alpha_mode").getD (defaultAlphaMode t)
    alphaMode mode = .ok () ∧ (hasAlpha t = true ∨ mode = .atom "opaque") := by
  have halpha := PixelFormat.ofTerm_alpha ht
  cases hmode : opts.lookup "alpha_mode" with
  | none =>
    simp only [Option.getD_none, defaultAlphaMode]
    split
    · next hyes => exact ⟨by decide, .inl hyes⟩
    · exact ⟨by decide, .inr rfl⟩
  | some mode =>
    simp only [Option.getD_some]
    cases h.alphaValid mode hmode with
    | inl hsolid => exact ⟨by rw [hsolid]; decide, .inr hsolid⟩
    | inr hother =>
      refine ⟨?_, .inl (halpha.mpr hother.2)⟩
      cases hother.1 with
      | inl hstraight => rw [hstraight]; decide
      | inr hpremultiplied => rw [hpremultiplied]; decide

/-! ## The frame that is built -/

section

variable {runtime : Runtime} {data : Bytes} {opts : List (String × Term)} {t : Term}

/-- The storage format that a frame is built with. -/
def builtStorageFormat (opts : List (String × Term)) (t : Term) : Term :=
  .ofStruct "Elixir.VideoInterop.Binary.Format"
    [("pixel_format", t), ("bw1_polarity", (opts.lookup "bw1_polarity").getD .nilAtom)]

/-- The format that a frame is built with. -/
def builtFormat (opts : List (String × Term)) (width height : Nat) (t : Term) : Term :=
  binaryFrameFormat (.int width) (.int height) t ((opts.lookup "bw1_polarity").getD .nilAtom)
    ((opts.lookup "framerate").getD .nilAtom)
    ((opts.lookup "alpha_mode").getD (defaultAlphaMode t))

theorem ValidOptions.binaryFormat (h : ValidOptions opts width height pixelFormat)
    (ht : PixelFormat.ofTerm t = some pixelFormat) :
    Schema.binaryFormat (builtStorageFormat opts t) = .ok pixelFormat := by
  simp [Schema.binaryFormat, builtStorageFormat, Term.isStruct, ht, h.polarityValid,
    List.lookup_cons]

theorem colorimetry_default : colorimetry defaultColorimetry = .ok () := by decide

theorem ValidOptions.validateFormat (h : ValidOptions opts width height pixelFormat)
    (ht : PixelFormat.ofTerm t = some pixelFormat) :
    Schema.validateFormat (builtFormat opts width height t) = .ok () := by
  obtain ⟨halpha, hsolid⟩ := h.alpha ht
  have hstorage : ∀ name, (builtStorageFormat opts t).fetch name = _ := fun name =>
    Term.fetch_ofStruct _ name _
  have hwidth := fun path => positiveBounded_nat width maxU32 path
  have hheight := fun path => positiveBounded_nat height maxU32 path
  simp only [if_pos (And.intro h.width_pos h.width_le)] at hwidth
  simp only [if_pos (And.intro h.height_pos h.height_le)] at hheight
  have hformat : validateStorageFormat (builtStorageFormat opts t) = .ok () := by
    simp [validateStorageFormat, Term.isStruct, hstorage, h.binaryFormat ht]
  have hmode : storageAlphaMode (builtStorageFormat opts t)
      ((opts.lookup "alpha_mode").getD (defaultAlphaMode t)) = .ok () := by
    cases hsolid with
    | inl hyes => simp [storageAlphaMode, Term.isStruct, hstorage, List.lookup_cons, hyes]
    | inr hsolid => simp [storageAlphaMode, Term.isStruct, hstorage, List.lookup_cons, hsolid]
  have hsync : storageAcquireSync (builtStorageFormat opts t) (.atom "implicit") = .ok () := by
    simp [storageAcquireSync, Term.isStruct, hstorage]
  have hpolicy : streamAcquireSync (.atom "implicit") = .ok () := by decide
  have hone : ∀ path, rational (.pair (.int 1) (.int 1)) path = .ok () := fun _ => rfl
  have hprogressive : interlaceMode (.atom "progressive") = .ok () := by decide
  rw [builtStorageFormat] at hformat hmode hsync
  simp [builtFormat, Schema.validateFormat, binaryFrameFormat, Term.isStruct, Term.field,
    List.lookup_cons, hwidth, hheight, h.framerateValid, hformat, hmode, hsync, halpha,
    colorimetry_default, hpolicy, hone, hprogressive]

theorem validateRect_whole (hwidth : 0 < width ∧ width ≤ maxU32)
    (hheight : 0 < height ∧ height ≤ maxU32) :
    validateRect (wholeRect (.int width) (.int height)) width height = .ok () := by
  have hfetch : ∀ name, (wholeRect (.int width) (.int height)).fetch name = _ := fun name =>
    Term.fetch_ofStruct _ name _
  have hzero : ∀ path, unsignedBounded (.int 0) maxU32 path = .ok 0 := fun _ => rfl
  simp [validateRect, Term.isStruct, Term.field, hfetch, List.lookup_cons, hzero,
    positiveBounded_nat, hwidth, hheight]

/-- Of a built frame everything but the storage passes its check. -/
theorem ValidOptions.validate_binaryFrame (h : ValidOptions opts width height pixelFormat)
    (ht : PixelFormat.ofTerm t = some pixelFormat) (stride : Nat) :
    validate runtime (binaryFrame data (.int width) (.int height) (.int stride)
        (builtFormat opts width height t)) =
      BinaryStorage.validate ⟨data, .int 0, .int stride, .int width, .int height,
        builtStorageFormat opts t⟩ := by
  have hframe : ∀ name, (binaryFrame data (.int width) (.int height) (.int stride)
      (builtFormat opts width height t)).fetch name = _ := fun name => Term.fetch_ofStruct _ name _
  have hformat : ∀ name, (builtFormat opts width height t).fetch name = _ := fun name =>
    Term.fetch_ofStruct _ name _
  have hbinary : ∀ name, (wholeBinary data (.int stride)).fetch name = _ := fun name =>
    Term.fetch_ofStruct _ name _
  generalize hf : binaryFrame data (.int width) (.int height) (.int stride)
    (builtFormat opts width height t) = frame at hframe ⊢
  have hstorage : validateBinaryStorage (wholeBinary data (.int stride)) frame =
      BinaryStorage.validate ⟨data, .int 0, .int stride, .int width, .int height,
        builtStorageFormat opts t⟩ := by
    simp [validateBinaryStorage, BinaryStorage.ofTerms?, Term.isStruct, hframe, hformat, hbinary,
      List.lookup_cons, Term.ofList, guard, builtStorageFormat]
  have hmatch : validateFrameFormat frame = .ok () := by
    simp [validateFrameFormat, validateFrameAgainstFormatWithoutFrameValidation,
      h.validateFormat ht, Term.isStruct, Term.field, hframe, hformat, hbinary, List.lookup_cons,
      matchingDimensions, matchingStorage, matchingAcquireSync, Option.filter]
  have hownership : validateStorageOwnership runtime frame = .ok () := by
    simp [validateStorageOwnership, Term.isStruct, hframe, hbinary, List.lookup_cons]
  simp [validate, validateFrame, Term.isStruct, Term.field, hframe, hbinary, List.lookup_cons,
    positiveBounded_nat, h.width_pos, h.width_le, h.height_pos, h.height_le, validateStorage,
    validateRect_whole, hstorage, hmatch, hownership, validateAcquireSync]

/-- What the constructor comes to: the check of the storage. -/
theorem ValidOptions.binary_eq (h : ValidOptions opts width height pixelFormat)
    (ht : opts.lookup "pixel_format" = some t) (hformat : PixelFormat.ofTerm t = some pixelFormat)
    (hstride : opts.lookup "stride" = none) :
    binary runtime data opts =
      match BinaryStorage.validate ⟨data, .int (0 : Nat), .int (pixelFormat.rowBytes width),
        .int width, .int height, builtStorageFormat opts t⟩ with
      | .ok () => .ok (binaryFrame data (.int width) (.int height)
          (.int (pixelFormat.rowBytes width)) (builtFormat opts width height t))
      | .error (.refused reason) => .error (.invalid reason)
      | .error .crashed => .error .crashed := by
  have hminimum : requiredMinimumStride (.int width) t =
      .ok (.int (pixelFormat.rowBytes width)) := by
    simp [requiredMinimumStride, hformat, h.width_pos, minimumStride_nat]
  simp only [binary, fetchOption, h.hasWidth, h.hasHeight, ht, hstride, hminimum, orRefuse_some,
    ok_bind]
  have hvalidate : validate runtime (binaryFrame data _ _ _ _) = _ :=
    h.validate_binaryFrame hformat (pixelFormat.rowBytes width)
  simp only [builtFormat] at hvalidate ⊢
  rw [hvalidate]
  rfl

end

/-- Rows one after another fit when all their bytes are there. -/
theorem rowsFit_packed {size : Nat} (hwidth : 0 < width) (hheight : 0 < height) :
    RowsFit (storageRows pixelFormat 0 (pixelFormat.rowBytes width) width height) size ↔
      pixelFormat.rowBytes width * height ≤ size := by
  rw [rowsFit_iff hheight (PixelFormat.rowBytes_pos hwidth)]
  have hstop : (storageRows pixelFormat 0 (pixelFormat.rowBytes width) width height).stop =
      pixelFormat.rowBytes width * height := by
    obtain ⟨n, rfl⟩ := Nat.exists_eq_succ_of_ne_zero hheight.ne'
    simp only [storageRows, Rows.stop, Nat.succ_eq_add_one, Nat.add_sub_cancel, Nat.mul_add,
      Nat.mul_one, Nat.zero_add]
  rw [hstop]
  exact and_iff_right (Nat.le_refl _)

/-- **Binary storage is accepted exactly when its rows fit**: when no two of them share a
byte, none is longer than the stride, and all lie inside the data.  A frame is built
without a stride exactly when as many bytes are there as its rows have. -/
theorem binary_storage_fits (runtime : Runtime) (data : Bytes) (pixelFormat : PixelFormat)
    {width height : Nat} (hwidth : 0 < width ∧ width ≤ maxU32)
    (hheight : 0 < height ∧ height ≤ maxU32) :
    (∀ storage frame offset stride, offset ≤ maxU64 → 0 < stride ∧ stride ≤ maxU32 →
        HoldsBinary storage frame data offset stride width height pixelFormat →
        (validateBinaryStorage storage frame = .ok () ↔
          RowsFit (storageRows pixelFormat offset stride width height) data.list.length)) ∧
      ∀ opts, ValidOptions opts width height pixelFormat → opts.lookup "stride" = none →
        ((∃ frame, binary runtime data opts = .ok frame) ↔
            pixelFormat.rowBytes width * height ≤ data.list.length ∧
              pixelFormat.rowBytes width ≤ maxU32) ∧
          ∀ e, binary runtime data opts = .error e → e.isArgumentError = true := by
  constructor
  · intro storage frame offset stride hoffset hstride h
    obtain ⟨storageFormat, hterms, hformat⟩ := h.ofTerms
    have hdecides : Decides (BinaryStorage.validate ⟨data, .int offset, .int stride, .int width,
        .int height, storageFormat⟩) _ :=
      BinaryStorage.validate_decides hformat rfl rfl rfl rfl hoffset hstride.1 hwidth.1 hwidth.2
        hheight.1
    rw [validateBinaryStorage, hterms]
    exact (hdecides.congr ⟨And.right, fun hfit => ⟨hstride.2, hfit⟩⟩).ok_iff
  · intro opts h hstride
    obtain ⟨t, ht, hformat⟩ := h.hasFormat
    have hrow : 0 < pixelFormat.rowBytes width := PixelFormat.rowBytes_pos hwidth.1
    have hdecides : Decides (BinaryStorage.validate ⟨data, .int (0 : Nat),
        .int (pixelFormat.rowBytes width), .int width, .int height, builtStorageFormat opts t⟩) _ :=
      BinaryStorage.validate_decides (h.binaryFormat hformat) rfl rfl rfl rfl (Nat.zero_le _) hrow
        hwidth.1 hwidth.2 hheight.1
    rw [h.binary_eq ht hformat hstride, ← rowsFit_packed hwidth.1 hheight.1]
    cases hdecides with
    | inl hfits =>
      obtain ⟨hok, hrow_le, hfit⟩ := hfits
      simp only [hok]
      exact ⟨⟨fun _ => ⟨hfit, hrow_le⟩, fun _ => ⟨_, rfl⟩⟩, nofun⟩
    | inr hrefused =>
      obtain ⟨⟨reason, hreason⟩, hno⟩ := hrefused
      simp only [hreason, reject]
      refine ⟨⟨nofun, fun hfits => absurd ⟨hfits.2, hfits.1⟩ hno⟩, fun e he => ?_⟩
      cases he
      rfl

/-- Two rows of five two-bit pixels, in two bytes each. -/
def sampleOptions : List (String × Term) :=
  [("width", .int 5), ("height", .int 2), ("pixel_format", .atom "gray2")]

/-- Four rows of four two-bit pixels. -/
def sampleData : Bytes := ⟨[0x1B, 0xC0, 0xE4, 0x40], by decide⟩

/-- A runtime that knows no guard. -/
def sampleRuntime : Runtime := ⟨"nonode@nohost", fun _ _ => false⟩

theorem binary_storage_fits_sample :
    validateBinaryStorage (wholeBinary sampleData (.int 2))
        (binaryFrame sampleData (.int 5) (.int 2) (.int 2)
          (builtFormat sampleOptions 5 2 (.atom "gray2"))) = .ok () ∧
      ∃ frame, binary sampleRuntime sampleData sampleOptions = .ok frame := by
  have hwidth : 0 < 5 ∧ 5 ≤ maxU32 := by decide
  have hheight : 0 < 2 ∧ 2 ≤ maxU32 := by decide
  obtain ⟨hstorage, hbinary⟩ := binary_storage_fits sampleRuntime sampleData .gray2 hwidth hheight
  constructor
  · refine (hstorage _ _ 0 2 (by decide) (by decide) ?_).mpr ?_
    · constructor
      case holdsPlane => exact ⟨_, rfl, by decide, rfl, rfl⟩
      case holdsFormat => exact ⟨_, _, rfl, by decide, rfl, by decide⟩
      all_goals decide
    · exact (rowsFit_iff (by decide) (by decide)).mpr (by decide)
  · refine (hbinary sampleOptions ?_ rfl).1.mpr (by decide)
    constructor
    case hasFormat => exact ⟨_, rfl, rfl⟩
    case alphaValid => exact fun _ hmode => by cases hmode
    all_goals decide

end VideoInterop.Schema
