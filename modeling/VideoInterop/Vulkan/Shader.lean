import VideoInterop.Lib.Dispatch
import VideoInterop.Lib.Words
import VideoInterop.Vulkan.Nv12Layout

/-!
# The NV12 compute shaders

The two shaders that read a linear NV12 buffer: `nv12.comp` converts it to an
RGBA image, `nv12_planes.comp` copies it into one image per plane.  Both fetch
32-bit texels at addresses they compute in 32-bit arithmetic.

Floating point is a parameter: `ShaderFloat` lists the operations the shaders
use and says nothing about them.  A shader invocation returns its image stores,
or fails at a fetch outside the source texels.
-/

namespace VideoInterop.Vulkan

open VideoInterop.Words (Texels)

/-! ## Parameters -/

/-- The colour model. -/
inductive YcbcrModel where
  | bt601
  | bt709
  | bt2020
deriving DecidableEq

/-- The range of the components. -/
inductive YcbcrRange where
  | narrow
  | full
deriving DecidableEq

/-- Where a chroma sample is, along one axis. -/
inductive YcbcrOffset where
  | cositedEven
  | midpoint
deriving DecidableEq

/-- How a stream's chroma is to be converted. -/
structure Nv12Conversion where
  /-- The colour model. -/
  model : YcbcrModel
  /-- The range of the components. -/
  range : YcbcrRange
  /-- Where a chroma sample is among its columns. -/
  xOffset : YcbcrOffset
  /-- Where a chroma sample is among its rows. -/
  yOffset : YcbcrOffset
deriving DecidableEq

/-- The push constants of both NV12 shaders. -/
structure Nv12PushConstants where
  /-- Columns. -/
  width : UInt32
  /-- Rows. -/
  height : UInt32
  /-- The first byte of the luma plane. -/
  yOffset : UInt32
  /-- Its pitch. -/
  yPitch : UInt32
  /-- The first byte of the chroma plane. -/
  uvOffset : UInt32
  /-- Its pitch. -/
  uvPitch : UInt32
  /-- The number of the range. -/
  range : UInt32
  /-- The number of the first chroma offset. -/
  xOffset : UInt32
  /-- The number of the second. -/
  yChromaOffset : UInt32
deriving DecidableEq

/-- `u32::try_from`. -/
def tryU32 (n : UInt64) : Option UInt32 := if n.toNat < 2 ^ 32 then some n.toUInt32 else none

/-- The push constants of a compute staging. -/
def nv12PushConstants (dimensions : UInt32 × UInt32) (layout : Nv12SharedObjectLayout)
    (conversion : Nv12Conversion) : Except String Nv12PushConstants := do
  let yOffset ← orRefuse (tryU32 (lumaOf layout.planes).offset)
    "Vulkan NV12 luma offset exceeds u32"
  let uvOffset ← orRefuse (tryU32 (chromaOf layout.planes).offset)
    "Vulkan NV12 chroma offset exceeds u32"
  return {
    width := dimensions.1
    height := dimensions.2
    yOffset := yOffset
    yPitch := (lumaOf layout.planes).pitch
    uvOffset := uvOffset
    uvPitch := (chromaOf layout.planes).pitch
    range := match conversion.range with
      | .narrow => 0
      | .full => 1
    xOffset := match conversion.xOffset with
      | .cositedEven => 0
      | .midpoint => 1
    yChromaOffset := match conversion.yOffset with
      | .cositedEven => 0
      | .midpoint => 1
  }

/-- `u32::div_ceil`. -/
def divCeil (n d : UInt32) : UInt32 := if n % d > 0 then n / d + 1 else n / d

/-- The workgroups of a staging: one invocation for each two by two block. -/
def nv12Dispatch (dimensions : UInt32 × UInt32) : UInt32 × UInt32 :=
  (divCeil (dimensions.1 / 2) 16, divCeil (dimensions.2 / 2) 16)

/-- The buffer view of a staged source, over the start of the object. -/
def sourceView (object : Nat → BitVec 8) (span : UInt64) : Texels := ⟨(span / 4).toNat, object⟩

/-! ## Shader values -/

/-- A shader's `uint`, and its `int` in two's complement. -/
abbrev Uint := BitVec 32

/-- A shader's `ivec2`. -/
abbrev IVec2 := BitVec 32 × BitVec 32

/-- The floating point of a shader. -/
class ShaderFloat (F : Type) extends Add F, Sub F, Mul F, Div F, OfScientific F where
  /-- `float(uint)` -/
  ofUint : Uint → F
  /-- `float(int)` -/
  ofInt : BitVec 32 → F
  /-- `int(float)` -/
  toInt : F → BitVec 32
  /-- `floor` -/
  floor : F → F
  /-- `fract` -/
  fract : F → F
  /-- `mix` -/
  mix : F → F → F → F
  /-- `clamp` -/
  clamp : F → F → F → F

/-- Exact arithmetic in place of floating point. -/
instance : ShaderFloat Rat where
  ofUint u := u.toNat
  ofInt i := i.toInt
  toInt x := .ofInt 32 x.floor
  floor x := x.floor
  fract x := x - x.floor
  mix a b t := a * (1 - t) + b * t
  clamp x lower upper := if x < lower then lower else if upper < x then upper else x

/-- A shader's push constant block: the constants in order. -/
structure Parameters where
  /-- `width` -/
  width : Uint
  /-- `height` -/
  height : Uint
  /-- `y_offset` -/
  yOffset : Uint
  /-- `y_pitch` -/
  yPitch : Uint
  /-- `uv_offset` -/
  uvOffset : Uint
  /-- `uv_pitch` -/
  uvPitch : Uint
  /-- `color_range` -/
  colorRange : Uint
  /-- `x_chroma_offset` -/
  xChromaOffset : Uint
  /-- `y_chroma_offset` -/
  yChromaOffset : Uint

/-- The constants as the shader reads them. -/
def Nv12PushConstants.parameters (c : Nv12PushConstants) : Parameters :=
  ⟨c.width.toBitVec, c.height.toBitVec, c.yOffset.toBitVec, c.yPitch.toBitVec,
    c.uvOffset.toBitVec, c.uvPitch.toBitVec, c.range.toBitVec, c.xOffset.toBitVec,
    c.yChromaOffset.toBitVec⟩

/-- One `imageStore`. -/
structure ImageStore (F : Type) where
  /-- The image that is written. -/
  binding : Nat
  /-- The texel. -/
  position : IVec2
  /-- Its four components. -/
  value : F × F × F × F

/-- The signed `clamp`: the smaller of the upper bound and the larger of the two
others. -/
def clampInt (x lower upper : BitVec 32) : BitVec 32 :=
  let raised := if x.slt lower then lower else x
  if upper.slt raised then upper else raised

/-! ## Addresses -/

/-- The address of a luma byte. -/
def lumaAddress (p : Parameters) (pixel : IVec2) : Uint :=
  p.yOffset + pixel.2 * p.yPitch + pixel.1

/-- The address of a chroma pair. -/
def chromaAddress (p : Parameters) (block : IVec2) : Uint :=
  p.uvOffset + block.2 * p.uvPitch + block.1 * 2#32

/-- A chroma position moved inside the half-size plane. -/
def clampChroma (p : Parameters) (location : IVec2) : IVec2 :=
  let extent := (p.width >>> 1, p.height >>> 1)
  (clampInt location.1 0#32 (extent.1 - 1#32), clampInt location.2 0#32 (extent.2 - 1#32))

/-! ## `nv12.comp` -/

section
variable {F : Type} [ShaderFloat F] {m : Type → Type} [Monad m]

/-- `load_chroma`. -/
def loadChroma (p : Parameters) (source : Texels) (location : IVec2) : Option (F × F) := do
  let pair ← source.loadPair (chromaAddress p (clampChroma p location))
  return (ShaderFloat.ofUint pair.1, ShaderFloat.ofUint pair.2)

/-- `mix` on pairs. -/
def mix (a b : F × F) (t : F) : F × F := (ShaderFloat.mix a.1 b.1 t, ShaderFloat.mix a.2 b.2 t)

/-- A position moved by whole steps. -/
def shift (location : IVec2) (x y : BitVec 32) : IVec2 := (location.1 + x, location.2 + y)

/-- `reconstructed_chroma`, over any way to read chroma. -/
def reconstructedChroma (p : Parameters) (chroma : IVec2 → m (F × F)) (pixel : IVec2) :
    m (F × F) := do
  let x : F :=
    if p.xChromaOffset = 0#32 then ShaderFloat.ofInt pixel.1 * 0.5
    else (ShaderFloat.ofInt pixel.1 - 0.5) * 0.5
  let y : F :=
    if p.yChromaOffset = 0#32 then ShaderFloat.ofInt pixel.2 * 0.5
    else (ShaderFloat.ofInt pixel.2 - 0.5) * 0.5
  let low := (ShaderFloat.toInt (ShaderFloat.floor x), ShaderFloat.toInt (ShaderFloat.floor y))
  let top := mix (← chroma low) (← chroma (shift low 1#32 0#32)) (ShaderFloat.fract x)
  let bottom := mix (← chroma (shift low 0#32 1#32)) (← chroma (shift low 1#32 1#32))
    (ShaderFloat.fract x)
  return mix top bottom (ShaderFloat.fract y)

/-- The chroma of the four pixels of a block: `c00`, `c10`, `c01`, `c11`. -/
def blockChroma (p : Parameters) (chroma : IVec2 → m (F × F)) (block : IVec2) :
    m ((F × F) × (F × F) × (F × F) × (F × F)) := do
  let pixel := (block.1 * 2#32, block.2 * 2#32)
  if p.xChromaOffset = 0#32 ∧ p.yChromaOffset = 1#32 then
    -- Left horizontal, midpoint vertical: six chroma pairs serve all four pixels.
    let base := (block.1, block.2 - 1#32)
    let a0 ← chroma base
    let a1 ← chroma (shift base 1#32 0#32)
    let b0 ← chroma (shift base 0#32 1#32)
    let b1 ← chroma (shift base 1#32 1#32)
    let d0 ← chroma (shift base 0#32 2#32)
    let d1 ← chroma (shift base 1#32 2#32)
    return (mix a0 b0 0.75, mix (mix a0 a1 0.5) (mix b0 b1 0.5) 0.75, mix b0 d0 0.25,
      mix (mix b0 b1 0.5) (mix d0 d1 0.5) 0.25)
  else
    return (← reconstructedChroma p chroma pixel,
      ← reconstructedChroma p chroma (shift pixel 1#32 0#32),
      ← reconstructedChroma p chroma (shift pixel 0#32 1#32),
      ← reconstructedChroma p chroma (shift pixel 1#32 1#32))

/-- `convert_code`. -/
def convertCode (p : Parameters) (yCode : F) (chromaCode : F × F) : F × F × F × F :=
  let narrow := p.colorRange = 0#32
  let y : F := if narrow then ShaderFloat.clamp ((yCode - 16.0) / 219.0) 0.0 1.0 else yCode / 255.0
  let scale : F := if narrow then 224.0 else 255.0
  let cb := (chromaCode.1 - 128.0) / scale
  let cr := (chromaCode.2 - 128.0) / scale
  (ShaderFloat.clamp (y + 1.5748 * cr) 0.0 1.0,
    ShaderFloat.clamp (y - 0.187324 * cb - 0.468124 * cr) 0.0 1.0,
    ShaderFloat.clamp (y + 1.8556 * cb) 0.0 1.0, 1.0)

/-- One invocation of `nv12.comp`. -/
def nv12Comp (p : Parameters) (source : Texels) (block : IVec2) : Option (List (ImageStore F)) :=
  let pixel := (block.1 * 2#32, block.2 * 2#32)
  if p.width.sle pixel.1 || p.height.sle pixel.2 then some []
  else do
    let row0 := lumaAddress p pixel
    let row1 := row0 + p.yPitch
    let yTop ← source.loadPair row0
    let yBottom ← source.loadPair row1
    let (c00, c10, c01, c11) ← blockChroma p (loadChroma p source) block
    return [⟨1, pixel, convertCode p (ShaderFloat.ofUint yTop.1) c00⟩,
      ⟨1, shift pixel 1#32 0#32, convertCode p (ShaderFloat.ofUint yTop.2) c10⟩,
      ⟨1, shift pixel 0#32 1#32, convertCode p (ShaderFloat.ofUint yBottom.1) c01⟩,
      ⟨1, shift pixel 1#32 1#32, convertCode p (ShaderFloat.ofUint yBottom.2) c11⟩]

/-! ## `nv12_planes.comp` -/

/-- A byte as a texel of an 8-bit normalised image. -/
def unorm (code : Uint) : F := ShaderFloat.ofUint code / 255.0

/-- One invocation of `nv12_planes.comp`. -/
def nv12PlanesComp (p : Parameters) (source : Texels) (block : IVec2) :
    Option (List (ImageStore F)) :=
  let pixel := (block.1 * 2#32, block.2 * 2#32)
  if p.width.sle pixel.1 || p.height.sle pixel.2 then some []
  else do
    let y0Offset := lumaAddress p pixel
    let y0 ← source.loadPair y0Offset
    let y1 ← source.loadPair (y0Offset + p.yPitch)
    let uv ← source.loadPair (chromaAddress p block)
    return [⟨1, pixel, (unorm y0.1, 0.0, 0.0, 1.0)⟩,
      ⟨1, shift pixel 1#32 0#32, (unorm y0.2, 0.0, 0.0, 1.0)⟩,
      ⟨1, shift pixel 0#32 1#32, (unorm y1.1, 0.0, 0.0, 1.0)⟩,
      ⟨1, shift pixel 1#32 1#32, (unorm y1.2, 0.0, 0.0, 1.0)⟩,
      ⟨2, block, (unorm uv.1, unorm uv.2, 0.0, 1.0)⟩]

/-- The stores of a dispatch over the workgroups of a staging. -/
def runStaging (main : IVec2 → Option (List (ImageStore F))) (dimensions : UInt32 × UInt32) :
    Option (List (ImageStore F)) :=
  let groups := nv12Dispatch dimensions
  Dispatch.run (Dispatch.invocations (groups.1.toNat, groups.2.toNat) (16, 16)) fun id =>
    main (.ofNat 32 id.1, .ofNat 32 id.2)

end

end VideoInterop.Vulkan
