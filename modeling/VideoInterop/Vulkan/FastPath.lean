import Mathlib
import VideoInterop.Vulkan.Staging

/-!
# The fast path of `nv12.comp`

Chroma sited left of a luma pair and midway between rows is the camera's case, and
`nv12.comp` has a path of its own for it: six chroma pairs serve the four pixels of a
block.  Every other siting goes through `reconstructedChroma`, which finds for each
pixel four pairs and two fractions.

Over exact arithmetic the two agree (`left_fast_path`).  The fractions of a block's
pixels are known (`Positioned`), and where one of them is zero or where a pixel shares
its pairs with another, six pairs are all there is.
-/

namespace VideoInterop.Vulkan

open VideoInterop.Words (Texels)

/-! ## Positions -/

/-- A chroma position: the coordinate of the pair before it, and how far it lies on the
way to the next pair. -/
structure Positioned (x : Rat) (low : BitVec 32) (fraction : Rat) : Prop where
  /-- The sample before the position. -/
  low : ShaderFloat.toInt (ShaderFloat.floor x) = low
  /-- How far past it the position is. -/
  fraction : ShaderFloat.fract x = fraction

/-- A whole number and a fraction. -/
theorem floor_eq {x fraction : Rat} {n : Int} (hx : x = n + fraction) (hpos : 0 ≤ fraction)
    (hlt : fraction < 1) : x.floor = n := by
  have hle : n ≤ x.floor := Rat.le_floor_iff.mpr (by linarith)
  have hgt : x.floor < n + 1 := Rat.floor_lt_iff.mpr (by push_cast; linarith)
  omega

theorem Positioned.of_eq {x fraction : Rat} {n : Int} {low : BitVec 32} (hx : x = n + fraction)
    (hpos : 0 ≤ fraction) (hlt : fraction < 1) (hlow : .ofInt 32 n = low) :
    Positioned x low fraction where
  low := by
    show BitVec.ofInt 32 ((x.floor : Rat)).floor = low
    rw [Rat.floor_intCast, floor_eq hx hpos hlt, hlow]
  fraction := by
    show x - (x.floor : Rat) = fraction
    rw [floor_eq hx hpos hlt, hx]
    linarith

/-- The chroma position of a coordinate sited at its pair's first pixel. -/
def cositedPosition (i : BitVec 32) : Rat := ShaderFloat.ofInt i * 0.5

/-- The chroma position of a coordinate sited midway. -/
def midpointPosition (i : BitVec 32) : Rat := (ShaderFloat.ofInt i - 0.5) * 0.5

section
variable {b : BitVec 32} (hb : 2 * b.toNat + 1 < 2 ^ 31)
include hb

theorem double_toInt : (b * 2#32).toInt = 2 * b.toNat := by
  have hdouble : (b * 2#32).toNat = 2 * b.toNat := by
    rw [BitVec.toNat_mul, BitVec.toNat_ofNat]
    omega
  rw [BitVec.toInt_eq_toNat_of_lt (by omega), hdouble]
  push_cast
  rfl

theorem double_succ_toInt : (b * 2#32 + 1#32).toInt = 2 * b.toNat + 1 := by
  have hdouble : (b * 2#32 + 1#32).toNat = 2 * b.toNat + 1 := by
    rw [BitVec.toNat_add, BitVec.toNat_mul, BitVec.toNat_ofNat, BitVec.toNat_ofNat]
    omega
  rw [BitVec.toInt_eq_toNat_of_lt (by omega), hdouble]
  push_cast
  rfl

omit hb in
theorem ofInt_toNat : BitVec.ofInt 32 b.toNat = b := by
  rw [BitVec.ofInt_natCast, BitVec.ofNat_toNat, BitVec.setWidth_eq]

omit hb in
theorem ofInt_pred : BitVec.ofInt 32 (b.toNat - 1) = b - 1#32 := by
  have hone : BitVec.ofInt 32 (-1) = -1#32 := by decide
  rw [Int.sub_eq_add_neg, BitVec.ofInt_add, ofInt_toNat, hone, BitVec.sub_eq_add_neg]

/-- The first column of a block lies at a pair. -/
theorem cosited_first : Positioned (cositedPosition (b * 2#32)) b 0 := by
  have hx : cositedPosition (b * 2#32) = (b.toNat : Int) + (0 : Rat) := by
    show ((b * 2#32).toInt : Rat) * 0.5 = _
    rw [double_toInt hb]
    push_cast
    norm_num
    linarith
  exact .of_eq hx le_rfl one_pos ofInt_toNat

/-- The second lies midway to the next one. -/
theorem cosited_second : Positioned (cositedPosition (b * 2#32 + 1#32)) b 0.5 := by
  have hx : cositedPosition (b * 2#32 + 1#32) = (b.toNat : Int) + (0.5 : Rat) := by
    show ((b * 2#32 + 1#32).toInt : Rat) * 0.5 = _
    rw [double_succ_toInt hb]
    push_cast
    norm_num
    linarith
  exact .of_eq hx (by norm_num) (by norm_num) ofInt_toNat

/-- The first row of a block lies three quarters on the way from the row of pairs
above, which for the first block is outside the plane. -/
theorem midpoint_first : Positioned (midpointPosition (b * 2#32)) (b - 1#32) 0.75 := by
  have hx : midpointPosition (b * 2#32) = ((b.toNat - 1 : Int) : Rat) + 0.75 := by
    show (((b * 2#32).toInt : Rat) - 0.5) * 0.5 = _
    rw [double_toInt hb]
    push_cast
    norm_num
    linarith
  exact .of_eq hx (by norm_num) (by norm_num) ofInt_pred

/-- The second lies a quarter on the way to the row below. -/
theorem midpoint_second : Positioned (midpointPosition (b * 2#32 + 1#32)) b 0.25 := by
  have hx : midpointPosition (b * 2#32 + 1#32) = (b.toNat : Int) + (0.25 : Rat) := by
    show (((b * 2#32 + 1#32).toInt : Rat) - 0.5) * 0.5 = _
    rw [double_succ_toInt hb]
    push_cast
    norm_num
    linarith
  exact .of_eq hx (by norm_num) (by norm_num) ofInt_toNat

end

/-! ## Mixing -/

section
variable {m : Type → Type} [Monad m]

/-- Mix the four pairs around a position. -/
def bilinear (chroma : IVec2 → m (Rat × Rat)) (low : IVec2) (x y : Rat) : m (Rat × Rat) := do
  let top := mix (← chroma low) (← chroma (shift low 1#32 0#32)) x
  let bottom := mix (← chroma (shift low 0#32 1#32)) (← chroma (shift low 1#32 1#32)) x
  return mix top bottom y

/-- What the shader reconstructs at a pixel sited left and midway. -/
theorem reconstructedChroma_eq {p : Parameters} (hx : p.xChromaOffset = 0#32)
    (hy : p.yChromaOffset = 1#32) (chroma : IVec2 → m (Rat × Rat)) {pixel low : IVec2}
    {x y : Rat} (hcolumn : Positioned (cositedPosition pixel.1) low.1 x)
    (hrow : Positioned (midpointPosition pixel.2) low.2 y) :
    reconstructedChroma p chroma pixel = bilinear chroma low x y := by
  have hne : ¬ (1#32 : Uint) = 0#32 := by decide
  obtain ⟨hcolumn, hx'⟩ := hcolumn
  obtain ⟨hrow, hy'⟩ := hrow
  rw [cositedPosition] at hcolumn hx'
  rw [midpointPosition] at hrow hy'
  simp only [reconstructedChroma, hx, hy, if_true, if_neg hne, hcolumn, hx', hrow, hy']
  rfl

end

/-! ## The six pairs -/

/-- The chroma of a block's pixels, each reconstructed by itself. -/
def reconstructedBlock {m : Type → Type} [Monad m] (p : Parameters)
    (chroma : IVec2 → m (Rat × Rat)) (block : IVec2) :
    m ((Rat × Rat) × (Rat × Rat) × (Rat × Rat) × (Rat × Rat)) := do
  let pixel := (block.1 * 2#32, block.2 * 2#32)
  return (← reconstructedChroma p chroma pixel,
    ← reconstructedChroma p chroma (shift pixel 1#32 0#32),
    ← reconstructedChroma p chroma (shift pixel 0#32 1#32),
    ← reconstructedChroma p chroma (shift pixel 1#32 1#32))

theorem mix_zero (a b : Rat × Rat) : mix a b 0 = a := by
  obtain ⟨a₁, a₂⟩ := a
  show ((a₁ * (1 - 0) + b.1 * 0, a₂ * (1 - 0) + b.2 * 0) : Rat × Rat) = (a₁, a₂)
  simp

/-- Six pairs give the chroma that each pixel of the block would reconstruct. -/
theorem blockChroma_left {p : Parameters} (hx : p.xChromaOffset = 0#32)
    (hy : p.yChromaOffset = 1#32) (chroma : IVec2 → Option (Rat × Rat)) {column row : BitVec 32}
    (hcolumn : 2 * column.toNat + 1 < 2 ^ 31) (hrow : 2 * row.toNat + 1 < 2 ^ 31) :
    blockChroma p chroma (column, row) = reconstructedBlock p chroma (column, row) := by
  have hfirst : reconstructedChroma p chroma (column * 2#32, row * 2#32) =
      bilinear chroma (column, row - 1#32) 0 0.75 :=
    reconstructedChroma_eq hx hy chroma (cosited_first hcolumn) (midpoint_first hrow)
  have hsecond : reconstructedChroma p chroma (column * 2#32 + 1#32, row * 2#32) =
      bilinear chroma (column, row - 1#32) 0.5 0.75 :=
    reconstructedChroma_eq hx hy chroma (cosited_second hcolumn) (midpoint_first hrow)
  have hthird : reconstructedChroma p chroma (column * 2#32, row * 2#32 + 1#32) =
      bilinear chroma (column, row) 0 0.25 :=
    reconstructedChroma_eq hx hy chroma (cosited_first hcolumn) (midpoint_second hrow)
  have hfourth : reconstructedChroma p chroma (column * 2#32 + 1#32, row * 2#32 + 1#32) =
      bilinear chroma (column, row) 0.5 0.25 :=
    reconstructedChroma_eq hx hy chroma (cosited_second hcolumn) (midpoint_second hrow)
  have hback : row - 1#32 + 1#32 = row := BitVec.sub_add_cancel row 1#32
  have hnext : row - 1#32 + 2#32 = row + 1#32 := by
    rw [show (2#32 : BitVec 32) = 1#32 + 1#32 from rfl, ← BitVec.add_assoc, hback]
  simp only [reconstructedBlock, shift, BitVec.add_zero, hfirst, hsecond, hthird, hfourth,
    bilinear, blockChroma, hx, hy, and_self, if_true, mix_zero, hback, hnext]
  -- A pair that cannot be read fails both.
  cases chroma (column, row - 1#32) with
  | none => rfl
  | some a0 => cases chroma (column + 1#32, row - 1#32) with
    | none => rfl
    | some a1 => cases chroma (column, row) with
      | none => rfl
      | some b0 => cases chroma (column + 1#32, row) with
        | none => rfl
        | some b1 => cases chroma (column, row + 1#32) with
          | none => rfl
          | some d0 => cases chroma (column + 1#32, row + 1#32) with
            | none => rfl
            | some d1 => rfl

theorem reconstructedBlock_some (p : Parameters) (c : IVec2 → Rat × Rat) (block : IVec2) :
    reconstructedBlock p (fun location => some (c location)) block =
      some (reconstructedBlock (m := Id) p c block) := rfl

/-- **The fast path is the general one.**  On every block of the image, edges and
corners included, the six pairs give what each pixel would reconstruct, whatever the
buffer holds and whatever is in the chroma plane. -/
theorem left_fast_path {p : Parameters} (hwidth : 0 < p.width.toInt) (hheight : 0 < p.height.toInt)
    (hx : p.xChromaOffset = 0#32) (hy : p.yChromaOffset = 1#32) {block : IVec2}
    (hcolumn : 2 * block.1.toNat < p.width.toNat) (hrow : 2 * block.2.toNat < p.height.toNat) :
    (∀ source : Texels, blockChroma p (loadChroma (F := Rat) p source) block =
      reconstructedBlock p (loadChroma p source) block) ∧
    ∀ plane : IVec2 → Rat × Rat,
      blockChroma (m := Id) p (fun location => plane (clampChroma p location)) block =
        reconstructedBlock (m := Id) p (fun location => plane (clampChroma p location)) block := by
  have hsigned : ∀ {extent : Uint}, 0 < extent.toInt → extent.toNat < 2 ^ 31 := fun {extent} h => by
    rw [BitVec.toInt_eq_toNat_cond] at h
    split at h
    · omega
    · have hlt := extent.isLt
      omega
  have hwidth := hsigned hwidth
  have hheight := hsigned hheight
  have hcolumn' : 2 * block.1.toNat + 1 < 2 ^ 31 := by omega
  have hrow' : 2 * block.2.toNat + 1 < 2 ^ 31 := by omega
  refine ⟨fun source => blockChroma_left hx hy _ hcolumn' hrow', fun plane => ?_⟩
  have hsome := blockChroma_left hx hy (fun location => some (plane (clampChroma p location)))
    hcolumn' hrow'
  rw [blockChroma_some, reconstructedBlock_some] at hsome
  exact Option.some.inj hsome

/-- The constants of a four by two image. -/
def sampleParameters : Parameters :=
  ⟨4#32, 2#32, 0#32, 4#32, 8#32, 4#32, 0#32, 0#32, 1#32⟩

/-- Its last block. -/
def sampleBlock : IVec2 := (1#32, 0#32)

/-- A plane that shows where it is read. -/
def samplePlane (location : IVec2) : Rat × Rat := (location.1.toInt, location.2.toInt)

theorem left_fast_path_sample :
    blockChroma (m := Id) sampleParameters
        (fun location => samplePlane (clampChroma sampleParameters location)) sampleBlock =
      reconstructedBlock (m := Id) sampleParameters
        (fun location => samplePlane (clampChroma sampleParameters location)) sampleBlock := by
  have hwidth : 0 < sampleParameters.width.toInt := by decide
  have hheight : 0 < sampleParameters.height.toInt := by decide
  have hcolumn : 2 * sampleBlock.1.toNat < sampleParameters.width.toNat := by decide
  have hrow : 2 * sampleBlock.2.toNat < sampleParameters.height.toNat := by decide
  exact (left_fast_path hwidth hheight rfl rfl hcolumn hrow).2 samplePlane

end VideoInterop.Vulkan
