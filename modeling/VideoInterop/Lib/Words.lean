import Mathlib.Data.Nat.Bitwise
import Mathlib.Tactic.IntervalCases

/-!
# Words over bytes

A memory of bytes read as little-endian 32-bit words, and the read of two
neighbouring bytes at an address that need not be aligned.  The second byte may
lie in the next word, so `loadPair` fetches one word or two.

A fetch can fail: `Texels` has a length, and a fetch outside it, or at a
negative index, gives `none`.  `loadPair_eq` says that a pair load whose two
bytes lie inside the texels never fails, and which two bytes it returns.
-/

namespace VideoInterop.Words

/-! ## Words -/

/-- The little-endian word at index `k`. -/
def word (bytes : Nat → BitVec 8) (k : Nat) : BitVec 32 :=
  .ofNat 32 ((bytes (4 * k)).toNat + 2 ^ 8 * (bytes (4 * k + 1)).toNat +
    2 ^ 16 * (bytes (4 * k + 2)).toNat + 2 ^ 24 * (bytes (4 * k + 3)).toNat)

theorem word_toNat (bytes : Nat → BitVec 8) (k : Nat) :
    (word bytes k).toNat = (bytes (4 * k)).toNat + 2 ^ 8 * (bytes (4 * k + 1)).toNat +
      2 ^ 16 * (bytes (4 * k + 2)).toNat + 2 ^ 24 * (bytes (4 * k + 3)).toNat := by
  have h₀ := (bytes (4 * k)).isLt
  have h₁ := (bytes (4 * k + 1)).isLt
  have h₂ := (bytes (4 * k + 2)).isLt
  have h₃ := (bytes (4 * k + 3)).isLt
  rw [word, BitVec.toNat_ofNat, Nat.mod_eq_of_lt]
  omega

/-- The low byte of a word shifted right by `n` bits. -/
theorem lane_toNat (w : BitVec 32) (n : Nat) :
    ((w >>> n) &&& 255#32).toNat = w.toNat / 2 ^ n % 2 ^ 8 := by
  rw [BitVec.toNat_and, BitVec.toNat_ushiftRight, Nat.shiftRight_eq_div_pow]
  exact Nat.and_two_pow_sub_one_eq_mod _ 8

/-- A word holds its four bytes, the first lowest. -/
theorem word_lane (bytes : Nat → BitVec 8) (k : Nat) {j : Nat} (hj : j < 4) :
    (word bytes k >>> (8 * j)) &&& 255#32 = (bytes (4 * k + j)).setWidth 32 := by
  have h₀ := (bytes (4 * k)).isLt
  have h₁ := (bytes (4 * k + 1)).isLt
  have h₂ := (bytes (4 * k + 2)).isLt
  have h₃ := (bytes (4 * k + 3)).isLt
  refine BitVec.eq_of_toNat_eq ?_
  rw [lane_toNat, word_toNat, BitVec.toNat_setWidth]
  interval_cases j
  all_goals simp only [Nat.mul_zero, Nat.add_zero, Nat.mul_one, Nat.reduceMul, Nat.reducePow]
  all_goals omega

/-! ## Texels -/

/-- A run of words over a memory, as a shader sees it. -/
structure Texels where
  /-- How many words. -/
  count : Nat
  /-- The bytes under them. -/
  bytes : Nat → BitVec 8

/-- The word at a signed index, if there is one. -/
def Texels.fetch (t : Texels) (index : BitVec 32) : Option (BitVec 32) :=
  if 0 ≤ index.toInt ∧ index.toInt < t.count then some (word t.bytes index.toNat) else none

/-- The two bytes at an address and after it, each in a word of its own. -/
def Texels.loadPair (t : Texels) (offset : BitVec 32) : Option (BitVec 32 × BitVec 32) := do
  let shift := (offset &&& 3#32) * 8#32
  let word ← t.fetch (offset >>> 2)
  if shift ≤ 16#32 then
    return ((word >>> shift) &&& 255#32, (word >>> (shift + 8#32)) &&& 255#32)
  let nextWord ← t.fetch ((offset >>> 2) + 1#32)
  return ((word >>> 24) &&& 255#32, nextWord &&& 255#32)

/-- The byte at an address. -/
def Texels.loadByte (t : Texels) (offset : BitVec 32) : Option (BitVec 32) := do
  let word ← t.fetch (offset >>> 2)
  return (word >>> ((offset &&& 3#32) * 8#32)) &&& 255#32

variable {t : Texels}

/-- An index below the length is fetched, as long as indices are not negative. -/
theorem fetch_eq (hcount : t.count ≤ 2 ^ 30) (index : BitVec 32) (h : index.toNat < t.count) :
    t.fetch index = some (word t.bytes index.toNat) := by
  have hint : index.toInt = index.toNat := BitVec.toInt_eq_toNat_of_lt (by omega)
  rw [Texels.fetch, hint, if_pos ⟨by omega, by omega⟩]

/-- The shift that brings a byte of a word down. -/
theorem shift_toNat (offset : BitVec 32) :
    ((offset &&& 3#32) * 8#32).toNat = 8 * (offset.toNat % 4) := by
  have hand : (offset &&& 3#32).toNat = offset.toNat % 4 := by
    rw [BitVec.toNat_and]
    exact Nat.and_two_pow_sub_one_eq_mod _ 2
  rw [BitVec.toNat_mul, hand, BitVec.toNat_ofNat]
  omega

/-- A byte load returns the byte at its address. -/
theorem loadByte_eq (hcount : t.count ≤ 2 ^ 30) {offset : BitVec 32}
    (h : offset.toNat < 4 * t.count) :
    t.loadByte offset = some ((t.bytes offset.toNat).setWidth 32) := by
  have hword : (offset >>> 2).toNat = offset.toNat / 4 := by
    rw [BitVec.toNat_ushiftRight, Nat.shiftRight_eq_div_pow]
  have hsplit : 4 * (offset.toNat / 4) + offset.toNat % 4 = offset.toNat := Nat.div_add_mod _ 4
  have hfetch := fetch_eq hcount (offset >>> 2) (by omega)
  rw [hword] at hfetch
  simp only [Texels.loadByte, hfetch, Option.bind_eq_bind, Option.bind_some,
    BitVec.ushiftRight_eq', shift_toNat, Option.pure_def]
  rw [word_lane _ _ (Nat.mod_lt _ (by decide)), hsplit]

/-- A pair load returns the byte at its address and the next one. -/
theorem loadPair_eq (hcount : t.count ≤ 2 ^ 30) {offset : BitVec 32}
    (h : offset.toNat + 1 < 4 * t.count) :
    t.loadPair offset =
      some ((t.bytes offset.toNat).setWidth 32, (t.bytes (offset.toNat + 1)).setWidth 32) := by
  have hword : (offset >>> 2).toNat = offset.toNat / 4 := by
    rw [BitVec.toNat_ushiftRight, Nat.shiftRight_eq_div_pow]
  have hnext : ((offset >>> 2) + 1#32).toNat = offset.toNat / 4 + 1 := by
    rw [BitVec.toNat_add, hword, BitVec.toNat_ofNat]
    omega
  have hshift := shift_toNat offset
  have hlane : offset.toNat % 4 < 4 := Nat.mod_lt _ (by decide)
  have hsplit : 4 * (offset.toNat / 4) + offset.toNat % 4 = offset.toNat := Nat.div_add_mod _ 4
  have hfetch := fetch_eq hcount (offset >>> 2) (by omega)
  rw [hword] at hfetch
  by_cases hsame : offset.toNat % 4 ≤ 2
  · -- Both bytes lie in the word of the address.
    have hle : (offset &&& 3#32) * 8#32 ≤ 16#32 := by
      rw [BitVec.le_def, hshift]
      exact Nat.mul_le_mul_left 8 hsame
    have hshift' : ((offset &&& 3#32) * 8#32 + 8#32).toNat = 8 * (offset.toNat % 4 + 1) := by
      rw [BitVec.toNat_add, hshift, BitVec.toNat_ofNat]
      omega
    simp only [Texels.loadPair, hfetch, Option.bind_eq_bind, Option.bind_some, if_pos hle,
      BitVec.ushiftRight_eq', hshift, hshift', Option.pure_def]
    rw [word_lane _ _ hlane, word_lane _ _ (by omega), ← Nat.add_assoc, hsplit]
  · -- The address is the last byte of its word.
    have hgt : ¬ (offset &&& 3#32) * 8#32 ≤ 16#32 := by
      rw [BitVec.le_def, hshift, BitVec.toNat_ofNat]
      omega
    have hfetch' := fetch_eq hcount ((offset >>> 2) + 1#32) (by omega)
    rw [hnext] at hfetch'
    have hthird := word_lane t.bytes (offset.toNat / 4) (j := 3) (by decide)
    have hzeroth := word_lane t.bytes (offset.toNat / 4 + 1) (j := 0) (by decide)
    rw [Nat.mul_zero, BitVec.ushiftRight_zero] at hzeroth
    simp only [Texels.loadPair, hfetch, hfetch', Option.bind_eq_bind, Option.bind_some, if_neg hgt,
      Option.pure_def, hthird, hzeroth]
    rw [show 4 * (offset.toNat / 4) + 3 = offset.toNat by omega,
      show 4 * (offset.toNat / 4 + 1) + 0 = offset.toNat + 1 by omega]

/-! ## Packing -/

/-- The little-endian word of four bytes. -/
def pack (b₀ b₁ b₂ b₃ : BitVec 8) : BitVec 32 :=
  .ofNat 32 (b₀.toNat + 2 ^ 8 * b₁.toNat + 2 ^ 16 * b₂.toNat + 2 ^ 24 * b₃.toNat)

/-- Adding a byte above the bits of a word. -/
theorem or_shift_toNat {w : BitVec 32} {n : Nat} (hw : w.toNat < 2 ^ n) (b : BitVec 8)
    (hn : n ≤ 24) : (w ||| b.setWidth 32 <<< n).toNat = w.toNat + 2 ^ n * b.toNat := by
  have hb := b.isLt
  have hsmall : 2 ^ n * b.toNat < 2 ^ 32 :=
    calc 2 ^ n * b.toNat < 2 ^ n * 2 ^ 8 := Nat.mul_lt_mul_of_pos_left hb (Nat.two_pow_pos n)
      _ ≤ 2 ^ 24 * 2 ^ 8 := Nat.mul_le_mul_right _ (Nat.pow_le_pow_right Nat.two_pos hn)
  have hwide : (b.setWidth 32).toNat = b.toNat := by
    rw [BitVec.toNat_setWidth]
    omega
  rw [BitVec.toNat_or, BitVec.toNat_shiftLeft, hwide, Nat.shiftLeft_eq, Nat.mul_comm b.toNat,
    Nat.mod_eq_of_lt hsmall, Nat.or_comm, ← Nat.two_pow_add_eq_or_of_lt hw, Nat.add_comm]

/-- Four bytes put side by side. -/
theorem or_shifts_eq (b₀ b₁ b₂ b₃ : BitVec 8) :
    b₀.setWidth 32 ||| b₁.setWidth 32 <<< 8 ||| b₂.setWidth 32 <<< 16 ||| b₃.setWidth 32 <<< 24 =
      pack b₀ b₁ b₂ b₃ := by
  have h₀ := b₀.isLt
  have h₁ := b₁.isLt
  have h₂ := b₂.isLt
  have h₃ := b₃.isLt
  have hwide : (b₀.setWidth 32).toNat = b₀.toNat := by
    rw [BitVec.toNat_setWidth]
    omega
  have hone := or_shift_toNat (w := b₀.setWidth 32) (n := 8) (by rw [hwide]; exact h₀) b₁
    (by decide)
  rw [hwide] at hone
  have htwo := or_shift_toNat (n := 16) (by rw [hone]; omega) b₂ (by decide)
  rw [hone] at htwo
  have hthree := or_shift_toNat (n := 24) (by rw [htwo]; omega) b₃ (by decide)
  refine BitVec.eq_of_toNat_eq ?_
  rw [hthree, htwo, pack, BitVec.toNat_ofNat, Nat.mod_eq_of_lt]
  omega

end VideoInterop.Words
