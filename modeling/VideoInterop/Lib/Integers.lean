import Mathlib

/-!
# Machine integers

The checked and saturating operations of the machine integers, and what they
compute in unbounded arithmetic.  The length of a byte vector is such an integer.
-/

namespace VideoInterop

/-- `u32::checked_add`. -/
def checkedAdd32 (a b : UInt32) : Option UInt32 :=
  if a.toNat + b.toNat < 2 ^ 32 then some (a + b) else none

theorem checkedAdd32_eq_some {a b c : UInt32} :
    checkedAdd32 a b = some c ↔ c.toNat = a.toNat + b.toNat := by
  have hc := c.toNat_lt
  rw [checkedAdd32]
  split
  · next h =>
    rw [Option.some.injEq, ← UInt32.toNat_inj, UInt32.toNat_add, Nat.mod_eq_of_lt h]
    exact eq_comm
  · next h => exact ⟨nofun, fun h' => by omega⟩

theorem checkedAdd32_eq_none {a b : UInt32} :
    checkedAdd32 a b = none ↔ 2 ^ 32 ≤ a.toNat + b.toNat := by
  simp [checkedAdd32]

/-- `u64::checked_add`. -/
def checkedAdd (a b : UInt64) : Option UInt64 :=
  if a.toNat + b.toNat < 2 ^ 64 then some (a + b) else none

theorem checkedAdd_eq_some {a b c : UInt64} :
    checkedAdd a b = some c ↔ c.toNat = a.toNat + b.toNat := by
  have hc := c.toNat_lt
  rw [checkedAdd]
  split
  · next h =>
    rw [Option.some.injEq, ← UInt64.toNat_inj, UInt64.toNat_add, Nat.mod_eq_of_lt h]
    exact eq_comm
  · next h => exact ⟨nofun, fun h' => by omega⟩

theorem checkedAdd_eq_none {a b : UInt64} :
    checkedAdd a b = none ↔ 2 ^ 64 ≤ a.toNat + b.toNat := by
  simp [checkedAdd]

/-- `u64::checked_mul`. -/
def checkedMul (a b : UInt64) : Option UInt64 :=
  if a.toNat * b.toNat < 2 ^ 64 then some (a * b) else none

theorem checkedMul_eq_some {a b c : UInt64} :
    checkedMul a b = some c ↔ c.toNat = a.toNat * b.toNat := by
  have hc := c.toNat_lt
  rw [checkedMul]
  split
  · next h =>
    rw [Option.some.injEq, ← UInt64.toNat_inj, UInt64.toNat_mul, Nat.mod_eq_of_lt h]
    exact eq_comm
  · next h => exact ⟨nofun, fun h' => by omega⟩

/-- `u32::saturating_sub(1)`. -/
def saturatingPred (n : UInt32) : UInt32 := if n = 0 then 0 else n - 1

theorem saturatingPred_toNat (n : UInt32) : (saturatingPred n).toNat = n.toNat - 1 := by
  have hn := n.toNat_lt
  rw [saturatingPred]
  split
  · next h => rw [h]; rfl
  · next h =>
    have hne : n.toNat ≠ 0 := fun h' => h (UInt32.toNat_inj.mp h')
    have hone : (1 : UInt32).toNat = 1 := rfl
    rw [UInt32.toNat_sub_of_le _ _ (by rw [UInt32.le_iff_toNat_le, hone]; omega), hone]

/-- A product of two 32-bit factors fits 64 bits. -/
theorem widening_mul_lt (a b : UInt32) : a.toNat * b.toNat < 2 ^ 64 := by
  have ha := a.toNat_lt
  have hb := b.toNat_lt
  calc a.toNat * b.toNat
      ≤ (2 ^ 32 - 1) * (2 ^ 32 - 1) := Nat.mul_le_mul (by omega) (by omega)
    _ < 2 ^ 64 := by decide

theorem widening_mul_toNat (a b : UInt32) :
    (a.toUInt64 * b.toUInt64).toNat = a.toNat * b.toNat := by
  rw [UInt64.toNat_mul, UInt32.toNat_toUInt64, UInt32.toNat_toUInt64]
  exact Nat.mod_eq_of_lt (widening_mul_lt a b)

/-- The bytes of a vector or a binary, of which there are fewer than `2 ^ 64`. -/
structure Bytes where
  /-- The bytes. -/
  list : List UInt8
  /-- Their number fits 64 bits. -/
  length_lt : list.length < 2 ^ 64
deriving DecidableEq

/-- `data.len() as u64`. -/
def Bytes.len (data : Bytes) : UInt64 := .ofNat data.list.length

@[simp] theorem Bytes.len_toNat (data : Bytes) : data.len.toNat = data.list.length :=
  UInt64.toNat_ofNat_of_lt' data.length_lt

end VideoInterop
