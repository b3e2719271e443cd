import Mathlib

/-!
# Rows

A plane of an image in memory: rows of one length, each a fixed stride after the
one before.  A validator decides with one inequality whether they fit; the lemmas
here say what that inequality means byte by byte.
-/

namespace VideoInterop

/-- Rows of `length` bytes, `stride` bytes apart. -/
structure Rows where
  /-- The first byte of the first row. -/
  offset : Nat
  /-- The bytes from one row to the next. -/
  stride : Nat
  /-- The bytes of a row. -/
  length : Nat
  /-- How many rows. -/
  count : Nat

namespace Rows

/-- The bytes of one row. -/
def row (r : Rows) (y : Nat) : Set Nat :=
  Set.Ico (r.offset + y * r.stride) (r.offset + y * r.stride + r.length)

/-- The bytes of all rows. -/
def bytes (r : Rows) : Set Nat := {a | ∃ y < r.count, a ∈ r.row y}

/-- The end of the last row. -/
def stop (r : Rows) : Nat := r.offset + r.stride * (r.count - 1) + r.length

/-- Every row lies in the first `size` bytes. -/
def Within (r : Rows) (size : Nat) : Prop := ∀ y < r.count, r.row y ⊆ Set.Iio size

/-- No two rows share a byte. -/
def Apart (r : Rows) : Prop :=
  ∀ y < r.count, ∀ y' < r.count, y ≠ y' → Disjoint (r.row y) (r.row y')

variable {r : Rows} {size : Nat}

theorem row_stop_le {y : Nat} (hy : y < r.count) :
    r.offset + y * r.stride + r.length ≤ r.stop := by
  have hstride : r.stride * y ≤ r.stride * (r.count - 1) := Nat.mul_le_mul_left _ (by omega)
  rw [Nat.mul_comm] at hstride
  simp only [stop]
  omega

theorem bytes_subset : r.bytes ⊆ Set.Ico r.offset r.stop := by
  intro a ha
  obtain ⟨y, hy, hrow⟩ := ha
  have hstop := row_stop_le hy
  have hlow := hrow.1
  have hhigh := hrow.2
  constructor
  · omega
  · omega

/-- Rows fit when the end of the last one does. -/
theorem within_of_stop_le (h : r.stop ≤ size) : r.Within size := by
  intro y hy a ha
  have hstop := row_stop_le hy
  have hhigh := ha.2
  show a < size
  omega

/-- Rows that are there and not empty fit only then. -/
theorem within_iff (hcount : 0 < r.count) (hlength : 0 < r.length) :
    r.Within size ↔ r.stop ≤ size := by
  constructor
  · intro h
    -- The last byte of the last row decides.
    have hlast : r.stop - 1 ∈ r.row (r.count - 1) := by
      have hcomm := Nat.mul_comm r.stride (r.count - 1)
      simp only [row, stop, Set.mem_Ico]
      omega
    have hlt : r.stop - 1 < size := h (r.count - 1) (by omega) hlast
    omega
  · exact within_of_stop_le

/-- Rows no longer than their stride lie apart. -/
theorem apart_of_length_le (h : r.length ≤ r.stride) : r.Apart := by
  have hbefore : ∀ {y y' : Nat}, y < y' → Disjoint (r.row y) (r.row y') := by
    intro y y' hlt
    have hnext : (y + 1) * r.stride ≤ y' * r.stride := Nat.mul_le_mul_right _ hlt
    rw [Nat.add_mul, Nat.one_mul] at hnext
    rw [Set.disjoint_left]
    intro a ha ha'
    have hhigh := ha.2
    have hlow := ha'.1
    omega
  intro y _ y' _ hne
  cases Nat.lt_or_gt_of_ne hne with
  | inl hlt => exact hbefore hlt
  | inr hgt => exact (hbefore hgt).symm

/-- Two planes lie apart when one ends before the other starts. -/
theorem disjoint_bytes {s : Rows} (h : r.stop ≤ s.offset ∨ s.stop ≤ r.offset) :
    Disjoint r.bytes s.bytes := by
  rw [Set.disjoint_left]
  intro a ha ha'
  have hr := bytes_subset ha
  have hs := bytes_subset ha'
  rw [Set.mem_Ico] at hr hs
  omega

end Rows

end VideoInterop
