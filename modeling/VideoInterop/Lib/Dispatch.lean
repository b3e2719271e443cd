import Mathlib.Data.List.Nodup
import Mathlib.Data.List.ProdSigma

/-!
# Compute dispatches

A dispatch runs a shader once for every local id of every workgroup of a
two-dimensional grid.  `invocations` lists the global ids; `mem_invocations` and
`nodup_invocations` say that they cover the grid, each id once.

An invocation writes a list of stores or fails.  The invocations of a dispatch
may run in any order, so what a dispatch leaves at a place is well defined only
if one invocation writes there.  `gather` reads the stores at such a place.
-/

namespace VideoInterop.Dispatch

/-! ## Invocations -/

/-- The global ids along one axis: workgroup times size plus local id. -/
def lanes (groups size : Nat) : List Nat :=
  (List.range groups).flatMap fun group => (List.range size).map fun i => group * size + i

theorem lanes_eq (groups size : Nat) : lanes groups size = List.range (groups * size) := by
  induction groups with
  | zero => simp [lanes]
  | succ groups ih =>
      have hsnoc : lanes (groups + 1) size =
          lanes groups size ++ (List.range size).map fun i => groups * size + i := by
        rw [lanes, List.range_succ, List.flatMap_append, List.flatMap_singleton]
        rfl
      rw [hsnoc, ih, Nat.succ_mul, List.range_add]

/-- The global ids of a dispatch. -/
def invocations (groups size : Nat × Nat) : List (Nat × Nat) :=
  lanes groups.1 size.1 ×ˢ lanes groups.2 size.2

@[simp] theorem mem_invocations {groups size : Nat × Nat} {id : Nat × Nat} :
    id ∈ invocations groups size ↔ id.1 < groups.1 * size.1 ∧ id.2 < groups.2 * size.2 := by
  rw [invocations, List.mem_product, lanes_eq, lanes_eq, List.mem_range, List.mem_range]

theorem nodup_invocations (groups size : Nat × Nat) : (invocations groups size).Nodup := by
  rw [invocations, lanes_eq, lanes_eq]
  exact List.nodup_range.product List.nodup_range

/-! ## Stores -/

section
variable {α β γ : Type}

/-- Run every invocation and collect what they store. -/
def run (ids : List α) (main : α → Option (List β)) : Option (List β) :=
  (ids.mapM main).map List.flatten

/-- A dispatch none of whose invocations fails stores what they store. -/
theorem run_eq {ids : List α} {main : α → Option (List β)} {stores : α → List β}
    (h : ∀ id ∈ ids, main id = some (stores id)) : run ids main = some (ids.flatMap stores) := by
  have hmap : ids.mapM main = some (ids.map stores) := by
    induction ids with
    | nil => rfl
    | cons id ids ih =>
        rw [List.mapM_cons, h id List.mem_cons_self,
          ih fun other hother => h other (List.mem_cons_of_mem _ hother)]
        rfl
  rw [run, hmap, Option.map_some, List.flatMap_def]

/-- Where only one invocation writes, the dispatch leaves what it writes. -/
theorem gather [DecidableEq α] {ids : List α} (hnodup : ids.Nodup) (stores : α → List β)
    (place : β → Option γ) (home : α)
    (hother : ∀ id ∈ ids, id ≠ home → (stores id).filterMap place = []) :
    (ids.flatMap stores).filterMap place =
      if home ∈ ids then (stores home).filterMap place else [] := by
  induction ids with
  | nil => rfl
  | cons id ids ih =>
      obtain ⟨hnew, hnodup⟩ := List.nodup_cons.mp hnodup
      rw [List.flatMap_cons, List.filterMap_append,
        ih hnodup fun other hmem => hother other (List.mem_cons_of_mem _ hmem)]
      by_cases hid : id = home
      · subst hid
        rw [if_neg hnew, if_pos List.mem_cons_self, List.append_nil]
      · rw [hother id List.mem_cons_self hid, List.nil_append]
        have hmem : home ∈ id :: ids ↔ home ∈ ids := by
          rw [List.mem_cons]
          exact or_iff_right (Ne.symm hid)
        simp only [hmem]

end

end VideoInterop.Dispatch
