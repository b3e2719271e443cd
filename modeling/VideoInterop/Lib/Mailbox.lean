import Mathlib.Data.List.Basic

/-!
# Selective receive

The clauses of a `receive` are a partial function.  It takes the first message
that some clause accepts out of the mailbox and leaves the others where they
are.
-/

namespace VideoInterop.Mailbox

variable {μ α : Type} {clause : μ → Option α} {box box' : List μ} {a : α}

/-- What the clauses make of the first message they accept, and the rest. -/
def receive (clause : μ → Option α) : List μ → Option (α × List μ)
  | [] => none
  | m :: rest =>
      match clause m with
      | some a => some (a, rest)
      | none => (receive clause rest).map fun (a, rest) => (a, m :: rest)

/-- The message that was received, and those that were passed over. -/
theorem receive_some (h : receive clause box = some (a, box')) :
    ∃ before m after, box = before ++ m :: after ∧ box' = before ++ after ∧ clause m = some a ∧
      ∀ x ∈ before, clause x = none := by
  induction box generalizing box' with
  | nil => cases h
  | cons m rest ih =>
      unfold receive at h
      cases hm : clause m with
      | some b =>
          rw [hm] at h
          cases h
          exact ⟨[], m, rest, rfl, rfl, hm, by simp⟩
      | none =>
          rw [hm] at h
          obtain ⟨⟨b, rest'⟩, hrest, heq⟩ := Option.map_eq_some_iff.mp h
          cases heq
          obtain ⟨before, n, after, rfl, rfl, hn, hbefore⟩ := ih hrest
          exact ⟨m :: before, n, after, rfl, rfl, hn, List.forall_mem_cons.mpr ⟨hm, hbefore⟩⟩

theorem receive_none : receive clause box = none ↔ ∀ m ∈ box, clause m = none := by
  induction box with
  | nil => simp [receive]
  | cons m rest ih =>
      rw [List.forall_mem_cons, ← ih, receive]
      cases clause m <;> simp

/-- What is left is part of what was there. -/
theorem receive_sublist (h : receive clause box = some (a, box')) : box'.Sublist box := by
  obtain ⟨before, m, after, rfl, rfl, -, -⟩ := receive_some h
  exact (List.Sublist.refl before).append (List.sublist_cons_self m after)

end VideoInterop.Mailbox
