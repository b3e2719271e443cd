import Mathlib.Data.List.Basic

/-!
# Threads

A number of threads, each at a point of its program.  A turn moves one of them,
and new ones start at the end of the list.  Threads that are through stay in it,
so that a thread keeps its place.

Two rules serve for invariants.  What a quantity and the threads at certain points
have to do with each other is a matter of counting (`countP_turn`).  What holds of
every thread is shown for the one that moves, and for the others under what the
move does to the shared state (`forall_turn`).
-/

namespace VideoInterop.Threads

variable {π : Type} {threads : List π} {i : Nat} {p p' : π}

/-- Thread `i` moves from `p` to `p'`. -/
inductive Turn (threads : List π) (i : Nat) (p p' : π) : List π → Prop where
  | mk (h : threads[i]? = some p) : Turn threads i p p' (threads.set i p')

theorem Turn.mem {threads' : List π} (h : Turn threads i p p' threads') : p ∈ threads := by
  cases h with
  | mk hp => exact List.mem_of_getElem? hp

/-- Only the thread that moves is counted differently. -/
theorem countP_turn {threads' : List π} (f : π → Bool) (h : Turn threads i p p' threads') :
    threads'.countP f + (f p).toNat = threads.countP f + (f p').toNat := by
  cases h with
  | mk hp =>
      obtain ⟨hi, rfl⟩ := List.getElem?_eq_some_iff.mp hp
      have hle : (f threads[i]).toNat ≤ threads.countP f := by
        cases hf : f threads[i] with
        | false => exact Nat.zero_le _
        | true => exact List.countP_pos_iff.mpr ⟨_, List.getElem_mem hi, hf⟩
      have hone : ∀ b : Bool, (if b = true then 1 else 0) = b.toNat := by decide
      rw [List.countP_set hi, hone, hone]
      omega

/-- What holds of every thread after a move. -/
theorem forall_turn {threads' : List π} {P Q : π → Prop} (h : Turn threads i p p' threads')
    (hall : ∀ q ∈ threads, P q) (hself : P p → Q p') (hothers : ∀ q, P q → Q q) :
    ∀ q ∈ threads', Q q := by
  cases h with
  | mk hp =>
      intro q hq
      rcases List.mem_or_eq_of_mem_set hq with hold | rfl
      · exact hothers q (hall q hold)
      · exact hself (hall p (List.mem_of_getElem? hp))

/-- A thread at such a point is one of those counted. -/
theorem countP_pos {f : π → Bool} (hp : p ∈ threads) (hf : f p = true) : 0 < threads.countP f :=
  List.countP_pos_iff.mpr ⟨p, hp, hf⟩

/-- A new thread. -/
theorem countP_start (f : π → Bool) (threads : List π) (p : π) :
    (threads ++ [p]).countP f = threads.countP f + (f p).toNat := by
  rw [List.countP_append, List.countP_singleton]
  cases f p <;> rfl

/-- Threads at different points are counted apart. -/
theorem countP_add_le {f g h : π → Bool} (hf : ∀ p, f p = true → h p = true)
    (hg : ∀ p, g p = true → h p = true) (hfg : ∀ p, f p = true → g p = false) (threads : List π) :
    threads.countP f + threads.countP g ≤ threads.countP h := by
  induction threads with
  | nil => exact Nat.le_refl 0
  | cons p threads ih =>
      simp only [List.countP_cons]
      cases hfp : f p with
      | true =>
          simp only [hf p hfp, hfg p hfp, if_true, Bool.false_eq_true, if_false]
          omega
      | false =>
          cases hgp : g p with
          | true =>
              simp only [hg p hgp, if_true, Bool.false_eq_true, if_false]
              omega
          | false =>
              simp only [Bool.false_eq_true, if_false]
              split <;> omega

theorem forall_start {P : π → Prop} (hall : ∀ q ∈ threads, P q) (hp : P p) :
    ∀ q ∈ threads ++ [p], P q := by
  intro q hq
  rcases List.mem_append.mp hq with hq | hq
  · exact hall q hq
  · rw [List.mem_singleton.mp hq]
    exact hp

end VideoInterop.Threads
