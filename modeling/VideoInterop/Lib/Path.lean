import Mathlib.Algebra.Order.Group.Multiset
import Mathlib.Data.List.Induction

/-!
# Paths of a labelled transition system

A `Path step s visits t` is a finite run from `s` to `t` that records every step
it takes.  The record is what properties of runs are about: a property of every
state is an invariant, a property of the order of events is a property of the
list of visits.
-/

namespace VideoInterop

/-- A recorded step. -/
structure Visit (σ ι : Type) where
  /-- The state before. -/
  pre : σ
  /-- What happens. -/
  input : ι
  /-- The state after. -/
  post : σ

/-- A finite run. -/
inductive Path {σ ι : Type} (step : σ → ι → σ → Prop) (s : σ) : List (Visit σ ι) → σ → Prop where
  | nil : Path step s [] s
  | snoc {visits t i u} : Path step s visits t → step t i u → Path step s (visits ++ [⟨t, i, u⟩]) u

namespace Path

variable {σ ι : Type} {step : σ → ι → σ → Prop} {s t u : σ} {visits : List (Visit σ ι)}

/-- What holds at the start and is kept by every step holds at the end. -/
theorem invariant {P : σ → Prop} (hstep : ∀ s i t, P s → step s i t → P t) (hs : P s)
    (h : Path step s visits t) : P t := by
  induction h with
  | nil => exact hs
  | snoc _ hst ih => exact hstep _ _ _ ih hst

/-- A reflexive and transitive relation that every step respects relates the
ends of a path. -/
theorem rel {R : σ → σ → Prop} (hrefl : ∀ s, R s s) (htrans : ∀ {s t u}, R s t → R t u → R s u)
    (hstep : ∀ s i t, step s i t → R s t) (h : Path step s visits t) : R s t := by
  induction h with
  | nil => exact hrefl s
  | snoc _ hst ih => exact htrans ih (hstep _ _ _ hst)

theorem single {i : ι} (h : step s i t) : Path step s [⟨s, i, t⟩] t := .snoc .nil h

theorem append {visits' : List (Visit σ ι)} (h : Path step s visits t)
    (h' : Path step t visits' u) : Path step s (visits ++ visits') u := by
  induction h' with
  | nil => simpa using h
  | snoc _ hst ih =>
      rw [← List.append_assoc]
      exact ih.snoc hst

/-- A path through a visit is a path to it, its step and a path from it. -/
theorem split {before after : List (Visit σ ι)} {v : Visit σ ι}
    (h : Path step s (before ++ v :: after) t) :
    Path step s before v.pre ∧ step v.pre v.input v.post ∧ Path step v.post after t := by
  induction after using List.reverseRecOn generalizing t with
  | nil =>
      generalize hl : before ++ [v] = l at h
      cases h with
      | nil => simp at hl
      | snoc hp hst =>
          obtain ⟨rfl, hv⟩ := List.append_inj' hl rfl
          obtain rfl := List.cons.inj hv |>.1
          exact ⟨hp, hst, .nil⟩
  | append_singleton after w ih =>
      generalize hl : before ++ v :: (after ++ [w]) = l at h
      cases h with
      | nil => simp at hl
      | snoc hp hst =>
          rw [← List.cons_append, ← List.append_assoc] at hl
          obtain ⟨rfl, hw⟩ := List.append_inj' hl rfl
          obtain rfl := List.cons.inj hw |>.1
          obtain ⟨h₁, h₂, h₃⟩ := ih hp
          exact ⟨h₁, h₂, h₃.snoc hst⟩

theorem mem_split {v : Visit σ ι} (h : Path step s visits t) (hv : v ∈ visits) :
    ∃ before after, visits = before ++ v :: after ∧
      Path step s before v.pre ∧ step v.pre v.input v.post ∧ Path step v.post after t := by
  obtain ⟨before, after, rfl⟩ := List.append_of_mem hv
  exact ⟨before, after, rfl, h.split⟩

/-- What holds at the start and not at the end is lost in some step. -/
theorem exit {P : σ → Prop} (h : Path step s visits t) (hs : P s) (ht : ¬P t) :
    ∃ before v after, visits = before ++ v :: after ∧ P v.pre ∧ ¬P v.post ∧
      Path step s before v.pre ∧ step v.pre v.input v.post ∧ Path step v.post after t := by
  induction h with
  | nil => exact absurd hs ht
  | @snoc visits t i u hp hst ih =>
      by_cases hkept : P t
      · exact ⟨visits, ⟨t, i, u⟩, [], rfl, hkept, ht, hp, hst, .nil⟩
      · obtain ⟨before, v, after, rfl, hpre, hpost, hbefore, hstep, hafter⟩ := ih hkept
        exact ⟨before, v, after ++ [⟨t, i, u⟩], by simp, hpre, hpost, hbefore, hstep,
          hafter.snoc hst⟩

/-- The visits of some inputs, one after the other. -/
def follow (next : σ → ι → Option σ) (s : σ) : List ι → Option (List (Visit σ ι) × σ)
  | [] => some ([], s)
  | i :: inputs =>
      (next s i).bind fun t =>
        (follow next t inputs).map fun (visits, u) => (⟨s, i, t⟩ :: visits, u)

theorem of_follow {next : σ → ι → Option σ} {inputs : List ι}
    (h : follow next s inputs = some (visits, t)) :
    Path (fun s i t => next s i = some t) s visits t := by
  induction inputs generalizing s visits with
  | nil =>
      cases h
      exact .nil
  | cons i inputs ih =>
      obtain ⟨t₁, hnext, h⟩ := Option.bind_eq_some_iff.mp h
      obtain ⟨⟨visits', u⟩, hfollow, heq⟩ := Option.map_eq_some_iff.mp h
      cases heq
      exact append (.snoc .nil hnext) (ih hfollow)

end Path

/-- The one visit of a step, looked through. -/
theorem filterMap_one {α β : Type} (f : α → Option β) (a : α) : [a].filterMap f = (f a).toList := by
  cases h : f a <;> simp [h]

/-! ## Traces -/

theorem Multiset.coe_filterMap_cons {α β : Type} (f : α → Option β) (x : α) (xs : List α) :
    ((x :: xs).filterMap f : Multiset β) =
      ((f x).toList : Multiset β) + (xs.filterMap f : Multiset β) := by
  cases hf : f x <;> simp [hf]

/-- What is kept of every element in one pass is what two passes keep. -/
theorem Multiset.coe_filterMap_split {α β γ κ : Type} {f : α → Option β} {g : α → Option γ}
    {p : β → Option κ} {q : γ → Option κ} {h : α → Option κ}
    (hone : ∀ x, ((h x).toList : Multiset κ) =
      (((f x).bind p).toList : Multiset κ) + (((g x).bind q).toList : Multiset κ)) (xs : List α) :
    (xs.filterMap h : Multiset κ) =
      ((xs.filterMap f).filterMap p : Multiset κ) +
        ((xs.filterMap g).filterMap q : Multiset κ) := by
  rw [List.filterMap_filterMap, List.filterMap_filterMap]
  induction xs with
  | nil => rfl
  | cons x xs ih =>
      rw [coe_filterMap_cons, coe_filterMap_cons, coe_filterMap_cons, ih, hone, add_add_add_comm]

/-- A finite run of which only the labels are kept. -/
inductive Trace {σ ι : Type} (step : σ → ι → σ → Prop) : σ → List ι → σ → Prop where
  | nil {s} : Trace step s [] s
  | cons {s i t labels u} : step s i t → Trace step t labels u → Trace step s (i :: labels) u

namespace Trace

variable {σ ι : Type} {step : σ → ι → σ → Prop} {s t u : σ} {labels labels' : List ι}

theorem single {i : ι} (h : step s i t) : Trace step s [i] t := .cons h .nil

theorem append (h : Trace step s labels t) (h' : Trace step t labels' u) :
    Trace step s (labels ++ labels') u := by
  induction h with
  | nil => exact h'
  | cons hst _ ih => exact .cons hst (ih h')

/-- What every step keeps, a trace keeps. -/
theorem invariant {P : σ → Prop} (hstep : ∀ s i t, P s → step s i t → P t) (hs : P s)
    (h : Trace step s labels t) : P t := by
  induction h with
  | nil => exact hs
  | cons hst _ ih => exact ih (hstep _ _ _ hs hst)

/-- A trace of one system is a trace of another when every step of the first is
a step of the second or is not seen by it. -/
theorem project {τ κ : Type} {step' : τ → κ → τ → Prop} {f : σ → τ} {g : ι → Option κ}
    (hseen : ∀ s i t k, step s i t → g i = some k → step' (f s) k (f t))
    (hunseen : ∀ s i t, step s i t → g i = none → f t = f s) (h : Trace step s labels t) :
    Trace step' (f s) (labels.filterMap g) (f t) := by
  induction h with
  | nil => exact .nil
  | @cons s i t labels u hst _ ih =>
      cases hg : g i with
      | none =>
          rw [List.filterMap_cons_none hg, ← hunseen s i t hst hg]
          exact ih
      | some k =>
          rw [List.filterMap_cons_some hg]
          exact .cons (hseen s i t k hst hg) ih

/-- **Double entry**: when every step moves what its label says into a stock and
out of it, so does a trace. -/
theorem balance {α : Type} {stock : σ → Multiset α} {moved out : ι → Option α}
    (hstep : ∀ s i t, step s i t →
      stock t + ((out i).toList : Multiset α) = stock s + ((moved i).toList : Multiset α))
    (h : Trace step s labels t) :
    stock t + (labels.filterMap out : Multiset α) =
      stock s + (labels.filterMap moved : Multiset α) := by
  induction h with
  | nil => simp
  | @cons s i t labels u hst _ ih =>
      rw [Multiset.coe_filterMap_cons, Multiset.coe_filterMap_cons,
        add_left_comm, ih, ← add_assoc, add_comm _ (stock t), hstep _ _ _ hst,
        add_assoc]

/-- **A budget**: when no step spends more than it earns and has in stock, no
trace does. -/
theorem budget {α : Type} {stock : σ → Multiset α} {earned spent : ι → Option α}
    (hstep : ∀ s i t, step s i t →
      ((spent i).toList : Multiset α) + stock t ≤ ((earned i).toList : Multiset α) + stock s)
    (h : Trace step s labels t) :
    (labels.filterMap spent : Multiset α) + stock t ≤
      (labels.filterMap earned : Multiset α) + stock s := by
  induction h with
  | nil => simp
  | @cons s i t labels u hst _ ih =>
      rw [Multiset.coe_filterMap_cons, Multiset.coe_filterMap_cons]
      calc ((spent i).toList : Multiset α) + (labels.filterMap spent : Multiset α) + stock u
          = ((spent i).toList : Multiset α) + ((labels.filterMap spent : Multiset α) + stock u) :=
            add_assoc ..
        _ ≤ ((spent i).toList : Multiset α) + ((labels.filterMap earned : Multiset α) + stock t) :=
            add_le_add_right ih _
        _ = (labels.filterMap earned : Multiset α) + (((spent i).toList : Multiset α) + stock t) :=
            add_left_comm ..
        _ ≤ (labels.filterMap earned : Multiset α) + (((earned i).toList : Multiset α) + stock s) :=
            add_le_add_right (hstep _ _ _ hst) _
        _ = ((earned i).toList : Multiset α) +
          (labels.filterMap earned : Multiset α) + stock s := by
            rw [add_left_comm, add_assoc]

end Trace

end VideoInterop
