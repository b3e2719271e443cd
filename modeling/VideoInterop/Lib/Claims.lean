import Mathlib.Data.List.Basic
import Mathlib.Logic.Function.Basic

/-!
# Claims

Shared objects, each with a flag that says whether it is claimed.  A claim turns
the flag on and hands out a lease; a release of the lease turns it off again.
Claiming is one atomic operation.  Releasing is two: the first marks the lease,
so that only one release of it goes on, the second clears the flag.  A lease that
is released may live on until it is forgotten.

`Claims.Sound` ties flags to leases, and every operation keeps it: an object is
claimed if and only if a lease on it is held or on the way to being released, and
there is never more than one such lease.
-/

namespace VideoInterop

/-- How far the release of a lease has come. -/
inductive LeasePhase where
  | held
  /-- Marked, with the flag still to be cleared. -/
  | releasing
  | released
  /-- Released, and no longer there. -/
  | gone
deriving DecidableEq

/-- A lease on an object. -/
structure Lease where
  /-- The number of the object. -/
  target : Nat
  /-- How far its release has come. -/
  phase : LeasePhase
deriving DecidableEq

/-- The flags of all objects and the leases made so far, oldest first. -/
structure Claims where
  /-- The flag of each object. -/
  claimed : Nat → Bool
  /-- The leases made so far, oldest first. -/
  leases : List Lease

namespace Claims

/-- Nothing is claimed. -/
def empty : Claims := ⟨fun _ => false, []⟩

/-- Claim an object that is not claimed.  The lease is the last one of the result. -/
def claim (c : Claims) (i : Nat) : Option Claims :=
  if c.claimed i then none
  else some ⟨Function.update c.claimed i true, c.leases ++ [⟨i, .held⟩]⟩

/-- The number of the lease a claim makes. -/
def next (c : Claims) : Nat := c.leases.length

/-- Mark a lease as released.  Only the first time does anything. -/
def mark (c : Claims) (k : Nat) : Claims :=
  match c.leases[k]? with
  | some ⟨i, .held⟩ => { c with leases := c.leases.set k ⟨i, .releasing⟩ }
  | _ => c

/-- Clear the flag for the release that marked the lease. -/
def clear (c : Claims) (k : Nat) : Claims :=
  match c.leases[k]? with
  | some ⟨i, .releasing⟩ =>
    ⟨Function.update c.claimed i false, c.leases.set k ⟨i, .released⟩⟩
  | _ => c

/-- Drop a lease after its release. -/
def forget (c : Claims) (k : Nat) : Claims :=
  match c.leases[k]? with
  | some ⟨i, .released⟩ => { c with leases := c.leases.set k ⟨i, .gone⟩ }
  | _ => c

/-- Release a lease and drop it, with nothing in between. -/
def drop (c : Claims) (k : Nat) : Claims := ((c.mark k).clear k).forget k

/-- The leases on an object that are still there. -/
def alive (c : Claims) (i : Nat) : List Lease :=
  c.leases.filter fun l => l.target = i ∧ l.phase ≠ .gone

/-- A lease is not released, or its release has yet to clear the flag. -/
def Owns (c : Claims) (k i : Nat) : Prop :=
  c.leases[k]? = some ⟨i, .held⟩ ∨ c.leases[k]? = some ⟨i, .releasing⟩

/-- Flags and leases agree. -/
structure Sound (c : Claims) : Prop where
  /-- A flag is on when a lease owns the object. -/
  flag : ∀ i, c.claimed i = true ↔ ∃ k, c.Owns k i
  /-- No two leases own one object. -/
  unique : ∀ {k k' i}, c.Owns k i → c.Owns k' i → k = k'

theorem empty_sound : empty.Sound where
  flag := by
    intro i
    refine ⟨nofun, ?_⟩
    rintro ⟨k, h | h⟩ <;> cases h
  unique := by
    rintro k k' i (h | h) <;> cases h

/-! ## Claiming -/

variable {c c' : Claims} {i j k k' : Nat}

theorem claim_eq_some : c.claim i = some c' ↔ c.claimed i = false ∧
    c' = ⟨Function.update c.claimed i true, c.leases ++ [⟨i, .held⟩]⟩ := by
  rw [claim]
  cases c.claimed i <;> simp [eq_comm]

/-- A claim fails only on a claimed object. -/
theorem claim_eq_none : c.claim i = none ↔ c.claimed i = true := by
  rw [claim]
  cases c.claimed i <;> simp

theorem next_claim (h : c.claim i = some c') :
    c'.leases[c.next]? = some ⟨i, .held⟩ ∧ c'.next = c.next + 1 := by
  obtain ⟨-, rfl⟩ := claim_eq_some.mp h
  simp [next]

/-- A claim leaves the other leases alone. -/
theorem leases_claim (h : c.claim i = some c') (hk : k ≠ c.next) :
    c'.leases[k]? = c.leases[k]? := by
  obtain ⟨-, rfl⟩ := claim_eq_some.mp h
  by_cases hlt : k < c.leases.length
  · exact List.getElem?_append_left hlt
  · rw [next] at hk
    rw [List.getElem?_eq_none (by simp; omega), List.getElem?_eq_none (by omega)]

theorem owns_claim (h : c.claim i = some c') :
    c'.Owns k j ↔ k = c.next ∧ j = i ∨ c.Owns k j := by
  by_cases hk : k = c.next
  · have hold : c.leases[k]? = none := by
      rw [hk, next]
      exact List.getElem?_eq_none (Nat.le_refl _)
    simp [Owns, hk, (next_claim h).1, hk ▸ hold, eq_comm]
  · simp [Owns, leases_claim h hk, hk]

theorem Sound.claim (hc : c.Sound) (h : c.claim i = some c') : c'.Sound := by
  have hfree : ∀ k, ¬ c.Owns k i := fun k hk => by
    have hflag := (hc.flag i).mpr ⟨k, hk⟩
    rw [(claim_eq_some.mp h).1] at hflag
    cases hflag
  constructor
  · intro j
    simp only [owns_claim h]
    obtain ⟨-, rfl⟩ := claim_eq_some.mp h
    show Function.update c.claimed i true j = true ↔ _
    by_cases hj : j = i
    · rw [hj, Function.update_self]
      exact ⟨fun _ => ⟨_, .inl ⟨rfl, rfl⟩⟩, fun _ => rfl⟩
    · rw [Function.update_of_ne hj, hc.flag]
      exact exists_congr fun k => ⟨.inr, fun hk => hk.resolve_left fun hk => hj hk.2⟩
  · intro k k' j hk hk'
    rcases (owns_claim h).mp hk with ⟨rfl, rfl⟩ | hk
    · rcases (owns_claim h).mp hk' with ⟨rfl, -⟩ | hk'
      · rfl
      · exact absurd hk' (hfree k')
    · rcases (owns_claim h).mp hk' with ⟨rfl, rfl⟩ | hk'
      · exact absurd hk (hfree k)
      · exact hc.unique hk hk'

/-! ## Releasing -/

/-- What setting a lease does to the lookup of leases. -/
theorem getElem?_set {l l' : Lease} (h : c.leases[k]? = some l) (k' : Nat) :
    (c.leases.set k l')[k']? = if k' = k then some l' else c.leases[k']? := by
  obtain ⟨hlt, -⟩ := List.getElem?_eq_some_iff.mp h
  rw [List.getElem?_set]
  by_cases hk : k = k'
  · rw [if_pos hk, if_pos hk.symm, if_pos hlt]
  · rw [if_neg hk, if_neg (Ne.symm hk)]

/-- Marking a lease changes no flag. -/
@[simp] theorem claimed_mark : (c.mark k).claimed = c.claimed := by
  rw [mark]
  split <;> rfl

/-- Nor does forgetting one. -/
@[simp] theorem claimed_forget : (c.forget k).claimed = c.claimed := by
  rw [forget]
  split <;> rfl

theorem clear_of_ne (h : ∀ i, c.leases[k]? ≠ some ⟨i, .releasing⟩) : c.clear k = c := by
  rw [clear]
  split
  · next i heq => exact absurd heq (h i)
  · rfl

theorem owns_mark : (c.mark k).Owns k' j ↔ c.Owns k' j := by
  rw [mark]
  split
  · next i heq =>
    simp only [Owns, getElem?_set heq]
    by_cases hk : k' = k
    · subst hk
      simp [heq]
    · simp [hk]
  · rfl

theorem owns_forget : (c.forget k).Owns k' j ↔ c.Owns k' j := by
  rw [forget]
  split
  · next i heq =>
    simp only [Owns, getElem?_set heq]
    by_cases hk : k' = k
    · subst hk
      simp [heq]
    · simp [hk]
  · rfl

/-- A release that clears the flag no longer owns the object. -/
theorem owns_clear (h : c.leases[k]? = some ⟨i, .releasing⟩) :
    (c.clear k).Owns k' j ↔ c.Owns k' j ∧ k' ≠ k := by
  rw [clear, h]
  simp only [Owns, getElem?_set h]
  by_cases hk : k' = k
  · subst hk
    simp
  · simp [hk]

theorem claimed_clear (h : c.leases[k]? = some ⟨i, .releasing⟩) :
    (c.clear k).claimed = Function.update c.claimed i false := by
  rw [clear, h]

theorem Sound.mark (hc : c.Sound) : (c.mark k).Sound where
  flag := fun j => by simp only [claimed_mark, owns_mark, hc.flag j]
  unique := fun hk hk' => hc.unique (owns_mark.mp hk) (owns_mark.mp hk')

theorem Sound.forget (hc : c.Sound) : (c.forget k).Sound where
  flag := fun j => by simp only [claimed_forget, owns_forget, hc.flag j]
  unique := fun hk hk' => hc.unique (owns_forget.mp hk) (owns_forget.mp hk')

theorem Sound.clear (hc : c.Sound) : (c.clear k).Sound := by
  by_cases h : ∃ i, c.leases[k]? = some ⟨i, .releasing⟩
  · obtain ⟨i, h⟩ := h
    constructor
    · intro j
      rw [claimed_clear h]
      simp only [owns_clear h]
      by_cases hj : j = i
      · -- The flag is cleared, and its one owner was this lease.
        rw [hj, Function.update_self]
        refine ⟨nofun, ?_⟩
        rintro ⟨k', hown, hk⟩
        exact absurd (hc.unique hown (.inr h)) hk
      · rw [Function.update_of_ne hj, hc.flag]
        refine exists_congr fun k' => ⟨fun hown => ⟨hown, ?_⟩, And.left⟩
        rintro rfl
        rcases hown with hown | hown
        · cases h.symm.trans hown
        · cases h.symm.trans hown
          exact hj rfl
    · intro k₁ k₂ j h₁ h₂
      exact hc.unique ((owns_clear h).mp h₁).1 ((owns_clear h).mp h₂).1
  · rwa [clear_of_ne (not_exists.mp h)]

/-- Clearing a flag takes it from no lease but the one released. -/
theorem Sound.clear_own (hc : c.Sound) (h : c.leases[k]? = some ⟨i, .releasing⟩) (j : Nat) :
    (c.clear k).claimed j ≠ c.claimed j → c.Owns k j ∧ ∀ k', c.Owns k' j → k' = k := by
  rw [claimed_clear h]
  intro hne
  by_cases hj : j = i
  · subst hj
    exact ⟨.inr h, fun k' hk' => hc.unique hk' (.inr h)⟩
  · exact absurd (Function.update_of_ne hj _ _) hne

/-! ## Steps -/

/-- What one atomic operation of the release of a lease does. -/
inductive Release (c : Claims) (k : Nat) : Claims → Prop
  | mark : Release c k (c.mark k)
  | clear : Release c k (c.clear k)
  | forget : Release c k (c.forget k)

/-- What one atomic operation does. -/
inductive Step (c : Claims) : Claims → Prop
  | same : Step c c
  | claim {i : Nat} {c' : Claims} (h : c.claim i = some c') : Step c c'
  | release {k : Nat} {c' : Claims} (h : c.Release k c') : Step c c'

theorem Step.sound (h : c.Step c') (hc : c.Sound) : c'.Sound := by
  cases h with
  | same => exact hc
  | claim h => exact hc.claim h
  | release h =>
    cases h with
    | mark => exact hc.mark
    | clear => exact hc.clear
    | forget => exact hc.forget

/-- A release moves its lease on, or changes nothing. -/
theorem Release.cases (h : c.Release k c') :
    c'.leases = c.leases ∨ ∃ l l', c.leases[k]? = some l ∧ c'.leases = c.leases.set k l' ∧
      l'.target = l.target ∧ (l.phase = .held ∧ l'.phase = .releasing ∨
        l.phase = .releasing ∧ l'.phase = .released ∨ l.phase = .released ∧ l'.phase = .gone) := by
  cases h with
  | mark =>
    rw [Claims.mark]
    split
    · next i heq => exact .inr ⟨_, _, heq, rfl, rfl, .inl ⟨rfl, rfl⟩⟩
    · exact .inl rfl
  | clear =>
    rw [Claims.clear]
    split
    · next i heq => exact .inr ⟨_, _, heq, rfl, rfl, .inr (.inl ⟨rfl, rfl⟩)⟩
    · exact .inl rfl
  | forget =>
    rw [Claims.forget]
    split
    · next i heq => exact .inr ⟨_, _, heq, rfl, rfl, .inr (.inr ⟨rfl, rfl⟩)⟩
    · exact .inl rfl

theorem Release.length (h : c.Release k c') : c'.leases.length = c.leases.length := by
  rcases h.cases with h | ⟨l, l', -, h, -⟩
  · rw [h]
  · rw [h, List.length_set]

/-- A release leaves other leases alone. -/
theorem Release.leases_of_ne (h : c.Release k c') (hk : k' ≠ k) :
    c'.leases[k']? = c.leases[k']? := by
  rcases h.cases with h | ⟨l, l', -, h, -⟩
  · rw [h]
  · rw [h, List.getElem?_set_ne (Ne.symm hk)]

/-- A release turns no flag on. -/
theorem Release.claimed (h : c.Release k c') (hi : c'.claimed i = true) : c.claimed i = true := by
  cases h with
  | mark => rwa [claimed_mark] at hi
  | forget => rwa [claimed_forget] at hi
  | clear =>
    by_cases hk : ∃ j, c.leases[k]? = some ⟨j, .releasing⟩
    · obtain ⟨j, hk⟩ := hk
      rw [claimed_clear hk] at hi
      by_cases hij : i = j
      · rw [hij, Function.update_self] at hi
        cases hi
      · rwa [Function.update_of_ne hij] at hi
    · rwa [clear_of_ne (not_exists.mp hk)] at hi

/-- A lease that is there after a release was there before. -/
theorem Release.alive (h : c.Release k c') {phase : LeasePhase}
    (hk : c'.leases[k']? = some ⟨i, phase⟩) (hphase : phase ≠ .gone) :
    ∃ phase', c.leases[k']? = some ⟨i, phase'⟩ ∧ phase' ≠ .gone := by
  by_cases hne : k' = k
  · subst hne
    rcases h.cases with heq | ⟨⟨j, was⟩, ⟨j', now⟩, hl, heq, htarget, hphases⟩
    · exact ⟨phase, heq ▸ hk, hphase⟩
    · rw [heq, List.getElem?_set_self (List.getElem?_eq_some_iff.mp hl).1] at hk
      cases hk
      cases htarget
      refine ⟨was, hl, ?_⟩
      rintro rfl
      rcases hphases with ⟨h, -⟩ | ⟨h, -⟩ | ⟨h, -⟩ <;> cases h
  · exact ⟨phase, h.leases_of_ne hne ▸ hk, hphase⟩

/-- A release makes no lease hold an object. -/
theorem Release.owns (h : c.Release k c') (hk : c'.Owns k' i) : c.Owns k' i := by
  cases h with
  | mark => exact owns_mark.mp hk
  | forget => exact owns_forget.mp hk
  | clear =>
    by_cases h : ∃ j, c.leases[k]? = some ⟨j, .releasing⟩
    · obtain ⟨j, h⟩ := h
      exact ((owns_clear h).mp hk).1
    · rwa [clear_of_ne (not_exists.mp h)] at hk

/-- A lease that is gone stays gone. -/
theorem Step.gone (h : c.Step c') (hk : c.leases[k]? = some ⟨i, .gone⟩) :
    c'.leases[k]? = some ⟨i, .gone⟩ := by
  cases h with
  | same => exact hk
  | claim h =>
    refine (leases_claim h ?_).trans hk
    rintro rfl
    rw [next, List.getElem?_eq_none (Nat.le_refl _)] at hk
    cases hk
  | @release k' _ h =>
    by_cases hne : k = k'
    · subst hne
      rcases h.cases with heq | ⟨l, l', hl, -, -, hphases⟩
      · rwa [heq]
      · cases hl.symm.trans hk
        rcases hphases with ⟨h, -⟩ | ⟨h, -⟩ | ⟨h, -⟩ <;> cases h
    · exact (h.leases_of_ne hne).trans hk

/-- A flag goes on with a new lease. -/
theorem Step.turned_on (h : c.Step c') (hoff : c.claimed i = false) (hon : c'.claimed i = true) :
    c.claim i = some c' := by
  have hsame : c'.claimed ≠ c.claimed := fun heq => by
    rw [heq, hoff] at hon
    cases hon
  cases h with
  | same => exact absurd rfl hsame
  | claim h =>
    have heq := (claim_eq_some.mp h).2
    rename_i j
    by_cases hij : i = j
    · rwa [hij]
    · rw [heq] at hon
      exact absurd ((Function.update_of_ne hij _ _).symm.trans hon) (by rw [hoff]; decide)
  | release h =>
    have hwas := h.claimed hon
    rw [hoff] at hwas
    cases hwas

/-- A flag goes off with the release of its one lease. -/
theorem Step.turned_off (h : c.Step c') (hc : c.Sound) (hon : c.claimed i = true)
    (hoff : c'.claimed i = false) : ∃ k, c' = c.clear k ∧
      c.leases[k]? = some ⟨i, .releasing⟩ ∧ ∀ k', c.Owns k' i → k' = k := by
  have hsame : c'.claimed ≠ c.claimed := fun heq => by
    rw [heq, hon] at hoff
    cases hoff
  cases h with
  | same => exact absurd rfl hsame
  | claim h =>
    rename_i j
    have heq := (claim_eq_some.mp h).2
    rw [heq] at hoff
    by_cases hij : i = j
    · subst hij
      exact absurd ((Function.update_self i true c.claimed).symm.trans hoff) (by decide)
    · exact absurd ((Function.update_of_ne hij _ _).symm.trans hoff) (by rw [hon]; decide)
  | @release k _ h =>
    cases h with
    | mark => exact absurd claimed_mark hsame
    | clear =>
      by_cases hk : ∃ j, c.leases[k]? = some ⟨j, .releasing⟩
      · obtain ⟨j, hk⟩ := hk
        have hne : (c.clear k).claimed i ≠ c.claimed i := by
          rw [hon, hoff]
          decide
        obtain ⟨hown, hall⟩ := hc.clear_own hk i hne
        refine ⟨k, rfl, ?_, hall⟩
        rcases hown with hown | hown
        · cases hk.symm.trans hown
        · exact hown
      · rw [clear_of_ne (not_exists.mp hk)] at hsame
        exact absurd rfl hsame
    | forget => exact absurd claimed_forget hsame

/-- Releasing a lease again changes no flag. -/
theorem Release.claimed_released (h : c.Release k c')
    (hk : c.leases[k]? = some ⟨i, .released⟩ ∨ c.leases[k]? = some ⟨i, .gone⟩) :
    c'.claimed = c.claimed := by
  cases h with
  | mark => exact claimed_mark
  | clear =>
    refine congrArg Claims.claimed (clear_of_ne fun j hj => ?_)
    rcases hk with hk | hk
    · cases hk.symm.trans hj
    · cases hk.symm.trans hj
  | forget => exact claimed_forget

end Claims

end VideoInterop
