import Mathlib.Data.List.Nodup
import Mathlib.Data.List.Perm.Basic

/-!
# Handles

A driver hands out handles, and whoever makes a handle has to end it.  What a
computation does to handles is a history of events, latest first.

`Ledger given es owned` says what a computation with the history `es` still owns.
The handles owned are sorted into bundles.  A bundle lists handles in the order in
which they can be destroyed: a handle depends on later ones of its own bundle only.
So the first handle of a bundle can always be destroyed, whatever else is owned, and
the bundles can be ended in any order.

The laws of a ledger follow from its rules.  What was made is owned or was ended, once
(`Ledger.balance`), and no handle was ended before those that depend on it
(`Ledger.ordered`).  A computation that owns nothing leaves nothing
(`Ledger.leavesNothing`).
-/

namespace VideoInterop

variable {H : Type}

/-- What happens to handles. -/
inductive HandleEvent (H : Type) where
  | make (h : H) (parents : List H)
  /-- A handle comes out of a pool.  It ends with the pool. -/
  | lend (h pool : H)
  /-- A handle that was made comes to depend on another. -/
  | bind (h parent : H)
  | destroy (h : H)
  /-- Someone else takes the handle over. -/
  | pass (h : H)
deriving DecidableEq

namespace HandleEvent

variable [DecidableEq H]

/-- Does the event make the handle? -/
def makes (h : H) : HandleEvent H → Bool
  | make x _ => x = h
  | _ => false

/-- Does it lend the handle? -/
def lends (h : H) : HandleEvent H → Bool
  | lend x _ => x = h
  | _ => false

/-- Does it destroy the handle or pass it on? -/
def ends (h : H) : HandleEvent H → Bool
  | destroy x | pass x => x = h
  | _ => false

end HandleEvent

open HandleEvent

/-- A handle depends on another since it was made, or since it was bound. -/
def DependsOn (es : List (HandleEvent H)) (h p : H) : Prop :=
  (∃ parents, .make h parents ∈ es ∧ p ∈ parents) ∨ .bind h p ∈ es

/-- A computation leaves nothing of what it made.  `given` handles are destroyed or
taken over, all others destroyed.  A handle out of a pool ends with its pool. -/
structure LeavesNothing [DecidableEq H] (given : H → Prop) (es : List (HandleEvent H)) : Prop where
  /-- What is made is ended once. -/
  ended : ∀ h parents, .make h parents ∈ es → es.countP (ends h) = 1
  /-- Only what was given is passed on; the rest is destroyed. -/
  destroyed : ∀ h, .pass h ∈ es → given h
  /-- A handle from a pool ends with it, later. -/
  pooled : ∀ h pool later earlier, es = later ++ .lend h pool :: earlier →
    es.countP (ends h) = 0 ∧ es.countP (ends pool) = 1 ∧ later.countP (ends pool) = 1
  /-- A handle is ended before those it depends on. -/
  ordered : ∀ h p e later earlier, DependsOn es h p → es = later ++ e :: earlier →
    ends p e = true → earlier.countP (ends h) = 1

/-- A handle was not ended, and if it is out of a pool, the pool was not. -/
def Alive [DecidableEq H] (es : List (HandleEvent H)) (h : H) : Prop :=
  es.countP (ends h) = 0 ∧ ∀ pool, .lend h pool ∈ es → es.countP (ends pool) = 0

/-! ## Bundles -/

/-- A handle is owned in the same bundle as one it depends on, and before it. -/
def Before (owned : List (List H)) (h p : H) : Prop := ∃ b ∈ owned, [h, p].Sublist b

section
variable {owned : List (List H)} {b : List H} {h p x : H}

/-- Bundles may grow. -/
theorem Before.mono {owned' : List (List H)} (hb : Before owned h p)
    (hgrow : ∀ b ∈ owned, ∃ b' ∈ owned', b.Sublist b') : Before owned' h p := by
  obtain ⟨b, hmem, hs⟩ := hb
  obtain ⟨b', hmem', hs'⟩ := hgrow b hmem
  exact ⟨b', hmem', hs.trans hs'⟩

/-- The first handle of a bundle has ended. -/
theorem Before.tail (hb : Before ((x :: b) :: owned) h p) (hx : x ≠ h) :
    Before (b :: owned) h p := by
  obtain ⟨c, hmem, hs⟩ := hb
  cases hmem with
  | head =>
      cases hs with
      | cons _ hs => exact ⟨b, .head _, hs⟩
      | cons_cons _ hs => exact absurd rfl hx
  | tail _ hmem => exact ⟨c, .tail _ hmem, hs⟩

/-- Nothing that is owned depends on the first handle of a bundle. -/
theorem not_before_head (hnodup : ((x :: b) :: owned).flatten.Nodup) :
    ¬ Before ((x :: b) :: owned) h x := by
  rintro ⟨c, hmem, hs⟩
  have hx := (List.nodup_cons.mp hnodup).1
  cases hmem with
  | head =>
      cases hs with
      | cons _ hs => exact hx (List.mem_append_left _ (hs.subset (by simp)))
      | cons_cons _ hs => exact hx (List.mem_append_left _ (hs.subset (by simp)))
  | tail _ hmem =>
      exact hx (List.mem_append_right _ (List.mem_flatten.mpr ⟨c, hmem, hs.subset (by simp)⟩))

end

/-! ## The ledger -/

/-- No event of a history brings the handle. -/
def Unknown [DecidableEq H] (es : List (HandleEvent H)) (h : H) : Prop :=
  ∀ e ∈ es, makes h e = false ∧ lends h e = false

/-- What a computation with this history owns.  Only handles that are `given` away
end without being destroyed. -/
inductive Ledger [DecidableEq H] (given : H → Prop) :
    List (HandleEvent H) → List (List H) → Prop
  | nil : Ledger given [] []
  | make {es : List (HandleEvent H)} {b : List H} {owned : List (List H)} {h : H}
      {parents : List H} (l : Ledger given es (b :: owned)) (hnew : Unknown es h)
      (hparents : ∀ p ∈ parents, p ∈ b) : Ledger given (.make h parents :: es) ((h :: b) :: owned)
  | lend {es : List (HandleEvent H)} {b : List H} {owned : List (List H)} {h pool : H}
      (l : Ledger given es (b :: owned)) (hnew : Unknown es h) (hpool : pool ∈ b) :
      Ledger given (.lend h pool :: es) (b :: owned)
  | bind {es : List (HandleEvent H)} {b c : List H} {owned : List (List H)} {h p : H}
      (l : Ledger given es ((h :: b) :: c :: owned)) (hp : p ∈ c) :
      Ledger given (.bind h p :: es) ((h :: (b ++ c)) :: owned)
  | destroy {es : List (HandleEvent H)} {b : List H} {owned : List (List H)} {h : H}
      (l : Ledger given es ((h :: b) :: owned)) : Ledger given (.destroy h :: es) (b :: owned)
  | pass {es : List (HandleEvent H)} {b : List H} {owned : List (List H)} {h : H}
      (l : Ledger given es ((h :: b) :: owned)) (hgiven : given h) :
      Ledger given (.pass h :: es) (b :: owned)
  | perm {es : List (HandleEvent H)} {owned owned' : List (List H)} (l : Ledger given es owned)
      (hperm : owned.Perm owned') : Ledger given es owned'
  | blank {es : List (HandleEvent H)} {owned : List (List H)} (l : Ledger given es owned) :
      Ledger given es ([] :: owned)
  | spent {es : List (HandleEvent H)} {owned : List (List H)} (l : Ledger given es ([] :: owned)) :
      Ledger given es owned

namespace Ledger

variable [DecidableEq H] {given : H → Prop} {es : List (HandleEvent H)} {owned : List (List H)}
  {h p : H}

/-! ## Balance -/

theorem count_of_unknown (hnew : Unknown es h) :
    es.countP (makes h) = 0 ∧ es.countP (lends h) = 0 :=
  ⟨List.countP_eq_zero.mpr fun e he => by simp [(hnew e he).1],
    List.countP_eq_zero.mpr fun e he => by simp [(hnew e he).2]⟩

/-- A handle was brought once, if at all. -/
theorem once (l : Ledger given es owned) (h : H) :
    es.countP (makes h) + es.countP (lends h) ≤ 1 := by
  induction l with
  | nil => simp
  | @make es b owned x parents l hnew hparents ih | @lend es b owned x parents l hnew hparents ih =>
      by_cases hx : x = h
      · subst hx
        simp [makes, lends, count_of_unknown hnew]
      · simpa [List.countP_cons, makes, lends, hx] using ih
  | bind _ _ ih | destroy _ ih | pass _ _ ih => simpa [List.countP_cons, makes, lends] using ih
  | perm _ _ ih | blank _ ih | spent _ ih => exact ih

/-- **A handle that was made is owned, or was ended, once.** -/
theorem balance (l : Ledger given es owned) (h : H) :
    es.countP (ends h) + owned.flatten.count h = es.countP (makes h) := by
  induction l with
  | nil => rfl
  | make _ _ _ ih | destroy _ ih | pass _ _ ih =>
      simp only [List.countP_cons, List.flatten_cons, List.cons_append, List.count_cons, makes,
        ends, decide_eq_true_eq, beq_iff_eq, Bool.false_eq_true, if_false] at ih ⊢
      omega
  | lend _ _ _ ih => simpa [List.countP_cons, makes, ends] using ih
  | bind _ _ ih =>
      simpa [List.countP_cons, makes, ends, List.count_append, List.count_cons, Nat.add_comm,
        Nat.add_left_comm, Nat.add_assoc] using ih
  | perm l hperm ih => rwa [← hperm.flatten.count_eq]
  | blank _ ih | spent _ ih => exact ih

/-- No handle is owned twice. -/
theorem nodup (l : Ledger given es owned) : owned.flatten.Nodup := by
  rw [List.nodup_iff_count]
  intro h
  have honce := l.once h
  have hbalance := l.balance h
  omega

/-- What is owned has not ended. -/
theorem not_ended (l : Ledger given es owned) (hh : h ∈ owned.flatten) :
    es.countP (ends h) = 0 := by
  have honce := l.once h
  have hbalance := l.balance h
  have hcount := List.count_pos_iff.mpr hh
  omega

/-- What was made and is not owned has ended once. -/
theorem ended_of_known (l : Ledger given es owned) (hmade : 0 < es.countP (makes h))
    (hh : h ∉ owned.flatten) : es.countP (ends h) = 1 := by
  have honce := l.once h
  have hbalance := l.balance h
  have hcount := List.count_eq_zero.mpr hh
  omega

theorem made {parents : List H} (hmake : .make h parents ∈ es) : 0 < es.countP (makes h) :=
  List.countP_pos_iff.mpr ⟨_, hmake, by simp [makes]⟩

/-- Only handles that were made come to depend on others. -/
theorem made_of_dependsOn (l : Ledger given es owned) (hdep : DependsOn es h p) :
    0 < es.countP (makes h) := by
  rcases hdep with ⟨parents, hmake, -⟩ | hbind
  · exact made hmake
  · induction l with
    | nil => cases hbind
    | make _ _ _ ih | lend _ _ _ ih | destroy _ ih | pass _ _ ih =>
        exact Nat.lt_of_lt_of_le (ih ((List.mem_cons.mp hbind).resolve_left nofun))
          (List.sublist_cons_self _ _).countP_le
    | @bind es b c owned x q l hq ih =>
        rcases List.mem_cons.mp hbind with heq | hbind
        · cases heq
          have hbalance := l.balance h
          have hcount := List.count_pos_iff.mpr (show h ∈ ((h :: b) :: c :: owned).flatten by simp)
          simp only [List.countP_cons, makes]
          omega
        · exact Nat.lt_of_lt_of_le (ih hbind) (List.sublist_cons_self _ _).countP_le
    | perm _ _ ih | blank _ ih | spent _ ih => exact ih hbind

/-! ## Dependence -/

theorem dependsOn_tail {e : HandleEvent H} (hdep : DependsOn (e :: es) h p)
    (hmake : makes h e = false) (hbind : e ≠ .bind h p) : DependsOn es h p := by
  rcases hdep with ⟨ps, hmem, hp⟩ | hmem
  · refine .inl ⟨ps, (List.mem_cons.mp hmem).resolve_left ?_, hp⟩
    rintro rfl
    simp [makes] at hmake
  · exact .inr ((List.mem_cons.mp hmem).resolve_left hbind.symm)

/-- A handle that is owned is owned before what it depends on. -/
theorem before (l : Ledger given es owned) (hdep : DependsOn es h p) (hh : h ∈ owned.flatten) :
    Before owned h p := by
  induction l with
  | nil => cases hh
  | @make es b owned x parents l hnew hparents ih =>
      by_cases hx : x = h
      · subst hx
        rcases hdep with ⟨ps, hmem, hp⟩ | hmem
        · rcases List.mem_cons.mp hmem with heq | hmem
          · cases heq
            exact ⟨_, .head _, (List.singleton_sublist.mpr (hparents p hp)).cons_cons _⟩
          · exact absurd (count_of_unknown hnew).1 (Nat.ne_of_gt (made hmem))
        · have hmade := l.made_of_dependsOn (.inr ((List.mem_cons.mp hmem).resolve_left nofun))
          exact absurd (count_of_unknown hnew).1 (Nat.ne_of_gt hmade)
      · have hold := ih (dependsOn_tail hdep (by simp [makes, hx]) nofun)
          ((List.mem_cons.mp hh).resolve_left (Ne.symm hx))
        refine hold.mono fun c hc => ?_
        cases hc with
        | head => exact ⟨_, .head _, List.sublist_cons_self _ _⟩
        | tail _ hc => exact ⟨c, .tail _ hc, .refl _⟩
  | lend l hnew hpool ih => exact ih (dependsOn_tail hdep rfl nofun) hh
  | @bind es b c owned x q l hq ih =>
      by_cases hbind : HandleEvent.bind x q = .bind h p
      · cases hbind
        exact ⟨_, .head _, (List.singleton_sublist.mpr (by simp [hq])).cons_cons _⟩
      · refine (ih (dependsOn_tail hdep rfl hbind) (by simpa using hh)).mono fun d hd => ?_
        rcases List.mem_cons.mp hd with rfl | hd
        · exact ⟨_, .head _, (List.sublist_append_left b c).cons_cons x⟩
        rcases List.mem_cons.mp hd with rfl | hd
        · exact ⟨_, .head _, (List.sublist_append_right b d).cons x⟩
        · exact ⟨d, .tail _ hd, .refl _⟩
  | destroy l ih | pass l _ ih =>
      have hx := (List.nodup_cons.mp l.nodup).1
      exact (ih (dependsOn_tail hdep rfl nofun) (List.mem_cons_of_mem _ hh)).tail
        fun heq => hx (heq ▸ hh)
  | perm l hperm ih =>
      exact (ih hdep (hperm.flatten.mem_iff.mpr hh)).mono fun b hb =>
        ⟨b, hperm.mem_iff.mp hb, .refl b⟩
  | blank _ ih => exact (ih hdep hh).mono fun b hb => ⟨b, .tail _ hb, .refl b⟩
  | spent _ ih =>
      obtain ⟨b, hb, hs⟩ := ih hdep hh
      cases hb with
      | head => cases hs
      | tail _ hb => exact ⟨b, hb, hs⟩

/-! ## Order -/

/-- A part of a history from its start has a ledger. -/
theorem suffix {later : List (HandleEvent H)} (l : Ledger given (later ++ es) owned) :
    ∃ owned', Ledger given es owned' := by
  generalize heq : later ++ es = es' at l
  induction l generalizing later with
  | nil =>
      obtain ⟨-, rfl⟩ := List.append_eq_nil_iff.mp heq
      exact ⟨_, .nil⟩
  | make l hnew hparents ih =>
      cases later with
      | nil =>
          cases heq
          exact ⟨_, .make l hnew hparents⟩
      | cons y later => exact ih (List.cons.inj heq).2
  | lend l hnew hpool ih =>
      cases later with
      | nil =>
          cases heq
          exact ⟨_, .lend l hnew hpool⟩
      | cons y later => exact ih (List.cons.inj heq).2
  | bind l hq ih =>
      cases later with
      | nil =>
          cases heq
          exact ⟨_, .bind l hq⟩
      | cons y later => exact ih (List.cons.inj heq).2
  | destroy l ih =>
      cases later with
      | nil =>
          cases heq
          exact ⟨_, .destroy l⟩
      | cons y later => exact ih (List.cons.inj heq).2
  | pass l hgiven ih =>
      cases later with
      | nil =>
          cases heq
          exact ⟨_, .pass l hgiven⟩
      | cons y later => exact ih (List.cons.inj heq).2
  | perm _ _ ih | blank _ ih | spent _ ih => exact ih heq

/-- A handle that ends is the first of a bundle. -/
theorem of_ends {e : HandleEvent H} (l : Ledger given (e :: es) owned) (he : ends p e = true) :
    ∃ b owned', Ledger given es ((p :: b) :: owned') := by
  generalize heq : e :: es = es' at l
  induction l with
  | nil => cases heq
  | make | lend | bind =>
      cases heq
      cases he
  | destroy l | pass l =>
      cases heq
      cases of_decide_eq_true he
      exact ⟨_, _, l⟩
  | perm _ _ ih | blank _ ih | spent _ ih => exact ih heq

/-- What a handle comes to depend on has not ended. -/
theorem of_make {parents : List H} (l : Ledger given (.make h parents :: es) owned)
    (hp : p ∈ parents) : es.countP (ends p) = 0 := by
  generalize heq : HandleEvent.make h parents :: es = es' at l
  induction l with
  | nil | lend | bind | destroy | pass => cases heq
  | make l _ hparents =>
      cases heq
      exact l.not_ended (List.mem_append_left _ (hparents p hp))
  | perm _ _ ih | blank _ ih | spent _ ih => exact ih heq

theorem of_bind (l : Ledger given (.bind h p :: es) owned) : es.countP (ends p) = 0 := by
  generalize heq : HandleEvent.bind h p :: es = es' at l
  induction l with
  | nil | make | lend | destroy | pass => cases heq
  | bind l hp =>
      cases heq
      exact l.not_ended (by simp [hp])
  | perm _ _ ih | blank _ ih | spent _ ih => exact ih heq

theorem of_pass (l : Ledger given (.pass h :: es) owned) : given h := by
  generalize heq : HandleEvent.pass h :: es = es' at l
  induction l with
  | nil | make | lend | bind | destroy => cases heq
  | pass _ hgiven =>
      cases heq
      exact hgiven
  | perm _ _ ih | blank _ ih | spent _ ih => exact ih heq

/-- A pool that lends a handle is owned. -/
theorem of_lend {pool : H} (l : Ledger given (.lend h pool :: es) owned) :
    0 < es.countP (makes pool) ∧ es.countP (ends pool) = 0 := by
  generalize heq : HandleEvent.lend h pool :: es = es' at l
  induction l with
  | nil | make | bind | destroy | pass => cases heq
  | @lend es b owned x pool' l _ hpool =>
      cases heq
      have hmem : pool ∈ (b :: owned).flatten := List.mem_append_left _ hpool
      have hbalance := l.balance pool
      have hcount := List.count_pos_iff.mpr hmem
      exact ⟨by omega, l.not_ended hmem⟩
  | perm _ _ ih | blank _ ih | spent _ ih => exact ih heq

/-- What ended was not depended on later. -/
theorem dependsOn_earlier {later earlier : List (HandleEvent H)} {e : HandleEvent H}
    (l : Ledger given (later ++ e :: earlier) owned) (hdep : DependsOn (later ++ e :: earlier) h p)
    (he : ends p e = true) : DependsOn earlier h p := by
  induction later generalizing owned with
  | nil =>
    exact dependsOn_tail hdep (by cases e <;> first | rfl | cases he)
      (by rintro rfl; cases he)
  | cons d later ih =>
      have hended : (later ++ e :: earlier).countP (ends p) ≠ 0 :=
        Nat.ne_of_gt (List.countP_pos_iff.mpr ⟨e, by simp, he⟩)
      have hcons : Ledger given ([d] ++ (later ++ e :: earlier)) owned := l
      obtain ⟨owned', hl⟩ := hcons.suffix
      refine ih hl ?_
      rcases hdep with ⟨parents, hmem, hp⟩ | hmem
      · rcases List.mem_cons.mp hmem with rfl | hmem
        · exact absurd (l.of_make hp) hended
        · exact .inl ⟨parents, hmem, hp⟩
      · rcases List.mem_cons.mp hmem with rfl | hmem
        · exact absurd l.of_bind hended
        · exact .inr hmem

/-- **No handle was ended before those that depend on it.** -/
theorem ordered {later earlier : List (HandleEvent H)} {e : HandleEvent H}
    (l : Ledger given (later ++ e :: earlier) owned) (hdep : DependsOn (later ++ e :: earlier) h p)
    (he : ends p e = true) : earlier.countP (ends h) = 1 := by
  obtain ⟨owned₁, hl₁⟩ := l.suffix
  obtain ⟨b, owned₂, hl⟩ := hl₁.of_ends he
  have hdep := l.dependsOn_earlier hdep he
  refine hl.ended_of_known (hl.made_of_dependsOn hdep) fun hh => ?_
  exact not_before_head hl.nodup (hl.before hdep hh)

/-! ## At the end -/

/-- What comes out of a pool is not ended itself. -/
theorem lent_not_ended (l : Ledger given es owned) (hlent : .lend h p ∈ es) :
    es.countP (ends h) = 0 := by
  have honce := l.once h
  have hbalance := l.balance h
  have hlends : 0 < es.countP (lends h) := List.countP_pos_iff.mpr ⟨_, hlent, by simp [lends]⟩
  omega

/-- **A computation that owns nothing leaves nothing.** -/
theorem leavesNothing (l : Ledger given es []) : LeavesNothing given es where
  ended := fun h parents hmake => l.ended_of_known (made hmake) List.not_mem_nil
  destroyed := fun h hpass => by
    obtain ⟨later, earlier, rfl⟩ := List.append_of_mem hpass
    obtain ⟨owned, hl⟩ := l.suffix
    exact hl.of_pass
  pooled := fun h pool later earlier heq => by
    subst heq
    obtain ⟨owned, hl⟩ := l.suffix
    obtain ⟨hmade, hnone⟩ := hl.of_lend
    have hended := l.ended_of_known (h := pool) (Nat.lt_of_lt_of_le hmade
      ((List.sublist_cons_self _ _).trans (List.sublist_append_right _ _)).countP_le)
      List.not_mem_nil
    refine ⟨l.lent_not_ended (p := pool) (by simp), hended, ?_⟩
    simpa [List.countP_append, List.countP_cons, ends, hnone] using hended
  ordered := fun h p e later earlier hdep heq he => by
    subst heq
    exact l.ordered hdep he

/-- What a computation still owns is alive. -/
theorem alive (l : Ledger given es owned) (hh : h ∈ owned.flatten) : Alive es h := by
  refine ⟨l.not_ended hh, fun pool hlent => ?_⟩
  have honce := l.once h
  have hbalance := l.balance h
  have hcount := List.count_pos_iff.mpr hh
  have hlends : 0 < es.countP (lends h) := List.countP_pos_iff.mpr ⟨_, hlent, by simp [lends]⟩
  omega

/-- A handle comes out of one pool. -/
theorem pool_unique {pool : H} (l : Ledger given es owned) (hlent : .lend h p ∈ es)
    (hother : .lend h pool ∈ es) : pool = p := by
  have hlength : (es.filter (lends h)).length ≤ 1 := by
    rw [← List.countP_eq_length_filter]
    exact Nat.le_trans (Nat.le_add_left _ _) (l.once h)
  have hp : HandleEvent.lend h p ∈ es.filter (lends h) :=
    List.mem_filter.mpr ⟨hlent, by simp [lends]⟩
  have hpool : HandleEvent.lend h pool ∈ es.filter (lends h) :=
    List.mem_filter.mpr ⟨hother, by simp [lends]⟩
  cases hes : es.filter (lends h) with
  | nil => simp [hes] at hp
  | cons e rest =>
      rw [hes] at hlength hp hpool
      obtain rfl : rest = [] := List.eq_nil_of_length_eq_zero (by simpa using hlength)
      cases List.mem_singleton.mp hp
      cases List.mem_singleton.mp hpool
      rfl

/-- So is what came out of a pool that it still owns. -/
theorem alive_lent (l : Ledger given es owned) (hlent : .lend h p ∈ es)
    (hpool : p ∈ owned.flatten) : Alive es h := by
  refine ⟨l.lent_not_ended hlent, fun pool hother => ?_⟩
  cases l.pool_unique hlent hother
  exact l.not_ended hpool

/-- What a computation still owns was left. -/
theorem not_leavesNothing (l : Ledger given es owned) (hh : h ∈ owned.flatten) :
    ¬ LeavesNothing given es := by
  intro hleft
  have hbalance := l.balance h
  have hcount := List.count_pos_iff.mpr hh
  obtain ⟨e, hmem, he⟩ := List.countP_pos_iff.mp (show 0 < es.countP (makes h) by omega)
  cases e with
  | make x parents =>
      cases of_decide_eq_true he
      have hended := hleft.ended _ _ hmem
      rw [l.not_ended hh] at hended
      cases hended
  | lend | bind | destroy | pass => cases he

end Ledger

end VideoInterop
