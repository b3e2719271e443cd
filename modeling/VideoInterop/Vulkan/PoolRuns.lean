import VideoInterop.Vulkan.OutputPool

/-!
# Sharing an output pool

Claims of slots come one after the other, under the lock of the pool, while leases
are released and dropped at any time.  `PoolInv` is what every operation of a claim
or a release keeps.  `OutputPool.secured_claim` is what a claim comes to, whatever is
released meanwhile.
-/

namespace VideoInterop.Vulkan

variable {S A : Type}

/-! ## The pool -/

/-- What every operation keeps. -/
structure PoolInv (maxSlots : Nat) (pool : OutputPool S A) : Prop where
  /-- The limit is the one given. -/
  limit : pool.maxSlots = maxSlots
  /-- There are no more slots. -/
  size : pool.slots.length ≤ maxSlots
  /-- Flags and leases agree. -/
  sound : pool.claims.Sound
  /-- The number of a slot is one of those made. -/
  made : ∀ slot ∈ pool.slots, slot.id < pool.made
  /-- The slot of a lease that is not released is in the pool. -/
  owned : ∀ {k i : Nat}, pool.claims.Owns k i → ∃ slot ∈ pool.slots, slot.id = i

theorem length_swapRemove {α : Type} {l : List α} {i : Nat} (h : i < l.length) :
    (swapRemove l i).length + 1 = l.length := by
  cases hl : l.getLast? with
  | none =>
    rw [List.getLast?_eq_none_iff] at hl
    rw [hl] at h
    cases h
  | some last =>
    simp only [swapRemove, hl, List.length_dropLast, List.length_set]
    omega

theorem mem_of_mem_swapRemove {α : Type} {l : List α} {i : Nat} {a : α} (h : a ∈ swapRemove l i) :
    a ∈ l := by
  rw [swapRemove] at h
  split at h
  · next last hlast =>
    rcases List.mem_or_eq_of_mem_set (List.dropLast_subset _ h) with hmem | heq
    · exact hmem
    · exact heq ▸ List.mem_of_getLast? hlast
  · exact h

/-- Only the element at the index is removed. -/
theorem mem_swapRemove {α : Type} {l : List α} {i : Nat} {a b : α} (h : a ∈ l)
    (hi : l[i]? = some b) (hne : b ≠ a) : a ∈ swapRemove l i := by
  have hilt := (List.getElem?_eq_some_iff.mp hi).1
  obtain ⟨j, hj⟩ := List.mem_iff_getElem?.mp h
  have hjlt := (List.getElem?_eq_some_iff.mp hj).1
  have hij : i ≠ j := by
    rintro rfl
    exact hne (Option.some.inj (hi.symm.trans hj))
  rw [swapRemove]
  split
  · next last hlast =>
    rw [List.getLast?_eq_getElem?] at hlast
    refine List.mem_iff_getElem?.mpr ?_
    by_cases hend : j = l.length - 1
    · -- The last element stands at the index now.
      rw [hend, hlast] at hj
      refine ⟨i, ?_⟩
      rw [List.getElem?_dropLast, if_pos (by rw [List.length_set]; omega),
        List.getElem?_set_self hilt, hj]
    · refine ⟨j, ?_⟩
      rw [List.getElem?_dropLast, if_pos (by rw [List.length_set]; omega),
        List.getElem?_set_ne hij, hj]
  · exact h

namespace OutputPool

/-- Where the operations of a claim may be performed. -/
def May (op : PoolOp S A) (pool : OutputPool S A) : Prop :=
  match op with
  | .compareExchange i => ∃ slot ∈ pool.slots, slot.id = i
  | .swapRemove i => ∃ slot, pool.slots[i]? = some slot ∧ pool.claims.claimed slot.id = false
  | .push _ _ => pool.slots.length < pool.maxSlots
  | _ => True

end OutputPool

theorem PoolInv.new (maxSlots : Nat) :
    PoolInv maxSlots (OutputPool.new (S := S) (A := A) maxSlots) where
  limit := rfl
  size := Nat.zero_le _
  sound := Claims.empty_sound
  made := nofun
  owned := by
    rintro k i (h | h) <;> cases h

/-- A slot that nothing has been made for is not claimed. -/
theorem PoolInv.fresh {maxSlots : Nat} {pool : OutputPool S A} (h : PoolInv maxSlots pool) :
    pool.claims.claimed pool.made = false := by
  by_contra hclaimed
  obtain ⟨k, hk⟩ := (h.sound.flag _).mp (Bool.eq_true_of_not_eq_false hclaimed)
  obtain ⟨slot, hslot, hid⟩ := h.owned hk
  exact Nat.lt_irrefl _ (hid ▸ h.made slot hslot)

/-- A new claim is kept track of if its slot is in the pool. -/
theorem PoolInv.claimed {maxSlots : Nat} {pool : OutputPool S A} {claims : Claims} {i : Nat}
    (h : PoolInv maxSlots pool) (hclaim : pool.claims.claim i = some claims)
    (hi : ∃ slot ∈ pool.slots, slot.id = i) :
    PoolInv maxSlots { pool with claims := claims } where
  limit := h.limit
  size := h.size
  sound := h.sound.claim hclaim
  made := h.made
  owned := by
    intro k j hk
    rcases (Claims.owns_claim hclaim).mp hk with ⟨-, rfl⟩ | hk
    · exact hi
    · exact h.owned hk

theorem PoolInv.release {maxSlots : Nat} {pool : OutputPool S A} {k : Nat} {claims : Claims}
    (h : PoolInv maxSlots pool) (hrelease : pool.claims.Release k claims) :
    PoolInv maxSlots { pool with claims := claims } where
  limit := h.limit
  size := h.size
  sound := Claims.Step.sound (.release hrelease) h.sound
  made := h.made
  owned := fun hk => h.owned (hrelease.owns hk)

/-- Dropping a lease is three releases. -/
theorem PoolInv.drop {maxSlots : Nat} {pool : OutputPool S A}
    (h : PoolInv maxSlots pool) (k : Nat) :
    PoolInv maxSlots { pool with claims := pool.claims.drop k } :=
  ((h.release .mark).release .clear).release .forget

theorem PoolInv.does {maxSlots : Nat} {pool : OutputPool S A} {op : PoolOp S A}
    (h : PoolInv maxSlots pool) (hmay : OutputPool.May op pool) :
    PoolInv maxSlots (OutputPool.does op pool) := by
  cases op with
  | compareExchange i =>
    cases hclaim : pool.claims.claim i with
    | none =>
      show PoolInv maxSlots { pool with claims := (pool.claims.claim i).getD pool.claims }
      rw [hclaim]
      exact h
    | some claims =>
      show PoolInv maxSlots { pool with claims := (pool.claims.claim i).getD pool.claims }
      rw [hclaim]
      exact h.claimed hclaim hmay
  | load i => exact h
  | swapRemove i =>
    obtain ⟨slot, hslot, hidle⟩ := hmay
    have hlength := length_swapRemove (List.getElem?_eq_some_iff.mp hslot).1
    refine ⟨h.limit, ?_, h.sound, fun slot' hslot' =>
      h.made slot' (mem_of_mem_swapRemove hslot'), ?_⟩
    · show (Vulkan.swapRemove pool.slots i).length ≤ maxSlots
      have hsize := h.size
      omega
    · -- The slot removed is not claimed, so no lease that counts is on it.
      intro k j hk
      obtain ⟨slot', hslot', hid⟩ := h.owned hk
      refine ⟨slot', mem_swapRemove hslot' hslot ?_, hid⟩
      rintro rfl
      have hclaimed := (h.sound.flag _).mpr ⟨k, hk⟩
      rw [← hid, hidle] at hclaimed
      cases hclaimed
  | push spec resources =>
    have hclaim : pool.claims.claim pool.made = some ⟨Function.update pool.claims.claimed pool.made
        true, pool.claims.leases ++ [⟨pool.made, .held⟩]⟩ :=
      Claims.claim_eq_some.mpr ⟨h.fresh, rfl⟩
    refine ⟨h.limit, ?_, h.sound.claim hclaim, ?_, ?_⟩
    · show (pool.slots ++ [_]).length ≤ maxSlots
      rw [List.length_append, List.length_singleton, ← h.limit]
      exact hmay
    · intro slot hslot
      show slot.id < pool.made + 1
      rcases List.mem_append.mp hslot with hslot | hslot
      · exact Nat.lt_succ_of_lt (h.made slot hslot)
      · rw [List.mem_singleton.mp hslot]
        exact Nat.lt_succ_self _
    · intro k j hk
      rcases (Claims.owns_claim hclaim).mp hk with ⟨-, rfl⟩ | hk
      · exact ⟨_, List.mem_append_right _ (List.mem_singleton_self _), rfl⟩
      · obtain ⟨slot, hslot, hid⟩ := h.owned hk
        exact ⟨slot, List.mem_append_left _ hslot, hid⟩
  | mark k => exact h.release .mark
  | clear k => exact h.release .clear
  | forget k => exact h.release .forget

/-! ## Claims -/

namespace OutputPool

/-- What others may do during a claim: release leases made before it, which are
those below `start`. -/
structure Rely (start : Nat) (pool pool' : OutputPool S A) : Prop where
  /-- Slots stay. -/
  same : pool' = { pool with claims := pool'.claims }
  /-- No lease is made. -/
  next : pool'.claims.next = pool.claims.next
  /-- Later leases stay. -/
  leases : ∀ k, start ≤ k → pool'.claims.leases[k]? = pool.claims.leases[k]?
  /-- No flag is turned on. -/
  claimed : ∀ i, pool'.claims.claimed i = true → pool.claims.claimed i = true

/-- How a claim shares the pool. -/
def sharing (start : Nat) : Sharing (OutputPool S A) (PoolOp S A) where
  does := does
  May := May
  Rely := Rely start
  refl := fun _ => ⟨rfl, rfl, fun _ _ => rfl, fun _ h => h⟩
  trans := fun {_ _ _} h h' => by
    refine ⟨?_, h'.next.trans h.next, fun k hk => (h'.leases k hk).trans (h.leases k hk),
      fun i hi => h.claimed i (h'.claimed i hi)⟩
    rw [h'.same, h.same]

/-- A release of an earlier lease. -/
theorem Rely.release {start k : Nat} {pool : OutputPool S A} {claims : Claims} (hk : k < start)
    (h : pool.claims.Release k claims) : Rely start pool { pool with claims := claims } where
  same := rfl
  next := h.length
  leases := fun k' hk' => h.leases_of_ne (by omega)
  claimed := fun _ hi => h.claimed hi

variable {pool₀ pool pool' : OutputPool S A} {history : List (PoolOp S A × OutputPool S A)}

/-- A claim that began with `pool₀` has made no lease and changed no slot. -/
structure Begun (pool₀ pool : OutputPool S A) : Prop where
  /-- The slots stay. -/
  slots : pool.slots = pool₀.slots
  /-- The limit stays. -/
  maxSlots : pool.maxSlots = pool₀.maxSlots
  /-- There is no new lease. -/
  next : pool.claims.next = pool₀.claims.next

/-- It has made a lease on a slot. -/
structure Leased (pool₀ pool : OutputPool S A) (i : Nat) (phase : LeasePhase) : Prop where
  /-- The slots stay. -/
  slots : pool.slots = pool₀.slots
  /-- There is one new lease. -/
  next : pool.claims.next = pool₀.claims.next + 1
  /-- The new lease is on the slot. -/
  lease : pool.claims.leases[pool₀.claims.next]? = some ⟨i, phase⟩

/-- It has room for a slot. -/
structure Room (pool₀ pool : OutputPool S A) : Prop where
  /-- No slot is new. -/
  slots : ∀ slot ∈ pool.slots, slot ∈ pool₀.slots
  /-- There is room for one. -/
  room : pool.slots.length < pool.maxSlots
  /-- There is no new lease. -/
  next : pool.claims.next = pool₀.claims.next

/-- An operation of the history found a slot claimed. -/
def SeenClaimed (op : PoolOp S A) (i : Nat) (history : List (PoolOp S A × OutputPool S A)) : Prop :=
  ∃ pool, (op, pool) ∈ history ∧ pool.claims.claimed i = true

/-- What a claim that began with `pool₀` comes to. -/
structure Claimed [DecidableEq S] (pool₀ : OutputPool S A) (spec : S) (created : Except String A)
    (result : Except VulkanImportError (OutputLease S A)) (pool : OutputPool S A)
    (history : List (PoolOp S A × OutputPool S A)) : Prop where
  /-- At most one slot is new. -/
  slots : ∀ slot ∈ pool.slots,
    slot ∈ pool₀.slots ∨ slot.spec = spec ∧ created = .ok slot.resources
  /-- The slot of the lease has the spec asked for. -/
  ok : ∀ lease, result = .ok lease → lease.slot.spec = spec ∧ lease.slot ∈ pool.slots ∧
    pool.claims.leases[lease.lease]? = some ⟨lease.slot.id, .held⟩
  /-- A claim that fails has dropped the leases it has made. -/
  error : ∀ e, result = .error e → ∀ k l, pool₀.claims.next ≤ k →
    pool.claims.leases[k]? = some l → l.phase = .gone
  /-- A saturated pool is full, and every slot was seen claimed: one of the spec
  when it was to be claimed, another when it was to be replaced. -/
  saturated : ∀ name limit, result = .error (.poolSaturated name limit) →
    limit = pool.maxSlots ∧ pool.maxSlots ≤ pool.slots.length ∧ ∀ slot ∈ pool.slots,
      SeenClaimed (if slot.spec = spec then .compareExchange slot.id else .load slot.id) slot.id
        history

theorem Begun.rely {start : Nat} (h : Begun pool₀ pool) (hr : Rely start pool pool') :
    Begun pool₀ pool' where
  slots := by rw [hr.same, ← h.slots]
  maxSlots := by rw [hr.same, ← h.maxSlots]
  next := hr.next.trans h.next

theorem Leased.rely {i : Nat} {phase : LeasePhase} (h : Leased pool₀ pool i phase)
    (hr : Rely pool₀.claims.next pool pool') : Leased pool₀ pool' i phase where
  slots := by rw [hr.same, ← h.slots]
  next := hr.next.trans h.next
  lease := (hr.leases _ (Nat.le_refl _)).trans h.lease

theorem Room.rely {start : Nat} (h : Room pool₀ pool) (hr : Rely start pool pool') :
    Room pool₀ pool' where
  slots := by
    rw [hr.same]
    exact h.slots
  room := by
    rw [hr.same]
    exact h.room
  next := hr.next.trans h.next

/-- No lease is as new as the next one. -/
theorem Room.lease {k : Nat} (h : Room pool₀ pool) (hk : pool₀.claims.next ≤ k) :
    pool.claims.leases[k]? = none := by
  rw [← h.next] at hk
  exact List.getElem?_eq_none hk

theorem SeenClaimed.mono {op : PoolOp S A} {i : Nat}
    {history' : List (PoolOp S A × OutputPool S A)} (h : SeenClaimed op i history)
    (hsub : history ⊆ history') : SeenClaimed op i history' := by
  obtain ⟨pool, hmem, hclaimed⟩ := h
  exact ⟨pool, hsub hmem, hclaimed⟩

variable [DecidableEq S] {spec : S}

/-- What the search for a slot to claim comes to. -/
theorem secured_findSlot {slots : List (OutputSlot S A)}
    (hslots : ∀ slot ∈ slots, slot ∈ pool₀.slots)
    (hpool : Begun pool₀ pool) :
    (findSlot spec slots).Secured (sharing pool₀.claims.next)
      (fun found pool history' => history ⊆ history' ∧
        (found = none → Begun pool₀ pool ∧ ∀ slot ∈ slots, slot.spec = spec →
          SeenClaimed (.compareExchange slot.id) slot.id history') ∧
        ∀ lease, found = some lease → lease.slot.spec = spec ∧ lease.slot ∈ pool₀.slots ∧
          lease.lease = pool₀.claims.next ∧ Leased pool₀ pool lease.slot.id .held)
      pool history := by
  induction slots generalizing pool history with
  | nil =>
    intro pool' hr
    exact ⟨List.Subset.refl _, fun _ => ⟨hpool.rely hr, nofun⟩, nofun⟩
  | cons slot slots ih =>
    rw [findSlot]
    split
    · next hspec =>
      intro pool' hr
      have hpool' := hpool.rely hr
      have hslot : slot ∈ pool'.slots := hpool'.slots ▸ hslots slot (List.mem_cons_self ..)
      refine ⟨⟨slot, hslot, rfl⟩, ?_⟩
      show Program.Secured _ _ (if _ then _ else _) (does (.compareExchange slot.id) pool') _
      cases hclaimed : pool'.claims.claimed slot.id with
      | true =>
        -- It is claimed, and the search goes on.
        rw [if_pos rfl, does, Claims.claim_eq_none.mpr hclaimed]
        refine (ih (fun slot' h => hslots slot' (List.mem_cons_of_mem _ h)) hpool').mono ?_
        rintro found pool'' history' ⟨hsub, hnone, hsome⟩
        refine ⟨fun x hx => hsub (List.mem_cons_of_mem _ hx), fun h => ⟨(hnone h).1, ?_⟩, hsome⟩
        intro slot' hslot' hspec'
        rcases List.mem_cons.mp hslot' with rfl | hslot'
        · exact ⟨pool', hsub (List.mem_cons_self ..), hclaimed⟩
        · exact (hnone h).2 slot' hslot' hspec'
      | false =>
        obtain ⟨claims, hclaim⟩ : ∃ claims, pool'.claims.claim slot.id = some claims :=
          ⟨_, Claims.claim_eq_some.mpr ⟨hclaimed, rfl⟩⟩
        rw [if_neg Bool.false_ne_true, does, hclaim]
        have hnext := Claims.next_claim hclaim
        rw [hpool'.next] at hnext
        have hleased : Leased pool₀ { pool' with claims := claims } slot.id .held :=
          ⟨hpool'.slots, hnext.2, hnext.1⟩
        intro pool'' hr'
        refine ⟨List.subset_cons_self _ _, nofun, ?_⟩
        rintro lease ⟨⟩
        exact ⟨hspec, hslots slot (List.mem_cons_self ..), hpool'.next, hleased.rely hr'⟩
    · next hspec =>
      refine (ih (fun slot' h => hslots slot' (List.mem_cons_of_mem _ h)) hpool).mono ?_
      rintro found pool'' history' ⟨hsub, hnone, hsome⟩
      refine ⟨hsub, fun h => ⟨(hnone h).1, ?_⟩, hsome⟩
      intro slot' hslot' hspec'
      rcases List.mem_cons.mp hslot' with rfl | hslot'
      · exact absurd hspec' hspec
      · exact (hnone h).2 slot' hslot' hspec'

/-- What the search for a slot to replace comes to. -/
theorem secured_findIdle {slots : List (OutputSlot S A)} {i : Nat}
    (hslots : slots = pool₀.slots.drop i)
    (hpool : Begun pool₀ pool) :
    (findIdle spec slots i).Secured (sharing pool₀.claims.next)
      (fun found pool history' => history ⊆ history' ∧ Begun pool₀ pool ∧
        (found = none → ∀ slot ∈ slots, slot.spec ≠ spec →
          SeenClaimed (.load slot.id) slot.id history') ∧
        ∀ j, found = some j → ∃ slot, pool₀.slots[j]? = some slot ∧
          pool.claims.claimed slot.id = false)
      pool history := by
  induction slots generalizing pool history i with
  | nil =>
    intro pool' hr
    exact ⟨List.Subset.refl _, hpool.rely hr, nofun, nofun⟩
  | cons slot slots ih =>
    intro pool' hr
    have hpool' := hpool.rely hr
    refine ⟨trivial, ?_⟩
    show Program.Secured _ _ (if _ then _ else _) pool' _
    split
    · next hidle =>
      rw [Bool.and_eq_true, Bool.not_eq_true'] at hidle
      intro pool'' hr'
      refine ⟨List.subset_cons_self _ _, hpool'.rely hr', nofun, ?_⟩
      rintro j ⟨⟩
      refine ⟨slot, ?_, ?_⟩
      · have hhead := congrArg (·[0]?) hslots
        simpa using hhead.symm
      · by_contra hclaimed
        have hwas := hr'.claimed _ (Bool.eq_true_of_not_eq_false hclaimed)
        rw [hidle.1] at hwas
        cases hwas
    · next hbusy =>
      have htail : slots = pool₀.slots.drop (i + 1) := by
        rw [← List.tail_drop, ← hslots, List.tail_cons]
      refine (ih htail hpool').mono ?_
      rintro found pool'' history' ⟨hsub, hbegun, hnone, hsome⟩
      refine ⟨fun x hx => hsub (List.mem_cons_of_mem _ hx), hbegun, ?_, hsome⟩
      intro h slot' hslot' hspec'
      rcases List.mem_cons.mp hslot' with rfl | hslot'
      · refine ⟨pool', hsub (List.mem_cons_self ..), ?_⟩
        by_contra hclaimed
        refine hbusy ?_
        rw [Bool.eq_false_of_not_eq_true hclaimed]
        simpa using hspec'
      · exact hnone h slot' hslot' hspec'

omit [DecidableEq S] in
/-- Dropping a lease takes it through all its phases. -/
theorem secured_dropLease {i : Nat} (hpool : Leased pool₀ pool i .held) :
    (dropLease pool₀.claims.next).Secured (sharing pool₀.claims.next)
      (fun _ pool _ => Leased pool₀ pool i .gone) pool history := by
  have hset : ∀ {pool : OutputPool S A} {phase phase' : LeasePhase},
      Leased pool₀ pool i phase → Leased pool₀ { pool with claims :=
        ⟨pool.claims.claimed, pool.claims.leases.set pool₀.claims.next ⟨i, phase'⟩⟩ } i phase' := by
    intro pool phase phase' h
    refine ⟨h.slots, ?_, ?_⟩
    · exact (List.length_set ..).trans h.next
    · exact (Claims.getElem?_set h.lease _).trans (if_pos rfl)
  intro pool₁ hr
  have h₁ := hpool.rely hr
  refine ⟨trivial, fun pool₂ hr => ?_⟩
  have h₂ : Leased pool₀ pool₂ i .releasing := by
    refine Leased.rely ?_ hr
    show Leased pool₀ { pool₁ with claims := pool₁.claims.mark _ } i .releasing
    rw [Claims.mark, h₁.lease]
    exact hset h₁
  refine ⟨trivial, fun pool₃ hr => ?_⟩
  have h₃ : Leased pool₀ pool₃ i .released := by
    refine Leased.rely ?_ hr
    show Leased pool₀ { pool₂ with claims := pool₂.claims.clear _ } i .released
    rw [Claims.clear, h₂.lease]
    exact ⟨h₂.slots, (hset h₂).next, (hset h₂).lease⟩
  refine ⟨trivial, fun pool₄ hr => Leased.rely ?_ hr⟩
  show Leased pool₀ { pool₃ with claims := pool₃.claims.forget _ } i .gone
  rw [Claims.forget, h₃.lease]
  exact hset h₃

/-- What putting a new slot into the pool comes to. -/
theorem secured_pushSlot {created : Except String A} (hpool : Room pool₀ pool) :
    (pushSlot spec created).Secured (sharing pool₀.claims.next) (Claimed pool₀ spec created)
      pool history := by
  cases created with
  | error error =>
    intro pool' hr
    have hpool' := hpool.rely hr
    refine ⟨fun slot hslot => .inl (hpool'.slots slot hslot), nofun, ?_, nofun⟩
    rintro e ⟨⟩ k l hk hl
    rw [hpool'.lease hk] at hl
    cases hl
  | ok resources =>
    intro pool' hr
    have hpool' := hpool.rely hr
    refine ⟨hpool'.room, fun pool'' hr' => ?_⟩
    have hslots : pool''.slots = pool'.slots ++ [⟨pool'.made, spec, resources⟩] := by
      rw [hr'.same]
      rfl
    refine ⟨?_, ?_, nofun, nofun⟩
    · intro slot hslot
      rw [hslots] at hslot
      rcases List.mem_append.mp hslot with hslot | hslot
      · exact .inl (hpool'.slots slot hslot)
      · rw [List.mem_singleton.mp hslot]
        exact .inr ⟨rfl, rfl⟩
    · rintro lease ⟨⟩
      refine ⟨rfl, ?_, ?_⟩
      · rw [hslots]
        exact List.mem_append_right _ (List.mem_singleton_self _)
      · refine (hr'.leases _ (Nat.le_of_eq hpool'.next.symm)).trans ?_
        exact List.getElem?_concat_length

/-- **What a claim comes to, whatever is released meanwhile.** -/
theorem secured_claim {maxSlots : Nat} (hpool : PoolInv maxSlots pool₀) (name : String) (spec : S)
    (update : A → Except String Unit) (created : Except String A) :
    (claim name pool₀ spec update created).Secured (sharing pool₀.claims.next)
      (Claimed pool₀ spec created) pool₀ [] := by
  have hbegun : Begun pool₀ pool₀ := ⟨rfl, rfl, rfl⟩
  refine (secured_findSlot (fun _ h => h) hbegun).bind ?_
  rintro (_ | lease) pool history ⟨-, hnone, hsome⟩
  · obtain ⟨hbegun, hseen⟩ := hnone rfl
    show Program.Secured _ _ (if _ then _ else _) pool history
    split
    · next hfull =>
      refine (secured_findIdle (i := 0) rfl hbegun).bind ?_
      rintro (_ | idle) pool history' ⟨hsub, hbegun, hnone, hidle⟩
      · -- Nothing can be replaced.
        intro pool' hr
        have hbegun := hbegun.rely hr
        refine ⟨fun slot hslot => .inl (hbegun.slots ▸ hslot), fun _ h => (by cases h), ?_, ?_⟩
        · rintro e ⟨⟩ k l hk hl
          rw [← hbegun.next] at hk
          rw [List.getElem?_eq_none hk] at hl
          cases hl
        · rintro name' limit ⟨⟩
          refine ⟨hbegun.maxSlots.symm, ?_, ?_⟩
          · rw [hbegun.maxSlots, hbegun.slots]
            exact hfull
          · rw [hbegun.slots]
            intro slot hslot
            split
            · next hspec => exact (hseen slot hslot hspec).mono hsub
            · next hspec => exact hnone rfl slot hslot hspec
      · -- An idle slot is replaced, and there is room for the new one.
        obtain ⟨slot, hslot, hclaimed⟩ := hidle idle rfl
        intro pool' hr
        have hbegun := hbegun.rely hr
        rw [← hbegun.slots] at hslot
        have hidle' : pool'.claims.claimed slot.id = false := by
          by_contra hwas
          rw [hr.claimed _ (Bool.eq_true_of_not_eq_false hwas)] at hclaimed
          cases hclaimed
        refine ⟨⟨slot, hslot, hidle'⟩, secured_pushSlot ⟨?_, ?_, hbegun.next⟩⟩
        · exact fun slot hslot => hbegun.slots ▸ mem_of_mem_swapRemove hslot
        · show (Vulkan.swapRemove pool'.slots idle).length < pool'.maxSlots
          have hlength := length_swapRemove (List.getElem?_eq_some_iff.mp hslot).1
          have hsize := hpool.size
          rw [hbegun.maxSlots, hpool.limit]
          rw [hbegun.slots] at hlength ⊢
          omega
    · next hroom =>
      refine secured_pushSlot ⟨fun slot hslot => hbegun.slots ▸ hslot, ?_, hbegun.next⟩
      rw [hbegun.slots, hbegun.maxSlots]
      exact Nat.lt_of_not_le hroom
  · obtain ⟨hspec, hslot, hlease, hleased⟩ := hsome lease rfl
    dsimp only
    split
    · intro pool' hr
      have hleased := hleased.rely hr
      refine ⟨fun slot hslot => .inl (hleased.slots ▸ hslot), ?_, fun _ h => (by cases h),
        fun _ _ h => (by cases h)⟩
      rintro lease' ⟨⟩
      exact ⟨hspec, hleased.slots ▸ hslot, hlease ▸ hleased.lease⟩
    · rw [hlease]
      refine (secured_dropLease hleased).bind fun _ pool history hgone pool' hr => ?_
      have hgone := hgone.rely hr
      refine ⟨fun slot hslot => .inl (hgone.slots ▸ hslot), fun _ h => (by cases h), ?_,
        fun _ _ h => (by cases h)⟩
      rintro e ⟨⟩ k l hk hl
      by_cases hnext : k = pool₀.claims.next
      · rw [hnext, hgone.lease] at hl
        cases hl
        rfl
      · have hlt : pool'.claims.next ≤ k := by
          rw [hgone.next]
          omega
        rw [List.getElem?_eq_none hlt] at hl
        cases hl

end OutputPool

/-! ## Worlds -/

/-- A claim under way: the pool it began with, what it asks for, what is left of it,
and its history. -/
structure PoolCall (S A : Type) where
  /-- The pool it began with. -/
  began : OutputPool S A
  /-- What it asks for. -/
  spec : S
  /-- What making a slot would come to. -/
  created : Except String A
  /-- What is left of it. -/
  program : Program (OutputPool S A) (PoolOp S A) (Except VulkanImportError (OutputLease S A))
  /-- Its operations so far. -/
  history : List (PoolOp S A × OutputPool S A)

/-- A pool, and the claim that holds its lock. -/
structure PoolWorld (S A : Type) where
  /-- The pool. -/
  pool : OutputPool S A
  /-- The claim under way. -/
  call : Option (PoolCall S A)

/-- A step of a claim or of a lease. -/
inductive PoolAction (S A : Type) where
  | begin (spec : S) (update : A → Except String Unit) (created : Except String A)
  | perform
  | finish
  | mark (lease : Nat)
  | clear (lease : Nat)
  | forget (lease : Nat)

namespace PoolWorld

/-- An empty pool, with no claim under way. -/
def new (maxSlots : Nat) : PoolWorld S A := ⟨.new maxSlots, none⟩

/-- The lease was not made by the claim under way. -/
def shared (w : PoolWorld S A) (lease : Nat) : Bool :=
  match w.call with
  | some call => lease < call.began.claims.next
  | none => true

/-- A release changes the flags and leases. -/
def withClaims (w : PoolWorld S A) (lease : Nat) (claims : Claims) : Option (PoolWorld S A) :=
  if w.shared lease then some { w with pool := { w.pool with claims := claims } } else none

variable [DecidableEq S]

/-- The step an action makes, if it can be made. -/
def step (name : String) (w : PoolWorld S A) : PoolAction S A → Option (PoolWorld S A)
  | .begin spec update created => match w.call with
    | some _ => none
    | none => some { w with
        call := some ⟨w.pool, spec, created, w.pool.claim name spec update created, []⟩ }
  | .perform => match w.call with
    | some ⟨began, spec, created, .perform op rest, history⟩ =>
      some ⟨OutputPool.does op w.pool,
        some ⟨began, spec, created, rest w.pool, (op, w.pool) :: history⟩⟩
    | _ => none
  | .finish => match w.call with
    | some ⟨_, _, _, .done _, _⟩ => some { w with call := none }
    | _ => none
  | .mark lease => w.withClaims lease (w.pool.claims.mark lease)
  | .clear lease => w.withClaims lease (w.pool.claims.clear lease)
  | .forget lease => w.withClaims lease (w.pool.claims.forget lease)

/-- The worlds that runs over a pool of this size reach. -/
inductive Reachable (name : String) (maxSlots : Nat) : PoolWorld S A → Prop
  | new : Reachable name maxSlots (.new maxSlots)
  | step {w w' : PoolWorld S A} {action : PoolAction S A} (h : Reachable name maxSlots w)
      (hstep : w.step name action = some w') : Reachable name maxSlots w'

/-! ## The invariant -/

/-- The pool is in order, and so is the claim under way. -/
structure Inv (maxSlots : Nat) (w : PoolWorld S A) : Prop where
  /-- The pool is in order. -/
  pool : PoolInv maxSlots w.pool
  /-- What is left of the claim comes to a right end. -/
  call : ∀ call, w.call = some call →
    call.program.Secured (OutputPool.sharing call.began.claims.next)
      (OutputPool.Claimed call.began call.spec call.created) w.pool call.history

theorem Inv.new (maxSlots : Nat) : Inv maxSlots (PoolWorld.new (S := S) (A := A) maxSlots) where
  pool := .new maxSlots
  call := nofun

/-- What a step does to the pool: an operation of the claim where it may be
performed, a release, or nothing. -/
inductive Change (pool : OutputPool S A) : OutputPool S A → Prop
  | same : Change pool pool
  | does (op : PoolOp S A) (h : OutputPool.May op pool) : Change pool (OutputPool.does op pool)
  | release {k : Nat} {claims : Claims} (h : pool.claims.Release k claims) :
      Change pool { pool with claims := claims }

omit [DecidableEq S] in
theorem withClaims_eq_some {w w' : PoolWorld S A} {lease : Nat} {claims : Claims}
    (h : w.withClaims lease claims = some w') :
    w.shared lease = true ∧ w' = { w with pool := { w.pool with claims := claims } } := by
  rw [withClaims] at h
  split at h
  · next hshared =>
    cases h
    exact ⟨hshared, rfl⟩
  · cases h

/-- A release during a claim is one that the claim is secured against. -/
theorem Inv.release {maxSlots k : Nat} {w w' : PoolWorld S A} {claims : Claims}
    (hw : Inv maxSlots w) (hrelease : w.pool.claims.Release k claims)
    (h : w.withClaims k claims = some w') : Inv maxSlots w' ∧ Change w.pool w'.pool := by
  obtain ⟨hshared, rfl⟩ := withClaims_eq_some h
  refine ⟨⟨hw.pool.release hrelease, fun call hcall => ?_⟩, .release hrelease⟩
  have hk : k < call.began.claims.next := by
    rw [shared, show w.call = some call from hcall] at hshared
    simpa using hshared
  exact (hw.call call hcall).rely (OutputPool.Rely.release hk hrelease)

theorem Inv.step {name : String} {maxSlots : Nat} {w w' : PoolWorld S A} {action : PoolAction S A}
    (hw : Inv maxSlots w) (h : w.step name action = some w') :
    Inv maxSlots w' ∧ Change w.pool w'.pool := by
  cases action with
  | begin spec update created =>
    simp only [PoolWorld.step] at h
    split at h
    · cases h
    · cases h
      refine ⟨⟨hw.pool, ?_⟩, .same⟩
      rintro call ⟨⟩
      exact OutputPool.secured_claim hw.pool name spec update created
  | perform =>
    simp only [PoolWorld.step] at h
    split at h
    · next began spec created op rest history hcall =>
      cases h
      obtain ⟨hmay, hrest⟩ := (hw.call _ hcall).perform
      refine ⟨⟨hw.pool.does hmay, ?_⟩, .does op hmay⟩
      rintro call ⟨⟩
      exact hrest
    · cases h
  | finish =>
    simp only [PoolWorld.step] at h
    split at h
    · cases h
      exact ⟨⟨hw.pool, nofun⟩, .same⟩
    · cases h
  | mark k => exact hw.release .mark h
  | clear k => exact hw.release .clear h
  | forget k => exact hw.release .forget h

theorem Reachable.inv {name : String} {maxSlots : Nat} {w : PoolWorld S A}
    (h : Reachable name maxSlots w) : Inv maxSlots w := by
  induction h with
  | new => exact .new maxSlots
  | step _ hstep ih => exact (ih.step hstep).1

omit [DecidableEq S] in
/-- What a step does to the flags and leases. -/
theorem Change.claims {maxSlots : Nat} {pool pool' : OutputPool S A} (h : Change pool pool')
    (hpool : PoolInv maxSlots pool) : pool.claims.Step pool'.claims := by
  cases h with
  | same => exact .same
  | release h => exact .release h
  | does op =>
    cases op with
    | compareExchange i =>
      cases hclaim : pool.claims.claim i with
      | none =>
        show pool.claims.Step ((pool.claims.claim i).getD pool.claims)
        rw [hclaim]
        exact .same
      | some claims =>
        show pool.claims.Step ((pool.claims.claim i).getD pool.claims)
        rw [hclaim]
        exact .claim hclaim
    | load i => exact .same
    | swapRemove i => exact .same
    | push spec resources => exact .claim (Claims.claim_eq_some.mpr ⟨hpool.fresh, rfl⟩)
    | mark k => exact .release .mark
    | clear k => exact .release .clear
    | forget k => exact .release .forget

omit [DecidableEq S] in
/-- A slot that a step removes is not claimed. -/
theorem Change.removed {pool pool' : OutputPool S A} (h : Change pool pool')
    {slot : OutputSlot S A} (hslot : slot ∈ pool.slots) (hgone : slot ∉ pool'.slots) :
    pool.claims.claimed slot.id = false := by
  cases h with
  | same => exact absurd hslot hgone
  | release h => exact absurd hslot hgone
  | does op hmay =>
    cases op with
    | swapRemove i =>
      obtain ⟨slot', hslot', hidle⟩ := hmay
      by_cases hsame : slot' = slot
      · exact hsame ▸ hidle
      · exact absurd (mem_swapRemove hslot hslot' hsame) hgone
    | push spec resources => exact absurd (List.mem_append_left _ hslot) hgone
    | compareExchange i => exact absurd hslot hgone
    | load i => exact absurd hslot hgone
    | mark k => exact absurd hslot hgone
    | clear k => exact absurd hslot hgone
    | forget k => exact absurd hslot hgone

/-! ## What imports can rely on -/

/-- What the users of a pool can rely on in a world. -/
structure Safe (maxSlots : Nat) (w : PoolWorld S A) : Prop where
  /-- There are no more slots than allowed. -/
  size : w.pool.slots.length ≤ maxSlots
  /-- A lease that is not released is on a slot of the pool, which is claimed. -/
  held : ∀ {k i : Nat}, w.pool.claims.leases[k]? = some ⟨i, .held⟩ →
    (∃ slot ∈ w.pool.slots, slot.id = i) ∧ w.pool.claims.claimed i = true
  /-- There is one such lease at most. -/
  unique : ∀ {k k' i : Nat}, w.pool.claims.leases[k]? = some ⟨i, .held⟩ →
    w.pool.claims.leases[k']? = some ⟨i, .held⟩ → k = k'
  /-- A claim about to return has come to what it should. -/
  claimed : ∀ {call : PoolCall S A} {result : Except VulkanImportError (OutputLease S A)},
    w.call = some call → call.program = .done result →
      OutputPool.Claimed call.began call.spec call.created result w.pool call.history
  /-- No slot is claimed by a claim about to fail. -/
  failed : ∀ {call : PoolCall S A} {error : VulkanImportError}, w.call = some call →
    call.program = .done (.error error) → ∀ i, w.pool.claims.claimed i = true →
      ∃ k, k < call.began.claims.next ∧ w.pool.claims.Owns k i

/-- What they can rely on when it makes a step. -/
structure SafeStep (w : PoolWorld S A) (action : PoolAction S A) (w' : PoolWorld S A) : Prop where
  /-- A claimed slot stays. -/
  removed : ∀ {slot : OutputSlot S A}, slot ∈ w.pool.slots → slot ∉ w'.pool.slots →
    w.pool.claims.claimed slot.id = false
  /-- A claim's history is of its operations and the pools it performed them in. -/
  recorded : ∀ {call call' : PoolCall S A}, w.call = some call → w'.call = some call' →
    call' = call ∨ ∃ op rest, call.program = .perform op rest ∧
      w'.pool = OutputPool.does op w.pool ∧ call'.history = (op, w.pool) :: call.history
  /-- A flag goes on with a new lease, and off with the release of the only one
  that is not released. -/
  turnedOn : ∀ {i : Nat}, w.pool.claims.claimed i = false → w'.pool.claims.claimed i = true →
    w.pool.claims.claim i = some w'.pool.claims
  /-- A flag is turned off by the release of its lease only. -/
  turnedOff : ∀ {i : Nat}, w.pool.claims.claimed i = true → w'.pool.claims.claimed i = false →
    ∃ k, w'.pool.claims = w.pool.claims.clear k ∧
      w.pool.claims.leases[k]? = some ⟨i, .releasing⟩ ∧ ∀ k', w.pool.claims.Owns k' i → k' = k
  /-- A release of a released lease changes no flag. -/
  released : ∀ {k i : Nat}, action = .mark k ∨ action = .clear k ∨ action = .forget k →
    w.pool.claims.leases[k]? = some ⟨i, .released⟩ ∨
        w.pool.claims.leases[k]? = some ⟨i, .gone⟩ →
      w'.pool.claims.claimed = w.pool.claims.claimed

theorem Inv.safe {maxSlots : Nat} {w : PoolWorld S A} (hw : Inv maxSlots w) : Safe maxSlots w where
  size := hw.pool.size
  held := fun hk => ⟨hw.pool.owned (.inl hk), (hw.pool.sound.flag _).mpr ⟨_, .inl hk⟩⟩
  unique := fun hk hk' => hw.pool.sound.unique (.inl hk) (.inl hk')
  claimed := by
    intro call result hcall hdone
    have hsecured := hw.call call hcall
    rw [hdone] at hsecured
    exact hsecured.done
  failed := by
    intro call error hcall hdone i hi
    have hsecured := hw.call call hcall
    rw [hdone] at hsecured
    obtain ⟨k, hk⟩ := (hw.pool.sound.flag i).mp hi
    refine ⟨k, Nat.lt_of_not_le fun hle => ?_, hk⟩
    rcases hk with hk | hk
    · cases hsecured.done.error error rfl k _ hle hk
    · cases hsecured.done.error error rfl k _ hle hk

theorem Inv.safe_step {name : String} {maxSlots : Nat} {w w' : PoolWorld S A}
    {action : PoolAction S A} (hw : Inv maxSlots w) (h : w.step name action = some w') :
    SafeStep w action w' where
  removed := (hw.step h).2.removed
  recorded := by
    intro call call' hcall hcall'
    have hsame : w'.call = w.call → call' = call := fun heq =>
      Option.some.inj (hcall'.symm.trans (heq.trans hcall))
    cases action with
    | begin spec update created =>
      simp only [PoolWorld.step, hcall] at h
      cases h
    | perform =>
      simp only [PoolWorld.step] at h
      split at h
      · next began spec created op rest history heq =>
        cases h
        cases heq.symm.trans hcall
        cases hcall'
        exact .inr ⟨op, rest, rfl, rfl, rfl⟩
      · cases h
    | finish =>
      simp only [PoolWorld.step] at h
      split at h
      · cases h
        cases hcall'
      · cases h
    | mark k => exact .inl (hsame (by rw [(withClaims_eq_some h).2]))
    | clear k => exact .inl (hsame (by rw [(withClaims_eq_some h).2]))
    | forget k => exact .inl (hsame (by rw [(withClaims_eq_some h).2]))
  turnedOn := ((hw.step h).2.claims hw.pool).turned_on
  turnedOff := ((hw.step h).2.claims hw.pool).turned_off hw.pool.sound
  released := by
    intro k i haction hk
    rcases haction with rfl | rfl | rfl
    · rw [(withClaims_eq_some h).2]
      exact Claims.Release.mark.claimed_released hk
    · rw [(withClaims_eq_some h).2]
      exact Claims.Release.clear.claimed_released hk
    · rw [(withClaims_eq_some h).2]
      exact Claims.Release.forget.claimed_released hk

end PoolWorld

/-- **Sharing an output pool is safe**, of NV12 and of packed slots. -/
theorem output_pools (A B : Type) (maxSlots : Nat) :
    (∀ w : PoolWorld ((UInt32 × UInt32) × Nv12ImportStrategy) A,
      w.Reachable "NV12 output" maxSlots →
        w.Safe maxSlots ∧ ∀ action w', w.step "NV12 output" action = some w' →
          w.SafeStep action w') ∧
    (∀ w : PoolWorld (UInt32 × UInt32) B, w.Reachable "packed output" maxSlots →
      w.Safe maxSlots ∧ ∀ action w', w.step "packed output" action = some w' →
        w.SafeStep action w') :=
  ⟨fun _ h => ⟨h.inv.safe, fun _ _ hstep => h.inv.safe_step hstep⟩,
    fun _ h => ⟨h.inv.safe, fun _ _ hstep => h.inv.safe_step hstep⟩⟩

/-- A slot is made in an empty pool, and its claim is about to return. -/
theorem output_pools_sample :
    ∃ w w' : PoolWorld ((UInt32 × UInt32) × Nv12ImportStrategy) Unit,
      w.pool.claims.leases[0]? = some ⟨0, .held⟩ ∧ w.step "NV12 output" .finish = some w' ∧
        w.Safe 1 ∧ w.SafeStep .finish w' := by
  obtain ⟨w₁, w₂, w₃, hbegin, hperform, hfinish, hw⟩ :
      ∃ w₁ w₂ w₃ : PoolWorld ((UInt32 × UInt32) × Nv12ImportStrategy) Unit,
        (PoolWorld.new 1).step "NV12 output"
          (.begin ((16, 16), .linearBufferToRgba) (fun _ => .ok ()) (.ok ())) = some w₁ ∧
          w₁.step "NV12 output" .perform = some w₂ ∧ w₂.step "NV12 output" .finish = some w₃ ∧
            w₂.pool.claims.leases[0]? = some ⟨0, .held⟩ :=
    ⟨_, _, _, rfl, rfl, rfl, rfl⟩
  have h := (output_pools Unit Unit 1).1 w₂ ((PoolWorld.Reachable.new.step hbegin).step hperform)
  exact ⟨w₂, w₃, hw, hfinish, h.1, h.2 _ _ hfinish⟩

end VideoInterop.Vulkan
