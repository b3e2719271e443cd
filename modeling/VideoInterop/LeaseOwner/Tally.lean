import Mathlib.Data.Finset.Union
import VideoInterop.LeaseOwner.ReleaseQueue

/-!
# The tally of holders

Who holds which lease, how many holders were registered and how many were
retired each way, and which retirements the owner still remembers.  A callback
makes at most one entry in the tally: it registers one holder, forfeits some
whose registration was cancelled, retires one, or notes that a release came
after the abandonment.

The leases as such do not matter here.  Queueing, executing and finishing a
release leave the tally alone.
-/

namespace VideoInterop.LeaseOwner

/-! ## Holders -/

/-- The holders of a lease, none when there is no such lease. -/
def holdersOf (leases : FMap Ref Entry) (token : Ref) : Finset Ref :=
  (leases.fetch token).elim ∅ Entry.holders

/-- All holders, each under its lease. -/
def registeredOf (leases : FMap Ref Entry) : Finset (Ref × Ref) :=
  leases.keys.toFinset.biUnion fun token => (holdersOf leases token).image (Prod.mk token)

variable {leases leases' : FMap Ref Entry} {token holder : Ref} {entry : Entry}

theorem mem_registeredOf {p : Ref × Ref} :
    p ∈ registeredOf leases ↔ p.2 ∈ holdersOf leases p.1 := by
  obtain ⟨token, holder⟩ := p
  simp only [registeredOf, Finset.mem_biUnion, List.mem_toFinset, Finset.mem_image, Prod.mk.injEq]
  constructor
  · rintro ⟨_, -, _, h, rfl, rfl⟩
    exact h
  · intro h
    refine ⟨token, ?_, holder, h, rfl, rfl⟩
    cases hentry : leases.fetch token with
    | none => simp [holdersOf, hentry] at h
    | some entry => exact FMap.mem_keys.mpr ⟨entry, hentry⟩

theorem holdersOf_some (h : leases.fetch token = some entry) :
    holdersOf leases token = entry.holders := by
  rw [holdersOf, h]
  rfl

theorem holdersOf_put (leases : FMap Ref Entry) (token : Ref) (entry : Entry) :
    holdersOf (leases.put token entry) =
      Function.update (holdersOf leases) token entry.holders := by
  funext t
  by_cases ht : t = token
  · subst ht
    simp [holdersOf]
  · simp [holdersOf, ht]

theorem holdersOf_delete (leases : FMap Ref Entry) (token : Ref) :
    holdersOf (leases.delete token) = Function.update (holdersOf leases) token ∅ := by
  funext t
  by_cases ht : t = token
  · subst ht
    simp [holdersOf]
  · simp [holdersOf, ht]

/-- A lease with the holders it had. -/
theorem holdersOf_put_same (hentry : holdersOf leases token = entry.holders) :
    holdersOf (leases.put token entry) = holdersOf leases := by
  rw [holdersOf_put, ← hentry, Function.update_eq_self]

theorem registeredOf_congr (h : holdersOf leases' = holdersOf leases) :
    registeredOf leases' = registeredOf leases := by
  ext p
  rw [mem_registeredOf, mem_registeredOf, h]

/-! ## Tombstones -/

/-- A tombstone is put up: one that is there is overwritten, a new one goes to
the end of the order and may cost the oldest. -/
inductive Buries (p : Ref × Ref) (classification : Classification)
    (tombstones : FMap (Ref × Ref) Classification) (order : List (Ref × Ref)) :
    FMap (Ref × Ref) Classification → List (Ref × Ref) → Prop where
  | known {old} (hold : tombstones.fetch p = some old) :
      Buries p classification tombstones order (tombstones.put p classification) order
  | fresh (hnone : tombstones.fetch p = none)
      (hroom : (tombstones.put p classification).size ≤ releaseTombstoneLimit) :
      Buries p classification tombstones order (tombstones.put p classification) (order ++ [p])
  | evict {oldest rest} (hnone : tombstones.fetch p = none) (horder : order ++ [p] = oldest :: rest)
      (hfull : releaseTombstoneLimit < (tombstones.put p classification).size) :
      Buries p classification tombstones order
        ((tombstones.put p classification).delete oldest) rest

/-- The order lists the tombstones, each once. -/
structure Listed (tombstones : FMap (Ref × Ref) Classification) (order : List (Ref × Ref)) :
    Prop where
  /-- The order names nobody twice. -/
  nodup : order.Nodup
  /-- The order names those with a tombstone. -/
  mem : ∀ p, p ∈ order ↔ ∃ classification, tombstones.fetch p = some classification

/-- The abandonments that are remembered and not followed by a release. -/
def abandonedOf (tombstones : FMap (Ref × Ref) Classification) : Nat :=
  tombstones.entries.countP fun e => e.2 = .abandoned

variable {p : Ref × Ref} {classification : Classification}
  {tombstones tombstones' : FMap (Ref × Ref) Classification} {order order' : List (Ref × Ref)}

theorem abandonedOf_put (tombstones : FMap (Ref × Ref) Classification) (p : Ref × Ref)
    (classification : Classification) :
    abandonedOf (tombstones.put p classification) =
      abandonedOf (tombstones.delete p) + if classification = .abandoned then 1 else 0 := by
  rw [abandonedOf, FMap.entries_put, List.countP_cons]
  simp [abandonedOf]

theorem abandonedOf_delete (h : tombstones.fetch p = some classification) :
    abandonedOf tombstones =
      abandonedOf (tombstones.delete p) + if classification = .abandoned then 1 else 0 := by
  rw [abandonedOf, (FMap.entries_perm_of_some h).countP_eq, List.countP_cons]
  simp [abandonedOf]

theorem abandonedOf_delete_le (tombstones : FMap (Ref × Ref) Classification) (p : Ref × Ref) :
    abandonedOf (tombstones.delete p) ≤ abandonedOf tombstones := by
  cases h : tombstones.fetch p with
  | none => rw [FMap.delete_of_none h]
  | some old =>
      rw [abandonedOf_delete h]
      omega

/-- A burial remembers at most one abandonment more. -/
theorem Buries.abandonedOf_le (h : Buries p classification tombstones order tombstones' order') :
    abandonedOf tombstones' ≤
      abandonedOf tombstones + if classification = .abandoned then 1 else 0 := by
  have hput := abandonedOf_put tombstones p classification
  have hdelete := abandonedOf_delete_le tombstones p
  cases h with
  | known _ => omega
  | fresh _ _ => omega
  | @evict oldest _ _ _ _ =>
      have hevict := abandonedOf_delete_le (tombstones.put p classification) oldest
      omega

/-- Only the buried holder's tombstone is new. -/
theorem Buries.fetch (h : Buries p classification tombstones order tombstones' order')
    {q : Ref × Ref} {c : Classification} (hq : tombstones'.fetch q = some c) :
    q = p ∨ tombstones.fetch q = some c := by
  cases h with
  | known _ =>
      rw [FMap.fetch_put] at hq
      split at hq
      · exact .inl ‹_›
      · exact .inr hq
  | fresh _ _ =>
      rw [FMap.fetch_put] at hq
      split at hq
      · exact .inl ‹_›
      · exact .inr hq
  | evict _ _ _ =>
      rw [FMap.fetch_delete, FMap.fetch_put] at hq
      split at hq
      · cases hq
      · split at hq
        · exact .inl ‹_›
        · exact .inr hq

theorem Listed.put_known (h : Listed tombstones order) (hp : ∃ old, tombstones.fetch p = some old) :
    Listed (tombstones.put p classification) order := by
  refine ⟨h.nodup, fun q => ?_⟩
  by_cases hq : q = p
  · subst hq
    simp [(h.mem q).mpr hp]
  · simp [h.mem, hq]

theorem Listed.put_fresh (h : Listed tombstones order) (hnone : tombstones.fetch p = none) :
    Listed (tombstones.put p classification) (order ++ [p]) := by
  have hnew : p ∉ order := by
    rw [h.mem, hnone]
    simp
  refine ⟨?_, fun q => ?_⟩
  · rw [← List.concat_eq_append]
    exact h.nodup.concat hnew
  · by_cases hq : q = p <;> simp [h.mem, hq]

theorem Listed.evict {oldest : Ref × Ref} (h : Listed tombstones (oldest :: order)) :
    Listed (tombstones.delete oldest) order := by
  obtain ⟨hgone, hnodup⟩ := List.nodup_cons.mp h.nodup
  refine ⟨hnodup, fun q => ?_⟩
  by_cases hq : q = oldest
  · subst hq
    simp [hgone]
  · have hmem := h.mem q
    simpa [hq] using hmem

theorem Buries.listed (h : Buries p classification tombstones order tombstones' order')
    (hlisted : Listed tombstones order) : Listed tombstones' order' := by
  cases h with
  | known hold => exact hlisted.put_known ⟨_, hold⟩
  | fresh hnone _ => exact hlisted.put_fresh hnone
  | evict hnone horder _ => exact (horder ▸ hlisted.put_fresh hnone).evict

/-! ## The tally -/

/-- What the owner keeps of its holders. -/
structure Tally where
  /-- The registered ones, with their tokens. -/
  registered : Finset (Ref × Ref)
  /-- How many the owner counts. -/
  activeHolders : Nat
  /-- How many were ever registered. -/
  issued : Nat
  /-- `explicit_releases` and `abandonments`. -/
  retired : Classification → Nat
  /-- The releases that came after an abandonment. -/
  late : Nat
  /-- How each remembered holder was retired. -/
  tombstones : FMap (Ref × Ref) Classification
  /-- The remembered holders, oldest first. -/
  order : List (Ref × Ref)

/-- The tally of an owner's state. -/
def State.tally (s : State) : Tally where
  registered := registeredOf s.leases
  activeHolders := s.activeHolders
  issued := s.counters .issuedHolders
  retired := fun classification => s.counters classification.counter
  late := s.counters .lateReleasesAfterAbandonment
  tombstones := s.releaseTombstones
  order := s.releaseTombstoneOrder

namespace Tally

/-- The tally without some holders. -/
def without (T : Tally) (gone : Finset (Ref × Ref)) : Tally :=
  { T with
    registered := T.registered \ gone
    activeHolders := T.activeHolders - gone.card }

/-- An entry in the tally. -/
inductive Act where
  | idle
  | register (p : Ref × Ref)
  /-- Registrations that were cancelled. -/
  | forfeit (gone : Finset (Ref × Ref))
  | retire (classification : Classification) (p : Ref × Ref)
  | late (p : Ref × Ref)

/-- What an act needs and does. -/
inductive Step (T : Tally) : Act → Tally → Prop where
  | idle : Step T .idle T
  | register {p : Ref × Ref} (hp : p ∉ T.registered) :
      Step T (.register p)
        { T with
          registered := insert p T.registered
          activeHolders := T.activeHolders + 1
          issued := T.issued + 1 }
  | forfeit {gone} (hgone : gone ⊆ T.registered) : Step T (.forfeit gone) (T.without gone)
  | retire {classification : Classification} {p : Ref × Ref}
      {tombstones : FMap (Ref × Ref) Classification} {order : List (Ref × Ref)}
      (hp : p ∈ T.registered)
      (hburies : Buries p classification T.tombstones T.order tombstones order) :
      Step T (.retire classification p)
        { T.without {p} with
          retired := Function.update T.retired classification (T.retired classification + 1)
          tombstones := tombstones
          order := order }
  | late {p : Ref × Ref} (hp : T.tombstones.fetch p = some .abandoned) :
      Step T (.late p)
        { T with tombstones := T.tombstones.put p .explicit, late := T.late + 1 }

/-! ## What every tally keeps -/

/-- The counters fit the holders. -/
structure Sound (T : Tally) : Prop where
  /-- Registered holders are counted. -/
  active : T.activeHolders = T.registered.card
  /-- Those retired and registered were issued. -/
  issued : T.retired .explicit + T.retired .abandoned + T.activeHolders ≤ T.issued
  /-- A late release has turned a tombstone. -/
  late : T.late + abandonedOf T.tombstones ≤ T.retired .abandoned
  /-- The order lists the tombstones. -/
  listed : Listed T.tombstones T.order

variable {T T' : Tally} {act : Act}

/-- What forfeits and retirements take away was counted. -/
theorem Sound.without (h : Sound T) {gone : Finset (Ref × Ref)} (hgone : gone ⊆ T.registered) :
    (T.without gone).activeHolders = (T.without gone).registered.card ∧
      (T.without gone).activeHolders + gone.card = T.activeHolders := by
  have hcard : (T.registered \ gone).card = T.registered.card - gone.card :=
    Finset.card_sdiff_of_subset hgone
  have hle := Finset.card_le_card hgone
  have hactive := h.active
  show T.activeHolders - gone.card = (T.registered \ gone).card ∧
    T.activeHolders - gone.card + gone.card = T.activeHolders
  omega

theorem Step.sound (h : Sound T) (hst : Step T act T') : Sound T' := by
  obtain ⟨hactive, hissued, hlate, hlisted⟩ := h
  cases hst with
  | idle => exact ⟨hactive, hissued, hlate, hlisted⟩
  | register hp =>
      refine ⟨?_, ?_, hlate, hlisted⟩
      · show T.activeHolders + 1 = (insert _ T.registered).card
        rw [Finset.card_insert_of_notMem hp, hactive]
      · show T.retired .explicit + T.retired .abandoned + (T.activeHolders + 1) ≤ T.issued + 1
        omega
  | forfeit hgone =>
      obtain ⟨hcard, hle⟩ := Sound.without ⟨hactive, hissued, hlate, hlisted⟩ hgone
      refine ⟨hcard, ?_, hlate, hlisted⟩
      show T.retired .explicit + T.retired .abandoned + (T.without _).activeHolders ≤ T.issued
      omega
  | @retire classification p tombstones order hp hburies =>
      obtain ⟨hcard, hle⟩ := Sound.without ⟨hactive, hissued, hlate, hlisted⟩
        (Finset.singleton_subset_iff.mpr hp)
      rw [Finset.card_singleton] at hle
      have hone := hburies.abandonedOf_le
      refine ⟨hcard, ?_, ?_, hburies.listed hlisted⟩
      · show Function.update T.retired classification _ .explicit +
          Function.update T.retired classification _ .abandoned + (T.without {p}).activeHolders ≤
            T.issued
        cases classification <;> simp only [Function.update_apply] <;> simp <;> omega
      · show T.late + abandonedOf tombstones ≤ Function.update T.retired classification _ .abandoned
        cases classification <;> simp at hone ⊢ <;> omega
  | @late p hp =>
      refine ⟨hactive, hissued, ?_, hlisted.put_known ⟨_, hp⟩⟩
      have hput := abandonedOf_put T.tombstones p .explicit
      have hdelete := abandonedOf_delete hp
      simp only [reduceCtorEq, if_false, if_true] at hput hdelete
      show T.late + 1 + abandonedOf (T.tombstones.put p .explicit) ≤ T.retired .abandoned
      omega

/-! ## Holders that are made once -/

/-- Nothing but what was made is registered or remembered, and no holder is
both. -/
structure Fresh (made : List (Ref × Ref)) (T : Tally) : Prop where
  /-- A registered holder was made. -/
  registered : ∀ p ∈ T.registered, p ∈ made
  /-- A remembered holder was made. -/
  remembered : ∀ p classification, T.tombstones.fetch p = some classification → p ∈ made
  /-- No registered holder is remembered. -/
  apart : ∀ p ∈ T.registered, T.tombstones.fetch p = none

/-- What an entry registers. -/
def Act.made : Act → Option (Ref × Ref)
  | .register p => some p
  | _ => none

theorem Fresh.mono {made made' : List (Ref × Ref)} (h : Fresh made T) (hsub : made ⊆ made') :
    Fresh made' T :=
  ⟨fun p hp => hsub (h.registered p hp), fun p c hp => hsub (h.remembered p c hp), h.apart⟩

/-- A holder that is registered was not made before. -/
theorem Step.fresh {made : List (Ref × Ref)} (h : Fresh made T) (hst : Step T act T')
    (hnew : ∀ p, act.made = some p → p ∉ made) : Fresh (made ++ act.made.toList) T' := by
  obtain ⟨hregistered, hremembered, hapart⟩ := h
  cases hst with
  | idle => exact Fresh.mono ⟨hregistered, hremembered, hapart⟩ (List.subset_append_left _ _)
  | @register p hp =>
      have hnone : T.tombstones.fetch p = none := by
        refine Option.eq_none_iff_forall_ne_some.mpr fun c hc => ?_
        exact hnew p rfl (hremembered p c hc)
      refine ⟨fun q hq => ?_, fun q c hq => ?_, fun q hq => ?_⟩
      · rcases Finset.mem_insert.mp hq with rfl | hq
        · exact List.mem_append.mpr (.inr (List.mem_singleton_self _))
        · exact List.mem_append.mpr (.inl (hregistered q hq))
      · exact List.mem_append.mpr (.inl (hremembered q c hq))
      · rcases Finset.mem_insert.mp hq with rfl | hq
        · exact hnone
        · exact hapart q hq
  | forfeit hgone =>
      refine Fresh.mono (show Fresh made _ from ⟨fun q hq => ?_, hremembered, fun q hq => ?_⟩)
        (List.subset_append_left _ _)
      · exact hregistered q (Finset.mem_sdiff.mp hq).1
      · exact hapart q (Finset.mem_sdiff.mp hq).1
  | @retire classification p tombstones order hp hburies =>
      refine Fresh.mono
        (show Fresh made _ from ⟨fun q hq => ?_, fun q c hq => ?_, fun q hq => ?_⟩)
        (List.subset_append_left _ _)
      · exact hregistered q (Finset.mem_sdiff.mp hq).1
      · rcases hburies.fetch hq with rfl | hq
        · exact hregistered q hp
        · exact hremembered q c hq
      · obtain ⟨hq, hne⟩ := Finset.mem_sdiff.mp hq
        refine Option.eq_none_iff_forall_ne_some.mpr fun c hc => ?_
        rcases hburies.fetch hc with rfl | hold
        · exact hne (Finset.mem_singleton_self _)
        · rw [hapart q hq] at hold
          cases hold
  | @late p hp =>
      refine Fresh.mono (show Fresh made _ from ⟨hregistered, fun q c hq => ?_, fun q hq => ?_⟩)
        (List.subset_append_left _ _)
      · rw [FMap.fetch_put] at hq
        split at hq
        · next heq => exact hremembered q _ (heq ▸ hp)
        · exact hremembered q c hq
      · have hne : q ≠ p := fun heq => by
          have hnone := hapart q hq
          rw [heq, hp] at hnone
          cases hnone
        rw [FMap.fetch_put, if_neg hne]
        exact hapart q hq

end Tally

/-! ## What the private functions do to it -/

/-- The counters the tally reads. -/
def CounterKey.tallied : CounterKey → Bool
  | .issuedHolders | .explicitReleases | .abandonments | .lateReleasesAfterAbandonment => true
  | _ => false

/-- The two states have the same counters, as far as the tally reads them. -/
def SameCounts (s s' : State) : Prop :=
  ∀ key : CounterKey, key.tallied = true → s'.counters key = s.counters key

variable {env : Env} {s s' s₁ : State} {job : RunningJob}

theorem SameCounts.trans (h : SameCounts s s₁) (h' : SameCounts s₁ s') : SameCounts s s' :=
  fun key hkey => (h' key hkey).trans (h key hkey)

theorem countKeys_apply (keys : List CounterKey) (counters : CounterKey → Nat) (key : CounterKey) :
    countKeys keys counters key = counters key + keys.count key := by
  unfold countKeys
  induction keys generalizing counters with
  | nil => rfl
  | cons first keys ih =>
      rw [List.foldl_cons, ih, List.count_cons]
      by_cases h : key = first
      · subst h
        simp
        omega
      · simp [h, Ne.symm h]

theorem count_one (key k : CounterKey) : [key].count k = if k = key then 1 else 0 := by
  by_cases h : k = key
  · subst h
    simp
  · simp [h, Ne.symm h]

theorem sameCounts_bump (keys : List CounterKey) (h : ∀ key ∈ keys, key.tallied = false)
    (s : State) : SameCounts s (bump keys s) := by
  intro key hkey
  show countKeys keys s.counters key = s.counters key
  rw [countKeys_apply, List.count_eq_zero.mpr]
  · rfl
  · intro hmem
    rw [h key hmem] at hkey
    cases hkey

theorem not_tallied_of_noise {key : CounterKey} (h : key.noise = true) : key.tallied = false := by
  cases key <;> first | rfl | cases h

theorem State.tally_congr (hholders : holdersOf s'.leases = holdersOf s.leases)
    (hactive : s'.activeHolders = s.activeHolders) (hcounts : SameCounts s s')
    (htombstones : s'.releaseTombstones = s.releaseTombstones)
    (horder : s'.releaseTombstoneOrder = s.releaseTombstoneOrder) : s'.tally = s.tally := by
  have hretired : (fun c : Classification => s'.counters c.counter) =
      fun c => s.counters c.counter := by
    funext c
    exact hcounts _ (by cases c <;> rfl)
  simp only [State.tally, registeredOf_congr hholders, hactive, htombstones, horder, hretired,
    hcounts .issuedHolders rfl, hcounts .lateReleasesAfterAbandonment rfl]

/-- A callback that changes none of the fields the tally reads. -/
theorem tally_frame (hleases : s'.leases = s.leases) (hactive : s'.activeHolders = s.activeHolders)
    (hcounts : SameCounts s s') (htombstones : s'.releaseTombstones = s.releaseTombstones)
    (horder : s'.releaseTombstoneOrder = s.releaseTombstoneOrder) : s'.tally = s.tally :=
  State.tally_congr (by rw [hleases]) hactive hcounts htombstones horder

theorem registeredOf_without {gone : Finset Ref}
    (h : holdersOf leases' =
      Function.update (holdersOf leases) token (holdersOf leases token \ gone)) :
    registeredOf leases' = registeredOf leases \ gone.image (Prod.mk token) := by
  ext ⟨t, holder⟩
  rw [Finset.mem_sdiff, mem_registeredOf, mem_registeredOf, h]
  by_cases ht : t = token
  · subst ht
    simp
  · simp [ht, Ne.symm ht]

theorem registeredOf_insert
    (h : holdersOf leases' =
      Function.update (holdersOf leases) token (insert holder (holdersOf leases token))) :
    registeredOf leases' = insert (token, holder) (registeredOf leases) := by
  ext ⟨t, other⟩
  rw [Finset.mem_insert, mem_registeredOf, mem_registeredOf, h]
  by_cases ht : t = token
  · subst ht
    simp
  · simp [ht]

theorem dispatch_tally (hdispatch : dispatchNextRelease env s = some s') : s'.tally = s.tally := by
  rcases dispatchNextRelease_cases hdispatch with
    ⟨rfl, -⟩ | ⟨job, rest, entry, -, -, hentry, rfl⟩
  · rfl
  · exact State.tally_congr (holdersOf_put_same (by rw [holdersOf_some hentry])) rfl
      (fun _ _ => rfl) rfl rfl

/-- A lease that is to be released has no holders. -/
theorem releaseEntry_tally {isRetry : Bool} {waiter : Option Waiter} (hholders : entry.holders = ∅)
    (hrelease : releaseEntry env token entry s isRetry waiter = some s') :
    s'.tally =
      { s.tally with
        registered := s.tally.registered \ (holdersOf s.leases token).image (Prod.mk token) } := by
  obtain ⟨sent, -, heq⟩ := releaseEntry_eq env token entry s isRetry waiter
  rw [heq] at hrelease
  have hleases : holdersOf (s.enqueueRelease env token entry isRetry waiter sent).leases =
      Function.update (holdersOf s.leases) token
        (holdersOf s.leases token \ holdersOf s.leases token) := by
    rw [Finset.sdiff_self, ← hholders]
    exact holdersOf_put s.leases token (entry.queued env.generation)
  rw [dispatch_tally hrelease]
  simp only [State.tally, registeredOf_without hleases]
  rfl

theorem removeHolder_tally
    (hlive : (removeHolder env token holder entry s).live? = some s')
    (hentry : holdersOf s.leases token = entry.holders) :
    ((token, holder) ∈ s.tally.registered ∧ s'.tally = s.tally.without {(token, holder)}) ∨
      ((token, holder) ∉ s.tally.registered ∧ s'.tally = s.tally) := by
  have hmem : (token, holder) ∈ s.tally.registered ↔ holder ∈ entry.holders := by
    rw [← hentry]
    exact mem_registeredOf
  rw [hmem]
  unfold removeHolder at hlive
  split at hlive
  · next hholder =>
      refine .inl ⟨hholder, ?_⟩
      simp only at hlive
      split at hlive
      · next hlast =>
          have hempty : entry.holders.erase holder = ∅ := Finset.card_eq_zero.mp hlast
          have hone : entry.holders = {holder} := by
            rw [← Finset.insert_erase hholder, hempty]
            rfl
          split at hlive
          · next s₁ hs₁ =>
              obtain rfl := stopOrContinue_live hlive
              rw [releaseEntry_tally hempty hs₁]
              simp only [State.tally, Tally.without, hentry, hone, Finset.image_singleton,
                Finset.card_singleton]
          · cases hlive
      · cases hlive
        have hleases : holdersOf (s.leases.put token
            { entry with holders := entry.holders.erase holder }) =
              Function.update (holdersOf s.leases) token (holdersOf s.leases token \ {holder}) := by
          rw [hentry, Finset.sdiff_singleton_eq_erase]
          exact holdersOf_put _ _ _
        simp only [State.tally, registeredOf_without hleases, Tally.without]
        rfl
  · next hholder =>
      cases hlive
      refine .inr ⟨hholder, ?_⟩
      exact tally_frame rfl rfl (fun key hkey => by cases key <;> first | rfl | cases hkey) rfl rfl

/-! ## Finishing a job -/

theorem countFinished_sameCounts (job : RunningJob) (durationNs : Nat) (s : State) :
    SameCounts s (countFinished job durationNs s) := by
  intro key hkey
  unfold countFinished maybeCountRetry
  split <;> cases key <;> first | rfl | cases hkey

theorem finishError_sameCounts (env : Env) (token : Ref) (entry : Entry) (job : RunningJob)
    (reason : ReleaseError) (s : State) :
    SameCounts s (finishError env token entry job reason s) := by
  intro key hkey
  unfold finishError
  simp only
  obtain ⟨_, _, _, h₁⟩ := scheduleRetry_frame env token
    { entry with status := .releaseFailed reason } (replyAllDrainWaiters env
      (.error (.releaseFailed token reason)) (replyReleaseWaiter job.waiter (.error reason) token
        (notify (.leaseReleaseFailed token entry.metadata reason)
          ({ s with leases := s.leases.put token { entry with status := .releaseFailed reason }
            }.updateCounter .releaseFailures 1))))
  obtain ⟨_, _, _, _, h₂⟩ := replyAllDrainWaiters_frame env (.error (.releaseFailed token reason))
    (replyReleaseWaiter job.waiter (.error reason) token
      (notify (.leaseReleaseFailed token entry.metadata reason)
        ({ s with leases := s.leases.put token { entry with status := .releaseFailed reason }
          }.updateCounter .releaseFailures 1)))
  obtain ⟨_, _, h₃⟩ := replyReleaseWaiter_frame job.waiter (.error reason) token
    (notify (.leaseReleaseFailed token entry.metadata reason)
      ({ s with leases := s.leases.put token { entry with status := .releaseFailed reason }
        }.updateCounter .releaseFailures 1))
  obtain ⟨_, _, h₄⟩ := notify_frame (.leaseReleaseFailed token entry.metadata reason)
    ({ s with leases := s.leases.put token { entry with status := .releaseFailed reason }
      }.updateCounter .releaseFailures 1)
  rw [h₁, h₂, h₃, h₄]
  cases key <;> first | rfl | cases hkey

theorem finishError_tally (env : Env) (reason : ReleaseError)
    (hentry : s.leases.fetch token = some entry) :
    (finishError env token entry job reason s).tally = s.tally := by
  have hcounts := finishError_sameCounts env token entry job reason s
  obtain ⟨counters, timers, waiters, monitors, sent, -, heq⟩ :=
    finishError_eq env token entry job reason s
  rw [heq] at hcounts ⊢
  exact State.tally_congr (holdersOf_put_same (by rw [holdersOf_some hentry])) rfl hcounts rfl rfl

theorem finishOk_tally {value : Term} {durationNs : Nat}
    (hentry : s.leases.fetch token = some entry) (hholders : entry.holders = ∅) :
    (finishOk token entry job value durationNs s).tally = s.tally := by
  obtain ⟨sent, -, heq⟩ := finishOk_eq token entry job value durationNs s
  rw [heq]
  refine State.tally_congr ?_ rfl (fun _ _ => rfl) rfl rfl
  show holdersOf (s.leases.delete token) = holdersOf s.leases
  rw [holdersOf_delete, ← hholders, ← holdersOf_some hentry, Function.update_eq_self]

theorem countFinished_tally (job : RunningJob) (durationNs : Nat) (s : State) :
    (countFinished job durationNs s).tally = s.tally := by
  have hcounts := countFinished_sameCounts job durationNs s
  obtain ⟨counters, heq⟩ := countFinished_eq job durationNs s
  rw [heq] at hcounts ⊢
  exact tally_frame rfl rfl hcounts rfl rfl

theorem countFinished_leases (job : RunningJob) (durationNs : Nat) (s : State) :
    (countFinished job durationNs s).leases = s.leases := by
  obtain ⟨counters, heq⟩ := countFinished_eq job durationNs s
  rw [heq]

theorem failed_tally (env : Env) (reason : ReleaseError) (durationNs : Nat)
    (hentry : s.leases.fetch token = some entry) :
    (finishError env token entry job reason (countFinished job durationNs s)).tally = s.tally :=
  (finishError_tally env reason (by rw [countFinished_leases, hentry])).trans
    (countFinished_tally job durationNs s)

theorem settle_tally {result : Finish} {durationNs : Nat}
    (hentry : s.leases.fetch token = some entry) (hholders : entry.holders = ∅)
    (hsettle : settle env token entry job result durationNs (countFinished job durationNs s) =
      some s') : s'.tally = s.tally := by
  rcases settle_cases hsettle with ⟨value, -, rfl⟩ | ⟨reason, -, rfl⟩
  · exact (finishOk_tally (by rw [countFinished_leases, hentry]) hholders).trans
      (countFinished_tally job durationNs s)
  · exact failed_tally env reason durationNs hentry

/-! ## Registering and retiring -/

theorem register_tally (key : CounterKey)
    (hp : p ∉ registeredOf s.leases)
    (hleases : registeredOf s'.leases = insert p (registeredOf s.leases))
    (hactive : s'.activeHolders = s.activeHolders + 1) (hkey : key.tallied = false)
    (hcounters : s'.counters = countKeys [key, .issuedHolders] s.counters)
    (htombstones : s'.releaseTombstones = s.releaseTombstones)
    (horder : s'.releaseTombstoneOrder = s.releaseTombstoneOrder) :
    Tally.Step s.tally (.register p) s'.tally := by
  have hcount : ∀ k : CounterKey, k.tallied = true →
      s'.counters k = s.counters k + if k = .issuedHolders then 1 else 0 := by
    intro k hk
    have hne : key ≠ k := fun h => by
      rw [← h, hkey] at hk
      cases hk
    rw [hcounters, countKeys_apply, List.count_cons_of_ne hne, count_one]
  have hretired : s'.tally.retired = s.tally.retired := by
    funext c
    cases c <;> exact hcount _ rfl
  have heq : s'.tally =
      { s.tally with
        registered := insert p s.tally.registered
        activeHolders := s.tally.activeHolders + 1
        issued := s.tally.issued + 1 } := by
    have hissued := hcount .issuedHolders rfl
    have hlate := hcount .lateReleasesAfterAbandonment rfl
    simp only [State.tally] at hretired
    simp only [State.tally, hleases, hactive, htombstones, horder, hretired, hissued, hlate]
    rfl
  rw [heq]
  exact .register hp

theorem evictReleaseTombstones_sameCounts (h : evictReleaseTombstones s = some s') :
    SameCounts s s' := by
  intro key hkey
  unfold evictReleaseTombstones at h
  split at h
  · cases h
    rfl
  · split at h
    · cases h
    · split at h
      · cases h
      · simp only at h
        cases h
        split <;> cases key <;> first | rfl | cases hkey

theorem evictReleaseTombstones_cases (h : evictReleaseTombstones s = some s') :
    (s.releaseTombstones.size ≤ releaseTombstoneLimit ∧
        s'.releaseTombstones = s.releaseTombstones ∧
        s'.releaseTombstoneOrder = s.releaseTombstoneOrder) ∨
      releaseTombstoneLimit < s.releaseTombstones.size ∧
        ∃ oldest, s.releaseTombstoneOrder = oldest :: s'.releaseTombstoneOrder ∧
          s'.releaseTombstones = s.releaseTombstones.delete oldest := by
  unfold evictReleaseTombstones at h
  split at h
  · next hroom =>
      cases h
      exact .inl ⟨hroom, rfl, rfl⟩
  · next hfull =>
      split at h
      · cases h
      · next oldest rest horder =>
          split at h
          · cases h
          · simp only at h
            cases h
            refine .inr ⟨Nat.lt_of_not_le hfull, oldest, ?_, ?_⟩
            · rw [horder]
              split <;> rfl
            · split <;> rfl

theorem putReleaseTombstone_spec (h : putReleaseTombstone p classification s = some s') :
    Buries p classification s.releaseTombstones s.releaseTombstoneOrder s'.releaseTombstones
        s'.releaseTombstoneOrder ∧
      SameCounts s s' := by
  unfold putReleaseTombstone at h
  split at h
  · next old hold =>
      cases h
      exact ⟨.known hold, fun _ _ => rfl⟩
  · next hnone =>
      have hcounts := evictReleaseTombstones_sameCounts h
      refine ⟨?_, hcounts⟩
      rcases evictReleaseTombstones_cases h with
        ⟨hroom, htombstones, horder⟩ | ⟨hfull, oldest, horder, htombstones⟩
      · rw [htombstones, horder]
        exact .fresh hnone hroom
      · rw [htombstones]
        exact .evict hnone horder hfull

/-- The order always has a tombstone to evict. -/
theorem putReleaseTombstone_some (p : Ref × Ref) (classification : Classification)
    (h : Listed s.releaseTombstones s.releaseTombstoneOrder) :
    ∃ s', putReleaseTombstone p classification s = some s' := by
  unfold putReleaseTombstone
  split
  · exact ⟨_, rfl⟩
  · next hnone =>
      have hlisted : Listed (s.releaseTombstones.put p classification)
        (s.releaseTombstoneOrder ++ [p]) := h.put_fresh hnone
      unfold evictReleaseTombstones
      split
      · exact ⟨_, rfl⟩
      · cases horder : s.releaseTombstoneOrder ++ [p] with
        | nil => simp at horder
        | cons oldest rest =>
            obtain ⟨c, hc⟩ := (hlisted.mem oldest).mp (by rw [horder]; exact List.mem_cons_self)
            simp only [hc]
            exact ⟨_, rfl⟩

theorem retire_tally {classification : Classification} {monitors : FMap Ref MonitorTarget}
    {sent : List Signal} (hp : (token, holder) ∈ registeredOf s.leases)
    (hput : putReleaseTombstone (token, holder) classification
      { bump [classification.counter] s with protocolMonitors := monitors, sent := sent } = some s₁)
    (hlive : (removeHolder env token holder entry s₁).live? = some s')
    (hentry : holdersOf s.leases token = entry.holders) :
    Tally.Step s.tally (.retire classification (token, holder)) s'.tally := by
  obtain ⟨hburies, hcounts⟩ := putReleaseTombstone_spec hput
  obtain ⟨tombstones, order, counters, heq⟩ := putReleaseTombstone_frame hput
  subst heq
  have hcount : ∀ k : CounterKey, k.tallied = true →
      counters k = s.counters k + if k = classification.counter then 1 else 0 := by
    intro k hk
    refine (hcounts k hk).trans ((countKeys_apply _ _ _).trans ?_)
    rw [count_one]
  have hretired : (fun c : Classification => counters c.counter) =
      Function.update s.tally.retired classification (s.tally.retired classification + 1) := by
    funext c
    rw [hcount _ (by cases c <;> rfl)]
    cases c <;> cases classification <;> rfl
  rcases removeHolder_tally hlive hentry with ⟨-, heq⟩ | ⟨hno, -⟩
  · rw [heq]
    have htally : Tally.without (State.tally
        { bump [classification.counter] s with
          protocolMonitors := monitors
          sent := sent
          releaseTombstones := tombstones
          releaseTombstoneOrder := order
          counters := counters }) {(token, holder)} =
        { s.tally.without {(token, holder)} with
          retired := Function.update s.tally.retired classification
            (s.tally.retired classification + 1)
          tombstones := tombstones
          order := order } := by
      have hissued := hcount .issuedHolders rfl
      have hlate := hcount .lateReleasesAfterAbandonment rfl
      rw [if_neg (by cases classification <;> simp [Classification.counter])] at hissued hlate
      simp only [Tally.without, State.tally, hretired, hissued, hlate]
      rfl
    rw [htally]
    exact .retire hp hburies
  · exact absurd hp hno

theorem late_tally (hp : s.releaseTombstones.fetch p = some .abandoned) :
    Tally.Step s.tally (.late p)
      (State.tally { bump [.lateReleasesAfterAbandonment] s with
        releaseTombstones := s.releaseTombstones.put p .explicit }) := by
  have hcount : ∀ key : CounterKey, countKeys [.lateReleasesAfterAbandonment] s.counters key =
      s.counters key + if key = .lateReleasesAfterAbandonment then 1 else 0 := fun key => by
    rw [countKeys_apply, count_one]
  have hretired : (fun c : Classification =>
      countKeys [.lateReleasesAfterAbandonment] s.counters c.counter) =
        fun c => s.counters c.counter := by
    funext c
    cases c <;> exact hcount _
  have hissued := hcount .issuedHolders
  have hlate := hcount .lateReleasesAfterAbandonment
  have heq : State.tally { bump [.lateReleasesAfterAbandonment] s with
      releaseTombstones := s.releaseTombstones.put p .explicit } =
      { s.tally with
        tombstones := s.tally.tombstones.put p .explicit
        late := s.tally.late + 1 } := by
    simp only [State.tally, bump, hretired, hissued, hlate]
    rfl
  rw [heq]
  exact .late hp

/-! ## Every callback -/

/-- The holder an event may register. -/
def holderBy (env : Env) : Event → Option (Ref × Ref)
  | .info (.commitIssue ..) => some (env.token, env.holder)
  | .info (.retain token _ childHolder _ _) => some (token, childHolder)
  | _ => none

/-- The holder an event names, and what its retirement counts as. -/
def Event.retires : Event → Option (Classification × Ref × Ref)
  | .info (.release token holder) => some (.explicit, token, holder)
  | .info (.abandoned token holder) => some (.abandoned, token, holder)
  | _ => none

/-- The events an entry comes from. -/
def Tally.Act.From (env : Env) (event : Event) : Tally.Act → Prop
  | .idle => True
  | .register p => holderBy env event = some p
  | .forfeit _ => event.retires = none
  | .retire classification p => event.retires = some (classification, p)
  | .late p => event.retires = some (.explicit, p)

/-- A callback makes one entry in the tally. -/
def Tallies (env : Env) (s : State) (event : Event) (s' : State) : Prop :=
  ∃ act, Tally.Step s.tally act s'.tally ∧ act.From env event

variable {event : Event}

theorem Tally.Act.From.made {act : Tally.Act} (h : act.From env event) {p : Ref × Ref}
    (hp : act.made = some p) : holderBy env event = some p := by
  cases act <;> cases hp
  exact h

theorem Tallies.idle (h : s'.tally = s.tally) : Tallies env s event s' := by
  refine ⟨.idle, ?_, trivial⟩
  rw [h]
  exact .idle

/-- A lease leaves with all its holders. -/
theorem Tallies.revoke (s₁ : State) {entry₀ : Entry} (hentry : s.leases.fetch token = some entry₀)
    (hleases : s₁.leases = s.leases) (hactive : s₁.activeHolders =
      s.activeHolders - entry₀.holders.card) (hcounts : SameCounts s s₁)
    (htombstones : s₁.releaseTombstones = s.releaseTombstones)
    (horder : s₁.releaseTombstoneOrder = s.releaseTombstoneOrder) (hholders : entry.holders = ∅)
    (hrelease : releaseEntry env token entry s₁ = some s') (hevent : event.retires = none) :
    Tallies env s event s' := by
  have hgone : (holdersOf s.leases token).image (Prod.mk token) ⊆ s.tally.registered := by
    intro p hp
    obtain ⟨holder, hholder, rfl⟩ := Finset.mem_image.mp hp
    exact mem_registeredOf.mpr hholder
  have hcard : ((holdersOf s.leases token).image (Prod.mk token)).card = entry₀.holders.card := by
    rw [Finset.card_image_of_injective _ (Prod.mk_right_injective token), holdersOf_some hentry]
  refine ⟨.forfeit ((holdersOf s.leases token).image (Prod.mk token)), ?_, hevent⟩
  have htally : s₁.tally = { s.tally with activeHolders := s₁.activeHolders } :=
    tally_frame (s := { s with activeHolders := s₁.activeHolders }) hleases rfl hcounts htombstones
      horder
  have heq : s'.tally = s.tally.without ((holdersOf s.leases token).image (Prod.mk token)) := by
    rw [releaseEntry_tally hholders hrelease, htally, hactive, hleases]
    simp only [Tally.without, State.tally, hcard]
  rw [heq]
  exact .forfeit hgone

theorem Tallies.remove (hlive : (removeHolder env token holder entry s₁).live? = some s')
    (htally : s₁.tally = s.tally) (hentry : holdersOf s₁.leases token = entry.holders)
    (hevent : event.retires = none) : Tallies env s event s' := by
  rcases removeHolder_tally hlive hentry with ⟨hp, heq⟩ | ⟨-, heq⟩
  · rw [htally] at hp heq
    refine ⟨.forfeit {(token, holder)}, ?_, hevent⟩
    rw [heq]
    exact .forfeit (Finset.singleton_subset_iff.mpr hp)
  · exact .idle (heq.trans htally)

theorem removeIssueReservation_tally (requestRef : Ref) (s : State) (demonitor : Bool) :
    (removeIssueReservation requestRef s demonitor).tally = s.tally := by
  unfold removeIssueReservation
  split
  · cases demonitor <;> rfl
  · rfl

theorem cancelRetryTimer_tally (token : Ref) (s : State) :
    (cancelRetryTimer token s).tally = s.tally := by
  obtain ⟨sent, -, heq⟩ := cancelRetryTimer_eq token s
  rw [heq]
  rfl

theorem startReleaseExecutor_tally (env : Env) (s : State) :
    (startReleaseExecutor env (bump [.releaseExecutorRestarts] s)).tally = s.tally :=
  tally_frame rfl rfl
    (sameCounts_bump [.releaseExecutorRestarts] (by simp [CounterKey.tallied]) s) rfl rfl

/-- A failed lease that is released again has no holders to lose. -/
theorem releaseEntry_again {isRetry : Bool} {waiter : Option Waiter}
    (hentry : s.leases.fetch token = some entry) (hholders : entry.holders = ∅)
    (hrelease : releaseEntry env token entry s isRetry waiter = some s') : s'.tally = s.tally := by
  rw [releaseEntry_tally hholders hrelease, holdersOf_some hentry, hholders, Finset.image_empty,
    Finset.sdiff_empty]

/-- **Every callback of a living owner makes one entry in the tally.** -/
theorem Transition.tally {out : Outcome} (h : Coupled s) (hfresh : s.leases.fetch env.token = none)
    (ht : Transition env s event out) (hlive : out.live? = some s') : Tallies env s event s' := by
  cases ht with
  | raise => cases hlive
  | quiet _ keys hkeys _ hout =>
      rw [hlive] at hout
      cases hout
      refine .idle (tally_frame rfl rfl ?_ rfl rfl)
      exact sameCounts_bump keys (fun key hkey => not_tallied_of_noise (hkeys key hkey)) s
  | reserve _ _ =>
      cases hlive
      exact .idle rfl
  | @issue _ backendToken replyTo requestRef r guard _ _ _ _ _ hout =>
      rw [hlive] at hout
      cases hout
      have hnone : holdersOf s.leases env.token = ∅ := by
        rw [holdersOf, hfresh]
        rfl
      refine ⟨.register (env.token, env.holder), ?_, rfl⟩
      refine register_tally .issuedLeases ?_ (registeredOf_insert ?_) rfl rfl rfl rfl rfl
      · rw [mem_registeredOf, hnone]
        exact Finset.notMem_empty _
      · rw [hnone]
        exact holdersOf_put _ _ _
  | reject _ _ _ _ hrelease =>
      cases hlive
      refine .idle ((releaseEntry_again ?_ rfl hrelease).trans ?_)
      · simp [State.rejected]
      · refine State.tally_congr ?_ rfl (fun _ _ => rfl) rfl rfl
        refine holdersOf_put_same ?_
        show holdersOf s.leases env.token = ∅
        rw [holdersOf, hfresh]
        rfl
  | corrupt _ => cases hlive
  | cancelReservation =>
      rw [stopOrContinue_live hlive]
      exact .idle (removeIssueReservation_tally _ _ _)
  | reservationDown _ _ _ =>
      rw [stopOrContinue_live hlive]
      exact .idle (removeIssueReservation_tally _ _ _)
  | confirmIssue hentry _ _ _ =>
      cases hlive
      exact .idle (State.tally_congr (holdersOf_put_same (by rw [holdersOf_some hentry])) rfl
        (fun _ _ => rfl) rfl rfl)
  | cancelIssue _ hentry _ _ _ hrelease =>
      rw [stopOrContinue_live hlive]
      exact .revoke (s.revoked _ _) hentry rfl rfl (fun _ _ => rfl) rfl rfl rfl hrelease rfl
  | issueDown _ _ hentry _ _ _ hrelease =>
      rw [stopOrContinue_live hlive]
      exact .revoke ((s.unwatched _).revoked _ _) hentry rfl rfl (fun _ _ => rfl) rfl rfl rfl
        hrelease rfl
  | @retain token _ childHolder _ _ entry _ _ _ hentry _ _ hchild _ hout =>
      rw [hlive] at hout
      cases hout
      refine ⟨.register (token, childHolder), ?_, rfl⟩
      refine register_tally .retainRequests ?_ (registeredOf_insert ?_) rfl rfl rfl rfl rfl
      · rw [mem_registeredOf, holdersOf_some hentry]
        exact hchild
      · rw [holdersOf_some hentry]
        exact holdersOf_put _ _ _
  | confirmRetain hentry _ _ _ =>
      cases hlive
      exact .idle (State.tally_congr (holdersOf_put_same (by rw [holdersOf_some hentry])) rfl
        (fun _ _ => rfl) rfl rfl)
  | cancelRetain hentry _ _ _ =>
      refine .remove hlive (tally_frame rfl rfl ?_ rfl rfl) ((holdersOf_some hentry).trans rfl) rfl
      exact sameCounts_bump [.retainCancellations] (by simp [CounterKey.tallied]) s
  | retainDown _ _ hentry _ => exact .remove hlive rfl ((holdersOf_some hentry).trans rfl) rfl
  | staleDown _ _ _ =>
      cases hlive
      exact .idle rfl
  | @retire classification _ _ _ _ _ _ hentry _ hholder _ hput =>
      have hp := (mem_registeredOf (p := (_, _))).mpr ((holdersOf_some hentry).symm ▸ hholder)
      refine ⟨_, retire_tally hp hput hlive ((holdersOf_some hentry).trans rfl), ?_⟩
      cases classification <;> rfl
  | @lateRelease token holder htombstone =>
      cases hlive
      refine ⟨.late (token, holder), ?_, rfl⟩
      exact late_tally htombstone
  | drainFailed _ =>
      cases hlive
      obtain ⟨waiters, monitors, sent, -, heq⟩ := replyDrainWaiter_frame _ _ (s.waiting env _ _)
      rw [heq]
      exact .idle rfl
  | drainDone _ _ => cases hlive
  | drainWaits _ _ =>
      cases hlive
      exact .idle rfl
  | dropWaiter _ =>
      cases hlive
      obtain ⟨waiters, monitors, sent, -, heq⟩ := removeDrainWaiter_frame _ s
      rw [heq]
      exact .idle rfl
  | finish _ _ _ _ _ hentry hstatus hsettle hdispatch =>
      rw [stopOrContinue_live hlive]
      have hholders := h.mirrors.no_holders hentry (by simp [hstatus])
      exact .idle ((dispatch_tally hdispatch).trans (settle_tally hentry hholders hsettle))
  | executorDown _ _ _ hentry _ hdispatch =>
      rw [stopOrContinue_live hlive]
      refine .idle ((dispatch_tally hdispatch).trans
        (Eq.trans ?_ (startReleaseExecutor_tally env s)))
      exact failed_tally env _ _ hentry
  | executorDownLost _ _ _ _ =>
      cases hlive
      refine .idle (Eq.trans ?_ (startReleaseExecutor_tally env s))
      exact tally_frame rfl rfl
        (sameCounts_bump [.malformedMessages] (by simp [CounterKey.tallied]) _) rfl rfl
  | executorDownIdle _ _ _ hdispatch =>
      cases hlive
      exact .idle ((dispatch_tally hdispatch).trans (startReleaseExecutor_tally env s))
  | @retryCall token _ _ _ _ hentry hfailed hrelease =>
      cases hlive
      have hholders := h.mirrors.no_holders hentry (by simp [hfailed])
      refine .idle
        ((releaseEntry_again ?_ hholders hrelease).trans (cancelRetryTimer_tally token s))
      obtain ⟨sent, -, heq⟩ := cancelRetryTimer_eq token s
      rw [heq]
      exact hentry
  | retryRefused _ =>
      cases hlive
      exact .idle (cancelRetryTimer_tally _ s)
  | retryTimer _ _ hentry hfailed hrelease =>
      cases hlive
      have hholders := h.mirrors.no_holders hentry (by simp [hfailed])
      exact .idle ((releaseEntry_again
        (s := { s with retryTimers := s.retryTimers.delete _ }) hentry hholders hrelease).trans rfl)
  | staleTimer _ _ _ =>
      cases hlive
      exact .idle rfl
  | close =>
      unfold handleClose at hlive
      simp only at hlive
      split at hlive
      · cases hlive
      · cases hlive
        exact .idle rfl
  | producerDown _ =>
      unfold beginProducerDrain at hlive
      simp only at hlive
      split at hlive
      · cases hlive
      · cases hlive
        exact .idle rfl

end VideoInterop.LeaseOwner
