import Mathlib.Data.List.DropRight
import VideoInterop.LeaseOwner.Rejections
import VideoInterop.LeaseOwner.Retirement

/-!
# The ring of tombstones

The owner remembers the holders that were retired last, each with the way it was
retired.  The tombstones are a map and the order in which they were put up is a
queue beside it: an insertion that makes the map too large evicts the front of
the queue, and a later release of an abandoned holder changes the map and leaves
the queue alone.

`buriedIn` is the holder a visit puts a new tombstone up for.  The queue is the
last so many of them, in every run.  When holders are made once, a retired
holder has no tombstone yet, so these are the holders retired last.
-/

namespace VideoInterop.LeaseOwner

/-! ## The last elements of a list -/

/-- One more element costs the first of the last ones, when there are enough. -/
theorem rtake_concat {α : Type} (n : Nat) (l : List α) (a : α) :
    (l ++ [a]).rtake n =
      if (l.rtake n).length < n then l.rtake n ++ [a] else (l.rtake n ++ [a]).tail := by
  simp only [List.rtake, List.length_append, List.length_singleton, List.length_drop]
  split
  · next hroom =>
      have hall : l.length - n = 0 := by omega
      have hall' : l.length + 1 - n = 0 := by omega
      rw [hall, hall', List.drop_zero, List.drop_zero]
  · next hfull =>
      have hnext : l.length + 1 - n = (l.length - n) + 1 := by omega
      have hle : l.length - n ≤ l.length := Nat.sub_le _ _
      rw [hnext, ← List.tail_drop, List.drop_append_of_le_length hle]

theorem mem_rtake {α : Type} {n : Nat} (before : List α) {after : List α} (a : α)
    (hlen : after.length < n) : a ∈ (before ++ a :: after).rtake n := by
  have hle : (before ++ a :: after).length - n ≤ before.length := by
    rw [List.length_append, List.length_cons]
    omega
  rw [List.rtake, List.drop_append_of_le_length hle]
  simp

theorem rtake_length_le {α : Type} (n : Nat) (l : List α) : (l.rtake n).length ≤ n := by
  rw [List.rtake, List.length_drop]
  omega

/-! ## What a callback does to the tombstones -/

variable {p : Ref × Ref} {classification : Classification}
  {tombstones tombstones' : FMap (Ref × Ref) Classification} {order order' : List (Ref × Ref)}

/-- As many tombstones as the order has places. -/
theorem Listed.size (h : Listed tombstones order) : tombstones.size = order.length := by
  rw [FMap.size_eq_keys]
  refine ((List.perm_ext_iff_of_nodup tombstones.keys_nodup h.nodup).mpr fun q => ?_).length_eq
  rw [FMap.mem_keys, h.mem]

/-- The order after a burial: a new holder goes to the end, and the oldest goes
when there is no room. -/
theorem Buries.order_eq (h : Buries p classification tombstones order tombstones' order')
    (hlisted : Listed tombstones order) :
    order' =
      if (tombstones.fetch p).isSome then order
      else if order.length < releaseTombstoneLimit then order ++ [p] else (order ++ [p]).tail := by
  cases h with
  | known hold => rw [hold, Option.isSome_some, if_pos rfl]
  | fresh hnone hroom =>
      rw [FMap.size_put_of_none _ hnone, hlisted.size] at hroom
      rw [hnone, if_neg (by simp), if_pos (Nat.lt_of_succ_le hroom)]
  | evict hnone horder hfull =>
      rw [FMap.size_put_of_none _ hnone, hlisted.size] at hfull
      rw [hnone, if_neg (by simp), if_neg (Nat.not_lt.mpr (Nat.le_of_lt_succ hfull)), horder,
        List.tail_cons]

theorem Buries.fetch_self (h : Buries p classification tombstones order tombstones' order')
    {c : Classification} (hc : tombstones'.fetch p = some c) : c = classification := by
  cases h with
  | known _ =>
      rw [FMap.fetch_put_self] at hc
      exact (Option.some.inj hc).symm
  | fresh _ _ =>
      rw [FMap.fetch_put_self] at hc
      exact (Option.some.inj hc).symm
  | evict _ _ _ =>
      rw [FMap.fetch_delete, FMap.fetch_put_self] at hc
      split at hc
      · cases hc
      · exact (Option.some.inj hc).symm

/-- A visit retires a holder and buries it, or leaves the order of the tombstones
as it is.  Then it changes at most the tombstone of an abandoned holder that is
released. -/
inductive Remembering (v : Visit Owner Input) : Prop where
  | retire {classification : Classification} {p : Ref × Ref}
      (hp : p ∈ registeredOf v.pre.state.leases)
      (hevent : v.input.event.retires = some (classification, p))
      (hretired : retiredIn v = some (classification, p))
      (hburies : Buries p classification v.pre.state.releaseTombstones
        v.pre.state.releaseTombstoneOrder v.post.state.releaseTombstones
        v.post.state.releaseTombstoneOrder)
  | reclassify {p : Ref × Ref} (hretired : retiredIn v = none)
      (hevent : v.input.event.retires = some (.explicit, p))
      (horder : v.post.state.releaseTombstoneOrder = v.pre.state.releaseTombstoneOrder)
      (htombstones : v.post.state.releaseTombstones =
        v.pre.state.releaseTombstones.put p .explicit)
  | same (hretired : retiredIn v = none)
      (horder : v.post.state.releaseTombstoneOrder = v.pre.state.releaseTombstoneOrder)
      (htombstones : v.post.state.releaseTombstones = v.pre.state.releaseTombstones)

variable {o o' : Owner} {i : Input} {v : Visit Owner Input} {visits : List (Visit Owner Input)}

/-- Nobody is retired where nobody loses a holder. -/
theorem retiredIn_none (h : registeredOf v.pre.state.leases ⊆ registeredOf v.post.state.leases) :
    retiredIn v = none := by
  unfold retiredIn
  cases hevent : v.input.event.retires with
  | none => rfl
  | some r =>
      by_cases hr : r.2 ∈ registeredOf v.pre.state.leases
      · simp [Option.filter, h hr]
      · simp [Option.filter, hr]

theorem retiredIn_some {r : Classification × Ref × Ref} (h : retiredIn v = some r) :
    v.input.event.retires = some r ∧ r.2 ∈ registeredOf v.pre.state.leases ∧
      r.2 ∉ registeredOf v.post.state.leases := by
  obtain ⟨hevent, hholds⟩ := Option.filter_eq_some_iff.mp h
  obtain ⟨hpre, hpost⟩ := of_decide_eq_true hholds
  exact ⟨hevent, hpre, hpost⟩

theorem Owner.Step.remembering (hs : o.Sound) (hst : Owner.Step o i o') :
    Remembering ⟨o, i, o'⟩ := by
  obtain ⟨act, hact, hfrom⟩ := hst.tally hs
  generalize hT : o.state.tally = T at hact
  generalize hT' : o'.state.tally = T' at hact
  have hregistered : registeredOf o.state.leases = T.registered := by rw [← hT]; rfl
  have hregistered' : registeredOf o'.state.leases = T'.registered := by rw [← hT']; rfl
  have htombstones : o.state.releaseTombstones = T.tombstones := by rw [← hT]; rfl
  have htombstones' : o'.state.releaseTombstones = T'.tombstones := by rw [← hT']; rfl
  have horder : o.state.releaseTombstoneOrder = T.order := by rw [← hT]; rfl
  have horder' : o'.state.releaseTombstoneOrder = T'.order := by rw [← hT']; rfl
  cases hact with
  | idle =>
      refine .same (retiredIn_none ?_) (horder'.trans horder.symm)
        (htombstones'.trans htombstones.symm)
      show registeredOf o.state.leases ⊆ registeredOf o'.state.leases
      rw [hregistered, hregistered']
  | register hp =>
      refine .same (retiredIn_none ?_) (horder'.trans horder.symm)
        (htombstones'.trans htombstones.symm)
      show registeredOf o.state.leases ⊆ registeredOf o'.state.leases
      rw [hregistered, hregistered']
      exact Finset.subset_insert _ _
  | forfeit hgone =>
      -- Registrations are cancelled by events that retire nobody.
      have hevent : i.event.retires = none := hfrom
      refine .same ?_ (horder'.trans horder.symm) (htombstones'.trans htombstones.symm)
      simp [retiredIn, hevent, Option.filter]
  | @retire classification p tombstones order hp hburies =>
      have hevent : i.event.retires = some (classification, p) := hfrom
      have hgone : p ∉ registeredOf o'.state.leases := by
        rw [hregistered']
        exact fun hmem => (Finset.mem_sdiff.mp hmem).2 (Finset.mem_singleton_self p)
      rw [← hregistered] at hp
      refine .retire hp hevent ?_ ?_
      · simp [retiredIn, hevent, Option.filter, hp, hgone]
      · show Buries p classification o.state.releaseTombstones o.state.releaseTombstoneOrder
          o'.state.releaseTombstones o'.state.releaseTombstoneOrder
        rw [htombstones, horder, htombstones', horder']
        exact hburies
  | late hp =>
      refine .reclassify (retiredIn_none ?_) hfrom (horder'.trans horder.symm) ?_
      · show registeredOf o.state.leases ⊆ registeredOf o'.state.leases
        rw [hregistered, hregistered']
      · show o'.state.releaseTombstones = o.state.releaseTombstones.put _ .explicit
        rw [htombstones', htombstones]

/-! ## The ring in every run -/

/-- The holder a new tombstone is put up for: one that is retired and has none. -/
def buriedIn (v : Visit Owner Input) : Option (Ref × Ref) :=
  ((retiredIn v).map Prod.snd).filter fun p => (v.pre.state.releaseTombstones.fetch p).isNone

theorem Owner.Run.tombstone_order (h : Owner.Run visits o) :
    o.state.releaseTombstoneOrder = (visits.filterMap buriedIn).rtake releaseTombstoneLimit := by
  refine h.history (P := fun visits o => o.state.releaseTombstoneOrder =
    (visits.filterMap buriedIn).rtake releaseTombstoneLimit) ?_ ?_
  · rintro o ⟨_, _, _, hinit, -⟩
    have horder : o.state.tally.order = [] := by rw [init_tally hinit]
    exact horder
  · intro visits o i o' hrun ih hst
    rw [List.filterMap_append, filterMap_one]
    have hlisted : Listed o.state.releaseTombstones o.state.releaseTombstoneOrder :=
      hrun.tally_sound.listed
    have keeps (hretired : retiredIn ⟨o, i, o'⟩ = none)
        (horder : o'.state.releaseTombstoneOrder = o.state.releaseTombstoneOrder) :
        o'.state.releaseTombstoneOrder =
          (visits.filterMap buriedIn ++ (buriedIn ⟨o, i, o'⟩).toList).rtake
            releaseTombstoneLimit := by
      have hburied : buriedIn ⟨o, i, o'⟩ = none := by simp [buriedIn, hretired]
      rw [hburied, Option.toList, List.append_nil, horder, ih]
    cases hst.remembering hrun.sound with
    | same hretired horder _ => exact keeps hretired horder
    | reclassify hretired _ horder _ => exact keeps hretired horder
    | @retire classification p _ _ hretired hburies =>
        have horder : o'.state.releaseTombstoneOrder = _ := hburies.order_eq hlisted
        rw [horder]
        cases htombstone : o.state.releaseTombstones.fetch p with
        | some old =>
            have hburied : buriedIn ⟨o, i, o'⟩ = none := by
              simp [buriedIn, hretired, htombstone, Option.filter]
            rw [hburied, Option.toList, List.append_nil, Option.isSome_some, if_pos rfl, ih]
        | none =>
            have hburied : buriedIn ⟨o, i, o'⟩ = some p := by
              simp [buriedIn, hretired, htombstone, Option.filter]
            rw [hburied, Option.toList, rtake_concat, ← ih, Option.isSome_none, if_neg (by simp)]

/-- The tombstones of an owner after some visits. -/
structure TombstoneRing (visits : List (Visit Owner Input)) (o : Owner) : Prop where
  /-- The order lists the tombstones, each once. -/
  listed : Listed o.state.releaseTombstones o.state.releaseTombstoneOrder
  /-- They are the last ones that were put up, the oldest first. -/
  order : o.state.releaseTombstoneOrder =
    (visits.filterMap buriedIn).rtake releaseTombstoneLimit
  /-- There are no more tombstones than the limit. -/
  bound : o.state.releaseTombstones.size ≤ releaseTombstoneLimit
  /-- The next one can always be put up: an eviction finds a front of the queue and
  its tombstone, and removes the oldest. -/
  puts : ∀ p classification s, s.releaseTombstones = o.state.releaseTombstones →
    s.releaseTombstoneOrder = o.state.releaseTombstoneOrder →
    ∃ s', putReleaseTombstone p classification s = some s' ∧
      Buries p classification o.state.releaseTombstones o.state.releaseTombstoneOrder
        s'.releaseTombstones s'.releaseTombstoneOrder

theorem Owner.Run.ring (h : Owner.Run visits o) : TombstoneRing visits o := by
  have hlisted : Listed o.state.releaseTombstones o.state.releaseTombstoneOrder :=
    h.tally_sound.listed
  refine ⟨hlisted, h.tombstone_order, ?_, fun p classification s htombstones horder => ?_⟩
  · rw [hlisted.size, h.tombstone_order]
    exact rtake_length_le _ _
  · rw [← htombstones, ← horder] at hlisted ⊢
    obtain ⟨s', hput⟩ := putReleaseTombstone_some p classification hlisted
    exact ⟨s', hput, (putReleaseTombstone_spec hput).1⟩

/-! ## Holders that are made once -/

/-- The holders the visits retired, the first one first. -/
def retiredOf (visits : List (Visit Owner Input)) : List (Ref × Ref) :=
  (visits.filterMap retiredIn).map Prod.snd

theorem retiredOf_append (visits visits' : List (Visit Owner Input)) :
    retiredOf (visits ++ visits') = retiredOf visits ++ retiredOf visits' := by
  rw [retiredOf, List.filterMap_append, List.map_append, retiredOf, retiredOf]

theorem retiredOf_cons_some {r : Classification × Ref × Ref} (h : retiredIn v = some r)
    (visits : List (Visit Owner Input)) : retiredOf (v :: visits) = r.2 :: retiredOf visits := by
  rw [retiredOf, List.filterMap_cons_some h, List.map_cons, retiredOf]

theorem retiredOf_one (v : Visit Owner Input) :
    retiredOf [v] = ((retiredIn v).map Prod.snd).toList := by
  rw [retiredOf, filterMap_one]
  cases retiredIn v <;> rfl

/-- Holders that were made once in a longer run. -/
theorem made_before {visits visits' : List (Visit Owner Input)}
    (h : ((visits ++ visits').filterMap holderIn).Nodup) : (visits.filterMap holderIn).Nodup := by
  rw [List.filterMap_append] at h
  exact (List.nodup_append.mp h).1

/-- What is registered after a callback was registered before, or it is new. -/
theorem Tally.Step.registered {T T' : Tally} {act : Tally.Act} (hst : Tally.Step T act T')
    {q : Ref × Ref} (hq : q ∈ T'.registered) : q ∈ T.registered ∨ act.made = some q := by
  cases hst with
  | idle => exact .inl hq
  | register _ =>
      rcases Finset.mem_insert.mp hq with rfl | hq
      · exact .inr rfl
      · exact .inl hq
  | forfeit _ => exact .inl (Finset.mem_sdiff.mp hq).1
  | retire _ _ => exact .inl (Finset.mem_sdiff.mp hq).1
  | late _ => exact .inl hq

/-- A holder that was retired was made, is not registered, and was retired once. -/
structure Gone (made retired : List (Ref × Ref)) (s : State) : Prop where
  /-- No holder was retired twice. -/
  once : retired.Nodup
  /-- One that was retired was made and is registered no more. -/
  gone : ∀ q ∈ retired, q ∈ made ∧ q ∉ registeredOf s.leases

theorem Owner.Run.gone (h : Owner.Run visits o) (hfresh : (visits.filterMap holderIn).Nodup) :
    Gone (visits.filterMap holderIn) (retiredOf visits) o.state := by
  refine h.history (P := fun visits o => (visits.filterMap holderIn).Nodup →
    Gone (visits.filterMap holderIn) (retiredOf visits) o.state) ?_ ?_ hfresh
  · intro o _ _
    exact ⟨List.nodup_nil, fun q hq => by cases hq⟩
  · intro visits o i o' hrun ih hst hnodup
    obtain ⟨honce, hgone⟩ := ih (made_before hnodup)
    have ht := hrun.tallied (made_before hnodup)
    obtain ⟨act, hact, hfrom⟩ := hst.tally hrun.sound
    rw [List.filterMap_append, filterMap_one] at hnodup
    have hnew := (List.nodup_append.mp hnodup).2.2
    have hstays : ∀ q ∈ retiredOf visits, q ∉ registeredOf o'.state.leases := by
      intro q hq hmem
      rcases hact.registered hmem with hold | hmade
      · exact (hgone q hq).2 hold
      · refine hnew q (hgone q hq).1 q ?_ rfl
        rw [Option.mem_toList]
        exact hfrom.made hmade
    rw [List.filterMap_append, retiredOf_append, retiredOf_one]
    cases hretired : retiredIn ⟨o, i, o'⟩ with
    | none =>
        rw [Option.map_none, Option.toList, List.append_nil]
        exact ⟨honce, fun q hq => ⟨List.mem_append_left _ (hgone q hq).1, hstays q hq⟩⟩
    | some r =>
        obtain ⟨-, hpre, hpost⟩ := retiredIn_some hretired
        have hmade : r.2 ∈ visits.filterMap holderIn := ht.fresh.registered _ hpre
        refine ⟨?_, fun q hq => ?_⟩
        · refine List.nodup_append.mpr ⟨honce, List.nodup_singleton _, fun q hq q' hq' heq => ?_⟩
          rw [Option.map_some, Option.toList, List.mem_singleton] at hq'
          exact (hgone q hq).2 (heq ▸ hq' ▸ hpre)
        · rcases List.mem_append.mp hq with hq | hq
          · exact ⟨List.mem_append_left _ (hgone q hq).1, hstays q hq⟩
          · rw [Option.map_some, Option.toList, List.mem_singleton] at hq
            rw [hq]
            exact ⟨List.mem_append_left _ hmade, hpost⟩

/-- A holder that is retired has no tombstone yet. -/
theorem Owner.Run.buried (h : Owner.Run visits o) (hfresh : (visits.filterMap holderIn).Nodup) :
    visits.filterMap buriedIn = retiredOf visits := by
  refine h.history (P := fun visits _ => (visits.filterMap holderIn).Nodup →
    visits.filterMap buriedIn = retiredOf visits) (fun _ _ _ => rfl) ?_ hfresh
  intro visits o i o' hrun ih hst hnodup
  have hold := made_before hnodup
  rw [List.filterMap_append, retiredOf_append, ih hold, filterMap_one, retiredOf_one]
  congr 2
  cases hretired : retiredIn ⟨o, i, o'⟩ with
  | none => simp [buriedIn, hretired]
  | some r =>
      have hnone := (hrun.tallied hold).fresh.apart r.2 (retiredIn_some hretired).2.1
      have htombstone : o.state.releaseTombstones.fetch r.2 = none := hnone
      simp [buriedIn, hretired, htombstone, Option.filter]

/-! ## Releases of retired holders -/

/-- What the tombstone of a holder says some visits after its retirement: an
abandoned holder that was released since then counts as released. -/
def Classification.after (classification : Classification) (p : Ref × Ref)
    (visits : List (Visit Owner Input)) : Classification :=
  if visits.any fun v => v.input.event.retires = some (.explicit, p) then .explicit
  else classification

theorem Classification.after_snoc (classification : Classification) (p : Ref × Ref)
    (visits : List (Visit Owner Input)) (v : Visit Owner Input) :
    classification.after p (visits ++ [v]) =
      if v.input.event.retires = some (.explicit, p) then .explicit
      else classification.after p visits := by
  unfold Classification.after
  by_cases hv : v.input.event.retires = some (.explicit, p) <;> simp [hv]

theorem Event.retires_explicit {event : Event} (h : event.retires = some (.explicit, p)) :
    event = .info (.release p.1 p.2) := by
  unfold Event.retires at h
  split at h
  · cases h
    rfl
  · cases h
  · cases h

/-- A release of a holder that is not registered is counted by its tombstone. -/
theorem release_unheld (s : State) (hevent : i.event = .info (.release p.1 p.2))
    (hp : p ∉ registeredOf s.leases) :
    ∃ s', (outcome s i).live? = some s' ∧
      s'.counters = countKeys [unheldCounter (s.releaseTombstones.fetch p)] s.counters ∧
      s'.releaseTombstones = tombstonesAfter i.event s.releaseTombstones := by
  obtain ⟨signals, -, hlive⟩ : Unchanged (.info (.release p.1 p.2))
      [unheldCounter (s.releaseTombstones.fetch p)] { s with sent := [] }
      (handleRelease i.env p.1 p.2 { s with sent := [] }) := handleRelease_refused hp
  have hout : outcome s i = handleRelease i.env p.1 p.2 { s with sent := [] } := by
    rw [outcome, hevent]
    rfl
  exact ⟨_, (congrArg Outcome.live? hout).trans hlive, rfl, by rw [hevent]⟩

/-- **The last holders retired are remembered.** -/
theorem Owner.Run.remembered (h : Owner.Run visits o)
    (hfresh : (visits.filterMap holderIn).Nodup) :
    ∀ before v after classification p, visits = before ++ v :: after →
      retiredIn v = some (classification, p) →
      (retiredOf after).length < releaseTombstoneLimit →
      o.state.releaseTombstones.fetch p = some (classification.after p after) := by
  refine h.history (P := fun visits o => (visits.filterMap holderIn).Nodup →
    ∀ before v after classification p, visits = before ++ v :: after →
      retiredIn v = some (classification, p) →
      (retiredOf after).length < releaseTombstoneLimit →
      o.state.releaseTombstones.fetch p = some (classification.after p after)) ?_ ?_ hfresh
  · intro o _ _ before v after classification p heq
    cases before <;> cases heq
  · intro visits o i o' hrun ih hst hnodup before v after classification p heq hretired hlast
    have hold := made_before hnodup
    have hrun' : Owner.Run (visits ++ [⟨o, i, o'⟩]) o' := by
      obtain ⟨o₀, ho₀, hpath⟩ := hrun
      exact ⟨o₀, ho₀, hpath.snoc hst⟩
    -- The holder is in the order, and so it has a tombstone.
    have hmem : p ∈ o'.state.releaseTombstoneOrder := by
      rw [hrun'.tombstone_order, hrun'.buried hnodup, heq, retiredOf_append,
        retiredOf_cons_some hretired]
      exact mem_rtake _ _ hlast
    obtain ⟨c, hc⟩ := (hrun'.ring.listed.mem p).mp hmem
    rcases List.eq_nil_or_concat after with rfl | ⟨after', w, rfl⟩
    · -- It was retired just now.
      obtain ⟨rfl, hv⟩ := List.append_inj' heq rfl
      cases hv
      cases hst.remembering hrun.sound with
      | same hnone _ _ => rw [hretired] at hnone; cases hnone
      | reclassify hnone _ _ _ => rw [hretired] at hnone; cases hnone
      | @retire classification' q _ _ hretired' hburies =>
          rw [hretired] at hretired'
          cases hretired'
          have hput := hburies.fetch_self hc
          rw [hc, hput]
          rfl
    · rw [List.concat_eq_append] at heq hlast ⊢
      obtain ⟨rfl, hw⟩ :=
        List.append_inj' (heq.trans (List.append_assoc before (v :: after') [w]).symm) rfl
      cases hw
      rw [retiredOf_append, List.length_append] at hlast
      have hbefore := ih hold before v after' classification p rfl hretired (by omega)
      have hunheld : p ∉ registeredOf o.state.leases := by
        refine ((hrun.gone hold).gone p ?_).2
        rw [retiredOf_append, retiredOf_cons_some hretired]
        simp
      rw [Classification.after_snoc]
      by_cases hevent : i.event.retires = some (.explicit, p)
      · obtain ⟨s', hlive, -, htombstones⟩ :=
          release_unheld o.state (Event.retires_explicit hevent) hunheld
        have hs' : o'.state = s' := Option.some.inj (hst.live.symm.trans hlive)
        rw [if_pos hevent, hs', htombstones, Event.retires_explicit hevent]
        show (if o.state.releaseTombstones.fetch p = some .abandoned then
          o.state.releaseTombstones.put p .explicit else o.state.releaseTombstones).fetch p = _
        split
        · exact FMap.fetch_put_self _ _ _
        · next hexplicit =>
            rw [hbefore] at hexplicit ⊢
            cases hafter : classification.after p after' with
            | explicit => rfl
            | abandoned => exact absurd (congrArg some hafter) hexplicit
      · rw [if_neg hevent]
        cases hst.remembering hrun.sound with
        | same _ _ htombstones =>
            have htombstones' : o'.state.releaseTombstones = o.state.releaseTombstones :=
              htombstones
            rw [htombstones', hbefore]
        | @reclassify q _ hevent' _ htombstones =>
            have hne : p ≠ q := fun hpq => hevent (hpq ▸ hevent')
            have htombstones' : o'.state.releaseTombstones =
              o.state.releaseTombstones.put q .explicit := htombstones
            rw [htombstones', FMap.fetch_put, if_neg hne, hbefore]
        | @retire classification' q hq _ _ hburies =>
            rcases hburies.fetch hc with hpq | hkept
            · exact absurd (hpq ▸ hq) hunheld
            · exact hc.trans (hkept.symm.trans hbefore)

/-- **The ring of tombstones.**  In every run the order lists the tombstones, each
once and the oldest first, there are no more than the limit, and the next one can
be put up.  When no holder is made twice, they are the tombstones of the holders
that were retired last; and the release of one of them counts as a duplicate, or
as late when the holder was abandoned and has not been released since. -/
theorem tombstone_ring (h : Owner.Run visits o) :
    TombstoneRing visits o ∧
      ((visits.filterMap holderIn).Nodup →
        (retiredOf visits).Nodup ∧
        o.state.releaseTombstoneOrder = (retiredOf visits).rtake releaseTombstoneLimit ∧
        ∀ before v after classification p, visits = before ++ v :: after →
          retiredIn v = some (classification, p) →
          (retiredOf after).length < releaseTombstoneLimit →
          ∀ i : Input, i.event = .info (.release p.1 p.2) → o.supply ≤ i.env.supply →
            ∃ o', o.advance i = some o' ∧
              o'.state.counters =
                countKeys [unheldCounter (some (classification.after p after))]
                  o.state.counters) := by
  refine ⟨h.ring, fun hfresh => ⟨(h.gone hfresh).once, ?_, ?_⟩⟩
  · rw [h.tombstone_order, h.buried hfresh]
  · intro before v after classification p heq hretired hlast i hevent hsupply
    have htombstone := h.remembered hfresh before v after classification p heq hretired hlast
    have hunheld : p ∉ registeredOf o.state.leases := by
      refine ((h.gone hfresh).gone p ?_).2
      rw [heq, retiredOf_append, retiredOf_cons_some hretired]
      simp
    obtain ⟨s', hlive, hcounters, -⟩ := release_unheld o.state hevent hunheld
    refine ⟨⟨s', i.env.next⟩, ?_, ?_⟩
    · rw [Owner.advance, if_pos hsupply, hlive, Option.map_some]
    · rw [← htombstone]
      exact hcounters

/-- The sample owner is told once more of a release it counted. -/
theorem tombstone_ring_sample : ∃ visits o o', Owner.Run visits o ∧
    retiredOf visits = [(20, 21)] ∧
    o.advance ⟨.plain 36, .info (.release 20 21)⟩ = some o' ∧
    o'.state.counters = countKeys [.duplicateReleases] o.state.counters := by
  have hrun := sampleRun_run (n := 3) rfl
  obtain ⟨o', hadvance, hcounters⟩ := ((tombstone_ring hrun).2 (by decide)).2.2
    (((sampleRun 3).get rfl).1.take 2) (((sampleRun 3).get rfl).1.get ⟨2, by decide⟩) []
    .explicit (20, 21) rfl rfl (by decide) ⟨.plain 36, .info (.release 20 21)⟩ rfl (by decide)
  exact ⟨_, _, o', hrun, rfl, hadvance, hcounters⟩

end VideoInterop.LeaseOwner
