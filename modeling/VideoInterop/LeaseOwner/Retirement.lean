import VideoInterop.LeaseOwner.Tally

/-!
# Releases and abandonments in any order

A holder is retired by the first release or abandonment that names it.  The
later ones find no holder and leave the tally alone, but for the note of a late
release.  So the result of a number of such messages depends only on which
holders they name.

`Owner.Tallied` is the invariant.  It rests on holders being made once: a holder
that is registered has no tombstone, and its release is never taken for a
duplicate.
-/

namespace VideoInterop.LeaseOwner

/-! ## Leases on their way to release -/

/-- Queued or with the executor. -/
def Status.inRelease : Status → Bool
  | .releaseQueued _ | .releasing _ => true
  | _ => false

/-- No lease is lost, and one whose status changed is on its way to release. -/
def Advances (leases leases' : FMap Ref Entry) : Prop :=
  ∀ token entry, leases.fetch token = some entry →
    ∃ entry', leases'.fetch token = some entry' ∧
      (entry'.status = entry.status ∨
        entry'.status.inRelease = true ∧ (entry.status = .active ∨ entry.status.inRelease = true))

/-- The lease was active and is on its way to release. -/
def MovedToRelease (s s' : State) (token : Ref) : Prop :=
  (∃ entry, s.leases.fetch token = some entry ∧ entry.status = .active) ∧
    ∃ entry', s'.leases.fetch token = some entry' ∧ entry'.status.inRelease = true

variable {env : Env} {s s' : State} {token holder : Ref} {entry entry₀ : Entry}
  {leases leases' leases'' : FMap Ref Entry}

theorem Advances.refl (leases : FMap Ref Entry) : Advances leases leases :=
  fun _ entry h => ⟨entry, h, .inl rfl⟩

theorem Advances.trans (h : Advances leases leases') (h' : Advances leases' leases'') :
    Advances leases leases'' := by
  intro token entry hentry
  obtain ⟨entry', hentry', hstatus⟩ := h token entry hentry
  obtain ⟨entry'', hentry'', hstatus'⟩ := h' token entry' hentry'
  refine ⟨entry'', hentry'', ?_⟩
  rcases hstatus' with heq | ⟨hrelease, hfrom⟩
  · rw [heq]
    exact hstatus
  · rcases hstatus with heq | ⟨-, hfrom'⟩
    · rw [heq] at hfrom
      exact .inr ⟨hrelease, hfrom⟩
    · exact .inr ⟨hrelease, hfrom'⟩

/-- An update of one lease. -/
theorem Advances.put (hentry : leases.fetch token = some entry₀)
    (hstatus : entry.status = entry₀.status ∨
      entry.status.inRelease = true ∧ (entry₀.status = .active ∨ entry₀.status.inRelease = true)) :
    Advances leases (leases.put token entry) := by
  intro t e he
  by_cases ht : t = token
  · subst ht
    rw [hentry] at he
    cases he
    exact ⟨entry, by simp, hstatus⟩
  · exact ⟨e, by simp [ht, he], .inl rfl⟩

theorem dispatch_advances (h : Mirrors s.leases (serialQueue s))
    (hdispatch : dispatchNextRelease env s = some s') : Advances s.leases s'.leases := by
  rcases dispatchNextRelease_cases hdispatch with
    ⟨rfl, -⟩ | ⟨job, rest, entry, hjob, hqueue, hentry, rfl⟩
  · exact .refl _
  · have hline : (serialQueue s).waiting = job.attempted :: rest.map Job.attempted := by
      rw [serialQueue, hqueue]
      rfl
    have hqueued := (h.front hline hentry).1
    exact .put hentry (.inr ⟨rfl, .inr (by rw [hqueued]; rfl)⟩)

/-- Removing a holder of an active lease never stops the owner. -/
theorem removeHolder_live (env : Env) (holder : Ref) (entry : Entry) (h : Coupled s)
    (hentry : s.leases.fetch token = some entry₀) (hactive : entry₀.status = .active)
    (hstatus : entry.status = .active) :
    ∃ s', (removeHolder env token holder entry s).live? = some s' ∧
      Advances s.leases s'.leases := by
  unfold removeHolder
  split
  · simp only
    split
    · next hlast =>
        have hempty : entry.holders.erase holder = ∅ := Finset.card_eq_zero.mp hlast
        obtain ⟨sent, -, heq⟩ := releaseEntry_eq env token
          { entry with holders := entry.holders.erase holder }
          { s with activeHolders := s.activeHolders - 1 } false none
        have hmirrors := MirrorsExcept.enqueueRelease env
          (s := { s with activeHolders := s.activeHolders - 1 })
          (h.mirrors.except_active hentry hactive)
          (show Entry.holders { entry with holders := entry.holders.erase holder } = ∅ from hempty)
          false none sent
        obtain ⟨s', hdispatch⟩ := dispatch_some env hmirrors
        have hadvances : Advances s.leases s'.leases :=
          (Advances.put hentry (.inr ⟨rfl, .inl hactive⟩)).trans
            (dispatch_advances hmirrors hdispatch)
        refine ⟨s', ?_, hadvances⟩
        obtain ⟨entry', hentry', -⟩ := hadvances token entry₀ hentry
        have hbusy : ¬(s'.mode = .draining ∧ drained? s' = true) := by
          rintro ⟨-, hdrained⟩
          exact Nat.ne_of_gt (FMap.size_pos_of_some hentry') (drained?_idle hdrained).1
        rw [heq, hdispatch]
        simp only [stopOrContinueAfterRelease, if_neg hbusy, Outcome.live?]
    · exact ⟨_, rfl, .put hentry (.inl (hstatus.trans hactive.symm))⟩
  · exact ⟨_, rfl, .refl _⟩

/-! ## Retiring -/

theorem updateCounter_one (key : CounterKey) (s : State) :
    s.updateCounter key 1 = bump [key] s := by
  unfold bump countKeys
  rfl

/-- What a release or an abandonment of a holder comes to: the owner lives, and
the holder is retired when it is registered; otherwise nobody's holders change. -/
def RetiresTo (s : State) (classification : Classification) (p : Ref × Ref) (out : Outcome) :
    Prop :=
  ∃ s' act, out.live? = some s' ∧ Advances s.leases s'.leases ∧ Tally.Step s.tally act s'.tally ∧
    ((p ∈ registeredOf s.leases ∧ act = .retire classification p) ∨
      (p ∉ registeredOf s.leases ∧ (act = .idle ∨ act = .late p)))

/-- A holder that is registered has an active lease. -/
theorem Coupled.holder_active (h : Coupled s) (hp : (token, holder) ∈ registeredOf s.leases) :
    ∃ entry, s.leases.fetch token = some entry ∧ entry.status = .active ∧
      holder ∈ entry.holders := by
  have hmem := mem_registeredOf.mp hp
  cases hentry : s.leases.fetch token with
  | none =>
      rw [holdersOf, hentry] at hmem
      exact absurd hmem (Finset.notMem_empty _)
  | some entry =>
      rw [holdersOf_some hentry] at hmem
      exact ⟨entry, rfl, ((h.mirrors.mirror token).active entry hentry).mpr ⟨holder, hmem⟩, hmem⟩

theorem mem_registeredOf_some (hentry : s.leases.fetch token = some entry)
    (hholder : holder ∈ entry.holders) : (token, holder) ∈ registeredOf s.leases := by
  rw [mem_registeredOf, holdersOf_some hentry]
  exact hholder

/-- The branch in which a holder is retired. -/
theorem RetiresTo.registered (env : Env) (classification : Classification) (h : Coupled s)
    (hlisted : Listed s.releaseTombstones s.releaseTombstoneOrder)
    (hentry : s.leases.fetch token = some entry) (hactive : entry.status = .active)
    (hholder : holder ∈ entry.holders) :
    RetiresTo s classification (token, holder)
      (match putReleaseTombstone (token, holder) classification
          ((clearPendingRetain holder entry s).2.updateCounter classification.counter 1) with
      | some s₁ => removeHolder env token holder (clearPendingRetain holder entry s).1 s₁
      | none => .raise) := by
  obtain ⟨sent, -, hclear⟩ := clearPendingRetain_eq holder entry s
  rw [hclear]
  obtain ⟨s₁, hput⟩ := putReleaseTombstone_some (token, holder) classification
    (s := { bump [classification.counter] s with
      protocolMonitors := monitorsWithoutRetain holder entry s.protocolMonitors
      sent := sent }) hlisted
  have hput' : putReleaseTombstone (token, holder) classification
      (State.updateCounter { s with
        protocolMonitors := monitorsWithoutRetain holder entry s.protocolMonitors
        sent := sent } classification.counter 1) = some s₁ := by
    rw [updateCounter_one]
    exact hput
  obtain ⟨tombstones, order, counters, heq⟩ := putReleaseTombstone_frame hput
  have hleases : s₁.leases = s.leases := by
    rw [heq]
    rfl
  have hcoupled : Coupled s₁ := h.congr hleases (by rw [heq]; rfl) (by rw [heq]; rfl)
  obtain ⟨s', hlive, hadvances⟩ := removeHolder_live env holder
    { entry with pendingRetains := entry.pendingRetains.delete holder } hcoupled
    (hleases.symm ▸ hentry) hactive hactive
  have hp := mem_registeredOf_some hentry hholder
  refine ⟨s', _, ?_, hleases ▸ hadvances, ?_, .inl ⟨hp, rfl⟩⟩
  · simp only [hput']
    exact hlive
  · exact retire_tally hp hput hlive ((holdersOf_some hentry).trans rfl)

/-- A message that names no registered holder is at most counted. -/
theorem RetiresTo.counted {classification : Classification} {p : Ref × Ref} {out : Outcome}
    (hp : p ∉ registeredOf s.leases) (keys : List CounterKey)
    (hkeys : ∀ key ∈ keys, key.tallied = false) (hout : out.live? = some (bump keys s)) :
    RetiresTo s classification p out := by
  refine ⟨_, .idle, hout, .refl _, ?_, .inr ⟨hp, .inl rfl⟩⟩
  have htally : (bump keys s).tally = s.tally :=
    tally_frame rfl rfl (sameCounts_bump keys hkeys s) rfl rfl
  rw [htally]
  exact .idle

theorem handleRelease_retires (env : Env) (h : Coupled s)
    (hlisted : Listed s.releaseTombstones s.releaseTombstoneOrder)
    (hapart : ∀ p ∈ registeredOf s.leases, s.releaseTombstones.fetch p = none) :
    RetiresTo s .explicit (token, holder) (handleRelease env token holder s) := by
  by_cases hp : (token, holder) ∈ registeredOf s.leases
  · obtain ⟨entry, hentry, hactive, hholder⟩ := h.holder_active hp
    have hretire := RetiresTo.registered env .explicit h hlisted hentry hactive hholder
    simp only [handleRelease, hapart _ hp, hentry, hactive, if_pos hholder]
    exact hretire
  · have unclassified : RetiresTo s .explicit (token, holder)
        (.noreply (s.updateCounter .unclassifiedReleases 1)) :=
      .counted hp [.unclassifiedReleases] (by simp [CounterKey.tallied])
        (by rw [updateCounter_one]; rfl)
    unfold handleRelease
    split
    · next htombstone =>
        refine ⟨_, .late (token, holder), rfl, .refl _, ?_, .inr ⟨hp, .inr rfl⟩⟩
        rw [updateCounter_one]
        exact late_tally htombstone
    · exact .counted hp [.duplicateReleases] (by simp [CounterKey.tallied])
        (by rw [updateCounter_one]; rfl)
    · split
      · next entry hentry =>
          split
          · split
            · next hholder => exact absurd (mem_registeredOf_some hentry hholder) hp
            · exact unclassified
          · exact unclassified
      · exact unclassified

theorem handleAbandoned_retires (env : Env) (h : Coupled s)
    (hlisted : Listed s.releaseTombstones s.releaseTombstoneOrder) :
    RetiresTo s .abandoned (token, holder) (handleAbandoned env token holder s) := by
  by_cases hp : (token, holder) ∈ registeredOf s.leases
  · obtain ⟨entry, hentry, hactive, hholder⟩ := h.holder_active hp
    have hretire := RetiresTo.registered env .abandoned h hlisted hentry hactive hholder
    simp only [handleAbandoned, hentry, hactive, if_pos hholder]
    exact hretire
  · have ignored : RetiresTo s .abandoned (token, holder) (.noreply s) :=
      ⟨s, .idle, rfl, .refl _, .idle, .inr ⟨hp, .inl rfl⟩⟩
    unfold handleAbandoned
    split
    · next entry hentry =>
        split
        · split
          · next hholder => exact absurd (mem_registeredOf_some hentry hholder) hp
          · exact ignored
        · exact ignored
    · exact ignored

/-- **A release or an abandonment is always handled.** -/
theorem handle_retires (env : Env) {event : Event} {classification : Classification}
    {p : Ref × Ref} (h : Coupled s) (hlisted : Listed s.releaseTombstones s.releaseTombstoneOrder)
    (hapart : ∀ p ∈ registeredOf s.leases, s.releaseTombstones.fetch p = none)
    (hevent : event.retires = some (classification, p)) :
    RetiresTo s classification p (handle env event s) := by
  unfold Event.retires at hevent
  split at hevent
  · cases hevent
    exact handleRelease_retires env h hlisted hapart
  · cases hevent
    exact handleAbandoned_retires env h hlisted
  · cases hevent

/-! ## Runs -/

/-- The holder a visit may register: the child of a retain, or the one a commit
makes. -/
def holderIn (v : Visit Owner Input) : Option (Ref × Ref) := holderBy v.input.env v.input.event

theorem init_tally {env : Env} {self : Pid} {opts : Options} (h : init env self opts = .ok s) :
    s.tally = ⟨∅, 0, 0, fun _ => 0, 0, ∅, []⟩ := by
  unfold init at h
  split at h
  · cases h
  · split at h
    · cases h
    · split at h
      · cases h
      · cases h
        rfl

/-- What an owner's tally keeps, when its holders are made once. -/
structure Owner.Tallied (made : List (Ref × Ref)) (o : Owner) : Prop where
  /-- The owner is sound. -/
  sound : o.Sound
  /-- Its tally is sound. -/
  tally : o.state.tally.Sound
  /-- Its holders are those made. -/
  fresh : o.state.tally.Fresh made

variable {o o' : Owner} {visits : List (Visit Owner Input)} {made : List (Ref × Ref)}

theorem Owner.Init.tallied (h : Owner.Init o) : o.Tallied [] := by
  refine ⟨h.sound, ?_, ?_⟩ <;> obtain ⟨_, _, _, hinit, _⟩ := h <;> rw [init_tally hinit]
  · exact ⟨rfl, Nat.le_refl 0, Nat.le_refl 0, List.nodup_nil, fun p => by simp⟩
  · exact ⟨by simp, by simp, by simp⟩

theorem Owner.Step.tally {i : Input} (hs : o.Sound) (hst : Owner.Step o i o') :
    Tallies i.env o.state i.event o'.state := by
  have hcoupled : Coupled { o.state with sent := [] } := hs.coupled.congr rfl rfl rfl
  have htally := (outcome_transition o.state i).tally hcoupled (hs.fresh hst) hst.live
  exact htally

theorem Owner.Run.tally_sound (h : Owner.Run visits o) : o.state.tally.Sound := by
  refine (h.invariant (P := fun o => o.Sound ∧ o.state.tally.Sound)
    (fun _ hinit => ⟨hinit.sound, hinit.tallied.tally⟩) ?_).2
  rintro o i o' ⟨hs, ht⟩ hst
  obtain ⟨act, hact, -⟩ := hst.tally hs
  exact ⟨(hs.step hst).1, hact.sound ht⟩

/-- **Holders that are made once are registered once.** -/
theorem Owner.Run.tallied (h : Owner.Run visits o) (hfresh : (visits.filterMap holderIn).Nodup) :
    o.Tallied (visits.filterMap holderIn) := by
  refine ⟨h.sound, h.tally_sound, ?_⟩
  refine h.history (P := fun visits o => (visits.filterMap holderIn).Nodup →
    o.state.tally.Fresh (visits.filterMap holderIn))
      (fun _ hinit _ => hinit.tallied.fresh) ?_ hfresh
  intro visits o i o' hrun ih hst hnodup
  rw [List.filterMap_append, filterMap_one] at hnodup ⊢
  obtain ⟨hold, -, hdisjoint⟩ := List.nodup_append.mp hnodup
  obtain ⟨act, hact, hfrom⟩ := hst.tally hrun.sound
  have hnew : ∀ p, act.made = some p → p ∉ visits.filterMap holderIn := fun p hp hmem =>
    hdisjoint p hmem p (by rw [Option.mem_toList]; exact hfrom.made hp) rfl
  refine (hact.fresh (ih hold) hnew).mono (List.append_subset.mpr ⟨?_, ?_⟩)
  · exact List.subset_append_left _ _
  · intro p hp
    rw [Option.mem_toList] at hp
    exact List.mem_append.mpr (.inr (by rw [Option.mem_toList]; exact hfrom.made hp))

/-! ## Orders -/

/-- The identifiers of the inputs are new, one input after the other. -/
def Supplied : Nat → List Input → Prop
  | _, [] => True
  | supply, i :: inputs => supply ≤ i.env.supply ∧ Supplied i.env.next inputs

/-- The holder the visit retired. -/
def retiredIn (v : Visit Owner Input) : Option (Classification × Ref × Ref) :=
  v.input.event.retires.filter fun (_, p) =>
    p ∈ registeredOf v.pre.state.leases ∧ p ∉ registeredOf v.post.state.leases

/-- What some releases and abandonments, by the holders they name, did to an owner. -/
structure Retirements (o : Owner) (named : List (Ref × Ref)) (visits : List (Visit Owner Input))
    (o' : Owner) : Prop where
  /-- Leases only go on. -/
  advances : Advances o.state.leases o'.state.leases
  /-- The named holders are gone, the others stay. -/
  registered : registeredOf o'.state.leases = registeredOf o.state.leases \ named.toFinset
  /-- No holder is retired twice. -/
  once : ((visits.filterMap retiredIn).map Prod.snd).Nodup
  /-- Those retired are the named ones that were registered. -/
  retired : ∀ p, p ∈ (visits.filterMap retiredIn).map Prod.snd ↔
    p ∈ registeredOf o.state.leases ∧ p ∈ named
  /-- They are counted, each as it was retired. -/
  counted : ∀ classification : Classification, o'.state.counters classification.counter =
    o.state.counters classification.counter +
      (visits.filterMap retiredIn).countP fun r => r.1 = classification

/-- The holders the inputs name. -/
def named (inputs : List Input) : List (Ref × Ref) :=
  inputs.filterMap fun i => i.event.retires.map Prod.snd

theorem sdiff_singleton_of_notMem {p : Ref × Ref} {holders : Finset (Ref × Ref)}
    (h : p ∉ holders) : holders \ {p} = holders := by
  rw [Finset.sdiff_singleton_eq_erase, Finset.erase_eq_of_notMem h]

/-- The entry a release or an abandonment of `p` makes. -/
theorem Tally.Step.names {T T' : Tally} {act : Tally.Act} {classification : Classification}
    {p : Ref × Ref} (hst : Tally.Step T act T')
    (hact : (p ∈ T.registered ∧ act = .retire classification p) ∨
      (p ∉ T.registered ∧ (act = .idle ∨ act = .late p))) :
    T'.registered = T.registered \ {p} ∧ act.made = none ∧
      ∀ c, T'.retired c = T.retired c + if p ∈ T.registered ∧ c = classification then 1 else 0 := by
  rcases hact with ⟨hp, rfl⟩ | ⟨hp, rfl | rfl⟩
  · cases hst with
    | retire _ _ =>
        refine ⟨rfl, rfl, fun c => ?_⟩
        show Function.update T.retired classification (T.retired classification + 1) c = _
        by_cases hc : c = classification
        · subst hc
          simp [hp]
        · simp [hc]
  · cases hst with
    | idle => exact ⟨(sdiff_singleton_of_notMem hp).symm, rfl, fun c => by simp [hp]⟩
  · cases hst with
    | late _ => exact ⟨(sdiff_singleton_of_notMem hp).symm, rfl, fun c => by simp [hp]⟩

theorem Retirements.one {i : Input} {classification : Classification} {p : Ref × Ref}
    (hadvances : Advances o.state.leases o'.state.leases)
    (hevent : i.event.retires = some (classification, p))
    (hregistered : registeredOf o'.state.leases = registeredOf o.state.leases \ {p})
    (hcounted : ∀ c : Classification, o'.state.counters c.counter = o.state.counters c.counter +
      if p ∈ registeredOf o.state.leases ∧ c = classification then 1 else 0) :
    Retirements o [p] [⟨o, i, o'⟩] o' := by
  have hretired : [(⟨o, i, o'⟩ : Visit Owner Input)].filterMap retiredIn =
      if p ∈ registeredOf o.state.leases then [(classification, p)] else [] := by
    rw [filterMap_one, retiredIn, hevent, hregistered]
    by_cases hp : p ∈ registeredOf o.state.leases <;> simp [Option.filter, hp]
  refine ⟨hadvances, by simpa using hregistered, ?_, fun q => ?_, fun c => ?_⟩
  · rw [hretired]
    split <;> simp
  · rw [hretired]
    by_cases hp : p ∈ registeredOf o.state.leases
    · simp [hp]
      intro hq
      rw [hq]
      exact hp
    · simp [hp]
      rintro hq rfl
      exact hp hq
  · rw [hretired, hcounted c]
    by_cases hp : p ∈ registeredOf o.state.leases
    · simp [hp, List.countP_cons, eq_comm]
    · simp [hp]

/-- Retiring some holders and then some more. -/
theorem Retirements.append {o'' : Owner} {names names' : List (Ref × Ref)}
    {visits' : List (Visit Owner Input)} (h : Retirements o names visits o')
    (h' : Retirements o' names' visits' o'') :
    Retirements o (names ++ names') (visits ++ visits') o'' := by
  refine ⟨h.advances.trans h'.advances, ?_, ?_, fun p => ?_, fun c => ?_⟩
  · rw [h'.registered, h.registered, List.toFinset_append, sdiff_sdiff_left]
    rfl
  · rw [List.filterMap_append, List.map_append, List.nodup_append]
    refine ⟨h.once, h'.once, fun p hp q hq hpq => ?_⟩
    have hgone := (h'.retired q).mp hq
    rw [h.registered, ← hpq, Finset.mem_sdiff, List.mem_toFinset] at hgone
    exact hgone.1.2 ((h.retired p).mp hp).2
  · rw [List.filterMap_append, List.map_append, List.mem_append, h.retired, h'.retired,
      h.registered, Finset.mem_sdiff, List.mem_toFinset, List.mem_append]
    tauto
  · rw [h'.counted, h.counted, List.filterMap_append, List.countP_append, Nat.add_assoc]

theorem Owner.Tallied.retire {i : Input} {classification : Classification} {p : Ref × Ref}
    (h : o.Tallied made) (hfresh : o.supply ≤ i.env.supply)
    (hevent : i.event.retires = some (classification, p)) :
    ∃ o', o.advance i = some o' ∧ o'.Tallied made ∧ o'.supply = i.env.next ∧
      Retirements o [p] [⟨o, i, o'⟩] o' := by
  have hcoupled : Coupled { o.state with sent := [] } := h.sound.coupled.congr rfl rfl rfl
  obtain ⟨s', act, hlive, hadvances, hact, hkind⟩ :=
    handle_retires i.env hcoupled h.tally.listed h.fresh.apart hevent
  have hst : o.advance i = some ⟨s', i.env.next⟩ := by
    rw [Owner.advance, if_pos hfresh, outcome, hlive]
    rfl
  have hsound := (h.sound.step (Owner.advance_step hst)).1
  have htally : s'.tally.Sound := hact.sound h.tally
  obtain ⟨hregistered, hmade, hcounted⟩ := hact.names hkind
  have hfresh' := hact.fresh h.fresh (fun q hq => by rw [hmade] at hq; cases hq)
  rw [hmade, Option.toList, List.append_nil] at hfresh'
  exact ⟨⟨s', i.env.next⟩, hst, ⟨hsound, htally, hfresh'⟩, rfl,
    .one hadvances hevent hregistered hcounted⟩

theorem Owner.Tallied.follow (h : o.Tallied made) {inputs : List Input}
    (hretires : ∀ i ∈ inputs, i.event.retires.isSome = true)
    (hsupplied : Supplied o.supply inputs) :
    ∃ visits o', o.follow inputs = some (visits, o') ∧ o'.Tallied made ∧
      Retirements o (named inputs) visits o' := by
  induction inputs generalizing o with
  | nil => exact ⟨[], o, rfl, h, .refl _, by simp [named], by simp, by simp [named], by simp⟩
  | cons i inputs ih =>
      obtain ⟨⟨classification, p⟩, hevent⟩ :=
        Option.isSome_iff_exists.mp (hretires i List.mem_cons_self)
      obtain ⟨o₁, hadvance, h₁, hsupply, hone⟩ := h.retire hsupplied.1 hevent
      obtain ⟨visits, o₂, hfollow, h₂, hmore⟩ := ih h₁
        (fun j hj => hretires j (List.mem_cons_of_mem _ hj)) (hsupply ▸ hsupplied.2)
      refine ⟨⟨o, i, o₁⟩ :: visits, o₂, ?_, ?_⟩
      · simp [Owner.follow, hadvance, hfollow]
      · have hnamed : named (i :: inputs) = [p] ++ named inputs := by
          simp [named, hevent]
        rw [hnamed]
        exact ⟨h₂, hone.append hmore⟩

/-- A lease is moved when it loses its last holder. -/
theorem movedToRelease_iff (h : Coupled s) (h' : Coupled s')
    (hadvances : Advances s.leases s'.leases)
    (token : Ref) :
    MovedToRelease s s' token ↔
      (holdersOf s.leases token).Nonempty ∧ holdersOf s'.leases token = ∅ := by
  constructor
  · rintro ⟨⟨entry, hentry, hactive⟩, entry', hentry', hrelease⟩
    rw [holdersOf_some hentry, holdersOf_some hentry']
    refine ⟨((h.mirrors.mirror token).active entry hentry).mp hactive, ?_⟩
    exact h'.mirrors.no_holders hentry' fun hactive' => by rw [hactive'] at hrelease; cases hrelease
  · rintro ⟨hholders, hempty⟩
    obtain ⟨holder, hholder⟩ := hholders
    obtain ⟨entry, hentry, hactive, -⟩ := h.holder_active (mem_registeredOf.mpr hholder)
    obtain ⟨entry', hentry', hstatus⟩ := hadvances token entry hentry
    refine ⟨⟨entry, hentry, hactive⟩, entry', hentry', ?_⟩
    rcases hstatus with heq | ⟨hrelease, -⟩
    · have hactive' := ((h'.mirrors.mirror token).active entry' hentry').mp (heq.trans hactive)
      rw [holdersOf_some hentry'] at hempty
      rw [hempty] at hactive'
      exact absurd hactive' Finset.not_nonempty_empty
    · exact hrelease

/-- The counters and the tombstones agree with the holders. -/
structure HoldersCounted (s : State) : Prop where
  /-- Every holder that was retired or is registered was issued. -/
  issued : s.counters .explicitReleases + s.counters .abandonments + s.activeHolders ≤
    s.counters .issuedHolders
  /-- A late release follows an abandonment. -/
  late : s.counters .lateReleasesAfterAbandonment ≤ s.counters .abandonments
  /-- The release of a live holder is never taken for a duplicate. -/
  live : ∀ token holder, holder ∈ holdersOf s.leases token →
    s.releaseTombstones.fetch (token, holder) = none

theorem Owner.Tallied.counted (h : o.Tallied made) : HoldersCounted o.state :=
  ⟨h.tally.issued, (Nat.le_add_right _ _).trans h.tally.late,
    fun _ _ hholder => h.fresh.apart _ (mem_registeredOf.mpr hholder)⟩

/-- The holders named are those of the events. -/
theorem named_perm {inputs inputs' : List Input}
    (h : (inputs.map Input.event).Perm (inputs'.map Input.event)) :
    (named inputs).Perm (named inputs') := by
  have hnamed : ∀ inputs : List Input, named inputs =
      (inputs.map Input.event).filterMap fun event => event.retires.map Prod.snd := fun inputs => by
    rw [List.filterMap_map]
    rfl
  rw [hnamed, hnamed]
  exact h.filterMap _

/-- **Releases and abandonments may come in any order and any number of times.**
When no holder is made twice, an owner handles them all; who holds what, how
many holders there are and which leases are on their way to release is the same
for every order; and each registered holder that is named is retired by one of
them, and counted as that one counts. -/
theorem retirement_any_order (h : Owner.Run visits o)
    (hmade : (visits.filterMap holderIn).Nodup) :
    HoldersCounted o.state ∧
      ∀ inputs inputs', (∀ i ∈ inputs, i.event.retires.isSome = true) →
        (inputs.map Input.event).Perm (inputs'.map Input.event) →
        Supplied o.supply inputs → Supplied o.supply inputs' →
        ∃ visits₁ o₁ visits₂ o₂,
          o.follow inputs = some (visits₁, o₁) ∧ o.follow inputs' = some (visits₂, o₂) ∧
          holdersOf o₁.state.leases = holdersOf o₂.state.leases ∧
          o₁.state.activeHolders = o₂.state.activeHolders ∧
          (∀ token, MovedToRelease o.state o₁.state token ↔ MovedToRelease o.state o₂.state token) ∧
          Retirements o (named inputs) visits₁ o₁ ∧ Retirements o (named inputs') visits₂ o₂ := by
  have ht := h.tallied hmade
  refine ⟨ht.counted, fun inputs inputs' hretires hperm hsupplied hsupplied' => ?_⟩
  have hretires' : ∀ i ∈ inputs', i.event.retires.isSome = true := by
    intro i hi
    obtain ⟨j, hj, heq⟩ :=
      List.mem_map.mp (hperm.mem_iff.mpr (List.mem_map.mpr ⟨i, hi, rfl⟩))
    rw [← heq]
    exact hretires j hj
  obtain ⟨visits₁, o₁, hfollow₁, ht₁, hr₁⟩ := ht.follow hretires hsupplied
  obtain ⟨visits₂, o₂, hfollow₂, ht₂, hr₂⟩ := ht.follow hretires' hsupplied'
  have hregistered : registeredOf o₁.state.leases = registeredOf o₂.state.leases := by
    rw [hr₁.registered, hr₂.registered, List.toFinset_eq_of_perm _ _ (named_perm hperm)]
  have hholders : holdersOf o₁.state.leases = holdersOf o₂.state.leases := by
    funext token
    ext holder
    have hmem := Finset.ext_iff.mp hregistered (token, holder)
    simpa only [mem_registeredOf] using hmem
  refine ⟨visits₁, o₁, visits₂, o₂, hfollow₁, hfollow₂, hholders, ?_, fun token => ?_, hr₁, hr₂⟩
  · have hactive : o₁.state.activeHolders = (registeredOf o₁.state.leases).card := ht₁.tally.active
    rw [hactive, hregistered]
    exact ht₂.tally.active.symm
  · rw [movedToRelease_iff ht.sound.coupled ht₁.sound.coupled hr₁.advances,
      movedToRelease_iff ht.sound.coupled ht₂.sound.coupled hr₂.advances, hholders]

/-- A release and the abandonment of the same holder, in both orders. -/
theorem retirement_any_order_sample : ∃ o visits₁ o₁ visits₂ o₂,
    Owner.follow o [⟨.plain 27, .info (.release 20 21)⟩, ⟨.plain 36, .info (.abandoned 20 21)⟩] =
      some (visits₁, o₁) ∧
    Owner.follow o [⟨.plain 27, .info (.abandoned 20 21)⟩, ⟨.plain 36, .info (.release 20 21)⟩] =
      some (visits₂, o₂) ∧
    (holdersOf o.state.leases 20 = {21} ∧
      holdersOf o₁.state.leases = holdersOf o₂.state.leases) := by
  obtain ⟨visits₁, o₁, visits₂, o₂, hfollow₁, hfollow₂, hholders, -⟩ :=
    (retirement_any_order (sampleRun_run (n := 2) rfl) (by decide)).2
      [⟨.plain 27, .info (.release 20 21)⟩, ⟨.plain 36, .info (.abandoned 20 21)⟩]
      [⟨.plain 27, .info (.abandoned 20 21)⟩, ⟨.plain 36, .info (.release 20 21)⟩]
      (by simp [Event.retires]) (.swap _ _ []) ⟨by decide, by decide, trivial⟩
      ⟨by decide, by decide, trivial⟩
  exact ⟨_, visits₁, o₁, visits₂, o₂, hfollow₁, hfollow₂, rfl, hholders⟩

end VideoInterop.LeaseOwner
