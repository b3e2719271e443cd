import VideoInterop.LeaseOwner.Tombstones

/-!
# The first message decides

A holder may be named by any number of releases and abandonments.  The first one that
names it while it is registered retires it and says what the retirement counts as; the
others find no holder.  The two counters are the numbers of holders that were retired
in the two ways.
-/

namespace VideoInterop.LeaseOwner

variable {o o' : Owner} {i : Input} {v : Visit Owner Input} {visits : List (Visit Owner Input)}
  {p : Ref × Ref} {classification : Classification}

/-- A retirement is counted as what it is. -/
theorem Owner.Step.retired_count (hs : o.Sound) (hst : Owner.Step o i o')
    (classification : Classification) :
    o'.state.tally.retired classification = o.state.tally.retired classification +
      (retiredIn ⟨o, i, o'⟩).toList.countP (·.1 = classification) := by
  obtain ⟨act, hact, hfrom⟩ := hst.tally hs
  -- Who loses no holder counts none.
  have keeps (hsub : o.state.tally.registered ⊆ o'.state.tally.registered)
      (hsame : o'.state.tally.retired = o.state.tally.retired) :
      o'.state.tally.retired classification = o.state.tally.retired classification +
        (retiredIn ⟨o, i, o'⟩).toList.countP (·.1 = classification) := by
    rw [hsame, retiredIn_none (v := ⟨o, i, o'⟩) hsub]
    rfl
  generalize hT : o.state.tally = T at hact keeps ⊢
  generalize hT' : o'.state.tally = T' at hact keeps ⊢
  cases hact with
  | idle => exact keeps (Finset.Subset.refl _) rfl
  | register _ => exact keeps (Finset.subset_insert _ _) rfl
  | late _ => exact keeps (Finset.Subset.refl _) rfl
  | forfeit _ =>
      have hevent : i.event.retires = none := hfrom
      simp [retiredIn, hevent, Option.filter, Tally.without]
  | @retire c q _ _ hq _ =>
      have hevent : i.event.retires = some (c, q) := hfrom
      have hpre : q ∈ registeredOf o.state.leases := by
        have hmem : q ∈ o.state.tally.registered := hT ▸ hq
        exact hmem
      have hpost : q ∉ registeredOf o'.state.leases := by
        intro hmem
        have hmem' : q ∈ o'.state.tally.registered := hmem
        rw [hT'] at hmem'
        exact (Finset.mem_sdiff.mp hmem').2 (Finset.mem_singleton_self q)
      have hretired : retiredIn ⟨o, i, o'⟩ = some (c, q) := by
        simp [retiredIn, hevent, Option.filter, hpre, hpost]
      rw [hretired]
      by_cases hc : classification = c
      · subst hc
        simp
      · simp [Function.update_of_ne hc, Ne.symm hc]

/-- **The counters count the holders that were retired.** -/
theorem Owner.Run.retired_counts (h : Owner.Run visits o) (classification : Classification) :
    o.state.counters classification.counter =
      (visits.filterMap retiredIn).countP (·.1 = classification) := by
  refine h.history (P := fun visits o => o.state.tally.retired classification =
    (visits.filterMap retiredIn).countP (·.1 = classification)) ?_ ?_
  · rintro o ⟨_, _, _, hinit, -⟩
    rw [init_tally hinit]
    rfl
  · intro visits o i o' hrun ih hst
    rw [List.filterMap_append, List.countP_append, filterMap_one, ← ih,
      hst.retired_count hrun.sound]

/-- A message that names a registered holder retires it. -/
theorem Owner.Run.retires (h : Owner.Run visits o) (hfresh : (visits.filterMap holderIn).Nodup)
    (hst : Owner.Step o i o') (hevent : i.event.retires = some (classification, p))
    (hp : p ∈ registeredOf o.state.leases) : retiredIn ⟨o, i, o'⟩ = some (classification, p) := by
  have htallied := h.tallied hfresh
  have hcoupled : Coupled { o.state with sent := [] } :=
    htallied.sound.coupled.congr rfl rfl rfl
  obtain ⟨s', act, hlive, -, hact, hcase⟩ :=
    handle_retires i.env hcoupled htallied.tally.listed htallied.fresh.apart hevent
  have hs' : o'.state = s' := Option.some.inj (hst.live.symm.trans hlive)
  rcases hcase with ⟨-, rfl⟩ | ⟨hnot, -⟩
  · have hgone : p ∉ registeredOf o'.state.leases := by
      rw [hs']
      show p ∉ s'.tally.registered
      generalize s'.tally = T' at hact
      cases hact with
      | retire _ _ => exact fun hmem => (Finset.mem_sdiff.mp hmem).2 (Finset.mem_singleton_self p)
    simp [retiredIn, hevent, Option.filter, hp, hgone]
  · exact absurd hp hnot

theorem retired_filter_nil {visits : List (Visit Owner Input)} (h : p ∉ retiredOf visits) :
    (visits.filterMap retiredIn).filter (·.2 = p) = [] := by
  refine List.filter_eq_nil_iff.mpr fun r hr hrp => h ?_
  have hrp' : r.2 = p := of_decide_eq_true hrp
  exact hrp' ▸ List.mem_map_of_mem hr

/-- Who is not named is not retired. -/
theorem not_retired_unnamed {visits : List (Visit Owner Input)}
    (h : ∀ v ∈ visits, v.input.event.retires.map Prod.snd ≠ some p) : p ∉ retiredOf visits := by
  intro hmem
  obtain ⟨r, hr, rfl⟩ := List.mem_map.mp hmem
  obtain ⟨v, hv, hretired⟩ := List.mem_filterMap.mp hr
  refine h v hv ?_
  rw [(retiredIn_some hretired).1, Option.map_some]

/-- **The first message that names a registered holder decides.**  The holder is retired
once, as that message says. -/
theorem Owner.Run.first_decides {before after : List (Visit Owner Input)}
    (h : Owner.Run (before ++ v :: after) o)
    (hfresh : ((before ++ v :: after).filterMap holderIn).Nodup)
    (hbefore : ∀ u ∈ before, u.input.event.retires.map Prod.snd ≠ some p)
    (hv : v.input.event.retires = some (classification, p))
    (hp : p ∈ registeredOf v.pre.state.leases) :
    ((before ++ v :: after).filterMap retiredIn).filter (·.2 = p) = [(classification, p)] := by
  obtain ⟨o₀, hinit, hpath⟩ := h
  obtain ⟨hpre, hst, -⟩ := hpath.split
  have hrun : Owner.Run before v.pre := ⟨o₀, hinit, hpre⟩
  have hretired : retiredIn v = some (classification, p) :=
    hrun.retires (made_before hfresh) hst hv hp
  have honce := (Owner.Run.gone ⟨o₀, hinit, hpath⟩ hfresh).once
  rw [retiredOf_append, retiredOf_cons_some hretired] at honce
  have hlater : p ∉ retiredOf after := (List.nodup_cons.mp (List.nodup_append.mp honce).2.1).1
  have hnone : p ∉ retiredOf before := not_retired_unnamed hbefore
  rw [List.filterMap_append, List.filterMap_cons_some hretired, List.filter_append,
    retired_filter_nil hnone, List.filter_cons_of_pos (by simp), retired_filter_nil hlater,
    List.nil_append]

/-- The first of the messages that name a holder. -/
theorem first_named {visits : List (Visit Owner Input)} (hv : v ∈ visits)
    (hnamed : v.input.event.retires.map Prod.snd = some p) :
    ∃ before u after, visits = before ++ u :: after ∧
      (∀ w ∈ before, w.input.event.retires.map Prod.snd ≠ some p) ∧
      u.input.event.retires.map Prod.snd = some p := by
  have hsome : (visits.find? fun u => u.input.event.retires.map Prod.snd = some p).isSome = true :=
    List.find?_isSome.mpr ⟨v, hv, decide_eq_true hnamed⟩
  obtain ⟨u, hu⟩ := Option.isSome_iff_exists.mp hsome
  obtain ⟨hu', before, after, heq, hbefore⟩ := List.find?_eq_some_iff_append.mp hu
  refine ⟨before, u, after, heq, fun w hw => ?_, of_decide_eq_true hu'⟩
  simpa using hbefore w hw

/-- A holder that was made and is not registered is not registered again. -/
theorem Owner.Run.stays_gone (h : Owner.Run visits o) (hfresh : (visits.filterMap holderIn).Nodup) :
    ∀ before v after, visits = before ++ v :: after → p ∈ before.filterMap holderIn →
      p ∉ registeredOf v.pre.state.leases →
      p ∉ registeredOf o.state.leases ∧ p ∉ retiredOf (v :: after) := by
  refine h.history (P := fun visits o => (visits.filterMap holderIn).Nodup →
    ∀ before v after, visits = before ++ v :: after → p ∈ before.filterMap holderIn →
      p ∉ registeredOf v.pre.state.leases →
      p ∉ registeredOf o.state.leases ∧ p ∉ retiredOf (v :: after)) ?_ ?_ hfresh
  · intro o _ _ before v after heq
    cases before <;> cases heq
  · intro visits o i o' hrun ih hst hnodup before v after heq hmade hpre
    -- One more visit does not register it, and it retires registered holders only.
    have next (hold : p ∈ visits.filterMap holderIn) (hgone : p ∉ registeredOf o.state.leases) :
        p ∉ registeredOf o'.state.leases ∧ p ∉ retiredOf [⟨o, i, o'⟩] := by
      obtain ⟨act, hact, hfrom⟩ := hst.tally hrun.sound
      rw [List.filterMap_append, filterMap_one] at hnodup
      refine ⟨fun hmem => ?_, fun hmem => ?_⟩
      · rcases hact.registered hmem with hmem | hnew
        · exact hgone hmem
        · refine (List.nodup_append.mp hnodup).2.2 p hold p ?_ rfl
          rw [Option.mem_toList]
          exact hfrom.made hnew
      · rw [retiredOf_one, Option.mem_toList] at hmem
        obtain ⟨r, hr, rfl⟩ := Option.map_eq_some_iff.mp hmem
        exact hgone (retiredIn_some hr).2.1
    rcases List.eq_nil_or_concat after with rfl | ⟨after', u, rfl⟩
    · obtain ⟨rfl, hv⟩ := List.append_inj' heq rfl
      cases hv
      exact next hmade hpre
    · rw [List.concat_eq_append] at heq ⊢
      obtain ⟨rfl, hu⟩ :=
        List.append_inj' (heq.trans (List.append_assoc before (v :: after') [u]).symm) rfl
      cases hu
      obtain ⟨hgone, hretired⟩ := ih (made_before hnodup) before v after' rfl hmade hpre
      have hold : p ∈ (before ++ v :: after').filterMap holderIn := by
        rw [List.filterMap_append]
        exact List.mem_append_left _ hmade
      obtain ⟨hgone', hretired'⟩ := next hold hgone
      refine ⟨hgone', fun hmem => ?_⟩
      rw [← List.cons_append, retiredOf_append, List.mem_append] at hmem
      exact hmem.elim hretired hretired'

/-- The first message that names a holder decides: it retires a registered holder, and an
unregistered one is not retired at all. -/
theorem Owner.Run.first_verdict (h : Owner.Run visits o)
    (hfresh : (visits.filterMap holderIn).Nodup) {before after : List (Visit Owner Input)}
    {v : Visit Owner Input} {classification : Classification} {p : Ref × Ref}
    (heq : visits = before ++ v :: after) (hmade : p ∈ before.filterMap holderIn)
    (hbefore : ∀ u ∈ before, u.input.event.retires.map Prod.snd ≠ some p)
    (hv : v.input.event.retires = some (classification, p)) :
    (visits.filterMap retiredIn).filter (·.2 = p) =
      if p ∈ registeredOf v.pre.state.leases then [(classification, p)] else [] := by
  subst heq
  split
  · next hp => exact h.first_decides hfresh hbefore hv hp
  · next hp =>
      obtain ⟨-, hlater⟩ := h.stays_gone hfresh before v after rfl hmade hp
      refine retired_filter_nil fun hmem => ?_
      rw [retiredOf_append, List.mem_append] at hmem
      exact hmem.elim (not_retired_unnamed hbefore) hlater

/-- **One verdict for each holder.**  A holder that was made before any message named it
is retired at most once, and only as the first message that names it says: when it is
registered at that moment it is retired by that message, and otherwise never.  The
counters count the holders that were retired in each way. -/
theorem one_verdict (h : Owner.Run visits o) (hfresh : (visits.filterMap holderIn).Nodup) :
    (∀ before v after classification p, visits = before ++ v :: after →
      p ∈ before.filterMap holderIn →
      (∀ u ∈ before, u.input.event.retires.map Prod.snd ≠ some p) →
      v.input.event.retires = some (classification, p) →
      (visits.filterMap retiredIn).filter (·.2 = p) =
        if p ∈ registeredOf v.pre.state.leases then [(classification, p)] else []) ∧
      ∀ classification : Classification, o.state.counters classification.counter =
        (visits.filterMap retiredIn).countP (·.1 = classification) := by
  refine ⟨?_, h.retired_counts⟩
  intro before v after classification p heq hmade hbefore hv
  exact h.first_verdict hfresh heq hmade hbefore hv

/-- A holder is made and released. -/
theorem one_verdict_sample : ∃ visits o, Owner.Run visits o ∧
    (visits.filterMap retiredIn).filter (·.2 = (20, 21)) = [(.explicit, 20, 21)] := by
  have hrun := sampleRun_run (n := 3) rfl
  have honce := (one_verdict hrun (by decide)).1 (((sampleRun 3).get rfl).1.take 2)
    (((sampleRun 3).get rfl).1.get ⟨2, by decide⟩) [] .explicit (20, 21) rfl (by decide)
    (by decide) rfl
  exact ⟨_, _, hrun, honce⟩

end VideoInterop.LeaseOwner
