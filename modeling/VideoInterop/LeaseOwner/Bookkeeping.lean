import Mathlib
import VideoInterop.LeaseOwner.Changes
import VideoInterop.LeaseOwner.Replies

/-!
# Derived bookkeeping

The owner keeps eight indices beside its leases, reservations and drain waiters.
Each is what it would be if it were computed: the count of holders, the age
index, the index of the pending issues, the pending retains, the monitors of
both protocols, and the monitors of the drain waiters.

Three views carry the proof.  The roster keeps the ages, the tally the count of
holders, the mail the drain waiters.  The custody keeps the rest, and is exact
when no two reservations are asked for under one reference.
-/

namespace VideoInterop.LeaseOwner

/-! ## The exact custody -/

namespace Custody

/-- A sound custody in which a monitor of a reservation has the reservation, and
the index has every pending issue. -/
structure Exact (C : Custody) : Prop extends Sound C where
  /-- A monitor of a reservation has the reservation. -/
  watched : ∀ monitorRef requestRef,
    C.watches.fetch monitorRef = some (.reservation requestRef) →
      ∃ r, C.reservations.fetch requestRef = some r ∧ r.monitorRef = monitorRef
  /-- The index has every pending issue. -/
  indexed : ∀ token H monitorRef requestRef, C.holdings token = some H →
    H.pendingIssue = some (monitorRef, requestRef) → C.issues.fetch requestRef = some token
  /-- No request has a reservation and a pending issue. -/
  apart : ∀ requestRef r, C.reservations.fetch requestRef = some r →
    C.issues.fetch requestRef = none

/-- A reservation or a pending issue is of the request. -/
def Knows (C : Custody) (requestRef : Ref) : Prop :=
  (∃ r, C.reservations.fetch requestRef = some r) ∨
    ∃ token, C.issues.fetch requestRef = some token

variable {env : Env} {event : Event} {C C' : Custody} {token : Ref} {H K : Holding}
  {signals : List Signal} {watches : FMap Ref MonitorTarget}

/-- A custody with fewer monitors, reservations and issues. -/
theorem Exact.lessen (h : Exact C) (hsound : Sound C')
    (hwatches : ∀ m q, C'.watches.fetch m = some (.reservation q) →
      C.watches.fetch m = some (.reservation q) ∧
        C'.reservations.fetch q = C.reservations.fetch q)
    (hindexed : ∀ token H m q, C'.holdings token = some H → H.pendingIssue = some (m, q) →
      C'.issues.fetch q = some token)
    (hreservations : ∀ q r, C'.reservations.fetch q = some r → C.reservations.fetch q = some r)
    (hissues : ∀ q, C.issues.fetch q = none → C'.issues.fetch q = none) : Exact C' := by
  refine ⟨hsound, fun m q hm => ?_, hindexed, fun q r hr => ?_⟩
  · obtain ⟨hold, hsame⟩ := hwatches m q hm
    rw [hsame]
    exact h.watched m q hold
  · exact hissues q (h.apart q r (hreservations q r hr))

/-- The index of another lease's issue survives the issue of this one. -/
theorem Exact.issues_delete (h : Exact C) (hH : C.holdings token = some H) {m q : Ref}
    (hpending : H.pendingIssue = some (m, q)) {other : Ref} (hne : other ≠ token)
    {K : Holding} (hK : C.holdings other = some K) {m' q' : Ref}
    (hpending' : K.pendingIssue = some (m', q')) : (C.issues.delete q).fetch q' = some other := by
  have hindex := h.indexed other K m' q' hK hpending'
  cases decEq q' q with
  | isTrue heq =>
      have hown := h.indexed token H m q hH hpending
      rw [heq, hown] at hindex
      exact absurd (Option.some.inj hindex).symm hne
  | isFalse hq => simp [hq, hindex]

/-- A lease leaves with its issue. -/
theorem Exact.dismissed (h : Exact C) (hH : C.holdings token = some H)
    (hwatches : C.watches.Without H.Watches watches) : Exact (C.dismissed token H watches) := by
  refine h.lessen (h.toSound.dismissed hH hwatches)
    (fun m q hm => ⟨((hwatches _ _).mp hm).1, rfl⟩) ?_ (fun q r hr => hr) ?_
  · intro other K m q hK hpending
    have hne : other ≠ token := by
      rintro rfl
      simp [Custody.dismissed] at hK
    have hK' : C.holdings other = some K := by
      simpa [Custody.dismissed, hne] using hK
    simp only [Custody.dismissed]
    cases hissue : H.pendingIssue with
    | none => exact h.indexed other K m q hK' hpending
    | some p => exact h.issues_delete hH hissue hne hK' hpending
  · intro q hq
    simp only [Custody.dismissed]
    cases H.pendingIssue with
    | none => exact hq
    | some p => simp [hq]

/-- A lease that keeps its issue. -/
theorem Exact.amended (h : Exact C) (hH : C.holdings token = some H)
    (hsound : Sound (C.amended token K watches)) (hissue : K.pendingIssue = H.pendingIssue)
    (hwatches : ∀ m q, watches.fetch m = some (.reservation q) →
      C.watches.fetch m = some (.reservation q)) : Exact (C.amended token K watches) := by
  refine h.lessen hsound (fun m q hm => ⟨hwatches m q hm, rfl⟩) ?_ (fun q r hr => hr)
    (fun q hq => hq)
  intro other L m q hL hpending
  cases decEq other token with
  | isTrue heq =>
      subst heq
      simp only [Custody.amended, Function.update_self, Option.some.injEq] at hL
      subst hL
      exact h.indexed other H m q hH (hissue ▸ hpending)
  | isFalse hne =>
      simp only [Custody.amended, Function.update_of_ne hne] at hL
      exact h.indexed other L m q hL hpending

/-- A reservation leaves with its monitor. -/
theorem Exact.vacate (h : Exact C) {requestRef : Ref} {gone : Ref → Prop}
    (hsound : Sound { C with
      reservations := C.reservations.delete requestRef, watches := watches })
    (hwatches : C.watches.Without gone watches)
    (hgone : ∀ r, C.reservations.fetch requestRef = some r → gone r.monitorRef) :
    Exact { C with reservations := C.reservations.delete requestRef, watches := watches } := by
  refine h.lessen hsound (fun m q hm => ?_) h.indexed (fun q r hr => ?_) (fun q hq => hq)
  · obtain ⟨hold, hnot⟩ := (hwatches _ _).mp hm
    refine ⟨hold, ?_⟩
    have hne : q ≠ requestRef := by
      rintro rfl
      obtain ⟨r, hr, rfl⟩ := h.watched m q hold
      exact hnot (hgone r hr)
    simp [hne]
  · simp only [FMap.fetch_delete] at hr
    split at hr
    · cases hr
    · exact hr

/-- **A change keeps the custody exact**, when the references it makes are new and
a reservation is asked for under a new one. -/
theorem Change.exact (hchange : Change env event C signals C') (h : Exact C)
    (hmonitor : C.watches.fetch env.monitorRef = none) (htoken : C.holdings env.token = none)
    (hrequest : ∀ metadata replyTo requestRef,
      event = .info (.reserveIssue metadata replyTo requestRef) → ¬C.Knows requestRef) :
    Exact C' := by
  have hsound := hchange.sound h.toSound hmonitor htoken
  cases hchange with
  | same => exact h
  | drain _ => exact h
  | @reserve metadata replyTo requestRef hevent =>
      have hnew := hrequest metadata replyTo requestRef hevent
      have hunreserved : C.reservations.fetch requestRef = none :=
        Option.eq_none_iff_forall_ne_some.mpr fun r hr => hnew (.inl ⟨r, hr⟩)
      have hunissued : C.issues.fetch requestRef = none :=
        Option.eq_none_iff_forall_ne_some.mpr fun t ht => hnew (.inr ⟨t, ht⟩)
      refine ⟨hsound, fun m q hm => ?_, h.indexed, fun q r hr => ?_⟩
      · rcases (FMap.fetch_put_fresh hmonitor _ _ _).mp hm with ⟨rfl, htarget⟩ | hm
        · cases htarget
          exact ⟨_, FMap.fetch_put_self _ _ _, rfl⟩
        · obtain ⟨r, hr, hrm⟩ := h.watched m q hm
          have hne : q ≠ requestRef := by
            rintro rfl
            rw [hunreserved] at hr
            cases hr
          exact ⟨r, by simp [hne, hr], hrm⟩
      · rcases (FMap.fetch_put_fresh hunreserved _ _ _).mp hr with ⟨rfl, -⟩ | hr
        · exact hunissued
        · exact h.apart q r hr
  | vacate _ hwatches => exact h.vacate hsound hwatches fun r hr => .inr ⟨r, hr, rfl⟩
  | @issue reservation backendToken replyTo requestRef r lease _ hr _ _ =>
      have hunissued := h.apart requestRef r hr
      refine ⟨hsound, fun m q hm => ?_, fun t K m q hK hpending => ?_, fun q r' hr' => ?_⟩
      · rw [FMap.fetch_put] at hm
        split at hm
        · cases hm
        · next hne =>
            obtain ⟨r', hr', hrm⟩ := h.watched m q hm
            have hq : q ≠ requestRef := by
              rintro rfl
              rw [hr] at hr'
              cases hr'
              exact hne hrm.symm
            exact ⟨r', by simp [hq, hr'], hrm⟩
      · cases decEq t env.token with
        | isTrue heq =>
            subst heq
            simp only [Function.update_self, Option.some.injEq] at hK
            subst hK
            cases hpending
            exact FMap.fetch_put_self _ _ _
        | isFalse hne =>
            simp only [Function.update_of_ne hne] at hK
            have hindex := h.indexed t K m q hK hpending
            exact (FMap.fetch_put_fresh hunissued _ _ _).mpr (.inr hindex)
      · rw [FMap.fetch_delete] at hr'
        split at hr'
        · cases hr'
        · next hne => simp [hne, h.apart q r' hr']
  | reject _ hr hwatches =>
      refine h.vacate hsound hwatches fun r' hr' => ?_
      rw [hr] at hr'
      cases hr'
      rfl
  | @confirmIssue token requestRef monitorRef H _ hH hpending =>
      refine h.lessen hsound (fun m q hm => ⟨?_, rfl⟩) ?_ (fun q r hr => hr) ?_
      · exact ((FMap.Without.delete C.watches monitorRef m _).mp hm).1
      · intro other K m q hK hpending'
        have hne : other ≠ token := by
          rintro rfl
          simp only [Custody.amended, Function.update_self, Option.some.injEq] at hK
          subst hK
          cases hpending'
        simp only [Custody.amended, Function.update_of_ne hne] at hK
        exact h.issues_delete hH hpending hne hK hpending'
      · intro q hq
        simp [hq]
  | revoke _ hH _ hwatches => exact h.dismissed hH hwatches
  | retain _ hH _ _ =>
      refine h.amended hH hsound rfl fun m q hm => ?_
      rcases (FMap.fetch_put_fresh hmonitor _ _ _).mp hm with ⟨-, htarget⟩ | hm
      · cases htarget
      · exact hm
  | confirmRetain _ hH _ =>
      exact h.amended hH hsound rfl fun m q hm => ((FMap.Without.delete _ _ m _).mp hm).1
  | remove _ hH _ _ hwatches =>
      exact h.amended hH hsound rfl fun m q hm => ((hwatches m _).mp hm).1
  | removeLast _ hH _ hwatches => exact h.dismissed hH hwatches

/-- What a change knows was known or is a reservation asked for. -/
theorem Change.knows (hchange : Change env event C signals C') {requestRef : Ref}
    (hknows : C'.Knows requestRef) :
    C.Knows requestRef ∨
      ∃ metadata replyTo, event = .info (.reserveIssue metadata replyTo requestRef) := by
  have hdelete {ν : Type} {m : FMap Ref ν} {k q : Ref} {v : ν}
      (hv : (m.delete k).fetch q = some v) : m.fetch q = some v := by
    rw [FMap.fetch_delete] at hv
    split at hv
    · cases hv
    · exact hv
  have hdismissed {token : Ref} {H : Holding} {watches : FMap Ref MonitorTarget}
      (hd : (C.dismissed token H watches).Knows requestRef) : C.Knows requestRef := by
    refine hd.imp id fun hissue => ?_
    obtain ⟨t, ht⟩ := hissue
    refine ⟨t, ?_⟩
    simp only [Custody.dismissed] at ht
    cases hissue : H.pendingIssue with
    | none =>
        rw [hissue] at ht
        exact ht
    | some p =>
        rw [hissue] at ht
        exact hdelete ht
  have hreservations {m : FMap Ref Reservation} {k : Ref}
      (hr : ∃ r, (m.delete k).fetch requestRef = some r) : ∃ r, m.fetch requestRef = some r := by
    obtain ⟨r, hr⟩ := hr
    exact ⟨r, hdelete hr⟩
  cases hchange with
  | same => exact .inl hknows
  | drain _ => exact .inl hknows
  | @reserve metadata replyTo q hevent =>
      cases decEq requestRef q with
      | isTrue heq => exact .inr ⟨metadata, replyTo, heq ▸ hevent⟩
      | isFalse hne =>
          refine .inl (hknows.imp (fun hr => ?_) id)
          obtain ⟨r, hr⟩ := hr
          exact ⟨r, by simpa [hne] using hr⟩
  | vacate _ _ => exact .inl (hknows.imp hreservations id)
  | @issue _ _ _ q r _ _ hr _ _ =>
      refine .inl ?_
      rcases hknows with ⟨r', hr'⟩ | ⟨t, ht⟩
      · exact .inl ⟨r', hdelete hr'⟩
      · rw [FMap.fetch_put] at ht
        split at ht
        · next heq => exact .inl ⟨r, heq ▸ hr⟩
        · exact .inr ⟨t, ht⟩
  | reject _ _ _ => exact .inl (hknows.imp hreservations id)
  | confirmIssue _ _ _ =>
      refine .inl (hknows.imp id fun hissue => ?_)
      obtain ⟨t, ht⟩ := hissue
      exact ⟨t, hdelete ht⟩
  | revoke _ _ _ _ => exact .inl (hdismissed hknows)
  | retain _ _ _ _ => exact .inl hknows
  | confirmRetain _ _ _ => exact .inl hknows
  | remove _ _ _ _ _ => exact .inl hknows
  | removeLast _ _ _ _ => exact .inl (hdismissed hknows)

/-- What a change watches was watched or is watched with its monitor. -/
theorem Change.watch (hchange : Change env event C signals C') (h : Sound C) {monitorRef : Ref}
    {target : MonitorTarget} (hwatch : C'.watches.fetch monitorRef = some target) :
    (∃ old, C.watches.fetch monitorRef = some old) ∨ monitorRef = env.monitorRef := by
  have hput {k : Ref} {t : MonitorTarget}
      (hk : (C.watches.put k t).fetch monitorRef = some target) :
      (∃ old, C.watches.fetch monitorRef = some old) ∨ monitorRef = k := by
    rw [FMap.fetch_put] at hk
    split at hk
    · next heq => exact .inr heq
    · exact .inl ⟨_, hk⟩
  cases hchange with
  | same => exact .inl ⟨_, hwatch⟩
  | drain _ => exact .inl ⟨_, hwatch⟩
  | reserve _ => exact hput hwatch
  | vacate _ hwatches => exact .inl ⟨_, ((hwatches _ _).mp hwatch).1⟩
  | issue _ hr _ _ =>
      rcases hput hwatch with hold | rfl
      · exact .inl hold
      · exact .inl ⟨_, h.reservation _ _ hr⟩
  | reject _ _ hwatches => exact .inl ⟨_, ((hwatches _ _).mp hwatch).1⟩
  | confirmIssue _ _ _ => exact .inl ⟨_, ((FMap.Without.delete _ _ _ _).mp hwatch).1⟩
  | revoke _ _ _ hwatches => exact .inl ⟨_, ((hwatches _ _).mp hwatch).1⟩
  | retain _ _ _ _ => exact hput hwatch
  | confirmRetain _ _ _ => exact .inl ⟨_, ((FMap.Without.delete _ _ _ _).mp hwatch).1⟩
  | remove _ _ _ _ hwatches => exact .inl ⟨_, ((hwatches _ _).mp hwatch).1⟩
  | removeLast _ _ _ hwatches => exact .inl ⟨_, ((hwatches _ _).mp hwatch).1⟩

end Custody

/-! ## Runs -/

variable {env : Env} {s : State} {o o' : Owner} {i : Input} {visits : List (Visit Owner Input)}

theorem init_custody {self : Pid} {opts : Options} (h : init env self opts = .ok s) :
    s.custody = ⟨∅, ∅, ∅, fun _ => none⟩ := by
  unfold init at h
  split at h
  · cases h
  · split at h
    · cases h
    · split at h
      · cases h
      · cases h
        rfl

/-- The custody of an owner is sound, and its monitors are in use. -/
structure Owner.Watched (o : Owner) : Prop where
  /-- The custody is sound. -/
  sound : o.state.custody.Sound
  /-- Its monitors were made before. -/
  lt : ∀ monitorRef target, o.state.custody.watches.fetch monitorRef = some target →
    monitorRef < o.supply

theorem Owner.Watched.fresh (h : o.Watched) (hst : Owner.Step o i o') :
    o.state.custody.watches.fetch i.env.monitorRef = none := by
  refine Option.eq_none_iff_forall_ne_some.mpr fun target hwatch => ?_
  exact Nat.not_lt.mpr (hst.made (k := 1) (by omega)).1 (h.lt _ _ hwatch)

theorem Owner.Sound.unheld (h : o.Sound) (hst : Owner.Step o i o') :
    o.state.custody.holdings i.env.token = none := by
  simp only [State.custody, h.fresh hst, Option.bind_none]

/-- A step of a reachable owner makes one change to its custody. -/
theorem Owner.Step.change (hrun : Owner.Run visits o) (hw : o.Watched) (hst : Owner.Step o i o') :
    ∃ signals, Custody.Change i.env i.event o.state.custody signals o'.state.custody ∧
      o'.state.sent.filter Signal.binding = signals := by
  have hcoupled : Coupled { o.state with sent := [] } := hrun.sound.coupled.congr rfl rfl rfl
  have halters := (outcome_transition o.state i).change hcoupled hrun.roster hw.sound
    (hrun.sound.fresh hst) hst.live
  obtain ⟨signals, hchange, hsent⟩ := halters
  exact ⟨signals, hchange, by simpa using hsent⟩

/-- The custody of every reachable owner is sound. -/
theorem Owner.Run.watched (h : Owner.Run visits o) : o.Watched := by
  refine h.history (P := fun _ o => o.Watched) ?_ ?_
  · rintro o ⟨env, self, opts, hinit, -⟩
    have hcustody := init_custody hinit
    refine ⟨?_, fun m t hm => ?_⟩
    · rw [hcustody]
      exact ⟨by simp, by simp, by simp, by simp, by simp, by simp⟩
    · rw [hcustody] at hm
      simp at hm
  · intro visits o i o' hrun ih hst
    obtain ⟨signals, hchange, -⟩ := hst.change hrun ih
    refine ⟨hchange.sound ih.sound (ih.fresh hst) (hrun.sound.unheld hst), fun m t hm => ?_⟩
    rcases hchange.watch ih.sound hm with ⟨old, hold⟩ | rfl
    · exact Nat.lt_of_lt_of_le (ih.lt m old hold) hst.supply_le
    · exact (hst.made (k := 1) (by omega)).2

/-- The reference a visit asks for a reservation under. -/
def reserveIn (v : Visit Owner Input) : Option Ref :=
  match v.input.event with
  | .info (.reserveIssue _ _ requestRef) => some requestRef
  | _ => none

/-- The reference a visit asks for a drain under. -/
def drainIn (v : Visit Owner Input) : Option Ref :=
  match v.input.event with
  | .info (.drain _ requestRef) => some requestRef
  | _ => none

/-- Every reservation and every drain is asked for under a reference of its own. -/
structure FreshReferences (visits : List (Visit Owner Input)) : Prop where
  /-- No reference is used for two reservations. -/
  reserves : (visits.filterMap reserveIn).Nodup
  /-- No reference is used for two drains. -/
  drains : (visits.filterMap drainIn).Nodup

/-- The custody is exact, and what it knows was asked for. -/
structure Owner.Kept (asked : List Ref) (o : Owner) : Prop where
  /-- The custody is exact. -/
  exact : o.state.custody.Exact
  /-- Its requests were asked. -/
  known : ∀ requestRef, o.state.custody.Knows requestRef → requestRef ∈ asked

/-- **With fresh references the custody is exact.** -/
theorem Owner.Run.kept (h : Owner.Run visits o) (hfresh : (visits.filterMap reserveIn).Nodup) :
    o.Kept (visits.filterMap reserveIn) := by
  refine h.history (P := fun visits o => (visits.filterMap reserveIn).Nodup →
    o.Kept (visits.filterMap reserveIn)) ?_ ?_ hfresh
  · rintro o ⟨env, self, opts, hinit, -⟩ -
    have hcustody := init_custody hinit
    refine ⟨⟨?_, ?_, ?_, ?_⟩, ?_⟩ <;> rw [hcustody]
    · exact ⟨by simp, by simp, by simp, by simp, by simp, by simp⟩
    · simp
    · simp
    · simp
    · simp [Custody.Knows]
  · intro visits o i o' hrun ih hst hnodup
    rw [List.filterMap_append, filterMap_one] at hnodup ⊢
    obtain ⟨hold, -, hdisjoint⟩ := List.nodup_append.mp hnodup
    obtain ⟨hexact, hknown⟩ := ih hold
    have hw := hrun.watched
    obtain ⟨signals, hchange, -⟩ := hst.change hrun hw
    have hin : ∀ metadata replyTo q, i.event = .info (.reserveIssue metadata replyTo q) →
        q ∈ (reserveIn ⟨o, i, o'⟩).toList := by
      intro metadata replyTo q hevent
      simp [reserveIn, hevent]
    refine ⟨hchange.exact hexact (hw.fresh hst) (hrun.sound.unheld hst) ?_, ?_⟩
    · intro metadata replyTo q hevent hknows
      exact hdisjoint q (hknown q hknows) q (hin metadata replyTo q hevent) rfl
    · intro q hq
      rcases hchange.knows hq with hq | ⟨metadata, replyTo, hevent⟩
      · exact List.mem_append.mpr (.inl (hknown q hq))
      · exact List.mem_append.mpr (.inr (hin metadata replyTo q hevent))

theorem drains_joined (visits : List (Visit Owner Input)) :
    ((visits.map Handled.of).filterMap joinedIn).map Prod.fst = visits.filterMap drainIn := by
  rw [List.filterMap_map, List.map_filterMap]
  congr 1
  funext v
  obtain ⟨pre, ⟨env, event⟩, post⟩ := v
  cases event with
  | info message => cases message <;> rfl
  | _ => rfl

/-! ## The count of holders -/

/-- The sizes of all leases' holder sets, added up. -/
def holderSum (leases : FMap Ref Entry) : Nat := (leases.entries.map fun e => e.2.holders.card).sum

theorem registeredOf_card (leases : FMap Ref Entry) :
    (registeredOf leases).card = holderSum leases := by
  have hdisjoint : (leases.keys.toFinset : Set Ref).PairwiseDisjoint fun token =>
      (holdersOf leases token).image (Prod.mk token) := by
    intro a _ b _ hne
    simp only [Function.onFun, Finset.disjoint_left, Finset.mem_image]
    rintro p ⟨x, -, rfl⟩ ⟨y, -, heq⟩
    exact hne (Prod.mk.inj heq).1.symm
  have hcard : ∀ token, ((holdersOf leases token).image (Prod.mk token)).card =
      (holdersOf leases token).card := fun token =>
    Finset.card_image_of_injective _ fun a b heq => (Prod.mk.inj heq).2
  have hkeys : leases.entries.map (fun e => e.2.holders.card) =
      leases.keys.map fun token => (holdersOf leases token).card := by
    have hfst : leases.keys = leases.entries.map Prod.fst := by
      simp [FMap.keys, FMap.entries, AList.keys, List.keys, Function.comp_def]
    rw [hfst, List.map_map]
    refine List.map_congr_left fun e he => ?_
    have hentry : leases.fetch e.1 = some e.2 := FMap.mem_entries.mp he
    simp only [Function.comp, holdersOf_some hentry]
  rw [registeredOf, Finset.card_biUnion hdisjoint, holderSum, hkeys]
  simp only [hcard]
  rw [List.sum_toFinset _ leases.keys_nodup]

/-- No lease has more holders than all together. -/
theorem card_le_registeredOf {leases : FMap Ref Entry} {token : Ref} {entry : Entry}
    (hentry : leases.fetch token = some entry) :
    entry.holders.card ≤ (registeredOf leases).card := by
  have hinjective : Function.Injective (Prod.mk token : Ref → Ref × Ref) :=
    fun a b heq => (Prod.mk.inj heq).2
  rw [← Finset.card_image_of_injective entry.holders hinjective]
  refine Finset.card_le_card fun p hp => ?_
  obtain ⟨holder, hholder, rfl⟩ := Finset.mem_image.mp hp
  rw [mem_registeredOf, holdersOf_some hentry]
  exact hholder

/-! ## The indices -/

/-- What a monitor of the two protocols stands for in the state. -/
def Stands (s : State) (monitorRef : Ref) : MonitorTarget → Prop
  | .reservation requestRef =>
      ∃ r, s.issueReservations.fetch requestRef = some r ∧ r.monitorRef = monitorRef
  | .issuePending _ => False
  | .issue token requestRef =>
      ∃ entry, s.leases.fetch token = some entry ∧
        entry.pendingIssue = some (monitorRef, requestRef)
  | .retain token child =>
      ∃ entry requestRef, s.leases.fetch token = some entry ∧
        entry.pendingRetains.fetch child = some (monitorRef, requestRef)

/-- Every index is what it would be if it were computed. -/
structure Bookkept (s : State) : Prop where
  /-- Holders are counted over all leases. -/
  activeHolders : s.activeHolders = holderSum s.leases
  /-- No handler subtracts more than there is. -/
  unclamped : ∀ token entry, s.leases.fetch token = some entry →
    entry.holders.card ≤ s.activeHolders
  /-- The index of ages has the leases and nothing else. -/
  leaseAgeIndex : ∀ issuedAtNs token, (issuedAtNs, token) ∈ s.leaseAgeIndex ↔
    ∃ entry, s.leases.fetch token = some entry ∧ entry.issuedAtNs = issuedAtNs
  /-- The index of issues has those that are pending. -/
  pendingIssues : ∀ requestRef token, s.pendingIssues.fetch requestRef = some token ↔
    ∃ entry monitorRef, s.leases.fetch token = some entry ∧
      entry.pendingIssue = some (monitorRef, requestRef)
  /-- A pending retain is of a holder that is registered. -/
  pendingRetains : ∀ token entry child p, s.leases.fetch token = some entry →
    entry.pendingRetains.fetch child = some p → child ∈ entry.holders
  /-- A monitor stands for what is still pending. -/
  protocolMonitors : ∀ monitorRef target,
    s.protocolMonitors.fetch monitorRef = some target ↔ Stands s monitorRef target
  /-- The index of drain monitors is that of the waiters. -/
  drainMonitors : ∀ monitorRef requestRef, s.drainMonitors.fetch monitorRef = some requestRef ↔
    ∃ process, s.drainWaiters.fetch requestRef = some (process, monitorRef)
  /-- A lease that is not active has no holder and nothing pending. -/
  inactive : ∀ token entry, s.leases.fetch token = some entry → entry.status ≠ .active →
    entry.pendingIssue = none ∧ (∀ child, entry.pendingRetains.fetch child = none) ∧
      entry.holders = ∅

/-- A lease with something pending is active. -/
theorem Roster.Sound.active {R : Roster} {token : Ref} {entry : Entry} (h : R.Sound)
    (hentry : R.leases.fetch token = some entry)
    (hpending : entry.pendingIssue ≠ none ∨ ∃ child p, entry.pendingRetains.fetch child = some p) :
    entry.status = .active := by
  by_contra hinactive
  obtain ⟨hissue, hretains⟩ := h.settled token entry hentry hinactive
  rcases hpending with hpending | ⟨child, p, hpending⟩
  · exact hpending hissue
  · rw [hretains] at hpending
    simp at hpending

/-- **Derived bookkeeping.** -/
theorem derived_bookkeeping (h : Owner.Run visits o) (hfresh : FreshReferences visits) :
    Bookkept o.state := by
  have hcustody := (h.kept hfresh.reserves).exact
  have hroster := h.roster
  have hactive : o.state.activeHolders = (registeredOf o.state.leases).card := h.tally_sound.active
  have hheld : ∀ token entry, o.state.leases.fetch token = some entry → entry.status = .active →
      o.state.custody.holdings token = some entry.holding := fun token entry hentry hactive =>
    custody_holding hentry hactive
  refine ⟨?_, ?_, hroster.ages, ?_, ?_, ?_, ?_, ?_⟩
  · rw [hactive, registeredOf_card]
  · intro token entry hentry
    rw [hactive]
    exact card_le_registeredOf hentry
  · intro requestRef token
    constructor
    · intro hissue
      obtain ⟨H, monitorRef, hH, hpending⟩ := hcustody.index requestRef token hissue
      obtain ⟨entry, hentry, -, rfl⟩ := holdings_some hH
      exact ⟨entry, monitorRef, hentry, hpending⟩
    · rintro ⟨entry, monitorRef, hentry, hpending⟩
      have hstatus := hroster.active hentry (.inl (by simp [hpending]))
      exact hcustody.indexed token _ monitorRef requestRef
        (hheld token entry hentry hstatus) hpending
  · intro token entry child p hentry hpending
    have hstatus := hroster.active hentry (.inr ⟨child, p, hpending⟩)
    exact hcustody.pending token _ child p (hheld token entry hentry hstatus) hpending
  · intro monitorRef target
    cases target with
    | reservation requestRef =>
        constructor
        · exact hcustody.watched monitorRef requestRef
        · rintro ⟨r, hr, rfl⟩
          exact hcustody.reservation requestRef r hr
    | issuePending requestRef =>
        exact ⟨fun hm => absurd hm (hcustody.settled monitorRef requestRef), False.elim⟩
    | issue token requestRef =>
        refine (hcustody.issue monitorRef token requestRef).trans ⟨?_, ?_⟩
        · rintro ⟨H, hH, hpending⟩
          obtain ⟨entry, hentry, -, rfl⟩ := holdings_some hH
          exact ⟨entry, hentry, hpending⟩
        · rintro ⟨entry, hentry, hpending⟩
          have hstatus := hroster.active hentry (.inl (by simp [hpending]))
          exact ⟨entry.holding, hheld token entry hentry hstatus, hpending⟩
    | retain token child =>
        refine (hcustody.retain monitorRef token child).trans ⟨?_, ?_⟩
        · rintro ⟨H, requestRef, hH, hpending⟩
          obtain ⟨entry, hentry, -, rfl⟩ := holdings_some hH
          exact ⟨entry, requestRef, hentry, hpending⟩
        · rintro ⟨entry, requestRef, hentry, hpending⟩
          have hstatus := hroster.active hentry (.inr ⟨child, _, hpending⟩)
          exact ⟨entry.holding, requestRef, hheld token entry hentry hstatus, hpending⟩
  · exact (h.delivered (by rw [drains_joined]; exact hfresh.drains)).1
  · intro token entry hentry hinactive
    obtain ⟨hissue, hretains⟩ := hroster.settled token entry hentry hinactive
    exact ⟨hissue, by simp [hretains], h.sound.coupled.mirrors.no_holders hentry hinactive⟩

/-- The sample owner after its issue: one holder, one pending issue. -/
theorem derived_bookkeeping_sample : ∃ visits o, Owner.Run visits o ∧
    o.state.activeHolders = 1 ∧ o.state.pendingIssues.fetch 50 = some 20 ∧ Bookkept o.state := by
  have hrun := sampleRun_run (n := 2) rfl
  exact ⟨_, _, hrun, rfl, rfl, derived_bookkeeping hrun ⟨by decide, by decide⟩⟩

end VideoInterop.LeaseOwner
