import VideoInterop.Dispatcher.Abandonment
import VideoInterop.LeaseOwner.Verdict

/-!
# Delivery to the lease owner

The worker sends the commands on in the order of the queue, and the runtime delivers what
one process sends to another in that order.  So the owner hears of a claimed lease first
by its release, whatever other processes send in between, and its verdict on the holder
is an explicit release.
-/

namespace VideoInterop.Dispatcher

open LeaseOwner (Ref Pid Term Event Classification Message Owner holderIn retiredIn registeredOf)

variable {w : World} {p : Point} {visits : List (Visit World Input)} {call : Nat} {lease : Lease}
  {command : DispatchCommand} {owner : Pid} {token holder : Ref}

/-! ## Messages of the worker -/

/-- How the owner counts a message. -/
def MessageKind.classification : MessageKind → Classification
  | .release => .explicit
  | .abandoned => .abandoned

/-- What the owner takes a command for. -/
def DispatchCommand.event (command : DispatchCommand) : Event :=
  .info (.decode command.message)

theorem DispatchCommand.event_retires {classification : Classification} :
    command.event.retires = some (classification, token, holder) ↔
      command.kind.classification = classification ∧ command.token = .reference token ∧
        command.holder = holder := by
  obtain ⟨kind, owner, t, h⟩ := command
  cases kind <;> cases t <;>
    simp [event, message, MessageKind.tag, MessageKind.classification, Message.decode,
      Event.retires, LeaseOwner.Tag.counted]

/-- What the worker has sent to a process, in order. -/
def sentTo (owner : Pid) (visits : List (Visit World Input)) : List Event :=
  ((visits.filterMap handledIn).filter (·.owner = owner)).map DispatchCommand.event

/-- What a process received, each message with the mark of the ones from the worker.  They
arrive in order, and none is lost before the last that arrives. -/
structure Delivery (sent received : List Event) (marked : List (Event × Bool)) : Prop where
  /-- Every message of the owner is marked as sent by the worker or not. -/
  received : marked.map Prod.fst = received
  /-- Those of the worker come in the order they were sent. -/
  ordered : (marked.filter Prod.snd).map Prod.fst <+: sent

/-- What arrived from the worker before a message of its own. -/
theorem Delivery.before {sent received : List Event} {before after : List (Event × Bool)}
    {event : Event} (h : Delivery sent received (before ++ (event, true) :: after)) :
    ∃ later, sent = (before.filter Prod.snd).map Prod.fst ++ event :: later := by
  obtain ⟨rest, hrest⟩ := h.ordered
  refine ⟨(after.filter Prod.snd).map Prod.fst ++ rest, ?_⟩
  rw [← hrest]
  simp

/-- A frame that was dropped unclaimed was not claimed. -/
theorem Run.not_spared (h : Run visits w) (hprepared : PreparedBy visits call lease)
    (hclaimed : visits.any (claimsIn call) = true) (hp : w.calls[call]? = some p) : ¬Spared p := by
  intro hspared
  obtain ⟨q, phase, hq, hjourney, haccount⟩ := h.journey hprepared
  rw [hp] at hq
  cases hq
  rw [haccount.claimed, hjourney.spared hspared] at hclaimed
  cases hclaimed

/-- The worker sends the release of a lease before the abandonment of its holder. -/
theorem Run.sent_first (h : Run visits w) (hown : lease.OwnsGuard (visits.filterMap guardIn))
    (hprepared : PreparedBy visits call lease) (hclaimed : visits.any (claimsIn call) = true)
    (htoken : lease.token = .reference token) {before after : List Event} {event : Event}
    (hsent : sentTo lease.owner visits = before ++ event :: after)
    (hevent : event.retires = some (.abandoned, token, lease.holder)) :
    lease.release.event ∈ before := by
  -- The command in the queue of the worker.
  obtain ⟨handled, rest, hhandled, hbefore, hrest⟩ := List.map_eq_append_iff.mp hsent
  obtain ⟨command, later, rfl, rfl, -⟩ := List.map_eq_cons_iff.mp hrest
  obtain ⟨hkind, hcommand, hholder⟩ := DispatchCommand.event_retires.mp hevent
  obtain ⟨first, others, hsplit, hfirst, hothers⟩ := List.filter_eq_append_iff.mp hhandled
  obtain ⟨skipped, tail, rfl, hskipped, -, -⟩ := List.filter_eq_cons_iff.mp hothers
  have habandoned : lease.AbandonedBy command := by
    refine ⟨?_, hcommand.trans htoken.symm, hholder⟩
    cases hc : command.kind with
    | abandoned => rfl
    | release =>
        rw [hc] at hkind
        cases hkind
  -- The visit that dispatched it.
  have hdispatched := h.dispatched
  rw [hsplit] at hdispatched
  simp only [List.append_assoc, List.cons_append] at hdispatched
  obtain ⟨visits₁, visits₂, rfl, hvisits₁, hvisits₂⟩ := List.filterMap_eq_append_iff.mp hdispatched
  obtain ⟨visits₃, visits₄, rfl, hvisits₃, hvisits₄⟩ := List.filterMap_eq_append_iff.mp hvisits₂
  obtain ⟨quiet, v, visits₅, rfl, hquiet, hv, -⟩ := List.filterMap_eq_cons_iff.mp hvisits₄
  have hvisits : visits₁ ++ (visits₃ ++ (quiet ++ v :: visits₅)) =
      (visits₁ ++ visits₃ ++ quiet) ++ v :: visits₅ := by simp
  rcases h.release_first hown hprepared _ _ _ command hvisits hv habandoned with
    hrelease | ⟨p, hp, hspared⟩
  · -- It was dispatched before, so it was handled before.
    obtain ⟨u, hu, hsent⟩ := List.mem_filterMap.mp hrelease
    have hdispatches : dispatchedIn u = some lease.release := by
      unfold dispatchedBy at hsent
      split at hsent
      · exact hsent
      · cases hsent
    have hmem : lease.release ∈ first ++ skipped := by
      have hmem' : lease.release ∈ (visits₁ ++ visits₃ ++ quiet).filterMap dispatchedIn :=
        List.mem_filterMap.mpr ⟨u, hu, hdispatches⟩
      rw [List.filterMap_append, List.filterMap_append, hvisits₁, hvisits₃,
        List.filterMap_eq_nil_iff.mpr hquiet, List.append_nil] at hmem'
      exact hmem'
    rw [← hbefore, ← hfirst]
    refine List.mem_map_of_mem (List.mem_filter.mpr ⟨?_, by simp [Lease.release]⟩)
    rcases List.mem_append.mp hmem with hmem | hmem
    · exact hmem
    · exact absurd (by simp [Lease.release]) (hskipped _ hmem)
  · exact absurd hspared (h.not_spared hprepared hclaimed hp)

/-! ## Retirement -/

/-- **Native retirement is linear.**  A call of `prepare_cloexec` dispatches the release
of its lease once when the frame was claimed and the claimed lease was retired or
dropped, and else never; so it does in a call that is through unless its result is
that of a claimed frame, and all its admissions were given back.  Nothing else dispatches
a release.  The clients are the leases there are and the admissions in progress.  What a
turn dispatches is what it puts into the queue, and the worker handles that in order. -/
theorem native_retirement (h : Run visits w) :
    (∀ call lease, PreparedBy visits call lease →
      visits.filterMap (dispatchedBy call) =
        if visits.any (claimsIn call) && visits.any (retiresIn call) then [lease.release] else []) ∧
    (∀ call lease result, PreparedBy visits call lease →
      w.calls[call]? = some (.returned result) →
        (visits.filterMap (dispatchedBy call) = [] ↔ result ≠ .released) ∧
        (visits.map (clientsIn call)).sum = 0) ∧
    (∀ v ∈ visits, ∀ command, dispatchedIn v = some command → command.kind = .release →
      ∃ call lease, PreparedBy visits call lease ∧ command = lease.release ∧
        dispatchedBy call v = some command) ∧
    w.dispatcher.activeClients =
      w.calls.countP Point.holdsLease + w.calls.countP Point.admits ∧
    (∀ v ∈ visits, ∀ call go, v.input = .turn call go →
      v.post.dispatcher.queue = v.pre.dispatcher.queue ++ (enqueuedIn v).toList) ∧
    visits.filterMap dispatchedIn = visits.filterMap handledIn ++ w.dispatcher.pending := by
  refine ⟨fun call lease hprepared => ?_, fun call lease result hprepared hp => ⟨?_, ?_⟩,
    fun v hv command hsent hkind => h.releases hv hsent hkind, h.active_clients,
    fun v hv call go hinput => h.enqueues hv hinput, h.dispatched⟩
  · obtain ⟨p, phase, -, -, haccount⟩ := h.journey hprepared
    rw [haccount.dispatched, haccount.claimed, haccount.retired]
    cases phase <;> simp
  · obtain ⟨q, phase, hq, hjourney, haccount⟩ := h.journey hprepared
    rw [hp] at hq
    cases hq
    rw [haccount.dispatched]
    cases hjourney with
    | returned hresult => simp [hresult]
    | released => simp
  · rw [h.clients call, World.stageOf_some hp]
    rfl

theorem native_retirement_sample : ∃ visits w, Run visits w ∧
    visits.filterMap (dispatchedBy 1) = [⟨.release, 1000, .reference 20, 21⟩] := by
  have hsome : (perform retirementInputs).isSome = true := rfl
  have hrun : Run ((perform retirementInputs).get rfl).1 ((perform retirementInputs).get rfl).2 :=
    perform_run hsome
  have honce := (native_retirement hrun).1 1 ⟨1000, .reference 20, 21, some 0⟩
    ⟨((perform retirementInputs).get rfl).1.get ⟨6, by decide⟩, List.get_mem _ _, rfl, rfl⟩
  exact ⟨_, _, hrun, honce.trans rfl⟩

/-- **A claimed holder is released, not abandoned.**  The guard that was made for the
holder is the one its lease keeps.  Then the release is dispatched before any abandonment
of the holder.  When the token is a reference, the owner makes each holder once and is sent
no other abandonment of this one, and no one names it before it was made, the owner
retires it as an explicit release only: by the first message that names it, if it is
registered then. -/
theorem native_verdict (h : Run visits w) (hprepared : PreparedBy visits call lease)
    (hclaimed : visits.any (claimsIn call) = true)
    (hown : lease.OwnsGuard (visits.filterMap guardIn)) :
    (∀ before v after command, visits = before ++ v :: after → dispatchedIn v = some command →
      lease.AbandonedBy command → lease.release ∈ before.filterMap (dispatchedBy call)) ∧
    ∀ (token : Ref) (messages : List (Visit Owner LeaseOwner.Input)) (o : Owner)
      (marked : List (Event × Bool)), lease.token = .reference token →
      Owner.Run messages o → (messages.filterMap holderIn).Nodup →
      Delivery (sentTo lease.owner visits) (messages.map fun v => v.input.event) marked →
      (∀ e ∈ marked, e.2 = false → e.1.retires ≠ some (.abandoned, token, lease.holder)) →
      (∀ before v after, messages = before ++ v :: after →
        v.input.event.retires.map Prod.snd = some (token, lease.holder) →
        (token, lease.holder) ∈ before.filterMap holderIn) →
      (∀ r ∈ messages.filterMap retiredIn, r.2 = (token, lease.holder) → r.1 = .explicit) ∧
      ∀ before v after, messages = before ++ v :: after →
        (∀ u ∈ before, u.input.event.retires.map Prod.snd ≠ some (token, lease.holder)) →
        v.input.event.retires.map Prod.snd = some (token, lease.holder) →
        (messages.filterMap retiredIn).filter (·.2 = (token, lease.holder)) =
          if (token, lease.holder) ∈ registeredOf v.pre.state.leases then
            [(.explicit, token, lease.holder)] else [] := by
  have hfirst : ∀ before v after command, visits = before ++ v :: after →
      dispatchedIn v = some command → lease.AbandonedBy command →
      lease.release ∈ before.filterMap (dispatchedBy call) := by
    intro before v after command heq hsent habandoned
    rcases h.release_first hown hprepared before v after command heq hsent habandoned with
      hrelease | ⟨p, hp, hspared⟩
    · exact hrelease
    · exact absurd hspared (h.not_spared hprepared hclaimed hp)
  refine ⟨hfirst, fun token messages o marked htoken howner hfresh hdelivery hothers hmade => ?_⟩
  -- The first message that names the holder is a release.
  have hverdict : ∀ before v after, messages = before ++ v :: after →
      (∀ u ∈ before, u.input.event.retires.map Prod.snd ≠ some (token, lease.holder)) →
      v.input.event.retires.map Prod.snd = some (token, lease.holder) →
      (messages.filterMap retiredIn).filter (·.2 = (token, lease.holder)) =
        if (token, lease.holder) ∈ registeredOf v.pre.state.leases then
          [(.explicit, token, lease.holder)] else [] := by
    intro before v after heq hbefore hv
    obtain ⟨⟨classification, q⟩, hretires, rfl⟩ := Option.map_eq_some_iff.mp hv
    have hclass : classification = .explicit := by
      cases classification with
      | explicit => rfl
      | abandoned =>
          exfalso
          have hmarked := hdelivery.received
          rw [heq, List.map_append, List.map_cons] at hmarked
          obtain ⟨markedBefore, rest, rfl, hmap, hrest⟩ := List.map_eq_append_iff.mp hmarked
          obtain ⟨⟨event, mark⟩, markedAfter, rfl, hevent, -⟩ := List.map_eq_cons_iff.mp hrest
          obtain rfl : event = v.input.event := hevent
          cases mark with
          | false => exact hothers (v.input.event, false) (by simp) rfl hretires
          | true =>
              obtain ⟨later, hsent⟩ := hdelivery.before
              have hmem := h.sent_first hown hprepared hclaimed htoken hsent hretires
              obtain ⟨⟨event, mark⟩, hmem, hevent⟩ := List.mem_map.mp hmem
              have hmem' : event ∈ markedBefore.map Prod.fst :=
                List.mem_map_of_mem (List.mem_filter.mp hmem).1
              rw [hmap] at hmem'
              obtain ⟨u, hu, hu'⟩ := List.mem_map.mp hmem'
              refine hbefore u hu ?_
              have hrelease : lease.release.event.retires =
                  some (.explicit, token, lease.holder) :=
                DispatchCommand.event_retires.mpr ⟨rfl, htoken, rfl⟩
              rw [hu', show event = lease.release.event from hevent, hrelease, Option.map_some]
    subst hclass
    exact howner.first_verdict hfresh heq (hmade before v after heq hv) hbefore hretires
  refine ⟨fun r hr hrp => ?_, hverdict⟩
  obtain ⟨v, hv, hretired⟩ := List.mem_filterMap.mp hr
  have hnamed : v.input.event.retires.map Prod.snd = some (token, lease.holder) := by
    rw [(LeaseOwner.retiredIn_some hretired).1, Option.map_some, hrp]
  obtain ⟨before, u, after, heq, hbefore, hu⟩ := LeaseOwner.first_named hv hnamed
  have honly := hverdict before u after heq hbefore hu
  have hmem : r ∈ (messages.filterMap retiredIn).filter (·.2 = (token, lease.holder)) :=
    List.mem_filter.mpr ⟨hr, decide_eq_true hrp⟩
  rw [honly] at hmem
  split at hmem
  · rw [List.mem_singleton.mp hmem]
  · cases hmem

theorem native_verdict_sample : ∃ visits w messages o, Run visits w ∧
    (sentTo 1000 visits).map Event.retires =
      [some (.explicit, 20, 21), some (.abandoned, 20, 21)] ∧
    Owner.Run messages o ∧
    (messages.filterMap retiredIn).filter (·.2 = (20, 21)) = [(.explicit, 20, 21)] := by
  have hsome : (perform retirementInputs).isSome = true := rfl
  have hrun : Run ((perform retirementInputs).get rfl).1 ((perform retirementInputs).get rfl).2 :=
    perform_run hsome
  have howner := LeaseOwner.sampleRun_run (n := 3) rfl
  have hsent : sentTo 1000 ((perform retirementInputs).get rfl).1 =
      [.info (.release 20 21), .info (.abandoned 20 21)] := rfl
  have hguards : ((perform retirementInputs).get rfl).1.filterMap guardIn =
      [⟨.abandoned, 1000, .reference 20, 21⟩] := rfl
  obtain ⟨v₁, v₂, v₃, hmessages, hnone₁, hnone₂, hholder, hrelease, hregistered⟩ : ∃ v₁ v₂ v₃,
      ((LeaseOwner.sampleRun 3).get rfl).1 = [v₁, v₂, v₃] ∧ v₁.input.event.retires = none ∧
      v₂.input.event.retires = none ∧ holderIn v₂ = some (20, 21) ∧
      v₃.input.event.retires = some (.explicit, 20, 21) ∧
      (20, 21) ∈ registeredOf v₃.pre.state.leases :=
    ⟨_, _, _, rfl, rfl, rfl, rfl, rfl, by decide⟩
  have hprepared : PreparedBy ((perform retirementInputs).get rfl).1 1
      ⟨1000, .reference 20, 21, some 0⟩ :=
    ⟨((perform retirementInputs).get rfl).1.get ⟨6, by decide⟩, List.get_mem _ _, rfl, rfl⟩
  have hverdict := (native_verdict hrun hprepared rfl (fun g command hmade _ => ?_)).2
  · have honly := (hverdict 20 _ _
      [(.info (.reserveIssue (.atom .nil) 100 50), false),
        (.info (.commitIssue 9 (.integer 7) 100 50), false), (.info (.release 20 21), true)]
      rfl howner (by decide) ⟨rfl, [.info (.abandoned 20 21)], rfl⟩ (by simp [Event.retires]) ?_).2
      [v₁, v₂] v₃ [] hmessages (by simp [hnone₁, hnone₂]) (by simp [hrelease])
    · rw [if_pos hregistered] at honly
      exact ⟨_, _, _, _, hrun, by rw [hsent]; rfl, howner, honly⟩
    intro before v after heq hv
    rw [hmessages] at heq
    rcases before with _ | ⟨u₁, _ | ⟨u₂, before⟩⟩ <;>
      simp only [List.cons_append, List.nil_append, List.cons.injEq] at heq
    · rw [← heq.1] at hv
      simp [hnone₁] at hv
    · rw [← heq.2.1] at hv
      simp [hnone₂] at hv
    · refine List.mem_filterMap.mpr ⟨u₂, by simp, ?_⟩
      rw [← heq.2.1, hholder]
  · rw [hguards] at hmade
    cases g with
    | zero => rfl
    | succ g => cases hmade

end VideoInterop.Dispatcher
