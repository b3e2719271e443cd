import VideoInterop.LeaseOwner.Histories

/-!
# Backend tokens are conserved

Every token an owner accepts stays in its leases until the release of it
succeeds, which happens once, and the capacity bounds the leases and
reservations of every reachable state.
-/

namespace VideoInterop.LeaseOwner

variable {o o' : Owner} {visits : List (Visit Owner Input)} {i : Input}

/-! ## One visit -/

/-- The books before and after a step. -/
theorem step_books (hs : o.Sound) (hst : Owner.Step o i o') :
    o'.state.ledger.books + ((releasedIn ⟨o, i, o'⟩).toList : Multiset (Ref × Term)) =
      o.state.ledger.books + ((acceptedIn ⟨o, i, o'⟩).toList : Multiset (Ref × Term)) := by
  obtain ⟨-, deeds, htrace, hc⟩ := hs.step hst
  have hbooks := Ledger.books_trace htrace
  rw [← List.filterMap_filterMap, hc.closed, hc.accepted, List.filterMap_filterMap, filterMap_one,
    filterMap_one] at hbooks
  exact hbooks

/-- A commit ends no attempt. -/
theorem endedBy_of_accepted {env : Env} {s : State} {event : Event} {x : Ref × Term}
    (h : acceptedBy env s event = some x) : endedBy s event = none := by
  cases hc : endedBy s event with
  | none => rfl
  | some c =>
      rcases endedBy_event hc with ⟨_, _, _, rfl⟩ | ⟨_, _, rfl⟩ <;> cases h

theorem ending_ok {result : CallbackResult} {value : Term}
    (h : result.finish.ending = some (.succeeded value)) : result = .ok value := by
  cases result with
  | ok v => cases h; rfl
  | error reason => cases h
  | invalid result => cases h

theorem released_some {c : Closing} {x : Ref × Term} (h : c.released = some x) :
    ∃ value, c.ending = .succeeded value ∧ x = (c.token, c.backendToken) := by
  unfold Closing.released at h
  split at h
  · next value hending =>
      cases h
      exact ⟨value, hending, rfl⟩
  · cases h

/-- A lease that is gone after a step was released by the step. -/
theorem gone_released (hs : o.Sound) (hst : Owner.Step o i o') {token : Ref} {entry : Entry}
    (hentry : o.state.leases.fetch token = some entry)
    (hgone : o'.state.leases.fetch token = none) :
    ∃ generation value durationNs, entry.status = .releasing generation ∧
      (∃ job, o.state.releaseJob = some job ∧ job.token = token ∧ job.generation = generation) ∧
      i.event = .info (.releaseResult o.state.releaseExecutor token generation (.ok value)
        durationNs) := by
  have hbooks := step_books hs hst
  have hin : (token, entry.backendToken) ∈ o.state.ledger.books :=
    mem_books.mpr ⟨entry, hentry, rfl⟩
  have hmem := Multiset.mem_add.mp (hbooks ▸ Multiset.mem_add.mpr (.inl hin))
  rcases hmem with hold | hrel
  · obtain ⟨entry', hentry', -⟩ := mem_books.mp hold
    have : o'.state.leases.fetch token = some entry' := hentry'
    rw [hgone] at this
    cases this
  · obtain ⟨c, hc, hreleased⟩ := Option.bind_eq_some_iff.mp (Option.mem_toList.mp hrel)
    obtain ⟨value, hending, hx⟩ := released_some hreleased
    obtain ⟨htoken, -⟩ := Prod.mk.inj hx
    obtain ⟨job, entry', hjob, hjt, hjg, hentry', hstatus, -, hexecutor⟩ := endedBy_running hc
    rw [← htoken, hentry] at hentry'
    cases hentry'
    refine ⟨c.generation, value, ?_⟩
    rcases endedBy_event hc with ⟨result, durationNs, hresult, hevent⟩ | ⟨reason, hfailed, -⟩
    · rw [hending] at hresult
      obtain rfl := ending_ok hresult
      exact ⟨durationNs, hstatus, ⟨job, hjob, hjt.trans htoken.symm, hjg⟩, htoken ▸ hevent⟩
    · rw [hending] at hfailed
      cases hfailed

/-- The attempts sent in a step are the ones in the executor's hands after it. -/
theorem executed_outstanding (hs : o.Sound) (hst : Owner.Step o i o') {x : Pid × Ref × Attempt}
    (hx : x ∈ executedIn ⟨o, i, o'⟩) : x ∈ o'.state.ledger.outstanding := by
  obtain ⟨-, deeds, htrace, hc⟩ := hs.step hst
  have hone := Ledger.one_at_a_time htrace
  rw [hc.closed, hc.executed, filterMap_one, List.flatMap_singleton] at hone
  cases hended : closedIn ⟨o, i, o'⟩ with
  | none =>
      rw [hended] at hone
      simp only [Option.toList, List.map_nil, List.nil_append] at hone
      rw [hone]
      exact List.mem_append_right _ hx
  | some c =>
      obtain ⟨job, entry, hjob, htoken, hgeneration, hentry, -, hbackend, hexecutor⟩ :=
        endedBy_running hended
      have hrun := serialQueue_running hjob
      have hjobToken := hs.coupled.mirrors.running_token hrun (htoken ▸ hentry)
      have hout : o.state.ledger.outstanding = [c.attempt] := by
        have : (serialQueue o.state).running.toList = [job.attempted] := by rw [hrun]; rfl
        simp only [Ledger.outstanding, State.ledger, this, List.map_cons, List.map_nil]
        rw [Closing.attempt, ← hexecutor, ← htoken, ← hgeneration, ← hbackend, hjobToken]
        rfl
      rw [hended, hout] at hone
      simp only [Option.toList, List.map_cons, List.map_nil, List.singleton_append,
        List.cons.injEq, true_and] at hone
      rwa [hone]

/-- The executor is asked for a token only when the lease has no holder. -/
theorem executed_no_holders (hs : o.Sound) (hst : Owner.Step o i o') {executor : Pid}
    {token generation : Ref} {backendToken : Term}
    (hsent : .executeRelease executor token generation backendToken ∈ o'.state.sent) :
    ∃ entry, o'.state.leases.fetch token = some entry ∧ entry.holders = ∅ ∧
      entry.backendToken = backendToken ∧ entry.status = .releasing generation := by
  have hx : (executor, token, generation, backendToken) ∈ executedIn ⟨o, i, o'⟩ :=
    List.mem_filterMap.mpr ⟨_, hsent, rfl⟩
  obtain ⟨job, hjob, heq⟩ := List.mem_map.mp (executed_outstanding hs hst hx)
  have hrun : (serialQueue o'.state).running = some (token, generation, backendToken) := by
    rw [Option.mem_toList] at hjob
    cases heq
    exact hjob
  have hmirrors := (hs.step hst).1.coupled.mirrors
  obtain ⟨entry, hentry, hstatus, htoken⟩ := ((hmirrors.mirror token).releasing _).mp hrun
  exact ⟨entry, hentry, hmirrors.no_holders hentry (by simp [hstatus]), htoken, hstatus⟩

/-! ## Runs -/

/-- A token that was released has no lease. -/
theorem released_gone (h : Owner.Run visits o) :
    ((visits.filterMap releasedIn).map Prod.fst).Nodup ∧
      ∀ x ∈ visits.filterMap releasedIn, o.state.leases.fetch x.1 = none := by
  have hbooks := h.books
  have hnodup :
    (Multiset.map Prod.fst (visits.filterMap acceptedIn : Multiset (Ref × Term))).Nodup := by
    rw [Multiset.map_coe, Multiset.coe_nodup]
    exact h.accepted_nodup.1
  rw [hbooks, Multiset.map_add, Multiset.nodup_add] at hnodup
  obtain ⟨-, hreleased, hdisjoint⟩ := hnodup
  rw [Multiset.map_coe, Multiset.coe_nodup] at hreleased
  refine ⟨hreleased, fun x hx => Option.eq_none_iff_forall_ne_some.mpr fun entry hentry => ?_⟩
  have hin : x.1 ∈ Multiset.map Prod.fst o.state.ledger.books :=
    Multiset.mem_map.mpr ⟨(x.1, entry.backendToken), mem_books.mpr ⟨entry, hentry, rfl⟩, rfl⟩
  have hout : x.1 ∈ Multiset.map Prod.fst (visits.filterMap releasedIn : Multiset (Ref × Term)) :=
    Multiset.mem_map.mpr ⟨x, hx, rfl⟩
  exact Multiset.disjoint_left.mp hdisjoint hin hout

/-- The visits of a run up to one of them are a run. -/
theorem run_upTo {before after : List (Visit Owner Input)} {v : Visit Owner Input}
    (h : Owner.Run (before ++ v :: after) o) : Owner.Run (before ++ [v]) v.post := by
  obtain ⟨o₀, hinit, hpath⟩ := h
  obtain ⟨hbefore, hst, -⟩ := hpath.split
  exact ⟨o₀, hinit, hbefore.snoc hst⟩

/-- **Backend tokens are conserved and released once.**  A run has the visits whose
callback returns and lets the owner live; `handle_replies` says that a callback returns
unless its event is `Faulty`. -/
theorem backend_tokens_conserved (h : Owner.Run visits o) :
    (∀ v ∈ visits, ∀ token backendToken, acceptedIn v = some (token, backendToken) →
      v.pre.state.leases.fetch token = none ∧
        v.post.state.ledger.books = (token, backendToken) ::ₘ v.pre.state.ledger.books) ∧
    (∀ v ∈ visits, ∀ token entry, v.pre.state.leases.fetch token = some entry →
      v.post.state.leases.fetch token = none →
      ∃ generation value durationNs, entry.status = .releasing generation ∧
        (∃ job, v.pre.state.releaseJob = some job ∧ job.token = token ∧
          job.generation = generation) ∧
        v.input.event = .info (.releaseResult v.pre.state.releaseExecutor token generation
          (.ok value) durationNs)) ∧
    (visits.filterMap acceptedIn : Multiset (Ref × Term)) =
      o.state.ledger.books + (visits.filterMap releasedIn : List (Ref × Term)) ∧
    ((visits.filterMap acceptedIn).map Prod.fst).Nodup ∧
    ((visits.filterMap releasedIn).map Prod.fst).Nodup ∧
    (∀ before v after, visits = before ++ v :: after → ∀ token backendToken,
      releasedIn v = some (token, backendToken) → ∀ w ∈ v :: after,
        ∀ executor generation backendToken',
          .executeRelease executor token generation backendToken' ∉ w.post.state.sent) ∧
    ∀ v ∈ visits, ∀ executor token generation backendToken,
      .executeRelease executor token generation backendToken ∈ v.post.state.sent →
      ∃ entry, v.post.state.leases.fetch token = some entry ∧ entry.holders = ∅ ∧
        entry.backendToken = backendToken := by
  refine ⟨?_, ?_, h.books, h.accepted_nodup.1, (released_gone h).1, ?_, ?_⟩
  · intro v hv token backendToken haccepted
    obtain ⟨hreach, hst⟩ := h.visit hv
    have hbooks := step_books hreach.sound hst
    have hended : releasedIn v = none := by
      rw [releasedIn, show closedIn v = none from endedBy_of_accepted haccepted]
      rfl
    rw [show acceptedIn ⟨v.pre, v.input, v.post⟩ = _ from haccepted,
      show releasedIn ⟨v.pre, v.input, v.post⟩ = _ from hended] at hbooks
    have htoken : token = v.input.env.token := acceptedBy_token haccepted
    refine ⟨htoken ▸ hreach.sound.fresh hst, ?_⟩
    simpa [add_comm, Multiset.singleton_add] using hbooks
  · intro v hv token entry hentry hgone
    obtain ⟨hreach, hst⟩ := h.visit hv
    exact gone_released hreach.sound hst hentry hgone
  · intro before v after hvisits token backendToken hreleased w hw executor generation
      backendToken' hsent
    -- Up to `w` the run has released the token, so `w` leaves no lease for it.
    obtain ⟨before', after', hsplit⟩ := List.append_of_mem hw
    have hrun : Owner.Run ((before ++ before') ++ w :: after') o := by
      rw [List.append_assoc, ← hsplit, ← hvisits]
      exact h
    have hv : v ∈ (before ++ before') ++ [w] := by
      cases before' with
      | nil =>
          obtain rfl := (List.cons.inj hsplit).1
          simp
      | cons v' before' =>
          obtain rfl := (List.cons.inj hsplit).1
          simp
    have hgone := (released_gone (run_upTo hrun)).2 (token, backendToken)
      (List.mem_filterMap.mpr ⟨v, hv, hreleased⟩)
    have hvisit := h.visit (v := w) (hvisits ▸ List.mem_append_right _ hw)
    obtain ⟨entry, hentry, -⟩ := executed_no_holders hvisit.1.sound hvisit.2 hsent
    rw [hgone] at hentry
    cases hentry
  · intro v hv executor token generation backendToken hsent
    obtain ⟨hreach, hst⟩ := h.visit hv
    obtain ⟨entry, hentry, hholders, htoken, -⟩ := executed_no_holders hreach.sound hst hsent
    exact ⟨entry, hentry, hholders, htoken⟩

theorem backend_tokens_conserved_sample : ∃ visits o, Owner.Run visits o ∧
    visits.filterMap releasedIn = [(20, .integer 7)] ∧
    (visits.filterMap acceptedIn : Multiset (Ref × Term)) =
      o.state.ledger.books + (visits.filterMap releasedIn : List (Ref × Term)) :=
  have h : (sampleRun 4).isSome = true := rfl
  ⟨_, _, sampleRun_run h, rfl, (backend_tokens_conserved (sampleRun_run h)).2.2.1⟩

/-! ## Capacity -/

theorem step_maxActive (hs : o.Sound) (hst : Owner.Step o i o') :
    o'.state.maxActive = o.state.maxActive := by
  obtain ⟨-, deeds, htrace, -⟩ := hs.step hst
  exact htrace.invariant (P := fun L => L.capacity = o.state.maxActive)
    (fun _ _ _ hL hst => hst.capacity.trans hL) rfl

/-- An open owner answers a reservation by the test of its capacity. -/
theorem reserve_refused_iff {env : Env} {metadata : Term} {replyTo : Pid} {requestRef : Ref}
    {s : State} (hopen : s.mode = .open) (hsent : s.sent = []) :
    (∃ s', (handleReserveIssue env metadata replyTo requestRef s).live? = some s' ∧
        .reply replyTo requestRef (.issueReserved (.error .capacity)) ∈ s'.sent) ↔
      capacityAvailable? s = false := by
  rw [handleReserveIssue, if_neg (by simp [hopen])]
  cases hcapacity : capacityAvailable? s with
  | false => simp [Outcome.live?, replyIssueReservation, State.send]
  | true => simp [Outcome.live?, replyIssueReservation, State.send, hsent]

/-- **Leases and reservations stay within `max_active`**, which never changes, and a
reservation is refused for want of room exactly when they fill it. -/
theorem capacity_bound (h : Owner.Reachable o) {maxActive : Nat}
    (hmax : o.state.maxActive = some maxActive) :
    o.state.leases.size + o.state.issueReservations.size ≤ maxActive ∧
      (∀ i o', Owner.Step o i o' → o'.state.maxActive = some maxActive) ∧
      ∀ env metadata replyTo requestRef, o.state.mode = .open →
        ((∃ s', (outcome o.state ⟨env, .info (.reserveIssue metadata replyTo requestRef)⟩).live? =
            some s' ∧
          .reply replyTo requestRef (.issueReserved (.error .capacity)) ∈ s'.sent) ↔
        o.state.leases.size + o.state.issueReservations.size = maxActive) := by
  have hbound : o.state.leases.size + o.state.issueReservations.size ≤ maxActive :=
    h.sound.within maxActive hmax
  refine ⟨hbound, fun i o' hst => (step_maxActive h.sound hst).trans hmax,
    fun env metadata replyTo requestRef hopen => ?_⟩
  refine (reserve_refused_iff (s := { o.state with sent := [] }) hopen rfl).trans ?_
  simp only [capacityAvailable?, hmax, decide_eq_false_iff_not]
  omega

/-- A full owner, with one lease and one reservation of two, refuses a third caller. -/
theorem capacity_bound_sample : ∃ o, Owner.Reachable o ∧
    o.state.leases.size = 1 ∧ o.state.issueReservations.size = 1 ∧
    o.state.leases.size + o.state.issueReservations.size ≤ 2 ∧
    ∃ s', (outcome o.state ⟨.plain 36, .info (.reserveIssue (.atom .nil) 102 52)⟩).live? = some s' ∧
      .reply 102 52 (.issueReserved (.error .capacity)) ∈ s'.sent := by
  have h : (Owner.perform (.plain 0) 1001 sampleOptions (sampleInputs.take 2 ++
      [⟨.plain 27, .info (.reserveIssue (.atom .nil) 101 51)⟩])).isSome = true := rfl
  have hreachable : Owner.Reachable _ := ⟨_, Owner.perform_run h⟩
  obtain ⟨hbound, -, hrefused⟩ := capacity_bound hreachable (rfl : _ = some 2)
  exact ⟨_, hreachable, rfl, rfl, hbound, (hrefused _ _ _ _ rfl).mpr rfl⟩

end VideoInterop.LeaseOwner
