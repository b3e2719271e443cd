import VideoInterop.LeaseOwner.ReleaseQueue
import VideoInterop.LeaseOwner.Roster

/-!
# Retry timers

A lease whose release failed is tried again by its timer or by a call.  The
table of armed timers is the set of the failed leases that may be tried again,
so no lease has a timer and a job at once.  A timer message is obeyed when it
carries the generation of the armed timer, and generations are made once: the
message of a timer that was cancelled, replaced or has fired finds another
generation or none.

Between two releases of one lease there is a failure of it.  The lease has a job
from the first on, loses it only to the end of an attempt, and an attempt that
succeeds takes the lease away for good.
-/

namespace VideoInterop.LeaseOwner

variable {env : Env} {s : State} {o o' : Owner} {i : Input} {visits : List (Visit Owner Input)}
  {token : Ref}

/-! ## The table -/

theorem RetryPolicy.retries_iff {retry : RetryPolicy} {attempts : Nat} :
    retry.retries attempts = true ↔
      ∃ initialMs maxMs maxAttempts, retry = .exponential initialMs maxMs maxAttempts ∧
        ∀ n, maxAttempts = some n → attempts < n := by
  cases retry with
  | manual => simp [RetryPolicy.retries]
  | exponential initialMs maxMs maxAttempts =>
      cases maxAttempts <;> simp [RetryPolicy.retries, retryAvailable?]

/-- A lease with a timer has no job. -/
theorem timer_jobless (h : Coupled s) (hroster : s.roster.Sound) {timer : RetryTimer}
    (htimer : s.retryTimers.fetch token = some timer) (attempt : Attempt) :
    (token, attempt) ∉ (serialQueue s).jobs := by
  obtain ⟨entry, reason, hentry, hfailed, -⟩ := (hroster.timers token).mp ⟨timer, htimer⟩
  exact h.mirrors.jobless hentry (by simp [hfailed]) (by simp [hfailed]) attempt

theorem jobs_tokens (s : State) :
    (serialQueue s).jobs.map Prod.fst =
      s.releaseJob.toList.map (·.token) ++ s.releaseQueue.map (·.token) := by
  cases hjob : s.releaseJob <;> simp [serialQueue, SerialQueue.jobs, hjob, Job.attempted]

/-- A running job, the queued jobs and the armed timers are of different leases. -/
theorem jobs_and_timers_nodup (h : Coupled s) (hroster : s.roster.Sound) :
    (s.releaseJob.toList.map (·.token) ++ s.releaseQueue.map (·.token) ++
      s.retryTimers.keys).Nodup := by
  rw [← jobs_tokens, List.nodup_append]
  refine ⟨h.mirrors.exclusive, s.retryTimers.keys_nodup, ?_⟩
  rintro _ hjob token htimer rfl
  obtain ⟨⟨t, attempt⟩, hmem, rfl⟩ := List.mem_map.mp hjob
  obtain ⟨timer, htimer⟩ := FMap.mem_keys.mp htimer
  exact timer_jobless h hroster htimer attempt hmem

/-! ## Messages of timers -/

/-- A message that is not of the armed timer changes nothing. -/
theorem stale_timer (s : State) {generation : Ref}
    (hstale : ∀ timer, s.retryTimers.fetch token = some timer → timer.generation ≠ generation) :
    outcome s ⟨env, .info (.retryRelease token generation)⟩ = .noreply { s with sent := [] } := by
  simp only [outcome, handle, handleInfo, handleRetryRelease]
  cases htimer : s.retryTimers.fetch token with
  | none => rfl
  | some timer => simp only [if_neg (hstale timer htimer)]

/-- The generations of the armed timers are in use. -/
theorem Owner.Run.timer_lt (h : Owner.Run visits o) : ∀ token timer,
    o.state.retryTimers.fetch token = some timer → timer.generation < o.supply := by
  refine h.history (P := fun _ o => ∀ token timer,
    o.state.retryTimers.fetch token = some timer → timer.generation < o.supply) ?_ ?_
  · intro o hinit token timer htimer
    rw [hinit.blank.retryTimers] at htimer
    simp at htimer
  · intro visits o i o' hrun ih hst token timer htimer
    rcases (hst.edits hrun.sound).timer htimer with hold | hnew
    · exact Nat.lt_of_lt_of_le (ih token timer hold) hst.supply_le
    · rw [hnew]
      exact (hst.made (k := 5) (by omega)).2

/-- The timer that is armed after some steps was armed before them or is newer. -/
theorem timer_path (hs : o.Sound) (h : Path Owner.Step o visits o') {timer : RetryTimer}
    (htimer : o'.state.retryTimers.fetch token = some timer) :
    o.state.retryTimers.fetch token = some timer ∨ o.supply ≤ timer.generation := by
  induction h generalizing timer with
  | nil => exact .inl htimer
  | snoc hp hst ih =>
      rcases (hst.edits (hs.path hp).1).timer htimer with hold | hnew
      · exact ih hold
      · rw [hnew]
        exact .inr ((path_supply_le hp).trans (hst.made (k := 5) (by omega)).1)

/-- The message of a timer that is no longer the armed one changes nothing. -/
theorem disarmed_timer (h : Owner.Run visits o) {v : Visit Owner Input} (hv : v ∈ visits)
    {timer : RetryTimer} (harmed : v.post.state.retryTimers.fetch token = some timer)
    (hgone : o.state.retryTimers.fetch token ≠ some timer) :
    outcome o.state ⟨env, .info (.retryRelease token timer.generation)⟩ =
      .noreply { o.state with sent := [] } := by
  obtain ⟨o₀, hinit, hpath⟩ := h
  obtain ⟨before, after, -, hbefore, hst, hafter⟩ := hpath.mem_split hv
  have hrun : Owner.Run (before ++ [⟨v.pre, v.input, v.post⟩]) v.post :=
    ⟨o₀, hinit, hbefore.snoc hst⟩
  refine stale_timer _ fun timer' htimer' heq => ?_
  rcases timer_path hrun.sound hafter htimer' with hold | hnew
  · rw [harmed] at hold
    cases hold
    exact hgone htimer'
  · have hlt := hrun.timer_lt token timer harmed
    exact absurd (heq ▸ hlt) (Nat.not_lt.mpr hnew)

/-! ## One failure, one release -/

/-- The lease has a job. -/
def HasJob (token : Ref) (o : Owner) : Prop := token ∈ (serialQueue o.state).jobs.map Prod.fst

/-- The leases with a job after a step and the one whose attempt ended are those
with a job before it and those queued. -/
theorem step_tokens (hs : o.Sound) (hst : Owner.Step o i o') :
    (closedIn ⟨o, i, o'⟩).toList.map Closing.token ++ (serialQueue o'.state).jobs.map Prod.fst =
      (serialQueue o.state).jobs.map Prod.fst ++ (enqueuedIn ⟨o, i, o'⟩).map Prod.fst := by
  obtain ⟨-, deeds, htrace, hc⟩ := hs.step hst
  have hjobs := congrArg (List.map Prod.fst) (Ledger.jobs_trace htrace)
  rw [hc.closed, hc.enqueued, filterMap_one, List.flatMap_singleton, List.map_append,
    List.map_append, List.map_map] at hjobs
  exact hjobs

theorem HasJob.lease (hs : o.Sound) (h : HasJob token o) :
    ∃ entry generation, o.state.leases.fetch token = some entry ∧
      (entry.status = .releaseQueued generation ∨ entry.status = .releasing generation) := by
  obtain ⟨⟨t, attempt⟩, hmem, rfl⟩ := List.mem_map.mp h
  rcases SerialQueue.mem_jobs.mp hmem with hrun | hwait
  · obtain ⟨entry, hentry, hstatus, -⟩ :=
      ((hs.coupled.mirrors.mirror t).releasing attempt).mp hrun
    exact ⟨entry, attempt.1, hentry, .inr hstatus⟩
  · obtain ⟨entry, hentry, hstatus, -⟩ := ((hs.coupled.mirrors.mirror t).queued attempt).mp hwait
    exact ⟨entry, attempt.1, hentry, .inl hstatus⟩

/-- An attempt that ended leaves its lease without a job. -/
theorem closed_jobless (h : Owner.Run visits o) (hst : Owner.Step o i o') {c : Closing}
    (hc : closedIn ⟨o, i, o'⟩ = some c) : ¬HasJob c.token o' := by
  intro hjob
  obtain ⟨entry, generation, hentry, hstatus⟩ := hjob.lease (h.sound.step hst).1
  have hsettled := closed_settled h hst hc
  cases hending : c.ending with
  | succeeded value =>
      rw [hending] at hsettled
      have hnone : o'.state.leases.fetch c.token = none := hsettled
      rw [hentry] at hnone
      cases hnone
  | failed reason =>
      rw [hending] at hsettled
      obtain ⟨entry', hentry', hfailed⟩ := hsettled
      rw [hentry] at hentry'
      cases hentry'
      rcases hstatus with hstatus | hstatus <;> rw [hfailed] at hstatus <;> cases hstatus

/-- A lease that is queued had no job. -/
theorem enqueued_jobless (h : Owner.Run visits o) (hst : Owner.Step o i o')
    (henqueued : token ∈ (enqueuedIn ⟨o, i, o'⟩).map Prod.fst) :
    ¬HasJob token o ∧ HasJob token o' := by
  have hafter : HasJob token o' :=
    (List.filter_sublist.map Prod.fst).subset henqueued
  refine ⟨fun hbefore => ?_, hafter⟩
  -- Two jobs, of which one has to have ended.
  have hcount := congrArg (List.count token) (step_tokens h.sound hst)
  rw [List.count_append, List.count_append] at hcount
  have hsingle : ((serialQueue o'.state).jobs.map Prod.fst).count token ≤ 1 :=
    List.nodup_iff_count_le_one.mp (h.sound.step hst).1.coupled.mirrors.exclusive token
  have hold : 0 < ((serialQueue o.state).jobs.map Prod.fst).count token :=
    List.count_pos_iff.mpr hbefore
  have hnew : 0 < ((enqueuedIn ⟨o, i, o'⟩).map Prod.fst).count token :=
    List.count_pos_iff.mpr henqueued
  have hended : 0 < ((closedIn ⟨o, i, o'⟩).toList.map Closing.token).count token := by omega
  obtain ⟨c, hc, rfl⟩ := List.mem_map.mp (List.count_pos_iff.mp hended)
  exact closed_jobless h hst (Option.mem_toList.mp hc) hafter

/-- A lease loses its job to the end of an attempt. -/
theorem job_lost (hs : o.Sound) (hst : Owner.Step o i o') (h : HasJob token o)
    (hlost : ¬HasJob token o') : ∃ c, closedIn ⟨o, i, o'⟩ = some c ∧ c.token = token := by
  have hmem := (step_tokens hs hst) ▸ List.mem_append.mpr (.inl h)
  rcases List.mem_append.mp hmem with hclosed | hkept
  · obtain ⟨c, hc, htoken⟩ := List.mem_map.mp hclosed
    exact ⟨c, Option.mem_toList.mp hc, htoken⟩
  · exact absurd hkept hlost

/-- A lease that is gone does not come back. -/
theorem gone_stays (hs : o.Sound) (h : Path Owner.Step o visits o') (hlt : token < o.supply)
    (hgone : o.state.leases.fetch token = none) : o'.state.leases.fetch token = none := by
  induction h with
  | nil => exact hgone
  | @snoc visits o₁ i o₂ hp hst ih =>
      have hbooks := step_books (hs.path hp).1 hst
      refine Option.eq_none_iff_forall_ne_some.mpr fun entry hentry => ?_
      have hmem : (token, entry.backendToken) ∈
          o₁.state.ledger.books + ((acceptedIn ⟨o₁, i, o₂⟩).toList : Multiset (Ref × Term)) :=
        hbooks ▸ Multiset.mem_add.mpr (.inl (mem_books.mpr ⟨entry, hentry, rfl⟩))
      rcases Multiset.mem_add.mp hmem with hold | hnew
      · obtain ⟨entry₁, hentry₁, -⟩ := mem_books.mp hold
        have hnone : o₁.state.leases.fetch token = none := ih
        exact absurd hentry₁ (by simp [State.ledger, hnone])
      · rw [Multiset.mem_coe, Option.mem_toList] at hnew
        have htoken : token = i.env.token := acceptedBy_token hnew
        have hge : o₁.supply ≤ i.env.token := (hst.made (k := 2) (by omega)).1
        exact absurd (htoken ▸ hlt) (Nat.not_lt.mpr ((path_supply_le hp).trans hge))

/-- **Between two releases of a lease it failed.** -/
theorem failed_between (h : Owner.Run visits o) {before mid after : List (Visit Owner Input)}
    {v w : Visit Owner Input} (hvisits : visits = before ++ v :: (mid ++ w :: after))
    (hv : token ∈ (enqueuedIn v).map Prod.fst) (hw : token ∈ (enqueuedIn w).map Prod.fst) :
    ∃ x ∈ mid, ∃ c reason, closedIn x = some c ∧ c.token = token ∧ c.ending = .failed reason := by
  obtain ⟨o₀, hinit, hpath⟩ := hvisits ▸ h
  obtain ⟨hbefore, hst₁, hrest⟩ := hpath.split
  obtain ⟨hmid, hst₂, -⟩ := hrest.split
  have hrun : Owner.Run before v.pre := ⟨o₀, hinit, hbefore⟩
  have hrun₁ : Owner.Run (before ++ [v]) v.post := ⟨o₀, hinit, hbefore.snoc hst₁⟩
  have hrun₂ : Owner.Run (before ++ [v] ++ mid) w.pre :=
    ⟨o₀, hinit, (hbefore.snoc hst₁).append hmid⟩
  have hstart : HasJob token v.post := (enqueued_jobless hrun hst₁ hv).2
  obtain ⟨hend, hagain⟩ := enqueued_jobless hrun₂ hst₂ hw
  obtain ⟨mid₁, x, mid₂, rfl, hpre, hpost, hmid₁, hstx, hmid₂⟩ := hmid.exit hstart hend
  have hsound : x.pre.Sound := (hrun₁.sound.path hmid₁).1
  obtain ⟨c, hc, rfl⟩ := job_lost hsound hstx hpre hpost
  refine ⟨x, by simp, c, ?_⟩
  cases hending : c.ending with
  | failed reason => exact ⟨reason, hc, rfl, rfl⟩
  | succeeded value =>
      -- It would be gone for good.
      have hrunx : Owner.Run (before ++ [v] ++ mid₁) x.pre :=
        ⟨o₀, hinit, (hbefore.snoc hst₁).append hmid₁⟩
      have hsettled := closed_settled hrunx hstx hc
      rw [hending] at hsettled
      obtain ⟨entry, -, hentry, -⟩ := hpre.lease hsound
      have hlt : c.token < x.pre.supply :=
        hsound.token (c.token, entry.backendToken) (mem_books.mpr ⟨entry, hentry, rfl⟩)
      have hgone := gone_stays (hsound.step hstx).1 (hmid₂.snoc hst₂)
        (Nat.lt_of_lt_of_le hlt hstx.supply_le) hsettled
      obtain ⟨entry', -, hentry', -⟩ := hagain.lease (hrun₂.sound.step hst₂).1
      rw [hgone] at hentry'
      cases hentry'

/-- **Retry timers.**  A timer is armed exactly for each failed lease the policy
retries, and no lease has two of a queued job, a running job and a timer.  A
timer message that is not of the armed timer changes nothing, and so does the
message of a timer that was armed once and is not any more.  Every release that
was started was queued, once, and between two of one lease it failed. -/
theorem retry_timers (h : Owner.Run visits o) :
    (∀ token, (∃ timer, o.state.retryTimers.fetch token = some timer) ↔
      ∃ entry reason, o.state.leases.fetch token = some entry ∧
        entry.status = .releaseFailed reason ∧
        ∃ initialMs maxMs maxAttempts,
          o.state.releaseRetry = .exponential initialMs maxMs maxAttempts ∧
            ∀ n, maxAttempts = some n → entry.releaseAttempts < n) ∧
    (o.state.releaseJob.toList.map (·.token) ++ o.state.releaseQueue.map (·.token) ++
      o.state.retryTimers.keys).Nodup ∧
    (∀ env token generation,
      (∀ timer, o.state.retryTimers.fetch token = some timer → timer.generation ≠ generation) →
      outcome o.state ⟨env, .info (.retryRelease token generation)⟩ =
        .noreply { o.state with sent := [] }) ∧
    (∀ v ∈ visits, ∀ token timer, v.post.state.retryTimers.fetch token = some timer →
      o.state.retryTimers.fetch token ≠ some timer → ∀ env,
        outcome o.state ⟨env, .info (.retryRelease token timer.generation)⟩ =
          .noreply { o.state with sent := [] }) ∧
    (visits.flatMap executedIn).map Prod.snd ++ (serialQueue o.state).waiting =
      visits.flatMap enqueuedIn ∧
    ((visits.flatMap enqueuedIn).map fun job => (job.1, job.2.1)).Nodup ∧
    ∀ before v mid w after, visits = before ++ v :: (mid ++ w :: after) →
      ∀ token, token ∈ (enqueuedIn v).map Prod.fst → token ∈ (enqueuedIn w).map Prod.fst →
        ∃ x ∈ mid, ∃ c reason, closedIn x = some c ∧ c.token = token ∧
          c.ending = .failed reason := by
  obtain ⟨L, deeds, -, hqueue, htrace, hc⟩ := h.chronicle
  refine ⟨fun token => ?_, jobs_and_timers_nodup h.sound.coupled h.roster, ?_, ?_, ?_,
    (enqueued_nodup h).1, ?_⟩
  · refine (h.roster.timers token).trans ?_
    simp only [RetryPolicy.retries_iff]
    rfl
  · intro env token generation hstale
    exact stale_timer o.state hstale
  · intro v hv token timer harmed hgone env
    exact disarmed_timer h hv harmed hgone
  · have hfifo := Ledger.fifo htrace
    rwa [hqueue, hc.executed, hc.enqueued, List.nil_append] at hfifo
  · intro before v mid w after hvisits token hv hw
    exact failed_between h hvisits hv hw

/-- The options of a test with one retry. -/
def retryOptions : Options := { sampleOptions with releaseRetry := some (none, none, some 2) }

/-- The release of the sample owner's token fails, and its timer fires. -/
def retryInputs : List Input :=
  sampleInputs.take 3 ++
    [⟨.plain 36, .info (.releaseResult 8 20 31 (.error (.atom .nil)) 5)⟩,
      ⟨.plain 45, .info (.retryRelease 20 41)⟩]

/-- The first inputs of the sample, handled by a new owner. -/
def retryRun (n : Nat) : Option (List (Visit Owner Input) × Owner) :=
  Owner.perform (.plain 0) 1001 retryOptions (retryInputs.take n)

theorem retryRun_run {n : Nat} (h : (retryRun n).isSome = true) :
    Owner.Run ((retryRun n).get h).1 ((retryRun n).get h).2 := Owner.perform_run h

/-- The timer that fired is not armed any more, and its message is stale. -/
theorem retry_timers_sample : ∃ visits o, Owner.Run visits o ∧
    (visits.flatMap enqueuedIn).map (fun job => (job.1, job.2.1)) = [(20, 31), (20, 49)] ∧
    ∀ env, outcome o.state ⟨env, .info (.retryRelease 20 41)⟩ =
      .noreply { o.state with sent := [] } := by
  have hrun := retryRun_run (n := 5) rfl
  refine ⟨_, _, hrun, rfl, fun env => ?_⟩
  exact (retry_timers hrun).2.2.1 env 20 41 (by decide)

end VideoInterop.LeaseOwner
