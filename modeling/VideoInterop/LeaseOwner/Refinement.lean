import VideoInterop.LeaseOwner.Ledger

/-!
# The callbacks keep the ledger

Every callback that leaves the owner alive is a list of deeds of the ledger.
The list says what the callback did in the terms of the messages: the token a
commit brought is accepted, the attempt a result ended is closed, and the
execute messages sent are the attempts started.
-/

namespace VideoInterop.LeaseOwner

variable {env : Env} {s s' s'' : State} {deeds deeds' : List Deed}

/-- The attempt an execute message starts. -/
def Signal.execution : Signal → Option (Pid × Ref × Attempt)
  | .executeRelease executor token generation backendToken =>
      some (executor, token, generation, backendToken)
  | _ => none

theorem Silent.execution {a b : List Signal} (h : Silent a b) :
    b.filterMap Signal.execution = a.filterMap Signal.execution := by
  refine h.filterMap_eq fun signal hq => ?_
  cases signal with
  | executeRelease => cases hq
  | _ => rfl

/-- The deeds lead from one state's ledger to the other's, their attempts were
sent to the executor, and what they queue is of this callback. -/
structure Posts (env : Env) (s : State) (deeds : List Deed) (s' : State) : Prop where
  /-- The deeds lead from one ledger to the other. -/
  trace : Trace Ledger.Step s.ledger deeds s'.ledger
  /-- What was sent to executors is what they execute. -/
  executed : s'.sent.filterMap Signal.execution =
    s.sent.filterMap Signal.execution ++ deeds.filterMap Deed.executed
  /-- A new attempt has the generation of this callback. -/
  enqueued : ∀ job ∈ deeds.filterMap Deed.enqueued, job.2.1 = env.generation

/-- Deeds that neither accept a token nor end an attempt. -/
def Tame (deeds : List Deed) : Prop :=
  deeds.filterMap Deed.accepted = [] ∧ deeds.filterMap Deed.closed = []

/-- What a callback does to the ledger. -/
structure Accounts (env : Env) (s : State) (event : Event) (deeds : List Deed) (s' : State) :
    Prop where
  /-- The deeds are those of the callback. -/
  posts : Posts env s deeds s'
  /-- They accept what the event has accepted. -/
  accepted : deeds.filterMap Deed.accepted = (acceptedBy env s event).toList
  /-- They close what the event has ended. -/
  closed : deeds.filterMap Deed.closed = (endedBy s event).toList

/-! ## Composing deeds -/

theorem Tame.nil : Tame [] := ⟨rfl, rfl⟩

theorem Tame.append (h : Tame deeds) (h' : Tame deeds') : Tame (deeds ++ deeds') := by
  refine ⟨?_, ?_⟩
  · rw [List.filterMap_append, h.1, h'.1, List.nil_append]
  · rw [List.filterMap_append, h.2, h'.2, List.nil_append]

theorem Posts.append (h : Posts env s deeds s') (h' : Posts env s' deeds' s'') :
    Posts env s (deeds ++ deeds') s'' := by
  refine ⟨h.trace.append h'.trace, ?_, fun job hjob => ?_⟩
  · rw [h'.executed, h.executed, List.filterMap_append, List.append_assoc]
  · rw [List.filterMap_append, List.mem_append] at hjob
    exact hjob.elim (h.enqueued job) (h'.enqueued job)

/-- No deed, and no execute message. -/
theorem Posts.none (hledger : s'.ledger = s.ledger)
    (hsent : s'.sent.filterMap Signal.execution = s.sent.filterMap Signal.execution) :
    Posts env s [] s' := by
  refine ⟨?_, by simpa using hsent, by simp⟩
  rw [hledger]
  exact .nil

/-- A step before the deeds that the ledger does not see. -/
theorem Posts.before {s₀ : State} (h : Posts env s₀ deeds s') (hledger : s₀.ledger = s.ledger)
    (hsent : s₀.sent.filterMap Signal.execution = s.sent.filterMap Signal.execution) :
    Posts env s deeds s' :=
  (Posts.none hledger hsent).append h

/-- One deed that sends no execute message and queues nothing. -/
theorem Posts.one {deed : Deed} (hst : Ledger.Step s.ledger deed s'.ledger)
    (hsent : s'.sent.filterMap Signal.execution = s.sent.filterMap Signal.execution)
    (hexecuted : deed.executed = .none) (henqueued : deed.enqueued = .none) :
    Posts env s [deed] s' :=
  ⟨.single hst, by simp [hsent, hexecuted], by simp [henqueued]⟩

/-! ## Releases -/

theorem dispatch_posts (h : Mirrors s.leases (serialQueue s))
    (hdispatch : dispatchNextRelease env s = some s') :
    ∃ deeds, Posts env s deeds s' ∧ Tame deeds := by
  rcases dispatchNextRelease_cases hdispatch with
    ⟨rfl, -⟩ | ⟨job, rest, entry, hjob, hqueue, hentry, rfl⟩
  · exact ⟨[], .none rfl rfl, .nil⟩
  · have hline : (serialQueue s).waiting = job.attempted :: rest.map Job.attempted := by
      rw [serialQueue, hqueue]
      rfl
    have hidle : (serialQueue s).running = none := by simp [serialQueue, hjob]
    obtain ⟨hstatus, htoken⟩ := h.front hline hentry
    have hholders : entry.holders = ∅ := h.no_holders hentry (by simp [hstatus])
    refine ⟨[.execute s.releaseExecutor job.token (job.generation, job.backendToken)],
      ⟨.single ?_, ?_, by simp [Deed.enqueued]⟩, rfl, rfl⟩
    · exact Ledger.Step.execute (L := s.ledger) hidle hline hentry hholders htoken
    · rw [List.filterMap_append]
      rfl

theorem releaseEntry_posts {token : Ref} {entry₀ entry : Entry} {isRetry : Bool}
    {waiter : Option Waiter} (hrelease : releaseEntry env token entry s isRetry waiter = some s')
    (h : MirrorsExcept token s.leases (serialQueue s))
    (hentry : s.leases.fetch token = some entry₀)
    (hstatus : entry₀.status = .active ∨ ∃ reason, entry₀.status = .releaseFailed reason)
    (hholders : entry.holders = ∅) (htoken : entry.backendToken = entry₀.backendToken) :
    ∃ deeds, Posts env s deeds s' ∧ Tame deeds := by
  obtain ⟨sent, hsent, heq⟩ := releaseEntry_eq env token entry s isRetry waiter
  rw [heq] at hrelease
  have hq : serialQueue (s.enqueueRelease env token entry isRetry waiter sent) =
      (serialQueue s).enqueue token (env.generation, entry₀.backendToken) := by
    rw [serialQueue_enqueueRelease, htoken]
  have hmirrors := h.enqueueRelease env hholders isRetry waiter sent
  have hstep : Ledger.Step s.ledger (.enqueue token (env.generation, entry₀.backendToken))
      (s.enqueueRelease env token entry isRetry waiter sent).ledger := by
    have hledger : (s.enqueueRelease env token entry isRetry waiter sent).ledger =
        { s.ledger with
          leases := s.leases.put token (entry.queued env.generation)
          queue := (serialQueue s).enqueue token (env.generation, entry₀.backendToken) } := by
      rw [← hq]
      rfl
    rw [hledger]
    exact .enqueue hentry hstatus hholders htoken rfl
  obtain ⟨deeds, hposts, htame⟩ := dispatch_posts hmirrors hrelease
  refine ⟨[_] ++ deeds, Posts.append ⟨.single hstep, ?_, ?_⟩ hposts, .append ⟨rfl, rfl⟩ htame⟩
  · exact hsent.execution.trans (List.append_nil _).symm
  · simp [Deed.enqueued]

/-- Removing a holder of an active lease. -/
theorem removeHolder_posts {token holder : Ref} {entry₀ entry : Entry}
    (hlive : (removeHolder env token holder entry s).live? = some s') (h : Coupled s)
    (hentry : s.leases.fetch token = some entry₀) (hactive₀ : entry₀.status = .active)
    (hactive : entry.status = .active) (hholders : entry.holders = entry₀.holders)
    (htoken : entry.backendToken = entry₀.backendToken) :
    ∃ deeds, Posts env s deeds s' ∧ Tame deeds := by
  have hexcept := h.mirrors.except_active hentry hactive₀
  unfold removeHolder at hlive
  split at hlive
  · simp only at hlive
    split at hlive
    · next hlast =>
        split at hlive
        · next s₁ hs₁ =>
            obtain rfl := stopOrContinue_live hlive
            obtain ⟨deeds, hposts, htame⟩ := releaseEntry_posts hs₁ hexcept hentry (.inl hactive₀)
              (Finset.card_eq_zero.mp hlast) htoken
            exact ⟨deeds, hposts.before rfl rfl, htame⟩
        · cases hlive
    · cases hlive
      refine ⟨[.amend token], .one ?_ rfl rfl rfl, rfl, rfl⟩
      refine .amend (L := s.ledger) hentry hactive₀ ?_ htoken hactive
      exact (Finset.erase_subset _ _).trans hholders.subset
  · cases hlive
    exact ⟨[], .none rfl rfl, .nil⟩

/-! ## Results -/

theorem finishOk_posts {token : Ref} {entry : Entry} {job : RunningJob} {value : Term}
    {durationNs : Nat} (hentry : s.leases.fetch token = some entry) {attempt : Attempt}
    (hrun : (serialQueue s).running = some (token, attempt))
    (hstatus : entry.status = .releasing attempt.1) (htoken : entry.backendToken = attempt.2) :
    Posts env s
      [.close ⟨s.releaseExecutor, token, attempt.1, attempt.2, .succeeded value⟩]
      (finishOk token entry job value durationNs (countFinished job durationNs s)) := by
  obtain ⟨counters, hcount⟩ := countFinished_eq job durationNs s
  obtain ⟨sent, hsent, heq⟩ := finishOk_eq token entry job value durationNs
    { s with releaseJob := none, counters := counters }
  rw [hcount, heq]
  exact .one (.succeed (L := s.ledger) hrun hentry hstatus htoken) hsent.execution rfl rfl

theorem finishError_posts {token : Ref} {entry : Entry} {job : RunningJob} {reason : ReleaseError}
    {durationNs : Nat} (hentry : s.leases.fetch token = some entry) {attempt : Attempt}
    (hrun : (serialQueue s).running = some (token, attempt))
    (hstatus : entry.status = .releasing attempt.1) (htoken : entry.backendToken = attempt.2) :
    Posts env s
      [.close ⟨s.releaseExecutor, token, attempt.1, attempt.2, .failed reason⟩]
      (finishError env token entry job reason (countFinished job durationNs s)) := by
  obtain ⟨counters, hcount⟩ := countFinished_eq job durationNs s
  obtain ⟨counters', timers, waiters, monitors, sent, hsent, heq⟩ := finishError_eq env token entry
    job reason { s with releaseJob := none, counters := counters }
  rw [hcount, heq]
  exact .one (.fail (L := s.ledger) hrun hentry hstatus htoken) hsent.execution rfl rfl

/-- The executor died while it worked on a job: the job failed and a new executor
is at work. -/
theorem executorLost_posts {token : Ref} {entry : Entry} {job : RunningJob} {reason : ReleaseError}
    {durationNs : Nat} (hentry : s.leases.fetch token = some entry) {attempt : Attempt}
    (hrun : (serialQueue s).running = some (token, attempt))
    (hstatus : entry.status = .releasing attempt.1) (htoken : entry.backendToken = attempt.2) :
    Posts env s
      [.close ⟨s.releaseExecutor, token, attempt.1, attempt.2, .failed reason⟩,
        .replace env.executor]
      (finishError env token entry job reason (countFinished job durationNs
        (startReleaseExecutor env (bump [.releaseExecutorRestarts] s)))) := by
  obtain ⟨counters, hcount⟩ := countFinished_eq job durationNs
    (startReleaseExecutor env (bump [.releaseExecutorRestarts] s))
  obtain ⟨counters', timers, waiters, monitors, sent, hsent, heq⟩ := finishError_eq env token entry
    job reason { startReleaseExecutor env (bump [.releaseExecutorRestarts] s) with
      releaseJob := none, counters := counters }
  rw [hcount, heq]
  refine ⟨.cons (.fail (L := s.ledger) hrun hentry hstatus htoken) (.single ?_), ?_, ?_⟩
  · exact .replace rfl
  · have hspawn : (s.sent ++ [Signal.spawnExecutor env.executor env.executorMonitor]).filterMap
        Signal.execution = s.sent.filterMap Signal.execution := by
      simp [Signal.execution]
    exact (hsent.execution.trans hspawn).trans (List.append_nil _).symm
  · simp [Deed.enqueued]

/-! ## Every callback -/

/-- The deeds of a callback that accepts no token and ends no attempt. -/
theorem Accounts.tame {event : Event} (hplain : Plain env s event) (h : Posts env s deeds s')
    (htame : Tame deeds) : Accounts env s event deeds s' :=
  ⟨h, by rw [htame.1, hplain.1]; rfl, by rw [htame.2, hplain.2]; rfl⟩

theorem open_of_not_draining {mode : Mode} (h : mode ≠ .draining) : mode = .open := by
  cases mode with
  | «open» => rfl
  | draining => exact absurd rfl h

theorem capacityAvailable?_spec : capacityAvailable? s = true ↔
    ∀ n, s.maxActive = some n → s.leases.size + s.issueReservations.size < n := by
  unfold capacityAvailable?
  cases s.maxActive with
  | none => simp
  | some n => simp

theorem closing_some {token generation : Ref} {result : Finish} {c : Closing}
    (h : closing s token generation result = some c) :
    ∃ job entry, s.releaseJob = some job ∧ job.token = token ∧ job.generation = generation ∧
      s.leases.fetch token = some entry ∧ entry.status = .releasing generation ∧
      ∃ ending, result.ending = some ending ∧
        c = ⟨s.releaseExecutor, token, generation, entry.backendToken, ending⟩ := by
  unfold closing at h
  split at h
  · next job entry hjob hentry =>
      split at h
      · next hmatch =>
          obtain ⟨ending, hending, rfl⟩ := Option.map_eq_some_iff.mp h
          exact ⟨job, entry, hjob, hmatch.1, hmatch.2.1, hentry, Status.releasing?_eq hmatch.2.2,
            ending, hending, rfl⟩
      · cases h
  · cases h

/-- An attempt that ends is the running one. -/
theorem endedBy_running {event : Event} {c : Closing} (h : endedBy s event = some c) :
    ∃ job entry, s.releaseJob = some job ∧ job.token = c.token ∧ job.generation = c.generation ∧
      s.leases.fetch c.token = some entry ∧ entry.status = .releasing c.generation ∧
      entry.backendToken = c.backendToken ∧ s.releaseExecutor = c.executor := by
  unfold endedBy at h
  split at h
  · split at h
    · obtain ⟨job, entry, hjob, htoken, hgeneration, hentry, hstatus, ending, -, rfl⟩ :=
        closing_some h
      exact ⟨job, entry, hjob, htoken, hgeneration, hentry, hstatus, rfl, rfl⟩
    · cases h
  · split at h
    · obtain ⟨job', hjob', h⟩ := Option.bind_eq_some_iff.mp h
      obtain ⟨job, entry, hjob, htoken, hgeneration, hentry, hstatus, ending, -, rfl⟩ :=
        closing_some h
      exact ⟨job, entry, hjob, htoken, hgeneration, hentry, hstatus, rfl, rfl⟩
    · cases h
  · cases h

/-- It ends by a result of its executor or by the death of that. -/
theorem endedBy_event {event : Event} {c : Closing} (h : endedBy s event = some c) :
    (∃ result durationNs, result.finish.ending = some c.ending ∧
        event = .info (.releaseResult s.releaseExecutor c.token c.generation result durationNs)) ∨
      ∃ reason, c.ending = .failed (.releaseExecutorDown reason) ∧
        event = .info (.down (some s.releaseExecutorMonitor) reason) := by
  unfold endedBy at h
  split at h
  · next executor token generation result durationNs =>
      split at h
      · next hexecutor =>
          obtain ⟨job, entry, -, -, -, -, -, ending, hending, rfl⟩ := closing_some h
          exact .inl ⟨result, durationNs, hending, by rw [hexecutor]⟩
      · cases h
  · next monitorRef reason =>
      split at h
      · next hm =>
          obtain ⟨job', hjob', h⟩ := Option.bind_eq_some_iff.mp h
          obtain ⟨job, entry, -, -, -, -, -, ending, hending, rfl⟩ := closing_some h
          cases hending
          exact .inr ⟨reason, rfl, by rw [hm.2]⟩
      · cases h
  · cases h

theorem removeIssueReservation_posts (env : Env) (requestRef : Ref) (s : State) (demonitor : Bool) :
    ∃ deeds, Posts env s deeds (removeIssueReservation requestRef s demonitor) ∧ Tame deeds := by
  unfold removeIssueReservation
  split
  · refine ⟨[.vacate requestRef], .one ?_ ?_ rfl rfl, rfl, rfl⟩
    · cases demonitor <;> exact .vacate (L := s.ledger)
    · cases demonitor <;> simp [State.send, Signal.execution]
  · exact ⟨[], .none rfl rfl, .nil⟩

theorem endedBy_result {job : RunningJob} {entry : Entry} {result : CallbackResult}
    {durationNs : Nat} (hjob : s.releaseJob = some job)
    (hentry : s.leases.fetch job.token = some entry)
    (hstatus : entry.status = .releasing job.generation) :
    endedBy s (.info
      (.releaseResult s.releaseExecutor job.token job.generation result durationNs)) =
      result.finish.ending.map
        (Closing.mk s.releaseExecutor job.token job.generation entry.backendToken) := by
  simp [endedBy, closing, hjob, hentry, hstatus, Status.releasing?]

theorem endedBy_down {job : RunningJob} {entry : Entry} {reason : Term}
    (hproducer : some s.releaseExecutorMonitor ≠ s.producerMonitor) (hjob : s.releaseJob = some job)
    (hentry : s.leases.fetch job.token = some entry)
    (hstatus : entry.status = .releasing job.generation) :
    endedBy s (.info (.down (some s.releaseExecutorMonitor) reason)) =
      some ⟨s.releaseExecutor, job.token, job.generation, entry.backendToken,
        .failed (.releaseExecutorDown reason)⟩ := by
  simp [endedBy, closing, hproducer, hjob, hentry, hstatus, Status.releasing?, Finish.ending]

/-- **A living owner's callback is a list of deeds.** -/
theorem Transition.accounts {event : Event} {out : Outcome} (h : Coupled s)
    (hfresh : s.leases.fetch env.token = none) (ht : Transition env s event out)
    (hlive : out.live? = some s') : ∃ deeds, Accounts env s event deeds s' := by
  cases ht with
  | raise => cases hlive
  | quiet hplain keys _ hsent hout =>
      rw [hlive] at hout
      cases hout
      exact ⟨[], .tame hplain (.none rfl hsent.execution) .nil⟩
  | @reserve metadata replyTo requestRef hmode hcapacity =>
      cases hlive
      refine ⟨[.reserve requestRef], .tame ⟨rfl, rfl⟩ (.one (.reserve ?_ ?_) ?_ rfl rfl) ⟨rfl, rfl⟩⟩
      · exact open_of_not_draining hmode
      · exact capacityAvailable?_spec.mp hcapacity
      · simp [State.reserved, Signal.execution]
  | @issue reservation backendToken replyTo requestRef r guard out hr hreservation hreply _ hout =>
      rw [hlive] at hout
      cases hout
      have haccepted : acceptedBy env s
          (.info (.commitIssue reservation backendToken replyTo requestRef)) =
            some (env.token, backendToken) := by
        simp [acceptedBy, hr, hreservation, hreply]
      refine ⟨[.accept requestRef env.token backendToken], .one ?_ ?_ rfl rfl, ?_, rfl⟩
      · have hactive :
            (issuedEntry env backendToken r.metadata requestRef r.monitorRef).status =
              .active := rfl
        exact .accept (L := s.ledger) hr hfresh hactive
      · simp [State.issued, State.consumed, bump, Signal.execution]
      · rw [haccepted]
        rfl
  | @reject reservation backendToken replyTo requestRef r reason s' hr hreservation hreply _
      hrelease =>
      cases hlive
      have haccepted : acceptedBy env s
          (.info (.commitIssue reservation backendToken replyTo requestRef)) =
            some (env.token, backendToken) := by
        simp [acceptedBy, hr, hreservation, hreply]
      have hexcept : MirrorsExcept env.token
          (s.rejected env backendToken r.metadata requestRef r.monitorRef).leases
          (serialQueue (s.rejected env backendToken r.metadata requestRef r.monitorRef)) :=
        (h.mirrors.except (h.mirrors.jobless_of_none hfresh)).congr fun other hne => by
          simp [State.rejected, dropProtocolMonitor, State.send, State.consumed, hne]
      have hentry : (s.rejected env backendToken r.metadata requestRef r.monitorRef).leases.fetch
          env.token = some (rejectedEntry env backendToken r.metadata) := by simp [State.rejected]
      have hactive : (rejectedEntry env backendToken r.metadata).status = .active := rfl
      obtain ⟨deeds, hposts, htame⟩ := releaseEntry_posts hrelease hexcept hentry (.inl hactive) rfl
        rfl
      have haccept : Posts env s [.accept requestRef env.token backendToken]
          (s.rejected env backendToken r.metadata requestRef r.monitorRef) := by
        refine .one ?_ ?_ rfl rfl
        · exact .accept (L := s.ledger) hr hfresh hactive
        · simp [State.rejected, dropProtocolMonitor, State.send, State.consumed, Signal.execution]
      refine ⟨_, haccept.append hposts, ?_, ?_⟩
      · rw [haccepted, List.filterMap_append, htame.1]
        rfl
      · rw [List.filterMap_append, htame.2]
        rfl
  | corrupt _ => cases hlive
  | cancelReservation =>
      rw [stopOrContinue_live hlive]
      obtain ⟨deeds, hposts, htame⟩ := removeIssueReservation_posts env _ s true
      exact ⟨deeds, .tame ⟨rfl, rfl⟩ hposts htame⟩
  | reservationDown hplain _ _ =>
      rw [stopOrContinue_live hlive]
      obtain ⟨deeds, hposts, htame⟩ := removeIssueReservation_posts env _ (s.unwatched _) false
      exact ⟨deeds, .tame hplain (hposts.before rfl rfl) htame⟩
  | @confirmIssue token requestRef entry monitorRef sent hentry hactive _ hsent =>
      cases hlive
      refine ⟨[.amend token], .tame ⟨rfl, rfl⟩ (.one ?_ hsent.execution rfl rfl) ⟨rfl, rfl⟩⟩
      exact .amend (L := s.ledger) hentry hactive (Finset.Subset.refl _) rfl hactive
  | cancelIssue _ hentry hactive _ hsent hrelease =>
      rw [stopOrContinue_live hlive]
      obtain ⟨deeds, hposts, htame⟩ := releaseEntry_posts hrelease
        (h.mirrors.except_active hentry hactive) hentry (.inl hactive) rfl rfl
      exact ⟨deeds, .tame ⟨rfl, rfl⟩ (hposts.before rfl hsent.execution) htame⟩
  | issueDown hplain _ hentry hactive _ hsent hrelease =>
      rw [stopOrContinue_live hlive]
      obtain ⟨deeds, hposts, htame⟩ := releaseEntry_posts hrelease
        (h.mirrors.except_active hentry hactive) hentry (.inl hactive) rfl rfl
      exact ⟨deeds, .tame hplain (hposts.before rfl hsent.execution) htame⟩
  | @retain token parentHolder childHolder replyTo requestRef entry guard out hmode hentry hactive _
      _ _ hout =>
      rw [hlive] at hout
      cases hout
      refine ⟨[.hold token childHolder], .tame ⟨rfl, rfl⟩ (.one ?_ ?_ rfl rfl) ⟨rfl, rfl⟩⟩
      · exact .hold (L := s.ledger) (open_of_not_draining hmode) hentry hactive rfl rfl hactive
      · simp [State.retained, bump, Signal.execution]
  | @confirmRetain token childHolder requestRef entry monitorRef sent hentry hactive _ hsent =>
      cases hlive
      refine ⟨[.amend token], .tame ⟨rfl, rfl⟩ (.one ?_ hsent.execution rfl rfl) ⟨rfl, rfl⟩⟩
      exact .amend (L := s.ledger) hentry hactive (Finset.Subset.refl _) rfl hactive
  | cancelRetain hentry hactive _ hsent =>
      obtain ⟨deeds, hposts, htame⟩ := removeHolder_posts hlive (h.congr rfl rfl rfl) hentry hactive
        hactive rfl rfl
      exact ⟨deeds, .tame ⟨rfl, rfl⟩ (hposts.before rfl hsent.execution) htame⟩
  | retainDown hplain _ hentry hactive =>
      obtain ⟨deeds, hposts, htame⟩ := removeHolder_posts hlive (h.congr rfl rfl rfl) hentry hactive
        hactive rfl rfl
      exact ⟨deeds, .tame hplain (hposts.before rfl rfl) htame⟩
  | staleDown hplain _ _ =>
      cases hlive
      exact ⟨[], .tame hplain (.none rfl rfl) .nil⟩
  | @retire classification token holder entry sent s₁ _ hentry hactive _ hsent hput =>
      obtain ⟨tombstones, order, counters, rfl⟩ := putReleaseTombstone_frame hput
      obtain ⟨deeds, hposts, htame⟩ := removeHolder_posts hlive (h.congr rfl rfl rfl) hentry hactive
        hactive rfl rfl
      have hplain : Plain env s (.info (classification.message token holder)) := by
        cases classification <;> exact ⟨rfl, rfl⟩
      exact ⟨deeds, .tame hplain (hposts.before rfl hsent.execution) htame⟩
  | lateRelease _ =>
      cases hlive
      exact ⟨[], .tame ⟨rfl, rfl⟩ (.none rfl rfl) .nil⟩
  | drainFailed _ =>
      cases hlive
      obtain ⟨waiters, monitors, sent, hsent, heq⟩ := replyDrainWaiter_frame _ _ (s.waiting env _ _)
      rw [heq]
      refine ⟨[.drain], .tame ⟨rfl, rfl⟩ (.one .drain ?_ rfl rfl) ⟨rfl, rfl⟩⟩
      exact hsent.execution.trans (by simp [State.waiting, State.send, Signal.execution])
  | drainDone _ _ => cases hlive
  | drainWaits _ _ =>
      cases hlive
      refine ⟨[.drain], .tame ⟨rfl, rfl⟩ (.one .drain ?_ rfl rfl) ⟨rfl, rfl⟩⟩
      simp [State.waiting, State.send, Signal.execution]
  | dropWaiter hplain =>
      cases hlive
      obtain ⟨waiters, monitors, sent, hsent, heq⟩ := removeDrainWaiter_frame _ s
      rw [heq]
      exact ⟨[], .tame hplain (.none rfl hsent.execution) .nil⟩
  | finish hevent hexecutor hjob htoken hgeneration hentry hstatus hsettle hdispatch =>
      rw [stopOrContinue_live hlive]
      subst hevent hexecutor htoken hgeneration
      have hrun := serialQueue_running hjob
      have hbackend := h.mirrors.running_token hrun hentry
      rcases settle_cases hsettle with ⟨value, hresult, rfl⟩ | ⟨reason, hresult, rfl⟩
      · obtain ⟨deeds, hposts, htame⟩ := dispatch_posts (finishOk_mirrors h hrun) hdispatch
        refine ⟨_, (finishOk_posts hentry hrun hstatus hbackend).append hposts, ?_, ?_⟩
        · rw [List.filterMap_append, htame.1]
          rfl
        · rw [List.filterMap_append, htame.2, endedBy_result hjob hentry hstatus, hresult, hbackend]
          rfl
      · obtain ⟨deeds, hposts, htame⟩ :=
          dispatch_posts (finishError_mirrors h hentry hstatus hrun) hdispatch
        refine ⟨_, (finishError_posts hentry hrun hstatus hbackend).append hposts, ?_, ?_⟩
        · rw [List.filterMap_append, htame.1]
          rfl
        · rw [List.filterMap_append, htame.2, endedBy_result hjob hentry hstatus, hresult, hbackend]
          rfl
  | executorDown hproducer hm hjob hentry hstatus hdispatch =>
      rw [stopOrContinue_live hlive]
      subst hm
      have hrun := serialQueue_running hjob
      have hbackend := h.mirrors.running_token hrun hentry
      have h' : Coupled (startReleaseExecutor env (bump [.releaseExecutorRestarts] s)) :=
        h.congr rfl rfl rfl
      obtain ⟨deeds, hposts, htame⟩ := dispatch_posts
        (finishError_mirrors h' hentry hstatus (serialQueue_running hjob)) hdispatch
      refine ⟨_, (executorLost_posts hentry hrun hstatus hbackend).append hposts, ?_, ?_⟩
      · rw [List.filterMap_append, htame.1]
        rfl
      · rw [List.filterMap_append, htame.2, endedBy_down hproducer hjob hentry hstatus, hbackend]
        rfl
  | executorDownLost hproducer hm hjob hentry =>
      obtain ⟨entry, hfetch, hstatus, -⟩ :=
        ((h.mirrors.mirror _).releasing _).mp (serialQueue_running hjob)
      exact absurd hstatus (hentry entry hfetch)
  | executorDownIdle hproducer hm hjob hdispatch =>
      cases hlive
      subst hm
      have h' : Coupled (startReleaseExecutor env (bump [.releaseExecutorRestarts] s)) :=
        h.congr rfl rfl rfl
      obtain ⟨deeds, hposts, htame⟩ := dispatch_posts h'.mirrors hdispatch
      have hreplace : Posts env s [.replace env.executor]
          (startReleaseExecutor env (bump [.releaseExecutorRestarts] s)) := by
        refine .one ?_ ?_ rfl rfl
        · exact .replace (L := s.ledger) (by simp [State.ledger, serialQueue, hjob])
        · simp [startReleaseExecutor, bump, State.send, Signal.execution]
      exact ⟨_, .tame ⟨rfl, by simp [endedBy, hjob]⟩ (hreplace.append hposts)
        (.append ⟨rfl, rfl⟩ htame)⟩
  | retryCall hentry hfailed hrelease =>
      cases hlive
      obtain ⟨sent, hsent, heq⟩ := cancelRetryTimer_eq _ s
      rw [heq] at hrelease
      obtain ⟨deeds, hposts, htame⟩ := releaseEntry_posts hrelease
        (h.mirrors.except_failed hentry hfailed) hentry (.inr ⟨_, hfailed⟩)
        (h.mirrors.no_holders hentry (by simp [hfailed])) rfl
      exact ⟨deeds, .tame ⟨rfl, rfl⟩ (hposts.before rfl hsent.execution) htame⟩
  | retryRefused _ =>
      cases hlive
      obtain ⟨sent, hsent, heq⟩ := cancelRetryTimer_eq _ s
      rw [heq]
      exact ⟨[], .tame ⟨rfl, rfl⟩ (.none rfl hsent.execution) .nil⟩
  | retryTimer _ _ hentry hfailed hrelease =>
      cases hlive
      obtain ⟨deeds, hposts, htame⟩ := releaseEntry_posts hrelease
        (h.mirrors.except_failed hentry hfailed) hentry (.inr ⟨_, hfailed⟩)
        (h.mirrors.no_holders hentry (by simp [hfailed])) rfl
      exact ⟨deeds, .tame ⟨rfl, rfl⟩ (hposts.before rfl rfl) htame⟩
  | staleTimer _ _ _ =>
      cases hlive
      exact ⟨[], .tame ⟨rfl, rfl⟩ (.none rfl rfl) .nil⟩
  | close =>
      unfold handleClose at hlive
      simp only at hlive
      split at hlive
      · cases hlive
      · cases hlive
        exact ⟨[.drain], .tame ⟨rfl, rfl⟩ (.one .drain rfl rfl rfl) ⟨rfl, rfl⟩⟩
  | producerDown hevent =>
      unfold beginProducerDrain at hlive
      simp only at hlive
      split at hlive
      · cases hlive
      · cases hlive
        exact ⟨[.drain], .tame (plain_producer hevent) (.one .drain rfl rfl rfl) ⟨rfl, rfl⟩⟩

end VideoInterop.LeaseOwner
