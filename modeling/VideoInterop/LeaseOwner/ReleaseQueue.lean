import VideoInterop.LeaseOwner.Conservation
import VideoInterop.LeaseOwner.Drain

/-!
# The release executor

What the owner keeps in step with its executor: the leases with the queue, the
order of the jobs, one job at a time, and one end for each attempt, also when
the executor dies.
-/

namespace VideoInterop.LeaseOwner

variable {env : Env} {s s' : State} {o o' : Owner} {visits : List (Visit Owner Input)}

/-! ## Monitors of the producer and the executor -/

/-- The signals an owner takes for the end of its producer and of its executor. -/
structure Wiring where
  /-- The monitor of the producer. -/
  producerMonitor : Option Ref
  /-- The executor. -/
  executor : Pid
  /-- Its monitor. -/
  executorMonitor : Ref

/-- The wiring of an owner's state. -/
def State.wiring (s : State) : Wiring :=
  ⟨s.producerMonitor, s.releaseExecutor, s.releaseExecutorMonitor⟩

/-- The producer stays or is forgotten, the executor stays or is replaced. -/
inductive Rewired (env : Env) (w : Wiring) : Wiring → Prop where
  | same : Rewired env w w
  | orphaned : Rewired env w { w with producerMonitor := none }
  | replaced :
      Rewired env w { w with executor := env.executor, executorMonitor := env.executorMonitor }

theorem Rewired.of_eq {w w' : Wiring} (h : w' = w) : Rewired env w w' := h ▸ .same

theorem dispatch_wiring (h : dispatchNextRelease env s = some s') : s'.wiring = s.wiring := by
  obtain ⟨leases, queue, job, sent, rfl⟩ := dispatch_frame h
  rfl

theorem releaseEntry_wiring {token : Ref} {entry : Entry} {isRetry : Bool} {waiter : Option Waiter}
    (h : releaseEntry env token entry s isRetry waiter = some s') : s'.wiring = s.wiring := by
  obtain ⟨leases, queue, job, timers, sent, rfl⟩ := releaseEntry_frame h
  rfl

theorem removeHolder_wiring {token holder : Ref} {entry : Entry}
    (hlive : (removeHolder env token holder entry s).live? = some s') : s'.wiring = s.wiring := by
  unfold removeHolder at hlive
  split at hlive
  · simp only at hlive
    split at hlive
    · split at hlive
      · next s₁ hs₁ =>
          obtain rfl := stopOrContinue_live hlive
          rw [releaseEntry_wiring hs₁]
          rfl
      · cases hlive
    · cases hlive
      rfl
  · cases hlive
    rfl

theorem Transition.rewired {event : Event} {out : Outcome} (ht : Transition env s event out)
    (hlive : out.live? = some s') : Rewired env s.wiring s'.wiring := by
  cases ht with
  | raise => cases hlive
  | quiet _ _ _ _ hout => rw [hlive] at hout; cases hout; exact .same
  | reserve _ _ => cases hlive; exact .same
  | issue _ _ _ _ hout => rw [hlive] at hout; cases hout; exact .same
  | reject _ _ _ _ hrelease =>
      cases hlive
      refine .of_eq ((releaseEntry_wiring hrelease).trans ?_)
      simp only [State.wiring, State.rejected, State.consumed, dropProtocolMonitor, State.send]
  | corrupt _ => cases hlive
  | cancelReservation =>
      rw [stopOrContinue_live hlive]
      unfold removeIssueReservation
      split <;> exact .same
  | reservationDown _ _ _ =>
      rw [stopOrContinue_live hlive]
      unfold removeIssueReservation
      split <;> exact .same
  | confirmIssue _ _ _ _ => cases hlive; exact .same
  | cancelIssue _ _ _ _ _ hrelease =>
      rw [stopOrContinue_live hlive]
      refine .of_eq ((releaseEntry_wiring hrelease).trans ?_)
      simp only [State.wiring, State.revoked]
  | issueDown _ _ _ _ _ _ hrelease =>
      rw [stopOrContinue_live hlive]
      refine .of_eq ((releaseEntry_wiring hrelease).trans ?_)
      simp only [State.wiring, State.revoked, State.unwatched]
  | retain _ _ _ _ _ _ hout => rw [hlive] at hout; cases hout; exact .same
  | confirmRetain _ _ _ _ => cases hlive; exact .same
  | cancelRetain _ _ _ _ =>
      refine .of_eq ((removeHolder_wiring hlive).trans ?_)
      simp only [State.wiring, bump]
  | retainDown _ _ _ _ =>
      refine .of_eq ((removeHolder_wiring hlive).trans ?_)
      simp only [State.wiring, State.unwatched]
  | staleDown _ _ _ => cases hlive; exact .same
  | retire _ _ _ _ _ hput =>
      obtain ⟨tombstones, order, counters, rfl⟩ := putReleaseTombstone_frame hput
      refine .of_eq ((removeHolder_wiring hlive).trans ?_)
      simp only [State.wiring, bump]
  | lateRelease _ => cases hlive; exact .same
  | drainFailed _ =>
      cases hlive
      obtain ⟨waiters, monitors, sent, -, heq⟩ := replyDrainWaiter_frame _ _ (s.waiting env _ _)
      rw [heq]
      exact .same
  | drainDone _ _ => cases hlive
  | drainWaits _ _ => cases hlive; exact .same
  | dropWaiter _ =>
      cases hlive
      obtain ⟨waiters, monitors, sent, -, heq⟩ := removeDrainWaiter_frame _ s
      rw [heq]
      exact .same
  | finish _ _ _ _ _ _ _ hsettle hdispatch =>
      rw [stopOrContinue_live hlive]
      obtain ⟨counters, hcount⟩ := countFinished_eq _ _ s
      rcases settle_cases hsettle with ⟨value, -, rfl⟩ | ⟨reason, -, rfl⟩
      · obtain ⟨sent, -, heq⟩ := finishOk_eq _ _ _ value _ (countFinished _ _ s)
        rw [heq, hcount] at hdispatch
        refine .of_eq ((dispatch_wiring hdispatch).trans ?_)
        simp only [State.wiring]
      · obtain ⟨counters', timers, waiters, monitors, sent, -, heq⟩ :=
          finishError_eq env _ _ _ reason
          (countFinished _ _ s)
        rw [heq, hcount] at hdispatch
        refine .of_eq ((dispatch_wiring hdispatch).trans ?_)
        simp only [State.wiring]
  | executorDown _ _ _ _ _ hdispatch =>
      rw [stopOrContinue_live hlive]
      obtain ⟨counters, hcount⟩ := countFinished_eq _ _
        (startReleaseExecutor env (bump [.releaseExecutorRestarts] s))
      obtain ⟨counters', timers, waiters, monitors, sent, -, heq⟩ := finishError_eq env _ _ _
        (.releaseExecutorDown _) (countFinished _ _ _)
      rw [heq, hcount] at hdispatch
      rw [dispatch_wiring hdispatch]
      exact .replaced
  | executorDownLost _ _ _ _ => cases hlive; exact .replaced
  | executorDownIdle _ _ _ hdispatch =>
      cases hlive
      rw [dispatch_wiring hdispatch]
      exact .replaced
  | retryCall _ _ hrelease =>
      cases hlive
      obtain ⟨sent, -, heq⟩ := cancelRetryTimer_eq _ s
      rw [heq] at hrelease
      refine .of_eq ((releaseEntry_wiring hrelease).trans ?_)
      simp only [State.wiring]
  | retryRefused _ =>
      cases hlive
      obtain ⟨sent, -, heq⟩ := cancelRetryTimer_eq _ s
      rw [heq]
      exact .same
  | retryTimer _ _ _ _ hrelease =>
      cases hlive
      refine .of_eq ((releaseEntry_wiring hrelease).trans ?_)
      simp only [State.wiring]
  | staleTimer _ _ _ => cases hlive; exact .same
  | close =>
      unfold handleClose at hlive
      simp only at hlive
      split at hlive
      · cases hlive
      · cases hlive
        exact .same
  | producerDown _ =>
      unfold beginProducerDrain at hlive
      simp only at hlive
      split at hlive
      · cases hlive
      · cases hlive
        exact .orphaned

/-- The producer's monitor is not the executor's. -/
structure Wiring.Apart (n : Nat) (w : Wiring) : Prop where
  /-- The monitor of the executor was made before. -/
  executorMonitor : w.executorMonitor < n
  /-- The monitor of the producer was made before, and is another. -/
  producerMonitor : ∀ monitorRef, w.producerMonitor = some monitorRef →
    monitorRef < n ∧ monitorRef ≠ w.executorMonitor

theorem Wiring.Apart.step {i : Input} (h : o.state.wiring.Apart o.supply)
    (hst : Owner.Step o i o') : o'.state.wiring.Apart o'.supply := by
  have hrewired : Rewired i.env o.state.wiring o'.state.wiring :=
    (outcome_transition o.state i).rewired hst.live
  have hle := hst.supply_le
  have hmonitor := hst.made (k := 7) (by omega)
  generalize o'.state.wiring = w at hrewired
  cases hrewired with
  | same =>
      refine ⟨Nat.lt_of_lt_of_le h.executorMonitor hle, fun monitorRef hm => ?_⟩
      obtain ⟨hlt, hne⟩ := h.producerMonitor monitorRef hm
      exact ⟨Nat.lt_of_lt_of_le hlt hle, hne⟩
  | orphaned =>
      exact ⟨Nat.lt_of_lt_of_le h.executorMonitor hle, fun _ hm => by cases hm⟩
  | replaced =>
      refine ⟨hmonitor.2, fun monitorRef hm => ?_⟩
      obtain ⟨hlt, -⟩ := h.producerMonitor monitorRef hm
      exact ⟨Nat.lt_of_lt_of_le hlt hle, Nat.ne_of_lt (Nat.lt_of_lt_of_le hlt hmonitor.1)⟩

theorem Owner.Init.apart (h : Owner.Init o) : o.state.wiring.Apart o.supply := by
  obtain ⟨env, _, _, hinit, hsupply⟩ := h
  obtain ⟨-, hexecutor, hproducer⟩ := init_ok hinit
  refine ⟨?_, fun monitorRef hm => ?_⟩
  · rw [hsupply]
    exact hexecutor.trans_lt (Nat.add_lt_add_left (by omega) env.supply)
  · rw [hproducer monitorRef hm, hsupply]
    refine ⟨Nat.add_lt_add_left (by omega) env.supply, fun heq => ?_⟩
    have : env.supply + 1 = env.supply + 7 := heq.trans hexecutor
    omega

theorem Owner.Reachable.apart (h : Owner.Reachable o) : o.state.wiring.Apart o.supply :=
  h.invariant (fun _ hinit => hinit.apart) fun _ _ _ hw hst => hw.step hst

/-! ## What the leases say and what the queue says -/

/-- Statuses, holders, queue and job tell the same story. -/
structure Agree (s : State) : Prop where
  /-- A lease is active as long as it has a holder. -/
  active : ∀ token entry, s.leases.fetch token = some entry →
    (entry.status = .active ↔ entry.holders.Nonempty)
  /-- A lease is queued when the queue holds exactly one job for it. -/
  queued : ∀ token generation,
    (∃ entry, s.leases.fetch token = some entry ∧ entry.status = .releaseQueued generation) ↔
      s.releaseQueue.countP (fun job => job.token = token ∧ job.generation = generation) = 1
  /-- A releasing lease is the job. -/
  releasing : ∀ token generation,
    (∃ entry, s.leases.fetch token = some entry ∧ entry.status = .releasing generation) ↔
      ∃ job, s.releaseJob = some job ∧ job.token = token ∧ job.generation = generation
  /-- No token has two jobs, queued or running. -/
  single : ((s.releaseJob.toList.map RunningJob.toJob ++ s.releaseQueue).map Job.token).Nodup
  /-- Nothing waits while the executor is idle. -/
  idle : s.releaseJob = none → s.releaseQueue = []

theorem tokens_eq (s : State) :
    (s.releaseJob.toList.map RunningJob.toJob ++ s.releaseQueue).map Job.token =
      (serialQueue s).jobs.map Prod.fst := by
  cases hjob : s.releaseJob <;> simp [serialQueue, SerialQueue.jobs, hjob, Job.attempted]

/-- In a queue without two jobs for one token a job is there once or not at all. -/
theorem countP_eq_one {queue : List Job} (h : (queue.map Job.token).Nodup)
    (token generation : Ref) :
    queue.countP (fun job => job.token = token ∧ job.generation = generation) = 1 ↔
      ∃ job ∈ queue, job.token = token ∧ job.generation = generation := by
  have hle : queue.countP (fun job => job.token = token ∧ job.generation = generation) ≤ 1 := by
    refine Nat.le_trans ?_ (List.nodup_iff_count_le_one.mp h token)
    rw [List.count_eq_countP, List.countP_map]
    refine List.countP_mono_left fun job _ hjob => ?_
    simpa using (of_decide_eq_true hjob).1
  have hpos : 0 < queue.countP (fun job => job.token = token ∧ job.generation = generation) ↔
      ∃ job ∈ queue, job.token = token ∧ job.generation = generation := by
    simp [List.countP_pos_iff]
  rw [← hpos]
  omega

theorem Coupled.agree (h : Coupled s) : Agree s := by
  have hnodup :
    ((s.releaseJob.toList.map RunningJob.toJob ++ s.releaseQueue).map Job.token).Nodup := by
    rw [tokens_eq]
    exact h.mirrors.exclusive
  refine ⟨fun token => (h.mirrors.mirror token).active, fun token generation => ?_,
    fun token generation => ?_, hnodup, fun hjob => ?_⟩
  · rw [List.map_append] at hnodup
    rw [countP_eq_one (List.nodup_append.mp hnodup).2.1]
    constructor
    · rintro ⟨entry, hentry, hstatus⟩
      have hwait := ((h.mirrors.mirror token).queued (generation, entry.backendToken)).mpr
        ⟨entry, hentry, hstatus, rfl⟩
      obtain ⟨job, hjob, heq⟩ := List.mem_map.mp hwait
      obtain ⟨htoken, hattempt⟩ := Prod.mk.inj heq
      exact ⟨job, hjob, htoken, (Prod.mk.inj hattempt).1⟩
    · rintro ⟨job, hjob, rfl, rfl⟩
      obtain ⟨entry, hentry, hstatus, -⟩ :=
        ((h.mirrors.mirror job.token).queued (job.generation, job.backendToken)).mp
          (List.mem_map.mpr ⟨job, hjob, rfl⟩)
      exact ⟨entry, hentry, hstatus⟩
  · constructor
    · rintro ⟨entry, hentry, hstatus⟩
      have hrun := ((h.mirrors.mirror token).releasing (generation, entry.backendToken)).mpr
        ⟨entry, hentry, hstatus, rfl⟩
      obtain ⟨job, hjob, heq⟩ := Option.map_eq_some_iff.mp hrun
      obtain ⟨htoken, hattempt⟩ := Prod.mk.inj heq
      exact ⟨job, hjob, htoken, (Prod.mk.inj hattempt).1⟩
    · rintro ⟨job, hjob, rfl, rfl⟩
      obtain ⟨entry, hentry, hstatus, -⟩ :=
        ((h.mirrors.mirror job.token).releasing _).mp (serialQueue_running hjob)
      exact ⟨entry, hentry, hstatus⟩
  · simpa [serialQueue] using h.busy (by simp [serialQueue, hjob])

/-! ## The end of an attempt -/

/-- What the end of an attempt makes of its lease. -/
def Ending.Settled (ending : Ending) (token : Ref) (s : State) : Prop :=
  match ending with
  | .succeeded _ => s.leases.fetch token = none
  | .failed reason => ∃ entry, s.leases.fetch token = some entry ∧
    entry.status = .releaseFailed reason

/-- The queue's next job leaves a lease alone that is in no queue. -/
theorem dispatch_other (h : Mirrors s.leases (serialQueue s))
    (hdispatch : dispatchNextRelease env s = some s') (token : Ref)
    (hqueued : ∀ entry generation, s.leases.fetch token = some entry →
      entry.status ≠ .releaseQueued generation) :
    s'.leases.fetch token = s.leases.fetch token := by
  rcases dispatchNextRelease_cases hdispatch with
    ⟨rfl, -⟩ | ⟨job, rest, entry, hjob, hqueue, hentry, rfl⟩
  · rfl
  · have hline : (serialQueue s).waiting = job.attempted :: rest.map Job.attempted := by
      rw [serialQueue, hqueue]
      rfl
    have hne : token ≠ job.token := by
      rintro rfl
      exact hqueued entry job.generation hentry (h.front hline hentry).1
    simp [hne]

/-- The queue always has the lease of its next job. -/
theorem dispatch_some (env : Env) (h : Mirrors s.leases (serialQueue s)) :
    ∃ s', dispatchNextRelease env s = some s' := by
  unfold dispatchNextRelease
  split
  · next job rest hjob hqueue =>
      obtain ⟨entry, hentry, -⟩ := ((h.mirror job.token).queued _).mp
        (show job.attempted ∈ (serialQueue s).waiting by simp [serialQueue, hqueue])
      exact ⟨_, by rw [hentry]⟩
  · exact ⟨_, rfl⟩

/-- A dispatch by an idle owner starts the oldest job, if there is one. -/
theorem dispatch_pumps (hdispatch : dispatchNextRelease env s = some s')
    (hidle : s.releaseJob = none) :
    (serialQueue s').running = (serialQueue s).waiting.head? ∧
      (serialQueue s').waiting = (serialQueue s).waiting.tail ∧
      s'.sent.filterMap Signal.execution = s.sent.filterMap Signal.execution ++
        (serialQueue s).waiting.head?.toList.map fun job => (s.releaseExecutor, job) := by
  rcases dispatchNextRelease_cases hdispatch with
    ⟨rfl, hempty⟩ | ⟨job, rest, entry, hjob, hqueue, hentry, rfl⟩
  · simp [serialQueue, hidle, hempty hidle]
  · simp [serialQueue, hqueue, Signal.execution, Job.attempted]

/-- The running job ends by the result and the next one starts. -/
theorem finishReleaseJob_failed (env : Env) (reason : ReleaseError) (durationNs : Nat)
    {token generation : Ref} (h : Coupled s) {job : RunningJob}
    (hjob : s.releaseJob = some job) (htoken : job.token = token)
    (hgeneration : job.generation = generation) :
    ∃ s', (finishReleaseJob env token generation (.error reason) durationNs s).live? = some s' ∧
      s'.wiring = s.wiring ∧ (Ending.failed reason).Settled token s' ∧
      (serialQueue s').running = (serialQueue s).waiting.head? ∧
      (serialQueue s').waiting = (serialQueue s).waiting.tail ∧
      s'.sent.filterMap Signal.execution = s.sent.filterMap Signal.execution ++
        (serialQueue s).waiting.head?.toList.map fun job => (s.releaseExecutor, job) := by
  subst htoken hgeneration
  obtain ⟨entry, hentry, hstatus, -⟩ :=
    ((h.mirrors.mirror job.token).releasing _).mp (serialQueue_running hjob)
  have hmirrors : Mirrors
      (finishError env job.token entry job reason (countFinished job durationNs s)).leases
      (serialQueue (finishError env job.token entry job reason (countFinished job durationNs s))) :=
    finishError_mirrors h hentry hstatus (serialQueue_running hjob)
  obtain ⟨counters, hcount⟩ := countFinished_eq job durationNs s
  obtain ⟨counters', timers, waiters, monitors, sent, hsent, heq⟩ := finishError_eq env job.token
    entry job reason { s with releaseJob := none, counters := counters }
  rw [hcount, heq] at hmirrors
  obtain ⟨s', hdispatch⟩ := dispatch_some env hmirrors
  have hfailed := dispatch_other hmirrors hdispatch job.token fun e g he => by
    rw [FMap.fetch_put, if_pos rfl] at he
    cases he
    simp
  rw [FMap.fetch_put, if_pos rfl] at hfailed
  obtain ⟨hrunning, hwaiting, hexecuted⟩ := dispatch_pumps hdispatch rfl
  refine ⟨s', ?_, (dispatch_wiring hdispatch).trans ?_, ⟨_, hfailed, rfl⟩, hrunning, hwaiting, ?_⟩
  · have hbusy : ¬(s'.mode = .draining ∧ drained? s' = true) := by
      rintro ⟨-, hdrained⟩
      have hsize := (drained?_idle hdrained).1
      exact absurd hsize (Nat.ne_of_gt (FMap.size_pos_of_some hfailed))
    simp only [finishReleaseJob, hjob, hentry, hstatus, Status.releasing?, and_self, if_true,
      settle, hcount, heq, hdispatch, stopOrContinueAfterRelease, if_neg hbusy, Outcome.live?]
  · simp only [State.wiring]
  · rw [hexecuted]
    exact congrArg (· ++ _) hsent.execution

/-- **The executor may die at any moment**: its job fails, a new executor is
there, and the next job is with it. -/
theorem executor_down (env : Env) (h : Coupled s)
    (hproducer : some s.releaseExecutorMonitor ≠ s.producerMonitor) (reason : Term) :
    ∃ s', (handle env (.info (.down (some s.releaseExecutorMonitor) reason)) s).live? = some s' ∧
      s'.releaseExecutor = env.executor ∧
      (∀ job, s.releaseJob = some job →
        (Ending.failed (.releaseExecutorDown reason)).Settled job.token s') ∧
      (serialQueue s').running = (serialQueue s).waiting.head? ∧
      (serialQueue s').waiting = (serialQueue s).waiting.tail ∧
      s'.sent.filterMap Signal.execution = s.sent.filterMap Signal.execution ++
        (serialQueue s).waiting.head?.toList.map fun job => (env.executor, job) := by
  have h' : Coupled (startReleaseExecutor env (s.updateCounter .releaseExecutorRestarts 1)) :=
    h.congr rfl rfl rfl
  have hspawn :
    (startReleaseExecutor env (s.updateCounter .releaseExecutorRestarts 1)).sent.filterMap
      Signal.execution = s.sent.filterMap Signal.execution := by
    simp [startReleaseExecutor, State.send, State.updateCounter, Signal.execution]
  have hdown : handle env (.info (.down (some s.releaseExecutorMonitor) reason)) s =
      handleReleaseExecutorDown env reason s := by
    rw [handle, handleInfo, handleDown, if_neg hproducer]
    exact if_pos rfl
  rw [hdown, handleReleaseExecutorDown]
  cases hjob : s.releaseJob with
  | none =>
      have hidle : (startReleaseExecutor env
          (s.updateCounter .releaseExecutorRestarts 1)).releaseJob = none := hjob
      obtain ⟨s', hdispatch⟩ := dispatch_some env h'.mirrors
      obtain ⟨hrunning, hwaiting, hexecuted⟩ := dispatch_pumps hdispatch hidle
      simp only [hidle, hdispatch]
      rw [hspawn] at hexecuted
      exact ⟨s', rfl, congrArg Wiring.executor (dispatch_wiring hdispatch),
        fun _ hj => (by cases hj),
        hrunning, hwaiting, hexecuted⟩
  | some job =>
      have hrun : (startReleaseExecutor env
          (s.updateCounter .releaseExecutorRestarts 1)).releaseJob = some job := hjob
      obtain ⟨s', hlive, hwiring, hsettled, hrunning, hwaiting, hexecuted⟩ :=
        finishReleaseJob_failed env (.releaseExecutorDown reason) (releaseJobAgeNs env job).toNat
          h' hrun rfl rfl
      simp only [hrun]
      rw [hspawn] at hexecuted
      exact ⟨s', hlive, congrArg Wiring.executor hwiring, fun _ hj => (by cases hj; exact hsettled),
        hrunning, hwaiting, hexecuted⟩

/-- A result of another executor, generation or token is ignored or counted. -/
theorem stale_result {executor : Pid} {token generation : Ref} {result : CallbackResult}
    {durationNs : Nat}
    (hstale : ¬(executor = s.releaseExecutor ∧
      ∃ job, s.releaseJob = some job ∧ job.token = token ∧ job.generation = generation)) :
    (handle env (.info (.releaseResult executor token generation result durationNs)) s).live? =
      some s ∨
      (handle env (.info (.releaseResult executor token generation result durationNs)) s).live? =
        some (s.updateCounter .malformedMessages 1) := by
  rw [handle, handleInfo, handleReleaseResult]
  split
  · next hexecutor =>
      right
      unfold finishReleaseJob
      split
      · next job entry hjob hentry =>
          rw [if_neg fun hmatch => hstale ⟨hexecutor, job, hjob, hmatch.1, hmatch.2.1⟩]
          rfl
      · rfl
  · exact .inl rfl

theorem ending_error {result : CallbackResult} {reason : ReleaseError}
    (h : result.finish.ending = some (.failed reason)) :
    ∃ term, result = .error term ∧ reason = .callback term := by
  cases result with
  | ok value => cases h
  | error term => cases h; exact ⟨term, rfl, rfl⟩
  | invalid term => cases h

/-- The lease of an attempt that ended is gone or failed. -/
theorem closed_settled {i : Input} (h : Owner.Run visits o) (hst : Owner.Step o i o') {c : Closing}
    (hc : closedIn ⟨o, i, o'⟩ = some c) : c.ending.Settled c.token o'.state := by
  have hcoupled : Coupled { o.state with sent := [] } := h.sound.coupled.congr rfl rfl rfl
  obtain ⟨job, entry, hjob, htoken, hgeneration, -⟩ := endedBy_running hc
  obtain ⟨executor, token, generation, backendToken, ending⟩ := c
  cases ending with
  | succeeded value =>
      obtain ⟨o₀, hinit, hpath⟩ := h
      have hgone := (released_gone ⟨o₀, hinit, hpath.snoc hst⟩).2 (token, backendToken)
      refine hgone (List.mem_filterMap.mpr ⟨⟨o, i, o'⟩, by simp, ?_⟩)
      rw [releasedIn, hc]
      rfl
  | failed reason =>
      have hlive := hst.live
      rcases endedBy_event hc with ⟨result, durationNs, hresult, hevent⟩ | ⟨term, hfailed, hevent⟩
      · obtain ⟨term, rfl, rfl⟩ := ending_error hresult
        have hevent' : i.event = _ := hevent
        rw [outcome, hevent', handle, handleInfo, handleReleaseResult, if_pos rfl] at hlive
        obtain ⟨s', hlive', -, hsettled, -⟩ := finishReleaseJob_failed i.env
          (.callback term) durationNs hcoupled hjob htoken hgeneration
        rw [CallbackResult.finish, hlive'] at hlive
        cases hlive
        exact hsettled
      · cases hfailed
        have hevent' : i.event = _ := hevent
        have hapart : some o.state.releaseExecutorMonitor ≠ o.state.producerMonitor := fun heq =>
          ((Owner.Reachable.apart ⟨_, h⟩).producerMonitor _ heq.symm).2 rfl
        obtain ⟨s', hlive', -, hsettled, -⟩ := executor_down i.env hcoupled hapart term
        rw [outcome, hevent'] at hlive
        rw [hlive'] at hlive
        cases hlive
        exact htoken ▸ hsettled job hjob

/-- No attempt is queued twice. -/
theorem enqueued_nodup (h : Owner.Run visits o) :
    ((visits.flatMap enqueuedIn).map fun job => (job.1, job.2.1)).Nodup ∧
      ∀ job ∈ visits.flatMap enqueuedIn, job.2.1 < o.supply := by
  refine h.history (P := fun visits o =>
    ((visits.flatMap enqueuedIn).map fun job => (job.1, job.2.1)).Nodup ∧
      ∀ job ∈ visits.flatMap enqueuedIn, job.2.1 < o.supply) (fun _ _ => by simp) ?_
  intro visits o i o' hrun ih hst
  obtain ⟨hnodup, hlt⟩ := ih
  have hnew : ∀ job ∈ enqueuedIn ⟨o, i, o'⟩, job.2.1 = i.env.generation := fun job hjob =>
    of_decide_eq_true (List.mem_filter.mp hjob).2
  have hmade := hst.made (k := 4) (by omega)
  have hone : ((enqueuedIn ⟨o, i, o'⟩).map fun job => (job.1, job.2.1)).Nodup := by
    refine List.Nodup.of_map Prod.fst ?_
    rw [List.map_map]
    exact (hrun.sound.step hst).1.coupled.mirrors.exclusive.sublist
      (List.filter_sublist.map Prod.fst)
  rw [List.flatMap_append, List.flatMap_singleton, List.map_append, List.nodup_append]
  refine ⟨⟨hnodup, hone, fun a ha b hb => ?_⟩, fun job hjob => ?_⟩
  · obtain ⟨x, hx, rfl⟩ := List.mem_map.mp ha
    obtain ⟨y, hy, rfl⟩ := List.mem_map.mp hb
    intro heq
    have hgeneration := (Prod.mk.inj heq).2
    rw [hnew y hy] at hgeneration
    exact absurd hgeneration (Nat.ne_of_lt (Nat.lt_of_lt_of_le (hlt x hx) hmade.1))
  · rcases List.mem_append.mp hjob with hold | hjob
    · exact Nat.lt_of_lt_of_le (hlt job hold) hst.supply_le
    · rw [hnew job hjob]
      exact hmade.2

/-- **The leases, the queue and the executor stay in step.**  Attempts start in
the order in which they were queued; every attempt started has ended, once, but
the one in the hands of the present executor. -/
theorem release_executor_coupled (h : Owner.Run visits o) :
    Agree o.state ∧
    (visits.flatMap executedIn).map Prod.snd ++ (serialQueue o.state).waiting =
      visits.flatMap enqueuedIn ∧
    ((visits.flatMap enqueuedIn).map fun job => (job.1, job.2.1)).Nodup ∧
    (visits.filterMap closedIn).map Closing.attempt ++ o.state.ledger.outstanding =
      visits.flatMap executedIn ∧
    (∀ before v after, visits = before ++ v :: after → ∀ c, closedIn v = some c →
      c.ending.Settled c.token v.post.state ∧
      ((∃ result durationNs, result.finish.ending = some c.ending ∧
          v.input.event = .info (.releaseResult v.pre.state.releaseExecutor c.token c.generation
            result durationNs)) ∨
        ∃ reason, c.ending = .failed (.releaseExecutorDown reason) ∧
          v.input.event = .info (.down (some v.pre.state.releaseExecutorMonitor) reason))) ∧
    (∀ env reason, o.supply ≤ env.supply →
      ∃ o', Owner.Step o ⟨env, .info (.down (some o.state.releaseExecutorMonitor) reason)⟩ o' ∧
        o'.state.releaseExecutor = env.executor ∧
        (∀ job, o.state.releaseJob = some job →
          (Ending.failed (.releaseExecutorDown reason)).Settled job.token o'.state) ∧
        (serialQueue o'.state).running = (serialQueue o.state).waiting.head? ∧
        (serialQueue o'.state).waiting = (serialQueue o.state).waiting.tail ∧
        o'.state.sent.filterMap Signal.execution =
          (serialQueue o.state).waiting.head?.toList.map fun job => (env.executor, job)) ∧
    ∀ env executor token generation result durationNs,
      ¬(executor = o.state.releaseExecutor ∧
        ∃ job, o.state.releaseJob = some job ∧ job.token = token ∧ job.generation = generation) →
      ∀ out, out = outcome o.state
          ⟨env, .info (.releaseResult executor token generation result durationNs)⟩ →
        out.live? = some { o.state with sent := [] } ∨
          out.live? = some ({ o.state with sent := [] }.updateCounter .malformedMessages 1) := by
  obtain ⟨L, deeds, -, hqueue, htrace, hc⟩ := h.chronicle
  have hcoupled : Coupled { o.state with sent := [] } := h.sound.coupled.congr rfl rfl rfl
  refine ⟨h.sound.coupled.agree, ?_, (enqueued_nodup h).1, ?_, ?_, ?_, ?_⟩
  · have hfifo := Ledger.fifo htrace
    rwa [hqueue, hc.executed, hc.enqueued, List.nil_append] at hfifo
  · have hone := Ledger.one_at_a_time htrace
    rwa [hc.closed, hc.executed, Ledger.outstanding, Ledger.outstanding, hqueue] at hone
  · intro before v after hvisits c hclosed
    obtain ⟨o₀, hinit, hpath⟩ := hvisits ▸ h
    obtain ⟨hbefore, hst, -⟩ := hpath.split
    exact ⟨closed_settled ⟨o₀, hinit, hbefore⟩ hst hclosed, endedBy_event hclosed⟩
  · intro env reason hfresh
    have hapart : some o.state.releaseExecutorMonitor ≠ o.state.producerMonitor := fun heq =>
      ((Owner.Reachable.apart ⟨_, h⟩).producerMonitor _ heq.symm).2 rfl
    obtain ⟨s', hlive, hexecutor, hsettled, hrunning, hwaiting, hexecuted⟩ :=
      executor_down env hcoupled hapart reason
    exact ⟨⟨s', env.next⟩, ⟨hfresh, hlive, rfl⟩, hexecutor, hsettled, hrunning, hwaiting, hexecuted⟩
  · rintro env executor token generation result durationNs hstale _ rfl
    exact stale_result hstale

/-- The sample owner, with its job in the executor's hands. -/
theorem release_executor_coupled_sample : ∃ visits o, Owner.Run visits o ∧
    visits.flatMap executedIn = [(8, 20, 31, .integer 7)] ∧ Agree o.state :=
  have h : (sampleRun 3).isSome = true := rfl
  ⟨_, _, sampleRun_run h, rfl, (release_executor_coupled (sampleRun_run h)).1⟩

end VideoInterop.LeaseOwner
